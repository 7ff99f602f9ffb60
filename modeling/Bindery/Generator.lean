import Bindery.Config
import Bindery.Generator.C
import Bindery.Generator.Doxygen
import Bindery.Generator.Excel
import Bindery.Generator.Serialization
import Bindery.Generator.ValueObjects

/-! Generators: the pages of a platform, made from a registry. -/
namespace Bindery

/-- The pages of a platform. -/
structure Generator where
  platform : Platform
  kit : Generator.Kit
  pages : List Generator.Page

namespace Generator

/-- How the Excel addin registers classes where nothing is configured. -/
def Registration.standard (project : ProjectNames) : Registration where
  includeDir := Platform.excel.defaultRoot project.libRoot
  addinNamespace := Config.defaultExcelNamespace project.name

/-- How the Excel addin of a configuration registers classes. -/
def Registration.ofConfig (config : Config) : Registration where
  includeDir := config.platformRoot .excel
  addinNamespace := config.excelNamespace
  base := config.platforms.excel.serializationBase

/-- The templates that a platform comes with. -/
def templates : Platform → List (String × String)
  | .c => C.templates
  | .excel => Excel.templates ++ Registration.templates
  | .doxygen => Doxygen.templates
  | .serialization => Serialization.templates
  | .valueObjects => ValueObjects.templates

/-- The rules that a platform comes with. -/
def rules : Platform → Rule.Source
  | .c => C.rules
  | .excel => Excel.rules
  | .doxygen => Doxygen.rules
  | .serialization => Serialization.rules
  | .valueObjects => ValueObjects.rules

/-- The pages of a platform with some templates and rules. -/
def pagesOf (kit : Kit) (registration : Registration) (r : Registry) : Platform → List Page
  | .c => C.pages kit r
  | .excel => Excel.pages kit registration r
  | .doxygen => Doxygen.pages kit r
  | .serialization => Serialization.pages kit r
  | .valueObjects => ValueObjects.pages kit r

/-- The generator for a platform with some templates and rules. -/
def ofKit (kit : Kit) (registration : Registration) (r : Registry) (platform : Platform) :
    Generator := { platform, kit, pages := pagesOf kit registration r platform }

/-- The generator for a platform, with what a directory replaces. -/
def load (tree : FileTree) (stubs : Option String) (registration : Registration) (r : Registry)
    (platform : Platform) : Except Fault Generator := do
  let kit ← Kit.load tree stubs platform (templates platform) (rules platform)
  return ofKit kit registration r platform

/-- The copyright of a project. -/
def copyrightOf (g : Generator) (project : ProjectNames) : Except Fault String :=
  g.kit.render "copyright" [("project", project.name), ("namespace", project.namespaceObjects)]

/-- The paths and texts of all pages. -/
def preview (g : Generator) (banner : Banner) : Except Fault (List (String × String)) :=
  Page.preview banner g.pages

/-- Writes all pages into a directory. -/
def write (t : FileTree) (g : Generator) (dir : String) (banner : Banner) :
    FileTree × Except Fault Summary :=
  Page.writeAll t dir banner {} g.pages

end Generator
end Bindery
