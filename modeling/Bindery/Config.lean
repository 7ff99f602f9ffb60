import Bindery.Platform
import Bindery.Registry
import Bindery.Text.Identifier

/-! The configuration of a project.

What is configured may be left out; the functions of this module say what counts then. -/
namespace Bindery

namespace Config

/-- The names of a project. -/
structure Project where
  name : String
  namespaceObjects : Option String
  libRoot : Option String
  /-- Generated files open with the copyright of the project. -/
  copyright : Bool
deriving DecidableEq, Repr

/-- Where metadata is found. -/
structure Sources where
  categoriesDir : String := "metadata/Categories"
  enumerationsDir : String := "metadata/Enumerations"
  /-- The directory of the project's own templates and rules. -/
  stubsDir : Option String := none
  /-- The categories in order. -/
  categories : Option (List String) := none
deriving DecidableEq, Repr

/-- How files for a platform are generated. -/
structure Settings where
  /-- The directory of the files. -/
  root : Option String := none
  /-- Generated where no platform is asked for by name. -/
  enabled : Bool := true
deriving DecidableEq, Repr

/-- How files for Excel are generated. -/
structure ExcelSettings extends Settings where
  /-- The namespace of the addin's own code. -/
  addinNamespace : Option String := none
  /-- The namespace whose registrations come before the addin's own. -/
  serializationBase : Option String := none
deriving DecidableEq, Repr

/-- The settings of all platforms. -/
structure Platforms where
  c : Settings := {}
  excel : ExcelSettings := {}
  doxygen : Settings := {}
  serialization : Settings := {}
  valueObjects : Settings := {}
deriving DecidableEq, Repr

/-- The settings of a platform. -/
def Platforms.settings (p : Platforms) : Platform → Settings
  | .c => p.c
  | .excel => p.excel.toSettings
  | .doxygen => p.doxygen
  | .serialization => p.serialization
  | .valueObjects => p.valueObjects

end Config

/-- A configuration. -/
structure Config where
  project : Config.Project
  metadata : Config.Sources
  platforms : Config.Platforms
deriving DecidableEq, Repr

namespace Config

/-- The namespace of the generated object classes: the project's name unless another is given. -/
def namespaceObjects (c : Config) : String := c.project.namespaceObjects.getD c.project.name

/-- The directory of the library's sources: the project's name in snake case unless another is
given. -/
def libRoot (c : Config) : String := c.project.libRoot.getD (Text.snakeCase c.project.name)

/-- The directory of a platform's files. -/
def platformRoot (c : Config) (p : Platform) : String :=
  (c.platforms.settings p).root.getD (p.defaultRoot c.libRoot)

/-- The namespace of an Excel addin where none is given. -/
def defaultExcelNamespace (project : String) : String := project ++ "XL"

/-- The namespace of the Excel addin's own code. -/
def excelNamespace (c : Config) : String :=
  c.platforms.excel.addinNamespace.getD (defaultExcelNamespace c.project.name)

/-- The platforms that are generated unless others are asked for, in the order of generation. -/
def enabledPlatforms (c : Config) : List Platform :=
  Platform.all.filter fun p => (c.platforms.settings p).enabled

/-- The names of the project in generated code. -/
def names (c : Config) : ProjectNames :=
  { name := c.project.name, namespaceObjects := c.namespaceObjects, libRoot := c.libRoot }

end Config
end Bindery
