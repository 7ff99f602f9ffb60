import Bindery.Compilation
import Bindery.Config.Read
import Bindery.FileTree
import Bindery.Metadata.Read

/-! Projects: a configuration in a file, and what is found from there.

Configured paths start at the directory of the configuration. Categories come in the configured
order, or else in the order of their file names. -/
namespace Bindery

/-- A configuration and the file that it was read from. -/
structure Project where
  path : String
  content : String
  config : Config

namespace Project

/-- The text of a file that has to be there. -/
def readFile (t : FileTree) (path : String) : Except LoadError String :=
  match t.readText? path with
  | some content => .ok content
  | none => .error (.unreadable path)

/-- The project whose configuration is at a path. -/
def read (t : FileTree) (path : String) : Except LoadError Project := do
  let content ← readFile t path
  return { path, content, config := ← Config.parse content }

variable (p : Project)

/-- The directory of the configuration. -/
def baseDir : String :=
  match Path.parent? p.path with
  | some parent => if parent = "" then "." else parent
  | none => "."

/-- The path that a configured path stands for. -/
def resolve (path : String) : String := Path.join p.baseDir path

/-- The directory of a platform's files, below another directory if one is given. -/
def platformRoot (outputDir : Option String) (platform : Platform) : String :=
  Path.join (outputDir.getD p.baseDir) (p.config.platformRoot platform)

/-- The directory of the project's own templates and rules. -/
def stubsDir : Option String := p.config.metadata.stubsDir.map p.resolve

/-- The directories that a run reads from or writes to. -/
def directories (outputDir : Option String) : List String :=
  p.resolve p.config.metadata.categoriesDir
    :: p.resolve p.config.metadata.enumerationsDir
    :: p.stubsDir.toList
    ++ Platform.all.map (p.platformRoot outputDir)

/-! ### Metadata -/

/-- The extension of metadata files. -/
def metadataExtension : String := "xml"

/-- The paths of the metadata files in a directory, in the order of their names. -/
def metadataFiles (t : FileTree) (dir : String) : Except LoadError (List String) :=
  match t.names? dir with
  | none => .error (.unreadable dir)
  | some names =>
    let files := names.filter fun name =>
      t.isFile (Path.join dir name) && Path.extension? name = some metadataExtension
    .ok ((files.mergeSort fun a b => a ≤ b).map (Path.join dir))

/-- The paths of the files of the categories, in order. -/
def categoryFiles (t : FileTree) : Except LoadError (List String) :=
  let dir := p.resolve p.config.metadata.categoriesDir
  match p.config.metadata.categories with
  | some names => .ok (names.map fun name => Path.join dir (name ++ "." ++ metadataExtension))
  | none => metadataFiles t dir

/-- The paths of the files of enumerations, in order; there are none where the directory is not. -/
def enumerationFiles (t : FileTree) : Except LoadError (List String) :=
  let dir := p.resolve p.config.metadata.enumerationsDir
  if t.isDirectory dir then metadataFiles t dir else .ok []

/-- What a metadata file holds. -/
def readMetadataFile (t : FileTree) (parse : String → String → Except LoadError α) (path : String) :
    Except LoadError α := do
  parse (← readFile t path) path

/-- The metadata of a project. -/
def metadata (t : FileTree) : Except LoadError Metadata := do
  let categories ← (← p.categoryFiles t).mapM (readMetadataFile t Metadata.Category.parse)
  let enumerations ← (← p.enumerationFiles t).mapM (readMetadataFile t Metadata.parseEnumerations)
  return { categories, enumerations := enumerations.flatten }

/-- A compilation of metadata of the project. -/
def compilation (metadata : Metadata) : Compilation := { project := p.config.names, metadata }

end Project
end Bindery
