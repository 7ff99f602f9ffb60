import Bindery.Config
import Bindery.LoadError
import Bindery.Toml.Document

/-! Configurations from TOML.

The names in a configuration are checked once it is read: the project, its namespace, the namespace
of the Excel addin, then the categories in order, each of which comes once. -/
namespace Bindery.Config

open Toml (Record Value)

/-! ### Reading -/

/-- The table `project`. -/
def Project.ofValue (v : Value) : Option Project := do
  let r ← Record.of? ["name", "namespace_objects", "lib_root", "copyright"] 3 v
  some { name := ← r.required "name" Value.string?
         namespaceObjects := ← r.optional "namespace_objects" Value.string?
         libRoot := ← r.optional "lib_root" Value.string?
         copyright := ← r.defaulted "copyright" Value.boolean? false }

/-- The table `metadata`. -/
def Sources.ofValue (v : Value) : Option Sources := do
  let r ← Record.of? ["categories_dir", "enumerations_dir", "stubs_dir", "categories"] 0 v
  let unset : Sources := {}
  some { categoriesDir := ← r.defaulted "categories_dir" Value.string? unset.categoriesDir
         enumerationsDir := ← r.defaulted "enumerations_dir" Value.string? unset.enumerationsDir
         stubsDir := ← r.optional "stubs_dir" Value.string?
         categories := ← r.optional "categories" (Value.list? Value.string?) }

/-- The settings among the fields of a platform's table. -/
def Settings.ofRecord (r : Record) : Option Settings := do
  some { root := ← r.optional "root" Value.string?
         enabled := ← r.defaulted "enabled" Value.boolean? true }

/-- The table of a platform. -/
def Settings.ofValue (v : Value) : Option Settings := do
  Settings.ofRecord (← Record.of? ["root", "enabled"] 0 v)

/-- The table `platforms.excel`. -/
def ExcelSettings.ofValue (v : Value) : Option ExcelSettings := do
  let r ← Record.of? ["root", "enabled", "namespace", "serialization_base"] 0 v
  some { toSettings := ← Settings.ofRecord r
         addinNamespace := ← r.optional "namespace" Value.string?
         serializationBase := ← r.optional "serialization_base" Value.string? }

/-- The table `platforms`. -/
def Platforms.ofValue (v : Value) : Option Platforms := do
  let r ← Record.of? ["c", "excel", "doxygen", "serialization", "valueobjects"] 0 v
  some { c := ← r.defaulted "c" Settings.ofValue {}
         excel := ← r.defaulted "excel" ExcelSettings.ofValue {}
         doxygen := ← r.defaulted "doxygen" Settings.ofValue {}
         serialization := ← r.defaulted "serialization" Settings.ofValue {}
         valueObjects := ← r.defaulted "valueobjects" Settings.ofValue {} }

/-- A whole document. -/
def ofValue (v : Value) : Option Config := do
  let r ← Record.of? ["project", "metadata", "platforms"] 1 v
  some { project := ← r.required "project" Project.ofValue
         metadata := ← r.defaulted "metadata" Sources.ofValue {}
         platforms := ← r.defaulted "platforms" Platforms.ofValue {} }

/-! ### Checking -/

/-- Accepts a name, or complains about it where the source quotes it. -/
def checkName (source name kind : String) : Except LoadError Unit :=
  match Naming.fault? name with
  | some reason => .error (.badName name kind reason (Locator.quoted? source name))
  | none => .ok ()

/-- Accepts a name that may be left out. -/
def checkOptionalName (source kind : String) : Option String → Except LoadError Unit
  | some name => checkName source name kind
  | none => .ok ()

/-- Accepts categories that come after others. -/
def checkCategories (source : String) (earlier : List String) : List String → Except LoadError Unit
  | [] => .ok ()
  | name :: rest => do
    checkName source name "category"
    if name ∈ earlier then .error (.flaw (.repeatedCategory name) (Locator.quoted? source name))
    else checkCategories source (earlier ++ [name]) rest

/-- Accepts the names of a configuration. -/
def check (c : Config) (source : String) : Except LoadError Unit := do
  checkName source c.project.name "project"
  checkOptionalName source "namespace" c.project.namespaceObjects
  checkOptionalName source "namespace" c.platforms.excel.addinNamespace
  checkCategories source [] (c.metadata.categories.getD [])

/-- The configuration in a source. -/
def parse (source : String) : Except LoadError Config :=
  match (Toml.document? source).bind ofValue with
  | some c => (c.check source).map fun _ => c
  | none => .error .badConfig

end Bindery.Config
