import Bindery.Project
import Bindery.Terminal

/-! Checks of a project: the findings about its metadata, with nothing generated. -/
namespace Bindery.Project

/-- How much metadata there is. -/
structure Counts where
  categories : Nat
  functions : Nat
  enumerations : Nat
deriving DecidableEq, Repr

namespace Counts

def ofMetadata (m : Metadata) : Counts where
  categories := m.categories.length
  functions := m.functions.length
  enumerations := m.enumerations.length

/-- A number of things. -/
def counted (n : Nat) (one many : String) : String :=
  toString n ++ " " ++ (if n = 1 then one else many)

def text (c : Counts) : String :=
  ", ".intercalate
    [counted c.categories "category" "categories", counted c.functions "function" "functions",
     counted c.enumerations "enumeration" "enumerations"]

end Counts

/-- The findings about the metadata of a project, by severity. -/
structure Check where
  configPath : String
  errors : List String
  warnings : List String
  infos : List String
  counts : Counts
deriving DecidableEq, Repr

namespace Check

/-- A finding in a text, with its place on a line of its own. -/
def findingText (d : Diagnostic) : String :=
  match d.location with
  | some place => d.message ++ "\n  --> " ++ place
  | none => d.message

/-- The findings of a severity, in order. -/
def findingsOf (severity : Severity) (ds : List Diagnostic) : List String :=
  (ds.filter (·.severity = severity)).map findingText

/-- There are no errors. -/
def isValid (c : Check) : Bool := c.errors.isEmpty

/-- What is printed about a check. -/
def lines (c : Check) : List Terminal.Line :=
  c.errors.map Terminal.error
    ++ c.warnings.map Terminal.warning
    ++ c.infos.map (fun info => .out ("info: " ++ info))
    ++ (if c.warnings.isEmpty && c.errors.isEmpty then [] else [Terminal.blank])
    ++ (if c.isValid
        then [.out ("✓ " ++ c.configPath ++ " is valid"), .out ("  " ++ c.counts.text)] else [])

end Check

/-- Checks metadata of a project. Errors among the findings are part of the answer; anything else
that stops the compilation is a fault. -/
def check (p : Project) (m : Metadata) : Except Fault Check :=
  let (c, result) := (p.compilation m).run Compilation.standard
  let report : Check :=
    { configPath := p.path
      errors := Check.findingsOf .error c.diagnostics
      warnings := Check.findingsOf .warning c.diagnostics
      infos := Check.findingsOf .info c.diagnostics
      counts := Counts.ofMetadata m }
  match result with
  | .ok () => .ok report
  | .error fault => if c.errors.isEmpty then .error fault else .ok report

end Bindery.Project
