/-! Findings about the metadata of a project. -/
namespace Bindery

/-- How much a finding matters. -/
inductive Severity where
  /-- Stops generation. -/
  | error
  | warning
  | info
deriving DecidableEq, Repr

namespace Severity

def name : Severity → String
  | error => "error"
  | warning => "warning"
  | info => "info"

/-- The severity with a name. -/
def ofName? (s : String) : Option Severity := [error, warning, info].find? (·.name = s)

end Severity

/-- A finding. -/
structure Diagnostic where
  severity : Severity
  /-- The phase that made it. -/
  phase : String
  message : String
  /-- The place in the metadata that it is about. -/
  location : Option String := none
deriving DecidableEq, Repr

namespace Diagnostic

def isError (d : Diagnostic) : Bool := d.severity = .error

def isWarning (d : Diagnostic) : Bool := d.severity = .warning

/-- A finding on one line. -/
def display (d : Diagnostic) : String :=
  d.severity.name ++ ": " ++ d.message
    ++ (match d.location with
        | some place => " (at " ++ place ++ ")"
        | none => "")

end Diagnostic
end Bindery
