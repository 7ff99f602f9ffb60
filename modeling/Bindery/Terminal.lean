/-! What a run prints, line by line, on one of two streams. -/
namespace Bindery

namespace Terminal

/-- A text that ends its line. -/
inductive Line where
  /-- Printed as a result. -/
  | out (text : String)
  /-- Printed as a complaint. -/
  | err (text : String)
deriving DecidableEq, Repr

/-- The name of what follows. -/
def heading (name : String) : Line := .out (name ++ ":")

/-- One of several things. -/
def item (text : String) : Line := .out ("  - " ++ text)

/-- Something that was not there before. -/
def added (text : String) : Line := .out ("  + " ++ text)

/-- Something that is not what it was. -/
def changed (text : String) : Line := .out ("  ~ " ++ text)

/-- A line that names what follows and stands apart. -/
def divider (label : String) : Line := .out ("── " ++ label ++ " ──")

def blank : Line := .out ""

def warning (message : String) : Line := .err ("warning: " ++ message)

def error (message : String) : Line := .err ("error: " ++ message)

/-- What comes out as a result. -/
def stdout (lines : List Line) : String :=
  String.join (lines.filterMap fun
    | .out text => some (text ++ "\n")
    | .err _ => none)

/-- What comes out as a complaint. -/
def stderr (lines : List Line) : String :=
  String.join (lines.filterMap fun
    | .err text => some (text ++ "\n")
    | .out _ => none)

end Terminal
end Bindery
