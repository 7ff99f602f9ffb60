/-! The header of a generated file: the copyright of the project, then a notice. -/
namespace Bindery

/-- What generated files open with. -/
structure Banner where
  /-- The program named in the notice. -/
  generator : String
  copyright : Option String := none
deriving DecidableEq, Repr

namespace Banner

/-- The parts of the header that one file carries. -/
structure Parts where
  notice : Bool := true
  copyright : Bool := true
deriving DecidableEq, Repr

/-- A text that ends its last line. -/
def closed (s : String) : String :=
  if s.toList.getLast? = some '\n' then s else s ++ "\n"

/-- The notice of a generator. -/
def notice (generator : String) : String :=
  "// this file generated automatically by " ++ generator
    ++ "\n// editing this file manually is not recommended\n\n"

/-- The header of a file. -/
def render (b : Banner) (parts : Parts := {}) : String :=
  (match b.copyright with
   | some text => if parts.copyright then closed text else ""
   | none => "")
    ++ (if parts.notice then notice b.generator else "")

end Banner
end Bindery
