import Bindery.Text.Case
import Bindery.Vocabulary

/-! The platforms that bindings are generated for. -/
namespace Bindery

/-- A target of generation. -/
inductive Platform where
  /-- Prototypes and bodies in C. -/
  | c
  /-- Worksheet functions and their registration. -/
  | excel
  /-- Documentation pages. -/
  | doxygen
  /-- Functions that rebuild objects from their value objects. -/
  | serialization
  /-- Value object classes. -/
  | valueObjects
deriving DecidableEq, Repr

namespace Platform

/-- All platforms, in the order in which they are generated. -/
def all : List Platform := [c, excel, doxygen, serialization, valueObjects]

def name : Platform → String
  | c => "c"
  | excel => "excel"
  | doxygen => "doxygen"
  | serialization => "serialization"
  | valueObjects => "valueobjects"

/-- The words for platforms, in any case. -/
def vocabulary : Vocabulary Platform where
  noun := "platform"
  values := all
  name := name
  otherNames
    | excel => ["xl"]
    | doxygen => ["docs"]
    | valueObjects => ["vo"]
    | _ => []
  fold := Text.lowerText

/-- The directory of a platform's files where none is configured. -/
def defaultRoot (libRoot : String) : Platform → String
  | c => "Addins/C"
  | excel => "Addins/Excel"
  | doxygen => "Docs/pages"
  | serialization => libRoot ++ "/Serialization"
  | valueObjects => libRoot ++ "/ValueObjects"

end Platform
end Bindery
