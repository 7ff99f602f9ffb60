import Bindery.DataType
import Bindery.Implementation

/-! What declared functions and lowered functions have in common: the platforms a function is
declared for, its return value, and enumerations. -/
namespace Bindery

/-- A platform that a function is declared for. -/
structure Support where
  /-- The platform, in the words of the metadata. -/
  name : String
  implementation : Implementation
  /-- Registered as equivalent to a macro. -/
  xlMacro : Bool
  /-- Evaluated while the function wizard is open. -/
  calcInWizard : Bool
deriving DecidableEq, Repr

namespace Support

/-- Two platform names are the same up to the case of ASCII letters. -/
def sameName (a b : String) : Bool := a.toList.map Char.toLower = b.toList.map Char.toLower

/-- The first entry for a platform. -/
def find? (entries : List Support) (platform : String) : Option Support :=
  entries.find? fun s => sameName s.name platform

/-- A platform with the level of its code, unless that is generated in full. -/
def described (s : Support) : String :=
  if s.implementation = .auto then s.name
  else s.name ++ " (" ++ s.implementation.name ++ ")"

/-- The platforms of a function in a text. -/
def describedAll (entries : List Support) : String :=
  if entries.isEmpty then "none" else ", ".intercalate (entries.map described)

end Support

/-- What a function returns. -/
structure ReturnValue where
  type : DataType
  rank : TensorRank
  description : String
deriving DecidableEq, Repr

/-- A type whose values are named by texts. -/
structure Enumeration where
  name : String
  /-- The library class of the values. -/
  className : String
  description : String
  /-- The texts and the values that they name. -/
  values : List (String × String)
deriving DecidableEq, Repr

end Bindery
