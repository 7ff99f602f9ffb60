import Bindery.Text.Identifier

/-! Names that can stand in generated code.

A name is an identifier that is no keyword of the generated language. A declared parameter also
keeps clear of the parameters that generation adds by itself. -/
namespace Bindery

/-- Why a name cannot stand in generated code. -/
inductive NameFault where
  | empty
  | keyword
  | digitFirst
  | otherCharacters
  /-- The name belongs to a parameter that generation adds. -/
  | reserved
deriving DecidableEq, Repr

def NameFault.message : NameFault → String
  | empty => "name cannot be empty"
  | keyword => "name is a C++ reserved keyword"
  | digitFirst => "name must start with a letter or underscore"
  | otherCharacters => "name must contain only letters, numbers, and underscores"
  | reserved => "this name is reserved for parameters added implicitly by the generator"

namespace Naming

/-- The words that the generated language keeps for itself. -/
def keywords : List String :=
  ["auto", "bool", "break", "case", "catch", "char", "class", "const", "continue", "default",
   "delete", "do", "double", "else", "enum", "explicit", "extern", "false", "float", "for",
   "friend", "goto", "if", "inline", "int", "long", "mutable", "namespace", "new", "operator",
   "private", "protected", "public", "register", "return", "short", "signed", "sizeof",
   "static", "struct", "switch", "template", "this", "throw", "true", "try", "typedef",
   "typename", "union", "unsigned", "using", "virtual", "void", "volatile", "while"]

/-- The names of the parameters that generation adds. -/
def reserved : List String := ["objectID", "permanent", "trigger", "enumerationID"]

/-- What is wrong with a name. -/
def fault? (name : String) : Option NameFault :=
  if name = "" then some .empty
  else if name ∈ keywords then some .keyword
  else if name.toList.head?.any Char.isDigit then some .digitFirst
  else if Text.isIdentifier name then none
  else some .otherCharacters

/-- What is wrong with the name of a declared parameter. -/
def parameterFault? (name : String) : Option NameFault :=
  if name ∈ reserved then some .reserved else fault? name

/-- A name has no fault when it is an identifier and no keyword. -/
theorem fault?_eq_none_iff {name : String} :
    fault? name = none ↔ Text.isIdentifier name = true ∧ name ∉ keywords := by
  unfold fault?
  split
  · next h => subst h; simp [Text.isIdentifier, Text.isIdentifierChars]
  split
  · next hk => simp [hk]
  split
  · next hk hd =>
    simp only [reduceCtorEq, false_iff, not_and, hk, not_false_eq_true, not_true_eq_false]
    intro hi
    unfold Text.isIdentifier at hi
    cases hc : name.toList with
    | nil => simp [hc] at hd
    | cons c rest =>
      simp only [hc, Text.isIdentifierChars, Bool.and_eq_true] at hi
      simp only [hc, List.head?_cons, Option.any_some] at hd
      simp [Text.isNameStart_of_isDigit hd] at hi
  · next hk hd => split <;> simp_all

end Naming
end Bindery
