/-! Closed vocabularies.

A vocabulary lists the values of one kind with the word each is written as. Reading a word gives
the value it names or the complaint that lists the words one could have used. -/
namespace Bindery

/-- The words for the values of one kind. -/
structure Vocabulary (α : Type) where
  /-- What the words name, as it is called in a complaint. -/
  noun : String
  values : List α
  name : α → String
  /-- Further words for a value. -/
  otherNames : α → List String := fun _ => []
  /-- The form in which a word is compared. -/
  fold : String → String := id

/-- A word that no value has. -/
structure UnknownWord where
  noun : String
  word : String
  expected : List String
deriving DecidableEq, Repr

def UnknownWord.message (u : UnknownWord) : String :=
  "unknown " ++ u.noun ++ " '" ++ u.word ++ "', expected one of: " ++ ", ".intercalate u.expected

namespace Vocabulary
variable {α : Type} (v : Vocabulary α)

/-- The words that a value is read from. -/
def wordsOf (a : α) : List String := v.name a :: v.otherNames a

/-- The first value with a word. -/
def find? (word : String) : Option α :=
  v.values.find? fun a => (v.wordsOf a).contains (v.fold word)

/-- The value with a word. -/
def read (word : String) : Except UnknownWord α :=
  match v.find? word with
  | some a => .ok a
  | none => .error ⟨v.noun, word, v.values.map v.name⟩

/-- A value is found by one of its words. -/
theorem fold_mem_wordsOf {word : String} {a : α} (h : v.find? word = some a) :
    v.fold word ∈ v.wordsOf a := by
  simpa using List.find?_some h

end Vocabulary
end Bindery
