import Bindery.Text.Case

/-! Identifiers and their snake case form.

An identifier starts with an ASCII letter or an underscore and goes on with those and digits. The
snake case form puts an underscore before every upper case letter but the first character, lowers
all letters and writes hyphens as underscores. -/
namespace Bindery.Text

/-- May start an identifier. -/
def isNameStart (c : Char) : Bool := c.isAlpha || c == '_'

/-- May stand in an identifier after its start. -/
def isNamePart (c : Char) : Bool := c.isAlphanum || c == '_'

/-- Is an identifier. -/
def isIdentifierChars : List Char → Bool
  | [] => false
  | c :: rest => isNameStart c && rest.all isNamePart

/-- Is an identifier. -/
def isIdentifier (s : String) : Bool := isIdentifierChars s.toList

/-- An identifier starts with no digit. -/
theorem isNameStart_of_isDigit {c : Char} (h : c.isDigit = true) : isNameStart c = false := by
  have hu : c ≠ '_' := by rintro rfl; simp at h
  have h9 : c.toNat ≤ 57 := by
    simp only [Char.isDigit, ge_iff_le, Bool.and_eq_true, decide_eq_true_eq,
      UInt32.le_iff_toNat_le] at h
    exact h.2
  have hA : c.isAlpha = false := by
    rw [← Bool.not_eq_true]
    show ¬ (decide (65 ≤ c.val ∧ c.val ≤ 90) || (97 ≤ c.val && c.val ≤ 122)) = true
    simp only [Bool.or_eq_true, Bool.and_eq_true, decide_eq_true_eq, UInt32.le_iff_toNat_le]
    rintro (⟨hl, -⟩ | ⟨hl, -⟩) <;> simp at hl <;> omega
  simp [isNameStart, hA, hu]

/-- A hyphen as an underscore. -/
def underscored (c : Char) : Char := if c = '-' then '_' else c

/-- The lower case form of a character, with underscores for hyphens. -/
def snakeChar (c : Char) : List Char := (lower c).map underscored

/-- The snake case form of the characters after the first. -/
def snakeTail : List Char → List Char
  | [] => []
  | c :: rest => (if isUpper c then ['_'] else []) ++ snakeChar c ++ snakeTail rest

/-- The snake case form of a text. -/
def snakeChars : List Char → List Char
  | [] => []
  | c :: rest => snakeChar c ++ snakeTail rest

/-- The snake case form of a text. -/
def snakeCase (s : String) : String := String.ofList (snakeChars s.toList)

end Bindery.Text
