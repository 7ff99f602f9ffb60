import Bindery.Text.Case.Table

/-! Upper and lower case.

`lower` is the lower case form of one character; it is one character for all but `İ`, whose form
is `i` with a combining dot. `lowerText` lowers a whole text, where a capital sigma that ends a
word becomes `ς` and any other `σ`. On ASCII both agree with the plain tables (`lower_ascii`). -/
namespace Bindery.Text

open Case

/-- Is an upper case letter. -/
def isUpper (c : Char) : Bool :=
  let n := c.toNat
  if n < 0x80 then c.isUpper
  else n == 0x130 || inRanges unpairedUpper n
    || ((Run.shift? lowered n).isSome && !inRanges titleCase n)

/-- The lower case form of a character. -/
def lower (c : Char) : List Char :=
  let n := c.toNat
  if n < 0x80 then [c.toLower]
  else if n == 0x130 then ['i', Char.ofNat 0x307]
  else match Run.shift? lowered n with
    | some shift => [Char.ofNat (n + shift).toNat]
    | none => [c]

/-- The first character that is not read through has a case. -/
def meetsCased (cs : List Char) : Bool :=
  match cs.dropWhile fun c => inRanges caseIgnorable c.toNat with
  | c :: _ => inRanges cased c.toNat
  | [] => false

/-- Lowers the rest of a text, given what stands before it from the nearest backwards. -/
def lowerFrom (before : List Char) : List Char → List Char
  | [] => []
  | c :: rest =>
    let form :=
      if c = 'Σ' then if meetsCased before && !meetsCased rest then ['ς'] else ['σ']
      else lower c
    form ++ lowerFrom (c :: before) rest

/-- The lower case form of a text. -/
def lowerText (s : String) : String := String.ofList (lowerFrom [] s.toList)

/-! ### ASCII -/

theorem isUpper_ascii {c : Char} (h : c.toNat < 0x80) : isUpper c = c.isUpper := by
  simp [isUpper, h]

theorem lower_ascii {c : Char} (h : c.toNat < 0x80) : lower c = [c.toLower] := by
  simp [lower, h]

end Bindery.Text
