/-! Blank characters and trimming.

A character is blank when it has the White_Space property of Unicode. Trimming takes the blank
characters off both ends and leaves the inside alone. -/
namespace Bindery.Text

/-- Has the White_Space property. -/
def isBlank (c : Char) : Bool :=
  let n := c.val
  (9 ≤ n && n ≤ 13) || n == 0x20 || n == 0x85 || n == 0xA0 || n == 0x1680
    || (0x2000 ≤ n && n ≤ 0x200A) || n == 0x2028 || n == 0x2029 || n == 0x202F || n == 0x205F
    || n == 0x3000

/-- A list without the elements at its end that satisfy `p`. -/
def dropEnd (p : α → Bool) (xs : List α) : List α := (xs.reverse.dropWhile p).reverse

/-- A list without the elements at either end that satisfy `p`. -/
def strip (p : α → Bool) (xs : List α) : List α := dropEnd p (xs.dropWhile p)

/-- A text without the blank characters at either end. -/
def trim (s : String) : String := String.ofList (strip isBlank s.toList)

/-- A trimmed text, unless nothing is left of it. -/
def content? (s : String) : Option String :=
  let t := trim s
  if t = "" then none else some t

end Bindery.Text
