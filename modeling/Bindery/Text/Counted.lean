import Bindery.Text.Search

/-! Counted strings.

A worksheet registration takes a text as a string literal whose first byte is its length. One byte
holds the length, so a longer text is cut at 255 bytes, or at the last byte before them that is between
characters. -/
namespace Bindery.Text

/-- The last byte up to a given one that is between characters. -/
def boundaryBefore (cs : List Char) : Nat → Nat
  | 0 => 0
  | n + 1 => if (splitAtByte? cs (n + 1)).isSome then n + 1 else boundaryBefore cs n

/-- The longest text that a counted string holds, in bytes. -/
def maxCounted : Nat := 255

/-- What a counted string holds of a text. -/
def kept (cs : List Char) : List Char :=
  match splitAtByte? cs (boundaryBefore cs (min (byteLength cs) maxCounted)) with
  | some (before, _) => before
  | none => []

/-- A digit of base sixteen. -/
def hexDigit (n : Nat) : Char := Char.ofNat (if n < 10 then 48 + n else 55 + n)

/-- A byte as two digits of base sixteen. -/
def hexByte (n : Nat) : String := String.ofList [hexDigit (n / 16), hexDigit (n % 16)]

/-- A text with something in the place of a character. -/
def replaced (c : Char) (text cs : List Char) : List Char :=
  cs.flatMap fun d => if d = c then text else [d]

/-- A text inside a string literal: backslashes are escaped first, then quotation marks. -/
def escaped (cs : List Char) : String :=
  String.ofList (replaced '\x22' ['\\', '\x22'] (replaced '\\' ['\\', '\\'] cs))

/-- The literals of a counted string: the length, then the text. -/
def counted (s : String) : String :=
  let held := kept s.toList
  "\"\\x" ++ hexByte (byteLength held) ++ "\"\"" ++ escaped held ++ "\""

end Bindery.Text
