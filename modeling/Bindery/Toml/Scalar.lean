import Bindery.Text.Search
import Bindery.Toml.Moment
import Bindery.Toml.Value

/-! Strings, numbers and truth values of a TOML document.

Readers take what they read off the front of a text and give what is left. They fail where the text
breaks the grammar. -/
namespace Bindery.Toml

/-- White space inside a line. -/
def isBlank (c : Char) : Bool := c == ' ' || c == '\t'

/-- A character that may stand in comments and strings: a tab, or no control character. -/
def isPrintable (c : Char) : Bool := c == '\t' || (0x20 ≤ c.toNat && c.toNat ≠ 0x7F)

/-- The end of a line at the front of a text. -/
def lineEnd? : List Char → Option (List Char × List Char)
  | '\n' :: rest => some (['\n'], rest)
  | '\r' :: '\n' :: rest => some (['\r', '\n'], rest)
  | _ => none

/-! ### Strings -/

/-- A kind of string. -/
structure Quoting where
  quote : Char
  /-- A backslash begins an escape. -/
  escapes : Bool
  /-- Three quotes open and close it, and it may span lines. -/
  lines : Bool

/-- The value of a digit of base sixteen. -/
def hexValue? (c : Char) : Option Nat :=
  if c.isDigit then some (c.toNat - 48)
  else if 'a' ≤ c ∧ c ≤ 'f' then some (c.toNat - 87)
  else if 'A' ≤ c ∧ c ≤ 'F' then some (c.toNat - 55)
  else none

/-- The character whose number is written with so many digits of base sixteen. -/
def numbered? (count : Nat) (cs : List Char) : Option (Char × List Char) := do
  let digits ← (cs.take count).mapM hexValue?
  let n := digits.foldl (fun n d => n * 16 + d) 0
  if digits.length = count ∧ n.isValidChar then some (Char.ofNat n, cs.drop count) else none

/-- The character of an escape, after the backslash. -/
def escape? : List Char → Option (Char × List Char)
  | 'b' :: rest => some ('\x08', rest)
  | 'e' :: rest => some ('\x1b', rest)
  | 't' :: rest => some ('\t', rest)
  | 'n' :: rest => some ('\n', rest)
  | 'f' :: rest => some ('\x0c', rest)
  | 'r' :: rest => some ('\r', rest)
  | '\x22' :: rest => some ('\x22', rest)
  | '\\' :: rest => some ('\\', rest)
  | 'x' :: rest => numbered? 2 rest
  | 'u' :: rest => numbered? 4 rest
  | 'U' :: rest => numbered? 8 rest
  | _ => none

/-- A text without the blanks and the ends of lines at its front. -/
def skipLines : List Char → List Char
  | '\r' :: '\n' :: rest => skipLines rest
  | c :: rest => if isBlank c || c == '\n' then skipLines rest else c :: rest
  | [] => []

/-- The rest of a string; `fuel` bounds the number of characters. -/
def stringBody? (q : Quoting) : Nat → List Char → Option (List Char × List Char)
  | 0, _ => none
  | _, [] => none
  | fuel + 1, c :: rest =>
    if c = q.quote then
      if q.lines then
        let run := (c :: rest).takeWhile (· = q.quote)
        let rest := (c :: rest).dropWhile (· = q.quote)
        if run.length < 3 then (stringBody? q fuel rest).map fun (s, rest) => (run ++ s, rest)
        else if run.length ≤ 5 then some (run.drop 3, rest)
        else none
      else some ([], rest)
    else if c = '\\' ∧ q.escapes then
      let folded := if q.lines then lineEnd? (rest.dropWhile isBlank) else none
      match folded with
      | some (_, rest) => stringBody? q fuel (skipLines rest)
      | none => do
        let (character, rest) ← escape? rest
        (stringBody? q fuel rest).map fun (s, rest) => (character :: s, rest)
    else if isPrintable c then (stringBody? q fuel rest).map fun (s, rest) => (c :: s, rest)
    else if q.lines then do
      let (ended, rest) ← lineEnd? (c :: rest)
      (stringBody? q fuel rest).map fun (s, rest) => (ended ++ s, rest)
    else none

/-- A string of one line, after its quote. -/
def lineString? (quote : Char) (cs : List Char) : Option (String × List Char) :=
  (stringBody? ⟨quote, quote = '\x22', false⟩ (cs.length + 1) cs).map
    fun (s, rest) => (String.ofList s, rest)

/-- A string of many lines, after its quotes. The end of a line right after them does not count. -/
def linesString? (quote : Char) (cs : List Char) : Option (String × List Char) :=
  let cs := match lineEnd? cs with
    | some (_, rest) => rest
    | none => cs
  (stringBody? ⟨quote, quote = '\x22', true⟩ (cs.length + 1) cs).map
    fun (s, rest) => (String.ofList s, rest)

/-- A string, after its first quote. -/
def string? (quote : Char) (cs : List Char) : Option (String × List Char) :=
  if cs.take 2 = [quote, quote] then linesString? quote (cs.drop 2) else lineString? quote cs

/-! ### Numbers and truth values -/

/-- A number to a base; single underscores may stand between digits. -/
def digits? (base : Nat) (cs : List Char) : Option Nat := do
  let groups := Text.pieces '_' cs
  if groups.any List.isEmpty then none
  else
    let digits ← groups.flatten.mapM fun c => (hexValue? c).filter (· < base)
    some (digits.foldl (fun n d => n * base + d) 0)

/-- A decimal number without a zero in front. -/
def decimal? (cs : List Char) : Option Nat :=
  if cs.head? = some '0' ∧ cs ≠ ['0'] then none else digits? 10 cs

/-- An integer. -/
def integer? : List Char → Option Int
  | '0' :: 'x' :: cs => (digits? 16 cs).map Int.ofNat
  | '0' :: 'o' :: cs => (digits? 8 cs).map Int.ofNat
  | '0' :: 'b' :: cs => (digits? 2 cs).map Int.ofNat
  | '+' :: cs => (decimal? cs).map Int.ofNat
  | '-' :: cs => (decimal? cs).map fun n => -(n : Int)
  | cs => (decimal? cs).map Int.ofNat

/-- A number without its sign. -/
def unsigned : List Char → List Char
  | '+' :: cs | '-' :: cs => cs
  | cs => cs

/-- Has the form of a number with a fraction or an exponent. -/
def isFraction (cs : List Char) : Bool :=
  let cs := unsigned cs
  let mantissa := cs.takeWhile fun c => c ≠ 'e' && c ≠ 'E'
  let exponent := (cs.drop mantissa.length).drop 1
  let whole := mantissa.takeWhile (· ≠ '.')
  let part := (mantissa.drop whole.length).drop 1
  let hasPart := whole.length < mantissa.length
  let hasExponent := mantissa.length < cs.length
  cs == "inf".toList || cs == "nan".toList
    || ((hasPart || hasExponent) && (decimal? whole).isSome
      && (!hasPart || (digits? 10 part).isSome)
      && (!hasExponent || (digits? 10 (unsigned exponent)).isSome))

/-- The value of a word that is no string. -/
def atom? (cs : List Char) : Option Value :=
  if cs = "true".toList then some (.boolean true)
  else if cs = "false".toList then some (.boolean false)
  else match integer? cs with
    | some n => some (.integer n)
    | none =>
      if isFraction cs then some .fraction else (moment? cs).map (.moment ∘ String.ofList)

/-- A character of a word that is no string. -/
def isAtomChar (c : Char) : Bool :=
  c.isAlphanum || c == '+' || c == '-' || c == '_' || c == '.' || c == ':'

/-- The word at the front of a text. A blank may stand between a date and a time. -/
def word (cs : List Char) : List Char :=
  let first := cs.takeWhile isAtomChar
  match cs.drop first.length with
  | ' ' :: rest =>
    let second := rest.takeWhile isAtomChar
    if isDateForm first && second.head?.any Char.isDigit then first ++ ' ' :: second else first
  | _ => first

end Bindery.Toml
