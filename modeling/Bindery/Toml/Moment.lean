import Bindery.Text.Blank

/-! Dates and times of a TOML document.

A date or time has one normal form, in which it is kept: `T` between a date and a time, `Z` for
universal time, and no more than nine digits of a second. -/
namespace Bindery.Toml

/-- The number that decimal digits write. -/
def decimalValue (digits : List Char) : Nat := digits.foldl (fun n c => n * 10 + (c.toNat - 48)) 0

/-- Digits in the places of a pattern's zeros, and the pattern's own characters elsewhere. -/
def matchesPattern (shape cs : List Char) : Bool :=
  shape.length == cs.length
    && (shape.zip cs).all fun (s, c) => if s = '0' then c.isDigit else s == c

/-! ### Dates -/

/-- Has the form of a date. -/
def isDateForm (cs : List Char) : Bool := matchesPattern "0000-00-00".toList cs

/-- The number of days in a month. Every fourth year has one more, of the centuries every fourth. -/
def daysIn (year month : Nat) : Nat :=
  if month = 2 then if year % 4 = 0 ∧ (year % 100 ≠ 0 ∨ year % 400 = 0) then 29 else 28
  else if month = 4 ∨ month = 6 ∨ month = 9 ∨ month = 11 then 30
  else 31

/-- A text that is a day of the calendar. -/
def date? (cs : List Char) : Option (List Char) :=
  let month := decimalValue ((cs.drop 5).take 2)
  let day := decimalValue (cs.drop 8)
  if isDateForm cs ∧ 1 ≤ month ∧ month ≤ 12
      ∧ 1 ≤ day ∧ day ≤ daysIn (decimalValue (cs.take 4)) month then some cs
  else none

/-! ### Times -/

/-- An hour and a minute of a day. -/
def isClock (cs : List Char) : Bool :=
  matchesPattern "00:00".toList cs
    && decimalValue (cs.take 2) ≤ 23 && decimalValue (cs.drop 3) ≤ 59

/-- A second of a minute, which may be a leap second. -/
def isSecond (cs : List Char) : Bool :=
  matchesPattern ":00".toList cs && decimalValue (cs.drop 1) ≤ 60

/-- A part of a second in its normal form. -/
def subsecond (digits : List Char) : List Char :=
  match Text.dropEnd (· = '0') (digits.take 9) with
  | [] => ['0']
  | digits => digits

/-- The normal form of a time of day, which may leave out the second. -/
def time? (cs : List Char) : Option (List Char) :=
  if !isClock (cs.take 5) then none
  else match cs.drop 5, cs.drop 8 with
    | [], _ => some cs
    | second, [] => if isSecond second then some cs else none
    | second, c :: digits =>
      if isSecond (second.take 3) && c == '.' && !digits.isEmpty && digits.all Char.isDigit then
        some (cs.take 8 ++ '.' :: subsecond digits)
      else none

/-- The normal form of a distance from universal time. None at all is a distance too. -/
def zone? (cs : List Char) : Option (List Char) :=
  match cs with
  | [] => some []
  | ['Z'] | ['z'] => some ['Z']
  | sign :: clock =>
    if (sign == '+' || sign == '-') && isClock clock then
      some (if clock = "00:00".toList then '+' :: clock else cs)
    else none

/-! ### Both -/

/-- The normal form of a date, a time, or both. -/
def moment? (cs : List Char) : Option (List Char) :=
  match time? cs with
  | some time => some time
  | none => do
    let date ← date? (cs.take 10)
    match cs.drop 10 with
    | [] => some date
    | c :: rest =>
      let time := rest.takeWhile fun c => c.isDigit || c == ':' || c == '.'
      if c = 'T' ∨ c = 't' ∨ c = ' ' then
        some (date ++ 'T' :: (← time? time) ++ (← zone? (rest.drop time.length)))
      else none

end Bindery.Toml
