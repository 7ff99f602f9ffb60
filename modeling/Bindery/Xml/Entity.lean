/-! Entities: characters by name or by number. -/
namespace Bindery.Xml

/-- The digits of a number to a base. -/
def digits? (base : Nat) (cs : List Char) : Option (List Nat) :=
  cs.mapM fun c =>
    let n := c.toNat
    let digit? :=
      if 48 ≤ n ∧ n ≤ 57 then some (n - 48)
      else if 97 ≤ n ∧ n ≤ 122 then some (n - 87)
      else if 65 ≤ n ∧ n ≤ 90 then some (n - 55)
      else none
    digit?.filter (· < base)

/-- A number to a base, with at least one digit. -/
def number? (base : Nat) (cs : List Char) : Option Nat :=
  if cs.isEmpty then none else (digits? base cs).map (List.foldl (fun n d => n * base + d) 0)

/-- The character with a number; the character zero has none. -/
def character? (n : Nat) : Option Char :=
  if n ≠ 0 ∧ n.isValidChar then some (Char.ofNat n) else none

/-- The character that an entity stands for. -/
def entity? (name : List Char) : Option Char :=
  match name with
  | '#' :: 'x' :: digits => (number? 16 digits).bind character?
  | '#' :: digits => (number? 10 digits).bind character?
  | _ =>
    [("lt", '<'), ("gt", '>'), ("amp", '&'), ("apos", '\x27'), ("quot", '\x22')].lookup
      (String.ofList name)

/-- Decodes a text; `name` is what has been read of an entity, the latest character first. -/
def decodeFrom : Option (List Char) → List Char → Option (List Char)
  | none, [] => some []
  | some _, [] => none
  | none, c :: rest =>
    if c = '&' then decodeFrom (some []) rest else (decodeFrom none rest).map (c :: ·)
  | some name, c :: rest =>
    if c = ';' then do
      let character ← entity? name.reverse
      (decodeFrom none rest).map (character :: ·)
    else if c = '&' then none
    else decodeFrom (some (c :: name)) rest

/-- A text with every entity as the character it stands for. -/
def decode? (raw : List Char) : Option (List Char) := decodeFrom none raw

end Bindery.Xml
