/-! Values of a TOML document, and how records are read from them.

A table lists its entries in the order of their keys. A record is written as a table whose keys are
its fields, or as an array of its fields in their order. -/
namespace Bindery.Toml

/-- A value. -/
inductive Value where
  | string (s : String)
  | integer (n : Int)
  | boolean (b : Bool)
  /-- A number with a fraction or an exponent; nothing here asks for its value. -/
  | fraction
  /-- A date or time in its normal form. -/
  | moment (text : String)
  | array (items : List Value)
  | table (entries : List (String × Value))
deriving Repr

namespace Value

def string? : Value → Option String
  | .string s => some s
  | _ => none

def boolean? : Value → Option Bool
  | .boolean b => some b
  | _ => none

/-- An integer that is a count of at most 64 bits. -/
def count? : Value → Option Nat
  | .integer n => if 0 ≤ n ∧ n < 0x10000000000000000 then some n.toNat else none
  | _ => none

/-- The items of an array, each read in the same way. -/
def list? (read : Value → Option α) : Value → Option (List α)
  | .array items => items.mapM read
  | _ => none

/-- The key that a date or time has for its text. -/
def momentKey : String := "$__toml_private_datetime"

/-- The entries of a table, each read in the same way. A date or time has its text as an entry. -/
def entries? (read : Value → Option α) : Value → Option (List (String × α))
  | .table entries => entries.mapM fun (key, value) => (read value).map (key, ·)
  | .moment text => (read (.string text)).map fun a => [(momentKey, a)]
  | _ => none

/-- A member of a closed set: its word, or a table that gives it nothing. -/
def word? (ofWord : String → Option α) : Value → Option α
  | .string s => ofWord s
  | .table [(s, .table [])] | .table [(s, .array [])] => ofWord s
  | _ => none

end Value

/-- The fields of a record by name. -/
abbrev Record := List (String × Value)

/-- The fields that a value gives. A table has no other keys than fields, and an array gives at
least so many of them. -/
def Record.of? (fields : List String) (least : Nat) : Value → Option Record
  | .table entries => if entries.all fun e => fields.contains e.1 then some entries else none
  | .array items => if least ≤ items.length then some (fields.zip items) else none
  | _ => none

namespace Record

/-- A field that has to be there. -/
def required (r : Record) (field : String) (read : Value → Option α) : Option α :=
  (r.lookup field).bind read

/-- A field that may be left out. -/
def optional (r : Record) (field : String) (read : Value → Option α) : Option (Option α) :=
  match r.lookup field with
  | some value => (read value).map some
  | none => some none

/-- A field that has a default. -/
def defaulted (r : Record) (field : String) (read : Value → Option α) (default : α) : Option α :=
  (r.optional field read).map (·.getD default)

end Record
end Bindery.Toml
