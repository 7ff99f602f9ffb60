import Bindery.Toml.Scalar
import Bindery.Toml.Table

/-! TOML documents. -/
namespace Bindery.Toml

/-! ### Keys -/

/-- A character of a key without quotes. -/
def isKeyChar (c : Char) : Bool := c.isAlphanum || c == '_' || c == '-'

/-- A key without dots. -/
def simpleKey? : List Char → Option (String × List Char)
  | [] => none
  | c :: rest =>
    if c = '\x22' ∨ c = '\x27' then lineString? c rest
    else if isKeyChar c then
      some (String.ofList (c :: rest.takeWhile isKeyChar), rest.dropWhile isKeyChar)
    else none

/-- How deep values may lie in each other, and how many parts a key with dots may have. -/
def maxDepth : Nat := 80

/-- A key with dots, as the keys it goes through and the last; blanks may surround the dots. It has
at most so many parts. -/
def keyWithin? : Nat → List Char → Option ((List String × String) × List Char)
  | 0, _ => none
  | parts + 1, cs => do
    let (key, rest) ← simpleKey? cs
    match rest.dropWhile isBlank with
    | '.' :: rest =>
      let ((path, last), rest) ← keyWithin? parts (rest.dropWhile isBlank)
      some ((key :: path, last), rest)
    | rest => some (([], key), rest)

/-- A key with dots. -/
def key? (cs : List Char) : Option ((List String × String) × List Char) := keyWithin? maxDepth cs

/-! ### Values -/

/-- A text without the comment at its front. -/
def skipComment? : List Char → Option (List Char)
  | '#' :: rest => some (rest.dropWhile isPrintable)
  | cs => some cs

/-- A text without the blanks, comments and ends of lines at its front. A comment goes on to the end
of its line. -/
def skipSpace : Nat → List Char → Option (List Char)
  | 0, _ => none
  | fuel + 1, cs =>
    let cs := cs.dropWhile isBlank
    match cs with
    | '#' :: rest =>
      match lineEnd? (rest.dropWhile isPrintable) with
      | some (_, rest) => skipSpace fuel rest
      | none => none
    | _ =>
      match lineEnd? cs with
      | some (_, rest) => skipSpace fuel rest
      | none => some cs

mutual

/-- A value at the front of a text, with values in it down to a depth. -/
def value? : Nat → Nat → List Char → Option (Value × List Char)
  | 0, _, _ => none
  | fuel + 1, depth, cs =>
    match cs, depth with
    | [], _ | '[' :: _, 0 | '\x7b' :: _, 0 => none
    | '[' :: rest, depth + 1 =>
      (items? fuel depth rest).map fun (items, rest) => (.array items, rest)
    | '\x7b' :: rest, depth + 1 => do
      let (t, rest) ← pairs? fuel depth {} rest
      some (t.toValue, rest)
    | c :: rest, _ =>
      if c = '\x22' ∨ c = '\x27' then (string? c rest).map fun (s, rest) => (.string s, rest)
      else (atom? (word cs)).map fun v => (v, cs.drop (word cs).length)

/-- The items of an array up to its bracket; a comma may stand after the last. -/
def items? : Nat → Nat → List Char → Option (List Value × List Char)
  | 0, _, _ => none
  | fuel + 1, depth, cs => do
    match ← skipSpace (cs.length + 1) cs with
    | ']' :: rest => some ([], rest)
    | cs =>
      let (item, rest) ← value? fuel depth cs
      match ← skipSpace (rest.length + 1) rest with
      | ',' :: rest => (items? fuel depth rest).map fun (items, rest) => (item :: items, rest)
      | ']' :: rest => some ([item], rest)
      | _ => none

/-- The entries of a table up to its brace; a comma may stand after the last. -/
def pairs? : Nat → Nat → Table → List Char → Option (Table × List Char)
  | 0, _, _, _ => none
  | fuel + 1, depth, t, cs => do
    match ← skipSpace (cs.length + 1) cs with
    | '\x7d' :: rest => some (t, rest)
    | cs =>
      let ((path, key), rest) ← key? cs
      match ← skipSpace (rest.length + 1) rest with
      | '=' :: rest =>
        let (v, rest) ← value? fuel depth (← skipSpace (rest.length + 1) rest)
        let t ← t.add path key v
        match ← skipSpace (rest.length + 1) rest with
        | ',' :: rest => pairs? fuel depth t rest
        | '\x7d' :: rest => some (t, rest)
        | _ => none
      | _ => none

end

/-! ### Lines -/

/-- What a line of a document says. -/
inductive Line where
  /-- Nothing. -/
  | blank
  /-- What follows belongs to a table, or to a new table of an array. -/
  | header (isItem : Bool) (path : List String) (key : String)
  | entry (entry : Table.Entry)

/-- A text without the brackets that close a header. -/
def closeHeader? (isItem : Bool) (cs : List Char) : Option (List Char) :=
  match isItem, cs.dropWhile isBlank with
  | false, ']' :: rest => some rest
  | true, ']' :: ']' :: rest => some rest
  | _, _ => none

/-- What the front of a text says. -/
def line? (cs : List Char) : Option (Line × List Char) :=
  match cs with
  | '[' :: rest => do
    let isItem := rest.head? = some '['
    let rest := if isItem then rest.drop 1 else rest
    let ((path, key), rest) ← key? (rest.dropWhile isBlank)
    some (.header isItem path key, ← closeHeader? isItem rest)
  | c :: _ =>
    if c = '#' ∨ c = '\n' ∨ c = '\r' then some (.blank, cs)
    else do
      let ((path, key), rest) ← key? cs
      match rest.dropWhile isBlank with
      | '=' :: rest =>
        let (v, rest) ← value? (rest.length + 1) maxDepth (rest.dropWhile isBlank)
        some (.entry (path, key, v), rest)
      | _ => none
  | [] => some (.blank, [])

/-- A text without the end of a line, a comment before it included. -/
def endLine? (cs : List Char) : Option (List Char) := do
  let cs ← skipComment? (cs.dropWhile isBlank)
  if cs.isEmpty then some [] else (lineEnd? cs).map Prod.snd

/-- The lines of a document. -/
def lines? : Nat → List Char → Option (List Line)
  | 0, _ => none
  | _, [] => some []
  | fuel + 1, cs => do
    let (line, rest) ← line? (cs.dropWhile isBlank)
    let lines ← lines? fuel (← endLine? rest)
    some (line :: lines)

/-- The entries before the first header. -/
def entriesBefore : List Line → List Table.Entry
  | .entry e :: rest => e :: entriesBefore rest
  | .blank :: rest => entriesBefore rest
  | _ => []

/-- Adds the sections of a document to a table. -/
def addSections (t : Table) : List Line → Option Table
  | [] => some t
  | .header isItem path key :: rest => do
    let entries := entriesBefore rest
    let t ← Table.alter false
      (if isItem then Table.openItem key entries else Table.openTable key entries) path t
    addSections t rest
  | _ :: rest => addSections t rest

/-- The table that the characters of a document describe. A mark of the encoding may stand before
them. -/
def tableOf? (cs : List Char) : Option Value := do
  let cs := if cs.head? = some '\ufeff' then cs.drop 1 else cs
  let lines ← lines? (cs.length + 1) cs
  let t ← Table.addAll {} (entriesBefore lines)
  (addSections t lines).map Table.toValue

/-- The table that a document describes. -/
def document? (source : String) : Option Value := tableOf? source.toList

end Bindery.Toml
