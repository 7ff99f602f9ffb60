import Bindery.Toml.Value

/-! Tables while a TOML document is read.

A table may be opened by a header once, or come about because a longer name goes through it. Which
of these happened decides whether it may still be extended; arrays and tables written as values may
not. -/
namespace Bindery.Toml

/-- A value or table under a key. -/
inductive Node where
  | value (v : Value)
  /-- A table, whether it only came about on the way to another, and whether in a dotted key. -/
  | table (passedThrough dotted : Bool) (entries : List (String × Node))
  /-- Tables that headers add to an array: those before the last, then the last. -/
  | tables (earlier : List (List (String × Node))) (last : List (String × Node))

/-- A table that is being filled. -/
structure Table where
  passedThrough : Bool := false
  dotted : Bool := false
  entries : List (String × Node) := []

namespace Table

def node (t : Table) : Node := .table t.passedThrough t.dotted t.entries

/-- Puts a node under a key. -/
def put (t : Table) (key : String) (n : Node) : Table :=
  { t with entries := (key, n) :: t.entries.filter (·.1 ≠ key) }

/-- Changes the table at a path, making those on the way. A dotted key goes through no table that a
header has opened. -/
def alter (dotted : Bool) (change : Table → Option Table) : List String → Table → Option Table
  | [], t => change t
  | key :: path, t =>
    match t.entries.lookup key with
    | none => do
      let inner ← alter dotted change path { passedThrough := true, dotted }
      some (t.put key inner.node)
    | some (.table passedThrough wasDotted entries) =>
      if dotted && !passedThrough then none
      else do
        let inner ← alter dotted change path { passedThrough, dotted := wasDotted, entries }
        some (t.put key inner.node)
    | some (.tables earlier last) => do
      let inner ← alter dotted change path { entries := last }
      some (t.put key (.tables earlier inner.entries))
    | some (.value _) => none

/-- Adds a value under a dotted key. A key with dots ends in a table made by dotted keys, and one
without in a table that is not. -/
def add (t : Table) (path : List String) (key : String) (v : Value) : Option Table :=
  alter true (fun inner =>
    if inner.dotted = path.isEmpty ∨ (inner.entries.lookup key).isSome then none
    else some (inner.put key (.value v))) path t

/-- An entry of a section: the tables that its key goes through, the key, and the value. -/
abbrev Entry := List String × String × Value

/-- Adds entries in order. -/
def addAll (t : Table) (entries : List Entry) : Option Table :=
  entries.foldlM (fun t (path, key, v) => t.add path key v) t

/-- Opens a table under a key by a header and fills it. -/
def openTable (key : String) (entries : List Entry) (t : Table) : Option Table :=
  match t.entries.lookup key with
  | none => do some (t.put key (← addAll {} entries).node)
  | some (.table true false inner) => do
    some (t.put key (← addAll { entries := inner } entries).node)
  | some _ => none

/-- Adds a table to the array under a key by a header and fills it. -/
def openItem (key : String) (entries : List Entry) (t : Table) : Option Table := do
  let item ← addAll {} entries
  match t.entries.lookup key with
  | none => some (t.put key (.tables [] item.entries))
  | some (.tables earlier last) => some (t.put key (.tables (earlier ++ [last]) item.entries))
  | some _ => none

end Table

/-- Puts an entry before those with later keys. -/
def insertEntry (entry : String × Value) : List (String × Value) → List (String × Value)
  | [] => [entry]
  | other :: rest =>
    if entry.1 ≤ other.1 then entry :: other :: rest else other :: insertEntry entry rest

/-- Entries in the order of their keys. -/
def sorted (entries : List (String × Value)) : List (String × Value) :=
  entries.foldr insertEntry []

mutual

/-- The value of a node. -/
def Node.toValue : Node → Value
  | .value v => v
  | .table _ _ entries => .table (sorted (valuesOf entries))
  | .tables earlier last => .array (tablesOf earlier ++ [.table (sorted (valuesOf last))])

/-- The values of entries. -/
def valuesOf : List (String × Node) → List (String × Value)
  | [] => []
  | (key, n) :: rest => (key, n.toValue) :: valuesOf rest

/-- The values of the tables of an array. -/
def tablesOf : List (List (String × Node)) → List Value
  | [] => []
  | entries :: rest => .table (sorted (valuesOf entries)) :: tablesOf rest

end

def Table.toValue (t : Table) : Value := t.node.toValue

end Bindery.Toml
