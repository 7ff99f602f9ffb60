import Bindery.FileTree.Path

/-! File trees: files and directories by place.

A place lists the names that lead to it from the current directory. A file keeps its number when it
is moved, so that an open file is written wherever it has gone to. Directories above the current one
are there but hold nothing that is known. -/
namespace Bindery

/-- The names from the current directory, or from the root, to a file or directory. -/
abbrev Place := List String

namespace Place

/-- The place of the root of all files. -/
def root : Place := ["/"]

/-- The current directory, one above it, or the root. -/
def isBase (p : Place) : Bool := p = root || p.all (· = "..")

/-- The directory that a place lies in. -/
def up (p : Place) : Place :=
  if p = root then p else if p.all (· = "..") then p ++ [".."] else p.dropLast

/-- One segment of a path further. -/
def step (p : Place) (segment : String) : Place :=
  if segment = "" ∨ segment = "." then p
  else if segment = ".." then p.up
  else p ++ [segment]

/-- Lies below the current directory. -/
def isBelow (p : Place) : Bool := p.head?.all fun s => s ≠ ".." && s ≠ "/"

/-- The path of a place. -/
def path : Place → String
  | "/" :: names => "/" ++ "/".intercalate names
  | names => "/".intercalate names

end Place

/-- What is at a place. -/
inductive Entry where
  | directory
  | file (id : Nat) (bytes : ByteArray)

/-- Files and directories by place. -/
structure FileTree where
  entries : List (Place × Entry) := []
  /-- The number of the next file. -/
  fresh : Nat := 0

/-- Why something cannot be done at a path. -/
inductive Refusal where
  /-- There is nothing. -/
  | missing
  /-- There is something else, or there can be nothing. -/
  | obstructed
deriving DecidableEq, Repr

namespace FileTree
variable (t : FileTree)

/-! ### Places -/

/-- What is at a place. -/
def entryAt? (p : Place) : Option Entry := if p.isBase then some .directory else t.entries.lookup p

/-- Puts something at a place. -/
def put (p : Place) (e : Entry) : FileTree :=
  { t with entries := (p, e) :: t.entries.filter (·.1 ≠ p) }

/-- Takes away what is at a place. -/
def erase (p : Place) : FileTree := { t with entries := t.entries.filter (·.1 ≠ p) }

/-- Takes away what is at a place and below it. -/
def eraseAll (p : Place) : FileTree :=
  { t with entries := t.entries.filter fun e => !p.isPrefixOf e.1 }

/-- A name may be longer than what a directory can hold. -/
def isNameTooLong (p : Place) : Bool := p.any fun s => 255 < s.utf8ByteSize

/-- Accepts a place that is a directory. -/
def requireDirectory (p : Place) : Except Refusal Unit :=
  if isNameTooLong p then .error .obstructed
  else match t.entryAt? p with
    | some .directory => .ok ()
    | some (.file ..) => .error .obstructed
    | none => .error .missing

/-- The place that segments lead to. All places on the way are directories. -/
def walk (p : Place) : List String → Except Refusal Place
  | [] => .ok p
  | segment :: rest => do
    t.requireDirectory p
    walk (p.step segment) rest

/-- Where the segments of a path start. -/
def start (path : String) : Place := if Path.isAbsolute path then .root else []

/-- A path leads nowhere when it is longer than 4095 bytes or has a zero character in it. -/
def isImpossible (path : String) : Bool := 4095 < path.utf8ByteSize || path.toList.contains '\x00'

/-- The place that a path leads to; nothing need be there. -/
def place (path : String) : Except Refusal Place :=
  if path = "" then .error .missing
  else if isImpossible path then .error .obstructed
  else do
    let p ← t.walk (start path) (Path.segments path)
    if isNameTooLong p then .error .obstructed else .ok p

/-- What a path leads to. -/
def find (path : String) : Except Refusal (Place × Entry) := do
  let p ← t.place path
  match t.entryAt? p with
  | some e => .ok (p, e)
  | none => .error .missing

/-! ### Reading -/

/-- The bytes of the file at a path. -/
def read (path : String) : Except Refusal ByteArray := do
  match ← t.find path with
  | (_, .file _ bytes) => .ok bytes
  | (_, .directory) => .error .obstructed

/-- The text of the file at a path. -/
def readText? (path : String) : Option String :=
  match t.read path with
  | .ok bytes => String.fromUTF8? bytes
  | .error _ => none

def isFile (path : String) : Bool :=
  match t.find path with
  | .ok (_, .file ..) => true
  | _ => false

def isDirectory (path : String) : Bool :=
  match t.find path with
  | .ok (_, .directory) => true
  | _ => false

/-- The names in the directory at a path, in no particular order. -/
def names? (path : String) : Option (List String) :=
  match t.find path with
  | .ok (p, .directory) => some (t.entries.filterMap fun (q, _) =>
      if q.dropLast = p && !q.isEmpty then q.getLast? else none)
  | _ => none

/-- The paths of all files below the current directory, in order. -/
def files : List String :=
  let paths := t.entries.filterMap fun (p, e) =>
    match e with
    | .file .. => if p.isBelow then some ("/".intercalate p) else none
    | .directory => none
  paths.mergeSort fun a b => a ≤ b

/-! ### Writing -/

/-- Makes the directories that segments lead through. What was made stays when a later one cannot
be. -/
def makeDirectoriesFrom (t : FileTree) (p : Place) : List String → FileTree × Except Refusal Unit
  | [] => (t, .ok ())
  | segment :: rest =>
    let next := p.step segment
    if isNameTooLong next then (t, .error .obstructed)
    else match t.entryAt? next with
      | some .directory => makeDirectoriesFrom t next rest
      | some (.file ..) => (t, .error .obstructed)
      | none => makeDirectoriesFrom (t.put next .directory) next rest

/-- Makes the directory at a path and those above it. -/
def makeDirectories (path : String) : FileTree × Except Refusal Unit :=
  if isImpossible path then (t, .error .obstructed)
  else makeDirectoriesFrom t (start path) (Path.segments path)

/-- Opens an empty file at a path: a new one, or the one that is there without its bytes. -/
def createFile (path : String) : FileTree × Except Refusal Nat :=
  match t.place path with
  | .error r => (t, .error r)
  | .ok p =>
    match t.entryAt? p with
    | some .directory => (t, .error .obstructed)
    | some (.file id _) => (t.put p (.file id .empty), .ok id)
    | none => ({ t.put p (.file t.fresh .empty) with fresh := t.fresh + 1 }, .ok t.fresh)

/-- Bytes with others in the place of those from an offset on. What lies between the end and the
offset is zero. -/
def overwritten (old : ByteArray) (offset : Nat) (new : ByteArray) : ByteArray :=
  let gap := ByteArray.mk (Array.replicate (offset - old.size) 0)
  old.extract 0 offset ++ gap ++ new ++ old.extract (offset + new.size) old.size

/-- Writes into the file with a number, wherever it is. -/
def writeAt (id offset : Nat) (bytes : ByteArray) : FileTree :=
  { t with entries := t.entries.map fun (p, e) =>
      match e with
      | .file i old => if i = id then (p, .file i (overwritten old offset bytes)) else (p, e)
      | .directory => (p, e) }

/-- Writes a whole file and makes the directories above it. -/
def writeFile (path : String) (bytes : ByteArray) : FileTree × Except Refusal Unit :=
  let (t, made) := match Path.parent? path with
    | some parent => t.makeDirectories parent
    | none => (t, .ok ())
  match made with
  | .error r => (t, .error r)
  | .ok () =>
    match t.createFile path with
    | (t, .ok id) => (t.writeAt id 0 bytes, .ok ())
    | (t, .error r) => (t, .error r)

/-- Moves the file at a path to another, in the place of a file that is there. -/
def move (source target : String) : Except Refusal FileTree := do
  let (p, e) ← t.find source
  let q ← t.place target
  match t.entryAt? q with
  | some .directory => .error .obstructed
  | _ => .ok (if p = q then t else (t.erase p).put q e)

/-- Takes away the file at a path, if there is one. -/
def removeFile (path : String) : FileTree :=
  match t.find path with
  | .ok (p, .file ..) => t.erase p
  | _ => t

/-- Takes away what is at a path and below it, if there is something. -/
def remove (path : String) : FileTree :=
  match t.find path with
  | .ok (p, _) => t.eraseAll p
  | .error _ => t

end FileTree
end Bindery
