import Bindery.FileTree
import Bindery.Output.Summary

/-! Output files.

What is written to an output file is kept in a temporary file beside the target. Closing compares
the two: the target is replaced only where its bytes differ, and left alone where they do not.
Dropping an output file leaves the target as it was. The temporary file is gone after either. -/
namespace Bindery

/-- A file that is being written. -/
structure OutputFile where
  target : String
  /-- The number of the temporary file. -/
  id : Nat
  /-- The number of bytes that have reached the temporary file. -/
  offset : Nat := 0
  /-- The bytes that have not reached it. -/
  pending : ByteArray := .empty

namespace OutputFile

/-- What can go wrong with an output file. -/
inductive Fault where
  | directory (path : String)
  | create (path : String)
  | read (path : String)
  | move (source target : String)
deriving DecidableEq, Repr

def Fault.message : Fault → String
  | directory path => "failed to create directory '" ++ path ++ "'"
  | create path => "failed to create '" ++ path ++ "'"
  | read path => "failed to read '" ++ path ++ "'"
  | move source target => "failed to move '" ++ source ++ "' to '" ++ target ++ "'"

/-- The path of the temporary file for a target. -/
def tempOf (target : String) : String := target ++ ".temp"

/-- The path of the temporary file. -/
def temp (o : OutputFile) : String := tempOf o.target

/-- The number of bytes that wait to be written together. -/
def capacity : Nat := 8192

/-- Makes the directory that a target lies in. -/
def prepare (t : FileTree) (target : String) : FileTree × Except Fault Unit :=
  match Path.parent? target with
  | none => (t, .ok ())
  | some parent =>
    if parent = "" then (t, .ok ())
    else match t.makeDirectories parent with
      | (t, .ok ()) => (t, .ok ())
      | (t, .error _) => (t, .error (.directory parent))

/-- Begins to write to a target. -/
def «open» (t : FileTree) (target : String) : FileTree × Except Fault OutputFile :=
  match prepare t target with
  | (t, .error fault) => (t, .error fault)
  | (t, .ok ()) =>
    match t.createFile (tempOf target) with
    | (t, .ok id) => (t, .ok { target, id })
    | (t, .error _) => (t, .error (.create (tempOf target)))

/-- Writes bytes to the temporary file. -/
def through (t : FileTree) (o : OutputFile) (bytes : ByteArray) : FileTree × OutputFile :=
  if bytes.isEmpty then (t, o)
  else (t.writeAt o.id o.offset bytes, { o with offset := o.offset + bytes.size })

/-- Writes the bytes that wait. -/
def flush (t : FileTree) (o : OutputFile) : FileTree × OutputFile :=
  let (t, o) := through t o o.pending
  (t, { o with pending := .empty })

/-- Adds bytes; they wait while there is room for them. -/
def append (t : FileTree) (o : OutputFile) (bytes : ByteArray) : FileTree × OutputFile :=
  let (t, o) := if capacity < o.pending.size + bytes.size then flush t o else (t, o)
  if capacity ≤ bytes.size then through t o bytes
  else (t, { o with pending := o.pending ++ bytes })

/-- Ends writing without a change to the target. -/
def drop (t : FileTree) (o : OutputFile) : FileTree :=
  (flush t o).1.removeFile o.temp

/-- What becomes of a target that is to hold some bytes. -/
def outcome (t : FileTree) (target : String) (bytes : ByteArray) : Except Fault Outcome :=
  match t.read target with
  | .ok old => .ok (if old.data = bytes.data then .unchanged else .updated)
  | .error .missing => .ok .created
  | .error .obstructed => .error (.read target)

/-- Puts the temporary file in the place of the target, where that makes a difference. -/
def commit (t : FileTree) (o : OutputFile) : FileTree × Except Fault Outcome :=
  match t.read o.temp with
  | .error _ => (t, .error (.read o.temp))
  | .ok bytes =>
    match outcome t o.target bytes with
    | .error fault => (t, .error fault)
    | .ok result =>
      if result.isChange then
        match t.move o.temp o.target with
        | .ok t => (t, .ok result)
        | .error _ => (t, .error (.move o.temp o.target))
      else (t, .ok result)

/-- Ends writing and changes the target to what was written. -/
def close (t : FileTree) (o : OutputFile) : FileTree × Except Fault Outcome :=
  let (t, o) := flush t o
  let (t, result) := commit t o
  (t.removeFile o.temp, result)

/-- Writes a whole file. -/
def write (t : FileTree) (target text : String) : FileTree × Except Fault Outcome :=
  match «open» t target with
  | (t, .error fault) => (t, .error fault)
  | (t, .ok o) =>
    let (t, o) := append t o text.toUTF8
    close t o

end OutputFile
end Bindery
