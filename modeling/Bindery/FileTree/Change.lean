import Bindery.FileTree

/-! Changes from one file tree to another. -/
namespace Bindery.FileTree

/-- A step from a file tree to another. -/
inductive Change where
  | makeDirectory (path : String)
  | write (path : String) (bytes : ByteArray)
  | remove (path : String)

/-- The bytes of the file at a place. -/
def bytes? (t : FileTree) (p : Place) : Option ByteArray :=
  match t.entryAt? p with
  | some (.file _ bytes) => some bytes
  | _ => none

/-- The steps from a tree to another: directories, then files, then what is gone. -/
def changes (before after : FileTree) : List Change :=
  let directories := after.entries.filterMap fun (p, e) =>
    match e with
    | .directory => if (before.entryAt? p).isNone then some (.makeDirectory p.path) else none
    | .file .. => none
  let writes := after.entries.filterMap fun (p, e) =>
    match e with
    | .file _ bytes =>
      if (before.bytes? p).any (·.data = bytes.data) then none else some (.write p.path bytes)
    | .directory => none
  let removals := before.entries.filterMap fun (p, _) =>
    if (after.entryAt? p).isNone then some (.remove p.path) else none
  directories ++ writes ++ removals

end Bindery.FileTree
