import Bindery.Proofs.FileTree.Route

/-! What directories list.

A directory lists its names in no particular order. Trees that have the same at every place may
differ in that order (`Relisted`); paths lead to the same in both, and every file reads the same.
Trees whose entries are the same, each place once, in another order are such trees (`relisted_of_perm`). -/
namespace Bindery.FileTree

/-- A tree has the same at every place as another, and its directories list the same names in orders
of their own. -/
structure Relisted (t t' : FileTree) : Prop where
  entryAt? : ∀ p, t'.entryAt? p = t.entryAt? p
  names? : ∀ path, Option.Rel List.Perm (t'.names? path) (t.names? path)

/-- No two entries are at one place. -/
def Distinct (t : FileTree) : Prop := (t.entries.map Prod.fst).Nodup

/-! ### Trees with the same at every place -/

section Same
variable {t t' : FileTree} (h : ∀ p, t'.entryAt? p = t.entryAt? p)
include h

theorem requireDirectory_congr (p : Place) : t'.requireDirectory p = t.requireDirectory p := by
  rw [requireDirectory, requireDirectory, h]

theorem walk_congr (p : Place) (ss : List String) : t'.walk p ss = t.walk p ss := by
  induction ss generalizing p with
  | nil => rfl
  | cons s rest ih => rw [walk, walk, requireDirectory_congr h, ih]

theorem place_congr (path : String) : t'.place path = t.place path := by
  rw [place, place, walk_congr h]

theorem find_congr (path : String) : t'.find path = t.find path := by
  simp only [find, place_congr h, h]

theorem read_congr (path : String) : t'.read path = t.read path := by
  rw [FileTree.read, FileTree.read, find_congr h]

theorem readText?_congr (path : String) : t'.readText? path = t.readText? path := by
  rw [readText?, readText?, read_congr h]

theorem isFile_congr (path : String) : t'.isFile path = t.isFile path := by
  rw [isFile, isFile, find_congr h]

theorem isDirectory_congr (path : String) : t'.isDirectory path = t.isDirectory path := by
  rw [isDirectory, isDirectory, find_congr h]

end Same

/-- A path has a listing exactly where it leads to a directory. -/
theorem isSome_names? (t : FileTree) (path : String) :
    (t.names? path).isSome = t.isDirectory path := by
  rw [FileTree.names?, isDirectory]
  split <;> rfl

/-! ### Trees with the same entries -/

theorem lookup_of_mem {es : List (Place × Entry)} {p : Place} {e : Entry}
    (hnodup : (es.map Prod.fst).Nodup) (h : (p, e) ∈ es) : es.lookup p = some e := by
  induction es with
  | nil => cases h
  | cons first rest ih =>
    rw [List.map_cons, List.nodup_cons] at hnodup
    rw [List.lookup_cons]
    rcases List.mem_cons.1 h with rfl | h
    · rw [beq_self_eq_true]
    · have hne : p ≠ first.1 := fun heq => hnodup.1 (heq ▸ List.mem_map_of_mem h)
      rw [beq_false_of_ne hne]
      exact ih hnodup.2 h

/-- Where each place is once, it does not matter in which order the entries stand. -/
theorem lookup_of_perm {es es' : List (Place × Entry)} (hnodup : (es.map Prod.fst).Nodup)
    (h : es'.Perm es) (p : Place) : es'.lookup p = es.lookup p := by
  cases hlookup : es.lookup p with
  | some e =>
    exact lookup_of_mem ((h.map Prod.fst).nodup_iff.2 hnodup)
      (h.mem_iff.2 (mem_of_lookup hlookup))
  | none =>
    rw [List.lookup_eq_none_iff] at hlookup ⊢
    exact fun e he => hlookup e (h.mem_iff.1 he)

theorem relisted_of_perm {t t' : FileTree} (ht : t.Distinct) (h : t'.entries.Perm t.entries) :
    Relisted t t' := by
  have hsame : ∀ p, t'.entryAt? p = t.entryAt? p := fun p => by
    rw [FileTree.entryAt?, FileTree.entryAt?, lookup_of_perm ht h]
  refine ⟨hsame, fun path => ?_⟩
  rw [FileTree.names?, FileTree.names?, find_congr hsame]
  split
  · exact .some (h.filterMap _)
  · exact .none

end Bindery.FileTree
