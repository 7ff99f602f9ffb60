import Bindery.FileTree.Change
import Bindery.Proofs.FileTree.Route

/-! What a tree looks like, and directories made in two trees.

The number of a file cannot be seen: trees look the same at a place where both have a directory, or
files with the same bytes, or nothing (`look`). A tree may be ahead of another by directories. As
long as that is all the difference on a route, making directories on it succeeds in both or in
neither, and leaves directories at the same places (`makeDirectories_ahead`). -/
namespace Bindery

namespace Entry

/-- An entry without the number of its file. -/
def unnumbered : Entry → Entry
  | .directory => .directory
  | .file _ bytes => .file 0 bytes

end Entry

namespace FileTree
variable {t t' s u s' u' : FileTree} {p r d : Place}

/-! ### What can be seen -/

/-- What is at a place, but for the number of a file. -/
def look (t : FileTree) (p : Place) : Option Entry := (t.entryAt? p).map Entry.unnumbered

theorem look_congr (h : t'.entryAt? p = t.entryAt? p) : t'.look p = t.look p := by
  rw [look, look, h]

theorem look_eq_none : t.look p = none ↔ t.entryAt? p = none := Option.map_eq_none_iff

theorem look_eq_directory : t.look p = some .directory ↔ t.entryAt? p = some .directory := by
  rw [look]
  cases t.entryAt? p with
  | none => exact Iff.rfl
  | some e =>
    cases e with
    | directory => exact Iff.rfl
    | file id bytes => exact iff_of_false nofun nofun

theorem look_of_file {id : Nat} {bytes : ByteArray} (h : t.entryAt? p = some (.file id bytes)) :
    t.look p = some (.file 0 bytes) := by
  rw [look, h]
  rfl

theorem bytes?_eq_look (t : FileTree) (p : Place) :
    t.bytes? p = match t.look p with
      | some (.file _ bytes) => some bytes
      | _ => none := by
  rw [bytes?, look]
  cases t.entryAt? p with
  | none => rfl
  | some e =>
    cases e with
    | directory => rfl
    | file id bytes => rfl

theorem bytes?_congr (h : t'.look p = t.look p) : t'.bytes? p = t.bytes? p := by
  rw [bytes?_eq_look, bytes?_eq_look, h]

/-- A directory that is made, for whatever reason, is no file. -/
theorem bytes?_of_made {reason : Prop} (h : t'.entryAt? p = t.entryAt? p ∨
    t.entryAt? p = none ∧ t'.entryAt? p = some .directory ∧ reason) :
    t'.bytes? p = t.bytes? p := by
  rw [bytes?, bytes?]
  rcases h with hsame | ⟨hnone, hdir, -⟩
  · rw [hsame]
  · rw [hnone, hdir]

/-! ### Directories in two trees -/

/-- The first tree has a directory where the second has nothing, or they look the same. -/
def Ahead (s u : FileTree) (d : Place) : Prop :=
  s.look d = u.look d ∨ u.entryAt? d = none ∧ s.entryAt? d = some .directory

/-- Where the second has something, the first looks the same. -/
theorem Ahead.look_eq {e : Entry} (h : Ahead s u d) (he : u.entryAt? d = some e) :
    s.look d = u.look d := by
  rcases h with hlook | ⟨hnone, -⟩
  · exact hlook
  · rw [he] at hnone
    cases hnone

/-- A directory in both leaves the first ahead. -/
theorem Ahead.of_directories {q : Place} (h : Ahead s u d)
    (hs : s'.entryAt? q = some .directory) (hu : u'.entryAt? q = some .directory)
    (hs' : ∀ r, r ≠ q → s'.entryAt? r = s.entryAt? r)
    (hu' : ∀ r, r ≠ q → u'.entryAt? r = u.entryAt? r) : Ahead s' u' d := by
  by_cases hd : d = q
  · subst hd
    exact .inl (by rw [look_eq_directory.2 hs, look_eq_directory.2 hu])
  · rwa [Ahead, look_congr (hs' d hd), look_congr (hu' d hd), hs' d hd, hu' d hd]

/-- Two trees are left at a place as they were, or both have a directory there. -/
def InStep (s u s' u' : FileTree) (r : Place) : Prop :=
  s'.entryAt? r = s.entryAt? r ∧ u'.entryAt? r = u.entryAt? r ∨
    s'.entryAt? r = some .directory ∧ u'.entryAt? r = some .directory

theorem InStep.refl (s u : FileTree) (r : Place) : InStep s u s u r := .inl ⟨rfl, rfl⟩

theorem InStep.look (h : InStep s u s' u' r) (hlook : s.look r = u.look r) :
    s'.look r = u'.look r := by
  rcases h with ⟨hs, hu⟩ | ⟨hs, hu⟩
  · rw [look_congr hs, look_congr hu, hlook]
  · rw [look_eq_directory.2 hs, look_eq_directory.2 hu]

theorem InStep.ahead (h : InStep s u s' u' r) (hahead : Ahead s u r) : Ahead s' u' r := by
  rcases h with ⟨hs, hu⟩ | ⟨hs, hu⟩
  · rwa [Ahead, look_congr hs, look_congr hu, hs, hu]
  · exact .inl (by rw [look_eq_directory.2 hs, look_eq_directory.2 hu])

/-- A directory that is made in both, or in the one where there is none. -/
theorem InStep.of_put {q : Place} (hq : q.isBase = false)
    (hs : s'.entryAt? q = some .directory) (hothers : ∀ r, r ≠ q → s'.entryAt? r = s.entryAt? r)
    (h : InStep s' (u.put q .directory) t t' r) : InStep s u t t' r := by
  rcases h with ⟨h, h'⟩ | h
  · rw [entryAt?_put hq] at h'
    by_cases hr : r = q
    · subst hr
      rw [if_pos rfl] at h'
      exact .inr ⟨h.trans hs, h'⟩
    · rw [if_neg hr] at h'
      exact .inl ⟨h.trans (hothers r hr), h'⟩
  · exact .inr h

theorem makeDirectoriesFrom_ahead {ss : List String} (h : ∀ d ∈ p.route ss, Ahead s u d) :
    (makeDirectoriesFrom s p ss).2 = (makeDirectoriesFrom u p ss).2 ∧
      ∀ r, InStep s u (makeDirectoriesFrom s p ss).1 (makeDirectoriesFrom u p ss).1 r := by
  induction ss generalizing s u p with
  | nil => exact ⟨rfl, .refl s u⟩
  | cons segment rest ih =>
    rw [Place.route, List.forall_mem_cons] at h
    have hnext := h.2 _ (Place.self_mem_route _ rest)
    simp only [makeDirectoriesFrom]
    generalize p.step segment = next at h hnext
    split
    · exact ⟨rfl, .refl s u⟩
    cases hu : u.entryAt? next with
    | some e =>
      have hlook : s.look next = u.look next := hnext.look_eq hu
      cases e with
      | directory =>
        rw [look_eq_directory.1 (hlook.trans (look_eq_directory.2 hu))]
        exact ih h.2
      | file id bytes =>
        rw [look_of_file hu] at hlook
        obtain ⟨e, he, hfile⟩ := Option.map_eq_some_iff.1 hlook
        cases e with
        | directory => cases hfile
        | file id' bytes' =>
          rw [he]
          exact ⟨rfl, .refl s u⟩
    | none =>
      have hbase := isBase_of_none hu
      have hput : ∀ t : FileTree, (t.put next .directory).entryAt? next = some .directory :=
        fun t => by rw [entryAt?_put hbase, if_pos rfl]
      have hkept : ∀ t : FileTree, ∀ r, r ≠ next →
          (t.put next .directory).entryAt? r = t.entryAt? r :=
        fun t r hr => by rw [entryAt?_put hbase, if_neg hr]
      -- Whether or not the first has the directory, both have it before they go on.
      have hgoes : ∀ s', s'.entryAt? next = some .directory →
          (∀ r, r ≠ next → s'.entryAt? r = s.entryAt? r) →
          (makeDirectoriesFrom s' next rest).2 =
              (makeDirectoriesFrom (u.put next .directory) next rest).2 ∧
            ∀ r, InStep s u (makeDirectoriesFrom s' next rest).1
              (makeDirectoriesFrom (u.put next .directory) next rest).1 r := by
        intro s' hdir hothers
        obtain ⟨hresult, hplaces⟩ := ih fun d hd =>
          (h.2 d hd).of_directories hdir (hput u) hothers (hkept u)
        exact ⟨hresult, fun r => (hplaces r).of_put hbase hdir hothers⟩
      rcases hnext with hlook | ⟨-, hdir⟩
      · rw [look_eq_none.1 (hlook.trans (look_eq_none.2 hu))]
        exact hgoes _ (hput s) (hkept s)
      · rw [hdir]
        exact hgoes s hdir fun r _ => rfl

/-- **Directories are made in step.** -/
theorem makeDirectories_ahead {path : String}
    (h : ∀ d ∈ (start path).route (Path.segments path), Ahead s u d) :
    (s.makeDirectories path).2 = (u.makeDirectories path).2 ∧
      ∀ r, InStep s u (s.makeDirectories path).1 (u.makeDirectories path).1 r := by
  rw [makeDirectories, makeDirectories]
  split
  · exact ⟨rfl, .refl s u⟩
  · exact makeDirectoriesFrom_ahead h

end FileTree
end Bindery
