import Bindery.Proofs.FileTree.Look
import Bindery.Proofs.Output.Target

/-! Targets prepared in two trees.

Preparing makes the directory that a target lies in. The path can lead through no other directory
but the place of the target itself (`Path.mem_route_above`), so once the directory is made nothing
else on the way can be missing (`isOpen_of_prepare`). A tree may be ahead of another by directories
on the way: preparing has the same result in both, and the temporary file can be made in both or in
neither (`prepare_ahead`, `free_iff`). -/
namespace Bindery.OutputFile

open FileTree

variable {t s u : FileTree} {target : String} {d : Place}

/-- The places that the path of a target leads through. -/
def way (target : String) : List Place := (start target).route (Path.above target)

/-- Once the directory of a target is made, all that its path leads through is there, but for the
place of the target itself. -/
theorem isOpen_of_prepare (h : (prepare t target).2 = .ok ()) (hd : d ∈ way target) :
    (prepare t target).1.Open d ∨ d = Place.ofPath target := by
  rcases Path.mem_route_above hd with rfl | rfl | ⟨parent, hparent, hne, hd⟩
  · exact .inl (open_start _ target)
  · exact .inr rfl
  · refine .inl ?_
    have hopen := (makeDirectories_spec t parent).2
    unfold prepare at h ⊢
    simp only [hparent, if_neg hne] at h ⊢
    split at h
    · next hmade =>
      rw [hmade] at hopen
      exact hopen rfl d hd
    · cases h

/-- **Preparing is in step.** -/
theorem prepare_ahead (h : ∀ d ∈ way target, Ahead s u d) :
    (prepare s target).2 = (prepare u target).2 ∧
      ∀ r, InStep s u (prepare s target).1 (prepare u target).1 r := by
  unfold prepare
  split
  · exact ⟨rfl, .refl s u⟩
  next parent hparent =>
  split
  · exact ⟨rfl, .refl s u⟩
  obtain ⟨hresult, hplaces⟩ := makeDirectories_ahead fun d hd => h d (mem_route_parent hparent hd)
  cases hs : s.makeDirectories parent with
  | mk s' made =>
  cases hu : u.makeDirectories parent with
  | mk u' made' =>
  rw [hs, hu] at hresult hplaces
  obtain rfl : made = made' := hresult
  cases made with
  | ok _ => exact ⟨rfl, hplaces⟩
  | error _ => exact ⟨rfl, hplaces⟩

/-- The temporary file of a target can be made. -/
def Free (t : FileTree) (target : String) : Prop :=
  t.place (tempOf target) = .ok (Place.ofPath (tempOf target)) ∧
    t.entryAt? (Place.ofPath (tempOf target)) ≠ some .directory

theorem place_tempOf_iff :
    t.place (tempOf target) = .ok (Place.ofPath (tempOf target)) ↔
      Possible (tempOf target) ∧ (∀ d ∈ way target, t.Open d) ∧
        isNameTooLong (Place.ofPath (tempOf target)) = false := by
  rw [place_eq_ok, start_tempOf, above_tempOf]
  exact ⟨fun h => ⟨h.1, h.2.1, h.2.2.1⟩, fun h => ⟨h.1, h.2.1, h.2.2, rfl⟩⟩

/-- **Once a target is prepared in both trees, its temporary file can be made in both or in
neither.** -/
theorem free_iff (hway : ∀ d ∈ way target, Ahead s u d)
    (hspots : ∀ r ∈ spots target, s.look r = u.look r) (hok : (prepare u target).2 = .ok ()) :
    Free (prepare s target).1 target ↔ Free (prepare u target).1 target := by
  obtain ⟨hresult, hplaces⟩ := prepare_ahead hway
  have hlook : ∀ r ∈ spots target, (prepare s target).1.look r = (prepare u target).1.look r :=
    fun r hr => (hplaces r).look (hspots r hr)
  have hdirectory : ∀ r ∈ spots target, (prepare s target).1.entryAt? r = some .directory ↔
      (prepare u target).1.entryAt? r = some .directory := fun r hr => by
    rw [← look_eq_directory, hlook r hr, look_eq_directory]
  have hopen : ∀ d ∈ way target,
      (prepare s target).1.Open d ↔ (prepare u target).1.Open d := by
    intro d hd
    by_cases hself : d = Place.ofPath target
    · subst hself
      exact and_congr_right fun _ => hdirectory _ List.mem_cons_self
    · exact iff_of_true ((isOpen_of_prepare (hresult.trans hok) hd).resolve_right hself)
        ((isOpen_of_prepare hok hd).resolve_right hself)
  rw [Free, Free, place_tempOf_iff, place_tempOf_iff, forall₂_congr hopen, ne_eq, ne_eq,
    hdirectory _ (List.mem_cons_of_mem _ List.mem_cons_self)]

end Bindery.OutputFile
