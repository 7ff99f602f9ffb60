import Bindery.Output.File
import Bindery.Proofs.FileTree.Route

/-! Targets and their temporary files.

The two lie beside each other, at places that are never the same (`ofPath_ne_tempOf`), and where one
can be the other can be (`place_of_tempOf`). Preparing for a target makes directories on the route to
it, and none where the target can be found (`prepare_of_open`). -/
namespace Bindery.OutputFile

open FileTree

variable {t : FileTree} {target : String} {p q : Place}

/-! ### Places beside each other -/

theorem slash_not_mem_temp : '/' ∉ ".temp".toList := by decide

theorem above_tempOf (target : String) : Path.above (tempOf target) = Path.above target :=
  Path.above_append slash_not_mem_temp

theorem name_tempOf (target : String) : Path.name (tempOf target) = Path.name target ++ ".temp" :=
  Path.name_append slash_not_mem_temp

theorem start_tempOf (target : String) : start (tempOf target) = start target := by
  by_cases h : target = ""
  · subst h
    rfl
  · rw [start, start, tempOf, Path.isAbsolute_append h]

/-- The place above a path, where its last segment is taken. -/
def placeAbove (path : String) : Place := (start path).steps (Path.above path)

/-- The place of the temporary file: beside that of the target. -/
theorem ofPath_tempOf (target : String) :
    Place.ofPath (tempOf target) = placeAbove target ++ [Path.name target ++ ".temp"] := by
  have hlength : 5 ≤ (Path.name target ++ ".temp").toList.length := by
    rw [String.toList_append, List.length_append]
    exact Nat.le_add_left 5 _
  have hne : ∀ s : String, s.toList.length < 5 → Path.name target ++ ".temp" ≠ s := by
    rintro s hs rfl
    omega
  rw [Place.ofPath_eq, start_tempOf, above_tempOf, name_tempOf, Place.step,
    if_neg (not_or.2 ⟨hne "" (by decide), hne "." (by decide)⟩), if_neg (hne ".." (by decide))]
  rfl

/-- The places of a target and of its temporary file. -/
def spots (target : String) : List Place := [Place.ofPath target, Place.ofPath (tempOf target)]

theorem ofPath_eq_step (target : String) :
    Place.ofPath target = (placeAbove target).step (Path.name target) := Place.ofPath_eq target

theorem name_ne_append (s : String) : s ≠ s ++ ".temp" := by
  intro h
  have hlength := congrArg (·.toList.length) h
  simp at hlength

/-- One segment leads to the place itself, one up or one down. -/
theorem step_cases (p : Place) (s : String) :
    p.step s = p ∨ p.step s = p.dropLast ∨ p.step s = p ++ [".."] ∨ p.step s = p ++ [s] := by
  unfold Place.step
  split
  · exact .inl rfl
  · split
    · unfold Place.up
      split
      · exact .inl rfl
      · split
        · exact .inr (.inr (.inl rfl))
        · exact .inr (.inl rfl)
    · exact .inr (.inr (.inr rfl))

/-- A target is never its own temporary file. -/
theorem ofPath_ne_tempOf (target : String) :
    Place.ofPath target ≠ Place.ofPath (tempOf target) := by
  rw [ofPath_tempOf, ofPath_eq_step]
  intro h
  rcases step_cases (placeAbove target) (Path.name target) with hs | hs | hs | hs
  · rw [hs] at h
    simpa using congrArg List.length h
  · rw [hs] at h
    have hlength := congrArg List.length h
    simp only [List.length_dropLast, List.length_append, List.length_singleton] at hlength
    omega
  · rw [hs] at h
    have hname := List.singleton_inj.1 (List.append_cancel_left h)
    have hlength := congrArg (·.toList.length) hname
    simp at hlength
  · rw [hs] at h
    exact name_ne_append _ (List.singleton_inj.1 (List.append_cancel_left h))

theorem isImpossible_mono {a b : String} (h : a.toList <+: b.toList)
    (hb : isImpossible b = false) : isImpossible a = false := by
  obtain ⟨rest, hrest⟩ := h
  have hb' : b = a ++ String.ofList rest := by
    refine String.ext ?_
    rw [String.toList_append, String.toList_ofList, hrest]
  rw [hb'] at hb
  simp only [isImpossible, String.utf8ByteSize_append, String.toList_append, Bool.or_eq_false_iff,
    decide_eq_false_iff_not] at hb ⊢
  refine ⟨by omega, ?_⟩
  simp_all

theorem toList_prefix_tempOf (target : String) : target.toList <+: (tempOf target).toList := by
  rw [tempOf, String.toList_append]
  exact List.prefix_append _ _

/-- Where a temporary file can be, there can be its target. -/
theorem place_of_tempOf (hne : target ≠ "") (h : t.place (tempOf target) = .ok q) :
    t.place target = .ok (Place.ofPath target) := by
  obtain ⟨hpossible, hopen, hname, rfl⟩ := place_eq_ok.1 h
  rw [start_tempOf, above_tempOf] at hopen
  rw [ofPath_tempOf] at hname
  refine place_eq_ok.2 ⟨⟨hne, isImpossible_mono (toList_prefix_tempOf target) hpossible.short⟩,
    hopen, ?_, rfl⟩
  simp only [isNameTooLong, List.any_append, List.any_cons, List.any_nil, Bool.or_false,
    Bool.or_eq_false_iff, decide_eq_false_iff_not, String.utf8ByteSize_append] at hname
  rw [ofPath_eq_step, isNameTooLong, List.any_eq_false]
  obtain ⟨habove, hlast⟩ := hname
  rw [List.any_eq_false] at habove
  intro s hs
  rcases step_cases (placeAbove target) (Path.name target) with hstep | hstep | hstep | hstep
  · exact habove s (hstep ▸ hs)
  · exact habove s (List.dropLast_subset _ (hstep ▸ hs))
  · rcases List.mem_append.1 (hstep ▸ hs) with hs | hs
    · exact habove s hs
    · rw [List.mem_singleton.1 hs]
      decide
  · rcases List.mem_append.1 (hstep ▸ hs) with hs | hs
    · exact habove s hs
    · rw [List.mem_singleton.1 hs]
      simp only [decide_eq_true_eq]
      omega

/-! ### Preparing -/

/-- The segments of the directory above lead over the route to the target. -/
theorem mem_route_parent {parent : String} (h : Path.parent? target = some parent) {d : Place}
    (hd : d ∈ (start parent).route (Path.segments parent)) :
    d ∈ (start target).route (Path.above target) := by
  obtain ⟨-, habsolute, ss, hss, hsegments⟩ := Path.parent?_eq_some h
  have hstart : start parent = start target := by rw [start, start, habsolute]
  rw [hstart] at hd
  refine Place.route_subset hss ?_
  rcases hsegments with hsegments | hsegments
  · rwa [hsegments] at hd
  · rw [hsegments] at hd
    exact Place.mem_route_concat_empty.1 hd

/-- Preparing makes directories on the route and does nothing else. -/
theorem prepare_grown (t : FileTree) (target : String) :
    Grown t (prepare t target).1 ((start target).route (Path.above target)) := by
  unfold prepare
  split
  · exact .refl t _
  · next parent hparent =>
    split
    · exact .refl t _
    · have hgrown := (makeDirectories_spec t parent).1.mono fun d hd =>
        mem_route_parent hparent hd
      split
      · next hmade =>
        rw [hmade] at hgrown
        exact hgrown
      · next hmade =>
        rw [hmade] at hgrown
        exact hgrown

/-- Nothing is to be prepared where the route is open. -/
theorem prepare_of_open (hshort : isImpossible target = false)
    (h : ∀ d ∈ (start target).route (Path.above target), t.Open d) :
    prepare t target = (t, .ok ()) := by
  unfold prepare
  split
  · rfl
  · next parent hparent =>
    split
    · rfl
    · rw [makeDirectories_of_open (isImpossible_mono (Path.parent?_eq_some hparent).1 hshort)
        fun d hd => h d (mem_route_parent hparent hd)]

end Bindery.OutputFile
