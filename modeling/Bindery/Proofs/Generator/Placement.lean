import Bindery.Proofs.Generator.Layout
import Bindery.Proofs.Output.Target

/-! Where pages lie.

Categories have identifiers for names, so that every segment of a page's path is a name that leads
one further down and is not that of a temporary file (`proper_of_mem_pagesOf`). Two pages under one
directory then lie at one place only if they have one path, and neither is in the way of the other's
temporary file. -/
namespace Bindery

/-- A segment that leads to something below, which is no temporary file. -/
structure Proper (s : String) : Prop where
  below : s ≠ "" ∧ s ≠ "." ∧ s ≠ ".."
  lasting : ¬ ".temp".toList <:+ s.toList

instance (s : String) : Decidable (Proper s) :=
  decidable_of_iff ((s ≠ "" ∧ s ≠ "." ∧ s ≠ "..") ∧ ¬ ".temp".toList <:+ s.toList)
    ⟨fun h => ⟨h.1, h.2⟩, fun h => ⟨h.below, h.lasting⟩⟩

/-- No proper segment is the name of a temporary file. -/
theorem Proper.ne_temp {s : String} (h : Proper s) (name : String) : s ≠ name ++ ".temp" := by
  rintro rfl
  refine h.lasting ?_
  rw [String.toList_append]
  exact List.suffix_append _ _

namespace Place

theorem step_of_proper {s : String} (h : Proper s) (p : Place) : p.step s = p ++ [s] := by
  obtain ⟨hempty, hdot, hdots⟩ := h.below
  rw [step, if_neg (not_or.2 ⟨hempty, hdot⟩), if_neg hdots]

theorem steps_of_proper {ss : List String} (h : ∀ s ∈ ss, Proper s) (p : Place) :
    p.steps ss = p ++ ss := by
  induction ss generalizing p with
  | nil => rw [steps_nil, List.append_nil]
  | cons s rest ih =>
    rw [List.forall_mem_cons] at h
    rw [steps_cons, step_of_proper h.1, ih h.2, List.append_assoc, List.singleton_append]

/-- Proper segments lead only to places below. -/
theorem exists_of_mem_route {ss : List String} (h : ∀ s ∈ ss, Proper s) {p d : Place}
    (hd : d ∈ p.route ss) : ∃ front, front <+: ss ∧ d = p ++ front := by
  induction ss generalizing p with
  | nil =>
    rw [List.mem_singleton.1 hd]
    exact ⟨[], List.prefix_rfl, (List.append_nil p).symm⟩
  | cons s rest ih =>
    rw [List.forall_mem_cons] at h
    rcases List.mem_cons.1 hd with rfl | hd
    · exact ⟨[], List.nil_prefix, (List.append_nil _).symm⟩
    · rw [step_of_proper h.1] at hd
      obtain ⟨front, hfront, rfl⟩ := ih h.2 hd
      refine ⟨s :: front, List.cons_prefix_cons.2 ⟨rfl, hfront⟩, ?_⟩
      rw [List.append_assoc, List.singleton_append]

end Place

namespace Generator

/-! ### Pages -/

namespace Pattern

/-- Around a name without slashes, the pattern makes proper segments. -/
def Plain (f : Pattern) : Prop :=
  (∀ s ∈ Path.above f.before, Proper s) ∧ '/' ∉ f.after.toList ∧
    f.after.toList.any (· ≠ '.') = true ∧ ¬ (".temp".toList <:+ f.after.toList ∨
      f.after.toList <:+ ".temp".toList)

instance (f : Pattern) : Decidable f.Plain := by
  unfold Plain
  infer_instance

theorem plain_all (platform : Platform) : ∀ f ∈ all platform, f.Plain := by
  cases platform <;> decide +kernel

theorem Plain.proper {f : Pattern} (h : f.Plain) {name : String} (hname : '/' ∉ name.toList) :
    ∀ s ∈ Path.segments (f.path name), Proper s := by
  obtain ⟨habove, hslash, hany, htemp⟩ := h
  obtain ⟨c, hc, hdot⟩ := List.any_eq_true.1 hany
  replace hdot : c ≠ '.' := of_decide_eq_true hdot
  have hrest : '/' ∉ (name ++ f.after).toList := by
    rw [String.toList_append, List.mem_append]
    exact not_or.2 ⟨hname, hslash⟩
  rw [path, String.append_assoc, Path.segments_append hrest]
  intro s hs
  rcases List.mem_append.1 hs with hs | hs
  · exact habove s hs
  obtain rfl := List.mem_singleton.1 hs
  have hlist : (Path.name f.before ++ (name ++ f.after)).toList =
      (Path.name f.before ++ name).toList ++ f.after.toList := by
    rw [← String.append_assoc, String.toList_append]
  have hmem : c ∈ (Path.name f.before ++ (name ++ f.after)).toList := by
    rw [hlist]
    exact List.mem_append_right _ hc
  refine ⟨⟨?_, ?_, ?_⟩, fun hsuffix => htemp ?_⟩
  · intro h
    rw [h] at hmem
    simp at hmem
  · intro h
    rw [h] at hmem
    exact hdot (by simpa using hmem)
  · intro h
    rw [h] at hmem
    exact hdot (by simpa using hmem)
  · rw [hlist] at hsuffix
    exact List.suffix_or_suffix_of_suffix hsuffix (List.suffix_append _ _)

end Pattern

theorem slash_not_mem_of_isIdentifier {name : String} (h : Text.isIdentifier name = true) :
    '/' ∉ name.toList := by
  have hpart : ∀ c ∈ name.toList, (Text.isNameStart c || Text.isNamePart c) = true := by
    rw [Text.isIdentifier] at h
    cases hlist : name.toList with
    | nil => exact List.forall_mem_nil _
    | cons first rest =>
      rw [hlist, Text.isIdentifierChars, Bool.and_eq_true, List.all_eq_true] at h
      rw [List.forall_mem_cons]
      refine ⟨by rw [h.1, Bool.true_or], fun c hc => ?_⟩
      rw [h.2 c hc, Bool.or_true]
  intro hmem
  exact absurd (hpart '/' hmem) (by decide)

theorem slash_not_mem_reserved (platform : Platform) :
    ∀ s ∈ Slot.reserved platform, '/' ∉ s.2.toList := by
  cases platform <;> decide +kernel

/-- The paths of pages have proper segments. -/
theorem proper_of_mem_pagesOf (kit : Kit) (registration : Registration) {r : Registry}
    (names : ∀ c ∈ r.categories, Text.isIdentifier c.name = true) {platform : Platform}
    {page : Page} (h : page ∈ pagesOf kit registration r platform) :
    ∀ s ∈ Path.segments page.path, Proper s := by
  have hpath := (paths_pagesOf kit registration r platform).subset (List.mem_map_of_mem h)
  obtain ⟨slot, hslot, heq⟩ := List.mem_map.1 hpath
  rw [← heq]
  rcases List.mem_append.1 hslot with hslot | hslot
  · obtain ⟨c, hc, hcs⟩ := List.mem_flatMap.1 hslot
    obtain ⟨f, hf, rfl⟩ := List.mem_map.1 hcs
    have hplain := Pattern.plain_all platform f ((Pattern.ofCategory_sublist c platform).subset hf)
    exact hplain.proper (slash_not_mem_of_isIdentifier (names c hc))
  · have hown := (Slot.own_sublist r platform).subset hslot
    have hplain := Pattern.plain_all platform slot.1 (pattern_mem_of_reserved platform slot hown)
    exact hplain.proper (slash_not_mem_reserved platform slot hown)

/-! ### Places below a directory -/

section Join
variable {dir path : String}

theorem isAbsolute_of_proper (h : ∀ s ∈ Path.segments path, Proper s) :
    Path.isAbsolute path = false := by
  rw [← Bool.not_eq_true]
  intro habsolute
  rw [Path.eq_root_append habsolute, Path.segments_root] at h
  exact (h "" List.mem_cons_self).below.1 rfl

/-- The place that a directory's name leads to when something follows it. -/
def placeOf (dir : String) : Place := (FileTree.start dir).steps (Path.baseSegments dir)

theorem start_join (h : ∀ s ∈ Path.segments path, Proper s) :
    FileTree.start (Path.join dir path) = FileTree.start dir := by
  rw [FileTree.start, FileTree.start, Path.isAbsolute_join (isAbsolute_of_proper h)]

theorem segments_join (h : ∀ s ∈ Path.segments path, Proper s) :
    Path.segments (Path.join dir path) =
      (Path.baseSegments dir ++ Path.above path) ++ [Path.name path] := by
  rw [Path.segments_join (isAbsolute_of_proper h), List.append_assoc, ← Path.segments_eq]

theorem above_join (h : ∀ s ∈ Path.segments path, Proper s) :
    Path.above (Path.join dir path) = Path.baseSegments dir ++ Path.above path := by
  rw [Path.above, segments_join h, List.dropLast_concat]

theorem name_join (h : ∀ s ∈ Path.segments path, Proper s) :
    Path.name (Path.join dir path) = Path.name path := by
  have heq := Path.segments_eq (Path.join dir path)
  rw [above_join h, segments_join h] at heq
  exact (List.singleton_inj.1 (List.append_cancel_left heq)).symm

theorem proper_above (h : ∀ s ∈ Path.segments path, Proper s) : ∀ s ∈ Path.above path, Proper s :=
  fun s hs => h s (List.dropLast_subset _ hs)

theorem proper_name (h : ∀ s ∈ Path.segments path, Proper s) : Proper (Path.name path) :=
  h _ (List.getLast_mem _)

theorem ofPath_join (h : ∀ s ∈ Path.segments path, Proper s) :
    Place.ofPath (Path.join dir path) = placeOf dir ++ Path.segments path := by
  rw [Place.ofPath, start_join h, Path.segments_join (isAbsolute_of_proper h), Place.steps_append,
    Place.steps_of_proper h]
  rfl

theorem ofPath_tempOf_join (h : ∀ s ∈ Path.segments path, Proper s) :
    Place.ofPath (OutputFile.tempOf (Path.join dir path)) =
      placeOf dir ++ (Path.above path ++ [Path.name path ++ ".temp"]) := by
  rw [OutputFile.ofPath_tempOf, OutputFile.placeAbove, start_join h, above_join h, name_join h,
    Place.steps_append, Place.steps_of_proper (proper_above h), List.append_assoc]
  rfl

end Join

section Two
variable {dir path other : String} (hpath : ∀ s ∈ Path.segments path, Proper s)
  (hother : ∀ s ∈ Path.segments other, Proper s)
include hpath hother

/-- Different paths lead to different places. -/
theorem eq_of_ofPath_join
    (h : Place.ofPath (Path.join dir other) = Place.ofPath (Path.join dir path)) : other = path := by
  rw [ofPath_join hother, ofPath_join hpath] at h
  exact Path.segments_injective (List.append_cancel_left h)

/-- No page lies where a temporary file does. -/
theorem ofPath_tempOf_ne :
    Place.ofPath (OutputFile.tempOf (Path.join dir other)) ≠ Place.ofPath (Path.join dir path) := by
  rw [ofPath_tempOf_join hother, ofPath_join hpath, Path.segments_eq]
  intro h
  have hnames := (List.append_inj_right' (List.append_cancel_left h) rfl)
  exact (proper_name hpath).ne_temp _ (List.singleton_inj.1 hnames).symm

/-- Different paths have different temporary files. -/
theorem eq_of_ofPath_tempOf_join
    (h : Place.ofPath (OutputFile.tempOf (Path.join dir other)) =
      Place.ofPath (OutputFile.tempOf (Path.join dir path))) : other = path := by
  rw [ofPath_tempOf_join hother, ofPath_tempOf_join hpath] at h
  obtain ⟨habove, hname⟩ := List.append_inj' (List.append_cancel_left h) rfl
  have hlist := congrArg String.toList (List.singleton_inj.1 hname)
  rw [String.toList_append, String.toList_append] at hlist
  have hsame : Path.name other = Path.name path := String.ext (List.append_cancel_right hlist)
  refine Path.segments_injective ?_
  rw [Path.segments_eq, Path.segments_eq path, habove, hsame]

/-- A temporary file is on the way to another page only if it is above all pages. -/
theorem mem_route_of_tempOf
    (h : Place.ofPath (OutputFile.tempOf (Path.join dir path)) ∈
      (FileTree.start (Path.join dir other)).route (Path.above (Path.join dir other))) :
    Place.ofPath (OutputFile.tempOf (Path.join dir path)) ∈
      (FileTree.start (Path.join dir path)).route (Path.above (Path.join dir path)) := by
  rw [start_join hother, above_join hother, Place.mem_route_append] at h
  rw [start_join hpath, above_join hpath, Place.mem_route_append]
  rcases h with h | h
  · exact .inl h
  · rw [ofPath_tempOf_join hpath] at h
    obtain ⟨front, hfront, heq⟩ := Place.exists_of_mem_route (proper_above hother) h
    have hmem : Path.name path ++ ".temp" ∈ Path.above other := by
      refine hfront.subset ?_
      rw [← List.append_cancel_left heq]
      exact List.mem_append_right _ (List.mem_singleton_self _)
    exact absurd rfl ((proper_above hother _ hmem).ne_temp (Path.name path))

end Two

end Generator
end Bindery
