import Bindery.FileTree.Path

/-! Paths by their segments.

Joining a path to a base puts the segments one after the other (`segments_join`), a suffix goes to
the last segment (`segments_append`), and the path of the directory above keeps segments from the
front (`parent?_eq_some`). -/
namespace Bindery.Path

/-! ### Segments and texts -/

theorem separator_not_mem {α : Type} [BEq α] [LawfulBEq α] {separator : α} {xs piece : List α}
    (h : piece ∈ Text.pieces separator xs) : separator ∉ piece := by
  unfold Text.pieces at h
  induction xs generalizing piece with
  | nil =>
    rw [List.splitOn_nil, List.mem_singleton] at h
    rw [h]
    exact List.not_mem_nil
  | cons x rest ih =>
    rw [List.splitOn_cons_eq_if_modifyHead] at h
    split at h
    · rcases List.mem_cons.1 h with rfl | h
      · exact List.not_mem_nil
      · exact ih h
    · next hx =>
      cases hrest : rest.splitOn separator with
      | nil =>
        rw [hrest] at h
        cases h
      | cons first others =>
        rw [hrest, List.modifyHead_cons] at h
        rcases List.mem_cons.1 h with rfl | h
        · have hfirst := ih (hrest ▸ List.mem_cons_self)
          exact List.not_mem_cons_of_ne_of_not_mem (fun heq => hx (beq_iff_eq.2 heq.symm)) hfirst
        · exact ih (hrest ▸ List.mem_cons_of_mem _ h)

theorem slash_not_mem {path s : String} (h : s ∈ segments path) : '/' ∉ s.toList := by
  obtain ⟨piece, hpiece, rfl⟩ := List.mem_map.1 h
  rw [String.toList_ofList]
  exact separator_not_mem hpiece

theorem segments_ne_nil (path : String) : segments path ≠ [] :=
  fun h => List.splitOn_ne_nil '/' path.toList (List.map_eq_nil_iff.1 h)

theorem toList_segments (path : String) :
    (segments path).map String.toList = path.toList.splitOn '/' := by
  simp [segments, Text.pieces, Function.comp_def]

/-- Segments with slashes between them are the path. -/
theorem intercalate_segments (path : String) : "/".intercalate (segments path) = path := by
  refine String.ext ?_
  rw [String.toList_intercalate, toList_segments]
  exact List.intercalate_splitOn '/'

theorem segments_injective {a b : String} (h : segments a = segments b) : a = b := by
  rw [← intercalate_segments a, h, intercalate_segments]

theorem segments_intercalate {ss : List String} (h : ∀ s ∈ ss, '/' ∉ s.toList) (hne : ss ≠ []) :
    segments ("/".intercalate ss) = ss := by
  have hsplit : ("/".intercalate ss).toList.splitOn '/' = ss.map String.toList := by
    rw [String.toList_intercalate]
    refine List.splitOn_intercalate '/' ?_ (by simpa using hne)
    simpa using h
  rw [segments, Text.pieces, hsplit, List.map_map]
  simp [Function.comp_def]

@[simp] theorem segments_empty : segments "" = [""] := rfl

theorem segments_slash (a b : String) : segments (a ++ "/" ++ b) = segments a ++ segments b := by
  have hlist : (a ++ "/" ++ b).toList = a.toList ++ '/' :: b.toList := by
    rw [String.toList_append, String.toList_append, List.append_assoc]
    rfl
  simp only [segments, Text.pieces, hlist, List.splitOn_append_cons_self, List.map_append]

/-- A slash in front stands between nothing and the rest. -/
theorem segments_root (a : String) : segments ("/" ++ a) = "" :: segments a := by
  have h := segments_slash "" a
  rwa [String.empty_append, segments_empty] at h

/-! ### The last segment -/

/-- The segments before the last. -/
def above (path : String) : List String := (segments path).dropLast

/-- The last segment. -/
def name (path : String) : String := (segments path).getLast (segments_ne_nil path)

theorem segments_eq (path : String) : segments path = above path ++ [name path] :=
  (List.dropLast_concat_getLast _).symm

theorem intercalate_concat_append (ss : List String) (last suffix : String) :
    "/".intercalate (ss ++ [last ++ suffix]) = "/".intercalate (ss ++ [last]) ++ suffix := by
  by_cases hss : ss = []
  · subst hss
    simp
  · rw [String.intercalate_append_of_ne_nil hss (by simp),
      String.intercalate_append_of_ne_nil hss (by simp), String.intercalate_singleton,
      String.intercalate_singleton, String.append_assoc, String.append_assoc, String.append_assoc]

/-- A suffix goes to the last segment. -/
theorem segments_append {path suffix : String} (h : '/' ∉ suffix.toList) :
    segments (path ++ suffix) = above path ++ [name path ++ suffix] := by
  have hpath : path ++ suffix = "/".intercalate (above path ++ [name path ++ suffix]) := by
    rw [intercalate_concat_append, ← segments_eq, intercalate_segments]
  rw [hpath]
  refine segments_intercalate ?_ (by simp)
  intro s hs
  rcases List.mem_append.1 hs with hs | hs
  · exact slash_not_mem (List.dropLast_subset _ hs)
  · rw [List.mem_singleton.1 hs, String.toList_append, List.mem_append]
    rintro (hmem | hmem)
    · exact slash_not_mem (List.getLast_mem _) hmem
    · exact h hmem

theorem above_append {path suffix : String} (h : '/' ∉ suffix.toList) :
    above (path ++ suffix) = above path := by
  rw [above, segments_append h, List.dropLast_concat]

theorem name_append {path suffix : String} (h : '/' ∉ suffix.toList) :
    name (path ++ suffix) = name path ++ suffix := by
  have heq := segments_eq (path ++ suffix)
  rw [segments_append h, above_append h] at heq
  exact (List.singleton_inj.1 (List.append_cancel_left heq)).symm

/-! ### The directory above -/

theorem prefix_dropEnd {α : Type} (p : α → Bool) (xs : List α) : Text.dropEnd p xs <+: xs := by
  have h := List.dropWhile_suffix (l := xs.reverse) p
  rwa [← List.reverse_prefix, List.reverse_reverse] at h

theorem exists_dropEnd {α : Type} (p : α → Bool) (xs : List α) :
    ∃ rest, xs = Text.dropEnd p xs ++ rest ∧ ∀ x ∈ rest, p x = true := by
  refine ⟨(xs.reverse.takeWhile p).reverse, ?_, fun x hx => ?_⟩
  · rw [Text.dropEnd, ← List.reverse_append, List.takeWhile_append_dropWhile, List.reverse_reverse]
  · exact List.all_eq_true.1 List.all_takeWhile x (List.mem_reverse.1 hx)

/-- What is trimmed leads nowhere. -/
theorem exists_idle (keepsDot : Bool) (ss : List String) :
    ∃ idle, ss = trimmed keepsDot ss ++ idle ∧ ∀ s ∈ idle, s = "" ∨ s = "." := by
  cases ss with
  | nil => exact ⟨[], rfl, nofun⟩
  | cons first rest =>
    obtain ⟨idle, hrest, hidle⟩ := exists_dropEnd (fun s => s = "" ∨ s = ".") rest
    have hidle : ∀ s ∈ idle, s = "" ∨ s = "." := fun s hs => of_decide_eq_true (hidle s hs)
    rw [trimmed]
    split
    · next hnone =>
      rw [hnone, List.nil_append] at hrest
      split
      · next hfirst =>
        exact ⟨first :: rest, rfl,
          List.forall_mem_cons.2 ⟨hfirst.imp_right And.left, hrest ▸ hidle⟩⟩
      · exact ⟨idle, by rw [hrest]; rfl, hidle⟩
    · exact ⟨idle, by rw [List.cons_append, ← hrest], hidle⟩

theorem prefix_trimmed (keepsDot : Bool) (ss : List String) : trimmed keepsDot ss <+: ss := by
  cases ss with
  | nil => exact List.prefix_rfl
  | cons first rest =>
    have hrest := prefix_dropEnd (fun s => s = "" ∨ s = ".") rest
    rw [trimmed]
    split
    · split
      · exact List.nil_prefix
      · exact (List.prefix_append _ rest)
    · next hne => exact List.cons_prefix_cons.2 ⟨rfl, hrest⟩

theorem prefix_dropLast {α : Type} {a b : List α} (h : a <+: b) : a.dropLast <+: b.dropLast := by
  obtain ⟨c, rfl⟩ := h
  cases c with
  | nil =>
    simp only [List.append_nil, List.prefix_rfl]
  | cons x rest =>
    rw [List.dropLast_append_of_ne_nil (List.cons_ne_nil x rest)]
    exact (List.dropLast_prefix a).trans (List.prefix_append a _)

theorem prefix_intercalate {a b : List String} (h : a <+: b) :
    ("/".intercalate a).toList <+: ("/".intercalate b).toList := by
  obtain ⟨c, rfl⟩ := h
  by_cases ha : a = []
  · subst ha
    exact List.nil_prefix
  by_cases hc : c = []
  · simp only [hc, List.append_nil, List.prefix_rfl]
  · rw [String.intercalate_append_of_ne_nil ha hc, String.toList_append, String.toList_append,
      List.append_assoc]
    exact List.prefix_append _ _

/-- Segments from the front of a path give them back. An empty one stands where there is none. -/
theorem segments_prefix_intercalate {path : String} {ss : List String} (h : ss <+: segments path) :
    segments ("/".intercalate ss) = ss ∨ segments ("/".intercalate ss) = ss ++ [""] := by
  by_cases hss : ss = []
  · subst hss
    exact .inr rfl
  · exact .inl (segments_intercalate (fun s hs => slash_not_mem (h.subset hs)) hss)

theorem prefix_segments_intercalate {path : String} {ss : List String} (h : ss <+: segments path) :
    ss <+: segments ("/".intercalate ss) := by
  rcases segments_prefix_intercalate h with h | h
  · exact h.symm ▸ List.prefix_rfl
  · rw [h]
    exact List.prefix_append ss _

theorem isAbsolute_root (path : String) : isAbsolute ("/" ++ path) = true := by
  rw [isAbsolute, String.toList_append]
  rfl

/-- What follows a text makes no path absolute. -/
theorem isAbsolute_append {a : String} (h : a ≠ "") (b : String) :
    isAbsolute (a ++ b) = isAbsolute a := by
  rw [isAbsolute, isAbsolute, String.toList_append]
  cases ha : a.toList with
  | nil => exact absurd (String.ext ha) h
  | cons c rest => rfl

/-- A path that begins a relative one is relative. -/
theorem isAbsolute_mono {a b : String} (h : a.toList <+: b.toList)
    (hb : isAbsolute b = false) : isAbsolute a = false := by
  by_cases ha : a = ""
  · subst ha
    rfl
  · obtain ⟨rest, hrest⟩ := h
    have hb' : b = a ++ String.ofList rest := by
      refine String.ext ?_
      rw [String.toList_append, String.toList_ofList, hrest]
    rwa [hb', isAbsolute_append ha] at hb

theorem eq_root_append {path : String} (h : isAbsolute path = true) :
    path = "/" ++ String.ofList (path.toList.drop 1) := by
  refine String.ext ?_
  rw [String.toList_append, String.toList_ofList]
  cases hpath : path.toList with
  | nil => simp [isAbsolute, hpath] at h
  | cons c rest =>
    have hc : c = '/' := by simpa [isAbsolute, hpath] using h
    rw [hc, List.drop_one, List.tail_cons, String.toList_ofList]
    rfl

theorem above_root (path : String) : above ("/" ++ path) = "" :: above path := by
  rw [above, segments_root, List.dropLast_cons_of_ne_nil (segments_ne_nil path)]
  rfl

/-- The segments that are left of the directory above. -/
theorem trimmed_above (keepsDot : Bool) (path : String) :
    trimmed keepsDot (trimmed keepsDot (segments path)).dropLast <+: above path :=
  (prefix_trimmed _ _).trans (prefix_dropLast (prefix_trimmed _ _))

/-- The directory above a path from the root. -/
theorem parent?_root (path : String) : parent? ("/" ++ path) =
    if (trimmed false (segments path)).isEmpty then none
    else some ("/" ++
      "/".intercalate (trimmed false (trimmed false (segments path)).dropLast)) := by
  have hrelative : String.ofList (("/" ++ path).toList.drop 1) = path := by
    rw [String.toList_append]
    exact String.ofList_toList
  rw [parent?, isAbsolute_root]
  simp only [hrelative, Bool.not_true, if_true]

theorem parent?_relative {path : String} (h : isAbsolute path = false) : parent? path =
    if (trimmed true (segments path)).isEmpty then none
    else some ("/".intercalate (trimmed true (trimmed true (segments path)).dropLast)) := by
  rw [parent?, h]
  simp only [Bool.not_false, Bool.false_eq_true, if_false]

/-- The path of the directory above begins as the path does, and its segments are from the front of
those before the last. -/
theorem parent?_eq_some {path parent : String} (h : parent? path = some parent) :
    parent.toList <+: path.toList ∧ isAbsolute parent = isAbsolute path ∧
      ∃ ss, ss <+: above path ∧ (segments parent = ss ∨ segments parent = ss ++ [""]) := by
  by_cases habs : isAbsolute path = true
  · obtain ⟨relative, rfl⟩ : ∃ relative, path = "/" ++ relative := ⟨_, eq_root_append habs⟩
    rw [parent?_root] at h
    split at h
    · cases h
    · have hss := trimmed_above false relative
      generalize trimmed false (trimmed false (segments relative)).dropLast = ss at h hss
      obtain rfl := Option.some.inj h
      have hfront : ss <+: segments relative := hss.trans (List.dropLast_prefix _)
      refine ⟨?_, ?_, "" :: ss, ?_, ?_⟩
      · rw [String.toList_append, String.toList_append, ← intercalate_segments relative]
        exact (List.prefix_append_right_inj _).2 (prefix_intercalate hfront)
      · rw [isAbsolute_root, isAbsolute_root]
      · rw [above_root]
        exact List.cons_prefix_cons.2 ⟨rfl, hss⟩
      · rw [segments_root, List.cons_append, List.cons_inj_right, List.cons_inj_right]
        exact segments_prefix_intercalate hfront
  · rw [Bool.not_eq_true] at habs
    rw [parent?_relative habs] at h
    split at h
    · cases h
    · have hss := trimmed_above true path
      generalize trimmed true (trimmed true (segments path)).dropLast = ss at h hss
      obtain rfl := Option.some.inj h
      have hfront : ss <+: segments path := hss.trans (List.dropLast_prefix _)
      have hbegins : ("/".intercalate ss).toList <+: path.toList := by
        rw [← intercalate_segments path]
        exact prefix_intercalate hfront
      refine ⟨hbegins, ?_, ss, hss, segments_prefix_intercalate hfront⟩
      rw [isAbsolute_mono hbegins habs, habs]

/-! ### Paths under a base -/

/-- The segments of a path under a base that the base brings. -/
def baseSegments (base : String) : List String :=
  if base = "" then []
  else if base.toList.getLast? = some '/' then above base
  else segments base

theorem segments_join {base path : String} (h : isAbsolute path = false) :
    segments (join base path) = baseSegments base ++ segments path := by
  rw [join, h, if_neg Bool.false_ne_true, baseSegments]
  by_cases hempty : base = ""
  · rw [if_pos (.inl hempty), if_pos hempty, hempty, String.empty_append, List.nil_append]
  rw [if_neg hempty]
  by_cases hslash : base.toList.getLast? = some '/'
  · rw [if_pos (.inr hslash), if_pos hslash]
    obtain ⟨front, hlist⟩ := List.getLast?_eq_some_iff.1 hslash
    have hbase : base = String.ofList front ++ "/" := by
      refine String.ext ?_
      rw [String.toList_append, String.toList_ofList]
      exact hlist
    generalize String.ofList front = front at hbase
    subst hbase
    have hfront := segments_slash front ""
    rw [String.append_empty, segments_empty] at hfront
    rw [segments_slash, above, hfront, List.dropLast_concat]
  · rw [if_neg (not_or.2 ⟨hempty, hslash⟩), if_neg hslash, segments_slash]

theorem isAbsolute_join {base path : String} (h : isAbsolute path = false) :
    isAbsolute (join base path) = isAbsolute base := by
  rw [join, h, if_neg Bool.false_ne_true]
  by_cases hempty : base = ""
  · rw [if_pos (.inl hempty), hempty, String.empty_append, h]
    rfl
  · split
    · exact isAbsolute_append hempty path
    · rw [String.append_assoc]
      exact isAbsolute_append hempty _

end Bindery.Path
