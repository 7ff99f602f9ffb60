import Bindery.Proofs.FileTree.Segments
import Bindery.Proofs.FileTree.View

/-! Where paths lead.

A path leads to one place or to none: the place follows from the segments alone (`Place.ofPath`),
and the tree decides whether the directories on the route can be gone through (`place_eq_ok`). Making
directories opens a route and changes nothing else (`Grown`). Whatever is done to a tree that began
with nothing in it, its files have numbers of their own (`Made.numbered`). -/
namespace Bindery

namespace Place

/-- Segments further. -/
def steps (p : Place) (ss : List String) : Place := ss.foldl step p

/-- The places that segments lead through, with the first and the last. -/
def route (p : Place) : List String → List Place
  | [] => [p]
  | s :: rest => p :: route (p.step s) rest

@[simp] theorem steps_nil (p : Place) : p.steps [] = p := rfl

@[simp] theorem steps_cons (p : Place) (s : String) (rest : List String) :
    p.steps (s :: rest) = (p.step s).steps rest := rfl

theorem steps_append (p : Place) (a b : List String) : p.steps (a ++ b) = (p.steps a).steps b :=
  List.foldl_append

theorem self_mem_route (p : Place) (ss : List String) : p ∈ p.route ss := by
  cases ss with
  | nil => exact List.mem_singleton_self p
  | cons s rest => exact List.mem_cons_self

theorem steps_mem_route (p : Place) (ss : List String) : p.steps ss ∈ p.route ss := by
  induction ss generalizing p with
  | nil => exact List.mem_singleton_self p
  | cons s rest ih => exact List.mem_cons_of_mem _ (ih (p.step s))

theorem mem_route_append {p d : Place} {a b : List String} :
    d ∈ p.route (a ++ b) ↔ d ∈ p.route a ∨ d ∈ (p.steps a).route b := by
  induction a generalizing p with
  | nil =>
    refine ⟨.inr, ?_⟩
    rintro (h | h)
    · rw [List.mem_singleton.1 h]
      exact self_mem_route p b
    · exact h
  | cons s rest ih =>
    rw [List.cons_append, route, List.mem_cons, ih, route, List.mem_cons, or_assoc, steps_cons]

theorem route_subset {p : Place} {a b : List String} (h : a <+: b) : p.route a ⊆ p.route b := by
  obtain ⟨c, rfl⟩ := h
  exact fun d hd => mem_route_append.2 (.inl hd)

/-- Segments that never lead up lead through the places above their end only. -/
theorem prefix_of_mem_route {p d : Place} {ss : List String} (h : ".." ∉ ss)
    (hd : d ∈ p.route ss) : d <+: p.steps ss := by
  induction ss generalizing p d with
  | nil => exact List.mem_singleton.1 hd ▸ List.prefix_rfl
  | cons s rest ih =>
    rw [List.mem_cons, not_or] at h
    rcases List.mem_cons.1 hd with rfl | hd
    · have hrest : d.step s <+: (d.step s).steps rest := ih h.2 (self_mem_route _ rest)
      refine List.IsPrefix.trans ?_ hrest
      rw [step]
      split
      · exact List.prefix_rfl
      · rw [if_neg (Ne.symm h.1)]
        exact List.prefix_append d [s]
    · exact ih h.2 hd

/-- An empty segment leads nowhere else. -/
theorem mem_route_concat_empty {p d : Place} {ss : List String} :
    d ∈ p.route (ss ++ [""]) ↔ d ∈ p.route ss := by
  rw [mem_route_append]
  refine ⟨?_, .inl⟩
  rintro (h | h)
  · exact h
  · have hd : d = p.steps ss := by simpa [route, step] using h
    rw [hd]
    exact steps_mem_route p ss

/-- The place that a path leads to, if it leads anywhere. -/
def ofPath (path : String) : Place := (FileTree.start path).steps (Path.segments path)

theorem ofPath_eq (path : String) :
    ofPath path = ((FileTree.start path).steps (Path.above path)).step (Path.name path) := by
  rw [ofPath, Path.segments_eq, steps_append]
  rfl

/-! ### Segments that lead nowhere -/

section Idle
variable {p d : Place} {ss : List String}

theorem step_idle {s : String} (h : s = "" ∨ s = ".") : p.step s = p := if_pos h

theorem steps_idle (h : ∀ s ∈ ss, s = "" ∨ s = ".") : p.steps ss = p := by
  induction ss with
  | nil => rfl
  | cons s rest ih =>
    rw [List.forall_mem_cons] at h
    rw [steps_cons, step_idle h.1, ih h.2]

theorem eq_of_mem_route_idle (h : ∀ s ∈ ss, s = "" ∨ s = ".") (hd : d ∈ p.route ss) : d = p := by
  induction ss with
  | nil => exact List.mem_singleton.1 hd
  | cons s rest ih =>
    rw [List.forall_mem_cons] at h
    rw [route, step_idle h.1] at hd
    rcases List.mem_cons.1 hd with hd | hd
    · exact hd
    · exact ih h.2 hd

theorem mem_route_append_idle {idle : List String} (h : ∀ s ∈ idle, s = "" ∨ s = ".")
    (hd : d ∈ p.route (ss ++ idle)) : d ∈ p.route ss := by
  rcases mem_route_append.1 hd with hd | hd
  · exact hd
  · rw [eq_of_mem_route_idle h hd]
    exact steps_mem_route p ss

/-- Segments before the last lead over those that are left of the directory above, and from there
only to where they all lead. -/
theorem mem_route_dropLast (keepsDot : Bool) (hd : d ∈ p.route ss.dropLast) :
    d ∈ p.route (Path.trimmed keepsDot (Path.trimmed keepsDot ss).dropLast) ∨ d = p.steps ss := by
  obtain ⟨idle, hss, hidle⟩ := Path.exists_idle keepsDot ss
  obtain ⟨idle', habove, hidle'⟩ :=
    Path.exists_idle keepsDot (Path.trimmed keepsDot ss).dropLast
  generalize Path.trimmed keepsDot ss = kept at hss habove
  generalize Path.trimmed keepsDot kept.dropLast = above at habove
  subst hss
  have hwithin : d ∈ p.route kept.dropLast → d ∈ p.route above := fun hd => by
    rw [habove] at hd
    exact mem_route_append_idle hidle' hd
  rcases List.eq_nil_or_concat idle with rfl | ⟨front, last, rfl⟩
  · rw [List.append_nil] at hd
    exact .inl (hwithin hd)
  rw [List.concat_eq_append] at hidle hd ⊢
  rw [← List.append_assoc, List.dropLast_concat] at hd
  have hd := mem_route_append_idle (fun s hs => hidle s (List.mem_append_left _ hs)) hd
  rcases List.eq_nil_or_concat kept with rfl | ⟨front', last', rfl⟩
  · exact .inl (hwithin hd)
  rw [List.concat_eq_append] at hwithin hd ⊢
  rw [List.dropLast_concat] at hwithin
  rcases mem_route_append.1 hd with hd | hd
  · exact .inl (hwithin hd)
  rcases List.mem_cons.1 hd with rfl | hd
  · exact .inl (hwithin (steps_mem_route _ _))
  · refine .inr ?_
    rw [steps_append, steps_idle hidle, steps_append]
    exact List.mem_singleton.1 hd

end Idle

end Place

namespace Path

/-- What is left of the directory above is on the way to the parent, for a path from the root. -/
theorem mem_route_parent_root {relative : String} {d : Place}
    (hd : d ∈ Place.root.route (trimmed false (trimmed false (segments relative)).dropLast)) :
    d = Place.root ∨ ∃ parent, parent? ("/" ++ relative) = some parent ∧ parent ≠ "" ∧
      d ∈ (FileTree.start parent).route (segments parent) := by
  rw [parent?_root]
  split
  · next hnil =>
    rw [List.isEmpty_iff.1 hnil] at hd
    exact .inl (List.mem_singleton.1 hd)
  · refine .inr ⟨_, rfl, fun h => ?_, ?_⟩
    · have hlength := congrArg (·.toList.length) h
      simp at hlength
    · rw [FileTree.start, isAbsolute_root, if_pos rfl, segments_root]
      have hfront := prefix_segments_intercalate
        ((trimmed_above false relative).trans (List.dropLast_prefix _))
      exact List.mem_cons_of_mem _ (Place.route_subset hfront hd)

/-- The same for a path from where one is. -/
theorem mem_route_parent_relative {path : String} {d : Place} (hrelative : isAbsolute path = false)
    (hd : d ∈ (FileTree.start path).route (trimmed true (trimmed true (segments path)).dropLast)) :
    d = FileTree.start path ∨ ∃ parent, parent? path = some parent ∧ parent ≠ "" ∧
      d ∈ (FileTree.start parent).route (segments parent) := by
  have hparent := parent?_relative hrelative
  split at hparent
  · next hnil =>
    rw [List.isEmpty_iff.1 hnil] at hd
    exact .inl (List.mem_singleton.1 hd)
  · have hfront := prefix_segments_intercalate
      ((trimmed_above true path).trans (List.dropLast_prefix _))
    have hd := Place.route_subset hfront hd
    generalize "/".intercalate (trimmed true (trimmed true (segments path)).dropLast) = parent
      at hparent hd
    have hstart : FileTree.start path = FileTree.start parent := by
      rw [FileTree.start, FileTree.start, (parent?_eq_some hparent).2.1]
    rw [hstart] at hd ⊢
    by_cases hempty : parent = ""
    · subst hempty
      exact .inl (Place.eq_of_mem_route_idle (by simp) hd)
    · exact .inr ⟨parent, hparent, hempty, hd⟩

/-- The places that a path leads through: where it starts, those of the directory above, and its own
place where segments after it lead nowhere. -/
theorem mem_route_above {path : String} {d : Place}
    (hd : d ∈ (FileTree.start path).route (above path)) :
    d = FileTree.start path ∨ d = Place.ofPath path ∨
      ∃ parent, parent? path = some parent ∧ parent ≠ "" ∧
        d ∈ (FileTree.start parent).route (segments parent) := by
  by_cases habsolute : isAbsolute path = true
  · obtain ⟨relative, rfl⟩ : ∃ relative, path = "/" ++ relative :=
      ⟨_, eq_root_append habsolute⟩
    have hstart : FileTree.start ("/" ++ relative) = Place.root := by
      rw [FileTree.start, isAbsolute_root, if_pos rfl]
    rw [hstart, above_root, Place.route, List.mem_cons] at hd
    rw [hstart, Place.ofPath, hstart, segments_root, Place.steps_cons]
    rcases hd with hd | hd
    · exact .inl hd
    rcases Place.mem_route_dropLast false hd with hd | hd
    · exact (mem_route_parent_root hd).imp_right .inr
    · exact .inr (.inl hd)
  · rcases Place.mem_route_dropLast true hd with hd | hd
    · exact (mem_route_parent_relative (Bool.not_eq_true _ ▸ habsolute) hd).imp_right .inr
    · exact .inr (.inl hd)

end Path

namespace FileTree
variable {t : FileTree} {p q : Place}

/-- A directory that one can go through. -/
def Open (t : FileTree) (d : Place) : Prop :=
  isNameTooLong d = false ∧ t.entryAt? d = some .directory

theorem requireDirectory_eq_ok : t.requireDirectory p = .ok () ↔ t.Open p := by
  unfold requireDirectory Open
  split
  · simp_all
  · split <;> simp_all

theorem walk_cons_eq_ok {s : String} {rest : List String} :
    t.walk p (s :: rest) = .ok q ↔ t.Open p ∧ t.walk (p.step s) rest = .ok q := by
  rw [← requireDirectory_eq_ok, walk]
  cases t.requireDirectory p with
  | error r => exact iff_of_false nofun fun h => nomatch h.1
  | ok u => exact ⟨fun h => ⟨rfl, h⟩, And.right⟩

theorem walk_concat {init : List String} {last : String} :
    t.walk p (init ++ [last]) = .ok q ↔
      (∀ d ∈ p.route init, t.Open d) ∧ q = (p.steps init).step last := by
  induction init generalizing p with
  | nil =>
    rw [List.nil_append, walk_cons_eq_ok, Place.route, List.forall_mem_singleton, walk,
      Except.ok.injEq, eq_comm]
    rfl
  | cons s rest ih =>
    rw [List.cons_append, walk_cons_eq_ok, ih, Place.route, List.forall_mem_cons, and_assoc]
    rfl

/-- A path that can lead somewhere. -/
structure Possible (path : String) : Prop where
  nonempty : path ≠ ""
  short : isImpossible path = false

/-- Where a path leads. -/
theorem place_eq_ok {path : String} :
    t.place path = .ok p ↔
      Possible path ∧ (∀ d ∈ (start path).route (Path.above path), t.Open d) ∧
        isNameTooLong p = false ∧ p = Place.ofPath path := by
  unfold place
  by_cases hempty : path = ""
  · rw [if_pos hempty]
    exact iff_of_false nofun fun h => h.1.nonempty hempty
  rw [if_neg hempty]
  by_cases hlong : isImpossible path = true
  · rw [if_pos hlong]
    refine iff_of_false nofun fun h => ?_
    rw [h.1.short] at hlong
    cases hlong
  rw [if_neg hlong, Place.ofPath_eq, Path.segments_eq]
  have hpossible : Possible path := ⟨hempty, Bool.not_eq_true _ ▸ hlong⟩
  cases hwalk : t.walk (start path) (Path.above path ++ [Path.name path]) with
  | error r =>
    refine iff_of_false nofun ?_
    rintro ⟨-, hopen, -, -⟩
    rw [walk_concat.2 ⟨hopen, rfl⟩] at hwalk
    cases hwalk
  | ok d =>
    obtain ⟨hopen, rfl⟩ := walk_concat.1 hwalk
    show (if isNameTooLong _ then Except.error Refusal.obstructed else Except.ok _) = _ ↔ _
    split
    · next hname =>
      refine iff_of_false nofun ?_
      rintro ⟨-, -, hshort, rfl⟩
      rw [hname] at hshort
      cases hshort
    · next hname =>
      rw [Bool.not_eq_true] at hname
      constructor
      · intro h
        cases h
        exact ⟨hpossible, hopen, hname, rfl⟩
      · rintro ⟨-, -, -, rfl⟩
        rfl

/-! ### Directories made -/

/-- A tree with directories at some more places. -/
structure Grown (t t' : FileTree) (ds : List Place) : Prop where
  entryAt? : ∀ q, t'.entryAt? q = t.entryAt? q ∨
    t.entryAt? q = none ∧ t'.entryAt? q = some .directory ∧ q ∈ ds
  fresh : t'.fresh = t.fresh
  numbered : t.Numbered → t'.Numbered

namespace Grown
variable {t₁ t₂ : FileTree} {ds es : List Place}

theorem refl (t : FileTree) (ds : List Place) : Grown t t ds := ⟨fun _ => .inl rfl, rfl, id⟩

theorem mono (h : Grown t t₁ ds) (hsub : ds ⊆ es) : Grown t t₁ es where
  entryAt? q := (h.entryAt? q).imp_right fun ⟨hnone, hdir, hq⟩ => ⟨hnone, hdir, hsub hq⟩
  fresh := h.fresh
  numbered := h.numbered

theorem trans (h₁ : Grown t t₁ ds) (h₂ : Grown t₁ t₂ ds) : Grown t t₂ ds where
  entryAt? q := by
    rcases h₁.entryAt? q with hsame | ⟨hnone, hdir, hq⟩
    · rw [← hsame]
      exact h₂.entryAt? q
    · rcases h₂.entryAt? q with hsame' | ⟨hnone', -⟩
      · exact .inr ⟨hnone, hsame' ▸ hdir, hq⟩
      · rw [hdir] at hnone'
        cases hnone'
  fresh := h₂.fresh.trans h₁.fresh
  numbered := h₂.numbered ∘ h₁.numbered

/-- What was there stays. -/
theorem kept (h : Grown t t₁ ds) {e : Entry} (he : t.entryAt? q = some e) :
    t₁.entryAt? q = some e := by
  rcases h.entryAt? q with hsame | ⟨hnone, -⟩
  · rw [hsame, he]
  · rw [hnone] at he
    cases he

theorem isOpen (h : Grown t t₁ ds) {d : Place} (hd : t.Open d) : t₁.Open d := ⟨hd.1, h.kept hd.2⟩

theorem putDirectory (h : t.entryAt? p = none) : Grown t (t.put p .directory) [p] where
  entryAt? q := by
    rw [entryAt?_put (isBase_of_none h)]
    by_cases hq : q = p
    · rw [if_pos hq, hq]
      exact .inr ⟨h, rfl, List.mem_singleton_self p⟩
    · rw [if_neg hq]
      exact .inl rfl
  fresh := rfl
  numbered hn := hn.putDirectory p

end Grown

/-- Making directories opens the route, and nothing else changes even where that fails. -/
theorem makeDirectoriesFrom_spec (t : FileTree) (p : Place) (ss : List String) :
    Grown t (makeDirectoriesFrom t p ss).1 (p.route ss) ∧
      ((makeDirectoriesFrom t p ss).2 = .ok () → t.Open p →
        ∀ d ∈ p.route ss, (makeDirectoriesFrom t p ss).1.Open d) := by
  induction ss generalizing t p with
  | nil =>
    refine ⟨.refl t _, fun _ hp d hd => ?_⟩
    rwa [List.mem_singleton.1 hd]
  | cons s rest ih =>
    rw [makeDirectoriesFrom]
    have hsub : (p.step s).route rest ⊆ p.route (s :: rest) := List.subset_cons_self _ _
    split
    · exact ⟨.refl t _, nofun⟩
    next hname =>
    rw [Bool.not_eq_true] at hname
    split
    · next hdir =>
      obtain ⟨hgrown, hopen⟩ := ih t (p.step s)
      refine ⟨hgrown.mono hsub, fun hok hp => ?_⟩
      rw [Place.route, List.forall_mem_cons]
      exact ⟨hgrown.isOpen hp, hopen hok ⟨hname, hdir⟩⟩
    · exact ⟨.refl t _, nofun⟩
    · next hnone =>
      have hput := Grown.putDirectory hnone
      have hnext : (t.put (p.step s) .directory).Open (p.step s) := by
        refine ⟨hname, ?_⟩
        rw [entryAt?_put (isBase_of_none hnone), if_pos rfl]
      obtain ⟨hgrown, hopen⟩ := ih (t.put (p.step s) .directory) (p.step s)
      have hput' : Grown t (t.put (p.step s) .directory) (p.route (s :: rest)) := by
        refine hput.mono fun d hd => hsub ?_
        rw [List.mem_singleton.1 hd]
        exact Place.self_mem_route _ rest
      refine ⟨hput'.trans (hgrown.mono hsub), fun hok hp => ?_⟩
      rw [Place.route, List.forall_mem_cons]
      exact ⟨hgrown.isOpen (hput.isOpen hp), hopen hok hnext⟩

/-- No directory is made where all are there. -/
theorem makeDirectoriesFrom_of_open {ss : List String} (h : ∀ d ∈ p.route ss, t.Open d) :
    makeDirectoriesFrom t p ss = (t, .ok ()) := by
  induction ss generalizing p with
  | nil => rfl
  | cons s rest ih =>
    rw [Place.route, List.forall_mem_cons] at h
    obtain ⟨hname, hdir⟩ := h.2 _ (Place.self_mem_route _ rest)
    rw [makeDirectoriesFrom, hname, if_neg Bool.false_ne_true, hdir]
    exact ih h.2

/-- A path starts at a directory. -/
theorem open_start (t : FileTree) (path : String) : t.Open (start path) := by
  unfold start
  split
  · exact ⟨by decide, rfl⟩
  · exact ⟨rfl, rfl⟩

theorem makeDirectories_spec (t : FileTree) (path : String) :
    Grown t (t.makeDirectories path).1 ((start path).route (Path.segments path)) ∧
      ((t.makeDirectories path).2 = .ok () →
        ∀ d ∈ (start path).route (Path.segments path), (t.makeDirectories path).1.Open d) := by
  obtain ⟨hgrown, hopen⟩ := makeDirectoriesFrom_spec t (start path) (Path.segments path)
  rw [makeDirectories]
  split
  · exact ⟨.refl t _, nofun⟩
  · exact ⟨hgrown, fun hok => hopen hok (open_start t path)⟩

theorem makeDirectories_of_open {path : String} (hshort : isImpossible path = false)
    (h : ∀ d ∈ (start path).route (Path.segments path), t.Open d) :
    t.makeDirectories path = (t, .ok ()) := by
  rw [makeDirectories, hshort, if_neg Bool.false_ne_true, makeDirectoriesFrom_of_open h]

theorem Numbered.makeDirectories (h : t.Numbered) (path : String) :
    (t.makeDirectories path).1.Numbered := (makeDirectories_spec t path).1.numbered h

theorem Numbered.writeFile (h : t.Numbered) (path : String) (bytes : ByteArray) :
    (t.writeFile path bytes).1.Numbered := by
  unfold FileTree.writeFile
  split
  next t' made hpair =>
  have hmade : t'.Numbered := by
    cases hparent : Path.parent? path with
    | none =>
      simp only [hparent, Prod.mk.injEq] at hpair
      exact hpair.1 ▸ h
    | some parent =>
      simp only [hparent] at hpair
      have hdirs := h.makeDirectories parent
      rwa [hpair] at hdirs
  have hcreate := hmade.createFile path
  cases made with
  | error r => exact hmade
  | ok u =>
    cases hcreated : t'.createFile path with
    | mk t'' result =>
      rw [hcreated] at hcreate
      cases result with
      | error r => exact hcreate
      | ok id => exact hcreate.writeAt id 0 bytes

/-! ### Trees made from nothing -/

/-- Trees that come of the one with nothing in it when files are written, moved and taken away. -/
inductive Made : FileTree → Prop where
  | empty : Made {}
  | makeDirectories {t : FileTree} (path : String) : Made t → Made (t.makeDirectories path).1
  | createFile {t : FileTree} (path : String) : Made t → Made (t.createFile path).1
  | writeAt {t : FileTree} (id offset : Nat) (bytes : ByteArray) :
      Made t → Made (t.writeAt id offset bytes)
  | writeFile {t : FileTree} (path : String) (bytes : ByteArray) :
      Made t → Made (t.writeFile path bytes).1
  | move {t t' : FileTree} {source target : String} :
      Made t → t.move source target = .ok t' → Made t'
  | removeFile {t : FileTree} (path : String) : Made t → Made (t.removeFile path)
  | remove {t : FileTree} (path : String) : Made t → Made (t.remove path)

/-- No two files of such a tree have one number. -/
theorem Made.numbered (h : Made t) : t.Numbered := by
  induction h with
  | empty => exact .empty
  | makeDirectories path _ ih => exact ih.makeDirectories path
  | createFile path _ ih => exact ih.createFile path
  | writeAt id offset bytes _ ih => exact ih.writeAt id offset bytes
  | writeFile path bytes _ ih => exact ih.writeFile path bytes
  | move _ hmove ih => exact ih.move hmove
  | removeFile path _ ih => exact ih.removeFile path
  | remove path _ ih => exact ih.remove path

end FileTree
end Bindery
