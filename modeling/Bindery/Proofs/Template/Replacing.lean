import Bindery.Proofs.Template.Sources
import Bindery.Template.Override
import Mathlib.Data.List.TakeWhile

/-! Templates that are replaced.

A collection is known by its names in order and by the template under each of them (`ext_get`). What a
directory replaces is done name by name, up to the first whose file is no template (`faulty_cases`):
the names stay, those before the fault have what their files have, and all others what they had
(`overrideFrom_overridden`). -/
namespace Bindery.Template.Set
variable {set set' : Set} {name : String} {t : Template}

/-! ### Looking up -/

theorem get_eq_ok : set.get name = .ok t ↔ set.templates.find? (·.name = name) = some t := by
  rw [get]
  cases set.templates.find? (·.name = name) <;> simp

theorem name_of_get (h : set.get name = .ok t) : t.name = name := by
  simpa using List.find?_some (get_eq_ok.1 h)

theorem find?_of_not_mem (h : name ∉ set.names) : set.templates.find? (·.name = name) = none :=
  List.find?_eq_none.2 fun _ ht hname => h (List.mem_map.2 ⟨_, ht, of_decide_eq_true hname⟩)

theorem get_put (set : Set) (t : Template) (name : String) :
    (set.put t).get name = if name = t.name then .ok t else set.get name := by
  rw [put]
  split
  · next hc =>
    -- The templates are found where they were, since the names stay.
    have hsame : (fun old => decide (old.name = name)) ∘
        (fun old => if old.name = t.name then t else old) = fun old => decide (old.name = name) := by
      funext old
      by_cases hold : old.name = t.name <;> simp [hold]
    rw [get, List.find?_map, hsame, get]
    cases hfind : set.templates.find? (·.name = name) with
    | none =>
      obtain ⟨old, hold, hname⟩ := List.mem_map.1 ((contains_iff set t.name).1 hc)
      have hne : name ≠ t.name := by
        rintro rfl
        exact List.find?_eq_none.1 hfind old hold (decide_eq_true hname)
      simp [hne]
    | some old =>
      have hname : old.name = name := name_of_get (get_eq_ok.2 hfind)
      by_cases hnew : name = t.name <;> simp [hname, hnew]
  · next hc =>
    rw [get, get, List.find?_append]
    by_cases hnew : name = t.name
    · subst hnew
      rw [find?_of_not_mem (mt (contains_iff set t.name).2 hc)]
      simp
    · simp [hnew, Ne.symm hnew]

/-- A collection without repeats has the templates under its names, in order. -/
theorem templates_eq (h : set.names.Nodup) :
    set.templates = set.names.filterMap fun name => (set.get name).toOption := by
  rw [names, List.filterMap_map, List.filterMap_congr (g := some), List.filterMap_some]
  intro t ht
  rw [Function.comp_apply, get_of_mem h ht]
  rfl

/-- Collections without repeats are the same when their names are, and what is under them. -/
theorem ext_get (h : set.names.Nodup) (hnames : set'.names = set.names)
    (hget : ∀ name, set'.get name = set.get name) : set' = set := by
  have htemplates : set'.templates = set.templates := by
    rw [templates_eq h, templates_eq (hnames ▸ h), hnames]
    simp only [hget]
  exact congrArg Set.mk htemplates

/-! ### Files of a directory -/

/-- What a directory has in the place of a template: no file of its name, or a fault where the file
holds no template, or the template. -/
def inPlace? (tree : FileTree) (dir name : String) : Option (Except Fault Template) :=
  let path := Path.join dir name
  if tree.isFile path then
    some <| match tree.readText? path with
      | some source => Template.parse name source
      | none => .error (.unreadable path)
  else none

/-- A directory has a file in the place of a template that holds none. -/
def isFaulty (tree : FileTree) (dir name : String) : Bool :=
  match inPlace? tree dir name with
  | some (.error _) => true
  | _ => false

/-- A collection with what a directory has in the place of some of its templates. -/
def replaced (tree : FileTree) (dir : String) (set : Set) (ns : List String) : Set :=
  ns.foldl (fun set name =>
    match inPlace? tree dir name with
    | some (.ok t) => set.put t
    | _ => set) set

section Override
variable {tree : FileTree} {dir : String} {ns before rest : List String}

theorem isFaulty_iff : isFaulty tree dir name = true ↔
    ∃ fault, inPlace? tree dir name = some (.error fault) := by
  unfold isFaulty
  split
  · next fault hplace => exact iff_of_true rfl ⟨fault, hplace⟩
  · next hplace => exact iff_of_false Bool.false_ne_true fun ⟨fault, h⟩ => hplace fault h

theorem isFaulty_eq_false : isFaulty tree dir name = false ↔
    ∀ fault, inPlace? tree dir name ≠ some (.error fault) := by
  rw [← Bool.not_eq_true, isFaulty_iff, not_exists]

theorem inPlace?_eq_ok : inPlace? tree dir name = some (.ok t) ↔
    tree.isFile (Path.join dir name) = true ∧
      ∃ source, tree.readText? (Path.join dir name) = some source ∧
        Template.parse name source = .ok t := by
  rw [inPlace?]
  cases tree.isFile (Path.join dir name) with
  | false => simp
  | true => cases tree.readText? (Path.join dir name) <;> simp

theorem name_of_inPlace? (h : inPlace? tree dir name = some (.ok t)) : t.name = name := by
  obtain ⟨-, source, -, hparse⟩ := inPlace?_eq_ok.1 h
  exact (spells_of_parse hparse).1

theorem isSome_inPlace? (tree : FileTree) (dir name : String) :
    (inPlace? tree dir name).isSome = tree.isFile (Path.join dir name) := by
  rw [inPlace?]
  cases tree.isFile (Path.join dir name) <;> rfl

/-- One name after the other. -/
theorem overrideEach_cons (tree : FileTree) (dir : String) (set : Set) (name : String)
    (rest : List String) : overrideEach tree dir set (name :: rest) =
      match inPlace? tree dir name with
      | none => overrideEach tree dir set rest
      | some (.error fault) => (set, .error fault)
      | some (.ok t) => ((overrideEach tree dir (set.put t) rest).1,
          (overrideEach tree dir (set.put t) rest).2.map (name :: ·)) := by
  conv_lhs => unfold overrideEach
  rw [inPlace?]
  dsimp only
  cases tree.isFile (Path.join dir name) with
  | false => rfl
  | true =>
    simp only [Bool.not_true, Bool.false_eq_true, if_false, if_true]
    cases tree.readText? (Path.join dir name) with
    | none => rfl
    | some source =>
      have hinsert : set.insert name source = (Template.parse name source).map set.put := by
        unfold insert
        cases Template.parse name source <;> rfl
      dsimp only
      rw [hinsert]
      cases Template.parse name source <;> rfl

theorem replaced_cons (tree : FileTree) (dir : String) (set : Set) (name : String)
    (rest : List String) : replaced tree dir set (name :: rest) =
      match inPlace? tree dir name with
      | some (.ok t) => replaced tree dir (set.put t) rest
      | _ => replaced tree dir set rest := by
  rw [replaced, List.foldl_cons]
  split <;> rfl

/-- The template under a name is replaced where the directory has one. -/
theorem get_replaced (tree : FileTree) (dir : String) (set : Set) (ns : List String)
    (name : String) : (replaced tree dir set ns).get name =
      if name ∈ ns then
        match inPlace? tree dir name with
        | some (.ok t) => .ok t
        | _ => set.get name
      else set.get name := by
  induction ns generalizing set with
  | nil => rfl
  | cons n rest ih =>
    rw [replaced_cons]
    split
    · next t hplace =>
      rw [ih, get_put, name_of_inPlace? hplace]
      by_cases hname : name = n
      · subst hname
        simp [hplace]
      · simp [hname]
    · next hplace =>
      rw [ih]
      by_cases hname : name = n
      · subst hname
        simp only [List.mem_cons, true_or, if_true]
        split <;> rfl
      · simp [hname]

theorem names_replaced (h : ns ⊆ set.names) : (replaced tree dir set ns).names = set.names := by
  induction ns generalizing set with
  | nil => rfl
  | cons n rest ih =>
    rw [List.cons_subset] at h
    rw [replaced_cons]
    split
    · next t hplace =>
      have hnames : (set.put t).names = set.names := by
        rw [names_put, name_of_inPlace? hplace, if_pos h.1]
      rw [ih (hnames ▸ h.2), hnames]
    · exact ih h.2

/-- What goes well is done before the rest. -/
theorem overrideEach_append (h : ∀ n ∈ before, isFaulty tree dir n = false) :
    overrideEach tree dir set (before ++ rest) =
      ((overrideEach tree dir (replaced tree dir set before) rest).1,
        (overrideEach tree dir (replaced tree dir set before) rest).2.map
          (before.filter (fun n => tree.isFile (Path.join dir n)) ++ ·)) := by
  induction before generalizing set with
  | nil =>
    show overrideEach tree dir set rest =
      ((overrideEach tree dir set rest).1, (overrideEach tree dir set rest).2.map id)
    rcases overrideEach tree dir set rest with ⟨after, answer⟩
    cases answer <;> rfl
  | cons n before ih =>
    obtain ⟨hn, hbefore⟩ := List.forall_mem_cons.1 h
    have hfile := isSome_inPlace? tree dir n
    rw [List.cons_append, overrideEach_cons, replaced_cons]
    cases hplace : inPlace? tree dir n with
    | none =>
      rw [hplace] at hfile
      rw [List.filter_cons_of_neg (by simp [← hfile])]
      exact ih hbefore
    | some result =>
      rw [hplace] at hfile
      rw [List.filter_cons_of_pos (by simp [← hfile])]
      cases result with
      | error fault => exact absurd hplace (isFaulty_eq_false.1 hn fault)
      | ok t =>
        dsimp only
        rw [ih hbefore]
        cases (overrideEach tree dir (replaced tree dir (set.put t) before) rest).2 <;> rfl

/-- Without a fault, all is replaced that the directory has files for. -/
theorem overrideFrom_of_sound (h : ∀ n ∈ set.names, isFaulty tree dir n = false) :
    set.overrideFrom tree dir = (replaced tree dir set set.names,
      .ok (set.names.filter fun n => tree.isFile (Path.join dir n))) := by
  have hall : overrideEach tree dir set (set.names ++ []) = _ := overrideEach_append h
  rw [List.append_nil] at hall
  rw [overrideFrom, hall]
  show (replaced tree dir set set.names, Except.ok (_ ++ [])) = _
  rw [List.append_nil]

/-- The first fault stops it. -/
theorem overrideFrom_of_faulty {fault : Fault} (hnames : set.names = before ++ name :: rest)
    (hbefore : ∀ n ∈ before, isFaulty tree dir n = false)
    (hplace : inPlace? tree dir name = some (.error fault)) :
    set.overrideFrom tree dir = (replaced tree dir set before, .error fault) := by
  rw [overrideFrom, hnames, overrideEach_append hbefore, overrideEach_cons, hplace]
  rfl

/-- There is no fault, or a first one. -/
theorem faulty_cases (tree : FileTree) (dir : String) (ns : List String) :
    (∀ n ∈ ns, isFaulty tree dir n = false) ∨ ∃ before name rest fault,
      ns = before ++ name :: rest ∧ (∀ n ∈ before, isFaulty tree dir n = false) ∧
        inPlace? tree dir name = some (.error fault) := by
  cases hfirst : ns.find? (isFaulty tree dir) with
  | none => exact .inl (by simpa using List.find?_eq_none.1 hfirst)
  | some name =>
    obtain ⟨hfaulty, before, rest, hnames, hbefore⟩ := List.find?_eq_some_iff_append.1 hfirst
    obtain ⟨fault, hplace⟩ := isFaulty_iff.1 hfaulty
    exact .inr ⟨before, name, rest, fault, hnames, by simpa using hbefore, hplace⟩

theorem overrideFrom_fst (tree : FileTree) (dir : String) (set : Set) :
    (set.overrideFrom tree dir).1 =
      replaced tree dir set (set.names.takeWhile (!isFaulty tree dir ·)) := by
  obtain hsound | ⟨before, name, rest, fault, hnames, hbefore, hplace⟩ :=
    faulty_cases tree dir set.names
  · have hall : set.names.takeWhile (!isFaulty tree dir ·) = set.names :=
      List.takeWhile_eq_self_iff.2 fun n hn => by rw [hsound n hn, Bool.not_false]
    rw [overrideFrom_of_sound hsound, hall]
  · have hfaulty : isFaulty tree dir name = true := isFaulty_iff.2 ⟨fault, hplace⟩
    have hfirst : set.names.takeWhile (!isFaulty tree dir ·) = before := by
      rw [hnames, List.takeWhile_append_of_pos fun n hn => by rw [hbefore n hn, Bool.not_false],
        List.takeWhile_cons_of_neg (by simp [hfaulty]), List.append_nil]
    rw [overrideFrom_of_faulty hnames hbefore hplace, hfirst]

/-! ### What a directory does to a collection -/

/-- A collection has what the directory has in the place of a template, or else what it had. -/
def Updated (tree : FileTree) (dir : String) (set set' : Set) (name : String) : Prop :=
  set'.get name =
    match inPlace? tree dir name with
    | some (.ok t) => .ok t
    | _ => set.get name

/-- A collection and an answer, after a directory has replaced templates of another. -/
structure Overridden (tree : FileTree) (dir : String) (set set' : Set)
    (answer : Except Fault (List String)) : Prop where
  /-- No name comes, goes or moves. -/
  names : set'.names = set.names
  succeeds_iff : (∃ given, answer = .ok given) ↔
    ∀ name ∈ set.names, ∀ fault, inPlace? tree dir name ≠ some (.error fault)
  succeeds : ∀ given, answer = .ok given →
    given = set.names.filter (fun name => tree.isFile (Path.join dir name)) ∧
      ∀ name ∈ set.names, Updated tree dir set set' name
  /-- The first fault stops it, and what comes later stays. -/
  stops : ∀ fault, answer = .error fault → ∃ before name rest,
    set.names = before ++ name :: rest ∧ inPlace? tree dir name = some (.error fault) ∧
      (∀ n ∈ before, (∀ fault, inPlace? tree dir n ≠ some (.error fault)) ∧
        Updated tree dir set set' n) ∧
      ∀ n ∈ name :: rest, set'.get n = set.get n
  /-- Doing it again changes nothing. -/
  again : set'.overrideFrom tree dir = (set', answer)

theorem replaced_replaced (hset : set.names.Nodup) (h : ns ⊆ set.names) :
    replaced tree dir (replaced tree dir set ns) ns = replaced tree dir set ns := by
  have hnames : (replaced tree dir set ns).names = set.names := names_replaced h
  refine ext_get (hnames ▸ hset) (names_replaced (hnames ▸ h)) fun name => ?_
  rw [get_replaced tree dir (replaced tree dir set ns), get_replaced]
  split
  · rcases inPlace? tree dir name with _ | _ | _ <;> rfl
  · rfl

theorem updated_replaced (h : name ∈ ns) :
    Updated tree dir set (replaced tree dir set ns) name := by
  rw [Updated, get_replaced, if_pos h]

/-- **What a directory does to a collection without repeats.** -/
theorem overrideFrom_overridden (hset : set.names.Nodup) (tree : FileTree) (dir : String) :
    Overridden tree dir set (set.overrideFrom tree dir).1 (set.overrideFrom tree dir).2 := by
  obtain hsound | ⟨before, name, rest, fault, hnames, hbefore, hplace⟩ :=
    faulty_cases tree dir set.names
  · have hkept : (replaced tree dir set set.names).names = set.names :=
      names_replaced (List.Subset.refl _)
    have hagain : ∀ n ∈ (replaced tree dir set set.names).names, isFaulty tree dir n = false := by
      rwa [hkept]
    rw [overrideFrom_of_sound hsound]
    refine ⟨hkept, iff_of_true ⟨_, rfl⟩ fun n hn => isFaulty_eq_false.1 (hsound n hn), ?_, nofun, ?_⟩
    · rintro given hgiven
      cases hgiven
      exact ⟨rfl, fun n hn => updated_replaced hn⟩
    · rw [overrideFrom_of_sound hagain, hkept, replaced_replaced hset (List.Subset.refl _)]
  · have hsub : before ⊆ set.names := hnames ▸ List.subset_append_left _ _
    have hkept : (replaced tree dir set before).names = set.names := names_replaced hsub
    rw [overrideFrom_of_faulty hnames hbefore hplace]
    refine ⟨hkept, iff_of_false nofun fun hnone => ?_, nofun, ?_, ?_⟩
    · have hmem : name ∈ set.names := hnames ▸ List.mem_append_right _ List.mem_cons_self
      exact hnone name hmem fault hplace
    · rintro fault' hfault
      cases hfault
      refine ⟨before, name, rest, hnames, hplace,
        fun n hn => ⟨isFaulty_eq_false.1 (hbefore n hn), updated_replaced hn⟩, fun n hn => ?_⟩
      have hnot : n ∉ before := fun hmem =>
        List.disjoint_of_nodup_append (hnames ▸ hset) hmem hn
      rw [get_replaced, if_neg hnot]
    · rw [overrideFrom_of_faulty (hkept.trans hnames) hbefore hplace, replaced_replaced hset hsub]

end Override

end Bindery.Template.Set
