import Bindery.Proofs.Template.Replacing

/-! Collections of templates step by step.

Whoever makes a collection inserts sources and lets directories replace templates, and the files may be
others each time. A source that is no template, and a directory with a fault, stop the step and not
what was there. So after any steps the names are those of the insertions that went well, each where it
first came, and under each name is what last went well (`steps_ordered`). -/
namespace Bindery.Template.Set

/-- Something that is done with a collection. -/
inductive Step where
  | insert (name source : String)
  /-- A directory replaces templates, with the files as they are then. -/
  | override (tree : FileTree) (dir : String)

/-- A collection after a step, and the names of the templates that the step put into it. -/
def act (set : Set) : Step → Set × Except Fault (List String)
  | .insert name source =>
    match set.insert name source with
    | .ok set => (set, .ok [name])
    | .error fault => (set, .error fault)
  | .override tree dir => set.overrideFrom tree dir

/-- A collection after steps. -/
def after (set : Set) (steps : List Step) : Set := steps.foldl (fun set step => (set.act step).1) set

/-- The names of the insertions that go well, in order. -/
def inserted (steps : List Step) : List String :=
  steps.filterMap fun
    | .insert name source => if (Template.parse name source).toOption.isSome then some name else none
    | .override .. => none

/-- The source that a step puts under a name: that of an insertion which goes well, or the text of a
file that no fault comes before. -/
def given? (set : Set) (name : String) : Step → Option String
  | .insert n source =>
    if n = name ∧ (Template.parse n source).toOption.isSome then some source else none
  | .override tree dir =>
    if name ∈ set.names.takeWhile (!isFaulty tree dir ·) ∧ tree.isFile (Path.join dir name) then
      tree.readText? (Path.join dir name)
    else none

/-- The sources that steps put under a name, the last one at the end. -/
def sources (name : String) (set : Set) : List Step → List String
  | [] => []
  | step :: rest => (set.given? name step).toList ++ sources name (set.act step).1 rest

/-- What holds of a collection that steps have made of an empty one. -/
structure Ordered (steps : List Step) (set : Set) : Prop where
  names : set.names = (inserted steps).eraseDups
  nodup : set.names.Nodup
  get : ∀ name, set.get name =
    match (sources name {} steps).getLast? with
    | some source => Template.parse name source
    | none => .error (.unknownTemplate name)

/-! ### One step -/

section Act
variable {set : Set} {name source : String}

theorem act_insert_of_ok {t : Template} (h : Template.parse name source = .ok t) :
    set.act (.insert name source) = (set.put t, .ok [name]) := by
  rw [act, insert, h]
  rfl

theorem act_insert_of_error {fault : Fault} (h : Template.parse name source = .error fault) :
    set.act (.insert name source) = (set, .error fault) := by
  rw [act, insert, h]
  rfl

theorem nodup_put (h : set.names.Nodup) (t : Template) : (set.put t).names.Nodup := by
  rw [names_put]
  split
  · exact h
  · next hnew =>
    rw [← List.concat_eq_append]
    exact (List.nodup_concat _ _).2 ⟨hnew, h⟩

theorem nodup_act (h : set.names.Nodup) (step : Step) : (set.act step).1.names.Nodup := by
  cases step with
  | insert name source =>
    cases hparse : Template.parse name source with
    | ok t =>
      rw [act_insert_of_ok hparse]
      exact nodup_put h t
    | error fault =>
      rw [act_insert_of_error hparse]
      exact h
  | override tree dir =>
    rw [act, (overrideFrom_overridden h tree dir).names]
    exact h

/-- A template is what the step gives for it, or what it was. -/
theorem get_act (set : Set) (step : Step) (name : String) :
    (set.act step).1.get name =
      match set.given? name step with
      | some source => Template.parse name source
      | none => set.get name := by
  cases step with
  | insert n source =>
    cases hparse : Template.parse n source with
    | ok t =>
      rw [act_insert_of_ok hparse, get_put, (spells_of_parse hparse).1, given?, hparse]
      by_cases hname : n = name
      · subst hname
        simp [Except.toOption, hparse]
      · simp [hname, Ne.symm hname]
    | error fault =>
      rw [act_insert_of_error hparse, given?, hparse]
      simp [Except.toOption]
  | override tree dir =>
    rw [act, overrideFrom_fst, get_replaced, given?]
    by_cases hbefore : name ∈ set.names.takeWhile (!isFaulty tree dir ·)
    · have hsound : isFaulty tree dir name = false := by simpa using List.mem_takeWhile_imp hbefore
      cases hplace : inPlace? tree dir name with
      | none =>
        have hfile := isSome_inPlace? tree dir name
        rw [hplace] at hfile
        simp [hbefore, ← hfile]
      | some result =>
        cases result with
        | error fault => exact absurd hplace (isFaulty_eq_false.1 hsound fault)
        | ok t =>
          obtain ⟨hfile, source, hsource, hparse⟩ := inPlace?_eq_ok.1 hplace
          simp [hbefore, hfile, hsource, hparse]
    · simp [hbefore]

end Act

/-! ### All steps -/

theorem after_append (set : Set) (steps : List Step) (step : Step) :
    set.after (steps ++ [step]) = ((set.after steps).act step).1 := by
  rw [after, List.foldl_append]
  rfl

theorem sources_append (name : String) (set : Set) (steps : List Step) (step : Step) :
    sources name set (steps ++ [step]) =
      sources name set steps ++ ((set.after steps).given? name step).toList := by
  induction steps generalizing set with
  | nil => exact (List.append_nil _)
  | cons first rest ih =>
    rw [List.cons_append, sources, sources, ih, List.append_assoc]
    rfl

/-- A name that is put comes at the end, unless it is there. -/
theorem eraseDups_concat (ns : List String) (name : String) :
    (ns ++ [name]).eraseDups =
      if name ∈ ns.eraseDups then ns.eraseDups else ns.eraseDups ++ [name] := by
  rw [List.eraseDups_append]
  by_cases hname : name ∈ ns <;> simp [List.removeAll, hname, List.eraseDups_cons]

/-- A step keeps the names in the order of the insertions. -/
theorem Ordered.names_act {steps : List Step} {set : Set} (h : Ordered steps set) (step : Step) :
    (set.act step).1.names = (inserted (steps ++ [step])).eraseDups := by
  rw [inserted, List.filterMap_append, ← inserted]
  cases step with
  | insert name source =>
    cases hparse : Template.parse name source with
    | ok t =>
      rw [act_insert_of_ok hparse, names_put, (spells_of_parse hparse).1, h.names]
      simp [hparse, Except.toOption, eraseDups_concat]
    | error fault =>
      rw [act_insert_of_error hparse, h.names]
      simp [hparse, Except.toOption]
  | override tree dir =>
    rw [act, (overrideFrom_overridden h.nodup tree dir).names, h.names]
    simp

theorem ordered_act {steps : List Step} {set : Set} (h : Ordered steps set)
    (hset : set = after {} steps) (step : Step) :
    Ordered (steps ++ [step]) (set.act step).1 where
  names := h.names_act step
  nodup := nodup_act h.nodup step
  get name := by
    rw [get_act, sources_append, ← hset, h.get]
    cases set.given? name step with
    | none => simp
    | some source => simp

theorem after_ordered (steps : List Step) : Ordered steps (after {} steps) := by
  induction steps using List.reverseRecOn with
  | nil => exact ⟨rfl, List.nodup_nil, fun _ => rfl⟩
  | append_singleton steps step ih =>
    rw [after_append]
    exact ordered_act ih rfl step

/-- **A collection of templates is an ordered map through all steps.** After any steps its names are
those of the insertions that went well, each once and where it first came, and under each is the
template of the source that a step put there last. The next step, if it is an insertion that fails,
changes nothing; and if a directory replaces templates, it replaces those that it has files for, up to
the first fault. -/
theorem steps_ordered (steps : List Step) :
    Ordered steps (after {} steps) ∧
      (∀ name source fault, Template.parse name source = .error fault →
        (after {} steps).act (.insert name source) = (after {} steps, .error fault)) ∧
      ∀ tree dir, Overridden tree dir (after {} steps) ((after {} steps).act (.override tree dir)).1
        ((after {} steps).act (.override tree dir)).2 :=
  ⟨after_ordered steps, fun _ _ _ => act_insert_of_error,
    fun tree dir => overrideFrom_overridden (after_ordered steps).nodup tree dir⟩

end Bindery.Template.Set
