import Bindery.Proofs.Compilation.Verdict

/-! Compilations step by step.

Whoever drives a compilation adds findings, goes through phases, also again after one has failed, and
looks at the registry or takes it away. No step touches the project or the metadata, none loses a
finding, and only few make a registry or take it (`act_moves`). So whatever steps come before, a
registry that is there is the one that the metadata makes (`steps_consistent`). -/
namespace Bindery.Compilation

/-- Something that is done with a compilation. -/
inductive Step where
  | addError (phase message : String)
  | addWarning (phase message : String)
  | add (d : Diagnostic)
  | validate (lints : List Lint)
  | lower
  | run (lints : List Lint)
  | registry
  | takeRegistry

namespace Step

/-- The step fails where there are errors among the findings. -/
def validates : Step → Bool
  | validate _ | run _ => true
  | _ => false

/-- The step makes the registry. -/
def lowers : Step → Bool
  | lower | run _ => true
  | _ => false

/-- The step needs a registry that is made. -/
def asks : Step → Bool
  | registry | takeRegistry => true
  | _ => false

end Step

/-- What a step gives: the registry, where it is asked for. -/
abbrev Answer := Except Fault (Option Registry)

/-- Goes through phases, which give nothing. -/
def through (c : Compilation) (phases : List Phase) : Compilation × Answer :=
  ((c.run phases).1, (c.run phases).2.map fun _ => none)

/-- A compilation after a step, and what the step gives. -/
def act (c : Compilation) : Step → Compilation × Answer
  | .addError phase message => (c.add { severity := .error, phase, message }, .ok none)
  | .addWarning phase message => (c.add { severity := .warning, phase, message }, .ok none)
  | .add d => (c.add d, .ok none)
  | .validate lints => c.through [.validate lints]
  | .lower => c.through [.lower]
  | .run lints => c.through (standard lints)
  | .registry => (c, c.theRegistry.map some)
  | .takeRegistry =>
    match c.takeRegistry with
    | .ok (r, rest) => (rest, .ok (some r))
    | .error fault => (c, .error fault)

/-- A compilation after steps. -/
def after (c : Compilation) (steps : List Step) : Compilation :=
  steps.foldl (fun c step => (c.act step).1) c

/-- There are errors among the findings. -/
def Faulty (c : Compilation) : Prop := ∃ d ∈ c.diagnostics, d.severity = .error

/-- What a step does. -/
structure Moves (c : Compilation) (step : Step) (c' : Compilation) (answer : Answer) : Prop where
  project : c'.project = c.project
  metadata : c'.metadata = c.metadata
  /-- What was found before comes first. -/
  findings : c.diagnostics <+: c'.diagnostics
  /-- Errors stop a validation, whoever found them. -/
  fails_iff : (∃ fault, answer = .error fault) ↔
    step.validates ∧ c'.Faulty ∨
      step.lowers ∧ (∀ r, Registry.ofMetadata c.project c.metadata ≠ .ok r) ∨
      step.asks ∧ c.registry = none
  failed : (∃ fault, answer = .error fault) → c'.registry = c.registry
  lowered : step.lowers → ∀ given, answer = .ok given →
    ∃ r, Registry.ofMetadata c.project c.metadata = .ok r ∧ c'.registry = some r
  asked : step.asks → ∀ given, answer = .ok given → given = c.registry
  taken : step = .takeRegistry → c'.registry = none
  others : ¬ step.lowers → step ≠ .takeRegistry → c'.registry = c.registry

/-- What holds of a compilation at all times. -/
structure Consistent (names : ProjectNames) (m : Metadata) (c : Compilation) : Prop where
  project : c.project = names
  metadata : c.metadata = m
  registry : c.registry = none ∨ ∃ r, Registry.ofMetadata names m = .ok r ∧ c.registry = some r

/-! ### Phases -/

section Phases
variable {c c' : Compilation} {phase : Phase} {rest : List Phase}

theorem run_of_ok (h : phase.run c = (c', .ok ())) : c.run (phase :: rest) = c'.run rest := by
  rw [run, h]

theorem run_of_error {fault : Fault} (h : phase.run c = (c', .error fault)) :
    c.run (phase :: rest) = (c', .error fault) := by
  rw [run, h]

/-- A compilation with the findings of lints. -/
def examined (c : Compilation) (lints : List Lint) : Compilation :=
  { c with diagnostics := c.diagnostics ++ lints.flatMap (·.findings c.metadata) }

theorem faulty_iff : c.Faulty ↔ c.errors ≠ [] := by
  simp [Faulty, errors, Diagnostic.isError]

theorem validate_cases (c : Compilation) (lints : List Lint) :
    ¬ (c.examined lints).Faulty ∧
      (Phase.validate lints).run c = (c.examined lints, .ok ()) ∨
    (c.examined lints).Faulty ∧
      ∃ fault, (Phase.validate lints).run c = (c.examined lints, .error fault) := by
  have hrun : (Phase.validate lints).run c = (c.examined lints,
      if (c.examined lints).errors.isEmpty then .ok ()
      else .error (.lintErrors (c.examined lints).errors.length)) := rfl
  rw [hrun, faulty_iff]
  cases (c.examined lints).errors with
  | nil => exact .inl ⟨not_not.2 rfl, rfl⟩
  | cons d rest => exact .inr ⟨List.cons_ne_nil d rest, _, rfl⟩

theorem lower_cases (c : Compilation) :
    (∃ r, Registry.ofMetadata c.project c.metadata = .ok r ∧
      Phase.lower.run c = ({ c with registry := some r }, .ok ())) ∨
    (∀ r, Registry.ofMetadata c.project c.metadata ≠ .ok r) ∧
      ∃ fault, Phase.lower.run c = (c, .error fault) := by
  dsimp only [Phase.lower]
  cases Registry.ofMetadata c.project c.metadata with
  | ok r => exact .inl ⟨r, rfl, rfl⟩
  | error part => exact .inr ⟨nofun, _, rfl⟩

end Phases

/-! ### One step -/

/-- A step that fails, and at most adds findings. -/
theorem Moves.of_error {c c' : Compilation} {step : Step} {fault : Fault}
    (hproject : c'.project = c.project) (hmetadata : c'.metadata = c.metadata)
    (hregistry : c'.registry = c.registry) (hfindings : c.diagnostics <+: c'.diagnostics)
    (hwhy : step.validates ∧ c'.Faulty ∨
      step.lowers ∧ (∀ r, Registry.ofMetadata c.project c.metadata ≠ .ok r) ∨
      step.asks ∧ c.registry = none) : Moves c step c' (.error fault) where
  project := hproject
  metadata := hmetadata
  findings := hfindings
  fails_iff := iff_of_true ⟨fault, rfl⟩ hwhy
  failed _ := hregistry
  lowered := nofun
  asked := nofun
  taken := by
    rintro rfl
    obtain ⟨hvalidates, -⟩ | ⟨hlowers, -⟩ | ⟨-, hnone⟩ := hwhy
    · cases hvalidates
    · cases hlowers
    · exact hregistry.trans hnone
  others _ _ := hregistry

/-- A finding is added, whatever it is. -/
theorem add_moves (c : Compilation) (d : Diagnostic) {step : Step}
    (hvalidates : step.validates = false) (hlowers : step.lowers = false)
    (hasks : step.asks = false) : Moves c step (c.add d) (.ok none) where
  project := rfl
  metadata := rfl
  findings := List.prefix_append _ _
  fails_iff := by simp [hvalidates, hlowers, hasks]
  failed _ := rfl
  lowered h := by simp [hlowers] at h
  asked h := by simp [hasks] at h
  taken h := by simp [h, Step.asks] at hasks
  others _ _ := rfl

theorem validate_moves (c : Compilation) (lints : List Lint) :
    Moves c (.validate lints) (c.act (.validate lints)).1 (c.act (.validate lints)).2 := by
  rw [act, through]
  obtain ⟨hclean, hvalidate⟩ | ⟨hfaulty, fault, hvalidate⟩ := validate_cases c lints
  · rw [run_of_ok hvalidate]
    refine ⟨rfl, rfl, List.prefix_append _ _, iff_of_false nofun ?_, fun _ => rfl, nofun, nofun,
      nofun, fun _ _ => rfl⟩
    rintro (⟨-, hfaulty⟩ | ⟨hlowers, -⟩ | ⟨hasks, -⟩)
    · exact hclean hfaulty
    · cases hlowers
    · cases hasks
  · rw [run_of_error hvalidate]
    exact .of_error rfl rfl rfl (List.prefix_append _ _) (.inl ⟨rfl, hfaulty⟩)

theorem lower_moves (c : Compilation) : Moves c .lower (c.act .lower).1 (c.act .lower).2 := by
  rw [act, through]
  obtain ⟨r, hr, hlower⟩ | ⟨hnone, fault, hlower⟩ := lower_cases c
  · rw [run_of_ok hlower]
    refine ⟨rfl, rfl, List.prefix_refl _, iff_of_false nofun ?_, nofun, fun _ _ _ => ⟨r, hr, rfl⟩,
      nofun, nofun, fun hlowers => absurd rfl hlowers⟩
    rintro (⟨hvalidates, -⟩ | ⟨-, hnone⟩ | ⟨hasks, -⟩)
    · cases hvalidates
    · exact hnone r hr
    · cases hasks
  · rw [run_of_error hlower]
    exact .of_error rfl rfl rfl (List.prefix_refl _) (.inr (.inl ⟨rfl, hnone⟩))

theorem run_moves (c : Compilation) (lints : List Lint) :
    Moves c (.run lints) (c.act (.run lints)).1 (c.act (.run lints)).2 := by
  have hphases : standard lints = [.validate lints, .lower] := rfl
  rw [act, through, hphases]
  obtain ⟨hclean, hvalidate⟩ | ⟨hfaulty, fault, hvalidate⟩ := validate_cases c lints
  · rw [run_of_ok hvalidate]
    -- Lowering adds no findings, so errors would have to be among those of the validation.
    obtain ⟨r, hr, hlower⟩ | ⟨hnone, fault, hlower⟩ := lower_cases (c.examined lints)
    · rw [run_of_ok hlower]
      refine ⟨rfl, rfl, List.prefix_append _ _, iff_of_false nofun ?_, nofun,
        fun _ _ _ => ⟨r, hr, rfl⟩, nofun, nofun, fun hlowers => absurd rfl hlowers⟩
      rintro (⟨-, hfaulty⟩ | ⟨-, hnone⟩ | ⟨hasks, -⟩)
      · exact hclean hfaulty
      · exact hnone r hr
      · cases hasks
    · rw [run_of_error hlower]
      exact .of_error rfl rfl rfl (List.prefix_append _ _) (.inr (.inl ⟨rfl, hnone⟩))
  · rw [run_of_error hvalidate]
    exact .of_error rfl rfl rfl (List.prefix_append _ _) (.inl ⟨rfl, hfaulty⟩)

/-- A step that gives out the registry that is there. -/
theorem Moves.of_given {c c' : Compilation} {step : Step} {r : Registry} (hr : c.registry = some r)
    (hasks : step.asks = true) (hproject : c'.project = c.project)
    (hmetadata : c'.metadata = c.metadata) (hfindings : c.diagnostics <+: c'.diagnostics)
    (htaken : step = .takeRegistry → c'.registry = none)
    (hothers : step ≠ .takeRegistry → c'.registry = c.registry) :
    Moves c step c' (.ok (some r)) where
  project := hproject
  metadata := hmetadata
  findings := hfindings
  fails_iff := by
    refine iff_of_false nofun ?_
    rintro (⟨hvalidates, -⟩ | ⟨hlowers, -⟩ | ⟨-, hnone⟩)
    · cases step <;> simp_all [Step.asks, Step.validates]
    · cases step <;> simp_all [Step.asks, Step.lowers]
    · simp [hr] at hnone
  failed := nofun
  lowered hlowers := by cases step <;> simp_all [Step.asks, Step.lowers]
  asked _ given hgiven := by rw [hr, ← Except.ok.inj hgiven]
  taken := htaken
  others _ hother := hothers hother

theorem registry_moves (c : Compilation) :
    Moves c .registry (c.act .registry).1 (c.act .registry).2 := by
  rw [act, theRegistry]
  cases hr : c.registry with
  | none => exact .of_error rfl rfl rfl (List.prefix_refl _) (.inr (.inr ⟨rfl, hr⟩))
  | some r => exact .of_given hr rfl rfl rfl (List.prefix_refl _) nofun fun _ => rfl

theorem takeRegistry_moves (c : Compilation) :
    Moves c .takeRegistry (c.act .takeRegistry).1 (c.act .takeRegistry).2 := by
  rw [act, takeRegistry, theRegistry]
  cases hr : c.registry with
  | none => exact .of_error rfl rfl rfl (List.prefix_refl _) (.inr (.inr ⟨rfl, hr⟩))
  | some r =>
    exact .of_given hr rfl rfl rfl (List.prefix_refl _) (fun _ => rfl) fun hother => absurd rfl hother

/-- **What one step does.** -/
theorem act_moves (c : Compilation) (step : Step) : Moves c step (c.act step).1 (c.act step).2 := by
  cases step with
  | addError phase message => exact add_moves c _ rfl rfl rfl
  | addWarning phase message => exact add_moves c _ rfl rfl rfl
  | add d => exact add_moves c d rfl rfl rfl
  | validate lints => exact validate_moves c lints
  | lower => exact lower_moves c
  | run lints => exact run_moves c lints
  | registry => exact registry_moves c
  | takeRegistry => exact takeRegistry_moves c

/-! ### All steps -/

theorem fresh_consistent (project : ProjectNames) (m : Metadata) :
    Consistent project m (fresh project m) := ⟨rfl, rfl, .inl rfl⟩

section Consistent
variable {names : ProjectNames} {m : Metadata}

/-- A step that makes the registry makes that of the metadata, and another leaves it or takes it. -/
theorem Moves.consistent {c c' : Compilation} {step : Step} {answer : Answer}
    (h : Moves c step c' answer) (hc : Consistent names m c) : Consistent names m c' where
  project := h.project.trans hc.project
  metadata := h.metadata.trans hc.metadata
  registry := by
    have hkept (heq : c'.registry = c.registry) :
        c'.registry = none ∨ ∃ r, Registry.ofMetadata names m = .ok r ∧ c'.registry = some r := by
      rw [heq]
      exact hc.registry
    by_cases hlowers : step.lowers
    · cases answer with
      | ok given =>
        obtain ⟨r, hr, hregistry⟩ := h.lowered hlowers given rfl
        rw [hc.project, hc.metadata] at hr
        exact .inr ⟨r, hr, hregistry⟩
      | error fault => exact hkept (h.failed ⟨fault, rfl⟩)
    · by_cases htakes : step = .takeRegistry
      · exact .inl (h.taken htakes)
      · exact hkept (h.others hlowers htakes)

theorem after_consistent {c : Compilation} (hc : Consistent names m c) (steps : List Step) :
    Consistent names m (c.after steps) := by
  induction steps generalizing c with
  | nil => exact hc
  | cons step rest ih => exact ih ((act_moves c step).consistent hc)

end Consistent

/-- **A compilation is consistent through all steps.** After any steps it has the project and the
metadata that it began with, and a registry only if the metadata makes it; and the next step, whichever
it is, does what it may and no more. -/
theorem steps_consistent (project : ProjectNames) (m : Metadata) (steps : List Step) (step : Step) :
    let c := (fresh project m).after steps
    Consistent project m c ∧ Moves c step (c.act step).1 (c.act step).2 ∧
      Consistent project m (c.act step).1 := by
  intro c
  have hc : Consistent project m c := after_consistent (fresh_consistent project m) steps
  exact ⟨hc, act_moves c step, (act_moves c step).consistent hc⟩

end Bindery.Compilation
