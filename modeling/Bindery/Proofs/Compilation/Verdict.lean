import Bindery.Compilation
import Bindery.Proofs.Compilation.Lints
import Bindery.Proofs.Registry.Lowering

/-! The verdict on loaded metadata.

Loaded metadata goes through the standard phases exactly when it is lawful: no category and no
function is declared twice, and every loop is over a declared vector. It is then only warned about
and has a registry. Otherwise the phase of the lints stops it, and the errors counted are the names
too many and the loops that go wrong: making the registry never fails. -/
namespace Bindery

/-- Metadata that no lint has errors about. -/
structure Metadata.Lawful (m : Metadata) : Prop where
  categories : (m.categories.map (·.name)).Nodup
  functions : (m.functions.map (·.2.name)).Nodup
  loops : ∀ f ∈ m.functions, f.2.LoopsOverVector

namespace Compilation

theorem errorCount_eq_zero {m : Metadata} : Lint.errorCount m = 0 ↔ m.Lawful := by
  simp only [Lint.errorCount, Nat.add_eq_zero_iff, Lint.surplus_eq_zero, Lint.faultyLoops,
    List.countP_eq_zero, decide_not, Bool.not_eq_true', decide_eq_false_iff_not, not_not]
  constructor
  · rintro ⟨⟨hc, hf⟩, hl⟩
    exact ⟨hc, hf, hl⟩
  · exact fun h => ⟨⟨h.categories, h.functions⟩, h.loops⟩

/-- A compilation before its first phase. -/
def fresh (project : ProjectNames) (m : Metadata) : Compilation := { project, metadata := m }

/-- A fresh compilation after the lints. -/
def linted (project : ProjectNames) (m : Metadata) : Compilation :=
  { fresh project m with diagnostics := Lint.defaults.flatMap (·.findings m) }

theorem errors_linted (project : ProjectNames) (m : Metadata) :
    (linted project m).errors = Lint.faults m := Lint.filter_isError_findings m

/-- The lints alone decide. -/
theorem run_standard {project : ProjectNames} {m : Metadata} {r : Registry}
    (h : ∀ c ∈ m.categories, c.Sound) (hr : Registry.ofMetadata project m = .ok r) :
    (fresh project m).run standard =
      if Lint.errorCount m = 0 then ({ linted project m with registry := some r }, .ok ())
      else (linted project m, .error (.lintErrors (Lint.errorCount m))) := by
  have hvalidate : (Phase.validate Lint.defaults).run (fresh project m) =
      (linted project m, if (Lint.faults m).isEmpty then .ok ()
        else .error (.lintErrors (Lint.faults m).length)) := by
    rw [← errors_linted project m]
    rfl
  have hlower : Phase.lower.run (linted project m) =
      ({ linted project m with registry := some r }, .ok ()) := by
    have hr' : Registry.ofMetadata (linted project m).project (linted project m).metadata = .ok r :=
      hr
    dsimp only [Phase.lower]
    rw [hr']
  rw [standard, run, hvalidate, ← Lint.length_faults h]
  cases hf : Lint.faults m with
  | nil =>
    simp only [List.isEmpty_nil, List.length_nil, if_true, run, hlower]
  | cons d rest => simp

/-- A registry that metadata has compiled to is made from lawful metadata. -/
theorem registry_of_run {project : ProjectNames} {m : Metadata}
    (hm : ∀ c ∈ m.categories, c.Sound) {after : Compilation}
    (hrun : (fresh project m).run standard = (after, .ok ())) {r : Registry}
    (hr : after.registry = some r) : m.Lawful ∧ Registry.ofMetadata project m = .ok r := by
  obtain ⟨r', hr'⟩ := Registry.exists_ofMetadata project hm
  rw [run_standard hm hr'] at hrun
  by_cases hcount : Lint.errorCount m = 0
  · rw [if_pos hcount] at hrun
    cases hrun
    cases hr
    exact ⟨errorCount_eq_zero.1 hcount, hr'⟩
  · rw [if_neg hcount] at hrun
    cases hrun

/-- The names of the categories of a registry can stand in generated code. -/
theorem usable_categories {project : ProjectNames} {m : Metadata}
    (hm : ∀ c ∈ m.categories, c.Sound) {r : Registry}
    (hmade : Registry.ofMetadata project m = .ok r) :
    ∀ c ∈ r.categories, Metadata.Usable c.name := by
  have hnames : ∀ name ∈ r.categories.map (·.name), Metadata.Usable name := by
    rw [Registry.names_ofMetadata hmade]
    exact List.forall_mem_map.2 fun c hc => (hm c hc).name
  exact List.forall_mem_map.1 hnames

/-- The functions of a registry are declared, and each loop is over a vector. -/
theorem exists_declaration {project : ProjectNames} {m : Metadata}
    (hm : ∀ c ∈ m.categories, c.Sound) {after : Compilation}
    (hrun : (fresh project m).run standard = (after, .ok ())) {r : Registry}
    (hr : after.registry = some r) {c : Registry.Category} (hc : c ∈ r.categories)
    {f : Registry.Function} (hf : f ∈ c.functions) : ∃ g : Metadata.Function,
      g.Sound ∧ g.LoopsOverVector ∧ Registry.Function.ofMetadata project g = .ok f := by
  obtain ⟨hlawful, hmade⟩ := registry_of_run hm hrun hr
  obtain ⟨cs, hcs, rfl⟩ := Registry.ofMetadata_eq_ok.1 hmade
  obtain ⟨d, hd, hcd⟩ := exists_of_mem_right hcs hc
  obtain ⟨fs, hfs, rfl⟩ := Registry.Category.ofMetadata_eq_ok.1 hcd
  obtain ⟨g, hg, hfg⟩ := exists_of_mem_right hfs hf
  have hloops := hlawful.loops (d, g) (List.mem_flatMap.2 ⟨d, hd, List.mem_map.2 ⟨g, hg, rfl⟩⟩)
  exact ⟨g, (hm d hd).functions g hg, hloops, hfg⟩

/-- A run that succeeds, by what it shows of its registry. -/
theorem exists_registry {α : Type} {project : ProjectNames} {m : Metadata} {view : Registry → α}
    {a : α} (h : (((fresh project m).run standard).2.toOption,
      ((fresh project m).run standard).1.registry.map view) = (some (), some a)) :
    ∃ after r, (fresh project m).run standard = (after, .ok ()) ∧ after.registry = some r ∧
      view r = a := by
  cases houtcome : (fresh project m).run standard with
  | mk after result =>
  rw [houtcome, Prod.mk.injEq] at h
  obtain ⟨hok, hregistry⟩ := h
  obtain rfl : result = .ok () := eq_ok_of_toOption hok
  obtain ⟨r, hr, hview⟩ := Option.map_eq_some_iff.1 hregistry
  exact ⟨after, r, rfl, hr, hview⟩

/-- **The verdict of the standard phases on loaded metadata.** -/
theorem run_standard_verdict (project : ProjectNames) (m : Metadata)
    (hm : ∀ c ∈ m.categories, ∃ source filename, Metadata.Category.parse source filename = .ok c) :
    let outcome := (fresh project m).run standard
    (outcome.2 = .ok () ↔ m.Lawful) ∧
      (outcome.2 = .ok () →
        (∃ r, outcome.1.registry = some r) ∧ ∀ d ∈ outcome.1.diagnostics, d.severity = .warning) ∧
      ∀ fault, outcome.2 = .error fault →
        outcome.1.registry = none ∧ fault = .lintErrors (Lint.errorCount m) ∧
          outcome.1.errors.length = Lint.errorCount m := by
  intro outcome
  have hs := Metadata.sound_of_parsed hm
  obtain ⟨r, hr⟩ := Registry.exists_ofMetadata project hs
  have hrun : outcome = _ := run_standard hs hr
  rw [← errorCount_eq_zero]
  by_cases hcount : Lint.errorCount m = 0
  · rw [if_pos hcount] at hrun
    have hfaults : Lint.faults m = [] := by
      rw [← List.length_eq_zero_iff, Lint.length_faults hs, hcount]
    rw [hrun]
    refine ⟨iff_of_true rfl hcount, fun _ => ⟨⟨r, rfl⟩, ?_⟩, fun _ hfault => nomatch hfault⟩
    show ∀ d ∈ Lint.defaults.flatMap (·.findings m), d.severity = .warning
    rw [Lint.findings_defaults, hfaults, List.nil_append]
    exact Lint.severity_of_mem_warnings
  · rw [if_neg hcount] at hrun
    rw [hrun]
    refine ⟨iff_of_false nofun hcount, nofun, fun fault hfault => ?_⟩
    refine ⟨rfl, (Except.error.inj hfault).symm, ?_⟩
    rw [errors_linted, Lint.length_faults hs]

/-- A category with a loop over a parameter that is not there. -/
def strayLoop : String :=
  "<C name='a'><Functions><Procedure name='f' loopParameter='n'>"
    ++ "<ReturnValue><type>long</type></ReturnValue></Procedure></Functions></C>"

/-- The category of `strayLoop`, declared twice. -/
def strayLoops : Metadata :=
  let f : Metadata.Function :=
    ⟨"f", .procedure, none, none, none, some "n", none, none, none, false, true, [], [],
      some ⟨.long, .scalar, ""⟩⟩
  { categories := [⟨"a", "a", "", [], [f]⟩, ⟨"a", "a", "", [], [f]⟩], enumerations := [] }

/-- One category and one function too many, and two loops that go wrong. -/
theorem run_strayLoops :
    (∀ c ∈ strayLoops.categories, Metadata.Category.parse strayLoop "a.xml" = .ok c) ∧
      ((fresh ⟨"P", "P", "p"⟩ strayLoops).run standard).2 = .error (.lintErrors 4) := by
  have hparse : ∀ c ∈ strayLoops.categories, Metadata.Category.parse strayLoop "a.xml" = .ok c :=
    Metadata.parse_of_chars (Metadata.append_chars rfl rfl) (by decide +kernel)
  obtain ⟨hok, -, herror⟩ := run_standard_verdict ⟨"P", "P", "p"⟩ strayLoops
    fun c hc => ⟨_, _, hparse c hc⟩
  refine ⟨hparse, ?_⟩
  cases hrun : ((fresh ⟨"P", "P", "p"⟩ strayLoops).run standard).2 with
  | ok _ => exact absurd (hok.1 hrun).categories (by decide +kernel)
  | error fault =>
    have hcount : Lint.errorCount strayLoops = 4 := by decide +kernel
    rw [(herror fault hrun).2.1, hcount]

end Compilation
end Bindery
