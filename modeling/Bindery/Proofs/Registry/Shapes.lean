import Bindery.Proofs.Registry.Lowering

/-! The shapes of values in a registry.

Loading lets properties be declared in vectors only, and what generation adds holds none. So all
properties that a function of a registry takes or returns are in vectors (`ofMetadata_shaped`). -/
namespace Bindery.Registry

/-- A function takes and returns properties in vectors only. -/
structure Function.Shaped (f : Function) : Prop where
  parameters : ∀ p ∈ f.parameters, p.type = .property → p.rank = .vector
  returnValue : f.returnValue.type = .property → f.returnValue.rank = .vector

theorem Kind.type_subject (kind : Kind) : ∀ p ∈ kind.subject, p.type ≠ .property := by
  cases kind <;> simp [subject, Parameter.added]

theorem Kind.type_trailing (kind : Kind) (dependencyTrigger : Bool) :
    ∀ p ∈ kind.trailing dependencyTrigger, p.type ≠ .property := by
  simp only [trailing, List.forall_mem_append]
  constructor <;> split <;> simp [trigger, permanent, Parameter.added]

theorem Function.shaped_of_sound {project : ProjectNames} {f : Metadata.Function} {g : Function}
    (hf : f.Sound) (h : Function.ofMetadata project f = .ok g) : g.Shaped := by
  obtain ⟨kind, value, -, hvalue, rfl⟩ := Function.ofMetadata_eq_ok.1 h
  constructor
  · dsimp only
    rw [List.forall_mem_append, List.forall_mem_append, List.forall_mem_map]
    refine ⟨⟨fun p hp ht => ?_, fun p hp => (hf.parameters p hp).property⟩, fun p hp ht => ?_⟩
    · exact absurd ht (kind.type_subject p hp)
    · exact absurd ht (kind.type_trailing _ p hp)
  · rw [returned] at hvalue
    split at hvalue
    · cases hvalue
      exact nofun
    · cases hreturn : f.returnValue with
      | none => simp [hreturn, required] at hvalue
      | some v =>
        simp only [hreturn, required, Except.ok.injEq] at hvalue
        exact hf.property value (by rw [hreturn, hvalue]; rfl)

/-- In a registry of loaded metadata, all properties are in vectors. -/
theorem ofMetadata_shaped {project : ProjectNames} {m : Metadata}
    (hm : ∀ c ∈ m.categories, c.Sound) {r : Registry} (hr : Registry.ofMetadata project m = .ok r) :
    ∀ c ∈ r.categories, ∀ f ∈ c.functions, f.Shaped := by
  obtain ⟨cs, hcs, rfl⟩ := ofMetadata_eq_ok.1 hr
  intro d hd g hg
  obtain ⟨c, hc, hcd⟩ := exists_of_mem_right hcs hd
  obtain ⟨fs, hfs, rfl⟩ := Category.ofMetadata_eq_ok.1 hcd
  obtain ⟨f, hf, hfg⟩ := exists_of_mem_right hfs hg
  exact Function.shaped_of_sound ((hm c hc).functions f hf) hfg

end Bindery.Registry
