import Bindery.Lint
import Bindery.Proofs.Loading.Loaded
import Mathlib.Data.Finset.Card
import Mathlib.Data.Finset.Dedup

/-! What the lints count.

The lints for repeated names have as many findings as there are names too many (`surplus`), and the
lint for loops has one finding for each function whose loop goes wrong. All of these are errors, and
the findings of the other lints are warnings. -/
namespace Bindery.Lint

/-- The number of names too many for all to be different. -/
def surplus (names : List String) : Nat := names.length - names.toFinset.card

theorem surplus_eq_zero {names : List String} : surplus names = 0 ↔ names.Nodup := by
  rw [surplus, Nat.sub_eq_zero_iff_le]
  constructor
  · intro h
    have hcard := le_antisymm names.toFinset_card_le h
    exact Multiset.coe_nodup.1 (Multiset.toFinset_card_eq_card_iff_nodup.1 hcard)
  · intro h
    rw [List.toFinset_card_of_nodup h]

/-! ### Repeated names -/

/-- The names of what came before, with one more. -/
theorem card_names_append {α : Type} (name : α → String) (earlier : List α) (a : α) :
    ((earlier ++ [a]).map name).toFinset.card =
      if name a ∈ earlier.map name then (earlier.map name).toFinset.card
      else (earlier.map name).toFinset.card + 1 := by
  rw [List.map_append, List.toFinset_append, List.map_singleton, List.toFinset_cons,
    List.toFinset_nil, insert_empty_eq, Finset.union_comm, ← Finset.insert_eq,
    Finset.card_insert_eq_ite]
  simp only [List.mem_toFinset]

/-- A search that finds something at each name that came before finds the surplus. -/
theorem length_repeats {α : Type} (name : α → String) (found : List α → List α → List Diagnostic)
    (hnil : ∀ earlier, found earlier [] = [])
    (hcons : ∀ earlier a rest, (found earlier (a :: rest)).length =
      (if name a ∈ earlier.map name then 1 else 0) + (found (earlier ++ [a]) rest).length)
    (xs : List α) : (found [] xs).length = surplus (xs.map name) := by
  have key : ∀ (xs earlier : List α), (found earlier xs).length +
      ((earlier ++ xs).map name).toFinset.card =
        xs.length + (earlier.map name).toFinset.card := by
    intro xs
    induction xs with
    | nil => simp [hnil]
    | cons a rest ih =>
      intro earlier
      have h := ih (earlier ++ [a])
      rw [card_names_append, List.append_assoc, List.singleton_append] at h
      rw [hcons, List.length_cons]
      split at h <;> rename_i hname <;> simp only [hname, if_true, if_false] <;> omega
  have h := key xs []
  rw [List.nil_append, List.map_nil, List.toFinset_nil, Finset.card_empty, Nat.add_zero] at h
  rw [surplus, List.length_map]
  omega

theorem length_repeatedCategories (cs : List Metadata.Category) :
    (repeatedCategories [] cs).length = surplus (cs.map (·.name)) := by
  refine length_repeats _ repeatedCategories (fun _ => rfl) (fun earlier c rest => ?_) cs
  rw [repeatedCategories, List.length_append]
  congr 1
  by_cases h : c.name ∈ earlier.map (·.name)
  · have ha : earlier.any (·.name = c.name) = true := by simpa using h
    rw [if_pos h, if_pos ha, List.length_singleton]
  · have ha : ¬ earlier.any (·.name = c.name) = true := by simpa using h
    rw [if_neg h, if_neg ha, List.length_nil]

theorem length_repeatedFunctions (fs : List (Metadata.Category × Metadata.Function)) :
    (repeatedFunctions [] fs).length = surplus (fs.map (·.2.name)) := by
  refine length_repeats _ repeatedFunctions (fun _ => rfl) (fun earlier f rest => ?_) fs
  rw [repeatedFunctions, List.length_append]
  congr 1
  cases h : earlier.find? (·.2.name = f.2.name) with
  | none =>
    have hn : f.2.name ∉ earlier.map (·.2.name) := by
      simpa [List.find?_eq_none] using h
    rw [if_neg hn, List.length_nil]
  | some first =>
    have hs : f.2.name ∈ earlier.map (·.2.name) := by
      refine List.mem_map.2 ⟨first, List.mem_of_find?_eq_some h, ?_⟩
      simpa using List.find?_some h
    rw [if_pos hs, List.length_singleton]

/-! ### Loops -/

end Lint

/-- A function that loops does so over a vector that it declares. -/
def Metadata.Function.LoopsOverVector (f : Metadata.Function) : Prop :=
  ∀ n ∈ f.loopParameter, ∃ p ∈ f.parameters, p.name = n ∧ p.rank = .vector

instance (f : Metadata.Function) : Decidable f.LoopsOverVector :=
  inferInstanceAs (Decidable (∀ n ∈ f.loopParameter, ∃ p ∈ f.parameters, p.name = n ∧ p.rank = .vector))

namespace Lint

/-- Where no two parameters share a name, the first of a name is the only one. -/
theorem loopFault?_eq_none {f : Metadata.Function} (h : (f.parameters.map (·.name)).Nodup) :
    loopFault? f = none ↔ f.LoopsOverVector := by
  unfold loopFault? Metadata.Function.LoopsOverVector
  cases hn : f.loopParameter with
  | none => simp
  | some n =>
    simp only [Option.bind_some, Option.mem_some_iff, forall_eq']
    cases hp : f.parameters.find? (·.name = n) with
    | none =>
      have hnone : ∀ p ∈ f.parameters, p.name ≠ n := by simpa [List.find?_eq_none] using hp
      simp only [reduceCtorEq, false_iff, not_exists, not_and]
      intro p hmem hname
      exact absurd hname (hnone p hmem)
    | some p =>
      have hmem := List.mem_of_find?_eq_some hp
      have hname : p.name = n := by simpa using List.find?_some hp
      simp only [ite_eq_left_iff, reduceCtorEq, imp_false, not_not]
      constructor
      · intro hr
        exact ⟨p, hmem, hname, hr⟩
      · rintro ⟨q, hq, hqname, hr⟩
        rwa [List.inj_on_of_nodup_map h hmem hq (hname.trans hqname.symm)]

/-- The number of functions whose loop goes wrong. -/
def faultyLoops (m : Metadata) : Nat := m.functions.countP fun f => ¬ f.2.LoopsOverVector

theorem length_loopParameter {m : Metadata} (h : ∀ c ∈ m.categories, c.Sound) :
    (loopParameter.findings m).length = faultyLoops m := by
  have hf : ∀ f ∈ m.functions, ((loopFault? f.2).isSome = true ↔ ¬ f.2.LoopsOverVector) := by
    rintro ⟨c, f⟩ hmem
    obtain ⟨hc, hf⟩ : c ∈ m.categories ∧ f ∈ c.functions := by
      simpa [Metadata.functions] using hmem
    rw [← loopFault?_eq_none ((h c hc).functions f hf).distinct, ← Option.not_isSome_iff_eq_none,
      not_not]
  rw [loopParameter, List.length_filterMap_eq_countP, faultyLoops]
  exact List.countP_congr fun f hmem => by simpa using hf f hmem

/-! ### Errors and warnings -/

theorem isError_of_mem_repeatedCategories {earlier cs : List Metadata.Category} :
    ∀ d ∈ repeatedCategories earlier cs, d.isError = true := by
  induction cs generalizing earlier with
  | nil => simp [repeatedCategories]
  | cons c rest ih =>
    rw [repeatedCategories, List.forall_mem_append]
    refine ⟨?_, ih⟩
    split
    · exact List.forall_mem_singleton.2 rfl
    · exact fun _ hd => nomatch hd

theorem isError_of_mem_repeatedFunctions
    {earlier fs : List (Metadata.Category × Metadata.Function)} :
    ∀ d ∈ repeatedFunctions earlier fs, d.isError = true := by
  induction fs generalizing earlier with
  | nil => simp [repeatedFunctions]
  | cons f rest ih =>
    rw [repeatedFunctions, List.forall_mem_append]
    refine ⟨?_, ih⟩
    split
    · exact List.forall_mem_singleton.2 rfl
    · exact fun _ hd => nomatch hd

theorem isError_of_mem_loopParameter {m : Metadata} :
    ∀ d ∈ loopParameter.findings m, d.isError = true := by
  intro d hd
  obtain ⟨f, -, hf⟩ := List.mem_filterMap.1 hd
  obtain ⟨message, -, rfl⟩ := Option.map_eq_some_iff.1 hf
  rfl

/-- The findings of the lints that warn. -/
def warnings (m : Metadata) : List Diagnostic := emptyDescription.findings m ++ emptyCategory.findings m

theorem severity_of_mem_warnings {m : Metadata} : ∀ d ∈ warnings m, d.severity = .warning := by
  simp only [warnings, emptyDescription, emptyCategory, List.forall_mem_append,
    List.forall_mem_map]
  exact ⟨⟨fun _ _ => rfl, fun _ _ => rfl⟩, fun _ _ => rfl⟩

/-- The findings of the lints that find errors. -/
def faults (m : Metadata) : List Diagnostic :=
  duplicateCategory.findings m ++ duplicateFunction.findings m ++ loopParameter.findings m

theorem isError_of_mem_faults {m : Metadata} : ∀ d ∈ faults m, d.isError = true := by
  simp only [faults, List.forall_mem_append]
  exact ⟨⟨isError_of_mem_repeatedCategories, isError_of_mem_repeatedFunctions⟩,
    isError_of_mem_loopParameter⟩

theorem findings_defaults (m : Metadata) :
    defaults.flatMap (·.findings m) = faults m ++ warnings m := by
  simp [defaults, faults, warnings]

/-- The errors among all findings are those of the lints that find errors. -/
theorem filter_isError_findings (m : Metadata) :
    (defaults.flatMap (·.findings m)).filter (·.isError) = faults m := by
  have hw : ∀ d ∈ warnings m, ¬ d.isError = true := by
    intro d hd
    simp [Diagnostic.isError, severity_of_mem_warnings d hd]
  rw [findings_defaults, List.filter_append, List.filter_eq_self.2 isError_of_mem_faults,
    List.filter_eq_nil_iff.2 hw, List.append_nil]

/-- The number of errors in loaded metadata. -/
def errorCount (m : Metadata) : Nat :=
  surplus (m.categories.map (·.name)) + surplus (m.functions.map (·.2.name)) + faultyLoops m

theorem length_faults {m : Metadata} (h : ∀ c ∈ m.categories, c.Sound) :
    (faults m).length = errorCount m := by
  rw [faults, List.length_append, List.length_append, length_loopParameter h]
  show (repeatedCategories [] m.categories).length + (repeatedFunctions [] m.functions).length
    + faultyLoops m = errorCount m
  rw [length_repeatedCategories, length_repeatedFunctions, errorCount]

end Bindery.Lint
