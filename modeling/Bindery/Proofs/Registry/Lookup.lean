import Bindery.Proofs.Compilation.Repeats
import Bindery.Proofs.Compilation.Steps
import Bindery.Proofs.Registry.Parameters

/-! Look-ups in a registry.

A look-up gives the first entry with a name. The standard phases let no metadata through in which a
name is declared twice, and making the registry keeps every name in its place. So the first entry with
a name is the only one, and it is made from the declaration with that name (`run_indexes`). -/
namespace Bindery.Registry

/-- A function of the registry with the texts, the parameters and the platforms of its declaration. -/
structure Function.Stated (f : Metadata.Function) (g : Function) : Prop where
  name : g.name = f.name
  tag : g.tag = f.tag
  constructor : f.tag = .constructor → ∃ called ∈ f.libraryFunction,
    g.description = "Construct an object of class " ++ called ++ " and return its id"
  description : f.tag ≠ .constructor → g.description = f.description.getD ""
  parameters : ∃ before after, Leading f.tag before ∧ Trailing f.tag f.dependencyTrigger after ∧
    g.parameters = before ++ f.parameters.map (fun p => { p with implicit := false }) ++ after
  platforms : g.platforms = f.platforms

/-- A category and a function of the registry, by their declarations. -/
structure Lowered (project : ProjectNames) (p : Metadata.Category × Metadata.Function)
    (q : Category × Function) : Prop where
  category : Category.ofMetadata project p.1 = .ok q.1
  function : Function.ofMetadata project p.2 = .ok q.2
  stated : Function.Stated p.2 q.2

/-- A registry in which every name leads to what is made from its declaration, and no other name leads
anywhere. -/
structure Indexes (project : ProjectNames) (m : Metadata) (r : Registry) : Prop where
  /-- The functions correspond to the declared ones, one by one and in order. -/
  pairs : List.Forall₂ (Lowered project) m.functions r.functions
  category : ∀ d ∈ r.categories, r.category? d.name = some d
  function : ∀ q ∈ r.functions, r.function? q.2.name = some q.2
  declared : ∀ p ∈ m.functions, ∃ q ∈ r.functions, Lowered project p q ∧
    r.category? p.1.name = some q.1 ∧ r.function? p.2.name = some q.2
  category_none : ∀ name, r.category? name = none ↔ name ∉ m.categories.map (·.name)
  function_none : ∀ name, r.function? name = none ↔ name ∉ m.functions.map (·.2.name)
  /-- No function stands in two categories, or twice in one. -/
  once : ∀ q ∈ r.functions, ∃! d, d ∈ r.categories ∧ q.2 ∈ d.functions
  distinct : r.functions.Nodup

/-! ### Functions by their declarations -/

theorem required_eq_ok {α : Type} {part : Option α} {missing : Missing} {a : α} :
    required part missing = .ok a ↔ part = some a := by
  cases part <;> simp [required]

/-- The kind of a function is that of its declaration, and a constructor calls what it declares. -/
theorem Kind.of_ofFunction {f : Metadata.Function} {kind : Kind}
    (h : Kind.ofFunction f = .ok kind) :
    kind.tag = f.tag ∧ ∀ called, kind = .constructor called → f.libraryFunction = some called := by
  unfold Kind.ofFunction at h
  split at h
  · next ht =>
    obtain ⟨called, hcalled, hkind⟩ := bind_eq_ok.1 h
    cases hkind
    refine ⟨ht.symm, fun called' heq => ?_⟩
    cases heq
    exact required_eq_ok.1 hcalled
  · next ht =>
    obtain ⟨called, -, h⟩ := bind_eq_ok.1 h
    obtain ⟨owner, -, hkind⟩ := bind_eq_ok.1 h
    cases hkind
    exact ⟨ht.symm, nofun⟩
  · next ht =>
    obtain ⟨called, -, h⟩ := bind_eq_ok.1 h
    obtain ⟨owner, -, hkind⟩ := bind_eq_ok.1 h
    cases hkind
    exact ⟨ht.symm, nofun⟩
  · next ht =>
    cases h
    exact ⟨ht.symm, nofun⟩

theorem Function.stated_of_ofMetadata {project : ProjectNames} {f : Metadata.Function}
    {g : Function} (h : Function.ofMetadata project f = .ok g) : Function.Stated f g := by
  obtain ⟨kind, value, hkind, -, rfl⟩ := Function.ofMetadata_eq_ok.1 h
  obtain ⟨htag, hcalled⟩ := Kind.of_ofFunction hkind
  refine ⟨rfl, htag, fun hc => ?_, fun hc => ?_, ?_, rfl⟩
  · cases kind with
    | constructor called => exact ⟨called, hcalled called rfl, rfl⟩
    | member | enumerationMember | procedure => simp [Kind.tag, hc] at htag
  · cases kind with
    | constructor called => exact absurd htag.symm hc
    | member | enumerationMember | procedure => rfl
  · exact ⟨_, _, htag ▸ kind.leading_subject,
      htag ▸ kind.trailing_trailing f.dependencyTrigger, rfl⟩

/-! ### Making the registry keeps everything in place -/

section Made
variable {project : ProjectNames} {m : Metadata} {r : Registry}

/-- The functions of a registry and those of the metadata side by side. -/
theorem forall₂_lowered (h : Registry.ofMetadata project m = .ok r) :
    List.Forall₂ (Lowered project) m.functions r.functions := by
  obtain ⟨cs, hcs, rfl⟩ := ofMetadata_eq_ok.1 h
  refine List.rel_flatMap hcs fun c d hcd => ?_
  obtain ⟨fs, hfs, rfl⟩ := Category.ofMetadata_eq_ok.1 hcd
  rw [List.forall₂_map_left_iff, List.forall₂_map_right_iff]
  exact hfs.imp fun _ _ hfg => ⟨hcd, hfg, Function.stated_of_ofMetadata hfg⟩

theorem functionNames_ofMetadata (h : Registry.ofMetadata project m = .ok r) :
    r.functions.map (·.2.name) = m.functions.map (·.2.name) :=
  map_eq_of_forall₂ ((forall₂_lowered h).imp fun _ _ hpq => hpq.stated.name)

theorem mem_functions {d : Category} {g : Function} :
    (d, g) ∈ r.functions ↔ d ∈ r.categories ∧ g ∈ d.functions := by
  simp [Registry.functions]

end Made

/-! ### Names that are declared once -/

/-- Where no two entries share a name, the first with a name is the only one. -/
theorem find?_of_nodup {α : Type} {name : α → String} {xs : List α} (h : (xs.map name).Nodup)
    {x : α} (hx : x ∈ xs) : xs.find? (name · = name x) = some x := by
  cases hfind : xs.find? (name · = name x) with
  | none =>
    have hne := List.find?_eq_none.1 hfind x hx
    exact absurd (decide_eq_true rfl) hne
  | some y =>
    have hname : name y = name x := by simpa using List.find?_some hfind
    rw [List.inj_on_of_nodup_map h (List.mem_of_find?_eq_some hfind) hx hname]

theorem find?_eq_none_iff {α : Type} {name : α → String} {xs : List α} {n : String} :
    xs.find? (name · = n) = none ↔ n ∉ xs.map name := by
  simp [List.find?_eq_none]

/-- A registry of metadata without repeated names. -/
theorem indexes_of_nodup {project : ProjectNames} {m : Metadata} {r : Registry}
    (hmade : Registry.ofMetadata project m = .ok r) (hc : (m.categories.map (·.name)).Nodup)
    (hf : (m.functions.map (·.2.name)).Nodup) : Indexes project m r := by
  have hpairs := forall₂_lowered hmade
  have hcnames := names_ofMetadata hmade
  have hfnames := functionNames_ofMetadata hmade
  have hmap : (r.functions.map Prod.snd).map (·.name) = m.functions.map (·.2.name) := by
    rw [List.map_map, ← hfnames]
    rfl
  rw [← hcnames] at hc
  rw [← hfnames] at hf
  have hfunction : ∀ q ∈ r.functions, r.function? q.2.name = some q.2 := fun q hq =>
    find?_of_nodup (by rwa [hmap, ← hfnames]) (List.mem_map_of_mem hq)
  have hcategory : ∀ d ∈ r.categories, r.category? d.name = some d := fun d hd =>
    find?_of_nodup hc hd
  refine ⟨hpairs, hcategory, hfunction, fun p hp => ?_, fun name => ?_, fun name => ?_,
    fun q hq => ?_, List.Nodup.of_map _ hf⟩
  · obtain ⟨q, hq, hpq⟩ := exists_of_mem_left hpairs hp
    have hd : q.1 ∈ r.categories := (mem_functions.1 hq).1
    refine ⟨q, hq, hpq, ?_, ?_⟩
    · rw [← Category.name_ofMetadata hpq.category]
      exact hcategory q.1 hd
    · rw [← hpq.stated.name]
      exact hfunction q hq
  · rw [Registry.category?, find?_eq_none_iff, hcnames]
  · rw [Registry.function?, find?_eq_none_iff, hmap]
  · obtain ⟨d, g⟩ := q
    refine ⟨d, mem_functions.1 hq, fun d' hd' => ?_⟩
    have heq : (d', g) = (d, g) := List.inj_on_of_nodup_map hf (mem_functions.2 hd') hq rfl
    exact congrArg Prod.fst heq

end Registry

namespace Compilation

/-- Where the standard phases succeed, the lints have found nothing to refuse, and the registry is made
from the metadata. -/
theorem made_of_run {c after : Compilation} (h : c.run standard = (after, .ok ())) :
    ¬ (c.examined Lint.defaults).Faulty ∧
      ∃ r, after.theRegistry = .ok r ∧ Registry.ofMetadata c.project c.metadata = .ok r := by
  obtain ⟨hclean, hvalidate⟩ | ⟨-, fault, hvalidate⟩ := validate_cases c Lint.defaults
  · rw [standard, run_of_ok hvalidate] at h
    obtain ⟨r, hr, hlower⟩ | ⟨-, fault, hlower⟩ := lower_cases (c.examined Lint.defaults)
    · rw [run_of_ok hlower] at h
      cases h
      exact ⟨hclean, r, rfl, hr⟩
    · rw [run_of_error hlower] at h
      cases h
  · rw [standard, run_of_error hvalidate] at h
    cases h

/-- Findings without errors leave no repeated name. -/
theorem nodup_of_not_faulty {c : Compilation} (h : ¬ (c.examined Lint.defaults).Faulty) :
    (c.metadata.categories.map (·.name)).Nodup ∧ (c.metadata.functions.map (·.2.name)).Nodup := by
  have hnil : Lint.faults c.metadata = [] := by
    refine List.eq_nil_iff_forall_not_mem.2 fun d hd => h ⟨d, ?_, ?_⟩
    · refine List.mem_append_right _ ?_
      rw [Lint.findings_defaults]
      exact List.mem_append_left _ hd
    · exact of_decide_eq_true (Lint.isError_of_mem_faults d hd)
  rw [Lint.faults, List.append_eq_nil_iff, List.append_eq_nil_iff] at hnil
  obtain ⟨⟨hc, hf⟩, -⟩ := hnil
  exact ⟨Lint.repeatedCategories_eq_nil.1 hc, Lint.repeatedFunctions_eq_nil.1 hf⟩

/-- **Look-ups are exact after the standard phases.** Whatever compilation goes through them without a
failure has a registry in which the names of the metadata, and no others, lead to what is made from
their declarations. -/
theorem run_indexes {c after : Compilation} (hrun : c.run standard = (after, .ok ())) :
    ∃ r, after.theRegistry = .ok r ∧ Registry.Indexes c.project c.metadata r := by
  obtain ⟨hclean, r, hr, hmade⟩ := made_of_run hrun
  obtain ⟨hc, hf⟩ := nodup_of_not_faulty hclean
  exact ⟨r, hr, Registry.indexes_of_nodup hmade hc hf⟩

/-- Two categories, and a function in each: a constructor, which is described by what it makes, and a
procedure. -/
def shelves : Metadata where
  categories :=
    [⟨"a", "a", "", [],
      [⟨"bond", .constructor, some "Bond", none, none, none, some "a bond", none, none, false, true,
        [], [⟨"rate", .double, .scalar, none, ""⟩], none⟩]⟩,
     ⟨"b", "b", "", [],
      [⟨"today", .procedure, none, none, none, none, some "the date", none, none, false, false, [],
        [], some ⟨.long, .scalar, ""⟩⟩]⟩]
  enumerations := []

/-- Every name leads to its own entry, and the name of a category to no function. -/
theorem run_shelves : ∃ after, (fresh ⟨"P", "P", "p"⟩ shelves).run standard = (after, .ok ()) ∧
    ∃ r, after.theRegistry = .ok r ∧ Registry.Indexes ⟨"P", "P", "p"⟩ shelves r ∧
      (r.function? "bond").map (·.description) =
        some "Construct an object of class Bond and return its id" ∧
      (r.function? "today").map (·.description) = some "the date" ∧
      (r.category? "b").map (·.functions.map (·.name)) = some ["today"] ∧
      r.function? "b" = none := by
  have hrun : (fresh ⟨"P", "P", "p"⟩ shelves).run standard =
      (((fresh ⟨"P", "P", "p"⟩ shelves).run standard).1, .ok ()) :=
    Prod.ext rfl (eq_ok_of_toOption (by decide +kernel))
  obtain ⟨r, hr, hindexes⟩ := run_indexes hrun
  have hshown : (((fresh ⟨"P", "P", "p"⟩ shelves).run standard).1.theRegistry.map fun r =>
      ((r.function? "bond").map (·.description), (r.function? "today").map (·.description),
        (r.category? "b").map (·.functions.map (·.name)), r.function? "b")).toOption =
      some (some "Construct an object of class Bond and return its id", some "the date",
        some ["today"], none) := by decide +kernel
  rw [hr] at hshown
  simp only [Except.map, Except.toOption, Option.some.injEq, Prod.mk.injEq] at hshown
  exact ⟨_, hrun, r, hr, hindexes, hshown⟩

end Compilation
end Bindery
