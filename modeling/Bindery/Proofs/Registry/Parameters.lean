import Bindery.Proofs.Registry.Lowering
import Mathlib.Data.List.Nodup

/-! The parameters of the functions of a registry.

By its kind, a function has parameters before and after those that are declared (`Leading`,
`Trailing`). Their names are reserved, and loading keeps declared parameters clear of the reserved
names. So all names of a function's parameters differ, the declared parameters come back as they
were, and there is a trigger exactly where dependencies are tracked (`ofMetadata_completed`). -/
namespace Bindery.Registry

/-- What comes before the declared parameters: the id of what the function works on. -/
inductive Leading : Tag → List Parameter → Prop where
  | constructor (description : String) : Leading .constructor
      [{ name := "objectID", type := .string, rank := .scalar, default := none, description,
         implicit := true }]
  | member (description : String) : Leading .member
      [{ name := "objectID", type := .string, rank := .scalar, default := none, description,
         implicit := true }]
  | enumerationMember (description : String) : Leading .enumerationMember
      [{ name := "enumerationID", type := .string, rank := .scalar, default := none, description,
         implicit := true }]
  | procedure : Leading .procedure []

/-- What comes after the declared parameters: a trigger where dependencies are tracked, and then,
for constructors only, whether the object is permanent. -/
def Trailing (tag : Tag) (dependencyTrigger : Bool) (ps : List Parameter) : Prop :=
  ∃ tracking permanence : String, ps =
    (if dependencyTrigger then
      [{ name := "trigger", type := .any, rank := .scalar, default := none,
         description := tracking, implicit := true }] else [])
    ++ if tag = .constructor then
      [{ name := "permanent", type := .bool, rank := .scalar, default := some "false",
         description := permanence, implicit := true }] else []

/-- A function of the registry with all parameters, by its declaration. -/
structure Function.Completed (f : Metadata.Function) (g : Function) : Prop where
  name : g.name = f.name
  tag : g.tag = f.tag
  dependencyTrigger : g.dependencyTrigger = f.dependencyTrigger
  parameters : ∃ before after, Leading f.tag before ∧ Trailing f.tag f.dependencyTrigger after ∧
    g.parameters = before ++ f.parameters.map (fun p => { p with implicit := false }) ++ after
  declared : g.declaredParameters = f.parameters.map fun p => { p with implicit := false }
  distinct : (g.parameters.map (·.name)).Nodup
  trigger : (∃ p ∈ g.parameters, p.name = "trigger") ↔ g.dependencyTrigger = true

/-- A category of the registry with the functions of its declaration. -/
structure Category.Completed (c : Metadata.Category) (d : Category) : Prop where
  name : d.name = c.name
  functions : List.Forall₂ Function.Completed c.functions d.functions

/-! ### Parameters that are added -/

theorem Kind.leading_subject (kind : Kind) : Leading kind.tag kind.subject := by
  cases kind with
  | constructor called => exact .constructor _
  | member called owner => exact .member _
  | enumerationMember called owner => exact .enumerationMember _
  | procedure loop => exact .procedure

theorem Kind.trailing_trailing (kind : Kind) (dependencyTrigger : Bool) :
    Trailing kind.tag dependencyTrigger (kind.trailing dependencyTrigger) := ⟨_, _, rfl⟩

section Added
variable {tag : Tag} {dependencyTrigger : Bool} {ps : List Parameter}

theorem Leading.implicit (h : Leading tag ps) : ∀ p ∈ ps, p.implicit = true := by
  cases h <;> simp

theorem Leading.name_ne (h : Leading tag ps) :
    ∀ p ∈ ps, ∀ name ∈ ["trigger", "permanent"], p.name ≠ name := by
  cases h <;> simp

theorem Leading.name_reserved (h : Leading tag ps) : ∀ p ∈ ps, p.name ∈ Naming.reserved := by
  cases h <;> simp [Naming.reserved]

theorem Leading.rank (h : Leading tag ps) : ∀ p ∈ ps, p.rank = .scalar := by
  cases h <;> simp

theorem Leading.nodup (h : Leading tag ps) : (ps.map (·.name)).Nodup := by
  cases h <;> simp

theorem Trailing.implicit (h : Trailing tag dependencyTrigger ps) :
    ∀ p ∈ ps, p.implicit = true := by
  obtain ⟨_, _, rfl⟩ := h
  cases dependencyTrigger <;> by_cases ht : tag = .constructor <;> simp [ht]

theorem Trailing.name_mem (h : Trailing tag dependencyTrigger ps) :
    ∀ p ∈ ps, p.name ∈ ["trigger", "permanent"] := by
  obtain ⟨_, _, rfl⟩ := h
  cases dependencyTrigger <;> by_cases ht : tag = .constructor <;> simp [ht]

theorem Trailing.name_reserved (h : Trailing tag dependencyTrigger ps) :
    ∀ p ∈ ps, p.name ∈ Naming.reserved := fun p hp => by
  have hsub : ["trigger", "permanent"] ⊆ Naming.reserved := by decide
  exact hsub (h.name_mem p hp)

theorem Trailing.rank (h : Trailing tag dependencyTrigger ps) : ∀ p ∈ ps, p.rank = .scalar := by
  obtain ⟨_, _, rfl⟩ := h
  cases dependencyTrigger <;> by_cases ht : tag = .constructor <;> simp [ht]

theorem Trailing.nodup (h : Trailing tag dependencyTrigger ps) : (ps.map (·.name)).Nodup := by
  obtain ⟨_, _, rfl⟩ := h
  cases dependencyTrigger <;> by_cases ht : tag = .constructor <;> simp [ht]

theorem Trailing.exists_trigger_iff (h : Trailing tag dependencyTrigger ps) :
    (∃ p ∈ ps, p.name = "trigger") ↔ dependencyTrigger = true := by
  obtain ⟨_, _, rfl⟩ := h
  cases dependencyTrigger <;> by_cases ht : tag = .constructor <;> simp [ht]

end Added

/-! ### All parameters -/

section All
variable {tag : Tag} {dependencyTrigger : Bool} {before declared after : List Parameter}
  (hbefore : Leading tag before) (hafter : Trailing tag dependencyTrigger after)
include hbefore hafter

/-- Only the declared parameters are not implicit. -/
theorem filter_not_implicit (hdeclared : ∀ p ∈ declared, p.implicit = false) :
    (before ++ declared ++ after).filter (!·.implicit) = declared := by
  have hb : before.filter (!·.implicit) = [] :=
    List.filter_eq_nil_iff.2 fun p hp => by simp [hbefore.implicit p hp]
  have ha : after.filter (!·.implicit) = [] :=
    List.filter_eq_nil_iff.2 fun p hp => by simp [hafter.implicit p hp]
  have hd : declared.filter (!·.implicit) = declared :=
    List.filter_eq_self.2 fun p hp => by simp [hdeclared p hp]
  rw [List.filter_append, List.filter_append, hb, ha, hd, List.nil_append, List.append_nil]

/-- Names differ where the declared ones do and keep clear of those that are reserved. -/
theorem nodup_names (hfree : ∀ p ∈ declared, p.name ∉ Naming.reserved)
    (hdistinct : (declared.map (·.name)).Nodup) :
    ((before ++ declared ++ after).map (·.name)).Nodup := by
  have hbd : ∀ p ∈ before, ∀ q ∈ declared, p.name ≠ q.name := fun p hp q hq heq =>
    hfree q hq (heq ▸ hbefore.name_reserved p hp)
  have hda : ∀ p ∈ declared, ∀ q ∈ after, p.name ≠ q.name := fun p hp q hq heq =>
    hfree p hp (heq ▸ hafter.name_reserved q hq)
  have hba : ∀ p ∈ before, ∀ q ∈ after, p.name ≠ q.name := fun p hp q hq =>
    hbefore.name_ne p hp q.name (hafter.name_mem q hq)
  rw [List.Nodup, List.pairwise_map, List.pairwise_append, List.pairwise_append]
  refine ⟨⟨List.pairwise_map.1 hbefore.nodup, List.pairwise_map.1 hdistinct, hbd⟩,
    List.pairwise_map.1 hafter.nodup, ?_⟩
  rintro p hp
  rcases List.mem_append.1 hp with hp | hp
  · exact hba p hp
  · exact hda p hp

theorem exists_trigger_iff (hfree : ∀ p ∈ declared, p.name ∉ Naming.reserved) :
    (∃ p ∈ before ++ declared ++ after, p.name = "trigger") ↔ dependencyTrigger = true := by
  rw [← hafter.exists_trigger_iff]
  constructor
  · rintro ⟨p, hp, hname⟩
    rcases List.mem_append.1 hp with hp | hp
    · rcases List.mem_append.1 hp with hp | hp
      · exact absurd hname (hbefore.name_ne p hp "trigger" List.mem_cons_self)
      · exact absurd (hname ▸ by decide) (hfree p hp)
    · exact ⟨p, hp, hname⟩
  · rintro ⟨p, hp, hname⟩
    exact ⟨p, List.mem_append_right _ hp, hname⟩

end All

/-! ### Functions -/

/-- A function of the registry is completed by the parameters of its kind. -/
theorem Function.completed_of_sound {project : ProjectNames} {f : Metadata.Function} {g : Function}
    (hf : f.Sound) (h : Function.ofMetadata project f = .ok g) : Function.Completed f g := by
  obtain ⟨kind, hkind, htag⟩ := Kind.exists_ofFunction hf
  obtain ⟨kind', value, hkind', -, rfl⟩ := Function.ofMetadata_eq_ok.1 h
  obtain rfl : kind = kind' := Except.ok.inj (hkind.symm.trans hkind')
  have hbefore : Leading f.tag kind.subject := htag ▸ kind.leading_subject
  have hafter : Trailing f.tag f.dependencyTrigger (kind.trailing f.dependencyTrigger) :=
    htag ▸ kind.trailing_trailing f.dependencyTrigger
  have hfree : ∀ p ∈ f.parameters.map Parameter.declared, p.name ∉ Naming.reserved :=
    List.forall_mem_map.2 fun p hp => (hf.parameters p hp).free
  refine ⟨rfl, htag, rfl, ⟨_, _, hbefore, hafter, rfl⟩, ?_, ?_, ?_⟩
  · exact filter_not_implicit hbefore hafter (List.forall_mem_map.2 fun _ _ => rfl)
  · refine nodup_names hbefore hafter hfree ?_
    rw [List.map_map]
    exact hf.distinct
  · exact exists_trigger_iff hbefore hafter hfree

section Completed
variable {f : Metadata.Function} {g : Function} (h : Function.Completed f g)
include h

/-- A parameter that is added is a single value with a reserved name. -/
theorem Function.Completed.added : ∀ p ∈ g.parameters, p.implicit = true →
    p.name ∈ Naming.reserved ∧ p.rank = .scalar := by
  obtain ⟨before, after, hbefore, hafter, hall⟩ := h.parameters
  intro p hp himplicit
  rw [hall] at hp
  rcases List.mem_append.1 hp with hp | hp
  · rcases List.mem_append.1 hp with hp | hp
    · exact ⟨hbefore.name_reserved p hp, hbefore.rank p hp⟩
    · obtain ⟨_, -, rfl⟩ := List.mem_map.1 hp
      cases himplicit
  · exact ⟨hafter.name_reserved p hp, hafter.rank p hp⟩

/-- Whatever a declared parameter is, it is declared in the metadata. -/
theorem Function.Completed.exists_declared {p : Parameter} (hp : p ∈ g.declaredParameters) :
    ∃ q ∈ f.parameters, p = { q with implicit := false } := by
  rw [h.declared] at hp
  obtain ⟨q, hq, rfl⟩ := List.mem_map.1 hp
  exact ⟨q, hq, rfl⟩

/-- All parameters have identifiers as names. -/
theorem Function.Completed.isIdentifier (hf : f.Sound) :
    ∀ p ∈ g.parameters, Text.isIdentifier p.name = true := by
  intro p hp
  cases himplicit : p.implicit with
  | true =>
    have hreserved : ∀ name ∈ Naming.reserved, Text.isIdentifier name = true := by decide +kernel
    exact hreserved _ (h.added p hp himplicit).1
  | false =>
    obtain ⟨q, hq, rfl⟩ := h.exists_declared (List.mem_filter.2 ⟨hp, by rw [himplicit]; rfl⟩)
    exact (hf.parameters q hq).name.identifier

end Completed

theorem Category.completed_of_sound {project : ProjectNames} {c : Metadata.Category} {d : Category}
    (hc : c.Sound) (h : Category.ofMetadata project c = .ok d) : Category.Completed c d := by
  obtain ⟨fs, hfs, rfl⟩ := Category.ofMetadata_eq_ok.1 h
  refine ⟨rfl, ?_⟩
  have hboth := (List.forall₂_and_left _ _).2 ⟨hc.functions, hfs⟩
  exact hboth.imp fun _ _ ⟨hf, hg⟩ => Function.completed_of_sound hf hg

/-- **The parameters of a registry from loaded metadata.** There is a registry, with the categories
and the functions of the metadata in their order, and each function is completed. -/
theorem ofMetadata_completed (project : ProjectNames) (m : Metadata)
    (hm : ∀ c ∈ m.categories, ∃ source filename, Metadata.Category.parse source filename = .ok c) :
    ∃ r, Registry.ofMetadata project m = .ok r ∧
      List.Forall₂ Category.Completed m.categories r.categories := by
  have hs := Metadata.sound_of_parsed hm
  obtain ⟨r, hr⟩ := exists_ofMetadata project hs
  obtain ⟨cs, hcs, rfl⟩ := ofMetadata_eq_ok.1 hr
  refine ⟨_, hr, ?_⟩
  have hboth := (List.forall₂_and_left _ _).2 ⟨hs, hcs⟩
  exact hboth.imp fun _ _ ⟨hc, hd⟩ => Category.completed_of_sound hc hd

/-- A constructor that tracks no dependencies, with a parameter. -/
def bondSource : String :=
  "<C name='a'><Functions><Constructor name='bond' dependencyTrigger='0'>"
    ++ "<libraryFunction>Bond</libraryFunction><Parameters><Parameter name='rate'>"
    ++ "<type>any</type></Parameter></Parameters></Constructor></Functions></C>"

/-- The category of `bondSource`. -/
def bonds : Metadata where
  categories :=
    [⟨"a", "a", "", [],
      [⟨"bond", .constructor, some "Bond", none, none, none, none, none, none, false, false, [],
        [⟨"rate", .any, .scalar, none, ""⟩], none⟩]⟩]
  enumerations := []

/-- The object's id comes first and its permanence last, and there is no trigger. -/
theorem ofMetadata_bonds :
    (∀ c ∈ bonds.categories, Metadata.Category.parse bondSource "a.xml" = .ok c) ∧
      ∃ r, Registry.ofMetadata ⟨"P", "P", "p"⟩ bonds = .ok r ∧
        List.Forall₂ Category.Completed bonds.categories r.categories ∧
        r.categories.map (·.functions.map (·.parameters.map (·.name))) =
          [[["objectID", "rate", "permanent"]]] := by
  have hparse : ∀ c ∈ bonds.categories, Metadata.Category.parse bondSource "a.xml" = .ok c :=
    Metadata.parse_of_chars
      (Metadata.append_chars (Metadata.append_chars rfl rfl) rfl)
      (by decide +kernel)
  obtain ⟨r, hr, hcompleted⟩ := ofMetadata_completed ⟨"P", "P", "p"⟩ bonds
    fun c hc => ⟨_, _, hparse c hc⟩
  refine ⟨hparse, r, hr, hcompleted, ?_⟩
  have hnames : (Registry.ofMetadata ⟨"P", "P", "p"⟩ bonds).map
      (·.categories.map (·.functions.map (·.parameters.map (·.name)))) =
      .ok [[["objectID", "rate", "permanent"]]] := rfl
  rw [hr] at hnames
  exact Except.ok.inj hnames

end Bindery.Registry
