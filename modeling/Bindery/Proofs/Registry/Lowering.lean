import Bindery.Registry.OfMetadata
import Bindery.Proofs.Loading.Loaded
import Bindery.Proofs.Results

/-! Loaded metadata has a registry.

Making the registry fails where a function lacks a part that its kind calls for. Loading has looked
for these parts, so that no failure is left (`exists_ofMetadata`). Names are kept
(`names_ofMetadata`). -/
namespace Bindery.Registry

theorem exists_required {α : Type} {part : Option α} (h : part.isSome = true) (m : Missing) :
    ∃ a, required part m = .ok a := by
  obtain ⟨a, rfl⟩ := Option.isSome_iff_exists.1 h
  exact ⟨a, rfl⟩

/-- A sound function has the parts of its kind. -/
theorem Kind.exists_ofFunction {f : Metadata.Function} (h : f.Sound) :
    ∃ kind, Kind.ofFunction f = .ok kind ∧ kind.tag = f.tag := by
  have hl := h.libraryFunction
  have hc := h.className
  unfold Kind.ofFunction
  cases ht : f.tag with
  | constructor =>
    obtain ⟨called, hcalled⟩ := exists_required (hl (by simp [ht])) (.libraryFunction f.name)
    rw [hcalled]
    exact ⟨_, rfl, rfl⟩
  | member =>
    obtain ⟨called, hcalled⟩ := exists_required (hl (by simp [ht])) (.libraryFunction f.name)
    obtain ⟨owner, howner⟩ := exists_required (hc (.inl ht)) (.className f.name)
    rw [hcalled, howner]
    exact ⟨_, rfl, rfl⟩
  | enumerationMember =>
    obtain ⟨called, hcalled⟩ := exists_required (hl (by simp [ht])) (.libraryFunction f.name)
    obtain ⟨owner, howner⟩ := exists_required (hc (.inr ht)) (.className f.name)
    rw [hcalled, howner]
    exact ⟨_, rfl, rfl⟩
  | procedure => exact ⟨_, rfl, rfl⟩

/-- A loop of the registry is declared. -/
theorem Kind.loopParameter_of_ofFunction {f : Metadata.Function} {kind : Kind}
    (h : Kind.ofFunction f = .ok kind) : ∀ n ∈ kind.loopParameter?, n ∈ f.loopParameter := by
  unfold Kind.ofFunction at h
  split at h
  · obtain ⟨called, -, hkind⟩ := bind_eq_ok.1 h
    cases hkind
    exact nofun
  · obtain ⟨called, -, h⟩ := bind_eq_ok.1 h
    obtain ⟨owner, -, hkind⟩ := bind_eq_ok.1 h
    cases hkind
    exact fun n hn => hn
  · obtain ⟨called, -, h⟩ := bind_eq_ok.1 h
    obtain ⟨owner, -, hkind⟩ := bind_eq_ok.1 h
    cases hkind
    exact fun n hn => hn
  · cases h
    exact fun n hn => hn

theorem exists_returned {f : Metadata.Function} (h : f.Sound) {kind : Kind}
    (hk : kind.tag = f.tag) : ∃ value, returned kind f = .ok value := by
  unfold returned
  split
  · exact ⟨_, rfl⟩
  · next ht => exact exists_required (h.returns (hk ▸ ht)) _

theorem Function.exists_ofMetadata (project : ProjectNames) {f : Metadata.Function}
    (h : f.Sound) : ∃ g, Function.ofMetadata project f = .ok g := by
  obtain ⟨kind, hkind, htag⟩ := Kind.exists_ofFunction h
  obtain ⟨value, hvalue⟩ := exists_returned h htag
  unfold Function.ofMetadata
  rw [hkind]
  dsimp only [bind, Except.bind]
  rw [hvalue]
  exact ⟨_, rfl⟩

theorem Category.exists_ofMetadata (project : ProjectNames) {c : Metadata.Category}
    (h : c.Sound) : ∃ d, Category.ofMetadata project c = .ok d := by
  obtain ⟨fs, hfs⟩ := exists_mapM fun f hf => Function.exists_ofMetadata project (h.functions f hf)
  unfold Category.ofMetadata
  rw [hfs]
  exact ⟨_, rfl⟩

theorem exists_ofMetadata (project : ProjectNames) {m : Metadata}
    (h : ∀ c ∈ m.categories, c.Sound) : ∃ r, Registry.ofMetadata project m = .ok r := by
  obtain ⟨cs, hcs⟩ := exists_mapM fun c hc => Category.exists_ofMetadata project (h c hc)
  unfold Registry.ofMetadata
  rw [hcs]
  exact ⟨_, rfl⟩

/-! ### What a registry is made of -/

/-- A function of the registry by its declaration. -/
theorem Function.ofMetadata_eq_ok {project : ProjectNames} {f : Metadata.Function} {g : Function} :
    Function.ofMetadata project f = .ok g ↔
      ∃ kind value, Kind.ofFunction f = .ok kind ∧ returned kind f = .ok value ∧
        g = {
          name := f.name
          kind, returnValue := value
          description := (descriptions kind f).1
          longDescription := (descriptions kind f).2
          qualifiedName := f.qualifiedName.getD (project.namespaceObjects ++ "::" ++ f.name)
          documentationOnly := f.documentationOnly
          dependencyTrigger := f.dependencyTrigger
          platforms := f.platforms
          parameters :=
            kind.subject ++ f.parameters.map .declared ++ kind.trailing f.dependencyTrigger } := by
  simp only [Function.ofMetadata, bind_eq_ok, pure, Except.pure, Except.ok.injEq,
    exists_and_left, @eq_comm _ g]

/-- A function loops over what its declaration says. -/
theorem Function.loopParameter_of_ofMetadata {project : ProjectNames} {f : Metadata.Function}
    {g : Function} (h : Function.ofMetadata project f = .ok g) :
    ∀ n ∈ g.kind.loopParameter?, n ∈ f.loopParameter := by
  obtain ⟨kind, value, hkind, -, rfl⟩ := Function.ofMetadata_eq_ok.1 h
  exact Kind.loopParameter_of_ofFunction hkind

/-- A category of the registry by its declaration. -/
theorem Category.ofMetadata_eq_ok {project : ProjectNames} {c : Metadata.Category} {d : Category} :
    Category.ofMetadata project c = .ok d ↔
      ∃ fs, List.Forall₂ (fun f g => Function.ofMetadata project f = .ok g) c.functions fs ∧
        d = ⟨c.name, c.displayName, c.description, c.serializationIncludes, fs⟩ := by
  simp only [Category.ofMetadata, bind_eq_ok, mapM_eq_ok, pure, Except.pure, Except.ok.injEq,
    @eq_comm _ d]

/-- A registry by the metadata. -/
theorem ofMetadata_eq_ok {project : ProjectNames} {m : Metadata} {r : Registry} :
    Registry.ofMetadata project m = .ok r ↔
      ∃ cs, List.Forall₂ (fun c d => Category.ofMetadata project c = .ok d) m.categories cs ∧
        r = ⟨project, cs, m.enumerations⟩ := by
  simp only [Registry.ofMetadata, bind_eq_ok, mapM_eq_ok, pure, Except.pure, Except.ok.injEq,
    @eq_comm _ r]

/-! ### Names -/

theorem Category.name_ofMetadata {project : ProjectNames} {c : Metadata.Category} {d : Category}
    (h : Category.ofMetadata project c = .ok d) : d.name = c.name := by
  obtain ⟨fs, -, rfl⟩ := Category.ofMetadata_eq_ok.1 h
  rfl

/-- The registry has the categories of the metadata, under their names. -/
theorem names_ofMetadata {project : ProjectNames} {m : Metadata} {r : Registry}
    (h : Registry.ofMetadata project m = .ok r) :
    r.categories.map (·.name) = m.categories.map (·.name) := by
  obtain ⟨cs, hcs, rfl⟩ := ofMetadata_eq_ok.1 h
  exact map_eq_of_mapM (fun _ _ => Category.name_ofMetadata) (mapM_eq_ok.2 hcs)

end Bindery.Registry
