import Bindery.Metadata.Read
import Bindery.Proofs.Loading.Category
import Bindery.Proofs.Results

/-! What loaded metadata guarantees.

A category that comes out of a source has passed all checks. The checks were made on the written
texts; here their outcome is said of the category itself, which is all that later stages see. -/
namespace Bindery.Metadata

/-- A declared parameter as every loaded function has it. -/
structure Parameter.Sound (p : Parameter) : Prop where
  name : Usable p.name
  free : p.name ∉ Naming.reserved
  property : p.type = .property → p.rank = .vector

/-- A function with the parts that its kind calls for. -/
structure Function.Sound (f : Function) : Prop where
  name : Usable f.name
  libraryFunction : f.tag ≠ .procedure → f.libraryFunction.isSome = true
  className : f.tag = .member ∨ f.tag = .enumerationMember → f.className.isSome = true
  parameters : ∀ p ∈ f.parameters, p.Sound
  distinct : (f.parameters.map (·.name)).Nodup
  property : ∀ v ∈ f.returnValue, v.type = .property → v.rank = .vector
  returns : f.tag ≠ .constructor → f.returnValue.isSome = true

structure Category.Sound (c : Category) : Prop where
  name : Usable c.name
  functions : ∀ f ∈ c.functions, f.Sound

/-- Properties that are in a vector as written are in one as read. -/
theorem WellShaped.vector {type : String} {rank : Option String} {t : DataType} {r : TensorRank}
    (h : WellShaped type rank) (ht : Text.trim type = t.name) (hr : rankWord rank = r.name) :
    t = .property → r = .vector := by
  have hm : misplacedProperty t r = false := by
    rw [← Bool.not_eq_true, misplacedProperty_iff ht hr]
    exact not_not.2 h.property
  rintro rfl
  simpa [misplacedProperty] using hm

theorem Parameter.Reads.sound {w : Written.Parameter} {p : Parameter} (h : Parameter.Reads w p)
    (hw : w.WellFormed) : p.Sound where
  name := h.name ▸ hw.name
  free := h.name ▸ hw.free
  property := hw.shape.vector h.type h.rank

/-- Parameters are read under the names that they are written with. -/
theorem names_of_reads {ws : List Written.Parameter} {ps : List Parameter}
    (h : List.Forall₂ Parameter.Reads ws ps) :
    ps.map (·.name) = ws.map fun w => Text.trim w.name :=
  map_eq_of_forall₂ (h.imp fun _ _ hp => hp.name)

theorem exists_written_value {α β : Type} {R : α → β → Prop} {w : Option α} {a : β}
    (h : Option.Rel R w (some a)) : ∃ v ∈ w, R v a := by
  cases h with
  | some hR => exact ⟨_, rfl, hR⟩

theorem isSome_of_reads {α β : Type} {R : α → β → Prop} {w : Option α} {v : Option β}
    (h : Option.Rel R w v) : v.isSome = w.isSome := by
  cases h <;> rfl

theorem Function.Reads.sound {tag : Tag} {w : Written.Function} {f : Function}
    (h : Function.Reads tag w f) (hw : w.WellFormed tag) : f.Sound where
  name := h.name ▸ hw.name
  libraryFunction ht := by
    rw [h.libraryFunction, ← filled_iff]
    exact hw.libraryFunction (h.tag ▸ ht)
  className ht := by
    rw [h.className, ← filled_iff]
    exact hw.className (h.tag ▸ ht)
  parameters p hp := by
    obtain ⟨v, hv, hR⟩ := exists_of_mem_right h.parameters hp
    exact hR.sound (hw.parameters v hv)
  distinct := names_of_reads h.parameters ▸ hw.distinct
  property v hv := by
    have hR := h.returnValue
    rw [Option.mem_def.1 hv] at hR
    obtain ⟨w', hw', hR⟩ := exists_written_value hR
    exact (hw.returnValue w' hw').vector hR.type hR.rank
  returns ht := by
    rw [isSome_of_reads h.returnValue]
    exact hw.returns (h.tag ▸ ht)

theorem Category.Reads.sound {w : Written.Category} {c : Category} (h : Category.Reads w c)
    (hw : w.WellFormed) : c.Sound where
  name := h.name ▸ hw.name
  functions f hf := by
    obtain ⟨v, hv, hR⟩ := exists_of_mem_right h.functions hf
    exact hR.sound (hw.functions v hv)

/-- A category that is loaded is sound. -/
theorem Category.sound_of_parse {source filename : String} {c : Category}
    (h : Category.parse source filename = .ok c) : c.Sound := by
  unfold Category.parse at h
  cases hr : readWritten source Form.category Written.Category.ofElement with
  | error e =>
    rw [hr] at h
    cases h
  | ok w =>
    rw [hr] at h
    dsimp only [bind, Except.bind] at h
    have hw := Category.checked (.ofSource filename source) w
    exact (hw.of_ok h).sound (Written.Category.first_checks.1 (hw.ok_iff.1 ⟨c, h⟩))

/-! ### Sources by their characters -/

/-- The category in the characters of a source. -/
def Category.ofChars? (cs : List Char) (filename : String) : Option Category := do
  let root ← Xml.readInside [] (Xml.withoutMark cs)
  let written ← Written.Category.ofElement (← Form.category.read? root)
  (Category.ofWritten { filename, rest := cs } written).toOption

/-- The characters of a text in two parts. -/
theorem append_chars {s t : String} {cs ds : List Char} (hs : s = String.ofList cs)
    (ht : t = String.ofList ds) : s ++ t = String.ofList (cs ++ ds) := by
  rw [hs, ht, String.ofList_append]

/-- A source is read by its characters, without decoding it. -/
theorem readWritten_chars {α : Type} {source : String} {cs : List Char} {form : Xml.Form}
    {read : Xml.Element → Option α} {a : α} (hsource : source = String.ofList cs)
    (h : ((Xml.readInside [] (Xml.withoutMark cs)).bind form.read?).bind read = some a) :
    readWritten source form read = .ok a := by
  rw [readWritten, Xml.root?, hsource, String.toList_ofList, h]

theorem Category.parse_chars {source filename : String} {cs : List Char} {c : Category}
    (hsource : source = String.ofList cs) (h : ofChars? cs filename = some c) :
    parse source filename = .ok c := by
  obtain ⟨root, hroot, h⟩ := Option.bind_eq_some_iff.1 h
  obtain ⟨checked, hchecked, h⟩ := Option.bind_eq_some_iff.1 h
  obtain ⟨written, hwritten, h⟩ := Option.bind_eq_some_iff.1 h
  have hread : readWritten source Form.category Written.Category.ofElement = .ok written :=
    readWritten_chars hsource
      (by rw [hroot, Option.bind_some, hchecked, Option.bind_some, hwritten])
  rw [parse, hread, hsource, Locator.ofSource, String.toList_ofList]
  exact eq_ok_of_toOption h

/-- All categories of a source are read by its characters. -/
theorem parse_of_chars {categories : List Category} {source filename : String} {cs : List Char}
    (hsource : source = String.ofList cs)
    (h : ∀ c ∈ categories, Category.ofChars? cs filename = some c) :
    ∀ c ∈ categories, Category.parse source filename = .ok c :=
  fun c hc => Category.parse_chars hsource (h c hc)

end Bindery.Metadata

namespace Bindery

/-- All categories that were loaded are sound. -/
theorem Metadata.sound_of_parsed {m : Metadata}
    (hm : ∀ c ∈ m.categories, ∃ source filename, Category.parse source filename = .ok c) :
    ∀ c ∈ m.categories, c.Sound := by
  intro c hc
  obtain ⟨source, filename, hparse⟩ := hm c hc
  exact Category.sound_of_parse hparse

end Bindery
