import Bindery.Proofs.Results
import Bindery.Template
import Mathlib.Data.List.Induction

/-! What rendering gives.

A template whose placeholders all have values is rendered piece by piece (`render_eq`). Nothing but
a placeholder without a value can go wrong: names that are bound are enough (`exists_render`). -/
namespace Bindery

/-- A piece with its placeholder filled. -/
def Segment.filled (value : String → String) : Segment → String
  | .text s => s
  | .placeholder p => value p

theorem Bindings.value?_concat (bindings : Bindings) (b : String × String) (name : String) :
    Bindings.value? (bindings ++ [b]) name =
      if b.1 = name then some b.2 else bindings.value? name := by
  simp [Bindings.value?]

/-- A name has a value exactly when it is bound. -/
theorem Bindings.isSome_value? (bindings : Bindings) (name : String) :
    (bindings.value? name).isSome ↔ name ∈ bindings.map Prod.fst := by
  induction bindings using List.reverseRecOn with
  | nil => simp [Bindings.value?]
  | append_singleton rest b ih =>
    rw [Bindings.value?_concat, List.map_append, List.mem_append, ← ih]
    by_cases hb : b.1 = name
    · simp [hb]
    · simp [hb, Ne.symm hb]

/-- The last setting of a name is to a value. -/
def Bindings.Sets (bindings : Bindings) (name value : String) : Prop :=
  ∃ before after, bindings = before ++ (name, value) :: after ∧ name ∉ after.map Prod.fst

theorem Bindings.value?_append (xs ys : Bindings) (name : String) :
    Bindings.value? (xs ++ ys) name = (ys.value? name).or (xs.value? name) := by
  induction ys using List.reverseRecOn with
  | nil => simp [Bindings.value?]
  | append_singleton ys b ih =>
    rw [← List.append_assoc, Bindings.value?_concat, Bindings.value?_concat, ih]
    split <;> rfl

/-- A name has the value that it is set to last. -/
theorem Bindings.value?_eq_some {bindings : Bindings} {name value : String} :
    bindings.value? name = some value ↔ bindings.Sets name value := by
  constructor
  · intro h
    induction bindings using List.reverseRecOn with
    | nil => cases h
    | append_singleton rest b ih =>
      rw [Bindings.value?_concat] at h
      split at h
      · next hb =>
        cases h
        exact ⟨rest, [], by rw [← hb], List.not_mem_nil⟩
      · next hb =>
        obtain ⟨before, after, rfl, hafter⟩ := ih h
        refine ⟨before, after ++ [b], by rw [List.append_assoc, List.cons_append], ?_⟩
        simpa [Ne.symm hb] using hafter
  · rintro ⟨before, after, rfl, hafter⟩
    have hnone : Bindings.value? after name = none := by
      rwa [← Option.not_isSome_iff_eq_none, Bindings.isSome_value?]
    rw [Bindings.value?_append, ← List.singleton_append, Bindings.value?_append, hnone]
    simp [Bindings.value?]

namespace Template
variable {t : Template} {bindings : Bindings}

theorem mem_placeholders {p : String} : p ∈ t.placeholders ↔ .placeholder p ∈ t.segments := by
  rw [placeholders, List.mem_filterMap]
  constructor
  · rintro ⟨s, hs, hp⟩
    cases s with
    | text => cases hp
    | placeholder q =>
      cases hp
      exact hs
  · exact fun hp => ⟨_, hp, rfl⟩

/-- Rendering fills the placeholders and leaves texts as they are. -/
theorem render_eq (value : String → String)
    (h : ∀ p ∈ t.placeholders, bindings.value? p = some (value p)) :
    t.render bindings = .ok (String.join (t.segments.map (Segment.filled value))) := by
  rw [render, map_eq_ok]
  refine ⟨_, mapM_eq_map fun s hs => ?_, rfl⟩
  cases s with
  | text => rfl
  | placeholder p => simp only [renderSegment, h p (mem_placeholders.2 hs), Segment.filled]

/-! ### Piece by piece -/

section Pieces
variable (name : String) (rest : List Segment)

theorem render_nil : Template.render ⟨name, []⟩ bindings = .ok "" := rfl

theorem render_text (s : String) :
    Template.render ⟨name, .text s :: rest⟩ bindings =
      (Template.render ⟨name, rest⟩ bindings).map (s ++ ·) := by
  rw [render, render, List.mapM_cons, renderSegment]
  cases rest.mapM (renderSegment name bindings) with
  | error fault => rfl
  | ok parts => exact congrArg Except.ok String.join_cons

theorem render_placeholder (p : String) :
    Template.render ⟨name, .placeholder p :: rest⟩ bindings =
      match bindings.value? p with
      | some value => (Template.render ⟨name, rest⟩ bindings).map (value ++ ·)
      | none => .error (.unknownPlaceholder name p) := by
  rw [render, render, List.mapM_cons, renderSegment]
  cases bindings.value? p with
  | none => rfl
  | some value =>
    cases rest.mapM (renderSegment name bindings) with
    | error fault => rfl
    | ok parts => exact congrArg Except.ok String.join_cons

end Pieces

/-! ### Whole templates -/

/-- What is rendered has its placeholders filled with the values that they are bound to. -/
theorem eq_of_render {s : String} (h : t.render bindings = .ok s) :
    s = String.join (t.segments.map (Segment.filled fun p => (bindings.value? p).getD "")) := by
  obtain ⟨parts, hparts, rfl⟩ := map_eq_ok.1 h
  refine congrArg String.join (eq_map_of_forall₂ ((mapM_eq_ok.1 hparts).imp fun piece part hpart => ?_))
  cases piece with
  | text s =>
    cases hpart
    rfl
  | placeholder p =>
    rw [renderSegment] at hpart
    cases hvalue : bindings.value? p with
    | none => simp [hvalue] at hpart
    | some value => simpa [hvalue, Segment.filled, eq_comm] using hpart

/-- A template whose placeholders are bound is rendered with what they are bound to. -/
theorem render_of_bound (h : t.placeholders ⊆ bindings.map Prod.fst) : t.render bindings =
    .ok (String.join (t.segments.map (Segment.filled fun p => (bindings.value? p).getD ""))) := by
  refine render_eq (fun p => (bindings.value? p).getD "") fun p hp => ?_
  obtain ⟨value, hvalue⟩ := Option.isSome_iff_exists.1 ((bindings.isSome_value? p).2 (h hp))
  rw [hvalue, Option.getD_some]

/-- Only what the placeholders are bound to matters. -/
theorem render_congr {bindings' : Bindings}
    (h : ∀ p ∈ t.placeholders, bindings.value? p = bindings'.value? p) :
    t.render bindings = t.render bindings' := by
  rw [render, render]
  refine congrArg _ (mapM_congr_left fun piece hpiece => ?_)
  cases piece with
  | text => rfl
  | placeholder p => rw [renderSegment, renderSegment, h p (mem_placeholders.2 hpiece)]

/-- A template is rendered when its placeholders are bound. -/
theorem exists_render (h : t.placeholders ⊆ bindings.map Prod.fst) :
    ∃ s, t.render bindings = .ok s := ⟨_, render_of_bound h⟩

/-- Rendering stops at the first placeholder that a search for one without a value finds. -/
theorem render_eq_error_iff_find? {fault : Fault} : t.render bindings = .error fault ↔
    ∃ word, t.placeholders.find? (fun p => (bindings.value? p).isNone) = some word ∧
      fault = .unknownPlaceholder t.name word := by
  obtain ⟨name, segments⟩ := t
  induction segments with
  | nil => exact iff_of_false nofun (by simp [placeholders])
  | cons piece rest ih =>
    cases piece with
    | text s =>
      rw [render_text, map_eq_error, ih]
      rfl
    | placeholder p =>
      have hplaceholders : placeholders ⟨name, .placeholder p :: rest⟩ =
          p :: placeholders ⟨name, rest⟩ := rfl
      rw [render_placeholder, hplaceholders, List.find?_cons]
      cases bindings.value? p with
      | none => simp [eq_comm]
      | some value =>
        rw [map_eq_error, ih]
        rfl

/-- What goes wrong is that the first placeholder without a value is not bound. -/
theorem render_eq_error {fault : Fault} : t.render bindings = .error fault ↔
    ∃ before word after, t.placeholders = before ++ word :: after ∧
      (∀ p ∈ before, p ∈ bindings.map Prod.fst) ∧ word ∉ bindings.map Prod.fst ∧
      fault = .unknownPlaceholder t.name word := by
  have hbound (p : String) : (!(bindings.value? p).isNone) = true ↔ p ∈ bindings.map Prod.fst := by
    rw [Option.not_isNone, bindings.isSome_value?]
  have hunbound (p : String) : (bindings.value? p).isNone = true ↔ p ∉ bindings.map Prod.fst := by
    rw [← hbound, Bool.not_eq_true', Bool.not_eq_false]
  simp only [render_eq_error_iff_find?, List.find?_eq_some_iff_append, hbound, hunbound]
  constructor
  · rintro ⟨word, ⟨hword, before, after, hsplit, hbefore⟩, hfault⟩
    exact ⟨before, word, after, hsplit, hbefore, hword, hfault⟩
  · rintro ⟨before, word, after, hsplit, hbefore, hword, hfault⟩
    exact ⟨word, ⟨hword, before, after, hsplit, hbefore⟩, hfault⟩

/-- A template is rendered exactly when its placeholders are bound. -/
theorem exists_render_iff :
    (∃ s, t.render bindings = .ok s) ↔ ∀ p ∈ t.placeholders, p ∈ bindings.map Prod.fst := by
  refine ⟨?_, exists_render⟩
  rintro ⟨s, hs⟩ p hp
  obtain ⟨parts, hparts, -⟩ := map_eq_ok.1 hs
  obtain ⟨part, hpart⟩ := exists_mapM_iff.1 ⟨parts, hparts⟩ _ (mem_placeholders.1 hp)
  rw [← bindings.isSome_value?]
  rw [renderSegment] at hpart
  split at hpart
  · next hvalue => rw [hvalue]; rfl
  · cases hpart

end Template
end Bindery
