import Bindery.LoadError
import Bindery.Proofs.Results

/-! Readings that make checks in order.

A check is the error that it ends with, if it fails. `Checked checks P x` says that the reading `x`
makes the checks one after the other: the first that fails is its error, and where none fails it
gives a value with `P`. Readings are put together with `Checked.bind` and `Checked.mapM`, so that
the checks of a nested reading are one flat list. -/
namespace Bindery

/-- The error of a check that fails. -/
abbrev Check := Option LoadError

namespace Check

/-- A check that fails where a condition does not hold. -/
def requires (condition : Prop) [Decidable condition] (error : LoadError) : Check :=
  if condition then none else some error

/-- The error of the first check that fails. -/
def first (checks : List Check) : Option LoadError := checks.findSome? id

@[simp] theorem requires_eq_none {condition : Prop} [Decidable condition] {error : LoadError} :
    requires condition error = none ↔ condition := by
  unfold requires
  split <;> simp_all

@[simp] theorem first_nil : first [] = none := rfl

theorem first_append (a b : List Check) : first (a ++ b) = (first a).or (first b) :=
  List.findSome?_append

theorem first_eq_none {checks : List Check} : first checks = none ↔ ∀ c ∈ checks, c = none := by
  simp [first, List.findSome?_eq_none_iff]

@[simp] theorem first_cons_eq_none {c : Check} {rest : List Check} :
    first (c :: rest) = none ↔ c = none ∧ first rest = none := by
  simp [first_eq_none]

@[simp] theorem first_append_eq_none {a b : List Check} :
    first (a ++ b) = none ↔ first a = none ∧ first b = none := by
  rw [first_append, Option.or_eq_none_iff]

@[simp] theorem first_flatMap_eq_none {α : Type} {f : α → List Check} {xs : List α} :
    first (xs.flatMap f) = none ↔ ∀ x ∈ xs, first (f x) = none := by
  simp only [first_eq_none, List.forall_mem_flatMap]

@[simp] theorem first_map_eq_none {α : Type} {f : α → Check} {xs : List α} :
    first (xs.map f) = none ↔ ∀ x ∈ xs, f x = none := by
  simp only [first_eq_none, List.forall_mem_map]

end Check

/-- A reading that makes checks in order. -/
structure Checked {α : Type} (checks : List Check) (P : α → Prop) (x : Except LoadError α) :
    Prop where
  fails : ∀ e, Check.first checks = some e → x = .error e
  succeeds : Check.first checks = none → ∃ a, x = .ok a ∧ P a

namespace Checked
variable {α β : Type} {checks more : List Check} {P : α → Prop} {Q : β → Prop}
  {x : Except LoadError α}

/-! ### What a reading gives -/

theorem ok_iff (h : Checked checks P x) : (∃ a, x = .ok a) ↔ Check.first checks = none := by
  cases hc : Check.first checks with
  | none =>
    obtain ⟨a, ha, -⟩ := h.succeeds hc
    exact ⟨fun _ => rfl, fun _ => ⟨a, ha⟩⟩
  | some e =>
    rw [h.fails e hc]
    simp

theorem error_iff (h : Checked checks P x) (e : LoadError) :
    x = .error e ↔ Check.first checks = some e := by
  refine ⟨fun he => ?_, h.fails e⟩
  cases hc : Check.first checks with
  | none =>
    obtain ⟨a, ha, -⟩ := h.succeeds hc
    rw [ha] at he
    cases he
  | some e' =>
    rw [h.fails e' hc] at he
    cases he
    rfl

theorem of_ok (h : Checked checks P x) {a : α} (ha : x = .ok a) : P a := by
  obtain ⟨b, hb, hP⟩ := h.succeeds (h.ok_iff.1 ⟨a, ha⟩)
  rw [ha] at hb
  cases hb
  exact hP

/-! ### Putting readings together -/

theorem ok {a : α} (h : P a) : Checked [] P (.ok a) :=
  ⟨nofun, fun _ => ⟨a, rfl, h⟩⟩

/-- One check that gives nothing. -/
theorem unit {c : Check} {x : Except LoadError Unit}
    (h : x = match c with | some e => .error e | none => .ok ()) :
    Checked [c] (fun _ => True) x := by
  subst h
  cases c with
  | none => exact ⟨nofun, fun _ => ⟨(), rfl, trivial⟩⟩
  | some e =>
    refine ⟨fun e' he => ?_, nofun⟩
    cases he
    rfl

theorem mono {P' : α → Prop} (h : Checked checks P x) (hP : ∀ a, P a → P' a) :
    Checked checks P' x := by
  refine ⟨h.fails, fun hc => ?_⟩
  obtain ⟨a, ha, hPa⟩ := h.succeeds hc
  exact ⟨a, ha, hP a hPa⟩

/-- The checks of what follows come after those of what goes before. -/
theorem bind {f : α → Except LoadError β} (hx : Checked checks P x)
    (hf : ∀ a, P a → Checked more Q (f a)) : Checked (checks ++ more) Q (x >>= f) := by
  constructor
  · intro e he
    rw [Check.first_append] at he
    cases hc : Check.first checks with
    | some e' =>
      rw [hc] at he
      cases he
      rw [hx.fails e hc]
      rfl
    | none =>
      obtain ⟨a, ha, hPa⟩ := hx.succeeds hc
      rw [hc, Option.none_or] at he
      rw [ha]
      exact (hf a hPa).fails e he
  · intro hn
    rw [Check.first_append_eq_none] at hn
    obtain ⟨a, ha, hPa⟩ := hx.succeeds hn.1
    rw [ha]
    exact (hf a hPa).succeeds hn.2

/-- What is done with a value makes no more checks. -/
theorem finish {f : α → Except LoadError β} (hx : Checked checks P x)
    (hf : ∀ a, P a → ∃ b, f a = .ok b ∧ Q b) : Checked checks Q (x >>= f) := by
  rw [← List.append_nil checks]
  refine bind hx fun a ha => ?_
  obtain ⟨b, hb, hQ⟩ := hf a ha
  rw [hb]
  exact ok hQ

/-- The members of a list are read one after the other. -/
theorem mapM {R : α → β → Prop} {f : α → Except LoadError β} {cs : α → List Check} {ws : List α}
    (h : ∀ w ∈ ws, Checked (cs w) (R w) (f w)) :
    Checked (ws.flatMap cs) (List.Forall₂ R ws) (ws.mapM f) := by
  induction ws with
  | nil => exact ok .nil
  | cons w rest ih =>
    rw [List.mapM_cons, List.flatMap_cons]
    refine bind (h w List.mem_cons_self) fun b hb => ?_
    refine finish (ih fun w' hw' => h w' (List.mem_cons_of_mem _ hw')) fun bs hbs => ?_
    exact ⟨b :: bs, rfl, .cons hb hbs⟩

/-- What may be left out is read where it is there. -/
theorem optionMapM {R : α → β → Prop} {f : α → Except LoadError β} {cs : α → List Check}
    (h : ∀ w, Checked (cs w) (R w) (f w)) (w : Option α) :
    Checked (w.toList.flatMap cs) (Option.Rel R w) (w.mapM f) := by
  cases w with
  | none => exact ok .none
  | some w =>
    rw [Option.toList_some, List.flatMap_singleton]
    exact finish (h w) fun b hb => ⟨some b, rfl, .some hb⟩

end Checked
end Bindery
