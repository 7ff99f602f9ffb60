import Mathlib.Algebra.BigOperators.Group.List.Basic
import Mathlib.Algebra.Order.Group.Multiset
import Mathlib.Tactic.Abel
import Bindery.Output.Summary

/-! Summaries that are merged.

Whoever writes files in several runs keeps their summaries on a stack: a path is recorded on the top
one, a new one is pushed for a run inside another, and the top one is merged into the one below. Read
from the bottom to the top, the paths with an outcome are at all times those recorded with it, in the
order of recording (`after_written`). So nothing is lost or counted twice, and one summary with all of
them is left once everything is merged (`merges_keep`). -/
namespace Bindery.Summary

/-- The paths with an outcome. -/
def paths (s : Summary) : Outcome → List String
  | .created => s.created
  | .updated => s.updated
  | .unchanged => s.unchanged

/-- The paths with their outcomes. -/
def entries (s : Summary) : Multiset (String × Outcome) :=
  ↑(s.created.map (·, Outcome.created)) + ↑(s.updated.map (·, Outcome.updated)) +
    ↑(s.unchanged.map (·, Outcome.unchanged))

/-- The paths among some records that have an outcome. -/
def listed (records : List (String × Outcome)) (o : Outcome) : List String :=
  (records.filter (·.2 = o)).map (·.1)

/-- Something that is done with summaries on a stack. -/
inductive Step where
  | record (path : String) (outcome : Outcome)
  | push
  | merge

/-- What a step records. -/
def Step.record? : Step → Option (String × Outcome)
  | record path outcome => some (path, outcome)
  | push | merge => none

/-- What steps record, in order. -/
def recorded (steps : List Step) : List (String × Outcome) := steps.filterMap Step.record?

/-- Summaries on a stack. There is always one at the top. -/
structure Stack where
  top : Summary := {}
  /-- The next one first. -/
  below : List Summary := []

namespace Stack

/-- The summaries from the bottom to the top. -/
def levels (s : Stack) : List Summary := s.below.reverse ++ [s.top]

/-- A stack after a step. The last summary is merged into none. -/
def act (s : Stack) : Step → Stack
  | .record path outcome => { s with top := s.top.record path outcome }
  | .push => ⟨{}, s.top :: s.below⟩
  | .merge =>
    match s.below with
    | [] => s
    | lower :: rest => ⟨lower.merge s.top, rest⟩

/-- A stack after steps. -/
def after (s : Stack) (steps : List Step) : Stack := steps.foldl act s

/-- A stack with all summaries merged into the lowest. -/
def merged (s : Stack) : Stack := s.after (List.replicate s.below.length .merge)

/-- The paths with an outcome, from the bottom to the top. -/
def written (s : Stack) (o : Outcome) : List String := s.levels.flatMap (·.paths o)

end Stack

/-! ### Single summaries -/

section Single
variable (s t : Summary) (path : String) (o o' : Outcome)

theorem paths_record :
    (s.record path o).paths o' = s.paths o' ++ if o = o' then [path] else [] := by
  cases o <;> cases o' <;> simp [record, paths]

/-- The paths of the lower summary come first. -/
theorem paths_merge : (s.merge t).paths o = s.paths o ++ t.paths o := by
  cases o <;> rfl

theorem total_eq : s.total = s.entries.card := by
  simp only [total, changed, entries, Multiset.card_add, Multiset.coe_card, List.length_map]

theorem listed_append (before after : List (String × Outcome)) :
    listed (before ++ after) o = listed before o ++ listed after o := by
  rw [listed, List.filter_append, List.map_append]
  rfl

theorem listed_singleton : listed [(path, o)] o' = if o = o' then [path] else [] := by
  by_cases h : o = o' <;> simp [listed, h]

end Single

/-- Every record has one outcome. -/
theorem sum_listed (records : List (String × Outcome)) :
    ((listed records .created).map (·, Outcome.created) : Multiset (String × Outcome)) +
      ↑((listed records .updated).map (·, Outcome.updated)) +
      ↑((listed records .unchanged).map (·, Outcome.unchanged)) = ↑records := by
  induction records with
  | nil => rfl
  | cons e rest ih =>
    obtain ⟨path, o⟩ := e
    rw [← Multiset.cons_coe, ← ih]
    cases o <;> simp [listed, ← Multiset.cons_coe]

/-! ### Stacks -/

namespace Stack
variable (s : Stack) (o : Outcome)

theorem act_written (step : Step) :
    (s.act step).written o = s.written o ++ listed step.record?.toList o := by
  cases step with
  | record path outcome =>
    rw [Step.record?, Option.toList_some, listed_singleton]
    simp only [act, written, levels, List.flatMap_append, List.flatMap_singleton, paths_record,
      List.append_assoc]
  | push =>
    have hempty : paths {} o = [] := by cases o <;> rfl
    simp [act, written, levels, Step.record?, listed, hempty]
  | merge =>
    obtain ⟨top, below⟩ := s
    cases below with
    | nil => simp [act, Step.record?, listed]
    | cons lower rest => simp [act, written, levels, Step.record?, listed, paths_merge]

/-- At all times the summaries have what was recorded, in order. -/
theorem after_written (steps : List Step) :
    (s.after steps).written o = s.written o ++ listed (recorded steps) o := by
  induction steps generalizing s with
  | nil => simp [after, recorded, listed]
  | cons step rest ih =>
    have hrecorded : recorded (step :: rest) = step.record?.toList ++ recorded rest := by
      rw [recorded, List.filterMap_cons]
      cases step.record? <;> rfl
    have hafter : s.after (step :: rest) = (s.act step).after rest := rfl
    rw [hafter, ih, act_written, hrecorded, listed_append, List.append_assoc]

/-- Each merge leaves one summary less. -/
theorem merged_below : s.merged.below = [] := by
  obtain ⟨top, below⟩ := s
  induction below generalizing top with
  | nil => rfl
  | cons lower rest ih => exact ih (lower.merge top)

/-- Merging records nothing. -/
theorem merged_written : s.merged.written o = s.written o := by
  have hnothing : recorded (List.replicate s.below.length .merge) = [] :=
    List.filterMap_eq_nil_iff.2 fun step hstep => by rw [List.eq_of_mem_replicate hstep]; rfl
  rw [merged, after_written, hnothing]
  exact List.append_nil _

/-- One summary with everything is left. -/
theorem merged_paths : s.merged.top.paths o = s.written o := by
  rw [← merged_written, written, levels, merged_below]
  simp

/-- The entries of all summaries, outcome by outcome. -/
theorem sum_entries : (s.levels.map entries).sum =
    ↑((s.written .created).map (·, Outcome.created)) +
      ↑((s.written .updated).map (·, Outcome.updated)) +
      ↑((s.written .unchanged).map (·, Outcome.unchanged)) := by
  rw [written, written, written]
  induction s.levels with
  | nil => rfl
  | cons t rest ih =>
    rw [List.map_cons, List.sum_cons, ih, entries]
    simp only [List.flatMap_cons, List.map_append, ← Multiset.coe_add, paths]
    abel

theorem sum_total : (s.levels.map total).sum = (s.levels.map entries).sum.card := by
  induction s.levels with
  | nil => rfl
  | cons t rest ih =>
    rw [List.map_cons, List.map_cons, List.sum_cons, List.sum_cons, Multiset.card_add, total_eq, ih]

end Stack

/-- **Merging loses nothing and counts nothing twice.** After any steps the summaries on the stack have
each recorded path under its outcome, as often as it was recorded, and their totals add up to the number
of records. Once all are merged, the one that is left has the paths of each outcome in the order of
recording, those of a lower summary before those of the ones above it. -/
theorem merges_keep (steps : List Step) :
    let s := ({} : Stack).after steps
    (s.levels.map entries).sum = ↑(recorded steps) ∧
      (s.levels.map total).sum = (recorded steps).length ∧
      (∀ t ∈ s.levels, t.changed + t.unchanged.length = t.total ∧ t.total = t.entries.card) ∧
      s.merged.below = [] ∧
      ∀ o, s.merged.top.paths o = s.levels.flatMap (·.paths o) ∧
        s.merged.top.paths o = ((recorded steps).filter (·.2 = o)).map (·.1) := by
  intro s
  have hwritten (o : Outcome) : s.written o = listed (recorded steps) o := by
    have hempty : Stack.written {} o = [] := by cases o <;> rfl
    rw [Stack.after_written, hempty, List.nil_append]
  have hsum : (s.levels.map entries).sum = ↑(recorded steps) := by
    rw [Stack.sum_entries, hwritten, hwritten, hwritten, sum_listed]
  refine ⟨hsum, ?_, fun t _ => ⟨rfl, t.total_eq⟩, s.merged_below, fun o => ⟨s.merged_paths o, ?_⟩⟩
  · rw [Stack.sum_total, hsum, Multiset.coe_card]
  · rw [Stack.merged_paths, hwritten]
    rfl

/-- What is recorded on the lower summary again comes last. -/
example : (({} : Stack).after [.record "a" .created, .push, .record "b" .created, .merge,
    .record "c" .created]).top.created = ["a", "b", "c"] := rfl

end Bindery.Summary
