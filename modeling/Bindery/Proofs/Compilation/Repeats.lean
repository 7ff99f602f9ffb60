import Bindery.Compilation
import Bindery.Proofs.Compilation.Lints

/-! Names that are declared again.

The lints for repeated names go through the metadata once and keep what they have seen. They report
each entry whose name stands before, once and in order, and the report on a function leads back to the
category of the very first function with its name, however often the name stands in between
(`repeats_reported`). What was found before stays as it is. -/
namespace Bindery.Lint

/-- The positions in a list of names at which a name stands that stands before. -/
def repeats (names : List String) : List Nat :=
  (List.range names.length).filter fun i => ∃ j < i, names[j]? = names[i]?

/-- The first entry of a list with a name. -/
def FirstNamed {α : Type} (name : α → String) (n : String) (xs : List α) (x : α) : Prop :=
  ∃ before after, xs = before ++ x :: after ∧ name x = n ∧ ∀ y ∈ before, name y ≠ n

/-- A finding about the category at a position, whose name stands before. -/
def ReportsCategory (cs : List Metadata.Category) (i : Nat) (d : Diagnostic) : Prop :=
  ∃ c, cs[i]? = some c ∧
    d = { severity := .error
          phase := "validate"
          message := "duplicate category '" ++ c.name ++ "'"
          location := some c.name }

/-- A finding about the function at a position, whose name stands before: it is placed in the
function's own category and names the category of the first function with the name. -/
def ReportsFunction (fs : List (Metadata.Category × Metadata.Function)) (i : Nat)
    (d : Diagnostic) : Prop :=
  ∃ c f first g, fs[i]? = some (c, f) ∧ FirstNamed (·.2.name) f.name fs (first, g) ∧
    d = { severity := .error
          phase := "validate"
          message := "duplicate function '" ++ f.name ++ "' (first declared in category '"
            ++ first.name ++ "')"
          location := some (c.name ++ "." ++ f.name) }

/-! ### Positions -/

/-- A name stands before a position. -/
theorem stands_before_iff {before after : List String} {n : String} :
    (∃ j < before.length, (before ++ n :: after)[j]? = (before ++ n :: after)[before.length]?) ↔
      n ∈ before := by
  have hlast : (before ++ n :: after)[before.length]? = some n := by simp
  rw [hlast, List.mem_iff_getElem?]
  constructor
  · rintro ⟨j, hj, h⟩
    exact ⟨j, by rwa [List.getElem?_append_left hj] at h⟩
  · rintro ⟨j, h⟩
    have hj := (List.getElem?_eq_some_iff.1 h).1
    exact ⟨j, hj, by rwa [List.getElem?_append_left hj]⟩

/-- A search through a list that reports an entry when its name stands before, and passes over it
otherwise, reports exactly the repeats. The induction is on what is still to come: what came before
is a beginning of the whole list. -/
theorem forall₂_repeats {α : Type} (name : α → String) (xs : List α)
    {found : List α → List α → List Diagnostic} {Reports : Nat → Diagnostic → Prop}
    (hnil : ∀ earlier, found earlier [] = [])
    (hnew : ∀ earlier a rest, name a ∉ earlier.map name →
      found earlier (a :: rest) = found (earlier ++ [a]) rest)
    (hseen : ∀ earlier a rest, xs = earlier ++ a :: rest → name a ∈ earlier.map name →
      ∃ d, Reports earlier.length d ∧ found earlier (a :: rest) = d :: found (earlier ++ [a]) rest) :
    List.Forall₂ Reports (repeats (xs.map name)) (found [] xs) := by
  have key : ∀ (rest earlier : List α), xs = earlier ++ rest →
      List.Forall₂ Reports ((List.range' earlier.length rest.length).filter
        fun i => ∃ j < i, (xs.map name)[j]? = (xs.map name)[i]?) (found earlier rest) := by
    intro rest
    induction rest with
    | nil =>
      intro earlier _
      rw [hnil]
      exact .nil
    | cons a rest ih =>
      intro earlier hxs
      have hmap : xs.map name = earlier.map name ++ name a :: rest.map name := by
        rw [hxs, List.map_append, List.map_cons]
      have hbefore : (∃ j < earlier.length, (xs.map name)[j]? = (xs.map name)[earlier.length]?) ↔
          name a ∈ earlier.map name := by
        rw [hmap, ← @stands_before_iff _ (rest.map name), List.length_map]
      have hrest := ih (earlier ++ [a]) (by rw [hxs, List.append_assoc, List.singleton_append])
      rw [List.length_append, List.length_singleton] at hrest
      rw [List.length_cons, List.range'_succ, List.filter_cons]
      by_cases hmem : name a ∈ earlier.map name
      · obtain ⟨d, hd, hfound⟩ := hseen earlier a rest hxs hmem
        rw [if_pos (decide_eq_true (hbefore.2 hmem)), hfound]
        exact .cons hd hrest
      · rw [if_neg (by rw [decide_eq_true_eq, hbefore]; exact hmem), hnew earlier a rest hmem]
        exact hrest
  have h := key xs [] rfl
  rw [List.length_nil, ← List.range_eq_range'] at h
  rwa [repeats, List.length_map]

/-- The third and the fourth name stand before, the fourth twice. -/
example : repeats ["f", "g", "f", "f"] = [2, 3] := by decide

/-! ### Reports -/

theorem repeatedCategories_reported (cs : List Metadata.Category) :
    List.Forall₂ (ReportsCategory cs) (repeats (cs.map (·.name))) (repeatedCategories [] cs) := by
  refine forall₂_repeats _ cs (fun _ => rfl) (fun earlier c rest hmem => ?_)
    (fun earlier c rest hcs hmem => ?_)
  · have hany : ¬ earlier.any (·.name = c.name) = true := by simpa using hmem
    rw [repeatedCategories, if_neg hany, List.nil_append]
  · have hany : earlier.any (·.name = c.name) = true := by simpa using hmem
    refine ⟨finding .error ("duplicate category '" ++ c.name ++ "'") c.name, ⟨c, ?_, rfl⟩, ?_⟩
    · rw [hcs]
      simp
    · rw [repeatedCategories, if_pos hany, List.singleton_append]

theorem repeatedFunctions_reported (fs : List (Metadata.Category × Metadata.Function)) :
    List.Forall₂ (ReportsFunction fs) (repeats (fs.map (·.2.name))) (repeatedFunctions [] fs) := by
  refine forall₂_repeats _ fs (fun _ => rfl) (fun earlier p rest hmem => ?_)
    (fun earlier p rest hfs hmem => ?_)
  · have hnone : earlier.find? (·.2.name = p.2.name) = none := by
      simpa [List.find?_eq_none] using hmem
    rw [repeatedFunctions, hnone]
    rfl
  · obtain ⟨c, f⟩ := p
    have hsome : (earlier.find? (·.2.name = f.name)).isSome = true := by
      simpa [List.find?_isSome] using hmem
    obtain ⟨⟨first, g⟩, hfirst⟩ := Option.isSome_iff_exists.1 hsome
    obtain ⟨hname, before, after, hsplit, hbefore⟩ := List.find?_eq_some_iff_append.1 hfirst
    refine ⟨finding .error ("duplicate function '" ++ f.name ++ "' (first declared in category '"
      ++ first.name ++ "')") (place c f), ⟨c, f, first, g, ?_, ?_, rfl⟩, ?_⟩
    · rw [hfs]
      simp
    · refine ⟨before, after ++ (c, f) :: rest, ?_, of_decide_eq_true hname, fun y hy => ?_⟩
      · rw [hfs, hsplit, List.append_assoc, List.cons_append]
      · simpa using hbefore y hy
    · rw [repeatedFunctions, hfirst]
      rfl

theorem repeatedCategories_eq_nil {cs : List Metadata.Category} :
    repeatedCategories [] cs = [] ↔ (cs.map (·.name)).Nodup := by
  rw [← List.length_eq_zero_iff, length_repeatedCategories, surplus_eq_zero]

theorem repeatedFunctions_eq_nil {fs : List (Metadata.Category × Metadata.Function)} :
    repeatedFunctions [] fs = [] ↔ (fs.map (·.2.name)).Nodup := by
  rw [← List.length_eq_zero_iff, length_repeatedFunctions, surplus_eq_zero]

end Lint

namespace Compilation

/-- **Repeated names are reported once each, in order.** Whatever was found before stays, and what is
added is one finding for each category, and for each function, whose name stands before. -/
theorem repeats_reported (c : Compilation) :
    (∃ found, ((Phase.validate [Lint.duplicateCategory]).run c).1 =
        { c with diagnostics := c.diagnostics ++ found } ∧
      List.Forall₂ (Lint.ReportsCategory c.metadata.categories)
        (Lint.repeats (c.metadata.categories.map (·.name))) found ∧
      (found = [] ↔ (c.metadata.categories.map (·.name)).Nodup)) ∧
    ∃ found, ((Phase.validate [Lint.duplicateFunction]).run c).1 =
        { c with diagnostics := c.diagnostics ++ found } ∧
      List.Forall₂ (Lint.ReportsFunction c.metadata.functions)
        (Lint.repeats (c.metadata.functions.map (·.2.name))) found ∧
      (found = [] ↔ (c.metadata.functions.map (·.2.name)).Nodup) := by
  have hrun (lint : Lint) : ((Phase.validate [lint]).run c).1 =
      { c with diagnostics := c.diagnostics ++ lint.findings c.metadata } := by
    show { c with diagnostics := c.diagnostics ++ [lint].flatMap fun l : Lint => l.findings c.metadata } = _
    rw [List.flatMap_singleton]
  exact ⟨⟨_, hrun _, Lint.repeatedCategories_reported _, Lint.repeatedCategories_eq_nil⟩,
    _, hrun _, Lint.repeatedFunctions_reported _, Lint.repeatedFunctions_eq_nil⟩

end Compilation
end Bindery
