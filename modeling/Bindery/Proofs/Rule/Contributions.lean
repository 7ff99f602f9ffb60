import Bindery.Proofs.Results
import Bindery.Rule

/-! What parameters contribute.

To what a group makes of a list of parameters, each contributes a fragment, a fault or nothing, and what
it contributes depends on no other (`Group.contribution?`). A parameter that is passed over contributes
nothing, and neither does one whose first rule has no code. Any other contributes that code, rendered for
it. The group puts the contributions together, or reports the first fault among them
(`Group.apply_contributions`). Code that is given for a name takes the place of what the parameters of
that name contribute, and all else stays (`Group.applyReplacing_contributions`). -/
namespace Bindery.Rule

/-! ### The code for a value -/

/-- A rule is for a type and an arrangement if these are the ones that it names. One that it leaves out
may be any. -/
structure Suits (r : Rule) (type : DataType) (rank : TensorRank) : Prop where
  rank : r.rank = none ∨ r.rank = some rank
  type : r.type = none ∨ r.type = some type

theorem fits_iff {r : Rule} {type : DataType} {rank : TensorRank} :
    r.fits type rank = true ↔ r.Suits type rank := by
  obtain ⟨rank', type', code⟩ := r
  have hsuits : (Rule.mk rank' type' code).Suits type rank ↔
      (rank' = none ∨ rank' = some rank) ∧ (type' = none ∨ type' = some type) :=
    ⟨fun h => ⟨h.rank, h.type⟩, fun h => ⟨h.1, h.2⟩⟩
  rw [hsuits, fits, Bool.and_eq_true]
  cases rank' <;> cases type' <;> simp

namespace Group
variable {g : Group} {p : Registry.Parameter}

/-- The first rule for a type and an arrangement has some code. -/
def Selects (g : Group) (type : DataType) (rank : TensorRank) (code : Template) : Prop :=
  ∃ before rule after, g.rules = before ++ rule :: after ∧ (∀ r ∈ before, ¬ r.Suits type rank) ∧
    rule.Suits type rank ∧ rule.code = some code

theorem selects_iff {type : DataType} {rank : TensorRank} {code : Template} :
    (g.rules.find? (·.fits type rank)).bind Rule.code = some code ↔ g.Selects type rank code := by
  rw [Option.bind_eq_some_iff]
  constructor
  · rintro ⟨rule, hfind, hcode⟩
    obtain ⟨hfits, before, after, hrules, hbefore⟩ := List.find?_eq_some_iff_append.1 hfind
    refine ⟨before, rule, after, hrules, fun r hr => ?_, fits_iff.1 hfits, hcode⟩
    rw [← fits_iff]
    simpa using hbefore r hr
  · rintro ⟨before, rule, after, hrules, hbefore, hsuits, hcode⟩
    refine ⟨rule, List.find?_eq_some_iff_append.2
      ⟨fits_iff.2 hsuits, before, after, hrules, fun r hr => ?_⟩, hcode⟩
    have hr := hbefore r hr
    rw [← fits_iff] at hr
    simpa using hr

/-- Code that is selected is the code of some rule. -/
theorem Selects.exists_rule {type : DataType} {rank : TensorRank} {code : Template}
    (h : g.Selects type rank code) : ∃ rule ∈ g.rules, rule.code = some code := by
  obtain ⟨before, rule, after, hrules, -, -, hcode⟩ := h
  exact ⟨rule, hrules ▸ List.mem_append_right _ List.mem_cons_self, hcode⟩

/-! ### Contributions -/

/-- What the code of a rule can speak of, for a parameter. -/
def bindingsOf (p : Registry.Parameter) : Bindings :=
  bindings p.name p.type p.rank p.description (p.default.getD "")

/-- The group passes a parameter over. -/
def Passes (g : Group) (p : Registry.Parameter) : Prop := g.skipImplicit = true ∧ p.implicit = true

instance (g : Group) (p : Registry.Parameter) : Decidable (g.Passes p) :=
  inferInstanceAs (Decidable (_ ∧ _))

/-- What a parameter contributes to what a group makes. -/
def contribution? (g : Group) (p : Registry.Parameter) : Option (Except Template.Fault String) :=
  if g.Passes p then none
  else ((g.rules.find? (·.fits p.type p.rank)).bind Rule.code).map fun code =>
    (code.render (bindingsOf p)).map g.indented

/-- Contributions put together, or the first fault among them. -/
def assembled (g : Group) (contributions : List (Except Template.Fault String)) :
    Except Template.Fault String := (contributions.mapM id).map g.joined

/-- A contribution is the code of the first rule for a parameter, rendered for it. -/
theorem contribution?_eq_some {result : Except Template.Fault String} :
    g.contribution? p = some result ↔ ¬ g.Passes p ∧ ∃ code, g.Selects p.type p.rank code ∧
      result = (code.render (bindingsOf p)).map g.indented := by
  rw [contribution?]
  split
  · next hpasses => exact iff_of_false nofun fun h => h.1 hpasses
  · next hpasses =>
    simp only [Option.map_eq_some_iff, selects_iff, eq_comm (a := result), hpasses,
      not_false_eq_true, true_and]

theorem joined_eq (fragments : List String) :
    g.joined fragments = if fragments = [] then "" else
      g.before ++ g.delimiter.intercalate fragments ++ g.after := by
  cases fragments <;> rfl

theorem assembled_eq_ok {contributions : List (Except Template.Fault String)} {s : String} :
    g.assembled contributions = .ok s ↔
      ∃ fragments, contributions = fragments.map .ok ∧ s = g.joined fragments := by
  rw [assembled, map_eq_ok]
  simp only [mapM_id_eq_ok, eq_comm (a := s)]

theorem assembled_eq_error {contributions : List (Except Template.Fault String)}
    {fault : Template.Fault} :
    g.assembled contributions = .error fault ↔
      ∃ (fragments : List String) (rest : List (Except Template.Fault String)),
        contributions = fragments.map .ok ++ .error fault :: rest := by
  rw [assembled, map_eq_error, mapM_id_eq_error]

/-! ### Groups -/

theorem parameterFragment?_of_passes (h : g.Passes p) (replaced : Option (String × String)) :
    g.parameterFragment? replaced p = .ok none := by
  rw [parameterFragment?, h.1, h.2]
  rfl

theorem parameterFragment?_of_not_passes (h : ¬ g.Passes p) (replaced : Option (String × String)) :
    g.parameterFragment? replaced p =
      match replaced.filter (·.1 = p.name) with
      | some (_, code) => .ok (some (g.indented code))
      | none => g.fragment? p.type p.rank (bindingsOf p) := by
  have hpasses : ¬ (g.skipImplicit && p.implicit) = true := by rwa [Bool.and_eq_true]
  rw [parameterFragment?, if_neg hpasses]
  rfl

/-- A fragment is what a parameter contributes that is not passed over. -/
theorem fragment?_bindingsOf (h : ¬ g.Passes p) :
    g.fragment? p.type p.rank (bindingsOf p) =
      (g.contribution? p).elim (.ok none) (Except.map some) := by
  rw [fragment?, contribution?, if_neg h]
  cases (g.rules.find? (·.fits p.type p.rank)).bind Rule.code with
  | none => rfl
  | some code =>
    show (code.render (bindingsOf p)).map _ = ((code.render (bindingsOf p)).map _).map _
    cases code.render (bindingsOf p) <;> rfl

theorem apply_eq_assembled (ps : List Registry.Parameter) :
    g.apply ps = g.assembled (ps.filterMap g.contribution?) := by
  have hfragment : ∀ p, g.parameterFragment? none p =
      (g.contribution? p).elim (.ok none) (Except.map some) := fun p => by
    by_cases hpasses : g.Passes p
    · rw [parameterFragment?_of_passes hpasses, contribution?, if_pos hpasses]
      rfl
    · rw [parameterFragment?_of_not_passes hpasses]
      exact fragment?_bindingsOf hpasses
  rw [assembled, ← mapM_filterMap hfragment, apply, applyReplacing]
  cases ps.mapM (g.parameterFragment? none) <;> rfl

/-- What a parameter contributes where code is given for a name. -/
def contributionOr? (g : Group) (name code : String) (p : Registry.Parameter) :
    Option (Except Template.Fault String) :=
  if ¬ g.Passes p ∧ p.name = name then some (.ok (g.indented code)) else g.contribution? p

theorem applyReplacing_eq_assembled (name code : String) (ps : List Registry.Parameter) :
    g.applyReplacing ps (some (name, code)) =
      g.assembled (ps.filterMap (g.contributionOr? name code)) := by
  have hfragment : ∀ p, g.parameterFragment? (some (name, code)) p =
      (g.contributionOr? name code p).elim (.ok none) (Except.map some) := fun p => by
    rw [contributionOr?]
    by_cases hpasses : g.Passes p
    · rw [parameterFragment?_of_passes hpasses, if_neg (fun h => h.1 hpasses), contribution?,
        if_pos hpasses]
      rfl
    · rw [parameterFragment?_of_not_passes hpasses]
      by_cases hname : p.name = name
      · rw [if_pos ⟨hpasses, hname⟩, Option.filter_some, if_pos (decide_eq_true hname.symm)]
        rfl
      · rw [if_neg (fun h => hname h.2), Option.filter_some, if_neg (by simpa using Ne.symm hname)]
        exact fragment?_bindingsOf hpasses
  rw [assembled, ← mapM_filterMap hfragment, applyReplacing]
  cases ps.mapM (g.parameterFragment? (some (name, code))) <;> rfl

/-- A return value is taken for a parameter that is declared under the name. -/
def returned (name : String) (value : ReturnValue) : Registry.Parameter where
  name := name
  type := value.type
  rank := value.rank
  description := value.description
  default := none
  implicit := false

theorem applyReturn_eq_apply (name : String) (value : ReturnValue) :
    g.applyReturn name value = g.apply [returned name value] := by
  have hfragment : g.parameterFragment? none (returned name value) =
      g.fragment? value.type value.rank
        (bindings name value.type value.rank value.description "") :=
    parameterFragment?_of_not_passes (fun hpasses => Bool.false_ne_true hpasses.2) none
  rw [applyReturn, apply, applyReplacing, List.mapM_cons, hfragment]
  cases g.fragment? value.type value.rank
      (bindings name value.type value.rank value.description "") with
  | error fault => rfl
  | ok fragment => cases fragment <;> rfl

/-! ### The laws -/

/-- **What a group makes of parameters.** -/
theorem apply_contributions (g : Group) :
    (∀ p result, g.contribution? p = some result ↔
      ¬ (g.skipImplicit = true ∧ p.implicit = true) ∧
        ∃ code, g.Selects p.type p.rank code ∧ result =
          (code.render [("name", p.name), ("type", p.type.name), ("rank", p.rank.name),
            ("description", p.description), ("default", p.default.getD "")]).map
              (Text.times g.indent ' ' ++ ·)) ∧
    (∀ ps s, g.apply ps = .ok s ↔ ∃ fragments,
      ps.filterMap g.contribution? = fragments.map .ok ∧
        s = if fragments = [] then "" else
          g.before ++ g.delimiter.intercalate fragments ++ g.after) ∧
    (∀ ps fault, g.apply ps = .error fault ↔
      ∃ (fragments : List String) (rest : List (Except Template.Fault String)),
        ps.filterMap g.contribution? = fragments.map .ok ++ .error fault :: rest) ∧
    (∀ xs ys (fragments fragments' : List String),
      xs.filterMap g.contribution? = fragments.map .ok →
      ys.filterMap g.contribution? = fragments'.map .ok → fragments ≠ [] → fragments' ≠ [] →
        g.apply (xs ++ ys) = .ok (g.before ++ g.delimiter.intercalate fragments ++ g.delimiter
          ++ g.delimiter.intercalate fragments' ++ g.after)) ∧
    ∀ name value, g.applyReturn name value = g.apply [returned name value] := by
  refine ⟨fun p result => contribution?_eq_some, fun ps s => ?_, fun ps fault => ?_, ?_,
    fun name value => applyReturn_eq_apply name value⟩
  · simp only [apply_eq_assembled, assembled_eq_ok, joined_eq]
  · rw [apply_eq_assembled, assembled_eq_error]
  · intro xs ys fragments fragments' hxs hys hfragments hfragments'
    rw [apply_eq_assembled, assembled_eq_ok]
    refine ⟨fragments ++ fragments', by rw [List.filterMap_append, hxs, hys, List.map_append], ?_⟩
    rw [joined_eq, if_neg (by simp [hfragments]),
      String.intercalate_append_of_ne_nil hfragments hfragments']
    simp only [String.append_assoc]

/-- **What code that is given for a name does.** -/
theorem applyReplacing_contributions (g : Group) (ps : List Registry.Parameter)
    (name code : String) :
    g.apply ps = g.assembled (ps.filterMap g.contribution?) ∧
    g.applyReplacing ps (some (name, code)) = g.assembled (ps.filterMap fun p =>
      if ¬ (g.skipImplicit = true ∧ p.implicit = true) ∧ p.name = name
      then some (.ok (Text.times g.indent ' ' ++ code)) else g.contribution? p) ∧
    ((∀ p ∈ ps, ¬ (g.skipImplicit = true ∧ p.implicit = true) → p.name ≠ name) →
      g.applyReplacing ps (some (name, code)) = g.apply ps) ∧
    ((∀ p ∈ ps, ¬ (g.skipImplicit = true ∧ p.implicit = true) → p.name = name →
      g.contribution? p = some (.ok (Text.times g.indent ' ' ++ code))) →
        g.applyReplacing ps (some (name, code)) = g.apply ps) := by
  have hreplacing := g.applyReplacing_eq_assembled name code ps
  have hsame : (∀ p ∈ ps, g.contributionOr? name code p = g.contribution? p) →
      g.applyReplacing ps (some (name, code)) = g.apply ps := fun h => by
    rw [hreplacing, apply_eq_assembled, List.filterMap_congr h]
  refine ⟨apply_eq_assembled ps, hreplacing, fun hnone => hsame fun p hp => ?_,
    fun hall => hsame fun p hp => ?_⟩
  · exact if_neg fun h => hnone p hp h.1 h.2
  · rw [contributionOr?]
    split
    · next h => exact (hall p hp h.1 h.2).symm
    · rfl

end Group
end Bindery.Rule
