import Bindery.Proofs.Generator.Calls.Rules
import Bindery.Proofs.Registry.Parameters
import Bindery.Proofs.Text.Arguments

/-! The arguments of calls.

A call passes the declared parameters in their order (`arguments?_callText`), and a call in a loop
passes an element of the parameter that the loop is over at the place of that parameter
(`map_passed_eq_set`). Whatever variable a call passes, there is a conversion that introduces it
(`prepared_of_fragment`). -/
namespace Bindery.Generator

open Text.Call (Whole Begins)
open Text.Call.Reader (isPlain)

/-- What a call in a loop over some parameter passes for a parameter. -/
def passed (mark : String) (loop : Option String) (p : Registry.Parameter) : String :=
  if loop = some p.name then element p.name else argument mark p

/-- What a call passes, over an element of the parameter that a function loops over. -/
def callText (mark : String) (loop : Option String) (f : Registry.Function) : String :=
  ", ".intercalate (f.declaredParameters.map (passed mark loop))

section Supplied
variable {kit : Kit} {platform : Platform} (h : kit.Supplied platform) {mark : String}
  {conversion : Registry.Parameter → String}
  (hsource : Converts (Generator.rules platform) mark conversion)
include h hsource

theorem group_eq {name : String} (hname : name ∈ ["library_call", "conversions"]) :
    kit.rules.group name = .ok ((Generator.rules platform).group name) :=
  h.group_eq (hsource.named hname)

/-- What is passed for a parameter. -/
theorem parameterFragment?_libraryCall (loop : Option String) (p : Registry.Parameter) :
    ((Generator.rules platform).group "library_call").parameterFragment?
      (loop.map fun n => (n, element n)) p =
        .ok (if p.implicit then none else some (passed mark loop p)) := by
  have hgroup := group_eq h hsource (List.mem_cons_self (a := "library_call"))
  have hcovered := h.serves.covered _ (Rule.Set.mem_of_group hgroup)
  obtain ⟨code, hcode, htext⟩ := hsource.passes p
  have hargument := Rule.Group.fragment?_eq hcovered hcode htext
  rw [hsource.indented] at hargument
  rw [Rule.Group.parameterFragment?, hsource.declaredOnly, Bool.true_and]
  cases p.implicit with
  | true => rfl
  | false =>
    cases loop with
    | none => exact hargument
    | some n =>
      by_cases hn : n = p.name
      · have hreplaced : (some (n, element n)).filter (fun r => r.1 = p.name) = some (n, element n) := by
          simp [hn]
        rw [Option.map_some, hreplaced, passed, if_pos (congrArg some hn), ← hn]
        exact congrArg (fun s => Except.ok (some s)) (hsource.indented _)
      · have hkept : (some (n, element n)).filter (fun r => r.1 = p.name) = none := by simp [hn]
        rw [Option.map_some, hkept, passed, if_neg (mt Option.some.inj hn)]
        exact hargument

/-- The arguments of a call, in a loop or not. -/
theorem applyReplacing_eq (loop : Option String) (f : Registry.Function) :
    kit.code "library_call" (·.applyReplacing f.parameters (loop.map fun n => (n, element n))) =
      .ok (callText mark loop f) := by
  have hfragments := mapM_eq_map fun p (_ : p ∈ f.parameters) =>
    parameterFragment?_libraryCall h hsource loop p
  refine mapError_eq_ok.2 (bind_eq_ok.2 ⟨_, group_eq h hsource (by simp), mapError_eq_ok.2 ?_⟩)
  refine bind_eq_ok.2 ⟨_, hfragments, ?_⟩
  rw [declared_fragments, hsource.joined]
  rfl

theorem parameters_libraryCall (f : Registry.Function) :
    kit.parameters "library_call" f.parameters = .ok (callText mark none f) :=
  applyReplacing_eq h hsource none f

theorem loopCall_eq {f : Registry.Function} {n : String} (hn : f.kind.loopParameter? = some n) :
    kit.loopCall f = .ok (callText mark (some n) f) := by
  rw [Kit.loopCall, hn]
  exact applyReplacing_eq h hsource (some n) f

end Supplied

/-! ### Arguments -/

/-- Identifiers are read as they are. -/
theorem all_isPlain {name : String} (h : Text.isIdentifier name = true) :
    name.toList.all isPlain = true := by
  have hmarks : Text.Call.Reader.marks.all (!Text.isNamePart ·) = true := by decide
  refine List.all_eq_true.2 fun c hc => ?_
  have hpart := List.all_eq_true.1 (Text.all_isNamePart h) c hc
  rw [isPlain, Bool.not_eq_true', List.contains_eq_mem, decide_eq_false_iff_not]
  intro hmark
  have hother := List.all_eq_true.1 hmarks c hmark
  rw [hpart] at hother
  cases hother

/-- What is passed for a parameter is read as one argument. -/
theorem whole_passed {mark : String} (hmark : mark ∈ ["", "*"]) (loop : Option String)
    {p : Registry.Parameter} (hname : Text.isIdentifier p.name = true) :
    Whole (passed mark loop p) := by
  have hmarks : ∀ s ∈ ["", "*", "Cpp", "Cpp[i]"], s.toList.all isPlain = true := by decide
  have happend {a b : String} (ha : a.toList.all isPlain = true) (hb : b.toList.all isPlain = true) :
      (a ++ b).toList.all isPlain = true := by
    rw [String.toList_append, List.all_append, ha, hb, Bool.and_self]
  refine Text.Call.whole_of_plain ?_
  rw [passed, argument]
  split
  · exact happend (all_isPlain hname) (hmarks _ (by simp))
  · split
    · exact happend (all_isPlain hname) (hmarks _ (by simp))
    · exact happend (hmarks _ (List.mem_append_left ["Cpp", "Cpp[i]"] hmark)) (all_isPlain hname)

/-- A call is read back to what it passes. -/
theorem arguments?_callText {mark : String} (hmark : mark ∈ ["", "*"]) (loop : Option String)
    {f : Registry.Function} (hne : f.declaredParameters ≠ [])
    (hnames : ∀ p ∈ f.parameters, Text.isIdentifier p.name = true) (rest : String) :
    Text.arguments? (callText mark loop f ++ ")" ++ rest) =
      some (f.declaredParameters.map (passed mark loop)) :=
  Text.Call.arguments?_intercalate (mt List.map_eq_nil_iff.1 hne)
    (List.forall_mem_map.2 fun p hp => whole_passed hmark loop (hnames p (List.mem_of_mem_filter hp)))
    rest

/-- A loop over a parameter changes the argument at its place and no other. -/
theorem map_passed_eq_set {ps : List Registry.Parameter} (mark : String) {n : String} {i : Nat}
    (hdistinct : (ps.map (·.name)).Nodup) (hi : (ps.map (·.name))[i]? = some n) :
    ps.map (passed mark (some n)) = (ps.map (passed mark none)).set i (element n) := by
  refine List.ext_getElem? fun j => ?_
  have hbound : i < (ps.map (·.name)).length := (List.getElem?_eq_some_iff.1 hi).1
  rw [List.getElem?_set, List.getElem?_map, List.getElem?_map]
  by_cases hij : i = j
  · subst hij
    rw [List.getElem?_map] at hi
    obtain ⟨p, hp, hname⟩ := Option.map_eq_some_iff.1 hi
    rw [if_pos rfl, if_pos (by simpa using hbound), hp, Option.map_some, passed,
      if_pos (congrArg some hname.symm), hname]
  · rw [if_neg hij]
    refine Option.map_congr fun p hp => ?_
    have hother : n ≠ p.name := fun hname => by
      refine hij ((List.getElem?_inj hbound hdistinct).1 ?_)
      rw [hi, List.getElem?_map, hp, hname]
      rfl
    rw [passed, passed, if_neg (mt Option.some.inj hother), if_neg (Option.some_ne_none _).symm]

/-- Only the variable of a parameter has the name of its variable. -/
theorem isConverted_of_argument_eq {mark : String} (hmark : mark ∈ ["", "*"])
    {p : Registry.Parameter} (h : argument mark p = converted p.name) :
    isConverted p.type p.rank = true := by
  by_contra hplain
  have hshort : ∀ s ∈ ["", "*"], s.length < "Cpp".length := by decide
  have hlength := congrArg String.length h
  rw [argument, if_neg hplain, converted, String.length_append, String.length_append] at hlength
  have := hshort mark hmark
  omega

/-! ### Conversions -/

/-- A parameter has a conversion among those of its function, and it introduces the variable of the
parameter. -/
def Prepared (kit : Kit) (f : Registry.Function) (p : Registry.Parameter) : Prop :=
  ∃ g fragments code, kit.rules.group "conversions" = .ok g ∧
    f.parameters.mapM (g.parameterFragment? none) = .ok fragments ∧
    kit.parameters "conversions" f.parameters = .ok (g.joined (fragments.filterMap id)) ∧
    g.parameterFragment? none p = .ok (some code) ∧ some code ∈ fragments ∧
    Text.declaredVariable code = converted p.name

section Supplied
variable {kit : Kit} {platform : Platform} (h : kit.Supplied platform) {mark : String}
  {conversion : Registry.Parameter → String}
  (hsource : Converts (Generator.rules platform) mark conversion)
include h hsource

/-- A declared parameter whose value is converted is prepared. -/
theorem prepared_of_isConverted {f : Registry.Function} {p : Registry.Parameter}
    (hp : p ∈ f.declaredParameters) (hname : Text.isIdentifier p.name = true)
    (hconverted : isConverted p.type p.rank = true) : Prepared kit f p := by
  obtain ⟨hmem, himplicit⟩ := List.mem_filter.1 hp
  rw [Bool.not_eq_true'] at himplicit
  let g := (Generator.rules platform).group "conversions"
  have hgroup : kit.rules.group "conversions" = .ok g := group_eq h hsource (by simp)
  have hcovered : g.Covered := h.serves.covered _ (Rule.Set.mem_of_group hgroup)
  obtain ⟨fragments, hfragments⟩ := exists_mapM fun q (_ : q ∈ f.parameters) =>
    Rule.Group.exists_parameterFragment? hcovered none q
  obtain ⟨code, hcode, htext⟩ := hsource.converts p hconverted
  have hfragment : g.parameterFragment? none p = .ok (some (g.indented (conversion p))) := by
    rw [Rule.Group.parameterFragment?, himplicit, Bool.and_false]
    exact Rule.Group.fragment?_eq hcovered hcode htext
  obtain ⟨fragment, hin, hfragment'⟩ := exists_of_mem_left (mapM_eq_ok.1 hfragments) hmem
  obtain rfl : some (g.indented (conversion p)) = fragment :=
    Except.ok.inj (hfragment.symm.trans hfragment')
  refine ⟨g, fragments, _, hgroup, hfragments, ?_, hfragment, hin, hsource.introduces p hname⟩
  exact mapError_eq_ok.2 (bind_eq_ok.2
    ⟨g, hgroup, mapError_eq_ok.2 (bind_eq_ok.2 ⟨fragments, hfragments, rfl⟩)⟩)

/-- Whatever variable a call passes, its parameter is prepared. -/
theorem prepared_of_fragment {f : Registry.Function}
    (hnames : ∀ p ∈ f.parameters, Text.isIdentifier p.name = true) :
    ∃ g, kit.rules.group "library_call" = .ok g ∧ ∀ p ∈ f.parameters,
      g.parameterFragment? none p = .ok (some (converted p.name)) → Prepared kit f p := by
  refine ⟨_, group_eq h hsource (by simp), fun p hp hpassed => ?_⟩
  have hfragment := parameterFragment?_libraryCall h hsource none p
  rw [Option.map_none, hpassed] at hfragment
  cases himplicit : p.implicit with
  | true =>
    rw [himplicit] at hfragment
    cases hfragment
  | false =>
    rw [himplicit] at hfragment
    have hargument : converted p.name = passed mark none p :=
      Option.some.inj (Except.ok.inj hfragment)
    rw [passed, if_neg (Option.some_ne_none _).symm] at hargument
    exact prepared_of_isConverted h hsource (List.mem_filter.2 ⟨hp, by rw [himplicit]; rfl⟩)
      (hnames p hp) (isConverted_of_argument_eq hsource.marked hargument.symm)

end Supplied

end Bindery.Generator
