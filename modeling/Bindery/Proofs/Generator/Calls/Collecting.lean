import Bindery.Proofs.Generator.Calls.Bodies

/-! What loops collect into.

A body that loops declares the variable for its result right before the loop, which puts an element
into it in every turn. The variable has the type of the result, and nothing keeps a function that loops
from having a single value as its result. So the variable is a vector exactly where the result is none
(`loops_collect_iff`). -/
namespace Bindery.Generator

/-! ### Types of results -/

/-- A type is that of a vector. -/
def IsVector (type : String) : Prop := "std::vector<".toList <+: type.toList

instance (type : String) : Decidable (IsVector type) := inferInstanceAs (Decidable (_ <+: _))

/-- A caller gives the variable for a result the type that a variable for a parameter has. -/
theorem Caller.filled?_resultType (caller : Caller) (type : DataType) (rank : TensorRank)
    {value : String → String} (htype : value "type" = type.name) :
    ∃ code, (rules caller.platform).code? caller.resultType type rank = some code ∧
      Template.filled? value code.toList =
        some (valueType (caller.elementType type rank) rank) := by
  have hword : value (String.ofList ['t', 'y', 'p', 'e']) = type.name := htype
  unfold valueType
  cases caller <;> cases type <;> cases rank
  all_goals
    refine ⟨_, rfl, Template.filled?_texts rfl (by decide +kernel) (by cbv) ?_⟩
    simp only [String.join_cons, String.join_nil, String.append_empty, String.append_assoc, hword]
    rfl

theorem Caller.not_isVector_elementType (caller : Caller) (type : DataType) (rank : TensorRank) :
    ¬ IsVector (caller.elementType type rank) := by
  cases caller <;> cases type <;> cases rank <;> decide

/-- Where elements are no vectors, an arrangement of them is one unless it is a single element. -/
theorem isVector_valueType_iff {element : String} (h : ¬ IsVector element) (rank : TensorRank) :
    IsVector (valueType element rank) ↔ rank ≠ .scalar := by
  have hlead {lead : String} (hlead : IsVector lead) (more : String) : IsVector (lead ++ more) := by
    rw [IsVector, String.toList_append]
    exact List.IsPrefix.trans hlead (List.prefix_append _ _)
  cases rank with
  | scalar => exact iff_of_false h fun hne => hne rfl
  | vector => exact iff_of_true (hlead (hlead (List.prefix_refl _) element) ">") (by decide)
  | matrix => exact iff_of_true (hlead (hlead (by decide) element) "> >") (by decide)

/-! ### Declarations before loops -/

/-- A template declares a variable right before its loop, whatever its words stand for. -/
def CollectsIn (source word : String) (tag : Tag) : Prop :=
  ∀ value s, Template.filled? value source.toList = some s → ∃ before after,
    s = before ++ "        " ++ value word ++ " returnValue;\n        " ++ invocation value true tag
      ++ after

/-- A line of a template declares a variable. -/
def Declaring (word line : String) : Prop :=
  ∀ value, ∃ before, Template.filled? value line.toList =
    some (before ++ "        " ++ value word ++ " returnValue;")

/-- A line with a declaration, and after it the lines of a loop. -/
theorem collectsIn_of_lines {lines : List String} {word line : String} {tag : Tag} (n : Nat)
    (htag : tag ≠ .constructor) (hlines : (lines.drop n).take 3 = line :: loopLines tag)
    (hline : Declaring word line) : CollectsIn (Text.lines lines) word tag := by
  intro value s hs
  obtain ⟨lead, hlead⟩ := hline value
  obtain ⟨part, hpart, htext⟩ := exists_filledLines_loopLines value htag
  have hfilled : Template.FilledLines value ((lines.drop n).take 3)
      ((lead ++ "        " ++ value word ++ " returnValue;") :: part) := by
    rw [hlines]
    exact .cons hlead hpart
  have hne : part ≠ [] := by
    rintro rfl
    simpa [Text.lines] using congrArg String.toList htext
  have hbreak : " returnValue;\n        " = " returnValue;" ++ ("\n" ++ "        ") := rfl
  obtain ⟨before, after, rfl⟩ := Template.exists_around n 3 hs hfilled
  refine ⟨before ++ lead, after, ?_⟩
  rw [Template.lines_cons hne, htext, hbreak]
  simp only [String.append_assoc]

namespace Caller

/-- The line of a template that declares what its loop collects into. Where the line is that of the
conversions, they come first. -/
def declarationLine : Caller → Tag → String
  | caller, .procedure => caller.conversionLine .procedure
  | c, _ => "        ${return_type} returnValue;"
  | excel, _ => "        ${value_type} returnValue;"

theorem declaring_declarationLine (caller : Caller) (tag : Tag) :
    Declaring caller.resultType (caller.declarationLine tag) := by
  intro value
  cases tag with
  | procedure =>
    refine ⟨value "conversions", ?_⟩
    cases caller
    all_goals exact Template.filled?_texts rfl (by decide +kernel) (by cbv) (by simp [String.append_assoc, resultType])
  | constructor | member | enumerationMember =>
    refine ⟨"", ?_⟩
    cases caller
    all_goals exact Template.filled?_texts rfl (by decide +kernel) (by cbv) (by simp [String.append_assoc, resultType])

/-- The template of a body that loops declares what it collects into. -/
theorem collectsIn_bodySource (caller : Caller) {tag : Tag} (htag : tag ≠ .constructor) :
    CollectsIn (caller.bodySource true tag) caller.resultType tag := by
  obtain ⟨lines, n, hsource, hlines⟩ : ∃ lines n, caller.bodySource true tag = Text.lines lines ∧
      (lines.drop n).take 3 = caller.declarationLine tag :: loopLines tag := by
    cases tag with
    | constructor => exact absurd rfl htag
    | member | enumerationMember =>
      cases caller
      all_goals simp only [bodySource]
      case c => exact ⟨_, 5, rfl, rfl⟩
      case excel => exact ⟨_, 13, rfl, rfl⟩
    | procedure =>
      cases caller
      all_goals simp only [bodySource]
      case c => exact ⟨_, 3, rfl, rfl⟩
      case excel => exact ⟨_, 10, rfl, rfl⟩
  rw [hsource]
  exact collectsIn_of_lines n htag hlines (caller.declaring_declarationLine tag)

end Caller

/-! ### Bodies -/

/-- The body of a function declares a variable of the type that a group has for its result, and right
after it loops over some values and puts what it gets for each of them into the variable. -/
structure Collects (kit : Kit) (project : ProjectNames) (f : Registry.Function)
    (group loop type : String) (body : Except Fault String) : Prop where
  typed : kit.returnValue group "returnValue" f.returnValue = .ok type
  declared : ∃ text loopArguments before after, body = .ok text ∧
    kit.loopCall f = .ok loopArguments ∧
    text = before ++ "        " ++ type ++ " returnValue;\n        "
      ++ repeatedCall (converted loop) (called project f) loopArguments ++ after

/-- The group of a caller for the type of a result. -/
theorem Caller.returnValue_resultType (caller : Caller) {kit : Kit}
    (h : kit.Supplied caller.platform) (value : ReturnValue) :
    kit.returnValue caller.resultType "returnValue" value =
      .ok (valueType (caller.elementType value.type value.rank) value.rank) := by
  have hname : caller.resultType ∈ (Generator.rules caller.platform).groups.map Prod.fst := by
    cases caller <;> decide
  have hplain : ((Generator.rules caller.platform).group caller.resultType).Plain ", " := by
    cases caller <;> exact ⟨rfl, rfl, rfl, rfl⟩
  have hindent : ((Generator.rules caller.platform).group caller.resultType).indent = 0 := by
    cases caller <;> rfl
  let bindings := Rule.Group.bindings "returnValue" value.type value.rank value.description ""
  have htype : bindings.value "type" = value.type.name := rfl
  obtain ⟨code, hcode, hfilled⟩ := caller.filled?_resultType value.type value.rank htype
  rw [h.returnValue_eq hname hplain hcode hfilled, Rule.Group.indented, hindent]
  exact congrArg Except.ok String.empty_append

section Bodies
variable {kit : Kit} {project : ProjectNames} {f : Registry.Function} {n : String}
  (hn : f.kind.loopParameter? = some n)
include hn

/-- The loop of a template, with the words of a function. -/
theorem invocation_loop {value : String → String} (h : Speaks value project f) :
    invocation value true f.tag =
      repeatedCall (converted n) (called project f) (value "loop_call") := by
  have hcall := invocation_eq project h
  rw [hn] at hcall
  refine hcall.trans ?_
  rw [callOf, hn]

theorem Caller.collects (caller : Caller) (h : kit.Supplied caller.platform) :
    Collects kit project f caller.resultType n
      (valueType (caller.elementType f.returnValue.type f.returnValue.rank) f.returnValue.rank)
      (caller.body kit project f) := by
  obtain ⟨text, value, hbody, hspells, hfilled⟩ := caller.exists_filled h project f
  have htyped := caller.returnValue_resultType h f.returnValue
  have htype := Except.ok.inj (hspells.returnType.symm.trans htyped)
  rw [hn, Option.isSome_some] at hfilled
  obtain ⟨before, after, htext⟩ :=
    caller.collectsIn_bodySource (tag_ne_constructor hn) _ _ hfilled
  rw [invocation_loop hn hspells.toSpeaks, htype] at htext
  exact ⟨htyped, text, _, before, after, hbody, hspells.loopCall, htext⟩

end Bodies

/-- On the platform of a caller, a function that loops collects into a variable of its result's type. -/
theorem exists_collects (caller : Caller) (tree : FileTree) (r : Registry) :
    ∃ kit : Kit, (∀ settings, load tree none settings r caller.platform =
        .ok (ofKit kit settings r caller.platform)) ∧
      ∀ c ∈ r.categories, ∀ f ∈ c.functions, ∀ n ∈ f.kind.loopParameter?, ∃ type,
        Collects kit r.project f caller.resultType n type (caller.body kit r.project f) ∧
          (IsVector type ↔ f.returnValue.rank ≠ .scalar) := by
  obtain ⟨kit, hkit, hload⟩ := exists_supplied tree caller.platform
  exact ⟨kit, fun settings => hload settings r, fun c _ f _ n hn => ⟨_, caller.collects hn hkit,
    isVector_valueType_iff (caller.not_isVector_elementType _ _) _⟩⟩

/-- **What loops collect into.** The body of every function that loops declares a variable right before
its loop, which puts an element into it in every turn. The variable has the type of the function's
result, and that is a vector exactly where the result is no single value. -/
theorem loops_collect_iff (tree : FileTree) (r : Registry) :
    (∃ kit : Kit, (∀ settings, load tree none settings r .c = .ok (ofKit kit settings r .c)) ∧
      ∀ c ∈ r.categories, ∀ f ∈ c.functions, ∀ n ∈ f.kind.loopParameter?, ∃ type,
        Collects kit r.project f "return_type" n type (C.body kit r.project f) ∧
          (IsVector type ↔ f.returnValue.rank ≠ .scalar)) ∧
    (∃ kit : Kit, (∀ settings, load tree none settings r .excel = .ok (ofKit kit settings r .excel)) ∧
      ∀ c ∈ r.categories, ∀ f ∈ c.functions, ∀ n ∈ f.kind.loopParameter?, ∃ type,
        Collects kit r.project f "value_type" n type (Excel.body kit r.project f) ∧
          (IsVector type ↔ f.returnValue.rank ≠ .scalar)) :=
  ⟨exists_collects .c tree r, exists_collects .excel tree r⟩

/-- The check of loops looks at the parameter alone: a loop that has a single value as its result is
accepted, and collects into a variable that is no vector. -/
theorem loops_collect_discounts :
    (∀ c ∈ discounts.categories, Metadata.Category.parse discountSource "a.xml" = .ok c) ∧
      ∃ after r, (Compilation.fresh ⟨"P", "P", "p"⟩ discounts).run Compilation.standard =
          (after, .ok ()) ∧ after.registry = some r ∧
        ∃ c ∈ r.categories, ∃ f ∈ c.functions, ∃ n ∈ f.kind.loopParameter?,
          (∃ kit type, Collects kit r.project f "return_type" n type (C.body kit r.project f) ∧
            ¬ IsVector type) ∧
          ∃ kit type, Collects kit r.project f "value_type" n type (Excel.body kit r.project f) ∧
            ¬ IsVector type := by
  have hrun : (((Compilation.fresh ⟨"P", "P", "p"⟩ discounts).run Compilation.standard).2.toOption,
      ((Compilation.fresh ⟨"P", "P", "p"⟩ discounts).run Compilation.standard).1.registry.map
        (·.categories.map fun c => c.functions.map fun f =>
          (f.kind.loopParameter?, f.returnValue.rank))) =
      (some (), some [[(some "dates", .scalar)]]) := by decide +kernel
  obtain ⟨after, r, houtcome, hr, hcategories⟩ := Compilation.exists_registry hrun
  obtain ⟨⟨kit, -, hbodies⟩, ⟨kit', -, hbodies'⟩⟩ := loops_collect_iff {} r
  obtain ⟨c, hc, hfunctions⟩ := List.mem_map.1 (hcategories ▸ List.mem_cons_self)
  obtain ⟨f, hf, hvalues⟩ := List.mem_map.1 (hfunctions ▸ List.mem_cons_self)
  obtain ⟨hloop, hrank⟩ := Prod.mk.inj hvalues
  obtain ⟨type, hcollects, hvector⟩ := hbodies c hc f hf _ hloop
  obtain ⟨type', hcollects', hvector'⟩ := hbodies' c hc f hf _ hloop
  exact ⟨parse_discounts, after, r, houtcome, hr, c, hc, f, hf, _, hloop,
    ⟨kit, type, hcollects, fun h => hvector.1 h hrank⟩,
    kit', type', hcollects', fun h => hvector'.1 h hrank⟩

end Bindery.Generator
