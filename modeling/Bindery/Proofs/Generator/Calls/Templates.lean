import Bindery.Proofs.Generator.Calls.Rules

/-! Calls in the templates of bodies.

Every template of a body converts the parameters, and only then it calls a function of the library. A
template for a loop goes over the elements of a variable and makes the call in every turn. This is so
on each of the platforms that have bodies (`Caller.callsIn_bodySource`). -/
namespace Bindery.Generator

/-- A call. -/
def simpleCall (callee arguments : String) : String := callee ++ "(" ++ arguments ++ ")"

/-- A loop over the elements of a variable, with a call in every turn. -/
def repeatedCall (values callee arguments : String) : String :=
  "for (std::size_t i = 0; i < " ++ values ++ ".size(); ++i)\n"
    ++ "            returnValue.push_back(" ++ callee ++ "(" ++ arguments ++ "));"

/-- What is called, by the words of a template. -/
def callee (value : String → String) : Tag → String
  | .constructor => "new " ++ value "namespace" ++ "::" ++ value "library_function"
  | .member => "objectPointer->" ++ value "library_function"
  | .enumerationMember => "enumeration." ++ value "library_function"
  | .procedure => value "alias"

/-- What a template has for a call. A constructor does not loop. -/
def invocation (value : String → String) (loops : Bool) (tag : Tag) : String :=
  if loops ∧ tag ≠ .constructor then
    repeatedCall (converted (value "loop")) (callee value tag) (value "loop_call")
  else simpleCall (callee value tag) (value "library_call")

section Invocation
variable (value : String → String)

theorem invocation_simple (tag : Tag) : invocation value false tag =
    simpleCall (callee value tag) (value "library_call") := if_neg fun h => Bool.noConfusion h.1

theorem invocation_constructor (loops : Bool) : invocation value loops .constructor =
    simpleCall (callee value .constructor) (value "library_call") := if_neg fun h => h.2 rfl

theorem invocation_repeated {tag : Tag} (h : tag ≠ .constructor) : invocation value true tag =
    repeatedCall (converted (value "loop")) (callee value tag) (value "loop_call") := if_pos ⟨rfl, h⟩

end Invocation

/-- The conversions stand in a text before a call. -/
def Precedes (conversions call text : String) : Prop :=
  ∃ before between after, text = before ++ conversions ++ between ++ call ++ after

/-- A template converts parameters before a call, whatever its words stand for. -/
def CallsIn (source : String) (loops : Bool) (tag : Tag) : Prop :=
  ∀ value s, Template.filled? value source.toList = some s →
    Precedes (value "conversions") (invocation value loops tag) s

/-- A line of a template begins with the conversions. -/
def Converting (line : String) : Prop :=
  ∀ value, ∃ more, Template.filled? value line.toList = some (value "conversions" ++ more)

/-- Lines of a template have a call. -/
def Calling (lines : List String) (loops : Bool) (tag : Tag) : Prop :=
  ∀ value, ∃ part before after, Template.FilledLines value lines part ∧
    Text.lines part = before ++ invocation value loops tag ++ after

section Lines
variable {lines : List String} {loops : Bool} {tag : Tag}

/-- A line with the conversions, and after it lines with a call. -/
theorem callsIn_of_lines {rest : List String} {first : String} (n m k : Nat)
    (hdrop : lines.drop n = first :: rest) (hrest : rest ≠ []) (hfirst : Converting first)
    (hcall : Calling ((rest.drop m).take k) loops tag) : CallsIn (Text.lines lines) loops tag := by
  intro value s hs
  obtain ⟨more, hfirst⟩ := hfirst value
  obtain ⟨part, lead, tail, hpart, htext⟩ := hcall value
  have hne : lines ≠ [] := by
    rintro rfl
    rw [List.drop_nil] at hdrop
    cases hdrop
  obtain ⟨texts, htexts, rfl⟩ := Template.exists_filledLines hne hs
  obtain ⟨before, hbefore⟩ := Template.exists_lines_before (texts.take n) (texts.drop n)
  have hlater := List.forall₂_drop n htexts
  rw [hdrop] at hlater
  have hfilled := Template.filled?_lines hlater
  rw [Template.toList_lines_cons hrest, Template.filled?_line hfirst] at hfilled
  obtain ⟨s', hs', hs⟩ := Option.map_eq_some_iff.1 hfilled
  obtain ⟨between, after, rfl⟩ := Template.exists_around m k hs' hpart
  refine ⟨before, more ++ "\n" ++ between ++ lead, tail ++ after, ?_⟩
  rw [List.take_append_drop] at hbefore
  rw [hbefore, ← hs, htext]
  simp only [String.append_assoc]

/-- A line with the conversions and with a call after them. -/
theorem callsIn_of_line {line : String} (n : Nat) (hline : (lines.drop n).take 1 = [line])
    (hcall : ∀ value, ∃ between after, Template.filled? value line.toList =
      some (value "conversions" ++ between ++ invocation value loops tag ++ after)) :
    CallsIn (Text.lines lines) loops tag := by
  intro value s hs
  obtain ⟨between, after, htext⟩ := hcall value
  have hpart : Template.FilledLines value ((lines.drop n).take 1)
      [value "conversions" ++ between ++ invocation value loops tag ++ after] := by
    rw [hline]
    exact .cons htext .nil
  obtain ⟨lead, tail, rfl⟩ := Template.exists_around n 1 hs hpart
  refine ⟨lead, between, after ++ tail, ?_⟩
  simp only [Text.lines, String.intercalate_singleton, String.append_assoc]

end Lines

/-! ### Lines of bodies -/

/-- The lines of a loop with a call. -/
def loopLines : Tag → List String
  | .constructor => []
  | .member =>
    ["        for (std::size_t i = 0; i < ${loop}Cpp.size(); ++i)",
     "            returnValue.push_back(objectPointer->${library_function}(${loop_call}));"]
  | .enumerationMember =>
    ["        for (std::size_t i = 0; i < ${loop}Cpp.size(); ++i)",
     "            returnValue.push_back(enumeration.${library_function}(${loop_call}));"]
  | .procedure =>
    ["        for (std::size_t i = 0; i < ${loop}Cpp.size(); ++i)",
     "            returnValue.push_back(${alias}(${loop_call}));"]

/-- The lines of a loop are filled to the loop alone. -/
theorem exists_filledLines_loopLines (value : String → String) {tag : Tag} (htag : tag ≠ .constructor) :
    ∃ part, Template.FilledLines value (loopLines tag) part ∧
      Text.lines part = "        " ++ invocation value true tag := by
  cases tag with
  | constructor => exact absurd rfl htag
  | member | enumerationMember | procedure =>
    refine ⟨_, .cons (Template.filled?_texts rfl (by decide +kernel) (by cbv) rfl)
      (.cons (Template.filled?_texts rfl (by decide +kernel) (by cbv) rfl) .nil), String.toList_inj.1 ?_⟩
    rw [invocation_repeated value htag]
    dsimp only [repeatedCall, converted, callee]
    simp [Text.lines]

theorem calling_loopLines (tag : Tag) (htag : tag ≠ .constructor) :
    Calling (loopLines tag) true tag := by
  intro value
  obtain ⟨part, hpart, htext⟩ := exists_filledLines_loopLines value htag
  exact ⟨part, "        ", "", hpart, htext.trans String.append_empty.symm⟩

/-! ### Bodies -/

namespace Caller

/-- The word of a template, and the group of rules, for the type of a result. -/
def resultType : Caller → String
  | c => "return_type"
  | excel => "value_type"

/-- The number of lines of a template before the conversions. -/
def lead : Caller → Tag → Nat
  | c, _ => 3
  | excel, .procedure => 10
  | excel, _ => 11

/-- The line with the conversions, where it is not the line of the call. -/
def conversionLine : Caller → Tag → String
  | _, .constructor =>
    "${conversions}        boost::shared_ptr<ObjectHandler::Object> objectPointer("
  | _, .member => "${conversions}        OH_GET_REFERENCE(objectPointer, objectIDCpp,"
  | _, .enumerationMember => "${conversions}        ${class} enumeration ="
  | c, .procedure => "${conversions}        ${return_type} returnValue;"
  | excel, .procedure => "${conversions}        ${value_type} returnValue;"

/-- The line of a single call. For a procedure it has the conversions as well. -/
def callLine : Caller → Tag → String
  | _, .constructor => "            new ${namespace}::${library_function}(${library_call}));"
  | c, .member =>
    "        ${return_type} returnValue = objectPointer->${library_function}(${library_call});"
  | c, .enumerationMember =>
    "        ${return_type} returnValue = enumeration.${library_function}(${library_call});"
  | c, .procedure =>
    "${conversions}        ${return_type} returnValue = ${alias}(${library_call});"
  | excel, .member =>
    "        ${value_type} returnValue = objectPointer->${library_function}(${library_call});"
  | excel, .enumerationMember =>
    "        ${value_type} returnValue = enumeration.${library_function}(${library_call});"
  | excel, .procedure =>
    "${conversions}        ${value_type} returnValue = ${alias}(${library_call});"

/-- The lines with the call. -/
def callLines (caller : Caller) : Bool → Tag → List String
  | _, .constructor => [caller.callLine .constructor]
  | false, tag => [caller.callLine tag]
  | true, tag => loopLines tag

variable (caller : Caller)

theorem converting_conversionLine (tag : Tag) : Converting (caller.conversionLine tag) := by
  cases caller <;> cases tag
  all_goals exact fun _ => ⟨_, Template.filled?_texts rfl (by decide +kernel) (by cbv) String.join_cons⟩

/-- The line of a procedure has the call behind the conversions. -/
theorem filled?_callLine (value : String → String) :
    Template.filled? value (caller.callLine .procedure).toList =
      some (value "conversions" ++ ("        " ++ value caller.resultType ++ " returnValue = ")
        ++ invocation value false .procedure ++ ";") := by
  rw [invocation_simple]
  cases caller
  all_goals
    refine Template.filled?_texts rfl (by decide +kernel) (by cbv) (String.toList_inj.1 ?_)
    dsimp only [callee, simpleCall, resultType]
    simp

theorem calling_constructor (loops : Bool) :
    Calling [caller.callLine .constructor] loops .constructor := by
  refine fun value => ⟨_, "            ", ");", .cons ?_ .nil, rfl⟩
  rw [invocation_constructor]
  refine Template.filled?_texts rfl (by decide +kernel) (by cbv) (String.toList_inj.1 ?_)
  dsimp only [callee, simpleCall]
  simp

/-- The line of a member has the type of the result before the call and a semicolon after it. -/
theorem calling_callLine {tag : Tag} (htag : tag = .member ∨ tag = .enumerationMember) :
    Calling [caller.callLine tag] false tag := by
  refine fun value => ⟨_, "        " ++ value caller.resultType ++ " returnValue = ", ";",
    .cons ?_ .nil, rfl⟩
  rw [invocation_simple]
  obtain rfl | rfl := htag <;> cases caller
  all_goals
    refine Template.filled?_texts rfl (by decide +kernel) (by cbv) (String.toList_inj.1 ?_)
    dsimp only [callee, simpleCall, resultType]
    simp

theorem calling_callLines {loops : Bool} {tag : Tag} (h : ¬ (loops = false ∧ tag = .procedure)) :
    Calling (caller.callLines loops tag) loops tag := by
  cases tag with
  | constructor => exact caller.calling_constructor loops
  | member =>
    cases loops with
    | false => exact caller.calling_callLine (.inl rfl)
    | true => exact calling_loopLines .member (by decide)
  | enumerationMember =>
    cases loops with
    | false => exact caller.calling_callLine (.inr rfl)
    | true => exact calling_loopLines .enumerationMember (by decide)
  | procedure =>
    cases loops with
    | false => exact absurd ⟨rfl, rfl⟩ h
    | true => exact calling_loopLines .procedure (by decide)

/-- Where the call is not on the line with the conversions, its lines come some lines after it. -/
theorem exists_bodyLines {loops : Bool} {tag : Tag} (h : ¬ (loops = false ∧ tag = .procedure)) :
    ∃ lines m k, caller.bodySource loops tag = Text.lines lines ∧
      lines.drop (caller.lead tag) = caller.conversionLine tag :: lines.drop (caller.lead tag + 1) ∧
      lines.drop (caller.lead tag + 1) ≠ [] ∧
      ((lines.drop (caller.lead tag + 1)).drop m).take k = caller.callLines loops tag := by
  cases tag with
  | constructor =>
    cases caller
    all_goals
      simp only [bodySource]
      exact ⟨_, 0, 1, rfl, rfl, List.cons_ne_nil _ _, rfl⟩
  | member | enumerationMember =>
    cases loops <;> cases caller
    all_goals simp only [bodySource]
    case false.c | false.excel => exact ⟨_, 1, 1, rfl, rfl, List.cons_ne_nil _ _, rfl⟩
    case true.c | true.excel => exact ⟨_, 2, 2, rfl, rfl, List.cons_ne_nil _ _, rfl⟩
  | procedure =>
    cases loops with
    | false => exact absurd ⟨rfl, rfl⟩ h
    | true =>
      cases caller
      all_goals
        simp only [bodySource]
        exact ⟨_, 0, 2, rfl, rfl, List.cons_ne_nil _ _, rfl⟩

/-- The template of a body has its call after the conversions. -/
theorem callsIn_bodySource (loops : Bool) (tag : Tag) :
    CallsIn (caller.bodySource loops tag) loops tag := by
  by_cases h : loops = false ∧ tag = .procedure
  · obtain ⟨rfl, rfl⟩ := h
    obtain ⟨lines, hsource, hline⟩ : ∃ lines, caller.bodySource false .procedure = Text.lines lines ∧
        (lines.drop (caller.lead .procedure)).take 1 = [caller.callLine .procedure] := by
      cases caller
      all_goals
        simp only [bodySource]
        exact ⟨_, rfl, rfl⟩
    rw [hsource]
    exact callsIn_of_line _ hline fun value => ⟨_, _, caller.filled?_callLine value⟩
  · obtain ⟨lines, m, k, hsource, hdrop, hrest, hcall⟩ := caller.exists_bodyLines h
    rw [hsource]
    exact callsIn_of_lines _ m k hdrop hrest (caller.converting_conversionLine tag)
      (hcall ▸ caller.calling_callLines h)

end Caller

end Bindery.Generator
