import Bindery.Proofs.Generator.Supplied

/-! Platforms whose functions have bodies.

The bodies of C functions and those of worksheet functions are made alike. There is a template for every
kind of function, and one more for functions of the kind that loop (`Caller.bodySource_mem`). All of
them begin with the name of the function and its parameters (`Caller.exists_rest`). -/
namespace Bindery.Generator

/-- A platform whose functions have bodies, which call the library. -/
inductive Caller where
  | c
  | excel

namespace Caller

/-- The platform of a caller. -/
def platform : Caller → Platform
  | c => .c
  | excel => .excel

/-- The definition of a function. -/
def body : Caller → Kit → ProjectNames → Registry.Function → Except Fault String
  | c => C.body
  | excel => Excel.body

/-- The template of the body of a function. -/
def bodyTemplate : Caller → Registry.Function → String
  | c => C.bodyTemplate
  | excel => Excel.bodyTemplate

/-- The source of the template for functions that loop, or do not, of a kind. -/
def bodySource : Caller → Bool → Tag → String
  | c, _, .constructor => C.bodyConstructor
  | c, false, .member => C.bodyMember
  | c, true, .member => C.bodyMemberLoop
  | c, false, .enumerationMember => C.bodyEnumerationMember
  | c, true, .enumerationMember => C.bodyEnumerationMemberLoop
  | c, false, .procedure => C.bodyProcedure
  | c, true, .procedure => C.bodyProcedureLoop
  | excel, _, .constructor => Excel.bodyConstructor
  | excel, false, .member => Excel.bodyMember
  | excel, true, .member => Excel.bodyMemberLoop
  | excel, false, .enumerationMember => Excel.bodyEnumerationMember
  | excel, true, .enumerationMember => Excel.bodyEnumerationMemberLoop
  | excel, false, .procedure => Excel.bodyProcedure
  | excel, true, .procedure => Excel.bodyProcedureLoop

/-- The lines that every body begins with. -/
def openingLines : Caller → List String
  | c => ["long ${name}(", "${parameters}) \x7b"]
  | excel => ["DLLEXPORT ${return_type}${name}(", "${parameters}) \x7b"]

/-- What stands before the parameters, by the words of a template. -/
def declarator : Caller → (String → String) → String
  | c, value => "long " ++ value "name"
  | excel, value => "DLLEXPORT " ++ value "return_type" ++ value "name"

variable (caller : Caller)

/-- A template is among those of its platform. -/
theorem bodySource_mem (f : Registry.Function) :
    (caller.bodyTemplate f, caller.bodySource f.kind.loopParameter?.isSome f.tag) ∈
      templates caller.platform := by
  cases caller
  all_goals
    simp only [bodyTemplate, C.bodyTemplate, Excel.bodyTemplate]
    cases f.kind.loopParameter?.isSome <;> cases f.tag
    all_goals simp [templates, platform, bodySource, C.templates, C.bodies, C.loopBodies,
      Excel.templates, Excel.bodies, Excel.loopBodies, Tag.Table.get]

/-- Every body begins with the lines. -/
theorem exists_opening (loops : Bool) (tag : Tag) : ∃ line rest,
    caller.bodySource loops tag = Text.lines (caller.openingLines ++ line :: rest) := by
  cases caller <;> cases loops <;> cases tag <;> exact ⟨_, _, rfl⟩

/-- What the lines are filled to. -/
theorem filledLines_opening (value : String → String) :
    Template.FilledLines value caller.openingLines
      [caller.declarator value ++ "(", value "parameters" ++ ") \x7b"] := by
  cases caller
  all_goals
    exact .cons (Template.filled?_chars rfl rfl) (.cons (Template.filled?_chars rfl rfl) .nil)

/-- A body begins with the name of its function and the parameters. -/
theorem exists_rest {kit : Kit} (h : kit.Supplied caller.platform) {f : Registry.Function}
    {bindings : Bindings} {s : String}
    (hrender : kit.render (caller.bodyTemplate f) bindings = .ok s) :
    ∃ rest, s = caller.declarator bindings.value ++ "(\n" ++ bindings.value "parameters"
      ++ ") \x7b" ++ rest := by
  obtain ⟨line, rest, hlines⟩ := caller.exists_opening f.kind.loopParameter?.isSome f.tag
  obtain ⟨more, rfl⟩ := h.exists_rest (caller.bodySource_mem f) hlines (List.cons_ne_nil _ _)
    (caller.filledLines_opening bindings.value) hrender
  have hbreak : "(\n" = "(" ++ "\n" := rfl
  refine ⟨"\n" ++ more, ?_⟩
  rw [hbreak]
  simp [String.append_assoc, -String.reduceAppend]

end Caller
end Bindery.Generator
