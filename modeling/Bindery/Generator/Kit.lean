import Bindery.Fault
import Bindery.Platform
import Bindery.Rule.Override
import Bindery.Template.Override

/-! The templates and rules that a generator works with. -/
namespace Bindery.Generator

/-- The copyright of a project, for the header of its files. -/
def copyright : String := Text.lines [
  "/*",
  " Copyright (C) ${project} contributors",
  "",
  " This file is part of ${project}. It is distributed under the terms of the",
  " project license, WITHOUT ANY WARRANTY; without even the implied warranty of",
  " MERCHANTABILITY or FITNESS FOR A PARTICULAR PURPOSE.",
  "*/",
  "",
  ""]

/-- The templates and rules of a platform. -/
structure Kit where
  templates : Template.Set
  rules : Rule.Set

namespace Kit

/-- The templates and rules of a platform, with what a directory replaces. -/
def load (tree : FileTree) (stubs : Option String) (platform : Platform)
    (templates : List (String × String)) (rules : Rule.Source) : Except Fault Kit := do
  let templates ← (Template.Set.load tree stubs templates).mapError .template
  let rules ← (Rule.Set.load tree platform.name stubs (Rule.Set.ofSource rules)).mapError .rule
  return { templates, rules }

variable (kit : Kit)

/-- Renders a template. -/
def render (template : String) (bindings : Bindings) : Except Fault String :=
  (kit.templates.render template bindings).mapError .template

/-- The code of a group for something. -/
def code (group : String) (code : Rule.Group → Except Template.Fault String) :
    Except Fault String :=
  (kit.rules.use group code).mapError .rule

/-- The code of a group for parameters. -/
def parameters (group : String) (ps : List Registry.Parameter) : Except Fault String :=
  kit.code group (·.apply ps)

/-- The code of a group for a return value under a name. -/
def returnValue (group name : String) (value : ReturnValue) : Except Fault String :=
  kit.code group (·.applyReturn name value)

/-- The arguments of a library call for one element of the parameter that a function loops over. -/
def loopCall (f : Registry.Function) : Except Fault String :=
  match f.kind.loopParameter? with
  | none => .ok ""
  | some name =>
    kit.code "library_call" (·.applyReplacing f.parameters (some (name, name ++ "Cpp[i]")))

end Kit

/-- A class without the namespaces before it. -/
def unqualified (className : String) : String :=
  String.ofList (Text.afterLast [':', ':'] className.toList)

end Bindery.Generator
