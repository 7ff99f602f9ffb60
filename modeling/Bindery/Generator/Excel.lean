import Bindery.Generator.Excel.Rules
import Bindery.Generator.Excel.Templates
import Bindery.Generator.Registration
import Bindery.Text.Counted

/-! Generation of Excel worksheet functions.

Every category with functions for Excel has a source file that registers them with the program. The
functions that are generated in full have their bodies in another. The addin also registers the
classes of value objects. -/
namespace Bindery.Generator.Excel

/-- The platform in the words of the metadata. -/
def platformName : String := "Excel"

/-- The functions that a category registers. -/
def registered (c : Registry.Category) : List Registry.Function :=
  c.supporting platformName .manual

/-- The functions that a category defines. -/
def defined (c : Registry.Category) : List Registry.Function := c.supporting platformName .auto

/-! ### Registration -/

variable (kit : Kit) (project : ProjectNames)

/-- The letters for the types of the return value and the parameters. -/
def typeCodes (f : Registry.Function) : Except Fault String := do
  let result ← kit.returnValue "type_codes" "" f.returnValue
  let parameters ← kit.parameters "type_codes" f.parameters
  return result ++ parameters
    ++ (if (f.platform? platformName).any (·.xlMacro) then "#" else "")

/-- Descriptions with two spaces after the last, because the function wizard drops the end of the
last text that it is given. -/
def padded : List String → List String
  | [] => []
  | [last] => [last ++ "  "]
  | description :: rest => description :: padded rest

/-- The descriptions of a function and of its parameters, as they are registered. -/
def descriptions (f : Registry.Function) : List String :=
  padded (f.description :: f.parameters.map (·.description))

/-- The number of arguments of a registration besides those for parameters. -/
def fixedArguments : Nat := 10

/-- The registration of a function. -/
def registration (c : Registry.Category) (f : Registry.Function) : Except Fault String := do
  let typeCodes ← typeCodes kit f
  let parameterDescriptions ← (descriptions f).tail.mapM fun description =>
    kit.render "excel.register_parameter" [("description", Text.counted description)]
  let parameterList ← kit.parameters "parameter_list" f.parameters
  kit.render "excel.register"
    [("count", toString (fixedArguments + f.parameters.length)),
     ("code_name", Text.counted f.name),
     ("display_name", Text.counted f.name),
     ("parameter_codes", Text.counted typeCodes),
     ("parameter_list", Text.counted parameterList),
     ("category", Text.counted (project.name ++ " - " ++ c.displayName)),
     ("description", Text.counted ((descriptions f).headD "")),
     ("parameter_descriptions", String.join parameterDescriptions)]

/-! ### Bodies -/

/-- The templates of bodies. -/
def bodies : Tag.Table String where
  constructor := "excel.body.constructor"
  member := "excel.body.member"
  enumerationMember := "excel.body.enumeration_member"
  procedure := "excel.body.procedure"

/-- The templates of bodies that loop over a parameter. A constructor never does. -/
def loopBodies : Tag.Table String where
  constructor := "excel.body.constructor"
  member := "excel.body.member_loop"
  enumerationMember := "excel.body.enumeration_member_loop"
  procedure := "excel.body.procedure_loop"

/-- The template of the body of a function. -/
def bodyTemplate (f : Registry.Function) : String :=
  (if f.kind.loopParameter?.isSome then loopBodies else bodies).get f.tag

/-- The code that keeps a function from running while the function wizard is open. -/
def wizardCode (f : Registry.Function) : Except Fault String :=
  if (f.platform? platformName).any (·.calcInWizard) then .ok ""
  else kit.render "excel.wizard_check" []

/-- The code that looks at the trigger of a function. -/
def triggerCode (f : Registry.Function) : Except Fault String :=
  if f.dependencyTrigger then kit.render "excel.trigger_check" [] else .ok ""

/-- The definition of a function. -/
def body (f : Registry.Function) : Except Fault String := do
  let loopCall ← kit.loopCall f
  let className := f.kind.className?.getD ""
  let wizardCheck ← wizardCode kit f
  let triggerCheck ← triggerCode kit f
  kit.render (bodyTemplate f)
    [("name", f.name),
     ("alias", f.qualifiedName),
     ("namespace", project.namespaceObjects),
     ("library_function", f.kind.libraryFunction?.getD ""),
     ("class", className),
     ("object_class", unqualified className),
     ("return_type", ← kit.returnValue "return_type" "" f.returnValue),
     ("parameters", ← kit.parameters "prototype" f.parameters),
     ("wizard_check", wizardCheck),
     ("trigger_check", triggerCheck),
     ("conversions", ← kit.parameters "conversions" f.parameters),
     ("library_call", ← kit.parameters "library_call" f.parameters),
     ("value_type", ← kit.returnValue "value_type" "returnValue" f.returnValue),
     ("return_conversion", ← kit.returnValue "return_conversion" "" f.returnValue),
     ("loop", f.kind.loopParameter?.getD ""),
     ("loop_call", loopCall)]

/-! ### Pages -/

/-- The bodies of a category. -/
def functionsPage (c : Registry.Category) : Page where
  path := "Functions/" ++ c.name ++ ".cpp"
  body := do
    let bodies ← (defined c).mapM (body kit project)
    kit.render "excel.source"
      [("lib_root", project.libRoot), ("category", c.name), ("bodies", Text.lines bodies)]

/-- The registrations of a category. -/
def registerPage (c : Registry.Category) : Page where
  path := "Register/register_" ++ c.name ++ ".cpp"
  body := do
    let registrations ← (registered c).mapM (registration kit project c)
    kit.render "excel.register_category"
      [("category", c.name), ("registrations", Text.lines registrations)]

/-- The calls of the registrations of categories. -/
def registerAllPage (categories : List Registry.Category) : Page where
  path := "Register/register_all.cpp"
  body := kit.render "excel.register_all"
    [("declarations", String.join (categories.map fun c =>
        "extern void register_" ++ c.name ++ "(const XLOPER&);\n")),
     ("calls", String.join (categories.map fun c => "    register_" ++ c.name ++ "(xDll);\n"))]

/-- The pages of a category. -/
def categoryPages (c : Registry.Category) : List Page :=
  (if (defined c).isEmpty then [] else [functionsPage kit project c])
    ++ (if (registered c).isEmpty then [] else [registerPage kit project c])

/-- All pages. -/
def pages (settings : Registration) (r : Registry) : List Page :=
  r.categories.flatMap (categoryPages kit r.project)
    ++ registerAllPage kit (r.categories.filter fun c => !(registered c).isEmpty)
    :: settings.pages kit r

end Bindery.Generator.Excel
