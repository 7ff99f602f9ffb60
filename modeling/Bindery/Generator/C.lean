import Bindery.Generator.C.Rules
import Bindery.Generator.C.Templates
import Bindery.Generator.Page

/-! Generation of C functions.

Every category with functions for C has a header with their prototypes. The functions that are
generated in full have their bodies in a source file of the category. One more header includes those
of all categories. -/
namespace Bindery.Generator.C

/-- The platform in the words of the metadata. -/
def platformName : String := "C"

/-- The functions that a category declares. -/
def declared (c : Registry.Category) : List Registry.Function := c.supporting platformName .manual

/-- The functions that a category defines. -/
def defined (c : Registry.Category) : List Registry.Function := c.supporting platformName .auto

/-! ### Functions -/

/-- The templates of bodies. -/
def bodies : Tag.Table String where
  constructor := "c.body.constructor"
  member := "c.body.member"
  enumerationMember := "c.body.enumeration_member"
  procedure := "c.body.procedure"

/-- The templates of bodies that loop over a parameter. A constructor never does. -/
def loopBodies : Tag.Table String where
  constructor := "c.body.constructor"
  member := "c.body.member_loop"
  enumerationMember := "c.body.enumeration_member_loop"
  procedure := "c.body.procedure_loop"

/-- The template of the body of a function. -/
def bodyTemplate (f : Registry.Function) : String :=
  (if f.kind.loopParameter?.isSome then loopBodies else bodies).get f.tag

variable (kit : Kit) (project : ProjectNames)

/-- The parameters of a function, and those through which it gives its result. -/
def parameterList (f : Registry.Function) : Except Fault String := do
  let parameters ← kit.parameters "prototype" f.parameters
  let result ← kit.returnValue "result" "result" f.returnValue
  return Text.joinNonempty ",\n" [parameters, result]

/-- The declaration of a function. -/
def prototype (f : Registry.Function) : Except Fault String := do
  kit.render "c.prototype" [("name", f.name), ("parameters", ← parameterList kit f)]

/-- The definition of a function. -/
def body (f : Registry.Function) : Except Fault String := do
  let loopCall ← kit.loopCall f
  let className := f.kind.className?.getD ""
  kit.render (bodyTemplate f)
    [("name", f.name),
     ("alias", f.qualifiedName),
     ("namespace", project.namespaceObjects),
     ("library_function", f.kind.libraryFunction?.getD ""),
     ("class", className),
     ("object_class", unqualified className),
     ("parameters", ← parameterList kit f),
     ("conversions", ← kit.parameters "conversions" f.parameters),
     ("library_call", ← kit.parameters "library_call" f.parameters),
     ("return_type", ← kit.returnValue "return_type" "returnValue" f.returnValue),
     ("return_conversion", ← kit.returnValue "return_conversion" "result" f.returnValue),
     ("loop", f.kind.loopParameter?.getD ""),
     ("loop_call", loopCall)]

/-! ### Pages -/

/-- The header of a category. -/
def headerPage (c : Registry.Category) : Page where
  path := c.name ++ ".h"
  body := do
    let prototypes ← (declared c).mapM (prototype kit)
    kit.render "c.header"
      [("guard", "addin_c_" ++ c.name ++ "_h"), ("prototypes", Text.lines prototypes)]

/-- The bodies of a category. -/
def sourcePage (c : Registry.Category) : Page where
  path := c.name ++ ".cpp"
  body := do
    let bodies ← (defined c).mapM (body kit project)
    kit.render "c.source"
      [("lib_root", project.libRoot), ("category", c.name), ("bodies", Text.lines bodies)]

/-- The header that includes the headers of categories. -/
def addinPage (categories : List Registry.Category) : Page where
  path := "addin.h"
  body := kit.render "c.addin"
    [("includes", String.join (categories.map fun c => "#include \"" ++ c.name ++ ".h\"\n"))]

/-- The pages of a category. -/
def categoryPages (c : Registry.Category) : List Page :=
  (if (declared c).isEmpty then [] else [headerPage kit c])
    ++ (if (defined c).isEmpty then [] else [sourcePage kit project c])

/-- All pages. -/
def pages (r : Registry) : List Page :=
  r.categories.flatMap (categoryPages kit r.project)
    ++ [addinPage kit (r.categories.filter fun c => !(declared c).isEmpty)]

end Bindery.Generator.C
