import Bindery.Generator.Constructor
import Bindery.Generator.Page
import Bindery.Generator.ValueObjects.Rules
import Bindery.Generator.ValueObjects.Templates

/-! Generation of value object classes.

A value object keeps the arguments that an object was constructed with. Every category with
constructors has a header and a source file with a class for each of them. -/
namespace Bindery.Generator.ValueObjects
variable (kit : Kit) (project : ProjectNames)

/-- The groups of rules that the declaration of a class takes. -/
def declarationGroups : List (String × String) :=
  [("parameters", "constructor_parameters"), ("members", "members"), ("serialize", "serialize")]

/-- The declarations of a category. -/
def headerPage (c : Registry.Category) : Page where
  path := "vo_" ++ c.name ++ ".hpp"
  body := do
    let classes ← c.constructors.mapM
      (kit.constructorCode project "vo.declaration" declarationGroups)
    kit.render "vo.header"
      (Kit.projectBindings project ++ [("category", c.name), ("classes", Text.lines classes)])

/-- The groups of rules that the definition of a class takes. -/
def definitionGroups : List (String × String) :=
  [("property_names", "property_names"), ("get_property", "get_property"),
   ("set_property", "set_property"), ("definition_parameters", "definition_parameters"),
   ("initializers", "initializers")]

/-- The definitions of a category. -/
def sourcePage (c : Registry.Category) : Page where
  path := "vo_" ++ c.name ++ ".cpp"
  body := do
    let definitions ← c.constructors.mapM
      (kit.constructorCode project "vo.definition" definitionGroups)
    kit.render "vo.source"
      (Kit.projectBindings project
        ++ [("category", c.name), ("definitions", Text.lines definitions)])

/-- The pages of a category. -/
def categoryPages (c : Registry.Category) : List Page :=
  if c.constructors.isEmpty then [] else [headerPage kit project c, sourcePage kit project c]

/-- All pages. -/
def pages (r : Registry) : List Page := r.categories.flatMap (categoryPages kit r.project)

end Bindery.Generator.ValueObjects
