import Bindery.Generator.Constructor
import Bindery.Generator.Page
import Bindery.Generator.Serialization.Rules
import Bindery.Generator.Serialization.Templates

/-! Generation of creators, the functions that rebuild objects from their value objects.

Every category with constructors has a header and a source file of creators. A factory knows the
creators of all categories. -/
namespace Bindery.Generator.Serialization
variable (kit : Kit) (project : ProjectNames)

/-- The declarations of the creators of a category. -/
def headerPage (c : Registry.Category) : Page where
  path := "create_" ++ c.name ++ ".hpp"
  body := do
    let declarations ← c.constructors.mapM fun f =>
      kit.render "serialization.declaration" [("name", f.name)]
    kit.render "serialization.header"
      (Kit.projectBindings project
        ++ [("category", c.name), ("declarations", Text.lines declarations)])

/-- The groups of rules that the code of a creator takes. -/
def creatorGroups : List (String × String) :=
  [("conversions", "conversions"), ("library_call", "library_call")]

/-- The creators of a category. -/
def sourcePage (c : Registry.Category) : Page where
  path := "create_" ++ c.name ++ ".cpp"
  body := do
    let creators ← c.constructors.mapM
      (kit.constructorCode project "serialization.creator" creatorGroups)
    kit.render "serialization.source"
      (Kit.projectBindings project
        ++ [("category", c.name),
            ("includes", String.join (c.serializationIncludes.map fun path =>
              "#include <" ++ path ++ ">\n")),
            ("creators", Text.lines creators)])

/-- The header that includes the headers of categories. -/
def allPage (categories : List Registry.Category) : Page where
  path := "create_all.hpp"
  body := kit.render "serialization.all"
    (Kit.projectBindings project
      ++ [("includes", String.join (categories.map fun c =>
            "#include <" ++ project.libRoot ++ "/Serialization/create_" ++ c.name ++ ".hpp>\n"))])

/-- The registrations of the creators of a category, under its name. -/
def categoryRegistrations (c : Registry.Category) : Except Fault String := do
  let title ← kit.render "serialization.register_category" [("display_name", c.displayName)]
  let registrations ← c.constructors.mapM fun f =>
    kit.render "serialization.register" [("name", f.name)]
  return title ++ String.join registrations

/-- The factory. -/
def factoryPage (categories : List Registry.Category) : Page where
  path := "serializationfactory.cpp"
  body := do
    let registrations ← categories.mapM (categoryRegistrations kit)
    kit.render "serialization.factory"
      (Kit.projectBindings project ++ [("registrations", String.join registrations)])

/-- The pages of a category. -/
def categoryPages (c : Registry.Category) : List Page :=
  if c.constructors.isEmpty then [] else [headerPage kit project c, sourcePage kit project c]

/-- All pages. -/
def pages (r : Registry) : List Page :=
  let registered := r.categories.filter fun c => !c.constructors.isEmpty
  r.categories.flatMap (categoryPages kit r.project)
    ++ [allPage kit r.project registered, factoryPage kit r.project registered]

end Bindery.Generator.Serialization
