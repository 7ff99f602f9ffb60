import Bindery.Generator.Page
import Bindery.Generator.Registration.Templates
import Bindery.Text.Case

/-! Registration of value object classes.

An addin registers the classes of all constructors with the archives that it reads and writes. What
a base namespace registers comes first. -/
namespace Bindery.Generator

/-- The addin that registers. -/
structure Registration where
  /-- The directory under which the addin's sources are included. -/
  includeDir : String
  /-- The namespace of the addin's own code. -/
  addinNamespace : String
  /-- The namespace whose registrations come first. -/
  base : Option String := none
deriving DecidableEq, Repr

namespace Registration
variable (kit : Kit) (settings : Registration) (project : ProjectNames)

/-- What every template may speak of. -/
def bindings : Bindings :=
  [("guard", "addin_" ++ Text.lowerText project.name),
   ("lib_root", project.libRoot),
   ("namespace", project.namespaceObjects),
   ("addin_namespace", settings.addinNamespace),
   ("include_dir", settings.includeDir)]

/-- The declaration of the registrations of a category. -/
def headerPage (c : Registry.Category) : Page where
  path := "Serialization/serialization_" ++ c.name ++ ".hpp"
  body := kit.render "registration.header" (settings.bindings project ++ [("category", c.name)])

/-- The registrations of a category. -/
def sourcePage (c : Registry.Category) : Page where
  path := "Serialization/serialization_" ++ c.name ++ ".cpp"
  body := do
    let registrations ← c.constructors.mapM fun f =>
      kit.render "registration.register_type" (settings.bindings project ++ [("name", f.name)])
    kit.render "registration.source"
      (settings.bindings project
        ++ [("category", c.name), ("registrations", String.join registrations)])

/-- The header that includes the headers of categories. -/
def allPage (categories : List Registry.Category) : Page where
  path := "Serialization/serialization_all.hpp"
  body := do
    let includes ← categories.mapM fun c =>
      kit.render "registration.include" (settings.bindings project ++ [("category", c.name)])
    kit.render "registration.all"
      (settings.bindings project ++ [("includes", String.join includes)])

/-- The call of what the base registers. -/
def baseCall (template : String) : Except Fault String :=
  match settings.base with
  | some base => kit.render template [("base", base)]
  | none => .ok ""

/-- The registrations of an addin. -/
def factoryPage (categories : List Registry.Category) : Page where
  path := "Serialization/serializationfactory.cpp"
  body := do
    let registrations ← categories.mapM fun c =>
      kit.render "registration.register_category"
        [("display_name", c.displayName), ("category", c.name)]
    let baseOut ← settings.baseCall kit "registration.base_out"
    let baseIn ← settings.baseCall kit "registration.base_in"
    kit.render "registration.factory"
      (settings.bindings project
        ++ [("registrations", String.join registrations), ("base_out", baseOut),
            ("base_in", baseIn)])

/-- The pages of a category. -/
def categoryPages (c : Registry.Category) : List Page :=
  if c.constructors.isEmpty then []
  else [headerPage kit settings project c, sourcePage kit settings project c]

/-- All pages. -/
def pages (r : Registry) : List Page :=
  let registered := r.categories.filter fun c => !c.constructors.isEmpty
  r.categories.flatMap (categoryPages kit settings r.project)
    ++ [allPage kit settings r.project registered, factoryPage kit settings r.project registered]

end Registration
end Bindery.Generator
