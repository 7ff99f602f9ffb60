import Bindery.Generator.Kit

/-! Code for constructors, whose objects can all be kept as value objects. -/
namespace Bindery.Generator

namespace Kit
variable (kit : Kit) (project : ProjectNames)

/-- What every template for constructors may speak of. -/
def projectBindings : Bindings :=
  [("lib_root", project.libRoot), ("namespace", project.namespaceObjects)]

/-- A template for a constructor. Every group of rules gives the code for the parameters, under the
name that stands before it. -/
def constructorCode (template : String) (groups : List (String × String))
    (f : Registry.Function) : Except Fault String := do
  let codes ← groups.mapM fun (name, group) => (kit.parameters group f.parameters).map (name, ·)
  kit.render template
    (projectBindings project
      ++ [("name", f.name), ("library_function", f.kind.libraryFunction?.getD "")] ++ codes)

end Kit
end Bindery.Generator
