import Bindery.Proofs.Generator.Supplied

/-! The files of value object classes.

The files that there are, and all that stands in them around the members of the classes, are made
from the constructors of the categories (`exists_files`). -/
namespace Bindery.Generator.ValueObjects
variable (project : ProjectNames)

/-! ### Texts -/

/-- What the declaration of a class begins with. -/
def declarationOpening (f : Registry.Function) : String :=
  "    class " ++ f.name ++ " : public ObjectHandler::ValueObject \x7b"

/-- What the definition of a class begins with. -/
def definitionOpening (f : Registry.Function) : String :=
  "    const char* " ++ f.name ++ "::mPropertyNames[] = \x7b"

/-- The header of a category with some classes. -/
def headerText (c : Registry.Category) (classes : List String) : String := Text.lines [
  "#ifndef " ++ project.libRoot ++ "_vo_" ++ c.name ++ "_hpp",
  "#define " ++ project.libRoot ++ "_vo_" ++ c.name ++ "_hpp",
  "",
  "#include <oh/valueobject.hpp>",
  "#include <boost/serialization/vector.hpp>",
  "#include <set>",
  "#include <string>",
  "#include <vector>",
  "",
  "namespace " ++ project.namespaceObjects ++ " \x7b namespace ValueObjects \x7b",
  "",
  Text.lines classes,
  "\x7d \x7d",
  "",
  "#endif",
  ""]

/-- The source file of a category with some definitions of classes. -/
def sourceText (c : Registry.Category) (definitions : List String) : String := Text.lines [
  "#include <" ++ project.libRoot ++ "/ValueObjects/vo_" ++ c.name ++ ".hpp>",
  "#include <oh/conversions/convert2.hpp>",
  "#include <boost/algorithm/string/predicate.hpp>",
  "",
  "namespace " ++ project.namespaceObjects ++ " \x7b namespace ValueObjects \x7b",
  "",
  Text.lines definitions,
  "\x7d \x7d",
  ""]

/-! ### Files -/

/-- The files of a registry, and how they are made from the rest of the declarations and the
definitions of its classes. -/
structure Files (kit : Kit) (r : Registry) (declared defined : Registry.Function → String) :
    Prop where
  declaration : ∀ f, kit.constructorCode r.project "vo.declaration" declarationGroups f =
    .ok (declarationOpening f ++ declared f)
  definition : ∀ f, kit.constructorCode r.project "vo.definition" definitionGroups f =
    .ok (definitionOpening f ++ defined f)
  pages : pages kit r = r.categories.flatMap fun c =>
    if c.constructors.isEmpty then [] else
      [⟨"vo_" ++ c.name ++ ".hpp",
        .ok (headerText r.project c
          (c.constructors.map fun f => declarationOpening f ++ declared f))⟩,
       ⟨"vo_" ++ c.name ++ ".cpp",
        .ok (sourceText r.project c
          (c.constructors.map fun f => definitionOpening f ++ defined f))⟩]

section Supplied
variable {kit : Kit} (h : kit.Supplied .valueObjects)
include h

theorem exists_declaration_eq (f : Registry.Function) :
    ∃ rest, kit.constructorCode project "vo.declaration" declarationGroups f =
      .ok (declarationOpening f ++ rest) := by
  have hsource : ("vo.declaration", declaration) ∈ templates := by simp [templates]
  exact h.exists_constructorCode_eq hsource rfl (fun _ => Template.filled?_chars rfl rfl)
    (exists_declaration h.serves project f)

theorem exists_definition_eq (f : Registry.Function) :
    ∃ rest, kit.constructorCode project "vo.definition" definitionGroups f =
      .ok (definitionOpening f ++ rest) := by
  have hsource : ("vo.definition", definition) ∈ templates := by simp [templates]
  exact h.exists_constructorCode_eq hsource rfl (fun _ => Template.filled?_chars rfl rfl)
    (exists_definition h.serves project f)

theorem headerPage_text {classes : Registry.Function → String}
    (hclass : ∀ f, kit.constructorCode project "vo.declaration" declarationGroups f =
      .ok (classes f)) (c : Registry.Category) : headerPage kit project c =
    ⟨"vo_" ++ c.name ++ ".hpp", .ok (headerText project c (c.constructors.map classes))⟩ := by
  have hsource : ("vo.header", header) ∈ templates := by simp [templates]
  refine congrArg (Page.mk _) (bind_eq_ok.2 ⟨_, mapM_eq_map fun f _ => hclass f, ?_⟩)
  exact h.render_lines hsource rfl
    (by simp [Generator.words, words, Kit.projectWords, Kit.projectBindings])
    (by repeat constructor) (by repeat constructor)

theorem sourcePage_text {definitions : Registry.Function → String}
    (hdefinition : ∀ f, kit.constructorCode project "vo.definition" definitionGroups f =
      .ok (definitions f)) (c : Registry.Category) : sourcePage kit project c =
    ⟨"vo_" ++ c.name ++ ".cpp", .ok (sourceText project c (c.constructors.map definitions))⟩ := by
  have hsource : ("vo.source", source) ∈ templates := by simp [templates]
  refine congrArg (Page.mk _) (bind_eq_ok.2 ⟨_, mapM_eq_map fun f _ => hdefinition f, ?_⟩)
  exact h.render_lines hsource rfl
    (by simp [Generator.words, words, Kit.projectWords, Kit.projectBindings])
    (by repeat constructor) (by repeat constructor)

/-- The files of a registry are made so. -/
theorem exists_files (r : Registry) : ∃ declared defined, Files kit r declared defined := by
  choose declared hdeclaration using exists_declaration_eq r.project h
  choose defined hdefinition using exists_definition_eq r.project h
  refine ⟨declared, defined, hdeclaration, hdefinition, ?_⟩
  rw [ValueObjects.pages]
  refine congrArg (List.flatMap · _) (funext fun c => ?_)
  rw [categoryPages, headerPage_text r.project h hdeclaration,
    sourcePage_text r.project h hdefinition]

end Supplied
end Bindery.Generator.ValueObjects
