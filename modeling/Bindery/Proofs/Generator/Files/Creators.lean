import Bindery.Proofs.Generator.Supplied

/-! The files of creators.

The files that there are, and all that stands in them around the code of the creators, are made from
the constructors of the categories (`exists_files`). -/
namespace Bindery

/-- The categories with constructors. -/
def Registry.constructing (r : Registry) : List Registry.Category :=
  r.categories.filter fun c => !c.constructors.isEmpty

namespace Generator.Serialization
variable (project : ProjectNames)

/-! ### Texts -/

/-- The declaration of a creator. -/
def declarationText (f : Registry.Function) : String := Text.lines [
  "    boost::shared_ptr<ObjectHandler::Object> create_" ++ f.name ++ "(",
  "        const boost::shared_ptr<ObjectHandler::ValueObject>&);",
  ""]

/-- What a creator begins with. -/
def opening (f : Registry.Function) : String :=
  "boost::shared_ptr<ObjectHandler::Object> " ++ project.namespaceObjects ++ "::create_" ++ f.name
    ++ "("

/-- The header of a category with some declarations. -/
def headerText (c : Registry.Category) (declarations : List String) : String := Text.lines [
  "#ifndef " ++ project.libRoot ++ "_create_" ++ c.name ++ "_hpp",
  "#define " ++ project.libRoot ++ "_create_" ++ c.name ++ "_hpp",
  "",
  "#include <oh/object.hpp>",
  "#include <oh/valueobject.hpp>",
  "#include <boost/shared_ptr.hpp>",
  "",
  "namespace " ++ project.namespaceObjects ++ " \x7b",
  "",
  Text.lines declarations,
  "\x7d // namespace " ++ project.namespaceObjects,
  "",
  "#endif",
  ""]

/-- The source file of a category with some creators. -/
def sourceText (c : Registry.Category) (creators : List String) : String := Text.lines [
  "#include <" ++ project.libRoot ++ "/Serialization/create_" ++ c.name ++ ".hpp>",
  String.join (c.serializationIncludes.map fun path => "#include <" ++ path ++ ">\n")
    ++ "#include <" ++ project.libRoot ++ "/ValueObjects/vo_" ++ c.name ++ ".hpp>",
  "",
  "#include <oh/conversions/convert2.hpp>",
  "",
  Text.lines creators,
  ""]

/-- The header that includes the headers of some categories. -/
def allText (categories : List Registry.Category) : String := Text.lines [
  "#ifndef " ++ project.libRoot ++ "_create_all_hpp",
  "#define " ++ project.libRoot ++ "_create_all_hpp",
  "",
  String.join (categories.map fun c =>
    "#include <" ++ project.libRoot ++ "/Serialization/create_" ++ c.name ++ ".hpp>\n"),
  "#endif",
  ""]

/-- A creator in the factory. -/
def registrationText (f : Registry.Function) : String := Text.lines [
  "        registerCreator(\"" ++ f.name ++ "\", create_" ++ f.name ++ ");",
  ""]

/-- The creators of a category in the factory, under its name. -/
def categoryText (c : Registry.Category) : String :=
  Text.lines ["", "        // " ++ c.displayName, "", ""]
    ++ String.join (c.constructors.map registrationText)

/-- The factory with the creators of some categories. -/
def factoryText (categories : List Registry.Category) : String := Text.lines [
  "#include <" ++ project.libRoot ++ "/Serialization/serializationfactory.hpp>",
  "#include <" ++ project.libRoot ++ "/Serialization/create_all.hpp>",
  "",
  "namespace " ++ project.namespaceObjects ++ " \x7b",
  "",
  "    SerializationFactory::SerializationFactory() \x7b",
  String.join (categories.map categoryText) ++ "    \x7d",
  "",
  "\x7d // namespace " ++ project.namespaceObjects,
  ""]

/-! ### Files -/

/-- The files of a registry, and how they are made from the rest of its creators. -/
structure Files (kit : Kit) (r : Registry) (rest : Registry.Function → String) : Prop where
  creator : ∀ f, kit.constructorCode r.project "serialization.creator" creatorGroups f =
    .ok (opening r.project f ++ rest f)
  pages : pages kit r = r.categories.flatMap (fun c =>
      if c.constructors.isEmpty then [] else
        [⟨"create_" ++ c.name ++ ".hpp",
          .ok (headerText r.project c (c.constructors.map declarationText))⟩,
         ⟨"create_" ++ c.name ++ ".cpp",
          .ok (sourceText r.project c
            (c.constructors.map fun f => opening r.project f ++ rest f))⟩])
    ++ [⟨"create_all.hpp", .ok (allText r.project r.constructing)⟩,
        ⟨"serializationfactory.cpp", .ok (factoryText r.project r.constructing)⟩]

section Supplied
variable {kit : Kit} (h : kit.Supplied .serialization)
include h

theorem exists_creator_eq (f : Registry.Function) :
    ∃ rest, kit.constructorCode project "serialization.creator" creatorGroups f =
      .ok (opening project f ++ rest) := by
  have hsource : ("serialization.creator", creator) ∈ templates := by simp [templates]
  exact h.exists_constructorCode_eq hsource rfl (fun _ => Template.filled?_chars rfl rfl)
    (exists_creator h.serves project f)

theorem headerPage_text (c : Registry.Category) : headerPage kit project c =
    ⟨"create_" ++ c.name ++ ".hpp",
      .ok (headerText project c (c.constructors.map declarationText))⟩ := by
  have hdeclaration (f : Registry.Function) :
      kit.render "serialization.declaration" [("name", f.name)] = .ok (declarationText f) := by
    have hsource : ("serialization.declaration", declaration) ∈ templates := by simp [templates]
    exact h.render_lines hsource rfl (by simp [Generator.words, words])
      (by repeat constructor) (by repeat constructor)
  have hsource : ("serialization.header", header) ∈ templates := by simp [templates]
  refine congrArg (Page.mk _) (bind_eq_ok.2 ⟨_, mapM_eq_map fun f _ => hdeclaration f, ?_⟩)
  exact h.render_lines hsource rfl
    (by simp [Generator.words, words, Kit.projectWords, Kit.projectBindings])
    (by repeat constructor) (by repeat constructor)

theorem sourcePage_text {creators : Registry.Function → String}
    (hcreator : ∀ f, kit.constructorCode project "serialization.creator" creatorGroups f =
      .ok (creators f)) (c : Registry.Category) : sourcePage kit project c =
    ⟨"create_" ++ c.name ++ ".cpp",
      .ok (sourceText project c (c.constructors.map creators))⟩ := by
  have hsource : ("serialization.source", source) ∈ templates := by simp [templates]
  refine congrArg (Page.mk _) (bind_eq_ok.2 ⟨_, mapM_eq_map fun f _ => hcreator f, ?_⟩)
  exact h.render_lines hsource rfl
    (by simp [Generator.words, words, Kit.projectWords, Kit.projectBindings])
    (by repeat constructor) (by repeat constructor)

theorem allPage_text (categories : List Registry.Category) : allPage kit project categories =
    ⟨"create_all.hpp", .ok (allText project categories)⟩ := by
  have hsource : ("serialization.all", allHeader) ∈ templates := by simp [templates]
  exact congrArg (Page.mk _) (h.render_lines hsource rfl
    (by simp [Generator.words, words, Kit.projectWords, Kit.projectBindings])
    (by repeat constructor) (by repeat constructor))

/-- The creators of a category are registered under its name. -/
theorem categoryRegistrations_text (c : Registry.Category) :
    categoryRegistrations kit c = .ok (categoryText c) := by
  have htitle : kit.render "serialization.register_category" [("display_name", c.displayName)] =
      .ok (Text.lines ["", "        // " ++ c.displayName, "", ""]) := by
    have hsource : ("serialization.register_category", registerCategory) ∈ templates := by
      simp [templates]
    exact h.render_lines hsource rfl (by simp [Generator.words, words])
      (by repeat constructor) (by repeat constructor)
  have hregistration (f : Registry.Function) :
      kit.render "serialization.register" [("name", f.name)] = .ok (registrationText f) := by
    have hsource : ("serialization.register", registerCreator) ∈ templates := by simp [templates]
    exact h.render_lines hsource rfl (by simp [Generator.words, words])
      (by repeat constructor) (by repeat constructor)
  exact bind_eq_ok.2 ⟨_, htitle, bind_eq_ok.2 ⟨_, mapM_eq_map fun f _ => hregistration f, rfl⟩⟩

theorem factoryPage_text (categories : List Registry.Category) :
    factoryPage kit project categories =
      ⟨"serializationfactory.cpp", .ok (factoryText project categories)⟩ := by
  have hsource : ("serialization.factory", factory) ∈ templates := by simp [templates]
  refine congrArg (Page.mk _)
    (bind_eq_ok.2 ⟨_, mapM_eq_map fun c _ => categoryRegistrations_text h c, ?_⟩)
  exact h.render_lines hsource rfl
    (by simp [Generator.words, words, Kit.projectWords, Kit.projectBindings])
    (by repeat constructor) (by repeat constructor)

/-- The files of a registry are made so. -/
theorem exists_files (r : Registry) : ∃ rest, Files kit r rest := by
  choose rest hcreator using exists_creator_eq r.project h
  refine ⟨rest, hcreator, ?_⟩
  rw [Serialization.pages, allPage_text r.project h, factoryPage_text r.project h]
  refine congrArg (· ++ _) (congrArg (List.flatMap · _) (funext fun c => ?_))
  rw [categoryPages, headerPage_text r.project h, sourcePage_text r.project h hcreator]

end Supplied
end Generator.Serialization
end Bindery
