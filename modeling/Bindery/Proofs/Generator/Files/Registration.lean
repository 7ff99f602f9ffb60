import Bindery.Proofs.Generator.Files.Creators

/-! The files that register classes.

The files that there are, and all that stands in them, are made from the constructors of the
categories and from the base, if there is one (`files`). -/
namespace Bindery.Generator.Registration
variable (settings : Registration) (project : ProjectNames)

/-! ### Texts -/

/-- What the guards of headers begin with. -/
def guard : String := "addin_" ++ Text.lowerText project.name

/-- The header of a category. -/
def headerText (c : Registry.Category) : String := Text.lines [
  "#ifndef " ++ guard project ++ "_serialization_" ++ c.name ++ "_hpp",
  "#define " ++ guard project ++ "_serialization_" ++ c.name ++ "_hpp",
  "",
  "#include <boost/archive/xml_iarchive.hpp>",
  "#include <boost/archive/xml_oarchive.hpp>",
  "",
  "namespace " ++ settings.addinNamespace ++ " \x7b",
  "",
  "    void register_" ++ c.name ++ "(boost::archive::xml_oarchive &ar);",
  "    void register_" ++ c.name ++ "(boost::archive::xml_iarchive &ar);",
  "",
  "\x7d // namespace " ++ settings.addinNamespace,
  "",
  "#endif",
  ""]

/-- The registration of a class. -/
def typeText (f : Registry.Function) : String := Text.lines [
  "        ar.register_type<" ++ project.namespaceObjects ++ "::ValueObjects::" ++ f.name ++ ">();",
  ""]

/-- The source file of a category with the registrations of its classes. -/
def sourceText (c : Registry.Category) : String := Text.lines [
  "#include <" ++ settings.includeDir ++ "/Serialization/serialization_" ++ c.name ++ ".hpp>",
  "#include <" ++ project.libRoot ++ "/ValueObjects/vo_" ++ c.name ++ ".hpp>",
  "#include <boost/serialization/shared_ptr.hpp>",
  "",
  "namespace " ++ settings.addinNamespace ++ " \x7b",
  "",
  "    template<class Archive>",
  "    void tpl_register_" ++ c.name ++ "(Archive &ar) \x7b",
  "",
  String.join (c.constructors.map (typeText project)) ++ "    \x7d",
  "",
  "    void register_" ++ c.name ++ "(boost::archive::xml_oarchive &ar) \x7b",
  "        tpl_register_" ++ c.name ++ "(ar);",
  "    \x7d",
  "",
  "    void register_" ++ c.name ++ "(boost::archive::xml_iarchive &ar) \x7b",
  "        tpl_register_" ++ c.name ++ "(ar);",
  "    \x7d",
  "",
  "\x7d // namespace " ++ settings.addinNamespace,
  ""]

/-- A header in the header of all categories. -/
def includeText (c : Registry.Category) : String := Text.lines [
  "#include <" ++ settings.includeDir ++ "/Serialization/serialization_" ++ c.name ++ ".hpp>",
  ""]

/-- The header that includes the headers of some categories. -/
def allText (categories : List Registry.Category) : String := Text.lines [
  "#ifndef " ++ guard project ++ "_serialization_all_hpp",
  "#define " ++ guard project ++ "_serialization_all_hpp",
  "",
  String.join (categories.map (includeText settings)),
  "#endif",
  ""]

/-- The call of the registrations of a category. -/
def categoryText (c : Registry.Category) : String := Text.lines [
  "        // " ++ c.displayName,
  "",
  "        register_" ++ c.name ++ "(ar);",
  "",
  ""]

/-- The call of what the base registers, if there is one. -/
def baseText (call : String) : String :=
  match settings.base with
  | some base => Text.lines ["        " ++ base ++ call, ""]
  | none => ""

/-- The registrations of an addin, with those of some categories. -/
def factoryText (categories : List Registry.Category) : String := Text.lines [
  "#include <" ++ settings.includeDir ++ "/Serialization/serialization_all.hpp>",
  "#include <boost/archive/xml_iarchive.hpp>",
  "#include <boost/archive/xml_oarchive.hpp>",
  "",
  "namespace " ++ settings.addinNamespace ++ " \x7b",
  "",
  "    template<class Archive>",
  "    void tpl_register_classes(Archive &ar) \x7b",
  "",
  String.join (categories.map categoryText) ++ "    \x7d",
  "",
  "    void register_out(boost::archive::xml_oarchive &oa) \x7b",
  baseText settings "::register_out(oa);" ++ "        tpl_register_classes(oa);",
  "    \x7d",
  "",
  "    void register_in(boost::archive::xml_iarchive &ia) \x7b",
  baseText settings "::register_in(ia);" ++ "        tpl_register_classes(ia);",
  "    \x7d",
  "",
  "\x7d // namespace " ++ settings.addinNamespace,
  ""]

/-! ### Files -/

/-- The files of a registry. -/
def Files (kit : Kit) (r : Registry) : Prop :=
  pages kit settings r = r.categories.flatMap (fun c =>
      if c.constructors.isEmpty then [] else
        [⟨"Serialization/serialization_" ++ c.name ++ ".hpp",
          .ok (headerText settings r.project c)⟩,
         ⟨"Serialization/serialization_" ++ c.name ++ ".cpp",
          .ok (sourceText settings r.project c)⟩])
    ++ [⟨"Serialization/serialization_all.hpp",
          .ok (allText settings r.project r.constructing)⟩,
        ⟨"Serialization/serializationfactory.cpp", .ok (factoryText settings r.constructing)⟩]

section Supplied
variable {kit : Kit} (h : kit.Supplied .excel)
include h

/-- A template of registrations is rendered to what its lines are filled to. -/
theorem render_lines {name source : String} {lines texts : List String} {css : List (List Char)}
    {bindings : Bindings} (hsource : (name, source) ∈ templates) (hlines : source = Text.lines lines)
    (hbound : (name, bindings.map Prod.fst) ∈ words) (hspelled : Text.Spelled lines css)
    (htexts : List.Forall₂ (fun cs text => Template.fill? bindings.value cs = some text)
      css texts) : kit.render name bindings = .ok (Text.lines texts) :=
  h.render_lines (List.mem_append_right _ hsource) hlines (List.mem_append_right _ hbound)
    hspelled htexts

theorem headerPage_text (c : Registry.Category) : headerPage kit settings project c =
    ⟨"Serialization/serialization_" ++ c.name ++ ".hpp",
      .ok (headerText settings project c)⟩ := by
  have hsource : ("registration.header", header) ∈ templates := by simp [templates]
  exact congrArg (Page.mk _) (render_lines h hsource rfl (by simp [words, pageWords, bindings])
    (by repeat constructor) (by repeat constructor))

theorem sourcePage_text (c : Registry.Category) : sourcePage kit settings project c =
    ⟨"Serialization/serialization_" ++ c.name ++ ".cpp",
      .ok (sourceText settings project c)⟩ := by
  have htype (f : Registry.Function) : kit.render "registration.register_type"
      (settings.bindings project ++ [("name", f.name)]) = .ok (typeText project f) := by
    have hsource : ("registration.register_type", registerType) ∈ templates := by simp [templates]
    exact render_lines h hsource rfl (by simp [words, pageWords, bindings])
      (by repeat constructor) (by repeat constructor)
  have hsource : ("registration.source", source) ∈ templates := by simp [templates]
  refine congrArg (Page.mk _) (bind_eq_ok.2 ⟨_, mapM_eq_map fun f _ => htype f, ?_⟩)
  exact render_lines h hsource rfl (by simp [words, pageWords, bindings])
    (by repeat constructor) (by repeat constructor)

theorem allPage_text (categories : List Registry.Category) :
    allPage kit settings project categories =
      ⟨"Serialization/serialization_all.hpp", .ok (allText settings project categories)⟩ := by
  have hinclude (c : Registry.Category) : kit.render "registration.include"
      (settings.bindings project ++ [("category", c.name)]) = .ok (includeText settings c) := by
    have hsource : ("registration.include", includeLine) ∈ templates := by simp [templates]
    exact render_lines h hsource rfl (by simp [words, pageWords, bindings])
      (by repeat constructor) (by repeat constructor)
  have hsource : ("registration.all", allHeader) ∈ templates := by simp [templates]
  refine congrArg (Page.mk _) (bind_eq_ok.2 ⟨_, mapM_eq_map fun c _ => hinclude c, ?_⟩)
  exact render_lines h hsource rfl (by simp [words, pageWords, bindings])
    (by repeat constructor) (by repeat constructor)

/-- A template for the base is rendered to a call, if there is a base. -/
theorem baseCall_text {name source call : String} {lines : List String} {css : List (List Char)}
    (hsource : (name, source) ∈ templates) (hlines : source = Text.lines lines)
    (hbound : (name, ["base"]) ∈ words) (hspelled : Text.Spelled lines css)
    (htexts : ∀ base, List.Forall₂
      (fun cs text => Template.fill? (Bindings.value [("base", base)]) cs = some text) css
      ["        " ++ base ++ call, ""]) :
    settings.baseCall kit name = .ok (baseText settings call) := by
  rw [baseCall, baseText]
  cases settings.base with
  | none => rfl
  | some base => exact render_lines h hsource hlines hbound hspelled (htexts base)

theorem factoryPage_text (categories : List Registry.Category) :
    factoryPage kit settings project categories =
      ⟨"Serialization/serializationfactory.cpp", .ok (factoryText settings categories)⟩ := by
  have hcategory (c : Registry.Category) : kit.render "registration.register_category"
      [("display_name", c.displayName), ("category", c.name)] = .ok (categoryText c) := by
    have hsource : ("registration.register_category", registerCategory) ∈ templates := by
      simp [templates]
    exact render_lines h hsource rfl (by simp [words])
      (by repeat constructor) (by repeat constructor)
  have hout : settings.baseCall kit "registration.base_out" =
      .ok (baseText settings "::register_out(oa);") := by
    have hsource : ("registration.base_out", baseOut) ∈ templates := by simp [templates]
    exact baseCall_text settings h hsource rfl (by simp [words])
      (by repeat constructor) fun _ => by repeat constructor
  have hin : settings.baseCall kit "registration.base_in" =
      .ok (baseText settings "::register_in(ia);") := by
    have hsource : ("registration.base_in", baseIn) ∈ templates := by simp [templates]
    exact baseCall_text settings h hsource rfl (by simp [words])
      (by repeat constructor) fun _ => by repeat constructor
  have hsource : ("registration.factory", factory) ∈ templates := by simp [templates]
  refine congrArg (Page.mk _) (bind_eq_ok.2 ⟨_, mapM_eq_map fun c _ => hcategory c,
    bind_eq_ok.2 ⟨_, hout, bind_eq_ok.2 ⟨_, hin, ?_⟩⟩⟩)
  exact render_lines h hsource rfl (by simp [words, pageWords, bindings])
    (by repeat constructor) (by repeat constructor)

/-- The files of a registry are made so. -/
theorem files (r : Registry) : Files settings kit r := by
  rw [Files, pages, allPage_text settings r.project h, factoryPage_text settings r.project h]
  refine congrArg (· ++ _) (congrArg (List.flatMap · _) (funext fun c => ?_))
  rw [categoryPages, headerPage_text settings r.project h, sourcePage_text settings r.project h]

end Supplied
end Bindery.Generator.Registration
