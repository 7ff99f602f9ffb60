import Bindery.Proofs.Generator.Supplied
import Bindery.Proofs.Generator.Worksheet.Agreement

/-! The files of worksheet functions.

The files that there are, and all that stands in them around the definitions and the registrations of
the functions, are made from the functions that are defined and those that are registered
(`exists_files`). -/
namespace Bindery.Generator.Excel

/-! ### Texts -/

/-- The source file of a category with some definitions. -/
def sourceText (project : ProjectNames) (c : Registry.Category) (bodies : List String) : String :=
  Text.lines [
    "#include <" ++ project.libRoot ++ "/" ++ c.name ++ ".hpp>",
    "#include <ohxl/objecthandlerxl.hpp>",
    "#include <ohxl/functioncall.hpp>",
    "#include <ohxl/conversions/all.hpp>",
    "#include <xlsdk/xlsdkdefines.hpp>",
    "",
    Text.lines bodies]

/-- The source file of a category with some registrations. -/
def registerText (c : Registry.Category) (registrations : List String) : String := Text.lines [
  "#include <xlsdk/xlsdkdefines.hpp>",
  "",
  "void register_" ++ c.name ++ "(const XLOPER &xDll) \x7b",
  "",
  Text.lines registrations ++ "\x7d",
  ""]

/-- The source file that declares and calls the registrations of some categories. -/
def registerAllText (categories : List Registry.Category) : String := Text.lines [
  "#include <xlsdk/xlsdkdefines.hpp>",
  "",
  String.join (categories.map fun c => "extern void register_" ++ c.name ++ "(const XLOPER&);\n"),
  "void registerFunctions(const XLOPER &xDll) \x7b",
  "",
  String.join (categories.map fun c => "    register_" ++ c.name ++ "(xDll);\n") ++ "\x7d",
  ""]

/-! ### Files -/

/-- The files of a registry, and how they are made from the definitions of its functions and the
calls that register them. -/
structure Files (kit : Kit) (settings : Registration) (r : Registry)
    (bodies : Registry.Function → String) (calls : Registry.Category → Registry.Function → String) :
    Prop where
  body : ∀ f, body kit r.project f = .ok (bodies f)
  registration : ∀ c f, registration kit r.project c f = .ok ("    Excel(" ++ calls c f)
  call : ∀ c f, Text.arguments? (calls c f) =
    some (["xlfRegister", "0", toString (10 + f.parameters.length)]
      ++ registeredArguments r.project c f)
  pages : pages kit settings r = r.categories.flatMap (fun c =>
      (if (defined c).isEmpty then [] else
        [⟨"Functions/" ++ c.name ++ ".cpp",
          .ok (sourceText r.project c ((defined c).map bodies))⟩])
      ++ (if (registered c).isEmpty then [] else
        [⟨"Register/register_" ++ c.name ++ ".cpp",
          .ok (registerText c ((registered c).map fun f => "    Excel(" ++ calls c f))⟩]))
    ++ ⟨"Register/register_all.cpp",
        .ok (registerAllText (r.categories.filter fun c => !(registered c).isEmpty))⟩
    :: settings.pages kit r

section Supplied
variable {kit : Kit} (h : kit.Supplied .excel)
include h

theorem functionsPage_text {project : ProjectNames} {bodies : Registry.Function → String}
    (hbody : ∀ f, body kit project f = .ok (bodies f)) (c : Registry.Category) :
    functionsPage kit project c = ⟨"Functions/" ++ c.name ++ ".cpp",
      .ok (sourceText project c ((defined c).map bodies))⟩ := by
  have hsource : ("excel.source", source) ∈ Generator.templates .excel :=
    List.mem_append_left _ (by simp [templates])
  refine congrArg (Page.mk _) (bind_eq_ok.2 ⟨_, mapM_eq_map fun f _ => hbody f, ?_⟩)
  exact h.render_lines hsource rfl (List.mem_append_left _ (by simp [functionWords]))
    (by repeat constructor) (by repeat constructor)

theorem registerPage_text {project : ProjectNames}
    {registrations : Registry.Category → Registry.Function → String}
    (hregistration : ∀ c f, registration kit project c f = .ok (registrations c f))
    (c : Registry.Category) :
    registerPage kit project c = ⟨"Register/register_" ++ c.name ++ ".cpp",
      .ok (registerText c ((registered c).map (registrations c)))⟩ := by
  have hsource : ("excel.register_category", registerCategory) ∈ Generator.templates .excel :=
    List.mem_append_left _ (by simp [templates])
  refine congrArg (Page.mk _) (bind_eq_ok.2 ⟨_, mapM_eq_map fun f _ => hregistration c f, ?_⟩)
  exact h.render_lines hsource rfl (List.mem_append_left _ (by simp [functionWords]))
    (by repeat constructor) (by repeat constructor)

theorem registerAllPage_text (categories : List Registry.Category) :
    registerAllPage kit categories =
      ⟨"Register/register_all.cpp", .ok (registerAllText categories)⟩ := by
  have hsource : ("excel.register_all", registerAll) ∈ Generator.templates .excel :=
    List.mem_append_left _ (by simp [templates])
  exact congrArg (Page.mk _) (h.render_lines hsource rfl
    (List.mem_append_left _ (by simp [functionWords]))
    (by repeat constructor) (by repeat constructor))

/-- The files of a registry are made so. -/
theorem exists_files (settings : Registration) (r : Registry) :
    ∃ bodies calls, Files kit settings r bodies calls := by
  have hserves : kit.Serves functionWords groups :=
    h.serves.mono (List.subset_append_left _ _) (List.Subset.refl _)
  choose bodies hbody using exists_functionBody hserves r.project
  choose calls hregistration hcall using call_eq h.templates h.rules r.project
  refine ⟨bodies, calls, hbody, hregistration, hcall, ?_⟩
  rw [Excel.pages, registerAllPage_text h]
  refine congrArg (· ++ _) (congrArg (List.flatMap · _) (funext fun c => ?_))
  rw [categoryPages, functionsPage_text h hbody, registerPage_text h hregistration]

end Supplied
end Bindery.Generator.Excel
