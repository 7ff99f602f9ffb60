import Bindery.Proofs.Generator.Caller

/-! The files of C functions.

A declaration and the definition of its function begin with the same text. The files that there are,
and all that stands in them around the parameters and the code of the functions, are made from the
functions that are declared and those that are defined (`exists_files`). -/
namespace Bindery.Generator.C

/-! ### Texts -/

/-- What the declaration and the definition of a function both begin with. -/
def opening (parameters : String) (f : Registry.Function) : String :=
  "long " ++ f.name ++ "(\n" ++ parameters ++ ")"

/-- The header of a category with some declarations. -/
def headerText (c : Registry.Category) (prototypes : List String) : String := Text.lines [
  "#ifndef " ++ ("addin_c_" ++ c.name ++ "_h"),
  "#define " ++ ("addin_c_" ++ c.name ++ "_h"),
  "",
  Text.lines prototypes,
  "#endif",
  ""]

/-- The source file of a category with some definitions. -/
def sourceText (project : ProjectNames) (c : Registry.Category) (bodies : List String) : String :=
  Text.lines [
    "#include \"addin.h\"",
    "#include <" ++ project.libRoot ++ "/" ++ c.name ++ ".hpp>",
    "#include <oh/objecthandler.hpp>",
    "#include <cstring>",
    "",
    Text.lines bodies]

/-- The header that includes the headers of some categories. -/
def addinText (categories : List Registry.Category) : String := Text.lines [
  "#ifndef addin_c_h",
  "#define addin_c_h",
  "",
  "#include <stdbool.h>",
  "",
  "#define SUCCESS 0",
  "#define FAIL 1",
  "",
  String.join (categories.map fun c => "#include \"" ++ c.name ++ ".h\"\n"),
  "#endif",
  ""]

/-! ### Templates -/

section Supplied
variable {kit : Kit} (h : kit.Supplied .c)
include h

theorem prototype_eq {f : Registry.Function} {parameters : String}
    (hparameters : parameterList kit f = .ok parameters) :
    prototype kit f = .ok (opening parameters f ++ ";\n") := by
  have hsource : ("c.prototype", prototypeTemplate) ∈ templates := by simp [templates]
  have hlines : opening parameters f ++ ";\n" =
      Text.lines ["long " ++ f.name ++ "(", parameters ++ ");", ""] := by
    simp [opening, Text.lines, String.append_assoc]
  rw [hlines]
  refine bind_eq_ok.2 ⟨_, hparameters, ?_⟩
  exact h.render_lines hsource rfl (by simp [Generator.words, words])
    (by repeat constructor) (by repeat constructor)

theorem exists_body_eq (project : ProjectNames) {f : Registry.Function} {parameters : String}
    (hparameters : parameterList kit f = .ok parameters) :
    ∃ rest, body kit project f = .ok (opening parameters f ++ rest) := by
  obtain ⟨s, hs⟩ := exists_functionBody h.serves project f
  obtain ⟨_, -, hrender⟩ := bind_eq_ok.1 hs
  obtain ⟨found, hfound, hrender⟩ := bind_eq_ok.1 hrender
  obtain rfl : parameters = found := Except.ok.inj (hparameters.symm.trans hfound)
  obtain ⟨_, -, hrender⟩ := bind_eq_ok.1 hrender
  obtain ⟨_, -, hrender⟩ := bind_eq_ok.1 hrender
  obtain ⟨_, -, hrender⟩ := bind_eq_ok.1 hrender
  obtain ⟨_, -, hrender⟩ := bind_eq_ok.1 hrender
  obtain ⟨rest, rfl⟩ := Caller.c.exists_rest h hrender
  refine ⟨" \x7b" ++ rest, hs.trans (congrArg Except.ok ?_)⟩
  have hbrace : ") \x7b" = ")" ++ " \x7b" := rfl
  show "long " ++ f.name ++ "(\n" ++ parameters ++ ") \x7b" ++ rest = _
  rw [opening, hbrace]
  simp only [String.append_assoc]

theorem headerPage_text {prototypeText : Registry.Function → String}
    (hprototype : ∀ f, prototype kit f = .ok (prototypeText f)) (c : Registry.Category) :
    headerPage kit c = ⟨c.name ++ ".h", .ok (headerText c ((declared c).map prototypeText))⟩ := by
  have hsource : ("c.header", header) ∈ templates := by simp [templates]
  refine congrArg (Page.mk _) (bind_eq_ok.2 ⟨_, mapM_eq_map fun f _ => hprototype f, ?_⟩)
  exact h.render_lines hsource rfl (by simp [Generator.words, words])
    (by repeat constructor) (by repeat constructor)

theorem sourcePage_text {bodyText : Registry.Function → String} {project : ProjectNames}
    (hbody : ∀ f, body kit project f = .ok (bodyText f)) (c : Registry.Category) :
    sourcePage kit project c =
      ⟨c.name ++ ".cpp", .ok (sourceText project c ((defined c).map bodyText))⟩ := by
  have hsource : ("c.source", source) ∈ templates := by simp [templates]
  refine congrArg (Page.mk _) (bind_eq_ok.2 ⟨_, mapM_eq_map fun f _ => hbody f, ?_⟩)
  exact h.render_lines hsource rfl (by simp [Generator.words, words])
    (by repeat constructor) (by repeat constructor)

theorem addinPage_text (categories : List Registry.Category) :
    addinPage kit categories = ⟨"addin.h", .ok (addinText categories)⟩ := by
  have hsource : ("c.addin", addin) ∈ templates := by simp [templates]
  exact congrArg (Page.mk _) (h.render_lines hsource rfl (by simp [Generator.words, words])
    (by repeat constructor) (by repeat constructor))

/-! ### Files -/

/-- The files of a registry, and how they are made from the parameters of its functions and the
rest of their definitions. -/
structure Files (kit : Kit) (r : Registry) (parameters rest : Registry.Function → String) :
    Prop where
  parameterList : ∀ f, parameterList kit f = .ok (parameters f)
  prototype : ∀ f, prototype kit f = .ok (opening (parameters f) f ++ ";\n")
  body : ∀ f, body kit r.project f = .ok (opening (parameters f) f ++ rest f)
  pages : pages kit r = r.categories.flatMap (fun c =>
      (if (declared c).isEmpty then [] else
        [⟨c.name ++ ".h",
          .ok (headerText c ((declared c).map fun f => opening (parameters f) f ++ ";\n"))⟩])
      ++ (if (defined c).isEmpty then [] else
        [⟨c.name ++ ".cpp",
          .ok (sourceText r.project c
            ((defined c).map fun f => opening (parameters f) f ++ rest f))⟩]))
    ++ [⟨"addin.h", .ok (addinText (r.categories.filter fun c => !(declared c).isEmpty))⟩]

/-- The files of a registry are made so. -/
theorem exists_files (r : Registry) : ∃ parameters rest, Files kit r parameters rest := by
  choose parameters hparameters using exists_parameterList h.serves
  choose rest hrest using fun f => exists_body_eq h r.project (hparameters f)
  have hprototype := fun f => prototype_eq h (hparameters f)
  refine ⟨parameters, rest, hparameters, hprototype, hrest, ?_⟩
  rw [C.pages, addinPage_text h]
  refine congrArg (· ++ _) (congrArg (List.flatMap · _) (funext fun c => ?_))
  rw [categoryPages, headerPage_text h hprototype, sourcePage_text h hrest]

end Supplied
end Bindery.Generator.C
