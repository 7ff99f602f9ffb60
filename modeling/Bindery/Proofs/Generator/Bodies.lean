import Bindery.Proofs.Generator.Serving

/-! Bodies that are always rendered.

For each platform, a table lists the templates that its pages ask for, with the names that are bound
when they are rendered, and a list names the groups of rules. Every page of every registry has a body
when the kit serves these (`exists_body`). -/
namespace Bindery.Generator

/-- A page whose body is rendered. -/
def Page.Rendered (p : Page) : Prop := ∃ s, p.body = .ok s

/-- Pages are all shown exactly when they all have bodies. -/
theorem Page.exists_preview_iff {pages : List Page} {banner : Banner} :
    (∃ files, Page.preview banner pages = .ok files) ↔ ∀ p ∈ pages, p.Rendered := by
  constructor
  · rintro ⟨files, hfiles⟩ p hp
    obtain ⟨f, -, hf⟩ := exists_of_mem_right (mapM_eq_ok.1 hfiles).flip hp
    obtain ⟨text, htext, -⟩ := map_eq_ok.1 hf
    obtain ⟨body, hbody, -⟩ := map_eq_ok.1 htext
    exact ⟨body, hbody⟩
  · exact fun h => exists_mapM fun p hp => exists_map (exists_map (h p hp) _) _

/-- Pages that are left out where there is nothing are rendered if they are otherwise. -/
theorem Page.rendered_unless {ps : List Page} (empty : Bool) (h : ∀ p ∈ ps, p.Rendered) :
    ∀ p ∈ if empty then [] else ps, p.Rendered := by
  cases empty with
  | true => exact nofun
  | false => exact h

/-! ### C -/

namespace C

/-- What is bound for a body. -/
def bodyWords : List String :=
  ["name", "alias", "namespace", "library_function", "class", "object_class", "parameters",
   "conversions", "library_call", "return_type", "return_conversion", "loop", "loop_call"]

/-- The templates, with what is bound for them. -/
def words : List (String × List String) := [
  ("copyright", ["project", "namespace"]),
  ("c.addin", ["includes"]),
  ("c.header", ["guard", "prototypes"]),
  ("c.prototype", ["name", "parameters"]),
  ("c.source", ["lib_root", "category", "bodies"]),
  ("c.body.constructor", bodyWords),
  ("c.body.member", bodyWords),
  ("c.body.member_loop", bodyWords),
  ("c.body.enumeration_member", bodyWords),
  ("c.body.enumeration_member_loop", bodyWords),
  ("c.body.procedure", bodyWords),
  ("c.body.procedure_loop", bodyWords)]

/-- The groups of rules. -/
def groups : List String :=
  ["prototype", "result", "conversions", "library_call", "return_type", "return_conversion"]

/-- Every function has a template for its body, whatever its kind and whether it loops. -/
theorem bodyTemplate_mem (f : Registry.Function) : (bodyTemplate f, bodyWords) ∈ words := by
  rw [bodyTemplate]
  split
  · cases f.tag <;> simp [words, loopBodies, Tag.Table.get]
  · cases f.tag <;> simp [words, bodies, Tag.Table.get]

section Served
variable {kit : Kit} (h : kit.Serves words groups)
include h

theorem exists_parameterList (f : Registry.Function) : ∃ s, parameterList kit f = .ok s :=
  exists_bind (h.exists_parameters (by simp [groups]) _) fun _ _ =>
    exists_bind (h.exists_returnValue (by simp [groups]) _ _) fun _ _ => ⟨_, rfl⟩

theorem exists_prototype (f : Registry.Function) : ∃ s, prototype kit f = .ok s :=
  exists_bind (exists_parameterList h f) fun _ _ => h.exists_render (by simp [words])

theorem exists_functionBody (project : ProjectNames) (f : Registry.Function) :
    ∃ s, body kit project f = .ok s :=
  exists_bind (h.exists_loopCall (by simp [groups]) f) fun _ _ =>
    exists_bind (exists_parameterList h f) fun _ _ =>
    exists_bind (h.exists_parameters (by simp [groups]) _) fun _ _ =>
    exists_bind (h.exists_parameters (by simp [groups]) _) fun _ _ =>
    exists_bind (h.exists_returnValue (by simp [groups]) _ _) fun _ _ =>
    exists_bind (h.exists_returnValue (by simp [groups]) _ _) fun _ _ =>
    h.exists_render (bodyTemplate_mem f)

theorem exists_body (r : Registry) : ∀ p ∈ pages kit r, p.Rendered := by
  rw [pages, List.forall_mem_append, List.forall_mem_flatMap, List.forall_mem_singleton]
  constructor
  · intro c _
    rw [categoryPages, List.forall_mem_append]
    constructor
    · refine Page.rendered_unless _ (List.forall_mem_singleton.2 ?_)
      exact exists_bind (exists_mapM fun f _ => exists_prototype h f) fun _ _ =>
        h.exists_render (by simp [words])
    · refine Page.rendered_unless _ (List.forall_mem_singleton.2 ?_)
      exact exists_bind (exists_mapM fun f _ => exists_functionBody h _ f) fun _ _ =>
        h.exists_render (by simp [words])
  · exact h.exists_render (by simp [words])

end Served
end C

/-! ### Registration of classes -/

namespace Registration

/-- What is bound for every page. -/
def pageWords : List String :=
  ["guard", "lib_root", "namespace", "addin_namespace", "include_dir"]

/-- The templates, with what is bound for them. -/
def words : List (String × List String) := [
  ("registration.header", pageWords ++ ["category"]),
  ("registration.source", pageWords ++ ["category", "registrations"]),
  ("registration.register_type", pageWords ++ ["name"]),
  ("registration.all", pageWords ++ ["includes"]),
  ("registration.include", pageWords ++ ["category"]),
  ("registration.factory", pageWords ++ ["registrations", "base_out", "base_in"]),
  ("registration.register_category", ["display_name", "category"]),
  ("registration.base_out", ["base"]),
  ("registration.base_in", ["base"])]

section Served
variable {kit : Kit} {groups : List String} (h : kit.Serves words groups)
include h

/-- The base is called if there is one. -/
theorem exists_baseCall (settings : Registration) {template : String}
    (hentry : (template, ["base"]) ∈ words) : ∃ s, settings.baseCall kit template = .ok s := by
  rw [baseCall]
  cases settings.base with
  | none => exact ⟨"", rfl⟩
  | some base => exact h.exists_render hentry

theorem exists_body (settings : Registration) (r : Registry) :
    ∀ p ∈ pages kit settings r, p.Rendered := by
  rw [pages, List.forall_mem_append, List.forall_mem_flatMap, List.forall_mem_cons,
    List.forall_mem_singleton]
  refine ⟨fun c _ => ?_, ?_, ?_⟩
  · refine Page.rendered_unless _ ?_
    rw [List.forall_mem_cons, List.forall_mem_singleton]
    constructor
    · exact h.exists_render (by simp [words, pageWords, bindings])
    · exact exists_bind (exists_mapM fun f _ =>
        h.exists_render (by simp [words, pageWords, bindings])) fun _ _ =>
        h.exists_render (by simp [words, pageWords, bindings])
  · exact exists_bind (exists_mapM fun c _ =>
      h.exists_render (by simp [words, pageWords, bindings])) fun _ _ =>
      h.exists_render (by simp [words, pageWords, bindings])
  · exact exists_bind (exists_mapM fun c _ => h.exists_render (by simp [words])) fun _ _ =>
      exists_bind (exists_baseCall h settings (by simp [words])) fun _ _ =>
      exists_bind (exists_baseCall h settings (by simp [words])) fun _ _ =>
      h.exists_render (by simp [words, pageWords, bindings])

end Served
end Registration

/-! ### Excel -/

namespace Excel

/-- What is bound for a body. -/
def bodyWords : List String :=
  ["name", "alias", "namespace", "library_function", "class", "object_class", "return_type",
   "parameters", "wizard_check", "trigger_check", "conversions", "library_call", "value_type",
   "return_conversion", "loop", "loop_call"]

/-- The templates of functions, with what is bound for them. -/
def functionWords : List (String × List String) := [
  ("copyright", ["project", "namespace"]),
  ("excel.source", ["lib_root", "category", "bodies"]),
  ("excel.body.constructor", bodyWords),
  ("excel.body.member", bodyWords),
  ("excel.body.member_loop", bodyWords),
  ("excel.body.enumeration_member", bodyWords),
  ("excel.body.enumeration_member_loop", bodyWords),
  ("excel.body.procedure", bodyWords),
  ("excel.body.procedure_loop", bodyWords),
  ("excel.wizard_check", []),
  ("excel.trigger_check", []),
  ("excel.register",
    ["count", "code_name", "display_name", "parameter_codes", "parameter_list", "category",
     "description", "parameter_descriptions"]),
  ("excel.register_parameter", ["description"]),
  ("excel.register_category", ["category", "registrations"]),
  ("excel.register_all", ["declarations", "calls"])]

/-- The templates, with what is bound for them. -/
def words : List (String × List String) := functionWords ++ Registration.words

/-- The groups of rules. -/
def groups : List String :=
  ["type_codes", "parameter_list", "return_type", "prototype", "conversions", "library_call",
   "value_type", "return_conversion"]

/-- Every function has a template for its body, whatever its kind and whether it loops. -/
theorem bodyTemplate_mem (f : Registry.Function) :
    (bodyTemplate f, bodyWords) ∈ functionWords := by
  rw [bodyTemplate]
  split
  · cases f.tag <;> simp [functionWords, loopBodies, Tag.Table.get]
  · cases f.tag <;> simp [functionWords, bodies, Tag.Table.get]

section Served
variable {kit : Kit} (h : kit.Serves functionWords groups)
include h

theorem exists_typeCodes (f : Registry.Function) : ∃ s, typeCodes kit f = .ok s :=
  exists_bind (h.exists_returnValue (by simp [groups]) _ _) fun _ _ =>
    exists_bind (h.exists_parameters (by simp [groups]) _) fun _ _ => ⟨_, rfl⟩

theorem exists_registration (project : ProjectNames) (c : Registry.Category)
    (f : Registry.Function) : ∃ s, registration kit project c f = .ok s :=
  exists_bind (exists_typeCodes h f) fun _ _ =>
    exists_bind (exists_mapM fun _ _ => h.exists_render (by simp [functionWords])) fun _ _ =>
    exists_bind (h.exists_parameters (by simp [groups]) _) fun _ _ =>
    h.exists_render (by simp [functionWords])

theorem exists_wizardCode (f : Registry.Function) : ∃ s, wizardCode kit f = .ok s := by
  rw [wizardCode]
  split
  · exact ⟨"", rfl⟩
  · exact h.exists_render (by simp [functionWords])

theorem exists_triggerCode (f : Registry.Function) : ∃ s, triggerCode kit f = .ok s := by
  rw [triggerCode]
  split
  · exact h.exists_render (by simp [functionWords])
  · exact ⟨"", rfl⟩

theorem exists_functionBody (project : ProjectNames) (f : Registry.Function) :
    ∃ s, body kit project f = .ok s :=
  exists_bind (h.exists_loopCall (by simp [groups]) f) fun _ _ =>
    exists_bind (exists_wizardCode h f) fun _ _ =>
    exists_bind (exists_triggerCode h f) fun _ _ =>
    exists_bind (h.exists_returnValue (by simp [groups]) _ _) fun _ _ =>
    exists_bind (h.exists_parameters (by simp [groups]) _) fun _ _ =>
    exists_bind (h.exists_parameters (by simp [groups]) _) fun _ _ =>
    exists_bind (h.exists_parameters (by simp [groups]) _) fun _ _ =>
    exists_bind (h.exists_returnValue (by simp [groups]) _ _) fun _ _ =>
    exists_bind (h.exists_returnValue (by simp [groups]) _ _) fun _ _ =>
    h.exists_render (bodyTemplate_mem f)

/-- The pages of a category with its functions. -/
theorem exists_categoryBody (project : ProjectNames) (c : Registry.Category) :
    ∀ p ∈ categoryPages kit project c, p.Rendered := by
  rw [categoryPages, List.forall_mem_append]
  constructor
  · refine Page.rendered_unless _ (List.forall_mem_singleton.2 ?_)
    exact exists_bind (exists_mapM fun f _ => exists_functionBody h _ f) fun _ _ =>
      h.exists_render (by simp [functionWords])
  · refine Page.rendered_unless _ (List.forall_mem_singleton.2 ?_)
    exact exists_bind (exists_mapM fun f _ => exists_registration h _ c f) fun _ _ =>
      h.exists_render (by simp [functionWords])

end Served

theorem exists_body {kit : Kit} (h : kit.Serves words groups) (settings : Registration)
    (r : Registry) : ∀ p ∈ pages kit settings r, p.Rendered := by
  have hfunctions : kit.Serves functionWords groups :=
    h.mono (List.subset_append_left _ _) (List.Subset.refl _)
  have hregistration : kit.Serves Registration.words groups :=
    h.mono (List.subset_append_right _ _) (List.Subset.refl _)
  rw [pages, List.forall_mem_append, List.forall_mem_flatMap, List.forall_mem_cons]
  refine ⟨fun c _ => exists_categoryBody hfunctions r.project c, ?_,
    Registration.exists_body hregistration settings r⟩
  exact hfunctions.exists_render (by simp [functionWords])

end Excel

/-! ### Documentation -/

namespace Doxygen

/-- The templates, with what is bound for them. -/
def words : List (String × List String) := [
  ("copyright", ["project", "namespace"]),
  ("doxygen.all", ["function_list"]),
  ("doxygen.category", ["category", "display_name", "description", "function_list", "functions"]),
  ("doxygen.enum_row", ["string", "value"]),
  ("doxygen.enumeration", ["name", "description", "class", "rows"]),
  ("doxygen.enums", ["enumerations"]),
  ("doxygen.function",
    ["name", "return_type", "signature", "description", "platforms", "parameter_docs",
     "return_description"]),
  ("doxygen.list_item", ["name"])]

/-- The groups of rules. -/
def groups : List String := ["return_type", "signature", "parameter_docs"]

section Served
variable {kit : Kit} (h : kit.Serves words groups)
include h

theorem exists_functionList (fs : List Registry.Function) : ∃ s, functionList kit fs = .ok s :=
  exists_bind (exists_mapM fun _ _ => h.exists_render (by simp [words])) fun _ _ => ⟨_, rfl⟩

theorem exists_function (f : Registry.Function) : ∃ s, function kit f = .ok s :=
  exists_bind (h.exists_returnValue (by simp [groups]) _ _) fun _ _ =>
    exists_bind (h.exists_parameters (by simp [groups]) _) fun _ _ =>
    exists_bind (h.exists_parameters (by simp [groups]) _) fun _ _ =>
    h.exists_render (by simp [words])

theorem exists_enumeration (e : Enumeration) : ∃ s, enumeration kit e = .ok s :=
  exists_bind (exists_mapM fun _ _ => h.exists_render (by simp [words])) fun _ _ =>
    h.exists_render (by simp [words])

theorem exists_body (r : Registry) : ∀ p ∈ pages kit r, p.Rendered := by
  rw [pages, List.forall_mem_append, List.forall_mem_append, List.forall_mem_flatMap]
  refine ⟨⟨fun c _ => ?_, ?_⟩, ?_⟩
  · refine Page.rendered_unless _ (List.forall_mem_singleton.2 ?_)
    exact exists_bind (exists_mapM fun f _ => exists_function h f) fun _ _ =>
      exists_bind (exists_functionList h _) fun _ _ => h.exists_render (by simp [words])
  · refine Page.rendered_unless _ (List.forall_mem_singleton.2 ?_)
    exact exists_bind (exists_functionList h _) fun _ _ => h.exists_render (by simp [words])
  · refine Page.rendered_unless _ (List.forall_mem_singleton.2 ?_)
    exact exists_bind (exists_mapM fun e _ => exists_enumeration h e) fun _ _ =>
      h.exists_render (by simp [words])

end Served
end Doxygen

/-! ### Creators -/

/-- What is bound for every page of constructors. -/
def Kit.projectWords : List String := ["lib_root", "namespace"]

namespace Serialization

/-- The templates, with what is bound for them. -/
def words : List (String × List String) := [
  ("copyright", ["project", "namespace"]),
  ("serialization.header", Kit.projectWords ++ ["category", "declarations"]),
  ("serialization.declaration", ["name"]),
  ("serialization.source", Kit.projectWords ++ ["category", "includes", "creators"]),
  ("serialization.creator",
    Kit.projectWords ++ ["name", "library_function"] ++ ["conversions", "library_call"]),
  ("serialization.all", Kit.projectWords ++ ["includes"]),
  ("serialization.factory", Kit.projectWords ++ ["registrations"]),
  ("serialization.register_category", ["display_name"]),
  ("serialization.register", ["name"])]

/-- The groups of rules. -/
def groups : List String := ["conversions", "library_call"]

section Served
variable {kit : Kit} (h : kit.Serves words groups)
include h

theorem exists_categoryRegistrations (c : Registry.Category) :
    ∃ s, categoryRegistrations kit c = .ok s :=
  exists_bind (h.exists_render (by simp [words])) fun _ _ =>
    exists_bind (exists_mapM fun _ _ => h.exists_render (by simp [words])) fun _ _ => ⟨_, rfl⟩

theorem exists_creator (project : ProjectNames) (f : Registry.Function) :
    ∃ s, kit.constructorCode project "serialization.creator" creatorGroups f = .ok s :=
  h.exists_constructorCode (by simp [words, creatorGroups, Kit.projectWords])
    (by simp [creatorGroups, groups]) project f

theorem exists_body (r : Registry) : ∀ p ∈ pages kit r, p.Rendered := by
  rw [pages, List.forall_mem_append, List.forall_mem_flatMap, List.forall_mem_cons,
    List.forall_mem_singleton]
  refine ⟨fun c _ => ?_, ?_, ?_⟩
  · refine Page.rendered_unless _ ?_
    rw [List.forall_mem_cons, List.forall_mem_singleton]
    constructor
    · exact exists_bind (exists_mapM fun _ _ => h.exists_render (by simp [words])) fun _ _ =>
        h.exists_render (by simp [words, Kit.projectWords, Kit.projectBindings])
    · exact exists_bind (exists_mapM fun f _ => exists_creator h r.project f) fun _ _ =>
        h.exists_render (by simp [words, Kit.projectWords, Kit.projectBindings])
  · exact h.exists_render (by simp [words, Kit.projectWords, Kit.projectBindings])
  · exact exists_bind (exists_mapM fun c _ => exists_categoryRegistrations h c) fun _ _ =>
      h.exists_render (by simp [words, Kit.projectWords, Kit.projectBindings])

end Served
end Serialization

/-! ### Value objects -/

namespace ValueObjects

/-- The templates, with what is bound for them. -/
def words : List (String × List String) := [
  ("copyright", ["project", "namespace"]),
  ("vo.header", Kit.projectWords ++ ["category", "classes"]),
  ("vo.declaration",
    Kit.projectWords ++ ["name", "library_function"] ++ ["parameters", "members", "serialize"]),
  ("vo.source", Kit.projectWords ++ ["category", "definitions"]),
  ("vo.definition",
    Kit.projectWords ++ ["name", "library_function"]
      ++ ["property_names", "get_property", "set_property", "definition_parameters",
          "initializers"])]

/-- The groups of rules. -/
def groups : List String :=
  ["constructor_parameters", "members", "serialize", "property_names", "get_property",
   "set_property", "definition_parameters", "initializers"]

section Served
variable {kit : Kit} (h : kit.Serves words groups)
include h

theorem exists_declaration (project : ProjectNames) (f : Registry.Function) :
    ∃ s, kit.constructorCode project "vo.declaration" declarationGroups f = .ok s :=
  h.exists_constructorCode (by simp [words, declarationGroups, Kit.projectWords])
    (by simp [declarationGroups, groups]) project f

theorem exists_definition (project : ProjectNames) (f : Registry.Function) :
    ∃ s, kit.constructorCode project "vo.definition" definitionGroups f = .ok s :=
  h.exists_constructorCode (by simp [words, definitionGroups, Kit.projectWords])
    (by simp [definitionGroups, groups]) project f

theorem exists_body (r : Registry) : ∀ p ∈ pages kit r, p.Rendered := by
  rw [pages, List.forall_mem_flatMap]
  refine fun c _ => Page.rendered_unless _ ?_
  rw [List.forall_mem_cons, List.forall_mem_singleton]
  constructor
  · exact exists_bind (exists_mapM fun f _ => exists_declaration h r.project f) fun _ _ =>
      h.exists_render (by simp [words, Kit.projectWords, Kit.projectBindings])
  · exact exists_bind (exists_mapM fun f _ => exists_definition h r.project f) fun _ _ =>
      h.exists_render (by simp [words, Kit.projectWords, Kit.projectBindings])

end Served
end ValueObjects
end Bindery.Generator
