import Bindery.Proofs.Compilation.Verdict
import Bindery.Proofs.Generator.Caller
import Bindery.Proofs.Generator.Worksheet.Passing
import Bindery.Proofs.Generator.Worksheet.Registration

/-! Worksheet functions as they are registered.

A worksheet calls a function by the letters that it is registered with. For every function of a
registry that metadata has compiled to, these are the letters of the types in its definition, one by
one, and the number of arguments that its registration gives is the number of those that follow
(`registration_agrees`). -/
namespace Bindery.Generator.Excel

/-! ### Definitions -/

section Supplied
variable {kit : Kit}
  (htemplates : Template.Set.ofSources (Generator.templates .excel) = .ok kit.templates)
  (hrules : Rule.Set.ofSource rules = .ok kit.rules)
include htemplates hrules

/-- The body of a function begins with its type, its name and its parameters. -/
theorem eq_of_body {f : Registry.Function} (hf : f.Shaped) {project : ProjectNames} {s : String}
    (h : body kit project f = .ok s) :
    ∃ rest, s = "DLLEXPORT " ++ (Passing.ofResult f).declared ++ f.name ++ "(\n"
      ++ parameterText f ++ ") \x7b" ++ rest := by
  obtain ⟨_, -, h⟩ := bind_eq_ok.1 h
  obtain ⟨_, -, h⟩ := bind_eq_ok.1 h
  obtain ⟨_, -, h⟩ := bind_eq_ok.1 h
  obtain ⟨result, hresult, h⟩ := bind_eq_ok.1 h
  obtain ⟨parameters, hparameters, h⟩ := bind_eq_ok.1 h
  obtain ⟨_, -, h⟩ := bind_eq_ok.1 h
  obtain ⟨_, -, h⟩ := bind_eq_ok.1 h
  obtain ⟨_, -, h⟩ := bind_eq_ok.1 h
  obtain ⟨_, -, h⟩ := bind_eq_ok.1 h
  obtain rfl := Except.ok.inj (hresult.symm.trans (returnType_eq hrules hf))
  obtain rfl := Except.ok.inj (hparameters.symm.trans (prototype_eq hrules hf))
  obtain ⟨rest, hs⟩ := Caller.excel.exists_rest ⟨htemplates, hrules⟩ h
  exact ⟨rest, hs⟩

end Supplied

/-! ### Agreement -/

theorem length_padded (ds : List String) : (padded ds).length = ds.length := by
  fun_induction padded ds with
  | case1 => rfl
  | case2 last => rfl
  | case3 description rest _ ih => rw [List.length_cons, List.length_cons, ih]

/-- There is a description for a function and one for each parameter. -/
theorem length_descriptions (f : Registry.Function) :
    (descriptions f).length = 1 + f.parameters.length := by
  rw [descriptions, length_padded, List.length_cons, List.length_map, Nat.add_comm]

/-- What is registered of a function, after the number of its arguments: the addin, nine texts, and
the descriptions of the parameters. -/
def registeredArguments (project : ProjectNames) (c : Registry.Category) (f : Registry.Function) :
    List String :=
  "&xDll" :: ([f.name, typeText f, f.name, nameList f, "1", project.name ++ " - " ++ c.displayName,
    "", ""] ++ descriptions f).map temporary

/-- The code of a function and its registration agree. -/
structure Agreement (kit : Kit) (project : ProjectNames) (c : Registry.Category)
    (f : Registry.Function) : Prop where
  /-- There is a letter for the result and one for each parameter, and a mark for a macro. -/
  codes : typeCodes kit f = .ok (typeText f)
  one_each : (Passing.ofParameters f).length = f.parameters.length
  names : kit.parameters "parameter_list" f.parameters = .ok (nameList f)
  /-- The result and the parameters have the types of their letters. -/
  body : ∃ rest, body kit project f = .ok ("DLLEXPORT " ++ (Passing.ofResult f).declared ++ f.name
    ++ "(\n" ++ parameterText f ++ ") \x7b" ++ rest)
  /-- The number that is given is that of the arguments after it. -/
  call : ∃ call, registration kit project c f = .ok ("    Excel(" ++ call) ∧
    Text.arguments? call = some (["xlfRegister", "0", toString (10 + f.parameters.length)] ++
      registeredArguments project c f)
  count : (registeredArguments project c f).length = 10 + f.parameters.length

section Supplied
variable {kit : Kit}
  (htemplates : Template.Set.ofSources (Generator.templates .excel) = .ok kit.templates)
  (hrules : Rule.Set.ofSource rules = .ok kit.rules)
include htemplates hrules

theorem call_eq (project : ProjectNames) (c : Registry.Category) (f : Registry.Function) :
    ∃ call, registration kit project c f = .ok ("    Excel(" ++ call) ∧
      Text.arguments? call = some (["xlfRegister", "0", toString (10 + f.parameters.length)] ++
        registeredArguments project c f) := by
  refine ⟨_, registration_eq htemplates project c (typeCodes_eq hrules f)
    (parameterList_eq hrules f), (arguments?_registration ..).trans ?_⟩
  have hlength := length_descriptions f
  cases h : descriptions f with
  | nil =>
    rw [h, List.length_nil] at hlength
    omega
  | cons d rest =>
    rw [registeredArguments, h]
    rfl

theorem agreement (project : ProjectNames) (c : Registry.Category) {f : Registry.Function}
    (hf : f.Shaped) (hbody : ∃ s, body kit project f = .ok s) : Agreement kit project c f where
  codes := typeCodes_eq hrules f
  one_each := List.length_map _
  names := parameterList_eq hrules f
  body := by
    obtain ⟨s, hs⟩ := hbody
    obtain ⟨rest, rfl⟩ := eq_of_body htemplates hrules hf hs
    exact ⟨rest, hs⟩
  call := call_eq htemplates hrules project c f
  count := by
    rw [registeredArguments, List.length_cons, List.length_map, List.length_append,
      length_descriptions]
    simp only [List.length_cons, List.length_nil]
    omega

end Supplied

/-- **Worksheet functions are registered as they are declared.** -/
theorem registration_agrees (tree : FileTree) (project : ProjectNames) (m : Metadata)
    (hm : ∀ c ∈ m.categories, ∃ source filename, Metadata.Category.parse source filename = .ok c)
    {after : Compilation}
    (hrun : (Compilation.fresh project m).run Compilation.standard = (after, .ok ()))
    {r : Registry} (hr : after.registry = some r) :
    ∃ kit,
      Kit.load tree none .excel (Generator.templates .excel) (Generator.rules .excel) = .ok kit ∧
      ∀ c ∈ r.categories, ∀ f ∈ c.functions, Agreement kit r.project c f := by
  have hsound := Metadata.sound_of_parsed hm
  obtain ⟨-, hregistry⟩ := Compilation.registry_of_run hsound hrun hr
  obtain ⟨kit, hkit, hserves⟩ := Kit.exists_load (sound_builtin .excel) tree .excel
  obtain ⟨htemplates, hrules⟩ := Kit.load_eq_ok.1 hkit
  have hall : kit.Serves functionWords groups :=
    hserves.mono (List.subset_append_left _ _) (groups_subset .excel)
  exact ⟨kit, hkit, fun c hc f hf => agreement htemplates hrules r.project c
    (Registry.ofMetadata_shaped hsound hregistry c hc f hf) (exists_functionBody hall r.project f)⟩

/-- A constructor that is registered as a macro. -/
def curveSource : String :=
  "<C name='a'><Functions><Constructor name='curve'><libraryFunction>Curve</libraryFunction>"
    ++ "<SupportedPlatforms><SupportedPlatform name='Excel'/></SupportedPlatforms>"
    ++ "</Constructor></Functions></C>"

/-- The category of `curveSource`. -/
def curves : Metadata where
  categories :=
    [⟨"a", "a", "", [],
      [⟨"curve", .constructor, some "Curve", none, none, none, none, none, none, false, true,
        [⟨"Excel", .auto, true, false⟩], [], none⟩]⟩]
  enumerations := []

/-- The id of the object is passed as a text, the trigger as what a worksheet holds, and the
permanence as a truth value. -/
theorem registration_curve :
    (∀ c ∈ curves.categories, Metadata.Category.parse curveSource "a.xml" = .ok c) ∧
      ∃ after r kit, (Compilation.fresh ⟨"P", "P", "p"⟩ curves).run Compilation.standard =
          (after, .ok ()) ∧ after.registry = some r ∧
        Kit.load {} none .excel (Generator.templates .excel) (Generator.rules .excel) = .ok kit ∧
        ∃ c ∈ r.categories, ∃ f ∈ c.functions, typeText f = "CCPL#" ∧
          nameList f = "objectID,trigger,permanent" ∧ Agreement kit r.project c f := by
  have hparse : ∀ c ∈ curves.categories, Metadata.Category.parse curveSource "a.xml" = .ok c :=
    Metadata.parse_of_chars
      (Metadata.append_chars (Metadata.append_chars rfl rfl) rfl)
      (by decide +kernel)
  have hrun : (((Compilation.fresh ⟨"P", "P", "p"⟩ curves).run Compilation.standard).2.toOption,
      ((Compilation.fresh ⟨"P", "P", "p"⟩ curves).run Compilation.standard).1.registry.map
        (·.categories.map (·.functions.map fun f => (typeText f, nameList f)))) =
      (some (), some [[("CCPL#", "objectID,trigger,permanent")]]) := by decide +kernel
  obtain ⟨after, r, houtcome, hr, htexts⟩ := Compilation.exists_registry hrun
  obtain ⟨kit, hkit, hagree⟩ := registration_agrees {} ⟨"P", "P", "p"⟩ curves
    (fun c hc => ⟨_, _, hparse c hc⟩) houtcome hr
  obtain ⟨c, hc, hfunctions⟩ := List.mem_map.1 (htexts ▸ List.mem_cons_self)
  obtain ⟨f, hf, htext⟩ := List.mem_map.1 (hfunctions ▸ List.mem_cons_self)
  obtain ⟨htypes, hnames⟩ := Prod.mk.inj htext
  exact ⟨hparse, after, r, kit, houtcome, hr, hkit, c, hc, f, hf, htypes, hnames,
    hagree c hc f hf⟩

end Bindery.Generator.Excel
