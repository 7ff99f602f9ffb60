import Bindery.Proofs.Compilation.Verdict
import Bindery.Proofs.Generator.Supplied
import Bindery.Proofs.Registry.Parameters
import Bindery.Proofs.Text.Declarations

/-! The names in the parameter lists of C functions.

A vector has its size beside it, a matrix has its rows and columns, and the result of a function comes
last, as parameters of its own. Their names are made by putting an end to the name of what they belong
to, and nothing keeps a declared parameter from having such a name, or that of the result. Where none
has, all names of the list differ; where one has, the list introduces a name twice
(`declaredNames_nodup_iff`). -/
namespace Bindery.Generator.C

open Text (Leads declaredNames)

/-! ### Names -/

/-- What is put to a name for the sizes of an arrangement. -/
def sizes : TensorRank → List String
  | .scalar => []
  | .vector => ["Size"]
  | .matrix => ["Rows", "Cols"]

/-- The names for the sizes of something. -/
def sizeNames (name : String) (rank : TensorRank) : List String := (sizes rank).map (name ++ ·)

/-- The names of something and of its sizes. -/
def namesOf (name : String) (rank : TensorRank) : List String := name :: sizeNames name rank

/-- The names in the parameter list of a function. -/
def parameterNames (f : Registry.Function) : List String :=
  f.parameters.flatMap (fun p => namesOf p.name p.rank) ++ namesOf "result" f.returnValue.rank

/-- No declared parameter has a name that the list gives to something else. -/
structure Clear (f : Registry.Function) : Prop where
  result : ∀ p ∈ f.declaredParameters, p.name ∉ namesOf "result" f.returnValue.rank
  sizes : ∀ p ∈ f.declaredParameters, ∀ q ∈ f.declaredParameters, p.name ∉ sizeNames q.name q.rank

theorem length_of_mem_sizes {rank : TensorRank} {s : String} (h : s ∈ sizes rank) :
    s.length = 4 := by
  cases rank <;> simp [sizes] at h
  · rw [h]; rfl
  · rcases h with rfl | rfl <;> rfl

/-- Names with ends of the same length are the same only where both parts are. -/
theorem eq_of_append_eq {a b s t : String} (hlength : s.length = t.length)
    (h : a ++ s = b ++ t) : a = b ∧ s = t := by
  have hchars : a.toList ++ s.toList = b.toList ++ t.toList := by
    rw [← String.toList_append, h, String.toList_append]
  have hends : s.toList.length = t.toList.length := by
    rw [String.length_toList, String.length_toList, hlength]
  obtain ⟨hname, hend⟩ := List.append_inj' hchars hends
  exact ⟨String.toList_inj.1 hname, String.toList_inj.1 hend⟩

theorem nodup_sizeNames (name : String) (rank : TensorRank) : (sizeNames name rank).Nodup := by
  have hsizes : (sizes rank).Nodup := by cases rank <;> decide
  refine List.Nodup.map_on (fun s hs t ht h => ?_) hsizes
  exact (eq_of_append_eq ((length_of_mem_sizes hs).trans (length_of_mem_sizes ht).symm) h).2

/-- Sizes of things with different names have different names. -/
theorem disjoint_sizeNames {a b : String} (h : a ≠ b) (rank rank' : TensorRank) :
    List.Disjoint (sizeNames a rank) (sizeNames b rank') := by
  intro name ha hb
  obtain ⟨s, hs, rfl⟩ := List.mem_map.1 ha
  obtain ⟨t, ht, heq⟩ := List.mem_map.1 hb
  exact h (eq_of_append_eq ((length_of_mem_sizes hs).trans (length_of_mem_sizes ht).symm) heq.symm).1

/-- Names differ where those without ends do and none of them is another with an end. -/
theorem nodup_flatMap_namesOf (xs : List (String × TensorRank)) :
    (xs.flatMap fun x => namesOf x.1 x.2).Nodup ↔
      (xs.map Prod.fst).Nodup ∧ ∀ x ∈ xs, ∀ y ∈ xs, x.1 ∉ sizeNames y.1 y.2 := by
  have hperm : (xs.flatMap fun x => namesOf x.1 x.2).Perm
      (xs.map Prod.fst ++ xs.flatMap fun x => sizeNames x.1 x.2) := by
    rw [List.map_eq_flatMap]
    exact (List.flatMap_append_perm xs (fun x => [x.1]) fun x => sizeNames x.1 x.2).symm
  have hsizes (hnames : (xs.map Prod.fst).Nodup) :
      (xs.flatMap fun x => sizeNames x.1 x.2).Nodup :=
    List.nodup_flatMap.2 ⟨fun x _ => nodup_sizeNames x.1 x.2,
      (List.pairwise_map.1 hnames).imp fun hne => disjoint_sizeNames hne _ _⟩
  rw [hperm.nodup_iff, List.nodup_append]
  simp only [List.forall_mem_map, List.mem_flatMap, forall_exists_index, and_imp]
  constructor
  · rintro ⟨hnames, -, hapart⟩
    exact ⟨hnames, fun x hx y hy hmem => hapart x hx x.1 y hy hmem rfl⟩
  · rintro ⟨hnames, hapart⟩
    refine ⟨hnames, hsizes hnames, ?_⟩
    rintro x hx _ y hy hmem rfl
    exact hapart x hx y hy hmem

/-- A name that generation gives does not end like that of a size. -/
theorem not_mem_sizeNames {name : String} (h : name ∈ "result" :: Naming.reserved) (owner : String)
    (rank : TensorRank) : name ∉ sizeNames owner rank := by
  have hends : ∀ name ∈ "result" :: Naming.reserved, ∀ s ∈ ["Size", "Rows", "Cols"],
      ¬ s.toList <:+ name.toList := by decide
  intro hmem
  obtain ⟨s, hs, rfl⟩ := List.mem_map.1 hmem
  refine hends _ h s ?_ ⟨owner.toList, String.toList_append.symm⟩
  cases rank <;> simp [sizes] at hs ⊢
  · exact .inl hs
  · exact .inr hs

/-- The names of a list differ exactly where the declared parameters are clear of the others. -/
theorem nodup_parameterNames_iff {f : Registry.Function} {g : Metadata.Function}
    (h : Registry.Function.Completed g f) : (parameterNames f).Nodup ↔ Clear f := by
  have hnames : parameterNames f = (f.parameters.map (fun p => (p.name, p.rank)) ++
      [("result", f.returnValue.rank)]).flatMap fun x => namesOf x.1 x.2 := by
    rw [parameterNames, List.flatMap_append, List.flatMap_map, List.flatMap_singleton]
  have hdeclared {p : Registry.Parameter} (hp : p ∈ f.parameters) :
      p ∈ f.declaredParameters ∨ p.name ∈ Naming.reserved ∧ p.rank = .scalar := by
    cases himplicit : p.implicit with
    | true => exact .inr (h.added p hp himplicit)
    | false => exact .inl (List.mem_filter.2 ⟨hp, by rw [himplicit]; rfl⟩)
  have hmem {p : Registry.Parameter} (hp : p ∈ f.declaredParameters) : p ∈ f.parameters :=
    List.mem_of_mem_filter hp
  rw [hnames, nodup_flatMap_namesOf, List.map_append, List.map_map, List.map_singleton,
    List.nodup_append]
  simp only [List.forall_mem_append, List.forall_mem_map, List.forall_mem_singleton,
    Function.comp_def]
  constructor
  · rintro ⟨⟨-, -, hresult⟩, hsizes, -⟩
    refine ⟨fun p hp hclash => ?_, fun p hp q hq => (hsizes p (hmem hp)).1 q (hmem hq)⟩
    rcases List.mem_cons.1 hclash with heq | hsize
    · exact hresult p (hmem hp) heq
    · exact (hsizes p (hmem hp)).2 hsize
  · intro hclear
    refine ⟨⟨h.distinct, List.nodup_singleton _, fun p hp heq => ?_⟩,
      fun p hp => ⟨fun q hq => ?_, ?_⟩,
      fun q _ => not_mem_sizeNames List.mem_cons_self _ _,
      not_mem_sizeNames List.mem_cons_self _ _⟩
    · rcases hdeclared hp with hp | ⟨hreserved, -⟩
      · exact hclear.result p hp (heq ▸ List.mem_cons_self)
      · exact absurd (heq ▸ hreserved) (by decide)
    · rcases hdeclared hp with hp | ⟨hreserved, -⟩
      · rcases hdeclared hq with hq | ⟨-, hrank⟩
        · exact hclear.sizes p hp q hq
        · rw [sizeNames, hrank]
          exact List.not_mem_nil
      · exact not_mem_sizeNames (List.mem_cons_of_mem _ hreserved) _ _
    · rcases hdeclared hp with hp | ⟨hreserved, -⟩
      · exact fun hsize => hclear.result p hp (List.mem_cons_of_mem _ hsize)
      · exact not_mem_sizeNames (List.mem_cons_of_mem _ hreserved) _ _

/-! ### Declarations -/

/-- What a parameter list declares. -/
inductive Declared where
  /-- A parameter of the function. -/
  | argument
  /-- The result, which is written through a pointer. -/
  | result

namespace Declared

/-- The group of rules for the declarations. -/
def group : Declared → String
  | argument => "prototype"
  | result => "result"

/-- What stands before the names of sizes. -/
def counter : Declared → String
  | argument => "long "
  | result => "long *"

/-- What stands before the name itself. -/
def lead : Declared → DataType → TensorRank → String
  | argument, .string, .scalar => "char *"
  | argument, .any, .scalar => "Varies "
  | argument, type, .scalar => type.name ++ " "
  | argument, .string, .vector | argument, .property, .vector => "char **"
  | argument, .any, .vector => "Varies *"
  | argument, type, .vector => type.name ++ " *"
  | argument, .string, .matrix => "char ***"
  | argument, .any, .matrix => "Varies **"
  | argument, type, .matrix => type.name ++ " **"
  | result, .string, .scalar => "char *"
  | result, .any, .scalar | result, .any, .vector => "Varies *"
  | result, .string, .vector | result, .property, .vector => "char **"
  | result, type, .scalar | result, type, .vector => type.name ++ " *"
  | result, type, .matrix => type.name ++ " **"

theorem leads_lead (d : Declared) (type : DataType) (rank : TensorRank) :
    Leads (d.lead type rank) := by
  cases d <;> cases type <;> cases rank <;> exact ⟨by decide, by decide⟩

theorem leads_counter (d : Declared) : Leads d.counter := by
  cases d <;> exact ⟨by decide, by decide⟩

end Declared

/-- The declarations of something and of its sizes. -/
def declarations (d : Declared) (name : String) (type : DataType) (rank : TensorRank) : String :=
  ", ".intercalate ((d.lead type rank ++ name) :: (sizeNames name rank).map (d.counter ++ ·))

/-- The declarations introduce the names. -/
theorem declaredNames_declarations (d : Declared) {name : String}
    (hname : Text.isIdentifier name = true) (type : DataType) (rank : TensorRank) :
    declaredNames (declarations d name type rank) = namesOf name rank := by
  have hparts : ∀ s ∈ sizes rank, s.toList.all Text.isNamePart = true := by
    cases rank <;> decide
  have hsizes : ∀ n ∈ sizeNames name rank, declaredNames (d.counter ++ n) = [n] :=
    List.forall_mem_map.2 fun s hs =>
      Text.declaredNames_eq d.leads_counter (Text.isIdentifier_append hname (hparts s hs))
  have hblank : ", " = "," ++ " " := rfl
  rw [declarations, hblank, Text.declaredNames_intercalate (by decide) (List.cons_ne_nil _ _),
    List.flatMap_cons, Text.declaredNames_eq (d.leads_lead type rank) hname, List.flatMap_map,
    List.flatMap_congr hsizes, List.flatMap_singleton']
  rfl

/-! ### Rules -/

set_option maxRecDepth 1000 in
theorem filled?_declarations (d : Declared) {p : Registry.Parameter} {value : String → String}
    (hname : value "name" = p.name) (htype : value "type" = p.type.name) : ∃ code,
    rules.code? d.group p.type p.rank = some code ∧
      Template.filled? value code.toList = some (declarations d p.name p.type p.rank) := by
  obtain ⟨⟨name, type, rank, description, default⟩, implicit⟩ := p
  cases d <;> cases type <;> cases rank
  all_goals
    refine ⟨_, rfl, Template.filled?_texts rfl (by decide +kernel) (by cbv) (String.ext ?_)⟩
    simp [declarations, Declared.lead, Declared.counter, sizeNames, sizes, hname, htype]

/-- What is joined is joined with one more. -/
theorem joinNonempty_intercalate {separator last : String} {fragments : List String}
    (hfragments : ∀ s ∈ fragments, s ≠ "") (hlast : last ≠ "") :
    Text.joinNonempty separator [separator.intercalate fragments, last] =
      separator.intercalate (fragments ++ [last]) := by
  cases fragments with
  | nil => simp [Text.joinNonempty, hlast]
  | cons first rest =>
    have hne : separator.intercalate (first :: rest) ≠ "" := fun hempty => by
      cases rest <;> simp [String.intercalate_cons_cons, hfragments first] at hempty
    rw [Text.joinNonempty, List.filter_eq_self.2 (by simp [hne, hlast]),
      String.intercalate_cons_cons, String.intercalate_singleton,
      String.intercalate_append_of_ne_nil (List.cons_ne_nil _ _) (List.cons_ne_nil _ _),
      String.intercalate_singleton]

section Supplied
variable {kit : Kit} (h : kit.Supplied .c)
include h

theorem parameters_prototype (f : Registry.Function) : kit.parameters "prototype" f.parameters =
    .ok (",\n".intercalate (f.parameters.map fun p =>
      "    " ++ declarations .argument p.name p.type p.rank)) := by
  have hgroup : kit.rules.group "prototype" = .ok (rules.group "prototype") :=
    h.group_eq (by decide)
  have hcovered := h.serves.covered _ (Rule.Set.mem_of_group hgroup)
  have hplain : (rules.group "prototype").Plain ",\n" := ⟨rfl, rfl, rfl, rfl⟩
  refine mapError_eq_ok.2 (bind_eq_ok.2 ⟨_, hgroup, mapError_eq_ok.2 ?_⟩)
  refine hplain.apply_eq fun p _ => ?_
  obtain ⟨code, hcode, htext⟩ := filled?_declarations .argument (Rule.Group.valueOf_name p)
    (Rule.Group.valueOf_type p)
  exact Rule.Group.fragment?_eq hcovered hcode htext

theorem returnValue_result (f : Registry.Function) :
    kit.returnValue "result" "result" f.returnValue = .ok ("    " ++
      declarations .result "result" f.returnValue.type f.returnValue.rank) := by
  let result : Registry.Parameter :=
    { name := "result", type := f.returnValue.type, rank := f.returnValue.rank, default := none,
      description := f.returnValue.description, implicit := false }
  obtain ⟨code, hcode, htext⟩ := filled?_declarations .result (Rule.Group.valueOf_name result)
    (Rule.Group.valueOf_type result)
  have hplain : (rules.group "result").Plain ", " := ⟨rfl, rfl, rfl, rfl⟩
  exact h.returnValue_eq (by decide) hplain hcode htext

/-- The parameter list of a function introduces the names of its parameters, of its result and of
their sizes. -/
theorem exists_declaredNames {f : Registry.Function}
    (hnames : ∀ p ∈ f.parameters, Text.isIdentifier p.name = true) :
    ∃ text, parameterList kit f = .ok text ∧ declaredNames text = parameterNames f := by
  refine ⟨_, bind_eq_ok.2 ⟨_, parameters_prototype h f,
    bind_eq_ok.2 ⟨_, returnValue_result h f, rfl⟩⟩, ?_⟩
  let argument (p : Registry.Parameter) : String :=
    "    " ++ declarations .argument p.name p.type p.rank
  let result : String :=
    "    " ++ declarations .result "result" f.returnValue.type f.returnValue.rank
  have hidle : "    ".toList.all Text.isIdle = true := by decide
  have hresult : declaredNames result = namesOf "result" f.returnValue.rank :=
    (Text.declaredNames_idle hidle _).trans (declaredNames_declarations .result (by decide) _ _)
  have hargument : ∀ p ∈ f.parameters, declaredNames (argument p) = namesOf p.name p.rank :=
    fun p hp => (Text.declaredNames_idle hidle _).trans
      (declaredNames_declarations .argument (hnames p hp) _ _)
  have hne (s : String) : "    " ++ s ≠ "" := by simp
  show declaredNames (Text.joinNonempty ",\n" [",\n".intercalate (f.parameters.map argument), result])
    = _
  have hbreak : ",\n" = "," ++ "\n" := rfl
  rw [joinNonempty_intercalate (List.forall_mem_map.2 fun p _ => hne _) (hne _), hbreak,
    Text.declaredNames_intercalate (by decide)
      (List.append_ne_nil_of_right_ne_nil _ (List.cons_ne_nil _ _)),
    List.flatMap_append, List.flatMap_map, List.flatMap_singleton, hresult,
    List.flatMap_congr hargument]
  rfl

end Supplied

/-! ### Compiled functions -/

/-- **Names in the parameter lists of C functions.** For every function of a registry that loaded
metadata compiles to, the parameter list introduces the names of the parameters, of the result and of
the sizes of both, in order. They differ exactly where no declared parameter has the name of the
result or of a size. -/
theorem declaredNames_nodup_iff (tree : FileTree) {project : ProjectNames} {m : Metadata}
    (hm : ∀ c ∈ m.categories, ∃ source filename, Metadata.Category.parse source filename = .ok c)
    {after : Compilation}
    (hrun : (Compilation.fresh project m).run Compilation.standard = (after, .ok ()))
    {r : Registry} (hr : after.registry = some r) :
    ∃ kit : Kit,
      (∀ settings, load tree none settings r .c = .ok (ofKit kit settings r .c)) ∧
      ∀ c ∈ r.categories, ∀ f ∈ c.functions, ∃ text, parameterList kit f = .ok text ∧
        declaredNames text = parameterNames f ∧ ((declaredNames text).Nodup ↔ Clear f) := by
  obtain ⟨kit, hkit, hload⟩ := exists_supplied tree .c
  refine ⟨kit, fun settings => hload settings r, fun c hc f hf => ?_⟩
  obtain ⟨g, hg, -, hmade⟩ :=
    Compilation.exists_declaration (Metadata.sound_of_parsed hm) hrun hr hc hf
  have hcompleted := Registry.Function.completed_of_sound hg hmade
  obtain ⟨text, htext, hnames⟩ := exists_declaredNames hkit (hcompleted.isIdentifier hg)
  exact ⟨text, htext, hnames, hnames ▸ nodup_parameterNames_iff hcompleted⟩

/-- A function for C with a parameter that has the name of the result. -/
def resultSource : String :=
  "<C name='a'><Functions><Procedure name='f'>"
    ++ "<SupportedPlatforms><SupportedPlatform name='C'/></SupportedPlatforms>"
    ++ "<Parameters><Parameter name='result'><type>long</type></Parameter></Parameters>"
    ++ "<ReturnValue><type>long</type></ReturnValue></Procedure></Functions></C>"

/-- The category of `resultSource`. -/
def results : Metadata where
  categories :=
    [⟨"a", "a", "", [],
      [⟨"f", .procedure, none, none, none, none, none, none, none, false, true,
        [⟨"C", .auto, true, false⟩], [⟨"result", .long, .scalar, none, ""⟩],
        some ⟨.long, .scalar, ""⟩⟩]⟩]
  enumerations := []

/-- The parameter is accepted, and the list has its name twice. -/
theorem declaredNames_results :
    (∀ c ∈ results.categories, Metadata.Category.parse resultSource "a.xml" = .ok c) ∧
      ∃ after r kit, (Compilation.fresh ⟨"P", "P", "p"⟩ results).run Compilation.standard =
          (after, .ok ()) ∧ after.registry = some r ∧
        (∀ settings, load {} none settings r .c = .ok (ofKit kit settings r .c)) ∧
        ∃ c ∈ r.categories, ∃ f ∈ declared c, ∃ text, parameterList kit f = .ok text ∧
          declaredNames text = ["result", "trigger", "result"] ∧ ¬ Clear f := by
  have hparse : ∀ c ∈ results.categories, Metadata.Category.parse resultSource "a.xml" = .ok c :=
    Metadata.parse_of_chars
      (Metadata.append_chars (Metadata.append_chars (Metadata.append_chars rfl rfl) rfl) rfl)
      (by decide +kernel)
  have hrun : (((Compilation.fresh ⟨"P", "P", "p"⟩ results).run Compilation.standard).2.toOption,
      ((Compilation.fresh ⟨"P", "P", "p"⟩ results).run Compilation.standard).1.registry.map
        (·.categories.map fun c => (declared c).map parameterNames)) =
      (some (), some [[["result", "trigger", "result"]]]) := by decide +kernel
  obtain ⟨after, r, houtcome, hr, hfunctions⟩ := Compilation.exists_registry hrun
  obtain ⟨kit, hload, hlists⟩ := declaredNames_nodup_iff {} (fun c hc => ⟨_, _, hparse c hc⟩)
    houtcome hr
  obtain ⟨c, hc, hdeclared⟩ := List.mem_map.1 (hfunctions ▸ List.mem_cons_self)
  obtain ⟨f, hf, hnames⟩ := List.mem_map.1 (hdeclared ▸ List.mem_cons_self)
  obtain ⟨text, htext, hlist, hclear⟩ := hlists c hc f (List.mem_of_mem_filter hf)
  rw [hnames] at hlist
  have htwice : ¬ (declaredNames text).Nodup := by
    rw [hlist]
    decide
  exact ⟨hparse, after, r, kit, houtcome, hr, hload, c, hc, f, hf, text, htext, hlist,
    mt hclear.2 htwice⟩

end Bindery.Generator.C
