import Bindery.Proofs.Generator.Builtin
import Bindery.Proofs.Rule.Contributions
import Bindery.Proofs.Rule.Fragments
import Bindery.Proofs.Template.Lines

/-! Kits as the platforms come with them.

Every platform comes with a kit (`exists_supplied`). A template of such a kit is rendered line by line
to what its source is filled to (`Supplied.render_lines`), and a group of its rules gives fragments for
parameters that can be read off its code (`Supplied.givesEach`). -/
namespace Bindery

namespace Rule

/-- The group of a source with a name. -/
def Source.group (source : Source) (name : String) : Group :=
  source.resolved name ((source.groups.lookup name).getD {})

/-- The rule is for a type and an arrangement. -/
def Reference.fits (r : Reference) (type : DataType) (rank : TensorRank) : Bool :=
  r.rank.all (· = rank) && r.type.all (· = type)

/-- The code that a source has in a group for a type and an arrangement. -/
def Source.code? (source : Source) (group : String) (type : DataType) (rank : TensorRank) :
    Option String :=
  ((((source.groups.lookup group).getD {}).rules.find? (·.fits type rank)).bind Reference.code).bind
    (source.codes.lookup ·)

namespace Group

/-- What a word in the code of a rule stands for, for a parameter. -/
def valueOf (p : Registry.Parameter) : String → String := (bindingsOf p).value

@[simp] theorem valueOf_name (p : Registry.Parameter) : valueOf p "name" = p.name := rfl

@[simp] theorem valueOf_type (p : Registry.Parameter) : valueOf p "type" = p.type.name := rfl

/-- Code that keeps to its words gives its fragment. -/
theorem fragment?_eq {source : Source} {name : String} (hg : (source.group name).Covered)
    {p : Registry.Parameter} {code text : String} (hcode : source.code? name p.type p.rank = some code)
    (htext : Template.filled? (valueOf p) code.toList = some text) :
    (source.group name).fragment? p.type p.rank (bindingsOf p) =
      .ok (some ((source.group name).indented text)) := by
  obtain ⟨id, hid, hlookup⟩ := Option.bind_eq_some_iff.1 hcode
  obtain ⟨r, hr, hid⟩ := Option.bind_eq_some_iff.1 hid
  obtain ⟨pieces, hpieces, htext⟩ := Option.map_eq_some_iff.1 htext
  have ht : source.template? id = some ⟨"codes." ++ id, pieces⟩ := by
    rw [Source.template?, hlookup, Option.bind_some, Template.parse, toOption_map,
      Template.toOption_segmentsFrom, hpieces, Option.map_some]
  have hfind : (source.group name).rules.find? (·.fits p.type p.rank) =
      some ⟨r.rank, r.type, r.code.bind source.template?⟩ := by
    rw [Source.group, Source.resolved, List.find?_map, Function.comp_def]
    exact Option.map_eq_some_iff.2 ⟨r, hr, rfl⟩
  have hrule : r.code.bind source.template? = some ⟨"codes." ++ id, pieces⟩ := by
    rw [hid, Option.bind_some, ht]
  have hbound := hg _ (List.mem_of_find?_eq_some hfind) _ hrule
  rw [fragment?, hfind, Option.bind_some, hrule]
  exact map_eq_ok.2 ⟨_, Template.render_of_bound hbound, congrArg _ (congrArg _ htext)⟩

end Group
end Rule

namespace Generator

/-- A kit has the templates and the rules that a platform comes with. -/
structure Kit.Supplied (kit : Kit) (platform : Platform) : Prop where
  templates : Template.Set.ofSources (Generator.templates platform) = .ok kit.templates
  rules : Rule.Set.ofSource (Generator.rules platform) = .ok kit.rules

/-- Without a directory of replacements, the generator of a platform works with such a kit. -/
theorem exists_supplied (tree : FileTree) (platform : Platform) :
    ∃ kit : Kit, kit.Supplied platform ∧ ∀ settings r,
      load tree none settings r platform = .ok (ofKit kit settings r platform) := by
  obtain ⟨kit, hkit, -⟩ := Kit.exists_load (sound_builtin platform) tree platform
  obtain ⟨htemplates, hrules⟩ := Kit.load_eq_ok.1 hkit
  exact ⟨kit, ⟨htemplates, hrules⟩, fun _ _ => bind_eq_ok.2 ⟨kit, hkit, rfl⟩⟩

/-- The kit of a generator that nothing is replaced for. -/
theorem supplied_of_load {tree : FileTree} {settings : Registration} {r : Registry}
    {platform : Platform} {kit : Kit}
    (h : load tree none settings r platform = .ok (ofKit kit settings r platform)) :
    kit.Supplied platform := by
  obtain ⟨kit', hkit', hload⟩ := exists_supplied tree platform
  have hsame : ofKit kit settings r platform = ofKit kit' settings r platform :=
    Except.ok.inj (h.symm.trans (hload settings r))
  obtain rfl : kit = kit' := congrArg Generator.kit hsame
  exact hkit'

/-- A group of rules gives a fragment for each declared parameter, in their order, and passes over
the parameters that are added. -/
def Kit.GivesEach (kit : Kit) (name : String) (fragment : Registry.Parameter → String) : Prop :=
  ∃ g, kit.rules.group name = .ok g ∧ ∀ f : Registry.Function,
    f.parameters.mapM (g.parameterFragment? none) = .ok (f.parameters.map fun p =>
      if p.implicit then none else some (g.indented (fragment p))) ∧
    kit.parameters name f.parameters =
      .ok (g.joined (f.declaredParameters.map fun p => g.indented (fragment p)))

/-- The code of a constructor is rendered with what the groups give for its parameters. -/
theorem Kit.render_of_constructorCode {kit : Kit} {project : ProjectNames} {template : String}
    {groups : List (String × String)} {f : Registry.Function} {s : String}
    (h : kit.constructorCode project template groups f = .ok s) :
    ∃ text : String → String,
      (∀ g ∈ groups, kit.parameters g.2 f.parameters = .ok (text g.2)) ∧
      kit.render template (projectBindings project
        ++ [("name", f.name), ("library_function", f.kind.libraryFunction?.getD "")]
        ++ groups.map fun g => (g.1, text g.2)) = .ok s := by
  obtain ⟨codes, hcodes, hrender⟩ := bind_eq_ok.1 h
  let text (group : String) := (kit.parameters group f.parameters).toOption.getD ""
  have htext {group code : String} (hcode : kit.parameters group f.parameters = .ok code) :
      text group = code := by
    simp only [text, hcode, Except.toOption, Option.getD_some]
  have hcodes := mapM_eq_ok.1 hcodes
  have heq : codes = groups.map fun g => (g.1, text g.2) := by
    refine eq_map_of_forall₂ (hcodes.imp fun g code hcode => ?_)
    obtain ⟨code', hcode', rfl⟩ := map_eq_ok.1 hcode
    rw [htext hcode']
  refine ⟨text, fun g hg => ?_, heq ▸ hrender⟩
  obtain ⟨code, -, hcode⟩ := exists_of_mem_left hcodes hg
  obtain ⟨code', hcode', -⟩ := map_eq_ok.1 hcode
  rw [htext hcode', hcode']

/-- What is left when the parameters that are added are passed over. -/
theorem declared_fragments (f : Registry.Function) (fragment : Registry.Parameter → String) :
    (f.parameters.map fun p => if p.implicit then none else some (fragment p)).filterMap id =
      f.declaredParameters.map fragment := by
  rw [Registry.Function.declaredParameters, List.filterMap_map, ← List.filterMap_eq_map,
    List.filterMap_filter]
  refine List.filterMap_congr fun p _ => ?_
  cases hp : p.implicit <;> simp [hp]

namespace Kit.Supplied
variable {kit : Kit} {platform : Platform} (h : kit.Supplied platform)
include h

theorem serves : kit.Serves (words platform) (groups platform) := by
  obtain ⟨kit', hkit', hserves⟩ := Kit.exists_load (sound_builtin platform) {} platform
  obtain rfl : kit = kit' :=
    Except.ok.inj ((Kit.load_eq_ok.2 ⟨h.templates, h.rules⟩).symm.trans hkit')
  exact hserves.mono (List.Subset.refl _) (groups_subset platform)

/-! ### Templates -/

section Templates
variable {name source : String} (hsource : (name, source) ∈ Generator.templates platform)
  {bindings : Bindings}
include hsource

/-- What a template is rendered to. -/
theorem filled?_of_render {s : String} (hrender : kit.render name bindings = .ok s) :
    Template.filled? bindings.value source.toList = some s := by
  obtain ⟨t, hget, hrender⟩ := bind_eq_ok.1 (mapError_eq_ok.1 hrender)
  rw [Template.Set.get_ofSources (keeps_words platform) (words_distinct platform) h.templates
    hsource] at hget
  exact Template.filled?_of_render hget hrender

/-- A template is rendered to what its first lines are filled to, and something more. -/
theorem exists_rest {lines texts rest : List String} (hlines : source = Text.lines (lines ++ rest))
    (hrest : rest ≠ []) (htexts : Template.FilledLines bindings.value lines texts) {s : String}
    (hrender : kit.render name bindings = .ok s) :
    ∃ more, s = String.join (texts.map (· ++ "\n")) ++ more := by
  have hfilled := h.filled?_of_render hsource hrender
  rw [hlines, Template.filled?_lines_append htexts hrest] at hfilled
  obtain ⟨more, -, rfl⟩ := Option.map_eq_some_iff.1 hfilled
  exact ⟨more, rfl⟩

/-- A template whose names are bound is rendered to what its source is filled to. -/
theorem render_eq (hbound : (name, bindings.map Prod.fst) ∈ words platform) {s : String}
    (hfilled : Template.filled? bindings.value source.toList = some s) :
    kit.render name bindings = .ok s := by
  obtain ⟨s', hs'⟩ := h.serves.exists_render hbound
  obtain rfl := Option.some.inj (hfilled.symm.trans (h.filled?_of_render hsource hs'))
  exact hs'

/-- A template whose names are bound is rendered line by line. The characters of closed lines, and
what they are filled to, are found by going through the lists with `constructor`. -/
theorem render_lines {lines texts : List String} {css : List (List Char)}
    (hlines : source = Text.lines lines)
    (hbound : (name, bindings.map Prod.fst) ∈ words platform) (hspelled : Text.Spelled lines css)
    (htexts : List.Forall₂ (fun cs text => Template.fill? bindings.value cs = some text)
      css texts) : kit.render name bindings = .ok (Text.lines texts) :=
  h.render_eq hsource hbound
    (hlines ▸ Template.filled?_lines (Template.filledLines_of_spelled hspelled htexts))

end Templates

/-- The code of a constructor begins with what the first line of its template is filled to. -/
theorem exists_constructorCode_eq {template source first line opening : String}
    {rest : List String} (hsource : (template, source) ∈ Generator.templates platform)
    (hlines : source = Text.lines (first :: line :: rest)) {project : ProjectNames}
    {groups : List (String × String)} {f : Registry.Function}
    (hfirst : ∀ text : String → String, Template.filled? (Bindings.value (projectBindings project
        ++ [("name", f.name), ("library_function", f.kind.libraryFunction?.getD "")]
        ++ groups.map fun g => (g.1, text g.2))) first.toList = some opening)
    (hserved : ∃ s, kit.constructorCode project template groups f = .ok s) :
    ∃ more, kit.constructorCode project template groups f = .ok (opening ++ more) := by
  obtain ⟨s, hs⟩ := hserved
  obtain ⟨text, -, hrender⟩ := render_of_constructorCode hs
  have hlines' : source = Text.lines ([first] ++ line :: rest) := hlines
  obtain ⟨more, rfl⟩ := h.exists_rest hsource hlines' (List.cons_ne_nil _ _)
    (.cons (hfirst text) .nil) hrender
  refine ⟨"\n" ++ more, hs.trans (congrArg Except.ok ?_)⟩
  simp [String.append_assoc]

/-! ### Rules -/

theorem group_eq {name : String} (hname : name ∈ (Generator.rules platform).groups.map Prod.fst) :
    kit.rules.group name = .ok ((Generator.rules platform).group name) := by
  obtain ⟨g, hlookup⟩ := Rule.exists_lookup hname
  rw [Rule.Set.group_ofSource h.rules hlookup, Rule.Source.group, hlookup, Option.getD_some]

/-- The groups of a kit are those of its platform's source. -/
theorem eq_group {name : String} {g : Rule.Group} (hg : kit.rules.group name = .ok g) :
    name ∈ (Generator.rules platform).groups.map Prod.fst ∧
      g = (Generator.rules platform).group name := by
  obtain ⟨set, hset, hnames, -⟩ :=
    Rule.Set.exists_ofSource (codes_speak platform) (references_known platform)
  obtain rfl : set = kit.rules := Except.ok.inj (hset.symm.trans h.rules)
  have hname : name ∈ (Generator.rules platform).groups.map Prod.fst := by
    rw [← hnames, ← Rule.Set.name_of_group hg]
    exact List.mem_map_of_mem (Rule.Set.mem_of_group hg)
  exact ⟨hname, Except.ok.inj (hg.symm.trans (h.group_eq hname))⟩

/-- A group with code for whatever parameter there is, that passes over those that are added. -/
theorem givesEach {name : String} {fragment : Registry.Parameter → String}
    (hname : name ∈ (Generator.rules platform).groups.map Prod.fst)
    (hskip : ((Generator.rules platform).group name).skipImplicit = true)
    (hcode : ∀ p : Registry.Parameter, ∃ code,
      (Generator.rules platform).code? name p.type p.rank = some code ∧
      Template.filled? (Rule.Group.valueOf p) code.toList = some (fragment p)) :
    kit.GivesEach name fragment := by
  have hgroup := h.group_eq hname
  have hcovered := h.serves.covered _ (Rule.Set.mem_of_group hgroup)
  refine ⟨_, hgroup, fun f => ?_⟩
  have hfragments : f.parameters.mapM
      (((Generator.rules platform).group name).parameterFragment? none) =
        .ok (f.parameters.map fun p => if p.implicit then none
          else some (((Generator.rules platform).group name).indented (fragment p))) := by
    refine mapM_eq_map fun p _ => ?_
    rw [Rule.Group.parameterFragment?, hskip, Bool.true_and]
    cases p.implicit with
    | true => rfl
    | false =>
      obtain ⟨code, hcode, htext⟩ := hcode p
      exact Rule.Group.fragment?_eq hcovered hcode htext
  refine ⟨hfragments, mapError_eq_ok.2 (bind_eq_ok.2 ⟨_, hgroup, mapError_eq_ok.2 ?_⟩)⟩
  refine bind_eq_ok.2 ⟨_, hfragments, ?_⟩
  rw [declared_fragments]
  rfl

/-- The code for the parameters of a function, of a group that gives each a fragment. -/
theorem parameters_eq {name : String} {fragment : Registry.Parameter → String}
    (hname : name ∈ (Generator.rules platform).groups.map Prod.fst)
    (hgives : kit.GivesEach name fragment) (f : Registry.Function) :
    kit.parameters name f.parameters = .ok (((Generator.rules platform).group name).joined
      (f.declaredParameters.map fun p => ((Generator.rules platform).group name).indented
        (fragment p))) := by
  obtain ⟨g, hg, heach⟩ := hgives
  obtain rfl := Except.ok.inj (hg.symm.trans (h.group_eq hname))
  exact (heach f).2

/-- The code for a return value under a name, of a plain group that has some for it. -/
theorem returnValue_eq {group delimiter name code text : String} {value : ReturnValue}
    (hname : group ∈ (Generator.rules platform).groups.map Prod.fst)
    (hplain : ((Generator.rules platform).group group).Plain delimiter)
    (hcode : (Generator.rules platform).code? group value.type value.rank = some code)
    (htext : Template.filled?
      (Rule.Group.bindings name value.type value.rank value.description "").value code.toList =
        some text) :
    kit.returnValue group name value =
      .ok (((Generator.rules platform).group group).indented text) := by
  have hgroup := h.group_eq hname
  have hcovered := h.serves.covered _ (Rule.Set.mem_of_group hgroup)
  let named : Registry.Parameter :=
    { name, type := value.type, rank := value.rank, default := none,
      description := value.description, implicit := false }
  refine mapError_eq_ok.2 (bind_eq_ok.2 ⟨_, hgroup, mapError_eq_ok.2 ?_⟩)
  exact hplain.applyReturn_eq (Rule.Group.fragment?_eq (p := named) hcovered hcode htext)

end Kit.Supplied
end Generator
end Bindery
