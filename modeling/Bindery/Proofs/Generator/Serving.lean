import Bindery.Generator
import Bindery.Proofs.Rule.Checked

/-! Kits that serve the pages of a platform.

A page asks for templates and for groups of rules by their names, and binds the same names whenever
it renders a template. A table lists the templates with the names that are bound for them. A kit
that has these templates and groups, with templates that speak of bound names only, serves every
page: whatever it is asked for gives text (`Serves`). -/
namespace Bindery.Generator.Kit

/-- A kit has the templates of a table and some groups, and its code keeps to what is bound. -/
structure Serves (kit : Kit) (table : List (String × List String)) (groups : List String) :
    Prop where
  templates : ∀ entry ∈ table, ∃ t, kit.templates.get entry.1 = .ok t ∧ t.placeholders ⊆ entry.2
  groups : ∀ name ∈ groups, name ∈ kit.rules.names
  covered : ∀ g ∈ kit.rules.groups, g.Covered

/-- A kit that serves serves less. -/
theorem Serves.mono {kit : Kit} {table table' : List (String × List String)}
    {groups groups' : List String} (h : kit.Serves table groups) (htable : table' ⊆ table)
    (hgroups : groups' ⊆ groups) : kit.Serves table' groups' where
  templates entry hentry := h.templates entry (htable hentry)
  groups name hname := h.groups name (hgroups hname)
  covered := h.covered

namespace Serves
variable {kit : Kit} {table : List (String × List String)} {groups : List String}
  (h : kit.Serves table groups)
include h

/-- A template is rendered with what the table lists for it. -/
theorem exists_render {template : String} {bindings : Bindings}
    (hentry : (template, bindings.map Prod.fst) ∈ table) :
    ∃ s, kit.render template bindings = .ok s := by
  obtain ⟨t, ht, hwords⟩ := h.templates _ hentry
  exact exists_mapError (exists_bind_ok ht (Template.exists_render hwords)) _

theorem exists_code {group : String} (hgroup : group ∈ groups)
    {code : Rule.Group → Except Template.Fault String}
    (hcode : ∀ g : Rule.Group, g.Covered → ∃ s, code g = .ok s) :
    ∃ s, kit.code group code = .ok s := by
  obtain ⟨g, hg, hfound⟩ := Rule.Set.exists_group (h.groups group hgroup)
  exact exists_mapError (exists_bind_ok hfound (exists_mapError (hcode g (h.covered g hg)) _)) _

theorem exists_parameters {group : String} (hgroup : group ∈ groups)
    (ps : List Registry.Parameter) : ∃ s, kit.parameters group ps = .ok s :=
  h.exists_code hgroup fun _ hg => Rule.Group.exists_applyReplacing hg ps none

theorem exists_returnValue {group : String} (hgroup : group ∈ groups) (name : String)
    (value : ReturnValue) : ∃ s, kit.returnValue group name value = .ok s :=
  h.exists_code hgroup fun _ hg => Rule.Group.exists_applyReturn hg name value

/-- A function with or without a loop has its arguments. -/
theorem exists_loopCall (hgroup : "library_call" ∈ groups) (f : Registry.Function) :
    ∃ s, kit.loopCall f = .ok s := by
  rw [loopCall]
  cases f.kind.loopParameter? with
  | none => exact ⟨"", rfl⟩
  | some name => exact h.exists_code hgroup fun _ hg => Rule.Group.exists_applyReplacing hg _ _

/-- A template for constructors is rendered with the code of its groups. -/
theorem exists_constructorCode {template : String} {named : List (String × String)}
    (hentry : (template, ["lib_root", "namespace", "name", "library_function"] ++
      named.map Prod.fst) ∈ table)
    (hgroups : ∀ g ∈ named, g.2 ∈ groups) (project : ProjectNames) (f : Registry.Function) :
    ∃ s, kit.constructorCode project template named f = .ok s := by
  have hcodes := exists_mapM_forall₂ (R := fun g c => c.1 = g.1)
    (f := fun g : String × String => (kit.parameters g.2 f.parameters).map (g.1, ·)) fun g hg => by
      obtain ⟨s, hs⟩ := h.exists_parameters (hgroups g hg) f.parameters
      exact ⟨(g.1, s), map_eq_ok.2 ⟨s, hs, rfl⟩, rfl⟩
  obtain ⟨codes, hcodes, hnames⟩ := hcodes
  refine exists_bind_ok hcodes (h.exists_render ?_)
  rw [← map_eq_of_forall₂ hnames] at hentry
  rwa [List.map_append, List.map_append]

end Serves

/-! ### Kits as they come -/

/-- Templates that keep to a table, and rules whose code is there and keeps to its words. -/
structure Sound (table : List (String × List String)) (templates : List (String × String))
    (rules : Rule.Source) : Prop where
  templates : List.Forall₂ Template.Keeps templates table
  distinct : (table.map Prod.fst).Nodup
  codes : ∀ code ∈ rules.codes, Template.Speaks Rule.words ("codes." ++ code.1) code.2
  known : rules.references ⊆ rules.codes.map Prod.fst

/-- Without a directory of replacements, a kit has what the sources give. -/
theorem load_eq_ok {tree : FileTree} {platform : Platform} {templates : List (String × String)}
    {rules : Rule.Source} {kit : Kit} : load tree none platform templates rules = .ok kit ↔
      Template.Set.ofSources templates = .ok kit.templates ∧
        Rule.Set.ofSource rules = .ok kit.rules := by
  have htemplates : Template.Set.load tree none templates = Template.Set.ofSources templates := by
    rw [Template.Set.load]
    cases Template.Set.ofSources templates <;> rfl
  have hrules (builtin : Except Rule.Fault Rule.Set) :
      Rule.Set.load tree platform.name none builtin = builtin := rfl
  obtain ⟨set, groups⟩ := kit
  simp only [load, htemplates, hrules, bind_eq_ok, mapError_eq_ok, pure, Except.pure,
    Except.ok.injEq, mk.injEq]
  constructor
  · rintro ⟨_, hset, _, hgroups, rfl, rfl⟩
    exact ⟨hset, hgroups⟩
  · rintro ⟨hset, hgroups⟩
    exact ⟨set, hset, groups, hgroups, rfl, rfl⟩

/-- Without a directory of replacements, sound templates and rules make a kit that serves. -/
theorem exists_load {table : List (String × List String)} {templates : List (String × String)}
    {rules : Rule.Source} (h : Sound table templates rules) (tree : FileTree)
    (platform : Platform) :
    ∃ kit, load tree none platform templates rules = .ok kit ∧
      kit.Serves table (rules.groups.map Prod.fst) := by
  obtain ⟨set, hset, hfound⟩ := Template.Set.exists_ofSources h.templates h.distinct
  obtain ⟨groups, hgroups, hnames, hcovered⟩ := Rule.Set.exists_ofSource h.codes h.known
  exact ⟨⟨set, groups⟩, load_eq_ok.2 ⟨hset, hgroups⟩, hfound, fun _ hname => hnames ▸ hname, hcovered⟩

end Bindery.Generator.Kit
