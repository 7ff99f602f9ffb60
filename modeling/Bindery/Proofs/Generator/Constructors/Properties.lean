import Bindery.Proofs.Compilation.Verdict
import Bindery.Proofs.Generator.Constructors.Values
import Bindery.Proofs.Registry.Parameters
import Mathlib.Data.List.Pairwise

/-! Which properties of a value object can be reached.

A value object finds a property by its name, in a chain of branches where the first that fits is
taken, and names fit up to the case of letters (`reached_iff`). Metadata is checked with the case of
letters. So a parameter that differs from an earlier property only in case is accepted, and nothing
reaches its branch (`properties_reached_iff`). -/
namespace Bindery.Generator.ValueObjects

/-! ### Chains of branches -/

/-- A branch: the name that it is for, and what it does. -/
abbrev Branch := String × String

/-- The lines of a branch after a word. -/
def branchLines (word : String) (b : Branch) : List String :=
  ["        " ++ word ++ " (boost::iequals(name, \"" ++ b.1 ++ "\"))", "            " ++ b.2]

/-- The lines of a chain of branches, and of what is done for other names. -/
def chainLines : List Branch → String → List String
  | [], otherwise => ["        " ++ otherwise]
  | b :: rest, otherwise =>
    branchLines "if" b ++ rest.flatMap (branchLines "else if")
      ++ ["        else", "            " ++ otherwise]

/-- For each branch there is a name that it is taken for. -/
def Reached (branches : List Branch) : Prop :=
  ∀ i < branches.length, ∃ name,
    branches.findIdx? (fun b => Support.sameName name b.1) = some i

/-- Names that are told apart without the case of letters. -/
def Apart (names : List String) : Prop := names.Pairwise fun a b => ¬ Support.sameName a b = true

/-- Two names that are the same up to case. -/
theorem sameName_iff {a b : String} :
    Support.sameName a b = true ↔ a.toList.map Char.toLower = b.toList.map Char.toLower := by
  rw [Support.sameName, decide_eq_true_iff]

theorem sameName_comm {a b : String} :
    Support.sameName a b = true ↔ Support.sameName b a = true := by
  rw [sameName_iff, sameName_iff, eq_comm]

/-- Every branch is reached exactly when no two are for the same name up to case. -/
theorem reached_iff {branches : List Branch} :
    Reached branches ↔ Apart (branches.map Prod.fst) := by
  rw [Apart, List.pairwise_map, List.pairwise_iff_getElem]
  simp only [sameName_iff]
  constructor
  · intro h i j hi hj hij hsame
    obtain ⟨name, hfirst⟩ := h j hj
    obtain ⟨_, hfits, hearlier⟩ := List.findIdx?_eq_some_iff_getElem.1 hfirst
    exact hearlier i hij (sameName_iff.2 ((sameName_iff.1 hfits).trans hsame.symm))
  · intro h i hi
    refine ⟨branches[i].1, List.findIdx?_eq_some_iff_getElem.2 ⟨hi, sameName_iff.2 rfl, ?_⟩⟩
    intro k hk hsame
    exact h k i (hk.trans hi) hi hk (sameName_iff.1 hsame).symm

/-! ### The chains of a value object -/

section Chains
variable (f : Registry.Function)

/-- The names of the properties, in the order of their branches. -/
def properties : List String :=
  ["ObjectId", "ClassName"] ++ f.declaredParameters.map (·.name) ++ ["Permanent"]

/-- The branches that give a property. -/
def getters : List Branch :=
  [("ObjectId", "return objectId_;"), ("ClassName", "return className_;")]
    ++ f.declaredParameters.map (fun p => (p.name, (Value.of p).returned))
    ++ [("Permanent", "return permanent_;")]

/-- The branches that replace a property. -/
def setters : List Branch :=
  [("ObjectId", "objectId_ = boost::get<std::string>(value);"),
   ("ClassName", "className_ = boost::get<std::string>(value);")]
    ++ f.declaredParameters.map (fun p => (p.name, (Value.of p).replaced))
    ++ [("Permanent", "permanent_ = ObjectHandler::convert2<bool>(value);")]

theorem names_getters : (getters f).map Prod.fst = properties f := by
  simp [getters, properties, Function.comp_def]

theorem names_setters : (setters f).map Prod.fst = properties f := by
  simp [setters, properties, Function.comp_def]

/-- The lines of the function that gives a property. -/
def getterLines : List String :=
  ["    ObjectHandler::property_t " ++ f.name
    ++ "::getSystemProperty(const std::string& name) const \x7b"]
  ++ chainLines (getters f)
    "OH_FAIL(\"Error: attempt to retrieve non-existent Property: '\" + name + \"'\");"
  ++ ["    \x7d"]

/-- The lines of the function that replaces a property. -/
def setterLines : List String :=
  ["    void " ++ f.name
    ++ "::setSystemProperty(const std::string& name, const ObjectHandler::property_t& value) \x7b"]
  ++ chainLines (setters f)
    "OH_FAIL(\"Error: attempt to set non-existent Property: '\" + name + \"'\");"
  ++ ["    \x7d"]

/-- A text has the two functions. -/
structure HasChains (text : String) : Prop where
  getter : ∃ before after, text = before ++ Text.lines (getterLines f) ++ after
  setter : ∃ before after, text = before ++ Text.lines (setterLines f) ++ after

end Chains

/-! ### Rendering -/

/-- A group that puts its fragments in lines. -/
structure InLines (g : Rule.Group) : Prop where
  before : g.before = ""
  delimiter : g.delimiter = "\n"
  after : g.after = "\n"

theorem InLines.joined_eq {g : Rule.Group} (hg : InLines g) (fragments : List String) :
    g.joined fragments = String.join (fragments.map (· ++ "\n")) := by
  cases fragments with
  | nil => rfl
  | cons fragment rest =>
    simp only [Rule.Group.joined, hg.before, hg.delimiter, hg.after]
    induction rest generalizing fragment with
    | nil => simp
    | cons fragment' rest ih =>
      rw [String.intercalate_cons_cons, List.map_cons, String.join_cons, ← ih fragment']
      simp [String.append_assoc]

/-- Branches of declared parameters, as a group of rules gives them. -/
theorem joined_branches {g : Rule.Group} (hg : InLines g) (hindent : g.indent = 8)
    (ps : List Registry.Parameter) (action : Value → String) :
    g.joined (ps.map fun p => g.indented (Value.test p.name ++ action (.of p))) =
      String.join (((ps.map fun p => (p.name, action (.of p))).flatMap
        (branchLines "else if")).map (· ++ "\n")) := by
  rw [hg.joined_eq, List.map_map]
  induction ps with
  | nil => rfl
  | cons p ps ih =>
    rw [List.map_cons, String.join_cons, ih, List.map_cons, List.flatMap_cons, List.map_append,
      String.join_append]
    refine congrArg (· ++ _) ?_
    have hspaces : Text.times 8 ' ' = "        " := rfl
    simp only [Function.comp_apply, Rule.Group.indented, hindent, hspaces, branchLines,
      List.map_cons, List.map_nil, String.join_cons, String.join_nil]
    unfold Value.test
    simp only [← String.append_assoc]
    simp [String.append_assoc]

/-- A function with a chain. In its template, the branches of the parameters and a line of its own are
in one line. -/
theorem lines_chain (f : Registry.Function) (action : Value → String) {branches : String}
    (hbranches : branches = String.join (((f.declaredParameters.map fun p =>
      (p.name, action (.of p))).flatMap (branchLines "else if")).map (· ++ "\n")))
    (head objectId className permanent otherwise : String) :
    Text.lines ([head] ++ chainLines ([("ObjectId", objectId), ("ClassName", className)]
        ++ f.declaredParameters.map (fun p => (p.name, action (.of p)))
        ++ [("Permanent", permanent)]) otherwise ++ ["    \x7d"]) =
      Text.lines [head,
        "        if (boost::iequals(name, \"ObjectId\"))", "            " ++ objectId,
        "        else if (boost::iequals(name, \"ClassName\"))", "            " ++ className,
        branches ++ "        else if (boost::iequals(name, \"Permanent\"))",
        "            " ++ permanent, "        else", "            " ++ otherwise, "    \x7d"] := by
  rw [hbranches]
  refine .trans ?_ (Template.lines_middle [_, _, _, _, _] _ _ _)
  simp [chainLines, branchLines]

set_option maxRecDepth 2000 in
/-- The definition of a class has the two functions. -/
theorem hasChains {kit : Kit} (h : kit.Supplied .valueObjects) (project : ProjectNames)
    (f : Registry.Function) :
    ∃ s, kit.constructorCode project "vo.definition" definitionGroups f = .ok s ∧
      HasChains f s := by
  obtain ⟨s, hs⟩ := exists_definition h.serves project f
  obtain ⟨text, htext, hrender⟩ := Kit.render_of_constructorCode hs
  have hgetters := h.parameters_eq (by decide) h.givesEach_getProperty f
  rw [htext ("get_property", "get_property") (by decide)] at hgetters
  have hgives : kit.GivesEach "set_property" fun p => (Value.of p).setter :=
    Value.Role.setter.givesEach h
  have hsetters := h.parameters_eq (by decide) hgives f
  rw [htext ("set_property", "set_property") (by decide)] at hsetters
  have hsource : ("vo.definition", definition) ∈ templates :=
    .tail _ <| .tail _ <| .tail _ <| .tail _ <| .head _
  have hfilled := h.filled?_of_render hsource hrender
  refine ⟨s, hs, ?_, ?_⟩
  · rw [getterLines, getters, lines_chain f Value.returned
      ((Except.ok.inj hgetters).trans (joined_branches ⟨rfl, rfl, rfl⟩ rfl _ _))]
    exact Template.exists_around 22 10 hfilled
      (Template.filledLines_of_spelled (by repeat constructor) (by repeat constructor))
  · rw [setterLines, setters, lines_chain f Value.replaced
      ((Except.ok.inj hsetters).trans (joined_branches ⟨rfl, rfl, rfl⟩ rfl _ _))]
    exact Template.exists_around 33 10 hfilled
      (Template.filledLines_of_spelled (by repeat constructor) (by repeat constructor))

/-! ### Compiled metadata -/

/-- The names of parameters are told apart without the case of letters, also from the names of the
properties that every value object has. -/
structure ApartByCase (names : List String) : Prop where
  declared : ∀ a ∈ names, ∀ b ∈ names, Support.sameName a b = true → a = b
  own : ∀ a ∈ names, ∀ b ∈ ["ObjectId", "ClassName", "Permanent"], ¬ Support.sameName a b = true

/-- Properties are told apart exactly when the declared parameters are. -/
theorem apart_properties_iff {f : Registry.Function}
    (hdistinct : (f.declaredParameters.map (·.name)).Nodup) :
    Apart (properties f) ↔ ApartByCase (f.declaredParameters.map (·.name)) := by
  rw [Apart, properties, List.pairwise_append, List.pairwise_append]
  constructor
  · rintro ⟨⟨-, hdeclared, hbefore⟩, -, hafter⟩
    refine ⟨fun a ha b hb => ?_, fun a ha => ?_⟩
    · have hsymm : Std.Symm fun a b => ¬ Support.sameName a b = true :=
        ⟨fun _ _ => mt sameName_comm.1⟩
      contrapose!
      exact hdeclared.forall ha hb
    · simp only [List.forall_mem_cons]
      exact ⟨mt sameName_comm.1 (hbefore _ (by decide) a ha),
        mt sameName_comm.1 (hbefore _ (by decide) a ha),
        hafter a (List.mem_append_right _ ha) _ (by decide), List.forall_mem_nil _⟩
  · intro h
    have hown : ∀ a ∈ ["ObjectId", "ClassName"], ¬ Support.sameName a "Permanent" = true := by
      decide
    refine ⟨⟨by decide, ?_, fun a ha b hb => ?_⟩, List.pairwise_singleton _ _, ?_⟩
    · exact hdistinct.pairwise_of_forall_ne fun a ha b hb hne hsame =>
        hne (h.declared a ha b hb hsame)
    · exact mt sameName_comm.1 (h.own b hb a (List.mem_append_left ["Permanent"] ha))
    · intro a ha b hb
      obtain rfl := List.mem_singleton.1 hb
      rcases List.mem_append.1 ha with ha | ha
      · exact hown a ha
      · exact h.own a ha _ (by decide)

/-- **Which value objects have all their properties reached.** The class of every constructor of
compiled metadata has a chain of branches that gives a property by its name, and another that replaces
it. Each of their branches is taken for some name exactly when the properties are told apart without
the case of letters, and that is when the declared parameters are, also from the properties that every
value object has. -/
theorem properties_reached_iff (tree : FileTree) {project : ProjectNames} {m : Metadata}
    (hm : ∀ c ∈ m.categories, ∃ source filename, Metadata.Category.parse source filename = .ok c)
    {after : Compilation}
    (hrun : (Compilation.fresh project m).run Compilation.standard = (after, .ok ()))
    {r : Registry} (hr : after.registry = some r) :
    ∃ kit : Kit, (∀ settings, load tree none settings r .valueObjects =
        .ok (ofKit kit settings r .valueObjects)) ∧
      ∀ c ∈ r.categories, ∀ f ∈ c.constructors,
        (∃ s, kit.constructorCode r.project "vo.definition" definitionGroups f = .ok s ∧
          HasChains f s) ∧
        (Reached (getters f) ↔ Apart (properties f)) ∧
        (Reached (setters f) ↔ Apart (properties f)) ∧
        (Apart (properties f) ↔ ApartByCase (f.declaredParameters.map (·.name))) := by
  obtain ⟨kit, hkit, hload⟩ := exists_supplied tree .valueObjects
  refine ⟨kit, fun settings => hload settings r, fun c hc f hf =>
    ⟨hasChains hkit r.project f, names_getters f ▸ reached_iff, names_setters f ▸ reached_iff, ?_⟩⟩
  obtain ⟨g, hg, -, hmade⟩ := Compilation.exists_declaration (Metadata.sound_of_parsed hm) hrun hr hc
    (List.mem_of_mem_filter hf)
  have hdistinct := (Registry.Function.completed_of_sound hg hmade).distinct
  exact apart_properties_iff (hdistinct.sublist (List.filter_sublist.map _))

/-- A constructor with a parameter that has the name of a property. -/
def clashSource : String :=
  "<C name='a'><Functions><Constructor name='bond'><libraryFunction>Bond</libraryFunction>"
    ++ "<Parameters><Parameter name='ObjectId'><type>long</type></Parameter></Parameters>"
    ++ "</Constructor></Functions></C>"

/-- The category of `clashSource`. -/
def clashes : Metadata where
  categories :=
    [⟨"a", "a", "", [],
      [⟨"bond", .constructor, some "Bond", none, none, none, none, none, none, false, true, [],
        [⟨"ObjectId", .long, .scalar, none, ""⟩], none⟩]⟩]
  enumerations := []

/-- The parameter is accepted, and its branches are never taken. -/
theorem properties_clashes :
    (∀ c ∈ clashes.categories, Metadata.Category.parse clashSource "a.xml" = .ok c) ∧
      ∃ after r, (Compilation.fresh ⟨"P", "P", "p"⟩ clashes).run Compilation.standard =
          (after, .ok ()) ∧ after.registry = some r ∧
        r.categories.map (·.constructors.map properties) =
          [[["ObjectId", "ClassName", "ObjectId", "Permanent"]]] ∧
        ∀ c ∈ r.categories, ∀ f ∈ c.constructors,
          ¬ Reached (getters f) ∧ ¬ Reached (setters f) := by
  have hparse : ∀ c ∈ clashes.categories, Metadata.Category.parse clashSource "a.xml" = .ok c :=
    Metadata.parse_of_chars
      (Metadata.append_chars (Metadata.append_chars rfl rfl) rfl)
      (by decide +kernel)
  have hparsed : ∀ c ∈ clashes.categories, ∃ source filename,
      Metadata.Category.parse source filename = .ok c := fun c hc => ⟨_, _, hparse c hc⟩
  have hsound := Metadata.sound_of_parsed hparsed
  obtain ⟨r, hmade⟩ := Registry.exists_ofMetadata ⟨"P", "P", "p"⟩ hsound
  have hrun := Compilation.run_standard hsound hmade
  rw [if_pos (by decide +kernel)] at hrun
  obtain ⟨kit, -, hreached⟩ := properties_reached_iff {} hparsed hrun rfl
  have hproperties : r.categories.map (·.constructors.map properties) =
      [[["ObjectId", "ClassName", "ObjectId", "Permanent"]]] := by
    have hlowered : (Registry.ofMetadata ⟨"P", "P", "p"⟩ clashes).map
        (·.categories.map (·.constructors.map properties)) =
        .ok [[["ObjectId", "ClassName", "ObjectId", "Permanent"]]] := rfl
    rw [hmade] at hlowered
    exact Except.ok.inj hlowered
  refine ⟨hparse, _, r, hrun, rfl, hproperties, fun c hc f hf => ?_⟩
  have hclash : ¬ Apart (properties f) := by
    have hcategory := List.mem_map_of_mem (f := (·.constructors.map properties)) hc
    rw [hproperties, List.mem_singleton] at hcategory
    have hfunction := List.mem_map_of_mem (f := properties) hf
    rw [hcategory, List.mem_singleton] at hfunction
    rw [hfunction, Apart]
    decide
  obtain ⟨-, hgetters, hsetters, -⟩ := hreached c hc f hf
  exact ⟨mt hgetters.1 hclash, mt hsetters.1 hclash⟩

end Bindery.Generator.ValueObjects
