import Bindery.Proofs.Results
import Bindery.Rule.Set

/-! The code of the groups of a source.

When a source is read, each of its groups has the code that its rules name (`Set.group_ofSource`). A
group that has code for each of some parameters gives the fragments in the order of the parameters
(`Group.apply_eq`). -/
namespace Bindery.Rule

/-! ### Groups of a source -/

/-- The code of a source under a name. -/
def Source.template? (source : Source) (id : String) : Option Template :=
  (source.codes.lookup id).bind fun code => (Template.parse ("codes." ++ id) code).toOption

/-- A group with the code of its source. -/
def Source.resolved (source : Source) (name : String) (g : GroupSource) : Group where
  name := name
  delimiter := g.delimiter
  indent := g.indent
  before := g.before
  after := g.after
  skipImplicit := g.skipImplicit
  rules := g.rules.map fun r => ⟨r.rank, r.type, r.code.bind source.template?⟩

/-- Code that has been read from a source. -/
def Read (code : String × String) (t : String × Template) : Prop :=
  t.1 = code.1 ∧ Template.parse ("codes." ++ code.1) code.2 = .ok t.2

/-- Reads a piece of code. -/
def readCode (code : String × String) : Except Fault (String × Template) :=
  ((Template.parse ("codes." ++ code.1) code.2).map (code.1, ·)).mapError .template

theorem readCode_eq_ok {code : String × String} {t : String × Template} :
    readCode code = .ok t ↔ Read code t := by
  rw [readCode, mapError_eq_ok, map_eq_ok, Read]
  constructor
  · rintro ⟨template, hparse, rfl⟩
    exact ⟨rfl, hparse⟩
  · rintro ⟨hname, hparse⟩
    exact ⟨t.2, hparse, Prod.ext hname.symm rfl⟩

theorem forall₂_read {codes : List (String × String)} {templates : List (String × Template)}
    (h : codes.mapM readCode = .ok templates) : List.Forall₂ Read codes templates :=
  (mapM_eq_ok.1 h).imp fun _ _ => readCode_eq_ok.1

theorem lookup_of_read {codes : List (String × String)} {templates : List (String × Template)}
    (h : List.Forall₂ Read codes templates) (id : String) :
    templates.lookup id =
      (codes.lookup id).bind fun code => (Template.parse ("codes." ++ id) code).toOption := by
  induction h with
  | nil => rfl
  | @cons code t _ _ hread _ ih =>
    obtain ⟨hname, hparse⟩ := hread
    obtain ⟨name, source⟩ := code
    obtain ⟨name', template⟩ := t
    obtain rfl : name' = name := hname
    rw [List.lookup_cons, List.lookup_cons, ih]
    by_cases hid : id = name'
    · subst hid
      simp only [beq_self_eq_true, Option.bind_some]
      rw [hparse]
      rfl
    · simp only [beq_eq_false_iff_ne.2 hid]

/-- A rule gets the code that it names. -/
theorem eq_of_ofReference {templates : List (String × Template)} {group : String} {r : Reference}
    {rule : Rule} (h : ofReference templates group r = .ok rule) :
    rule = ⟨r.rank, r.type, r.code.bind (templates.lookup ·)⟩ := by
  obtain ⟨rank, type, code⟩ := r
  obtain ⟨code', hcode, hrule⟩ := bind_eq_ok.1 h
  cases hrule
  cases code with
  | none =>
    cases hcode
    rfl
  | some id =>
    cases hlookup : templates.lookup id with
    | none => simp [hlookup] at hcode
    | some t =>
      simp [hlookup] at hcode
      simp [hlookup, hcode]

/-- A group that is built has the code of its source. -/
theorem Group.eq_of_ofSource {source : Source} {templates : List (String × Template)}
    (hread : List.Forall₂ Read source.codes templates) {name : String} {g : GroupSource}
    {group : Group} (h : Group.ofSource templates name g = .ok group) :
    group = source.resolved name g := by
  obtain ⟨rules, hrules, hgroup⟩ := bind_eq_ok.1 h
  cases hgroup
  have heq : rules = g.rules.map fun r => ⟨r.rank, r.type, r.code.bind source.template?⟩ := by
    refine eq_map_of_forall₂ ((mapM_eq_ok.1 hrules).imp fun r rule hrule => ?_)
    rw [eq_of_ofReference hrule]
    exact congrArg (Rule.mk r.rank r.type <| r.code.bind ·)
      (funext (lookup_of_read hread))
  rw [heq, Source.resolved]

theorem find?_resolved (source : Source) (groups : List (String × GroupSource)) (name : String) :
    (groups.map fun g => source.resolved g.1 g.2).find? (·.name = name) =
      (groups.lookup name).map (source.resolved name) := by
  induction groups with
  | nil => rfl
  | cons g rest ih =>
    obtain ⟨name', g⟩ := g
    rw [List.map_cons, List.find?_cons, List.lookup_cons, ih]
    by_cases hname : name = name'
    · subst hname
      simp [Source.resolved]
    · simp [Source.resolved, Ne.symm hname, beq_eq_false_iff_ne.2 hname]

/-- A source is read by reading its code and then building its groups. -/
theorem Set.ofSource_eq (source : Source) :
    ofSource source = source.codes.mapM readCode >>= fun templates =>
      (source.groups.mapM fun g => Group.ofSource templates g.1 g.2).map Set.mk := by
  refine congrArg (· >>= _) (mapM_congr_left fun code _ => ?_)
  obtain ⟨id, text⟩ := code
  rw [readCode]
  dsimp only
  cases Template.parse ("codes." ++ id) text <;> rfl

/-- What is read from a source has the groups of the source with their code. -/
theorem Set.groups_ofSource {source : Source} {set : Set} (h : ofSource source = .ok set) :
    set.groups = source.groups.map fun g => source.resolved g.1 g.2 := by
  rw [ofSource_eq] at h
  obtain ⟨templates, htemplates, h⟩ := bind_eq_ok.1 h
  obtain ⟨groups, hgroups, rfl⟩ := map_eq_ok.1 h
  exact eq_map_of_forall₂
    ((mapM_eq_ok.1 hgroups).imp fun _ _ => Group.eq_of_ofSource (forall₂_read htemplates))

/-- A group is found as it is in the source. -/
theorem Set.group_ofSource {source : Source} {set : Set} (h : ofSource source = .ok set)
    {name : String} {g : GroupSource} (hg : source.groups.lookup name = some g) :
    set.group name = .ok (source.resolved name g) := by
  rw [group, groups_ofSource h, find?_resolved, hg]
  rfl

/-- No other group is found. -/
theorem Set.group_ofSource_of_lookup_eq_none {source : Source} {set : Set}
    (h : ofSource source = .ok set) {name : String} (hg : source.groups.lookup name = none) :
    set.group name = .error (.unknownGroup name) := by
  rw [group, groups_ofSource h, find?_resolved, hg]
  rfl

/-- A group that is found is one of the groups. -/
theorem Set.mem_of_group {set : Set} {name : String} {g : Group} (h : set.group name = .ok g) :
    g ∈ set.groups := by
  rw [group] at h
  split at h
  · next hfind =>
    cases h
    exact List.mem_of_find?_eq_some hfind
  · cases h

theorem Set.name_of_group {set : Set} {name : String} {g : Group} (h : set.group name = .ok g) :
    g.name = name := by
  rw [group] at h
  split at h
  · next hfind =>
    cases h
    simpa using List.find?_some hfind
  · cases h

/-! ### Fragments -/

namespace Group

/-- A group gives the fragments of all parameters with a delimiter between them and nothing around
them. -/
structure Plain (g : Group) (delimiter : String) : Prop where
  before : g.before = ""
  after : g.after = ""
  delimiter : g.delimiter = delimiter
  all : g.skipImplicit = false

variable {g : Group}

theorem Plain.joined_eq {delimiter : String} (hg : g.Plain delimiter) (fragments : List String) :
    g.joined fragments = delimiter.intercalate fragments := by
  cases fragments with
  | nil => rfl
  | cons f rest => simp [joined, hg.before, hg.after, hg.delimiter]

/-- Parameters that all have a fragment give their fragments in order. -/
theorem apply_eq {fragment : Registry.Parameter → String} {ps : List Registry.Parameter}
    (h : ∀ p ∈ ps, g.parameterFragment? none p = .ok (some (fragment p))) :
    g.apply ps = .ok (g.joined (ps.map fragment)) := by
  have hfragments : ps.mapM (g.parameterFragment? none) = .ok (ps.map fun p => some (fragment p)) :=
    mapM_eq_map h
  rw [apply, applyReplacing, hfragments]
  show Except.ok _ = _
  simp

/-- The fragments of parameters, of a plain group. -/
theorem Plain.apply_eq {delimiter : String} (hg : g.Plain delimiter)
    {fragment : Registry.Parameter → String} {ps : List Registry.Parameter}
    (h : ∀ p ∈ ps, g.fragment? p.type p.rank
      (bindings p.name p.type p.rank p.description (p.default.getD "")) =
        .ok (some (fragment p))) :
    g.apply ps = .ok (delimiter.intercalate (ps.map fragment)) := by
  rw [← hg.joined_eq]
  refine Group.apply_eq fun p hp => ?_
  rw [parameterFragment?, hg.all]
  exact h p hp

/-- The fragment of a return value, of a plain group. -/
theorem Plain.applyReturn_eq {delimiter : String} (hg : g.Plain delimiter) {name : String}
    {value : ReturnValue} {fragment : String}
    (h : g.fragment? value.type value.rank
      (bindings name value.type value.rank value.description "") = .ok (some fragment)) :
    g.applyReturn name value = .ok fragment := by
  rw [applyReturn, h]
  show Except.ok (g.joined [fragment]) = _
  rw [hg.joined_eq, String.intercalate_singleton]

end Group
end Bindery.Rule
