import Bindery.Proofs.Rule.Code
import Bindery.Proofs.Rule.Contributions
import Bindery.Proofs.Rule.Fragments

/-! What is checked when rules are read.

All code of a source is read, used or not, and every rule has to name code that is there. The first
piece of code that cannot be read is reported, and only then the first rule that names unknown code
(`Source.Faulty`). The groups that are built have the code that was read. So what goes wrong with them
later is a placeholder with a name that the code of rules may not speak of, in code that the group
selects for what it is given (`Set.ofSource_verdict`). -/
namespace Bindery.Rule

/-- A piece of code can be read. -/
def Readable (code : String × String) : Prop :=
  ∃ t, Template.parse ("codes." ++ code.1) code.2 = .ok t

namespace Source

/-- The code that a rule names is there. -/
def Defines (source : Source) (r : Reference) : Prop := ∀ id ∈ r.code, id ∈ source.codes.map Prod.fst

/-- What is wrong with a source: the first piece of its code that cannot be read or, where all can be,
the first rule of the first group that names unknown code. -/
inductive Faulty (source : Source) : Fault → Prop where
  | code {before after} {code : String × String} {fault : Template.Fault}
      (codes : source.codes = before ++ code :: after) (readable : ∀ c ∈ before, Readable c)
      (fails : Template.parse ("codes." ++ code.1) code.2 = .error fault) :
      Faulty source (.template fault)
  | reference {before after} {name : String} {g : GroupSource} {rules rest} {r : Reference}
      {id : String} (readable : ∀ c ∈ source.codes, Readable c)
      (groups : source.groups = before ++ (name, g) :: after)
      (defined : ∀ g ∈ before, ∀ r ∈ g.2.rules, source.Defines r)
      (split : g.rules = rules ++ r :: rest) (earlier : ∀ r ∈ rules, source.Defines r)
      (names : r.code = some id) (unknown : id ∉ source.codes.map Prod.fst) :
      Faulty source (.unknownCode name id)

/-- A rule that is built has the code that is read under the name, or no code if it names none. -/
structure Resolves (source : Source) (r : Reference) (rule : Rule) : Prop where
  rank : rule.rank = r.rank
  type : rule.type = r.type
  absent : r.code = none → rule.code = none
  code : ∀ id, r.code = some id → ∃ text t, source.codes.lookup id = some text ∧
    Template.parse ("codes." ++ id) text = .ok t ∧ rule.code = some t

/-- What a group of a source has no value for: a placeholder that is none of the words, in the code
that the group selects for a type and an arrangement. -/
inductive Lacks (source : Source) (g : Group) (type : DataType) (rank : TensorRank) : Fault → Prop where
  | placeholder {id text word : String} {t : Template} (selects : g.Selects type rank t)
      (code : source.codes.lookup id = some text)
      (read : Template.parse ("codes." ++ id) text = .ok t) (speaks : word ∈ t.placeholders)
      (unknown : word ∉ words) :
      Lacks source g type rank (.template (.unknownPlaceholder ("codes." ++ id) word))

end Source

/-! ### Reading the code -/

theorem exists_readCode {code : String × String} : (∃ t, readCode code = .ok t) ↔ Readable code := by
  simp only [readCode_eq_ok]
  constructor
  · rintro ⟨t, -, hparse⟩
    exact ⟨t.2, hparse⟩
  · rintro ⟨t, hparse⟩
    exact ⟨(code.1, t), rfl, hparse⟩

theorem readCode_eq_error {code : String × String} {fault : Fault} :
    readCode code = .error fault ↔
      ∃ fault', Template.parse ("codes." ++ code.1) code.2 = .error fault' ∧
        fault = .template fault' := by
  simp only [readCode, mapError_eq_error, map_eq_error, eq_comm (a := fault)]

/-! ### Building the groups -/

section Groups
variable {source : Source} {templates : List (String × Template)}
  (hread : List.Forall₂ Read source.codes templates)
include hread

theorem names_of_read : templates.map Prod.fst = source.codes.map Prod.fst :=
  map_eq_of_forall₂ (hread.imp fun _ _ hcode => hcode.1)

/-- A rule is built when the code that it names is there. -/
theorem exists_ofReference_iff {group : String} {r : Reference} :
    (∃ rule, ofReference templates group r = .ok rule) ↔ source.Defines r := by
  obtain ⟨rank, type, code⟩ := r
  cases code with
  | none => exact iff_of_true ⟨_, rfl⟩ nofun
  | some id =>
    have hdefines : source.Defines ⟨rank, type, some id⟩ ↔ id ∈ templates.map Prod.fst := by
      rw [names_of_read hread]
      simp [Source.Defines]
    rw [hdefines]
    constructor
    · rintro ⟨rule, hrule⟩
      cases hlookup : templates.lookup id with
      | none => simp [ofReference, hlookup, bind, Except.bind] at hrule
      | some t => exact List.mem_map_of_mem (mem_of_lookup hlookup)
    · intro hid
      obtain ⟨t, hlookup⟩ := exists_lookup hid
      exact ⟨⟨rank, type, some t⟩, by simp [ofReference, hlookup]⟩

/-- A rule that is not built names unknown code. -/
theorem ofReference_eq_error {group : String} {r : Reference} {fault : Fault} :
    ofReference templates group r = .error fault ↔
      ∃ id, r.code = some id ∧ id ∉ source.codes.map Prod.fst ∧ fault = .unknownCode group id := by
  obtain ⟨rank, type, code⟩ := r
  rw [← names_of_read hread]
  cases code with
  | none => exact iff_of_false nofun nofun
  | some id =>
    simp only [Option.some.injEq, exists_eq_left', ← lookup_eq_none]
    cases hlookup : templates.lookup id with
    | none => simp [ofReference, hlookup, bind, Except.bind, eq_comm]
    | some t => simp [ofReference, hlookup]

/-- A group is built when all code that its rules name is there. -/
theorem exists_groupOfSource_iff {name : String} {g : GroupSource} :
    (∃ group, Group.ofSource templates name g = .ok group) ↔
      ∀ r ∈ g.rules, source.Defines r := by
  have hbuilt : ∀ r, source.Defines r ↔ ∃ rule, ofReference templates name r = .ok rule :=
    fun r => (exists_ofReference_iff hread).symm
  simp only [hbuilt, ← exists_mapM_iff]
  constructor
  · rintro ⟨group, hgroup⟩
    obtain ⟨rules, hrules, -⟩ := bind_eq_ok.1 hgroup
    exact ⟨rules, hrules⟩
  · exact fun hrules => exists_bind hrules fun _ _ => ⟨_, rfl⟩

/-- A group that is not built has a first rule that names unknown code. -/
theorem groupOfSource_eq_error {name : String} {g : GroupSource} {fault : Fault} :
    Group.ofSource templates name g = .error fault ↔
      ∃ rules r rest id, g.rules = rules ++ r :: rest ∧ (∀ r ∈ rules, source.Defines r) ∧
        r.code = some id ∧ id ∉ source.codes.map Prod.fst ∧ fault = .unknownCode name id := by
  have hrules : Group.ofSource templates name g = .error fault ↔
      g.rules.mapM (ofReference templates name) = .error fault := by
    rw [Group.ofSource, bind_eq_error]
    exact or_iff_left nofun
  rw [hrules, mapM_eq_error]
  simp only [exists_ofReference_iff hread, ofReference_eq_error hread]
  constructor
  · rintro ⟨rules, r, rest, hsplit, hearlier, id, hid⟩
    exact ⟨rules, r, rest, id, hsplit, hearlier, hid⟩
  · rintro ⟨rules, r, rest, id, hsplit, hearlier, hid⟩
    exact ⟨rules, r, rest, hsplit, hearlier, id, hid⟩

end Groups

/-- Where all code can be read, the rules that name no other code have theirs. -/
theorem Source.forall₂_resolves {source : Source} (hreadable : ∀ code ∈ source.codes, Readable code)
    (name : String) {g : GroupSource} (hdefined : ∀ r ∈ g.rules, source.Defines r) :
    List.Forall₂ source.Resolves g.rules (source.resolved name g).rules := by
  refine List.forall₂_map_right_iff.2 (List.forall₂_same.2 fun r hr => ⟨rfl, rfl, ?_, fun id hid => ?_⟩)
  · intro hnone
    rw [hnone]
    rfl
  · obtain ⟨text, htext⟩ := exists_lookup (hdefined r hr id hid)
    obtain ⟨t, hparse⟩ := hreadable _ (mem_of_lookup htext)
    refine ⟨text, t, htext, hparse, ?_⟩
    rw [hid, Option.bind_some, Source.template?, htext, Option.bind_some, hparse]
    rfl

/-! ### Using the groups -/

section Use
variable {source : Source} {g : GroupSource} {group : Group} {p : Registry.Parameter}

/-- What goes wrong with a contribution is that the code does not know the name of a placeholder. -/
theorem Group.exists_of_contribution_error {fault : Template.Fault}
    (h : group.contribution? p = some (.error fault)) :
    ¬ group.Passes p ∧ ∃ t word, group.Selects p.type p.rank t ∧ word ∈ t.placeholders ∧
      word ∉ words ∧ fault = .unknownPlaceholder t.name word := by
  obtain ⟨hpasses, t, hselects, hresult⟩ := contribution?_eq_some.1 h
  obtain ⟨before, word, after, hwords, -, hunbound, hfault⟩ :=
    Template.render_eq_error.1 (map_eq_error.1 hresult.symm)
  have hword : word ∈ t.placeholders := hwords ▸ List.mem_append_right _ List.mem_cons_self
  exact ⟨hpasses, t, word, hselects, hword, hunbound, hfault⟩

/-- The code of the rules of a group is code of the source. -/
theorem Source.exists_code (hrules : List.Forall₂ source.Resolves g.rules group.rules) {rule : Rule}
    (hrule : rule ∈ group.rules) {t : Template} (hcode : rule.code = some t) :
    ∃ id text, source.codes.lookup id = some text ∧
      Template.parse ("codes." ++ id) text = .ok t := by
  obtain ⟨r, -, hresolves⟩ := exists_of_mem_right hrules hrule
  cases hid : r.code with
  | none =>
    rw [hresolves.absent hid] at hcode
    cases hcode
  | some id =>
    obtain ⟨text, t', htext, hparse, hcode'⟩ := hresolves.code id hid
    obtain rfl : t' = t := Option.some.inj (hcode'.symm.trans hcode)
    exact ⟨id, text, htext, hparse⟩

/-- What goes wrong with a contribution to a group of a source. -/
theorem Source.lacks_of_contribution_error
    (hrules : List.Forall₂ source.Resolves g.rules group.rules) {fault : Template.Fault}
    (h : group.contribution? p = some (.error fault)) :
    ¬ group.Passes p ∧ source.Lacks group p.type p.rank (.template fault) := by
  obtain ⟨hpasses, t, word, hselects, hword, hunknown, rfl⟩ :=
    Group.exists_of_contribution_error h
  obtain ⟨rule, hrule, hcode⟩ := hselects.exists_rule
  obtain ⟨id, text, htext, hparse⟩ := exists_code hrules hrule hcode
  rw [(Template.spells_of_parse hparse).1]
  exact ⟨hpasses, .placeholder hselects htext hparse hword hunknown⟩

/-- An error of contributions put together is one of them. -/
theorem Group.exists_of_assembled_error {ps : List Registry.Parameter}
    {contribute : Registry.Parameter → Option (Except Template.Fault String)}
    {fault : Template.Fault} (h : group.assembled (ps.filterMap contribute) = .error fault) :
    ∃ p ∈ ps, contribute p = some (.error fault) := by
  obtain ⟨fragments, rest, heq⟩ := assembled_eq_error.1 h
  exact List.mem_filterMap.1 (heq ▸ List.mem_append_right _ List.mem_cons_self)

section Lacks
variable (hrules : List.Forall₂ source.Resolves g.rules group.rules) {fault : Template.Fault}
include hrules

theorem Source.lacks_of_apply_error {ps : List Registry.Parameter}
    (h : group.apply ps = .error fault) : ∃ p ∈ ps, ¬ group.Passes p ∧
      source.Lacks group p.type p.rank (.template fault) := by
  rw [Group.apply_eq_assembled] at h
  obtain ⟨p, hp, hcontribution⟩ := Group.exists_of_assembled_error h
  exact ⟨p, hp, lacks_of_contribution_error hrules hcontribution⟩

/-- Nothing goes wrong with the parameters of a name for which code is given. -/
theorem Source.lacks_of_applyReplacing_error {ps : List Registry.Parameter} {name code : String}
    (h : group.applyReplacing ps (some (name, code)) = .error fault) :
    ∃ p ∈ ps, ¬ group.Passes p ∧ p.name ≠ name ∧
      source.Lacks group p.type p.rank (.template fault) := by
  rw [Group.applyReplacing_eq_assembled] at h
  obtain ⟨p, hp, hcontribution⟩ := Group.exists_of_assembled_error h
  rw [Group.contributionOr?] at hcontribution
  split at hcontribution
  · cases hcontribution
  · next hkept =>
    obtain ⟨hpasses, hlacks⟩ := lacks_of_contribution_error hrules hcontribution
    exact ⟨p, hp, hpasses, fun hname => hkept ⟨hpasses, hname⟩, hlacks⟩

theorem Source.lacks_of_applyReturn_error {name : String} {value : ReturnValue}
    (h : group.applyReturn name value = .error fault) :
    source.Lacks group value.type value.rank (.template fault) := by
  rw [Group.applyReturn_eq_apply] at h
  obtain ⟨p, hp, -, hlacks⟩ := lacks_of_apply_error hrules h
  obtain rfl := List.mem_singleton.1 hp
  exact hlacks

end Lacks
end Use

namespace Set
variable {source : Source} {set : Set} {name : String}

/-- The code of a source is read when each piece of it can be. -/
theorem exists_templates_iff :
    (∃ templates, source.codes.mapM readCode = .ok templates) ↔
      ∀ code ∈ source.codes, Readable code := by
  simp only [exists_mapM_iff, exists_readCode]

/-- A source is read when its code can be read and its rules name no other code. -/
theorem exists_ofSource_iff : (∃ set, ofSource source = .ok set) ↔
    (∀ code ∈ source.codes, Readable code) ∧
      ∀ g ∈ source.groups, ∀ r ∈ g.2.rules, source.Defines r := by
  rw [ofSource_eq, ← exists_templates_iff]
  constructor
  · rintro ⟨set, hset⟩
    obtain ⟨templates, htemplates, hset⟩ := bind_eq_ok.1 hset
    obtain ⟨groups, hgroups, -⟩ := map_eq_ok.1 hset
    have hread := forall₂_read htemplates
    refine ⟨⟨templates, htemplates⟩, fun g hg => ?_⟩
    exact (exists_groupOfSource_iff hread).1 (exists_mapM_iff.1 ⟨groups, hgroups⟩ g hg)
  · rintro ⟨htemplates, hdefined⟩
    refine exists_bind htemplates fun templates htemplates => exists_map (exists_mapM fun g hg => ?_) _
    exact (exists_groupOfSource_iff (forall₂_read htemplates)).2 (hdefined g hg)

/-- Whatever is reported is wrong with the source. -/
theorem ofSource_eq_error {fault : Fault} : ofSource source = .error fault ↔ source.Faulty fault := by
  rw [ofSource_eq, bind_eq_error]
  simp only [map_eq_error]
  constructor
  · rintro (hcodes | ⟨templates, htemplates, hgroups⟩)
    · obtain ⟨before, code, after, hsplit, hbefore, hcode⟩ := mapM_eq_error.1 hcodes
      obtain ⟨fault', hfails, rfl⟩ := readCode_eq_error.1 hcode
      exact .code hsplit (fun c hc => exists_readCode.1 (hbefore c hc)) hfails
    · have hread := forall₂_read htemplates
      obtain ⟨before, ⟨name, g⟩, after, hsplit, hbefore, hg⟩ := mapM_eq_error.1 hgroups
      obtain ⟨rules, r, rest, id, hrules, hearlier, hnames, hunknown, rfl⟩ :=
        (groupOfSource_eq_error hread).1 hg
      exact .reference (exists_templates_iff.1 ⟨templates, htemplates⟩) hsplit
        (fun g hg => (exists_groupOfSource_iff hread).1 (hbefore g hg)) hrules hearlier hnames
        hunknown
  · intro hfaulty
    cases hfaulty with
    | @code before after code _ hsplit hreadable hfails =>
      refine .inl (mapM_eq_error.2 ⟨before, code, after, hsplit, fun c hc => ?_, ?_⟩)
      · exact exists_readCode.2 (hreadable c hc)
      · exact readCode_eq_error.2 ⟨_, hfails, rfl⟩
    | @reference before after name g rules rest r id hreadable hsplit hdefined hrules hearlier
        hnames hunknown =>
      obtain ⟨templates, htemplates⟩ := exists_templates_iff.2 hreadable
      have hread := forall₂_read htemplates
      refine .inr ⟨templates, htemplates,
        mapM_eq_error.2 ⟨before, (name, g), after, hsplit, fun g hg => ?_, ?_⟩⟩
      · exact (exists_groupOfSource_iff hread).2 (hdefined g hg)
      · exact (groupOfSource_eq_error hread).2
          ⟨rules, r, rest, id, hrules, hearlier, hnames, hunknown, rfl⟩

/-- A source whose code keeps to the words, and whose references are to its own code, gives its
groups. -/
theorem exists_ofSource
    (hspeaks : ∀ code ∈ source.codes, Template.Speaks words ("codes." ++ code.1) code.2)
    (hknown : source.references ⊆ source.codes.map Prod.fst) :
    ∃ set, ofSource source = .ok set ∧ set.names = source.groups.map Prod.fst ∧
      ∀ g ∈ set.groups, g.Covered := by
  have hreadable : ∀ code ∈ source.codes, Readable code := fun code hcode =>
    (hspeaks code hcode).imp fun _ ht => ht.1
  have hdefined : ∀ g ∈ source.groups, ∀ r ∈ g.2.rules, source.Defines r := fun g hg r hr id hid =>
    hknown (List.mem_flatMap.2 ⟨g, hg, List.mem_filterMap.2 ⟨r, hr, hid⟩⟩)
  obtain ⟨set, hset⟩ := exists_ofSource_iff.2 ⟨hreadable, hdefined⟩
  have hgroups := groups_ofSource hset
  refine ⟨set, hset, ?_, fun group hgroup rule hrule code hcode => ?_⟩
  · rw [names, hgroups, List.map_map]
    rfl
  · rw [hgroups] at hgroup
    obtain ⟨g, hg, rfl⟩ := List.mem_map.1 hgroup
    have hrules := Source.forall₂_resolves hreadable g.1 (hdefined g hg)
    obtain ⟨id, text, htext, hparse⟩ := Source.exists_code hrules hrule hcode
    obtain ⟨t, hparse', hwords⟩ := hspeaks _ (mem_of_lookup htext)
    obtain rfl : code = t := Except.ok.inj (hparse.symm.trans hparse')
    exact hwords

/-- What goes wrong with the use of a group that is found goes wrong with its code. -/
theorem use_eq_error {g : Group} {code : Group → Except Template.Fault String} {fault : Fault}
    (hg : set.group name = .ok g) (h : set.use name code = .error fault) :
    ∃ fault', code g = .error fault' ∧ fault = .template fault' := by
  rw [use, hg] at h
  obtain ⟨fault', hcode, rfl⟩ := mapError_eq_error.1 h
  exact ⟨fault', hcode, rfl⟩

/-- **What is checked when rules are read.** A source is read exactly when all of its code can be read
and its rules name no other code, and what is reported otherwise is wrong with it. The groups are then
those of the source. Nothing goes wrong when one of them is used but that code it selects for what it
is given has a placeholder that is none of the words. -/
theorem ofSource_verdict (source : Source) :
    ((∃ set, ofSource source = .ok set) ↔ (∀ code ∈ source.codes, Readable code) ∧
      ∀ g ∈ source.groups, ∀ r ∈ g.2.rules, source.Defines r) ∧
    (∀ fault, ofSource source = .error fault ↔ source.Faulty fault) ∧
    ∀ set, ofSource source = .ok set →
      (∀ name ∉ source.groups.map Prod.fst, set.group name = .error (.unknownGroup name) ∧
        ∀ code, set.use name code = .error (.unknownGroup name)) ∧
      ∀ name g, source.groups.lookup name = some g → ∃ group, set.group name = .ok group ∧
        group = source.resolved name g ∧ List.Forall₂ source.Resolves g.rules group.rules ∧
        (∀ ps fault, set.use name (·.apply ps) = .error fault →
          ∃ p ∈ ps, ¬ group.Passes p ∧ source.Lacks group p.type p.rank fault) ∧
        (∀ ps replaced code fault,
          set.use name (·.applyReplacing ps (some (replaced, code))) = .error fault →
            ∃ p ∈ ps, ¬ group.Passes p ∧ p.name ≠ replaced ∧
              source.Lacks group p.type p.rank fault) ∧
        ∀ returned value fault, set.use name (·.applyReturn returned value) = .error fault →
          source.Lacks group value.type value.rank fault := by
  refine ⟨exists_ofSource_iff, fun fault => ofSource_eq_error, fun set hset =>
    ⟨fun name hname => ?absent, fun name g hg => ?_⟩⟩
  case absent =>
    have hnone := group_ofSource_of_lookup_eq_none hset (lookup_eq_none.2 hname)
    exact ⟨hnone, fun code => by rw [use, hnone]; rfl⟩
  have hgroup := group_ofSource hset hg
  obtain ⟨hreadable, hdefined⟩ := exists_ofSource_iff.1 ⟨set, hset⟩
  have hrules := Source.forall₂_resolves hreadable name (hdefined _ (mem_of_lookup hg))
  refine ⟨_, hgroup, rfl, hrules, fun ps fault h => ?apply, fun ps replaced code fault h => ?replacing,
    fun name value fault h => ?returned⟩
  case apply =>
    obtain ⟨fault, herror, rfl⟩ := use_eq_error hgroup h
    exact Source.lacks_of_apply_error hrules herror
  case replacing =>
    obtain ⟨fault, herror, rfl⟩ := use_eq_error hgroup h
    exact Source.lacks_of_applyReplacing_error hrules herror
  case returned =>
    obtain ⟨fault, herror, rfl⟩ := use_eq_error hgroup h
    exact Source.lacks_of_applyReturn_error hrules herror

/-- A name in code is not looked at until the code is used. -/
example : (do
    let set ← ofSource
      { codes := [("c", "$\x7bnme\x7d")], groups := [("g", { rules := [{ code := some "c" }] })] }
    set.use "g" (·.applyReturn "result" ⟨.long, .vector, ""⟩)) =
      .error (.template (.unknownPlaceholder "codes.c" "nme")) := by
  decide +kernel

end Set
end Bindery.Rule
