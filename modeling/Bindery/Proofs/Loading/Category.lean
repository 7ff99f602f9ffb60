import Bindery.Metadata.OfWritten
import Bindery.Proofs.Loading.Check
import Bindery.Proofs.Loading.WellFormed

/-! Categories are accepted exactly when they are well formed.

The checks of a written category are one list: its name, then function by function the name, the
library function, the class, the levels of the platforms, parameter by parameter the name, the type,
the arrangement, the two together and the names before it, and last the return value. Reading makes
these checks in order (`Category.checked`), and none fails exactly where the category is well formed
(`Written.Category.first_checks`). -/
namespace Bindery.Metadata

open Text (trim content?)

/-! ### The checks -/

/-- A name can stand in generated code. -/
def nameCheck (l : Locator) (name kind : String) : Check :=
  (Naming.fault? name).map fun reason => .badName name kind reason (l.find? name)

/-- A name can stand in generated code and is not taken by what generation adds. -/
def parameterNameCheck (l : Locator) (name function : String) : Check :=
  (Naming.parameterFault? name).map fun reason =>
    .badParameterName name function reason (l.find? name)

/-- A text is the word for a value. -/
def wordCheck {α : Type} (l : Locator) (words : Vocabulary α) (field owner text : String) : Check :=
  .requires ((words.find? (trim text)).isSome = true)
    (.unknownValue field text ⟨words.noun, trim text, words.values.map words.name⟩ (l.find? owner))

/-- The arrangement that a written one stands for. -/
def rankOf (rank : Option String) : TensorRank :=
  (TensorRank.vocabulary.find? (rankWord rank)).getD .scalar

def shapeChecks (l : Locator) (function item owner type : String) (rank : Option String) :
    List Check :=
  wordCheck l DataType.vocabulary "type" owner type
    :: rank.toList.map (wordCheck l TensorRank.vocabulary "tensorRank" owner)
    ++ [.requires (trim type = "property" → rank.map trim = some "vector")
      (.propertyRank function item (rankOf rank) (l.find? owner))]

def Written.Parameter.checks (l : Locator) (function : String) (w : Written.Parameter) :
    List Check :=
  parameterNameCheck l (trim w.name) function
    :: shapeChecks l function ("parameter '" ++ trim w.name ++ "'") (trim w.name) w.type w.rank

/-- The checks of parameters that come after others with some names. -/
def parametersChecks (l : Locator) (function : String) (earlier : List String) :
    List Written.Parameter → List Check
  | [] => []
  | w :: rest =>
    w.checks l function
      ++ .requires (trim w.name ∉ earlier)
        (.flaw (.repeatedParameter (trim w.name) function) (l.find? (trim w.name)))
      :: parametersChecks l function (earlier ++ [trim w.name]) rest

def Written.ReturnValue.checks (l : Locator) (function : String) (w : Written.ReturnValue) :
    List Check :=
  shapeChecks l function "return value" function w.type w.rank

def Written.Support.checks (l : Locator) (function : String) (w : Written.Support) : List Check :=
  w.implementation.toList.map (wordCheck l Implementation.vocabulary "implementation" function)

def Written.Function.checks (source : Locator) (tag : Tag) (w : Written.Function) : List Check :=
  let name := trim w.name
  let l := source.within name
  [[nameCheck source name "function"],
   [.requires (tag ≠ .procedure → Filled w.libraryFunction)
      (.flaw (.noLibraryFunction tag name) (l.find? name))],
   [.requires (tag = .member ∨ tag = .enumerationMember → Filled w.className)
      (.flaw (.noClass tag name) (l.find? name))],
   w.platforms.flatMap (Written.Support.checks l name),
   parametersChecks l name [] w.parameters,
   w.returnValue.toList.flatMap (Written.ReturnValue.checks l name),
   [.requires (tag ≠ .constructor → w.returnValue.isSome = true)
      (.flaw (.noReturnValue tag name) (l.find? name))]].flatten

def Written.Category.checks (source : Locator) (w : Written.Category) : List Check :=
  nameCheck source (trim w.name) "category"
    :: w.functions.flatMap fun f => f.2.checks source f.1

/-! ### When no check fails -/

theorem nameCheck_eq_none {l : Locator} {name kind : String} :
    nameCheck l name kind = none ↔ Usable name := by
  rw [nameCheck, Option.map_eq_none_iff, Naming.fault?_eq_none_iff]
  exact ⟨fun h => ⟨h.1, h.2⟩, fun h => ⟨h.identifier, h.noKeyword⟩⟩

theorem parameterNameCheck_eq_none {l : Locator} {name function : String} :
    parameterNameCheck l name function = none ↔ Usable name ∧ name ∉ Naming.reserved := by
  rw [parameterNameCheck, Option.map_eq_none_iff, Naming.parameterFault?]
  split
  · next h => simp [h]
  · next h =>
    rw [Naming.fault?_eq_none_iff]
    exact ⟨fun hn => ⟨⟨hn.1, hn.2⟩, h⟩, fun hn => ⟨hn.1.identifier, hn.1.noKeyword⟩⟩

section Words
variable {l : Locator} {field owner text : String}

theorem typeCheck_eq_none :
    wordCheck l DataType.vocabulary field owner text = none ↔ ∃ t : DataType, trim text = t.name := by
  simp [wordCheck, Option.isSome_iff_exists, DataType.find?_eq_some]

theorem rankCheck_eq_none :
    wordCheck l TensorRank.vocabulary field owner text = none ↔
      ∃ r : TensorRank, trim text = r.name := by
  simp [wordCheck, Option.isSome_iff_exists, TensorRank.find?_eq_some]

theorem levelCheck_eq_none :
    wordCheck l Implementation.vocabulary field owner text = none ↔
      ∃ i : Implementation, trim text = i.name := by
  simp [wordCheck, Option.isSome_iff_exists, Implementation.find?_eq_some]

end Words

theorem first_shapeChecks {l : Locator} {function item owner type : String}
    {rank : Option String} :
    Check.first (shapeChecks l function item owner type rank) = none ↔ WellShaped type rank := by
  simp only [shapeChecks, Check.first_cons_eq_none, Check.first_append_eq_none,
    Check.first_map_eq_none, Check.first_nil, Check.requires_eq_none, Option.mem_toList,
    typeCheck_eq_none, rankCheck_eq_none, and_true]
  constructor
  · rintro ⟨⟨ht, hr⟩, hp⟩
    exact ⟨ht, hr, hp⟩
  · exact fun h => ⟨⟨h.knownType, h.knownRank⟩, h.property⟩

theorem Written.Parameter.first_checks {l : Locator} {function : String}
    {w : Written.Parameter} : Check.first (w.checks l function) = none ↔ w.WellFormed := by
  rw [checks, Check.first_cons_eq_none, first_shapeChecks, parameterNameCheck_eq_none]
  exact ⟨fun ⟨⟨hn, hf⟩, hs⟩ => ⟨hn, hf, hs⟩, fun h => ⟨⟨h.name, h.free⟩, h.shape⟩⟩

/-- No parameter has the name of one before it. -/
theorem first_parametersChecks {l : Locator} {function : String} {earlier : List String}
    {ws : List Written.Parameter} :
    Check.first (parametersChecks l function earlier ws) = none ↔
      (∀ w ∈ ws, w.WellFormed) ∧ (ws.map fun w => trim w.name).Nodup ∧
        ∀ w ∈ ws, trim w.name ∉ earlier := by
  induction ws generalizing earlier with
  | nil => simp [parametersChecks]
  | cons w rest ih =>
    rw [parametersChecks, Check.first_append_eq_none, Check.first_cons_eq_none, ih,
      Written.Parameter.first_checks, Check.requires_eq_none]
    simp only [List.forall_mem_cons, List.map_cons, List.nodup_cons, List.mem_append,
      List.mem_singleton, List.mem_map, not_or, not_exists, not_and]
    constructor
    · rintro ⟨hw, he, hws, hd, hf⟩
      exact ⟨⟨hw, hws⟩, ⟨fun v hv hvw => (hf v hv).2 hvw, hd⟩, he, fun v hv => (hf v hv).1⟩
    · rintro ⟨⟨hw, hws⟩, ⟨hn, hd⟩, he, hf⟩
      exact ⟨hw, he, hws, hd, fun v hv => ⟨hf v hv, fun hvw => hn v hv hvw⟩⟩

theorem Written.Function.first_checks {source : Locator} {tag : Tag} {w : Written.Function} :
    Check.first (w.checks source tag) = none ↔ w.WellFormed tag := by
  simp only [checks, List.flatten_cons, List.flatten_nil, Check.first_append_eq_none,
    Check.first_cons_eq_none, Check.first_nil, Check.first_flatMap_eq_none,
    Written.Support.checks, Check.first_map_eq_none, first_parametersChecks,
    Written.ReturnValue.checks, first_shapeChecks, Option.mem_toList, nameCheck_eq_none,
    levelCheck_eq_none, Check.requires_eq_none, and_true, List.not_mem_nil, not_false_eq_true,
    implies_true]
  constructor
  · rintro ⟨hn, hl, hc, hi, ⟨hp, hd⟩, hv, hr⟩
    exact ⟨hn, hl, hc, hi, hp, hd, hv, hr⟩
  · rintro ⟨hn, hl, hc, hi, hp, hd, hv, hr⟩
    exact ⟨hn, hl, hc, hi, ⟨hp, hd⟩, hv, hr⟩

theorem Written.Category.first_checks {source : Locator} {w : Written.Category} :
    Check.first (w.checks source) = none ↔ w.WellFormed := by
  simp only [checks, Check.first_cons_eq_none, Check.first_flatMap_eq_none, nameCheck_eq_none,
    Written.Function.first_checks]
  constructor
  · rintro ⟨hn, hf⟩
    exact ⟨hn, hf⟩
  · exact fun h => ⟨h.name, h.functions⟩

/-! ### Reading makes the checks -/

theorem checkName_checked (l : Locator) (name kind : String) :
    Checked [nameCheck l name kind] (fun _ => True) (l.checkName name kind) := by
  apply Checked.unit
  unfold Locator.checkName nameCheck
  cases Naming.fault? name <;> rfl

theorem checkParameterName_checked (l : Locator) (name function : String) :
    Checked [parameterNameCheck l name function] (fun _ => True)
      (l.checkParameterName name function) := by
  apply Checked.unit
  unfold Locator.checkParameterName parameterNameCheck
  cases Naming.parameterFault? name <;> rfl

theorem refuseIf_checked {refused : Bool} {condition : Prop} [Decidable condition]
    (h : refused = true ↔ ¬ condition) (e : LoadError) :
    Checked [.requires condition e] (fun _ => True) (refuseIf refused e) := by
  apply Checked.unit
  unfold refuseIf Check.requires
  by_cases hc : condition <;> simp [hc, h]

theorem readValue_checked {α : Type} (l : Locator) (words : Vocabulary α)
    (field owner text : String) :
    Checked [wordCheck l words field owner text] (fun a => words.find? (trim text) = some a)
      (l.readValue words field text owner) := by
  unfold wordCheck Locator.readValue Vocabulary.read
  cases h : words.find? (trim text) with
  | none => exact ⟨fun e he => by cases he; rfl, nofun⟩
  | some a => exact ⟨nofun, fun _ => ⟨a, rfl, rfl⟩⟩

theorem readShape_checked (l : Locator) (type owner : String) (rank : Option String) :
    Checked (wordCheck l DataType.vocabulary "type" owner type
        :: rank.toList.map (wordCheck l TensorRank.vocabulary "tensorRank" owner))
      (fun s => trim type = s.1.name ∧ rankWord rank = s.2.name) (readShape l type rank owner) := by
  unfold readShape
  refine Checked.bind (readValue_checked l DataType.vocabulary "type" owner type) fun t ht => ?_
  rw [DataType.find?_eq_some] at ht
  cases rank with
  | none => exact Checked.ok ⟨ht, rfl⟩
  | some word =>
    refine Checked.finish (readValue_checked l TensorRank.vocabulary "tensorRank" owner word)
      fun r hr => ⟨(t, r), rfl, ht, ?_⟩
    rw [TensorRank.find?_eq_some] at hr
    exact hr

/-- The words for a type and an arrangement tell whether properties are misplaced. -/
theorem misplacedProperty_iff {type : String} {rank : Option String} {t : DataType}
    {r : TensorRank} (ht : trim type = t.name) (hr : rankWord rank = r.name) :
    misplacedProperty t r = true ↔ ¬ (trim type = "property" → rank.map trim = some "vector") := by
  have hproperty : trim type = "property" ↔ t = .property := by
    rw [ht]
    cases t <;> decide
  have hvector : rank.map trim = some "vector" ↔ r = .vector := by
    cases rank with
    | none => revert hr; cases r <;> decide
    | some word =>
      have hw : trim word = r.name := hr
      rw [Option.map_some, hw, Option.some_inj]
      cases r <;> decide
  rw [hproperty, hvector]
  cases t <;> cases r <;> decide

theorem rankOf_eq {rank : Option String} {r : TensorRank} (hr : rankWord rank = r.name) :
    rankOf rank = r := by
  rw [rankOf, hr, TensorRank.find?_name]
  rfl

/-- A type and an arrangement are read, then looked at together. -/
theorem shape_checked {α : Type} {Q : α → Prop} (make : DataType → TensorRank → α)
    (l : Locator) (function item owner type : String) (rank : Option String)
    (h : ∀ t r, trim type = t.name → rankWord rank = r.name → Q (make t r)) :
    Checked (shapeChecks l function item owner type rank) Q (do
      let (t, r) ← readShape l type rank owner
      refuseIf (misplacedProperty t r) (.propertyRank function item r (l.find? owner))
      return make t r) := by
  refine Checked.bind (readShape_checked l type owner rank) fun ⟨t, r⟩ ⟨ht, hr⟩ => ?_
  rw [rankOf_eq hr]
  exact Checked.finish (refuseIf_checked (misplacedProperty_iff ht hr) _)
    fun _ _ => ⟨make t r, rfl, h t r ht hr⟩

theorem Parameter.checked (l : Locator) (function : String) (w : Written.Parameter) :
    Checked (w.checks l function) (Parameter.Reads w) (Parameter.ofWritten l function w) := by
  refine Checked.bind (checkParameterName_checked l (trim w.name) function) fun _ _ => ?_
  let make (type : DataType) (rank : TensorRank) : Parameter :=
    { name := trim w.name, type, rank, default := w.default.map trim
      description := (w.description.bind content?).getD "" }
  exact shape_checked make l function ("parameter '" ++ trim w.name ++ "'") (trim w.name) w.type
    w.rank fun _ _ ht hr => ⟨rfl, ht, hr, rfl, rfl⟩

theorem readReturnValue_checked (l : Locator) (function : String) (w : Written.ReturnValue) :
    Checked (w.checks l function) (ReturnValue.Reads w) (readReturnValue l function w) := by
  let make (type : DataType) (rank : TensorRank) : ReturnValue :=
    { type, rank, description := (w.description.bind content?).getD "" }
  exact shape_checked make l function "return value" function w.type w.rank
    fun _ _ ht hr => ⟨ht, hr, rfl⟩

theorem readSupport_checked (l : Locator) (function : String) (w : Written.Support) :
    Checked (w.checks l function) (Support.Reads w) (readSupport l function w) := by
  unfold readSupport Written.Support.checks
  cases hw : w.implementation with
  | none => exact Checked.ok ⟨rfl, by rw [hw]; rfl, rfl, rfl⟩
  | some word =>
    refine Checked.finish (readValue_checked l _ "implementation" function word) fun i hi => ?_
    rw [Implementation.find?_eq_some] at hi
    exact ⟨_, rfl, rfl, by rw [hw]; exact hi, rfl, rfl⟩

/-- Parameters are read after others. -/
theorem readParameters_checked (l : Locator) (function : String) (ws : List Written.Parameter)
    (earlier : List Parameter) :
    Checked (parametersChecks l function (earlier.map (·.name)) ws)
      (fun ps => ∃ qs, ps = earlier ++ qs ∧ List.Forall₂ Parameter.Reads ws qs)
      (readParameters l function earlier ws) := by
  induction ws generalizing earlier with
  | nil => exact Checked.ok ⟨[], (List.append_nil _).symm, .nil⟩
  | cons w rest ih =>
    refine Checked.bind (Parameter.checked l function w) fun p hp => ?_
    rw [← List.singleton_append, ← hp.name]
    refine Checked.bind (refuseIf_checked ?_ _) fun _ _ => ?_
    · simp only [List.any_eq_true, decide_eq_true_eq, List.mem_map, not_not]
    · have hnames : (earlier ++ [p]).map (·.name) = earlier.map (·.name) ++ [p.name] := by simp
      rw [← hnames]
      refine (ih (earlier ++ [p])).mono ?_
      rintro _ ⟨qs, rfl, hqs⟩
      exact ⟨p :: qs, by simp, .cons hp hqs⟩

theorem libraryFunction_refused_iff (tag : Tag) (text : Option String) :
    (tag ≠ .procedure && (text.bind content?).isNone) = true ↔
      ¬ (tag ≠ .procedure → Filled text) := by
  cases h : text.bind content? <;> simp [filled_iff, h]

theorem className_refused_iff (tag : Tag) (text : Option String) :
    (tag.isMember && (text.bind content?).isNone) = true ↔
      ¬ (tag = .member ∨ tag = .enumerationMember → Filled text) := by
  cases h : text.bind content? <;> cases tag <;> simp [filled_iff, h, Tag.isMember]

theorem returnValue_refused_iff (tag : Tag) {w : Option Written.ReturnValue}
    {v : Option ReturnValue} (h : Option.Rel ReturnValue.Reads w v) :
    (tag ≠ .constructor && v.isNone) = true ↔ ¬ (tag ≠ .constructor → w.isSome = true) := by
  cases h <;> simp

theorem Function.checked (source : Locator) (tag : Tag) (w : Written.Function) :
    Checked (w.checks source tag) (Function.Reads tag w) (Function.ofWritten source tag w) := by
  refine Checked.bind (checkName_checked source (trim w.name) "function") fun _ _ => ?_
  refine Checked.bind (refuseIf_checked (libraryFunction_refused_iff tag _) _) fun _ _ => ?_
  refine Checked.bind (refuseIf_checked (className_refused_iff tag _) _) fun _ _ => ?_
  refine Checked.bind (Checked.mapM fun s _ => readSupport_checked _ _ s) fun platforms hs => ?_
  refine Checked.bind (readParameters_checked _ _ w.parameters []) fun parameters hp => ?_
  refine Checked.bind (Checked.optionMapM (readReturnValue_checked _ _) _) fun value hv => ?_
  refine Checked.finish (refuseIf_checked (returnValue_refused_iff tag hv) _) fun _ _ => ?_
  obtain ⟨ps, rfl, hps⟩ := hp
  exact ⟨_, rfl, rfl, rfl, rfl, rfl, rfl, rfl, rfl, rfl, rfl, rfl, rfl, hs, hps, hv⟩

theorem Category.checked (source : Locator) (w : Written.Category) :
    Checked (w.checks source) (Category.Reads w) (Category.ofWritten source w) := by
  refine Checked.bind (checkName_checked source (trim w.name) "category") fun _ _ => ?_
  exact Checked.finish (Checked.mapM fun f _ => Function.checked source f.1 f.2)
    fun functions hf => ⟨_, rfl, rfl, rfl, rfl, rfl, hf⟩

/-! ### Acceptance -/

/-- **A category is accepted exactly when it is well formed.** What is accepted is kept member by
member in the order it is written in, and the error of what is not is that of the first check that
fails. -/
theorem Category.ofWritten_verdict (source : Locator) (w : Written.Category) :
    ((∃ c, Category.ofWritten source w = .ok c) ↔ w.WellFormed) ∧
      (∀ c, Category.ofWritten source w = .ok c → Category.Reads w c) ∧
      ∀ e, Category.ofWritten source w = .error e ↔ Check.first (w.checks source) = some e :=
  ⟨(Category.checked source w).ok_iff.trans Written.Category.first_checks,
    fun _ => (Category.checked source w).of_ok, (Category.checked source w).error_iff⟩

end Bindery.Metadata
