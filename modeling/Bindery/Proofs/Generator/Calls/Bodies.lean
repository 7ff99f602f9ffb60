import Bindery.Proofs.Compilation.Verdict
import Bindery.Proofs.Generator.Calls.Arguments
import Bindery.Proofs.Generator.Calls.Templates

/-! How the bodies of functions call the library.

For every function of a registry that metadata has compiled to, the body converts each parameter that
a call takes as a variable, and a function that loops does so over the one parameter with the name of
its loop, taking an element of it at its place among the arguments (`bodies_agree`). -/
namespace Bindery.Generator

/-! ### Bodies -/

/-- A constructor does not loop. -/
theorem tag_ne_constructor {f : Registry.Function} {n : String}
    (h : f.kind.loopParameter? = some n) : f.tag ≠ .constructor := by
  rw [Registry.Function.tag]
  cases hkind : f.kind with
  | constructor =>
    rw [hkind] at h
    cases h
  | member | enumerationMember | procedure => simp [Registry.Kind.tag]

/-- What the body of a function calls. -/
def called (project : ProjectNames) (f : Registry.Function) : String :=
  match f.kind with
  | .constructor name => "new " ++ project.namespaceObjects ++ "::" ++ name
  | .member name .. => "objectPointer->" ++ name
  | .enumerationMember name .. => "enumeration." ++ name
  | .procedure _ => f.qualifiedName

/-- The call in the body of a function, from the arguments of a call and of a call in a loop. -/
def callOf (project : ProjectNames) (f : Registry.Function) (arguments loopArguments : String) :
    String :=
  match f.kind.loopParameter? with
  | none => simpleCall (called project f) arguments
  | some n => repeatedCall (converted n) (called project f) loopArguments

/-- The words of a template stand for what belongs to a function. -/
structure Speaks (value : String → String) (project : ProjectNames) (f : Registry.Function) :
    Prop where
  namespaceObjects : value "namespace" = project.namespaceObjects
  libraryFunction : value "library_function" = f.kind.libraryFunction?.getD ""
  qualifiedName : value "alias" = f.qualifiedName
  loop : value "loop" = f.kind.loopParameter?.getD ""

section Speaks
variable {value : String → String} (project : ProjectNames) {f : Registry.Function}
  (h : Speaks value project f)
include h

theorem callee_eq : callee value f.tag = called project f := by
  have hfunction := h.libraryFunction
  rw [Registry.Function.tag, called]
  cases hkind : f.kind with
  | procedure => exact h.qualifiedName
  | constructor =>
    rw [hkind] at hfunction
    show "new " ++ value "namespace" ++ "::" ++ value "library_function" = _
    rw [h.namespaceObjects, hfunction]
    rfl
  | member =>
    rw [hkind] at hfunction
    exact congrArg ("objectPointer->" ++ ·) hfunction
  | enumerationMember =>
    rw [hkind] at hfunction
    exact congrArg ("enumeration." ++ ·) hfunction

theorem invocation_eq : invocation value f.kind.loopParameter?.isSome f.tag =
    callOf project f (value "library_call") (value "loop_call") := by
  rw [invocation, callOf, callee_eq project h, h.loop]
  cases hloop : f.kind.loopParameter? with
  | none => rfl
  | some n =>
    exact if_pos ⟨rfl, tag_ne_constructor hloop⟩

end Speaks

/-- A body converts the parameters of its function before it calls the library. -/
def ConvertsFirst (kit : Kit) (project : ProjectNames) (f : Registry.Function)
    (body : Except Fault String) : Prop :=
  ∃ text conversions arguments loopArguments, body = .ok text ∧
    kit.parameters "conversions" f.parameters = .ok conversions ∧
    kit.parameters "library_call" f.parameters = .ok arguments ∧
    kit.loopCall f = .ok loopArguments ∧
    Precedes conversions (callOf project f arguments loopArguments) text

/-- The words of a template stand for the code of a function, and one of them, a group of rules, for
the type of its result. -/
structure Spells (kit : Kit) (project : ProjectNames) (f : Registry.Function) (group : String)
    (value : String → String) : Prop extends Speaks value project f where
  conversions : kit.parameters "conversions" f.parameters = .ok (value "conversions")
  libraryCall : kit.parameters "library_call" f.parameters = .ok (value "library_call")
  loopCall : kit.loopCall f = .ok (value "loop_call")
  returnType : kit.returnValue group "returnValue" f.returnValue = .ok (value group)

/-- The words of a body stand for the code of its function, whatever else a platform fills in. -/
theorem Caller.exists_spells (caller : Caller) {kit : Kit} (h : kit.Supplied caller.platform)
    (project : ProjectNames) (f : Registry.Function) :
    ∃ text bindings, caller.body kit project f = .ok text ∧
      Spells kit project f caller.resultType (Bindings.value bindings) ∧
      kit.render (caller.bodyTemplate f) bindings = .ok text := by
  cases caller with
  | c =>
    obtain ⟨text, htext⟩ := C.exists_functionBody h.serves project f
    obtain ⟨loopArguments, hloop, hrender⟩ := bind_eq_ok.1 htext
    obtain ⟨_, -, hrender⟩ := bind_eq_ok.1 hrender
    obtain ⟨conversions, hconversions, hrender⟩ := bind_eq_ok.1 hrender
    obtain ⟨arguments, harguments, hrender⟩ := bind_eq_ok.1 hrender
    obtain ⟨type, htype, hrender⟩ := bind_eq_ok.1 hrender
    obtain ⟨_, -, hrender⟩ := bind_eq_ok.1 hrender
    refine ⟨text, _, htext, ?_, hrender⟩
    exact ⟨⟨rfl, rfl, rfl, rfl⟩, hconversions, harguments, hloop, htype⟩
  | excel =>
    have hserves : kit.Serves Excel.functionWords Excel.groups :=
      h.serves.mono (List.subset_append_left _ _) (List.Subset.refl _)
    obtain ⟨text, htext⟩ := Excel.exists_functionBody hserves project f
    obtain ⟨loopArguments, hloop, hrender⟩ := bind_eq_ok.1 htext
    obtain ⟨_, -, hrender⟩ := bind_eq_ok.1 hrender
    obtain ⟨_, -, hrender⟩ := bind_eq_ok.1 hrender
    obtain ⟨_, -, hrender⟩ := bind_eq_ok.1 hrender
    obtain ⟨_, -, hrender⟩ := bind_eq_ok.1 hrender
    obtain ⟨conversions, hconversions, hrender⟩ := bind_eq_ok.1 hrender
    obtain ⟨arguments, harguments, hrender⟩ := bind_eq_ok.1 hrender
    obtain ⟨type, htype, hrender⟩ := bind_eq_ok.1 hrender
    obtain ⟨_, -, hrender⟩ := bind_eq_ok.1 hrender
    refine ⟨text, _, htext, ?_, hrender⟩
    exact ⟨⟨rfl, rfl, rfl, rfl⟩, hconversions, harguments, hloop, htype⟩

/-- The body of a function is what its template is filled to. -/
theorem Caller.exists_filled (caller : Caller) {kit : Kit} (h : kit.Supplied caller.platform)
    (project : ProjectNames) (f : Registry.Function) :
    ∃ text value, caller.body kit project f = .ok text ∧
      Spells kit project f caller.resultType value ∧
      Template.filled? value (caller.bodySource f.kind.loopParameter?.isSome f.tag).toList =
        some text := by
  obtain ⟨text, bindings, hbody, hspells, hrender⟩ := caller.exists_spells h project f
  exact ⟨text, _, hbody, hspells, h.filled?_of_render (caller.bodySource_mem f) hrender⟩

theorem Caller.convertsFirst (caller : Caller) {kit : Kit} (h : kit.Supplied caller.platform)
    (project : ProjectNames) (f : Registry.Function) :
    ConvertsFirst kit project f (caller.body kit project f) := by
  obtain ⟨text, value, hbody, hspells, hfilled⟩ := caller.exists_filled h project f
  have hcall := caller.callsIn_bodySource _ _ _ _ hfilled
  rw [invocation_eq project hspells.toSpeaks] at hcall
  exact ⟨text, _, _, _, hbody, hspells.conversions, hspells.libraryCall, hspells.loopCall, hcall⟩

/-! ### Loops -/

/-- A function loops over a parameter with a name. No other parameter has the name. The parameter is a
declared vector, and the body converts it to a variable. The arguments of a call in the loop are those
of a single call, but for an element of the variable where a single call passes the variable. -/
structure LoopsOver (kit : Kit) (f : Registry.Function) (n : String) : Prop where
  one : ∃ p, f.parameters.filter (·.name = n) = [p] ∧ p.implicit = false ∧ p.rank = .vector ∧
    Prepared kit f p
  element : ∃ arguments loopArguments passed i,
    kit.parameters "library_call" f.parameters = .ok arguments ∧
    kit.loopCall f = .ok loopArguments ∧
    Text.arguments? (arguments ++ ")") = some passed ∧
    passed.length = f.declaredParameters.length ∧
    (f.declaredParameters.map (·.name))[i]? = some n ∧
    passed[i]? = some (converted n) ∧
    Text.arguments? (loopArguments ++ ")") = some (passed.set i (element n))

/-- Where names differ, one parameter at most has a name. -/
theorem filter_name_eq {ps : List Registry.Parameter} (hdistinct : (ps.map (·.name)).Nodup)
    {p : Registry.Parameter} (hp : p ∈ ps) : ps.filter (·.name = p.name) = [p] := by
  induction ps with
  | nil => cases hp
  | cons q rest ih =>
    obtain ⟨hfresh, hdistinct⟩ := List.nodup_cons.1 hdistinct
    rcases List.mem_cons.1 hp with rfl | hp
    · have hnone : rest.filter (·.name = p.name) = [] :=
        List.filter_eq_nil_iff.2 fun q hq hname =>
          hfresh (List.mem_map.2 ⟨q, hq, of_decide_eq_true hname⟩)
      rw [List.filter_cons_of_pos (by simp), hnone]
    · have hother : q.name ≠ p.name := fun hname =>
        hfresh (List.mem_map.2 ⟨p, hp, hname.symm⟩)
      rw [List.filter_cons_of_neg (by simpa using hother), ih hdistinct hp]

section Supplied
variable {kit : Kit} {platform : Platform} (h : kit.Supplied platform) {mark : String}
  {conversion : Registry.Parameter → String}
  (hsource : Converts (Generator.rules platform) mark conversion)
include h hsource

/-- A function that loops over one of its declared vectors. -/
theorem loopsOver {f : Registry.Function} (hdistinct : (f.parameters.map (·.name)).Nodup)
    (hnames : ∀ p ∈ f.parameters, Text.isIdentifier p.name = true) {p : Registry.Parameter}
    (hp : p ∈ f.declaredParameters) (hrank : p.rank = .vector)
    (hn : f.kind.loopParameter? = some p.name) : LoopsOver kit f p.name := by
  obtain ⟨hmem, himplicit⟩ := List.mem_filter.1 hp
  rw [Bool.not_eq_true'] at himplicit
  have hconverted : isConverted p.type p.rank = true := by simp [isConverted, hrank]
  have hne : f.declaredParameters ≠ [] := List.ne_nil_of_mem hp
  have hdeclared : (f.declaredParameters.map (·.name)).Nodup :=
    hdistinct.sublist (List.filter_sublist.map _)
  obtain ⟨i, hi⟩ := List.getElem?_of_mem hp
  have hname : (f.declaredParameters.map (·.name))[i]? = some p.name := by
    rw [List.getElem?_map, hi, Option.map_some]
  have hpassed : passed mark none p = converted p.name := by
    rw [passed, if_neg (Option.some_ne_none _).symm, argument, if_pos hconverted]
  have hcall := arguments?_callText hsource.marked none hne hnames ""
  have hloop := arguments?_callText hsource.marked (some p.name) hne hnames ""
  rw [String.append_empty] at hcall hloop
  rw [map_passed_eq_set mark hdeclared hname] at hloop
  exact {
    one := ⟨p, filter_name_eq hdistinct hmem, himplicit, hrank,
      prepared_of_isConverted h hsource hp (hnames p hmem) hconverted⟩
    element := ⟨_, _, _, i, parameters_libraryCall h hsource f, loopCall_eq h hsource hn, hcall,
      List.length_map _, hname, by rw [List.getElem?_map, hi, Option.map_some, hpassed], hloop⟩ }

end Supplied

/-! ### Agreement -/

/-- The body of a function and the arguments of its call agree with its parameters. -/
structure BodyAgrees (kit : Kit) (project : ProjectNames) (f : Registry.Function)
    (body : Except Fault String) : Prop where
  convertsFirst : ConvertsFirst kit project f body
  /-- Whatever variable a call takes, a conversion introduces. -/
  prepared : ∃ g, kit.rules.group "library_call" = .ok g ∧ ∀ p ∈ f.parameters,
    g.parameterFragment? none p = .ok (some (converted p.name)) → Prepared kit f p
  loopsOver : ∀ n ∈ f.kind.loopParameter?, LoopsOver kit f n

section Compiled
variable {project : ProjectNames} {g : Metadata.Function} {f : Registry.Function}
  (hg : g.Sound) (hloops : g.LoopsOverVector) (hmade : Registry.Function.ofMetadata project g = .ok f)
include hg hloops hmade

/-- A function that loops does so over a vector that is declared. -/
theorem exists_looped {n : String} (hn : n ∈ f.kind.loopParameter?) :
    ∃ p ∈ f.declaredParameters, p.name = n ∧ p.rank = .vector := by
  obtain ⟨q, hq, hname, hrank⟩ :=
    hloops n (Registry.Function.loopParameter_of_ofMetadata hmade n hn)
  rw [(Registry.Function.completed_of_sound hg hmade).declared]
  exact ⟨_, List.mem_map_of_mem hq, hname, hrank⟩

theorem bodyAgrees (caller : Caller) {kit : Kit} (h : kit.Supplied caller.platform)
    (names : ProjectNames) : BodyAgrees kit names f (caller.body kit names f) where
  convertsFirst := caller.convertsFirst h names f
  prepared := prepared_of_fragment h caller.converts_rules
    ((Registry.Function.completed_of_sound hg hmade).isIdentifier hg)
  loopsOver n hn := by
    have hcompleted := Registry.Function.completed_of_sound hg hmade
    obtain ⟨p, hp, rfl, hrank⟩ := exists_looped hg hloops hmade hn
    exact Generator.loopsOver h caller.converts_rules hcompleted.distinct
      (hcompleted.isIdentifier hg) hp hrank hn

end Compiled

/-- The bodies of all functions agree with their parameters on the platform of a caller. -/
theorem exists_bodyAgrees (caller : Caller) (tree : FileTree) {project : ProjectNames} {m : Metadata}
    (hm : ∀ c ∈ m.categories, ∃ source filename, Metadata.Category.parse source filename = .ok c)
    {after : Compilation}
    (hrun : (Compilation.fresh project m).run Compilation.standard = (after, .ok ()))
    {r : Registry} (hr : after.registry = some r) :
    ∃ kit : Kit, (∀ settings, load tree none settings r caller.platform =
        .ok (ofKit kit settings r caller.platform)) ∧
      ∀ c ∈ r.categories, ∀ f ∈ c.functions,
        BodyAgrees kit r.project f (caller.body kit r.project f) := by
  obtain ⟨kit, hkit, hload⟩ := exists_supplied tree caller.platform
  refine ⟨kit, fun settings => hload settings r, fun c hc f hf => ?_⟩
  obtain ⟨g, hg, hloops, hmade⟩ :=
    Compilation.exists_declaration (Metadata.sound_of_parsed hm) hrun hr hc hf
  exact bodyAgrees hg hloops hmade caller hkit r.project

/-- **The bodies of functions convert what their calls take.** -/
theorem bodies_agree (tree : FileTree) {project : ProjectNames} {m : Metadata}
    (hm : ∀ c ∈ m.categories, ∃ source filename, Metadata.Category.parse source filename = .ok c)
    {after : Compilation}
    (hrun : (Compilation.fresh project m).run Compilation.standard = (after, .ok ()))
    {r : Registry} (hr : after.registry = some r) :
    (∃ kit : Kit, (∀ settings, load tree none settings r .c = .ok (ofKit kit settings r .c)) ∧
      ∀ c ∈ r.categories, ∀ f ∈ c.functions,
        BodyAgrees kit r.project f (C.body kit r.project f)) ∧
    (∃ kit : Kit,
      (∀ settings, load tree none settings r .excel = .ok (ofKit kit settings r .excel)) ∧
      ∀ c ∈ r.categories, ∀ f ∈ c.functions,
        BodyAgrees kit r.project f (Excel.body kit r.project f)) :=
  ⟨exists_bodyAgrees .c tree hm hrun hr, exists_bodyAgrees .excel tree hm hrun hr⟩

/-- A procedure that loops over dates. -/
def discountSource : String :=
  "<C name='a'><Functions><Procedure name='f' loopParameter='dates'>"
    ++ "<Parameters><Parameter name='dates'><type>long</type><tensorRank>vector</tensorRank>"
    ++ "</Parameter></Parameters><ReturnValue><type>double</type></ReturnValue>"
    ++ "</Procedure></Functions></C>"

/-- The category of `discountSource`. -/
def discounts : Metadata where
  categories :=
    [⟨"a", "a", "", [],
      [⟨"f", .procedure, none, none, none, some "dates", none, none, none, false, true, [],
        [⟨"dates", .long, .vector, none, ""⟩], some ⟨.double, .scalar, ""⟩⟩]⟩]
  enumerations := []

/-- The dates are read from their source. -/
theorem parse_discounts :
    ∀ c ∈ discounts.categories, Metadata.Category.parse discountSource "a.xml" = .ok c :=
  Metadata.parse_of_chars
    (Metadata.append_chars (Metadata.append_chars (Metadata.append_chars rfl rfl) rfl) rfl)
    (by decide +kernel)

/-- The loop is over the dates. -/
theorem bodies_discounts :
    (∀ c ∈ discounts.categories, Metadata.Category.parse discountSource "a.xml" = .ok c) ∧
      ∃ after r, (Compilation.fresh ⟨"P", "P", "p"⟩ discounts).run Compilation.standard =
          (after, .ok ()) ∧ after.registry = some r ∧
        ∃ c ∈ r.categories, ∃ f ∈ c.functions, f.kind.loopParameter? = some "dates" ∧
          (∃ kit, BodyAgrees kit r.project f (C.body kit r.project f)) ∧
          ∃ kit, BodyAgrees kit r.project f (Excel.body kit r.project f) := by
  have hrun : (((Compilation.fresh ⟨"P", "P", "p"⟩ discounts).run Compilation.standard).2.toOption,
      ((Compilation.fresh ⟨"P", "P", "p"⟩ discounts).run Compilation.standard).1.registry.map
        (·.categories.map fun c => c.functions.map fun f => f.kind.loopParameter?)) =
      (some (), some [[some "dates"]]) := by decide +kernel
  obtain ⟨after, r, houtcome, hr, hcategories⟩ := Compilation.exists_registry hrun
  obtain ⟨⟨kit, -, hbodies⟩, ⟨kit', -, hbodies'⟩⟩ :=
    bodies_agree {} (fun c hc => ⟨_, _, parse_discounts c hc⟩) houtcome hr
  obtain ⟨c, hc, hfunctions⟩ := List.mem_map.1 (hcategories ▸ List.mem_cons_self)
  obtain ⟨f, hf, hloop⟩ := List.mem_map.1 (hfunctions ▸ List.mem_cons_self)
  exact ⟨parse_discounts, after, r, houtcome, hr, c, hc, f, hf, hloop, ⟨kit, hbodies c hc f hf⟩,
    kit', hbodies' c hc f hf⟩

end Bindery.Generator
