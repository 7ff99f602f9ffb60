import Bindery.Metadata.Read
import Bindery.Proofs.Loading.Category

/-! What a refused category is refused for.

The checks of a category come in parts, and the checks of a part are about one subject: the
category, the name of a function, what a function says of itself, or one of its parameters. The
parts in order make the checks in order (`Written.Category.checks_parts`), so a category that is
refused is refused for the subject of the first part that fails (`Category.parse_eq_error_iff`). The
error has the place where the subject is looked for (`place?_of_refusal?`). -/
namespace Bindery.Metadata

open Text (trim)

/-- What a check is about. -/
inductive Subject where
  | category (name : String)
  /-- The name of a function, which is checked before anything is looked for in the function. -/
  | functionName (name : String)
  /-- What a function says of itself: library function, class, levels of platforms, return value. -/
  | function (name : String)
  | parameter (function name : String)
deriving DecidableEq, Repr

/-- Where a subject is looked for. What a function says of itself is looked for inside the function,
after its name. -/
def Subject.place? (source : Locator) : Subject → Option Span
  | .category name | .functionName name => source.find? name
  | .function name => (source.within name).find? name
  | .parameter owner name => (source.within owner).find? name

/-- Checks about one subject. -/
structure Part where
  subject : Subject
  checks : List Check

/-! ### The parts of a category -/

/-- The parts of parameters that come after others with some names. -/
def parametersParts (l : Locator) (function : String) (earlier : List String) :
    List Written.Parameter → List Part
  | [] => []
  | w :: rest =>
    ⟨.parameter function (trim w.name), w.checks l function
      ++ [.requires (trim w.name ∉ earlier)
        (.flaw (.repeatedParameter (trim w.name) function) (l.find? (trim w.name)))]⟩
      :: parametersParts l function (earlier ++ [trim w.name]) rest

/-- The parts of a function: its parameters come between what it says of itself before them and its
return value. -/
def Written.Function.parts (source : Locator) (tag : Tag) (w : Written.Function) : List Part :=
  let name := trim w.name
  let l := source.within name
  [[⟨.functionName name, [nameCheck source name "function"]⟩,
    ⟨.function name,
      .requires (tag ≠ .procedure → Filled w.libraryFunction)
        (.flaw (.noLibraryFunction tag name) (l.find? name))
      :: .requires (tag = .member ∨ tag = .enumerationMember → Filled w.className)
        (.flaw (.noClass tag name) (l.find? name))
      :: w.platforms.flatMap (Written.Support.checks l name)⟩],
   parametersParts l name [] w.parameters,
   [⟨.function name, w.returnValue.toList.flatMap (Written.ReturnValue.checks l name)
      ++ [.requires (tag ≠ .constructor → w.returnValue.isSome = true)
        (.flaw (.noReturnValue tag name) (l.find? name))]⟩]].flatten

def Written.Category.parts (source : Locator) (w : Written.Category) : List Part :=
  ⟨.category (trim w.name), [nameCheck source (trim w.name) "category"]⟩
    :: w.functions.flatMap fun f => f.2.parts source f.1

theorem checks_parametersParts (l : Locator) (function : String) (earlier : List String)
    (ws : List Written.Parameter) : (parametersParts l function earlier ws).flatMap Part.checks =
      parametersChecks l function earlier ws := by
  induction ws generalizing earlier with
  | nil => rfl
  | cons w rest ih =>
    rw [parametersParts, List.flatMap_cons, ih, parametersChecks, List.append_assoc,
      List.singleton_append]

theorem Written.Function.checks_parts (source : Locator) (tag : Tag) (w : Written.Function) :
    (w.parts source tag).flatMap Part.checks = w.checks source tag := by
  simp only [parts, checks, List.flatten_cons, List.flatten_nil, List.flatMap_append,
    List.flatMap_cons, List.flatMap_nil, List.append_nil, checks_parametersParts, List.cons_append,
    List.nil_append]

/-- The parts of a category make its checks in order. -/
theorem Written.Category.checks_parts (source : Locator) (w : Written.Category) :
    (w.parts source).flatMap Part.checks = w.checks source := by
  rw [parts, checks, List.flatMap_cons, List.singleton_append, List.flatMap_assoc]
  simp only [Written.Function.checks_parts]

/-! ### The part that fails -/

/-- The error of the first check that fails in some parts, with the subject that it is about. -/
def refusal? (parts : List Part) : Option (Subject × LoadError) :=
  parts.findSome? fun p => (Check.first p.checks).map (p.subject, ·)

theorem refusal?_map_snd (parts : List Part) :
    (refusal? parts).map Prod.snd = Check.first (parts.flatMap Part.checks) := by
  induction parts with
  | nil => rfl
  | cons p rest ih =>
    rw [refusal?, List.findSome?_cons, List.flatMap_cons, Check.first_append, ← ih]
    cases Check.first p.checks <;> rfl

/-- A refused category is refused for one subject. -/
theorem Category.parse_eq_error_iff {source filename : String} {w : Written.Category}
    (hread : readWritten source Form.category Written.Category.ofElement = .ok w) (e : LoadError) :
    Category.parse source filename = .error e ↔
      ∃ s, refusal? (w.parts (.ofSource filename source)) = some (s, e) := by
  have hparse : Category.parse source filename =
      Category.ofWritten (.ofSource filename source) w := by
    rw [Category.parse, hread]
    rfl
  rw [hparse, (Category.checked _ w).error_iff, ← Written.Category.checks_parts,
    ← refusal?_map_snd, Option.map_eq_some_iff]
  simp

/-! ### Places of errors -/

/-- If a check fails, its error has a place. -/
def PlacedAt (place : Option Span) (c : Check) : Prop := ∀ e ∈ c, e.place? = place

theorem placedAt_requires {condition : Prop} [Decidable condition] {e : LoadError} :
    PlacedAt e.place? (.requires condition e) := by
  rw [Check.requires]
  split <;> simp [PlacedAt]

theorem placedAt_nameCheck {l : Locator} {name kind : String} :
    PlacedAt (l.find? name) (nameCheck l name kind) := by
  rw [nameCheck]
  cases Naming.fault? name <;> simp [PlacedAt, LoadError.place?]

theorem placedAt_parameterNameCheck {l : Locator} {name function : String} :
    PlacedAt (l.find? name) (parameterNameCheck l name function) := by
  rw [parameterNameCheck]
  cases Naming.parameterFault? name <;> simp [PlacedAt, LoadError.place?]

theorem placedAt_shapeChecks {l : Locator} {function item owner type : String}
    {rank : Option String} :
    ∀ c ∈ shapeChecks l function item owner type rank, PlacedAt (l.find? owner) c := by
  simp only [shapeChecks, List.cons_append, List.forall_mem_cons, List.forall_mem_append,
    List.forall_mem_map]
  exact ⟨placedAt_requires, fun _ _ => placedAt_requires, placedAt_requires, List.forall_mem_nil _⟩

/-- The errors of a part have the place where its subject is looked for. -/
def Part.Placed (source : Locator) (p : Part) : Prop :=
  ∀ c ∈ p.checks, PlacedAt (p.subject.place? source) c

theorem placed_parametersParts {source : Locator} {function : String} {earlier : List String}
    {ws : List Written.Parameter} :
    ∀ p ∈ parametersParts (source.within function) function earlier ws, p.Placed source := by
  induction ws generalizing earlier with
  | nil => exact List.forall_mem_nil _
  | cons w rest ih =>
    refine List.forall_mem_cons.2 ⟨?_, ih⟩
    simp only [Part.Placed, Written.Parameter.checks, List.cons_append, List.forall_mem_cons,
      List.forall_mem_append]
    exact ⟨placedAt_parameterNameCheck, placedAt_shapeChecks, placedAt_requires,
      List.forall_mem_nil _⟩

theorem Written.Function.placed_parts {source : Locator} {tag : Tag} {w : Written.Function} :
    ∀ p ∈ w.parts source tag, p.Placed source := by
  simp only [parts, List.flatten_cons, List.flatten_nil, List.forall_mem_append,
    List.forall_mem_cons]
  refine ⟨⟨?name, ?leading, List.forall_mem_nil _⟩, placed_parametersParts,
    ⟨?trailing, List.forall_mem_nil _⟩, List.forall_mem_nil _⟩
  case name =>
    exact List.forall_mem_singleton.2 placedAt_nameCheck
  case leading =>
    refine List.forall_mem_cons.2 ⟨placedAt_requires, List.forall_mem_cons.2 ⟨placedAt_requires, ?_⟩⟩
    simp only [List.forall_mem_flatMap, Written.Support.checks, List.forall_mem_map]
    exact fun _ _ _ _ => placedAt_requires
  case trailing =>
    simp only [Part.Placed, List.forall_mem_append, List.forall_mem_flatMap,
      List.forall_mem_singleton]
    exact ⟨fun _ _ => placedAt_shapeChecks, placedAt_requires⟩

theorem Written.Category.placed_parts {source : Locator} {w : Written.Category} :
    ∀ p ∈ w.parts source, p.Placed source := by
  refine List.forall_mem_cons.2 ⟨List.forall_mem_singleton.2 placedAt_nameCheck, ?_⟩
  simp only [List.forall_mem_flatMap]
  exact fun _ _ => Written.Function.placed_parts

/-- The error that a category is refused with has the place where its subject is looked for. -/
theorem place?_of_refusal? {source : Locator} {w : Written.Category} {s : Subject} {e : LoadError}
    (h : refusal? (w.parts source) = some (s, e)) : e.place? = s.place? source := by
  obtain ⟨p, hp, hfails⟩ := List.exists_of_findSome?_eq_some h
  obtain ⟨_, hfirst, heq⟩ := Option.map_eq_some_iff.1 hfails
  obtain ⟨rfl, rfl⟩ := Prod.mk.inj heq
  obtain ⟨c, hc, he⟩ := List.exists_of_findSome?_eq_some hfirst
  exact Written.Category.placed_parts p hp c hc _ he

end Bindery.Metadata
