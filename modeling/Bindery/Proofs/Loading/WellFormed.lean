import Bindery.Metadata
import Bindery.Metadata.Written
import Bindery.Naming
import Bindery.Text.Blank
import Mathlib.Data.List.Forall2

/-! Well-formed metadata, as it is written.

The rules that the elements of a category file have to follow, each said of the written text alone,
and what a reading of an element keeps of it: every text trimmed, every word as the value it names,
every member in its place. -/
namespace Bindery.Metadata

open Text (trim content?)

/-- A name that can stand in generated code. -/
structure Usable (name : String) : Prop where
  identifier : Text.isIdentifier name = true
  noKeyword : name ∉ Naming.keywords

/-- A text that is there and not blank. -/
def Filled (text : Option String) : Prop := ∃ s ∈ text, trim s ≠ ""

theorem filled_iff {text : Option String} : Filled text ↔ (text.bind content?).isSome = true := by
  cases text with
  | none => simp [Filled]
  | some s => by_cases h : trim s = "" <;> simp [Filled, content?, h]

instance (text : Option String) : Decidable (Filled text) := decidable_of_iff' _ filled_iff

/-- A type and an arrangement: both are words that have a meaning, and properties come in vectors
only. -/
structure WellShaped (type : String) (rank : Option String) : Prop where
  knownType : ∃ t : DataType, trim type = t.name
  knownRank : ∀ word ∈ rank, ∃ r : TensorRank, trim word = r.name
  property : trim type = "property" → rank.map trim = some "vector"

structure Written.Parameter.WellFormed (w : Written.Parameter) : Prop where
  name : Usable (trim w.name)
  /-- Generation adds no parameter of that name by itself. -/
  free : trim w.name ∉ Naming.reserved
  shape : WellShaped w.type w.rank

structure Written.Function.WellFormed (tag : Tag) (w : Written.Function) : Prop where
  name : Usable (trim w.name)
  libraryFunction : tag ≠ .procedure → Filled w.libraryFunction
  className : tag = .member ∨ tag = .enumerationMember → Filled w.className
  levels : ∀ s ∈ w.platforms, ∀ word ∈ s.implementation, ∃ i : Implementation, trim word = i.name
  parameters : ∀ p ∈ w.parameters, p.WellFormed
  distinct : (w.parameters.map fun p => trim p.name).Nodup
  /-- A constructor need not have a return value; one that it has is looked at all the same. -/
  returnValue : ∀ v ∈ w.returnValue, WellShaped v.type v.rank
  returns : tag ≠ .constructor → w.returnValue.isSome = true

structure Written.Category.WellFormed (w : Written.Category) : Prop where
  name : Usable (trim w.name)
  functions : ∀ f ∈ w.functions, f.2.WellFormed f.1

/-! ### What is kept -/

/-- The arrangement that is written, scalar where nothing is. -/
def rankWord (rank : Option String) : String := (rank.map trim).getD TensorRank.scalar.name

structure Support.Reads (w : Written.Support) (s : Support) : Prop where
  name : s.name = trim w.name
  implementation : (w.implementation.map trim).getD Implementation.auto.name = s.implementation.name
  xlMacro : s.xlMacro = w.xlMacro.getD true
  calcInWizard : s.calcInWizard = w.calcInWizard.getD false

structure Parameter.Reads (w : Written.Parameter) (p : Parameter) : Prop where
  name : p.name = trim w.name
  type : trim w.type = p.type.name
  rank : rankWord w.rank = p.rank.name
  default : p.default = w.default.map trim
  description : p.description = (w.description.bind content?).getD ""

structure ReturnValue.Reads (w : Written.ReturnValue) (v : ReturnValue) : Prop where
  type : trim w.type = v.type.name
  rank : rankWord w.rank = v.rank.name
  description : v.description = (w.description.bind content?).getD ""

structure Function.Reads (tag : Tag) (w : Written.Function) (f : Function) : Prop where
  name : f.name = trim w.name
  tag : f.tag = tag
  libraryFunction : f.libraryFunction = w.libraryFunction.bind content?
  className : f.className = w.className.bind content?
  superType : f.superType = w.superType.bind content?
  loopParameter : f.loopParameter = w.loopParameter.bind content?
  description : f.description = w.description.bind content?
  longDescription : f.longDescription = w.longDescription.bind content?
  qualifiedName : f.qualifiedName = w.qualifiedName.bind content?
  documentationOnly : f.documentationOnly =
    (w.documentationOnlyElement <|> w.documentationOnly).getD false
  dependencyTrigger : f.dependencyTrigger = w.dependencyTrigger.getD true
  platforms : List.Forall₂ Support.Reads w.platforms f.platforms
  parameters : List.Forall₂ Parameter.Reads w.parameters f.parameters
  returnValue : Option.Rel ReturnValue.Reads w.returnValue f.returnValue

structure Category.Reads (w : Written.Category) (c : Category) : Prop where
  name : c.name = trim w.name
  displayName : c.displayName = (w.displayName.bind content?).getD (trim w.name)
  description : c.description = (w.description.bind content?).getD ""
  serializationIncludes : c.serializationIncludes = w.serializationIncludes.filterMap content?
  functions : List.Forall₂ (fun w f => Function.Reads w.1 w.2 f) w.functions c.functions

end Bindery.Metadata
