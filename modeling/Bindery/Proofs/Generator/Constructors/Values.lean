import Bindery.Proofs.Generator.Supplied

/-! What value objects and creators make of a parameter.

A parameter is a value of some shape in code, and a shape has one type (`Value.Shape.typeText`). The
class of a value object takes an argument of that type, keeps it in a member of that type and gives it
back under its name; the creator reads it into a variable of that type. Ten groups of rules write this
code, in two sources that list types and arrangements one by one, and none leaves a declared parameter
out (`values_agree`). -/
namespace Bindery.Generator

/-! ### Values in code -/

namespace Value

/-- What a parameter holds in code: texts, values of whatever type, or values of the type that the
metadata names. -/
inductive Shape where
  | text (rank : TensorRank)
  | variant (many : Bool)
  | plain (type : DataType) (rank : TensorRank)
deriving DecidableEq, Repr

namespace Shape

/-- The shape of a type and an arrangement. There are no matrices of values of whatever type. -/
def of : DataType → TensorRank → Shape
  | .string, rank => text rank
  | .any, .scalar => variant false
  | .any, .vector | .property, .vector => variant true
  | type, rank => plain type rank

/-- The type of an element. -/
def element : Shape → String
  | text _ => "std::string"
  | variant _ => "ObjectHandler::property_t"
  | plain type _ => type.name

/-- How elements are arranged. -/
def rank : Shape → TensorRank
  | text rank | plain _ rank => rank
  | variant false => .scalar
  | variant true => .vector

/-- The type of a value. -/
def typeText (s : Shape) : String :=
  match s.rank with
  | .scalar => s.element
  | .vector => "std::vector<" ++ s.element ++ ">"
  | .matrix => "std::vector<std::vector<" ++ s.element ++ "> >"

/-- The type is the one that the metadata names. -/
def isPlain : Shape → Bool
  | plain .. => true
  | _ => false

/-- A type of the shape, in the words of the metadata. -/
def sample : Shape → DataType
  | text _ => .string
  | variant _ => .any
  | plain .. => .long

theorem rank_of (type : DataType) (rank : TensorRank) : (of type rank).rank = rank := by
  cases type <;> cases rank <;> rfl

end Shape
end Value

/-- A named value in code. -/
structure Value where
  name : String
  shape : Value.Shape
deriving DecidableEq, Repr

namespace Value

/-- The value of a parameter. -/
def of (p : Registry.Parameter) : Value := ⟨p.name, .of p.type p.rank⟩

variable (x : Value)

/-- The parameter of a constructor. Numbers and truth values are copied, and other values are passed
by reference. -/
def argument : String :=
  match x.shape with
  | .plain _ .scalar => x.shape.typeText ++ " " ++ x.name
  | _ => "const " ++ x.shape.typeText ++ "& " ++ x.name

/-- The member that keeps the value. -/
def member : String := x.shape.typeText ++ " " ++ x.name ++ "_;"

/-- The member in the list of what is written to an archive. -/
def archived : String :=
  "& boost::serialization::make_nvp(\"" ++ x.name ++ "\", " ++ x.name ++ "_)"

/-- The name in the list of properties. -/
def listed : String := "\"" ++ x.name ++ "\","

/-- The test for a name in a chain of branches. -/
def test (name : String) : String :=
  "else if (boost::iequals(name, \"" ++ name ++ "\"))\n            "

/-- How the value is given back. -/
def returned : String :=
  match x.shape.rank with
  | .scalar => "return " ++ x.name ++ "_;"
  | .vector =>
    "return ObjectHandler::vector::convert2<ObjectHandler::property_t>(" ++ x.name ++ "_);"
  | .matrix =>
    "return ObjectHandler::matrix::convert2<ObjectHandler::property_t>(" ++ x.name ++ "_);"

/-- How the value is replaced. -/
def replaced : String :=
  x.name ++ match x.shape, x.shape.rank with
    | .text _, .scalar => "_ = boost::get<std::string>(value);"
    | .variant _, .scalar => "_ = value;"
    | _, .scalar => "_ = ObjectHandler::convert2<" ++ x.shape.element ++ ">(value);"
    | _, .vector => "_ = ObjectHandler::vector::convert2<" ++ x.shape.element ++ ">(value, name);"
    | _, .matrix => "_ = ObjectHandler::matrix::convert2<" ++ x.shape.element ++ ">(value, name);"

/-- The branch that gives the value back. -/
def getter : String := test x.name ++ returned x

/-- The branch that replaces the value. -/
def setter : String := test x.name ++ replaced x

/-- The member in the list of what a constructor sets. -/
def initializer : String := x.name ++ "_(" ++ x.name ++ ")"

/-- The variable that a creator reads the value into. -/
def received : String :=
  x.shape.typeText ++ " " ++ x.name ++ match x.shape, x.shape.rank with
    | .variant _, .scalar => " = valueObject->getProperty(\"" ++ x.name ++ "\");"
    | _, .scalar => " =\n        ObjectHandler::convert2<" ++ x.shape.element
        ++ ">(valueObject->getProperty(\"" ++ x.name ++ "\"));"
    | _, .vector => " =\n        ObjectHandler::vector::convert2<" ++ x.shape.element
        ++ ">(valueObject->getProperty(\"" ++ x.name ++ "\"), \"" ++ x.name ++ "\");"
    | _, .matrix => " =\n        ObjectHandler::matrix::convert2<" ++ x.shape.element
        ++ ">(valueObject->getProperty(\"" ++ x.name ++ "\"), \"" ++ x.name ++ "\");"

/-! ### Rules -/

/-- A source has code in a group for each type and arrangement, the same for those of one shape. -/
def Covers (source : Rule.Source) (group : String) : Prop :=
  ∀ type rank, source.code? group type rank =
    source.code? group (Shape.of type rank).sample (Shape.of type rank).rank

/-- The code of a group for a value comes to a fragment. -/
def Writes (source : Rule.Source) (group : String) (fragment : Value → String) : Prop :=
  ∀ (x : Value) (value : String → String), value "name" = x.name →
    (x.shape.isPlain → value "type" = x.shape.element) →
    ∃ code, source.code? group x.shape.sample x.shape.rank = some code ∧
      Template.filled? value code.toList = some (fragment x)

/-- A group of rules whose code goes by the shape of a value. -/
inductive Role where
  /-- The parameter of a constructor, in its class. -/
  | argument
  /-- The parameter of a constructor, in its definition. -/
  | definition
  /-- The member of a class. -/
  | member
  /-- The branch that replaces the value. -/
  | setter
  /-- The variable of a creator. -/
  | received
deriving DecidableEq

namespace Role

/-- The platform that has the group. -/
def platform : Role → Platform
  | received => .serialization
  | argument | definition | member | setter => .valueObjects

/-- The name of the group. -/
def group : Role → String
  | argument => "constructor_parameters"
  | definition => "definition_parameters"
  | member => "members"
  | setter => "set_property"
  | received => "conversions"

/-- What the group writes for a value. -/
def fragment : Role → Value → String
  | argument, x | definition, x => x.argument
  | member, x => x.member
  | setter, x => x.setter
  | received, x => x.received

theorem covers (role : Role) : Covers (rules role.platform) role.group := by
  intro type rank
  cases role <;> cases type <;> cases rank <;> rfl

set_option maxRecDepth 1000 in
theorem writes (role : Role) : Writes (rules role.platform) role.group role.fragment := by
  intro x value hname htype
  unfold fragment Value.argument Value.member Value.setter Value.received replaced test
    Shape.typeText
  rcases x with ⟨name, (_ | _ | _) | (_ | _) | ⟨type, (_ | _ | _)⟩⟩ <;> cases role
  all_goals
    refine ⟨_, rfl, Template.filled?_texts rfl (by decide +kernel) (by cbv) ?_⟩
    simp only [Shape.isPlain, Shape.element, forall_const, Bool.false_eq_true, false_imp_iff] at hname htype
    simp only [Shape.rank, Shape.element, String.join_cons, ← String.append_assoc]
    simp [*, String.append_assoc]

end Role
end Value

/-! ### Kits as they come -/

/-- A group gives the fragments of its role. -/
theorem Value.Role.givesEach {kit : Kit} (role : Value.Role) (h : kit.Supplied role.platform) :
    kit.GivesEach role.group fun p => role.fragment (.of p) := by
  have hname : role.group ∈ (rules role.platform).groups.map Prod.fst := by cases role <;> decide
  have hskip : ((rules role.platform).group role.group).skipImplicit = true := by cases role <;> rfl
  refine h.givesEach hname hskip fun p => ?_
  rw [role.covers]
  refine role.writes (.of p) (Rule.Group.valueOf p) (Rule.Group.valueOf_name p) fun hplain => ?_
  obtain ⟨⟨name, type, rank, description, default⟩, implicit⟩ := p
  cases type <;> cases rank <;> first | rfl | cases hplain

set_option maxRecDepth 1000 in
theorem Value.filled?_getProperty {p : Registry.Parameter} {value : String → String}
    (hname : value "name" = p.name) : ∃ code,
    ValueObjects.rules.code? "get_property" p.type p.rank = some code ∧
      Template.filled? value code.toList = some (Value.of p).getter := by
  obtain ⟨⟨name, type, rank, description, default⟩, implicit⟩ := p
  unfold Value.getter Value.returned Value.test Value.of
  rw [Value.Shape.rank_of]
  cases rank
  all_goals
    refine ⟨_, rfl, Template.filled?_texts rfl (by decide +kernel) (by cbv) ?_⟩
    simp only [String.join_cons, ← String.append_assoc]
    simp [hname, String.append_assoc]

theorem Kit.Supplied.givesEach_getProperty {kit : Kit} (h : kit.Supplied .valueObjects) :
    kit.GivesEach "get_property" fun p => (Value.of p).getter :=
  h.givesEach (by decide) rfl fun p => Value.filled?_getProperty (Rule.Group.valueOf_name p)

/-- The classes and the creators agree on what each declared parameter is: every group gives its
fragments for the declared parameters in order. -/
structure Agree (classes creators : Kit) : Prop where
  constructorParameters : classes.GivesEach "constructor_parameters" fun p => (Value.of p).argument
  definitionParameters : classes.GivesEach "definition_parameters" fun p => (Value.of p).argument
  members : classes.GivesEach "members" fun p => (Value.of p).member
  serialize : classes.GivesEach "serialize" fun p => (Value.of p).archived
  propertyNames : classes.GivesEach "property_names" fun p => (Value.of p).listed
  getProperty : classes.GivesEach "get_property" fun p => (Value.of p).getter
  setProperty : classes.GivesEach "set_property" fun p => (Value.of p).setter
  initializers : classes.GivesEach "initializers" fun p => (Value.of p).initializer
  conversions : creators.GivesEach "conversions" fun p => (Value.of p).received
  libraryCall : creators.GivesEach "library_call" (·.name)

theorem agree_of_supplied {classes creators : Kit} (h : classes.Supplied .valueObjects)
    (h' : creators.Supplied .serialization) : Agree classes creators where
  constructorParameters := Value.Role.argument.givesEach h
  definitionParameters := Value.Role.definition.givesEach h
  members := Value.Role.member.givesEach h
  serialize := h.givesEach (by decide) rfl fun _ => ⟨_, rfl, Template.filled?_chars rfl rfl⟩
  propertyNames := h.givesEach (by decide) rfl fun _ => ⟨_, rfl, Template.filled?_chars rfl rfl⟩
  getProperty := h.givesEach_getProperty
  setProperty := Value.Role.setter.givesEach h
  initializers := h.givesEach (by decide) rfl fun _ => ⟨_, rfl, Template.filled?_chars rfl rfl⟩
  conversions := Value.Role.received.givesEach h'
  libraryCall := h'.givesEach (by decide) rfl fun _ => ⟨_, rfl, Template.filled?_chars rfl rfl⟩

/-- **A value object and its creator agree on every declared parameter.** The rules that the platforms
come with give ten texts for it, each under its name and in the order of the declarations: the
parameters of the constructor, in the class and in the definition, the member, the entries of the
archive, of the list of properties and of the initializers, the branches that give and replace the
value, and in the creator the variable that it is read into and the argument that it becomes. The
parameters, the member and the variable are of one type. -/
theorem values_agree (tree : FileTree) : ∃ classes creators : Kit,
    (∀ settings r, load tree none settings r .valueObjects =
      .ok (ofKit classes settings r .valueObjects)) ∧
    (∀ settings r, load tree none settings r .serialization =
      .ok (ofKit creators settings r .serialization)) ∧
    Agree classes creators := by
  obtain ⟨classes, hclasses, hload⟩ := exists_supplied tree .valueObjects
  obtain ⟨creators, hcreators, hload'⟩ := exists_supplied tree .serialization
  exact ⟨classes, creators, hload, hload', agree_of_supplied hclasses hcreators⟩

end Bindery.Generator
