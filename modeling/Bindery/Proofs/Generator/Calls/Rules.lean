import Bindery.Proofs.Generator.Caller
import Bindery.Proofs.Text.Declarations

/-! How the bodies of functions take their parameters.

A body converts its parameters and calls a function of the library with them. A single number or truth
value is passed as it is; any other value is converted first, and then the variable that holds the
result is passed. One group of rules has the conversions and another the arguments, and they tell the
same values apart on each of the platforms that have bodies (`Caller.converts_rules`). -/
namespace Bindery.Generator

/-- The variable that holds a parameter once it is converted. -/
def converted (name : String) : String := name ++ "Cpp"

/-- An element of the variable, in a loop. -/
def element (name : String) : String := name ++ "Cpp[i]"

/-- Values that are converted before they are passed on. -/
def isConverted (type : DataType) (rank : TensorRank) : Bool :=
  rank ≠ .scalar || type = .string || type = .any

/-- What a call passes for a parameter: the variable, or else the parameter after a mark. -/
def argument (mark : String) (p : Registry.Parameter) : String :=
  if isConverted p.type p.rank then converted p.name else mark ++ p.name

/-- The type of values in some arrangement, before a name. -/
def arranged (element : String) : TensorRank → String
  | .scalar => element ++ " "
  | .vector => "std::vector<" ++ element ++ "> "
  | .matrix => "std::vector<std::vector<" ++ element ++ "> > "

/-- The conversion of a parameter to values of a type, made from an initial value. -/
def conversion (elementType : DataType → TensorRank → String)
    (initialValue : String → DataType → TensorRank → String) (p : Registry.Parameter) : String :=
  arranged (elementType p.type p.rank) p.rank ++ p.name
    ++ ("Cpp" ++ initialValue p.name p.type p.rank)

/-- A source passes parameters on as arguments, and converts those that it passes on as variables. -/
structure Converts (source : Rule.Source) (mark : String)
    (conversion : Registry.Parameter → String) : Prop where
  marked : mark ∈ ["", "*"]
  named : ["library_call", "conversions"] ⊆ source.groups.map Prod.fst
  /-- Arguments stand one after the other, without those for parameters that are added. -/
  declaredOnly : (source.group "library_call").skipImplicit = true
  indented : ∀ s, (source.group "library_call").indented s = s
  joined : ∀ fragments, (source.group "library_call").joined fragments = ", ".intercalate fragments
  passes : ∀ p, ∃ code, source.code? "library_call" p.type p.rank = some code ∧
    Template.filled? (Rule.Group.valueOf p) code.toList = some (argument mark p)
  converts : ∀ p, isConverted p.type p.rank = true → ∃ code,
    source.code? "conversions" p.type p.rank = some code ∧
    Template.filled? (Rule.Group.valueOf p) code.toList = some (conversion p)
  /-- A conversion introduces the variable. -/
  introduces : ∀ p, Text.isIdentifier p.name = true →
    Text.declaredVariable ((source.group "conversions").indented (conversion p)) = converted p.name

/-- Fragments with nothing around them. -/
theorem joined_eq_intercalate {g : Rule.Group} (hbefore : g.before = "") (hafter : g.after = "")
    (fragments : List String) : g.joined fragments = g.delimiter.intercalate fragments := by
  cases fragments with
  | nil => rfl
  | cons first rest =>
    simp only [Rule.Group.joined, hbefore, hafter, String.empty_append, String.append_empty]

/-- Types are written without parentheses and equals signs. -/
theorem all_isEarly_arranged {element : String} (h : element.toList.all Text.isEarly = true)
    (rank : TensorRank) : (arranged element rank).toList.all Text.isEarly = true := by
  unfold arranged
  have hparts : ∀ s ∈ [" ", "std::vector<", "> ", "std::vector<std::vector<", "> > "],
      s.toList.all Text.isEarly = true := by decide
  simp only [List.forall_mem_cons] at hparts
  cases rank <;> simp only [String.toList_append, List.all_append, h, hparts, Bool.and_self]

/-- The type of values in some arrangement. -/
def valueType (element : String) : TensorRank → String
  | .scalar => element
  | .vector => "std::vector<" ++ element ++ ">"
  | .matrix => "std::vector<std::vector<" ++ element ++ "> >"

/-- A type is set off from the name that comes after it. -/
theorem arranged_eq (element : String) (rank : TensorRank) :
    arranged element rank = valueType element rank ++ " " := by
  unfold arranged valueType
  cases rank with
  | scalar => rfl
  | vector | matrix =>
    simp only [String.append_assoc]
    rfl

/-- A conversion introduces its variable, whatever spaces are before it. -/
theorem declaredVariable_conversion {elementType : DataType → TensorRank → String}
    {initialValue : String → DataType → TensorRank → String} {p : Registry.Parameter}
    (htype : (elementType p.type p.rank).toList.all Text.isEarly = true)
    (hvalue : ((initialValue p.name p.type p.rank).toList.takeWhile Text.isEarly).all (· = ' '))
    (hname : Text.isIdentifier p.name = true) :
    Text.declaredVariable ("        " ++ conversion elementType initialValue p) =
      converted p.name := by
  have hsplit : "        " ++ conversion elementType initialValue p =
      "        " ++ arranged (elementType p.type p.rank) p.rank ++ converted p.name
        ++ initialValue p.name p.type p.rank := by
    simp only [conversion, converted, String.append_assoc]
  rw [hsplit]
  refine Text.declaredVariable_eq ?_ ?_ (Text.isIdentifier_append hname (by decide)) hvalue
  · rw [String.toList_append, List.all_append, all_isEarly_arranged htype, Bool.and_true]
    decide
  · rw [arranged_eq, ← String.append_assoc, String.toList_append]
    exact List.rtakeWhile_concat_neg Text.isNamePart
      ("        " ++ valueType (elementType p.type p.rank) p.rank).toList ' ' (by decide)

/-! ### Callers -/

namespace Caller

/-- The mark of a parameter that is passed as it is. -/
def mark : Caller → String
  | c => ""
  | excel => "*"

/-- The type of a value that may be of any type. -/
def variant : Caller → TensorRank → String
  | c, .matrix => DataType.any.name
  | c, _ => "ObjectHandler::Variant"
  | excel, _ => "ObjectHandler::property_t"

/-- The type of an element of a variable. -/
def elementType (caller : Caller) (type : DataType) (rank : TensorRank) : String :=
  if type = .string ∨ type = .property ∧ rank = .vector then "std::string"
  else if type = .any then caller.variant rank
  else type.name

/-- What a variable is made from. A platform gets the values of a parameter in its own form. -/
def initialValue : Caller → String → DataType → TensorRank → String
  | c, name, type, .scalar =>
    (if type = .any then " = ObjectHandler::convertVaries(" else "(") ++ name ++ ");"
  | c, name, type, .vector =>
    if type = .any then " = ObjectHandler::convertVaries(" ++ name ++ ", " ++ name ++ "Size);"
    else "(" ++ name ++ ", " ++ name ++ " + " ++ name ++ "Size);"
  | c, name, _, .matrix =>
    " = ObjectHandler::matrixToVector(" ++ name ++ ", " ++ name ++ "Rows, " ++ name ++ "Cols);"
  | excel, name, type, .scalar =>
    if type = .any then " = ObjectHandler::convert2<ObjectHandler::property_t>("
      ++ "ObjectHandler::ConvertOper(*" ++ name ++ "));"
    else "(" ++ name ++ ");"
  | excel, name, type, .vector =>
    " = ObjectHandler::operToVector<" ++ excel.elementType type .vector ++ ">(*" ++ name
      ++ ", \"" ++ name ++ "\");"
  | excel, name, type, .matrix =>
    " = ObjectHandler::operToMatrix<" ++ excel.elementType type .matrix ++ ">(*" ++ name
      ++ ", \"" ++ name ++ "\");"

variable (caller : Caller)

theorem filled?_argument {p : Registry.Parameter} {value : String → String}
    (hname : value "name" = p.name) : ∃ code,
    (rules caller.platform).code? "library_call" p.type p.rank = some code ∧
      Template.filled? value code.toList = some (argument caller.mark p) := by
  obtain ⟨⟨name, type, rank, description, default⟩, implicit⟩ := p
  cases caller <;> cases type <;> cases rank
  all_goals
    refine ⟨_, rfl, Template.filled?_texts rfl (by decide +kernel) (by cbv) ?_⟩
    simp [argument, isConverted, converted, mark, hname]

set_option maxRecDepth 1000 in
theorem filled?_conversion {p : Registry.Parameter} {value : String → String}
    (hname : value "name" = p.name) (htype : value "type" = p.type.name)
    (h : isConverted p.type p.rank = true) :
    ∃ code, (rules caller.platform).code? "conversions" p.type p.rank = some code ∧
      Template.filled? value code.toList =
        some (conversion caller.elementType caller.initialValue p) := by
  unfold conversion arranged initialValue
  obtain ⟨⟨name, type, rank, description, default⟩, implicit⟩ := p
  cases caller <;> cases type <;> cases rank
  all_goals first
    | (simp [isConverted] at h; done)
    | refine ⟨_, rfl, Template.filled?_texts rfl (by decide +kernel) (by cbv) ?_⟩
      simp only [elementType, variant, reduceCtorEq, ↓reduceIte, String.join_cons,
        ← String.append_assoc]
      simp [*, String.append_assoc]

theorem converts_rules : Converts (rules caller.platform) caller.mark
    (conversion caller.elementType caller.initialValue) where
  marked := by cases caller <;> decide
  named := by cases caller <;> decide
  declaredOnly := by cases caller <;> rfl
  indented _ := by cases caller <;> exact String.empty_append
  joined := by cases caller <;> exact joined_eq_intercalate rfl rfl
  passes p := caller.filled?_argument (Rule.Group.valueOf_name p)
  converts p h :=
    caller.filled?_conversion (Rule.Group.valueOf_name p) (Rule.Group.valueOf_type p) h
  introduces p hname := by
    have hindented : ((rules caller.platform).group "conversions").indented
        (conversion caller.elementType caller.initialValue p) =
          "        " ++ conversion caller.elementType caller.initialValue p := by
      cases caller <;> rfl
    rw [hindented]
    refine declaredVariable_conversion ?_ ?_ hname
    · cases caller <;> cases p.type <;> cases p.rank <;> decide
    · unfold initialValue
      cases caller <;> cases p.type <;> cases p.rank <;> simp [Text.isEarly]

end Caller

end Bindery.Generator
