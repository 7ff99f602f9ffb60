import Bindery.Generator
import Bindery.Proofs.Registry.Shapes
import Bindery.Proofs.Rule.Fragments
import Bindery.Proofs.Template.Rendering

/-! How worksheet functions are passed values.

Each type and arrangement is passed in one of five ways, and each way has a letter and a type in
code. The rules for letters and the rules for types differ in what they list, yet both follow the
same ways, but for a single property, which no function has (`typeCodes_eq`, `prototype_eq`,
`returnType_eq`). -/
namespace Bindery.Generator.Excel

open Rule (Group)

/-- How a worksheet passes a value to a function. -/
inductive Passing where
  | string | double | long | bool | oper
deriving DecidableEq, Repr

namespace Passing

/-- The letter that a type is registered by. -/
def letter : Passing → Char
  | string => 'C'
  | double => 'E'
  | long => 'N'
  | bool => 'L'
  | oper => 'P'

/-- The type in the code of a function. -/
def declared : Passing → String
  | string => "char *"
  | double => "double *"
  | long => "long *"
  | bool => "bool *"
  | oper => "OPER *"

/-- How values of a type and an arrangement are passed. -/
def of : DataType → TensorRank → Passing
  | .string, .scalar => string
  | .double, .scalar => double
  | .long, .scalar => long
  | .bool, .scalar => bool
  | _, _ => oper

/-- How a function gets its parameters. -/
def ofParameters (f : Registry.Function) : List Passing :=
  f.parameters.map fun p => of p.type p.rank

/-- How a function gives its result. -/
def ofResult (f : Registry.Function) : Passing := of f.returnValue.type f.returnValue.rank

end Passing

/-- The type text of a function: a letter for its result and one for each parameter, and a mark
where it is a macro. -/
def typeText (f : Registry.Function) : String :=
  String.ofList ((Passing.ofResult f :: Passing.ofParameters f).map Passing.letter) ++
    if (f.platform? platformName).any (·.xlMacro) then "#" else ""

/-- The names of the parameters, with commas between them. -/
def nameList (f : Registry.Function) : String := ",".intercalate (f.parameters.map (·.name))

/-- The parameters in the code of a function, in lines of their own. -/
def parameterText (f : Registry.Function) : String :=
  ",\n".intercalate (List.zipWith (fun passing p => "        " ++ passing.declared ++ p.name)
    (Passing.ofParameters f) f.parameters)

/-! ### Rules -/

/-- A group of the rules. -/
def groupOf (name : String) : Rule.Group :=
  rules.resolved name ((rules.groups.lookup name).getD {})

/-- A piece of code by its name. -/
def piece (id : String) (segments : List Segment) : Option Template :=
  some ⟨"codes." ++ id, segments⟩

theorem groupOf_typeCodes : groupOf "type_codes" = ⟨"type_codes", "", 0, "", "", false, [
    ⟨some .scalar, some .string, piece "type_code_string" [.text "C"]⟩,
    ⟨some .scalar, some .double, piece "type_code_double" [.text "E"]⟩,
    ⟨some .scalar, some .long, piece "type_code_long" [.text "N"]⟩,
    ⟨some .scalar, some .bool, piece "type_code_bool" [.text "L"]⟩,
    ⟨none, none, piece "type_code_oper" [.text "P"]⟩]⟩ := by
  decide +kernel

theorem groupOf_prototype : groupOf "prototype" = ⟨"prototype", ",\n", 8, "", "", false, [
    ⟨some .scalar, some .string, piece "arg_string" [.text "char *", .placeholder "name"]⟩,
    ⟨some .scalar, some .any, piece "arg_oper" [.text "OPER *", .placeholder "name"]⟩,
    ⟨some .scalar, none,
      piece "arg_scalar" [.placeholder "type", .text " *", .placeholder "name"]⟩,
    ⟨none, none, piece "arg_oper" [.text "OPER *", .placeholder "name"]⟩]⟩ := by
  decide +kernel

theorem groupOf_returnType : groupOf "return_type" = ⟨"return_type", ", ", 0, "", "", false, [
    ⟨some .scalar, some .string, piece "xl_string" [.text "char *"]⟩,
    ⟨some .scalar, some .any, piece "xl_oper" [.text "OPER *"]⟩,
    ⟨some .scalar, none, piece "xl_scalar" [.placeholder "type", .text " *"]⟩,
    ⟨none, none, piece "xl_oper" [.text "OPER *"]⟩]⟩ := by
  decide +kernel

theorem groupOf_parameterList :
    groupOf "parameter_list" = ⟨"parameter_list", ",", 0, "", "", false,
      [⟨none, none, piece "name" [.placeholder "name"]⟩]⟩ := by
  decide +kernel

theorem isSome_lookup_groups :
    ∀ name ∈ ["type_codes", "prototype", "return_type", "parameter_list"],
      (rules.groups.lookup name).isSome = true := by
  decide +kernel

section Fragments
variable (type : DataType) (rank : TensorRank) (name description default : String)

theorem fragment_typeCodes :
    (groupOf "type_codes").fragment? type rank (Group.bindings name type rank description default) =
      .ok (some (String.singleton (Passing.of type rank).letter)) := by
  rw [groupOf_typeCodes]
  cases type <;> cases rank <;> rfl

theorem fragment_parameterList :
    (groupOf "parameter_list").fragment? type rank
      (Group.bindings name type rank description default) = .ok (some name) := by
  have hspaces : Text.times 0 ' ' = "" := rfl
  rw [groupOf_parameterList]
  simp [Group.fragment?, Rule.fits, piece, Template.render_placeholder, Template.render_nil,
    Bindings.value?, Group.bindings, Group.indented, hspaces, Except.map]

variable {type rank} (h : type = .property → rank = .vector)
include h

/-- A single property would be passed as something that has no letter. -/
theorem fragment_returnType :
    (groupOf "return_type").fragment? type rank
      (Group.bindings name type rank description default) =
        .ok (some (Passing.of type rank).declared) := by
  rw [groupOf_returnType]
  cases type <;> cases rank <;> first | rfl | exact nomatch h rfl

theorem fragment_prototype :
    (groupOf "prototype").fragment? type rank (Group.bindings name type rank description default) =
      .ok (some ("        " ++ (Passing.of type rank).declared ++ name)) := by
  have hspaces : Text.times 8 ' ' = "        " := rfl
  rw [groupOf_prototype]
  cases type <;> cases rank <;> simp [Group.fragment?, Rule.fits, piece, Template.render_text,
    Template.render_placeholder, Template.render_nil, Bindings.value?, Group.bindings,
    Group.indented, hspaces, Except.map, DataType.name, Passing.of, Passing.declared,
    ← String.append_assoc] at h ⊢

end Fragments

/-! ### The kit as it comes -/

theorem intercalate_singletons (cs : List Char) :
    "".intercalate (cs.map String.singleton) = String.ofList cs := by
  induction cs with
  | nil => rfl
  | cons c rest ih =>
    rw [String.ofList_cons, ← ih]
    cases rest with
    | nil => simp
    | cons d rest => simp [String.intercalate_cons_cons]

section Supplied
variable {kit : Kit} (hrules : Rule.Set.ofSource rules = .ok kit.rules)
include hrules

theorem code_eq {name : String}
    (hname : name ∈ ["type_codes", "prototype", "return_type", "parameter_list"])
    {code : Rule.Group → Except Template.Fault String} {s : String}
    (h : code (groupOf name) = .ok s) : kit.code name code = .ok s := by
  have hlookup : rules.groups.lookup name = some ((rules.groups.lookup name).getD {}) := by
    obtain ⟨g, hg⟩ := Option.isSome_iff_exists.1 (isSome_lookup_groups name hname)
    rw [hg, Option.getD_some]
  refine mapError_eq_ok.2 (bind_eq_ok.2 ⟨groupOf name, ?_, mapError_eq_ok.2 h⟩)
  exact Rule.Set.group_ofSource hrules hlookup

theorem typeCodes_eq (f : Registry.Function) : typeCodes kit f = .ok (typeText f) := by
  have hplain : (groupOf "type_codes").Plain "" := by
    rw [groupOf_typeCodes]
    exact ⟨rfl, rfl, rfl, rfl⟩
  have hresult : kit.returnValue "type_codes" "" f.returnValue =
      .ok (String.singleton (Passing.ofResult f).letter) :=
    code_eq hrules (by simp) (hplain.applyReturn_eq (fragment_typeCodes ..))
  have hparameters : kit.parameters "type_codes" f.parameters =
      .ok ("".intercalate ((Passing.ofParameters f).map (String.singleton ·.letter))) := by
    rw [Passing.ofParameters, List.map_map]
    exact code_eq hrules (by simp) (hplain.apply_eq fun p _ => fragment_typeCodes ..)
  have htext := intercalate_singletons ((Passing.ofParameters f).map Passing.letter)
  rw [List.map_map] at htext
  refine bind_eq_ok.2 ⟨_, hresult, bind_eq_ok.2 ⟨_, hparameters, ?_⟩⟩
  rw [typeText, List.map_cons, String.ofList_cons, ← htext]
  rfl

theorem parameterList_eq (f : Registry.Function) :
    kit.parameters "parameter_list" f.parameters = .ok (nameList f) := by
  have hplain : (groupOf "parameter_list").Plain "," := by
    rw [groupOf_parameterList]
    exact ⟨rfl, rfl, rfl, rfl⟩
  exact code_eq hrules (by simp) (hplain.apply_eq fun p _ => fragment_parameterList ..)

variable {f : Registry.Function} (hf : f.Shaped)
include hf

theorem returnType_eq :
    kit.returnValue "return_type" "" f.returnValue = .ok (Passing.ofResult f).declared := by
  have hplain : (groupOf "return_type").Plain ", " := by
    rw [groupOf_returnType]
    exact ⟨rfl, rfl, rfl, rfl⟩
  exact code_eq hrules (by simp)
    (hplain.applyReturn_eq (fragment_returnType _ _ _ hf.returnValue))

theorem prototype_eq :
    kit.parameters "prototype" f.parameters = .ok (parameterText f) := by
  have hplain : (groupOf "prototype").Plain ",\n" := by
    rw [groupOf_prototype]
    exact ⟨rfl, rfl, rfl, rfl⟩
  rw [parameterText, Passing.ofParameters, List.zipWith_map_left, List.zipWith_self]
  exact code_eq hrules (by simp)
    (hplain.apply_eq fun p hp => fragment_prototype _ _ _ (hf.parameters p hp))

end Supplied

end Bindery.Generator.Excel
