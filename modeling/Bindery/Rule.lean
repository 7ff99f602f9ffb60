import Bindery.Registry
import Bindery.Template
import Bindery.Text.Search

/-! Conversion rules.

A group of rules turns the parameters of a function into code, one fragment for each parameter that
a rule has code for. The first rule that fits the type and the arrangement of a parameter decides.
The fragments keep the order of the parameters. -/
namespace Bindery

/-- Code for the parameters of a type and an arrangement; a rule that leaves one out fits all. -/
structure Rule where
  rank : Option TensorRank
  type : Option DataType
  code : Option Template
deriving DecidableEq, Repr

/-- The rule is for a type and an arrangement. -/
def Rule.fits (r : Rule) (type : DataType) (rank : TensorRank) : Bool :=
  r.rank.all (· = rank) && r.type.all (· = type)

namespace Rule

/-- What can go wrong with rules. -/
inductive Fault where
  /-- A rule of a group names code that is not there. -/
  | unknownCode (group code : String)
  | unknownGroup (group : String)
  /-- The source is not in the format of rules. -/
  | malformed (origin : String)
  /-- The source is in a file that is not readable as text. -/
  | unreadable (path : String)
  | template (fault : Template.Fault)
deriving DecidableEq, Repr

def Fault.message : Fault → String
  | unknownCode group code =>
    "rule group '" ++ group ++ "' references unknown code '" ++ code ++ "'"
  | unknownGroup group => "rule group '" ++ group ++ "' is not defined"
  | malformed origin => "failed to parse rules '" ++ origin ++ "'"
  | unreadable path => "failed to read rules '" ++ path ++ "'"
  | template fault => fault.message

/-- A named list of rules, and how their fragments are put together. -/
structure Group where
  name : String
  delimiter : String
  /-- The number of spaces before each fragment. -/
  indent : Nat
  /-- What stands before the fragments, if there are any. -/
  before : String
  /-- What stands after the fragments, if there are any. -/
  after : String
  /-- Parameters that generation adds are passed over. -/
  skipImplicit : Bool
  rules : List Rule
deriving DecidableEq, Repr

namespace Group

/-- A fragment with its spaces. -/
def indented (g : Group) (code : String) : String := Text.times g.indent ' ' ++ code

/-- The fragment for a value of a type and an arrangement. -/
def fragment? (g : Group) (type : DataType) (rank : TensorRank) (bindings : Bindings) :
    Except Template.Fault (Option String) :=
  match (g.rules.find? (·.fits type rank)).bind Rule.code with
  | some code => (code.render bindings).map fun s => some (g.indented s)
  | none => .ok none

/-- What the code of a rule can speak of. -/
def bindings (name : String) (type : DataType) (rank : TensorRank) (description default : String) :
    Bindings :=
  [("name", name), ("type", type.name), ("rank", rank.name), ("description", description),
   ("default", default)]

/-- The fragment for a parameter. -/
def parameterFragment? (g : Group) (replaced : Option (String × String))
    (p : Registry.Parameter) : Except Template.Fault (Option String) :=
  if g.skipImplicit && p.implicit then .ok none
  else match replaced.filter (·.1 = p.name) with
    | some (_, code) => .ok (some (g.indented code))
    | none =>
      g.fragment? p.type p.rank (bindings p.name p.type p.rank p.description (p.default.getD ""))

/-- The fragments put together. -/
def joined (g : Group) : List String → String
  | [] => ""
  | fragments => g.before ++ g.delimiter.intercalate fragments ++ g.after

/-- The code for parameters, the parameter of a name apart, for which code is given. -/
def applyReplacing (g : Group) (parameters : List Registry.Parameter)
    (replaced : Option (String × String)) : Except Template.Fault String := do
  let fragments ← parameters.mapM (g.parameterFragment? replaced)
  return g.joined (fragments.filterMap id)

/-- The code for parameters. -/
def apply (g : Group) (parameters : List Registry.Parameter) : Except Template.Fault String :=
  g.applyReplacing parameters none

/-- The code for a return value under a name. -/
def applyReturn (g : Group) (name : String) (value : ReturnValue) :
    Except Template.Fault String := do
  let fragment ← g.fragment? value.type value.rank
    (bindings name value.type value.rank value.description "")
  return g.joined fragment.toList

end Group
end Rule
end Bindery
