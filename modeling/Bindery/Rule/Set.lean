import Bindery.Rule

/-! Collections of rules.

A source of rules names pieces of code and lists groups whose rules refer to them. All code is read
before any group is built. Codes and groups come in the order of their names. -/
namespace Bindery.Rule

/-- A rule that refers to code by name. -/
structure Reference where
  rank : Option TensorRank := none
  type : Option DataType := none
  code : Option String := none
deriving DecidableEq, Repr

/-- A group whose rules refer to code by name. -/
structure GroupSource where
  delimiter : String := ", "
  indent : Nat := 0
  before : String := ""
  after : String := ""
  skipImplicit : Bool := false
  rules : List Reference := []
deriving DecidableEq, Repr

/-- Named code and named groups, each in the order of the names. -/
structure Source where
  codes : List (String × String) := []
  groups : List (String × GroupSource) := []
deriving DecidableEq, Repr

/-- The groups of a platform. -/
structure Set where
  groups : List Group := []
deriving DecidableEq, Repr

/-- A rule whose code is looked up by name. -/
def ofReference (codes : List (String × Template)) (group : String) (r : Reference) :
    Except Fault Rule := do
  let code ← r.code.mapM fun id =>
    match codes.lookup id with
    | some template => Except.ok template
    | none => .error (.unknownCode group id)
  return { rank := r.rank, type := r.type, code }

/-- A group whose code is looked up by name. -/
def Group.ofSource (codes : List (String × Template)) (name : String) (g : GroupSource) :
    Except Fault Group := do
  let rules ← g.rules.mapM (ofReference codes name)
  return { name, delimiter := g.delimiter, indent := g.indent, before := g.before,
           after := g.after, skipImplicit := g.skipImplicit, rules }

namespace Set

/-- The groups of a source. -/
def ofSource (source : Source) : Except Fault Set := do
  let codes ← source.codes.mapM fun (id, code) =>
    match Template.parse ("codes." ++ id) code with
    | .ok template => Except.ok (id, template)
    | .error fault => .error (Fault.template fault)
  let groups ← source.groups.mapM fun (name, g) => Group.ofSource codes name g
  return ⟨groups⟩

/-- The names of the groups in order. -/
def names (set : Set) : List String := set.groups.map Group.name

/-- The group with a name. -/
def group (set : Set) (name : String) : Except Fault Group :=
  match set.groups.find? (·.name = name) with
  | some g => .ok g
  | none => .error (.unknownGroup name)

/-- The code of a group for something. -/
def use (set : Set) (name : String) (code : Group → Except Template.Fault String) :
    Except Fault String := do
  (code (← set.group name)).mapError .template

/-- The code of a group for parameters. -/
def apply (set : Set) (name : String) (parameters : List Registry.Parameter) :
    Except Fault String :=
  set.use name (·.apply parameters)

end Set
end Bindery.Rule
