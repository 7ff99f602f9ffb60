import Bindery.Registry

/-! The registry from metadata.

Every function gets the parameters that its kind needs: a constructor and a member the id of their
object, a member of an enumeration the id of the enumeration, a function that tracks dependencies a
trigger, and a constructor whether its object is permanent. -/
namespace Bindery.Registry

/-- A part that the kind of a function calls for and that is left out. -/
inductive Missing where
  | returnValue (function : String)
  | libraryFunction (function : String)
  | className (function : String)
deriving DecidableEq, Repr

def Missing.message : Missing → String
  | returnValue f => "function '" ++ f ++ "' has no return value"
  | libraryFunction f => "function '" ++ f ++ "' has no library function"
  | className f => "function '" ++ f ++ "' has no class"

/-! ### Parameters -/

/-- A parameter that generation adds. -/
def Parameter.added (name : String) (type : DataType) (description : String)
    (default : Option String := none) : Parameter :=
  { name, type, rank := .scalar, default, description, implicit := true }

/-- A parameter that the metadata declares. -/
def Parameter.declared (p : Metadata.Parameter) : Parameter := { p with implicit := false }

/-- The parameter for the object or enumeration that a function works on. -/
def Kind.subject : Kind → List Parameter
  | .constructor _ => [.added "objectID" .string "id of object to be created"]
  | .member _ c .. => [.added "objectID" .string ("id of existing " ++ c ++ " object")]
  | .enumerationMember _ c .. =>
    [.added "enumerationID" .string ("id of enumeration of class " ++ c)]
  | .procedure _ => []

/-- The parameter through which dependencies are tracked. -/
def trigger : Parameter := .added "trigger" .any "dependency tracking trigger"

/-- The parameter that makes an object permanent. -/
def permanent : Parameter := .added "permanent" .bool "object permanent/nonpermanent" (some "false")

/-- The parameters that come after the declared ones. -/
def Kind.trailing (kind : Kind) (dependencyTrigger : Bool) : List Parameter :=
  (if dependencyTrigger then [trigger] else [])
    ++ (if kind.tag = .constructor then [permanent] else [])

/-! ### Functions -/

/-- A part that has to be there. -/
def required (part : Option α) (missing : Missing) : Except Missing α :=
  match part with
  | some a => .ok a
  | none => .error missing

/-- What a declared function does. -/
def Kind.ofFunction (f : Metadata.Function) : Except Missing Kind := do
  match f.tag with
  | .constructor => return .constructor (← required f.libraryFunction (.libraryFunction f.name))
  | .member =>
    let called ← required f.libraryFunction (.libraryFunction f.name)
    return .member called (← required f.className (.className f.name)) f.superType f.loopParameter
  | .enumerationMember =>
    let called ← required f.libraryFunction (.libraryFunction f.name)
    return .enumerationMember called (← required f.className (.className f.name)) f.superType
      f.loopParameter
  | .procedure => return .procedure f.loopParameter

/-- The description of a constructor. -/
def constructorDescription (libraryFunction : String) : String :=
  "Construct an object of class " ++ libraryFunction ++ " and return its id"

/-- The short and the long description. A constructor always has the same short one, and what is
declared as its description becomes the long one. -/
def descriptions (kind : Kind) (f : Metadata.Function) : String × Option String :=
  match kind with
  | .constructor called =>
    let short := constructorDescription called
    (short, some ((f.longDescription <|> f.description).getD short))
  | _ => (f.description.getD "", f.longDescription)

/-- What a function returns; a constructor returns the id of its object. -/
def returned (kind : Kind) (f : Metadata.Function) : Except Missing ReturnValue :=
  if kind.tag = .constructor then .ok ⟨.string, .scalar, "the ID of the new object"⟩
  else required f.returnValue (.returnValue f.name)

/-- A function of the registry. -/
def Function.ofMetadata (project : ProjectNames) (f : Metadata.Function) :
    Except Missing Function := do
  let kind ← Kind.ofFunction f
  let returnValue ← returned kind f
  return {
    name := f.name
    kind, returnValue
    description := (descriptions kind f).1
    longDescription := (descriptions kind f).2
    qualifiedName := f.qualifiedName.getD (project.namespaceObjects ++ "::" ++ f.name)
    documentationOnly := f.documentationOnly
    dependencyTrigger := f.dependencyTrigger
    platforms := f.platforms
    parameters := kind.subject ++ f.parameters.map .declared ++ kind.trailing f.dependencyTrigger }

/-- A category of the registry. -/
def Category.ofMetadata (project : ProjectNames) (c : Metadata.Category) :
    Except Missing Category := do
  let functions ← c.functions.mapM (Function.ofMetadata project)
  return { name := c.name, displayName := c.displayName, description := c.description,
           serializationIncludes := c.serializationIncludes, functions }

end Bindery.Registry

namespace Bindery

/-- The registry of some metadata. -/
def Registry.ofMetadata (project : ProjectNames) (m : Metadata) :
    Except Registry.Missing Registry := do
  let categories ← m.categories.mapM (Registry.Category.ofMetadata project)
  return { project, categories, enumerations := m.enumerations }

end Bindery
