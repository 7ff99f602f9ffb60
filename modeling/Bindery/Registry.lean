import Bindery.Metadata

/-! The registry: what generators work from.

A function of the registry has all its parameters, those that generation adds among them, and the
parts that its kind calls for. -/
namespace Bindery

/-- The names of a project in generated code. -/
structure ProjectNames where
  name : String
  /-- The namespace of the generated object classes. -/
  namespaceObjects : String
  /-- The directory of the library's sources. -/
  libRoot : String
deriving DecidableEq, Repr

namespace Registry

/-- A parameter of a function. -/
structure Parameter extends Metadata.Parameter where
  /-- Added by generation. -/
  implicit : Bool
deriving DecidableEq, Repr

/-- What a function does, and to what. -/
inductive Kind where
  | constructor (libraryFunction : String)
  | member (libraryFunction className : String) (superType loopParameter : Option String)
  | enumerationMember (libraryFunction className : String) (superType loopParameter : Option String)
  | procedure (loopParameter : Option String)
deriving DecidableEq, Repr

namespace Kind

def tag : Kind → Tag
  | constructor .. => .constructor
  | member .. => .member
  | enumerationMember .. => .enumerationMember
  | procedure .. => .procedure

/-- The library function that is called. -/
def libraryFunction? : Kind → Option String
  | constructor f => some f
  | member f .. => some f
  | enumerationMember f .. => some f
  | procedure _ => none

/-- The class of the object that a member belongs to. -/
def className? : Kind → Option String
  | member _ c .. => some c
  | enumerationMember _ c .. => some c
  | constructor _ | procedure _ => none

def superType? : Kind → Option String
  | member _ _ s _ => s
  | enumerationMember _ _ s _ => s
  | constructor _ | procedure _ => none

/-- The parameter whose elements the function is called for one by one. -/
def loopParameter? : Kind → Option String
  | member _ _ _ l => l
  | enumerationMember _ _ _ l => l
  | procedure l => l
  | constructor _ => none

end Kind

/-- A function. -/
structure Function where
  name : String
  kind : Kind
  description : String
  longDescription : Option String
  /-- The qualified name. -/
  qualifiedName : String
  documentationOnly : Bool
  dependencyTrigger : Bool
  platforms : List Support
  /-- All parameters in order. -/
  parameters : List Parameter
  returnValue : ReturnValue
deriving DecidableEq, Repr

namespace Function

def tag (f : Function) : Tag := f.kind.tag

/-- The first entry for a platform. -/
def platform? (f : Function) (platform : String) : Option Support :=
  Support.find? f.platforms platform

/-- How much of the function is generated for a platform. -/
def implementation? (f : Function) (platform : String) : Option Implementation :=
  (f.platform? platform).map Support.implementation

/-- The function is declared for a platform, at a level or above. -/
def supports (f : Function) (platform : String) (level : Implementation) : Bool :=
  (f.implementation? platform).any (level ≤ ·)

/-- There is code to generate and not only documentation. -/
def generatesCode (f : Function) : Bool := !f.documentationOnly

/-- The parameters that the metadata declares. -/
def declaredParameters (f : Function) : List Parameter := f.parameters.filter (!·.implicit)

/-- The parameter with a name. -/
def parameter? (f : Function) (name : String) : Option Parameter :=
  f.parameters.find? (·.name = name)

end Function

/-- A group of functions. -/
structure Category where
  name : String
  displayName : String
  description : String
  serializationIncludes : List String
  functions : List Function
deriving DecidableEq, Repr

namespace Category

/-- The functions with code to generate that are declared for a platform, at a level or above. -/
def supporting (c : Category) (platform : String) (level : Implementation) : List Function :=
  c.functions.filter fun f => f.generatesCode && f.supports platform level

/-- The constructors with code to generate, on whatever platforms. -/
def constructors (c : Category) : List Function :=
  c.functions.filter fun f => f.tag = .constructor && f.generatesCode

end Category

end Registry

/-- All that is generated from. -/
structure Registry where
  project : ProjectNames
  categories : List Registry.Category
  enumerations : List Enumeration
deriving DecidableEq, Repr

namespace Registry

/-- The category with a name. -/
def category? (r : Registry) (name : String) : Option Category :=
  r.categories.find? (·.name = name)

/-- The functions with their categories, category by category. -/
def functions (r : Registry) : List (Category × Function) :=
  r.categories.flatMap fun c => c.functions.map (c, ·)

/-- The function with a name. -/
def function? (r : Registry) (name : String) : Option Function :=
  (r.functions.map Prod.snd).find? (·.name = name)

end Registry
end Bindery
