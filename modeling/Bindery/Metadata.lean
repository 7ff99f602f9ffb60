import Bindery.Support
import Bindery.Tag

/-! Metadata: the functions that a project declares, by category, and its enumerations. -/
namespace Bindery

namespace Metadata

/-- A declared parameter. -/
structure Parameter where
  name : String
  type : DataType
  rank : TensorRank
  default : Option String
  description : String
deriving DecidableEq, Repr

/-- A declared function. -/
structure Function where
  name : String
  tag : Tag
  /-- The library function or class that is called. -/
  libraryFunction : Option String
  /-- The class of the object that a member belongs to. -/
  className : Option String
  superType : Option String
  loopParameter : Option String
  description : Option String
  longDescription : Option String
  qualifiedName : Option String
  documentationOnly : Bool
  dependencyTrigger : Bool
  platforms : List Support
  parameters : List Parameter
  returnValue : Option ReturnValue
deriving DecidableEq, Repr

/-- A group of functions, declared in one file. -/
structure Category where
  name : String
  displayName : String
  description : String
  serializationIncludes : List String
  functions : List Function
deriving DecidableEq, Repr

end Metadata

/-- All that a project declares, in the order of generation. -/
structure Metadata where
  categories : List Metadata.Category
  enumerations : List Enumeration
deriving DecidableEq, Repr

/-- The functions with their categories, category by category. -/
def Metadata.functions (m : Metadata) : List (Metadata.Category × Metadata.Function) :=
  m.categories.flatMap fun c => c.functions.map (c, ·)

end Bindery
