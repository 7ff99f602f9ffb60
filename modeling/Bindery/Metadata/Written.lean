import Bindery.Tag

/-! Metadata as it is written: what the elements of a file hold before anything is checked.

Texts are as they stand, and what an element leaves out is left out here. -/
namespace Bindery.Metadata.Written

structure Support where
  name : String
  implementation : Option String
  xlMacro : Option Bool
  calcInWizard : Option Bool
deriving DecidableEq, Repr

structure Parameter where
  name : String
  default : Option String
  type : String
  rank : Option String
  description : Option String
deriving DecidableEq, Repr

structure ReturnValue where
  type : String
  rank : Option String
  description : Option String
deriving DecidableEq, Repr

structure Function where
  name : String
  className : Option String
  superType : Option String
  loopParameter : Option String
  dependencyTrigger : Option Bool
  documentationOnly : Option Bool
  /-- The flag as an element, which wins over the attribute. -/
  documentationOnlyElement : Option Bool
  libraryFunction : Option String
  description : Option String
  longDescription : Option String
  qualifiedName : Option String
  platforms : List Support
  parameters : List Parameter
  returnValue : Option ReturnValue
deriving DecidableEq, Repr

structure Category where
  name : String
  displayName : Option String
  description : Option String
  serializationIncludes : List String
  /-- The functions; the name of its element is the kind of a function. -/
  functions : List (Tag × Function)
deriving DecidableEq, Repr

structure Enumeration where
  name : String
  className : String
  description : Option String
  values : List (String × String)
deriving DecidableEq, Repr

end Bindery.Metadata.Written
