import Bindery.LoadError
import Bindery.Metadata
import Bindery.Metadata.Written
import Bindery.Text.Blank

/-! Metadata from what is written.

Names are trimmed and checked, words become the values they name, and blank texts count as left
out. The checks of an element run in a fixed order and the first that fails is the error. A
function's parts are looked for after the function's own name. -/
namespace Bindery.Metadata

open Text (trim content?)

/-- Fails with an error where a condition holds. -/
def refuseIf (condition : Bool) (error : LoadError) : Except LoadError Unit :=
  if condition then .error error else .ok ()

/-- A type and an arrangement; elements that say nothing of it are scalar. -/
def readShape (l : Locator) (type : String) (rank : Option String) (owner : String) :
    Except LoadError (DataType × TensorRank) := do
  let type ← l.readValue DataType.vocabulary "type" type owner
  let rank ← match rank with
    | some rank => l.readValue TensorRank.vocabulary "tensorRank" rank owner
    | none => .ok .scalar
  return (type, rank)

/-- Properties come in vectors only. -/
def misplacedProperty (type : DataType) (rank : TensorRank) : Bool :=
  type = .property && rank ≠ .vector

/-- A platform entry of a function. -/
def readSupport (l : Locator) (function : String) (w : Written.Support) :
    Except LoadError Support := do
  let implementation ← match w.implementation with
    | some value => l.readValue Implementation.vocabulary "implementation" value function
    | none => .ok default
  return { name := trim w.name, implementation,
           xlMacro := w.xlMacro.getD true, calcInWizard := w.calcInWizard.getD false }

/-- A parameter of a function. -/
def Parameter.ofWritten (l : Locator) (function : String) (w : Written.Parameter) :
    Except LoadError Parameter := do
  let name := trim w.name
  l.checkParameterName name function
  let (type, rank) ← readShape l w.type w.rank name
  refuseIf (misplacedProperty type rank)
    (.propertyRank function ("parameter '" ++ name ++ "'") rank (l.find? name))
  return { name, type, rank, default := w.default.map trim,
           description := (w.description.bind content?).getD "" }

/-- The parameters of a function, none of them named twice. -/
def readParameters (l : Locator) (function : String) (earlier : List Parameter) :
    List Written.Parameter → Except LoadError (List Parameter)
  | [] => .ok earlier
  | w :: rest => do
    let p ← Parameter.ofWritten l function w
    refuseIf (earlier.any (·.name = p.name))
      (.flaw (.repeatedParameter p.name function) (l.find? p.name))
    readParameters l function (earlier ++ [p]) rest

/-- The return value of a function. -/
def readReturnValue (l : Locator) (function : String) (w : Written.ReturnValue) :
    Except LoadError ReturnValue := do
  let (type, rank) ← readShape l w.type w.rank function
  refuseIf (misplacedProperty type rank)
    (.propertyRank function "return value" rank (l.find? function))
  return { type, rank, description := (w.description.bind content?).getD "" }

/-- A function of a category. -/
def Function.ofWritten (source : Locator) (tag : Tag) (w : Written.Function) :
    Except LoadError Function := do
  let name := trim w.name
  source.checkName name "function"
  let l := source.within name
  let libraryFunction := w.libraryFunction.bind content?
  let className := w.className.bind content?
  refuseIf (tag ≠ .procedure && libraryFunction.isNone)
    (.flaw (.noLibraryFunction tag name) (l.find? name))
  refuseIf (tag.isMember && className.isNone) (.flaw (.noClass tag name) (l.find? name))
  let platforms ← w.platforms.mapM (readSupport l name)
  let parameters ← readParameters l name [] w.parameters
  let returnValue ← w.returnValue.mapM (readReturnValue l name)
  refuseIf (tag ≠ .constructor && returnValue.isNone)
    (.flaw (.noReturnValue tag name) (l.find? name))
  return {
    name, tag, libraryFunction, className, platforms, parameters, returnValue
    superType := w.superType.bind content?
    loopParameter := w.loopParameter.bind content?
    description := w.description.bind content?
    longDescription := w.longDescription.bind content?
    qualifiedName := w.qualifiedName.bind content?
    documentationOnly := (w.documentationOnlyElement <|> w.documentationOnly).getD false
    dependencyTrigger := w.dependencyTrigger.getD true }

/-- A category. Without a display name it is displayed under its name. -/
def Category.ofWritten (source : Locator) (w : Written.Category) : Except LoadError Category := do
  let name := trim w.name
  source.checkName name "category"
  let functions ← w.functions.mapM fun (tag, f) => Function.ofWritten source tag f
  return {
    name, functions
    displayName := (w.displayName.bind content?).getD name
    description := (w.description.bind content?).getD ""
    serializationIncludes := w.serializationIncludes.filterMap content? }

/-- The enumerations of a file, none of them named twice. -/
def readEnumerations (source : Locator) (earlier : List Enumeration) :
    List Written.Enumeration → Except LoadError (List Enumeration)
  | [] => .ok earlier
  | w :: rest => do
    let name := trim w.name
    source.checkName name "enumeration"
    refuseIf (earlier.any (·.name = name))
      (.flaw (.repeatedEnumeration name) ((source.within name).find? name))
    readEnumerations source
      (earlier ++ [{ name, className := trim w.className,
                     description := (w.description.bind content?).getD "", values := w.values }])
      rest

end Bindery.Metadata
