import Bindery.Metadata.Form
import Bindery.Metadata.OfWritten
import Bindery.Xml.Field

/-! Metadata from XML. -/
namespace Bindery.Metadata

open Xml (Content Element Fields)

namespace Written

/-- A `SupportedPlatform` element. -/
def Support.ofElement (e : Element) : Option Support := do
  let f ← e.fields?
  some { name := ← f.attr "name"
         implementation := ← f.attr? "implementation"
         xlMacro := ← f.flagAttr? "xlMacro"
         calcInWizard := ← f.flagAttr? "calcInWizard" }

/-- A `Parameter` element. -/
def Parameter.ofElement (e : Element) : Option Parameter := do
  let f ← e.fields?
  some { name := ← f.attr "name"
         default := ← f.attr? "default"
         type := ← f.text "type"
         rank := ← f.text? "tensorRank"
         description := ← f.text? "description" }

/-- A `ReturnValue` element. -/
def ReturnValue.ofElement (e : Element) : Option ReturnValue := do
  let f ← e.fields?
  some { type := ← f.text "type"
         rank := ← f.text? "tensorRank"
         description := ← f.text? "description" }

/-- The element of a function. -/
def Function.ofElement (e : Element) : Option Function := do
  let f ← e.fields?
  some { name := ← f.attr "name"
         className := ← f.attr? "type"
         superType := ← f.attr? "superType"
         loopParameter := ← f.attr? "loopParameter"
         dependencyTrigger := ← f.flagAttr? "dependencyTrigger"
         documentationOnly := ← f.flagAttr? "documentationOnly"
         documentationOnlyElement := ← f.flag? "documentationOnly"
         libraryFunction := ← f.text? "libraryFunction"
         description := ← f.text? "description"
         longDescription := ← f.text? "longDescription"
         qualifiedName := ← f.text? "alias"
         platforms :=
           ← f.nested "SupportedPlatforms" (·.list? "SupportedPlatform" Support.ofElement)
         parameters := ← f.nested "Parameters" (·.list? "Parameter" Parameter.ofElement)
         returnValue := ← f.record? "ReturnValue" ReturnValue.ofElement }

/-- A member of a `Functions` element, which contains nothing but functions. -/
def functionOfContent : Content → Option (Tag × Function)
  | .element e => do some (← Tag.ofName? e.localName, ← Function.ofElement e)
  | _ => none

/-- The root element of a category. -/
def Category.ofElement (e : Element) : Option Category := do
  let f ← e.fields?
  some { name := ← f.attr "name"
         displayName := ← f.text? "displayName"
         description := ← f.text? "description"
         serializationIncludes := ← f.nested "serializationIncludes" (·.texts? "include")
         functions := ← f.nested "Functions" (·.contents.mapM functionOfContent) }

/-- A `Value` element: a text and the value that it names. -/
def valueOfElement (e : Element) : Option (String × String) := do
  let f ← e.fields?
  some (← f.attr "string", ← f.attr "value")

/-- An `EnumeratedType` element. -/
def Enumeration.ofElement (e : Element) : Option Enumeration := do
  let f ← e.fields?
  some { name := ← f.attr "name"
         className := ← f.attr "class"
         description := ← f.text? "description"
         values := ← f.list? "Value" valueOfElement }

/-- The root element of enumerations. -/
def enumerationsOfElement (e : Element) : Option (List Enumeration) := do
  (← e.fields?).list? "EnumeratedType" Enumeration.ofElement

end Written

/-- What a source holds, where it is metadata at all. -/
def readWritten (source : String) (form : Xml.Form) (read : Element → Option α) :
    Except LoadError α :=
  match ((Xml.root? source).bind form.read?).bind read with
  | some a => .ok a
  | none => .error .badMetadata

/-- The category in a source. -/
def Category.parse (source filename : String) : Except LoadError Category := do
  let written ← readWritten source Form.category Written.Category.ofElement
  Category.ofWritten (.ofSource filename source) written

/-- The enumerations in a source. -/
def parseEnumerations (source filename : String) : Except LoadError (List Enumeration) := do
  let written ← readWritten source Form.enumerations Written.enumerationsOfElement
  readEnumerations (.ofSource filename source) [] written

end Bindery.Metadata
