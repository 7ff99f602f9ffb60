import Bindery.Xml.Form

/-! The forms of metadata: the elements that are fields, and which of them may be left out.

An attribute has a form as well, for it may be written as an element. -/
namespace Bindery.Metadata.Form

open Xml Xml.Form

/-- A text that has to be there. -/
def text : Field := .required textOnly

/-- A text that may be left out. -/
def optionalText : Field := .optional textOnly

/-- A list in an element of its own, which may be left out. -/
def list (name : String) (item : Xml.Form) : Field := .optional (fields [(name, .required item)])

/-- A `SupportedPlatform` element. -/
def support : Xml.Form := fields
  [("@name", text), ("@implementation", optionalText), ("@xlMacro", optionalText),
   ("@calcInWizard", optionalText)]

/-- A `Parameter` element. -/
def parameter : Xml.Form := fields
  [("@name", text), ("@default", optionalText), ("type", text), ("tensorRank", optionalText),
   ("description", optionalText)]

/-- A `ReturnValue` element. -/
def returnValue : Xml.Form := fields
  [("type", text), ("tensorRank", optionalText), ("description", optionalText)]

/-- The element of a function. -/
def function : Xml.Form := fields
  [("@name", text), ("@type", optionalText), ("@superType", optionalText),
   ("@loopParameter", optionalText), ("@dependencyTrigger", optionalText),
   ("@documentationOnly", optionalText), ("documentationOnly", optionalText),
   ("libraryFunction", optionalText), ("description", optionalText),
   ("longDescription", optionalText), ("alias", optionalText),
   ("SupportedPlatforms", list "SupportedPlatform" support),
   ("Parameters", list "Parameter" parameter), ("ReturnValue", .optional returnValue)]

/-- The root element of a category. -/
def category : Xml.Form := fields
  [("@name", text), ("displayName", optionalText), ("description", optionalText),
   ("serializationIncludes", list "include" textOnly), ("Functions", .optional (members function))]

/-- An `EnumeratedType` element. -/
def enumeration : Xml.Form := fields
  [("@name", text), ("@class", text), ("description", optionalText),
   ("Value", .required (fields [("@string", text), ("@value", text)]))]

/-- The root element of enumerations. -/
def enumerations : Xml.Form := fields [("EnumeratedType", .required enumeration)]

end Bindery.Metadata.Form
