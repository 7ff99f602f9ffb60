import Bindery.DataType
import Bindery.Locator
import Bindery.Naming
import Bindery.Tag
import Bindery.Text.Blank

/-! What stops a configuration or a metadata file from being loaded.

Each error has a message, a code, advice where there is some, and labels on the places of the
source that it is about. -/
namespace Bindery

/-- A rule that a declaration breaks. -/
inductive Flaw where
  | noLibraryFunction (tag : Tag) (function : String)
  | noClass (tag : Tag) (function : String)
  | noReturnValue (tag : Tag) (function : String)
  | repeatedParameter (parameter function : String)
  | repeatedEnumeration (enumeration : String)
  /-- The configured order names a category again. -/
  | repeatedCategory (category : String)
deriving DecidableEq, Repr

def Flaw.message : Flaw → String
  | noLibraryFunction tag f => tag.name ++ " '" ++ f ++ "' has no libraryFunction"
  | noClass tag f => tag.name ++ " '" ++ f ++ "' has no type attribute"
  | noReturnValue tag f => tag.name ++ " '" ++ f ++ "' has no ReturnValue"
  | repeatedParameter p f => "parameter '" ++ p ++ "' is declared twice in function '" ++ f ++ "'"
  | repeatedEnumeration e => "enumeration '" ++ e ++ "' is defined twice"
  | repeatedCategory c => "category '" ++ c ++ "' is listed more than once"

/-- What stops a load. -/
inductive LoadError where
  /-- A file or directory cannot be read as text. -/
  | unreadable (path : String)
  /-- The configuration is not in its format. -/
  | badConfig
  /-- A metadata file is not in its format. -/
  | badMetadata
  | flaw (flaw : Flaw) (place : Option Span)
  | badName (name kind : String) (reason : NameFault) (place : Option Span)
  | badParameterName (name function : String) (reason : NameFault) (place : Option Span)
  /-- Properties that are not in a vector. -/
  | propertyRank (function item : String) (rank : TensorRank) (place : Option Span)
  | unknownValue (field value : String) (reason : UnknownWord) (place : Option Span)
deriving DecidableEq, Repr

namespace LoadError

def message : LoadError → String
  | unreadable path => "failed to read '" ++ path ++ "'"
  | badConfig => "failed to parse addin.toml"
  | badMetadata => "failed to parse metadata"
  | flaw f _ => f.message
  | badName name kind _ _ => "invalid " ++ kind ++ " name '" ++ name ++ "'"
  | badParameterName name function _ _ =>
    "the string '" ++ name ++ "' is not a valid parameter name (function '" ++ function ++ "')"
  | propertyRank function item rank _ =>
    "type 'property' combined with tensor rank '" ++ rank.name ++ "' in " ++ item
      ++ " of function '" ++ function ++ "'"
  | unknownValue field value _ _ => "invalid " ++ field ++ " '" ++ value ++ "'"

/-- The code of a kind of error. -/
def code? : LoadError → Option String
  | unreadable _ => none
  | badConfig => some "addingen::config_error"
  | badMetadata => some "addingen::metadata_error"
  | flaw .. => some "addingen::validation_error"
  | badName .. => some "addingen::invalid_identifier"
  | badParameterName .. => some "addingen::invalid_parameter_name"
  | propertyRank .. => some "addingen::property_rank"
  | unknownValue .. => some "addingen::unknown_value"

/-- Advice on how to mend an error. -/
def help? : LoadError → Option String
  | unreadable _ => some "paths in addin.toml are relative to the directory containing it"
  | badConfig | badMetadata | flaw .. => none
  | badName _ _ reason _ =>
    some (reason.message
      ++ ". Use only letters, numbers, and underscores, starting with a letter or underscore.")
  | badParameterName _ _ reason _ => some reason.message
  | propertyRank .. => some "type 'property' can only be combined with tensorRank 'vector'"
  | unknownValue _ _ reason _ => some reason.message

/-- The place in the source that an error is about. -/
def place? : LoadError → Option Span
  | unreadable _ | badConfig | badMetadata => none
  | flaw _ place => place
  | badName _ _ _ place => place
  | badParameterName _ _ _ place => place
  | propertyRank _ _ _ place => place
  | unknownValue _ _ _ place => place

/-- What a label on the source says. -/
def labelText : LoadError → String
  | unreadable _ | badConfig | badMetadata => ""
  | flaw f _ => f.message
  | badName .. => "invalid identifier"
  | badParameterName .. => "invalid parameter name"
  | propertyRank .. => "declared here"
  | unknownValue field .. => "unknown " ++ field

/-- The labels on the source. -/
def labels (e : LoadError) : List (String × Span) := e.place?.toList.map (e.labelText, ·)

end LoadError

namespace Locator

/-- Accepts a name, or complains about it where an element has it. -/
def checkName (l : Locator) (name kind : String) : Except LoadError Unit :=
  match Naming.fault? name with
  | some reason => .error (.badName name kind reason (l.find? name))
  | none => .ok ()

/-- Accepts the name of a declared parameter. -/
def checkParameterName (l : Locator) (name function : String) : Except LoadError Unit :=
  match Naming.parameterFault? name with
  | some reason => .error (.badParameterName name function reason (l.find? name))
  | none => .ok ()

/-- The value that a field of an element is written as, blanks around it aside. -/
def readValue (l : Locator) (words : Vocabulary α) (field value owner : String) :
    Except LoadError α :=
  match words.read (Text.trim value) with
  | .ok a => .ok a
  | .error reason => .error (.unknownValue field value reason (l.find? owner))

end Locator
end Bindery
