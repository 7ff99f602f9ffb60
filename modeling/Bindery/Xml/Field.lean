import Bindery.Xml.Attribute
import Bindery.Xml.Content

/-! The fields of an element.

An element that stands for a record has fields: its attributes, and the elements in it. What is not
a field does not matter. A field comes at most once, absent or not; an attribute may also be written
as an element, with `@` before its name. A list is one unbroken run of elements with the same name.
Each reader fails where the element breaks these rules. -/
namespace Bindery.Xml

/-- The parts of an element that fields are read from. -/
structure Fields where
  attributes : List Attribute
  contents : List Content

/-- The fields of an element, all of whose text can be decoded. -/
def Element.fields? (e : Element) : Option Fields := do
  some { attributes := ← e.attributes?, contents := ← e.contents? }

/-- The text of an element that contains nothing else. -/
def Element.text? (e : Element) : Option String := do
  match ← e.contents? with
  | [] => some ""
  | [.text s] => some s
  | _ => none

/-- A truth value as it is written. -/
def flag? (s : String) : Option Bool :=
  if s = "true" ∨ s = "1" then some true
  else if s = "false" ∨ s = "0" then some false
  else none

/-- The only member of a list that has at most one. -/
def single? : List α → Option (Option α)
  | [] => some none
  | [a] => some (some a)
  | _ => none

/-- The element with a name, unless it is absent. -/
def Content.named? (name : String) : Content → Option (Option Element)
  | .element e => if e.localName = name then some (some e) else none
  | .absent n => if String.ofList (unprefixed n) = name then some none else none
  | .text _ => none

/-- An element whose full name is this one, or a text. -/
def Content.inRun (name : List Char) : Content → Bool
  | .element e => e.name = name
  | .text _ => true
  | .absent _ => false

namespace Fields

/-- The element for a field. -/
def child? (f : Fields) (name : String) : Option (Option Element) :=
  (single? (f.contents.filterMap (·.named? name))).map Option.join

/-- The text of the element for a field. -/
def text? (f : Fields) (name : String) : Option (Option String) := do
  match ← f.child? name with
  | some e => e.text?.map some
  | none => some none

/-- The text of a field that has to be there. -/
def text (f : Fields) (name : String) : Option String := (f.text? name).bind id

/-- The truth value of the element for a field. -/
def flag? (f : Fields) (name : String) : Option (Option Bool) := do
  match ← f.text? name with
  | some s => (Xml.flag? s).map some
  | none => some none

/-- The name of an element that is written for an attribute. -/
def forAttribute (name : String) : String := "@" ++ name

/-- An attribute as it stands, which no element is written for as well. -/
def rawAttr? (f : Fields) (name : String) : Option (Option Attribute) := do
  match ← single? (f.attributes.filter (·.localName = name)) with
  | some a => if f.contents.any fun c => (c.named? (forAttribute name)).isSome then none else some a
  | none => some none

/-- The value of an attribute. -/
def attr? (f : Fields) (name : String) : Option (Option String) := do
  match ← f.rawAttr? name with
  | some a => (decode? a.raw).map fun value => some (String.ofList value)
  | none => f.text? (forAttribute name)

/-- The value of an attribute that has to be there. -/
def attr (f : Fields) (name : String) : Option String := (f.attr? name).bind id

/-- The truth value of an attribute. -/
def flagAttr? (f : Fields) (name : String) : Option (Option Bool) := do
  match ← f.rawAttr? name with
  | some a => (Xml.flag? (String.ofList a.raw)).map some
  | none => f.flag? (forAttribute name)

/-- What the element for a field is read as. -/
def record? (f : Fields) (name : String) (read : Element → Option α) : Option (Option α) := do
  match ← f.child? name with
  | some e => (read e).map some
  | none => some none

/-- The run of contents that a list field is made of. -/
def run? (f : Fields) (name : String) : Option (List Content) :=
  let fromFirst := f.contents.dropWhile fun c => (c.named? name).isNone
  match fromFirst with
  | .element first :: _ =>
    let run := fromFirst.takeWhile (·.inRun first.name)
    if (fromFirst.drop run.length).any fun c => (c.named? name).isSome then none else some run
  | _ => some []

/-- The elements of a list field, read one by one; there is no text among them. -/
def list? (f : Fields) (name : String) (read : Element → Option α) : Option (List α) := do
  (← f.run? name).mapM fun
    | .element e => read e
    | _ => none

/-- The texts of a list field; text between the elements counts as well. -/
def texts? (f : Fields) (name : String) : Option (List String) := do
  (← f.run? name).mapM fun
    | .element e => e.text?
    | .text s => some s
    | .absent _ => none

/-- The list in the element for a field; without the element it is empty. -/
def nested (f : Fields) (name : String) (read : Fields → Option (List α)) : Option (List α) := do
  let items ← f.record? name fun e => e.fields?.bind read
  some (items.getD [])

end Fields
end Bindery.Xml
