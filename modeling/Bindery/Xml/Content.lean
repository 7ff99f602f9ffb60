import Bindery.Xml.Entity
import Bindery.Xml.Tree

/-! The contents of an element.

Pieces of text that no tag parts make one text. White space after a tag and before a tag does not
belong to it, but what is marked as literal does. -/
namespace Bindery.Xml

/-- An element or a text inside an element. -/
inductive Content where
  | element (e : Element)
  | text (s : String)
  /-- An element that counts as not being there. -/
  | absent (name : List Char)

/-- Text continues with the next node. -/
def continues : List Node → Bool
  | .text _ :: _ | .literal _ :: _ => true
  | _ => false

/-- The text read so far, as a content. -/
def finished : Option (List Char) → List Content
  | some cs => [.text (String.ofList cs)]
  | none => []

/-- The contents that some nodes make; `text` is what has been read of a text. -/
def contentsFrom (text : Option (List Char)) : List Node → Option (List Content)
  | [] => some (finished text)
  | .element name attributes children :: rest => do
    let later ← contentsFrom none rest
    some (finished text ++ .element ⟨name, attributes, children⟩ :: later)
  | .absent name :: rest =>
    (contentsFrom none rest).map fun later => finished text ++ .absent name :: later
  | .doctype :: rest => (contentsFrom none rest).map (finished text ++ ·)
  | .literal cs :: rest => contentsFrom (some (text.getD [] ++ cs)) rest
  | .text raw :: rest => do
    let raw := if text.isNone then raw.dropWhile isSpace else raw
    if text.isNone ∧ raw = [] then contentsFrom none rest
    else
      let raw := if continues rest then raw else Text.dropEnd isSpace raw
      contentsFrom (some (text.getD [] ++ (← decode? raw))) rest

/-- The contents of an element. -/
def Element.contents? (e : Element) : Option (List Content) := contentsFrom none e.children

end Bindery.Xml
