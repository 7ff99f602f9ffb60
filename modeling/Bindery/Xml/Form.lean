import Bindery.Xml.Content
import Bindery.Xml.Scope

/-! Which parts of an element are read, and which of them are there.

A form knows the elements that are fields of a record. A field that may be left out counts as
absent where it, or the record, declares that it holds nothing. What is no field and what is absent
is passed over.

Declarations are undone when the end of their element is met. An element is passed over without
meeting its end, so what is declared in it can stay in force. The one part that follows what has
been read is always met: the start of an element brings its declarations with it. -/
namespace Bindery.Xml

/-- A reading goes from the scope in front of something to the scope behind it. -/
abbrev Reading := StateT Scope Option

namespace Reading

/-- Meets the start of an element. -/
def enter (e : Element) : Reading Unit := do set (← (← get).enter? e)

/-- Meets the end of an element. -/
def leave : Reading Unit := modify Scope.leave

end Reading

/-! ### Passing over -/

/-- White space, which is nothing behind a tag. -/
def Node.isBlank : Node → Bool
  | .text raw => raw.all isSpace
  | _ => false

/-- Some kind of text. -/
def Node.isText : Node → Bool
  | .text _ | .literal _ => true
  | _ => false

/-- What is left of an element from its first node that is not blank. -/
def pastBlank (nodes : List Node) : List Node := nodes.dropWhile Node.isBlank

/-- Meets the first of some nodes, or the end of their element, and no more. Tells whether it is
markup, behind which white space is nothing. -/
def meetNext : List Node → Reading Bool
  | [] => do Reading.leave; return true
  | .element name attributes children :: _ => do
    Reading.enter ⟨name, attributes, children⟩
    return true
  | .text _ :: _ | .literal _ :: _ => return false
  | .doctype :: _ | .absent _ :: _ => return true

/-- Passes over what is left of an element. Text at the front has to be sound. -/
def passOver (nodes : List Node) : Reading Unit :=
  match nodes.dropWhile fun n => n.isBlank || n matches .doctype with
  | [] => Reading.leave
  | .element name attributes children :: rest => do
    Reading.enter ⟨name, attributes, children⟩
    let isMarkup ← meetNext (pastBlank children)
    discard (meetNext (if isMarkup then pastBlank rest else rest))
  | nodes => do
    discard (contentsFrom none (nodes.takeWhile Node.isText))
    discard (meetNext (nodes.dropWhile Node.isText))

/-! ### Forms -/

/-- What is read of an element from inside its start to behind its end. -/
abbrev Form := Element → Reading Element

namespace Form

/-- A field that is an element. -/
structure Field where
  form : Form
  /-- It may be left out, and so may be absent. -/
  isOptional : Bool

/-- A field that has to be there, or an item of a list. -/
def Field.required (form : Form) : Field := ⟨form, false⟩

/-- A field that may be left out. -/
def Field.optional (form : Form) : Field := ⟨form, true⟩

/-- The scope when the node that follows a start has been met. -/
def ahead? (scope : Scope) (children : List Node) : Option Scope :=
  match pastBlank children with
  | .element name attributes children :: _ => scope.enter? ⟨name, attributes, children⟩
  | _ => some scope

/-- An optional field of a record counts as absent; the start of the field has been met. -/
def isAbsent (record field : Element) : Reading Bool := do
  let scope ← ahead? (← get) field.children
  return scope.isNil record || scope.isNil field

/-- Reads a node inside a record. -/
def node (field? : String → Option Field) (record : Element) : Node → Reading Node
  | .element name attributes children => do
    let e : Element := ⟨name, attributes, children⟩
    Reading.enter e
    match field? e.localName with
    | none =>
      passOver children
      return e.node
    | some field =>
      if ← (if field.isOptional then isAbsent record e else pure false) then
        passOver children
        return .absent name
      else return (← field.form e).node
  | n => return n

/-- An element that contains only text. -/
def textOnly : Form := fun e => do
  Reading.leave
  return e

/-- An element that is a record, by the names of its fields. -/
def record (field? : String → Option Field) : Form := fun e => do
  let children ← e.children.mapM (node field? e)
  Reading.leave
  return { e with children }

/-- An element that is a record with these fields. -/
def fields (fs : List (String × Field)) : Form := record (fs.lookup ·)

/-- An element that contains elements of one form, whatever their names. -/
def members (form : Form) : Form := record fun _ => some (.required form)

/-- A root element with the parts that are there. -/
def read? (form : Form) (root : Element) : Option Element :=
  (do Reading.enter root; form root : Reading Element).run' []

end Form
end Bindery.Xml
