import Bindery.Xml.Token

/-! XML texts as trees.

A tree keeps attributes and text as they stand; entities are decoded by whoever reads a part of the
tree. The end tag of an element repeats the name of its start tag. Reading stops at the end of the
root element, so what follows it does not matter. -/
namespace Bindery.Xml

/-- What an element contains. -/
inductive Node where
  | element (name attributes : List Char) (children : List Node)
  | text (raw : List Char)
  | literal (text : List Char)
  | doctype
  /-- An element that counts as not being there. -/
  | absent (name : List Char)
deriving Repr

/-- An element. -/
structure Element where
  name : List Char
  attributes : List Char
  children : List Node
deriving Repr

def Element.node (e : Element) : Node := .element e.name e.attributes e.children

/-- An element whose end has not been read. -/
structure Open where
  name : List Char
  attributes : List Char
  /-- What it contains so far, the latest first. -/
  reversed : List Node := []

def Open.add (o : Open) (n : Node) : Open := { o with reversed := n :: o.reversed }

def Open.close (o : Open) : Element := ⟨o.name, o.attributes, o.reversed.reverse⟩

/-- How far a reading has come. -/
inductive Progress where
  /-- Inside these elements, the innermost first. -/
  | inside (opened : List Open)
  /-- The root element is complete. -/
  | complete (root : Element)

/-- An element is complete inside others. -/
def Progress.closed (e : Element) : List Open → Progress
  | [] => .complete e
  | outer :: rest => .inside (outer.add e.node :: rest)

/-- Text stands inside these elements; outside of all there is only white space. -/
def Progress.contained (isSpace : Bool) (n : Node) : List Open → Option Progress
  | [] => if isSpace then some (.inside []) else none
  | inner :: rest => some (.inside (inner.add n :: rest))

/-- The effect of a token. -/
def Progress.step (opened : List Open) : Token → Option Progress
  | .start name attributes isEmpty =>
    if isEmpty then some (.closed ⟨name, attributes, []⟩ opened)
    else some (.inside (⟨name, attributes, []⟩ :: opened))
  | .finish name =>
    match opened with
    | [] => none
    | inner :: rest => if name = inner.name then some (.closed inner.close rest) else none
  | .text raw => Progress.contained (raw.all Xml.isSpace) (.text raw) opened
  | .literal text => Progress.contained false (.literal text) opened
  | .doctype => Progress.contained true .doctype opened

/-- Reads on, inside some elements, to the end of the root element. -/
def readInside (opened : List Open) (cs : List Char) : Option Element :=
  match _h : token? cs with
  | none => none
  | some (none, rest) => readInside opened rest
  | some (some token, rest) =>
    match Progress.step opened token with
    | none => none
    | some (.complete root) => some root
    | some (.inside opened) => readInside opened rest
termination_by cs.length
decreasing_by all_goals exact length_token? _h

/-- A text without the mark that may stand at the start of a file. -/
def withoutMark : List Char → List Char
  | [] => []
  | c :: rest => if c = '\ufeff' then rest else c :: rest

/-- The root element of a text. -/
def root? (source : String) : Option Element := readInside [] (withoutMark source.toList)

end Bindery.Xml
