import Bindery.Text.Identifier
import Bindery.Text.Search

/-! Text templates.

A template is a text with placeholders, each an identifier in braces after a dollar sign. Rendering
puts values into the placeholders and changes nothing else; what repeats or is left out is decided
by whoever makes the values. -/
namespace Bindery

/-- A piece of a template. -/
inductive Segment where
  | text (s : String)
  | placeholder (name : String)
deriving DecidableEq, Repr

/-- Values for placeholders. -/
abbrev Bindings := List (String × String)

/-- The value last given to a name. -/
def Bindings.value? (bindings : Bindings) (name : String) : Option String :=
  bindings.foldl (fun found b => if b.1 = name then some b.2 else found) none

/-- A named text with placeholders. -/
structure Template where
  name : String
  segments : List Segment
deriving DecidableEq, Repr

namespace Template

/-- What can go wrong with templates. -/
inductive Fault where
  /-- A placeholder that opens at a byte of the source is not closed. -/
  | unterminated (template : String) (offset : Nat)
  /-- A placeholder is no identifier. -/
  | invalidPlaceholder (template placeholder : String)
  /-- A placeholder has no value. -/
  | unknownPlaceholder (template placeholder : String)
  | unknownTemplate (name : String)
  /-- The source is in a file that is not readable as text. -/
  | unreadable (path : String)
deriving DecidableEq, Repr

def Fault.message : Fault → String
  | unterminated t offset =>
    "template '" ++ t ++ "' has an unterminated placeholder at byte " ++ toString offset
  | invalidPlaceholder t p => "template '" ++ t ++ "' has an invalid placeholder '" ++ p ++ "'"
  | unknownPlaceholder t p => "template '" ++ t ++ "' references unknown placeholder '" ++ p ++ "'"
  | unknownTemplate n => "template '" ++ n ++ "' is not defined"
  | unreadable path => "failed to read template '" ++ path ++ "'"

/-! ### Reading -/

/-- The mark before a placeholder's name. -/
def opening : List Char := ['$', '\x7b']

/-- The mark after a placeholder's name. -/
def closing : List Char := ['\x7d']

/-- A piece of plain text, unless it is empty. -/
def plain (cs : List Char) : List Segment :=
  if cs.isEmpty then [] else [.text (String.ofList cs)]

/-- The pieces of a source that begins at a byte of the template. -/
def segmentsFrom (template : String) (offset : Nat) (source : List Char) :
    Except Fault (List Segment) :=
  match _h : Text.cut? opening source with
  | none => .ok (plain source)
  | some (before, inside) =>
    let start := offset + Text.byteLength before
    match _h' : Text.cut? closing inside with
    | none => .error (.unterminated template start)
    | some (name, after) =>
      if Text.isIdentifierChars name then do
        let rest ← segmentsFrom template (start + 2 + Text.byteLength name + 1) after
        .ok (plain before ++ .placeholder (String.ofList name) :: rest)
      else .error (.invalidPlaceholder template (String.ofList name))
termination_by source.length
decreasing_by
  have := Text.length_cut? _h
  have := Text.length_cut? _h'
  simp only [opening, closing, List.length_cons, List.length_nil] at *
  omega

/-- Reads a template. -/
def parse (name source : String) : Except Fault Template :=
  (segmentsFrom name 0 source.toList).map (⟨name, ·⟩)

/-! ### Rendering -/

/-- The placeholders in order, with repeats. -/
def placeholders (t : Template) : List String :=
  t.segments.filterMap fun
    | .placeholder name => some name
    | .text _ => none

/-- The text of a piece. -/
def renderSegment (template : String) (bindings : Bindings) : Segment → Except Fault String
  | .text s => .ok s
  | .placeholder name =>
    match bindings.value? name with
    | some value => .ok value
    | none => .error (.unknownPlaceholder template name)

/-- The template with values for its placeholders. -/
def render (t : Template) (bindings : Bindings) : Except Fault String :=
  (t.segments.mapM (renderSegment t.name bindings)).map String.join

end Template
end Bindery
