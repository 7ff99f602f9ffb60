import Bindery.Text.Search

/-! Places in a source text.

A place is a span of bytes. A `Locator` finds the place where an element names itself; it looks
only at what comes after the elements it has gone into, so an inner element is found inside the
outer one. -/
namespace Bindery

/-- A stretch of a source, in bytes. -/
structure Span where
  offset : Nat
  length : Nat
deriving DecidableEq, Repr

/-- A source text split at the point from which elements are looked for. -/
structure Locator where
  /-- The source's name. -/
  filename : String
  passed : List Char := []
  rest : List Char
deriving Repr

namespace Locator

/-- The locator at the start of a source. -/
def ofSource (filename source : String) : Locator := { filename, rest := source.toList }

/-- The whole source. -/
def source (l : Locator) : List Char := l.passed ++ l.rest

/-- The byte at which the search begins. -/
def anchor (l : Locator) : Nat := Text.byteLength l.passed

/-- What opens a name attribute in a kind of quotes. -/
def attributeStart (quote : Char) : List Char := "name=".toList ++ [quote]

/-- The rest of the source split at the first name attribute in a kind of quotes, the split before
the name. -/
def cut? (l : Locator) (quote : Char) (name : String) : Option (List Char × List Char) :=
  (Text.cut? (attributeStart quote ++ name.toList ++ [quote]) l.rest).map fun (before, after) =>
    (before ++ attributeStart quote, name.toList ++ quote :: after)

/-- The split at the first name attribute: any in double quotes comes before one in single
quotes. -/
def split? (l : Locator) (name : String) : Option (List Char × List Char) :=
  l.cut? '\x22' name <|> l.cut? '\x27' name

/-- The place of an element's name. -/
def find? (l : Locator) (name : String) : Option Span :=
  (l.split? name).map fun (before, _) =>
    ⟨l.anchor + Text.byteLength before, Text.byteLength name.toList⟩

/-- The locator that goes into an element, or stays where no such element is found. -/
def within (l : Locator) (name : String) : Locator :=
  match l.split? name with
  | some (before, after) => { l with passed := l.passed ++ before, rest := after }
  | none => l

/-- The place of a text in double quotes, anywhere in a source. -/
def quoted? (source name : String) : Option Span :=
  (Text.cut? ('\x22' :: name.toList ++ ['\x22']) source.toList).map fun (before, _) =>
    ⟨Text.byteLength before + 1, Text.byteLength name.toList⟩

end Locator
end Bindery
