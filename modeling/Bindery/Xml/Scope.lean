import Bindery.Xml.Attribute

/-! Prefixes and what they stand for.

An element declares prefixes for itself and what it contains. A scope holds the declarations that
are in force; `isNil` tells by them whether an element says that it holds nothing. -/
namespace Bindery.Xml

/-- A prefix and the address that it stands for. -/
structure Binding where
  qualifier : List Char
  address : List Char
deriving DecidableEq, Repr

/-- An address by its parts. What a prefix stands for is a name in this form: it is compared letter by
letter, and nothing is looked up there. -/
structure Address where
  scheme : String
  host : String
  path : String

/-- The letters of an address. -/
def Address.text (a : Address) : List Char :=
  (a.scheme ++ "://" ++ a.host ++ "/" ++ a.path).toList

/-- The rules of XML fix three addresses, which have one host. -/
def Address.fixed (path : String) : Address := ⟨"http", "www.w3.org", path⟩

namespace Binding

/-- What the prefix `xml` stands for. -/
def xmlAddress : List Char := (Address.fixed "XML/1998/namespace").text

/-- What the prefix `xmlns` stands for. -/
def declarationAddress : List Char := (Address.fixed "2000/xmlns/").text

/-- The address of the attribute that declares an element to hold nothing. -/
def instanceAddress : List Char := (Address.fixed "2001/XMLSchema-instance").text

/-- The prefix `xml` and its address belong together. Nothing else is said of `xmlns` and its
address. -/
def isAllowed (b : Binding) : Bool :=
  if b.qualifier = "xml".toList then b.address = xmlAddress
  else b.qualifier ≠ "xmlns".toList && b.address ≠ xmlAddress && b.address ≠ declarationAddress

end Binding

/-- What an element declares. Nothing counts behind what is no attribute. -/
def Element.bindings (e : Element) : List Binding :=
  (((tagParts e.attributes).map TagPart.attribute?).takeWhile Option.isSome).filterMap fun a? => do
    let a ← a?
    some ⟨← a.declared?, a.raw⟩

/-- The declarations in force by element, the innermost first. -/
abbrev Scope := List (List Binding)

namespace Scope
variable (scope : Scope)

/-- The scope inside an element. -/
def enter? (e : Element) : Option Scope :=
  if e.bindings.all Binding.isAllowed then some (e.bindings.reverse :: scope) else none

/-- The scope behind the innermost element. -/
def leave : Scope := scope.tail

/-- What a prefix stands for. -/
def address? (qualifier : List Char) : Option (List Char) :=
  if qualifier.isEmpty then none
  else (scope.flatten.find? fun b => b.qualifier = qualifier).map Binding.address

/-- The attribute declares that its element holds nothing. -/
def declaresNil (a : Attribute) : Bool :=
  match Text.cut? [':'] a.name with
  | some (qualifier, name) =>
    name = "nil".toList && scope.address? qualifier = some Binding.instanceAddress
      && (a.raw = "true".toList || a.raw = ['1'])
  | none => false

/-- The element declares that it holds nothing. -/
def isNil (e : Element) : Bool :=
  (firstAttributes [] (tagParts e.attributes)).any (scope.declaresNil ·)

end Scope

end Bindery.Xml
