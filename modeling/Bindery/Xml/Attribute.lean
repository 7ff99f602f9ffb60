import Bindery.Xml.Tree

/-! The attributes of an element.

`tagParts` tells what stands in a tag behind its name, and goes on behind what is no attribute. A
tag is sound when it holds attributes alone and no name comes twice. Names are compared without
what stands before their first colon. -/
namespace Bindery.Xml

/-- A name without its prefix. -/
def unprefixed (name : List Char) : List Char :=
  match Text.cut? [':'] name with
  | some (_, after) => after
  | none => name

/-- The name of an element without its prefix. -/
def Element.localName (e : Element) : String := String.ofList (unprefixed e.name)

/-- An attribute; the value has its entities as they stand. -/
structure Attribute where
  name : List Char
  raw : List Char
deriving DecidableEq, Repr

/-- The prefix that an attribute declares. -/
def Attribute.declared? (a : Attribute) : Option (List Char) :=
  if "xmlns:".toList.isPrefixOf a.name then some (a.name.drop 6) else none

/-- The name of an attribute without its prefix. Declarations of prefixes keep their whole name. -/
def Attribute.localName (a : Attribute) : String :=
  String.ofList (if a.declared?.isSome then a.name else unprefixed a.name)

/-! ### Parts of a tag -/

/-- What stands in a tag behind its name. -/
inductive TagPart where
  | attribute (a : Attribute)
  /-- A name and an equals sign without a value in quotes. -/
  | valueless (name : List Char)
  /-- A name without an equals sign. -/
  | stray
deriving DecidableEq, Repr

def TagPart.attribute? : TagPart → Option Attribute
  | .attribute a => some a
  | _ => none

/-- The part of a tag that begins with a character, and what is left. -/
def tagPart (c : Char) (rest : List Char) : TagPart × List Char :=
  let inName := fun d => d ≠ '=' && !isSpace d
  let name := c :: rest.takeWhile inName
  match (rest.dropWhile inName).dropWhile isSpace with
  | '=' :: value =>
    match value.dropWhile isSpace with
    | [] => (.valueless name, [])
    | quote :: value =>
      if quote = '\x22' ∨ quote = '\x27' then
        match Text.cut? [quote] value with
        | some (raw, rest) => (.attribute ⟨name, raw⟩, rest)
        | none => (.valueless name, [])
      else (.valueless name, value.dropWhile (!isSpace ·))
  | rest => (.stray, rest)

theorem length_tagPart (c : Char) (rest : List Char) :
    (tagPart c rest).2.length ≤ rest.length := by
  have h1 := (List.dropWhile_suffix (l := rest) fun d => d ≠ '=' && !isSpace d).length_le
  have h2 := (List.dropWhile_suffix
    (l := rest.dropWhile fun d => d ≠ '=' && !isSpace d) isSpace).length_le
  unfold tagPart
  simp only
  split
  · next value hv =>
    rw [hv] at h2
    have h3 := (List.dropWhile_suffix (l := value) isSpace).length_le
    simp only [List.length_cons] at h2
    split
    · simp
    · next quote value' hq =>
      rw [hq] at h3
      simp only [List.length_cons] at h3
      split
      · split
        · next raw r hr =>
          have h4 := Text.length_cut? hr
          simp only
          omega
        · simp
      · have h4 := (List.dropWhile_suffix (l := value') (!isSpace ·)).length_le
        simp only
        omega
  · simp only
    omega

/-- The parts of a tag. -/
def tagParts (cs : List Char) : List TagPart :=
  match _h : cs.dropWhile isSpace with
  | [] => []
  | c :: rest => (tagPart c rest).1 :: tagParts (tagPart c rest).2
termination_by cs.length
decreasing_by
  have h1 := length_tagPart c rest
  have h2 := (List.dropWhile_suffix (l := cs) isSpace).length_le
  rw [_h, List.length_cons] at h2
  omega

/-- The attributes among some parts whose names do not come before them. -/
def firstAttributes (earlier : List (List Char)) : List TagPart → List Attribute
  | [] => []
  | .stray :: rest => firstAttributes earlier rest
  | .valueless name :: rest => firstAttributes (name :: earlier) rest
  | .attribute a :: rest =>
    if a.name ∈ earlier then firstAttributes earlier rest
    else a :: firstAttributes (a.name :: earlier) rest

/-- The attributes of an element with a sound tag. -/
def Element.attributes? (e : Element) : Option (List Attribute) := do
  let attributes ← (tagParts e.attributes).mapM TagPart.attribute?
  if (attributes.map Attribute.name).Nodup then some attributes else none

end Bindery.Xml
