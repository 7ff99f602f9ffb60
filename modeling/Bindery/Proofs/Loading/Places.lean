import Bindery.Locator
import Bindery.Proofs.Template.Reading

/-! Where a source names something.

A place is given in bytes, and so is what stands there: `Text.StandsAt` compares bytes of a source
with those of a text. A text that stands at a byte stands between characters as well
(`Text.standsAt_iff`). A locator holds a split source; the same search over a whole source, with
offsets into it, is `Locator.findFrom?`, and the two always agree (`Locator.find?_eq`,
`Locator.anchor_foldl`). A search goes on from an anchor, which is never inside a character, never
past the end and never goes back. It finds a name exactly where the source has it in an attribute
from there on, and of all such places the first in double quotes, or else the first in single quotes
(`Locator.searches`). -/
namespace Bindery

/-! ### Texts at bytes of a source -/

namespace Text

/-- The bytes of a source from one on are those of a text. -/
def StandsAt (source text : String) (start : Nat) : Prop :=
  source.toByteArray.extract start (start + text.utf8ByteSize) = text.toByteArray

instance (source text : String) (start : Nat) : Decidable (StandsAt source text start) :=
  inferInstanceAs (Decidable (_ = _))

/-- A text has the bytes that it is put at. -/
theorem standsAt_append (before text after : String) :
    StandsAt (before ++ text ++ after) text before.utf8ByteSize := by
  rw [StandsAt, String.toByteArray_append, String.toByteArray_append, ByteArray.append_assoc]
  have hleft : (before.toByteArray ++ (text.toByteArray ++ after.toByteArray)).extract
      (before.utf8ByteSize + 0) (before.utf8ByteSize + text.utf8ByteSize) =
        (text.toByteArray ++ after.toByteArray).extract 0 text.utf8ByteSize :=
    ByteArray.extract_append_size_add' rfl
  exact hleft.trans (ByteArray.extract_append_eq_left rfl)

/-- A text whose bytes a source has, if it has any, is part of the source. -/
theorem standsAt_iff {source text : String} {start : Nat} (hne : text ≠ "") :
    StandsAt source text start ↔
      ∃ before after, source = before ++ text ++ after ∧ before.utf8ByteSize = start := by
  constructor
  · intro h
    have hsize := congrArg ByteArray.size h
    have hpos : text.utf8ByteSize ≠ 0 := mt String.utf8ByteSize_eq_zero_iff.1 hne
    rw [ByteArray.size_extract, String.size_toByteArray, String.size_toByteArray] at hsize
    have hend : start + text.utf8ByteSize ≤ source.utf8ByteSize := by omega
    have hvalid := (String.Pos.Raw.isValidUTF8_extract_iff (s := source) ⟨start⟩
      ⟨start + text.utf8ByteSize⟩ (Nat.le_add_right _ _) hend).1 (h ▸ text.isValidUTF8)
    obtain hempty | ⟨hfirst, hlast⟩ := hvalid
    · have := congrArg String.Pos.Raw.byteIdx hempty
      simp only at this
      omega
    · refine ⟨⟨_, hfirst.isValidUTF8_extract_zero⟩, ⟨_, hlast.isValidUTF8_extract_utf8ByteSize⟩,
        String.toByteArray_inj.1 ?_, ?_⟩
      · rw [String.toByteArray_append, String.toByteArray_append, ← h]
        dsimp only
        rw [← ByteArray.extract_eq_extract_append_extract _ (Nat.zero_le _) (Nat.le_add_right _ _),
          ← ByteArray.extract_eq_extract_append_extract _ (Nat.zero_le _) hend]
        exact ByteArray.extract_zero_size.symm
      · rw [← String.size_toByteArray, ByteArray.size_extract]
        show min start source.utf8ByteSize - 0 = start
        omega
  · rintro ⟨before, after, rfl, rfl⟩
    exact standsAt_append before text after

/-- A text stands where its parts stand one after the other. -/
theorem standsAt_append_iff {source a b : String} {start : Nat} :
    StandsAt source (a ++ b) start ↔
      StandsAt source a start ∧ StandsAt source b (start + a.utf8ByteSize) := by
  have hsplit : source.toByteArray.extract start (start + (a ++ b).utf8ByteSize) =
      source.toByteArray.extract start (start + a.utf8ByteSize) ++
        source.toByteArray.extract (start + a.utf8ByteSize)
          (start + a.utf8ByteSize + b.utf8ByteSize) := by
    rw [String.utf8ByteSize_append, ← Nat.add_assoc]
    exact ByteArray.extract_eq_extract_append_extract _ (Nat.le_add_right _ _)
      (Nat.le_add_right _ _)
  rw [StandsAt, StandsAt, StandsAt, hsplit, String.toByteArray_append]
  constructor
  · intro h
    have hsize := congrArg ByteArray.size h
    simp only [ByteArray.size_append, ByteArray.size_extract, String.size_toByteArray] at hsize
    refine (ByteArray.append_eq_append_iff_of_size_eq_left ?_).1 h
    rw [ByteArray.size_extract, String.size_toByteArray, String.size_toByteArray]
    omega
  · rintro ⟨ha, hb⟩
    rw [ha, hb]

theorem byteLength_toList (s : String) : byteLength s.toList = s.utf8ByteSize := by
  rw [byteLength_eq, String.ofList_toList]

theorem byteLength_pos {c : Char} {rest : List Char} : 0 < byteLength (c :: rest) :=
  Nat.lt_of_lt_of_le c.utf8Size_pos (Nat.le_add_right _ _)

/-- The beginnings of a text are compared by their characters or by their bytes. -/
theorem byteLength_le_iff {a b c d : List Char} (h : a ++ b = c ++ d) :
    byteLength a ≤ byteLength c ↔ a.length ≤ c.length := by
  obtain ⟨more, rfl, -⟩ | ⟨more, rfl, -⟩ := List.append_eq_append_iff.1 h
  · simp [byteLength_append]
  · cases more with
    | nil => simp
    | cons m more =>
      have hpos : 0 < byteLength (m :: more) := byteLength_pos
      simp only [byteLength_append, List.length_append, List.length_cons]
      omega

/-- The longer beginning of a text goes on from the shorter one. -/
theorem exists_of_byteLength_le {a b c d : List Char} (h : a ++ b = c ++ d)
    (hle : byteLength a ≤ byteLength c) : ∃ more, c = a ++ more ∧ b = more ++ d := by
  have hlength := (byteLength_le_iff h).1 hle
  obtain hshorter | ⟨more, rfl, rfl⟩ := List.append_eq_append_iff.1 h
  · exact hshorter
  · rw [List.length_append] at hlength
    obtain rfl : more = [] := List.eq_nil_of_length_eq_zero (by omega)
    exact ⟨[], by simp, rfl⟩

end Text

/-! ### Attributes -/

namespace Locator

open Text (StandsAt byteLength)

/-- The quotes that a name can stand in. -/
def quotes : List Char := ['\x22', '\x27']

/-- An attribute that gives a name, in a kind of quotes. -/
def nameAttribute (quote : Char) (name : String) : String :=
  "name=" ++ String.singleton quote ++ name ++ String.singleton quote

/-- A source gives a name in an attribute that begins at a byte. -/
def NamesAt (source : String) (quote : Char) (name : String) (start : Nat) : Prop :=
  StandsAt source (nameAttribute quote name) start

instance (source : String) (quote : Char) (name : String) (start : Nat) :
    Decidable (NamesAt source quote name start) :=
  inferInstanceAs (Decidable (StandsAt ..))

/-- The name in an attribute that begins at a byte: it comes after `name=` and a quote. -/
def nameSpan (name : String) (start : Nat) : Span := ⟨start + 6, name.utf8ByteSize⟩

/-- The place of a name in a source, with the search beginning at a byte. There is none where the
byte is inside a character. -/
def findFrom? (source : String) (start : Nat) (name : String) : Option Span := do
  let (_, haystack) ← Text.splitAtByte? source.toList start
  quotes.findSome? fun quote =>
    (Text.cut? (nameAttribute quote name).toList haystack).map fun (before, _) =>
      nameSpan name (start + byteLength before)

/-- The byte at which the search inside an element begins. -/
def anchorWithin (source : String) (anchor : Nat) (name : String) : Nat :=
  ((findFrom? source anchor name).map Span.offset).getD anchor

/-- The first attribute at or after a byte that gives a name. -/
structure FirstFrom (source : String) (anchor : Nat) (quote : Char) (name : String) (start : Nat) :
    Prop where
  names : NamesAt source quote name start
  reached : anchor ≤ start
  least : ∀ other, NamesAt source quote name other → anchor ≤ other → start ≤ other

/-- What a search for a name from a byte on comes to: the first in double quotes, and where there is
none, the first in single quotes. -/
inductive Found (source : String) (anchor : Nat) (name : String) : Span → Prop where
  | double {start : Nat} (first : FirstFrom source anchor '\x22' name start) :
    Found source anchor name (nameSpan name start)
  | single {start : Nat} (none : ∀ other, NamesAt source '\x22' name other → other < anchor)
    (first : FirstFrom source anchor '\x27' name start) :
    Found source anchor name (nameSpan name start)

/-- A span has the bytes of a name, which stands after `name=` between quotes. -/
structure Covers (source name : String) (span : Span) : Prop where
  length : span.length = name.utf8ByteSize
  name : StandsAt source name span.offset
  quoted : ∃ quote ∈ quotes, ∃ start, span.offset = start + 6 ∧
    StandsAt source ("name=" ++ String.singleton quote) start ∧
    StandsAt source (String.singleton quote) (span.offset + span.length)

theorem utf8ByteSize_opening {quote : Char} (h : quote ∈ quotes) :
    ("name=" ++ String.singleton quote).utf8ByteSize = 6 := by
  obtain rfl | rfl := List.mem_pair.1 h <;> decide

/-- A name in an attribute is covered by its span. -/
theorem covers_of_namesAt {source name : String} {quote : Char} {start : Nat}
    (hquote : quote ∈ quotes) (h : NamesAt source quote name start) :
    Covers source name (nameSpan name start) := by
  have hlead := utf8ByteSize_opening hquote
  obtain ⟨hopened, hclosing⟩ := Text.standsAt_append_iff.1 h
  obtain ⟨hopening, hname⟩ := Text.standsAt_append_iff.1 hopened
  rw [String.utf8ByteSize_append, hlead, ← Nat.add_assoc] at hclosing
  rw [hlead] at hname
  exact ⟨rfl, hname, quote, hquote, start, rfl, hopening, hclosing⟩

theorem Found.covers {source name : String} {anchor : Nat} {span : Span}
    (h : Found source anchor name span) : Covers source name span := by
  obtain first | ⟨-, first⟩ := h
  · exact covers_of_namesAt (by decide) first.names
  · exact covers_of_namesAt (by decide) first.names

theorem toList_nameAttribute (quote : Char) (name : String) :
    (nameAttribute quote name).toList = attributeStart quote ++ name.toList ++ [quote] := by
  simp [nameAttribute, attributeStart]

theorem byteLength_attributeStart {quote : Char} (h : quote ∈ quotes) :
    byteLength (attributeStart quote) = 6 := by
  obtain rfl | rfl := List.mem_pair.1 h <;> decide

/-! ### Searches -/

section Searches
variable {l : Locator} {quote : Char} {name : String} {start : Nat}

/-- The text of the source. -/
def text (l : Locator) : String := String.ofList l.source

/-- An attribute at or after the anchor is in the part that is searched. -/
theorem namesAt_iff : NamesAt l.text quote name start ∧ l.anchor ≤ start ↔ ∃ before after,
    l.rest = before ++ (attributeStart quote ++ name.toList ++ [quote]) ++ after ∧
      l.anchor + byteLength before = start := by
  have hne : nameAttribute quote name ≠ "" := by
    simp [nameAttribute]
  rw [NamesAt, Text.standsAt_iff hne]
  constructor
  · rintro ⟨⟨before, after, hsource, rfl⟩, hreached⟩
    have hchars := congrArg String.toList hsource
    rw [text, source, String.toList_ofList, String.toList_append, String.toList_append,
      toList_nameAttribute, List.append_assoc] at hchars
    rw [← Text.byteLength_toList] at hreached ⊢
    obtain ⟨more, hbefore, hrest⟩ := Text.exists_of_byteLength_le hchars hreached
    refine ⟨more, after.toList, hrest.trans (List.append_assoc ..).symm, ?_⟩
    rw [hbefore, Text.byteLength_append, anchor]
  · rintro ⟨before, after, hrest, rfl⟩
    refine ⟨⟨String.ofList (l.passed ++ before), String.ofList after, ?_, ?_⟩, Nat.le_add_right _ _⟩
    · apply String.toList_inj.1
      simp [text, source, hrest, toList_nameAttribute]
    · rw [← Text.byteLength_eq, Text.byteLength_append, anchor]

/-- The first attribute at or after the anchor is the first in the part that is searched. -/
theorem firstFrom_iff : FirstFrom l.text l.anchor quote name start ↔ ∃ before after,
    Text.Leftmost (attributeStart quote ++ name.toList ++ [quote]) l.rest before after ∧
      l.anchor + byteLength before = start := by
  constructor
  · intro h
    obtain ⟨before, after, hrest, hstart⟩ := namesAt_iff.1 ⟨h.names, h.reached⟩
    refine ⟨before, after, ⟨hrest, fun b a hb => ?_⟩, hstart⟩
    obtain ⟨hother, hreached⟩ := namesAt_iff.2 ⟨b, a, hb, rfl⟩
    have hle := h.least _ hother hreached
    rw [← hstart, Nat.add_le_add_iff_left] at hle
    rw [hrest, List.append_assoc, List.append_assoc b] at hb
    exact (Text.byteLength_le_iff hb).1 hle
  · rintro ⟨before, after, hleft, hstart⟩
    obtain ⟨hnames, hreached⟩ := namesAt_iff.2 ⟨before, after, hleft.split, hstart⟩
    refine ⟨hnames, hreached, fun other hother hlater => ?_⟩
    obtain ⟨b, a, hb, rfl⟩ := namesAt_iff.1 ⟨hother, hlater⟩
    have hle := hleft.least b a hb
    rw [hleft.split, List.append_assoc, List.append_assoc b] at hb
    rw [← hstart, Nat.add_le_add_iff_left]
    exact (Text.byteLength_le_iff hb).2 hle

/-- The search of the split source is the search by offsets. -/
theorem find?_eq (l : Locator) (name : String) :
    l.find? name = findFrom? l.text l.anchor name := by
  have hsplit : Text.splitAtByte? l.text.toList l.anchor = some (l.passed, l.rest) := by
    rw [text, String.toList_ofList]
    exact Text.splitAtByte?_byteLength _ _
  have hcut {quote : Char} (hquote : quote ∈ quotes) :
      (l.cut? quote name).map (fun c => ⟨l.anchor + byteLength c.1, byteLength name.toList⟩) =
        (Text.cut? (nameAttribute quote name).toList l.rest).map fun c =>
          nameSpan name (l.anchor + byteLength c.1) := by
    rw [cut?, Option.map_map, ← toList_nameAttribute]
    refine Option.map_congr fun c _ => ?_
    simp only [Function.comp_apply, nameSpan, Text.byteLength_append, Text.byteLength_toList,
      byteLength_attributeStart hquote, Nat.add_assoc]
  rw [find?, split?, findFrom?, hsplit]
  simp only [Option.bind_eq_bind, Option.bind_some]
  rw [quotes, List.findSome?_cons, List.findSome?_cons, List.findSome?_nil,
    ← hcut (by decide), ← hcut (by decide)]
  cases l.cut? '\x22' name with
  | some c => rfl
  | none => cases l.cut? '\x27' name <;> rfl

/-- The span of a name from the pieces of a source around its beginning. -/
theorem map_cut?_eq_some_iff (hquote : quote ∈ quotes) {span : Span} :
    (l.cut? quote name).map (fun c => ⟨l.anchor + byteLength c.1, byteLength name.toList⟩) =
        some span ↔
      ∃ start, FirstFrom l.text l.anchor quote name start ∧ nameSpan name start = span := by
  simp only [cut?, Option.map_map, Option.map_eq_some_iff, Prod.exists, Text.cut?_eq_some_iff,
    firstFrom_iff, Function.comp_apply, Text.byteLength_append, byteLength_attributeStart hquote,
    Text.byteLength_toList, nameSpan]
  constructor
  · rintro ⟨before, after, hleft, rfl⟩
    exact ⟨_, ⟨before, after, hleft, rfl⟩, by rw [Nat.add_assoc]⟩
  · rintro ⟨_, ⟨before, after, hleft, rfl⟩, rfl⟩
    exact ⟨before, after, hleft, by rw [Nat.add_assoc]⟩

theorem cut?_eq_none_iff : l.cut? quote name = none ↔
    ∀ start, NamesAt l.text quote name start → start < l.anchor := by
  rw [cut?, Option.map_eq_none_iff, Text.cut?_eq_none_iff]
  constructor
  · intro hnone start hnames
    by_contra hreached
    obtain ⟨before, after, hrest, -⟩ := namesAt_iff.1 ⟨hnames, Nat.le_of_not_lt hreached⟩
    exact hnone ⟨before, after, hrest.symm⟩
  · rintro hnone ⟨before, after, hrest⟩
    obtain ⟨hnames, hreached⟩ := namesAt_iff.2 ⟨before, after, hrest.symm, rfl⟩
    exact absurd (hnone _ hnames) (Nat.not_lt.2 hreached)

/-- A search comes to the first place in double quotes, or else to the first in single quotes. -/
theorem find?_eq_some_iff {span : Span} :
    l.find? name = some span ↔ Found l.text l.anchor name span := by
  rw [find?, split?]
  cases hdouble : l.cut? '\x22' name with
  | some c =>
    show (some c).map _ = some span ↔ _
    rw [← hdouble]
    refine (map_cut?_eq_some_iff (by decide)).trans ⟨?_, ?_⟩
    · rintro ⟨start, hfirst, rfl⟩
      exact .double hfirst
    · rintro (hfirst | ⟨hnone, -⟩)
      · exact ⟨_, hfirst, rfl⟩
      · rw [cut?_eq_none_iff.2 hnone] at hdouble
        cases hdouble
  | none =>
    have hnone := cut?_eq_none_iff.1 hdouble
    refine (map_cut?_eq_some_iff (by decide)).trans ⟨?_, ?_⟩
    · rintro ⟨start, hfirst, rfl⟩
      exact .single hnone hfirst
    · rintro (hfirst | ⟨-, hfirst⟩)
      · exact absurd (hnone _ hfirst.names) (Nat.not_lt.2 hfirst.reached)
      · exact ⟨_, hfirst, rfl⟩

/-- A name is found exactly where the source has it at or after the anchor. -/
theorem exists_find?_iff : (∃ span, l.find? name = some span) ↔
    ∃ quote ∈ quotes, ∃ start, NamesAt l.text quote name start ∧ l.anchor ≤ start := by
  constructor
  · rintro ⟨span, hspan⟩
    obtain first | ⟨-, first⟩ := find?_eq_some_iff.1 hspan
    · exact ⟨_, by decide, _, first.names, first.reached⟩
    · exact ⟨_, by decide, _, first.names, first.reached⟩
  · rintro ⟨quote, hquote, start, hnames, hreached⟩
    have hcut : l.cut? quote name ≠ none := fun hnone =>
      absurd (cut?_eq_none_iff.1 hnone _ hnames) (Nat.not_lt.2 hreached)
    rw [quotes, List.mem_pair] at hquote
    rw [← Option.isSome_iff_exists, find?, split?, Option.isSome_map]
    obtain rfl | rfl := hquote <;> simp [Option.isSome_iff_ne_none, hcut]

/-- A search splits what is left of the source. -/
theorem append_of_split? {before after : List Char} (h : l.split? name = some (before, after)) :
    before ++ after = l.rest := by
  have hcut {quote : Char} (h : l.cut? quote name = some (before, after)) :
      before ++ after = l.rest := by
    obtain ⟨⟨b, a⟩, hba, heq⟩ := Option.map_eq_some_iff.1 h
    obtain ⟨rfl, rfl⟩ := Prod.mk.inj heq
    rw [Text.cut?_eq_some hba]
    simp
  rw [split?] at h
  cases hdouble : l.cut? '\x22' name with
  | some c =>
    rw [hdouble] at h
    exact hcut (hdouble.trans h)
  | none =>
    rw [hdouble] at h
    exact hcut h

/-- Going into an element leaves the source as it is. -/
theorem source_within (l : Locator) (name : String) : (l.within name).source = l.source := by
  rw [within]
  cases hsplit : l.split? name with
  | none => rfl
  | some c =>
    rw [source, source, ← append_of_split? hsplit]
    exact List.append_assoc ..

/-- The anchor inside an element is where its name is found. -/
theorem anchor_within (l : Locator) (name : String) :
    (l.within name).anchor = ((l.find? name).map Span.offset).getD l.anchor := by
  rw [within, find?]
  cases l.split? name with
  | none => rfl
  | some c => exact Text.byteLength_append ..

theorem anchor_le_within (l : Locator) (name : String) : l.anchor ≤ (l.within name).anchor := by
  rw [within]
  cases l.split? name with
  | none => exact Nat.le_refl _
  | some c => exact Nat.le.intro (Text.byteLength_append ..).symm

end Searches

/-! ### Going into elements one after the other -/

/-- Searches from an anchor of a source. -/
structure Searches (source : String) (anchor : Nat) (l : Locator) : Prop where
  /-- The locator has the anchor, and it finds what a search by offsets finds. -/
  anchor_eq : l.anchor = anchor
  find_eq : ∀ name, l.find? name = findFrom? source anchor name
  /-- The anchor is a byte of the source or its end, and not inside a character. -/
  bounded : anchor ≤ source.utf8ByteSize
  boundary : String.Pos.Raw.IsValid source ⟨anchor⟩
  /-- The anchor inside an element is where its name is found, and it does not go back. -/
  anchored : ∀ name, (l.within name).anchor = ((l.find? name).map Span.offset).getD anchor
  advances : ∀ names : List String, anchor ≤ (names.foldl within l).anchor
  /-- A name is found where the source gives it from the anchor on. -/
  finds_iff : ∀ name, (∃ span, l.find? name = some span) ↔
    ∃ quote ∈ quotes, ∃ start, NamesAt source quote name start ∧ anchor ≤ start
  found_iff : ∀ name span, l.find? name = some span ↔ Found source anchor name span
  covers : ∀ name span, l.find? name = some span → Covers source name span

theorem text_within (l : Locator) (name : String) : (l.within name).text = l.text := by
  rw [text, text, source_within]

theorem text_foldl (names : List String) (l : Locator) : (names.foldl within l).text = l.text := by
  induction names generalizing l with
  | nil => rfl
  | cons name rest ih => exact (ih _).trans (text_within l name)

theorem anchor_le_foldl (names : List String) (l : Locator) :
    l.anchor ≤ (names.foldl within l).anchor := by
  induction names generalizing l with
  | nil => exact Nat.le_refl _
  | cons name rest ih => exact Nat.le_trans (anchor_le_within l name) (ih _)

/-- Going into elements one after the other, a locator has the anchors that the offsets give. -/
theorem anchor_foldl (names : List String) (l : Locator) :
    (names.foldl within l).anchor = names.foldl (anchorWithin l.text) l.anchor := by
  induction names generalizing l with
  | nil => rfl
  | cons name rest ih =>
    have hanchor : (l.within name).anchor = anchorWithin l.text l.anchor name := by
      rw [anchor_within, find?_eq, anchorWithin]
    rw [List.foldl_cons, List.foldl_cons, ih, text_within, hanchor]

/-- The anchor splits the source between characters. -/
theorem text_eq (l : Locator) : l.text = String.ofList l.passed ++ String.ofList l.rest := by
  rw [text, source, String.ofList_append]

theorem text_ofSource (filename source : String) : (ofSource filename source).text = source :=
  String.ofList_toList

theorem searches_text (l : Locator) : Searches l.text l.anchor l where
  anchor_eq := rfl
  find_eq := find?_eq l
  bounded := by
    rw [text_eq, String.utf8ByteSize_append, ← Text.byteLength_eq]
    exact Nat.le_add_right _ _
  boundary := by
    refine String.Pos.Raw.isValid_iff_exists_append.2 ⟨_, _, text_eq l, ?_⟩
    rw [anchor, Text.byteLength_eq]
    rfl
  anchored := anchor_within l
  advances names := anchor_le_foldl names l
  finds_iff _ := exists_find?_iff
  found_iff _ _ := find?_eq_some_iff
  covers _ _ h := (find?_eq_some_iff.1 h).covers

/-- **Searches come to places of the source.** Whatever elements a search has gone into, one after the
other, its anchor is the offset that the searches for them give, a place between characters, which
does not go back, and from there on it comes to the first place where the source gives a name. -/
theorem searches (filename source : String) (names : List String) :
    Searches source (names.foldl (anchorWithin source) 0)
      (names.foldl within (ofSource filename source)) := by
  have htext : (names.foldl within (ofSource filename source)).text = source :=
    (text_foldl names _).trans (text_ofSource filename source)
  have hanchor : (names.foldl within (ofSource filename source)).anchor =
      names.foldl (anchorWithin source) 0 := by
    rw [anchor_foldl, text_ofSource]
    rfl
  have h := searches_text (names.foldl within (ofSource filename source))
  rwa [htext, hanchor] at h

/-- Places are counted in bytes, and double quotes come before single ones wherever they are. -/
example : (ofSource "a.xml" "<é name='f' title='g'><x name=\"f\"/>").find? "f" = some ⟨32, 1⟩ := by
  decide +kernel

end Locator
end Bindery
