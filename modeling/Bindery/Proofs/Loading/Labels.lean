import Bindery.Proofs.Loading.Loaded
import Bindery.Proofs.Loading.Places
import Bindery.Proofs.Loading.Subjects
import Mathlib.Data.Nat.Find

/-! Where the labels of a refused category are.

An attribute begins after the opening of the one before it (`Locator.NamesAt.opening_le`), so a search
that goes on inside an element misses the attribute with the element's own name and no other. -/
namespace Bindery

/-! ### Attributes one after the other -/

namespace Text

/-- What stands inside a text stands in the source that has the text. -/
theorem StandsAt.inside {source text part : String} {start offset : Nat}
    (htext : StandsAt source text start) (hpart : StandsAt source part (start + offset))
    (hfits : offset + part.utf8ByteSize ≤ text.utf8ByteSize) : StandsAt text part offset := by
  have hmin : min (start + (offset + part.utf8ByteSize)) (start + text.utf8ByteSize) =
      start + offset + part.utf8ByteSize := by omega
  rw [StandsAt, ← htext, ByteArray.extract_extract, hmin]
  exact hpart

end Text

namespace Locator

open Text (StandsAt)

variable {source name other : String} {quote : Char} {start : Nat}

theorem NamesAt.opening (h : NamesAt source quote name start) :
    StandsAt source ("name=" ++ String.singleton quote) start :=
  (Text.standsAt_append_iff.1 (Text.standsAt_append_iff.1 h).1).1

theorem NamesAt.initial (h : NamesAt source quote name start) : StandsAt source "n" start := by
  have hopening : StandsAt source ("n" ++ ("ame=" ++ String.singleton quote)) start := h.opening
  exact (Text.standsAt_append_iff.1 hopening).1

/-- An attribute begins after the opening of one that begins before it. -/
theorem NamesAt.opening_le {quote' : Char} {later : Nat} (hquote : quote ∈ quotes)
    (h : NamesAt source quote name start) (h' : NamesAt source quote' other later)
    (hlt : start < later) : start + 6 ≤ later := by
  by_contra hinside
  obtain ⟨offset, rfl⟩ := Nat.exists_eq_add_of_lt hlt
  have honce : ∀ i < 5, ¬ StandsAt ("name=" ++ String.singleton quote) "n" (i + 1) := by
    obtain rfl | rfl := List.mem_pair.1 hquote <;> decide
  refine honce offset (by omega) (h.opening.inside h'.initial ?_)
  rw [utf8ByteSize_opening hquote]
  have : "n".utf8ByteSize = 1 := by decide
  omega

/-- Where there is an attribute from a byte on, one of them is the first. -/
theorem NamesAt.exists_firstFrom {anchor : Nat} (h : NamesAt source quote name start)
    (hreached : anchor ≤ start) : ∃ first, FirstFrom source anchor quote name first := by
  have hexists : ∃ start, NamesAt source quote name start ∧ anchor ≤ start := ⟨start, h, hreached⟩
  exact ⟨Nat.find hexists, (Nat.find_spec hexists).1, (Nat.find_spec hexists).2,
    fun _ hother hlater => Nat.find_min' hexists ⟨hother, hlater⟩⟩

theorem nameSpan_inj {start' : Nat} : nameSpan name start = nameSpan name start' ↔ start = start' := by
  simp [nameSpan]

/-- A search comes to a name in double quotes exactly where it is the first in double quotes. -/
theorem found_nameSpan_iff {anchor : Nat} (h : NamesAt source '\x22' name start) :
    Found source anchor name (nameSpan name start) ↔ FirstFrom source anchor '\x22' name start := by
  constructor
  · generalize hspan : nameSpan name start = span
    rintro (first | ⟨hnone, first⟩)
    · exact nameSpan_inj.1 hspan ▸ first
    · obtain rfl := nameSpan_inj.1 hspan
      exact absurd (hnone _ h) (Nat.not_lt.2 first.reached)
  · exact .double

/-! ### Searches inside an element -/

section Within
variable {filename : String} {outer span : Span}

theorem find?_ofSource_iff :
    (ofSource filename source).find? name = some span ↔ Found source 0 name span := by
  rw [find?_eq_some_iff, text_ofSource]
  rfl

theorem find?_within_iff : ((ofSource filename source).within name).find? other = some span ↔
    Found source ((ofSource filename source).within name).anchor other span := by
  have htext : ((ofSource filename source).within name).text = source := by
    rw [text, source_within]
    exact text_ofSource filename source
  rw [find?_eq_some_iff, htext]

/-- A search inside an element that is found goes on from its name. -/
theorem anchor_within_of_found (h : Found source 0 name outer) :
    ((ofSource filename source).within name).anchor = outer.offset := by
  rw [anchor_within, find?_ofSource_iff.2 h]
  rfl

/-- A search inside an element that is not found begins where the source does. -/
theorem anchor_within_of_missing (h : ∀ outer, ¬ Found source 0 name outer) :
    ((ofSource filename source).within name).anchor = 0 := by
  have hmissing : (ofSource filename source).find? name = none :=
    Option.eq_none_iff_forall_ne_some.2 fun outer houter => h outer (find?_ofSource_iff.1 houter)
  rw [anchor_within, hmissing]
  rfl

end Within

section First
variable {first : Nat}

/-- After the opening of the first attribute with a name come all attributes that begin later. -/
theorem FirstFrom.opening_le_iff {later : Nat} {quote' : Char} (hquote : quote ∈ quotes)
    (hfirst : FirstFrom source 0 quote name first) (h : NamesAt source quote' other later) :
    first + 6 ≤ later ↔ first < later :=
  ⟨fun hle => by omega, hfirst.names.opening_le hquote h⟩

/-- Inside an element, its own name is found where it stands for the second time. -/
theorem FirstFrom.found_again_iff (hfirst : FirstFrom source 0 '\x22' name first)
    (h : NamesAt source '\x22' name start) :
    Found source (first + 6) name (nameSpan name start) ↔
      ∃! before, before < start ∧ NamesAt source '\x22' name before := by
  have hafter {later : Nat} (hlater : NamesAt source '\x22' name later) :
      first + 6 ≤ later ↔ first < later := hfirst.opening_le_iff (by decide) hlater
  rw [found_nameSpan_iff h]
  constructor
  · intro hnext
    refine ⟨first, ⟨(hafter h).1 hnext.reached, hfirst.names⟩, fun before ⟨hbefore, hnames⟩ => ?_⟩
    by_contra hne
    have hlater : first < before :=
      Nat.lt_of_le_of_ne (hfirst.least before hnames (Nat.zero_le _)) (Ne.symm hne)
    have := hnext.least before hnames ((hafter hnames).2 hlater)
    omega
  · rintro ⟨only, ⟨honly, hnames⟩, hunique⟩
    have hle := hfirst.least only hnames (Nat.zero_le _)
    obtain rfl : first = only := hunique first ⟨by omega, hfirst.names⟩
    refine ⟨h, (hafter h).2 honly, fun later hlater hreached => ?_⟩
    by_contra hearlier
    have := hunique later ⟨by omega, hlater⟩
    omega

/-- Inside an element, its own name is not found where it stands once in double quotes and not after
that in single quotes. -/
theorem FirstFrom.not_found_again_iff (hfirst : FirstFrom source 0 '\x22' name first)
    (h : NamesAt source '\x22' name start) :
    (∀ span, ¬ Found source (first + 6) name span) ↔
      (∀ other, NamesAt source '\x22' name other → other = start) ∧
        ∀ other, NamesAt source '\x27' name other → other ≤ start := by
  have hafter {quote : Char} {later : Nat} (hlater : NamesAt source quote name later) :
      first + 6 ≤ later ↔ first < later := hfirst.opening_le_iff (by decide) hlater
  have hle {other : Nat} (hother : NamesAt source '\x22' name other) : first ≤ other :=
    hfirst.least other hother (Nat.zero_le _)
  constructor
  · intro hnone
    have hdouble (other : Nat) (hother : NamesAt source '\x22' name other) : other = first := by
      by_contra hne
      have hlater := (hafter hother).2 (Nat.lt_of_le_of_ne (hle hother) (Ne.symm hne))
      obtain ⟨next, hnext⟩ := hother.exists_firstFrom hlater
      exact hnone _ (.double hnext)
    obtain rfl := hdouble start h
    refine ⟨hdouble, fun other hother => ?_⟩
    by_contra hlater
    obtain ⟨next, hnext⟩ := hother.exists_firstFrom ((hafter hother).2 (Nat.lt_of_not_le hlater))
    refine hnone _ (.single (fun later hlater => ?_) hnext)
    have := hdouble later hlater
    omega
  · rintro ⟨hdouble, hsingle⟩ span hfound
    obtain hnext | ⟨-, hnext⟩ := hfound
    · have := hdouble _ hnext.names
      have := hdouble _ hfirst.names
      have := hnext.reached
      omega
    · have := hsingle _ hnext.names
      have := hdouble _ hfirst.names
      have := hnext.reached
      omega

/-- Inside an element, the first name of a kind that begins after the element's name is found. -/
theorem FirstFrom.exists_found_after {f p : Nat} (hfirst : FirstFrom source 0 '\x22' name first)
    (hf : NamesAt source '\x22' name f) (hp : NamesAt source '\x22' other p) (hlt : f < p) :
    ∃ next ≤ p, Found source (first + 6) other (nameSpan other next) ∧ ∀ bound, bound ≤ next ↔
      ∀ f' p', NamesAt source '\x22' name f' → NamesAt source '\x22' other p' → f' < p' →
        bound ≤ p' := by
  have hreached {f' p' : Nat} (hf' : NamesAt source '\x22' name f')
      (hp' : NamesAt source '\x22' other p') (hlt : f' < p') : first + 6 ≤ p' := by
    rw [hfirst.opening_le_iff (by decide) hp']
    exact Nat.lt_of_le_of_lt (hfirst.least f' hf' (Nat.zero_le _)) hlt
  obtain ⟨next, hnext⟩ := hp.exists_firstFrom (hreached hf hp hlt)
  refine ⟨next, hnext.least p hp (hreached hf hp hlt), .double hnext, fun bound => ?_⟩
  constructor
  · intro hbound f' p' hf' hp' hlt'
    exact Nat.le_trans hbound (hnext.least p' hp' (hreached hf' hp' hlt'))
  · intro hall
    exact hall first next hfirst.names hnext.names
      ((hfirst.opening_le_iff (by decide) hnext.names).1 hnext.reached)

end First

end Locator
/-! ### Labels -/

/-- A stretch lies in another. -/
structure Span.Inside (inner outer : Span) : Prop where
  starts : outer.offset ≤ inner.offset
  ends : inner.offset + inner.length ≤ outer.offset + outer.length

namespace LoadError

theorem labels_eq_singleton_iff {e : LoadError} {span : Span} :
    e.labels = [(e.labelText, span)] ↔ e.place? = some span := by
  rw [labels]
  cases e.place? <;> simp

theorem labels_eq_nil_iff {e : LoadError} :
    e.labels = [] ↔ ∀ span, e.labels ≠ [(e.labelText, span)] := by
  rw [labels]
  cases e.place? <;> simp

end LoadError

namespace Metadata

open Locator (NamesAt Found FirstFrom Covers nameSpan)

variable {source filename function name : String} {w : Written.Category} {e : LoadError}

/-- The label of an error is where a search for a name comes to inside an element, if it comes to
anything. -/
structure LabelledWithin (source element name : String) (e : LoadError) : Prop where
  inside : ∀ outer, Found source 0 element outer → ∀ span,
    e.labels = [(e.labelText, span)] ↔ Found source outer.offset name span
  /-- An element that is not found is as good as none. -/
  anywhere : (∀ outer, ¬ Found source 0 element outer) → ∀ span,
    e.labels = [(e.labelText, span)] ↔ Found source 0 name span
  covers : ∀ label ∈ e.labels, Covers source name label.2

theorem labelledWithin_of_place? {element : String}
    (h : e.place? = ((Locator.ofSource filename source).within element).find? name) :
    LabelledWithin source element name e where
  inside outer houter span := by
    rw [LoadError.labels_eq_singleton_iff, h, Locator.find?_within_iff,
      Locator.anchor_within_of_found houter]
  anywhere hmissing span := by
    rw [LoadError.labels_eq_singleton_iff, h, Locator.find?_within_iff,
      Locator.anchor_within_of_missing hmissing]
  covers label hlabel := by
    obtain ⟨span, hspan, rfl⟩ := List.mem_map.1 hlabel
    rw [h, Option.mem_toList, Locator.find?_within_iff] at hspan
    exact hspan.covers

/-- **Labels of functions.** A category that is refused for what a function says of itself has its
label where the function is named for the second time: the search begins at the first name and misses
it. So the label is on the name of the function's own element exactly if one attribute with that name,
and no more, comes before it, and there is no label where the function is named once. -/
theorem Category.labels_function
    (hread : readWritten source Form.category Written.Category.ofElement = .ok w)
    (h : refusal? (w.parts (.ofSource filename source)) = some (.function function, e)) :
    Category.parse source filename = .error e ∧ LabelledWithin source function function e ∧
      ∀ start, NamesAt source '\x22' function start →
        (e.labels = [(e.labelText, nameSpan function start)] ↔
          ∃! before, before < start ∧ NamesAt source '\x22' function before) ∧
        (e.labels = [] ↔ (∀ other, NamesAt source '\x22' function other → other = start) ∧
          ∀ other, NamesAt source '\x27' function other → other ≤ start) := by
  have hlabelled : LabelledWithin source function function e :=
    labelledWithin_of_place? (place?_of_refusal? h)
  refine ⟨(Category.parse_eq_error_iff hread e).2 ⟨_, h⟩, hlabelled, fun start hstart => ?_⟩
  obtain ⟨first, hfirst⟩ := hstart.exists_firstFrom (Nat.zero_le _)
  have hinside := hlabelled.inside _ (.double hfirst)
  refine ⟨(hinside _).trans (hfirst.found_again_iff hstart), ?_⟩
  rw [LoadError.labels_eq_nil_iff, ← hfirst.not_found_again_iff hstart]
  exact forall_congr' fun span => not_congr (hinside span)

/-- A member without a library function. -/
def memberSource : String :=
  "<C name=\"a\"><Functions><Member name=\"f\" type=\"K\"><ReturnValue><type>long</type>"
    ++ "</ReturnValue></Member></Functions></C>"

/-- The category of `memberSource`. -/
def writtenMember : Written.Category :=
  ⟨"a", none, none, [], [(.member, ⟨"f", some "K", none, none, none, none, none, none, none, none,
    none, [], [], some ⟨"long", none, none⟩⟩)]⟩

/-- Where its name stands once, there is no label. -/
theorem Category.labels_member :
    readWritten memberSource Form.category Written.Category.ofElement = .ok writtenMember ∧
      ∃ e, refusal? (writtenMember.parts (.ofSource "a.xml" memberSource)) =
          some (.function "f", e) ∧
        Category.parse memberSource "a.xml" = .error e ∧ e.labels = [] ∧
        NamesAt memberSource '\x22' "f" 31 ∧
        ∀ other, NamesAt memberSource '\x22' "f" other → other = 31 := by
  have hread : (readWritten memberSource Form.category Written.Category.ofElement).toOption =
      some writtenMember := by decide +kernel
  have hrefusal : refusal? (writtenMember.parts (.ofSource "a.xml" memberSource)) =
      some (.function "f", .flaw (.noLibraryFunction .member "f") none) := by decide +kernel
  have hnames : NamesAt memberSource '\x22' "f" 31 := by decide +kernel
  obtain ⟨hparse, -, hlabels⟩ := Category.labels_function (eq_ok_of_toOption hread) hrefusal
  exact ⟨eq_ok_of_toOption hread, _, hrefusal, hparse, rfl, hnames,
    ((hlabels 31 hnames).2.1 rfl).1⟩

/-- **Labels of parameters.** A category that is refused for a parameter of a function has its label
on a name of the parameter, the first after the first name of the function. So where the function's
element names the parameter, there is a label, and it lies in the element exactly if no attribute with
the parameter's name comes between an attribute with the function's name and the element. -/
theorem Category.labels_parameter
    (hread : readWritten source Form.category Written.Category.ofElement = .ok w)
    (h : refusal? (w.parts (.ofSource filename source)) = some (.parameter function name, e)) :
    Category.parse source filename = .error e ∧ LabelledWithin source function name e ∧
      ∀ (element : Span) (f p : Nat), NamesAt source '\x22' function f →
        NamesAt source '\x22' name p → f < p → (nameSpan name p).Inside element →
        ∃ place, e.labels = [(e.labelText, place)] ∧
          (place.Inside element ↔ ∀ f' p', NamesAt source '\x22' function f' →
            NamesAt source '\x22' name p' → f' < p' → element.offset ≤ (nameSpan name p').offset) := by
  have hlabelled : LabelledWithin source function name e :=
    labelledWithin_of_place? (place?_of_refusal? h)
  refine ⟨(Category.parse_eq_error_iff hread e).2 ⟨_, h⟩, hlabelled, ?_⟩
  intro element f p hf hp hlt hin
  obtain ⟨first, hfirst⟩ := hf.exists_firstFrom (Nat.zero_le _)
  obtain ⟨next, hle, hfound, hnext⟩ := hfirst.exists_found_after hf hp hlt
  refine ⟨nameSpan name next, (hlabelled.inside _ (.double hfirst) _).2 hfound, ?_⟩
  have hbound := hnext (element.offset - 6)
  simp only [Nat.sub_le_iff_le_add] at hbound
  refine Iff.trans ⟨Span.Inside.starts, fun hstarts => ⟨hstarts, ?_⟩⟩ hbound
  exact Nat.le_trans (Nat.add_le_add_right (Nat.add_le_add_right hle _) _) hin.ends

/-- A function with the name of its category. -/
def namesakeFunction : String :=
  "<Constructor name=\"g\"><libraryFunction>G</libraryFunction><Parameters><Parameter name=\"x\">"
    ++ "<type>float</type></Parameter></Parameters></Constructor>"

/-- Before the function comes one with the name of its parameter. -/
def namesakeSource : String :=
  "<C name=\"g\"><Functions><Constructor name=\"x\"><libraryFunction>X</libraryFunction></Constructor>"
    ++ namesakeFunction ++ "</Functions></C>"

/-- The category of `namesakeSource`. -/
def writtenNamesakes : Written.Category :=
  ⟨"g", none, none, [],
    [(.constructor, ⟨"x", none, none, none, none, none, none, some "X", none, none, none, [], [],
      none⟩),
     (.constructor, ⟨"g", none, none, none, none, none, none, some "G", none, none, none, [],
      [⟨"x", none, "float", none, none⟩], none⟩)]⟩

/-- The label of the parameter is on the name of the function before. -/
theorem Category.labels_namesakes :
    readWritten namesakeSource Form.category Written.Category.ofElement = .ok writtenNamesakes ∧
      ∃ e, refusal? (writtenNamesakes.parts (.ofSource "a.xml" namesakeSource)) =
          some (.parameter "g" "x", e) ∧
        Category.parse namesakeSource "a.xml" = .error e ∧
        Text.StandsAt namesakeSource namesakeFunction 95 ∧
        ∃ place, e.labels = [(e.labelText, place)] ∧
          ¬ place.Inside ⟨95, namesakeFunction.utf8ByteSize⟩ := by
  obtain ⟨cs, e, hsource, hwritten, hfirst⟩ : ∃ cs e, namesakeSource = String.ofList cs ∧
      ((Xml.readInside [] (Xml.withoutMark cs)).bind Form.category.read?).bind
        Written.Category.ofElement = some writtenNamesakes ∧
      refusal? (writtenNamesakes.parts { filename := "a.xml", rest := cs }) =
        some (.parameter "g" "x", e) :=
    ⟨_, .unknownValue "type" "float"
        ⟨"type", "float", DataType.vocabulary.values.map DataType.vocabulary.name⟩ (some ⟨42, 1⟩),
      append_chars (append_chars rfl (append_chars rfl rfl)) rfl, by decide +kernel,
      by decide +kernel⟩
  have hread := readWritten_chars hsource hwritten
  have hrefusal : refusal? (writtenNamesakes.parts (.ofSource "a.xml" namesakeSource)) =
      some (.parameter "g" "x", e) := by
    rw [Locator.ofSource, hsource, String.toList_ofList]
    exact hfirst
  obtain ⟨hparse, -, hlabels⟩ := Category.labels_parameter hread hrefusal
  obtain ⟨place, hplace, hinside⟩ := hlabels ⟨95, namesakeFunction.utf8ByteSize⟩ 108 176
    (by decide +kernel) (by decide +kernel) (by decide) ⟨by decide, by decide +kernel⟩
  refine ⟨hread, _, hrefusal, hparse, Text.standsAt_append _ _ _, place, hplace, ?_⟩
  -- The names of the category and of the first function come before the element.
  intro h
  have := hinside.1 h 3 36 (by decide +kernel) (by decide +kernel) (by decide)
  exact absurd this (by decide)

end Metadata
end Bindery
