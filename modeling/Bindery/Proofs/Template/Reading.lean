import Bindery.Proofs.Template.Rendering

/-! What reading a template accepts.

A source is scanned from the left. A mark is an opening that the scan comes to: the first one of the
source, or the first one after the closing of a placeholder whose name is an identifier (`Mark`).
Reading follows the marks. It succeeds when all of them are named, and the template then spells the
source; otherwise the first mark that has no name is what it reports (`parse_verdict`). -/
namespace Bindery

/-! ### First occurrences -/

namespace Text

/-- A text occurs in another between two pieces, and nowhere earlier. -/
structure Leftmost (needle hay before after : List Char) : Prop where
  split : hay = before ++ needle ++ after
  least : ∀ b a, hay = b ++ needle ++ a → before.length ≤ b.length

section Cut
variable {needle hay before after b a : List Char}

theorem length_le_of_cut? (h : cut? needle hay = some (before, after))
    (hb : hay = b ++ needle ++ a) : before.length ≤ b.length := by
  induction hay generalizing before b with
  | nil =>
    have hsplit := cut?_eq_some h
    simp_all
  | cons c rest ih =>
    unfold cut? at h
    split at h
    · next hp =>
      simp only [Option.some.injEq, Prod.mk.injEq] at h
      simp [← h.1]
    · next hp =>
      obtain ⟨⟨before', after'⟩, hcut, heq⟩ := Option.map_eq_some_iff.1 h
      cases heq
      cases b with
      | nil =>
        have hprefix : needle <+: c :: rest := ⟨a, by rw [hb, List.nil_append]⟩
        exact absurd (List.isPrefixOf_iff_prefix.2 hprefix) hp
      | cons c' b' =>
        injection hb with _ hrest
        exact Nat.succ_le_succ (ih hcut hrest)

/-- A text is cut at its first occurrence. -/
theorem cut?_eq_some_iff : cut? needle hay = some (before, after) ↔
    Leftmost needle hay before after := by
  constructor
  · exact fun h => ⟨cut?_eq_some h, fun _ _ => length_le_of_cut? h⟩
  · intro h
    cases hcut : cut? needle hay with
    | none => exact absurd ⟨before, after, h.split.symm⟩ (cut?_eq_none_iff.1 hcut)
    | some cut =>
      have hsplit := cut?_eq_some hcut
      have hlength : cut.1.length = before.length :=
        Nat.le_antisymm (length_le_of_cut? hcut h.split) (h.least _ _ hsplit)
      rw [h.split, List.append_assoc, List.append_assoc] at hsplit
      obtain ⟨hbefore, hafter⟩ := List.append_inj hsplit hlength.symm
      rw [hbefore, List.append_cancel_left hafter]

end Cut

end Text

namespace Template

/-! ### Marks -/

/-- What follows an opening begins with an identifier and its closing. -/
structure Named (inside word after : List Char) : Prop where
  closed : Text.Leftmost closing inside word after
  identifier : Text.isIdentifierChars word = true

/-- The scan of a source comes to an opening between two pieces of it: to the first one, and from
the closing of a name on to those of the rest. -/
inductive Mark : List Char → List Char → List Char → Prop where
  | first (opened : Text.Leftmost opening source before inside) : Mark source before inside
  | later (opened : Text.Leftmost opening source before inside) (named : Named inside word rest)
      (mark : Mark rest before' inside') :
      Mark source (before ++ opening ++ word ++ closing ++ before') inside'

/-- What is wrong after an opening: there is no closing, or what stands before it is no
identifier. Openings are found by their byte. -/
inductive Faulty (template : String) (start : Nat) (inside : List Char) : Fault → Prop where
  | unterminated (unclosed : ¬ closing <:+: inside) :
      Faulty template start inside (.unterminated template start)
  | invalidPlaceholder (closed : Text.Leftmost closing inside word after)
      (invalid : Text.isIdentifierChars word = false) :
      Faulty template start inside (.invalidPlaceholder template (String.ofList word))

/-- A template gives its source back, and has no idle pieces. -/
structure Spells (t : Template) (source : String) : Prop where
  written : String.join (t.segments.map (Segment.filled fun p => "$\x7b" ++ p ++ "\x7d")) = source
  rendered : ∀ bindings : Bindings,
    (∀ p ∈ t.placeholders, bindings.value? p = some ("$\x7b" ++ p ++ "\x7d")) →
      t.render bindings = .ok source
  nonempty : ∀ s, .text s ∈ t.segments → s ≠ ""
  unopened : ∀ s, .text s ∈ t.segments → ¬ opening <:+: s.toList

section Marks
variable {source before inside word rest b a : List Char}

/-- Some name follows an opening, or something is wrong after it. -/
theorem named_or_faulty (template : String) (start : Nat) (inside : List Char) :
    (∃ word rest, Named inside word rest) ∨ ∃ fault, Faulty template start inside fault := by
  cases hcut : Text.cut? closing inside with
  | none => exact .inr ⟨_, .unterminated (Text.cut?_eq_none_iff.1 hcut)⟩
  | some cut =>
    have hclosed := Text.cut?_eq_some_iff.1 hcut
    cases hword : Text.isIdentifierChars cut.1 with
    | true => exact .inl ⟨_, _, hclosed, hword⟩
    | false => exact .inr ⟨_, .invalidPlaceholder hclosed hword⟩

/-- Nothing is wrong after an opening that is named. -/
theorem Named.not_faulty {template : String} {start : Nat} {fault : Fault}
    (h : Named inside word rest) : ¬ Faulty template start inside fault := by
  rintro (unclosed | ⟨closed, invalid⟩)
  · exact unclosed ⟨word, rest, h.closed.split.symm⟩
  · have hcut := Text.cut?_eq_some_iff.2 closed
    rw [Text.cut?_eq_some_iff.2 h.closed] at hcut
    cases hcut
    rw [h.identifier] at invalid
    cases invalid

theorem Mark.split (h : Mark source before inside) : source = before ++ opening ++ inside := by
  induction h with
  | first opened => exact opened.split
  | later opened named _ ih =>
    rw [opened.split, named.closed.split, ih]
    simp only [List.append_assoc]

/-- An opening with no closing after it comes after every closing. -/
theorem exists_of_unclosed (h : before ++ closing ++ rest = b ++ opening ++ a)
    (unclosed : ¬ closing <:+: a) :
    ∃ b', b = before ++ closing ++ b' ∧ rest = b' ++ opening ++ a := by
  rw [List.append_assoc b] at h
  rcases List.append_eq_append_iff.1 h with ⟨b', hb, hrest⟩ | ⟨c, hc, hopen⟩
  · exact ⟨b', hb, by rw [hrest, List.append_assoc]⟩
  · rcases List.eq_nil_or_concat c with rfl | ⟨c', last, rfl⟩
    · exact ⟨[], by simpa using hc.symm, by simpa using hopen.symm⟩
    · have hlast : last = '\x7d' := by
        rw [closing, List.concat_eq_append, ← List.append_assoc] at hc
        exact (List.singleton_inj.1 (List.append_inj_right' hc rfl)).symm
      have hmem : '\x7d' ∈ opening ++ a := by rw [hopen, hlast]; simp
      have hmem' : '\x7d' ∈ a := by simpa [opening] using hmem
      obtain ⟨x, y, rfl⟩ := List.append_of_mem hmem'
      exact absurd ⟨x, y, by simp [closing]⟩ unclosed

/-- The first opening without a closing after it is the mark that has none. -/
theorem Mark.least_of_unclosed (h : Mark source before inside) (hb : source = b ++ opening ++ a)
    (unclosed : ¬ closing <:+: a) : before.length ≤ b.length := by
  induction h generalizing b with
  | first opened => exact opened.least b a hb
  | later opened named mark ih =>
    rename_i source before inside word rest before' inside'
    have hsource : before ++ opening ++ word ++ closing ++ rest = b ++ opening ++ a := by
      rw [← hb, opened.split, named.closed.split]
      simp only [List.append_assoc]
    obtain ⟨b', rfl, hrest⟩ := exists_of_unclosed hsource unclosed
    have hlength := ih hrest
    simp only [List.length_append] at *
    omega

end Marks

/-! ### Reading along the marks -/

section Reading
variable {template : String} {offset : Nat} {source before inside word rest : List Char}

/-- One step of reading. -/
theorem segmentsFrom_eq : segmentsFrom template offset source =
    match Text.cut? opening source with
    | none => .ok (plain source)
    | some (before, inside) =>
      match Text.cut? closing inside with
      | none => .error (.unterminated template (offset + Text.byteLength before))
      | some (word, rest) =>
        if Text.isIdentifierChars word then
          (segmentsFrom template (offset + Text.byteLength before + 2 + Text.byteLength word + 1)
            rest).map (plain before ++ .placeholder (String.ofList word) :: ·)
        else .error (.invalidPlaceholder template (String.ofList word)) := by
  rw [segmentsFrom]
  split
  · next hcut => simp only [hcut]
  · next before inside hcut =>
    simp only [hcut]
    split
    · next hcut' => simp only [hcut']
    · next word rest hcut' =>
      simp only [hcut']
      rfl

/-- A text with no opening is put down as it is. -/
theorem segmentsFrom_of_not_opened (h : ¬ opening <:+: source) :
    segmentsFrom template offset source = .ok (plain source) := by
  rw [segmentsFrom_eq, Text.cut?_eq_none_iff.2 h]

/-- A name is put down as a placeholder, and reading goes on after its closing. -/
theorem segmentsFrom_of_named (opened : Text.Leftmost opening source before inside)
    (named : Named inside word rest) :
    segmentsFrom template offset source =
      (segmentsFrom template (offset + Text.byteLength (before ++ opening ++ word ++ closing))
        rest).map (plain before ++ .placeholder (String.ofList word) :: ·) := by
  have hlength : offset + Text.byteLength (before ++ opening ++ word ++ closing) =
      offset + Text.byteLength before + 2 + Text.byteLength word + 1 := by
    simp only [Text.byteLength_append, ← Nat.add_assoc]
    rfl
  rw [segmentsFrom_eq, Text.cut?_eq_some_iff.2 opened, hlength]
  simp only [Text.cut?_eq_some_iff.2 named.closed, named.identifier, if_true]

/-- Reading stops at an opening with a fault. -/
theorem segmentsFrom_of_faulty {fault : Fault} (opened : Text.Leftmost opening source before inside)
    (h : Faulty template (offset + Text.byteLength before) inside fault) :
    segmentsFrom template offset source = .error fault := by
  rw [segmentsFrom_eq, Text.cut?_eq_some_iff.2 opened]
  cases h with
  | unterminated unclosed => simp only [Text.cut?_eq_none_iff.2 unclosed]
  | invalidPlaceholder closed invalid => simp [Text.cut?_eq_some_iff.2 closed, invalid]

/-- Induction along the reading of a source: it has no opening, or its first opening is faulty, or
that opening is named and the rest is read. -/
@[elab_as_elim]
theorem reading_induction (template : String) {motive : Nat → List Char → Prop}
    (plain : ∀ offset source, ¬ opening <:+: source → motive offset source)
    (faulty : ∀ offset source before inside fault, Text.Leftmost opening source before inside →
      Faulty template (offset + Text.byteLength before) inside fault → motive offset source)
    (named : ∀ offset source before inside word rest, Text.Leftmost opening source before inside →
      Named inside word rest →
      motive (offset + Text.byteLength (before ++ opening ++ word ++ closing)) rest →
        motive offset source) (offset : Nat) (source : List Char) : motive offset source := by
  cases hcut : Text.cut? opening source with
  | none => exact plain _ _ (Text.cut?_eq_none_iff.1 hcut)
  | some cut =>
    obtain ⟨before, inside⟩ := cut
    have hopened := Text.cut?_eq_some_iff.1 hcut
    rcases named_or_faulty template (offset + Text.byteLength before) inside with
      ⟨word, rest, hnamed⟩ | ⟨fault, hfault⟩
    · exact named _ _ _ _ _ _ hopened hnamed (reading_induction template plain faulty named _ rest)
    · exact faulty _ _ _ _ _ hopened hfault
termination_by source.length
decreasing_by
  rw [hopened.split, hnamed.closed.split]
  simp only [List.length_append, opening, List.length_cons]
  omega

/-- Reading reports what is wrong at a mark. -/
theorem segmentsFrom_of_mark {fault : Fault} (h : Mark source before inside)
    (hf : Faulty template (offset + Text.byteLength before) inside fault) :
    segmentsFrom template offset source = .error fault := by
  induction h generalizing offset with
  | first opened => exact segmentsFrom_of_faulty opened hf
  | later opened named mark ih =>
    rw [Text.byteLength_append, ← Nat.add_assoc] at hf
    rw [segmentsFrom_of_named opened named, ih hf]
    rfl

/-- What reading reports is wrong at a mark. -/
theorem exists_mark_of_error {fault : Fault} (h : segmentsFrom template offset source = .error fault) :
    ∃ before inside, Mark source before inside ∧
      Faulty template (offset + Text.byteLength before) inside fault := by
  induction offset, source using reading_induction template with
  | plain offset source hplain => rw [segmentsFrom_of_not_opened hplain] at h; cases h
  | faulty offset source before inside fault' opened hfault =>
    rw [segmentsFrom_of_faulty opened hfault] at h
    cases h
    exact ⟨before, inside, .first opened, hfault⟩
  | named offset source before inside word rest opened named ih =>
    rw [segmentsFrom_of_named opened named] at h
    cases hrest : segmentsFrom template _ rest with
    | ok segments => rw [hrest] at h; cases h
    | error fault' =>
      rw [hrest] at h
      cases h
      obtain ⟨before', inside', mark, hfault⟩ := ih hrest
      refine ⟨_, inside', .later opened named mark, ?_⟩
      rwa [Text.byteLength_append, ← Nat.add_assoc]

end Reading

/-! ### What is read -/

section Lossless
variable {template : String} {offset : Nat} {source cs before after : List Char}

theorem join_plain (value : String → String) (cs : List Char) :
    String.join ((plain cs).map (Segment.filled value)) = String.ofList cs := by
  cases cs with
  | nil => rfl
  | cons c rest => simp [plain, Segment.filled, String.join_cons]

theorem mem_plain {s : String} : .text s ∈ plain cs ↔ s = String.ofList cs ∧ cs ≠ [] := by
  cases cs with
  | nil => simp [plain]
  | cons c rest => simp [plain]

/-- There is no opening before the first one. -/
theorem not_opened_before (h : Text.Leftmost opening source before after) :
    ¬ opening <:+: before := by
  rintro ⟨b, a, rfl⟩
  have hlength := h.least b (a ++ opening ++ after) (by rw [h.split]; simp only [List.append_assoc])
  simp only [List.length_append, opening, List.length_cons] at hlength
  omega

/-- What is read spells the source: nothing is lost, and texts are neither empty nor opened. -/
theorem spelled_of_read {segments : List Segment}
    (h : segmentsFrom template offset source = .ok segments) :
    String.join (segments.map (Segment.filled fun p => "$\x7b" ++ p ++ "\x7d")) =
        String.ofList source ∧
      ∀ s, .text s ∈ segments → s ≠ "" ∧ ¬ opening <:+: s.toList := by
  induction offset, source using reading_induction template generalizing segments with
  | plain offset source hplain =>
    rw [segmentsFrom_of_not_opened hplain] at h
    cases h
    refine ⟨join_plain _ _, fun s hs => ?_⟩
    obtain ⟨rfl, hne⟩ := mem_plain.1 hs
    simpa using ⟨hne, hplain⟩
  | faulty offset source before inside fault opened hfault =>
    rw [segmentsFrom_of_faulty opened hfault] at h
    cases h
  | named offset source before inside word rest opened named ih =>
    rw [segmentsFrom_of_named opened named, map_eq_ok] at h
    obtain ⟨later, hlater, rfl⟩ := h
    obtain ⟨hjoin, htexts⟩ := ih hlater
    constructor
    · rw [List.map_append, List.map_cons, String.join_append, String.join_cons, join_plain, hjoin,
        opened.split, named.closed.split]
      simp only [Segment.filled, opening, closing, String.ofList_append, String.append_assoc]
    · intro s hs
      rcases List.mem_append.1 hs with hs | hs
      · obtain ⟨rfl, hne⟩ := mem_plain.1 hs
        simpa using ⟨hne, not_opened_before opened⟩
      · exact htexts s (by simpa using hs)

end Lossless

/-- A template that is read is called as asked and spells its source. -/
theorem spells_of_parse {name source : String} {t : Template} (h : parse name source = .ok t) :
    t.name = name ∧ t.Spells source := by
  obtain ⟨segments, hread, rfl⟩ := map_eq_ok.1 h
  obtain ⟨hjoin, htexts⟩ := spelled_of_read hread
  rw [String.ofList_toList] at hjoin
  refine ⟨rfl, hjoin, fun bindings hbound => ?_, fun s hs => (htexts s hs).1,
    fun s hs => (htexts s hs).2⟩
  rw [render_eq _ hbound, hjoin]

/-- Reading fails exactly for what is wrong at a mark. -/
theorem parse_eq_error {name source : String} {fault : Fault} :
    parse name source = .error fault ↔ ∃ before inside, Mark source.toList before inside ∧
      Faulty name (String.ofList before).utf8ByteSize inside fault := by
  rw [parse, map_eq_error]
  constructor
  · intro h
    obtain ⟨before, inside, mark, hfault⟩ := exists_mark_of_error h
    exact ⟨before, inside, mark, by rwa [← Text.byteLength_eq, ← Nat.zero_add (Text.byteLength _)]⟩
  · rintro ⟨before, inside, mark, hfault⟩
    rw [← Text.byteLength_eq, ← Nat.zero_add (Text.byteLength _)] at hfault
    exact segmentsFrom_of_mark mark hfault

/-- **What reading a template accepts.** A source is read exactly when all its marks are named, and
the template spells it. What is reported otherwise is wrong at a mark, and a mark that is reported
as unterminated is the first opening with no closing after it. -/
theorem parse_verdict (name source : String) :
    ((∃ t, parse name source = .ok t) ↔
      ∀ before inside, Mark source.toList before inside → ∃ word rest, Named inside word rest) ∧
    (∀ t, parse name source = .ok t → t.name = name ∧ t.Spells source) ∧
    (∀ fault, parse name source = .error fault ↔ ∃ before inside,
      Mark source.toList before inside ∧
        Faulty name (String.ofList before).utf8ByteSize inside fault) ∧
    ∀ template offset, parse name source = .error (.unterminated template offset) →
      ∃ before inside, source.toList = before ++ opening ++ inside ∧ ¬ closing <:+: inside ∧
        offset = (String.ofList before).utf8ByteSize ∧
        ∀ b a, source.toList = b ++ opening ++ a → ¬ closing <:+: a → before.length ≤ b.length := by
  refine ⟨⟨?_, ?_⟩, fun t => spells_of_parse, fun fault => parse_eq_error, ?_⟩
  · rintro ⟨t, ht⟩ before inside mark
    rcases named_or_faulty name (String.ofList before).utf8ByteSize inside with
      hnamed | ⟨fault, hfault⟩
    · exact hnamed
    · rw [parse_eq_error.2 ⟨before, inside, mark, hfault⟩] at ht
      cases ht
  · intro hnamed
    cases hparse : parse name source with
    | ok t => exact ⟨t, rfl⟩
    | error fault =>
      obtain ⟨before, inside, mark, hfault⟩ := parse_eq_error.1 hparse
      obtain ⟨word, rest, named⟩ := hnamed before inside mark
      exact absurd hfault named.not_faulty
  · intro template offset h
    obtain ⟨before, inside, mark, hfault⟩ := parse_eq_error.1 h
    cases hfault with
    | unterminated unclosed =>
      exact ⟨before, inside, mark.split, unclosed, rfl, fun b a hb => mark.least_of_unclosed hb⟩

/-- The name goes up to the first closing, over another opening. -/
example : parse "t" "$$\x7ba$\x7bb\x7d" = .error (.invalidPlaceholder "t" "a$\x7bb") := by
  decide +kernel

end Template
end Bindery
