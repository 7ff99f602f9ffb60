import Bindery.Proofs.Template.Joining
import Bindery.Proofs.Template.Sources

/-! Templates line by line.

No placeholder goes over the end of a line. So a template is filled line by line: when the lines of a
source are filled, their texts are the lines of the text (`filled?_lines`), and what a source begins
with decides what its text begins with (`filled?_line`). -/
namespace Bindery

/-- The value of a name, and nothing where it has none. -/
def Bindings.value (bindings : Bindings) (name : String) : String :=
  (bindings.value? name).getD ""

/-- An identifier does not go over the end of a line. -/
theorem Text.break_not_mem {cs : List Char} (h : isIdentifierChars cs = true) : '\n' ∉ cs := by
  cases cs with
  | nil => cases h
  | cons c rest =>
    rw [isIdentifierChars, Bool.and_eq_true, List.all_eq_true] at h
    intro hmem
    rcases List.mem_cons.1 hmem with rfl | hmem
    · exact absurd h.1 (by decide)
    · exact absurd (h.2 _ hmem) (by decide)

namespace Template

/-! ### Filled sources -/

/-- The text of a source whose placeholders are filled. -/
def filled? (value : String → String) (source : List Char) : Option String :=
  (pieces? source).map fun pieces => String.join (pieces.map (Segment.filled value))

section Filled
variable {value : String → String} {source before inside word rest : List Char}

theorem filled?_of_not_opened (h : ¬ opening <:+: source) :
    filled? value source = some (String.ofList source) := by
  rw [filled?, pieces?_of_not_opened h]
  exact congrArg some (join_plain value source)

theorem filled?_of_named (opened : Text.Leftmost opening source before inside)
    (named : Named inside word rest) : filled? value source =
      (filled? value rest).map (String.ofList before ++ value (String.ofList word) ++ ·) := by
  rw [filled?, filled?, pieces?_of_named opened named, Option.map_map, Option.map_map]
  refine congrArg (Option.map · _) (funext fun pieces => ?_)
  simp only [Function.comp_apply, List.map_append, List.map_cons, String.join_append,
    String.join_cons, join_plain, Segment.filled, String.append_assoc]

theorem filled?_of_unnamed (opened : Text.Leftmost opening source before inside)
    (h : ¬ ∃ word rest, Named inside word rest) : filled? value source = none := by
  rw [filled?, pieces?_of_unnamed opened h]
  rfl

/-- Sources are filled one after the other. -/
theorem filled?_append {a b : List Char} {text : String} (ha : filled? value a = some text)
    (h : Apart a b) : filled? value (a ++ b) = (filled? value b).map (text ++ ·) := by
  obtain ⟨xs, hxs, rfl⟩ := Option.map_eq_some_iff.1 ha
  rw [filled?, filled?, pieces?_append hxs h, Option.map_map, Option.map_map]
  exact congrArg (Option.map · _) (funext fun ys => join_glue value xs ys)

/-- A line that is filled is followed by what the rest is filled to. -/
theorem filled?_line {line : List Char} {text : String} (h : filled? value line = some text)
    (rest : List Char) :
    filled? value (line ++ '\n' :: rest) = (filled? value rest).map (text ++ "\n" ++ ·) := by
  have hbreak : filled? value ('\n' :: rest) = (filled? value rest).map ("\n" ++ ·) :=
    filled?_append (a := ['\n']) (filled?_of_not_opened (by decide)) (.inl (by decide))
  rw [filled?_append h (.inr (by simp)), hbreak, Option.map_map]
  exact congrArg (Option.map · _) (funext fun s => (String.append_assoc ..).symm)

/-- A source that is filled has no line that is not. -/
theorem filled?_line_eq_none {line : List Char} (h : filled? value line = none)
    (rest : List Char) : filled? value (line ++ '\n' :: rest) = none := by
  induction (0 : Nat), line using reading_induction "" with
  | plain _ line hplain =>
    rw [filled?_of_not_opened hplain] at h
    cases h
  | faulty _ line before inside fault opened hfault =>
    refine filled?_of_unnamed (opened.append ('\n' :: rest)) ?_
    rintro ⟨word, later, closed, identifier⟩
    cases hfault with
    | unterminated unclosed =>
      have hsplit := closed.split.trans (List.append_assoc word closing later)
      obtain ⟨more, rfl, hmore⟩ | ⟨more, rfl, hmore⟩ := List.append_eq_append_iff.1 hsplit.symm
      · cases more with
        | nil => cases hmore
        | cons c more =>
          cases hmore
          exact unclosed ⟨word, more, by simp [closing]⟩
      · -- The word goes on over the end of the line.
        cases more with
        | nil => cases hmore
        | cons c more =>
          cases hmore
          exact Text.break_not_mem identifier (by simp)
    | invalidPlaceholder closed' invalid =>
      have hclosed := Text.cut?_eq_some_iff.2 (closed'.append ('\n' :: rest))
      rw [Text.cut?_eq_some_iff.2 closed] at hclosed
      cases hclosed
      rw [identifier] at invalid
      cases invalid
  | named _ line before inside word more opened named ih =>
    rw [filled?_of_named opened named, Option.map_eq_none_iff] at h
    rw [filled?_of_named (opened.append _) (named.append _), ih h]
    rfl

end Filled

/-! ### Evaluation -/

/-- Texts put together from the left. -/
def glued : List String → String
  | [] => ""
  | s :: rest => rest.foldl (· ++ ·) s

/-- A piece of plain text, unless it is empty. -/
def plainTexts (cs : List Char) : List String := if cs.isEmpty then [] else [String.ofList cs]

/-- The placeholders of a source have names, as far as some number of cuts goes. -/
def named : Nat → List Char → Bool
  | 0, _ => false
  | n + 1, source =>
    match Text.cut? opening source with
    | none => true
    | some (_, inside) =>
      match Text.cut? closing inside with
      | none => false
      | some (word, rest) => Text.isIdentifierChars word && named n rest

/-- The texts of a source whose placeholders are filled, as far as some number of cuts goes. -/
def texts? (value : String → String) : Nat → List Char → Option (List String)
  | 0, _ => none
  | n + 1, source =>
    match Text.cut? opening source with
    | none => some (plainTexts source)
    | some (before, inside) =>
      match Text.cut? closing inside with
      | none => none
      | some (word, rest) =>
        (texts? value n rest).map (plainTexts before ++ value (String.ofList word) :: ·)

/-- What a source is filled to, by a computation that unfolds. -/
def fill? (value : String → String) (source : List Char) : Option String :=
  if named (source.length + 1) source then (texts? value (source.length + 1) source).map glued
  else none

theorem glued_eq_join (texts : List String) : glued texts = String.join texts := by
  cases texts with
  | nil => rfl
  | cons s rest =>
    rw [glued, String.join, List.foldl_cons, String.empty_append]

theorem join_plainTexts (cs : List Char) : String.join (plainTexts cs) = String.ofList cs := by
  cases cs with
  | nil => rfl
  | cons c rest => simp [plainTexts]

section Evaluation
variable {value : String → String}

theorem filled?_of_texts? {n : Nat} {source : List Char} {texts : List String}
    (hnamed : named n source = true) (h : texts? value n source = some texts) :
    filled? value source = some (String.join texts) := by
  induction n generalizing source texts with
  | zero => cases h
  | succ n ih =>
    rw [texts?] at h
    rw [named] at hnamed
    cases hopening : Text.cut? opening source with
    | none =>
      rw [hopening] at h
      cases h
      rw [filled?_of_not_opened (Text.cut?_eq_none_iff.1 hopening), join_plainTexts]
    | some pieces =>
      obtain ⟨before, inside⟩ := pieces
      rw [hopening] at h hnamed
      dsimp only at h hnamed
      cases hclosing : Text.cut? closing inside with
      | none =>
        rw [hclosing] at h
        cases h
      | some pieces =>
        obtain ⟨word, rest⟩ := pieces
        rw [hclosing] at h hnamed
        obtain ⟨hword, hrest⟩ := Bool.and_eq_true_iff.1 hnamed
        obtain ⟨texts', htexts, rfl⟩ := Option.map_eq_some_iff.1 h
        rw [filled?_of_named (Text.cut?_eq_some_iff.1 hopening)
          ⟨Text.cut?_eq_some_iff.1 hclosing, hword⟩, ih hrest htexts]
        simp [join_plainTexts, String.append_assoc]

theorem filled?_of_fill? {source : List Char} {text : String}
    (h : fill? value source = some text) : filled? value source = some text := by
  obtain ⟨hnamed, h⟩ := Option.ite_none_right_eq_some.1 h
  obtain ⟨texts, htexts, rfl⟩ := Option.map_eq_some_iff.1 h
  rw [filled?_of_texts? hnamed htexts, glued_eq_join]

section Chars
variable {line text : String} {cs : List Char} (hline : line = String.ofList cs)
include hline

/-- A line by its characters. -/
theorem filled?_chars (htext : fill? value cs = some text) :
    filled? value line.toList = some text := by
  rw [hline, String.toList_ofList]
  exact filled?_of_fill? htext

/-- A line by its characters and the texts of its pieces. -/
theorem filled?_texts {texts : List String} (hnamed : named (cs.length + 1) cs = true)
    (htexts : texts? value (cs.length + 1) cs = some texts) (htext : String.join texts = text) :
    filled? value line.toList = some text := by
  rw [hline, String.toList_ofList, filled?_of_texts? hnamed htexts, htext]

end Chars

end Evaluation

/-! ### Lines -/

section Lines
variable {value : String → String}

/-- Lines, each with the text that it is filled to. -/
abbrev FilledLines (value : String → String) : List String → List String → Prop :=
  List.Forall₂ fun line text => filled? value line.toList = some text

theorem lines_cons {rest : List String} (hrest : rest ≠ []) (line : String) :
    Text.lines (line :: rest) = line ++ "\n" ++ Text.lines rest := by
  cases rest with
  | nil => exact absurd rfl hrest
  | cons line' rest => exact String.intercalate_cons_cons

theorem toList_lines_cons {rest : List String} (hrest : rest ≠ []) (line : String) :
    (Text.lines (line :: rest)).toList = line.toList ++ '\n' :: (Text.lines rest).toList := by
  rw [lines_cons hrest, String.append_assoc, String.toList_append, String.toList_append]
  rfl

/-- Lines before others, each with its break. -/
theorem lines_append (xs : List String) {ys : List String} (hys : ys ≠ []) :
    Text.lines (xs ++ ys) = String.join (xs.map (· ++ "\n")) ++ Text.lines ys := by
  induction xs with
  | nil => simp
  | cons x xs ih =>
    rw [List.cons_append, lines_cons (List.append_ne_nil_of_right_ne_nil xs hys), ih]
    simp [String.append_assoc]

/-- Lines before a line can be taken for a part of it. -/
theorem lines_middle (xs ms : List String) (y : String) (ys : List String) :
    Text.lines (xs ++ ms ++ y :: ys) =
      Text.lines (xs ++ (String.join (ms.map (· ++ "\n")) ++ y) :: ys) := by
  have hline : Text.lines (ms ++ y :: ys) =
      Text.lines ((String.join (ms.map (· ++ "\n")) ++ y) :: ys) := by
    rw [lines_append ms (List.cons_ne_nil y ys)]
    cases ys with
    | nil => simp [Text.lines]
    | cons y' ys =>
      rw [lines_cons (List.cons_ne_nil _ _), lines_cons (List.cons_ne_nil _ _)]
      simp only [String.append_assoc]
  rw [List.append_assoc, lines_append xs (List.append_ne_nil_of_right_ne_nil ms (List.cons_ne_nil _ _)),
    hline, lines_append xs (List.cons_ne_nil _ _)]

theorem exists_lines_before (xs ys : List String) :
    ∃ before, Text.lines (xs ++ ys) = before ++ Text.lines ys := by
  by_cases hys : ys = []
  · subst hys
    exact ⟨Text.lines (xs ++ []), by simp [Text.lines]⟩
  · exact ⟨_, lines_append xs hys⟩

theorem exists_lines_after (xs ys : List String) :
    ∃ after, Text.lines (xs ++ ys) = Text.lines xs ++ after := by
  induction xs with
  | nil => exact ⟨Text.lines ys, by simp [Text.lines]⟩
  | cons x xs ih =>
    obtain ⟨after, hafter⟩ := ih
    by_cases hxs : xs = []
    · subst hxs
      by_cases hys : ys = []
      · exact ⟨"", by simp [hys]⟩
      · exact ⟨"\n" ++ Text.lines ys, by
          rw [List.cons_append, List.nil_append, lines_cons hys, String.append_assoc]
          rfl⟩
    · refine ⟨after, ?_⟩
      rw [List.cons_append, lines_cons (List.append_ne_nil_of_left_ne_nil hxs ys), hafter,
        lines_cons hxs, String.append_assoc, String.append_assoc, String.append_assoc]

/-- Lines that are filled are followed by what the rest is filled to. -/
theorem filled?_lines_append {lines texts rest : List String} (h : FilledLines value lines texts)
    (hrest : rest ≠ []) : filled? value (Text.lines (lines ++ rest)).toList =
      (filled? value (Text.lines rest).toList).map
        fun s => String.join (texts.map (· ++ "\n")) ++ s := by
  induction h with
  | nil => simp
  | @cons line text lines texts hline _ ih =>
    have hne : lines ++ rest ≠ [] := List.append_ne_nil_of_right_ne_nil lines hrest
    rw [List.cons_append, toList_lines_cons hne, filled?_line hline, ih, Option.map_map]
    simp [Function.comp_def, String.join_cons, String.append_assoc]

/-- Lines are filled as their characters are. -/
theorem filledLines_of_spelled {lines texts : List String} {css : List (List Char)}
    (hlines : Text.Spelled lines css)
    (htexts : List.Forall₂ (fun cs text => fill? value cs = some text) css texts) :
    FilledLines value lines texts := by
  induction hlines generalizing texts with
  | nil =>
    cases htexts
    exact .nil
  | cons hline _ ih =>
    cases htexts with
    | cons htext htexts => exact .cons (filled?_chars hline htext) (ih htexts)

/-- Lines are filled one by one. -/
theorem filled?_lines {lines texts : List String} (h : FilledLines value lines texts) :
    filled? value (Text.lines lines).toList = some (Text.lines texts) := by
  induction h with
  | nil => exact filled?_of_not_opened (by decide)
  | @cons line text lines texts hline hlines ih =>
    cases hlines with
    | nil => exact hline
    | cons hline' hlines =>
      rw [toList_lines_cons (List.cons_ne_nil _ _), lines_cons (List.cons_ne_nil _ _),
        filled?_line hline, ih, Option.map_some]

/-- Where lines are filled, each line is. -/
theorem exists_filledLines {lines : List String} (hne : lines ≠ []) {s : String}
    (h : filled? value (Text.lines lines).toList = some s) :
    ∃ texts, FilledLines value lines texts ∧ s = Text.lines texts := by
  induction lines generalizing s with
  | nil => exact absurd rfl hne
  | cons line rest ih =>
    cases rest with
    | nil => exact ⟨[s], .cons h .nil, rfl⟩
    | cons line' rest =>
      rw [toList_lines_cons (List.cons_ne_nil _ _)] at h
      cases hline : filled? value line.toList with
      | none =>
        rw [filled?_line_eq_none hline] at h
        cases h
      | some text =>
        rw [filled?_line hline] at h
        obtain ⟨s', hs', rfl⟩ := Option.map_eq_some_iff.1 h
        obtain ⟨texts, htexts, rfl⟩ := ih (List.cons_ne_nil _ _) hs'
        refine ⟨text :: texts, .cons hline htexts, ?_⟩
        cases htexts with
        | cons _ _ => rw [lines_cons (List.cons_ne_nil _ _)]

theorem FilledLines.unique {lines texts texts' : List String} (h : FilledLines value lines texts)
    (h' : FilledLines value lines texts') : texts = texts' := by
  induction h generalizing texts' with
  | nil =>
    cases h'
    rfl
  | cons hline _ ih =>
    cases h' with
    | cons hline' hlines' => rw [Option.some.inj (hline.symm.trans hline'), ih hlines']

/-- Lines that follow each other are filled to lines that follow each other. -/
theorem exists_around {lines part : List String} {s : String} (n k : Nat)
    (h : filled? value (Text.lines lines).toList = some s)
    (hpart : FilledLines value ((lines.drop n).take k) part) :
    ∃ before after, s = before ++ Text.lines part ++ after := by
  by_cases hne : lines = []
  · subst hne
    rw [List.drop_nil, List.take_nil] at hpart
    cases hpart
    exact ⟨s, "", by simp [Text.lines]⟩
  · obtain ⟨texts, htexts, rfl⟩ := exists_filledLines hne h
    obtain rfl := hpart.unique (List.forall₂_take k (List.forall₂_drop n htexts))
    obtain ⟨before, hbefore⟩ := exists_lines_before (texts.take n) (texts.drop n)
    obtain ⟨after, hafter⟩ := exists_lines_after ((texts.drop n).take k) ((texts.drop n).drop k)
    refine ⟨before, after, ?_⟩
    rw [String.append_assoc, ← hafter, List.take_append_drop, ← hbefore, List.take_append_drop]

end Lines

/-! ### Rendering -/

/-- A template is rendered to what its source is filled to. -/
theorem filled?_of_render {name source s : String} {t : Template} {bindings : Bindings}
    (hparse : parse name source = .ok t) (hrender : t.render bindings = .ok s) :
    filled? bindings.value source.toList = some s := by
  obtain ⟨pieces, hread, rfl⟩ := map_eq_ok.1 hparse
  rw [eq_of_render hrender, filled?, ← toOption_segmentsFrom name 0, hread]
  rfl

end Template
end Bindery
