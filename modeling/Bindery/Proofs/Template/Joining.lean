import Bindery.Proofs.Template.Reading

/-! Sources put together.

Two sources are put together without harm when no opening begins in the first and goes on in the second
(`Apart`). The pieces of the whole are then those of both, with the texts at the seam made one
(`pieces?_append`), and it is rendered to what the first is rendered to, followed by what the second is
(`render_glue`). -/
namespace Bindery

/-- What comes after a cut does not move it. -/
theorem Text.cut?_append {needle hay before after : List Char}
    (h : cut? needle hay = some (before, after)) (more : List Char) :
    cut? needle (hay ++ more) = some (before, after ++ more) := by
  induction hay generalizing before with
  | nil =>
    have hsplit := cut?_eq_some h
    rw [eq_comm, List.append_eq_nil_iff, List.append_eq_nil_iff] at hsplit
    obtain ⟨⟨rfl, rfl⟩, rfl⟩ := hsplit
    unfold cut?
    simp
  | cons c rest ih =>
    unfold cut? at h
    split at h
    · next hp =>
      have hbegins := List.isPrefixOf_iff_prefix.1 hp
      cases h
      unfold cut?
      rw [if_pos (List.isPrefixOf_iff_prefix.2 (hbegins.trans (List.prefix_append _ more))),
        List.drop_append_of_le_length hbegins.length_le]
    · next hp =>
      obtain ⟨⟨before', after'⟩, hcut, heq⟩ := Option.map_eq_some_iff.1 h
      cases heq
      have hlength := length_cut? hcut
      have hp' : ¬ needle.isPrefixOf ((c :: rest) ++ more) = true := by
        rw [List.isPrefixOf_iff_prefix] at hp ⊢
        refine fun hbegins => hp (List.prefix_of_prefix_length_le hbegins (List.prefix_append _ _) ?_)
        rw [List.length_cons]
        omega
      unfold cut?
      rw [if_neg hp', List.cons_append]
      simp only [ih hcut, Option.map_some]

theorem Text.Leftmost.append {needle hay before after : List Char}
    (h : Leftmost needle hay before after) (more : List Char) :
    Leftmost needle (hay ++ more) before (after ++ more) :=
  cut?_eq_some_iff.1 (cut?_append (cut?_eq_some_iff.2 h) more)

namespace Template

/-- What comes after a name does not change it. -/
theorem Named.append {inside word after : List Char} (h : Named inside word after)
    (more : List Char) : Named (inside ++ more) word (after ++ more) :=
  ⟨h.closed.append more, h.identifier⟩

/-! ### Seams -/

/-- No opening begins at the end of a text and goes on in the next. -/
def Apart (a b : List Char) : Prop := a.getLast? ≠ some '$' ∨ b.head? ≠ some '\x7b'

section Apart
variable {a b : List Char}

/-- Only the end of a text matters. -/
theorem Apart.of_append (before : List Char) (h : Apart (before ++ a) b) : Apart a b := by
  cases a with
  | nil => exact .inl nofun
  | cons c rest =>
    rwa [Apart, List.getLast?_append_of_ne_nil _ (List.cons_ne_nil c rest)] at h

/-- A text without an opening is passed over. -/
theorem cut?_apart (ha : ¬ opening <:+: a) (h : Apart a b) :
    Text.cut? opening (a ++ b) = (Text.cut? opening b).map fun cut => (a ++ cut.1, cut.2) := by
  induction a with
  | nil => simp
  | cons c rest ih =>
    have hrest : ¬ opening <:+: rest := fun hwithin =>
      ha (hwithin.trans (List.suffix_cons c rest).isInfix)
    have hc : opening.isPrefixOf (c :: (rest ++ b)) = false := by
      rw [← Bool.not_eq_true, List.isPrefixOf_iff_prefix, opening, List.cons_prefix_cons]
      rintro ⟨rfl, hbegins⟩
      cases rest with
      | nil =>
        -- The opening would begin in one text and go on in the other.
        cases b with
        | nil => simp at hbegins
        | cons d b =>
          obtain ⟨rfl, -⟩ := List.cons_prefix_cons.1 hbegins
          simp [Apart] at h
      | cons d rest =>
        obtain ⟨rfl, -⟩ := List.cons_prefix_cons.1 hbegins
        exact ha (List.prefix_append opening rest).isInfix
    rw [List.cons_append, Text.cut?, hc, ih hrest (h.of_append [c])]
    simp [Option.map_map, Function.comp_def]

end Apart

/-! ### Pieces -/

/-- The pieces of a source, if it is read. -/
def pieces? (source : List Char) : Option (List Segment) := (segmentsFrom "" 0 source).toOption

/-- Pieces are the same wherever they are read. -/
theorem toOption_segmentsFrom (template : String) (offset : Nat) (source : List Char) :
    (segmentsFrom template offset source).toOption = pieces? source := by
  suffices h : ∀ offset', (segmentsFrom template offset source).toOption =
      (segmentsFrom "" offset' source).toOption from h 0
  induction offset, source using reading_induction template with
  | plain offset source hplain =>
    intro offset'
    rw [segmentsFrom_of_not_opened hplain, segmentsFrom_of_not_opened hplain]
  | faulty offset source before inside fault opened hfault =>
    intro offset'
    rw [segmentsFrom_of_faulty opened hfault]
    cases hfault with
    | unterminated unclosed =>
      rw [segmentsFrom_of_faulty opened (.unterminated unclosed)]
      rfl
    | invalidPlaceholder closed invalid =>
      rw [segmentsFrom_of_faulty opened (.invalidPlaceholder closed invalid)]
      rfl
  | named offset source before inside word rest opened named ih =>
    intro offset'
    rw [segmentsFrom_of_named opened named, segmentsFrom_of_named opened named, toOption_map,
      toOption_map, ih]

/-- A source is read under any name when it has pieces. -/
theorem parse_eq_ok {name source : String} {t : Template} :
    parse name source = .ok t ↔ t.name = name ∧ pieces? source.toList = some t.segments := by
  rw [parse, ← toOption_segmentsFrom name 0, map_eq_ok]
  constructor
  · rintro ⟨segments, hread, rfl⟩
    exact ⟨rfl, by rw [hread]; rfl⟩
  · rintro ⟨rfl, hread⟩
    exact ⟨t.segments, eq_ok_of_toOption hread, rfl⟩

section Pieces
variable {source before inside word rest : List Char}

theorem pieces?_of_not_opened (h : ¬ opening <:+: source) : pieces? source = some (plain source) := by
  rw [pieces?, segmentsFrom_of_not_opened h]
  rfl

theorem pieces?_of_named (opened : Text.Leftmost opening source before inside)
    (named : Named inside word rest) : pieces? source =
      (pieces? rest).map (plain before ++ .placeholder (String.ofList word) :: ·) := by
  rw [pieces?, segmentsFrom_of_named opened named, toOption_map, toOption_segmentsFrom]

theorem pieces?_of_unnamed (opened : Text.Leftmost opening source before inside)
    (h : ¬ ∃ word rest, Named inside word rest) : pieces? source = none := by
  obtain ⟨fault, hfault⟩ :=
    (named_or_faulty "" (0 + Text.byteLength before) inside).resolve_left h
  rw [pieces?, segmentsFrom_of_faulty opened hfault]
  rfl

end Pieces

/-- Pieces followed by others, with texts that come together made one. -/
def glue : List Segment → List Segment → List Segment
  | [.text s], .text s' :: ys => .text (s ++ s') :: ys
  | [], ys => ys
  | x :: xs, ys => x :: glue xs ys

theorem glue_placeholder (us xs ys : List Segment) (p : String) :
    glue (us ++ .placeholder p :: xs) ys = us ++ .placeholder p :: glue xs ys := by
  induction us with
  | nil => rfl
  | cons u us ih =>
    rw [List.cons_append, List.cons_append, ← ih]
    cases u <;> cases us <;> rfl

theorem glue_plain (a b : List Char) : glue (plain a) (plain b) = plain (a ++ b) := by
  cases a <;> cases b <;> simp [plain, glue, String.ofList_append, String.append_assoc]

theorem glue_plain_placeholder (a b : List Char) (p : String) (ys : List Segment) :
    glue (plain a) (plain b ++ .placeholder p :: ys) = plain (a ++ b) ++ .placeholder p :: ys := by
  cases a <;> cases b <;> simp [plain, glue, String.ofList_append, String.append_assoc]

/-- Sources are read one after the other. -/
theorem pieces?_append {a b : List Char} {xs : List Segment} (ha : pieces? a = some xs)
    (h : Apart a b) : pieces? (a ++ b) = (pieces? b).map (glue xs) := by
  induction (0 : Nat), a using reading_induction "" generalizing xs with
  | plain _ a hplain =>
    rw [pieces?_of_not_opened hplain] at ha
    cases ha
    have hcut := cut?_apart hplain h
    cases hb : Text.cut? opening b with
    | none =>
      rw [hb] at hcut
      rw [pieces?_of_not_opened (Text.cut?_eq_none_iff.1 hcut),
        pieces?_of_not_opened (Text.cut?_eq_none_iff.1 hb), Option.map_some, glue_plain]
    | some cut =>
      rw [hb] at hcut
      have hopened := Text.cut?_eq_some_iff.1 hb
      have hopened' := Text.cut?_eq_some_iff.1 hcut
      by_cases hnamed : ∃ word later, Named cut.2 word later
      · obtain ⟨word, later, hnamed⟩ := hnamed
        rw [pieces?_of_named hopened hnamed, pieces?_of_named hopened' hnamed, Option.map_map]
        exact congrArg (Option.map · _) (funext fun ys => (glue_plain_placeholder ..).symm)
      · rw [pieces?_of_unnamed hopened hnamed, pieces?_of_unnamed hopened' hnamed]
        rfl
  | faulty _ a before inside fault opened hfault =>
    rw [pieces?_of_unnamed opened fun ⟨_, _, named⟩ => named.not_faulty hfault] at ha
    cases ha
  | named _ a before inside word rest opened named ih =>
    rw [pieces?_of_named opened named] at ha
    obtain ⟨later, hlater, rfl⟩ := Option.map_eq_some_iff.1 ha
    have hrest : Apart rest b := by
      rw [opened.split, named.closed.split, ← List.append_assoc] at h
      exact h.of_append _
    rw [pieces?_of_named (opened.append b) (named.append b), ih hlater hrest, Option.map_map]
    exact congrArg (Option.map · _) (funext fun ys => (glue_placeholder ..).symm)

/-! ### What they give -/

/-- Filled pieces that are put together give their texts one after the other. -/
theorem join_glue (value : String → String) (xs ys : List Segment) :
    String.join ((glue xs ys).map (Segment.filled value)) =
      String.join (xs.map (Segment.filled value)) ++ String.join (ys.map (Segment.filled value)) := by
  fun_induction glue xs ys with
  | case1 s s' ys => simp [Segment.filled, String.join_cons, String.append_assoc]
  | case2 ys => simp
  | case3 x xs ys _ ih => simp [String.join_cons, ih, String.append_assoc]

/-- A text before two is a text before the first. -/
theorem map_append_both (s : String) (a b : Except Fault String) :
    Except.map (s ++ ·) (do return (← a) ++ (← b)) = (do return (← a.map (s ++ ·)) ++ (← b)) := by
  cases a with
  | error fault => rfl
  | ok text =>
    cases b with
    | error fault => rfl
    | ok text' => exact congrArg Except.ok (String.append_assoc ..).symm

/-- Pieces that are put together are rendered one after the other. -/
theorem render_glue (name : String) (xs ys : List Segment) (bindings : Bindings) :
    Template.render ⟨name, glue xs ys⟩ bindings = (do
      return (← Template.render ⟨name, xs⟩ bindings) ++ (← Template.render ⟨name, ys⟩ bindings)) := by
  fun_induction glue xs ys with
  | case1 s s' ys =>
    rw [render_text, render_text, render_text, render_nil]
    cases Template.render ⟨name, ys⟩ bindings with
    | error fault => rfl
    | ok text => simp [Except.map, bind, Except.bind, pure, Except.pure, String.append_assoc]
  | case2 ys =>
    rw [render_nil]
    cases Template.render ⟨name, ys⟩ bindings with
    | error fault => rfl
    | ok text => exact congrArg Except.ok String.empty_append.symm
  | case3 x xs ys _ ih =>
    cases x with
    | text s => rw [render_text, render_text, ih, map_append_both]
    | placeholder p =>
      rw [render_placeholder, render_placeholder, ih]
      cases bindings.value? p with
      | none => rfl
      | some value => exact map_append_both ..

end Template
end Bindery
