import Bindery.Proofs.Template.Joining

/-! What rendering puts in place of placeholders.

A source is texts with placeholders between them. Rendering puts the value of each placeholder in its
place, whatever the value holds, and leaves the texts as they are. It fails exactly when a placeholder
is not bound, and names the first (`render_substitutes`). Nothing in a value is read again: what a
template is rendered to is known from its source and the values alone. -/
namespace Bindery.Template

/-- Texts, each followed by the value of a name, and a text after the last. -/
def substituted (value : String → String) (places : List (String × String)) (tail : String) :
    String :=
  String.join (places.map fun place => place.1 ++ value place.2) ++ tail

/-- The placeholders of a source, each with the text before it, and the text after the last. -/
structure Laid (source : String) (places : List (String × String)) (tail : String) : Prop where
  written : substituted (fun p => "$\x7b" ++ p ++ "\x7d") places tail = source
  identifiers : ∀ place ∈ places, Text.isIdentifier place.2 = true
  /-- Every opening is that of a placeholder. -/
  texts : ∀ place ∈ places, ¬ opening <:+: place.1.toList
  tail : ¬ opening <:+: tail.toList

/-- Pieces that are texts, each followed by a placeholder, and a text after the last. -/
structure Spread (segments : List Segment) (places : List (String × String)) (tail : String) :
    Prop where
  placeholders : placeholders ⟨"", segments⟩ = places.map Prod.snd
  filled : ∀ value, String.join (segments.map (Segment.filled value)) =
    substituted value places tail

theorem placeholders_plain (cs : List Char) (p : String) (rest : List Segment) :
    placeholders ⟨"", plain cs ++ .placeholder p :: rest⟩ = p :: placeholders ⟨"", rest⟩ := by
  cases cs <;> rfl

theorem spread_plain (cs : List Char) : Spread (plain cs) [] (String.ofList cs) where
  placeholders := by cases cs <;> rfl
  filled value := by
    rw [join_plain, substituted, List.map_nil, String.join_nil, String.empty_append]

theorem Spread.cons {rest : List Segment} {places : List (String × String)} {tail : String}
    (h : Spread rest places tail) (cs : List Char) (p : String) :
    Spread (plain cs ++ .placeholder p :: rest) ((String.ofList cs, p) :: places) tail where
  placeholders := by rw [placeholders_plain, h.placeholders, List.map_cons]
  filled value := by
    rw [List.map_append, List.map_cons, String.join_append, String.join_cons, join_plain, h.filled]
    simp only [Segment.filled, substituted, List.map_cons, String.join_cons, String.append_assoc]

/-- A source that is read is laid out as its pieces are. -/
theorem exists_laid {source : List Char} {segments : List Segment}
    (h : pieces? source = some segments) :
    ∃ places tail, Laid (String.ofList source) places tail ∧ Spread segments places tail := by
  induction (0 : Nat), source using reading_induction "" generalizing segments with
  | plain _ source hplain =>
    rw [pieces?_of_not_opened hplain] at h
    cases h
    have hspread := spread_plain source
    refine ⟨[], String.ofList source, ?_, hspread⟩
    exact ⟨(hspread.filled _).symm.trans (join_plain _ source), List.forall_mem_nil _,
      List.forall_mem_nil _, by rwa [String.toList_ofList]⟩
  | faulty _ source before inside fault opened hfault =>
    rw [pieces?_of_unnamed opened fun ⟨_, _, named⟩ => named.not_faulty hfault] at h
    cases h
  | named _ source before inside word rest opened named ih =>
    rw [pieces?_of_named opened named] at h
    obtain ⟨later, hlater, rfl⟩ := Option.map_eq_some_iff.1 h
    obtain ⟨places, tail, hlaid, hspread⟩ := ih hlater
    refine ⟨(String.ofList before, String.ofList word) :: places, tail, ?_, hspread.cons _ _⟩
    refine ⟨?_, List.forall_mem_cons.2 ⟨?_, hlaid.identifiers⟩,
      List.forall_mem_cons.2 ⟨?_, hlaid.texts⟩, hlaid.tail⟩
    · have hrest := hlaid.written
      rw [opened.split, named.closed.split]
      simp only [substituted, List.map_cons, String.join_cons, String.append_assoc] at hrest ⊢
      simp only [hrest, String.ofList_append, String.append_assoc, opening, closing]
    · rw [Text.isIdentifier, String.toList_ofList]
      exact named.identifier
    · rw [String.toList_ofList]
      exact not_opened_before opened

/-- A source that is read gives, with another, a source that is read, and they are rendered one after
the other. -/
theorem exists_joined {name name' source source' : String} {t t' : Template}
    (ht : parse name source = .ok t) (ht' : parse name' source' = .ok t')
    (hapart : Apart source.toList source'.toList) (joined : String) :
    ∃ u, parse joined (source ++ source') = .ok u ∧ ∀ bindings, u.render bindings = (do
      return (← { t with name := joined }.render bindings)
        ++ (← { t' with name := joined }.render bindings)) := by
  obtain ⟨-, hpieces⟩ := parse_eq_ok.1 ht
  obtain ⟨-, hpieces'⟩ := parse_eq_ok.1 ht'
  refine ⟨⟨joined, glue t.segments t'.segments⟩, parse_eq_ok.2 ⟨rfl, ?_⟩,
    fun bindings => render_glue joined t.segments t'.segments bindings⟩
  rw [String.toList_append, pieces?_append hpieces hapart, hpieces', Option.map_some]

/-- **Rendering is substitution.** The source of a template is texts with placeholders between them.
With all placeholders bound, the template is rendered to the same texts with the values that the names
are set to last between them; otherwise it is not rendered, and the first placeholder that is not bound
is what is reported. Only what the placeholders are set to matters. And sources that are put together
without making an opening at the seam are rendered one after the other. -/
theorem render_substitutes {name source : String} {t : Template} (h : parse name source = .ok t) :
    (∃ places tail, Laid source places tail ∧ t.placeholders = places.map Prod.snd ∧
      ∀ (bindings : Bindings) (value : String → String),
        (∀ p ∈ t.placeholders, bindings.Sets p (value p)) →
          t.render bindings = .ok (substituted value places tail)) ∧
    (∀ bindings : Bindings, (∃ s, t.render bindings = .ok s) ↔
      ∀ p ∈ t.placeholders, p ∈ bindings.map Prod.fst) ∧
    (∀ (bindings : Bindings) (fault : Fault), t.render bindings = .error fault ↔
      ∃ before p after, t.placeholders = before ++ p :: after ∧
        (∀ q ∈ before, q ∈ bindings.map Prod.fst) ∧ p ∉ bindings.map Prod.fst ∧
        fault = .unknownPlaceholder name p) ∧
    (∀ bindings bindings' : Bindings,
      (∀ p ∈ t.placeholders, ∀ value, bindings.Sets p value ↔ bindings'.Sets p value) →
        t.render bindings = t.render bindings') ∧
    ∀ name' source' t', parse name' source' = .ok t' → Apart source.toList source'.toList →
      ∀ joined, ∃ u, parse joined (source ++ source') = .ok u ∧ ∀ bindings, u.render bindings = (do
        return (← { t with name := joined }.render bindings)
          ++ (← { t' with name := joined }.render bindings)) := by
  obtain ⟨hname, hpieces⟩ := parse_eq_ok.1 h
  refine ⟨?_, fun bindings => exists_render_iff, fun bindings fault => ?_, fun _ _ hagree => ?_,
    fun _ _ _ ht' hapart => exists_joined h ht' hapart⟩
  · obtain ⟨places, tail, hlaid, hspread⟩ := exists_laid hpieces
    rw [String.ofList_toList] at hlaid
    refine ⟨places, tail, hlaid, hspread.placeholders, fun bindings value hsets => ?_⟩
    rw [render_eq value fun p hp => Bindings.value?_eq_some.2 (hsets p hp), hspread.filled]
  · rw [render_eq_error, hname]
  · refine render_congr fun p hp => Option.ext fun value => ?_
    rw [Bindings.value?_eq_some, Bindings.value?_eq_some]
    exact hagree p hp value

/-- A template of a source that ends with the sign of an opening. -/
def bracketed : Template :=
  ⟨"t", [.text "<", .placeholder "a", .text "|", .placeholder "b", .text ">$"]⟩

/-- The value of one name is the placeholder of another, and it stays. -/
theorem render_bracketed :
    parse "t" "<$\x7ba\x7d|$\x7bb\x7d>$" = .ok bracketed ∧
      bracketed.render [("b", "2")] = .error (.unknownPlaceholder "t" "a") ∧
      ∃ u, parse "u" ("<$\x7ba\x7d|$\x7bb\x7d>$" ++ "$\x7ba\x7d") = .ok u ∧
        u.render [("a", "1"), ("b", "2"), ("a", "$\x7bb\x7d")] =
          .ok "<$\x7bb\x7d|2>$$\x7bb\x7d" := by
  have hparse : parse "t" "<$\x7ba\x7d|$\x7bb\x7d>$" = .ok bracketed := by decide +kernel
  have hparse' : parse "a" "$\x7ba\x7d" = .ok ⟨"a", [.placeholder "a"]⟩ := by decide +kernel
  obtain ⟨-, -, hfails, -, hjoined⟩ := render_substitutes hparse
  obtain ⟨u, hu, hrender⟩ := hjoined "a" "$\x7ba\x7d" _ hparse' (.inr (by decide)) "u"
  refine ⟨hparse, (hfails _ _).2 ⟨[], "a", ["b"], rfl, List.forall_mem_nil _, by decide, rfl⟩, u, hu, ?_⟩
  rw [hrender]
  decide +kernel

end Bindery.Template
