import Bindery.Proofs.Template.Reading
import Bindery.Template.Set
import Mathlib.Data.List.Forall2
import Mathlib.Data.List.Nodup

/-! Tables of template sources.

A table says, source by source, which names a template may speak of. When the sources keep to it,
they are all read, and every template is found under its name (`Set.exists_ofSources`).

Sources are written as lines of text, and reading works on characters. `Text.Spelled` goes from one
to the other line by line, so that tables are checked without decoding whole texts. -/
namespace Bindery

/-- Texts, each with its characters. -/
abbrev Text.Spelled : List String → List (List Char) → Prop :=
  List.Forall₂ fun s cs => s = String.ofList cs

namespace Text.Spelled
variable {ls ls' : List String} {css css' : List (List Char)}

theorem eq_map (h : Spelled ls css) : ls = css.map String.ofList := by
  induction h with
  | nil => rfl
  | cons hline _ ih => rw [List.map_cons, hline, ih]

theorem nodup (h : Spelled ls css) (hcss : css.Nodup) : ls.Nodup := by
  rw [h.eq_map]
  exact hcss.map fun _ _ => String.ofList_injective

theorem subset (h : Spelled ls css) (h' : Spelled ls' css') (hcss : css ⊆ css') : ls ⊆ ls' := by
  rw [h.eq_map, h'.eq_map]
  exact List.map_subset _ hcss

theorem toList_lines (h : Spelled ls css) : (lines ls).toList = ['\n'].intercalate css := by
  have hchars : css.map (String.toList ∘ String.ofList) = css :=
    List.map_id'' (fun _ => String.toList_ofList) css
  rw [lines, String.toList_intercalate, h.eq_map, List.map_map, hchars]
  rfl

/-- What is to be checked of each of some named sources is checked on their characters. -/
theorem all_sources (test : String → List Char → Bool) {sources : List (String × String)}
    (h : Spelled (sources.map Prod.snd) css)
    (htest : (List.zipWith (fun source cs => test source.1 cs) sources css).all id = true) :
    ∀ source ∈ sources, test source.1 source.2.toList = true := by
  induction sources generalizing css with
  | nil => exact List.forall_mem_nil _
  | cons source rest ih =>
    obtain ⟨cs, css, hsource, hrest, rfl⟩ := List.forall₂_cons_left_iff.1 h
    rw [List.zipWith_cons_cons, List.all_cons, Bool.and_eq_true] at htest
    refine List.forall_mem_cons.2 ⟨?_, ih hrest htest.2⟩
    rw [hsource, String.toList_ofList]
    exact htest.1

end Text.Spelled

namespace Template

/-- A source is read, and its template speaks of some names only. -/
def Speaks (words : List String) (name source : String) : Prop :=
  ∃ t, parse name source = .ok t ∧ t.placeholders ⊆ words

/-- The characters of a source are read, and its template speaks of some names only. -/
def speaksOf (words : List String) (name : String) (cs : List Char) : Bool :=
  (segmentsFrom name 0 cs).toOption.any fun segments =>
    decide (placeholders { name, segments } ⊆ words)

section Speaks
variable {words : List String} {name source : String}

theorem speaks_iff : Speaks words name source ↔ speaksOf words name source.toList = true := by
  rw [Speaks, speaksOf, parse]
  cases segmentsFrom name 0 source.toList with
  | error fault => simp [Except.map, Except.toOption]
  | ok segments => simp [Except.map, Except.toOption]

theorem speaks_lines {ls : List String} {css : List (List Char)} (hls : Text.Spelled ls css)
    (h : speaksOf words name (['\n'].intercalate css) = true) :
    Speaks words name (Text.lines ls) := by
  rwa [speaks_iff, hls.toList_lines]

/-- A text in lines is read as its characters are. -/
theorem parse_lines {ls : List String} {css : List (List Char)} (hls : Text.Spelled ls css)
    {segments : List Segment}
    (h : (segmentsFrom name 0 (['\n'].intercalate css)).toOption = some segments) :
    parse name (Text.lines ls) = .ok ⟨name, segments⟩ := by
  rw [parse, hls.toList_lines]
  cases hread : segmentsFrom name 0 (['\n'].intercalate css) with
  | error fault =>
    rw [hread] at h
    cases h
  | ok segments' =>
    rw [hread] at h
    cases h
    rfl

end Speaks

/-- A named source keeps to an entry of a table: it has its name, and speaks of its names only. -/
structure Keeps (source : String × String) (entry : String × List String) : Prop where
  name : source.1 = entry.1
  speaks : Speaks entry.2 source.1 source.2

/-- Sources that keep to a table are read one by one, and give a template for each entry. -/
theorem exists_parsed {sources : List (String × String)} {table : List (String × List String)}
    (h : List.Forall₂ Keeps sources table) :
    ∃ ts, List.Forall₂ (fun source t => parse source.1 source.2 = .ok t) sources ts ∧
      ts.map Template.name = table.map Prod.fst ∧
      ∀ entry ∈ table, ∃ t ∈ ts, t.name = entry.1 ∧ t.placeholders ⊆ entry.2 := by
  induction h with
  | nil => exact ⟨[], .nil, rfl, nofun⟩
  | @cons source entry sources table hkeeps _ ih =>
    obtain ⟨ts, hts, hnames, hwords⟩ := ih
    obtain ⟨t, hparse, hcovered⟩ := hkeeps.speaks
    have hname : t.name = entry.1 := (spells_of_parse hparse).1.trans hkeeps.name
    refine ⟨t :: ts, .cons hparse hts, by rw [List.map_cons, List.map_cons, hname, hnames], ?_⟩
    intro entry' hentry'
    rcases List.mem_cons.1 hentry' with rfl | hentry'
    · exact ⟨t, List.mem_cons_self, hname, hcovered⟩
    · obtain ⟨t', ht', hkept⟩ := hwords entry' hentry'
      exact ⟨t', List.mem_cons_of_mem _ ht', hkept⟩

namespace Set
variable {set : Set} {sources : List (String × String)} {ts : List Template}

theorem get_of_mem (hdistinct : set.names.Nodup) {t : Template} (ht : t ∈ set.templates) :
    set.get t.name = .ok t := by
  obtain ⟨templates⟩ := set
  induction templates with
  | nil => cases ht
  | cons u rest ih =>
    rw [names, List.map_cons, List.nodup_cons] at hdistinct
    rcases List.mem_cons.1 ht with rfl | ht
    · simp [get]
    · have hne : u.name ≠ t.name := fun heq => hdistinct.1 (heq ▸ List.mem_map_of_mem ht)
      have hrest := ih hdistinct.2 ht
      simpa [get, hne] using hrest

/-- Templates with new names are put at the end. -/
theorem foldlM_insert (h : List.Forall₂ (fun source t => parse source.1 source.2 = .ok t) sources ts)
    (hdistinct : (set.names ++ ts.map Template.name).Nodup) :
    sources.foldlM (fun set source => set.insert source.1 source.2) set =
      .ok ⟨set.templates ++ ts⟩ := by
  induction h generalizing set with
  | nil => rw [List.append_nil]; rfl
  | @cons source t sources ts hparse _ ih =>
    have hname : t.name = source.1 := (spells_of_parse hparse).1
    have hnew : set.contains t.name = false := by
      rw [← Bool.not_eq_true, contains_iff]
      intro hmem
      exact (List.disjoint_of_nodup_append hdistinct) hmem List.mem_cons_self
    have hput : set.insert source.1 source.2 = .ok ⟨set.templates ++ [t]⟩ := by
      rw [insert, hparse]
      show Except.ok (set.put t) = _
      rw [put, hnew]
      rfl
    rw [List.foldlM_cons, hput]
    refine (ih ?_).trans ?_
    · simpa [names] using hdistinct
    · rw [List.append_assoc]
      rfl

/-- Sources that keep to a table without repeats are collected, and each template is found. -/
theorem exists_ofSources {table : List (String × List String)}
    (h : List.Forall₂ Keeps sources table) (hdistinct : (table.map Prod.fst).Nodup) :
    ∃ set, ofSources sources = .ok set ∧
      ∀ entry ∈ table, ∃ t, set.get entry.1 = .ok t ∧ t.placeholders ⊆ entry.2 := by
  obtain ⟨ts, hts, hnames, hwords⟩ := exists_parsed h
  rw [← hnames] at hdistinct
  refine ⟨⟨ts⟩, foldlM_insert hts hdistinct, fun entry hentry => ?_⟩
  obtain ⟨t, ht, hname, hcovered⟩ := hwords entry hentry
  exact ⟨t, hname ▸ get_of_mem hdistinct ht, hcovered⟩

/-- Each source that is collected is found as it is read. -/
theorem get_ofSources {table : List (String × List String)} (h : List.Forall₂ Keeps sources table)
    (hdistinct : (table.map Prod.fst).Nodup) (hset : ofSources sources = .ok set)
    {source : String × String} (hsource : source ∈ sources) :
    set.get source.1 = parse source.1 source.2 := by
  obtain ⟨ts, hts, hnames, -⟩ := exists_parsed h
  rw [← hnames] at hdistinct
  have hall : ofSources sources = .ok ⟨ts⟩ := foldlM_insert hts hdistinct
  obtain rfl : ⟨ts⟩ = set := Except.ok.inj (hall.symm.trans hset)
  obtain ⟨t, ht, hparse⟩ := exists_of_mem_right hts.flip hsource
  rw [hparse, ← (spells_of_parse hparse).1]
  exact get_of_mem hdistinct ht

end Set
end Template
end Bindery
