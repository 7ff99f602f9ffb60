import Bindery.Config.Read
import Bindery.Proofs.Loading.Check
import Bindery.Proofs.Loading.Places
import Bindery.Proofs.Loading.WellFormed

/-! Configurations are accepted exactly when their names are usable.

What is wrong with a configuration is one list, in the order in which the names are looked at
(`Config.violations`); it is empty exactly where the configuration is well formed. Loading ends with
the first entry, if there is one, and labels the place where the source first has the name in double
quotes (`Config.parse_wellFormed_iff`). -/
namespace Bindery

/-! ### Texts in double quotes -/

namespace Text

/-- A cut is made where the bytes of a source are first those of a text. -/
theorem map_cut?_eq_some_iff {source text : String} {start : Nat} (hne : text ≠ "") :
    (cut? text.toList source.toList).map (fun c => byteLength c.1) = some start ↔
      StandsAt source text start ∧ ∀ other, StandsAt source text other → start ≤ other := by
  have hstands {start : Nat} : StandsAt source text start ↔ ∃ before after,
      source.toList = before ++ text.toList ++ after ∧ byteLength before = start := by
    rw [standsAt_iff hne]
    constructor
    · rintro ⟨before, after, rfl, rfl⟩
      exact ⟨before.toList, after.toList, by simp, byteLength_toList before⟩
    · rintro ⟨before, after, hsource, rfl⟩
      refine ⟨String.ofList before, String.ofList after, ?_, (byteLength_eq before).symm⟩
      rw [← String.toList_inj, hsource]
      simp
  simp only [Option.map_eq_some_iff, Prod.exists, cut?_eq_some_iff]
  constructor
  · rintro ⟨before, after, hleft, rfl⟩
    refine ⟨hstands.2 ⟨before, after, hleft.split, rfl⟩, fun other hother => ?_⟩
    obtain ⟨b, a, hb, rfl⟩ := hstands.1 hother
    have hle := hleft.least b a hb
    rw [hleft.split, List.append_assoc, List.append_assoc b] at hb
    exact (byteLength_le_iff hb).2 hle
  · rintro ⟨hfirst, hleast⟩
    obtain ⟨before, after, hsource, rfl⟩ := hstands.1 hfirst
    refine ⟨before, after, ⟨hsource, fun b a hb => ?_⟩, rfl⟩
    have hle := hleast _ (hstands.2 ⟨b, a, hb, rfl⟩)
    rw [hsource, List.append_assoc, List.append_assoc b] at hb
    exact (byteLength_le_iff hb).1 hle

end Text

namespace Locator

open Text (StandsAt)

/-- A text in double quotes. -/
def inQuotes (text : String) : String := "\"" ++ text ++ "\""

/-- A span covers a text where a source first has it in double quotes. -/
structure Quotes (source text : String) (span : Span) : Prop where
  length : span.length = text.utf8ByteSize
  covered : StandsAt source text span.offset
  quoted : ∃ start, span.offset = start + 1 ∧ StandsAt source "\"" start ∧
    StandsAt source "\"" (span.offset + span.length)
  first : ∀ start, StandsAt source (inQuotes text) start → span.offset ≤ start + 1

theorem standsAt_inQuotes {source text : String} {start : Nat} :
    StandsAt source (inQuotes text) start ↔ StandsAt source "\"" start ∧
      StandsAt source text (start + 1) ∧ StandsAt source "\"" (start + 1 + text.utf8ByteSize) := by
  have hsize : ("\"" ++ text).utf8ByteSize = 1 + text.utf8ByteSize := String.utf8ByteSize_append
  rw [inQuotes, Text.standsAt_append_iff, Text.standsAt_append_iff, hsize, and_assoc, Nat.add_assoc]
  rfl

/-- The place of a quoted text is the first that there is. -/
theorem quoted?_eq_some_iff {source text : String} {span : Span} :
    quoted? source text = some span ↔ Quotes source text span := by
  have hne : inQuotes text ≠ "" := by simp [inQuotes, ← String.toList_inj]
  have hneedle : '\x22' :: text.toList ++ ['\x22'] = (inQuotes text).toList := by
    simp [inQuotes]
  have hspan : quoted? source text = some span ↔ ∃ start,
      (Text.cut? (inQuotes text).toList source.toList).map (fun c => Text.byteLength c.1) =
        some start ∧ ⟨start + 1, text.utf8ByteSize⟩ = span := by
    simp [quoted?, hneedle, Text.byteLength_toList]
  simp only [hspan, Text.map_cut?_eq_some_iff hne, standsAt_inQuotes]
  constructor
  · rintro ⟨start, ⟨⟨hopen, htext, hclose⟩, hleast⟩, rfl⟩
    exact ⟨rfl, htext, ⟨start, rfl, hopen, hclose⟩, fun other hother =>
      Nat.succ_le_succ (hleast other (standsAt_inQuotes.1 hother))⟩
  · rintro ⟨hlength, htext, ⟨start, hoffset, hopen, hclose⟩, hfirst⟩
    obtain ⟨offset, length⟩ := span
    subst hlength hoffset
    exact ⟨start, ⟨⟨hopen, htext, hclose⟩, fun other hother =>
      Nat.le_of_succ_le_succ (hfirst other (standsAt_inQuotes.2 hother))⟩, rfl⟩

end Locator

namespace Config

open Metadata (Usable)
open Locator (Quotes)

/-! ### What can be wrong with a configuration -/

/-- The categories that a configuration puts in an order. -/
def listed (c : Config) : List String := c.metadata.categories.getD []

/-- A configuration whose names can all stand in generated code, and that names no category
again. -/
structure WellFormed (c : Config) : Prop where
  project : Usable c.project.name
  namespaceObjects : ∀ name ∈ c.project.namespaceObjects, Usable name
  addinNamespace : ∀ name ∈ c.platforms.excel.addinNamespace, Usable name
  categories : ∀ name ∈ c.listed, Usable name
  distinct : c.listed.Nodup

/-- Something wrong with a name of a configuration. -/
inductive Violation where
  | unusable (name kind : String) (reason : NameFault)
  /-- The category is listed before. -/
  | repeated (category : String)
deriving DecidableEq, Repr

/-- The text that is wrong. -/
def Violation.text : Violation → String
  | unusable name .. => name
  | repeated category => category

/-- The complaint about a violation, at a place. -/
def Violation.error (place : Option Span) : Violation → LoadError
  | unusable name kind reason => .badName name kind reason place
  | repeated category => .flaw (.repeatedCategory category) place

/-- What is wrong with a name by itself. -/
def nameViolations (kind name : String) : List Violation :=
  (Naming.fault? name).toList.map (.unusable name kind ·)

/-- What is wrong with a category that others are listed before. -/
def categoryViolations (earlier : List String) (name : String) : List Violation :=
  nameViolations "category" name ++ if name ∈ earlier then [.repeated name] else []

/-- What is wrong with a configuration: the project, its namespace, the namespace of the Excel addin,
then the categories from left to right, each by itself and then with those before it. -/
def violations (c : Config) : List Violation :=
  nameViolations "project" c.project.name
    ++ c.project.namespaceObjects.toList.flatMap (nameViolations "namespace")
    ++ c.platforms.excel.addinNamespace.toList.flatMap (nameViolations "namespace")
    ++ c.listed.zipIdx.flatMap fun entry =>
      categoryViolations (c.listed.take entry.2) entry.1

theorem nameViolations_eq_nil {kind name : String} :
    nameViolations kind name = [] ↔ Usable name := by
  simp only [nameViolations, List.map_eq_nil_iff, Option.toList_eq_nil_iff,
    Naming.fault?_eq_none_iff]
  exact ⟨fun h => ⟨h.1, h.2⟩, fun h => ⟨h.identifier, h.noKeyword⟩⟩

theorem categoryViolations_eq_nil {earlier : List String} {name : String} :
    categoryViolations earlier name = [] ↔ Usable name ∧ name ∉ earlier := by
  simp [categoryViolations, nameViolations_eq_nil]

/-- No entry of a list stands before itself when the entries are distinct. -/
theorem nodup_iff_forall_not_mem_take {names : List String} :
    names.Nodup ↔ ∀ entry ∈ names.zipIdx, entry.1 ∉ names.take entry.2 := by
  simp only [List.Nodup, List.pairwise_iff_getElem, Prod.forall, List.mem_zipIdx_iff_getElem?,
    List.mem_take_iff_getElem, List.getElem?_eq_some_iff]
  constructor
  · rintro h name i ⟨hi, hname⟩ ⟨j, hj, hsame⟩
    exact h j i (by omega) hi (by omega) (hsame.trans hname.symm)
  · intro h i j hi hj hlt hsame
    exact h names[j] j ⟨hj, rfl⟩ ⟨i, by omega, hsame⟩

/-- Nothing is wrong with a configuration exactly when it is well formed. -/
theorem violations_eq_nil {c : Config} : c.violations = [] ↔ c.WellFormed := by
  have hcategories : (∀ entry ∈ c.listed.zipIdx,
        Usable entry.1 ∧ entry.1 ∉ c.listed.take entry.2) ↔
      (∀ name ∈ c.listed, Usable name) ∧ c.listed.Nodup := by
    rw [nodup_iff_forall_not_mem_take, forall₂_and, and_congr_left_iff]
    intro _
    rw [← List.forall_mem_map (P := Usable) (f := Prod.fst), List.zipIdx_map_fst]
  simp only [violations, List.append_eq_nil_iff, List.flatMap_eq_nil_iff, nameViolations_eq_nil,
    categoryViolations_eq_nil, Option.mem_toList, hcategories, and_assoc]
  exact ⟨fun ⟨hp, hn, ha, hc, hd⟩ => ⟨hp, hn, ha, hc, hd⟩,
    fun h => ⟨h.project, h.namespaceObjects, h.addinNamespace, h.categories, h.distinct⟩⟩

/-! ### What a check of a configuration ends with -/

section Check
variable (source : String)

/-- The error for a violation, labelled where the source has the text. -/
def Violation.refusal (v : Violation) : LoadError := v.error (Locator.quoted? source v.text)

/-- The checks that fail, one for each violation. -/
def refusals (vs : List Violation) : List Check := vs.map fun v => some (v.refusal source)

theorem first_refusals (vs : List Violation) :
    Check.first (refusals source vs) = vs.head?.map (Violation.refusal source) := by
  cases vs <;> rfl

theorem checked_name (kind name : String) :
    Checked (refusals source (nameViolations kind name)) (fun _ => True)
      (checkName source name kind) := by
  rw [checkName, nameViolations]
  cases Naming.fault? name with
  | none => exact .ok trivial
  | some reason => exact .unit rfl

theorem checked_optionalName (kind : String) (name : Option String) :
    Checked (refusals source (name.toList.flatMap (nameViolations kind))) (fun _ => True)
      (checkOptionalName source kind name) := by
  cases name with
  | none => exact .ok trivial
  | some name =>
    rw [Option.toList_some, List.flatMap_singleton]
    exact checked_name source kind name

theorem refusals_append (vs more : List Violation) :
    refusals source (vs ++ more) = refusals source vs ++ refusals source more :=
  List.map_append

/-- The categories from some place of a list on are looked at with those before it. -/
theorem checked_categories (earlier rest : List String) :
    Checked (refusals source ((rest.zipIdx earlier.length).flatMap fun entry =>
        categoryViolations ((earlier ++ rest).take entry.2) entry.1)) (fun _ => True)
      (checkCategories source earlier rest) := by
  induction rest generalizing earlier with
  | nil => exact .ok trivial
  | cons name rest ih =>
    have hrest := ih (earlier ++ [name])
    rw [List.append_assoc, List.singleton_append, List.length_append, List.length_singleton] at hrest
    rw [List.zipIdx_cons, List.flatMap_cons, List.take_left', categoryViolations, List.append_assoc,
      refusals_append, checkCategories]
    refine (checked_name source "category" name).bind fun _ _ => ?_
    by_cases hmem : name ∈ earlier
    · rw [if_pos hmem, if_pos hmem]
      exact ⟨fun e he => by cases he; rfl, nofun⟩
    · rw [if_neg hmem, if_neg hmem]
      exact hrest
    rfl

/-- The check of a configuration ends with its first violation. -/
theorem checked (c : Config) :
    Checked (refusals source c.violations) (fun _ => True) (c.check source) := by
  rw [violations, List.append_assoc, List.append_assoc, refusals_append, refusals_append,
    refusals_append, check]
  refine (checked_name source "project" _).bind fun _ _ => ?_
  refine (checked_optionalName source "namespace" _).bind fun _ _ => ?_
  refine (checked_optionalName source "namespace" _).bind fun _ _ => ?_
  exact checked_categories source [] c.listed

end Check

/-- The label of an error is the place that it is made with. -/
theorem Violation.place?_error (v : Violation) (place : Option Span) :
    (v.error place).place? = place := by
  cases v <;> rfl

/-- An error is that of a violation, labelled where the source first has the text in double
quotes. -/
theorem eq_refusal_iff {source : String} {v : Violation} {e : LoadError} :
    e = v.refusal source ↔ e = v.error e.place? ∧
      ∀ label span, (label, span) ∈ e.labels ↔ label = e.labelText ∧ Quotes source v.text span := by
  have hlabels (label : String) (span : Span) :
      (label, span) ∈ e.labels ↔ label = e.labelText ∧ e.place? = some span := by
    simp [LoadError.labels, and_comm, eq_comm]
  simp only [hlabels, ← Locator.quoted?_eq_some_iff]
  constructor
  · rintro rfl
    rw [Violation.refusal, Violation.place?_error]
    exact ⟨rfl, fun _ _ => Iff.rfl⟩
  · rintro ⟨he, hplace⟩
    have hsame : e.place? = Locator.quoted? source v.text :=
      Option.ext fun span => by simpa using hplace e.labelText span
    rw [he, hsame]
    rfl

/-- A check finds nothing exactly in a configuration that is well formed. -/
theorem exists_check_iff (source : String) {c : Config} :
    (∃ u, c.check source = .ok u) ↔ c.WellFormed := by
  rw [(checked source c).ok_iff, first_refusals, Option.map_eq_none_iff, List.head?_eq_none_iff,
    violations_eq_nil]

/-! ### What a source is loaded as -/

/-- A configuration that is loaded is well formed. -/
theorem wellFormed_of_parse {source : String} {c : Config} (h : parse source = .ok c) :
    c.WellFormed := by
  rw [parse] at h
  split at h
  · obtain ⟨u, hcheck, rfl⟩ := map_eq_ok.1 h
    exact (exists_check_iff source).1 ⟨u, hcheck⟩
  · cases h

/-- What a source gives that has the fields of a configuration. -/
theorem parse_eq {source : String} {c : Config}
    (hread : (Toml.document? source).bind ofValue = some c) :
    parse source = (c.check source).map fun _ => c := by
  rw [parse, hread]

/-- A source is read by its characters, without decoding it. -/
theorem document_of_chars {source : String} {cs : List Char} {c : Config}
    (hsource : source = String.ofList cs) (h : (Toml.tableOf? cs).bind ofValue = some c) :
    (Toml.document? source).bind ofValue = some c := by
  rw [Toml.document?, hsource, String.toList_ofList, h]

theorem parse_of_document {source : String} {c : Config}
    (hread : (Toml.document? source).bind ofValue = some c) (hc : c.violations = []) :
    parse source = .ok c := by
  obtain ⟨u, hcheck⟩ := (exists_check_iff source).2 (violations_eq_nil.1 hc)
  rw [parse_eq hread, hcheck]
  rfl

/-- **Configurations are accepted exactly when their names are usable.** A source with the fields of a
configuration gives it back unless one of its names cannot stand in generated code or a category is
listed again. Then the error is that of the first violation, labelled where the source first has the
text in double quotes. The platforms that an accepted configuration enables come in the order of
generation. -/
theorem parse_wellFormed_iff {source : String} {c : Config}
    (hread : (Toml.document? source).bind ofValue = some c) :
    ((∃ accepted, parse source = .ok accepted) ↔ c.WellFormed) ∧
      (∀ accepted, parse source = .ok accepted → accepted = c ∧
        accepted.enabledPlatforms.Sublist Platform.all ∧
        ∀ p, p ∈ accepted.enabledPlatforms ↔ (c.platforms.settings p).enabled = true) ∧
      ∀ e, parse source = .error e ↔ ∃ v, c.violations.head? = some v ∧ e = v.error e.place? ∧
        ∀ label span, (label, span) ∈ e.labels ↔
          label = e.labelText ∧ Quotes source v.text span := by
  have hparse := parse_eq hread
  have hchecked := checked source c
  refine ⟨?_, fun accepted haccepted => ?_, fun e => ?_⟩
  · rw [hparse, ← exists_check_iff source]
    cases c.check source <;> simp [Except.map]
  · obtain ⟨_, -, rfl⟩ := map_eq_ok.1 (hparse ▸ haccepted)
    refine ⟨rfl, List.filter_sublist, fun p => ?_⟩
    rw [enabledPlatforms, List.mem_filter]
    exact and_iff_right (by cases p <;> decide)
  · have herror : parse source = .error e ↔ c.check source = .error e := by
      rw [hparse]
      cases c.check source <;> simp [Except.map]
    simp only [← eq_refusal_iff]
    rw [herror, hchecked.error_iff, first_refusals, Option.map_eq_some_iff]
    simp only [eq_comm]

/-- A source that lists a category again. -/
def listedAgain : String :=
  "[project]\nname = \"P\"\n[metadata]\ncategories = [\"b\", \"a\", \"b\", \"new\"]\n"

/-- What is in `listedAgain`. -/
def listedAgainConfig : Config where
  project := ⟨"P", none, none, false⟩
  metadata := { categories := some ["b", "a", "b", "new"] }
  platforms := {}

theorem document_listedAgain :
    (Toml.document? listedAgain).bind ofValue = some listedAgainConfig :=
  document_of_chars rfl (by decide +kernel)

/-- The category that comes again is complained about, where it stands first, and not the keyword
after it. -/
theorem parse_listedAgain : (Toml.document? listedAgain).bind ofValue = some listedAgainConfig ∧
    parse listedAgain = .error (.flaw (.repeatedCategory "b") (some ⟨47, 1⟩)) := by
  have hfirst : listedAgainConfig.violations.head? = some (.repeated "b") := by decide +kernel
  have hplace : Locator.quoted? listedAgain "b" = some ⟨47, 1⟩ := by decide +kernel
  refine ⟨document_listedAgain, ((parse_wellFormed_iff document_listedAgain).2.2 _).2 ⟨_, hfirst, ?_⟩⟩
  exact eq_refusal_iff.1 (by rw [Violation.refusal, Violation.text, hplace]; rfl)

end Config
end Bindery
