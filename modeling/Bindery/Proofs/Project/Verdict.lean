import Bindery.Project.Check
import Bindery.Project.Generation
import Bindery.Proofs.Compilation.Verdict
import Bindery.Proofs.Generator.Supplied

/-! Checks and generations of a project.

A check reports what a compilation finds, and a generation begins with the same compilation. For
metadata that the project loads, only findings can stop it: no part is missing. So a check has an answer
for all of it, and a generation gets past its compilation exactly where that answer has no errors
(`check_agrees`). What a report shows of a finding, and what a generation does, is said by the lines of
the texts (`Shows`, `Warns`). -/
namespace Bindery.Project

/-- What the compilation of some metadata finds. -/
def findings (p : Project) (m : Metadata) : List Diagnostic :=
  ((p.compilation m).run Compilation.standard).1.diagnostics

/-- A text shows a finding: its message, and below it, on a line of its own, an arrow and the place
that the finding is about. -/
def Shows (d : Diagnostic) (text : String) : Prop :=
  text = "\n".intercalate (d.message :: d.location.toList.map ("  --> " ++ ·))

/-- A line warns of a finding: it has the message, and in parentheses the place that the finding is
about. -/
def Warns (d : Diagnostic) (line : String) : Prop :=
  line = "warning: " ++ " ".intercalate (d.message :: d.location.toList.map ("(at " ++ · ++ ")"))

/-- A report of findings: they are shown one by one and in order, each in the list of its severity.
All lists together show each of them once. -/
structure Check.Lists (report : Check) (ds : List Diagnostic) : Prop where
  errors : List.Forall₂ Shows (ds.filter (·.severity = .error)) report.errors
  warnings : List.Forall₂ Shows (ds.filter (·.severity = .warning)) report.warnings
  infos : List.Forall₂ Shows (ds.filter (·.severity = .info)) report.infos
  all : ∃ shown : List Diagnostic, shown.Perm ds ∧
    List.Forall₂ Shows shown (report.errors ++ report.warnings ++ report.infos)

/-- A check and a generation come to the same verdict on some metadata. -/
structure Agree (p : Project) (m : Metadata) (report : Check) : Prop where
  lists : report.Lists (p.findings m)
  passes_iff : report.errors = [] ↔ ∃ r warnings, p.compiled m = .ok (r, warnings)
  /-- Errors stop a generation before it writes anything. -/
  stops : report.errors ≠ [] → ∃ fault, fault.chain.head? = some "Pipeline failed" ∧
    ∀ t order, p.generate t m order = (t, .error fault)
  /-- A generation that succeeds warns of the same findings, one by one and in order. -/
  warnings : ∀ t order t' g, p.generate t m order = (t', .ok g) →
    List.Forall₂ Warns ((p.findings m).filter (·.severity = .warning)) g.warnings

/-! ### Loading -/

/-- Categories that a project loads were each parsed from a file. -/
theorem parsed_of_metadata {p : Project} {t : FileTree} {m : Metadata} (h : p.metadata t = .ok m) :
    ∀ c ∈ m.categories, ∃ source filename, Metadata.Category.parse source filename = .ok c := by
  obtain ⟨files, -, h⟩ := bind_eq_ok.1 h
  obtain ⟨categories, hcategories, h⟩ := bind_eq_ok.1 h
  obtain ⟨_, -, h⟩ := bind_eq_ok.1 h
  obtain ⟨_, -, h⟩ := bind_eq_ok.1 h
  cases h
  intro c hc
  obtain ⟨path, -, hread⟩ := exists_of_mem_right (mapM_eq_ok.1 hcategories) hc
  obtain ⟨source, -, hparse⟩ := bind_eq_ok.1 hread
  exact ⟨source, path, hparse⟩

/-- A file that holds the bytes of a text reads as the text. -/
theorem readFile_of_read {t : FileTree} {path s : String} (h : t.read path = .ok s.toUTF8) :
    readFile t path = .ok s := by
  have hvalid : s.toUTF8.IsValidUTF8 := s.isValidUTF8
  have hdecode : String.fromUTF8? s.toUTF8 = some s := dif_pos hvalid
  simp only [readFile, FileTree.readText?, h, hdecode]

/-- What a file with a configuration gives. -/
theorem read_of_parse {t : FileTree} {path content : String} {config : Config}
    (hfile : readFile t path = .ok content) (hparse : Config.parse content = .ok config) :
    read t path = .ok { path, content, config } := by
  rw [read, hfile]
  show (Config.parse content >>= _) = _
  rw [hparse]
  rfl

/-- The only name in a directory, if it is that of a metadata file. -/
theorem metadataFiles_of_names {t : FileTree} {dir name : String}
    (hnames : t.names? dir = some [name]) (hfile : t.isFile (Path.join dir name))
    (hname : Path.extension? name = some metadataExtension) :
    metadataFiles t dir = .ok [Path.join dir name] := by
  rw [metadataFiles, hnames]
  simp [hfile, hname]

/-- What one file with a category gives. -/
theorem metadata_of_category {p : Project} {t : FileTree} {path source : String}
    {c : Metadata.Category} (hcategories : p.categoryFiles t = .ok [path])
    (henumerations : p.enumerationFiles t = .ok []) (hfile : readFile t path = .ok source)
    (hparse : Metadata.Category.parse source path = .ok c) :
    p.metadata t = .ok { categories := [c], enumerations := [] } := by
  have hcategory : readMetadataFile t Metadata.Category.parse path = .ok c := by
    rw [readMetadataFile, hfile]
    exact hparse
  rw [metadata, hcategories]
  show ([path].mapM (readMetadataFile t Metadata.Category.parse) >>= _) = _
  rw [List.mapM_cons, hcategory]
  show (p.enumerationFiles t >>= _) = _
  rw [henumerations]
  rfl

/-! ### Reports -/

/-- Findings sorted by severity are the findings. -/
theorem severities_perm (ds : List Diagnostic) :
    (ds.filter (·.severity = .error) ++ ds.filter (·.severity = .warning)
      ++ ds.filter (·.severity = .info)).Perm ds := by
  induction ds with
  | nil => exact .refl _
  | cons d ds ih =>
    rw [List.append_assoc] at ih
    cases hd : d.severity with
    | error => simpa [hd] using ih
    | warning => simpa [hd] using List.perm_middle.trans (ih.cons d)
    | info =>
      rw [← List.append_assoc] at ih
      simpa [hd] using List.perm_middle.trans (ih.cons d)

/-- What a check reports, where it reports anything. -/
def reportOf (p : Project) (m : Metadata) : Check where
  configPath := p.path
  errors := Check.findingsOf .error (p.findings m)
  warnings := Check.findingsOf .warning (p.findings m)
  infos := Check.findingsOf .info (p.findings m)
  counts := Counts.ofMetadata m

theorem shows_findingText (d : Diagnostic) : Shows d (Check.findingText d) := by
  obtain ⟨severity, phase, message, location⟩ := d
  cases location with
  | none => exact String.intercalate_singleton.symm
  | some place =>
    have hline : "\n  --> " ++ place = "\n" ++ ("  --> " ++ place) :=
      (String.append_assoc : "\n" ++ "  --> " ++ place = _)
    simp [Shows, Check.findingText, String.append_assoc, hline]

/-- Each finding of a severity is shown. -/
theorem shows_findingsOf (severity : Severity) (ds : List Diagnostic) :
    List.Forall₂ Shows (ds.filter (·.severity = severity)) (Check.findingsOf severity ds) :=
  List.forall₂_map_right_iff.2 (List.forall₂_same.2 fun d _ => shows_findingText d)

theorem lists_reportOf (p : Project) (m : Metadata) : (p.reportOf m).Lists (p.findings m) where
  errors := shows_findingsOf ..
  warnings := shows_findingsOf ..
  infos := shows_findingsOf ..
  all := ⟨_, severities_perm (p.findings m), List.rel_append
    (List.rel_append (shows_findingsOf ..) (shows_findingsOf ..)) (shows_findingsOf ..)⟩

/-- A warning on a line. -/
theorem warns_display {d : Diagnostic} (h : d.severity = .warning) : Warns d d.display := by
  obtain ⟨severity, phase, message, location⟩ := d
  obtain rfl : severity = .warning := h
  cases location with
  | none => simp [Warns, Diagnostic.display, Severity.name]
  | some place =>
    have hplace : " (at " ++ (place ++ ")") = " " ++ ("(at " ++ (place ++ ")")) :=
      (String.append_assoc : " " ++ "(at " ++ (place ++ ")") = _)
    simp [Warns, Diagnostic.display, Severity.name, String.append_assoc, hplace]

/-! ### Verdicts -/

section Sound
variable {p : Project} {m : Metadata} (hm : ∀ c ∈ m.categories, c.Sound)
include hm

/-- Only the lints stop a compilation of loaded metadata. -/
theorem compilation_cases :
    (p.reportOf m).errors = [] ∧ (∃ c r, (p.compilation m).run Compilation.standard = (c, .ok ()) ∧
      c.registry = some r ∧ c.diagnostics = p.findings m) ∨
    (p.reportOf m).errors ≠ [] ∧ ∃ c fault,
      (p.compilation m).run Compilation.standard = (c, .error fault) ∧ c.errors ≠ [] := by
  obtain ⟨r, hr⟩ := Registry.exists_ofMetadata p.config.names hm
  have hrun : (p.compilation m).run Compilation.standard = _ := Compilation.run_standard hm hr
  have herrors := Compilation.errors_linted p.config.names m
  have hfindings : p.findings m = (Compilation.linted p.config.names m).diagnostics := by
    rw [findings, hrun]
    split <;> rfl
  have hreport : (p.reportOf m).errors = (Lint.faults m).map Check.findingText := by
    rw [← herrors]
    show (List.filter _ (p.findings m)).map _ = _
    rw [hfindings]
    rfl
  rw [hreport, hrun, ← Lint.length_faults hm]
  by_cases h : Lint.faults m = []
  · rw [if_pos (List.length_eq_zero_iff.2 h)]
    exact .inl ⟨List.map_eq_nil_iff.2 h, _, r, rfl, rfl, hfindings.symm⟩
  · rw [if_neg (mt List.length_eq_zero_iff.1 h)]
    refine .inr ⟨mt List.map_eq_nil_iff.1 h, _, _, rfl, ?_⟩
    rwa [herrors]

/-- A check of loaded metadata always reports. -/
theorem check_eq : p.check m = .ok (p.reportOf m) := by
  obtain ⟨-, c, r, hrun, -, hfindings⟩ | ⟨-, c, fault, hrun, herrors⟩ := compilation_cases hm
  · rw [check, reportOf, hrun, ← hfindings]
  · have hfindings : p.findings m = c.diagnostics := by rw [findings, hrun]
    rw [check, reportOf, hrun, hfindings]
    exact if_neg (by simpa using herrors)

/-- What loaded metadata compiles to, or why it does not. -/
theorem compiled_cases :
    (p.reportOf m).errors = [] ∧ (∃ r, p.compiled m =
      .ok (r, (p.findings m).filter (·.severity = .warning))) ∨
    (p.reportOf m).errors ≠ [] ∧ ∃ cause, p.compiled m = .error (.within "Pipeline failed" cause) := by
  obtain ⟨hnone, c, r, hrun, hr, hfindings⟩ | ⟨hsome, c, cause, hrun, -⟩ := compilation_cases hm
  · refine .inl ⟨hnone, r, ?_⟩
    rw [compiled, hrun, ← hfindings]
    dsimp only
    rw [Compilation.theRegistry, hr]
    rfl
  · refine .inr ⟨hsome, cause, ?_⟩
    rw [compiled, hrun]

/-- A report of loaded metadata and a generation from it agree. -/
theorem agree_reportOf : Agree p m (p.reportOf m) where
  lists := lists_reportOf p m
  passes_iff := by
    obtain ⟨hnone, r, hcompiled⟩ | ⟨hsome, cause, hcompiled⟩ := compiled_cases hm
    · exact iff_of_true hnone ⟨r, _, hcompiled⟩
    · rw [hcompiled]
      exact iff_of_false hsome nofun
  stops hsome := by
    obtain ⟨hnone, -⟩ | ⟨-, cause, hcompiled⟩ := compiled_cases hm
    · exact absurd hnone hsome
    · exact ⟨.within "Pipeline failed" cause, rfl, fun t order => by rw [generate, hcompiled]⟩
  warnings t order t' g hg := by
    obtain ⟨-, r, hcompiled⟩ | ⟨-, cause, hcompiled⟩ := compiled_cases hm
    · rw [generate, hcompiled] at hg
      dsimp only at hg
      split at hg
      · cases hg
      · obtain ⟨parts, -, rfl⟩ := map_eq_ok.1 (Prod.mk.inj hg).2
        refine List.forall₂_map_right_iff.2 (List.forall₂_same.2 fun d hd => warns_display ?_)
        exact of_decide_eq_true (List.mem_filter.1 hd).2
    · rw [generate, hcompiled] at hg
      cases hg

end Sound

/-! ### Dry runs -/

section DryRuns
variable {p : Project} {r : Registry} {order : Order} (hstubs : p.stubsDir = none)
  (hcopyright : p.config.project.copyright = false) (hdry : order.dryRun = true)
include hstubs hcopyright hdry

/-- Where nothing is replaced, all platforms can be shown. -/
theorem exists_generateAll (t : FileTree) (platforms : List Platform) :
    ∃ parts, p.generateAll t r order platforms = (t, .ok parts) := by
  induction platforms with
  | nil => exact ⟨[], rfl⟩
  | cons platform rest ih =>
    obtain ⟨kit, hkit, hload⟩ := Generator.exists_supplied t platform
    have hgenerator : p.generator t r platform =
        .ok (Generator.ofKit kit (.ofConfig p.config) r platform) := by
      rw [generator, hstubs, hload]
      rfl
    have hbanner (g : Generator) : p.banner g r = .ok { generator := generatorName } := by
      rw [banner, hcopyright]
      rfl
    obtain ⟨files, hfiles⟩ : ∃ files, (Generator.ofKit kit (.ofConfig p.config) r platform).preview
        { generator := generatorName } = .ok files :=
      Generator.Page.exists_preview_iff.2 (Generator.rendered_of_serves hkit.serves _ r)
    obtain ⟨parts, hparts⟩ := ih
    have hpart : ∃ part, p.generatePlatform t r order platform = (t, .ok part) := by
      rw [generatePlatform, hgenerator]
      dsimp only [bind, Except.bind]
      rw [hbanner]
      dsimp only [pure, Except.pure]
      rw [produce, if_pos hdry, hfiles]
      exact ⟨_, rfl⟩
    obtain ⟨part, hpart⟩ := hpart
    refine ⟨part :: parts, ?_⟩
    rw [generateAll, hpart]
    dsimp only
    rw [hparts]
    rfl

/-- A dry run succeeds with what compiles, if there is a platform for it. -/
theorem exists_generate (t : FileTree) {m : Metadata} {warnings : List Diagnostic}
    (hcompiled : p.compiled m = .ok (r, warnings)) (hchosen : (p.chosen order).isEmpty = false) :
    ∃ g, p.generate t m order = (t, .ok g) := by
  obtain ⟨parts, hparts⟩ := exists_generateAll (r := r) hstubs hcopyright hdry t (p.chosen order)
  rw [generate, hcompiled]
  dsimp only
  rw [hchosen, if_neg Bool.false_ne_true, hparts]
  exact ⟨_, rfl⟩

end DryRuns

/-- **Checking and generating agree.** A check of metadata that a project loads has an answer. Whatever
is to be generated, and wherever, a generation from it is stopped by its compilation exactly where the
answer has errors, and then it leaves the tree alone. -/
theorem check_agrees {p : Project} {tree : FileTree} {m : Metadata}
    (hm : p.metadata tree = .ok m) : ∃ report, p.check m = .ok report ∧ Agree p m report := by
  have hsound := Metadata.sound_of_parsed (parsed_of_metadata hm)
  exact ⟨p.reportOf m, check_eq hsound, agree_reportOf hsound⟩

/-- A configuration that sets nothing but the name. -/
def named : String := "[project]\nname = 'P'\n"

/-- A directory with a project that has one category. -/
def holding (source : String) : FileTree where
  entries :=
    [(["addin.toml"], .file 0 named.toUTF8), (["metadata"], .directory),
      (["metadata", "Categories"], .directory),
      (["metadata", "Categories", "a.xml"], .file 1 source.toUTF8)]
  fresh := 2

/-- The project in `holding`. -/
def stray : Project where
  path := "addin.toml"
  content := named
  config := { project := ⟨"P", none, none, false⟩, metadata := {}, platforms := {} }

/-- A loop over a parameter that is not there. -/
def strayMetadata : Metadata where
  categories := Compilation.strayLoops.categories.take 1
  enumerations := []

/-- A category with nothing in it. -/
def bareMetadata : Metadata where
  categories := [⟨"a", "a", "", [], []⟩]
  enumerations := []

theorem read_holding (source : String) : read (holding source) "addin.toml" = .ok stray := by
  have hparse : (Config.parse named).toOption = some stray.config := by decide +kernel
  exact read_of_parse (readFile_of_read rfl) (eq_ok_of_toOption hparse)

theorem metadata_holding {source : String} {c : Metadata.Category}
    (hparse : Metadata.Category.parse source "./metadata/Categories/a.xml" = .ok c) :
    stray.metadata (holding source) = .ok { categories := [c], enumerations := [] } := by
  have hnames : (holding source).names? "./metadata/Categories" = some ["a.xml"] := rfl
  have hfile : (holding source).isFile "./metadata/Categories/a.xml" := rfl
  exact metadata_of_category (metadataFiles_of_names hnames hfile (by decide +kernel)) rfl
    (readFile_of_read rfl) hparse

/-- The check of a stray loop shows the function that has it, and no generation writes anything. That
of a category with nothing in it shows no errors, and a generation warns of the same. -/
theorem check_stray :
    read (holding Compilation.strayLoop) "addin.toml" = .ok stray ∧
      stray.metadata (holding Compilation.strayLoop) = .ok strayMetadata ∧
      stray.metadata (holding "<C name='a'/>") = .ok bareMetadata ∧
      (∃ report fault, stray.check strayMetadata = .ok report ∧
        report.errors =
          ["loop parameter 'n' of function 'f' is not a declared parameter\n  --> a.f"] ∧
        fault.chain.head? = some "Pipeline failed" ∧
        ∀ t order, stray.generate t strayMetadata order = (t, .error fault)) ∧
      ∃ report, stray.check bareMetadata = .ok report ∧ report.errors = [] ∧
        report.warnings = ["category 'a' has no description\n  --> a",
          "category 'a' has no functions\n  --> a"] ∧
        ∀ t, ∃ g, stray.generate t bareMetadata { platforms := [.doxygen], dryRun := true } =
            (t, .ok g) ∧
          g.warnings = ["warning: category 'a' has no description (at a)",
            "warning: category 'a' has no functions (at a)"] := by
  have hstray : stray.metadata (holding Compilation.strayLoop) = .ok strayMetadata :=
    metadata_holding (eq_ok_of_toOption (by decide +kernel))
  have hbare : stray.metadata (holding "<C name='a'/>") = .ok bareMetadata :=
    metadata_holding (eq_ok_of_toOption (by decide +kernel))
  refine ⟨read_holding _, hstray, hbare, ?_, ?_⟩
  · obtain ⟨report, hreport, hagree⟩ := check_agrees hstray
    have herrors : report.errors = _ := eq_map_of_forall₂ hagree.lists.errors
    have hsome : report.errors ≠ [] := by
      rw [herrors]
      decide +kernel
    obtain ⟨fault, hfault, hstops⟩ := hagree.stops hsome
    exact ⟨report, fault, hreport, herrors.trans (by decide +kernel), hfault, hstops⟩
  · obtain ⟨report, hreport, hagree⟩ := check_agrees hbare
    have herrors : report.errors = [] :=
      (eq_map_of_forall₂ hagree.lists.errors).trans (by decide +kernel)
    have hwarnings : report.warnings = _ := eq_map_of_forall₂ hagree.lists.warnings
    obtain ⟨r, warnings, hcompiled⟩ := hagree.passes_iff.1 herrors
    refine ⟨report, hreport, herrors, hwarnings.trans (by decide +kernel), fun t => ?_⟩
    obtain ⟨g, hg⟩ : ∃ g, stray.generate t bareMetadata { platforms := [.doxygen], dryRun := true } =
        (t, .ok g) := exists_generate rfl rfl rfl t hcompiled rfl
    exact ⟨g, hg, (eq_map_of_forall₂ (hagree.warnings t _ t g hg)).trans (by decide +kernel)⟩

end Bindery.Project
