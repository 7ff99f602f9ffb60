import Bindery.Proofs.FileTree.Listing
import Bindery.Proofs.Project.Verdict
import Bindery.Proofs.Text.Order

/-! Metadata of a project.

Which files a project reads for its metadata, and in which order, is settled before any of them is
read: the configured categories in their order, or else the metadata files of a directory in ascending
order of their names. They are read in that order up to the first that cannot be. Directories list
their names in no particular order, and the sorting makes sure that nothing depends on it
(`metadata_relisted`). -/
namespace Bindery.Project

/-- A name in a directory is that of a metadata file. -/
def isMetadataFile (t : FileTree) (dir name : String) : Bool :=
  t.isFile (Path.join dir name) && Path.extension? name = some metadataExtension

/-- The paths are those of all metadata files that a directory lists, in ascending order of their
names. -/
def Ascending (t : FileTree) (dir : String) (paths : List String) : Prop :=
  ∃ listing names : List String, t.names? dir = some listing ∧
    names.Perm (listing.filter (isMetadataFile t dir)) ∧ names.Pairwise (· ≤ ·) ∧
    paths = names.map (Path.join dir)

/-- An error is that of the first path that cannot be read. -/
def FirstFault {α : Type} (read : String → Except LoadError α) (paths : List String)
    (e : LoadError) : Prop :=
  ∃ before path after, paths = before ++ path :: after ∧
    (∀ earlier ∈ before, ∃ a, read earlier = .ok a) ∧ read path = .error e

/-! ### Files in a directory -/

theorem pairwise_inOrder (names : List String) :
    (names.mergeSort fun a b => a ≤ b).Pairwise (· ≤ ·) :=
  (Text.inOrder_mergeSort (fun name => name) names).ascending

/-- Names that are in order and those of a directory are those of the directory in order. -/
theorem eq_inOrder {names listing : List String} (h : names.Perm listing)
    (hsorted : names.Pairwise (· ≤ ·)) : names = listing.mergeSort fun a b => a ≤ b :=
  List.Perm.eq_of_pairwise (fun _ _ _ _ => String.le_antisymm) hsorted (pairwise_inOrder listing)
    (h.trans (List.mergeSort_perm ..).symm)

theorem inOrder_of_perm {names names' : List String} (h : names'.Perm names) :
    (names'.mergeSort fun a b => a ≤ b) = names.mergeSort fun a b => a ≤ b :=
  eq_inOrder ((List.mergeSort_perm ..).trans h) (pairwise_inOrder names')

theorem metadataFiles_eq_ok {t : FileTree} {dir : String} {paths : List String} :
    metadataFiles t dir = .ok paths ↔ Ascending t dir paths := by
  rw [metadataFiles]
  cases hlisting : t.names? dir with
  | none =>
    constructor
    · intro h
      cases h
    · rintro ⟨listing, -, hlisting', -⟩
      rw [hlisting] at hlisting'
      cases hlisting'
  | some listing =>
    constructor
    · intro h
      exact ⟨listing, _, hlisting, List.mergeSort_perm .., pairwise_inOrder _,
        (Except.ok.inj h).symm⟩
    · rintro ⟨listing', names, hlisting', hperm, hsorted, rfl⟩
      obtain rfl : listing = listing' := Option.some.inj (hlisting.symm.trans hlisting')
      rw [eq_inOrder hperm hsorted]
      rfl

theorem metadataFiles_eq_error {t : FileTree} {dir : String} {e : LoadError} :
    metadataFiles t dir = .error e ↔ t.names? dir = none ∧ e = .unreadable dir := by
  rw [metadataFiles]
  cases t.names? dir with
  | none => simp [eq_comm]
  | some listing => simp

/-- The metadata files of a directory are the same however it lists them. -/
theorem metadataFiles_relisted {t t' : FileTree} (h : FileTree.Relisted t t') (dir : String) :
    metadataFiles t' dir = metadataFiles t dir := by
  have hnames := h.names? dir
  rw [metadataFiles, metadataFiles]
  simp only [FileTree.isFile_congr h.entryAt?]
  generalize t.names? dir = listing, t'.names? dir = listing' at hnames
  cases hnames with
  | none => rfl
  | some hperm =>
    exact congrArg (fun names => Except.ok (List.map (Path.join dir) names))
      (inOrder_of_perm (hperm.filter (isMetadataFile t dir)))

/-! ### All files -/

section Files
variable (p : Project) {t t' : FileTree}

/-- The files of enumerations are always found. -/
theorem exists_enumerationFiles (t : FileTree) : ∃ paths, p.enumerationFiles t = .ok paths ∧
    (t.isDirectory (p.resolve p.config.metadata.enumerationsDir) →
      Ascending t (p.resolve p.config.metadata.enumerationsDir) paths) ∧
    (¬ t.isDirectory (p.resolve p.config.metadata.enumerationsDir) → paths = []) := by
  rw [enumerationFiles]
  split
  · next hdir =>
    cases hfiles : metadataFiles t (p.resolve p.config.metadata.enumerationsDir) with
    | ok paths =>
      exact ⟨paths, rfl, fun _ => metadataFiles_eq_ok.1 hfiles, fun hnone => absurd hdir hnone⟩
    | error e =>
      have hnone := (metadataFiles_eq_error.1 hfiles).1
      rw [← FileTree.isSome_names?, hnone] at hdir
      cases hdir
  · next hdir => exact ⟨[], rfl, fun hyes => absurd hyes hdir, fun _ => rfl⟩

theorem categoryFiles_relisted (h : FileTree.Relisted t t') :
    p.categoryFiles t' = p.categoryFiles t := by
  simp only [categoryFiles, metadataFiles_relisted h]

theorem enumerationFiles_relisted (h : FileTree.Relisted t t') :
    p.enumerationFiles t' = p.enumerationFiles t := by
  simp only [enumerationFiles, metadataFiles_relisted h, FileTree.isDirectory_congr h.entryAt?]

end Files

/-! ### Reading -/

/-- What files of categories and files of enumerations give, read one after the other. -/
def readFiles (t : FileTree) (categoryPaths enumerationPaths : List String) :
    Except LoadError Metadata := do
  let categories ← categoryPaths.mapM (readMetadataFile t Metadata.Category.parse)
  let enumerations ← enumerationPaths.mapM (readMetadataFile t Metadata.parseEnumerations)
  return { categories, enumerations := enumerations.flatten }

section Reading
variable {p : Project} {t t' : FileTree} {cs es : List String}

theorem metadata_of_files (hcs : p.categoryFiles t = .ok cs) (hes : p.enumerationFiles t = .ok es) :
    p.metadata t = readFiles t cs es := by
  rw [metadata, hcs]
  show (cs.mapM _ >>= fun _ => p.enumerationFiles t >>= _) = _
  rw [hes]
  rfl

theorem metadata_of_error {e : LoadError} (hcs : p.categoryFiles t = .error e) :
    p.metadata t = .error e := by
  rw [metadata, hcs]
  rfl

theorem readFiles_eq_ok {m : Metadata} : readFiles t cs es = .ok m ↔
    List.Forall₂ (fun path c => readMetadataFile t Metadata.Category.parse path = .ok c)
      cs m.categories ∧
    ∃ parts, m.enumerations = parts.flatten ∧
      List.Forall₂ (fun path part => readMetadataFile t Metadata.parseEnumerations path = .ok part)
        es parts := by
  obtain ⟨categories, enumerations⟩ := m
  simp only [readFiles, bind_eq_ok, mapM_eq_ok, pure, Except.pure, Except.ok.injEq,
    Metadata.mk.injEq]
  constructor
  · rintro ⟨_, hcategories, parts, hparts, rfl, rfl⟩
    exact ⟨hcategories, parts, rfl, hparts⟩
  · rintro ⟨hcategories, parts, rfl, hparts⟩
    exact ⟨_, hcategories, parts, hparts, rfl, rfl⟩

theorem readFiles_eq_error {e : LoadError} : readFiles t cs es = .error e ↔
    FirstFault (readMetadataFile t Metadata.Category.parse) cs e ∨
      (∀ path ∈ cs, ∃ c, readMetadataFile t Metadata.Category.parse path = .ok c) ∧
        FirstFault (readMetadataFile t Metadata.parseEnumerations) es e := by
  rw [readFiles, bind_eq_error]
  simp only [bind_eq_error, FirstFault, ← mapM_eq_error]
  constructor
  · rintro (h | ⟨categories, hcategories, h | ⟨_, _, h⟩⟩)
    · exact .inl h
    · refine .inr ⟨fun path hpath => ?_, h⟩
      obtain ⟨c, -, hc⟩ := exists_of_mem_left (mapM_eq_ok.1 hcategories) hpath
      exact ⟨c, hc⟩
    · cases h
  · rintro (h | ⟨hread, h⟩)
    · exact .inl h
    · obtain ⟨categories, hcategories⟩ := exists_mapM hread
      exact .inr ⟨categories, hcategories, .inl h⟩

/-- Only the texts of the files matter. -/
theorem readFiles_congr (h : ∀ path ∈ cs ++ es, readFile t' path = readFile t path) :
    readFiles t' cs es = readFiles t cs es := by
  have hsame {α : Type} (parse : String → String → Except LoadError α) :
      ∀ path ∈ cs ++ es, readMetadataFile t' parse path = readMetadataFile t parse path :=
    fun path hpath => by rw [readMetadataFile, readMetadataFile, h path hpath]
  rw [readFiles, readFiles,
    mapM_congr_left fun path hpath => hsame _ path (List.mem_append_left es hpath),
    mapM_congr_left fun path hpath => hsame _ path (List.mem_append_right cs hpath)]

end Reading

/-! ### Loading -/

/-- How a project finds and reads its metadata in a tree. -/
structure Loading (p : Project) (t : FileTree) : Prop where
  /-- Without a configured order, the categories are in the metadata files of their directory. -/
  found : p.config.metadata.categories = none → ∀ cs, p.categoryFiles t = .ok cs ↔
    Ascending t (p.resolve p.config.metadata.categoriesDir) cs
  unfound : p.config.metadata.categories = none → ∀ e, p.categoryFiles t = .error e ↔
    t.names? (p.resolve p.config.metadata.categoriesDir) = none ∧
      e = .unreadable (p.resolve p.config.metadata.categoriesDir)
  /-- A configured order says which files there are. -/
  configured : ∀ names, p.config.metadata.categories = some names →
    p.categoryFiles t = .ok (names.map fun name =>
      Path.join (p.resolve p.config.metadata.categoriesDir) (name ++ "." ++ metadataExtension))
  enumerations : ∃ es, p.enumerationFiles t = .ok es ∧
    (t.isDirectory (p.resolve p.config.metadata.enumerationsDir) →
      Ascending t (p.resolve p.config.metadata.enumerationsDir) es) ∧
    (¬ t.isDirectory (p.resolve p.config.metadata.enumerationsDir) → es = [])
  stops : ∀ e, p.categoryFiles t = .error e → p.metadata t = .error e
  /-- The files give the categories one by one, and the enumerations one after the other. -/
  succeeds : ∀ cs es, p.categoryFiles t = .ok cs → p.enumerationFiles t = .ok es → ∀ m,
    p.metadata t = .ok m ↔
      List.Forall₂ (fun path c => readMetadataFile t Metadata.Category.parse path = .ok c)
        cs m.categories ∧
      ∃ parts, m.enumerations = parts.flatten ∧ List.Forall₂
        (fun path part => readMetadataFile t Metadata.parseEnumerations path = .ok part) es parts
  /-- The first file that cannot be read decides, and those of categories come first. -/
  fails : ∀ cs es, p.categoryFiles t = .ok cs → p.enumerationFiles t = .ok es → ∀ e,
    p.metadata t = .error e ↔
      FirstFault (readMetadataFile t Metadata.Category.parse) cs e ∨
        (∀ path ∈ cs, ∃ c, readMetadataFile t Metadata.Category.parse path = .ok c) ∧
          FirstFault (readMetadataFile t Metadata.parseEnumerations) es e
  /-- No other file is read. -/
  only : ∀ t' cs es, p.categoryFiles t = .ok cs → p.enumerationFiles t = .ok es →
    p.categoryFiles t' = .ok cs → p.enumerationFiles t' = .ok es →
    (∀ path ∈ cs ++ es, t'.readText? path = t.readText? path) → p.metadata t' = p.metadata t

theorem loading (p : Project) (t : FileTree) : p.Loading t where
  found hnone cs := by
    rw [categoryFiles, hnone]
    exact metadataFiles_eq_ok
  unfound hnone e := by
    rw [categoryFiles, hnone]
    exact metadataFiles_eq_error
  configured names hsome := by
    rw [categoryFiles, hsome]
  enumerations := p.exists_enumerationFiles t
  stops _ := metadata_of_error
  succeeds cs es hcs hes m := by
    rw [metadata_of_files hcs hes]
    exact readFiles_eq_ok
  fails cs es hcs hes e := by
    rw [metadata_of_files hcs hes]
    exact readFiles_eq_error
  only t' cs es hcs hes hcs' hes' hread := by
    rw [metadata_of_files hcs hes, metadata_of_files hcs' hes']
    exact readFiles_congr fun path hpath => by rw [readFile, readFile, hread path hpath]

/-- **The order in which directories list their names does not matter.** A project finds the same
files for its categories and for its enumerations, whichever order each directory is listed in, and
loads the same metadata or fails with the same error: that of the first file, in the configured order
or that of the names, categories first, which cannot be read. -/
theorem metadata_relisted (p : Project) {t t' : FileTree} (h : FileTree.Relisted t t') :
    p.categoryFiles t' = p.categoryFiles t ∧ p.enumerationFiles t' = p.enumerationFiles t ∧
      p.metadata t' = p.metadata t ∧ p.Loading t := by
  have hcategories : p.categoryFiles t' = p.categoryFiles t := p.categoryFiles_relisted h
  have henumerations : p.enumerationFiles t' = p.enumerationFiles t := p.enumerationFiles_relisted h
  refine ⟨hcategories, henumerations, ?_, p.loading t⟩
  obtain ⟨es, hes, -⟩ := p.exists_enumerationFiles t
  cases hcs : p.categoryFiles t with
  | error e => rw [metadata_of_error hcs, metadata_of_error (hcategories.trans hcs)]
  | ok cs =>
    exact (p.loading t).only t' cs es hcs hes (hcategories.trans hcs) (henumerations.trans hes)
      fun path _ => FileTree.readText?_congr h.entryAt? path

/-- A directory that lists two categories against their order, and a file of another kind. -/
def quoted : FileTree where
  entries :=
    [(["metadata"], .directory), (["metadata", "Categories"], .directory),
      (["metadata", "Categories", "quotes.xml"], .file 0 "<C name='quotes'/>".toUTF8),
      (["metadata", "Categories", "README.txt"], .file 1 "not metadata".toUTF8),
      (["metadata", "Categories", "options.xml"], .file 2 "<C name='options'/>".toUTF8)]
  fresh := 3

/-- What is in `quoted`. -/
def quotedMetadata : Metadata where
  categories := [⟨"options", "options", "", [], []⟩, ⟨"quotes", "quotes", "", [], []⟩]
  enumerations := []

/-- The categories come in the order of their names, though the directory lists them in another or in
the opposite of that. -/
theorem metadata_quoted :
    FileTree.Relisted quoted { quoted with entries := quoted.entries.reverse } ∧
      stray.metadata quoted = .ok quotedMetadata ∧
      stray.metadata { quoted with entries := quoted.entries.reverse } = .ok quotedMetadata := by
  have hrelisted : FileTree.Relisted quoted { quoted with entries := quoted.entries.reverse } :=
    FileTree.relisted_of_perm (by unfold FileTree.Distinct; decide) (List.reverse_perm _)
  obtain ⟨-, -, hsame, hloading⟩ := metadata_relisted stray hrelisted
  have hcategories : stray.categoryFiles quoted =
      .ok ["./metadata/Categories/options.xml", "./metadata/Categories/quotes.xml"] :=
    (hloading.found rfl _).2 ⟨["quotes.xml", "README.txt", "options.xml"],
      ["options.xml", "quotes.xml"], by decide +kernel, by decide +kernel, by decide, by decide +kernel⟩
  have henumerations : stray.enumerationFiles quoted = .ok [] := rfl
  have hoptions : readFile quoted "./metadata/Categories/options.xml" = .ok "<C name='options'/>" :=
    readFile_of_read rfl
  have hquotes : readFile quoted "./metadata/Categories/quotes.xml" = .ok "<C name='quotes'/>" :=
    readFile_of_read rfl
  have hmetadata : stray.metadata quoted = .ok quotedMetadata := by
    refine (hloading.succeeds _ _ hcategories henumerations _).2 ⟨.cons ?_ (.cons ?_ .nil), [], rfl, .nil⟩
    · rw [readMetadataFile, hoptions]
      exact eq_ok_of_toOption (by decide +kernel)
    · rw [readMetadataFile, hquotes]
      exact eq_ok_of_toOption (by decide +kernel)
  exact ⟨hrelisted, hmetadata, hsame.trans hmetadata⟩

end Bindery.Project
