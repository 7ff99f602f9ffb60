import Bindery.Project.Generation
import Bindery.Proofs.Generator.Again
import Bindery.Proofs.Generator.Bodies
import Bindery.Proofs.Output.Foreseen

/-! Previews that come true.

A preview lists the paths and texts of all pages. A run writes one page after the other into a tree
that it changes as it goes. Each write finds its target as the first tree has it, because the pages
before it lie elsewhere (`Committed.entryAt?_eq`), so that what becomes of every file is foreseen in
the first tree, and in the end the tree is the first one with the files of the preview
(`write_previewed`). -/
namespace Bindery.Generator

/-- The place of a file below a directory. -/
def placeIn (dir path : String) : Place := Place.ofPath (Path.join dir path)

/-- The directories on the way to a file below a directory. -/
def wayTo (dir path : String) : List Place :=
  (FileTree.start (Path.join dir path)).route (Path.above (Path.join dir path))

/-- A tree with some files below a directory, and otherwise as another tree but for directories on
the way to them. -/
structure Committed (t t' : FileTree) (dir : String) (files : List (String × String)) : Prop where
  holds : ∀ f ∈ files, ∃ id, t'.entryAt? (placeIn dir f.1) = some (.file id f.2.toUTF8)
  others : ∀ r, (∀ f ∈ files, r ≠ placeIn dir f.1) → t'.entryAt? r = t.entryAt? r ∨
    t.entryAt? r = none ∧ t'.entryAt? r = some .directory ∧ ∃ f ∈ files, r ∈ wayTo dir f.1

/-- The files that something is foreseen for, in their order. -/
def listed (t : FileTree) (dir : String) (files : List (String × String)) (outcome : Outcome) :
    List String :=
  (files.filter fun f => OutputFile.foreseen t (placeIn dir f.1) f.2.toUTF8 = outcome).map
    fun f => Path.join dir f.1

/-- A summary that lists every file once, by what is foreseen for it. -/
structure Foretold (t : FileTree) (dir : String) (files : List (String × String))
    (summary : Summary) : Prop where
  created : summary.created = listed t dir files .created
  updated : summary.updated = listed t dir files .updated
  unchanged : summary.unchanged = listed t dir files .unchanged
  distinct : (files.map fun f => Path.join dir f.1).Nodup
  once : (summary.created ++ summary.updated ++ summary.unchanged).Perm
    (files.map fun f => Path.join dir f.1)

namespace Committed
variable {t t₁ t₂ : FileTree} {dir : String} {done : List (String × String)} {path text : String}

theorem nil (t : FileTree) (dir : String) : Committed t t dir [] := ⟨nofun, fun _ _ => .inl rfl⟩

/-- A file that is still to come is written where nothing has changed. -/
theorem entryAt?_eq (h : Committed t t₁ dir done)
    (hnew : ∀ f ∈ done, placeIn dir path ≠ placeIn dir f.1)
    (hw : OutputFile.Written t₁ t₂ (Path.join dir path) text.toUTF8) :
    t₁.entryAt? (placeIn dir path) = t.entryAt? (placeIn dir path) := by
  rcases h.others _ hnew with hsame | ⟨-, hdir, -⟩
  · exact hsame
  · exact absurd hdir hw.free

/-- One more file is written. -/
theorem concat (h : Committed t t₁ dir done)
    (hnew : ∀ f ∈ done, placeIn dir path ≠ placeIn dir f.1)
    (hapart : ∀ f ∈ done, Place.ofPath (OutputFile.tempOf (Path.join dir path)) ≠ placeIn dir f.1)
    (hclear : t.entryAt? (Place.ofPath (OutputFile.tempOf (Path.join dir path))) = none)
    (hw : OutputFile.Written t₁ t₂ (Path.join dir path) text.toUTF8) :
    Committed t t₂ dir (done ++ [(path, text)]) where
  holds := by
    intro f hf
    rcases List.mem_append.1 hf with hf | hf
    · obtain ⟨id, hid⟩ := h.holds f hf
      rcases hw.others _ (hnew f hf).symm (hapart f hf).symm with hsame | ⟨hnone, -⟩
      · exact ⟨id, hsame.trans hid⟩
      · rw [hid] at hnone
        cases hnone
    · rw [List.mem_singleton.1 hf]
      exact hw.settled.holds
  others := by
    intro r hr
    rw [List.forall_mem_append, List.forall_mem_singleton] at hr
    have hold := h.others r hr.1
    by_cases htemp : r = Place.ofPath (OutputFile.tempOf (Path.join dir path))
    · -- The temporary file was not there, and it is gone.
      subst htemp
      exact .inl (hw.settled.free.trans hclear.symm)
    · rcases hw.others r hr.2 htemp with hsame | ⟨hnone, hdir, hroute⟩
      · rw [hsame]
        refine hold.imp_right fun ⟨hnone, hdir, f, hf, hroute⟩ => ⟨hnone, hdir, f, ?_, hroute⟩
        exact List.mem_append_left _ hf
      · rcases hold with hsame | ⟨-, hdir', -⟩
        · refine .inr ⟨hsame ▸ hnone, hdir, (path, text), ?_, hroute⟩
          exact List.mem_append_right _ (List.mem_singleton_self _)
        · rw [hnone] at hdir'
          cases hdir'

end Committed

/-! ### Summaries -/

section Outcomes
variable {α : Type} (outcome : α → Outcome)

/-- Files recorded one after the other are listed by what becomes of them. -/
theorem foldl_record (target : α → String) (files : List α) (summary : Summary) :
    files.foldl (fun s f => s.record (target f) (outcome f)) summary =
      { created := summary.created ++ (files.filter (outcome · = .created)).map target
        updated := summary.updated ++ (files.filter (outcome · = .updated)).map target
        unchanged := summary.unchanged ++ (files.filter (outcome · = .unchanged)).map target } := by
  induction files generalizing summary with
  | nil => simp
  | cons f rest ih =>
    rw [List.foldl_cons, ih]
    cases houtcome : outcome f <;> simp [Summary.record, houtcome]

/-- Every file has one outcome. -/
theorem outcomes_perm (files : List α) :
    (files.filter (outcome · = .created) ++ files.filter (outcome · = .updated)
      ++ files.filter (outcome · = .unchanged)).Perm files := by
  induction files with
  | nil => exact .refl _
  | cons f rest ih =>
    cases houtcome : outcome f with
    | created => simpa [houtcome] using ih
    | updated =>
      refine .trans ?_ (ih.cons f)
      simp [houtcome, List.perm_middle]
    | unchanged =>
      refine .trans ?_ (ih.cons f)
      -- Both lists before it are passed at once.
      simp [houtcome, -List.append_assoc, List.perm_middle]

end Outcomes

/-- What is foreseen file by file makes a summary that lists every file once. -/
theorem foretold_foldl (t : FileTree) (dir : String) {files : List (String × String)}
    (hproper : ∀ f ∈ files, ∀ s ∈ Path.segments f.1, Proper s)
    (hdistinct : (files.map Prod.fst).Nodup) :
    Foretold t dir files (files.foldl (fun s f => s.record (Path.join dir f.1)
      (OutputFile.foreseen t (placeIn dir f.1) f.2.toUTF8)) {}) := by
  have hmap : (files.map fun f => Path.join dir f.1) =
      (files.map Prod.fst).map (Path.join dir) := by
    rw [List.map_map]
    rfl
  have hinj : ∀ a ∈ files.map Prod.fst, ∀ b ∈ files.map Prod.fst,
      Path.join dir a = Path.join dir b → a = b := by
    intro a ha b hb heq
    obtain ⟨f, hf, rfl⟩ := List.mem_map.1 ha
    obtain ⟨g, hg, rfl⟩ := List.mem_map.1 hb
    exact eq_of_ofPath_join (hproper g hg) (hproper f hf) (congrArg Place.ofPath heq)
  have hperm := (outcomes_perm (fun f : String × String =>
    OutputFile.foreseen t (placeIn dir f.1) f.2.toUTF8) files).map fun f => Path.join dir f.1
  rw [List.map_append, List.map_append] at hperm
  rw [foldl_record fun f : String × String =>
    OutputFile.foreseen t (placeIn dir f.1) f.2.toUTF8]
  exact ⟨rfl, rfl, rfl, hmap ▸ hdistinct.map_on hinj, hperm⟩

/-! ### Runs -/

namespace Page

/-- What a preview shows of a page. -/
def Shown (banner : Banner) (page : Page) (f : String × String) : Prop :=
  page.path = f.1 ∧ page.text banner = .ok f.2

theorem preview_eq_ok {banner : Banner} {pages : List Page} {files : List (String × String)} :
    preview banner pages = .ok files ↔ List.Forall₂ (Shown banner) pages files := by
  rw [preview, mapM_eq_ok]
  refine ⟨List.Forall₂.imp fun p f h => ?_, List.Forall₂.imp fun p f h => ?_⟩
  · obtain ⟨text, htext, rfl⟩ := map_eq_ok.1 h
    exact ⟨rfl, htext⟩
  · exact map_eq_ok.2 ⟨f.2, h.2, by rw [h.1]⟩

variable {t t₁ : FileTree} {dir : String} {banner : Banner}

/-- A file with a name of its own is written to none of the places of the files before it, and
neither is its temporary file. -/
theorem apart_of_distinct (dir : String) {done files : List (String × String)} {path text : String}
    (hproper : ∀ f ∈ done ++ (path, text) :: files, ∀ s ∈ Path.segments f.1, Proper s)
    (hdistinct : ((done ++ (path, text) :: files).map Prod.fst).Nodup) :
    ∀ f ∈ done, placeIn dir path ≠ placeIn dir f.1 ∧
      Place.ofPath (OutputFile.tempOf (Path.join dir path)) ≠ placeIn dir f.1 := by
  intro f hf
  have hfile := hproper f (List.mem_append_left _ hf)
  have hpath := hproper (path, text) (List.mem_append_right _ List.mem_cons_self)
  refine ⟨fun heq => ?_, ofPath_tempOf_ne hfile hpath⟩
  have hsame := eq_of_ofPath_join hfile hpath heq
  rw [List.map_append] at hdistinct
  exact List.disjoint_of_nodup_append hdistinct (List.mem_map_of_mem hf)
    (hsame ▸ List.mem_cons_self)

/-- A run over pages that are all shown is stopped by output only. Otherwise it commits what is
shown, and records what was foreseen. -/
theorem writeAll_of_shown (done : List (String × String)) {pages : List Page}
    {files : List (String × String)} {summary : Summary}
    (hshown : List.Forall₂ (Shown banner) pages files)
    (hproper : ∀ f ∈ done ++ files, ∀ s ∈ Path.segments f.1, Proper s)
    (hdistinct : ((done ++ files).map Prod.fst).Nodup)
    (hclear : ∀ f ∈ files, t.entryAt? (Place.ofPath (OutputFile.tempOf (Path.join dir f.1))) = none)
    (hn : t₁.Numbered) (hdone : Committed t t₁ dir done) :
    (∃ t₂ fault, writeAll t₁ dir banner summary pages = (t₂, .error (.output fault))) ∨
      ∃ t₂, Committed t t₂ dir (done ++ files) ∧
        writeAll t₁ dir banner summary pages = (t₂, .ok (files.foldl (fun s f =>
          s.record (Path.join dir f.1)
            (OutputFile.foreseen t (placeIn dir f.1) f.2.toUTF8)) summary)) := by
  induction hshown generalizing done t₁ summary with
  | nil => exact .inr ⟨t₁, by rwa [List.append_nil], rfl⟩
  | @cons page f pages files hpage hrest ih =>
    obtain ⟨path, text⟩ := f
    obtain ⟨hpath, htext⟩ := hpage
    rw [writeAll, write, htext, hpath]
    dsimp only
    cases hwrite : OutputFile.write t₁ (Path.join dir path) text with
    | mk t₂ result =>
      cases result with
      | error fault => exact .inl ⟨t₂, fault, rfl⟩
      | ok outcome =>
        have hw := OutputFile.written_of_write hn hwrite
        have hapart := apart_of_distinct dir hproper hdistinct
        have hnew := fun f hf => (hapart f hf).1
        rw [List.forall_mem_cons] at hclear
        have hcommitted := hdone.concat hnew (fun f hf => (hapart f hf).2) hclear.1 hw
        have houtcome : outcome = OutputFile.foreseen t (placeIn dir path) text.toUTF8 :=
          (OutputFile.outcome_of_write hn hwrite).trans
            (OutputFile.foreseen_congr (hdone.entryAt?_eq hnew hw) _)
        rw [houtcome]
        have hlist : done ++ (path, text) :: files = (done ++ [(path, text)]) ++ files := by
          rw [List.append_assoc, List.singleton_append]
        rw [hlist] at hproper hdistinct ⊢
        exact ih _ hproper hdistinct hclear.2 hw.numbered hcommitted

end Page

/-- **A preview comes true.** There is one exactly when all pages are rendered, and looking at it
changes nothing. A run that meets no fault of output then leaves its files and nothing else, and
reports each of them by what was there at first. -/
theorem write_previewed (kit : Kit) (registration : Registration) {r : Registry}
    (names : ∀ c ∈ r.categories, Text.isIdentifier c.name = true) (platform : Platform)
    (banner : Banner) (dir : String) {t : FileTree} (hn : t.Numbered) :
    ((∃ files, (ofKit kit registration r platform).preview banner = .ok files) ↔
      ∀ p ∈ pagesOf kit registration r platform, p.Rendered) ∧
    Project.produce t (ofKit kit registration r platform) banner dir true =
      (t, ((ofKit kit registration r platform).preview banner).map fun files =>
        .preview (files.map fun f => (Path.join dir f.1, f.2))) ∧
    ∀ files, (ofKit kit registration r platform).preview banner = .ok files →
      (files.map Prod.fst).Nodup →
      (∀ f ∈ files, t.entryAt? (Place.ofPath (OutputFile.tempOf (Path.join dir f.1))) = none) →
      (∀ fault, ((ofKit kit registration r platform).write t dir banner).2 ≠
        .error (.output fault)) →
      ∃ t' summary, (ofKit kit registration r platform).write t dir banner = (t', .ok summary) ∧
        Committed t t' dir files ∧ Foretold t dir files summary := by
  refine ⟨Page.exists_preview_iff, rfl, fun files hfiles hdistinct hclear hsound => ?_⟩
  have hshown := Page.preview_eq_ok.1 hfiles
  have hproper : ∀ f ∈ files, ∀ s ∈ Path.segments f.1, Proper s := by
    intro f hf
    obtain ⟨p, hp, hpath, -⟩ := exists_of_mem_right hshown hf
    rw [← hpath]
    exact proper_of_mem_pagesOf kit registration names hp
  rcases Page.writeAll_of_shown [] hshown hproper hdistinct hclear hn (.nil t dir) with
    ⟨t', fault, hfault⟩ | ⟨t', hcommitted, hwritten⟩
  · exact absurd (congrArg Prod.snd hfault) (hsound fault)
  · exact ⟨t', _, hwritten, hcommitted, foretold_foldl t dir hproper hdistinct⟩

/-- A directory with an old header. -/
def stale : FileTree := (FileTree.writeFile {} "o/a.h" "old".toUTF8).1

/-- The headers of `oneFunction`. -/
def headers : List (String × String) :=
  [("a.h", Banner.notice "g" ++ "c.header"), ("addin.h", Banner.notice "g" ++ "c.addin")]

/-- The old header is updated, and the other is created. -/
theorem write_stale :
    (ofKit bareKit ⟨"", "", none⟩ oneFunction .c).preview ⟨"g", none⟩ = .ok headers ∧
      ∃ t', (ofKit bareKit ⟨"", "", none⟩ oneFunction .c).write stale "o" ⟨"g", none⟩ =
          (t', .ok { created := ["o/addin.h"], updated := ["o/a.h"] }) ∧
        Committed stale t' "o" headers := by
  have hnames : ∀ c ∈ oneFunction.categories, Text.isIdentifier c.name = true := by decide
  have hnumbered : stale.Numbered := FileTree.Numbered.writeFile .empty _ _
  have hpreview :
      (ofKit bareKit ⟨"", "", none⟩ oneFunction .c).preview ⟨"g", none⟩ = .ok headers := by
    decide +kernel
  have hclear : ∀ f ∈ headers,
      (stale.entryAt? (Place.ofPath (OutputFile.tempOf (Path.join "o" f.1)))).isNone = true := by
    decide +kernel
  have hwritten : ((ofKit bareKit ⟨"", "", none⟩ oneFunction .c).write stale "o" ⟨"g", none⟩).2 =
      .ok { created := ["o/addin.h"], updated := ["o/a.h"] } := by decide +kernel
  obtain ⟨t', summary, hwrite, hcommitted, -⟩ :=
    (write_previewed bareKit ⟨"", "", none⟩ hnames .c ⟨"g", none⟩ "o" hnumbered).2.2 headers
      hpreview
      (by decide +kernel) (fun f hf => Option.isNone_iff_eq_none.1 (hclear f hf))
      (fun fault => by rw [hwritten]; exact nofun)
  refine ⟨hpreview, t', ?_, hcommitted⟩
  rw [hwrite] at hwritten
  rw [hwrite, ← hwritten]

end Bindery.Generator
