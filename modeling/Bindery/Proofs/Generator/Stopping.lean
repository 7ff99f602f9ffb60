import Bindery.Proofs.FileTree.Look
import Bindery.Proofs.Generator.Preview

/-! Runs that stop.

A page is rendered before anything is done about its file. A run that comes to a page without a text
stops there and leaves what a run over the pages before it leaves (`Page.writeAll_of_stop`). Their
files are finished, and neither that page nor a later one has left anything behind
(`write_stopped`). -/
namespace Bindery.Generator

open OutputFile (spots tempOf)

/-- A tree in which some files below a directory are finished: they hold their texts, their temporary
files are gone, and all else is as in another tree but for directories on the way to them. -/
structure Finished (t t' : FileTree) (dir : String) (files : List (String × String)) : Prop where
  holds : ∀ f ∈ files, ∃ id, t'.entryAt? (placeIn dir f.1) = some (.file id f.2.toUTF8)
  swept : ∀ f ∈ files, t'.entryAt? (Place.ofPath (tempOf (Path.join dir f.1))) = none
  others : ∀ r, (∀ f ∈ files, r ∉ spots (Path.join dir f.1)) → t'.entryAt? r = t.entryAt? r ∨
    t.entryAt? r = none ∧ t'.entryAt? r = some .directory ∧ ∃ f ∈ files, r ∈ wayTo dir f.1

namespace Finished
variable {t t' : FileTree} {dir : String} {files : List (String × String)}

/-- Only directories on the way to the files are new. -/
theorem directory (h : Finished t t' dir files) {d : Place}
    (hd : t'.entryAt? d = some .directory) :
    t.entryAt? d = some .directory ∨ ∃ f ∈ files, d ∈ wayTo dir f.1 := by
  by_cases hspot : ∀ f ∈ files, d ∉ spots (Path.join dir f.1)
  · rcases h.others d hspot with hsame | ⟨-, -, hway⟩
    · exact .inl (hsame ▸ hd)
    · exact .inr hway
  · -- What is left at the places of the files is no directory.
    simp only [not_forall, not_not] at hspot
    obtain ⟨f, hf, hmem⟩ := hspot
    rcases List.mem_pair.1 hmem with rfl | rfl
    · obtain ⟨id, hid⟩ := h.holds f hf
      rw [placeIn, hd] at hid
      cases hid
    · have hnone := h.swept f hf
      rw [hd] at hnone
      cases hnone

/-- No file is made or changed elsewhere. -/
theorem bytes?_eq (h : Finished t t' dir files) {r : Place}
    (hr : ∀ f ∈ files, r ∉ spots (Path.join dir f.1)) : t'.bytes? r = t.bytes? r :=
  FileTree.bytes?_of_made (h.others r hr)

end Finished

/-- Files of different paths under one directory share no place. -/
theorem spots_disjoint {dir path other : String} (hpath : ∀ s ∈ Path.segments path, Proper s)
    (hother : ∀ s ∈ Path.segments other, Proper s) (hne : path ≠ other) {r : Place}
    (hr : r ∈ spots (Path.join dir path)) : r ∉ spots (Path.join dir other) := by
  intro hr'
  rcases List.mem_pair.1 hr with rfl | rfl
  · rcases List.mem_pair.1 hr' with heq | heq
    · exact hne (eq_of_ofPath_join hother hpath heq)
    · exact ofPath_tempOf_ne hpath hother heq.symm
  · rcases List.mem_pair.1 hr' with heq | heq
    · exact ofPath_tempOf_ne hother hpath heq
    · exact hne (eq_of_ofPath_tempOf_join hother hpath heq)

namespace Page
variable {t t' : FileTree} {dir : String} {banner : Banner} {summary summary' : Summary}

/-- A run goes over the first pages, and over the rest if they are all written. -/
theorem writeAll_append (front rest : List Page) :
    writeAll t dir banner summary (front ++ rest) =
      match writeAll t dir banner summary front with
      | (t', .ok summary') => writeAll t' dir banner summary' rest
      | (t', .error fault) => (t', .error fault) := by
  induction front generalizing t summary with
  | nil => rfl
  | cons page front ih =>
    rw [List.cons_append, writeAll, writeAll]
    cases page.write t dir banner with
    | mk t₁ result =>
      cases result with
      | error fault => rfl
      | ok outcome => exact ih

/-- A run stops at a page without a text, before anything is done about its file. -/
theorem writeAll_of_stop {front rest : List Page} {page : Page} {fault : Fault}
    (hfront : writeAll t dir banner summary front = (t', .ok summary'))
    (hfault : page.text banner = .error fault) :
    writeAll t dir banner summary (front ++ page :: rest) = (t', .error fault) := by
  rw [writeAll_append, hfront]
  dsimp only
  rw [writeAll, write, hfault]

/-- Only output stops a run over pages with texts. -/
theorem exists_output_of_writeAll {pages : List Page} {files : List (String × String)}
    (hshown : List.Forall₂ (Shown banner) pages files) {fault : Fault}
    (h : writeAll t dir banner summary pages = (t', .error fault)) :
    ∃ cause, fault = .output cause := by
  induction hshown generalizing t summary with
  | nil => cases h
  | @cons page f pages files hpage hrest ih =>
    rw [writeAll, write, hpage.2] at h
    dsimp only at h
    cases hwrite : OutputFile.write t (Path.join dir page.path) f.2 with
    | mk t₁ result =>
      rw [hwrite] at h
      cases result with
      | error cause =>
        cases h
        exact ⟨cause, rfl⟩
      | ok outcome => exact ih h

/-- A run leaves all places but those of its files as they were, or makes directories of them. -/
theorem entryAt?_of_writeAll {pages : List Page} {files : List (String × String)}
    (hshown : List.Forall₂ (Shown banner) pages files) (hn : t.Numbered)
    (h : writeAll t dir banner summary pages = (t', .ok summary')) {r : Place}
    (hr : ∀ f ∈ files, r ∉ spots (Path.join dir f.1)) :
    t'.entryAt? r = t.entryAt? r ∨
      t.entryAt? r = none ∧ t'.entryAt? r = some .directory ∧ ∃ f ∈ files, r ∈ wayTo dir f.1 := by
  induction hshown generalizing t summary with
  | nil =>
    cases h
    exact .inl rfl
  | @cons page f pages files hpage hrest ih =>
    obtain ⟨hpath, htext⟩ := hpage
    rw [writeAll, write, htext, hpath] at h
    dsimp only at h
    cases hwrite : OutputFile.write t (Path.join dir f.1) f.2 with
    | mk t₁ result =>
      rw [hwrite] at h
      cases result with
      | error cause => cases h
      | ok outcome =>
        have hw := OutputFile.written_of_write hn hwrite
        rw [List.forall_mem_cons] at hr
        obtain ⟨htarget, htemp⟩ := not_or.1 fun heq => hr.1 (List.mem_pair.2 heq)
        rcases ih hw.numbered h hr.2 with hlater | ⟨hnone, hdir, g, hg, hway⟩
        · rw [hlater]
          refine (hw.others r htarget htemp).imp_right ?_
          rintro ⟨hnone, hdir, hway⟩
          exact ⟨hnone, hdir, f, List.mem_cons_self, hway⟩
        · rcases hw.others r htarget htemp with hsame | ⟨-, hdir', -⟩
          · exact .inr ⟨hsame ▸ hnone, hdir, g, List.mem_cons_of_mem _ hg, hway⟩
          · rw [hnone] at hdir'
            cases hdir'

/-- A run that succeeds finishes its files. -/
theorem finished_of_writeAll {pages : List Page} {files : List (String × String)}
    (hshown : List.Forall₂ (Shown banner) pages files)
    (hplaced : ∀ p ∈ pages, p.Placed) (hdistinct : (pages.map (·.path)).Nodup) (hn : t.Numbered)
    (h : writeAll t dir banner summary pages = (t', .ok summary')) : Finished t t' dir files := by
  have hsettled : ∀ f ∈ files, OutputFile.Settled t' (Path.join dir f.1) f.2.toUTF8 := by
    intro f hf
    obtain ⟨p, hp, hpath, htext⟩ := exists_of_mem_right hshown hf
    have hagree : ∀ p ∈ pages, ∀ q ∈ pages, p.path = q.path → p.text banner = q.text banner :=
      fun p hp q hq heq => by rw [List.inj_on_of_nodup_map hdistinct hp hq heq]
    obtain ⟨-, hall⟩ := settled_of_writeAll [] hplaced hagree hn nofun h
    obtain ⟨text, htext', hsettled⟩ := hall p hp
    obtain rfl := Except.ok.inj (htext'.symm.trans htext)
    rwa [target, hpath] at hsettled
  exact ⟨fun f hf => (hsettled f hf).holds, fun f hf => (hsettled f hf).free,
    fun r hr => entryAt?_of_writeAll hshown hn h hr⟩

end Page

/-- **A page that cannot be rendered leaves nothing behind.** The run fails as its rendering does and
leaves the tree of a run over the pages before it: their files are finished, nothing is made or
changed where that page and the later ones and their temporary files belong, and no directories are
new but those on the way to the finished files. -/
theorem write_stopped (kit : Kit) (registration : Registration) {r : Registry}
    (names : ∀ c ∈ r.categories, Text.isIdentifier c.name = true) (platform : Platform)
    (banner : Banner) (dir : String) {t : FileTree} (hn : t.Numbered) {front rest : List Page}
    {page : Page} (hpages : pagesOf kit registration r platform = front ++ page :: rest)
    (hdistinct : ((pagesOf kit registration r platform).map (·.path)).Nodup)
    {files : List (String × String)} (hfiles : Page.preview banner front = .ok files)
    {fault : Fault} (hfault : page.text banner = .error fault)
    (hsound : ∀ cause, (Page.writeAll t dir banner {} front).2 ≠ .error (.output cause)) :
    ∃ t' summary, (ofKit kit registration r platform).write t dir banner = (t', .error fault) ∧
      Page.writeAll t dir banner {} front = (t', .ok summary) ∧
      Finished t t' dir files ∧
      (∀ p ∈ page :: rest, ∀ q ∈ spots (p.target dir), t'.bytes? q = t.bytes? q) ∧
      ∀ d, t'.entryAt? d = some .directory →
        t.entryAt? d = some .directory ∨ ∃ f ∈ files, d ∈ wayTo dir f.1 := by
  have hshown := Page.preview_eq_ok.1 hfiles
  have hplaced : ∀ p ∈ front ++ page :: rest, p.Placed := fun p hp =>
    proper_of_mem_pagesOf kit registration names (hpages ▸ hp)
  rw [hpages, List.map_append] at hdistinct
  cases hfront : Page.writeAll t dir banner {} front with
  | mk t' result =>
  cases result with
  | error stopped =>
    obtain ⟨cause, rfl⟩ := Page.exists_output_of_writeAll hshown hfront
    exact absurd (congrArg Prod.snd hfront) (hsound cause)
  | ok summary =>
    have hfinished := Page.finished_of_writeAll hshown
      (fun p hp => hplaced p (List.mem_append_left _ hp)) (List.Nodup.of_append_left hdistinct) hn
      hfront
    refine ⟨t', summary, ?_, rfl, hfinished, fun p hp q hq => hfinished.bytes?_eq fun f hf => ?_,
      fun d => hfinished.directory⟩
    · show Page.writeAll t dir banner {} (pagesOf kit registration r platform) = _
      rw [hpages]
      exact Page.writeAll_of_stop hfront hfault
    · obtain ⟨p', hp', hpath, -⟩ := exists_of_mem_right hshown hf
      rw [← hpath]
      have hne : p.path ≠ p'.path := fun heq =>
        List.disjoint_of_nodup_append hdistinct (List.mem_map_of_mem hp')
          (heq ▸ List.mem_map_of_mem hp)
      exact spots_disjoint (hplaced p (List.mem_append_right _ hp))
        (hplaced p' (List.mem_append_left _ hp')) hne hq

/-- A category with one prototype. -/
def declaredOnly : Registry.Category :=
  ⟨"a", "a", "", [],
    [⟨"f", .procedure none, "", none, "P::f", false, false, [⟨"C", .manual, true, false⟩], [],
      ⟨.long, .scalar, ""⟩⟩]⟩

/-- A category whose function has a body as well. -/
def bodied : Registry.Category :=
  ⟨"b", "b", "", [],
    [⟨"g", .procedure none, "", none, "P::g", false, false, [⟨"C", .auto, true, false⟩], [],
      ⟨.long, .scalar, ""⟩⟩]⟩

/-- The two headers before the body. -/
def twoHeaders : List (String × String) :=
  [("a.h", Banner.notice "g" ++ "c.header"), ("b.h", Banner.notice "g" ++ "c.header")]

/-- Without rules for conversions the body cannot be rendered. Two headers are finished, one of them
in the place of an old one; the source file and the last header are not begun. -/
theorem write_bodied :
    ∃ t', (ofKit bareKit ⟨"", "", none⟩ ⟨⟨"P", "P", "p"⟩, [declaredOnly, bodied], []⟩ .c).write stale
        "o" ⟨"g", none⟩ = (t', .error (.rule (.unknownGroup "conversions"))) ∧
      Finished stale t' "o" twoHeaders ∧
      t'.bytes? ["o", "b.cpp"] = none ∧ t'.bytes? ["o", "addin.h.temp"] = none := by
  have hnames : ∀ c ∈ [declaredOnly, bodied], Text.isIdentifier c.name = true := by decide
  have hnumbered : stale.Numbered := FileTree.Numbered.writeFile .empty _ _
  have hpages : pagesOf bareKit ⟨"", "", none⟩ ⟨⟨"P", "P", "p"⟩, [declaredOnly, bodied], []⟩ .c =
      [C.headerPage bareKit declaredOnly, C.headerPage bareKit bodied]
        ++ C.sourcePage bareKit ⟨"P", "P", "p"⟩ bodied
        :: [C.addinPage bareKit [declaredOnly, bodied]] := rfl
  have hshown : Page.preview ⟨"g", none⟩
      [C.headerPage bareKit declaredOnly, C.headerPage bareKit bodied] = .ok twoHeaders := by
    decide +kernel
  have hfault : (C.sourcePage bareKit ⟨"P", "P", "p"⟩ bodied).text ⟨"g", none⟩ =
      .error (.rule (.unknownGroup "conversions")) := by decide +kernel
  have hfront : (Page.writeAll stale "o" ⟨"g", none⟩ {}
      [C.headerPage bareKit declaredOnly, C.headerPage bareKit bodied]).2 =
        .ok { created := ["o/b.h"], updated := ["o/a.h"] } := by decide +kernel
  obtain ⟨t', summary, hwrite, -, hfinished, hbytes, -⟩ :=
    write_stopped bareKit ⟨"", "", none⟩ hnames .c ⟨"g", none⟩ "o" hnumbered hpages
      (by decide +kernel) hshown hfault (fun cause => by rw [hfront]; exact nofun)
  have hsource : ["o", "b.cpp"] ∈
      spots ((C.sourcePage bareKit ⟨"P", "P", "p"⟩ bodied).target "o") := by decide +kernel
  have hlast : ["o", "addin.h.temp"] ∈
      spots ((C.addinPage bareKit [declaredOnly, bodied]).target "o") := by decide +kernel
  refine ⟨t', hwrite, hfinished, ?_, ?_⟩
  · rw [hbytes _ List.mem_cons_self _ hsource]
    decide +kernel
  · rw [hbytes _ (List.mem_cons_of_mem _ List.mem_cons_self) _ hlast]
    decide +kernel

end Bindery.Generator
