import Bindery.Proofs.Generator.Placement
import Bindery.Proofs.Output.Write
import Mathlib.Data.List.Nodup

/-! Generating twice.

Writing a page settles it: the page is where it belongs and nothing is in the way of writing it
again. Pages written later leave it settled, because page paths are proper and pages of one path
have one text. After a run that succeeds all pages are settled (`settled_of_writeAll`), and a run
over settled pages changes nothing (`writeAll_of_settled`). -/
namespace Bindery

/-- Numbers of files are nothing that a settled target depends on. -/
theorem OutputFile.Settled.skip {t : FileTree} {target : String} {bytes : ByteArray}
    (h : Settled t target bytes) (n : Nat) : Settled { t with fresh := n } target bytes :=
  have hkeeps : t.Keeps { t with fresh := n } := fun _ hd => hd
  ⟨hkeeps.place h.place, hkeeps.place h.tempPlace, h.holds, h.free⟩

namespace Generator

namespace Page
variable {t t' : FileTree} {dir : String} {banner : Banner} {page other : Page}

/-- Where a page is written. -/
def target (dir : String) (page : Page) : String := Path.join dir page.path

/-- The path of a page has proper segments. -/
def Placed (page : Page) : Prop := ∀ s ∈ Path.segments page.path, Proper s

/-- A page that is written already. -/
def Settled (t : FileTree) (dir : String) (banner : Banner) (page : Page) : Prop :=
  ∃ text, page.text banner = .ok text ∧ OutputFile.Settled t (page.target dir) text.toUTF8

/-! ### One page -/

theorem exists_of_write {outcome : Outcome} (hn : t.Numbered)
    (h : page.write t dir banner = (t', .ok outcome)) :
    ∃ text, page.text banner = .ok text ∧
      OutputFile.Written t t' (page.target dir) text.toUTF8 := by
  rw [write] at h
  cases htext : page.text banner with
  | error fault =>
    rw [htext] at h
    cases h
  | ok text =>
    rw [htext] at h
    cases hwrite : OutputFile.write t (Path.join dir page.path) text with
    | mk t₁ result =>
      simp only [hwrite] at h
      cases result with
      | error fault => cases h
      | ok outcome' =>
        cases h
        exact ⟨text, rfl, OutputFile.written_of_write hn hwrite⟩

theorem write_of_settled (hn : t.Numbered) (h : page.Settled t dir banner) :
    page.write t dir banner = ({ t with fresh := t.fresh + 1 }, .ok .unchanged) := by
  obtain ⟨text, htext, hsettled⟩ := h
  rw [write, htext]
  dsimp only
  rw [show Path.join dir page.path = page.target dir from rfl,
    OutputFile.write_of_settled hn hsettled]

/-- Another page leaves a settled page settled. -/
theorem Settled.write_other {text : String} (hpage : page.Placed) (hother : other.Placed)
    (hagree : other.path = page.path → other.text banner = page.text banner)
    (h : page.Settled t dir banner) (htext : other.text banner = .ok text)
    (hw : OutputFile.Written t t' (other.target dir) text.toUTF8) :
    page.Settled t' dir banner := by
  obtain ⟨text', htext', hsettled⟩ := h
  refine ⟨text', htext', hsettled.write_other hw ?_ ?_ ?_ ?_⟩
  · intro hplace
    have hsame := hagree (eq_of_ofPath_join hpage hother hplace)
    rw [htext, htext'] at hsame
    rw [Except.ok.inj hsame]
  · exact ofPath_tempOf_ne hpage hother
  · exact (ofPath_tempOf_ne hother hpage).symm
  · intro hroute
    -- The temporary file would be a directory on the way to its own page.
    obtain ⟨-, hopen, -⟩ := FileTree.place_eq_ok.1 hsettled.place
    have hdirectory := (hopen _ (mem_route_of_tempOf hpage hother hroute)).2
    have hfree := hsettled.free
    rw [target, hdirectory] at hfree
    cases hfree

/-! ### A run -/

/-- A run that succeeds settles its pages and those settled before. -/
theorem settled_of_writeAll (done : List Page) {pages : List Page} {summary summary' : Summary}
    (hplaced : ∀ p ∈ done ++ pages, p.Placed)
    (hagree : ∀ p ∈ done ++ pages, ∀ q ∈ done ++ pages, p.path = q.path →
      p.text banner = q.text banner)
    (hn : t.Numbered) (hdone : ∀ p ∈ done, p.Settled t dir banner)
    (h : writeAll t dir banner summary pages = (t', .ok summary')) :
    t'.Numbered ∧ ∀ p ∈ done ++ pages, p.Settled t' dir banner := by
  induction pages generalizing t done summary with
  | nil =>
    cases h
    rw [List.append_nil]
    exact ⟨hn, hdone⟩
  | cons page rest ih =>
    rw [writeAll] at h
    cases hwrite : page.write t dir banner with
    | mk t₁ result =>
      rw [hwrite] at h
      cases result with
      | error fault => cases h
      | ok outcome =>
        obtain ⟨text, htext, hw⟩ := exists_of_write hn hwrite
        have hpage : page ∈ done ++ page :: rest := List.mem_append_right _ List.mem_cons_self
        have hlist : done ++ page :: rest = (done ++ [page]) ++ rest := by
          rw [List.append_assoc, List.singleton_append]
        rw [hlist] at hplaced hagree hpage ⊢
        refine ih (done ++ [page]) hplaced hagree hw.numbered ?_ h
        intro p hp
        have hp' : p ∈ (done ++ [page]) ++ rest := List.mem_append_left _ hp
        rcases List.mem_append.1 hp with hp | hp
        · exact (hdone p hp).write_other (hplaced p hp') (hplaced page hpage)
            (hagree page hpage p hp') htext hw
        · rw [List.mem_singleton.1 hp]
          exact ⟨text, htext, hw.settled⟩

/-- A run over settled pages reports each of them unchanged and leaves all entries. -/
theorem writeAll_of_settled {pages : List Page} {summary : Summary} (hn : t.Numbered)
    (h : ∀ p ∈ pages, p.Settled t dir banner) :
    writeAll t dir banner summary pages =
      ({ t with fresh := t.fresh + pages.length },
        .ok { summary with unchanged := summary.unchanged ++ pages.map (target dir) }) := by
  induction pages generalizing t summary with
  | nil =>
    rw [List.map_nil, List.append_nil]
    rfl
  | cons page rest ih =>
    rw [List.forall_mem_cons] at h
    rw [writeAll, write_of_settled hn h.1]
    dsimp only
    have hrest : ∀ p ∈ rest, p.Settled { t with fresh := t.fresh + 1 } dir banner := by
      intro p hp
      obtain ⟨text, htext, hsettled⟩ := h.2 p hp
      exact ⟨text, htext, hsettled.skip _⟩
    rw [ih (hn.skip (Nat.le_succ _)) hrest]
    simp only [Summary.record, List.length_cons, List.map_cons, List.append_assoc,
      List.singleton_append, Nat.succ_add_eq_add_succ]
    rfl

end Page

/-! ### Generating -/

/-- **Generating again changes nothing.** Whatever the templates and rules, the directory and the
tree, a second run finds every page unchanged and leaves no temporary file, as the first did. -/
theorem write_again (kit : Kit) (registration : Registration) {r : Registry}
    (names : ∀ c ∈ r.categories, Text.isIdentifier c.name = true) (platform : Platform)
    (banner : Banner)
    (hagree : ∀ p ∈ pagesOf kit registration r platform, ∀ q ∈ pagesOf kit registration r platform,
      p.path = q.path → p.text banner = q.text banner)
    {t t₁ : FileTree} (hn : t.Numbered) {dir : String} {summary : Summary}
    (hfirst : (ofKit kit registration r platform).write t dir banner = (t₁, .ok summary)) :
    ∃ t₂, (ofKit kit registration r platform).write t₁ dir banner =
        (t₂, .ok { unchanged := (pagesOf kit registration r platform).map (Page.target dir) }) ∧
      t₂.entries = t₁.entries ∧
      ∀ p ∈ pagesOf kit registration r platform,
        t₁.find (OutputFile.tempOf (p.target dir)) = .error .missing ∧
          t₂.find (OutputFile.tempOf (p.target dir)) = .error .missing := by
  have hplaced : ∀ p ∈ pagesOf kit registration r platform, p.Placed := fun p hp =>
    proper_of_mem_pagesOf kit registration names hp
  obtain ⟨hn₁, hsettled⟩ := Page.settled_of_writeAll [] hplaced hagree hn nofun hfirst
  refine ⟨_, Page.writeAll_of_settled hn₁ hsettled, rfl, fun p hp => ?_⟩
  obtain ⟨text, -, h⟩ := hsettled p hp
  have h' := h.skip (t₁.fresh + (pagesOf kit registration r platform).length)
  exact ⟨FileTree.find_of_none h.tempPlace h.free, FileTree.find_of_none h'.tempPlace h'.free⟩

/-- Templates that say their names, and groups of rules without code. -/
def bareKit : Kit where
  templates := ⟨["c.header", "c.prototype", "c.addin"].map fun name => ⟨name, [.text name]⟩⟩
  rules := ⟨["prototype", "result"].map fun name => ⟨name, "", 0, "", "", false, []⟩⟩

/-- A category with one prototype. -/
def oneFunction : Registry where
  project := ⟨"P", "P", "p"⟩
  categories :=
    [⟨"a", "a", "", [],
      [⟨"f", .procedure none, "", none, "P::f", false, false, [⟨"C", .manual, true, false⟩], [],
        ⟨.long, .scalar, ""⟩⟩]⟩]
  enumerations := []

/-- Two headers, made and then left alone. -/
theorem write_oneFunction :
    ∃ t₁ t₂, (ofKit bareKit ⟨"", "", none⟩ oneFunction .c).write {} "o" ⟨"g", none⟩ =
        (t₁, .ok { created := ["o/a.h", "o/addin.h"] }) ∧
      (ofKit bareKit ⟨"", "", none⟩ oneFunction .c).write t₁ "o" ⟨"g", none⟩ =
        (t₂, .ok { unchanged := ["o/a.h", "o/addin.h"] }) ∧
      t₂.entries = t₁.entries := by
  have hnames : ∀ c ∈ oneFunction.categories, Text.isIdentifier c.name = true := by decide
  have hpaths : ((pagesOf bareKit ⟨"", "", none⟩ oneFunction .c).map (·.path)).Nodup := by
    decide +kernel
  have hcreated : ((ofKit bareKit ⟨"", "", none⟩ oneFunction .c).write {} "o" ⟨"g", none⟩).2.toOption =
      some { created := ["o/a.h", "o/addin.h"] } := by decide +kernel
  cases hfirst : (ofKit bareKit ⟨"", "", none⟩ oneFunction .c).write {} "o" ⟨"g", none⟩ with
  | mk t₁ result =>
    rw [hfirst] at hcreated
    cases result with
    | error fault => cases hcreated
    | ok summary =>
    cases hcreated
    have hagree : ∀ p ∈ pagesOf bareKit ⟨"", "", none⟩ oneFunction .c,
        ∀ q ∈ pagesOf bareKit ⟨"", "", none⟩ oneFunction .c,
          p.path = q.path → p.text ⟨"g", none⟩ = q.text ⟨"g", none⟩ := by
      intro p hp q hq heq
      rw [List.inj_on_of_nodup_map hpaths hp hq heq]
    obtain ⟨t₂, hsecond, hentries, -⟩ :=
      write_again bareKit ⟨"", "", none⟩ hnames .c ⟨"g", none⟩ hagree .empty hfirst
    exact ⟨t₁, t₂, rfl, hsecond, hentries⟩

end Generator
end Bindery
