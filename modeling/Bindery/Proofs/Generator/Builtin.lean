import Bindery.Proofs.Generator.Bodies

/-! The generators as they come.

The templates and rules that the platforms come with are sound for what their pages ask for. So a
generator that nothing is replaced for is there, and renders the copyright and all pages, for whatever
registry (`builtin_renders`). -/
namespace Bindery.Generator

/-- The templates of a platform, with what is bound for them. -/
def words : Platform → List (String × List String)
  | .c => C.words
  | .excel => Excel.words
  | .doxygen => Doxygen.words
  | .serialization => Serialization.words
  | .valueObjects => ValueObjects.words

/-- The groups of rules that a platform asks for. -/
def groups : Platform → List String
  | .c => C.groups
  | .excel => Excel.groups
  | .doxygen => Doxygen.groups
  | .serialization => Serialization.groups
  | .valueObjects => ValueObjects.groups

/-! ### What the platforms come with -/

set_option maxRecDepth 2000 in
/-- Every template speaks of what is bound for it only. -/
theorem keeps_words (platform : Platform) :
    List.Forall₂ Template.Keeps (templates platform) (words platform) := by
  cases platform <;> repeat first
    | exact .nil
    | refine .cons ⟨rfl, Template.speaks_lines (by repeat constructor) (by decide +kernel)⟩ ?_

theorem words_distinct (platform : Platform) : ((words platform).map Prod.fst).Nodup := by
  cases platform <;>
    exact Text.Spelled.nodup (by repeat constructor) (by decide)

/-- The code of every rule speaks of what is bound for rules only. -/
theorem codes_speak (platform : Platform) :
    ∀ code ∈ (rules platform).codes, Template.Speaks Rule.words ("codes." ++ code.1) code.2 := by
  have hcodes : ∀ code ∈ (rules platform).codes,
      Template.speaksOf Rule.words ("codes." ++ code.1) code.2.toList = true := by
    cases platform <;>
      exact Text.Spelled.all_sources (fun id => Template.speaksOf Rule.words ("codes." ++ id))
        (by repeat constructor) (by decide +kernel)
  exact fun code hcode => Template.speaks_iff.2 (hcodes code hcode)

/-- No rule refers to code that is not there. -/
theorem references_known (platform : Platform) :
    (rules platform).references ⊆ (rules platform).codes.map Prod.fst := by
  cases platform <;>
    exact Text.Spelled.subset (by repeat constructor) (by repeat constructor) (by decide)

/-- No page asks for a group of rules that is not there. -/
theorem groups_subset (platform : Platform) :
    groups platform ⊆ (rules platform).groups.map Prod.fst := by
  cases platform <;>
    exact Text.Spelled.subset (by repeat constructor) (by repeat constructor) (by decide)

theorem sound_builtin (platform : Platform) :
    Kit.Sound (words platform) (templates platform) (rules platform) where
  templates := keeps_words platform
  distinct := words_distinct platform
  codes := codes_speak platform
  known := references_known platform

/-! ### What they render -/

/-- Every page has a body when the kit serves the platform. -/
theorem rendered_of_serves {kit : Kit} {platform : Platform}
    (h : kit.Serves (words platform) (groups platform)) (settings : Registration) (r : Registry) :
    ∀ p ∈ pagesOf kit settings r platform, p.Rendered := by
  cases platform with
  | c => exact C.exists_body h r
  | excel => exact Excel.exists_body h settings r
  | doxygen => exact Doxygen.exists_body h r
  | serialization => exact Serialization.exists_body h r
  | valueObjects => exact ValueObjects.exists_body h r

/-- The copyright is a template of every platform. -/
theorem copyright_mem (platform : Platform) :
    ("copyright", ["project", "namespace"]) ∈ words platform := by
  cases platform <;> exact List.mem_cons_self

/-- **A generator that nothing is replaced for cannot fail to render.** It is there, and renders the
copyright of every project and all pages under every banner. -/
theorem builtin_renders (tree : FileTree) (registration : Registration) (r : Registry)
    (platform : Platform) :
    ∃ g, load tree none registration r platform = .ok g ∧
      (∀ project, ∃ s, g.copyrightOf project = .ok s) ∧
      ∀ banner, ∃ files, g.preview banner = .ok files := by
  obtain ⟨kit, hkit, hserves⟩ := Kit.exists_load (sound_builtin platform) tree platform
  have hall : kit.Serves (words platform) (groups platform) :=
    hserves.mono (List.Subset.refl _) (groups_subset platform)
  refine ⟨ofKit kit registration r platform, bind_eq_ok.2 ⟨kit, hkit, rfl⟩, fun project => ?_, ?_⟩
  · exact hall.exists_render (copyright_mem platform)
  · exact fun banner => Page.exists_preview_iff.2 (rendered_of_serves hall registration r)

end Bindery.Generator
