import Bindery.Proofs.Compilation.Verdict
import Bindery.Proofs.Generator.Layout

/-! Pages written over each other.

A category may bear a name that a platform has for a file of its own. The file of the category and
that of the platform then have one path, and the later one is written over the earlier. Nothing in
loading or compiling keeps such names out; `paths_nodup_iff` says exactly which categories are hit,
and that no other two pages of a platform ever share a path. -/
namespace Bindery

namespace Generator

/-- A category with a file that a platform has of its own as well. -/
def Overwritten (r : Registry) (c : Registry.Category) : Platform → Prop
  | .c => c.name = "addin" ∧ C.declared c ≠ []
  | .excel => c.name = "all" ∧ (Excel.registered c ≠ [] ∨ c.constructors ≠ [])
  | .doxygen => c.functions ≠ [] ∧ (c.name = "all" ∨ c.name = "enums" ∧ r.enumerations ≠ [])
  | .serialization => c.name = "all" ∧ c.constructors ≠ []
  | .valueObjects => False

/-! ### Files by pattern and name -/

theorem nodup_reserved (platform : Platform) : (Slot.reserved platform).Nodup := by
  cases platform <;> decide +kernel

theorem pattern_mem_all {r : Registry} {platform : Platform} {s : Slot}
    (h : s ∈ Slot.all r platform) : s.1 ∈ Pattern.all platform := by
  rcases List.mem_append.1 h with h | h
  · obtain ⟨c, -, hs⟩ := List.mem_flatMap.1 h
    obtain ⟨f, hf, rfl⟩ := List.mem_map.1 hs
    exact (Pattern.ofCategory_sublist c platform).subset hf
  · exact pattern_mem_of_reserved platform s ((Slot.own_sublist r platform).subset h)

/-- Paths are told apart exactly where files are. -/
theorem nodup_paths (r : Registry) (platform : Platform) :
    ((Slot.all r platform).map Slot.path).Nodup ↔ (Slot.all r platform).Nodup := by
  refine ⟨List.Nodup.of_map _, List.Nodup.map_on fun s hs s' hs' hpath => ?_⟩
  obtain ⟨hpattern, hname⟩ :=
    Pattern.path_injective (pattern_mem_all hs) (pattern_mem_all hs') hpath
  exact Prod.ext hpattern hname

/-- The files of categories are told apart by the names of the categories. -/
theorem nodup_categories {cs : List Registry.Category} (names : (cs.map (·.name)).Nodup)
    (platform : Platform) : (cs.flatMap (Slot.ofCategory platform)).Nodup := by
  rw [List.nodup_flatMap]
  constructor
  · intro c _
    have hpatterns := (Pattern.nodup_all platform).sublist (Pattern.ofCategory_sublist c platform)
    exact hpatterns.map fun f g h => congrArg Prod.fst h
  · refine (List.pairwise_map.1 names).imp fun {c d} hne => ?_
    refine List.disjoint_left.2 fun s hc hd => ?_
    obtain ⟨f, -, rfl⟩ := List.mem_map.1 hc
    obtain ⟨g, -, hg⟩ := List.mem_map.1 hd
    exact hne (congrArg Prod.snd hg).symm

/-- The files of a category that a platform has as well. -/
theorem exists_mem_own_iff {r : Registry} {c : Registry.Category} (hc : c ∈ r.categories)
    (platform : Platform) :
    (∃ s ∈ Slot.own r platform, s.1 ∈ Pattern.ofCategory c platform ∧ c.name = s.2) ↔
      Overwritten r c platform := by
  cases platform with
  | c =>
    simp [Slot.own, Pattern.ofCategory, Overwritten, Pattern.prototypes, Pattern.bodies, and_comm]
  | excel =>
    simp [Slot.own, Pattern.ofCategory, Overwritten, Pattern.worksheetFunctions,
      Pattern.worksheetRegister, Pattern.registrationHeader, Pattern.registrationSource,
      Pattern.registrationFactory]
    tauto
  | doxygen =>
    have hfunctions : c.functions ≠ [] → r.functions ≠ [] := by
      intro hne hnil
      have hc' := List.flatMap_eq_nil_iff.1 hnil c hc
      exact hne (List.map_eq_nil_iff.1 hc')
    simp [Slot.own, Pattern.ofCategory, Overwritten]
    tauto
  | serialization =>
    simp [Slot.own, Pattern.ofCategory, Overwritten, Pattern.creatorHeader, Pattern.creatorSource,
      Pattern.creatorFactory, and_comm]
  | valueObjects => simp [Slot.own, Overwritten]

/-- Files are told apart unless a category has one that the platform has of its own. -/
theorem nodup_all_iff {r : Registry} (names : (r.categories.map (·.name)).Nodup)
    (platform : Platform) :
    (Slot.all r platform).Nodup ↔ ∀ c ∈ r.categories, ¬ Overwritten r c platform := by
  rw [Slot.all, List.nodup_append]
  constructor
  · rintro ⟨-, -, hapart⟩ c hc hover
    obtain ⟨⟨f, name⟩, hown, hf, rfl⟩ := (exists_mem_own_iff hc platform).2 hover
    exact hapart _ (List.mem_flatMap.2 ⟨c, hc, List.mem_map_of_mem hf⟩) _ hown rfl
  · refine fun h => ⟨nodup_categories names platform, (nodup_reserved platform).sublist (Slot.own_sublist r platform), ?_⟩
    rintro s hs s' hs' rfl
    obtain ⟨c, hc, hcs⟩ := List.mem_flatMap.1 hs
    obtain ⟨f, hf, rfl⟩ := List.mem_map.1 hcs
    exact h c hc ((exists_mem_own_iff hc platform).1 ⟨_, hs', hf, rfl⟩)

/-! ### Compiled metadata -/

/-- **Which pages of compiled metadata share a path.** -/
theorem paths_nodup_iff (kit : Kit) (registration : Registration) {project : ProjectNames}
    {m : Metadata}
    (hm : ∀ c ∈ m.categories, ∃ source filename, Metadata.Category.parse source filename = .ok c)
    {after : Compilation}
    (hrun : (Compilation.fresh project m).run Compilation.standard = (after, .ok ()))
    {r : Registry} (hr : after.registry = some r) (platform : Platform) :
    ((pagesOf kit registration r platform).map (·.path)).Nodup ↔
      ∀ c ∈ r.categories, ¬ Overwritten r c platform := by
  obtain ⟨hlawful, hmade⟩ := Compilation.registry_of_run (Metadata.sound_of_parsed hm) hrun hr
  have names : (r.categories.map (·.name)).Nodup := by
    rw [Registry.names_ofMetadata hmade]
    exact hlawful.categories
  rw [(paths_pagesOf kit registration r platform).nodup_iff, nodup_paths, nodup_all_iff names]

/-- A category with the name of the page that lists all functions. -/
def allSource : String :=
  "<C name='all'><Functions><Procedure name='f'><ReturnValue><type>long</type></ReturnValue>"
    ++ "</Procedure></Functions></C>"

/-- The category of `allSource`. -/
def allMetadata : Metadata where
  categories :=
    [⟨"all", "all", "", [],
      [⟨"f", .procedure, none, none, none, none, none, none, none, false, true, [], [],
        some ⟨.long, .scalar, ""⟩⟩]⟩]
  enumerations := []

/-- The registry of `allMetadata`. -/
def allRegistry : Registry where
  project := ⟨"P", "P", "p"⟩
  categories :=
    [⟨"all", "all", "", [],
      [⟨"f", .procedure none, "", none, "P::f", false, true, [], [Registry.trigger],
        ⟨.long, .scalar, ""⟩⟩]⟩]
  enumerations := []

/-- The page of the category is written over by the list of all functions; for worksheets nothing
is made from the category. -/
theorem paths_all :
    (∀ c ∈ allMetadata.categories, Metadata.Category.parse allSource "a.xml" = .ok c) ∧
      (∃ after, (Compilation.fresh ⟨"P", "P", "p"⟩ allMetadata).run Compilation.standard =
          (after, .ok ()) ∧ after.registry = some allRegistry) ∧
      ¬ ((pagesOf ⟨{}, {}⟩ ⟨"", "", none⟩ allRegistry .doxygen).map (·.path)).Nodup ∧
      ((pagesOf ⟨{}, {}⟩ ⟨"", "", none⟩ allRegistry .excel).map (·.path)).Nodup := by
  have hparse : ∀ c ∈ allMetadata.categories, Metadata.Category.parse allSource "a.xml" = .ok c :=
    Metadata.parse_of_chars (Metadata.append_chars rfl rfl) (by decide +kernel)
  have hmade : Registry.ofMetadata ⟨"P", "P", "p"⟩ allMetadata = .ok allRegistry :=
    eq_ok_of_toOption (by decide +kernel)
  have hparsed : ∀ c ∈ allMetadata.categories, ∃ source filename,
      Metadata.Category.parse source filename = .ok c := fun c hc => ⟨_, _, hparse c hc⟩
  have hrun := Compilation.run_standard (Metadata.sound_of_parsed hparsed) hmade
  rw [if_pos (by decide +kernel)] at hrun
  have hpaths := paths_nodup_iff ⟨{}, {}⟩ ⟨"", "", none⟩ hparsed hrun rfl
  refine ⟨hparse, ⟨_, hrun, rfl⟩, ?_, ?_⟩
  · rw [hpaths .doxygen]
    intro hnone
    exact hnone _ List.mem_cons_self ⟨by decide +kernel, .inl rfl⟩
  · rw [hpaths .excel]
    intro c hc
    obtain rfl := List.mem_singleton.1 hc
    rintro ⟨-, hregistered | hconstructors⟩
    · exact hregistered (by decide +kernel)
    · exact hconstructors (by decide +kernel)

end Generator
end Bindery
