import Bindery.Generator
import Mathlib.Data.List.Perm.Basic

/-! The layout of generated files.

A file is named after a category, or after a word that a platform has for a file of its own. What
stands before and after the name is its pattern. The patterns of a platform are told apart by their
ends, so that two pages have one path only where they have the same pattern and the same name
(`path_injective`). -/
namespace Bindery.Generator

/-- What stands around the name of a file. -/
structure Pattern where
  before : String
  after : String
deriving DecidableEq

namespace Pattern

/-- The path of a file with a name. -/
def path (f : Pattern) (name : String) : String := f.before ++ name ++ f.after

def prototypes : Pattern := ⟨"", ".h"⟩
def bodies : Pattern := ⟨"", ".cpp"⟩

def worksheetFunctions : Pattern := ⟨"Functions/", ".cpp"⟩
def worksheetRegister : Pattern := ⟨"Register/register_", ".cpp"⟩
def registrationHeader : Pattern := ⟨"Serialization/serialization_", ".hpp"⟩
def registrationSource : Pattern := ⟨"Serialization/serialization_", ".cpp"⟩
def registrationFactory : Pattern := ⟨"Serialization/serializationfactory", ".cpp"⟩

def docs : Pattern := ⟨"", ".docs"⟩

def creatorHeader : Pattern := ⟨"create_", ".hpp"⟩
def creatorSource : Pattern := ⟨"create_", ".cpp"⟩
def creatorFactory : Pattern := ⟨"serializationfactory", ".cpp"⟩

def classHeader : Pattern := ⟨"vo_", ".hpp"⟩
def classSource : Pattern := ⟨"vo_", ".cpp"⟩

/-- The patterns of a platform. -/
def all : Platform → List Pattern
  | .c => [prototypes, bodies]
  | .excel =>
    [worksheetFunctions, worksheetRegister, registrationHeader, registrationSource,
      registrationFactory]
  | .doxygen => [docs]
  | .serialization => [creatorHeader, creatorSource, creatorFactory]
  | .valueObjects => [classHeader, classSource]

/-- Patterns for something that is left out where there is nothing. -/
def unlessEmpty {α : Type} (xs : List α) (fs : List Pattern) : List Pattern :=
  if xs.isEmpty then [] else fs

/-- The patterns of the files of a category. -/
def ofCategory (c : Registry.Category) : Platform → List Pattern
  | .c => unlessEmpty (C.declared c) [prototypes] ++ unlessEmpty (C.defined c) [bodies]
  | .excel =>
    unlessEmpty (Excel.defined c) [worksheetFunctions]
      ++ unlessEmpty (Excel.registered c) [worksheetRegister]
      ++ unlessEmpty c.constructors [registrationHeader, registrationSource]
  | .doxygen => unlessEmpty c.functions [docs]
  | .serialization => unlessEmpty c.constructors [creatorHeader, creatorSource]
  | .valueObjects => unlessEmpty c.constructors [classHeader, classSource]

@[simp] theorem mem_unlessEmpty {α : Type} {xs : List α} {fs : List Pattern} {f : Pattern} :
    f ∈ unlessEmpty xs fs ↔ xs ≠ [] ∧ f ∈ fs := by
  cases xs <;> simp [unlessEmpty]

theorem unlessEmpty_sublist {α : Type} (xs : List α) (fs : List Pattern) :
    (unlessEmpty xs fs).Sublist fs := by
  cases xs
  · exact List.nil_sublist fs
  · exact List.Sublist.refl fs

theorem ofCategory_sublist (c : Registry.Category) (platform : Platform) :
    (ofCategory c platform).Sublist (all platform) := by
  cases platform with
  | c => exact (unlessEmpty_sublist _ [_]).append (unlessEmpty_sublist _ [_])
  | excel =>
    exact (((unlessEmpty_sublist _ [_]).append (unlessEmpty_sublist _ [_])).append
      (unlessEmpty_sublist _ [_, _])).trans (List.sublist_append_left _ [registrationFactory])
  | doxygen => exact unlessEmpty_sublist _ _
  | serialization =>
    exact (unlessEmpty_sublist _ [_, _]).trans (List.sublist_append_left _ [creatorFactory])
  | valueObjects => exact unlessEmpty_sublist _ _

/-! ### Patterns apart -/

/-- No text starts or ends as both patterns do. -/
def Apart (f g : Pattern) : Prop :=
  ¬ (f.before.toList <+: g.before.toList ∨ g.before.toList <+: f.before.toList) ∨
    ¬ (f.after.toList <:+ g.after.toList ∨ g.after.toList <:+ f.after.toList)

instance (f g : Pattern) : Decidable (f.Apart g) := by
  unfold Apart
  infer_instance

theorem toList_path (f : Pattern) (name : String) :
    (f.path name).toList = f.before.toList ++ name.toList ++ f.after.toList := by
  simp only [path, String.toList_append]

theorem before_isPrefix (f : Pattern) (name : String) :
    f.before.toList <+: (f.path name).toList := by
  rw [toList_path, List.append_assoc]
  exact List.prefix_append _ _

theorem after_isSuffix (f : Pattern) (name : String) :
    f.after.toList <:+ (f.path name).toList := by
  rw [toList_path]
  exact List.suffix_append _ _

theorem Apart.path_ne {f g : Pattern} (h : f.Apart g) (m n : String) : f.path m ≠ g.path n := by
  intro hpath
  have hbefore := g.before_isPrefix n
  have hafter := g.after_isSuffix n
  rw [← hpath] at hbefore hafter
  rcases h with h | h
  · exact h (List.prefix_or_prefix_of_prefix (f.before_isPrefix m) hbefore)
  · exact h (List.suffix_or_suffix_of_suffix (f.after_isSuffix m) hafter)

theorem apart_all (platform : Platform) :
    ∀ f ∈ all platform, ∀ g ∈ all platform, f ≠ g → f.Apart g := by
  cases platform <;> decide +kernel

theorem nodup_all (platform : Platform) : (all platform).Nodup := by
  cases platform <;> decide +kernel

/-- A path tells its pattern and its name. -/
theorem path_injective {platform : Platform} {f g : Pattern} (hf : f ∈ all platform)
    (hg : g ∈ all platform) {m n : String} (h : f.path m = g.path n) : f = g ∧ m = n := by
  by_cases hfg : f = g
  · subst hfg
    refine ⟨rfl, String.ext ?_⟩
    have hlist := congrArg String.toList h
    rw [toList_path, toList_path] at hlist
    exact List.append_cancel_left (List.append_cancel_right hlist)
  · exact absurd h ((apart_all platform f hf g hg hfg).path_ne m n)

end Pattern

/-! ### The pages of a platform -/

/-- The pages that a platform has for a category. -/
def pagesFor (kit : Kit) (settings : Registration) (r : Registry) (c : Registry.Category) :
    Platform → List Page
  | .c => C.categoryPages kit r.project c
  | .excel => Excel.categoryPages kit r.project c ++ settings.categoryPages kit r.project c
  | .doxygen => Doxygen.categoryPages kit c
  | .serialization => Serialization.categoryPages kit r.project c
  | .valueObjects => ValueObjects.categoryPages kit r.project c

/-- The categories with something to generate for. -/
def having (has : Registry.Category → List Registry.Function) (r : Registry) :
    List Registry.Category := r.categories.filter fun c => !(has c).isEmpty

/-- The pages that a platform has for all categories. -/
def commonPages (kit : Kit) (settings : Registration) (r : Registry) : Platform → List Page
  | .c => [C.addinPage kit (having C.declared r)]
  | .excel =>
    [Excel.registerAllPage kit (having Excel.registered r),
      settings.allPage kit r.project (having Registry.Category.constructors r),
      settings.factoryPage kit r.project (having Registry.Category.constructors r)]
  | .doxygen =>
    (if r.functions.isEmpty then [] else [Doxygen.allDocs kit (r.functions.map Prod.snd)])
      ++ (if r.enumerations.isEmpty then [] else [Doxygen.enumerationDocs kit r.enumerations])
  | .serialization =>
    [Serialization.allPage kit r.project (having Registry.Category.constructors r),
      Serialization.factoryPage kit r.project (having Registry.Category.constructors r)]
  | .valueObjects => []

/-- The pages of a platform are those of the categories and the common ones. Those for worksheets
come in another order. -/
theorem pagesOf_perm (kit : Kit) (settings : Registration) (r : Registry) (platform : Platform) :
    (pagesOf kit settings r platform).Perm
      (r.categories.flatMap (pagesFor kit settings r · platform)
        ++ commonPages kit settings r platform) := by
  cases platform with
  | c => exact .refl _
  | excel =>
    refine .trans ?_ ((List.flatMap_append_perm _ _ _).append_right _)
    rw [List.append_assoc]
    exact List.perm_middle.symm.append_left _
  | doxygen =>
    refine .of_eq ?_
    simp only [pagesOf, Doxygen.pages, commonPages, List.isEmpty_map, List.append_assoc]
    rfl
  | serialization => exact .refl _
  | valueObjects => exact .of_eq (List.append_nil _).symm

/-- The pages for a category are among the pages. -/
theorem pagesFor_subset (kit : Kit) (settings : Registration) (r : Registry)
    {c : Registry.Category} (hc : c ∈ r.categories) (platform : Platform) :
    pagesFor kit settings r c platform ⊆ pagesOf kit settings r platform := fun _ hp =>
  (pagesOf_perm kit settings r platform).mem_iff.2
    (List.mem_append_left _ (List.mem_flatMap.2 ⟨c, hc, hp⟩))

/-! ### Their paths -/

/-- A file by its pattern and its name. -/
abbrev Slot := Pattern × String

/-- The path of a file. -/
def Slot.path (s : Slot) : String := s.1.path s.2

/-- The files of a category. -/
def Slot.ofCategory (platform : Platform) (c : Registry.Category) : List Slot :=
  (Pattern.ofCategory c platform).map (·, c.name)

/-- The files that a platform has of its own. -/
def Slot.own (r : Registry) : Platform → List Slot
  | .c => [(.prototypes, "addin")]
  | .excel =>
    [(.worksheetRegister, "all"), (.registrationHeader, "all"), (.registrationFactory, "")]
  | .doxygen =>
    (if r.functions.isEmpty then [] else [(.docs, "all")])
      ++ (if r.enumerations.isEmpty then [] else [(.docs, "enums")])
  | .serialization => [(.creatorHeader, "all"), (.creatorFactory, "")]
  | .valueObjects => []

/-- The files that a platform can have of its own. -/
def Slot.reserved : Platform → List Slot
  | .c => [(.prototypes, "addin")]
  | .excel =>
    [(.worksheetRegister, "all"), (.registrationHeader, "all"), (.registrationFactory, "")]
  | .doxygen => [(.docs, "all"), (.docs, "enums")]
  | .serialization => [(.creatorHeader, "all"), (.creatorFactory, "")]
  | .valueObjects => []

theorem pattern_mem_of_reserved (platform : Platform) :
    ∀ s ∈ Slot.reserved platform, s.1 ∈ Pattern.all platform := by
  cases platform <;> decide +kernel

/-- All files of a platform. -/
def Slot.all (r : Registry) (platform : Platform) : List Slot :=
  r.categories.flatMap (Slot.ofCategory platform) ++ Slot.own r platform

theorem Slot.own_sublist (r : Registry) (platform : Platform) :
    (Slot.own r platform).Sublist (Slot.reserved platform) := by
  cases platform with
  | doxygen =>
    show List.Sublist _ ([(Pattern.docs, "all")] ++ [(Pattern.docs, "enums")])
    refine List.Sublist.append ?_ ?_ <;>
      split <;> simp
  | _ => exact List.Sublist.refl _

theorem map_path_ofCategory (c : Registry.Category) (platform : Platform) :
    (Slot.ofCategory platform c).map Slot.path =
      (Pattern.ofCategory c platform).map (·.path c.name) := by
  rw [Slot.ofCategory, List.map_map]
  rfl

theorem map_path_all (r : Registry) (platform : Platform) :
    (Slot.all r platform).map Slot.path =
      r.categories.flatMap (fun c => (Pattern.ofCategory c platform).map (·.path c.name))
        ++ (Slot.own r platform).map Slot.path := by
  simp only [Slot.all, List.map_append, List.map_flatMap, map_path_ofCategory]

variable (kit : Kit) (registration : Registration) (project : ProjectNames) (r : Registry)
  (c : Registry.Category)

/-- Pages that are left out as the files of their patterns are. -/
theorem paths_unlessEmpty {α : Type} {xs : List α} {pages : List Page} {fs : List Pattern}
    {name : String} (h : pages.map (·.path) = fs.map (·.path name)) :
    (if xs.isEmpty then [] else pages).map (·.path) =
      (Pattern.unlessEmpty xs fs).map (·.path name) := by
  unfold Pattern.unlessEmpty
  split
  · rfl
  · exact h

theorem C.paths_categoryPages :
    (C.categoryPages kit project c).map (·.path) =
      (Pattern.ofCategory c .c).map (·.path c.name) := by
  rw [C.categoryPages, Pattern.ofCategory, List.map_append, List.map_append]
  congr 1
  · refine paths_unlessEmpty ?_
    simp [C.headerPage, Pattern.path, Pattern.prototypes]
  · refine paths_unlessEmpty ?_
    simp [C.sourcePage, Pattern.path, Pattern.bodies]

theorem Registration.paths_categoryPages :
    (Registration.categoryPages kit registration project c).map (·.path) =
      (Pattern.unlessEmpty c.constructors [.registrationHeader, .registrationSource]).map
        (·.path c.name) :=
  paths_unlessEmpty rfl

theorem Excel.paths_categoryPages :
    (Excel.categoryPages kit project c).map (·.path)
        ++ (Registration.categoryPages kit registration project c).map (·.path) =
      (Pattern.ofCategory c .excel).map (·.path c.name) := by
  rw [Excel.categoryPages, Pattern.ofCategory, List.map_append, List.map_append, List.map_append,
    Registration.paths_categoryPages]
  congr 2
  · exact paths_unlessEmpty rfl
  · exact paths_unlessEmpty rfl

theorem Doxygen.paths_categoryPages :
    (Doxygen.categoryPages kit c).map (·.path) =
      (Pattern.ofCategory c .doxygen).map (·.path c.name) := by
  refine paths_unlessEmpty ?_
  simp [Doxygen.categoryDocs, Pattern.path, Pattern.docs]

theorem Serialization.paths_categoryPages :
    (Serialization.categoryPages kit project c).map (·.path) =
      (Pattern.ofCategory c .serialization).map (·.path c.name) :=
  paths_unlessEmpty rfl

theorem ValueObjects.paths_categoryPages :
    (ValueObjects.categoryPages kit project c).map (·.path) =
      (Pattern.ofCategory c .valueObjects).map (·.path c.name) :=
  paths_unlessEmpty rfl

theorem paths_pagesFor (platform : Platform) :
    (pagesFor kit registration r c platform).map (·.path) =
      (Pattern.ofCategory c platform).map (·.path c.name) := by
  cases platform with
  | c => exact C.paths_categoryPages kit r.project c
  | excel => rw [pagesFor, List.map_append, Excel.paths_categoryPages]
  | doxygen => exact Doxygen.paths_categoryPages kit c
  | serialization => exact Serialization.paths_categoryPages kit r.project c
  | valueObjects => exact ValueObjects.paths_categoryPages kit r.project c

theorem paths_commonPages (platform : Platform) :
    (commonPages kit registration r platform).map (·.path) =
      (Slot.own r platform).map Slot.path := by
  cases platform with
  | doxygen =>
    rw [commonPages, Slot.own, List.map_append, List.map_append]
    congr 1 <;> split <;> rfl
  | _ => rfl

/-- The pages of a platform are the files of its layout. -/
theorem paths_pagesOf (platform : Platform) :
    ((pagesOf kit registration r platform).map (·.path)).Perm
      ((Slot.all r platform).map Slot.path) := by
  refine ((pagesOf_perm kit registration r platform).map _).trans (.of_eq ?_)
  rw [map_path_all, List.map_append, List.map_flatMap, paths_commonPages]
  simp only [paths_pagesFor]

end Bindery.Generator
