import Bindery.Proofs.Generator.Stopping

/-! What each page is made from.

The pages of a platform are those of its categories and a few that are common to all. The pages of a
category are made from that category and the project alone, and most of the common ones from names
alone, so that a change to one category leaves the files of the others as they are
(`pages_local`). -/
namespace Bindery.Generator

/-- The common page of a path. -/
def commonPage? (kit : Kit) (settings : Registration) (r : Registry) (platform : Platform)
    (path : String) : Option Page :=
  (commonPages kit settings r platform).find? (·.path = path)

/-! ### Pages made from names -/

section Named
variable {α : Type} {name : α → String} {xs ys : List α} (h : xs.map name = ys.map name)
include h

/-- Texts with the names. -/
theorem map_name_eq (text : String → String) :
    (xs.map fun x => text (name x)) = ys.map fun y => text (name y) := by
  have htexts := congrArg (List.map text) h
  rwa [List.map_map, List.map_map] at htexts

/-- Texts with the names that can fail. -/
theorem mapM_name_eq (text : String → Except Fault String) :
    (xs.mapM fun x => text (name x)) = ys.mapM fun y => text (name y) := by
  have htexts := congrArg (List.mapM text) h
  rwa [List.mapM_map, List.mapM_map] at htexts

end Named

section Categories
variable (kit : Kit) (settings : Registration) (project : ProjectNames)
  {cs ds : List Registry.Category} (h : cs.map (·.name) = ds.map (·.name))
include h

theorem C.addinPage_eq : addinPage kit cs = addinPage kit ds := by
  rw [addinPage, addinPage, map_name_eq h fun name => "#include \"" ++ name ++ ".h\"\n"]

theorem Excel.registerAllPage_eq : registerAllPage kit cs = registerAllPage kit ds := by
  rw [registerAllPage, registerAllPage,
    map_name_eq h fun name => "extern void register_" ++ name ++ "(const XLOPER&);\n",
    map_name_eq h fun name => "    register_" ++ name ++ "(xDll);\n"]

theorem Registration.allPage_eq :
    settings.allPage kit project cs = settings.allPage kit project ds := by
  rw [allPage, allPage, mapM_name_eq h fun name =>
    kit.render "registration.include" (settings.bindings project ++ [("category", name)])]

theorem Serialization.allPage_eq : allPage kit project cs = allPage kit project ds := by
  rw [allPage, allPage, map_name_eq h fun name =>
    "#include <" ++ project.libRoot ++ "/Serialization/create_" ++ name ++ ".hpp>\n"]

end Categories

namespace Doxygen

/-- The names of the functions in order are their names in order. -/
theorem map_name_inNameOrder (fs : List Registry.Function) :
    (inNameOrder fs).map (·.name) =
      (fs.map (·.name)).mergeSort fun m n => Text.lowerText m ≤ Text.lowerText n :=
  List.map_mergeSort fun _ _ _ _ => rfl

theorem functionList_eq (kit : Kit) {fs gs : List Registry.Function}
    (h : fs.map (·.name) = gs.map (·.name)) : functionList kit fs = functionList kit gs := by
  rw [functionList, functionList, mapM_name_eq h fun name =>
    kit.render "doxygen.list_item" [("name", name)]]

theorem allDocs_eq (kit : Kit) {fs gs : List Registry.Function}
    (h : fs.map (·.name) = gs.map (·.name)) : allDocs kit fs = allDocs kit gs := by
  have hnames : (inNameOrder fs).map (·.name) = (inNameOrder gs).map (·.name) := by
    rw [map_name_inNameOrder, map_name_inNameOrder, h]
  rw [allDocs, allDocs, functionList_eq kit hnames]

end Doxygen

/-! ### Common pages by their paths -/

/-- A page that is left out where there is nothing, found by a path. -/
theorem find?_unless {α : Type} (xs : List α) (page : Page) (path : String) :
    (if xs.isEmpty then [] else [page]).find? (·.path = path) =
      if xs.isEmpty || page.path ≠ path then none else some page := by
  cases xs <;> by_cases hpath : page.path = path <;> simp [hpath]

section Paths
variable (kit : Kit) (settings : Registration) (r : Registry)

theorem commonPage?_addin : commonPage? kit settings r .c "addin.h" =
    some (C.addinPage kit (having C.declared r)) := rfl

theorem commonPage?_registerAll :
    commonPage? kit settings r .excel "Register/register_all.cpp" =
      some (Excel.registerAllPage kit (having Excel.registered r)) := rfl

theorem commonPage?_registrationAll :
    commonPage? kit settings r .excel "Serialization/serialization_all.hpp" =
      some (settings.allPage kit r.project (having Registry.Category.constructors r)) := by
  simp [commonPage?, commonPages, Excel.registerAllPage, Registration.allPage]

theorem commonPage?_createAll : commonPage? kit settings r .serialization "create_all.hpp" =
    some (Serialization.allPage kit r.project (having Registry.Category.constructors r)) := rfl

theorem commonPage?_allDocs : commonPage? kit settings r .doxygen "all.docs" =
    if r.functions.isEmpty then none else some (Doxygen.allDocs kit (r.functions.map Prod.snd)) := by
  rw [commonPage?, commonPages, List.find?_append, find?_unless, find?_unless]
  simp [Doxygen.allDocs, Doxygen.enumerationDocs]

theorem commonPage?_enumerationDocs : commonPage? kit settings r .doxygen "enums.docs" =
    if r.enumerations.isEmpty then none
    else some (Doxygen.enumerationDocs kit r.enumerations) := by
  rw [commonPage?, commonPages, List.find?_append, find?_unless, find?_unless]
  simp [Doxygen.allDocs, Doxygen.enumerationDocs]

end Paths

/-- **A change to one category touches its own files and the common ones.** The files of a platform
are those for its categories and a few common ones. Whatever else two registries of one project
hold, a category in both has the same files with the same texts in both. The headers and calls for
all categories depend on the names of those that have something to generate, the list of all
functions on their names, and the tables of enumerations on the enumerations. -/
theorem pages_local (kit : Kit) (settings : Registration) {r s : Registry}
    (hproject : r.project = s.project) :
    (∀ platform, ∀ c ∈ r.categories, c ∈ s.categories →
      pagesFor kit settings r c platform = pagesFor kit settings s c platform ∧
      pagesFor kit settings r c platform ⊆ pagesOf kit settings r platform ∧
      pagesFor kit settings s c platform ⊆ pagesOf kit settings s platform) ∧
    (∀ q ∈ [r, s], ∀ platform, (pagesOf kit settings q platform).Perm
      (q.categories.flatMap (pagesFor kit settings q · platform)
        ++ commonPages kit settings q platform)) ∧
    ((having C.declared r).map (·.name) = (having C.declared s).map (·.name) →
      commonPage? kit settings r .c "addin.h" = commonPage? kit settings s .c "addin.h") ∧
    ((having Excel.registered r).map (·.name) = (having Excel.registered s).map (·.name) →
      commonPage? kit settings r .excel "Register/register_all.cpp" =
        commonPage? kit settings s .excel "Register/register_all.cpp") ∧
    ((having (·.constructors) r).map (·.name) = (having (·.constructors) s).map (·.name) →
      commonPage? kit settings r .excel "Serialization/serialization_all.hpp" =
        commonPage? kit settings s .excel "Serialization/serialization_all.hpp" ∧
      commonPage? kit settings r .serialization "create_all.hpp" =
        commonPage? kit settings s .serialization "create_all.hpp") ∧
    (r.functions.map (·.2.name) = s.functions.map (·.2.name) →
      commonPage? kit settings r .doxygen "all.docs" =
        commonPage? kit settings s .doxygen "all.docs") ∧
    (r.enumerations = s.enumerations →
      commonPage? kit settings r .doxygen "enums.docs" =
        commonPage? kit settings s .doxygen "enums.docs") := by
  refine ⟨fun platform c hr hs => ⟨?_, ?_, ?_⟩, fun q _ => pagesOf_perm kit settings q,
    fun h => ?_, fun h => ?_, fun h => ⟨?_, ?_⟩, fun h => ?_, fun h => ?_⟩
  · cases platform <;> simp only [pagesFor, hproject]
  · exact pagesFor_subset kit settings r hr platform
  · exact pagesFor_subset kit settings s hs platform
  · rw [commonPage?_addin, commonPage?_addin, C.addinPage_eq kit h]
  · rw [commonPage?_registerAll, commonPage?_registerAll, Excel.registerAllPage_eq kit h]
  · rw [commonPage?_registrationAll, commonPage?_registrationAll, hproject,
      Registration.allPage_eq kit settings s.project h]
  · rw [commonPage?_createAll, commonPage?_createAll, hproject,
      Serialization.allPage_eq kit s.project h]
  · have hnames : (r.functions.map Prod.snd).map (·.name) =
        (s.functions.map Prod.snd).map (·.name) := by rwa [List.map_map, List.map_map]
    have hempty : r.functions.isEmpty = s.functions.isEmpty := by
      rw [← List.isEmpty_map (f := (·.2.name)), h, List.isEmpty_map]
    rw [commonPage?_allDocs, commonPage?_allDocs, hempty, Doxygen.allDocs_eq kit hnames]
  · rw [commonPage?_enumerationDocs, commonPage?_enumerationDocs, h]

/-- A registry with two categories. -/
def beforeEdit : Registry := ⟨⟨"P", "P", "p"⟩, [declaredOnly, bodied], []⟩

/-- Its second category with a function that has no body. -/
def afterEdit : Registry :=
  { beforeEdit with
    categories :=
      [declaredOnly,
        { bodied with
          functions := bodied.functions.map fun f =>
            { f with platforms := [⟨"C", .manual, true, false⟩] } }] }

/-- The edit takes away the body, and leaves the header of the other category and the header of both
as they are. -/
theorem pages_edited :
    beforeEdit.project = afterEdit.project ∧
      (pagesOf bareKit ⟨"", "", none⟩ beforeEdit .c).map (·.path) ≠
        (pagesOf bareKit ⟨"", "", none⟩ afterEdit .c).map (·.path) ∧
      pagesFor bareKit ⟨"", "", none⟩ beforeEdit declaredOnly .c ⊆
        pagesOf bareKit ⟨"", "", none⟩ afterEdit .c ∧
      (having C.declared beforeEdit).map (·.name) = (having C.declared afterEdit).map (·.name) ∧
      commonPage? bareKit ⟨"", "", none⟩ beforeEdit .c "addin.h" =
        commonPage? bareKit ⟨"", "", none⟩ afterEdit .c "addin.h" := by
  have hproject : beforeEdit.project = afterEdit.project := rfl
  have hnames : (having C.declared beforeEdit).map (·.name) =
      (having C.declared afterEdit).map (·.name) := by decide
  obtain ⟨hcategories, -, haddin, -⟩ := pages_local bareKit ⟨"", "", none⟩ hproject
  obtain ⟨hsame, -, hsubset⟩ :=
    hcategories .c declaredOnly List.mem_cons_self List.mem_cons_self
  exact ⟨hproject, by decide +kernel, hsame ▸ hsubset, hnames, haddin hnames⟩

end Bindery.Generator
