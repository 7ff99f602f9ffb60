import Bindery.Proofs.Generator.Locality
import Bindery.Proofs.Generator.Supplied
import Bindery.Proofs.Text.Order

/-! The pages of the documentation.

A page has a list that refers to functions and a section for each of them, which begins with its
anchor. Every function is on the page of its category, and the list of all functions refers to all of
them in the order of their names. So a reference leads to an anchor, and to one only where names are
not used twice (`index_complete`). -/
namespace Bindery.Generator.Doxygen

/-! ### Pages -/

/-- What a page has for functions: the names that its list refers to, and its sections, each with the
name of its anchor. -/
structure Contents where
  references : List String
  sections : List (String × String)

namespace Contents
variable (p : Contents)

/-- The names that a page has anchors of. -/
def anchors : List String := p.sections.map Prod.fst

def listText : String := Text.lines (p.references.map fun name => "\\ref " ++ name ++ " ()<br>")

def sectionsText : String := Text.lines (p.sections.map fun s => "\\anchor " ++ s.1 ++ "\n" ++ s.2)

end Contents

/-- What the page of a category has, with something to say of each function. -/
def contents (details : Registry.Function → String) (c : Registry.Category) : Contents where
  references := c.functions.map (·.name)
  sections := c.functions.map fun f => (f.name, details f)

/-- What the page of all functions has. -/
def index (fs : List Registry.Function) : Contents where
  references := (inNameOrder fs).map (·.name)
  sections := []

/-- The page of a category. -/
def categoryText (c : Registry.Category) (p : Contents) : String := Text.lines [
  "/*! \\page func_" ++ c.name ++ " " ++ c.displayName,
  "",
  "\\section overview Overview",
  c.description,
  "",
  "\\section functionlist Function List",
  p.listText,
  "",
  "\\section documentation Function Documentation",
  p.sectionsText ++ "*/",
  ""]

/-- The page of all functions. -/
def allText (p : Contents) : String := Text.lines [
  "/*! \\page func_all All Functions",
  "",
  "\\section functionlist Function List",
  p.listText,
  "*/",
  ""]

section Supplied
variable {kit : Kit} (h : kit.Supplied .doxygen)
include h

theorem functionList_eq_ok (fs : List Registry.Function) : functionList kit fs =
    .ok (Text.lines (fs.map fun f => "\\ref " ++ f.name ++ " ()<br>")) := by
  have hsource : ("doxygen.list_item", listItem) ∈ templates := by simp [templates]
  have hline (s : String) : s = Text.lines [s] := String.intercalate_singleton.symm
  have hitem (f : Registry.Function) : kit.render "doxygen.list_item" [("name", f.name)] =
      .ok ("\\ref " ++ f.name ++ " ()<br>") := by
    rw [hline ("\\ref " ++ f.name ++ " ()<br>")]
    exact h.render_lines hsource rfl (by simp [Generator.words, words])
      (by repeat constructor) (by repeat constructor)
  exact bind_eq_ok.2 ⟨_, mapM_eq_map fun f _ => hitem f, rfl⟩

/-- The section of a function begins with its anchor. -/
theorem exists_function_eq (f : Registry.Function) :
    ∃ details, function kit f = .ok ("\\anchor " ++ f.name ++ "\n" ++ details) := by
  have hsource : ("doxygen.function", functionSection) ∈ templates := by simp [templates]
  obtain ⟨s, hs⟩ := exists_function h.serves f
  obtain ⟨_, -, hrender⟩ := bind_eq_ok.1 hs
  obtain ⟨_, -, hrender⟩ := bind_eq_ok.1 hrender
  obtain ⟨_, -, hrender⟩ := bind_eq_ok.1 hrender
  have hlines : functionSection = Text.lines (["\\anchor ${name}"] ++ _ :: _) := rfl
  obtain ⟨details, rfl⟩ := h.exists_rest hsource hlines (List.cons_ne_nil _ _)
    (.cons (Template.filled?_chars rfl rfl) .nil) hrender
  exact ⟨details, hs.trans (congrArg Except.ok (by simp; rfl))⟩

theorem categoryDocs_text {details : Registry.Function → String}
    (hdetails : ∀ f, function kit f = .ok ("\\anchor " ++ f.name ++ "\n" ++ details f))
    (c : Registry.Category) : categoryDocs kit c =
      ⟨c.name ++ ".docs", .ok (categoryText c (contents details c))⟩ := by
  have hsource : ("doxygen.category", categoryPage) ∈ templates := by simp [templates]
  refine congrArg (Page.mk _) (bind_eq_ok.2 ⟨_, mapM_eq_map fun f _ => hdetails f,
    bind_eq_ok.2 ⟨_, functionList_eq_ok h c.functions, ?_⟩⟩)
  rw [categoryText, Contents.listText, Contents.sectionsText, contents, List.map_map, List.map_map]
  exact h.render_lines hsource rfl (by simp [Generator.words, words])
    (by repeat constructor) (by repeat constructor)

theorem allDocs_text (fs : List Registry.Function) :
    allDocs kit fs = ⟨"all.docs", .ok (allText (index fs))⟩ := by
  have hsource : ("doxygen.all", allPage) ∈ templates := by simp [templates]
  refine congrArg (Page.mk _) (bind_eq_ok.2 ⟨_, functionList_eq_ok h (inNameOrder fs), ?_⟩)
  rw [allText, Contents.listText, index, List.map_map]
  exact h.render_lines hsource rfl (by simp [Generator.words, words])
    (by repeat constructor) (by repeat constructor)

theorem pages_text {details : Registry.Function → String}
    (hdetails : ∀ f, function kit f = .ok ("\\anchor " ++ f.name ++ "\n" ++ details f))
    (r : Registry) : pages kit r =
      (r.categories.filter (!·.functions.isEmpty)).map (fun c =>
        ⟨c.name ++ ".docs", .ok (categoryText c (contents details c))⟩)
      ++ (if r.functions.isEmpty then [] else
        [⟨"all.docs", .ok (allText (index (r.functions.map Prod.snd)))⟩])
      ++ (if r.enumerations.isEmpty then [] else [enumerationDocs kit r.enumerations]) := by
  have hcategories (cs : List Registry.Category) : cs.flatMap (categoryPages kit) =
      (cs.filter (!·.functions.isEmpty)).map fun c =>
        ⟨c.name ++ ".docs", .ok (categoryText c (contents details c))⟩ := by
    induction cs with
    | nil => rfl
    | cons c rest ih =>
      rw [List.flatMap_cons, ih, categoryPages, categoryDocs_text h hdetails]
      cases hempty : c.functions.isEmpty <;> simp [hempty]
  rw [pages, hcategories, allDocs_text h, List.isEmpty_map]

end Supplied

/-! ### The index -/

/-- All anchors of functions. -/
def anchors (details : Registry.Function → String) (r : Registry) : List String :=
  (r.categories.filter (!·.functions.isEmpty)).flatMap fun c => (contents details c).anchors

/-- The list of all functions is complete and in order, and what the lists refer to is there. -/
structure Indexed (details : Registry.Function → String) (r : Registry) : Prop where
  order : Text.InOrder (fun f => Text.lowerText f.name) (r.functions.map Prod.snd)
    (inNameOrder (r.functions.map Prod.snd))
  /-- A page refers to what it has anchors of, in the same order. -/
  pages : ∀ c, (contents details c).references = (contents details c).anchors
  /-- The list of all functions refers to what there are anchors of. -/
  complete : (index (r.functions.map Prod.snd)).references.Perm (anchors details r)
  unique : (r.functions.map (·.2.name)).Nodup →
    ∀ name ∈ (index (r.functions.map Prod.snd)).references, (anchors details r).count name = 1

theorem anchors_contents (details : Registry.Function → String) (c : Registry.Category) :
    (contents details c).anchors = c.functions.map (·.name) := by
  rw [Contents.anchors, contents, List.map_map]
  rfl

/-- There is an anchor of each function, category by category. -/
theorem anchors_eq (details : Registry.Function → String) (r : Registry) :
    anchors details r = r.functions.map (·.2.name) := by
  obtain ⟨project, categories, enumerations⟩ := r
  rw [anchors, Registry.functions]
  induction categories with
  | nil => rfl
  | cons c rest ih =>
    simp only [List.flatMap_cons, List.map_append, List.map_map, Function.comp_def] at ih ⊢
    rw [← ih]
    cases hempty : c.functions.isEmpty with
    | true => simp [List.isEmpty_iff.1 hempty]
    | false => simp [hempty, anchors_contents]

theorem indexed (details : Registry.Function → String) (r : Registry) : Indexed details r := by
  have horder : Text.InOrder (fun f => Text.lowerText f.name) (r.functions.map Prod.snd)
      (inNameOrder (r.functions.map Prod.snd)) := Text.inOrder_mergeSort _ _
  have hcomplete : (index (r.functions.map Prod.snd)).references.Perm (anchors details r) := by
    have hnames := horder.perm.map (·.name)
    rw [List.map_map] at hnames
    rw [anchors_eq]
    exact hnames
  refine ⟨horder, fun c => (anchors_contents details c).symm, hcomplete, fun hnames name hname => ?_⟩
  rw [← anchors_eq details] at hnames
  exact List.count_eq_one_of_mem hnames (hcomplete.subset hname)

/-- **The documentation is complete and in order.** For every registry, what is said of a function
begins with its anchor. Each category with functions has one page, with a list that refers to its
functions and a section for each of them in the same order; one more page refers to all functions
there are, in the order of their names, whatever their case, and those with the same name in the order
of the registry. What that page refers to has anchors, and just one each where no name is used twice. -/
theorem index_complete (tree : FileTree) (r : Registry) :
    ∃ (kit : Kit) (details : Registry.Function → String),
      (∀ settings, load tree none settings r .doxygen = .ok (ofKit kit settings r .doxygen)) ∧
      (∀ f, function kit f = .ok ("\\anchor " ++ f.name ++ "\n" ++ details f)) ∧
      pages kit r =
        (r.categories.filter (!·.functions.isEmpty)).map (fun c =>
          ⟨c.name ++ ".docs", .ok (categoryText c (contents details c))⟩)
        ++ (if r.functions.isEmpty then [] else
          [⟨"all.docs", .ok (allText (index (r.functions.map Prod.snd)))⟩])
        ++ (if r.enumerations.isEmpty then [] else [enumerationDocs kit r.enumerations]) ∧
      Indexed details r := by
  obtain ⟨kit, hkit, hload⟩ := exists_supplied tree .doxygen
  choose details hdetails using exists_function_eq hkit
  exact ⟨kit, details, fun settings => hload settings r, hdetails, pages_text hkit hdetails r,
    indexed details r⟩

end Bindery.Generator.Doxygen
