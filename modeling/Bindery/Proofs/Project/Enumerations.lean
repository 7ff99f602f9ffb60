import Bindery.Proofs.Generator.Files.Documentation
import Bindery.Proofs.Project.Loading

/-! Enumerations of a project.

A file of enumerations names each of its own once, and that is the only check there is: files do not
know of each other, and no later phase looks at enumerations. The page of enumerations has a section
for each that is loaded. So a name has as many sections as there are files that define it, and names
are distinct just where no two files share one (`Project.enumerations_distinct_iff`). -/
namespace Bindery

/-! ### The enumerations of a file -/

namespace Metadata

theorem refuseIf_eq_ok {condition : Bool} {error : LoadError} {u : Unit} :
    refuseIf condition error = .ok u ↔ condition = false := by
  cases condition <;> simp [refuseIf]

/-- Reading goes on from enumerations with distinct names to enumerations with distinct names. -/
theorem nodup_of_readEnumerations {source : Locator} {earlier es : List Enumeration}
    {ws : List Written.Enumeration} (hearlier : (earlier.map (·.name)).Nodup)
    (h : readEnumerations source earlier ws = .ok es) : (es.map (·.name)).Nodup := by
  induction ws generalizing earlier with
  | nil =>
    cases h
    exact hearlier
  | cons w rest ih =>
    obtain ⟨_, -, h⟩ := bind_eq_ok.1 h
    obtain ⟨_, hfresh, h⟩ := bind_eq_ok.1 h
    refine ih ?_ h
    have hnew : Text.trim w.name ∉ earlier.map (·.name) := by
      simpa [refuseIf_eq_ok] using hfresh
    rw [List.map_append, List.map_singleton, List.nodup_append_comm]
    exact List.nodup_cons.2 ⟨hnew, hearlier⟩

/-- A file names each of its enumerations once. -/
theorem nodup_of_parseEnumerations {source filename : String} {es : List Enumeration}
    (h : parseEnumerations source filename = .ok es) : (es.map (·.name)).Nodup := by
  obtain ⟨ws, -, h⟩ := bind_eq_ok.1 h
  have hnone : (([] : List Enumeration).map (·.name)).Nodup := List.nodup_nil
  exact nodup_of_readEnumerations hnone h

/-- Parts that name nothing twice do so together just where no two of them share a name. -/
theorem nodup_flatten_iff {parts : List (List Enumeration)}
    (h : ∀ part ∈ parts, (part.map (·.name)).Nodup) : (parts.flatten.map (·.name)).Nodup ↔
      parts.Pairwise fun a b => (a.map (·.name)).Disjoint (b.map (·.name)) := by
  rw [List.map_flatten, List.nodup_flatten, List.forall_mem_map, List.pairwise_map]
  exact and_iff_right h

/-- A name is defined as often as there are parts that define it. -/
theorem count_flatten {parts : List (List Enumeration)}
    (h : ∀ part ∈ parts, (part.map (·.name)).Nodup) (name : String) :
    (parts.flatten.map (·.name)).count name =
      parts.countP fun part => name ∈ part.map (·.name) := by
  induction parts with
  | nil => rfl
  | cons part rest ih =>
    have hpart := (h part List.mem_cons_self).count (a := name)
    rw [List.flatten_cons, List.map_append, List.count_append, List.countP_cons, hpart,
      ih fun other hother => h other (List.mem_cons_of_mem _ hother), Nat.add_comm]
    simp

end Metadata

/-! ### The page of enumerations -/

namespace Generator.Doxygen

/-- The row of a text and the value that it names. -/
def rowText (v : String × String) : String := Text.lines [
  "<tr><td>" ++ v.1 ++ "</td><td>" ++ v.2 ++ "</td></tr>",
  ""]

/-- The section of an enumeration. -/
def enumerationText (e : Enumeration) : String := Text.lines [
  "\\section enum_" ++ e.name ++ " " ++ e.name,
  e.description,
  "Class: " ++ e.className,
  "",
  "<table>",
  "<tr><td><b>String</b></td><td><b>Value</b></td></tr>",
  String.join (e.values.map rowText) ++ "</table>",
  ""]

/-- The page of enumerations. -/
def enumerationsText (es : List Enumeration) : String := Text.lines [
  "/*! \\page enums Enumerations",
  "",
  Text.lines (es.map enumerationText) ++ "*/",
  ""]

section Supplied
variable {kit : Kit} (h : kit.Supplied .doxygen)
include h

theorem enumeration_eq_ok (e : Enumeration) : enumeration kit e = .ok (enumerationText e) := by
  have hrow : ("doxygen.enum_row", enumerationRow) ∈ templates := by simp [templates]
  have hsection : ("doxygen.enumeration", enumerationSection) ∈ templates := by simp [templates]
  have hrows (v : String × String) :
      kit.render "doxygen.enum_row" [("string", v.1), ("value", v.2)] = .ok (rowText v) :=
    h.render_lines hrow rfl (by simp [Generator.words, words])
      (by repeat constructor) (by repeat constructor)
  refine bind_eq_ok.2 ⟨_, mapM_eq_map fun v _ => hrows v, ?_⟩
  exact h.render_lines hsection rfl (by simp [Generator.words, words])
    (by repeat constructor) (by repeat constructor)

theorem enumerationDocs_text (es : List Enumeration) :
    enumerationDocs kit es = ⟨"enums.docs", .ok (enumerationsText es)⟩ := by
  have hsource : ("doxygen.enums", enumerationPage) ∈ templates := by simp [templates]
  refine congrArg (Page.mk _) (bind_eq_ok.2 ⟨_, mapM_eq_map fun e _ => enumeration_eq_ok h e, ?_⟩)
  exact h.render_lines hsource rfl (by simp [Generator.words, words])
    (by repeat constructor) (by repeat constructor)

end Supplied
end Generator.Doxygen

/-! ### All files -/

namespace Project

/-- The enumerations of a project, file by file. -/
structure Defines (p : Project) (t : FileTree) (m : Metadata) (parts : List (List Enumeration)) :
    Prop where
  read : ∃ paths, p.enumerationFiles t = .ok paths ∧ List.Forall₂
    (fun path part => readMetadataFile t Metadata.parseEnumerations path = .ok part) paths parts
  all : m.enumerations = parts.flatten
  distinct : ∀ part ∈ parts, (part.map (·.name)).Nodup

theorem exists_defines {p : Project} {t : FileTree} {m : Metadata} (hm : p.metadata t = .ok m) :
    ∃ parts, p.Defines t m parts := by
  obtain ⟨es, hes, -⟩ := p.exists_enumerationFiles t
  cases hcs : p.categoryFiles t with
  | error e =>
    rw [metadata_of_error hcs] at hm
    cases hm
  | ok cs =>
    obtain ⟨-, parts, hall, hread⟩ := ((p.loading t).succeeds cs es hcs hes m).1 hm
    refine ⟨parts, ⟨es, hes, hread⟩, hall, fun part hpart => ?_⟩
    obtain ⟨path, -, hpath⟩ := exists_of_mem_right hread hpart
    obtain ⟨source, -, hparse⟩ := bind_eq_ok.1 hpath
    exact Metadata.nodup_of_parseEnumerations hparse

/-- A registry has the enumerations of the metadata as they are. -/
theorem enumerations_of_compiled {p : Project} {t : FileTree} {m : Metadata} {r : Registry}
    {warnings : List Diagnostic} (hm : p.metadata t = .ok m)
    (hcompiled : p.compiled m = .ok (r, warnings)) : r.enumerations = m.enumerations := by
  have hsound := Metadata.sound_of_parsed (parsed_of_metadata hm)
  rw [compiled] at hcompiled
  cases hrun : (p.compilation m).run Compilation.standard with
  | mk after result =>
    rw [hrun] at hcompiled
    cases result with
    | error fault => cases hcompiled
    | ok u =>
      obtain ⟨r', hr', heq⟩ := map_eq_ok.1 hcompiled
      obtain ⟨rfl, -⟩ := Prod.mk.inj heq
      have hregistry : after.registry = some r' := by
        rw [Compilation.theRegistry] at hr'
        cases hafter : after.registry with
        | none =>
          rw [hafter] at hr'
          cases hr'
        | some r =>
          rw [hafter] at hr'
          cases hr'
          rfl
      obtain ⟨-, hmade⟩ := Compilation.registry_of_run hsound hrun hregistry
      obtain ⟨cs, -, rfl⟩ := Registry.ofMetadata_eq_ok.1 hmade
      rfl

/-- **Names of enumerations are distinct just where no two files share one.** In all metadata that a
project loads and that its compilation accepts, each file of enumerations has distinct names, but two
files may share one. The page of enumerations has a section for each that is loaded, so a name has as
many sections as there are files that define it. -/
theorem enumerations_distinct_iff {p : Project} {t : FileTree} {m : Metadata} {r : Registry}
    {warnings : List Diagnostic} (hm : p.metadata t = .ok m)
    (hcompiled : p.compiled m = .ok (r, warnings)) :
    ∃ parts, p.Defines t m parts ∧
      ((m.enumerations.map (·.name)).Nodup ↔
        parts.Pairwise fun a b => (a.map (·.name)).Disjoint (b.map (·.name))) ∧
      (∀ name, (m.enumerations.map (·.name)).count name =
        parts.countP fun part => name ∈ part.map (·.name)) ∧
      ∃ kit : Generator.Kit, (∀ settings, Generator.load t none settings r .doxygen =
          .ok (Generator.ofKit kit settings r .doxygen)) ∧
        ∃ others, Generator.Doxygen.pages kit r = others
          ++ if m.enumerations.isEmpty then [] else
            [⟨"enums.docs", .ok (Generator.Doxygen.enumerationsText m.enumerations)⟩] := by
  obtain ⟨parts, hparts⟩ := exists_defines hm
  obtain ⟨kit, hkit, hload⟩ := Generator.exists_supplied t .doxygen
  refine ⟨parts, hparts, ?_, fun name => ?_, kit, fun settings => hload settings r, ?_⟩
  · rw [hparts.all]
    exact Metadata.nodup_flatten_iff hparts.distinct
  · rw [hparts.all]
    exact Metadata.count_flatten hparts.distinct name
  · rw [Generator.Doxygen.pages, enumerations_of_compiled hm hcompiled,
      Generator.Doxygen.enumerationDocs_text hkit]
    exact ⟨_, rfl⟩

/-- A file that defines an enumeration, with a class and a value. -/
def defining (className : String) : String :=
  "<E><EnumeratedType name='T' class='" ++ className ++ "'><Value string='x' value='1'/>"
    ++ "</EnumeratedType></E>"

/-- A directory with two files that define an enumeration of one name. -/
def twofold : FileTree where
  entries :=
    [(["metadata"], .directory), (["metadata", "Categories"], .directory),
      (["metadata", "Categories", "a.xml"], .file 0 "<C name='a'/>".toUTF8),
      (["metadata", "Enumerations"], .directory),
      (["metadata", "Enumerations", "a.xml"], .file 1 (defining "A").toUTF8),
      (["metadata", "Enumerations", "b.xml"], .file 2 (defining "B").toUTF8)]
  fresh := 3

/-- What is in `twofold`. -/
def twofoldMetadata : Metadata where
  categories := [⟨"a", "a", "", [], []⟩]
  enumerations := [⟨"T", "A", "", [("x", "1")]⟩, ⟨"T", "B", "", [("x", "1")]⟩]

theorem metadata_twofold : stray.metadata twofold = .ok twofoldMetadata := by
  have hloading := stray.loading twofold
  have hcategories : stray.categoryFiles twofold = .ok ["./metadata/Categories/a.xml"] :=
    (hloading.found rfl _).2 ⟨["a.xml"], ["a.xml"], by decide +kernel, by decide +kernel, by decide,
      by decide +kernel⟩
  have henumerations : stray.enumerationFiles twofold =
      .ok ["./metadata/Enumerations/a.xml", "./metadata/Enumerations/b.xml"] := by
    rw [enumerationFiles, if_pos (by decide +kernel), metadataFiles_eq_ok]
    exact ⟨["a.xml", "b.xml"], ["a.xml", "b.xml"], by decide +kernel, by decide +kernel, by decide,
      by decide +kernel⟩
  refine (hloading.succeeds _ _ hcategories henumerations _).2
    ⟨.cons ?_ .nil, [[_], [_]], rfl, .cons ?_ (.cons ?_ .nil)⟩
  · rw [readMetadataFile, readFile_of_read rfl]
    exact eq_ok_of_toOption (by decide +kernel)
  · rw [readMetadataFile, readFile_of_read (s := defining "A") rfl]
    exact eq_ok_of_toOption (by decide +kernel)
  · rw [readMetadataFile, readFile_of_read (s := defining "B") rfl]
    exact eq_ok_of_toOption (by decide +kernel)

/-- The compilation accepts both, and two files share the name. -/
theorem compiled_twofold : stray.metadata twofold = .ok twofoldMetadata ∧
    ∃ r warnings parts, stray.compiled twofoldMetadata = .ok (r, warnings) ∧
      stray.Defines twofold twofoldMetadata parts ∧
      ¬ (twofoldMetadata.enumerations.map (·.name)).Nodup ∧
      ¬ parts.Pairwise fun a b => (a.map (·.name)).Disjoint (b.map (·.name)) := by
  have hsound := Metadata.sound_of_parsed (parsed_of_metadata metadata_twofold)
  have hnone : (stray.reportOf twofoldMetadata).errors = [] := rfl
  obtain ⟨r, warnings, hcompiled⟩ := (agree_reportOf hsound).passes_iff.1 hnone
  obtain ⟨parts, hparts, hdistinct, -⟩ := enumerations_distinct_iff metadata_twofold hcompiled
  have htwice : ¬ (twofoldMetadata.enumerations.map (·.name)).Nodup := by decide
  exact ⟨metadata_twofold, r, warnings, parts, hcompiled, hparts, htwice, mt hdistinct.2 htwice⟩

end Project
end Bindery
