import Bindery.Proofs.Compilation.Verdict
import Bindery.Proofs.Generator.Files.C
import Bindery.Proofs.Generator.Files.Classes
import Bindery.Proofs.Generator.Files.Registration
import Bindery.Proofs.Loading.Configuration
import Bindery.Proofs.Text.Lowered

/-! Headers and their guards.

Each header begins with its guard, a macro name that is made from the name of a category and from the
word of its platform. The guards of creators and classes begin with the directory of the library,
which may be any text; those of registrations begin with the name of the project. So that directory
decides whether all guards are identifiers, and whether two of them can be the same
(`Header.headers_guarded_iff`). -/
namespace Bindery.Generator

/-! ### Headers -/

/-- A header file. -/
inductive Header where
  /-- What includes the prototypes of all categories. -/
  | addin
  | prototypes (category : String)
  | creators (category : String)
  | classes (category : String)
  | registrations (category : String)
deriving DecidableEq, Repr

namespace Header

def path : Header → String
  | addin => "addin.h"
  | prototypes c => c ++ ".h"
  | creators c => "create_" ++ c ++ ".hpp"
  | classes c => "vo_" ++ c ++ ".hpp"
  | registrations c => "Serialization/serialization_" ++ c ++ ".hpp"

/-- A guard up to its ending. -/
def stem (project : ProjectNames) : Header → String
  | addin => "addin_c"
  | prototypes c => "addin_c_" ++ c
  | creators c => project.libRoot ++ "_create_" ++ c
  | classes c => project.libRoot ++ "_vo_" ++ c
  | registrations c => "addin_" ++ Text.lowerText project.name ++ "_serialization_" ++ c

/-- What a guard ends in. -/
def ending : Header → String
  | addin | prototypes _ => "_h"
  | creators _ | classes _ | registrations _ => "_hpp"

/-- The macro that keeps a header from being read again. -/
def guard (project : ProjectNames) (h : Header) : String := h.stem project ++ h.ending

/-- The headers of a category. -/
def ofCategory (platform : Platform) (c : Registry.Category) : List Header :=
  match platform with
  | .c => if (C.declared c).isEmpty then [] else [prototypes c.name]
  | .excel => if c.constructors.isEmpty then [] else [registrations c.name]
  | .doxygen => []
  | .serialization => if c.constructors.isEmpty then [] else [creators c.name]
  | .valueObjects => if c.constructors.isEmpty then [] else [classes c.name]

/-- The headers that a platform has for all categories. -/
def own : Platform → List Header
  | .c => [addin]
  | .excel => [registrations "all"]
  | .doxygen => []
  | .serialization => [creators "all"]
  | .valueObjects => []

/-- The headers of a platform, in the order of its pages. -/
def all (r : Registry) (platform : Platform) : List Header :=
  r.categories.flatMap (ofCategory platform) ++ own platform

/-- A page is the header, and begins with its guard. -/
structure Opens (project : ProjectNames) (h : Header) (page : Page) : Prop where
  path : page.path = h.path
  text : ∃ rest, page.body =
    .ok ("#ifndef " ++ h.guard project ++ "\n#define " ++ h.guard project ++ "\n" ++ rest)

/-- Pages that begin with the lines of a guard. -/
theorem opens_of_lines {project : ProjectNames} {h : Header} {first second line : String}
    {rest : List String} (hfirst : first = "#ifndef " ++ h.guard project)
    (hsecond : second = "#define " ++ h.guard project) :
    Opens project h ⟨h.path, .ok (Text.lines (first :: second :: line :: rest))⟩ := by
  subst hfirst hsecond
  refine ⟨rfl, Text.lines (line :: rest), ?_⟩
  have hbreak : "\n#define " = "\n" ++ "#define " := rfl
  rw [Template.lines_cons (List.cons_ne_nil _ _), Template.lines_cons (List.cons_ne_nil _ _), hbreak]
  simp only [String.append_assoc]

end Header

/-- The path of a header file. -/
def isHeaderPath (path : String) : Bool :=
  ".h".toList.isSuffixOf path.toList || ".hpp".toList.isSuffixOf path.toList

theorem isHeaderPath_h (before : String) : isHeaderPath (before ++ ".h") = true := by
  simp [isHeaderPath, List.isSuffixOf]

theorem isHeaderPath_hpp (before : String) : isHeaderPath (before ++ ".hpp") = true := by
  simp [isHeaderPath, List.isSuffixOf]

theorem isHeaderPath_cpp (before : String) : isHeaderPath (before ++ ".cpp") = false := by
  simp [isHeaderPath, List.isSuffixOf, List.isPrefixOf]

theorem isHeaderPath_docs (before : String) : isHeaderPath (before ++ ".docs") = false := by
  simp [isHeaderPath, List.isSuffixOf, List.isPrefixOf]

/-! ### Pages -/

namespace Header

theorem isHeaderPath_path (h : Header) : isHeaderPath h.path = true := by
  cases h with
  | addin => exact isHeaderPath_h "addin"
  | prototypes c => exact isHeaderPath_h c
  | creators c => exact isHeaderPath_hpp ("create_" ++ c)
  | classes c => exact isHeaderPath_hpp ("vo_" ++ c)
  | registrations c => exact isHeaderPath_hpp ("Serialization/serialization_" ++ c)

/-- The pages that are header files are the headers, in the same order. -/
def Found (project : ProjectNames) (headers : List Header) (pages : List Page) : Prop :=
  List.Forall₂ (Opens project) headers (pages.filter fun page => isHeaderPath page.path)

namespace Found
variable {project : ProjectNames} {headers headers' : List Header} {pages pages' : List Page}

theorem nil : Found project [] [] := List.Forall₂.nil

/-- A page that is a header. -/
theorem cons {header : Header} {page : Page} (hpage : Opens project header page)
    (h : Found project headers pages) : Found project (header :: headers) (page :: pages) := by
  have hheader : isHeaderPath page.path = true := hpage.path ▸ header.isHeaderPath_path
  rw [Found, List.filter_cons_of_pos (by exact hheader)]
  exact List.Forall₂.cons hpage h

/-- A page that is none. -/
theorem skip {page : Page} (hpage : isHeaderPath page.path = false)
    (h : Found project headers pages) : Found project headers (page :: pages) := by
  rw [Found, List.filter_cons_of_neg (by rw [hpage]; decide)]
  exact h

theorem append (h : Found project headers pages) (h' : Found project headers' pages') :
    Found project (headers ++ headers') (pages ++ pages') := by
  rw [Found, List.filter_append]
  exact List.rel_append h h'

theorem flatMap {cs : List Registry.Category} {headers : Registry.Category → List Header}
    {pages : Registry.Category → List Page} (h : ∀ c, Found project (headers c) (pages c)) :
    Found project (cs.flatMap headers) (cs.flatMap pages) := by
  rw [Found, List.filter_flatMap]
  refine List.rel_flatMap (List.forall₂_same.2 fun _ _ => rfl) ?_
  rintro c _ rfl
  exact h c

/-- Pages that are left out where there is nothing have their headers left out as well. -/
theorem unlessEmpty {α : Type} {xs : List α} (h : Found project headers pages) :
    Found project (if xs.isEmpty then [] else headers) (if xs.isEmpty then [] else pages) := by
  split
  · exact nil
  · exact h

/-- Where no page is a header file, there is no header. -/
theorem none (h : ∀ page ∈ pages, isHeaderPath page.path = false) : Found project [] pages := by
  induction pages with
  | nil => exact nil
  | cons page rest ih =>
    rw [List.forall_mem_cons] at h
    exact skip h.1 (ih h.2)

end Found

/-- No header is left out where there is nothing for another page. -/
theorem not_isHeaderPath_unlessEmpty {α : Type} {xs : List α} {page : Page}
    (h : isHeaderPath page.path = false) :
    ∀ page' ∈ (if xs.isEmpty then [] else [page]), isHeaderPath page'.path = false := by
  split
  · nofun
  · exact List.forall_mem_singleton.2 h

section Pages
variable {kit : Kit} (r : Registry)

theorem found_c (h : kit.Supplied .c) : Found r.project (all r .c) (C.pages kit r) := by
  obtain ⟨parameters, rest, hfiles⟩ := C.exists_files h r
  rw [hfiles.pages]
  refine .append (.flatMap fun c => ?_) (.cons (opens_of_lines rfl rfl) .nil)
  rw [← List.append_nil (ofCategory .c c)]
  exact .append (.unlessEmpty (.cons (opens_of_lines rfl rfl) .nil))
    (.none (not_isHeaderPath_unlessEmpty (isHeaderPath_cpp c.name)))

/-- Registrations come after the worksheet functions. -/
theorem found_excel (settings : Registration) (h : kit.Supplied .excel) :
    Found r.project (all r .excel) (Excel.pages kit settings r) := by
  have hfunctions : Found r.project [] (r.categories.flatMap (Excel.categoryPages kit r.project)) :=
    .none (List.forall_mem_flatMap.2 fun c _ => List.forall_mem_append.2
      ⟨not_isHeaderPath_unlessEmpty (isHeaderPath_cpp ("Functions/" ++ c.name)),
        not_isHeaderPath_unlessEmpty (isHeaderPath_cpp ("Register/register_" ++ c.name))⟩)
  have hall : "_serialization_all_hpp" = "_serialization_" ++ ("all" ++ "_hpp") := rfl
  rw [Excel.pages, Registration.files settings h r, ← List.nil_append (all r .excel)]
  refine .append hfunctions (.skip (isHeaderPath_cpp "Register/register_all") (.append
    (.flatMap fun c => .unlessEmpty (.cons (opens_of_lines ?_ ?_) (.skip (isHeaderPath_cpp _) .nil)))
    (.cons (opens_of_lines ?_ ?_)
      (.skip (isHeaderPath_cpp "Serialization/serializationfactory") .nil))))
  all_goals simp only [guard, stem, ending, Registration.guard, hall, String.append_assoc]

theorem found_serialization (h : kit.Supplied .serialization) :
    Found r.project (all r .serialization) (Serialization.pages kit r) := by
  obtain ⟨rest, hfiles⟩ := Serialization.exists_files h r
  have hall : "_create_all_hpp" = "_create_" ++ ("all" ++ "_hpp") := rfl
  rw [hfiles.pages]
  refine .append (.flatMap fun c => .unlessEmpty (.cons (opens_of_lines ?_ ?_)
      (.skip (isHeaderPath_cpp _) .nil)))
    (.cons (opens_of_lines ?_ ?_) (.skip (isHeaderPath_cpp "serializationfactory") .nil))
  all_goals simp only [guard, stem, ending, hall, String.append_assoc]

theorem found_valueObjects (h : kit.Supplied .valueObjects) :
    Found r.project (all r .valueObjects) (ValueObjects.pages kit r) := by
  obtain ⟨declared, defined, hfiles⟩ := ValueObjects.exists_files h r
  rw [hfiles.pages, all, own, List.append_nil]
  refine .flatMap fun c => .unlessEmpty (.cons (opens_of_lines ?_ ?_)
    (.skip (isHeaderPath_cpp _) .nil))
  all_goals simp only [guard, stem, ending, String.append_assoc]

theorem found_doxygen : Found r.project (all r .doxygen) (Doxygen.pages kit r) := by
  have hnone : all r .doxygen = [] := by simp [all, ofCategory, own]
  rw [hnone]
  exact .none (List.forall_mem_append.2 ⟨List.forall_mem_append.2
    ⟨List.forall_mem_flatMap.2 fun c _ => not_isHeaderPath_unlessEmpty (isHeaderPath_docs c.name),
      not_isHeaderPath_unlessEmpty (isHeaderPath_docs "all")⟩,
    not_isHeaderPath_unlessEmpty (isHeaderPath_docs "enums")⟩)

theorem found (settings : Registration) {platform : Platform} (h : kit.Supplied platform) :
    Found r.project (all r platform) (pagesOf kit settings r platform) := by
  cases platform with
  | c => exact found_c r h
  | excel => exact found_excel r settings h
  | doxygen => exact found_doxygen r
  | serialization => exact found_serialization r h
  | valueObjects => exact found_valueObjects r h

end Pages

/-! ### Guards as identifiers -/

section Guards
variable {project : ProjectNames}

/-- The category that a header is named after, or the word for all of them. -/
def category? : Header → Option String
  | addin => none
  | prototypes c | creators c | classes c | registrations c => some c

/-- The guard begins with the directory of the library. -/
def ofLibrary : Header → Prop
  | creators _ | classes _ => True
  | addin | prototypes _ | registrations _ => False

theorem all_isNamePart_append {s t : String} (hs : s.toList.all Text.isNamePart = true)
    (ht : t.toList.all Text.isNamePart = true) : (s ++ t).toList.all Text.isNamePart = true := by
  rw [String.toList_append, List.all_append, hs, ht, Bool.and_self]

theorem all_isNamePart_ending (h : Header) : h.ending.toList.all Text.isNamePart = true := by
  have hall : ∀ e ∈ ["_h", "_hpp"], e.toList.all Text.isNamePart = true := by decide
  exact hall _ (by cases h <;> simp [ending])

/-- A guard is an identifier unless it begins with a directory that is none. -/
theorem isIdentifier_guard_iff {h : Header} (hname : Text.isIdentifier project.name = true)
    (hcategory : ∀ c ∈ h.category?, Text.isIdentifier c = true) :
    Text.isIdentifier (h.guard project) = true ↔
      (h.ofLibrary → project.libRoot = "" ∨ Text.isIdentifier project.libRoot = true) := by
  have hlibrary {word c : String} (hword : Text.isIdentifier word = true)
      (hc : Text.isIdentifier c = true) :
      Text.isIdentifier (project.libRoot ++ word ++ c ++ "_hpp") = true ↔
        project.libRoot = "" ∨ Text.isIdentifier project.libRoot = true := by
    rw [String.append_assoc, String.append_assoc]
    exact Text.isIdentifier_append_iff (Text.isIdentifier_append hword
      (all_isNamePart_append (Text.all_isNamePart hc) (by decide)))
  cases h with
  | addin =>
    have hclosed : Text.isIdentifier ("addin_c" ++ "_h") = true := by decide
    exact iff_of_true hclosed nofun
  | prototypes c =>
    have hc := hcategory c rfl
    refine iff_of_true ?_ nofun
    exact Text.isIdentifier_append (Text.isIdentifier_append (by decide) (Text.all_isNamePart hc))
      (all_isNamePart_ending _)
  | creators c => exact (hlibrary (by decide) (hcategory c rfl)).trans (true_imp_iff).symm
  | classes c => exact (hlibrary (by decide) (hcategory c rfl)).trans (true_imp_iff).symm
  | registrations c =>
    have hc := hcategory c rfl
    refine iff_of_true ?_ nofun
    exact Text.isIdentifier_append (Text.isIdentifier_append (Text.isIdentifier_append
      (Text.isIdentifier_append (by decide) (Text.all_isNamePart_lowerText hname)) (by decide))
      (Text.all_isNamePart hc)) (all_isNamePart_ending _)

/-! ### Guards apart -/

/-- The directory of the library makes a guard of its own the same as one that registers. -/
def Meets (project : ProjectNames) : Header → Header → Prop
  | registrations c, creators c' =>
    "addin_" ++ Text.lowerText project.name ++ "_serialization_" ++ c =
      project.libRoot ++ "_create_" ++ c'
  | registrations c, classes c' =>
    "addin_" ++ Text.lowerText project.name ++ "_serialization_" ++ c =
      project.libRoot ++ "_vo_" ++ c'
  | _, _ => False

/-- Guards with different endings differ in their last characters. -/
theorem ending_eq {h h' : Header} (heq : h.guard project = h'.guard project) :
    h.ending = h'.ending := by
  have hends {s s' : String} : s ++ "_h" ≠ s' ++ "_hpp" := by
    intro hsame
    have hlast := congrArg (fun s : String => s.toList.getLast?) hsame
    simp at hlast
  have hcases : ∀ h : Header, h.ending = "_h" ∨ h.ending = "_hpp" := by
    intro h
    cases h <;> simp [ending]
  rw [guard, guard] at heq
  obtain hh | hh := hcases h <;> obtain hh' | hh' := hcases h' <;> rw [hh, hh'] at heq ⊢
  · exact absurd heq hends
  · exact absurd heq.symm hends

theorem stem_eq {h h' : Header} (heq : h.guard project = h'.guard project) :
    h.stem project = h'.stem project := by
  have hending := ending_eq heq
  rw [guard, guard, hending] at heq
  exact (String.append_left_inj _).1 heq

/-- The words after the directory of the library differ in their second characters. -/
theorem creators_ne_classes {root c c' : String} : root ++ "_create_" ++ c ≠ root ++ "_vo_" ++ c' := by
  intro hsame
  rw [String.append_assoc, String.append_assoc, String.append_right_inj] at hsame
  have hchars := congrArg String.toList hsame
  simp at hchars

theorem addin_ne_prototypes {c : String} : "addin_c" ≠ "addin_c_" ++ c := by
  intro hsame
  have hchars := congrArg String.toList hsame
  simp at hchars

/-- Guards are the same for one header only, unless the directory of the library makes them meet. -/
theorem guard_eq_iff {h h' : Header} : h.guard project = h'.guard project ↔
    h = h' ∨ Meets project h h' ∨ Meets project h' h := by
  constructor
  · intro heq
    have hending := ending_eq heq
    have hstem := stem_eq heq
    cases h with
    | addin =>
      cases h' with
      | addin => exact .inl rfl
      | prototypes c' => exact absurd hstem addin_ne_prototypes
      | _ => exact absurd hending (by simp [ending])
    | prototypes c =>
      cases h' with
      | addin => exact absurd hstem.symm addin_ne_prototypes
      | prototypes c' => exact .inl (congrArg prototypes ((String.append_right_inj _).1 hstem))
      | _ => exact absurd hending (by simp [ending])
    | creators c =>
      cases h' with
      | creators c' => exact .inl (congrArg creators ((String.append_right_inj _).1 hstem))
      | classes c' => exact absurd hstem creators_ne_classes
      | registrations c' => exact .inr (.inr hstem.symm)
      | _ => exact absurd hending (by simp [ending])
    | classes c =>
      cases h' with
      | creators c' => exact absurd hstem.symm creators_ne_classes
      | classes c' => exact .inl (congrArg classes ((String.append_right_inj _).1 hstem))
      | registrations c' => exact .inr (.inr hstem.symm)
      | _ => exact absurd hending (by simp [ending])
    | registrations c =>
      cases h' with
      | creators c' => exact .inr (.inl hstem)
      | classes c' => exact .inr (.inl hstem)
      | registrations c' =>
        exact .inl (congrArg registrations ((String.append_right_inj _).1 hstem))
      | _ => exact absurd hending (by simp [ending])
  · have hmeets {h h' : Header} (hm : Meets project h h') : h.guard project = h'.guard project := by
      cases h <;> cases h' <;> first | exact hm.elim | exact congrArg (· ++ "_hpp") hm
    rintro (rfl | hm | hm)
    · rfl
    · exact hmeets hm
    · exact (hmeets hm).symm

example : (registrations "create_a").guard ⟨"P", "P", "addin_p_serialization"⟩ =
    (creators "a").guard ⟨"P", "P", "addin_p_serialization"⟩ := by decide +kernel

/-! ### The directory that is not configured -/

/-- What begins with `t`, and with `w` and then `t` as well, has a character of `w` after the first. -/
theorem mem_of_append_cons_eq {w t r r' : List Char} {x : Char} (hw : w ≠ [])
    (h : t ++ x :: r = w ++ (t ++ r')) : x ∈ w := by
  induction hn : t.length using Nat.strong_induction_on generalizing t with
  | _ n ih =>
    obtain ⟨a, hwa, hxr⟩ | ⟨a, rfl, hrest⟩ := List.append_eq_append_iff.1 h
    · cases a with
      | nil =>
        rw [List.append_nil] at hwa
        subst hwa
        cases w with
        | nil => exact absurd rfl hw
        | cons c w =>
          rw [List.nil_append, List.cons_append] at hxr
          exact (List.cons.inj hxr).1 ▸ List.mem_cons_self
      | cons c a =>
        rw [List.cons_append] at hxr
        rw [hwa, (List.cons.inj hxr).1]
        exact List.mem_append_right _ List.mem_cons_self
    · rw [List.append_assoc] at hrest
      have hpos : 0 < w.length := List.length_pos_of_ne_nil hw
      exact ih a.length (by rw [← hn, List.length_append]; omega) hrest.symm rfl

/-- The snake case form of the project's name keeps guards apart. -/
theorem not_meets {h h' : Header} (hname : Text.isIdentifier project.name = true)
    (hroot : project.libRoot = Text.snakeCase project.name) : ¬ Meets project h h' := by
  -- Without underscores, the name stands before the word of one guard and after `addin` in the other.
  have hwords {word c c' : String} (x : Char) (rest : List Char)
      (hword : Text.letters word = x :: rest) (hx : x ∉ "addin".toList) :
      "addin_" ++ Text.lowerText project.name ++ "_serialization_" ++ c ≠
        project.libRoot ++ word ++ c' := by
    intro hsame
    have hletters := congrArg Text.letters hsame
    rw [hroot] at hletters
    simp only [Text.letters_append, Text.letters_snakeCase hname, hword, List.append_assoc,
      List.cons_append] at hletters
    exact hx (mem_of_append_cons_eq (by decide) hletters.symm)
  cases h with
  | registrations c =>
    cases h' with
    | creators c' => exact hwords 'c' ['r', 'e', 'a', 't', 'e'] (by decide) (by decide)
    | classes c' => exact hwords 'v' ['o'] (by decide) (by decide)
    | _ => exact id
  | _ => exact id

end Guards

/-! ### Headers of a run -/

/-- A header of a category is named after it. -/
theorem category?_of_mem {platform : Platform} {c : Registry.Category} {h : Header}
    (hh : h ∈ ofCategory platform c) : h.category? = some c.name := by
  have hone {header : Header} {α : Type} {xs : List α}
      (hh : h ∈ if xs.isEmpty then [] else [header]) : h = header := by
    split at hh
    · cases hh
    · exact List.mem_singleton.1 hh
  cases platform with
  | doxygen => cases hh
  | _ =>
    obtain rfl := hone hh
    rfl

theorem category?_of_mem_own (platform : Platform) :
    ∀ h ∈ own platform, h.category? = none ∨ h.category? = some "all" := by
  cases platform <;> decide

section Run
variable {config : Config} {m : Metadata} {r : Registry}
  (hm : ∀ c ∈ m.categories, c.Sound) (hmade : Registry.ofMetadata config.names m = .ok r)
include hm hmade

/-- Headers are named after categories. -/
theorem isIdentifier_category {platform : Platform} {h : Header} (hh : h ∈ all r platform) :
    ∀ c ∈ h.category?, Text.isIdentifier c = true := by
  rcases List.mem_append.1 hh with hh | hh
  · obtain ⟨d, hd, hh⟩ := List.mem_flatMap.1 hh
    intro c hc
    obtain rfl : d.name = c := Option.some.inj ((category?_of_mem hh).symm.trans hc)
    exact (Compilation.usable_categories hm hmade d hd).identifier
  · rcases category?_of_mem_own platform h hh with hnone | hall
    · rw [hnone]
      nofun
    · intro c hc
      obtain rfl : "all" = c := Option.some.inj (hall.symm.trans hc)
      decide

end Run

/-- **Guards are identifiers and distinct where the directory of the library lets them be.** The headers
of a platform begin with their guards. A guard is an identifier unless it begins with the directory of
the library, and that is not empty and no identifier. Two headers have the same guard only where that
directory makes it end in the same text as one that registers. Where no directory is configured, all
guards are identifiers, and distinct. -/
theorem headers_guarded_iff (tree : FileTree) {source : String} {config : Config}
    (hconfig : Config.parse source = .ok config) {m : Metadata}
    (hm : ∀ c ∈ m.categories, ∃ source filename, Metadata.Category.parse source filename = .ok c)
    {after : Compilation}
    (hrun : (Compilation.fresh config.names m).run Compilation.standard = (after, .ok ()))
    {r : Registry} (hr : after.registry = some r) :
    (∀ platform, ∃ kit : Kit, ∀ settings,
      load tree none settings r platform = .ok (ofKit kit settings r platform) ∧
        Found config.names (all r platform) (pagesOf kit settings r platform)) ∧
      (∀ platform, ∀ h ∈ all r platform, Text.isIdentifier (h.guard config.names) = true ↔
        (h.ofLibrary → config.libRoot = "" ∨ Text.isIdentifier config.libRoot = true)) ∧
      (∀ h h' : Header, h.guard config.names = h'.guard config.names ↔
        h = h' ∨ Meets config.names h h' ∨ Meets config.names h' h) ∧
      (config.project.libRoot = none → ∀ platform, ∀ h ∈ all r platform,
        Text.isIdentifier (h.guard config.names) = true ∧
          ∀ h' : Header, h.guard config.names = h'.guard config.names → h = h') := by
  have hsound := Metadata.sound_of_parsed hm
  obtain ⟨-, hmade⟩ := Compilation.registry_of_run hsound hrun hr
  have hproject : r.project = config.names := by
    obtain ⟨cs, -, rfl⟩ := Registry.ofMetadata_eq_ok.1 hmade
    rfl
  have hname : Text.isIdentifier config.names.name = true :=
    (Config.wellFormed_of_parse hconfig).project.identifier
  have hguard (platform : Platform) (h : Header) (hh : h ∈ all r platform) :
      Text.isIdentifier (h.guard config.names) = true ↔
        (h.ofLibrary → config.libRoot = "" ∨ Text.isIdentifier config.libRoot = true) :=
    isIdentifier_guard_iff hname (isIdentifier_category hsound hmade hh)
  refine ⟨fun platform => ?_, hguard, fun h h' => guard_eq_iff, fun hnone platform h hh => ?_⟩
  · obtain ⟨kit, hkit, hload⟩ := exists_supplied tree platform
    exact ⟨kit, fun settings => ⟨hload settings r, hproject ▸ found r settings hkit⟩⟩
  · have hroot : config.libRoot = Text.snakeCase config.names.name := by
      rw [Config.libRoot, hnone]
      rfl
    refine ⟨(hguard platform h hh).2 fun _ => .inr ?_, fun h' hsame => ?_⟩
    · rw [hroot]
      exact Text.isIdentifier_snakeCase hname
    · have hnot {h h' : Header} : ¬ Meets config.names h h' := not_meets hname hroot
      exact (guard_eq_iff.1 hsame).resolve_right (not_or.2 ⟨hnot, hnot⟩)

/-- A configuration whose library is in a directory of another. -/
def nestedSource : String := "[project]\nname = \"P\"\nlib_root = \"libs/p\"\n"

/-- What is in `nestedSource`. -/
def nestedConfig : Config where
  project := ⟨"P", none, some "libs/p", false⟩
  metadata := {}
  platforms := {}

theorem parse_nestedSource : Config.parse nestedSource = .ok nestedConfig :=
  Config.parse_of_document (Config.document_of_chars rfl (by decide +kernel)) (by decide +kernel)

/-- A category with a constructor. -/
def makerSource : String :=
  "<C name='a'><Functions><Constructor name='f'><libraryFunction>K</libraryFunction>"
    ++ "</Constructor></Functions></C>"

/-- The category of `makerSource`. -/
def makers : Metadata where
  categories :=
    [⟨"a", "a", "", [],
      [⟨"f", .constructor, some "K", none, none, none, none, none, none, false, true, [], [], none⟩]⟩]
  enumerations := []

/-- The header of the creators begins with a macro name that has a slash in it. -/
theorem headers_nested : Config.parse nestedSource = .ok nestedConfig ∧
    (∀ c ∈ makers.categories, Metadata.Category.parse makerSource "a.xml" = .ok c) ∧
      ∃ after r, (Compilation.fresh nestedConfig.names makers).run Compilation.standard =
          (after, .ok ()) ∧ after.registry = some r ∧
        ∃ h ∈ all r .serialization, h.guard nestedConfig.names = "libs/p_create_a_hpp" ∧
          ¬ Text.isIdentifier (h.guard nestedConfig.names) = true := by
  have hparse : ∀ c ∈ makers.categories, Metadata.Category.parse makerSource "a.xml" = .ok c :=
    Metadata.parse_of_chars (Metadata.append_chars rfl rfl) (by decide +kernel)
  have hrun : (((Compilation.fresh nestedConfig.names makers).run Compilation.standard).2.toOption,
      ((Compilation.fresh nestedConfig.names makers).run Compilation.standard).1.registry.map
        (all · .serialization)) = (some (), some [creators "a", creators "all"]) := by
    decide +kernel
  obtain ⟨after, r, houtcome, hr, hall⟩ := Compilation.exists_registry hrun
  obtain ⟨-, hguard, -⟩ := headers_guarded_iff {} parse_nestedSource
    (fun c hc => ⟨_, _, hparse c hc⟩) houtcome hr
  have hmem : creators "a" ∈ all r .serialization := hall ▸ List.mem_cons_self
  refine ⟨parse_nestedSource, hparse, after, r, houtcome, hr, _, hmem, by decide +kernel, ?_⟩
  rw [hguard .serialization _ hmem]
  exact fun h => absurd (h trivial) (by decide +kernel)

end Header
end Bindery.Generator
