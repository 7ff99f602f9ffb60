import Bindery.Proofs.Compilation.Verdict
import Bindery.Proofs.Generator.Files.Registration
import Bindery.Proofs.Registry.Parameters
import Bindery.Proofs.Text.Counted
import Bindery.Text.Blank

/-! The lines of factories.

A factory has a title for each category that it registers, and the registrations under it. A title is
a comment up to the end of its line, so what a title has after a line break is no part of the comment
any more (`codeLines_comment`). The lines of code in the registrations are those that are meant to be
there exactly where no title goes on with code (`factories_registering_iff`). -/
namespace Bindery

/-! ### Lines of code -/

namespace Text

/-- A line that is not blank and no comment. -/
def isCode (line : List Char) : Bool :=
  match line.dropWhile isBlank with
  | [] | '/' :: '/' :: _ => false
  | _ => true

/-- The lines of a text that are code. -/
def codeLines (s : String) : List String :=
  ((pieces '\n' s.toList).filter isCode).map String.ofList

/-- The lines of a text after its first that are code. -/
def strayLines (s : String) : List String :=
  ((pieces '\n' s.toList).tail.filter isCode).map String.ofList

theorem pieces_break (cs ds : List Char) :
    pieces '\n' (cs ++ '\n' :: ds) = pieces '\n' cs ++ pieces '\n' ds :=
  List.splitOn_append_cons_self cs ds

/-- A text without line breaks is one line. -/
theorem pieces_of_not_mem {cs : List Char} (h : '\n' ∉ cs) : pieces '\n' cs = [cs] :=
  List.splitOn_eq_singleton h

/-- A line break comes between lines. -/
theorem codeLines_break (a b : String) : codeLines (a ++ "\n" ++ b) = codeLines a ++ codeLines b := by
  have hsplit : (a ++ "\n" ++ b).toList = a.toList ++ '\n' :: b.toList := by simp
  rw [codeLines, hsplit, pieces_break, List.filter_append, List.map_append]
  rfl

theorem codeLines_blank : codeLines "" = [] := by decide

/-- A text has some lines of code, and ends with the break of its last line. -/
def Ended (s : String) (code : List String) : Prop :=
  ∀ t, codeLines (s ++ t) = code ++ codeLines t

namespace Ended
variable {s t : String} {code code' : List String}

theorem codeLines_eq (h : Ended s code) : codeLines s = code := by
  have hs := h ""
  rwa [String.append_empty, codeLines_blank, List.append_nil] at hs

theorem append (hs : Ended s code) (ht : Ended t code') : Ended (s ++ t) (code ++ code') := by
  intro more
  rw [String.append_assoc, hs, ht, List.append_assoc]

theorem nil : Ended "" [] := by
  intro more
  rw [String.empty_append, List.nil_append]

theorem join {α : Type} {text : α → String} {code : α → List String} {xs : List α}
    (h : ∀ x ∈ xs, Ended (text x) (code x)) :
    Ended (String.join (xs.map text)) (xs.flatMap code) := by
  induction xs with
  | nil => exact nil
  | cons x rest ih =>
    rw [List.map_cons, String.join_cons, List.flatMap_cons]
    exact (h x List.mem_cons_self).append (ih fun y hy => h y (List.mem_cons_of_mem _ hy))

/-- Lines that all have their breaks. -/
theorem lines (ls : List String) : Ended (Text.lines (ls ++ [""])) (ls.flatMap codeLines) := by
  induction ls with
  | nil => exact nil
  | cons line rest ih =>
    intro more
    have hne : rest ++ [""] ≠ [] := List.append_ne_nil_of_right_ne_nil _ (List.cons_ne_nil _ _)
    rw [List.cons_append, Template.lines_cons hne, String.append_assoc, codeLines_break, ih,
      List.flatMap_cons, List.append_assoc]

end Ended

/-- A text that is put at the beginning of a line among others. -/
theorem lines_put (before : List String) (s line : String) (after : List String) :
    lines (before ++ (s ++ line) :: after) = lines (before ++ [""]) ++ s ++ lines (line :: after) := by
  rw [Template.lines_append before (List.cons_ne_nil _ _),
    Template.lines_append before (List.cons_ne_nil _ _), lines, lines, lines,
    String.intercalate_cons_append, String.intercalate_singleton, String.append_empty,
    String.append_assoc]

theorem break_not_mem_append {s t : String} (hs : '\n' ∉ s.toList) (ht : '\n' ∉ t.toList) :
    '\n' ∉ (s ++ t).toList := by
  rw [String.toList_append, List.mem_append, not_or]
  exact ⟨hs, ht⟩

/-- A line of code. -/
theorem codeLines_code {lead s : String} (hcode : ∀ cs, isCode (lead.toList ++ cs) = true)
    (h : '\n' ∉ (lead ++ s).toList) : codeLines (lead ++ s) = [lead ++ s] := by
  have hline : isCode (lead ++ s).toList = true := by
    rw [String.toList_append]
    exact hcode _
  rw [codeLines, pieces_of_not_mem h, List.filter_cons_of_pos hline, List.filter_nil,
    List.map_singleton, String.ofList_toList]

/-- What stands before a text is part of its first line. -/
theorem pieces_append {cs ds : List Char} (h : '\n' ∉ cs) : ∃ first,
    pieces '\n' (cs ++ ds) = (cs ++ first) :: (pieces '\n' ds).tail := by
  by_cases hmem : '\n' ∈ ds
  · obtain ⟨first, rest, rfl, hfirst⟩ := List.eq_append_cons_of_mem hmem
    have hboth : '\n' ∉ cs ++ first := by
      rw [List.mem_append, not_or]
      exact ⟨h, hfirst⟩
    refine ⟨first, ?_⟩
    rw [← List.append_assoc, pieces_break, pieces_of_not_mem hboth, pieces_break,
      pieces_of_not_mem hfirst]
    rfl
  · refine ⟨ds, ?_⟩
    rw [pieces_of_not_mem hmem, pieces_of_not_mem]
    · rfl
    · rw [List.mem_append, not_or]
      exact ⟨h, hmem⟩

/-- A comment that a text is put into ends where the text has its first line break. -/
theorem codeLines_comment {lead : String} (h : '\n' ∉ lead.toList)
    (hcomment : ∀ cs, isCode (lead.toList ++ cs) = false) (s : String) :
    codeLines (lead ++ s) = strayLines s := by
  obtain ⟨first, hpieces⟩ : ∃ first, pieces '\n' (lead.toList ++ s.toList) =
      (lead.toList ++ first) :: (pieces '\n' s.toList).tail := pieces_append h
  rw [codeLines, String.toList_append, hpieces, List.filter_cons_of_neg (by rw [hcomment]; decide)]
  rfl

end Text

/-! ### Factories -/

namespace Generator

/-- The comment with the title of a category, on a line of its own. -/
theorem codeLines_title (title : String) :
    Text.codeLines ("        // " ++ title) = Text.strayLines title := by
  refine Text.codeLines_comment (by decide) (fun cs => ?_) title
  rfl

namespace Serialization

/-- The line that registers a creator. -/
def registrationLine (f : Registry.Function) : String :=
  "        registerCreator(\"" ++ f.name ++ "\", create_" ++ f.name ++ ");"

/-- What stands before the registrations. -/
def factoryOpening (project : ProjectNames) : String := Text.lines [
  "#include <" ++ project.libRoot ++ "/Serialization/serializationfactory.hpp>",
  "#include <" ++ project.libRoot ++ "/Serialization/create_all.hpp>",
  "",
  "namespace " ++ project.namespaceObjects ++ " \x7b",
  "",
  "    SerializationFactory::SerializationFactory() \x7b",
  ""]

/-- What stands after the registrations. -/
def factoryClosing (project : ProjectNames) : String := Text.lines [
  "    \x7d",
  "",
  "\x7d // namespace " ++ project.namespaceObjects,
  ""]

/-- The registrations. -/
def registrationsText (categories : List Registry.Category) : String :=
  String.join (categories.map categoryText)

theorem factoryText_eq (project : ProjectNames) (categories : List Registry.Category) :
    factoryText project categories =
      factoryOpening project ++ registrationsText categories ++ factoryClosing project :=
  Text.lines_put [_, _, _, _, _, _] _ _ _

/-- The line of a creator is code. -/
theorem codeLines_registrationLine {f : Registry.Function} (h : Text.isIdentifier f.name = true) :
    Text.codeLines (registrationLine f) = [registrationLine f] := by
  have hname : '\n' ∉ f.name.toList := Text.break_not_mem h
  have hline : registrationLine f =
      "        registerCreator(\"" ++ (f.name ++ ("\", create_" ++ (f.name ++ ");"))) := by
    delta registrationLine
    simp only [String.append_assoc]
  rw [hline]
  refine Text.codeLines_code (fun _ => rfl) (Text.break_not_mem_append ?_
    (Text.break_not_mem_append hname (Text.break_not_mem_append ?_
      (Text.break_not_mem_append hname ?_)))) <;> decide

/-- The registrations of a category, with the lines that its title goes on with. -/
theorem ended_categoryText {c : Registry.Category}
    (h : ∀ f ∈ c.constructors, Text.isIdentifier f.name = true) :
    Text.Ended (categoryText c)
      (Text.strayLines c.displayName ++ c.constructors.map registrationLine) := by
  have htitle : Text.Ended (Text.lines ["", "        // " ++ c.displayName, "", ""])
      (["", "        // " ++ c.displayName, ""].flatMap Text.codeLines) :=
    Text.Ended.lines ["", "        // " ++ c.displayName, ""]
  have hline (f : Registry.Function) (hf : f ∈ c.constructors) :
      Text.Ended (registrationText f) ([registrationLine f].flatMap Text.codeLines) :=
    Text.Ended.lines [registrationLine f]
  simp only [List.flatMap_cons, List.flatMap_nil, Text.codeLines_blank, codeLines_title,
    List.nil_append, List.append_nil] at htitle hline
  rw [List.map_eq_flatMap]
  refine htitle.append (.join fun f hf => ?_)
  rw [← codeLines_registrationLine (h f hf)]
  exact hline f hf

/-- The lines of code in the registrations of some categories. -/
theorem ended_registrationsText {categories : List Registry.Category}
    (h : ∀ c ∈ categories, ∀ f ∈ c.constructors, Text.isIdentifier f.name = true) :
    Text.Ended (registrationsText categories) (categories.flatMap fun c =>
      Text.strayLines c.displayName ++ c.constructors.map registrationLine) :=
  .join fun c hc => ended_categoryText (h c hc)

end Serialization

namespace Registration
variable (settings : Registration)

/-- The line that calls the registrations of a category. -/
def callLine (c : Registry.Category) : String := "        register_" ++ c.name ++ "(ar);"

/-- What stands before the calls. -/
def factoryOpening : String := Text.lines [
  "#include <" ++ settings.includeDir ++ "/Serialization/serialization_all.hpp>",
  "#include <boost/archive/xml_iarchive.hpp>",
  "#include <boost/archive/xml_oarchive.hpp>",
  "",
  "namespace " ++ settings.addinNamespace ++ " \x7b",
  "",
  "    template<class Archive>",
  "    void tpl_register_classes(Archive &ar) \x7b",
  "",
  ""]

/-- What stands after the calls. -/
def factoryClosing : String := Text.lines [
  "    \x7d",
  "",
  "    void register_out(boost::archive::xml_oarchive &oa) \x7b",
  baseText settings "::register_out(oa);" ++ "        tpl_register_classes(oa);",
  "    \x7d",
  "",
  "    void register_in(boost::archive::xml_iarchive &ia) \x7b",
  baseText settings "::register_in(ia);" ++ "        tpl_register_classes(ia);",
  "    \x7d",
  "",
  "\x7d // namespace " ++ settings.addinNamespace,
  ""]

/-- The calls. -/
def callsText (categories : List Registry.Category) : String :=
  String.join (categories.map categoryText)

theorem factoryText_eq (categories : List Registry.Category) :
    factoryText settings categories =
      factoryOpening settings ++ callsText categories ++ factoryClosing settings :=
  Text.lines_put [_, _, _, _, _, _, _, _, _] _ _ _

/-- The line of a call is code. -/
theorem codeLines_callLine {c : Registry.Category} (h : Text.isIdentifier c.name = true) :
    Text.codeLines (callLine c) = [callLine c] := by
  have hname : '\n' ∉ c.name.toList := Text.break_not_mem h
  have hline : callLine c = "        register_" ++ (c.name ++ "(ar);") := by
    delta callLine
    rw [String.append_assoc]
  rw [hline]
  refine Text.codeLines_code (fun _ => rfl)
    (Text.break_not_mem_append ?_ (Text.break_not_mem_append hname ?_)) <;> decide

/-- The call for a category, with the lines that its title goes on with. -/
theorem ended_categoryText {c : Registry.Category} (h : Text.isIdentifier c.name = true) :
    Text.Ended (categoryText c) (Text.strayLines c.displayName ++ [callLine c]) := by
  have hlines : Text.Ended (categoryText c)
      (["        // " ++ c.displayName, "", callLine c, ""].flatMap Text.codeLines) :=
    Text.Ended.lines ["        // " ++ c.displayName, "", callLine c, ""]
  simpa only [List.flatMap_cons, List.flatMap_nil, Text.codeLines_blank, codeLines_title,
    codeLines_callLine h, List.nil_append, List.append_nil] using hlines

/-- The lines of code in the calls for some categories. -/
theorem ended_callsText {categories : List Registry.Category}
    (h : ∀ c ∈ categories, Text.isIdentifier c.name = true) :
    Text.Ended (callsText categories) (categories.flatMap fun c =>
      Text.strayLines c.displayName ++ [callLine c]) :=
  .join fun c hc => ended_categoryText (h c hc)

end Registration

/-! ### What is registered -/

/-- A part of a file registers what categories are to register, in their order: those are its lines of
code, besides the ones that titles go on with. -/
structure Registers (r : Registry) (part : String) (code : Registry.Category → List String) :
    Prop where
  codeLines_eq : Text.codeLines part =
    r.constructing.flatMap fun c => Text.strayLines c.displayName ++ code c
  exact_iff : Text.codeLines part = r.constructing.flatMap code ↔
    ∀ c ∈ r.constructing, Text.strayLines c.displayName = []

/-- What comes before the lines for each member leaves them alone only where there is nothing. -/
theorem flatMap_append_eq_iff {α β : Type} {stray code : α → List β} {xs : List α} :
    xs.flatMap (fun x => stray x ++ code x) = xs.flatMap code ↔ ∀ x ∈ xs, stray x = [] := by
  have hlength : (xs.flatMap fun x => stray x ++ code x).length =
      (xs.flatMap stray).length + (xs.flatMap code).length := by
    rw [(List.flatMap_append_perm xs stray code).symm.length_eq, List.length_append]
  constructor
  · intro hsame
    rw [hsame] at hlength
    have hnone : (xs.flatMap stray).length = 0 := by omega
    exact List.flatMap_eq_nil_iff.1 (List.eq_nil_of_length_eq_zero hnone)
  · intro hnone
    exact List.flatMap_congr fun x hx => by rw [hnone x hx, List.nil_append]

theorem registers_of_ended {r : Registry} {part : String} {code : Registry.Category → List String}
    (h : Text.Ended part (r.constructing.flatMap fun c => Text.strayLines c.displayName ++ code c)) :
    Registers r part code where
  codeLines_eq := h.codeLines_eq
  exact_iff := by rw [h.codeLines_eq, flatMap_append_eq_iff]

/-- **Titles stay in their comments where they have no code after a line break.** The registrations of
both factories have, in order, the lines that register the constructors, or one call for each category
with constructors, as their lines of code, together with those that the titles of the categories go on
with after a line break. So they have no others exactly where no title goes on with code. -/
theorem factories_registering_iff (tree : FileTree) {project : ProjectNames} {m : Metadata}
    (hm : ∀ c ∈ m.categories, ∃ source filename, Metadata.Category.parse source filename = .ok c)
    {after : Compilation}
    (hrun : (Compilation.fresh project m).run Compilation.standard = (after, .ok ()))
    {r : Registry} (hr : after.registry = some r) :
    (∃ kit : Kit, (∀ settings,
        load tree none settings r .serialization = .ok (ofKit kit settings r .serialization)) ∧
      ⟨"serializationfactory.cpp", .ok (Serialization.factoryOpening r.project
        ++ Serialization.registrationsText r.constructing
        ++ Serialization.factoryClosing r.project)⟩ ∈ Serialization.pages kit r) ∧
    Registers r (Serialization.registrationsText r.constructing)
      (fun c => c.constructors.map Serialization.registrationLine) ∧
    (∃ kit : Kit, ∀ settings,
      load tree none settings r .excel = .ok (ofKit kit settings r .excel) ∧
      ⟨"Serialization/serializationfactory.cpp", .ok (Registration.factoryOpening settings
        ++ Registration.callsText r.constructing
        ++ Registration.factoryClosing settings)⟩ ∈ Excel.pages kit settings r) ∧
    Registers r (Registration.callsText r.constructing) (fun c => [Registration.callLine c]) := by
  have hsound := Metadata.sound_of_parsed hm
  have hfunctions : ∀ c ∈ r.constructing, ∀ f ∈ c.constructors, Text.isIdentifier f.name = true := by
    intro c hc f hf
    obtain ⟨g, hg, -, hmade⟩ := Compilation.exists_declaration hsound hrun hr
      (List.mem_of_mem_filter hc) (List.mem_of_mem_filter hf)
    rw [(Registry.Function.completed_of_sound hg hmade).name]
    exact hg.name.identifier
  have hcategories : ∀ c ∈ r.constructing, Text.isIdentifier c.name = true := by
    obtain ⟨-, hmade⟩ := Compilation.registry_of_run hsound hrun hr
    exact fun c hc => (Compilation.usable_categories hsound hmade c
      (List.mem_of_mem_filter hc)).identifier
  obtain ⟨creators, hcreators, hloadCreators⟩ := exists_supplied tree .serialization
  obtain ⟨excel, hexcel, hloadExcel⟩ := exists_supplied tree .excel
  refine ⟨⟨creators, fun settings => hloadCreators settings r, ?_⟩,
    registers_of_ended (Serialization.ended_registrationsText hfunctions),
    ⟨excel, fun settings => ⟨hloadExcel settings r, ?_⟩⟩,
    registers_of_ended (Registration.ended_callsText hcategories)⟩
  · obtain ⟨rest, hfiles⟩ := Serialization.exists_files hcreators r
    rw [hfiles.pages, ← Serialization.factoryText_eq]
    simp
  · rw [Excel.pages, Registration.files settings hexcel r, ← Registration.factoryText_eq]
    simp

/-- A category with a title on two lines, and with a constructor. -/
def titleSource : String :=
  "<C name='a'><displayName>Bonds\nint x;</displayName><Functions><Constructor name='f'>"
    ++ "<libraryFunction>K</libraryFunction></Constructor></Functions></C>"

/-- The category of `titleSource`. -/
def titles : Metadata where
  categories :=
    [⟨"a", "Bonds\nint x;", "", [],
      [⟨"f", .constructor, some "K", none, none, none, none, none, none, false, true, [], [], none⟩]⟩]
  enumerations := []

/-- The second line of the title is code in both factories. -/
theorem factories_titles :
    (∀ c ∈ titles.categories, Metadata.Category.parse titleSource "a.xml" = .ok c) ∧
      ∃ after r, (Compilation.fresh ⟨"P", "P", "p"⟩ titles).run Compilation.standard =
          (after, .ok ()) ∧ after.registry = some r ∧
        Text.codeLines (Serialization.registrationsText r.constructing) =
          ["int x;", "        registerCreator(\"f\", create_f);"] ∧
        Text.codeLines (Registration.callsText r.constructing) =
          ["int x;", "        register_a(ar);"] := by
  have hparse : ∀ c ∈ titles.categories, Metadata.Category.parse titleSource "a.xml" = .ok c :=
    Metadata.parse_of_chars (Metadata.append_chars rfl rfl) (by decide +kernel)
  have hrun : (((Compilation.fresh ⟨"P", "P", "p"⟩ titles).run Compilation.standard).2.toOption,
      ((Compilation.fresh ⟨"P", "P", "p"⟩ titles).run Compilation.standard).1.registry.map fun r =>
        (r.constructing.flatMap fun c =>
            Text.strayLines c.displayName ++ c.constructors.map Serialization.registrationLine,
          r.constructing.flatMap fun c =>
            Text.strayLines c.displayName ++ [Registration.callLine c])) =
      (some (), some (["int x;", "        registerCreator(\"f\", create_f);"],
        ["int x;", "        register_a(ar);"])) := by
    decide +kernel
  obtain ⟨after, r, houtcome, hr, hlines⟩ := Compilation.exists_registry hrun
  obtain ⟨hregistrations, hcalls⟩ := Prod.mk.inj hlines
  obtain ⟨-, hcreators, -, hexcel⟩ :=
    factories_registering_iff {} (fun c hc => ⟨_, _, hparse c hc⟩) houtcome hr
  exact ⟨hparse, after, r, houtcome, hr, hcreators.codeLines_eq.trans hregistrations,
    hexcel.codeLines_eq.trans hcalls⟩

end Generator
end Bindery
