import Bindery.Proofs.Generator.Files.C
import Bindery.Proofs.Generator.Files.Excel

/-! Functions that are defined are declared and registered.

A platform asks for the functions to define at a higher level than for those to declare or register.
So whatever is defined stands among what is declared or registered, in the same order, and every file
has exactly the functions that are asked for it (`functions_covered`). -/
namespace Bindery

/-- What is asked for at a level is asked for at every level below. -/
theorem Registry.Category.supporting_sublist (c : Registry.Category) (platform : String)
    {level level' : Implementation} (h : level ≤ level') :
    (c.supporting platform level').Sublist (c.supporting platform level) := by
  refine List.monotone_filter_right _ fun f hf => ?_
  rw [Bool.and_eq_true, Function.supports, Option.any_eq_true] at hf ⊢
  obtain ⟨hcode, found, hfound, hlevel⟩ := hf
  exact ⟨hcode, found, hfound, decide_eq_true (Nat.le_trans h (of_decide_eq_true hlevel))⟩

namespace Generator

/-- **Every function that is defined is declared or registered.** The functions that a category
defines are among those that it declares for C and registers for worksheets, in the same order. A
category has a header, a source file and a file of registrations exactly where it has functions for
them. The header has a declaration and the source file a definition for each of these in order, and a
definition begins as its declaration does; the file of registrations has a call for each. The files
for all categories name those with a header or with registrations, in order. -/
theorem functions_covered (tree : FileTree) : ∃ c excel : Kit,
    (∀ settings r, load tree none settings r .c = .ok (ofKit c settings r .c)) ∧
    (∀ settings r, load tree none settings r .excel = .ok (ofKit excel settings r .excel)) ∧
    (∀ category, (C.defined category).Sublist (C.declared category)) ∧
    (∀ category, (Excel.defined category).Sublist (Excel.registered category)) ∧
    ∀ settings r, (∃ parameters rest, C.Files c r parameters rest) ∧
      ∃ bodies calls, Excel.Files excel settings r bodies calls := by
  obtain ⟨c, hc, hload⟩ := exists_supplied tree .c
  obtain ⟨excel, hexcel, hload'⟩ := exists_supplied tree .excel
  have hlevel : Implementation.manual ≤ .auto := by decide
  exact ⟨c, excel, hload, hload', fun category => category.supporting_sublist _ hlevel,
    fun category => category.supporting_sublist _ hlevel, fun settings r =>
    ⟨C.exists_files hc r, Excel.exists_files hexcel settings r⟩⟩

end Generator
end Bindery
