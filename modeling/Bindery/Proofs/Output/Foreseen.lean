import Bindery.Proofs.Output.Write

/-! What becomes of a target, foreseen.

What is at the place of a target before it is written tells what becomes of it
(`outcome_of_write`). -/
namespace Bindery.OutputFile

open FileTree

/-- What becomes of a place that is to hold some bytes: it is created where there is nothing,
unchanged where it holds them already, and updated otherwise. -/
def foreseen (t : FileTree) (p : Place) (bytes : ByteArray) : Outcome :=
  match t.entryAt? p with
  | none => .created
  | some (.file _ old) => if old.data = bytes.data then .unchanged else .updated
  | some .directory => .updated

variable {t t' : FileTree} {target : String} {outcome : Outcome}

theorem foreseen_congr {p : Place} (h : t'.entryAt? p = t.entryAt? p) (bytes : ByteArray) :
    foreseen t' p bytes = foreseen t p bytes := by
  rw [foreseen, foreseen, h]

theorem outcome_of_left {p q : Place} {bytes : ByteArray}
    (h : left t target p q bytes = (t', .ok outcome)) : outcome = foreseen t p bytes := by
  rw [left] at h
  rw [foreseen]
  cases hentry : t.entryAt? p with
  | none =>
    rw [hentry] at h
    cases h
    rfl
  | some e =>
    cases e with
    | directory =>
      rw [hentry] at h
      cases h
    | file id old =>
      simp only [hentry] at h ⊢
      split at h
      · next hsame =>
        cases h
        rw [if_pos hsame]
      · next hsame =>
        cases h
        rw [if_neg hsame]

/-- Making directories does not change what becomes of the target. -/
theorem outcome_of_write {text : String} (hn : t.Numbered)
    (h : write t target text = (t', .ok outcome)) :
    outcome = foreseen t (Place.ofPath target) text.toUTF8 := by
  obtain ⟨made, hgrown, -, -, -, h⟩ := exists_left_of_write hn h
  rw [outcome_of_left h]
  rcases hgrown.entryAt? (Place.ofPath target) with hsame | ⟨-, hdir, -⟩
  · exact foreseen_congr hsame _
  · exact absurd hdir (left_eq_ok h).1

end Bindery.OutputFile
