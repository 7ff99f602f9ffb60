import Mathlib.Data.List.Pairwise

/-! Things in the order of texts.

What is sorted by a text key is in the order of the keys, and things with the same key stay in the order
that they had (`inOrder_mergeSort`). -/
namespace Bindery.Text

/-- Things sorted by their keys. Those with the same key stay as they were. -/
structure InOrder {α : Type} (key : α → String) (xs sorted : List α) : Prop where
  perm : sorted.Perm xs
  ascending : sorted.Pairwise fun a b => key a ≤ key b
  stable : ∀ k, sorted.filter (fun a => key a = k) = xs.filter fun a => key a = k

theorem inOrder_mergeSort {α : Type} (key : α → String) (xs : List α) :
    InOrder key xs (xs.mergeSort fun a b => key a ≤ key b) := by
  let le (a b : α) : Bool := key a ≤ key b
  have htrans (a b c : α) (hab : le a b = true) (hbc : le b c = true) : le a c = true :=
    decide_eq_true (String.le_trans (of_decide_eq_true hab) (of_decide_eq_true hbc))
  have htotal (a b : α) : (le a b || le b a) = true := by
    rcases String.le_total (key a) (key b) with h | h <;> simp [le, h]
  have hperm : (xs.mergeSort le).Perm xs := List.mergeSort_perm xs le
  refine ⟨hperm, (List.pairwise_mergeSort htrans htotal xs).imp of_decide_eq_true, fun k => ?_⟩
  -- Things with one key are in order as they are, and sorting keeps what is in order.
  let same (a : α) : Bool := key a = k
  have hordered : (xs.filter same).Pairwise fun a b => le a b = true :=
    List.pairwise_of_forall_mem_list fun a ha b hb => by
      have hakey := of_decide_eq_true (List.mem_filter.1 ha).2
      have hbkey := of_decide_eq_true (List.mem_filter.1 hb).2
      have hkeys : key a = key b := hakey.trans hbkey.symm
      exact decide_eq_true (hkeys ▸ String.le_refl (key a))
  have hsub : (xs.filter same).Sublist (xs.mergeSort le) :=
    List.sublist_mergeSort htrans htotal hordered List.filter_sublist
  have hkept : (xs.filter same).Sublist ((xs.mergeSort le).filter same) := by
    simpa only [List.filter_filter, Bool.and_self] using hsub.filter same
  exact (hkept.eq_of_length (hperm.filter same).length_eq.symm).symm

end Bindery.Text
