/-! Cutting and measuring texts.

A text is cut at the first occurrence of another text. Offsets and lengths are counted in bytes of
the UTF-8 form. `cut?_eq_some`: a cut gives the pieces around an occurrence, and
`cut?_eq_none_iff`: there is none exactly when the needle occurs nowhere. `splitAtByte?_eq_some`: a
text is split at a byte that is between characters. -/
namespace Bindery.Text

/-- The number of bytes of a text in UTF-8. -/
def byteLength : List Char → Nat
  | [] => 0
  | c :: rest => c.utf8Size + byteLength rest

/-- What stands before and after a byte, if it is between characters. -/
def splitAtByte? : List Char → Nat → Option (List Char × List Char)
  | cs, 0 => some ([], cs)
  | [], _ + 1 => none
  | c :: rest, n + 1 =>
    if c.utf8Size ≤ n + 1 then
      (splitAtByte? rest (n + 1 - c.utf8Size)).map fun (before, after) => (c :: before, after)
    else none

/-- What stands before and after the first occurrence of a text. -/
def cut? [BEq α] (needle : List α) (hay : List α) : Option (List α × List α) :=
  if needle.isPrefixOf hay then some ([], hay.drop needle.length)
  else match hay with
    | [] => none
    | c :: rest => (cut? needle rest).map fun (before, after) => (c :: before, after)

/-- The pieces of a text between the occurrences of a separator. -/
def pieces [BEq α] (separator : α) (xs : List α) : List (List α) := xs.splitOn separator

/-- The fragments that are not empty, joined. -/
def joinNonempty (separator : String) (fragments : List String) : String :=
  separator.intercalate (fragments.filter (· ≠ ""))

/-- Lines with breaks between them. -/
def lines (ls : List String) : String := "\n".intercalate ls

/-- What stands after the last occurrence of a text, or everything if it does not occur. -/
def afterLast [BEq α] (needle hay : List α) : List α :=
  match cut? needle.reverse hay.reverse with
  | some (after, _) => after.reverse
  | none => hay

/-- A text repeated. -/
def times (n : Nat) (c : Char) : String := String.ofList (List.replicate n c)

/-! ### Laws -/

theorem byteLength_append (a b : List Char) :
    byteLength (a ++ b) = byteLength a + byteLength b := by
  induction a with
  | nil => simp [byteLength]
  | cons c rest ih => simp [byteLength, ih, Nat.add_assoc]

theorem byteLength_eq (cs : List Char) : byteLength cs = (String.ofList cs).utf8ByteSize := by
  induction cs with
  | nil => rfl
  | cons c rest ih =>
    rw [String.ofList_cons, String.utf8ByteSize_append, String.utf8ByteSize_singleton, ← ih]
    rfl

theorem splitAtByte?_byteLength (before after : List Char) :
    splitAtByte? (before ++ after) (byteLength before) = some (before, after) := by
  induction before with
  | nil => rw [byteLength, List.nil_append, splitAtByte?]
  | cons c rest ih =>
    obtain ⟨n, hn⟩ : ∃ n, c.utf8Size + byteLength rest = n + 1 :=
      ⟨_, (Nat.sub_add_cancel (Nat.le_trans c.utf8Size_pos (Nat.le_add_right _ _))).symm⟩
    rw [byteLength, List.cons_append, hn, splitAtByte?, ← hn, if_pos (Nat.le_add_right _ _),
      Nat.add_sub_cancel_left, ih]
    rfl

theorem splitAtByte?_eq_some {cs before after : List Char} {n : Nat} :
    splitAtByte? cs n = some (before, after) ↔ cs = before ++ after ∧ byteLength before = n := by
  constructor
  · intro h
    fun_induction splitAtByte? cs n generalizing before with
    | case1 cs =>
      cases h
      exact ⟨rfl, rfl⟩
    | case2 => cases h
    | case3 c rest n hc ih =>
      obtain ⟨⟨b, a⟩, hba, heq⟩ := Option.map_eq_some_iff.1 h
      cases heq
      obtain ⟨rfl, hlength⟩ := ih hba
      exact ⟨rfl, by rw [byteLength, hlength]; omega⟩
    | case4 => cases h
  · rintro ⟨rfl, rfl⟩
    exact splitAtByte?_byteLength before after

section Cut
variable [BEq α] [LawfulBEq α]

theorem cut?_eq_some {needle hay before after : List α}
    (h : cut? needle hay = some (before, after)) :
    hay = before ++ needle ++ after := by
  induction hay generalizing before after with
  | nil =>
    unfold cut? at h
    split at h
    · next hp =>
      obtain ⟨tail, ht⟩ := List.isPrefixOf_iff_prefix.1 hp
      simp_all
    · simp at h
  | cons c rest ih =>
    unfold cut? at h
    split at h
    · next hp =>
      obtain ⟨tail, ht⟩ := List.isPrefixOf_iff_prefix.1 hp
      simp only [Option.some.injEq, Prod.mk.injEq] at h
      obtain ⟨rfl, rfl⟩ := h
      simp [← ht]
    · simp only [Option.map_eq_some_iff, Prod.exists, Prod.mk.injEq] at h
      obtain ⟨b, a, hc, rfl, rfl⟩ := h
      simp [ih hc]

theorem cut?_eq_none_iff {needle hay : List α} :
    cut? needle hay = none ↔ ¬ needle <:+: hay := by
  induction hay with
  | nil => unfold cut?; split <;> simp_all [List.isPrefixOf_iff_prefix]
  | cons c rest ih =>
    unfold cut?
    split
    · next hp => simp [(List.isPrefixOf_iff_prefix.1 hp).isInfix]
    · next hp =>
      have hp' : ¬ needle <+: c :: rest := by simpa [List.isPrefixOf_iff_prefix] using hp
      simp [List.infix_cons_iff, hp', ih]

/-- A cut leaves less than there was. -/
theorem length_cut? {needle hay before after : List α}
    (h : cut? needle hay = some (before, after)) :
    after.length + needle.length ≤ hay.length := by
  rw [cut?_eq_some h]
  simp only [List.length_append]
  omega

end Cut

end Bindery.Text
