import Bindery.Proofs.Text.Declarations

/-! Lower case and snake case forms of identifiers.

An identifier is ASCII, so both of its forms are made character by character: the lower case form
lowers each, and the snake case form puts in underscores as well. Both are identifiers again, and they
have the same letters (`letters_snakeCase`). -/
namespace Bindery.Text

/-! ### Characters -/

/-- The characters of identifiers are ASCII. -/
theorem toNat_lt_of_isNamePart {c : Char} (h : isNamePart c = true) : c.toNat < 0x80 := by
  rw [isNamePart, Bool.or_eq_true, beq_iff_eq] at h
  obtain h | rfl := h
  · change (decide (65 ≤ c.val ∧ c.val ≤ 90) || (97 ≤ c.val && c.val ≤ 122)
      || (48 ≤ c.val && c.val ≤ 57)) = true at h
    simp only [Bool.or_eq_true, Bool.and_eq_true, decide_eq_true_eq, UInt32.le_iff_toNat_le] at h
    have hval : c.val.toNat = c.toNat := rfl
    simp at h
    omega
  · decide

/-- ASCII is few enough to go through. -/
theorem of_ascii {p : Char → Prop} (h : ∀ n < 0x80, p (Char.ofNat n)) {c : Char}
    (hc : isNamePart c = true) : p c := by
  rw [← Char.ofNat_toNat c]
  exact h _ (toNat_lt_of_isNamePart hc)

theorem isNamePart_toLower {c : Char} (h : isNamePart c = true) : isNamePart c.toLower = true :=
  of_ascii (p := fun c => isNamePart c = true → isNamePart c.toLower = true) (by decide) h h

theorem isNameStart_toLower {c : Char} (h : isNameStart c = true) : isNameStart c.toLower = true :=
  of_ascii (p := fun c => isNameStart c = true → isNameStart c.toLower = true) (by decide)
    (isNamePart_of_isNameStart h) h

/-- There are no hyphens in identifiers. -/
theorem snakeChar_eq {c : Char} (h : isNamePart c = true) : snakeChar c = [c.toLower] := by
  have hne : c.toLower ≠ '-' := by
    rintro heq
    exact absurd (heq ▸ isNamePart_toLower h) (by decide)
  rw [snakeChar, lower_ascii (toNat_lt_of_isNamePart h), List.map_singleton, underscored, if_neg hne]

/-! ### Forms -/

theorem lowerFrom_eq_map {cs : List Char} (h : ∀ c ∈ cs, isNamePart c = true)
    (before : List Char) : lowerFrom before cs = cs.map Char.toLower := by
  induction cs generalizing before with
  | nil => rfl
  | cons c rest ih =>
    have hc := h c List.mem_cons_self
    have hsigma : c ≠ 'Σ' := by
      rintro rfl
      exact absurd hc (by decide)
    rw [lowerFrom, if_neg hsigma, lower_ascii (toNat_lt_of_isNamePart hc),
      ih (fun c' hc' => h c' (List.mem_cons_of_mem _ hc')), List.map_cons]
    rfl

theorem forall_isNamePart {name : String} (h : isIdentifier name = true) :
    ∀ c ∈ name.toList, isNamePart c = true := List.all_eq_true.1 (all_isNamePart h)

/-- The lower case form of an identifier. -/
theorem toList_lowerText {name : String} (h : isIdentifier name = true) :
    (lowerText name).toList = name.toList.map Char.toLower := by
  rw [lowerText, String.toList_ofList, lowerFrom_eq_map (forall_isNamePart h)]

theorem all_isNamePart_lowerText {name : String} (h : isIdentifier name = true) :
    (lowerText name).toList.all isNamePart = true := by
  rw [toList_lowerText h, List.all_map, List.all_eq_true]
  exact fun c hc => isNamePart_toLower (forall_isNamePart h c hc)

/-- A text without its underscores. -/
def letters (s : String) : List Char := s.toList.filter (· ≠ '_')

theorem letters_append (a b : String) : letters (a ++ b) = letters a ++ letters b := by
  rw [letters, String.toList_append, List.filter_append]
  rfl

/-- Underscores are put before some of the lowered characters. -/
theorem snakeTail_lowered {cs : List Char} (h : ∀ c ∈ cs, isNamePart c = true) :
    (∀ c ∈ snakeTail cs, isNamePart c = true) ∧
      (snakeTail cs).filter (· ≠ '_') = (cs.map Char.toLower).filter (· ≠ '_') := by
  induction cs with
  | nil => exact ⟨nofun, rfl⟩
  | cons c rest ih =>
    have hc := h c List.mem_cons_self
    obtain ⟨hparts, hletters⟩ := ih fun c' hc' => h c' (List.mem_cons_of_mem _ hc')
    rw [snakeTail, snakeChar_eq hc]
    refine ⟨?_, ?_⟩
    · have hmark : ∀ c' ∈ (if isUpper c then ['_'] else []), isNamePart c' = true := by
        split <;> simp; decide
      exact List.forall_mem_append.2 ⟨List.forall_mem_append.2
        ⟨hmark, List.forall_mem_singleton.2 (isNamePart_toLower hc)⟩, hparts⟩
    · have hmark : (if isUpper c then ['_'] else []).filter (· ≠ '_') = [] := by
        split <;> rfl
      rw [List.filter_append, List.filter_append, hmark, hletters, List.nil_append, List.map_cons]
      exact (List.filter_append (p := (· ≠ '_')) [c.toLower] _).symm

/-- The snake case form of an identifier is an identifier. -/
theorem isIdentifier_snakeCase {name : String} (h : isIdentifier name = true) :
    isIdentifier (snakeCase name) = true := by
  unfold isIdentifier at h ⊢
  rw [snakeCase, String.toList_ofList]
  cases hchars : name.toList with
  | nil =>
    rw [hchars] at h
    cases h
  | cons c rest =>
    rw [hchars, isIdentifierChars, Bool.and_eq_true] at h
    have htail := (snakeTail_lowered (List.all_eq_true.1 h.2)).1
    rw [snakeChars, snakeChar_eq (isNamePart_of_isNameStart h.1), List.singleton_append,
      isIdentifierChars, isNameStart_toLower h.1, Bool.true_and, List.all_eq_true]
    exact htail

/-- The snake case form of an identifier has the letters of its lower case form. -/
theorem letters_snakeCase {name : String} (h : isIdentifier name = true) :
    letters (snakeCase name) = letters (lowerText name) := by
  rw [letters, letters, toList_lowerText h, snakeCase, String.toList_ofList]
  have hparts := forall_isNamePart h
  cases hchars : name.toList with
  | nil => rfl
  | cons c rest =>
    rw [hchars] at hparts
    have htail := (snakeTail_lowered fun c' hc' => hparts c' (List.mem_cons_of_mem _ hc')).2
    rw [snakeChars, snakeChar_eq (hparts c List.mem_cons_self), List.filter_append, htail,
      List.map_cons]
    exact (List.filter_append (p := (· ≠ '_')) [c.toLower] _).symm

end Bindery.Text
