import Bindery.Proofs.Loading.Configuration
import Bindery.Proofs.Text.Lowered

/-! Where the snake case form puts underscores.

An underscore is put before each upper case letter of a name but its first character, and the place of
each is known: it stands where its letter was, moved on by the underscores before it (`marks`). What is
left without these is the name in lower case. Nothing is put in a second time, as no upper case letter
is left (`snakeCase_snaked`). So a project whose library has no directory of its own gets one with a
name that is usable wherever the project's is. -/
namespace Bindery.Text

/-- The positions of the upper case letters of a text, without its first character. -/
def humps (s : String) : List Nat := s.toList.tail.findIdxs isUpper 1

/-- The positions in the snake case form of the underscores that are put in. -/
def marks (s : String) : List Nat := (humps s).mapIdx fun before i => i + before

/-- Characters, the first of them at a position, without those at some positions. -/
def without (positions : List Nat) (cs : List Char) (start : Nat := 0) : List Char :=
  ((cs.zipIdx start).filter (·.2 ∉ positions)).map (·.1)

/-- A snake case form of a name. -/
structure Snaked (s t : String) : Prop where
  identifier : isIdentifier t = true
  lower : ∀ c ∈ t.toList, isUpper c = false
  fixed : snakeCase t = t
  marked : ∀ i ∈ marks s, t.toList[i]? = some '_'
  letters : without (marks s) t.toList = s.toList.map Char.toLower
  length : t.length = s.length + s.toList.tail.countP isUpper

/-! ### Characters at positions -/

section Without
variable {positions : List Nat} {c : Char} {cs : List Char} {start : Nat}

theorem without_cons_of_mem (h : start ∈ positions) :
    without positions (c :: cs) start = without positions cs (start + 1) := by
  rw [without, List.zipIdx_cons, List.filter_cons_of_neg (by simpa using h)]
  rfl

theorem without_cons_of_not_mem (h : start ∉ positions) :
    without positions (c :: cs) start = c :: without positions cs (start + 1) := by
  rw [without, List.zipIdx_cons, List.filter_cons_of_pos (by simpa using h)]
  rfl

/-- A position before all characters takes none of them away. -/
theorem without_of_lt {i : Nat} (h : i < start) :
    without (i :: positions) cs start = without positions cs start := by
  rw [without, without]
  congr 1
  refine List.filter_congr fun x hx => ?_
  have hle := (List.mem_zipIdx hx).1
  have hne : x.2 ≠ i := by omega
  simp [hne]

end Without

/-! ### The characters after the first -/

/-- In a name, the upper case letters are those of ASCII. -/
theorem isUpper_of_isNamePart {c : Char} (h : isNamePart c = true) : isUpper c = c.isUpper :=
  isUpper_ascii (toNat_lt_of_isNamePart h)

theorem snakeTail_cons_upper {c : Char} {rest : List Char} (h : isNamePart c = true)
    (hupper : isUpper c = true) : snakeTail (c :: rest) = '_' :: c.toLower :: snakeTail rest := by
  rw [snakeTail, if_pos hupper, snakeChar_eq h]
  rfl

theorem snakeTail_cons_other {c : Char} {rest : List Char} (h : isNamePart c = true)
    (hother : isUpper c = false) : snakeTail (c :: rest) = c.toLower :: snakeTail rest := by
  rw [snakeTail, hother, snakeChar_eq h]
  rfl

/-- The marks of characters that stand from a position on, behind some marks. -/
def marksFrom (position before : Nat) (cs : List Char) : List Nat :=
  (cs.findIdxs isUpper position).mapIdx fun k i => i + (before + k)

section Marks
variable {position before : Nat} {c : Char} {cs : List Char}

theorem marksFrom_cons_upper (h : isUpper c = true) : marksFrom position before (c :: cs) =
    (position + before) :: marksFrom (position + 1) (before + 1) cs := by
  rw [marksFrom, List.findIdxs_cons, if_pos h, List.mapIdx_cons, marksFrom]
  simp only [Nat.add_zero, Nat.add_assoc, Nat.add_comm 1]

theorem marksFrom_cons_other (h : isUpper c = false) : marksFrom position before (c :: cs) =
    marksFrom (position + 1) before cs := by
  rw [marksFrom, List.findIdxs_cons, if_neg (by simp [h]), marksFrom]

/-- All marks come after what stands before. -/
theorem not_mem_marksFrom {i : Nat} (h : i < position + before) :
    i ∉ marksFrom position before cs := by
  intro hmem
  obtain ⟨k, hk, rfl⟩ := List.mem_mapIdx.1 hmem
  have hle := List.ge_of_mem_findIdxs _ (List.getElem_mem hk)
  omega

end Marks

/-- The marks of a tail are underscores, and without them it is lowered. The induction is on the
characters, for any position and any number of marks before them. -/
theorem snakeTail_marked {cs : List Char} (h : ∀ c ∈ cs, isNamePart c = true)
    (position before : Nat) :
    (∀ i ∈ marksFrom position before cs,
        ∃ k, i = position + before + k ∧ (snakeTail cs)[k]? = some '_') ∧
      without (marksFrom position before cs) (snakeTail cs) (position + before) =
        cs.map Char.toLower := by
  induction cs generalizing position before with
  | nil => exact ⟨nofun, rfl⟩
  | cons c rest ih =>
    rw [List.forall_mem_cons] at h
    cases hcase : isUpper c with
    | true =>
      obtain ⟨hmarked, hlowered⟩ := ih h.2 (position + 1) (before + 1)
      have hnext : position + 1 + (before + 1) = position + before + 1 + 1 := by omega
      rw [marksFrom_cons_upper hcase, snakeTail_cons_upper h.1 hcase]
      constructor
      · intro i hi
        rcases List.mem_cons.1 hi with rfl | hi
        · exact ⟨0, rfl, rfl⟩
        · obtain ⟨k, rfl, hk⟩ := hmarked i hi
          exact ⟨k + 2, by omega, hk⟩
      · have hletter : position + before + 1 ∉
            (position + before) :: marksFrom (position + 1) (before + 1) rest :=
          List.not_mem_cons_of_ne_of_not_mem (by omega) (not_mem_marksFrom (by omega))
        rw [without_cons_of_mem List.mem_cons_self, without_cons_of_not_mem hletter,
          without_of_lt (by omega), ← hnext, hlowered, List.map_cons]
    | false =>
      obtain ⟨hmarked, hlowered⟩ := ih h.2 (position + 1) before
      have hnext : position + 1 + before = position + before + 1 := by omega
      rw [marksFrom_cons_other hcase, snakeTail_cons_other h.1 hcase]
      constructor
      · intro i hi
        obtain ⟨k, rfl, hk⟩ := hmarked i hi
        exact ⟨k + 1, by omega, hk⟩
      · have hletter : position + before ∉ marksFrom (position + 1) before rest :=
          not_mem_marksFrom (by omega)
        rw [without_cons_of_not_mem hletter, ← hnext, hlowered, List.map_cons]

theorem length_snakeTail {cs : List Char} (h : ∀ c ∈ cs, isNamePart c = true) :
    (snakeTail cs).length = cs.length + cs.countP isUpper := by
  induction cs with
  | nil => rfl
  | cons c rest ih =>
    rw [List.forall_mem_cons] at h
    have hrest := ih h.2
    cases hcase : isUpper c with
    | true =>
      rw [snakeTail_cons_upper h.1 hcase, List.countP_cons_of_pos hcase]
      simp only [List.length_cons]
      omega
    | false =>
      rw [snakeTail_cons_other h.1 hcase, List.countP_cons_of_neg (by simp [hcase])]
      simp only [List.length_cons]
      omega

/-! ### Lower case -/

theorem isUpper_toLower {c : Char} (h : isNamePart c = true) : isUpper c.toLower = false := by
  rw [isUpper_of_isNamePart (isNamePart_toLower h)]
  exact of_ascii (p := fun c => c.toLower.isUpper = false) (by decide) h

theorem isUpper_snakeTail {cs : List Char} (h : ∀ c ∈ cs, isNamePart c = true) :
    ∀ c ∈ snakeTail cs, isUpper c = false := by
  induction cs with
  | nil => exact nofun
  | cons c rest ih =>
    rw [List.forall_mem_cons] at h
    have hletter := isUpper_toLower h.1
    cases hcase : isUpper c with
    | true =>
      rw [snakeTail_cons_upper h.1 hcase, List.forall_mem_cons, List.forall_mem_cons]
      exact ⟨by decide, hletter, ih h.2⟩
    | false =>
      rw [snakeTail_cons_other h.1 hcase, List.forall_mem_cons]
      exact ⟨hletter, ih h.2⟩

theorem toLower_of_lower {c : Char} (h : isNamePart c = true) (hlower : isUpper c = false) :
    c.toLower = c := by
  rw [isUpper_of_isNamePart h] at hlower
  exact of_ascii (p := fun c => c.isUpper = false → c.toLower = c) (by decide) h hlower

/-- Lower case is left as it is. -/
theorem snakeTail_of_lower {cs : List Char} (h : ∀ c ∈ cs, isNamePart c = true)
    (hlower : ∀ c ∈ cs, isUpper c = false) : snakeTail cs = cs := by
  induction cs with
  | nil => rfl
  | cons c rest ih =>
    rw [List.forall_mem_cons] at h hlower
    rw [snakeTail_cons_other h.1 hlower.1, toLower_of_lower h.1 hlower.1, ih h.2 hlower.2]

theorem snakeCase_of_lower {s : String} (h : isIdentifier s = true)
    (hlower : ∀ c ∈ s.toList, isUpper c = false) : snakeCase s = s := by
  have hparts := forall_isNamePart h
  rw [snakeCase]
  cases hchars : s.toList with
  | nil =>
    rw [← String.ofList_toList (s := s), hchars]
    rfl
  | cons c rest =>
    rw [hchars, List.forall_mem_cons] at hparts hlower
    rw [snakeChars, snakeChar_eq hparts.1, toLower_of_lower hparts.1 hlower.1,
      snakeTail_of_lower hparts.2 hlower.2, List.singleton_append, ← hchars, String.ofList_toList]

/-! ### Names -/

/-- The snake case form of an identifier by its first character and the others. -/
theorem toList_snakeCase {s : String} {c : Char} {rest : List Char} (hchars : s.toList = c :: rest)
    (h : isNamePart c = true) : (snakeCase s).toList = c.toLower :: snakeTail rest := by
  rw [snakeCase, String.toList_ofList, hchars, snakeChars, snakeChar_eq h]
  rfl

theorem marks_eq (s : String) : marks s = marksFrom 1 0 s.toList.tail := by
  simp [marks, humps, marksFrom]

theorem snaked_of_isIdentifier {s : String} (h : isIdentifier s = true) :
    Snaked s (snakeCase s) := by
  have hparts := forall_isNamePart h
  have hidentifier := isIdentifier_snakeCase h
  obtain ⟨c, rest, hchars⟩ : ∃ c rest, s.toList = c :: rest := by
    cases hchars : s.toList with
    | nil => simp [isIdentifier, hchars, isIdentifierChars] at h
    | cons c rest => exact ⟨c, rest, rfl⟩
  rw [hchars, List.forall_mem_cons] at hparts
  have hform := toList_snakeCase hchars hparts.1
  have hmarks : marks s = marksFrom 1 0 rest := by rw [marks_eq, hchars, List.tail_cons]
  obtain ⟨hmarked, hlowered⟩ := snakeTail_marked hparts.2 1 0
  have hlower : ∀ c ∈ (snakeCase s).toList, isUpper c = false := by
    rw [hform, List.forall_mem_cons]
    exact ⟨isUpper_toLower hparts.1, isUpper_snakeTail hparts.2⟩
  refine ⟨hidentifier, hlower, snakeCase_of_lower hidentifier hlower, ?_, ?_, ?_⟩
  · rw [hmarks, hform]
    intro i hi
    obtain ⟨k, rfl, hk⟩ := hmarked i hi
    rwa [Nat.add_zero, Nat.add_comm, List.getElem?_cons_succ]
  · have hfirst : 0 ∉ marksFrom 1 0 rest := not_mem_marksFrom Nat.one_pos
    rw [hmarks, hform, hchars, without_cons_of_not_mem hfirst, List.map_cons]
    exact congrArg _ hlowered
  · rw [← String.length_toList, hform, ← String.length_toList (s := s), hchars, List.tail_cons,
      List.length_cons, List.length_cons, length_snakeTail hparts.2]
    omega

/-- **The snake case form of a name is a name**, in lower case, that has one more underscore for each
upper case letter after the first character; and it is the library root of every loaded project that
gives no other. -/
theorem snakeCase_snaked :
    (∀ s, isIdentifier s = true → Snaked s (snakeCase s)) ∧
      ∀ source c, Config.parse source = .ok c → c.project.libRoot = none →
        Snaked c.project.name c.libRoot := by
  refine ⟨fun s h => snaked_of_isIdentifier h, fun source c hparse hnone => ?_⟩
  have hroot : c.libRoot = snakeCase c.project.name := by
    rw [Config.libRoot, hnone]
    rfl
  rw [hroot]
  exact snaked_of_isIdentifier (Config.wellFormed_of_parse hparse).project.identifier

/-- A configuration that gives no library root. -/
def rootlessSource : String := "[project]\nname = \"TermXL\"\n"

/-- What is in `rootlessSource`. -/
def rootlessConfig : Config where
  project := ⟨"TermXL", none, none, false⟩
  metadata := {}
  platforms := {}

theorem parse_rootlessSource : Config.parse rootlessSource = .ok rootlessConfig :=
  Config.parse_of_document (Config.document_of_chars rfl (by decide +kernel)) (by decide +kernel)

/-- The first letter gets no underscore, and two in a row get one each. -/
theorem snaked_rootless : isIdentifier "TermXL" = true ∧ Snaked "TermXL" (snakeCase "TermXL") ∧
    Config.parse rootlessSource = .ok rootlessConfig ∧
    Snaked rootlessConfig.project.name rootlessConfig.libRoot ∧
    rootlessConfig.libRoot = "term_x_l" ∧ marks "TermXL" = [4, 6] := by
  have hname : isIdentifier "TermXL" = true := by decide
  exact ⟨hname, snakeCase_snaked.1 _ hname, parse_rootlessSource,
    snakeCase_snaked.2 _ _ parse_rootlessSource rfl, by decide +kernel, by decide +kernel⟩

end Bindery.Text
