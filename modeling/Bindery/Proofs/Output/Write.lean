import Bindery.Proofs.Output.Target

/-! What writing a whole file does.

Once the directories are made, all that counts is what is at the places of the target and of its
temporary file. `write_eq`: the temporary file is gone, and the target is the file that it was made
into unless the target held the bytes before. `settled_of_write` and `write_of_settled`: a target
that is written once is left alone when it is written again. -/
namespace Bindery

namespace FileTree
variable {t : FileTree} {p q r : Place}

/-! ### Files opened and replaced -/

/-- The number of the file that is opened at a place: its own, or the next. -/
def numberAt (t : FileTree) (q : Place) : Nat :=
  match t.entryAt? q with
  | some (.file id _) => id
  | _ => t.fresh

/-- The number of the next file after one is opened at a place. -/
def freshAfter (t : FileTree) (q : Place) : Nat :=
  match t.entryAt? q with
  | some (.file ..) => t.fresh
  | _ => t.fresh + 1

theorem fresh_le_freshAfter (t : FileTree) (q : Place) : t.fresh ≤ t.freshAfter q := by
  unfold freshAfter
  split
  · exact Nat.le_refl _
  · exact Nat.le_succ _

theorem numberAt_lt (h : t.Numbered) (q : Place) : t.numberAt q < t.freshAfter q := by
  unfold numberAt freshAfter
  split
  · next hfile => exact h.below q _ _ (mem_of_file hfile)
  · exact Nat.lt_succ_self _

/-- No other place has the number. -/
theorem eq_of_numberAt (h : t.Numbered) {bytes : ByteArray}
    (hmem : (r, Entry.file (t.numberAt q) bytes) ∈ t.entries) : r = q := by
  unfold numberAt at hmem
  split at hmem
  · next hfile => exact h.own r q _ _ _ hmem (mem_of_file hfile)
  · exact absurd (h.below r _ _ hmem) (Nat.lt_irrefl _)

/-- An open file at a place is emptied first. -/
theorem createFile_of_place {path : String} (hq : t.place path = .ok q)
    (hfree : t.entryAt? q ≠ some .directory) :
    t.createFile path =
      ({ t.put q (.file (t.numberAt q) .empty) with fresh := t.freshAfter q },
        .ok (t.numberAt q)) := by
  rw [createFile, hq]
  cases h : t.entryAt? q with
  | none => simp only [h, numberAt, freshAfter]
  | some e =>
    cases e with
    | directory => exact absurd h hfree
    | file id bytes => simp only [h, numberAt, freshAfter]; rfl

theorem place_of_createFile {path : String} {t' : FileTree} {id : Nat}
    (h : t.createFile path = (t', .ok id)) :
    ∃ q, t.place path = .ok q ∧ t.entryAt? q ≠ some .directory := by
  rw [createFile] at h
  cases hq : t.place path with
  | error r =>
    rw [hq] at h
    cases h
  | ok q =>
    refine ⟨q, rfl, fun hdir => ?_⟩
    rw [hq] at h
    simp only [hdir] at h
    cases h

/-- A tree without the file that was opened at a place. -/
def swept (t : FileTree) (q : Place) : FileTree := { t.erase q with fresh := t.freshAfter q }

/-- A tree in which the file that was opened at a place is at another, with some bytes. -/
def replaced (t : FileTree) (q p : Place) (bytes : ByteArray) : FileTree :=
  (t.swept q).put p (.file (t.numberAt q) bytes)

theorem entryAt?_swept (hq : q.isBase = false) (r : Place) :
    (t.swept q).entryAt? r = if r = q then none else t.entryAt? r := entryAt?_erase hq r

theorem entryAt?_replaced (hq : q.isBase = false) (hp : p.isBase = false) (bytes : ByteArray)
    (r : Place) :
    (t.replaced q p bytes).entryAt? r =
      if r = p then some (.file (t.numberAt q) bytes)
      else if r = q then none else t.entryAt? r := by
  rw [replaced, entryAt?_put hp, entryAt?_swept hq]

theorem Numbered.swept (h : t.Numbered) (q : Place) : (t.swept q).Numbered :=
  (h.erase q).skip (fresh_le_freshAfter t q)

theorem Numbered.replaced (h : t.Numbered) (q p : Place) (bytes : ByteArray) :
    (t.replaced q p bytes).Numbered := by
  refine (h.swept q).putFile (numberAt_lt h q) ?_ bytes
  intro r b hmem
  obtain ⟨hmem, hr⟩ := List.mem_filter.1 hmem
  exact absurd (eq_of_numberAt h hmem) (of_decide_eq_true hr)

/-! ### Places and directories -/

/-- Directories that are there in one tree are there in the other. -/
def Keeps (t t' : FileTree) : Prop :=
  ∀ d, t.entryAt? d = some .directory → t'.entryAt? d = some .directory

theorem Keeps.place {t' : FileTree} (h : Keeps t t') {path : String} (hp : t.place path = .ok p) :
    t'.place path = .ok p := by
  obtain ⟨hpossible, hopen, hrest⟩ := place_eq_ok.1 hp
  exact place_eq_ok.2 ⟨hpossible, fun d hd => ⟨(hopen d hd).1, h d (hopen d hd).2⟩, hrest⟩

end FileTree

namespace OutputFile

open FileTree

variable {t made : FileTree} {target : String} {p q : Place}

/-! ### One write -/

/-- What a write leaves, and what became of the target, by the places of the target and of its
temporary file. -/
def left (t : FileTree) (target : String) (p q : Place) (bytes : ByteArray) :
    FileTree × Except Fault Outcome :=
  match t.entryAt? p with
  | none => (t.replaced q p bytes, .ok .created)
  | some .directory => (t.swept q, .error (.read target))
  | some (.file _ old) =>
    if old.data = bytes.data then (t.swept q, .ok .unchanged)
    else (t.replaced q p bytes, .ok .updated)

theorem flush_empty (t : FileTree) (o : OutputFile) (h : o.pending = .empty) : flush t o = (t, o) := by
  rw [flush, h, through, if_pos (by rfl)]
  dsimp only
  rw [← h]

/-- All bytes reach the temporary file, whether they had to wait or not. -/
theorem flush_append (t : FileTree) (target : String) (id : Nat) (bytes : ByteArray) :
    flush (append t { target, id } bytes).1 (append t { target, id } bytes).2 =
      (if bytes.isEmpty then t else t.writeAt id 0 bytes,
        { target, id, offset := bytes.size }) := by
  have hfirst : append t { target, id } bytes =
      if capacity ≤ bytes.size then through t { target, id } bytes
      else (t, { target, id, pending := bytes }) := by
    rw [append, flush_empty _ _ rfl, ite_self]
    dsimp only
    rw [ByteArray.empty_append]
  rw [hfirst]
  by_cases hempty : bytes.isEmpty = true
  · have hbytes : bytes = .empty := by
      rw [← ByteArray.size_eq_zero_iff]
      simpa [ByteArray.isEmpty] using hempty
    subst hbytes
    rfl
  · rw [if_neg hempty]
    by_cases hcap : capacity ≤ bytes.size
    · rw [if_pos hcap, through, if_neg hempty, flush_empty _ _ rfl, Nat.zero_add]
    · rw [if_neg hcap, flush, through, if_neg hempty]
      dsimp only
      rw [Nat.zero_add]

/-- The tree in which the temporary file holds all bytes. -/
def staged (t : FileTree) (q : Place) (bytes : ByteArray) : FileTree :=
  { t.put q (.file (t.numberAt q) bytes) with fresh := t.freshAfter q }

theorem entryAt?_staged (hq : q.isBase = false) (bytes : ByteArray) (r : Place) :
    (staged t q bytes).entryAt? r =
      if r = q then some (.file (t.numberAt q) bytes) else t.entryAt? r := entryAt?_put hq _ r

theorem erase_staged (bytes : ByteArray) : (staged t q bytes).erase q = t.swept q := by
  show ({ (t.put q (.file (t.numberAt q) bytes)).erase q with fresh := t.freshAfter q } : FileTree) =
    _
  rw [erase_put]
  rfl

/-- Writing all bytes into the temporary file. -/
theorem staged_eq (h : t.Numbered) (q : Place) (bytes : ByteArray) :
    (if bytes.isEmpty then
        { t.put q (.file (t.numberAt q) .empty) with fresh := t.freshAfter q }
      else
        ({ t.put q (.file (t.numberAt q) .empty) with fresh := t.freshAfter q }).writeAt
          (t.numberAt q) 0 bytes) = staged t q bytes := by
  split
  · next hempty =>
    have hbytes : bytes = .empty := by
      rw [← ByteArray.size_eq_zero_iff]
      simpa [ByteArray.isEmpty] using hempty
    rw [hbytes]
    rfl
  · have hend := overwritten_end .empty bytes
    rw [ByteArray.empty_append] at hend
    refine (writeAt_put (t := { t with fresh := t.freshAfter q }) (p := q)
      (fun r b hmem => eq_of_numberAt h hmem) 0 .empty bytes).trans ?_
    rw [show overwritten .empty 0 bytes = bytes from hend]
    rfl

theorem keeps_staged (hfree : t.entryAt? q ≠ some .directory) (bytes : ByteArray) :
    Keeps t (staged t q bytes) := by
  intro d hd
  rw [entryAt?_staged (isBase_of_not_directory hfree), if_neg, hd]
  rintro rfl
  exact hfree hd

theorem keeps_replaced (hfree : t.entryAt? q ≠ some .directory)
    (hdir : t.entryAt? p ≠ some .directory) (bytes : ByteArray) :
    Keeps t (t.replaced q p bytes) := by
  intro d hd
  rw [entryAt?_replaced (isBase_of_not_directory hfree) (isBase_of_not_directory hdir), if_neg,
    if_neg, hd]
  · rintro rfl
    exact hfree hd
  · rintro rfl
    exact hdir hd

/-- The temporary file is removed where it is still there. -/
theorem removeFile_staged (hq : t.place (tempOf target) = .ok q)
    (hfree : t.entryAt? q ≠ some .directory) (bytes : ByteArray) :
    (staged t q bytes).removeFile (tempOf target) = t.swept q := by
  have hentry : (staged t q bytes).entryAt? q = some (.file (t.numberAt q) bytes) := by
    rw [entryAt?_staged (isBase_of_not_directory hfree), if_pos rfl]
  rw [removeFile_of_file ((keeps_staged hfree bytes).place hq) hentry, erase_staged]

/-- The temporary file takes the place of the target, and is then no longer there to remove. -/
theorem move_staged (hp : t.place target = .ok p) (hq : t.place (tempOf target) = .ok q)
    (hfree : t.entryAt? q ≠ some .directory) (hdir : t.entryAt? p ≠ some .directory) (hpq : p ≠ q)
    (bytes : ByteArray) :
    (staged t q bytes).move (tempOf target) target = .ok (t.replaced q p bytes) ∧
      (t.replaced q p bytes).removeFile (tempOf target) = t.replaced q p bytes := by
  have hqBase : q.isBase = false := isBase_of_not_directory hfree
  have hpBase : p.isBase = false := isBase_of_not_directory hdir
  have hkeeps := keeps_staged hfree bytes
  have hqEntry : (staged t q bytes).entryAt? q = some (.file (t.numberAt q) bytes) := by
    rw [entryAt?_staged hqBase, if_pos rfl]
  have hpEntry : (staged t q bytes).entryAt? p ≠ some .directory := by
    rwa [entryAt?_staged hqBase, if_neg hpq]
  constructor
  · rw [move_of_place (hkeeps.place hq) hqEntry (hkeeps.place hp) hpEntry hpq, erase_staged]
    rfl
  · refine removeFile_of_none ((keeps_replaced hfree hdir bytes).place hq) ?_
    rw [entryAt?_replaced hqBase hpBase, if_neg hpq.symm, if_pos rfl]

/-- Closing compares and sweeps up. -/
theorem close_staged {id offset : Nat} (hp : t.place target = .ok p)
    (hq : t.place (tempOf target) = .ok q) (hfree : t.entryAt? q ≠ some .directory) (hpq : p ≠ q)
    (bytes : ByteArray) :
    ((commit (staged t q bytes) { target, id, offset }).1.removeFile (tempOf target),
      (commit (staged t q bytes) { target, id, offset }).2) = left t target p q bytes := by
  have hbase : q.isBase = false := isBase_of_not_directory hfree
  have hkeeps := keeps_staged hfree bytes
  have hswept := removeFile_staged hq hfree bytes
  rw [commit, temp, read_of_place (hkeeps.place hq), entryAt?_staged hbase, if_pos rfl]
  dsimp only
  rw [outcome, read_of_place (hkeeps.place hp), entryAt?_staged hbase, if_neg hpq, left]
  cases hentry : t.entryAt? p with
  | none =>
    obtain ⟨hmoved, hgone⟩ := move_staged hp hq hfree (by rw [hentry]; exact nofun) hpq bytes
    simp only [show Outcome.created.isChange = true from rfl, if_true, hmoved, hgone]
  | some e =>
    cases e with
    | directory => simp only [hswept]
    | file i old =>
      obtain ⟨hmoved, hgone⟩ := move_staged hp hq hfree (by rw [hentry]; exact nofun) hpq bytes
      by_cases hsame : old.data = bytes.data
      · simp only [if_pos hsame, show Outcome.unchanged.isChange = false from rfl,
          Bool.false_eq_true, if_false, hswept]
      · simp only [if_neg hsame, show Outcome.updated.isChange = true from rfl, if_true, hmoved,
          hgone]

/-- **What writing a whole file does.** -/
theorem write_eq {text : String} (hprepare : prepare t target = (made, .ok ()))
    (hn : made.Numbered) (hp : made.place target = .ok p)
    (hq : made.place (tempOf target) = .ok q) (hfree : made.entryAt? q ≠ some .directory) :
    write t target text = left made target p q text.toUTF8 := by
  have hpq : p ≠ q := by
    rw [(place_eq_ok.1 hp).2.2.2, (place_eq_ok.1 hq).2.2.2]
    exact ofPath_ne_tempOf target
  unfold write OutputFile.open
  generalize text.toUTF8 = bytes
  rw [hprepare]
  dsimp only
  rw [createFile_of_place hq hfree]
  dsimp only
  rw [close, flush_append, staged_eq hn]
  exact close_staged hp hq hfree hpq bytes

/-! ### Writing again -/

/-- A target that is committed has a place. -/
theorem place_of_commit {o : OutputFile} {outcome : Outcome}
    (h : (commit t o).2 = .ok outcome) : ∃ p, t.place o.target = .ok p := by
  rw [commit] at h
  split at h
  · cases h
  · next bytes hread =>
    rw [OutputFile.outcome] at h
    cases htarget : t.read o.target with
    | ok old => exact place_of_read htarget
    | error r =>
      cases r with
      | obstructed =>
        rw [htarget] at h
        cases h
      | missing =>
        rw [htarget] at h
        simp only [show Outcome.created.isChange = true from rfl, if_true] at h
        split at h
        · next hmove => exact place_of_move hmove
        · cases h

/-- What a write that succeeds has found. -/
theorem exists_of_write {text : String} {t' : FileTree} {outcome : Outcome}
    (h : write t target text = (t', .ok outcome)) :
    ∃ made q, prepare t target = (made, .ok ()) ∧ made.place (tempOf target) = .ok q ∧
      made.entryAt? q ≠ some .directory ∧ target ≠ "" := by
  unfold write OutputFile.open at h
  generalize text.toUTF8 = bytes at h
  cases hprepare : prepare t target with
  | mk made prepared =>
  cases prepared with
  | error fault =>
    rw [hprepare] at h
    cases h
  | ok u =>
  rw [hprepare] at h
  cases hcreate : made.createFile (tempOf target) with
  | mk opened created =>
  cases created with
  | error r =>
    simp only [hcreate] at h
    cases h
  | ok id =>
  simp only [hcreate, close, flush_append] at h
  obtain ⟨q, hq, hfree⟩ := place_of_createFile hcreate
  refine ⟨made, q, rfl, hq, hfree, ?_⟩
  obtain ⟨p, hp⟩ := place_of_commit (congrArg Prod.snd h)
  exact (place_eq_ok.1 hp).1.nonempty

theorem numbered_left (h : t.Numbered) (target : String) (p q : Place) (bytes : ByteArray) :
    (left t target p q bytes).1.Numbered := by
  rw [left]
  split
  · exact h.replaced q p bytes
  · exact h.swept q
  · split
    · exact h.swept q
    · exact h.replaced q p bytes

/-- A write that succeeds is of a file, and leaves the target replaced or as it was. -/
theorem left_eq_ok {bytes : ByteArray} {t' : FileTree} {outcome : Outcome}
    (h : left t target p q bytes = (t', .ok outcome)) :
    t.entryAt? p ≠ some .directory ∧
      (t' = t.replaced q p bytes ∨ t' = t.swept q ∧ ∃ id, t.entryAt? p = some (.file id bytes)) := by
  rw [left] at h
  cases hentry : t.entryAt? p with
  | none =>
    rw [hentry] at h
    cases h
    exact ⟨nofun, .inl rfl⟩
  | some e =>
    cases e with
    | directory =>
      rw [hentry] at h
      cases h
    | file id old =>
      rw [hentry] at h
      refine ⟨nofun, ?_⟩
      by_cases hsame : old.data = bytes.data
      · simp only [if_pos hsame] at h
        cases h
        exact .inr ⟨rfl, id, by rw [ByteArray.ext hsame]⟩
      · simp only [if_neg hsame] at h
        cases h
        exact .inl rfl

/-- Where a write succeeds, the target holds the bytes, its temporary file is gone and the rest is
as it was. -/
theorem entryAt?_of_left {bytes : ByteArray} {t' : FileTree} {outcome : Outcome}
    (hfree : t.entryAt? q ≠ some .directory) (hpq : p ≠ q)
    (h : left t target p q bytes = (t', .ok outcome)) :
    (∃ id, t'.entryAt? p = some (.file id bytes)) ∧ t'.entryAt? q = none ∧
      ∀ r, r ≠ p → r ≠ q → t'.entryAt? r = t.entryAt? r := by
  have hqBase : q.isBase = false := isBase_of_not_directory hfree
  obtain ⟨hdir, rfl | ⟨rfl, id, hid⟩⟩ := left_eq_ok h
  · have hpBase : p.isBase = false := isBase_of_not_directory hdir
    refine ⟨⟨t.numberAt q, ?_⟩, ?_, fun r hr hr' => ?_⟩
    · rw [entryAt?_replaced hqBase hpBase, if_pos rfl]
    · rw [entryAt?_replaced hqBase hpBase, if_neg hpq.symm, if_pos rfl]
    · rw [entryAt?_replaced hqBase hpBase, if_neg hr, if_neg hr']
  · refine ⟨⟨id, ?_⟩, ?_, fun r _ hr' => ?_⟩
    · rw [entryAt?_swept hqBase, if_neg hpq, hid]
    · rw [entryAt?_swept hqBase, if_pos rfl]
    · rw [entryAt?_swept hqBase, if_neg hr']

theorem keeps_of_left {bytes : ByteArray} {t' : FileTree} {outcome : Outcome}
    (hfree : t.entryAt? q ≠ some .directory) (hpq : p ≠ q)
    (h : left t target p q bytes = (t', .ok outcome)) : Keeps t t' := by
  intro d hd
  rw [(entryAt?_of_left hfree hpq h).2.2, hd]
  · rintro rfl
    exact (left_eq_ok h).1 hd
  · rintro rfl
    exact hfree hd

/-- A target that holds some bytes, with nothing in the way of writing them again. -/
structure Settled (t : FileTree) (target : String) (bytes : ByteArray) : Prop where
  place : t.place target = .ok (Place.ofPath target)
  tempPlace : t.place (tempOf target) = .ok (Place.ofPath (tempOf target))
  holds : ∃ id, t.entryAt? (Place.ofPath target) = some (.file id bytes)
  free : t.entryAt? (Place.ofPath (tempOf target)) = none

/-- What a write that succeeds does to a tree. -/
structure Written (t t' : FileTree) (target : String) (bytes : ByteArray) : Prop where
  numbered : t'.Numbered
  settled : Settled t' target bytes
  keeps : Keeps t t'
  /-- No directory is in the way of the target. -/
  free : t.entryAt? (Place.ofPath target) ≠ some .directory
  /-- Directories are made on the route, and nothing else changes. -/
  others : ∀ r, r ≠ Place.ofPath target → r ≠ Place.ofPath (tempOf target) →
    t'.entryAt? r = t.entryAt? r ∨
      t.entryAt? r = none ∧ t'.entryAt? r = some .directory ∧
        r ∈ (start target).route (Path.above target)

/-- A write that succeeds makes directories on the route, and does the rest there. -/
theorem exists_left_of_write {text : String} {t' : FileTree} {outcome : Outcome} (hn : t.Numbered)
    (h : write t target text = (t', .ok outcome)) :
    ∃ made, Grown t made ((start target).route (Path.above target)) ∧
      made.place target = .ok (Place.ofPath target) ∧
      made.place (tempOf target) = .ok (Place.ofPath (tempOf target)) ∧
      made.entryAt? (Place.ofPath (tempOf target)) ≠ some .directory ∧
      left made target (Place.ofPath target) (Place.ofPath (tempOf target)) text.toUTF8 =
        (t', .ok outcome) := by
  obtain ⟨made, q, hprepare, hq, hfree, hne⟩ := exists_of_write h
  have hgrown : Grown t made ((start target).route (Path.above target)) := by
    have hgrown := prepare_grown t target
    rwa [hprepare] at hgrown
  have hp := place_of_tempOf hne hq
  rw [write_eq hprepare (hgrown.numbered hn) hp hq hfree] at h
  obtain rfl := (place_eq_ok.1 hq).2.2.2
  exact ⟨made, hgrown, hp, hq, hfree, h⟩

theorem written_of_write {text : String} {t' : FileTree} {outcome : Outcome} (hn : t.Numbered)
    (h : write t target text = (t', .ok outcome)) : Written t t' target text.toUTF8 := by
  obtain ⟨made, hgrown, hp, hq, hfree, h⟩ := exists_left_of_write hn h
  have hpq := ofPath_ne_tempOf target
  obtain ⟨hholds, hgone, hothers⟩ := entryAt?_of_left hfree hpq h
  have hkeeps := keeps_of_left hfree hpq h
  refine ⟨?_, ⟨hkeeps.place hp, hkeeps.place hq, hholds, hgone⟩, ?_, ?_, ?_⟩
  · have hnumbered := numbered_left (hgrown.numbered hn) target (Place.ofPath target)
      (Place.ofPath (tempOf target)) text.toUTF8
    rwa [h] at hnumbered
  · exact fun d hd => hkeeps d (hgrown.kept hd)
  · exact fun hdir => (left_eq_ok h).1 (hgrown.kept hdir)
  · intro r hr hr'
    rw [hothers r hr hr']
    exact hgrown.entryAt? r

/-- **A settled target is left alone.** -/
theorem write_of_settled {text : String} (hn : t.Numbered) (h : Settled t target text.toUTF8) :
    write t target text = ({ t with fresh := t.fresh + 1 }, .ok .unchanged) := by
  obtain ⟨hpossible, hopen, -⟩ := place_eq_ok.1 h.place
  obtain ⟨id, hid⟩ := h.holds
  have hfree : t.entryAt? (Place.ofPath (tempOf target)) ≠ some .directory := by
    rw [h.free]
    exact nofun
  rw [write_eq (prepare_of_open hpossible.short hopen) hn h.place h.tempPlace hfree, left, hid]
  simp only [if_true]
  rw [swept, erase_eq_self h.free, freshAfter, h.free]

/-- A settled target stays settled when another is written, unless the two get in each other's
way. -/
theorem Settled.write_other {t' : FileTree} {other : String} {bytes bytes' : ByteArray}
    (h : Settled t target bytes) (hw : Written t t' other bytes')
    (hsame : Place.ofPath other = Place.ofPath target → bytes' = bytes)
    (htemp : Place.ofPath (tempOf other) ≠ Place.ofPath target)
    (htarget : Place.ofPath other ≠ Place.ofPath (tempOf target))
    (hroute : Place.ofPath (tempOf target) ∉ (start other).route (Path.above other)) :
    Settled t' target bytes where
  place := hw.keeps.place h.place
  tempPlace := hw.keeps.place h.tempPlace
  holds := by
    obtain ⟨id, hid⟩ := h.holds
    by_cases hp : Place.ofPath other = Place.ofPath target
    · rw [← hp, ← hsame hp]
      exact hw.settled.holds
    · rcases hw.others _ (Ne.symm hp) htemp.symm with heq | ⟨hnone, -⟩
      · exact ⟨id, heq.trans hid⟩
      · rw [hid] at hnone
        cases hnone
  free := by
    by_cases hq : Place.ofPath (tempOf other) = Place.ofPath (tempOf target)
    · rw [← hq]
      exact hw.settled.free
    · rcases hw.others _ htarget.symm (Ne.symm hq) with heq | ⟨-, -, hmem⟩
      · rw [heq, h.free]
      · exact absurd hmem hroute

end OutputFile
end Bindery
