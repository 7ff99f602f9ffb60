import Bindery.Proofs.Output.Preparing
import Bindery.Proofs.Output.Write

/-! What an open output file does, step by step.

While an output file is open, the bytes it was given are in its temporary file, from the front, or
wait (`Writing`). Each step is described by what it leaves at the places of the target and of the
temporary file; nothing else changes (`append_advances`, `close_ends`, `drop_ends`). -/
namespace Bindery

namespace FileTree
variable {t : FileTree} {p q : Place}

theorem lookup_map (f : Entry → Entry) (entries : List (Place × Entry)) (p : Place) :
    (entries.map fun (r, e) => (r, f e)).lookup p = (entries.lookup p).map f := by
  induction entries with
  | nil => rfl
  | cons first rest ih =>
    obtain ⟨r, e⟩ := first
    rw [List.map_cons, List.lookup_cons, List.lookup_cons, ih]
    cases p == r with
    | true => rfl
    | false => rfl

/-- Writing into a file adds to it at its place and changes nothing elsewhere. -/
theorem entryAt?_writeAt_end (hn : t.Numbered) {id : Nat} {old : ByteArray}
    (h : t.entryAt? q = some (.file id old)) (bytes : ByteArray) (r : Place) :
    (t.writeAt id old.size bytes).entryAt? r =
      if r = q then some (.file id (old ++ bytes)) else t.entryAt? r := by
  have hmap : (t.writeAt id old.size bytes).entryAt? r =
      (t.entryAt? r).map (Entry.written id old.size bytes) := by
    rw [writeAt_eq, entryAt?, entryAt?]
    dsimp only
    rw [lookup_map]
    split
    · rfl
    · rfl
  rw [hmap]
  by_cases hr : r = q
  · rw [if_pos hr, hr, h, Option.map_some, Entry.written, if_pos rfl, overwritten_end]
  · rw [if_neg hr]
    cases he : t.entryAt? r with
    | none => rfl
    | some e =>
      cases e with
      | directory => rfl
      | file i b =>
        have hi : i ≠ id := by
          rintro rfl
          exact hr (hn.own r q i b old (mem_of_file he) (mem_of_file h))
        rw [Option.map_some, Entry.written, if_neg hi]

end FileTree

namespace OutputFile

open FileTree

variable {t : FileTree} {target : String} {o : OutputFile} {flushed : ByteArray}

/-- The place of the temporary file of a target. -/
abbrev tempPlace (target : String) : Place := Place.ofPath (tempOf target)

theorem mem_spots {r : Place} :
    r ∈ spots target ↔ r = Place.ofPath target ∨ r = tempPlace target := by
  rw [spots, List.mem_cons, List.mem_singleton]

theorem ne_tempPlace {r : Place} (hr : r ∉ spots target) : r ≠ tempPlace target :=
  fun heq => hr (mem_spots.2 (.inr heq))

/-- An output file that is being written: some bytes have reached its temporary file. -/
structure Writing (t : FileTree) (target : String) (o : OutputFile) (flushed : ByteArray) :
    Prop where
  numbered : t.Numbered
  aim : o.target = target
  place : t.place (tempOf target) = .ok (tempPlace target)
  holds : t.entryAt? (tempPlace target) = some (.file o.id flushed)
  offset : o.offset = flushed.size

/-- It goes on as long as its temporary file is left alone and the way to it stays open. -/
theorem Writing.kept {t' : FileTree} (h : Writing t target o flushed) (hn : t'.Numbered)
    (htemp : t'.entryAt? (tempPlace target) = t.entryAt? (tempPlace target))
    (hway : ∀ d ∈ way target, t.entryAt? d = some .directory → t'.entryAt? d = some .directory) :
    Writing t' target o flushed where
  numbered := hn
  aim := h.aim
  place := by
    obtain ⟨hpossible, hopen, hname⟩ := place_tempOf_iff.1 h.place
    exact place_tempOf_iff.2
      ⟨hpossible, fun d hd => ⟨(hopen d hd).1, hway d hd (hopen d hd).2⟩, hname⟩
  holds := htemp.trans h.holds
  offset := h.offset

/-! ### Opening -/

variable {made : FileTree} {fault : Fault}

theorem open_of_fault (h : prepare t target = (made, .error fault)) :
    OutputFile.open t target = (made, .error fault) := by
  unfold OutputFile.open
  rw [h]

theorem open_of_free (h : prepare t target = (made, .ok ())) (hfree : Free made target) :
    OutputFile.open t target = (staged made (tempPlace target) .empty,
      .ok { target, id := made.numberAt (tempPlace target) }) := by
  unfold OutputFile.open
  rw [h]
  dsimp only
  rw [createFile_of_place hfree.1 hfree.2]
  rfl

theorem open_of_not_free (h : prepare t target = (made, .ok ())) (hfree : ¬Free made target) :
    OutputFile.open t target = (made, .error (.create (tempOf target))) := by
  unfold OutputFile.open
  rw [h]
  dsimp only
  cases hcreate : made.createFile (tempOf target) with
  | mk t' created =>
  cases created with
  | ok id =>
    obtain ⟨q, hq, hdir⟩ := place_of_createFile hcreate
    obtain rfl := (place_eq_ok.1 hq).2.2.2
    exact absurd ⟨hq, hdir⟩ hfree
  | error r =>
    rw [createFile] at hcreate
    split at hcreate
    · cases hcreate
      rfl
    · split at hcreate
      · cases hcreate
        rfl
      · cases hcreate
      · cases hcreate

/-- A temporary file that was just made has no bytes. -/
theorem staged_writing (hn : t.Numbered) (hfree : Free t target) :
    Writing (staged t (tempPlace target) .empty) target
      { target, id := t.numberAt (tempPlace target) } .empty where
  numbered := by
    have hcreated := hn.createFile (tempOf target)
    rwa [createFile_of_place hfree.1 hfree.2] at hcreated
  aim := rfl
  place := (keeps_staged hfree.2 .empty).place hfree.1
  holds := by rw [entryAt?_staged (isBase_of_not_directory hfree.2), if_pos rfl]
  offset := rfl

/-- Opening makes directories on the way, and then the temporary file or nothing. -/
theorem open_cases (hn : t.Numbered) (target : String) :
    (∃ made fault, OutputFile.open t target = (made, .error fault) ∧ Grown t made (way target)) ∨
      ∃ opened o, OutputFile.open t target = (opened, .ok o) ∧ Writing opened target o .empty ∧
        o.pending = .empty ∧ ∀ r, r ≠ tempPlace target → opened.entryAt? r = t.entryAt? r ∨
          t.entryAt? r = none ∧ opened.entryAt? r = some .directory ∧ r ∈ way target := by
  have hgrown := prepare_grown t target
  cases hprepare : prepare t target with
  | mk made prepared =>
  rw [hprepare] at hgrown
  dsimp only at hgrown
  cases prepared with
  | error fault => exact .inl ⟨made, fault, open_of_fault hprepare, hgrown⟩
  | ok _ =>
    by_cases hfree : Free made target
    · refine .inr ⟨_, _, open_of_free hprepare hfree, staged_writing (hgrown.numbered hn) hfree,
        rfl, fun r hr => ?_⟩
      rw [entryAt?_staged (isBase_of_not_directory hfree.2), if_neg hr]
      exact hgrown.entryAt? r
    · exact .inl ⟨made, _, open_of_not_free hprepare hfree, hgrown⟩

/-! ### Adding bytes -/

/-- More bytes have reached the temporary file, some wait, and nothing else has changed. -/
structure Advances (t : FileTree) (target : String) (after : FileTree × OutputFile)
    (flushed pending : ByteArray) : Prop where
  writing : Writing after.1 target after.2 flushed
  pending : after.2.pending = pending
  others : ∀ r, r ≠ tempPlace target → after.1.entryAt? r = t.entryAt? r

theorem Advances.trans {after : FileTree × OutputFile} {after' : FileTree × OutputFile}
    {flushed' pending pending' : ByteArray} (h : Advances t target after flushed pending)
    (h' : Advances after.1 target after' flushed' pending') :
    Advances t target after' flushed' pending' where
  writing := h'.writing
  pending := h'.pending
  others r hr := (h'.others r hr).trans (h.others r hr)

theorem Advances.elsewhere {after : FileTree × OutputFile} {pending : ByteArray}
    (h : Advances t target after flushed pending) {r : Place} (hr : r ∉ spots target) :
    after.1.entryAt? r = t.entryAt? r := h.others r (ne_tempPlace hr)

theorem Advances.look_target {after : FileTree × OutputFile} {pending : ByteArray}
    (h : Advances t target after flushed pending) :
    after.1.look (Place.ofPath target) = t.look (Place.ofPath target) :=
  look_congr (h.others _ (ofPath_ne_tempOf target))

theorem through_advances (h : Writing t target o flushed) (bytes : ByteArray) :
    Advances t target (through t o bytes) (flushed ++ bytes) o.pending := by
  rw [through]
  split
  · next hempty =>
    have hbytes : bytes = .empty := by
      rw [← ByteArray.size_eq_zero_iff]
      simpa [ByteArray.isEmpty] using hempty
    rw [hbytes, ByteArray.append_empty]
    exact ⟨h, rfl, fun _ _ => rfl⟩
  · have hentry := entryAt?_writeAt_end h.numbered h.holds bytes
    rw [← h.offset] at hentry
    refine ⟨⟨h.numbered.writeAt _ _ _, h.aim, ?_, ?_, ?_⟩, rfl, fun r hr => ?_⟩
    · refine Keeps.place (fun d hd => ?_) h.place
      rw [hentry, if_neg, hd]
      rintro rfl
      rw [h.holds] at hd
      cases hd
    · exact (hentry _).trans (if_pos rfl)
    · rw [ByteArray.size_append, ← h.offset]
    · exact (hentry r).trans (if_neg hr)

theorem flush_advances (h : Writing t target o flushed) :
    Advances t target (flush t o) (flushed ++ o.pending) .empty := by
  obtain ⟨hwriting, -, hothers⟩ := through_advances h o.pending
  exact ⟨⟨hwriting.numbered, hwriting.aim, hwriting.place, hwriting.holds, hwriting.offset⟩,
    rfl, hothers⟩

/-- The bytes that have reached the temporary file, and those that wait, once there is room for some
more. -/
def roomFor (flushed pending bytes : ByteArray) : ByteArray × ByteArray :=
  if capacity < pending.size + bytes.size then (flushed ++ pending, .empty) else (flushed, pending)

/-- The bytes that have reached the temporary file, and those that wait, after some are added. -/
def buffered (flushed pending bytes : ByteArray) : ByteArray × ByteArray :=
  let room := roomFor flushed pending bytes
  if capacity ≤ bytes.size then (room.1 ++ bytes, room.2) else (room.1, room.2 ++ bytes)

theorem append_advances (h : Writing t target o flushed) (bytes : ByteArray) :
    Advances t target (append t o bytes) (buffered flushed o.pending bytes).1
      (buffered flushed o.pending bytes).2 := by
  have hroom : Advances t target
      (if capacity < o.pending.size + bytes.size then flush t o else (t, o))
      (roomFor flushed o.pending bytes).1 (roomFor flushed o.pending bytes).2 := by
    rw [roomFor]
    split
    · exact flush_advances h
    · exact ⟨h, rfl, fun _ _ => rfl⟩
  rw [append, buffered]
  dsimp only
  generalize roomFor flushed o.pending bytes = room at hroom ⊢
  generalize (if capacity < o.pending.size + bytes.size then flush t o else (t, o)) = after
    at hroom ⊢
  split
  · have hthrough := hroom.trans (through_advances hroom.writing bytes)
    rwa [hroom.pending] at hthrough
  · obtain ⟨hwriting, hpending, hothers⟩ := hroom
    exact ⟨⟨hwriting.numbered, hwriting.aim, hwriting.place, hwriting.holds, hwriting.offset⟩,
      congrArg (· ++ bytes) hpending, hothers⟩

/-- Bytes never overtake each other. -/
theorem buffered_append (flushed pending bytes : ByteArray) :
    (buffered flushed pending bytes).1 ++ (buffered flushed pending bytes).2 =
      flushed ++ pending ++ bytes := by
  have hroom : (roomFor flushed pending bytes).1 ++ (roomFor flushed pending bytes).2 =
      flushed ++ pending := by
    rw [roomFor]
    split
    · exact ByteArray.append_empty
    · rfl
  rw [← hroom, buffered]
  split
  · next hlong =>
    -- Bytes that do not wait leave none behind that do.
    have hnone : (roomFor flushed pending bytes).2 = .empty := by
      rw [roomFor]
      split
      · rfl
      · next hroomy =>
        refine ByteArray.size_eq_zero_iff.1 ?_
        dsimp only
        omega
    rw [hnone, ByteArray.append_empty, ByteArray.append_empty]
  · exact ByteArray.append_assoc.symm

/-! ### Ending -/

/-- The temporary file is gone, and nothing changes but the place of the target. -/
structure Ends (t : FileTree) (target : String) (t' : FileTree) : Prop where
  numbered : t'.Numbered
  gone : t'.entryAt? (tempPlace target) = none
  others : ∀ r, r ∉ spots target → t'.entryAt? r = t.entryAt? r

/-- What closing reports, by what was found at the place of the target. -/
def verdict (target : String) (found : Option Entry) (bytes : ByteArray) :
    Except Fault Outcome :=
  if target = "" then .error (.move (tempOf target) target)
  else match found with
    | none => .ok .created
    | some (.file _ old) => .ok (if old.data = bytes.data then .unchanged else .updated)
    | some .directory => .error (.read target)

theorem verdict_none (h : target ≠ "") (bytes : ByteArray) :
    verdict target none bytes = .ok .created := if_neg h

theorem verdict_directory (h : target ≠ "") (bytes : ByteArray) :
    verdict target (some .directory) bytes = .error (.read target) := if_neg h

theorem verdict_file (h : target ≠ "") (id : Nat) (old bytes : ByteArray) :
    verdict target (some (.file id old)) bytes =
      .ok (if old.data = bytes.data then .unchanged else .updated) := if_neg h

/-- What is at the place of the target after that. -/
def settled (target : String) (found : Option Entry) (bytes : ByteArray) : Option Entry :=
  match verdict target found bytes with
  | .ok _ => some (.file 0 bytes)
  | .error _ => found

/-- Where the temporary file is still there, it is removed. -/
theorem sweep_ends (h : Writing t target o flushed) :
    Ends t target (t.removeFile (tempOf target)) ∧
      (t.removeFile (tempOf target)).entryAt? (Place.ofPath target) =
        t.entryAt? (Place.ofPath target) := by
  have hentry := entryAt?_erase (t := t) (isBase_of_file h.holds)
  rw [removeFile_of_file h.place h.holds]
  refine ⟨⟨h.numbered.erase _, (hentry _).trans (if_pos rfl), fun r hr => ?_⟩, ?_⟩
  · exact (hentry r).trans (if_neg (ne_tempPlace hr))
  · exact (hentry _).trans (if_neg (ofPath_ne_tempOf target))

/-- The temporary file takes the place of the target, and is then no longer there to remove. -/
theorem move_ends (h : Writing t target o flushed)
    (hplace : t.place target = .ok (Place.ofPath target))
    (hdir : t.entryAt? (Place.ofPath target) ≠ some .directory) :
    ∃ t', t.move (tempOf target) target = .ok t' ∧ Ends t target (t'.removeFile (tempOf target)) ∧
      (t'.removeFile (tempOf target)).look (Place.ofPath target) = some (.file 0 flushed) := by
  have hpq := ofPath_ne_tempOf target
  have hmove := move_of_place h.place h.holds hplace hdir hpq
  refine ⟨_, hmove, ?_⟩
  have hentry : ∀ r, ((t.erase (tempPlace target)).put (Place.ofPath target)
      (.file o.id flushed)).entryAt? r =
        if r = Place.ofPath target then some (.file o.id flushed)
        else if r = tempPlace target then none else t.entryAt? r := fun r => by
    rw [entryAt?_put (isBase_of_not_directory hdir), entryAt?_erase (isBase_of_file h.holds)]
  have hkeeps : Keeps t ((t.erase (tempPlace target)).put (Place.ofPath target)
      (.file o.id flushed)) := by
    intro d hd
    rw [hentry, if_neg, if_neg, hd]
    · rintro rfl
      rw [h.holds] at hd
      cases hd
    · rintro rfl
      exact hdir hd
  have hgone := (hentry (tempPlace target)).trans (if_neg hpq.symm)
  rw [if_pos rfl] at hgone
  rw [removeFile_of_none (hkeeps.place h.place) hgone]
  refine ⟨⟨h.numbered.move hmove, hgone, fun r hr => ?_⟩,
    look_of_file ((hentry _).trans (if_pos rfl))⟩
  rw [mem_spots, not_or] at hr
  rw [hentry, if_neg hr.1, if_neg hr.2]

/-- Bytes may be written before the end. -/
theorem Ends.after {t' : FileTree} {after : FileTree × OutputFile} {pending : ByteArray}
    (h : Ends after.1 target t') (hafter : Advances t target after flushed pending) :
    Ends t target t' where
  numbered := h.numbered
  gone := h.gone
  others r hr := (h.others r hr).trans (hafter.elsewhere hr)

/-- **What dropping leaves.** -/
theorem drop_ends (h : Writing t target o flushed) :
    Ends t target (drop t o) ∧
      (drop t o).entryAt? (Place.ofPath target) = t.entryAt? (Place.ofPath target) := by
  have hflush := flush_advances h
  obtain ⟨hends, htarget⟩ := sweep_ends hflush.writing
  rw [drop, temp, h.aim]
  exact ⟨hends.after hflush, htarget.trans (hflush.others _ (ofPath_ne_tempOf target))⟩

theorem commit_ends (h : Writing t target o flushed) :
    (commit t o).2 = verdict target (t.look (Place.ofPath target)) flushed ∧
      Ends t target ((commit t o).1.removeFile (tempOf target)) ∧
      ((commit t o).1.removeFile (tempOf target)).look (Place.ofPath target) =
        settled target (t.look (Place.ofPath target)) flushed := by
  have hswept := (sweep_ends h).imp_right look_congr
  have hread : t.read (tempOf target) = .ok flushed := by rw [read_of_place h.place, h.holds]
  rw [commit, temp, h.aim, hread, settled]
  dsimp only
  by_cases hempty : target = ""
  · -- Nothing is found where no path leads, and nothing can be moved there.
    have hmove : t.move (tempOf target) target = .error .missing := by
      simp only [move, find_of_place h.place h.holds, bind, Except.bind]
      rw [hempty]
      rfl
    have houtcome : outcome t target flushed = .ok .created := by
      rw [hempty]
      rfl
    have hverdict : ∀ found, verdict target found flushed = .error (.move (tempOf target) target) :=
      fun found => if_pos hempty
    rw [houtcome, hverdict, hmove]
    exact ⟨rfl, hswept⟩
  have hplace := place_of_tempOf hempty h.place
  rw [outcome, read_of_place hplace]
  cases hentry : t.entryAt? (Place.ofPath target) with
  | none =>
    obtain ⟨t', hmove, hends⟩ := move_ends h hplace (by simp [hentry])
    rw [look_eq_none.2 hentry, verdict_none hempty, hmove]
    exact ⟨rfl, hends⟩
  | some e =>
    cases e with
    | directory =>
      rw [look_eq_directory.2 hentry] at hswept ⊢
      rw [verdict_directory hempty]
      exact ⟨rfl, hswept⟩
    | file id old =>
      obtain ⟨t', hmove, hends⟩ := move_ends h hplace (by simp [hentry])
      rw [look_of_file hentry] at hswept ⊢
      rw [verdict_file hempty]
      dsimp only
      by_cases hsame : old.data = flushed.data
      · rw [if_pos hsame, ← ByteArray.ext hsame]
        exact ⟨rfl, hswept⟩
      · rw [if_neg hsame, hmove]
        exact ⟨rfl, hends⟩

/-- **What closing reports and leaves.** -/
theorem close_ends (h : Writing t target o flushed) :
    (close t o).2 = verdict target (t.look (Place.ofPath target)) (flushed ++ o.pending) ∧
      Ends t target (close t o).1 ∧
      (close t o).1.look (Place.ofPath target) =
        settled target (t.look (Place.ofPath target)) (flushed ++ o.pending) := by
  have hflush := flush_advances h
  obtain ⟨hverdict, hends, hlook⟩ := commit_ends hflush.writing
  rw [hflush.look_target] at hverdict hlook
  rw [close]
  dsimp only
  rw [temp, hflush.writing.aim]
  exact ⟨hverdict, hends.after hflush, hlook⟩

end OutputFile
end Bindery
