import Bindery.Proofs.Output.Interleaving

/-! What closing commits.

Between opening an output file and closing it, others may do what they like to the tree, as long as they
leave its temporary file alone and the places that its path leads through (`Spares`): they may create the
target, write to it, or put a directory there. Whatever they do, what is appended stays together and in
order (`Given.exists_writing`). So closing goes by what is at the target by then, commits all that was
appended or nothing, and changes nothing else (`close_commits`). -/
namespace Bindery.OutputFile

open FileTree

variable {target : String} {t : FileTree} {o : OutputFile}

/-! ### In between -/

/-- A change to a tree that touches neither the temporary file of a target nor a place that its path
leads through. -/
structure Spares (target : String) (t t' : FileTree) : Prop where
  numbered : t'.Numbered
  temp : t'.entryAt? (tempPlace target) = t.entryAt? (tempPlace target)
  way : ∀ d ∈ way target, t'.entryAt? d = t.entryAt? d

/-- An output file is given texts one after the other, and in between others change the tree. -/
inductive Given (target : String) (before : FileTree × OutputFile) :
    List ByteArray → FileTree × OutputFile → Prop where
  | nothing : Given target before [] before
  | text {texts : List ByteArray} {t : FileTree} {o : OutputFile}
      (h : Given target before texts (t, o)) (bytes : ByteArray) :
      Given target before (texts ++ [bytes]) (append t o bytes)
  | others {texts : List ByteArray} {t t' : FileTree} {o : OutputFile}
      (h : Given target before texts (t, o)) (spares : Spares target t t') :
      Given target before texts (t', o)

/-- All that is appended is in the temporary file or waits, in order. -/
theorem Given.exists_writing {before after : FileTree × OutputFile} {texts : List ByteArray}
    (h : Given target before texts after) {flushed : ByteArray}
    (hwriting : Writing before.1 target before.2 flushed) :
    ∃ flushed', Writing after.1 target after.2 flushed' ∧
      flushed' ++ after.2.pending = texts.foldl (· ++ ·) (flushed ++ before.2.pending) := by
  induction h with
  | nothing => exact ⟨flushed, hwriting, rfl⟩
  | text h bytes ih =>
    obtain ⟨flushed', hwriting', hbytes⟩ := ih
    have happend := append_advances hwriting' bytes
    refine ⟨_, happend.writing, ?_⟩
    rw [happend.pending, buffered_append, hbytes, List.foldl_append]
    rfl
  | others h spares ih =>
    obtain ⟨flushed', hwriting', hbytes⟩ := ih
    exact ⟨flushed', hwriting'.kept spares.numbered spares.temp
      (fun d hd hdir => (spares.way d hd).trans hdir), hbytes⟩

/-! ### At the end -/

/-- What closing reports and leaves at the place of the target, where some bytes were appended. -/
structure Commits (t : FileTree) (target : String) (bytes : ByteArray)
    (after : FileTree × Except Fault Outcome) : Prop where
  created : after.2 = .ok .created ↔ t.entryAt? (Place.ofPath target) = none
  unchanged : after.2 = .ok .unchanged ↔ t.bytes? (Place.ofPath target) = some bytes
  updated : after.2 = .ok .updated ↔
    ∃ old, t.bytes? (Place.ofPath target) = some old ∧ old ≠ bytes
  fails : (∃ fault, after.2 = .error fault) ↔ t.entryAt? (Place.ofPath target) = some .directory
  /-- A close with a result leaves all that was appended. -/
  holds : ∀ outcome, after.2 = .ok outcome → after.1.bytes? (Place.ofPath target) = some bytes
  /-- A close that fails leaves the target as it was. -/
  kept : ∀ fault, after.2 = .error fault →
    after.1.entryAt? (Place.ofPath target) = t.entryAt? (Place.ofPath target)

theorem exists_verdict_directory (target : String) (bytes : ByteArray) :
    ∃ fault, verdict target (some .directory) bytes = .error fault := by
  by_cases hempty : target = ""
  · exact ⟨_, if_pos hempty⟩
  · exact ⟨_, verdict_directory hempty bytes⟩

/-- The empty path leads to a directory. -/
theorem nonempty_of_not_directory (h : t.entryAt? (Place.ofPath target) ≠ some .directory) :
    target ≠ "" := by
  rintro rfl
  exact h rfl

theorem commits_of_verdict {bytes : ByteArray} {after : FileTree × Except Fault Outcome}
    (hverdict : after.2 = verdict target (t.look (Place.ofPath target)) bytes)
    (hlook : after.1.look (Place.ofPath target) =
      settled target (t.look (Place.ofPath target)) bytes) : Commits t target bytes after := by
  rw [settled, ← hverdict] at hlook
  have hheld := bytes?_eq_look after.1 (Place.ofPath target)
  have hbefore := t.bytes?_eq_look (Place.ofPath target)
  cases hentry : t.entryAt? (Place.ofPath target) with
  | none =>
    have hne : target ≠ "" := nonempty_of_not_directory (t := t) (by simp [hentry])
    rw [look_eq_none.2 hentry] at hverdict hbefore
    rw [verdict_none hne] at hverdict
    rw [hverdict] at hlook
    rw [hlook] at hheld
    constructor <;> simp [hverdict, hentry, hbefore, hheld]
  | some e =>
    cases e with
    | directory =>
      obtain ⟨fault, hfault⟩ := exists_verdict_directory target bytes
      rw [look_eq_directory.2 hentry] at hverdict hbefore
      rw [hfault] at hverdict
      rw [hverdict, look_eq_directory.2 hentry, look_eq_directory] at hlook
      constructor <;> simp [hverdict, hentry, hbefore, hlook]
    | file id old =>
      have hne : target ≠ "" := nonempty_of_not_directory (t := t) (by simp [hentry])
      rw [look_of_file hentry] at hverdict hbefore
      rw [verdict_file hne] at hverdict
      rw [hverdict] at hlook
      rw [hlook] at hheld
      by_cases hsame : old = bytes
      · constructor <;> simp [hverdict, hentry, hbefore, hheld, hsame]
      · have hdata : old.data ≠ bytes.data := mt ByteArray.ext hsame
        constructor <;> simp [hverdict, hentry, hbefore, hheld, hsame, hdata]

theorem close_commits_of_writing {flushed : ByteArray} (h : Writing t target o flushed) :
    Ends t target (close t o).1 ∧ Commits t target (flushed ++ o.pending) (close t o) := by
  obtain ⟨hverdict, hends, hlook⟩ := close_ends h
  exact ⟨hends, commits_of_verdict hverdict hlook⟩

/-- **Closing commits what was appended.** Opening an output file makes directories on the way to its
target, and the temporary file or nothing. Whatever others do in between, texts that it is given are
added to the temporary file only. Closing goes by what is at the target then: all texts are put there one
after the other, unless a directory is in the way. A close that fails leaves the target as it is then,
and so does dropping. After either the temporary file is gone, and no other place has changed. -/
theorem close_commits (hn : t.Numbered) (target : String) :
    (∀ r, r ≠ tempPlace target → (OutputFile.open t target).1.entryAt? r = t.entryAt? r ∨
      t.entryAt? r = none ∧ (OutputFile.open t target).1.entryAt? r = some .directory ∧
        r ∈ way target) ∧
    (∀ fault, (OutputFile.open t target).2 = .error fault →
      (OutputFile.open t target).1.bytes? (tempPlace target) = t.bytes? (tempPlace target)) ∧
    ∀ o, (OutputFile.open t target).2 = .ok o →
      ∀ texts s o', Given target ((OutputFile.open t target).1, o) texts (s, o') →
        (target ≠ "" → s.place target = .ok (Place.ofPath target)) ∧
        (∀ bytes r, r ≠ tempPlace target → (append s o' bytes).1.entryAt? r = s.entryAt? r) ∧
        (Ends s target (close s o').1 ∧ Commits s target (joined texts) (close s o')) ∧
        Ends s target (drop s o') ∧
          (drop s o').entryAt? (Place.ofPath target) = s.entryAt? (Place.ofPath target) := by
  rcases open_cases hn target with
    ⟨made, fault, hopen, hgrown⟩ | ⟨opened, o, hopen, hwriting, hnone, hothers⟩
  · rw [hopen]
    exact ⟨fun r _ => hgrown.entryAt? r, fun _ _ => bytes?_of_made (hgrown.entryAt? _), nofun⟩
  · rw [hopen]
    refine ⟨hothers, nofun, fun o₁ ho texts s o' h => ?_⟩
    cases ho
    obtain ⟨flushed, hwriting', hbytes⟩ := h.exists_writing hwriting
    rw [hnone] at hbytes
    obtain ⟨hends, hcommits⟩ := close_commits_of_writing hwriting'
    rw [hbytes] at hcommits
    exact ⟨fun hne => place_of_tempOf hne hwriting'.place,
      fun bytes => (append_advances hwriting' bytes).others, ⟨hends, hcommits⟩,
      drop_ends hwriting'⟩

/-- A header is written while it is open as an output file. -/
def raced : FileTree :=
  ((OutputFile.open {} "gen/a.hpp").1.writeFile "gen/a.hpp" "int a;".toUTF8).1

/-- What the output file is given after that is added, and closing finds the target changed. -/
theorem close_raced :
    let o : OutputFile := { target := "gen/a.hpp", id := 0 }
    let after := append raced o "int b;".toUTF8
    ({} : FileTree).Numbered ∧ (OutputFile.open {} "gen/a.hpp").2 = .ok o ∧
      Given "gen/a.hpp" ((OutputFile.open {} "gen/a.hpp").1, o) ["int b;".toUTF8] after ∧
      (close after.1 after.2).2 = .ok .updated ∧
      (close after.1 after.2).1.bytes? ["gen", "a.hpp"] = some "int b;".toUTF8 := by
  intro o after
  have hplace : Place.ofPath "gen/a.hpp" = ["gen", "a.hpp"] := by decide +kernel
  have hopen : (OutputFile.open {} "gen/a.hpp").2 = .ok o := by rfl
  have hopened : (OutputFile.open {} "gen/a.hpp").1.Numbered := by
    rcases open_cases Numbered.empty "gen/a.hpp" with
      ⟨made, fault, hfails, -⟩ | ⟨opened, o', hopens, hwriting, -⟩
    · rw [hfails] at hopen
      cases hopen
    · rw [hopens]
      exact hwriting.numbered
  have hway : way "gen/a.hpp" = [[], ["gen"]] := by decide +kernel
  have hspares : Spares "gen/a.hpp" (OutputFile.open {} "gen/a.hpp").1 raced := by
    refine ⟨hopened.writeFile _ _, by rfl, ?_⟩
    rw [hway]
    exact List.forall_mem_cons.2 ⟨rfl, List.forall_mem_singleton.2 (by rfl)⟩
  have hraced : Given "gen/a.hpp" ((OutputFile.open {} "gen/a.hpp").1, o) [] (raced, o) :=
    .others .nothing hspares
  have hgiven := hraced.text "int b;".toUTF8
  obtain ⟨-, -, hcloses⟩ := close_commits Numbered.empty "gen/a.hpp"
  have hadded := (hcloses o hopen _ _ _ hraced).2.1 "int b;".toUTF8 ["gen", "a.hpp"]
    (by decide +kernel)
  have hfound : after.1.bytes? (Place.ofPath "gen/a.hpp") = some "int a;".toUTF8 := by
    rw [hplace, bytes?, hadded]
    rfl
  obtain ⟨-, -, ⟨-, hcommits⟩, -⟩ := hcloses o hopen _ _ _ hgiven
  have hupdated := hcommits.updated.2 ⟨_, hfound, by decide +kernel⟩
  refine ⟨Numbered.empty, hopen, hgiven, hupdated, ?_⟩
  rw [← hplace]
  exact hcommits.holds _ hupdated

end Bindery.OutputFile
