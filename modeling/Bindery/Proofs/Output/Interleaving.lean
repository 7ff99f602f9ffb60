import Bindery.Proofs.Output.Session
import Mathlib.Control.Monad.Basic

/-! Output files that are open at the same time.

Handles on one tree take their steps in any order. Each goes the way it would go alone, and all the
others do for it is to make directories that it would have found missing (`run_consistent`). So a
run in which steps are mixed ends as one in which each handle takes all its steps before the next
one starts (`run_oneByOne`). Where a path leads through the target of another handle and up again,
the order does matter, although neither target lies above the other (`run_crossed`). -/
namespace Bindery.OutputFile

open FileTree

/-! ### Many handles -/

section Sessions
variable {ι : Type} {target : ι → String} {t : FileTree}
  {s s' : Session ι} {lone : ι → FileTree × Stage}

/-- Each handle is as far as it is alone. Elsewhere the tree is as it was, but for the directories
that one or another of the handles makes alone. -/
structure Consistent (target : ι → String) (t : FileTree) (s : Session ι)
    (lone : ι → FileTree × Stage) : Prop where
  alike : ∀ i, Alike (target i) (s.tree, s.stage i) (lone i)
  rest : ∀ r, (∀ i, r ∉ spots (target i)) →
    s.tree.entryAt? r = some .directory ∧ (∃ i, (lone i).1.entryAt? r = some .directory) ∨
      s.tree.entryAt? r = t.entryAt? r ∧ ∀ i, (lone i).1.entryAt? r = t.entryAt? r

theorem begin_consistent (hn : t.Numbered) (target : ι → String) :
    Consistent target t (begin t) fun _ => (t, .idle) where
  alike _ := ⟨hn, hn, .idle, fun _ _ => rfl, fun _ _ => .inl rfl⟩
  rest _ _ := .inr ⟨rfl, fun _ => rfl⟩

/-- What the handles do alone says all about what they do together. -/
theorem Consistent.look_eq (h : Consistent target t s lone) (h' : Consistent target t s' lone)
    (r : Place) : s.tree.look r = s'.tree.look r := by
  by_cases hspot : ∃ i, r ∈ spots (target i)
  · obtain ⟨i, hi⟩ := hspot
    exact ((h.alike i).looks r hi).trans ((h'.alike i).looks r hi).symm
  · -- A directory that is new in one run is made by some handle alone, so it is in the other run.
    rw [not_exists] at hspot
    refine look_congr ?_
    rcases h.rest r hspot with ⟨hs, i, hi⟩ | ⟨hs, hlone⟩ <;>
      rcases h'.rest r hspot with ⟨hs', j, hj⟩ | ⟨hs', hlone'⟩
    · rw [hs, hs']
    · rw [hs, hs', ← hlone' i, hi]
    · rw [hs, hs', ← hlone j, hj]
    · rw [hs, hs']

theorem Consistent.stage_eq (h : Consistent target t s lone) (h' : Consistent target t s' lone)
    (i : ι) : (s.stage i).unnumbered = (s'.stage i).unnumbered :=
  (h.alike i).level.unnumbered.trans (h'.alike i).level.unnumbered.symm

variable [DecidableEq ι]

/-- **One step of one handle.** -/
theorem step_consistent (hapart : ∀ i j, i ≠ j → Apart (target i) (target j))
    (h : Consistent target t s lone) (i : ι) (action : Action) :
    Consistent target t (step target s (i, action))
      (Function.update lone i (act (target i) (lone i) action)) := by
  have hmoves := act_moves (h.alike i) action
  refine ⟨fun j => ?_, fun r hr => ?_⟩
  · by_cases hj : j = i
    · subst hj
      simp only [step, Function.update_self]
      exact hmoves.alike (h.alike j)
    · simp only [step, Function.update_of_ne hj]
      exact (h.alike j).other hmoves.numbered hmoves.others (hapart i j (Ne.symm hj))
        (hapart j i hj)
  · -- Elsewhere the step changes nothing, or leaves a directory, here as alone.
    rcases hmoves.inStep r (hr i) with ⟨hs, hu⟩ | ⟨hs, hu⟩
    · have hlone : ∀ j, (Function.update lone i (act (target i) (lone i) action) j).1.entryAt? r =
          (lone j).1.entryAt? r := by
        intro j
        by_cases hj : j = i
        · subst hj
          rw [Function.update_self]
          exact hu
        · rw [Function.update_of_ne hj]
      simp only [hlone]
      exact (h.rest r hr).imp (fun hmade => ⟨hs.trans hmade.1, hmade.2⟩)
        (fun hsame => ⟨hs.trans hsame.1, hsame.2⟩)
    · refine .inl ⟨hs, i, ?_⟩
      rw [Function.update_self]
      exact hu

theorem own_cons (j i : ι) (action : Action) (steps : List (ι × Action)) :
    own j ((i, action) :: steps) = if j = i then action :: own j steps else own j steps := by
  by_cases hj : j = i
  · simp [own, hj]
  · simp [own, hj, Ne.symm hj]

theorem foldl_consistent (hapart : ∀ i j, i ≠ j → Apart (target i) (target j))
    (h : Consistent target t s lone) (steps : List (ι × Action)) :
    Consistent target t (run target s steps)
      fun i => (own i steps).foldl (act (target i)) (lone i) := by
  induction steps generalizing s lone with
  | nil => exact h
  | cons first rest ih =>
    obtain ⟨i, action⟩ := first
    have hrest := ih (step_consistent hapart h i action)
    have hlone : (fun j => (own j ((i, action) :: rest)).foldl (act (target j)) (lone j)) =
        fun j => (own j rest).foldl (act (target j))
          (Function.update lone i (act (target i) (lone i) action) j) := by
      funext j
      rw [own_cons]
      by_cases hj : j = i
      · subst hj
        rw [if_pos rfl, Function.update_self, List.foldl_cons]
      · rw [if_neg hj, Function.update_of_ne hj]
    rw [hlone]
    exact hrest

/-- **A run does to each handle what its own steps do alone.** -/
theorem run_consistent (hn : t.Numbered) (hapart : ∀ i j, i ≠ j → Apart (target i) (target j))
    (steps : List (ι × Action)) :
    Consistent target t (run target (begin t) steps)
      fun i => alone (target i) t (own i steps) :=
  foldl_consistent hapart (begin_consistent hn target) steps

/-! ### One handle after the other -/

theorem own_append (j : ι) (a b : List (ι × Action)) : own j (a ++ b) = own j a ++ own j b := by
  rw [own, List.filter_append, List.map_append]
  rfl

theorem own_map (i j : ι) (actions : List Action) :
    own j (actions.map (i, ·)) = if j = i then actions else [] := by
  by_cases hj : j = i
  · subst hj
    have hkept : (actions.map (j, ·)).filter (·.1 = j) = actions.map (j, ·) := by
      rw [List.filter_eq_self, List.forall_mem_map]
      exact fun _ _ => decide_eq_true rfl
    rw [own, hkept, List.map_map, if_pos rfl]
    exact List.map_id _
  · simp [own, hj, Ne.symm hj]

/-- The order of the handles does not change what each of them does. -/
theorem own_oneByOne {order : List ι} {steps : List (ι × Action)} (hnodup : order.Nodup)
    (hall : ∀ e ∈ steps, e.1 ∈ order) (j : ι) : own j (oneByOne order steps) = own j steps := by
  have hflat : ∀ order : List ι, order.Nodup →
      own j (oneByOne order steps) = if j ∈ order then own j steps else [] := by
    intro order hnodup
    induction order with
    | nil => rfl
    | cons i rest ih =>
      obtain ⟨hi, hrest⟩ := List.nodup_cons.1 hnodup
      rw [oneByOne, List.flatMap_cons, own_append, own_map]
      have ih := ih hrest
      rw [oneByOne] at ih
      rw [ih]
      by_cases hj : j = i
      · subst hj
        simp [hi]
      · simp [hj]
  rw [hflat order hnodup]
  split
  · rfl
  · next hj =>
    symm
    rw [own, List.map_eq_nil_iff, List.filter_eq_nil_iff]
    intro e he heq
    exact hj (of_decide_eq_true heq ▸ hall e he)

end Sessions

/-! ### What a handle leaves -/

section Left
variable {target : String} {t : FileTree} {o : OutputFile} {flushed : ByteArray}

/-- Bytes one after the other. -/
def joined (texts : List ByteArray) : ByteArray := texts.foldl (· ++ ·) .empty

theorem foldl_refused (t : FileTree) (fault : Fault) (actions : List Action) :
    actions.foldl (act target) (t, .refused fault) = (t, .refused fault) := by
  induction actions with
  | nil => rfl
  | cons action rest ih =>
    rw [List.foldl_cons]
    cases action <;> exact ih

/-- What is appended is in the temporary file or waits, and the target is as it was. -/
theorem exists_writing_of_appends (h : Writing t target o flushed) (texts : List ByteArray) :
    ∃ t' o' flushed', (texts.map Action.append).foldl (act target) (t, .writing o) =
        (t', .writing o') ∧ Writing t' target o' flushed' ∧
      flushed' ++ o'.pending = texts.foldl (· ++ ·) (flushed ++ o.pending) ∧
      t'.look (Place.ofPath target) = t.look (Place.ofPath target) := by
  induction texts generalizing t o flushed with
  | nil => exact ⟨t, o, flushed, rfl, h, rfl, rfl⟩
  | cons text rest ih =>
    have happend := append_advances h text
    obtain ⟨t', o', flushed', hrun, hwriting', hbytes, hlook⟩ := ih happend.writing
    refine ⟨t', o', flushed', hrun, hwriting', ?_, hlook.trans happend.look_target⟩
    rw [hbytes, happend.pending, buffered_append, List.foldl_cons]

/-- A target looks as it did. Only where its path leads through it and there was nothing, there may be
a directory instead. -/
def Spared (target : String) (t t' : FileTree) : Prop :=
  t'.look (Place.ofPath target) = t.look (Place.ofPath target) ∨
    t.entryAt? (Place.ofPath target) = none ∧ t'.look (Place.ofPath target) = some .directory ∧
      Place.ofPath target ∈ way target

theorem Spared.of_made {t t' : FileTree} (h : t'.entryAt? (Place.ofPath target) =
      t.entryAt? (Place.ofPath target) ∨ t.entryAt? (Place.ofPath target) = none ∧
    t'.entryAt? (Place.ofPath target) = some .directory ∧ Place.ofPath target ∈ way target) :
    Spared target t t' := by
  rcases h with hsame | ⟨hnone, hdir, hway⟩
  · exact .inl (look_congr hsame)
  · exact .inr ⟨hnone, look_eq_directory.2 hdir, hway⟩

theorem Spared.congr {t t' t'' : FileTree} (h : Spared target t t')
    (hlook : t''.look (Place.ofPath target) = t'.look (Place.ofPath target)) :
    Spared target t t'' := by
  rwa [Spared, hlook]

/-- A handle that is opened is refused or begins with no bytes, and the target is spared. -/
theorem act_open_cases (hn : t.Numbered) (target : String) :
    (∃ t' fault, act target (t, .idle) .open = (t', .refused fault) ∧ Spared target t t') ∨
      ∃ t' o, act target (t, .idle) .open = (t', .writing o) ∧ Writing t' target o .empty ∧
        o.pending = .empty ∧ Spared target t t' := by
  rw [act_open]
  rcases open_cases hn target with
    ⟨made, fault, hopen, hgrown⟩ | ⟨opened, o, hopen, hwriting, hnone, hothers⟩
  · exact .inl ⟨made, fault, by rw [hopen]; rfl, .of_made (hgrown.entryAt? _)⟩
  · exact .inr ⟨opened, o, by rw [hopen]; rfl, hwriting, hnone,
      .of_made (hothers _ (ofPath_ne_tempOf target))⟩

/-- A handle that closes with a result leaves the target with all it has appended. -/
theorem bytes?_of_closed (hn : t.Numbered) {texts : List ByteArray} {outcome : Outcome}
    (h : (alone target t (.open :: texts.map .append ++ [.close])).2.result? =
      some (.ok outcome)) :
    (alone target t (.open :: texts.map .append ++ [.close])).1.bytes? (Place.ofPath target) =
      some (joined texts) := by
  rw [alone, List.cons_append, List.foldl_cons] at h ⊢
  rcases act_open_cases hn target with ⟨t', fault, hopen, -⟩ | ⟨t', o, hopen, hwriting, hnone, -⟩
  · rw [hopen, foldl_refused] at h
    cases h
  · rw [hopen, List.foldl_append] at h ⊢
    obtain ⟨t'', o', flushed, hrun, hwriting', hbytes, -⟩ :=
      exists_writing_of_appends hwriting texts
    rw [hrun] at h ⊢
    rw [hnone] at hbytes
    obtain ⟨hverdict, -, hleft⟩ := close_ends hwriting'
    have hok : (close t'' o').2 = .ok outcome := Option.some.inj h
    rw [settled, ← hverdict, hok] at hleft
    show (close t'' o').1.bytes? _ = _
    rw [bytes?_eq_look, hleft, joined, hbytes]
    rfl

/-- A handle that is dropped spares the target. -/
theorem spared_of_dropped (hn : t.Numbered) (target : String) (texts : List ByteArray) :
    Spared target t (alone target t (.open :: texts.map .append ++ [.drop])).1 := by
  rw [alone, List.cons_append, List.foldl_cons]
  rcases act_open_cases hn target with
    ⟨t', fault, hopen, hspared⟩ | ⟨t', o, hopen, hwriting, -, hspared⟩
  · rw [hopen, foldl_refused]
    exact hspared
  · rw [hopen, List.foldl_append]
    obtain ⟨t'', o', flushed, hrun, hwriting', -, hlook⟩ := exists_writing_of_appends hwriting texts
    rw [hrun]
    obtain ⟨-, hleft⟩ := drop_ends hwriting'
    exact hspared.congr ((look_congr hleft).trans hlook)

end Left

/-! ### The order of steps -/

/-- **Open output files do not interfere.** Whatever the order in which handles take their steps, as
long as no handle's places are those of another or on another's way, each ends as it does when one
handle follows the other, and so does the tree. A handle that closes with a result leaves all it has
appended. One that is dropped leaves its target as it was, but where its own path leads through the
target and there was nothing, there may be a directory. -/
theorem run_oneByOne {ι : Type} [DecidableEq ι] {target : ι → String} {t : FileTree}
    (hn : t.Numbered) (hapart : ∀ i j, i ≠ j → Apart (target i) (target j))
    (steps : List (ι × Action)) {order : List ι} (hnodup : order.Nodup)
    (hall : ∀ e ∈ steps, e.1 ∈ order) :
    let mixed := run target (begin t) steps
    let ordered := run target (begin t) (oneByOne order steps)
    (∀ i, (mixed.stage i).unnumbered = (ordered.stage i).unnumbered) ∧
      (∀ r, mixed.tree.look r = ordered.tree.look r) ∧
      ∀ i texts, let place := Place.ofPath (target i)
        (own i steps = .open :: texts.map .append ++ [.close] →
          ∀ outcome, (mixed.stage i).result? = some (.ok outcome) →
            mixed.tree.bytes? place = some (joined texts)) ∧
        (own i steps = .open :: texts.map .append ++ [.drop] →
          (place ∉ way (target i) → mixed.tree.look place = t.look place) ∧
          (mixed.tree.look place = t.look place ∨
            t.look place = none ∧ mixed.tree.look place = some .directory)) := by
  have hmixed := run_consistent hn hapart steps
  have hordered := run_consistent hn hapart (oneByOne order steps)
  simp only [own_oneByOne hnodup hall] at hordered
  refine ⟨hmixed.stage_eq hordered, hmixed.look_eq hordered, fun i texts => ?_⟩
  have halike := hmixed.alike i
  have hlook := halike.looks _ (mem_spots_target (target i))
  constructor
  · intro hown outcome hresult
    rw [halike.level.result?_eq, hown] at hresult
    rw [bytes?_congr hlook, hown]
    exact bytes?_of_closed hn hresult
  · intro hown
    rw [hown] at hlook
    rcases (spared_of_dropped hn (target i) texts).congr hlook with hsame | ⟨hnone, hdir, hway⟩
    · exact ⟨fun _ => hsame, .inl hsame⟩
    · exact ⟨absurd hway, .inr ⟨look_eq_none.2 hnone, hdir⟩⟩

/-- Two headers of one directory. -/
def headers : Bool → String
  | false => "gen/a.hpp"
  | true => "gen/b.hpp"

/-- The second header is there already. -/
def earlier : FileTree := (({} : FileTree).writeFile "gen/b.hpp" "int c;".toUTF8).1

/-- The first header is written while the second is begun and dropped. -/
def mixedHeaders : List (Bool × Action) := [(false, .open), (true, .open),
  (false, .append "int a".toUTF8), (true, .append "int b;".toUTF8), (true, .drop),
  (false, .append ";".toUTF8), (false, .close)]

theorem run_mixedHeaders :
    earlier.Numbered ∧ (∀ i j, i ≠ j → Apart (headers i) (headers j)) ∧
      let mixed := run headers (begin earlier) mixedHeaders
      (mixed.stage false).result? = some (.ok .created) ∧
        mixed.tree.bytes? ["gen", "a.hpp"] = some "int a;".toUTF8 ∧
        mixed.tree.look ["gen", "b.hpp"] = some (.file 0 "int c;".toUTF8) ∧
        ∀ r, mixed.tree.look r =
          (run headers (begin earlier) (oneByOne [true, false] mixedHeaders)).tree.look r := by
  have hnumbered : earlier.Numbered := Numbered.empty.writeFile _ _
  have hapart : ∀ i j, i ≠ j → Apart (headers i) (headers j) := by decide +kernel
  have hnodup : [true, false].Nodup := by decide
  have hall : ∀ e ∈ mixedHeaders, e.1 ∈ [true, false] := by decide
  obtain ⟨-, hlook, hleft⟩ := run_oneByOne hnumbered hapart mixedHeaders hnodup hall
  have hresult : ((run headers (begin earlier) mixedHeaders).stage false).result? =
      some (.ok .created) := by decide +kernel
  refine ⟨hnumbered, hapart, hresult, ?_, ?_, hlook⟩
  · exact (hleft false ["int a".toUTF8, ";".toUTF8]).1 rfl .created hresult
  · exact ((hleft true ["int b;".toUTF8]).2 rfl).1 (by decide +kernel)

/-! ### Paths that lead up again -/

/-- No place of a target or of its temporary file is one of another's, above one or below one. -/
def Unrelated (a b : String) : Prop := ∀ p ∈ spots a, ∀ q ∈ spots b, ¬p <+: q ∧ ¬q <+: p

instance (a b : String) : Decidable (Unrelated a b) :=
  inferInstanceAs (Decidable (∀ p ∈ spots a, ∀ q ∈ spots b, ¬p <+: q ∧ ¬q <+: p))

/-- A path that never leads up leads through the places above it only. -/
theorem apart_of_unrelated {a b : String} (hb : ".." ∉ Path.above b) (h : Unrelated a b) :
    Apart a b := by
  intro r hr
  refine ⟨fun hspot => (h r hr r hspot).1 List.prefix_rfl, fun hway => ?_⟩
  refine (h r hr (tempPlace b) (mem_spots.2 (.inr rfl))).1 ?_
  rw [tempPlace, ofPath_tempOf]
  exact (Place.prefix_of_mem_route hb hway).trans (List.prefix_append _ _)

/-- Each path leads through the target of the other and up again. -/
def crossing : Bool → String
  | false => "b/../a"
  | true => "a/../b"

def crossed : List (Bool × Action) := [(false, .open), (true, .open),
  (false, .append "x".toUTF8), (true, .append "y".toUTF8), (false, .close), (true, .close)]

/-- The path leads through its own target. -/
def returning : Unit → String
  | () => "a/../a"

/-- Neither target lies above the other, but neither can be closed once both are open: each is now a
directory. One after the other, the first is created. And a handle whose path leads through its own
target does not leave it as it was when it is dropped: nothing was there, and a directory is. -/
theorem run_crossed :
    ((∀ i j, i ≠ j → Unrelated (crossing i) (crossing j)) ∧
      (∀ i, ({} : FileTree).entryAt? (tempPlace (crossing i)) = none) ∧
      (∀ i, ((run crossing (begin {}) crossed).stage i).result? =
        some (.error (.read (crossing i)))) ∧
      ∀ i, ((run crossing (begin {}) (oneByOne [i, !i] crossed)).stage i).result? =
        some (.ok .created)) ∧
    let dropped := run returning (begin {}) [((), .open), ((), .drop)]
    (∀ i j, i ≠ j → Unrelated (returning i) (returning j)) ∧
      (∀ i, ({} : FileTree).entryAt? (tempPlace (returning i)) = none) ∧
      ({} : FileTree).look (Place.ofPath (returning ())) = none ∧
      dropped.tree.look (Place.ofPath (returning ())) = some .directory := by
  refine ⟨⟨by decide +kernel, fun i => ?_, by decide +kernel, by decide +kernel⟩,
    fun _ _ hne => absurd rfl hne, fun i => ?_, ?_, ?_⟩
  · cases i <;> rfl
  · cases i
    rfl
  · rfl
  · exact look_eq_directory.2 rfl

end Bindery.OutputFile
