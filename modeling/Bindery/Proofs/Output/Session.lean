import Bindery.Proofs.Output.Handle
import Mathlib.Logic.Function.Basic

/-! Handles that share a tree.

Each handle writes one target and goes from stage to stage (`act`). To a handle, two trees may
differ by directories on its way that it would otherwise make: whatever step it takes does the same
in both (`act_moves`). Another handle's steps make no more difference than that, as long as
neither's places are the other's or on the other's way (`Alike.other`). -/
namespace Bindery.OutputFile

open FileTree

/-! ### Steps -/

/-- A step of a handle. -/
inductive Action where
  | open
  | append (bytes : ByteArray)
  | close
  | drop

/-- How far a handle is. -/
inductive Stage where
  | idle
  | refused (fault : Fault)
  | writing (file : OutputFile)
  | closed (result : Except Fault Outcome)
  | dropped

namespace Stage

/-- A stage without the number of the temporary file. -/
def unnumbered : Stage → Stage
  | writing o => writing { o with id := 0 }
  | stage => stage

/-- What closing has reported. -/
def result? : Stage → Option (Except Fault Outcome)
  | closed result => some result
  | _ => none

end Stage

/-- A handle whose file is opened, if it can be. -/
def started : FileTree × Except Fault OutputFile → FileTree × Stage
  | (t, .ok o) => (t, .writing o)
  | (t, .error fault) => (t, .refused fault)

/-- What a step of a handle does to the tree and to its stage. A step that does not fit the stage
does nothing. -/
def act (target : String) : FileTree × Stage → Action → FileTree × Stage
  | (t, .idle), .open => started (OutputFile.open t target)
  | (t, .writing o), .append bytes => ((append t o bytes).1, .writing (append t o bytes).2)
  | (t, .writing o), .close => ((close t o).1, .closed (close t o).2)
  | (t, .writing o), .drop => (drop t o, .dropped)
  | (t, stage), _ => (t, stage)

/-- A handle that takes its steps alone. -/
def alone (target : String) (t : FileTree) (actions : List Action) : FileTree × Stage :=
  actions.foldl (act target) (t, .idle)

/-- A tree and the handles that share it. -/
structure Session (ι : Type) where
  tree : FileTree
  stage : ι → Stage

section Run
variable {ι : Type}

/-- No handle has taken a step. -/
def begin (t : FileTree) : Session ι := ⟨t, fun _ => .idle⟩

variable [DecidableEq ι]

/-- A step of one of the handles. -/
def step (target : ι → String) (s : Session ι) (e : ι × Action) : Session ι :=
  let after := act (target e.1) (s.tree, s.stage e.1) e.2
  ⟨after.1, Function.update s.stage e.1 after.2⟩

def run (target : ι → String) (s : Session ι) (steps : List (ι × Action)) : Session ι :=
  steps.foldl (step target) s

/-- The steps of one handle. -/
def own (i : ι) (steps : List (ι × Action)) : List Action :=
  (steps.filter (·.1 = i)).map Prod.snd

/-- The same steps, one handle after the other. -/
def oneByOne (order : List ι) (steps : List (ι × Action)) : List (ι × Action) :=
  order.flatMap fun i => (own i steps).map (i, ·)

end Run

/-! ### A handle in two trees -/

/-- A handle is equally far in two trees. -/
inductive Level (target : String) (s u : FileTree) : Stage → Stage → Prop
  | idle : Level target s u .idle .idle
  | refused (fault : Fault) : Level target s u (.refused fault) (.refused fault)
  | writing {o o' : OutputFile} {flushed : ByteArray} (h : Writing s target o flushed)
      (h' : Writing u target o' flushed) (hpending : o.pending = o'.pending) :
      Level target s u (.writing o) (.writing o')
  | closed (result : Except Fault Outcome) : Level target s u (.closed result) (.closed result)
  | dropped : Level target s u .dropped .dropped

theorem Level.unnumbered {target : String} {s u : FileTree} {a b : Stage}
    (h : Level target s u a b) : a.unnumbered = b.unnumbered := by
  cases h with
  | idle => rfl
  | refused fault => rfl
  | writing h h' hpending =>
    rw [Stage.unnumbered, Stage.unnumbered, h.aim, h'.aim, h.offset, h'.offset, hpending]
  | closed result => rfl
  | dropped => rfl

theorem Level.result?_eq {target : String} {s u : FileTree} {a b : Stage}
    (h : Level target s u a b) : a.result? = b.result? := by
  cases h <;> rfl

/-- To a handle, two trees are the same but for directories on its way. -/
structure Alike (target : String) (s u : FileTree × Stage) : Prop where
  numbered : s.1.Numbered
  numbered' : u.1.Numbered
  level : Level target s.1 u.1 s.2 u.2
  looks : ∀ r ∈ spots target, s.1.look r = u.1.look r
  ahead : ∀ d ∈ way target, Ahead s.1 u.1 d

/-- A handle takes a step in two trees. -/
structure Moves (target : String) (s u s' u' : FileTree × Stage) : Prop where
  numbered : s'.1.Numbered
  numbered' : u'.1.Numbered
  level : Level target s'.1 u'.1 s'.2 u'.2
  looks : ∀ r ∈ spots target, s'.1.look r = u'.1.look r
  inStep : ∀ r, r ∉ spots target → InStep s.1 u.1 s'.1 u'.1 r
  /-- Directories are made on the way, and nothing else changes at other places. -/
  others : ∀ r, r ∉ spots target → s'.1.entryAt? r = s.1.entryAt? r ∨
    s.1.entryAt? r = none ∧ s'.1.entryAt? r = some .directory ∧ r ∈ way target

section Steps
variable {target : String} {s u s' u' : FileTree × Stage}

theorem Moves.alike (h : Alike target s u) (m : Moves target s u s' u') : Alike target s' u' where
  numbered := m.numbered
  numbered' := m.numbered'
  level := m.level
  looks := m.looks
  ahead d hd := by
    by_cases hspot : d ∈ spots target
    · exact .inl (m.looks d hspot)
    · exact (m.inStep d hspot).ahead (h.ahead d hd)

theorem Moves.refl (h : Alike target s u) : Moves target s u s u where
  numbered := h.numbered
  numbered' := h.numbered'
  level := h.level
  looks := h.looks
  inStep r _ := .refl _ _ r
  others _ _ := .inl rfl

theorem act_open (target : String) (t : FileTree) :
    act target (t, .idle) .open = started (OutputFile.open t target) := rfl

/-- After the same directories, the temporary file is made in both trees. -/
theorem Moves.of_staged {s u made made' : FileTree} {reached : Stage}
    (hlooks : ∀ r ∈ spots target, s.look r = u.look r)
    (hnumbered : made.Numbered) (hnumbered' : made'.Numbered)
    (hfree : Free made target) (hfree' : Free made' target)
    (hplaces : ∀ r, InStep s u made made' r) (hgrown : Grown s made (way target)) :
    Moves target (s, reached) (u, reached)
      (staged made (tempPlace target) .empty,
        .writing { target, id := made.numberAt (tempPlace target) })
      (staged made' (tempPlace target) .empty,
        .writing { target, id := made'.numberAt (tempPlace target) }) := by
  have hstaged : ∀ {t : FileTree}, Free t target → ∀ r, r ≠ tempPlace target →
      (staged t (tempPlace target) .empty).entryAt? r = t.entryAt? r := fun hfree r hr =>
    (entryAt?_staged (isBase_of_not_directory hfree.2) _ r).trans (if_neg hr)
  have hwriting := staged_writing hnumbered hfree
  have hwriting' := staged_writing hnumbered' hfree'
  refine ⟨hwriting.numbered, hwriting'.numbered, .writing hwriting hwriting' rfl, ?_, ?_, ?_⟩
  · intro r hr
    by_cases htemp : r = tempPlace target
    · rw [htemp, look_of_file hwriting.holds, look_of_file hwriting'.holds]
    · rw [look_congr (hstaged hfree r htemp), look_congr (hstaged hfree' r htemp)]
      exact (hplaces r).look (hlooks r hr)
  · intro r hr
    have htemp := ne_tempPlace hr
    rw [InStep, hstaged hfree r htemp, hstaged hfree' r htemp]
    exact hplaces r
  · intro r hr
    rw [hstaged hfree r (ne_tempPlace hr)]
    exact hgrown.entryAt? r

/-- Opening makes the same directories in both trees, and the temporary file in both or in
neither. -/
theorem act_open_moves {s u : FileTree} (h : Alike target (s, .idle) (u, .idle)) :
    Moves target (s, .idle) (u, .idle) (act target (s, .idle) .open)
      (act target (u, .idle) .open) := by
  obtain ⟨hresult, hplaces⟩ := prepare_ahead h.ahead
  have hgrown := prepare_grown s target
  have hnumbered := hgrown.numbered h.numbered
  have hnumbered' := (prepare_grown u target).numbered h.numbered'
  have hfree := free_iff h.ahead h.looks
  cases hs : prepare s target with
  | mk made prepared =>
  cases hu : prepare u target with
  | mk made' prepared' =>
  rw [hs, hu] at hresult hplaces hfree
  rw [hs] at hgrown hnumbered
  rw [hu] at hnumbered'
  dsimp only at hplaces hfree hgrown hnumbered hnumbered'
  obtain rfl : prepared = prepared' := hresult
  have hrefused : ∀ fault, Moves target (s, .idle) (u, .idle) (made, .refused fault)
      (made', .refused fault) := fun fault =>
    { numbered := hnumbered
      numbered' := hnumbered'
      level := .refused fault
      looks := fun r hr => (hplaces r).look (h.looks r hr)
      inStep := fun r _ => hplaces r
      others := fun r _ => hgrown.entryAt? r }
  cases prepared with
  | error fault =>
    rw [act_open, act_open, open_of_fault hs, open_of_fault hu]
    exact hrefused fault
  | ok _ =>
    by_cases hfree' : Free made' target
    · have hfree := (hfree rfl).2 hfree'
      rw [act_open, act_open, open_of_free hs hfree, open_of_free hu hfree']
      exact .of_staged h.looks hnumbered hnumbered' hfree hfree' hplaces hgrown
    · have hfree := mt (hfree rfl).1 hfree'
      rw [act_open, act_open, open_of_not_free hs hfree, open_of_not_free hu hfree']
      exact hrefused _

/-- A step that leaves all other places as they are. -/
theorem Moves.of_others (hnumbered : s'.1.Numbered) (hnumbered' : u'.1.Numbered)
    (hlevel : Level target s'.1 u'.1 s'.2 u'.2)
    (htarget : s'.1.look (Place.ofPath target) = u'.1.look (Place.ofPath target))
    (htemp : s'.1.look (tempPlace target) = u'.1.look (tempPlace target))
    (hs : ∀ r, r ∉ spots target → s'.1.entryAt? r = s.1.entryAt? r)
    (hu : ∀ r, r ∉ spots target → u'.1.entryAt? r = u.1.entryAt? r) :
    Moves target s u s' u' where
  numbered := hnumbered
  numbered' := hnumbered'
  level := hlevel
  looks r hr := by
    rcases mem_spots.1 hr with rfl | rfl
    · exact htarget
    · exact htemp
  inStep r hr := .inl ⟨hs r hr, hu r hr⟩
  others r hr := .inl (hs r hr)

theorem Moves.of_ends (hs : Ends s.1 target s'.1) (hu : Ends u.1 target u'.1)
    (hlevel : Level target s'.1 u'.1 s'.2 u'.2)
    (hlook : s'.1.look (Place.ofPath target) = u'.1.look (Place.ofPath target)) :
    Moves target s u s' u' := by
  refine .of_others hs.numbered hu.numbered hlevel hlook ?_ hs.others hu.others
  rw [look_eq_none.2 hs.gone, look_eq_none.2 hu.gone]

theorem mem_spots_target (target : String) : Place.ofPath target ∈ spots target :=
  List.mem_cons_self

/-- **A step does the same in both trees.** -/
theorem act_moves (h : Alike target s u) (action : Action) :
    Moves target s u (act target s action) (act target u action) := by
  obtain ⟨s, stage⟩ := s
  obtain ⟨u, stage'⟩ := u
  have hlook := h.looks _ (mem_spots_target target)
  cases h.level with
  | idle =>
    cases action with
    | «open» => exact act_open_moves h
    | append bytes => exact .refl h
    | close => exact .refl h
    | drop => exact .refl h
  | @writing o o' flushed hs hu hpending =>
    cases action with
    | «open» => exact .refl h
    | append bytes =>
      have hs' := append_advances hs bytes
      have hu' := append_advances hu bytes
      rw [← hpending] at hu'
      refine .of_others hs'.writing.numbered hu'.writing.numbered
        (.writing hs'.writing hu'.writing (hs'.pending.trans hu'.pending.symm))
        (hs'.look_target.trans (hlook.trans hu'.look_target.symm)) ?_
        (fun r hr => hs'.elsewhere hr) (fun r hr => hu'.elsewhere hr)
      dsimp only [act]
      rw [look_of_file hs'.writing.holds, look_of_file hu'.writing.holds]
    | close =>
      obtain ⟨hverdict, hends, hleft⟩ := close_ends hs
      obtain ⟨hverdict', hends', hleft'⟩ := close_ends hu
      have hlook : s.look _ = u.look _ := hlook
      rw [← hlook, ← hpending] at hverdict' hleft'
      refine .of_ends hends hends' ?_ (hleft.trans hleft'.symm)
      dsimp only [act]
      rw [hverdict, hverdict']
      exact .closed _
    | drop =>
      obtain ⟨hends, hleft⟩ := drop_ends hs
      obtain ⟨hends', hleft'⟩ := drop_ends hu
      exact .of_ends hends hends' .dropped
        ((look_congr hleft).trans (hlook.trans (look_congr hleft').symm))
  | refused fault => cases action <;> exact .refl h
  | closed result => cases action <;> exact .refl h
  | dropped => cases action <;> exact .refl h

end Steps

/-! ### Other handles -/

/-- No place of a target or of its temporary file is one of another's, or one that another's path
leads through. -/
def Apart (a b : String) : Prop := ∀ r ∈ spots a, r ∉ spots b ∧ r ∉ way b

instance (a b : String) : Decidable (Apart a b) :=
  inferInstanceAs (Decidable (∀ r ∈ spots a, r ∉ spots b ∧ r ∉ way b))

/-- A step of one handle makes no difference to another. -/
theorem Alike.other {a b : String} {s s' : FileTree} {stage : Stage} {u : FileTree × Stage}
    (h : Alike b (s, stage) u) (hn : s'.Numbered)
    (hothers : ∀ r, r ∉ spots a → s'.entryAt? r = s.entryAt? r ∨
      s.entryAt? r = none ∧ s'.entryAt? r = some .directory ∧ r ∈ way a)
    (hab : Apart a b) (hba : Apart b a) : Alike b (s', stage) u := by
  obtain ⟨u, stage'⟩ := u
  -- Nothing happens at the handle's own places, and on its way directories may be made.
  have hspots : ∀ r ∈ spots b, s'.entryAt? r = s.entryAt? r := fun r hr =>
    (hothers r (hba r hr).1).resolve_right fun hmade => (hba r hr).2 hmade.2.2
  have hway : ∀ d ∈ way b, s'.entryAt? d = s.entryAt? d ∨
      s.entryAt? d = none ∧ s'.entryAt? d = some .directory := fun d hd =>
    (hothers d fun hspot => (hab d hspot).2 hd).imp_right fun hmade => ⟨hmade.1, hmade.2.1⟩
  have hwriting : ∀ {o : OutputFile} {flushed : ByteArray}, Writing s b o flushed →
      Writing s' b o flushed := fun hw => by
    refine hw.kept hn (hspots _ (mem_spots.2 (.inr rfl))) fun d hd hdir => ?_
    rcases hway d hd with hsame | ⟨-, hdir'⟩
    · exact hsame.trans hdir
    · exact hdir'
  refine ⟨hn, h.numbered', ?_, fun r hr => (look_congr (hspots r hr)).trans (h.looks r hr), ?_⟩
  · cases h.level with
    | idle => exact .idle
    | refused fault => exact .refused fault
    | writing hs hu hpending => exact .writing (hwriting hs) hu hpending
    | closed result => exact .closed result
    | dropped => exact .dropped
  · intro d hd
    have hahead := h.ahead d hd
    rcases hway d hd with hsame | ⟨hnone, hdir⟩
    · rwa [Ahead, look_congr hsame, hsame]
    · rcases hahead with hlook | ⟨-, hdir'⟩
      · exact .inr ⟨look_eq_none.1 (hlook.symm.trans (look_eq_none.2 hnone)), hdir⟩
      · rw [hnone] at hdir'
        cases hdir'

end Bindery.OutputFile
