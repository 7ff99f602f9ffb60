import Bindery.FileTree

/-! What is at a place after a change.

`entryAt?` is all that paths and readings go by. Each change is described by what it does to it, and
by the numbers of files: no two places have one number, and the next is above them all
(`Numbered`). -/
namespace Bindery

namespace Entry

/-- An entry after a file with a number is written into. -/
def written (id offset : Nat) (bytes : ByteArray) : Entry → Entry
  | .directory => .directory
  | .file i old => .file i (if i = id then FileTree.overwritten old offset bytes else old)

end Entry

namespace FileTree
variable {t : FileTree} {p q : Place}

/-! ### Entries -/

theorem entryAt?_of_not_isBase (h : p.isBase = false) : t.entryAt? p = t.entries.lookup p := by
  rw [entryAt?, h, if_neg Bool.false_ne_true]

theorem isBase_of_file {id : Nat} {bytes : ByteArray} (h : t.entryAt? p = some (.file id bytes)) :
    p.isBase = false := by
  rw [← Bool.not_eq_true]
  intro hbase
  rw [entryAt?, if_pos hbase] at h
  cases h

theorem isBase_of_none (h : t.entryAt? p = none) : p.isBase = false := by
  rw [← Bool.not_eq_true]
  intro hbase
  rw [entryAt?, if_pos hbase] at h
  cases h

theorem isBase_of_not_directory (h : t.entryAt? p ≠ some .directory) : p.isBase = false := by
  rw [← Bool.not_eq_true]
  intro hbase
  exact h (by rw [entryAt?, if_pos hbase])

theorem ne_of_isBase (hp : p.isBase = false) (hq : q.isBase = true) : q ≠ p := by
  rintro rfl
  rw [hp] at hq
  cases hq

theorem mem_of_lookup {entries : List (Place × Entry)} {e : Entry}
    (h : entries.lookup p = some e) : (p, e) ∈ entries := by
  induction entries with
  | nil => cases h
  | cons first rest ih =>
    rw [List.lookup_cons] at h
    split at h
    · next heq =>
      cases h
      rw [eq_of_beq heq]
      exact List.mem_cons_self
    · exact List.mem_cons_of_mem _ (ih h)

theorem mem_of_file {id : Nat} {bytes : ByteArray} (h : t.entryAt? p = some (.file id bytes)) :
    (p, .file id bytes) ∈ t.entries := by
  rw [entryAt?_of_not_isBase (isBase_of_file h)] at h
  exact mem_of_lookup h

theorem lookup_filter_ne (entries : List (Place × Entry)) (p q : Place) :
    (entries.filter (·.1 ≠ p)).lookup q = if q = p then none else entries.lookup q := by
  induction entries with
  | nil => simp
  | cons first rest ih =>
    obtain ⟨r, e⟩ := first
    rw [List.filter_cons]
    by_cases hr : r = p
    · rw [if_neg (by simpa using hr), ih, List.lookup_cons]
      by_cases hq : q = p
      · rw [if_pos hq, if_pos hq]
      · rw [if_neg hq, if_neg hq, beq_false_of_ne (hr ▸ hq)]
    · rw [if_pos (by simpa using hr), List.lookup_cons, ih, List.lookup_cons]
      by_cases hqr : q = r
      · rw [hqr, beq_self_eq_true, if_neg hr, if_neg hr]
      · rw [beq_false_of_ne hqr]

/-- Nothing is taken away where nothing is. -/
theorem filter_ne_eq_self {entries : List (Place × Entry)} (h : entries.lookup p = none) :
    entries.filter (·.1 ≠ p) = entries := by
  rw [List.filter_eq_self]
  rintro ⟨r, e⟩ hmem
  rw [List.lookup_eq_none_iff] at h
  have hne : p ≠ r := by simpa using h _ hmem
  exact decide_eq_true hne.symm

theorem entryAt?_put (hp : p.isBase = false) (e : Entry) (q : Place) :
    (t.put p e).entryAt? q = if q = p then some e else t.entryAt? q := by
  by_cases hbase : q.isBase = true
  · rw [entryAt?, if_pos hbase, entryAt?, if_pos hbase, if_neg (ne_of_isBase hp hbase)]
  · rw [Bool.not_eq_true] at hbase
    rw [entryAt?_of_not_isBase hbase, entryAt?_of_not_isBase hbase, put, List.lookup_cons]
    by_cases hq : q = p
    · rw [if_pos hq, hq, beq_self_eq_true]
    · rw [if_neg hq, beq_false_of_ne hq, lookup_filter_ne, if_neg hq]

theorem entryAt?_erase (hp : p.isBase = false) (q : Place) :
    (t.erase p).entryAt? q = if q = p then none else t.entryAt? q := by
  by_cases hbase : q.isBase = true
  · rw [entryAt?, if_pos hbase, entryAt?, if_pos hbase, if_neg (ne_of_isBase hp hbase)]
  · rw [Bool.not_eq_true] at hbase
    rw [entryAt?_of_not_isBase hbase, entryAt?_of_not_isBase hbase, erase, lookup_filter_ne]

theorem erase_put (e : Entry) : (t.put p e).erase p = t.erase p := by
  simp [put, erase]

/-- Taking away a thing that is not there. -/
theorem erase_eq_self (h : t.entryAt? p = none) : t.erase p = t := by
  rw [entryAt?_of_not_isBase (isBase_of_none h)] at h
  rw [erase, filter_ne_eq_self h]

theorem writeAt_eq (id offset : Nat) (bytes : ByteArray) :
    t.writeAt id offset bytes =
      { t with entries := t.entries.map fun (r, e) => (r, e.written id offset bytes) } := by
  rw [writeAt]
  congr 1
  refine List.map_congr_left ?_
  rintro ⟨r, e⟩ -
  cases e with
  | directory => rfl
  | file i old =>
    by_cases hi : i = id
    · simp [Entry.written, hi]
    · simp [Entry.written, hi]

/-- Writing into a file changes only what is at its place, if no other has its number. -/
theorem writeAt_put {id : Nat} (hown : ∀ q b, (q, Entry.file id b) ∈ t.entries → q = p)
    (offset : Nat) (old bytes : ByteArray) :
    (t.put p (.file id old)).writeAt id offset bytes =
      t.put p (.file id (overwritten old offset bytes)) := by
  have hothers : (t.entries.filter (·.1 ≠ p)).map (fun (r, e) => (r, e.written id offset bytes)) =
      t.entries.filter (·.1 ≠ p) := by
    refine (List.map_congr_left ?_).trans (List.map_id _)
    rintro ⟨r, e⟩ hmem
    obtain ⟨hmem, hr⟩ := List.mem_filter.1 hmem
    cases e with
    | directory => rfl
    | file i b =>
      have hi : i ≠ id := by
        rintro rfl
        exact of_decide_eq_true hr (hown r b hmem)
      have hkept : (Entry.file i b).written id offset bytes = .file i b := by
        rw [Entry.written, if_neg hi]
      exact congrArg (Prod.mk r) hkept
  have hwritten : (Entry.file id old).written id offset bytes =
      .file id (overwritten old offset bytes) := by
    rw [Entry.written, if_pos rfl]
  rw [writeAt_eq, put, put, List.map_cons, hothers]
  dsimp only
  rw [hwritten]

/-- Writing from the end on adds to the bytes. -/
theorem overwritten_end (old bytes : ByteArray) :
    overwritten old old.size bytes = old ++ bytes := by
  have hgap : (ByteArray.mk (Array.replicate (old.size - old.size) 0) : ByteArray) = .empty := by
    rw [Nat.sub_self]
    rfl
  have hrest : old.extract (old.size + bytes.size) old.size = .empty := by
    rw [ByteArray.extract_eq_empty_iff]
    omega
  rw [overwritten, hgap, hrest, ByteArray.extract_zero_size, ByteArray.append_empty,
    ByteArray.append_empty]

/-! ### Paths that lead to a place -/

theorem find_of_place {path : String} {e : Entry} (hp : t.place path = .ok p)
    (he : t.entryAt? p = some e) : t.find path = .ok (p, e) := by
  simp only [find, hp, bind, Except.bind, he]

theorem find_of_none {path : String} (hp : t.place path = .ok p) (he : t.entryAt? p = none) :
    t.find path = .error .missing := by
  simp only [find, hp, bind, Except.bind, he]

theorem find_eq_ok {path : String} {e : Entry} :
    t.find path = .ok (p, e) ↔ t.place path = .ok p ∧ t.entryAt? p = some e := by
  refine ⟨fun h => ?_, fun h => find_of_place h.1 h.2⟩
  cases hplace : t.place path with
  | error r =>
    rw [find, hplace] at h
    cases h
  | ok q =>
    cases he : t.entryAt? q with
    | none =>
      rw [find_of_none hplace he] at h
      cases h
    | some e' =>
      rw [find_of_place hplace he] at h
      cases h
      exact ⟨rfl, he⟩

theorem read_of_place {path : String} (hp : t.place path = .ok p) :
    t.read path =
      match t.entryAt? p with
      | none => .error .missing
      | some .directory => .error .obstructed
      | some (.file _ bytes) => .ok bytes := by
  rw [FileTree.read]
  cases he : t.entryAt? p with
  | none => rw [find_of_none hp he]; rfl
  | some e =>
    rw [find_of_place hp he]
    cases e with
    | directory => rfl
    | file id bytes => rfl

theorem removeFile_of_none {path : String} (hp : t.place path = .ok p) (he : t.entryAt? p = none) :
    t.removeFile path = t := by
  rw [removeFile, find_of_none hp he]

theorem removeFile_of_file {path : String} {id : Nat} {bytes : ByteArray}
    (hp : t.place path = .ok p) (he : t.entryAt? p = some (.file id bytes)) :
    t.removeFile path = t.erase p := by
  rw [removeFile, find_of_place hp he]

theorem move_of_place {source target : String} {id : Nat} {bytes : ByteArray}
    (hq : t.place source = .ok q) (he : t.entryAt? q = some (.file id bytes))
    (hp : t.place target = .ok p) (hdir : t.entryAt? p ≠ some .directory) (hpq : p ≠ q) :
    t.move source target = .ok ((t.erase q).put p (.file id bytes)) := by
  simp only [move, find_of_place hq he, hp, bind, Except.bind, if_neg hpq.symm]

theorem place_of_read {path : String} {bytes : ByteArray} (h : t.read path = .ok bytes) :
    ∃ p, t.place path = .ok p := by
  rw [FileTree.read, find] at h
  cases hp : t.place path with
  | error r =>
    rw [hp] at h
    cases h
  | ok p => exact ⟨p, rfl⟩

theorem place_of_move {source path : String} {t' : FileTree} (h : t.move source path = .ok t') :
    ∃ p, t.place path = .ok p := by
  rw [move] at h
  cases hsource : t.find source with
  | error r =>
    rw [hsource] at h
    cases h
  | ok found =>
    cases hp : t.place path with
    | error r =>
      rw [hsource, hp] at h
      cases h
    | ok p => exact ⟨p, rfl⟩

/-! ### Numbers of files -/

/-- Every file has a number of its own below the next. -/
structure Numbered (t : FileTree) : Prop where
  below : ∀ p id bytes, (p, Entry.file id bytes) ∈ t.entries → id < t.fresh
  own : ∀ p q id b c, (p, Entry.file id b) ∈ t.entries → (q, Entry.file id c) ∈ t.entries → p = q

namespace Numbered

/-- No file, no number. -/
theorem empty : ({} : FileTree).Numbered where
  below _ _ _ h := nomatch h
  own _ _ _ _ _ h := nomatch h

/-- Entries may go. -/
theorem subset (h : t.Numbered) {es : List (Place × Entry)} (hsub : es ⊆ t.entries) :
    ({ t with entries := es }).Numbered where
  below q id bytes hmem := h.below q id bytes (hsub hmem)
  own q r id b c hb hc := h.own q r id b c (hsub hb) (hsub hc)

theorem erase (h : t.Numbered) (p : Place) : (t.erase p).Numbered :=
  h.subset (List.filter_sublist.subset)

theorem putDirectory (h : t.Numbered) (p : Place) : (t.put p .directory).Numbered where
  below q id bytes hmem := by
    rcases List.mem_cons.1 hmem with heq | hmem
    · cases heq
    · exact h.below q id bytes (List.mem_filter.1 hmem).1
  own q r id b c hb hc := by
    rcases List.mem_cons.1 hb with heq | hb
    · cases heq
    rcases List.mem_cons.1 hc with heq | hc
    · cases heq
    exact h.own q r id b c (List.mem_filter.1 hb).1 (List.mem_filter.1 hc).1

/-- A file may be put at a place if no other place has its number. -/
theorem putFile (h : t.Numbered) {id : Nat} (hid : id < t.fresh)
    (hown : ∀ q b, (q, Entry.file id b) ∈ t.entries → q = p) (bytes : ByteArray) :
    (t.put p (.file id bytes)).Numbered where
  below q i b hmem := by
    rcases List.mem_cons.1 hmem with heq | hmem
    · cases heq
      exact hid
    · exact h.below q i b (List.mem_filter.1 hmem).1
  own q r i b c hb hc := by
    rcases List.mem_cons.1 hb with heq | hb
    · cases heq
      rcases List.mem_cons.1 hc with heq' | hc
      · cases heq'
        rfl
      · exact (hown r c (List.mem_filter.1 hc).1).symm
    · rcases List.mem_cons.1 hc with heq | hc
      · cases heq
        exact hown q b (List.mem_filter.1 hb).1
      · exact h.own q r i b c (List.mem_filter.1 hb).1 (List.mem_filter.1 hc).1

/-- Numbers may be left out. -/
theorem skip (h : t.Numbered) {n : Nat} (hn : t.fresh ≤ n) : ({ t with fresh := n }).Numbered where
  below p id bytes hmem := Nat.lt_of_lt_of_le (h.below p id bytes hmem) hn
  own := h.own

theorem writeAt (h : t.Numbered) (id offset : Nat) (bytes : ByteArray) :
    (t.writeAt id offset bytes).Numbered := by
  have hold : ∀ p i b, (p, Entry.file i b) ∈ (t.writeAt id offset bytes).entries →
      ∃ b', (p, Entry.file i b') ∈ t.entries := by
    intro p i b hmem
    rw [writeAt_eq] at hmem
    obtain ⟨⟨r, e⟩, he, heq⟩ := List.mem_map.1 hmem
    cases e with
    | directory => cases heq
    | file j old =>
      cases heq
      exact ⟨old, he⟩
  refine ⟨fun p i b hmem => ?_, fun p q i b c hb hc => ?_⟩
  · obtain ⟨b', hb'⟩ := hold p i b hmem
    exact h.below p i b' hb'
  · obtain ⟨b', hb'⟩ := hold p i b hb
    obtain ⟨c', hc'⟩ := hold q i c hc
    exact h.own p q i b' c' hb' hc'

theorem createFile (h : t.Numbered) (path : String) : (t.createFile path).1.Numbered := by
  rw [FileTree.createFile]
  split
  · exact h
  · next p _ =>
    split
    · exact h
    · next hfile =>
      have hmem := mem_of_file hfile
      exact h.putFile (h.below p _ _ hmem) (fun q b hq => h.own q p _ _ _ hq hmem) _
    · refine (h.skip (Nat.le_succ t.fresh)).putFile (Nat.lt_succ_self _) (fun q b hq => ?_) _
      exact absurd (h.below q _ _ hq) (Nat.lt_irrefl _)

theorem move (h : t.Numbered) {source target : String} {t' : FileTree}
    (hmove : t.move source target = .ok t') : t'.Numbered := by
  rw [FileTree.move] at hmove
  cases hfind : t.find source with
  | error r =>
    rw [hfind] at hmove
    cases hmove
  | ok found =>
  obtain ⟨p, e⟩ := found
  have he := (find_eq_ok.1 hfind).2
  rw [hfind] at hmove
  cases hplace : t.place target with
  | error r =>
    rw [hplace] at hmove
    cases hmove
  | ok q =>
  rw [hplace] at hmove
  have hmoved : (if p = q then t else (t.erase p).put q e).Numbered := by
    split
    · exact h
    · cases e with
      | directory => exact (h.erase p).putDirectory q
      | file id bytes =>
        have hmem := mem_of_file he
        refine (h.erase p).putFile (h.below p id bytes hmem) (fun r b hr => ?_) bytes
        obtain ⟨hr, hne⟩ := List.mem_filter.1 hr
        exact absurd (h.own r p id _ _ hr hmem) (of_decide_eq_true hne)
  cases hq : t.entryAt? q with
  | none =>
    simp only [bind, Except.bind, hq] at hmove
    cases hmove
    exact hmoved
  | some e' =>
    cases e' with
    | directory =>
      simp only [bind, Except.bind, hq] at hmove
      cases hmove
    | file i b =>
      simp only [bind, Except.bind, hq] at hmove
      cases hmove
      exact hmoved

theorem removeFile (h : t.Numbered) (path : String) : (t.removeFile path).Numbered := by
  rw [FileTree.removeFile]
  split
  · exact h.erase _
  · exact h

theorem remove (h : t.Numbered) (path : String) : (t.remove path).Numbered := by
  rw [FileTree.remove]
  split
  · exact h.subset (List.filter_sublist.subset)
  · exact h

end Numbered
end FileTree
end Bindery
