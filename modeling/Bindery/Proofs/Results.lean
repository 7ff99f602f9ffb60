import Mathlib.Data.List.Forall2

/-! Results taken apart.

Whatever can fail is put together from steps with `bind`, `map` and `mapM`. The whole gives a value
exactly when every step does, and the value is made from theirs. -/
namespace Bindery
variable {ε α β γ : Type}

/-! ### Lists side by side -/

/-- What stands on the right comes from something on the left. -/
theorem exists_of_mem_right {R : α → β → Prop} {xs : List α} {ys : List β}
    (h : List.Forall₂ R xs ys) {y : β} (hy : y ∈ ys) : ∃ x ∈ xs, R x y := by
  induction h with
  | nil => cases hy
  | cons hR _ ih =>
    rcases List.mem_cons.1 hy with rfl | hy
    · exact ⟨_, List.mem_cons_self, hR⟩
    · obtain ⟨x, hx, hRx⟩ := ih hy
      exact ⟨x, List.mem_cons_of_mem _ hx, hRx⟩

/-- What stands on the left has something on the right. -/
theorem exists_of_mem_left {R : α → β → Prop} {xs : List α} {ys : List β}
    (h : List.Forall₂ R xs ys) {x : α} (hx : x ∈ xs) : ∃ y ∈ ys, R x y :=
  exists_of_mem_right (List.Forall₂.flip h) hx

/-- What is said of the members side by side is said in the same order. -/
theorem map_eq_of_forall₂ {g : α → γ} {g' : β → γ} {xs : List α} {ys : List β}
    (h : List.Forall₂ (fun x y => g' y = g x) xs ys) : ys.map g' = xs.map g := by
  induction h with
  | nil => rfl
  | cons hxy _ ih => rw [List.map_cons, List.map_cons, hxy, ih]

/-- Members that are made from those beside them. -/
theorem eq_map_of_forall₂ {g : α → β} {xs : List α} {ys : List β}
    (h : List.Forall₂ (fun x y => y = g x) xs ys) : ys = xs.map g := by
  rw [← List.map_id ys]
  exact map_eq_of_forall₂ h

/-- What is the same of each member is the same of the list. -/
theorem mapM_congr_left {f g : α → Except ε β} {xs : List α} (h : ∀ x ∈ xs, f x = g x) :
    xs.mapM f = xs.mapM g := by
  induction xs with
  | nil => rfl
  | cons x rest ih =>
    rw [List.forall_mem_cons] at h
    rw [List.mapM_cons, List.mapM_cons, h.1, ih h.2]

/-! ### Results that are a given value -/

theorem bind_eq_ok {x : Except ε α} {f : α → Except ε β} {b : β} :
    x >>= f = .ok b ↔ ∃ a, x = .ok a ∧ f a = .ok b := by
  cases x with
  | error e => exact iff_of_false nofun nofun
  | ok a =>
    constructor
    · exact fun h => ⟨a, rfl, h⟩
    · rintro ⟨_, heq, h⟩
      cases heq
      exact h

theorem map_eq_ok {x : Except ε α} {f : α → β} {b : β} :
    x.map f = .ok b ↔ ∃ a, x = .ok a ∧ f a = b := by
  cases x with
  | error e => exact iff_of_false nofun nofun
  | ok a => simp [Except.map]

theorem mapError_eq_ok {ε' : Type} {x : Except ε α} {f : ε → ε'} {a : α} :
    x.mapError f = .ok a ↔ x = .ok a := by
  cases x with
  | error e => exact iff_of_false nofun nofun
  | ok a' => simp [Except.mapError]

theorem toOption_map (x : Except ε α) (f : α → β) : (x.map f).toOption = x.toOption.map f := by
  cases x <;> rfl

/-- Whether two results are the same can be computed from their values. -/
theorem eq_ok_of_toOption {x : Except ε α} {a : α} (h : x.toOption = some a) :
    x = .ok a := by
  cases x with
  | error e => cases h
  | ok b =>
    cases h
    rfl

/-- The members of a list give values one by one. -/
theorem mapM_eq_ok {f : α → Except ε β} {xs : List α} {ys : List β} :
    xs.mapM f = .ok ys ↔ List.Forall₂ (fun x y => f x = .ok y) xs ys := by
  induction xs generalizing ys with
  | nil => cases ys <;> simp [pure, Except.pure]
  | cons x rest ih =>
    rw [List.mapM_cons, bind_eq_ok, List.forall₂_cons_left_iff]
    simp only [bind_eq_ok, ih, pure, Except.pure, Except.ok.injEq]
    constructor
    · rintro ⟨y, hy, zs, hzs, rfl⟩
      exact ⟨y, zs, hy, hzs, rfl⟩
    · rintro ⟨y, zs, hy, hzs, rfl⟩
      exact ⟨y, hy, zs, hzs, rfl⟩

/-- Members that are known to give values give those. -/
theorem mapM_eq_map {f : α → Except ε β} {g : α → β} {xs : List α}
    (h : ∀ x ∈ xs, f x = .ok (g x)) : xs.mapM f = .ok (xs.map g) :=
  mapM_eq_ok.2 (List.forall₂_map_right_iff.2 (List.forall₂_same.2 h))

/-- What is said of every value is said of them in the same order. -/
theorem map_eq_of_mapM {f : α → Except ε β} {g : α → γ} {g' : β → γ}
    (h : ∀ x y, f x = .ok y → g' y = g x) {xs : List α} {ys : List β} (hys : xs.mapM f = .ok ys) :
    ys.map g' = xs.map g :=
  map_eq_of_forall₂ ((mapM_eq_ok.1 hys).imp h)

/-! ### Results that are errors -/

theorem bind_eq_error {x : Except ε α} {f : α → Except ε β} {e : ε} :
    x >>= f = .error e ↔ x = .error e ∨ ∃ a, x = .ok a ∧ f a = .error e := by
  cases x with
  | error e' => simp [bind, Except.bind]
  | ok a => simp [bind, Except.bind]

theorem map_eq_error {x : Except ε α} {f : α → β} {e : ε} :
    x.map f = .error e ↔ x = .error e := by
  cases x <;> simp [Except.map]

theorem mapError_eq_error {ε' : Type} {x : Except ε α} {f : ε → ε'} {e : ε'} :
    x.mapError f = .error e ↔ ∃ e', x = .error e' ∧ f e' = e := by
  cases x <;> simp [Except.mapError]

/-- The first member of a list that gives an error decides. -/
theorem mapM_eq_error {f : α → Except ε β} {xs : List α} {e : ε} :
    xs.mapM f = .error e ↔ ∃ before x after, xs = before ++ x :: after ∧
      (∀ y ∈ before, ∃ b, f y = .ok b) ∧ f x = .error e := by
  induction xs with
  | nil => exact iff_of_false nofun (by simp)
  | cons x rest ih =>
    rw [List.mapM_cons, bind_eq_error]
    simp only [bind_eq_error, ih]
    constructor
    · rintro (hx | ⟨b, hb, ⟨before, y, after, rfl, hbefore, hy⟩ | ⟨_, _, h⟩⟩)
      · exact ⟨[], x, rest, rfl, nofun, hx⟩
      · exact ⟨x :: before, y, after, rfl, List.forall_mem_cons.2 ⟨⟨b, hb⟩, hbefore⟩, hy⟩
      · cases h
    · rintro ⟨before, y, after, heq, hbefore, hy⟩
      cases before with
      | nil =>
        cases heq
        exact .inl hy
      | cons z before =>
        cases heq
        obtain ⟨⟨b, hb⟩, hbefore⟩ := List.forall_mem_cons.1 hbefore
        exact .inr ⟨b, hb, .inl ⟨before, y, after, rfl, hbefore, hy⟩⟩

/-! ### Results that are values -/

theorem exists_bind_ok {x : Except ε α} {f : α → Except ε β} {a : α} (hx : x = .ok a)
    (hf : ∃ b, f a = .ok b) : ∃ b, x >>= f = .ok b := by
  obtain ⟨b, hb⟩ := hf
  exact ⟨b, bind_eq_ok.2 ⟨a, hx, hb⟩⟩

theorem exists_bind {x : Except ε α} {f : α → Except ε β} (hx : ∃ a, x = .ok a)
    (hf : ∀ a, x = .ok a → ∃ b, f a = .ok b) : ∃ b, x >>= f = .ok b := by
  obtain ⟨a, ha⟩ := hx
  exact exists_bind_ok ha (hf a ha)

theorem exists_map {x : Except ε α} (hx : ∃ a, x = .ok a) (f : α → β) : ∃ b, x.map f = .ok b := by
  obtain ⟨a, rfl⟩ := hx
  exact ⟨f a, rfl⟩

theorem exists_mapError {ε' : Type} {x : Except ε α} (hx : ∃ a, x = .ok a) (f : ε → ε') :
    ∃ a, x.mapError f = .ok a := by
  obtain ⟨a, rfl⟩ := hx
  exact ⟨a, rfl⟩

/-- Members that all give values give them in the same order. -/
theorem exists_mapM_forall₂ {f : α → Except ε β} {R : α → β → Prop} {xs : List α}
    (h : ∀ x ∈ xs, ∃ y, f x = .ok y ∧ R x y) :
    ∃ ys, xs.mapM f = .ok ys ∧ List.Forall₂ R xs ys := by
  induction xs with
  | nil => exact ⟨[], rfl, .nil⟩
  | cons x rest ih =>
    obtain ⟨y, hy, hR⟩ := h x List.mem_cons_self
    obtain ⟨ys, hys, hRs⟩ := ih fun x' hx' => h x' (List.mem_cons_of_mem _ hx')
    exact ⟨y :: ys, by rw [List.mapM_cons, hy, hys]; rfl, .cons hR hRs⟩

theorem exists_mapM {f : α → Except ε β} {xs : List α} (h : ∀ x ∈ xs, ∃ y, f x = .ok y) :
    ∃ ys, xs.mapM f = .ok ys := by
  obtain ⟨ys, hys, -⟩ := exists_mapM_forall₂ (R := fun _ _ => True) fun x hx =>
    (h x hx).imp fun _ hy => ⟨hy, trivial⟩
  exact ⟨ys, hys⟩

/-- The members of a list give values when each does. -/
theorem exists_mapM_iff {f : α → Except ε β} {xs : List α} :
    (∃ ys, xs.mapM f = .ok ys) ↔ ∀ x ∈ xs, ∃ y, f x = .ok y := by
  refine ⟨?_, exists_mapM⟩
  rintro ⟨ys, hys⟩ x hx
  obtain ⟨y, -, hy⟩ := exists_of_mem_left (mapM_eq_ok.1 hys) hx
  exact ⟨y, hy⟩

/-! ### Lists of results -/

/-- A list of results that are all values. -/
theorem mapM_id_eq_ok {results : List (Except ε α)} {xs : List α} :
    results.mapM id = .ok xs ↔ results = xs.map .ok := by
  rw [mapM_eq_ok]
  constructor
  · intro h
    have heq : xs.map .ok = results.map id := map_eq_of_forall₂ (h.imp fun _ _ hx => hx.symm)
    rw [heq, List.map_id]
  · rintro rfl
    rw [List.forall₂_map_left_iff]
    exact List.forall₂_same.2 fun _ _ => rfl

/-- A list of results whose first error is a given one. -/
theorem mapM_id_eq_error {results : List (Except ε α)} {e : ε} :
    results.mapM id = .error e ↔
      ∃ (xs : List α) (rest : List (Except ε α)), results = xs.map .ok ++ .error e :: rest := by
  rw [mapM_eq_error]
  constructor
  · rintro ⟨before, x, rest, rfl, hbefore, rfl⟩
    obtain ⟨xs, hxs⟩ := exists_mapM hbefore
    exact ⟨xs, rest, by rw [mapM_id_eq_ok.1 hxs]⟩
  · rintro ⟨xs, rest, rfl⟩
    refine ⟨_, _, rest, rfl, fun y hy => ?_, rfl⟩
    obtain ⟨x, -, rfl⟩ := List.mem_map.1 hy
    exact ⟨x, rfl⟩

/-- Members that give nothing may be left out before the others are looked at. -/
theorem mapM_filterMap {f : α → Except ε (Option β)} {g : α → Option (Except ε β)}
    (h : ∀ x, f x = (g x).elim (.ok none) (Except.map some)) (xs : List α) :
    (xs.mapM f).map (·.filterMap id) = (xs.filterMap g).mapM id := by
  induction xs with
  | nil => rfl
  | cons x rest ih =>
    rw [List.mapM_cons, h, List.filterMap_cons]
    cases g x with
    | none =>
      rw [← ih]
      cases rest.mapM f <;> rfl
    | some result =>
      rw [List.mapM_cons, ← ih]
      cases result with
      | error e => rfl
      | ok b => cases rest.mapM f <;> rfl

end Bindery
