import Mathlib.Data.List.Forall2

/-! # Chains of calls that may fail

  A chain comes to a value when all its calls do. It fails with the error of
  one of them.
-/

namespace QueryDispatch

section chains

variable {ε δ α β : Type} {x : Except ε α} {e : ε} {b : β}

/-- A chain of two calls comes to a value through the value of the first one. -/
theorem bind_eq_ok {f : α → Except ε β} : x.bind f = .ok b ↔ ∃ a, x = .ok a ∧ f a = .ok b := by
  cases x <;> simp [Except.bind]

theorem map_eq_ok {f : α → β} : x.map f = .ok b ↔ ∃ a, x = .ok a ∧ f a = b := by
  cases x <;> simp [Except.map]

theorem map_eq_error {f : α → β} : x.map f = .error e ↔ x = .error e := by
  cases x <;> simp [Except.map]

/-- A chain of two calls fails with the error of one of them. -/
theorem bind_eq_error {f : α → Except ε β} (h : x >>= f = .error e) :
    x = .error e ∨ ∃ a, x = .ok a ∧ f a = .error e := by
  cases x with
  | error e' =>
    have he : (Except.error e' : Except ε β) = .error e := h
    obtain rfl := Except.error.inj he
    exact Or.inl rfl
  | ok a => exact Or.inr ⟨a, rfl, h⟩

theorem mapError_eq_error {f : δ → ε} {y : Except δ α} (h : y.mapError f = .error e) :
    ∃ d, f d = e := by
  cases y with
  | error d => exact ⟨d, Except.error.inj h⟩
  | ok a => cases h

theorem mapError_eq_ok {f : δ → ε} {y : Except δ α} {a : α} :
    y.mapError f = .ok a ↔ y = .ok a := by
  cases y with
  | error d =>
    constructor
    · intro h
      cases h
    · intro h
      cases h
  | ok b =>
    constructor
    · intro h
      have hsame : (Except.ok b : Except ε α) = .ok a := h
      rw [Except.ok.inj hsame]
    · intro h
      rw [Except.ok.inj h]
      rfl

/-- A call comes to a value when it does so in other terms. -/
theorem exists_mapError_map_eq_ok {f : δ → ε} {g : α → β} {y : Except δ α} :
    (∃ b, (y.map g).mapError f = .ok b) ↔ ∃ a, y = .ok a := by
  simp only [mapError_eq_ok, map_eq_ok]
  constructor
  · rintro ⟨_, a, ha, -⟩
    exact ⟨a, ha⟩
  · rintro ⟨a, ha⟩
    exact ⟨g a, a, ha, rfl⟩

/-- A chain that starts with a check, whose error is put in other terms. -/
theorem mapError_bind_eq_ok {f : δ → ε} {check : Except δ Unit} {next : Unit → Except ε β} :
    (check.mapError f).bind next = .ok b ↔ check = .ok () ∧ next () = .ok b := by
  rw [bind_eq_ok]
  simp only [mapError_eq_ok]
  constructor
  · rintro ⟨⟨⟩, hcheck, hnext⟩
    exact ⟨hcheck, hnext⟩
  · rintro ⟨hcheck, hnext⟩
    exact ⟨(), hcheck, hnext⟩

/-- A call that gives something comes to it. -/
theorem eq_ok_of_toOption {a : α} (h : x.toOption = some a) : x = .ok a := by
  cases x with
  | error e => cases h
  | ok b => rw [Option.some.inj h]

/-- Calls made one after the other, the first one apart. -/
theorem mapM_cons_eq (f : α → Except ε β) (x : α) (rest : List α) :
    (x :: rest).mapM f = (f x).bind fun b => (rest.mapM f).map (b :: ·) := by
  rw [List.mapM_cons]
  cases f x with
  | error e => rfl
  | ok b => cases rest.mapM f <;> rfl

/-- Calls made one after the other all come to a value when each does by itself. -/
theorem exists_mapM_eq_ok {f : α → Except ε β} {xs : List α} :
    (∃ bs, xs.mapM f = .ok bs) ↔ ∀ x ∈ xs, ∃ b, f x = .ok b := by
  induction xs with
  | nil => simp [pure, Except.pure]
  | cons x rest ih =>
    rw [mapM_cons_eq, List.forall_mem_cons, ← ih]
    simp only [bind_eq_ok, map_eq_ok]
    constructor
    · rintro ⟨_, b, hb, bs, hbs, -⟩
      exact ⟨⟨b, hb⟩, bs, hbs⟩
    · rintro ⟨⟨b, hb⟩, bs, hbs⟩
      exact ⟨_, b, hb, bs, hbs, rfl⟩

/-- Calls made one after the other come to the values that they come to one by one. -/
theorem mapM_eq_ok_iff {f : α → Except ε β} {xs : List α} {bs : List β} :
    xs.mapM f = .ok bs ↔ List.Forall₂ (fun x b => f x = .ok b) xs bs := by
  -- the first call, and then the others by themselves
  induction xs generalizing bs with
  | nil =>
    rw [List.forall₂_nil_left_iff, List.mapM_nil]
    exact Except.ok.injEq [] bs ▸ eq_comm
  | cons x rest ih =>
    simp only [mapM_cons_eq, bind_eq_ok, map_eq_ok, ih, List.forall₂_cons_left_iff]
    constructor
    · rintro ⟨b, hb, rest, hrest, rfl⟩
      exact ⟨b, rest, hb, hrest, rfl⟩
    · rintro ⟨b, rest, hb, hrest, rfl⟩
      exact ⟨b, hb, rest, hrest, rfl⟩

/-- In lists that correspond one by one there is something at the same indices. -/
theorem getElem?_of_forall₂ {r : α → β → Prop} {xs : List α} {bs : List β}
    (h : List.Forall₂ r xs bs) {i : Nat} {a : α} (ha : xs[i]? = some a) :
    ∃ b, bs[i]? = some b ∧ r a b := by
  induction h generalizing i with
  | nil => cases ha
  | cons hfirst _ ih =>
    cases i with
    | zero =>
      obtain rfl := Option.some.inj ha
      exact ⟨_, rfl, hfirst⟩
    | succ i => exact ih ha

theorem getElem?_of_forall₂_right {r : α → β → Prop} {xs : List α} {bs : List β}
    (h : List.Forall₂ r xs bs) {i : Nat} (hb : bs[i]? = some b) : ∃ a, xs[i]? = some a ∧ r a b :=
  getElem?_of_forall₂ (List.Forall₂.flip h : List.Forall₂ (flip r) bs xs) hb

end chains

end QueryDispatch
