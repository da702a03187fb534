import QueryDispatch.Runner.Pool

/-! # What the pool holds

  A runner that was got stays with its key. It is got again from there, and
  goes only when its data source is invalidated.
-/

namespace QueryDispatch.RunnerPool

variable {p q : RunnerPool} {s : DataSource} {held : HeldRunner} {runner : Runner}
  {e : RegistryError}

theorem get_of_held (h : p.held.find? s.runnerKey = some held) : p.get s = .ok (held, p) := by
  unfold get
  rw [h]

theorem get_of_none (h : p.held.find? s.runnerKey = none) :
    p.get s = (p.registry.build s.type s.options).map fun runner =>
      (⟨p.built + 1, runner⟩, { p with
        held := p.held.put s.runnerKey ⟨p.built + 1, runner⟩, built := p.built + 1 }) := by
  unfold get
  rw [h]
  cases p.registry.build s.type s.options <;> rfl

/-- What asking for a runner comes to: one is held, or it cannot be built, or it is built. -/
theorem get_cases (p : RunnerPool) (s : DataSource) :
    (∃ held, p.held.find? s.runnerKey = some held ∧ p.get s = .ok (held, p)) ∨
    (∃ e, p.registry.build s.type s.options = .error e ∧ p.held.find? s.runnerKey = none ∧
      p.get s = .error e) ∨
    ∃ runner, p.registry.build s.type s.options = .ok runner ∧
      p.held.find? s.runnerKey = none ∧
      p.get s = .ok (⟨p.built + 1, runner⟩, { p with
        held := p.held.put s.runnerKey ⟨p.built + 1, runner⟩, built := p.built + 1 }) := by
  cases hfind : p.held.find? s.runnerKey with
  | some held => exact .inl ⟨held, rfl, get_of_held hfind⟩
  | none =>
    have hget := get_of_none hfind
    cases hbuild : p.registry.build s.type s.options with
    | error e => exact .inr (.inl ⟨e, rfl, rfl, by rw [hget, hbuild]; rfl⟩)
    | ok runner => exact .inr (.inr ⟨runner, rfl, rfl, by rw [hget, hbuild]; rfl⟩)

theorem after_of_error (h : p.get s = .error e) : p.after s = p := by
  unfold after
  rw [h]

theorem after_eq (h : p.get s = .ok (held, q)) : p.after s = q := by
  unfold after
  rw [h]

/-- A runner that was got is held. -/
theorem find?_of_get (h : p.get s = .ok (held, q)) : q.held.find? s.runnerKey = some held := by
  rcases get_cases p s with ⟨other, hfind, hget⟩ | ⟨e, -, -, hget⟩ | ⟨runner, -, -, hget⟩
  · rw [hget] at h
    obtain ⟨rfl, rfl⟩ := Prod.mk.inj (Except.ok.inj h)
    exact hfind
  · rw [hget] at h
    cases h
  · rw [hget] at h
    obtain ⟨rfl, rfl⟩ := Prod.mk.inj (Except.ok.inj h)
    exact Assoc.find?_put_self _ _ _

/-- It is got again. -/
theorem get_after (h : p.get s = .ok (held, q)) : (p.after s).get s = .ok (held, q) := by
  rw [after_eq h]
  exact get_of_held (find?_of_get h)

/-- Where nothing could be built, nothing is held. -/
theorem find?_of_error (h : p.get s = .error e) : p.held.find? s.runnerKey = none := by
  rcases get_cases p s with ⟨held, -, hget⟩ | ⟨e', -, hnone, -⟩ | ⟨runner, -, hnone, -⟩
  · rw [hget] at h
    cases h
  · exact hnone
  · exact hnone

/-- Asking twice is asking once. -/
theorem after_after (p : RunnerPool) (s : DataSource) : (p.after s).after s = p.after s := by
  cases hget : p.get s with
  | error e =>
    rw [after_of_error hget, after_of_error hget]
  | ok answer => rw [after_eq (get_after hget), after_eq hget]

/-- The runners of other data sources are still held after an invalidation. -/
theorem find?_invalidate (p : RunnerPool) (id : SourceId) (key : RunnerKey) :
    (p.invalidate id).held.find? key =
      if key.source = id then none else p.held.find? key := by
  unfold invalidate
  dsimp only
  induction p.held with
  | nil => split <;> rfl
  | cons entry rest ih =>
    obtain ⟨k, held⟩ := entry
    by_cases hsource : k.source = id
    · rw [List.filter_cons_of_neg (by simpa using hsource), ih]
      by_cases hkey : k = key
      · rw [if_pos (hkey ▸ hsource), if_pos (hkey ▸ hsource)]
      · rw [Assoc.find?, if_neg hkey]
    · rw [List.filter_cons_of_pos (by simpa using hsource), Assoc.find?, ih, Assoc.find?]
      by_cases hkey : k = key
      · rw [if_pos hkey, if_pos hkey, if_neg (hkey ▸ hsource)]
      · rw [if_neg hkey, if_neg hkey]

end QueryDispatch.RunnerPool
