import QueryDispatch.Proofs.Board.Tally
import QueryDispatch.Proofs.Service.Cancellation

/-! # Calls that come back

  A call for a job comes back at once, or it waits and comes back when it goes
  on. It waits with a job of its own, which no other call waits with, and it
  goes on once. So as many calls have come back with a job as there are steps
  that were answered with one.
-/

namespace QueryDispatch

namespace Service

variable {s₀ s t : Service} {b b' : JobBoard} {store kept : Store} {l : Label} {a : Answer}
  {id : JobId} {job : Job} {now : Instant} {trace : List (Label × Answer)}

/-! ### What the steps of a trace say -/

/-- The job that a call begins to wait with in a step. -/
def waits? : Label × Answer → Option JobId
  | (_, .ok (.waits id)) => some id
  | _ => none

/-- The job that a call had waited with, when it comes back in a step. -/
def wentOn? : Label × Answer → Option JobId
  | (.proceed id _, .ok (.queued _)) => some id
  | _ => none

/-- Whether a call comes back with a job in the step in which it is made. -/
def backAtOnce : Label × Answer → Bool
  | (l, .ok (.queued _)) => l.newJob?.isSome
  | _ => false

/-- Whether some call comes back with a job in a step. -/
def comesBack (e : Label × Answer) : Bool := backAtOnce e || (wentOn? e).isSome

/-- Whether the step made a call that has come back with a job by the end of the trace. -/
def hasReturned (trace : List (Label × Answer)) (e : Label × Answer) : Bool :=
  backAtOnce e || (waits? e).any fun id => id ∈ trace.filterMap wentOn?

theorem waits?_eq_some_iff {e : Label × Answer} :
    waits? e = some id ↔ ∃ l, e = (l, .ok (.waits id)) := by
  unfold waits?
  split
  · simp
  · next hne =>
    simp only [reduceCtorEq, false_iff]
    rintro ⟨l, rfl⟩
    exact hne l id rfl

theorem wentOn?_eq_some_iff {e : Label × Answer} :
    wentOn? e = some id ↔ ∃ now job, e = (.proceed id now, .ok (.queued job)) := by
  unfold wentOn?
  split
  · simp
  · next hne =>
    simp only [reduceCtorEq, false_iff]
    rintro ⟨now, job, rfl⟩
    exact hne id now job rfl

/-! ### Waiting calls along a run -/

/-- No two calls wait with one job. -/
theorem Run.nodup_waits (hr : Run s₀ trace s) (h₀ : s₀.board.Sound) :
    (trace.filterMap waits?).Nodup := by
  induction hr with
  | start => exact List.nodup_nil
  | @step trace s t l a hr hf hs ih =>
    rw [List.filterMap_cons]
    cases hw : waits? (l, a) with
    | none => exact ih
    | some id =>
      refine List.nodup_cons.mpr ⟨?_, ih⟩
      intro hmem
      obtain ⟨l', he⟩ := waits?_eq_some_iff.mp hw
      obtain ⟨rfl, rfl⟩ := Prod.mk.injEq .. ▸ he
      -- the job of the new call is not on the board, and those of earlier ones are
      obtain ⟨r, now, hbrings, -⟩ := (step_change (hr.sound h₀) hf hs).waits_cases rfl
      obtain ⟨e, hearlier, hid⟩ := List.mem_filterMap.mp hmem
      obtain ⟨l'', rfl⟩ := waits?_eq_some_iff.mp hid
      obtain ⟨_, _, later, -, hlater, -⟩ := hr.find?_of_waits h₀ hearlier
      rw [hf.1 id hbrings.newJob?_eq] at hlater
      cases hlater

/-- The step ends the wait of the call that has this job. -/
def Label.Leaves (l : Label) (id : JobId) : Prop :=
  (∃ now, l = .proceed id now) ∨ ∃ now, l = .abandon id now

/-- A call waits until it goes on or is given up. -/
theorem Change.waiting_of_leaves (hc : Change b store l a b' kept) (hl : l.Leaves id) :
    ∃ x, b.waiting? id = some x ∧ b'.waiting = b.waiting.filter (·.job != id) := by
  -- each of the two steps takes the call off the board, whatever has become of its job
  rcases hl with ⟨now, rfl⟩ | ⟨now, rfl⟩
  · cases hc with
    | turnedAway ha => exact ⟨_, ha, rfl⟩
    | admitted ha => exact ⟨_, ha, rfl⟩
    | joined hb | refused hb | sent hb | held hb => cases hb
  · cases hc with
    | abandoned ha => exact ⟨_, ha, rfl⟩
    | abandonedLate ha => exact ⟨_, ha, rfl⟩
    | joined hb | refused hb | sent hb | held hb => cases hb

/-- A call that has ended its wait does not wait again. -/
theorem Run.not_waiting_of_left (hr : Run s₀ trace s) (h₀ : s₀.board.Sound)
    (hmem : (l, a) ∈ trace) (hl : l.Leaves id) :
    (∃ job, s.board.find? id = some job) ∧ ∀ x ∈ s.board.waiting, x.job ≠ id := by
  -- induction on the run: the job of the call is known, so no new call can get its identifier
  induction hr with
  | start => cases hmem
  | @step trace s t l' a' hr hf hs ih =>
    have h := hr.sound h₀
    have hc := step_change h hf hs
    rcases List.mem_cons.mp hmem with he | hold
    · obtain ⟨rfl, rfl⟩ := Prod.mk.injEq .. ▸ he
      obtain ⟨x, hx, hrest⟩ := hc.waiting_of_leaves hl
      obtain ⟨hxmem, rfl⟩ := JobBoard.mem_of_waiting? hx
      have hgone : ∀ y ∈ t.board.waiting, y.job ≠ x.job := by
        intro y hy
        rw [hrest] at hy
        simpa using (List.mem_filter.mp hy).2
      cases hjob : s.board.find? x.job with
      | none => exact absurd rfl (not_waiting_of_find?_eq_none h hjob hxmem)
      | some job =>
        obtain ⟨later, hlater, -⟩ := hc.job_step h hf.1 hjob
        exact ⟨⟨later, hlater⟩, hgone⟩
    · obtain ⟨⟨job, hjob⟩, hnot⟩ := ih hold
      obtain ⟨later, hlater, -⟩ := hc.job_step h hf.1 hjob
      refine ⟨⟨later, hlater⟩, ?_⟩
      intro y hy
      rcases hc.mem_waiting h hy with hbefore | ⟨hnew, -⟩
      · exact hnot y hbefore
      · rintro rfl
        rw [hf.1 _ hnew] at hjob
        cases hjob

/-- Nor can it end its wait a second time. -/
theorem Run.not_leaves_again (hr : Run s₀ trace s) (h₀ : s₀.board.Sound)
    (hmem : (l, a) ∈ trace) (hl : l.Leaves id) {l' : Label} {a' : Answer} (hf : Fresh s l')
    (hs : s.step? l' = some (a', t)) : ¬ l'.Leaves id := by
  intro hl'
  obtain ⟨-, hnot⟩ := hr.not_waiting_of_left h₀ hmem hl
  obtain ⟨x, hx, -⟩ := (step_change (hr.sound h₀) hf hs).waiting_of_leaves hl'
  obtain ⟨hxmem, hid⟩ := JobBoard.mem_of_waiting? hx
  exact hnot x hxmem hid

/-- A call ends its wait in one step. -/
theorem Run.eq_of_leaves (hr : Run s₀ trace s) (h₀ : s₀.board.Sound) {e e' : Label × Answer}
    (he : e ∈ trace) (he' : e' ∈ trace) (hl : e.1.Leaves id) (hl' : e'.1.Leaves id) :
    e = e' := by
  induction hr with
  | start => cases he
  | step hr hf hs ih =>
    rcases List.mem_cons.mp he with rfl | hold
    · rcases List.mem_cons.mp he' with rfl | hold'
      · rfl
      · exact absurd hl (hr.not_leaves_again h₀ hold' hl' hf hs)
    · rcases List.mem_cons.mp he' with rfl | hold'
      · exact absurd hl' (hr.not_leaves_again h₀ hold hl hf hs)
      · exact ih hold hold'

/-- A call goes on once. -/
theorem Run.nodup_wentOn (hr : Run s₀ trace s) (h₀ : s₀.board.Sound) :
    (trace.filterMap wentOn?).Nodup := by
  induction hr with
  | start => exact List.nodup_nil
  | @step trace s t l a hr hf hs ih =>
    rw [List.filterMap_cons]
    cases hw : wentOn? (l, a) with
    | none => exact ih
    | some id =>
      refine List.nodup_cons.mpr ⟨?_, ih⟩
      intro hmem
      obtain ⟨now, job, he⟩ := wentOn?_eq_some_iff.mp hw
      obtain ⟨rfl, rfl⟩ := Prod.mk.injEq .. ▸ he
      obtain ⟨e, hearlier, hid⟩ := List.mem_filterMap.mp hmem
      obtain ⟨now', job', rfl⟩ := wentOn?_eq_some_iff.mp hid
      exact hr.not_leaves_again h₀ hearlier (Or.inl ⟨now', rfl⟩) hf hs (Or.inl ⟨now, rfl⟩)

/-- A call that goes on began to wait before. -/
theorem Run.wentOn_subset (hr : Run s₀ trace s) (h₀ : s₀.board.Sound)
    (hempty : s₀.board.waiting = []) : trace.filterMap wentOn? ⊆ trace.filterMap waits? := by
  intro id hid
  obtain ⟨e, he, hwent⟩ := List.mem_filterMap.mp hid
  obtain ⟨now, job, rfl⟩ := wentOn?_eq_some_iff.mp hwent
  clear hid hwent
  induction hr with
  | start => cases he
  | @step trace s t l a hr hf hs ih =>
    have hlater : ∀ i, i ∈ trace.filterMap waits? → i ∈ ((l, a) :: trace).filterMap waits? := by
      intro i hi
      obtain ⟨e, hmem, hw⟩ := List.mem_filterMap.mp hi
      exact List.mem_filterMap.mpr ⟨e, List.mem_cons_of_mem _ hmem, hw⟩
    refine hlater id ?_
    rcases List.mem_cons.mp he with heq | hold
    · -- the call waits on the board before this step, so an earlier one put it there
      obtain ⟨rfl, rfl⟩ := Prod.mk.injEq .. ▸ heq
      obtain ⟨x, hx, -⟩ :=
        (step_change (hr.sound h₀) hf hs).waiting_of_leaves (Or.inl ⟨now, rfl⟩)
      obtain ⟨hxmem, rfl⟩ := JobBoard.mem_of_waiting? hx
      obtain ⟨creator, -, hmem⟩ := hr.waits_of_waiting h₀ hempty hxmem
      exact List.mem_filterMap.mpr ⟨_, hmem, rfl⟩
    · exact ih hold

/-! ### Counting -/

/-- Two tests that never hold together are counted apart. -/
theorem countP_or_of_disjoint {α : Type} {p q : α → Bool} (h : ∀ x, p x = true → q x = false)
    (l : List α) : l.countP (fun x => p x || q x) = l.countP p + l.countP q := by
  induction l with
  | nil => rfl
  | cons x xs ih =>
    have hx := h x
    simp only [List.countP_cons, ih]
    cases hp : p x <;> cases hq : q x <;> simp_all <;> omega

theorem waits?_eq_none_of_backAtOnce {e : Label × Answer} (h : backAtOnce e = true) :
    waits? e = none := by
  unfold backAtOnce at h
  split at h
  · rfl
  · cases h

theorem wentOn?_eq_none_of_backAtOnce {e : Label × Answer} (h : backAtOnce e = true) :
    wentOn? e = none := by
  cases hw : wentOn? e with
  | none => rfl
  | some id =>
    obtain ⟨now, job, rfl⟩ := wentOn?_eq_some_iff.mp hw
    cases h

/-- Calls that have come back are counted by the steps in which they were made, or by those in
    which they came back. -/
theorem Run.countP_hasReturned (hr : Run s₀ trace s) (h₀ : s₀.board.Sound)
    (hempty : s₀.board.waiting = []) :
    trace.countP (hasReturned trace) = trace.countP comesBack := by
  -- of the calls that waited, those that went on are as many as the steps in which one did
  have hwaited : trace.countP (fun e => (waits? e).any fun id => id ∈ trace.filterMap wentOn?) =
      trace.countP fun e => (wentOn? e).isSome := by
    have hcount := countP_mem_of_nodup (hr.nodup_waits h₀) (hr.nodup_wentOn h₀)
      (hr.wentOn_subset h₀ hempty)
    rw [List.countP_filterMap, List.length_filterMap_eq_countP] at hcount
    rw [← hcount]
    refine List.countP_congr ?_
    intro e he
    cases waits? e <;> rfl
  have hmade : trace.countP (hasReturned trace) = trace.countP backAtOnce +
      trace.countP fun e => (waits? e).any fun id => id ∈ trace.filterMap wentOn? := by
    refine countP_or_of_disjoint ?_ trace
    intro e he
    rw [waits?_eq_none_of_backAtOnce he]
    rfl
  have hback : trace.countP comesBack =
      trace.countP backAtOnce + trace.countP fun e => (wentOn? e).isSome := by
    refine countP_or_of_disjoint ?_ trace
    intro e he
    rw [wentOn?_eq_none_of_backAtOnce he]
    rfl
  rw [hmade, hback, hwaited]

/-- A call that never comes back with a job: it finds the queue closed when it is made or when it
    goes on, or it is given up while it waits. -/
inductive Unserved (trace : List (Label × Answer)) (e : Label × Answer) : Prop where
  | refused (ha : e.2 = .error .closed)
  | left {id : JobId} {l : Label} {a : Answer} (hw : waits? e = some id)
      (hmem : (l, a) ∈ trace) (hl : l.Leaves id) (ha : ∀ job, a ≠ .ok (.queued job))

theorem Run.not_hasReturned_of_unserved (hr : Run s₀ trace s) (h₀ : s₀.board.Sound)
    {e : Label × Answer} (he : Unserved trace e) : hasReturned trace e = false := by
  cases he with
  | refused ha =>
    obtain ⟨l, a⟩ := e
    obtain rfl : a = .error .closed := ha
    rfl
  | @left id l a hw hmem hl ha =>
    obtain ⟨caller, rfl⟩ := waits?_eq_some_iff.mp hw
    -- the wait has ended in a step that was not answered with a job, and it ended once
    have hnot : id ∉ trace.filterMap wentOn? := by
      intro hid
      obtain ⟨e', he', hwent⟩ := List.mem_filterMap.mp hid
      obtain ⟨now, job, rfl⟩ := wentOn?_eq_some_iff.mp hwent
      have heq := hr.eq_of_leaves h₀ he' hmem (Or.inl ⟨now, rfl⟩) hl
      exact ha job (Prod.mk.inj heq).2.symm
    show (false || decide (id ∈ trace.filterMap wentOn?)) = false
    rw [decide_eq_false hnot]
    rfl

end Service

end QueryDispatch
