import QueryDispatch.Proofs.Service.CreatedJobs
import QueryDispatch.Proofs.Service.StoredResults
import QueryDispatch.Service.Schedule

/-! # What the schedule does

  The schedule makes one step after the other without a call from outside. Each
  step that it chooses can be made, takes something off what is left to be
  done, and uses an identifier of the supply for a result at most. So what it
  does is a run, and when it stops there is nothing left that the service could
  do by itself.
-/

namespace QueryDispatch

/-! ### Supplies -/

/-- How many identifiers there are. -/
def Uuid.total : Nat := 340282366920938463463374607431768211456

theorem Uuid.ofNat_add_ne {n k : Nat} (hpos : 0 < k) (hlt : k < total) :
    ofNat (n + k) ≠ ofNat n := by
  intro heq
  have hvalue := congrArg (fun u : Uuid => u.value.toNat) heq
  simp only [ofNat, BitVec.toNat_ofNat] at hvalue
  unfold total at hlt
  omega

/-- No result has one of the next `count` identifiers of the supply. -/
def Supply.Unused (u : Supply) (count : Nat) (records : Records) : Prop :=
  ∀ k < count, records.result? ⟨Uuid.ofNat (u.next + k)⟩ = none

namespace Service

variable {γ : Type} {s t : Service} {b b' : JobBoard} {store kept : Store} {network : Network}
  {pace : Pace γ} {means left : γ} {u : Supply} {l : Label} {a : Answer} {count : Nat}

/-! ### The steps that are chosen -/

/-- The steps that the service makes by itself, each where there is something to be done. -/
inductive Scheduled (s : Service) (u : Supply) : Label → Prop where
  | take {x : Assignment} {rest : List Assignment} (hqueue : s.board.queue = x :: rest)
      (hidle : s.board.hasIdleWorker = true) : Scheduled s u (.take u.now)
  | proceed {id : JobId} {x : Assignment} (hwaiting : s.board.waiting? id = some x)
      (hgo : s.board.closed = true ∨ s.board.hasRoom = true) : Scheduled s u (.proceed id u.now)
  | stop {id : JobId} {x : Assignment} (hrunning : s.board.running? id = some x)
      (hstops : s.stops id = true) : Scheduled s u (.stop id u.now)
  | finish {id : JobId} {c : Completion} {x : Assignment}
      (hrunning : s.board.running? id = some x) (hresult : c.result = u.result) :
      Scheduled s u (.finish id c)

theorem nextCall?_eq_some {id : JobId} (h : s.nextCall? = some id) :
    (s.board.closed = true ∨ s.board.hasRoom = true) ∧ ∃ x, s.board.waiting? id = some x := by
  unfold nextCall? at h
  split at h
  · next hgo =>
    refine ⟨by simpa using hgo, ?_⟩
    cases hwaiting : s.board.waiting with
    | nil => simp [hwaiting] at h
    | cons x rest =>
      obtain rfl : x.job = id := by simpa [hwaiting] using h
      exact ⟨x, by simp [JobBoard.waiting?, hwaiting]⟩
  · cases h

theorem nextStop?_eq_some {id : JobId} (h : s.nextStop? = some id) :
    s.stops id = true ∧ ∃ x, s.board.running? id = some x := by
  unfold nextStop? at h
  obtain ⟨x, hx, rfl⟩ := Option.map_eq_some_iff.mp h
  have hstops : s.stops x.job = true := by simpa using List.find?_some hx
  have hsome : (s.board.running? x.job).isSome = true :=
    List.find?_isSome.mpr ⟨x, List.mem_of_find?_eq_some hx, by simp⟩
  exact ⟨hstops, Option.isSome_iff_exists.mp hsome⟩

theorem nextEnd?_eq_some (h : s.nextEnd? network pace means u = some (l, left)) :
    s.Scheduled u l := by
  unfold nextEnd? at h
  obtain ⟨⟨id, rest⟩, -, h⟩ := Option.bind_eq_some_iff.mp h
  obtain ⟨x, hx, h⟩ := Option.bind_eq_some_iff.mp h
  obtain ⟨rfl, -⟩ := Prod.mk.injEq .. ▸ Option.some.inj h
  exact Scheduled.finish hx rfl

/-- Whatever is chosen is one of these steps. -/
theorem scheduled_of_nextLabel? (h : s.nextLabel? network pace means u = some (l, left)) :
    s.Scheduled u l := by
  unfold nextLabel? at h
  split at h
  · next hfree =>
    obtain ⟨rfl, -⟩ := Prod.mk.injEq .. ▸ Option.some.inj h
    obtain ⟨hqueue, hidle⟩ : s.board.queue.isEmpty = false ∧ s.board.hasIdleWorker = true := by
      simpa using hfree
    cases hcons : s.board.queue with
    | nil => simp [hcons] at hqueue
    | cons x rest => exact Scheduled.take hcons hidle
  · split at h
    · next id _ hcall =>
      obtain ⟨rfl, -⟩ := Prod.mk.injEq .. ▸ Option.some.inj h
      obtain ⟨hgo, x, hx⟩ := nextCall?_eq_some hcall
      exact Scheduled.proceed hx hgo
    · next id _ hstop =>
      obtain ⟨rfl, -⟩ := Prod.mk.injEq .. ▸ Option.some.inj h
      obtain ⟨hstops, x, hx⟩ := nextStop?_eq_some hstop
      exact Scheduled.stop hx hstops
    · exact nextEnd?_eq_some h

namespace Scheduled

theorem newJob?_eq (h : s.Scheduled u l) : l.newJob? = none := by
  cases h <;> rfl

/-- The identifier for a result is the one of the supply. -/
theorem fresh (h : s.Scheduled u l) (hu : s.store.records.result? u.result = none) :
    Fresh s l := by
  refine ⟨fun id hid => ?_, fun id hid => ?_⟩
  · rw [h.newJob?_eq] at hid
    cases hid
  · cases h with
    | finish hrunning hresult =>
      obtain rfl := Option.some.inj hid
      rw [hresult]
      exact hu
    | _ => cases hid

/-- A chosen step can be made. -/
theorem enabled (h : s.Scheduled u l) (hs : s.board.Sound) :
    ∃ a t, s.step? l = some (a, t) := by
  have hmake : ∀ {a b kept}, Change s.board s.store l a b kept →
      (∀ q id now, l ≠ .request q id now) → ∃ a t, s.step? l = some (a, t) := by
    intro a b kept hc hq
    obtain ⟨t, ht, -⟩ := hc.enabled hs (by simp [h.newJob?_eq]) hq
    exact ⟨a, t, ht⟩
  cases h with
  | @take x rest hqueue hidle =>
    cases hj : s.board.active.find? x.job with
    | none => exact hmake (Change.skipped hidle hqueue hj) (by simp)
    | some job => exact hmake (Change.started hidle hqueue hj (queued_of_head hs hqueue hj)) (by simp)
  | @proceed id x hwaiting hgo =>
    cases hc : s.board.closed with
    | true => exact hmake (Change.turnedAway hwaiting hc) (by simp)
    | false =>
      have hroom : s.board.hasRoom = true := by simpa [hc] using hgo
      obtain ⟨hmem, rfl⟩ := JobBoard.mem_of_waiting? hwaiting
      obtain ⟨job, hj, -⟩ := hs.assigned x
        (JobBoard.mem_assignments.mpr (Or.inl (JobBoard.mem_pending.mpr (Or.inr hmem))))
      exact hmake (Change.admitted hwaiting hc hroom hj) (by simp)
  | @stop id x hrunning hstops =>
    -- a cancelled job has ended, and is not active any more
    obtain ⟨job, hj, hcancelled⟩ : ∃ job, s.board.find? id = some job ∧ job.status = .cancelled := by
      simpa [stops, Option.any_eq_true] using hstops
    have hactive := hs.not_active_of_ended hj (by rw [hcancelled]; rfl)
    exact hmake (Change.stopped hrunning hactive) (by simp)
  | @finish id c x hrunning hresult =>
    have hsome : (s.step? (.finish id c)).isSome = true := by
      simp [step?, JobBoard.finish?, hrunning]
    obtain ⟨⟨a, t⟩, ht⟩ := Option.isSome_iff_exists.mp hsome
    exact ⟨a, t, ht⟩

end Scheduled

/-! ### What is left to be done -/

/-- One assignment at least goes with its job. -/
theorem length_without_lt {held : List Assignment} {x : Assignment} (h : x ∈ held) :
    (held.filter (·.job != x.job)).length < held.length :=
  List.length_filter_lt_length_iff_exists.mpr ⟨x, h, by simp⟩

theorem stepsLeft_withoutWaiting {id : JobId} {x : Assignment} (h : b.waiting? id = some x) :
    (b.withoutWaiting id).stepsLeft + 3 ≤ b.stepsLeft := by
  obtain ⟨hmem, rfl⟩ := JobBoard.mem_of_waiting? h
  have hlt : (b.withoutWaiting x.job).waiting.length < b.waiting.length := length_without_lt hmem
  show 3 * _ + 2 * b.queue.length + b.running.length + 3 ≤ _
  unfold JobBoard.stepsLeft
  omega

theorem stepsLeft_withoutRunning {id : JobId} {x : Assignment} (h : b.running? id = some x) :
    (b.withoutRunning id).stepsLeft < b.stepsLeft := by
  obtain ⟨hmem, rfl⟩ := JobBoard.mem_of_running? h
  have hlt : (b.withoutRunning x.job).running.length < b.running.length := length_without_lt hmem
  show 3 * b.waiting.length + 2 * b.queue.length + _ < _
  unfold JobBoard.stepsLeft
  omega

theorem stepsLeft_send (b : JobBoard) (x : Assignment) :
    (b.send x).stepsLeft = b.stepsLeft + 2 := by
  show 3 * b.waiting.length + 2 * (b.queue ++ [x]).length + b.running.length = _
  rw [List.length_append, List.length_singleton]
  unfold JobBoard.stepsLeft
  omega

/-- A chosen step takes something off what is left. A job that goes from its call into the queue,
    or from there to a worker, has fewer steps before it. -/
theorem Change.stepsLeft_lt (hc : Change s.board s.store l a b' kept) (h : s.Scheduled u l) :
    b'.stepsLeft < s.board.stepsLeft := by
  cases hc with
  | joined hl | refused hl | sent hl | held hl =>
    -- a call comes from outside
    have hnone := h.newJob?_eq
    rw [hl.newJob?_eq] at hnone
    cases hnone
  | answered | abandoned | abandonedLate | cancelled | cancelledLate | shutDown => cases h
  | turnedAway ha =>
    have hle := stepsLeft_withoutWaiting ha
    omega
  | admitted ha =>
    -- three steps go with the call, and two come back with its job in the queue
    have hle := stepsLeft_withoutWaiting ha
    rw [stepsLeft_send]
    omega
  | @started now x rest job hw hqueue =>
    show 3 * s.board.waiting.length + 2 * rest.length + (s.board.running ++ [x]).length < _
    unfold JobBoard.stepsLeft
    rw [hqueue, List.length_append, List.length_singleton, List.length_cons]
    omega
  | @skipped now x rest hw hqueue =>
    show 3 * s.board.waiting.length + 2 * rest.length + s.board.running.length < _
    unfold JobBoard.stepsLeft
    rw [hqueue, List.length_cons]
    omega
  | finished ha => exact stepsLeft_withoutRunning ha
  | finishedLate ha => exact stepsLeft_withoutRunning ha
  | stopped ha => exact stepsLeft_withoutRunning ha

/-- Where nothing is left, no step is chosen. -/
theorem nextLabel?_of_stepsLeft (h : s.board.stepsLeft = 0) :
    s.nextLabel? network pace means u = none := by
  cases hnext : s.nextLabel? network pace means u with
  | none => rfl
  | some chosen =>
    obtain ⟨l, left⟩ := chosen
    unfold JobBoard.stepsLeft at h
    cases scheduled_of_nextLabel? hnext with
    | take hqueue =>
      rw [hqueue, List.length_cons] at h
      omega
    | proceed hwaiting =>
      have hpos := List.length_pos_of_mem (JobBoard.mem_of_waiting? hwaiting).1
      omega
    | stop hrunning =>
      have hpos := List.length_pos_of_mem (JobBoard.mem_of_running? hrunning).1
      omega
    | finish hrunning =>
      have hpos := List.length_pos_of_mem (JobBoard.mem_of_running? hrunning).1
      omega

/-! ### Identifiers -/

/-- A chosen step leaves the other identifiers of the supply for the steps to come. -/
theorem Scheduled.unused (h : s.Scheduled u l) (hs : s.board.Sound) (hf : Fresh s l)
    (hstep : s.step? l = some (a, t)) (hu : u.Unused (count + 1) s.store.records)
    (hcount : count < Uuid.total) : u.tick.Unused count t.store.records := by
  intro k hk
  have hnext : u.tick.next + k = u.next + (k + 1) := by
    show u.next + 1 + k = _
    omega
  have hbefore := hu (k + 1) (by omega)
  rw [hnext]
  rcases (step_change hs hf hstep).quiet_or_stores hs hf.1 with ⟨hkept, -⟩ | ⟨id, job, r, hst⟩
  · rw [hkept]
    exact hbefore
  · -- the result that is stored has the first identifier
    obtain ⟨c, rfl, hid⟩ := hst.label_eq
    have hr : r.id = u.result := by
      cases h with
      | finish _ hresult => exact hid.symm.trans hresult
    have hne : (⟨Uuid.ofNat (u.next + (k + 1))⟩ : ResultId) ≠ r.id := by
      rw [hr]
      intro heq
      injection heq with hvalue
      exact Uuid.ofNat_add_ne (by omega) (by omega) hvalue
    rw [hst.result?_eq, if_neg hne]
    exact hbefore

/-! ### All steps -/

/-- A chosen step, with all that the next one needs. -/
theorem exists_step_of_nextLabel? (h : s.nextLabel? network pace means u = some (l, left))
    (hs : s.board.Sound) (hu : u.Unused (count + 1) s.store.records) (hcount : count < Uuid.total) :
    ∃ a t, s.step? l = some (a, t) ∧ Fresh s l ∧ t.board.Sound ∧
      t.board.stepsLeft < s.board.stepsLeft ∧ u.tick.Unused count t.store.records := by
  have hscheduled : s.Scheduled u l := scheduled_of_nextLabel? h
  obtain ⟨a, t, hstep⟩ := hscheduled.enabled hs
  have hf : Fresh s l := hscheduled.fresh (hu 0 (by omega))
  have hc := step_change hs hf hstep
  exact ⟨a, t, hstep, hf, hc.sound hs hf.1, hc.stepsLeft_lt hscheduled,
    hscheduled.unused hs hf hstep hu hcount⟩

/-- What the schedule does is a run. If it may make as many steps as are left, it stops only where
    there is no further one. -/
theorem settleFor_run (count : Nat) (network : Network) (pace : Pace γ) (means : γ)
    (hs : s.board.Sound) (hu : u.Unused count s.store.records) (hcount : count ≤ Uuid.total) :
    let settled := settleFor count network pace means u s
    Run s settled.trace.reverse settled.service ∧ settled.trace.length ≤ count ∧
      (s.board.stepsLeft ≤ count →
        settled.service.nextLabel? network pace settled.means settled.supply = none) := by
  -- induction on the steps that may be made: the invariant of the board, the unused identifiers and
  -- the bound on what is left go from each one to the next
  induction count generalizing s means u with
  | zero =>
    refine ⟨Run.start, Nat.le_refl 0, ?_⟩
    intro hle
    exact nextLabel?_of_stepsLeft (Nat.le_zero.mp hle)
  | succ count ih =>
    cases hnext : s.nextLabel? network pace means u with
    | none =>
      simp only [settleFor, hnext]
      exact ⟨Run.start, Nat.zero_le _, fun _ => trivial⟩
    | some chosen =>
      obtain ⟨l, left⟩ := chosen
      obtain ⟨a, t, hstep, hf, ht, hlt, hrest⟩ :=
        exists_step_of_nextLabel? hnext hs hu (by omega)
      obtain ⟨hrun, hlength, hdone⟩ := ih left ht hrest (by omega)
      simp only [settleFor, hnext, hstep, List.reverse_cons, List.length_cons]
      refine ⟨(Run.step Run.start hf hstep).trans hrun, by omega, ?_⟩
      intro hle
      exact hdone (by omega)

/-- There is no further step if and only if no worker can take a job, no waiting call can go on, no
    worker is at a cancelled job, and no run may end. -/
theorem nextLabel?_eq_none_iff : s.nextLabel? network pace means u = none ↔
    (s.board.queue = [] ∨ s.board.hasIdleWorker = false) ∧
    (s.board.waiting = [] ∨ s.board.closed = false ∧ s.board.hasRoom = false) ∧
    (∀ x ∈ s.board.running, s.stops x.job = false) ∧
    s.nextEnd? network pace means u = none := by
  have hcall : s.nextCall? = none ↔
      s.board.waiting = [] ∨ s.board.closed = false ∧ s.board.hasRoom = false := by
    unfold nextCall?
    cases s.board.closed <;> cases s.board.hasRoom <;> simp
  have hstop : s.nextStop? = none ↔ ∀ x ∈ s.board.running, s.stops x.job = false := by
    simp [nextStop?]
  rw [← hcall, ← hstop]
  unfold nextLabel?
  split
  · -- a worker takes a job, so the first condition does not hold
    next hfree =>
    obtain ⟨hqueue, hidle⟩ : s.board.queue ≠ [] ∧ s.board.hasIdleWorker = true := by
      simpa using hfree
    refine iff_of_false (by simp) ?_
    rintro ⟨hempty | hbusy, -⟩
    · exact hqueue hempty
    · rw [hidle] at hbusy
      cases hbusy
  · next hbusy =>
    have htake : s.board.queue = [] ∨ s.board.hasIdleWorker = false := by
      simpa [Classical.or_iff_not_imp_left] using hbusy
    cases hc : s.nextCall? <;> cases hn : s.nextStop? <;> simp [htake]

/-- What the schedule does is a run of no more steps than were left. At its end no worker can take
    a job, no waiting call can go on, no worker is at a cancelled job, and no run may end. -/
theorem settle_run (network : Network) (pace : Pace γ) (means : γ) (hs : s.board.Sound)
    (hu : u.Unused s.board.stepsLeft s.store.records) (hcount : s.board.stepsLeft ≤ Uuid.total) :
    let settled := s.settle network pace means u
    let board := settled.service.board
    Run s settled.trace.reverse settled.service ∧
      settled.trace.length ≤ s.board.stepsLeft ∧
      (board.queue = [] ∨ board.hasIdleWorker = false) ∧
      (board.waiting = [] ∨ board.closed = false ∧ board.hasRoom = false) ∧
      (∀ x ∈ board.running, settled.service.stops x.job = false) ∧
      settled.service.nextEnd? network pace settled.means settled.supply = none := by
  obtain ⟨hrun, hlength, hdone⟩ := settleFor_run _ network pace means hs hu hcount
  exact ⟨hrun, hlength, nextLabel?_eq_none_iff.mp (hdone (Nat.le_refl _))⟩

end Service

end QueryDispatch
