import QueryDispatch.Proofs.Board.Tally

/-! # Where a job stands

  A job that has not ended is in one of three places, and is named there once
  and nowhere else: its call waits to send it, a message of the queue names
  it, or a worker is at it. There is room for so many messages and so many
  workers only, and a job that runs has a worker of its own.
-/

namespace QueryDispatch

namespace JobBoard

/-- How often a job is named in some places. -/
def named (places : List Assignment) (id : JobId) : Nat := (places.map (·.job)).count id

/-- The one place of a job, and the status that goes with it. -/
inductive Stands (b : JobBoard) (id : JobId) : JobStatus → Prop where
  /-- The call of the job waits to send it. -/
  | waiting (hw : named b.waiting id = 1) (hq : named b.queue id = 0)
      (hr : named b.running id = 0) : Stands b id .queued
  /-- One message of the queue names the job. -/
  | queued (hw : named b.waiting id = 0) (hq : named b.queue id = 1)
      (hr : named b.running id = 0) : Stands b id .queued
  /-- One worker is at the job. -/
  | running (hw : named b.waiting id = 0) (hq : named b.queue id = 0)
      (hr : named b.running id = 1) : Stands b id .running

/-- The queue and the workers have no more than there is room for. -/
structure Within (b : JobBoard) : Prop where
  queue_le : b.queue.length ≤ b.config.queueSize.toNat
  running_le : b.running.length ≤ b.config.workers.toNat

variable {b c : JobBoard} {id : JobId} {job : Job} {a : Assignment} {places : List Assignment}
  {now : Instant}

/-! ### One place for each job -/

theorem named_pos (ha : a ∈ places) (hid : a.job = id) : 0 < named places id :=
  List.count_pos_iff.mpr (List.mem_map.mpr ⟨a, ha, hid⟩)

namespace Placed

/-- All places together name a job once at most. -/
theorem named_le (h : b.Placed) (id : JobId) :
    named b.queue id + named b.waiting id + named b.running id ≤ 1 := by
  have hcount : (b.assignments.map (·.job)).count id ≤ 1 := List.nodup_iff_count.mp h.nodup id
  unfold assignments JobBoard.pending at hcount
  rw [List.map_append, List.map_append, List.count_append, List.count_append] at hcount
  exact hcount

theorem stands (h : b.Placed) (hj : b.find? id = some job)
    (hl : job.status.isTerminal = false) : Stands b id job.status := by
  have hle := h.named_le id
  cases hs : job.status with
  | queued =>
    -- the job is pending, and a place of one kind excludes the others
    obtain ⟨a, ha, hid⟩ := h.pending_of_queued hj hs
    rcases mem_pending.mp ha with hq | hw
    · have hpos := named_pos hq hid
      exact Stands.queued (by omega) (by omega) (by omega)
    · have hpos := named_pos hw hid
      exact Stands.waiting (by omega) (by omega) (by omega)
  | running =>
    obtain ⟨a, ha, hid⟩ := h.running_of_running hj hs
    have hpos := named_pos ha hid
    exact Stands.running (by omega) (by omega) (by omega)
  | succeeded | failed | cancelled =>
    rw [hs] at hl
    cases hl

theorem nodup_running (h : b.Placed) : (b.running.map (·.job)).Nodup := by
  have hn := h.nodup
  unfold assignments at hn
  rw [List.map_append] at hn
  exact (List.nodup_append.mp hn).2.1

/-- Jobs that run have different workers. -/
theorem tally_running_le (h : b.Placed) {ids : List JobId} (hn : ids.Nodup) :
    b.tally ids .running ≤ b.running.length := by
  have hsub : ids.filter (b.standsAt .running) ⊆ b.running.map (·.job) := by
    intro id hid
    have hstands := (List.mem_filter.mp hid).2
    unfold standsAt at hstands
    obtain ⟨job, hj, hs⟩ := (Option.any_eq_true ..).mp hstands
    obtain ⟨a, ha, haid⟩ := h.running_of_running hj (of_decide_eq_true hs)
    exact List.mem_map.mpr ⟨a, ha, haid⟩
  have hcount := countP_mem_of_nodup h.nodup_running (hn.filter _) hsub
  unfold tally
  rw [List.countP_eq_length_filter, ← hcount]
  exact Nat.le_trans List.countP_le_length (Nat.le_of_eq (List.length_map _))

end Placed

/-! ### Room -/

namespace Within

theorem empty (config : DispatchConfig) : (JobBoard.empty config).Within where
  queue_le := Nat.zero_le _
  running_le := Nat.zero_le _

/-- Nothing came to the queue or to the workers. -/
theorem mono (h : b.Within) (hc : c.config = b.config) (hq : c.queue.length ≤ b.queue.length)
    (hr : c.running.length ≤ b.running.length) : c.Within where
  queue_le := by
    rw [hc]
    exact Nat.le_trans hq h.queue_le
  running_le := by
    rw [hc]
    exact Nat.le_trans hr h.running_le

theorem send (h : b.Within) (hroom : b.hasRoom = true) (a : Assignment) : (b.send a).Within where
  queue_le := by
    have hlt : b.queue.length < b.config.queueSize.toNat := of_decide_eq_true hroom
    show (b.queue ++ [a]).length ≤ b.config.queueSize.toNat
    rw [List.length_append, List.length_singleton]
    omega
  running_le := h.running_le

theorem start (h : b.Within) {rest : List Assignment} (hq : b.queue = a :: rest)
    (hw : b.hasIdleWorker = true) (job : Job) (now : Instant) :
    ({ b with queue := rest }.start a job now).Within where
  queue_le := by
    have hle := h.queue_le
    rw [hq, List.length_cons] at hle
    show rest.length ≤ b.config.queueSize.toNat
    omega
  running_le := by
    have hlt : b.running.length < b.config.workers.toNat := of_decide_eq_true hw
    show (b.running ++ [a]).length ≤ b.config.workers.toNat
    rw [List.length_append, List.length_singleton]
    omega

end Within

/-! ### Shutting down -/

theorem Sound.cancel_config (h : b.Sound) (id : JobId) (now : Instant) :
    (b.cancel id now).config = b.config := by
  cases ha : b.active.find? id with
  | none => rw [cancel_of_not_active ha]
  | some job =>
    rw [h.cancel_of_active ha]
    rfl

theorem Sound.shutDown_config (h : b.Sound) (now : Instant) :
    (b.shutDown now).config = b.config := by
  refine shutDown_induction (P := fun c => c.config = b.config) h rfl ?_ ?_
  · intro c id hc hsame
    exact (hc.cancel_config id now).trans hsame
  · intro c hsame
    exact hsame

/-- Once the queue is closed all jobs have ended. -/
theorem Sound.ended_of_closed (h : b.Sound) (hc : b.closed = true) (hj : b.find? id = some job) :
    job.status.isTerminal = true :=
  h.ended_of_not_active (h.shut hc id) hj

/-- So there is none to join. -/
theorem Sound.live?_of_closed (h : b.Sound) (hc : b.closed = true) (fingerprint : Fingerprint) :
    b.live? fingerprint = none := by
  cases hl : b.live? fingerprint with
  | none => rfl
  | some job =>
    obtain ⟨id, ha, -⟩ := h.live?_eq_some_iff.mp hl
    rw [h.shut hc id] at ha
    cases ha

end JobBoard

end QueryDispatch
