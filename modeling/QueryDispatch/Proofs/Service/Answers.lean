import QueryDispatch.Proofs.Service.Enabled

/-! # Answers

  What the answers of a run say about its later states. A job that a call came
  back with stays known under its identifier, and so does the job that a call
  waits with. Once the call that created a job has come back, no call waits
  with that job.
-/

namespace QueryDispatch

namespace Service

variable {s₀ s : Service} {b b' : JobBoard} {store kept : Store} {l : Label} {a : Answer}
  {id new : JobId} {job : Job} {trace : List (Label × Answer)}

/-- The call `l`, with `new` for its job, came back with a job: at once, or after it had waited. -/
inductive CameBack (trace : List (Label × Answer)) (l : Label) (new : JobId) (job : Job) :
    Prop where
  | atOnce (hl : l.newJob? = some new) (hq : (l, .ok (.queued job)) ∈ trace)
  | afterWaiting {now : Instant} (hl : l.newJob? = some new) (hw : (l, .ok (.waits new)) ∈ trace)
      (hq : (.proceed new now, .ok (.queued job)) ∈ trace)

/-! ### Answers of one step -/

/-- Three steps answer with a job: joining one, creating one, and going on with one. -/
theorem Change.queued_cases (hc : Change b store l a b' kept) (ha : a = .ok (.queued job)) :
    (∃ id r now, l.Brings id r now ∧ b.live? r.fingerprint = some job ∧
      b' = b.count Counters.addDeduplicated) ∨
    (∃ id r now, l.Brings id r now ∧ job = r.newJob id now ∧
      b' = (b.register id r now).send ⟨id, r⟩) ∨
    ∃ id x now, l = .proceed id now ∧ b.find? id = some job ∧
      b' = (b.withoutWaiting id).send x := by
  cases hc with
  | answered hq => exact absurd ha (hq job)
  | joined hl hj =>
    obtain ⟨rfl⟩ := ha
    exact Or.inl ⟨_, _, _, hl, hj, rfl⟩
  | sent hl =>
    obtain ⟨rfl⟩ := ha
    exact Or.inr (Or.inl ⟨_, _, _, hl, rfl, rfl⟩)
  | admitted hx hopen hroom hj =>
    obtain ⟨rfl⟩ := ha
    exact Or.inr (Or.inr ⟨_, _, _, rfl, hj, rfl⟩)
  | @cancelledLate id now hj =>
    -- the answer to a cancellation is of another kind
    cases hfetch : b.fetch id with
    | ok other => simp [hfetch, Except.map] at ha
    | error e => simp [hfetch, Except.map] at ha
  | _ => cases ha

/-- A call waits with the job that it created. -/
theorem Change.waits_cases (hc : Change b store l a b' kept) (ha : a = .ok (.waits id)) :
    ∃ r now, l.Brings id r now ∧ b'.find? id = some (r.newJob id now) := by
  cases hc with
  | answered hq hw => exact absurd ha (hw id)
  | @held _ new r now hl =>
    obtain ⟨rfl⟩ := ha
    have hfind : (b.register id r now).find? id = some (r.newJob id now) := by
      rw [JobBoard.find?_register, if_pos rfl]
    exact ⟨r, now, hl, hfind⟩
  | @cancelledLate id now hj =>
    cases hfetch : b.fetch id with
    | ok other => simp [hfetch, Except.map] at ha
    | error e => simp [hfetch, Except.map] at ha
  | _ => cases ha

/-- The job of an answer is on the board. -/
theorem Change.find?_of_queued (hc : Change b store l (.ok (.queued job)) b' kept)
    (h : b.Sound) : b'.find? job.id = some job := by
  rcases hc.queued_cases rfl with ⟨id, r, now, -, hj, rfl⟩ | ⟨id, r, now, -, rfl, rfl⟩ |
    ⟨id, x, now, -, hj, rfl⟩
  · obtain ⟨known, hactive, -⟩ := h.live?_eq_some_iff.mp hj
    have hfind := JobBoard.find?_of_active hactive
    rw [(h.intact hfind).id_eq]
    exact hfind
  · rw [JobBoard.find?_send, JobBoard.find?_register, JobRequest.newJob_id, if_pos rfl]
  · rw [(h.intact hj).id_eq]
    exact hj

/-- A call that comes back with its own job created it. -/
theorem Change.created_of_queued (hc : Change b store l (.ok (.queued job)) b' kept)
    (h : b.Sound) (hn : b.find? new = none) (hl : l.newJob? = some new) (hid : job.id = new) :
    ∃ r now, l.Brings new r now ∧ job = r.newJob new now := by
  rcases hc.queued_cases rfl with ⟨id, r, now, hb, hj, -⟩ | ⟨id, r, now, hb, rfl, -⟩ |
    ⟨id, x, now, rfl, -, -⟩
  · -- a job that is joined was there before
    obtain ⟨known, hactive, -⟩ := h.live?_eq_some_iff.mp hj
    have hfind := JobBoard.find?_of_active hactive
    rw [(h.intact hfind).id_eq] at hid
    rw [hid, hn] at hfind
    exact absurd hfind (by simp)
  · obtain rfl : id = new := hid
    exact ⟨r, now, hb, rfl⟩
  · exact absurd hl (by simp [Label.newJob?])

/-! ### Answers of a run -/

/-- A job that a step answered with stays known. -/
theorem Run.find?_of_queued (hr : Run s₀ trace s) (h₀ : s₀.board.Sound)
    (hq : (l, .ok (.queued job)) ∈ trace) :
    ∃ later, s.board.find? job.id = some later ∧ later.Follows job := by
  induction hr with
  | start => cases hq
  | step hr hf hs ih =>
    have h := hr.sound h₀
    have hc := step_change h hf hs
    -- the answer is that of the last step, or an earlier one
    rcases List.mem_cons.mp hq with he | hold
    · obtain ⟨rfl, rfl⟩ := Prod.mk.injEq .. ▸ he
      exact ⟨job, hc.find?_of_queued h, Job.Follows.refl job⟩
    · obtain ⟨before, hb, hfollow⟩ := ih hold
      obtain ⟨later, hlater, hstep⟩ := hc.job_step h hf.1 hb
      exact ⟨later, hlater, hstep.follows.trans hfollow⟩

/-- The job that a call waited with stays known, with what the call brought along. -/
theorem Run.find?_of_waits (hr : Run s₀ trace s) (h₀ : s₀.board.Sound)
    (hw : (l, .ok (.waits id)) ∈ trace) :
    ∃ r now later, l.Brings id r now ∧ s.board.find? id = some later ∧
      later.metadata = r.metadata := by
  induction hr with
  | start => cases hw
  | step hr hf hs ih =>
    have h := hr.sound h₀
    have hc := step_change h hf hs
    rcases List.mem_cons.mp hw with he | hold
    · obtain ⟨rfl, rfl⟩ := Prod.mk.injEq .. ▸ he
      obtain ⟨r, now, hl, hfind⟩ := hc.waits_cases rfl
      exact ⟨r, now, _, hl, hfind, rfl⟩
    · -- what came with the request stays with the job
      obtain ⟨r, now, before, hl, hb, hm⟩ := ih hold
      obtain ⟨later, hlater, hstep⟩ := hc.job_step h hf.1 hb
      exact ⟨r, now, later, hl, hlater, hstep.follows.metadata_eq.trans hm⟩

theorem CameBack.later (h : CameBack trace l new job) {e : Label × Answer} :
    CameBack (e :: trace) l new job := by
  cases h with
  | atOnce hl hq => exact CameBack.atOnce hl (List.mem_cons_of_mem e hq)
  | afterWaiting hl hw hq =>
    exact CameBack.afterWaiting hl (List.mem_cons_of_mem e hw) (List.mem_cons_of_mem e hq)

theorem CameBack.queued_mem (h : CameBack trace l new job) :
    ∃ l', (l', .ok (.queued job)) ∈ trace := by
  cases h with
  | atOnce hl hq => exact ⟨l, hq⟩
  | afterWaiting hl hw hq => exact ⟨_, hq⟩

end Service

end QueryDispatch
