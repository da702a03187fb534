import QueryDispatch.Proofs.Service.Answers

/-! # Who cancels a job

  A job that somebody got is cancelled on request or when the service shuts
  down. There is one more way: while the call that created the job still waits
  for room in the queue, giving up that call cancels the job, also for those
  who joined it meanwhile. Once that call has come back there is nothing left
  to give up.
-/

namespace QueryDispatch

namespace Service

variable {s₀ s t : Service} {b b' : JobBoard} {store kept : Store} {l : Label} {a : Answer}
  {id new : JobId} {job later : Job} {trace : List (Label × Answer)}

/-! ### Calls that wait -/

/-- A call that begins to wait is the one that created the job, and it is told so. -/
theorem Change.mem_waiting (hc : Change b store l a b' kept) (h : b.Sound) {x : Assignment}
    (hx : x ∈ b'.waiting) :
    x ∈ b.waiting ∨ l.newJob? = some x.job ∧ a = .ok (.waits x.job) := by
  -- one change adds a waiting call, and four may remove one
  cases hc with
  | held hl =>
    rcases List.mem_append.mp hx with hold | hnew
    · exact Or.inl hold
    · obtain rfl := List.mem_singleton.mp hnew
      exact Or.inr ⟨hl.newJob?_eq, rfl⟩
  | turnedAway | admitted | abandoned | abandonedLate =>
    exact Or.inl (List.mem_filter.mp hx).1
  | shutDown now =>
    have hsame := (JobBoard.shutDown_shut h now).waiting_eq
    rw [hsame] at hx
    exact Or.inl hx
  | _ => exact Or.inl hx

/-- Whoever waits began to wait in a step of the run, with the job that this step created. -/
theorem Run.waits_of_waiting (hr : Run s₀ trace s) (h₀ : s₀.board.Sound)
    (hempty : s₀.board.waiting = []) {x : Assignment} (hx : x ∈ s.board.waiting) :
    ∃ creator : Label, creator.newJob? = some x.job ∧
      (creator, .ok (.waits x.job)) ∈ trace := by
  -- induction on the run: the call waited before the last step, or began to in it
  induction hr with
  | start =>
    rw [hempty] at hx
    cases hx
  | step hr hf hs ih =>
    have h := hr.sound h₀
    rcases (step_change h hf hs).mem_waiting h hx with hbefore | ⟨hnew, rfl⟩
    · obtain ⟨creator, hcreated, hmem⟩ := ih hbefore
      exact ⟨creator, hcreated, List.mem_cons_of_mem _ hmem⟩
    · exact ⟨_, hnew, List.mem_cons_self ..⟩

/-- No call waits with a job that is not on the board. -/
theorem not_waiting_of_find?_eq_none (h : b.Sound) (hn : b.find? id = none) {x : Assignment}
    (hx : x ∈ b.waiting) : x.job ≠ id := by
  rintro rfl
  have hall : x ∈ b.assignments :=
    JobBoard.mem_assignments.mpr (Or.inl (JobBoard.mem_pending.mpr (Or.inr hx)))
  obtain ⟨known, hknown, -⟩ := h.assigned x hall
  rw [hn] at hknown
  exact absurd hknown (by simp)

/-- The step belongs to the call that has `new` for its job. -/
def Label.OfCall (l : Label) (new : JobId) : Prop :=
  l.newJob? = some new ∨ ∃ now, l = .proceed new now

/-- When a call comes back with its own job, it does not wait any more. -/
theorem Change.not_waiting_of_queued (hc : Change b store l (.ok (.queued job)) b' kept)
    (h : b.Sound) (hn : ∀ id, l.newJob? = some id → b.find? id = none) (hl : l.OfCall job.id)
    {x : Assignment} (hx : x ∈ b'.waiting) : x.job ≠ job.id := by
  rcases hc.queued_cases rfl with ⟨id, r, now, hb, hj, rfl⟩ | ⟨id, r, now, hb, rfl, rfl⟩ |
    ⟨id, y, now, rfl, hj, rfl⟩
  · -- a call that joins a job comes back with another one than its own
    obtain ⟨known, hactive, -⟩ := h.live?_eq_some_iff.mp hj
    have hfind := JobBoard.find?_of_active hactive
    rcases hl with hnew | ⟨now', rfl⟩
    · have hnone := hn _ hnew
      rw [(h.intact hfind).id_eq, hfind] at hnone
      exact absurd hnone (by simp)
    · cases hb
  · exact not_waiting_of_find?_eq_none h (hn _ hb.newJob?_eq) hx
  · rw [(h.intact hj).id_eq]
    have hfilter := (List.mem_filter.mp hx).2
    simpa using hfilter

/-- A call that has come back with its own job never waits again. -/
theorem Run.not_waiting (hr : Run s₀ trace s) (h₀ : s₀.board.Sound)
    (hq : (l, .ok (.queued job)) ∈ trace) (hl : l.OfCall job.id) :
    ∀ x ∈ s.board.waiting, x.job ≠ job.id := by
  -- induction on the run: when the call comes back it leaves the waiting ones for good
  induction hr with
  | start => cases hq
  | @step trace s t l' a hr hf hs ih =>
    intro x hx
    have h := hr.sound h₀
    have hc := step_change h hf hs
    rcases List.mem_cons.mp hq with he | hold
    · obtain ⟨rfl, rfl⟩ := Prod.mk.injEq .. ▸ he
      exact hc.not_waiting_of_queued h hf.1 hl hx
    · rcases hc.mem_waiting h hx with hbefore | ⟨hnew, -⟩
      · exact ih hold x hbefore
      · -- the identifier of a job that is known is not new
        intro hid
        obtain ⟨known, hknown, -⟩ := hr.find?_of_queued h₀ hold
        have hnone := hf.1 _ hnew
        rw [hid, hknown] at hnone
        exact absurd hnone (by simp)

/-- While a call waits it has not come back with the job that it created. -/
theorem CameBack.not_own_of_waiting (hr : Run s₀ trace s) (h₀ : s₀.board.Sound)
    (hw : (s.board.waiting? job.id).isSome = true) : ¬ CameBack trace l job.id job := by
  intro hback
  obtain ⟨x, hx⟩ := Option.isSome_iff_exists.mp hw
  obtain ⟨hmem, hid⟩ := JobBoard.mem_of_waiting? hx
  cases hback with
  | atOnce hl hq => exact hr.not_waiting h₀ hq (Or.inl hl) x hmem hid
  | afterWaiting hl hw hq => exact hr.not_waiting h₀ hq (Or.inr ⟨_, rfl⟩) x hmem hid

/-! ### Giving up a job that somebody joined -/

/-- The queue is full, one call waits with a job, and another one has joined that job. -/
theorem joined_while_waiting :
    ∃ trace s, Run (small Store.empty Registry.empty) trace s ∧
      CameBack trace (.enqueue someRequest (jobId 3) .epoch) (jobId 3)
        (someRequest.newJob (jobId 2) .epoch) ∧
      s.board.active.find? (jobId 2) = some (someRequest.newJob (jobId 2) .epoch) ∧
      s.board.waiting? (jobId 2) = some ⟨jobId 2, someRequest⟩ := by
  have h₀ := small_sound Store.empty Registry.empty
  have hr₁ := small_enqueue Store.empty Registry.empty someRequest (jobId 1) .epoch
  have hj₁ := smallQueued_active Store.empty Registry.empty someRequest (jobId 1) .epoch
  -- the first job is cancelled, but its place in the queue stays taken
  have hf₁ : Fresh (smallQueued Store.empty Registry.empty someRequest (jobId 1) .epoch)
      (.cancel (jobId 1) .epoch) := Fresh.of_none rfl rfl
  obtain ⟨s₂, hr₂, hb₂, -⟩ := hr₁.extend h₀ hf₁ (by simp) (Change.cancelled hj₁)
  have hlive₂ : s₂.board.live? someRequest.fingerprint = none := by
    rw [hb₂]
    exact JobBoard.live?_close _ (jobId 1) ((someRequest.newJob (jobId 1) .epoch).moved .cancelled
      .epoch) Counters.addCancelled
  have hf₂ : Fresh s₂ (.enqueue someRequest (jobId 2) .epoch) := by
    refine Fresh.of_job rfl rfl ?_
    have hne : jobId 2 ≠ jobId 1 := by decide
    rw [hb₂, JobBoard.find?_close, if_neg hne]
    exact smallQueued_find? Store.empty Registry.empty someRequest .epoch hne
  obtain ⟨s₃, hr₃, hb₃, -⟩ := hr₂.extend h₀ hf₂ (by simp)
    (Change.held (Label.Brings.enqueue someRequest (jobId 2) .epoch) hlive₂ (by rw [hb₂]; rfl)
      (by rw [hb₂]; rfl))
  have hj₃ : s₃.board.active.find? (jobId 2) = some (someRequest.newJob (jobId 2) .epoch) := by
    rw [hb₃]
    exact Assoc.find?_put_self s₂.board.active (jobId 2) _
  -- the other call finds the job on the board
  have hf₃ : Fresh s₃ (.enqueue someRequest (jobId 3) .epoch) := by
    refine Fresh.of_job rfl rfl ?_
    have hne₁ : jobId 3 ≠ jobId 1 := by decide
    have hne₂ : jobId 3 ≠ jobId 2 := by decide
    have hfind : (s₂.board.register (jobId 2) someRequest .epoch).find? (jobId 3) = none := by
      rw [JobBoard.find?_register, if_neg hne₂, hb₂, JobBoard.find?_close, if_neg hne₁]
      exact smallQueued_find? Store.empty Registry.empty someRequest .epoch hne₁
    rw [hb₃]
    exact hfind
  have hlive₃ := (hr₃.sound h₀).live?_eq_some_iff.mpr ⟨jobId 2, hj₃, rfl⟩
  obtain ⟨s₄, hr₄, hb₄, -⟩ := hr₃.extend h₀ hf₃ (by simp)
    (Change.joined (Label.Brings.enqueue someRequest (jobId 3) .epoch) hlive₃)
  refine ⟨_, s₄, hr₄, CameBack.atOnce rfl (List.mem_cons_self ..), ?_, ?_⟩
  · rw [hb₄]
    exact hj₃
  · rw [hb₄, hb₃, hb₂]
    rfl

/-- Giving up the call that waits cancels the job that the other one has got. -/
theorem abandon_cancels_joined :
    ∃ trace s t, Run (small Store.empty Registry.empty) trace s ∧
      CameBack trace (.enqueue someRequest (jobId 3) .epoch) (jobId 3)
        (someRequest.newJob (jobId 2) .epoch) ∧
      Fresh s (.abandon (jobId 2) .epoch) ∧
      s.step? (.abandon (jobId 2) .epoch) = some (.ok .done, t) ∧
      (s.board.find? (jobId 2)).map (·.status) = some .queued ∧
      (t.board.find? (jobId 2)).map (·.status) = some .cancelled := by
  obtain ⟨trace, s, hrun, hback, hj, hw⟩ := joined_while_waiting
  have h := hrun.sound (small_sound Store.empty Registry.empty)
  have hf : Fresh s (.abandon (jobId 2) .epoch) := Fresh.of_none rfl rfl
  obtain ⟨t, ht, htb, -⟩ := (Change.abandoned hw hj).enabled h hf.1 (by simp)
  refine ⟨trace, s, t, hrun, hback, hf, ht, ?_, ?_⟩
  · rw [JobBoard.find?_of_active hj]
    rfl
  · rw [htb, JobBoard.find?_close, if_pos rfl]
    rfl

/-! ### Cancelled jobs -/

/-- A job that a step cancels was cancelled for one of the three reasons. -/
theorem JobStep.cancels (h : JobStep b store l kept id job later)
    (hbefore : job.status ≠ .cancelled) (hafter : later.status = .cancelled) :
    l.Cancels b id := by
  cases h with
  | same => exact absurd hafter hbefore
  | started => exact absurd hafter (by simp)
  | cancelled hl => exact hl
  | ended hl ha hs he => cases he <;> exact absurd hafter (by simp)

/-- A job that a call came back with is cancelled by `cancel` on it or when the service shuts down,
    or else because the call that created it is given up while it waits. That call was told to wait
    in an earlier step, and it has not come back with the job itself. -/
theorem cancelled_only_by {config : Config} {registry : Registry} {call : Label}
    (hstart : Service.start config store registry = .ok s₀) (hrun : Run s₀ trace s)
    (hf : Fresh s l) (hs : s.step? l = some (a, t)) (hback : CameBack trace call new job)
    (hbefore : (s.board.find? job.id).map (·.status) ≠ some .cancelled)
    (hafter : (t.board.find? job.id).map (·.status) = some .cancelled) :
    (∃ now, l = .cancel job.id now) ∨ (∃ now, l = .shutDown now) ∨
      (∃ now, l = .abandon job.id now) ∧ (s.board.waiting? job.id).isSome = true ∧
        (∃ creator : Label, creator.newJob? = some job.id ∧
          (creator, .ok (.waits job.id)) ∈ trace) ∧
        ∀ own creator, own.id = job.id → ¬ CameBack trace creator job.id own := by
  obtain ⟨hboard, -⟩ := start_eq hstart
  have h₀ : s₀.board.Sound := start_sound hstart
  have h : s.board.Sound := hrun.sound h₀
  have hc := step_change h hf hs
  obtain ⟨l', hmem⟩ := hback.queued_mem
  obtain ⟨before, hb, -⟩ := hrun.find?_of_queued h₀ hmem
  obtain ⟨later, hlater, hstep⟩ := hc.job_step h hf.1 hb
  rw [hb] at hbefore
  rw [hlater] at hafter
  rcases hstep.cancels (by simpa using hbefore) (by simpa using hafter) with
    hcancel | hshut | ⟨habandon, hw⟩
  · exact Or.inl hcancel
  · exact Or.inr (Or.inl hshut)
  · refine Or.inr (Or.inr ⟨habandon, hw, ?_, ?_⟩)
    · obtain ⟨x, hx⟩ := Option.isSome_iff_exists.mp hw
      obtain ⟨hmem, hid⟩ := JobBoard.mem_of_waiting? hx
      rw [← hid]
      exact hrun.waits_of_waiting h₀ (by rw [hboard]; rfl) hmem
    · intro own creator hid
      rw [← hid] at hw ⊢
      exact CameBack.not_own_of_waiting hrun h₀ hw

/-- The three reasons in such a run. -/
theorem cancelled_only_by_giving_up :
    ∃ trace s t, Run (small Store.empty Registry.empty) trace s ∧
      s.step? (.abandon (jobId 2) .epoch) = some (.ok .done, t) ∧
      (s.board.waiting? (jobId 2)).isSome = true ∧
      (∃ creator : Label, creator.newJob? = some (jobId 2) ∧
        (creator, .ok (.waits (jobId 2))) ∈ trace) ∧
      ∀ own creator, own.id = jobId 2 → ¬ CameBack trace creator (jobId 2) own := by
  obtain ⟨trace, s, t, hrun, hback, hf, hstep, hbefore, hafter⟩ := abandon_cancels_joined
  rcases cancelled_only_by (small_start _ _) hrun hf hstep hback (by simp [hbefore]) hafter with
    ⟨now, hl⟩ | ⟨now, hl⟩ | ⟨-, hw, hcreator, hown⟩
  · cases hl
  · cases hl
  · exact ⟨trace, s, t, hrun, hstep, hw, hcreator, hown⟩

/-- So the call that created a job can take it away from those who joined it: `cancel` and shutting
    down are not the only ways. -/
theorem joined_job_cancelled_by_creator :
    ¬ ∀ (config : Config) (store : Store) (registry : Registry) (s₀ s t : Service)
        (trace : List (Label × Answer)) (l call : Label) (a : Answer) (new : JobId) (job : Job),
      Service.start config store registry = .ok s₀ → Run s₀ trace s → Fresh s l →
      s.step? l = some (a, t) → CameBack trace call new job →
      (s.board.find? job.id).map (·.status) ≠ some .cancelled →
      (t.board.find? job.id).map (·.status) = some .cancelled →
      (∃ now, l = .cancel job.id now) ∨ ∃ now, l = .shutDown now := by
  intro hall
  obtain ⟨trace, s, t, hrun, hback, hf, hstep, hbefore, hafter⟩ := abandon_cancels_joined
  have hbefore' : (s.board.find? (jobId 2)).map (·.status) ≠ some .cancelled := by
    simp [hbefore]
  rcases hall _ _ _ _ _ _ _ _ _ _ _ _ (small_start _ _) hrun hf hstep hback hbefore' hafter with
    ⟨now, hl⟩ | ⟨now, hl⟩
  · cases hl
  · cases hl

end Service

end QueryDispatch
