import QueryDispatch.Proofs.Service.Calls
import QueryDispatch.Proofs.Service.CreatedJobs

/-! # The counters along a run

  Between any two steps the counters of ended jobs are the numbers of created
  jobs that stand at succeeded, failed and cancelled, and the two counters of
  calls add up to the calls that have come back with a job. A job is counted
  in the step in which it is closed. The steps that come to it later find it
  closed, and they count nothing.
-/

namespace QueryDispatch

namespace JobBoard

variable {b : JobBoard} {id : JobId} {a : Assignment} {ids : List JobId}

/-- A job that is sent is counted as a call. -/
theorem ended_send (b : JobBoard) (a : Assignment) (status : JobStatus) :
    (b.send a).counters.ended status = b.counters.ended status := by
  cases status <;> rfl

theorem returned_send (b : JobBoard) (a : Assignment) :
    (b.send a).counters.returned = b.counters.returned + 1 := by
  show b.counters.enqueued + 1 + b.counters.deduplicated = b.counters.returned + 1
  unfold Counters.returned
  omega

/-- Cancelling a job brings no other one to the board. -/
theorem Sound.isSome_of_cancel (h : b.Sound) {now : Instant} {other : JobId}
    (ho : ((b.cancel id now).find? other).isSome = true) : (b.find? other).isSome = true := by
  cases ha : b.active.find? id with
  | none => rwa [cancel_of_not_active ha] at ho
  | some job =>
    rw [h.cancel_of_active ha, find?_close] at ho
    by_cases he : other = id
    · rw [he, find?_of_active ha]
      rfl
    · rwa [if_neg he] at ho

theorem Sound.returned_cancel (h : b.Sound) (id : JobId) (now : Instant) :
    (b.cancel id now).counters.returned = b.counters.returned := by
  cases ha : b.active.find? id with
  | none => rw [cancel_of_not_active ha]
  | some job =>
    rw [h.cancel_of_active ha]
    exact Counters.addCancelled_counts.returned_eq b.counters

theorem Balanced.shutDown (hb : b.Balanced ids) (h : b.Sound) (hn : ids.Nodup)
    (hids : ∀ i, (b.find? i).isSome = true → i ∈ ids) (now : Instant) :
    (b.shutDown now).Balanced ids := by
  -- with the balance goes that the list has every job of the board
  have hall : (b.shutDown now).Balanced ids ∧
      ∀ i, ((b.shutDown now).find? i).isSome = true → i ∈ ids := by
    refine shutDown_induction (P := fun c => c.Balanced ids ∧
      ∀ i, (c.find? i).isSome = true → i ∈ ids) h ⟨hb, hids⟩ ?_ ?_
    · rintro c id hc ⟨hbal, hdom⟩
      exact ⟨hbal.cancel hc hn hdom id now, fun i hi => hdom i (hc.isSome_of_cancel hi)⟩
    · rintro c ⟨hbal, hdom⟩
      exact ⟨hbal.congr (fun _ => rfl) fun _ => rfl, hdom⟩
  exact hall.1

theorem Sound.returned_shutDown (h : b.Sound) (now : Instant) :
    (b.shutDown now).counters.returned = b.counters.returned := by
  refine shutDown_induction (P := fun c => c.counters.returned = b.counters.returned) h rfl ?_ ?_
  · intro c id hc hsame
    exact (hc.returned_cancel id now).trans hsame
  · intro c hsame
    exact hsame

end JobBoard

namespace Service

variable {s₀ s t : Service} {b b' : JobBoard} {store kept : Store} {l : Label} {a : Answer}
  {id : JobId} {r : JobRequest} {now : Instant} {ids : List JobId}
  {trace : List (Label × Answer)}

/-! ### Jobs -/

/-- Registering a job adds one that has not ended. -/
theorem balanced_register {c : JobBoard} {first : Job} (hb : b.Balanced ids) (hn : ids.Nodup)
    (hid : id ∈ ids) (hnew : b.find? id = none) (hfirst : first.status = .queued)
    (hfind : ∀ i, c.find? i = if i = id then some first else b.find? i)
    (hcount : ∀ status, c.counters.ended status = b.counters.ended status) :
    c.Balanced ids := by
  refine hb.update hn hid ?_ hfind ?_
  · intro job hj
    rw [hnew] at hj
    cases hj
  · intro status ht
    have hne : first.status ≠ status := by
      rintro rfl
      rw [hfirst] at ht
      cases ht
    rw [hcount, if_neg hne]
    rfl

theorem Change.balanced (hc : Change b store l a b' kept) (h : b.Sound)
    (hnew : ∀ id, l.newJob? = some id → b.find? id = none) (hb : b.Balanced ids)
    (hn : ids.Nodup) (hids : ∀ i, (b'.find? i).isSome = true → i ∈ ids) :
    b'.Balanced ids := by
  -- the list has the jobs of before, as none is lost
  have hbefore : ∀ i, (b.find? i).isSome = true → i ∈ ids :=
    fun i hi => hids i (hc.isSome_find? h hnew hi)
  have hactive : ∀ {i : JobId} {job : Job}, b.active.find? i = some job → i ∈ ids := by
    intro i job hj
    exact hbefore i (by rw [JobBoard.find?_of_active hj]; rfl)
  have hlive : ∀ {i : JobId} {active : Job}, b.active.find? i = some active →
      ∀ job, b.find? i = some job → job.status.isTerminal = false := by
    intro i active ha job hj
    obtain rfl := JobBoard.find?_unique (JobBoard.find?_of_active ha) hj
    exact h.active_live ha
  cases hc with
  | answered => exact hb
  | joined => exact hb.congr (fun _ => rfl) fun status => by cases status <;> rfl
  | @refused _ id r now hl hlive hclosed =>
    -- the job is registered and closed in one step, in which it is counted
    have hnone : b.find? id = none := hnew _ hl.newJob?_eq
    have hfind : ∀ i, ((b.register id r now).close id ((r.newJob id now).moved .cancelled now)
        Counters.addCancelled).find? i =
          if i = id then some ((r.newJob id now).moved .cancelled now) else b.find? i :=
      fun i => b.find?_register_close id i r now _ _
    refine hb.update hn (hids id (by rw [hfind, if_pos rfl]; rfl)) ?_ hfind ?_
    · intro job hj
      rw [hnone] at hj
      cases hj
    · intro status ht
      exact Counters.addCancelled_counts.ended_eq b.counters status
  | @sent _ id r now hl =>
    have hfind : ∀ i, ((b.register id r now).send ⟨id, r⟩).find? i =
        if i = id then some (r.newJob id now) else b.find? i :=
      fun i => b.find?_register id i r now
    exact balanced_register hb hn (hids id (by rw [hfind, if_pos rfl]; rfl))
      (hnew _ hl.newJob?_eq) rfl hfind fun status => JobBoard.ended_send _ _ status
  | @held _ id r now hl =>
    have hfind : ∀ i, ({ b.register id r now with
        waiting := b.waiting ++ [⟨id, r⟩] } : JobBoard).find? i =
          if i = id then some (r.newJob id now) else b.find? i :=
      fun i => b.find?_register id i r now
    exact balanced_register hb hn (hids id (by rw [hfind, if_pos rfl]; rfl))
      (hnew _ hl.newJob?_eq) rfl hfind fun _ => rfl
  | turnedAway => exact hb.congr (fun _ => rfl) fun _ => rfl
  | admitted => exact hb.congr (fun _ => rfl) fun status => JobBoard.ended_send _ _ status
  | @abandoned id now x job ha hj =>
    have hrest : (b.withoutWaiting id).Balanced ids := hb.congr (fun _ => rfl) fun _ => rfl
    exact hrest.close hn (hactive hj) (hlive hj) Counters.addCancelled_counts
  | abandonedLate => exact hb.congr (fun _ => rfl) fun _ => rfl
  | cancelled hj => exact hb.close hn (hactive hj) (hlive hj) Counters.addCancelled_counts
  | cancelledLate => exact hb
  | @started now x rest job hw hq hj hs =>
    refine hb.update hn (hactive hj) (hlive hj)
      (fun i => JobBoard.find?_start { b with queue := rest } x job now i) ?_
    intro status ht
    have hne : (job.moved .running now).status ≠ status := by
      rintro rfl
      cases ht
    rw [if_neg hne]
    rfl
  | skipped => exact hb.congr (fun _ => rfl) fun _ => rfl
  | @finished id c x job last _ change ha hj hs he =>
    have hrest : (b.withoutRunning id).Balanced ids := hb.congr (fun _ => rfl) fun _ => rfl
    exact hrest.close hn (hactive hj) (hlive hj) he.counts
  | finishedLate => exact hb.congr (fun _ => rfl) fun _ => rfl
  | stopped => exact hb.congr (fun _ => rfl) fun _ => rfl
  | shutDown now => exact hb.shutDown h hn hbefore now

/-- The counters of ended jobs are right all along a run. -/
theorem Run.balanced (hr : Run s₀ trace s) (h₀ : s₀.board.Sound)
    (hempty : ∀ id, s₀.board.find? id = none) (hzero : s₀.board.counters = Counters.zero) :
    s.board.Balanced (createdIn trace) := by
  induction hr with
  | start =>
    intro status ht
    rw [hzero]
    cases status <;> rfl
  | @step trace s t l a hr hf hs ih =>
    have h := hr.sound h₀
    have hnext : Run s₀ ((l, a) :: trace) t := hr.step hf hs
    -- a job that the step creates may be listed before it is there
    have hlisted : s.board.Balanced (createdIn ((l, a) :: trace)) := by
      rw [createdIn_cons]
      cases hnew : createdBy? (l, a) with
      | none => exact ih
      | some id => exact ih.cons (hf.1 id (newJob?_of_createdBy? hnew))
    exact (step_change h hf hs).balanced h hf.1 hlisted (hnext.nodup_createdIn h₀ hempty)
      fun i hi => (hnext.mem_createdIn h₀ hempty i).mpr hi

/-! ### Calls -/

theorem comesBack_of_brings (hl : l.Brings id r now) (job : Job) :
    comesBack (l, .ok (.queued job)) = true := by
  have hback : backAtOnce (l, .ok (.queued job)) = true := by
    show l.newJob?.isSome = true
    rw [hl.newJob?_eq]
    rfl
  unfold comesBack
  rw [hback]
  rfl

theorem not_comesBack (hq : ∀ job, a ≠ .ok (.queued job)) : comesBack (l, a) = false := by
  have hback : backAtOnce (l, a) = false := by
    unfold backAtOnce
    split
    · next heq =>
      obtain ⟨rfl, rfl⟩ := Prod.mk.injEq .. ▸ heq
      exact absurd rfl (hq _)
    · rfl
  have hwent : wentOn? (l, a) = none := by
    cases hw : wentOn? (l, a) with
    | none => rfl
    | some id =>
      obtain ⟨now, job, heq⟩ := wentOn?_eq_some_iff.mp hw
      exact absurd (Prod.mk.inj heq).2 (hq job)
  unfold comesBack
  rw [hback, hwent]
  rfl

/-- A step counts the call that comes back with a job in it. -/
theorem Change.returned (hc : Change b store l a b' kept) (h : b.Sound) :
    b'.counters.returned = b.counters.returned + if comesBack (l, a) then 1 else 0 := by
  -- an answer without a job leaves the two counters as they are
  have hsame : ∀ {l : Label} {a : Answer} {c : JobBoard}, (∀ job, a ≠ .ok (.queued job)) →
      c.counters.returned = b.counters.returned →
      c.counters.returned = b.counters.returned + if comesBack (l, a) then 1 else 0 := by
    intro l a c hq hcount
    rw [not_comesBack hq, hcount]
    rfl
  cases hc with
  | answered hq => exact hsame hq rfl
  | joined hl =>
    rw [comesBack_of_brings hl]
    show b.counters.enqueued + (b.counters.deduplicated + 1) = b.counters.returned + 1
    unfold Counters.returned
    omega
  | refused => exact hsame (by simp) rfl
  | sent hl =>
    rw [comesBack_of_brings hl]
    exact JobBoard.returned_send _ _
  | held => exact hsame (by simp) rfl
  | turnedAway => exact hsame (by simp) rfl
  | admitted => exact JobBoard.returned_send _ _
  | abandoned => exact hsame (by simp) rfl
  | abandonedLate => exact hsame (by simp) rfl
  | cancelled => exact hsame (by simp) rfl
  | @cancelledLate id now hj =>
    refine hsame ?_ rfl
    intro job
    cases b.fetch id <;> simp [Except.map]
  | started => exact hsame (by simp) rfl
  | skipped => exact hsame (by simp) rfl
  | finished ha hj hs he => exact hsame (by simp) (he.counts.returned_eq b.counters)
  | finishedLate => exact hsame (by simp) rfl
  | stopped => exact hsame (by simp) rfl
  | shutDown now => exact hsame (by simp) (h.returned_shutDown now)

theorem Run.returned (hr : Run s₀ trace s) (h₀ : s₀.board.Sound)
    (hzero : s₀.board.counters = Counters.zero) :
    s.board.counters.returned = trace.countP comesBack := by
  induction hr with
  | start =>
    rw [hzero]
    rfl
  | step hr hf hs ih =>
    have h := hr.sound h₀
    rw [(step_change h hf hs).returned h, ih, List.countP_cons]

/-! ### The balance of a run -/

/-- In every state that a run reaches the counters of succeeded, failed and cancelled jobs are the
    numbers of created jobs with these statuses, and together with the jobs that have not ended
    they make up all created ones. The counters of new and joined jobs add up to the calls that
    have come back with a job; a call that was refused or given up is none of them. -/
theorem counters_balance {config : Config} {registry : Registry}
    (hstart : Service.start config store registry = .ok s₀) (hrun : Run s₀ trace s) :
    ((createdIn trace).Nodup ∧
      ∀ id, id ∈ createdIn trace ↔ (s.board.find? id).isSome = true) ∧
    s.board.counters.succeeded = s.board.tally (createdIn trace) .succeeded ∧
    s.board.counters.failed = s.board.tally (createdIn trace) .failed ∧
    s.board.counters.cancelled = s.board.tally (createdIn trace) .cancelled ∧
    s.board.tally (createdIn trace) .queued + s.board.tally (createdIn trace) .running +
      s.board.counters.succeeded + s.board.counters.failed + s.board.counters.cancelled =
        (createdIn trace).length ∧
    s.board.counters.enqueued + s.board.counters.deduplicated =
      trace.countP (hasReturned trace) ∧
    ∀ e, Unserved trace e → hasReturned trace e = false := by
  have hboard := (start_eq hstart).1
  have h₀ : s₀.board.Sound := start_sound hstart
  have hempty := start_find? hstart
  have hzero : s₀.board.counters = Counters.zero := by
    rw [hboard]
    rfl
  have hbal := hrun.balanced h₀ hempty hzero
  have hsucceeded : s.board.counters.succeeded = s.board.tally (createdIn trace) .succeeded :=
    hbal .succeeded rfl
  have hfailed : s.board.counters.failed = s.board.tally (createdIn trace) .failed :=
    hbal .failed rfl
  have hcancelled : s.board.counters.cancelled = s.board.tally (createdIn trace) .cancelled :=
    hbal .cancelled rfl
  refine ⟨⟨hrun.nodup_createdIn h₀ hempty, hrun.mem_createdIn h₀ hempty⟩, hsucceeded, hfailed,
    hcancelled, ?_, ?_, fun e he => hrun.not_hasReturned_of_unserved h₀ he⟩
  · rw [hsucceeded, hfailed, hcancelled]
    exact JobBoard.tally_total fun id hid => (hrun.mem_createdIn h₀ hempty id).mp hid
  · rw [hrun.countP_hasReturned h₀ (by rw [hboard]; rfl)]
    exact hrun.returned h₀ hzero

/-- One call that came back, and one job, which has succeeded. -/
theorem counters_balance_after_success :
    ∃ trace s, Run (small Store.empty Registry.empty) trace s ∧ createdIn trace = [jobId 1] ∧
      s.board.counters.succeeded = 1 ∧ s.board.counters.failed = 0 ∧
      s.board.counters.cancelled = 0 ∧
      s.board.counters.enqueued + s.board.counters.deduplicated = 1 := by
  have h₀ := small_sound Store.empty Registry.empty
  have hr₁ := small_enqueue Store.empty Registry.empty someRequest (jobId 1) .epoch
  have hj₁ := smallQueued_active Store.empty Registry.empty someRequest (jobId 1) .epoch
  obtain ⟨s, hrun, hj, -⟩ := hr₁.complete h₀ rfl rfl rfl hj₁ rfl rfl rfl rfl .epoch (c := noRows)
  obtain ⟨-, hsucceeded, hfailed, hcancelled, -, hcalls, -⟩ :=
    counters_balance (small_start _ _) hrun
  have htally : ∀ status, s.board.tally [jobId 1] status =
      if JobStatus.succeeded = status then 1 else 0 := by
    intro status
    unfold JobBoard.tally
    rw [List.countP_singleton, JobBoard.standsAt_of_find? hj]
    cases status <;> rfl
  have hcreated : createdIn [(.finish (jobId 1) noRows, .ok .done),
      (.take .epoch, .ok (.runs ⟨jobId 1, someRequest⟩)),
      (.enqueue someRequest (jobId 1) .epoch,
        .ok (.queued (someRequest.newJob (jobId 1) .epoch)))] = [jobId 1] := rfl
  rw [hcreated, htally] at hsucceeded hfailed hcancelled
  exact ⟨_, s, hrun, hcreated, hsucceeded, hfailed, hcancelled, hcalls⟩

end Service

end QueryDispatch
