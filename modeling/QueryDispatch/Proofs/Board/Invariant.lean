import QueryDispatch.Proofs.Board.Places

/-! # The invariant of the board

  A sound board has tidy tables, places for its jobs, and no job that could
  still end once it is closed for good. The lemmas here take one plain change
  each; they cover every board that a call or a worker can leave behind.
-/

namespace QueryDispatch

namespace JobBoard

/-- What holds of the board between any two steps. -/
structure Sound (b : JobBoard) : Prop extends Tidy b, Placed b where
  shut : b.closed = true → ∀ id, b.active.find? id = none

variable {b c : JobBoard} {id : JobId} {job last : Job} {a : Assignment} {r : JobRequest}
  {now : Instant}

/-! ### Places of calls and workers -/

theorem mem_withoutWaiting_pending {x : Assignment} (hx : x ∈ b.pending) (hne : x.job ≠ id) :
    x ∈ (b.withoutWaiting id).pending := by
  rcases mem_pending.mp hx with hq | hw
  · exact mem_pending.mpr (Or.inl hq)
  · refine mem_pending.mpr (Or.inr (List.mem_filter.mpr ⟨hw, ?_⟩))
    simpa using hne

theorem withoutWaiting_pending_sublist (b : JobBoard) (id : JobId) :
    (b.withoutWaiting id).pending.Sublist b.pending :=
  (List.Sublist.refl b.queue).append List.filter_sublist

theorem mem_withoutRunning {x : Assignment} (hx : x ∈ b.running) (hne : x.job ≠ id) :
    x ∈ (b.withoutRunning id).running := by
  refine List.mem_filter.mpr ⟨hx, ?_⟩
  simpa using hne

theorem not_mem_withoutRunning {x : Assignment} (hx : x ∈ (b.withoutRunning id).running) :
    x.job ≠ id := by
  have hx' := (List.mem_filter.mp hx).2
  simpa using hx'

theorem mem_of_waiting? (h : b.waiting? id = some a) : a ∈ b.waiting ∧ a.job = id := by
  unfold waiting? at h
  have hid := List.find?_some h
  exact ⟨List.mem_of_find?_eq_some h, by simpa using hid⟩

theorem mem_of_running? (h : b.running? id = some a) : a ∈ b.running ∧ a.job = id := by
  unfold running? at h
  have hid := List.find?_some h
  exact ⟨List.mem_of_find?_eq_some h, by simpa using hid⟩

namespace Sound

theorem empty (config : DispatchConfig) : (JobBoard.empty config).Sound where
  toTidy := Tidy.empty config
  toPlaced := Placed.empty config
  shut h := by simp [JobBoard.empty] at h

theorem count (h : b.Sound) (change : Counters → Counters) : (b.count change).Sound where
  toTidy := h.toTidy.congr rfl rfl rfl
  toPlaced := h.toPlaced.rearrange (fun _ => rfl) (List.Perm.refl _) rfl
  shut := h.shut

/-! ### New jobs -/

theorem register_fresh (h : b.Sound) (hn : b.find? id = none) (hq : b.live? r.fingerprint = none)
    (now : Instant) : (b.register id r now).Tidy ∧
      (b.register id r now).active.find? id = some (r.newJob id now) :=
  ⟨h.toTidy.register hn hq, Assoc.find?_put_self b.active id _⟩

theorem newJob_matches (r : JobRequest) (id : JobId) (now : Instant) :
    (⟨id, r⟩ : Assignment).Matches (r.newJob id now) := ⟨rfl, rfl, rfl⟩

theorem sent (h : b.Sound) (hn : b.find? id = none) (hq : b.live? r.fingerprint = none)
    (hc : b.closed = false) : ((b.register id r now).send ⟨id, r⟩).Sound where
  toTidy := (h.register_fresh hn hq now).1.congr rfl rfl rfl
  toPlaced := by
    have hfind : ∀ other, ((b.register id r now).send ⟨id, r⟩).find? other =
        if other = id then some (r.newJob id now) else b.find? other :=
      fun other => find?_register b id other r now
    refine h.toPlaced.add (a := ⟨id, r⟩) hn ((hfind id).trans (if_pos rfl)) rfl
      (newJob_matches r id now) (fun other ho => (hfind other).trans (if_neg ho)) ?_ rfl
    -- the place of the new job is at the end of the queue
    show (b.queue ++ [(⟨id, r⟩ : Assignment)] ++ b.waiting).Perm
      (⟨id, r⟩ :: (b.queue ++ b.waiting))
    rw [List.append_assoc]
    exact List.perm_middle
  shut h' := by
    have : b.closed = true := h'
    rw [hc] at this
    exact absurd this (by simp)

theorem held (h : b.Sound) (hn : b.find? id = none) (hq : b.live? r.fingerprint = none)
    (hc : b.closed = false) :
    ({ b.register id r now with waiting := b.waiting ++ [⟨id, r⟩] } : JobBoard).Sound where
  toTidy := (h.register_fresh hn hq now).1.congr rfl rfl rfl
  toPlaced := by
    have hfind : ∀ other,
        ({ b.register id r now with waiting := b.waiting ++ [⟨id, r⟩] } : JobBoard).find? other =
          if other = id then some (r.newJob id now) else b.find? other :=
      fun other => find?_register b id other r now
    refine h.toPlaced.add (a := ⟨id, r⟩) hn ((hfind id).trans (if_pos rfl)) rfl
      (newJob_matches r id now) (fun other ho => (hfind other).trans (if_neg ho)) ?_ rfl
    -- the place of the new job is at the end of the waiting calls
    show (b.queue ++ (b.waiting ++ [(⟨id, r⟩ : Assignment)])).Perm
      (⟨id, r⟩ :: (b.queue ++ b.waiting))
    rw [← List.append_assoc]
    exact List.perm_append_singleton (⟨id, r⟩ : Assignment) (b.queue ++ b.waiting)
  shut h' := by
    have : b.closed = true := h'
    rw [hc] at this
    exact absurd this (by simp)

/-- A call that comes too late leaves its job cancelled. -/
theorem refused (h : b.Sound) (hn : b.find? id = none) (hq : b.live? r.fingerprint = none) :
    ((b.register id r now).close id ((r.newJob id now).moved .cancelled now)
      Counters.addCancelled).Sound where
  toTidy := by
    obtain ⟨ht, ha⟩ := h.register_fresh hn hq now
    exact ht.cancel_close ha now
  toPlaced := by
    -- the job comes and goes, so the places are those of before
    have hfind : ∀ other, other ≠ id → ((b.register id r now).close id
        ((r.newJob id now).moved .cancelled now) Counters.addCancelled).find? other =
          b.find? other := by
      intro other ho
      rw [find?_close, if_neg ho, find?_register, if_neg ho]
    have hlast : ((b.register id r now).close id ((r.newJob id now).moved .cancelled now)
        Counters.addCancelled).find? id = some ((r.newJob id now).moved .cancelled now) := by
      rw [find?_close, if_pos rfl]
    refine h.toPlaced.settle hlast rfl hfind ?_ (List.Sublist.refl _) (List.Sublist.refl _)
      (fun a ha _ => ha) (fun a ha _ => ha) (fun a _ _ => rfl)
    intro job hj
    rw [hn] at hj
    exact absurd hj (by simp)
  shut hc other := by
    have ho := h.shut hc other
    show ((b.active.put id (r.newJob id now)).erase id).find? other = none
    rw [Assoc.erase_put_self, Assoc.find?_erase, ho]
    simp

/-! ### Jobs that end -/

/-- A job is cancelled where it is, or its call is given up. -/
theorem cancel_close (h : b.Sound) (hj : b.active.find? id = some job)
    (ha : c.active = b.active) (hf : c.finished = b.finished) (hi : c.inFlight = b.inFlight)
    (hp : c.pending.Sublist b.pending) (hpk : ∀ a ∈ b.pending, a.job ≠ id → a ∈ c.pending)
    (hr : c.running = b.running) (hc : c.closed = b.closed) :
    (c.close id (job.moved .cancelled now) Counters.addCancelled).Sound where
  toTidy := (h.toTidy.congr ha hf hi).cancel_close (by rw [ha]; exact hj) now
  toPlaced := by
    have hfind : ∀ other, other ≠ id →
        (c.close id (job.moved .cancelled now) Counters.addCancelled).find? other =
          b.find? other := by
      intro other ho
      rw [find?_close, if_neg ho]
      unfold find?
      rw [ha, hf]
    have hlast : (c.close id (job.moved .cancelled now) Counters.addCancelled).find? id =
        some (job.moved .cancelled now) := by
      rw [find?_close, if_pos rfl]
    refine h.toPlaced.settle hlast rfl hfind ?_ hp ?_ hpk ?_ (fun a _ _ => rfl)
    · intro before hb
      rw [find?_of_active hj] at hb
      obtain rfl : job = before := by simpa using hb
      exact job.moved_follows .cancelled now
    · show c.running.Sublist b.running
      exact hr ▸ List.Sublist.refl c.running
    · intro a ha _
      show a ∈ c.running
      rwa [hr]
  shut hcl other := by
    have hcb : b.closed = true := hc.symm.trans hcl
    show (c.active.erase id).find? other = none
    rw [ha, Assoc.find?_erase, h.shut hcb other]
    simp

/-- A run comes to its end. -/
theorem finished (h : b.Sound) (ha : a ∈ b.running) (hid : a.job = id)
    (hj : b.active.find? id = some job) {store kept : Store} {completion : Completion}
    {change : Counters → Counters} (he : Ending store a completion job last kept change) :
    ((b.withoutRunning id).close id last change).Sound where
  toTidy := by
    have ht : (b.withoutRunning id).Tidy := h.toTidy.congr rfl rfl rfl
    have hi : last.Intact id :=
      he.intact (h.intact (find?_of_active hj)) (h.active_live hj)
    have hja : (b.withoutRunning id).active.find? id = some job := hj
    exact ht.close hja he.follows.fingerprint_eq hi he.isTerminal change
  toPlaced := by
    have hfind : ∀ other, other ≠ id →
        ((b.withoutRunning id).close id last change).find? other = b.find? other := by
      intro other ho
      rw [find?_close, if_neg ho]
      rfl
    have hlast : ((b.withoutRunning id).close id last change).find? id = some last := by
      rw [find?_close, if_pos rfl]
    refine h.toPlaced.settle hlast he.isTerminal hfind ?_ (List.Sublist.refl _)
      List.filter_sublist (fun x hx _ => hx) (fun x hx hne => mem_withoutRunning hx hne) ?_
    · intro before hb
      rw [find?_of_active hj] at hb
      obtain rfl : job = before := by simpa using hb
      exact he.follows
    · -- the job has no other place
      intro x hx hxid
      rcases mem_assignments.mp hx with hp | hr
      · exact absurd (hxid.trans hid.symm) (h.not_pending_of_running ha hp)
      · exact absurd hxid (not_mem_withoutRunning hr)
  shut hc other := by
    show (b.active.erase id).find? other = none
    rw [Assoc.find?_erase, h.shut hc other]
    simp

/-- A place of a job that was cancelled is given up. -/
theorem vacate (h : b.Sound) (ha : a ∈ b.assignments) (hid : a.job = id)
    (hj : b.active.find? id = none) (hactive : c.active = b.active)
    (hf : c.finished = b.finished) (hi : c.inFlight = b.inFlight) (hc : c.closed = b.closed)
    (hp : c.pending.Sublist b.pending) (hr : c.running.Sublist b.running)
    (hpk : ∀ x ∈ b.pending, x.job ≠ id → x ∈ c.pending)
    (hrk : ∀ x ∈ b.running, x.job ≠ id → x ∈ c.running) : c.Sound where
  toTidy := h.toTidy.congr hactive hf hi
  toPlaced := by
    have hfind : ∀ other, c.find? other = b.find? other := by
      intro other
      unfold find?
      rw [hactive, hf]
    -- a job that ended and still has a place was cancelled in it
    obtain ⟨job, hjob, -⟩ := h.assigned a ha
    have ht : job.status.isTerminal = true :=
      h.ended_of_not_active (by rw [hid]; exact hj) hjob
    have hs : job.status = .cancelled := h.cancelled_of_ended ha hjob ht
    rw [hid] at hjob
    refine h.toPlaced.settle ((hfind id).trans hjob) ht (fun other _ => hfind other) ?_ hp hr hpk
      hrk (fun _ _ _ => hs)
    intro before hb
    rw [hjob] at hb
    obtain rfl : job = before := by simpa using hb
    exact Job.Follows.refl job
  shut hcl other := by
    rw [hactive]
    exact h.shut (hc.symm.trans hcl) other

theorem withoutWaiting (h : b.Sound) (ha : b.waiting? id = some a)
    (hj : b.active.find? id = none) : (b.withoutWaiting id).Sound := by
  obtain ⟨hmem, hid⟩ := mem_of_waiting? ha
  have hall : a ∈ b.assignments :=
    mem_assignments.mpr (Or.inl (mem_pending.mpr (Or.inr hmem)))
  exact h.vacate hall hid hj rfl rfl rfl rfl (b.withoutWaiting_pending_sublist id)
    (List.Sublist.refl _) (fun x hx hne => mem_withoutWaiting_pending hx hne) (fun x hx _ => hx)

theorem withoutRunning (h : b.Sound) (ha : b.running? id = some a)
    (hj : b.active.find? id = none) : (b.withoutRunning id).Sound := by
  obtain ⟨hmem, hid⟩ := mem_of_running? ha
  have hall : a ∈ b.assignments := mem_assignments.mpr (Or.inr hmem)
  exact h.vacate hall hid hj rfl rfl rfl rfl (List.Sublist.refl _) List.filter_sublist
    (fun x hx _ => hx) (fun x hx hne => mem_withoutRunning hx hne)

/-- A worker passes over the first job of the queue. -/
theorem skipped (h : b.Sound) {rest : List Assignment} (hq : b.queue = a :: rest)
    (hj : b.active.find? a.job = none) : ({ b with queue := rest } : JobBoard).Sound := by
  have hpend : b.pending = a :: (rest ++ b.waiting) := by
    unfold JobBoard.pending
    rw [hq]
    rfl
  have hall : a ∈ b.assignments := mem_assignments.mpr (Or.inl (by rw [hpend]; simp))
  refine h.vacate hall rfl hj rfl rfl rfl rfl ?_ (List.Sublist.refl _) ?_ (fun x hx _ => hx)
  · rw [hpend]
    exact List.sublist_cons_self a (rest ++ b.waiting)
  · intro x hx hne
    rw [hpend] at hx
    rcases List.mem_cons.mp hx with rfl | hrest
    · exact absurd rfl hne
    · exact hrest

/-! ### Jobs that move on -/

/-- A waiting call sends its job. -/
theorem admitted (h : b.Sound) (ha : a ∈ b.waiting) :
    ((b.withoutWaiting a.job).send a).Sound where
  toTidy := h.toTidy.congr rfl rfl rfl
  toPlaced := by
    refine h.toPlaced.rearrange (fun _ => rfl) ?_ rfl
    have hw : b.waiting.Perm (a :: b.waiting.filter (·.job != a.job)) :=
      perm_cons_filter h.nodup_waiting ha
    show (b.queue ++ [a] ++ b.waiting.filter (·.job != a.job)).Perm (b.queue ++ b.waiting)
    rw [List.append_assoc]
    exact (hw.symm.append_left b.queue)
  shut := h.shut

/-- A worker begins with the first job of the queue. -/
theorem started (h : b.Sound) {rest : List Assignment} (hq : b.queue = a :: rest)
    (hj : b.active.find? a.job = some job) :
    ({ b with queue := rest }.start a job now).Sound where
  toTidy := by
    have ht : ({ b with queue := rest } : JobBoard).Tidy := h.toTidy.congr rfl rfl rfl
    exact ht.start hj
  toPlaced := h.toPlaced.start hq (find?_of_active hj) now
  shut hc other := by
    have hcb : b.closed = true := hc
    -- a closed board has no active job to start
    have hno := h.shut hcb a.job
    rw [hj] at hno
    exact absurd hno (by simp)

end Sound

end JobBoard

end QueryDispatch
