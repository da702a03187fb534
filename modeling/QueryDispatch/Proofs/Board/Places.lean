import QueryDispatch.Proofs.Board.Tables

/-! # The places of jobs

  A job that has not ended is in one place: its call waits to send it, the
  queue holds it, or a worker is at it. Cancelled jobs may still be named in
  their old places. The invariant says which statuses go with which place and
  that no two places name the same job; it is kept when a job is added, moved
  from one place to the next, or ended.
-/

namespace QueryDispatch

/-- The job of an assignment was created for its request. -/
structure Assignment.Matches (a : Assignment) (job : Job) : Prop where
  source_eq : job.source = a.request.source.id
  text_eq : job.text = a.request.text
  metadata_eq : job.metadata = a.request.metadata

theorem Assignment.Matches.follows {a : Assignment} {job later : Job} (h : a.Matches job)
    (hf : later.Follows job) : a.Matches later where
  source_eq := hf.source_eq.trans h.source_eq
  text_eq := hf.text_eq.trans h.text_eq
  metadata_eq := hf.metadata_eq.trans h.metadata_eq

/-- In a list that names each job once, the one that names `a`'s job is `a`. -/
theorem perm_cons_filter {a : Assignment} {l : List Assignment} (hn : (l.map (·.job)).Nodup)
    (ha : a ∈ l) : l.Perm (a :: l.filter (·.job != a.job)) := by
  -- induction on the list: `a` is its head, or further down
  induction l with
  | nil => cases ha
  | cons x xs ih =>
    obtain ⟨hx, hxs⟩ := List.nodup_cons.mp hn
    rcases List.mem_cons.mp ha with rfl | hmem
    · have hall : ∀ y ∈ xs, (y.job != a.job) = true := by
        intro y hy
        have hne : y.job ≠ a.job := by
          intro he
          exact hx (List.mem_map.mpr ⟨y, hy, he⟩)
        simpa using hne
      simp [List.filter_eq_self.mpr hall]
    · have hne : x.job ≠ a.job := by
        intro he
        exact hx (List.mem_map.mpr ⟨a, hmem, he.symm⟩)
      have hkeep : (x :: xs).filter (·.job != a.job) = x :: xs.filter (·.job != a.job) := by
        simp [hne]
      rw [hkeep]
      exact ((ih hxs hmem).cons x).trans (List.Perm.swap a x _)

namespace JobBoard

/-- What is in the queue or waits to get there. -/
def pending (b : JobBoard) : List Assignment := b.queue ++ b.waiting

/-- All places. -/
def assignments (b : JobBoard) : List Assignment := b.pending ++ b.running

/-- Every place names a known job in a status that fits, and every job that has not ended has its
    place. -/
structure Placed (b : JobBoard) : Prop where
  assigned : ∀ a ∈ b.assignments, ∃ job, b.find? a.job = some job ∧ a.Matches job
  nodup : (b.assignments.map (·.job)).Nodup
  pending_status : ∀ a ∈ b.pending, ∀ job, b.find? a.job = some job →
    job.status = .queued ∨ job.status = .cancelled
  running_status : ∀ a ∈ b.running, ∀ job, b.find? a.job = some job →
    job.status = .running ∨ job.status = .cancelled
  pending_of_queued : ∀ {id : JobId} {job : Job}, b.find? id = some job → job.status = .queued →
    ∃ a ∈ b.pending, a.job = id
  running_of_running : ∀ {id : JobId} {job : Job}, b.find? id = some job →
    job.status = .running → ∃ a ∈ b.running, a.job = id

variable {b c : JobBoard} {id : JobId} {job last : Job} {a : Assignment}

theorem mem_assignments : a ∈ b.assignments ↔ a ∈ b.pending ∨ a ∈ b.running := by
  unfold assignments
  exact List.mem_append

theorem mem_pending : a ∈ b.pending ↔ a ∈ b.queue ∨ a ∈ b.waiting := by
  unfold pending
  exact List.mem_append

namespace Placed

theorem empty (config : DispatchConfig) : (JobBoard.empty config).Placed where
  assigned a h := by simp [assignments, JobBoard.pending, JobBoard.empty] at h
  nodup := by simp [assignments, JobBoard.pending, JobBoard.empty]
  pending_status a h := by simp [JobBoard.pending, JobBoard.empty] at h
  running_status a h := by simp [JobBoard.empty] at h
  pending_of_queued h := by simp [find?, JobBoard.empty] at h
  running_of_running h := by simp [find?, JobBoard.empty] at h

theorem mem_pending_assignments (ha : a ∈ b.pending) : a ∈ b.assignments :=
  mem_assignments.mpr (Or.inl ha)

theorem mem_running_assignments (ha : a ∈ b.running) : a ∈ b.assignments :=
  mem_assignments.mpr (Or.inr ha)

/-- What a worker is at is nowhere else. -/
theorem not_pending_of_running (h : b.Placed) {a' : Assignment} (ha : a ∈ b.running)
    (ha' : a' ∈ b.pending) : a'.job ≠ a.job := by
  have hn := h.nodup
  unfold assignments at hn
  rw [List.map_append] at hn
  have hd := (List.nodup_append.mp hn).2.2
  exact hd _ (List.mem_map.mpr ⟨a', ha', rfl⟩) _ (List.mem_map.mpr ⟨a, ha, rfl⟩)

theorem nodup_pending (h : b.Placed) : (b.pending.map (·.job)).Nodup := by
  have hn := h.nodup
  unfold assignments at hn
  rw [List.map_append] at hn
  exact (List.nodup_append.mp hn).1

theorem nodup_waiting (h : b.Placed) : (b.waiting.map (·.job)).Nodup := by
  have hn := h.nodup_pending
  unfold JobBoard.pending at hn
  rw [List.map_append] at hn
  exact (List.nodup_append.mp hn).2.1

/-- A job that is named in a place but has ended was cancelled there. -/
theorem cancelled_of_ended (h : b.Placed) (ha : a ∈ b.assignments)
    (hj : b.find? a.job = some job) (ht : job.status.isTerminal = true) :
    job.status = .cancelled := by
  rcases mem_assignments.mp ha with hp | hr
  · rcases h.pending_status a hp job hj with hs | hs
    · rw [hs] at ht
      exact absurd ht (by simp [JobStatus.isTerminal])
    · exact hs
  · rcases h.running_status a hr job hj with hs | hs
    · rw [hs] at ht
      exact absurd ht (by simp [JobStatus.isTerminal])
    · exact hs

/-! ### What keeps the places -/

/-- A job comes to a last form. It may lose its place, and has to unless it is cancelled. -/
theorem settle (h : b.Placed) (hlast : c.find? id = some last)
    (hend : last.status.isTerminal = true)
    (hother : ∀ other, other ≠ id → c.find? other = b.find? other)
    (hfollow : ∀ job, b.find? id = some job → last.Follows job)
    (hp : c.pending.Sublist b.pending) (hr : c.running.Sublist b.running)
    (hpk : ∀ a ∈ b.pending, a.job ≠ id → a ∈ c.pending)
    (hrk : ∀ a ∈ b.running, a.job ≠ id → a ∈ c.running)
    (hstay : ∀ a ∈ c.assignments, a.job = id → last.status = .cancelled) : c.Placed := by
  have hsub : c.assignments.Sublist b.assignments := hp.append hr
  refine ⟨?_, (hsub.map _).nodup h.nodup, ?_, ?_, ?_, ?_⟩
  · intro a ha
    obtain ⟨job, hj, hm⟩ := h.assigned a (hsub.subset ha)
    -- every place is of the job that ends, or its job is as before
    by_cases he : a.job = id
    · rw [he] at hj ⊢
      exact ⟨last, hlast, hm.follows (hfollow job hj)⟩
    · exact ⟨job, (hother _ he).trans hj, hm⟩
  · intro a ha job hj
    by_cases he : a.job = id
    · rw [he, hlast] at hj
      obtain rfl : last = job := by simpa using hj
      exact Or.inr (hstay a (mem_pending_assignments ha) he)
    · rw [hother _ he] at hj
      exact h.pending_status a (hp.subset ha) job hj
  · intro a ha job hj
    by_cases he : a.job = id
    · rw [he, hlast] at hj
      obtain rfl : last = job := by simpa using hj
      exact Or.inr (hstay a (mem_running_assignments ha) he)
    · rw [hother _ he] at hj
      exact h.running_status a (hr.subset ha) job hj
  · intro other job hj hs
    by_cases he : other = id
    · rw [he, hlast] at hj
      obtain rfl : last = job := by simpa using hj
      rw [hs] at hend
      exact absurd hend (by simp [JobStatus.isTerminal])
    · rw [hother _ he] at hj
      obtain ⟨a, ha, haj⟩ := h.pending_of_queued hj hs
      exact ⟨a, hpk a ha (by rwa [haj]), haj⟩
  · intro other job hj hs
    by_cases he : other = id
    · rw [he, hlast] at hj
      obtain rfl : last = job := by simpa using hj
      rw [hs] at hend
      exact absurd hend (by simp [JobStatus.isTerminal])
    · rw [hother _ he] at hj
      obtain ⟨a, ha, haj⟩ := h.running_of_running hj hs
      exact ⟨a, hrk a ha (by rwa [haj]), haj⟩

/-- A new job gets a place among the pending ones. -/
theorem add (h : b.Placed) (hn : b.find? a.job = none) (hnew : c.find? a.job = some job)
    (hq : job.status = .queued) (hm : a.Matches job)
    (hother : ∀ other, other ≠ a.job → c.find? other = b.find? other)
    (hp : c.pending.Perm (a :: b.pending)) (hr : c.running = b.running) : c.Placed := by
  -- no old place names the new job
  have hold : ∀ x ∈ b.assignments, x.job ≠ a.job := by
    intro x hx he
    obtain ⟨job, hj, -⟩ := h.assigned x hx
    rw [he, hn] at hj
    exact absurd hj (by simp)
  have hall : c.assignments.Perm (a :: b.assignments) := by
    unfold assignments
    rw [hr]
    exact hp.append_right b.running
  have hpending : ∀ x ∈ c.pending, x = a ∨ x ∈ b.pending := by
    intro x hx
    exact List.mem_cons.mp (hp.subset hx)
  refine ⟨?_, ?_, ?_, ?_, ?_, ?_⟩
  · intro x hx
    rcases List.mem_cons.mp (hall.subset hx) with rfl | hxb
    · exact ⟨job, hnew, hm⟩
    · rw [hother _ (hold x hxb)]
      exact h.assigned x hxb
  · rw [(hall.map _).nodup_iff]
    refine List.nodup_cons.mpr ⟨?_, h.nodup⟩
    intro hmem
    obtain ⟨x, hx, he⟩ := List.mem_map.mp hmem
    exact hold x hx he
  · intro x hx j hj
    rcases hpending x hx with rfl | hxb
    · rw [hnew] at hj
      obtain rfl : job = j := by simpa using hj
      exact Or.inl hq
    · rw [hother _ (hold x (mem_pending_assignments hxb))] at hj
      exact h.pending_status x hxb j hj
  · intro x hx j hj
    rw [hr] at hx
    rw [hother _ (hold x (mem_running_assignments hx))] at hj
    exact h.running_status x hx j hj
  · intro other j hj hs
    by_cases he : other = a.job
    · exact ⟨a, hp.symm.subset (List.mem_cons_self ..), he.symm⟩
    · rw [hother _ he] at hj
      obtain ⟨x, hx, hxj⟩ := h.pending_of_queued hj hs
      exact ⟨x, hp.symm.subset (List.mem_cons_of_mem _ hx), hxj⟩
  · intro other j hj hs
    by_cases he : other = a.job
    · rw [he, hnew] at hj
      obtain rfl : job = j := by simpa using hj
      rw [hq] at hs
      exact absurd hs (by simp)
    · rw [hother _ he] at hj
      rw [hr]
      exact h.running_of_running hj hs

/-- A pending job may move on to another place among the pending ones. -/
theorem rearrange (h : b.Placed) (hfind : ∀ other, c.find? other = b.find? other)
    (hp : c.pending.Perm b.pending) (hr : c.running = b.running) : c.Placed := by
  have hall : c.assignments.Perm b.assignments := by
    unfold assignments
    rw [hr]
    exact hp.append_right b.running
  refine ⟨?_, ?_, ?_, ?_, ?_, ?_⟩
  · intro x hx
    rw [hfind]
    exact h.assigned x (hall.subset hx)
  · rw [(hall.map _).nodup_iff]
    exact h.nodup
  · intro x hx j hj
    rw [hfind] at hj
    exact h.pending_status x (hp.subset hx) j hj
  · intro x hx j hj
    rw [hfind] at hj
    rw [hr] at hx
    exact h.running_status x hx j hj
  · intro other j hj hs
    rw [hfind] at hj
    obtain ⟨x, hx, hxj⟩ := h.pending_of_queued hj hs
    exact ⟨x, hp.symm.subset hx, hxj⟩
  · intro other j hj hs
    rw [hfind] at hj
    rw [hr]
    exact h.running_of_running hj hs

/-- A worker begins with the first job of the queue. -/
theorem start (h : b.Placed) {rest : List Assignment} (hq : b.queue = a :: rest)
    (hj : b.find? a.job = some job) (now : Instant) :
    ({ b with queue := rest }.start a job now).Placed := by
  have hfind : ∀ other, ({ b with queue := rest }.start a job now).find? other =
      if other = a.job then some (job.moved .running now) else b.find? other :=
    fun other => find?_start { b with queue := rest } a job now other
  have hpend : b.pending = a :: (rest ++ b.waiting) := by
    unfold JobBoard.pending
    rw [hq]
    rfl
  have hpend' : ({ b with queue := rest }.start a job now).pending = rest ++ b.waiting := rfl
  have hrun' : ({ b with queue := rest }.start a job now).running = b.running ++ [a] := rfl
  have hmem : a ∈ b.assignments := mem_assignments.mpr (Or.inl (by rw [hpend]; simp))
  -- the places are the same ones in another order
  have hall : ({ b with queue := rest }.start a job now).assignments.Perm b.assignments := by
    unfold assignments
    rw [hpend', hrun', hpend, ← List.append_assoc]
    exact List.perm_append_singleton a (rest ++ b.waiting ++ b.running)
  -- no other place names the job that starts
  have hnot : ∀ x ∈ rest ++ b.waiting ++ b.running, x.job ≠ a.job := by
    have hn := h.nodup
    unfold assignments at hn
    rw [hpend, List.cons_append] at hn
    have hfirst := (List.nodup_cons.mp hn).1
    intro x hx he
    exact hfirst (List.mem_map.mpr ⟨x, hx, he⟩)
  refine ⟨?_, ?_, ?_, ?_, ?_, ?_⟩
  · intro x hx
    obtain ⟨j, hxj, hm⟩ := h.assigned x (hall.subset hx)
    rw [hfind]
    by_cases he : x.job = a.job
    · rw [he, hj] at hxj
      obtain rfl : job = j := by simpa using hxj
      rw [if_pos he]
      exact ⟨_, rfl, hm.follows (job.moved_follows .running now)⟩
    · rw [if_neg he]
      exact ⟨j, hxj, hm⟩
  · rw [(hall.map _).nodup_iff]
    exact h.nodup
  · intro x hx j hxj
    rw [hpend'] at hx
    have hne : x.job ≠ a.job := hnot x (List.mem_append_left _ hx)
    rw [hfind, if_neg hne] at hxj
    exact h.pending_status x (by rw [hpend]; exact List.mem_cons_of_mem _ hx) j hxj
  · intro x hx j hxj
    rw [hrun'] at hx
    rw [hfind] at hxj
    rcases List.mem_append.mp hx with hxb | hxa
    · have hne : x.job ≠ a.job := hnot x (List.mem_append_right _ hxb)
      rw [if_neg hne] at hxj
      exact h.running_status x hxb j hxj
    · obtain rfl : x = a := by simpa using hxa
      rw [if_pos rfl] at hxj
      obtain rfl : job.moved .running now = j := by simpa using hxj
      exact Or.inl rfl
  · intro other j hoj hs
    rw [hfind] at hoj
    by_cases he : other = a.job
    · rw [if_pos he] at hoj
      obtain rfl : job.moved .running now = j := by simpa using hoj
      exact absurd hs (by simp)
    · rw [if_neg he] at hoj
      obtain ⟨x, hx, hxj⟩ := h.pending_of_queued hoj hs
      rw [hpend] at hx
      rcases List.mem_cons.mp hx with rfl | hrest
      · exact absurd hxj.symm he
      · exact ⟨x, hrest, hxj⟩
  · intro other j hoj hs
    rw [hrun']
    by_cases he : other = a.job
    · exact ⟨a, by simp, he.symm⟩
    · rw [hfind, if_neg he] at hoj
      obtain ⟨x, hx, hxj⟩ := h.running_of_running hoj hs
      exact ⟨x, List.mem_append_left _ hx, hxj⟩

end Placed

end JobBoard

end QueryDispatch
