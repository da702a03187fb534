import QueryDispatch.Proofs.Service.Enabled
import QueryDispatch.Proofs.Store.Contents

/-! # Steps that store a result

  There is one kind of step that writes to the store: a worker deals with the
  rows of a job that still runs. It adds one result, and in the same step the
  job succeeds with it. After every other step the store is as it was, and the
  succeeded jobs are the ones that there were.
-/

namespace QueryDispatch

namespace Service

variable {b b' : JobBoard} {store kept : Store} {l : Label} {a : Answer} {id : JobId}
  {job later : Job}

/-- The step stores the result `r` of the job `id`, which succeeds. -/
structure Stores (b : JobBoard) (store : Store) (l : Label) (b' : JobBoard) (kept : Store)
    (id : JobId) (job : Job) (r : StoredResult) : Prop where
  label_eq : ∃ c, l = .finish id c ∧ c.result = r.id
  job_eq : b.find? id = some job
  running : job.status = .running
  source_eq : r.source = job.source
  text_eq : r.text = job.text
  fingerprint_eq : r.fingerprint = job.fingerprint
  last_eq : ∃ now, b'.find? id = some (job.succeeded r.id now)
  others : ∀ other, other ≠ id → b'.find? other = b.find? other
  kept_eq : ∃ request : JobRequest, request.metadata = job.metadata ∧
    kept = JobBoard.pointTo { store with records := store.records.insert r } request r.id

/-- The identifier of the result is new. -/
theorem Stores.result_new {s t : Service} {r : StoredResult}
    (h : Stores s.board s.store l t.board t.store id job r) (hf : Fresh s l) :
    s.store.records.result? r.id = none := by
  obtain ⟨c, rfl, hid⟩ := h.label_eq
  exact hf.2 r.id (congrArg some hid)

/-- The two boards have the same succeeded jobs. -/
def SameSucceeded (b b' : JobBoard) : Prop :=
  ∀ (id : JobId) (job : Job), job.status = .succeeded →
    (b'.find? id = some job ↔ b.find? id = some job)

/-- A job that has ended stays as it is. -/
theorem JobStep.eq_of_ended (h : JobStep b store l kept id job later)
    (ht : job.status.isTerminal = true) : later = job := by
  cases h with
  | same => rfl
  | started hl hs =>
    rw [hs] at ht
    exact absurd ht (by simp [JobStatus.isTerminal])
  | cancelled hl hs =>
    rw [hs] at ht
    exact absurd ht (by simp)
  | ended hl ha hs he =>
    rw [hs] at ht
    exact absurd ht (by simp [JobStatus.isTerminal])

/-- No job succeeds in a step that is not the end of a run. -/
theorem Change.sameSucceeded_of_ne (hc : Change b store l a b' kept) (h : b.Sound)
    (hn : ∀ id, l.newJob? = some id → b.find? id = none) (hl : ∀ id c, l ≠ .finish id c) :
    SameSucceeded b b' := by
  intro id job hs
  constructor
  · intro hj
    cases hb : b.find? id with
    | none =>
      -- a new job is queued, or cancelled at once
      obtain ⟨r, now, -, rfl | rfl⟩ := hc.new_job h hb hj
      · exact absurd hs (by simp)
      · exact absurd hs (by simp)
    | some before =>
      obtain ⟨later, hlater, hstep⟩ := hc.job_step h hn hb
      obtain rfl : later = job := JobBoard.find?_unique hlater hj
      cases hstep with
      | same => rfl
      | started => exact absurd hs (by simp)
      | cancelled => exact absurd hs (by simp)
      | ended hfin => exact absurd hfin (hl _ _)
  · intro hb
    obtain ⟨later, hlater, hstep⟩ := hc.job_step h hn hb
    rw [hlater, hstep.eq_of_ended (by rw [hs]; rfl)]

/-- Closing a job that did not succeed leaves the succeeded ones. -/
theorem sameSucceeded_close {c : JobBoard} {last : Job} {change : Counters → Counters}
    (hfind : ∀ i, c.find? i = b.find? i) (hj : b.find? id = some job)
    (hb : job.status ≠ .succeeded) (hlast : last.status ≠ .succeeded) :
    SameSucceeded b (c.close id last change) := by
  intro other job' hs
  rw [JobBoard.find?_close, hfind]
  by_cases he : other = id
  · subst he
    rw [if_pos rfl, hj]
    constructor
    · intro h
      obtain rfl : last = job' := by simpa using h
      exact absurd hs hlast
    · intro h
      obtain rfl : job = job' := by simpa using h
      exact absurd hs hb
  · rw [if_neg he]

/-- A step either leaves the store and the succeeded jobs, or it stores a result. -/
theorem Change.quiet_or_stores (hc : Change b store l a b' kept) (h : b.Sound)
    (hn : ∀ id, l.newJob? = some id → b.find? id = none) :
    kept = store ∧ SameSucceeded b b' ∨ ∃ id job r, Stores b store l b' kept id job r := by
  -- only the end of a run can store anything
  by_cases hl : ∀ id c, l ≠ .finish id c
  · refine Or.inl ⟨?_, hc.sameSucceeded_of_ne h hn hl⟩
    cases hc with
    | finished => exact absurd rfl (hl _ _)
    | _ => rfl
  · obtain ⟨id, c, hlabel⟩ : ∃ id c, l = .finish id c := by
      simpa using hl
    subst hlabel
    cases hc with
    | joined hb => cases hb
    | refused hb => cases hb
    | sent hb => cases hb
    | held hb => cases hb
    | finishedLate ha hj => exact Or.inl ⟨rfl, fun _ _ _ => Iff.rfl⟩
    | @finished _ _ x job last _ change ha hj hs he =>
      obtain ⟨hmem, rfl⟩ := JobBoard.mem_of_running? ha
      have hfind : b.find? x.job = some job := JobBoard.find?_of_active hj
      have hrun : job.status ≠ .succeeded := by
        rw [hs]
        simp
      have hsame : ∀ i, (b.withoutRunning x.job).find? i = b.find? i := fun _ => rfl
      cases he with
      | @stored data inserted ho hi =>
        -- the assignment of the worker was made for this very job
        obtain ⟨known, hknown, hm⟩ := h.assigned x (JobBoard.mem_assignments.mpr (Or.inr hmem))
        obtain rfl : job = known := JobBoard.find?_unique hfind hknown
        have hfp : Fingerprint.of x.request.source.id.value x.request.text = job.fingerprint := by
          rw [(h.intact hfind).fingerprint_eq, hm.source_eq, hm.text_eq]
        refine Or.inr ⟨x.job, job, StoredResult.of c.result x.request.source.id x.request.text data
          c.now c.runtime, ⟨⟨c, rfl, rfl⟩, hfind, hs, hm.source_eq.symm, hm.text_eq.symm, hfp,
          ⟨c.now, ?_⟩, ?_, ⟨x.request, hm.metadata_eq.symm, ?_⟩⟩⟩
        · rw [JobBoard.find?_close, if_pos rfl]
          rfl
        · intro other ho
          rw [JobBoard.find?_close, if_neg ho, hsame]
        · rw [← Store.insert_eq hi]
          rfl
      | unstored => exact Or.inl ⟨rfl, sameSucceeded_close hsame hfind hrun (by simp)⟩
      | failed => exact Or.inl ⟨rfl, sameSucceeded_close hsame hfind hrun (by simp)⟩
      | crashed => exact Or.inl ⟨rfl, sameSucceeded_close hsame hfind hrun (by simp)⟩

end Service

end QueryDispatch
