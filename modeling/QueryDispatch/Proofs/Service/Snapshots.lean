import Mathlib.Logic.Relation
import QueryDispatch.Proofs.Data.Chains
import QueryDispatch.Proofs.Service.Answers
import QueryDispatch.Proofs.Service.CreatedJobs
import QueryDispatch.Proofs.Service.Storing

/-! # What is seen of a job

  Whoever asks for a job sees it as it stands on the board: by looking it up,
  by waiting for its end, by cancelling it, or when a call comes back with it.
  What is seen over time follows the status diagram, and the last form of a
  job is seen for good.
-/

namespace QueryDispatch

/-- The status diagram has this move. -/
def JobStatus.Moves (s t : JobStatus) : Prop := s.canMoveTo t = true

namespace Job

/-- A later sight of a job against an earlier one: it is the same request, the status has gone along
    the diagram, and nothing at all has changed once the job has ended. -/
structure Becomes (earlier later : Job) : Prop where
  follows : later.Follows earlier
  moves : Relation.ReflTransGen JobStatus.Moves earlier.status later.status
  eq_of_ended : earlier.status.isTerminal = true → later = earlier

namespace Becomes

theorem refl (job : Job) : Becomes job job where
  follows := Follows.refl job
  moves := Relation.ReflTransGen.refl
  eq_of_ended _ := rfl

theorem trans {a b c : Job} (h : Becomes a b) (g : Becomes b c) : Becomes a c where
  follows := g.follows.trans h.follows
  moves := h.moves.trans g.moves
  eq_of_ended ht := by
    obtain rfl := h.eq_of_ended ht
    exact g.eq_of_ended ht

/-- A move of the diagram. -/
theorem of_move {a b : Job} (hf : b.Follows a) (hm : a.status.Moves b.status) : Becomes a b where
  follows := hf
  moves := Relation.ReflTransGen.single hm
  eq_of_ended ht := by
    unfold JobStatus.Moves at hm
    rw [JobStatus.canMoveTo_of_isTerminal ht] at hm
    cases hm

end Becomes

end Job

namespace JobBoard

variable {b : JobBoard} {id : JobId} {job : Job}

theorem fetch_of_find? (h : b.find? id = some job) : b.fetch id = .ok job := by
  unfold fetch
  rw [h]

theorem find?_of_fetch (h : b.fetch id = .ok job) : b.find? id = some job := by
  unfold fetch at h
  cases hj : b.find? id with
  | none =>
    rw [hj] at h
    cases h
  | some other =>
    rw [hj] at h
    obtain rfl := Except.ok.inj h
    rfl

/-- What is not active is got without a look at its status. -/
theorem wait?_of_not_active (ha : b.active.find? id = none) :
    b.wait? id = (b.fetch id).map some := by
  unfold wait?
  rw [ha]

theorem wait?_of_active (ha : b.active.find? id = some job) :
    b.wait? id = .ok (if job.status.isTerminal then some job else none) := by
  unfold wait?
  rw [ha]

/-- What is got by waiting is on the board. -/
theorem find?_of_wait? (h : b.wait? id = .ok (some job)) : b.find? id = some job := by
  cases ha : b.active.find? id with
  | none =>
    rw [wait?_of_not_active ha] at h
    obtain ⟨other, hother, hsome⟩ := map_eq_ok.mp h
    obtain rfl := Option.some.inj hsome
    exact find?_of_fetch hother
  | some other =>
    rw [wait?_of_active ha] at h
    have hsome := Except.ok.inj h
    split at hsome
    · obtain rfl := Option.some.inj hsome
      exact find?_of_active ha
    · cases hsome

/-- Whoever waits for a job gets it when it has ended, and not before. -/
theorem Tidy.wait?_of_find? (h : b.Tidy) (hj : b.find? id = some job) :
    b.wait? id = .ok (if job.status.isTerminal then some job else none) := by
  cases ha : b.active.find? id with
  | none =>
    -- the job is retired, and only jobs that have ended are
    rw [wait?_of_not_active ha, fetch_of_find? hj, h.ended_of_not_active ha hj]
    rfl
  | some other =>
    obtain rfl := find?_unique hj (find?_of_active ha)
    exact wait?_of_active ha

/-- What is got by waiting has ended. -/
theorem Tidy.isTerminal_of_wait? (h : b.Tidy) (hw : b.wait? id = .ok (some job)) :
    job.status.isTerminal = true := by
  rw [h.wait?_of_find? (find?_of_wait? hw)] at hw
  have hsome := Except.ok.inj hw
  split at hsome
  · next ht => exact ht
  · cases hsome

end JobBoard

namespace Service

variable {s₀ s t : Service} {b b' : JobBoard} {store kept : Store} {l : Label} {a : Answer}
  {id : JobId} {job later : Job} {trace rest : List (Label × Answer)}

/-! ### How a job goes on -/

theorem JobStep.becomes (h : JobStep b store l kept id job later) : job.Becomes later := by
  cases h with
  | same => exact Job.Becomes.refl job
  | started hl hs =>
    refine Job.Becomes.of_move (job.moved_follows _ _) ?_
    rw [hs]
    rfl
  | cancelled hl hs =>
    refine Job.Becomes.of_move (job.moved_follows _ _) ?_
    -- both statuses before the end may go over to this one
    cases hstatus : job.status <;> simp_all [JobStatus.isTerminal, JobStatus.Moves,
      JobStatus.canMoveTo]
  | ended hl ha hs he =>
    refine Job.Becomes.of_move he.follows ?_
    rw [hs]
    cases he <;> rfl

/-- Along a run a job stays known and goes along the diagram. -/
theorem Run.becomes (hr : Run s rest t) (h : s.board.Sound) (hj : s.board.find? id = some job) :
    ∃ later, t.board.find? id = some later ∧ job.Becomes later := by
  induction hr with
  | start => exact ⟨job, hj, Job.Becomes.refl job⟩
  | step hr hf hs ih =>
    obtain ⟨before, hb, hbefore⟩ := ih
    have hsound := hr.sound h
    obtain ⟨later, hlater, hstep⟩ := (step_change hsound hf hs).job_step hsound hf.1 hb
    exact ⟨later, hlater, hbefore.trans hstep.becomes⟩

/-! ### What is shown -/

/-- A form in which the job is shown after the steps of a trace: to whoever looks it up or waits for
    its end then, or in the answer of the last step. -/
inductive Shows (trace : List (Label × Answer)) (s : Service) (id : JobId) (job : Job) :
    Prop where
  | fetched (h : s.board.fetch id = .ok job)
  | waited (h : s.board.wait? id = .ok (some job))
  | returned {l : Label} (h : trace.head? = some (l, .ok (.queued job))) (hid : job.id = id)
  | cancelled {now : Instant} (h : trace.head? = some (.cancel id now, .ok (.job job)))

theorem fetch_of_answer {looked : Except DispatchError Job}
    (h : looked.map Reply.job = .ok (.job job)) : looked = .ok job := by
  cases looked with
  | error e => cases h
  | ok other =>
    injection h with hreply
    injection hreply with hjob
    rw [hjob]

/-- What is shown is the job on the board. -/
theorem Shows.find?_eq (h : Shows trace s id job) (hr : Run s₀ trace s) (h₀ : s₀.board.Sound) :
    s.board.find? id = some job := by
  cases h with
  | fetched hfetch => exact JobBoard.find?_of_fetch hfetch
  | waited hwait => exact JobBoard.find?_of_wait? hwait
  | returned hhead hid =>
    cases hr with
    | start => cases hhead
    | step hr hf hs =>
      obtain ⟨rfl, rfl⟩ := Prod.mk.injEq .. ▸ Option.some.inj hhead
      have hsound := hr.sound h₀
      rw [← hid]
      exact (step_change hsound hf hs).find?_of_queued hsound
  | @cancelled now hhead =>
    cases hr with
    | start => cases hhead
    | step hr hf hs =>
      obtain ⟨rfl, rfl⟩ := Prod.mk.injEq .. ▸ Option.some.inj hhead
      obtain ⟨hanswer, rfl⟩ := Prod.mk.injEq .. ▸ Option.some.inj hs
      -- the answer is looked up on the board that the cancellation leaves
      exact JobBoard.find?_of_fetch (fetch_of_answer hanswer)

/-- A step does not say of a job on the board that there is none. -/
theorem Change.ne_noSuchJob (hc : Change b store l a b' kept) (hj : b.find? id = some job)
    (hr : ∀ q id now e, l = .request q id now → b' = b → a = .error e → e.isRefusal = true) :
    a ≠ .error (.noSuchJob id) := by
  intro ha
  cases hc with
  | answered => exact absurd (hr _ _ _ _ rfl rfl ha) (by simp [DispatchError.isRefusal])
  | @cancelledLate other now hactive =>
    cases hother : b.find? other with
    | some known =>
      rw [JobBoard.fetch_of_find? hother] at ha
      cases ha
    | none =>
      have hfetch : b.fetch other = .error (.noSuchJob other) := by
        unfold JobBoard.fetch
        rw [hother]
      rw [hfetch] at ha
      obtain rfl : other = id := by
        have hinner := Except.error.inj ha
        injection hinner
      rw [hj] at hother
      cases hother
  | _ => cases ha

/-- Along a run it is said of no job that is there that there is none. -/
theorem Run.ne_noSuchJob (hr : Run s rest t) (h : s.board.Sound)
    (hj : s.board.find? id = some job) : ∀ e ∈ rest, e.2 ≠ .error (.noSuchJob id) := by
  induction hr with
  | start =>
    intro e he
    cases he
  | step hr hf hs ih =>
    intro e he
    rcases List.mem_cons.mp he with rfl | hold
    · have hsound := hr.sound h
      obtain ⟨before, hb, -⟩ := hr.becomes h hj
      exact (step_change hsound hf hs).ne_noSuchJob hb (step_isRefusal hsound hf hs)
    · exact ih e hold

/-- Cancelling a job that is there is answered with a job. -/
theorem cancel_answered (h : s.board.Sound) (hj : s.board.find? id = some job) (now : Instant) :
    ∃ last u, s.step? (.cancel id now) = some (.ok (.job last), u) := by
  have hc := cancel_change h id now s.store
  obtain ⟨last, hlast, -⟩ := hc.job_step h (by simp [Label.newJob?]) hj
  refine ⟨last, { s with board := s.board.cancel id now }, ?_⟩
  simp only [step?, JobBoard.fetch_of_find? hlast]
  rfl

/-- A job that a run created is there for good: it can be looked up, waited for and cancelled, and
    no step says that there is none. What is shown of it follows the status diagram, and it is
    shown in its last form from its end on. Waiting brings it in a last form only. -/
theorem snapshots_follow_diagram {config : Config} {registry : Registry}
    (hstart : Service.start config store registry = .ok s₀) (hrun : Run s₀ trace s)
    (hid : id ∈ createdIn trace) (hrest : Run s rest t) :
    (∃ job, t.board.fetch id = .ok job ∧
      t.board.wait? id = .ok (if job.status.isTerminal then some job else none) ∧
      ∀ now, ∃ last u, t.step? (.cancel id now) = some (.ok (.job last), u)) ∧
    (∀ e ∈ rest, e.2 ≠ .error (.noSuchJob id)) ∧
    (∀ earlier later, Shows trace s id earlier → Shows (rest ++ trace) t id later →
      earlier.Becomes later) ∧
    ∀ job, t.board.wait? id = .ok (some job) → job.status.isTerminal = true := by
  have h₀ : s₀.board.Sound := start_sound hstart
  have h : s.board.Sound := hrun.sound h₀
  have ht : t.board.Sound := hrest.sound h
  obtain ⟨first, hfirst⟩ := hrun.find?_of_created h₀ (start_find? hstart) hid
  obtain ⟨last, hlast, hbecomes⟩ := hrest.becomes h hfirst
  refine ⟨⟨last, JobBoard.fetch_of_find? hlast, ht.wait?_of_find? hlast, ?_⟩, ?_, ?_, ?_⟩
  · intro now
    exact cancel_answered ht hlast now
  · exact hrest.ne_noSuchJob h hfirst
  · -- what is shown is the job of the board, before and after
    intro earlier later hearlier hlater
    have he := hearlier.find?_eq hrun h₀
    have hl := hlater.find?_eq (hrun.trans hrest) h₀
    obtain rfl : first = earlier := JobBoard.find?_unique hfirst he
    obtain rfl : last = later := JobBoard.find?_unique hlast hl
    exact hbecomes
  · intro job hwait
    exact ht.isTerminal_of_wait? hwait

/-- A job from the call that created it to its end: it is shown queued, and then as succeeded. -/
theorem snapshots_of_some_job :
    ∃ (rest : List (Label × Answer)) (t : Service) (first last : Job),
      Run (smallQueued Store.empty Registry.empty someRequest (jobId 1) .epoch) rest t ∧
      first.status = .queued ∧ last.status = .succeeded ∧
      t.board.wait? (jobId 1) = .ok (some last) ∧ first.Becomes last ∧
      ∀ e ∈ rest, e.2 ≠ .error (.noSuchJob (jobId 1)) := by
  have h₀ := small_sound Store.empty Registry.empty
  have hr₁ := small_enqueue Store.empty Registry.empty someRequest (jobId 1) .epoch
  have hj₁ := smallQueued_active Store.empty Registry.empty someRequest (jobId 1) .epoch
  obtain ⟨t, hrest, hj, -⟩ := Run.complete Run.start (hr₁.sound h₀) rfl rfl rfl hj₁ rfl rfl rfl rfl
    .epoch (c := noRows)
  have hwait := (hrest.sound (hr₁.sound h₀)).wait?_of_find? hj
  obtain ⟨-, hknown, hshown, -⟩ :=
    snapshots_follow_diagram (small_start _ _) hr₁ (List.mem_singleton.mpr rfl) hrest
  exact ⟨_, t, _, _, hrest, rfl, rfl, hwait,
    hshown _ _ (Shows.returned rfl rfl) (Shows.waited hwait), hknown⟩

end Service

end QueryDispatch
