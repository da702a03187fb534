import QueryDispatch.Proofs.Board.Closing

/-! # Counted jobs

  The counters are kept by the changes of the board, each of which counts one
  job that ends. They are compared here with a count over the jobs themselves:
  how many of them stand at a status. A change that takes one job to another
  form changes that count at the new status of the job and nowhere else.
-/

namespace QueryDispatch

/-! ### What the counters say -/

namespace Counters

/-- What is counted of the jobs that ended with a status. -/
def ended (c : Counters) : JobStatus → Nat
  | .succeeded => c.succeeded
  | .failed => c.failed
  | .cancelled => c.cancelled
  | .queued | .running => 0

/-- What is counted of the calls that came back with a job. -/
def returned (c : Counters) : Nat := c.enqueued + c.deduplicated

/-- The change counts one job that ended with this status, and no call. -/
structure Counts (change : Counters → Counters) (status : JobStatus) : Prop where
  ended_eq : ∀ (c : Counters) (st : JobStatus),
    (change c).ended st = c.ended st + if status = st then 1 else 0
  returned_eq : ∀ c : Counters, (change c).returned = c.returned

theorem addSucceeded_counts : Counts addSucceeded .succeeded where
  ended_eq c st := by cases st <;> rfl
  returned_eq _ := rfl

theorem addFailed_counts : Counts addFailed .failed where
  ended_eq c st := by cases st <;> rfl
  returned_eq _ := rfl

theorem addCancelled_counts : Counts addCancelled .cancelled where
  ended_eq c st := by cases st <;> rfl
  returned_eq _ := rfl

end Counters

/-- Of a list without repetitions as many are in a sublist of it as that one is long. -/
theorem countP_mem_of_nodup {α : Type} [DecidableEq α] {all some : List α} (ha : all.Nodup)
    (hs : some.Nodup) (hsub : some ⊆ all) : all.countP (· ∈ some) = some.length := by
  have hperm : (all.filter (· ∈ some)).Perm some := by
    refine (List.perm_ext_iff_of_nodup (ha.filter _) hs).mpr ?_
    intro x
    rw [List.mem_filter, decide_eq_true_iff]
    exact ⟨fun h => h.2, fun h => ⟨hsub h, h⟩⟩
  rw [List.countP_eq_length_filter, hperm.length_eq]

namespace JobBoard

variable {b c : JobBoard} {id : JobId} {job last : Job} {ids : List JobId} {status : JobStatus}

/-- The end of a run is counted as the job ended. -/
theorem Ending.counts {store kept : Store} {a : Assignment} {completion : Completion}
    {change : Counters → Counters} (h : Ending store a completion job last kept change) :
    Counters.Counts change last.status := by
  cases h with
  | stored => exact Counters.addSucceeded_counts
  | unstored | failed | crashed => exact Counters.addFailed_counts

/-! ### A count over jobs -/

/-- Whether a job stands at a status. -/
def standsAt (b : JobBoard) (status : JobStatus) (id : JobId) : Bool :=
  (b.find? id).any fun job => decide (job.status = status)

/-- How many of these jobs stand at a status. -/
def tally (b : JobBoard) (ids : List JobId) (status : JobStatus) : Nat :=
  ids.countP (b.standsAt status)

theorem standsAt_of_find? (h : b.find? id = some job) (status : JobStatus) :
    b.standsAt status id = decide (job.status = status) := by
  unfold standsAt
  rw [h]
  rfl

theorem standsAt_of_find?_eq_none (h : b.find? id = none) (status : JobStatus) :
    b.standsAt status id = false := by
  unfold standsAt
  rw [h]
  rfl

/-- The count is over what can be asked for. -/
theorem tally_congr (h : ∀ id ∈ ids, c.find? id = b.find? id) (status : JobStatus) :
    c.tally ids status = b.tally ids status := by
  unfold tally
  refine List.countP_congr ?_
  intro id hid
  unfold standsAt
  rw [h id hid]

/-- An identifier without a job does not count. -/
theorem tally_cons_of_find?_eq_none (h : b.find? id = none) (ids : List JobId)
    (status : JobStatus) : b.tally (id :: ids) status = b.tally ids status := by
  unfold tally
  rw [List.countP_cons, standsAt_of_find?_eq_none h]
  rfl

/-- One job comes to another form, and to a status at which it did not stand. -/
theorem tally_update (hn : ids.Nodup) (hid : id ∈ ids)
    (hc : ∀ i, c.find? i = if i = id then some last else b.find? i)
    (hb : b.standsAt status id = false) :
    c.tally ids status = b.tally ids status + if last.status = status then 1 else 0 := by
  -- the job is put in front, and the others are as before
  have hperm : ids.Perm (id :: ids.erase id) := List.perm_cons_erase hid
  have hrest : c.tally (ids.erase id) status = b.tally (ids.erase id) status := by
    refine tally_congr ?_ status
    intro i hi
    have hne : i ≠ id := (List.Nodup.mem_erase_iff hn).mp hi |>.1
    rw [hc, if_neg hne]
  have hlast : c.standsAt status id = decide (last.status = status) :=
    standsAt_of_find? ((hc id).trans (if_pos rfl)) status
  unfold tally at hrest ⊢
  rw [hperm.countP_eq, hperm.countP_eq, List.countP_cons, List.countP_cons, hrest, hb, hlast]
  simp

/-- Every job stands at one status. -/
theorem tally_total (h : ∀ id ∈ ids, (b.find? id).isSome = true) :
    b.tally ids .queued + b.tally ids .running + b.tally ids .succeeded + b.tally ids .failed +
      b.tally ids .cancelled = ids.length := by
  unfold tally
  induction ids with
  | nil => rfl
  | cons id ids ih =>
    have htail := ih fun i hi => h i (List.mem_cons_of_mem id hi)
    obtain ⟨job, hj⟩ := Option.isSome_iff_exists.mp (h id (List.mem_cons_self ..))
    simp only [List.countP_cons, standsAt_of_find? hj, List.length_cons]
    cases job.status <;> simp <;> omega

/-! ### The balance -/

/-- The counters are right for these jobs. -/
def Balanced (b : JobBoard) (ids : List JobId) : Prop :=
  ∀ status : JobStatus, status.isTerminal = true → b.counters.ended status = b.tally ids status

namespace Balanced

/-- Nothing ended, and nothing was counted. -/
theorem congr (h : b.Balanced ids) (hfind : ∀ i, c.find? i = b.find? i)
    (hcount : ∀ status, c.counters.ended status = b.counters.ended status) :
    c.Balanced ids := by
  intro status ht
  rw [hcount, tally_congr (fun i _ => hfind i)]
  exact h status ht

/-- A new identifier may be counted before its job is there. -/
theorem cons (h : b.Balanced ids) (hn : b.find? id = none) : b.Balanced (id :: ids) := by
  intro status ht
  rw [tally_cons_of_find?_eq_none hn]
  exact h status ht

/-- One job that had not ended comes to another form, which is counted. -/
theorem update (h : b.Balanced ids) (hn : ids.Nodup) (hid : id ∈ ids)
    (hlive : ∀ job, b.find? id = some job → job.status.isTerminal = false)
    (hc : ∀ i, c.find? i = if i = id then some last else b.find? i)
    (hcount : ∀ status, status.isTerminal = true →
      c.counters.ended status = b.counters.ended status + if last.status = status then 1 else 0) :
    c.Balanced ids := by
  intro status ht
  have hb : b.standsAt status id = false := by
    cases hj : b.find? id with
    | none => exact standsAt_of_find?_eq_none hj status
    | some job =>
      rw [standsAt_of_find? hj]
      have hl := hlive job hj
      refine decide_eq_false ?_
      rintro rfl
      rw [ht] at hl
      cases hl
  rw [tally_update hn hid hc hb, hcount status ht, h status ht]

/-- An active job is closed and counted. -/
theorem close (h : b.Balanced ids) (hn : ids.Nodup) (hid : id ∈ ids)
    (hlive : ∀ job, b.find? id = some job → job.status.isTerminal = false)
    {change : Counters → Counters} (hcounts : Counters.Counts change last.status) :
    (b.close id last change).Balanced ids :=
  h.update hn hid hlive (fun i => b.find?_close id i last change)
    fun status _ => hcounts.ended_eq b.counters status

theorem cancel (h : b.Balanced ids) (hs : b.Sound) (hn : ids.Nodup)
    (hids : ∀ i, (b.find? i).isSome = true → i ∈ ids) (id : JobId) (now : Instant) :
    (b.cancel id now).Balanced ids := by
  cases ha : b.active.find? id with
  | none =>
    rw [Sound.cancel_of_not_active ha]
    exact h
  | some job =>
    have hfind := find?_of_active ha
    rw [hs.cancel_of_active ha]
    refine h.close hn (hids id (by rw [hfind]; rfl)) ?_ Counters.addCancelled_counts
    intro other ho
    obtain rfl := find?_unique hfind ho
    exact hs.active_live ha

end Balanced

end JobBoard

end QueryDispatch
