import QueryDispatch.Proofs.Board.Invariant

/-! # Closing the board

  Shutting down cancels the active jobs one by one. The order does not matter:
  each job of the list is cancelled once, and the other jobs, the places and
  the queue stay as they are. As the list holds every active job, none is left.
-/

namespace QueryDispatch

namespace JobBoard

variable {b c : JobBoard} {id : JobId} {job : Job}

namespace Sound

theorem cancel_of_active (h : b.Sound) (ha : b.active.find? id = some job) (now : Instant) :
    b.cancel id now = b.close id (job.moved .cancelled now) Counters.addCancelled := by
  unfold cancel
  rw [ha]
  exact h.drop_of_active ha now

theorem cancel_of_not_active (ha : b.active.find? id = none) (now : Instant) :
    b.cancel id now = b := by
  unfold cancel
  rw [ha]
  rfl

theorem cancel (h : b.Sound) (id : JobId) (now : Instant) : (b.cancel id now).Sound := by
  cases ha : b.active.find? id with
  | none =>
    rw [cancel_of_not_active ha]
    exact h
  | some job =>
    rw [h.cancel_of_active ha]
    exact h.cancel_close ha rfl rfl rfl (List.Sublist.refl _) (fun _ hx _ => hx) rfl rfl

end Sound

/-! ### One job after the other -/

/-- The board `c` is `b` with the active ones of some jobs cancelled. -/
structure Swept (b : JobBoard) (ids : List JobId) (now : Instant) (c : JobBoard) : Prop where
  sound : c.Sound
  queue_eq : c.queue = b.queue
  waiting_eq : c.waiting = b.waiting
  running_eq : c.running = b.running
  closed_eq : c.closed = b.closed
  cancelled : ∀ {id : JobId} {job : Job}, id ∈ ids → b.active.find? id = some job →
    c.find? id = some (job.moved .cancelled now)
  gone : ∀ {id : JobId}, id ∈ ids → c.active.find? id = none
  kept : ∀ {id : JobId}, id ∉ ids ∨ b.active.find? id = none →
    c.find? id = b.find? id ∧ c.active.find? id = b.active.find? id

theorem Swept.nil (h : b.Sound) (now : Instant) : Swept b [] now b where
  sound := h
  queue_eq := rfl
  waiting_eq := rfl
  running_eq := rfl
  closed_eq := rfl
  cancelled hm := absurd hm (by simp)
  gone hm := absurd hm (by simp)
  kept _ := ⟨rfl, rfl⟩

theorem Swept.cons {ids : List JobId} {now : Instant} (h : b.Sound)
    (hs : Swept (b.cancel id now) ids now c) : Swept b (id :: ids) now c := by
  cases ha : b.active.find? id with
  | none =>
    -- a job that has ended is passed over
    rw [Sound.cancel_of_not_active ha] at hs
    refine ⟨hs.sound, hs.queue_eq, hs.waiting_eq, hs.running_eq, hs.closed_eq, ?_, ?_, ?_⟩
    · intro other job hm hj
      rcases List.mem_cons.mp hm with rfl | hm
      · rw [ha] at hj
        exact absurd hj (by simp)
      · exact hs.cancelled hm hj
    · intro other hm
      by_cases ho : other ∈ ids
      · exact hs.gone ho
      · rcases List.mem_cons.mp hm with rfl | hm
        · exact (hs.kept (Or.inr ha)).2.trans ha
        · exact absurd hm ho
    · intro other hk
      refine hs.kept (hk.imp_left ?_)
      intro hn hm
      exact hn (List.mem_cons_of_mem _ hm)
  | some last =>
    rw [h.cancel_of_active ha] at hs
    -- an active job is closed first, and the sweep then passes over it
    have hfind := find?_close b id
    have hactive : ∀ other, (b.close id (last.moved .cancelled now)
        Counters.addCancelled).active.find? other =
          if other = id then none else b.active.find? other :=
      fun other => Assoc.find?_erase b.active id other
    refine ⟨hs.sound, hs.queue_eq, hs.waiting_eq, hs.running_eq, hs.closed_eq, ?_, ?_, ?_⟩
    · intro other job hm hj
      by_cases he : other = id
      · subst he
        obtain rfl : last = job := by
          rw [ha] at hj
          simpa using hj
        rw [(hs.kept (Or.inr (by rw [hactive, if_pos rfl]))).1, hfind, if_pos rfl]
      · have hm' : other ∈ ids := (List.mem_cons.mp hm).resolve_left he
        exact hs.cancelled hm' (by rw [hactive, if_neg he]; exact hj)
    · intro other hm
      by_cases he : other = id
      · subst he
        have hgone := hactive other
        rw [if_pos rfl] at hgone
        exact (hs.kept (Or.inr hgone)).2.trans hgone
      · exact hs.gone ((List.mem_cons.mp hm).resolve_left he)
    · intro other hk
      have he : other ≠ id := by
        rintro rfl
        rcases hk with hn | hn
        · exact hn (List.mem_cons_self ..)
        · rw [ha] at hn
          exact absurd hn (by simp)
      have hk' : other ∉ ids ∨ b.active.find? other = none :=
        hk.imp_left fun hn hm => hn (List.mem_cons_of_mem _ hm)
      have hk'' : other ∉ ids ∨ (b.close id (last.moved .cancelled now)
          Counters.addCancelled).active.find? other = none := by
        rwa [hactive, if_neg he]
      have hkept := hs.kept hk''
      rw [hfind, if_neg he, hactive, if_neg he] at hkept
      exact hkept

/-- Cancelling jobs one by one sweeps them. -/
theorem swept_foldl (h : b.Sound) (ids : List JobId) (now : Instant) :
    Swept b ids now (ids.foldl (fun b id => b.cancel id now) b) := by
  -- the board is general: each job is cancelled on what the ones before it left
  induction ids generalizing b with
  | nil => exact Swept.nil h now
  | cons id ids ih => exact Swept.cons h (ih (h.cancel id now))

/-! ### Shutting down -/

/-- What a cancellation keeps, and closing the queue too, is kept by shutting down. -/
theorem shutDown_induction {P : JobBoard → Prop} {now : Instant} (h : b.Sound) (hb : P b)
    (hcancel : ∀ c id, c.Sound → P c → P (c.cancel id now))
    (hclose : ∀ c : JobBoard, P c → P { c with closed := true }) : P (b.shutDown now) := by
  unfold shutDown
  apply hclose
  -- the list is general: the keys are those of the board before the first cancellation
  generalize b.active.keys = ids
  induction ids generalizing b with
  | nil => exact hb
  | cons id ids ih => exact ih (h.cancel id now) (hcancel b id h hb)

/-- The board `c` is `b` after it was shut down. -/
structure Shut (b : JobBoard) (now : Instant) (c : JobBoard) : Prop where
  sound : c.Sound
  queue_eq : c.queue = b.queue
  waiting_eq : c.waiting = b.waiting
  running_eq : c.running = b.running
  closed : c.closed = true
  cancelled : ∀ {id : JobId} {job : Job}, b.active.find? id = some job →
    c.find? id = some (job.moved .cancelled now)
  kept : ∀ {id : JobId}, b.active.find? id = none → c.find? id = b.find? id

theorem shutDown_shut (h : b.Sound) (now : Instant) : Shut b now (b.shutDown now) := by
  have hs := swept_foldl h b.active.keys now
  -- the sweep covers every active job
  have hmem : ∀ {id : JobId} {job : Job}, b.active.find? id = some job → id ∈ b.active.keys := by
    intro id job hj
    exact Assoc.mem_keys_iff.mpr (by rw [hj]; rfl)
  have hfind : ∀ id, (b.shutDown now).find? id =
      (b.active.keys.foldl (fun b id => b.cancel id now) b).find? id := fun _ => rfl
  refine ⟨⟨?_, ?_, ?_⟩, hs.queue_eq, hs.waiting_eq, hs.running_eq, rfl, ?_, ?_⟩
  · exact hs.sound.toTidy.congr rfl rfl rfl
  · exact hs.sound.toPlaced.rearrange hfind (List.Perm.refl _) rfl
  · intro _ id
    cases hj : b.active.find? id with
    | some job => exact hs.gone (hmem hj)
    | none => exact (hs.kept (Or.inr hj)).2.trans hj
  · intro id job hj
    exact hs.cancelled (hmem hj) hj
  · intro id hj
    exact (hs.kept (Or.inr hj)).1

end JobBoard

end QueryDispatch
