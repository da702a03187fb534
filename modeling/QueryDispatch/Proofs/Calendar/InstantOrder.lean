import QueryDispatch.Calendar.Instant

/-! # Order and differences of instants

  Outside of leap seconds the nanoseconds since the start of 1970 tell the
  order of instants and their differences. They do not where a leap second is
  involved: half a second into the one at the end of a day there are as many of
  them as half a second into the next day, and still it comes first.
-/

namespace QueryDispatch.Instant

instance : LT Instant where
  lt s t := s.seconds < t.seconds ∨ s.seconds = t.seconds ∧ s.nanosecond < t.nanosecond

instance (s t : Instant) : Decidable (s < t) :=
  inferInstanceAs (Decidable (_ ∨ _))

variable {s t u : Instant}

/-! ### Order -/

theorem le_iff : s ≤ t ↔
    s.seconds < t.seconds ∨ s.seconds = t.seconds ∧ s.nanosecond ≤ t.nanosecond :=
  Iff.rfl

theorem lt_iff : s < t ↔
    s.seconds < t.seconds ∨ s.seconds = t.seconds ∧ s.nanosecond < t.nanosecond :=
  Iff.rfl

theorem not_le : ¬ s ≤ t ↔ t < s := by
  rw [le_iff, lt_iff]
  omega

theorem le_refl (t : Instant) : t ≤ t := Or.inr ⟨rfl, Nat.le_refl _⟩

theorem le_of_lt (h : s < t) : s ≤ t := by
  rw [lt_iff] at h
  rw [le_iff]
  omega

theorem le_trans (h : s ≤ t) (g : t ≤ u) : s ≤ u := by
  rw [le_iff] at *
  omega

/-! ### Nanoseconds -/

theorem le_iff_nanoseconds_le (hs : s.nanosecond < 1000000000) (ht : t.nanosecond < 1000000000) :
    s ≤ t ↔ s.nanoseconds ≤ t.nanoseconds := by
  rw [le_iff]
  unfold nanoseconds
  omega

theorem since_eq (hs : s.nanosecond < 1000000000) (ht : t.nanosecond < 1000000000) :
    t.since s = t.nanoseconds - s.nanoseconds := by
  have hno : leapBetween s t = 0 := by
    unfold leapBetween
    rw [if_neg (by omega), if_neg (by omega)]
  rw [since, hno, Int.zero_mul, Int.add_zero]

end QueryDispatch.Instant
