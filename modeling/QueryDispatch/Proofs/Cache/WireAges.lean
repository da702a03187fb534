import QueryDispatch.Cache.MaxAge
import QueryDispatch.Proofs.Calendar.InstantOrder
import QueryDispatch.Proofs.Json.WireForms

/-! # Maximal ages that are written and read back

  An age takes a result or not by the difference of two times alone. Seconds
  beyond the range of the integer are cut when they are written, and cut further
  when they are compared with a difference, so the first cut changes nothing.
  Zero seconds take results that are not older than the time of asking, but the
  integer zero stands for the age that takes none, and that is what they come
  back as.
-/

namespace QueryDispatch

namespace MaxAge

/-! ### Differences of times -/

/-- The whole seconds that a difference of times is compared with. -/
def span (n : UInt64) : Nat := min (min n.toNat 9223372036854775807) longestSpan

/-- Whether a result that is this many nanoseconds old may be used. -/
def admits (age : MaxAge) (difference : Int) : Bool :=
  match age with
  | .never => false
  | .forever => true
  | .seconds n => decide (difference ≤ (span n : Int) * 1000000000)

theorem accepts_eq_admits (age : MaxAge) (retrieved now : Instant) :
    age.accepts retrieved now = age.admits (now.since retrieved) := by
  cases age <;> rfl

theorem admits_seconds (n : UInt64) (difference : Int) :
    (seconds n).admits difference = decide (difference ≤ (span n : Int) * 1000000000) := rfl

theorem span_zero : span 0 = 0 := rfl

/-- Beyond the range of the integer, the seconds do not matter. -/
theorem span_of_large {n : UInt64} (h : ¬n < 9223372036854775808) :
    span n = span 9223372036854775807 := by
  have hle : 9223372036854775808 ≤ n.toNat := UInt64.le_iff_toNat_le.mp (UInt64.not_lt.mp h)
  unfold span
  rw [Nat.min_eq_right (by omega : 9223372036854775807 ≤ n.toNat)]
  rfl

/-! ### The integer -/

theorem toInt_toInt64 {n : UInt64} (h : n < 9223372036854775808) : n.toInt64.toInt = n.toNat := by
  have hlt : n.toNat < 9223372036854775808 := UInt64.lt_iff_toNat_lt.mp h
  rw [← Int64.toInt_toBitVec, UInt64.toBitVec_toInt64, BitVec.toInt_eq_toNat_of_lt,
    UInt64.toNat_toBitVec]
  rw [UInt64.toNat_toBitVec]
  omega

/-- Seconds within the range of the integer come back. -/
theorem ofInt64_toInt64_of_lt {n : UInt64} (hpos : n ≠ 0) (h : n < 9223372036854775808) :
    ofInt64 n.toInt64 = .seconds n := by
  have hint := toInt_toInt64 h
  have hne : n.toInt64 ≠ 0 := by
    intro hzero
    rw [hzero] at hint
    exact hpos (UInt64.toNat_inj.mp (Int.ofNat_inj.mp hint.symm))
  have hnonneg : ¬n.toInt64 < 0 := by
    rw [Int64.lt_iff_toInt_lt, hint]
    exact Int.not_lt.mpr (Int.natCast_nonneg _)
  unfold ofInt64
  rw [if_neg hne, if_neg hnonneg, UInt64.toUInt64_toInt64]

/-- What an age is read back as. -/
theorem ofInt64_toInt64 (m : MaxAge) :
    ofInt64 m.toInt64 =
      match m with
      | .never => .never
      | .forever => .forever
      | .seconds n =>
        if n = 0 then .never
        else if n < 9223372036854775808 then .seconds n else .seconds 9223372036854775807 := by
  match m with
  | .never => rfl
  | .forever => rfl
  | .seconds n =>
    show ofInt64 (if n < 9223372036854775808 then n.toInt64 else 9223372036854775807) = _
    by_cases hzero : n = 0
    · rw [hzero]
      rfl
    · by_cases hlt : n < 9223372036854775808
      · rw [if_pos hlt, ofInt64_toInt64_of_lt hzero hlt]
        simp only [if_neg hzero, if_pos hlt]
      · rw [if_neg hlt]
        simp only [if_neg hzero, if_neg hlt]
        rfl

/-! ### Meaning -/

theorem admits_ofInt64_toInt64 {m : MaxAge} (h : m ≠ .seconds 0) :
    (ofInt64 m.toInt64).admits = m.admits := by
  rw [ofInt64_toInt64]
  match m with
  | .never => rfl
  | .forever => rfl
  | .seconds n =>
    have hzero : n ≠ 0 := fun hn => h (congrArg seconds hn)
    by_cases hlt : n < 9223372036854775808
    · simp only [if_neg hzero, if_pos hlt]
    · simp only [if_neg hzero, if_neg hlt]
      funext difference
      rw [admits_seconds, admits_seconds, span_of_large hlt]

/-- Every age other than zero seconds takes the same results after it was written and read back,
    whatever their age and in whatever way it is counted. Zero seconds take the results from which
    no time has gone by, which outside of leap seconds are those that are not older than the time
    of asking, and come back as the age that takes none. -/
theorem written_age_keeps_meaning (m : MaxAge) :
    (Wire.decode? (Wire.encode m) : Option MaxAge) = some (ofInt64 m.toInt64) ∧
    ((∀ difference, (ofInt64 m.toInt64).admits difference = m.admits difference) ↔
      m ≠ .seconds 0) ∧
    ((∀ retrieved now, (ofInt64 m.toInt64).accepts retrieved now = m.accepts retrieved now) ↔
      m ≠ .seconds 0) ∧
    (m = .seconds 0 → ofInt64 m.toInt64 = .never ∧
      ∀ retrieved now, m.accepts retrieved now = decide (now.since retrieved ≤ 0) ∧
        (retrieved.nanosecond < 1000000000 → now.nanosecond < 1000000000 →
          m.accepts retrieved now = decide (now.nanoseconds ≤ retrieved.nanoseconds))) := by
  refine ⟨?_, ⟨?_, ?_⟩, ⟨?_, ?_⟩, ?_⟩
  · show (Wire.decode? (Wire.encode m.toInt64) : Option Int64).map ofInt64 = _
    rw [Wire.ReadsBack.decode?_encode]
    rfl
  · intro hsame hm
    rw [hm] at hsame
    exact Bool.false_ne_true (hsame 0)
  · intro hm difference
    rw [admits_ofInt64_toInt64 hm]
  · intro hsame hm
    rw [hm] at hsame
    exact Bool.false_ne_true (hsame .epoch .epoch)
  · intro hm retrieved now
    rw [accepts_eq_admits, accepts_eq_admits, admits_ofInt64_toInt64 hm]
  · intro hm
    rw [hm]
    refine ⟨rfl, ?_⟩
    intro retrieved now
    have hsince : (seconds 0).accepts retrieved now = decide (now.since retrieved ≤ 0) := by
      rw [accepts_eq_admits, admits_seconds, span_zero]
      apply decide_eq_decide.mpr
      omega
    refine ⟨hsince, ?_⟩
    intro hretrieved hnow
    rw [hsince, Instant.since_eq hretrieved hnow]
    apply decide_eq_decide.mpr
    omega

/-- At the time when a result was retrieved, zero seconds take it, and what they are read back as
    does not. -/
theorem zero_seconds_change_meaning :
    (seconds 0).accepts .epoch .epoch = true ∧
      (ofInt64 (seconds 0).toInt64).accepts .epoch .epoch = false :=
  ⟨rfl, rfl⟩

end MaxAge

end QueryDispatch
