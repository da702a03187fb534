import QueryDispatch.Proofs.Cache.WireAges
import QueryDispatch.Proofs.Calendar.TimeSpans

/-! # Ages in checked arithmetic

  A result is compared by two spans: the one from its time until now, and the
  one that the maximal age stands for. The seconds of an age may be more than
  the longest span has, and are cut to it. No two instants are that far apart,
  so the cut decides nothing, and neither span is ever missing.
-/

namespace QueryDispatch.MaxAge

/-! ### Seconds that are cut -/

/-- The seconds in a word with a sign, cut to those of the longest span. -/
def limit (n : UInt64) : Int64 := min (seconds n).toInt64 (9223372036854775807 / 1000)

theorem toInt_min (a b : Int64) : (min a b).toInt = min a.toInt b.toInt := by
  show (if a ≤ b then a else b).toInt = _
  simp only [Int64.le_iff_toInt_le]
  split <;> omega

/-- Seconds beyond the range of the word become the largest one. -/
theorem toInt_toInt64_seconds (n : UInt64) :
    (seconds n).toInt64.toInt = min (n.toNat : Int) 9223372036854775807 := by
  show (if n < 9223372036854775808 then n.toInt64 else 9223372036854775807).toInt = _
  by_cases h : n < 9223372036854775808
  · have hlt : n.toNat < 9223372036854775808 := UInt64.lt_iff_toNat_lt.mp h
    rw [if_pos h, toInt_toInt64 h]
    omega
  · have hle : 9223372036854775808 ≤ n.toNat := UInt64.le_iff_toNat_le.mp (UInt64.not_lt.mp h)
    have hlargest : (9223372036854775807 : Int64).toInt = 9223372036854775807 := rfl
    rw [if_neg h, hlargest]
    omega

/-- The cut in words is the one in numbers. -/
theorem toInt_limit (n : UInt64) : (limit n).toInt = span n := by
  have hlongest : ((9223372036854775807 : Int64) / 1000).toInt = longestSpan := rfl
  rw [limit, toInt_min, toInt_toInt64_seconds, hlongest]
  unfold span
  omega

theorem isSpanLength_limit (n : UInt64) : IsSpanLength ((limit n).toInt * 1000000000) := by
  rw [toInt_limit]
  unfold IsSpanLength span longestSpan Duration.longest
  omega

/-- No difference of instants is long enough to be told from one that is cut. -/
theorem le_span_iff (n : UInt64) (retrieved now : Instant) :
    now.nanoseconds - retrieved.nanoseconds ≤ (span n : Int) * 1000000000 ↔
      now.nanoseconds - retrieved.nanoseconds ≤ (n.toNat : Int) * 1000000000 := by
  have hlt := Instant.natAbs_difference_lt retrieved now
  have hcalendar : Instant.calendarSeconds + 2 ≤ longestSpan := by decide
  have hlongest : longestSpan ≤ 9223372036854775807 := by decide
  -- where the seconds are cut, both sides hold of every difference
  unfold span
  omega

theorem accepts_iff (n : UInt64) {retrieved now : Instant}
    (hretrieved : retrieved.nanosecond < 1000000000) (hnow : now.nanosecond < 1000000000) :
    (seconds n).accepts retrieved now = true ↔
      now.nanoseconds - retrieved.nanoseconds ≤ (n.toNat : Int) * 1000000000 := by
  rw [accepts_eq_admits, admits_seconds, decide_eq_true_iff, Instant.since_eq hretrieved hnow,
    le_span_iff]

/-! ### Checked arithmetic -/

/-- Whether a result may be used, by spans. There is no answer where a span is missing. -/
def acceptsIn? (spans : SpanArithmetic) (age : MaxAge) (retrieved now : Instant) : Option Bool :=
  match age with
  | .never => some false
  | .forever => some true
  | .seconds n => do
    let difference ← spans.between? retrieved now
    let longest ← spans.ofSeconds? (limit n)
    return spans.atMost difference longest

/-- Both spans are there, and they compare as the numbers do. -/
theorem acceptsIn?_eq (spans : SpanArithmetic) (age : MaxAge) {retrieved now : Instant}
    (hretrieved : retrieved.nanosecond < 1000000000) (hnow : now.nanosecond < 1000000000) :
    acceptsIn? spans age retrieved now = some (age.accepts retrieved now) := by
  cases age with
  | never => rfl
  | forever => rfl
  | seconds n =>
    -- neither span is missing, whatever the instants and the seconds are
    obtain ⟨difference, hdifference⟩ := Option.isSome_iff_exists.mp
      ((spans.between?_isSome hretrieved hnow).mpr (Instant.isSpanLength_difference _ _))
    obtain ⟨longest, hlongest⟩ := Option.isSome_iff_exists.mp
      ((spans.ofSeconds?_isSome (limit n)).mpr (isSpanLength_limit n))
    have hexact := spans.between?_exact hretrieved hnow hdifference
    have hcut := spans.ofSeconds?_exact hlongest
    have hanswer : acceptsIn? spans (.seconds n) retrieved now =
        some (spans.atMost difference longest) := by
      unfold acceptsIn?
      simp only [hdifference, hlongest]
      rfl
    have hcompare : spans.atMost difference longest = true ↔
        (seconds n).accepts retrieved now = true := by
      rw [spans.atMost_iff, hexact, hcut, toInt_limit, le_span_iff, accepts_iff n hretrieved hnow]
    rw [hanswer, Bool.eq_iff_iff.mpr hcompare]

/-! ### Exact ages -/

/-- A result may be used if and only if it is at most so many seconds old, to the nanosecond,
    whether it was retrieved before now or after. Checked arithmetic of durations says the same and
    misses no span. More seconds take no result away, and neither do a later retrieval and an
    earlier time of asking. -/
theorem seconds_accept_by_exact_age (spans : SpanArithmetic) (n : UInt64)
    {retrieved now : Instant} (hretrieved : retrieved.nanosecond < 1000000000)
    (hnow : now.nanosecond < 1000000000) :
    ((seconds n).accepts retrieved now = true ↔
      now.nanoseconds - retrieved.nanoseconds ≤ (n.toNat : Int) * 1000000000) ∧
    acceptsIn? spans (.seconds n) retrieved now = some ((seconds n).accepts retrieved now) ∧
    (∀ m, n ≤ m → (seconds n).accepts retrieved now = true →
      (seconds m).accepts retrieved now = true) ∧
    (∀ later : Instant, later.nanosecond < 1000000000 →
      retrieved.nanoseconds ≤ later.nanoseconds →
      (seconds n).accepts retrieved now = true → (seconds n).accepts later now = true) ∧
    (∀ earlier : Instant, earlier.nanosecond < 1000000000 →
      earlier.nanoseconds ≤ now.nanoseconds →
      (seconds n).accepts retrieved now = true → (seconds n).accepts retrieved earlier = true) := by
  refine ⟨accepts_iff n hretrieved hnow, acceptsIn?_eq spans (.seconds n) hretrieved hnow, ?_⟩
  rw [accepts_iff n hretrieved hnow]
  refine ⟨?_, ?_, ?_⟩
  · intro m hm hold
    have hle : n.toNat ≤ m.toNat := UInt64.le_iff_toNat_le.mp hm
    rw [accepts_iff m hretrieved hnow]
    omega
  · intro later hplain hlater hold
    rw [accepts_iff n hplain hnow]
    omega
  · intro earlier hplain hearlier hold
    rw [accepts_iff n hretrieved hplain]
    omega

/-- The last moment of the calendar is a nanosecond less than a number of seconds behind the first
    one: so many seconds take it, one second fewer does not. The seconds of the largest word are cut
    and still take the whole calendar. -/
theorem seconds_accept_over_calendar :
    let first : Instant := ⟨Instant.earliest, 0, by decide⟩
    let last : Instant := ⟨Instant.latest, 999999999, by decide⟩
    acceptsIn? .inWords (.seconds 18446744073709551615) first last = some true ∧
    acceptsIn? .inWords (.seconds 16544868105600) first last = some true ∧
    acceptsIn? .inWords (.seconds 16544868105599) first last = some false ∧
    acceptsIn? .inWords (.seconds 0) last first = some true := by
  intro first last
  have hforth : ∀ n, acceptsIn? .inWords (.seconds n) first last =
      some ((seconds n).accepts first last) :=
    fun n => (seconds_accept_by_exact_age .inWords n (by decide) (by decide)).2.1
  have hback : acceptsIn? .inWords (.seconds 0) last first =
      some ((seconds 0).accepts last first) :=
    (seconds_accept_by_exact_age .inWords 0 (by decide) (by decide)).2.1
  rw [hforth, hforth, hforth, hback]
  decide +kernel

end QueryDispatch.MaxAge
