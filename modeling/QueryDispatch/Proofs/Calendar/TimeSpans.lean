import QueryDispatch.TimeSeries.Duration

/-! # Spans of time

  A library of durations has a longest span in either direction, and gives no
  span beyond it. Differences of instants within the calendar are far shorter.
  Whole seconds and the nanoseconds behind them, each in a word of its own, are
  such a library: no step of theirs leaves a word.
-/

namespace QueryDispatch

/-! ### Libraries of durations -/

/-- A length in nanoseconds that is no longer than the longest duration. -/
def IsSpanLength (nanoseconds : Int) : Prop :=
  nanoseconds.natAbs ≤ Duration.longest * 1000000

instance (nanoseconds : Int) : Decidable (IsSpanLength nanoseconds) :=
  inferInstanceAs (Decidable (_ ≤ _))

/-- Checked arithmetic on spans of time, which are exact to the nanosecond. It gives a span if and
    only if it is no longer than the longest one. Differences are told for instants that are in no
    leap second. -/
structure SpanArithmetic where
  Span : Type
  /-- The length of a span. -/
  nanoseconds : Span → Int
  /-- The span of some seconds. -/
  ofSeconds? : Int64 → Option Span
  /-- The span from one instant to another, which may be the earlier one. -/
  between? : Instant → Instant → Option Span
  /-- Whether a span is not longer than another. -/
  atMost : Span → Span → Bool
  ofSeconds?_exact : ∀ {s d}, ofSeconds? s = some d → nanoseconds d = s.toInt * 1000000000
  ofSeconds?_isSome : ∀ s,
    (ofSeconds? s).isSome = true ↔ IsSpanLength (s.toInt * 1000000000)
  between?_exact : ∀ {t u d}, t.nanosecond < 1000000000 → u.nanosecond < 1000000000 →
    between? t u = some d → nanoseconds d = u.nanoseconds - t.nanoseconds
  between?_isSome : ∀ {t u}, t.nanosecond < 1000000000 → u.nanosecond < 1000000000 →
    ((between? t u).isSome = true ↔ IsSpanLength (u.nanoseconds - t.nanoseconds))
  atMost_iff : ∀ {d e}, atMost d e = true ↔ nanoseconds d ≤ nanoseconds e

/-! ### Differences of instants -/

namespace Instant

/-- Seconds of the calendar are far from the ends of a word of 64 bits. -/
theorem seconds_bounds (t : Instant) :
    -4611686018427387904 < t.seconds ∧ t.seconds < 4611686018427387904 := by
  obtain ⟨⟨hlow, hhigh⟩, -⟩ := t.is_instant
  unfold earliest at hlow
  unfold latest at hhigh
  omega

/-- The seconds from the first one of the calendar to the last. -/
def calendarSeconds : Nat := (latest - earliest).toNat

/-- Instants are less than these seconds and two more apart: an instant can be up to two seconds
    behind the one that it counts. -/
theorem natAbs_difference_lt (t u : Instant) :
    (u.nanoseconds - t.nanoseconds).natAbs < (calendarSeconds + 2) * 1000000000 := by
  obtain ⟨⟨htlow, hthigh⟩, htnano⟩ := t.is_instant
  obtain ⟨⟨hulow, huhigh⟩, hunano⟩ := u.is_instant
  unfold nanoseconds calendarSeconds
  unfold earliest at *
  unfold latest at *
  omega

/-- A difference of instants is never too long. -/
theorem isSpanLength_difference (t u : Instant) :
    IsSpanLength (u.nanoseconds - t.nanoseconds) := by
  have hlt := natAbs_difference_lt t u
  have hcalendar : (calendarSeconds + 2) * 1000000000 ≤ Duration.longest * 1000000 := by decide
  exact Nat.le_of_lt (Nat.lt_of_lt_of_le hlt hcalendar)

end Instant

/-! ### Spans in words -/

/-- A span in words: whole seconds, rounded down, and the nanoseconds behind them. -/
structure WordSpan where
  seconds : Int64
  nanosecond : Int32
  is_below_second : 0 ≤ nanosecond.toInt ∧ nanosecond.toInt < 1000000000

namespace WordSpan

/-- The length of a span. -/
def nanoseconds (d : WordSpan) : Int := d.seconds.toInt * 1000000000 + d.nanosecond.toInt

/-- The words are between those of the longest span into the past and into the future. -/
def Within (seconds : Int64) (nanosecond : Int32) : Prop :=
  -9223372036854776 ≤ seconds ∧ seconds ≤ 9223372036854775 ∧
    (seconds = -9223372036854776 → 193000000 ≤ nanosecond) ∧
    (seconds = 9223372036854775 → nanosecond ≤ 807000000)

instance (seconds : Int64) (nanosecond : Int32) : Decidable (Within seconds nanosecond) :=
  inferInstanceAs (Decidable (_ ∧ _))

/-- The span of these words, if they are one. -/
def of? (seconds : Int64) (nanosecond : Int32) : Option WordSpan :=
  if h : 0 ≤ nanosecond.toInt ∧ nanosecond.toInt < 1000000000 then
    if Within seconds nanosecond then some ⟨seconds, nanosecond, h⟩ else none
  else none

/-- The span from one instant to another. A second is borrowed if the nanoseconds ask for it. -/
def between? (t u : Instant) : Option WordSpan :=
  let seconds := Int64.ofInt u.seconds - Int64.ofInt t.seconds
  let nanosecond := Int32.ofNat u.nanosecond - Int32.ofNat t.nanosecond
  if nanosecond < 0 then of? (seconds - 1) (nanosecond + 1000000000) else of? seconds nanosecond

/-- Whether a span is not longer than another, by the seconds first. -/
def atMost (d e : WordSpan) : Bool :=
  decide (d.seconds < e.seconds ∨ (d.seconds = e.seconds ∧ d.nanosecond ≤ e.nanosecond))

variable {seconds : Int64} {nanosecond : Int32} {t u : Instant} {d e : WordSpan}

theorem within_iff (hlow : 0 ≤ nanosecond.toInt) (hhigh : nanosecond.toInt < 1000000000) :
    Within seconds nanosecond ↔
      IsSpanLength (seconds.toInt * 1000000000 + nanosecond.toInt) := by
  have hlowest : (-9223372036854776 : Int64).toInt = -9223372036854776 := rfl
  have hhighest : (9223372036854775 : Int64).toInt = 9223372036854775 := rfl
  have hfirst : (193000000 : Int32).toInt = 193000000 := rfl
  have hlast : (807000000 : Int32).toInt = 807000000 := rfl
  unfold Within IsSpanLength Duration.longest
  simp only [Int64.le_iff_toInt_le, Int32.le_iff_toInt_le, ← Int64.toInt_inj]
  rw [hlowest, hhighest, hfirst, hlast]
  omega

theorem of?_eq (hbelow : 0 ≤ nanosecond.toInt ∧ nanosecond.toInt < 1000000000) :
    of? seconds nanosecond =
      if IsSpanLength (seconds.toInt * 1000000000 + nanosecond.toInt)
      then some ⟨seconds, nanosecond, hbelow⟩ else none := by
  unfold of?
  rw [dif_pos hbelow]
  by_cases h : Within seconds nanosecond
  · rw [if_pos h, if_pos ((within_iff hbelow.1 hbelow.2).mp h)]
  · rw [if_neg h, if_neg fun hlength => h ((within_iff hbelow.1 hbelow.2).mpr hlength)]

/-- Words that make up a length are a span if and only if it is not too long. -/
theorem of?_spec {length : Int} (hbelow : 0 ≤ nanosecond.toInt ∧ nanosecond.toInt < 1000000000)
    (hlength : seconds.toInt * 1000000000 + nanosecond.toInt = length) :
    ((of? seconds nanosecond).isSome = true ↔ IsSpanLength length) ∧
      ∀ d, of? seconds nanosecond = some d → d.nanoseconds = length := by
  rw [of?_eq hbelow, hlength]
  refine ⟨Option.isSome_ite, ?_⟩
  intro d hd
  rw [← Option.some.inj (Option.ite_none_right_eq_some.mp hd).2]
  exact hlength

/-- Seconds of the calendar are subtracted within their word. -/
theorem toInt_seconds_sub (t u : Instant) :
    (Int64.ofInt u.seconds - Int64.ofInt t.seconds).toInt = u.seconds - t.seconds := by
  have ht := t.seconds_bounds
  have hu := u.seconds_bounds
  rw [Int64.toInt_sub, Int64.toInt_ofInt_of_le (by omega) (by omega),
    Int64.toInt_ofInt_of_le (by omega) (by omega), Int.bmod_eq_of_le (by omega) (by omega)]

/-- So are nanoseconds. -/
theorem toInt_nanosecond_sub (ht : t.nanosecond < 1000000000) (hu : u.nanosecond < 1000000000) :
    (Int32.ofNat u.nanosecond - Int32.ofNat t.nanosecond).toInt =
      (u.nanosecond : Int) - t.nanosecond := by
  rw [Int32.toInt_sub, Int32.toInt_ofNat_of_lt (by omega), Int32.toInt_ofNat_of_lt (by omega),
    Int.bmod_eq_of_le (by omega) (by omega)]

/-- A second less. -/
theorem toInt_sub_one (h : -9223372036854775808 < seconds.toInt) :
    (seconds - 1).toInt = seconds.toInt - 1 := by
  have hone : (1 : Int64).toInt = 1 := rfl
  have hhigh := Int64.toInt_lt seconds
  rw [Int64.toInt_sub, hone, Int.bmod_eq_of_le (by omega) (by omega)]

/-- The nanoseconds of a second more. -/
theorem toInt_add_second (hneg : nanosecond.toInt < 0) :
    (nanosecond + 1000000000).toInt = nanosecond.toInt + 1000000000 := by
  have hsecond : (1000000000 : Int32).toInt = 1000000000 := rfl
  have hlow := Int32.le_toInt nanosecond
  rw [Int32.toInt_add, hsecond, Int.bmod_eq_of_le (by omega) (by omega)]

/-- The words of a difference make up its length, with or without the borrowed second. -/
theorem between?_eq (ht : t.nanosecond < 1000000000) (hu : u.nanosecond < 1000000000) :
    ∃ seconds nanosecond, between? t u = of? seconds nanosecond ∧
      (0 ≤ nanosecond.toInt ∧ nanosecond.toInt < 1000000000) ∧
      seconds.toInt * 1000000000 + nanosecond.toInt = u.nanoseconds - t.nanoseconds := by
  have hseconds := toInt_seconds_sub t u
  have hnanosecond := toInt_nanosecond_sub ht hu
  have htbounds := t.seconds_bounds
  have hubounds := u.seconds_bounds
  unfold Instant.nanoseconds between?
  -- from here on only the values of the two differences of words matter
  generalize Int64.ofInt u.seconds - Int64.ofInt t.seconds = seconds at hseconds ⊢
  generalize Int32.ofNat u.nanosecond - Int32.ofNat t.nanosecond = nanosecond at hnanosecond ⊢
  by_cases hborrow : nanosecond < 0
  · have hneg : nanosecond.toInt < 0 := Int32.lt_iff_toInt_lt.mp hborrow
    refine ⟨seconds - 1, nanosecond + 1000000000, if_pos hborrow, ?_, ?_⟩
    · rw [toInt_add_second hneg]
      omega
    · rw [toInt_sub_one (by omega), toInt_add_second hneg]
      omega
  · have hnonneg : 0 ≤ nanosecond.toInt :=
      Int.not_lt.mp fun h => hborrow (Int32.lt_iff_toInt_lt.mpr h)
    exact ⟨seconds, nanosecond, if_neg hborrow, by omega, by omega⟩

theorem atMost_iff : atMost d e = true ↔ d.nanoseconds ≤ e.nanoseconds := by
  obtain ⟨seconds, nanosecond, hlow, hhigh⟩ := d
  obtain ⟨seconds', nanosecond', hlow', hhigh'⟩ := e
  unfold atMost nanoseconds
  simp only [decide_eq_true_eq, Int64.lt_iff_toInt_lt, Int32.le_iff_toInt_le, ← Int64.toInt_inj]
  omega

end WordSpan

/-- Spans in words are a library of durations. -/
def SpanArithmetic.inWords : SpanArithmetic where
  Span := WordSpan
  nanoseconds := WordSpan.nanoseconds
  ofSeconds? s := WordSpan.of? s 0
  between? := WordSpan.between?
  atMost := WordSpan.atMost
  ofSeconds?_exact {s d} h := (WordSpan.of?_spec (by decide) (Int.add_zero _)).2 d h
  ofSeconds?_isSome s := (WordSpan.of?_spec (by decide) (Int.add_zero _)).1
  between?_exact {t u d} ht hu h := by
    obtain ⟨seconds, nanosecond, heq, hbelow, hlength⟩ := WordSpan.between?_eq ht hu
    exact (WordSpan.of?_spec hbelow hlength).2 d (heq ▸ h)
  between?_isSome {t u} ht hu := by
    obtain ⟨seconds, nanosecond, heq, hbelow, hlength⟩ := WordSpan.between?_eq ht hu
    rw [heq]
    exact (WordSpan.of?_spec hbelow hlength).1
  atMost_iff := WordSpan.atMost_iff

end QueryDispatch
