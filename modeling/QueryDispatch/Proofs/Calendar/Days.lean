import QueryDispatch.Calendar.Date

/-! # Days by number

  Every number of days within the calendar is that of one date. The days are
  counted in eras of 400 years that begin in March, so that the leap day is
  the last day of its year. A day of an era stands in a century, in a span of
  four years of it, and in a year of the span; only the last year of a span is
  a day longer, and not in the last span of a century, unless this is the last
  one of the era.
-/

namespace QueryDispatch.Date

variable {n era dayOfEra century span rest dayOfYear shifted month day year : Int}

/-- Where a day of an era stands: its century, its span of four years, its year and its day. -/
structure InEra (dayOfEra century span rest dayOfYear : Int) : Prop where
  eq_sum : dayOfEra = 36524 * century + 1461 * span + 365 * rest + dayOfYear
  century_bound : 0 ≤ century ∧ century ≤ 3
  span_bound : 0 ≤ span ∧ span ≤ 24
  rest_bound : 0 ≤ rest ∧ rest ≤ 3
  day_bound : 0 ≤ dayOfYear ∧ dayOfYear ≤ 365
  long_year : dayOfYear = 365 → rest = 3 ∧ (span = 24 → century = 3)

/-- Every day of an era stands somewhere. -/
theorem exists_inEra (h : 0 ≤ dayOfEra ∧ dayOfEra < 146097) :
    ∃ century span rest dayOfYear, InEra dayOfEra century span rest dayOfYear := by
  -- the last day of the era and of a span are days more than the centuries and years hold
  obtain ⟨century, hcentury⟩ : ∃ c, c = min 3 (dayOfEra / 36524) := ⟨_, rfl⟩
  obtain ⟨ofCentury, hofCentury⟩ : ∃ n, n = dayOfEra - 36524 * century := ⟨_, rfl⟩
  obtain ⟨span, hspan⟩ : ∃ b, b = ofCentury / 1461 := ⟨_, rfl⟩
  obtain ⟨ofSpan, hofSpan⟩ : ∃ n, n = ofCentury - 1461 * span := ⟨_, rfl⟩
  obtain ⟨rest, hrest⟩ : ∃ r, r = min 3 (ofSpan / 365) := ⟨_, rfl⟩
  have hofCentury' : 0 ≤ ofCentury ∧ ofCentury ≤ 36524 ∧ (ofCentury = 36524 → century = 3) := by
    omega
  have hofSpan' : 0 ≤ ofSpan ∧ ofSpan ≤ 1460 := by omega
  exact ⟨century, span, rest, ofSpan - 365 * rest, by omega, by omega, by omega, by omega,
    by omega, by omega⟩

namespace InEra

/-- The year of the era is told from the day alone. -/
theorem year_eq (h : InEra dayOfEra century span rest dayOfYear) :
    (dayOfEra - dayOfEra / 1460 + dayOfEra / 36524 - dayOfEra / 146096) / 365 =
      100 * century + 4 * span + rest := by
  obtain ⟨hsum, hcentury, hspan, hrest, hday, hlong⟩ := h
  have hbound : dayOfEra ≤ 146096 := by omega
  have hcenturies : dayOfEra / 36524 - dayOfEra / 146096 = century := by
    by_cases hlast : dayOfEra = 146096
    · omega
    · have hzero : dayOfEra / 146096 = 0 := by omega
      have hbelow : dayOfEra < 36524 * (century + 1) := by omega
      omega
  -- a year of 365 days is one day too short for each span
  have hspans : dayOfEra / 1460 = 25 * century + span +
      (24 * century + span + 365 * rest + dayOfYear) / 1460 := by
    omega
  by_cases hend : 24 * century + span + 365 * rest + dayOfYear < 1460
  · have hnone : (24 * century + span + 365 * rest + dayOfYear) / 1460 = 0 := by omega
    have hshort : dayOfYear ≤ 364 := by omega
    omega
  · have hone : (24 * century + span + 365 * rest + dayOfYear) / 1460 = 1 := by omega
    omega

/-- The leap days before a year of the era: one for each span, and none for a full century. -/
theorem leap_days (h : InEra dayOfEra century span rest dayOfYear) :
    (100 * century + 4 * span + rest) / 4 = 25 * century + span ∧
      (100 * century + 4 * span + rest) / 100 = century := by
  obtain ⟨-, hcentury, hspan, hrest, -, -⟩ := h
  omega

theorem day_eq (h : InEra dayOfEra century span rest dayOfYear) :
    dayOfEra - (365 * (100 * century + 4 * span + rest) + (100 * century + 4 * span + rest) / 4 -
      (100 * century + 4 * span + rest) / 100) = dayOfYear := by
  obtain ⟨hfour, hhundred⟩ := h.leap_days
  have hsum := h.eq_sum
  omega

/-- A year with 366 days ends with a leap day. -/
theorem isLeapYear_of_long (h : InEra dayOfEra century span rest dayOfYear) (era : Int)
    (hlong : dayOfYear = 365) :
    isLeapYear (100 * century + 4 * span + rest + era * 400 + 1) = true := by
  obtain ⟨-, hcentury, hspan, -, -, hlast⟩ := h
  obtain ⟨hrest, hcentury'⟩ := hlast hlong
  have hfour : (100 * century + 4 * span + rest + era * 400 + 1) % 4 = 0 := by omega
  have hhundred : (100 * century + 4 * span + rest + era * 400 + 1) % 100 ≠ 0 ∨
      (100 * century + 4 * span + rest + era * 400 + 1) % 400 = 0 := by
    by_cases hend : span = 24
    · exact Or.inr (by have := hcentury' hend; omega)
    · exact Or.inl (by omega)
  simpa [isLeapYear, hfour] using hhundred

end InEra

/-! ### Bounds -/

theorem daysInMonth_le (year : Int) (month : Nat) : daysInMonth year month ≤ 31 := by
  unfold daysInMonth
  split
  case h_12 => split <;> decide
  all_goals decide

theorem month_bound (d : Date) : 1 ≤ d.month ∧ d.month ≤ 12 := by
  have hday := d.exists_day.2
  refine Decidable.byContradiction fun hout => ?_
  have hnone : daysInMonth d.year d.month = 0 := by
    unfold daysInMonth
    split <;> omega
  omega

theorem day_bound (d : Date) : 1 ≤ d.day ∧ d.day ≤ 31 := by
  have hday := d.exists_day.2
  have hdays := daysInMonth_le d.year d.month
  omega

/-! ### Months that begin with March -/

theorem shifted_cases (h : 0 ≤ dayOfYear ∧ dayOfYear ≤ 365) :
    (5 * dayOfYear + 2) / 153 ∈ [0, 1, 2, 3, 4, 5, 6, 7, 8, 9, 10, 11] := by
  simp only [List.mem_cons, List.not_mem_nil, or_false]
  omega

/-- A day of the year is in its month. -/
theorem day_le_daysInMonth (h : 0 ≤ dayOfYear ∧ dayOfYear ≤ 365)
    (hlong : dayOfYear = 365 → isLeapYear year = true)
    (hshifted : shifted = (5 * dayOfYear + 2) / 153)
    (hmonth : month = if shifted < 10 then shifted + 3 else shifted - 9) :
    dayOfYear - (153 * shifted + 2) / 5 + 1 ≤ daysInMonth year month.toNat := by
  have hcases := shifted_cases h
  rw [← hshifted] at hcases
  simp only [List.mem_cons, List.not_mem_nil, or_false] at hcases
  rcases hcases with rfl | rfl | rfl | rfl | rfl | rfl | rfl | rfl | rfl | rfl | rfl | rfl
  case inr.inr.inr.inr.inr.inr.inr.inr.inr.inr.inr =>
    -- February is the last month, and has the leap day
    obtain rfl : month = 2 := hmonth
    show _ ≤ ((if isLeapYear year then 29 else 28 : Nat) : Int)
    split
    · omega
    · next hleap =>
      have hshort : dayOfYear ≠ 365 := fun heq => hleap (hlong heq)
      omega
  all_goals
    simp only [hmonth]
    simp [daysInMonth]
    omega

/-! ### Dates by number -/

/-- The first and the last day of the calendar. -/
def firstDay : Int := dayNumber (-262143) 1 1

def lastDay : Int := dayNumber 262142 12 31

/-- The date of a day that stands somewhere in an era. -/
theorem isDate_of_inEra (h : InEra dayOfEra century span rest dayOfYear)
    (hlow : firstDay ≤ era * 146097 + dayOfEra - 719468)
    (hhigh : era * 146097 + dayOfEra - 719468 ≤ lastDay)
    (hshifted : shifted = (5 * dayOfYear + 2) / 153)
    (hmonth : month = if shifted < 10 then shifted + 3 else shifted - 9)
    (hday : day = dayOfYear - (153 * shifted + 2) / 5 + 1)
    (hyear : year = 100 * century + 4 * span + rest + era * 400 + if month ≤ 2 then 1 else 0) :
    IsDate year month.toNat day.toNat := by
  have hlength : day ≤ daysInMonth year month.toNat := by
    rw [hday]
    refine day_le_daysInMonth h.day_bound ?_ hshifted hmonth
    intro hlong
    have hfebruary : month ≤ 2 := by omega
    rw [hyear, if_pos hfebruary]
    exact h.isLeapYear_of_long era hlong
  have hfirst : firstDay = -96465292 := by decide
  have hlast : lastDay = 95026236 := by decide
  obtain ⟨hsum, hcentury, hspan, hrest, hdayOfYear, -⟩ := h
  rw [hfirst] at hlow
  rw [hlast] at hhigh
  refine ⟨⟨?_, ?_⟩, by omega, by omega⟩
  · have hera : -656 ≤ era := by omega
    by_cases heq : era = -656
    · have hcentury' : 2 ≤ century := by omega
      omega
    · split at hyear <;> omega
  · have hera : era ≤ 655 := by omega
    by_cases heq : era = 655
    · have hcentury' : century ≤ 1 := by omega
      omega
    · split at hyear <;> omega

/-- And its number. -/
theorem dayNumber_of_inEra (h : InEra dayOfEra century span rest dayOfYear)
    (hshifted : shifted = (5 * dayOfYear + 2) / 153)
    (hmonth : month = if shifted < 10 then shifted + 3 else shifted - 9)
    (hday : day = dayOfYear - (153 * shifted + 2) / 5 + 1)
    (hyear : year = 100 * century + 4 * span + rest + era * 400 + if month ≤ 2 then 1 else 0) :
    dayNumber year month.toNat day.toNat = era * 146097 + dayOfEra - 719468 := by
  obtain ⟨hfour, hhundred⟩ := h.leap_days
  obtain ⟨hsum, hcentury, hspan, hrest, hdayOfYear, -⟩ := h
  have hmonths : ((month.toNat + 9) % 12 : Nat) = shifted := by omega
  have hdays : (day.toNat : Int) = dayOfYear - (153 * shifted + 2) / 5 + 1 := by omega
  have hmarch : (if month.toNat ≤ 2 then year - 1 else year) =
      100 * century + 4 * span + rest + era * 400 := by
    split at hyear <;> split <;> omega
  have hera : (100 * century + 4 * span + rest + era * 400) / 400 = era := by omega
  have hyearOfEra : 100 * century + 4 * span + rest + era * 400 - era * 400 =
      100 * century + 4 * span + rest := by omega
  unfold dayNumber
  simp only [hmarch, hmonths, hdays, hera, hyearOfEra, hfour, hhundred]
  omega

/-- The day with a number, by its place in its era. -/
theorem ofDays?_eq (h : InEra dayOfEra century span rest dayOfYear) (era : Int)
    (hlow : firstDay ≤ era * 146097 + dayOfEra - 719468)
    (hhigh : era * 146097 + dayOfEra - 719468 ≤ lastDay) :
    ∃ d, ofDays? (era * 146097 + dayOfEra - 719468) = some d ∧
      d.toDays = era * 146097 + dayOfEra - 719468 := by
  have hbound : 0 ≤ dayOfEra ∧ dayOfEra < 146097 := by
    obtain ⟨hsum, hcentury, hspan, hrest, hday, hlong⟩ := id h
    omega
  have hera : (era * 146097 + dayOfEra - 719468 + 719468) / 146097 = era := by omega
  have hrem : era * 146097 + dayOfEra - 719468 + 719468 - era * 146097 = dayOfEra := by omega
  have hdate := isDate_of_inEra h hlow hhigh rfl rfl rfl rfl
  refine ⟨⟨_, _, _, hdate⟩, ?_, dayNumber_of_inEra h rfl rfl rfl rfl⟩
  unfold ofDays?
  simp only [hera, hrem, h.year_eq, h.day_eq]
  exact dif_pos hdate

/-- Every number of days from the first to the last day of the calendar is that of a date. -/
theorem exists_ofDays? (hlow : firstDay ≤ n) (hhigh : n ≤ lastDay) :
    ∃ d, ofDays? n = some d ∧ d.toDays = n := by
  have hbound : 0 ≤ (n + 719468) % 146097 ∧ (n + 719468) % 146097 < 146097 := by omega
  obtain ⟨century, span, rest, dayOfYear, hplace⟩ := exists_inEra hbound
  have hsplit : n = (n + 719468) / 146097 * 146097 + (n + 719468) % 146097 - 719468 := by omega
  have hdate := ofDays?_eq hplace ((n + 719468) / 146097) (hsplit ▸ hlow) (hsplit ▸ hhigh)
  rwa [← hsplit] at hdate

end QueryDispatch.Date
