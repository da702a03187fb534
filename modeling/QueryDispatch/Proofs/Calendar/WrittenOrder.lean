import QueryDispatch.Proofs.Calendar.Days
import QueryDispatch.Proofs.Number.Digits

/-! # The order of written dates

  Years from 0 to 9999 have four digits and no sign, so dates in them are
  ordered by their texts as they are in the calendar. A sign stands in front of
  the other years and sorts before all digits: below zero that is where they
  belong, above 9999 it is not.
-/

namespace QueryDispatch

/-- A date comes before another in the calendar. -/
def Date.Before (d e : Date) : Prop :=
  d.year < e.year ∨ d.year = e.year ∧ (d.month < e.month ∨ d.month = e.month ∧ d.day < e.day)

instance (d e : Date) : Decidable (d.Before e) := inferInstanceAs (Decidable (_ ∨ _))

/-! ### Texts with a common form -/

section lists

variable {s t x y : List Char}

theorem append_lt_append_left_iff (s : List Char) : s ++ x < s ++ y ↔ x < y := by
  induction s with
  | nil => rfl
  | cons c s ih => simp [ih]

/-- Of texts whose leads are equally long the leads decide, unless they are the same. -/
theorem append_lt_append_iff (h : s.length = t.length) :
    s ++ x < t ++ y ↔ s < t ∨ s = t ∧ x < y := by
  induction s generalizing t with
  | nil =>
    obtain rfl : t = [] := List.length_eq_zero_iff.mp h.symm
    simp
  | cons c s ih =>
    cases t with
    | nil => cases h
    | cons d t =>
      rw [List.cons_append, List.cons_append, List.cons_lt_cons_iff, List.cons_lt_cons_iff,
        ih (Nat.succ.inj h), List.cons.injEq]
      grind

/-- A first character decides when it comes before another one. -/
theorem cons_lt_cons_of_lt {c d : Char} (h : c < d) (s t : List Char) : c :: s < d :: t :=
  List.cons_lt_cons_iff.mpr (Or.inl h)

theorem not_cons_lt_cons_of_lt {c d : Char} (h : c < d) (s t : List Char) :
    ¬ d :: t < c :: s := by
  intro hlt
  rcases List.cons_lt_cons_iff.mp hlt with hdc | ⟨rfl, -⟩
  · exact absurd (Char.lt_trans h hdc) (Char.lt_irrefl c)
  · exact Char.lt_irrefl _ h

/-- Both signs come before every digit. -/
theorem sign_lt_digit {c : Char} (hc : c.isDigit = true) : '+' < c ∧ '-' < c := by
  have hbounds := Char.isDigit_iff_toNat.mp hc
  simp only [Char.reduceToNat] at hbounds
  rw [Char.lt_def, Char.lt_def, UInt32.lt_iff_toNat_lt, UInt32.lt_iff_toNat_lt]
  show 43 < c.toNat ∧ 45 < c.toNat
  omega

end lists

/-! ### Years -/

section years

variable {year : Int}

theorem yearText_plain (hlow : 0 ≤ year) (hhigh : year ≤ 9999) :
    yearText year = paddedText 4 year.toNat := if_pos ⟨hlow, hhigh⟩

theorem yearText_negative (h : year < 0) : yearText year = '-' :: paddedText 4 year.natAbs := by
  unfold yearText
  rw [if_neg (by omega), if_pos h]

theorem yearText_large (h : 9999 < year) : yearText year = '+' :: paddedText 4 year.natAbs := by
  unfold yearText
  rw [if_neg (by omega), if_neg (by omega)]

/-- A year from 0 to 9999 begins with a digit. -/
theorem yearText_plain_cons (hlow : 0 ≤ year) (hhigh : year ≤ 9999) :
    ∃ c rest, yearText year = c :: rest ∧ c.isDigit = true := by
  rw [yearText_plain hlow hhigh]
  obtain ⟨c, rest, heq⟩ := List.exists_cons_of_ne_nil (paddedText_ne_nil 4 year.toNat)
  have hmem : c ∈ paddedText 4 year.toNat := by
    rw [heq]
    exact List.mem_cons_self
  exact ⟨c, rest, heq, isDigit_of_mem_paddedText hmem⟩

end years

/-! ### Dates -/

namespace Date

variable {d e : Date}

theorem text_lt_iff : d.text < e.text ↔ d.chars < e.chars := by
  show d.text.toList < e.text.toList ↔ _
  unfold text
  rw [String.toList_ofList, String.toList_ofList]

/-- Behind the year, month and day decide. -/
theorem monthDay_lt_iff (d e : Date) :
    '-' :: (paddedText 2 d.month ++ '-' :: paddedText 2 d.day) <
      '-' :: (paddedText 2 e.month ++ '-' :: paddedText 2 e.day) ↔
    d.month < e.month ∨ d.month = e.month ∧ d.day < e.day := by
  have hmonths : d.month < 10 ^ 2 ∧ e.month < 10 ^ 2 := by
    have hd := d.month_bound
    have he := e.month_bound
    omega
  have hdays : d.day < 10 ^ 2 ∧ e.day < 10 ^ 2 := by
    have hd := d.day_bound
    have he := e.day_bound
    omega
  have hlen : (paddedText 2 d.month).length = (paddedText 2 e.month).length := by
    rw [length_paddedText (by decide) hmonths.1, length_paddedText (by decide) hmonths.2]
  have hmonth : paddedText 2 d.month = paddedText 2 e.month ↔ d.month = e.month :=
    ⟨paddedText_inj, fun h => congrArg _ h⟩
  rw [List.cons_lt_cons_self, append_lt_append_iff hlen, List.cons_lt_cons_self, hmonth,
    paddedText_lt_iff (by decide) hmonths.1 hmonths.2,
    paddedText_lt_iff (by decide) hdays.1 hdays.2]

/-- In one year dates are written in their order. -/
theorem text_lt_iff_of_year_eq (h : d.year = e.year) : d.text < e.text ↔ d.Before e := by
  rw [text_lt_iff]
  unfold chars Before
  rw [h, append_lt_append_left_iff, monthDay_lt_iff]
  simp

theorem text_lt_of_plain (hd : 0 ≤ d.year) (he : 0 ≤ e.year) (hd' : d.year ≤ 9999)
    (he' : e.year ≤ 9999) : d.text < e.text ↔ d.Before e := by
  have hdlt : d.year.toNat < 10 ^ 4 := by omega
  have helt : e.year.toNat < 10 ^ 4 := by omega
  have hlen : (yearText d.year).length = (yearText e.year).length := by
    rw [yearText_plain hd hd', yearText_plain he he', length_paddedText (by decide) hdlt,
      length_paddedText (by decide) helt]
  have hyear : yearText d.year = yearText e.year ↔ d.year = e.year := by
    rw [yearText_plain hd hd', yearText_plain he he']
    constructor
    · intro h
      have hnat := paddedText_inj h
      omega
    · intro h
      rw [h]
  have hlt : yearText d.year < yearText e.year ↔ d.year < e.year := by
    rw [yearText_plain hd hd', yearText_plain he he',
      paddedText_lt_iff (by decide) hdlt helt]
    omega
  rw [text_lt_iff]
  unfold chars Before
  rw [append_lt_append_iff hlen, hyear, hlt, monthDay_lt_iff]

/-- A year below zero is written before one from 0 to 9999. -/
theorem text_lt_of_negative (hd : d.year < 0) (he : 0 ≤ e.year) (he' : e.year ≤ 9999) :
    d.text < e.text ∧ ¬ e.text < d.text := by
  obtain ⟨c, rest, heq, hc⟩ := yearText_plain_cons he he'
  rw [text_lt_iff, text_lt_iff]
  unfold chars
  rw [yearText_negative hd, heq]
  have hsign := (sign_lt_digit hc).2
  exact ⟨cons_lt_cons_of_lt hsign _ _, not_cons_lt_cons_of_lt hsign _ _⟩

/-- Years below zero are written in the opposite order, as long as they have four digits. -/
theorem text_lt_iff_after (hlow : -9999 ≤ min d.year e.year) (hhigh : max d.year e.year < 0)
    (hne : d.year ≠ e.year) : d.text < e.text ↔ e.Before d := by
  have hdlt : d.year.natAbs < 10 ^ 4 := by omega
  have helt : e.year.natAbs < 10 ^ 4 := by omega
  have hlen : (paddedText 4 d.year.natAbs).length = (paddedText 4 e.year.natAbs).length := by
    rw [length_paddedText (by decide) hdlt, length_paddedText (by decide) helt]
  have hyear : paddedText 4 d.year.natAbs ≠ paddedText 4 e.year.natAbs := by
    intro h
    have hnat := paddedText_inj h
    omega
  rw [text_lt_iff]
  unfold chars Before
  rw [yearText_negative (by omega), yearText_negative (by omega), List.cons_append,
    List.cons_append, List.cons_lt_cons_self, append_lt_append_iff hlen,
    paddedText_lt_iff (by decide) hdlt helt]
  constructor
  · rintro (hlt | ⟨heq, -⟩)
    · omega
    · exact absurd heq hyear
  · intro hbefore
    omega

/-- A year above 9999 is written before every other one. -/
theorem text_lt_of_large (hd : d.year ≤ 9999) (he : 9999 < e.year) : e.text < d.text := by
  rw [text_lt_iff]
  unfold chars
  rw [yearText_large he]
  by_cases hneg : d.year < 0
  · rw [yearText_negative hneg]
    exact cons_lt_cons_of_lt (by decide) _ _
  · obtain ⟨c, rest, heq, hc⟩ := yearText_plain_cons (Int.not_lt.mp hneg) hd
    rw [heq]
    exact cons_lt_cons_of_lt (sign_lt_digit hc).1 _ _

/-- Dates are written in the order of the calendar in one year, and as long as the later year is
    from 0 to 9999. -/
theorem text_lt_iff_before
    (h : d.year = e.year ∨ 0 ≤ max d.year e.year ∧ max d.year e.year ≤ 9999) :
    d.text < e.text ↔ d.Before e := by
  rcases h with heq | ⟨hlow, hhigh⟩
  · exact text_lt_iff_of_year_eq heq
  · have hd : d.year ≤ 9999 := by omega
    have he : e.year ≤ 9999 := by omega
    by_cases hdneg : d.year < 0
    · have hepos : 0 ≤ e.year := by omega
      refine iff_of_true (text_lt_of_negative hdneg hepos he).1 (Or.inl ?_)
      omega
    · by_cases heneg : e.year < 0
      · have hdpos : 0 ≤ d.year := by omega
        refine iff_of_false (text_lt_of_negative heneg hdpos hd).2 ?_
        unfold Before
        omega
      · exact text_lt_of_plain (Int.not_lt.mp hdneg) (Int.not_lt.mp heneg) hd he

end Date

end QueryDispatch
