import QueryDispatch.Proofs.Warehouse.Positions

/-! # Documented dates and times

  Columns of dates are documented to hold texts `YYYY-MM-DD`, and columns of
  timestamps `YYYY-MM-DD hh:mm:ss` with a fraction or none. More texts are
  taken: those in which three numbers, or twice three, stand at the documented
  positions. They have the documented form if the marks between the numbers are
  the documented ones, no number begins with a plus sign and nothing but a
  fraction stands behind the seconds.
-/

namespace QueryDispatch.Cell

open Numeral

variable {s t rest tail f : List Char} {start width n a b c : Nat}

/-! ### The documented forms -/

/-- There are digits at some positions, one after the other. -/
def DigitsAt (s : List Char) (start width : Nat) : Prop :=
  ∀ i < width, ∃ c, s[start + i]? = some c ∧ c.isDigit = true

/-- Some characters stand at some positions. -/
def MarksAt (s : List Char) (marks : List (Nat × Char)) : Prop := ∀ m ∈ marks, s[m.1]? = some m.2

instance (s : List Char) (marks : List (Nat × Char)) : Decidable (MarksAt s marks) :=
  inferInstanceAs (Decidable (∀ m ∈ marks, _))

/-- The form `YYYY-MM-DD`, with anything behind it. -/
structure IsDateForm (s : List Char) : Prop where
  year : DigitsAt s 0 4
  month : DigitsAt s 5 2
  day : DigitsAt s 8 2
  hyphens : MarksAt s [(4, '-'), (7, '-')]

/-- A point and digits, or nothing. -/
def IsFractionForm (s : List Char) : Prop :=
  s = [] ∨ ∃ digits, s = '.' :: digits ∧ ∀ c ∈ digits, c.isDigit = true

/-- The form `YYYY-MM-DD hh:mm:ss`, with nothing behind it but a point and digits. -/
structure IsTimestampForm (s : List Char) : Prop where
  date : IsDateForm s
  hour : DigitsAt s 11 2
  minute : DigitsAt s 14 2
  second : DigitsAt s 17 2
  marks : MarksAt s [(10, ' '), (13, ':'), (16, ':')]
  fraction : IsFractionForm (s.drop 19)

/-! ### Numbers in a text -/

/-- There is a number at some positions: digits, the first of which may be a plus sign instead. -/
def NumberAt (s : List Char) (start width : Nat) : Prop :=
  ∀ i < width, ∃ c, s[start + i]? = some c ∧ (c.isDigit = true ∨ i = 0 ∧ c = '+')

/-- A number that does not begin with a plus sign is digits. -/
theorem NumberAt.digitsAt_iff (h : NumberAt s start width) (hwidth : 0 < width) :
    DigitsAt s start width ↔ s[start]? ≠ some '+' := by
  constructor
  · intro hdigits hplus
    obtain ⟨c, hc, hdigit⟩ := hdigits 0 hwidth
    obtain rfl := Option.some.inj (hplus.symm.trans hc)
    cases hdigit
  · intro hplus i hi
    obtain ⟨c, hc, hshown⟩ := h i hi
    refine ⟨c, hc, ?_⟩
    rcases hshown with hdigit | ⟨rfl, rfl⟩
    · exact hdigit
    · exact absurd hc hplus

theorem IsField.numberAt (h : IsField width f n) (rest : List Char) :
    NumberAt (f ++ rest) 0 width := by
  obtain ⟨hlength, hf⟩ := h
  intro i hi
  rw [Nat.zero_add, List.getElem?_append_left (hlength ▸ hi)]
  cases hf with
  | digits hdigits =>
    have hlt : i < f.length := hlength ▸ hi
    exact ⟨f[i], List.getElem?_eq_getElem hlt, Or.inl (hdigits.2 _ (List.getElem_mem hlt))⟩
  | @plus digits hdigits =>
    match i with
    | 0 => exact ⟨'+', rfl, Or.inr ⟨rfl, rfl⟩⟩
    | i + 1 =>
      have hlt : i < digits.length := by
        rw [List.length_cons] at hlength
        omega
      exact ⟨digits[i], List.getElem?_eq_getElem hlt, Or.inl (hdigits.2 _ (List.getElem_mem hlt))⟩

/-- What stands behind the first characters is found that much later. -/
theorem NumberAt.behind (h : NumberAt t start width) (before : List Char) :
    NumberAt (before ++ t) (before.length + start) width := by
  intro i hi
  have hright : before.length ≤ before.length + start + i := by omega
  have hindex : before.length + start + i - before.length = start + i := by omega
  rw [List.getElem?_append_right hright, hindex]
  exact h i hi

/-- The numbers of a triple are at its positions. -/
theorem IsTriple.numbersAt (h : IsTriple width t a b c rest) :
    NumberAt t 0 width ∧ NumberAt t (width + 1) 2 ∧ NumberAt t (width + 4) 2 := by
  cases h with
  | @mk first second third _ mark mark' _ _ _ hfirst hmark hsecond hmark' hthird =>
    -- what stands in front of the second number, and between it and the third one
    have hlead : (first ++ [mark]).length = width + 1 := by
      rw [List.length_append, hfirst.1, List.length_singleton]
    have hlead' : (second ++ [mark']).length = 3 := by
      rw [List.length_append, hsecond.1, List.length_singleton]
    have hsecondAt := (hsecond.numberAt (mark' :: (third ++ rest))).behind (first ++ [mark])
    have hthirdAt := ((hthird.numberAt rest).behind (second ++ [mark'])).behind (first ++ [mark])
    rw [hlead, ← List.append_cons] at hsecondAt
    rw [hlead, hlead', ← List.append_cons, ← List.append_cons] at hthirdAt
    exact ⟨hfirst.numberAt _, hsecondAt, hthirdAt⟩

/-- They take so many characters. -/
theorem IsTriple.exists_append (h : IsTriple width t a b c rest) :
    ∃ front, t = front ++ rest ∧ front.length = width + 6 := by
  cases h with
  | @mk first second third _ mark mark' _ _ _ hfirst hmark hsecond hmark' hthird =>
    refine ⟨first ++ mark :: (second ++ mark' :: third), ?_, ?_⟩
    · simp only [List.append_assoc, List.cons_append]
    · simp only [List.length_append, List.length_cons, hfirst.1, hsecond.1, hthird.1]

/-! ### Which texts have the documented form -/

/-- No plus sign stands at some positions. -/
def NoPlusAt (s : List Char) (places : List Nat) : Prop := ∀ i ∈ places, s[i]? ≠ some '+'

instance (s : List Char) (places : List Nat) : Decidable (NoPlusAt s places) :=
  inferInstanceAs (Decidable (∀ i ∈ places, _))

/-- A text that is read as a date has the documented form when the hyphens are there and the plus
    signs are not. -/
theorem ReadsAsDate.isDateForm_iff {d : Date} (h : ReadsAsDate s d rest) :
    IsDateForm s ↔ MarksAt s [(4, '-'), (7, '-')] ∧ NoPlusAt s [0, 5, 8] := by
  obtain ⟨year, htriple, -⟩ := h
  obtain ⟨hyear, hmonth, hday⟩ := htriple.numbersAt
  have hplus : NoPlusAt s [0, 5, 8] ↔ DigitsAt s 0 4 ∧ DigitsAt s 5 2 ∧ DigitsAt s 8 2 := by
    rw [hyear.digitsAt_iff (by decide), hmonth.digitsAt_iff (by decide),
      hday.digitsAt_iff (by decide)]
    simp [NoPlusAt]
  rw [hplus]
  constructor
  · intro hform
    exact ⟨hform.hyphens, hform.year, hform.month, hform.day⟩
  · intro hform
    obtain ⟨hhyphens, hyear, hmonth, hday⟩ := hform
    exact ⟨hyear, hmonth, hday, hhyphens⟩

/-- The time of day stands behind eleven characters, and the tail behind eight more. -/
theorem ReadsAsTimestamp.timeAt {d : DateTime} (h : ReadsAsTimestamp s d tail) :
    NumberAt s 11 2 ∧ NumberAt s 14 2 ∧ NumberAt s 17 2 ∧ s.drop 19 = tail := by
  obtain ⟨mark, t, digits, microsecond, ⟨year, hdate, -⟩, hmark, htime, -⟩ := h
  obtain ⟨front, hs, hfront⟩ := hdate.exists_append
  obtain ⟨middle, ht, hmiddle⟩ := htime.exists_append
  have hlead : (front ++ [mark]).length = 11 := by
    rw [List.length_append, hfront, List.length_singleton]
  have happend : s = (front ++ [mark] ++ middle) ++ tail := by
    rw [hs, List.append_cons, ht, List.append_assoc (front ++ [mark])]
  have htail : s.drop 19 = tail := by
    rw [happend]
    exact List.drop_left' (by rw [List.length_append, hlead, hmiddle])
  obtain ⟨hhour, hminute, hsecond⟩ := htime.numbersAt
  have hhour := hhour.behind (front ++ [mark])
  have hminute := hminute.behind (front ++ [mark])
  have hsecond := hsecond.behind (front ++ [mark])
  rw [hlead, ← List.append_cons, ← hs] at hhour hminute hsecond
  exact ⟨hhour, hminute, hsecond, htail⟩

/-- A text that is read as a date with a time has the documented form when the marks are there, the
    plus signs are not, and nothing but a fraction stands behind the seconds. -/
theorem ReadsAsTimestamp.isTimestampForm_iff {d : DateTime} (h : ReadsAsTimestamp s d tail) :
    IsTimestampForm s ↔
      MarksAt s [(4, '-'), (7, '-'), (10, ' '), (13, ':'), (16, ':')] ∧
      NoPlusAt s [0, 5, 8, 11, 14, 17] ∧ IsFractionForm (s.drop 19) := by
  obtain ⟨hhour, hminute, hsecond, -⟩ := h.timeAt
  obtain ⟨mark, t, digits, microsecond, hdate, -⟩ := h
  have hmarks : MarksAt s [(4, '-'), (7, '-'), (10, ' '), (13, ':'), (16, ':')] ↔
      MarksAt s [(4, '-'), (7, '-')] ∧ MarksAt s [(10, ' '), (13, ':'), (16, ':')] := by
    simp [MarksAt, and_assoc]
  have hplus : NoPlusAt s [0, 5, 8, 11, 14, 17] ↔
      NoPlusAt s [0, 5, 8] ∧ DigitsAt s 11 2 ∧ DigitsAt s 14 2 ∧ DigitsAt s 17 2 := by
    rw [hhour.digitsAt_iff (by decide), hminute.digitsAt_iff (by decide),
      hsecond.digitsAt_iff (by decide)]
    simp [NoPlusAt, and_assoc]
  rw [hmarks, hplus]
  constructor
  · intro hform
    obtain ⟨hhyphens, hsigns⟩ := hdate.isDateForm_iff.mp hform.date
    exact ⟨⟨hhyphens, hform.marks⟩, ⟨hsigns, hform.hour, hform.minute, hform.second⟩,
      hform.fraction⟩
  · intro hform
    obtain ⟨⟨hhyphens, hmarks⟩, ⟨hsigns, hhour, hminute, hsecond⟩, hfraction⟩ := hform
    exact ⟨hdate.isDateForm_iff.mpr ⟨hhyphens, hsigns⟩, hhour, hminute, hsecond, hmarks, hfraction⟩

/-! ### What columns of dates and timestamps take -/

section columns

variable {precision scale : Option UInt32} {text : String} {v : Json}

theorem map_date_eq_ok_iff :
    (map ⟨"DATE", precision, scale⟩ (.string text)).mapError RunnerError.format = .ok v ↔
      ∃ d rest, ReadsAsDate text.toList d rest ∧ v = .string d.text := by
  rw [mapError_eq_ok, map_date, map_eq_ok]
  constructor
  · intro h
    obtain ⟨d, hread, hv⟩ := h
    obtain ⟨rest, hreads⟩ := readDate_eq_ok_iff.mp hread
    exact ⟨d, rest, hreads, hv.symm⟩
  · intro h
    obtain ⟨d, rest, hreads, hv⟩ := h
    exact ⟨d, readDate_eq_ok_iff.mpr ⟨rest, hreads⟩, hv.symm⟩

theorem map_timestamp_eq_ok_iff :
    (map ⟨"TIMESTAMP", precision, scale⟩ (.string text)).mapError RunnerError.format = .ok v ↔
      ∃ d tail, ReadsAsTimestamp text.toList d tail ∧ v = .string d.text := by
  rw [mapError_eq_ok, map_timestamp, map_eq_ok]
  constructor
  · intro h
    obtain ⟨d, hread, hv⟩ := h
    obtain ⟨tail, hreads⟩ := readTimestamp_eq_ok_iff.mp hread
    exact ⟨d, tail, hreads, hv.symm⟩
  · intro h
    obtain ⟨d, tail, hreads, hv⟩ := h
    exact ⟨d, readTimestamp_eq_ok_iff.mpr ⟨tail, hreads⟩, hv.symm⟩

/-- A column of dates takes a text that begins with three numbers of four, two and two characters, if
    there is such a day, and a column of timestamps one with three more numbers of two characters
    behind these, if there is such a time. A number is digits, the first of which may be a plus sign
    instead, one byte stands between each two, and of what stands behind them a fraction is cut out
    or none. So a text that is taken has the documented form only if the marks are the documented
    ones, no plus sign stands for a digit, and nothing but a fraction is behind the seconds. -/
theorem texts_taken_by_position (precision scale : Option UInt32) (text : String) (v : Json) :
    let s := text.toList
    let date := (map ⟨"DATE", precision, scale⟩ (.string text)).mapError RunnerError.format
    let timestamp := (map ⟨"TIMESTAMP", precision, scale⟩ (.string text)).mapError RunnerError.format
    (date = .ok v ↔ ∃ d rest, ReadsAsDate s d rest ∧ v = .string d.text) ∧
    (timestamp = .ok v ↔ ∃ d tail, ReadsAsTimestamp s d tail ∧ v = .string d.text) ∧
    (date = .ok v →
      (IsDateForm s ↔ MarksAt s [(4, '-'), (7, '-')] ∧ NoPlusAt s [0, 5, 8])) ∧
    (timestamp = .ok v →
      (IsTimestampForm s ↔
        MarksAt s [(4, '-'), (7, '-'), (10, ' '), (13, ':'), (16, ':')] ∧
        NoPlusAt s [0, 5, 8, 11, 14, 17] ∧ IsFractionForm (s.drop 19))) := by
  intro s date timestamp
  refine ⟨map_date_eq_ok_iff, map_timestamp_eq_ok_iff, ?_, ?_⟩
  · intro htaken
    obtain ⟨d, rest, hread, -⟩ := map_date_eq_ok_iff.mp htaken
    exact hread.isDateForm_iff
  · intro htaken
    obtain ⟨d, tail, hread, -⟩ := map_timestamp_eq_ok_iff.mp htaken
    exact hread.isTimestampForm_iff

/-- A date with a time and half a second. -/
theorem texts_taken_by_position_half_second :
    (map ⟨"TIMESTAMP", none, none⟩ (.string "2024-02-29 13:45:01.5")).mapError RunnerError.format =
      .ok (.string "2024-02-29T13:45:01.500000") ∧
    IsTimestampForm "2024-02-29 13:45:01.5".toList := by
  have htaken : (map ⟨"TIMESTAMP", none, none⟩ (.string "2024-02-29 13:45:01.5")).mapError
      RunnerError.format = .ok (.string "2024-02-29T13:45:01.500000") :=
    mapError_eq_ok.mpr (by rfl)
  obtain ⟨-, -, -, hform⟩ := texts_taken_by_position none none "2024-02-29 13:45:01.5" _
  have hfraction : IsFractionForm ("2024-02-29 13:45:01.5".toList.drop 19) :=
    .inr ⟨['5'], by decide, List.forall_mem_singleton.mpr rfl⟩
  exact ⟨htaken, (hform htaken).mpr ⟨by decide, by decide, hfraction⟩⟩

/-- Slashes are taken for hyphens, and so are a letter for the blank, a plus sign for a digit and a
    fraction that is none. -/
theorem other_forms_taken :
    (map ⟨"DATE", none, none⟩ (.string "2024/02/29")).mapError RunnerError.format =
      .ok (.string "2024-02-29") ∧ ¬ IsDateForm "2024/02/29".toList ∧
    (map ⟨"TIMESTAMP", none, none⟩ (.string "2024-02-29T+1:45:01.12345é")).mapError
      RunnerError.format = .ok (.string "2024-02-29T01:45:01.000000") ∧
    ¬ IsTimestampForm "2024-02-29T+1:45:01.12345é".toList := by
  refine ⟨mapError_eq_ok.mpr (by rfl), ?_, mapError_eq_ok.mpr (by rfl), ?_⟩
  · intro hform
    exact absurd hform.hyphens (by decide)
  · intro hform
    exact absurd hform.marks (by decide)

end columns

end QueryDispatch.Cell
