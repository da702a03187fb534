import QueryDispatch.Proofs.Warehouse.Positions

/-! # Written dates and times

  Texts `YYYY-MM-DD`, and behind them a blank, `hh:mm:ss` and a point with
  digits or nothing. Whatever the digits are, the numbers that they make are
  read, so only the calendar and the clock decide. What comes out has the same
  digits again, with a fraction of six.
-/

namespace QueryDispatch

open Text (byteLength dropBytes?_zero)

/-! ### Digits -/

/-- So many digits. -/
structure Digits (width : Nat) where
  chars : List Char
  length_eq : chars.length = width
  isDigit : ∀ c ∈ chars, c.isDigit = true

namespace Digits

variable {width : Nat}

/-- The number that they make. -/
def value (d : Digits width) : Nat := digitsValue d.chars

theorem value_lt (d : Digits width) : d.value < 10 ^ width := by
  have hlt := digitsValue_lt d.isDigit
  rw [d.length_eq] at hlt
  exact hlt

theorem isDigits (d : Digits (width + 1)) : Numeral.IsDigits d.chars := by
  refine ⟨?_, d.isDigit⟩
  intro hnil
  have hlength := d.length_eq
  rw [hnil] at hlength
  cases hlength

theorem isField (d : Digits (width + 1)) : Cell.IsField (width + 1) d.chars d.value :=
  ⟨d.length_eq, .digits d.isDigits⟩

/-- The number is written in the same digits. -/
theorem paddedText_value (d : Digits (width + 1)) : paddedText (width + 1) d.value = d.chars := by
  have hlength : (paddedText (width + 1) d.value).length = d.chars.length := by
    rw [d.length_eq, length_paddedText (Nat.succ_pos width) d.value_lt]
  exact eq_of_digitsValue_eq (fun c hc => isDigit_of_mem_paddedText hc) d.isDigit hlength
    (digitsValue_paddedText _ _)

end Digits

/-! ### Dates and times -/

/-- The digits of a date. -/
structure WrittenDate where
  year : Digits 4
  month : Digits 2
  day : Digits 2

/-- The digits of a time. -/
structure WrittenTime where
  hour : Digits 2
  minute : Digits 2
  second : Digits 2

namespace WrittenDate

/-- `YYYY-MM-DD`. -/
def chars (d : WrittenDate) : List Char :=
  d.year.chars ++ '-' :: (d.month.chars ++ '-' :: d.day.chars)

/-- There is such a day in the calendar, year zero included. -/
def Exists (d : WrittenDate) : Prop :=
  1 ≤ d.day.value ∧ d.day.value ≤ daysInMonth d.year.value d.month.value

instance (d : WrittenDate) : Decidable d.Exists := inferInstanceAs (Decidable (_ ∧ _))

variable (d : WrittenDate)

theorem isTriple (rest : List Char) :
    Cell.IsTriple 4 (d.chars ++ rest) d.year.value d.month.value d.day.value rest := by
  have htriple : Cell.IsTriple 4
      (d.year.chars ++ '-' :: (d.month.chars ++ '-' :: (d.day.chars ++ rest))) _ _ _ rest :=
    .mk d.year.isField rfl d.month.isField rfl d.day.isField
  unfold chars
  simp only [List.append_assoc, List.cons_append]
  exact htriple

/-- The years of four digits are kept. -/
theorem isDate_iff : IsDate d.year.value d.month.value d.day.value ↔ d.Exists := by
  have hyear := d.year.value_lt
  constructor
  · intro h
    exact h.2
  · intro h
    exact ⟨by omega, h⟩

/-- The day has the same digits again. -/
theorem exists_of? (h : d.Exists) : ∃ date,
    Date.of? d.year.value d.month.value d.day.value = some date ∧ date.chars = d.chars := by
  have hlt := d.year.value_lt
  refine ⟨⟨_, _, _, d.isDate_iff.mpr h⟩, dif_pos (d.isDate_iff.mpr h), ?_⟩
  have hyear : yearText (d.year.value : Int) = d.year.chars := by
    rw [yearText_plain (by omega) (by omega), Int.toNat_natCast]
    exact d.year.paddedText_value
  unfold Date.chars chars
  rw [hyear, d.month.paddedText_value, d.day.paddedText_value]

theorem of?_eq_none (h : ¬ d.Exists) :
    Date.of? d.year.value d.month.value d.day.value = none :=
  dif_neg fun hdate => h (d.isDate_iff.mp hdate)

end WrittenDate

namespace WrittenTime

/-- `hh:mm:ss`. -/
def chars (t : WrittenTime) : List Char :=
  t.hour.chars ++ ':' :: (t.minute.chars ++ ':' :: t.second.chars)

/-- A clock shows such a time, leap seconds aside. -/
def OnClock (t : WrittenTime) : Prop :=
  t.hour.value < 24 ∧ t.minute.value < 60 ∧ t.second.value < 60

instance (t : WrittenTime) : Decidable t.OnClock := inferInstanceAs (Decidable (_ ∧ _))

variable (t : WrittenTime)

theorem isTriple (tail : List Char) :
    Cell.IsTriple 2 (t.chars ++ tail) t.hour.value t.minute.value t.second.value tail := by
  have htriple : Cell.IsTriple 2
      (t.hour.chars ++ ':' :: (t.minute.chars ++ ':' :: (t.second.chars ++ tail))) _ _ _ tail :=
    .mk t.hour.isField rfl t.minute.isField rfl t.second.isField
  unfold chars
  simp only [List.append_assoc, List.cons_append]
  exact htriple

/-- The time of day, where there are no leap seconds. -/
def of? (t : WrittenTime) (nanosecond : Nat) : Option TimeOfDay :=
  if t.second.value < 60 then
    TimeOfDay.of? t.hour.value t.minute.value t.second.value nanosecond
  else none

variable {nanosecond : Nat}

/-- The time has the same digits again. -/
theorem exists_of? (h : t.OnClock) (hnano : nanosecond < 1000000000) :
    ∃ time, t.of? nanosecond = some time ∧ time.chars = t.chars ∧
      time.nanosecond = nanosecond := by
  obtain ⟨hhour, hminute, hsecond⟩ := h
  have htime : IsTime t.hour.value t.minute.value t.second.value nanosecond :=
    ⟨hhour, hminute, Nat.le_of_lt hsecond, hnano⟩
  refine ⟨⟨_, _, _, _, htime⟩, ?_, ?_, rfl⟩
  · unfold of?
    rw [if_pos hsecond]
    exact dif_pos htime
  · unfold TimeOfDay.chars chars
    rw [t.hour.paddedText_value, t.minute.paddedText_value, t.second.paddedText_value]

theorem of?_eq_none (h : ¬ t.OnClock) : t.of? nanosecond = none := by
  apply Option.eq_none_iff_forall_ne_some.mpr
  intro time htime
  obtain ⟨hsecond, htime⟩ := Option.ite_none_right_eq_some.mp htime
  obtain ⟨hhour, hminute, -, -⟩ := TimeOfDay.of?_eq_some_iff.mp htime
  have hbounds := time.exists_time
  exact h ⟨hhour ▸ hbounds.1, hminute ▸ hbounds.2.1, hsecond⟩

end WrittenTime

/-! ### Fractions -/

section fractions

variable {places : Nat} (fraction : Option (Digits places))

/-- A point and digits, or nothing. -/
def fractionChars : Option (Digits places) → List Char
  | none => []
  | some digits => '.' :: digits.chars

/-- The first six digits. -/
def keptDigits : Option (Digits places) → List Char
  | none => []
  | some digits => digits.chars.take 6

theorem length_keptDigits : (keptDigits fraction).length ≤ 6 := by
  match fraction with
  | none => exact Nat.zero_le 6
  | some digits => exact List.length_take_le 6 digits.chars

theorem isDigit_of_mem_keptDigits {c : Char} (h : c ∈ keptDigits fraction) : c.isDigit = true := by
  match fraction, h with
  | some digits, h => exact digits.isDigit c (List.mem_of_mem_take h)

/-- Six digits: the first ones, filled up with zeros. -/
def sixDigits : Digits 6 where
  chars := Cell.filled (keptDigits fraction)
  length_eq := by
    have hlength := length_keptDigits fraction
    rw [Cell.filled, List.length_append, List.length_replicate]
    omega
  isDigit := by
    intro c hc
    rcases List.mem_append.mp hc with hkept | hzero
    · exact isDigit_of_mem_keptDigits fraction hkept
    · exact isDigit_of_mem_zeros hzero

/-- The first six digits are what counts of a fraction. -/
theorem fractionText : Cell.FractionText (fractionChars fraction) (keptDigits fraction) := by
  match fraction with
  | none => exact .none
  | some digits =>
    have hbytes : ∀ part, part ⊆ digits.chars → byteLength part = part.length := by
      intro part hpart
      apply Text.byteLength_eq_length
      intro c hc
      exact utf8Size_of_isDigit (digits.isDigit c (hpart hc))
    by_cases hshort : digits.chars.length ≤ 6
    · have hall : digits.chars.take 6 = digits.chars := List.take_of_length_le hshort
      show Cell.FractionText ('.' :: digits.chars) (digits.chars.take 6)
      rw [hall]
      exact .all rfl (by rw [hbytes _ (List.Subset.refl _)]; exact hshort)
    · have hsix : byteLength (digits.chars.take 6) = 6 := by
        rw [hbytes _ (List.take_subset 6 digits.chars), List.length_take]
        omega
      -- more digits stand behind the first six
      have hsplit := List.take_append_drop 6 digits.chars
      show Cell.FractionText ('.' :: digits.chars) (digits.chars.take 6)
      rw [← hsplit, List.take_left' (by rw [List.length_take]; omega)]
      exact .six rfl hsix

theorem readFraction_of_drop {s : List Char}
    (h : Text.dropBytes? 19 s = some (fractionChars fraction)) :
    Cell.readFraction s = .ok (sixDigits fraction).value :=
  (Cell.readFraction_eq_ok_iff h).mpr
    ⟨keptDigits fraction, fractionText fraction, .digits (sixDigits fraction).isDigits⟩

end fractions

/-! ### What columns of dates and timestamps make of them -/

namespace Cell

variable (date : WrittenDate) (time : WrittenTime) {places : Nat} (fraction : Option (Digits places))

/-- A text with a date and a time is read when the calendar and the clock have them. -/
theorem readTimestamp_written {s : List Char}
    (hs : s = date.chars ++ ' ' :: (time.chars ++ fractionChars fraction)) :
    readTimestamp s = match Date.of? date.year.value date.month.value date.day.value with
      | none => .error (.date (String.ofList s))
      | some d =>
        match time.of? ((sixDigits fraction).value * 1000) with
        | some t => .ok ⟨d, t⟩
        | none => .error (.timestamp (String.ofList s)) := by
  have hdate := date.isTriple (' ' :: (time.chars ++ fractionChars fraction))
  have htime := time.isTriple (fractionChars fraction)
  rw [← hs] at hdate
  have hdrop := htime.drop (drop_mark rfl (hdate.drop (dropBytes?_zero s)))
  exact readTimestamp_of_triples hdate rfl htime (readFraction_of_drop fraction hdrop)

/-- Six digits of a fraction are written as they are. -/
theorem text_of_digits {d : DateTime} {digits : Digits 6}
    (hnano : d.time.nanosecond = digits.value * 1000) : d.text =
      String.ofList (d.date.chars ++ 'T' :: (d.time.chars ++ '.' :: digits.chars)) := by
  have hmicro : d.time.nanosecond / 1000 = digits.value := by
    rw [hnano]
    exact Nat.mul_div_cancel _ (by decide)
  unfold DateTime.text
  rw [hmicro, digits.paddedText_value]

/-- A column of timestamps gives a written date and time back with six digits of the fraction. -/
theorem map_timestamp_written (precision scale : Option UInt32) :
    let text := String.ofList (date.chars ++ ' ' :: (time.chars ++ fractionChars fraction))
    map ⟨"TIMESTAMP", precision, scale⟩ (.string text) =
      if ¬ date.Exists then .error (.date text)
      else if ¬ time.OnClock then .error (.timestamp text)
      else .ok (.string (String.ofList
        (date.chars ++ 'T' :: (time.chars ++ '.' :: (sixDigits fraction).chars)))) := by
  intro text
  have hread := readTimestamp_written date time fraction (String.toList_ofList)
  rw [String.ofList_toList] at hread
  rw [map_timestamp, hread]
  by_cases hdate : date.Exists
  · obtain ⟨d, hd, hchars⟩ := date.exists_of? hdate
    have hlt := (sixDigits fraction).value_lt
    rw [hd, if_neg (not_not.mpr hdate)]
    by_cases htime : time.OnClock
    · obtain ⟨t, ht, htchars, hnano⟩ := time.exists_of? htime
        (show (sixDigits fraction).value * 1000 < 1000000000 by omega)
      rw [ht, if_neg (not_not.mpr htime), ← hchars, ← htchars,
        ← text_of_digits (d := ⟨d, t⟩) hnano]
      rfl
    · rw [time.of?_eq_none htime, if_pos htime]
      rfl
  · rw [date.of?_eq_none hdate, if_pos hdate]
    rfl

/-- A column of dates gives a written date back. -/
theorem map_date_written (precision scale : Option UInt32) :
    let day := String.ofList date.chars
    map ⟨"DATE", precision, scale⟩ (.string day) =
      if date.Exists then .ok (.string day) else .error (.date day) := by
  intro day
  have htriple := date.isTriple []
  rw [List.append_nil] at htriple
  rw [map_date, String.toList_ofList, readDate_of_triple htriple]
  by_cases hdate : date.Exists
  · obtain ⟨d, hd, hchars⟩ := date.exists_of? hdate
    rw [hd, if_pos hdate]
    show Except.ok (Json.string (String.ofList d.chars)) = _
    rw [hchars]
  · rw [date.of?_eq_none hdate, if_neg hdate]
    rfl

/-- Every text in the form of a date is taken by a column of dates if there is such a day, and stays
    what it is. Every text in the form of a date with a time, and with a fraction or none, is taken
    by a column of timestamps if there is such a day and such a time. What comes out has the same
    digits, and of the fraction the first six, with zeros behind fewer ones. Other texts of these
    forms are refused. -/
theorem written_texts_mapped (precision scale : Option UInt32) :
    let day := String.ofList date.chars
    let text := String.ofList (date.chars ++ ' ' :: (time.chars ++ fractionChars fraction))
    (map ⟨"TIMESTAMP", precision, scale⟩ (.string text)).mapError RunnerError.format =
      (if ¬ date.Exists then .error (.format (.date text))
      else if ¬ time.OnClock then .error (.format (.timestamp text))
      else .ok (.string (String.ofList
        (date.chars ++ 'T' :: (time.chars ++ '.' :: (sixDigits fraction).chars))))) ∧
    (map ⟨"DATE", precision, scale⟩ (.string day)).mapError RunnerError.format =
      if date.Exists then .ok (.string day) else .error (.format (.date day)) := by
  intro day text
  constructor
  · rw [map_timestamp_written]
    split_ifs <;> rfl
  · rw [map_date_written]
    split_ifs <;> rfl

example : map ⟨"TIMESTAMP", none, none⟩ (.string "0000-02-29 23:59:59.1234567") =
    .ok (.string "0000-02-29T23:59:59.123456") := by rfl

end Cell

end QueryDispatch
