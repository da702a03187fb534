import QueryDispatch.Calendar.Instant
import QueryDispatch.Proofs.Calendar.WrittenOrder
import QueryDispatch.Proofs.Text.Trimming

/-! # Instants are read as they are written

  A written instant is a date, a time, a fraction of a second and the letter
  for universal time. Each part is read up to its end, because what follows it
  is no digit or because it has as many digits as are read.
-/

namespace QueryDispatch

variable {digits rest s : List Char} {c : Char} {low high width n : Nat}

/-! ### Numbers -/

namespace Pattern

/-- Digits are read as far as they go, or as many as are asked for. -/
theorem readNumber_digits (hne : digits ≠ []) (hdigits : ∀ c ∈ digits, c.isDigit = true)
    (hwidth : digits.length ≤ width)
    (hend : digits.length = width ∨ ∀ c ∈ rest.head?, c.isDigit = false) :
    readNumber width (digits ++ rest) = .ok (digitsValue digits, rest) := by
  have htake : (digits ++ rest).take width = digits ++ rest.take (width - digits.length) := by
    rw [List.take_append, List.take_of_length_le hwidth]
  have hhead : ∀ c ∈ (rest.take (width - digits.length)).head?, c.isDigit = false := by
    intro c hc
    rcases hend with heq | hend
    · rw [heq, Nat.sub_self, List.take_zero] at hc
      cases hc
    · rw [List.head?_take] at hc
      split at hc
      · cases hc
      · exact hend c hc
  obtain ⟨c, more, rfl⟩ := List.exists_cons_of_ne_nil hne
  have hread : ((c :: more ++ rest).take width).takeWhile Char.isDigit = c :: more := by
    rw [htake, takeWhile_digits hdigits hhead]
  unfold readNumber
  simp only [List.cons_append] at hread ⊢
  rw [if_pos (hdigits c List.mem_cons_self), hread]
  simp

/-- A number of two digits. -/
theorem readTwo_padded (hlow : low ≤ n) (hhigh : n ≤ high) (hn : n < 10 ^ 2) (rest : List Char) :
    readTwo low high (paddedText 2 n ++ rest) = .ok (n, rest) := by
  have hlen : (paddedText 2 n).length = 2 := length_paddedText (by decide) hn
  unfold readTwo
  rw [readNumber_digits (paddedText_ne_nil 2 n) (fun c hc => isDigit_of_mem_paddedText hc)
    (Nat.le_of_eq hlen) (Or.inl hlen), digitsValue_paddedText]
  exact if_pos ⟨hlow, hhigh⟩

/-- The digits of a year behind its sign. -/
theorem readNumber_signed (n : Nat) (hrest : ∀ c ∈ rest.head?, c.isDigit = false) :
    readNumber (paddedText 4 n ++ rest).length (paddedText 4 n ++ rest) = .ok (n, rest) := by
  have hwidth : (paddedText 4 n).length ≤ (paddedText 4 n ++ rest).length := by
    rw [List.length_append]
    omega
  rw [readNumber_digits (paddedText_ne_nil 4 n) (fun c hc => isDigit_of_mem_paddedText hc) hwidth
    (Or.inr hrest), digitsValue_paddedText]

/-- A year without a sign is up to four digits. -/
theorem readYear_of_isDigit (hc : c.isDigit = true) {year : Int} (more : List Char)
    (hread : readNumber 4 (c :: more) = .ok (n, rest)) (hyear : (n : Int) = year)
    (hkept : Int32.minValue.toInt ≤ year ∧ year ≤ Int32.maxValue.toInt) :
    readYear (c :: more) = .ok (year, rest) := by
  have hminus : c ≠ '-' := by rintro rfl; cases hc
  have hplus : c ≠ '+' := by rintro rfl; cases hc
  unfold readYear
  split
  · next heq => exact absurd (List.cons.inj heq).1 hminus
  · next heq => exact absurd (List.cons.inj heq).1 hplus
  · rw [hread]
    show (if _ ∧ _ then _ else _) = _
    rw [hyear, if_pos hkept]
    rfl

/-- A year of the calendar, up to a character that is no digit. -/
theorem readYear_yearText {year : Int} (hbound : -262143 ≤ year ∧ year ≤ 262142)
    (hrest : ∀ c ∈ rest.head?, c.isDigit = false) :
    readYear (yearText year ++ rest) = .ok (year, rest) := by
  have hkept : Int32.minValue.toInt ≤ year ∧ year ≤ Int32.maxValue.toInt := by
    have hmin : Int32.minValue.toInt = -2147483648 := by decide
    have hmax : Int32.maxValue.toInt = 2147483647 := by decide
    omega
  by_cases hneg : year < 0
  · have hvalue : -(year.natAbs : Int) = year := by omega
    rw [yearText_negative hneg, List.cons_append, readYear]
    simp only [readNumber_signed _ hrest]
    show (if _ ∧ _ then _ else _) = _
    rw [hvalue, if_pos hkept]
    rfl
  · by_cases hlarge : 9999 < year
    · have hvalue : (year.natAbs : Int) = year := by omega
      rw [yearText_large hlarge, List.cons_append, readYear]
      simp only [readNumber_signed _ hrest]
      show (if _ ∧ _ then _ else _) = _
      rw [hvalue, if_pos hkept]
      rfl
    · have hlow := Int.not_lt.mp hneg
      have hhigh := Int.not_lt.mp hlarge
      have hlen : (paddedText 4 year.toNat).length = 4 := length_paddedText (by decide) (by omega)
      have hread : readNumber 4 (yearText year ++ rest) = .ok (year.toNat, rest) := by
        rw [yearText_plain hlow hhigh, readNumber_digits (paddedText_ne_nil 4 year.toNat)
          (fun c hc => isDigit_of_mem_paddedText hc) (Nat.le_of_eq hlen) (Or.inl hlen),
          digitsValue_paddedText]
      obtain ⟨c, more, heq, hc⟩ := yearText_plain_cons hlow hhigh
      rw [heq, List.cons_append] at hread ⊢
      exact readYear_of_isDigit hc _ hread (by omega) hkept

/-! ### Items -/

variable {fields : DateFields}

theorem trimStart_padded (n : Nat) (rest : List Char) :
    Text.trimStart (paddedText 2 n ++ rest) = paddedText 2 n ++ rest := by
  refine Text.trimStart_of_head fun c hc => isBlank_of_isDigit ?_
  obtain ⟨d, more, heq⟩ := List.exists_cons_of_ne_nil (paddedText_ne_nil 2 n)
  rw [heq, List.cons_append, List.head?_cons, Option.mem_some_iff] at hc
  refine isDigit_of_mem_paddedText (?_ : c ∈ paddedText 2 n)
  rw [heq, hc]
  exact List.mem_cons_self

theorem trimStart_yearText (year : Int) (rest : List Char) :
    Text.trimStart (yearText year ++ rest) = yearText year ++ rest := by
  refine Text.trimStart_of_head fun c hc => ?_
  by_cases hplain : 0 ≤ year ∧ year ≤ 9999
  · obtain ⟨d, more, heq, hd⟩ := yearText_plain_cons hplain.1 hplain.2
    rw [heq, List.cons_append, List.head?_cons, Option.mem_some_iff] at hc
    exact isBlank_of_isDigit (hc ▸ hd)
  · rw [yearText, if_neg hplain, List.cons_append, List.head?_cons, Option.mem_some_iff] at hc
    rw [← hc]
    split <;> decide

/-- An item that is read leaves the others. -/
theorem readItems_cons {item : PatternItem} {next : DateFields} (items : List PatternItem)
    (h : readItem item fields s = .ok (next, rest)) :
    readItems (item :: items) fields s = readItems items next rest := by
  rw [readItems, h]
  rfl

theorem readItem_literal (c : Char) (rest : List Char) :
    readItem (.literal c) fields (c :: rest) = .ok (fields, rest) := if_pos rfl

theorem readItem_blanks (hc : Text.isBlank c = false) (rest : List Char) :
    readItem .blanks fields (c :: rest) = .ok (fields, c :: rest) := by
  have htrim : Text.trimStart (c :: rest) = c :: rest := by
    refine Text.trimStart_of_head fun d hd => ?_
    rw [List.head?_cons, Option.mem_some_iff] at hd
    rw [← hd, hc]
  rw [readItem, htrim]

theorem readItem_year {year : Int} (hbound : -262143 ≤ year ∧ year ≤ 262142)
    (hc : c.isDigit = false) (rest : List Char) :
    readItem .year fields (yearText year ++ c :: rest) =
      .ok ({ fields with year := year }, c :: rest) := by
  have hrest : ∀ d ∈ (c :: rest).head?, d.isDigit = false := by
    intro d hd
    rw [List.head?_cons, Option.mem_some_iff] at hd
    rw [← hd, hc]
  rw [readItem, trimStart_yearText, readYear_yearText hbound hrest]
  rfl

/-! The other items are two digits. -/

theorem readItem_month (h : 1 ≤ n ∧ n ≤ 12) (rest : List Char) :
    readItem .month fields (paddedText 2 n ++ rest) = .ok ({ fields with month := n }, rest) := by
  rw [readItem, trimStart_padded, readTwo_padded h.1 h.2 (by omega)]
  rfl

theorem readItem_day (h : 1 ≤ n ∧ n ≤ 31) (rest : List Char) :
    readItem .day fields (paddedText 2 n ++ rest) = .ok ({ fields with day := n }, rest) := by
  rw [readItem, trimStart_padded, readTwo_padded h.1 h.2 (by omega)]
  rfl

theorem readItem_hour (h : n < 24) (rest : List Char) :
    readItem .hour fields (paddedText 2 n ++ rest) = .ok ({ fields with hour := n }, rest) := by
  rw [readItem, trimStart_padded, readTwo_padded (Nat.zero_le n) (Nat.le_of_lt_succ h) (by omega)]
  rfl

theorem readItem_minute (h : n < 60) (rest : List Char) :
    readItem .minute fields (paddedText 2 n ++ rest) = .ok ({ fields with minute := n }, rest) := by
  rw [readItem, trimStart_padded, readTwo_padded (Nat.zero_le n) (Nat.le_of_lt_succ h) (by omega)]
  rfl

theorem readItem_second (h : n ≤ 60) (rest : List Char) :
    readItem .second fields (paddedText 2 n ++ rest) = .ok ({ fields with second := n }, rest) := by
  rw [readItem, trimStart_padded, readTwo_padded (Nat.zero_le n) h (by omega)]
  rfl

/-- The date part of an instant. -/
theorem readItems_date (d : Date) (rest : List Char) :
    readItems Instant.datePattern fields (d.chars ++ rest) =
      .ok ({ fields with year := d.year, month := d.month, day := d.day }, rest) := by
  have hmonth := d.month_bound
  have hday := d.day_bound
  have hdash : Text.isBlank '-' = false := by decide
  unfold Date.chars Instant.datePattern
  simp only [List.append_assoc, List.cons_append]
  rw [readItems_cons _ (readItem_year d.exists_day.1 rfl _),
    readItems_cons _ (readItem_blanks hdash _), readItems_cons _ (readItem_literal '-' _),
    readItems_cons _ (readItem_month hmonth _),
    readItems_cons _ (readItem_blanks hdash _), readItems_cons _ (readItem_literal '-' _),
    readItems_cons _ (readItem_day hday _)]
  rfl

/-- The time part of an instant, without the fraction. -/
theorem readItems_time (t : TimeOfDay) (rest : List Char) :
    readItems Instant.timePattern fields (t.chars ++ rest) =
      .ok ({ fields with hour := t.hour, minute := t.minute, second := t.second }, rest) := by
  obtain ⟨hhour, hminute, hsecond, -⟩ := t.exists_time
  have hcolon : Text.isBlank ':' = false := by decide
  unfold TimeOfDay.chars Instant.timePattern
  simp only [List.append_assoc, List.cons_append]
  rw [readItems_cons _ (readItem_hour hhour _),
    readItems_cons _ (readItem_blanks hcolon _), readItems_cons _ (readItem_literal ':' _),
    readItems_cons _ (readItem_minute hminute _),
    readItems_cons _ (readItem_blanks hcolon _), readItems_cons _ (readItem_literal ':' _),
    readItems_cons _ (readItem_second hsecond _)]
  rfl

end Pattern

namespace Instant

/-! ### Fractions of a second -/

/-- A fraction with some of its nine digits. -/
theorem readFraction?_padded {count value : Nat} (hpos : 0 < count) (hcount : count ≤ 9)
    (hvalue : value < 10 ^ count) :
    readFraction? ('.' :: (paddedText count value ++ ['Z'])) =
      some (value * 10 ^ (9 - count), ['Z']) := by
  have hlen : (paddedText count value).length = count := length_paddedText hpos hvalue
  have hdigits : (paddedText count value ++ ['Z']).takeWhile Char.isDigit =
      paddedText count value :=
    takeWhile_digits (fun c hc => isDigit_of_mem_paddedText hc) (Text.stops_cons rfl [])
  have hsome : (paddedText count value).isEmpty = false :=
    List.isEmpty_eq_false_iff.mpr (paddedText_ne_nil count value)
  have hkept : (paddedText count value).take 9 = paddedText count value :=
    List.take_of_length_le (by omega)
  unfold readFraction?
  simp only [hdigits, hsome, hkept, hlen, digitsValue_paddedText]
  simp [hlen]

/-- A fraction is read as it is written. -/
theorem readFraction?_fractionText {nanosecond : Nat} (h : nanosecond < 1000000000) :
    readFraction? (fractionText nanosecond ++ ['Z']) = some (nanosecond, ['Z']) := by
  unfold fractionText
  split
  · next hzero => rw [hzero]; rfl
  · split
    · next hmilli =>
      have hvalue : nanosecond / 1000000 * 10 ^ (9 - 3) = nanosecond := by omega
      rw [List.cons_append, readFraction?_padded (by decide) (by decide) (by omega), hvalue]
    · split
      · next hmicro =>
        have hvalue : nanosecond / 1000 * 10 ^ (9 - 6) = nanosecond := by omega
        rw [List.cons_append, readFraction?_padded (by decide) (by decide) (by omega), hvalue]
      · rw [List.cons_append, readFraction?_padded (by decide) (by decide) (by omega)]
        simp

/-! ### Days and times -/

/-- The instant of a day and time in universal time; second 60 is the second before it again. -/
theorem ofDateTime?_eq {d : DateTime} {seconds : Int} {nanosecond : Nat}
    (hinstant : IsInstant seconds nanosecond)
    (hseconds : d.date.toDays * 86400 +
      ((d.time.hour * 3600 + d.time.minute * 60 + min d.time.second 59 : Nat) : Int) = seconds)
    (hnano : d.time.nanosecond + (if d.time.second = 60 then 1000000000 else 0) = nanosecond) :
    ofDateTime? d 0 = some ⟨seconds, nanosecond, hinstant⟩ := by
  obtain ⟨-, -, hbound, -⟩ := d.time.exists_time
  have hsecond : (if d.time.second = 60 then 59 else d.time.second) = min d.time.second 59 := by
    split <;> omega
  unfold ofDateTime?
  simp only [hsecond, hseconds, hnano, Int.sub_zero]
  exact dif_pos hinstant

/-- Every instant is at one time of one day, which gives the instant. -/
theorem exists_dateTime? (t : Instant) :
    ∃ d, t.dateTime? = some d ∧ ofDateTime? d 0 = some t := by
  obtain ⟨seconds, nanosecond, hinstant⟩ := t
  obtain ⟨⟨hlow, hhigh⟩, hnano⟩ := id hinstant
  have hdays : Date.firstDay ≤ seconds / 86400 ∧ seconds / 86400 ≤ Date.lastDay := by
    have hfirst : earliest = Date.firstDay * 86400 := by decide
    have hlast : latest = Date.lastDay * 86400 + 86399 := by decide
    omega
  obtain ⟨date, hdate, htoDays⟩ := Date.exists_ofDays? hdays.1 hdays.2
  obtain ⟨ofDay, hofDay⟩ : ∃ n, n = (seconds % 86400).toNat := ⟨_, rfl⟩
  have hsplit : seconds = seconds / 86400 * 86400 + ofDay ∧ ofDay < 86400 := by omega
  -- a leap second comes after the last second of a minute
  have hleap : 1000000000 ≤ nanosecond → ofDay % 60 = 59 := by omega
  have htime : IsTime (ofDay / 3600) (ofDay / 60 % 60)
      (ofDay % 60 + if 1000000000 ≤ nanosecond then 1 else 0) (nanosecond % 1000000000) := by
    refine ⟨by omega, by omega, ?_, by omega⟩
    split <;> omega
  refine ⟨⟨date, ⟨_, _, _, _, htime⟩⟩, ?_, ofDateTime?_eq hinstant ?_ ?_⟩
  · unfold dateTime?
    simp only [hdate, ← hofDay]
    rw [TimeOfDay.of?, dif_pos htime]
    rfl
  · have hsecond : min (ofDay % 60 + if 1000000000 ≤ nanosecond then 1 else 0) 59 =
        ofDay % 60 := by
      split <;> omega
    simp only [htoDays, hsecond]
    omega
  · by_cases hnext : 1000000000 ≤ nanosecond
    · have hsixty : ofDay % 60 + 1 = 60 := by omega
      simp only [if_pos hnext, hsixty, if_true]
      omega
    · have hsixty : ofDay % 60 + 0 ≠ 60 := by omega
      simp only [if_neg hnext, if_neg hsixty]
      omega

/-- What is written is read back. -/
theorem read?_text (t : Instant) : read? t.text = some t := by
  obtain ⟨d, hd, ht⟩ := t.exists_dateTime?
  have htext : t.text.toList = d.date.chars ++ 'T' :: (d.time.chars ++
      (fractionText d.time.nanosecond ++ ['Z'])) := by
    unfold text
    rw [hd, String.toList_ofList]
  have hfraction := readFraction?_fractionText d.time.exists_time.2.2.2
  have hoffset : readOffset? (Text.trimStart ['Z']) = some (0, []) := by decide
  have hend : Text.trimStart [] = [] := rfl
  have hdate : Date.of? d.date.year d.date.month d.date.day = some d.date :=
    dif_pos d.date.exists_day
  have htime : TimeOfDay.of? d.time.hour d.time.minute d.time.second d.time.nanosecond =
      some d.time := dif_pos d.time.exists_time
  -- each part is read up to the next one, and nothing is left behind the letter
  unfold read?
  simp only [htext, Pattern.readItems_date, Pattern.readItems_time, Except.toOption,
    Option.bind_eq_bind, Option.bind_some]
  simp [hfraction, hoffset, hend, hdate, htime, ht]

end Instant

end QueryDispatch
