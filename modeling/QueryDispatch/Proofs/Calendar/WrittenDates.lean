import QueryDispatch.Proofs.Calendar.WrittenInstants
import QueryDispatch.Proofs.Data.Chains

/-! # Dates and times are read as they are written

  A pattern writes a day and a time item by item, and the same items read the
  text again. Each item ends where the next one starts: a year at a character
  that is no digit, blanks at one that is no blank, and the other items after
  as many characters as they are written with. So what was read from a text,
  however it was written, is read again from its one written form.
-/

namespace QueryDispatch

/-! ### Days and times from numbers -/

theorem Date.of?_eq_some_iff {year : Int} {month day : Nat} {d : Date} :
    Date.of? year month day = some d ↔ d.year = year ∧ d.month = month ∧ d.day = day := by
  constructor
  · intro h
    unfold Date.of? at h
    split at h
    · obtain rfl := Option.some.inj h
      exact ⟨rfl, rfl, rfl⟩
    · cases h
  · rintro ⟨rfl, rfl, rfl⟩
    exact dif_pos d.exists_day

theorem TimeOfDay.of?_eq_some_iff {hour minute second nanosecond : Nat} {t : TimeOfDay} :
    TimeOfDay.of? hour minute second nanosecond = some t ↔
      t.hour = hour ∧ t.minute = minute ∧ t.second = second ∧ t.nanosecond = nanosecond := by
  constructor
  · intro h
    unfold TimeOfDay.of? at h
    split at h
    · obtain rfl := Option.some.inj h
      exact ⟨rfl, rfl, rfl, rfl⟩
    · cases h
  · rintro ⟨rfl, rfl, rfl, rfl⟩
    exact dif_pos t.exists_time

namespace Pattern

variable {item : PatternItem} {items pattern : List PatternItem} {fields next : DateFields}
  {d : DateTime} {s rest : List Char}

/-! ### Items one after the other -/

/-- The fields with what an item of a day and time says. -/
def put (d : DateTime) (fields : DateFields) : PatternItem → DateFields
  | .year => { fields with year := d.date.year }
  | .month => { fields with month := d.date.month }
  | .day => { fields with day := d.date.day }
  | .hour => { fields with hour := d.time.hour }
  | .minute => { fields with minute := d.time.minute }
  | .second => { fields with second := d.time.second }
  | .literal _ => fields
  | .blanks => fields

/-- An item that is written in front of a text ends where the text starts. -/
def EndsBefore (rest : List Char) : PatternItem → Prop
  | .year => ∃ c more, rest = c :: more ∧ c.isDigit = false
  | .blanks => Text.trimStart rest = rest
  | _ => True

/-- Every item ends where the next one starts, and the last one where the text behind starts. -/
def Separated (d : DateTime) : List PatternItem → List Char → Prop
  | [], _ => True
  | item :: items, rest => EndsBefore (d.write items ++ rest) item ∧ Separated d items rest

theorem write_cons (d : DateTime) (item : PatternItem) (items : List PatternItem)
    (rest : List Char) :
    d.write (item :: items) ++ rest = writeItem d item ++ (d.write items ++ rest) := by
  unfold DateTime.write
  rw [List.flatMap_cons, List.append_assoc]

/-- An item is read back from what is written for it. -/
theorem readItem_writeItem (h : EndsBefore rest item) :
    readItem item fields (writeItem d item ++ rest) = .ok (put d fields item, rest) := by
  obtain ⟨hhour, hminute, hsecond, -⟩ := d.time.exists_time
  cases item with
  | year =>
    obtain ⟨c, more, rfl, hc⟩ := h
    exact readItem_year d.date.exists_day.1 hc more
  | month => exact readItem_month d.date.month_bound rest
  | day => exact readItem_day d.date.day_bound rest
  | hour => exact readItem_hour hhour rest
  | minute => exact readItem_minute hminute rest
  | second => exact readItem_second hsecond rest
  | literal c => exact readItem_literal c rest
  | blanks =>
    show Except.ok (fields, Text.trimStart (' ' :: rest)) = _
    have htrim : Text.trimStart (' ' :: rest) = Text.trimStart rest := rfl
    rw [htrim, h]
    rfl

/-- So are the items of a pattern, one after the other. -/
theorem readItems_write (h : Separated d pattern rest) :
    readItems pattern fields (d.write pattern ++ rest) =
      .ok (pattern.foldl (put d) fields, rest) := by
  -- on the pattern, for any fields: an item is read with all that is written behind it
  induction pattern generalizing fields with
  | nil => rfl
  | cons item items ih =>
    obtain ⟨hitem, hitems⟩ := h
    rw [write_cons, readItems_cons items (readItem_writeItem hitem), ih hitems]
    rfl

theorem readAll_write (h : Separated d pattern []) :
    readAll pattern (d.write pattern) = .ok (pattern.foldl (put d) {}) := by
  have hread : readItems pattern {} (d.write pattern ++ []) =
      .ok (pattern.foldl (put d) {}, []) := readItems_write h
  rw [List.append_nil] at hread
  unfold readAll
  rw [hread]
  rfl

/-- A whole text is read with nothing left behind the last item. -/
theorem readItems_of_readAll (h : readAll pattern s = .ok fields) :
    readItems pattern {} s = .ok (fields, []) := by
  obtain ⟨⟨found, behind⟩, hread, hall⟩ := bind_eq_ok.mp h
  cases behind with
  | nil =>
    obtain rfl := Except.ok.inj hall
    exact hread
  | cons c more => cases hall

/-! ### The patterns -/

theorem separated_append {others : List PatternItem}
    (h : Separated d items (d.write others ++ rest)) (h' : Separated d others rest) :
    Separated d (items ++ others) rest := by
  induction items with
  | nil => exact h'
  | cons item items ih =>
    obtain ⟨hitem, hitems⟩ := h
    have hwrite : d.write (items ++ others) ++ rest =
        d.write items ++ (d.write others ++ rest) := by
      rw [DateTime.write, List.flatMap_append, List.append_assoc]
      rfl
    refine ⟨?_, ih hitems⟩
    show EndsBefore (d.write (items ++ others) ++ rest) item
    rw [hwrite]
    exact hitem

theorem separated_date (d : DateTime) (rest : List Char) : Separated d date rest :=
  ⟨⟨'-', _, rfl, rfl⟩, trivial, trivial, trivial, trivial, trivial⟩

theorem separated_dateMinute (d : DateTime) (rest : List Char) : Separated d dateMinute rest := by
  refine separated_append (separated_date d _) ⟨?_, trivial, trivial, trivial, trivial⟩
  -- the hour behind the blanks starts with a digit
  show Text.trimStart (d.write (.hour :: _) ++ rest) = d.write (.hour :: _) ++ rest
  rw [write_cons]
  exact trimStart_padded d.time.hour _

theorem separated_dateSecond (d : DateTime) (rest : List Char) : Separated d dateSecond rest :=
  separated_append (separated_dateMinute d _) ⟨trivial, trivial, trivial⟩

/-- Only a second is read into the seconds. -/
theorem second_of_readItem (hitem : item ≠ .second)
    (h : readItem item fields s = .ok (next, rest)) : next.second = fields.second := by
  cases item with
  | second => exact absurd rfl hitem
  | literal c =>
    cases s with
    | nil => cases h
    | cons first more =>
      have hread : (if c = first then Except.ok (fields, more) else .error ReadFault.invalid) =
          Except.ok (next, rest) := h
      split at hread
      · cases hread
        rfl
      · cases hread
  | blanks =>
    cases h
    rfl
  | _ =>
    -- a number is read into a field of its own
    obtain ⟨⟨n, more⟩, -, hnext⟩ := bind_eq_ok.mp h
    cases hnext
    rfl

theorem second_of_readItems (hpattern : .second ∉ pattern)
    (h : readItems pattern fields s = .ok (next, rest)) : next.second = fields.second := by
  induction pattern generalizing fields s with
  | nil =>
    cases h
    rfl
  | cons item items ih =>
    obtain ⟨⟨more, behind⟩, hitem, hitems⟩ := bind_eq_ok.mp h
    have hne : item ≠ .second := by
      rintro rfl
      exact hpattern List.mem_cons_self
    rw [ih (fun hmem => hpattern (List.mem_cons_of_mem _ hmem)) hitems,
      second_of_readItem hne hitem]

end Pattern

/-! ### Dates -/

/-- The text of a date is what the pattern for dates writes, whatever the time. -/
theorem Date.chars_eq_write (d : DateTime) : d.date.chars = d.write Pattern.date := by
  unfold Date.chars DateTime.write Pattern.date
  simp [Pattern.writeItem]

/-- A date is what its fields say. -/
theorem Date.read_eq_ok_iff {s : List Char} {d : Date} : Date.read s = .ok d ↔
    ∃ fields, Pattern.readAll Pattern.date s = .ok fields ∧
      d.year = fields.year ∧ d.month = fields.month ∧ d.day = fields.day := by
  simp only [← Date.of?_eq_some_iff]
  constructor
  · intro h
    obtain ⟨fields, hfields, h⟩ := bind_eq_ok.mp h
    refine ⟨fields, hfields, ?_⟩
    split at h
    · next date hdate =>
      cases h
      exact hdate
    · cases h
  · rintro ⟨fields, hfields, hdate⟩
    refine bind_eq_ok.mpr ⟨fields, hfields, ?_⟩
    simp only [hdate]
    rfl

/-- A date is read from its text. -/
theorem Date.read_text (d : Date) : Date.read d.text.toList = .ok d := by
  let midnight : DateTime := ⟨d, ⟨0, 0, 0, 0, by decide⟩⟩
  rw [Date.text, String.toList_ofList, Date.chars_eq_write midnight]
  exact Date.read_eq_ok_iff.mpr
    ⟨_, Pattern.readAll_write (Pattern.separated_date midnight []), rfl, rfl, rfl⟩

namespace DateTime

variable {pattern : List PatternItem} {d : DateTime} {s : List Char}

/-- A day and a time are what their fields say, without a fraction of a second. -/
theorem read_eq_ok_iff : DateTime.read pattern s = .ok d ↔
    ∃ fields, Pattern.readAll pattern s = .ok fields ∧
      (d.date.year = fields.year ∧ d.date.month = fields.month ∧ d.date.day = fields.day) ∧
      d.time.hour = fields.hour ∧ d.time.minute = fields.minute ∧
      d.time.second = fields.second ∧ d.time.nanosecond = 0 := by
  simp only [← Date.of?_eq_some_iff, ← TimeOfDay.of?_eq_some_iff]
  constructor
  · intro h
    obtain ⟨fields, hfields, h⟩ := bind_eq_ok.mp h
    refine ⟨fields, hfields, ?_⟩
    split at h
    · next date time hdate htime =>
      cases h
      exact ⟨hdate, htime⟩
    · cases h
  · rintro ⟨fields, hfields, hdate, htime⟩
    refine bind_eq_ok.mpr ⟨fields, hfields, ?_⟩
    simp only [hdate, htime]
    rfl

/-- What a pattern does not read is zero, so all that was read is written. -/
theorem read_write (hpattern : pattern = Pattern.dateMinute ∨ pattern = Pattern.dateSecond)
    (h : DateTime.read pattern s = .ok d) : DateTime.read pattern (d.write pattern) = .ok d := by
  obtain ⟨fields, hfields, -, -, -, hsecond, hnano⟩ := read_eq_ok_iff.mp h
  rcases hpattern with rfl | rfl
  · -- without seconds in the pattern, none were read
    have hzero : d.time.second = 0 :=
      hsecond.trans (Pattern.second_of_readItems (by decide) (Pattern.readItems_of_readAll hfields))
    exact read_eq_ok_iff.mpr ⟨_, Pattern.readAll_write (Pattern.separated_dateMinute d []),
      ⟨rfl, rfl, rfl⟩, rfl, rfl, hzero, hnano⟩
  · exact read_eq_ok_iff.mpr ⟨_, Pattern.readAll_write (Pattern.separated_dateSecond d []),
      ⟨rfl, rfl, rfl⟩, rfl, rfl, rfl, hnano⟩

end DateTime

end QueryDispatch
