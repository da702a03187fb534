import QueryDispatch.Parameter.Binding
import QueryDispatch.Proofs.Calendar.WrittenOrder
import QueryDispatch.Proofs.Data.Chains

/-! # Ranges of dates

  The two ends of a range are compared as they are written. This is the order
  of the calendar for the years that have no sign, and where one end only lies
  below year zero. A year above 9999 is written before all others, so a range
  from one of the others into it is turned away and one out of it into one of
  the others is taken.
-/

namespace QueryDispatch

variable {value : Json} {d e : Date} {b : BoundValue}

/-- The value is an object whose `start` and `end` are texts of these dates. -/
def Json.GivesDates (value : Json) (d e : Date) : Prop :=
  ∃ (fields : JsonFields) (start finish : String), value = .object fields ∧
    fields.get? "start" = some (.string start) ∧ fields.get? "end" = some (.string finish) ∧
    Date.read start.toList = .ok d ∧ Date.read finish.toList = .ok e

theorem checkDate_of_read {s : String} (h : Date.read s.toList = .ok d) :
    checkDate (.string s) = .ok d.text := by
  unfold checkDate
  simp only [h]

/-- A date that passes its check is a text that reads as one. -/
theorem checkDate_eq_ok {text : String} (h : checkDate value = .ok text) :
    ∃ s d, value = .string s ∧ Date.read s.toList = .ok d ∧ text = d.text := by
  unfold checkDate at h
  split at h
  · next s =>
    split at h
    · next d hread => exact ⟨s, d, rfl, hread, (Except.ok.inj h).symm⟩
    · cases h
  · cases h

/-- Two dates make a range unless the later one is written before the earlier one. -/
theorem checkRange_of_givesDates (h : value.GivesDates d e) :
    checkRange value =
      if e.text < d.text then .error .startAfterEnd else .ok (.range d.text e.text) := by
  obtain ⟨fields, start, finish, rfl, hstart, hfinish, hd, he⟩ := h
  have hs : (Json.object fields).get? "start" = some (.string start) := hstart
  have hf : (Json.object fields).get? "end" = some (.string finish) := hfinish
  unfold checkRange
  simp only [hs, hf, checkDate_of_read hd, checkDate_of_read he]
  rfl

/-- Nothing else makes a range. -/
theorem givesDates_of_checkRange (h : checkRange value = .ok b) :
    ∃ d e : Date, value.GivesDates d e ∧ b = .range d.text e.text := by
  unfold checkRange at h
  split at h
  · next first last hfirst hlast =>
    obtain ⟨start, hstart, h⟩ := bind_eq_ok.mp h
    obtain ⟨finish, hfinish, h⟩ := bind_eq_ok.mp h
    split at h
    · cases h
    · obtain ⟨s, d, rfl, hd, rfl⟩ := checkDate_eq_ok hstart
      obtain ⟨t, e, rfl, he, rfl⟩ := checkDate_eq_ok hfinish
      cases value with
      | object fields =>
        exact ⟨d, e, ⟨fields, s, t, rfl, hfirst, hlast, hd, he⟩, (Except.ok.inj h).symm⟩
      | _ => cases hfirst
  · cases h

namespace ParameterKind

theorem check_dateRange (name : String) (value : Json) (resolver : Option DropdownResolver) :
    dateRange.check name value resolver = (checkRange value).mapError (.invalid name) := rfl

/-- A range is an object with two dates. Where both years are the same or the later one is from
    0 to 9999, it is taken if and only if the start is not after the end in the calendar. Out of a
    year above 9999 into one of the years up to 9999 it is always taken, and out of one of these
    into a year above 9999 never. Between two different years from -9999 to -1 the order is turned
    round. -/
theorem dateRange_taken_iff (name : String) (value : Json) (resolver : Option DropdownResolver) :
    let checked := dateRange.check name value resolver
    (∀ b, checked = .ok b → ∃ d e : Date, value.GivesDates d e ∧ b = .range d.text e.text) ∧
    ∀ d e : Date, value.GivesDates d e →
      (checked = .ok (.range d.text e.text) ∨ checked = .error (.invalid name .startAfterEnd)) ∧
      (d.year = e.year ∨ 0 ≤ max d.year e.year ∧ max d.year e.year ≤ 9999 →
        ((∃ b, checked = .ok b) ↔ ¬ e.Before d)) ∧
      (e.year ≤ 9999 → 9999 < d.year → ∃ b, checked = .ok b) ∧
      (d.year ≤ 9999 → 9999 < e.year → ¬ ∃ b, checked = .ok b) ∧
      (-9999 ≤ min d.year e.year → max d.year e.year < 0 → d.year ≠ e.year →
        ((∃ b, checked = .ok b) ↔ ¬ d.Before e)) := by
  intro checked
  refine ⟨?_, ?_⟩
  · intro b hb
    exact givesDates_of_checkRange (mapError_eq_ok.mp hb)
  · intro d e hdates
    have hchecked : checked = if e.text < d.text then .error (.invalid name .startAfterEnd)
        else .ok (.range d.text e.text) := by
      show dateRange.check name value resolver = _
      rw [check_dateRange, checkRange_of_givesDates hdates]
      split <;> rfl
    have htaken : (∃ b, checked = .ok b) ↔ ¬ e.text < d.text := by
      rw [hchecked]
      split
      · next h => exact iff_of_false (fun ⟨b, hb⟩ => nomatch hb) (not_not_intro h)
      · next h => exact iff_of_true ⟨_, rfl⟩ h
    refine ⟨?_, ?_, ?_, ?_, ?_⟩
    · rw [hchecked]
      split
      · exact Or.inr rfl
      · exact Or.inl rfl
    · intro hyears
      rw [htaken, Date.text_lt_iff_before (by omega)]
    · intro he hd
      exact htaken.mpr (String.lt_asymm (Date.text_lt_of_large he hd))
    · intro hd he htake
      exact htaken.mp htake (Date.text_lt_of_large hd he)
    · intro hlow hhigh hne
      rw [htaken, Date.text_lt_iff_after (by omega) (by omega) hne.symm]

/-- The first two days of a year. -/
theorem dateRange_taken_new_year :
    let value : Json := .record [("start", .string "2024-1-1"), ("end", .string "2024-01-02")]
    dateRange.check "span" value none = .ok (.range "2024-01-01" "2024-01-02") := by
  intro value
  have hdates : value.GivesDates ⟨2024, 1, 1, by decide⟩ ⟨2024, 1, 2, by decide⟩ :=
    ⟨_, "2024-1-1", "2024-01-02", rfl, rfl, rfl, eq_ok_of_toOption (by decide +kernel),
      eq_ok_of_toOption (by decide +kernel)⟩
  obtain ⟨hanswers, hcalendar, -⟩ := (dateRange_taken_iff "span" value none).2 _ _ hdates
  obtain ⟨b, hb⟩ := (hcalendar (Or.inl rfl)).mpr (by decide)
  rcases hanswers with hok | herror
  · have hwritten : Date.text ⟨2024, 1, 1, by decide⟩ = "2024-01-01" ∧
        Date.text ⟨2024, 1, 2, by decide⟩ = "2024-01-02" := by decide +kernel
    rw [hok, hwritten.1, hwritten.2]
  · rw [herror] at hb
    cases hb

/-- The last day before the year 10000 and the first day of it are dates in their order, and are
    turned away as a range. -/
theorem dateRange_into_five_digits_refused :
    let value : Json := .record [("start", .string "9999-12-31"), ("end", .string "+10000-01-01")]
    ∃ d e : Date, value.GivesDates d e ∧ d.Before e ∧
      dateRange.check "span" value none = .error (.invalid "span" .startAfterEnd) := by
  intro value
  have hdates : value.GivesDates ⟨9999, 12, 31, by decide⟩ ⟨10000, 1, 1, by decide⟩ :=
    ⟨_, "9999-12-31", "+10000-01-01", rfl, rfl, rfl, eq_ok_of_toOption (by decide +kernel),
      eq_ok_of_toOption (by decide +kernel)⟩
  refine ⟨_, _, hdates, by decide, ?_⟩
  rw [check_dateRange, checkRange_of_givesDates hdates, if_pos (by decide +kernel)]
  rfl

end ParameterKind

end QueryDispatch
