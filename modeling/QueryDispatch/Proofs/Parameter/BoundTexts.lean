import QueryDispatch.Proofs.Calendar.WrittenDates
import QueryDispatch.Proofs.Parameter.DateRanges
import QueryDispatch.Proofs.Parameter.Numbers
import QueryDispatch.Proofs.Parameter.Selections

/-! # Bound texts are bound again

  A check brings a value to one form, and leaves what has that form. A number
  is printed as a numeral, and a numeral without blanks stays; a date is written
  in full and read again from that; an option is an option. So a text that was
  bound may be submitted in place of the value that it was bound for.
-/

namespace QueryDispatch

variable {value : Json} {text s : String} {pattern : List PatternItem} {allowed : String → Bool}
  {multi : Option MultiValue}

/-! ### One check after the other -/

theorem checkNumber_text (h : checkNumber value = .ok text) :
    checkNumber (.string text) = .ok text := by
  rcases checkNumber_eq_ok h with ⟨n, -, rfl⟩ | ⟨s, -, htrim, hread⟩
  · -- a printed number has no blanks
    obtain ⟨negative, digits, scale, hdecimal, -⟩ := n.submits
    have hread : (Numeral.read? n.text.toList).isSome = true :=
      Numeral.isSome_read?_iff.mpr (Or.inl ⟨negative, digits, scale, hdecimal⟩)
    rw [checkNumber_string, Text.trim_of_not_blank hdecimal.not_blank, if_pos hread,
      String.ofList_toList]
  · have htwice : Text.trim text.toList = text.toList := by
      rw [htrim, Text.trim_trim]
    rw [checkNumber_string, htwice, if_pos hread, String.ofList_toList]

theorem select_text (h : select allowed multi value = .ok (.single text)) :
    select allowed multi (.string text) = .ok (.single text) := by
  obtain ⟨-, hallowed⟩ := of_select_single h
  rw [select_scalar rfl, if_pos hallowed]

theorem checkDate_text (h : checkDate value = .ok text) : checkDate (.string text) = .ok text := by
  obtain ⟨s, d, -, -, rfl⟩ := checkDate_eq_ok h
  exact checkDate_of_read d.read_text

theorem checkDateTime_of_read {d : DateTime} (h : DateTime.read pattern s.toList = .ok d) :
    checkDateTime pattern (.string s) = .ok (String.ofList (d.write pattern)) := by
  unfold checkDateTime
  simp only [h]

/-- A date with a time that passes its check is a text that reads as one. -/
theorem checkDateTime_eq_ok (h : checkDateTime pattern value = .ok text) :
    ∃ s d, value = .string s ∧ DateTime.read pattern s.toList = .ok d ∧
      text = String.ofList (d.write pattern) := by
  unfold checkDateTime at h
  split at h
  · next s =>
    split at h
    · next d hread => exact ⟨s, d, rfl, hread, (Except.ok.inj h).symm⟩
    · cases h
  · cases h

theorem checkDateTime_text (hpattern : pattern = Pattern.dateMinute ∨ pattern = Pattern.dateSecond)
    (h : checkDateTime pattern value = .ok text) :
    checkDateTime pattern (.string text) = .ok text := by
  obtain ⟨s, d, -, hread, rfl⟩ := checkDateTime_eq_ok h
  apply checkDateTime_of_read
  rw [String.toList_ofList]
  exact DateTime.read_write hpattern hread

/-! ### Any kind -/

namespace ParameterKind

/-- The form of the dates with a time that a kind takes. -/
def pattern? : ParameterKind → Option (List PatternItem)
  | .dateMinute => some Pattern.dateMinute
  | .dateSecond => some Pattern.dateSecond
  | _ => none

theorem answer_eq_single_iff {name : String} {checked : Except InvalidValue String} :
    (checked.map BoundValue.single).mapError (ParameterError.invalid name) = .ok (.single text) ↔
      checked = .ok text := by
  rw [mapError_eq_ok, map_eq_ok]
  simp

/-- A text that was bound is bound again when it is submitted for a parameter of the same kind. -/
theorem check_text {kind : ParameterKind} {name : String} {resolver : Option DropdownResolver}
    (again : String) (h : kind.check name value resolver = .ok (.single text)) :
    kind.check again (.string text) resolver = .ok (.single text) := by
  -- the name of the parameter is in errors only, so the check itself decides
  cases kind with
  | text => rfl
  | number => exact answer_eq_single_iff.mpr (checkNumber_text (answer_eq_single_iff.mp h))
  | choice options multi => exact mapError_eq_ok.mpr (select_text (mapError_eq_ok.mp h))
  | dropdown query multi =>
    cases resolver with
    | none => cases h
    | some resolve =>
      cases hentries : resolve query with
      | error e => simp [check, hentries] at h
      | ok entries =>
        have hclosed : ClosedSet (some resolve) (.dropdown query multi)
            (entries.map (·.value)) multi := .dropdown multi rfl hentries
        rw [hclosed.check_eq, mapError_eq_ok] at h ⊢
        exact select_text h
  | date => exact answer_eq_single_iff.mpr (checkDate_text (answer_eq_single_iff.mp h))
  | dateMinute =>
    exact answer_eq_single_iff.mpr (checkDateTime_text (Or.inl rfl) (answer_eq_single_iff.mp h))
  | dateSecond =>
    exact answer_eq_single_iff.mpr (checkDateTime_text (Or.inr rfl) (answer_eq_single_iff.mp h))
  | dateRange =>
    -- a range has two texts
    obtain ⟨d, e, -, hrange⟩ := givesDates_of_checkRange (mapError_eq_ok.mp h)
    cases hrange

/-- Checking is idempotent: a text that was bound is bound again, whatever the parameter of the kind
    is called. Every text of a date is bound in the one form that reads as that date, and every text
    of a date with a time in the one that reads as that date and time. -/
theorem single_text_bound_again (kind : ParameterKind) (name again : String) (value : Json)
    (resolver : Option DropdownResolver) :
    (∀ text, kind.check name value resolver = .ok (.single text) →
      kind.check again (.string text) resolver = .ok (.single text)) ∧
    (∀ s d, kind = .date → value = .string s → Date.read s.toList = .ok d →
      kind.check name value resolver = .ok (.single d.text) ∧ Date.read d.text.toList = .ok d) ∧
    ∀ s d pattern, kind.pattern? = some pattern → value = .string s →
      DateTime.read pattern s.toList = .ok d →
      kind.check name value resolver = .ok (.single (String.ofList (d.write pattern))) ∧
        DateTime.read pattern (d.write pattern) = .ok d := by
  refine ⟨fun text => check_text again, ?_, ?_⟩
  · rintro s d rfl rfl hread
    exact ⟨answer_eq_single_iff.mpr (checkDate_of_read hread), d.read_text⟩
  · rintro s d pattern hkind rfl hread
    have hwritten : ((checkDateTime pattern (.string s)).map BoundValue.single).mapError
        (ParameterError.invalid name) = .ok (.single (String.ofList (d.write pattern))) :=
      answer_eq_single_iff.mpr (checkDateTime_of_read hread)
    cases kind with
    | dateMinute =>
      obtain rfl := Option.some.inj hkind
      exact ⟨hwritten, DateTime.read_write (Or.inl rfl) hread⟩
    | dateSecond =>
      obtain rfl := Option.some.inj hkind
      exact ⟨hwritten, DateTime.read_write (Or.inr rfl) hread⟩
    | _ => cases hkind

/-- A leap second, with blanks, short numbers and a year before year zero. -/
theorem leap_second_bound_again :
    dateSecond.check "at" (.string " -1-2-3  4:5:60") none = .ok (.single "-0001-02-03 04:05:60") ∧
      dateSecond.check "at" (.string "-0001-02-03 04:05:60") none =
        .ok (.single "-0001-02-03 04:05:60") := by
  have hbound : dateSecond.check "at" (.string " -1-2-3  4:5:60") none =
      .ok (.single "-0001-02-03 04:05:60") := eq_ok_of_toOption (by decide +kernel)
  exact ⟨hbound, (single_text_bound_again dateSecond "at" "at" _ none).1 _ hbound⟩

end ParameterKind

end QueryDispatch
