import QueryDispatch.Parameter.Binding
import QueryDispatch.Proofs.Data.Chains
import QueryDispatch.Proofs.Number.NumeralGrammar
import QueryDispatch.Proofs.Text.Trimming

/-! # Parameters for numbers

  A number goes into a query as a decimal numeral without blanks: an integer
  and a double as they are printed, and a text as it stands between blanks.
  The words for infinity and for no number pass the check too. These are the
  only texts that are bound and are no decimal numerals.
-/

namespace QueryDispatch

/-- A text stands in another one, with blanks around it or none. -/
def Text.StandsIn (text s : List Char) : Prop :=
  ∃ before behind, s = before ++ text ++ behind ∧
    (∀ c ∈ before, Text.isBlank c = true) ∧ ∀ c ∈ behind, Text.isBlank c = true

/-- A text without blanks is what is left when the blanks around it are taken off. -/
theorem Text.StandsIn.trim {text s : List Char} (h : Text.StandsIn text s)
    (hblank : ∀ c ∈ text, Text.isBlank c = false) : Text.trim s = text := by
  obtain ⟨before, behind, rfl, hbefore, hbehind⟩ := h
  exact Text.trim_append hbefore hblank hbehind

/-- A value is the number that a numeral `± n · 10 ^ scale` stands for: an integer is that number, a
    double is the nearest one to it, and a text is the numeral itself with blanks around it. -/
def Json.Submits (value : Json) (numeral : List Char) (negative : Bool) (n : Nat) (scale : Int) :
    Prop :=
  match value with
  | .number (.int i) => (if negative then -(n : ℚ) else n) * 10 ^ scale = i
  | .number (.double d) => negative = d.negative ∧ (d.Canonical → d.Rounds (n * 10 ^ scale))
  | .string s => Text.StandsIn numeral s.toList
  | _ => False

variable {value : Json} {text : String} {b : BoundValue}

/-! ### One value -/

theorem checkNumber_string (s : String) :
    checkNumber (.string s) =
      if (Numeral.read? (Text.trim s.toList)).isSome then
        .ok (String.ofList (Text.trim s.toList))
      else .error .notNumber := rfl

/-- What passes is a number, or a text with a numeral or a word in it. -/
theorem checkNumber_eq_ok (h : checkNumber value = .ok text) :
    (∃ n, value = .number n ∧ text = n.text) ∨
      ∃ s, value = .string s ∧ text.toList = Text.trim s.toList ∧
        (Numeral.read? text.toList).isSome = true := by
  cases value with
  | number n => exact Or.inl ⟨n, rfl, (Except.ok.inj h).symm⟩
  | string s =>
    rw [checkNumber_string] at h
    split at h
    · next hread =>
      obtain rfl := Except.ok.inj h
      exact Or.inr ⟨s, rfl, String.toList_ofList, by rwa [String.toList_ofList]⟩
    · cases h
  | _ => cases h

/-- A text without blanks that is read as a number passes with blanks around it. -/
theorem checkNumber_of_standsIn {numeral : List Char} {s : String}
    (hs : Text.StandsIn numeral s.toList) (hblank : ∀ c ∈ numeral, Text.isBlank c = false)
    (hread : (Numeral.read? numeral).isSome = true) :
    checkNumber (.string s) = .ok (String.ofList numeral) := by
  rw [checkNumber_string, hs.trim hblank, if_pos hread]

/-- Numbers are printed as the numerals that stand for them. -/
theorem JsonNumber.submits (n : JsonNumber) : ∃ negative digits scale,
    Numeral.IsDecimal n.text.toList negative digits scale ∧
      (Json.number n).Submits n.text.toList negative digits scale := by
  cases n with
  | int i =>
    refine ⟨decide (i < 0), i.natAbs, 0, ?_, ?_⟩
    · rw [text, String.toList_ofList]
      exact isDecimal_intText i
    · show (if decide (i < 0) = true then -(i.natAbs : ℚ) else i.natAbs) * 10 ^ (0 : Int) = i
      rw [zpow_zero, mul_one]
      by_cases hneg : i < 0
      · have hvalue : -(i.natAbs : Int) = i := by omega
        rw [decide_eq_true hneg, if_pos rfl, ← Int.cast_natCast, ← Int.cast_neg, hvalue]
      · have hvalue : (i.natAbs : Int) = i := by omega
        rw [decide_eq_false hneg, if_neg (by decide), ← Int.cast_natCast, hvalue]
  | double d =>
    obtain ⟨digits, scale, hdecimal, hrounds⟩ := d.isDecimal_render .json
    exact ⟨d.negative, digits, scale, hdecimal, rfl, hrounds⟩

namespace ParameterKind

theorem check_number (name : String) (value : Json) (resolver : Option DropdownResolver) :
    number.check name value resolver =
      ((checkNumber value).map .single).mapError (.invalid name) := rfl

/-- What is bound for a number is a text without blanks. It is the decimal numeral of the number
    that was submitted, unless that was a word for infinity or for no number, in any case, with a
    sign or not and between blanks; then it is the word. Every number is taken, and every text that
    has nothing but a decimal numeral or one of the words between blanks. -/
theorem number_bound_as_numeral (name : String) (value : Json)
    (resolver : Option DropdownResolver) :
    let checked := number.check name value resolver
    (∀ b, checked = .ok b → ∃ text, b = .single text ∧
      (∀ c ∈ text.toList, Text.isBlank c = false) ∧
      ((∃ negative n scale, Numeral.IsDecimal text.toList negative n scale ∧
          value.Submits text.toList negative n scale) ∨
        Numeral.IsWord text.toList ∧ (∃ s, value = .string s ∧ Text.StandsIn text.toList s.toList) ∧
          ¬ ∃ negative n scale, Numeral.IsDecimal text.toList negative n scale)) ∧
    (∀ n, value = .number n → ∃ b, checked = .ok b) ∧
    ∀ s numeral, value = .string s → Text.StandsIn numeral s.toList →
      (∃ negative n scale, Numeral.IsDecimal numeral negative n scale) ∨ Numeral.IsWord numeral →
      checked = .ok (.single (String.ofList numeral)) := by
  intro checked
  have hchecked : checked = ((checkNumber value).map .single).mapError (.invalid name) :=
    check_number name value resolver
  refine ⟨?_, ?_, ?_⟩
  · intro b hb
    rw [hchecked] at hb
    obtain ⟨text, htext, rfl⟩ := map_eq_ok.mp (mapError_eq_ok.mp hb)
    refine ⟨text, rfl, ?_⟩
    rcases checkNumber_eq_ok htext with ⟨n, rfl, rfl⟩ | ⟨s, rfl, htrim, hread⟩
    · obtain ⟨negative, digits, scale, hdecimal, hsubmits⟩ := n.submits
      exact ⟨hdecimal.not_blank, Or.inl ⟨negative, digits, scale, hdecimal, hsubmits⟩⟩
    · have hstands : Text.StandsIn text.toList s.toList := by
        rw [htrim]
        exact Text.exists_trim s.toList
      rcases Numeral.isSome_read?_iff.mp hread with ⟨negative, n, scale, hdecimal⟩ | hword
      · exact ⟨hdecimal.not_blank, Or.inl ⟨negative, n, scale, hdecimal, hstands⟩⟩
      · refine ⟨hword.not_blank, Or.inr ⟨hword, ⟨s, rfl, hstands⟩, ?_⟩⟩
        rintro ⟨negative, n, scale, hdecimal⟩
        exact hdecimal.not_isWord hword
  · rintro n rfl
    exact ⟨.single n.text, rfl⟩
  · rintro s numeral rfl hstands hnumeral
    have hblank : ∀ c ∈ numeral, Text.isBlank c = false := by
      rcases hnumeral with ⟨negative, n, scale, hdecimal⟩ | hword
      · exact hdecimal.not_blank
      · exact hword.not_blank
    rw [hchecked, checkNumber_of_standsIn hstands hblank (Numeral.isSome_read?_iff.mpr hnumeral)]
    rfl

/-- The word for no number is bound as a number is. -/
theorem nan_bound_as_number :
    number.check "n" (.string "NaN") none = .ok (.single "NaN") ∧
      ¬ ∃ negative n scale, Numeral.IsDecimal "NaN".toList negative n scale := by
  refine ⟨rfl, ?_⟩
  rintro ⟨negative, n, scale, hdecimal⟩
  have hread := Numeral.read?_eq_decimal_iff.mpr hdecimal
  have hnan : Numeral.read? "NaN".toList = some .nan := by decide
  rw [hnan] at hread
  cases hread

end ParameterKind

end QueryDispatch
