import QueryDispatch.Proofs.Json.ReadValues
import QueryDispatch.Proofs.Number.WholeParts
import QueryDispatch.Proofs.Parameter.Numbers
import QueryDispatch.Warehouse.NativeType

/-! # Cells of integer columns

  A decimal column without fraction digits has integers of 64 bits while its
  precision is small. A text in it has to be such an integer. A number is
  always taken: it is cut to a whole one and to the 64 bits, so it is what it
  was only if it was such an integer.
-/

namespace QueryDispatch

open Numeral

/-! ### Numbers in cells -/

/-- The exact value of a number. -/
def JsonNumber.value : JsonNumber → ℚ
  | .int i => i
  | .double d => d.value

/-- A value is a number, or a text that has the decimal numeral of one between blanks. -/
def Json.IsNumber (value : Json) (x : ℚ) : Prop :=
  match value with
  | .number n => x = n.value
  | .string s => ∃ numeral negative n scale, Text.StandsIn numeral s.toList ∧
      IsDecimal numeral negative n scale ∧ x = (if negative then -(n : ℚ) else n) * 10 ^ scale
  | _ => False

/-- A value is one number at most. -/
theorem Json.IsNumber.unique {value : Json} {x y : ℚ} (hx : value.IsNumber x)
    (hy : value.IsNumber y) : x = y := by
  cases value with
  | number n => exact hx.trans hy.symm
  | string s =>
    obtain ⟨numeral, negative, n, scale, hstands, hdecimal, rfl⟩ := hx
    obtain ⟨other, _, _, _, hstands', hdecimal', rfl⟩ := hy
    have hsame : numeral = other :=
      (hstands.trim hdecimal.not_blank).symm.trans (hstands'.trim hdecimal'.not_blank)
    have hread := read?_eq_decimal_iff.mpr hdecimal
    rw [hsame, read?_eq_decimal_iff.mpr hdecimal'] at hread
    obtain ⟨rfl, rfl, rfl⟩ := Numeral.decimal.inj (Option.some.inj hread)
    rfl
  | _ => exact hx.elim

theorem Numeral.IsInteger.not_blank {s : List Char} {i : Int} (h : IsInteger s i) :
    ∀ c ∈ s, Text.isBlank c = false := by
  obtain ⟨negative, n, hdecimal, -⟩ := h.isDecimal
  exact hdecimal.not_blank

/-- A text with an integer is that number. -/
theorem Json.isNumber_of_isInteger {s : String} {numeral : List Char} {i : Int}
    (hstands : Text.StandsIn numeral s.toList) (h : IsInteger numeral i) :
    (Json.string s).IsNumber i := by
  obtain ⟨negative, n, hdecimal, rfl⟩ := h.isDecimal
  refine ⟨numeral, negative, n, 0, hstands, hdecimal, ?_⟩
  rw [zpow_zero, mul_one]
  split <;> simp

/-- The columns of integers are the decimal ones without fraction digits and with a small
    precision; what is not declared counts as zero. -/
theorem NativeType.columnType_eq_integer_iff {type : NativeType} : type.columnType = .integer ↔
    type.name = "DECIMAL" ∧ type.scale.getD 0 = 0 ∧ type.precision.getD 0 < 16 := by
  have hdecimal : type.isDecimal = true ↔ type.name = "DECIMAL" := beq_iff_eq
  unfold columnType
  simp only [hdecimal, textPrecision, ne_eq, ite_not]
  split_ifs with hname hscale hprecision <;> simp [*]

namespace Cell

variable {value : Json} {type : NativeType} {i : Int}

/-! ### The range of 64 bits -/

theorem clamp_eq (i : Int) : clamp i = max (-2 ^ 63) (min i (2 ^ 63 - 1)) := rfl

theorem clamp_eq_self_iff : clamp i = i ↔ -2 ^ 63 ≤ i ∧ i < 2 ^ 63 := by
  rw [clamp_eq]
  omega

/-- A number that is cut stays what it is only if it is an integer of 64 bits. -/
theorem clamp_wholePart_eq_iff (x : ℚ) :
    (clamp (wholePart x) : ℚ) = x ↔ ∃ j : Int, x = j ∧ -2 ^ 63 ≤ j ∧ j < 2 ^ 63 := by
  constructor
  · intro h
    have hrange : ∀ j : Int, -2 ^ 63 ≤ clamp j ∧ clamp j < 2 ^ 63 := by
      intro j
      rw [clamp_eq]
      omega
    exact ⟨clamp (wholePart x), h.symm, hrange _⟩
  · rintro ⟨j, rfl, hj⟩
    rw [wholePart_intCast, clamp_eq_self_iff.mpr hj]

/-! ### What is taken -/

/-- Numbers are cut. -/
theorem integer?_number {n : JsonNumber} (h : n.Held) :
    integer? (.number n) = some (clamp (wholePart n.value)) := by
  cases n with
  | double d => exact congrArg (some ∘ clamp) d.truncate_eq_wholePart
  | int i =>
    have hvalue : wholePart (JsonNumber.int i).value = i := wholePart_intCast i
    rw [hvalue]
    by_cases hsmall : i < 2 ^ 63
    · rw [clamp_eq_self_iff.mpr ⟨h.1, hsmall⟩]
      exact if_pos (Int.le_sub_one_of_lt hsmall)
    · obtain ⟨d, hd, hlarge⟩ := Double.ofInt_of_large (not_lt.mp hsmall) h.2
      have hcut : clamp d.truncate = clamp i := by
        rw [clamp_eq, clamp_eq]
        omega
      have hfallback : integer? (.number (.int i)) =
          (Double.ofInt i).map fun d => clamp d.truncate :=
        if_neg fun hle => hsmall (Int.lt_of_le_sub_one hle)
      rw [hfallback, hd, Option.map_some, hcut]

/-- Texts are read. -/
theorem integer?_string {s : String} : integer? (.string s) = some i ↔ (-2 ^ 63 ≤ i ∧ i < 2 ^ 63) ∧
    ∃ numeral, Text.StandsIn numeral s.toList ∧ IsInteger numeral i := by
  have hread : (∃ numeral, Text.StandsIn numeral s.toList ∧ IsInteger numeral i) ↔
      readInt? (Text.trim s.toList) = some i := by
    constructor
    · rintro ⟨numeral, hstands, hinteger⟩
      rw [hstands.trim hinteger.not_blank]
      exact readInt?_iff.mpr hinteger
    · intro h
      exact ⟨_, Text.exists_trim s.toList, readInt?_iff.mp h⟩
  rw [hread, ← clamp_eq_self_iff]
  refine Option.bind_eq_some_iff.trans ⟨?_, ?_⟩
  · rintro ⟨j, hj, hrange⟩
    obtain ⟨hclamp, heq⟩ := Option.ite_none_right_eq_some.mp hrange
    obtain rfl := Option.some.inj heq
    exact ⟨hclamp, hj⟩
  · rintro ⟨hrange, hi⟩
    exact ⟨i, hi, if_pos hrange⟩

/-! ### Cells of the table -/

theorem map_of_integer (htype : type.columnType = .integer) (hvalue : value ≠ .null) :
    map type value = match integer? value with
      | some i => .ok (.int i)
      | none => .error (.notInteger value) := by
  have hnull : value.isNull = false := by
    cases value with
    | null => exact absurd rfl hvalue
    | _ => rfl
  unfold map
  simp only [hnull, htype]
  rfl

/-- A cell is refused, or an integer comes out of it. -/
theorem map_eq_iff (htype : type.columnType = .integer) (hvalue : value ≠ .null) :
    ((map type value).mapError RunnerError.format = .ok (.int i) ↔ integer? value = some i) ∧
    ((map type value).mapError RunnerError.format = .error (.format (.notInteger value)) ↔
      integer? value = none) := by
  rw [map_of_integer htype hvalue]
  cases integer? value with
  | none => simp [Except.mapError]
  | some j => simp [Except.mapError, Json.int]

/-- What comes out is the number of the value, cut. -/
theorem integer?_eq_some (hheld : ∀ n, value = .number n → n.Held) (h : integer? value = some i) :
    ∃ x, value.IsNumber x ∧ i = clamp (wholePart x) := by
  cases value with
  | number n =>
    rw [integer?_number (hheld n rfl)] at h
    exact ⟨n.value, rfl, (Option.some.inj h).symm⟩
  | string s =>
    obtain ⟨hrange, numeral, hstands, hinteger⟩ := integer?_string.mp h
    refine ⟨i, Json.isNumber_of_isInteger hstands hinteger, ?_⟩
    rw [wholePart_intCast, clamp_eq_self_iff.mpr hrange]
  | _ => cases h

/-- A number in a column of integers is always taken, and a text if there is nothing but an integer
    of 64 bits between blanks; anything else is refused. What comes out is the number, cut to a
    whole one and to the range of 64 bits. So it is the number exactly when that is an integer of 64
    bits, as it is for each text that is taken. -/
theorem integers_cut (hname : type.name = "DECIMAL") (hscale : type.scale.getD 0 = 0)
    (hprecision : type.precision.getD 0 < 16) (hvalue : value ≠ .null)
    (hheld : ∀ n, value = .number n → n.Held) :
    let mapped := (map type value).mapError RunnerError.format
    (mapped = .error (.format (.notInteger value)) ∨
      ∃ i x, mapped = .ok (.int i) ∧ value.IsNumber x ∧ i = clamp (wholePart x)) ∧
    (∀ n, value = .number n → ∃ i, mapped = .ok (.int i)) ∧
    (∀ s i, value = .string s → (mapped = .ok (.int i) ↔ (-2 ^ 63 ≤ i ∧ i < 2 ^ 63) ∧
      ∃ numeral, Text.StandsIn numeral s.toList ∧ IsInteger numeral i)) ∧
    ∀ i x, mapped = .ok (.int i) → value.IsNumber x →
      ((i : ℚ) = x ↔ ∃ j : Int, x = j ∧ -2 ^ 63 ≤ j ∧ j < 2 ^ 63) := by
  have htype := NativeType.columnType_eq_integer_iff.mpr ⟨hname, hscale, hprecision⟩
  have htaken (i : Int) := (map_eq_iff (i := i) htype hvalue).1
  have hrefused := (map_eq_iff (i := 0) htype hvalue).2
  refine ⟨?_, ?_, ?_, ?_⟩
  · cases hread : integer? value with
    | none => exact Or.inl (hrefused.mpr hread)
    | some i =>
      obtain ⟨x, hx, hi⟩ := integer?_eq_some hheld hread
      exact Or.inr ⟨i, x, (htaken i).mpr hread, hx, hi⟩
  · rintro n rfl
    exact ⟨_, (htaken _).mpr (integer?_number (hheld n rfl))⟩
  · rintro s i rfl
    exact (htaken i).trans integer?_string
  · intro i x hi hx
    obtain ⟨y, hy, rfl⟩ := integer?_eq_some hheld ((htaken i).mp hi)
    rw [hx.unique hy]
    exact clamp_wholePart_eq_iff y

/-- A number and a text in a column of integers. -/
theorem integers_cut_seven :
    let type : NativeType := ⟨"DECIMAL", some 10, some 0⟩
    (∃ i : Int, (map type (.int 7)).mapError RunnerError.format = .ok (.int i) ∧ (i : ℚ) = 7) ∧
      (map type (.string " +7 ")).mapError RunnerError.format = .ok (.int 7) := by
  intro type
  have hheld : ∀ n, Json.int 7 = .number n → n.Held := by
    rintro n h
    obtain rfl := Json.number.inj h
    exact ⟨by norm_num, by norm_num⟩
  obtain ⟨-, htaken, -, hexact⟩ := integers_cut (show type.name = "DECIMAL" from rfl) rfl (by decide)
    (show Json.int 7 ≠ .null by simp [Json.int]) hheld
  obtain ⟨-, -, htext, -⟩ := integers_cut (show type.name = "DECIMAL" from rfl) rfl (by decide)
    (show Json.string " +7 " ≠ .null by simp) (fun n h => by cases h)
  constructor
  · obtain ⟨i, hi⟩ := htaken _ rfl
    exact ⟨i, hi, (hexact i 7 hi rfl).mpr ⟨7, rfl, by norm_num, by norm_num⟩⟩
  · have hblank : ∀ c ∈ [' '], Text.isBlank c = true := List.forall_mem_singleton.mpr (by decide)
    have hstands : Text.StandsIn ['+', '7'] " +7 ".toList := ⟨[' '], [' '], by decide, hblank, hblank⟩
    have hdigits : IsDigits ['7'] :=
      ⟨List.cons_ne_nil _ _, List.forall_mem_singleton.mpr (by decide)⟩
    exact (htext _ 7 rfl).mpr ⟨by decide, ['+', '7'], hstands, .mk .plus hdigits⟩

/-- A fraction is cut off, and a large number is cut to the range. -/
theorem fraction_and_magnitude_cut :
    let type : NativeType := ⟨"DECIMAL", some 10, some 0⟩
    let half : Double := ⟨false, 3 * 2 ^ 51, -52⟩
    (Json.number (.double half)).IsNumber (3 / 2) ∧
    (map type (.number (.double half))).mapError RunnerError.format = .ok (.int 1) ∧
    (map type (.int (2 ^ 64 - 1))).mapError RunnerError.format = .ok (.int (2 ^ 63 - 1)) := by
  intro type half
  refine ⟨?_, ?_, ?_⟩
  · show 3 / 2 = half.value
    norm_num [half, Double.value, Double.magnitude]
  · exact (map_eq_iff rfl (by simp)).1.mpr (by decide)
  · exact (map_eq_iff rfl (by simp [Json.int])).1.mpr (by decide)

end Cell

end QueryDispatch
