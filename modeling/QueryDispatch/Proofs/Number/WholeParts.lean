import Mathlib.Data.Rat.Floor
import QueryDispatch.Proofs.Number.Rounding

/-! # Whole parts

  A double is cut to a whole number toward zero, as its exact value is. A ratio
  does not fall below a power of two when it is rounded.
-/

namespace QueryDispatch

/-- A number cut to a whole one, toward zero. -/
def wholePart (x : ℚ) : Int := if x < 0 then ⌈x⌉ else ⌊x⌋

@[simp] theorem wholePart_intCast (i : Int) : wholePart i = i := by simp [wholePart]

theorem wholePart_of_nonneg {x : ℚ} (h : 0 ≤ x) : wholePart x = ⌊x⌋ := if_neg (not_lt.mpr h)

theorem wholePart_neg {x : ℚ} (h : 0 ≤ x) : wholePart (-x) = -⌊x⌋ := by
  unfold wholePart
  split
  · exact Int.ceil_neg
  · next hnot =>
    obtain rfl : x = 0 := le_antisymm (neg_nonneg.mp (not_lt.mp hnot)) h
    simp

namespace Double

variable {d : Double} {num den : Nat} {negative : Bool}

/-- The value with its sign. -/
def value (d : Double) : ℚ := if d.negative then -d.magnitude else d.magnitude

theorem magnitude_eq_div (d : Double) : d.magnitude = d.numerator / d.denominator := by
  have hpos : (d.denominator : ℚ) ≠ 0 := Nat.cast_ne_zero.mpr d.denominator_pos.ne'
  rw [eq_div_iff hpos, magnitude_mul_denominator]

/-- A double is cut as its value is. -/
theorem truncate_eq_wholePart (d : Double) : d.truncate = wholePart d.value := by
  have hfloor : ⌊d.magnitude⌋ = (d.numerator / d.denominator : Nat) := by
    rw [magnitude_eq_div, Rat.floor_natCast_div_natCast, Int.natCast_div]
  have hnonneg : 0 ≤ d.magnitude := by
    rw [magnitude_eq_div]
    positivity
  unfold truncate value
  dsimp only
  split
  · rw [wholePart_neg hnonneg, hfloor]
  · rw [wholePart_of_nonneg hnonneg, hfloor]

/-! ### Powers of two below a ratio -/

/-- A ratio that is not too small keeps its sign when it is rounded, and its mantissa has all binary
    digits. -/
theorem parts_of_ofRatio (hnum : 0 < num) (hden : 0 < den)
    (hexponent : -1074 < roundedExponent num den) (h : ofRatio negative num den = some d) :
    d.negative = negative ∧ 2 ^ 52 ≤ d.mantissa ∧ roundedExponent num den ≤ d.exponent := by
  obtain ⟨-, rfl⟩ := (ofRatio_eq_some_iff hnum den).mp h
  obtain ⟨-, hle, -, hsmall⟩ :=
    fitted_spec (roundedMantissa_le hnum hden) (roundedExponent num den)
  refine ⟨rfl, ?_, hle⟩
  by_contra hfew
  rw [hsmall (not_le.mp hfew)] at hfew
  exact hfew (le_roundedMantissa hnum hden hexponent)

/-- What a ratio is rounded to is not below the power of two that is below the ratio. -/
theorem two_pow_le_magnitude (hnum : 0 < num) (hden : 0 < den)
    (hexponent : -1074 < roundedExponent num den) (h : ofRatio negative num den = some d) :
    (2 : ℚ) ^ floorLog2 num den ≤ d.magnitude := by
  obtain ⟨-, hmantissa, hle⟩ := parts_of_ofRatio hnum hden hexponent h
  have hlog : floorLog2 num den = 52 + roundedExponent num den := by
    unfold roundedExponent at hexponent ⊢
    omega
  have hmantissa' : (2 : ℚ) ^ 52 ≤ d.mantissa := by exact_mod_cast hmantissa
  calc (2 : ℚ) ^ floorLog2 num den = 2 ^ 52 * 2 ^ roundedExponent num den := by
        rw [hlog, zpow_add₀ (by norm_num)]
        norm_num
    _ ≤ 2 ^ 52 * 2 ^ d.exponent :=
        mul_le_mul_of_nonneg_left (zpow_le_zpow_right₀ (by norm_num) hle) (by norm_num)
    _ ≤ d.magnitude := mul_le_mul_of_nonneg_right hmantissa' (zpow_pos (by norm_num) _).le

/-- A ratio is rounded to a double if it is below the largest power of two. -/
theorem exists_ofRatio (negative : Bool) (hnum : 0 < num) (hden : 0 < den)
    (h : floorLog2 num den ≤ 1022) : ∃ d, ofRatio negative num den = some d := by
  have hexponent : roundedExponent num den ≤ 970 := by
    unfold roundedExponent
    omega
  obtain ⟨-, -, hle, -⟩ := fitted_spec (roundedMantissa_le hnum hden) (roundedExponent num den)
  exact ⟨_, (ofRatio_eq_some_iff hnum den).mpr ⟨by omega, rfl⟩⟩

/-- The greatest power of two below a whole number. -/
theorem floorLog2_eq {n k : Nat} (hlow : 2 ^ k ≤ n) (hhigh : n < 2 ^ (k + 1)) :
    floorLog2 n 1 = k := by
  obtain ⟨hbelow, habove⟩ := floorLog2_spec (Nat.lt_of_lt_of_le (Nat.two_pow_pos k) hlow) Nat.one_pos
  rw [Nat.cast_one, one_mul] at hbelow habove
  have hlow' : (2 : ℚ) ^ (k : Int) ≤ n := by exact_mod_cast hlow
  have hhigh' : (n : ℚ) < 2 ^ ((k : Int) + 1) := by exact_mod_cast hhigh
  have hle := (zpow_lt_zpow_iff_right₀ (by norm_num)).mp (hlow'.trans_lt habove)
  have hge := (zpow_lt_zpow_iff_right₀ (by norm_num)).mp (hbelow.trans_lt hhigh')
  omega

/-- A whole number beyond those of 64 bits with a sign does not fall below its power of two when it
    becomes a double. -/
theorem ofInt_of_large {i : Int} (hlow : 2 ^ 63 ≤ i) (hhigh : i < 2 ^ 64) :
    ∃ d, ofInt i = some d ∧ 2 ^ 63 ≤ d.truncate := by
  obtain ⟨n, rfl⟩ := Int.eq_ofNat_of_zero_le (le_trans (by norm_num) hlow)
  have hlow' : 2 ^ 63 ≤ n := by exact_mod_cast hlow
  have hhigh' : n < 2 ^ (63 + 1) := by exact_mod_cast hhigh
  have hlog : floorLog2 n 1 = 63 := floorLog2_eq hlow' hhigh'
  have hpos : 0 < n := by omega
  have hexponent : -1074 < roundedExponent n 1 := by
    unfold roundedExponent
    omega
  obtain ⟨d, hd⟩ := exists_ofRatio false hpos Nat.one_pos (by omega)
  obtain ⟨hsign, -, -⟩ := parts_of_ofRatio hpos Nat.one_pos hexponent hd
  have hmagnitude : ((2 ^ 63 : Int) : ℚ) ≤ d.magnitude := by
    have hpow := two_pow_le_magnitude hpos Nat.one_pos hexponent hd
    rw [hlog] at hpow
    exact_mod_cast hpow
  have hvalue : d.value = d.magnitude := by simp [value, hsign]
  refine ⟨d, hd, ?_⟩
  rw [truncate_eq_wholePart, hvalue, wholePart_of_nonneg (le_trans (by norm_num) hmagnitude)]
  exact Int.le_floor.mpr hmagnitude

end Double

end QueryDispatch
