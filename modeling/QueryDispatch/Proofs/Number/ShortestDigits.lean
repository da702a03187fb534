import Mathlib.Tactic.NormNum
import QueryDispatch.Number.Shortest
import QueryDispatch.Proofs.Number.Intervals

/-! # The shortest digits round back

  The decimal that stands for a nonzero double rounds to that double. On the
  grid of seventeen digits two neighbours are nearer to each other than the
  interval is wide, so the search always comes to an end.
-/

namespace QueryDispatch

/-- The number that a decimal stands for. -/
def Decimal.value (x : Decimal) : ℚ := x.digits * 10 ^ x.scale

namespace Double

variable {d : Double} {x : Decimal} {scale : Int} {n a : Nat}

/-! ### Comparisons on a grid -/

/-- The factor of a number of quarters, once denominators are cleared. -/
def up (d : Double) (scale : Int) : Nat := 2 ^ (d.exponent - 2).toNat * 10 ^ (-scale).toNat

/-- The factor of a multiple of the grid. -/
def down (d : Double) (scale : Int) : Nat := 2 ^ (2 - d.exponent).toNat * 10 ^ scale.toNat

/-- A power with an exponent of either sign, as two powers. -/
theorem zpow_mul_pow_toNat {b : ℚ} (hb : b ≠ 0) (k : Int) :
    b ^ k * b ^ (-k).toNat = b ^ k.toNat := by
  rw [← zpow_natCast, ← zpow_natCast, ← zpow_add₀ hb]
  congr 1
  omega

/-- What the two factors are multiplied with. -/
theorem cleared (d : Double) (scale : Int) :
    ∃ c : ℚ, 0 < c ∧ d.quarter * c = d.up scale ∧ (10 : ℚ) ^ scale * c = d.down scale := by
  refine ⟨2 ^ (2 - d.exponent).toNat * 10 ^ (-scale).toNat, by positivity, ?_, ?_⟩
  · have htwo := zpow_mul_pow_toNat (b := 2) (by norm_num) (d.exponent - 2)
    rw [Int.neg_sub] at htwo
    unfold quarter up
    push_cast
    rw [← htwo]
    ring
  · have hten := zpow_mul_pow_toNat (b := 10) (by norm_num) scale
    unfold down
    push_cast
    rw [← hten]
    ring

theorem mul_le_mul_iff_grid (d : Double) (scale : Int) (a n : Nat) :
    (a * d.up scale ≤ n * d.down scale ↔ (a : ℚ) * d.quarter ≤ n * 10 ^ scale) ∧
    (a * d.up scale < n * d.down scale ↔ (a : ℚ) * d.quarter < n * 10 ^ scale) ∧
    (n * d.down scale ≤ a * d.up scale ↔ (n : ℚ) * 10 ^ scale ≤ a * d.quarter) ∧
    (n * d.down scale < a * d.up scale ↔ (n : ℚ) * 10 ^ scale < a * d.quarter) := by
  obtain ⟨c, hc, hup, hdown⟩ := d.cleared scale
  have ha : ((a * d.up scale : ℕ) : ℚ) = a * d.quarter * c := by
    push_cast
    rw [← hup]
    ring
  have hn : ((n * d.down scale : ℕ) : ℚ) = n * 10 ^ scale * c := by
    push_cast
    rw [← hdown]
    ring
  rw [← Nat.cast_le (α := ℚ), ← Nat.cast_lt (α := ℚ), ← Nat.cast_le (α := ℚ),
    ← Nat.cast_lt (α := ℚ), ha, hn]
  exact ⟨mul_le_mul_iff_of_pos_right hc, mul_lt_mul_iff_of_pos_right hc,
    mul_le_mul_iff_of_pos_right hc, mul_lt_mul_iff_of_pos_right hc⟩

/-! ### One grid -/

/-- Whether a multiple of the grid rounds back. -/
def roundsBack (d : Double) (scale : Int) (n : Nat) : Bool :=
  if d.mantissa % 2 = 0 then
    d.lowQuarters * d.up scale ≤ n * d.down scale && n * d.down scale ≤ d.highQuarters * d.up scale
  else
    d.lowQuarters * d.up scale < n * d.down scale && n * d.down scale < d.highQuarters * d.up scale

theorem roundsBack_iff : d.roundsBack scale n = true ↔ d.Rounds (n * 10 ^ scale) := by
  obtain ⟨hle, hlt, -, -⟩ := mul_le_mul_iff_grid d scale d.lowQuarters n
  obtain ⟨-, -, hle', hlt'⟩ := mul_le_mul_iff_grid d scale d.highQuarters n
  unfold roundsBack Rounds
  split <;> simp only [Bool.and_eq_true, decide_eq_true_eq, hle, hlt, hle', hlt']

/-- The multiple of the grid at or below the value. -/
def floorOn (d : Double) (scale : Int) : Nat := 4 * d.mantissa * d.up scale / d.down scale

theorem onGrid_eq (d : Double) (scale : Int) :
    d.onGrid scale =
      match d.roundsBack scale (d.floorOn scale), d.roundsBack scale (d.floorOn scale + 1) with
      | true, false => some ⟨d.floorOn scale, scale⟩
      | false, true => some ⟨d.floorOn scale + 1, scale⟩
      | false, false => none
      | true, true =>
        let toA := 4 * d.mantissa * d.up scale - d.floorOn scale * d.down scale
        let toNext := (d.floorOn scale + 1) * d.down scale - 4 * d.mantissa * d.up scale
        if toA < toNext then some ⟨d.floorOn scale, scale⟩
        else if toNext < toA then some ⟨d.floorOn scale + 1, scale⟩
        else if d.floorOn scale % 2 = 0 then some ⟨d.floorOn scale, scale⟩
        else some ⟨d.floorOn scale + 1, scale⟩ := rfl

/-- What is found on a grid rounds back. -/
theorem rounds_of_onGrid (h : d.onGrid scale = some x) : d.Rounds x.value := by
  have hfloor : d.roundsBack scale (d.floorOn scale) = true →
      d.Rounds (Decimal.value ⟨d.floorOn scale, scale⟩) := roundsBack_iff.mp
  have hnext : d.roundsBack scale (d.floorOn scale + 1) = true →
      d.Rounds (Decimal.value ⟨d.floorOn scale + 1, scale⟩) := roundsBack_iff.mp
  rw [onGrid_eq] at h
  split at h
  · next hback _ =>
    rw [← Option.some.inj h]
    exact hfloor hback
  · next _ hback =>
    rw [← Option.some.inj h]
    exact hnext hback
  · cases h
  · next hback hback' =>
    simp only at h
    split at h
    · rw [← Option.some.inj h]
      exact hfloor hback
    · split at h
      · rw [← Option.some.inj h]
        exact hnext hback'
      · split at h
        · rw [← Option.some.inj h]
          exact hfloor hback
        · rw [← Option.some.inj h]
          exact hnext hback'

/-- The grid has a multiple at or below the value and one above it. -/
theorem floorOn_le (d : Double) (scale : Int) :
    (d.floorOn scale : ℚ) * 10 ^ scale ≤ d.magnitude ∧
      d.magnitude < ((d.floorOn scale + 1 : ℕ) : ℚ) * 10 ^ scale := by
  have hdown : 0 < d.down scale := by
    unfold down
    positivity
  obtain ⟨-, -, hle, -⟩ := mul_le_mul_iff_grid d scale (4 * d.mantissa) (d.floorOn scale)
  obtain ⟨-, hlt, -, -⟩ := mul_le_mul_iff_grid d scale (4 * d.mantissa) (d.floorOn scale + 1)
  rw [magnitude_eq, ← hle, ← hlt]
  unfold floorOn
  constructor
  · exact Nat.div_mul_le_self _ _
  · rw [Nat.add_mul, Nat.one_mul]
    exact Nat.lt_div_mul_add hdown

/-- A grid that is narrower than the interval has a multiple in it. -/
theorem onGrid_isSome (hne : d.mantissa ≠ 0)
    (hscale : d.lowQuarters * d.quarter + 10 ^ scale < d.highQuarters * d.quarter) :
    ∃ x, d.onGrid scale = some x := by
  obtain ⟨hfloor, hnext⟩ := d.floorOn_le scale
  have hlow := lt_magnitude hne
  have hhigh := d.magnitude_lt
  have hsome : d.roundsBack scale (d.floorOn scale) = true ∨
      d.roundsBack scale (d.floorOn scale + 1) = true := by
    rw [roundsBack_iff, roundsBack_iff]
    -- the one below the value, or if it is not in the interval the next one
    by_cases hin : d.lowQuarters * d.quarter < d.floorOn scale * 10 ^ scale
    · exact Or.inl (Rounds.of_between hin (by linarith))
    · refine Or.inr (Rounds.of_between (by linarith) ?_)
      have hstep : ((d.floorOn scale + 1 : ℕ) : ℚ) * 10 ^ scale =
          d.floorOn scale * 10 ^ scale + 10 ^ scale := by
        push_cast
        ring
      linarith
  rw [onGrid_eq]
  split
  · exact ⟨_, rfl⟩
  · exact ⟨_, rfl⟩
  · next hfalse hfalse' =>
    rw [hfalse, hfalse'] at hsome
    simp at hsome
  · simp only
    split
    · exact ⟨_, rfl⟩
    · split
      · exact ⟨_, rfl⟩
      · split <;> exact ⟨_, rfl⟩

/-! ### Seventeen digits -/

/-- A number of so many digits is at least the power of ten with as many. -/
theorem pow_le_of_decimalLength (hn : 0 < n) : 10 ^ (decimalLength n - 1) ≤ n := by
  by_cases hone : decimalLength n - 1 = 0
  · rw [hone]
    exact hn
  · refine Nat.le_of_not_lt fun hlt => ?_
    have hlength : decimalLength n ≤ decimalLength n - 1 :=
      (Nat.length_toDigits_le_iff (by decide) (Nat.pos_of_ne_zero hone)).mpr hlt
    omega

theorem two_pow_le_ten_pow {j k : Nat} (i : Nat) (hj : j ≤ 33 * i) (hk : 10 * i ≤ k) :
    2 ^ j ≤ 10 ^ k := by
  calc 2 ^ j ≤ 2 ^ (33 * i) := Nat.pow_le_pow_right (by decide) hj
    _ = (2 ^ 33) ^ i := Nat.pow_mul ..
    _ ≤ (10 ^ 10) ^ i := Nat.pow_le_pow_left (by decide) _
    _ = 10 ^ (10 * i) := (Nat.pow_mul ..).symm
    _ ≤ 10 ^ k := Nat.pow_le_pow_right (by decide) hk

theorem magnitude_mul_denominator (d : Double) : d.magnitude * d.denominator = d.numerator := by
  have htwo := zpow_mul_pow_toNat (b := 2) (by norm_num) d.exponent
  unfold magnitude denominator numerator
  simp only [Nat.pow_eq]
  push_cast
  rw [mul_assoc, htwo]

/-- A double other than zero is at least the power of ten in front of its point. -/
theorem le_magnitude (hd : d.Canonical) (hne : d.mantissa ≠ 0) :
    (10 : ℚ) ^ (d.pointPosition - 1) ≤ d.magnitude := by
  -- the value is moved this many digits to the left before its digits are counted
  obtain ⟨shift, hshift, hposition⟩ : ∃ shift : Nat, shift = 350 ∧ d.pointPosition =
      (decimalLength (d.numerator * Nat.pow 10 shift / d.denominator) : Int) - shift :=
    ⟨350, rfl, rfl⟩
  obtain ⟨n, hn⟩ : ∃ n, n = d.numerator * 10 ^ shift / d.denominator := ⟨_, rfl⟩
  rw [Nat.pow_eq, ← hn] at hposition
  have hden : 0 < d.denominator := by
    unfold denominator
    exact Nat.pow_pos (by decide)
  have hpos : 0 < n := by
    have hnum : 1 ≤ d.numerator := by
      unfold numerator
      exact Nat.mul_pos (Nat.pos_of_ne_zero hne) (Nat.pow_pos (by decide))
    have hden' : d.denominator ≤ 10 ^ shift := by
      have hexp := hd.exponent_bound.1
      exact two_pow_le_ten_pow 35 (by omega) (by omega)
    rw [hn]
    exact Nat.div_pos (hden'.trans (Nat.le_mul_of_pos_left _ hnum)) hden
  have hscaled : (n : ℚ) ≤ d.magnitude * 10 ^ shift := by
    have hdiv : n * d.denominator ≤ d.numerator * 10 ^ shift := by
      rw [hn]
      exact Nat.div_mul_le_self _ _
    have hcast : (n : ℚ) * d.denominator ≤ d.magnitude * 10 ^ shift * d.denominator := by
      calc (n : ℚ) * d.denominator ≤ d.numerator * 10 ^ shift := by exact_mod_cast hdiv
        _ = d.magnitude * 10 ^ shift * d.denominator := by
          rw [← magnitude_mul_denominator, mul_right_comm]
    exact le_of_mul_le_mul_right hcast (by exact_mod_cast hden)
  have hlength : (10 : ℚ) ^ (decimalLength n - 1) ≤ n := by
    exact_mod_cast pow_le_of_decimalLength hpos
  have hexponent : d.pointPosition - 1 = ((decimalLength n - 1 : ℕ) : Int) - shift := by
    have hdigits : 1 ≤ decimalLength n := List.length_pos_iff.mpr Nat.toDigits_ne_nil
    omega
  rw [hexponent, zpow_sub₀ (by norm_num), zpow_natCast, zpow_natCast,
    div_le_iff₀ (by positivity)]
  exact hlength.trans hscaled

/-- The interval is wider than the grid of seventeen digits. -/
theorem grid_lt_width (hd : d.Canonical) (hne : d.mantissa ≠ 0) :
    d.lowQuarters * d.quarter + 10 ^ (d.pointPosition - 16 - 1) <
      d.highQuarters * d.quarter := by
  have hwidth : d.lowQuarters * 10 ^ 16 + 4 * d.mantissa < d.highQuarters * 10 ^ 16 := by
    have hlt := hd.mantissa_lt
    unfold lowQuarters highQuarters quartersBelow
    split <;> omega
  have hquarter : (d.lowQuarters * 10 ^ 16 + 4 * d.mantissa : ℚ) * d.quarter <
      d.highQuarters * 10 ^ 16 * d.quarter :=
    mul_lt_mul_of_pos_right (by exact_mod_cast hwidth) d.quarter_pos
  have hgrid : (10 : ℚ) ^ (d.pointPosition - 16 - 1) * 10 ^ 16 ≤ d.magnitude := by
    have hsplit : (10 : ℚ) ^ (d.pointPosition - 16 - 1) * 10 ^ 16 = 10 ^ (d.pointPosition - 1) := by
      rw [← zpow_natCast, ← zpow_add₀ (by norm_num)]
      congr 1
      push_cast
      ring
    rw [hsplit]
    exact le_magnitude hd hne
  rw [magnitude_eq] at hgrid
  push_cast at hgrid
  linarith

/-- The shortest decimal of a double other than zero rounds back to it. -/
theorem rounds_shortest (hd : d.Canonical) (hne : d.mantissa ≠ 0) :
    d.Rounds d.shortest.value := by
  obtain ⟨last, hlast⟩ := onGrid_isSome hne (grid_lt_width hd hne)
  have hsome : ((List.range 17).findSome? fun n : Nat =>
      d.onGrid (d.pointPosition - n - 1)).isSome = true := by
    rw [List.findSome?_isSome_iff]
    refine ⟨16, List.mem_range.mpr (by decide), ?_⟩
    rw [Nat.cast_ofNat, hlast]
    rfl
  obtain ⟨x, hx⟩ := Option.isSome_iff_exists.mp hsome
  obtain ⟨n, -, hn⟩ := List.exists_of_findSome?_eq_some hx
  have hshortest : d.shortest = x := by
    unfold shortest
    simp only [hx, Option.getD_some]
  rw [hshortest]
  exact rounds_of_onGrid hn

end Double

end QueryDispatch
