import Mathlib.Algebra.Order.Field.Power
import Mathlib.Data.Rat.Cast.Order
import Mathlib.Tactic.Linarith
import Mathlib.Tactic.Positivity
import Mathlib.Tactic.Ring
import QueryDispatch.Number.Double

/-! # Rounding intervals

  The numbers that round to a double lie between the midpoints to its two
  neighbours. A midpoint belongs to the neighbour with the even mantissa, so
  no number rounds to two doubles.
-/

namespace QueryDispatch.Double

variable {d e : Double} {x : ℚ}

/-- The form in which each value has one mantissa and one exponent. -/
structure Canonical (d : Double) : Prop where
  mantissa_lt : d.mantissa < 2 ^ 53
  exponent_bound : -1074 ≤ d.exponent ∧ d.exponent ≤ 971
  /-- A small mantissa is there only at the lowest exponent. -/
  exponent_eq : d.mantissa < 2 ^ 52 → d.exponent = -1074

theorem canonical_iff : d.Canonical ↔ d.mantissa < 2 ^ 53 ∧
    (-1074 ≤ d.exponent ∧ d.exponent ≤ 971) ∧ (d.mantissa < 2 ^ 52 → d.exponent = -1074) :=
  ⟨fun h => ⟨h.1, h.2, h.3⟩, fun h => ⟨h.1, h.2.1, h.2.2⟩⟩

instance (d : Double) : Decidable d.Canonical := decidable_of_iff _ canonical_iff.symm

/-! ### Intervals -/

/-- The absolute value. -/
def magnitude (d : Double) : ℚ := d.mantissa * 2 ^ d.exponent

/-- How many quarters of a unit the interval reaches below the mantissa: below a power of two the
    neighbour is half as far away. -/
def quartersBelow (d : Double) : Nat :=
  if d.mantissa = 2 ^ 52 ∧ -1074 < d.exponent then 1 else 2

/-- The lower end of the interval, in quarters of a unit. -/
def lowQuarters (d : Double) : Nat := 4 * d.mantissa - d.quartersBelow

/-- The upper end. -/
def highQuarters (d : Double) : Nat := 4 * d.mantissa + 2

/-- A quarter of a unit. -/
def quarter (d : Double) : ℚ := 2 ^ (d.exponent - 2)

theorem quarter_pos (d : Double) : 0 < d.quarter := zpow_pos (by norm_num) _

/-- The numbers that round to the double. -/
def Rounds (d : Double) (x : ℚ) : Prop :=
  if d.mantissa % 2 = 0 then d.lowQuarters * d.quarter ≤ x ∧ x ≤ d.highQuarters * d.quarter
  else d.lowQuarters * d.quarter < x ∧ x < d.highQuarters * d.quarter

theorem Rounds.le (h : d.Rounds x) :
    d.lowQuarters * d.quarter ≤ x ∧ x ≤ d.highQuarters * d.quarter := by
  unfold Rounds at h
  split at h
  · exact h
  · exact ⟨h.1.le, h.2.le⟩

/-- What lies between the midpoints rounds to the double. -/
theorem Rounds.of_between (hlow : d.lowQuarters * d.quarter < x)
    (hhigh : x < d.highQuarters * d.quarter) : d.Rounds x := by
  unfold Rounds
  split
  · exact ⟨hlow.le, hhigh.le⟩
  · exact ⟨hlow, hhigh⟩

/-- An odd mantissa does not have the midpoints. -/
theorem Rounds.lt (h : d.Rounds x) (hodd : d.mantissa % 2 = 1) :
    d.lowQuarters * d.quarter < x ∧ x < d.highQuarters * d.quarter := by
  unfold Rounds at h
  rwa [if_neg (by omega)] at h

/-! ### One double for each number -/

/-- The order of doubles by their exponents and mantissas. -/
def Below (d e : Double) : Prop :=
  d.exponent < e.exponent ∨ d.exponent = e.exponent ∧ d.mantissa < e.mantissa

/-- The interval of a double ends where that of a later one has not begun; if the next one begins
    there, one of the two does not have that number. -/
theorem highQuarters_le (hd : d.Canonical) (he : e.Canonical) (h : d.Below e) :
    d.highQuarters ≤ e.lowQuarters * 2 ^ (e.exponent - d.exponent).toNat ∧
      (d.highQuarters = e.lowQuarters * 2 ^ (e.exponent - d.exponent).toNat →
        d.mantissa % 2 = 1 ∨ e.mantissa % 2 = 1) := by
  have hd53 := hd.mantissa_lt
  rcases h with hlt | ⟨heq, hlt⟩
  · -- the last number before the double exponent has all bits set
    have hexp : -1074 < e.exponent := by
      have hdlow := hd.exponent_bound.1
      omega
    have hnormal : 2 ^ 52 ≤ e.mantissa := by
      refine Nat.le_of_not_lt fun hsmall => ?_
      have hlowest := he.exponent_eq hsmall
      omega
    have hlow : 2 ^ 54 - 1 ≤ e.lowQuarters := by
      unfold lowQuarters quartersBelow
      split <;> omega
    have htwo : 2 ≤ 2 ^ (e.exponent - d.exponent).toNat :=
      Nat.le_self_pow (by omega) 2
    have hscaled : e.lowQuarters * 2 ≤ e.lowQuarters * 2 ^ (e.exponent - d.exponent).toNat :=
      Nat.mul_le_mul_left _ htwo
    have hhigh : d.highQuarters = 4 * d.mantissa + 2 := rfl
    omega
  · rw [heq, Int.sub_self, Int.toNat_zero, Nat.pow_zero, Nat.mul_one]
    unfold highQuarters lowQuarters quartersBelow
    split <;> omega

/-- In numbers, where the units of the two are the same. -/
theorem highQuarters_mul_le (hd : d.Canonical) (he : e.Canonical) (h : d.Below e) :
    d.highQuarters * d.quarter ≤ e.lowQuarters * e.quarter ∧
      (d.highQuarters * d.quarter = e.lowQuarters * e.quarter →
        d.mantissa % 2 = 1 ∨ e.mantissa % 2 = 1) := by
  have hexp : e.exponent - 2 = ((e.exponent - d.exponent).toNat : Int) + (d.exponent - 2) := by
    have horder : d.exponent ≤ e.exponent := by
      rcases h with hlt | ⟨heq, -⟩
      · exact hlt.le
      · exact heq.le
    omega
  have hquarter : e.quarter = 2 ^ (e.exponent - d.exponent).toNat * d.quarter := by
    unfold quarter
    rw [hexp, zpow_add₀ (by norm_num), zpow_natCast]
  have hpos := d.quarter_pos
  obtain ⟨hle, heven⟩ := highQuarters_le hd he h
  rw [hquarter, ← mul_assoc]
  constructor
  · have hcast : (d.highQuarters : ℚ) ≤
        e.lowQuarters * 2 ^ (e.exponent - d.exponent).toNat := by exact_mod_cast hle
    exact mul_le_mul_of_nonneg_right hcast hpos.le
  · intro hsame
    have hcast := mul_right_cancel₀ hpos.ne' hsame
    exact heven (by exact_mod_cast hcast)

theorem not_rounds_of_below (hd : d.Canonical) (he : e.Canonical) (h : d.Below e)
    (hx : d.Rounds x) : ¬ e.Rounds x := by
  intro hx'
  obtain ⟨hle, heven⟩ := highQuarters_mul_le hd he h
  have hupper := hx.le.2
  have hlower := hx'.le.1
  have hsame : d.highQuarters * d.quarter = e.lowQuarters * e.quarter := by linarith
  rcases heven hsame with hodd | hodd
  · linarith [(hx.lt hodd).2]
  · linarith [(hx'.lt hodd).1]

/-- No number rounds to two doubles. -/
theorem eq_of_rounds (hd : d.Canonical) (he : e.Canonical) (hx : d.Rounds x) (hx' : e.Rounds x) :
    d.mantissa = e.mantissa ∧ d.exponent = e.exponent := by
  have hde : ¬ d.Below e := fun h => not_rounds_of_below hd he h hx hx'
  have hed : ¬ e.Below d := fun h => not_rounds_of_below he hd h hx' hx
  unfold Below at hde hed
  omega

/-! ### The value itself -/

theorem magnitude_eq (d : Double) : d.magnitude = (4 * d.mantissa : ℕ) * d.quarter := by
  unfold magnitude quarter
  rw [zpow_sub₀ (by norm_num)]
  push_cast
  ring

theorem magnitude_lt (d : Double) : d.magnitude < d.highQuarters * d.quarter := by
  have hlt : 4 * d.mantissa < d.highQuarters := by
    unfold highQuarters
    omega
  rw [magnitude_eq]
  exact mul_lt_mul_of_pos_right (by exact_mod_cast hlt) d.quarter_pos

theorem lt_magnitude (hne : d.mantissa ≠ 0) : d.lowQuarters * d.quarter < d.magnitude := by
  have hlt : d.lowQuarters < 4 * d.mantissa := by
    unfold lowQuarters quartersBelow
    split <;> omega
  rw [magnitude_eq]
  exact mul_lt_mul_of_pos_right (by exact_mod_cast hlt) d.quarter_pos

/-- Nothing that rounds to such a double is zero. -/
theorem pos_of_rounds (hne : d.mantissa ≠ 0) (hx : d.Rounds x) : 0 < x := by
  have hlow : 0 < d.lowQuarters := by
    unfold lowQuarters quartersBelow
    split <;> omega
  have hpos := mul_pos (Nat.cast_pos (α := ℚ) |>.mpr hlow) d.quarter_pos
  exact lt_of_lt_of_le hpos hx.le.1

end QueryDispatch.Double
