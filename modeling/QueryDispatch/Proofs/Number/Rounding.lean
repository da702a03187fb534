import Mathlib.Tactic.SplitIfs
import QueryDispatch.Proofs.Number.ShortestDigits

/-! # Rounded ratios are canonical

  The exponent of a rounded ratio is chosen by the greatest power of two below
  it. So the mantissa has 53 binary digits, unless the exponent is the lowest
  one, and the double has the one form that its value has.
-/

namespace QueryDispatch.Double

variable {d e : Double} {num den n : Nat} {negative : Bool} {k : Int}

/-! ### The nearest whole number -/

theorem roundHalfEven_le (hden : 0 < den) (h : num < den * n) : roundHalfEven num den ≤ n := by
  have hq : num / den < n := (Nat.div_lt_iff_lt_mul hden).mpr (Nat.mul_comm den n ▸ h)
  unfold roundHalfEven
  dsimp only
  split_ifs <;> omega

theorem le_roundHalfEven (hden : 0 < den) (h : den * n ≤ num) : n ≤ roundHalfEven num den := by
  have hq : n ≤ num / den := (Nat.le_div_iff_mul_le hden).mpr (Nat.mul_comm den n ▸ h)
  unfold roundHalfEven
  dsimp only
  split_ifs <;> omega

/-! ### The greatest power of two -/

/-- Comparisons with a power of two of either sign, cleared of denominators. -/
theorem mul_pow_le_iff (k : Int) (a b : Nat) :
    (a * 2 ^ k.toNat ≤ b * 2 ^ (-k).toNat ↔ (a : ℚ) * 2 ^ k ≤ b) ∧
    (b * 2 ^ (-k).toNat < a * 2 ^ k.toNat ↔ (b : ℚ) < a * 2 ^ k) := by
  have hpos : (0 : ℚ) < 2 ^ (-k).toNat := by positivity
  have ha : ((a * 2 ^ k.toNat : ℕ) : ℚ) = a * 2 ^ k * 2 ^ (-k).toNat := by
    rw [mul_assoc, zpow_mul_pow_toNat (by norm_num)]
    push_cast
    rfl
  have hb : ((b * 2 ^ (-k).toNat : ℕ) : ℚ) = b * 2 ^ (-k).toNat := by push_cast; rfl
  rw [← Nat.cast_le (α := ℚ), ← Nat.cast_lt (α := ℚ), ha, hb]
  exact ⟨mul_le_mul_iff_of_pos_right hpos, mul_lt_mul_iff_of_pos_right hpos⟩

theorem floorLog2_spec (hnum : 0 < num) (hden : 0 < den) :
    (den : ℚ) * 2 ^ floorLog2 num den ≤ num ∧ (num : ℚ) < den * 2 ^ (floorLog2 num den + 1) := by
  obtain ⟨k, hk⟩ : ∃ k, k = (num.log2 : Int) - den.log2 := ⟨_, rfl⟩
  have hbelow : (den : ℚ) * 2 ^ (k - 1) < num := by
    have hdenHigh : (den : ℚ) < 2 ^ (den.log2 + 1) := by exact_mod_cast Nat.lt_log2_self
    have hnumLow : (2 : ℚ) ^ num.log2 ≤ num := by exact_mod_cast Nat.log2_self_le hnum.ne'
    have hexp : ((den.log2 + 1 : ℕ) : Int) + (k - 1) = num.log2 := by omega
    calc (den : ℚ) * 2 ^ (k - 1) < 2 ^ (den.log2 + 1) * 2 ^ (k - 1) :=
          mul_lt_mul_of_pos_right hdenHigh (zpow_pos (by norm_num) _)
      _ = 2 ^ num.log2 := by
          rw [← zpow_natCast, ← zpow_add₀ (by norm_num), hexp, zpow_natCast]
      _ ≤ num := hnumLow
  have habove : (num : ℚ) < den * 2 ^ (k + 1) := by
    have hnumHigh : (num : ℚ) < 2 ^ (num.log2 + 1) := by exact_mod_cast Nat.lt_log2_self
    have hdenLow : (2 : ℚ) ^ den.log2 ≤ den := by exact_mod_cast Nat.log2_self_le hden.ne'
    have hexp : (den.log2 : Int) + (k + 1) = (num.log2 + 1 : ℕ) := by omega
    calc (num : ℚ) < 2 ^ (num.log2 + 1) := hnumHigh
      _ = 2 ^ den.log2 * 2 ^ (k + 1) := by
          rw [← zpow_natCast, ← zpow_natCast, ← zpow_add₀ (by norm_num), hexp]
      _ ≤ den * 2 ^ (k + 1) := mul_le_mul_of_nonneg_right hdenLow (zpow_pos (by norm_num) _).le
  have hfloor : floorLog2 num den =
      if den * 2 ^ k.toNat ≤ num * 2 ^ (-k).toNat then k else k - 1 := by rw [hk]; rfl
  have hiff := (mul_pow_le_iff k den num).1
  rw [hfloor]
  split
  · next hle => exact ⟨hiff.mp hle, habove⟩
  · next hnot =>
    rw [sub_add_cancel]
    exact ⟨hbelow.le, lt_of_not_ge fun hle => hnot (hiff.mpr hle)⟩

/-! ### Exponent and mantissa -/

/-- The exponent that a ratio is rounded at. -/
def roundedExponent (num den : Nat) : Int := max (floorLog2 num den - 52) (-1074)

/-- The whole number it is rounded to there. -/
def roundedMantissa (num den : Nat) : Nat :=
  roundHalfEven (num * 2 ^ (-roundedExponent num den).toNat)
    (den * 2 ^ (roundedExponent num den).toNat)

/-- A mantissa with one digit too many is the next power of two. -/
def fitted (q : Nat) (e : Int) : Nat × Int := if q = 2 ^ 53 then (2 ^ 52, e + 1) else (q, e)

theorem ofRatio_eq (negative : Bool) (hnum : 0 < num) (den : Nat) :
    ofRatio negative num den =
      let (m, e) := fitted (roundedMantissa num den) (roundedExponent num den)
      if 971 < e then none else some ⟨negative, m, e⟩ := by
  unfold ofRatio
  rw [if_neg hnum.ne']
  rfl

/-- A mantissa that is fitted has 53 binary digits at most, and fewer only if it had fewer before. -/
theorem fitted_spec {q : Nat} (hq : q ≤ 2 ^ 53) (e : Int) :
    (fitted q e).1 < 2 ^ 53 ∧ e ≤ (fitted q e).2 ∧ (fitted q e).2 ≤ e + 1 ∧
      ((fitted q e).1 < 2 ^ 52 → fitted q e = (q, e)) := by
  unfold fitted
  split_ifs with hfull
  · exact ⟨by norm_num, (lt_add_one e).le, le_rfl, fun hsmall => absurd hsmall (lt_irrefl _)⟩
  · exact ⟨lt_of_le_of_ne hq hfull, le_rfl, (lt_add_one e).le, fun _ => rfl⟩

theorem ofRatio_eq_some_iff (hnum : 0 < num) (den : Nat) : ofRatio negative num den = some d ↔
    (fitted (roundedMantissa num den) (roundedExponent num den)).2 ≤ 971 ∧
      d = ⟨negative, (fitted (roundedMantissa num den) (roundedExponent num den)).1,
        (fitted (roundedMantissa num den) (roundedExponent num den)).2⟩ := by
  rw [ofRatio_eq negative hnum]
  refine Option.ite_none_left_eq_some.trans (and_congr not_lt ?_)
  rw [Option.some.injEq]
  exact eq_comm

theorem roundedMantissa_le (hnum : 0 < num) (hden : 0 < den) :
    roundedMantissa num den ≤ 2 ^ 53 := by
  refine roundHalfEven_le (by positivity) ?_
  rw [mul_right_comm, (mul_pow_le_iff _ (den * 2 ^ 53) num).2]
  have hexp : floorLog2 num den + 1 ≤ 53 + roundedExponent num den := by
    unfold roundedExponent
    omega
  calc (num : ℚ) < den * 2 ^ (floorLog2 num den + 1) := (floorLog2_spec hnum hden).2
    _ ≤ den * 2 ^ (53 + roundedExponent num den) :=
        mul_le_mul_of_nonneg_left (zpow_le_zpow_right₀ (by norm_num) hexp) (Nat.cast_nonneg _)
    _ = (den * 2 ^ 53 : ℕ) * 2 ^ roundedExponent num den := by
        rw [zpow_add₀ (by norm_num)]
        push_cast
        ring

theorem le_roundedMantissa (hnum : 0 < num) (hden : 0 < den)
    (hexponent : -1074 < roundedExponent num den) : 2 ^ 52 ≤ roundedMantissa num den := by
  refine le_roundHalfEven (by positivity) ?_
  rw [mul_right_comm, (mul_pow_le_iff _ (den * 2 ^ 52) num).1]
  have hexp : floorLog2 num den = 52 + roundedExponent num den := by
    unfold roundedExponent at hexponent ⊢
    omega
  calc ((den * 2 ^ 52 : ℕ) : ℚ) * 2 ^ roundedExponent num den
      = den * 2 ^ floorLog2 num den := by
        rw [hexp, zpow_add₀ (by norm_num)]
        push_cast
        ring
    _ ≤ num := (floorLog2_spec hnum hden).1

/-! ### Canonical results -/

theorem canonical_mk {m : Nat} (hm : m < 2 ^ 53) (hlow : -1074 ≤ k) (hhigh : k ≤ 971)
    (hsmall : m < 2 ^ 52 → k = -1074) : Canonical ⟨negative, m, k⟩ :=
  ⟨hm, ⟨hlow, hhigh⟩, hsmall⟩

theorem canonical_zero (negative : Bool) : (zero negative).Canonical :=
  canonical_mk (by decide) le_rfl (by decide) fun _ => rfl

theorem Canonical.neg (h : d.Canonical) : d.neg.Canonical := ⟨h.1, h.2, h.3⟩

/-- What a ratio is rounded to is canonical. -/
theorem canonical_of_ofRatio (hden : 0 < den) (h : ofRatio negative num den = some d) :
    d.Canonical := by
  rcases Nat.eq_zero_or_pos num with rfl | hnum
  · obtain rfl := Option.some.inj h
    exact canonical_zero negative
  · have hlowest : -1074 ≤ roundedExponent num den := le_max_right _ _
    obtain ⟨hhigh, rfl⟩ := (ofRatio_eq_some_iff hnum den).mp h
    obtain ⟨hdigits, hle, -, hsmall⟩ :=
      fitted_spec (roundedMantissa_le hnum hden) (roundedExponent num den)
    refine canonical_mk hdigits (hlowest.trans hle) hhigh fun hfew => ?_
    have hsame := hsmall hfew
    rw [hsame] at hfew ⊢
    by_contra hne
    have hnormal := le_roundedMantissa hnum hden (lt_of_le_of_ne hlowest (Ne.symm hne))
    exact absurd hfew (Nat.not_lt.mpr hnormal)

/-! ### Arithmetic -/

theorem denominator_pos (d : Double) : 0 < d.denominator := Nat.two_pow_pos _

theorem numerator_pos (h : d.mantissa ≠ 0) : 0 < d.numerator :=
  Nat.mul_pos (Nat.pos_of_ne_zero h) (Nat.two_pow_pos _)

theorem canonical_of_mul {a b : Double} (h : a.mul b = some d) : d.Canonical :=
  canonical_of_ofRatio (Nat.mul_pos a.denominator_pos b.denominator_pos) h

theorem canonical_of_div {a b : Double} (h : a.div b = some d) : d.Canonical := by
  unfold div at h
  split at h
  · cases h
  · next hne => exact canonical_of_ofRatio (Nat.mul_pos a.denominator_pos (numerator_pos hne)) h

end QueryDispatch.Double
