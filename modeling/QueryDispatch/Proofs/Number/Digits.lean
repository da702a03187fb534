import Mathlib.Algebra.Group.Nat.Defs
import QueryDispatch.Calendar.Date
import QueryDispatch.Proofs.Text.Pieces

/-! # Digits

  A number is told by its digits, also when zeros are put in front of them.
  Runs of digits that are equally long are ordered as the numbers are.
-/

namespace QueryDispatch

variable {m n width : Nat} {c : Char} {s t digits rest : List Char}

/-! ### Where a run of digits ends -/

theorem takeWhile_digits (hdigits : ∀ c ∈ digits, c.isDigit = true)
    (hrest : ∀ c ∈ rest.head?, c.isDigit = false) :
    (digits ++ rest).takeWhile Char.isDigit = digits :=
  Text.takeWhile_run hdigits hrest

theorem dropWhile_digits (hdigits : ∀ c ∈ digits, c.isDigit = true)
    (hrest : ∀ c ∈ rest.head?, c.isDigit = false) :
    (digits ++ rest).dropWhile Char.isDigit = rest :=
  Text.dropWhile_run hdigits hrest

theorem isDigit_of_mem_zeros {k : Nat} (h : c ∈ List.replicate k '0') : c.isDigit = true := by
  rw [List.eq_of_mem_replicate h]
  rfl

theorem isDigit_zero : ∀ c ∈ ['0'], c.isDigit = true := fun _ h => isDigit_of_mem_zeros (k := 1) h

theorem isBlank_of_isDigit (h : c.isDigit = true) : Text.isBlank c = false := by
  have hbounds := Char.isDigit_iff_toNat.mp h
  simp only [Char.reduceToNat] at hbounds
  simp only [Text.isBlank]
  grind

/-! ### The number of some digits -/

theorem digitsValue_eq (s : List Char) : digitsValue s = Nat.ofDigitChars 10 s 0 := by
  have hstep : ∀ init, s.foldl (fun n c => n * 10 + digitValue c) init =
      Nat.ofDigitChars 10 s init := by
    induction s with
    | nil => intro init; simp
    | cons c rest ih =>
      intro init
      rw [List.foldl_cons, ih, Nat.ofDigitChars_cons, Nat.mul_comm]
      rfl
  exact hstep 0

theorem digitsValue_append (s t : List Char) :
    digitsValue (s ++ t) = digitsValue s * 10 ^ t.length + digitsValue t := by
  simp only [digitsValue_eq]
  rw [Nat.ofDigitChars_append, Nat.ofDigitChars_eq_ofDigitChars_zero, Nat.mul_comm]

theorem digitsValue_cons (c : Char) (s : List Char) :
    digitsValue (c :: s) = digitValue c * 10 ^ s.length + digitsValue s := by
  have hone : digitsValue [c] = digitValue c := by simp [digitsValue]
  rw [← List.singleton_append, digitsValue_append, hone]

theorem digitValue_lt (hc : c.isDigit = true) : digitValue c < 10 := by
  have hbounds := Char.isDigit_iff_toNat.mp hc
  simp only [Char.reduceToNat] at hbounds
  simp only [digitValue, Char.reduceToNat]
  omega

theorem digitsValue_lt (h : ∀ c ∈ s, c.isDigit = true) : digitsValue s < 10 ^ s.length := by
  induction s with
  | nil => decide
  | cons c rest ih =>
    have hrest := ih fun d hd => h d (List.mem_cons_of_mem _ hd)
    have hc := digitValue_lt (h c List.mem_cons_self)
    have hle : digitValue c * 10 ^ rest.length ≤ 9 * 10 ^ rest.length :=
      Nat.mul_le_mul_right _ (by omega)
    rw [digitsValue_cons, List.length_cons, Nat.pow_succ]
    omega

/-- Zeros in front of other digits do not count. -/
@[simp] theorem zeros_digitsValue (k : Nat) (s : List Char) :
    digitsValue (List.replicate k '0' ++ s) = digitsValue s := by
  have hzeros : digitsValue (List.replicate k '0') = 0 := by
    rw [digitsValue_eq, Nat.ofDigitChars_replicate_zero, Nat.mul_zero]
  rw [digitsValue_append, hzeros, Nat.zero_mul, Nat.zero_add]

/-- Each zero behind them multiplies by ten. -/
@[simp] theorem digitsValue_zeros (s : List Char) (k : Nat) :
    digitsValue (s ++ List.replicate k '0') = digitsValue s * 10 ^ k := by
  have hzeros := zeros_digitsValue k []
  rw [List.append_nil] at hzeros
  rw [digitsValue_append, hzeros, List.length_replicate]
  rfl

/-! ### The digits of a number -/

theorem isDigit_of_mem_natText (h : c ∈ natText n) : c.isDigit = true :=
  Nat.isDigit_of_mem_toDigits (by decide) (by decide) h

theorem natText_ne_nil (n : Nat) : natText n ≠ [] := Nat.toDigits_ne_nil

theorem intText_ne_nil (i : Int) : intText i ≠ [] := by
  unfold intText
  split
  · exact List.cons_ne_nil _ _
  · exact natText_ne_nil _

@[simp] theorem digitsValue_natText (n : Nat) : digitsValue (natText n) = n := by
  rw [digitsValue_eq]
  exact Nat.ofDigitChars_ten_toDigits

theorem natText_inj (h : natText m = natText n) : m = n := by
  rw [← digitsValue_natText m, h, digitsValue_natText]

theorem length_natText_le (hwidth : 0 < width) (hn : n < 10 ^ width) :
    (natText n).length ≤ width :=
  (Nat.length_toDigits_le_iff (by decide) hwidth).mpr hn

/-! ### Zeros in front -/

theorem isDigit_of_mem_paddedText (h : c ∈ paddedText width n) : c.isDigit = true := by
  rcases List.mem_append.mp h with hzero | hdigit
  · exact isDigit_of_mem_zeros hzero
  · exact isDigit_of_mem_natText hdigit

theorem paddedText_ne_nil (width n : Nat) : paddedText width n ≠ [] :=
  List.append_ne_nil_of_right_ne_nil _ (natText_ne_nil n)

theorem length_paddedText (hwidth : 0 < width) (hn : n < 10 ^ width) :
    (paddedText width n).length = width := by
  have hle := length_natText_le hwidth hn
  unfold paddedText Text.padStart
  rw [List.length_append, List.length_replicate]
  omega

@[simp] theorem digitsValue_paddedText (width n : Nat) : digitsValue (paddedText width n) = n := by
  unfold paddedText Text.padStart
  rw [zeros_digitsValue, digitsValue_natText]

/-! ### Order -/

theorem digitValue_lt_iff {d : Char} (hc : c.isDigit = true) (hd : d.isDigit = true) :
    c < d ↔ digitValue c < digitValue d := by
  have hcb := Char.isDigit_iff_toNat.mp hc
  have hdb := Char.isDigit_iff_toNat.mp hd
  simp only [Char.reduceToNat] at hcb hdb
  rw [Char.lt_def, UInt32.lt_iff_toNat_lt]
  simp only [digitValue, Char.reduceToNat]
  show c.toNat < d.toNat ↔ _
  omega

theorem digitValue_inj {d : Char} (hc : c.isDigit = true) (hd : d.isDigit = true)
    (h : digitValue c = digitValue d) : c = d := by
  have hcb := Char.isDigit_iff_toNat.mp hc
  have hdb := Char.isDigit_iff_toNat.mp hd
  simp only [Char.reduceToNat] at hcb hdb
  simp only [digitValue, Char.reduceToNat] at h
  exact Char.toNat_inj.mp (by omega)

/-- Equally many digits are ordered as their numbers are. -/
theorem digits_lt_iff (hs : ∀ c ∈ s, c.isDigit = true) (ht : ∀ c ∈ t, c.isDigit = true)
    (hlength : s.length = t.length) : s < t ↔ digitsValue s < digitsValue t := by
  induction s generalizing t with
  | nil =>
    obtain rfl : t = [] := List.length_eq_zero_iff.mp hlength.symm
    simp
  | cons c s ih =>
    cases t with
    | nil => cases hlength
    | cons d t =>
      have hlen : s.length = t.length := Nat.succ.inj hlength
      have hs' : ∀ c ∈ s, c.isDigit = true := fun x hx => hs x (List.mem_cons_of_mem _ hx)
      have ht' : ∀ c ∈ t, c.isDigit = true := fun x hx => ht x (List.mem_cons_of_mem _ hx)
      have hc := hs c List.mem_cons_self
      have hd := ht d List.mem_cons_self
      have hsv := digitsValue_lt hs'
      have htv := digitsValue_lt ht'
      rw [List.cons_lt_cons_iff, ih hs' ht' hlen, digitsValue_cons, digitsValue_cons,
        digitValue_lt_iff hc hd, hlen]
      rw [hlen] at hsv
      -- the first digits decide, as what stands behind them is smaller than one of their units
      rcases Nat.lt_trichotomy (digitValue c) (digitValue d) with hlt | heq | hgt
      · have hmul : (digitValue c + 1) * 10 ^ t.length ≤ digitValue d * 10 ^ t.length :=
          Nat.mul_le_mul_right _ hlt
        rw [Nat.succ_mul] at hmul
        constructor
        · intro _
          omega
        · intro _
          exact Or.inl hlt
      · have hcd := digitValue_inj hc hd heq
        subst hcd
        simp
      · have hmul : (digitValue d + 1) * 10 ^ t.length ≤ digitValue c * 10 ^ t.length :=
          Nat.mul_le_mul_right _ hgt
        rw [Nat.succ_mul] at hmul
        constructor
        · rintro (hlt | ⟨rfl, -⟩)
          · omega
          · omega
        · intro hlt
          omega

/-- Equally many digits that make the same number are the same. -/
theorem eq_of_digitsValue_eq (hs : ∀ c ∈ s, c.isDigit = true) (ht : ∀ c ∈ t, c.isDigit = true)
    (hlength : s.length = t.length) (h : digitsValue s = digitsValue t) : s = t := by
  apply List.le_antisymm
  · intro hlt
    rw [digits_lt_iff ht hs hlength.symm, h] at hlt
    exact absurd hlt (Nat.lt_irrefl _)
  · intro hlt
    rw [digits_lt_iff hs ht hlength, h] at hlt
    exact absurd hlt (Nat.lt_irrefl _)

/-- Equally wide numbers are ordered as they are. -/
theorem paddedText_lt_iff (hwidth : 0 < width) (hm : m < 10 ^ width) (hn : n < 10 ^ width) :
    paddedText width m < paddedText width n ↔ m < n := by
  have hlen : (paddedText width m).length = (paddedText width n).length := by
    rw [length_paddedText hwidth hm, length_paddedText hwidth hn]
  rw [digits_lt_iff (fun c hc => isDigit_of_mem_paddedText hc)
    (fun c hc => isDigit_of_mem_paddedText hc) hlen, digitsValue_paddedText, digitsValue_paddedText]

theorem paddedText_inj (h : paddedText width m = paddedText width n) : m = n := by
  rw [← digitsValue_paddedText width m, h, digitsValue_paddedText]

end QueryDispatch
