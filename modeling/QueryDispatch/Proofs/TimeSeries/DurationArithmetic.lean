import QueryDispatch.Proofs.Data.Chains
import QueryDispatch.Proofs.TimeSeries.Durations

/-! # Durations in machine words

  An amount is taken into 64 bits, cut down to 32 and multiplied with its unit,
  and the product is added to the sum. Every one of these steps refuses what
  does not fit. Whichever products a library of durations refuses beyond its
  range, reading in words gives what reading in whole numbers does.
-/

namespace QueryDispatch.Duration

variable {digits : List Char} {t : Term} {ts : List Term} {n total : Nat}

/-! ### Words -/

/-- The word of 64 bits that digits stand for. -/
def word? (digits : List Char) : Option Int64 :=
  (readNat? digits).bind fun n => if n < 2 ^ 63 then some (Int64.ofNat n) else none

/-- The same number in 32 bits. -/
def narrow? (n : Int64) : Option Int32 :=
  if -2 ^ 31 ≤ n.toInt ∧ n.toInt < 2 ^ 31 then some (Int32.ofInt n.toInt) else none

theorem word?_eq_some (h : Numeral.IsDigits digits) (hsmall : digitsValue digits < 2 ^ 63) :
    ∃ w, word? digits = some w ∧ w.toInt = digitsValue digits := by
  refine ⟨Int64.ofNat (digitsValue digits), ?_, ?_⟩
  · rw [word?, Numeral.readNat?_eq_some_iff.mpr ⟨h, rfl⟩, Option.bind_some, if_pos hsmall]
  · rw [Int64.toInt_ofNat_of_lt hsmall]

theorem digitsValue_of_word? {w : Int64} (h : word? digits = some w) :
    Numeral.IsDigits digits ∧ w.toInt = digitsValue digits := by
  obtain ⟨n, hread, hword⟩ := Option.bind_eq_some_iff.mp h
  obtain ⟨hdigits, rfl⟩ := Numeral.readNat?_eq_some_iff.mp hread
  obtain ⟨hsmall, heq⟩ := Option.ite_none_right_eq_some.mp hword
  obtain rfl := Option.some.inj heq
  exact ⟨hdigits, Int64.toInt_ofNat_of_lt hsmall⟩

theorem narrow?_eq_some {w : Int64} (hlow : 0 ≤ w.toInt) (hhigh : w.toInt ≤ largestAmount) :
    ∃ k, narrow? w = some k ∧ k.toInt = w.toInt := by
  have hbound : (largestAmount : Int) = 2 ^ 31 - 1 := rfl
  refine ⟨Int32.ofInt w.toInt, if_pos ⟨by omega, by omega⟩, ?_⟩
  exact Int32.toInt_ofInt_of_le (by omega) (by omega)

theorem le_of_narrow? {w : Int64} {k : Int32} (h : narrow? w = some k) :
    w.toInt ≤ largestAmount := by
  have hbound : (largestAmount : Int) = 2 ^ 31 - 1 := rfl
  obtain ⟨⟨-, hhigh⟩, -⟩ := Option.ite_none_right_eq_some.mp h
  omega

/-! ### Checked arithmetic -/

/-- Checked arithmetic on durations in milliseconds. Products are exact, and one that is no longer
    than the longest duration is given; a sum is given if and only if it is not. -/
structure Arithmetic where
  multiply? : Int → Int32 → Option Int
  add? : Int → Int → Option Int
  multiply?_exact : ∀ {d k product}, multiply? d k = some product → product = d * k.toInt
  multiply?_within : ∀ {d k}, (d * k.toInt).natAbs ≤ longest → multiply? d k = some (d * k.toInt)
  add?_eq : ∀ a b, add? a b = if (a + b).natAbs ≤ longest then some (a + b) else none

namespace Arithmetic

variable (arithmetic : Arithmetic)

/-- Adds a term to a sum. -/
def step? (total : Int) (t : Term) : Option Int := do
  let amount ← word? t.amount
  let unit ← unit? t.unit
  let amount ← narrow? amount
  let product ← arithmetic.multiply? unit amount
  arithmetic.add? total product

/-- Adds terms to a sum. -/
def sum? (arithmetic : Arithmetic) (total : Int) : List Term → Option Int
  | [] => some total
  | t :: rest => (arithmetic.step? total t).bind fun total => arithmetic.sum? total rest

/-- The duration that a text is read as. -/
def read? (text : String) : Option Int :=
  match text.toList with
  | [] => none
  | s => arithmetic.sum? 0 (terms s)

theorem add?_natCast (total n : Nat) :
    arithmetic.add? total n =
      if total + n ≤ longest then some ((total + n : Nat) : Int) else none := by
  rw [arithmetic.add?_eq, ← Int.natCast_add, Int.natAbs_natCast]

/-- A product that is refused, or that is too long by itself, makes no sum. -/
theorem product_added {k : Int32} {amount : Nat} (hk : k.toInt = amount) (total unit : Nat) :
    ((arithmetic.multiply? unit k).bind fun product => arithmetic.add? total product) =
      if total + amount * unit ≤ longest then some ((total + amount * unit : Nat) : Int)
      else none := by
  have hproduct : (unit : Int) * k.toInt = (amount * unit : Nat) := by
    rw [hk, Int.natCast_mul, Int.mul_comm]
  -- a product beyond the longest duration may be given or not, but the sum is beyond it too
  cases hmul : arithmetic.multiply? unit k with
  | some product =>
    obtain rfl := arithmetic.multiply?_exact hmul
    rw [Option.bind_some, hproduct, add?_natCast]
  | none =>
    have hlong : ¬ amount * unit ≤ longest := by
      intro hle
      have hwithin : ((unit : Int) * k.toInt).natAbs ≤ longest := by
        rw [hproduct, Int.natAbs_natCast]
        exact hle
      rw [arithmetic.multiply?_within hwithin] at hmul
      cases hmul
    rw [Option.bind_none, if_neg fun hle => hlong (Nat.le_trans (Nat.le_add_left _ _) hle)]

/-- An amount that fits is multiplied and added. -/
theorem step?_of_small (hamount : Numeral.IsDigits t.amount)
    (hsmall : digitsValue t.amount ≤ largestAmount) (total : Nat) :
    arithmetic.step? total t = (unit? t.unit).bind fun unit =>
      if total + digitsValue t.amount * unit ≤ longest
      then some ((total + digitsValue t.amount * unit : Nat) : Int) else none := by
  have hword : digitsValue t.amount < 2 ^ 63 := Nat.lt_of_le_of_lt hsmall (by decide)
  obtain ⟨w, hw, hvalue⟩ := word?_eq_some hamount hword
  obtain ⟨k, hk, hsame⟩ := narrow?_eq_some (w := w) (by omega) (by omega)
  simp only [step?, hw, hk, Option.bind_eq_bind, Option.bind_some]
  congr 1
  funext unit
  exact arithmetic.product_added (hsame.trans hvalue) total unit

/-- Any other amount is refused, in 64 bits or in 32. -/
theorem small_of_step? {total r : Int} (h : arithmetic.step? total t = some r) :
    Numeral.IsDigits t.amount ∧ digitsValue t.amount ≤ largestAmount := by
  obtain ⟨w, hw, h⟩ := Option.bind_eq_some_iff.mp h
  obtain ⟨unit, -, h⟩ := Option.bind_eq_some_iff.mp h
  obtain ⟨k, hk, -⟩ := Option.bind_eq_some_iff.mp h
  obtain ⟨hdigits, hvalue⟩ := digitsValue_of_word? hw
  have hnarrow := le_of_narrow? hk
  exact ⟨hdigits, by omega⟩

/-- One step is exact, or refuses as the reader does. -/
theorem step?_eq (hdigits : ∀ c ∈ t.amount, c.isDigit = true) (total : Nat) :
    arithmetic.step? total t = t.value?.bind fun n =>
      if total + n ≤ longest then some ((total + n : Nat) : Int) else none := by
  unfold Term.value?
  by_cases hbounds : t.amount.isEmpty ∨ largestAmount < digitsValue t.amount
  · rw [if_pos hbounds, Option.bind_none, Option.eq_none_iff_forall_ne_some]
    intro r hr
    obtain ⟨hamount, hsmall⟩ := arithmetic.small_of_step? hr
    rcases hbounds with hempty | hlarge
    · exact hamount.1 (List.isEmpty_iff.mp hempty)
    · omega
  · obtain ⟨hne, hsmall⟩ := not_or.mp hbounds
    have hamount : Numeral.IsDigits t.amount :=
      ⟨fun hnil => hne (List.isEmpty_iff.mpr hnil), hdigits⟩
    rw [if_neg hbounds, arithmetic.step?_of_small hamount (Nat.not_lt.mp hsmall),
      Option.bind_map]
    rfl

/-- Steps follow the sum. -/
theorem sum?_eq (hdigits : ∀ t ∈ ts, ∀ c ∈ t.amount, c.isDigit = true) (total : Nat) :
    arithmetic.sum? total ts = (Duration.sum? total ts).map Int.ofNat := by
  induction ts generalizing total with
  | nil => rfl
  | cons t ts ih =>
    obtain ⟨ht, hts⟩ := List.forall_mem_cons.mp hdigits
    rw [sum?, arithmetic.step?_eq ht, sum?_cons]
    cases t.value? with
    | none => rfl
    | some n =>
      rw [Option.bind_some, Option.bind_some]
      split
      · exact ih hts (total + n)
      · rfl

/-- Reading in words is reading. -/
theorem read?_eq (text : String) : arithmetic.read? text = (read text).toOption.map Int.ofNat := by
  rw [read_eq]
  unfold read?
  split
  · next hempty =>
    rw [if_pos hempty]
    rfl
  · next hne =>
    rw [if_neg hne, ← Int.natCast_zero, arithmetic.sum?_eq (isDigit_of_mem_terms _)]
    cases Duration.sum? 0 (terms text.toList) <;> rfl

/-- Arithmetic on whole seconds in 64 bits. A product is refused where its seconds leave the word,
    so that it may be longer than any duration; the sum then is not. -/
def inSeconds : Arithmetic where
  multiply? d k :=
    let seconds := d * k.toInt / 1000
    if -2 ^ 63 < seconds ∧ seconds < 2 ^ 63 - 1 then some (d * k.toInt) else none
  add? a b := if (a + b).natAbs ≤ longest then some (a + b) else none
  multiply?_exact h := (Option.some.inj (Option.ite_none_right_eq_some.mp h).2).symm
  multiply?_within h := by
    have hlongest : longest = 2 ^ 63 - 1 := rfl
    exact if_pos ⟨by omega, by omega⟩
  add?_eq _ _ := rfl

end Arithmetic

/-! ### Reading -/

/-- A text is read if and only if it is a written duration, and then to the exact sum; any other
    text is shown as invalid. Reading in words agrees, with any checked arithmetic of durations.
    There are no more rounds than the text has characters. -/
theorem read_iff_written (arithmetic : Arithmetic) (text : String) :
    (∀ n, read text = .ok n ↔ IsWritten text.toList n) ∧
    ((¬ ∃ n, IsWritten text.toList n) → read text = .error (.duration text)) ∧
    arithmetic.read? text = (read text).toOption.map Int.ofNat ∧
    (terms text.toList).length ≤ text.toList.length :=
  ⟨fun _ => read_eq_ok_iff, read_of_not_written, arithmetic.read?_eq text, length_terms_le _⟩

/-- An hour and a half is read. The years that 31 bits count are longer than any duration, and
    their product is given before the sum is refused. -/
theorem read_hour_and_half_in_seconds :
    IsWritten "1h30m".toList 5400000 ∧ read "1h30m" = .ok 5400000 ∧
    Arithmetic.inSeconds.read? "1h30m" = some 5400000 ∧
    (Arithmetic.inSeconds.multiply? 31536000000 2147483647).isSome ∧
    (¬ ∃ n, IsWritten "2147483647y".toList n) ∧
    read "2147483647y" = .error (.duration "2147483647y") ∧
    Arithmetic.inSeconds.read? "2147483647y" = none := by
  obtain ⟨hshort, -, hshortWords, -⟩ := read_iff_written Arithmetic.inSeconds "1h30m"
  obtain ⟨hlong, hrefused, hlongWords, -⟩ := read_iff_written Arithmetic.inSeconds "2147483647y"
  have hread : read "1h30m" = .ok 5400000 := eq_ok_of_toOption (by decide +kernel)
  have hnone : (read "2147483647y").toOption = none := by decide +kernel
  have hnot : ¬ ∃ n, IsWritten "2147483647y".toList n := by
    rintro ⟨n, hn⟩
    rw [(hlong n).mpr hn] at hnone
    cases hnone
  refine ⟨(hshort _).mp hread, hread, ?_, by decide +kernel, hnot, hrefused hnot, ?_⟩
  · rw [hshortWords, hread]
    rfl
  · rw [hlongWords, hnone]
    rfl

end QueryDispatch.Duration
