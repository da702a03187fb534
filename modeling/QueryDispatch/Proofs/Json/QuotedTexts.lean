import Mathlib.Tactic.SplitIfs
import QueryDispatch.Json.Printer
import QueryDispatch.Json.Reader

/-! # Quoted texts are read as they are written

  A text in quotes is read character by character, with each escape giving the
  character that it was written for. So the quotes show where the text ends,
  whatever follows.
-/

namespace QueryDispatch.Json

variable {c : Char} {rest x y : List Char} {s t : String}

/-! ### Escapes -/

theorem hexValue?_digitChar : ∀ n < 16, hexValue? (Nat.digitChar n) = some n := by
  decide

@[simp] theorem hexValue?_hexDigit (n : Nat) : hexValue? (hexDigit n) = some (n % 16) :=
  hexValue?_digitChar _ (Nat.mod_lt _ (by decide))

theorem eq_ofNat {n : Nat} (h : c.toNat = n) : Char.ofNat n = c := by
  rw [← h, Char.ofNat_toNat]

/-- A control character is read from its code. -/
theorem unicodeEscape?_control (hc : c.toNat < 32) (rest : List Char) :
    unicodeEscape? ('0' :: '0' :: hexDigit (c.toNat / 16) :: hexDigit c.toNat :: rest) =
      some (c, rest) := by
  have hzero : hexValue? '0' = some 0 := by decide
  have hcode : ((0 * 16 + 0) * 16 + c.toNat / 16 % 16) * 16 + c.toNat % 16 = c.toNat := by omega
  have hfour : hexFour? ('0' :: '0' :: hexDigit (c.toNat / 16) :: hexDigit c.toNat :: rest) =
      some (c.toNat, rest) := by
    unfold hexFour?
    simp only [hzero, hexValue?_hexDigit, Option.bind_eq_bind, Option.bind_some, hcode]
    rfl
  unfold unicodeEscape?
  simp only [hfour, Option.bind_eq_bind, Option.bind_some]
  rw [if_neg (by omega), if_neg (by omega), Char.ofNat_toNat]
  rfl

/-- A character that is not escaped is read as it is. -/
theorem readQuoted?_plain (hquote : c ≠ '"') (hslash : c ≠ '\\') (hcontrol : ¬ c.toNat < 32)
    (fuel : Nat) (read rest : List Char) :
    readQuoted? (fuel + 1) read (c :: rest) = readQuoted? fuel (c :: read) rest := by
  conv =>
    lhs
    unfold readQuoted?
  rw [if_neg hquote, if_neg hslash, if_neg hcontrol]

/-- A character is read from what it is written as. -/
theorem readQuoted?_escapeChar (fuel : Nat) (read : List Char) (c : Char) (rest : List Char) :
    readQuoted? (fuel + 1) read (escapeChar c ++ rest) = readQuoted? fuel (c :: read) rest := by
  unfold escapeChar
  split_ifs with hquote hslash hback htab hline hform hreturn hcontrol
  · rw [hquote]
    rfl
  · rw [hslash]
    rfl
  · rw [← eq_ofNat hback]
    rfl
  · rw [← eq_ofNat htab]
    rfl
  · rw [← eq_ofNat hline]
    rfl
  · rw [← eq_ofNat hform]
    rfl
  · rw [← eq_ofNat hreturn]
    rfl
  · have hmark : ('\\' : Char) ≠ '"' := by decide
    conv =>
      lhs
      unfold readQuoted?
    simp only [List.cons_append, List.nil_append, if_neg hmark, if_true,
      unicodeEscape?_control hcontrol]
  · exact readQuoted?_plain hquote hslash hcontrol fuel read rest

/-- A text is read up to its closing quote. -/
theorem readQuoted?_flatMap (fuel : Nat) (read s : List Char) (hfuel : s.length < fuel)
    (rest : List Char) :
    readQuoted? fuel read (s.flatMap escapeChar ++ '"' :: rest) =
      some (String.ofList (read.reverse ++ s), rest) := by
  induction s generalizing fuel read with
  | nil =>
    obtain ⟨fuel, rfl⟩ := Nat.exists_eq_succ_of_ne_zero (Nat.ne_of_gt hfuel)
    rw [List.append_nil]
    rfl
  | cons c s ih =>
    obtain ⟨fuel, rfl⟩ := Nat.exists_eq_succ_of_ne_zero (Nat.ne_of_gt (Nat.zero_lt_of_lt hfuel))
    rw [List.flatMap_cons, List.append_assoc, readQuoted?_escapeChar,
      ih fuel _ (Nat.lt_of_succ_lt_succ hfuel), List.reverse_cons, List.append_assoc]
    rfl

/-- Where a quoted text ends, and what it is, does not depend on what follows. -/
theorem quote_append_inj (h : quote s ++ x = quote t ++ y) : s = t ∧ x = y := by
  unfold quote at h
  simp only [List.cons_append, List.append_assoc, List.nil_append] at h
  have htail := (List.cons.inj h).2
  have hs := readQuoted?_flatMap (s.toList.length + t.toList.length + 1) [] s.toList (by omega) x
  have ht := readQuoted?_flatMap (s.toList.length + t.toList.length + 1) [] t.toList (by omega) y
  rw [htail, ht] at hs
  obtain ⟨htext, hrest⟩ := Prod.mk.inj (Option.some.inj hs)
  have hlist := String.ofList_injective htext
  exact ⟨(String.toList_inj.mp hlist).symm, hrest.symm⟩

end QueryDispatch.Json
