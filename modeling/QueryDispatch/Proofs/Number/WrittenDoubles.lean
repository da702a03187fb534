import QueryDispatch.Number.Numeral
import QueryDispatch.Proofs.Number.Digits
import QueryDispatch.Proofs.Number.ShortestDigits

/-! # Written doubles

  The text of a double is a numeral with its sign and with the value of its
  shortest digits, however the digits are laid out. So two doubles that are
  written alike are the same.
-/

namespace QueryDispatch

variable {digits whole fraction rest s t : List Char} {c : Char} {p scale : Int}
  {negative : Bool}

/-! ### Digits without trailing zeros -/

namespace Decimal

variable {x : Decimal}

/-- The significant digits with the zeros behind them are all digits. -/
theorem significant_append (x : Decimal) :
    ∃ k, x.significant.1 ++ List.replicate k '0' = natText x.digits ∧
      x.significant.2 = x.significant.1.length + (k + x.scale) := by
  obtain ⟨all, hall⟩ : ∃ all, all = natText x.digits := ⟨_, rfl⟩
  have hkept : x.significant.1 = (all.reverse.dropWhile (· == '0')).reverse := by rw [hall]; rfl
  have hplace : x.significant.2 = all.length + x.scale := by rw [hall]; rfl
  have hzeros : (all.reverse.takeWhile (· == '0')).reverse =
      List.replicate (all.reverse.takeWhile (· == '0')).length '0' := by
    rw [List.eq_replicate_iff, List.length_reverse]
    refine ⟨rfl, fun c hc => ?_⟩
    exact eq_of_beq (List.all_eq_true.mp List.all_takeWhile c (List.mem_reverse.mp hc))
  have hsplit : x.significant.1 ++
      List.replicate (all.reverse.takeWhile (· == '0')).length '0' = all := by
    rw [hkept, ← hzeros, ← List.reverse_append, List.takeWhile_append_dropWhile,
      List.reverse_reverse]
  refine ⟨_, hsplit.trans hall, ?_⟩
  have hlength := congrArg List.length hsplit
  rw [List.length_append, List.length_replicate] at hlength
  rw [hplace, ← hlength]
  push_cast
  ring

theorem isDigit_of_mem_significant (h : c ∈ x.significant.1) : c.isDigit = true := by
  obtain ⟨k, hall, -⟩ := x.significant_append
  refine isDigit_of_mem_natText (?_ : c ∈ natText x.digits)
  rw [← hall]
  exact List.mem_append_left _ h

theorem significant_ne_nil (hpos : 0 < x.digits) : x.significant.1 ≠ [] := by
  intro hnil
  obtain ⟨k, hall, -⟩ := x.significant_append
  have hvalue := congrArg digitsValue hall
  rw [hnil, digitsValue_zeros, digitsValue_natText] at hvalue
  have hzero : x.digits = 0 := hvalue.symm.trans (Nat.zero_mul _)
  omega

/-- The value, from the significant digits. -/
theorem value_significant (x : Decimal) :
    x.value = digitsValue x.significant.1 * 10 ^ (x.significant.2 - x.significant.1.length) := by
  obtain ⟨k, hall, hposition⟩ := x.significant_append
  have hvalue := congrArg digitsValue hall
  rw [digitsValue_zeros, digitsValue_natText] at hvalue
  have hexp : x.significant.2 - x.significant.1.length = k + x.scale := by omega
  unfold value
  rw [hexp, ← hvalue, zpow_add₀ (by norm_num), zpow_natCast]
  push_cast
  ring

end Decimal

/-! ### Reading -/

namespace Numeral

/-- The text begins with a digit, and is read as a decimal with this value. -/
def ReadsAs (negative : Bool) (s : List Char) (value : ℚ) : Prop :=
  (∃ c ∈ s.head?, c.isDigit = true) ∧
    ∃ n e, readUnsigned? negative s = some (.decimal negative n e) ∧ (n : ℚ) * 10 ^ e = value

theorem head_isDigit (hne : whole ≠ []) (hwhole : ∀ c ∈ whole, c.isDigit = true)
    (rest : List Char) : ∃ c ∈ (whole ++ rest).head?, c.isDigit = true := by
  obtain ⟨c, more, rfl⟩ := List.exists_cons_of_ne_nil hne
  exact ⟨c, rfl, hwhole c List.mem_cons_self⟩

/-- Digits with an exponent, or without one. -/
theorem readsAs_whole_append {e : Int} (hne : whole ≠ [])
    (hwhole : ∀ c ∈ whole, c.isDigit = true)
    (hrest : ∀ c ∈ rest.head?, c.isDigit = false ∧ c ≠ '.') (he : readExponent? rest = some e) :
    ReadsAs negative (whole ++ rest) (digitsValue whole * 10 ^ e) := by
  have htake := takeWhile_digits hwhole fun c hc => (hrest c hc).1
  have hdrop := dropWhile_digits hwhole fun c hc => (hrest c hc).1
  have hempty : whole.isEmpty = false := List.isEmpty_eq_false_iff.mpr hne
  refine ⟨head_isDigit hne hwhole rest, digitsValue whole, e, ?_, rfl⟩
  unfold readUnsigned?
  simp only [htake, hdrop]
  split
  · exact absurd rfl (hrest '.' rfl).2
  · simp [hempty, he]

/-- Digits around a point. -/
theorem readsAs_point_append {e : Int} (hne : whole ≠ [])
    (hwhole : ∀ c ∈ whole, c.isDigit = true) (hfraction : ∀ c ∈ fraction, c.isDigit = true)
    (hrest : ∀ c ∈ rest.head?, c.isDigit = false) (he : readExponent? rest = some e) :
    ReadsAs negative (whole ++ '.' :: (fraction ++ rest))
      (digitsValue (whole ++ fraction) * 10 ^ (e - fraction.length)) := by
  have hpoint : ∀ c ∈ ('.' :: (fraction ++ rest)).head?, c.isDigit = false :=
    Text.stops_cons rfl _
  have htake := takeWhile_digits hwhole hpoint
  have hdrop := dropWhile_digits hwhole hpoint
  have htake' := takeWhile_digits hfraction hrest
  have hdrop' := dropWhile_digits hfraction hrest
  have hempty : whole.isEmpty = false := List.isEmpty_eq_false_iff.mpr hne
  refine ⟨head_isDigit hne hwhole _, digitsValue (whole ++ fraction), _, ?_, rfl⟩
  unfold readUnsigned?
  simp [htake, hdrop, htake', hdrop', hempty, he]

/-- Digits alone. -/
theorem readsAs_whole (hne : whole ≠ []) (hwhole : ∀ c ∈ whole, c.isDigit = true) :
    ReadsAs negative whole (digitsValue whole) := by
  have hnil : ∀ c ∈ ([] : List Char).head?, c.isDigit = false ∧ c ≠ '.' := by
    intro c hc
    cases hc
  have hread : ReadsAs negative (whole ++ []) _ := readsAs_whole_append hne hwhole hnil rfl
  rwa [List.append_nil, zpow_zero, mul_one] at hread

/-- Digits around a point, and nothing else. -/
theorem readsAs_point (hne : whole ≠ []) (hwhole : ∀ c ∈ whole, c.isDigit = true)
    (hfraction : ∀ c ∈ fraction, c.isDigit = true) :
    ReadsAs negative (whole ++ '.' :: fraction)
      (digitsValue (whole ++ fraction) * 10 ^ (-(fraction.length : Int))) := by
  have hnil : ∀ c ∈ ([] : List Char).head?, c.isDigit = false := by
    intro c hc
    cases hc
  have hread : ReadsAs negative (whole ++ '.' :: (fraction ++ [])) _ :=
    readsAs_point_append hne hwhole hfraction hnil rfl
  rwa [List.append_nil, Int.zero_sub] at hread

theorem takeSign_of_isDigit (hc : c.isDigit = true) (rest : List Char) :
    takeSign (c :: rest) = (false, c :: rest) := by
  unfold takeSign
  split
  · next heq => exact absurd hc (by rw [(List.cons.inj heq).1]; decide)
  · next heq => exact absurd hc (by rw [(List.cons.inj heq).1]; decide)
  · rfl

theorem readNat?_natText (n : Nat) : readNat? (natText n) = some n := by
  have hempty : (natText n).isEmpty = false := List.isEmpty_eq_false_iff.mpr (natText_ne_nil n)
  have hall : (natText n).all Char.isDigit = true :=
    List.all_eq_true.mpr fun c hc => isDigit_of_mem_natText hc
  unfold readNat?
  rw [hempty, hall, digitsValue_natText]
  rfl

/-- An exponent with its sign. -/
theorem readExponent?_signed (e : Int) (plus : Bool) :
    readExponent? ('e' :: ((if e < 0 then ['-'] else if plus then ['+'] else []) ++
      natText e.natAbs)) = some e := by
  show readInt? _ = some e
  unfold readInt?
  by_cases hneg : e < 0
  · have hsign : takeSign ((if e < 0 then ['-'] else if plus then ['+'] else []) ++
        natText e.natAbs) = (true, natText e.natAbs) := by
      rw [if_pos hneg]
      rfl
    have hvalue : -(e.natAbs : Int) = e := by omega
    rw [hsign]
    simp only [readNat?_natText, Option.pure_def, Option.bind_eq_bind, Option.bind_some,
      Option.map_some, if_true, hvalue]
  · have hsign : takeSign ((if e < 0 then ['-'] else if plus then ['+'] else []) ++
        natText e.natAbs) = (false, natText e.natAbs) := by
      rw [if_neg hneg]
      cases plus with
      | true => rfl
      | false =>
        obtain ⟨c, rest, heq⟩ := List.exists_cons_of_ne_nil (natText_ne_nil e.natAbs)
        have hc : c ∈ natText e.natAbs := by
          rw [heq]
          exact List.mem_cons_self
        rw [heq]
        exact takeSign_of_isDigit (isDigit_of_mem_natText hc) rest
    have hvalue : (e.natAbs : Int) = e := by omega
    rw [hsign]
    simp only [readNat?_natText, Option.pure_def, Option.bind_eq_bind, Option.bind_some,
      Option.map_some, Bool.false_eq_true, if_false, hvalue]

end Numeral

/-! ### Layouts -/

namespace Layout

open Numeral

variable {layout : Layout}

/-- All digits behind the point. -/
theorem readsAs_small (hdigits : ∀ c ∈ digits, c.isDigit = true) (hp : p ≤ 0) :
    ReadsAs negative ('0' :: '.' :: (List.replicate (-p).toNat '0' ++ digits))
      (digitsValue digits * 10 ^ (p - digits.length)) := by
  have hfraction : ∀ c ∈ List.replicate (-p).toNat '0' ++ digits, c.isDigit = true := by
    intro c hc
    exact (List.mem_append.mp hc).elim isDigit_of_mem_zeros (hdigits c)
  have hread : ReadsAs negative (['0'] ++ '.' :: (List.replicate (-p).toNat '0' ++ digits)) _ :=
    readsAs_point (List.cons_ne_nil _ _) isDigit_zero hfraction
  have hvalue : digitsValue (['0'] ++ (List.replicate (-p).toNat '0' ++ digits)) =
      digitsValue digits :=
    (zeros_digitsValue 1 _).trans (zeros_digitsValue _ _)
  have hscale : -((List.replicate (-p).toNat '0' ++ digits).length : Int) =
      p - digits.length := by
    rw [List.length_append, List.length_replicate]
    omega
  rw [hvalue, hscale] at hread
  exact hread

/-- All digits in front of the point, with zeros up to it. -/
theorem readsAs_large (hne : digits ≠ []) (hdigits : ∀ c ∈ digits, c.isDigit = true)
    (hp : digits.length ≤ p) (point : Bool) :
    ReadsAs negative (digits ++ List.replicate (p.toNat - digits.length) '0' ++
        (if point then ['.', '0'] else []))
      (digitsValue digits * 10 ^ (p - digits.length)) := by
  have hwhole : ∀ c ∈ digits ++ List.replicate (p.toNat - digits.length) '0',
      c.isDigit = true := by
    intro c hc
    exact (List.mem_append.mp hc).elim (hdigits c) isDigit_of_mem_zeros
  have hne' := List.append_ne_nil_of_left_ne_nil hne
    (List.replicate (p.toNat - digits.length) '0')
  have hscale : p - digits.length = ((p.toNat - digits.length : Nat) : Int) := by omega
  rw [hscale, zpow_natCast]
  cases point with
  | true =>
    have hread : ReadsAs negative ((digits ++ List.replicate (p.toNat - digits.length) '0') ++
        '.' :: ['0']) _ := readsAs_point hne' hwhole isDigit_zero
    have hvalue : digitsValue ((digits ++ List.replicate (p.toNat - digits.length) '0') ++ ['0']) =
        digitsValue digits * 10 ^ (p.toNat - digits.length) * 10 :=
      (digitsValue_zeros _ 1).trans (by rw [digitsValue_zeros, pow_one])
    rw [hvalue] at hread
    push_cast at hread
    simpa using hread
  | false =>
    have hread : ReadsAs negative _ _ := readsAs_whole hne' hwhole
    rw [digitsValue_zeros] at hread
    push_cast at hread
    rw [if_neg (by decide), List.append_nil]
    exact hread

/-- The point between the digits. -/
theorem readsAs_between (hne : digits ≠ []) (hdigits : ∀ c ∈ digits, c.isDigit = true)
    (hlow : 0 < p) (hhigh : p ≤ digits.length) :
    ReadsAs negative (digits.take p.toNat ++ '.' :: digits.drop p.toNat)
      (digitsValue digits * 10 ^ (p - digits.length)) := by
  have hne' : digits.take p.toNat ≠ [] := by
    rw [Ne, List.take_eq_nil_iff]
    rintro (hzero | hnil)
    · omega
    · exact hne hnil
  have hread : ReadsAs negative (digits.take p.toNat ++ '.' :: digits.drop p.toNat) _ :=
    readsAs_point hne' (fun c hc => hdigits c (List.mem_of_mem_take hc))
      (fun c hc => hdigits c (List.mem_of_mem_drop hc))
  have hscale : -((digits.drop p.toNat).length : Int) = p - digits.length := by
    rw [List.length_drop]
    omega
  rw [List.take_append_drop, hscale] at hread
  exact hread

theorem readsAs_positional (hne : digits ≠ []) (hdigits : ∀ c ∈ digits, c.isDigit = true) :
    ReadsAs negative (layout.positional digits p)
      (digitsValue digits * 10 ^ (p - digits.length)) := by
  unfold positional
  split
  · next hp => exact readsAs_small hdigits hp
  · next hp =>
    simp only
    split
    · next hlength => exact readsAs_large hne hdigits (by omega) layout.showsPoint
    · next hlength => exact readsAs_between hne hdigits (by omega) (by omega)

/-- One digit in front of the point, and an exponent. -/
theorem readsAs_scientific (hne : digits ≠ []) (hdigits : ∀ c ∈ digits, c.isDigit = true) :
    ReadsAs negative (layout.scientific digits p)
      (digitsValue digits * 10 ^ (p - digits.length)) := by
  have he := readExponent?_signed (p - 1) layout.showsPlus
  have hletter : ∀ s : List Char, ∀ c ∈ ('e' :: s).head?, c.isDigit = false ∧ c ≠ '.' := by
    intro s c hc
    rw [List.head?_cons, Option.mem_some_iff] at hc
    rw [← hc]
    decide
  unfold scientific
  match digits, hne, hdigits with
  | [c], _, hdigits =>
    exact readsAs_whole_append (List.cons_ne_nil c []) hdigits (hletter _) he
  | c :: d :: rest, _, hdigits =>
    have hread : ReadsAs negative ([c] ++ '.' :: (d :: rest ++ _)) _ :=
      readsAs_point_append (List.cons_ne_nil c [])
        (fun x hx => hdigits x (List.mem_singleton.mp hx ▸ List.mem_cons_self))
        (fun x hx => hdigits x (List.mem_cons_of_mem _ hx)) (fun x hx => (hletter _ x hx).1) he
    have hscale : p - 1 - ((d :: rest).length : Int) = p - (c :: d :: rest).length := by
      simp only [List.length_cons]
      omega
    rw [hscale] at hread
    exact hread

end Layout

/-! ### Texts of doubles -/

namespace Numeral

/-- Digits are not letters, and are not written in another case. -/
theorem lowerAscii_of_isDigit (hc : c.isDigit = true) : Text.lowerAscii c = c := by
  have hbounds := Char.isDigit_iff_toNat.mp hc
  simp only [Char.reduceToNat] at hbounds
  unfold Text.lowerAscii
  rw [if_neg]
  rintro ⟨hlow, -⟩
  rw [Char.le_def, UInt32.le_iff_toNat_le] at hlow
  have hletter : 65 ≤ c.toNat := hlow
  omega

/-- A text that begins with a digit is none of the words. -/
theorem not_word (hc : c.isDigit = true) (more : List Char) :
    ∀ w ∈ ["nan", "inf", "infinity"], Text.equalIgnoringCase (c :: more) w.toList = false := by
  have hletter : ∀ d w, Text.lowerAscii d ≠ c →
      Text.equalIgnoringCase (c :: more) (d :: w) = false := by
    intro d w hne
    unfold Text.equalIgnoringCase
    refine beq_false_of_ne fun heq => hne ?_
    rw [List.map_cons, List.map_cons, lowerAscii_of_isDigit hc] at heq
    exact (List.cons.inj heq).1.symm
  have hdigit : ∀ d : Char, d.isDigit = false → d ≠ c := by
    rintro d hd rfl
    rw [hc] at hd
    cases hd
  intro w hw
  simp only [List.mem_cons, List.not_mem_nil, or_false] at hw
  rcases hw with rfl | rfl | rfl
  · exact hletter 'n' _ (hdigit _ (by decide))
  · exact hletter 'i' _ (hdigit _ (by decide))
  · exact hletter 'i' _ (hdigit _ (by decide))

/-- With a sign in front. -/
theorem ReadsAs.read? {value : ℚ} (h : ReadsAs negative s value) :
    ∃ n e, Numeral.read? ((if negative then ['-'] else []) ++ s) = some (.decimal negative n e) ∧
      (n : ℚ) * 10 ^ e = value := by
  obtain ⟨⟨c, hhead, hc⟩, n, e, hread, hvalue⟩ := h
  obtain ⟨more, rfl⟩ : ∃ more, s = c :: more := List.head?_eq_some_iff.mp hhead
  refine ⟨n, e, ?_, hvalue⟩
  have hsign : takeSign ((if negative then ['-'] else []) ++ c :: more) =
      (negative, c :: more) := by
    cases negative with
    | true => rfl
    | false => exact takeSign_of_isDigit hc more
  have hwords := not_word hc more
  simp only [List.forall_mem_cons] at hwords
  unfold Numeral.read?
  simp only [hsign, hwords.1, hwords.2.1, hwords.2.2.1, hread]
  rfl

end Numeral

namespace Double

variable {d e : Double}

/-- The value that the text of a double has. -/
def writtenValue (d : Double) : ℚ := if d.mantissa = 0 then 0 else d.shortest.value

/-- The text of a double is read with its sign and its shortest digits, in every layout. -/
theorem read?_render (layout : Layout) (hd : d.Canonical) :
    ∃ n e, Numeral.read? (layout.render d).toList = some (.decimal d.negative n e) ∧
      (n : ℚ) * 10 ^ e = d.writtenValue := by
  unfold Layout.render writtenValue
  rw [String.toList_ofList]
  by_cases hzero : d.mantissa = 0
  · have hisZero : d.isZero = true := by
      unfold isZero
      rw [hzero]
      rfl
    simp only [hisZero, if_true, if_pos hzero]
    refine Numeral.ReadsAs.read? ?_
    split
    · have hread : Numeral.ReadsAs d.negative (['0'] ++ '.' :: ['0']) _ :=
        Numeral.readsAs_point (List.cons_ne_nil _ _) isDigit_zero isDigit_zero
      have hvalue : digitsValue (['0'] ++ ['0']) = 0 := by decide
      rwa [hvalue, Nat.cast_zero, zero_mul] at hread
    · have hread : Numeral.ReadsAs d.negative ['0'] _ :=
        Numeral.readsAs_whole (List.cons_ne_nil _ _) isDigit_zero
      have hvalue : digitsValue ['0'] = 0 := by decide
      rwa [hvalue, Nat.cast_zero] at hread
  · have hisZero : d.isZero = false := beq_false_of_ne hzero
    simp only [hisZero, Bool.false_eq_true, if_false, if_neg hzero]
    refine Numeral.ReadsAs.read? ?_
    have hpos : 0 < d.shortest.digits := by
      refine Nat.pos_of_ne_zero fun hnone => ?_
      have hvalue := pos_of_rounds hzero (rounds_shortest hd hzero)
      unfold Decimal.value at hvalue
      rw [hnone, Nat.cast_zero, zero_mul] at hvalue
      exact lt_irrefl _ hvalue
    have hne := Decimal.significant_ne_nil hpos
    have hdigits : ∀ c ∈ d.shortest.significant.1, c.isDigit = true :=
      fun c hc => Decimal.isDigit_of_mem_significant hc
    rw [Decimal.value_significant]
    split
    · exact Layout.readsAs_positional hne hdigits
    · exact Layout.readsAs_scientific hne hdigits

/-- Doubles that are written alike are the same. -/
theorem eq_of_render_eq (layout : Layout) (hd : d.Canonical) (he : e.Canonical)
    (h : layout.render d = layout.render e) : d = e := by
  obtain ⟨n, k, hread, hvalue⟩ := read?_render layout hd
  obtain ⟨n', k', hread', hvalue'⟩ := read?_render layout he
  rw [h, hread'] at hread
  obtain ⟨hsign, rfl, rfl⟩ := Numeral.decimal.inj (Option.some.inj hread)
  have hsame : d.writtenValue = e.writtenValue := hvalue.symm.trans hvalue'
  have hparts : d.mantissa = e.mantissa ∧ d.exponent = e.exponent := by
    unfold writtenValue at hsame
    by_cases hzero : d.mantissa = 0
    · by_cases hzero' : e.mantissa = 0
      · have hexp := hd.exponent_eq (by omega)
        have hexp' := he.exponent_eq (by omega)
        omega
      · rw [if_pos hzero, if_neg hzero'] at hsame
        have hpos := pos_of_rounds hzero' (rounds_shortest he hzero')
        exact absurd hsame hpos.ne
    · by_cases hzero' : e.mantissa = 0
      · rw [if_neg hzero, if_pos hzero'] at hsame
        have hpos := pos_of_rounds hzero (rounds_shortest hd hzero)
        exact absurd hsame hpos.ne'
      · rw [if_neg hzero, if_neg hzero'] at hsame
        have hrounds := rounds_shortest hd hzero
        rw [hsame] at hrounds
        exact eq_of_rounds hd he hrounds (rounds_shortest he hzero')
  show Double.mk d.negative d.mantissa d.exponent = Double.mk e.negative e.mantissa e.exponent
  rw [hsign, hparts.1, hparts.2]

end Double

end QueryDispatch
