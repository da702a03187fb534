import QueryDispatch.Proofs.Number.WrittenDoubles

/-! # The grammar of numerals

  A decimal numeral is a sign, digits with an optional point and an optional
  exponent. The reader takes exactly these, and besides them the words for
  infinity and for no number. A numeral has no blanks.
-/

namespace QueryDispatch.Numeral

variable {s rest sign mantissa exponent : List Char} {c : Char} {negative : Bool} {n places : Nat}
  {e scale : Int}

/-! ### The grammar -/

/-- A sign or none, and whether it is a minus. -/
inductive Sign : List Char → Bool → Prop
  | none : Sign [] false
  | plus : Sign ['+'] false
  | minus : Sign ['-'] true

/-- One digit or more. -/
def IsDigits (s : List Char) : Prop := s ≠ [] ∧ ∀ c ∈ s, c.isDigit = true

/-- Digits behind a sign or none, and the integer that they make. -/
inductive IsInteger : List Char → Int → Prop
  | mk {sign digits : List Char} {negative : Bool} (hsign : Sign sign negative)
      (h : IsDigits digits) :
    IsInteger (sign ++ digits)
      (if negative then -(digitsValue digits : Int) else digitsValue digits)

/-- Digits without a point or around one, the number that they make, and how many of them stand
    behind the point. -/
inductive Mantissa : List Char → Nat → Nat → Prop
  | whole {digits : List Char} (h : IsDigits digits) : Mantissa digits (digitsValue digits) 0
  | point {before behind : List Char} (h : IsDigits (before ++ behind)) :
    Mantissa (before ++ '.' :: behind) (digitsValue (before ++ behind)) behind.length

/-- An exponent or none. -/
inductive Exponent : List Char → Int → Prop
  | none : Exponent [] 0
  | some {letter : Char} {sign digits : List Char} {negative : Bool}
      (hletter : letter = 'e' ∨ letter = 'E') (hsign : Sign sign negative) (h : IsDigits digits) :
    Exponent (letter :: (sign ++ digits))
      (if negative then -(digitsValue digits : Int) else digitsValue digits)

/-- A decimal numeral for `± n · 10 ^ scale`. -/
inductive IsDecimal : List Char → Bool → Nat → Int → Prop
  | mk {sign mantissa exponent : List Char} {negative : Bool} {n places : Nat} {e : Int}
      (hsign : Sign sign negative) (hmantissa : Mantissa mantissa n places)
      (hexponent : Exponent exponent e) :
    IsDecimal (sign ++ (mantissa ++ exponent)) negative n (e - places)

/-- The words for no number and for infinity. -/
def words : List (List Char) := ["nan".toList, "inf".toList, "infinity".toList]

/-- One of the words, in any case, behind a sign or not. -/
inductive IsWord : List Char → Prop
  | mk {sign word : List Char} {negative : Bool} (hsign : Sign sign negative)
      (h : word.map Text.lowerAscii ∈ words) : IsWord (sign ++ word)

/-! ### Signs -/

theorem takeSign_of_not_sign (h : ∀ c ∈ s.head?, c ≠ '+' ∧ c ≠ '-') : takeSign s = (false, s) := by
  unfold takeSign
  split
  · exact absurd rfl (h '+' rfl).1
  · exact absurd rfl (h '-' rfl).2
  · rfl

/-- A sign ends where no other one follows. -/
theorem takeSign_append (hsign : Sign sign negative)
    (hrest : ∀ c ∈ rest.head?, c ≠ '+' ∧ c ≠ '-') : takeSign (sign ++ rest) = (negative, rest) := by
  cases hsign with
  | none => exact takeSign_of_not_sign hrest
  | plus => rfl
  | minus => rfl

theorem sign_of_takeSign (h : takeSign s = (negative, rest)) :
    ∃ sign, Sign sign negative ∧ s = sign ++ rest := by
  unfold takeSign at h
  split at h
  · obtain ⟨rfl, rfl⟩ := Prod.mk.inj h
    exact ⟨['+'], .plus, rfl⟩
  · obtain ⟨rfl, rfl⟩ := Prod.mk.inj h
    exact ⟨['-'], .minus, rfl⟩
  · obtain ⟨rfl, rfl⟩ := Prod.mk.inj h
    exact ⟨[], .none, rfl⟩

/-- A mantissa begins with a digit or with the point. -/
theorem Mantissa.head (h : Mantissa mantissa n places) (rest : List Char) :
    ∃ c ∈ (mantissa ++ rest).head?, c.isDigit = true ∨ c = '.' := by
  cases h with
  | whole hdigits =>
    obtain ⟨c, hhead, hc⟩ := head_isDigit hdigits.1 hdigits.2 rest
    exact ⟨c, hhead, Or.inl hc⟩
  | @point before behind hdigits =>
    cases before with
    | nil => exact ⟨'.', rfl, Or.inr rfl⟩
    | cons c before => exact ⟨c, rfl, Or.inl (hdigits.2 c List.mem_cons_self)⟩

/-- So it begins with no sign. -/
theorem not_sign_of_head (h : ∃ c ∈ s.head?, c.isDigit = true ∨ c = '.') :
    ∀ c ∈ s.head?, c ≠ '+' ∧ c ≠ '-' := by
  obtain ⟨c, hhead, hc⟩ := h
  intro d hd
  obtain rfl : c = d := Option.some.inj (hhead.symm.trans hd)
  constructor
  · rintro rfl
    exact absurd hc (by decide)
  · rintro rfl
    exact absurd hc (by decide)

/-! ### Integers -/

theorem readNat?_eq_some_iff : readNat? s = some n ↔ IsDigits s ∧ digitsValue s = n := by
  unfold readNat? IsDigits
  cases hempty : s.isEmpty with
  | true => simp [List.isEmpty_iff.mp hempty]
  | false =>
    have hne : s ≠ [] := List.isEmpty_eq_false_iff.mp hempty
    by_cases hall : ∀ c ∈ s, c.isDigit = true
    · simp [hne, List.all_eq_true.mpr hall, eq_true hall]
    · simp [hall]

/-- A signed number is read behind its sign. -/
theorem readInt?_eq (h : takeSign s = (negative, rest)) :
    readInt? s =
      (readNat? rest).map fun n : Nat => if negative then -(n : Int) else (n : Int) := by
  unfold readInt?
  simp only [h]
  cases readNat? rest <;> rfl

/-- Digits begin with no sign. -/
theorem IsDigits.not_sign (h : IsDigits s) : ∀ c ∈ s.head?, c ≠ '+' ∧ c ≠ '-' := by
  have hhead := (Mantissa.whole h).head []
  rw [List.append_nil] at hhead
  exact not_sign_of_head hhead

theorem readInt?_iff {i : Int} : readInt? s = some i ↔ IsInteger s i := by
  constructor
  · intro h
    obtain ⟨⟨negative, digits⟩, htake⟩ : ∃ parts, takeSign s = parts := ⟨_, rfl⟩
    rw [readInt?_eq htake] at h
    obtain ⟨n, hn, rfl⟩ := Option.map_eq_some_iff.mp h
    obtain ⟨hdigits, rfl⟩ := readNat?_eq_some_iff.mp hn
    obtain ⟨sign, hsign, rfl⟩ := sign_of_takeSign htake
    exact .mk hsign hdigits
  · rintro @⟨sign, digits, negative, hsign, hdigits⟩
    have hread : readNat? digits = some (digitsValue digits) :=
      readNat?_eq_some_iff.mpr ⟨hdigits, rfl⟩
    rw [readInt?_eq (takeSign_append hsign hdigits.not_sign), hread]
    rfl

/-! ### Exponents -/

/-- Behind the mantissa neither a digit nor a point follows. -/
theorem Exponent.head (h : Exponent s e) : ∀ c ∈ s.head?, c.isDigit = false ∧ c ≠ '.' := by
  cases h with
  | none =>
    intro c hc
    cases hc
  | some hletter hsign hdigits =>
    intro c hc
    obtain rfl := Option.some.inj hc
    rcases hletter with rfl | rfl <;> decide

theorem readExponent?_iff : readExponent? s = some e ↔ Exponent s e := by
  constructor
  · intro h
    unfold readExponent? at h
    split at h
    · obtain rfl := Option.some.inj h
      exact .none
    · obtain ⟨hletter, hread⟩ := Option.ite_none_right_eq_some.mp h
      obtain ⟨hsign, hdigits⟩ := readInt?_iff.mp hread
      exact .some hletter hsign hdigits
  · intro h
    cases h with
    | none => rfl
    | some hletter hsign hdigits =>
      exact (if_pos hletter).trans (readInt?_iff.mpr (.mk hsign hdigits))

/-! ### Digits around a point -/

theorem isEmpty_and (s t : List Char) : (s.isEmpty && t.isEmpty) = (s ++ t).isEmpty := by
  cases s <;> rfl

theorem readUnsigned?_append (negative : Bool) (hmantissa : Mantissa mantissa n places)
    (hexponent : Exponent exponent e) :
    readUnsigned? negative (mantissa ++ exponent) = some (.decimal negative n (e - places)) := by
  have hread := readExponent?_iff.mpr hexponent
  have hend : ∀ c ∈ exponent.head?, c.isDigit = false := fun c hc => (hexponent.head c hc).1
  cases hmantissa with
  | whole hdigits =>
    have htake := takeWhile_digits hdigits.2 hend
    have hdrop := dropWhile_digits hdigits.2 hend
    have hempty : mantissa.isEmpty = false := List.isEmpty_eq_false_iff.mpr hdigits.1
    unfold readUnsigned?
    simp only [htake, hdrop]
    split
    · exact absurd rfl (hexponent.head '.' rfl).2
    · simp [hempty, hread]
  | @point before behind hdigits =>
    have hbefore : ∀ c ∈ before, c.isDigit = true :=
      fun c hc => hdigits.2 c (List.mem_append_left _ hc)
    have hbehind : ∀ c ∈ behind, c.isDigit = true :=
      fun c hc => hdigits.2 c (List.mem_append_right _ hc)
    have hpoint : ∀ c ∈ ('.' :: (behind ++ exponent)).head?, c.isDigit = false :=
      Text.stops_cons rfl _
    have htake := takeWhile_digits hbefore hpoint
    have hdrop := dropWhile_digits hbefore hpoint
    have htake' := takeWhile_digits hbehind hend
    have hdrop' := dropWhile_digits hbehind hend
    have hempty : (before.isEmpty && behind.isEmpty) = false := by
      rw [isEmpty_and]
      exact List.isEmpty_eq_false_iff.mpr hdigits.1
    unfold readUnsigned?
    rw [List.append_assoc, List.cons_append]
    simp only [htake, hdrop, htake', hdrop', hempty, hread]
    rfl

theorem exists_of_readUnsigned? {m : Numeral} (h : readUnsigned? negative s = some m) :
    ∃ mantissa exponent n places e, s = mantissa ++ exponent ∧ Mantissa mantissa n places ∧
      Exponent exponent e ∧ m = .decimal negative n (e - places) := by
  have hsplit : s.takeWhile Char.isDigit ++ s.dropWhile Char.isDigit = s :=
    List.takeWhile_append_dropWhile
  have hdigits : ∀ s : List Char, ∀ c ∈ s.takeWhile Char.isDigit, c.isDigit = true := by
    intro s c hc
    exact List.all_eq_true.mp List.all_takeWhile c hc
  unfold readUnsigned? at h
  dsimp only at h
  -- the digits in front end at a point, or the mantissa ends with them
  split at h
  · next more hmore =>
    have hsplit' : more.takeWhile Char.isDigit ++ more.dropWhile Char.isDigit = more :=
      List.takeWhile_append_dropWhile
    obtain ⟨hempty, hmap⟩ := Option.ite_none_left_eq_some.mp h
    obtain ⟨e, he, rfl⟩ := Option.map_eq_some_iff.mp hmap
    rw [isEmpty_and] at hempty
    refine ⟨s.takeWhile Char.isDigit ++ '.' :: more.takeWhile Char.isDigit,
      more.dropWhile Char.isDigit, _, _, e, ?_, .point ⟨?_, ?_⟩, readExponent?_iff.mp he, rfl⟩
    · rw [List.append_assoc, List.cons_append, hsplit', ← hmore, hsplit]
    · exact List.isEmpty_eq_false_iff.mp (Bool.eq_false_iff.mpr hempty)
    · intro c hc
      exact (List.mem_append.mp hc).elim (hdigits s c) (hdigits more c)
  · obtain ⟨hempty, hmap⟩ := Option.ite_none_left_eq_some.mp h
    obtain ⟨e, he, rfl⟩ := Option.map_eq_some_iff.mp hmap
    rw [isEmpty_and, List.append_nil] at hempty
    refine ⟨s.takeWhile Char.isDigit, s.dropWhile Char.isDigit, _, 0, e, hsplit.symm,
      .whole ⟨?_, ?_⟩, readExponent?_iff.mp he, ?_⟩
    · exact List.isEmpty_eq_false_iff.mp (Bool.eq_false_iff.mpr hempty)
    · exact hdigits s
    · rw [List.append_nil]
      rfl

/-! ### Words -/

/-- The reader looks for a word behind the sign. -/
theorem read?_of_takeSign (h : takeSign s = (negative, rest)) :
    read? s =
      if rest.map Text.lowerAscii = "nan".toList then some .nan
      else if rest.map Text.lowerAscii = "inf".toList ∨ rest.map Text.lowerAscii = "infinity".toList
        then some (.infinite negative)
      else readUnsigned? negative rest := by
  have hlower : "nan".toList.map Text.lowerAscii = "nan".toList ∧
      "inf".toList.map Text.lowerAscii = "inf".toList ∧
      "infinity".toList.map Text.lowerAscii = "infinity".toList := by decide
  unfold read? Text.equalIgnoringCase
  simp only [h, hlower, Bool.or_eq_true, beq_iff_eq]

theorem lowerAscii_eq_of_not_letter (h : c.isDigit = true ∨ c = '.') : Text.lowerAscii c = c := by
  rcases h with hdigit | rfl
  · exact lowerAscii_of_isDigit hdigit
  · decide

/-- A word begins with the letter of one. -/
theorem head_of_mem_words {word : List Char} (h : word.map Text.lowerAscii ∈ words) :
    ∃ c ∈ word.head?, Text.lowerAscii c = 'n' ∨ Text.lowerAscii c = 'i' := by
  have hletters : ∀ w ∈ words, w.head? = some 'n' ∨ w.head? = some 'i' := by decide
  have hhead := hletters _ h
  cases word with
  | nil => simp at hhead
  | cons c rest => exact ⟨c, rfl, by simpa using hhead⟩

/-- A text that begins with a digit or a point is no word. -/
theorem not_mem_words (h : ∃ c ∈ s.head?, c.isDigit = true ∨ c = '.') :
    s.map Text.lowerAscii ∉ words := by
  intro hword
  obtain ⟨c, hhead, hc⟩ := h
  obtain ⟨d, hhead', hletter⟩ := head_of_mem_words hword
  obtain rfl : c = d := Option.some.inj (hhead.symm.trans hhead')
  rw [lowerAscii_eq_of_not_letter hc] at hletter
  rcases hletter with rfl | rfl
  · exact absurd hc (by decide)
  · exact absurd hc (by decide)

/-- A word does not begin with a sign. -/
theorem not_sign_of_mem_words {word : List Char} (h : word.map Text.lowerAscii ∈ words) :
    ∀ c ∈ word.head?, c ≠ '+' ∧ c ≠ '-' := by
  obtain ⟨c, hhead, hletter⟩ := head_of_mem_words h
  intro d hd
  obtain rfl : c = d := Option.some.inj (hhead.symm.trans hd)
  constructor
  · rintro rfl
    exact absurd hletter (by decide)
  · rintro rfl
    exact absurd hletter (by decide)

/-! ### What the reader takes -/

/-- The reader takes decimal numerals for what they are. -/
theorem read?_eq_decimal_iff : read? s = some (.decimal negative n scale) ↔
    IsDecimal s negative n scale := by
  constructor
  · intro h
    obtain ⟨⟨minus, rest⟩, htake⟩ : ∃ parts, takeSign s = parts := ⟨_, rfl⟩
    rw [read?_of_takeSign htake] at h
    -- neither of the words was found behind the sign
    split at h
    · cases h
    · split at h
      · cases h
      · obtain ⟨mantissa, exponent, n', places, e, rfl, hmantissa, hexponent, heq⟩ :=
          exists_of_readUnsigned? h
        obtain ⟨rfl, rfl, rfl⟩ := Numeral.decimal.inj heq
        obtain ⟨sign, hsign, rfl⟩ := sign_of_takeSign htake
        exact .mk hsign hmantissa hexponent
  · intro h
    cases h with
    | @mk sign mantissa exponent _ _ places e hsign hmantissa hexponent =>
      have hhead := hmantissa.head exponent
      have htake := takeSign_append hsign (not_sign_of_head hhead)
      have hword := not_mem_words hhead
      simp only [words, List.mem_cons, List.not_mem_nil, or_false, not_or] at hword
      rw [read?_of_takeSign htake, if_neg hword.1, if_neg (not_or.mpr hword.2),
        readUnsigned?_append negative hmantissa hexponent]

/-- What else it takes are the words. -/
theorem isWord_iff : IsWord s ↔
    read? s = some .nan ∨ ∃ negative, read? s = some (.infinite negative) := by
  constructor
  · rintro @⟨sign, word, negative, hsign, hword⟩
    rw [read?_of_takeSign (takeSign_append hsign (not_sign_of_mem_words hword))]
    simp only [words, List.mem_cons, List.not_mem_nil, or_false] at hword
    rcases hword with hnan | hinfinite
    · exact Or.inl (if_pos hnan)
    · refine Or.inr ⟨negative, ?_⟩
      rw [if_neg ?_, if_pos hinfinite]
      rcases hinfinite with heq | heq <;> simp [heq]
  · intro h
    obtain ⟨⟨minus, rest⟩, htake⟩ : ∃ parts, takeSign s = parts := ⟨_, rfl⟩
    obtain ⟨sign, hsign, rfl⟩ := sign_of_takeSign htake
    refine .mk hsign ?_
    rw [read?_of_takeSign htake] at h
    by_contra hword
    simp only [words, List.mem_cons, List.not_mem_nil, or_false, not_or] at hword
    rw [if_neg hword.1, if_neg (not_or.mpr hword.2)] at h
    rcases h with h | ⟨_, h⟩
    · obtain ⟨_, _, _, _, _, -, -, -, heq⟩ := exists_of_readUnsigned? h
      cases heq
    · obtain ⟨_, _, _, _, _, -, -, -, heq⟩ := exists_of_readUnsigned? h
      cases heq

theorem isSome_read?_iff :
    (read? s).isSome = true ↔ (∃ negative n scale, IsDecimal s negative n scale) ∨ IsWord s := by
  rw [isWord_iff]
  simp only [← read?_eq_decimal_iff]
  cases read? s with
  | none => simp
  | some m => cases m <;> simp

/-- Integers are the decimal numerals without a point and without an exponent. -/
theorem IsInteger.isDecimal {i : Int} (h : IsInteger s i) :
    ∃ negative n, IsDecimal s negative n 0 ∧ i = if negative then -(n : Int) else n := by
  obtain @⟨sign, digits, negative, hsign, hdigits⟩ := h
  have hdecimal := IsDecimal.mk hsign (.whole hdigits) .none
  rw [List.append_nil] at hdecimal
  exact ⟨negative, digitsValue digits, hdecimal, rfl⟩

/-- No numeral is a word. -/
theorem IsDecimal.not_isWord (h : IsDecimal s negative n scale) : ¬ IsWord s := by
  rw [isWord_iff, read?_eq_decimal_iff.mpr h]
  simp

/-! ### Blanks -/

theorem not_blank_of_sign (h : Sign s negative) : ∀ c ∈ s, Text.isBlank c = false := by
  cases h with
  | none => exact List.forall_mem_nil _
  | plus => exact List.forall_mem_singleton.mpr (by decide)
  | minus => exact List.forall_mem_singleton.mpr (by decide)

theorem IsDigits.not_blank (h : IsDigits s) : ∀ c ∈ s, Text.isBlank c = false := fun c hc =>
  isBlank_of_isDigit (h.2 c hc)

/-- A decimal numeral is made of digits, signs, points and exponent letters. -/
theorem IsDecimal.not_blank (h : IsDecimal s negative n scale) :
    ∀ c ∈ s, Text.isBlank c = false := by
  have hpoint : Text.isBlank '.' = false := by decide
  cases h with
  | mk hsign hmantissa hexponent =>
    refine List.forall_mem_append.mpr ⟨not_blank_of_sign hsign, List.forall_mem_append.mpr ⟨?_, ?_⟩⟩
    · cases hmantissa with
      | whole hdigits => exact hdigits.not_blank
      | point hdigits =>
        have hblank := List.forall_mem_append.mp hdigits.not_blank
        exact List.forall_mem_append.mpr ⟨hblank.1, List.forall_mem_cons.mpr ⟨hpoint, hblank.2⟩⟩
    · cases hexponent with
      | none => exact List.forall_mem_nil _
      | some hletter hsign hdigits =>
        refine List.forall_mem_cons.mpr ⟨?_, List.forall_mem_append.mpr
          ⟨not_blank_of_sign hsign, hdigits.not_blank⟩⟩
        rcases hletter with rfl | rfl <;> decide

/-- Blanks are not letters. -/
theorem lowerAscii_of_isBlank (h : Text.isBlank c = true) : Text.lowerAscii c = c := by
  unfold Text.lowerAscii
  rw [if_neg]
  rintro ⟨hlow, hhigh⟩
  rw [Char.le_def, UInt32.le_iff_toNat_le] at hlow hhigh
  have hletter : 65 ≤ c.toNat ∧ c.toNat ≤ 90 := ⟨hlow, hhigh⟩
  simp only [Text.isBlank] at h
  grind

theorem IsWord.not_blank (h : IsWord s) : ∀ c ∈ s, Text.isBlank c = false := by
  cases h with
  | mk hsign hword =>
    refine List.forall_mem_append.mpr ⟨not_blank_of_sign hsign, ?_⟩
    intro c hc
    by_contra hblank
    have hblank' : Text.isBlank c = true := by simpa using hblank
    have hletters : words.flatten.any Text.isBlank = false := by decide
    have hmem := List.mem_flatten.mpr ⟨_, hword, List.mem_map_of_mem (f := Text.lowerAscii) hc⟩
    have hletter := List.any_eq_false.mp hletters _ hmem
    rw [lowerAscii_of_isBlank hblank'] at hletter
    exact hletter hblank'

end QueryDispatch.Numeral

namespace QueryDispatch

open Numeral

/-! ### Numbers are written as numerals -/

/-- An integer is a numeral with its sign and without an exponent. -/
theorem isDecimal_intText (i : Int) : IsDecimal (intText i) (decide (i < 0)) i.natAbs 0 := by
  have hdigits : IsDigits (natText i.natAbs) :=
    ⟨natText_ne_nil _, fun c hc => isDigit_of_mem_natText hc⟩
  have hunsigned : ∀ {sign negative}, Sign sign negative →
      IsDecimal (sign ++ natText i.natAbs) negative i.natAbs 0 := by
    intro sign negative hsign
    have hdecimal := IsDecimal.mk hsign (.whole hdigits) .none
    rwa [List.append_nil, digitsValue_natText] at hdecimal
  unfold intText
  by_cases hneg : i < 0
  · rw [if_pos hneg, decide_eq_true hneg]
    exact hunsigned .minus
  · rw [if_neg hneg, decide_eq_false hneg]
    exact hunsigned .none

namespace Layout

variable {layout : Layout} {digits : List Char} {p : Int} {negative : Bool}

/-- Digits that are all left out are written as a zero is. -/
theorem positional_nil (hp : 0 < p) : layout.positional [] p = layout.positional ['0'] p := by
  obtain ⟨k, hk⟩ : ∃ k, p.toNat = k + 1 := ⟨p.toNat - 1, by omega⟩
  have hlarge : ¬ p ≤ 0 := by omega
  unfold positional
  simp [hlarge, hk, List.replicate_succ]

theorem scientific_nil (p : Int) : layout.scientific [] p = layout.scientific ['0'] p := rfl

theorem exists_readsAs_positional (hdigits : ∀ c ∈ digits, c.isDigit = true) :
    ∃ value, ReadsAs negative (layout.positional digits p) value := by
  by_cases hne : digits = []
  · subst hne
    by_cases hp : p ≤ 0
    · unfold positional
      rw [if_pos hp]
      exact ⟨_, readsAs_small hdigits hp⟩
    · rw [positional_nil (by omega)]
      exact ⟨_, readsAs_positional (List.cons_ne_nil _ _) isDigit_zero⟩
  · exact ⟨_, readsAs_positional hne hdigits⟩

theorem exists_readsAs_scientific (hdigits : ∀ c ∈ digits, c.isDigit = true) :
    ∃ value, ReadsAs negative (layout.scientific digits p) value := by
  by_cases hne : digits = []
  · rw [hne, scientific_nil]
    exact ⟨_, readsAs_scientific (List.cons_ne_nil _ _) isDigit_zero⟩
  · exact ⟨_, readsAs_scientific hne hdigits⟩

end Layout

namespace Double

variable {d : Double}

/-- The number that is written for a double rounds to it. -/
theorem rounds_writtenValue (hd : d.Canonical) : d.Rounds d.writtenValue := by
  unfold writtenValue
  by_cases hzero : d.mantissa = 0
  · have hquarter := d.quarter_pos
    have hends : d.lowQuarters = 0 ∧ d.highQuarters = 2 := by
      unfold lowQuarters highQuarters
      omega
    rw [if_pos hzero, Rounds, if_pos (by omega), hends.1, hends.2]
    constructor
    · simp
    · positivity
  · rw [if_neg hzero]
    exact rounds_shortest hd hzero

/-- A double is a numeral with its sign, in any form and layout; in the form that each value has
    once it is the double that the number rounds to. -/
theorem isDecimal_render (layout : Layout) (d : Double) :
    ∃ n scale, IsDecimal (layout.render d).toList d.negative n scale ∧
      (d.Canonical → d.Rounds (n * 10 ^ scale)) := by
  by_cases hd : d.Canonical
  · obtain ⟨n, scale, hread, hvalue⟩ := read?_render layout hd
    refine ⟨n, scale, read?_eq_decimal_iff.mp hread, ?_⟩
    intro _
    rw [hvalue]
    exact rounds_writtenValue hd
  · obtain ⟨⟨digits, p⟩, hparts⟩ : ∃ parts, d.shortest.significant = parts := ⟨_, rfl⟩
    have hdigits : ∀ c ∈ digits, c.isDigit = true := by
      intro c hc
      have hmem : c ∈ d.shortest.significant.1 := by
        rw [hparts]
        exact hc
      exact Decimal.isDigit_of_mem_significant hmem
    obtain ⟨value, hbody⟩ : ∃ value, ReadsAs d.negative
        (if d.isZero then (if layout.showsPoint then ['0', '.', '0'] else ['0'])
          else if layout.positionalAfter < p ∧ p ≤ layout.positionalUpTo then
            layout.positional digits p
          else layout.scientific digits p) value := by
      split
      · split
        · have hread : ReadsAs d.negative (['0'] ++ '.' :: ['0']) _ :=
            readsAs_point (List.cons_ne_nil _ _) isDigit_zero isDigit_zero
          exact ⟨_, hread⟩
        · exact ⟨_, readsAs_whole (List.cons_ne_nil _ _) isDigit_zero⟩
      · split
        · exact Layout.exists_readsAs_positional hdigits
        · exact Layout.exists_readsAs_scientific hdigits
    obtain ⟨n, scale, hread, -⟩ := hbody.read?
    refine ⟨n, scale, ?_, fun hcanonical => absurd hcanonical hd⟩
    rw [← read?_eq_decimal_iff]
    unfold Layout.render
    rw [String.toList_ofList, hparts]
    exact hread

end Double

end QueryDispatch
