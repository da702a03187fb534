import QueryDispatch.Proofs.Calendar.WrittenDates
import QueryDispatch.Proofs.Number.NumeralGrammar
import QueryDispatch.Proofs.Text.Slices
import QueryDispatch.Warehouse.NativeType

/-! # Dates and times by position

  A date is three numbers at fixed positions, and so is a time of day. What
  stands between two numbers is passed over, as long as it is one byte, and a
  number may begin with a plus sign. A fraction of a second is looked for at
  one position too, and one that cannot be cut out there counts as none.
-/

namespace QueryDispatch

open Text (byteLength dropBytes? dropBytes?_zero takeBytes? slice?)

/-! ### Unsigned numbers -/

theorem utf8Size_of_isDigit {c : Char} (h : c.isDigit = true) : c.utf8Size = 1 := by
  have hbounds := Char.isDigit_iff_toNat.mp h
  simp only [Char.reduceToNat] at hbounds
  rw [Char.utf8Size_eq_one_iff, UInt32.le_iff_toNat_le]
  show c.toNat ≤ 127
  omega

namespace Numeral

/-- Digits, or digits behind a plus sign, and the number that they make. -/
inductive IsUnsigned : List Char → Nat → Prop
  | digits {s : List Char} (h : IsDigits s) : IsUnsigned s (digitsValue s)
  | plus {s : List Char} (h : IsDigits s) : IsUnsigned ('+' :: s) (digitsValue s)

variable {s : List Char} {n : Nat}

theorem IsUnsigned.isDigit_or_plus (h : IsUnsigned s n) :
    ∀ c ∈ s, c.isDigit = true ∨ c = '+' := by
  intro c hc
  cases h with
  | digits hdigits => exact Or.inl (hdigits.2 c hc)
  | plus hdigits =>
    rcases List.mem_cons.mp hc with hplus | hmem
    · exact Or.inr hplus
    · exact Or.inl (hdigits.2 c hmem)

theorem IsUnsigned.utf8Size (h : IsUnsigned s n) : ∀ c ∈ s, c.utf8Size = 1 := by
  intro c hc
  rcases h.isDigit_or_plus c hc with hdigit | hplus
  · exact utf8Size_of_isDigit hdigit
  · rw [hplus]
    rfl

theorem IsUnsigned.byteLength_eq (h : IsUnsigned s n) : byteLength s = s.length :=
  Text.byteLength_eq_length h.utf8Size

theorem readUnsigned?_eq_some_iff : QueryDispatch.readUnsigned? s = some n ↔ IsUnsigned s n := by
  constructor
  · intro h
    unfold QueryDispatch.readUnsigned? at h
    split at h
    · obtain ⟨hdigits, hn⟩ := readNat?_eq_some_iff.mp h
      rw [← hn]
      exact .plus hdigits
    · obtain ⟨hdigits, hn⟩ := readNat?_eq_some_iff.mp h
      rw [← hn]
      exact .digits hdigits
  · intro h
    cases h with
    | plus hdigits => exact readNat?_eq_some_iff.mpr ⟨hdigits, rfl⟩
    | digits hdigits =>
      -- digits do not begin with a plus sign
      unfold QueryDispatch.readUnsigned?
      split
      · next rest => exact absurd rfl (hdigits.not_sign '+' rfl).1
      · exact readNat?_eq_some_iff.mpr ⟨hdigits, rfl⟩

end Numeral

namespace Cell

open Numeral

variable {s t rest f tail digits : List Char} {start width n a b c : Nat}

/-! ### Numbers at positions -/

/-- A number of so many characters. -/
def IsField (width : Nat) (f : List Char) (n : Nat) : Prop := f.length = width ∧ IsUnsigned f n

theorem IsField.byteLength_eq (h : IsField width f n) : byteLength f = width :=
  h.2.byteLength_eq.trans h.1

/-- A number is read where one of so many characters stands. -/
theorem field_eq_ok_iff : field s start (start + width) = .ok n ↔
    ∃ f behind, dropBytes? start s = some (f ++ behind) ∧ IsField width f n := by
  have hread : field s start (start + width) = .ok n ↔
      (slice? start (start + width) s).bind QueryDispatch.readUnsigned? = some n := by
    unfold field
    split
    · next m hm => rw [hm, Except.ok.injEq, Option.some.injEq]
    · next hnone => rw [hnone]; simp
  have hwidth : start + width - start = width := Nat.add_sub_cancel_left start width
  rw [hread, slice?, hwidth]
  constructor
  · intro h
    obtain ⟨f, hslice, hf⟩ := Option.bind_eq_some_iff.mp h
    obtain ⟨rest, hdrop, htake⟩ := Option.bind_eq_some_iff.mp hslice
    obtain ⟨behind, hrest, hbytes⟩ := Text.takeBytes?_eq_some_iff.mp htake
    have hunsigned := readUnsigned?_eq_some_iff.mp hf
    exact ⟨f, behind, hrest ▸ hdrop, hunsigned.byteLength_eq.symm.trans hbytes, hunsigned⟩
  · intro h
    obtain ⟨f, behind, hdrop, hf⟩ := h
    have htake : takeBytes? width (f ++ behind) = some f :=
      Text.takeBytes?_eq_some_iff.mpr ⟨behind, rfl, hf.byteLength_eq⟩
    rw [hdrop, Option.bind_some, htake, Option.bind_some, readUnsigned?_eq_some_iff]
    exact hf.2

/-- Behind a number comes what stands behind its characters. -/
theorem IsField.drop (hf : IsField width f n) (h : dropBytes? start s = some (f ++ rest)) :
    dropBytes? (start + width) s = some rest := by
  rw [Text.dropBytes?_add h, ← hf.byteLength_eq]
  exact Text.dropBytes?_append f rest

/-- A number one byte behind another place. -/
theorem field_behind_mark (width : Nat) (h : dropBytes? start s = some rest) :
    field s (start + 1) (start + 1 + width) = .ok n ↔
      ∃ mark f behind, rest = mark :: (f ++ behind) ∧ mark.utf8Size = 1 ∧ IsField width f n := by
  rw [field_eq_ok_iff, Text.dropBytes?_add h]
  constructor
  · intro hfield
    obtain ⟨f, behind, hdrop, hf⟩ := hfield
    obtain ⟨mark, hrest, hmark⟩ := Text.dropBytes?_one_eq_some_iff.mp hdrop
    exact ⟨mark, f, behind, hrest, hmark, hf⟩
  · intro hfield
    obtain ⟨mark, f, behind, hrest, hmark, hf⟩ := hfield
    exact ⟨f, behind, Text.dropBytes?_one_eq_some_iff.mpr ⟨mark, hrest, hmark⟩, hf⟩

theorem drop_mark {mark : Char} (hmark : mark.utf8Size = 1)
    (h : dropBytes? start s = some (mark :: rest)) : dropBytes? (start + 1) s = some rest := by
  rw [Text.dropBytes?_add h]
  exact Text.dropBytes?_one_eq_some_iff.mpr ⟨mark, rfl, hmark⟩

/-! ### Three numbers -/

/-- Three numbers with one byte between each two: the first one of so many characters and the others
    of two. -/
inductive IsTriple (width : Nat) : List Char → Nat → Nat → Nat → List Char → Prop
  | mk {first second third rest : List Char} {mark mark' : Char} {a b c : Nat}
      (hfirst : IsField width first a) (hmark : mark.utf8Size = 1) (hsecond : IsField 2 second b)
      (hmark' : mark'.utf8Size = 1) (hthird : IsField 2 third c) :
    IsTriple width (first ++ mark :: (second ++ mark' :: (third ++ rest))) a b c rest

/-- Behind three numbers comes what stands behind the last one. -/
theorem IsTriple.drop (ht : IsTriple width t a b c rest) (h : dropBytes? start s = some t) :
    dropBytes? (start + width + 6) s = some rest := by
  cases ht with
  | mk hfirst hmark hsecond hmark' hthird =>
    exact hthird.drop (drop_mark hmark' (hsecond.drop (drop_mark hmark (hfirst.drop h))))

/-- The numbers are read at their positions. -/
theorem fields_eq_ok_iff (width : Nat) (h : dropBytes? start s = some t) :
    (field s start (start + width) = .ok a ∧
      field s (start + width + 1) (start + width + 1 + 2) = .ok b ∧
      field s (start + width + 4) (start + width + 4 + 2) = .ok c) ↔
      ∃ rest, IsTriple width t a b c rest := by
  constructor
  · intro hfields
    obtain ⟨ha, hb, hc⟩ := hfields
    -- each number is found behind the one before it and a mark
    obtain ⟨first, behind, hdrop, hfirst⟩ := field_eq_ok_iff.mp ha
    obtain ⟨mark, second, behind', hbehind, hmark, hsecond⟩ :=
      (field_behind_mark 2 (hfirst.drop hdrop)).mp hb
    have hdrop' := hsecond.drop (drop_mark hmark (hbehind ▸ hfirst.drop hdrop))
    obtain ⟨mark', third, rest, hbehind', hmark', hthird⟩ := (field_behind_mark 2 hdrop').mp hc
    have ht : t = first ++ mark :: (second ++ mark' :: (third ++ rest)) := by
      rw [← hbehind', ← hbehind]
      exact Option.some.inj (h.symm.trans hdrop)
    exact ⟨rest, ht ▸ .mk hfirst hmark hsecond hmark' hthird⟩
  · intro htriple
    obtain ⟨rest, htriple⟩ := htriple
    cases htriple with
    | mk hfirst hmark hsecond hmark' hthird =>
      have hbehind := hfirst.drop h
      have hbehind' := hsecond.drop (drop_mark hmark hbehind)
      exact ⟨field_eq_ok_iff.mpr ⟨_, _, h, hfirst⟩,
        (field_behind_mark 2 hbehind).mpr ⟨_, _, _, rfl, hmark, hsecond⟩,
        (field_behind_mark 2 hbehind').mpr ⟨_, _, _, rfl, hmark', hthird⟩⟩

/-! ### Dates -/

/-- Three numbers at the start of a text are the year, month and day. -/
theorem readDate_of_triple (h : IsTriple 4 s a b c rest) : readDate s =
    match Date.of? a b c with
    | some date => .ok date
    | none => .error (.date (String.ofList s)) := by
  obtain ⟨ha, hb, hc⟩ := (fields_eq_ok_iff 4 (dropBytes?_zero s)).mpr ⟨rest, h⟩
  unfold readDate
  rw [ha, hb, hc]
  rfl

/-- A text that is read as a date, whatever stands behind its three numbers. -/
def ReadsAsDate (s : List Char) (d : Date) (rest : List Char) : Prop :=
  ∃ year, IsTriple 4 s year d.month d.day rest ∧ d.year = year

theorem readDate_eq_ok_iff {d : Date} : readDate s = .ok d ↔ ∃ rest, ReadsAsDate s d rest := by
  constructor
  · intro h
    obtain ⟨a, ha, hbind⟩ := bind_eq_ok.mp h
    obtain ⟨b, hb, hbind⟩ := bind_eq_ok.mp hbind
    obtain ⟨c, hc, -⟩ := bind_eq_ok.mp hbind
    obtain ⟨rest, htriple⟩ := (fields_eq_ok_iff 4 (dropBytes?_zero s)).mp ⟨ha, hb, hc⟩
    rw [readDate_of_triple htriple] at h
    split at h
    · next date hdate =>
      obtain ⟨hyear, hmonth, hday⟩ := Date.of?_eq_some_iff.mp hdate
      rw [← Except.ok.inj h]
      exact ⟨rest, a, hmonth ▸ hday ▸ htriple, hyear⟩
    · cases h
  · intro h
    obtain ⟨rest, year, htriple, hyear⟩ := h
    have hdate : Date.of? year d.month d.day = some d :=
      Date.of?_eq_some_iff.mpr ⟨hyear, rfl, rfl⟩
    rw [readDate_of_triple htriple, hdate]

/-! ### Fractions -/

/-- Digits are filled up with zeros to six. -/
def filled (digits : List Char) : List Char := digits ++ List.replicate (6 - digits.length) '0'

/-- What counts as the digits of a fraction: behind one byte, all that is left or six bytes of it.
    Where no cut is at these places nothing counts. -/
inductive FractionText : List Char → List Char → Prop
  | none : FractionText [] []
  | wide {c : Char} {rest : List Char} (hc : c.utf8Size ≠ 1) : FractionText (c :: rest) []
  | all {c : Char} {digits : List Char} (hc : c.utf8Size = 1) (h : byteLength digits ≤ 6) :
    FractionText (c :: digits) digits
  | six {c : Char} {digits rest : List Char} (hc : c.utf8Size = 1) (h : byteLength digits = 6) :
    FractionText (c :: (digits ++ rest)) digits
  | cut {c : Char} {rest : List Char} (hc : c.utf8Size = 1) (hlong : 6 < byteLength rest)
      (hcut : ∀ before behind, rest = before ++ behind → byteLength before ≠ 6) :
    FractionText (c :: rest) []

/-- Something counts in every text. -/
theorem exists_fractionText (tail : List Char) : ∃ digits, FractionText tail digits := by
  match tail with
  | [] => exact ⟨[], .none⟩
  | c :: rest =>
    by_cases hc : c.utf8Size = 1
    · by_cases hshort : byteLength rest ≤ 6
      · exact ⟨rest, .all hc hshort⟩
      · by_cases hcut : ∃ before behind, rest = before ++ behind ∧ byteLength before = 6
        · obtain ⟨before, behind, hrest, hsix⟩ := hcut
          exact ⟨before, hrest ▸ .six hc hsix⟩
        · refine ⟨[], .cut hc (Nat.lt_of_not_le hshort) ?_⟩
          intro before behind hrest hsix
          exact hcut ⟨before, behind, hrest, hsix⟩
    · exact ⟨[], .wide hc⟩

theorem byteLength_of_drop (h : dropBytes? start s = some tail) :
    byteLength s = start + byteLength tail := by
  obtain ⟨before, hs, hbytes⟩ := Text.dropBytes?_eq_some_iff.mp h
  rw [hs, Text.byteLength_append, hbytes]

/-- What is cut out behind the byte at position 19. -/
theorem slice?_fraction (h : dropBytes? 19 s = some tail) :
    slice? 20 (min (byteLength s) 26) s =
      (dropBytes? 1 tail).bind (takeBytes? (min (byteLength tail - 1) 6)) := by
  have hlength := byteLength_of_drop h
  have hwidth : min (byteLength s) 26 - 20 = min (byteLength tail - 1) 6 := by omega
  rw [slice?, hwidth, Text.dropBytes?_add h 1]

/-- That is what counts as the digits of the fraction. -/
theorem getD_slice?_fraction (hdigits : FractionText tail digits) :
    ((dropBytes? 1 tail).bind (takeBytes? (min (byteLength tail - 1) 6))).getD [] = digits := by
  -- behind a character of one byte there is a cut
  have hbehind : ∀ {c : Char} (rest : List Char), c.utf8Size = 1 →
      (dropBytes? 1 (c :: rest)).bind (takeBytes? (min (byteLength (c :: rest) - 1) 6)) =
        takeBytes? (min (byteLength rest) 6) rest := by
    intro c rest hc
    have hlength : byteLength (c :: rest) - 1 = byteLength rest := by
      show c.utf8Size + byteLength rest - 1 = byteLength rest
      omega
    rw [Text.dropBytes?_one_eq_some_iff.mpr ⟨c, rfl, hc⟩, Option.bind_some, hlength]
  cases hdigits with
  | none => rfl
  | @wide c rest hc =>
    have hnone : dropBytes? 1 (c :: rest) = none := by
      apply Option.eq_none_iff_forall_ne_some.mpr
      intro behind hdrop
      obtain ⟨d, heq, hd⟩ := Text.dropBytes?_one_eq_some_iff.mp hdrop
      exact hc ((List.cons.inj heq).1 ▸ hd)
    rw [hnone]
    rfl
  | all hc h =>
    have htake : takeBytes? (byteLength digits) digits = some digits :=
      Text.takeBytes?_eq_some_iff.mpr ⟨[], (List.append_nil _).symm, rfl⟩
    rw [hbehind _ hc, Nat.min_eq_left h, htake]
    rfl
  | @six c _ rest hc h =>
    have hlength : byteLength (digits ++ rest) = 6 + byteLength rest := by
      rw [Text.byteLength_append, h]
    have htake : takeBytes? 6 (digits ++ rest) = some digits :=
      Text.takeBytes?_eq_some_iff.mpr ⟨rest, rfl, h⟩
    rw [hbehind _ hc, hlength, Nat.min_eq_right (Nat.le_add_right 6 _), htake]
    rfl
  | @cut c rest hc hlong hcut =>
    have hnone : takeBytes? 6 rest = none := by
      apply Option.eq_none_iff_forall_ne_some.mpr
      intro before htake
      obtain ⟨behind, hrest, hsix⟩ := Text.takeBytes?_eq_some_iff.mp htake
      exact hcut before behind hrest hsix
    rw [hbehind _ hc, Nat.min_eq_right (Nat.le_of_lt hlong), hnone]
    rfl

/-- Nothing counts where nothing stands behind the one byte. -/
theorem FractionText.eq_nil (hdigits : FractionText tail digits) (hshort : byteLength tail ≤ 1) :
    digits = [] := by
  have hempty : byteLength digits = 0 → digits = [] := by
    intro hzero
    match digits with
    | [] => rfl
    | d :: more =>
      have hpos := d.utf8Size_pos
      simp only [byteLength] at hzero
      omega
  cases hdigits with
  | none => rfl
  | wide hc => rfl
  | all hc h =>
    simp only [byteLength] at hshort
    exact hempty (by omega)
  | six hc h =>
    simp only [byteLength, Text.byteLength_append] at hshort
    omega
  | cut hc hlong hcut => rfl

/-- The fraction stands behind the byte at position 19. -/
theorem readFraction_eq (h : dropBytes? 19 s = some tail) (hdigits : FractionText tail digits) :
    readFraction s = match QueryDispatch.readUnsigned? (filled digits) with
    | some n => .ok n
    | none => .error (.fraction (String.ofList s)) := by
  have hcut := getD_slice?_fraction hdigits
  rw [← slice?_fraction h] at hcut
  unfold readFraction
  rw [hcut]
  split
  · next hshort =>
    -- nothing but zeros is the number zero
    have hlength := byteLength_of_drop h
    rw [hdigits.eq_nil (by omega)]
    rfl
  · rfl

theorem readFraction_eq_ok_iff (h : dropBytes? 19 s = some tail) : readFraction s = .ok n ↔
    ∃ digits, FractionText tail digits ∧ IsUnsigned (filled digits) n := by
  constructor
  · intro hread
    obtain ⟨digits, hdigits⟩ := exists_fractionText tail
    rw [readFraction_eq h hdigits] at hread
    refine ⟨digits, hdigits, ?_⟩
    split at hread
    · next m hm =>
      rw [← Except.ok.inj hread]
      exact readUnsigned?_eq_some_iff.mp hm
    · cases hread
  · intro hfraction
    obtain ⟨digits, hdigits, hn⟩ := hfraction
    rw [readFraction_eq h hdigits, readUnsigned?_eq_some_iff.mpr hn]

/-! ### Dates with times -/

/-- Three numbers at the start of a text and three more behind them and one byte are the date and
    the time of day. -/
theorem readTimestamp_of_triples {mark : Char} {hour minute second : Nat}
    (hdate : IsTriple 4 s a b c (mark :: t)) (hmark : mark.utf8Size = 1)
    (htime : IsTriple 2 t hour minute second tail) (hfraction : readFraction s = .ok n) :
    readTimestamp s = match Date.of? a b c with
      | none => .error (.date (String.ofList s))
      | some date =>
        match if second < 60 then TimeOfDay.of? hour minute second (n * 1000) else none with
        | some time => .ok ⟨date, time⟩
        | none => .error (.timestamp (String.ofList s)) := by
  have hdrop : dropBytes? 11 s = some t := drop_mark hmark (hdate.drop (dropBytes?_zero s))
  obtain ⟨hhour, hminute, hsecond⟩ := (fields_eq_ok_iff 2 hdrop).mpr ⟨tail, htime⟩
  unfold readTimestamp
  rw [readDate_of_triple hdate, hhour, hminute, hsecond, hfraction]
  cases Date.of? a b c <;> rfl

/-- A text that is read as a date with a time. -/
def ReadsAsTimestamp (s : List Char) (d : DateTime) (tail : List Char) : Prop :=
  ∃ mark t digits microsecond, ReadsAsDate s d.date (mark :: t) ∧ mark.utf8Size = 1 ∧
    IsTriple 2 t d.time.hour d.time.minute d.time.second tail ∧ d.time.second < 60 ∧
    FractionText tail digits ∧ IsUnsigned (filled digits) microsecond ∧
    d.time.nanosecond = microsecond * 1000

theorem readTimestamp_eq_ok_iff {d : DateTime} :
    readTimestamp s = .ok d ↔ ∃ tail, ReadsAsTimestamp s d tail := by
  constructor
  · intro h
    obtain ⟨date, hdate, hbind⟩ := bind_eq_ok.mp h
    obtain ⟨hour, hhour, hbind⟩ := bind_eq_ok.mp hbind
    obtain ⟨minute, hminute, hbind⟩ := bind_eq_ok.mp hbind
    obtain ⟨second, hsecond, hbind⟩ := bind_eq_ok.mp hbind
    obtain ⟨microsecond, hfraction, -⟩ := bind_eq_ok.mp hbind
    obtain ⟨rest, year, htriple, hyear⟩ := readDate_eq_ok_iff.mp hdate
    -- the hour tells that one byte stands behind the date
    have hrest : dropBytes? 10 s = some rest := htriple.drop (dropBytes?_zero s)
    obtain ⟨mark, f, behind, hbehind, hmark, -⟩ := (field_behind_mark 2 hrest).mp hhour
    rw [hbehind] at htriple hrest
    have hdrop : dropBytes? 11 s = some (f ++ behind) := drop_mark hmark hrest
    obtain ⟨tail, htime⟩ := (fields_eq_ok_iff 2 hdrop).mp ⟨hhour, hminute, hsecond⟩
    obtain ⟨digits, hdigits, hn⟩ := (readFraction_eq_ok_iff (htime.drop hdrop)).mp hfraction
    have hof : Date.of? year date.month date.day = some date :=
      Date.of?_eq_some_iff.mpr ⟨hyear, rfl, rfl⟩
    rw [readTimestamp_of_triples htriple hmark htime hfraction, hof] at h
    simp only at h
    split at h
    · next time htimeOf =>
      obtain ⟨hbound, htimeOf⟩ := Option.ite_none_right_eq_some.mp htimeOf
      obtain ⟨rfl, rfl, rfl, hnano⟩ := TimeOfDay.of?_eq_some_iff.mp htimeOf
      rw [← Except.ok.inj h]
      exact ⟨tail, mark, _, digits, microsecond, ⟨year, htriple, hyear⟩, hmark, htime, hbound,
        hdigits, hn, hnano⟩
    · cases h
  · intro h
    obtain ⟨tail, mark, t, digits, microsecond, ⟨year, htriple, hyear⟩, hmark, htime, hbound,
      hdigits, hn, hnano⟩ := h
    have hdrop : dropBytes? 11 s = some t := drop_mark hmark (htriple.drop (dropBytes?_zero s))
    have hfraction := (readFraction_eq_ok_iff (htime.drop hdrop)).mpr ⟨digits, hdigits, hn⟩
    have hof : Date.of? year d.date.month d.date.day = some d.date :=
      Date.of?_eq_some_iff.mpr ⟨hyear, rfl, rfl⟩
    have htimeOf : TimeOfDay.of? d.time.hour d.time.minute d.time.second (microsecond * 1000) =
        some d.time := TimeOfDay.of?_eq_some_iff.mpr ⟨rfl, rfl, rfl, hnano⟩
    rw [readTimestamp_of_triples htriple hmark htime hfraction, hof, if_pos hbound, htimeOf]

/-! ### Columns of dates and timestamps -/

theorem map_date (precision scale : Option UInt32) (text : String) :
    map ⟨"DATE", precision, scale⟩ (.string text) =
      (readDate text.toList).map fun d => .string d.text := rfl

theorem map_timestamp (precision scale : Option UInt32) (text : String) :
    map ⟨"TIMESTAMP", precision, scale⟩ (.string text) =
      (readTimestamp text.toList).map fun d => .string d.text := rfl

end Cell

end QueryDispatch
