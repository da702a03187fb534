import Mathlib.Tactic.SplitIfs
import QueryDispatch.Json.Printer
import QueryDispatch.Proofs.Number.WrittenDoubles

/-! # Texts of numbers

  The text of a number is a run of digits, signs, points and exponent letters,
  which nothing else in a JSON text continues. A double always shows a point
  or an exponent, so its text is that of no integer.
-/

namespace QueryDispatch

variable {c : Char} {i j : Int} {p : Int} {digits : List Char}

/-- The characters that the text of a number is made of. -/
def isNumeric (c : Char) : Bool :=
  c.isDigit || c == '-' || c == '+' || c == '.' || c == 'e'

theorem isNumeric_of_isDigit (hc : c.isDigit = true) : isNumeric c = true := by
  unfold isNumeric
  rw [hc]
  rfl

theorem isNumeric_of_mem (h : c ∈ ['-', '+', '.', 'e', '0']) : isNumeric c = true := by
  simp only [List.mem_cons, List.not_mem_nil, or_false] at h
  rcases h with rfl | rfl | rfl | rfl | rfl <;> rfl

/-! ### Integers -/

theorem isNumeric_of_mem_intText (h : c ∈ intText i) : isNumeric c = true := by
  unfold intText at h
  split at h
  · rcases List.mem_cons.mp h with rfl | hdigit
    · rfl
    · exact isNumeric_of_isDigit (isDigit_of_mem_natText hdigit)
  · exact isNumeric_of_isDigit (isDigit_of_mem_natText h)

/-- An integer is written without point and exponent. -/
theorem not_mem_intText (hdigit : c.isDigit = false) (hminus : c ≠ '-') : c ∉ intText i := by
  have hnat : c ∉ natText i.natAbs := by
    intro h
    rw [isDigit_of_mem_natText h] at hdigit
    cases hdigit
  unfold intText
  split
  · exact List.not_mem_cons_of_ne_of_not_mem hminus hnat
  · exact hnat

theorem minus_not_mem_natText (n : Nat) : '-' ∉ natText n := fun h =>
  absurd (isDigit_of_mem_natText h) (by decide)

theorem intText_inj (h : intText i = intText j) : i = j := by
  unfold intText at h
  split at h
  · next hi =>
    split at h
    · have habs := natText_inj (List.cons.inj h).2
      omega
    · exact absurd (h ▸ List.mem_cons_self) (minus_not_mem_natText j.natAbs)
  · next hi =>
    split at h
    · exact absurd (h ▸ List.mem_cons_self) (minus_not_mem_natText i.natAbs)
    · have habs := natText_inj h
      omega

/-! ### Doubles -/

/-- The marks by which the text of a double differs from that of an integer. -/
def ShowsDouble (s : List Char) : Prop := '.' ∈ s ∨ 'e' ∈ s

namespace Layout

variable {layout : Layout}

theorem isNumeric_of_mem_positional (hdigits : ∀ c ∈ digits, c.isDigit = true)
    (h : c ∈ layout.positional digits p) : isNumeric c = true := by
  have hzeros : ∀ k, c ∈ List.replicate k '0' → isNumeric c = true := fun k hc =>
    isNumeric_of_isDigit (isDigit_of_mem_zeros hc)
  have hdigit : c ∈ digits → isNumeric c = true := fun hc => isNumeric_of_isDigit (hdigits c hc)
  unfold positional at h
  dsimp only at h
  split_ifs at h with hsmall hlarge
  · simp only [List.mem_cons, List.mem_append] at h
    rcases h with rfl | rfl | hc | hc
    · rfl
    · rfl
    · exact hzeros _ hc
    · exact hdigit hc
  · rcases List.mem_append.mp h with hc | hc
    · exact (List.mem_append.mp hc).elim hdigit (hzeros _)
    · exact isNumeric_of_mem (by grind)
  · rcases List.mem_append.mp h with hc | hc
    · exact (List.mem_append.mp hc).elim hdigit (hzeros _)
    · cases hc
  · simp only [List.mem_append, List.mem_cons] at h
    rcases h with hc | rfl | hc
    · exact hdigit (List.mem_of_mem_take hc)
    · rfl
    · exact hdigit (List.mem_of_mem_drop hc)

theorem isNumeric_of_mem_scientific (hdigits : ∀ c ∈ digits, c.isDigit = true)
    (h : c ∈ layout.scientific digits p) : isNumeric c = true := by
  unfold scientific at h
  simp only [List.mem_append, List.mem_cons] at h
  rcases h with hmantissa | rfl | hsign | hexponent
  · match digits, hdigits, hmantissa with
    | [], _, hc => exact isNumeric_of_mem (by grind)
    | [d], hdigits, hc => exact isNumeric_of_isDigit (hdigits c hc)
    | d :: d' :: rest, hdigits, hc =>
      rcases List.mem_cons.mp hc with rfl | hc
      · exact isNumeric_of_isDigit (hdigits _ List.mem_cons_self)
      · rcases List.mem_cons.mp hc with rfl | hc
        · rfl
        · exact isNumeric_of_isDigit (hdigits c (List.mem_cons_of_mem _ hc))
  · rfl
  · exact isNumeric_of_mem (by grind)
  · exact isNumeric_of_isDigit (isDigit_of_mem_natText hexponent)

theorem isNumeric_of_mem_render {d : Double} (h : c ∈ (layout.render d).toList) :
    isNumeric c = true := by
  unfold render at h
  rw [String.toList_ofList] at h
  rcases List.mem_append.mp h with hsign | hbody
  · exact isNumeric_of_mem (by grind)
  · have hdigits : ∀ c ∈ d.shortest.significant.1, c.isDigit = true :=
      fun c hc => Decimal.isDigit_of_mem_significant hc
    split at hbody
    · exact isNumeric_of_mem (by grind)
    · simp only at hbody
      split at hbody
      · exact isNumeric_of_mem_positional hdigits hbody
      · exact isNumeric_of_mem_scientific hdigits hbody

theorem showsDouble_positional (hpoint : layout.showsPoint = true) :
    ShowsDouble (layout.positional digits p) := by
  refine Or.inl ?_
  unfold positional
  dsimp only
  rw [if_pos hpoint]
  split_ifs
  · exact List.mem_cons_of_mem _ List.mem_cons_self
  · exact List.mem_append_right _ List.mem_cons_self
  · exact List.mem_append_right _ List.mem_cons_self

theorem showsDouble_scientific : ShowsDouble (layout.scientific digits p) := by
  refine Or.inr ?_
  unfold scientific
  exact List.mem_append_right _ List.mem_cons_self

theorem showsDouble_render (hpoint : layout.showsPoint = true) (d : Double) :
    ShowsDouble (layout.render d).toList := by
  have happend : ∀ s t : List Char, ShowsDouble t → ShowsDouble (s ++ t) := fun s t ht =>
    ht.imp (List.mem_append_right _) (List.mem_append_right _)
  unfold render
  rw [String.toList_ofList]
  refine happend _ _ ?_
  split
  · exact Or.inl (by decide)
  · dsimp only
    split
    · exact showsDouble_positional hpoint
    · exact showsDouble_scientific

end Layout

theorem not_showsDouble_intText (i : Int) : ¬ ShowsDouble (intText i) := by
  rintro (hpoint | hletter)
  · exact not_mem_intText (by decide) (by decide) hpoint
  · exact not_mem_intText (by decide) (by decide) hletter

/-! ### Numbers in JSON -/

namespace JsonNumber

variable {m n : JsonNumber}

/-- A double is in the form in which each value has one mantissa and one exponent. -/
def Canonical : JsonNumber → Prop
  | .int _ => True
  | .double d => d.Canonical

instance : (n : JsonNumber) → Decidable n.Canonical
  | .int _ => .isTrue trivial
  | .double d => inferInstanceAs (Decidable d.Canonical)

/-- An integer is one of 64 bits, with a sign or without. -/
def Held : JsonNumber → Prop
  | .int i => -2 ^ 63 ≤ i ∧ i < 2 ^ 64
  | .double _ => True

theorem isNumeric_of_mem_text (h : c ∈ n.text.toList) : isNumeric c = true := by
  cases n with
  | int i =>
    refine isNumeric_of_mem_intText (i := i) ?_
    rwa [text, String.toList_ofList] at h
  | double d => exact Layout.isNumeric_of_mem_render h

theorem text_ne_nil (n : JsonNumber) : n.text.toList ≠ [] := by
  cases n with
  | int i =>
    rw [text, String.toList_ofList]
    exact intText_ne_nil i
  | double d =>
    have hshows : ShowsDouble (double d).text.toList := Layout.showsDouble_render rfl d
    rcases hshows with h | h
    · exact List.ne_nil_of_mem h
    · exact List.ne_nil_of_mem h

theorem text_int_ne_double (i : Int) (d : Double) : (int i).text ≠ (double d).text := by
  intro h
  have hshows : ShowsDouble (double d).text.toList := Layout.showsDouble_render rfl d
  rw [← h, text, String.toList_ofList] at hshows
  exact not_showsDouble_intText i hshows

/-- Numbers that are written alike are the same. -/
theorem eq_of_text_eq (hm : m.Canonical) (hn : n.Canonical) (h : m.text = n.text) : m = n := by
  cases m with
  | int i =>
    cases n with
    | int j => rw [intText_inj (String.ofList_injective h)]
    | double e => exact absurd h (text_int_ne_double i e)
  | double d =>
    cases n with
    | int j => exact absurd h.symm (text_int_ne_double j d)
    | double e => rw [Double.eq_of_render_eq Layout.json hm hn h]

end JsonNumber

end QueryDispatch
