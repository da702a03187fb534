import QueryDispatch.Json.Reader
import QueryDispatch.Proofs.Json.Texts
import QueryDispatch.Proofs.Number.Rounding

/-! # Values that are read are canonical

  A number that is read was rounded to a double or is an integer of 64 bits,
  and the fields of an object are put in order when its last one is read.
-/

namespace QueryDispatch

/-! ### Numbers -/

namespace JsonNumber

variable {d : Double} {n : JsonNumber} {s : Significand} {negative : Bool}
  {input rest : List Char}

theorem canonical_getD_div (hd : d.Canonical) (e : Double) : ((d.div e).getD d).Canonical := by
  cases h : d.div e with
  | none => exact hd
  | some x => exact Double.canonical_of_div h

theorem canonical_scaleDown (fuel : Nat) (hd : d.Canonical) (n : Nat) :
    (scaleDown fuel d n).Canonical := by
  induction fuel generalizing d n with
  | zero => exact hd
  | succ fuel ih =>
    unfold scaleDown
    split_ifs
    · exact canonical_getD_div hd _
    · exact hd
    · exact ih (canonical_getD_div hd _) _

theorem canonical_of_scaled? (h : scaled? negative s = some d) : d.Canonical := by
  have hsigned : ∀ e : Double, e.Canonical → some (if negative then e.neg else e) = some d →
      d.Canonical := by
    intro e he h
    obtain rfl := Option.some.inj h
    split
    · exact he.neg
    · exact he
  unfold scaled? at h
  obtain ⟨base, hbase, h⟩ := Option.bind_eq_some_iff.mp h
  have hcanonical := Double.canonical_of_ofRatio Nat.one_pos hbase
  dsimp only at h
  by_cases hscale : 0 ≤ s.scale
  · by_cases hsmall : s.scale ≤ 308
    · rw [if_pos hscale, if_pos hsmall] at h
      obtain ⟨e, he, h⟩ := Option.bind_eq_some_iff.mp h
      exact hsigned e (Double.canonical_of_mul he) h
    · rw [if_pos hscale, if_neg hsmall] at h
      by_cases hzero : base.isZero = true
      · rw [if_pos hzero] at h
        exact hsigned base hcanonical h
      · rw [if_neg hzero] at h
        cases h
  · rw [if_neg hscale] at h
    exact hsigned _ (canonical_scaleDown 6 hcanonical _) h

/-- A number with a point or an exponent is a double. -/
theorem readScaled?_eq_some (h : readScaled? negative s input = some (n, rest)) :
    ∃ d, n = .double d ∧ d.Canonical := by
  have hscaled : ∀ {s more}, (do return (.double (← scaled? negative s), more) :
      Option (JsonNumber × List Char)) = some (n, rest) → ∃ d, n = .double d ∧ d.Canonical := by
    intro s more h
    obtain ⟨d, hd, hn⟩ := Option.bind_eq_some_iff.mp h
    obtain ⟨rfl, -⟩ := Prod.mk.inj (Option.some.inj hn)
    exact ⟨d, rfl, canonical_of_scaled? hd⟩
  unfold readScaled? at h
  split at h
  · split at h
    · obtain ⟨⟨e, more⟩, -, h⟩ := Option.bind_eq_some_iff.mp h
      obtain ⟨t, -, h⟩ := Option.bind_eq_some_iff.mp h
      exact hscaled h
    · exact hscaled h
  · exact hscaled h

/-- Any number is a double like this, or it is read from digits alone. -/
theorem read?_eq_some (h : read? input = some (n, rest)) : (∃ d, n = .double d ∧ d.Canonical) ∨
    ∃ negative digits, ofDigits? negative (wholeDigits 0 digits) = some n := by
  have hdigits : ∀ {negative digits more}, (do
      return (← ofDigits? negative (wholeDigits 0 digits), more) :
        Option (JsonNumber × List Char)) = some (n, rest) →
      ∃ negative digits, ofDigits? negative (wholeDigits 0 digits) = some n := by
    intro negative digits more h
    obtain ⟨m, hm, hn⟩ := Option.bind_eq_some_iff.mp h
    obtain ⟨rfl, -⟩ := Prod.mk.inj (Option.some.inj hn)
    exact ⟨negative, digits, hm⟩
  unfold read? at h
  split at h
  dsimp only at h
  split at h
  · cases h
  · split at h
    · cases h
    · split at h
      · split at h
        · cases h
        · exact Or.inl (readScaled?_eq_some h)
      · split at h
        · exact Or.inl (readScaled?_eq_some h)
        · exact Or.inr (hdigits h)
      · exact Or.inr (hdigits h)

theorem canonical_of_ofDigits? (h : ofDigits? negative s = some n) : n.Canonical := by
  unfold ofDigits? at h
  split_ifs at h
  · obtain rfl := Option.some.inj h
    exact Double.canonical_zero true
  · obtain rfl := Option.some.inj h
    trivial
  · obtain ⟨d, hd, rfl⟩ := Option.map_eq_some_iff.mp h
    exact Double.canonical_of_ofRatio Nat.one_pos hd
  · obtain rfl := Option.some.inj h
    trivial
  · obtain ⟨d, hd, rfl⟩ := Option.map_eq_some_iff.mp h
    exact canonical_of_scaled? hd

theorem canonical_of_read? (h : read? input = some (n, rest)) : n.Canonical := by
  rcases read?_eq_some h with ⟨d, rfl, hd⟩ | ⟨negative, digits, hread⟩
  · exact hd
  · exact canonical_of_ofDigits? hread

/-! ### The range of integers -/

theorem appendDigit?_le {digits next : Nat} {c : Char} (h : appendDigit? digits c = some next) :
    next ≤ maxUnsigned := by
  unfold appendDigit? at h
  obtain ⟨hle, heq⟩ := Option.ite_none_right_eq_some.mp h
  rwa [Option.some.inj heq] at hle

section

-- to unfold the comparison with the largest number takes too long
attribute [local irreducible] appendDigit?

theorem wholeDigits_cons (digits : Nat) (c : Char) (t : List Char) :
    wholeDigits digits (c :: t) = match appendDigit? digits c with
      | some next => wholeDigits next t
      | none => ⟨digits, ((c :: t).length : Int)⟩ := rfl

end

theorem wholeDigits_le {digits : Nat} (h : digits ≤ maxUnsigned) (t : List Char) :
    (wholeDigits digits t).digits ≤ maxUnsigned := by
  induction t generalizing digits with
  | nil => exact h
  | cons c t ih =>
    rw [wholeDigits_cons]
    cases hnext : appendDigit? digits c with
    | none => exact h
    | some next => exact ih (appendDigit?_le hnext)

theorem held_of_ofDigits? (hs : s.digits ≤ maxUnsigned) (h : ofDigits? negative s = some n) :
    n.Held := by
  have hmax : maxUnsigned = 2 ^ 64 - 1 := rfl
  unfold ofDigits? at h
  split_ifs at h with hscale hnegative hzero hfits
  · obtain rfl := Option.some.inj h
    trivial
  · obtain rfl := Option.some.inj h
    constructor <;> omega
  · obtain ⟨d, -, rfl⟩ := Option.map_eq_some_iff.mp h
    trivial
  · obtain rfl := Option.some.inj h
    constructor <;> omega
  · obtain ⟨d, -, rfl⟩ := Option.map_eq_some_iff.mp h
    trivial

/-- An integer that is read fits 64 bits. -/
theorem held_of_read? (h : read? input = some (n, rest)) : n.Held := by
  rcases read?_eq_some h with ⟨d, rfl, -⟩ | ⟨negative, digits, hread⟩
  · trivial
  · exact held_of_ofDigits? (wholeDigits_le (Nat.zero_le _) digits) hread

end JsonNumber

/-! ### Values -/

namespace JsonFields

variable {fields entries : JsonFields} {entry : String × Json}

theorem mem_insertAll (h : entry ∈ fields.insertAll entries) :
    entry ∈ fields ∨ entry ∈ entries := by
  induction entries generalizing fields with
  | nil => exact .inl h
  | cons first rest ih =>
    rcases ih h with hmem | hmem
    · rcases mem_insert hmem with rfl | hmem
      · exact .inr List.mem_cons_self
      · exact .inl hmem
    · exact .inr (List.mem_cons_of_mem _ hmem)

theorem mem_ofEntries (h : entry ∈ ofEntries entries) : entry ∈ entries :=
  (mem_insertAll h).resolve_left List.not_mem_nil

end JsonFields

namespace Json

theorem canonical_record {fields : JsonFields} (h : ∀ field ∈ fields, field.2.Canonical) :
    (record fields).Canonical :=
  ⟨JsonFields.ofEntries_ordered fields,
    canonicalFields_iff.mpr fun field hmem => h field (JsonFields.mem_ofEntries hmem)⟩

mutual

theorem canonical_of_readValue? {fuel depth : Nat} {input rest : List Char} {j : Json}
    (h : readValue? fuel depth input = some (j, rest)) :
    j.Canonical := by
  match fuel with
  | 0 => cases h
  | fuel + 1 =>
    unfold readValue? at h
    split at h
    · obtain ⟨rfl, -⟩ := Prod.mk.inj (Option.some.inj h)
      trivial
    · obtain ⟨rfl, -⟩ := Prod.mk.inj (Option.some.inj h)
      trivial
    · obtain ⟨rfl, -⟩ := Prod.mk.inj (Option.some.inj h)
      trivial
    · obtain ⟨⟨s, more⟩, -, heq⟩ := Option.map_eq_some_iff.mp h
      obtain ⟨rfl, -⟩ := Prod.mk.inj heq
      trivial
    · split at h
      · cases h
      · split at h
        · obtain ⟨rfl, -⟩ := Prod.mk.inj (Option.some.inj h)
          trivial
        · obtain ⟨⟨items, more⟩, hitems, heq⟩ := Option.map_eq_some_iff.mp h
          obtain ⟨rfl, -⟩ := Prod.mk.inj heq
          exact canonicalItems_iff.mpr (canonical_of_readItems? hitems)
    · split at h
      · cases h
      · split at h
        · obtain ⟨rfl, -⟩ := Prod.mk.inj (Option.some.inj h)
          exact ⟨List.Pairwise.nil, trivial⟩
        · obtain ⟨⟨fields, more⟩, hfields, heq⟩ := Option.map_eq_some_iff.mp h
          obtain ⟨rfl, -⟩ := Prod.mk.inj heq
          exact canonical_record (canonical_of_readFields? hfields)
    · split at h
      · obtain ⟨⟨n, more⟩, hn, heq⟩ := Option.map_eq_some_iff.mp h
        obtain ⟨rfl, -⟩ := Prod.mk.inj heq
        exact JsonNumber.canonical_of_read? hn
      · cases h
    · cases h

theorem canonical_of_readItems? {fuel depth : Nat} {input rest : List Char}
    {items : List Json} (h : readItems? fuel depth input = some (items, rest)) :
    ∀ item ∈ items, item.Canonical := by
  match fuel with
  | 0 => cases h
  | fuel + 1 =>
    unfold readItems? at h
    split at h
    · cases h
    · next item more hitem =>
      have hfirst := canonical_of_readValue? hitem
      split at h
      · obtain ⟨⟨others, more⟩, hothers, heq⟩ := Option.map_eq_some_iff.mp h
        obtain ⟨rfl, -⟩ := Prod.mk.inj heq
        exact List.forall_mem_cons.mpr ⟨hfirst, canonical_of_readItems? hothers⟩
      · obtain ⟨rfl, -⟩ := Prod.mk.inj (Option.some.inj h)
        exact List.forall_mem_singleton.mpr hfirst
      · cases h

theorem canonical_of_readFields? {fuel depth : Nat} {input rest : List Char}
    {fields : JsonFields} (h : readFields? fuel depth input = some (fields, rest)) :
    ∀ field ∈ fields, field.2.Canonical := by
  match fuel with
  | 0 => cases h
  | fuel + 1 =>
    unfold readFields? at h
    split at h
    · split at h
      · cases h
      · split at h
        · split at h
          · cases h
          · next value more hvalue =>
            have hfirst := canonical_of_readValue? hvalue
            split at h
            · obtain ⟨⟨others, more⟩, hothers, heq⟩ := Option.map_eq_some_iff.mp h
              obtain ⟨rfl, -⟩ := Prod.mk.inj heq
              exact List.forall_mem_cons.mpr ⟨hfirst, canonical_of_readFields? hothers⟩
            · obtain ⟨rfl, -⟩ := Prod.mk.inj (Option.some.inj h)
              exact List.forall_mem_singleton.mpr hfirst
            · cases h
        · cases h
    · cases h

end

/-- A value that is read from a text is canonical. -/
theorem canonical_of_read? {s : String} {j : Json} (h : read? s = some j) : j.Canonical := by
  unfold read? at h
  dsimp only at h
  split at h
  · next value rest hvalue =>
    obtain ⟨-, heq⟩ := Option.ite_none_right_eq_some.mp h
    obtain rfl := Option.some.inj heq
    exact canonical_of_readValue? hvalue
  · cases h

end Json

end QueryDispatch
