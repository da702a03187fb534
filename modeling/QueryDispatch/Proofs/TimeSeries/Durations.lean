import QueryDispatch.Proofs.Number.NumeralGrammar
import QueryDispatch.TimeSeries.Duration

/-! # Written durations

  A duration is written as amounts with units, one behind the other. Exactly
  these texts are read, to the exact sum, as long as no amount needs more than
  31 bits and no partial sum more than 63.
-/

namespace QueryDispatch.Duration

variable {s rest : List Char} {t : Term} {ts : List Term} {n total : Nat}

/-! ### The written form -/

/-- A unit of time. A year has 365 days. -/
inductive TimeUnit where
  | millisecond
  | second
  | minute
  | hour
  | day
  | week
  | year
  deriving DecidableEq, Repr

/-- How a unit is written. -/
def TimeUnit.name : TimeUnit → List Char
  | .millisecond => ['m', 's']
  | .second => ['s']
  | .minute => ['m']
  | .hour => ['h']
  | .day => ['d']
  | .week => ['w']
  | .year => ['y']

/-- How long a unit is. -/
def TimeUnit.milliseconds : TimeUnit → Nat
  | .millisecond => 1
  | .second => 1000
  | .minute => 60000
  | .hour => 3600000
  | .day => 86400000
  | .week => 604800000
  | .year => 31536000000

/-- An amount in decimal digits, and its unit. -/
structure Part where
  digits : List Char
  unit : TimeUnit
  is_digits : Numeral.IsDigits digits

namespace Part

/-- How a part is written. -/
def chars (p : Part) : List Char := p.digits ++ p.unit.name

/-- The amount. -/
def number (p : Part) : Nat := digitsValue p.digits

def milliseconds (p : Part) : Nat := p.number * p.unit.milliseconds

/-- A part as it is found in a text. -/
def term (p : Part) : Term := ⟨p.digits, p.unit.name⟩

end Part

/-- The sum of some parts, in milliseconds. -/
def sumOf (parts : List Part) : Nat := (parts.map Part.milliseconds).sum

/-- The text is a sequence of parts that make `n` milliseconds. No amount and no partial sum is
    too large. -/
def IsWritten (text : List Char) (n : Nat) : Prop :=
  ∃ parts : List Part, parts ≠ [] ∧ text = parts.flatMap Part.chars ∧
    (∀ p ∈ parts, p.number ≤ largestAmount) ∧ (∀ k, sumOf (parts.take k) ≤ longest) ∧
    n = sumOf parts

/-! ### Units -/

theorem unit?_name (u : TimeUnit) : unit? u.name = some u.milliseconds := by
  cases u <;> rfl

theorem exists_unit {name : List Char} (h : unit? name = some n) :
    ∃ u : TimeUnit, u.name = name := by
  unfold unit? at h
  split at h
  · exact ⟨.millisecond, rfl⟩
  · exact ⟨.second, rfl⟩
  · exact ⟨.minute, rfl⟩
  · exact ⟨.hour, rfl⟩
  · exact ⟨.day, rfl⟩
  · exact ⟨.week, rfl⟩
  · exact ⟨.year, rfl⟩
  · cases h

theorem name_ne_nil (u : TimeUnit) : u.name ≠ [] := by
  cases u <;> exact List.cons_ne_nil _ _

theorem not_isDigit_of_mem_name {u : TimeUnit} : ∀ c ∈ u.name, c.isDigit = false := by
  cases u <;> simp [TimeUnit.name]

/-! ### One part -/

theorem value?_term (p : Part) :
    p.term.value? = if p.number ≤ largestAmount then some p.milliseconds else none := by
  have hne : p.digits.isEmpty = false := List.isEmpty_eq_false_iff.mpr p.is_digits.1
  unfold Term.value? Part.term
  simp only [hne, Bool.false_eq_true, false_or, unit?_name, Option.map_some]
  by_cases hnumber : p.number ≤ largestAmount
  · have hsmall : ¬ largestAmount < digitsValue p.digits := Nat.not_lt.mpr hnumber
    rw [if_neg hsmall, if_pos hnumber]
    rfl
  · have hlarge : largestAmount < digitsValue p.digits := Nat.not_le.mp hnumber
    rw [if_pos hlarge, if_neg hnumber]

/-- A term of digits that has a value is a part. -/
theorem exists_part (hdigits : ∀ c ∈ t.amount, c.isDigit = true) (h : t.value? = some n) :
    ∃ p : Part, p.term = t := by
  obtain ⟨hbounds, hvalue⟩ := Option.ite_none_left_eq_some.mp h
  obtain ⟨unit, hunit, -⟩ := Option.map_eq_some_iff.mp hvalue
  obtain ⟨u, hname⟩ := exists_unit hunit
  have hne : t.amount ≠ [] := by
    intro hnil
    exact hbounds (Or.inl (by rw [hnil]; rfl))
  exact ⟨⟨t.amount, u, hne, hdigits⟩, by rw [Part.term, hname]⟩

/-- A part is taken off where the next one begins with a digit. -/
theorem takeTerm_append (p : Part) (hrest : ∀ c ∈ rest.head?, c.isDigit = true) :
    takeTerm (p.chars ++ rest) = (p.term, rest) := by
  -- the digits end at the unit, and the unit at the next digit
  have hunit : ∀ c ∈ (p.unit.name ++ rest).head?, c.isDigit = false := by
    intro c hc
    rw [List.head?_append_of_ne_nil _ (name_ne_nil p.unit)] at hc
    exact not_isDigit_of_mem_name c (List.mem_of_mem_head? hc)
  have hname : ∀ c ∈ p.unit.name, (!c.isDigit) = true := by
    intro c hc
    rw [not_isDigit_of_mem_name c hc]
    rfl
  have hrest' : ∀ c ∈ rest.head?, (!c.isDigit) = false := by
    intro c hc
    rw [hrest c hc]
    rfl
  unfold takeTerm Part.chars Part.term
  rw [List.append_assoc, takeWhile_digits p.is_digits.2 hunit, dropWhile_digits p.is_digits.2 hunit]
  simp only [Text.takeWhile_run hname hrest', Text.dropWhile_run hname hrest']

/-! ### The terms of a text -/

theorem terms_of_ne_nil (h : s ≠ []) : terms s = (takeTerm s).1 :: terms (takeTerm s).2 := by
  cases s with
  | nil => exact absurd rfl h
  | cons c s => rw [terms]

/-- No character is lost. -/
theorem flatMap_terms (s : List Char) : (terms s).flatMap (fun t => t.amount ++ t.unit) = s := by
  fun_induction terms s with
  | case1 => rfl
  | case2 c s ih =>
    rw [List.flatMap_cons, ih]
    simp only [takeTerm, List.append_assoc, List.takeWhile_append_dropWhile]

theorem isDigit_of_mem_terms (s : List Char) :
    ∀ t ∈ terms s, ∀ c ∈ t.amount, c.isDigit = true := by
  fun_induction terms s with
  | case1 => exact List.forall_mem_nil _
  | case2 c s ih =>
    refine List.forall_mem_cons.mpr ⟨?_, ih⟩
    intro d hd
    exact List.all_eq_true.mp List.all_takeWhile d hd

/-- Each round of the loop takes a character at least. -/
theorem length_terms_le (s : List Char) : (terms s).length ≤ s.length := by
  fun_induction terms s with
  | case1 => exact Nat.le_refl _
  | case2 c s ih =>
    have hshorter := length_takeTerm c s
    rw [List.length_cons]
    omega

/-- Written parts are found again. -/
theorem terms_flatMap (parts : List Part) :
    terms (parts.flatMap Part.chars) = parts.map Part.term := by
  induction parts with
  | nil => rw [List.flatMap_nil, terms, List.map_nil]
  | cons p parts ih =>
    have hrest : ∀ c ∈ (parts.flatMap Part.chars).head?, c.isDigit = true := by
      cases parts with
      | nil => simp
      | cons q parts =>
        intro c hc
        rw [List.flatMap_cons, Part.chars, List.append_assoc,
          List.head?_append_of_ne_nil _ q.is_digits.1] at hc
        exact q.is_digits.2 c (List.mem_of_mem_head? hc)
    have hne : p.chars ++ parts.flatMap Part.chars ≠ [] := by
      unfold Part.chars
      simp [p.is_digits.1]
    rw [List.flatMap_cons, terms_of_ne_nil hne, takeTerm_append p hrest, ih, List.map_cons]

/-! ### Sums -/

theorem sumOf_cons (p : Part) (parts : List Part) :
    sumOf (p :: parts) = p.milliseconds + sumOf parts := by
  unfold sumOf
  rw [List.map_cons, List.sum_cons]

theorem sum?_cons (total : Nat) (t : Term) (ts : List Term) :
    sum? total (t :: ts) =
      t.value?.bind fun n => if total + n ≤ longest then sum? (total + n) ts else none := by
  rw [sum?]
  cases t.value? <;> rfl

/-- The partial sums behind the first part, from the sum with it on. -/
theorem forall_take_cons (htotal : total ≤ longest) (p : Part) (parts : List Part) :
    (∀ k, total + sumOf ((p :: parts).take k) ≤ longest) ↔
      ∀ k, total + p.milliseconds + sumOf (parts.take k) ≤ longest := by
  constructor
  · intro h k
    have hk := h (k + 1)
    rwa [List.take_succ_cons, sumOf_cons, ← Nat.add_assoc] at hk
  · intro h k
    cases k with
    | zero => exact htotal
    | succ k =>
      rw [List.take_succ_cons, sumOf_cons, ← Nat.add_assoc]
      exact h k

/-- A sum that is within bounds at each part. -/
theorem sum?_parts (parts : List Part) (htotal : total ≤ longest) :
    sum? total (parts.map Part.term) = some n ↔ (∀ p ∈ parts, p.number ≤ largestAmount) ∧
      (∀ k, total + sumOf (parts.take k) ≤ longest) ∧ n = total + sumOf parts := by
  induction parts generalizing total with
  | nil => simp [sum?, sumOf, htotal, eq_comm]
  | cons p parts ih =>
    rw [List.map_cons, sum?_cons, value?_term, forall_take_cons htotal, sumOf_cons,
      List.forall_mem_cons]
    by_cases hnumber : p.number ≤ largestAmount
    · by_cases hsum : total + p.milliseconds ≤ longest
      · simp [hnumber, hsum, ih hsum, Nat.add_assoc]
      · -- the sum with the first part alone is among the partial sums
        have hfirst : ¬ ∀ k, total + p.milliseconds + sumOf (parts.take k) ≤ longest :=
          fun h => hsum (h 0)
        simp [hnumber, hsum, hfirst]
    · simp [hnumber]

theorem value?_of_sum? (h : sum? total ts = some n) : ∀ t ∈ ts, ∃ m, t.value? = some m := by
  induction ts generalizing total with
  | nil => exact List.forall_mem_nil _
  | cons t ts ih =>
    rw [sum?_cons] at h
    obtain ⟨m, hm, hsum⟩ := Option.bind_eq_some_iff.mp h
    obtain ⟨-, hrest⟩ := Option.ite_none_right_eq_some.mp hsum
    exact List.forall_mem_cons.mpr ⟨⟨m, hm⟩, ih hrest⟩

theorem exists_parts (hdigits : ∀ t ∈ ts, ∀ c ∈ t.amount, c.isDigit = true)
    (h : ∀ t ∈ ts, ∃ m, t.value? = some m) : ∃ parts : List Part, ts = parts.map Part.term := by
  induction ts with
  | nil => exact ⟨[], rfl⟩
  | cons t ts ih =>
    obtain ⟨ht, hts⟩ := List.forall_mem_cons.mp h
    obtain ⟨hd, hds⟩ := List.forall_mem_cons.mp hdigits
    obtain ⟨m, hm⟩ := ht
    obtain ⟨p, rfl⟩ := exists_part hd hm
    obtain ⟨parts, rfl⟩ := ih hds hts
    exact ⟨p :: parts, rfl⟩

/-! ### Reading -/

theorem sum?_terms_iff (hs : s ≠ []) : sum? 0 (terms s) = some n ↔ IsWritten s n := by
  have hzero : 0 ≤ longest := Nat.zero_le _
  constructor
  · intro h
    -- every term has a value, so they are parts, and together they are the text
    obtain ⟨parts, hparts⟩ := exists_parts (isDigit_of_mem_terms s) (value?_of_sum? h)
    have htext : s = parts.flatMap Part.chars := by
      conv_lhs => rw [← flatMap_terms s, hparts, List.flatMap_map]
      rfl
    rw [hparts, sum?_parts parts hzero] at h
    simp only [Nat.zero_add] at h
    refine ⟨parts, ?_, htext, h⟩
    rintro rfl
    exact hs htext
  · rintro ⟨parts, -, rfl, h⟩
    rw [terms_flatMap, sum?_parts parts hzero]
    simpa only [Nat.zero_add] using h

theorem IsWritten.ne_nil (h : IsWritten s n) : s ≠ [] := by
  obtain ⟨parts, hne, rfl, -⟩ := h
  obtain ⟨p, more, rfl⟩ := List.exists_cons_of_ne_nil hne
  rw [List.flatMap_cons, Part.chars]
  simp [p.is_digits.1]

theorem read_eq (text : String) :
    read text = if text.toList = [] then .error (.duration text)
      else match sum? 0 (terms text.toList) with
        | some n => .ok n
        | none => .error (.duration text) := by
  unfold read
  split
  · next h => rw [if_pos h]
  · next h => exact (if_neg h).symm

theorem read_eq_ok_iff {text : String} : read text = .ok n ↔ IsWritten text.toList n := by
  rw [read_eq]
  by_cases hempty : text.toList = []
  · rw [if_pos hempty]
    exact iff_of_false (fun h => nomatch h) fun h => h.ne_nil hempty
  · rw [if_neg hempty, ← sum?_terms_iff hempty]
    cases sum? 0 (terms text.toList) with
    | none => simp
    | some m => simp

theorem read_of_not_written {text : String} (h : ¬ ∃ n, IsWritten text.toList n) :
    read text = .error (.duration text) := by
  rw [read_eq]
  split
  · rfl
  · next hne =>
    split
    · next n hsum => exact absurd ⟨n, (sum?_terms_iff hne).mp hsum⟩ h
    · rfl

end QueryDispatch.Duration
