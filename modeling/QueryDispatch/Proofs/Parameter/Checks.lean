import QueryDispatch.Parameter.Query
import QueryDispatch.Proofs.Data.Chains
import QueryDispatch.Proofs.Json.Entries

/-! # Checking the values of a call

  The values of a call are checked one by one in the order of their names, and
  `null` is passed over. Either all of them are in order and each comes to its
  bound form, or the call fails with the error of the first one that is not.
-/

namespace QueryDispatch

/-! ### Given values -/

namespace JsonFields

variable {values : JsonFields} {key name : String} {value : Json}

/-- The value that is given for a name; `null` gives none. -/
def given? (values : JsonFields) (name : String) : Option Json :=
  (values.get? name).filter fun value => !value.isNull

theorem given?_cons (key : String) (value : Json) (values : JsonFields) (name : String) :
    given? ((key, value) :: values) name =
      if name = key then (some value).filter fun value => !value.isNull
      else values.given? name := by
  unfold given?
  rw [get?_cons]
  split <;> rfl

theorem get?_of_given? (h : values.given? name = some value) : values.get? name = some value :=
  (Option.filter_eq_some_iff.mp h).1

/-- A name in front of all others is not among them. -/
theorem given?_eq_none_of_lt (h : ∀ entry ∈ values, key < entry.1) : values.given? key = none := by
  cases hgiven : values.given? key with
  | none => rfl
  | some value => exact absurd (h _ (mem_of_get? (get?_of_given? hgiven))) (String.lt_irrefl _)

theorem lt_of_given? (h : ∀ entry ∈ values, key < entry.1)
    (hgiven : values.given? name = some value) : key < name :=
  h (name, value) (mem_of_get? (get?_of_given? hgiven))

/-- A value in front of others is given for its name. -/
theorem given?_cons_of_not_null (key : String) (values : JsonFields)
    (hvalue : value.isNull = false) (name : String) :
    given? ((key, value) :: values) name =
      if name = key then some value else values.given? name := by
  rw [given?_cons, Option.filter_some, hvalue]
  rfl

/-- And `null` there gives nothing that the others do not. -/
theorem given?_cons_of_null (h : ∀ entry ∈ values, key < entry.1) (hvalue : value.isNull = true)
    (name : String) : given? ((key, value) :: values) name = values.given? name := by
  rw [given?_cons, Option.filter_some, hvalue]
  by_cases heq : name = key
  · rw [heq, given?_eq_none_of_lt h]
    simp
  · exact if_neg heq

end JsonFields

namespace ParameterizedQuery

variable {q : ParameterizedQuery} {values : JsonFields} {bound : Bindings} {name : String}
  {value : Json} {b : BoundValue} {e e' : ParameterError}

/-! ### All values in order -/

/-- A value that is checked in front of others. -/
theorem checkValues_cons (hvalue : value.isNull = false) (rest : JsonFields) :
    q.checkValues ((name, value) :: rest) =
      (q.checkValue name value).bind fun b =>
        (q.checkValues rest).map fun others => (name, b) :: others := by
  rw [checkValues, hvalue]
  rfl

theorem checkValues_null (hvalue : value.isNull = true) (rest : JsonFields) :
    q.checkValues ((name, value) :: rest) = q.checkValues rest := by
  rw [checkValues, hvalue]
  rfl

/-- The values that are bound are the given ones in their checked form. -/
theorem lookup_of_checkValues (ho : values.Ordered) (h : q.checkValues values = .ok bound)
    (name : String) :
    (∀ value, values.given? name = some value →
      ∃ b, q.checkValue name value = .ok b ∧ bound.lookup name = some b) ∧
    (values.given? name = none → bound.lookup name = none) := by
  induction ho generalizing bound with
  | nil =>
    obtain rfl := Except.ok.inj h
    refine ⟨?_, fun _ => rfl⟩
    intro value hgiven
    cases hgiven
  | @cons first rest hlt hrest ih =>
    obtain ⟨k, v⟩ := first
    cases hnull : v.isNull with
    | true =>
      rw [checkValues_null hnull] at h
      rw [JsonFields.given?_cons_of_null hlt hnull]
      exact ih h
    | false =>
      rw [checkValues_cons hnull] at h
      obtain ⟨b, hb, hothers⟩ := bind_eq_ok.mp h
      obtain ⟨others, hok, rfl⟩ := map_eq_ok.mp hothers
      rw [JsonFields.given?_cons_of_not_null k rest hnull, lookup_cons_eq_ite]
      by_cases heq : name = k
      · subst heq
        simp [hb]
      · simp only [if_neg heq]
        exact ih hok

/-- Values that are all in order come to a list of bound ones. -/
theorem checkValues_ok (ho : values.Ordered)
    (h : ∀ name value, values.given? name = some value → ∃ b, q.checkValue name value = .ok b) :
    ∃ bound, q.checkValues values = .ok bound := by
  induction ho with
  | nil => exact ⟨[], rfl⟩
  | @cons first rest hlt hrest ih =>
    obtain ⟨k, v⟩ := first
    cases hnull : v.isNull with
    | true =>
      rw [checkValues_null hnull]
      apply ih
      intro name value hgiven
      exact h name value ((JsonFields.given?_cons_of_null hlt hnull name).trans hgiven)
    | false =>
      have hgiven := JsonFields.given?_cons_of_not_null k rest hnull
      obtain ⟨b, hb⟩ := h k v ((hgiven k).trans (if_pos rfl))
      obtain ⟨others, hok⟩ : ∃ others, q.checkValues rest = .ok others := by
        apply ih
        intro name value hname
        have hne : name ≠ k := (String.ne_of_lt (JsonFields.lt_of_given? hlt hname)).symm
        exact h name value ((hgiven name).trans ((if_neg hne).trans hname))
      rw [checkValues_cons hnull, hb, hok]
      exact ⟨_, rfl⟩

/-! ### The first value that is not -/

/-- Among the given values the one for `name` is the first, in the order of names, that is rejected.
    It is rejected with the error `e`. -/
structure FirstRejected (q : ParameterizedQuery) (values : JsonFields) (name : String)
    (e : ParameterError) : Prop where
  rejected : ∃ value, values.given? name = some value ∧ q.checkValue name value = .error e
  earlier : ∀ other value, other < name → values.given? other = some value →
    ∃ b, q.checkValue other value = .ok b

theorem FirstRejected.unique {other : String} (h : q.FirstRejected values name e)
    (h' : q.FirstRejected values other e') : name = other ∧ e = e' := by
  obtain ⟨value, hgiven, hrejected⟩ := h.rejected
  obtain ⟨value', hgiven', hrejected'⟩ := h'.rejected
  -- whichever comes first would be in order for the other one
  have hle : ¬ name < other := by
    intro hlt
    obtain ⟨b, hb⟩ := h'.earlier name value hlt hgiven
    rw [hrejected] at hb
    cases hb
  have hge : ¬ other < name := by
    intro hlt
    obtain ⟨b, hb⟩ := h.earlier other value' hlt hgiven'
    rw [hrejected'] at hb
    cases hb
  obtain rfl : name = other := String.le_antisymm (String.not_lt.mp hge) (String.not_lt.mp hle)
  obtain rfl := Option.some.inj (hgiven.symm.trans hgiven')
  exact ⟨rfl, Except.error.inj (hrejected.symm.trans hrejected')⟩

theorem firstRejected_of_checkValues (ho : values.Ordered) (h : q.checkValues values = .error e) :
    ∃ name, q.FirstRejected values name e := by
  induction ho with
  | nil => cases h
  | @cons first rest hlt hrest ih =>
    obtain ⟨k, v⟩ := first
    cases hnull : v.isNull with
    | true =>
      rw [checkValues_null hnull] at h
      obtain ⟨name, hfirst⟩ := ih h
      refine ⟨name, ?_, ?_⟩
      · simpa only [JsonFields.given?_cons_of_null hlt hnull] using hfirst.rejected
      · simpa only [JsonFields.given?_cons_of_null hlt hnull] using hfirst.earlier
    | false =>
      have hgiven := JsonFields.given?_cons_of_not_null k rest hnull
      rw [checkValues_cons hnull] at h
      cases hb : q.checkValue k v with
      | error e' =>
        rw [hb] at h
        obtain rfl : e' = e := Except.error.inj h
        refine ⟨k, ⟨v, (hgiven k).trans (if_pos rfl), hb⟩, ?_⟩
        -- nothing is given for a name before this one
        intro other value hother hvalue
        rw [hgiven, if_neg (String.ne_of_lt hother)] at hvalue
        exact absurd hother (String.lt_asymm (JsonFields.lt_of_given? hlt hvalue))
      | ok b =>
        have hrejected : q.checkValues rest = .error e := by
          rw [hb] at h
          cases hrest : q.checkValues rest with
          | ok others =>
            rw [hrest] at h
            cases h
          | error e' =>
            rw [hrest] at h
            exact h
        obtain ⟨name, ⟨value, hvalue, hno⟩, hearlier⟩ := ih hrejected
        have hne : name ≠ k := (String.ne_of_lt (JsonFields.lt_of_given? hlt hvalue)).symm
        refine ⟨name, ⟨value, (hgiven name).trans ((if_neg hne).trans hvalue), hno⟩, ?_⟩
        intro other value' hother hvalue'
        rw [hgiven] at hvalue'
        split at hvalue'
        · next heq =>
          obtain rfl := Option.some.inj hvalue'
          exact ⟨b, heq ▸ hb⟩
        · exact hearlier other value' hother hvalue'

/-- A call fails with the error of the first value that is rejected. -/
theorem checkValues_error_iff (ho : values.Ordered) :
    q.checkValues values = .error e ↔ ∃ name, q.FirstRejected values name e := by
  constructor
  · exact firstRejected_of_checkValues ho
  · rintro ⟨name, hfirst⟩
    cases hcheck : q.checkValues values with
    | ok bound =>
      obtain ⟨value, hgiven, hrejected⟩ := hfirst.rejected
      obtain ⟨b, hb, -⟩ := (lookup_of_checkValues ho hcheck name).1 value hgiven
      rw [hrejected] at hb
      cases hb
    | error e' =>
      obtain ⟨other, hother⟩ := firstRejected_of_checkValues ho hcheck
      rw [(hfirst.unique hother).2]

end ParameterizedQuery

end QueryDispatch
