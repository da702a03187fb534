import QueryDispatch.Proofs.Parameter.Histories

/-! # Queries that show nothing of others

  Dropdowns are the only parameters that ask for the data of other queries. A
  query that declares none is safe: its calls come to the same whatever there
  is behind a dropdown, and if there is nothing at all.
-/

namespace QueryDispatch

/-! ### One value -/

/-- Only dropdowns ask a resolver. -/
theorem ParameterKind.check_resolver {kind : ParameterKind} (h : kind.isReferential = false)
    (name : String) (value : Json) (resolver resolver' : Option DropdownResolver) :
    kind.check name value resolver = kind.check name value resolver' := by
  cases kind with
  | dropdown query multi => cases h
  | _ => rfl

namespace ParameterizedQuery

variable {q q' next : ParameterizedQuery} {values : JsonFields} {calls : List JsonFields}
  {e : ParameterError}

/-- The query with another resolver. -/
def withResolver (q : ParameterizedQuery) (resolver : Option DropdownResolver) :
    ParameterizedQuery := { q with resolver }

/-- A safe query declares no dropdown. -/
theorem not_referential (h : q.isSafe = true) {name : String} {d : ParameterDefinition}
    (hd : q.definition? name = some d) : d.kind.isReferential = false := by
  have hall := List.all_eq_true.mp h d (List.mem_of_find?_eq_some hd)
  simpa using hall

theorem checkValue_withResolver (h : q.isSafe = true) (resolver : Option DropdownResolver) :
    (q.withResolver resolver).checkValue = q.checkValue := by
  funext name value
  have hdefinition : (q.withResolver resolver).definition? name = q.definition? name := rfl
  unfold checkValue
  rw [hdefinition]
  cases hd : q.definition? name with
  | none => rfl
  | some d => exact d.kind.check_resolver (not_referential h hd) name value resolver q.resolver

/-! ### One call -/

theorem checkValues_congr (h : q.checkValue = q'.checkValue) (values : JsonFields) :
    q.checkValues values = q'.checkValues values := by
  induction values with
  | nil => rfl
  | cons first rest ih =>
    obtain ⟨name, value⟩ := first
    cases hnull : value.isNull with
    | true => rw [checkValues_null hnull, checkValues_null hnull, ih]
    | false => rw [checkValues_cons hnull, checkValues_cons hnull, ih, h]

/-- A call to a safe query does the same with any resolver. -/
theorem apply_withResolver (h : q.isSafe = true) (resolver : Option DropdownResolver)
    (values : JsonFields) :
    (q.withResolver resolver).apply values = (q.apply values).map (·.withResolver resolver) := by
  rw [apply_eq, apply_eq, checkValues_congr (checkValue_withResolver h resolver)]
  cases q.checkValues values <;> rfl

/-- No call makes a safe query unsafe. -/
theorem isSafe_of_apply (h : q.isSafe = true) (ha : q.apply values = .ok next) :
    next.isSafe = true := by
  rw [apply_eq] at ha
  obtain ⟨bound, -, rfl⟩ := map_eq_ok.mp ha
  exact h

/-! ### Many calls -/

/-- What the calls report in turn: nothing, or why they are rejected. -/
def reports (q : ParameterizedQuery) : List JsonFields → List (Option ParameterError)
  | [] => []
  | values :: rest =>
    match q.apply values with
    | .ok next => none :: next.reports rest
    | .error e => some e :: q.reports rest

theorem reports_of_ok (ha : q.apply values = .ok next) (rest : List JsonFields) :
    q.reports (values :: rest) = none :: next.reports rest := by
  rw [reports, ha]

theorem reports_of_error (ha : q.apply values = .error e) (rest : List JsonFields) :
    q.reports (values :: rest) = some e :: q.reports rest := by
  rw [reports, ha]

/-- The calls to a safe query report the same with any resolver, and leave the same query. -/
theorem calls_withResolver (h : q.isSafe = true) (resolver : Option DropdownResolver)
    (calls : List JsonFields) :
    (q.withResolver resolver).reports calls = q.reports calls ∧
      (q.withResolver resolver).afterCalls calls =
        (q.afterCalls calls).withResolver resolver := by
  induction calls generalizing q with
  | nil => exact ⟨rfl, rfl⟩
  | cons values rest ih =>
    have hother := apply_withResolver h resolver values
    cases ha : q.apply values with
    | error e =>
      rw [ha] at hother
      have ha' : (q.withResolver resolver).apply values = .error e := hother
      obtain ⟨hreports, hafter⟩ := ih h
      rw [reports_of_error ha, reports_of_error ha', afterCalls_cons, afterCalls_cons,
        attempt_of_error ha, attempt_of_error ha', hreports]
      exact ⟨rfl, hafter⟩
    | ok next =>
      rw [ha] at hother
      have ha' : (q.withResolver resolver).apply values = .ok (next.withResolver resolver) := hother
      obtain ⟨hreports, hafter⟩ := ih (isSafe_of_apply h ha)
      rw [reports_of_ok ha, reports_of_ok ha', afterCalls_cons, afterCalls_cons,
        attempt_of_ok ha, attempt_of_ok ha', hreports]
      exact ⟨rfl, hafter⟩

end ParameterizedQuery

end QueryDispatch
