import QueryDispatch.Proofs.Parameter.Checks

/-! # Queries after many calls

  A query is filled in by calls, some of which are rejected. What it has come
  to is told by the accepted ones alone: each name has the checked form of the
  value given last, and the text is rendered from these. So the query is the
  same as after one call with all values that were accepted.
-/

namespace QueryDispatch

/-! ### Rendering -/

namespace Template

/-- The text that the segments of a template were cut from. -/
theorem flatMap_segments (s : List Char) :
    (segments s).flatMap (·.render fun _ => none) = s := by
  -- by the recursion of the cuts: nothing opens, nothing closes, or a placeholder stands in front
  fun_induction segments s with
  | case1 s hopen => simp [Segment.render]
  | case2 s before behind hopen hclose => simp [Segment.render]
  | case3 s before behind hopen content rest hclose ih =>
    have hbehind := eq_of_cutAt? hclose
    have hs := eq_of_cutAt? hopen
    rw [List.flatMap_cons, List.flatMap_cons, ih, hs, hbehind]
    simp [Segment.render]

/-- Without values a template stays as it is. -/
theorem render_none (template : String) : render template (fun _ => none) = template := by
  unfold render
  rw [flatMap_segments, String.ofList_toList]

end Template

/-- The text for a placeholder depends on what the names are bound to, and on nothing else. -/
theorem Bindings.text?_congr {bindings others : Bindings}
    (h : ∀ name, bindings.lookup name = others.lookup name) : bindings.text? = others.text? := by
  funext placeholder
  unfold text?
  simp only [h]

theorem Bindings.text?_nil : Bindings.text? [] = fun _ => none := by
  funext placeholder
  unfold text?
  split <;> rfl

/-! ### Calls -/

namespace ParameterizedQuery

variable {q q' : ParameterizedQuery} {values : JsonFields} {calls : List JsonFields}
  {name : String} {value : Json} {e : ParameterError} {last last' : String → Option Json}

theorem apply_eq (q : ParameterizedQuery) (values : JsonFields) :
    q.apply values =
      (q.checkValues values).map fun bound => q.withBindings (bound ++ q.bindings) := by
  unfold apply
  cases q.checkValues values <;> rfl

theorem apply_error_iff : q.apply values = .error e ↔ q.checkValues values = .error e := by
  rw [apply_eq]
  cases q.checkValues values <;> simp [Except.map]

/-- What a query is after a call: a rejected call leaves it as it was. -/
def attempt (q : ParameterizedQuery) (values : JsonFields) : ParameterizedQuery :=
  match q.apply values with
  | .ok next => next
  | .error _ => q

/-- What a query is after several calls, the first one first. -/
def afterCalls (q : ParameterizedQuery) (calls : List JsonFields) : ParameterizedQuery :=
  calls.foldl attempt q

/-- The calls that are accepted, in their order. -/
def accepted (q : ParameterizedQuery) : List JsonFields → List JsonFields
  | [] => []
  | values :: rest =>
    match q.apply values with
    | .ok next => values :: next.accepted rest
    | .error _ => q.accepted rest

theorem attempt_of_ok (ha : q.apply values = .ok q') : q.attempt values = q' := by
  unfold attempt
  rw [ha]

theorem attempt_of_error (ha : q.apply values = .error e) : q.attempt values = q := by
  unfold attempt
  rw [ha]

theorem afterCalls_cons (q : ParameterizedQuery) (values : JsonFields)
    (rest : List JsonFields) :
    q.afterCalls (values :: rest) = (q.attempt values).afterCalls rest := rfl

theorem accepted_of_ok (ha : q.apply values = .ok q') (rest : List JsonFields) :
    q.accepted (values :: rest) = values :: q'.accepted rest := by
  rw [accepted, ha]

theorem accepted_of_error (ha : q.apply values = .error e) (rest : List JsonFields) :
    q.accepted (values :: rest) = q.accepted rest := by
  rw [accepted, ha]

/-- The value that is given last for a name, among the values of some calls. -/
def lastGiven : List JsonFields → String → Option Json
  | [], _ => none
  | values :: rest, name => (lastGiven rest name).or (values.given? name)

/-- The values of some calls as those of one: later values win, and `null` gives none. -/
def merged (calls : List JsonFields) : JsonFields :=
  .ofEntries (calls.flatMap fun values => values.filter fun (_, value) => !value.isNull)

/-! ### What a query holds -/

/-- The query was made from this template and these parameters, it holds these values and no other
    ones, each in its checked form, and its text is that of its bindings. -/
structure Holds (q start : ParameterizedQuery) (last : String → Option Json) : Prop where
  template_eq : q.template = start.template
  definitions_eq : q.definitions = start.definitions
  resolver_eq : q.resolver = start.resolver
  text_eq : q.text = Template.render start.template q.bindings.text?
  bound : ∀ name value, last name = some value →
    ∃ b, start.checkValue name value = .ok b ∧ q.bindings.lookup name = some b
  unbound : ∀ name, last name = none → q.bindings.lookup name = none

/-- The same query, whatever the order in which its values were bound. -/
structure Same (q q' : ParameterizedQuery) : Prop where
  template_eq : q.template = q'.template
  definitions_eq : q.definitions = q'.definitions
  resolver_eq : q.resolver = q'.resolver
  text_eq : q.text = q'.text
  lookup_eq : ∀ name, q.bindings.lookup name = q'.bindings.lookup name

theorem checkValue_congr (hd : q.definitions = q'.definitions) (hr : q.resolver = q'.resolver) :
    q.checkValue = q'.checkValue := by
  funext name value
  unfold checkValue definition?
  rw [hd, hr]

namespace Holds

variable {start : ParameterizedQuery}

theorem checkValue_eq (h : q.Holds start last) : q.checkValue = start.checkValue :=
  checkValue_congr h.definitions_eq h.resolver_eq

/-- A new query holds no values. -/
theorem of (template : String) (definitions : List ParameterDefinition)
    (resolver : Option DropdownResolver) :
    (of template definitions resolver).Holds (.of template definitions resolver)
      fun _ => none where
  template_eq := rfl
  definitions_eq := rfl
  resolver_eq := rfl
  text_eq := by
    have hnone := Template.render_none template
    rw [← Bindings.text?_nil] at hnone
    exact hnone.symm
  bound name value hlast := by cases hlast
  unbound _ _ := rfl

/-- What a query holds decides what it is. -/
theorem same (h : q.Holds start last) (h' : q'.Holds start last) : q.Same q' := by
  have hlookup : ∀ name, q.bindings.lookup name = q'.bindings.lookup name := by
    intro name
    cases hlast : last name with
    | none => rw [h.unbound name hlast, h'.unbound name hlast]
    | some value =>
      obtain ⟨b, hb, hbound⟩ := h.bound name value hlast
      obtain ⟨b', hb', hbound'⟩ := h'.bound name value hlast
      rw [hbound, hbound', Except.ok.inj (hb.symm.trans hb')]
  refine ⟨h.template_eq.trans h'.template_eq.symm, h.definitions_eq.trans h'.definitions_eq.symm,
    h.resolver_eq.trans h'.resolver_eq.symm, ?_, hlookup⟩
  rw [h.text_eq, h'.text_eq, Bindings.text?_congr hlookup]

/-- The names without a value are the missing ones. -/
theorem missing_eq (h : q.Holds start last) :
    q.missing = (start.definitions.filter fun d => (last d.name).isNone).map (·.name) := by
  have hsame : ∀ name, (q.bindings.lookup name).isNone = (last name).isNone := by
    intro name
    cases hlast : last name with
    | none =>
      rw [h.unbound name hlast]
      rfl
    | some value =>
      obtain ⟨b, -, hbound⟩ := h.bound name value hlast
      rw [hbound]
      rfl
  unfold missing
  simp only [hsame, h.definitions_eq]

/-- A call that is accepted adds its values to those that are there. -/
theorem apply (h : q.Holds start last) (ho : values.Ordered) (ha : q.apply values = .ok q') :
    q'.Holds start fun name => (values.given? name).or (last name) := by
  rw [apply_eq] at ha
  obtain ⟨bound, hcheck, rfl⟩ := map_eq_ok.mp ha
  have hbound := lookup_of_checkValues ho hcheck
  refine ⟨h.template_eq, h.definitions_eq, h.resolver_eq, ?_, ?_, ?_⟩
  · show Template.render q.template _ = _
    rw [h.template_eq]
    rfl
  · intro name value hlast
    show ∃ b, _ ∧ (bound ++ q.bindings).lookup name = some b
    rw [List.lookup_append]
    cases hgiven : values.given? name with
    | none =>
      rw [hgiven] at hlast
      obtain ⟨b, hb, hold⟩ := h.bound name value hlast
      exact ⟨b, hb, by rw [(hbound name).2 hgiven, hold]; rfl⟩
    | some new =>
      rw [hgiven] at hlast
      obtain rfl := Option.some.inj hlast
      obtain ⟨b, hb, hnew⟩ := (hbound name).1 new hgiven
      exact ⟨b, by rw [← h.checkValue_eq, hb], by rw [hnew]; rfl⟩
  · intro name hlast
    show (bound ++ q.bindings).lookup name = none
    obtain ⟨hgiven, hold⟩ := Option.or_eq_none_iff.mp hlast
    rw [List.lookup_append, (hbound name).2 hgiven, h.unbound name hold]
    rfl

/-- So the values of all accepted calls are there in the end, later ones in front. -/
theorem afterCalls (h : q.Holds start last) (ho : ∀ values ∈ calls, values.Ordered) :
    (q.afterCalls calls).Holds start fun name =>
      (lastGiven (q.accepted calls) name).or (last name) := by
  induction calls generalizing q last with
  | nil => exact h
  | cons values rest ih =>
    have hrest : ∀ values ∈ rest, values.Ordered := fun v hv => ho v (List.mem_cons_of_mem _ hv)
    have hvalues : values.Ordered := ho values List.mem_cons_self
    cases ha : q.apply values with
    | error e =>
      rw [afterCalls_cons, attempt_of_error ha, accepted_of_error ha]
      exact ih h hrest
    | ok next =>
      rw [afterCalls_cons, attempt_of_ok ha, accepted_of_ok ha]
      simp only [lastGiven, Option.or_assoc]
      exact ih (h.apply hvalues ha) hrest

end Holds

/-! ### All values in one call -/

/-- The fields that are not `null` are those that are given. -/
theorem get?_filter (ho : values.Ordered) (name : String) :
    JsonFields.get? (values.filter fun (_, value) => !value.isNull) name = values.given? name := by
  induction ho with
  | nil => rfl
  | @cons first rest hlt hrest ih =>
    obtain ⟨k, v⟩ := first
    cases hnull : v.isNull with
    | true => simpa [hnull, JsonFields.given?_cons_of_null hlt hnull] using ih
    | false =>
      rw [JsonFields.given?_cons_of_not_null k rest hnull]
      simp [hnull, JsonFields.get?_cons, ih]

theorem get?_insertAll_flatMap (ho : ∀ values ∈ calls, values.Ordered) (fields : JsonFields)
    (name : String) :
    (fields.insertAll (calls.flatMap fun values =>
        values.filter fun (_, value) => !value.isNull)).get? name =
      (lastGiven calls name).or (fields.get? name) := by
  induction calls generalizing fields with
  | nil => rfl
  | cons values rest ih =>
    have hrest : ∀ values ∈ rest, values.Ordered := fun v hv => ho v (List.mem_cons_of_mem _ hv)
    have hvalues : values.Ordered := ho values List.mem_cons_self
    have hfilter : JsonFields.Ordered (values.filter fun (_, value) => !value.isNull) :=
      List.Pairwise.filter _ hvalues
    rw [List.flatMap_cons, JsonFields.insertAll_append, ih hrest,
      JsonFields.get?_insertAll hfilter, get?_filter hvalues, lastGiven, Option.or_assoc]

theorem not_null_of_lastGiven (h : lastGiven calls name = some value) : value.isNull = false := by
  induction calls with
  | nil => cases h
  | cons values rest ih =>
    rcases Option.or_eq_some_iff.mp h with hlater | ⟨-, hgiven⟩
    · exact ih hlater
    · simpa using (Option.filter_eq_some_iff.mp hgiven).2

/-- One call with all values gives for each name what was given last. -/
theorem given?_merged (ho : ∀ values ∈ calls, values.Ordered) (name : String) :
    (merged calls).given? name = lastGiven calls name := by
  have hget : (merged calls).get? name = (lastGiven calls name).or none :=
    get?_insertAll_flatMap ho [] name
  unfold JsonFields.given?
  rw [hget, Option.or_none]
  cases hlast : lastGiven calls name with
  | none => rfl
  | some value => simp [not_null_of_lastGiven hlast]

theorem mem_of_accepted (h : values ∈ q.accepted calls) : values ∈ calls := by
  induction calls generalizing q with
  | nil => cases h
  | cons first rest ih =>
    unfold accepted at h
    split at h
    · rcases List.mem_cons.mp h with rfl | h
      · exact List.mem_cons_self
      · exact List.mem_cons_of_mem _ (ih h)
    · exact List.mem_cons_of_mem _ (ih h)

/-- The state of a query after any calls. Its text is that of its bindings; a name is bound to the
    checked form of the value that an accepted call gave for it last; the missing names are those
    that no accepted call gave a value for. A call that is rejected fails with the error of its
    first bad value, and leaves the query. One call with all accepted values does the same as all
    those calls. -/
theorem state_after_calls (template : String) (definitions : List ParameterDefinition)
    (resolver : Option DropdownResolver) (ho : ∀ values ∈ calls, values.Ordered) :
    let start := of template definitions resolver
    let q := start.afterCalls calls
    let last := lastGiven (start.accepted calls)
    q.text = Template.render template q.bindings.text? ∧
    (∀ name value, last name = some value →
      ∃ b, start.checkValue name value = .ok b ∧ q.bindings.lookup name = some b) ∧
    (∀ name, last name = none → q.bindings.lookup name = none) ∧
    q.missing = (definitions.filter fun d => (last d.name).isNone).map (·.name) ∧
    (∀ values e, values.Ordered →
      (q.apply values = .error e ↔ ∃ name, q.FirstRejected values name e) ∧
      (q.apply values = .error e → q.attempt values = q)) ∧
    ∃ once, start.apply (merged (start.accepted calls)) = .ok once ∧ q.Same once := by
  intro start q last
  have hstart : start.Holds start fun _ => none := Holds.of template definitions resolver
  have hq : q.Holds start last := by
    have hall := hstart.afterCalls ho
    simpa only [Option.or_none] using hall
  have haccepted : ∀ values ∈ start.accepted calls, values.Ordered :=
    fun values hmem => ho values (mem_of_accepted hmem)
  have hgiven : ∀ name, (merged (start.accepted calls)).given? name = last name :=
    given?_merged haccepted
  have hmerged : (merged (start.accepted calls)).Ordered := JsonFields.ofEntries_ordered _
  refine ⟨hq.text_eq, hq.bound, hq.unbound, hq.missing_eq, ?_, ?_⟩
  · intro values e hvalues
    constructor
    · rw [apply_error_iff]
      exact checkValues_error_iff hvalues
    · exact attempt_of_error
  · -- all values that were accepted are in order, so the one call is accepted too
    obtain ⟨bound, hcheck⟩ := checkValues_ok hmerged fun name value hvalue => by
      obtain ⟨b, hb, -⟩ := hq.bound name value ((hgiven name).symm.trans hvalue)
      exact ⟨b, hb⟩
    have ha : start.apply (merged (start.accepted calls)) =
        .ok (start.withBindings (bound ++ start.bindings)) := by
      rw [apply_eq, hcheck]
      rfl
    have honce := hstart.apply hmerged ha
    simp only [hgiven, Option.or_none] at honce
    exact ⟨_, ha, hq.same honce⟩

/-- A template with one placeholder. -/
def someTemplate : String := "SELECT \x7b\x7b a \x7d\x7d"

/-- Two parameters that take texts. -/
def someParameters : List ParameterDefinition := [.plain "a" .text, .plain "b" .text]

/-- Some calls, of which the second one is rejected. -/
def someCalls : List JsonFields :=
  [[("a", .string "x")], [("a", .string "y"), ("b", .bool true)], [("a", .null)]]

/-- What the first call gave is there in the end. -/
theorem state_after_some_calls :
    let q := (of someTemplate someParameters none).afterCalls someCalls
    q.bindings.lookup "a" = some (.single "x") ∧ q.missing = ["b"] := by
  intro q
  have ho : ∀ values ∈ someCalls, values.Ordered := by
    unfold someCalls JsonFields.Ordered
    decide
  obtain ⟨-, hbound, -, hmissing, -⟩ :=
    state_after_calls someTemplate someParameters none ho
  have haccepted : accepted (of someTemplate someParameters none) someCalls =
      [[("a", .string "x")], [("a", .null)]] := rfl
  rw [haccepted] at hbound hmissing
  obtain ⟨b, hb, hlookup⟩ := hbound "a" (.string "x") rfl
  refine ⟨?_, hmissing⟩
  rw [hlookup, ← Except.ok.inj hb]

end ParameterizedQuery

end QueryDispatch
