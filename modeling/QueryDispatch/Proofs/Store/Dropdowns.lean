import QueryDispatch.Proofs.Parameter.Selections
import QueryDispatch.Store.Dropdown

/-! # Values of dropdowns

  A value for a dropdown is compared, as a text, with the entries that the
  store has for the query of the dropdown. So whether it is accepted is told
  by the rows of the latest result alone: the two sides, a cell of a stored
  row and a value that a caller gives, come to the same texts.
-/

namespace QueryDispatch

/-! ### Entries -/

/-- A text is the text of a cell in the column for the values of entries: the first column that is
    named `value`, or the first one at all if there is none of that name. -/
def Table.HasOption (t : Table) (text : String) : Prop :=
  ∃ column, (t.column? "value").or t.columns.head? = some column ∧
    ∃ row ∈ t.rows, cellText (row.cell? column.name) = text

theorem Table.any_dropdown_iff {t : Table} {text : String} :
    t.dropdown.any (·.value == text) = true ↔ t.HasOption text := by
  unfold HasOption dropdown columnOrFirst
  cases hcolumns : t.columns with
  | nil => simp [column?, hcolumns]
  | cons first rest =>
    cases hvalue : t.column? "value" with
    | some column => simp
    | none => simp

/-- The latest result of a saved query is in the store and has a text among its options. -/
def Store.Offers (store : Store) (saved : SavedQuery) (text : String) : Prop :=
  ∃ id result, saved.latestResult = some id ∧ store.get id = .ok (some result) ∧
    result.data.HasOption text

namespace Store

variable {store : Store} {id : QueryId} {saved : SavedQuery} {text : String}

/-- Without a saved query that has a data source a dropdown is detached. -/
theorem dropdown_of_detached
    (h : ∀ saved, store.query id = .ok (some saved) → saved.source = none) :
    store.dropdown id = .error (.detached id) := by
  unfold dropdown
  cases hquery : store.query id with
  | error e => rfl
  | ok found =>
    cases found with
    | none => rfl
    | some saved => simp [h saved hquery]

/-- With one, the entries are what the store offers. They cannot be told if it is out of order. -/
theorem dropdown_of_attached (hquery : store.query id = .ok (some saved))
    (hsource : saved.source.isSome = true) :
    (∃ entries, store.dropdown id = .ok entries ∧
      ∀ text, entries.any (·.value == text) = true ↔ store.Offers saved text) ∨
    store.dropdown id = .error (.detached id) ∧ ∀ text, ¬ store.Offers saved text := by
  have hsome : saved.source.isNone = false := by
    rw [Option.isNone_eq_false_iff]
    exact hsource
  unfold dropdown Offers
  simp only [hquery, hsome, Bool.false_eq_true, if_false]
  cases hlatest : saved.latestResult with
  | none => exact Or.inl ⟨[], rfl, by simp⟩
  | some rid =>
    cases hget : store.get rid with
    | error e =>
      refine Or.inr ⟨by simp only [hget], ?_⟩
      simp [hget]
    | ok found =>
      cases found with
      | none =>
        refine Or.inl ⟨[], by simp only [hget], ?_⟩
        simp [hget]
      | some result =>
        refine Or.inl ⟨result.data.dropdown, by simp only [hget], ?_⟩
        intro text
        rw [Table.any_dropdown_iff]
        simp [hget]

end Store

/-! ### Values of a dropdown -/

namespace ParameterizedQuery

variable {q : ParameterizedQuery} {name : String} {value : Json} {d : ParameterDefinition}
  {id : QueryId} {multi : Option MultiValue} {store : Store}

/-- A call with one value. -/
theorem apply_one (hvalue : value.isNull = false) : q.apply [(name, value)] =
    (q.checkValue name value).map fun b => q.withBindings ((name, b) :: q.bindings) := by
  rw [apply_eq, checkValues_cons hvalue]
  cases q.checkValue name value <;> rfl

theorem checkValue_dropdown (hresolver : q.resolver = some store.dropdown)
    (hd : q.definition? name = some d) (hkind : d.kind = .dropdown id multi) (value : Json) :
    q.checkValue name value = (store.dropdown id).bind fun entries =>
      (select (fun text => entries.any (·.value == text)) multi value).mapError
        (.invalid name) := by
  unfold checkValue
  rw [hd, hresolver]
  simp only [ParameterKind.check, hkind]
  cases store.dropdown id <;> rfl

section attached

variable {entries : List DropdownOption} {text : String} {items : List Json}
  (hresolver : q.resolver = some store.dropdown) (hd : q.definition? name = some d)
  (hkind : d.kind = .dropdown id multi)

include hresolver hd hkind

theorem apply_detached (h : store.dropdown id = .error (.detached id))
    (hvalue : value.isNull = false) : q.apply [(name, value)] = .error (.detached id) := by
  rw [apply_one hvalue, checkValue_dropdown hresolver hd hkind, h]
  rfl

theorem apply_scalar (h : store.dropdown id = .ok entries) (htext : scalarText? value = some text) :
    q.apply [(name, value)] =
      if entries.any (·.value == text) then
        .ok (q.withBindings ((name, .single text) :: q.bindings))
      else .error (.invalid name (.notAllowed text)) := by
  have hvalue := isNull_of_scalarText? htext
  rw [apply_one hvalue, checkValue_dropdown hresolver hd hkind, h]
  show Except.map _ (Except.mapError _ (select _ multi value)) = _
  rw [select_scalar htext]
  split <;> rfl

theorem apply_list_iff {m : MultiValue} (hmulti : multi = some m)
    (h : store.dropdown id = .ok entries) : (∃ next, q.apply [(name, .array items)] = .ok next) ↔
      items ≠ [] ∧ ∀ item ∈ items, ∃ text, scalarText? item = some text ∧
        entries.any (·.value == text) = true := by
  rw [apply_one rfl, checkValue_dropdown hresolver hd hkind, h, hmulti, ← select_list_iff]
  show (∃ next, Except.map _ (Except.mapError _ (select _ (some m) (.array items))) = _) ↔ _
  simp only [map_eq_ok, mapError_eq_ok]
  constructor
  · rintro ⟨_, b, hb, -⟩
    exact ⟨b, hb⟩
  · rintro ⟨b, hb⟩
    exact ⟨_, b, hb, rfl⟩

end attached

/-- Whether a value for a dropdown is accepted is told by the stored rows: a text or a number when
    it is the text of an option, which is then what it is rendered as, and a list of them when each
    would be. Without a query that has a data source nothing is accepted. -/
theorem dropdown_value_accepted (q : ParameterizedQuery) (store : Store) (name : String)
    (d : ParameterDefinition) (id : QueryId) (multi : Option MultiValue)
    (hresolver : q.resolver = some store.dropdown) (hd : q.definition? name = some d)
    (hkind : d.kind = .dropdown id multi) :
    ((∀ saved, store.query id = .ok (some saved) → saved.source = none) →
      ∀ value, value.isNull = false → q.apply [(name, value)] = .error (.detached id)) ∧
    ∀ saved, store.query id = .ok (some saved) → saved.source.isSome = true →
      (∀ value text, scalarText? value = some text →
        ((∃ next, q.apply [(name, value)] = .ok next) ↔ store.Offers saved text) ∧
        ∀ next, q.apply [(name, value)] = .ok next →
          (next.bindings.lookup name).bind (·.render) = some text ∧
            next.text = Template.render q.template next.bindings.text?) ∧
      ∀ m, multi = some m → ∀ items,
        (∃ next, q.apply [(name, .array items)] = .ok next) ↔
          items ≠ [] ∧ ∀ item ∈ items, (scalarText? item).isSome = true ∧
            ∃ next, q.apply [(name, item)] = .ok next := by
  refine ⟨?_, ?_⟩
  · intro hdetached value hvalue
    exact apply_detached hresolver hd hkind (Store.dropdown_of_detached hdetached) hvalue
  intro saved hquery hsource
  rcases Store.dropdown_of_attached hquery hsource with
    ⟨entries, hentries, hoffers⟩ | ⟨hdown, hnone⟩
  · have hscalar : ∀ value text, scalarText? value = some text →
        ((∃ next, q.apply [(name, value)] = .ok next) ↔ entries.any (·.value == text) = true) := by
      intro value text htext
      rw [apply_scalar hresolver hd hkind hentries htext]
      split <;> simp_all
    refine ⟨?_, ?_⟩
    · intro value text htext
      refine ⟨(hscalar value text htext).trans (hoffers text), ?_⟩
      intro next hnext
      rw [apply_scalar hresolver hd hkind hentries htext] at hnext
      split at hnext
      · obtain rfl := Except.ok.inj hnext
        exact ⟨by simp [withBindings, BoundValue.render], rfl⟩
      · cases hnext
    · -- every item is measured as it would be by itself
      intro m hmulti items
      rw [apply_list_iff hresolver hd hkind hmulti hentries]
      refine and_congr_right fun _ => forall₂_congr fun item _ => ?_
      constructor
      · rintro ⟨text, htext, hany⟩
        exact ⟨htext ▸ rfl, (hscalar item text htext).mpr hany⟩
      · rintro ⟨hsome, hnext⟩
        obtain ⟨text, htext⟩ := Option.isSome_iff_exists.mp hsome
        exact ⟨text, htext, (hscalar item text htext).mp hnext⟩
  · -- the latest result cannot be read, and every value is rejected
    have hrejected : ∀ value, value.isNull = false →
        ¬ ∃ next, q.apply [(name, value)] = .ok next := by
      rintro value hvalue ⟨next, hnext⟩
      rw [apply_detached hresolver hd hkind hdown hvalue] at hnext
      cases hnext
    refine ⟨?_, ?_⟩
    · intro value text htext
      have hvalue := isNull_of_scalarText? htext
      refine ⟨iff_of_false (hrejected value hvalue) (hnone text), ?_⟩
      intro next hnext
      exact absurd ⟨next, hnext⟩ (hrejected value hvalue)
    · intro m _ items
      refine iff_of_false (hrejected _ rfl) ?_
      rintro ⟨hne, hitems⟩
      obtain ⟨item, hitem⟩ := List.exists_mem_of_ne_nil items hne
      obtain ⟨hsome, hnext⟩ := hitems item hitem
      obtain ⟨text, htext⟩ := Option.isSome_iff_exists.mp hsome
      exact hrejected item (isNull_of_scalarText? htext) hnext

/-! ### Visits of cities -/

/-- A city with a number. -/
def cities : StoredResult :=
  .of ⟨Uuid.ofNat 7⟩ ⟨1⟩ "SELECT name, value FROM cities"
    ⟨[.plain "name" .string, .plain "value" .integer],
      [⟨[("name", .string "Berlin"), ("value", .int 1)]⟩], none⟩ .epoch (.zero false)

/-- The query that gave the cities. -/
def citiesQuery : SavedQuery := ⟨⟨3⟩, "Cities", some ⟨1⟩, some ⟨Uuid.ofNat 7⟩⟩

/-- The store with this query, and with one that lost its data source. -/
def citiesStore : Store :=
  ⟨⟨[(⟨Uuid.ofNat 7⟩, cities)], [], [(⟨3⟩, citiesQuery), (⟨5⟩, ⟨⟨5⟩, "Orphan", none, none⟩)]⟩, []⟩

/-- Asks for visits of some cities. -/
def visits : ParameterizedQuery :=
  .of "SELECT * FROM visits WHERE city IN ({{ city }})"
    [.plain "city" (.dropdown ⟨3⟩ (some .default)), .plain "pick" (.dropdown ⟨5⟩ none)]
    (some citiesStore.dropdown)

/-- The number of the city is offered, and its name is not. -/
theorem citiesStore_offers (text : String) : citiesStore.Offers citiesQuery text ↔ text = "1" := by
  have hget : citiesStore.get ⟨Uuid.ofNat 7⟩ = .ok (some cities) := rfl
  constructor
  · rintro ⟨_, other, ⟨rfl⟩, hother, column, hcolumn, row, hrow, rfl⟩
    rw [hget] at hother
    obtain rfl := Option.some.inj (Except.ok.inj hother)
    obtain rfl := Option.some.inj hcolumn
    obtain rfl := List.mem_singleton.mp hrow
    decide
  · rintro rfl
    exact ⟨_, cities, rfl, hget, _, rfl, _, List.mem_singleton_self _, by decide⟩

/-- A dropdown of cities takes the number of the city, alone or in a list, and not its name. The one
    on the query without a data source takes nothing. -/
theorem dropdown_value_accepted_cities :
    (∃ next, visits.apply [("city", .string "1")] = .ok next) ∧
      (∃ next, visits.apply [("city", .array [.int 1])] = .ok next) ∧
      ¬ (∃ next, visits.apply [("city", .string "Berlin")] = .ok next) ∧
      visits.apply [("pick", .string "a")] = .error (.detached ⟨5⟩) := by
  obtain ⟨-, hattached⟩ :=
    dropdown_value_accepted visits citiesStore "city" _ ⟨3⟩ (some .default) rfl rfl rfl
  obtain ⟨hdetached, -⟩ :=
    dropdown_value_accepted visits citiesStore "pick" _ ⟨5⟩ none rfl rfl rfl
  obtain ⟨hscalar, hlist⟩ := hattached citiesQuery rfl rfl
  refine ⟨(hscalar _ "1" rfl).1.mpr ((citiesStore_offers _).mpr rfl), ?_, ?_, ?_⟩
  · refine (hlist _ rfl _).mpr ⟨List.cons_ne_nil _ _, ?_⟩
    intro item hitem
    obtain rfl := List.mem_singleton.mp hitem
    exact ⟨rfl, (hscalar (.int 1) "1" (by decide)).1.mpr ((citiesStore_offers _).mpr rfl)⟩
  · intro hnext
    have hoffers := (hscalar _ "Berlin" rfl).1.mp hnext
    exact absurd ((citiesStore_offers _).mp hoffers) (by decide)
  · refine hdetached ?_ _ rfl
    rintro saved hsaved
    obtain rfl := Option.some.inj (Except.ok.inj hsaved)
    rfl

/-- A list with the number of the city is taken, and a list of such lists is not: its item is no
    text and no number. -/
theorem nested_list_refused :
    (∃ next, visits.apply [("city", .array [.string "1"])] = .ok next) ∧
      visits.apply [("city", .array [.array [.string "1"]])] =
        .error (.invalid "city" .notTextList) :=
  ⟨⟨_, rfl⟩, rfl⟩

end ParameterizedQuery

end QueryDispatch
