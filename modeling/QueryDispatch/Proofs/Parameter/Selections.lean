import QueryDispatch.Proofs.Data.Chains
import QueryDispatch.Proofs.Parameter.Histories

/-! # Values from a closed set

  A choice and a dropdown take the texts of a list of options and nothing
  else. Their text goes into the query as it stands, so what counts is that
  every item of a list is measured, wherever it is in the list: then the text
  is made of options and of what the definition of the parameter puts around
  them. One item that is none of the options turns away the call it is in.
-/

namespace QueryDispatch

/-! ### Selecting -/

section selecting

variable {allowed : String → Bool} {multi : Option MultiValue}
  {value : Json} {text : String} {items : List Json}

theorem selectOne_eq_ok_iff (otherwise : InvalidValue) :
    selectOne allowed otherwise value = .ok text ↔
      scalarText? value = some text ∧ allowed text = true := by
  unfold selectOne
  cases scalarText? value with
  | none => simp
  | some found =>
    by_cases hallowed : allowed found = true
    · simp only [hallowed, if_true, Except.ok.injEq, Option.some.injEq]
      constructor
      · rintro rfl
        exact ⟨rfl, hallowed⟩
      · exact And.left
    · simp only [hallowed, if_false, Option.some.injEq, reduceCtorEq, false_iff, not_and]
      rintro rfl
      exact hallowed

theorem isNull_of_scalarText? (h : scalarText? value = some text) : value.isNull = false := by
  cases value with
  | null => cases h
  | _ => rfl

/-- What is no list is selected by itself. -/
theorem select_of_not_array (h : ∀ items, value ≠ .array items) :
    select allowed multi value = (selectOne allowed .notText value).map .single := by
  cases value with
  | array items => exact absurd rfl (h items)
  | _ => rfl

/-- A list is selected item by item. -/
theorem select_array (m : MultiValue) (hitems : items ≠ []) :
    select allowed (some m) (.array items) =
      (items.mapM (selectOne allowed .notTextList)).map (.several · m) := by
  cases items with
  | nil => exact absurd rfl hitems
  | cons first rest => rfl

theorem not_array_of_scalarText? (h : scalarText? value = some text) (items : List Json) :
    value ≠ .array items := by
  intro heq
  rw [heq] at h
  cases h

/-- A text or number is selected as its text. -/
theorem select_scalar (h : scalarText? value = some text) :
    select allowed multi value =
      if allowed text then .ok (.single text) else .error (.notAllowed text) := by
  rw [select_of_not_array (not_array_of_scalarText? h), selectOne, h]
  show Except.map _ (if allowed text = true then _ else _) = _
  split <;> rfl

/-- What is selected as one text is an allowed text or number. -/
theorem of_select_single (h : select allowed multi value = .ok (.single text)) :
    scalarText? value = some text ∧ allowed text = true := by
  by_cases harray : ∃ items, value = .array items
  · obtain ⟨items, rfl⟩ := harray
    cases multi with
    | none => cases h
    | some m =>
      cases items with
      | nil => cases h
      | cons first rest =>
        rw [select_array m (List.cons_ne_nil first rest)] at h
        obtain ⟨texts, -, hseveral⟩ := map_eq_ok.mp h
        cases hseveral
  · rw [select_of_not_array (not_exists.mp harray)] at h
    obtain ⟨option, hoption, hsingle⟩ := map_eq_ok.mp h
    cases hsingle
    exact (selectOne_eq_ok_iff _).mp hoption

/-- Several texts and numbers are selected when each of them is allowed. -/
theorem select_list_iff {m : MultiValue} : (∃ b, select allowed (some m) (.array items) = .ok b) ↔
    items ≠ [] ∧ ∀ item ∈ items, ∃ text, scalarText? item = some text ∧ allowed text = true := by
  by_cases hitems : items = []
  · subst hitems
    simp [select]
  · simp only [← selectOne_eq_ok_iff .notTextList, ← exists_mapM_eq_ok, select_array m hitems,
      map_eq_ok]
    constructor
    · rintro ⟨b, texts, htexts, -⟩
      exact ⟨hitems, texts, htexts⟩
    · rintro ⟨-, texts, htexts⟩
      exact ⟨_, texts, htexts, rfl⟩

/-- Whatever is selected has a text, one value alone or several together. -/
theorem exists_render_of_select {b : BoundValue} (h : select allowed multi value = .ok b) :
    ∃ text, b.render = some text := by
  unfold select at h
  split at h
  · split at h
    · cases h
    · obtain ⟨chosen, -, rfl⟩ := map_eq_ok.mp h
      exact ⟨_, rfl⟩
  · cases h
  · obtain ⟨option, -, rfl⟩ := map_eq_ok.mp h
    exact ⟨_, rfl⟩

end selecting

/-! ### Values and options -/

/-- The value is the text or the number of one of the options. -/
def Json.Names (options : List String) (value : Json) (option : String) : Prop :=
  scalarText? value = some option ∧ option ∈ options

/-- The items of a list; anything else is its only item. -/
def Json.items : Json → List Json
  | .array items => items
  | value => [value]

/-- One of the items is none of the options. -/
def Json.Strays (value : Json) (options : List String) : Prop :=
  ∃ item ∈ value.items, ∀ option, ¬ item.Names options option

/-- The texts one behind the other, at least one of them: each with what stands before and behind
    a value, and the separator in front of every further one. -/
inductive MultiValue.Joins (m : MultiValue) : List String → String → Prop
  | last (text : String) : m.Joins [text] (m.before ++ text ++ m.behind)
  | more (text : String) {rest : List String} {joined : String} (h : m.Joins rest joined) :
      m.Joins (text :: rest) (m.before ++ text ++ m.behind ++ m.separator ++ joined)

/-- The text that a value puts into a query is one option, or it joins the options that the items
    of a list name, in the order of the items. -/
inductive ShowsOptions (options : List String) : Option MultiValue → Json → String → Prop
  | one {multi : Option MultiValue} {value : Json} {option : String}
      (h : value.Names options option) : ShowsOptions options multi value option
  | several {m : MultiValue} {items : List Json} {chosen : List String} {text : String}
      (hitems : List.Forall₂ (Json.Names options) items chosen) (htext : m.Joins chosen text) :
      ShowsOptions options (some m) (.array items) text

/-- The parameter takes these options only: they are given with it, or the resolver answers with
    them. -/
inductive ParameterKind.ClosedSet (resolver : Option DropdownResolver) :
    ParameterKind → List String → Option MultiValue → Prop
  | choice (options : List String) (multi : Option MultiValue) :
      ClosedSet resolver (.choice options multi) options multi
  | dropdown {resolve : DropdownResolver} {query : QueryId} {entries : List DropdownOption}
      (multi : Option MultiValue) (hresolver : resolver = some resolve)
      (hentries : resolve query = .ok entries) :
      ClosedSet resolver (.dropdown query multi) (entries.map (·.value)) multi

/-! ### Joined texts -/

namespace MultiValue

variable {m : MultiValue} {texts : List String} {joined : String}

theorem Joins.ne_nil (h : m.Joins texts joined) : texts ≠ [] := by
  cases h <;> exact List.cons_ne_nil _ _

/-- Texts are joined in one way only, and any text will do. -/
theorem joins_iff : m.Joins texts joined ↔ texts ≠ [] ∧
    joined = m.separator.intercalate (texts.map fun t => m.before ++ t ++ m.behind) := by
  constructor
  · intro h
    refine ⟨h.ne_nil, ?_⟩
    -- the separator stands in front of a rest that is never empty
    induction h with
    | last text => simp
    | more text h ih =>
      obtain ⟨next, rest, rfl⟩ := List.exists_cons_of_ne_nil h.ne_nil
      rw [ih]
      simp [String.append_assoc]
  · rintro ⟨hne, rfl⟩
    induction texts with
    | nil => exact absurd rfl hne
    | cons text rest ih =>
      cases rest with
      | nil => simpa using Joins.last text
      | cons next rest =>
        have hmore := Joins.more text (ih (List.cons_ne_nil next rest))
        simpa [String.append_assoc] using hmore

end MultiValue

/-! ### What a closed set lets through -/

section closed

variable {options : List String} {multi : Option MultiValue} {value : Json} {text name : String}
  {resolver : Option DropdownResolver} {kind : ParameterKind}

theorem selectOne_eq_ok_iff_names (otherwise : InvalidValue) :
    selectOne (fun v => options.contains v) otherwise value = .ok text ↔
      value.Names options text := by
  rw [selectOne_eq_ok_iff, List.contains_iff_mem, Json.Names]

/-- Something is selected from the options when the value shows as some of them. -/
theorem exists_select_iff_shows :
    (∃ b, select (fun v => options.contains v) multi value = .ok b ∧ b.render = some text) ↔
      ShowsOptions options multi value text := by
  constructor
  · rintro ⟨b, hb, htext⟩
    -- a list is for a parameter with several values, and not empty; the rest is one value
    cases value with
    | array items =>
      cases multi with
      | none => cases hb
      | some m =>
        have hitems : items ≠ [] := by
          rintro rfl
          cases hb
        rw [select_array m hitems] at hb
        obtain ⟨chosen, hchosen, rfl⟩ := map_eq_ok.mp hb
        simp only [mapM_eq_ok_iff, selectOne_eq_ok_iff_names] at hchosen
        refine .several hchosen (MultiValue.joins_iff.mpr ⟨?_, (Option.some.inj htext).symm⟩)
        rintro rfl
        exact hitems (List.forall₂_nil_right_iff.mp hchosen)
    | _ =>
      rw [select_of_not_array (by simp)] at hb
      obtain ⟨option, hoption, rfl⟩ := map_eq_ok.mp hb
      obtain rfl := Option.some.inj htext
      exact .one ((selectOne_eq_ok_iff_names _).mp hoption)
  · intro h
    cases h with
    | one hnames =>
      rw [select_of_not_array (not_array_of_scalarText? hnames.1),
        (selectOne_eq_ok_iff_names _).mpr hnames]
      exact ⟨_, rfl, rfl⟩
    | @several m items chosen _ hchosen hjoins =>
      obtain ⟨hne, rfl⟩ := MultiValue.joins_iff.mp hjoins
      have hitems : items ≠ [] := by
        rintro rfl
        exact hne (List.forall₂_nil_left_iff.mp hchosen)
      have hmap : items.mapM (selectOne (fun v => options.contains v) .notTextList) =
          .ok chosen := by
        simp only [mapM_eq_ok_iff, selectOne_eq_ok_iff_names]
        exact hchosen
      rw [select_array m hitems, hmap]
      exact ⟨_, rfl, rfl⟩

/-- A value with an item that is none of the options shows as no text. -/
theorem ShowsOptions.not_strays (h : ShowsOptions options multi value text) :
    ¬ value.Strays options := by
  rintro ⟨item, hitem, hstray⟩
  cases h with
  | one hnames =>
    cases value with
    | array items => cases hnames.1
    | _ =>
      obtain rfl := List.mem_singleton.mp hitem
      exact hstray _ hnames
  | @several m items chosen _ hchosen _ =>
    have hboth : List.Forall₂ (fun (item : Json) chosen =>
        (∃ option, item.Names options option) ∧ item.Names options chosen) items chosen :=
      hchosen.imp fun _ option hnames => ⟨⟨option, hnames⟩, hnames⟩
    obtain ⟨hall, -⟩ := (List.forall₂_and_left _ _).mp hboth
    obtain ⟨option, hnames⟩ := hall item hitem
    exact hstray option hnames

/-- A check against a closed set is the selection from its options. -/
theorem ParameterKind.ClosedSet.check_eq (h : kind.ClosedSet resolver options multi) :
    kind.check name value resolver =
      (select (fun v => options.contains v) multi value).mapError (.invalid name) := by
  cases h with
  | choice => rfl
  | @dropdown resolve query entries multi hresolver hentries =>
    have hany : (fun v => entries.any (·.value == v)) =
        fun v => (entries.map (·.value)).contains v := by
      funext v
      rw [Bool.eq_iff_iff]
      simp
    simp only [check, hresolver, hentries, hany]

end closed

/-! ### Calls -/

namespace ParameterizedQuery

variable {q : ParameterizedQuery} {values : JsonFields} {name : String} {value : Json}
  {e : ParameterError}

/-- One rejected value turns away the call it is in, and the query stays as it was. -/
theorem apply_of_rejected (hmem : (name, value) ∈ values) (hvalue : value.isNull = false)
    (h : q.checkValue name value = .error e) :
    ∃ e, q.apply values = .error e ∧ q.attempt values = q := by
  have hrejected : ∃ e, q.checkValues values = .error e := by
    -- a value in front of it may be rejected first, so the error may be another one
    induction values with
    | nil => cases hmem
    | cons first rest ih =>
      obtain ⟨k, v⟩ := first
      cases hnull : v.isNull with
      | true =>
        rw [checkValues_null hnull]
        apply ih
        refine (List.mem_cons.mp hmem).resolve_left ?_
        rintro ⟨⟩
        rw [hnull] at hvalue
        cases hvalue
      | false =>
        rw [checkValues_cons hnull]
        rcases List.mem_cons.mp hmem with hfirst | hrest
        · cases hfirst
          rw [h]
          exact ⟨e, rfl⟩
        · obtain ⟨e', he'⟩ := ih hrest
          rw [he']
          cases q.checkValue k v with
          | error e => exact ⟨e, rfl⟩
          | ok b => exact ⟨e', rfl⟩
  obtain ⟨e', he'⟩ := hrejected
  have ha := apply_error_iff.mpr he'
  exact ⟨e', ha, attempt_of_error ha⟩

/-- A parameter with a closed set takes the values that show as options, one or several joined, and
    binds them to a text made so. A value with an item that is none of the options is rejected, and
    every call with it leaves the query as it was. -/
theorem closed_set_binds_options (q : ParameterizedQuery) (name : String) (value : Json)
    (d : ParameterDefinition) (options : List String) (multi : Option MultiValue)
    (hd : q.definition? name = some d) (hclosed : d.kind.ClosedSet q.resolver options multi) :
    (∀ b, q.checkValue name value = .ok b →
      ∃ text, b.render = some text ∧ ShowsOptions options multi value text) ∧
    (∀ text, ShowsOptions options multi value text →
      ∃ b, q.checkValue name value = .ok b ∧ b.render = some text) ∧
    (∀ values next, values.Ordered → values.given? name = some value →
      q.apply values = .ok next →
      ∃ text, (next.bindings.lookup name).bind (·.render) = some text ∧
        ShowsOptions options multi value text ∧
        next.text = Template.render q.template next.bindings.text?) ∧
    (value.Strays options →
      (∃ reason, q.checkValue name value = .error (.invalid name reason)) ∧
      ∀ values : JsonFields, (name, value) ∈ values → value.isNull = false →
        ∃ e, q.apply values = .error e ∧ q.attempt values = q) := by
  have hcheck : q.checkValue name value =
      (select (fun v => options.contains v) multi value).mapError (.invalid name) := by
    unfold checkValue
    rw [hd]
    exact hclosed.check_eq
  have hshows : ∀ text, (∃ b, q.checkValue name value = .ok b ∧ b.render = some text) ↔
      ShowsOptions options multi value text := by
    intro text
    rw [hcheck, ← exists_select_iff_shows]
    simp only [mapError_eq_ok]
  have htext : ∀ b, q.checkValue name value = .ok b →
      ∃ text, b.render = some text ∧ ShowsOptions options multi value text := by
    intro b hb
    obtain ⟨text, hrender⟩ : ∃ text, b.render = some text := by
      rw [hcheck, mapError_eq_ok] at hb
      exact exists_render_of_select hb
    exact ⟨text, hrender, (hshows text).mp ⟨b, hb, hrender⟩⟩
  refine ⟨htext, fun text => (hshows text).mpr, ?_, ?_⟩
  · -- a call binds the checked form in front of what was bound before
    intro values next ho hgiven ha
    rw [apply_eq] at ha
    obtain ⟨bound, hbound, rfl⟩ := map_eq_ok.mp ha
    obtain ⟨b, hb, hlookup⟩ := (lookup_of_checkValues ho hbound name).1 value hgiven
    obtain ⟨text, hrender, hshown⟩ := htext b hb
    refine ⟨text, ?_, hshown, rfl⟩
    show ((bound ++ q.bindings).lookup name).bind _ = _
    rw [List.lookup_append, hlookup]
    exact hrender
  · -- were the value selected, its text would show it as options
    intro hstrays
    obtain ⟨reason, hreason⟩ :
        ∃ reason, q.checkValue name value = .error (.invalid name reason) := by
      rw [hcheck]
      cases hselect : select (fun v => options.contains v) multi value with
      | error reason => exact ⟨reason, rfl⟩
      | ok b =>
        have hb : q.checkValue name value = .ok b := by
          rw [hcheck, hselect]
          rfl
        obtain ⟨text, -, hshown⟩ := htext b hb
        exact absurd hstrays hshown.not_strays
    refine ⟨⟨reason, hreason⟩, ?_⟩
    intro values hmem hvalue
    exact apply_of_rejected hmem hvalue hreason

/-- Colours of which several may be chosen, each in quotes. -/
theorem closed_set_binds_colours :
    let quoted : MultiValue := ⟨"'", "'", ", "⟩
    let q : ParameterizedQuery := .of "SELECT * FROM cars WHERE colour IN (\x7b\x7b c \x7d\x7d)"
      [.plain "c" (.choice ["red", "blue"] (some quoted))] none
    ShowsOptions ["red", "blue"] (some quoted) (.array [.string "blue", .string "red"])
        "'blue', 'red'" ∧
      (∃ b, q.checkValue "c" (.array [.string "blue", .string "red"]) = .ok b ∧
        b.render = some "'blue', 'red'") ∧
      ∃ e, q.apply [("c", .array [.string "red", .string "') OR ('' = '"])] = .error e ∧
        q.attempt [("c", .array [.string "red", .string "') OR ('' = '"])] = q := by
  intro quoted q
  have hshown : ShowsOptions ["red", "blue"] (some quoted)
      (.array [.string "blue", .string "red"]) "'blue', 'red'" :=
    .several (.cons ⟨rfl, by decide⟩ (.cons ⟨rfl, by decide⟩ .nil)) (.more "blue" (.last "red"))
  have hstrays : (Json.array [.string "red", .string "') OR ('' = '"]).Strays ["red", "blue"] := by
    refine ⟨.string "') OR ('' = '", by decide, ?_⟩
    rintro option ⟨htext, hoption⟩
    obtain rfl := Option.some.inj htext
    exact absurd hoption (by decide)
  obtain ⟨-, htaken, -⟩ := closed_set_binds_options q "c"
    (.array [.string "blue", .string "red"]) _ _ _ rfl (.choice _ _)
  obtain ⟨-, -, -, hturned⟩ := closed_set_binds_options q "c"
    (.array [.string "red", .string "') OR ('' = '"]) _ _ _ rfl (.choice _ _)
  exact ⟨hshown, htaken _ hshown, (hturned hstrays).2 _ (List.mem_singleton_self _) rfl⟩

end ParameterizedQuery

end QueryDispatch
