import QueryDispatch.Proofs.Data.Chains
import QueryDispatch.Proofs.Json.Entries
import QueryDispatch.TimeSeries.Samples

/-! # Rows and samples

  A table of series has one row for each sample, series by series, or there is
  no table at all. A row shows the time and value of its sample, and the labels
  of its series everywhere else: a label that is called like one of these two
  cells is not seen.
-/

namespace QueryDispatch

namespace Row

theorem cell?_set (row : Row) (column : String) (value : Json) (name : String) :
    (row.set column value).cell? name = if name = column then some value else row.cell? name :=
  JsonFields.get?_insert column value row.cells name

end Row

namespace Series

variable {first series sample : Json} {rest samples : List Json} {shape : SeriesShape} {t : Table}
  {row : Row}

/-! ### Samples -/

/-- The form that a first series has. -/
def formOf (first : Json) : SeriesShape := if (first.get? "values").isSome then .range else .single

/-- The samples of a series in a form. -/
inductive Sampled (series : Json) : SeriesShape → List Json → Prop
  | range {samples : List Json} (h : series.get? "values" = some (.array samples)) :
    Sampled series .range samples
  | single {sample : Json} (h : series.get? "value" = some sample) :
    Sampled series .single [sample]

/-- A sample is a pair of a time, which has a text, and a value. -/
def IsSample (sample : Json) (text : String) (value : Json) : Prop :=
  ∃ time, sample = .array [time, value] ∧ timeText time = .ok text

/-- The row of a sample in a series, cell by cell. -/
def IsRow (series sample : Json) (row : Row) : Prop :=
  ∃ text value, IsSample sample text value ∧ ∀ name, row.cell? name =
    if name = "value" then some value
    else if name = "timestamp" then some (.string text)
    else (labels series).get? name

theorem samples_eq_ok_iff :
    Series.samples shape series = .ok samples ↔ Sampled series shape samples := by
  constructor
  · intro h
    cases shape with
    | range =>
      simp only [Series.samples] at h
      split at h
      · next hvalues =>
        rw [← Except.ok.inj h]
        exact .range hvalues
      · cases h
    | single =>
      simp only [Series.samples] at h
      split at h
      · next hvalue =>
        rw [← Except.ok.inj h]
        exact .single hvalue
      · cases h
  · intro h
    cases h with
    | range h => simp only [Series.samples, h]
    | single h => simp only [Series.samples, h]

theorem row_eq_ok_iff {fields : JsonFields} : Series.row fields sample = .ok row ↔
    ∃ text value, IsSample sample text value ∧
      ((Row.mk fields).set "timestamp" (.string text)).set "value" value = row := by
  constructor
  · intro h
    unfold Series.row at h
    split at h
    · next time value =>
      obtain ⟨text, htext, h⟩ := bind_eq_ok.mp h
      exact ⟨text, value, ⟨time, rfl, htext⟩, Except.ok.inj h⟩
    · cases h
  · rintro ⟨text, value, ⟨time, rfl, htext⟩, rfl⟩
    exact bind_eq_ok.mpr ⟨text, htext, rfl⟩

theorem exists_row_eq_ok (fields : JsonFields) :
    (∃ row, Series.row fields sample = .ok row) ↔ ∃ text value, IsSample sample text value := by
  simp only [row_eq_ok_iff]
  constructor
  · rintro ⟨_, text, value, hsample, -⟩
    exact ⟨text, value, hsample⟩
  · rintro ⟨text, value, hsample⟩
    exact ⟨_, text, value, hsample, rfl⟩

theorem isRow_of_row (h : Series.row (labels series) sample = .ok row) :
    IsRow series sample row := by
  obtain ⟨text, value, hsample, rfl⟩ := row_eq_ok_iff.mp h
  refine ⟨text, value, hsample, fun name => ?_⟩
  rw [Row.cell?_set, Row.cell?_set]
  rfl

/-! ### Rows of a series -/

theorem rows_eq_ok_iff {group : List Row} :
    Series.rows shape series = .ok group ↔ ∃ samples, Sampled series shape samples ∧
      List.Forall₂ (fun sample row => Series.row (labels series) sample = .ok row)
        samples group := by
  unfold Series.rows
  simp only [← samples_eq_ok_iff, ← mapM_eq_ok_iff]
  exact bind_eq_ok

/-- The rows of a series in a form, in the order of its samples. -/
def AreRows (shape : SeriesShape) (series : Json) (group : List Row) : Prop :=
  ∃ samples, Sampled series shape samples ∧ List.Forall₂ (IsRow series) samples group

theorem areRows_of_rows {group : List Row} (h : Series.rows shape series = .ok group) :
    AreRows shape series group := by
  obtain ⟨samples, hsampled, hrows⟩ := rows_eq_ok_iff.mp h
  exact ⟨samples, hsampled, hrows.imp fun _ _ => isRow_of_row⟩

/-- A series that can be read: it has the samples, and each is one. -/
def Readable (shape : SeriesShape) (series : Json) : Prop :=
  ∃ samples, Sampled series shape samples ∧
    ∀ sample ∈ samples, ∃ text value, IsSample sample text value

theorem exists_rows_eq_ok :
    (∃ group, Series.rows shape series = .ok group) ↔ Readable shape series := by
  constructor
  · rintro ⟨group, hgroup⟩
    obtain ⟨samples, hsampled, hrows⟩ := rows_eq_ok_iff.mp hgroup
    have hall := exists_mapM_eq_ok.mp ⟨group, mapM_eq_ok_iff.mpr hrows⟩
    exact ⟨samples, hsampled, fun sample hmem => (exists_row_eq_ok _).mp (hall sample hmem)⟩
  · rintro ⟨samples, hsampled, hall⟩
    obtain ⟨group, hgroup⟩ := exists_mapM_eq_ok.mpr fun sample hmem =>
      (exists_row_eq_ok (labels series)).mpr (hall sample hmem)
    exact ⟨group, rows_eq_ok_iff.mpr ⟨samples, hsampled, mapM_eq_ok_iff.mp hgroup⟩⟩

/-! ### Tables -/

/-- The first series has one of the two fields. -/
def HasForm (first : Json) : Prop :=
  (first.get? "values").isSome = true ∨ (first.get? "value").isSome = true

theorem shape_eq_ok_iff :
    Series.shape first = .ok shape ↔ HasForm first ∧ formOf first = shape := by
  unfold Series.shape HasForm formOf
  cases (first.get? "values").isSome <;> cases (first.get? "value").isSome <;> simp

theorem table_cons_eq (first : Json) (rest : List Json) :
    table (first :: rest) = ((Series.shape first).bind fun shape =>
      ((first :: rest).mapM (Series.rows shape)).map fun groups =>
        Table.of (columns first) groups.flatten).mapError .format := by
  unfold table
  congr 1

theorem table_eq_ok_iff : table (first :: rest) = .ok t ↔ HasForm first ∧
    ∃ groups, List.Forall₂ (fun series group => Series.rows (formOf first) series = .ok group)
      (first :: rest) groups ∧ Table.of (columns first) groups.flatten = t := by
  rw [table_cons_eq, mapError_eq_ok, bind_eq_ok]
  simp only [map_eq_ok, mapM_eq_ok_iff, shape_eq_ok_iff]
  constructor
  · rintro ⟨_, ⟨hform, rfl⟩, hgroups⟩
    exact ⟨hform, hgroups⟩
  · rintro ⟨hform, hgroups⟩
    exact ⟨_, ⟨hform, rfl⟩, hgroups⟩

theorem format_of_table_eq_error {e : RunnerError} (h : table (first :: rest) = .error e) :
    e.kind = "Format" := by
  rw [table_cons_eq] at h
  obtain ⟨fault, rfl⟩ := mapError_eq_error h
  rfl

theorem exists_table_eq_ok : (∃ t, table (first :: rest) = .ok t) ↔
    HasForm first ∧ ∀ series ∈ first :: rest, Readable (formOf first) series := by
  simp only [table_eq_ok_iff, ← exists_rows_eq_ok]
  constructor
  · rintro ⟨_, hform, groups, hgroups, -⟩
    exact ⟨hform, exists_mapM_eq_ok.mp ⟨groups, mapM_eq_ok_iff.mpr hgroups⟩⟩
  · rintro ⟨hform, hall⟩
    obtain ⟨groups, hgroups⟩ := exists_mapM_eq_ok.mpr hall
    exact ⟨_, hform, groups, mapM_eq_ok_iff.mp hgroups, rfl⟩

theorem not_readable_iff : ¬ Readable shape series ↔
    (∀ samples, ¬ Sampled series shape samples) ∨ ∃ samples, Sampled series shape samples ∧
      ∃ sample ∈ samples, ∀ text value, ¬ IsSample sample text value := by
  constructor
  · intro h
    by_cases hsampled : ∃ samples, Sampled series shape samples
    · obtain ⟨samples, hsampled⟩ := hsampled
      refine Or.inr ⟨samples, hsampled, ?_⟩
      by_contra hall
      refine h ⟨samples, hsampled, fun sample hmem => ?_⟩
      by_contra hnone
      exact hall ⟨sample, hmem, fun text value hsample => hnone ⟨text, value, hsample⟩⟩
    · exact Or.inl fun samples h => hsampled ⟨samples, h⟩
  · rintro (hnone | ⟨samples, hsampled, sample, hmem, hbad⟩) ⟨others, hothers, hall⟩
    · exact hnone others hothers
    · -- a series has its samples in one way only
      have hsame := (samples_eq_ok_iff.mpr hsampled).symm.trans (samples_eq_ok_iff.mpr hothers)
      obtain rfl := Except.ok.inj hsame
      obtain ⟨text, value, hsample⟩ := hall sample hmem
      exact hbad text value hsample

theorem not_hasForm_iff :
    ¬ HasForm first ↔ first.get? "values" = none ∧ first.get? "value" = none := by
  unfold HasForm
  rw [not_or, Option.not_isSome_iff_eq_none, Option.not_isSome_iff_eq_none]

/-- There is a table, or the format of a series is wrong. -/
theorem table_eq_ok_or_error (first : Json) (rest : List Json) :
    (∃ t, table (first :: rest) = .ok t) ∨
      ∃ e, table (first :: rest) = .error e ∧ e.kind = "Format" := by
  cases htable : table (first :: rest) with
  | ok t => exact Or.inl ⟨t, rfl⟩
  | error e => exact Or.inr ⟨e, rfl, format_of_table_eq_error htable⟩

theorem exists_table_eq_error :
    (∃ e, table (first :: rest) = .error e ∧ e.kind = "Format") ↔
      ¬ HasForm first ∨ ∃ series ∈ first :: rest, ¬ Readable (formOf first) series := by
  have hnot : (∃ e, table (first :: rest) = .error e ∧ e.kind = "Format") ↔
      ¬ ∃ t, table (first :: rest) = .ok t := by
    constructor
    · rintro ⟨e, he, -⟩ ⟨t, ht⟩
      rw [he] at ht
      cases ht
    · exact (table_eq_ok_or_error first rest).resolve_left
  rw [hnot, exists_table_eq_ok, not_and_or]
  simp only [not_forall, exists_prop]

/-- The table of a list of series. Without series there is an empty result, and no other one. The
    first series tells the form of all. If it has neither field, or some series lacks the field
    of this form, or some sample is no pair of a time and a value, it is an error of the format,
    and no other one. Or else the rows are those of the samples, one for each, in order. -/
theorem table_of_samples (series : List Json) :
    ((∃ e, table series = .error e ∧ e.kind = "EmptyResult") ↔ series = []) ∧
    ∀ first ∈ series.head?,
      ((∃ e, table series = .error e ∧ e.kind = "Format") ↔
        (first.get? "values" = none ∧ first.get? "value" = none) ∨
        ∃ s ∈ series, (∀ samples, ¬ Sampled s (formOf first) samples) ∨
          ∃ samples, Sampled s (formOf first) samples ∧
            ∃ sample ∈ samples, ∀ text value, ¬ IsSample sample text value) ∧
      ((∃ t, table series = .ok t) ∨ ∃ e, table series = .error e ∧ e.kind = "Format") ∧
      ∀ t, table series = .ok t → ∃ groups, t.rows = groups.flatten ∧
        List.Forall₂ (fun s group => ∃ samples, Sampled s (formOf first) samples ∧
          List.Forall₂ (IsRow s) samples group) series groups := by
  cases series with
  | nil =>
    refine ⟨iff_of_true ⟨_, rfl, rfl⟩ rfl, ?_⟩
    rintro first ⟨⟩
  | cons first rest =>
    refine ⟨?_, ?_⟩
    · refine iff_of_false ?_ (List.cons_ne_nil _ _)
      rintro ⟨e, he, hkind⟩
      rw [format_of_table_eq_error he] at hkind
      exact absurd hkind (by decide)
    · intro other hother
      obtain rfl : first = other := Option.some.inj hother
      refine ⟨?_, table_eq_ok_or_error first rest, ?_⟩
      · simp only [exists_table_eq_error, not_hasForm_iff, not_readable_iff]
      · intro t ht
        obtain ⟨-, groups, hgroups, rfl⟩ := table_eq_ok_iff.mp ht
        exact ⟨groups, rfl, hgroups.imp fun _ _ => areRows_of_rows⟩

/-- A matrix has its rows, and is refused with a series of the other form behind it. -/
theorem table_of_samples_matrix :
    let sample := fun seconds value => Json.array [.int seconds, .string value]
    let api := Json.record [("metric", .record [("job", .string "api")]),
      ("values", .array [sample 0 "1", sample 60 "0"])]
    let db := Json.record [("values", .array [sample 0 "1"])]
    let single := Json.record [("value", sample 0 "1")]
    (∃ t, table [api, db] = .ok t ∧ ∃ groups : List (List Row),
        t.rows = groups.flatten ∧ groups.length = 2) ∧
      ∃ e, table [api, single] = .error e ∧ e.kind = "Format" := by
  intro sample api db single
  have hform : formOf api = .range := by decide +kernel
  have hsingle : single.get? "values" = none := by decide +kernel
  refine ⟨?_, ?_⟩
  · obtain ⟨t, ht⟩ := Option.isSome_iff_exists.mp
      (show (table [api, db]).toOption.isSome = true by decide +kernel)
    have ht := eq_ok_of_toOption ht
    obtain ⟨groups, hrows, hgroups⟩ := ((table_of_samples [api, db]).2 api rfl).2.2 t ht
    exact ⟨t, ht, groups, hrows, hgroups.length_eq.symm⟩
  · refine ((table_of_samples [api, single]).2 api rfl).1.mpr (Or.inr ⟨single, by simp, Or.inl ?_⟩)
    rw [hform]
    rintro samples ⟨h⟩
    rw [hsingle] at h
    cases h

/-! ### Labels -/

theorem names_columns (first : Json) : (columns first).map Column.name =
    "timestamp" :: "value" :: (labels first).map Prod.fst := by
  simp [columns, Column.plain, Function.comp_def]

/-- The columns have names of their own unless a label is called like one of the first two. -/
theorem nodup_names_iff (hlabels : (labels first).Ordered) :
    ((columns first).map Column.name).Nodup ↔
      ∀ label ∈ labels first, label.1 ≠ "timestamp" ∧ label.1 ≠ "value" := by
  rw [names_columns, List.nodup_cons, List.nodup_cons]
  constructor
  · rintro ⟨htime, hvalue, -⟩ label hlabel
    have hkey := List.mem_map_of_mem (f := Prod.fst) hlabel
    constructor
    · intro heq
      exact htime (List.mem_cons_of_mem _ (heq ▸ hkey))
    · intro heq
      exact hvalue (heq ▸ hkey)
  · intro hother
    have hnot : ∀ name, (∀ label ∈ labels first, label.1 ≠ name) →
        name ∉ (labels first).map Prod.fst := by
      intro name hname hmem
      obtain ⟨label, hlabel, heq⟩ := List.mem_map.mp hmem
      exact hname label hlabel heq
    refine ⟨?_, hnot "value" fun label hlabel => (hother label hlabel).2, hlabels.nodup_keys⟩
    rw [List.mem_cons, not_or]
    exact ⟨by decide, hnot "timestamp" fun label hlabel => (hother label hlabel).1⟩

/-- A row shows a label unless it is called like one of the first two cells and differs from it. -/
theorem cell?_label_iff {label : String × Json} {text : String} {value : Json}
    (hlabels : (labels series).Ordered) (hlabel : label ∈ labels series)
    (hcells : ∀ name, row.cell? name = if name = "value" then some value
      else if name = "timestamp" then some (.string text) else (labels series).get? name) :
    row.cell? label.1 = some label.2 ↔
      (label.1 = "timestamp" → label.2 = .string text) ∧ (label.1 = "value" → label.2 = value) := by
  obtain ⟨name, found⟩ := label
  rw [hcells, hlabels.get?_of_mem hlabel]
  by_cases hvalue : name = "value"
  · simp [hvalue, eq_comm]
  · by_cases htime : name = "timestamp"
    · simp [htime, eq_comm]
    · simp [hvalue, htime]

/-- The labels in the table of some series, whose keys each stand once. The names of the columns
    are distinct as long as no label of the first series is called like one of the two columns that
    are always there. The row of a sample shows every label of its series under the label's name,
    but for one that is called like these columns and differs from the time or the value there. -/
theorem labels_in_rows (hlabels : ∀ series ∈ first :: rest, (labels series).Ordered)
    (h : table (first :: rest) = .ok t) :
    ((t.columns.map Column.name).Nodup ↔
      ∀ label ∈ labels first, label.1 ≠ "timestamp" ∧ label.1 ≠ "value") ∧
    ∃ groups, t.rows = groups.flatten ∧
      List.Forall₂ (fun series group => ∃ samples, Sampled series (formOf first) samples ∧
        List.Forall₂ (fun sample row => ∃ text value, IsSample sample text value ∧
          ∀ label ∈ labels series, row.cell? label.1 = some label.2 ↔
            (label.1 = "timestamp" → label.2 = .string text) ∧
            (label.1 = "value" → label.2 = value)) samples group) (first :: rest) groups := by
  obtain ⟨-, groups, hgroups, rfl⟩ := table_eq_ok_iff.mp h
  refine ⟨nodup_names_iff (hlabels first List.mem_cons_self), groups, rfl, ?_⟩
  -- each series with its rows, and with the order of its own labels
  have hordered := (List.forall₂_and_left _ _).mpr ⟨hlabels, hgroups⟩
  refine hordered.imp ?_
  rintro series group ⟨hseries, hgroup⟩
  obtain ⟨samples, hsampled, hrows⟩ := areRows_of_rows hgroup
  refine ⟨samples, hsampled, hrows.imp ?_⟩
  rintro sample row ⟨text, value, hsample, hcells⟩
  exact ⟨text, value, hsample, fun label hlabel => cell?_label_iff hseries hlabel hcells⟩

/-- A label that is called like neither column is shown. -/
theorem labels_in_rows_of_job :
    let api := Json.record [("metric", .record [("job", .string "api")]),
      ("value", .array [.int 0, .string "1"])]
    ∃ t row, table [api] = .ok t ∧ (t.columns.map Column.name).Nodup ∧ t.rows = [row] ∧
      row.cell? "job" = some (.string "api") := by
  intro api
  have hlabels : labels api = [("job", .string "api")] := by decide +kernel
  have hform : formOf api = .single := by decide +kernel
  have hordered : ∀ series ∈ [api], (labels series).Ordered := by
    intro series hseries
    rw [List.mem_singleton.mp hseries, hlabels]
    exact List.pairwise_singleton _ _
  obtain ⟨t, ht⟩ := Option.isSome_iff_exists.mp
    (show (table [api]).toOption.isSome = true by decide +kernel)
  obtain ⟨hnames, groups, hrows, hgroups⟩ := labels_in_rows hordered (eq_ok_of_toOption ht)
  simp only [hlabels, List.forall_mem_singleton] at hnames
  -- one series, and one sample in it
  obtain ⟨group, _, ⟨samples, hsampled, hgroup⟩, hnil, rfl⟩ := List.forall₂_cons_left_iff.mp hgroups
  obtain rfl := List.forall₂_nil_left_iff.mp hnil
  rw [hform] at hsampled
  cases hsampled
  obtain ⟨row, _, ⟨text, value, -, hshown⟩, hnil, rfl⟩ := List.forall₂_cons_left_iff.mp hgroup
  obtain rfl := List.forall₂_nil_left_iff.mp hnil
  have hjob := hshown ("job", .string "api") (by rw [hlabels]; exact List.mem_cons_self)
  exact ⟨t, row, eq_ok_of_toOption ht, hnames.mpr (by decide), hrows, hjob.mpr (by simp)⟩

/-- A label that is called like the value is not. There are two columns with this name, and the
    cell shows the value. -/
theorem label_called_value_not_shown :
    let api := Json.record [("metric", .record [("value", .string "spare")]),
      ("value", .array [.int 0, .string "1"])]
    ("value", .string "spare") ∈ labels api ∧ ∃ t, table [api] = .ok t ∧
      t.columns.map Column.name = ["timestamp", "value", "value"] ∧
      t.rows.map (·.cell? "value") = [some (.string "1")] := by
  intro api
  refine ⟨by decide +kernel, ?_⟩
  obtain ⟨t, ht, hshown⟩ := Option.map_eq_some_iff.mp (show (table [api]).toOption.map
    (fun t => (t.columns.map Column.name, t.rows.map (·.cell? "value"))) =
      some (["timestamp", "value", "value"], [some (.string "1")]) by decide +kernel)
  obtain ⟨hnames, hcells⟩ := Prod.mk.inj hshown
  exact ⟨t, eq_ok_of_toOption ht, hnames, hcells⟩

end Series

end QueryDispatch
