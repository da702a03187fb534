import Mathlib.Algebra.Order.Ring.Nat
import Mathlib.Data.List.Basic
import QueryDispatch.Warehouse.Connector

/-! # Tables of the catalog

  The catalog has a row for each column, and rows of different tables may come
  in any order. A table gets its place among the names with its first row, and
  every further row is added behind the columns that it has by then. So a row
  is under exactly one name, and no row is lost.
-/

namespace QueryDispatch.Warehouse

variable {σ : Type} {tables : List TableSchema} {rows before : List (List Json)} {t : TableSchema}

/-! ### Rows -/

/-- The text at a place of a row. A cell that is no text is empty. -/
def textAt (row : List Json) (i : Nat) : String := (row[i]?.bind Json.asString?).getD ""

/-- The name of the table that a row belongs to. -/
def tableName (row : List Json) : String := textAt row 0 ++ "." ++ textAt row 1

/-- The column that a row stands for. -/
def columnName (row : List Json) : String := textAt row 2

/-- Adds the column of a row to its table. -/
def place (tables : List TableSchema) (row : List Json) : List TableSchema :=
  addTo tables (tableName row) (columnName row)

theorem addRow_eq (tables : List TableSchema) (row : List Json) :
    addRow tables row = if row.length = 3 then .ok (place tables row) else .error .catalog := by
  match row with
  | [] => rfl
  | [_] => rfl
  | [_, _] => rfl
  | [_, _, _] => rfl
  | _ :: _ :: _ :: _ :: _ => rfl

/-- Rows are added one after the other, if each of them has three cells. -/
theorem foldlM_addRow_eq (rows : List (List Json)) (tables : List TableSchema) :
    rows.foldlM addRow tables =
      if ∀ row ∈ rows, row.length = 3 then .ok (rows.foldl place tables)
      else .error .catalog := by
  induction rows generalizing tables with
  | nil =>
    rw [if_pos (by simp)]
    rfl
  | cons row rest ih =>
    rw [List.foldlM_cons, addRow_eq]
    simp only [List.forall_mem_cons]
    by_cases hrow : row.length = 3
    · rw [if_pos hrow]
      show rest.foldlM addRow (place tables row) = _
      rw [ih, List.foldl_cons]
      simp only [hrow, true_and]
    · rw [if_neg hrow, if_neg fun h => hrow h.1]
      rfl

/-! ### Adding a column -/

theorem exists_name_addTo {name column n : String} :
    (∃ t ∈ addTo tables name column, t.name = n) ↔ name = n ∨ ∃ t ∈ tables, t.name = n := by
  induction tables with
  | nil => simp [addTo]
  | cons t rest ih =>
    unfold addTo
    split
    · simp
    · split
      · next hname =>
        simp only [List.exists_mem_cons_iff, hname]
        rw [← or_assoc, or_self]
      · simp only [List.exists_mem_cons_iff, ih]
        rw [or_left_comm]

/-- The names stay in order. -/
theorem ordered_addTo (h : tables.Pairwise (·.name < ·.name)) (name column : String) :
    (addTo tables name column).Pairwise (·.name < ·.name) := by
  induction tables with
  | nil => exact List.pairwise_singleton _ _
  | cons t rest ih =>
    obtain ⟨hfirst, hrest⟩ := List.pairwise_cons.mp h
    unfold addTo
    split
    · next hlt =>
      refine List.pairwise_cons.mpr ⟨?_, h⟩
      rintro u (_ | ⟨_, hu⟩)
      · exact hlt
      · exact String.lt_trans hlt (hfirst u hu)
    · next hnot =>
      split
      · exact List.pairwise_cons.mpr ⟨hfirst, hrest⟩
      · next hne =>
        refine List.pairwise_cons.mpr ⟨?_, ih hrest⟩
        intro u hu
        rcases exists_name_addTo.mp ⟨u, hu, rfl⟩ with hname | ⟨v, hv, hname⟩
        · rw [← hname]
          exact Std.lt_of_le_of_ne (String.not_lt.mp hnot) (Ne.symm hne)
        · rw [← hname]
          exact hfirst v hv

/-- A table is as it was, or it is the one that got the column: behind those that it had, or as
    the first one of a table that was not there. -/
theorem mem_addTo (h : tables.Pairwise (·.name < ·.name)) {name column : String}
    (ht : t ∈ addTo tables name column) :
    (t ∈ tables ∧ t.name ≠ name) ∨
    (∃ u ∈ tables, u.name = name ∧ t = { u with columns := u.columns ++ [column] }) ∨
    ((∀ u ∈ tables, u.name ≠ name) ∧ t = ⟨name, [column]⟩) := by
  induction tables with
  | nil =>
    obtain rfl := List.mem_singleton.mp ht
    exact Or.inr (Or.inr ⟨by simp, rfl⟩)
  | cons first rest ih =>
    obtain ⟨hfirst, hrest⟩ := List.pairwise_cons.mp h
    unfold addTo at ht
    split at ht
    · next hlt =>
      -- the name stands in front of all that are there
      have hbehind : ∀ u ∈ first :: rest, name < u.name := by
        rintro u (_ | ⟨_, hu⟩)
        · exact hlt
        · exact String.lt_trans hlt (hfirst u hu)
      have hne : ∀ u ∈ first :: rest, u.name ≠ name := by
        intro u hu heq
        exact String.lt_irrefl name (heq ▸ hbehind u hu)
      rcases List.mem_cons.mp ht with rfl | ht
      · exact Or.inr (Or.inr ⟨hne, rfl⟩)
      · exact Or.inl ⟨ht, hne t ht⟩
    · split at ht
      · next hname =>
        rcases List.mem_cons.mp ht with rfl | ht
        · exact Or.inr (Or.inl ⟨first, List.mem_cons_self, hname.symm, rfl⟩)
        · refine Or.inl ⟨List.mem_cons_of_mem _ ht, ?_⟩
          intro heq
          exact String.lt_irrefl name (by simpa only [heq, ← hname] using hfirst t ht)
      · next hne =>
        rcases List.mem_cons.mp ht with rfl | ht
        · exact Or.inl ⟨List.mem_cons_self, Ne.symm hne⟩
        · rcases ih hrest ht with ⟨hmem, hother⟩ | ⟨u, hu, hname, heq⟩ | ⟨hnone, heq⟩
          · exact Or.inl ⟨List.mem_cons_of_mem _ hmem, hother⟩
          · exact Or.inr (Or.inl ⟨u, List.mem_cons_of_mem _ hu, hname, heq⟩)
          · exact Or.inr (Or.inr ⟨List.forall_mem_cons.mpr ⟨Ne.symm hne, hnone⟩, heq⟩)

/-- There is one column more. -/
theorem sum_columns_addTo (tables : List TableSchema) (name column : String) :
    ((addTo tables name column).map (·.columns.length)).sum =
      (tables.map (·.columns.length)).sum + 1 := by
  induction tables with
  | nil => rfl
  | cons t rest ih =>
    unfold addTo
    split
    · simp only [List.map_cons, List.sum_cons, List.length_singleton]
      omega
    · split
      · simp only [List.map_cons, List.sum_cons, List.length_append, List.length_singleton]
        omega
      · simp only [List.map_cons, List.sum_cons, ih]
        omega

/-! ### Rows by table -/

/-- The columns of the rows with a name, in the order of the rows. -/
def columnsOf (rows : List (List Json)) (name : String) : List String :=
  (rows.filter (tableName · = name)).map columnName

/-- The tables that rows describe. -/
structure Describe (rows : List (List Json)) (tables : List TableSchema) : Prop where
  /-- The names are strictly increasing. -/
  ordered : tables.Pairwise (·.name < ·.name)
  /-- They are the names of the rows. -/
  named : ∀ name, (∃ t ∈ tables, t.name = name) ↔ ∃ row ∈ rows, tableName row = name
  /-- Under a name are the columns of the rows with it. -/
  columns : ∀ t ∈ tables, t.columns = columnsOf rows t.name
  /-- Every row is under one of the names. -/
  total : (tables.map (·.columns.length)).sum = rows.length

theorem columnsOf_append (before rows : List (List Json)) (name : String) :
    columnsOf (before ++ rows) name = columnsOf before name ++ columnsOf rows name := by
  rw [columnsOf, List.filter_append, List.map_append]
  rfl

theorem columnsOf_singleton (row : List Json) (name : String) :
    columnsOf [row] name = if tableName row = name then [columnName row] else [] := by
  unfold columnsOf
  by_cases h : tableName row = name <;> simp [h]

theorem columnsOf_eq_nil {name : String} (h : ∀ row ∈ rows, tableName row ≠ name) :
    columnsOf rows name = [] := by
  rw [columnsOf, List.map_eq_nil_iff, List.filter_eq_nil_iff]
  intro row hrow
  simpa using h row hrow

namespace Describe

theorem nil : Describe [] [] :=
  ⟨List.Pairwise.nil, by simp, by simp, rfl⟩

/-- One more row. -/
theorem place (h : Describe rows tables) (row : List Json) :
    Describe (rows ++ [row]) (place tables row) where
  ordered := ordered_addTo h.ordered _ _
  named name := by
    rw [Warehouse.place, exists_name_addTo, h.named]
    simp only [List.mem_append, List.mem_singleton, or_and_right, exists_or, exists_eq_left]
    exact or_comm
  columns t ht := by
    rw [columnsOf_append, columnsOf_singleton]
    -- the table has another name, has got the column behind its own, or is new with it
    rcases mem_addTo h.ordered ht with ⟨hmem, hne⟩ | ⟨u, hu, hname, rfl⟩ | ⟨hnone, rfl⟩
    · rw [if_neg (Ne.symm hne), List.append_nil]
      exact h.columns t hmem
    · rw [if_pos hname.symm, h.columns u hu]
    · have hother : ∀ r ∈ rows, tableName r ≠ tableName row := by
        intro r hr heq
        obtain ⟨u, hu, hname⟩ := (h.named _).mpr ⟨r, hr, heq⟩
        exact hnone u hu hname
      rw [if_pos rfl, columnsOf_eq_nil hother, List.nil_append]
  total := by
    rw [Warehouse.place, sum_columns_addTo, h.total, List.length_append, List.length_singleton]

/-- Any number of rows, by induction with what the rows before have left. -/
theorem foldl (h : Describe before tables) (rows : List (List Json)) :
    Describe (before ++ rows) (rows.foldl Warehouse.place tables) := by
  induction rows generalizing before tables with
  | nil =>
    rw [List.append_nil]
    exact h
  | cons row rest ih =>
    rw [List.foldl_cons, List.append_cons]
    exact ih (h.place row)

end Describe

/-! ### Browsing -/

section browsing

variable {connector : Connector σ} {settings : WarehouseSettings} {s s' : σ} {set : ResultSet}

theorem tables_eq (h : execute connector settings catalogStatement s = (.ok set, s')) :
    Warehouse.tables connector settings s = ((tablesOf set.rows).mapError .format, s') := by
  unfold Warehouse.tables
  rw [h]
  rfl

/-- Browsing succeeds if and only if each row of the catalog has three cells. It shows the tables
    that the rows describe: strictly increasing names, those of the rows and no other, and under
    each name the columns of its rows in their order, so that there are as many columns as rows. -/
theorem tables_of_catalog (h : execute connector settings catalogStatement s = (.ok set, s')) :
    ((∃ shown, Warehouse.tables connector settings s = (.ok shown, s')) ↔
      ∀ row ∈ set.rows, row.length = 3) ∧
    ((∃ row ∈ set.rows, row.length ≠ 3) →
      Warehouse.tables connector settings s = (.error (.format .catalog), s')) ∧
    ∀ shown, (Warehouse.tables connector settings s).1 = .ok shown → Describe set.rows shown := by
  rw [tables_eq h, tablesOf, foldlM_addRow_eq]
  by_cases hall : ∀ row ∈ set.rows, row.length = 3
  · rw [if_pos hall]
    refine ⟨⟨fun _ => hall, fun _ => ⟨_, rfl⟩⟩, ?_, ?_⟩
    · rintro ⟨row, hrow, hne⟩
      exact absurd (hall row hrow) hne
    · intro shown hshown
      rw [← Except.ok.inj hshown]
      exact Describe.nil.foldl set.rows
  · rw [if_neg hall]
    refine ⟨⟨?_, fun h => absurd h hall⟩, fun _ => rfl, ?_⟩
    · rintro ⟨shown, hshown⟩
      cases congrArg Prod.fst hshown
    · intro shown hshown
      cases hshown

end browsing

/-- A connector whose every statement gives one result set. -/
def answering (set : ResultSet) : Connector Unit where
  connect _ := fun s => (.ok (), s)
  execute _ := fun s => (.ok set, s)
  close := fun s => (.ok (), s)

/-- Rows of two tables that interleave, a row that comes twice, and cells that are no text. -/
def interleaved : ResultSet where
  columns := []
  rows := [
    [.string "RETAIL", .string "SALES", .string "ID"],
    [.null, .string "SALES", .int 7],
    [.string "RETAIL", .string "SALES", .string "AMOUNT"],
    [.string "", .string "SALES", .string "ID"],
    [.string "RETAIL", .string "SALES", .string "ID"]]

/-- Cells that are no text count as empty, and an empty schema stands in front. -/
theorem tables_of_interleaved_rows :
    let connector := answering interleaved
    let settings : WarehouseSettings := ⟨"db", 8563, "sys", "p", false⟩
    execute connector settings catalogStatement () = (.ok interleaved, ()) ∧
    Describe interleaved.rows
      [⟨".SALES", ["", "ID"]⟩, ⟨"RETAIL.SALES", ["ID", "AMOUNT", "ID"]⟩] := by
  intro connector settings
  have hexecute : execute connector settings catalogStatement () = (.ok interleaved, ()) := rfl
  exact ⟨hexecute, (tables_of_catalog hexecute).2.2 _ rfl⟩

end QueryDispatch.Warehouse
