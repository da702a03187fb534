import QueryDispatch.Proofs.Json.Entries
import QueryDispatch.Proofs.Warehouse.Columns

/-! # Rows by column name

  A table has the cells of a row under the names of their columns. A name that
  several columns have stands for the last of them: the cells of the others are
  not in the row, though the columns are all in the table.
-/

namespace QueryDispatch

namespace JsonFields

variable {fields entries : JsonFields} {entry : String × Json} {name : String} {value : Json}
  {j : Nat}

/-! ### The last entry of a key -/

/-- The entry at an index has a key and a value, and behind it the key does not come again. -/
def LastAt (entries : JsonFields) (j : Nat) (name : String) (value : Json) : Prop :=
  entries[j]? = some (name, value) ∧
    ∀ (k : Nat) other, j < k → entries[k]? = some other → other.1 ≠ name

theorem lastAt_zero_iff : LastAt (entry :: entries) 0 name value ↔
    entry = (name, value) ∧ ∀ other ∈ entries, other.1 ≠ name := by
  unfold LastAt
  rw [List.getElem?_cons_zero, Option.some.injEq]
  refine and_congr_right fun _ => ⟨fun h other hother => ?_, fun h k other hk hother => ?_⟩
  · obtain ⟨k, hk⟩ := List.mem_iff_getElem?.mp hother
    exact h (k + 1) other (Nat.succ_pos k) hk
  · obtain ⟨k, rfl⟩ := Nat.exists_eq_add_one.mpr hk
    exact h other (List.mem_of_getElem? hother)

theorem lastAt_succ_iff :
    LastAt (entry :: entries) (j + 1) name value ↔ LastAt entries j name value := by
  unfold LastAt
  rw [List.getElem?_cons_succ]
  refine and_congr_right fun _ => ⟨fun h k other hk hother => ?_, fun h k other hk hother => ?_⟩
  · exact h (k + 1) other (Nat.succ_lt_succ hk) hother
  · obtain ⟨k, rfl⟩ := Nat.exists_eq_add_one.mpr (Nat.zero_lt_of_lt hk)
    exact h k other (Nat.lt_of_succ_lt_succ hk) hother

theorem exists_lastAt_cons_iff : (∃ j, LastAt (entry :: entries) j name value) ↔
    (entry = (name, value) ∧ ∀ other ∈ entries, other.1 ≠ name) ∨
      ∃ j, LastAt entries j name value := by
  rw [← Nat.or_exists_add_one, lastAt_zero_iff]
  simp only [lastAt_succ_iff]

/-- A key that comes at all comes somewhere for the last time. -/
theorem exists_lastAt (h : ∃ entry ∈ entries, entry.1 = name) :
    ∃ j value, LastAt entries j name value := by
  induction entries with
  | nil => simp at h
  | cons entry rest ih =>
    by_cases hrest : ∃ other ∈ rest, other.1 = name
    · obtain ⟨j, value, hlast⟩ := ih hrest
      exact ⟨j + 1, value, lastAt_succ_iff.mpr hlast⟩
    · obtain ⟨other, hother, rfl⟩ := h
      rcases List.mem_cons.mp hother with rfl | hmem
      · exact ⟨0, other.2, lastAt_zero_iff.mpr ⟨rfl, fun another hanother hsame =>
          hrest ⟨another, hanother, hsame⟩⟩⟩
      · exact absurd ⟨other, hmem, rfl⟩ hrest

/-- Entries that are set one after the other are found where their keys come last. -/
theorem get?_insertAll_eq_some_iff : (fields.insertAll entries).get? name = some value ↔
    (∃ j, LastAt entries j name value) ∨
      (∀ entry ∈ entries, entry.1 ≠ name) ∧ fields.get? name = some value := by
  induction entries generalizing fields with
  | nil => simp [insertAll, LastAt]
  | cons entry rest ih =>
    obtain ⟨key, v⟩ := entry
    rw [insertAll_cons, ih, get?_insert, exists_lastAt_cons_iff, List.forall_mem_cons]
    by_cases hkey : name = key
    · subst hkey
      simp [or_comm, and_comm]
    · simp [hkey, Ne.symm hkey]

end JsonFields

namespace ResultSet

variable {columns : List NativeColumn} {cells : List Json} {entries : JsonFields} {row : Row}
  {name : String} {value : Json} {j : Nat}

/-! ### Cells with names -/

/-- The cell of a row at the index of a column, in its mapped form and with the column's name. -/
def IsCell (columns : List NativeColumn) (cells : List Json) (j : Nat) (name : String)
    (value : Json) : Prop :=
  ∃ column cell, columns[j]? = some column ∧ cells[j]? = some cell ∧ column.name = name ∧
    Cell.map column.type cell = .ok value

/-- An entry has the name of a column and the mapped form of a cell in it. -/
def IsEntry (cell : NativeColumn × Json) (entry : String × Json) : Prop :=
  cell.1.name = entry.1 ∧ Cell.map cell.1.type cell.2 = .ok entry.2

/-- All cells of a row with their names, in the order of the columns. -/
def Named (columns : List NativeColumn) (cells : List Json) (entries : JsonFields) : Prop :=
  List.Forall₂ IsEntry (columns.zip cells) entries

/-- The named cell at an index is that of the column and the cell there. -/
theorem Named.getElem?_iff (h : Named columns cells entries) :
    entries[j]? = some (name, value) ↔ IsCell columns cells j name value := by
  constructor
  · intro hentry
    obtain ⟨cell, hcell, hname, hvalue⟩ := getElem?_of_forall₂_right h hentry
    obtain ⟨hcolumn, hcell⟩ := List.getElem?_zip_eq_some.mp hcell
    exact ⟨_, _, hcolumn, hcell, hname, hvalue⟩
  · rintro ⟨column, cell, hcolumn, hcell, rfl, hvalue⟩
    obtain ⟨⟨name, found⟩, hentry, hname, hfound⟩ := getElem?_of_forall₂ h
      (List.getElem?_zip_eq_some.mpr ⟨hcolumn, hcell⟩ : _ = some (column, cell))
    rw [hvalue] at hfound
    rw [hentry, Except.ok.inj hfound, hname]

/-- Cells are set one after the other, each in its mapped form. -/
theorem foldlM_set_eq_ok_iff {pairs : List (NativeColumn × Json)} {start : Row} :
    pairs.foldlM (fun (row : Row) (pair : NativeColumn × Json) => do
        return row.set pair.1.name (← Cell.map pair.1.type pair.2)) start = .ok row ↔
      ∃ entries, List.Forall₂ IsEntry pairs entries ∧
        row = ⟨start.cells.insertAll entries⟩ := by
  induction pairs generalizing start with
  | nil =>
    simp only [List.forall₂_nil_left_iff, exists_eq_left]
    exact ⟨fun h => (Except.ok.inj h).symm, fun h => congrArg Except.ok h.symm⟩
  | cons pair rest ih =>
    rw [List.foldlM_cons]
    refine bind_eq_ok.trans ?_
    simp only [ih, List.forall₂_cons_left_iff]
    constructor
    · rintro ⟨_, hfirst, entries, hrest, rfl⟩
      obtain ⟨v, hv, hnext⟩ := bind_eq_ok.mp hfirst
      obtain rfl := Except.ok.inj hnext
      exact ⟨_, ⟨(pair.1.name, v), entries, ⟨rfl, hv⟩, hrest, rfl⟩, rfl⟩
    · rintro ⟨_, ⟨⟨_, v⟩, entries, ⟨rfl, hv⟩, hrest, rfl⟩, rfl⟩
      exact ⟨start.set pair.1.name v, bind_eq_ok.mpr ⟨v, hv, rfl⟩, entries, hrest, rfl⟩

/-! ### Cells in the table -/

/-- A row of a table is made by setting the named cells one after the other. -/
theorem row_eq_ok_iff : ResultSet.row columns cells = .ok row ↔
    ∃ entries, Named columns cells entries ∧ row = ⟨JsonFields.insertAll [] entries⟩ :=
  foldlM_set_eq_ok_iff

/-- Every column of a row that is as wide as the columns has its cell. -/
theorem Named.exists_isCell (h : Named columns cells entries)
    (hwidth : cells.length = columns.length) {column : NativeColumn}
    (hcolumn : columns[j]? = some column) : ∃ value, IsCell columns cells j column.name value := by
  have hj : j < cells.length := hwidth ▸ (List.getElem?_eq_some_iff.mp hcolumn).1
  have hcell : cells[j]? = some cells[j] := List.getElem?_eq_getElem hj
  obtain ⟨⟨_, value⟩, -, rfl, hvalue⟩ := getElem?_of_forall₂ h
    (List.getElem?_zip_eq_some.mpr ⟨hcolumn, hcell⟩ : _ = some (column, cells[j]))
  exact ⟨value, column, cells[j], hcolumn, hcell, rfl, hvalue⟩

/-- A name comes for the last time where no later column has it. -/
theorem Named.lastAt_iff (h : Named columns cells entries) (hwidth : cells.length = columns.length) :
    JsonFields.LastAt entries j name value ↔ IsCell columns cells j name value ∧
      ∀ k column, j < k → columns[k]? = some column → column.name ≠ name := by
  refine and_congr h.getElem?_iff ⟨fun hlast k column hk hcolumn => ?_,
    fun hlast k other hk hother => ?_⟩
  · obtain ⟨v, hv⟩ := h.exists_isCell hwidth hcolumn
    exact hlast k (column.name, v) hk (h.getElem?_iff.mpr hv)
  · obtain ⟨column, cell, hcolumn, -, hname, -⟩ := h.getElem?_iff.mp hother
    rw [← hname]
    exact hlast k column hk hcolumn

/-- The cell under a name is that of the last column with the name. -/
theorem Named.cell?_eq_some_iff (h : Named columns cells entries)
    (hwidth : cells.length = columns.length) :
    Row.cell? ⟨JsonFields.insertAll [] entries⟩ name = some value ↔
      ∃ j, IsCell columns cells j name value ∧
        ∀ k column, j < k → columns[k]? = some column → column.name ≠ name := by
  simp only [← h.lastAt_iff hwidth]
  refine JsonFields.get?_insertAll_eq_some_iff.trans (or_iff_left ?_)
  rintro ⟨-, hnone⟩
  cases hnone

/-- All cells of a row are in the table when columns of one name have the same value in it. -/
theorem Named.forall_cell?_iff (h : Named columns cells entries)
    (hwidth : cells.length = columns.length) :
    (∀ j name value, IsCell columns cells j name value →
        Row.cell? ⟨JsonFields.insertAll [] entries⟩ name = some value) ↔
      ∀ j k name v w, IsCell columns cells j name v → IsCell columns cells k name w → v = w := by
  constructor
  · intro hall j k name v w hv hw
    exact Option.some.inj ((hall j name v hv).symm.trans (hall k name w hw))
  · intro hsame j name value hcell
    have hmem : (name, value) ∈ entries := List.mem_of_getElem? (h.getElem?_iff.mpr hcell)
    obtain ⟨k, v, hlast⟩ := JsonFields.exists_lastAt ⟨(name, value), hmem, rfl⟩
    obtain ⟨hv, hlater⟩ := (h.lastAt_iff hwidth).mp hlast
    rw [hsame j k name value v hcell hv]
    exact (h.cell?_eq_some_iff hwidth).mpr ⟨k, hv, hlater⟩

/-- A table has the columns of its result set, and its rows are made one by one. -/
theorem table_eq_ok_iff {set : ResultSet} {t : Table} : set.table = .ok t ↔
    ∃ rows, List.Forall₂ (fun cells row => ResultSet.row set.columns cells = .ok row) set.rows rows ∧
      t = Table.of (set.columns.map fun c => Column.plain c.name c.type.columnType) rows := by
  refine bind_eq_ok.trans ?_
  simp only [mapM_eq_ok_iff]
  exact exists_congr fun rows => and_congr_right fun _ =>
    ⟨fun h => (Except.ok.inj h).symm, fun h => congrArg Except.ok h.symm⟩

/-- Every row of a result set that was built column by column has a cell for each column. -/
theorem width_of_ofColumns {data : List (List Json)} {set : ResultSet}
    (h : ofColumns columns data = .ok set) :
    set.columns = columns ∧ ∀ cells ∈ set.rows, cells.length = columns.length := by
  rcases ofColumns_eq_ok_iff.mp h with ⟨-, rfl⟩ | ⟨-, hlength, n, hn, rfl⟩
  · exact ⟨rfl, List.forall_mem_nil _⟩
  · exact ⟨rfl, fun cells hcells => (length_of_mem_crosswise hn hcells).trans hlength⟩

/-- The table of a result set has its columns, in their order, and its rows. A row has a mapped cell
    for each column, and it shows under each name the cell of the last column that has it. So it
    shows all of them exactly when columns with one name have the same mapped cell. -/
theorem cells_by_column_name {data : List (List Json)} {set : ResultSet} {t : Table}
    (hset : ofColumns columns data = .ok set) (ht : set.table = .ok t) :
    t.columns = columns.map (fun c => Column.plain c.name c.type.columnType) ∧
    t.rows.length = set.rows.length ∧
    ∀ (i : Nat) cells, set.rows[i]? = some cells → ∃ row : Row, t.rows[i]? = some row ∧
      (∀ j column, columns[j]? = some column →
        ∃ value, IsCell columns cells j column.name value) ∧
      (∀ name value, row.cell? name = some value ↔ ∃ j, IsCell columns cells j name value ∧
        ∀ k column, j < k → columns[k]? = some column → column.name ≠ name) ∧
      ((∀ j name value, IsCell columns cells j name value → row.cell? name = some value) ↔
        ∀ j k name v w, IsCell columns cells j name v → IsCell columns cells k name w → v = w) := by
  obtain ⟨rfl, hwidths⟩ := width_of_ofColumns hset
  obtain ⟨rows, hrows, rfl⟩ := table_eq_ok_iff.mp ht
  refine ⟨rfl, (List.Forall₂.length_eq hrows).symm, fun i cells hcells => ?_⟩
  obtain ⟨row, hi, hrow⟩ := getElem?_of_forall₂ hrows hcells
  have hwidth := hwidths cells (List.mem_of_getElem? hcells)
  obtain ⟨entries, hnamed, rfl⟩ := row_eq_ok_iff.mp hrow
  exact ⟨_, hi, fun j column hcolumn => hnamed.exists_isCell hwidth hcolumn,
    fun name value => hnamed.cell?_eq_some_iff hwidth, hnamed.forall_cell?_iff hwidth⟩

/-- A row with two names. -/
theorem cells_by_column_name_two :
    let columns : List NativeColumn :=
      [⟨"ID", "DECIMAL", some 9, some 0⟩, ⟨"NAME", "VARCHAR", none, none⟩]
    ∃ set t row, ofColumns columns [[.int 1], [.string "a"]] = .ok set ∧ set.table = .ok t ∧
      t.columns = [Column.plain "ID" .integer, Column.plain "NAME" .string] ∧
      t.rows[0]? = some row ∧ row.cell? "ID" = some (.int 1) ∧
      row.cell? "NAME" = some (.string "a") := by
  intro columns
  have hset : ofColumns columns [[.int 1], [.string "a"]] =
      .ok ⟨columns, [[.int 1, .string "a"]]⟩ := rfl
  obtain ⟨t, ht⟩ : ∃ t, table ⟨columns, [[.int 1, .string "a"]]⟩ = .ok t := ⟨_, rfl⟩
  obtain ⟨hcolumns, -, hrows⟩ := cells_by_column_name hset ht
  obtain ⟨row, hrow, -, hshown, -⟩ := hrows 0 _ rfl
  have hid : IsCell columns [.int 1, .string "a"] 0 "ID" (.int 1) := ⟨_, _, rfl, rfl, rfl, rfl⟩
  have hname : IsCell columns [.int 1, .string "a"] 1 "NAME" (.string "a") :=
    ⟨_, _, rfl, rfl, rfl, rfl⟩
  have htwo : ∀ k column, columns[k]? = some column → k < 2 := by
    intro k column hcolumn
    exact (List.getElem?_eq_some_iff.mp hcolumn).1
  refine ⟨_, t, row, hset, ht, hcolumns, hrow, (hshown _ _).mpr ⟨0, hid, ?_⟩,
    (hshown _ _).mpr ⟨1, hname, ?_⟩⟩
  · intro k column hk hcolumn
    obtain rfl : k = 1 := Nat.le_antisymm (Nat.le_of_lt_succ (htwo k column hcolumn)) hk
    obtain rfl := Option.some.inj hcolumn
    decide
  · intro k column hk hcolumn
    exact absurd (htwo k column hcolumn) (Nat.not_lt.mpr hk)

/-- The second of two columns with one name hides the first. Both columns are in the table. -/
theorem repeated_name_hides_cell :
    let columns : List NativeColumn :=
      [⟨"ID", "DECIMAL", some 9, some 0⟩, ⟨"ID", "DECIMAL", some 9, some 0⟩]
    ∃ set t, ofColumns columns [[.int 1], [.int 2]] = .ok set ∧ set.table = .ok t ∧
      IsCell columns [.int 1, .int 2] 0 "ID" (.int 1) ∧
      t.columns.map Column.name = ["ID", "ID"] ∧
      t.rows.map (·.cell? "ID") = [some (.int 2)] := by
  intro columns
  exact ⟨⟨columns, [[.int 1, .int 2]]⟩, _, rfl, rfl, ⟨_, _, rfl, rfl, rfl, rfl⟩, rfl, rfl⟩

end ResultSet

end QueryDispatch
