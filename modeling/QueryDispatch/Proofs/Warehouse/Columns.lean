import QueryDispatch.Proofs.Data.Chains
import QueryDispatch.Warehouse.ResultSet

/-! # Columns and rows

  Cells that come column by column are put where row and column cross. Turning
  the rows once more gives the columns back, so no cell is lost, repeated or
  moved; and cells that do not fill a rectangle are refused.
-/

namespace QueryDispatch

/-! ### Turned lists -/

section turning

variable {α : Type} {lists others : List (List α)} {count i : Nat}

/-- What the lists have at an index, in their order. -/
def cellsAt (lists : List (List α)) (i : Nat) : List α := lists.filterMap (·[i]?)

/-- As many lists as are counted, each with what the lists have at its index. Lists that are empty
    or not there do not tell the number themselves. -/
def crosswise (count : Nat) (lists : List (List α)) : List (List α) :=
  (List.range count).map (cellsAt lists)

@[simp] theorem length_crosswise (count : Nat) (lists : List (List α)) :
    (crosswise count lists).length = count := by
  rw [crosswise, List.length_map, List.length_range]

theorem getElem?_crosswise (lists : List (List α)) (h : i < count) :
    (crosswise count lists)[i]? = some (cellsAt lists i) := by
  rw [crosswise, List.getElem?_map, List.getElem?_range h, Option.map_some]

theorem cellsAt_cons {list : List α} {cell : α} (h : list[i]? = some cell) :
    cellsAt (list :: lists) i = cell :: cellsAt lists i := List.filterMap_cons_some h

theorem cellsAt_append (lists others : List (List α)) (i : Nat) :
    cellsAt (lists ++ others) i = cellsAt lists i ++ cellsAt others i := List.filterMap_append

/-- Lists that are long enough each have one cell at the index. -/
theorem getElem?_cellsAt (h : ∀ list ∈ lists, i < list.length) (j : Nat) :
    (cellsAt lists i)[j]? = lists[j]?.bind (·[i]?) := by
  induction lists generalizing j with
  | nil => rfl
  | cons list rest ih =>
    obtain ⟨hlist, hrest⟩ := List.forall_mem_cons.mp h
    rw [cellsAt_cons (List.getElem?_eq_getElem hlist)]
    cases j with
    | zero => exact (List.getElem?_eq_getElem hlist).symm
    | succ j => exact ih hrest j

theorem length_cellsAt (h : ∀ list ∈ lists, i < list.length) :
    (cellsAt lists i).length = lists.length := by
  induction lists with
  | nil => rfl
  | cons list rest ih =>
    obtain ⟨hlist, hrest⟩ := List.forall_mem_cons.mp h
    rw [cellsAt_cons (List.getElem?_eq_getElem hlist), List.length_cons, List.length_cons, ih hrest]

theorem length_of_mem_crosswise (h : ∀ list ∈ lists, list.length = count) {row : List α}
    (hrow : row ∈ crosswise count lists) : row.length = lists.length := by
  obtain ⟨i, hi, rfl⟩ := List.mem_map.mp hrow
  refine length_cellsAt fun list hlist => ?_
  rw [h list hlist]
  exact List.mem_range.mp hi

/-- A cell stands where its list and its index cross, and nowhere else. -/
theorem cell_crosswise (h : ∀ list ∈ lists, list.length = count) (i j : Nat) :
    (crosswise count lists)[i]?.bind (·[j]?) = lists[j]?.bind (·[i]?) := by
  by_cases hi : i < count
  · rw [getElem?_crosswise lists hi, Option.bind_some]
    exact getElem?_cellsAt (fun list hlist => (h list hlist).symm ▸ hi) j
  · -- neither is there such a row, nor has a column such a cell
    have hrow : (crosswise count lists)[i]? = none := by
      rw [List.getElem?_eq_none_iff, length_crosswise]
      omega
    have hcell : ∀ list, lists[j]? = some list → list[i]? = none := by
      intro list hlist
      rw [List.getElem?_eq_none_iff, h list (List.mem_of_getElem? hlist)]
      omega
    rw [hrow, Option.bind_none]
    exact (Option.bind_eq_none_iff.mpr hcell).symm

/-- Turning twice changes nothing. -/
theorem crosswise_crosswise (h : ∀ list ∈ lists, list.length = count) :
    crosswise lists.length (crosswise count lists) = lists := by
  refine List.ext_getElem? fun j => ?_
  by_cases hj : j < lists.length
  · rw [getElem?_crosswise _ hj, List.getElem?_eq_getElem hj]
    refine congrArg some (List.ext_getElem? fun i => ?_)
    have hrows : ∀ row ∈ crosswise count lists, j < row.length := by
      intro row hrow
      rwa [length_of_mem_crosswise h hrow]
    rw [getElem?_cellsAt hrows, cell_crosswise h, List.getElem?_eq_getElem hj, Option.bind_some]
  · rw [List.getElem?_eq_none (Nat.le_of_not_lt hj), List.getElem?_eq_none]
    rw [length_crosswise]
    exact Nat.le_of_not_lt hj

/-- Lists that are put behind others make each of the turned lists longer. -/
theorem crosswise_append (count : Nat) (lists others : List (List α)) :
    crosswise count (lists ++ others) =
      List.zipWith (· ++ ·) (crosswise count lists) (crosswise count others) := by
  rw [crosswise, crosswise, crosswise, List.zipWith_map, List.zipWith_self]
  exact List.map_congr_left fun i _ => cellsAt_append lists others i

end turning

namespace ResultSet

variable {columns : List NativeColumn} {data rows : List (List Json)} {set : ResultSet} {n : Nat}

/-! ### Rows built column by column -/

/-- Every row has got the cells at its index, in the order of the columns. -/
theorem getElem?_foldl_addColumn (h : ∀ column ∈ data, column.length = rows.length) (i : Nat) :
    (data.foldl addColumn rows)[i]? = rows[i]?.map (· ++ cellsAt data i) := by
  induction data generalizing rows with
  | nil => simp [cellsAt]
  | cons column rest ih =>
    obtain ⟨hcolumn, hrest⟩ := List.forall_mem_cons.mp h
    have hlength : (addColumn rows column).length = rows.length := by
      rw [addColumn, List.length_zipWith, hcolumn, Nat.min_self]
    rw [List.foldl_cons, ih fun other hother => (hrest other hother).trans hlength.symm]
    by_cases hi : i < rows.length
    · have hcell : column[i]? = some column[i] := List.getElem?_eq_getElem _
      rw [addColumn, List.getElem?_zipWith, List.getElem?_eq_getElem hi, hcell, cellsAt_cons hcell]
      exact congrArg some (List.append_assoc _ _ _)
    · rw [List.getElem?_eq_none (by omega), List.getElem?_eq_none (by omega)]
      rfl

theorem foldl_addColumn_eq (h : ∀ column ∈ data, column.length = n) :
    data.foldl addColumn (List.replicate n []) = crosswise n data := by
  refine List.ext_getElem? fun i => ?_
  rw [getElem?_foldl_addColumn fun column hcolumn =>
    (h column hcolumn).trans List.length_replicate.symm]
  by_cases hi : i < n
  · rw [getElem?_crosswise data hi, List.getElem?_replicate_of_lt hi]
    rfl
  · rw [List.getElem?_eq_none (by simpa using hi), List.getElem?_eq_none (by simpa using hi)]
    rfl

/-- There are no cells, or each column has its list, all equally long. -/
def Fits (columns : List NativeColumn) (data : List (List Json)) : Prop :=
  data = [] ∨ data.length = columns.length ∧ ∃ n, ∀ column ∈ data, column.length = n

theorem ofColumns_of_equal (hne : data ≠ []) (hlength : data.length = columns.length)
    (h : ∀ column ∈ data, column.length = n) :
    ofColumns columns data = .ok ⟨columns, crosswise n data⟩ := by
  cases data with
  | nil => exact absurd rfl hne
  | cons first rest =>
    have hfirst : first.length = n := h first List.mem_cons_self
    have hsame : (first :: rest).any (·.length != first.length) = false := by
      rw [List.any_eq_false]
      intro column hcolumn
      simp [h column hcolumn, hfirst]
    rw [ofColumns, if_neg (not_not.mpr hlength), hsame, if_neg Bool.false_ne_true, hfirst,
      foldl_addColumn_eq h]

theorem ofColumns_of_not_fits (h : ¬ Fits columns data) :
    ∃ fault, ofColumns columns data = .error fault := by
  obtain ⟨hne, hunequal⟩ := not_or.mp h
  cases data with
  | nil => exact absurd rfl hne
  | cons first rest =>
    unfold ofColumns
    by_cases hlength : (first :: rest).length = columns.length
    · have hragged : (first :: rest).any (·.length != first.length) = true := by
        by_contra hsame
        rw [Bool.not_eq_true, List.any_eq_false] at hsame
        exact hunequal ⟨hlength, first.length, by simpa using hsame⟩
      simp only [hlength, ne_eq, not_true_eq_false, if_false, hragged, if_true]
      exact ⟨_, rfl⟩
    · simp only [ne_eq, hlength, not_false_eq_true, if_true]
      exact ⟨_, rfl⟩

/-- What is built of columns are their cells, crosswise. -/
theorem ofColumns_eq_ok_iff : ofColumns columns data = .ok set ↔
    data = [] ∧ set = ⟨columns, []⟩ ∨ data ≠ [] ∧ data.length = columns.length ∧
      ∃ n, (∀ column ∈ data, column.length = n) ∧ set = ⟨columns, crosswise n data⟩ := by
  constructor
  · intro h
    by_cases hfits : Fits columns data
    · by_cases hne : data = []
      · subst hne
        exact Or.inl ⟨rfl, (Except.ok.inj h).symm⟩
      · obtain ⟨hlength, n, hn⟩ := hfits.resolve_left hne
        rw [ofColumns_of_equal hne hlength hn] at h
        exact Or.inr ⟨hne, hlength, n, hn, (Except.ok.inj h).symm⟩
    · obtain ⟨fault, hfault⟩ := ofColumns_of_not_fits hfits
      rw [hfault] at h
      cases h
  · rintro (⟨rfl, rfl⟩ | ⟨hne, hlength, n, hn, rfl⟩)
    · rfl
    · exact ofColumns_of_equal hne hlength hn

theorem exists_ofColumns_eq_ok : (∃ set, ofColumns columns data = .ok set) ↔ Fits columns data := by
  constructor
  · rintro ⟨set, hset⟩
    rcases ofColumns_eq_ok_iff.mp hset with ⟨rfl, -⟩ | ⟨-, hlength, n, hn, -⟩
    · exact Or.inl rfl
    · exact Or.inr ⟨hlength, n, hn⟩
  · rintro (rfl | ⟨hlength, n, hn⟩)
    · exact ⟨_, rfl⟩
    · by_cases hne : data = []
      · subst hne
        exact ⟨_, rfl⟩
      · exact ⟨_, ofColumns_of_equal hne hlength hn⟩

/-! ### All cells -/

/-- Cells that come column by column make a result set if there are none of them, or if each column
    has its list and all lists are equally long. If not, their format is wrong. The cell of a row
    and a column is the one where they cross, wherever there is one; each row has one for each
    column, and without cells there are no rows. The rows give the lists back, column by column. -/
theorem cells_of_columns (columns : List NativeColumn) (data : List (List Json)) :
    let built := (ofColumns columns data).mapError RunnerError.format
    ((∃ set, built = .ok set) ↔ Fits columns data) ∧
    (¬ Fits columns data → ∃ e, built = .error e ∧ e.kind = "Format") ∧
    ∀ set, built = .ok set → set.columns = columns ∧
      (∀ i j : Nat, set.rows[i]?.bind (·[j]?) = data[j]?.bind (·[i]?)) ∧
      (∀ row ∈ set.rows, row.length = columns.length) ∧
      (data = [] → set.rows = []) ∧
      (data ≠ [] → crosswise columns.length set.rows = data) := by
  simp only [mapError_eq_ok]
  refine ⟨exists_ofColumns_eq_ok, fun h => ?_, fun set hset => ?_⟩
  · obtain ⟨fault, hfault⟩ := ofColumns_of_not_fits h
    rw [hfault]
    exact ⟨_, rfl, rfl⟩
  · rcases ofColumns_eq_ok_iff.mp hset with ⟨rfl, rfl⟩ | ⟨hne, hlength, n, hn, rfl⟩
    · exact ⟨rfl, fun _ _ => rfl, List.forall_mem_nil _, fun _ => rfl, fun hne => absurd rfl hne⟩
    · refine ⟨rfl, cell_crosswise hn, fun row hrow => ?_, fun hnil => absurd hnil hne, fun _ => ?_⟩
      · rw [length_of_mem_crosswise hn hrow, hlength]
      · rw [← hlength]
        exact crosswise_crosswise hn

/-- Two columns of two cells. -/
theorem cells_of_columns_two :
    let columns : List NativeColumn :=
      [⟨"ID", "DECIMAL", some 9, some 0⟩, ⟨"NAME", "VARCHAR", none, none⟩]
    let data : List (List Json) := [[.int 1, .int 2], [.string "a", .null]]
    ∃ set, (ofColumns columns data).mapError RunnerError.format = .ok set ∧
      set.rows[1]?.bind (·[0]?) = some (.int 2) ∧ (∀ row ∈ set.rows, row.length = 2) ∧
      crosswise 2 set.rows = data := by
  intro columns data
  have hfits : Fits columns data := Or.inr ⟨rfl, 2, by decide⟩
  obtain ⟨hbuilt, -, hall⟩ := cells_of_columns columns data
  obtain ⟨set, hset⟩ := hbuilt.mpr hfits
  obtain ⟨-, hcells, hwidth, -, hback⟩ := hall set hset
  exact ⟨set, hset, hcells 1 0, hwidth, hback (List.cons_ne_nil _ _)⟩

end ResultSet

end QueryDispatch
