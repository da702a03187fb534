import Mathlib.Algebra.Order.BigOperators.Group.List
import Mathlib.Algebra.Order.Ring.Nat
import QueryDispatch.Proofs.Data.Chains
import QueryDispatch.Proofs.Warehouse.Columns
import QueryDispatch.Proofs.Warehouse.Parts

/-! # The rows of a result set

  Rows that a reply leaves out are fetched by position. The position is counted
  on by what every reply says about itself, while the rows are those of its
  cells: so there are as many rows as come, and fetching ends once enough of
  them have been announced.
-/

namespace QueryDispatch

/-! ### How many rows some cells are -/

/-- The number of rows that cells are, by the first column. -/
def rowsIn (data : List (List Json)) : Nat := (data.head?.map List.length).getD 0

theorem rowsIn_of_extend {data more joined : List (List Json)}
    (h : Reply.extend data more = .ok joined) : rowsIn joined = rowsIn data + rowsIn more := by
  unfold Reply.extend at h
  cases data with
  | nil =>
    rw [← Except.ok.inj h]
    exact (Nat.zero_add _).symm
  | cons column data =>
    rw [List.isEmpty_cons, if_neg Bool.false_ne_true] at h
    split at h
    · cases h
    · next hlength =>
      rw [← Except.ok.inj h]
      cases more with
      | nil => simp at hlength
      | cons other more => exact List.length_append

/-- Columns that are equally long are as many rows as each of them is long. -/
theorem rowsIn_of_equal {data : List (List Json)} {n : Nat} (hne : data ≠ [])
    (h : ∀ column ∈ data, column.length = n) : rowsIn data = n := by
  cases data with
  | nil => exact absurd rfl hne
  | cons first rest => exact h first List.mem_cons_self

/-- A result set has as many rows as its cells are. -/
theorem ResultSet.length_rows_of_ofColumns {columns : List NativeColumn} {data : List (List Json)}
    {set : ResultSet} (h : ofColumns columns data = .ok set) : set.rows.length = rowsIn data := by
  rcases ofColumns_eq_ok_iff.mp h with ⟨rfl, rfl⟩ | ⟨hne, -, n, hn, rfl⟩
  · rfl
  · rw [length_crosswise, rowsIn_of_equal hne hn]

namespace Line

/-! ### Fetching -/

/-- The position that is counted to, chunk by chunk. -/
def positionAfter (position : UInt64) (chunks : List Reply.Chunk) : UInt64 :=
  chunks.foldl (fun position chunk => position + chunk.rowCount) position

/-- The fetches that some chunks are the replies to. -/
def fetches (handle : Int64) : UInt64 → List Reply.Chunk → List Command
  | _, [] => []
  | position, chunk :: rest =>
    .fetch handle position :: fetches handle (position + chunk.rowCount) rest

/-- The answers are these chunks and then one more, to the end of the handle. -/
structure Brings (answers : Nat → Except RunnerError Json) (chunks : List Reply.Chunk) : Prop where
  chunk : ∀ i chunk, chunks[i]? = some chunk →
    ∃ data, answers i = .ok data ∧ Reply.chunk? data = some chunk
  last : ∃ data, answers chunks.length = .ok data

theorem brings_nil_iff {answers : Nat → Except RunnerError Json} :
    Brings answers [] ↔ ∃ data, answers 0 = .ok data :=
  ⟨fun h => h.last, fun h => ⟨fun _ _ hnone => by simp at hnone, h⟩⟩

theorem brings_cons_iff {answers : Nat → Except RunnerError Json} {chunk : Reply.Chunk}
    {rest : List Reply.Chunk} : Brings answers (chunk :: rest) ↔
      (∃ data, answers 0 = .ok data ∧ Reply.chunk? data = some chunk) ∧
        Brings (fun i => answers (1 + i)) rest := by
  constructor
  · intro h
    refine ⟨h.chunk 0 chunk rfl, fun i other hother => ?_, ?_⟩
    · rw [Nat.add_comm]
      exact h.chunk (i + 1) other hother
    · rw [Nat.add_comm]
      exact h.last
  · rintro ⟨hfirst, hrest⟩
    refine ⟨fun i other hother => ?_, ?_⟩
    · cases i with
      | zero => exact Option.some.inj hother ▸ hfirst
      | succ i =>
        rw [Nat.add_comm]
        exact hrest.chunk i other hother
    · rw [List.length_cons, Nat.add_comm]
      exact hrest.last

/-- Behind a command the answers are those from the next one on. -/
theorem answer_command (line : Line) (c : Command) :
    answer (line.command c).2.frames = fun i => answer line.frames (1 + i) :=
  funext fun i => answer_of_drop (command_eq line c).2.2 i

/-- From a position on, these chunks are what is missing: each is wanted, has rows and fits those
    before it, and nothing is wanted behind them. They come to rows. -/
inductive Drains (total : UInt64) :
    UInt64 → List (List Json) → List Reply.Chunk → List (List Json) → Prop where
  | full {position : UInt64} {rows : List (List Json)} (reached : ¬ position < total) :
    Drains total position rows [] rows
  | fetch {position : UInt64} {rows more all : List (List Json)} {chunk : Reply.Chunk}
      {chunks : List Reply.Chunk} (wanted : position < total) (filled : chunk.rowCount ≠ 0)
      (extended : Reply.extend rows chunk.data = .ok more)
      (rest : Drains total (position + chunk.rowCount) more chunks all) :
    Drains total position rows (chunk :: chunks) all

section fetching

variable {handle : Int64} {total position : UInt64} {rows all : List (List Json)}
  {chunks : List Reply.Chunk} {line : Line}

/-- Fetching comes to what the chunks drain to, or to the error at the end of the handle. -/
theorem fetchRest_of_chunks (hdrains : Drains total position rows chunks all)
    (hchunks : ∀ i chunk, chunks[i]? = some chunk →
      ∃ data, answer line.frames i = .ok data ∧ Reply.chunk? data = some chunk) :
    (fetchRest handle total position rows line).1 =
        (answer line.frames chunks.length).map (fun _ => all) ∧
      (fetchRest handle total position rows line).2.sent =
        line.sent ++ (fetches handle position chunks ++ [.closeResultSet handle]) := by
  induction hdrains generalizing line with
  | full reached =>
    rw [fetchRest_eq, if_neg reached, List.length_nil]
    cases hanswer : answer line.frames 0 with
    | error e =>
      rw [ask_of_error hanswer]
      exact ⟨rfl, rfl⟩
    | ok data =>
      rw [ask_of_ok hanswer]
      exact ⟨rfl, rfl⟩
  | @fetch position rows more all chunk chunks wanted filled extended rest ih =>
    obtain ⟨data, hanswer, hchunk⟩ := hchunks 0 chunk rfl
    -- the rest is drained on the line behind this fetch
    have hlater : ∀ i, answer (line.command (.fetch handle position)).2.frames i =
        answer line.frames (i + 1) := by
      intro i
      rw [answer_command, Nat.add_comm]
    obtain ⟨hresult, hsent⟩ := ih fun i other hother => hlater i ▸ hchunks (i + 1) other hother
    rw [fetchRest_eq, if_pos wanted, ask_of_ok hanswer]
    simp only [hchunk, if_neg filled, extended]
    refine ⟨hresult.trans (by rw [hlater]; rfl), hsent.trans ?_⟩
    rw [(command_eq line _).2.1, List.append_assoc]
    rfl

/-- Fetching comes to what the answers drain to. -/
theorem fetchRest_of_drains (hdrains : Drains total position rows chunks all)
    (hbrings : Brings (answer line.frames) chunks) :
    (fetchRest handle total position rows line).1 = .ok all ∧
      (fetchRest handle total position rows line).2.sent =
        line.sent ++ (fetches handle position chunks ++ [.closeResultSet handle]) := by
  obtain ⟨data, hlast⟩ := hbrings.last
  obtain ⟨hresult, hsent⟩ := fetchRest_of_chunks hdrains hbrings.chunk
  rw [hlast] at hresult
  exact ⟨hresult, hsent⟩

/-- Fetching that comes to rows has drained the answers. -/
theorem drains_of_fetchRest (h : (fetchRest handle total position rows line).1 = .ok all) :
    ∃ chunks, Brings (answer line.frames) chunks ∧ Drains total position rows chunks all := by
  -- by the number of frames, since every reply takes one at least
  induction hlength : line.frames.length using Nat.strongRecOn
    generalizing position rows line with
  | ind length ih =>
    rw [fetchRest_eq] at h
    split at h
    · next hwanted =>
      obtain ⟨data, hanswer, h⟩ := ask_eq_ok h
      have hshorter := length_command
        ((command_eq line (.fetch handle position)).1.trans hanswer)
      cases hchunk : Reply.chunk? data with
      | none =>
        simp only [hchunk] at h
        cases h
      | some chunk =>
        simp only [hchunk] at h
        split at h
        · cases h
        · next hfilled =>
          cases hmore : Reply.extend rows chunk.data with
          | error fault =>
            simp only [hmore] at h
            cases h
          | ok more =>
            simp only [hmore] at h
            obtain ⟨chunks, hbrings, hdrains⟩ := ih _ (hlength ▸ hshorter) h rfl
            rw [answer_command] at hbrings
            exact ⟨chunk :: chunks, brings_cons_iff.mpr ⟨⟨data, hanswer, hchunk⟩, hbrings⟩,
              .fetch hwanted hfilled hmore hdrains⟩
    · next hreached =>
      obtain ⟨data, hanswer, h⟩ := ask_eq_ok h
      obtain rfl := Except.ok.inj h
      exact ⟨[], brings_nil_iff.mpr ⟨data, hanswer⟩, .full hreached⟩

end fetching

/-! ### Counting -/

theorem toNat_positionAfter (position : UInt64) (chunks : List Reply.Chunk) :
    (positionAfter position chunks).toNat =
      (position.toNat + (chunks.map (·.rowCount.toNat)).sum) % 2 ^ 64 := by
  induction chunks generalizing position with
  | nil => exact (Nat.mod_eq_of_lt position.toNat_lt).symm
  | cons chunk rest ih =>
    show (positionAfter (position + chunk.rowCount) rest).toNat = _
    rw [ih, UInt64.toNat_add, List.map_cons, List.sum_cons, Nat.mod_add_mod, Nat.add_assoc]

theorem toNat_positionAfter_rowsSoFar (data : List (List Json)) (chunks : List Reply.Chunk) :
    (positionAfter (rowsSoFar data) chunks).toNat =
      (rowsIn data + (chunks.map (·.rowCount.toNat)).sum) % 2 ^ 64 := by
  have hstart : (rowsSoFar data).toNat = rowsIn data % 2 ^ 64 := UInt64.toNat_ofNat'
  rw [toNat_positionAfter, hstart, Nat.mod_add_mod]

/-- What chunks declare that have it, up to any of them. -/
theorem sum_take_rowCount_le {chunks : List Reply.Chunk}
    (h : ∀ chunk ∈ chunks, chunk.rowCount.toNat ≤ rowsIn chunk.data) (n : Nat) :
    ((chunks.take n).map (·.rowCount.toNat)).sum ≤
      (chunks.map fun chunk => rowsIn chunk.data).sum := by
  calc ((chunks.take n).map (·.rowCount.toNat)).sum
      ≤ ((chunks.take n).map fun chunk => rowsIn chunk.data).sum :=
        List.sum_le_sum fun chunk hchunk => h chunk (List.mem_of_mem_take hchunk)
    _ ≤ (chunks.map fun chunk => rowsIn chunk.data).sum :=
        ((List.take_sublist n chunks).map _).sum_le_sum fun _ _ => Nat.zero_le _

namespace Drains

variable {total position : UInt64} {rows all : List (List Json)} {chunks : List Reply.Chunk}

/-- There are as many rows as come. -/
theorem rowsIn_eq (h : Drains total position rows chunks all) :
    rowsIn all = rowsIn rows + (chunks.map fun chunk => rowsIn chunk.data).sum := by
  induction h with
  | full => rfl
  | fetch _ _ extended _ ih =>
    rw [ih, rowsIn_of_extend extended, List.map_cons, List.sum_cons, Nat.add_assoc]

/-- The position stays below the total until the last chunk. -/
theorem positionAfter_take_lt (h : Drains total position rows chunks all) {n : Nat}
    (hn : n < chunks.length) : positionAfter position (chunks.take n) < total := by
  induction h generalizing n with
  | full => exact absurd hn (Nat.not_lt_zero n)
  | fetch wanted _ _ _ ih =>
    cases n with
    | zero => exact wanted
    | succ n => exact ih (Nat.lt_of_succ_lt_succ hn)

theorem le_positionAfter (h : Drains total position rows chunks all) :
    total ≤ positionAfter position chunks := by
  induction h with
  | full reached => exact UInt64.not_lt.mp reached
  | fetch _ _ _ _ ih => exact ih

end Drains

/-! ### Executing -/

section executing

variable {statement : String} {line : Line} {data : Json} {set : Reply.SentResultSet}
  {handle : Int64}

/-- A statement whose result set has a handle is executed by fetching. -/
theorem execute_of_handle (hanswer : answer line.frames 0 = .ok data)
    (hread : Reply.resultSet? data = some (some set)) (hhandle : set.handle = some handle) :
    execute statement line =
      andThen (fetchRest handle set.rowCount (rowsSoFar set.data) set.data)
        (fun rows => stay (do (ResultSet.ofColumns set.columns (← rows)).mapError .format))
        (line.command (.execute statement)).2 := by
  rw [execute_eq, ask_of_ok hanswer]
  simp only [hread, hhandle]

/-- It comes to the rows that the answers behind drain to. -/
theorem execute_eq_ok_iff (hanswer : answer line.frames 0 = .ok data)
    (hread : Reply.resultSet? data = some (some set)) (hhandle : set.handle = some handle)
    {result : ResultSet} :
    (execute statement line).1 = .ok result ↔ ∃ chunks all,
      Brings (fun i => answer line.frames (1 + i)) chunks ∧
      Drains set.rowCount (rowsSoFar set.data) set.data chunks all ∧
      ResultSet.ofColumns set.columns all = .ok result := by
  rw [execute_of_handle hanswer hread hhandle, ← answer_command line (.execute statement)]
  simp only [andThen, stay]
  constructor
  · intro h
    obtain ⟨all, hall, hresult⟩ := bind_eq_ok.mp h
    obtain ⟨chunks, hbrings, hdrains⟩ := drains_of_fetchRest hall
    exact ⟨chunks, all, hbrings, hdrains, mapError_eq_ok.mp hresult⟩
  · rintro ⟨chunks, all, hbrings, hdrains, hresult⟩
    rw [(fetchRest_of_drains hdrains hbrings).1]
    exact mapError_eq_ok.mpr hresult

/-- The same when it is open whether the end of the handle is confirmed. -/
theorem execute_of_chunks (hanswer : answer line.frames 0 = .ok data)
    (hread : Reply.resultSet? data = some (some set)) (hhandle : set.handle = some handle)
    {chunks : List Reply.Chunk} {all : List (List Json)}
    (hchunks : ∀ i chunk, chunks[i]? = some chunk →
      ∃ data, answer line.frames (1 + i) = .ok data ∧ Reply.chunk? data = some chunk)
    (hdrains : Drains set.rowCount (rowsSoFar set.data) set.data chunks all) :
    (execute statement line).1 = ((answer line.frames (1 + chunks.length)).bind fun _ =>
        (ResultSet.ofColumns set.columns all).mapError .format) ∧
      (execute statement line).2.sent = line.sent ++ .execute statement ::
        (fetches handle (rowsSoFar set.data) chunks ++ [.closeResultSet handle]) := by
  have hlater := answer_command line (.execute statement)
  have hchunks' : ∀ i chunk, chunks[i]? = some chunk → ∃ data,
      answer (line.command (.execute statement)).2.frames i = .ok data ∧
        Reply.chunk? data = some chunk := by
    rw [hlater]
    exact hchunks
  obtain ⟨hfetched, hsent⟩ := @fetchRest_of_chunks handle _ _ _ _ _ _ hdrains hchunks'
  rw [execute_of_handle hanswer hread hhandle]
  constructor
  · simp only [andThen, stay, hfetched, hlater]
    cases answer line.frames (1 + chunks.length) <;> rfl
  · refine hsent.trans ?_
    rw [(command_eq line _).2.1, List.append_assoc]
    rfl

theorem sent_execute (hanswer : answer line.frames 0 = .ok data)
    (hread : Reply.resultSet? data = some (some set)) (hhandle : set.handle = some handle)
    {chunks : List Reply.Chunk} {all : List (List Json)}
    (hbrings : Brings (fun i => answer line.frames (1 + i)) chunks)
    (hdrains : Drains set.rowCount (rowsSoFar set.data) set.data chunks all) :
    (execute statement line).2.sent = line.sent ++ .execute statement ::
      (fetches handle (rowsSoFar set.data) chunks ++ [.closeResultSet handle]) :=
  (execute_of_chunks hanswer hread hhandle hbrings.chunk hdrains).2

end executing

/-! ### Peers with three rows -/

/-- The text of a reply with some data. -/
def replyText (data : List (String × Json)) : String :=
  (Json.record [("status", .string "ok"), ("responseData", .record data)]).text

/-- The text of the reply to a fetch: the number of rows that it declares, and its cells. -/
def chunkText (count : Int) (column : List Json) : String :=
  replyText [("numRows", .int count), ("data", .array [.array column])]

/-- A peer that gives the first of three rows and a handle, and then what it says. -/
def threeRows (chunks : List String) : List Frame :=
  let column := Json.record [("name", .string "N"), ("dataType", .record
    [("type", .string "DECIMAL"), ("precision", .int 9), ("scale", .int 0)])]
  let set := Json.record [("resultSetHandle", .int 7), ("numRows", .int 3),
    ("columns", .array [column]), ("data", .array [.array [.int 1]])]
  .text (replyText [("results", .array [.record [("resultSet", set)]])]) ::
    (chunks.map .text ++ [.text (replyText [])])

/-- A text is the reply that brings a chunk. -/
def ReadsAs (text : String) (chunk : Reply.Chunk) : Prop :=
  (((readText text).bind Reply.data).toOption.bind Reply.chunk?).map
    (fun chunk => (chunk.rowCount, chunk.data)) = some (chunk.rowCount, chunk.data)

instance (text : String) (chunk : Reply.Chunk) : Decidable (ReadsAs text chunk) :=
  inferInstanceAs (Decidable (_ = _))

theorem answer_cons_text (text : String) (rest : List Frame) :
    (fun i => answer (.text text :: rest) (1 + i)) = answer rest :=
  funext fun i => (answer_of_drop rfl i).symm

theorem chunk_of_readsAs {text : String} {chunk : Reply.Chunk} (h : ReadsAs text chunk)
    (rest : List Frame) :
    ∃ data, answer (.text text :: rest) 0 = .ok data ∧ Reply.chunk? data = some chunk := by
  obtain ⟨⟨count, cells⟩, hfound, hsame⟩ := Option.map_eq_some_iff.mp h
  obtain ⟨data, hanswer, hread⟩ := Option.bind_eq_some_iff.mp hfound
  obtain ⟨rfl, rfl⟩ := Prod.mk.inj hsame
  exact ⟨data, (answer_of_text rfl).trans (eq_ok_of_toOption hanswer), hread⟩

theorem brings_threeRows {texts : List String} {chunks : List Reply.Chunk}
    (h : List.Forall₂ ReadsAs texts chunks) :
    Brings (fun i => answer (threeRows texts) (1 + i)) chunks := by
  unfold threeRows
  rw [answer_cons_text]
  induction h with
  | nil =>
    refine brings_nil_iff.mpr ⟨.record [], ?_⟩
    rw [List.map_nil, List.nil_append, answer_of_text rfl]
    exact eq_ok_of_toOption (by decide +kernel)
  | cons hread _ ih =>
    refine brings_cons_iff.mpr ⟨chunk_of_readsAs hread _, ?_⟩
    rw [List.map_cons, List.cons_append, answer_cons_text]
    exact ih

/-- A statement on such a peer, when what it says drains to one column of cells. -/
theorem execute_threeRows (statement : String) {texts : List String} {chunks : List Reply.Chunk}
    {cells : List Json} (hbrings : Brings (fun i => answer (threeRows texts) (1 + i)) chunks)
    (hdrains : Drains 3 1 [[.int 1]] chunks [cells]) :
    ∃ data set result, answer (threeRows texts) 0 = .ok data ∧
      Reply.resultSet? data = some (some set) ∧ set.handle = some 7 ∧ set.rowCount = 3 ∧
      set.data = [[.int 1]] ∧ (execute statement ⟨threeRows texts, []⟩).1 = .ok result ∧
      result.rows.length = cells.length ∧
      (execute statement ⟨threeRows texts, []⟩).2.sent =
        .execute statement :: (fetches 7 1 chunks ++ [.closeResultSet 7]) := by
  obtain ⟨set, hset, hfields⟩ := Option.map_eq_some_iff.mp
    (show (((answer (threeRows texts) 0).toOption.bind Reply.resultSet?).bind id).map
        (fun set => (set.handle, set.rowCount, set.columns.length, set.data)) =
          some (some 7, 3, 1, [[.int 1]]) by
      rw [answer_of_text rfl]
      decide +kernel)
  obtain ⟨found, hfound, rfl⟩ := Option.bind_eq_some_iff.mp hset
  obtain ⟨data, hanswer, hread⟩ := Option.bind_eq_some_iff.mp hfound
  simp only [Prod.mk.injEq] at hfields
  obtain ⟨hhandle, htotal, hcolumns, hdata⟩ := hfields
  have hanswer := eq_ok_of_toOption hanswer
  have hstart : rowsSoFar set.data = 1 := by
    rw [hdata]
    rfl
  rw [← htotal, ← hstart, ← hdata] at hdrains
  have hresult : ResultSet.ofColumns set.columns [cells] =
      .ok ⟨set.columns, [cells].foldl ResultSet.addColumn (List.replicate cells.length [])⟩ := by
    simp [ResultSet.ofColumns, hcolumns]
  have hsent : (execute statement ⟨threeRows texts, []⟩).2.sent = _ :=
    sent_execute hanswer hread hhandle hbrings hdrains
  rw [hstart] at hsent
  exact ⟨data, set, _, hanswer, hread, hhandle, htotal, hdata,
    (execute_eq_ok_iff hanswer hread hhandle).mpr ⟨chunks, _, hbrings, hdrains, hresult⟩,
    ResultSet.length_rows_of_ofColumns hresult, hsent⟩

/-! ### All rows -/

/-- What is fetched by a handle. The chunks are the answers behind the statement, each of them asked
    for at the position that those before it are counted to. There are as many rows as the cells of
    all replies are. But the position counts what the replies declare, modulo `2 ^ 64`: it is below
    the declared total before each fetch, and not below it behind the last one. If no chunk declares
    more rows than it has, no row is missing and the position is exact; and if no more rows come
    than the total, there are exactly as many. -/
theorem rows_of_fetched {statement : String} {line : Line} {data : Json}
    {set : Reply.SentResultSet} {handle : Int64} (hanswer : answer line.frames 0 = .ok data)
    (hread : Reply.resultSet? data = some (some set)) (hhandle : set.handle = some handle)
    {result : ResultSet} (hresult : (execute statement line).1 = .ok result) :
    ∃ chunks : List Reply.Chunk,
      Brings (fun i => answer line.frames (1 + i)) chunks ∧
      (execute statement line).2.sent = line.sent ++ .execute statement ::
        (fetches handle (rowsSoFar set.data) chunks ++ [.closeResultSet handle]) ∧
      result.rows.length = rowsIn set.data + (chunks.map fun chunk => rowsIn chunk.data).sum ∧
      (∀ n < chunks.length, positionAfter (rowsSoFar set.data) (chunks.take n) < set.rowCount) ∧
      set.rowCount ≤ positionAfter (rowsSoFar set.data) chunks ∧
      (∀ n, (positionAfter (rowsSoFar set.data) (chunks.take n)).toNat =
        (rowsIn set.data + ((chunks.take n).map (·.rowCount.toNat)).sum) % 2 ^ 64) ∧
      ((∀ chunk ∈ chunks, chunk.rowCount.toNat ≤ rowsIn chunk.data) →
        (result.rows.length < 2 ^ 64 → set.rowCount.toNat ≤ result.rows.length ∧
          ∀ n, (positionAfter (rowsSoFar set.data) (chunks.take n)).toNat =
            rowsIn set.data + ((chunks.take n).map (·.rowCount.toNat)).sum) ∧
        (result.rows.length ≤ set.rowCount.toNat →
          result.rows.length = set.rowCount.toNat)) := by
  obtain ⟨chunks, all, hbrings, hdrains, hall⟩ :=
    (execute_eq_ok_iff hanswer hread hhandle).mp hresult
  have hlength : result.rows.length =
      rowsIn set.data + (chunks.map fun chunk => rowsIn chunk.data).sum :=
    (ResultSet.length_rows_of_ofColumns hall).trans hdrains.rowsIn_eq
  refine ⟨chunks, hbrings, sent_execute hanswer hread hhandle hbrings hdrains, hlength,
    fun n hn => hdrains.positionAfter_take_lt hn, hdrains.le_positionAfter,
    fun n => toNat_positionAfter_rowsSoFar _ _, fun hhonest => ?_⟩
  -- what is declared is there, so the position cannot run over before the rows do
  have hno_gap : result.rows.length < 2 ^ 64 → set.rowCount.toNat ≤ result.rows.length ∧
      ∀ n, (positionAfter (rowsSoFar set.data) (chunks.take n)).toNat =
        rowsIn set.data + ((chunks.take n).map (·.rowCount.toNat)).sum := by
    intro hrows
    have hexact : ∀ n, (positionAfter (rowsSoFar set.data) (chunks.take n)).toNat =
        rowsIn set.data + ((chunks.take n).map (·.rowCount.toNat)).sum := by
      intro n
      have hdeclared := sum_take_rowCount_le hhonest n
      rw [toNat_positionAfter_rowsSoFar, Nat.mod_eq_of_lt (by omega)]
    refine ⟨?_, hexact⟩
    have hreached := UInt64.le_iff_toNat_le.mp hdrains.le_positionAfter
    have hdeclared := sum_take_rowCount_le hhonest chunks.length
    have hlast := hexact chunks.length
    rw [List.take_length] at hdeclared hlast
    omega
  refine ⟨hno_gap, fun hnone_over => ?_⟩
  have hbelow := Nat.lt_of_le_of_lt hnone_over set.rowCount.toNat_lt
  exact Nat.le_antisymm hnone_over (hno_gap hbelow).1

/-- The two rows that are left out come with one fetch. -/
theorem rows_of_fetched_two :
    let run := execute "SELECT N FROM T" ⟨threeRows [chunkText 2 [.int 2, .int 3]], []⟩
    ∃ result, run.1 = .ok result ∧
      run.2.sent = [.execute "SELECT N FROM T", .fetch 7 1, .closeResultSet 7] ∧
      result.rows.length = 3 := by
  have hbrings := brings_threeRows
    (show List.Forall₂ ReadsAs [chunkText 2 [.int 2, .int 3]] [⟨2, [[.int 2, .int 3]]⟩] from
      .cons (by decide +kernel) .nil)
  have hdrains : Drains 3 1 [[.int 1]] [⟨2, [[.int 2, .int 3]]⟩] [[.int 1, .int 2, .int 3]] :=
    .fetch (by decide) (by decide) rfl (.full (by decide))
  obtain ⟨data, set, result, hanswer, hread, hhandle, htotal, hdata, hresult, -, -⟩ :=
    execute_threeRows "SELECT N FROM T" hbrings hdrains
  obtain ⟨chunks, hchunks, hsent, hlength, hbelow, hreached, -⟩ :=
    rows_of_fetched hanswer hread hhandle hresult
  have hstart : rowsSoFar set.data = 1 := by
    rw [hdata]
    rfl
  rw [hstart] at hsent hbelow hreached
  rw [htotal] at hbelow hreached
  rw [hdata] at hlength
  -- one chunk is needed, and it is enough
  match chunks with
  | [] => exact absurd hreached (by decide)
  | chunk :: rest =>
    obtain ⟨found, hfound, hchunk⟩ := hchunks.chunk 0 chunk rfl
    obtain ⟨found', hfound', hchunk'⟩ := hbrings.chunk 0 _ rfl
    obtain rfl := Except.ok.inj (hfound.symm.trans hfound')
    obtain rfl := Option.some.inj (hchunk.symm.trans hchunk')
    match rest with
    | [] => exact ⟨result, hresult, hsent, hlength⟩
    | other :: rest => exact absurd (hbelow 1 (by simp)) (lt_irrefl 3)

/-- A chunk that declares a row that it does not have ends the fetching, and one that declares
    nearly `2 ^ 64` takes the position back. Either way two of three rows come, without an error. -/
theorem declared_row_missing :
    (∃ data set result,
      let line : Line := ⟨threeRows [chunkText 2 [.int 2]], []⟩
      answer line.frames 0 = .ok data ∧ Reply.resultSet? data = some (some set) ∧
        set.handle = some 7 ∧ set.rowCount = 3 ∧
        (execute "SELECT N FROM T" line).1 = .ok result ∧ result.rows.length = 2) ∧
    ∃ data set result,
      let line : Line :=
        ⟨threeRows [chunkText 18446744073709551615 [.int 2], chunkText 3 []], []⟩
      answer line.frames 0 = .ok data ∧ Reply.resultSet? data = some (some set) ∧
        set.handle = some 7 ∧ set.rowCount = 3 ∧
        (execute "SELECT N FROM T" line).1 = .ok result ∧ result.rows.length = 2 ∧
        (execute "SELECT N FROM T" line).2.sent =
          [.execute "SELECT N FROM T", .fetch 7 1, .fetch 7 0, .closeResultSet 7] := by
  constructor
  · have hreads : List.Forall₂ ReadsAs [chunkText 2 [.int 2]] [⟨2, [[.int 2]]⟩] :=
      .cons (by decide +kernel) .nil
    have hdrains : Drains 3 1 [[.int 1]] [⟨2, [[.int 2]]⟩] [[.int 1, .int 2]] :=
      .fetch (by decide) (by decide) rfl (.full (by decide))
    obtain ⟨data, set, result, hanswer, hread, hhandle, htotal, -, hresult, hlength, -⟩ :=
      execute_threeRows "SELECT N FROM T" (brings_threeRows hreads) hdrains
    exact ⟨data, set, result, hanswer, hread, hhandle, htotal, hresult, hlength⟩
  · have hreads : List.Forall₂ ReadsAs
        [chunkText 18446744073709551615 [.int 2], chunkText 3 []]
        [⟨18446744073709551615, [[.int 2]]⟩, ⟨3, [[]]⟩] :=
      .cons (by decide +kernel) (.cons (by decide +kernel) .nil)
    have hdrains : Drains 3 1 [[.int 1]] [⟨18446744073709551615, [[.int 2]]⟩, ⟨3, [[]]⟩]
        [[.int 1, .int 2]] :=
      .fetch (by decide) (by decide) rfl
        (.fetch (by decide) (by decide) rfl (.full (by decide)))
    obtain ⟨data, set, result, hanswer, hread, hhandle, htotal, -, hresult, hlength, hsent⟩ :=
      execute_threeRows "SELECT N FROM T" (brings_threeRows hreads) hdrains
    exact ⟨data, set, result, hanswer, hread, hhandle, htotal, hresult, hlength, hsent⟩

end Line

end QueryDispatch
