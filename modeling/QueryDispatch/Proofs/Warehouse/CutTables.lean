import QueryDispatch.Proofs.Json.WireForms
import QueryDispatch.Proofs.Warehouse.Draining

/-! # Tables that come in parts

  A peer may cut a table as it likes: some rows come with the reply to the
  statement, and the others in parts, one with each reply to a fetch. Every
  fetch asks for the rows behind those that are there, and the parts make the
  table again.
-/

namespace QueryDispatch

/-! ### Replies in their wire form -/

open Wire

instance : ReadsBack NativeType where
  decode?_encode t := by
    unfold instWireNativeType
    simp [lookup_cons_eq_ite]

instance : ReadsBack NativeColumn where
  decode?_encode c := by
    unfold instWireNativeColumn
    simp [lookup_cons_eq_ite]

namespace Reply

instance : ReadsBack SentResultSet where
  decode?_encode s := by
    unfold instWireSentResultSet
    simp [Json.record, JsonFields.ofEntries, JsonFields.lookup_insert]

instance : RefusesNull SentResultSet := ⟨rfl⟩

/-- The reply to a statement with one result set. -/
def ofResultSet (set : SentResultSet) : Json :=
  .record [("results", .array [.record [("resultSet", encode set)]])]

/-- The reply to a fetch. -/
def ofChunk (chunk : Chunk) : Json :=
  .record [("numRows", encode chunk.rowCount), ("data", encode chunk.data)]

theorem resultSet?_ofResultSet (set : SentResultSet) :
    resultSet? (ofResultSet set) = some (some set) := by
  simp [resultSet?, statementResult?, ofResultSet, Json.record, JsonFields.ofEntries,
    JsonFields.lookup_insert, decode?_array]

theorem chunk?_ofChunk (chunk : Chunk) : chunk? (ofChunk chunk) = some chunk := by
  simp [chunk?, ofChunk, Json.record, JsonFields.ofEntries, JsonFields.lookup_insert]

end Reply

namespace Line

variable {width : Nat} {done data : List (List Json)} {parts : List (List (List Json))}
  {position total : UInt64}

/-! ### Rows as they are sent -/

/-- Rows are sent column by column. For no rows there may be no columns either. -/
def SentAs (width : Nat) (rows data : List (List Json)) : Prop :=
  data = crosswise width rows ∨ rows = [] ∧ data = []

/-- The chunk that brings a part of a table and declares the rows that it has. -/
def chunkOf (width : Nat) (part : List (List Json)) : Reply.Chunk :=
  ⟨UInt64.ofNat part.length, crosswise width part⟩

theorem crosswise_ne_nil (hwidth : 0 < width) (rows : List (List Json)) :
    crosswise width rows ≠ [] := by
  rw [← List.length_pos_iff, length_crosswise]
  exact hwidth

/-- What is sent for some rows makes that many. -/
theorem rowsIn_of_sentAs (hwidth : 0 < width) (hrows : ∀ row ∈ done, row.length = width)
    (h : SentAs width done data) : rowsIn data = done.length := by
  rcases h with rfl | ⟨rfl, rfl⟩
  · exact rowsIn_of_equal (crosswise_ne_nil hwidth _) fun _ => length_of_mem_crosswise hrows
  · rfl

/-- A part is put behind the rows that are there. -/
theorem extend_of_sentAs (hwidth : 0 < width) (h : SentAs width done data)
    (part : List (List Json)) :
    Reply.extend data (crosswise width part) = .ok (crosswise width (done ++ part)) := by
  rcases h with rfl | ⟨rfl, rfl⟩
  · have hsome := List.isEmpty_eq_false_iff.mpr (crosswise_ne_nil hwidth done)
    rw [Reply.extend, hsome, if_neg Bool.false_ne_true, length_crosswise, length_crosswise,
      if_neg (not_not.mpr rfl), crosswise_append]
  · rfl

/-- The rows are built again from what is sent for them. -/
theorem ofColumns_of_sentAs {columns : List NativeColumn} (hcolumns : columns ≠ [])
    (hrows : ∀ row ∈ done, row.length = columns.length) (h : SentAs columns.length done data) :
    ResultSet.ofColumns columns data = .ok ⟨columns, done⟩ := by
  rcases h with rfl | ⟨rfl, rfl⟩
  · have hwidth := List.length_pos_iff.mpr hcolumns
    rw [ResultSet.ofColumns_of_equal (crosswise_ne_nil hwidth _) (length_crosswise _ _)
      fun _ => length_of_mem_crosswise hrows, crosswise_crosswise hrows]
  · rfl

/-! ### Positions -/

theorem toNat_rowCount_chunkOf (width : Nat) {part : List (List Json)}
    (h : part.length < 2 ^ 64) : (chunkOf width part).rowCount.toNat = part.length :=
  UInt64.toNat_ofNat_of_lt' h

theorem toNat_add_chunkOf (width : Nat) {part : List (List Json)}
    (hposition : position.toNat = done.length) (hsmall : (done ++ part).length < 2 ^ 64) :
    (position + (chunkOf width part).rowCount).toNat = (done ++ part).length := by
  rw [List.length_append] at hsmall ⊢
  rw [UInt64.toNat_add, hposition, toNat_rowCount_chunkOf _ (by omega), Nat.mod_eq_of_lt hsmall]

/-- The position is the number of the rows that are there. -/
theorem toNat_positionAfter_parts (hposition : position.toNat = done.length)
    (hsmall : (done ++ parts.flatten).length < 2 ^ 64) :
    (positionAfter position (parts.map (chunkOf width))).toNat = (done ++ parts.flatten).length := by
  induction parts generalizing done position with
  | nil =>
    rw [List.flatten_nil, List.append_nil]
    exact hposition
  | cons part rest ih =>
    rw [List.flatten_cons, ← List.append_assoc] at hsmall ⊢
    have hpart : (done ++ part).length < 2 ^ 64 := by
      rw [List.length_append] at hsmall
      omega
    exact ih (toNat_add_chunkOf width hposition hpart) hsmall

theorem fetches_eq_map (handle : Int64) (position : UInt64) (chunks : List Reply.Chunk) :
    fetches handle position chunks = ((List.range chunks.length).map fun n =>
      positionAfter position (chunks.take n)).map (.fetch handle) := by
  induction chunks generalizing position with
  | nil => rfl
  | cons chunk rest ih =>
    rw [fetches, ih, List.length_cons, List.range_succ_eq_map, List.map_cons, List.map_cons]
    simp only [List.map_map]
    rfl

/-- The positions that parts begin at, if the first of them begins at some position. -/
def startsOf (width : Nat) (position : UInt64) (parts : List (List (List Json))) : List UInt64 :=
  (List.range parts.length).map fun n =>
    positionAfter position ((parts.take n).map (chunkOf width))

theorem toNat_startsOf (hposition : position.toNat = done.length)
    (hsmall : (done ++ parts.flatten).length < 2 ^ 64) :
    (startsOf width position parts).map UInt64.toNat =
      (List.range parts.length).map fun n => (done ++ (parts.take n).flatten).length := by
  rw [startsOf, List.map_map]
  refine List.map_congr_left fun n _ => toNat_positionAfter_parts hposition ?_
  have hsplit : parts.flatten = (parts.take n).flatten ++ (parts.drop n).flatten := by
    rw [← List.flatten_append, List.take_append_drop]
  rw [hsplit, ← List.append_assoc, List.length_append] at hsmall
  omega

theorem fetches_chunkOf (handle : Int64) (position : UInt64) (parts : List (List (List Json))) :
    fetches handle position (parts.map (chunkOf width)) =
      (startsOf width position parts).map (.fetch handle) := by
  rw [fetches_eq_map, List.length_map, startsOf]
  simp only [List.map_take]

/-! ### Draining -/

/-- Parts that each have rows are fetched one after the other, until the table is there. -/
theorem drains_of_parts (hwidth : 0 < width) (hparts : ∀ part ∈ parts, part ≠ [])
    (hdata : SentAs width done data) (hposition : position.toNat = done.length)
    (htotal : total.toNat = (done ++ parts.flatten).length) :
    ∃ all, Drains total position data (parts.map (chunkOf width)) all ∧
      SentAs width (done ++ parts.flatten) all := by
  have hsmall := total.toNat_lt
  induction parts generalizing done data position with
  | nil =>
    rw [List.flatten_nil, List.append_nil] at htotal ⊢
    refine ⟨data, .full ?_, hdata⟩
    rw [UInt64.lt_iff_toNat_lt]
    omega
  | cons part rest ih =>
    obtain ⟨hpart, hrest⟩ := List.forall_mem_cons.mp hparts
    have hlength := List.length_pos_iff.mpr hpart
    rw [List.flatten_cons, ← List.append_assoc] at htotal ⊢
    have hcount : (done ++ part).length ≤ total.toNat :=
      htotal ▸ (List.prefix_append (done ++ part) rest.flatten).length_le
    have hafter := toNat_add_chunkOf width hposition (Nat.lt_of_le_of_lt hcount hsmall)
    obtain ⟨all, hdrains, hall⟩ := ih hrest (.inl rfl) hafter htotal
    rw [List.length_append] at hcount
    refine ⟨all, .fetch ?_ ?_ (extend_of_sentAs hwidth hdata part) hdrains, hall⟩
    · rw [UInt64.lt_iff_toNat_lt]
      omega
    · -- a part has rows, and it declares them
      intro hzero
      have hdeclared := toNat_rowCount_chunkOf width (show part.length < 2 ^ 64 by omega)
      rw [hzero] at hdeclared
      exact absurd hdeclared hlength.ne

/-! ### Peers -/

section peers

variable {answers : Nat → Except RunnerError Json} {handle : Int64} {columns : List NativeColumn}
  {first : List (List Json)}

/-- A peer gives a table in parts: the first rows in the reply to the statement, with a handle and
    the number of all rows, and each part in the reply to a fetch, with the number of its rows. -/
structure GivesInParts (answers : Nat → Except RunnerError Json) (handle : Int64)
    (columns : List NativeColumn) (first : List (List Json)) (parts : List (List (List Json))) :
    Prop where
  opened : ∃ data set, answers 0 = .ok data ∧ Reply.resultSet? data = some (some set) ∧
    set.handle = some handle ∧ set.columns = columns ∧
    set.rowCount.toNat = (first ++ parts.flatten).length ∧ SentAs columns.length first set.data
  fetched : ∀ (i : Nat) part, parts[i]? = some part → ∃ data chunk, answers (i + 1) = .ok data ∧
    Reply.chunk? data = some chunk ∧ chunk.rowCount.toNat = part.length ∧
    chunk.data = crosswise columns.length part

/-- Such a peer answers the fetches with the chunks of the parts. -/
theorem GivesInParts.chunk (h : GivesInParts answers handle columns first parts) (i : Nat)
    (chunk : Reply.Chunk) (hchunk : (parts.map (chunkOf columns.length))[i]? = some chunk) :
    ∃ data, answers (1 + i) = .ok data ∧ Reply.chunk? data = some chunk := by
  rw [List.getElem?_map] at hchunk
  obtain ⟨part, hpart, rfl⟩ := Option.map_eq_some_iff.mp hchunk
  obtain ⟨data, ⟨count, cells⟩, hanswer, hread, hcount, hcells⟩ := h.fetched i part hpart
  refine ⟨data, Nat.add_comm i 1 ▸ hanswer, hread.trans ?_⟩
  simp only at hcount hcells
  rw [chunkOf, ← hcells, ← hcount, UInt64.ofNat_toNat]

/-- A peer that answers in the wire form may give any table in any parts. -/
theorem givesInParts_of_replies (htotal : total.toNat = (first ++ parts.flatten).length)
    (hdata : SentAs columns.length first data)
    (hopened : answers 0 = .ok (Reply.ofResultSet ⟨some handle, total, columns, data⟩))
    (hfetched : ∀ (i : Nat) part, parts[i]? = some part →
      answers (i + 1) = .ok (Reply.ofChunk (chunkOf columns.length part))) :
    GivesInParts answers handle columns first parts where
  opened := ⟨_, _, hopened, Reply.resultSet?_ofResultSet _, rfl, rfl, htotal, hdata⟩
  fetched i part hpart := by
    have hlength : part.length ≤ parts.flatten.length :=
      (List.sublist_flatten_of_mem (List.mem_of_getElem? hpart)).length_le
    have hsmall := total.toNat_lt
    rw [List.length_append] at htotal
    exact ⟨_, _, hfetched i part hpart, Reply.chunk?_ofChunk _,
      toNat_rowCount_chunkOf _ (by omega), rfl⟩

end peers

/-! ### The whole table -/

/-- A table with columns, however it is cut: some rows, which may be none, come with the reply to
    the statement, and the others in parts that each have rows, while every reply declares the rows
    that it has. The fetches start where the rows that are there end, one for each part, and there
    are no others. Then the handle is closed, once. If that is confirmed, the result is the table,
    row by row. -/
theorem table_fetched_in_parts {statement : String} {line : Line} {handle : Int64}
    {columns : List NativeColumn} {first : List (List Json)} {parts : List (List (List Json))}
    (hcolumns : columns ≠ []) (hrows : ∀ row ∈ first ++ parts.flatten, row.length = columns.length)
    (hparts : ∀ part ∈ parts, part ≠ [])
    (hgives : GivesInParts (answer line.frames) handle columns first parts) :
    (execute statement line).1 = (answer line.frames (parts.length + 1)).map
        (fun _ => ⟨columns, first ++ parts.flatten⟩) ∧
      ∃ positions : List UInt64,
        positions.map UInt64.toNat = ((List.range parts.length).map fun n =>
          (first ++ (parts.take n).flatten).length) ∧
        (execute statement line).2.sent = line.sent ++ .execute statement ::
          (positions.map (.fetch handle) ++ [.closeResultSet handle]) := by
  obtain ⟨data, set, hanswer, hread, hhandle, rfl, htotal, hfirst⟩ := hgives.opened
  have hwidth := List.length_pos_iff.mpr hcolumns
  have hsmall : (first ++ parts.flatten).length < 2 ^ 64 := htotal ▸ set.rowCount.toNat_lt
  have hstart : (rowsSoFar set.data).toNat = first.length := by
    have hcount := rowsIn_of_sentAs hwidth (fun row hrow => hrows row (List.mem_append_left _ hrow))
      hfirst
    rw [List.length_append] at hsmall
    rw [← hcount]
    exact UInt64.toNat_ofNat_of_lt' (show rowsIn set.data < 2 ^ 64 by omega)
  obtain ⟨all, hdrains, hall⟩ := drains_of_parts hwidth hparts hfirst hstart htotal
  obtain ⟨hresult, hsent⟩ :=
    execute_of_chunks hanswer hread hhandle hgives.chunk hdrains
  rw [List.length_map, Nat.add_comm, ofColumns_of_sentAs hcolumns hrows hall] at hresult
  rw [fetches_chunkOf] at hsent
  refine ⟨hresult.trans ?_, _, toNat_startsOf hstart hsmall, hsent⟩
  cases answer line.frames (parts.length + 1) <;> rfl

/-- Three rows, none of them with the reply to the statement, and a sign of life in between. -/
theorem table_fetched_in_two_parts :
    let columns : List NativeColumn :=
      [⟨"ID", "DECIMAL", some 9, some 0⟩, ⟨"NAME", "VARCHAR", none, none⟩]
    let parts : List (List (List Json)) :=
      [[[.int 1, .string "a"], [.int 2, .null]], [[.int 3, .string "c"]]]
    let frame := fun data => Frame.text
      (Json.record [("status", .string "ok"), ("responseData", data)]).text
    let frames := [frame (Reply.ofResultSet ⟨some 7, 3, columns, []⟩), .ping] ++
      parts.map (fun part => frame (Reply.ofChunk (chunkOf 2 part))) ++ [frame (.record [])]
    (execute "SELECT ID, NAME FROM T" ⟨frames, []⟩).1 =
        .ok ⟨columns, [[.int 1, .string "a"], [.int 2, .null], [.int 3, .string "c"]]⟩ ∧
      (execute "SELECT ID, NAME FROM T" ⟨frames, []⟩).2.sent =
        [.execute "SELECT ID, NAME FROM T", .fetch 7 0, .fetch 7 2, .closeResultSet 7] := by
  intro columns parts frame frames
  have hopened : answer frames 0 = .ok (Reply.ofResultSet ⟨some 7, 3, columns, []⟩) := by
    rw [answer_of_text rfl]
    exact eq_ok_of_toOption (by decide +kernel)
  have hfetched : ∀ (i : Nat) part, parts[i]? = some part →
      answer frames (i + 1) = .ok (Reply.ofChunk (chunkOf columns.length part)) := by
    intro i part hpart
    match i with
    | 0 | 1 =>
      obtain rfl := Option.some.inj hpart
      rw [answer_of_text rfl]
      exact eq_ok_of_toOption (by decide +kernel)
    | i + 2 => cases hpart
  have hclosed : answer frames 3 = .ok (.record []) := by
    rw [answer_of_text rfl]
    exact eq_ok_of_toOption (by decide +kernel)
  obtain ⟨hresult, positions, hpositions, hsent⟩ :=
    @table_fetched_in_parts "SELECT ID, NAME FROM T" ⟨frames, []⟩ 7 columns [] parts
      (List.cons_ne_nil _ _) (by decide +kernel) (by decide +kernel)
      (givesInParts_of_replies rfl (.inr ⟨rfl, rfl⟩) hopened hfetched)
  have htwo : positions = [0, 2] :=
    List.map_injective_iff.mpr (fun _ _ => UInt64.toNat_inj.mp) (hpositions.trans (by decide))
  subst htwo
  refine ⟨hresult.trans ?_, hsent⟩
  rw [show answer (Line.mk frames []).frames (parts.length + 1) = .ok (.record []) from hclosed]
  rfl

end Line

end QueryDispatch
