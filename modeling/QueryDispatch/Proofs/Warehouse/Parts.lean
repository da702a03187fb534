import QueryDispatch.Proofs.Warehouse.Commands

/-! # The parts of a conversation

  Logging in, executing a statement and fetching the rest of its rows each say
  the commands of their places, whatever the answers are.
-/

namespace QueryDispatch

namespace Line

variable {client : Client} {settings : WarehouseSettings}

/-! ### Fetching -/

theorem fetchRest_eq (handle : Int64) (total position : UInt64) (rows : List (List Json)) :
    fetchRest handle total position rows =
      if position < total then
        ask (.fetch handle position) fun data =>
          match Reply.chunk? data with
          | none => stay (.error (.format .unreadable))
          | some chunk =>
            if chunk.rowCount = 0 then
              stay (.error (.format (.endedEarly position.toNat total.toNat)))
            else match Reply.extend rows chunk.data with
              | .error fault => stay (.error (.format fault))
              | .ok rows => fetchRest handle total (position + chunk.rowCount) rows
      else ask (.closeResultSet handle) fun _ => stay (.ok rows) := by
  funext line
  rw [fetchRest]
  by_cases hwanted : position < total
  · rw [if_pos hwanted, if_pos hwanted]
    simp only [ask, andThen]
    cases line.command (.fetch handle position) with
    | mk reply rest =>
      cases reply with
      | error e => rfl
      | ok data =>
        simp only
        cases Reply.chunk? data with
        | none => rfl
        | some chunk =>
          simp only
          split
          · rfl
          · cases Reply.extend rows chunk.data <;> rfl
  · rw [if_neg hwanted, if_neg hwanted]
    simp only [ask, andThen]
    cases line.command (.closeResultSet handle) with
    | mk reply rest => cases reply <;> rfl

section fetching

variable {frames : List Frame} {set : Reply.SentResultSet} {handle : Int64} {n : Nat}
  {position : UInt64} {rows : List (List Json)} {line : Line}

/-- After a fetch whose answer is not accepted nothing more is said. -/
theorem says_refused_fetch (hrows : Accepted (answer frames) set n position rows)
    (hline : replies line.frames = (replies frames).drop (n + 3))
    (hwanted : position < set.rowCount)
    (hstop : ∀ position rows, ¬ Accepted (answer frames) set (n + 1) position rows) :
    Says (fetchRest handle set.rowCount position rows) line [.fetch handle position] := by
  rw [fetchRest_eq, if_pos hwanted]
  refine says_ask_of_stay ?_
  intro data hdata
  have hdata : answer frames (n + 3) = .ok data := (answer_of_drop hline 0).symm.trans hdata
  cases hchunk : Reply.chunk? data with
  | none => exact ⟨_, rfl⟩
  | some chunk =>
    by_cases hfilled : chunk.rowCount = 0
    · exact ⟨_, if_pos hfilled⟩
    · simp only [if_neg hfilled]
      cases hextend : Reply.extend rows chunk.data with
      | error fault => exact ⟨_, rfl⟩
      | ok more => exact absurd (.fetch hrows hwanted hdata hchunk hfilled hextend) (hstop _ _)

/-- What is said while the rest is fetched. -/
theorem says_fetchRest (statement : String) (hlogin : LoggedIn client settings (answer frames))
    (hset : HandsOut (answer frames) set handle)
    (hrows : Accepted (answer frames) set n position rows)
    (hline : replies line.frames = (replies frames).drop (n + 3)) :
    ∃ said, Says (fetchRest handle set.rowCount position rows) line said ∧
      ∀ j c, said[j]? = some c ↔
        Issued client settings statement (answer frames) (n + 3 + j) c := by
  -- by the number of frames, since the reply to every accepted fetch takes one at least
  induction hlength : line.frames.length using Nat.strongRecOn
    generalizing n position rows line with
  | ind length ih =>
    by_cases hnext : ∃ position rows, Accepted (answer frames) set (n + 1) position rows
    · obtain ⟨position', rows', hnext⟩ := hnext
      obtain ⟨hwanted, data, chunk, hdata, hchunk, hfilled, hextend, rfl⟩ := hrows.succ_iff.mp hnext
      have hanswer : answer line.frames 0 = .ok data := (answer_of_drop hline 0).trans hdata
      obtain ⟨hcommand, -, hrest⟩ := command_eq line (.fetch handle position)
      rw [hline, List.drop_drop] at hrest
      have hshorter := length_command (hcommand.trans hanswer)
      obtain ⟨said, htalk, hsaid⟩ := ih _ (hlength ▸ hshorter) hnext hrest rfl
      have hall := getElem?_fetch_iff hlogin hset hrows hsaid
      rw [if_pos hwanted] at hall
      refine ⟨_, ?_, hall⟩
      rw [fetchRest_eq, if_pos hwanted]
      refine says_ask_of_ok hanswer ?_
      simp only [hchunk, if_neg hfilled, hextend]
      exact htalk
    · -- the last command: a fetch that is not accepted, or the end of the handle
      have hstop : ∀ position rows, ¬ Accepted (answer frames) set (n + 1) position rows :=
        fun position rows hnext' => hnext ⟨position, rows, hnext'⟩
      refine ⟨_, ?_, getElem?_last_iff hlogin hset hrows hstop⟩
      by_cases hwanted : position < set.rowCount
      · rw [if_pos hwanted]
        exact says_refused_fetch hrows hline hwanted hstop
      · rw [if_neg hwanted, fetchRest_eq, if_neg hwanted]
        exact says_ask_of_stay fun _ _ => ⟨_, rfl⟩

end fetching

/-! ### Executing -/

theorem execute_eq (statement : String) :
    execute statement = ask (.execute statement) fun data =>
      match Reply.resultSet? data with
      | none => stay (.error (.format .unreadable))
      | some none => stay (.ok ResultSet.empty)
      | some (some set) =>
        andThen (match set.handle with
          | some handle => fetchRest handle set.rowCount (rowsSoFar set.data) set.data
          | none => stay (.ok set.data)) fun rows =>
            stay (do (ResultSet.ofColumns set.columns (← rows)).mapError .format) := by
  funext line
  unfold execute
  simp only [ask, andThen]
  cases line.command (.execute statement) with
  | mk reply rest =>
    cases reply with
    | error e => rfl
    | ok data =>
      simp only
      cases Reply.resultSet? data with
      | none => rfl
      | some found =>
        cases found with
        | none => rfl
        | some set =>
          simp only
          cases set.handle <;> rfl

/-- What is said while a statement is executed. -/
theorem says_execute (statement : String) {frames : List Frame} {line : Line}
    (hlogin : LoggedIn client settings (answer frames))
    (hline : replies line.frames = (replies frames).drop 2) :
    ∃ said, Says (execute statement) line said ∧
      ∀ j c, said[j]? = some c ↔ Issued client settings statement (answer frames) (2 + j) c := by
  rw [execute_eq]
  by_cases hset : ∃ set handle, HandsOut (answer frames) set handle
  · obtain ⟨set, handle, hset⟩ := hset
    obtain ⟨data, hdata, hread, hhandle⟩ := id hset
    obtain ⟨-, -, hrest⟩ := command_eq line (.execute statement)
    rw [hline, List.drop_drop] at hrest
    obtain ⟨said, htalk, hsaid⟩ := says_fetchRest statement hlogin hset .start hrest
    refine ⟨_, says_ask_of_ok ((answer_of_drop hline 0).trans hdata) ?_,
      getElem?_execute_iff hlogin hsaid⟩
    simp only [hread, hhandle]
    exact htalk.andThen_stay _
  · -- nothing is left out, so there is nothing to fetch
    have hnone : ∀ (j : Nat) (c : Command), ([] : List Command)[j]? = some c ↔
        Issued client settings statement (answer frames) (0 + 3 + j) c := by
      intro j c
      rw [show 0 + 3 + j = j + 3 by omega]
      refine iff_of_false (by simp) ?_
      rintro ⟨-, set, handle, _, _, hset', -⟩
      exact hset ⟨set, handle, hset'⟩
    refine ⟨_, says_ask_of_stay ?_, getElem?_execute_iff hlogin hnone⟩
    intro data hdata
    have hdata : answer frames 2 = .ok data := (answer_of_drop hline 0).symm.trans hdata
    cases hread : Reply.resultSet? data with
    | none => exact ⟨_, rfl⟩
    | some found =>
      cases found with
      | none => exact ⟨_, rfl⟩
      | some set =>
        cases hhandle : set.handle with
        | none =>
          simp only [hhandle]
          exact ⟨_, rfl⟩
        | some handle => exact absurd ⟨set, handle, data, hdata, hread, hhandle⟩ hset

/-! ### Logging in -/

/-- What the answer to the credentials means for the connection. -/
def loginOutcome : Except RunnerError Json → Except RunnerError Unit
  | .ok _ => .ok ()
  | .error (.query text) => .error (.transport (.loginRefused text))
  | .error e => .error e

theorem loginOutcome_eq_ok_iff {reply : Except RunnerError Json} :
    loginOutcome reply = .ok () ↔ ∃ data, reply = .ok data := by
  cases reply with
  | ok data => simp [loginOutcome]
  | error e => cases e <;> simp [loginOutcome]

/-- Sends the credentials, if the reply to the login has a key for them. -/
def sendCredentials (client : Client) (settings : WarehouseSettings) (data : Json) :
    Line → Except RunnerError Unit × Line :=
  match Reply.loginKey? data with
  | none => stay (.error (.format .unreadable))
  | some key =>
    match encryptPassword key client.noise settings.password with
    | .error fault => stay (.error (.format fault))
    | .ok password =>
      andThen (command · (.credentials settings.user password client.name)) fun reply =>
        stay (loginOutcome reply)

theorem login_eq (client : Client) (settings : WarehouseSettings) :
    login client settings = ask .login (sendCredentials client settings) := by
  funext line
  unfold login
  simp only [ask, andThen]
  cases line.command .login with
  | mk reply rest =>
    cases reply with
    | error e => rfl
    | ok data =>
      unfold sendCredentials
      simp only
      cases Reply.loginKey? data with
      | none => rfl
      | some key =>
        simp only
        cases encryptPassword key client.noise settings.password with
        | error fault => rfl
        | ok password =>
          simp only [andThen]
          cases rest.command (.credentials settings.user password client.name) with
          | mk reply rest =>
            cases reply with
            | ok data => rfl
            | error e => cases e <;> rfl

section opening

variable {line : Line} {password : String}

theorem says_login_of_key (h : GivesKey client settings (answer line.frames) password) :
    Says (login client settings) line [.login, .credentials settings.user password client.name] ∧
      (login client settings line).1 = loginOutcome (answer line.frames 1) := by
  obtain ⟨data, key, hdata, hkey, hpassword⟩ := h
  obtain ⟨-, -, hrest⟩ := command_eq line .login
  have hsend : sendCredentials client settings data =
      andThen (command · (.credentials settings.user password client.name)) fun reply =>
        stay (loginOutcome reply) := by
    simp only [sendCredentials, hkey, hpassword]
  rw [login_eq, ask_of_ok hdata]
  refine ⟨says_ask_of_ok hdata ?_, ?_⟩
  · rw [hsend]
    exact (says_command _ _).andThen_stay loginOutcome
  · simp only [hsend, andThen, stay, (command_eq _ _).1]
    rw [answer_of_drop hrest]

theorem says_login_of_no_key
    (h : ∀ password, ¬ GivesKey client settings (answer line.frames) password) :
    Says (login client settings) line [.login] ∧
      ∃ e, (login client settings line).1 = .error e := by
  have hstay : ∀ data, answer line.frames 0 = .ok data →
      ∃ e, sendCredentials client settings data = stay (.error e) := by
    intro data hdata
    unfold sendCredentials
    cases hkey : Reply.loginKey? data with
    | none => exact ⟨_, rfl⟩
    | some key =>
      cases hpassword : encryptPassword key client.noise settings.password with
      | error fault =>
        simp only [hpassword]
        exact ⟨_, rfl⟩
      | ok password => exact absurd ⟨data, key, hdata, hkey, hpassword⟩ (h password)
  rw [login_eq]
  refine ⟨says_ask_of_stay ?_, ?_⟩
  · intro data hdata
    obtain ⟨e, hstay⟩ := hstay data hdata
    exact ⟨_, hstay⟩
  · cases hanswer : answer line.frames 0 with
    | error e => exact ⟨e, by rw [ask_of_error hanswer]⟩
    | ok data =>
      obtain ⟨e, hstay⟩ := hstay data hanswer
      refine ⟨e, ?_⟩
      rw [ask_of_ok hanswer, hstay]
      rfl

end opening

end Line

end QueryDispatch
