import QueryDispatch.Proofs.Data.Chains
import QueryDispatch.Proofs.Warehouse.Parts

/-! # The conversation of a statement

  Whatever fails in between, a session that was opened is closed, and its
  closing changes nothing: the outcome is that of the statement, which depends
  on nothing but the answers.
-/

namespace QueryDispatch

namespace Line

variable {client : Client} {settings : WarehouseSettings} {statement : String}

/-! ### The whole conversation -/

/-- Logs in and executes a statement. An error here is one of the login. -/
def conversation (client : Client) (settings : WarehouseSettings) (statement : String) :
    Line → Except RunnerError (Except RunnerError ResultSet) × Line :=
  andThen (login client settings) fun opened =>
    match opened with
    | .error e => stay (.error e)
    | .ok () => andThen (execute statement) fun result => stay (.ok result)

theorem conversation_of_error (statement : String) {line : Line} {said : List Command}
    {e : RunnerError} (htalk : Says (login client settings) line said)
    (hresult : (login client settings line).1 = .error e) :
    Says (conversation client settings statement) line said ∧
      (conversation client settings statement line).1 = .error e := by
  refine ⟨?_, by simp only [conversation, andThen, hresult, stay]⟩
  rw [← List.append_nil said]
  refine htalk.andThen ?_
  rw [hresult]
  exact says_stay _ _

theorem conversation_eq_ok {line : Line} {result : Except RunnerError ResultSet}
    (h : (conversation client settings statement line).1 = .ok result) :
    ∃ session, login client settings line = (.ok (), session) ∧
      result = (execute statement session).1 := by
  simp only [conversation, andThen] at h
  cases hlogin : login client settings line with
  | mk opened session =>
    rw [hlogin] at h
    cases opened with
    | error e => cases h
    | ok =>
      obtain rfl := Except.ok.inj h
      exact ⟨session, rfl, rfl⟩

/-- What is said in a conversation, and whether the session is opened. -/
theorem says_conversation (client : Client) (settings : WarehouseSettings) (statement : String)
    (line : Line) : ∃ said, Says (conversation client settings statement) line said ∧
      (∀ i c, said[i]? = some c ↔ Issued client settings statement (answer line.frames) i c) ∧
      ((∃ result, (conversation client settings statement line).1 = .ok result) ↔
        LoggedIn client settings (answer line.frames)) := by
  by_cases hlogin : LoggedIn client settings (answer line.frames)
  · obtain ⟨⟨password, hkey⟩, data, hdata⟩ := id hlogin
    obtain ⟨htalk, hresult⟩ := says_login_of_key hkey
    rw [hdata] at hresult
    obtain ⟨-, -, hrest⟩ := htalk line fun _ _ => rfl
    obtain ⟨said, htalk', hsaid⟩ := says_execute statement hlogin hrest
    refine ⟨_, htalk.andThen ?_, getElem?_opening_iff hkey hsaid, ?_⟩
    · rw [hresult]
      exact htalk'.andThen_stay _
    · refine iff_of_true ?_ hlogin
      simp only [conversation, andThen, hresult, loginOutcome]
      exact ⟨_, rfl⟩
  · obtain ⟨said, e, htalk, hresult, hsaid⟩ : ∃ said e, Says (login client settings) line said ∧
        (login client settings line).1 = .error e ∧
        ∀ i c, said[i]? = some c ↔ Issued client settings statement (answer line.frames) i c := by
      by_cases hkey : ∃ password, GivesKey client settings (answer line.frames) password
      · obtain ⟨password, hkey⟩ := hkey
        obtain ⟨htalk, hresult⟩ := says_login_of_key hkey
        cases houtcome : loginOutcome (answer line.frames 1) with
        | ok => exact absurd ⟨⟨password, hkey⟩, loginOutcome_eq_ok_iff.mp houtcome⟩ hlogin
        | error e =>
          have hnone : ∀ (j : Nat) (c : Command), ([] : List Command)[j]? = some c ↔
              Issued client settings statement (answer line.frames) (2 + j) c :=
            fun j c => iff_of_false (by simp) fun hissued => hlogin (loggedIn_of_issued hissued)
          exact ⟨_, e, htalk, hresult.trans houtcome, getElem?_opening_iff hkey hnone⟩
      · have hnone := fun password h => hkey ⟨password, h⟩
        obtain ⟨htalk, e, hresult⟩ := says_login_of_no_key hnone
        exact ⟨_, e, htalk, hresult, getElem?_login_iff hnone⟩
    obtain ⟨htalk, herror⟩ := conversation_of_error statement htalk hresult
    refine ⟨said, htalk, hsaid, iff_of_false ?_ hlogin⟩
    rintro ⟨result, hok⟩
    rw [herror] at hok
    cases hok

/-! ### Closing -/

/-- Executes a statement in a session of its own with a peer that sends some frames. -/
def executeOn (client : Client) (settings : WarehouseSettings) (statement : String) (line : Line)
    (frames : List Frame) : Except RunnerError ResultSet × Line :=
  Warehouse.execute (.overLine client fun _ => .ok frames) settings statement line

/-- A session that is opened is closed, and how that goes does not matter. -/
theorem executeOn_eq {frames : List Frame} (line : Line)
    (haddress :
      Address.check (settings.host.toList ++ ':' :: natText settings.port.toNat) = .ok ()) :
    executeOn client settings statement line frames =
      match conversation client settings statement { line with frames } with
      | (.error e, line) => (.error e, line)
      | (.ok result, line) => (result, (disconnect line).2) := by
  unfold executeOn Warehouse.execute Connector.overLine conversation
  simp only [haddress, andThen]
  cases login client settings { line with frames } with
  | mk opened session =>
    cases opened with
    | error e => rfl
    | ok => rfl

section closing

variable {frames other : List Frame} {line : Line} {said : List Command}
  {run : List Frame → Except RunnerError ResultSet × Line}
  (hrun : ∀ frames, run frames =
    match conversation client settings statement { line with frames } with
    | (.error e, line) => (.error e, line)
    | (.ok result, line) => (result, (disconnect line).2))
  (htalk : Says (conversation client settings statement) { line with frames } said)
  (hsame : ∀ i < said.length, answer other i = answer frames i)

include hrun htalk hsame

theorem run_of_login_failed {e : RunnerError}
    (hresult : (conversation client settings statement { line with frames }).1 = .error e) :
    (run other).1 = .error e ∧ (run other).2.sent = line.sent ++ said := by
  obtain ⟨hother, hsent, -⟩ := htalk { line with frames := other } hsame
  rw [hresult] at hother
  rw [hrun]
  cases hconversation : conversation client settings statement { line with frames := other } with
  | mk result session =>
    rw [hconversation] at hother hsent
    obtain rfl : result = .error e := hother
    exact ⟨rfl, hsent⟩

theorem run_of_logged_in {result : Except RunnerError ResultSet}
    (hresult : (conversation client settings statement { line with frames }).1 = .ok result) :
    (run other).1 = result ∧ (run other).2.sent = line.sent ++ said ++ [.disconnect] := by
  obtain ⟨hother, hsent, -⟩ := htalk { line with frames := other } hsame
  rw [hresult] at hother
  rw [hrun]
  cases hconversation : conversation client settings statement { line with frames := other } with
  | mk opened session =>
    rw [hconversation] at hother hsent
    obtain rfl : opened = .ok result := hother
    refine ⟨rfl, ?_⟩
    show (disconnect session).2.sent = _
    rw [← hsent]
    rfl

end closing

/-- One statement on a peer that may send any frames. Which commands are issued is told by the
    answers, place by place, with at most one handle closed and nothing behind that. A session that
    is opened ends with one disconnection, and the outcome is that of the statement; it depends on
    the answers to the commands before, not on the answer to the disconnection, on signs of life or
    on the kind of the frames. -/
theorem statement_conversation (client : Client) (settings : WarehouseSettings) (statement : String)
    (frames : List Frame) (line : Line)
    (haddress :
      Address.check (settings.host.toList ++ ':' :: natText settings.port.toNat) = .ok ()) :
    let run := executeOn client settings statement line
    ∃ before,
      (∀ i c, before[i]? = some c ↔ Issued client settings statement (answer frames) i c) ∧
      (∀ i handle, before[i]? = some (.closeResultSet handle) → before.length = i + 1) ∧
      .disconnect ∉ before ∧
      (LoggedIn client settings (answer frames) →
        (run frames).2.sent = line.sent ++ before ++ [.disconnect] ∧
          ∃ session, login client settings { line with frames } = (.ok (), session) ∧
            (run frames).1 = (execute statement session).1) ∧
      (¬ LoggedIn client settings (answer frames) →
        (run frames).2.sent = line.sent ++ before ∧ ∃ e, (run frames).1 = .error e) ∧
      ∀ other, (∀ i < before.length, answer other i = answer frames i) ∨
          replies other = replies frames →
        (run other).1 = (run frames).1 ∧ (run other).2.sent = (run frames).2.sent := by
  intro run
  have hrun : ∀ frames, run frames =
      match conversation client settings statement { line with frames } with
      | (.error e, line) => (.error e, line)
      | (.ok result, line) => (result, (disconnect line).2) :=
    fun frames => executeOn_eq line haddress
  -- from here on only this matters of how the statement is run
  clear_value run
  obtain ⟨before, htalk, hissued, hopened⟩ :=
    says_conversation client settings statement { line with frames }
  have hself : ∀ i < before.length, answer frames i = answer frames i := fun _ _ => rfl
  refine ⟨before, hissued, ?_, ?_, ?_, ?_, ?_⟩
  · -- nothing is issued at the next place
    intro i handle hclose
    have hnone : before[i + 1]? = none := by
      rw [Option.eq_none_iff_forall_ne_some]
      intro c hc
      exact not_issued_after_closeResultSet ((hissued i _).mp hclose) ((hissued (i + 1) c).mp hc)
    obtain ⟨hlt, -⟩ := List.getElem?_eq_some_iff.mp hclose
    have hle := List.getElem?_eq_none_iff.mp hnone
    omega
  · intro hmem
    obtain ⟨i, hi⟩ := List.mem_iff_getElem?.mp hmem
    exact not_issued_disconnect ((hissued i _).mp hi)
  · intro hlogin
    obtain ⟨result, hresult⟩ := hopened.mpr hlogin
    obtain ⟨houtcome, hsent⟩ := run_of_logged_in hrun htalk hself hresult
    obtain ⟨session, hopen, hstatement⟩ := conversation_eq_ok hresult
    exact ⟨hsent, session, hopen, houtcome.trans hstatement⟩
  · intro hlogin
    cases hresult : (conversation client settings statement { line with frames }).1 with
    | ok result => exact absurd (hopened.mp ⟨result, hresult⟩) hlogin
    | error e =>
      obtain ⟨houtcome, hsent⟩ := run_of_login_failed hrun htalk hself hresult
      exact ⟨hsent, e, houtcome⟩
  · -- equal replies are equal answers, at all places
    intro other hother
    have hsame : ∀ i < before.length, answer other i = answer frames i := by
      rcases hother with hsame | hreplies
      · exact hsame
      · intro i _
        unfold answer
        rw [hreplies]
    cases hresult : (conversation client settings statement { line with frames }).1 with
    | ok result =>
      obtain ⟨houtcome, hsent⟩ := run_of_logged_in hrun htalk hself hresult
      obtain ⟨houtcome', hsent'⟩ := run_of_logged_in hrun htalk hsame hresult
      exact ⟨houtcome'.trans houtcome.symm, hsent'.trans hsent.symm⟩
    | error e =>
      obtain ⟨houtcome, hsent⟩ := run_of_login_failed hrun htalk hself hresult
      obtain ⟨houtcome', hsent'⟩ := run_of_login_failed hrun htalk hsame hresult
      exact ⟨houtcome'.trans houtcome.symm, hsent'.trans hsent.symm⟩

/-- A peer that leaves out the only row, and goes away once the row is fetched. -/
theorem statement_conversation_one_fetch :
    let client : Client := ⟨⟨"client", "1"⟩, fun _ => 7⟩
    let settings : WarehouseSettings := ⟨"db", 8563, "sys", "p", false⟩
    let reply := fun data =>
      (Json.record [("status", .string "ok"), ("responseData", .record data)]).text
    let key := "-----BEGIN RSA PUBLIC KEY-----\nMBECDEEjRWeJq83vASNFZwIBAw==\n" ++
      "-----END RSA PUBLIC KEY-----\n"
    let set := Json.record
      [("resultSetHandle", .int 7), ("numRows", .int 1), ("columns", .array [])]
    let frames : List Frame := [.text (reply [("publicKeyPem", .string key)]), .text (reply []),
      .ping, .text (reply [("results", .array [.record [("resultSet", set)]])]),
      .text (reply [("numRows", .int 1)]), .close]
    ∃ before, (executeOn client settings "SELECT N FROM T" ⟨[], []⟩ frames).2.sent =
        before ++ [.disconnect] ∧
      before.length = 5 ∧ before[3]? = some (.fetch 7 0) ∧
      before[4]? = some (.closeResultSet 7) := by
  intro client settings reply key set frames
  obtain ⟨before, hissued, hlast, -, hopened, -⟩ := statement_conversation client settings
    "SELECT N FROM T" frames ⟨[], []⟩ (eq_ok_of_toOption (by decide +kernel))
  obtain ⟨password, hpassword⟩ := Option.isSome_iff_exists.mp
    (show (encryptPassword key client.noise "p").toOption.isSome = true by decide +kernel)
  obtain ⟨login, hanswer, hkey⟩ := Option.bind_eq_some_iff.mp
    (show (answer frames 0).toOption.bind Reply.loginKey? = some key by
      rw [answer_of_text rfl]
      decide +kernel)
  have hlogin : LoggedIn client settings (answer frames) := by
    refine ⟨⟨password, login, key, eq_ok_of_toOption hanswer, hkey, eq_ok_of_toOption hpassword⟩,
      .record [], eq_ok_of_toOption ?_⟩
    rw [answer_of_text rfl]
    decide +kernel
  obtain ⟨sent, hsent, hfields⟩ := Option.map_eq_some_iff.mp
    (show (((answer frames 2).toOption.bind Reply.resultSet?).bind id).map
        (fun sent => (sent.handle, sent.rowCount, sent.data)) = some (some 7, 1, []) by
      rw [answer_of_text rfl]
      decide +kernel)
  obtain ⟨chunk, hchunk, hrest⟩ := Option.map_eq_some_iff.mp
    (show ((answer frames 3).toOption.bind Reply.chunk?).map
        (fun chunk => (chunk.rowCount, chunk.data)) = some (1, []) by
      rw [answer_of_text rfl]
      decide +kernel)
  obtain ⟨found, hfound, rfl⟩ := Option.bind_eq_some_iff.mp hsent
  obtain ⟨data, hdata, hread⟩ := Option.bind_eq_some_iff.mp hfound
  obtain ⟨more, hmore, hreadMore⟩ := Option.bind_eq_some_iff.mp hchunk
  simp only [Prod.mk.injEq] at hfields hrest
  obtain ⟨hhandle, htotal, hcells⟩ := hfields
  obtain ⟨hcount, hmoreCells⟩ := hrest
  have hset : HandsOut (answer frames) sent 7 := ⟨data, eq_ok_of_toOption hdata, hread, hhandle⟩
  have hstart : rowsSoFar sent.data = 0 := by
    rw [hcells]
    rfl
  have hextend : Reply.extend sent.data chunk.data = .ok [] := by
    rw [hcells, hmoreCells]
    rfl
  have hone := Accepted.fetch .start (by rw [hstart, htotal]; decide) (eq_ok_of_toOption hmore)
    hreadMore (by rw [hcount]; decide) hextend
  have hfetch := (hissued 3 _).mpr ((issued_fetch_iff hlogin hset .start).mpr rfl)
  have hclose := (hissued 4 _).mpr ((issued_fetch_iff hlogin hset hone).mpr rfl)
  rw [if_pos (by rw [hstart, htotal]; decide), hstart] at hfetch
  rw [if_neg (by rw [hstart, hcount, htotal]; decide)] at hclose
  obtain ⟨hsent, -⟩ := hopened hlogin
  rw [List.nil_append] at hsent
  exact ⟨before, hsent, hlast 4 7 hclose, hfetch, hclose⟩

end Line

end QueryDispatch
