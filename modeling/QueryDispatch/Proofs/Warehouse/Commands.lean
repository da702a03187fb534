import QueryDispatch.Proofs.Warehouse.Exchanges

/-! # The commands of a statement

  One statement is a conversation with a peer that may answer anything. Which
  command comes at which place is told by the answers to the earlier ones:
  a login, the credentials, the statement, fetches and the end of the handle.
-/

namespace QueryDispatch

namespace Line

/-! ### What is asked for -/

section commands

variable (client : Client) (settings : WarehouseSettings) (statement : String)
  (answers : Nat → Except RunnerError Json)

/-- The reply to the login has a key with which the password is encrypted. -/
def GivesKey (password : String) : Prop :=
  ∃ data key, answers 0 = .ok data ∧ Reply.loginKey? data = some key ∧
    encryptPassword key client.noise settings.password = .ok password

/-- The login is completed: there is a key, and the credentials are taken. -/
def LoggedIn : Prop :=
  (∃ password, GivesKey client settings answers password) ∧ ∃ data, answers 1 = .ok data

/-- The reply to the statement has a result set with a handle for the rows that it leaves out. -/
def HandsOut (set : Reply.SentResultSet) (handle : Int64) : Prop :=
  ∃ data, answers 2 = .ok data ∧ Reply.resultSet? data = some (some set) ∧
    set.handle = some handle

/-- So many fetches for a result set were made and accepted. They come to a position and to rows. -/
inductive Accepted (set : Reply.SentResultSet) : Nat → UInt64 → List (List Json) → Prop where
  | start : Accepted set 0 (rowsSoFar set.data) set.data
  | fetch {n : Nat} {position : UInt64} {rows more : List (List Json)} {data : Json}
      {chunk : Reply.Chunk} (before : Accepted set n position rows)
      (wanted : position < set.rowCount) (reply : answers (n + 3) = .ok data)
      (read : Reply.chunk? data = some chunk) (filled : chunk.rowCount ≠ 0)
      (extended : Reply.extend rows chunk.data = .ok more) :
      Accepted set (n + 1) (position + chunk.rowCount) more

/-- The command at each place, up to the disconnection. -/
def Issued : Nat → Command → Prop
  | 0, c => c = .login
  | 1, c => ∃ password, GivesKey client settings answers password ∧
      c = .credentials settings.user password client.name
  | 2, c => LoggedIn client settings answers ∧ c = .execute statement
  | n + 3, c => LoggedIn client settings answers ∧ ∃ set handle position rows,
      HandsOut answers set handle ∧ Accepted answers set n position rows ∧
        c = if position < set.rowCount then .fetch handle position else .closeResultSet handle

end commands

variable {client : Client} {settings : WarehouseSettings} {statement : String}
  {answers : Nat → Except RunnerError Json}

/-! ### Each place has one command -/

theorem GivesKey.unique {password other : String} (h : GivesKey client settings answers password)
    (hother : GivesKey client settings answers other) : password = other := by
  obtain ⟨data, key, hdata, hkey, hpassword⟩ := h
  obtain ⟨data', key', hdata', hkey', hother⟩ := hother
  rw [hdata] at hdata'
  obtain rfl := Except.ok.inj hdata'
  rw [hkey] at hkey'
  obtain rfl := Option.some.inj hkey'
  rw [hpassword] at hother
  exact Except.ok.inj hother

theorem HandsOut.unique {set set' : Reply.SentResultSet} {handle handle' : Int64}
    (h : HandsOut answers set handle) (h' : HandsOut answers set' handle') :
    set = set' ∧ handle = handle' := by
  obtain ⟨data, hdata, hset, hhandle⟩ := h
  obtain ⟨data', hdata', hset', hhandle'⟩ := h'
  rw [hdata] at hdata'
  obtain rfl := Except.ok.inj hdata'
  rw [hset] at hset'
  obtain rfl := Option.some.inj (Option.some.inj hset')
  rw [hhandle] at hhandle'
  exact ⟨rfl, Option.some.inj hhandle'⟩

namespace Accepted

variable {set : Reply.SentResultSet} {n : Nat} {position position' : UInt64}
  {rows rows' : List (List Json)}

theorem unique (h : Accepted answers set n position rows)
    (h' : Accepted answers set n position' rows') : position = position' ∧ rows = rows' := by
  induction h generalizing position' rows' with
  | start =>
    cases h'
    exact ⟨rfl, rfl⟩
  | fetch before wanted reply read filled extended ih =>
    cases h' with
    | fetch before' wanted' reply' read' filled' extended' =>
      obtain ⟨rfl, rfl⟩ := ih before'
      rw [reply] at reply'
      obtain rfl := Except.ok.inj reply'
      rw [read] at read'
      obtain rfl := Option.some.inj read'
      rw [extended] at extended'
      exact ⟨rfl, Except.ok.inj extended'⟩

/-- One more fetch is accepted when rows are wanted and its answer brings some that fit. -/
theorem succ_iff (h : Accepted answers set n position rows) :
    Accepted answers set (n + 1) position' rows' ↔ position < set.rowCount ∧
      ∃ data chunk, answers (n + 3) = .ok data ∧ Reply.chunk? data = some chunk ∧
        chunk.rowCount ≠ 0 ∧ Reply.extend rows chunk.data = .ok rows' ∧
          position' = position + chunk.rowCount := by
  constructor
  · intro h'
    cases h' with
    | fetch before wanted reply read filled extended =>
      obtain ⟨rfl, rfl⟩ := h.unique before
      exact ⟨wanted, _, _, reply, read, filled, extended, rfl⟩
  · rintro ⟨wanted, data, chunk, reply, read, filled, extended, rfl⟩
    exact .fetch h wanted reply read filled extended

/-- The fetches before were accepted too. -/
theorem earlier {k : Nat} (h : Accepted answers set (n + k) position rows) :
    ∃ position rows, Accepted answers set n position rows := by
  induction k generalizing position rows with
  | zero => exact ⟨_, _, h⟩
  | succ k ih =>
    cases h with
    | fetch before _ _ _ _ _ => exact ih before

end Accepted

/-- No command comes behind a fetch whose answer is not accepted. -/
theorem not_issued_of_not_accepted {set : Reply.SentResultSet} {handle : Int64} {n : Nat}
    (hset : HandsOut answers set handle)
    (hstop : ∀ position rows, ¬ Accepted answers set (n + 1) position rows) (j : Nat)
    (c : Command) : ¬ Issued client settings statement answers (n + 1 + 3 + j) c := by
  -- a later command would have this fetch among the accepted ones before it
  have hindex : n + 1 + 3 + j = n + 1 + j + 3 := by omega
  rw [hindex]
  rintro ⟨-, set', handle', position', rows', hset', hrows', -⟩
  obtain ⟨rfl, -⟩ := hset.unique hset'
  obtain ⟨position', rows', hearlier⟩ := hrows'.earlier
  exact hstop position' rows' hearlier

section fetching

variable {set : Reply.SentResultSet} {handle : Int64} {n : Nat} {position : UInt64}
  {rows : List (List Json)} (hlogin : LoggedIn client settings answers)
  (hset : HandsOut answers set handle) (hrows : Accepted answers set n position rows)

include hlogin hset hrows

/-- Behind some accepted fetches comes one command. -/
theorem issued_fetch_iff {c : Command} : Issued client settings statement answers (n + 3) c ↔
    c = if position < set.rowCount then .fetch handle position else .closeResultSet handle := by
  constructor
  · rintro ⟨-, set', handle', position', rows', hset', hrows', rfl⟩
    obtain ⟨rfl, rfl⟩ := hset.unique hset'
    obtain ⟨rfl, rfl⟩ := hrows.unique hrows'
    rfl
  · rintro rfl
    exact ⟨hlogin, set, handle, position, rows, hset, hrows, rfl⟩

/-- So the commands from there on are this one and those behind it. -/
theorem getElem?_fetch_iff {said : List Command}
    (hsaid : ∀ j c, said[j]? = some c ↔ Issued client settings statement answers (n + 1 + 3 + j) c)
    (j : Nat) (c : Command) :
    ((if position < set.rowCount then Command.fetch handle position else .closeResultSet handle) ::
      said)[j]? = some c ↔ Issued client settings statement answers (n + 3 + j) c := by
  cases j with
  | zero =>
    rw [List.getElem?_cons_zero, Nat.add_zero, issued_fetch_iff hlogin hset hrows]
    simp only [Option.some.injEq, eq_comm]
  | succ j =>
    have hindex : n + 3 + (j + 1) = n + 1 + 3 + j := by omega
    rw [List.getElem?_cons_succ, hindex]
    exact hsaid j c

/-- If its answer is not accepted, it is the last one. -/
theorem getElem?_last_iff (hstop : ∀ position rows, ¬ Accepted answers set (n + 1) position rows)
    (j : Nat) (c : Command) :
    [if position < set.rowCount then Command.fetch handle position
      else .closeResultSet handle][j]? = some c ↔
        Issued client settings statement answers (n + 3 + j) c := by
  refine getElem?_fetch_iff hlogin hset hrows ?_ j c
  intro j c
  exact iff_of_false (by simp) (not_issued_of_not_accepted hset hstop j c)

end fetching

/-! ### The first commands -/

theorem loggedIn_of_issued {j : Nat} {c : Command}
    (h : Issued client settings statement answers (2 + j) c) :
    LoggedIn client settings answers := by
  cases j with
  | zero => exact h.1
  | succ j =>
    have hindex : 2 + (j + 1) = j + 3 := by omega
    rw [hindex] at h
    exact h.1

/-- Without a key nothing comes but the login. -/
theorem getElem?_login_iff (hkey : ∀ password, ¬ GivesKey client settings answers password)
    (i : Nat) (c : Command) :
    [Command.login][i]? = some c ↔ Issued client settings statement answers i c := by
  match i with
  | 0 =>
    show some Command.login = some c ↔ c = .login
    rw [Option.some.injEq, eq_comm]
  | 1 => exact iff_of_false (by simp) fun ⟨password, h, _⟩ => hkey password h
  | i + 2 =>
    refine iff_of_false (by simp) ?_
    rw [Nat.add_comm i 2]
    intro hissued
    obtain ⟨⟨password, h⟩, -⟩ := loggedIn_of_issued hissued
    exact hkey password h

/-- With a key come the credentials, and the statement and the rest behind them. -/
theorem getElem?_opening_iff {password : String} {said : List Command}
    (hkey : GivesKey client settings answers password)
    (hsaid : ∀ j c, said[j]? = some c ↔ Issued client settings statement answers (2 + j) c)
    (i : Nat) (c : Command) :
    ([.login, .credentials settings.user password client.name] ++ said)[i]? = some c ↔
      Issued client settings statement answers i c := by
  match i with
  | 0 =>
    show some Command.login = some c ↔ c = .login
    rw [Option.some.injEq, eq_comm]
  | 1 =>
    -- the key gives one encrypted password only
    show some (Command.credentials settings.user password client.name) = some c ↔ _
    constructor
    · intro h
      obtain rfl := Option.some.inj h
      exact ⟨password, hkey, rfl⟩
    · rintro ⟨other, hother, rfl⟩
      rw [hkey.unique hother]
  | i + 2 =>
    rw [Nat.add_comm i 2, ← hsaid i c, Nat.add_comm 2 i]
    rfl

/-- Behind a login comes the statement, and fetches behind it. -/
theorem getElem?_execute_iff {said : List Command} (hlogin : LoggedIn client settings answers)
    (hsaid : ∀ j c, said[j]? = some c ↔ Issued client settings statement answers (0 + 3 + j) c)
    (j : Nat) (c : Command) : (.execute statement :: said)[j]? = some c ↔
      Issued client settings statement answers (2 + j) c := by
  cases j with
  | zero =>
    rw [List.getElem?_cons_zero, Option.some.injEq, eq_comm]
    exact (and_iff_right hlogin).symm
  | succ j =>
    have hindex : 2 + (j + 1) = 0 + 3 + j := by omega
    rw [List.getElem?_cons_succ, hindex]
    exact hsaid j c

/-! ### The last command -/

theorem not_issued_disconnect {i : Nat} :
    ¬ Issued client settings statement answers i .disconnect := by
  match i with
  | 0 => exact fun h => nomatch h
  | 1 => exact fun ⟨_, _, h⟩ => nomatch h
  | 2 => exact fun ⟨_, h⟩ => nomatch h
  | n + 3 =>
    rintro ⟨-, set, handle, position, rows, -, -, h⟩
    split at h <;> cases h

/-- The handle is closed when no more rows are wanted, and nothing comes behind. -/
theorem not_issued_after_closeResultSet {i : Nat} {handle : Int64} {c : Command}
    (h : Issued client settings statement answers i (.closeResultSet handle)) :
    ¬ Issued client settings statement answers (i + 1) c := by
  match i with
  | 0 => cases h
  | 1 =>
    obtain ⟨_, _, h⟩ := h
    cases h
  | 2 =>
    obtain ⟨_, h⟩ := h
    cases h
  | n + 3 =>
    obtain ⟨-, set, handle', position, rows, hset, hrows, hclose⟩ := h
    split at hclose
    · cases hclose
    · next hwanted =>
      -- one more accepted fetch would have wanted more rows
      exact not_issued_of_not_accepted hset
        (fun position' rows' hnext => hwanted (hrows.succ_iff.mp hnext).1) 0 c

end Line

end QueryDispatch
