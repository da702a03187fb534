import QueryDispatch.Proofs.Text.Utf8
import QueryDispatch.Warehouse.Session

/-! # Exchanges on a line

  Every command gets one reply. A line is known by the replies that its frames
  bring, so what is said on it depends on neither signs of life nor the kind of
  the frames, and no command depends on a reply that comes behind it.
-/

namespace QueryDispatch

namespace Line

/-! ### Replies -/

/-- The bytes of the replies that frames bring. A sign of life brings none, and behind a close comes
    nothing more. -/
def replies : List Frame → List (List UInt8)
  | [] => []
  | .text content :: rest => Text.utf8 content.toList :: replies rest
  | .binary content :: rest => content :: replies rest
  | .ping :: rest => replies rest
  | .close :: _ => []

/-- What the reply at an index comes to; without a reply the line is closed. -/
def answer (frames : List Frame) (i : Nat) : Except RunnerError Json :=
  match (replies frames)[i]? with
  | some bytes => (readBytes bytes).bind Reply.data
  | none => .error (.transport .closed)

theorem readBytes_utf8 (content : String) :
    readBytes (Text.utf8 content.toList) = readText content := by
  unfold readBytes
  rw [if_pos (Text.isUtf8_utf8 _), Text.readUtf8_utf8, String.ofList_toList]

/-- A text frame is read as its text. -/
theorem answer_of_text {frames : List Frame} {i : Nat} {content : String}
    (h : (replies frames)[i]? = some (Text.utf8 content.toList)) :
    answer frames i = (readText content).bind Reply.data := by
  unfold answer
  rw [h, ← readBytes_utf8]

/-- What is received is the first of the replies. -/
theorem receive_eq (frames : List Frame) :
    (receive frames).1 = (match (replies frames)[0]? with
      | some bytes => readBytes bytes
      | none => .error (.transport .closed)) ∧
    replies (receive frames).2 = (replies frames).drop 1 := by
  induction frames with
  | nil => exact ⟨rfl, rfl⟩
  | cons frame rest ih =>
    cases frame with
    | text content => exact ⟨(readBytes_utf8 content).symm, rfl⟩
    | binary content => exact ⟨rfl, rfl⟩
    | ping => exact ih
    | close => exact ⟨rfl, rfl⟩

/-- A command is recorded and gets the first answer. -/
theorem command_eq (line : Line) (c : Command) :
    (line.command c).1 = answer line.frames 0 ∧ (line.command c).2.sent = line.sent ++ [c] ∧
      replies (line.command c).2.frames = (replies line.frames).drop 1 := by
  obtain ⟨hfirst, hrest⟩ := receive_eq line.frames
  refine ⟨?_, rfl, hrest⟩
  show (receive line.frames).1.bind Reply.data = _
  rw [hfirst]
  unfold answer
  cases (replies line.frames)[0]? <;> rfl

/-- The answers that are left after some replies are those from there on. -/
theorem answer_of_drop {frames rest : List Frame} {n : Nat}
    (h : replies rest = (replies frames).drop n) (i : Nat) :
    answer rest i = answer frames (n + i) := by
  unfold answer
  rw [h, List.getElem?_drop]

/-! ### Talks -/

variable {ρ σ : Type}

/-- What a talk says on a line, and that it says and comes to the same on every line that gives the
    same answers so far. -/
def Says (talk : Line → ρ × Line) (line : Line) (said : List Command) : Prop :=
  ∀ other : Line, (∀ i < said.length, answer other.frames i = answer line.frames i) →
    (talk other).1 = (talk line).1 ∧ (talk other).2.sent = other.sent ++ said ∧
      replies (talk other).2.frames = (replies other.frames).drop said.length

/-- Comes to something without a word. -/
def stay (r : ρ) : Line → ρ × Line := fun line => (r, line)

/-- One talk, and then another one that what it comes to leads to. -/
def andThen (talk : Line → ρ × Line) (next : ρ → Line → σ × Line) : Line → σ × Line := fun line =>
  next (talk line).1 (talk line).2

theorem says_stay (r : ρ) (line : Line) : Says (stay r) line [] := by
  intro other _
  exact ⟨rfl, (List.append_nil _).symm, rfl⟩

theorem says_command (c : Command) (line : Line) : Says (command · c) line [c] := by
  intro other hsame
  obtain ⟨hanswer, hsent, hreplies⟩ := command_eq other c
  refine ⟨?_, hsent, hreplies⟩
  rw [hanswer, (command_eq line c).1]
  exact hsame 0 (by simp)

theorem Says.andThen {talk : Line → ρ × Line} {next : ρ → Line → σ × Line} {line : Line}
    {said more : List Command} (h : Says talk line said)
    (hnext : Says (next (talk line).1) (talk line).2 more) :
    Says (Line.andThen talk next) line (said ++ more) := by
  intro other hsame
  rw [List.length_append] at hsame
  obtain ⟨-, -, hline⟩ := h line fun _ _ => rfl
  obtain ⟨hresult, hsent, hother⟩ := h other fun i hi => hsame i (by omega)
  -- what the second talk hears are the answers behind those to the first one
  have hlater : ∀ i < more.length,
      answer (talk other).2.frames i = answer (talk line).2.frames i := by
    intro i hi
    rw [answer_of_drop hother, answer_of_drop hline]
    exact hsame _ (by omega)
  obtain ⟨hresult', hsent', hother'⟩ := hnext (talk other).2 hlater
  show (next (talk other).1 (talk other).2).1 = _ ∧
    (next (talk other).1 (talk other).2).2.sent = _ ∧
    replies (next (talk other).1 (talk other).2).2.frames = _
  rw [hresult]
  refine ⟨hresult', ?_, ?_⟩
  · rw [hsent', hsent, List.append_assoc]
  · rw [hother', hother, List.drop_drop, List.length_append]

/-- A talk whose outcome is put in other terms. -/
theorem Says.andThen_stay {talk : Line → ρ × Line} {line : Line} {said : List Command}
    (h : Says talk line said) (f : ρ → σ) :
    Says (Line.andThen talk fun r => stay (f r)) line said := by
  rw [← List.append_nil said]
  exact h.andThen (says_stay _ _)

/-- A command, and a talk that the data of its answer leads to. Another answer ends the talk. -/
def ask (c : Command) (next : Json → Line → Except RunnerError ρ × Line) :
    Line → Except RunnerError ρ × Line :=
  andThen (command · c) fun reply =>
    match reply with
    | .error e => stay (.error e)
    | .ok data => next data

section asking

variable {c : Command} {next : Json → Line → Except RunnerError ρ × Line} {line : Line}

theorem ask_of_error {e : RunnerError} (h : answer line.frames 0 = .error e) :
    ask c next line = (.error e, (line.command c).2) := by
  simp only [ask, andThen, (command_eq line c).1, h]
  rfl

theorem ask_of_ok {data : Json} (h : answer line.frames 0 = .ok data) :
    ask c next line = next data (line.command c).2 := by
  simp only [ask, andThen, (command_eq line c).1, h]

/-- What comes to a value has an answer that leads to it. -/
theorem ask_eq_ok {r : ρ} (h : (ask c next line).1 = .ok r) :
    ∃ data, answer line.frames 0 = .ok data ∧ (next data (line.command c).2).1 = .ok r := by
  cases hanswer : answer line.frames 0 with
  | error e =>
    rw [ask_of_error hanswer] at h
    cases h
  | ok data =>
    rw [ask_of_ok hanswer] at h
    exact ⟨data, rfl, h⟩

theorem says_ask_of_error {e : RunnerError} (h : answer line.frames 0 = .error e) :
    Says (ask c next) line [c] := by
  refine (says_command c line).andThen (?_ : Says _ _ [])
  rw [(command_eq line c).1, h]
  exact says_stay _ _

theorem says_ask_of_ok {data : Json} {more : List Command} (h : answer line.frames 0 = .ok data)
    (hnext : Says (next data) (line.command c).2 more) : Says (ask c next) line (c :: more) := by
  refine (says_command c line).andThen ?_
  rw [(command_eq line c).1, h]
  exact hnext

/-- A talk that is silent after the answer. -/
theorem says_ask_of_stay (h : ∀ data, answer line.frames 0 = .ok data → ∃ r, next data = stay r) :
    Says (ask c next) line [c] := by
  cases hanswer : answer line.frames 0 with
  | error e => exact says_ask_of_error hanswer
  | ok data =>
    obtain ⟨r, hstay⟩ := h data hanswer
    refine says_ask_of_ok hanswer ?_
    rw [hstay]
    exact says_stay r _

end asking

end Line

end QueryDispatch
