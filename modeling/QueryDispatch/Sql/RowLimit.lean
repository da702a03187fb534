import QueryDispatch.Number.Numeral
import QueryDispatch.Text.Blank

/-! # Row limits for SQL statements

  A single `SELECT` that has no limit of its own gets one appended, so that a
  careless query cannot fetch a whole table. Every other text is left alone.
-/

namespace QueryDispatch.Sql

/-- How many rows a statement may fetch if nothing else is asked for. -/
def defaultRowLimit : Nat := 1000

/-- A statement without blanks around it and without the semicolons that end it. -/
def statement (query : List Char) : List Char :=
  Text.trimEnd (Text.dropEndWhile (· == ';') (Text.trim query))

/-- Whether the first word asks for rows. -/
def startsQuery (statement : List Char) : Bool :=
  match Text.words statement with
  | word :: _ => Text.equalIgnoringCase word "select".toList ||
      Text.equalIgnoringCase word "with".toList
  | [] => false

/-- Whether a character ends a word, as blanks and parentheses do. -/
def endsWord (c : Char) : Bool := Text.isBlank c || c == '(' || c == ')'

/-- Whether `LIMIT` stands somewhere as a word. -/
def hasLimitWord (statement : List Char) : Bool :=
  (Text.runsWithout endsWord statement).any (Text.equalIgnoringCase · "limit".toList)

/-- Whether a statement is to be given a row limit. -/
def takesLimit (statement : List Char) : Bool :=
  !statement.contains ';' && startsQuery statement && !hasLimitWord statement

/-- The query with a row limit where it takes one, and the same query where it does not. -/
def limitRows (query : String) (limit : Nat) : String :=
  let s := statement query.toList
  if takesLimit s then String.ofList (s ++ " LIMIT ".toList ++ natText limit) else query

end QueryDispatch.Sql
