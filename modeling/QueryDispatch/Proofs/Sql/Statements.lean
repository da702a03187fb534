import QueryDispatch.Fingerprint
import QueryDispatch.Proofs.Number.WrittenDoubles
import QueryDispatch.Proofs.Text.Trimming
import QueryDispatch.Proofs.Text.Words
import QueryDispatch.Sql.RowLimit

/-! # Statements with a row limit

  A query with a limit put behind it is a statement of its own: it has a limit,
  so it is left alone the next time. Blanks around a query do not matter to
  the statement in it, and so neither to the text that is run.
-/

namespace QueryDispatch.Sql

variable {q s : List Char}

/-! ### The statement in a query -/

/-- The query is the text `s` with blanks around it, and semicolons at its end. -/
structure IsStatementOf (s q : List Char) : Prop where
  exists_parts : ∃ before gap semicolons behind,
    q = before ++ s ++ gap ++ semicolons ++ behind ∧
      (∀ c ∈ before, Text.isBlank c = true) ∧ (∀ c ∈ gap, Text.isBlank c = true) ∧
      (∀ c ∈ semicolons, c = ';') ∧ ∀ c ∈ behind, Text.isBlank c = true
  head : ∀ c ∈ s.head?, Text.isBlank c = false
  last : ∀ c ∈ s.getLast?, Text.isBlank c = false

theorem isStatementOf_statement (q : List Char) : IsStatementOf (statement q) q := by
  obtain ⟨before, behind, hq, hbefore, hbehind⟩ := Text.exists_trim q
  obtain ⟨semicolons, htrim, hsemicolons⟩ := Text.exists_dropEndWhile (· == ';') (Text.trim q)
  obtain ⟨gap, hdrop, hgap⟩ :=
    Text.exists_dropEndWhile Text.isBlank (Text.dropEndWhile (· == ';') (Text.trim q))
  have hparts : Text.trim q = statement q ++ gap ++ semicolons := by
    conv_lhs => rw [htrim, hdrop]
    rfl
  refine ⟨⟨before, gap, semicolons, behind, ?_, hbefore, hgap, ?_, hbehind⟩, ?_,
    Text.last_dropEndWhile _ _⟩
  · conv_lhs => rw [hq, hparts]
    simp only [List.append_assoc]
  · intro c hc
    exact beq_iff_eq.mp (hsemicolons c hc)
  · intro c hc
    apply Text.head_trim q c
    rw [hparts, List.append_assoc, List.head?_append, Option.mem_def.mp hc]
    rfl

/-- What is left of a trimmed query that ends with semicolons. -/
theorem statement_of_trim {gap semicolons : List Char}
    (h : Text.trim q = s ++ gap ++ semicolons) (hs : ';' ∉ s)
    (hlast : ∀ c ∈ s.getLast?, Text.isBlank c = false)
    (hgap : ∀ c ∈ gap, Text.isBlank c = true) (hsemicolons : ∀ c ∈ semicolons, c = ';') :
    statement q = s := by
  -- the semicolons fall off up to the gap, and the gap up to the last character of `s`
  have hkept : ∀ c ∈ (s ++ gap).getLast?, (c == ';') = false := by
    intro c hc
    rw [beq_eq_false_iff_ne]
    rintro rfl
    rcases List.mem_append.mp (List.mem_of_mem_getLast? hc) with hmem | hmem
    · exact hs hmem
    · exact absurd (hgap _ hmem) (by decide)
  have hdrop : Text.dropEndWhile (· == ';') (s ++ gap ++ semicolons) = s ++ gap := by
    rw [Text.dropEndWhile_append fun c hc => beq_iff_eq.mpr (hsemicolons c hc),
      Text.dropEndWhile_of_last hkept]
  rw [statement, h, hdrop, Text.trimEnd, Text.dropEndWhile_append hgap,
    Text.dropEndWhile_of_last hlast]

/-- A text without semicolons is the statement of every query around it. -/
theorem IsStatementOf.statement_eq (h : IsStatementOf s q) (hne : s ≠ []) (hs : ';' ∉ s) :
    statement q = s := by
  obtain ⟨⟨before, gap, semicolons, behind, rfl, hbefore, hgap, hsemicolons, hbehind⟩,
    hhead, hlast⟩ := h
  by_cases hnone : semicolons = []
  · -- without semicolons the gap is a part of the blanks behind
    subst hnone
    have htrim : Text.trim (before ++ s ++ (gap ++ behind)) = s ++ [] ++ [] := by
      rw [List.append_nil, List.append_nil]
      exact Text.trim_append_of_ends hbefore hhead hlast
        (List.forall_mem_append.mpr ⟨hgap, hbehind⟩)
    rw [List.append_nil, List.append_assoc]
    exact statement_of_trim htrim hs hlast (List.forall_mem_nil _) (List.forall_mem_nil _)
  · have htrim : Text.trim (before ++ (s ++ gap ++ semicolons) ++ behind) =
        s ++ gap ++ semicolons := by
      refine Text.trim_append_of_ends hbefore ?_ ?_ hbehind
      · intro c hc
        rw [List.append_assoc, List.head?_append_of_ne_nil _ hne] at hc
        exact hhead c hc
      · intro c hc
        rw [List.getLast?_append_of_ne_nil _ hnone] at hc
        rw [hsemicolons c (List.mem_of_mem_getLast? hc)]
        decide
    refine statement_of_trim ?_ hs hlast hgap hsemicolons
    simp only [List.append_assoc] at htrim ⊢
    exact htrim

/-- Blanks around a query do not matter to its statement. -/
theorem statement_append_blanks {before behind : List Char}
    (hbefore : ∀ c ∈ before, Text.isBlank c = true)
    (hbehind : ∀ c ∈ behind, Text.isBlank c = true) (q : List Char) :
    statement (before ++ q ++ behind) = statement q := by
  unfold statement
  rw [Text.trim_append_blanks hbefore hbehind]

/-! ### The text with a limit -/

/-- A statement with a limit behind it. -/
def withLimit (s : List Char) (limit : Nat) : List Char := s ++ " LIMIT ".toList ++ natText limit

theorem limitRows_of_takesLimit {query : String} (h : takesLimit (statement query.toList) = true)
    (limit : Nat) :
    limitRows query limit = String.ofList (withLimit (statement query.toList) limit) := by
  unfold limitRows
  simp only [h, if_true]
  rfl

theorem limitRows_of_not_takesLimit {query : String}
    (h : takesLimit (statement query.toList) = false) (limit : Nat) :
    limitRows query limit = query := by
  unfold limitRows
  simp only [h, Bool.false_eq_true, if_false]

theorem takesLimit_iff : takesLimit s = true ↔
    ';' ∉ s ∧ startsQuery s = true ∧ hasLimitWord s = false := by
  unfold takesLimit
  simp only [Bool.and_eq_true, Bool.not_eq_true', List.contains_eq_mem, decide_eq_false_iff_not,
    and_assoc]

theorem ne_nil_of_startsQuery (h : startsQuery s = true) : s ≠ [] := by
  rintro rfl
  cases h

/-- The runs of the text are those of the statement, the word and the number. -/
theorem runsWithout_withLimit {p : Char → Bool} (hblank : p ' ' = true)
    (hword : "LIMIT".toList.any p = false)
    (hdigit : ∀ c : Char, c.isDigit = true → p c = false) (s : List Char) (limit : Nat) :
    Text.runsWithout p (withLimit s limit) =
      Text.runsWithout p s ++ ["LIMIT".toList, natText limit] := by
  have hparts : withLimit s limit = s ++ ' ' :: ("LIMIT".toList ++ ' ' :: natText limit) := by
    unfold withLimit
    simp only [List.append_assoc]
    rfl
  have hletters : ∀ c ∈ "LIMIT".toList, p c = false := by simpa using List.any_eq_false.mp hword
  rw [hparts, Text.runsWithout_append_cons hblank, Text.runsWithout_append_cons hblank,
    Text.runsWithout_of_run (by decide) hletters,
    Text.runsWithout_of_run (natText_ne_nil limit)
      fun c hc => hdigit c (isDigit_of_mem_natText hc)]
  rfl

theorem endsWord_of_isDigit {c : Char} (h : c.isDigit = true) : endsWord c = false := by
  have hparen : c ≠ '(' ∧ c ≠ ')' := by
    constructor
    · rintro rfl
      exact absurd h (by decide)
    · rintro rfl
      exact absurd h (by decide)
  unfold endsWord
  simp [isBlank_of_isDigit h, hparen]

/-- How often the word stands in a text. -/
def limitWords (s : List Char) : Nat :=
  (Text.runsWithout endsWord s).countP (Text.equalIgnoringCase · "limit".toList)

theorem hasLimitWord_eq_false_iff : hasLimitWord s = false ↔ limitWords s = 0 := by
  unfold hasLimitWord limitWords
  rw [List.any_eq_false, List.countP_eq_zero]

/-- A number is no word. -/
theorem natText_ne_limit (n : Nat) :
    Text.equalIgnoringCase (natText n) "limit".toList = false := by
  unfold Text.equalIgnoringCase
  rw [beq_eq_false_iff_ne]
  intro heq
  have hmem : 'l' ∈ (natText n).map Text.lowerAscii := by
    rw [heq]
    decide
  obtain ⟨c, hc, hletter⟩ := List.mem_map.mp hmem
  have hdigit := isDigit_of_mem_natText hc
  rw [Numeral.lowerAscii_of_isDigit hdigit] at hletter
  subst hletter
  exact absurd hdigit (by decide)

theorem limitWords_withLimit (s : List Char) (limit : Nat) :
    limitWords (withLimit s limit) = limitWords s + 1 := by
  have hword : Text.equalIgnoringCase "LIMIT".toList "limit".toList = true := by decide
  have hone : ["LIMIT".toList, natText limit].countP
      (Text.equalIgnoringCase · "limit".toList) = 1 := by
    simp only [List.countP_cons, List.countP_nil, hword, natText_ne_limit]
    rfl
  unfold limitWords
  rw [runsWithout_withLimit (by decide) (by decide) fun _ => endsWord_of_isDigit,
    List.countP_append, hone]

theorem last_withLimit (s : List Char) (limit : Nat) :
    ∀ c ∈ (withLimit s limit).getLast?, c.isDigit = true := by
  intro c hc
  unfold withLimit at hc
  rw [List.getLast?_append_of_ne_nil _ (natText_ne_nil limit)] at hc
  exact isDigit_of_mem_natText (List.mem_of_mem_getLast? hc)

theorem semicolon_not_mem_withLimit (hs : ';' ∉ s) (limit : Nat) : ';' ∉ withLimit s limit := by
  have hdigits : ';' ∉ natText limit := fun hmem =>
    absurd (isDigit_of_mem_natText hmem) (by decide)
  have hword : ';' ∉ " LIMIT ".toList := by decide
  unfold withLimit
  simp only [List.mem_append, not_or]
  exact ⟨⟨hs, hword⟩, hdigits⟩

/-- With its limit a statement is one again, and takes none. -/
theorem statement_withLimit (hs : ';' ∉ s) (hne : s ≠ [])
    (hhead : ∀ c ∈ s.head?, Text.isBlank c = false) (limit : Nat) :
    statement (withLimit s limit) = withLimit s limit := by
  refine IsStatementOf.statement_eq ⟨⟨[], [], [], [], ?_, ?_⟩, ?_, ?_⟩ ?_
    (semicolon_not_mem_withLimit hs limit)
  · simp
  · simp
  · intro c hc
    unfold withLimit at hc
    rw [List.append_assoc, List.head?_append_of_ne_nil _ hne] at hc
    exact hhead c hc
  · intro c hc
    exact isBlank_of_isDigit (last_withLimit s limit c hc)
  · unfold withLimit
    simp [hne]

theorem takesLimit_withLimit (s : List Char) (limit : Nat) :
    takesLimit (withLimit s limit) = false := by
  rw [Bool.eq_false_iff]
  intro h
  have hnone := hasLimitWord_eq_false_iff.mp (takesLimit_iff.mp h).2.2
  rw [limitWords_withLimit] at hnone
  exact absurd hnone (Nat.succ_ne_zero _)

/-! ### Running a query again -/

variable {query : String}

/-- The text that is run for a query that takes a limit is its own statement, and takes none. -/
theorem statement_limitRows (h : takesLimit (statement query.toList) = true) (limit : Nat) :
    statement (limitRows query limit).toList = withLimit (statement query.toList) limit ∧
      takesLimit (statement (limitRows query limit).toList) = false := by
  obtain ⟨hs, hstarts, -⟩ := takesLimit_iff.mp h
  have hstatement := statement_withLimit hs (ne_nil_of_startsQuery hstarts)
    (isStatementOf_statement query.toList).head limit
  rw [limitRows_of_takesLimit h, String.toList_ofList, hstatement]
  exact ⟨rfl, takesLimit_withLimit _ limit⟩

theorem limitRows_limitRows (query : String) (m n : Nat) :
    limitRows (limitRows query m) n = limitRows query m := by
  cases h : takesLimit (statement query.toList) with
  | true => exact limitRows_of_not_takesLimit (statement_limitRows h m).2 n
  | false => rw [limitRows_of_not_takesLimit h, limitRows_of_not_takesLimit h]

/-- A query is rewritten if and only if it takes a limit. -/
theorem limitRows_ne_iff (query : String) (limit : Nat) :
    limitRows query limit ≠ query ↔ takesLimit (statement query.toList) = true := by
  constructor
  · intro hne
    by_contra h
    exact hne (limitRows_of_not_takesLimit (by simpa using h) limit)
  · intro h heq
    have hnot := (statement_limitRows h limit).2
    rw [heq, h] at hnot
    cases hnot

/-- The text is a statement of the query, without semicolons, and one limit behind it. -/
structure IsLimited (query : String) (limit : Nat) (text : String) : Prop where
  exists_statement : ∃ s, IsStatementOf s query.toList ∧ limitWords s = 0 ∧
    text.toList = s ++ " LIMIT ".toList ++ natText limit
  no_semicolon : ';' ∉ text.toList
  one_limit : limitWords text.toList = 1

theorem isLimited_limitRows (h : takesLimit (statement query.toList) = true) (limit : Nat) :
    IsLimited query limit (limitRows query limit) := by
  obtain ⟨hs, -, hword⟩ := takesLimit_iff.mp h
  have hnone := hasLimitWord_eq_false_iff.mp hword
  have htext : (limitRows query limit).toList = withLimit (statement query.toList) limit := by
    rw [limitRows_of_takesLimit h, String.toList_ofList]
  refine ⟨⟨_, isStatementOf_statement query.toList, hnone, htext⟩, ?_, ?_⟩
  · rw [htext]
    exact semicolon_not_mem_withLimit hs limit
  · rw [htext, limitWords_withLimit, hnone]

/-- Two queries are the same but for the blanks around them. -/
def SameInside (query other : String) : Prop :=
  ∃ inside before behind before' behind',
    query.toList = before ++ inside ++ behind ∧ other.toList = before' ++ inside ++ behind' ∧
      ∀ c ∈ before ++ behind ++ before' ++ behind', Text.isBlank c = true

theorem SameInside.statement_eq {other : String} (h : SameInside query other) :
    statement other.toList = statement query.toList := by
  obtain ⟨inside, before, behind, before', behind', hquery, hother, hblank⟩ := h
  simp only [List.forall_mem_append] at hblank
  obtain ⟨⟨⟨hbefore, hbehind⟩, hbefore'⟩, hbehind'⟩ := hblank
  rw [hquery, hother, statement_append_blanks hbefore hbehind,
    statement_append_blanks hbefore' hbehind']

/-- Limits that are put on a text one after the other leave it as the first one did. What is run is
    the query itself, or its statement with one limit behind it; and then every query that is the
    same but for the blanks around it is rewritten to this text too, under the same fingerprint. -/
theorem limitRows_settles (query : String) (m n : Nat) :
    limitRows (limitRows query m) n = limitRows query m ∧
    (limitRows query m = query ∨ IsLimited query m (limitRows query m)) ∧
    ∀ other, SameInside query other → limitRows query m ≠ query →
      limitRows other m ≠ other ∧ limitRows other m = limitRows query m ∧
      ∀ source, Fingerprint.of source (limitRows other m) =
        Fingerprint.of source (limitRows query m) := by
  refine ⟨limitRows_limitRows query m n, ?_, ?_⟩
  · by_cases heq : limitRows query m = query
    · exact Or.inl heq
    · exact Or.inr (isLimited_limitRows ((limitRows_ne_iff query m).mp heq) m)
  · intro other hsame hne
    have htakes := (limitRows_ne_iff query m).mp hne
    have htakes' : takesLimit (statement other.toList) = true := by
      rw [hsame.statement_eq, htakes]
    have heq : limitRows other m = limitRows query m := by
      rw [limitRows_of_takesLimit htakes, limitRows_of_takesLimit htakes', hsame.statement_eq]
    refine ⟨(limitRows_ne_iff other m).mpr htakes', heq, ?_⟩
    intro source
    rw [heq]

/-- A query between blanks, and the same one alone. -/
theorem limitRows_settles_between_blanks :
    SameInside "SELECT 1;" "\n SELECT 1; " ∧ limitRows "SELECT 1;" 5 ≠ "SELECT 1;" ∧
      limitRows "\n SELECT 1; " 5 = limitRows "SELECT 1;" 5 := by
  have hsame : SameInside "SELECT 1;" "\n SELECT 1; " :=
    ⟨"SELECT 1;".toList, [], [], ['\n', ' '], [' '], by decide, by decide,
      List.all_eq_true.mp (by decide)⟩
  have hne : limitRows "SELECT 1;" 5 ≠ "SELECT 1;" := by decide
  obtain ⟨-, -, hothers⟩ := limitRows_settles "SELECT 1;" 5 7
  exact ⟨hsame, hne, (hothers _ hsame hne).2.1⟩

end QueryDispatch.Sql
