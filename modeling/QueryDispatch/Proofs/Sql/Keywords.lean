import QueryDispatch.Proofs.Sql.Statements

/-! # Keywords outside literals and comments

  A text is read by its regions: string literals, quoted names and comments on
  one side, code on the other. Only a word in code is a keyword. A limit is put
  behind a statement without a look at its regions, and so is an existing one
  found. So it is a keyword only if the statement ends in code; and a word that
  stands in a literal or a comment keeps it away.
-/

namespace QueryDispatch.Sql

variable {s t : List Char} {c : Char}

/-! ### Regions -/

/-- Where the reader of a text is. -/
inductive Region where
  | code
  /-- In code, behind a `-`. -/
  | dash
  /-- In code, behind a `/`. -/
  | slash
  | literal
  | name
  | lineComment
  | blockComment
  /-- In a block comment, behind a `*`. -/
  | star
  deriving DecidableEq, Repr

namespace Region

variable {r : Region}

/-- Whether words count here. -/
def isCode : Region → Bool
  | .code | .dash | .slash => true
  | _ => false

/-- In code a quote opens a literal or a name, and the second character of `--` or of a block
    comment's mark opens a comment. -/
def nextInCode (r : Region) (c : Char) : Region :=
  if c = '\'' then .literal
  else if c = '"' then .name
  else if c = '-' then (if r = .dash then .lineComment else .dash)
  else if c = '*' ∧ r = .slash then .blockComment
  else if c = '/' then .slash
  else .code

/-- The region behind one more character. -/
def next : Region → Char → Region
  | .literal, c => if c = '\'' then .code else .literal
  | .name, c => if c = '"' then .code else .name
  | .lineComment, c => if c = '\n' then .code else .lineComment
  | .blockComment, c => if c = '*' then .star else .blockComment
  | .star, c => if c = '/' then .code else if c = '*' then .star else .blockComment
  | r, c => nextInCode r c

/-- The region behind a text. -/
def after (r : Region) (s : List Char) : Region := s.foldl next r

/-- The text with blanks in the place of all that does not stand in code. -/
def bare : Region → List Char → List Char
  | _, [] => []
  | r, c :: s => (if r.isCode then c else ' ') :: bare (r.next c) s

theorem after_append (r : Region) (s t : List Char) : r.after (s ++ t) = (r.after s).after t :=
  List.foldl_append

theorem bare_append (r : Region) (s t : List Char) :
    r.bare (s ++ t) = r.bare s ++ (r.after s).bare t := by
  induction s generalizing r with
  | nil => rfl
  | cons c s ih =>
    rw [List.cons_append, bare, bare, ih, List.cons_append]
    rfl

theorem eq_blank_or_mem_of_mem_bare (h : c ∈ r.bare s) : c = ' ' ∨ c ∈ s := by
  induction s generalizing r with
  | nil => cases h
  | cons d s ih =>
    rcases List.mem_cons.mp h with rfl | h
    · split
      · exact Or.inr List.mem_cons_self
      · exact Or.inl rfl
    · exact (ih h).imp_right (List.mem_cons_of_mem d)

theorem next_of_isCode (h : r.isCode = true) (c : Char) : r.next c = r.nextInCode c := by
  cases r with
  | code => rfl
  | dash => rfl
  | slash => rfl
  | _ => cases h

/-! ### Characters that are no marks -/

/-- The characters that open and close regions. -/
def marks : List Char := ['\'', '"', '-', '/', '*', '\n']

/-- They keep the reader in code. -/
theorem next_of_not_mark (hr : r.isCode = true) (hc : c ∉ marks) : r.next c = .code := by
  simp only [marks, List.mem_cons, List.not_mem_nil, or_false, not_or] at hc
  rw [next_of_isCode hr]
  unfold nextInCode
  simp [hc]

/-- And outside. -/
theorem isCode_next_of_not_mark (hr : r.isCode = false) (hc : c ∉ marks) :
    (r.next c).isCode = false := by
  simp only [marks, List.mem_cons, List.not_mem_nil, or_false, not_or] at hc
  cases r with
  | code => cases hr
  | dash => cases hr
  | slash => cases hr
  | _ => simp [next, hc, isCode]

theorem bare_of_isCode (hr : r.isCode = true) (h : ∀ c ∈ s, c ∉ marks) : r.bare s = s := by
  induction s generalizing r with
  | nil => rfl
  | cons c s ih =>
    rw [bare, if_pos hr, next_of_not_mark hr (h c List.mem_cons_self),
      ih rfl fun d hd => h d (List.mem_cons_of_mem _ hd)]

theorem bare_of_not_isCode (hr : r.isCode = false) (h : ∀ c ∈ s, c ∉ marks) :
    ∀ c ∈ r.bare s, c = ' ' := by
  induction s generalizing r with
  | nil => exact List.forall_mem_nil _
  | cons c s ih =>
    have hnext := isCode_next_of_not_mark hr (h c List.mem_cons_self)
    rw [bare, hr, if_neg Bool.false_ne_true]
    exact List.forall_mem_cons.mpr ⟨rfl, ih hnext fun d hd => h d (List.mem_cons_of_mem _ hd)⟩

/-- Blanks keep the reader in code, whatever they are. -/
theorem after_code_of_blank (h : ∀ c ∈ s, Text.isBlank c = true) : code.after s = .code := by
  have hmarks : ∀ c ∈ ['\'', '"', '-', '/', '*'], ¬ Text.isBlank c = true :=
    List.any_eq_false.mp (by decide)
  induction s with
  | nil => rfl
  | cons c s ih =>
    have hnot : c ∉ ['\'', '"', '-', '/', '*'] := fun hmem =>
      hmarks c hmem (h c List.mem_cons_self)
    simp only [List.mem_cons, List.not_mem_nil, or_false, not_or] at hnot
    have hnext : code.next c = .code := by
      unfold next nextInCode
      simp [hnot]
    show (code.next c).after s = .code
    rw [hnext]
    exact ih fun d hd => h d (List.mem_cons_of_mem _ hd)

end Region

/-! ### Words in code -/

/-- A letter, a digit, an underscore or a character beyond ASCII: what names and keywords are made
    of. -/
def isNameCharacter (c : Char) : Bool :=
  c.isAlphanum || c == '_' || (128 ≤ c.toNat && !Text.isBlank c)

/-- The names, keywords and numbers of a text. -/
def codeWords (s : List Char) : List (List Char) :=
  Text.runsWithout (!isNameCharacter ·) (Region.code.bare s)

/-- A text has the keyword `LIMIT`. -/
def HasLimit (text : String) : Prop :=
  ∃ w ∈ codeWords text.toList, Text.equalIgnoringCase w "limit".toList = true

instance (text : String) : Decidable (HasLimit text) :=
  inferInstanceAs (Decidable (∃ w ∈ _, _))

/-- What follows a text is read as code. -/
def EndsInCode (s : List Char) : Prop := (Region.code.after s).isCode = true

instance (s : List Char) : Decidable (EndsInCode s) := inferInstanceAs (Decidable (_ = true))

theorem bounds_of_isAlphanum (h : c.isAlphanum = true) : 48 ≤ c.toNat ∧ c.toNat ≤ 122 := by
  have hends : 'A'.toNat = 65 ∧ 'Z'.toNat = 90 ∧ 'a'.toNat = 97 ∧ 'z'.toNat = 122 ∧
      '0'.toNat = 48 ∧ '9'.toNat = 57 := by decide
  have hnumbers : ∀ {low high : Char}, low ≤ c ∧ c ≤ high →
      low.toNat ≤ c.toNat ∧ c.toNat ≤ high.toNat :=
    fun h => ⟨UInt32.le_iff_toNat_le.mp h.1, UInt32.le_iff_toNat_le.mp h.2⟩
  rcases Bool.or_eq_true_iff.mp h with hletter | hdigit
  · rcases Bool.or_eq_true_iff.mp hletter with hupper | hlower
    · have hbounds : 'A' ≤ c ∧ c ≤ 'Z' := of_decide_eq_true hupper
      have hrange := hnumbers hbounds
      omega
    · obtain ⟨hlow, hhigh⟩ := Bool.and_eq_true_iff.mp hlower
      have hbounds : 'a' ≤ c ∧ c ≤ 'z' := ⟨of_decide_eq_true hlow, of_decide_eq_true hhigh⟩
      have hrange := hnumbers hbounds
      omega
  · have hrange := Char.isDigit_iff_toNat.mp hdigit
    omega

theorem not_nameCharacter_of_blank (h : Text.isBlank c = true) : isNameCharacter c = false := by
  have hletter : c.isAlphanum = false := by
    rw [Bool.eq_false_iff]
    intro halpha
    have hbounds := bounds_of_isAlphanum halpha
    simp only [Text.isBlank] at h
    grind
  have hunderscore : c ≠ '_' := by
    rintro rfl
    exact absurd h (by decide)
  simp [isNameCharacter, h, hletter, hunderscore]

theorem not_blank_of_nameCharacter (h : isNameCharacter c = true) : Text.isBlank c = false := by
  rw [Bool.eq_false_iff]
  intro hblank
  rw [not_nameCharacter_of_blank hblank] at h
  cases h

/-- What ends a word of a statement is no part of a name. -/
theorem not_nameCharacter_of_endsWord (h : endsWord c = true) : isNameCharacter c = false := by
  simp only [endsWord, Bool.or_eq_true, beq_iff_eq] at h
  rcases h with (hblank | rfl) | rfl
  · exact not_nameCharacter_of_blank hblank
  · decide
  · decide

/-- A letter is one in either case. -/
theorem nameCharacter_of_lowerAscii (h : isNameCharacter (Text.lowerAscii c) = true) :
    isNameCharacter c = true := by
  unfold Text.lowerAscii at h
  by_cases hupper : 'A' ≤ c ∧ c ≤ 'Z'
  · have hletter : c.isUpper = true := decide_eq_true hupper
    have halnum : c.isAlphanum = true := by
      show (c.isUpper || c.isLower || c.isDigit) = true
      rw [hletter, Bool.true_or, Bool.true_or]
    simp [isNameCharacter, halnum]
  · rwa [if_neg hupper] at h

/-- A word that is written as another one but for the case has no other characters. -/
theorem nameCharacter_of_equal {w word : List Char}
    (h : Text.equalIgnoringCase w word = true)
    (hword : (word.map Text.lowerAscii).all isNameCharacter = true) :
    ∀ c ∈ w, isNameCharacter c = true := by
  intro c hc
  apply nameCharacter_of_lowerAscii
  apply List.all_eq_true.mp hword
  rw [← beq_iff_eq.mp h]
  exact List.mem_map_of_mem hc

/-- Characters that make no words add none behind a text. -/
theorem codeWords_append_right (h : ∀ c ∈ t, isNameCharacter c = false) (s : List Char) :
    codeWords (s ++ t) = codeWords s := by
  unfold codeWords
  rw [Region.bare_append, Text.runsWithout_append_right]
  intro c hc
  rcases Region.eq_blank_or_mem_of_mem_bare hc with rfl | hmem
  · decide
  · rw [h c hmem]
    rfl

/-- And blanks add none in front. -/
theorem codeWords_append_left (h : ∀ c ∈ t, Text.isBlank c = true) (s : List Char) :
    codeWords (t ++ s) = codeWords s := by
  unfold codeWords
  rw [Region.bare_append, Region.after_code_of_blank h, Text.runsWithout_append_left]
  intro c hc
  rcases Region.eq_blank_or_mem_of_mem_bare hc with rfl | hmem
  · decide
  · rw [not_nameCharacter_of_blank (h c hmem)]
    rfl

/-- The words of a query are those of its statement. -/
theorem IsStatementOf.codeWords_eq {q : List Char} (h : IsStatementOf s q) :
    codeWords q = codeWords s := by
  obtain ⟨before, gap, semicolons, behind, rfl, hbefore, hgap, hsemicolons, hbehind⟩ :=
    h.exists_parts
  have hblank : ∀ {text : List Char}, (∀ c ∈ text, Text.isBlank c = true) →
      ∀ c ∈ text, isNameCharacter c = false := fun h c hc => not_nameCharacter_of_blank (h c hc)
  have hsemicolon : ∀ c ∈ semicolons, isNameCharacter c = false := by
    intro c hc
    rw [hsemicolons c hc]
    decide
  rw [codeWords_append_right (hblank hbehind), codeWords_append_right hsemicolon,
    codeWords_append_right (hblank hgap), codeWords_append_left hbefore]

/-! ### A limit behind a statement -/

theorem not_mark_of_isDigit (h : c.isDigit = true) : c ∉ Region.marks := by
  have hmarks : ∀ d ∈ Region.marks, ¬ d.isDigit = true := List.any_eq_false.mp (by decide)
  exact fun hmem => hmarks c hmem h

theorem nameCharacter_of_isDigit (h : c.isDigit = true) : isNameCharacter c = true := by
  simp [isNameCharacter, Char.isAlphanum, h]

/-- Nothing opens or closes in a limit. -/
theorem not_mark_of_mem_limit (limit : Nat) :
    ∀ c ∈ " LIMIT ".toList ++ natText limit, c ∉ Region.marks :=
  List.forall_mem_append.mpr
    ⟨by simp [Region.marks], fun _ hc => not_mark_of_isDigit (isDigit_of_mem_natText hc)⟩

/-- The word is in code if the statement ends there. -/
theorem codeWords_withLimit (h : EndsInCode s) (limit : Nat) :
    codeWords (withLimit s limit) = codeWords s ++ ["LIMIT".toList, natText limit] := by
  have hbare : Region.code.bare (withLimit s limit) = withLimit (Region.code.bare s) limit := by
    unfold withLimit
    rw [List.append_assoc, Region.bare_append,
      Region.bare_of_isCode h (not_mark_of_mem_limit limit), List.append_assoc]
  unfold codeWords
  rw [hbare]
  refine runsWithout_withLimit (by decide) (by decide) ?_ (Region.code.bare s) limit
  intro c hc
  rw [nameCharacter_of_isDigit hc]
  rfl

/-- Otherwise it is lost. -/
theorem codeWords_withLimit_lost (h : ¬ EndsInCode s) (limit : Nat) :
    codeWords (withLimit s limit) = codeWords s := by
  unfold codeWords withLimit
  rw [List.append_assoc, Region.bare_append, Text.runsWithout_append_right]
  intro c hc
  rw [Region.bare_of_not_isCode (Bool.eq_false_iff.mpr h) (not_mark_of_mem_limit limit) c hc]
  decide

variable {query : String}

theorem hasLimit_iff_statement (query : String) :
    HasLimit query ↔ ∃ w ∈ codeWords (statement query.toList),
      Text.equalIgnoringCase w "limit".toList = true := by
  unfold HasLimit
  rw [(isStatementOf_statement query.toList).codeWords_eq]

/-- What is run has the keyword if the query has it, or if it is put where code is read. -/
theorem hasLimit_limitRows_iff (query : String) (limit : Nat) :
    HasLimit (limitRows query limit) ↔ HasLimit query ∨
      takesLimit (statement query.toList) = true ∧ EndsInCode (statement query.toList) := by
  by_cases htakes : takesLimit (statement query.toList) = true
  · have htext : HasLimit (limitRows query limit) ↔
        ∃ w ∈ codeWords (withLimit (statement query.toList) limit),
          Text.equalIgnoringCase w "limit".toList = true := by
      rw [limitRows_of_takesLimit htakes, HasLimit, String.toList_ofList]
    rw [htext, hasLimit_iff_statement]
    -- the word counts if it is put where code is read, whatever the statement has
    by_cases hends : EndsInCode (statement query.toList)
    · refine iff_of_true ⟨"LIMIT".toList, ?_, by decide⟩ (Or.inr ⟨htakes, hends⟩)
      rw [codeWords_withLimit hends]
      simp
    · rw [codeWords_withLimit_lost hends]
      simp [hends]
  · rw [limitRows_of_not_takesLimit (by simpa using htakes)]
    simp [htakes]

/-! ### Texts without literals and comments -/

/-- No literal, no quoted name and no comment begins in the text. -/
structure IsPlain (s : List Char) : Prop where
  no_literal : '\'' ∉ s
  no_name : '"' ∉ s
  no_lineComment : ¬ ['-', '-'] <:+: s
  no_blockComment : ¬ ['/', '*'] <:+: s

theorem IsPlain.of_infix (h : IsPlain s) (ht : t <:+: s) : IsPlain t :=
  ⟨fun hmem => h.no_literal (ht.subset hmem), fun hmem => h.no_name (ht.subset hmem),
    fun hmem => h.no_lineComment (hmem.trans ht), fun hmem => h.no_blockComment (hmem.trans ht)⟩

/-- The character that a region stands behind. -/
def Region.mark? : Region → Option Char
  | .dash => some '-'
  | .slash => some '/'
  | _ => none

theorem Region.mark_of_next {r : Region} {d : Char} (h : (r.next c).mark? = some d) : c = d := by
  cases r <;> simp only [next, nextInCode] at h <;> grind [mark?]

theorem Region.last_of_after {d : Char} (h : (Region.code.after s).mark? = some d) :
    ∃ s', s = s' ++ [d] := by
  rcases List.eq_nil_or_concat s with rfl | ⟨s', c, rfl⟩
  · cases h
  · rw [List.concat_eq_append, after_append] at h
    obtain rfl : c = d := mark_of_next h
    exact ⟨s', List.concat_eq_append⟩

/-- A text in which nothing begins is all code. -/
theorem IsPlain.endsInCode (h : IsPlain s) : EndsInCode s := by
  -- from the end on, since the last character decides what the next one may open
  induction s using List.reverseRecOn with
  | nil => rfl
  | append_singleton s c ih =>
    have hs : (Region.code.after s).isCode = true := ih (h.of_infix (List.infix_append' [] s [c]))
    have hafter : Region.code.after (s ++ [c]) = (Region.code.after s).nextInCode c := by
      rw [Region.after_append]
      exact Region.next_of_isCode hs c
    have hliteral : c ≠ '\'' := by
      rintro rfl
      exact h.no_literal (by simp)
    have hname : c ≠ '"' := by
      rintro rfl
      exact h.no_name (by simp)
    have hdash : ¬ (c = '-' ∧ Region.code.after s = .dash) := by
      rintro ⟨rfl, hdash⟩
      obtain ⟨s', rfl⟩ := Region.last_of_after (congrArg Region.mark? hdash)
      exact h.no_lineComment ⟨s', [], by simp⟩
    have hslash : ¬ (c = '*' ∧ Region.code.after s = .slash) := by
      rintro ⟨rfl, hslash⟩
      obtain ⟨s', rfl⟩ := Region.last_of_after (congrArg Region.mark? hslash)
      exact h.no_blockComment ⟨s', [], by simp⟩
    unfold EndsInCode
    rw [hafter, Region.nextInCode, if_neg hliteral, if_neg hname]
    by_cases hc : c = '-'
    · rw [if_pos hc, if_neg fun hr => hdash ⟨hc, hr⟩]
      rfl
    · rw [if_neg hc, if_neg hslash]
      split <;> rfl

theorem Region.bare_eq_self {r : Region} (h : ∀ t, t <+: s → (r.after t).isCode = true) :
    r.bare s = s := by
  induction s generalizing r with
  | nil => rfl
  | cons c s ih =>
    have hr : r.isCode = true := h [] List.nil_prefix
    rw [bare, if_pos hr, ih fun t ht => h (c :: t) (List.cons_prefix_cons.mpr ⟨rfl, ht⟩)]

/-- There a word that is found is a keyword. -/
theorem IsPlain.hasLimit (h : IsPlain s) (hword : hasLimitWord s = true) :
    ∃ w ∈ codeWords s, Text.equalIgnoringCase w "limit".toList = true := by
  obtain ⟨w, hw, hlimit⟩ := List.any_eq_true.mp hword
  have hbare : Region.code.bare s = s :=
    Region.bare_eq_self fun t ht => (h.of_infix ht.isInfix).endsInCode
  -- its letters are no marks, so the run is not cut further as a word in code
  refine ⟨w, ?_, hlimit⟩
  unfold codeWords
  rw [hbare]
  refine Text.mem_runsWithout_of_imp ?_ ?_ hw
  · intro c hc
    rw [not_nameCharacter_of_endsWord hc]
    rfl
  · intro c hc
    rw [nameCharacter_of_equal hlimit (by decide) c hc]
    rfl

/-! ### A single statement -/

/-- The query begins with the word `SELECT`, and `rest` is what follows it, up to the semicolons at
    the end. -/
structure IsSingleSelect (query : String) (rest : List Char) : Prop where
  exists_parts : ∃ before word semicolons behind,
    query.toList = before ++ (word ++ rest) ++ semicolons ++ behind ∧
      (∀ c ∈ before, Text.isBlank c = true) ∧
      Text.equalIgnoringCase word "select".toList = true ∧
      (∀ c ∈ semicolons, c = ';') ∧ ∀ c ∈ behind, Text.isBlank c = true
  ends_word : ∀ c ∈ rest.head?, isNameCharacter c = false
  no_semicolon : ';' ∉ rest

theorem startsQuery_trim (s : List Char) : startsQuery (Text.trim s) = startsQuery s := by
  obtain ⟨before, behind, hparts, hbefore, hbehind⟩ := Text.exists_trim s
  have hsame : Text.words (Text.trim s) = Text.words s := by
    conv_rhs => rw [hparts]
    unfold Text.words
    rw [Text.runsWithout_append_right hbehind, Text.runsWithout_append_left hbefore]
  unfold startsQuery
  rw [hsame]

/-- A statement that begins with the word is taken for one that asks for rows if a blank follows. -/
theorem startsQuery_iff {word rest : List Char}
    (hselect : Text.equalIgnoringCase word "select".toList = true) :
    startsQuery (word ++ rest) = true ↔ ∀ c ∈ rest.head?, Text.isBlank c = true := by
  have hlength : word.length = 6 := by simpa using congrArg List.length (beq_iff_eq.mp hselect)
  have hblank : ∀ c ∈ word, Text.isBlank c = false := fun c hc =>
    not_blank_of_nameCharacter (nameCharacter_of_equal hselect (by decide) c hc)
  obtain ⟨first, behind, rfl, hfirst, hend⟩ := Text.exists_first_run Text.isBlank rest
  have hwords : Text.words (word ++ (first ++ behind)) = (word ++ first) :: Text.words behind := by
    rw [← List.append_assoc]
    refine Text.runsWithout_append ?_ (List.forall_mem_append.mpr ⟨hblank, hfirst⟩) hend
    intro hnil
    rw [(List.append_eq_nil_iff.mp hnil).1] at hlength
    cases hlength
  unfold startsQuery
  rw [hwords]
  cases first with
  | nil =>
    simp only [List.append_nil, List.nil_append, hselect, Bool.true_or]
    exact iff_of_true trivial hend
  | cons c first =>
    -- a longer word is another one
    have hother : ∀ name : List Char, name.length ≤ 6 →
        Text.equalIgnoringCase (word ++ c :: first) name = false := by
      intro name hname
      rw [Bool.eq_false_iff]
      intro heq
      have hsame := congrArg List.length (beq_iff_eq.mp heq)
      simp only [List.length_map, List.length_append, List.length_cons] at hsame
      omega
    have hc : Text.isBlank c = false := hfirst c List.mem_cons_self
    simp [hother, hc]

/-- Such a query takes a limit if a blank follows its first word, unless the word `LIMIT` stands in
    it. -/
theorem IsSingleSelect.takesLimit_iff {rest : List Char} (h : IsSingleSelect query rest) :
    takesLimit (statement query.toList) = true ↔
      (∀ c ∈ rest.head?, Text.isBlank c = true) ∧
        hasLimitWord (statement query.toList) = false := by
  obtain ⟨⟨before, word, semicolons, behind, hquery, hbefore, hselect, hsemicolons, hbehind⟩,
    -, hsemicolon⟩ := h
  obtain ⟨before', gap, hparts, hbefore', hgap⟩ := Text.exists_trim (word ++ rest)
  have hname := nameCharacter_of_equal hselect (by decide)
  have hword : ';' ∉ word := fun hmem => absurd (hname ';' hmem) (by decide)
  have hinside : ';' ∉ Text.trim (word ++ rest) := by
    intro hmem
    have hbody : ';' ∈ word ++ rest := by
      rw [hparts]
      simp [hmem]
    exact (List.mem_append.mp hbody).elim hword hsemicolon
  -- blanks at the end of `rest` belong to the gap before the semicolons
  have hof : IsStatementOf (Text.trim (word ++ rest)) query.toList := by
    refine ⟨⟨before ++ before', gap, semicolons, behind, ?_,
      List.forall_mem_append.mpr ⟨hbefore, hbefore'⟩, hgap, hsemicolons, hbehind⟩,
      Text.head_trim _, Text.last_trim _⟩
    rw [hquery]
    conv_lhs => rw [hparts]
    simp only [List.append_assoc]
  have hne : Text.trim (word ++ rest) ≠ [] := by
    intro hnil
    obtain ⟨c, hc⟩ : ∃ c, c ∈ word := List.exists_mem_of_ne_nil _ fun hempty => by
      rw [hempty] at hselect
      cases hselect
    have hmem : c ∈ before' ++ gap := by
      rw [← List.append_nil before', ← hnil, ← hparts]
      exact List.mem_append_left _ hc
    have hblank := List.forall_mem_append.mpr ⟨hbefore', hgap⟩ c hmem
    rw [not_blank_of_nameCharacter (hname c hc)] at hblank
    cases hblank
  rw [hof.statement_eq hne hinside, Sql.takesLimit_iff, startsQuery_trim, startsQuery_iff hselect]
  simp only [hinside, not_false_iff, true_and]

/-- What is run for a single `SELECT` has the keyword `LIMIT` if the query has it, or if a blank
    follows the first word, the word `LIMIT` stands nowhere in the query and the query ends in code.
    So it has it if no literal, quoted name or comment begins in a query with that blank. -/
theorem single_select_limited_iff (query : String) (limit : Nat) (rest : List Char)
    (h : IsSingleSelect query rest) :
    (HasLimit (limitRows query limit) ↔ HasLimit query ∨
      (∀ c ∈ rest.head?, Text.isBlank c = true) ∧ hasLimitWord (statement query.toList) = false ∧
        EndsInCode (statement query.toList)) ∧
    (IsPlain query.toList → (∀ c ∈ rest.head?, Text.isBlank c = true) →
      HasLimit (limitRows query limit)) := by
  have hiff : HasLimit (limitRows query limit) ↔ HasLimit query ∨
      (∀ c ∈ rest.head?, Text.isBlank c = true) ∧ hasLimitWord (statement query.toList) = false ∧
        EndsInCode (statement query.toList) := by
    rw [hasLimit_limitRows_iff, h.takesLimit_iff, and_assoc]
  refine ⟨hiff, ?_⟩
  intro hplain hblank
  have hstatement : IsPlain (statement query.toList) := by
    obtain ⟨before, gap, semicolons, behind, hparts, -⟩ :=
      (isStatementOf_statement query.toList).exists_parts
    refine hplain.of_infix ⟨before, gap ++ semicolons ++ behind, ?_⟩
    conv_rhs => rw [hparts]
    simp only [List.append_assoc]
  rw [hiff]
  cases hword : hasLimitWord (statement query.toList) with
  | true => exact Or.inl ((hasLimit_iff_statement query).mpr (hstatement.hasLimit hword))
  | false => exact Or.inr ⟨hblank, rfl, hstatement.endsInCode⟩

/-- The parts of a query that is nothing but a `SELECT` and semicolons. -/
theorem isSingleSelect_of_parts {word rest semicolons : List Char}
    (hquery : query.toList = word ++ rest ++ semicolons)
    (hselect : Text.equalIgnoringCase word "select".toList = true)
    (hends : rest.head?.any isNameCharacter = false) (hrest : ';' ∉ rest)
    (hsemicolons : semicolons.all (· == ';') = true) : IsSingleSelect query rest := by
  refine ⟨⟨[], word, semicolons, [], ?_, by simp, hselect, ?_, by simp⟩, ?_, hrest⟩
  · rw [hquery, List.nil_append, List.append_nil]
  · simpa using hsemicolons
  · intro c hc
    rw [Option.mem_def.mp hc] at hends
    exact hends

/-- A literal before the end of the statement does no harm. -/
theorem select_with_literal_limited :
    IsSingleSelect "select 'it''s' from t;" " 'it''s' from t".toList ∧
      HasLimit (limitRows "select 'it''s' from t;" 10) := by
  have hparts : "select 'it''s' from t;".toList =
      "select".toList ++ " 'it''s' from t".toList ++ [';'] := by decide
  have hsingle : IsSingleSelect "select 'it''s' from t;" " 'it''s' from t".toList :=
    isSingleSelect_of_parts hparts (by decide) (by decide) (by decide) (by decide)
  have hhead : " 'it''s' from t".toList.head? = some ' ' := by decide
  refine ⟨hsingle, (single_select_limited_iff _ 10 _ hsingle).1.mpr (Or.inr ⟨?_, ?_, ?_⟩)⟩
  · rw [hhead]
    rintro c ⟨⟩
    decide
  · decide
  · decide

/-- The word in a literal keeps the limit away, and so does a `*` right behind the first word; a
    comment at the end swallows the limit. -/
theorem select_runs_without_limit :
    let titled := "SELECT * FROM notes WHERE title = 'the limit is 5'"
    let joined := "SELECT*FROM users"
    let commented := "SELECT id FROM users -- all of them"
    (IsSingleSelect titled (titled.toList.drop 6) ∧ limitRows titled 1000 = titled ∧
      ¬ HasLimit (limitRows titled 1000)) ∧
    (IsSingleSelect joined (joined.toList.drop 6) ∧ limitRows joined 1000 = joined ∧
      ¬ HasLimit (limitRows joined 1000)) ∧
    IsSingleSelect commented (commented.toList.drop 6) ∧ ¬ HasLimit (limitRows commented 1000) := by
  have hsingle : ∀ s : String, Text.equalIgnoringCase (s.toList.take 6) "select".toList = true →
      (s.toList.drop 6).head?.any isNameCharacter = false → ';' ∉ s.toList.drop 6 →
      IsSingleSelect s (s.toList.drop 6) := by
    intro s hselect hends hrest
    refine isSingleSelect_of_parts ?_ hselect hends hrest (List.all_nil)
    rw [List.take_append_drop, List.append_nil]
  refine ⟨⟨hsingle _ ?_ ?_ ?_, ?_, ?_⟩, ⟨hsingle _ ?_ ?_ ?_, ?_, ?_⟩, hsingle _ ?_ ?_ ?_, ?_⟩
  all_goals decide +kernel

end QueryDispatch.Sql
