import QueryDispatch.Text.Blank

/-! # Runs of characters

  A text falls into runs at the characters that end a run. So it can be cut at
  such a character, and its runs are those of the two parts. What ends runs at
  either side of a text adds none.
-/

namespace QueryDispatch.Text

variable {p q : Char → Bool} {c d : Char} {s t w : List Char}

/-! ### The first character -/

theorem runsWithout_cons_of_end (h : p c = true) (s : List Char) :
    runsWithout p (c :: s) = runsWithout p s := by
  cases s <;> simp [runsWithout, h]

theorem runsWithout_cons_cons_of_end (hc : p c = false) (hd : p d = true) (s : List Char) :
    runsWithout p (c :: d :: s) = [c] :: runsWithout p (d :: s) := by
  rw [runsWithout.eq_def]
  simp [hc, hd]

/-- A run goes on over the next character that does not end it. -/
theorem runsWithout_cons_cons (hc : p c = false) (hd : p d = false) (s : List Char) :
    ∃ w ws, runsWithout p (d :: s) = w :: ws ∧ runsWithout p (c :: d :: s) = (c :: w) :: ws := by
  have hruns : runsWithout p (d :: s) ≠ [] := by
    rw [runsWithout.eq_def]
    simp only [hd, Bool.false_eq_true, if_false]
    split
    · simp
    · split
      · simp
      · split <;> simp
  obtain ⟨w, ws, hw⟩ := List.exists_cons_of_ne_nil hruns
  refine ⟨w, ws, hw, ?_⟩
  rw [runsWithout.eq_def]
  simp [hc, hd, hw]

/-! ### Cutting -/

/-- A text cut at a character that ends a run. -/
theorem runsWithout_append_cons (h : p c = true) (s t : List Char) :
    runsWithout p (s ++ c :: t) = runsWithout p s ++ runsWithout p t := by
  induction s with
  | nil =>
    rw [List.nil_append, runsWithout_cons_of_end h]
    rfl
  | cons d s ih =>
    rw [List.cons_append]
    by_cases hd : p d = true
    · rw [runsWithout_cons_of_end hd, runsWithout_cons_of_end hd, ih]
    · have hd : p d = false := by simpa using hd
      cases s with
      | nil =>
        rw [List.nil_append, runsWithout_cons_cons_of_end hd h, runsWithout_cons_of_end h]
        simp [runsWithout, hd]
      | cons e s =>
        rw [List.cons_append] at ih ⊢
        by_cases he : p e = true
        · rw [runsWithout_cons_cons_of_end hd he, runsWithout_cons_cons_of_end hd he, ih,
            List.cons_append]
        · -- the run of `d` goes on, in the text and in its first part
          have he : p e = false := by simpa using he
          obtain ⟨w, ws, hw, hruns⟩ := runsWithout_cons_cons hd he s
          obtain ⟨w', ws', hw', hruns'⟩ := runsWithout_cons_cons hd he (s ++ c :: t)
          rw [hw, hw', List.cons_append] at ih
          obtain ⟨rfl, rfl⟩ := List.cons.inj ih
          rw [hruns, hruns', List.cons_append]

/-! ### Texts of one kind -/

theorem runsWithout_of_ends (h : ∀ c ∈ s, p c = true) : runsWithout p s = [] := by
  induction s with
  | nil => rfl
  | cons c s ih =>
    rw [runsWithout_cons_of_end (h c List.mem_cons_self)]
    exact ih fun d hd => h d (List.mem_cons_of_mem _ hd)

theorem runsWithout_of_run (hne : s ≠ []) (h : ∀ c ∈ s, p c = false) : runsWithout p s = [s] := by
  induction s with
  | nil => exact absurd rfl hne
  | cons c s ih =>
    have hc := h c List.mem_cons_self
    have hs : ∀ d ∈ s, p d = false := fun d hd => h d (List.mem_cons_of_mem _ hd)
    cases s with
    | nil => simp [runsWithout, hc]
    | cons d s =>
      obtain ⟨w, ws, hw, hruns⟩ := runsWithout_cons_cons hc (hs d List.mem_cons_self) s
      rw [ih (List.cons_ne_nil _ _) hs] at hw
      obtain ⟨rfl, rfl⟩ := List.cons.inj hw
      exact hruns

/-- The first run of a text. -/
theorem runsWithout_append (hne : s ≠ []) (h : ∀ c ∈ s, p c = false)
    (hend : ∀ c ∈ t.head?, p c = true) : runsWithout p (s ++ t) = s :: runsWithout p t := by
  cases t with
  | nil =>
    rw [List.append_nil, runsWithout_of_run hne h]
    rfl
  | cons c t =>
    have hc : p c = true := hend c rfl
    rw [runsWithout_append_cons hc, runsWithout_of_run hne h, runsWithout_cons_of_end hc]
    rfl

/-- A text is cut at the first character that ends a run. -/
theorem exists_first_run (p : Char → Bool) (s : List Char) :
    ∃ first rest, s = first ++ rest ∧ (∀ c ∈ first, p c = false) ∧
      ∀ c ∈ rest.head?, p c = true := by
  refine ⟨s.takeWhile (!p ·), s.dropWhile (!p ·), List.takeWhile_append_dropWhile.symm, ?_, ?_⟩
  · intro c hc
    simpa using List.all_eq_true.mp List.all_takeWhile c hc
  · intro c hc
    have hnot := List.head?_dropWhile_not (!p ·) s
    rw [Option.mem_def.mp hc] at hnot
    simpa using hnot

/-- What ends runs adds none in front. -/
theorem runsWithout_append_left (h : ∀ c ∈ s, p c = true) (t : List Char) :
    runsWithout p (s ++ t) = runsWithout p t := by
  induction s with
  | nil => rfl
  | cons c s ih =>
    rw [List.cons_append, runsWithout_cons_of_end (h c List.mem_cons_self)]
    exact ih fun d hd => h d (List.mem_cons_of_mem _ hd)

/-- Nor behind. -/
theorem runsWithout_append_right (h : ∀ c ∈ t, p c = true) (s : List Char) :
    runsWithout p (s ++ t) = runsWithout p s := by
  cases t with
  | nil => rw [List.append_nil]
  | cons c t =>
    have ht : ∀ d ∈ t, p d = true := fun d hd => h d (List.mem_cons_of_mem _ hd)
    rw [runsWithout_append_cons (h c List.mem_cons_self), runsWithout_of_ends ht, List.append_nil]

/-! ### Runs inside a text -/

/-- A run of a text: characters that do not end it, between two that do or the ends of the text. -/
def IsRun (p : Char → Bool) (w s : List Char) : Prop :=
  w ≠ [] ∧ (∀ c ∈ w, p c = false) ∧ ∃ before behind, s = before ++ w ++ behind ∧
    (∀ c ∈ before.getLast?, p c = true) ∧ ∀ c ∈ behind.head?, p c = true

theorem IsRun.mem (h : IsRun p w s) : w ∈ runsWithout p s := by
  obtain ⟨hne, hw, before, behind, rfl, hbefore, hbehind⟩ := h
  have hrun : w ∈ runsWithout p (w ++ behind) := by
    rw [runsWithout_append hne hw hbehind]
    exact List.mem_cons_self
  rw [List.append_assoc]
  rcases List.eq_nil_or_concat before with rfl | ⟨before, c, rfl⟩
  · exact hrun
  · rw [List.concat_eq_append] at hbefore ⊢
    have hc : p c = true := hbefore c (by simp)
    rw [List.append_assoc, List.singleton_append, runsWithout_append_cons hc]
    exact List.mem_append_right _ hrun

/-- Every run that is listed is one. -/
theorem isRun_of_mem (h : w ∈ runsWithout p s) : IsRun p w s := by
  -- the first run is taken off, so the rest may be shorter by many characters
  induction hn : s.length using Nat.strongRecOn generalizing s with
  | ind n ih =>
    subst hn
    obtain ⟨first, rest, rfl, hfirst, hend⟩ := exists_first_run p s
    have hone : w ∈ runsWithout p first → w = first ∧ first ≠ [] := by
      intro hmem
      have hne : first ≠ [] := by
        rintro rfl
        cases hmem
      rw [runsWithout_of_run hne hfirst] at hmem
      exact ⟨List.mem_singleton.mp hmem, hne⟩
    cases rest with
    | nil =>
      rw [List.append_nil] at h ⊢
      obtain ⟨rfl, hne⟩ := hone h
      exact ⟨hne, hfirst, [], [], by simp, by simp, by simp⟩
    | cons c rest =>
      have hc := hend c rfl
      rw [runsWithout_append_cons hc] at h
      rcases List.mem_append.mp h with h | h
      · obtain ⟨rfl, hne⟩ := hone h
        exact ⟨hne, hfirst, [], c :: rest, by simp, by simp, hend⟩
      · obtain ⟨hne, hw, before, behind, rfl, hbefore, hbehind⟩ :=
          ih rest.length (by simp; omega) h rfl
        refine ⟨hne, hw, first ++ c :: before, behind, by simp, ?_, hbehind⟩
        intro d hd
        rw [List.getLast?_append, List.getLast?_cons] at hd
        cases hlast : before.getLast? with
        | none => simp_all
        | some e => simp_all

theorem mem_runsWithout_iff : w ∈ runsWithout p s ↔ IsRun p w s :=
  ⟨isRun_of_mem, IsRun.mem⟩

/-- A run stays one where more characters end runs, if none of them is in it. -/
theorem mem_runsWithout_of_imp (hpq : ∀ c, p c = true → q c = true)
    (hw : ∀ c ∈ w, q c = false) (h : w ∈ runsWithout p s) : w ∈ runsWithout q s := by
  rw [mem_runsWithout_iff] at h ⊢
  obtain ⟨hne, -, before, behind, hs, hbefore, hbehind⟩ := h
  exact ⟨hne, hw, before, behind, hs, fun c hc => hpq c (hbefore c hc),
    fun c hc => hpq c (hbehind c hc)⟩

end QueryDispatch.Text
