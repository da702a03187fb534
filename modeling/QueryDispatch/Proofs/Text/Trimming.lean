import Mathlib.Data.List.DropRight
import QueryDispatch.Text.Blank

/-! # Trimmed texts

  Trimming takes the blanks off both ends. What is left has none at its ends,
  so trimming it again changes nothing, and blanks around a text do not matter
  to what is left of it.
-/

namespace QueryDispatch.Text

variable {p : Char → Bool} {before t behind : List Char}

/-! ### The end of a text -/

theorem dropEndWhile_eq (p : Char → Bool) (s : List Char) : dropEndWhile p s = s.rdropWhile p := rfl

/-- Characters are taken off the end only if there are any to take. -/
theorem dropEndWhile_of_last (h : ∀ c ∈ t.getLast?, p c = false) : dropEndWhile p t = t := by
  rw [dropEndWhile_eq, List.rdropWhile_eq_self_iff]
  intro hne
  rw [h _ (List.getLast_mem_getLast? hne)]
  decide

/-- Those at the very end are taken off first. -/
theorem dropEndWhile_append (h : ∀ c ∈ behind, p c = true) (t : List Char) :
    dropEndWhile p (t ++ behind) = dropEndWhile p t := by
  have hreverse : ∀ c ∈ behind.reverse, p c = true := by
    intro c hc
    exact h c (List.mem_reverse.mp hc)
  unfold dropEndWhile
  rw [List.reverse_append, List.dropWhile_append_of_pos hreverse]

theorem last_dropEndWhile (p : Char → Bool) (s : List Char) :
    ∀ c ∈ (dropEndWhile p s).getLast?, p c = false := by
  intro c hc
  obtain ⟨hne, rfl⟩ := List.mem_getLast?_eq_getLast hc
  exact Bool.eq_false_iff.mpr (List.rdropWhile_last_not p s hne)

/-- A text is what is left of it and what was taken off its end. -/
theorem exists_dropEndWhile (p : Char → Bool) (s : List Char) :
    ∃ behind, s = dropEndWhile p s ++ behind ∧ ∀ c ∈ behind, p c = true :=
  ⟨s.rtakeWhile p, (List.rdropWhile_append_rtakeWhile).symm, fun _ hc => List.mem_rtakeWhile_imp hc⟩

/-! ### Both ends -/

/-- A text is its trimmed form between blanks. -/
theorem exists_trim (s : List Char) :
    ∃ before behind, s = before ++ trim s ++ behind ∧
      (∀ c ∈ before, isBlank c = true) ∧ ∀ c ∈ behind, isBlank c = true := by
  obtain ⟨behind, hbehind, hblank⟩ := exists_dropEndWhile isBlank (s.dropWhile isBlank)
  refine ⟨s.takeWhile isBlank, behind, ?_, ?_, hblank⟩
  · rw [List.append_assoc]
    conv_lhs => rw [← List.takeWhile_append_dropWhile (p := isBlank) (l := s), hbehind]
    rfl
  · intro c hc
    exact List.all_eq_true.mp List.all_takeWhile c hc

theorem head_trim (s : List Char) : ∀ c ∈ (trim s).head?, isBlank c = false := by
  intro c hc
  -- the first character left is the first one behind the blanks in front
  obtain ⟨more, hmore⟩ : trim s <+: s.dropWhile isBlank := List.rdropWhile_prefix _ _
  have hhead := List.head?_dropWhile_not isBlank s
  rw [← hmore, List.head?_append, Option.mem_def.mp hc] at hhead
  simpa using hhead

theorem last_trim (s : List Char) : ∀ c ∈ (trim s).getLast?, isBlank c = false :=
  last_dropEndWhile isBlank _

/-- Blanks are taken off the front only if there are any. -/
theorem trimStart_of_head (h : ∀ c ∈ t.head?, isBlank c = false) : trimStart t = t := by
  cases t with
  | nil => rfl
  | cons c rest =>
    unfold trimStart
    rw [List.dropWhile_cons_of_neg (by rw [h c rfl]; decide)]

/-- A text whose ends are no blanks is what is left of it between blanks. -/
theorem trim_append_of_ends (hbefore : ∀ c ∈ before, isBlank c = true)
    (hhead : ∀ c ∈ t.head?, isBlank c = false) (hlast : ∀ c ∈ t.getLast?, isBlank c = false)
    (hbehind : ∀ c ∈ behind, isBlank c = true) : trim (before ++ t ++ behind) = t := by
  unfold trim trimEnd
  cases t with
  | nil =>
    have hall : ∀ c ∈ before ++ [] ++ behind, isBlank c = true := by
      intro c hc
      rw [List.append_nil] at hc
      exact (List.mem_append.mp hc).elim (hbefore c) (hbehind c)
    rw [trimStart, List.dropWhile_eq_nil_iff.mpr hall]
    rfl
  | cons c t =>
    have hstart : trimStart (before ++ (c :: t) ++ behind) = (c :: t) ++ behind := by
      rw [trimStart, List.append_assoc, List.dropWhile_append_of_pos hbefore]
      exact trimStart_of_head hhead
    rw [hstart, dropEndWhile_append hbehind, dropEndWhile_of_last hlast]

/-- So is a text without blanks. -/
theorem trim_append (hbefore : ∀ c ∈ before, isBlank c = true)
    (ht : ∀ c ∈ t, isBlank c = false) (hbehind : ∀ c ∈ behind, isBlank c = true) :
    trim (before ++ t ++ behind) = t :=
  trim_append_of_ends hbefore (fun c hc => ht c (List.mem_of_mem_head? hc))
    (fun c hc => ht c (List.mem_of_mem_getLast? hc)) hbehind

theorem trim_of_ends (hhead : ∀ c ∈ t.head?, isBlank c = false)
    (hlast : ∀ c ∈ t.getLast?, isBlank c = false) : trim t = t := by
  have hnone : ∀ c ∈ ([] : List Char), isBlank c = true := List.forall_mem_nil _
  have htrim := trim_append_of_ends hnone hhead hlast hnone
  rwa [List.append_nil, List.nil_append] at htrim

/-- A text without blanks is trimmed. -/
theorem trim_of_not_blank (h : ∀ c ∈ t, isBlank c = false) : trim t = t :=
  trim_of_ends (fun c hc => h c (List.mem_of_mem_head? hc))
    fun c hc => h c (List.mem_of_mem_getLast? hc)

/-- Trimming twice is trimming once. -/
theorem trim_trim (s : List Char) : trim (trim s) = trim s :=
  trim_of_ends (head_trim s) (last_trim s)

/-- Blanks around a text do not matter to what is left of it. -/
theorem trim_append_blanks (hbefore : ∀ c ∈ before, isBlank c = true)
    (hbehind : ∀ c ∈ behind, isBlank c = true) (s : List Char) :
    trim (before ++ s ++ behind) = trim s := by
  obtain ⟨before', behind', hs, hbefore', hbehind'⟩ := exists_trim s
  have hparts : before ++ s ++ behind = (before ++ before') ++ trim s ++ (behind' ++ behind) := by
    conv_lhs => rw [hs]
    simp only [List.append_assoc]
  rw [hparts]
  refine trim_append_of_ends ?_ (head_trim s) (last_trim s) ?_
  · exact List.forall_mem_append.mpr ⟨hbefore, hbefore'⟩
  · exact List.forall_mem_append.mpr ⟨hbehind', hbehind⟩

end QueryDispatch.Text
