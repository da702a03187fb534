import QueryDispatch.Text.Blank

/-! # Pieces of a text

  A text that is put together from pieces comes apart at its marks again, as
  long as no piece holds the mark.
-/

namespace QueryDispatch.Text

variable {mark c : Char} {a lead : List Char}

theorem stops_cons {kind : Char → Bool} (hc : kind c = false) (rest : List Char) :
    ∀ d ∈ (c :: rest).head?, kind d = false := by
  intro d hd
  rw [List.head?_cons, Option.mem_some_iff] at hd
  rwa [← hd]

/-- A run of characters of one kind ends where another one follows. -/
theorem takeWhile_run {kind : Char → Bool} {run rest : List Char}
    (hrun : ∀ c ∈ run, kind c = true) (hrest : ∀ c ∈ rest.head?, kind c = false) :
    (run ++ rest).takeWhile kind = run := by
  rw [List.takeWhile_append_of_pos hrun]
  cases rest with
  | nil => simp
  | cons c rest =>
    rw [List.takeWhile_cons_of_neg (by rw [hrest c rfl]; decide), List.append_nil]

theorem dropWhile_run {kind : Char → Bool} {run rest : List Char}
    (hrun : ∀ c ∈ run, kind c = true) (hrest : ∀ c ∈ rest.head?, kind c = false) :
    (run ++ rest).dropWhile kind = rest := by
  have hsplit := List.takeWhile_append_dropWhile (p := kind) (l := run ++ rest)
  rw [takeWhile_run hrun hrest] at hsplit
  exact List.append_cancel_left hsplit

theorem splitAt_of_not_mem (h : mark ∉ a) : splitAt mark a = [a] := by
  induction a with
  | nil => rfl
  | cons d a ih =>
    have hd : ¬ d = mark := fun heq => h (heq ▸ List.mem_cons_self)
    have ha : mark ∉ a := fun hmem => h (List.mem_cons_of_mem _ hmem)
    rw [splitAt, if_neg hd, ih ha]

/-- A piece in front of a mark is the first one. -/
theorem splitAt_append (h : mark ∉ a) (b : List Char) :
    splitAt mark (a ++ mark :: b) = a :: splitAt mark b := by
  induction a with
  | nil => rw [List.nil_append, splitAt, if_pos rfl]
  | cons d a ih =>
    have hd : ¬ d = mark := fun heq => h (heq ▸ List.mem_cons_self)
    have ha : mark ∉ a := fun hmem => h (List.mem_cons_of_mem _ hmem)
    rw [List.cons_append, splitAt, if_neg hd, ih ha]

/-- Pieces that were joined at a mark come apart there. -/
theorem splitAt_joinWith {pieces : List (List Char)} (hne : pieces ≠ [])
    (h : ∀ piece ∈ pieces, mark ∉ piece) : splitAt mark (joinWith [mark] pieces) = pieces := by
  induction pieces with
  | nil => exact absurd rfl hne
  | cons piece rest ih =>
    have hpiece := h piece List.mem_cons_self
    cases rest with
    | nil => exact splitAt_of_not_mem hpiece
    | cons second others =>
      have hjoin : joinWith [mark] (piece :: second :: others) =
          piece ++ mark :: joinWith [mark] (second :: others) := by
        rw [joinWith, List.append_assoc, List.singleton_append]
        exact fun hnil => List.cons_ne_nil _ _ hnil
      rw [hjoin, splitAt_append hpiece,
        ih (List.cons_ne_nil _ _) fun p hp => h p (List.mem_cons_of_mem _ hp)]

/-- The cut at a character is at the first one. -/
theorem cutAt?_append (h : mark ∉ a) (b : List Char) :
    cutAt? [mark] (a ++ mark :: b) = some (a, b) := by
  induction a with
  | nil => cases b <;> simp [cutAt?, after?]
  | cons d a ih =>
    have hd : ¬ mark = d := fun heq => h (heq ▸ List.mem_cons_self)
    have ha : mark ∉ a := fun hmem => h (List.mem_cons_of_mem _ hmem)
    have hafter : after? [mark] (d :: (a ++ mark :: b)) = none := by
      rw [after?, if_neg hd]
    rw [List.cons_append, cutAt?, hafter, ih ha]
    rfl

/-- Without the mark there is no cut. -/
theorem cutAt?_of_not_mem (h : mark ∉ a) : cutAt? [mark] a = none := by
  induction a with
  | nil => rfl
  | cons d a ih =>
    have hd : ¬ mark = d := fun heq => h (heq ▸ List.mem_cons_self)
    have ha : mark ∉ a := fun hmem => h (List.mem_cons_of_mem _ hmem)
    have hafter : after? [mark] (d :: a) = none := by
      rw [after?, if_neg hd]
    rw [cutAt?, hafter, ih ha]
    rfl

/-- A lead without the mark ends in front of it. -/
theorem after?_append_of_not_mem (h : c ∉ lead) (a b : List Char) :
    after? lead (a ++ c :: b) = (after? lead a).map (· ++ c :: b) := by
  induction lead generalizing a with
  | nil => cases a <;> rfl
  | cons d lead ih =>
    have hd : ¬ d = c := fun heq => h (heq ▸ List.mem_cons_self)
    have hlead : c ∉ lead := fun hmem => h (List.mem_cons_of_mem _ hmem)
    cases a with
    | nil =>
      rw [List.nil_append, after?, if_neg hd]
      rfl
    | cons e a =>
      rw [List.cons_append, after?, after?, ih hlead]
      split <;> rfl

end QueryDispatch.Text
