import QueryDispatch.Text.Slice

/-! # Slices by bytes

  A position in bytes is a cut between two characters, or there is no cut at
  it. So a text is cut at two positions into what stands in front of them,
  between them and behind them, and the lengths in bytes tell these parts
  apart.
-/

namespace QueryDispatch.Text

variable {s t rest before behind : List Char} {m n : Nat}

/-! ### Lengths in bytes -/

theorem byteLength_append (s t : List Char) : byteLength (s ++ t) = byteLength s + byteLength t := by
  induction s with
  | nil => exact (Nat.zero_add _).symm
  | cons c s ih =>
    show c.utf8Size + byteLength (s ++ t) = c.utf8Size + byteLength s + byteLength t
    rw [ih, Nat.add_assoc]

/-- Characters of one byte each. -/
theorem byteLength_eq_length (h : ∀ c ∈ s, c.utf8Size = 1) : byteLength s = s.length := by
  induction s with
  | nil => rfl
  | cons c s ih =>
    have hrest := ih fun d hd => h d (List.mem_cons_of_mem c hd)
    have hc := h c List.mem_cons_self
    show c.utf8Size + byteLength s = s.length + 1
    omega

/-! ### Cuts -/

/-- The position behind a character and others is not the first one, and without the character it is
    the one behind the others. -/
theorem exists_position (c : Char) (s : List Char) :
    ∃ k, byteLength (c :: s) = k + 1 ∧ c.utf8Size ≤ k + 1 ∧ k + 1 - c.utf8Size = byteLength s := by
  have hpos := c.utf8Size_pos
  refine ⟨c.utf8Size + byteLength s - 1, ?_, ?_, ?_⟩
  · show c.utf8Size + byteLength s = _
    omega
  · omega
  · omega

theorem dropBytes?_zero (s : List Char) : dropBytes? 0 s = some s := by
  cases s <;> rfl

/-- Behind the first characters stands the rest. -/
theorem dropBytes?_append (before rest : List Char) :
    dropBytes? (byteLength before) (before ++ rest) = some rest := by
  induction before with
  | nil => exact dropBytes?_zero rest
  | cons c before ih =>
    obtain ⟨k, hk, hfits, hrest⟩ := exists_position c before
    rw [hk, List.cons_append, dropBytes?, if_pos hfits, hrest, ih]

theorem takeBytes?_append (t behind : List Char) :
    takeBytes? (byteLength t) (t ++ behind) = some t := by
  induction t with
  | nil => cases behind <;> rfl
  | cons c t ih =>
    obtain ⟨k, hk, hfits, hrest⟩ := exists_position c t
    rw [hk, List.cons_append, takeBytes?, if_pos hfits, hrest, ih, Option.map_some]

/-- A cut leaves what stands behind so many bytes. -/
theorem dropBytes?_eq_some_iff :
    dropBytes? n s = some rest ↔ ∃ before, s = before ++ rest ∧ byteLength before = n := by
  constructor
  · intro h
    induction s generalizing n with
    | nil =>
      match n, h with
      | 0, h => exact ⟨[], Option.some.inj h, rfl⟩
    | cons c s ih =>
      match n, h with
      | 0, h => exact ⟨[], Option.some.inj h, rfl⟩
      | n + 1, h =>
        rw [dropBytes?] at h
        obtain ⟨hfits, hdrop⟩ := Option.ite_none_right_eq_some.mp h
        obtain ⟨before, hs, hbytes⟩ := ih hdrop
        refine ⟨c :: before, congrArg (c :: ·) hs, ?_⟩
        show c.utf8Size + byteLength before = n + 1
        omega
  · intro h
    obtain ⟨before, hs, hbytes⟩ := h
    rw [hs, ← hbytes]
    exact dropBytes?_append before rest

theorem takeBytes?_eq_some_iff :
    takeBytes? n s = some t ↔ ∃ behind, s = t ++ behind ∧ byteLength t = n := by
  constructor
  · intro h
    induction s generalizing n t with
    | nil =>
      match n, h with
      | 0, h =>
        rw [← Option.some.inj h]
        exact ⟨[], rfl, rfl⟩
    | cons c s ih =>
      match n, h with
      | 0, h =>
        rw [← Option.some.inj h]
        exact ⟨c :: s, rfl, rfl⟩
      | n + 1, h =>
        rw [takeBytes?] at h
        obtain ⟨hfits, htake⟩ := Option.ite_none_right_eq_some.mp h
        obtain ⟨first, hfirst, ht⟩ := Option.map_eq_some_iff.mp htake
        obtain ⟨behind, hs, hbytes⟩ := ih hfirst
        refine ⟨behind, ?_, ?_⟩
        · rw [← ht, hs]
          rfl
        · rw [← ht]
          show c.utf8Size + byteLength first = n + 1
          omega
  · intro h
    obtain ⟨behind, hs, hbytes⟩ := h
    rw [hs, ← hbytes]
    exact takeBytes?_append t behind

/-- A second cut is one of what the first cut left. -/
theorem dropBytes?_add (h : dropBytes? m s = some rest) (n : Nat) :
    dropBytes? (m + n) s = dropBytes? n rest := by
  -- on the text: a character in front of the first cut is in front of both
  induction s generalizing m with
  | nil =>
    match m, h with
    | 0, h => rw [← Option.some.inj h, Nat.zero_add]
  | cons c s ih =>
    match m, h with
    | 0, h => rw [← Option.some.inj h, Nat.zero_add]
    | m + 1, h =>
      rw [dropBytes?] at h
      obtain ⟨hfits, hdrop⟩ := Option.ite_none_right_eq_some.mp h
      have hsum : m + 1 + n = m + n + 1 := by omega
      have hfront : m + n + 1 - c.utf8Size = m + 1 - c.utf8Size + n := by omega
      rw [hsum, dropBytes?, if_pos (by omega), hfront, ih hdrop]

/-- A cut one byte behind the start is one behind a character of one byte. -/
theorem dropBytes?_one_eq_some_iff :
    dropBytes? 1 s = some rest ↔ ∃ c, s = c :: rest ∧ c.utf8Size = 1 := by
  rw [dropBytes?_eq_some_iff]
  constructor
  · intro h
    obtain ⟨before, hs, hbytes⟩ := h
    match before, hbytes with
    | c :: more, hbytes =>
      have hpos := c.utf8Size_pos
      have hsum : c.utf8Size + byteLength more = 1 := hbytes
      -- a second character would be a second byte
      match more, hsum with
      | [], hsum => exact ⟨c, hs, hsum⟩
      | d :: more, hsum =>
        have hsecond := d.utf8Size_pos
        simp only [byteLength] at hsum
        omega
  · intro h
    obtain ⟨c, hs, hc⟩ := h
    exact ⟨[c], hs, hc⟩

end QueryDispatch.Text
