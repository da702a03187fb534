import Mathlib.Data.List.Infix
import QueryDispatch.Text.Blank

/-! # Cuts at the first mark

  A text is cut at the first occurrence of a mark, overlapping occurrences
  included: what stands before the cut and behind it is told by the text and
  the mark, and without an occurrence there is no cut.
-/

namespace QueryDispatch.Text

variable {mark other s head tail head' tail' : List Char}

theorem after?_eq_some_iff : after? mark s = some tail ↔ s = mark ++ tail := by
  constructor
  · exact eq_of_after?
  · rintro rfl
    exact after?_append mark tail

/-- Between `head` and `tail` stands a mark, and no other one begins before it. -/
structure IsFirstCut (mark s head tail : List Char) : Prop where
  eq_append : s = head ++ mark ++ tail
  first : ∀ before behind, s = before ++ mark ++ behind → head.length ≤ before.length

namespace IsFirstCut

theorem occurs (h : IsFirstCut mark s head tail) : mark <:+: s :=
  ⟨head, tail, h.eq_append.symm⟩

theorem unique (h : IsFirstCut mark s head tail) (h' : IsFirstCut mark s head' tail') :
    head = head' ∧ tail = tail' := by
  have hlength : head.length = head'.length :=
    Nat.le_antisymm (h.first _ _ h'.eq_append) (h'.first _ _ h.eq_append)
  have hsame : head ++ (mark ++ tail) = head' ++ (mark ++ tail') := by
    rw [← List.append_assoc, ← List.append_assoc, ← h.eq_append, ← h'.eq_append]
  obtain ⟨hhead, hrest⟩ := List.append_inj hsame hlength
  exact ⟨hhead, List.append_cancel_left hrest⟩

/-- What occurs behind some mark occurs behind the first one. -/
theorem occurs_behind (h : IsFirstCut mark s head tail) {a b c : List Char}
    (hs : s = a ++ mark ++ (b ++ other ++ c)) : other <:+: tail := by
  have hle := h.first a _ hs
  have hlength := congrArg List.length (h.eq_append.symm.trans hs)
  have hother : other ++ c <:+ s := ⟨a ++ mark ++ b, by simp [hs]⟩
  have htail : tail <:+ s := ⟨head ++ mark, h.eq_append.symm⟩
  have hshorter : (other ++ c).length ≤ tail.length := by
    simp only [List.length_append] at hlength ⊢
    omega
  obtain ⟨d, hd⟩ := List.suffix_of_suffix_length_le hother htail hshorter
  exact ⟨d, c, by rw [← hd, List.append_assoc]⟩

end IsFirstCut

/-- Where a cut is made it is the first one. -/
theorem isFirstCut_of_cutAt? (h : cutAt? mark s = some (head, tail)) :
    IsFirstCut mark s head tail := by
  induction s generalizing head with
  | nil =>
    unfold cutAt? at h
    split at h
    · next hmark =>
      obtain ⟨rfl, rfl⟩ := Prod.mk.inj (Option.some.inj h)
      exact ⟨by rw [hmark]; rfl, fun _ _ _ => Nat.zero_le _⟩
    · cases h
  | cons c rest ih =>
    unfold cutAt? at h
    split at h
    · next behind hafter =>
      obtain ⟨rfl, rfl⟩ := Prod.mk.inj (Option.some.inj h)
      exact ⟨eq_of_after? hafter, fun _ _ _ => Nat.zero_le _⟩
    · next hafter =>
      obtain ⟨⟨head', tail'⟩, hcut, heq⟩ := Option.map_eq_some_iff.mp h
      obtain ⟨rfl, rfl⟩ := Prod.mk.inj heq
      obtain ⟨heq, hfirst⟩ := ih hcut
      refine ⟨by rw [heq]; rfl, ?_⟩
      intro before behind hs
      cases before with
      | nil =>
        have hlead : after? mark (c :: rest) = some behind := after?_eq_some_iff.mpr hs
        rw [hafter] at hlead
        cases hlead
      | cons d before => exact Nat.succ_le_succ (hfirst before behind (List.cons.inj hs).2)

theorem cutAt?_eq_none_iff : cutAt? mark s = none ↔ ¬ mark <:+: s := by
  induction s with
  | nil =>
    unfold cutAt?
    split <;> simp_all
  | cons c rest ih =>
    have hlead : mark <+: c :: rest ↔ ∃ behind, after? mark (c :: rest) = some behind := by
      simp only [after?_eq_some_iff]
      exact ⟨fun ⟨t, ht⟩ => ⟨t, ht.symm⟩, fun ⟨t, ht⟩ => ⟨t, ht.symm⟩⟩
    rw [List.infix_cons_iff, hlead]
    unfold cutAt?
    split
    · next behind hafter => simp [hafter]
    · next hafter => simp [hafter, ih]

theorem cutAt?_eq_some_iff : cutAt? mark s = some (head, tail) ↔ IsFirstCut mark s head tail := by
  constructor
  · exact isFirstCut_of_cutAt?
  · intro h
    cases hcut : cutAt? mark s with
    | none => exact absurd h.occurs (cutAt?_eq_none_iff.mp hcut)
    | some parts =>
      obtain ⟨hhead, htail⟩ := h.unique (isFirstCut_of_cutAt? hcut)
      rw [hhead, htail]

end QueryDispatch.Text
