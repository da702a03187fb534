import Mathlib.Algebra.Group.Nat.Defs
import QueryDispatch.Proofs.Json.QuotedTexts
import QueryDispatch.Proofs.Json.WireForms
import QueryDispatch.Proofs.Text.Pieces
import QueryDispatch.Uuid

/-! # Identifiers are read as they are written

  The 32 digits of an identifier give its number back, and the hyphens show
  where the groups end, as no digit is a hyphen.
-/

namespace QueryDispatch

namespace Uuid

variable {c : Char} {n count : Nat}

/-! ### Hexadecimal digits -/

theorem hexDigits_succ (count n : Nat) :
    hexDigits (count + 1) n = Json.hexDigit (n / Nat.pow 16 count) :: hexDigits count n := by
  unfold hexDigits
  rw [List.range_succ_eq_map, List.map_cons, List.map_map]
  refine congrArg (List.cons _) (List.map_congr_left ?_)
  intro i hi
  have hexp : count + 1 - 1 - (i + 1) = count - 1 - i := by omega
  show Json.hexDigit (n / Nat.pow 16 (count + 1 - 1 - (i + 1))) = _
  rw [hexp]

@[simp] theorem length_hexDigits (count n : Nat) : (hexDigits count n).length = count := by
  unfold hexDigits
  rw [List.length_map, List.length_range]

theorem hyphen_not_mem_hexDigits (count n : Nat) : '-' ∉ hexDigits count n := by
  intro hmem
  obtain ⟨i, -, hi⟩ := List.mem_map.mp hmem
  have hvalue := Json.hexValue?_hexDigit (n / Nat.pow 16 (count - 1 - i))
  rw [hi] at hvalue
  cases hvalue

/-- The digits give the number back, as far as they reach. -/
theorem mapM_hexDigits (count n : Nat) :
    ∃ digits, (hexDigits count n).mapM Json.hexValue? = some digits ∧
      ∀ start, digits.foldl (fun n d => n * 16 + d) start =
        start * 16 ^ count + n % 16 ^ count := by
  induction count with
  | zero => exact ⟨[], rfl, fun start => by simp [Nat.mod_one]⟩
  | succ count ih =>
    obtain ⟨digits, hdigits, hfold⟩ := ih
    refine ⟨n / 16 ^ count % 16 :: digits, ?_, ?_⟩
    · rw [hexDigits_succ, List.mapM_cons, Json.hexValue?_hexDigit, hdigits]
      rfl
    · intro start
      rw [List.foldl_cons, hfold, Nat.pow_succ, Nat.mod_mul]
      grind

/-! ### Groups -/

theorem readDigits?_hexDigits (u : Uuid) : readDigits? (hexDigits 32 u.value.toNat) = some u := by
  obtain ⟨digits, hdigits, hfold⟩ := mapM_hexDigits 32 u.value.toNat
  have hlt : u.value.toNat < 16 ^ 32 := u.value.isLt
  unfold readDigits?
  rw [if_pos (length_hexDigits _ _), hdigits, Option.map_some, hfold, Nat.mod_eq_of_lt hlt,
    Nat.zero_mul, Nat.zero_add, ofNat, BitVec.ofNat_toNat, BitVec.setWidth_eq]

/-- Groups of 8, 4, 4, 4 and 12 digits are put together again. -/
theorem readGroups?_chars (u : Uuid) : readGroups? u.chars = some u := by
  obtain ⟨digits, hdigits⟩ : ∃ digits, digits = hexDigits 32 u.value.toNat := ⟨_, rfl⟩
  have hlen : digits.length = 32 := by rw [hdigits, length_hexDigits]
  have hhyphen : ∀ {group : List Char}, group.Sublist digits → '-' ∉ group :=
    fun hsub hmem => hyphen_not_mem_hexDigits 32 _ (hdigits ▸ hsub.subset hmem)
  have hgroups : Text.splitAt '-' u.chars = [digits.take 8, (digits.drop 8).take 4,
      (digits.drop 12).take 4, (digits.drop 16).take 4, digits.drop 20] := by
    unfold chars
    rw [← hdigits]
    refine Text.splitAt_joinWith (List.cons_ne_nil _ _) fun group hmem => hhyphen ?_
    simp only [List.mem_cons, List.not_mem_nil, or_false] at hmem
    rcases hmem with rfl | rfl | rfl | rfl | rfl
    · exact List.take_sublist _ _
    · exact (List.take_sublist _ _).trans (List.drop_sublist _ _)
    · exact (List.take_sublist _ _).trans (List.drop_sublist _ _)
    · exact (List.take_sublist _ _).trans (List.drop_sublist _ _)
    · exact List.drop_sublist _ _
  have hjoined : digits.take 8 ++ (digits.drop 8).take 4 ++ (digits.drop 12).take 4 ++
      (digits.drop 16).take 4 ++ digits.drop 20 = digits := by
    have hsplit : ∀ n k, (digits.drop n).take k ++ digits.drop (n + k) = digits.drop n := by
      intro n k
      rw [← List.drop_drop, List.take_append_drop]
    rw [List.append_assoc, hsplit 16 4, List.append_assoc, hsplit 12 4, List.append_assoc,
      hsplit 8 4, List.take_append_drop]
  unfold readGroups?
  simp only [hgroups, hjoined]
  rw [if_pos (by simp [hlen]), hdigits, readDigits?_hexDigits]

theorem length_chars (u : Uuid) : u.chars.length = 36 := by
  unfold chars
  simp [Text.joinWith]

/-- What is written is read back. -/
theorem read?_text (u : Uuid) : read? u.text = some u := by
  unfold read? text
  simp only [String.toList_ofList, length_chars]
  exact readGroups?_chars u

end Uuid

instance : Wire.ReadsBack Uuid := ⟨Uuid.read?_text⟩

instance : Wire.RefusesNull Uuid := ⟨rfl⟩

end QueryDispatch
