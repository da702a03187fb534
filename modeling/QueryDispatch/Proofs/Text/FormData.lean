import QueryDispatch.Proofs.Text.Pieces
import QueryDispatch.Proofs.Text.Utf8
import QueryDispatch.Text.FormData

/-! # Form data piece by piece

  Form data is read pair by pair, up to each `&`. A name or value stands for
  itself unless it has a `+`, or a `%` with two digits behind it; and one that
  is not empty never stands for the empty text.
-/

namespace QueryDispatch

namespace Text

/-- Only a character below 128 has a byte below 128, which is its number. -/
theorem toNat_of_mem_encodeChar {c : Char} {b : UInt8} (h : b ∈ String.utf8EncodeChar c)
    (hb : b.toNat < 128) : b.toNat = c.toNat := by
  have hval : c.val.toNat = c.toNat := rfl
  have hlarge : ∀ n, 128 ≤ n → n < 256 → ¬ b = UInt8.ofNat n := by
    rintro n hn hlt rfl
    rw [toNat_ofNat_byte hlt] at hb
    omega
  unfold String.utf8EncodeChar at h
  simp only [hval] at h
  split at h
  · obtain rfl := List.mem_singleton.mp h
    exact toNat_ofNat_byte (by omega)
  · exfalso
    split at h
    · rcases List.mem_cons.mp h with h | h
      · exact hlarge _ (by omega) (by omega) h
      · exact hlarge _ (by omega) (by omega) (List.mem_singleton.mp h)
    · split at h
      · simp only [List.mem_cons, List.not_mem_nil, or_false] at h
        rcases h with h | h | h <;> exact hlarge _ (by omega) (by omega) h
      · simp only [List.mem_cons, List.not_mem_nil, or_false] at h
        rcases h with h | h | h | h <;> exact hlarge _ (by omega) (by omega) h

theorem exists_of_mem_utf8 {s : List Char} {b : UInt8} (h : b ∈ utf8 s) (hb : b.toNat < 128) :
    ∃ c ∈ s, b.toNat = c.toNat := by
  rw [utf8_eq] at h
  obtain ⟨c, hc, hmem⟩ := List.mem_flatMap.mp h
  exact ⟨c, hc, toNat_of_mem_encodeChar hmem hb⟩

end Text

namespace FormData

variable {s t : List Char}

/-! ### Names and values -/

theorem decodeBytes_eq_self {bytes : List UInt8} (h : ∀ b ∈ bytes, b ≠ 37 ∧ b ≠ 43) :
    decodeBytes bytes = bytes := by
  induction bytes with
  | nil => rw [decodeBytes]
  | cons b rest ih =>
    obtain ⟨hpercent, hplus⟩ := h b List.mem_cons_self
    have hrest := ih fun b' hb' => h b' (List.mem_cons_of_mem _ hb')
    rw [decodeBytes]
    · rw [if_neg hplus, hrest]
    · rintro x y more hb -
      exact hpercent hb

/-- A text without `+` and `%` stands for itself. -/
theorem decode_eq_self (hplus : '+' ∉ s) (hpercent : '%' ∉ s) : decode s = String.ofList s := by
  have hbytes : decodeBytes (Text.utf8 s) = Text.utf8 s := by
    apply decodeBytes_eq_self
    intro b hb
    -- either byte would be that of the character itself
    have hchar : ∀ mark : Char, mark.toNat < 128 → b.toNat = mark.toNat → mark ∈ s := by
      intro mark hmark heq
      obtain ⟨c, hc, hnat⟩ := Text.exists_of_mem_utf8 hb (by omega)
      have hsame : c = mark := Char.toNat_inj.mp (by omega)
      exact hsame ▸ hc
    constructor
    · rintro rfl
      exact hpercent (hchar '%' (by decide) rfl)
    · rintro rfl
      exact hplus (hchar '+' (by decide) rfl)
  rw [decode, hbytes, Text.readUtf8_utf8]

theorem decodeBytes_ne_nil {bytes : List UInt8} (h : bytes ≠ []) : decodeBytes bytes ≠ [] := by
  unfold decodeBytes
  split
  · split <;> simp
  · simp
  · exact absurd rfl h

theorem utf8_ne_nil (h : s ≠ []) : Text.utf8 s ≠ [] := by
  cases s with
  | nil => exact absurd rfl h
  | cons c s =>
    rw [Text.utf8_cons]
    simp [String.utf8EncodeChar_ne_nil]

theorem decode_ne_empty (h : s ≠ []) : decode s ≠ "" := by
  have hbytes := decodeBytes_ne_nil (utf8_ne_nil h)
  unfold decode
  cases hb : decodeBytes (Text.utf8 s) with
  | nil => exact absurd hb hbytes
  | cons b rest =>
    rw [Text.readUtf8]
    simp

/-! ### Pairs -/

/-- A pair is cut at its first `=`. -/
theorem readPair_append {name : List Char} (h : '=' ∉ name) (value : List Char) :
    readPair (name ++ '=' :: value) = (decode name, decode value) := by
  rw [readPair, Text.cutAt?_append h]

theorem read_piece (hs : s ≠ []) (hmark : '&' ∉ s) : read s = [readPair s] := by
  cases s with
  | nil => exact absurd rfl hs
  | cons c s =>
    rw [read, Text.splitAt_of_not_mem hmark]
    rfl

/-- A piece in front of a `&` is the first pair. -/
theorem read_append (hs : s ≠ []) (hmark : '&' ∉ s) (t : List Char) :
    read (s ++ '&' :: t) = readPair s :: read t := by
  cases s with
  | nil => exact absurd rfl hs
  | cons c s =>
    rw [read, Text.splitAt_append hmark]
    rfl

end FormData

end QueryDispatch
