import QueryDispatch.Text.Utf8

/-! # Bytes of a text

  The bytes of a text are those of its characters, one after the other. Each
  character starts with a byte that says how many follow, so reading the bytes
  gives the text back, whatever stands behind them.
-/

namespace QueryDispatch.Text

/-! ### Bytes of characters -/

theorem utf8_eq (s : List Char) : utf8 s = s.flatMap String.utf8EncodeChar :=
  List.toList_data_toByteArray

@[simp] theorem utf8_nil : utf8 [] = [] := rfl

theorem utf8_cons (c : Char) (s : List Char) :
    utf8 (c :: s) = String.utf8EncodeChar c ++ utf8 s := by
  rw [utf8_eq, utf8_eq, List.flatMap_cons]

/-! ### Reading one character -/

@[simp] theorem utf8Follow_zero (value low high read : Nat) (rest : List UInt8) :
    utf8Follow 0 value low high read rest = .ok (value, read) := by
  cases rest <;> rfl

/-- A byte within bounds is read. -/
theorem utf8Follow_succ {b : UInt8} {low high : Nat} (hlow : low ≤ b.toNat) (hhigh : b.toNat ≤ high)
    (more value read : Nat) (rest : List UInt8) :
    utf8Follow (more + 1) value low high read (b :: rest) =
      utf8Follow more (value * 64 + (b.toNat - 0x80)) 0x80 0xBF (read + 1) rest := by
  rw [utf8Follow]
  simp only [hlow, hhigh, and_self, if_true]

/-- The bytes are a first one and as many as that one asks for, and stand for the code point `v`. -/
def ReadsAs (bytes : List UInt8) (v : Nat) : Prop :=
  ∃ b more lead, bytes = b :: more ∧ utf8Lead? b = some lead ∧
    ∀ tail, utf8Follow lead.more lead.value lead.low lead.high 0 (more ++ tail) =
      .ok (v, more.length)

section encoding

variable {v : Nat}

theorem toNat_ofNat_byte {n : Nat} (h : n < 256) : (UInt8.ofNat n).toNat = n :=
  Nat.mod_eq_of_lt h

theorem readsAs_one (h : v ≤ 0x7F) : ReadsAs [UInt8.ofNat v] v := by
  have hb : (UInt8.ofNat v).toNat = v := toNat_ofNat_byte (by omega)
  refine ⟨UInt8.ofNat v, [], ⟨0, v, 0, 0⟩, rfl, ?_, fun tail => utf8Follow_zero ..⟩
  unfold utf8Lead?
  simp only [hb]
  rw [if_pos (by omega)]

theorem readsAs_two (hlow : 0x7F < v) (hhigh : v ≤ 0x7FF) :
    ReadsAs [UInt8.ofNat (v / 64 % 32 + 0xC0), UInt8.ofNat (v % 64 + 0x80)] v := by
  have hb : (UInt8.ofNat (v / 64 % 32 + 0xC0)).toNat = v / 64 + 0xC0 := by
    rw [toNat_ofNat_byte (by omega)]
    omega
  have hb' : (UInt8.ofNat (v % 64 + 0x80)).toNat = v % 64 + 0x80 := toNat_ofNat_byte (by omega)
  refine ⟨_, _, ⟨1, v / 64, 0x80, 0xBF⟩, rfl, ?_, ?_⟩
  · unfold utf8Lead?
    simp only [hb]
    rw [if_neg (by omega), if_pos (by omega), Nat.add_sub_cancel]
  · intro tail
    show utf8Follow 1 (v / 64) 0x80 0xBF 0 (_ :: tail) = _
    rw [utf8Follow_succ (by omega) (by omega), utf8Follow_zero, hb']
    simp only [List.length_cons, List.length_nil, Except.ok.injEq, Prod.mk.injEq, and_true]
    omega

/-- The lead of three bytes keeps out the surrogates and what two bytes would do for. -/
theorem utf8Lead?_three {b : UInt8} (hlow : 0x7FF < v) (hhigh : v ≤ 0xFFFF)
    (hsurrogate : v < 0xD800 ∨ 0xDFFF < v) (hb : b.toNat = v / 4096 + 0xE0) :
    ∃ low high, utf8Lead? b = some ⟨2, v / 4096, low, high⟩ ∧ low ≤ v / 64 % 64 + 0x80 ∧
      v / 64 % 64 + 0x80 ≤ high := by
  unfold utf8Lead?
  simp only [hb]
  rw [if_neg (by omega), if_neg (by omega), Nat.add_sub_cancel]
  by_cases hfirst : v / 4096 = 0
  · rw [if_pos (by omega), hfirst]
    exact ⟨_, _, rfl, by omega, by omega⟩
  · by_cases hlast : v / 4096 = 0xD
    · rw [if_neg (by omega), if_pos (by omega)]
      exact ⟨_, _, rfl, by omega, by omega⟩
    · rw [if_neg (by omega), if_neg (by omega), if_pos (by omega)]
      exact ⟨_, _, rfl, by omega, by omega⟩

theorem readsAs_three (hlow : 0x7FF < v) (hhigh : v ≤ 0xFFFF)
    (hsurrogate : v < 0xD800 ∨ 0xDFFF < v) :
    ReadsAs [UInt8.ofNat (v / 4096 % 16 + 0xE0), UInt8.ofNat (v / 64 % 64 + 0x80),
      UInt8.ofNat (v % 64 + 0x80)] v := by
  have hb : (UInt8.ofNat (v / 4096 % 16 + 0xE0)).toNat = v / 4096 + 0xE0 := by
    rw [toNat_ofNat_byte (by omega)]
    omega
  have hb' : (UInt8.ofNat (v / 64 % 64 + 0x80)).toNat = v / 64 % 64 + 0x80 :=
    toNat_ofNat_byte (by omega)
  have hb'' : (UInt8.ofNat (v % 64 + 0x80)).toNat = v % 64 + 0x80 := toNat_ofNat_byte (by omega)
  obtain ⟨low, high, hlead, hge, hle⟩ := utf8Lead?_three hlow hhigh hsurrogate hb
  refine ⟨_, _, _, rfl, hlead, ?_⟩
  intro tail
  show utf8Follow 2 (v / 4096) low high 0 (_ :: _ :: tail) = _
  rw [utf8Follow_succ (by omega) (by omega), utf8Follow_succ (by omega) (by omega),
    utf8Follow_zero, hb', hb'']
  simp only [List.length_cons, List.length_nil, Except.ok.injEq, Prod.mk.injEq, and_true]
  omega

/-- The lead of four bytes keeps out what three bytes would do for and what is no code point. -/
theorem utf8Lead?_four {b : UInt8} (hlow : 0xFFFF < v) (hhigh : v < 0x110000)
    (hb : b.toNat = v / 262144 + 0xF0) :
    ∃ low high, utf8Lead? b = some ⟨3, v / 262144, low, high⟩ ∧ low ≤ v / 4096 % 64 + 0x80 ∧
      v / 4096 % 64 + 0x80 ≤ high := by
  unfold utf8Lead?
  simp only [hb]
  rw [if_neg (by omega), if_neg (by omega), if_neg (by omega), if_neg (by omega),
    if_neg (by omega), Nat.add_sub_cancel]
  by_cases hfirst : v / 262144 = 0
  · rw [if_pos (by omega), hfirst]
    exact ⟨_, _, rfl, by omega, by omega⟩
  · by_cases hlast : v / 262144 = 4
    · rw [if_neg (by omega), if_neg (by omega), if_pos (by omega), hlast]
      exact ⟨_, _, rfl, by omega, by omega⟩
    · rw [if_neg (by omega), if_pos (by omega)]
      exact ⟨_, _, rfl, by omega, by omega⟩

theorem readsAs_four (hlow : 0xFFFF < v) (hhigh : v < 0x110000) :
    ReadsAs [UInt8.ofNat (v / 262144 % 8 + 0xF0), UInt8.ofNat (v / 4096 % 64 + 0x80),
      UInt8.ofNat (v / 64 % 64 + 0x80), UInt8.ofNat (v % 64 + 0x80)] v := by
  have hb : (UInt8.ofNat (v / 262144 % 8 + 0xF0)).toNat = v / 262144 + 0xF0 := by
    rw [toNat_ofNat_byte (by omega)]
    omega
  have hcont : ∀ n, (UInt8.ofNat (n % 64 + 0x80)).toNat = n % 64 + 0x80 := by
    intro n
    exact toNat_ofNat_byte (by omega)
  obtain ⟨low, high, hlead, hge, hle⟩ := utf8Lead?_four hlow hhigh hb
  refine ⟨_, _, _, rfl, hlead, ?_⟩
  intro tail
  show utf8Follow 3 (v / 262144) low high 0 (_ :: _ :: _ :: tail) = _
  have h1 := hcont (v / 4096)
  have h2 := hcont (v / 64)
  have h3 := hcont v
  rw [utf8Follow_succ (by omega) (by omega), utf8Follow_succ (by omega) (by omega),
    utf8Follow_succ (by omega) (by omega), utf8Follow_zero, h1, h2, h3]
  simp only [List.length_cons, List.length_nil, Except.ok.injEq, Prod.mk.injEq, and_true]
  omega

end encoding

/-- The bytes of a character are read as it. -/
theorem readsAs_encodeChar (c : Char) : ReadsAs (String.utf8EncodeChar c) c.toNat := by
  have hvalid : c.toNat < 0xD800 ∨ (0xDFFF < c.toNat ∧ c.toNat < 0x110000) := c.valid
  have hval : c.val.toNat = c.toNat := rfl
  unfold String.utf8EncodeChar
  simp only [hval]
  by_cases h1 : c.toNat ≤ 127
  · rw [if_pos h1]
    exact readsAs_one h1
  · rw [if_neg h1]
    by_cases h2 : c.toNat ≤ 2047
    · rw [if_pos h2]
      exact readsAs_two (by omega) h2
    · rw [if_neg h2]
      by_cases h3 : c.toNat ≤ 65535
      · rw [if_pos h3]
        exact readsAs_three (by omega) h3 (by omega)
      · rw [if_neg h3]
        exact readsAs_four (by omega) (by omega)

/-! ### Reading a text -/

/-- The characters of a text come first when its bytes are read with others behind them. -/
theorem readUtf8_utf8_append (s : List Char) (tail : List UInt8) :
    readUtf8 (utf8 s ++ tail) = s ++ readUtf8 tail := by
  induction s with
  | nil => rfl
  | cons c s ih =>
    obtain ⟨b, more, lead, hbytes, hlead, hfollow⟩ := readsAs_encodeChar c
    have hfirst : utf8First b (more ++ (utf8 s ++ tail)) = (c, more.length) := by
      unfold utf8First
      simp only [hlead, hfollow, Char.ofNat_toNat]
    rw [utf8_cons, hbytes, List.append_assoc, List.cons_append, readUtf8, hfirst]
    simp only [List.drop_left, ih, List.cons_append]

/-- Reading gives a text back. -/
@[simp] theorem readUtf8_utf8 (s : List Char) : readUtf8 (utf8 s) = s := by
  have h := readUtf8_utf8_append s []
  rwa [List.append_nil, readUtf8, List.append_nil] at h

/-- The bytes of a text are all in order. -/
@[simp] theorem isUtf8_utf8 (s : List Char) : isUtf8 (utf8 s) = true := by
  induction s with
  | nil => rw [utf8_nil, isUtf8]
  | cons c s ih =>
    obtain ⟨b, more, lead, hbytes, hlead, hfollow⟩ := readsAs_encodeChar c
    rw [utf8_cons, hbytes, List.cons_append, isUtf8]
    simp only [hlead, hfollow, List.drop_left, ih]

end QueryDispatch.Text
