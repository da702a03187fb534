import QueryDispatch.Fingerprint

/-! # What a fingerprint tells

  A fingerprint is the digest of a key, and the key tells the data source and
  the text apart from all others. So two queries with one fingerprint are the
  same query, unless the digests of their two keys collide.
-/

namespace QueryDispatch

namespace Sha256

variable {m n count : Nat} {bytes other : List UInt8}

/-! ### Numbers as bytes -/

theorem bigEndian_succ (count n : Nat) :
    bigEndian (count + 1) n = UInt8.ofNat (n / Nat.pow 256 count) :: bigEndian count n := by
  unfold bigEndian
  rw [List.range_succ_eq_map, List.map_cons, List.map_map]
  refine congrArg (List.cons _) (List.map_congr_left ?_)
  intro i hi
  have hexp : count + 1 - 1 - (i + 1) = count - 1 - i := by omega
  show UInt8.ofNat (n / Nat.pow 256 (count + 1 - 1 - (i + 1))) = _
  rw [hexp]

@[simp] theorem length_bigEndian (count n : Nat) : (bigEndian count n).length = count := by
  unfold bigEndian
  rw [List.length_map, List.length_range]

/-- The bytes tell a number as far as they reach. -/
theorem mod_eq_of_bigEndian (h : bigEndian count m = bigEndian count n) :
    m % Nat.pow 256 count = n % Nat.pow 256 count := by
  induction count with
  | zero => exact (Nat.mod_one m).trans (Nat.mod_one n).symm
  | succ count ih =>
    rw [bigEndian_succ, bigEndian_succ] at h
    obtain ⟨hfirst, hrest⟩ := List.cons.inj h
    -- the first byte is the part above the others
    have hbyte : m / Nat.pow 256 count % 256 = n / Nat.pow 256 count % 256 := by
      have hnat := congrArg UInt8.toNat hfirst
      simpa using hnat
    have hpow : Nat.pow 256 (count + 1) = Nat.pow 256 count * 256 := rfl
    rw [hpow, Nat.mod_mul, Nat.mod_mul, ih hrest, hbyte]

theorem bigEndian_inj (hm : m < Nat.pow 256 count) (hn : n < Nat.pow 256 count)
    (h : bigEndian count m = bigEndian count n) : m = n := by
  have hmod := mod_eq_of_bigEndian h
  rwa [Nat.mod_eq_of_lt hm, Nat.mod_eq_of_lt hn] at hmod

/-! ### Bytes as digits -/

theorem digitChar_inj : ∀ m < 16, ∀ n < 16, Nat.digitChar m = Nat.digitChar n → m = n := by
  decide

theorem hexText_cons (byte : UInt8) (bytes : List UInt8) :
    hexText (byte :: bytes) =
      Nat.digitChar (byte.toNat / 16) :: Nat.digitChar (byte.toNat % 16) :: hexText bytes := rfl

/-- The digits tell the bytes. -/
theorem hexText_inj (h : hexText bytes = hexText other) : bytes = other := by
  induction bytes generalizing other with
  | nil =>
    cases other with
    | nil => rfl
    | cons byte rest => cases h
  | cons byte rest ih =>
    cases other with
    | nil => cases h
    | cons byte' rest' =>
      rw [hexText_cons, hexText_cons] at h
      obtain ⟨hhigh, htail⟩ := List.cons.inj h
      obtain ⟨hlow, hrest⟩ := List.cons.inj htail
      have hlt : byte.toNat < 256 := byte.toNat_lt
      have hlt' : byte'.toNat < 256 := byte'.toNat_lt
      have hdiv := digitChar_inj _ (by omega) _ (by omega) hhigh
      have hmod := digitChar_inj _ (by omega) _ (by omega) hlow
      have hbyte : byte = byte' := UInt8.toNat_inj.mp (by omega)
      rw [hbyte, ih hrest]

/-! ### Collisions -/

/-- The digests of two messages do not collide. -/
def Separates (message other : List UInt8) : Prop :=
  digest message = digest other → message = other

end Sha256

namespace Fingerprint

variable {source source' : Int64} {text text' : String}

/-- The key tells the data source and the text. -/
theorem key_inj (h : key source text = key source' text') : source = source' ∧ text = text' := by
  unfold key at h
  obtain ⟨hid, hrest⟩ := List.append_inj h (by simp)
  constructor
  · have hnat := Sha256.bigEndian_inj source.toUInt64.toNat_lt source'.toUInt64.toNat_lt hid
    have hsource : source.toUInt64 = source'.toUInt64 := UInt64.toNat_inj.mp hnat
    cases source
    cases source'
    exact congrArg Int64.ofUInt64 hsource
  · have hbytes := (List.cons.inj hrest).2
    exact String.toByteArray_inj.mp (ByteArray.ext (Array.toList_inj.mp hbytes))

/-- Two queries with one fingerprint have one digest. -/
theorem digest_eq_of_eq (h : of source text = of source' text') :
    Sha256.digest (key source text) = Sha256.digest (key source' text') := by
  injection h with htext
  exact Sha256.hexText_inj (String.ofList_injective htext)

/-- They are the same query, unless their keys collide. -/
theorem eq_of_noCollision (h : of source text = of source' text')
    (hsha : Sha256.digest (key source text) = Sha256.digest (key source' text') →
      key source text = key source' text') : source = source' ∧ text = text' :=
  key_inj (hsha (digest_eq_of_eq h))

end Fingerprint

end QueryDispatch
