import QueryDispatch.Proofs.TimeSeries.Durations
import QueryDispatch.Proofs.TimeSeries.WrittenBounds

/-! # Bounds that are told from now

  A bound is taken from now if it is `now`, or a duration behind `now-` or `-`.
  What begins like one and is neither that nor a negative number is an error.
  Any other text is a bound as it stands. The second that an earlier instant
  lies in is found by rounding down, before 1970 too.
-/

namespace QueryDispatch

/-! ### Earlier instants -/

namespace Instant

variable {t : Instant} {seconds : Int} {nanosecond milliseconds : Nat}

/-- The second that lies some milliseconds before an instant. The count of seconds stands still
    during a leap second. -/
def secondBefore (t : Instant) (milliseconds : Nat) : Int :=
  min ((t.nanoseconds - milliseconds * 1000000) / 1000000000) t.seconds

/-- Outside of leap seconds this is rounding down. -/
theorem secondBefore_eq (h : t.nanosecond < 1000000000) (milliseconds : Nat) :
    t.secondBefore milliseconds = (t.nanoseconds - milliseconds * 1000000) / 1000000000 := by
  unfold secondBefore nanoseconds
  omega

theorem seconds_of? (h : IsInstant seconds nanosecond) :
    (of? seconds nanosecond).map Instant.seconds = some seconds := by
  rw [of?, dif_pos h, Option.map_some]

theorem of?_eq_none (h : seconds < earliest) : of? seconds nanosecond = none :=
  dif_neg fun hinstant => absurd hinstant.1.1 (Int.not_le.mpr h)

/-- An earlier instant is found unless it is before the calendar begins. -/
theorem seconds_before? (t : Instant) (milliseconds : Nat) :
    (t.before? milliseconds).map Instant.seconds =
      if t.nanoseconds - milliseconds * 1000000 < earliest * 1000000000 then none
      else some (t.secondBefore milliseconds) := by
  obtain ⟨⟨hearliest, hlatest⟩, hnano⟩ := t.is_instant
  have hcount : t.nanoseconds = t.seconds * 1000000000 + t.nanosecond := rfl
  unfold before?
  by_cases hleap : 1000000000 ≤ t.nanosecond ∧ milliseconds * 1000000 < 1000000000
  · -- still in the leap second, or in the second before it
    have hinstant : IsInstant t.seconds (t.nanosecond - milliseconds * 1000000) :=
      ⟨⟨hearliest, hlatest⟩, by omega⟩
    have hsecond : t.secondBefore milliseconds = t.seconds := by
      unfold secondBefore
      omega
    rw [if_pos hleap, seconds_of? hinstant, if_neg (by omega), hsecond]
  · have hsecond : t.secondBefore milliseconds =
        (t.nanoseconds - milliseconds * 1000000) / 1000000000 := by
      unfold secondBefore
      omega
    -- before `latest` in any case, since it is not behind `t`
    rw [if_neg hleap, hsecond, ofNanoseconds?, Int.natCast_mul]
    by_cases hbefore : t.nanoseconds - milliseconds * 1000000 < earliest * 1000000000
    · rw [if_pos hbefore, of?_eq_none (by omega), Option.map_none]
    · have hinstant : IsInstant ((t.nanoseconds - milliseconds * 1000000) / 1000000000)
          ((t.nanoseconds - milliseconds * 1000000) % 1000000000).toNat :=
        ⟨⟨by omega, by omega⟩, Or.inl (by omega)⟩
      rw [if_neg hbefore]
      exact seconds_of? hinstant

end Instant

namespace TimeBound

variable {value : String} {rest : List Char} {now : Instant} {d : Nat}

/-! ### Forms of a bound -/

/-- `now`, or a written duration before it. -/
inductive IsOffset : List Char → Nat → Prop
  | now : IsOffset "now".toList 0
  | named {rest : List Char} {d : Nat} (h : Duration.IsWritten rest d) :
    IsOffset ("now-".toList ++ rest) d
  | minus {rest : List Char} {d : Nat} (h : Duration.IsWritten rest d) : IsOffset ('-' :: rest) d

/-- A numeral behind a minus. -/
def IsNegated (s : List Char) : Prop :=
  ∃ rest, s = '-' :: rest ∧
    ((∃ negative n scale, Numeral.IsDecimal rest negative n scale) ∨ Numeral.IsWord rest)

/-- The text begins with `now-` or `-`, and `rest` is what follows. -/
def IsBehindMark (s rest : List Char) : Prop := s = "now-".toList ++ rest ∨ s = '-' :: rest

theorem isOffset_minus_iff : IsOffset ('-' :: rest) d ↔ Duration.IsWritten rest d := by
  constructor
  · intro h
    cases h with
    | minus hwritten => exact hwritten
  · exact .minus

theorem isOffset_named_iff : IsOffset ("now-".toList ++ rest) d ↔ Duration.IsWritten rest d := by
  constructor
  · intro h
    generalize hs : "now-".toList ++ rest = s at h
    cases h with
    | now => exact absurd (congrArg List.length hs) (by simp)
    | named hwritten => rwa [List.append_cancel_left hs]
    | minus hwritten => cases hs
  · exact .named

theorem isNegated_minus_iff : IsNegated ('-' :: rest) ↔ (Numeral.read? rest).isSome = true := by
  rw [Numeral.isSome_read?_iff]
  constructor
  · rintro ⟨other, hother, hnumeral⟩
    obtain rfl := (List.cons.inj hother).2
    exact hnumeral
  · intro hnumeral
    exact ⟨rest, rfl, hnumeral⟩

theorem not_isNegated_named : ¬ IsNegated ("now-".toList ++ rest) := by
  rintro ⟨other, hother, -⟩
  cases hother

/-! ### One form after the other -/

theorem earlier_eq (value : String) (now : Instant) (d : Nat) :
    earlier value now d =
      if now.nanoseconds - d * 1000000 < Instant.earliest * 1000000000 then
        .error (.timeRange value)
      else .ok (String.ofList (intText (now.secondBefore d))) := by
  have hseconds := now.seconds_before? d
  unfold earlier
  split at hseconds
  · next hbefore =>
    rw [Option.map_eq_none_iff.mp hseconds, if_pos hbefore]
  · next hbefore =>
    obtain ⟨t, ht, hsecond⟩ := Option.map_eq_some_iff.mp hseconds
    rw [ht, if_neg hbefore, ← hsecond]
    rfl

theorem ne_now (h : IsBehindMark value.toList rest) : value ≠ "now" := by
  rintro rfl
  rcases h with h | h
  · exact absurd (congrArg List.length h) (by simp)
  · cases h

theorem resolve_named (h : value.toList = "now-".toList ++ rest) :
    resolve value now = (Duration.read (String.ofList rest)).bind (earlier value now) := by
  rw [resolve, if_neg (ne_now (Or.inl h)), h, Text.after?_append]
  rfl

theorem resolve_minus (h : value.toList = '-' :: rest) :
    resolve value now =
      match Duration.read (String.ofList rest) with
      | .ok d => earlier value now d
      | .error fault => if (Numeral.read? rest).isSome then .ok value else .error fault := by
  have hother : Text.after? "now-".toList ('-' :: rest) = none := rfl
  rw [resolve, if_neg (ne_now (Or.inr h)), h, hother]
  rfl

theorem resolve_absolute (hnow : value ≠ "now") (h : ¬ ∃ rest, IsBehindMark value.toList rest) :
    resolve value now = .ok value := by
  rw [resolve, if_neg hnow]
  split
  · next rest hrest => exact absurd ⟨rest, Or.inl (Text.eq_of_after? hrest)⟩ h
  · split
    · next rest hrest => exact absurd ⟨rest, Or.inr hrest⟩ h
    · rfl

/-! ### Offsets and errors -/

theorem read_ofList (h : Duration.IsWritten rest d) :
    Duration.read (String.ofList rest) = .ok d := by
  rw [Duration.read_eq_ok_iff, String.toList_ofList]
  exact h

theorem read_ofList_of_not_written (h : ¬ ∃ d, Duration.IsWritten rest d) :
    Duration.read (String.ofList rest) = .error (.duration (String.ofList rest)) := by
  apply Duration.read_of_not_written
  rwa [String.toList_ofList]

theorem resolve_of_isOffset (h : IsOffset value.toList d) :
    resolve value now = earlier value now d := by
  generalize hs : value.toList = s at h
  cases h with
  | now => rw [String.toList_injective hs, resolve, if_pos rfl]
  | named hwritten =>
    rw [resolve_named hs, read_ofList hwritten]
    rfl
  | minus hwritten => rw [resolve_minus hs, read_ofList hwritten]

/-- What only begins like an offset is an error, unless it is a negative number. -/
theorem resolve_behind_mark (h : IsBehindMark value.toList rest)
    (hoffset : ¬ ∃ d, IsOffset value.toList d) :
    (¬ IsNegated value.toList →
      resolve value now = .error (.duration (String.ofList rest))) ∧
    (IsNegated value.toList → resolve value now = .ok value) := by
  rcases h with h | h
  · rw [h] at hoffset ⊢
    simp only [isOffset_named_iff] at hoffset
    refine ⟨?_, fun hnegated => absurd hnegated not_isNegated_named⟩
    intro _
    rw [resolve_named h, read_ofList_of_not_written hoffset]
    rfl
  · rw [h] at hoffset ⊢
    simp only [isOffset_minus_iff] at hoffset
    rw [resolve_minus h, read_ofList_of_not_written hoffset, isNegated_minus_iff]
    constructor
    · intro hnone
      exact if_neg hnone
    · intro hsome
      exact if_pos hsome

/-- A bound that is told from now comes to the second that it names, or to an error if this is
    before the calendar begins. A text that only begins like one is an error that shows the rest,
    unless the rest is a numeral; any other text stays as it is. -/
theorem relative_bounds_resolved (value : String) (now : Instant) :
    (∀ d, IsOffset value.toList d → resolve value now =
      if now.nanoseconds - d * 1000000 < Instant.earliest * 1000000000 then
        .error (.timeRange value)
      else .ok (String.ofList (intText (now.secondBefore d)))) ∧
    (∀ rest, IsBehindMark value.toList rest → (¬ ∃ d, IsOffset value.toList d) →
      ¬ IsNegated value.toList → resolve value now = .error (.duration (String.ofList rest))) ∧
    ((¬ ∃ d, IsOffset value.toList d) →
      ((∃ rest, IsBehindMark value.toList rest) → IsNegated value.toList) →
      resolve value now = .ok value) ∧
    (now.nanosecond < 1000000000 → ∀ d : Nat,
      now.secondBefore d = (now.nanoseconds - d * 1000000) / 1000000000) := by
  refine ⟨?_, ?_, ?_, now.secondBefore_eq⟩
  · intro d hd
    rw [resolve_of_isOffset hd, earlier_eq]
  · intro rest hrest hoffset hnegated
    exact (resolve_behind_mark hrest hoffset).1 hnegated
  · intro hoffset hnumeral
    by_cases hmark : ∃ rest, IsBehindMark value.toList rest
    · obtain ⟨rest, hrest⟩ := hmark
      exact (resolve_behind_mark hrest hoffset).2 (hnumeral ⟨rest, hrest⟩)
    · have hnow : value ≠ "now" := by
        rintro rfl
        exact hoffset ⟨0, .now⟩
      exact resolve_absolute hnow hmark

/-- A quarter of a second before 1970 lies in the second before it, a numeral of that size stays a
    numeral, and what is neither is shown without its `-`. -/
theorem relative_bounds_resolved_at_epoch :
    resolve "now-250ms" .epoch = .ok "-1" ∧
    resolve "-300000y" .epoch = .error (.timeRange "-300000y") ∧
    resolve "-0.25e0" .epoch = .ok "-0.25e0" ∧
    resolve "-1d12" .epoch = .error (.duration "1d12") := by
  have hoffset : IsOffset "now-250ms".toList 250 := by
    have hs : "now-250ms".toList = "now-".toList ++ "250ms".toList := by decide
    have hread : Duration.read "250ms" = .ok 250 := eq_ok_of_toOption (by decide +kernel)
    rw [hs, isOffset_named_iff, ← Duration.read_eq_ok_iff, hread]
  have hyears : IsOffset "-300000y".toList 9460800000000000 := by
    have hs : "-300000y".toList = '-' :: "300000y".toList := by decide
    have hread : Duration.read "300000y" = .ok 9460800000000000 :=
      eq_ok_of_toOption (by decide +kernel)
    rw [hs, isOffset_minus_iff, ← Duration.read_eq_ok_iff, hread]
  have hnumeral : "-0.25e0".toList = '-' :: "0.25e0".toList := by decide
  have hneither : "-1d12".toList = '-' :: "1d12".toList := by decide
  have hnot : ∀ text : String, (Duration.read text).toOption = none →
      ¬ ∃ d, IsOffset ('-' :: text.toList) d := by
    rintro text hnone ⟨d, hd⟩
    rw [Duration.read_eq_ok_iff.mpr (isOffset_minus_iff.mp hd)] at hnone
    cases hnone
  refine ⟨?_, ?_, ?_, ?_⟩
  · have hsecond : String.ofList (intText (Instant.epoch.secondBefore 250)) = "-1" := by
      decide +kernel
    rw [(relative_bounds_resolved "now-250ms" .epoch).1 250 hoffset, if_neg (by decide), hsecond]
  · exact ((relative_bounds_resolved "-300000y" .epoch).1 _ hyears).trans (if_pos (by decide))
  · refine (relative_bounds_resolved "-0.25e0" .epoch).2.2.1 ?_ ?_
    · rw [hnumeral]
      exact hnot _ (by decide +kernel)
    · intro _
      rw [hnumeral, isNegated_minus_iff]
      decide +kernel
  · refine (relative_bounds_resolved "-1d12" .epoch).2.1 _ (Or.inr hneither) ?_ ?_
    · rw [hneither]
      exact hnot _ (by decide +kernel)
    · rw [hneither, isNegated_minus_iff]
      decide +kernel

end TimeBound

end QueryDispatch
