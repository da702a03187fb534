import QueryDispatch.Proofs.Cache.Fingerprints
import QueryDispatch.Proofs.Store.Insertions

/-! # Results that are young enough

  The store is asked for one result only, the newest one for a fingerprint, and
  it is the answer if it is young enough. A newer result is younger, so
  whenever some result for a text would do, this one does. Leap seconds are the
  exception: a result from the last one of a day comes before the results of
  the next day, and yet less time may have gone by since.
-/

namespace QueryDispatch

/-! ### Ages -/

/-- What was retrieved later may be used as well. -/
theorem MaxAge.accepts_of_le {age : MaxAge} {earlier later now : Instant}
    (hearlier : earlier.nanosecond < 1000000000) (hlater : later.nanosecond < 1000000000)
    (hnow : now.nanosecond < 1000000000) (h : earlier ≤ later)
    (ha : age.accepts earlier now = true) : age.accepts later now = true := by
  cases age with
  | never => exact ha
  | forever => rfl
  | seconds n =>
    have hle := (Instant.le_iff_nanoseconds_le hearlier hlater).mp h
    unfold accepts at ha ⊢
    rw [Instant.since_eq hearlier hnow] at ha
    rw [Instant.since_eq hlater hnow]
    simp only [decide_eq_true_eq] at ha ⊢
    omega

/-- An age that some result satisfies is not the one that takes none. -/
theorem MaxAge.ne_never_of_accepts {age : MaxAge} {retrieved now : Instant}
    (ha : age.accepts retrieved now = true) : age ≠ .never := by
  rintro rfl
  cases ha

/-! ### Fingerprints of results -/

namespace Records.Hold

variable {records : Records} {inserted : List StoredResult} {r : StoredResult}
  {source : SourceId} {text : String}

/-- The results with the fingerprint of a text are those for the text, unless keys collide. -/
theorem fingerprint_eq_iff (h : records.Hold inserted) (hr : r ∈ inserted)
    (hkey : Sha256.Separates (Fingerprint.key r.source.value r.text)
      (Fingerprint.key source.value text)) :
    r.fingerprint = Fingerprint.of source.value text ↔ r.IsFor source text := by
  rw [h.fingerprint_eq r hr]
  constructor
  · intro hfp
    obtain ⟨hsource, htext⟩ := Fingerprint.eq_of_noCollision hfp hkey
    exact ⟨congrArg SourceId.mk hsource, htext⟩
  · rintro ⟨hsource, htext⟩
    rw [hsource, htext]

end Records.Hold

/-! ### The answer -/

namespace Store

variable {store : Store} {inserted : List StoredResult} {source : SourceId} {text : String}

/-- A store that was filled answers with the newest of all results for the text if this one would
    do, and of several retrieved at that time it is the one that came to the store last. -/
theorem Filled.fresh_ok (h : Filled inserted store)
    (hkeys : ∀ r ∈ inserted, Sha256.Separates (Fingerprint.key r.source.value r.text)
      (Fingerprint.key source.value text)) (age : MaxAge) (now : Instant) :
    ∃ found, store.fresh source text age now = .ok found ∧
      ∀ r, found = some r ↔
        Newest (·.IsFor source text) inserted r ∧ age.accepts r.retrievedAt now = true := by
  obtain ⟨hgood, hold⟩ := h.hold
  have ha : store.available .latest = .ok () := by
    unfold available
    rw [hgood]
    rfl
  have hfor : ∀ r ∈ inserted,
      r.fingerprint = Fingerprint.of source.value text ↔ r.IsFor source text := by
    intro r hr
    exact hold.fingerprint_eq_iff hr (hkeys r hr)
  refine ⟨_, fresh_eq ha source text age now, ?_⟩
  intro r
  rcases hold.latest? (Fingerprint.of source.value text) with ⟨x, hx, hlatest⟩ | ⟨hnone, hlatest⟩
  · have hnewest : Newest (·.IsFor source text) inserted x := hx.congr hfor
    rw [hlatest, Option.filter_eq_some_iff]
    constructor
    · rintro ⟨hsome, haccepts⟩
      obtain rfl := Option.some.inj hsome
      exact ⟨hnewest, haccepts⟩
    · rintro ⟨hr, haccepts⟩
      exact ⟨congrArg some (hnewest.unique hr), haccepts⟩
  · -- there is no result for the text at all
    rw [hlatest]
    refine iff_of_false (by simp) ?_
    rintro ⟨hr, -⟩
    exact hnone r hr.mem ((hfor r hr.mem).mpr hr.holds)

/-- Among results for a text there is a newest one. -/
theorem Filled.exists_newest (h : Filled inserted store)
    (hkeys : ∀ r ∈ inserted, Sha256.Separates (Fingerprint.key r.source.value r.text)
      (Fingerprint.key source.value text)) {x : StoredResult} (hx : x ∈ inserted)
    (hfor : x.IsFor source text) :
    ∃ r, Newest (·.IsFor source text) inserted r := by
  obtain ⟨-, hold⟩ := h.hold
  have hiff := fun r hr => hold.fingerprint_eq_iff (r := r) hr (hkeys r hr)
  rcases hold.latest? (Fingerprint.of source.value text) with ⟨r, hr, -⟩ | ⟨hnone, -⟩
  · exact ⟨r, hr.congr hiff⟩
  · exact absurd ((hiff x hx).mpr hfor) (hnone x hx)

/-- The answer is the newest of all results for exactly this text on this data source, and of
    several retrieved at that time the one that came to the store last, if results of its age are
    taken. Outside of leap seconds there is an answer if and only if some result for the text would
    do and results are taken at all. -/
theorem fresh_of_filled (h : Filled inserted store)
    (hkeys : ∀ r ∈ inserted, Sha256.Separates (Fingerprint.key r.source.value r.text)
      (Fingerprint.key source.value text)) (age : MaxAge) (now : Instant) :
    ∃ found, store.fresh source text age now = .ok found ∧
      (∀ r, found = some r ↔
        Newest (·.IsFor source text) inserted r ∧ age.accepts r.retrievedAt now = true) ∧
      ((∀ r ∈ inserted, r.IsFor source text → r.retrievedAt.nanosecond < 1000000000) →
        now.nanosecond < 1000000000 →
        (found.isSome = true ↔ age ≠ .never ∧
          ∃ r ∈ inserted, r.IsFor source text ∧ age.accepts r.retrievedAt now = true)) := by
  obtain ⟨found, hfresh, hfound⟩ := h.fresh_ok hkeys age now
  refine ⟨found, hfresh, hfound, ?_⟩
  intro hplain hnow
  rw [Option.isSome_iff_exists]
  constructor
  · rintro ⟨r, hr⟩
    obtain ⟨hnewest, haccepts⟩ := (hfound r).mp hr
    exact ⟨MaxAge.ne_never_of_accepts haccepts, r, hnewest.mem, hnewest.holds, haccepts⟩
  · -- the newest result is no older than the one that would do
    rintro ⟨-, x, hx, hxfor, hxaccepts⟩
    obtain ⟨r, hnewest⟩ := h.exists_newest hkeys hx hxfor
    have haccepts := MaxAge.accepts_of_le (hplain x hx hxfor)
      (hplain r hnewest.mem hnewest.holds) hnow (hnewest.retrieved_le hx hxfor) hxaccepts
    exact ⟨r, (hfound r).mpr ⟨hnewest, haccepts⟩⟩

/-! ### Three results -/

/-- A number of seconds after the start of 1970. -/
def secondsAfter (n : Nat) : Instant := (Instant.of? n 0).getD .epoch

/-- Some result without rows. -/
def resultAt (id : Nat) (source : Int64) (retrieved : Instant) : StoredResult :=
  .of ⟨Uuid.ofNat id⟩ ⟨source⟩ "SELECT 1" ⟨[], [], none⟩ retrieved (Double.zero false)

/-- The newer result for the text comes before the older one, and between them one for another data
    source, which is newer still. -/
def threeResults : List StoredResult :=
  [resultAt 1 1 (secondsAfter 20), resultAt 2 2 (secondsAfter 40), resultAt 3 1 (secondsAfter 10)]

theorem threeResults_filled : ∃ store, Filled threeResults store := by
  have h₁ := Filled.empty.add (show (resultAt 1 1 (secondsAfter 20)).IsRecord from rfl) (by simp)
  have h₂ := h₁.add (show (resultAt 2 2 (secondsAfter 40)).IsRecord from rfl) (by decide)
  have h₃ := h₂.add (show (resultAt 3 1 (secondsAfter 10)).IsRecord from rfl) (by decide)
  exact ⟨_, h₃⟩

/-- Half a minute after the start of 1970 the first of the three results is young enough, and it is
    the answer. -/
theorem fresh_of_threeResults :
    ∃ store, Filled threeResults store ∧
      store.fresh ⟨1⟩ "SELECT 1" (.seconds 15) (secondsAfter 30) =
        .ok (some (resultAt 1 1 (secondsAfter 20))) := by
  obtain ⟨store, h⟩ := threeResults_filled
  have hkeys : ∀ r ∈ threeResults, Sha256.Separates (Fingerprint.key r.source.value r.text)
      (Fingerprint.key 1 "SELECT 1") := by
    intro r hr
    simp only [threeResults, List.mem_cons, List.not_mem_nil, or_false] at hr
    rcases hr with rfl | rfl | rfl
    · exact fun _ => rfl
    · -- the digests of the two data sources differ
      have hne : Sha256.digest (Fingerprint.key 2 "SELECT 1") ≠
          Sha256.digest (Fingerprint.key 1 "SELECT 1") := by
        decide +kernel
      exact fun heq => absurd heq hne
    · exact fun _ => rfl
  obtain ⟨found, hfresh, hfound, hsome⟩ :=
    fresh_of_filled h hkeys (.seconds 15) (secondsAfter 30)
  have hplain : ∀ r ∈ threeResults, r.IsFor ⟨1⟩ "SELECT 1" →
      r.retrievedAt.nanosecond < 1000000000 := by
    intro r hr _
    simp only [threeResults, List.mem_cons, List.not_mem_nil, or_false] at hr
    rcases hr with rfl | rfl | rfl <;> decide
  have hfirst : found.isSome = true := by
    refine (hsome hplain (by decide)).mpr
      ⟨by simp, resultAt 1 1 (secondsAfter 20), by simp [threeResults], ⟨rfl, rfl⟩, ?_⟩
    decide
  obtain ⟨r, rfl⟩ := Option.isSome_iff_exists.mp hfirst
  have hnewest : Newest (·.IsFor ⟨1⟩ "SELECT 1") threeResults (resultAt 1 1 (secondsAfter 20)) := by
    refine ⟨[], _, rfl, ⟨rfl, rfl⟩, by simp, ?_⟩
    intro x hx hfor
    simp only [List.mem_cons, List.not_mem_nil, or_false] at hx
    rcases hx with rfl | rfl
    · exact absurd hfor.1 (by decide)
    · decide
  obtain rfl := ((hfound r).mp rfl).1.unique hnewest
  exact ⟨store, h, hfresh⟩

/-! ### A leap second -/

/-- Half a second into the leap second at the end of June 2015. -/
def inLeapSecond : Instant := ⟨1435708799, 1500000000, by decide⟩

/-- The start of July 2015. -/
def afterLeapSecond : Instant := ⟨1435708800, 0, by decide⟩

/-- A little more than a second into July 2015. -/
def secondAfterLeapSecond : Instant := ⟨1435708801, 50000000, by decide⟩

/-- A result from the leap second, and one from the start of the next day. -/
def leapResults : List StoredResult := [resultAt 1 1 inLeapSecond, resultAt 2 1 afterLeapSecond]

theorem leapResults_filled : ∃ store, Filled leapResults store := by
  have h₁ := Filled.empty.add (show (resultAt 1 1 inLeapSecond).IsRecord from rfl) (by simp)
  have h₂ := h₁.add (show (resultAt 2 1 afterLeapSecond).IsRecord from rfl) (by decide)
  exact ⟨_, h₂⟩

/-- The result from the leap second would do, as a little more than half a second has gone by since.
    The other one is newer and too old, and there is no answer. -/
theorem leap_second_hides_younger :
    ∃ store, Filled leapResults store ∧
      (∀ r ∈ leapResults, Sha256.Separates (Fingerprint.key r.source.value r.text)
        (Fingerprint.key 1 "SELECT 1")) ∧
      (∃ r ∈ leapResults, r.IsFor ⟨1⟩ "SELECT 1" ∧
        (MaxAge.seconds 1).accepts r.retrievedAt secondAfterLeapSecond = true) ∧
      store.fresh ⟨1⟩ "SELECT 1" (.seconds 1) secondAfterLeapSecond = .ok none := by
  obtain ⟨store, h⟩ := leapResults_filled
  have hkeys : ∀ r ∈ leapResults, Sha256.Separates (Fingerprint.key r.source.value r.text)
      (Fingerprint.key 1 "SELECT 1") := by
    intro r hr
    simp only [leapResults, List.mem_cons, List.not_mem_nil, or_false] at hr
    rcases hr with rfl | rfl
    all_goals exact fun _ => rfl
  obtain ⟨found, hfresh, hfound⟩ := h.fresh_ok hkeys (.seconds 1) secondAfterLeapSecond
  have hnone : found = none := by
    rw [Option.eq_none_iff_forall_ne_some]
    intro r hr
    obtain ⟨hnewest, haccepts⟩ := (hfound r).mp hr
    -- the newest result is from the next day, more than a second ago
    have hlate : resultAt 2 1 afterLeapSecond ∈ leapResults := by simp [leapResults]
    have hle := hnewest.retrieved_le hlate ⟨rfl, rfl⟩
    have hmem := hnewest.mem
    simp only [leapResults, List.mem_cons, List.not_mem_nil, or_false] at hmem
    rcases hmem with rfl | rfl
    · exact absurd hle (by decide)
    · exact absurd haccepts (by decide)
  rw [hnone] at hfresh
  have hearly : resultAt 1 1 inLeapSecond ∈ leapResults := by simp [leapResults]
  exact ⟨store, h, hkeys, ⟨_, hearly, ⟨rfl, rfl⟩, by decide⟩, hfresh⟩

end Store

end QueryDispatch
