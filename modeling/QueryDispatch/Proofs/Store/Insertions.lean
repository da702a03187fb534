import QueryDispatch.Proofs.Cache.Lookups
import QueryDispatch.Proofs.Calendar.InstantOrder

/-! # Stores filled by insertions

  A store keeps, for each fingerprint, one stamp: the time and the identifier
  of the result retrieved last. Results come in any order of times. After any
  insertions the stamp is that of the newest result with the fingerprint, and
  of several retrieved at that time of the one that came to the store last.
-/

namespace QueryDispatch

/-! ### The newest of some results -/

/-- Among the results with a property `r` was retrieved last, and of several retrieved at that time
    it stands last in the list. -/
def Newest (p : StoredResult → Prop) (results : List StoredResult) (r : StoredResult) : Prop :=
  ∃ before after, results = before ++ r :: after ∧ p r ∧
    (∀ x ∈ before, p x → x.retrievedAt ≤ r.retrievedAt) ∧
    ∀ x ∈ after, p x → x.retrievedAt < r.retrievedAt

namespace Newest

variable {p q : StoredResult → Prop} {results : List StoredResult} {r r' new : StoredResult}

theorem mem (h : Newest p results r) : r ∈ results := by
  obtain ⟨before, after, rfl, -⟩ := h
  simp

theorem holds (h : Newest p results r) : p r := by
  obtain ⟨before, after, -, hp, -⟩ := h
  exact hp

/-- No result with the property was retrieved later. -/
theorem retrieved_le (h : Newest p results r) {x : StoredResult} (hx : x ∈ results) (hp : p x) :
    x.retrievedAt ≤ r.retrievedAt := by
  obtain ⟨before, after, rfl, -, hbefore, hafter⟩ := h
  rcases List.mem_append.mp hx with hx | hx
  · exact hbefore x hx hp
  · rcases List.mem_cons.mp hx with rfl | hx
    · exact Instant.le_refl _
    · exact Instant.le_of_lt (hafter x hx hp)

/-- There is one newest result. -/
theorem unique (h : Newest p results r) (h' : Newest p results r') : r = r' := by
  obtain ⟨before, after, rfl, hp, hbefore, hafter⟩ := h
  obtain ⟨before', after', heq, hp', hbefore', hafter'⟩ := h'
  -- if one of them stands before the other, it is older, and it is not
  rcases List.append_eq_append_iff.mp heq with ⟨gap, hgap, hrest⟩ | ⟨gap, hgap, hrest⟩
  · cases gap with
    | nil => exact (List.cons.inj hrest).1
    | cons x gap =>
      obtain ⟨rfl, rfl⟩ := List.cons.inj hrest
      have hle := hbefore' r (by rw [hgap]; simp) hp
      have hlt := hafter r' (by simp) hp'
      exact absurd hle (Instant.not_le.mpr hlt)
  · cases gap with
    | nil => exact (List.cons.inj hrest).1.symm
    | cons x gap =>
      obtain ⟨rfl, rfl⟩ := List.cons.inj hrest
      have hle := hbefore r' (by rw [hgap]; simp) hp'
      have hlt := hafter' r (by simp) hp
      exact absurd hle (Instant.not_le.mpr hlt)

theorem congr (h : Newest p results r) (hpq : ∀ x ∈ results, p x ↔ q x) : Newest q results r := by
  have hr : q r := (hpq r h.mem).mp h.holds
  obtain ⟨before, after, rfl, -, hbefore, hafter⟩ := h
  refine ⟨before, after, rfl, hr, ?_, ?_⟩
  · intro x hx hq
    exact hbefore x hx ((hpq x (by simp [hx])).mpr hq)
  · intro x hx hq
    exact hafter x hx ((hpq x (by simp [hx])).mpr hq)

/-- A result that comes last is the newest one if none is newer. -/
theorem of_last (hp : p new)
    (hle : ∀ x ∈ results, p x → x.retrievedAt ≤ new.retrievedAt) :
    Newest p (results ++ [new]) new :=
  ⟨results, [], rfl, hp, hle, by simp⟩

/-- It leaves a newer one as it is, and results with another property too. -/
theorem append (h : Newest p results r)
    (hlt : p new → new.retrievedAt < r.retrievedAt) :
    Newest p (results ++ [new]) r := by
  obtain ⟨before, after, rfl, hp, hbefore, hafter⟩ := h
  refine ⟨before, after ++ [new], by simp, hp, hbefore, ?_⟩
  intro x hx hpx
  rcases List.mem_append.mp hx with hx | hx
  · exact hafter x hx hpx
  · obtain rfl := List.mem_singleton.mp hx
    exact hlt hpx

end Newest

/-! ### Insertions -/

/-- The result is the record of some run, with the fingerprint of its source and text. -/
def StoredResult.IsRecord (r : StoredResult) : Prop :=
  r = .of r.id r.source r.text r.data r.retrievedAt r.runtime

/-- The store was empty and was filled with these results, in this order. Each is the record of some
    run under an identifier of its own. What the saved queries are does not matter. -/
inductive Store.Filled : List StoredResult → Store → Prop where
  | empty : Filled [] Store.empty
  | insert {inserted : List StoredResult} {store kept : Store} {new : StoredResult}
      (h : Filled inserted store) (hnew : new.IsRecord) (hid : ∀ r ∈ inserted, r.id ≠ new.id)
      (hi : store.insert new = .ok kept) : Filled (inserted ++ [new]) kept
  | withQueries {inserted : List StoredResult} {store : Store} (h : Filled inserted store)
      (queries : Assoc QueryId SavedQuery) :
      Filled inserted { store with records := { store.records with queries } }

/-- What the tables of a store say of the results that it was filled with. -/
structure Records.Hold (records : Records) (inserted : List StoredResult) : Prop where
  fingerprint_eq : ∀ r ∈ inserted, r.fingerprint = Fingerprint.of r.source.value r.text
  result?_eq : ∀ r ∈ inserted, records.result? r.id = some r
  newest : ∀ fingerprint,
    (∃ r, Newest (·.fingerprint = fingerprint) inserted r ∧
      records.newest.find? fingerprint = some (r.retrievedAt, r.id)) ∨
    (∀ r ∈ inserted, r.fingerprint ≠ fingerprint) ∧ records.newest.find? fingerprint = none

namespace Records

variable {records : Records} {inserted : List StoredResult} {new : StoredResult}

theorem Hold.empty : Records.empty.Hold [] where
  fingerprint_eq := by simp
  result?_eq := by simp
  newest fingerprint := Or.inr ⟨by simp, rfl⟩

/-- The stamp of a fingerprint after an insertion. -/
theorem newest_insert (records : Records) (new : StoredResult) (fingerprint : Fingerprint) :
    (records.insert new).newest.find? fingerprint =
      if fingerprint = new.fingerprint then
        some (newerStamp (new.retrievedAt, new.id) (records.newest.find? new.fingerprint))
      else records.newest.find? fingerprint :=
  Assoc.find?_put records.newest new.fingerprint fingerprint _

theorem newerStamp_of_le {stamp current : Instant × ResultId}
    (h : current.1 ≤ stamp.1) : newerStamp stamp (some current) = stamp :=
  if_pos h

theorem newerStamp_of_lt {stamp current : Instant × ResultId}
    (h : stamp.1 < current.1) : newerStamp stamp (some current) = current :=
  if_neg (Instant.not_le.mpr h)

theorem Hold.insert (h : records.Hold inserted)
    (hfp : new.fingerprint = Fingerprint.of new.source.value new.text)
    (hid : ∀ r ∈ inserted, r.id ≠ new.id) : (records.insert new).Hold (inserted ++ [new]) where
  fingerprint_eq := by
    intro r hr
    rcases List.mem_append.mp hr with hr | hr
    · exact h.fingerprint_eq r hr
    · obtain rfl := List.mem_singleton.mp hr
      exact hfp
  result?_eq := by
    intro r hr
    show (records.results.put new.id new).find? r.id = some r
    rcases List.mem_append.mp hr with hr | hr
    · rw [Assoc.find?_put_of_ne _ _ (hid r hr)]
      exact h.result?_eq r hr
    · obtain rfl := List.mem_singleton.mp hr
      exact Assoc.find?_put_self ..
  newest := by
    intro fingerprint
    rw [newest_insert]
    by_cases hsame : fingerprint = new.fingerprint
    · subst hsame
      rw [if_pos rfl]
      left
      rcases h.newest new.fingerprint with ⟨r, hr, hstamp⟩ | ⟨hnone, hstamp⟩
      · -- the stamp changes hands unless the new result is older
        rw [hstamp]
        by_cases hle : r.retrievedAt ≤ new.retrievedAt
        · refine ⟨new, Newest.of_last rfl ?_, congrArg some (newerStamp_of_le hle)⟩
          intro x hx hp
          exact Instant.le_trans (hr.retrieved_le hx hp) hle
        · have hlt : new.retrievedAt < r.retrievedAt := Instant.not_le.mp hle
          exact ⟨r, hr.append fun _ => hlt, congrArg some (newerStamp_of_lt hlt)⟩
      · rw [hstamp]
        refine ⟨new, Newest.of_last rfl ?_, rfl⟩
        intro x hx hp
        exact absurd hp (hnone x hx)
    · rw [if_neg hsame]
      rcases h.newest fingerprint with ⟨r, hr, hstamp⟩ | ⟨hnone, hstamp⟩
      · exact Or.inl ⟨r, hr.append fun hp => absurd hp.symm hsame, hstamp⟩
      · refine Or.inr ⟨?_, hstamp⟩
        intro r hr
        rcases List.mem_append.mp hr with hr | hr
        · exact hnone r hr
        · obtain rfl := List.mem_singleton.mp hr
          exact Ne.symm hsame

/-- The result that is looked up is the newest one with the fingerprint. -/
theorem Hold.latest? (h : records.Hold inserted) (fingerprint : Fingerprint) :
    (∃ r, Newest (·.fingerprint = fingerprint) inserted r ∧
      records.latest? fingerprint = some r) ∨
    (∀ r ∈ inserted, r.fingerprint ≠ fingerprint) ∧ records.latest? fingerprint = none := by
  rcases h.newest fingerprint with ⟨r, hr, hstamp⟩ | ⟨hnone, hstamp⟩
  · left
    refine ⟨r, hr, ?_⟩
    rw [Records.latest?_eq hstamp]
    exact h.result?_eq r hr.mem
  · exact Or.inr ⟨hnone, Records.latest?_eq_none hstamp⟩

end Records

namespace Store

variable {store : Store} {inserted : List StoredResult}

/-- An insertion into a store in good order does not fail. -/
theorem insert_ok (ha : store.outages = []) (new : StoredResult) :
    store.insert new = .ok { store with records := store.records.insert new } := by
  unfold insert available
  rw [ha]
  rfl

/-- A store that was filled is in good order, and its tables hold what it was filled with. -/
theorem Filled.hold (h : Filled inserted store) :
    store.outages = [] ∧ store.records.Hold inserted := by
  -- induction on the insertions: each carries the tables from one list to the next
  induction h with
  | empty => exact ⟨rfl, Records.Hold.empty⟩
  | insert h hnew hid hi ih =>
    obtain ⟨ha, hold⟩ := ih
    rw [insert_ok ha] at hi
    obtain rfl := Except.ok.inj hi
    exact ⟨ha, hold.insert (congrArg StoredResult.fingerprint hnew) hid⟩
  | withQueries h queries ih =>
    obtain ⟨ha, hold⟩ := ih
    exact ⟨ha, hold.fingerprint_eq, hold.result?_eq, hold.newest⟩

/-- Any other result can be inserted into such a store. -/
theorem Filled.add (h : Filled inserted store) {new : StoredResult} (hnew : new.IsRecord)
    (hid : ∀ r ∈ inserted, r.id ≠ new.id) :
    Filled (inserted ++ [new]) { store with records := store.records.insert new } :=
  h.insert hnew hid (insert_ok h.hold.1 new)

end Store

end QueryDispatch
