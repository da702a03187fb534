import Mathlib.Data.List.Sort
import QueryDispatch.Proofs.Json.Texts

/-! # Equal values

  Two values are equal when their items are, one by one, and their objects
  have equal values under the same keys, in whatever order the fields stand.
  When numbers are equal is a matter of its own. Values in canonical form whose
  numbers have to be the same are equal only if they are the same.
-/

namespace QueryDispatch

namespace JsonNumber

/-- Whether two numbers are equal as numbers of their kind; zeros of either sign are. -/
def equal : JsonNumber → JsonNumber → Bool
  | .int i, .int j => i == j
  | .double d, .double e => d == e || d.isZero && e.isZero
  | _, _ => false

end JsonNumber

namespace Json

mutual

/-- Whether two values are equal, their numbers by `same`. -/
def agrees (same : JsonNumber → JsonNumber → Bool) : Json → Json → Bool
  | .null, .null => true
  | .bool v, .bool w => v == w
  | .number m, .number n => same m n
  | .string s, .string t => s == t
  | .array items, .array others => agreeItems same items others
  | .object fields, .object others =>
    fields.length == others.length && agreeFields same fields others
  | _, _ => false

/-- Whether two lists have equal items in the same order. -/
def agreeItems (same : JsonNumber → JsonNumber → Bool) : List Json → List Json → Bool
  | [], [] => true
  | a :: as, b :: bs => agrees same a b && agreeItems same as bs
  | _, _ => false

/-- Whether each field has an equal value under its key among other fields. -/
def agreeFields (same : JsonNumber → JsonNumber → Bool) :
    List (String × Json) → List (String × Json) → Bool
  | [], _ => true
  | (key, value) :: fields, others =>
    (match others.lookup key with
      | some other => agrees same value other
      | none => false) && agreeFields same fields others

end

/-- Whether two values are the same, whatever the order of their fields. -/
def agreesExactly (a b : Json) : Bool := a.agrees (· == ·) b

end Json

/-! ### Fields in order -/

namespace JsonFields

variable {fields others : JsonFields} {key : String} {value : Json}

instance : Std.Irrefl (fun a b : String × Json => a.1 < b.1) :=
  ⟨fun a => String.lt_irrefl a.1⟩

instance : Std.Antisymm (fun a b : String × Json => a.1 < b.1) :=
  ⟨fun a _ hab hba => absurd (String.lt_trans hab hba) (String.lt_irrefl a.1)⟩

/-- As many fields that are all found among others are the others. -/
theorem Ordered.eq_of_found (h : fields.Ordered) (ho : others.Ordered)
    (hlength : fields.length = others.length)
    (hfound : ∀ field ∈ fields, others.get? field.1 = some field.2) : fields = others := by
  have hsubset : fields ⊆ others := fun field hmem => mem_of_get? (hfound field hmem)
  have hsublist : fields.Sublist others :=
    List.sublist_of_subperm_of_pairwise (List.subperm_of_subset h.nodup hsubset) h ho
  exact hsublist.eq_of_length hlength

end JsonFields

/-! ### Canonical values -/

namespace Json

variable {a b : Json} {items others : List Json}
  {same : JsonNumber → JsonNumber → Bool}

theorem eq_of_agreeItems (hitems : ∀ item ∈ items, ∀ other ∈ others,
      item.agrees same other = true → item = other)
    (h : agreeItems same items others = true) : items = others := by
  induction items generalizing others with
  | nil =>
    cases others with
    | nil => rfl
    | cons other others => cases h
  | cons item items ih =>
    cases others with
    | nil => cases h
    | cons other others =>
      rw [agreeItems, Bool.and_eq_true] at h
      rw [hitems item List.mem_cons_self other List.mem_cons_self h.1]
      rw [ih (fun item hmem other hother => hitems item (List.mem_cons_of_mem _ hmem) other
        (List.mem_cons_of_mem _ hother)) h.2]

theorem agreeItems_self (hitems : ∀ item ∈ items, item.agrees same item = true) :
    agreeItems same items items = true := by
  induction items with
  | nil => rfl
  | cons item items ih =>
    rw [agreeItems, hitems item List.mem_cons_self,
      ih fun item hmem => hitems item (List.mem_cons_of_mem _ hmem)]
    rfl

theorem agreeFields_iff {fields others : JsonFields} :
    agreeFields same fields others = true ↔ ∀ field ∈ fields,
      ∃ other, others.get? field.1 = some other ∧ field.2.agrees same other = true := by
  induction fields with
  | nil => exact ⟨fun _ _ h => absurd h List.not_mem_nil, fun _ => rfl⟩
  | cons field fields ih =>
    obtain ⟨key, value⟩ := field
    rw [agreeFields, Bool.and_eq_true, ih, List.forall_mem_cons]
    refine and_congr_left fun _ => ?_
    show _ ↔ ∃ other, others.lookup key = some other ∧ _
    cases others.lookup key with
    | none => simp
    | some other => simp

/-- Values whose numbers have to be the same are equal only if they are the same. -/
theorem eq_of_agreesExactly (ha : a.Canonical) (hb : b.Canonical)
    (h : a.agreesExactly b = true) : a = b := by
  unfold agreesExactly at h
  induction a using inductMembers generalizing b with
  | null =>
    cases b with
    | null => rfl
    | _ => simp [agrees] at h
  | bool v =>
    cases b with
    | bool w => rw [agrees, beq_iff_eq] at h; rw [h]
    | _ => simp [agrees] at h
  | number m =>
    cases b with
    | number n => rw [agrees, beq_iff_eq] at h; rw [h]
    | _ => simp [agrees] at h
  | string s =>
    cases b with
    | string t => rw [agrees, beq_iff_eq] at h; rw [h]
    | _ => simp [agrees] at h
  | array items ih =>
    cases b with
    | array others =>
      refine congrArg Json.array (eq_of_agreeItems (fun item hmem other hother => ?_) h)
      exact ih item hmem (canonicalItems_iff.mp ha item hmem)
        (canonicalItems_iff.mp hb other hother)
    | _ => simp [agrees] at h
  | object fields ih =>
    cases b with
    | object others =>
      rw [agrees, Bool.and_eq_true, beq_iff_eq, agreeFields_iff] at h
      refine congrArg Json.object (ha.1.eq_of_found hb.1 h.1 fun field hmem => ?_)
      obtain ⟨other, hget, hagree⟩ := h.2 field hmem
      have hvalue := ih field hmem (canonicalFields_iff.mp ha.2 field hmem)
        (canonicalFields_iff.mp hb.2 _ (JsonFields.mem_of_get? hget)) hagree
      rw [hget, hvalue]
    | _ => simp [agrees] at h

theorem agreesExactly_self (ha : a.Canonical) : a.agreesExactly a = true := by
  unfold agreesExactly
  induction a using inductMembers with
  | null => rfl
  | bool v => exact beq_self_eq_true v
  | number m => exact beq_self_eq_true m
  | string s => exact beq_self_eq_true s
  | array items ih =>
    exact agreeItems_self fun item hmem => ih item hmem (canonicalItems_iff.mp ha item hmem)
  | object fields ih =>
    rw [agrees, Bool.and_eq_true, agreeFields_iff]
    refine ⟨beq_self_eq_true _, fun field hmem => ⟨field.2, ha.1.get?_of_mem hmem, ?_⟩⟩
    exact ih field hmem (canonicalFields_iff.mp ha.2 field hmem)

/-- For values in canonical form this is equality. -/
theorem agreesExactly_iff (ha : a.Canonical) (hb : b.Canonical) :
    a.agreesExactly b = true ↔ a = b := by
  constructor
  · exact eq_of_agreesExactly ha hb
  · rintro rfl
    exact agreesExactly_self ha

end Json

end QueryDispatch
