/-! # Tables by key

  Lists of pairs in which each key stands once. Setting a key keeps its place,
  and a new key goes to the end, so the list remembers the order of first
  appearance.
-/

namespace QueryDispatch

/-- Values by key, in the order in which the keys first appeared. -/
abbrev Assoc (α β : Type) := List (α × β)

namespace Assoc

variable {α β : Type} [DecidableEq α]

/-- The value of a key. -/
def find? (table : Assoc α β) (key : α) : Option β :=
  match table with
  | [] => none
  | (k, v) :: rest => if k = key then some v else find? rest key

/-- Sets the value of a key. -/
def put (table : Assoc α β) (key : α) (value : β) : Assoc α β :=
  match table with
  | [] => [(key, value)]
  | (k, v) :: rest => if k = key then (key, value) :: rest else (k, v) :: put rest key value

/-- Removes a key. -/
def erase (table : Assoc α β) (key : α) : Assoc α β :=
  match table with
  | [] => []
  | (k, v) :: rest => if k = key then erase rest key else (k, v) :: erase rest key

/-- The keys in order. -/
def keys (table : Assoc α β) : List α := table.map (·.1)

/-- The values in the order of their keys. -/
def values (table : Assoc α β) : List β := table.map (·.2)

/-! ### What look-ups see -/

@[simp] theorem find?_nil (key : α) : find? ([] : Assoc α β) key = none := rfl

@[simp] theorem find?_put_self (table : Assoc α β) (key : α) (value : β) :
    (table.put key value).find? key = some value := by
  induction table with
  | nil => simp [put, find?]
  | cons entry rest ih =>
    obtain ⟨k, v⟩ := entry
    by_cases h : k = key <;> simp [put, find?, h, ih]

theorem find?_put_of_ne (table : Assoc α β) {key other : α} (value : β) (h : other ≠ key) :
    (table.put key value).find? other = table.find? other := by
  induction table with
  | nil => simp [put, find?, Ne.symm h]
  | cons entry rest ih =>
    obtain ⟨k, v⟩ := entry
    by_cases hk : k = key
    · simp [put, find?, hk, Ne.symm h]
    · by_cases ho : k = other
      · subst ho; simp [put, find?, h]
      · simp [put, find?, hk, ho, ih]

@[simp] theorem find?_erase_self (table : Assoc α β) (key : α) :
    (table.erase key).find? key = none := by
  induction table with
  | nil => rfl
  | cons entry rest ih =>
    obtain ⟨k, v⟩ := entry
    by_cases h : k = key <;> simp [erase, find?, h, ih]

theorem find?_erase_of_ne (table : Assoc α β) {key other : α} (h : other ≠ key) :
    (table.erase key).find? other = table.find? other := by
  induction table with
  | nil => rfl
  | cons entry rest ih =>
    obtain ⟨k, v⟩ := entry
    by_cases hk : k = key
    · subst hk
      simp [erase, find?, Ne.symm h, ih]
    · by_cases ho : k = other
      · subst ho; simp [erase, find?, h]
      · simp [erase, find?, hk, ho, ih]

theorem find?_put (table : Assoc α β) (key other : α) (value : β) :
    (table.put key value).find? other = if other = key then some value else table.find? other := by
  by_cases h : other = key
  · rw [h, if_pos rfl, find?_put_self]
  · rw [if_neg h, find?_put_of_ne table value h]

theorem find?_erase (table : Assoc α β) (key other : α) :
    (table.erase key).find? other = if other = key then none else table.find? other := by
  by_cases h : other = key
  · rw [h, if_pos rfl, find?_erase_self]
  · rw [if_neg h, find?_erase_of_ne table h]

/-! ### What the lists hold -/

@[simp] theorem erase_put_self (table : Assoc α β) (key : α) (value : β) :
    (table.put key value).erase key = table.erase key := by
  induction table with
  | nil => simp [put, erase]
  | cons entry rest ih =>
    obtain ⟨k, v⟩ := entry
    by_cases h : k = key <;> simp [put, erase, h, ih]

/-- A new key goes to the end. -/
theorem put_of_find?_eq_none {table : Assoc α β} {key : α} (h : table.find? key = none)
    (value : β) : table.put key value = table ++ [(key, value)] := by
  induction table with
  | nil => rfl
  | cons entry rest ih =>
    obtain ⟨k, v⟩ := entry
    by_cases hk : k = key
    · simp [find?, hk] at h
    · simp only [find?, hk, if_false] at h
      simp [put, hk, ih h]

theorem mem_keys_iff {table : Assoc α β} {key : α} :
    key ∈ table.keys ↔ (table.find? key).isSome = true := by
  induction table with
  | nil => simp [keys]
  | cons entry rest ih =>
    obtain ⟨k, v⟩ := entry
    by_cases hk : k = key
    · simp [keys, find?, hk]
    · have hk' : key ≠ k := Ne.symm hk
      simp only [keys] at ih
      simp [keys, find?, hk, hk', ih]

end Assoc

end QueryDispatch
