import QueryDispatch.Json.Basic

/-! # Fields built from entries

  The fields of an object stand in the order of their keys. They are known by
  their look-ups: setting a value shows at its key and at no other one, and of
  several entries with one key the last one is found.
-/

namespace QueryDispatch

/-- Looking through a list entry by entry. -/
theorem lookup_cons_eq_ite {α : Type} (key : String) (value : α) (rest : List (String × α))
    (name : String) :
    ((key, value) :: rest).lookup name = if name = key then some value else rest.lookup name := by
  rw [List.lookup_cons]
  by_cases h : name = key
  · simp [h]
  · rw [if_neg h, beq_false_of_ne h]

namespace JsonFields

variable {fields entries : JsonFields} {key name : String} {value : Json}

/-- The keys grow, so each stands once. -/
def Ordered (fields : JsonFields) : Prop := fields.Pairwise fun a b => a.1 < b.1

/-! ### Look-ups -/

theorem get?_cons (key : String) (value : Json) (fields : JsonFields) (name : String) :
    get? ((key, value) :: fields) name = if name = key then some value else fields.get? name :=
  lookup_cons_eq_ite key value fields name

theorem get?_insert (key : String) (value : Json) (fields : JsonFields) (name : String) :
    (insert key value fields).get? name =
      if name = key then some value else fields.get? name := by
  induction fields with
  | nil => exact get?_cons key value [] name
  | cons first rest ih =>
    obtain ⟨k, v⟩ := first
    unfold insert
    by_cases hlt : key < k
    · rw [if_pos hlt, get?_cons]
    · rw [if_neg hlt]
      by_cases heq : key = k
      · subst heq
        rw [if_pos rfl, get?_cons, get?_cons]
        split <;> rfl
      · rw [if_neg heq, get?_cons, ih, get?_cons]
        -- the value stands behind this key, which is another one
        grind

theorem mem_of_get? (h : fields.get? name = some value) : (name, value) ∈ fields := by
  induction fields with
  | nil => cases h
  | cons first rest ih =>
    obtain ⟨k, v⟩ := first
    rw [get?_cons] at h
    split at h
    · next heq =>
      obtain rfl := Option.some.inj h
      rw [heq]
      exact List.mem_cons_self
    · exact List.mem_cons_of_mem _ (ih h)

/-! ### Order -/

/-- Each field is found under its key. -/
theorem Ordered.get?_of_mem (h : fields.Ordered) (hmem : (key, value) ∈ fields) :
    fields.get? key = some value := by
  induction h with
  | nil => cases hmem
  | @cons first rest hlt hrest ih =>
    obtain ⟨k, v⟩ := first
    rw [get?_cons]
    rcases List.mem_cons.mp hmem with heq | hmem
    · obtain ⟨rfl, rfl⟩ := Prod.mk.inj heq
      rw [if_pos rfl]
    · have hne : key ≠ k := fun heq => String.lt_irrefl k (heq ▸ hlt _ hmem)
      rw [if_neg hne, ih hmem]

theorem Ordered.nodup_keys (h : fields.Ordered) : (fields.map Prod.fst).Nodup := by
  rw [List.Nodup, List.pairwise_map]
  refine List.Pairwise.imp ?_ h
  intro a b hlt heq
  exact String.lt_irrefl b.1 (heq ▸ hlt)

theorem mem_insert {entry : String × Json} (h : entry ∈ insert key value fields) :
    entry = (key, value) ∨ entry ∈ fields := by
  induction fields with
  | nil => exact Or.inl (List.mem_singleton.mp h)
  | cons first rest ih =>
    unfold insert at h
    split at h
    · exact List.mem_cons.mp h
    · split at h
      · rcases List.mem_cons.mp h with rfl | h
        · exact Or.inl rfl
        · exact Or.inr (List.mem_cons_of_mem _ h)
      · rcases List.mem_cons.mp h with rfl | h
        · exact Or.inr List.mem_cons_self
        · exact (ih h).imp_right (List.mem_cons_of_mem _)

theorem Ordered.insert (h : fields.Ordered) (key : String) (value : Json) :
    (JsonFields.insert key value fields).Ordered := by
  induction h with
  | nil => exact List.pairwise_singleton _ _
  | @cons first rest hlt hrest ih =>
    obtain ⟨k, v⟩ := first
    unfold JsonFields.insert
    by_cases hkey : key < k
    · rw [if_pos hkey]
      refine List.Pairwise.cons ?_ (List.Pairwise.cons hlt hrest)
      intro entry hmem
      rcases List.mem_cons.mp hmem with rfl | hmem
      · exact hkey
      · exact String.lt_trans hkey (hlt entry hmem)
    · rw [if_neg hkey]
      by_cases heq : key = k
      · subst heq
        rw [if_pos rfl]
        exact List.Pairwise.cons hlt hrest
      · rw [if_neg heq]
        refine List.Pairwise.cons ?_ ih
        intro entry hmem
        rcases mem_insert hmem with rfl | hmem
        · show k < key
          grind
        · exact hlt entry hmem

/-! ### Several entries -/

/-- The fields with entries set one after the other. -/
def insertAll (fields : JsonFields) (entries : List (String × Json)) : JsonFields :=
  entries.foldl (fun fields (key, value) => insert key value fields) fields

theorem insertAll_cons (fields : JsonFields) (key : String) (value : Json)
    (rest : List (String × Json)) :
    fields.insertAll ((key, value) :: rest) = (insert key value fields).insertAll rest := rfl

theorem insertAll_append (fields : JsonFields) (entries others : List (String × Json)) :
    fields.insertAll (entries ++ others) = (fields.insertAll entries).insertAll others :=
  List.foldl_append

theorem Ordered.insertAll (h : fields.Ordered) (entries : List (String × Json)) :
    (fields.insertAll entries).Ordered := by
  induction entries generalizing fields with
  | nil => exact h
  | cons first rest ih => exact ih (h.insert first.1 first.2)

theorem ofEntries_ordered (entries : List (String × Json)) : (ofEntries entries).Ordered :=
  Ordered.insertAll List.Pairwise.nil entries

/-- Entries in order of their keys are found in front of the fields that they are set in. -/
theorem get?_insertAll (h : entries.Ordered) (fields : JsonFields) (name : String) :
    (fields.insertAll entries).get? name = (get? entries name).or (fields.get? name) := by
  induction h generalizing fields with
  | nil => rfl
  | @cons first rest hlt hrest ih =>
    obtain ⟨k, v⟩ := first
    rw [insertAll_cons, ih, get?_insert, get?_cons]
    by_cases heq : name = k
    · -- the rest does not have this key
      subst heq
      have hnone : get? rest name = none := by
        cases hget : get? rest name with
        | none => rfl
        | some other => exact absurd (hlt _ (mem_of_get? hget)) (String.lt_irrefl _)
      simp [hnone]
    · simp [heq]

end JsonFields

end QueryDispatch
