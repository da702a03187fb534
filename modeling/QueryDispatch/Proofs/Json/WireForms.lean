import QueryDispatch.Json.Wire
import QueryDispatch.Proofs.Json.Entries

/-! # Wire forms that are read back

  A type reads back when the wire form of each of its values stands for that
  value. Lists and optional values read back when what they hold does, the
  latter only if `null` stands for none of it. The wire form of a record is
  known by what is found under the names of its fields.
-/

namespace QueryDispatch

namespace Wire

/-- What is written is read back. -/
class ReadsBack (α : Type) [Wire α] : Prop where
  decode?_encode : ∀ a : α, decode? (encode a) = some a

/-- No value of the type is read from `null`. -/
class RefusesNull (α : Type) [Wire α] : Prop where
  decode?_null : (decode? .null : Option α) = none

attribute [simp] ReadsBack.decode?_encode

section laws

variable {α : Type} [Wire α]

/-- A value comes back from its wire form; a wire form that is accepted stands for the same value
    after it is written anew. -/
structure RoundTrips (α : Type) [Wire α] : Prop where
  read_back : ∀ a : α, decode? (encode a) = some a
  settled : ∀ j, (decode? j : Option α).bind (fun a => (decode? (encode a) : Option α)) = decode? j

theorem RoundTrips.of_readsBack [ReadsBack α] : RoundTrips α where
  read_back := ReadsBack.decode?_encode
  settled j := by
    cases (decode? j : Option α) with
    | none => rfl
    | some a => exact ReadsBack.decode?_encode a

/-! ### Scalars -/

@[simp] theorem decode?_string (s : String) : decode? (.string s) = some s := rfl

@[simp] theorem decode?_bool (b : Bool) : decode? (.bool b) = some b := rfl

@[simp] theorem decode?_json (j : Json) : (decode? j : Option Json) = some j := rfl

instance : ReadsBack String := ⟨decode?_string⟩

instance : ReadsBack Json := ⟨decode?_json⟩

instance : RefusesNull String := ⟨rfl⟩

theorem integer?_of_mem {low high i : Int} (h : low ≤ i ∧ i ≤ high) :
    integer? low high (.int i) = some i := if_pos h

instance : ReadsBack Int64 where
  decode?_encode i := by
    have hmem : Int64.minValue.toInt ≤ i.toInt ∧ i.toInt ≤ Int64.maxValue.toInt :=
      ⟨Int64.minValue_le_toInt i, Int64.toInt_le i⟩
    show (integer? _ _ (.int i.toInt)).map Int64.ofInt = some i
    rw [integer?_of_mem hmem, Option.map_some, Int64.ofInt_toInt]

instance : RefusesNull Int64 := ⟨rfl⟩

instance : ReadsBack UInt64 where
  decode?_encode n := by
    have hlt : n.toNat < UInt64.size := n.toNat_lt
    have hmem : 0 ≤ (n.toNat : Int) ∧ (n.toNat : Int) ≤ UInt64.size - 1 := by omega
    show (integer? _ _ (.int n.toNat)).map (fun i => UInt64.ofNat i.toNat) = some n
    rw [integer?_of_mem hmem, Option.map_some, Int.toNat_natCast, UInt64.ofNat_toNat]

instance : ReadsBack UInt32 where
  decode?_encode n := by
    have hlt : n.toNat < UInt32.size := n.toNat_lt
    have hmem : 0 ≤ (n.toNat : Int) ∧ (n.toNat : Int) ≤ UInt32.size - 1 := by omega
    show (integer? _ _ (.int n.toNat)).map (fun i => UInt32.ofNat i.toNat) = some n
    rw [integer?_of_mem hmem, Option.map_some, Int.toNat_natCast, UInt32.ofNat_toNat]

instance : RefusesNull UInt32 := ⟨rfl⟩

instance : ReadsBack UInt16 where
  decode?_encode n := by
    have hlt : n.toNat < UInt16.size := n.toNat_lt
    have hmem : 0 ≤ (n.toNat : Int) ∧ (n.toNat : Int) ≤ UInt16.size - 1 := by omega
    show (integer? _ _ (.int n.toNat)).map (fun i => UInt16.ofNat i.toNat) = some n
    rw [integer?_of_mem hmem, Option.map_some, Int.toNat_natCast, UInt16.ofNat_toNat]

/-! ### Lists and optional values -/

theorem mapM_decode?_encode [ReadsBack α] (xs : List α) :
    (xs.map encode).mapM decode? = some xs := by
  induction xs with
  | nil => rfl
  | cons x xs ih => simp [ih]

instance [ReadsBack α] : ReadsBack (List α) := ⟨mapM_decode?_encode⟩

theorem decode?_array (items : List Json) :
    (decode? (.array items) : Option (List Json)) = some items := by
  have hread := mapM_decode?_encode items
  rwa [show items.map encode = items from List.map_id _] at hread

@[simp] theorem decode?_strings (texts : List String) : decode? (.strings texts) = some texts :=
  mapM_decode?_encode texts

theorem encode_ne_null [ReadsBack α] [RefusesNull α] (a : α) : encode a ≠ .null := by
  intro h
  have hread := ReadsBack.decode?_encode a
  rw [h, RefusesNull.decode?_null] at hread
  cases hread

/-- What is present is read as an optional value. -/
@[simp] theorem decode?_encode_present [ReadsBack α] [RefusesNull α] (a : α) :
    (decode? (encode a) : Option (Option α)) = some (some a) := by
  have hpresent : ∀ {j : Json}, j ≠ .null →
      (decode? j : Option (Option α)) = (decode? j).map some := by
    intro j hj
    cases j with
    | null => exact absurd rfl hj
    | _ => rfl
  rw [hpresent (encode_ne_null a), ReadsBack.decode?_encode, Option.map_some]

instance [ReadsBack α] [RefusesNull α] : ReadsBack (Option α) where
  decode?_encode
    | none => rfl
    | some a => decode?_encode_present a

@[simp] theorem decode?_string_present (s : String) :
    (decode? (.string s) : Option (Option String)) = some (some s) := rfl

end laws

end Wire

/-! ### Records -/

namespace JsonFields

variable {fields : List (String × Option Json)}

theorem lookup_insert (key : String) (value : Json) (fields : JsonFields) (name : String) :
    (insert key value fields).lookup name = if name = key then some value else fields.lookup name :=
  get?_insert key value fields name

/-- The fields of an object of those entries that have a value. -/
def present (fields : List (String × Option Json)) : JsonFields :=
  ofEntries (fields.filterMap fun (key, value) => value.map fun j => (key, j))

theorem lookup_eq_none_of_not_mem {β : Type} {entries : List (String × β)} {name : String}
    (h : name ∉ entries.map Prod.fst) : entries.lookup name = none := by
  rw [List.lookup_eq_none_iff]
  intro entry hmem
  rw [bne_iff_ne]
  rintro rfl
  exact h (List.mem_map_of_mem hmem)

/-- Entries with different keys are found under them, whatever their order, unless they have no
    value. -/
@[simp] theorem lookup_present (h : (fields.map Prod.fst).Nodup) (name : String) :
    (present fields).lookup name = (fields.lookup name).join := by
  have hall : ∀ start : JsonFields, (start.insertAll
      (fields.filterMap fun (key, value) => value.map fun j => (key, j))).get? name =
        (fields.lookup name).join.or (start.get? name) := by
    induction fields with
    | nil => intro start; rfl
    | cons first rest ih =>
      obtain ⟨key, value⟩ := first
      obtain ⟨hkey, hrest⟩ := List.nodup_cons.mp h
      intro start
      rw [lookup_cons_eq_ite]
      cases value with
      | none =>
        rw [List.filterMap_cons_none rfl, ih hrest]
        by_cases heq : name = key
        · rw [heq, lookup_eq_none_of_not_mem hkey, if_pos rfl]
          rfl
        · rw [if_neg heq]
      | some j =>
        have hstep : (List.filterMap (fun ((key, value) : String × Option Json) =>
            value.map fun j => (key, j)) ((key, some j) :: rest)) =
              (key, j) :: rest.filterMap fun (key, value) => value.map fun j => (key, j) := rfl
        rw [hstep]
        show ((insert key j start).insertAll _).get? name = _
        rw [ih hrest, get?_insert]
        by_cases heq : name = key
        · rw [heq, lookup_eq_none_of_not_mem hkey, if_pos rfl, if_pos rfl]
          rfl
        · rw [if_neg heq, if_neg heq]
  rw [← Option.or_none (o := (fields.lookup name).join)]
  exact hall []

end JsonFields

@[simp] theorem Json.withPresent_eq (fields : List (String × Option Json)) :
    withPresent fields = .object (JsonFields.present fields) := rfl

namespace Fields

variable {α : Type} [Wire α]

@[simp] theorem of?_object (count : Nat) (fields : JsonFields) :
    of? count (.object fields) = some (.named fields) := rfl

@[simp] theorem required_named (fields : JsonFields) (index : Nat) (name : String) :
    ((named fields).required index name : Option α) = (fields.lookup name).bind Wire.decode? := rfl

@[simp] theorem orDefault_named (fields : JsonFields) (index : Nat) (name : String) (default : α) :
    (named fields).orDefault index name default =
      (fields.lookup name).elim (some default) Wire.decode? := by
  simp only [orDefault, find?]
  cases fields.lookup name <;> rfl

@[simp] theorem optional_named (fields : JsonFields) (index : Nat) (name : String) :
    ((named fields).optional index name : Option (Option α)) =
      (fields.lookup name).elim (some none) Wire.decode? := by
  simp only [optional, find?]
  cases fields.lookup name <;> rfl

end Fields

end QueryDispatch
