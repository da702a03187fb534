import QueryDispatch.Proofs.Json.Entries
import QueryDispatch.Proofs.Json.NumberTexts
import QueryDispatch.Proofs.Json.QuotedTexts

/-! # Values are told by their texts

  The text of a value ends where it does, whatever follows it: quotes and
  brackets close, and a number goes on as long as its characters do. So one
  text is written for one value only.
-/

namespace QueryDispatch.Json

variable {a b : Json} {c : Char} {s t x y : List Char} {α : Type} {piece : α → List Char}
  {as bs : List α} {close : Char}

/-! ### Induction over values -/

/-- What holds of a list when it holds of its items, and of an object when it holds of the values
    of its fields, holds of every value. -/
@[elab_as_elim]
theorem inductMembers {motive : Json → Prop} (null : motive .null)
    (bool : ∀ v, motive (.bool v)) (number : ∀ n, motive (.number n))
    (string : ∀ s, motive (.string s))
    (array : ∀ items, (∀ item ∈ items, motive item) → motive (.array items))
    (object : ∀ fields : JsonFields, (∀ field ∈ fields, motive field.2) → motive (.object fields))
    (j : Json) : motive j := by
  cases j with
  | null => exact null
  | bool v => exact bool v
  | number n => exact number n
  | string s => exact string s
  | array items =>
    exact array items fun item hmem => inductMembers null bool number string array object item
  | object fields =>
    refine object fields fun field hmem => ?_
    obtain ⟨key, value⟩ := field
    have hsize : sizeOf value < 1 + sizeOf fields := by
      have hfield := List.sizeOf_lt_of_mem hmem
      have hpair : sizeOf (key, value) = 1 + sizeOf key + sizeOf value := rfl
      omega
    exact inductMembers null bool number string array object value
termination_by sizeOf j

/-! ### Values in canonical form -/

mutual

/-- Each value has one form: its doubles are canonical, and the fields of its objects are in
    order. Values that are read have this form. -/
def Canonical : Json → Prop
  | .number n => n.Canonical
  | .array items => CanonicalItems items
  | .object fields => JsonFields.Ordered fields ∧ CanonicalFields fields
  | _ => True

/-- The items of a list are canonical. -/
def CanonicalItems : List Json → Prop
  | [] => True
  | item :: items => Canonical item ∧ CanonicalItems items

/-- The values of some fields are canonical. -/
def CanonicalFields : List (String × Json) → Prop
  | [] => True
  | (_, value) :: fields => Canonical value ∧ CanonicalFields fields

end

theorem canonicalItems_iff {items : List Json} :
    CanonicalItems items ↔ ∀ item ∈ items, item.Canonical := by
  induction items with
  | nil => exact ⟨fun _ _ h => absurd h List.not_mem_nil, fun _ => trivial⟩
  | cons item items ih => rw [CanonicalItems, ih, List.forall_mem_cons]

theorem canonicalFields_iff {fields : List (String × Json)} :
    CanonicalFields fields ↔ ∀ field ∈ fields, field.2.Canonical := by
  induction fields with
  | nil => exact ⟨fun _ _ h => absurd h List.not_mem_nil, fun _ => trivial⟩
  | cons field fields ih => rw [CanonicalFields, ih, List.forall_mem_cons]

/-! ### How texts begin and end -/

/-- What follows does not continue a number. -/
def Ends (s : List Char) : Prop := ∀ c ∈ s.head?, isNumeric c = false

theorem ends_cons (hc : isNumeric c = false) (s : List Char) : Ends (c :: s) :=
  Text.stops_cons hc s

/-- Runs of numeric characters end where other characters follow. -/
theorem numeric_append_inj (hs : ∀ c ∈ s, isNumeric c = true) (ht : ∀ c ∈ t, isNumeric c = true)
    (hx : Ends x) (hy : Ends y) (h : s ++ x = t ++ y) : s = t ∧ x = y := by
  have hsame : s = t := by rw [← Text.takeWhile_run hs hx, h, Text.takeWhile_run ht hy]
  subst hsame
  exact ⟨rfl, List.append_cancel_left h⟩

/-- A character for each kind of value. -/
def lead : Json → Char
  | .null => 'n'
  | .bool _ => 't'
  | .number _ => '0'
  | .string _ => '"'
  | .array _ => '['
  | .object _ => '\x7b'

/-- The kind that a first character tells. -/
def leadOf (c : Char) : Char :=
  if isNumeric c then '0' else if c = 'f' then 't' else c

/-- The first character of a text tells the kind of its value. -/
theorem head?_chars (a : Json) (x : List Char) : (a.chars ++ x).head?.map leadOf = some a.lead := by
  match a with
  | .null => rfl
  | .bool true => rfl
  | .bool false => rfl
  | .string s => rfl
  | .array items => rfl
  | .object fields => rfl
  | .number n =>
    obtain ⟨c, rest, htext⟩ := List.exists_cons_of_ne_nil n.text_ne_nil
    have hc : isNumeric c = true :=
      JsonNumber.isNumeric_of_mem_text (by rw [htext]; exact List.mem_cons_self)
    rw [chars, htext, List.cons_append, List.head?_cons, Option.map_some, leadOf, if_pos hc]
    rfl

theorem lead_eq_of_append_eq (h : a.chars ++ x = b.chars ++ y) : a.lead = b.lead := by
  have hhead := head?_chars a x
  rw [h, head?_chars] at hhead
  exact (Option.some.inj hhead).symm

/-! ### Lists of pieces -/

/-- Pieces with commas between them. -/
def listed (piece : α → List Char) : List α → List Char
  | [] => []
  | a :: as => piece a ++ as.flatMap fun b => ',' :: piece b

theorem itemChars_eq (items : List Json) : itemChars items = listed chars items := by
  match items with
  | [] => rfl
  | [item] => exact (List.append_nil _).symm
  | item :: second :: items =>
    rw [itemChars, itemChars_eq (second :: items)]
    · rfl
    · exact List.cons_ne_nil _ _

/-- The text of a field. -/
def fieldText (field : String × Json) : List Char := quote field.1 ++ ':' :: chars field.2

theorem fieldChars_eq (fields : List (String × Json)) :
    fieldChars fields = listed fieldText fields := by
  match fields with
  | [] => rfl
  | [(key, value)] => exact (List.append_nil _).symm
  | (key, value) :: second :: fields =>
    rw [fieldChars, fieldChars_eq (second :: fields)]
    · simp only [listed, fieldText, List.append_assoc, List.cons_append, List.flatMap_cons]
    · exact List.cons_ne_nil _ _

/-- Behind a piece stands a comma or the closing bracket. -/
theorem ends_more (hclose : isNumeric close = false) (x : List Char) :
    Ends ((as.flatMap fun b => ',' :: piece b) ++ close :: x) := by
  cases as with
  | nil => exact ends_cons hclose x
  | cons b bs => exact ends_cons (by decide) _

/-- The pieces behind commas come apart, if each piece does. -/
theorem more_append_inj (hclose : isNumeric close = false) (hcomma : close ≠ ',')
    (hpiece : ∀ a ∈ as, ∀ b ∈ bs, ∀ x y, Ends x → Ends y → piece a ++ x = piece b ++ y →
      a = b ∧ x = y)
    (h : (as.flatMap fun b => ',' :: piece b) ++ close :: x =
      (bs.flatMap fun b => ',' :: piece b) ++ close :: y) : as = bs ∧ x = y := by
  induction as generalizing bs with
  | nil =>
    cases bs with
    | nil => exact ⟨rfl, (List.cons.inj h).2⟩
    | cons b bs => exact absurd (List.cons.inj h).1 hcomma
  | cons a as ih =>
    cases bs with
    | nil => exact absurd (List.cons.inj h).1.symm hcomma
    | cons b bs =>
      simp only [List.flatMap_cons, List.cons_append, List.append_assoc] at h
      obtain ⟨rfl, hrest⟩ := hpiece a List.mem_cons_self b List.mem_cons_self _ _
        (ends_more hclose x) (ends_more hclose y) (List.cons.inj h).2
      obtain ⟨rfl, hxy⟩ := ih (fun a ha b hb => hpiece a (List.mem_cons_of_mem _ ha) b
        (List.mem_cons_of_mem _ hb)) hrest
      exact ⟨rfl, hxy⟩

/-- A list comes apart into its pieces, if no piece begins with the closing bracket. -/
theorem listed_append_inj (hclose : isNumeric close = false) (hcomma : close ≠ ',')
    (hbegin : ∀ a x, (piece a ++ x).head? ≠ some close)
    (hpiece : ∀ a ∈ as, ∀ b ∈ bs, ∀ x y, Ends x → Ends y → piece a ++ x = piece b ++ y →
      a = b ∧ x = y)
    (h : listed piece as ++ close :: x = listed piece bs ++ close :: y) : as = bs ∧ x = y := by
  have hnil : ∀ {b bs} {x y : List Char}, close :: x ≠ listed piece (b :: bs) ++ close :: y := by
    intro b bs x y heq
    rw [listed, List.append_assoc] at heq
    exact hbegin b _ (by rw [← heq]; rfl)
  cases as with
  | nil =>
    cases bs with
    | nil => exact ⟨rfl, (List.cons.inj h).2⟩
    | cons b bs => exact absurd h hnil
  | cons a as =>
    cases bs with
    | nil => exact absurd h.symm hnil
    | cons b bs =>
      rw [listed, listed, List.append_assoc, List.append_assoc] at h
      obtain ⟨rfl, hrest⟩ := hpiece a List.mem_cons_self b List.mem_cons_self _ _
        (ends_more hclose x) (ends_more hclose y) h
      obtain ⟨rfl, hxy⟩ := more_append_inj hclose hcomma (fun a ha b hb =>
        hpiece a (List.mem_cons_of_mem _ ha) b (List.mem_cons_of_mem _ hb)) hrest
      exact ⟨rfl, hxy⟩

/-- No value begins with a closing bracket. -/
theorem chars_begin (a : Json) (x : List Char) : (a.chars ++ x).head? ≠ some ']' := by
  intro h
  have hlead := head?_chars a x
  rw [h] at hlead
  have hbracket : leadOf ']' = ']' := by decide
  rw [Option.map_some, hbracket, Option.some_inj] at hlead
  cases a <;> simp [lead] at hlead

theorem fieldText_begin (field : String × Json) (x : List Char) :
    (fieldText field ++ x).head? ≠ some '\x7d' := by
  have hquote : (fieldText field ++ x).head? = some '"' := rfl
  rw [hquote]
  decide

/-! ### Values -/

/-- Where the text of a value ends, and which value it is, does not depend on what follows. -/
theorem chars_append_inj (a b : Json) (x y : List Char) (ha : a.Canonical) (hb : b.Canonical)
    (hx : Ends x) (hy : Ends y) (h : a.chars ++ x = b.chars ++ y) : a = b ∧ x = y := by
  have hlead := lead_eq_of_append_eq h
  induction a using inductMembers generalizing b x y with
  | null =>
    cases b with
    | null => exact ⟨rfl, List.append_cancel_left h⟩
    | _ => simp [lead] at hlead
  | bool v =>
    cases b with
    | bool w =>
      cases v <;> cases w
      · exact ⟨rfl, List.append_cancel_left h⟩
      · exact absurd (List.cons.inj h).1 (by decide)
      · exact absurd (List.cons.inj h).1 (by decide)
      · exact ⟨rfl, List.append_cancel_left h⟩
    | _ => simp [lead] at hlead
  | number m =>
    cases b with
    | number n =>
      obtain ⟨htext, hxy⟩ := numeric_append_inj (fun c hc => JsonNumber.isNumeric_of_mem_text hc)
        (fun c hc => JsonNumber.isNumeric_of_mem_text hc) hx hy h
      rw [JsonNumber.eq_of_text_eq ha hb (String.toList_inj.mp htext)]
      exact ⟨rfl, hxy⟩
    | _ => simp [lead] at hlead
  | string s =>
    cases b with
    | string t =>
      obtain ⟨rfl, hxy⟩ := quote_append_inj h
      exact ⟨rfl, hxy⟩
    | _ => simp [lead] at hlead
  | array as ih =>
    cases b with
    | array bs =>
      rw [chars, chars, itemChars_eq, itemChars_eq] at h
      simp only [List.cons_append, List.append_assoc, List.nil_append] at h
      obtain ⟨rfl, hxy⟩ := listed_append_inj (by decide) (by decide) chars_begin
        (fun item hmem other hother x y hx hy h => ih item hmem other x y
          (canonicalItems_iff.mp ha item hmem) (canonicalItems_iff.mp hb other hother) hx hy h
          (lead_eq_of_append_eq h))
        (List.cons.inj h).2
      exact ⟨rfl, hxy⟩
    | _ => simp [lead] at hlead
  | object fields ih =>
    cases b with
    | object others =>
      rw [chars, chars, fieldChars_eq, fieldChars_eq] at h
      simp only [List.cons_append, List.append_assoc, List.nil_append] at h
      obtain ⟨rfl, hxy⟩ := listed_append_inj (by decide) (by decide) fieldText_begin
        (fun field hmem other hother x y hx hy h => by
          unfold fieldText at h
          rw [List.append_assoc, List.append_assoc] at h
          obtain ⟨hkey, hrest⟩ := quote_append_inj h
          have htail := (List.cons.inj hrest).2
          obtain ⟨hvalue, hxy⟩ := ih field hmem other.2 x y
            (canonicalFields_iff.mp ha.2 field hmem) (canonicalFields_iff.mp hb.2 other hother)
            hx hy htail (lead_eq_of_append_eq htail)
          exact ⟨Prod.ext hkey hvalue, hxy⟩)
        (List.cons.inj h).2
      exact ⟨rfl, hxy⟩
    | _ => simp [lead] at hlead

/-- Values that are written alike are the same. -/
theorem eq_of_text_eq (ha : a.Canonical) (hb : b.Canonical) (h : a.text = b.text) : a = b := by
  have hnil : Ends [] := fun c hc => by cases hc
  refine (chars_append_inj a b [] [] ha hb hnil hnil ?_).1
  rw [String.ofList_injective h]

end QueryDispatch.Json
