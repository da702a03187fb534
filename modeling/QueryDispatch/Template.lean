import QueryDispatch.Text.Blank

/-! # Query templates

  A template is literal text with placeholders between double braces. It is cut
  into segments once, left to right: a placeholder runs from the first opening
  to the first closing behind it. Rendering replaces the placeholders whose
  trimmed content is known and keeps all else, so substituted text is never
  looked at again.
-/

namespace QueryDispatch.Template

/-- What opens a placeholder. -/
def opening : List Char := ['\x7b', '\x7b']

/-- What closes a placeholder. -/
def closing : List Char := ['\x7d', '\x7d']

/-- A piece of a template. -/
inductive Segment where
  /-- Text that stays as it is. -/
  | literal (text : List Char)
  /-- What stands between an opening and its closing. -/
  | placeholder (content : List Char)
  deriving DecidableEq, Repr

/-- A cut at a mark loses nothing but the mark. -/
theorem eq_of_cutAt? {mark s head tail : List Char}
    (h : Text.cutAt? mark s = some (head, tail)) : s = head ++ mark ++ tail := by
  induction s generalizing head tail with
  | nil =>
    simp only [Text.cutAt?] at h
    split at h <;> simp_all
  | cons c rest ih =>
    simp only [Text.cutAt?] at h
    split at h
    · rename_i t ht
      obtain ⟨rfl, rfl⟩ : head = [] ∧ tail = t := by simpa [eq_comm] using h
      simpa using Text.eq_of_after? ht
    · simp only [Option.map_eq_some_iff] at h
      obtain ⟨⟨head', tail'⟩, hcut, heq⟩ := h
      obtain ⟨rfl, rfl⟩ : head = c :: head' ∧ tail = tail' := by simpa [eq_comm] using heq
      rw [ih hcut]; rfl

/-- Cuts a template into its segments. -/
def segments (s : List Char) : List Segment :=
  match _h : Text.cutAt? opening s with
  | none => [.literal s]
  | some (before, behind) =>
    match _h' : Text.cutAt? closing behind with
    | none => [.literal s]
    | some (content, rest) => .literal before :: .placeholder content :: segments rest
termination_by s.length
decreasing_by
  have := eq_of_cutAt? _h
  have := eq_of_cutAt? _h'
  simp_all [opening, closing]
  omega

/-- The name a placeholder stands for: its trimmed content. -/
def nameOf (content : List Char) : String := String.ofList (Text.trim content)

/-- The names of the placeholders among some segments, in order. -/
def names : List Segment → List String
  | [] => []
  | .literal _ :: rest => names rest
  | .placeholder content :: rest => nameOf content :: names rest

/-- The list without later repetitions. -/
def distinct {α : Type} [DecidableEq α] (xs : List α) : List α :=
  xs.foldl (fun seen x => if x ∈ seen then seen else seen ++ [x]) []

/-- The names that the placeholders of a template have, each once, in order of appearance. -/
def placeholders (template : String) : List String := distinct (names (segments template.toList))

/-- The text of a segment: a placeholder with a known, nonempty name gives the value of the name. -/
def Segment.render (lookup : String → Option String) : Segment → List Char
  | .literal text => text
  | .placeholder content =>
    let name := nameOf content
    match (if name = "" then none else lookup name) with
    | some value => value.toList
    | none => opening ++ content ++ closing

/-- Replaces every placeholder that `lookup` knows. -/
def render (template : String) (lookup : String → Option String) : String :=
  String.ofList ((segments template.toList).flatMap (·.render lookup))

end QueryDispatch.Template
