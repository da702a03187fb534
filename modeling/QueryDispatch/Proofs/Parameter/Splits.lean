import QueryDispatch.Proofs.Parameter.Histories
import QueryDispatch.Proofs.Text.Cuts

/-! # Templates come apart in one way

  A template is text around placeholders. Each placeholder runs from the first
  opening behind the one before it to the first closing behind that, and in
  the text behind the last one nothing is opened and closed. This fixes the
  parts, before any values are known: rendering puts values in the place of
  placeholders, and reads none of what it has put there.
-/

namespace QueryDispatch.Template

/-- A placeholder, with the text in front of it. -/
structure Part where
  literal : List Char
  /-- What stands between the opening and the closing. -/
  content : List Char

namespace Part

/-- The placeholder as it stands in the template. -/
def itself (p : Part) : List Char := opening ++ p.content ++ closing

/-- What the placeholder is replaced by: the value of its name, if the name is not empty and has
    one; or else nothing happens to it. -/
def shown (lookup : String → Option String) (p : Part) : List Char :=
  if nameOf p.content = "" then p.itself
  else ((lookup (nameOf p.content)).map String.toList).getD p.itself

end Part

/-- A text comes apart into placeholders, each with the text in front of it, and the text behind
    the last one. -/
inductive Splits : List Char → List Part → List Char → Prop
  /-- No opening has a closing behind it. -/
  | last {s : List Char} (h : ∀ a b c, s ≠ a ++ opening ++ (b ++ closing ++ c)) : Splits s [] s
  /-- The first opening has one, and the placeholder ends at the first of them. -/
  | part {s literal content behind rest last : List Char} {parts : List Part}
      (hopen : Text.IsFirstCut opening s literal behind)
      (hclose : Text.IsFirstCut closing behind content rest)
      (hrest : Splits rest parts last) : Splits s (⟨literal, content⟩ :: parts) last

/-- A text with something in the place of each placeholder. -/
def filled (shown : Part → List Char) (parts : List Part) (last : List Char) : List Char :=
  parts.flatMap (fun p => p.literal ++ shown p) ++ last

variable {s last last' : List Char} {parts parts' : List Part} {template : String}

@[simp] theorem filled_nil (shown : Part → List Char) (last : List Char) :
    filled shown [] last = last := rfl

@[simp] theorem filled_cons (shown : Part → List Char) (p : Part) (parts : List Part)
    (last : List Char) :
    filled shown (p :: parts) last = p.literal ++ shown p ++ filled shown parts last := by
  simp [filled]

/-! ### One way to come apart -/

/-- The parts are those of the text. -/
theorem Splits.eq_filled (h : Splits s parts last) : s = filled Part.itself parts last := by
  induction h with
  | last h => rfl
  | @part s literal content behind rest last parts hopen hclose hrest ih =>
    rw [filled_cons, ← ih, hopen.eq_append, hclose.eq_append]
    simp [Part.itself]

theorem Splits.unique (h : Splits s parts last) (h' : Splits s parts' last') :
    parts = parts' ∧ last = last' := by
  -- a text with a placeholder is not the last one
  have hends : ∀ {s literal behind content rest : List Char},
      Text.IsFirstCut opening s literal behind → Text.IsFirstCut closing behind content rest →
        ¬ ∀ a b c, s ≠ a ++ opening ++ (b ++ closing ++ c) := by
    intro s literal behind content rest hopen hclose hnone
    exact hnone literal content rest (by rw [← hclose.eq_append, ← hopen.eq_append])
  induction h generalizing parts' last' with
  | last hnone =>
    cases h' with
    | last _ => exact ⟨rfl, rfl⟩
    | part hopen hclose _ => exact absurd hnone (hends hopen hclose)
  | part hopen hclose hrest ih =>
    cases h' with
    | last hnone => exact absurd hnone (hends hopen hclose)
    | part hopen' hclose' hrest' =>
      obtain ⟨rfl, rfl⟩ := hopen.unique hopen'
      obtain ⟨rfl, rfl⟩ := hclose.unique hclose'
      obtain ⟨rfl, rfl⟩ := ih hrest'
      exact ⟨rfl, rfl⟩

/-! ### Segments -/

/-- The segments that some parts are. -/
def segmentsOf (parts : List Part) (last : List Char) : List Segment :=
  parts.flatMap (fun p => [.literal p.literal, .placeholder p.content]) ++ [.literal last]

/-- A template is cut into the segments of its parts. -/
theorem exists_splits (s : List Char) :
    ∃ parts last, Splits s parts last ∧ segments s = segmentsOf parts last := by
  -- by the recursion of the cuts: nothing opens, nothing closes, or a placeholder stands in front
  fun_induction segments s with
  | case1 s hopen =>
    refine ⟨[], s, .last fun a b c hs => ?_, rfl⟩
    exact Text.cutAt?_eq_none_iff.mp hopen ⟨a, b ++ closing ++ c, hs.symm⟩
  | case2 s before behind hopen hclose =>
    refine ⟨[], s, .last fun a b c hs => ?_, rfl⟩
    have hbehind := (Text.cutAt?_eq_some_iff.mp hopen).occurs_behind hs
    exact Text.cutAt?_eq_none_iff.mp hclose hbehind
  | case3 s before behind hopen content rest hclose ih =>
    obtain ⟨parts, last, hsplits, hsegments⟩ := ih
    refine ⟨⟨before, content⟩ :: parts, last, ?_, by rw [hsegments]; rfl⟩
    exact .part (Text.cutAt?_eq_some_iff.mp hopen) (Text.cutAt?_eq_some_iff.mp hclose) hsplits

theorem render_placeholder_eq (lookup : String → Option String) (p : Part) :
    (Segment.placeholder p.content).render lookup = p.shown lookup := by
  unfold Segment.render Part.shown
  by_cases hname : nameOf p.content = ""
  · simp [hname, Part.itself]
  · cases hvalue : lookup (nameOf p.content) <;> simp [hname, hvalue, Part.itself]

theorem render_segmentsOf (lookup : String → Option String) (parts : List Part)
    (last : List Char) :
    (segmentsOf parts last).flatMap (·.render lookup) = filled (·.shown lookup) parts last := by
  induction parts with
  | nil => simp [segmentsOf, Segment.render]
  | cons p parts ih =>
    have hcons : segmentsOf (p :: parts) last =
        .literal p.literal :: .placeholder p.content :: segmentsOf parts last := rfl
    rw [hcons, List.flatMap_cons, List.flatMap_cons, render_placeholder_eq, ih, filled_cons,
      List.append_assoc]
    rfl

theorem names_segmentsOf (parts : List Part) (last : List Char) :
    names (segmentsOf parts last) = parts.map fun p => nameOf p.content := by
  induction parts with
  | nil => rfl
  | cons p parts ih => exact congrArg (nameOf p.content :: ·) ih

/-! ### Names -/

/-- The list without later repetitions, in words of the standard library. -/
theorem distinct_eq {α : Type} [DecidableEq α] (xs : List α) : distinct xs = xs.eraseDups := by
  have hstep : ∀ seen : List α, xs.foldl (fun seen x => if x ∈ seen then seen else seen ++ [x])
      seen = seen ++ (xs.filter (· ∉ seen)).eraseDups := by
    induction xs with
    | nil => simp
    | cons x rest ih =>
      intro seen
      rw [List.foldl_cons, ih]
      by_cases hx : x ∈ seen
      · simp [hx]
      · have hrest : rest.filter (· ∉ seen ++ [x]) =
            (rest.filter (· ∉ seen)).filter (fun y => !y == x) := by
          rw [List.filter_filter]
          refine List.filter_congr fun y _ => ?_
          by_cases hy : y = x <;> simp [hy]
        rw [if_neg hx, hrest, List.filter_cons_of_pos (by simpa using hx), List.eraseDups_cons]
        simp
  have hnil := hstep []
  simpa [distinct] using hnil

theorem mem_eraseDups_map {p : Part} (h : p ∈ parts) :
    nameOf p.content ∈ (parts.map fun p => nameOf p.content).eraseDups := by
  rw [List.mem_eraseDups]
  exact List.mem_map_of_mem h

/-- What is filled in depends on what is shown for the parts alone. -/
theorem filled_congr {shown shown' : Part → List Char} (h : ∀ p ∈ parts, shown p = shown' p)
    (last : List Char) : filled shown parts last = filled shown' parts last := by
  induction parts with
  | nil => rfl
  | cons p parts ih =>
    rw [filled_cons, filled_cons, h p List.mem_cons_self,
      ih fun p hp => h p (List.mem_cons_of_mem _ hp)]

/-- Every template comes apart into text and placeholders in exactly one way. Rendering it puts
    values in the place of placeholders, for whatever values there are, and changes nothing else.
    Without values it is the template, and it depends on the values of the placeholders' names only,
    which are their trimmed contents in order, each once. -/
theorem splits_and_renders (template : String) :
    ∃ parts last, Splits template.toList parts last ∧
      (∀ parts' last', Splits template.toList parts' last' → parts' = parts ∧ last' = last) ∧
      template.toList = filled Part.itself parts last ∧
      (∀ lookup, (render template lookup).toList = filled (·.shown lookup) parts last) ∧
      render template (fun _ => none) = template ∧
      (∀ lookup lookup', (∀ name ∈ placeholders template, lookup name = lookup' name) →
        render template lookup = render template lookup') ∧
      placeholders template = (parts.map fun p => nameOf p.content).eraseDups := by
  obtain ⟨parts, last, hsplits, hsegments⟩ := exists_splits template.toList
  have hrender : ∀ lookup, render template lookup =
      String.ofList (filled (·.shown lookup) parts last) := by
    intro lookup
    unfold render
    rw [hsegments, render_segmentsOf]
  have hnames : placeholders template = (parts.map fun p => nameOf p.content).eraseDups := by
    unfold placeholders
    rw [hsegments, names_segmentsOf, distinct_eq]
  refine ⟨parts, last, hsplits, ?_, hsplits.eq_filled, ?_, render_none template, ?_, hnames⟩
  · intro parts' last' hsplits'
    exact hsplits'.unique hsplits
  · intro lookup
    rw [hrender, String.toList_ofList]
  · intro lookup lookup' hsame
    have hshown : ∀ p ∈ parts, p.shown lookup = p.shown lookup' := by
      intro p hp
      have hname := hsame (nameOf p.content) (hnames ▸ mem_eraseDups_map hp)
      unfold Part.shown
      rw [hname]
    rw [hrender, hrender, filled_congr hshown]

/-- The first opening counts, and the first closing behind it, however the braces lie. -/
example : render "\x7b\x7b\x7ba\x7d\x7d\x7d"
    (fun name => if name = "\x7ba" then some "x" else none) = "x\x7d" := by decide +kernel

end QueryDispatch.Template
