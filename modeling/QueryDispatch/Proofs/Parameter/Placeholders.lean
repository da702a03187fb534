import QueryDispatch.Proofs.Parameter.Selections
import QueryDispatch.Proofs.Text.Pieces

/-! # What placeholders show

  A placeholder stands for a parameter or, behind a point, for a part of one.
  So a value that was accepted shows at every placeholder with the name of its
  parameter, unless that name has a point itself: then the placeholder asks
  for a part of another parameter, and the value shows nowhere.
-/

namespace QueryDispatch

/-! ### Segments -/

namespace Template

variable {lookup : String → Option String} {template name value : String}
  {front back : List Segment} {content : List Char}

/-- A placeholder whose name is known. -/
theorem render_placeholder (hname : nameOf content = name) (hne : name ≠ "")
    (hvalue : lookup name = some value) :
    (Segment.placeholder content).render lookup = value.toList := by
  unfold Segment.render
  simp only [hname, if_neg hne, hvalue]

/-- A placeholder whose name is not. -/
theorem render_placeholder_unknown (hname : nameOf content = name) (hvalue : lookup name = none) :
    (Segment.placeholder content).render lookup = opening ++ content ++ closing := by
  unfold Segment.render
  simp only [hname, hvalue, ite_self]

/-- What a template is rendered to around one of its placeholders. -/
theorem toList_render (hs : segments template.toList = front ++ .placeholder content :: back) :
    (render template lookup).toList = front.flatMap (·.render lookup) ++
      ((Segment.placeholder content).render lookup ++ back.flatMap (·.render lookup)) := by
  unfold render
  rw [String.toList_ofList, hs, List.flatMap_append, List.flatMap_cons]

end Template

/-! ### Names with and without a point -/

namespace Bindings

variable {bindings : Bindings} {name : String} {b : BoundValue}

/-- A name without a point stands for what is bound to it. -/
theorem text?_of_plain (hpoint : '.' ∉ name.toList) :
    bindings.text? name = (bindings.lookup name).bind (·.render) := by
  unfold text?
  rw [Text.cutAt?_of_not_mem hpoint]

/-- A name with a point stands for a part of what is bound to the text in front of the point. -/
theorem text?_of_pointed {base part : List Char} (hname : name.toList = base ++ '.' :: part)
    (hbase : '.' ∉ base) : bindings.text? name =
      (bindings.lookup (String.ofList base)).bind (·.part (String.ofList part)) := by
  unfold text?
  rw [hname, Text.cutAt?_append hbase]

end Bindings

namespace ParameterKind

variable {kind : ParameterKind} {name : String} {value : Json} {b : BoundValue}

/-- A value that is checked as one text has it. -/
theorem render_of_single {checked : Except InvalidValue String}
    (h : (checked.map BoundValue.single).mapError (ParameterError.invalid name) = .ok b) :
    ∃ text, b.render = some text := by
  obtain ⟨text, -, rfl⟩ := map_eq_ok.mp (mapError_eq_ok.mp h)
  exact ⟨text, rfl⟩

/-- Only a range has no text of its own. -/
theorem render_of_check {resolver : Option DropdownResolver} (hkind : kind ≠ .dateRange)
    (h : kind.check name value resolver = .ok b) : ∃ text, b.render = some text := by
  cases kind with
  | text =>
    cases value with
    | string s =>
      obtain rfl := Except.ok.inj h
      exact ⟨s, rfl⟩
    | _ => cases h
  | number => exact render_of_single h
  | choice options multi => exact exists_render_of_select (mapError_eq_ok.mp h)
  | dropdown query multi =>
    unfold check at h
    cases resolver with
    | none => cases h
    | some resolve =>
      simp only at h
      cases hresolve : resolve query with
      | error e =>
        rw [hresolve] at h
        cases h
      | ok options =>
        rw [hresolve] at h
        exact exists_render_of_select (mapError_eq_ok.mp h)
  | date => exact render_of_single h
  | dateMinute => exact render_of_single h
  | dateSecond => exact render_of_single h
  | dateRange => exact absurd rfl hkind

end ParameterKind

/-! ### Accepted values -/

namespace ParameterizedQuery

variable {calls : List JsonFields} {name : String} {value : Json} {d : ParameterDefinition}

/-- The value that calls gave last for a parameter, among those that were accepted, has a text. At
    every placeholder with the name of the parameter the query shows this text if the name has no
    point. If it has one, the query shows the part of another parameter there, or the placeholder
    itself, and the value shows nowhere. -/
theorem accepted_value_shown (template : String) (definitions : List ParameterDefinition)
    (resolver : Option DropdownResolver) (ho : ∀ values ∈ calls, values.Ordered)
    (hd : (of template definitions resolver).definition? name = some d)
    (hkind : d.kind ≠ .dateRange) (hne : name ≠ "")
    (hlast : lastGiven ((of template definitions resolver).accepted calls) name = some value) :
    let start := of template definitions resolver
    let q := start.afterCalls calls
    ∃ b text, start.checkValue name value = .ok b ∧ b.render = some text ∧
      ∀ front content back,
        Template.segments template.toList = front ++ .placeholder content :: back →
        Template.nameOf content = name →
        let before := front.flatMap (·.render q.bindings.text?)
        let behind := back.flatMap (·.render q.bindings.text?)
        ('.' ∉ name.toList → q.text.toList = before ++ (text.toList ++ behind)) ∧
        ∀ base part, name.toList = base ++ '.' :: part → '.' ∉ base →
          let other := (q.bindings.lookup (String.ofList base)).bind (·.part (String.ofList part))
          let itself := Template.opening ++ content ++ Template.closing
          q.text.toList = before ++ ((other.map (·.toList)).getD itself ++ behind) := by
  intro start q
  have hq : q.Holds start fun name => (lastGiven (start.accepted calls) name).or none :=
    (Holds.of template definitions resolver).afterCalls ho
  obtain ⟨b, hb, hbound⟩ := hq.bound name value (by rw [Option.or_none]; exact hlast)
  obtain ⟨text, htext⟩ : ∃ text, b.render = some text := by
    have hcheck : d.kind.check name value resolver = .ok b := by
      have hvalue : start.checkValue name value = d.kind.check name value resolver := by
        unfold checkValue
        rw [hd]
        rfl
      rw [← hvalue, hb]
    exact ParameterKind.render_of_check hkind hcheck
  refine ⟨b, text, hb, htext, ?_⟩
  intro front content back hsegments hname before behind
  have hshown : q.text.toList = before ++
      ((Template.Segment.placeholder content).render q.bindings.text? ++ behind) := by
    rw [hq.text_eq]
    exact Template.toList_render hsegments
  refine ⟨?_, ?_⟩
  · intro hpoint
    have hlookup : q.bindings.text? name = some text := by
      rw [Bindings.text?_of_plain hpoint, hbound, Option.bind_some, htext]
    rw [hshown, Template.render_placeholder hname hne hlookup]
  · intro base part hsplit hbase other itself
    have hlookup : q.bindings.text? name = other := Bindings.text?_of_pointed hsplit hbase
    rw [hshown]
    cases hother : other with
    | some text' =>
      rw [Template.render_placeholder hname hne (hlookup.trans hother)]
      rfl
    | none =>
      rw [Template.render_placeholder_unknown hname (hlookup.trans hother)]
      rfl

/-- A value that is given after a rejected call. -/
theorem accepted_value_shown_limit :
    let start := of "LIMIT \x7b\x7b n \x7d\x7d" [.plain "n" .number] none
    (start.afterCalls [[("n", .bool true)], [("n", .int 10)]]).text = "LIMIT 10" := by
  intro start
  have ho : ∀ values ∈ [[("n", Json.bool true)], [("n", .int 10)]], JsonFields.Ordered values := by
    unfold JsonFields.Ordered
    decide
  have hlast : lastGiven (start.accepted [[("n", .bool true)], [("n", .int 10)]]) "n" =
      some (.int 10) := rfl
  obtain ⟨b, text, hb, htext, hshown⟩ := accepted_value_shown "LIMIT \x7b\x7b n \x7d\x7d"
    [.plain "n" .number] none ho rfl (by decide) (by decide) hlast
  obtain rfl : text = "10" := by
    obtain rfl := Except.ok.inj hb
    exact (Option.some.inj htext).symm.trans (by decide)
  have hplain := (hshown [.literal "LIMIT ".toList] " n ".toList [.literal []] (by decide +kernel)
    (by decide)).1 (by decide)
  exact String.toList_inj.mp hplain

/-- A parameter with a point in its name: its value is accepted, nothing is missing, and the
    placeholder stays. -/
theorem value_behind_point_not_shown :
    ∃ q, (of "SELECT \x7b\x7b t.id \x7d\x7d" [.plain "t.id" .text] none).apply
        [("t.id", .string "7")] = .ok q ∧
      q.text = "SELECT \x7b\x7b t.id \x7d\x7d" ∧ q.missing = [] := by
  refine ⟨_, rfl, ?_, rfl⟩
  decide +kernel

end ParameterizedQuery

end QueryDispatch
