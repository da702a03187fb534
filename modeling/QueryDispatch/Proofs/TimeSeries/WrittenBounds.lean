import QueryDispatch.Proofs.Data.Chains
import QueryDispatch.Proofs.Json.Entries
import QueryDispatch.Proofs.Text.FormData
import QueryDispatch.TimeSeries.QueryText

/-! # Bounds that a request writes

  Explicit bounds are written into a query text as they are, and the text is
  read as form data. So a bound arrives as what it stands for there: itself, as
  long as it has no `&`, no `+` and no `%`, and another text otherwise.
-/

namespace QueryDispatch

/-! ### The bound now -/

/-- No time before an instant is the instant itself. -/
theorem Instant.before?_zero (t : Instant) : t.before? 0 = some t := by
  obtain ⟨seconds, nanosecond, hspan, hnano⟩ := t
  have hof : Instant.of? seconds nanosecond = some ⟨seconds, nanosecond, hspan, hnano⟩ :=
    dif_pos ⟨hspan, hnano⟩
  unfold Instant.before?
  by_cases hleap : 1000000000 ≤ nanosecond
  · rw [if_pos ⟨hleap, by omega⟩]
    exact hof
  · have hwhole : (seconds * 1000000000 + (nanosecond : Int)) / 1000000000 = seconds := by omega
    have hrest : ((seconds * 1000000000 + (nanosecond : Int)) % 1000000000).toNat = nanosecond := by
      omega
    rw [if_neg fun h => hleap h.1]
    simp only [Instant.ofNanoseconds?, Instant.nanoseconds, Nat.zero_mul, Int.natCast_zero,
      Int.sub_zero, hwhole, hrest]
    exact hof

theorem TimeBound.resolve_now (now : Instant) :
    TimeBound.resolve "now" now = .ok (TimeBound.secondsText now) := by
  rw [TimeBound.resolve, if_pos rfl, TimeBound.earlier, Instant.before?_zero]

/-! ### Parameters -/

namespace Parameters

variable {params : Parameters} {name value : String}

theorem lookup_set (name value : String) (params : Parameters) (other : String) :
    (params.set name value).lookup other =
      if other = name then some value else params.lookup other := by
  induction params with
  | nil => exact lookup_cons_eq_ite name value [] other
  | cons first rest ih =>
    obtain ⟨n, v⟩ := first
    unfold set
    by_cases heq : n = name
    · subst heq
      rw [if_pos rfl, lookup_cons_eq_ite, lookup_cons_eq_ite]
      split <;> rfl
    · rw [if_neg heq, lookup_cons_eq_ite, ih, lookup_cons_eq_ite]
      -- the value stands behind this name, which is another one
      grind

/-- A new name goes to the end. -/
theorem addNew_of_new (hvalue : value ≠ "") (hname : ∀ pair ∈ params, pair.1 ≠ name) :
    params.addNew (name, value) = params ++ [(name, value)] := by
  have hempty : value.isEmpty = false := by
    cases h : value.isEmpty with
    | false => rfl
    | true => exact absurd (String.isEmpty_iff.mp h) hvalue
  have hany : params.any (·.1 == name) = false := by
    rw [List.any_eq_false]
    intro pair hpair
    simp [hname pair hpair]
  unfold addNew
  simp only [hempty, hany, Bool.or_self, Bool.false_eq_true, if_false]

end Parameters

/-! ### Resolving -/

namespace ResolvedQuery

variable {text start finish : String} {now : Instant} {r : ResolvedQuery}

/-- The parameters with resolved bounds, and a step. -/
def bounded (params : Parameters) (finish start : String) : ResolvedQuery :=
  let hasStep := (params.lookup "step").isSome
  let bounded := (params.set "end" finish).set "start" start
  ⟨if hasStep then bounded else bounded.set "step" defaultStep, hasStep⟩

theorem of_eq (text : String) (now : Instant) :
    of text now =
      (TimeBound.resolve (((given text).lookup "end").getD "now") now).bind fun finish =>
      (match (given text).lookup "start" with
        | some start => TimeBound.resolve start now
        | none => TimeBound.earlier "now" now defaultWindow).map (bounded (given text) finish) := by
  unfold of bounded
  simp only [bind, Except.bind, pure, Except.pure]
  generalize given text = params
  cases TimeBound.resolve ((params.lookup "end").getD "now") now with
  | error fault => rfl
  | ok finish =>
    cases params.lookup "start" with
    | none =>
      simp only
      cases TimeBound.earlier "now" now defaultWindow <;> rfl
    | some start =>
      simp only
      cases TimeBound.resolve start now <;> rfl

theorem get?_bounded (params : Parameters) (finish start name : String) :
    (bounded params finish start).get? name =
      if name = "start" then some start
      else if name = "end" then some finish
      else if name = "step" then some ((params.lookup "step").getD defaultStep)
      else params.lookup name := by
  unfold bounded get?
  cases hstep : params.lookup "step" with
  | some step =>
    simp only [Option.isSome_some, if_true, Parameters.lookup_set]
    grind
  | none =>
    simp only [Option.isSome_none, Bool.false_eq_true, if_false, Parameters.lookup_set]
    grind

/-- Resolving changes nothing of the query itself. -/
theorem get?_query_of (h : of text now = .ok r) : r.get? "query" = (given text).lookup "query" := by
  rw [of_eq] at h
  obtain ⟨finish, -, h⟩ := bind_eq_ok.mp h
  obtain ⟨start, -, rfl⟩ := map_eq_ok.mp h
  rw [get?_bounded]
  rfl

/-- A text that gives both bounds is resolved as soon as both are. -/
theorem of_eq_ok_iff (hstart : (given text).lookup "start" = some start)
    (hend : (given text).lookup "end" = some finish) :
    of text now = .ok r ↔ ∃ b, TimeBound.resolve finish now = .ok b ∧
      ∃ a, TimeBound.resolve start now = .ok a ∧ bounded (given text) b a = r := by
  rw [of_eq, hstart, hend, bind_eq_ok]
  simp only [map_eq_ok]
  rfl

/-! ### Written bounds -/

/-- The query itself as it is read: a text that does not start with `query=` is its value. -/
def asQuery (s : List Char) : List Char :=
  if (Text.after? "query=".toList s).isSome then s else "query=".toList ++ s

theorem given_eq (text : String) :
    given text = (FormData.read (asQuery text.toList)).foldl Parameters.addNew [] := rfl

theorem asQuery_eq (s : List Char) : ∃ value, asQuery s = "query".toList ++ '=' :: value ∧
    ∀ c ∈ value, c ∈ s := by
  unfold asQuery
  cases hafter : Text.after? "query=".toList s with
  | none => exact ⟨s, rfl, fun c hc => hc⟩
  | some value =>
    have hs := Text.eq_of_after? hafter
    refine ⟨value, hs, ?_⟩
    intro c hc
    rw [hs]
    exact List.mem_append_right _ hc

theorem asQuery_append (s t : List Char) : asQuery (s ++ '&' :: t) = asQuery s ++ '&' :: t := by
  have hmark : '&' ∉ "query=".toList := by decide
  unfold asQuery
  rw [Text.after?_append_of_not_mem hmark, Option.isSome_map]
  split
  · rfl
  · rw [List.append_assoc]

/-- The text in front of the first `&`. -/
def queryPart (text : String) : String := String.ofList (text.toList.takeWhile (· != '&'))

theorem not_mem_queryPart (text : String) : '&' ∉ (queryPart text).toList := by
  intro hmem
  unfold queryPart at hmem
  rw [String.toList_ofList] at hmem
  have hne := List.all_eq_true.mp List.all_takeWhile _ hmem
  simp at hne

/-- It is read as one pair, whose name is `query`. -/
theorem read_queryPart (text : String) :
    ∃ value, FormData.read (asQuery (queryPart text).toList) = [("query", value)] ∧
      ∀ t, FormData.read (asQuery (queryPart text).toList ++ '&' :: t) =
        ("query", value) :: FormData.read t := by
  obtain ⟨value, hvalue, hsub⟩ := asQuery_eq (queryPart text).toList
  have hmark : '&' ∉ asQuery (queryPart text).toList := by
    have hmem : '&' ∉ value := fun hmem => not_mem_queryPart text (hsub _ hmem)
    rw [hvalue]
    simp [hmem]
  have hpiece : asQuery (queryPart text).toList ≠ [] := by
    rw [hvalue]
    simp
  have hpair : FormData.readPair (asQuery (queryPart text).toList) =
      ("query", FormData.decode value) := by
    rw [hvalue, FormData.readPair_append (by decide),
      FormData.decode_eq_self (by decide) (by decide)]
    rfl
  refine ⟨FormData.decode value, ?_, ?_⟩
  · rw [FormData.read_piece hpiece hmark, hpair]
  · intro t
    rw [FormData.read_append hpiece hmark, hpair]

/-- The query part alone gives at most the query. -/
theorem name_of_given_queryPart (text : String) :
    ∀ pair ∈ given (queryPart text), pair.1 = "query" := by
  obtain ⟨value, hread, -⟩ := read_queryPart text
  rw [given_eq, hread]
  intro pair hmem
  simp only [List.foldl_cons, List.foldl_nil, Parameters.addNew] at hmem
  split at hmem
  · cases hmem
  · rw [List.mem_singleton.mp hmem]

theorem toList_apply (text start finish : String) :
    (TimeRange.apply ⟨some start, some finish⟩ text).toList = (queryPart text).toList ++
      '&' :: (("start".toList ++ '=' :: start.toList) ++
        '&' :: ("end".toList ++ '=' :: finish.toList)) := by
  unfold TimeRange.apply TimeRange.parameter queryPart
  simp only [Option.isNone_some, Bool.and_self, Bool.false_eq_true, if_false, String.toList_ofList,
    List.append_assoc, List.cons_append]

/-- Written bounds are read as what they stand for, behind the query. -/
theorem given_apply (hstart : start ≠ "") (hfinish : finish ≠ "") (hmark : '&' ∉ start.toList)
    (hmark' : '&' ∉ finish.toList) (text : String) :
    given (TimeRange.apply ⟨some start, some finish⟩ text) = given (queryPart text) ++
      [("start", FormData.decode start.toList), ("end", FormData.decode finish.toList)] := by
  have hne : ∀ s : String, s ≠ "" → FormData.decode s.toList ≠ "" := by
    intro s hs
    exact FormData.decode_ne_empty fun hnil => hs (String.toList_eq_nil_iff.mp hnil)
  have hread : FormData.read (("start".toList ++ '=' :: start.toList) ++
      '&' :: ("end".toList ++ '=' :: finish.toList)) =
      [("start", FormData.decode start.toList), ("end", FormData.decode finish.toList)] := by
    have hstartName : FormData.decode "start".toList = "start" :=
      FormData.decode_eq_self (by decide) (by decide)
    have hendName : FormData.decode "end".toList = "end" :=
      FormData.decode_eq_self (by decide) (by decide)
    rw [FormData.read_append (by simp) (by simp [hmark]),
      FormData.read_piece (by simp) (by simp [hmark']), FormData.readPair_append (by decide),
      FormData.readPair_append (by decide), hstartName, hendName]
  have hnames := name_of_given_queryPart text
  obtain ⟨value, hone, hmore⟩ := read_queryPart text
  rw [given_eq] at hnames ⊢
  rw [given_eq, toList_apply, asQuery_append, hmore, hread]
  rw [hone] at hnames ⊢
  simp only [List.foldl_cons, List.foldl_nil] at hnames ⊢
  rw [Parameters.addNew_of_new (hne start hstart), Parameters.addNew_of_new (hne finish hfinish),
    List.append_assoc]
  · rfl
  · intro pair hmem
    rcases List.mem_append.mp hmem with hmem | hmem
    · rw [hnames pair hmem]
      decide
    · rw [List.mem_singleton.mp hmem]
      show "start" ≠ "end"
      decide
  · intro pair hmem
    rw [hnames pair hmem]
    decide

/-- The two bounds are found under their names, whatever the query is. -/
theorem lookup_given_apply (hstart : start ≠ "") (hfinish : finish ≠ "")
    (hmark : '&' ∉ start.toList) (hmark' : '&' ∉ finish.toList) (text : String) :
    let params := given (TimeRange.apply ⟨some start, some finish⟩ text)
    params.lookup "start" = some (FormData.decode start.toList) ∧
      params.lookup "end" = some (FormData.decode finish.toList) ∧
      params.lookup "query" = (given (queryPart text)).lookup "query" := by
  have hnames := name_of_given_queryPart text
  intro params
  have hparams : params = given (queryPart text) ++
      [("start", FormData.decode start.toList), ("end", FormData.decode finish.toList)] :=
    given_apply hstart hfinish hmark hmark' text
  rw [hparams]
  generalize given (queryPart text) = query at hnames
  induction query with
  | nil => exact ⟨rfl, rfl, rfl⟩
  | cons first rest ih =>
    obtain ⟨name, value⟩ := first
    obtain rfl : name = "query" := hnames _ List.mem_cons_self
    obtain ⟨h1, h2, -⟩ := ih fun pair hpair => hnames pair (List.mem_cons_of_mem _ hpair)
    exact ⟨h1, h2, rfl⟩

/-- Bounds without `&` that are written into a query text, and the text resolved: it succeeds when
    what each bound stands for as form data can be resolved, and these are then the bounds, beside
    the query that the query part gives by itself. A bound without `+` and `%` stands for itself. -/
theorem written_bounds_resolved (text start finish : String) (now : Instant) (hstart : start ≠ "")
    (hfinish : finish ≠ "") (hmark : '&' ∉ start.toList) (hmark' : '&' ∉ finish.toList) :
    let written := TimeRange.apply ⟨some start, some finish⟩ text
    let first := TimeBound.resolve (FormData.decode start.toList) now
    let last := TimeBound.resolve (FormData.decode finish.toList) now
    ((∃ r, of written now = .ok r) ↔ (∃ a, first = .ok a) ∧ ∃ b, last = .ok b) ∧
    (∀ r, of written now = .ok r →
      (∃ a, first = .ok a ∧ r.get? "start" = some a) ∧
      (∃ b, last = .ok b ∧ r.get? "end" = some b) ∧
      ∀ r' now', of (queryPart text) now' = .ok r' → r.get? "query" = r'.get? "query") ∧
    TimeBound.resolve "now" now = .ok (TimeBound.secondsText now) ∧
    ∀ bound ∈ [start, finish], '+' ∉ bound.toList → '%' ∉ bound.toList →
      FormData.decode bound.toList = bound := by
  intro written first last
  obtain ⟨hfirst, hlast, hquery⟩ := lookup_given_apply hstart hfinish hmark hmark' text
  have hof : ∀ r, of written now = .ok r ↔
      ∃ b, last = .ok b ∧ ∃ a, first = .ok a ∧ bounded (given written) b a = r :=
    fun r => of_eq_ok_iff hfirst hlast
  refine ⟨⟨?_, ?_⟩, ?_, TimeBound.resolve_now now, ?_⟩
  · rintro ⟨r, hr⟩
    obtain ⟨b, hb, a, ha, -⟩ := (hof r).mp hr
    exact ⟨⟨a, ha⟩, b, hb⟩
  · rintro ⟨⟨a, ha⟩, b, hb⟩
    exact ⟨_, (hof _).mpr ⟨b, hb, a, ha, rfl⟩⟩
  · intro r hr
    obtain ⟨b, hb, a, ha, rfl⟩ := (hof r).mp hr
    refine ⟨⟨a, ha, ?_⟩, ⟨b, hb, ?_⟩, ?_⟩
    · rw [get?_bounded, if_pos rfl]
    · rw [get?_bounded, if_neg (by decide), if_pos rfl]
    · intro r' now' hr'
      rw [get?_query_of hr, get?_query_of hr']
      exact hquery
  · intro bound _ hplus hpercent
    rw [FormData.decode_eq_self hplus hpercent, String.ofList_toList]

/-- The last six hours, in place of the bounds that the text has. -/
theorem written_bounds_resolved_six_hours :
    ∃ r,
      of (TimeRange.apply ⟨some "now-6h", some "now"⟩ "rate(x[5m])&start=now-1d") .epoch = .ok r ∧
      r.get? "start" = some "-21600" ∧ r.get? "end" = some "0" ∧
      r.get? "query" = some "rate(x[5m])" := by
  obtain ⟨hsucceeds, hparams, hnow, hplain⟩ := written_bounds_resolved "rate(x[5m])&start=now-1d"
    "now-6h" "now" .epoch (by decide) (by decide) (by decide) (by decide)
  have hstart : FormData.decode "now-6h".toList = "now-6h" :=
    hplain _ (by simp) (by decide) (by decide)
  have hend : FormData.decode "now".toList = "now" := hplain _ (by simp) (by decide) (by decide)
  have hfirst : TimeBound.resolve "now-6h" .epoch = .ok "-21600" :=
    eq_ok_of_toOption (by decide +kernel)
  rw [hstart, hend, hnow] at hsucceeds hparams
  obtain ⟨r, hr⟩ := hsucceeds.mpr ⟨⟨_, hfirst⟩, _, rfl⟩
  obtain ⟨⟨a, ha, hgeta⟩, ⟨b, hb, hgetb⟩, hquery⟩ := hparams r hr
  rw [hfirst] at ha
  obtain rfl := Except.ok.inj ha
  obtain rfl := Except.ok.inj hb
  -- the query part by itself asks for the last hour
  obtain ⟨r', hr', hget⟩ : ∃ r',
      (of (queryPart "rate(x[5m])&start=now-1d") .epoch).toOption = some r' ∧
      r'.get? "query" = some "rate(x[5m])" := Option.bind_eq_some_iff.mp (by decide +kernel)
  exact ⟨r, hr, hgeta, hgetb, (hquery r' .epoch (eq_ok_of_toOption hr')).trans hget⟩

/-- A time with an offset does not arrive: its `+` is read as a blank. -/
theorem bound_with_offset_altered :
    TimeBound.resolve "2018-01-20T00:00:00+02:00" .epoch = .ok "2018-01-20T00:00:00+02:00" ∧
      ∃ r, of (TimeRange.apply ⟨some "2018-01-20T00:00:00+02:00", some "1516838400"⟩ "up") .epoch =
          .ok r ∧ r.get? "start" = some "2018-01-20T00:00:00 02:00" := by
  refine ⟨eq_ok_of_toOption (by decide +kernel), ?_⟩
  obtain ⟨r, hr, hget⟩ := Option.bind_eq_some_iff.mp (show (of (TimeRange.apply
    ⟨some "2018-01-20T00:00:00+02:00", some "1516838400"⟩ "up") .epoch).toOption.bind
      (·.get? "start") = some "2018-01-20T00:00:00 02:00" by decide +kernel)
  exact ⟨r, eq_ok_of_toOption hr, hget⟩

end ResolvedQuery

end QueryDispatch
