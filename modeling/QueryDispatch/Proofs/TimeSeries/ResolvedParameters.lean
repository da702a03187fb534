import QueryDispatch.Proofs.TimeSeries.RelativeBounds

/-! # The parameters of a resolved text

  Of the values that a text gives to a name the first one that is not empty
  counts. Names stand in the order in which they get their value, bounds and
  step among them; those that the text leaves out come behind.
-/

namespace QueryDispatch

namespace Parameters

variable {params : Parameters} {pairs : List (String × String)} {name value : String}

/-! ### What pairs give -/

/-- The first value of a name that is not empty. -/
def firstValue? (pairs : List (String × String)) (name : String) : Option String :=
  (pairs.find? fun pair => pair.1 = name ∧ pair.2 ≠ "").map Prod.snd

/-- The names of the pairs with a value. -/
def namesWithValue (pairs : List (String × String)) : List String :=
  (pairs.filter fun pair => pair.2 ≠ "").map Prod.fst

/-- The names of parameters, in order. -/
def names (params : Parameters) : List String := params.map Prod.fst

/-- Every parameter has a name of its own and a value. -/
structure Proper (params : Parameters) : Prop where
  nodup : params.names.Nodup
  filled : ∀ pair ∈ params, pair.2 ≠ ""

theorem firstValue?_cons (name value : String) (rest : List (String × String)) (other : String) :
    firstValue? ((name, value) :: rest) other =
      if name = other ∧ value ≠ "" then some value else firstValue? rest other := by
  unfold firstValue?
  rw [List.find?_cons]
  by_cases h : name = other ∧ value ≠ ""
  · rw [if_pos h, decide_eq_true h]
    rfl
  · rw [if_neg h, decide_eq_false h]

theorem namesWithValue_cons (name value : String) (rest : List (String × String)) :
    namesWithValue ((name, value) :: rest) =
      if value = "" then namesWithValue rest else name :: namesWithValue rest := by
  unfold namesWithValue
  rw [List.filter_cons]
  by_cases h : value = "" <;> simp [h]

theorem names_cons (name value : String) (rest : Parameters) :
    names ((name, value) :: rest) = name :: names rest := rfl

theorem mem_names_iff : name ∈ params.names ↔ (params.lookup name).isSome = true := by
  induction params with
  | nil => simp [names]
  | cons first rest ih =>
    obtain ⟨n, v⟩ := first
    rw [lookup_cons_eq_ite, names_cons, List.mem_cons, ih]
    split <;> simp [*]

/-! ### Adding a pair -/

theorem addNew_eq (params : Parameters) (name value : String) :
    params.addNew (name, value) =
      if value = "" ∨ name ∈ params.names then params else params ++ [(name, value)] := by
  by_cases hempty : value = ""
  · subst hempty
    rfl
  · by_cases hname : name ∈ params.names
    · obtain ⟨pair, hpair, rfl⟩ := List.mem_map.mp hname
      have hany : params.any (·.1 == pair.1) = true := List.any_eq_true.mpr ⟨pair, hpair, by simp⟩
      unfold addNew
      rw [if_pos (Or.inr hname)]
      simp only [hany, Bool.or_true, if_true]
    · rw [if_neg (by simp [hempty, hname])]
      refine addNew_of_new hempty ?_
      rintro pair hpair rfl
      exact hname (List.mem_map_of_mem hpair)

theorem Proper.addNew (h : params.Proper) (pair : String × String) :
    (params.addNew pair).Proper := by
  obtain ⟨name, value⟩ := pair
  rw [addNew_eq]
  split
  · exact h
  · next hnew =>
    rw [not_or] at hnew
    constructor
    · unfold names at hnew ⊢
      rw [List.map_append, List.nodup_append]
      refine ⟨h.nodup, List.pairwise_singleton _ _, ?_⟩
      rintro other hother _ hmem rfl
      obtain rfl : other = name := List.mem_singleton.mp hmem
      exact hnew.2 hother
    · intro pair hpair
      rcases List.mem_append.mp hpair with hpair | hpair
      · exact h.filled pair hpair
      · rw [List.mem_singleton.mp hpair]
        exact hnew.1

theorem lookup_addNew (params : Parameters) (name value other : String) :
    (params.addNew (name, value)).lookup other =
      (params.lookup other).or (if name = other ∧ value ≠ "" then some value else none) := by
  rw [addNew_eq]
  split
  · next hold =>
    rcases hold with rfl | hname
    · simp
    · by_cases heq : name = other
      · subst heq
        obtain ⟨found, hfound⟩ := Option.isSome_iff_exists.mp (mem_names_iff.mp hname)
        rw [hfound, Option.some_or]
      · simp [heq]
  · next hnew =>
    -- the look-up goes past those that are there, to the new one
    have hvalue : value ≠ "" := fun hempty => hnew (Or.inl hempty)
    rw [List.lookup_append, lookup_cons_eq_ite, List.lookup_nil]
    congr 1
    by_cases heq : name = other
    · rw [if_pos heq.symm, if_pos ⟨heq, hvalue⟩]
    · rw [if_neg (Ne.symm heq), if_neg fun h => heq h.1]

/-! ### Adding all pairs -/

theorem Proper.addAll (h : params.Proper) (pairs : List (String × String)) :
    (pairs.foldl Parameters.addNew params).Proper := by
  induction pairs generalizing params with
  | nil => exact h
  | cons first rest ih => exact ih (h.addNew first)

theorem lookup_addAll (params : Parameters) (pairs : List (String × String)) (name : String) :
    (pairs.foldl addNew params).lookup name = (params.lookup name).or (firstValue? pairs name) := by
  induction pairs generalizing params with
  | nil => simp [firstValue?]
  | cons first rest ih =>
    obtain ⟨n, v⟩ := first
    rw [List.foldl_cons, ih, lookup_addNew, firstValue?_cons, Option.or_assoc]
    congr 1
    split <;> rfl

/-- The names that are new come behind those that are there. -/
theorem names_addAll (params : Parameters) (pairs : List (String × String)) :
    (pairs.foldl addNew params).names =
      params.names ++ ((namesWithValue pairs).filter (· ∉ params.names)).eraseDups := by
  induction pairs generalizing params with
  | nil => simp [namesWithValue]
  | cons first rest ih =>
    obtain ⟨n, v⟩ := first
    rw [List.foldl_cons, ih, addNew_eq, namesWithValue_cons]
    by_cases hempty : v = ""
    · rw [if_pos (Or.inl hempty), if_pos hempty]
    · by_cases hname : n ∈ params.names
      · rw [if_pos (Or.inr hname), if_neg hempty, List.filter_cons_of_neg (by simpa using hname)]
      · -- from now on the name is one of those that are there
        have hnames : names (params ++ [(n, v)]) = params.names ++ [n] := List.map_append
        have hfilter : (namesWithValue rest).filter (· ∉ params.names ++ [n]) =
            ((namesWithValue rest).filter (· ∉ params.names)).filter (!· == n) := by
          rw [List.filter_filter]
          refine List.filter_congr fun other _ => ?_
          by_cases heq : other = n <;> simp [heq]
        rw [if_neg (not_or.mpr ⟨hempty, hname⟩), if_neg hempty, hnames, hfilter,
          List.filter_cons_of_pos (by simpa using hname), List.eraseDups_cons, List.append_assoc]
        rfl

/-! ### Setting a value -/

theorem names_set (name value : String) (params : Parameters) :
    (params.set name value).names = params.names ++ [name].filter (· ∉ params.names) := by
  induction params with
  | nil => rfl
  | cons first rest ih =>
    obtain ⟨n, v⟩ := first
    unfold set
    by_cases heq : n = name
    · subst heq
      simp [names]
    · rw [if_neg heq, names_cons, ih, names_cons, List.cons_append]
      refine congrArg (n :: names rest ++ ·) (List.filter_congr fun other hother => ?_)
      obtain rfl := List.mem_singleton.mp hother
      simp [Ne.symm heq]

theorem mem_set {pair : String × String} (h : pair ∈ params.set name value) :
    pair.2 = value ∨ pair ∈ params := by
  induction params with
  | nil => exact Or.inl (congrArg Prod.snd (List.mem_singleton.mp h))
  | cons first rest ih =>
    obtain ⟨n, v⟩ := first
    unfold set at h
    split at h
    · rcases List.mem_cons.mp h with rfl | h
      · exact Or.inl rfl
      · exact Or.inr (List.mem_cons_of_mem _ h)
    · rcases List.mem_cons.mp h with rfl | h
      · exact Or.inr List.mem_cons_self
      · exact (ih h).imp_right (List.mem_cons_of_mem _)

theorem Proper.set (h : params.Proper) (name : String) (hvalue : value ≠ "") :
    (params.set name value).Proper := by
  constructor
  · rw [names_set, List.nodup_append]
    refine ⟨h.nodup, (List.nodup_singleton name).filter _, ?_⟩
    rintro other hother _ hmem rfl
    exact of_decide_eq_true (List.mem_filter.mp hmem).2 hother
  · intro pair hpair
    rcases mem_set hpair with heq | hpair
    · rw [heq]
      exact hvalue
    · exact h.filled pair hpair

end Parameters

/-! ### Bounds are never empty -/

namespace TimeBound

variable {value bound : String} {now : Instant} {d : Nat}

theorem ofList_intText_ne_empty (i : Int) : String.ofList (intText i) ≠ "" := by
  intro h
  have hempty : String.ofList (intText i) = String.ofList [] := h
  exact intText_ne_nil i (String.ofList_injective hempty)

theorem ne_empty_of_earlier (h : earlier value now d = .ok bound) : bound ≠ "" := by
  unfold earlier at h
  split at h
  · next t _ =>
    rw [← Except.ok.inj h]
    exact ofList_intText_ne_empty t.seconds
  · cases h

theorem ne_empty_of_resolve (hvalue : value ≠ "") (h : resolve value now = .ok bound) :
    bound ≠ "" := by
  by_cases hoffset : ∃ d, IsOffset value.toList d
  · obtain ⟨d, hd⟩ := hoffset
    rw [resolve_of_isOffset hd] at h
    exact ne_empty_of_earlier h
  · -- what is no offset is passed on, if it is no error
    have hsame : resolve value now = .ok value := by
      by_cases hmark : ∃ rest, IsBehindMark value.toList rest
      · obtain ⟨rest, hrest⟩ := hmark
        by_cases hnegated : IsNegated value.toList
        · exact (resolve_behind_mark hrest hoffset).2 hnegated
        · rw [(resolve_behind_mark hrest hoffset).1 hnegated] at h
          cases h
      · refine resolve_absolute ?_ hmark
        rintro rfl
        exact hoffset ⟨0, .now⟩
    rw [hsame] at h
    rwa [← Except.ok.inj h]

end TimeBound

/-! ### Resolved texts -/

namespace ResolvedQuery

open Parameters

variable {text : String} {now : Instant} {params : Parameters} {finish start : String}

/-- The pairs of a query text. -/
def pairs (text : String) : List (String × String) := FormData.read (asQuery text.toList)

/-- The names that are there in any case, in the order in which they are appended. -/
def settledNames : List String := ["end", "start", "step"]

/-- A given bound resolved, or else a bound of its own. -/
def boundOr (otherwise : String) (now : Instant) : Option String → Except FormatFault String
  | some value => TimeBound.resolve value now
  | none => .ok otherwise

/-- The second that lies an hour before an instant. -/
def hourBefore (now : Instant) : Int := (now.nanoseconds - 3600 * 1000000000) / 1000000000

theorem lookup_given (text name : String) :
    (given text).lookup name = firstValue? (pairs text) name := by
  rw [given_eq, lookup_addAll]
  rfl

theorem names_given (text : String) :
    (given text).names = (namesWithValue (pairs text)).eraseDups := by
  rw [given_eq, names_addAll]
  simp [names, pairs]

theorem proper_given (text : String) : (given text).Proper := by
  rw [given_eq]
  have hempty : Proper [] := ⟨List.nodup_nil, by simp⟩
  exact hempty.addAll _

theorem earlier_hour (h : (Instant.earliest + 3600) * 1000000000 ≤ now.nanoseconds) :
    TimeBound.earlier "now" now defaultWindow = .ok (String.ofList (intText (hourBefore now))) := by
  have hcount : now.nanoseconds = now.seconds * 1000000000 + now.nanosecond := rfl
  have hsecond : now.secondBefore defaultWindow = hourBefore now := by
    have hnano := now.is_instant.2
    unfold Instant.secondBefore hourBefore defaultWindow
    omega
  rw [TimeBound.earlier_eq, hsecond, if_neg (by unfold defaultWindow; omega)]

/-- Resolving, once the last hour is within the calendar. -/
theorem of_eq_bounds (h : (Instant.earliest + 3600) * 1000000000 ≤ now.nanoseconds) :
    of text now =
      (boundOr (TimeBound.secondsText now) now (firstValue? (pairs text) "end")).bind fun finish =>
        (boundOr (String.ofList (intText (hourBefore now))) now
          (firstValue? (pairs text) "start")).map (bounded (given text) finish) := by
  rw [of_eq, lookup_given, lookup_given, earlier_hour h]
  have hfinish : ∀ value : Option String, TimeBound.resolve (value.getD "now") now =
      boundOr (TimeBound.secondsText now) now value := by
    intro value
    cases value with
    | none => exact TimeBound.resolve_now now
    | some value => rfl
  rw [hfinish]
  rfl

theorem names_bounded (params : Parameters) (finish start : String) :
    (bounded params finish start).params.names =
      params.names ++ settledNames.filter (· ∉ params.names) := by
  unfold bounded settledNames
  -- whether a step is given decides how many values are set
  cases hstep : (params.lookup "step").isSome with
  | true =>
    have hmem := mem_names_iff.mpr hstep
    simp only [if_true, names_set]
    by_cases hend : "end" ∈ params.names <;> by_cases hstart : "start" ∈ params.names <;>
      simp [hend, hstart, hmem]
  | false =>
    have hmem : "step" ∉ params.names := by
      rw [mem_names_iff, hstep]
      decide
    simp only [Bool.false_eq_true, if_false, names_set]
    by_cases hend : "end" ∈ params.names <;> by_cases hstart : "start" ∈ params.names <;>
      simp [hend, hstart, hmem]

theorem proper_bounded (h : params.Proper) (hfinish : finish ≠ "") (hstart : start ≠ "") :
    (bounded params finish start).params.Proper := by
  have hbounds := (h.set "end" hfinish).set "start" hstart
  unfold bounded
  simp only
  split
  · exact hbounds
  · exact hbounds.set "step" (by decide)

theorem firstValue?_isSome_iff {pairs : List (String × String)} {name : String} :
    (firstValue? pairs name).isSome = true ↔ ∃ pair ∈ pairs, pair.1 = name ∧ pair.2 ≠ "" := by
  unfold firstValue?
  rw [Option.isSome_map, List.find?_isSome]
  simp

theorem ne_empty_of_firstValue? {pairs : List (String × String)} {name value : String}
    (h : firstValue? pairs name = some value) : value ≠ "" := by
  obtain ⟨pair, hpair, rfl⟩ := Option.map_eq_some_iff.mp h
  have hfound := List.find?_some hpair
  exact (of_decide_eq_true hfound).2

/-- Both bounds have a text. -/
theorem ne_empty_of_boundOr {name otherwise bound : String} (hother : otherwise ≠ "")
    (h : boundOr otherwise now (firstValue? (pairs text) name) = .ok bound) : bound ≠ "" := by
  cases hvalue : firstValue? (pairs text) name with
  | some value =>
    rw [hvalue] at h
    exact TimeBound.ne_empty_of_resolve (ne_empty_of_firstValue? hvalue) h
  | none =>
    rw [hvalue] at h
    rwa [← Except.ok.inj h]

/-- A query text resolved, once the last hour is within the calendar: it succeeds when the bounds
    that it gives can be resolved. Then each name has the first value that it got, names stand as
    they first got one, and bounds and step that were not given come behind in their order. The
    last hour stands in for the bounds, and a step that is given makes a query of a range. -/
theorem parameters_of_resolved (text : String) (now : Instant)
    (hnow : (Instant.earliest + 3600) * 1000000000 ≤ now.nanoseconds) :
    let given := (namesWithValue (pairs text)).eraseDups
    let finish := boundOr (TimeBound.secondsText now) now (firstValue? (pairs text) "end")
    let start := boundOr (String.ofList (intText (hourBefore now))) now
      (firstValue? (pairs text) "start")
    ((∃ r, of text now = .ok r) ↔ (∃ b, finish = .ok b) ∧ ∃ a, start = .ok a) ∧
    ∀ r, of text now = .ok r →
      r.params.names.Nodup ∧ (∀ pair ∈ r.params, pair.2 ≠ "") ∧
      r.params.names = given ++ settledNames.filter (· ∉ given) ∧
      (∀ name ∈ settledNames, r.params.names.count name = 1) ∧
      (∀ name ∉ settledNames, r.get? name = firstValue? (pairs text) name) ∧
      (∃ b, finish = .ok b ∧ r.get? "end" = some b) ∧
      (∃ a, start = .ok a ∧ r.get? "start" = some a) ∧
      r.get? "step" = some ((firstValue? (pairs text) "step").getD "1s") ∧
      r.queryType = if ∃ pair ∈ pairs text, pair.1 = "step" ∧ pair.2 ≠ "" then "query_range"
        else "query" := by
  intro given finish start
  -- success is that of the two bounds, and they decide what is resolved
  have hof : ∀ r, of text now = .ok r ↔ ∃ b, finish = .ok b ∧ ∃ a, start = .ok a ∧
      bounded (ResolvedQuery.given text) b a = r := by
    intro r
    rw [of_eq_bounds hnow, bind_eq_ok]
    simp only [map_eq_ok]
    rfl
  refine ⟨⟨?_, ?_⟩, ?_⟩
  · rintro ⟨r, hr⟩
    obtain ⟨b, hb, a, ha, -⟩ := (hof r).mp hr
    exact ⟨⟨b, hb⟩, a, ha⟩
  · rintro ⟨⟨b, hb⟩, a, ha⟩
    exact ⟨_, (hof _).mpr ⟨b, hb, a, ha, rfl⟩⟩
  · intro r hr
    obtain ⟨b, hb, a, ha, rfl⟩ := (hof r).mp hr
    have hproper := proper_bounded (proper_given text)
      (ne_empty_of_boundOr (TimeBound.ofList_intText_ne_empty _) hb)
      (ne_empty_of_boundOr (TimeBound.ofList_intText_ne_empty _) ha)
    have hnames := names_bounded (ResolvedQuery.given text) b a
    rw [names_given] at hnames
    refine ⟨hproper.nodup, hproper.filled, hnames, ?_, ?_, ⟨b, hb, ?_⟩, ⟨a, ha, ?_⟩, ?_, ?_⟩
    · intro name hname
      refine List.count_eq_one_of_mem hproper.nodup ?_
      rw [hnames, List.mem_append, List.mem_filter]
      by_cases hgiven : name ∈ given
      · exact Or.inl hgiven
      · exact Or.inr ⟨hname, decide_eq_true hgiven⟩
    · intro name hname
      simp only [settledNames, List.mem_cons, List.not_mem_nil, or_false, not_or] at hname
      rw [get?_bounded, if_neg hname.2.1, if_neg hname.1, if_neg hname.2.2, lookup_given]
    · rw [get?_bounded, if_neg (by decide), if_pos rfl]
    · rw [get?_bounded, if_pos rfl]
    · rw [get?_bounded, if_neg (by decide), if_neg (by decide), if_pos rfl, lookup_given]
      rfl
    · have hstep : (bounded (ResolvedQuery.given text) b a).hasStep = true ↔
          ∃ pair ∈ pairs text, pair.1 = "step" ∧ pair.2 ≠ "" := by
        rw [← firstValue?_isSome_iff, ← lookup_given]
        rfl
      unfold queryType
      simp only [hstep]

/-- A text with an end, an empty step before a step, a name with two values, and no start. -/
theorem parameters_of_resolved_hour_ago :
    ∃ r, of "up&step=&end=now-1h&job=a&job=b&step=60s" .epoch = .ok r ∧
      r.params.names = ["query", "end", "job", "step", "start"] ∧
      r.get? "job" = some "a" ∧ r.get? "end" = some "-3600" ∧ r.get? "start" = some "-3600" ∧
      r.get? "step" = some "60s" ∧ r.queryType = "query_range" := by
  have hpairs : pairs "up&step=&end=now-1h&job=a&job=b&step=60s" =
      [("query", "up"), ("step", ""), ("end", "now-1h"), ("job", "a"), ("job", "b"),
        ("step", "60s")] := by decide +kernel
  have hend : TimeBound.resolve "now-1h" .epoch = .ok "-3600" :=
    eq_ok_of_toOption (by decide +kernel)
  have hhour : String.ofList (intText (hourBefore .epoch)) = "-3600" := by decide +kernel
  obtain ⟨hsucceeds, hresolved⟩ := parameters_of_resolved
    "up&step=&end=now-1h&job=a&job=b&step=60s" .epoch (by decide)
  rw [hpairs, hhour] at hsucceeds hresolved
  obtain ⟨r, hr⟩ := hsucceeds.mpr ⟨⟨"-3600", hend⟩, "-3600", rfl⟩
  obtain ⟨-, -, hnames, -, hother, ⟨b, hb, hgetb⟩, ⟨a, ha, hgeta⟩, hstep, htype⟩ := hresolved r hr
  obtain rfl : "-3600" = b := Except.ok.inj (hend.symm.trans hb)
  obtain rfl : "-3600" = a := Except.ok.inj ha
  exact ⟨r, hr, hnames, hother "job" (by decide), hgetb, hgeta, hstep, htype⟩

end ResolvedQuery

end QueryDispatch
