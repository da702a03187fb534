import QueryDispatch.TimeSeries.Server

/-! # Names of metrics

  A server answers the names of its metrics as one list. Names that repeat the
  one before them are left out, so what is shown is one name for each run of
  equal names. A name that comes again behind another one has a run of its own,
  and is shown again.
-/

namespace QueryDispatch.TimeSeries

variable {names shown rest : List String} {name : String}

/-! ### Runs of equal names -/

/-- The names are runs of the shown ones, in their order, and neighbours are different. -/
inductive Runs : List String → List String → Prop
  | nil : Runs [] []
  | cons (name : String) (more : Nat) {rest shown : List String} (hne : name ∉ shown.head?)
      (h : Runs rest shown) : Runs (List.replicate (more + 1) name ++ rest) (name :: shown)

theorem head?_dropRepeats (names : List String) : (dropRepeats names).head? = names.head? := by
  fun_induction dropRepeats names with
  | case1 => rfl
  | case2 x => rfl
  | case3 y rest ih => exact ih
  | case4 x y rest hne ih => rfl

/-- One more name at the front of the first run. -/
theorem Runs.again (h : Runs (name :: rest) shown) : Runs (name :: name :: rest) shown := by
  generalize hnames : name :: rest = names at h
  cases h with
  | nil => cases hnames
  | cons first more hne h =>
    rw [List.replicate_succ, List.cons_append] at hnames
    obtain ⟨rfl, rfl⟩ := List.cons.inj hnames
    exact .cons name (more + 1) hne h

/-- Leaving out what repeats the name before it leaves one name of each run. -/
theorem runs_dropRepeats (names : List String) : Runs names (dropRepeats names) := by
  fun_induction dropRepeats names with
  | case1 => exact .nil
  | case2 x => exact .cons x 0 (by simp) .nil
  | case3 y rest ih => exact ih.again
  | case4 x y rest hne ih =>
    refine .cons x 0 ?_ ih
    rw [head?_dropRepeats]
    simpa using Ne.symm hne

namespace Runs

theorem mem_iff (h : Runs names shown) : name ∈ shown ↔ name ∈ names := by
  induction h with
  | nil => rfl
  | cons first more hne h ih =>
    rw [List.mem_cons, List.mem_append, ih, List.mem_replicate]
    simp

theorem head?_eq (h : Runs names shown) : shown.head? = names.head? := by
  cases h with
  | nil => rfl
  | cons first more hne h =>
    rw [List.replicate_succ]
    rfl

end Runs

/-! ### Names that come once -/

/-- No name comes again behind another one. -/
def Together (names : List String) : Prop := ∀ a b, [a, b, a].Sublist names → a = b

/-- Every name is there once, in the order in which the names first come. -/
def InFirstOrder (names shown : List String) : Prop :=
  (∀ name, name ∈ shown ↔ name ∈ names) ∧ shown.Pairwise (names.idxOf · < names.idxOf ·)

theorem InFirstOrder.nodup (h : InFirstOrder names shown) : shown.Nodup := by
  refine h.2.imp ?_
  rintro a b hlt rfl
  exact Nat.lt_irrefl _ hlt

/-- Names in order of the alphabet stand together. -/
theorem Together.of_sorted (h : names.Pairwise (· ≤ ·)) : Together names := by
  intro a b hab
  have hsorted : [a, b, a].Pairwise (· ≤ ·) := h.sublist hab
  simp only [List.pairwise_cons, List.mem_cons, List.not_mem_nil, or_false] at hsorted
  obtain ⟨hfirst, hsecond, -⟩ := hsorted
  exact String.le_antisymm (hfirst b (Or.inl rfl)) (hsecond a rfl)

/-- A run whose name does not come at once has its name for itself. -/
theorem together_run_iff {first : String} {more : Nat} (hne : first ∉ rest.head?) :
    Together (List.replicate (more + 1) first ++ rest) ↔ first ∉ rest ∧ Together rest := by
  constructor
  · intro h
    refine ⟨?_, fun a b hab => h a b (hab.trans (List.sublist_append_right _ _))⟩
    intro hmem
    -- the run is followed by another name, and its own name would come again behind that
    match rest with
    | second :: others =>
      have hsecond : second ≠ first := by simpa using hne
      have hothers : first ∈ others := (List.mem_cons.mp hmem).resolve_left hsecond.symm
      have hagain : [first, second, first].Sublist
          (List.replicate (more + 1) first ++ second :: others) := by
        rw [List.replicate_succ, List.cons_append]
        refine .cons_cons first (.trans ?_ (List.sublist_append_right _ _))
        exact .cons_cons second (List.singleton_sublist.mpr hothers)
      exact hsecond (h first second hagain).symm
  · rintro ⟨hfirst, hrest⟩ a b hab
    obtain ⟨front, back, heq, hfront, hback⟩ := List.sublist_append_iff.mp hab
    have hrun : ∀ x ∈ front, x = first := fun x hx => List.eq_of_mem_replicate (hfront.subset hx)
    -- what is in front has the name of the run, and what is behind it has another one
    cases front with
    | nil => exact hrest a b (heq ▸ hback)
    | cons x front =>
      obtain ⟨hx, heq⟩ := List.cons.inj heq
      have ha : a = first := hx.trans (hrun x List.mem_cons_self)
      cases front with
      | nil =>
        have hback : [b, a].Sublist rest := heq ▸ hback
        exact absurd (hback.subset (by simp [ha])) hfirst
      | cons y front =>
        obtain ⟨hy, -⟩ := List.cons.inj heq
        exact ha.trans (hy.trans (hrun y (by simp))).symm

namespace Runs

theorem nodup_iff (h : Runs names shown) : shown.Nodup ↔ Together names := by
  induction h with
  | nil => simp [Together]
  | cons first more hne h ih =>
    rw [h.head?_eq] at hne
    rw [List.nodup_cons, ih, together_run_iff hne, h.mem_iff]

/-- One name of each run is the list of the names in first order if and only if no name comes again
    behind another one. -/
theorem inFirstOrder_iff (h : Runs names shown) : InFirstOrder names shown ↔ Together names := by
  refine ⟨fun hfirst => h.nodup_iff.mp hfirst.nodup, fun htogether => ⟨fun _ => h.mem_iff, ?_⟩⟩
  induction h with
  | nil => exact .nil
  | @cons first more rest shown hne h ih =>
    obtain ⟨hfirst, hrest⟩ := (together_run_iff (h.head?_eq ▸ hne)).mp htogether
    -- the names behind the first run come later by its length
    have hbehind : ∀ n ∈ shown, (List.replicate (more + 1) first ++ rest).idxOf n =
        rest.idxOf n + (more + 1) := by
      intro n hn
      have hother : n ∉ List.replicate (more + 1) first := by
        intro hrun
        exact hfirst (List.eq_of_mem_replicate hrun ▸ h.mem_iff.mp hn)
      rw [List.idxOf_append, if_neg hother, List.length_replicate]
    refine List.pairwise_cons.mpr ⟨?_, ?_⟩
    · intro n hn
      rw [hbehind n hn, List.replicate_succ, List.cons_append, List.idxOf_cons_self]
      omega
    · refine (ih hrest).imp_of_mem ?_
      intro a b ha hb hlt
      rw [hbehind a ha, hbehind b hb]
      omega

end Runs

/-! ### What the server answers -/

section answers

variable {exchange : Exchange} {settings : ServerSettings}

/-- The server answers the names of its metrics. -/
structure AnswersNames (exchange : Exchange) (settings : ServerSettings)
    (names : List String) : Prop where
  /-- The certificates can be worked with. -/
  certificates : ∃ set, settings.certificates = .ok set
  /-- The data of the answer are the names. -/
  names : ∃ response, ask exchange ⟨settings.endpoint namesPath, []⟩ = .ok response ∧
    dataOf? Wire.decode? response.body = some names

theorem expect_eq {α : Type} {decode : Json → Option α} {response : HttpResponse} {a : α}
    (h : dataOf? decode response.body = some a) : expect decode response = .ok a := by
  unfold expect
  rw [h]

theorem metrics_eq (h : AnswersNames exchange settings names) :
    metrics exchange settings = .ok ((dropRepeats names).map TableSchema.bare) := by
  obtain ⟨set, hset⟩ := h.certificates
  obtain ⟨response, hask, hdata⟩ := h.names
  unfold metrics
  rw [hset, hask]
  show (expect Wire.decode? response).bind _ = _
  rw [expect_eq hdata]
  rfl

/-- What is shown is one name for each run of equal names, so it is the names of the answer and no
    other. Each is there once, in the order in which they first come, if and only if no name of the
    answer comes again behind another one. An answer in order of the alphabet is of this kind. -/
theorem metrics_of_names (h : AnswersNames exchange settings names) :
    ∃ shown, metrics exchange settings = .ok (shown.map TableSchema.bare) ∧
      Runs names shown ∧ (∀ name, name ∈ shown ↔ name ∈ names) ∧
      (InFirstOrder names shown ↔ Together names) ∧
      (names.Pairwise (· ≤ ·) → InFirstOrder names shown) := by
  have hruns := runs_dropRepeats names
  refine ⟨_, metrics_eq h, hruns, fun _ => hruns.mem_iff, hruns.inFirstOrder_iff, ?_⟩
  intro hsorted
  exact hruns.inFirstOrder_iff.mpr (.of_sorted hsorted)

end answers

/-- What a server writes that has these names. -/
def namesText (names : List String) : String :=
  (Json.record [("status", .string "success"), ("data", .strings names)]).text

/-- A server that answers these names to whatever it is asked. -/
def namesServer (names : List String) : Exchange := fun _ => .ok ⟨200, "OK", namesText names⟩

/-- A server that is asked without certificates. -/
def plainServer : ServerSettings := ⟨"http://metrics", true, none, none, none⟩

theorem answersNames_namesServer (h : dataOf? Wire.decode? (namesText names) = some names) :
    AnswersNames (namesServer names) plainServer names :=
  ⟨⟨⟨none, none, none⟩, rfl⟩, _, rfl, h⟩

/-- A name that is repeated at once is shown once. -/
theorem metrics_of_repeated_name :
    let names := ["up", "up", "go_goroutines"]
    AnswersNames (namesServer names) plainServer names ∧ Together names ∧
    ∃ shown, metrics (namesServer names) plainServer = .ok (shown.map TableSchema.bare) ∧
      InFirstOrder names shown := by
  intro names
  have hanswers : AnswersNames (namesServer names) plainServer names :=
    answersNames_namesServer (by decide +kernel)
  have htogether : Together names := (runs_dropRepeats names).nodup_iff.mp (by decide)
  obtain ⟨shown, hshown, -, -, hfirst, -⟩ := metrics_of_names hanswers
  exact ⟨hanswers, htogether, shown, hshown, hfirst.mpr htogether⟩

/-- A name that comes again behind another one is shown again. -/
theorem repeated_metric_shown_twice :
    let names := ["up", "go_goroutines", "up"]
    AnswersNames (namesServer names) plainServer names ∧
    metrics (namesServer names) plainServer = .ok (names.map TableSchema.bare) ∧
    ¬ InFirstOrder names names := by
  intro names
  have hanswers : AnswersNames (namesServer names) plainServer names :=
    answersNames_namesServer (by decide +kernel)
  refine ⟨hanswers, metrics_eq hanswers, ?_⟩
  intro hfirst
  exact absurd hfirst.nodup (by decide)

end QueryDispatch.TimeSeries
