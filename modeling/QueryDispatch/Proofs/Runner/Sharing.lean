import QueryDispatch.Proofs.Cache.Fingerprints
import QueryDispatch.Proofs.Data.Chains
import QueryDispatch.Proofs.Json.Agreement
import QueryDispatch.Proofs.Json.ReadValues
import QueryDispatch.Proofs.Runner.Pool
import QueryDispatch.Runner.Builtin

/-! # Who shares a runner

  The pool is told from the calls that it got. A runner is shared by those who
  ask for the same data source, type and options, as long as nobody lets go of
  the data source in between; whatever else was asked for, also the same data
  source with other options, does not matter. Every other one gets a number of
  its own.
-/

namespace QueryDispatch

/-! ### Keys -/

namespace DataSource

variable {s t : DataSource}

/-- The bytes that are hashed tell the text of the options. -/
theorem text_eq_of_optionsBytes_eq (h : s.optionsBytes = t.optionsBytes) :
    s.options.text = t.options.text :=
  String.toByteArray_inj.mp (ByteArray.ext (Array.toList_inj.mp h))

/-- The digest tells the options, unless the digests of their texts collide. -/
theorem options_eq_of_digest_eq (hs : s.options.Canonical) (ht : t.options.Canonical)
    (hsha : Sha256.Separates s.optionsBytes t.optionsBytes)
    (h : s.optionsDigest = t.optionsDigest) : s.options = t.options :=
  Json.eq_of_text_eq hs ht (text_eq_of_optionsBytes_eq
    (hsha (Sha256.hexText_inj (String.ofList_injective h))))

/-- Two data sources have one key if they have the same identifier, type and options. -/
theorem runnerKey_eq_iff (hs : s.options.Canonical) (ht : t.options.Canonical)
    (hsha : Sha256.Separates s.optionsBytes t.optionsBytes) :
    s.runnerKey = t.runnerKey ↔ s.id = t.id ∧ s.type = t.type ∧ s.options = t.options := by
  constructor
  · intro h
    obtain ⟨hid, htype, hdigest⟩ := RunnerKey.mk.inj h
    exact ⟨hid, htype, options_eq_of_digest_eq hs ht hsha hdigest⟩
  · rintro ⟨hid, htype, hoptions⟩
    unfold runnerKey optionsDigest optionsBytes
    rw [hid, htype, hoptions]

end DataSource

/-! ### Calls -/

/-- A call of the pool. -/
inductive PoolCall where
  | get (source : DataSource)
  | invalidate (source : SourceId)

/-- What is known of the options that calls are about: they are in canonical form, and the digests
    of their texts do not collide. -/
structure ToldApart (calls : List PoolCall) : Prop where
  canonical : ∀ s, .get s ∈ calls → s.options.Canonical
  separates : ∀ s t, .get s ∈ calls → .get t ∈ calls →
    Sha256.Separates s.optionsBytes t.optionsBytes

/-- Options that were read from texts are in canonical form. -/
theorem ToldApart.of_read {calls : List PoolCall}
    (hread : ∀ s, .get s ∈ calls → ∃ text, Json.read? text = some s.options)
    (hsha : ∀ s t, .get s ∈ calls → .get t ∈ calls →
      Sha256.Separates s.optionsBytes t.optionsBytes) : ToldApart calls where
  canonical s hs := by
    obtain ⟨text, htext⟩ := hread s hs
    exact Json.canonical_of_read? htext
  separates := hsha

namespace RunnerPool

variable {registry : Registry} {p q : RunnerPool} {s t : DataSource} {held held' : HeldRunner}
  {key : RunnerKey} {n : Nat} {keys : RunnerKey → Prop} {calls before : List PoolCall}
  {c : PoolCall} {id : SourceId}

/-- The pool after a call. -/
def call (p : RunnerPool) : PoolCall → RunnerPool
  | .get s => p.after s
  | .invalidate id => p.invalidate id

/-- The pool after several calls. -/
def run (p : RunnerPool) (calls : List PoolCall) : RunnerPool := calls.foldl call p

theorem run_append (p : RunnerPool) (calls others : List PoolCall) :
    p.run (calls ++ others) = (p.run calls).run others :=
  List.foldl_append

theorem run_cons (p : RunnerPool) (c : PoolCall) (calls : List PoolCall) :
    p.run (c :: calls) = (p.call c).run calls := rfl

/-! ### What is held -/

/-- Every runner in the pool was built for a call before, and has a number of its own. -/
structure Accounts (p : RunnerPool) (registry : Registry) (calls : List PoolCall) : Prop where
  registry_eq : p.registry = registry
  built_for : ∀ key held, p.held.find? key = some held → ∃ s, .get s ∈ calls ∧
    s.runnerKey = key ∧ registry.build s.type s.options = .ok held.runner
  number_le : ∀ key held, p.held.find? key = some held → held.number ≤ p.built
  number_inj : ∀ key held key' held', p.held.find? key = some held →
    p.held.find? key' = some held' → held.number = held'.number → key = key'

theorem Accounts.of (registry : Registry) : (of registry).Accounts registry [] where
  registry_eq := rfl
  built_for _ _ h := by cases h
  number_le _ _ h := by cases h
  number_inj _ _ _ _ h := by cases h

/-- What a call leaves in the pool: what was there, and a runner that it built. -/
theorem find?_call (h : (p.call c).held.find? key = some held) :
    p.held.find? key = some held ∨
      ∃ s, c = .get s ∧ s.runnerKey = key ∧ held.number = p.built + 1 ∧
        (p.call c).built = p.built + 1 ∧
        p.registry.build s.type s.options = .ok held.runner := by
  cases c with
  | invalidate id =>
    left
    rw [call, find?_invalidate] at h
    split at h
    · cases h
    · exact h
  | get s =>
    rw [call] at h ⊢
    rcases get_cases p s with ⟨other, -, hget⟩ | ⟨e, -, -, hget⟩ | ⟨runner, hbuild, -, hget⟩
    · rw [after_eq hget] at h
      exact .inl h
    · rw [after_of_error hget] at h
      exact .inl h
    · rw [after_eq hget] at h ⊢
      rw [Assoc.find?_put] at h
      split at h
      · next hkey =>
        obtain rfl := Option.some.inj h
        exact .inr ⟨s, rfl, hkey.symm, rfl, rfl, hbuild⟩
      · exact .inl h

theorem built_le_call (p : RunnerPool) (c : PoolCall) : p.built ≤ (p.call c).built := by
  cases c with
  | invalidate id => exact le_rfl
  | get s =>
    rw [call]
    rcases get_cases p s with ⟨other, -, hget⟩ | ⟨e, -, -, hget⟩ | ⟨runner, -, -, hget⟩
    · rw [after_eq hget]
    · rw [after_of_error hget]
    · rw [after_eq hget]
      exact Nat.le_succ _

theorem registry_call (p : RunnerPool) (c : PoolCall) : (p.call c).registry = p.registry := by
  cases c with
  | invalidate id => rfl
  | get s =>
    rw [call]
    rcases get_cases p s with ⟨other, -, hget⟩ | ⟨e, -, -, hget⟩ | ⟨runner, -, -, hget⟩
    · rw [after_eq hget]
    · rw [after_of_error hget]
    · rw [after_eq hget]

theorem Accounts.call (h : p.Accounts registry calls) (c : PoolCall) :
    (p.call c).Accounts registry (calls ++ [c]) where
  registry_eq := (registry_call p c).trans h.registry_eq
  built_for key held hfind := by
    rcases find?_call hfind with hold | ⟨s, rfl, hkey, -, -, hbuild⟩
    · obtain ⟨s, hmem, hs⟩ := h.built_for key held hold
      exact ⟨s, List.mem_append_left _ hmem, hs⟩
    · rw [h.registry_eq] at hbuild
      exact ⟨s, List.mem_append_right _ List.mem_cons_self, hkey, hbuild⟩
  number_le key held hfind := by
    rcases find?_call hfind with hold | ⟨s, -, -, hnumber, hbuilt, -⟩
    · exact (h.number_le key held hold).trans (built_le_call p c)
    · exact (hnumber.trans hbuilt.symm).le
  number_inj key held key' held' hfind hfind' hsame := by
    rcases find?_call hfind with hold | ⟨s, hc, hkey, hnumber, -⟩
    · have hle := h.number_le key held hold
      rcases find?_call hfind' with hold' | ⟨s', -, -, hnumber', -⟩
      · exact h.number_inj key held key' held' hold hold' hsame
      · omega
    · rcases find?_call hfind' with hold' | ⟨s', hc', hkey', -⟩
      · have hle := h.number_le key' held' hold'
        omega
      · -- one call builds one runner
        rw [hc] at hc'
        cases hc'
        exact hkey.symm.trans hkey'

theorem Accounts.run (h : p.Accounts registry before) (calls : List PoolCall) :
    (p.run calls).Accounts registry (before ++ calls) := by
  induction calls generalizing p before with
  | nil => rwa [List.append_nil]
  | cons c calls ih =>
    rw [run_cons, List.append_cons]
    exact ih (h.call c)

/-- The pool after some calls holds what they account for. -/
theorem accounts_run (registry : Registry) (calls : List PoolCall) :
    ((RunnerPool.of registry).run calls).Accounts registry calls :=
  (Accounts.of registry).run calls

/-! ### Where a number stays -/

/-- A number was given, and only runners under some keys have it. -/
structure Confines (p : RunnerPool) (n : Nat) (keys : RunnerKey → Prop) : Prop where
  given : n ≤ p.built
  only : ∀ key held, p.held.find? key = some held → held.number = n → keys key

theorem Confines.call (h : p.Confines n keys) (c : PoolCall) :
    (p.call c).Confines n fun key => keys key ∧ c ≠ .invalidate key.source where
  given := h.given.trans (built_le_call p c)
  only key held hfind hnumber := by
    rcases find?_call hfind with hold | ⟨s, -, -, hnew, -⟩
    · refine ⟨h.only key held hold hnumber, ?_⟩
      rintro rfl
      rw [RunnerPool.call, find?_invalidate, if_pos rfl] at hfind
      cases hfind
    · have hgiven := h.given
      omega

/-- Nothing brings a number back that was let go. -/
theorem Confines.run (h : p.Confines n keys) (calls : List PoolCall) :
    (p.run calls).Confines n fun key => keys key ∧ .invalidate key.source ∉ calls := by
  induction calls generalizing p keys with
  | nil => exact ⟨h.given, fun key held hfind hn => ⟨h.only key held hfind hn, List.not_mem_nil⟩⟩
  | cons c calls ih =>
    have hrun := ih (h.call c)
    refine ⟨hrun.given, fun key held hfind hn => ?_⟩
    obtain ⟨⟨hkey, hc⟩, hcalls⟩ := hrun.only key held hfind hn
    exact ⟨hkey, List.not_mem_cons_of_ne_of_not_mem (Ne.symm hc) hcalls⟩

theorem find?_call_of_kept (h : p.held.find? key = some held)
    (hc : c ≠ .invalidate key.source) : (p.call c).held.find? key = some held := by
  cases c with
  | invalidate id =>
    have hsource : key.source ≠ id := fun heq => hc (heq ▸ rfl)
    rw [call, find?_invalidate, if_neg hsource, h]
  | get s =>
    rw [call]
    rcases get_cases p s with ⟨other, -, hget⟩ | ⟨e, -, -, hget⟩ | ⟨runner, -, hnone, hget⟩
    · rwa [after_eq hget]
    · rwa [after_of_error hget]
    · have hkey : key ≠ s.runnerKey := fun heq => by
        rw [heq, hnone] at h
        cases h
      rw [after_eq hget]
      exact (Assoc.find?_put_of_ne _ _ hkey).trans h

/-- A runner stays until its data source is let go. -/
theorem find?_run_of_kept (h : p.held.find? key = some held)
    (hkept : .invalidate key.source ∉ calls) : (p.run calls).held.find? key = some held := by
  induction calls generalizing p with
  | nil => exact h
  | cons c calls ih =>
    obtain ⟨hc, hcalls⟩ := not_or.mp (fun hmem => hkept (List.mem_cons.mpr hmem))
    exact ih (find?_call_of_kept h (Ne.symm hc)) hcalls

/-! ### Who gets what -/

/-- What is got depends on the data source alone: a runner as it is built for it, or the error of
    building one. -/
theorem get_runner (h : ToldApart calls) (hmem : .get s ∈ calls)
    (hp : p.Accounts registry before) (hbefore : ∀ c ∈ before, c ∈ calls) :
    (p.get s).map (fun answer => answer.1.runner) = registry.build s.type s.options := by
  rcases get_cases p s with ⟨held, hfind, hget⟩ | ⟨e, hbuild, -, hget⟩ | ⟨runner, hbuild, -, hget⟩
  · obtain ⟨t, ht, hkey, hbuild⟩ := hp.built_for _ _ hfind
    have htcalls := hbefore _ ht
    obtain ⟨-, htype, hoptions⟩ := (DataSource.runnerKey_eq_iff (h.canonical t htcalls)
      (h.canonical s hmem) (h.separates t s htcalls hmem)).mp hkey
    rw [hget, ← htype, ← hoptions, hbuild]
    rfl
  · rw [hget, ← hp.registry_eq, hbuild]
    rfl
  · rw [hget, ← hp.registry_eq, hbuild]
    rfl

/-- The number of a runner that was got is nobody else's. -/
theorem confines_of_get (hp : p.Accounts registry calls) (h : p.get s = .ok (held, q)) :
    q.Confines held.number (· = s.runnerKey) := by
  have hq : q.Accounts registry (calls ++ [.get s]) := after_eq h ▸ hp.call (.get s)
  have hheld := find?_of_get h
  exact ⟨hq.number_le _ _ hheld, fun key other hfind hn =>
    hq.number_inj _ _ _ _ hfind hheld hn⟩

/-- Two who ask get the same runner if they have the same key and it is not let go in between. -/
theorem number_eq_iff (hp : p.Accounts registry before) (h : p.get s = .ok (held, q))
    {q' : RunnerPool} (h' : (q.run calls).get t = .ok (held', q')) :
    held.number = held'.number ↔ s.runnerKey = t.runnerKey ∧ .invalidate s.id ∉ calls := by
  have hconfines := (confines_of_get hp h).run calls
  constructor
  · intro hsame
    rcases get_cases (q.run calls) t with ⟨other, hfind, hget⟩ | ⟨e, -, -, hget⟩ |
      ⟨runner, -, -, hget⟩
    · rw [hget] at h'
      obtain ⟨rfl, rfl⟩ := Prod.mk.inj (Except.ok.inj h')
      obtain ⟨hkey, hkept⟩ := hconfines.only _ _ hfind hsame.symm
      rw [hkey] at hkept
      exact ⟨hkey.symm, hkept⟩
    · rw [hget] at h'
      cases h'
    · -- a runner that is built now has a new number
      rw [hget] at h'
      obtain ⟨rfl, rfl⟩ := Prod.mk.inj (Except.ok.inj h')
      have hgiven := hconfines.given
      rw [hsame] at hgiven
      exact absurd hgiven (Nat.not_succ_le_self _)
  · rintro ⟨hkey, hkept⟩
    have hfind := find?_run_of_kept (find?_of_get h) hkept
    rw [hkey] at hfind
    rw [get_of_held hfind] at h'
    rw [(Prod.mk.inj (Except.ok.inj h')).1]

/-- What is got for a data source after some calls. -/
def got (registry : Registry) (before : List PoolCall) (s : DataSource) :
    Except RegistryError HeldRunner :=
  (((of registry).run before).get s).map Prod.fst

theorem get_of_got (h : got registry before s = .ok held) :
    ∃ q, ((of registry).run before).get s = .ok (held, q) := by
  obtain ⟨answer, hget, rfl⟩ := map_eq_ok.mp h
  exact ⟨answer.2, hget⟩

/-- Who gets a runner, and with whom it is shared. A runner is got as the registry builds it, or
    with the registry's error, and then nothing has changed and nothing is held, so that the next
    one who asks builds again. Two who get a runner share it if they ask for the same data source,
    type and options, without letting go of it in between. -/
theorem shared_iff (registry : Registry) (calls : List PoolCall) (h : ToldApart calls) :
    (∀ before s after, calls = before ++ .get s :: after →
      (got registry before s).map (·.runner) = registry.build s.type s.options ∧
      ∀ e, got registry before s = .error e →
        (of registry).run (before ++ [.get s]) = (of registry).run before ∧
        ((of registry).run before).held.find? s.runnerKey = none) ∧
    ∀ before s between t after, calls = before ++ .get s :: (between ++ .get t :: after) →
      ∀ held held', got registry before s = .ok held →
        got registry (before ++ .get s :: between) t = .ok held' →
        (held.number = held'.number ↔ s.id = t.id ∧ s.type = t.type ∧
          s.options.agreesExactly t.options = true ∧ .invalidate s.id ∉ between) := by
  constructor
  · rintro before s after rfl
    refine ⟨?_, fun e he => ?_⟩
    · rw [← get_runner h (List.mem_append_right _ List.mem_cons_self) (accounts_run registry before)
        fun c hc => List.mem_append_left _ hc, got]
      cases ((of registry).run before).get s <;> rfl
    · have hget := map_eq_error.mp he
      rw [run_append]
      exact ⟨after_of_error hget, find?_of_error hget⟩
  · rintro before s between t after rfl held held' hs ht
    have hmem : .get s ∈ before ++ .get s :: (between ++ .get t :: after) := by simp
    have hmem' : .get t ∈ before ++ .get s :: (between ++ .get t :: after) := by simp
    obtain ⟨q, hget⟩ := get_of_got hs
    obtain ⟨q', hget'⟩ := get_of_got ht
    have hrun : (of registry).run (before ++ .get s :: between) = q.run between := by
      rw [run_append, run_cons, RunnerPool.call, after_eq hget]
    rw [hrun] at hget'
    rw [number_eq_iff (accounts_run registry before) hget hget',
      DataSource.runnerKey_eq_iff (h.canonical s hmem) (h.canonical t hmem')
        (h.separates s t hmem hmem'),
      Json.agreesExactly_iff (h.canonical s hmem) (h.canonical t hmem'), and_assoc, and_assoc]

/-! ### A data source that is edited and let go -/

/-- A server with an option that its runner does not read. -/
def serverWith (option : JsonNumber) : DataSource where
  id := ⟨1⟩
  name := "m"
  type := "prometheus"
  options := .object [("offset", .number option), ("url", .string "http://p")]
  paused := false
  pauseReason := none

theorem canonical_serverWith {option : JsonNumber} (h : option.Canonical) :
    (serverWith option).options.Canonical := by
  have horder : "offset" < "url" := by decide
  exact ⟨List.pairwise_pair.mpr horder, h, trivial, trivial⟩

/-- Two servers are told apart by digests that differ. -/
theorem toldApart_serverWith {m n : JsonNumber} (hm : m.Canonical) (hn : n.Canonical)
    (hdigest : Sha256.digest (serverWith m).optionsBytes ≠
      Sha256.digest (serverWith n).optionsBytes)
    (hcalls : ∀ s, .get s ∈ calls → s = serverWith m ∨ s = serverWith n) : ToldApart calls where
  canonical s hs := by
    rcases hcalls s hs with rfl | rfl
    · exact canonical_serverWith hm
    · exact canonical_serverWith hn
  separates s t hs ht := by
    rcases hcalls s hs with rfl | rfl <;> rcases hcalls t ht with rfl | rfl
    · exact fun _ => rfl
    · exact fun heq => absurd heq hdigest
    · exact fun heq => absurd heq.symm hdigest
    · exact fun _ => rfl

/-- The server is used, edited, edited back, let go and used again. -/
def editedAndBack : List PoolCall :=
  [.get (serverWith (.int 1)), .get (serverWith (.int 2)), .get (serverWith (.int 1)),
    .invalidate ⟨1⟩, .get (serverWith (.int 1))]

theorem toldApart_editedAndBack : ToldApart editedAndBack := by
  refine toldApart_serverWith (m := .int 1) (n := .int 2) trivial trivial (by decide +kernel) ?_
  intro s hs
  simp only [editedAndBack, List.mem_cons, PoolCall.get.injEq, reduceCtorEq, List.not_mem_nil,
    or_false, false_or] at hs
  tauto

/-- Edited back, the server has its first runner again; let go, it gets another one. -/
theorem shared_editedAndBack : ToldApart editedAndBack ∧ ∃ first second third,
    got .builtin [] (serverWith (.int 1)) = .ok first ∧
    got .builtin (editedAndBack.take 2) (serverWith (.int 1)) = .ok second ∧
    got .builtin (editedAndBack.take 4) (serverWith (.int 1)) = .ok third ∧
    first.number = second.number ∧ first.number ≠ third.number := by
  obtain ⟨hbuilt, hshared⟩ := shared_iff .builtin editedAndBack toldApart_editedAndBack
  have hsome : (Registry.builtin.build "prometheus"
      (serverWith (.int 1)).options).toOption.isSome = true := by decide +kernel
  obtain ⟨runner, hrunner⟩ := Option.isSome_iff_exists.mp hsome
  have hgot : ∀ before after, editedAndBack = before ++ .get (serverWith (.int 1)) :: after →
      ∃ held, got .builtin before (serverWith (.int 1)) = .ok held := by
    intro before after hcalls
    have hmap := (hbuilt before _ after hcalls).1.trans (eq_ok_of_toOption hrunner)
    obtain ⟨held, hheld, -⟩ := map_eq_ok.mp hmap
    exact ⟨held, hheld⟩
  obtain ⟨first, hfirst⟩ := hgot [] _ rfl
  obtain ⟨second, hsecond⟩ := hgot (editedAndBack.take 2) _ rfl
  obtain ⟨third, hthird⟩ := hgot (editedAndBack.take 4) [] rfl
  refine ⟨toldApart_editedAndBack, first, second, third, hfirst, hsecond, hthird, ?_, ?_⟩
  · refine (hshared [] _ [.get (serverWith (.int 2))] _ _ rfl first second hfirst hsecond).mpr ?_
    exact ⟨rfl, rfl, by decide, by simp⟩
  · intro hsame
    refine ((hshared [] _ _ _ [] rfl first third hfirst hthird).mp hsame).2.2.2 ?_
    show PoolCall.invalidate ⟨1⟩ ∈ _
    simp

/-- A server whose option is a zero. -/
def zeroServer (negative : Bool) : DataSource := serverWith (.double (.zero negative))

/-- Options that differ in the sign of a zero are equal, but each has a runner of its own. -/
theorem signedZeros_not_shared :
    ToldApart [.get (zeroServer false), .get (zeroServer true)] ∧
    (zeroServer false).id = (zeroServer true).id ∧
    (zeroServer false).type = (zeroServer true).type ∧
    (zeroServer false).options.agrees JsonNumber.equal (zeroServer true).options = true ∧
    (got .builtin [] (zeroServer false)).toOption.map (·.number) = some 1 ∧
    (got .builtin [.get (zeroServer false)] (zeroServer true)).toOption.map (·.number) =
      some 2 := by
  refine ⟨?_, rfl, rfl, by decide, by decide +kernel, by decide +kernel⟩
  refine toldApart_serverWith (m := .double (.zero false)) (n := .double (.zero true))
    (by decide) (by decide) (by decide +kernel) ?_
  intro s hs
  simp only [List.mem_cons, PoolCall.get.injEq, List.not_mem_nil, or_false] at hs
  exact hs

end RunnerPool

end QueryDispatch
