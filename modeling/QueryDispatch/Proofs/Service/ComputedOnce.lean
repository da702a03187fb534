import QueryDispatch.Proofs.Runner.Pool
import QueryDispatch.Proofs.Service.Decisions
import QueryDispatch.Proofs.Service.LatestResult
import QueryDispatch.Proofs.Service.Snapshots

/-! # Queries that are computed once

  When every request for a text takes results of any age, the text is computed
  once. As long as no job for it has succeeded there is no result, and requests
  join the one job that has not ended or bring a new one. The step in which a
  job succeeds stores its result and frees its fingerprint. So there is no
  moment at which a request finds neither, and from then on each of them is
  answered with that result.
-/

namespace QueryDispatch

/-- The job is for this text on this data source. -/
def Job.IsFor (job : Job) (source : SourceId) (text : String) : Prop :=
  job.source = source ∧ job.text = text

namespace Service

variable {s₀ s t : Service} {b b' : JobBoard} {store kept : Store} {l : Label} {a : Answer}
  {id : JobId} {job : Job} {r : StoredResult} {i : ResultId} {fingerprint : Fingerprint}
  {source : SourceId} {text : String} {trace rest : List (Label × Answer)}

/-! ### Results stay -/

/-- What is stored becomes the newest result, unless there is a newer one. -/
theorem Stores.newest_eq (h : Stores b store l b' kept id job r) :
    kept.records.newest = store.records.newest.put r.fingerprint
      (Records.newerStamp (r.retrievedAt, r.id)
        (store.records.newest.find? r.fingerprint)) := by
  obtain ⟨request, -, hk⟩ := h.kept_eq
  rw [hk, JobBoard.pointTo_newest]
  rfl

theorem Run.result?_of_stored (hr : Run s rest t) (h : s.board.Sound)
    (hres : s.store.records.result? i = some r) : t.store.records.result? i = some r := by
  induction hr with
  | start => exact hres
  | step hr hf hs ih =>
    have hsound := hr.sound h
    rcases (step_change hsound hf hs).quiet_or_stores hsound hf.1 with
      ⟨hk, -⟩ | ⟨id, job, new, hst⟩
    · rw [hk]
      exact ih
    · -- the new result has another identifier
      have hne : i ≠ new.id := by
        rintro rfl
        rw [hst.result_new hf] at ih
        cases ih
      rw [hst.result?_eq, if_neg hne]
      exact ih

/-! ### Before and after the success -/

/-- How far the work for a fingerprint has come: no job has succeeded and there is no result, or one
    job has succeeded, its result is the newest one, and all other jobs have ended otherwise. -/
inductive Stage (b : JobBoard) (store : Store) (fingerprint : Fingerprint) : Prop where
  | before
      (hno : ∀ id job, b.find? id = some job → job.fingerprint = fingerprint →
        job.status ≠ .succeeded)
      (hnewest : store.records.newest.find? fingerprint = none)
  | after {id : JobId} {job : Job} {i : ResultId} {retrieved : Instant}
      (hj : b.find? id = some job) (hfp : job.fingerprint = fingerprint)
      (hs : job.status = .succeeded) (hi : job.result = some i)
      (hnewest : store.records.newest.find? fingerprint = some (retrieved, i))
      (hothers : ∀ other last, b.find? other = some last → last.fingerprint = fingerprint →
        other ≠ id → last.status = .failed ∨ last.status = .cancelled)

theorem isTerminal_of_ended {status : JobStatus} (h : status = .failed ∨ status = .cancelled) :
    status.isTerminal = true := by
  rcases h with rfl | rfl <;> rfl

/-- The job that has succeeded is the only one. -/
theorem Stage.unique (h : Stage b store fingerprint) {id' : JobId} {job' : Job}
    (hj : b.find? id = some job) (hfp : job.fingerprint = fingerprint)
    (hs : job.status = .succeeded) (hj' : b.find? id' = some job')
    (hfp' : job'.fingerprint = fingerprint) (hs' : job'.status = .succeeded) : id = id' := by
  cases h with
  | before hno => exact absurd hs (hno id job hj hfp)
  | @after known _ _ _ _ _ _ _ _ hothers =>
    have hknown : ∀ other last, b.find? other = some last → last.fingerprint = fingerprint →
        last.status = .succeeded → other = known := by
      intro other last ho hlast hdone
      by_cases he : other = known
      · exact he
      · rcases hothers other last ho hlast he with hend | hend <;> rw [hdone] at hend <;> cases hend
    rw [hknown id job hj hfp hs, hknown id' job' hj' hfp' hs']

/-- It leads to the newest result. -/
theorem Stage.newest_of_succeeded (h : Stage b store fingerprint) (hj : b.find? id = some job)
    (hfp : job.fingerprint = fingerprint) (hs : job.status = .succeeded)
    (hi : job.result = some i) :
    ∃ retrieved, store.records.newest.find? fingerprint = some (retrieved, i) := by
  have hall := h
  cases h with
  | before hno => exact absurd hs (hno id job hj hfp)
  | @after known last i' retrieved hknown hlast hdone hi' hnewest =>
    obtain rfl := hall.unique hj hfp hs hknown hlast hdone
    obtain rfl := JobBoard.find?_unique hj hknown
    rw [hi] at hi'
    obtain rfl := Option.some.inj hi'
    exact ⟨retrieved, hnewest⟩

/-- No job succeeded, and jobs are new only if there was no result. -/
theorem Stage.quiet (h : Stage b store fingerprint) (hc : Change b store l a b' kept)
    (hsound : b.Sound) (hn : ∀ id, l.newJob? = some id → b.find? id = none)
    (hk : kept = store) (hsame : SameSucceeded b b')
    (hnew : ∀ id job, b.find? id = none → b'.find? id = some job →
      job.fingerprint = fingerprint → store.records.newest.find? fingerprint = none) :
    Stage b' kept fingerprint := by
  subst hk
  cases h with
  | before hno hnewest =>
    refine Stage.before ?_ hnewest
    intro id job hj hfp hs
    exact hno id job ((hsame id job hs).mp hj) hfp hs
  | after hj hfp hs hi hnewest hothers =>
    refine Stage.after ((hsame _ _ hs).mpr hj) hfp hs hi hnewest ?_
    intro other last ho hlast hne
    cases hb : b.find? other with
    | none =>
      rw [hnew other last hb ho hlast] at hnewest
      cases hnewest
    | some before =>
      -- the others had ended, so they are as they were
      obtain ⟨later, hlater, hstep⟩ := hc.job_step hsound hn hb
      obtain rfl := JobBoard.find?_unique ho hlater
      have hended := hothers other before hb (hstep.follows.fingerprint_eq.symm.trans hlast) hne
      rw [hstep.eq_of_ended (isTerminal_of_ended hended)]
      exact hended

/-- A job succeeded: one for this fingerprint, or one for another. -/
theorem Stage.stores (h : Stage b store fingerprint) (hsound : b.Sound)
    (hst : Stores b store l b' kept id job r) : Stage b' kept fingerprint := by
  have hlive : job.status.isTerminal = false := by
    rw [hst.running]
    rfl
  obtain ⟨now, hlast⟩ := hst.last_eq
  by_cases hfp : job.fingerprint = fingerprint
  · have hrfp : r.fingerprint = fingerprint := hst.fingerprint_eq.trans hfp
    cases h with
    | before hno hnewest =>
      have hnew : kept.records.newest.find? fingerprint = some (r.retrievedAt, r.id) := by
        rw [hst.newest_eq, hrfp, hnewest, Assoc.find?_put_self]
        rfl
      refine Stage.after hlast hfp rfl rfl hnew ?_
      intro other last ho hofp hne
      rw [hst.others other hne] at ho
      -- single flight: another job for the fingerprint has ended, and not with success
      have hended : last.status.isTerminal = true := by
        cases hl : last.status.isTerminal with
        | true => rfl
        | false =>
          have hsame := hsound.eq_of_fingerprint (hsound.active_of_live ho hl)
            (hsound.active_of_live hst.job_eq hlive) (hofp.trans hfp.symm)
          exact absurd hsame hne
      have hdone := hno other last ho hofp
      cases hs : last.status with
      | failed => exact Or.inl rfl
      | cancelled => exact Or.inr rfl
      | succeeded => exact absurd hs hdone
      | queued | running =>
        rw [hs] at hended
        cases hended
    | @after known done _ _ hj hdone hs _ _ hothers =>
      -- there is no job that could succeed once one has
      have hne : id ≠ known := (hst.ne_of_succeeded hj hs).symm
      have hended := isTerminal_of_ended (hothers id job hst.job_eq hfp hne)
      rw [hlive] at hended
      cases hended
  · have hrfp : fingerprint ≠ r.fingerprint := by
      rw [hst.fingerprint_eq]
      exact Ne.symm hfp
    have hkeep : kept.records.newest.find? fingerprint =
        store.records.newest.find? fingerprint := by
      rw [hst.newest_eq]
      exact Assoc.find?_put_of_ne _ _ hrfp
    -- the jobs for the fingerprint are the ones of before
    have hold : ∀ other last, b'.find? other = some last → last.fingerprint = fingerprint →
        b.find? other = some last := by
      intro other last ho hofp
      have hne : other ≠ id := by
        rintro rfl
        obtain rfl := JobBoard.find?_unique hlast ho
        exact hfp hofp
      rwa [hst.others other hne] at ho
    cases h with
    | before hno hnewest =>
      refine Stage.before ?_ (hkeep.trans hnewest)
      intro other last ho hofp
      exact hno other last (hold other last ho hofp) hofp
    | after hj hdone hs hi hnewest hothers =>
      have hne := hst.ne_of_succeeded hj hs
      refine Stage.after ((hst.others _ hne).trans hj) hdone hs hi (hkeep.trans hnewest) ?_
      intro other last ho hofp
      exact hothers other last (hold other last ho hofp) hofp

/-! ### Along a run -/

/-- In the run the request is made in this state. -/
def Asked (s₀ : Service) (trace : List (Label × Answer)) (q : QueryRequest) (s : Service) : Prop :=
  ∃ before id now a, ((.request q id now, a) :: before) <:+ trace ∧ Run s₀ before s

theorem Asked.later {q : QueryRequest} (h : Asked s₀ trace q s) (e : Label × Answer) :
    Asked s₀ (e :: trace) q s := by
  obtain ⟨before, id, now, a, hsuffix, hr⟩ := h
  exact ⟨before, id, now, a, hsuffix.trans (List.suffix_cons e trace), hr⟩

/-- Every request of the run for this text takes results of any age, and no job is called for it
    directly. -/
structure OnlyForever (s₀ : Service) (trace : List (Label × Answer)) (source : SourceId)
    (text : String) : Prop where
  requests : ∀ q s, Asked s₀ trace q s → q.ComesTo s.store s.pool source text →
    q.age = .forever
  calls : ∀ r id now a, (.enqueue r id now, a) ∈ trace →
    ¬ (r.source.id = source ∧ r.text = text)

theorem OnlyForever.earlier {e : Label × Answer} (h : OnlyForever s₀ (e :: trace) source text) :
    OnlyForever s₀ trace source text where
  requests q s hq := h.requests q s (hq.later e)
  calls r id now a hmem := h.calls r id now a (List.mem_cons_of_mem e hmem)

/-- The keys of the jobs on the board do not collide with the one of this text. -/
def NoCollision (b : JobBoard) (source : SourceId) (text : String) : Prop :=
  ∀ id job, b.find? id = some job →
    Sha256.digest (Fingerprint.key job.source.value job.text) =
        Sha256.digest (Fingerprint.key source.value text) →
      Fingerprint.key job.source.value job.text = Fingerprint.key source.value text

/-- So the jobs with the fingerprint of the text are those for it. -/
theorem NoCollision.isFor (h : NoCollision b source text) (hb : b.Sound)
    (hj : b.find? id = some job)
    (hfp : job.fingerprint = Fingerprint.of source.value text) : job.IsFor source text := by
  have heq : Fingerprint.of job.source.value job.text = Fingerprint.of source.value text :=
    (hb.intact hj).fingerprint_eq.symm.trans hfp
  obtain ⟨hsource, htext⟩ := Fingerprint.eq_of_noCollision heq (h id job hj)
  refine ⟨?_, htext⟩
  cases hs : job.source
  cases source
  rw [hs] at hsource
  exact congrArg SourceId.mk hsource

/-- The jobs for a text have its fingerprint. -/
theorem fingerprint_of_isFor (hb : b.Sound) (hj : b.find? id = some job)
    (hfor : job.IsFor source text) : job.fingerprint = Fingerprint.of source.value text := by
  rw [(hb.intact hj).fingerprint_eq, hfor.1, hfor.2]

/-- A step leaves all jobs on the board, so their keys were there before or come with it. -/
theorem NoCollision.before (h : NoCollision b' source text) (hc : Change b store l a b' kept)
    (hb : b.Sound) (hn : ∀ id, l.newJob? = some id → b.find? id = none) :
    NoCollision b source text := by
  intro id job hj
  obtain ⟨later, hlater, hstep⟩ := hc.job_step hb hn hj
  have hkey := h id later hlater
  rwa [hstep.follows.source_eq, hstep.follows.text_eq] at hkey

/-- A job for the text is new only if the store was asked, and had no result. -/
theorem latest?_eq_none_of_new (h : s.board.Sound) (hr : Run s₀ trace s) (hf : Fresh s l)
    (hs : s.step? l = some (a, t)) (honly : OnlyForever s₀ ((l, a) :: trace) source text)
    (hn : s.board.find? id = none) (hj : t.board.find? id = some job)
    (hfor : job.IsFor source text) :
    s.store.available .latest = .ok () ∧
      s.store.records.latest? (Fingerprint.of source.value text) = none := by
  obtain ⟨hsource, htext⟩ := hfor
  rcases asked_of_new h hf hs hn hj with ⟨r, now, rfl, hr₁, hr₂⟩ |
    ⟨q, now, d, next, rfl, hd, hc, hd₁, hd₂⟩
  · exact absurd ⟨hr₁.symm.trans hsource, hr₂.symm.trans htext⟩
      (honly.calls r id now a (List.mem_cons_self ..))
  · obtain ⟨hcomes, hfresh⟩ := QueryRequest.comesTo_of_decide hd
    rw [← hd₁, ← hd₂, hsource, htext] at hcomes hfresh
    have hasked : Asked s₀ ((.request q id now, a) :: trace) q s :=
      ⟨trace, id, now, a, List.suffix_refl _, hr⟩
    rw [honly.requests q s hasked hcomes, Store.fresh_forever, hc] at hfresh
    exact Store.latest_ok hfresh

/-- Without an answer of the store there is no newest result, as results stay. -/
theorem Stage.newest_eq_none (h : Stage s.board s.store fingerprint)
    (hbooks : Accounted s₀ trace s) (hnone : s.store.records.latest? fingerprint = none) :
    s.store.records.newest.find? fingerprint = none := by
  cases h with
  | before hno hnewest => exact hnewest
  | after hj hfp hs hi hnewest =>
    obtain ⟨r, hr, -⟩ := hbooks.result? hj hs hi
    rw [Records.latest?_eq hnewest, hr] at hnone
    cases hnone

/-- All along the run the work for the text stands before or after its one success, and the store
    can be asked if there is a job for the text. -/
theorem Run.stage (hr : Run s₀ trace s) (h₀ : s₀.board.Sound)
    (hempty : ∀ id, s₀.board.find? id = none) (hnewest : s₀.store.records.newest = [])
    (honly : OnlyForever s₀ trace source text) (hkeys : NoCollision s.board source text) :
    Stage s.board s.store (Fingerprint.of source.value text) ∧
      ∀ id job, s.board.find? id = some job → job.IsFor source text →
        s.store.available .latest = .ok () := by
  induction hr with
  | start =>
    constructor
    · refine Stage.before ?_ ?_
      · intro id job hj
        rw [hempty] at hj
        cases hj
      · rw [hnewest]
        rfl
    · intro id job hj
      rw [hempty] at hj
      cases hj
  | @step trace s t l a hr hf hs ih =>
    have h := hr.sound h₀
    have ht := (hr.step hf hs).sound h₀
    have hc := step_change h hf hs
    obtain ⟨hstage, hready⟩ := ih honly.earlier (hkeys.before hc h hf.1)
    -- a new job for the text finds the store without a result
    have hnone : ∀ id job, s.board.find? id = none → t.board.find? id = some job →
        job.fingerprint = Fingerprint.of source.value text →
        s.store.available .latest = .ok () ∧
          s.store.records.latest? (Fingerprint.of source.value text) = none := by
      intro id job hn hj hfp
      exact latest?_eq_none_of_new h hr hf hs honly hn hj (hkeys.isFor ht hj hfp)
    have hnew : ∀ id job, s.board.find? id = none → t.board.find? id = some job →
        job.fingerprint = Fingerprint.of source.value text →
        s.store.records.newest.find? (Fingerprint.of source.value text) = none := by
      intro id job hn hj hfp
      exact hstage.newest_eq_none (hr.accounted h₀ hempty) (hnone id job hn hj hfp).2
    have hnext : Stage t.board t.store (Fingerprint.of source.value text) ∧
        t.store.available .latest = s.store.available .latest := by
      rcases hc.quiet_or_stores h hf.1 with ⟨hk, hsame⟩ | ⟨id, job, r, hst⟩
      · exact ⟨hstage.quiet hc h hf.1 hk hsame hnew, by rw [hk]⟩
      · exact ⟨hstage.stores h hst, available_congr hst.outages_eq .latest⟩
    refine ⟨hnext.1, ?_⟩
    intro id job hj hfor
    rw [hnext.2]
    cases hb : s.board.find? id with
    | none => exact (hnone id job hb hj (fingerprint_of_isFor ht hj hfor)).1
    | some before =>
      obtain ⟨later, hlater, hstep⟩ := hc.job_step h hf.1 hb
      obtain rfl := JobBoard.find?_unique hj hlater
      exact hready id before hb ⟨hstep.follows.source_eq.symm.trans hfor.1,
        hstep.follows.text_eq.symm.trans hfor.2⟩

/-! ### One computation -/

/-- A result for a text that the run has stored is that of a job for the text. -/
theorem Accounted.job_of_result (h : Accounted s₀ trace s)
    (hempty : s₀.store.records.result? i = none) (hr : s.store.records.result? i = some r)
    (hfor : r.IsFor source text) :
    ∃ id job, s.board.find? id = some job ∧ job.IsFor source text ∧ job.status = .succeeded ∧
      job.result = some i := by
  rcases h.known hr with hold | ⟨job, id, hj, hs, hi⟩
  · rw [hempty] at hold
    cases hold
  · obtain ⟨r', hr', -, hsource, htext⟩ := h.result? hj hs hi
    rw [hr] at hr'
    obtain rfl := Option.some.inj hr'
    exact ⟨id, job, hj, ⟨hsource.symm.trans hfor.1, htext.symm.trans hfor.2⟩, hs, hi⟩

/-- A run from an empty store in which every request for a text takes results of any age: one job
    for the text succeeds at most, and one result for it is stored at most. Once a job for it has
    succeeded, its result is in the store, and every later request for the text is answered with
    exactly this result. -/
theorem computed_once {config : Config} {registry : Registry}
    (hstart : Service.start config store registry = .ok s₀)
    (hresults : store.records.results = []) (hnewest : store.records.newest = [])
    (hrun : Run s₀ trace s) (hrest : Run s rest t)
    (honly : OnlyForever s₀ (rest ++ trace) source text)
    (hkeys : NoCollision t.board source text) :
    (∀ id id' job job', t.board.find? id = some job → t.board.find? id' = some job' →
      job.IsFor source text → job'.IsFor source text → job.status = .succeeded →
      job'.status = .succeeded → id = id') ∧
    (∀ i i' r r', t.store.records.result? i = some r → t.store.records.result? i' = some r' →
      r.IsFor source text → r'.IsFor source text → i = i') ∧
    ∀ id job, s.board.find? id = some job → job.IsFor source text → job.status = .succeeded →
      ∃ r, job.result = some r.id ∧ s.store.records.result? r.id = some r ∧
        r.IsFor source text ∧
        ∀ q new now, q.ComesTo t.store t.pool source text → q.age = .forever →
          ∃ u, t.step? (.request q new now) = some (.ok (.cached r), u) := by
  obtain ⟨-, hstore⟩ := start_eq hstart
  have h₀ : s₀.board.Sound := start_sound hstart
  have hempty := start_find? hstart
  have hall : Run s₀ (rest ++ trace) t := hrun.trans hrest
  have ht : t.board.Sound := hall.sound h₀
  have hnone : ∀ i, s₀.store.records.result? i = none := by
    intro i
    rw [hstore]
    unfold Records.result?
    rw [hresults]
    rfl
  have hbooks : Accounted s₀ (rest ++ trace) t := hall.accounted h₀ hempty
  obtain ⟨hstage, hready⟩ := hall.stage h₀ hempty (by rw [hstore]; exact hnewest) honly hkeys
  have hone : ∀ id id' job job', t.board.find? id = some job → t.board.find? id' = some job' →
      job.IsFor source text → job'.IsFor source text → job.status = .succeeded →
      job'.status = .succeeded → id = id' := by
    intro id id' job job' hj hj' hfor hfor' hs hs'
    exact hstage.unique hj (fingerprint_of_isFor ht hj hfor) hs hj'
      (fingerprint_of_isFor ht hj' hfor') hs'
  refine ⟨hone, ?_, ?_⟩
  · -- two results would be those of one job
    intro i i' r r' hr hr' hfor hfor'
    obtain ⟨id, job, hj, hjfor, hs, hi⟩ := hbooks.job_of_result (hnone i) hr hfor
    obtain ⟨id', job', hj', hjfor', hs', hi'⟩ := hbooks.job_of_result (hnone i') hr' hfor'
    obtain rfl := hone id id' job job' hj hj' hjfor hjfor' hs hs'
    obtain rfl := JobBoard.find?_unique hj hj'
    rw [hi] at hi'
    exact Option.some.inj hi'
  · intro id job hj hfor hs
    -- the job and its result are still there, and the result is the newest one
    obtain ⟨r, -, hof⟩ := (hrun.accounted h₀ hempty).one hj hs
    obtain ⟨later, hlater, hbecomes⟩ := hrest.becomes (hrun.sound h₀) hj
    obtain rfl := hbecomes.eq_of_ended (by rw [hs]; rfl)
    obtain ⟨retrieved, hnew⟩ :=
      hstage.newest_of_succeeded hlater (fingerprint_of_isFor ht hlater hfor) hs hof.result_eq
    have hlatest : t.store.records.latest? (Fingerprint.of source.value text) = some r := by
      rw [Records.latest?_eq hnew]
      exact hrest.result?_of_stored (hrun.sound h₀) hof.stored
    refine ⟨r, hof.result_eq, hof.stored,
      ⟨hof.source_eq.trans hfor.1, hof.text_eq.trans hfor.2⟩, ?_⟩
    intro q new now hq hage
    exact request_of_latest hq hage (hready id _ hlater hfor) hlatest new now

/-! ### One request, and what comes after -/

/-- The request of every day, by someone who takes a result of any age. -/
def patientRequest : QueryRequest := { dailyRequest with age := .forever }

theorem patient_comesTo (store : Store) :
    patientRequest.ComesTo store ((RunnerPool.of idleRegistry).after someRequest.source)
      someRequest.source.id someRequest.text :=
  QueryRequest.ComesTo.intro rfl (RunnerPool.get_after rfl) rfl render_someRequest rfl

theorem patient_decide :
    patientRequest.decide dailyStore (RunnerPool.of idleRegistry) .epoch =
      (.ok ⟨someRequest.source, someRequest.text, none⟩,
        (RunnerPool.of idleRegistry).after someRequest.source) := by
  have hd : patientRequest.decide dailyStore (RunnerPool.of idleRegistry) .epoch =
      (.ok ⟨someRequest.source, Template.render someRequest.text (Bindings.text? []), none⟩,
        (RunnerPool.of idleRegistry).after someRequest.source) := rfl
  rw [hd, render_someRequest]

/-- While there is no result the request brings a job. -/
theorem patient_run :
    Run (small dailyStore idleRegistry)
      [(.request patientRequest (jobId 1) .epoch,
        .ok (.queued (dailyCall.newJob (jobId 1) .epoch)))] dailyQueued := by
  have hf : Fresh (small dailyStore idleRegistry) (.request patientRequest (jobId 1) .epoch) :=
    Fresh.of_job rfl rfl rfl
  refine Run.step Run.start hf ?_
  show some ((small dailyStore idleRegistry).request patientRequest (jobId 1) .epoch) = _
  rw [request_eq_enqueue patient_decide rfl]
  rfl

/-- A worker gets its runner when it takes the job, and leaves it in the pool. -/
theorem Run.pool_of_complete {c : Completion} {now : Instant} {x : Assignment}
    (hr : Run s₀ ((.finish id c, a) :: (.take now, .ok (.runs x)) :: trace) t)
    (h : Run s₀ trace s) : t.pool = s.pool.after x.request.source := by
  cases hr with
  | step hr hf hs =>
    obtain ⟨⟨b, kept⟩, -, he⟩ := Option.map_eq_some_iff.mp hs
    obtain ⟨-, rfl⟩ := Prod.mk.injEq .. ▸ he
    cases hr with
    | step hr hf hs =>
      obtain ⟨⟨got, b⟩, -, he⟩ := Option.map_eq_some_iff.mp hs
      obtain rfl := Option.some.inj (hr.replay?_eq.symm.trans h.replay?_eq)
      cases got with
      | none => cases (Prod.mk.inj he).1
      | some y =>
        obtain ⟨ha, rfl⟩ := Prod.mk.injEq .. ▸ he
        injection ha with ha
        injection ha with hy
        rw [hy]

/-- The request, and its job from the queue to its end. -/
def patientTrace : List (Label × Answer) :=
  [(.finish (jobId 1) noRows, .ok .done), (.take .epoch, .ok (.runs ⟨jobId 1, dailyCall⟩)),
    (.request patientRequest (jobId 1) .epoch,
      .ok (.queued (dailyCall.newJob (jobId 1) .epoch)))]

theorem patient_onlyForever :
    OnlyForever (small dailyStore idleRegistry) patientTrace someRequest.source.id
      someRequest.text := by
  refine ⟨?_, ?_⟩
  · -- there is one request in the run
    rintro q s ⟨before, id, now, a, hsuffix, -⟩ -
    have hmem := hsuffix.subset (List.mem_cons_self ..)
    simp only [patientTrace, List.mem_cons, List.not_mem_nil, or_false, Prod.mk.injEq,
      reduceCtorEq, false_and, false_or, Label.request.injEq] at hmem
    rw [hmem.1.1]
    rfl
  · intro r id now a hmem
    simp [patientTrace] at hmem

/-- The request is answered from the store when it comes a second time. -/
theorem computed_once_for_patient_request :
    ∃ trace t r u, Run (small dailyStore idleRegistry) trace t ∧
      (t.board.find? (jobId 1)).bind (·.result) = some r.id ∧
      t.store.records.result? r.id = some r ∧ r.text = someRequest.text ∧
      t.step? (.request patientRequest (jobId 2) .epoch) = some (.ok (.cached r), u) := by
  have h₀ := small_sound dailyStore idleRegistry
  have hj₁ : dailyQueued.board.active.find? (jobId 1) =
      some (dailyCall.newJob (jobId 1) .epoch) := Assoc.find?_put_self [] (jobId 1) _
  obtain ⟨t, hrun, hj, -⟩ :=
    patient_run.complete h₀ rfl rfl rfl hj₁ rfl rfl rfl rfl .epoch (c := noRows)
  have hkeys : NoCollision t.board someRequest.source.id someRequest.text := by
    -- there is one job, which is for this text
    rintro id job hfind -
    have hmem := (hrun.mem_createdIn h₀ (start_find? (small_start _ _)) id).mpr
      (by rw [hfind]; rfl)
    obtain rfl := List.mem_singleton.mp hmem
    obtain rfl := JobBoard.find?_unique hj hfind
    rfl
  obtain ⟨-, -, hdone⟩ :=
    computed_once (small_start _ _) rfl rfl hrun Run.start patient_onlyForever hkeys
  obtain ⟨r, hi, hr, hfor, hcached⟩ := hdone (jobId 1) _ hj ⟨rfl, rfl⟩ rfl
  have hpool : t.pool = (RunnerPool.of idleRegistry).after someRequest.source :=
    (hrun.pool_of_complete patient_run).trans
      (RunnerPool.after_after (RunnerPool.of idleRegistry) someRequest.source)
  have hcomes := patient_comesTo t.store
  obtain ⟨u, hu⟩ := hcached patientRequest (jobId 2) .epoch (by rw [hpool]; exact hcomes) rfl
  exact ⟨_, t, r, u, hrun, by rw [hj]; exact hi, hr, hfor.2, hu⟩

end Service

end QueryDispatch
