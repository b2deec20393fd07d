import NotebookExecution.Jobs.Isolation
import NotebookExecution.Library.Coroutine

/-! Stopping the scheduler. `stop` cancels the task of the loop; the cancellation is delivered at the
await the task is at. Here the evaluation is written with its awaits, and cancelled at any of them. -/

namespace NotebookExecution.Jobs

open Library.Transaction Library.Coroutine Store
open Execution (ExecutionRequestPayload)
open JobManager (Outside)

namespace Shutdown

/-- The awaits while one job is triggered; those of its `n`-th submission carry its number. -/
inductive Place
  | loading
  | checking
  | opening
  | listing
  | registering (n : ℕ)
  | validating (n : ℕ)
  | starting (n : ℕ)
  | waiting (n : ℕ)
  | resetting (n : ℕ)
  | finishing (n : ℕ)
  | recording
  | rescheduling
  | committing
  | rollingBack
  deriving DecidableEq

inductive Point
  | connecting
  | querying
  | job (i : ℕ) (p : Place)
  | closing
  | sleeping
  deriving DecidableEq

abbrev Routine := Co Point (Session Database) ExecutionRequestPayload JobFailure

def submitExecution (i n : ℕ) (answer : Except JobFailure String) (late : Bool) (payload : ExecutionRequestPayload) :
    Routine String := do
  Co.report payload
  Co.pause (.job i (.registering n))
  let executionId ← Co.await (.job i (.validating n)) fun s => (answer, s)
  Co.pause (.job i (.starting n))
  -- `wait_for`. A timeout and a cancellation are both followed by a reset, outside of the handled part.
  let resets ← Co.catchCancelled (Co.await (.job i (.waiting n)) fun s => (.ok late, s)) (pure true)
  if resets then Co.pause (.job i (.resetting n))
  Co.pause (.job i (.finishing n))
  pure executionId

def submitCells (i : ℕ) (w : Outside) (late : ℕ → Bool) (job : Job) :
    ℕ → String → List NotebookCell → Routine String
  | _, executionId, [] => pure executionId
  | n, _, cell :: rest => do
    let payload ← Co.ofExcept (JobManager.payload job cell)
    let executionId ← submitExecution i n (w.answers n) (late n) payload
    submitCells i w late job (n + 1) executionId rest

def runNotebook (i : ℕ) (w : Outside) (late : ℕ → Bool) (job : Job) (d : Database) : Routine String :=
  match JobManager.codeCells job.notebookId d with
  | [] => submitExecution i 0 (w.answers 0) (late 0) (JobManager.placeholder job)
  | cell :: rest => submitCells i w late job 0 "" (cell :: rest)

def triggerJobExecution (i : ℕ) (w : Outside) (late : ℕ → Bool) (known : Job) : Routine JobExecution := do
  let job ← Co.await (.job i .loading) (JobManager.loadJob (some known) known.id)
  Co.await (.job i .checking) (JobManager.checkOverlap job)
  Co.await (.job i .opening) fun s => (w.session.elim (.ok ()) .error, s)
  let d ← Co.await (.job i .listing) fun s => (.ok s.view, s)
  let executionId ← runNotebook i w late job d
  Co.await (.job i .recording) (JobManager.recordExecution w.env job executionId .scheduled)

def fire (E : Environment) (now : Instant) (i : ℕ) (w : Outside) (late : ℕ → Bool) (job : Job) : Routine Unit := do
  let _ ← triggerJobExecution i w late job
  Co.await (.job i .rescheduling) (JobScheduler.reschedule E now w.env job)
  Co.await (.job i .committing) commit

/-- The handler reads the name of a job that the rollback has expired. -/
def rollBack (i : ℕ) (job : Job) : Routine Bool := do
  Co.await (.job i .rollingBack) rollback
  let _ ← Co.ofExcept (JobScheduler.nameOf true job)
  pure true

def evaluateJobs (E : Environment) (now : Instant) (outside : Uuid → Outside) (late : Uuid → ℕ → Bool) :
    ℕ → Bool → List Job → Routine Unit
  | _, _, [] => pure ()
  | i, expired, job :: rest => do
    let _ ← Co.ofExcept (JobScheduler.nameOf expired job)
    let failed ← Co.catchRaised (do fire E now i (outside job.id) (late job.id) job; pure false) fun _ =>
      rollBack i job
    evaluateJobs E now outside late (i + 1) (expired || failed) rest

def evaluateSessionJobs (E : Environment) (now : Instant) (outside : Uuid → Outside) (late : Uuid → ℕ → Bool) :
    Routine Unit :=
  Co.catchRaised (do
    let dueJobs ← Co.await .querying fun s => (.ok (JobScheduler.dueJobs now s.view), s)
    evaluateJobs E now outside late 0 false dueJobs) fun _ => pure ()

def evaluateDueJobs (E : Environment) (now : Instant) (outside : Uuid → Outside) (late : Uuid → ℕ → Bool) :
    Routine Unit := do
  Co.pause .connecting
  evaluateSessionJobs E now outside late
  Co.pause .closing

/-- What an evaluation meets: the time, the database, and for each job the outside of its trigger and
which of its submissions run into their timeouts. -/
structure Round where
  now : Instant
  database : Database
  outside : Uuid → Outside
  late : Uuid → ℕ → Bool
  keys : Keys database
  fresh : Fresh outside (JobScheduler.dueJobs now database)

def Round.pass (E : Environment) (r : Round) : Routine Unit := do
  evaluateDueJobs E r.now r.outside r.late
  Co.catchCancelled (Co.pause .sleeping) (pure ())

def Round.start (r : Round) (pending : Option Point) : World Point (Session Database) ExecutionRequestPayload :=
  ⟨.open r.database, pending, false, []⟩

/-- What the loop submits when `stop` is called in its `m`-th pass, at `c`. Then it has also ended the
loop, whether the cancellation leaves the evaluation or not. -/
def runLoop (E : Environment) (m : ℕ) (c : Point) : ℕ → List Round → List (ExecutionRequestPayload × Bool)
  | _, [] => []
  | k, r :: rs =>
    let w := (r.pass E (r.start (if k = m then some c else none))).2
    w.reported ++ if w.delivered then [] else runLoop E m c (k + 1) rs

variable {E : Environment} {now : Instant} {i m n : ℕ} {o : Outside} {late : ℕ → Bool} {job : Job} {d : Database}
  {c : Option Point} {outside : Uuid → Outside} {lates : Uuid → ℕ → Bool} {jobs rest : List Job}

lemma lets_submitExecution {answer : Except JobFailure String} {isLate : Bool} {payload : ExecutionRequestPayload}
    (hc : c ≠ some (.job i (.waiting n))) : LetsThrough c (submitExecution i n answer isLate payload) := by
  apply (LetsThrough.report payload).bind
  intro _
  apply LetsThrough.pause.bind
  intro _
  apply LetsThrough.await.bind
  intro executionId
  apply LetsThrough.pause.bind
  intro _
  apply (LetsThrough.catchCancelled hc).bind
  intro resets
  have hend : LetsThrough c (do
      Co.pause (.job i (.finishing n))
      pure executionId : Routine String) := LetsThrough.pause.bind fun _ => LetsThrough.pure _
  cases resets with
  | false => exact hend
  | true => exact LetsThrough.pause.bind fun _ => hend

lemma lets_runNotebook (hc : c ≠ some (.job i (.waiting 0))) : LetsThrough c (runNotebook i o late job d) := by
  rw [runNotebook]
  cases JobManager.codeCells job.notebookId d with
  | nil => exact lets_submitExecution hc
  | cons cell cells => exact fun w hw => Or.inl hw

lemma lets_triggerJobExecution (hc : c ≠ some (.job i (.waiting 0))) :
    LetsThrough c (triggerJobExecution i o late job) := by
  apply LetsThrough.await.bind
  intro known
  apply LetsThrough.await.bind
  intro _
  apply LetsThrough.await.bind
  intro _
  apply LetsThrough.await.bind
  intro d
  exact (lets_runNotebook hc).bind fun _ => LetsThrough.await

lemma lets_fire (hc : c ≠ some (.job i (.waiting 0))) : LetsThrough c (fire E now i o late job) :=
  (lets_triggerJobExecution hc).bind fun _ => LetsThrough.await.bind fun _ => LetsThrough.await

lemma lets_evaluateJobs (hc : ∀ i, c ≠ some (.job i (.waiting 0))) (i : ℕ) (expired : Bool) (jobs : List Job) :
    LetsThrough c (evaluateJobs E now outside lates i expired jobs) := by
  induction jobs generalizing i expired with
  | nil => exact LetsThrough.pure _
  | cons job rest ih =>
    apply (LetsThrough.ofExcept _).bind
    intro _
    refine LetsThrough.bind (LetsThrough.catchRaised ?_ fun _ => ?_) fun failed => ih _ _
    · exact (lets_fire (hc i)).bind fun _ => LetsThrough.pure _
    · exact LetsThrough.await.bind fun _ => (LetsThrough.ofExcept _).bind fun _ => LetsThrough.pure _

lemma lets_evaluateDueJobs (hc : ∀ i, c ≠ some (.job i (.waiting 0))) :
    LetsThrough c (evaluateDueJobs E now outside lates) := by
  have hsession : LetsThrough c (evaluateSessionJobs E now outside lates) :=
    (LetsThrough.await.bind fun dueJobs => lets_evaluateJobs hc 0 false dueJobs).catchRaised fun _ =>
      LetsThrough.pure _
  exact LetsThrough.pause.bind fun _ => hsession.bind fun _ => LetsThrough.pause

lemma lets_pass_none (r : Round) : LetsThrough none (r.pass E) := by
  have hnone : ∀ i, none ≠ some (Point.job i (.waiting 0)) := nofun
  exact (lets_evaluateDueJobs hnone).bind fun _ => LetsThrough.catchCancelled nofun

/-! ## A job whose awaits are not cancelled, but perhaps the wait for its cell -/

def Missed (i : ℕ) (w : World Point (Session Database) ExecutionRequestPayload) : Prop :=
  ∀ p, p ≠ .waiting 0 → w.pending ≠ some (.job i p)

def waited (i : ℕ) (payload : ExecutionRequestPayload)
    (w : World Point (Session Database) ExecutionRequestPayload) :
    World Point (Session Database) ExecutionRequestPayload :=
  if w.pending = some (.job i (.waiting 0)) then (w.report payload).deliver else w.report payload

variable {w : World Point (Session Database) ExecutionRequestPayload} {payload : ExecutionRequestPayload}
  {isLate : Bool}

lemma waited_reported (i : ℕ) (payload : ExecutionRequestPayload)
    (w : World Point (Session Database) ExecutionRequestPayload) :
    (waited i payload w).reported = w.reported ++ [(payload, w.delivered)] := by
  rw [waited]
  split_ifs <;> rfl

lemma waited_state (i : ℕ) : (waited i payload w).state = w.state := by
  rw [waited]
  split_ifs <;> rfl

lemma waited_pending (i : ℕ) (payload : ExecutionRequestPayload)
    (w : World Point (Session Database) ExecutionRequestPayload) :
    (waited i payload w).pending = none ∨ (waited i payload w).pending = w.pending := by
  rw [waited]
  split_ifs
  · exact Or.inl rfl
  · exact Or.inr rfl

lemma Missed.waited (h : Missed i w) : Missed i (waited i payload w) := by
  intro p hp
  rcases waited_pending i payload w with hn | hs
  · rw [hn]
    exact nofun
  · rw [hs]
    exact h p hp

lemma submitExecution_returns (h : Missed i w) (x : String) :
    submitExecution i 0 (.ok x) isLate payload w = (.ok x, waited i payload w) := by
  have hw : Missed i (waited i payload w) := h.waited
  have hv : Missed i (w.report payload) := h
  have hwait : (Co.catchCancelled (Co.await (.job i (.waiting 0)) fun s => (.ok isLate, s)) (pure true) : Routine Bool)
      (w.report payload) =
        (.ok (if w.pending = some (.job i (.waiting 0)) then true else isLate), waited i payload w) := by
    rw [Co.catchCancelled, waited]
    by_cases hp : w.pending = some (.job i (.waiting 0))
    · have hd : (w.report payload).pending = some (.job i (.waiting 0)) := hp
      rw [Co.await_delivered hd, if_pos hp, if_pos hp]
      rfl
    · have hm : (w.report payload).pending ≠ some (.job i (.waiting 0)) := hp
      rw [Co.await_missed hm, if_neg hp, if_neg hp]
      rfl
  have hfinish : (do
      Co.pause (.job i (.finishing 0))
      pure x : Routine String) (waited i payload w) = (.ok x, waited i payload w) :=
    Co.pause_bind (hw (.finishing 0) (by simp))
  rw [submitExecution, Co.report_bind, Co.pause_bind (hv (.registering 0) (by simp)),
    Co.await_bind_read (hv (.validating 0) (by simp)) rfl, Co.pause_bind (hv (.starting 0) (by simp)), Co.bind_ok hwait]
  cases hr : (if w.pending = some (.job i (.waiting 0)) then true else isLate) with
  | false => exact hfinish
  | true => exact (Co.pause_bind (hw (.resetting 0) (by simp))).trans hfinish

lemma submitExecution_raises (h : Missed i w) (err : JobFailure) :
    submitExecution i 0 (.error err) isLate payload w =
      (.error (.raised err), w.report payload) := by
  have hv : Missed i (w.report payload) := h
  rw [submitExecution, Co.report_bind, Co.pause_bind (hv (.registering 0) nofun)]
  exact Co.await_bind_refused (hv (.validating 0) nofun) rfl

structure Submits (o : Outside) (job : Job) (d : Database) : Prop where
  free : ¬ (JobManager.preventsOverlap job ∧ (JobExecutionRepository.historyOf job.id d).any JobManager.isOpen)
  session : o.session = none
  codeless : JobManager.codeCells job.notebookId d = []

lemma submits_of_refusal (h : refusal o job d = none) : Submits o job d ∧ ∃ x, o.answers 0 = .ok x := by
  rw [refusal] at h
  by_cases hfree : JobManager.preventsOverlap job ∧
      (JobExecutionRepository.historyOf job.id d).any JobManager.isOpen
  · rw [if_pos hfree] at h
    cases h
  rw [if_neg hfree] at h
  cases hs : o.session with
  | some err =>
    rw [hs] at h
    cases h
  | none =>
    rw [hs] at h
    by_cases hc : JobManager.codeCells job.notebookId d = []
    · refine ⟨⟨hfree, hs, hc⟩, ?_⟩
      rw [runNotebook_codeless hc] at h
      cases ha : o.answers 0 with
      | ok x => exact ⟨x, rfl⟩
      | error err =>
        rw [ha] at h
        cases h
    · rw [runNotebook_code hc] at h
      cases h

section

variable (hm : Missed i w) (hs : w.state = .open d) (hr : Ready d job)

include hm hs hr

lemma trigger_submits (h : Submits o job d) :
    triggerJobExecution i o late job w =
      (submitExecution i 0 (o.answers 0) (late 0) (JobManager.placeholder job) >>= fun x =>
        Co.await (.job i .recording) (JobManager.recordExecution o.env job x .scheduled)) w := by
  have hload : JobManager.loadJob (some job) job.id w.state = (.ok job, w.state) := by
    rw [hs]
    exact loadJob_ready hr rfl
  have hcheck : JobManager.checkOverlap job w.state = (.ok (), w.state) := by
    rw [hs]
    exact checkOverlap_free h.free
  have hnotebook : runNotebook i o late job d =
      submitExecution i 0 (o.answers 0) (late 0) (JobManager.placeholder job) := by
    rw [runNotebook, h.codeless]
  rw [triggerJobExecution, Co.await_bind_read (hm .loading nofun) hload, Co.await_bind_read (hm .checking nofun) hcheck,
    Co.await_bind_read (hm .opening nofun) (by rw [h.session]; rfl)]
  refine (Co.await_bind_read (hm .listing nofun) rfl).trans ?_
  rw [hs, ← hnotebook]
  rfl

lemma fire_refused (E : Environment) (now : Instant) (late : ℕ → Bool) (h : ¬ Submits o job d) :
    ∃ err, fire E now i o late job w = (.error (.raised err), w) := by
  have hload : JobManager.loadJob (some job) job.id w.state = (.ok job, w.state) := by
    rw [hs]
    exact loadJob_ready hr rfl
  by_cases hfree : JobManager.preventsOverlap job ∧
      (JobExecutionRepository.historyOf job.id d).any JobManager.isOpen
  · have hcheck : JobManager.checkOverlap job w.state =
        (.error (.concurrency (toString job.id)), w.state) := by
      rw [hs]
      exact checkOverlap_open hfree
    refine ⟨.concurrency (toString job.id), Co.bind_error ?_⟩
    rw [triggerJobExecution, Co.await_bind_read (hm .loading nofun) hload]
    exact Co.await_bind_refused (hm .checking nofun) hcheck
  have hcheck : JobManager.checkOverlap job w.state = (.ok (), w.state) := by
    rw [hs]
    exact checkOverlap_free hfree
  cases hsession : o.session with
  | some err =>
    refine ⟨err, Co.bind_error ?_⟩
    rw [triggerJobExecution, Co.await_bind_read (hm .loading nofun) hload,
      Co.await_bind_read (hm .checking nofun) hcheck]
    exact Co.await_bind_refused (hm .opening nofun) (by rw [hsession]; rfl)
  | none =>
    have hcells : JobManager.codeCells job.notebookId d ≠ [] := fun hc => h ⟨hfree, hsession, hc⟩
    obtain ⟨cell, cells, hc⟩ := List.exists_cons_of_ne_nil hcells
    refine ⟨.attributeError "'NotebookCell' object has no attribute 'code_content'", Co.bind_error ?_⟩
    rw [triggerJobExecution, Co.await_bind_read (hm .loading nofun) hload,
      Co.await_bind_read (hm .checking nofun) hcheck, Co.await_bind_read (hm .opening nofun) (by rw [hsession]; rfl)]
    refine (Co.await_bind_read (hm .listing nofun) rfl).trans (Co.bind_error ?_)
    rw [hs]
    change runNotebook i o late job d _ = _
    rw [runNotebook, hc]
    rfl

lemma fire_recorded (h : refusal o job d = none) :
    fire E now i o late job w =
      (Co.await (.job i .rescheduling) (JobScheduler.reschedule E now o.env job) >>= fun _ =>
        Co.await (.job i .committing) commit)
        ((waited i (JobManager.placeholder job) w).withState ⟨d, recorded o .scheduled job d⟩) := by
  obtain ⟨hsub, x, hx⟩ := submits_of_refusal h
  have hpass : Passes (some job) job.id job d :=
    ⟨loadJob_ready (s := .open d) hr rfl, checkOverlap_free (s := .open d) hsub.free⟩
  have hrecord : JobManager.recordExecution o.env job x .scheduled (.open d) =
      (.ok (historyRow o .scheduled job d), ⟨d, recorded o .scheduled job d⟩) := by
    rw [← trigger_codeless hsub.session hpass hsub.codeless hx, trigger_eq o (some job) .scheduled hr rfl, h]
  have hw : Missed i (waited i (JobManager.placeholder job) w) := hm.waited
  have hstate : (waited i (JobManager.placeholder job) w).state = .open d := (waited_state i).trans hs
  have htrigger : triggerJobExecution i o late job w = (.ok (historyRow o .scheduled job d),
      (waited i (JobManager.placeholder job) w).withState ⟨d, recorded o .scheduled job d⟩) := by
    rw [trigger_submits hm hs hr hsub, hx, Co.bind_ok (submitExecution_returns hm x)]
    exact (Co.await_missed (hw .recording nofun)).trans (Co.perform_ok (by rw [hstate, hrecord]))
  exact Co.bind_ok htrigger

lemma fire_goes {nextRun : Option Instant} (h : Fires E now o job d nextRun) :
    fire E now i o late job w = (.ok (),
      (waited i (JobManager.placeholder job) w).withState (.open (fired now o job nextRun d))) := by
  have hw : Missed i ((waited i (JobManager.placeholder job) w).withState ⟨d, recorded o .scheduled job d⟩) :=
    hm.waited
  have hlast : Missed i (((waited i (JobManager.placeholder job) w).withState
      ⟨d, recorded o .scheduled job d⟩).withState ⟨d, fired now o job nextRun d⟩) := hm.waited
  have hschedule := reschedule_eq E now o hr
  rw [h.2] at hschedule
  rw [fire_recorded hm hs hr h.1]
  have hcommit : (commit : Tx Database JobFailure Unit) ⟨d, fired now o job nextRun d⟩ =
      (.ok (), .open (fired now o job nextRun d)) := rfl
  refine (Co.await_bind_ok (hw .rescheduling nofun) hschedule).trans ?_
  exact (Co.await_missed (hlast .committing nofun)).trans (Co.perform_ok hcommit)

lemma fire_stops (late : ℕ → Bool) (h : Submits o job d) (hn : ∀ nextRun, ¬ Fires E now o job d nextRun) :
    ∃ err v, fire E now i o late job w = (.error (.raised err), v) ∧
      v.reported = w.reported ++ [(JobManager.placeholder job, w.delivered)] ∧ Missed i v := by
  have hw : Missed i (waited i (JobManager.placeholder job) w) := hm.waited
  have hstate : (waited i (JobManager.placeholder job) w).state = .open d := (waited_state i).trans hs
  cases hrefusal : refusal o job d with
  | none =>
    have hschedule := reschedule_eq E now o hr
    cases hnext : nextFrom E now job with
    | ok nextRun => exact absurd ⟨hrefusal, hnext⟩ (hn nextRun)
    | error err =>
      rw [hnext] at hschedule
      refine ⟨err, (waited i (JobManager.placeholder job) w).withState ⟨d, recorded o .scheduled job d⟩, ?_,
        waited_reported i _ w, hw⟩
      rw [fire_recorded hm hs hr hrefusal]
      exact Co.await_bind_error (hw .rescheduling (by simp)) hschedule
  | some err =>
    cases hx : o.answers 0 with
    | error answer =>
      refine ⟨answer, w.report (JobManager.placeholder job), Co.bind_error ?_, rfl, hm⟩
      rw [trigger_submits hm hs hr h, hx]
      exact Co.bind_error (submitExecution_raises hm answer)
    | ok x =>
      have htaken : d.jobExecutions.any (fun y => y.id = o.env.uuid) = true := by
        by_contra hno
        rw [refusal, if_neg h.free, h.session, runNotebook_codeless h.codeless, hx] at hrefusal
        simp only [hno, Bool.false_eq_true, if_false] at hrefusal
        cases hrefusal
      have hrecord : JobManager.recordExecution o.env job x .scheduled (.open d) =
          (.error .integrityError, .open d) := recordExecution_taken htaken
      refine ⟨.integrityError, (waited i (JobManager.placeholder job) w).withState (.open d), Co.bind_error ?_,
        waited_reported i _ w, hw⟩
      rw [trigger_submits hm hs hr h, hx, Co.bind_ok (submitExecution_returns hm x)]
      exact (Co.await_missed (hw .recording (by simp))).trans (Co.perform_error (by rw [hstate, hrecord]))

end

lemma evaluateJobs_fired {v : World Point (Session Database) ExecutionRequestPayload}
    (h : fire E now i (outside job.id) (lates job.id) job w = (.ok (), v)) :
    evaluateJobs E now outside lates i false (job :: rest) w =
      evaluateJobs E now outside lates (i + 1) false rest v := by
  rw [evaluateJobs, JobScheduler.nameOf]
  refine (Co.ofExcept_bind job.name).trans ?_
  exact Co.bind_ok (Co.catchRaised_ok (Co.bind_ok h))

lemma evaluateJobs_raised {err : JobFailure} {v : World Point (Session Database) ExecutionRequestPayload}
    (h : fire E now i (outside job.id) (lates job.id) job w = (.error (.raised err), v)) (hv : Missed i v) :
    (evaluateJobs E now outside lates i false (job :: rest) w).2.reported = v.reported := by
  have hback : rollBack i job v =
      (.error (.raised .missingGreenlet), v.withState ⟨v.state.committed, v.state.committed⟩) := by
    have hrollback : (rollback : Tx Database JobFailure Unit) v.state =
        (.ok (), ⟨v.state.committed, v.state.committed⟩) := rfl
    exact Co.await_bind_ok (hv .rollingBack nofun) hrollback
  have hbody : Co.catchRaised (fire E now i (outside job.id) (lates job.id) job >>= fun _ => pure false)
      (fun _ => rollBack i job) w = (.error (.raised .missingGreenlet), v.withState
        ⟨v.state.committed, v.state.committed⟩) :=
    (Co.catchRaised_raised (Co.bind_error h)).trans hback
  have hall : evaluateJobs E now outside lates i false (job :: rest) w =
      (.error (.raised .missingGreenlet), v.withState ⟨v.state.committed, v.state.committed⟩) := by
    rw [evaluateJobs, JobScheduler.nameOf]
    exact (Co.ofExcept_bind job.name).trans (Co.bind_error hbody)
  rw [hall]
  rfl

/-! ## What is submitted after the wait that has been cancelled -/

def Goes (E : Environment) (now : Instant) (outside : Uuid → Outside) (d : Database) (job : Job) : Prop :=
  ∃ nextRun, Fires E now (outside job.id) job d nextRun

def Further (E : Environment) (now : Instant) (outside : Uuid → Outside) (d : Database) (n : ℕ)
    (jobs : List Job) : Prop :=
  (∀ job ∈ jobs.take (n + 1), Goes E now outside d job) ∧
    ∃ next ∈ jobs[n + 1]?, Submits (outside next.id) next d

variable {next : Job} {nextRun : Option Instant}

lemma submits_fired {o' : Outside} (hi : next.id ≠ job.id) :
    Submits o' next (fired now o job nextRun d) ↔ Submits o' next d := by
  have hh : JobExecutionRepository.historyOf next.id (fired now o job nextRun d) =
      JobExecutionRepository.historyOf next.id d := historyOf_fired hi nextRun
  constructor
  · intro h
    exact ⟨by rw [← hh]; exact h.free, h.session, h.codeless⟩
  · intro h
    exact ⟨by rw [hh]; exact h.free, h.session, h.codeless⟩

lemma goes_fired (hi : next.id ≠ job.id) (hu : (outside job.id).env.uuid ≠ (outside next.id).env.uuid) :
    Goes E now outside (fired now (outside job.id) job nextRun d) next ↔ Goes E now outside d next := by
  rw [Goes, Goes]
  apply exists_congr
  intro nextRun'
  rw [Fires, Fires, refusal_fired hi hu]

lemma further_zero (hi : ∀ x ∈ rest, x.id ≠ job.id) (hg : Goes E now outside d job) :
    Further E now outside d 0 (job :: rest) ↔
      ∃ next ∈ rest.head?, Submits (outside next.id) next (fired now (outside job.id) job nextRun d) := by
  have hhead : (job :: rest)[0 + 1]? = rest.head? := by
    rw [List.getElem?_cons_succ, List.head?_eq_getElem?]
  rw [Further, hhead]
  constructor
  · rintro ⟨-, next, hn, hs⟩
    exact ⟨next, hn, (submits_fired (hi next (List.mem_of_head? hn))).mpr hs⟩
  · rintro ⟨next, hn, hs⟩
    refine ⟨fun x hx => ?_, next, hn, (submits_fired (hi next (List.mem_of_head? hn))).mp hs⟩
    rw [List.mem_singleton.mp hx]
    exact hg

lemma further_succ (hi : ∀ x ∈ rest, x.id ≠ job.id)
    (hu : ∀ x ∈ rest, (outside job.id).env.uuid ≠ (outside x.id).env.uuid) (hg : Goes E now outside d job) :
    Further E now outside d (n + 1) (job :: rest) ↔
      Further E now outside (fired now (outside job.id) job nextRun d) n rest := by
  have hgoes : ∀ x ∈ rest.take (n + 1), (Goes E now outside (fired now (outside job.id) job nextRun d) x ↔
      Goes E now outside d x) := fun x hx =>
    goes_fired (hi x (List.mem_of_mem_take hx)) (hu x (List.mem_of_mem_take hx))
  rw [Further, Further, List.take_succ_cons, List.forall_mem_cons, List.getElem?_cons_succ]
  constructor
  · rintro ⟨⟨-, hall⟩, next, hn, hs⟩
    refine ⟨fun x hx => (hgoes x hx).mpr (hall x hx), next, hn, ?_⟩
    exact (submits_fired (hi next (List.mem_of_getElem? hn))).mpr hs
  · rintro ⟨hall, next, hn, hs⟩
    refine ⟨⟨hg, fun x hx => (hgoes x hx).mp (hall x hx)⟩, next, hn, ?_⟩
    exact (submits_fired (hi next (List.mem_of_getElem? hn))).mp hs

lemma missed_waiting {m : ℕ} (h : w.pending = none ∨ w.pending = some (.job m (.waiting 0))) (i : ℕ) :
    Missed i w := by
  intro p hp he
  rcases h with h | h
  · rw [h] at he
    cases he
  · rw [h] at he
    cases he
    exact hp rfl

lemma evaluateJobs_cases (E : Environment) (now : Instant) (lates : Uuid → ℕ → Bool) (rest : List Job)
    (hr : Ready d job) (hs : w.state = .open d) (hm : Missed i w) :
    (∃ nextRun, Fires E now (outside job.id) job d nextRun ∧
      evaluateJobs E now outside lates i false (job :: rest) w =
        evaluateJobs E now outside lates (i + 1) false rest ((waited i (JobManager.placeholder job) w).withState
          (.open (fired now (outside job.id) job nextRun d)))) ∨
    ¬ Goes E now outside d job ∧
      ((Submits (outside job.id) job d ∧ (evaluateJobs E now outside lates i false (job :: rest) w).2.reported =
          w.reported ++ [(JobManager.placeholder job, w.delivered)]) ∨
        ¬ Submits (outside job.id) job d ∧
          (evaluateJobs E now outside lates i false (job :: rest) w).2.reported = w.reported) := by
  rcases fires_or E now (outside job.id) job d with ⟨nextRun, hf⟩ | hn
  · exact Or.inl ⟨nextRun, hf, evaluateJobs_fired (fire_goes hm hs hr hf)⟩
  · refine Or.inr ⟨fun ⟨nextRun, hf⟩ => hn nextRun hf, ?_⟩
    by_cases hsub : Submits (outside job.id) job d
    · obtain ⟨err, v, hfire, hv, hmissed⟩ := fire_stops hm hs hr (lates job.id) hsub hn
      exact Or.inl ⟨hsub, (evaluateJobs_raised hfire hmissed).trans hv⟩
    · obtain ⟨err, hfire⟩ := fire_refused hm hs hr E now (lates job.id) hsub
      exact Or.inr ⟨hsub, evaluateJobs_raised hfire hm⟩

lemma waited_missed (hn : w.pending = none) : (waited i payload w).pending = none := by
  rcases waited_pending i payload w with h | h
  · exact h
  · exact h.trans hn

lemma evaluateJobs_grows (hq : Queue d jobs) (hs : w.state = .open d) (hn : w.pending = none) :
    w.reported <+: (evaluateJobs E now outside lates i false jobs w).2.reported := by
  induction jobs generalizing i d w with
  | nil => exact List.prefix_refl _
  | cons job rest ih =>
    have hm : Missed i w := missed_waiting (m := 0) (Or.inl hn) i
    rcases evaluateJobs_cases E now lates rest hq.head hs hm with
      ⟨nextRun, -, he⟩ | ⟨-, ⟨-, he⟩ | ⟨-, he⟩⟩
    · have hpending : (waited i (JobManager.placeholder job) w).pending = none := waited_missed hn
      rw [he]
      refine List.IsPrefix.trans ?_ (ih (hq.fired (outside job.id) nextRun) rfl hpending)
      exact ⟨_, (waited_reported i (JobManager.placeholder job) w).symm⟩
    · exact ⟨_, he.symm⟩
    · rw [he]

lemma silent_delivered (hq : Queue d jobs) (hs : w.state = .open d) (hn : w.pending = none)
    (hd : w.delivered = true) (hw : w.Silent) :
    (evaluateJobs E now outside lates i false jobs w).2.Silent ↔
      ¬ ∃ next ∈ jobs.head?, Submits (outside next.id) next d := by
  cases jobs with
  | nil => exact iff_of_true hw fun ⟨_, hnext, _⟩ => by cases hnext
  | cons job rest =>
    have hhead : (∃ next ∈ (job :: rest).head?, Submits (outside next.id) next d) ↔
        Submits (outside job.id) job d := by simp
    have hloud : ∀ l : List (ExecutionRequestPayload × Bool), (JobManager.placeholder job, true) ∈ l →
        ¬ ∀ r ∈ l, r.2 = false := by
      intro l hl h
      cases h _ hl
    have hm : Missed i w := missed_waiting (m := 0) (Or.inl hn) i
    rw [hhead]
    rcases evaluateJobs_cases E now lates rest hq.head hs hm with
      ⟨nextRun, hf, he⟩ | ⟨-, ⟨hsub, he⟩ | ⟨hsub, he⟩⟩
    · refine iff_of_false (hloud _ ?_) fun h => h (submits_of_refusal hf.1).1
      have hpending : (waited i (JobManager.placeholder job) w).pending = none := waited_missed hn
      have hgrows : ((waited i (JobManager.placeholder job) w).withState
          (.open (fired now (outside job.id) job nextRun d))).reported <+:
          (evaluateJobs E now outside lates (i + 1) false rest ((waited i (JobManager.placeholder job) w).withState
            (.open (fired now (outside job.id) job nextRun d)))).2.reported :=
        evaluateJobs_grows (hq.fired (outside job.id) nextRun) rfl hpending
      rw [he]
      apply hgrows.subset
      change _ ∈ (waited i (JobManager.placeholder job) w).reported
      rw [waited_reported, hd]
      exact List.mem_append_right _ List.mem_cons_self
    · refine iff_of_false (hloud _ ?_) fun h => h hsub
      rw [he, hd]
      exact List.mem_append_right _ List.mem_cons_self
    · refine iff_of_true (fun r hr => ?_) hsub
      rw [he] at hr
      exact hw r hr

lemma silent_cancelled {m : ℕ} (hq : Queue d jobs) (hu : Fresh outside jobs) (hs : w.state = .open d)
    (hw : w.Untouched (some (.job (i + m) (.waiting 0)))) :
    (evaluateJobs E now outside lates i false jobs w).2.Silent ↔ ¬ Further E now outside d m jobs := by
  induction jobs generalizing i m d w with
  | nil => exact iff_of_true hw.silent fun ⟨_, next, hn, _⟩ => by cases hn
  | cons job rest ih =>
    have hm : Missed i w := missed_waiting (Or.inr hw.pending) i
    rcases evaluateJobs_cases E now lates rest hq.head hs hm with
      ⟨nextRun, hf, he⟩ | ⟨hn, h⟩
    · have hids : ∀ x ∈ rest, x.id ≠ job.id := fun x hx => hq.other hx
      have huuids : ∀ x ∈ rest, (outside job.id).env.uuid ≠ (outside x.id).env.uuid := fun x hx => hu.head hx
      have hgoes : Goes E now outside d job := ⟨nextRun, hf⟩
      have hsilent : (waited i (JobManager.placeholder job) w).Silent :=
        hw.reports (waited_reported i (JobManager.placeholder job) w)
      rw [he]
      cases m with
      | zero =>
        have hwaited : waited i (JobManager.placeholder job) w = (w.report (JobManager.placeholder job)).deliver :=
          if_pos hw.pending
        rw [further_zero hids hgoes, hwaited]
        rw [hwaited] at hsilent
        exact silent_delivered (hq.fired (outside job.id) nextRun) rfl rfl rfl hsilent
      | succ m =>
        have hother : w.pending ≠ some (.job i (.waiting 0)) := by
          rw [hw.pending]
          intro he
          injection he with he
          injection he with he
          omega
        have hwaited : waited i (JobManager.placeholder job) w = w.report (JobManager.placeholder job) :=
          if_neg hother
        rw [further_succ hids huuids hgoes, hwaited]
        rw [hwaited] at hsilent
        apply ih (hq.fired (outside job.id) nextRun) hu.tail rfl
        refine ⟨?_, hw.delivered, hsilent⟩
        change w.pending = _
        rw [hw.pending, Nat.add_right_comm, Nat.add_assoc]
    · refine iff_of_true ?_ fun hfurther => hn (hfurther.1 job List.mem_cons_self)
      rcases h with ⟨-, he⟩ | ⟨-, he⟩
      · exact hw.reports he
      · intro r hr
        rw [he] at hr
        exact hw.silent r hr

namespace Round

variable {r : Round}

lemma pass_reported (E : Environment) (r : Round) (w : World Point (Session Database) ExecutionRequestPayload) :
    (r.pass E w).2.reported = (evaluateDueJobs E r.now r.outside r.late w).2.reported := by
  have hsleep : Mute (Co.catchCancelled (Co.pause .sleeping) (pure ()) : Routine Unit) :=
    Mute.catchCancelled (Mute.pause _) (Mute.pure _)
  exact Mute.after (fun _ => hsleep) _ w

lemma evaluation_reported {m : ℕ} (hp : w.pending = some (.job m (.waiting 0))) (hs : w.state = .open d) :
    (evaluateDueJobs E now outside lates w).2.reported =
      (evaluateJobs E now outside lates 0 false (JobScheduler.dueJobs now d) w).2.reported := by
  have hconnecting : w.pending ≠ some .connecting := by
    rw [hp]
    exact nofun
  have hquerying : w.pending ≠ some .querying := by
    rw [hp]
    exact nofun
  have hread : ((Co.await .querying fun s => (.ok (JobScheduler.dueJobs now s.view), s)) >>= fun dueJobs =>
      evaluateJobs E now outside lates 0 false dueJobs : Routine Unit) w =
        evaluateJobs E now outside lates 0 false (JobScheduler.dueJobs now d) w := by
    refine (Co.await_bind_read hquerying rfl).trans ?_
    rw [hs]
    rfl
  rw [evaluateDueJobs, Co.pause_bind hconnecting, Mute.after fun _ => Mute.pause _, evaluateSessionJobs,
    Mute.handled fun _ => Mute.pure _]
  exact congrArg (fun r => r.2.reported) hread

/-- The cancellation comes while a submitted cell is waited for, and there is a job to follow. -/
def Swallows (E : Environment) (r : Round) (c : Point) : Prop :=
  ∃ i, c = .job i (.waiting 0) ∧
    Further E r.now r.outside r.database i (JobScheduler.dueJobs r.now r.database)

lemma start_untouched (r : Round) (c : Option Point) : (r.start c).Untouched c :=
  ⟨rfl, rfl, fun _ hx => absurd hx List.not_mem_nil⟩

lemma pass_silent_iff (E : Environment) (r : Round) (c : Point) :
    (∀ x ∈ (r.pass E (r.start (some c))).2.reported, x.2 = false) ↔ ¬ r.Swallows E c := by
  rw [pass_reported]
  by_cases hc : ∃ i, c = .job i (.waiting 0)
  · obtain ⟨i, rfl⟩ := hc
    have hswallows : r.Swallows E (.job i (.waiting 0)) ↔
        Further E r.now r.outside r.database i (JobScheduler.dueJobs r.now r.database) := by
      constructor
      · rintro ⟨j, hj, hf⟩
        cases hj
        exact hf
      · intro hf
        exact ⟨i, rfl, hf⟩
    have hstart : (r.start (some (.job i (.waiting 0)))).Untouched (some (.job (0 + i) (.waiting 0))) := by
      rw [Nat.zero_add]
      exact r.start_untouched _
    rw [evaluation_reported rfl rfl, hswallows]
    exact silent_cancelled (r.keys.due r.now) r.fresh rfl hstart
  · have hpoint : ∀ i, some c ≠ some (.job i (.waiting 0)) := by
      intro i he
      exact hc ⟨i, Option.some_inj.mp he⟩
    exact iff_of_true ((lets_evaluateDueJobs hpoint).silent (r.start_untouched _)) fun ⟨i, he, _⟩ => hc ⟨i, he⟩

lemma pass_running (E : Environment) (r : Round) : (r.pass E (r.start none)).2.Untouched none :=
  (lets_pass_none r).untouched (r.start_untouched none)

end Round

lemma runLoop_running {m k : ℕ} (hk : k ≠ m) (E : Environment) (c : Point) (r : Round) (rs : List Round) :
    (∀ x ∈ runLoop E m c k (r :: rs), x.2 = false) ↔ ∀ x ∈ runLoop E m c (k + 1) rs, x.2 = false := by
  have hpass := r.pass_running E
  rw [runLoop, if_neg hk, hpass.delivered, List.forall_mem_append]
  exact and_iff_right hpass.silent

lemma runLoop_later {m k : ℕ} (hk : m < k) (E : Environment) (c : Point) (rounds : List Round) :
    ∀ x ∈ runLoop E m c k rounds, x.2 = false := by
  induction rounds generalizing k with
  | nil => exact fun x hx => absurd hx List.not_mem_nil
  | cons r rs ih =>
    rw [runLoop_running (Nat.ne_of_gt hk)]
    exact ih (Nat.lt_succ_of_lt hk)

lemma runLoop_silent_iff (E : Environment) (m k : ℕ) (c : Point) (rounds : List Round) :
    (∀ x ∈ runLoop E (k + m) c k rounds, x.2 = false) ↔ ∀ r ∈ rounds[m]?, ¬ r.Swallows E c := by
  induction rounds generalizing m k with
  | nil => exact iff_of_true (fun x hx => absurd hx List.not_mem_nil) fun r hr => by cases hr
  | cons r rs ih =>
    cases m with
    | zero =>
      have hrest : ∀ x ∈ (if (r.pass E (r.start (some c))).2.delivered then [] else runLoop E k c (k + 1) rs),
          x.2 = false := by
        split_ifs
        · exact fun x hx => absurd hx List.not_mem_nil
        · exact runLoop_later (Nat.lt_succ_self k) E c rs
      rw [Nat.add_zero, runLoop, if_pos rfl, List.forall_mem_append, and_iff_left hrest]
      simpa using r.pass_silent_iff E c
    | succ m =>
      rw [runLoop_running (by omega), List.getElem?_cons_succ, ← ih m (k + 1), Nat.add_right_comm, Nat.add_assoc]

theorem shutdown_iff (E : Environment) (rounds : List Round) (m : ℕ) (c : Point) :
    (∀ x ∈ runLoop E m c 0 rounds, x.2 = false) ↔ ∀ r ∈ rounds[m]?, ¬ r.Swallows E c := by
  have h := runLoop_silent_iff E m 0 c rounds
  rwa [Nat.zero_add] at h

def twoDue : Round where
  now := 0
  database := twoJobs [atTwo 1 "report", atTwo 3 "digest"]
  outside := crew
  late _ _ := false
  keys := ⟨by decide, by decide⟩
  fresh := by decide

lemma twoDue_swallows : twoDue.Swallows world (.job 0 (.waiting 0)) := by
  have hgoes : Goes world 0 crew twoDue.database (atTwo 1 "report") :=
    ⟨some 7200000000, rfl, atTwo_next 1 "report"⟩
  have hsubmits : Submits (crew 3) (atTwo 3 "digest") twoDue.database := ⟨by decide, rfl, rfl⟩
  refine ⟨0, rfl, fun job hj => ?_, atTwo 3 "digest", rfl, hsubmits⟩
  have hm : job ∈ [atTwo 1 "report"] := hj
  rw [List.mem_singleton.mp hm]
  exact hgoes

theorem second_job_submitted :
    (∃ x ∈ runLoop world 0 (.job 0 (.waiting 0)) 0 [twoDue], x.2 = true) ∧
      ¬ ∀ E rounds m c, ∀ x ∈ runLoop E m c 0 rounds, x.2 = false := by
  have hloud : ¬ ∀ x ∈ runLoop world 0 (.job 0 (.waiting 0)) 0 [twoDue], x.2 = false := by
    intro h
    exact (runLoop_silent_iff world 0 0 (.job 0 (.waiting 0)) [twoDue]).mp h twoDue rfl twoDue_swallows
  refine ⟨?_, fun h => hloud (h world [twoDue] 0 (.job 0 (.waiting 0)))⟩
  simpa using hloud

end Shutdown

end NotebookExecution.Jobs
