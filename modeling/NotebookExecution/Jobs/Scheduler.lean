import NotebookExecution.Jobs.Manager

/-! One evaluation of the scheduler: the due jobs are loaded once and triggered one after the other
in the session that loaded them. -/

namespace NotebookExecution.Jobs

open Library.Transaction Library.Table Library.Calendar Store JobManager

namespace JobScheduler

def nameOf (expired : Bool) (job : Job) : Except JobFailure String :=
  -- Reading an attribute of a loaded object; after a rollback there is nothing left to read, and no
  -- await to load it with.
  if expired then .error .missingGreenlet else .ok job.name

def reschedule (E : Environment) (now : Instant) (e : Env) (job : Job) : Tx Database JobFailure Unit := do
  -- The update of the schedule. The update inside the trigger has refreshed the job.
  let row ← JobRepository.getById job.id
  let nextRun ← ofExcept (nextRunOf E now (row.getD job) (some (.aware (utc.at now))))
  let _ ← JobRepository.update e job.id { nextRunAt := nextRun, lastRunAt := some now }
  pure ()

def fire (E : Environment) (now : Instant) (w : Outside) (job : Job) :
    Tx Database JobFailure Unit := do
  let _ ← triggerJobExecution w (some job) job.id .scheduled
  reschedule E now w.env job
  commit

structure Fired where
  jobId : Uuid
  committed : Bool
  deriving DecidableEq

def evaluateJobs (E : Environment) (now : Instant) (w : Uuid → Outside) :
    Bool → List Job → Session Database → List Fired × Session Database
  -- The loop. What the log messages read can raise; then the outer handler ends the evaluation.
  | _, [], s => ([], s)
  | expired, job :: rest, s =>
    match nameOf expired job with
    | .error _ => ([], s)
    | .ok _ =>
      match fire E now (w job.id) job s with
      | (.ok _, t) =>
        let r := evaluateJobs E now w expired rest t
        (⟨job.id, true⟩ :: r.1, r.2)
      | (.error _, t) =>
        let u : Session Database := ⟨t.committed, t.committed⟩
        match nameOf true job with
        | .error _ => ([⟨job.id, false⟩], u)
        | .ok _ =>
          let r := evaluateJobs E now w true rest u
          (⟨job.id, false⟩ :: r.1, r.2)

def dueJobs (now : Instant) (d : Database) : List Job := d.jobs.filter (JobRepository.isDue now)

def evaluateSessionJobs (E : Environment) (now : Instant) (w : Uuid → Outside) (d : Database) :
    List Fired × Database :=
  let r := evaluateJobs E now w false (dueJobs now d) (.open d)
  (r.1, r.2.committed)

end JobScheduler

end NotebookExecution.Jobs
