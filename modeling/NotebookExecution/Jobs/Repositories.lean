import NotebookExecution.Jobs.Schedule
import NotebookExecution.Store.Repositories

/-! The repositories of jobs and of their execution history over one session. -/

namespace NotebookExecution.Jobs

open Library.Transaction Library.Table Store

variable {ε : Type}

/-- `jobs.name` is unique; the tables of jobs declare no foreign keys. -/
def jobClash (d : Database) (j : Job) : Bool := d.jobs.any fun x => x.id ≠ j.id ∧ x.name = j.name

structure JobChanges where
  name : Option String := none
  description : Option String := none
  scheduleType : Option String := none
  cronExpression : Option String := none
  timezone : Option String := none
  concurrencyPolicy : Option String := none
  maxRetries : Option ℕ := none
  retryDelaySeconds : Option ℕ := none
  parameters : Option Json := none
  status : Option JobStatus := none
  nextRunAt : Option Instant := none
  lastRunAt : Option Instant := none
  clearNextRun : Bool := false

namespace JobRepository

def assign (c : JobChanges) (j : Job) : Job :=
  { j with
    name := c.name.getD j.name
    description := c.description.or j.description
    scheduleType := c.scheduleType.getD j.scheduleType
    cronExpression := c.cronExpression.or j.cronExpression
    timezone := c.timezone.getD j.timezone
    concurrencyPolicy := c.concurrencyPolicy.getD j.concurrencyPolicy
    maxRetries := c.maxRetries.getD j.maxRetries
    retryDelaySeconds := c.retryDelaySeconds.getD j.retryDelaySeconds
    parameters := c.parameters.getD j.parameters
    status := c.status.getD j.status
    nextRunAt := if c.clearNextRun then none else c.nextRunAt.or j.nextRunAt
    lastRunAt := c.lastRunAt.or j.lastRunAt }

def stamp (e : Env) (j : Job) : Job := { j with updatedAt := e.now }

def create (j : Job) : Tx Database JobFailure Job := jobTable.insert jobClash .integrityError j

def getById (k : Uuid) : Tx Database ε (Option Job) := jobTable.getById k

def getByName (name : String) : Tx Database ε (Option Job) := do
  let d ← read
  pure (d.jobs.find? fun j => j.name = name)

def isDue (now : Instant) (j : Job) : Bool :=
  decide (j.status = .active) && j.nextRunAt.any fun t => decide (t ≤ now)

def listDueJobs (now : Instant) : Tx Database ε (List Job) := do
  let d ← read
  pure (d.jobs.filter (isDue now))

def update (e : Env) (k : Uuid) (c : JobChanges) : Tx Database JobFailure (Option Job) :=
  jobTable.update jobClash .integrityError k (assign c) (stamp e)

def delete (k : Uuid) : Tx Database ε Bool := jobTable.delete k id

end JobRepository

namespace JobExecutionRepository

def row (e : Env) (jobId : Uuid) (executionId : String) (triggerType : TriggerType)
    (status : JobExecutionStatus) (startedAt : Instant) : JobExecution :=
  ⟨e.uuid, jobId, executionId, status, triggerType, some startedAt, none, e.now⟩

def create (r : JobExecution) : Tx Database JobFailure JobExecution :=
  jobExecutionTable.insert (fun _ _ => false) .integrityError r

def historyOf (jobId : Uuid) (d : Database) : List JobExecution :=
  (d.jobExecutions.filter fun h => h.jobId = jobId).insertionSort fun x y => y.createdAt ≤ x.createdAt

def listByJobId (jobId : Uuid) : Tx Database ε (List JobExecution) := do
  let d ← read
  pure (historyOf jobId d)

def updateStatus (executionId : String) (status : JobExecutionStatus) (finishedAt : Instant) :
    Tx Database JobFailure (Option JobExecution) := do
  let d ← read
  match d.jobExecutions.filter fun h => h.executionId = executionId with
  | [] => pure none
  | [h] =>
    jobExecutionTable.update (fun _ _ => false) .integrityError h.id
      (fun h => { h with status := status, finishedAt := some finishedAt }) id
  | _ => throw .multipleResults

end JobExecutionRepository

end NotebookExecution.Jobs
