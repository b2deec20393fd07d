import NotebookExecution.Execution.Manager
import NotebookExecution.Jobs.Repositories

/-! The job manager: definitions of jobs, their lifecycle, and the parts of
`trigger_job_execution` between its suspensions. -/

namespace NotebookExecution.Jobs

open Library.Transaction Library.Table Library.Text Library.Calendar Store
open Execution (ExecutionRequestPayload SessionId ExecutionStatus ExecutionManager)

structure JobCreate where
  name : String
  notebookId : Uuid
  workspaceId : Option Uuid
  projectId : Option Uuid
  description : Option String
  scheduleType : String
  cronExpression : Option String
  timezone : String
  concurrencyPolicy : String
  maxRetries : ℕ
  retryDelaySeconds : ℕ
  parameters : Option Json

structure JobUpdate where
  name : Option String
  description : Option String
  scheduleType : Option String
  cronExpression : Option String
  timezone : Option String
  concurrencyPolicy : Option String
  maxRetries : Option ℕ
  retryDelaySeconds : Option ℕ
  parameters : Option Json

/-- Python's `a or b` on a value that is falsy when missing or empty. -/
def orText (a : Option String) (b : String) : String := a.elim b fun s => if s = "" then b else s

def instantOf (r : Except JobFailure (Option DateTime)) : Except JobFailure (Option Instant) :=
  r.map fun o => o.map DateTime.instant

namespace JobManager

def getJob (k : Uuid) : Tx Database JobFailure Job := do
  match ← JobRepository.getById k with
  | none => throw (.notFound (toString k))
  | some j => pure j

def requireTimezone (E : Environment) (tzName : String) : Tx Database JobFailure Unit := do
  if !(← ofExcept (validateTimezone E tzName)) then
    throw (.scheduleValidation ("Invalid timezone identifier '" ++ tzName ++ "'."))

def scheduled (E : Environment) (e : Env) (scheduleType : String) (cron : Option String)
    (tzName : String) (other : Option Instant) : Tx Database JobFailure (Option Instant) :=
  if scheduleType = "CRON" then
    match cron with
    | none => throw (.scheduleValidation "Cron expression is required for CRON schedule type.")
    | some c =>
      if c = "" then throw (.scheduleValidation "Cron expression is required for CRON schedule type.")
      else if !validateCronExpression c then
        throw (.scheduleValidation ("Invalid 5-field cron expression '" ++ c ++ "'."))
      else ofExcept (instantOf (calculateNextRun E e.now (some c) tzName none))
  else pure other

def workspaceOf : Option Uuid → Except JobFailure Uuid
  -- `workspace_id or nb.workspace_id`: a notebook has no such attribute.
  | some w => .ok w
  | none => .error (.attributeError "'Notebook' object has no attribute 'workspace_id'")

def createJob (E : Environment) (e : Env) (data : JobCreate) : Tx Database JobFailure Job := do
  match ← notebookTable.getById data.notebookId with
  | none => throw (.validation ("Notebook '" ++ toString data.notebookId ++ "' does not exist."))
  | some nb =>
    requireTimezone E data.timezone
    let nextRun ← scheduled E e data.scheduleType data.cronExpression data.timezone none
    match ← JobRepository.getByName data.name with
    | some _ => throw (.validation ("A job with name '" ++ data.name ++ "' already exists."))
    | none =>
      let workspaceId ← ofExcept (workspaceOf data.workspaceId)
      JobRepository.create
        { id := e.uuid
          name := data.name
          description := data.description
          workspaceId := some workspaceId
          projectId := some (data.projectId.getD nb.projectId)
          notebookId := data.notebookId
          status := .active
          scheduleType := upper data.scheduleType
          cronExpression := data.cronExpression
          timezone := data.timezone
          concurrencyPolicy := upper data.concurrencyPolicy
          maxRetries := data.maxRetries
          retryDelaySeconds := data.retryDelaySeconds
          parameters := data.parameters.getD "\x7b\x7d"
          nextRunAt := nextRun
          lastRunAt := none
          createdAt := e.now
          updatedAt := e.now }

def updateJob (E : Environment) (e : Env) (k : Uuid) (data : JobUpdate) :
    Tx Database JobFailure (Option Job) := do
  let job ← getJob k
  let targetTz := orText data.timezone job.timezone
  requireTimezone E targetTz
  let targetSchedule := orText data.scheduleType job.scheduleType
  let targetCron := data.cronExpression.or job.cronExpression
  let nextRun ← scheduled E e targetSchedule targetCron targetTz job.nextRunAt
  JobRepository.update e k
    { name := data.name
      description := data.description
      scheduleType := some targetSchedule
      cronExpression := targetCron
      timezone := some targetTz
      concurrencyPolicy := data.concurrencyPolicy
      maxRetries := data.maxRetries
      retryDelaySeconds := data.retryDelaySeconds
      parameters := data.parameters
      nextRunAt := nextRun }

def deleteJob (k : Uuid) : Tx Database JobFailure Bool := do
  let _ ← getJob k
  JobRepository.delete k

def pauseJob (e : Env) (k : Uuid) : Tx Database JobFailure (Option Job) := do
  let _ ← getJob k
  JobRepository.update e k { status := some .paused, clearNextRun := true }

def nextRunOf (E : Environment) (now : Instant) (job : Job) (base : Option BaseTime) :
    Except JobFailure (Option Instant) :=
  if job.scheduleType = "CRON" ∧ job.cronExpression.any fun c => c ≠ "" then
    instantOf (calculateNextRun E now job.cronExpression job.timezone base)
  else .ok none

def resumeJob (E : Environment) (e : Env) (k : Uuid) : Tx Database JobFailure (Option Job) := do
  let job ← getJob k
  let nextRun ← ofExcept (nextRunOf E e.now job none)
  JobRepository.update e k { status := some .active, nextRunAt := nextRun }

def JobStatus.value : JobStatus → String
  | .active => "ACTIVE"
  | .paused => "PAUSED"
  | .disabled => "DISABLED"
  | .error => "ERROR"

def isOpen (h : JobExecution) : Bool := decide (h.status = .running ∨ h.status = .queued)

/-- The job and its state. A session that has loaded the job before goes by what it has loaded. -/
def loadJob (known : Option Job) (k : Uuid) : Tx Database JobFailure Job := do
  let row ← getJob k
  let job := known.getD row
  if job.status = .paused ∨ job.status = .disabled then
    throw (.validation ("Cannot trigger job '" ++ job.name ++ "' because it is in state " ++
      JobStatus.value job.status ++ "."))
  else pure job

def preventsOverlap (job : Job) : Bool := decide (job.concurrencyPolicy = "PREVENT_OVERLAP")

def checkOverlap (job : Job) : Tx Database JobFailure Unit := do
  if preventsOverlap job then
    let history ← JobExecutionRepository.listByJobId job.id
    if history.any isOpen then throw (.concurrency (toString job.id))

def sessionId (job : Job) : SessionId := "job-" ++ toString job.id

def codeContent (_ : NotebookCell) : Except JobFailure String :=
  -- `cell.code_content`: a cell has no such attribute.
  .error (.attributeError "'NotebookCell' object has no attribute 'code_content'")

def payload (job : Job) (cell : NotebookCell) : Except JobFailure ExecutionRequestPayload := do
  let code ← codeContent cell
  pure ⟨sessionId job, code, some (toString cell.id), some job.notebookId, none⟩

def placeholder (job : Job) : ExecutionRequestPayload :=
  ⟨sessionId job, "# Job execution", none, some job.notebookId, none⟩

def cellsOf (notebookId : Uuid) (d : Database) : List NotebookCell :=
  (d.notebookCells.filter fun c => c.notebookId = notebookId).insertionSort fun x y =>
    x.position ≤ y.position

def codeCells (notebookId : Uuid) (d : Database) : List NotebookCell :=
  (cellsOf notebookId d).filter fun c => c.cellType = "code"

abbrev Answers := ℕ → Except JobFailure String

def submitCells (answers : Answers) (job : Job) :
    ℕ → String → List NotebookCell → List ExecutionRequestPayload × Except JobFailure String
  | _, executionId, [] => ([], .ok executionId)
  | n, _, cell :: rest =>
    match payload job cell with
    | .error err => ([], .error err)
    | .ok p =>
      match answers n with
      | .error err => ([p], .error err)
      | .ok executionId =>
        let run := submitCells answers job (n + 1) executionId rest
        (p :: run.1, run.2)

def runNotebook (answers : Answers) (job : Job) (d : Database) :
    List ExecutionRequestPayload × Except JobFailure String :=
  match codeCells job.notebookId d with
  | [] => ([placeholder job], answers 0)
  | cell :: rest => submitCells answers job 0 "" (cell :: rest)

def recordExecution (e : Env) (job : Job) (executionId : String) (triggerType : TriggerType) :
    Tx Database JobFailure JobExecution := do
  let row ← JobExecutionRepository.create
    (JobExecutionRepository.row e job.id executionId triggerType .running e.now)
  let _ ← JobRepository.update e job.id { lastRunAt := some e.now }
  pure row

/-- What a trigger meets outside the database: the creation of its session, the answers to its
submissions, and the identifier and clock at its end. -/
structure Outside where
  session : Option JobFailure
  answers : Answers
  env : Env

def triggerJobExecution (w : Outside) (known : Option Job) (k : Uuid) (triggerType : TriggerType) :
    Tx Database JobFailure JobExecution := do
  let job ← loadJob known k
  checkOverlap job
  match w.session with
  | some err => throw err
  | none =>
    let d ← read
    let executionId ← ofExcept (runNotebook w.answers job d).2
    recordExecution w.env job executionId triggerType

abbrev Registry := String → Option ExecutionStatus

/-- Every job manager makes an execution manager, and that a registry, of its own. -/
def newRegistry : Registry := fun _ => none

/-- What `cancel_execution` answers. It resets sessions of its own session manager only. -/
def cancelExecution (registry : Registry) (executionId : String) : Except JobFailure Unit :=
  match registry executionId with
  | none => .error (.executionManager ("Execution task '" ++ executionId ++ "' not found."))
  | some status =>
    if ExecutionManager.cancellable status then .ok ()
    else .error (.executionManager ("Cannot perform 'cancel' on execution '" ++ executionId ++
      "' in state '" ++ status.value ++ "'."))

def cancelJobExecution (e : Env) (registry : Registry) (k : Uuid) (executionId : String) :
    Tx Database JobFailure JobExecution := do
  let _ ← getJob k
  match cancelExecution registry executionId with
  | .error err => throw (.cancellation (toString k) err.text)
  | .ok _ =>
    match ← JobExecutionRepository.updateStatus executionId .cancelled e.now with
    | none => throw (.notFound executionId)
    | some r => pure r

end JobManager

end NotebookExecution.Jobs
