import NotebookExecution.Library.Table

/-! The rows of the notebook store and of the job tables, and the tables they live in. A JSON
column is its document's canonical text, but for the packages of an operation, and an instant counts
microseconds. -/

namespace NotebookExecution.Store

open Library.Table

abbrev Uuid := ℕ
abbrev Instant := ℤ
abbrev Json := String

structure Workspace where
  id : Uuid
  name : String
  description : Option String
  createdAt : Instant
  updatedAt : Instant
  deriving DecidableEq

structure Project where
  id : Uuid
  workspaceId : Uuid
  name : String
  description : Option String
  createdAt : Instant
  updatedAt : Instant
  deriving DecidableEq

structure Notebook where
  id : Uuid
  projectId : Uuid
  name : String
  description : Option String
  language : String
  createdAt : Instant
  updatedAt : Instant
  deriving DecidableEq

structure NotebookCell where
  id : Uuid
  notebookId : Uuid
  position : ℤ
  cellType : String
  source : String
  createdAt : Instant
  updatedAt : Instant
  deriving DecidableEq

structure NotebookMetadata where
  id : Uuid
  notebookId : Uuid
  configuration : Json
  createdAt : Instant
  updatedAt : Instant
  deriving DecidableEq

inductive OutputType
  | stdout | stderr | result | traceback | error | text
  deriving DecidableEq

structure ExecutionOutput where
  id : Uuid
  executionId : String
  sessionId : String
  notebookId : Option Uuid
  cellId : Option String
  outputType : OutputType
  content : String
  sequence : ℕ
  outputMetadata : Option Json
  createdAt : Instant
  deriving DecidableEq

structure NotebookDependency where
  id : Uuid
  notebookId : Uuid
  packageName : String
  versionSpecifier : Option String
  createdAt : Instant
  updatedAt : Instant
  deriving DecidableEq

structure PackageEntry where
  packageName : String
  versionSpecifier : String
  deriving DecidableEq

inductive DependencyStatus
  | requested | validating | resolving | installing | verifying | ready | failed | cancelled
  deriving DecidableEq

structure DependencyOperation where
  id : Uuid
  operationId : String
  notebookId : Uuid
  sessionId : Option String
  runtimeId : Option String
  status : DependencyStatus
  packages : List PackageEntry
  resolvedVersions : Option Json
  errorMessage : Option String
  startedAt : Instant
  completedAt : Option Instant
  deriving DecidableEq

inductive JobStatus
  | active | paused | disabled | error
  deriving DecidableEq

inductive JobExecutionStatus
  | queued | running | success | failed | cancelled | timedOut
  deriving DecidableEq

inductive TriggerType
  | manual | scheduled
  deriving DecidableEq

/-! `schedule_type` and `concurrency_policy` are columns of free text: requests write whatever
they carry. -/

structure Job where
  id : Uuid
  name : String
  description : Option String
  workspaceId : Option Uuid
  projectId : Option Uuid
  notebookId : Uuid
  status : JobStatus
  scheduleType : String
  cronExpression : Option String
  timezone : String
  concurrencyPolicy : String
  maxRetries : ℕ
  retryDelaySeconds : ℕ
  parameters : Json
  nextRunAt : Option Instant
  lastRunAt : Option Instant
  createdAt : Instant
  updatedAt : Instant
  deriving DecidableEq

structure JobExecution where
  id : Uuid
  jobId : Uuid
  executionId : String
  status : JobExecutionStatus
  triggerType : TriggerType
  startedAt : Option Instant
  finishedAt : Option Instant
  createdAt : Instant
  deriving DecidableEq

structure Database where
  workspaces : List Workspace
  projects : List Project
  notebooks : List Notebook
  notebookCells : List NotebookCell
  notebookMetadata : List NotebookMetadata
  executionOutputs : List ExecutionOutput
  notebookDependencies : List NotebookDependency
  dependencyOperations : List DependencyOperation
  jobs : List Job
  jobExecutions : List JobExecution
  deriving DecidableEq

def Database.empty : Database := ⟨[], [], [], [], [], [], [], [], [], []⟩

def workspaceTable : TableOf Database Workspace Uuid where
  key := Workspace.id
  rows := Database.workspaces
  store t d := { d with workspaces := t }
  rows_store _ _ := rfl
  store_rows _ := rfl

def projectTable : TableOf Database Project Uuid where
  key := Project.id
  rows := Database.projects
  store t d := { d with projects := t }
  rows_store _ _ := rfl
  store_rows _ := rfl

def notebookTable : TableOf Database Notebook Uuid where
  key := Notebook.id
  rows := Database.notebooks
  store t d := { d with notebooks := t }
  rows_store _ _ := rfl
  store_rows _ := rfl

def notebookCellTable : TableOf Database NotebookCell Uuid where
  key := NotebookCell.id
  rows := Database.notebookCells
  store t d := { d with notebookCells := t }
  rows_store _ _ := rfl
  store_rows _ := rfl

def notebookMetadataTable : TableOf Database NotebookMetadata Uuid where
  key := NotebookMetadata.notebookId
  rows := Database.notebookMetadata
  store t d := { d with notebookMetadata := t }
  rows_store _ _ := rfl
  store_rows _ := rfl

def executionOutputTable : TableOf Database ExecutionOutput Uuid where
  key := ExecutionOutput.id
  rows := Database.executionOutputs
  store t d := { d with executionOutputs := t }
  rows_store _ _ := rfl
  store_rows _ := rfl

def notebookDependencyTable : TableOf Database NotebookDependency Uuid where
  key := NotebookDependency.id
  rows := Database.notebookDependencies
  store t d := { d with notebookDependencies := t }
  rows_store _ _ := rfl
  store_rows _ := rfl

def dependencyOperationTable : TableOf Database DependencyOperation String where
  key := DependencyOperation.operationId
  rows := Database.dependencyOperations
  store t d := { d with dependencyOperations := t }
  rows_store _ _ := rfl
  store_rows _ := rfl

def jobTable : TableOf Database Job Uuid where
  key := Job.id
  rows := Database.jobs
  store t d := { d with jobs := t }
  rows_store _ _ := rfl
  store_rows _ := rfl

def jobExecutionTable : TableOf Database JobExecution Uuid where
  key := JobExecution.id
  rows := Database.jobExecutions
  store t d := { d with jobExecutions := t }
  rows_store _ _ := rfl
  store_rows _ := rfl

end NotebookExecution.Store
