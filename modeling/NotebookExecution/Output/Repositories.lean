import NotebookExecution.Store.Repositories

/-! The repository of execution outputs, and what the output manager reads from it. -/

namespace NotebookExecution.Output

open Library.Transaction Library.Table Store

variable {ε : Type}

structure OutputEventSchema where
  executionId : String
  sessionId : String
  notebookId : Option Uuid
  cellId : Option String
  outputType : OutputType
  content : String
  sequence : ℕ
  outputMetadata : Option Json

def executionOutputClash (d : Database) (o : ExecutionOutput) : Bool :=
  o.notebookId.any fun k => d.notebooks.all (fun n => n.id ≠ k)

namespace ExecutionOutputRepository

def row (e : Env) (event : OutputEventSchema) : ExecutionOutput where
  id := e.uuid
  executionId := event.executionId
  sessionId := event.sessionId
  notebookId := event.notebookId
  cellId := event.cellId
  outputType := event.outputType
  content := event.content
  sequence := event.sequence
  outputMetadata := event.outputMetadata
  createdAt := e.now

def create (e : Env) (event : OutputEventSchema) : Tx Database ServiceError ExecutionOutput :=
  executionOutputTable.insert executionOutputClash .integrityError (row e event)

def bulkCreate : List (Env × OutputEventSchema) → Tx Database ServiceError (List ExecutionOutput)
  | [] => pure []
  | (e, event) :: rest => do
    let output ← create e event
    let outputs ← bulkCreate rest
    pure (output :: outputs)

def outputsOfExecution (executionId : String) (d : Database) : List ExecutionOutput :=
  (d.executionOutputs.filter fun o => o.executionId = executionId).insertionSort fun x y =>
    x.sequence ≤ y.sequence

def listByExecutionId (executionId : String) : Tx Database ε (List ExecutionOutput) := do
  let d ← read
  pure (outputsOfExecution executionId d)

def outputsOfCell (cellId : String) (d : Database) : List ExecutionOutput :=
  (d.executionOutputs.filter fun o => o.cellId = some cellId).insertionSort fun x y => x.sequence ≤ y.sequence

def listByCellId (cellId : String) : Tx Database ε (List ExecutionOutput) := do
  let d ← read
  pure (outputsOfCell cellId d)

end ExecutionOutputRepository

namespace OutputManager

def getOutputsByExecution (executionId : String) : Tx Database ε (List ExecutionOutput) :=
  ExecutionOutputRepository.listByExecutionId executionId

def getOutputsByCell (cellId : String) : Tx Database ε (List ExecutionOutput) :=
  ExecutionOutputRepository.listByCellId cellId

end OutputManager

/-- The route of a cell's outputs, which is given its notebook and does not look at it. -/
def getCellOutputs (_notebookId : Uuid) (cellId : String) : Tx Database ε (List ExecutionOutput) :=
  OutputManager.getOutputsByCell cellId

end NotebookExecution.Output
