import NotebookExecution.Execution.Session
import NotebookExecution.Library.Runs

/-! The execution manager: its registry of tasks and the calls of `submit_execution` and
`cancel_execution` under way on it, over the sessions of its session manager. Identifiers are
drawn from one counter: the cell call of a task carries the number of the task. -/

namespace NotebookExecution.Execution

open Library.Runs

abbrev Instant := ℤ

inductive ExecutionStatus
  | queued | validating | running | succeeded | failed | timedOut | cancelling | cancelled
  deriving DecidableEq

def ExecutionStatus.value : ExecutionStatus → String
  | .queued => "queued"
  | .validating => "validating"
  | .running => "running"
  | .succeeded => "succeeded"
  | .failed => "failed"
  | .timedOut => "timed_out"
  | .cancelling => "cancelling"
  | .cancelled => "cancelled"

def ExecutionStatus.terminal : ExecutionStatus → Bool
  | .succeeded | .failed | .timedOut | .cancelled => true
  | _ => false

structure ExecutionRequestPayload where
  sessionId : SessionId
  code : String
  cellId : Option String
  notebookId : Option ℕ
  timeout : Option Seconds

structure ExecutionTask where
  sessionId : SessionId
  notebookId : Option ℕ
  cellId : Option String
  code : String
  status : ExecutionStatus
  timeoutSeconds : Seconds
  createdAt : Instant
  startedAt : Option Instant
  completedAt : Option Instant
  stdout : String
  stderr : String
  traceback : Option String
  errorMessage : Option String
  executionTimeMs : ℕ
  deriving DecidableEq

namespace ExecutionTask

def queued (now : Instant) (req : ExecutionRequestPayload) : ExecutionTask where
  sessionId := req.sessionId
  notebookId := req.notebookId
  cellId := req.cellId
  code := req.code
  status := .queued
  timeoutSeconds := req.timeout.getD "30.0"
  createdAt := now
  startedAt := none
  completedAt := none
  stdout := ""
  stderr := ""
  traceback := none
  errorMessage := none
  executionTimeMs := 0

def refuse (e : Failure) (now : Instant) (t : ExecutionTask) : ExecutionTask :=
  { t with status := .failed, errorMessage := some e.text, completedAt := some now }

def begin (now : Instant) (t : ExecutionTask) : ExecutionTask :=
  { t with status := .running, startedAt := some now }

def succeed (m : Message) (t : ExecutionTask) : ExecutionTask :=
  { t with
    status := .succeeded
    stdout := m.stdout.getD ""
    stderr := m.stderr.getD ""
    executionTimeMs := m.executionTimeMs.getD 0 }

def failWith (m : Message) (t : ExecutionTask) : ExecutionTask :=
  { t with
    status := .failed
    stdout := m.stdout.getD ""
    stderr := m.stderr.getD ""
    traceback := m.traceback
    errorMessage := some "User code execution raised an exception."
    executionTimeMs := m.executionTimeMs.getD 0 }

def receive (m : Message) (t : ExecutionTask) : ExecutionTask :=
  if m.status = "ok" then t.succeed m else t.failWith m

def fail (e : Failure) (t : ExecutionTask) : ExecutionTask :=
  { t with status := .failed, errorMessage := some e.text }

def timeOut (t : ExecutionTask) : ExecutionTask :=
  { t with
    status := .timedOut
    errorMessage := some ("Execution timed out after " ++ t.timeoutSeconds ++ " seconds.") }

def cancelByError (t : ExecutionTask) : ExecutionTask :=
  { t with status := .cancelled, errorMessage := some "Execution was explicitly cancelled." }

def cancelling (t : ExecutionTask) : ExecutionTask := { t with status := .cancelling }

def complete (now : Instant) (t : ExecutionTask) : ExecutionTask := { t with completedAt := some now }

def cancelled (now : Instant) (t : ExecutionTask) : ExecutionTask :=
  { t with status := .cancelled, completedAt := some now }

end ExecutionTask

/-- The timer of `wait_for`: not yet fired, fired on a live cell call, which it cancels, or fired
after the cell call was done and before the submitter went on. -/
inductive Limit
  | pending | fired | late
  deriving DecidableEq

inductive Submission
  | awaiting (limit : Limit)
  | resetting (r : OpId)
  | returned
  | refused (e : Failure)
  deriving DecidableEq

inductive Cancellation
  | resetting (r : OpId)
  | returned
  deriving DecidableEq

structure ExecutionManager (ν : Type) where
  sessions : SessionId → Option (ExecutionSession ν)
  tasks : ExecutionId → Option ExecutionTask
  runningTasks : ExecutionId → Bool
  submissions : ExecutionId → Option Submission
  cancellations : ExecutionId → Option Cancellation
  now : Instant
  next : ℕ

namespace ExecutionManager

variable {ν : Type}

def empty (now : Instant) : ExecutionManager ν :=
  ⟨fun _ => none, fun _ => none, fun _ => false, fun _ => none, fun _ => none, now, 0⟩

def setSession (k : SessionId) (x : ExecutionSession ν) (s : ExecutionManager ν) :
    ExecutionManager ν :=
  { s with sessions := Function.update s.sessions k (some x) }

def setTask (e : ExecutionId) (t : ExecutionTask) (s : ExecutionManager ν) : ExecutionManager ν :=
  { s with tasks := Function.update s.tasks e (some t) }

def setSubmission (e : ExecutionId) (x : Submission) (s : ExecutionManager ν) :
    ExecutionManager ν :=
  { s with submissions := Function.update s.submissions e (some x) }

def setCancellation (e : ExecutionId) (x : Cancellation) (s : ExecutionManager ν) :
    ExecutionManager ν :=
  { s with cancellations := Function.update s.cancellations e (some x) }

def refuse (e : ExecutionId) (t : ExecutionTask) (err : Failure) (s : ExecutionManager ν) :
    ExecutionManager ν :=
  (s.setTask e (t.refuse err s.now)).setSubmission e (.refused err)

def accept (e : ExecutionId) (t : ExecutionTask) (x : ExecutionSession ν) (s : ExecutionManager ν) :
    ExecutionManager ν :=
  { (s.setTask e (t.begin s.now)).setSession t.sessionId
      (x.schedule e (.executeCell t.code t.timeoutSeconds)) with
    runningTasks := Function.update s.runningTasks e true }.setSubmission e (.awaiting .pending)

def submit (req : ExecutionRequestPayload) (s : ExecutionManager ν) : ExecutionManager ν :=
  let e := s.next
  let t := ExecutionTask.queued s.now req
  let s := { s with next := e + 1 }
  match s.sessions t.sessionId with
  | none => s.refuse e t (.sessionNotFound t.sessionId)
  | some x =>
    if x.status ≠ .active then s.refuse e t (.sessionNotActive t.sessionId x.status.value)
    else s.accept e t x

def finalize (e : ExecutionId) (t : ExecutionTask) (s : ExecutionManager ν) : ExecutionManager ν :=
  { s.setTask e (t.complete s.now) with
    runningTasks := Function.update s.runningTasks e false }.setSubmission e .returned

def reset (I : Interpreter ν) (e : ExecutionId) (spawn : Spawn) (x : ExecutionSession ν)
    (r : OpId) : ExecutionSession ν :=
  -- `await session.reset()` on behalf of a task, up to its first suspension; what it raises is
  -- swallowed.
  (x.schedule r (.reset (some e))).enterLock r (ExecutionSession.resetBody I r spawn)

def handleReset (I : Interpreter ν) (e : ExecutionId) (t : ExecutionTask) (spawn : Spawn)
    (x : ExecutionSession ν) (s : ExecutionManager ν) : ExecutionManager ν :=
  let r := s.next
  let y := reset I e spawn x r
  let s := { s.setSession t.sessionId y with next := r + 1 }
  if y.isEnded r then s.finalize e t
  else (s.setTask e t).setSubmission e (.resetting r)

def resume (I : Interpreter ν) (e : ExecutionId) (late : Bool) (spawn : Spawn)
    (s : ExecutionManager ν) : Option (ExecutionManager ν) := do
  -- The submitter goes on after its cell call; `late` decides for a timer that fired on a call already
  -- done.
  let t ← s.tasks e
  let x ← s.sessions t.sessionId
  let p ← x.phaseOf e
  match s.submissions e with
  | some (.awaiting limit) =>
    if !p.ended then none
    else if limit = .fired ∨ limit = .late ∧ late then some (s.handleReset I e t.timeOut spawn x)
    else
      match p with
      | .returned m => some (s.finalize e (t.receive m))
      | .raised err => some (s.finalize e (t.fail err))
      | _ => some (s.handleReset I e t.cancelByError spawn x)
  | _ => none

def finish (e : ExecutionId) (s : ExecutionManager ν) : Option (ExecutionManager ν) := do
  let t ← s.tasks e
  let x ← s.sessions t.sessionId
  match s.submissions e with
  | some (.resetting r) => if x.isEnded r then some (s.finalize e t) else none
  | _ => none

def timer (e : ExecutionId) (s : ExecutionManager ν) : Option (ExecutionManager ν) := do
  let t ← s.tasks e
  let x ← s.sessions t.sessionId
  match s.submissions e with
  | some (.awaiting .pending) =>
    if x.isEnded e then some (s.setSubmission e (.awaiting .late))
    else some ((s.setSession t.sessionId (x.cancel e)).setSubmission e (.awaiting .fired))
  | _ => none

def cancellable : ExecutionStatus → Bool
  | .queued | .validating | .running => true
  | _ => false

def conclude (e : ExecutionId) (t : ExecutionTask) (s : ExecutionManager ν) : ExecutionManager ν :=
  (s.setTask e (t.cancelled s.now)).setCancellation e .returned

def cancelCell (e : ExecutionId) (x : ExecutionSession ν) (s : ExecutionManager ν) :
    ExecutionSession ν :=
  -- A done asyncio task is left alone.
  if s.runningTasks e then x.cancel e else x

def cancel (I : Interpreter ν) (e : ExecutionId) (spawn : Spawn) (s : ExecutionManager ν) :
    Option (ExecutionManager ν) := do
  -- A request that is refused changes nothing and is no step.
  let t ← s.tasks e
  if !cancellable t.status then none
  else
    let s := s.setTask e t.cancelling
    match s.sessions t.sessionId with
    | none => some (s.conclude e t.cancelling)
    | some x =>
      let r := s.next
      let y := reset I e spawn (s.cancelCell e x) r
      let s := { s.setSession t.sessionId y with next := r + 1 }
      if y.isEnded r then some (s.conclude e t.cancelling)
      else some (s.setCancellation e (.resetting r))

def concluded (e : ExecutionId) (s : ExecutionManager ν) : Option (ExecutionManager ν) := do
  let t ← s.tasks e
  let x ← s.sessions t.sessionId
  match s.cancellations e with
  | some (.resetting r) => if x.isEnded r then some (s.conclude e t) else none
  | _ => none

def createSession (I : Interpreter ν) (k : SessionId) (runtimeId : String)
    (s : ExecutionManager ν) : Option (ExecutionManager ν) :=
  match s.sessions k with
  | none => some (s.setSession k (.created I k runtimeId))
  | some _ => none

/-- A package command, a cell run without a task, or an explicit reset, stop or start. -/
def enter (k : SessionId) (kind : Kind) (s : ExecutionManager ν) : Option (ExecutionManager ν) := do
  let x ← s.sessions k
  match kind with
  | .reset (some _) => none
  | _ => some { s.setSession k (x.schedule s.next kind) with next := s.next + 1 }

def inSession (I : Interpreter ν) (k : SessionId) (a : SessionAction) (s : ExecutionManager ν) :
    Option (ExecutionManager ν) := do
  let x ← s.sessions k
  let y ← x.step I a
  some (s.setSession k y)

end ExecutionManager

inductive Action
  | createSession (k : SessionId) (runtimeId : String)
  | submit (req : ExecutionRequestPayload)
  | resume (e : ExecutionId) (late : Bool) (spawn : Spawn)
  | finish (e : ExecutionId)
  | timer (e : ExecutionId)
  | cancel (e : ExecutionId) (spawn : Spawn)
  | concluded (e : ExecutionId)
  | enter (k : SessionId) (kind : Kind)
  | inSession (k : SessionId) (a : SessionAction)
  | tick (d : ℕ)

namespace ExecutionManager

variable {ν : Type}

def step (I : Interpreter ν) (s : ExecutionManager ν) : Action → Option (ExecutionManager ν)
  | .createSession k runtimeId => s.createSession I k runtimeId
  | .submit req => some (s.submit req)
  | .resume e late spawn => s.resume I e late spawn
  | .finish e => s.finish e
  | .timer e => s.timer e
  | .cancel e spawn => s.cancel I e spawn
  | .concluded e => s.concluded e
  | .enter k kind => s.enter k kind
  | .inSession k a => s.inSession I k a
  | .tick d => some { s with now := s.now + d }

end ExecutionManager

end NotebookExecution.Execution
