import NotebookExecution.Execution.PythonRuntime

/-! One execution session and everything that is under way on it: the calls of the event loop,
the threads they wait for and the worker process. Control leaves a call only where it suspends,
so a step of the session runs one call up to its next suspension, or lets a thread or the worker
act. -/

namespace NotebookExecution.Execution

abbrev OpId := ℕ
abbrev ExecutionId := ℕ
abbrev SessionId := String

inductive SessionStatus
  | created | starting | active | stopping | stopped | failed
  deriving DecidableEq

def SessionStatus.value : SessionStatus → String
  | .created => "created"
  | .starting => "starting"
  | .active => "active"
  | .stopping => "stopping"
  | .stopped => "stopped"
  | .failed => "failed"

inductive Failure
  | sessionNotFound (sessionId : SessionId)
  | sessionNotActive (sessionId : SessionId) (currentStatus : String)
  | sessionExecution (sessionId : SessionId) (reason : String)
  | notRunning (runtimeId : String) (status : RuntimeStatus)
  | died (runtimeId activity : String)
  | timedOut (activity : String)
  | alreadyRunning (runtimeId : String)
  | startup (runtimeId reason : String)
  | handleClosed
  deriving DecidableEq

def Failure.text : Failure → String
  | .sessionNotFound k => "Execution session '" ++ k ++ "' not found."
  | .sessionNotActive k status =>
    "Execution session '" ++ k ++ "' is not active (current status: '" ++ status ++ "')."
  | .sessionExecution k reason => "Execution in session '" ++ k ++ "' failed: " ++ reason
  | .notRunning k status =>
    "Python runtime '" ++ k ++ "' is not running (status: " ++ status.text ++ ")."
  | .died k activity => "Python worker process '" ++ k ++ "' died during " ++ activity ++ "."
  | .timedOut activity => activity
  | .alreadyRunning k => "Runtime '" ++ k ++ "' is already running."
  | .startup k reason => "Failed to start runtime '" ++ k ++ "': " ++ reason
  | .handleClosed => "handle is closed"

/-- A reset carries the task on whose behalf the execution manager makes it, if there is one. -/
inductive Kind
  | executeCell (code : String) (timeout : Seconds)
  | installPackages (requirements : List String) (timeout : Seconds)
  | verifyPackages (packages : List (String × String))
  | reset (cause : Option ExecutionId)
  | stop
  | start
  deriving DecidableEq

namespace Kind

def command (k : RequestId) : Kind → Command
  | .executeCell code _ => .execute k code
  | .installPackages requirements timeout => .installPackages k requirements timeout
  | .verifyPackages packages => .verifyPackages k packages
  | _ => .stop

def activity : Kind → String
  | .executeCell _ _ => "execution"
  | .installPackages _ _ => "package installation"
  | _ => "package verification"

def overdue : Kind → String
  | .executeCell _ timeout => "Execution timed out after " ++ timeout ++ " seconds."
  | .installPackages _ timeout => "Package installation timed out after " ++ timeout ++ " seconds."
  | _ => "Package verification timed out."

end Kind

/-! A call is `scheduled` until its first step. Phases from `sending` to `receiving` name the
pipe whose end a thread has been given; a thread whose call was cancelled goes astray and still
does its work. -/

inductive Phase
  | scheduled
  | waiting
  | sending (pipe : ℕ)
  | polling
  | probing (pipe : ℕ)
  | ready
  | receiving (pipe : ℕ)
  | stopping (pipe : Option ℕ)
  | starting
  | finished
  | returned (m : Message)
  | raised (e : Failure)
  | cancelled
  | straySend (pipe : ℕ)
  | strayRecv (pipe : ℕ)
  deriving DecidableEq

namespace Phase

def ended : Phase → Bool
  | .finished | .returned _ | .raised _ | .cancelled | .straySend _ | .strayRecv _ => true
  | _ => false

def onWorker : Phase → Bool
  | .polling | .probing _ | .ready | .receiving _ => true
  | _ => false

end Phase

structure Op where
  kind : Kind
  phase : Phase
  deriving DecidableEq

/-- `lock` queues the calls that asked for the session lock; its head holds it. -/
structure ExecutionSession (ν : Type) where
  sessionId : SessionId
  status : SessionStatus
  runtime : PythonRuntime ν
  lock : List OpId
  ops : OpId → Option Op

namespace ExecutionSession

variable {ν : Type}

def created (I : Interpreter ν) (sessionId : SessionId) (runtimeId : String) : ExecutionSession ν where
  sessionId := sessionId
  status := .active
  runtime := PythonRuntime.start I .up ⟨runtimeId, .starting, 0, false, I.blank, fun _ => .unused⟩
  lock := []
  ops := fun _ => none

def phaseOf (c : OpId) (s : ExecutionSession ν) : Option Phase := (s.ops c).map Op.phase

def isEnded (c : OpId) (s : ExecutionSession ν) : Bool := (s.phaseOf c).any Phase.ended

def schedule (c : OpId) (k : Kind) (s : ExecutionSession ν) : ExecutionSession ν :=
  { s with ops := Function.update s.ops c (some ⟨k, .scheduled⟩) }

def setPhase (c : OpId) (p : Phase) (s : ExecutionSession ν) : ExecutionSession ν :=
  { s with ops := Function.update s.ops c ((s.ops c).map fun o => ⟨o.kind, p⟩) }

def leave (c : OpId) (p : Phase) (s : ExecutionSession ν) : ExecutionSession ν :=
  { s.setPhase c p with lock := s.lock.erase c }

def withRuntime (r : PythonRuntime ν) (s : ExecutionSession ν) : ExecutionSession ν :=
  { s with runtime := r }

def withStatus (status : SessionStatus) (s : ExecutionSession ν) : ExecutionSession ν :=
  { s with status := status }

def raise (c : OpId) (k : Kind) (e : Failure) (s : ExecutionSession ν) : ExecutionSession ν :=
  -- A cell hands the exception on as a `SessionExecutionError`, after a look at the runtime.
  match k with
  | .executeCell _ _ =>
    leave c (.raised (.sessionExecution s.sessionId e.text))
      (if s.runtime.isAlive then s else s.withStatus .failed)
  | _ => leave c (.raised e) s

def callRuntime (c : OpId) (k : Kind) (s : ExecutionSession ν) : ExecutionSession ν :=
  if s.runtime.isAlive then s.setPhase c (.sending s.runtime.generation)
  else s.raise c k (.notRunning s.runtime.runtimeId s.runtime.status)

def enterLock (c : OpId) (body : ExecutionSession ν → ExecutionSession ν) (s : ExecutionSession ν) :
    ExecutionSession ν :=
  -- `async with self._lock`: the body starts at once when nobody is ahead.
  if s.lock = [] then body { s with lock := [c] }
  else { s.setPhase c .waiting with lock := s.lock ++ [c] }

def executeCell (c : OpId) (k : Kind) (s : ExecutionSession ν) : ExecutionSession ν :=
  if s.status ≠ .active then s.leave c (.raised (.sessionNotActive s.sessionId s.status.value))
  else if !s.runtime.isAlive then
    (s.withStatus .failed).leave c
      (.raised (.sessionExecution s.sessionId "Underlying Python runtime is no longer alive."))
  else s.enterLock c (callRuntime c k)

def restart (I : Interpreter ν) (c : OpId) (spawn : Spawn) (s : ExecutionSession ν) :
    ExecutionSession ν :=
  if s.runtime.alive then s.leave c (.raised (.alreadyRunning s.runtime.runtimeId))
  else
    match spawn with
    | .up => (s.withRuntime (s.runtime.start I .up)).leave c .finished
    | .exited => (s.withRuntime (s.runtime.start I .exited)).setPhase c .starting
    | .refused reason =>
      (s.withRuntime (s.runtime.start I (.refused reason))).leave c
        (.raised (.startup s.runtime.runtimeId reason))

def resetBody (I : Interpreter ν) (c : OpId) (spawn : Spawn) (s : ExecutionSession ν) :
    ExecutionSession ν :=
  if s.status ≠ .active then s.leave c (.raised (.sessionNotActive s.sessionId s.status.value))
  else
    match s.runtime.stop with
    | (r, true) => (s.withRuntime r).setPhase c (.stopping (some r.generation))
    | (r, false) => (s.withRuntime r).restart I c spawn

def stop (c : OpId) (s : ExecutionSession ν) : ExecutionSession ν :=
  if s.status = .stopping ∨ s.status = .stopped then s.leave c .finished
  else
    match s.runtime.stop with
    | (r, true) =>
      ((s.withStatus .stopping).withRuntime r).setPhase c (.stopping (some r.generation))
    | (r, false) => ((s.withStatus .stopped).withRuntime r).leave c .finished

def startFailed (c : OpId) (e : Failure) (s : ExecutionSession ν) : ExecutionSession ν :=
  (s.withStatus .failed).leave c (.raised (.sessionExecution s.sessionId e.text))

def start (I : Interpreter ν) (c : OpId) (spawn : Spawn) (s : ExecutionSession ν) :
    ExecutionSession ν :=
  if s.status ≠ .created ∧ s.status ≠ .stopped then s.leave c .finished
  else if s.runtime.isAlive then (s.withStatus .active).leave c .finished
  else if s.runtime.alive then s.startFailed c (.alreadyRunning s.runtime.runtimeId)
  else
    match spawn with
    | .up => ((s.withRuntime (s.runtime.start I .up)).withStatus .active).leave c .finished
    | .exited =>
      ((s.withRuntime (s.runtime.start I .exited)).withStatus .starting).setPhase c .starting
    | .refused reason =>
      (s.withRuntime (s.runtime.start I (.refused reason))).startFailed c
        (.startup s.runtime.runtimeId reason)

/-! ## Steps -/

def run (I : Interpreter ν) (c : OpId) (spawn : Spawn) (s : ExecutionSession ν) :
    Kind → ExecutionSession ν
  | .executeCell code timeout => s.executeCell c (.executeCell code timeout)
  | .installPackages reqs timeout => s.callRuntime c (.installPackages reqs timeout)
  | .verifyPackages pkgs => s.callRuntime c (.verifyPackages pkgs)
  | .reset _ => s.enterLock c (resetBody I c spawn)
  | .stop => s.stop c
  | .start => s.start I c spawn

def resumeLocked (I : Interpreter ν) (c : OpId) (spawn : Spawn) (s : ExecutionSession ν) :
    Kind → Option (ExecutionSession ν)
  | .executeCell code timeout => some (s.callRuntime c (.executeCell code timeout))
  | .reset _ => some (s.resetBody I c spawn)
  | _ => none

def sent (c : OpId) (g : ℕ) (k : Kind) (s : ExecutionSession ν) : ExecutionSession ν :=
  s.withRuntime (s.runtime.setPipe g ((s.runtime.pipes g).send (k.command c)))

def send (c : OpId) (s : ExecutionSession ν) : Option (ExecutionSession ν) :=
  match s.ops c with
  | some ⟨k, .sending g⟩ =>
    if (s.runtime.pipes g).opened then some ((s.sent c g k).setPhase c .polling)
    else some (s.raise c k .handleClosed)
  | some ⟨k, .straySend g⟩ =>
    if (s.runtime.pipes g).opened then some ((s.sent c g k).leave c .cancelled)
    else some (s.leave c .cancelled)
  | some ⟨k, .stopping (some g)⟩ =>
    if (s.runtime.pipes g).opened then some ((s.sent c g k).setPhase c (.stopping none))
    else some (s.setPhase c (.stopping none))
  | _ => none

def check (c : OpId) (s : ExecutionSession ν) : Option (ExecutionSession ν) :=
  match s.ops c with
  | some ⟨k, .polling⟩ =>
    if s.runtime.alive then some (s.setPhase c (.probing s.runtime.generation))
    else some ((s.withRuntime s.runtime.fail).raise c k (.died s.runtime.runtimeId k.activity))
  | _ => none

def probe (c : OpId) (s : ExecutionSession ν) : Option (ExecutionSession ν) :=
  match s.ops c with
  | some ⟨k, .probing g⟩ =>
    if !(s.runtime.pipes g).opened then some (s.raise c k .handleClosed)
    else if (s.runtime.pipes g).responses = [] then some (s.setPhase c .polling)
    else some (s.setPhase c .ready)
  | _ => none

def fetch (c : OpId) (s : ExecutionSession ν) : Option (ExecutionSession ν) :=
  match s.ops c with
  | some ⟨_, .ready⟩ => some (s.setPhase c (.receiving s.runtime.generation))
  | _ => none

def recv (c : OpId) (s : ExecutionSession ν) : Option (ExecutionSession ν) :=
  -- The thread of `conn.recv` acts; it blocks while there is nothing to take.
  match s.ops c with
  | some ⟨k, .receiving g⟩ =>
    if !(s.runtime.pipes g).opened then some (s.raise c k .handleClosed)
    else
      match (s.runtime.pipes g).recv with
      | none => none
      | some (m, p) => some ((s.withRuntime (s.runtime.setPipe g p)).leave c (.returned m))
  | some ⟨_, .strayRecv g⟩ =>
    if !(s.runtime.pipes g).opened then some (s.leave c .cancelled)
    else
      match (s.runtime.pipes g).recv with
      | none => none
      | some (_, p) => some ((s.withRuntime (s.runtime.setPipe g p)).leave c .cancelled)
  | _ => none

def expire (c : OpId) (s : ExecutionSession ν) : Option (ExecutionSession ν) :=
  -- The deadline of the reply loop passes: `terminate` sends a signal and does not wait for its effect.
  -- A verification leaves the worker alone.
  match s.ops c with
  | some ⟨.verifyPackages pkgs, .polling⟩ =>
    some (s.raise c (.verifyPackages pkgs) (.timedOut (Kind.verifyPackages pkgs).overdue))
  | some ⟨k, .polling⟩ => some ((s.withRuntime s.runtime.fail).raise c k (.timedOut k.overdue))
  | _ => none

def joined (I : Interpreter ν) (c : OpId) (spawn : Spawn) (s : ExecutionSession ν) :
    Option (ExecutionSession ν) :=
  match s.ops c with
  | some ⟨.reset _, .stopping _⟩ => some ((s.withRuntime s.runtime.stopped).restart I c spawn)
  | some ⟨.stop, .stopping _⟩ =>
    some (((s.withRuntime s.runtime.stopped).withStatus .stopped).leave c .finished)
  | _ => none

def exitedImmediately (runtimeId : String) : Failure :=
  .startup runtimeId (Failure.startup runtimeId "Worker process exited immediately.").text

def startEnds (c : OpId) (s : ExecutionSession ν) : Option (ExecutionSession ν) :=
  -- The wait for the spawned process is over; another start may have put a live one in its place.
  match s.ops c with
  | some ⟨.reset _, .starting⟩ =>
    if s.runtime.alive then some ((s.withRuntime s.runtime.confirm).leave c .finished)
    else some ((s.withRuntime s.runtime.fail).leave c (.raised (exitedImmediately s.runtime.runtimeId)))
  | some ⟨.start, .starting⟩ =>
    if s.runtime.alive then
      some (((s.withRuntime s.runtime.confirm).withStatus .active).leave c .finished)
    else some ((s.withRuntime s.runtime.fail).startFailed c (exitedImmediately s.runtime.runtimeId))
  | _ => none

def cancelled : Phase → Phase
  | .sending g => .straySend g
  | .receiving g => .strayRecv g
  | _ => .cancelled

def cancel (c : OpId) (s : ExecutionSession ν) : ExecutionSession ν :=
  match s.ops c with
  | some ⟨_, p⟩ => if p.ended then s else s.leave c (cancelled p)
  | none => s

end ExecutionSession

inductive SessionAction
  | begin (c : OpId) (spawn : Spawn)
  | grant (c : OpId) (spawn : Spawn)
  | send (c : OpId)
  | work (machine : Machine)
  | check (c : OpId)
  | probe (c : OpId)
  | fetch (c : OpId)
  | recv (c : OpId)
  | expire (c : OpId)
  | joined (c : OpId) (spawn : Spawn)
  | startEnds (c : OpId)
  | exit

namespace ExecutionSession

variable {ν : Type}

def step (I : Interpreter ν) (s : ExecutionSession ν) : SessionAction → Option (ExecutionSession ν)
  | .begin c spawn =>
    match s.ops c with
    | some ⟨k, .scheduled⟩ => some (s.run I c spawn k)
    | _ => none
  | .grant c spawn =>
    match s.ops c with
    | some ⟨k, .waiting⟩ => if s.lock.head? = some c then s.resumeLocked I c spawn k else none
    | _ => none
  | .send c => s.send c
  | .work machine => (s.runtime.work I machine).map fun r => s.withRuntime r
  | .check c => s.check c
  | .probe c => s.probe c
  | .fetch c => s.fetch c
  | .recv c => s.recv c
  | .expire c => s.expire c
  | .joined c spawn => s.joined I c spawn
  | .startEnds c => s.startEnds c
  | .exit => s.runtime.exit.map fun r => s.withRuntime r

end ExecutionSession

end NotebookExecution.Execution
