import NotebookExecution.Execution.PythonRuntime
import NotebookExecution.Library.Dict

/-! The runtime manager: its registry, and the calls of `start_runtime`, `stop_runtime` and
`terminate_all` under way on it. A runtime goes by the number of the call that made it. Calls switch
where a process that has exited is polled, and where a worker is waited for that is to stop. -/

namespace NotebookExecution.Execution

open Library

inductive RuntimeType
  | python | sql
  deriving DecidableEq

inductive BaseRuntime (ν : Type)
  | python (r : PythonRuntime ν)
  | sql (runtimeId : String) (status : RuntimeStatus)

namespace BaseRuntime

variable {ν : Type}

def runtimeId : BaseRuntime ν → String
  | .python r => r.runtimeId
  | .sql runtimeId _ => runtimeId

def status : BaseRuntime ν → RuntimeStatus
  | .python r => r.status
  | .sql _ status => status

def isAlive (r : BaseRuntime ν) : Bool := r.status = .running

def start (I : Interpreter ν) (spawn : Spawn) : BaseRuntime ν → BaseRuntime ν
  | .python r => .python (r.start I spawn)
  | .sql runtimeId _ => .sql runtimeId .running

def stop : BaseRuntime ν → BaseRuntime ν × Bool
  | .python r => (.python r.stop.1, r.stop.2)
  | .sql runtimeId _ => (.sql runtimeId .terminated, false)

def stopped : BaseRuntime ν → BaseRuntime ν
  | .python r => .python r.stopped
  | .sql runtimeId _ => .sql runtimeId .terminated

def fail : BaseRuntime ν → BaseRuntime ν
  | .python r => .python r.fail
  | .sql runtimeId _ => .sql runtimeId .failed

def exit : BaseRuntime ν → BaseRuntime ν
  | .python r => .python { r with alive := false }
  | .sql runtimeId status => .sql runtimeId status

end BaseRuntime

/-- `none` is a text that names no type. -/
def RuntimeFactory.createRuntime {ν : Type} (I : Interpreter ν) (runtimeType : Option RuntimeType)
    (runtimeId : String) : Option (BaseRuntime ν) :=
  match runtimeType with
  | some .python => some (.python ⟨runtimeId, .starting, 0, false, I.blank, fun _ => .unused⟩)
  | some .sql => some (.sql runtimeId .starting)
  | none => none

namespace RuntimeManager

abbrev CallId := ℕ

/-- Where a call stands: at the poll of the process it has spawned, at the stop of a runtime, or at that
of one of the runtimes that `terminate_all` goes through, with those to come. -/
inductive Phase
  | polling (runtimeId : String)
  | stopping (x : CallId)
  | sweeping (x : CallId) (rest : List CallId)
  | returned
  | raised
  deriving DecidableEq

end RuntimeManager

open RuntimeManager in
structure RuntimeManager (ν : Type) where
  runtimes : CallId → Option (BaseRuntime ν)
  registry : Dict String CallId
  calls : CallId → Option RuntimeManager.Phase

namespace RuntimeManager

variable {ν : Type}

def empty : RuntimeManager ν := ⟨fun _ => none, .empty, fun _ => none⟩

def running (s : RuntimeManager ν) (x : CallId) : Bool := (s.runtimes x).any BaseRuntime.isAlive

def leave (c : CallId) (p : Phase) (s : RuntimeManager ν) : RuntimeManager ν :=
  { s with calls := Function.update s.calls c (some p) }

def setRuntime (x : CallId) (r : BaseRuntime ν) (s : RuntimeManager ν) : RuntimeManager ν :=
  { s with runtimes := Function.update s.runtimes x (some r) }

def register (runtimeId : String) (x : CallId) (s : RuntimeManager ν) : RuntimeManager ν :=
  { s with registry := s.registry.set runtimeId x }

def startRuntime (I : Interpreter ν) (c : CallId) (runtimeType : Option RuntimeType) (runtimeId : String)
    (spawn : Spawn) (s : RuntimeManager ν) : RuntimeManager ν :=
  if (s.registry.get? runtimeId).any s.running then s.leave c .raised
  else
    match RuntimeFactory.createRuntime I runtimeType runtimeId with
    | none => s.leave c .raised
    | some r =>
      let r := r.start I spawn
      match r.status with
      | .running => ((s.setRuntime c r).register runtimeId c).leave c .returned
      | .starting => (s.setRuntime c r).leave c (.polling runtimeId)
      | _ => ((s.setRuntime c r.fail).register runtimeId c).leave c .raised

def startFails (c : CallId) (runtimeId : String) (s : RuntimeManager ν) : RuntimeManager ν :=
  match s.runtimes c with
  | none => s
  | some r => ((s.setRuntime c r.fail).register runtimeId c).leave c .raised

def stopRuntime (c : CallId) (runtimeId : String) (s : RuntimeManager ν) : RuntimeManager ν :=
  match s.registry.get? runtimeId with
  | none => s.leave c .raised
  | some x =>
    match s.runtimes x with
    | none => s
    | some r => (s.setRuntime x r.stop.1).leave c (if r.stop.2 then .stopping x else .returned)

def setStopped (x : CallId) (s : RuntimeManager ν) : RuntimeManager ν :=
  match s.runtimes x with
  | none => s
  | some r => s.setRuntime x r.stopped

/-- The loop over a snapshot, up to the first runtime that it has to wait for. -/
def sweep (s : RuntimeManager ν) : List CallId → RuntimeManager ν × Option (CallId × List CallId)
  | [] => (s, none)
  | x :: rest =>
    match s.runtimes x with
    | none => sweep s rest
    | some r =>
      if r.status = .starting ∨ r.status = .running then
        if r.stop.2 then (s.setRuntime x r.stop.1, some (x, rest))
        else sweep (s.setRuntime x r.stop.1) rest
      else sweep s rest

def terminate (c : CallId) (rest : List CallId) (s : RuntimeManager ν) : RuntimeManager ν :=
  match s.sweep rest with
  | (t, none) => { t with registry := .empty }.leave c .returned
  | (t, some (x, rest)) => t.leave c (.sweeping x rest)

def terminateAll (c : CallId) (s : RuntimeManager ν) : RuntimeManager ν := s.terminate c s.registry.values

inductive Action
  | start (c : CallId) (runtimeType : Option RuntimeType) (runtimeId : String) (spawn : Spawn)
  | stop (c : CallId) (runtimeId : String)
  | terminateAll (c : CallId)
  | resume (c : CallId)
  | exit (x : CallId)

def step (I : Interpreter ν) (s : RuntimeManager ν) : Action → Option (RuntimeManager ν)
  | .start c runtimeType runtimeId spawn =>
    if s.calls c = none then some (s.startRuntime I c runtimeType runtimeId spawn) else none
  | .stop c runtimeId => if s.calls c = none then some (s.stopRuntime c runtimeId) else none
  | .terminateAll c => if s.calls c = none then some (s.terminateAll c) else none
  | .resume c =>
    match s.calls c with
    | some (.polling runtimeId) => some (s.startFails c runtimeId)
    | some (.stopping x) => some ((s.setStopped x).leave c .returned)
    | some (.sweeping x rest) => some ((s.setStopped x).terminate c rest)
    | _ => none
  | .exit x => (s.runtimes x).map fun r => s.setRuntime x r.exit

end RuntimeManager

end NotebookExecution.Execution
