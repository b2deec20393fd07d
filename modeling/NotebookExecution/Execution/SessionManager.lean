import NotebookExecution.Execution.Session
import NotebookExecution.Library.Dict
import NotebookExecution.Library.Runs

/-! The session manager: sessions by their identifiers, each bound to a runtime that is also in the
registry of the runtime manager. Its calls follow one another here. Runtimes are numbered as they are
made; both registries know them by their numbers. -/

namespace NotebookExecution.Execution

open Library Library.Runs

variable {ν : Type}

namespace PythonRuntime

def made (I : Interpreter ν) (runtimeId : String) : PythonRuntime ν :=
  ⟨runtimeId, .starting, 0, false, I.blank, fun _ => .unused⟩

/-- None of the calls here runs code, so a worker that is told to stop is idle and leaves. -/
def stopFully (r : PythonRuntime ν) : PythonRuntime ν :=
  if r.stop.2 then r.stop.1.gone.stopped else r.stop.1

def startFully (I : Interpreter ν) (spawn : Spawn) (r : PythonRuntime ν) : PythonRuntime ν :=
  if (r.start I spawn).isAlive then r.start I spawn else (r.start I spawn).fail

end PythonRuntime

structure BoundSession where
  status : SessionStatus
  runtime : ℕ
  deriving DecidableEq

structure SessionManager (ν : Type) where
  runtimes : ℕ → Option (PythonRuntime ν)
  registry : List ℕ
  sessions : Dict SessionId BoundSession
  next : ℕ

namespace SessionManager

def empty : SessionManager ν := ⟨fun _ => none, [], .empty, 0⟩

def running (s : SessionManager ν) (x : ℕ) : Bool := (s.runtimes x).any PythonRuntime.isAlive

def live (s : SessionManager ν) (x : ℕ) : Bool := (s.runtimes x).any PythonRuntime.alive

def onRuntime (x : ℕ) (f : PythonRuntime ν → PythonRuntime ν) (s : SessionManager ν) : SessionManager ν :=
  { s with runtimes := Function.update s.runtimes x ((s.runtimes x).map f) }

/-- `start_runtime` draws an identifier of its own and registers the runtime however its start ends. -/
def startRuntime (I : Interpreter ν) (spawn : Spawn) (s : SessionManager ν) : SessionManager ν :=
  { s with
    runtimes := Function.update s.runtimes s.next
      (some ((PythonRuntime.made I (toString s.next)).startFully I spawn))
    registry := s.registry ++ [s.next]
    next := s.next + 1 }

def createSession (I : Interpreter ν) (k : SessionId) (spawn : Spawn) (s : SessionManager ν) :
    SessionManager ν :=
  let t := s.startRuntime I spawn
  -- A runtime that is not up has raised; the session of one that is up becomes active at once.
  if t.running s.next then { t with sessions := t.sessions.set k ⟨.active, s.next⟩ } else t

def resetSession (I : Interpreter ν) (k : SessionId) (spawn : Spawn) (s : SessionManager ν) :
    SessionManager ν :=
  match s.sessions.get? k with
  | none => s
  | some b =>
    if b.status ≠ .active then s
    else s.onRuntime b.runtime fun r => r.stopFully.startFully I spawn

def stopSession (k : SessionId) (s : SessionManager ν) : SessionManager ν :=
  match s.sessions.get? k with
  | none => s
  | some b =>
    if b.status = .stopping ∨ b.status = .stopped then s
    else
      { s.onRuntime b.runtime PythonRuntime.stopFully with
        sessions := s.sessions.set k { b with status := .stopped } }

def stopRunning (r : PythonRuntime ν) : PythonRuntime ν :=
  if r.status = .starting ∨ r.status = .running then r.stopFully else r

def terminateAllSessions (s : SessionManager ν) : SessionManager ν :=
  let unstopped := s.sessions.values.filter fun b => b.status = .starting ∨ b.status = .active
  let t := unstopped.foldl (fun t b => t.onRuntime b.runtime PythonRuntime.stopFully) s
  let u := t.registry.foldl (fun u x => u.onRuntime x stopRunning) t
  { u with sessions := .empty, registry := [] }

inductive Request
  | create (k : SessionId) (spawn : Spawn)
  | reset (k : SessionId) (spawn : Spawn)
  | stop (k : SessionId)
  | terminateAll
  | exit (x : ℕ)

def step (I : Interpreter ν) (s : SessionManager ν) : Request → Option (SessionManager ν)
  | .create k spawn => some (s.createSession I k spawn)
  | .reset k spawn => some (s.resetSession I k spawn)
  | .stop k => some (s.stopSession k)
  | .terminateAll => some s.terminateAllSessions
  | .exit x => some (s.onRuntime x fun r => { r with alive := false })

def stopListed (s : SessionManager ν) : SessionManager ν :=
  (s.sessions.items.map Prod.fst).foldl (fun t k => t.stopSession k) s

end SessionManager

end NotebookExecution.Execution
