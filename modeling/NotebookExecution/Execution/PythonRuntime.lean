import NotebookExecution.Execution.PythonWorker

/-! The parent's side of a worker: its process, and the pipes it has opened so far, one for each
start. -/

namespace NotebookExecution.Execution

inductive RuntimeStatus
  | starting | running | terminating | terminated | failed
  deriving DecidableEq

def RuntimeStatus.text : RuntimeStatus → String
  | .starting => "RuntimeStatus.STARTING"
  | .running => "RuntimeStatus.RUNNING"
  | .terminating => "RuntimeStatus.TERMINATING"
  | .terminated => "RuntimeStatus.TERMINATED"
  | .failed => "RuntimeStatus.FAILED"

structure Pipe where
  opened : Bool
  requests : List Command
  responses : List Message
  sent : List RequestId
  taken : ℕ
  deriving DecidableEq

namespace Pipe

def unused : Pipe := ⟨false, [], [], [], 0⟩
def fresh : Pipe := ⟨true, [], [], [], 0⟩

def send (c : Command) (p : Pipe) : Pipe :=
  { p with requests := p.requests ++ [c], sent := p.sent ++ c.requestId.toList }

def recv (p : Pipe) : Option (Message × Pipe) :=
  match p.responses with
  | [] => none
  | m :: rest => some (m, { p with responses := rest, taken := p.taken + 1 })

def answer (m : Message) (rest : List Command) (p : Pipe) : Pipe :=
  { p with requests := rest, responses := p.responses ++ [m] }

def drop (rest : List Command) (p : Pipe) : Pipe := { p with requests := rest }

def close (p : Pipe) : Pipe := { p with opened := false }

end Pipe

structure PythonRuntime (ν : Type) where
  runtimeId : String
  status : RuntimeStatus
  generation : ℕ
  alive : Bool
  space : ν
  pipes : ℕ → Pipe

/-- How the process that `start` spawns comes up: still running at the first look, already
exited, or not spawned at all. -/
inductive Spawn
  | up | exited | refused (reason : String)
  deriving DecidableEq

namespace PythonRuntime

variable {ν : Type}

def isAlive (r : PythonRuntime ν) : Bool := r.status = .running

def up (r : PythonRuntime ν) : Bool := r.isAlive && r.alive

def pipe (r : PythonRuntime ν) : Pipe := r.pipes r.generation

def setPipe (g : ℕ) (p : Pipe) (r : PythonRuntime ν) : PythonRuntime ν :=
  { r with pipes := Function.update r.pipes g p }

def start (I : Interpreter ν) (spawn : Spawn) (r : PythonRuntime ν) : PythonRuntime ν :=
  { r with
    status := match spawn with
      | .up => .running
      | .exited => .starting
      | .refused _ => .failed
    generation := r.generation + 1
    alive := spawn = .up
    space := I.blank
    pipes := Function.update r.pipes (r.generation + 1) .fresh }

/-- `stop` up to its first suspension, and whether it suspends there; otherwise it has ended. -/
def stop (r : PythonRuntime ν) : PythonRuntime ν × Bool :=
  if r.status = .terminating ∨ r.status = .terminated then (r, false)
  else if r.alive then ({ r with status := .terminating }, true)
  else ({ r with status := .terminated, pipes := Function.update r.pipes r.generation r.pipe.close },
    false)

/-- The waits of `stop` are over, whether or not the process has gone by then. -/
def stopped (r : PythonRuntime ν) : PythonRuntime ν :=
  { r with
    status := .terminated
    pipes := Function.update r.pipes r.generation r.pipe.close }

def work (I : Interpreter ν) (machine : Machine) (r : PythonRuntime ν) : Option (PythonRuntime ν) :=
  if r.alive ∧ r.pipe.opened then
    match r.pipe.requests with
    | [] => none
    | c :: rest =>
      match serveCommand I machine r.space c with
      | some (space, m) => some ({ r with space := space }.setPipe r.generation (r.pipe.answer m rest))
      | none => some ({ r with alive := false }.setPipe r.generation (r.pipe.drop rest))
  else none

def fail (r : PythonRuntime ν) : PythonRuntime ν := { r with status := .failed }

def gone (r : PythonRuntime ν) : PythonRuntime ν := { r with alive := false }

/-- A process that has been sent the stop command or the signal of `terminate` goes in its own time,
if it heeds them at all. -/
def exit (r : PythonRuntime ν) : Option (PythonRuntime ν) :=
  if r.alive ∧ (r.status = .terminating ∨ r.status = .terminated ∨ r.status = .failed) then some r.gone
  else none

def confirm (r : PythonRuntime ν) : PythonRuntime ν := { r with status := .running }

lemma up_iff {r : PythonRuntime ν} : r.up = true ↔ r.status = .running ∧ r.alive = true := by
  simp [up, isAlive]

lemma exit_cases {r r' : PythonRuntime ν} (h : r.exit = some r') : r' = r.gone ∧ r.isAlive = false := by
  rw [exit] at h
  split at h
  · next hs =>
    cases h
    refine ⟨rfl, ?_⟩
    rcases hs.2 with hs | hs | hs <;> simp [isAlive, hs]
  · cases h

@[simp] lemma start_pipe (I : Interpreter ν) (spawn : Spawn) (r : PythonRuntime ν) :
    (r.start I spawn).pipe = .fresh := Function.update_self ..

@[simp] lemma setPipe_self (p : Pipe) (r : PythonRuntime ν) : (r.setPipe r.generation p).pipe = p :=
  Function.update_self ..

lemma setPipe_other {g : ℕ} {r : PythonRuntime ν} (h : r.generation ≠ g) (p : Pipe) :
    (r.setPipe g p).pipe = r.pipe := Function.update_of_ne h ..

end PythonRuntime

end NotebookExecution.Execution
