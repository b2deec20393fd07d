import Mathlib.Tactic

/-! The worker process: it answers the requests of its pipe one by one. Elapsed times and what
the machine reports on packages come from outside. -/

namespace NotebookExecution.Execution

abbrev RequestId := ℕ

/-- The text Python prints for a float of seconds. -/
abbrev Seconds := String

inductive Command
  | execute (requestId : RequestId) (code : String)
  | installPackages (requestId : RequestId) (requirements : List String) (timeout : Seconds)
  | verifyPackages (requestId : RequestId) (packages : List (String × String))
  | stop
  deriving DecidableEq

def Command.requestId : Command → Option RequestId
  | .execute k _ | .installPackages k _ _ | .verifyPackages k _ => some k
  | .stop => none

/-- A response dictionary; a key the worker leaves out is `none`. -/
structure Message where
  requestId : RequestId
  status : String
  stdout : Option String
  stderr : Option String
  traceback : Option String
  executionTimeMs : Option ℕ
  resolvedVersions : Option (List (String × String))
  satisfied : Option Bool
  missingOrInvalid : Option (List String)
  deriving DecidableEq

/-- How `exec` of one cell can end. Only exceptions below `Exception` are caught by the worker. -/
inductive Ended (ν : Type)
  | ok (space : ν) (stdout stderr : String)
  | raised (space : ν) (stdout stderr traceback : String)
  | escaped

structure Interpreter (ν : Type) where
  blank : ν
  exec : String → ν → Ended ν

structure InstallReport where
  status : String
  stdout : String
  stderr : String
  resolvedVersions : List (String × String)
  traceback : Option String

structure VerifyReport where
  satisfied : Bool
  resolvedVersions : List (String × String)
  missingOrInvalid : List String

structure Machine where
  elapsedMs : ℕ
  install : InstallReport
  verify : VerifyReport

variable {ν : Type}

def executed (k : RequestId) (machine : Machine) (status stdout stderr : String)
    (traceback : Option String) : Message :=
  ⟨k, status, some stdout, some stderr, traceback, some machine.elapsedMs, none, none, none⟩

def installed (k : RequestId) (machine : Machine) : Message :=
  ⟨k, machine.install.status, some machine.install.stdout, some machine.install.stderr,
    machine.install.traceback, some machine.elapsedMs, some machine.install.resolvedVersions,
    none, none⟩

def verified (k : RequestId) (machine : Machine) : Message :=
  ⟨k, "ok", none, none, none, none, some machine.verify.resolvedVersions,
    some machine.verify.satisfied, some machine.verify.missingOrInvalid⟩

/-- One turn of the worker's loop: the namespace it leaves and its response, or `none` when the
worker leaves its loop without one. -/
def serveCommand (I : Interpreter ν) (machine : Machine) (space : ν) : Command → Option (ν × Message)
  | .execute k code =>
    match I.exec code space with
    | .ok next stdout stderr => some (next, executed k machine "ok" stdout stderr none)
    | .raised next stdout stderr traceback =>
      some (next, executed k machine "error" stdout stderr (some traceback))
    | .escaped => none
  | .installPackages k _ _ => some (space, installed k machine)
  | .verifyPackages k _ => some (space, verified k machine)
  | .stop => none

lemma serveCommand_requestId {I : Interpreter ν} {machine : Machine} {space next : ν} {c : Command}
    {m : Message} (h : serveCommand I machine space c = some (next, m)) :
    c.requestId = some m.requestId := by
  cases c with
  | execute k code =>
    simp only [serveCommand] at h
    cases he : I.exec code space with
    | ok sp out err =>
      rw [he] at h
      cases h
      rfl
    | raised sp out err tb =>
      rw [he] at h
      cases h
      rfl
    | escaped =>
      rw [he] at h
      cases h
  | installPackages k reqs t =>
    cases h
    rfl
  | verifyPackages k pkgs =>
    cases h
    rfl
  | stop => cases h

def echo : Interpreter (List String) where
  blank := []
  exec code space := if code = "exit" then .escaped else .ok (space ++ [code]) code ""

def quietMachine : Machine := ⟨0, ⟨"ok", "", "", [], none⟩, ⟨true, [], []⟩⟩

end NotebookExecution.Execution
