import NotebookExecution.Execution.PythonWorker

/-! The loop of the worker, with every way in which the code of a cell can end. Code runs inside the
loop's own process: what it raises is caught by class, and what it does to the captured streams shows
when they are read. Two things are taken for granted: `traceback.format_exc` returns a text, and a cell
leaves the process itself alone (it does not fork, replace or kill it, or shut its pipes). -/

namespace NotebookExecution.Execution

variable {ν π : Type}

/-- What can leave `exec`. A syntax error leaves `compile` and is below `Exception` too. -/
inductive Raised
  | exception (traceback : String)
  | keyboardInterrupt
  | systemExit
  | otherBase
  deriving DecidableEq

/-- The namespace when the code ended, bindings made before an exception included; a captured stream
that the code has closed is `none`. -/
structure Ran (ν : Type) where
  space : ν
  raised : Option Raised
  stdout : Option String
  stderr : Option String

structure Python (ν π : Type) where
  blank : ν
  compile : String → Except String π
  exec : π → ν → Ran ν

namespace Python

variable (P : Python ν π)

def ran (code : String) (space : ν) : Ran ν :=
  match P.compile code with
  | .error traceback => ⟨space, some (.exception traceback), some "", some ""⟩
  | .ok compiled => P.exec compiled space

def leaves (code : String) (space : ν) : ν := (P.ran code space).space

/-- The code ends normally or by an `Exception`, and leaves the captured streams open. -/
def endsWell (code : String) (space : ν) : Bool :=
  (match (P.ran code space).raised with
    | none | some (.exception _) => true
    | _ => false) && (P.ran code space).stdout.isSome && (P.ran code space).stderr.isSome

end Python

/-- The error report of the loop itself has no request number. -/
inductive Reply
  | answer (m : Message)
  | anonymous (stderr : String)
  deriving DecidableEq

def Reply.requestId : Reply → Option RequestId
  | .answer m => some m.requestId
  | .anonymous _ => none

inductive Exit
  | stop | interrupted | failed | propagated
  deriving DecidableEq

inductive Turned (ν : Type)
  | answered (space : ν) (m : Message)
  | left (space : ν) (reply : Option Reply) (exit : Exit)

namespace Python

variable (P : Python ν π)

def execute (machine : Machine) (k : RequestId) (code : String) (space : ν) : Turned ν :=
  let ran := P.ran code space
  match ran.raised with
  | some .keyboardInterrupt => .left ran.space none .interrupted
  | some .systemExit | some .otherBase => .left ran.space none .propagated
  | none =>
    match ran.stdout, ran.stderr with
    | some out, some err => .answered ran.space (executed k machine "ok" out err none)
    | _, _ => .left ran.space (some (.anonymous "I/O operation on closed file")) .failed
  | some (.exception traceback) =>
    match ran.stdout, ran.stderr with
    | some out, some err => .answered ran.space (executed k machine "error" out err (some traceback))
    | _, _ => .left ran.space (some (.anonymous "I/O operation on closed file")) .failed

def turn (machine : Machine) (space : ν) : Command → Turned ν
  | .execute k code => P.execute machine k code space
  | .installPackages k _ _ => .answered space (installed k machine)
  | .verifyPackages k _ => .answered space (verified k machine)
  | .stop => .left space none .stop

structure Served (ν : Type) where
  replies : List Reply
  seen : List ν
  exit : Option Exit

def serve : ν → List (Command × Machine) → Served ν
  | _, [] => ⟨[], [], none⟩
  | space, (c, machine) :: rest =>
    match P.turn machine space c with
    | .answered next m =>
      let served := serve next rest
      ⟨.answer m :: served.replies, space :: served.seen, served.exit⟩
    | .left _ reply exit => ⟨reply.toList, [space], some exit⟩

def runPythonWorker (requests : List (Command × Machine)) : Served ν := P.serve P.blank requests

/-- Code as the worker's session sees it: a cell without an answer has escaped. -/
def interpreter : Interpreter ν where
  blank := P.blank
  exec code space :=
    let ran := P.ran code space
    match ran.raised, ran.stdout, ran.stderr with
    | none, some out, some err => .ok ran.space out err
    | some (.exception traceback), some out, some err => .raised ran.space out err traceback
    | _, _, _ => .escaped

theorem turn_eq_serveCommand (machine : Machine) (space : ν) (c : Command) :
    serveCommand P.interpreter machine space c =
      match P.turn machine space c with
      | .answered next m => some (next, m)
      | .left _ _ _ => none := by
  cases c with
  | execute k code =>
    simp only [serveCommand, interpreter, turn, execute]
    rcases P.ran code space with ⟨next, raised, out, err⟩
    cases raised with
    | none => cases out <;> cases err <;> rfl
    | some e => cases e <;> cases out <;> cases err <;> rfl
  | _ => rfl

/-! ## Cells -/

structure CellRequest where
  requestId : RequestId
  code : String
  machine : Machine

def CellRequest.command (r : CellRequest) : Command × Machine := (.execute r.requestId r.code, r.machine)

def spaces : ν → List CellRequest → List ν
  | _, [] => []
  | space, r :: rest => space :: spaces (P.leaves r.code space) rest

structure Outlives (space : ν) (requests : List CellRequest) (served : Served ν) : Prop where
  replies : served.replies.map Reply.requestId = requests.map fun r => some r.requestId
  seen : served.seen = P.spaces space requests
  exit : served.exit = none

def Survives (requests : List CellRequest) (machine : Machine) : Prop :=
  P.Outlives P.blank requests (P.runPythonWorker (requests.map CellRequest.command)) ∧
    (P.runPythonWorker (requests.map CellRequest.command ++ [(.stop, machine)])).exit = some .stop

def AllEndWell : ν → List CellRequest → Prop
  | _, [] => True
  | space, r :: rest => P.endsWell r.code space = true ∧ AllEndWell (P.leaves r.code space) rest

lemma turn_endsWell (k : RequestId) (machine : Machine) {code : String} {space : ν}
    (h : P.endsWell code space = true) :
    ∃ m, m.requestId = k ∧ P.turn machine space (.execute k code) = .answered (P.leaves code space) m := by
  simp only [endsWell, leaves, turn, execute] at h ⊢
  generalize P.ran code space = ran at h ⊢
  obtain ⟨next, raised, out, err⟩ := ran
  cases out with
  | none => simp at h
  | some out =>
    cases err with
    | none => simp at h
    | some err =>
      cases raised with
      | none => exact ⟨_, rfl, rfl⟩
      | some e =>
        cases e with
        | exception traceback => exact ⟨_, rfl, rfl⟩
        | _ => simp at h

lemma turn_endsBadly (k : RequestId) (machine : Machine) {code : String} {space : ν}
    (h : P.endsWell code space = false) :
    ∃ next reply exit, P.turn machine space (.execute k code) = .left next reply exit := by
  simp only [endsWell, turn, execute] at h ⊢
  generalize P.ran code space = ran at h ⊢
  obtain ⟨next, raised, out, err⟩ := ran
  cases raised with
  | none =>
    cases out with
    | none => exact ⟨_, _, _, rfl⟩
    | some out =>
      cases err with
      | none => exact ⟨_, _, _, rfl⟩
      | some err => simp at h
  | some e =>
    cases e with
    | exception traceback =>
      cases out with
      | none => exact ⟨_, _, _, rfl⟩
      | some out =>
        cases err with
        | none => exact ⟨_, _, _, rfl⟩
        | some err => simp at h
    | _ => exact ⟨_, _, _, rfl⟩

lemma serve_answered {c : Command} {machine : Machine} {space next : ν} {m : Message}
    {rest : List (Command × Machine)} (h : P.turn machine space c = .answered next m) :
    P.serve space ((c, machine) :: rest) =
      ⟨.answer m :: (P.serve next rest).replies, space :: (P.serve next rest).seen,
        (P.serve next rest).exit⟩ := by
  rw [serve, h]

lemma serve_left {c : Command} {machine : Machine} {space next : ν} {reply : Option Reply} {exit : Exit}
    {rest : List (Command × Machine)} (h : P.turn machine space c = .left next reply exit) :
    P.serve space ((c, machine) :: rest) = ⟨reply.toList, [space], some exit⟩ := by
  rw [serve, h]

lemma outlives_iff (requests : List CellRequest) (space : ν) :
    P.Outlives space requests (P.serve space (requests.map CellRequest.command)) ↔
      P.AllEndWell space requests := by
  induction requests generalizing space with
  | nil => exact iff_of_true ⟨rfl, rfl, rfl⟩ trivial
  | cons r rest ih =>
    rw [List.map_cons, AllEndWell]
    cases h : P.endsWell r.code space with
    | true =>
      obtain ⟨m, hm, ht⟩ := P.turn_endsWell r.requestId r.machine h
      rw [CellRequest.command, P.serve_answered ht, ← ih]
      constructor
      · rintro ⟨hr, hs, he⟩
        obtain ⟨-, hr'⟩ := List.cons.inj hr
        obtain ⟨-, hs'⟩ := List.cons.inj hs
        exact ⟨rfl, hr', hs', he⟩
      · rintro ⟨-, hr, hs, he⟩
        refine ⟨?_, congrArg (space :: ·) hs, he⟩
        rw [List.map_cons, List.map_cons, hr, Reply.requestId, hm]
    | false =>
      obtain ⟨next, reply, exit, ht⟩ := P.turn_endsBadly r.requestId r.machine h
      rw [CellRequest.command, P.serve_left ht]
      apply iff_of_false
      · rintro ⟨-, -, he⟩
        cases he
      · rintro ⟨hw, -⟩
        cases hw

lemma serve_append_exit (cs ds : List (Command × Machine)) (space : ν)
    (h : (P.serve space cs).exit = none) :
    ∃ next, (P.serve space (cs ++ ds)).exit = (P.serve next ds).exit := by
  induction cs generalizing space with
  | nil => exact ⟨space, rfl⟩
  | cons d rest ih =>
    obtain ⟨c, machine⟩ := d
    cases ht : P.turn machine space c with
    | answered next m =>
      rw [P.serve_answered ht] at h
      rw [List.cons_append, P.serve_answered ht]
      exact ih next h
    | left next reply exit =>
      rw [P.serve_left ht] at h
      cases h

theorem survives_iff (requests : List CellRequest) (machine : Machine) :
    P.Survives requests machine ↔ P.AllEndWell P.blank requests := by
  rw [Survives, runPythonWorker, outlives_iff]
  apply and_iff_left_of_imp
  intro h
  have hexit := ((P.outlives_iff requests P.blank).mpr h).exit
  obtain ⟨next, he⟩ := P.serve_append_exit _ [(.stop, machine)] P.blank hexit
  rw [runPythonWorker, he]
  rfl

/-- Code that leaves the worker by its text; any other code binds it. -/
def exiting : Python (List String) String where
  blank := []
  compile code := if code = "if True" then .error "SyntaxError: expected ':'" else .ok code
  exec code space :=
    match code with
    | "exit()" => ⟨space, some .systemExit, some "", some ""⟩
    | "raise KeyboardInterrupt" => ⟨space, some .keyboardInterrupt, some "", some ""⟩
    | "y = 1; 1 / 0" =>
      ⟨space ++ ["y = 1"], some (.exception "ZeroDivisionError: division by zero"), some "", some ""⟩
    | _ => ⟨space ++ [code], none, some "", some ""⟩

theorem exiting_does_not_survive :
    ¬ exiting.Survives [⟨0, "x = 1", quietMachine⟩, ⟨1, "exit()", quietMachine⟩, ⟨2, "x", quietMachine⟩]
        quietMachine ∧
      ((exiting.runPythonWorker ([⟨0, "x = 1", quietMachine⟩, ⟨1, "exit()", quietMachine⟩,
        ⟨2, "x", quietMachine⟩].map CellRequest.command)).replies.map Reply.requestId = [some 0]) ∧
      ¬ exiting.Survives [⟨0, "raise KeyboardInterrupt", quietMachine⟩] quietMachine := by
  refine ⟨fun h => ?_, rfl, fun h => ?_⟩
  · cases h.1.exit
  · cases h.1.exit

end Python

end NotebookExecution.Execution
