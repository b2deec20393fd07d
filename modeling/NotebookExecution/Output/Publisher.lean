import NotebookExecution.Library.Runs
import NotebookExecution.Output.Manager

/-! The output publisher: tasks that publish and tasks that subscribe, around one lock. A task runs
from one `await` that suspends it to the next; a publisher in its loop may be overtaken after each `put`. -/

namespace NotebookExecution.Output

/-- Where a call of `subscribe` is suspended: at the lock before it is registered, in `q.get()`, at the
`yield`, at the lock of the `finally`. It ends having been removed, or cut short at one of the two locks. -/
inductive Phase
  | arriving | getting | yielded | leaving | removed | turnedAway | stranded
  deriving DecidableEq

def Phase.registered : Phase → Bool
  | .getting | .yielded | .leaving | .stranded => true
  | .arriving | .removed | .turnedAway => false

/-- A call of `subscribe` with its queue: what is in it, and all that was ever put into it and taken out. -/
structure Subscription (Event : Type) where
  executionId : String
  phase : Phase
  queue : List Event
  put : List Event
  handed : List Event

structure Publishing (Event : Type) where
  event : Event
  passed : ℕ

structure OutputPublisher (Event : Type) where
  subscribers : String → Option (List ℕ)
  lock : Option (Publishing Event)
  subscriptions : ℕ → Option (Subscription Event)

namespace OutputPublisher

variable {Event : Type}

def init : OutputPublisher Event := ⟨fun _ => none, none, fun _ => none⟩

def queuesOf (s : OutputPublisher Event) (executionId : String) : List ℕ :=
  (s.subscribers executionId).getD []

def set (s : OutputPublisher Event) (q : ℕ) (x : Subscription Event) : OutputPublisher Event :=
  { s with subscriptions := Function.update s.subscriptions q (some x) }

def register (s : OutputPublisher Event) (executionId : String) (q : ℕ) : OutputPublisher Event :=
  { s with subscribers := Function.update s.subscribers executionId (some (s.queuesOf executionId ++ [q])) }

def unregister (s : OutputPublisher Event) (executionId : String) (q : ℕ) : OutputPublisher Event :=
  match s.subscribers executionId with
  | none => s
  | some queues =>
    -- `list.remove` takes out the first occurrence, and there may be none.
    let rest := queues.erase q
    { s with subscribers := Function.update s.subscribers executionId (if rest = [] then none else some rest) }

/-- What the task of a subscription does next; the last is a cancellation while it waits for the lock. -/
inductive Move
  | register | get | resume | terminate | unregister | interrupt

inductive Action (Event : Type)
  | publish (event : Event)
  | put
  | release
  | subscribe (q : ℕ) (executionId : String)
  | task (q : ℕ) (move : Move)

section Steps

variable (execId : Event → String) (s : OutputPublisher Event)

def putNext : Option (OutputPublisher Event) := do
  let p ← s.lock
  let q ← (s.queuesOf (execId p.event))[p.passed]?
  let x ← s.subscriptions q
  pure ({ s with lock := some { p with passed := p.passed + 1 } }.set q
    { x with queue := x.queue ++ [p.event], put := x.put ++ [p.event] })

def releaseLock : Option (OutputPublisher Event) := do
  let p ← s.lock
  if (s.queuesOf (execId p.event)).length ≤ p.passed then pure { s with lock := none } else none

def takeNext (q : ℕ) (x : Subscription Event) : Option (OutputPublisher Event) :=
  match x.queue with
  | [] => none
  | event :: rest => s.set q { x with phase := .yielded, queue := rest, handed := x.handed ++ [event] }

def advance (q : ℕ) (x : Subscription Event) (move : Move) : Option (OutputPublisher Event) :=
  match move, x.phase with
  | .register, .arriving =>
    if s.lock.isNone then some ((s.register x.executionId q).set q { x with phase := .getting }) else none
  | .get, .getting => s.takeNext q x
  | .resume, .yielded => some (s.set q { x with phase := .getting })
  | .terminate, .getting | .terminate, .yielded => some (s.set q { x with phase := .leaving })
  | .unregister, .leaving =>
    if s.lock.isNone then some ((s.unregister x.executionId q).set q { x with phase := .removed }) else none
  | .interrupt, .arriving => some (s.set q { x with phase := .turnedAway })
  | .interrupt, .leaving => some (s.set q { x with phase := .stranded })
  | _, _ => none

def step : Action Event → Option (OutputPublisher Event)
  | .publish event => if s.lock.isNone then some { s with lock := some ⟨event, 0⟩ } else none
  | .put => s.putNext execId
  | .release => s.releaseLock execId
  | .subscribe q executionId =>
    if (s.subscriptions q).isNone then some (s.set q ⟨executionId, .arriving, [], [], []⟩) else none
  | .task q move => (s.subscriptions q).bind fun x => s.advance q x move

end Steps

end OutputPublisher

end NotebookExecution.Output
