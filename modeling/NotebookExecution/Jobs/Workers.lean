import NotebookExecution.Execution.SessionOwnership
import NotebookExecution.Jobs.NotebookRuns
import NotebookExecution.Jobs.Routes
import NotebookExecution.Jobs.Scheduler
import NotebookExecution.Jobs.Timezones
import Mathlib.Algebra.BigOperators.Group.Finset.Basic
import Mathlib.Algebra.Order.BigOperators.Group.Finset

/-! The worker processes of triggered jobs. Every trigger builds a job manager, and that an execution
manager and a session manager, which nobody sees after it. Triggers follow one another here; a worker
exits when its process fails, or when its manager has been collected and the pipe is closed. -/

namespace NotebookExecution.Jobs

open Library.Transaction Library.Runs Store JobManager
open Execution (Interpreter SessionId SessionManager Spawn echo)

variable {ν : Type} {I : Interpreter ν} {E : Environment}

namespace Workers

inductive Caller
  | request (jobId : Uuid)
  | evaluation (now : Instant) (job : Job)

/-- What a run does to its worker: the worker ends, or a reset stops it and spawns another. -/
inductive Happening
  | ends
  | reset (spawn : Spawn)

structure Run where
  caller : Caller
  spawn : Spawn
  failure : JobFailure
  during : List Happening
  answers : Answers
  env : Env

namespace Run

def known (r : Run) : Option Job :=
  match r.caller with
  | .request _ => none
  | .evaluation _ job => some job

def jobId (r : Run) : Uuid :=
  match r.caller with
  | .request k => k
  | .evaluation _ job => job.id

def outside (r : Run) : Outside := ⟨if r.spawn = .up then none else some r.failure, r.answers, r.env⟩

def commits (E : Environment) (r : Run) (d : Database) : Database :=
  match r.caller with
  | .request k => (request d (triggerJobExecution r.outside none k .manual)).2
  | .evaluation now job => (JobScheduler.fire E now r.outside job (.open d)).2.committed

def opens (r : Run) (d : Database) : Option Job :=
  match (loadJob r.known r.jobId (.open d)).1 with
  | .error _ => none
  | .ok job =>
    match (checkOverlap job (.open d)).1 with
    | .error _ => none
    | .ok _ => some job

end Run

/-- `get_session`, or `create_session` where that raises. -/
def getOrCreate (I : Interpreter ν) (k : SessionId) (spawn : Spawn) (s : SessionManager ν) : SessionManager ν :=
  match s.sessions.get? k with
  | some _ => s
  | none => s.createSession I k spawn

def happen (I : Interpreter ν) (k : SessionId) (s : SessionManager ν) : Happening → SessionManager ν
  | .ends => s.onRuntime 0 fun r => { r with alive := false }
  | .reset spawn => s.resetSession I k spawn

def Run.sessions (I : Interpreter ν) (r : Run) (d : Database) : SessionManager ν :=
  match r.opens d with
  | none => .empty
  | some job =>
    let s := getOrCreate I (sessionId job) r.spawn .empty
    if r.spawn = .up then r.during.foldl (happen I (sessionId job)) s else s

structure Host (ν : Type) where
  database : Database
  managers : List (Uuid × SessionManager ν)

inductive Action
  | call (c : JobCall)
  | trigger (r : Run)
  | exit (i x : ℕ)

namespace Host

def start (d : Database) : Host ν := ⟨d, []⟩

def step (I : Interpreter ν) (E : Environment) (s : Host ν) : Action → Option (Host ν)
  | .call c => some { s with database := perform E s.database c }
  | .trigger r =>
    some ⟨r.commits E s.database, s.managers ++ [(r.jobId, r.sessions I s.database)]⟩
  | .exit i x =>
    some { s with managers :=
      s.managers.modify i fun m => (m.1, m.2.onRuntime x fun r => { r with alive := false }) }

def workers (m : SessionManager ν) : ℕ := m.registry.countP m.live

def liveWorkers (s : Host ν) : ℕ := (s.managers.map fun m => workers m.2).sum

def workersOf (k : Uuid) (s : Host ν) : ℕ :=
  ((s.managers.filter fun m => m.1 = k).map fun m => workers m.2).sum

def triggered (s : Host ν) : Finset Uuid := (s.managers.map Prod.fst).toFinset

structure Bounded (s : Host ν) : Prop where
  each : ∀ k, s.workersOf k ≤ 1
  total : s.liveWorkers ≤ s.triggered.card

def survives : Bool → List Happening → Bool
  | up, [] => up
  | _, .ends :: rest => survives false rest
  | _, .reset spawn :: rest => survives (decide (spawn = .up)) rest

def Alone (s : Host ν) : Action → Prop
  | .trigger r => (r.opens s.database).isSome = true → r.spawn = .up → survives true r.during = true →
      s.workersOf r.jobId = 0
  | _ => True

end Host

section

open Execution.PythonRuntime Execution.SessionManager

variable {k : SessionId} {s : SessionManager ν} {up : Bool} {spawn : Spawn}

structure Solo (k : SessionId) (up : Bool) (s : SessionManager ν) : Prop where
  registry : s.registry = [0]
  session : s.sessions.get? k = some ⟨.active, 0⟩
  runtime : ∃ r, s.runtimes 0 = some r ∧ r.alive = up

lemma Solo.workers (h : Solo k up s) : Host.workers s = if up = true then 1 else 0 := by
  obtain ⟨r, hr, hup⟩ := h.runtime
  have hlive : s.live 0 = up := by rw [live, hr, Option.any_some, hup]
  rw [Host.workers, h.registry, List.countP_singleton, hlive]

lemma startFully_alive (I : Interpreter ν) (spawn : Spawn) (r : Execution.PythonRuntime ν) :
    (r.startFully I spawn).alive = decide (spawn = .up) := by
  cases spawn <;> rfl

lemma solo_created (I : Interpreter ν) (k : SessionId) :
    Solo k true (getOrCreate I k .up (SessionManager.empty : SessionManager ν)) where
  registry := rfl
  session := Library.Dict.get?_set_self
  runtime := ⟨_, rfl, startFully_alive I .up _⟩

lemma Solo.ends (h : Solo k up s) : Solo k false (happen I k s .ends) := by
  obtain ⟨r, hr, -⟩ := h.runtime
  refine ⟨h.registry, h.session, { r with alive := false }, ?_, rfl⟩
  rw [happen, onRuntime_self, hr]
  rfl

lemma Solo.reset (h : Solo k up s) (spawn : Spawn) :
    Solo k (decide (spawn = .up)) (happen I k s (.reset spawn)) := by
  obtain ⟨r, hr, -⟩ := h.runtime
  have he : happen I k s (.reset spawn) = s.onRuntime 0 fun r => r.stopFully.startFully I spawn := by
    rw [happen, resetSession, h.session]
    rfl
  have hr' : (happen I k s (.reset spawn)).runtimes 0 = some (r.stopFully.startFully I spawn) := by
    rw [he, onRuntime_self, hr, Option.map_some]
  rw [he] at hr' ⊢
  exact ⟨h.registry, h.session, _, hr', startFully_alive I spawn r.stopFully⟩

lemma Solo.during (h : Solo k up s) (l : List Happening) :
    Solo k (Host.survives up l) (l.foldl (happen I k) s) := by
  induction l generalizing up s with
  | nil => exact h
  | cons a l ih =>
    cases a with
    | ends => exact ih h.ends
    | reset spawn => exact ih (h.reset spawn)

lemma workers_unstarted (h : spawn ≠ .up) (I : Interpreter ν) (k : SessionId) :
    Host.workers (getOrCreate I k spawn (SessionManager.empty : SessionManager ν)) = 0 := by
  change Host.workers ((SessionManager.empty : SessionManager ν).createSession I k spawn) = 0
  rcases createSession_cases I k spawn (SessionManager.empty : SessionManager ν) with ⟨hup, -⟩ | ⟨-, he⟩
  · exact absurd hup h
  · have hlive : ((SessionManager.empty : SessionManager ν).startRuntime I spawn).live 0 = false := by
      rcases startFully_cases I spawn (made I (toString 0)) with ⟨hup, -⟩ | ⟨-, -, hout⟩
      · exact absurd hup h
      · exact hout
    rw [he, Host.workers]
    change List.countP _ [0] = 0
    rw [List.countP_singleton, hlive]
    rfl

end

namespace Run

variable {r : Run} {d : Database}

def leaves (r : Run) (d : Database) : Bool :=
  (r.opens d).isSome && decide (r.spawn = .up) && Host.survives true r.during

lemma workers_sessions (I : Interpreter ν) (r : Run) (d : Database) :
    Host.workers (r.sessions I d) = if r.leaves d = true then 1 else 0 := by
  rw [sessions, leaves]
  cases r.opens d with
  | none => rfl
  | some job =>
    dsimp only
    by_cases hup : r.spawn = .up
    · have hsolo := (solo_created I (sessionId job)).during (I := I) r.during
      rw [hup, if_pos rfl, hsolo.workers]
      simp
    · rw [if_neg hup, workers_unstarted hup]
      simp [hup]

end Run

namespace Host

variable {s t : Host ν} {d : Database} {r : Run} {k : Uuid}

lemma workersOf_cons (m : Uuid × SessionManager ν) (l : List (Uuid × SessionManager ν)) :
    (⟨d, m :: l⟩ : Host ν).workersOf k =
      (if m.1 = k then workers m.2 else 0) + (⟨d, l⟩ : Host ν).workersOf k := by
  by_cases hk : m.1 = k
  · simp [workersOf, hk]
  · simp [workersOf, hk]

lemma sum_workersOf (l : List (Uuid × SessionManager ν)) {K : Finset Uuid} (hK : ∀ m ∈ l, m.1 ∈ K) :
    ∑ k ∈ K, (⟨d, l⟩ : Host ν).workersOf k = (⟨d, l⟩ : Host ν).liveWorkers := by
  induction l with
  | nil => exact Finset.sum_const_zero
  | cons m l ih =>
    have hm : m.1 ∈ K := hK m List.mem_cons_self
    have hl : ∀ m' ∈ l, m'.1 ∈ K := fun m' hm' => hK m' (List.mem_cons_of_mem m hm')
    calc ∑ k ∈ K, (⟨d, m :: l⟩ : Host ν).workersOf k
        = ∑ k ∈ K, ((if m.1 = k then workers m.2 else 0) + (⟨d, l⟩ : Host ν).workersOf k) :=
          Finset.sum_congr rfl fun k _ => workersOf_cons m l
      _ = workers m.2 + (⟨d, l⟩ : Host ν).liveWorkers := by
          rw [Finset.sum_add_distrib, ih hl, Finset.sum_ite_eq, if_pos hm]
      _ = (⟨d, m :: l⟩ : Host ν).liveWorkers := rfl

lemma bounded_iff : s.Bounded ↔ ∀ k, s.workersOf k ≤ 1 := by
  refine ⟨Bounded.each, fun h => ⟨h, ?_⟩⟩
  have hmem : ∀ m ∈ s.managers, m.1 ∈ s.triggered :=
    fun m hm => List.mem_toFinset.mpr (List.mem_map_of_mem hm)
  calc s.liveWorkers
      = ∑ k ∈ s.triggered, s.workersOf k := (sum_workersOf s.managers hmem).symm
    _ ≤ ∑ _k ∈ s.triggered, 1 := Finset.sum_le_sum fun k _ => h k
    _ = s.triggered.card := Finset.card_eq_sum_ones s.triggered |>.symm

lemma workersOf_trigger (h : step I E s (.trigger r) = some t) (k : Uuid) :
    t.workersOf k = s.workersOf k + if r.jobId = k ∧ r.leaves s.database = true then 1 else 0 := by
  obtain rfl := Option.some_inj.mp h
  change (((s.managers ++ [(r.jobId, r.sessions I s.database)]).filter _).map _).sum = _
  rw [List.filter_append, List.map_append, List.sum_append]
  by_cases hk : r.jobId = k
  · simp [workersOf, hk, r.workers_sessions]
  · simp [workersOf, hk]

lemma alone_iff : s.Alone (.trigger r) ↔ (r.leaves s.database = true → s.workersOf r.jobId = 0) := by
  rw [Alone, Run.leaves, Bool.and_eq_true, Bool.and_eq_true, decide_eq_true_eq, and_imp, and_imp]

lemma workersOf_modify {x : ℕ} (l : List (Uuid × SessionManager ν)) (i : ℕ) :
    (⟨d, l.modify i fun m => (m.1, m.2.onRuntime x fun r => { r with alive := false })⟩ : Host ν).workersOf k ≤
      (⟨d, l⟩ : Host ν).workersOf k := by
  have hone : ∀ m : SessionManager ν, workers (m.onRuntime x fun r => { r with alive := false }) ≤ workers m :=
    fun m => List.countP_mono_left fun y _ hy => (Execution.SessionManager.calmer_exit x m).live hy
  induction l generalizing i with
  | nil => exact (congrArg (fun l => (⟨d, l⟩ : Host ν).workersOf k) (List.modify_nil _ i)).le
  | cons m l ih =>
    cases i with
    | zero =>
      rw [List.modify_zero_cons, workersOf_cons, workersOf_cons]
      apply Nat.add_le_add_right
      dsimp only
      split_ifs
      · exact hone m.2
      · exact le_rfl
    | succ i =>
      rw [List.modify_succ_cons, workersOf_cons, workersOf_cons]
      exact Nat.add_le_add_left (ih i) _

lemma workersOf_exit {i x : ℕ} (h : step I E s (.exit i x) = some t) (k : Uuid) :
    t.workersOf k ≤ s.workersOf k := by
  obtain rfl := Option.some_inj.mp h
  exact workersOf_modify s.managers i

lemma bounded_step {a : Action} (hs : s.Bounded) (h : step I E s a = some t) :
    t.Bounded ↔ s.Alone a := by
  rw [bounded_iff] at hs ⊢
  cases a with
  | call c =>
    obtain rfl := Option.some_inj.mp h
    exact iff_of_true hs trivial
  | exit i x => exact iff_of_true (fun k => (workersOf_exit h k).trans (hs k)) trivial
  | trigger r =>
    rw [alone_iff]
    constructor
    · intro ht hr
      have hone := ht r.jobId
      rw [workersOf_trigger h, if_pos ⟨rfl, hr⟩] at hone
      omega
    · intro hr k
      rw [workersOf_trigger h]
      split_ifs with hk
      · obtain ⟨rfl, hl⟩ := hk
        rw [hr hl]
      · exact hs k

lemma bounded_start : (start d : Host ν).Bounded := bounded_iff.mpr fun _ => Nat.zero_le 1

end Host

open Host

theorem job_workers_iff (I : Interpreter ν) (E : Environment) (d : Database) (as : List Action) :
    Along (step I E) (fun _ _ t => t.Bounded) (.start d) as ↔
      Along (step I E) (fun s a _ => s.Alone a) (.start d) as :=
  along_iff_of_invariant (I := fun _ => True) (fun _ _ _ _ _ => trivial)
    (fun _ _ _ _ hs h => bounded_step hs h) trivial bounded_start

def byRequest : Run := ⟨.request 2, .up, .executionManager "", [], willing.answers, willing.env⟩

/-- A request for a run of a notebook with a code cell fails once its worker is there. After the second
request both workers live, of runs that nothing records. -/
theorem worker_left_behind :
    (∃ t, exec (step echo world) (.start (withJob oneCell)) [.trigger byRequest, .trigger byRequest] = some t ∧
      t.liveWorkers = 2 ∧ t.triggered.card = 1 ∧ t.database.jobExecutions = []) ∧
    ¬ ∀ as, Along (step echo world) (fun _ _ t => t.Bounded) (.start (withJob oneCell)) as := by
  obtain ⟨t, ht⟩ : ∃ t, exec (step echo world) (.start (withJob oneCell))
      [.trigger byRequest, .trigger byRequest] = some t := ⟨_, rfl⟩
  have htwo : t.liveWorkers = 2 ∧ t.triggered.card = 1 ∧ t.database.jobExecutions = [] := by
    cases ht
    exact ⟨rfl, rfl, rfl⟩
  refine ⟨⟨t, ht, htwo⟩, fun h => ?_⟩
  have hfew := ((h _).reach bounded_start ht).total
  rw [htwo.1, htwo.2.1] at hfew
  omega

end Workers

end NotebookExecution.Jobs
