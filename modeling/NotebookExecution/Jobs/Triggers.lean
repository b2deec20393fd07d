import NotebookExecution.Jobs.Routes
import NotebookExecution.Jobs.Scheduler
import NotebookExecution.Library.Runs

/-! Triggers of jobs that overlap. Each has a session of its own and gives way at its awaits; what
it has flushed is seen by the others when it has committed. -/

namespace NotebookExecution.Jobs

open Library.Transaction Library.Table Library.Runs Store JobManager JobScheduler

variable {E : Environment} {i : ℕ} {d : Database} {job : Job}

inductive Origin
  | request
  | evaluation (now : Instant) (job : Job)

def Origin.known : Origin → Option Job
  | .request => none
  | .evaluation _ job => some job

def Origin.triggerType : Origin → TriggerType
  | .request => .manual
  | .evaluation _ _ => .scheduled

/-- Where a trigger is in `trigger_job_execution`. While it is running, one submission is on its way
and `rest` are the cells to come; what it has recorded awaits its commit. -/
inductive Phase
  | loading
  | checking (job : Job)
  | opening (job : Job)
  | running (job : Job) (rest : List NotebookCell)
  | recording (job : Job) (executionId : String)
  | recorded (job : Job) (executionId : String) (now : Instant)
  | returned (row : JobExecution)
  | raised (err : JobFailure)

structure Trigger where
  jobId : Uuid
  origin : Origin
  phase : Phase

def Trigger.executing (t : Trigger) : Bool :=
  match t.phase with
  | .running _ _ => true
  | _ => false

def Trigger.ended (t : Trigger) : Bool :=
  match t.phase with
  | .returned _ | .raised _ => true
  | _ => false

inductive Move
  | load
  | check
  | openSession (outcome : Option JobFailure)
  | answer (result : Except JobFailure String)
  | record (now : Instant)
  | commit

namespace Phase

def after {α : Type} (next : α → Phase) : Except JobFailure α → Phase
  | .ok a => next a
  | .error err => .raised err

def submitNext (job : Job) (executionId : String) : List NotebookCell → Phase
  | [] => .recording job executionId
  | cell :: rest => after (fun _ => .running job rest) (payload job cell)

def start (job : Job) (d : Database) : Phase :=
  match codeCells job.notebookId d with
  | [] => .running job []
  | cell :: rest => submitNext job "" (cell :: rest)

end Phase

def finish (E : Environment) (origin : Origin) (e : Env) (job : Job) (executionId : String) :
    Tx Database JobFailure JobExecution := do
  let row ← recordExecution e job executionId origin.triggerType
  match origin with
  | .request => pure row
  | .evaluation now _ => do
    reschedule E now e job
    pure row

def move (E : Environment) (i : ℕ) (t : Trigger) (d : Database) : Move → Option (Phase × Database)
  -- The `i`-th trigger gives its row the identifier `i`, so that no two rows have the same.
  | .load =>
    match t.phase with
    | .loading => some (.after .checking (loadJob t.origin.known t.jobId (.open d)).1, d)
    | _ => none
  | .check =>
    match t.phase with
    | .checking job => some (.after (fun _ => .opening job) (checkOverlap job (.open d)).1, d)
    | _ => none
  | .openSession outcome =>
    match t.phase with
    | .opening job => some (outcome.elim (.start job d) .raised, d)
    | _ => none
  | .answer result =>
    match t.phase with
    | .running job rest => some (.after (fun executionId => .submitNext job executionId rest) result, d)
    | _ => none
  | .record now =>
    match t.phase with
    | .recording job executionId =>
      some (.after (fun _ => .recorded job executionId now)
        (recordExecution ⟨i, now⟩ job executionId t.origin.triggerType (.open d)).1, d)
    | _ => none
  | .commit =>
    match t.phase with
    | .recorded job executionId now =>
      match finish E t.origin ⟨i, now⟩ job executionId (.open d) with
      | (.ok row, s) => some (.returned row, s.view)
      | (.error err, _) => some (.raised err, d)
    | _ => none

structure Evaluation where
  now : Instant
  rest : List Job
  current : Option ℕ

structure JobSystem where
  committed : Database
  triggers : List Trigger
  evaluations : List Evaluation

namespace JobSystem

inductive Action
  | call (c : JobCall)
  | run (jobId : Uuid)
  | evaluate (now : Instant)
  | fireNext (n : ℕ)
  | move (i : ℕ) (m : Move)

def start (d : Database) : JobSystem := ⟨d, [], []⟩

def hasReturned (s : JobSystem) (i : ℕ) : Bool :=
  match s.triggers[i]? with
  | some ⟨_, _, .returned _⟩ => true
  | _ => false

def step (E : Environment) (s : JobSystem) : Action → Option JobSystem
  -- An evaluation goes on when its trigger has returned; one that has raised is its last.
  | .call c => some { s with committed := perform E s.committed c }
  | .run k => some { s with triggers := s.triggers ++ [⟨k, .request, .loading⟩] }
  | .evaluate now =>
    some { s with evaluations := s.evaluations ++ [⟨now, dueJobs now s.committed, none⟩] }
  | .fireNext n =>
    match s.evaluations[n]? with
    | some ⟨now, job :: rest, current⟩ =>
      if current.all s.hasReturned then
        some { s with
          triggers := s.triggers ++ [⟨job.id, .evaluation now job, .loading⟩]
          evaluations := s.evaluations.set n ⟨now, rest, some s.triggers.length⟩ }
      else none
    | _ => none
  | .move i m =>
    match s.triggers[i]? with
    | some t => (Jobs.move E i t s.committed m).map fun r =>
      { s with committed := r.2, triggers := s.triggers.set i { t with phase := r.1 } }
    | none => none

variable {s t : JobSystem}

lemma fireNext_step {n : ℕ} (h : step E s (.fireNext n) = some t) :
    ∃ now job rest current, s.evaluations[n]? = some ⟨now, job :: rest, current⟩ ∧
      t = ⟨s.committed, s.triggers ++ [⟨job.id, .evaluation now job, .loading⟩],
        s.evaluations.set n ⟨now, rest, some s.triggers.length⟩⟩ := by
  simp only [step] at h
  split at h
  · next now job rest current he =>
    split at h
    · cases h
      exact ⟨now, job, rest, current, he, rfl⟩
    · cases h
  · cases h

lemma move_step {i : ℕ} {m : Move} (h : step E s (.move i m) = some t) :
    ∃ u p d, s.triggers[i]? = some u ∧ Jobs.move E i u s.committed m = some (p, d) ∧
      t = ⟨d, s.triggers.set i { u with phase := p }, s.evaluations⟩ := by
  simp only [step] at h
  split at h
  · next u hu =>
    obtain ⟨⟨p, d⟩, hm, rfl⟩ := Option.map_eq_some_iff.mp h
    exact ⟨u, p, d, hu, hm, rfl⟩
  · cases h

end JobSystem

/-! ## A trigger that is left alone does what the manager does -/

def Moves (E : Environment) (i : ℕ) (k : Uuid) (origin : Origin) :
    Phase × Database → Phase × Database → Prop :=
  Relation.ReflTransGen fun x y => ∃ m, move E i ⟨k, origin, x.1⟩ x.2 m = some y

def whole (E : Environment) (w : Outside) (origin : Origin) (k : Uuid) :
    Tx Database JobFailure JobExecution := do
  let job ← loadJob origin.known k
  checkOverlap job
  match w.session with
  | some err => throw err
  | none =>
    let d ← read
    let executionId ← ofExcept (runNotebook w.answers job d).2
    finish E origin w.env job executionId

def ended (d : Database) : Except JobFailure JobExecution × Session Database → Phase × Database
  | (.ok row, s) => (.returned row, s.view)
  | (.error err, _) => (.raised err, d)

lemma whole_request (E : Environment) (w : Outside) (k : Uuid) :
    whole E w .request k = triggerJobExecution w none k .manual := by
  have hf (job : Job) (executionId : String) :
      finish E .request w.env job executionId = recordExecution w.env job executionId .manual := by
    rw [finish, bind_pure]
    rfl
  simp only [whole, hf]
  rfl

lemma loadJob_known {k : Uuid} {j : Job} {s t : Session Database}
    (h : loadJob (some job) k s = (.ok j, t)) : j = job := by
  obtain ⟨row, u, -, hk⟩ := bind_ok_inv h
  dsimp only [Option.getD_some] at hk
  split at hk
  · cases hk
  · cases hk
    rfl

theorem fire_eq_whole (E : Environment) (now : Instant) (w : Outside) (job : Job)
    (s : Session Database) :
    fire E now w job s = (whole E w (.evaluation now job) job.id >>= fun _ => commit) s := by
  obtain ⟨r, t, hr⟩ : ∃ r t, loadJob (some job) job.id s = (r, t) := ⟨_, _, rfl⟩
  cases r with
  | error err => exact (bind_error (bind_error hr)).trans (bind_error (bind_error hr)).symm
  | ok j =>
    obtain rfl : j = job := loadJob_known hr
    have hl : loadJob (Origin.evaluation now j).known j.id s = (.ok j, t) := hr
    simp only [fire, triggerJobExecution, whole, bind_assoc]
    rw [bind_ok hr, bind_ok hl]
    cases hs : w.session with
    | some err => rfl
    | none =>
      simp only [finish, bind_assoc, pure_bind]
      rfl

lemma loadJob_session {known : Option Job} {k : Uuid} {s : Session Database} :
    (loadJob known k s).2 = s :=
  loadJob_keeps (fun t => t = s) known k s rfl

lemma checkOverlap_session {s : Session Database} : (checkOverlap job s).2 = s :=
  checkOverlap_keeps (fun t => t = s) job s rfl

variable {k : Uuid} {origin : Origin}

lemma submits (answers : Answers) (n : ℕ) (executionId : String) (rest : List NotebookCell) :
    Moves E i k origin (.submitNext job executionId rest, d)
      (.after (.recording job) (submitCells answers job n executionId rest).2, d) := by
  induction rest generalizing n executionId with
  | nil => exact .refl
  | cons cell rest ih =>
    cases hp : payload job cell with
    | error err =>
      simp only [Phase.submitNext, submitCells, hp]
      exact .refl
    | ok p =>
      simp only [Phase.submitNext, submitCells, hp, Phase.after]
      refine .head ⟨.answer (answers n), rfl⟩ ?_
      cases ha : answers n with
      | error err => exact .refl
      | ok x => exact ih (n + 1) x

lemma runs (answers : Answers) :
    Moves E i k origin (.start job d, d)
      (.after (.recording job) (runNotebook answers job d).2, d) := by
  cases hc : codeCells job.notebookId d with
  | nil =>
    simp only [Phase.start, runNotebook, hc]
    refine .head ⟨.answer (answers 0), rfl⟩ ?_
    cases answers 0 with
    | error err => exact .refl
    | ok x => exact .refl
  | cons cell rest =>
    simp only [Phase.start, runNotebook, hc]
    exact submits answers 0 "" (cell :: rest)

lemma finishes (now : Instant) (executionId : String) :
    Moves E i k origin (.recording job executionId, d)
      (ended d (finish E origin ⟨i, now⟩ job executionId (.open d))) := by
  refine .head ⟨.record now, rfl⟩ ?_
  obtain ⟨r, s, hr⟩ : ∃ r s,
      recordExecution ⟨i, now⟩ job executionId origin.triggerType (.open d) = (r, s) := ⟨_, _, rfl⟩
  cases r with
  | error err =>
    rw [hr, finish, bind_error hr]
    exact .refl
  | ok row =>
    rw [hr]
    refine .single ⟨.commit, ?_⟩
    obtain ⟨q, t, hq⟩ : ∃ q t, finish E origin ⟨i, now⟩ job executionId (.open d) = (q, t) := ⟨_, _, rfl⟩
    cases q with
    | error err => simp only [move, Phase.after, hq, ended]
    | ok row => simp only [move, Phase.after, hq, ended]

theorem alone (E : Environment) (w : Outside) (origin : Origin) (k : Uuid) (d : Database) :
    Moves E w.env.uuid k origin (.loading, d) (ended d (whole E w origin k (.open d))) := by
  refine .head ⟨.load, rfl⟩ ?_
  obtain ⟨r, s, hr⟩ : ∃ r s, loadJob origin.known k (.open d) = (r, s) := ⟨_, _, rfl⟩
  have hs : s = .open d := (congrArg Prod.snd hr).symm.trans loadJob_session
  subst hs
  cases r with
  | error err =>
    rw [whole, bind_error hr, hr]
    exact .refl
  | ok job =>
    rw [whole, bind_ok hr, hr]
    refine .head ⟨.check, rfl⟩ ?_
    obtain ⟨q, s, hq⟩ : ∃ q s, checkOverlap job (.open d) = (q, s) := ⟨_, _, rfl⟩
    have hs : s = .open d := (congrArg Prod.snd hq).symm.trans checkOverlap_session
    subst hs
    cases q with
    | error err =>
      rw [bind_error hq, hq]
      exact .refl
    | ok u =>
      rw [bind_ok hq, hq]
      refine .head ⟨.openSession w.session, rfl⟩ ?_
      cases w.session with
      | some err => exact .refl
      | none =>
        refine (runs w.answers).trans ?_
        change Moves _ _ _ _ _ (ended d ((ofExcept (runNotebook w.answers job d).2 >>= fun x =>
          finish E origin w.env job x) (.open d)))
        cases (runNotebook w.answers job d).2 with
        | error err => exact .refl
        | ok executionId => exact finishes w.env.now executionId

end NotebookExecution.Jobs
