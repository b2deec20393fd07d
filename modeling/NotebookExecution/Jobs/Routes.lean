import NotebookExecution.Jobs.Manager

/-! The routes of jobs that answer in one go, each with a session and a manager of its own. They
commit what the manager returns, and roll back or close without commit when it raises. -/

namespace NotebookExecution.Jobs

open Library.Transaction Library.Table Store JobManager

variable {E : Environment} {d : Database} {job new : Job} {k : Uuid} {P : Database → Prop}

inductive JobCall
  | createJob (e : Env) (data : JobCreate)
  | updateJob (e : Env) (jobId : Uuid) (data : JobUpdate)
  | deleteJob (jobId : Uuid)
  | pauseJob (e : Env) (jobId : Uuid)
  | resumeJob (e : Env) (jobId : Uuid)
  | cancelJobExecution (e : Env) (jobId : Uuid) (executionId : String)

/-- A request is served by a job manager made for it. -/
def perform (E : Environment) (d : Database) : JobCall → Database
  | .createJob e data => (request d (createJob E e data)).2
  | .updateJob e k data => (request d (updateJob E e k data)).2
  | .deleteJob k => (request d (deleteJob k)).2
  | .pauseJob e k => (request d (pauseJob e k)).2
  | .resumeJob e k => (request d (resumeJob E e k)).2
  | .cancelJobExecution e k executionId =>
    (request d (cancelJobExecution e newRegistry k executionId)).2

def withoutJobs (d : Database) : Database := { d with jobs := [], jobExecutions := [] }

structure Stable (P : Database → Prop) : Prop where
  append : ∀ {d job}, P d → jobTable.occupied jobClash job d = false → P (jobTable.append job d)
  put : ∀ {d job new}, P d → jobTable.find job.id d = some job → new.id = job.id →
    jobClash d new = false → P (jobTable.put job.id new d)
  drop : ∀ {d k}, P d → P (jobTable.drop k d)

variable {I : Session Database → Prop}

lemma getJob_keeps (k : Uuid) : Keeps I (getJob k) := by
  refine .bind (jobTable.getById_keeps k) fun o => ?_
  cases o with
  | none => exact .throw _
  | some job => exact .pure job

lemma requireTimezone_keeps (E : Environment) (tzName : String) : Keeps I (requireTimezone E tzName) :=
  .bind (.ofExcept _) fun _ => .ite (.throw _) (.pure _)

lemma scheduled_keeps (E : Environment) (e : Env) (scheduleType : String) (cron : Option String)
    (tzName : String) (other : Option Instant) :
    Keeps I (scheduled E e scheduleType cron tzName other) := by
  refine .ite ?_ (.pure _)
  cases cron with
  | none => exact .throw _
  | some c => exact .ite (.throw _) (.ite (.throw _) (.ofExcept _))

section

variable (I : Session Database → Prop)
  (append : ∀ s job, I s → jobTable.occupied jobClash job s.view = false →
    I { s with view := jobTable.append job s.view })
  (put : ∀ s job new, I s → jobTable.find job.id s.view = some job → new.id = job.id →
    jobClash s.view new = false → I { s with view := jobTable.put job.id new s.view })

include put in
lemma update_keeps (e : Env) (k : Uuid) (c : JobChanges) : Keeps I (JobRepository.update e k c) := by
  refine jobTable.update_keeps fun s job hs hf hc => ?_
  obtain rfl : job.id = k := lookup_key hf
  exact put s job _ hs hf rfl hc

include append in
lemma createJob_keeps (E : Environment) (e : Env) (data : JobCreate) : Keeps I (createJob E e data) := by
  refine .bind (notebookTable.getById_keeps _) fun o => ?_
  cases o with
  | none => exact .throw _
  | some nb =>
    refine .bind (requireTimezone_keeps E _) fun _ => .bind (scheduled_keeps E e _ _ _ _) fun _ => ?_
    refine .bind (.bind .read fun _ => .pure _) fun existing => ?_
    cases existing with
    | some job => exact .throw _
    | none => exact .bind (.ofExcept _) fun _ => jobTable.insert_keeps fun s hs ho => append s _ hs ho

include put in
lemma updateJob_keeps (E : Environment) (e : Env) (k : Uuid) (data : JobUpdate) :
    Keeps I (updateJob E e k data) :=
  .bind (getJob_keeps k) fun _ => .bind (requireTimezone_keeps E _) fun _ =>
    .bind (scheduled_keeps E e _ _ _ _) fun _ => update_keeps I put e k _

lemma loadJob_keeps (known : Option Job) (k : Uuid) : Keeps I (loadJob known k) :=
  .bind (getJob_keeps k) fun _ => .ite (.throw _) (.pure _)

lemma checkOverlap_keeps (job : Job) : Keeps I (checkOverlap job) :=
  .ite (.bind (.bind .read fun _ => .pure _) fun _ => .ite (.throw _) (.pure _)) (.pure _)

include put in
lemma recordExecution_keeps
    (record : ∀ s r, I s → I { s with view := jobExecutionTable.append r s.view }) (e : Env)
    (job : Job) (executionId : String) (triggerType : TriggerType) :
    Keeps I (recordExecution e job executionId triggerType) :=
  .bind (jobExecutionTable.insert_keeps fun s hs _ => record s _ hs) fun _ =>
    .bind (update_keeps I put e _ _) fun _ => .pure _

include put in
lemma trigger_keeps
    (record : ∀ s r, I s → I { s with view := jobExecutionTable.append r s.view }) (w : Outside)
    (known : Option Job) (k : Uuid) (triggerType : TriggerType) :
    Keeps I (triggerJobExecution w known k triggerType) := by
  refine .bind (loadJob_keeps I known k) fun job => .bind (checkOverlap_keeps I job) fun _ => ?_
  cases hs : w.session with
  | some err => exact .throw err
  | none =>
    exact .bind .read fun d => .bind (.ofExcept _) fun executionId =>
      recordExecution_keeps I put record w.env job executionId triggerType

end

theorem perform_stable (h : Stable P) (hd : P d) (c : JobCall) : P (perform E d c) := by
  have append (s : Session Database) (job : Job) (hs : s.committed = d ∧ P s.view)
      (ho : jobTable.occupied jobClash job s.view = false) :
      s.committed = d ∧ P (jobTable.append job s.view) := ⟨hs.1, h.append hs.2 ho⟩
  have put (s : Session Database) (job new : Job) (hs : s.committed = d ∧ P s.view)
      (hf : jobTable.find job.id s.view = some job) (hi : new.id = job.id)
      (hc : jobClash s.view new = false) :
      s.committed = d ∧ P (jobTable.put job.id new s.view) := ⟨hs.1, h.put hs.2 hf hi hc⟩
  cases c with
  | createJob e data => exact request_keeps (createJob_keeps _ append E e data) hd
  | updateJob e k data => exact request_keeps (updateJob_keeps _ put E e k data) hd
  | deleteJob k =>
    refine request_keeps (.bind (getJob_keeps k) fun _ => ?_) hd
    exact jobTable.delete_keeps fun s job hs hf => ⟨hs.1, h.drop hs.2⟩
  | pauseJob e k =>
    exact request_keeps (.bind (getJob_keeps k) fun _ => update_keeps _ put e k _) hd
  | resumeJob e k =>
    refine request_keeps (.bind (getJob_keeps k) fun _ => .bind (.ofExcept _) fun _ => ?_) hd
    exact update_keeps _ put e k _
  | cancelJobExecution e k executionId =>
    exact request_keeps (.bind (getJob_keeps k) fun _ => .throw _) hd

end NotebookExecution.Jobs
