import Mathlib.Data.String.Basic
import NotebookExecution.Jobs.Attempts
import NotebookExecution.Jobs.Occurrences
import NotebookExecution.Library.Service
import NotebookExecution.Library.Sorting
import NotebookExecution.Store.Routes

/-! The routes of jobs with what they answer: the errors that a route names have a status of their own,
and any other leaves the request to the handler of all exceptions. -/

namespace NotebookExecution.Jobs

open Library.Transaction Library.Table Library.Service Library.Sorting Store JobManager

inductive JobReply
  | job (statusCode : ℕ) (row : Job)
  | jobs (items : List Job) (total : ℕ)
  | execution (row : JobExecution)
  | executions (items : List JobExecution) (total : ℕ)
  | noContent
  | detail (statusCode : ℕ) (text : String)

def JobReply.statusCode : JobReply → ℕ
  | .job statusCode _ => statusCode
  | .jobs _ _ => 200
  | .execution _ => 200
  | .executions _ _ => 200
  | .noContent => 204
  | .detail statusCode _ => statusCode

def JobReply.success (r : JobReply) : Bool := decide (r.statusCode < 400)

def JobCreate.schemaOk (data : JobCreate) : Bool :=
  nameOk data.name && descriptionOk data.description && decide (data.scheduleType.length ≤ 50) &&
    data.cronExpression.all (fun c => decide (c.length ≤ 100)) && decide (data.timezone.length ≤ 100) &&
    decide (data.concurrencyPolicy.length ≤ 50) && decide (data.maxRetries ≤ 10) &&
    decide (data.retryDelaySeconds ≤ 3600)

def JobUpdate.schemaOk (data : JobUpdate) : Bool :=
  data.name.all nameOk && descriptionOk data.description &&
    data.scheduleType.all (fun t => decide (t.length ≤ 50)) &&
    data.cronExpression.all (fun c => decide (c.length ≤ 100)) &&
    data.timezone.all (fun z => decide (z.length ≤ 100)) &&
    data.concurrencyPolicy.all (fun p => decide (p.length ≤ 50)) &&
    data.maxRetries.all (fun n => decide (n ≤ 10)) && data.retryDelaySeconds.all fun n => decide (n ≤ 3600)

def JobRepository.listed (workspaceId projectId notebookId : Option Uuid) (job : Job) : Bool :=
  workspaceId.all (fun w => job.workspaceId = some w) && projectId.all (fun p => job.projectId = some p) &&
    notebookId.all fun n => job.notebookId = n

def JobRepository.listAll {ε : Type} (workspaceId projectId notebookId : Option Uuid) :
    Tx Database ε (List Job) := do
  let d ← read
  pure ((d.jobs.filter (listed workspaceId projectId notebookId)).insertionSort fun x y => x.name ≤ y.name)

def JobManager.listJobExecutions (k : Uuid) : Tx Database JobFailure (List JobExecution) := do
  let _ ← getJob k
  JobExecutionRepository.listByJobId k

namespace JobRoutes

def globalExceptionHandler : JobReply := .detail 500 "An internal server error occurred."

def refused (codes : JobFailure → Option ℕ) (err : JobFailure) : JobReply :=
  match codes err with
  | some statusCode => .detail statusCode err.text
  | none => globalExceptionHandler

def answered {α : Type} (reply : α → JobReply) (codes : JobFailure → Option ℕ)
    (o : Except JobFailure α × Database) : JobReply × Database :=
  (match o.1 with
    | .ok a => reply a
    | .error err => refused codes err, o.2)

/-- `None` is committed, and is no `JobResponse`. -/
def stored (statusCode : ℕ) (o : Option Job) : JobReply := o.elim globalExceptionHandler (.job statusCode)

def unknown : JobFailure → Option ℕ
  | .notFound _ => some 404
  | _ => none

def invalid : JobFailure → Option ℕ
  | .validation _ => some 400
  | .scheduleValidation _ => some 400
  | _ => none

def untriggered : JobFailure → Option ℕ
  | .notFound _ => some 404
  | .concurrency _ => some 409
  | .validation _ => some 400
  | _ => none

def uncancelled : JobFailure → Option ℕ
  | .notFound _ => some 400
  | .cancellation _ _ => some 400
  | _ => none

variable (E : Environment)

def createJob (e : Env) (data : JobCreate) (d : Database) : JobReply × Database :=
  if data.schemaOk then answered (.job 201) invalid (request d (JobManager.createJob E e data))
  else (.detail 422 "Request validation failed.", d)

def listJobs (workspaceId projectId notebookId : Option Uuid) (d : Database) : JobReply × Database :=
  answered (fun items => .jobs items items.length) (fun _ => none)
    (inSession d (JobRepository.listAll workspaceId projectId notebookId))

def getJob (k : Uuid) (d : Database) : JobReply × Database :=
  answered (.job 200) unknown (inSession d (JobManager.getJob k))

def updateJob (e : Env) (k : Uuid) (data : JobUpdate) (d : Database) : JobReply × Database :=
  if data.schemaOk then
    answered (stored 200) (fun err => (unknown err).or (invalid err)) (request d (JobManager.updateJob E e k data))
  else (.detail 422 "Request validation failed.", d)

def deleteJob (k : Uuid) (d : Database) : JobReply × Database :=
  answered (fun _ => .noContent) unknown (request d (JobManager.deleteJob k))

def triggerJob (w : Outside) (k : Uuid) (d : Database) : JobReply × Database :=
  answered .execution untriggered (request d (triggerJobExecution w none k .manual))

def pauseJob (e : Env) (k : Uuid) (d : Database) : JobReply × Database :=
  answered (stored 200) unknown (request d (JobManager.pauseJob e k))

def resumeJob (e : Env) (k : Uuid) (d : Database) : JobReply × Database :=
  answered (stored 200) unknown (request d (JobManager.resumeJob E e k))

def cancelJobExecution (e : Env) (k : Uuid) (executionId : String) (d : Database) : JobReply × Database :=
  answered .execution uncancelled (request d (JobManager.cancelJobExecution e newRegistry k executionId))

def listJobExecutions (k : Uuid) (d : Database) : JobReply × Database :=
  answered (fun items => .executions items items.length) unknown
    (inSession d (JobManager.listJobExecutions k))

end JobRoutes

inductive JobRequest
  | createJob (e : Env) (data : JobCreate)
  | listJobs (workspaceId projectId notebookId : Option Uuid)
  | getJob (k : Uuid)
  | updateJob (e : Env) (k : Uuid) (data : JobUpdate)
  | deleteJob (k : Uuid)
  | triggerJob (w : Outside) (k : Uuid)
  | pauseJob (e : Env) (k : Uuid)
  | resumeJob (e : Env) (k : Uuid)
  | cancelJobExecution (e : Env) (k : Uuid) (executionId : String)
  | listJobExecutions (k : Uuid)

def JobRequest.serve (E : Environment) : JobRequest → Database → JobReply × Database
  | .createJob e data => JobRoutes.createJob E e data
  | .listJobs workspaceId projectId notebookId => JobRoutes.listJobs workspaceId projectId notebookId
  | .getJob k => JobRoutes.getJob k
  | .updateJob e k data => JobRoutes.updateJob E e k data
  | .deleteJob k => JobRoutes.deleteJob k
  | .triggerJob w k => JobRoutes.triggerJob w k
  | .pauseJob e k => JobRoutes.pauseJob e k
  | .resumeJob e k => JobRoutes.resumeJob E e k
  | .cancelJobExecution e k executionId => JobRoutes.cancelJobExecution e k executionId
  | .listJobExecutions k => JobRoutes.listJobExecutions k

/-! ## What a request leaves -/

variable {α : Type} {E : Environment} {d : Database} {e : Env} {k : Uuid} {job : Job}

lemma request_outcome {p : Tx Database JobFailure α} (hp : Keeps (fun s => s.committed = d) p) :
    (∃ a s, p (.open d) = (.ok a, s) ∧ request d p = (.ok a, s.view)) ∨
      ∃ err, request d p = (.error err, d) := by
  have hc : (p (.open d)).2.committed = d := hp (.open d) rfl
  obtain ⟨r, s, hr⟩ : ∃ r s, p (.open d) = (r, s) := ⟨_, _, rfl⟩
  rw [hr] at hc
  cases r with
  | ok a => exact Or.inl ⟨a, s, hr, request_returns hr⟩
  | error err => exact Or.inr ⟨err, request_raises hr hc⟩

lemma answered_clean {p : Tx Database JobFailure α} {reply : α → JobReply} (codes : JobFailure → Option ℕ)
    (hp : Keeps (fun s => s.committed = d) p)
    (hr : ∀ a s, p (.open d) = (.ok a, s) → (reply a).success = true) :
    (JobRoutes.answered reply codes (request d p)).1.success = true ∨
      (JobRoutes.answered reply codes (request d p)).2 = d := by
  rcases request_outcome hp with ⟨a, s, hok, hq⟩ | ⟨err, hq⟩
  · rw [hq]
    exact Or.inl (hr a s hok)
  · rw [hq]
    exact Or.inr rfl

lemma stored_success {statusCode : ℕ} {c : JobChanges} {s t : Session Database} {o : Option Job}
    (hs : statusCode < 400) (hf : jobTable.find k s.view = some job)
    (h : JobRepository.update e k c s = (.ok o, t)) :
    (JobRoutes.stored statusCode o).success = true := by
  obtain ⟨rfl, -⟩ := jobTable.update_inv hf h
  exact decide_eq_true hs

lemma getJob_refused {s : Session Database} (h : jobTable.find k s.view = none) :
    JobManager.getJob k s = (.error (.notFound (toString k)), s) := by
  simp only [JobManager.getJob, JobRepository.getById, TableOf.getById_bind, h, throw_apply]

lemma getJob_served (h : jobTable.find k d = some job) : JobRoutes.getJob k d = (.job 200 job, d) := by
  have hr : inSession d (JobManager.getJob k) = (.ok job, d) := by
    rw [inSession, getJob_found h]
    rfl
  rw [JobRoutes.getJob, hr]
  rfl

lemma getJob_missing (h : jobTable.find k d = none) :
    JobRoutes.getJob k d = (.detail 404 (JobFailure.notFound (toString k)).text, d) := by
  have hr : inSession d (JobManager.getJob k) = (.error (.notFound (toString k)), d) := by
    rw [inSession, getJob_refused h]
    rfl
  rw [JobRoutes.getJob, hr]
  rfl

lemma getJob_unchanged (k : Uuid) (d : Database) : (JobRoutes.getJob k d).2 = d := by
  cases h : jobTable.find k d with
  | none => rw [getJob_missing h]
  | some job => rw [getJob_served h]

lemma listJobExecutions_unchanged (k : Uuid) (d : Database) : (JobRoutes.listJobExecutions k d).2 = d := by
  have hk : Keeps (fun s => s.committed = d) (JobManager.listJobExecutions k) :=
    .bind (getJob_keeps k) fun _ => .bind .read fun _ => .pure _
  exact (inSession_committed d _).trans (hk (.open d) rfl)

lemma serve_clean (E : Environment) :
    FailsClean JobReply.success (fun _ => True) fun (r : JobRequest) d => r.serve E d := by
  intro r d _
  cases r with
  | createJob e data =>
    change (JobRoutes.createJob E e data d).1.success = true ∨ (JobRoutes.createJob E e data d).2 = d
    rw [JobRoutes.createJob]
    split
    · exact answered_clean _ (createJob_keeps _ (committed_kept d) E e data) fun _ _ _ => rfl
    · exact Or.inr rfl
  | updateJob e k data =>
    change (JobRoutes.updateJob E e k data d).1.success = true ∨ (JobRoutes.updateJob E e k data d).2 = d
    rw [JobRoutes.updateJob]
    split
    · refine answered_clean _ (updateJob_keeps _ (committed_put d) E e k data) fun o s hr => ?_
      rw [JobManager.updateJob] at hr
      obtain ⟨job, u, hg, hr⟩ := bind_ok_inv hr
      obtain ⟨hf, rfl⟩ := getJob_inv hg
      obtain ⟨_, v, hv, hr⟩ := bind_ok_inv hr
      obtain ⟨-, rfl⟩ := requireTimezone_inv hv
      obtain ⟨nextRun, v, hn, hr⟩ := bind_ok_inv hr
      obtain ⟨-, rfl⟩ := scheduled_inv hn
      exact stored_success (by decide) hf hr
    · exact Or.inr rfl
  | deleteJob k =>
    refine answered_clean _ (.bind (getJob_keeps k) fun _ => ?_) fun _ _ _ => rfl
    exact jobTable.delete_keeps fun s job hs hf => hs
  | triggerJob w k =>
    exact answered_clean _ (trigger_keeps _ (committed_put d) (fun _ _ hs => hs) w none k .manual)
      fun _ _ _ => rfl
  | pauseJob e k =>
    refine answered_clean _ (.bind (getJob_keeps k) fun _ => update_keeps _ (committed_put d) e k _)
      fun o s hr => ?_
    obtain ⟨job, u, hg, hr⟩ := bind_ok_inv hr
    obtain ⟨hf, rfl⟩ := getJob_inv hg
    exact stored_success (by decide) hf hr
  | resumeJob e k =>
    refine answered_clean _ (.bind (getJob_keeps k) fun _ => .bind (.ofExcept _) fun _ =>
      update_keeps _ (committed_put d) e k _) fun o s hr => ?_
    obtain ⟨job, u, hg, hr⟩ := bind_ok_inv hr
    obtain ⟨hf, rfl⟩ := getJob_inv hg
    obtain ⟨nextRun, v, hx, hr⟩ := bind_ok_inv hr
    obtain ⟨-, rfl⟩ := ofExcept_inv hx
    exact stored_success (by decide) hf hr
  | cancelJobExecution e k executionId =>
    exact answered_clean _ (.bind (getJob_keeps k) fun _ => .throw _) fun _ _ _ => rfl
  | listJobs workspaceId projectId notebookId => exact Or.inr rfl
  | getJob k => exact Or.inr (getJob_unchanged k d)
  | listJobExecutions k => exact Or.inr (listJobExecutions_unchanged k d)

lemma serve_stable {P : Database → Prop} (h : Stable P)
    (record : ∀ {d r}, P d → P (jobExecutionTable.append r d)) (r : JobRequest) (hd : P d) :
    P (r.serve E d).2 := by
  cases r with
  | createJob e data =>
    change P (JobRoutes.createJob E e data d).2
    rw [JobRoutes.createJob]
    split
    · exact perform_stable h hd (.createJob e data)
    · exact hd
  | updateJob e k data =>
    change P (JobRoutes.updateJob E e k data d).2
    rw [JobRoutes.updateJob]
    split
    · exact perform_stable h hd (.updateJob e k data)
    · exact hd
  | deleteJob k => exact perform_stable (E := E) h hd (.deleteJob k)
  | triggerJob w k =>
    have put (s : Session Database) (job new : Job) (hs : s.committed = d ∧ P s.view)
        (hf : jobTable.find job.id s.view = some job) (hi : new.id = job.id)
        (hc : jobClash s.view new = false) :
        s.committed = d ∧ P (jobTable.put job.id new s.view) := ⟨hs.1, h.put hs.2 hf hi hc⟩
    exact request_keeps (trigger_keeps _ put (fun _ _ hs => ⟨hs.1, record hs.2⟩) w none k .manual) hd
  | pauseJob e k => exact perform_stable (E := E) h hd (.pauseJob e k)
  | resumeJob e k => exact perform_stable h hd (.resumeJob e k)
  | cancelJobExecution e k executionId =>
    exact perform_stable (E := E) h hd (.cancelJobExecution e k executionId)
  | listJobs workspaceId projectId notebookId => exact hd
  | getJob k =>
    change P (JobRoutes.getJob k d).2
    rw [getJob_unchanged]
    exact hd
  | listJobExecutions k =>
    change P (JobRoutes.listJobExecutions k d).2
    rw [listJobExecutions_unchanged]
    exact hd

lemma serve_keys (r : JobRequest) (hd : Keys d) : Keys (r.serve E d).2 :=
  serve_stable keys_stable (fun hd => ⟨hd.ids, hd.names⟩) r hd

lemma getJob_iff : (JobRoutes.getJob k d).1 = .job 200 job ↔ jobTable.find k d = some job := by
  cases hf : jobTable.find k d with
  | none =>
    rw [getJob_missing hf]
    constructor
    · intro h
      cases h
    · intro h
      cases h
  | some row =>
    rw [getJob_served hf]
    constructor
    · intro h
      cases h
      rfl
    · intro h
      cases h
      rfl

theorem job_listing_exact (E : Environment) (store : Database) (l : List JobRequest)
    (workspaceId projectId notebookId : Option Uuid) :
    ∃ rows, (JobRoutes.listJobs workspaceId projectId notebookId
          (run (JobRequest.serve E) l (withoutJobs store)).2).1 = .jobs rows rows.length ∧
      rows.Pairwise (fun x y => x.name < y.name) ∧
      ∀ k x, x ∈ rows ∧ x.id = k ↔
        (JobRoutes.getJob k (run (JobRequest.serve E) l (withoutJobs store)).2).1 = .job 200 x ∧
          JobRepository.listed workspaceId projectId notebookId x = true := by
  have hkeys : Keys (run (JobRequest.serve E) l (withoutJobs store)).2 :=
    run_keeps (fun r d hd => serve_keys r hd) ⟨.nil, .nil⟩
  generalize (run (JobRequest.serve E) l (withoutJobs store)).2 = d at hkeys
  obtain ⟨hperm, hle⟩ := answers_insertionSort Job.name
    (d.jobs.filter (JobRepository.listed workspaceId projectId notebookId))
  refine ⟨(d.jobs.filter (JobRepository.listed workspaceId projectId notebookId)).insertionSort
    fun x y => x.name ≤ y.name, rfl, ?_, fun k x => ?_⟩
  · have hne : (d.jobs.filter (JobRepository.listed workspaceId projectId notebookId)).Pairwise
        fun x y => x.name ≠ y.name := (List.pairwise_map.mp hkeys.names).filter _
    have hsorted := hperm.symm.pairwise hne fun h => h.symm
    exact (hle.and hsorted).imp fun h => lt_of_le_of_ne h.1 h.2
  · rw [hperm.mem_iff, List.mem_filter, getJob_iff]
    constructor
    · rintro ⟨⟨hx, hl⟩, rfl⟩
      exact ⟨lookup_of_mem hkeys.ids hx, hl⟩
    · rintro ⟨hf, hl⟩
      exact ⟨⟨lookup_mem hf, hl⟩, lookup_key hf⟩

def JobRequest.lists : JobRequest → Bool
  | .listJobs _ _ _ => true
  | _ => false

lemma refused_fails {codes : JobFailure → Option ℕ} (h : ∀ err, ∀ c ∈ codes err, 400 ≤ c) (err : JobFailure) :
    (JobRoutes.refused codes err).success = false := by
  rw [JobRoutes.refused]
  cases hc : codes err with
  | none => rfl
  | some c => exact decide_eq_false (not_lt.mpr (h err c hc))

lemma answered_fails {p : Tx Database JobFailure α} {reply : α → JobReply} {codes : JobFailure → Option ℕ}
    {err : JobFailure} (h : p (.open d) = (.error err, .open d)) (hc : ∀ err, ∀ c ∈ codes err, 400 ≤ c) :
    (JobRoutes.answered reply codes (request d p)).1.success = false := by
  rw [request_raises h rfl]
  exact refused_fails hc err

lemma unknown_fails (err : JobFailure) : ∀ c ∈ JobRoutes.unknown err, 400 ≤ c := by
  cases err <;> simp [JobRoutes.unknown]

lemma invalid_fails (err : JobFailure) : ∀ c ∈ JobRoutes.invalid err, 400 ≤ c := by
  cases err <;> simp [JobRoutes.invalid]

lemma serve_bare (hn : d.notebooks = []) (hj : d.jobs = []) (r : JobRequest) :
    (r.serve E d).1.success = r.lists := by
  have hmissing (k : Uuid) : jobTable.find k d = none := by
    change lookup Job.id k d.jobs = none
    rw [hj]
    rfl
  have hget (k : Uuid) : getJob k (.open d) = (.error (.notFound (toString k)), .open d) :=
    getJob_refused (hmissing k)
  cases r with
  | createJob e data =>
    have hunbooked : notebookTable.find data.notebookId d = none := by
      change lookup Notebook.id data.notebookId d.notebooks = none
      rw [hn]
      rfl
    have hc : JobManager.createJob E e data (.open d) = (.error (.validation ("Notebook '" ++
        toString data.notebookId ++ "' does not exist.")), .open d) := by
      rw [JobManager.createJob, TableOf.getById_bind]
      simp only [Session.open, hunbooked, throw_apply]
    change (JobRoutes.createJob E e data d).1.success = false
    rw [JobRoutes.createJob]
    split
    · exact answered_fails hc invalid_fails
    · rfl
  | updateJob e k data =>
    change (JobRoutes.updateJob E e k data d).1.success = false
    rw [JobRoutes.updateJob]
    split
    · refine answered_fails (bind_error (hget k)) fun err c hc => ?_
      cases hu : JobRoutes.unknown err with
      | none =>
        rw [hu] at hc
        exact invalid_fails err c hc
      | some u =>
        rw [hu] at hc
        cases hc
        exact unknown_fails err c hu
    · rfl
  | deleteJob k => exact answered_fails (bind_error (hget k)) unknown_fails
  | triggerJob w k =>
    refine answered_fails (bind_error (bind_error (hget k))) fun err => ?_
    cases err <;> simp [JobRoutes.untriggered]
  | pauseJob e k => exact answered_fails (bind_error (hget k)) unknown_fails
  | resumeJob e k => exact answered_fails (bind_error (hget k)) unknown_fails
  | cancelJobExecution e k executionId =>
    refine answered_fails (bind_error (hget k)) fun err => ?_
    cases err <;> simp [JobRoutes.uncancelled]
  | listJobs workspaceId projectId notebookId => rfl
  | getJob k =>
    change (JobRoutes.getJob k d).1.success = false
    rw [getJob_missing (hmissing k)]
    rfl
  | listJobExecutions k =>
    have hl : inSession d (JobManager.listJobExecutions k) = (.error (.notFound (toString k)), d) := by
      rw [inSession, JobManager.listJobExecutions, bind_error (hget k)]
      rfl
    change (JobRoutes.listJobExecutions k d).1.success = false
    rw [JobRoutes.listJobExecutions, hl]
    rfl

end NotebookExecution.Jobs
