import NotebookExecution.Jobs.Occurrences

/-! What a request on jobs does to the database: it adds or rewrites one row when its checks pass,
and leaves everything as it was when one of them fails. -/

namespace NotebookExecution.Jobs

open Library.Transaction Library.Table Library.Text Store JobManager

variable {E : Environment} {d t : Database} {e : Env} {job : Job} {k : Uuid} {now : Instant}
  {nb : Notebook} {workspaceId : Uuid} {tzName : String} {nextRun : Option Instant}

inductive Schedules (E : Environment) (now : Instant) (tzName : String) (other : Option Instant) :
    String → Option String → Option Instant → Prop
  | cron {c : String} {nextRun : Option Instant} (given : c ≠ "")
      (valid : validateCronExpression c = true)
      (next : instantOf (calculateNextRun E now (some c) tzName none) = .ok nextRun) :
      Schedules E now tzName other "CRON" (some c) nextRun
  | kept {scheduleType : String} {cron : Option String} (different : scheduleType ≠ "CRON") :
      Schedules E now tzName other scheduleType cron other

lemma requireTimezone_valid {s : Session Database} (h : validateTimezone E tzName = .ok true) :
    requireTimezone E tzName s = (.ok (), s) := by
  rw [requireTimezone, h]
  rfl

lemma requireTimezone_inv {s u : Session Database} (h : requireTimezone E tzName s = (.ok (), u)) :
    validateTimezone E tzName = .ok true ∧ u = s := by
  rw [requireTimezone] at h
  cases hv : validateTimezone E tzName with
  | error err =>
    rw [hv] at h
    cases h
  | ok valid =>
    rw [hv] at h
    cases valid with
    | false => cases h
    | true =>
      cases h
      exact ⟨rfl, rfl⟩

variable {scheduleType : String} {cron : Option String} {other : Option Instant}

lemma scheduled_schedules {s : Session Database}
    (h : Schedules E e.now tzName other scheduleType cron nextRun) :
    scheduled E e scheduleType cron tzName other s = (.ok nextRun, s) := by
  cases h with
  | cron given valid next =>
    simp only [scheduled, if_true, given, if_false, valid, Bool.not_true, Bool.false_eq_true, next]
    rfl
  | kept different =>
    rw [scheduled.eq_def, if_neg different]
    rfl

lemma scheduled_inv {s u : Session Database}
    (h : scheduled E e scheduleType cron tzName other s = (.ok nextRun, u)) :
    Schedules E e.now tzName other scheduleType cron nextRun ∧ u = s := by
  rw [scheduled.eq_def] at h
  by_cases hs : scheduleType = "CRON"
  · rw [if_pos hs] at h
    obtain rfl := hs
    cases cron with
    | none => cases h
    | some c =>
      dsimp only at h
      by_cases hc : c = ""
      · rw [if_pos hc] at h
        cases h
      · rw [if_neg hc] at h
        cases hv : validateCronExpression c with
        | false =>
          rw [hv] at h
          cases h
        | true =>
          rw [hv] at h
          cases hn : instantOf (calculateNextRun E e.now (some c) tzName none) with
          | error err =>
            rw [hn] at h
            cases h
          | ok next =>
            rw [hn] at h
            cases h
            exact ⟨.cron hc hv hn, rfl⟩
  · rw [if_neg hs] at h
    cases h
    exact ⟨.kept hs, rfl⟩

lemma instantOf_isSome {c : String} {base : Option BaseTime} (given : c ≠ "")
    (h : instantOf (calculateNextRun E now (some c) tzName base) = .ok nextRun) :
    nextRun.isSome = true := by
  cases hr : calculateNextRun E now (some c) tzName base with
  | error err =>
    rw [hr] at h
    cases h
  | ok o =>
    rw [hr] at h
    cases h
    obtain ⟨-, -, first, rfl, -⟩ := calculateNextRun_ok hr given
    rfl

lemma Schedules.next_isSome (h : Schedules E now tzName other "CRON" cron nextRun) :
    ∃ c, cron = some c ∧ validateCronExpression c = true ∧ nextRun.isSome = true := by
  generalize hs : "CRON" = scheduleType at h
  cases h with
  | cron given valid next => exact ⟨_, rfl, valid, instantOf_isSome given next⟩
  | kept different => exact absurd hs.symm different

lemma Schedules.next_kept (h : Schedules E now tzName other scheduleType cron nextRun)
    (hs : scheduleType ≠ "CRON") : nextRun = other := by
  cases h with
  | cron => exact absurd rfl hs
  | kept => rfl

structure Creates (E : Environment) (d : Database) (e : Env) (data : JobCreate) (nb : Notebook)
    (workspaceId : Uuid) (nextRun : Option Instant) : Prop where
  notebook : notebookTable.find data.notebookId d = some nb
  timezone : validateTimezone E data.timezone = .ok true
  schedule : Schedules E e.now data.timezone none data.scheduleType data.cronExpression nextRun
  name : ∀ x ∈ d.jobs, x.name ≠ data.name
  workspace : data.workspaceId = some workspaceId
  id : ∀ x ∈ d.jobs, x.id ≠ e.uuid

def newRow (e : Env) (data : JobCreate) (nb : Notebook) (workspaceId : Uuid)
    (nextRun : Option Instant) : Job where
  id := e.uuid
  name := data.name
  description := data.description
  workspaceId := some workspaceId
  projectId := some (data.projectId.getD nb.projectId)
  notebookId := data.notebookId
  status := .active
  scheduleType := upper data.scheduleType
  cronExpression := data.cronExpression
  timezone := data.timezone
  concurrencyPolicy := upper data.concurrencyPolicy
  maxRetries := data.maxRetries
  retryDelaySeconds := data.retryDelaySeconds
  parameters := data.parameters.getD "\x7b\x7d"
  nextRunAt := nextRun
  lastRunAt := none
  createdAt := e.now
  updatedAt := e.now

variable {data : JobCreate} {change : JobUpdate}

lemma getByName_none {s : Session Database} {name : String} :
    JobRepository.getByName (ε := JobFailure) name s = (.ok none, s) ↔ ∀ x ∈ s.view.jobs, x.name ≠ name := by
  have hg : JobRepository.getByName (ε := JobFailure) name s =
      (.ok (s.view.jobs.find? fun j => j.name = name), s) := rfl
  rw [hg]
  simp

lemma free_occupied (hi : ∀ x ∈ d.jobs, x.id ≠ job.id) (hn : ∀ x ∈ d.jobs, x.name ≠ job.name) :
    jobTable.occupied jobClash job d = false := by
  have hl : jobTable.find job.id d = none := lookup_none.mpr hi
  have hc : jobClash d job = false := by
    simp only [jobClash, List.any_eq_false, decide_eq_true_eq, not_and]
    intro x hx _
    exact hn x hx
  simp only [TableOf.occupied, hc, Bool.or_false, Option.isSome_eq_false_iff, Option.isNone_iff_eq_none]
  exact hl

lemma occupied_free (h : jobTable.occupied jobClash job d = false) : ∀ x ∈ d.jobs, x.id ≠ job.id := by
  obtain ⟨hl, -⟩ := Bool.or_eq_false_iff.mp h
  exact lookup_none.mp (Option.isNone_iff_eq_none.mp (Option.isSome_eq_false_iff.mp hl))

lemma createJob_creates (h : Creates E d e data nb workspaceId nextRun) :
    createJob E e data (.open d) =
      (.ok (newRow e data nb workspaceId nextRun),
        ⟨d, jobTable.append (newRow e data nb workspaceId nextRun) d⟩) := by
  have ho : jobTable.occupied jobClash (newRow e data nb workspaceId nextRun) d = false :=
    free_occupied h.id h.name
  rw [createJob, TableOf.getById_bind]
  simp only [Session.open, h.notebook]
  rw [bind_ok (requireTimezone_valid h.timezone), bind_ok (scheduled_schedules h.schedule),
    bind_ok (getByName_none.mpr h.name)]
  simp only [h.workspace, workspaceOf]
  exact jobTable.insert_accepted ho

lemma createJob_inv {s : Session Database} {row : Job}
    (h : createJob E e data (.open d) = (.ok row, s)) :
    ∃ nb workspaceId nextRun, Creates E d e data nb workspaceId nextRun ∧
      s = ⟨d, jobTable.append (newRow e data nb workspaceId nextRun) d⟩ := by
  rw [createJob, TableOf.getById_bind] at h
  simp only [Session.open] at h
  cases hn : notebookTable.find data.notebookId d with
  | none =>
    rw [hn] at h
    cases h
  | some nb =>
    rw [hn] at h
    obtain ⟨_, u, hr, h⟩ := bind_ok_inv h
    obtain ⟨hz, rfl⟩ := requireTimezone_inv hr
    obtain ⟨nextRun, v, hr, h⟩ := bind_ok_inv h
    obtain ⟨hs, rfl⟩ := scheduled_inv hr
    obtain ⟨o, v, hg, h⟩ := bind_ok_inv h
    cases o with
    | some x => cases h
    | none =>
      obtain rfl : (⟨d, d⟩ : Session Database) = v := congrArg Prod.snd hg
      have hfree := getByName_none.mp hg
      obtain ⟨workspaceId, v, hw, h⟩ := bind_ok_inv h
      cases hwd : data.workspaceId with
      | none =>
        rw [hwd] at hw
        cases hw
      | some given =>
        rw [hwd] at hw
        cases hw
        cases ho : jobTable.occupied jobClash (newRow e data nb workspaceId nextRun) d with
        | true =>
          have hr : JobRepository.create (newRow e data nb workspaceId nextRun) ⟨d, d⟩ =
            (.error .integrityError, ⟨d, d⟩) := jobTable.insert_refused ho
          cases hr.symm.trans h
        | false =>
          have hr : JobRepository.create (newRow e data nb workspaceId nextRun) ⟨d, d⟩ =
            (.ok (newRow e data nb workspaceId nextRun),
              ⟨d, jobTable.append (newRow e data nb workspaceId nextRun) d⟩) := jobTable.insert_accepted ho
          cases hr.symm.trans h
          exact ⟨nb, workspaceId, nextRun, ⟨hn, hz, hs, hfree, hwd, occupied_free ho⟩, rfl⟩

lemma committed_kept (d : Database) (s : Session Database) (job : Job) (hs : s.committed = d)
    (_ : jobTable.occupied jobClash job s.view = false) :
    { s with view := jobTable.append job s.view : Session Database }.committed = d := hs

lemma committed_put (d : Database) (s : Session Database) (job new : Job) (hs : s.committed = d)
    (_ : jobTable.find job.id s.view = some job) (_ : new.id = job.id) (_ : jobClash s.view new = false) :
    { s with view := jobTable.put job.id new s.view : Session Database }.committed = d := hs

theorem perform_createJob (h : Creates E d e data nb workspaceId nextRun) :
    perform E d (.createJob e data) = jobTable.append (newRow e data nb workspaceId nextRun) d :=
  request_ok (createJob_creates h)

theorem perform_createJob_cases (E : Environment) (d : Database) (e : Env) (data : JobCreate) :
    (∃ nb workspaceId nextRun, Creates E d e data nb workspaceId nextRun) ∨
      perform E d (.createJob e data) = d := by
  cases request_cases (createJob_keeps _ (committed_kept d) E e data) with
  | inl h =>
    obtain ⟨row, s, hr, -⟩ := h
    obtain ⟨nb, workspaceId, nextRun, hc, -⟩ := createJob_inv hr
    exact Or.inl ⟨nb, workspaceId, nextRun, hc⟩
  | inr h => exact Or.inr h

structure Updates (E : Environment) (d : Database) (e : Env) (k : Uuid) (data : JobUpdate) (job : Job)
    (nextRun : Option Instant) : Prop where
  found : jobTable.find k d = some job
  timezone : validateTimezone E (orText data.timezone job.timezone) = .ok true
  schedule : Schedules E e.now (orText data.timezone job.timezone) job.nextRunAt
    (orText data.scheduleType job.scheduleType) (data.cronExpression.or job.cronExpression) nextRun
  name : ∀ x ∈ d.jobs, x.id ≠ k → x.name ≠ data.name.getD job.name

def changesOf (data : JobUpdate) (job : Job) (nextRun : Option Instant) : JobChanges where
  name := data.name
  description := data.description
  scheduleType := some (orText data.scheduleType job.scheduleType)
  cronExpression := data.cronExpression.or job.cronExpression
  timezone := some (orText data.timezone job.timezone)
  concurrencyPolicy := data.concurrencyPolicy
  maxRetries := data.maxRetries
  retryDelaySeconds := data.retryDelaySeconds
  parameters := data.parameters
  nextRunAt := nextRun

def changed (e : Env) (data : JobUpdate) (job : Job) (nextRun : Option Instant) : Job :=
  updated e (changesOf data job nextRun) job

lemma changed_id (h : jobTable.find k d = some job) : (changed e change job nextRun).id = k :=
  (updated_id _ _).trans (lookup_key h)

lemma changed_scheduleType : (changed e change job nextRun).scheduleType =
    orText change.scheduleType job.scheduleType := by
  rw [changed, updated_scheduleType]
  rfl

lemma changed_status : (changed e change job nextRun).status = job.status := by
  rw [changed, updated_status]
  rfl

lemma changed_nextRunAt : (changed e change job nextRun).nextRunAt = nextRun.or job.nextRunAt := by
  rw [changed, updated_nextRunAt]
  rfl

lemma changed_concurrencyPolicy : (changed e change job nextRun).concurrencyPolicy =
    change.concurrencyPolicy.getD job.concurrencyPolicy := by
  rw [changed, updated_concurrencyPolicy]
  rfl

lemma changed_cronExpression : (changed e change job nextRun).cronExpression =
    (change.cronExpression.or job.cronExpression).or job.cronExpression := by
  rw [changed, updated_cronExpression]
  rfl

lemma changed_timezone : (changed e change job nextRun).timezone =
    orText change.timezone job.timezone := by
  rw [changed, updated_timezone]
  rfl

lemma getJob_found {s : Session Database} (h : jobTable.find k s.view = some job) :
    getJob k s = (.ok job, s) := by
  simp only [getJob, JobRepository.getById, TableOf.getById_bind, h, pure_apply]

lemma getJob_inv {s u : Session Database} (h : getJob k s = (.ok job, u)) :
    jobTable.find k s.view = some job ∧ u = s := by
  simp only [getJob, JobRepository.getById, TableOf.getById_bind] at h
  cases hf : jobTable.find k s.view with
  | none =>
    rw [hf] at h
    cases h
  | some row =>
    rw [hf] at h
    cases h
    exact ⟨rfl, rfl⟩

lemma update_inv {c : JobChanges} {s u : Session Database} {o : Option Job}
    (hf : jobTable.find k s.view = some job) (h : JobRepository.update e k c s = (.ok o, u)) :
    u = s ∨ (∀ x ∈ s.view.jobs, x.id ≠ k → x.name ≠ c.name.getD job.name) ∧
      u = { s with view := jobTable.put k (updated e c job) s.view } := by
  obtain rfl : job.id = k := lookup_key hf
  by_cases ha : JobRepository.assign c job = job
  · have hr : JobRepository.update e job.id c s = (.ok (some job), s) := jobTable.update_idle hf ha
    cases hr.symm.trans h
    exact Or.inl rfl
  · cases hc : jobClash s.view (JobRepository.stamp e (JobRepository.assign c job)) with
    | true =>
      have hr : JobRepository.update e job.id c s = (.error .integrityError, s) :=
        jobTable.update_refused hf ha hc
      cases hr.symm.trans h
    | false =>
      have hn : ∀ x ∈ s.view.jobs, x.id ≠ job.id → x.name ≠ c.name.getD job.name := by
        intro x hx hi hname
        apply List.any_eq_false.mp hc x hx
        exact decide_eq_true ⟨hi, hname⟩
      cases (update_found rfl hf hn).symm.trans h
      exact Or.inr ⟨hn, rfl⟩

lemma updateJob_updates (h : Updates E d e k change job nextRun) :
    updateJob E e k change (.open d) =
      (.ok (some (changed e change job nextRun)),
        ⟨d, jobTable.put k (changed e change job nextRun) d⟩) := by
  have hg : getJob k (.open d) = (.ok job, .open d) := getJob_found h.found
  rw [updateJob, bind_ok hg, bind_ok (requireTimezone_valid h.timezone),
    bind_ok (scheduled_schedules h.schedule)]
  exact update_found (c := changesOf change job nextRun) (lookup_key h.found) h.found h.name

theorem perform_updateJob (h : Updates E d e k change job nextRun) :
    perform E d (.updateJob e k change) = jobTable.put k (changed e change job nextRun) d :=
  request_ok (updateJob_updates h)

theorem perform_updateJob_cases (E : Environment) (d : Database) (e : Env) (k : Uuid)
    (change : JobUpdate) :
    (∃ job nextRun, Updates E d e k change job nextRun) ∨ perform E d (.updateJob e k change) = d := by
  cases request_cases (updateJob_keeps _ (committed_put d) E e k change) with
  | inr h => exact Or.inr h
  | inl h =>
    obtain ⟨o, s, hr, hp⟩ := h
    rw [updateJob] at hr
    obtain ⟨job, u, hg, hr⟩ := bind_ok_inv hr
    obtain ⟨hf, rfl⟩ := getJob_inv hg
    obtain ⟨_, v, hv, hr⟩ := bind_ok_inv hr
    obtain ⟨hz, rfl⟩ := requireTimezone_inv hv
    obtain ⟨nextRun, v, hn, hr⟩ := bind_ok_inv hr
    obtain ⟨hs, rfl⟩ := scheduled_inv hn
    cases update_inv hf hr with
    | inl hi =>
      apply Or.inr
      rw [perform, hp, hi]
      rfl
    | inr hu => exact Or.inl ⟨job, nextRun, ⟨hf, hz, hs, hu.1⟩⟩

def paused (e : Env) (job : Job) : Job := updated e { status := some .paused, clearNextRun := true } job

def resumed (e : Env) (job : Job) (nextRun : Option Instant) : Job :=
  updated e { status := some .active, nextRunAt := nextRun } job

lemma paused_id (h : jobTable.find k d = some job) : (paused e job).id = k :=
  (updated_id _ _).trans (lookup_key h)

lemma resumed_id (h : jobTable.find k d = some job) : (resumed e job nextRun).id = k :=
  (updated_id _ _).trans (lookup_key h)

theorem perform_pauseJob_cases (E : Environment) (d : Database) (e : Env) (k : Uuid) :
    (∃ job, jobTable.find k d = some job ∧
        perform E d (.pauseJob e k) = jobTable.put k (paused e job) d) ∨
      perform E d (.pauseJob e k) = d := by
  have hk : Keeps (fun s => s.committed = d) (pauseJob e k) :=
    .bind (getJob_keeps k) fun _ => update_keeps _ (committed_put d) e k _
  cases request_cases hk with
  | inr h => exact Or.inr h
  | inl h =>
    obtain ⟨o, s, hr, hp⟩ := h
    rw [pauseJob] at hr
    obtain ⟨job, u, hg, hr⟩ := bind_ok_inv hr
    obtain ⟨hf, rfl⟩ := getJob_inv hg
    obtain ⟨-, rfl⟩ := jobTable.update_inv hf hr
    refine Or.inl ⟨job, hf, ?_⟩
    rw [perform, hp]
    rfl

theorem perform_resumeJob_cases (E : Environment) (d : Database) (e : Env) (k : Uuid) :
    (∃ job nextRun, jobTable.find k d = some job ∧ nextRunOf E e.now job none = .ok nextRun ∧
        perform E d (.resumeJob e k) = jobTable.put k (resumed e job nextRun) d) ∨
      perform E d (.resumeJob e k) = d := by
  have hk : Keeps (fun s => s.committed = d) (resumeJob E e k) :=
    .bind (getJob_keeps k) fun _ => .bind (.ofExcept _) fun _ => update_keeps _ (committed_put d) e k _
  cases request_cases hk with
  | inr h => exact Or.inr h
  | inl h =>
    obtain ⟨o, s, hr, hp⟩ := h
    rw [resumeJob] at hr
    obtain ⟨job, u, hg, hr⟩ := bind_ok_inv hr
    obtain ⟨hf, rfl⟩ := getJob_inv hg
    obtain ⟨nextRun, v, hx, hr⟩ := bind_ok_inv hr
    obtain ⟨hn, rfl⟩ := ofExcept_inv hx
    obtain ⟨-, rfl⟩ := jobTable.update_inv hf hr
    refine Or.inl ⟨job, nextRun, hf, hn, ?_⟩
    rw [perform, hp]
    rfl

theorem perform_deleteJob_cases (E : Environment) (d : Database) (k : Uuid) :
    perform E d (.deleteJob k) = jobTable.drop k d ∨ perform E d (.deleteJob k) = d := by
  have hk : Keeps (fun s => s.committed = d) (deleteJob k) := by
    refine .bind (getJob_keeps k) fun _ => ?_
    exact jobTable.delete_keeps fun s job hs hf => hs
  cases request_cases hk with
  | inr h => exact Or.inr h
  | inl h =>
    obtain ⟨o, s, hr, hp⟩ := h
    rw [deleteJob] at hr
    obtain ⟨job, u, hg, hr⟩ := bind_ok_inv hr
    obtain ⟨hf, rfl⟩ := getJob_inv hg
    have hd : JobRepository.delete k (.open d) = (.ok true, ⟨d, jobTable.drop k d⟩) :=
      jobTable.delete_found (ε := JobFailure) hf
    cases hd.symm.trans hr
    exact Or.inl hp

theorem perform_cancelJobExecution (E : Environment) (d : Database) (e : Env) (k : Uuid)
    (executionId : String) : perform E d (.cancelJobExecution e k executionId) = d := by
  have hk : Keeps (fun s => s.committed = d ∧ s.view = d)
      (cancelJobExecution e newRegistry k executionId) :=
    .bind (getJob_keeps k) fun _ => .throw _
  exact request_keeps (I := fun t => t = d) hk rfl

inductive Performed (E : Environment) (d : Database) : JobCall → Database → Prop
  | idle (c : JobCall) : Performed E d c d
  | created {e : Env} {data : JobCreate} {nb : Notebook} {workspaceId : Uuid} {nextRun : Option Instant}
      (h : Creates E d e data nb workspaceId nextRun) :
      Performed E d (.createJob e data) (jobTable.append (newRow e data nb workspaceId nextRun) d)
  | changed {e : Env} {k : Uuid} {change : JobUpdate} {job : Job} {nextRun : Option Instant}
      (h : Updates E d e k change job nextRun) :
      Performed E d (.updateJob e k change) (jobTable.put k (changed e change job nextRun) d)
  | deleted (k : Uuid) : Performed E d (.deleteJob k) (jobTable.drop k d)
  | paused {e : Env} {k : Uuid} {job : Job} (found : jobTable.find k d = some job) :
      Performed E d (.pauseJob e k) (jobTable.put k (paused e job) d)
  | resumed {e : Env} {k : Uuid} {job : Job} {nextRun : Option Instant} (found : jobTable.find k d = some job)
      (next : nextRunOf E e.now job none = .ok nextRun) :
      Performed E d (.resumeJob e k) (jobTable.put k (resumed e job nextRun) d)

theorem performed (E : Environment) (d : Database) (c : JobCall) : Performed E d c (perform E d c) := by
  cases c with
  | createJob e data =>
    obtain ⟨nb, workspaceId, nextRun, hc⟩ | hs := perform_createJob_cases E d e data
    · exact perform_createJob hc ▸ .created hc
    · exact hs.symm ▸ .idle _
  | updateJob e k change =>
    obtain ⟨job, nextRun, hu⟩ | hs := perform_updateJob_cases E d e k change
    · exact perform_updateJob hu ▸ .changed hu
    · exact hs.symm ▸ .idle _
  | deleteJob k =>
    obtain hd | hs := perform_deleteJob_cases E d k
    · exact hd ▸ .deleted k
    · exact hs.symm ▸ .idle _
  | pauseJob e k =>
    obtain ⟨job, hf, hp⟩ | hs := perform_pauseJob_cases E d e k
    · exact hp ▸ .paused hf
    · exact hs.symm ▸ .idle _
  | resumeJob e k =>
    obtain ⟨job, nextRun, hf, hn, hp⟩ | hs := perform_resumeJob_cases E d e k
    · exact hp ▸ .resumed hf hn
    · exact hs.symm ▸ .idle _
  | cancelJobExecution e k executionId =>
    rw [perform_cancelJobExecution]
    exact .idle _

end NotebookExecution.Jobs
