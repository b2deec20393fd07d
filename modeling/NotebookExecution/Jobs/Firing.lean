import NotebookExecution.Jobs.Scheduler

/-! What triggering a job and firing a due one do to the database. -/

namespace NotebookExecution.Jobs

open Library.Transaction Library.Table Library.Calendar Store JobManager JobScheduler

variable {E : Environment} {now : Instant} {w : Outside} {known : Option Job}
  {triggerType : TriggerType} {job row : Job} {d : Database}

structure Ready (d : Database) (job : Job) : Prop where
  found : jobTable.find job.id d = some job
  paused : job.status ≠ .paused
  disabled : job.status ≠ .disabled
  named : ∀ x ∈ d.jobs, x.id ≠ job.id → x.name ≠ job.name

def updated (e : Env) (c : JobChanges) (job : Job) : Job :=
  TableOf.settled (JobRepository.assign c) (JobRepository.stamp e) job

lemma updated_field {β : Type} (e : Env) (c : JobChanges) (f : Job → β)
    (hf : ∀ x t, f { x with updatedAt := t } = f x) (job : Job) :
    f (updated e c job) = f (JobRepository.assign c job) :=
  TableOf.settled_field f (fun x => hf x e.now) job

@[simp] lemma updated_id (e : Env) (c : JobChanges) : (updated e c job).id = job.id :=
  updated_field e c Job.id (fun _ _ => rfl) job

@[simp] lemma updated_notebookId (e : Env) (c : JobChanges) :
    (updated e c job).notebookId = job.notebookId :=
  updated_field e c Job.notebookId (fun _ _ => rfl) job

@[simp] lemma updated_nextRunAt (e : Env) (c : JobChanges) :
    (updated e c job).nextRunAt = if c.clearNextRun then none else c.nextRunAt.or job.nextRunAt :=
  updated_field e c Job.nextRunAt (fun _ _ => rfl) job

@[simp] lemma updated_lastRunAt (e : Env) (c : JobChanges) :
    (updated e c job).lastRunAt = c.lastRunAt.or job.lastRunAt :=
  updated_field e c Job.lastRunAt (fun _ _ => rfl) job

@[simp] lemma updated_scheduleType (e : Env) (c : JobChanges) :
    (updated e c job).scheduleType = c.scheduleType.getD job.scheduleType :=
  updated_field e c Job.scheduleType (fun _ _ => rfl) job

@[simp] lemma updated_cronExpression (e : Env) (c : JobChanges) :
    (updated e c job).cronExpression = c.cronExpression.or job.cronExpression :=
  updated_field e c Job.cronExpression (fun _ _ => rfl) job

@[simp] lemma updated_timezone (e : Env) (c : JobChanges) :
    (updated e c job).timezone = c.timezone.getD job.timezone :=
  updated_field e c Job.timezone (fun _ _ => rfl) job

@[simp] lemma updated_status (e : Env) (c : JobChanges) :
    (updated e c job).status = c.status.getD job.status :=
  updated_field e c Job.status (fun _ _ => rfl) job

@[simp] lemma updated_concurrencyPolicy (e : Env) (c : JobChanges) :
    (updated e c job).concurrencyPolicy = c.concurrencyPolicy.getD job.concurrencyPolicy :=
  updated_field e c Job.concurrencyPolicy (fun _ _ => rfl) job

@[simp] lemma updated_name (e : Env) (c : JobChanges) :
    (updated e c job).name = c.name.getD job.name :=
  updated_field e c Job.name (fun _ _ => rfl) job

lemma update_found {e : Env} {c : JobChanges} {s : Session Database} {k : Uuid} (hk : job.id = k)
    (hf : jobTable.find k s.view = some job)
    (hn : ∀ x ∈ s.view.jobs, x.id ≠ k → x.name ≠ c.name.getD job.name) :
    JobRepository.update e k c s =
      (.ok (some (updated e c job)), { s with view := jobTable.put k (updated e c job) s.view }) := by
  apply TableOf.update_settled _ hf
  have hname : (JobRepository.stamp e (JobRepository.assign c job)).name = c.name.getD job.name := rfl
  have hid : (JobRepository.stamp e (JobRepository.assign c job)).id = k := hk
  simp only [jobClash, hname, hid, List.any_eq_false, decide_eq_true_eq, not_and]
  exact hn

lemma named_apart {k : Uuid} (hn : (d.jobs.map Job.name).Nodup) (hf : jobTable.find k d = some job) :
    ∀ x ∈ d.jobs, x.id ≠ k → x.name ≠ job.name := by
  intro x hx hk he
  have hxj : x = job := List.inj_on_of_nodup_map hn hx (lookup_mem hf) he
  exact hk (hxj ▸ lookup_key hf)

def refusal (w : Outside) (job : Job) (d : Database) : Option JobFailure :=
  if preventsOverlap job ∧ (JobExecutionRepository.historyOf job.id d).any isOpen then
    some (.concurrency (toString job.id))
  else
    match w.session with
    | some err => some err
    | none =>
      match (runNotebook w.answers job d).2 with
      | .error err => some err
      | .ok _ =>
        if d.jobExecutions.any fun h => h.id = w.env.uuid then some .integrityError else none

def historyRow (w : Outside) (triggerType : TriggerType) (job : Job) (d : Database) : JobExecution :=
  JobExecutionRepository.row w.env job.id
    ((runNotebook w.answers job d).2.toOption.getD "") triggerType .running w.env.now

def ran (w : Outside) (job : Job) : Job := updated w.env { lastRunAt := some w.env.now } job

def recorded (w : Outside) (triggerType : TriggerType) (job : Job) (d : Database) : Database :=
  jobTable.put job.id (ran w job) (jobExecutionTable.append (historyRow w triggerType job d) d)

lemma loadJob_ready {s : Session Database} (h : Ready s.view job) (hk : known.getD job = job) :
    loadJob known job.id s = (.ok job, s) := by
  have hg : getJob job.id s = (.ok job, s) := by
    simp only [getJob, JobRepository.getById, TableOf.getById_bind, h.found, pure_apply]
  rw [loadJob, bind_ok hg, hk, if_neg (not_or_intro h.paused h.disabled), pure_apply]

lemma checkOverlap_open {s : Session Database}
    (h : preventsOverlap job ∧ (JobExecutionRepository.historyOf job.id s.view).any isOpen) :
    checkOverlap job s = (.error (.concurrency (toString job.id)), s) := by
  have hl : JobExecutionRepository.listByJobId (ε := JobFailure) job.id s =
    (.ok (JobExecutionRepository.historyOf job.id s.view), s) := rfl
  rw [checkOverlap, if_pos h.1, bind_ok hl, if_pos h.2, throw_apply]

lemma checkOverlap_free {s : Session Database}
    (h : ¬ (preventsOverlap job ∧ (JobExecutionRepository.historyOf job.id s.view).any isOpen)) :
    checkOverlap job s = (.ok (), s) := by
  by_cases hp : preventsOverlap job
  · have hh : ¬ (JobExecutionRepository.historyOf job.id s.view).any isOpen = true :=
      fun ho => h ⟨hp, ho⟩
    have hl : JobExecutionRepository.listByJobId (ε := JobFailure) job.id s =
      (.ok (JobExecutionRepository.historyOf job.id s.view), s) := rfl
    rw [checkOverlap, if_pos hp, bind_ok hl, if_neg hh, pure_apply]
  · rw [checkOverlap, if_neg hp, pure_apply]

lemma recordExecution_taken {executionId : String}
    (h : d.jobExecutions.any (fun x => x.id = w.env.uuid) = true) :
    recordExecution w.env job executionId triggerType (.open d) = (.error .integrityError, .open d) := by
  have ho : jobExecutionTable.occupied (fun _ _ => false)
      (JobExecutionRepository.row w.env job.id executionId triggerType .running w.env.now) d = true := by
    obtain ⟨x, hx, he⟩ := List.any_eq_true.mp h
    have hl : (lookup JobExecution.id w.env.uuid d.jobExecutions).isSome = true := by
      rw [Option.isSome_iff_ne_none, Ne, lookup_none]
      exact fun hn => hn x hx (of_decide_eq_true he)
    simp only [TableOf.occupied, Bool.or_false]
    exact hl
  exact bind_error (TableOf.insert_refused _ ho)

def stored (w : Outside) (triggerType : TriggerType) (job row : Job) (executionId : String) (d : Database) :
    Database :=
  jobTable.put job.id (ran w row) (jobExecutionTable.append
    (JobExecutionRepository.row w.env job.id executionId triggerType .running w.env.now) d)

lemma recordExecution_stored {executionId : String} (hr : jobTable.find job.id d = some row)
    (hn : ∀ x ∈ d.jobs, x.id ≠ job.id → x.name ≠ row.name)
    (h : ¬ d.jobExecutions.any (fun x => x.id = w.env.uuid) = true) :
    recordExecution w.env job executionId triggerType (.open d) =
      (.ok (JobExecutionRepository.row w.env job.id executionId triggerType .running w.env.now),
        ⟨d, stored w triggerType job row executionId d⟩) := by
  have ho : jobExecutionTable.occupied (fun _ _ => false)
      (JobExecutionRepository.row w.env job.id executionId triggerType .running w.env.now) d = false := by
    refine jobExecutionTable.occupied_eq_false.mpr ⟨lookup_none.mpr fun x hx he => ?_, rfl⟩
    exact h (List.any_eq_true.mpr ⟨x, hx, decide_eq_true he⟩)
  rw [recordExecution, JobExecutionRepository.create,
    bind_ok (TableOf.insert_accepted _ (s := .open d) ho)]
  exact bind_ok (update_found (e := w.env) (c := { lastRunAt := some w.env.now }) (lookup_key hr) hr hn)

theorem trigger_eq (w : Outside) (known : Option Job) (triggerType : TriggerType) (h : Ready d job)
    (hk : known.getD job = job) :
    triggerJobExecution w known job.id triggerType (.open d) =
      match refusal w job d with
      | some err => (.error err, .open d)
      | none => (.ok (historyRow w triggerType job d), ⟨d, recorded w triggerType job d⟩) := by
  rw [triggerJobExecution, bind_ok (loadJob_ready (s := .open d) h hk), refusal]
  by_cases ho : preventsOverlap job ∧ (JobExecutionRepository.historyOf job.id d).any isOpen
  · rw [bind_error (checkOverlap_open (s := .open d) ho), if_pos ho]
  · rw [bind_ok (checkOverlap_free (s := .open d) ho), if_neg ho]
    cases hs : w.session with
    | some err => rfl
    | none =>
      change (ofExcept (runNotebook w.answers job d).2 >>= fun x =>
        recordExecution w.env job x triggerType) (.open d) = _
      cases hr : (runNotebook w.answers job d).2 with
      | error err => rfl
      | ok x =>
        change recordExecution w.env job x triggerType (.open d) = _
        by_cases hu : d.jobExecutions.any (fun h => h.id = w.env.uuid) = true
        · rw [recordExecution_taken hu]
          simp only [hu, if_true]
        · rw [recordExecution_stored h.found h.named hu]
          simp only [hu, if_false, Bool.false_eq_true, recorded, historyRow, hr]
          rfl

def settledRow (now : Instant) (w : Outside) (job : Job) (nextRun : Option Instant) : Job :=
  updated w.env { nextRunAt := nextRun, lastRunAt := some now } (ran w job)

def fired (now : Instant) (w : Outside) (job : Job) (nextRun : Option Instant) (d : Database) :
    Database :=
  jobTable.put job.id (settledRow now w job nextRun) (recorded w .scheduled job d)

def nextFrom (E : Environment) (now : Instant) (job : Job) : Except JobFailure (Option Instant) :=
  nextRunOf E now job (some (.aware (utc.at now)))

lemma nextFrom_ran : nextFrom E now (ran w job) = nextFrom E now job := by
  simp only [nextFrom, nextRunOf, ran, updated_scheduleType, updated_cronExpression, updated_timezone,
    Option.getD_none, Option.none_or]

lemma stored_find {executionId : String} (hr : jobTable.find job.id d = some row) :
    jobTable.find job.id (stored w triggerType job row executionId d) = some (ran w row) := by
  have hid : (ran w row).id = job.id := (updated_id _ _).trans (lookup_key hr)
  have hf : jobTable.find job.id (jobExecutionTable.append
    (JobExecutionRepository.row w.env job.id executionId triggerType .running w.env.now) d) = some row := hr
  exact jobTable.find_put_self hid hf

lemma stored_named {executionId : String} (hr : jobTable.find job.id d = some row)
    (hn : ∀ x ∈ d.jobs, x.id ≠ job.id → x.name ≠ row.name) {x : Job}
    (hx : x ∈ (stored w triggerType job row executionId d).jobs) (hi : x.id ≠ job.id) :
    x.name ≠ (ran w row).name := by
  rw [ran, updated_name]
  cases jobTable.mem_put hx with
  | inl he =>
    have hid : (ran w row).id = job.id := (updated_id _ _).trans (lookup_key hr)
    exact absurd (he ▸ hid) hi
  | inr hm => exact hn x hm hi

lemma reschedule_stored (E : Environment) (now : Instant) (w : Outside) (executionId : String)
    (hr : jobTable.find job.id d = some row) (hn : ∀ x ∈ d.jobs, x.id ≠ job.id → x.name ≠ row.name) :
    reschedule E now w.env job ⟨d, stored w .scheduled job row executionId d⟩ =
      match nextFrom E now row with
      | .error err => (.error err, ⟨d, stored w .scheduled job row executionId d⟩)
      | .ok nextRun => (.ok (), ⟨d, jobTable.put job.id (settledRow now w row nextRun)
          (stored w .scheduled job row executionId d)⟩) := by
  have hg : JobRepository.getById (ε := JobFailure) job.id ⟨d, stored w .scheduled job row executionId d⟩ =
      (.ok (some (ran w row)), ⟨d, stored w .scheduled job row executionId d⟩) := by
    simp only [JobRepository.getById, TableOf.getById, read_bind, pure_apply, stored_find hr]
  have hq : nextRunOf E now (ran w row) (some (.aware (utc.at now))) = nextFrom E now row :=
    nextFrom_ran
  rw [reschedule, bind_ok hg, Option.getD_some, hq]
  cases hnext : nextFrom E now row with
  | error err => rfl
  | ok nextRun =>
    have hid : (ran w row).id = job.id := (updated_id _ _).trans (lookup_key hr)
    have hu := update_found (e := w.env) (c := { nextRunAt := nextRun, lastRunAt := some now })
      (s := ⟨d, stored w .scheduled job row executionId d⟩) hid (stored_find hr)
      (fun x hx => stored_named hr hn hx)
    exact bind_ok hu

lemma reschedule_eq (E : Environment) (now : Instant) (w : Outside) (h : Ready d job) :
    reschedule E now w.env job ⟨d, recorded w .scheduled job d⟩ =
      match nextFrom E now job with
      | .error err => (.error err, ⟨d, recorded w .scheduled job d⟩)
      | .ok nextRun => (.ok (), ⟨d, fired now w job nextRun d⟩) :=
  reschedule_stored E now w _ h.found h.named

theorem fire_eq (E : Environment) (now : Instant) (w : Outside) (h : Ready d job) :
    fire E now w job (.open d) =
      match refusal w job d with
      | some err => (.error err, .open d)
      | none =>
        match nextFrom E now job with
        | .error err => (.error err, ⟨d, recorded w .scheduled job d⟩)
        | .ok nextRun => (.ok (), .open (fired now w job nextRun d)) := by
  have ht := trigger_eq w (some job) .scheduled h rfl
  rw [fire]
  cases hr : refusal w job d with
  | some err =>
    rw [hr] at ht
    rw [bind_error ht]
  | none =>
    rw [hr] at ht
    have hs := reschedule_eq E now w h
    rw [bind_ok ht]
    cases hn : nextFrom E now job with
    | error err =>
      rw [hn] at hs
      rw [bind_error hs]
    | ok nextRun =>
      rw [hn] at hs
      rw [bind_ok hs]
      rfl

lemma fired_find (h : Ready d job) (nextRun : Option Instant) :
    jobTable.find job.id (fired now w job nextRun d) = some (settledRow now w job nextRun) := by
  have hid : (settledRow now w job nextRun).id = job.id := by simp [settledRow, ran]
  exact jobTable.find_put_self hid (stored_find h.found)

lemma fired_find_other {k : Uuid} (hk : k ≠ job.id) (nextRun : Option Instant) :
    jobTable.find k (fired now w job nextRun d) = jobTable.find k d := by
  have hid : (settledRow now w job nextRun).id = job.id := by simp [settledRow, ran]
  have hran : (ran w job).id = job.id := updated_id _ _
  rw [fired, jobTable.find_put_other hid hk, recorded, jobTable.find_put_other hran hk]
  rfl

lemma fired_name {nextRun : Option Instant} {x : Job}
    (hx : x ∈ (fired now w job nextRun d).jobs) : x.name = job.name ∨ x ∈ d.jobs := by
  cases jobTable.mem_put hx with
  | inl he => exact Or.inl (by simp [he, settledRow, ran])
  | inr hm =>
    cases jobTable.mem_put hm with
    | inl he => exact Or.inl (by simp [he, ran])
    | inr hd => exact Or.inr hd

variable {other : Job} {w' : Outside}

lemma Ready.fired (h : Ready d job) (ho : Ready d other) (hi : other.id ≠ job.id)
    (nextRun : Option Instant) : Ready (fired now w job nextRun d) other where
  found := (fired_find_other hi nextRun).trans ho.found
  paused := ho.paused
  disabled := ho.disabled
  named x hx hx' := by
    cases fired_name hx with
    | inl he =>
      rw [he]
      exact ho.named job (lookup_mem h.found) hi.symm
    | inr hd => exact ho.named x hd hx'

lemma historyOf_fired (hi : other.id ≠ job.id) (nextRun : Option Instant) :
    JobExecutionRepository.historyOf other.id (fired now w job nextRun d) =
      JobExecutionRepository.historyOf other.id d := by
  have hr : (historyRow w .scheduled job d).jobId ≠ other.id := hi.symm
  have he : (Jobs.fired now w job nextRun d).jobExecutions =
    d.jobExecutions ++ [historyRow w .scheduled job d] := rfl
  simp only [JobExecutionRepository.historyOf, he, List.filter_append, List.filter_cons, hr,
    decide_false, Bool.false_eq_true, if_false, List.filter_nil, List.append_nil]

lemma refusal_fired (hi : other.id ≠ job.id) (hu : w.env.uuid ≠ w'.env.uuid)
    (nextRun : Option Instant) : refusal w' other (fired now w job nextRun d) = refusal w' other d := by
  have hn : runNotebook w'.answers other (fired now w job nextRun d) =
    runNotebook w'.answers other d := rfl
  have he : (fired now w job nextRun d).jobExecutions =
    d.jobExecutions ++ [historyRow w .scheduled job d] := rfl
  have hid : (historyRow w .scheduled job d).id = w.env.uuid := rfl
  simp only [refusal, historyOf_fired hi, hn, he, List.any_append, List.any_cons, hid, hu,
    decide_false, List.any_nil, Bool.or_false]

end NotebookExecution.Jobs
