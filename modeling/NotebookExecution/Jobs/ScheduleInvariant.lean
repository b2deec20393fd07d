import NotebookExecution.Jobs.Effects

/-! What every stored job is meant to satisfy. `create_job` folds the case of the schedule type after
its checks, `update_job` writes the texts as they come, and a `None` for the next run means "keep" to
the repository. `takes` says of an action whether the columns take what it writes. -/

namespace NotebookExecution.Jobs

open Library.Transaction Library.Table Library.Text Library.Runs Store JobManager JobScheduler

variable {E : Environment} {now : Instant} {w : Uuid → Outside} {job : Job} {d s t : Database} {e : Env}

def IsScheduleType (text : String) : Prop := text = "ONE_TIME" ∨ text = "CRON"

def IsConcurrencyPolicy (text : String) : Prop := text = "ALLOW_CONCURRENT" ∨ text = "PREVENT_OVERLAP"

def Valid (E : Environment) (job : Job) : Prop :=
  (∃ c, job.cronExpression = some c ∧ validateCronExpression c = true) ∧
    validateTimezone E job.timezone = .ok true

structure JobInvariant (E : Environment) (job : Job) : Prop where
  scheduleType : IsScheduleType job.scheduleType
  concurrencyPolicy : IsConcurrencyPolicy job.concurrencyPolicy
  active : job.status = .active → job.scheduleType = "CRON" → Valid E job ∧ job.nextRunAt.isSome = true
  idle : job.status = .paused ∨ job.scheduleType ≠ "CRON" → job.nextRunAt = none

structure Sound (E : Environment) (job : Job) : Prop extends JobInvariant E job where
  cron : job.scheduleType = "CRON" → Valid E job

def Fit (E : Environment) (d : Database) : StoreAction → Prop
  | .call (.createJob e data) => ∀ nb workspaceId nextRun, Creates E d e data nb workspaceId nextRun →
      (data.scheduleType = "CRON" ∨ upper data.scheduleType = "ONE_TIME") ∧
        IsConcurrencyPolicy (upper data.concurrencyPolicy)
  | .call (.updateJob e k data) => ∀ job nextRun, Updates E d e k data job nextRun →
      (orText data.scheduleType job.scheduleType = "CRON" ∧ job.status ≠ .paused ∨
        orText data.scheduleType job.scheduleType = "ONE_TIME" ∧ job.nextRunAt = none) ∧
        ∀ text, data.concurrencyPolicy = some text → IsConcurrencyPolicy text
  | _ => True

/-! ## The rows of a request -/

variable {data : JobCreate} {change : JobUpdate} {k workspaceId : Uuid} {nb : Notebook}
  {nextRun : Option Instant}

lemma newRow_sound (h : Creates E d e data nb workspaceId nextRun)
    (hs : data.scheduleType = "CRON" ∨ upper data.scheduleType = "ONE_TIME")
    (hp : IsConcurrencyPolicy (upper data.concurrencyPolicy)) :
    Sound E (newRow e data nb workspaceId nextRun) := by
  have hupper : upper "CRON" = "CRON" := by decide
  by_cases hc : data.scheduleType = "CRON"
  · have hsched : upper data.scheduleType = "CRON" := by rw [hc, hupper]
    have hcron := h.schedule
    rw [hc] at hcron
    obtain ⟨c, hgiven, hvalid, hnext⟩ := hcron.next_isSome
    have hv : Valid E (newRow e data nb workspaceId nextRun) := ⟨⟨c, hgiven, hvalid⟩, h.timezone⟩
    refine ⟨⟨Or.inr hsched, hp, fun _ _ => ⟨hv, hnext⟩, ?_⟩, fun _ => hv⟩
    rintro (hi | hi)
    · cases hi
    · exact absurd hsched hi
  · have hone : upper data.scheduleType = "ONE_TIME" := hs.resolve_left hc
    have hne : (newRow e data nb workspaceId nextRun).scheduleType ≠ "CRON" := by
      change upper data.scheduleType ≠ "CRON"
      rw [hone]
      decide
    exact ⟨⟨Or.inl hone, hp, fun _ hcron => absurd hcron hne, fun _ => h.schedule.next_kept hc⟩,
      fun hcron => absurd hcron hne⟩

lemma newRow_fit (h : Creates E d e data nb workspaceId nextRun)
    (hi : JobInvariant E (newRow e data nb workspaceId nextRun)) :
    (data.scheduleType = "CRON" ∨ upper data.scheduleType = "ONE_TIME") ∧
      IsConcurrencyPolicy (upper data.concurrencyPolicy) := by
  refine ⟨?_, hi.concurrencyPolicy⟩
  by_cases hc : data.scheduleType = "CRON"
  · exact Or.inl hc
  · cases hi.scheduleType with
    | inl hone => exact Or.inr hone
    | inr hcron =>
      -- the case was folded after the check that found no CRON schedule
      have hnext : nextRun.isSome = true := (hi.active rfl hcron).2
      rw [h.schedule.next_kept hc] at hnext
      cases hnext

lemma changed_sound (h : Updates E d e k change job nextRun) (hj : Sound E job)
    (hs : orText change.scheduleType job.scheduleType = "CRON" ∧ job.status ≠ .paused ∨
      orText change.scheduleType job.scheduleType = "ONE_TIME" ∧ job.nextRunAt = none)
    (hp : ∀ text, change.concurrencyPolicy = some text → IsConcurrencyPolicy text) :
    Sound E (changed e change job nextRun) := by
  have hpolicy : IsConcurrencyPolicy (changed e change job nextRun).concurrencyPolicy := by
    rw [changed_concurrencyPolicy]
    cases hc : change.concurrencyPolicy with
    | none => exact hj.concurrencyPolicy
    | some text => exact hp text hc
  cases hs with
  | inl hcron =>
    have hsc := h.schedule
    rw [hcron.1] at hsc
    obtain ⟨c, hgiven, hvalid, hsome⟩ := hsc.next_isSome
    have hsched : (changed e change job nextRun).scheduleType = "CRON" :=
      changed_scheduleType.trans hcron.1
    have hv : Valid E (changed e change job nextRun) := by
      refine ⟨⟨c, ?_, hvalid⟩, ?_⟩
      · rw [changed_cronExpression, hgiven, Option.some_or]
      · rw [changed_timezone]
        exact h.timezone
    have hset : (changed e change job nextRun).nextRunAt.isSome = true := by
      rw [changed_nextRunAt, Option.isSome_or, hsome, Bool.true_or]
    refine ⟨⟨Or.inr hsched, hpolicy, fun _ _ => ⟨hv, hset⟩, ?_⟩, fun _ => hv⟩
    rintro (hi | hi)
    · rw [changed_status] at hi
      exact absurd hi hcron.2
    · exact absurd hsched hi
  | inr hone =>
    have hother : orText change.scheduleType job.scheduleType ≠ "CRON" := by
      rw [hone.1]
      decide
    have hsched : (changed e change job nextRun).scheduleType = "ONE_TIME" :=
      changed_scheduleType.trans hone.1
    have hne : (changed e change job nextRun).scheduleType ≠ "CRON" := by
      rw [hsched]
      decide
    have hnone : (changed e change job nextRun).nextRunAt = none := by
      rw [changed_nextRunAt, h.schedule.next_kept hother, hone.2, Option.none_or]
    exact ⟨⟨Or.inl hsched, hpolicy, fun _ hc => absurd hc hne, fun _ => hnone⟩,
      fun hc => absurd hc hne⟩

lemma changed_fit (h : Updates E d e k change job nextRun)
    (hi : JobInvariant E (changed e change job nextRun)) :
    (orText change.scheduleType job.scheduleType = "CRON" ∧ job.status ≠ .paused ∨
        orText change.scheduleType job.scheduleType = "ONE_TIME" ∧ job.nextRunAt = none) ∧
      ∀ text, change.concurrencyPolicy = some text → IsConcurrencyPolicy text := by
  have hsched : (changed e change job nextRun).scheduleType =
    orText change.scheduleType job.scheduleType := changed_scheduleType
  have hnext : (changed e change job nextRun).nextRunAt = nextRun.or job.nextRunAt :=
    changed_nextRunAt
  constructor
  · cases hi.scheduleType with
    | inl hone =>
      have hnone := hi.idle (Or.inr (by rw [hone]; decide))
      rw [hnext, Option.or_eq_none_iff] at hnone
      exact Or.inr ⟨hsched.symm.trans hone, hnone.2⟩
    | inr hcron =>
      refine Or.inl ⟨hsched.symm.trans hcron, fun hpaused => ?_⟩
      have hnone := hi.idle (Or.inl (changed_status.trans hpaused))
      have hsc := h.schedule
      rw [hsched.symm.trans hcron] at hsc
      obtain ⟨c, -, -, hsome⟩ := hsc.next_isSome
      rw [hnext, Option.or_eq_none_iff] at hnone
      rw [hnone.1] at hsome
      cases hsome
  · intro text ht
    have hp := hi.concurrencyPolicy
    rw [changed_concurrencyPolicy, ht] at hp
    exact hp

lemma paused_sound (hj : Sound E job) : Sound E (paused e job) := by
  have hnone : (paused e job).nextRunAt = none := by simp [paused]
  have hs : (paused e job).scheduleType = job.scheduleType := by simp [paused]
  have hv : Valid E (paused e job) ↔ Valid E job := by simp [paused, Valid]
  refine ⟨⟨?_, ?_, fun ha => ?_, fun _ => hnone⟩, fun hc => ?_⟩
  · rw [hs]
    exact hj.scheduleType
  · simpa [paused] using hj.concurrencyPolicy
  · have hp : (paused e job).status = .paused := by simp [paused]
    rw [hp] at ha
    cases ha
  · exact hv.mpr (hj.cron (hs.symm.trans hc))

lemma valid_given (h : Valid E job) : ∃ c, job.cronExpression = some c ∧ c ≠ "" := by
  obtain ⟨⟨c, hc, hvalid⟩, -⟩ := h
  refine ⟨c, hc, ?_⟩
  rintro rfl
  cases hvalid

lemma resumed_sound (hj : Sound E job) (hn : nextRunOf E e.now job none = .ok nextRun) :
    Sound E (resumed e job nextRun) := by
  have hs : (resumed e job nextRun).scheduleType = job.scheduleType := by simp [resumed]
  have hv : Valid E (resumed e job nextRun) ↔ Valid E job := by simp [resumed, Valid]
  have hactive : (resumed e job nextRun).status = .active := by simp [resumed]
  have hnext : (resumed e job nextRun).nextRunAt = nextRun.or job.nextRunAt := by simp [resumed]
  refine ⟨⟨?_, ?_, fun _ hc => ?_, fun hi => ?_⟩, fun hc => hv.mpr (hj.cron (hs.symm.trans hc))⟩
  · rw [hs]
    exact hj.scheduleType
  · simpa [resumed] using hj.concurrencyPolicy
  · rw [hs] at hc
    obtain ⟨c, hgiven, hne⟩ := valid_given (hj.cron hc)
    have hcron : job.scheduleType = "CRON" ∧ job.cronExpression.any (fun c => c ≠ "") := by
      simp [hc, hgiven, hne]
    rw [nextRunOf, if_pos hcron, hgiven] at hn
    refine ⟨hv.mpr (hj.cron hc), ?_⟩
    rw [hnext, Option.isSome_or, instantOf_isSome hne hn, Bool.true_or]
  · have hne : job.scheduleType ≠ "CRON" := by
      cases hi with
      | inl hp =>
        rw [hactive] at hp
        cases hp
      | inr hne => rwa [hs] at hne
    rw [nextRunOf, if_neg fun hc => hne hc.1] at hn
    cases hn
    rw [hnext, Option.none_or]
    exact hj.idle (Or.inr hne)

lemma settledRow_sound {w : Outside} (hj : Sound E job) (hd : JobRepository.isDue now job = true) :
    Sound E (settledRow now w job nextRun) := by
  -- The scheduler only fires what is ACTIVE and has a next run, and leaves it that way.
  obtain ⟨hactive, i, hi, -⟩ := due_iff.mp hd
  have hcron : job.scheduleType = "CRON" := by
    by_contra hne
    have hnone := hj.idle (Or.inr hne)
    rw [hi] at hnone
    cases hnone
  have hs : (settledRow now w job nextRun).scheduleType = job.scheduleType := by simp [settledRow, ran]
  have hst : (settledRow now w job nextRun).status = job.status := by simp [settledRow, ran]
  have hv : Valid E (settledRow now w job nextRun) ↔ Valid E job := by simp [settledRow, ran, Valid]
  have hset : (settledRow now w job nextRun).nextRunAt.isSome = true := by simp [settledRow, ran, hi]
  refine ⟨⟨?_, ?_, fun _ _ => ⟨hv.mpr (hj.cron hcron), hset⟩, fun hidle => ?_⟩,
    fun _ => hv.mpr (hj.cron hcron)⟩
  · rw [hs]
    exact hj.scheduleType
  · simpa [settledRow, ran] using hj.concurrencyPolicy
  · rw [hst, hs, hactive, hcron] at hidle
    rcases hidle with h | h
    · cases h
    · exact absurd rfl h

lemma evaluate_rows (h : Keys d) (hx : job ∈ (evaluateSessionJobs E now w d).2.jobs) :
    job ∈ d.jobs ∨ ∃ due ∈ dueJobs now d, ∃ nextRun, job = settledRow now (w due.id) due nextRun := by
  have hkeys : Keys (evaluateSessionJobs E now w d).2 :=
    keys_step (a := .evaluate now w) h rfl
  have hf : jobTable.find job.id (evaluateSessionJobs E now w d).2 = some job :=
    lookup_of_mem hkeys.ids hx
  by_cases hdue : ∃ due ∈ dueJobs now d, due.id = job.id
  · obtain ⟨due, hm, hi⟩ := hdue
    have hl : Left E now w due (evaluateSessionJobs E now w d).1
        (jobTable.find due.id (evaluateSessionJobs E now w d).2) := evaluate_left (h.due now) hm
    rw [hi, hf] at hl
    cases hl with
    | settled nextRun hn _ hrow => exact Or.inr ⟨due, hm, nextRun, Option.some_inj.mp hrow⟩
    | kept _ hrow =>
      obtain rfl : job = due := Option.some_inj.mp hrow
      exact Or.inl (List.mem_filter.mp hm).1
  · have hother : jobTable.find job.id (evaluateSessionJobs E now w d).2 = jobTable.find job.id d :=
      evaluate_find_other (h.due now) fun due hm hi => hdue ⟨due, hm, hi.symm⟩
    exact Or.inl (lookup_mem (hother.symm.trans hf))

lemma step_sound (h : Keys s) (hs : ∀ job ∈ s.jobs, Sound E job) {a : StoreAction}
    (ht : storeStep E s a = some t) (hf : Fit E s a) : ∀ job ∈ t.jobs, Sound E job := by
  have hput {k : Uuid} {new : Job} (hnew : Sound E new) : ∀ job ∈ (jobTable.put k new s).jobs, Sound E job := by
    intro job hj
    cases jobTable.mem_put hj with
    | inl he => exact he ▸ hnew
    | inr hm => exact hs job hm
  cases a with
  | evaluate now w =>
    obtain rfl : (evaluateSessionJobs E now w s).2 = t := Option.some_inj.mp ht
    intro job hj
    cases evaluate_rows h hj with
    | inl hm => exact hs job hm
    | inr hd =>
      obtain ⟨due, hm, nextRun, rfl⟩ := hd
      obtain ⟨hmem, hdue⟩ := List.mem_filter.mp hm
      exact settledRow_sound (hs due hmem) hdue
  | call c =>
    have hc := performed E s c
    rw [Option.some_inj.mp ht] at hc
    cases hc with
    | idle c => exact hs
    | created hc =>
      obtain ⟨hsched, hpolicy⟩ := hf _ _ _ hc
      intro job hj
      cases List.mem_append.mp hj with
      | inl hm => exact hs job hm
      | inr hnew =>
        rw [List.mem_singleton.mp hnew]
        exact newRow_sound hc hsched hpolicy
    | changed hu =>
      obtain ⟨hsched, hpolicy⟩ := hf _ _ hu
      exact hput (changed_sound hu (hs _ (lookup_mem hu.found)) hsched hpolicy)
    | deleted k =>
      intro job hj
      exact hs job (List.mem_of_mem_filter hj)
    | paused hfound => exact hput (paused_sound (hs _ (lookup_mem hfound)))
    | resumed hfound hn => exact hput (resumed_sound (hs _ (lookup_mem hfound)) hn)

lemma step_fit {a : StoreAction} (ht : storeStep E s a = some t)
    (hi : ∀ job ∈ t.jobs, JobInvariant E job) : Fit E s a := by
  cases a with
  | evaluate now w => trivial
  | call c =>
    obtain rfl : perform E s c = t := Option.some_inj.mp ht
    cases c with
    | createJob e data =>
      intro nb workspaceId nextRun hc
      apply newRow_fit hc
      apply hi
      rw [perform_createJob hc]
      exact List.mem_append_right _ (List.mem_singleton_self _)
    | updateJob e k data =>
      intro job nextRun hu
      apply changed_fit hu
      apply hi
      rw [perform_updateJob hu]
      exact lookup_mem (jobTable.find_put_self (changed_id hu.found) hu.found)
    | deleteJob k => trivial
    | pauseJob e k => trivial
    | resumeJob e k => trivial
    | cancelJobExecution e k executionId => trivial

def AllSound (E : Environment) (d : Database) : Prop := Keys d ∧ ∀ job ∈ d.jobs, Sound E job

variable {takes : Database → StoreAction → Bool} {a : StoreAction}

lemma allSound_taking (h : AllSound E s) (ht : taking takes (storeStep E) s a = some t)
    (hf : takes s a = true → Fit E s a) : AllSound E t := by
  rcases taking_inv ht with ⟨ha, ht⟩ | ⟨-, rfl⟩
  · exact ⟨keys_step h.1 ht, step_sound h.1 h.2 ht (hf ha)⟩
  · exact h

lemma fit_taking (ht : taking takes (storeStep E) s a = some t) (hi : ∀ job ∈ t.jobs, JobInvariant E job)
    (ha : takes s a = true) : Fit E s a := by
  rcases taking_inv ht with ⟨-, ht⟩ | ⟨hn, -⟩
  · exact step_fit ht hi
  · rw [ha] at hn
    cases hn

theorem schedules_hold_iff (takes : Database → StoreAction → Bool) (E : Environment) (d : Database)
    (as : List StoreAction) :
    Along (taking takes (storeStep E)) (fun _ _ t => ∀ job ∈ t.jobs, JobInvariant E job) (withoutJobs d) as ↔
      Along (taking takes (storeStep E)) (fun s a _ => takes s a = true → Fit E s a) (withoutJobs d) as := by
  have hd : AllSound E (withoutJobs d) :=
    ⟨⟨.nil, .nil⟩, fun job hj => absurd hj List.not_mem_nil⟩
  constructor
  · refine along_of_invariant (I := AllSound E) (fun s a t hs ht hp => ?_) hd
    have hf : takes s a = true → Fit E s a := fit_taking ht hp
    exact ⟨allSound_taking hs ht hf, hf⟩
  · refine along_of_invariant (I := AllSound E) (fun s a t hs ht hf => ?_) hd
    have hsound : AllSound E t := allSound_taking hs ht hf
    exact ⟨hsound, fun job hj => (hsound.2 job hj).toJobInvariant⟩

def smallLetters : JobCreate := { nightlyData with scheduleType := "cron", cronExpression := some "whenever" }

/-- No check has seen the expression, and the job is stored as an ACTIVE CRON job without a next run. -/
theorem small_letters_accepted :
    (perform world oneNotebook (.createJob ⟨2, 0⟩ smallLetters)).jobs.map
        (fun job => (job.status, job.scheduleType, job.cronExpression, job.nextRunAt)) =
      [(.active, "CRON", some "whenever", none)] ∧
    ¬ Along (taking (fun _ _ => true) (storeStep world)) (fun _ _ t => ∀ job ∈ t.jobs, JobInvariant world job)
      (withoutJobs oneNotebook) [.call (.createJob ⟨2, 0⟩ smallLetters)] := by
  have he : withoutJobs oneNotebook = oneNotebook := rfl
  have hp : perform world oneNotebook (.createJob ⟨2, 0⟩ smallLetters) =
    { oneNotebook with jobs := [{ createdJob with cronExpression := some "whenever", nextRunAt := none }] } := rfl
  rw [hp]
  refine ⟨rfl, fun h => ?_⟩
  rw [he, along_cons] at h
  obtain ⟨hj, -⟩ := h _ rfl
  rw [hp] at hj
  have hset := ((hj _ List.mem_cons_self).active rfl rfl).2
  cases hset

end NotebookExecution.Jobs
