import NotebookExecution.Jobs.Errors

/-! Whether `create_job` and `update_job` agree on a schedule and a policy. Both make the same checks;
they write what passed them in different spellings, and fill what is not asked for differently. -/

namespace NotebookExecution.Jobs

open Library.Transaction Library.Table Library.Text Store JobManager

variable {E : Environment} {e e' : Env} {tzName scheduleType : String} {cron : Option String}
  {other other' nextRun : Option Instant} {err : JobFailure} {s u : Session Database}

def scheduleOf (data : JobCreate) : JobUpdate :=
  ⟨none, none, some data.scheduleType, data.cronExpression, some data.timezone,
    some data.concurrencyPolicy, none, none, none⟩

structure SameSchedule (x y : Job) : Prop where
  scheduleType : x.scheduleType = y.scheduleType
  cronExpression : x.cronExpression = y.cronExpression
  timezone : x.timezone = y.timezone
  concurrencyPolicy : x.concurrencyPolicy = y.concurrencyPolicy
  nextRunAt : x.nextRunAt = y.nextRunAt

structure Agrees (takes : Texts → Bool) (E : Environment) (e e' : Env) (data : JobCreate) (k : Uuid)
    (d d' : Database) : Prop where
  accepts : ∀ row t, create takes E e data d = (.ok row, t) →
    ∃ row' t', update takes E e' k (scheduleOf data) d' = (.ok (some row'), t') ∧
      jobTable.find k t' = some row' ∧ SameSchedule row row'
  refuses : ∀ details t, create takes E e data d = (.error (.raised (.scheduleValidation details)), t) →
    ∃ details' t', update takes E e' k (scheduleOf data) d' =
      (.error (.raised (.scheduleValidation details')), t')

lemma requireTimezone_refuses (h : requireTimezone E tzName s = (.error err, u)) (t : Session Database) :
    requireTimezone E tzName t = (.error err, t) := by
  rw [requireTimezone] at h ⊢
  cases hv : validateTimezone E tzName with
  | error err' =>
    rw [hv] at h
    cases h
    rfl
  | ok valid =>
    rw [hv] at h
    cases valid with
    | true => cases h
    | false =>
      cases h
      rfl

lemma scheduled_refuses (h : scheduled E e scheduleType cron tzName other s = (.error err, u))
    (hnow : e.now = e'.now) (other' : Option Instant) (t : Session Database) :
    scheduled E e' scheduleType cron tzName other' t = (.error err, t) := by
  rw [scheduled.eq_def] at h ⊢
  by_cases hs : scheduleType = "CRON"
  · rw [if_pos hs] at h ⊢
    cases cron with
    | none =>
      cases h
      rfl
    | some c =>
      dsimp only at h ⊢
      by_cases hc : c = ""
      · rw [if_pos hc] at h ⊢
        cases h
        rfl
      · rw [if_neg hc] at h ⊢
        cases hv : validateCronExpression c with
        | false =>
          rw [hv] at h
          cases h
          rfl
        | true =>
          rw [hv] at h
          rw [← hnow]
          cases hn : instantOf (calculateNextRun E e.now (some c) tzName none) with
          | error err' =>
            rw [hn] at h
            cases h
            rfl
          | ok next =>
            rw [hn] at h
            cases h
  · rw [if_neg hs] at h
    cases h

variable {data : JobCreate} {d d' : Database} {k : Uuid} {job : Job} {details : String}

lemma createJob_refused (h : createJob E e data (.open d) = (.error (.scheduleValidation details), s)) :
    (∃ u, requireTimezone E data.timezone (.open d) = (.error (.scheduleValidation details), u)) ∨
      validateTimezone E data.timezone = .ok true ∧
        ∃ u, scheduled E e data.scheduleType data.cronExpression data.timezone none (.open d) =
          (.error (.scheduleValidation details), u) := by
  rw [createJob, TableOf.getById_bind] at h
  simp only [Session.open] at h
  cases hn : notebookTable.find data.notebookId d with
  | none =>
    rw [hn] at h
    cases h
  | some nb =>
    rw [hn] at h
    rcases bind_error_inv h with htz | ⟨_, u, htz, h⟩
    · exact Or.inl ⟨_, htz⟩
    · obtain ⟨hv, rfl⟩ := requireTimezone_inv htz
      rcases bind_error_inv h with hs | ⟨nextRun, v, hs, h⟩
      · exact Or.inr ⟨hv, _, hs⟩
      · obtain ⟨-, rfl⟩ := scheduled_inv hs
        rcases bind_error_inv h with hg | ⟨o, v, hg, h⟩
        · cases hg
        · cases o with
          | some x => cases h
          | none =>
            rcases bind_error_inv h with hw | ⟨workspaceId, v, hw, h⟩
            · cases hwd : data.workspaceId with
              | none =>
                rw [hwd] at hw
                cases hw
              | some given =>
                rw [hwd] at hw
                cases hw
            · -- the insertion may fail, but for the unique names only
              cases ho : jobTable.occupied jobClash (newRow e data nb workspaceId nextRun) v.view with
              | true => cases (jobTable.insert_refused ho).symm.trans h
              | false => cases (jobTable.insert_accepted ho).symm.trans h

/-! ## Agreement -/

lemma orText_given {a : String} (h : a ≠ "") (b : String) : orText (some a) b = a := if_neg h

lemma Schedules.keep {now : Instant} (h : Schedules E now tzName other scheduleType cron nextRun)
    (other' : Option Instant) :
    Schedules E now tzName other' scheduleType cron (if scheduleType = "CRON" then nextRun else other') := by
  cases h with
  | cron given valid next =>
    rw [if_pos rfl]
    exact .cron given valid next
  | kept different =>
    rw [if_neg different]
    exact .kept different

variable {c : String} {nb : Notebook} {workspaceId : Uuid}

lemma updates_of_creates (h : Creates E d e data nb workspaceId nextRun) (hnow : e.now = e'.now)
    (hcron : data.cronExpression = some c) (hs : data.scheduleType ≠ "") (htz : data.timezone ≠ "")
    (hf : jobTable.find k d' = some job) (hn : ∀ x ∈ d'.jobs, x.id ≠ k → x.name ≠ job.name) :
    Updates E d' e' k (scheduleOf data) job
      (if data.scheduleType = "CRON" then nextRun else job.nextRunAt) := by
  have hst : orText (some data.scheduleType) job.scheduleType = data.scheduleType := orText_given hs _
  have hzone : orText (some data.timezone) job.timezone = data.timezone := orText_given htz _
  have hor : data.cronExpression.or job.cronExpression = data.cronExpression := by
    rw [hcron, Option.some_or]
  refine ⟨hf, ?_, ?_, hn⟩
  · change validateTimezone E (orText (some data.timezone) job.timezone) = .ok true
    rw [hzone]
    exact h.timezone
  · change Schedules E e'.now (orText (some data.timezone) job.timezone) job.nextRunAt
      (orText (some data.scheduleType) job.scheduleType) (data.cronExpression.or job.cronExpression) _
    rw [hst, hzone, hor, ← hnow]
    exact h.schedule.keep job.nextRunAt

lemma sameSchedule_iff (h : Creates E d e data nb workspaceId nextRun)
    (hcron : data.cronExpression = some c) (hs : data.scheduleType ≠ "") (htz : data.timezone ≠ "") :
    SameSchedule (newRow e data nb workspaceId nextRun)
        (changed e' (scheduleOf data) job (if data.scheduleType = "CRON" then nextRun else job.nextRunAt)) ↔
      upper data.scheduleType = data.scheduleType ∧
        upper data.concurrencyPolicy = data.concurrencyPolicy ∧
        (data.scheduleType = "CRON" ∨ job.nextRunAt = none) := by
  have hst : orText (scheduleOf data).scheduleType job.scheduleType = data.scheduleType := orText_given hs _
  have hzone : orText (scheduleOf data).timezone job.timezone = data.timezone := orText_given htz _
  have hexpr : ((scheduleOf data).cronExpression.or job.cronExpression).or job.cronExpression =
      data.cronExpression := by
    change (data.cronExpression.or job.cronExpression).or job.cronExpression = data.cronExpression
    rw [hcron, Option.some_or, Option.some_or]
  have hnext : nextRun = (if data.scheduleType = "CRON" then nextRun else job.nextRunAt).or job.nextRunAt ↔
      data.scheduleType = "CRON" ∨ job.nextRunAt = none := by
    by_cases hc : data.scheduleType = "CRON"
    · have hsched := h.schedule
      rw [hc] at hsched
      obtain ⟨-, -, -, hsome⟩ := hsched.next_isSome
      obtain ⟨i, rfl⟩ := Option.isSome_iff_exists.mp hsome
      rw [if_pos hc, Option.some_or]
      exact iff_of_true rfl (Or.inl hc)
    · rw [if_neg hc, h.schedule.next_kept hc, Option.or_self]
      exact ⟨fun he => Or.inr he.symm, fun he => (he.resolve_left hc).symm⟩
  constructor
  · intro hsame
    have htype : upper data.scheduleType = _ := hsame.scheduleType
    have hpolicy : upper data.concurrencyPolicy = _ := hsame.concurrencyPolicy
    have hrun : nextRun = _ := hsame.nextRunAt
    rw [changed_scheduleType, hst] at htype
    rw [changed_concurrencyPolicy] at hpolicy
    rw [changed_nextRunAt] at hrun
    exact ⟨htype, hpolicy, hnext.mp hrun⟩
  · rintro ⟨htype, hpolicy, hrun⟩
    refine ⟨?_, ?_, ?_, ?_, ?_⟩
    · rw [changed_scheduleType, hst]
      exact htype
    · rw [changed_cronExpression, hexpr]
      rfl
    · rw [changed_timezone, hzone]
      rfl
    · rw [changed_concurrencyPolicy]
      exact hpolicy
    · rw [changed_nextRunAt]
      exact hnext.mpr hrun

lemma updateJob_refuses
    (h : createJob E e data (.open d) = (.error (.scheduleValidation details), s)) (hnow : e.now = e'.now)
    (hcron : data.cronExpression = some c) (hs : data.scheduleType ≠ "") (htz : data.timezone ≠ "")
    (hf : jobTable.find k d' = some job) :
    updateJob E e' k (scheduleOf data) (.open d') = (.error (.scheduleValidation details), .open d') := by
  have hst : orText (some data.scheduleType) job.scheduleType = data.scheduleType := orText_given hs _
  have hzone : orText (some data.timezone) job.timezone = data.timezone := orText_given htz _
  have hor : data.cronExpression.or job.cronExpression = data.cronExpression := by
    rw [hcron, Option.some_or]
  have hg : getJob k (.open d') = (.ok job, .open d') := getJob_found hf
  rw [updateJob, bind_ok hg]
  dsimp only [scheduleOf]
  rw [hst, hzone, hor]
  rcases createJob_refused h with ⟨u, hr⟩ | ⟨hv, u, hr⟩
  · exact bind_error (requireTimezone_refuses hr _)
  · rw [bind_ok (requireTimezone_valid hv)]
    exact bind_error (scheduled_refuses hr hnow _ _)

theorem create_update_agree_iff (takes : Texts → Bool) (E : Environment) {e e' : Env} (hnow : e.now = e'.now)
    {data : JobCreate} {c : String} (hcron : data.cronExpression = some c)
    (hs : data.scheduleType ≠ "") (htz : data.timezone ≠ "") {d d' : Database} {k : Uuid} {job : Job}
    (hf : jobTable.find k d' = some job) (hn : ∀ x ∈ d'.jobs, x.id ≠ k → x.name ≠ job.name) :
    Agrees takes E e e' data k d d' ↔
      ∀ nb workspaceId nextRun, Creates E d e data nb workspaceId nextRun → takes (newTexts data) = true →
        takes (changedTexts (scheduleOf data) job) = true ∧
          upper data.scheduleType = data.scheduleType ∧
          upper data.concurrencyPolicy = data.concurrencyPolicy ∧
          (data.scheduleType = "CRON" ∨ job.nextRunAt = none) := by
  constructor
  · intro h nb workspaceId nextRun hcr ht
    obtain ⟨row', t', hu, -, hsame⟩ := h.accepts _ _ ((create_creates takes hcr).trans (if_pos ht))
    have hup := update_updates takes (updates_of_creates hcr hnow hcron hs htz hf hn)
    rw [hup] at hu
    by_cases ht' : takes (changedTexts (scheduleOf data) job) = true
    · rw [if_pos ht'] at hu
      cases hu
      exact ⟨ht', (sameSchedule_iff hcr hcron hs htz).mp hsame⟩
    · rw [if_neg ht'] at hu
      cases hu
  · intro h
    constructor
    · intro row t hr
      obtain ⟨nb, workspaceId, nextRun, hcr, ht, rfl, -⟩ := create_inv hr
      obtain ⟨ht', hsame⟩ := h nb workspaceId nextRun hcr ht
      have hup := updates_of_creates hcr hnow hcron hs htz hf hn
      exact ⟨_, _, (update_updates takes hup).trans (if_pos ht'),
        jobTable.find_put_self (changed_id hup.found) hup.found, (sameSchedule_iff hcr hcron hs htz).mpr hsame⟩
    · intro details t hr
      rcases create_cases takes E e data d with ⟨nb, workspaceId, nextRun, hcr⟩ | ⟨err, s, hs', he⟩
      · rw [create_creates takes hcr] at hr
        split at hr <;> cases hr
      · rw [he] at hr
        cases hr
        exact ⟨details, _, congrArg (storing _ d') (request_raises
          (updateJob_refuses hs' hnow hcron hs htz hf) rfl)⟩

theorem nightly_agrees : Agrees Texts.short world ⟨2, 0⟩ ⟨3, 0⟩ nightlyData 2 oneNotebook (withJob []) := by
  have hnow : (⟨2, 0⟩ : Env).now = (⟨3, 0⟩ : Env).now := rfl
  have hcron : nightlyData.cronExpression = some "0 2 * * *" := rfl
  have hf : jobTable.find 2 (withJob []) = some nightly := rfl
  have hn : ∀ x ∈ (withJob []).jobs, x.id ≠ 2 → x.name ≠ nightly.name := by decide
  apply (create_update_agree_iff Texts.short world hnow hcron (by decide) (by decide) hf hn).mpr
  intro nb workspaceId nextRun h _
  exact ⟨by decide, by decide, by decide, Or.inl rfl⟩

def smallPolicy : JobCreate :=
  { nightlyData with scheduleType := "ONE_TIME", concurrencyPolicy := "prevent_overlap" }

theorem small_policy_kept :
    ¬ Agrees Texts.short world ⟨2, 0⟩ ⟨3, 0⟩ smallPolicy 2 oneNotebook (withJob []) := by
  intro h
  obtain ⟨row', t', hu, -, hsame⟩ := h.accepts _ _ rfl
  cases hu
  have hpolicy : upper "prevent_overlap" = "prevent_overlap" := hsame.concurrencyPolicy
  exact absurd hpolicy (by decide)

end NotebookExecution.Jobs
