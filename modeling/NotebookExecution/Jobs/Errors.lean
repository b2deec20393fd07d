import NotebookExecution.Jobs.Editing
import NotebookExecution.Jobs.Progress
import NotebookExecution.Library.Refusal

/-! The errors of `create_job` and `update_job`. The routes answer to three classes of them; what else
is raised on the way leaves the route as it is. `takes` says of a row whether the columns take its
texts. -/

namespace NotebookExecution.Jobs

open Library.Transaction Library.Table Library.Calendar Library.Text Store JobManager

def declared : JobFailure → Bool
  | .notFound _ => true
  | .validation _ => true
  | .scheduleValidation _ => true
  | _ => false

structure Texts where
  name : String
  description : Option String
  scheduleType : String
  cronExpression : Option String
  timezone : String
  concurrencyPolicy : String
  parameters : Json

def textsOf (job : Job) : Texts :=
  ⟨job.name, job.description, job.scheduleType, job.cronExpression, job.timezone, job.concurrencyPolicy,
    job.parameters⟩

/-- The columns take texts of the declared lengths; a database may not enforce them, or refuse others. -/
def Texts.short (t : Texts) : Bool :=
  decide (t.name.length ≤ 255) && decide (t.scheduleType.length ≤ 32) &&
    t.cronExpression.all (fun c => decide (c.length ≤ 128)) && decide (t.timezone.length ≤ 64) &&
    decide (t.concurrencyPolicy.length ≤ 32)

variable {α : Type}

def create (takes : Texts → Bool) (E : Environment) (e : Env) (data : JobCreate) (d : Database) :
    Except (Refusal JobFailure) Job × Database :=
  storing (fun job => takes (textsOf job)) d (request d (createJob E e data))

def update (takes : Texts → Bool) (E : Environment) (e : Env) (k : Uuid) (data : JobUpdate) (d : Database) :
    Except (Refusal JobFailure) (Option Job) × Database :=
  storing (fun o => o.all fun job => takes (textsOf job)) d (request d (updateJob E e k data))

structure FailsDeclared (d : Database) (taken : Prop) (r : Except (Refusal JobFailure) α × Database) :
    Prop where
  declares : Declares declared d r
  rejects : taken → Rejects declared d r

/-! ## The checks -/

variable {E : Environment} {e : Env} {d : Database} {s : Session Database} {now : Instant}
  {tzName scheduleType c : String} {cron : Option String} {other nextRun : Option Instant} {z : Zone}
  {takes : Texts → Bool}

structure Timely (E : Environment) (now : Instant) (tzName scheduleType : String) (cron : Option String) :
    Prop where
  key : tzName ≠ "" → ∀ message, E.zoneInfo tzName ≠ .error (.malformed message)
  time : ∀ z c, tzName ≠ "" → E.zoneInfo tzName = .ok z → scheduleType = "CRON" → cron = some c →
    validateCronExpression c = true →
      Finds E c (z.at now) ∨ representable ((z.at now).reading + stride c) = true

def Accepted (E : Environment) (tzName scheduleType : String) (cron : Option String) : Prop :=
  validateTimezone E tzName = .ok true ∧
    (scheduleType = "CRON" → ∃ c, cron = some c ∧ validateCronExpression c = true)

lemma validateTimezone_inv (h : validateTimezone E tzName = .ok true) :
    tzName ≠ "" ∧ ∃ z, E.zoneInfo tzName = .ok z := by
  rw [validateTimezone] at h
  by_cases ht : tzName = ""
  · rw [if_pos ht] at h
    cases h
  · rw [if_neg ht] at h
    refine ⟨ht, ?_⟩
    cases hz : E.zoneInfo tzName with
    | ok z => exact ⟨z, rfl⟩
    | error err =>
      rw [hz] at h
      cases err <;> cases h

lemma requireTimezone_raises : Raises (declared · = true) (requireTimezone E tzName s).1 ↔
    (tzName ≠ "" → ∀ message, E.zoneInfo tzName ≠ .error (.malformed message)) := by
  rw [requireTimezone, validateTimezone]
  by_cases ht : tzName = ""
  · rw [if_pos ht]
    exact iff_of_true (.error rfl) fun h => absurd ht h
  · rw [if_neg ht]
    cases hz : E.zoneInfo tzName with
    | ok z => exact iff_of_true (.ok ()) fun _ message h => by cases h
    | error err =>
      cases err with
      | notFound => exact iff_of_true (.error rfl) fun _ message h => by cases h
      | malformed message =>
        refine iff_of_false (fun h => ?_) fun h => h ht message rfl
        cases h _ rfl

lemma calculateNextRun_cases (now : Instant) (hv : validateTimezone E tzName = .ok true)
    (hz : E.zoneInfo tzName = .ok z) (hc : validateCronExpression c = true) :
    (Finds E c (z.at now) ∨ representable ((z.at now).reading + stride c) = true) ∧
        (∃ nextRun, instantOf (calculateNextRun E now (some c) tzName none) = .ok nextRun) ∨
      ¬ (Finds E c (z.at now) ∨ representable ((z.at now).reading + stride c) = true) ∧
        ∃ message, instantOf (calculateNextRun E now (some c) tzName none) = .error (.overflowError message) := by
  have hn : nextRun E now c tzName none = _ := nextRun_eq hv hz hc none
  change calculateNextRun E now (some c) tzName none = _ at hn
  rw [hn, finds_iff, startOf, Option.getD_none]
  cases hg : E.croniter.getNext c (z.at now) with
  | some start => exact Or.inl ⟨Or.inl ⟨start, rfl⟩, _, rfl⟩
  | none =>
    rw [fallback_eq hc]
    by_cases hr : representable ((z.at now).reading + stride c) = true
    · rw [if_pos hr]
      exact Or.inl ⟨Or.inr hr, _, rfl⟩
    · rw [if_neg hr]
      refine Or.inr ⟨?_, _, rfl⟩
      rintro (⟨start, hs⟩ | hs)
      · cases hs
      · exact hr hs

lemma scheduled_raises (hv : validateTimezone E tzName = .ok true) (hz : E.zoneInfo tzName = .ok z) :
    Raises (declared · = true) (scheduled E e scheduleType cron tzName other s).1 ↔
      ∀ c, scheduleType = "CRON" → cron = some c → validateCronExpression c = true →
        Finds E c (z.at e.now) ∨ representable ((z.at e.now).reading + stride c) = true := by
  rw [scheduled.eq_def]
  by_cases hs : scheduleType = "CRON"
  · rw [if_pos hs]
    cases cron with
    | none => exact iff_of_true (.error rfl) fun c _ h => by cases h
    | some c =>
      dsimp only
      by_cases hc : c = ""
      · rw [if_pos hc]
        refine iff_of_true (.error rfl) fun c' _ h hv => ?_
        cases h
        rw [hc] at hv
        cases hv
      · rw [if_neg hc]
        cases hval : validateCronExpression c with
        | false =>
          refine iff_of_true (.error rfl) fun c' _ h hv => ?_
          cases h
          rw [hval] at hv
          cases hv
        | true =>
          rw [if_neg (by simp : ¬ (!true) = true), Raises.ofExcept_iff]
          rcases calculateNextRun_cases e.now hv hz hval with ⟨hf, next, hi⟩ | ⟨hf, message, hi⟩
          · rw [hi]
            refine iff_of_true (.ok _) fun c' _ h _ => ?_
            cases h
            exact hf
          · rw [hi]
            refine iff_of_false (fun h => ?_) fun h => hf (h c hs rfl hval)
            cases h _ rfl
  · rw [if_neg hs]
    exact iff_of_true (.ok _) fun c h => absurd h hs

lemma timely_of_schedules (hv : validateTimezone E tzName = .ok true)
    (h : Schedules E now tzName other scheduleType cron nextRun) : Timely E now tzName scheduleType cron := by
  obtain ⟨hne, z, hz⟩ := validateTimezone_inv hv
  constructor
  case key =>
    intro _ message hm
    cases hz.symm.trans hm
  case time =>
    rintro z c _ hz rfl rfl hc
    rcases calculateNextRun_cases now hv hz hc with ⟨hf, -⟩ | ⟨-, message, hi⟩
    · exact hf
    · cases h.recalculates.1.symm.trans hi

lemma accepted_iff (ht : Timely E now tzName scheduleType cron) :
    Accepted E tzName scheduleType cron ↔ validateTimezone E tzName = .ok true ∧
      ∃ nextRun, Schedules E now tzName other scheduleType cron nextRun := by
  constructor
  · rintro ⟨hv, hcron⟩
    refine ⟨hv, ?_⟩
    by_cases hs : scheduleType = "CRON"
    · obtain ⟨c, rfl, hc⟩ := hcron hs
      obtain ⟨hne, z, hz⟩ := validateTimezone_inv hv
      rcases calculateNextRun_cases now hv hz hc with ⟨-, nextRun, hi⟩ | ⟨hf, -⟩
      · have hgiven : c ≠ "" := by
          rintro rfl
          cases hc
        subst hs
        exact ⟨nextRun, .cron hgiven hc hi⟩
      · exact absurd (ht.time z c hne hz hs rfl hc) hf
    · exact ⟨other, .kept hs⟩
  · rintro ⟨hv, nextRun, hsched⟩
    refine ⟨hv, fun hs => ?_⟩
    subst hs
    obtain ⟨c, hc, hval, -⟩ := hsched.next_isSome
    exact ⟨c, hc, hval⟩

lemma checks_raise {rest : Option Instant → Tx Database JobFailure α} {Q : Prop}
    (hrest : ∀ nextRun, Raises (declared · = true) (rest nextRun s).1 ↔ Q) :
    Raises (declared · = true)
        ((do
          requireTimezone E tzName
          let nextRun ← scheduled E e scheduleType cron tzName other
          rest nextRun : Tx Database JobFailure α) s).1 ↔
      Timely E e.now tzName scheduleType cron ∧ (Accepted E tzName scheduleType cron → Q) := by
  have hzone : ∀ a t, requireTimezone E tzName s = (.ok a, t) → t = s := fun a t h =>
    (requireTimezone_inv h).2
  have htime : ∀ nextRun t, scheduled E e scheduleType cron tzName other s = (.ok nextRun, t) → t = s :=
    fun nextRun t h => (scheduled_inv h).2
  rw [Raises.tx_bind_iff hzone, requireTimezone_raises]
  constructor
  · rintro ⟨hkey, h⟩
    have ht : Timely E e.now tzName scheduleType cron := by
      refine ⟨hkey, fun z c hne hz hs hc hval => ?_⟩
      have hv : validateTimezone E tzName = .ok true := by rw [validateTimezone, if_neg hne, hz]
      have hr := ((Raises.tx_bind_iff htime).mp (h () (requireTimezone_valid hv))).1
      exact (scheduled_raises hv hz).mp hr c hs hc hval
    refine ⟨ht, fun ha => ?_⟩
    obtain ⟨hv, nextRun, hs⟩ := (accepted_iff ht).mp ha
    have hr := ((Raises.tx_bind_iff htime).mp (h () (requireTimezone_valid hv))).2
    exact (hrest nextRun).mp (hr nextRun (scheduled_schedules hs))
  · rintro ⟨ht, h⟩
    refine ⟨ht.key, fun _ hv => ?_⟩
    obtain ⟨hv, -⟩ := requireTimezone_inv hv
    obtain ⟨hne, z, hz⟩ := validateTimezone_inv hv
    rw [Raises.tx_bind_iff htime, scheduled_raises hv hz]
    refine ⟨fun c => ht.time z c hne hz, fun nextRun hs => ?_⟩
    obtain ⟨hs, -⟩ := scheduled_inv hs
    exact (hrest nextRun).mpr (h ((accepted_iff ht).mpr ⟨hv, nextRun, hs⟩))

variable {data : JobCreate} {change : JobUpdate} {k : Uuid} {job : Job}

def newTexts (data : JobCreate) : Texts :=
  ⟨data.name, data.description, upper data.scheduleType, data.cronExpression, data.timezone,
    upper data.concurrencyPolicy, data.parameters.getD "\x7b\x7d"⟩

structure CreatesOrRejects (takes : Texts → Bool) (E : Environment) (e : Env) (data : JobCreate)
    (d : Database) : Prop where
  timely : Timely E e.now data.timezone data.scheduleType data.cronExpression
  stores : Accepted E data.timezone data.scheduleType data.cronExpression →
    (∀ x ∈ d.jobs, x.name ≠ data.name) →
      data.workspaceId ≠ none ∧ (∀ x ∈ d.jobs, x.id ≠ e.uuid) ∧ takes (newTexts data) = true

lemma createJob_raises {nb : Notebook} (hn : notebookTable.find data.notebookId d = some nb) :
    Raises (declared · = true) (createJob E e data (.open d)).1 ↔
      Timely E e.now data.timezone data.scheduleType data.cronExpression ∧
        (Accepted E data.timezone data.scheduleType data.cronExpression →
          (∀ x ∈ d.jobs, x.name ≠ data.name) →
            data.workspaceId ≠ none ∧ ∀ x ∈ d.jobs, x.id ≠ e.uuid) := by
  rw [createJob, TableOf.getById_bind]
  simp only [Session.open, hn]
  apply checks_raise
  intro nextRun
  by_cases hname : ∀ x ∈ d.jobs, x.name ≠ data.name
  · rw [bind_ok (getByName_none.mpr hname)]
    cases hw : data.workspaceId with
    | none =>
      refine iff_of_false (fun h => ?_) fun h => (h hname).1 rfl
      cases h _ rfl
    | some workspaceId =>
      have hid : (newRow e data nb workspaceId nextRun).id = e.uuid := rfl
      change Raises _ (JobRepository.create (newRow e data nb workspaceId nextRun) ⟨d, d⟩).1 ↔ _
      by_cases hu : ∀ x ∈ d.jobs, x.id ≠ e.uuid
      · have ho : jobTable.occupied jobClash (newRow e data nb workspaceId nextRun) d = false :=
          free_occupied hu hname
        rw [JobRepository.create, jobTable.insert_accepted ho]
        exact iff_of_true (.ok _) fun _ => ⟨Option.some_ne_none workspaceId, hu⟩
      · have ho : jobTable.occupied jobClash (newRow e data nb workspaceId nextRun) d = true := by
          rw [← Bool.not_eq_false]
          exact fun ho => hu (occupied_free ho)
        rw [JobRepository.create, jobTable.insert_refused ho]
        refine iff_of_false (fun h => ?_) fun h => hu (h hname).2
        cases h _ rfl
  · cases hg : d.jobs.find? fun j => j.name = data.name with
    | none =>
      have hx : JobRepository.getByName (ε := JobFailure) data.name ⟨d, d⟩ = (.ok none, ⟨d, d⟩) :=
        congrArg (fun o => (Except.ok o, (⟨d, d⟩ : Session Database))) hg
      exact absurd (getByName_none.mp hx) hname
    | some x =>
      have hx : JobRepository.getByName (ε := JobFailure) data.name ⟨d, d⟩ = (.ok (some x), ⟨d, d⟩) :=
        congrArg (fun o => (Except.ok o, (⟨d, d⟩ : Session Database))) hg
      rw [bind_ok hx]
      exact iff_of_true (.error rfl) fun h => absurd h hname

lemma createJob_missing (hn : notebookTable.find data.notebookId d = none) :
    createJob E e data (.open d) =
      (.error (.validation ("Notebook '" ++ toString data.notebookId ++ "' does not exist.")), .open d) := by
  rw [createJob, TableOf.getById_bind]
  simp only [Session.open, hn]
  rfl

lemma create_declares_iff :
    Declares declared d (create takes E e data d) ↔
      ∀ nb, notebookTable.find data.notebookId d = some nb → CreatesOrRejects takes E e data d := by
  have hs : (createJob E e data (.open d)).2.committed = d :=
    createJob_keeps _ (committed_kept d) E e data (.open d) rfl
  rw [create, storing_declares hs]
  cases hn : notebookTable.find data.notebookId d with
  | none =>
    rw [createJob_missing hn]
    refine iff_of_true ⟨.error rfl, fun a s h => ?_⟩ fun nb h => ?_
    · cases h
    · cases h
  | some nb =>
    rw [createJob_raises hn]
    constructor
    · rintro ⟨⟨ht, h⟩, htakes⟩ _ _
      refine ⟨ht, fun ha hname => ?_⟩
      obtain ⟨hw, hu⟩ := h ha hname
      obtain ⟨workspaceId, hw'⟩ := Option.ne_none_iff_exists'.mp hw
      obtain ⟨hv, nextRun, hs⟩ := (accepted_iff ht).mp ha
      have hc : Creates E d e data nb workspaceId nextRun := ⟨hn, hv, hs, hname, hw', hu⟩
      exact ⟨hw, hu, htakes _ _ (createJob_creates hc)⟩
    · intro h
      have hc := h nb rfl
      refine ⟨⟨hc.timely, fun ha hname => ?_⟩, fun row s hr => ?_⟩
      · obtain ⟨hw, hu, -⟩ := hc.stores ha hname
        exact ⟨hw, hu⟩
      · obtain ⟨nb', workspaceId, nextRun, hcr, -⟩ := createJob_inv hr
        cases (createJob_creates hcr).symm.trans hr
        have ha := (accepted_iff hc.timely).mpr ⟨hcr.timezone, nextRun, hcr.schedule⟩
        exact (hc.stores ha hcr.name).2.2

def changedTexts (change : JobUpdate) (job : Job) : Texts :=
  ⟨change.name.getD job.name, change.description.or job.description,
    orText change.scheduleType job.scheduleType, change.cronExpression.or job.cronExpression,
    orText change.timezone job.timezone, change.concurrencyPolicy.getD job.concurrencyPolicy,
    change.parameters.getD job.parameters⟩

structure UpdatesOrRejects (takes : Texts → Bool) (E : Environment) (e : Env) (k : Uuid)
    (change : JobUpdate) (job : Job) (d : Database) : Prop where
  timely : Timely E e.now (orText change.timezone job.timezone)
    (orText change.scheduleType job.scheduleType) (change.cronExpression.or job.cronExpression)
  stores : Accepted E (orText change.timezone job.timezone)
      (orText change.scheduleType job.scheduleType) (change.cronExpression.or job.cronExpression) →
    (∀ name, change.name = some name → ∀ x ∈ d.jobs, x.id ≠ k → x.name ≠ name) ∧
      takes (changedTexts change job) = true

lemma named_iff (hd : Keys d) (hf : jobTable.find k d = some job) :
    (∀ name, change.name = some name → ∀ x ∈ d.jobs, x.id ≠ k → x.name ≠ name) ↔
      ∀ x ∈ d.jobs, x.id ≠ k → x.name ≠ change.name.getD job.name := by
  cases hn : change.name with
  | none => exact iff_of_true (fun _ h => by cases h) (named_apart hd.names hf)
  | some name =>
    constructor
    · intro h
      exact h name rfl
    · intro h _ he
      cases he
      exact h

lemma update_raises (hd : Keys d) (hf : jobTable.find k d = some job) {c : JobChanges}
    (hc : c.name = change.name) :
    Raises (declared · = true) (JobRepository.update e k c (.open d)).1 ↔
      ∀ name, change.name = some name → ∀ x ∈ d.jobs, x.id ≠ k → x.name ≠ name := by
  rw [named_iff hd hf, ← hc]
  by_cases hn : ∀ x ∈ d.jobs, x.id ≠ k → x.name ≠ c.name.getD job.name
  · have hu : JobRepository.update e k c (.open d) = _ := update_found (lookup_key hf) hf hn
    rw [hu]
    exact iff_of_true (.ok _) hn
  · push Not at hn
    obtain ⟨x, hx, hi, hname⟩ := hn
    have hchange : JobRepository.assign c job ≠ job := by
      intro ha
      apply named_apart hd.names hf x hx hi
      exact hname.trans (congrArg Job.name ha)
    have hclash : jobClash d (JobRepository.stamp e (JobRepository.assign c job)) = true := by
      refine List.any_eq_true.mpr ⟨x, hx, decide_eq_true ⟨?_, hname⟩⟩
      rw [← lookup_key hf] at hi
      exact hi
    have hu : JobRepository.update e k c (.open d) = (.error .integrityError, .open d) :=
      jobTable.update_refused hf hchange hclash
    rw [hu]
    refine iff_of_false (fun h => ?_) fun h => h x hx hi hname
    cases h _ rfl

lemma updateJob_raises (hd : Keys d) (hf : jobTable.find k d = some job) :
    Raises (declared · = true) (updateJob E e k change (.open d)).1 ↔
      Timely E e.now (orText change.timezone job.timezone)
          (orText change.scheduleType job.scheduleType) (change.cronExpression.or job.cronExpression) ∧
        (Accepted E (orText change.timezone job.timezone)
            (orText change.scheduleType job.scheduleType) (change.cronExpression.or job.cronExpression) →
          ∀ name, change.name = some name → ∀ x ∈ d.jobs, x.id ≠ k → x.name ≠ name) := by
  have hg : getJob k (.open d) = (.ok job, .open d) := getJob_found hf
  rw [updateJob, bind_ok hg]
  apply checks_raise
  intro nextRun
  exact update_raises hd hf rfl

lemma textsOf_changed {nextRun : Option Instant} :
    textsOf (changed e change job nextRun) = changedTexts change job := by
  have hf := updated_field e (changesOf change job nextRun) textsOf (fun _ _ => rfl) job
  have hcron : (change.cronExpression.or job.cronExpression).or job.cronExpression =
    change.cronExpression.or job.cronExpression := by rw [Option.or_assoc, Option.or_self]
  rw [changed, hf, changedTexts, ← hcron]
  rfl

lemma updateJob_missing (hn : jobTable.find k d = none) :
    updateJob E e k change (.open d) = (.error (.notFound (toString k)), .open d) := by
  have hg : getJob k (.open d) = (.error (.notFound (toString k)), .open d) := by
    simp only [getJob, JobRepository.getById, TableOf.getById_bind, Session.open, hn, throw_apply]
  rw [updateJob, bind_error hg]

lemma update_declares_iff (hd : Keys d) :
    Declares declared d (update takes E e k change d) ↔
      ∀ job, jobTable.find k d = some job → UpdatesOrRejects takes E e k change job d := by
  have hs : (updateJob E e k change (.open d)).2.committed = d :=
    updateJob_keeps _ (committed_put d) E e k change (.open d) rfl
  rw [update, storing_declares hs]
  cases hf : jobTable.find k d with
  | none =>
    rw [updateJob_missing hf]
    refine iff_of_true ⟨.error rfl, fun a s h => ?_⟩ fun job h => ?_
    · cases h
    · cases h
  | some job =>
    rw [updateJob_raises hd hf]
    constructor
    · rintro ⟨⟨ht, h⟩, htakes⟩ _ hjob
      cases hjob
      refine ⟨ht, fun ha => ⟨h ha, ?_⟩⟩
      obtain ⟨hv, nextRun, hs⟩ := (accepted_iff ht).mp ha
      have hu : Updates E d e k change job nextRun := ⟨hf, hv, hs, (named_iff hd hf).mp (h ha)⟩
      have hfits := htakes _ _ (updateJob_updates hu)
      rw [Option.all_some, textsOf_changed] at hfits
      exact hfits
    · intro h
      have hu := h job rfl
      refine ⟨⟨hu.timely, fun ha => (hu.stores ha).1⟩, fun o s hr => ?_⟩
      obtain ⟨nextRun, hv, hs, rfl, -⟩ := updateJob_inv hf hr
      rw [Option.all_some, textsOf_changed]
      exact (hu.stores ((accepted_iff hu.timely).mpr ⟨hv, nextRun, hs⟩)).2

section Taken

variable {nb : Notebook} {workspaceId : Uuid} {t : Database}

lemma create_creates (takes : Texts → Bool) (h : Creates E d e data nb workspaceId nextRun) :
    create takes E e data d =
      if takes (newTexts data) then
        (.ok (newRow e data nb workspaceId nextRun), jobTable.append (newRow e data nb workspaceId nextRun) d)
      else (.error .dataError, d) := by
  rw [create, request_returns (createJob_creates h)]
  rfl

lemma create_cases (takes : Texts → Bool) (E : Environment) (e : Env) (data : JobCreate) (d : Database) :
    (∃ nb workspaceId nextRun, Creates E d e data nb workspaceId nextRun) ∨
      ∃ err s, createJob E e data (.open d) = (.error err, s) ∧
        create takes E e data d = (.error (.raised err), d) := by
  obtain ⟨r, s, hr⟩ : ∃ r s, createJob E e data (.open d) = (r, s) := ⟨_, _, rfl⟩
  cases r with
  | ok row =>
    obtain ⟨nb, workspaceId, nextRun, hc, -⟩ := createJob_inv hr
    exact Or.inl ⟨nb, workspaceId, nextRun, hc⟩
  | error err =>
    have hs : s.committed = d := by
      have hk := createJob_keeps _ (committed_kept d) E e data (.open d) rfl
      rwa [hr] at hk
    rw [create, request_raises hr hs]
    exact Or.inr ⟨err, s, hr, rfl⟩

lemma create_inv {row : Job} (h : create takes E e data d = (.ok row, t)) :
    ∃ nb workspaceId nextRun, Creates E d e data nb workspaceId nextRun ∧ takes (newTexts data) = true ∧
      row = newRow e data nb workspaceId nextRun ∧ t = jobTable.append row d := by
  rcases create_cases takes E e data d with ⟨nb, workspaceId, nextRun, hc⟩ | ⟨err, s, -, he⟩
  · rw [create_creates takes hc] at h
    by_cases ht : takes (newTexts data) = true
    · rw [if_pos ht] at h
      cases h
      exact ⟨nb, workspaceId, nextRun, hc, ht, rfl, rfl⟩
    · rw [if_neg ht] at h
      cases h
  · rw [he] at h
    cases h

lemma update_updates (takes : Texts → Bool) (h : Updates E d e k change job nextRun) :
    update takes E e k change d =
      if takes (changedTexts change job) then
        (.ok (some (changed e change job nextRun)), jobTable.put k (changed e change job nextRun) d)
      else (.error .dataError, d) := by
  rw [update, request_returns (updateJob_updates h), storing, Option.all_some, textsOf_changed]

end Taken

lemma create_name {row : Job} (h : (create takes E e data d).1 = .ok row) :
    ∀ x ∈ d.jobs, x.name ≠ data.name := by
  obtain ⟨s, hs, -⟩ := storing_ok h
  obtain ⟨nb, workspaceId, nextRun, hc, -⟩ := createJob_inv hs
  exact hc.name

lemma update_name (hd : Keys d) {o : Option Job} (h : (update takes E e k change d).1 = .ok o) :
    ∀ name, change.name = some name → ∀ x ∈ d.jobs, x.id ≠ k → x.name ≠ name := by
  obtain ⟨s, hs, -⟩ := storing_ok h
  cases hf : jobTable.find k d with
  | none => cases (updateJob_missing hf).symm.trans hs
  | some job =>
    have hr : Raises (declared · = true) (updateJob E e k change (.open d)).1 := by
      rw [hs]
      exact .ok o
    obtain ⟨ht, hnames⟩ := (updateJob_raises hd hf).mp hr
    obtain ⟨nextRun, hv, hsched, -⟩ := updateJob_inv hf hs
    exact hnames ((accepted_iff ht).mpr ⟨hv, nextRun, hsched⟩)

theorem job_errors_iff (takes : Texts → Bool) (E : Environment) (e : Env) {d : Database} (hd : Keys d) :
    (∀ data, FailsDeclared d (∃ x ∈ d.jobs, x.name = data.name) (create takes E e data d) ↔
        ∀ nb, notebookTable.find data.notebookId d = some nb → CreatesOrRejects takes E e data d) ∧
      ∀ k change, FailsDeclared d (∃ x ∈ d.jobs, x.id ≠ k ∧ change.name = some x.name)
          (update takes E e k change d) ↔
        ∀ job, jobTable.find k d = some job → UpdatesOrRejects takes E e k change job d := by
  constructor
  · intro data
    rw [← create_declares_iff]
    refine ⟨FailsDeclared.declares, fun h => ⟨h, fun htaken => ?_⟩⟩
    obtain ⟨x, hx, hname⟩ := htaken
    rcases h with ⟨row, hok⟩ | hr
    · exact absurd hname (create_name hok x hx)
    · exact hr
  · intro k change
    rw [← update_declares_iff hd]
    refine ⟨FailsDeclared.declares, fun h => ⟨h, fun htaken => ?_⟩⟩
    obtain ⟨x, hx, hi, hname⟩ := htaken
    rcases h with ⟨o, hok⟩ | hr
    · exact absurd rfl (update_name hd hok x.name hname x hx hi)
    · exact hr

def weekly : Job := { nightly with id := 3, name := "weekly" }

def twoNames : Database := { oneNotebook with jobs := [nightly, weekly] }

def unplaced : JobCreate :=
  { nightlyData with
    name := "monthly"
    workspaceId := none
    scheduleType := "ONE_TIME"
    cronExpression := none }

def asNightly : JobUpdate := { rename with name := some "nightly" }

theorem two_jobs_errors :
    (∀ data, FailsDeclared twoNames (∃ x ∈ twoNames.jobs, x.name = data.name)
          (create Texts.short world ⟨9, 0⟩ data twoNames) ↔
        ∀ nb, notebookTable.find data.notebookId twoNames = some nb →
          CreatesOrRejects Texts.short world ⟨9, 0⟩ data twoNames) ∧
      ∀ k change, FailsDeclared twoNames (∃ x ∈ twoNames.jobs, x.id ≠ k ∧ change.name = some x.name)
          (update Texts.short world ⟨9, 0⟩ k change twoNames) ↔
        ∀ job, jobTable.find k twoNames = some job →
          UpdatesOrRejects Texts.short world ⟨9, 0⟩ k change job twoNames :=
  job_errors_iff Texts.short world ⟨9, 0⟩ ⟨by decide, by decide⟩

/-- A job without a workspace, and one renamed to what another job is called. -/
theorem undeclared_errors :
    (create Texts.short world ⟨9, 0⟩ unplaced twoNames).1 =
        .error (.raised (.attributeError "'Notebook' object has no attribute 'workspace_id'")) ∧
      ¬ FailsDeclared twoNames (∃ x ∈ twoNames.jobs, x.name = unplaced.name)
        (create Texts.short world ⟨9, 0⟩ unplaced twoNames) ∧
      (update Texts.short world ⟨9, 0⟩ 3 asNightly twoNames).1 = .error (.raised .integrityError) ∧
      ¬ FailsDeclared twoNames (∃ x ∈ twoNames.jobs, x.id ≠ 3 ∧ asNightly.name = some x.name)
        (update Texts.short world ⟨9, 0⟩ 3 asNightly twoNames) := by
  have hcreate : create Texts.short world ⟨9, 0⟩ unplaced twoNames =
    (.error (.raised (.attributeError "'Notebook' object has no attribute 'workspace_id'")), twoNames) := rfl
  have hupdate : update Texts.short world ⟨9, 0⟩ 3 asNightly twoNames =
    (.error (.raised .integrityError), twoNames) := rfl
  rw [hcreate, hupdate]
  refine ⟨rfl, fun h => ?_, rfl, fun h => ?_⟩
  · rcases h.declares with ⟨row, hr⟩ | ⟨err, hr, hd, -⟩
    · cases hr
    · cases hr
      cases hd
  · obtain ⟨err, hr, hd, -⟩ := h.rejects ⟨nightly, by decide, by decide, rfl⟩
    cases hr
    cases hd

end NotebookExecution.Jobs
