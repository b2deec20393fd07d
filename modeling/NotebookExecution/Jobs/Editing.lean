import NotebookExecution.Jobs.Effects
import NotebookExecution.Jobs.Timezones

/-! Updates of a job that say nothing about its schedule. The schedule stays as it is, and a CRON
schedule starts anew at the time of the update. -/

namespace NotebookExecution.Jobs

open Library.Transaction Library.Table Library.Calendar Store JobManager

variable {E : Environment} {e : Env} {k : Uuid} {data : JobUpdate} {d : Database} {job : Job}

structure Untouched (job new : Job) : Prop where
  scheduleType : new.scheduleType = job.scheduleType
  cronExpression : new.cronExpression = job.cronExpression
  timezone : new.timezone = job.timezone
  status : new.status = job.status
  nextRunAt : new.nextRunAt = job.nextRunAt
  lastRunAt : new.lastRunAt = job.lastRunAt

structure Edited (E : Environment) (now : Instant) (through : Prop) (job new : Job) : Prop where
  scheduleType : new.scheduleType = job.scheduleType
  cronExpression : new.cronExpression = job.cronExpression
  timezone : new.timezone = job.timezone
  status : new.status = job.status
  lastRunAt : new.lastRunAt = job.lastRunAt
  nextRunAt : (job.scheduleType = "CRON" → ¬ through) → new.nextRunAt = job.nextRunAt
  recalculated : job.scheduleType = "CRON" → through → job.status = .active →
    instantOf (calculateNextRun E now job.cronExpression job.timezone none) = .ok new.nextRunAt ∧
      new.nextRunAt.isSome = true

lemma updateJob_inv {o : Option Job} {s : Session Database}
    (hf : jobTable.find k d = some job) (h : updateJob E e k data (.open d) = (.ok o, s)) :
    ∃ nextRun, validateTimezone E (orText data.timezone job.timezone) = .ok true ∧
      Schedules E e.now (orText data.timezone job.timezone) job.nextRunAt
        (orText data.scheduleType job.scheduleType) (data.cronExpression.or job.cronExpression) nextRun ∧
      o = some (changed e data job nextRun) ∧ s = ⟨d, jobTable.put k (changed e data job nextRun) d⟩ := by
  rw [updateJob] at h
  obtain ⟨row, u, hg, h⟩ := bind_ok_inv h
  obtain ⟨hrow, rfl⟩ := getJob_inv hg
  cases hf.symm.trans hrow
  obtain ⟨_, v, hv, h⟩ := bind_ok_inv h
  obtain ⟨hz, rfl⟩ := requireTimezone_inv hv
  obtain ⟨nextRun, v, hn, h⟩ := bind_ok_inv h
  obtain ⟨hs, rfl⟩ := scheduled_inv hn
  obtain ⟨ho, rfl⟩ := jobTable.update_inv hf h
  exact ⟨nextRun, hz, hs, ho, rfl⟩

lemma Schedules.recalculates {now : Instant} {tzName : String} {other nextRun : Option Instant}
    {cron : Option String} (h : Schedules E now tzName other "CRON" cron nextRun) :
    instantOf (calculateNextRun E now cron tzName none) = .ok nextRun ∧ nextRun.isSome = true := by
  generalize hs : "CRON" = scheduleType at h
  cases h with
  | cron given _ next => exact ⟨next, instantOf_isSome given next⟩
  | kept different => exact absurd hs.symm different

lemma changed_lastRunAt {nextRun : Option Instant} :
    (changed e data job nextRun).lastRunAt = job.lastRunAt := by
  rw [changed, updated_lastRunAt]
  rfl

lemma edited_kept {now : Instant} {through : Prop} (h : ¬ through) : Edited E now through job job where
  scheduleType := rfl
  cronExpression := rfl
  timezone := rfl
  status := rfl
  lastRunAt := rfl
  nextRunAt _ := rfl
  recalculated _ ht := absurd ht h

lemma edited_changed {nextRun : Option Instant} {through : Prop} (hs : data.scheduleType = none)
    (hc : data.cronExpression = none) (hz : data.timezone = none) (ht : through)
    (h : Schedules E e.now job.timezone job.nextRunAt job.scheduleType job.cronExpression nextRun) :
    Edited E e.now through job (changed e data job nextRun) where
  scheduleType := by
    rw [changed_scheduleType, hs]
    rfl
  cronExpression := by
    rw [changed_cronExpression, hc, Option.none_or, Option.or_self]
  timezone := by
    rw [changed_timezone, hz]
    rfl
  status := changed_status
  lastRunAt := changed_lastRunAt
  nextRunAt hkept := by
    have hn : nextRun = job.nextRunAt := h.next_kept fun hcron => hkept hcron ht
    rw [changed_nextRunAt, hn, Option.or_self]
  recalculated hcron _ _ := by
    rw [hcron] at h
    obtain ⟨hnext, hsome⟩ := h.recalculates
    obtain ⟨i, rfl⟩ := Option.isSome_iff_exists.mp hsome
    rw [changed_nextRunAt, Option.some_or]
    exact ⟨hnext, rfl⟩

theorem update_recalculates (E : Environment) (e : Env) {k : Uuid} {data : JobUpdate} {d : Database}
    {job : Job} (hf : jobTable.find k d = some job) (hs : data.scheduleType = none)
    (hc : data.cronExpression = none) (hz : data.timezone = none) :
    ∃ new, jobTable.find k (perform E d (.updateJob e k data)) = some new ∧
      Edited E e.now (∃ o, (request d (updateJob E e k data)).1 = .ok o) job new := by
  obtain ⟨r, s, hr⟩ : ∃ r s, updateJob E e k data (.open d) = (r, s) := ⟨_, _, rfl⟩
  cases r with
  | error err =>
    have hkept : s.committed = d := by
      have hk := updateJob_keeps _ (committed_put d) E e k data (.open d) rfl
      rwa [hr] at hk
    have hreq : request d (updateJob E e k data) = (.error err, d) := request_raises hr hkept
    rw [perform, hreq]
    refine ⟨job, hf, edited_kept ?_⟩
    rintro ⟨o, ho⟩
    cases ho
  | ok o =>
    have hreq := request_returns hr
    obtain ⟨nextRun, -, hsched, -, rfl⟩ := updateJob_inv hf hr
    rw [hs, hc, hz, Option.none_or] at hsched
    rw [perform, hreq]
    exact ⟨changed e data job nextRun, jobTable.find_put_self (changed_id hf) hf,
      edited_changed hs hc hz ⟨o, rfl⟩ hsched⟩

def overdue : Job :=
  { nightly with
    scheduleType := "CRON"
    cronExpression := some "0 2 * * *"
    timezone := "Asia/Kolkata"
    nextRunAt := some (-12600000000) }

def withOverdue : Database := { oneNotebook with jobs := [overdue] }

def rename : JobUpdate := ⟨some "every night", none, none, none, none, none, none, none, none⟩

theorem overdue_recalculated :
    ∃ new, jobTable.find 2 (perform world withOverdue (.updateJob ⟨9, 0⟩ 2 rename)) = some new ∧
      Edited world 0 (∃ o, (request withOverdue (updateJob world ⟨9, 0⟩ 2 rename)).1 = .ok o) overdue new :=
  update_recalculates world ⟨9, 0⟩ rfl rfl rfl rfl

/-- Due since three and a half hours, it waits for the next night. -/
theorem overdue_discarded :
    JobRepository.isDue 0 overdue = true ∧
      ∃ new, jobTable.find 2 (perform world withOverdue (.updateJob ⟨9, 0⟩ 2 rename)) = some new ∧
        new.nextRunAt = some 73800000000 ∧ ¬ Untouched overdue new := by
  obtain ⟨d, hd, hi⟩ := (world_reaches none).mpr (Or.inl kolkata_first)
  have hnext : instantOf (calculateNextRun world 0 (some "0 2 * * *") "Asia/Kolkata" none) =
      .ok (some 73800000000) := by
    change instantOf (nextRun world 0 "0 2 * * *" "Asia/Kolkata" none) = _
    rw [hd]
    change Except.ok (some d.instant) = _
    rw [hi]
  have hu : Updates world withOverdue ⟨9, 0⟩ 2 rename overdue (some 73800000000) :=
    ⟨rfl, rfl, .cron (by decide) (by decide) hnext, by decide⟩
  rw [perform_updateJob hu]
  refine ⟨by decide, _, jobTable.find_put_self (changed_id hu.found) hu.found, changed_nextRunAt, ?_⟩
  intro h
  have hn := h.nextRunAt
  rw [changed_nextRunAt] at hn
  cases hn

end NotebookExecution.Jobs
