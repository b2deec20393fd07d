import NotebookExecution.Jobs.Effects
import NotebookExecution.Jobs.Occurrences
import NotebookExecution.Jobs.Timezones

/-! When the scheduler fires a job, over runs of evaluations, manual triggers and requests. An evaluation
that finds occurrences of the schedule past fires the job once, however many they are. -/

namespace NotebookExecution.Jobs

open Library.Transaction Library.Table Library.Calendar Library.Runs Store JobManager JobScheduler

variable {E : Environment} {now b : ℤ} {w : Uuid → Outside} {row : Job} {d s t : Database} {k : Uuid}
  {c : String} {m : ℤ → Bool}

inductive SchedulerAction
  | store (a : StoreAction)
  | trigger (w : Outside) (jobId : Uuid)

def schedulerStep (E : Environment) (d : Database) : SchedulerAction → Option Database
  | .store a => storeStep E d a
  | .trigger w k => some (request d (triggerJobExecution w none k .manual)).2

def JobCall.target : JobCall → Option Uuid
  | .updateJob _ k _ | .deleteJob k | .pauseJob _ k | .resumeJob _ k => some k
  | .createJob _ _ | .cancelJobExecution _ _ _ => none

def LeavesJob (k : Uuid) : SchedulerAction → Prop
  | .store (.call c) => c.target ≠ some k
  | _ => True

def firedAt (E : Environment) (k : Uuid) (d : Database) : SchedulerAction → Option Instant
  | .store (.evaluate now w) => if ⟨k, true⟩ ∈ (evaluateSessionJobs E now w d).1 then some now else none
  | _ => none

def firings (E : Environment) (k : Uuid) (d : Database) (as : List SchedulerAction) : List Instant :=
  trace (schedulerStep E) (firedAt E k) d as

structure OnSchedule (c : String) (m : ℤ → Bool) (b : ℤ) (job : Job) : Prop where
  status : job.status = .active
  scheduleType : job.scheduleType = "CRON"
  cron : job.cronExpression = some c
  next : ∃ i : ℤ, job.nextRunAt = some i ∧ IsLeast (utc.after m b) i

structure Recurs (E : Environment) (c : String) (m : ℤ → Bool) : Prop where
  text : c ≠ ""
  accepts : E.croniter.accepts c = some m
  endless : ∀ i, (utc.after m i).Nonempty

lemma OnSchedule.due_iff (h : OnSchedule c m b row) :
    JobRepository.isDue now row = true ↔ ∃ o ∈ utc.after m b, o ≤ now := by
  obtain ⟨i, hi, hl⟩ := h.next
  rw [Jobs.due_iff]
  constructor
  · rintro ⟨-, j, hj, hle⟩
    obtain rfl : i = j := Option.some_inj.mp (hi.symm.trans hj)
    exact ⟨i, hl.1, hle⟩
  · rintro ⟨o, ho, hle⟩
    exact ⟨h.status, i, hi, (hl.2 ho).trans hle⟩

lemma nextFrom_least (hr : Recurs E c m) (hs : row.scheduleType = "CRON") (hc : row.cronExpression = some c)
    {o : Option Instant} (h : nextFrom E now row = .ok o) :
    ∃ i : ℤ, o = some i ∧ IsLeast (utc.after m now) i := by
  have hcron : row.scheduleType = "CRON" ∧ row.cronExpression.any (fun c => c ≠ "") := by
    simp [hs, hc, hr.text]
  rw [nextFrom, nextRunOf, if_pos hcron, hc] at h
  cases hn : calculateNextRun E now (some c) row.timezone (some (.aware (utc.at now))) with
  | error err =>
    rw [hn] at h
    cases h
  | ok r =>
    rw [hn] at h
    cases h
    obtain ⟨tz, -, next, rfl, hg⟩ := calculateNextRun_ok hn hr.text
    have hstart : ((some (BaseTime.aware (utc.at now))).getD (.aware (tz.at now))).start tz =
      utc.at now := rfl
    rw [hstart] at hg
    have hne : ((utc.at now).zone.after m (utc.at now).instant).Nonempty := hr.endless _
    refine ⟨next.instant, rfl, ?_⟩
    rcases hg with hg | ⟨hg, -⟩
    · have hl := getNext_some hr.accepts hg
      rwa [DateTime.instant_at] at hl
    · rw [getNext_none (s := utc.at now) hr.accepts hg] at hne
      exact absurd hne Set.not_nonempty_empty

lemma OnSchedule.ran (h : OnSchedule c m b row) (w : Outside) : OnSchedule c m b (ran w row) := by
  obtain ⟨i, hi, hl⟩ := h.next
  refine ⟨?_, ?_, ?_, i, ?_, hl⟩
  · rw [Jobs.ran, updated_status]
    exact h.status
  · rw [Jobs.ran, updated_scheduleType]
    exact h.scheduleType
  · rw [Jobs.ran, updated_cronExpression]
    exact (Option.none_or).trans h.cron
  · rw [Jobs.ran, updated_nextRunAt]
    exact (Option.none_or).trans hi

lemma OnSchedule.settled (hr : Recurs E c m) (h : OnSchedule c m b row) (w : Outside) {o : Option Instant}
    (hn : nextFrom E now row = .ok o) : OnSchedule c m now (settledRow now w row o) := by
  obtain ⟨i, rfl, hl⟩ := nextFrom_least hr h.scheduleType h.cron hn
  have hran := h.ran w
  refine ⟨?_, ?_, ?_, i, ?_, hl⟩
  · rw [settledRow, updated_status]
    exact hran.status
  · rw [settledRow, updated_scheduleType]
    exact hran.scheduleType
  · rw [settledRow, updated_cronExpression]
    exact (Option.none_or).trans hran.cron
  · rw [settledRow, updated_nextRunAt]
    rfl

lemma perform_find {call : JobCall} (hc : call.target ≠ some k) (hf : jobTable.find k d = some row) :
    jobTable.find k (perform E d call) = some row := by
  have hp := performed E d call
  generalize perform E d call = d' at hp
  cases hp with
  | idle _ => exact hf
  | created hc => rw [jobTable.find_append, hf, Option.some_or]
  | @changed _ j _ _ _ hu =>
    have hk : k ≠ j := fun he => hc (he ▸ rfl)
    rw [jobTable.find_put_other (changed_id hu.found) hk, hf]
  | deleted j =>
    have hk : k ≠ j := fun he => hc (he ▸ rfl)
    rw [jobTable.find_drop_other hk, hf]
  | @paused _ j _ found =>
    have hk : k ≠ j := fun he => hc (he ▸ rfl)
    rw [jobTable.find_put_other (paused_id found) hk, hf]
  | @resumed _ j _ _ found _ =>
    have hk : k ≠ j := fun he => hc (he ▸ rfl)
    rw [jobTable.find_put_other (resumed_id found) hk, hf]

lemma trigger_puts (hd : Keys d) (w : Outside) (j : Uuid) :
    (request d (triggerJobExecution w none j .manual)).2 = d ∨
      ∃ job, jobTable.find j d = some job ∧
        (request d (triggerJobExecution w none j .manual)).2 = recorded w .manual job d := by
  cases hf : jobTable.find j d with
  | none =>
    have hl : loadJob none j (.open d) = (.error (.notFound (toString j)), .open d) := by
      have hg : getJob j (.open d) = (.error (.notFound (toString j)), .open d) := by
        simp only [getJob, JobRepository.getById, TableOf.getById_bind, Session.open, hf, throw_apply]
      exact bind_error hg
    exact .inl (congrArg Prod.snd (request_raises (bind_error hl) rfl))
  | some job =>
    obtain rfl : job.id = j := lookup_key hf
    by_cases hs : job.status = .paused ∨ job.status = .disabled
    · have hl : ∃ err, loadJob none job.id (.open d) = (.error err, .open d) := by
        rw [loadJob, bind_ok (getJob_found (s := .open d) hf), Option.getD_none, if_pos hs]
        exact ⟨_, rfl⟩
      obtain ⟨err, hl⟩ := hl
      exact .inl (congrArg Prod.snd (request_raises (bind_error hl) rfl))
    · obtain ⟨hp, hdis⟩ := not_or.mp hs
      have ht := trigger_eq w none .manual (hd.ready (lookup_mem hf) hp hdis) rfl
      cases hr : refusal w job d with
      | some err =>
        rw [hr] at ht
        exact .inl (congrArg Prod.snd (request_raises ht rfl))
      | none =>
        rw [hr] at ht
        exact .inr ⟨job, rfl, request_ok ht⟩

lemma trigger_find (hd : Keys d) (w : Outside) (j : Uuid) (hf : jobTable.find k d = some row) :
    jobTable.find k (request d (triggerJobExecution w none j .manual)).2 = some row ∨
      jobTable.find k (request d (triggerJobExecution w none j .manual)).2 = some (ran w row) := by
  rcases trigger_puts hd w j with h | ⟨job, hj, h⟩
  · rw [h]
    exact .inl hf
  · obtain rfl : job.id = j := lookup_key hj
    have hid : (ran w job).id = job.id := updated_id _ _
    rw [h, recorded]
    by_cases hk : k = job.id
    · rw [hk] at hf ⊢
      obtain rfl : row = job := Option.some_inj.mp (hf.symm.trans hj)
      exact .inr (jobTable.find_put_self hid hf)
    · rw [jobTable.find_put_other hid hk]
      exact .inl hf

lemma keys_schedulerStep {a : SchedulerAction} (h : Keys s) (ht : schedulerStep E s a = some t) : Keys t := by
  cases a with
  | store a => exact keys_step h ht
  | trigger w j =>
    obtain rfl := Option.some_inj.mp ht
    rcases trigger_puts h w j with hd | ⟨job, hf, hd⟩
    · exact hd.symm ▸ h
    · obtain rfl : job.id = j := lookup_key hf
      rw [hd, recorded]
      have hid : (ran w job).id = job.id := updated_id _ _
      refine Keys.put ⟨h.ids, h.names⟩ hid (List.any_eq_false.mpr fun x hx hc => ?_)
      obtain ⟨hi, hn⟩ := of_decide_eq_true hc
      rw [hid] at hi
      rw [ran, updated_name, Option.getD_none] at hn
      exact named_apart h.names hf x hx hi hn

lemma mem_due (h : Keys d) (hf : jobTable.find k d = some row) {job : Job} (hj : job ∈ dueJobs now d) :
    job.id = k ↔ job = row := by
  constructor
  · rintro rfl
    have hjob := lookup_of_mem h.ids (List.mem_filter.mp hj).1
    exact Option.some_inj.mp (hjob.symm.trans hf)
  · rintro rfl
    exact lookup_key hf

lemma evaluate_all {jobs : List Job} (h : Queue d jobs)
    (hall : ∀ f ∈ (evaluateJobs E now w false jobs (.open d)).1, f.committed = true) :
    ∀ job ∈ jobs, ⟨job.id, true⟩ ∈ (evaluateJobs E now w false jobs (.open d)).1 := by
  induction jobs generalizing d with
  | nil => exact fun _ hj => (nomatch hj)
  | cons x rest ih =>
    rcases fires_or E now (w x.id) x d with ⟨nextRun, hf⟩ | hf
    · rw [evaluate_fires h.head hf] at hall ⊢
      intro job hj
      rcases List.mem_cons.mp hj with rfl | hj
      · exact List.mem_cons_self
      · exact List.mem_cons_of_mem _
          (ih (h.fired (w x.id) nextRun) (fun f hm => hall f (List.mem_cons_of_mem _ hm)) job hj)
    · rw [evaluate_stops h.head hf] at hall
      cases hall _ List.mem_cons_self

variable (now w) in
lemma evaluate_onSchedule (hr : Recurs E c m) (h : Keys d) (hf : jobTable.find k d = some row)
    (hs : OnSchedule c m b row) :
    (⟨k, true⟩ ∈ (evaluateSessionJobs E now w d).1 ∧ (∃ o ∈ utc.after m b, o ≤ now) ∧
        ∃ row', jobTable.find k (evaluateSessionJobs E now w d).2 = some row' ∧ OnSchedule c m now row') ∨
      ⟨k, true⟩ ∉ (evaluateSessionJobs E now w d).1 ∧
        jobTable.find k (evaluateSessionJobs E now w d).2 = some row := by
  obtain rfl : row.id = k := lookup_key hf
  by_cases hdue : JobRepository.isDue now row = true
  · have hmem : row ∈ dueJobs now d := List.mem_filter.mpr ⟨lookup_mem hf, hdue⟩
    have hleft : Left E now w row (evaluateSessionJobs E now w d).1
        (jobTable.find row.id (evaluateSessionJobs E now w d).2) := evaluate_left (h.due now) hmem
    cases hleft with
    | settled o hn hone hrow =>
      refine .inl ⟨?_, hs.due_iff.mp hdue, _, hrow, hs.settled hr _ hn⟩
      have hin : (⟨row.id, true⟩ : Fired) ∈
          (evaluateSessionJobs E now w d).1.filter (fun f => f.jobId = row.id) := by
        rw [hone]
        exact List.mem_cons_self
      exact (List.mem_filter.mp hin).1
    | kept hno hrow => exact .inr ⟨hno, hrow⟩
  · have hnot : ∀ job ∈ dueJobs now d, row.id ≠ job.id := by
      intro job hj he
      have hjr := (mem_due h hf hj).mp he.symm
      exact hdue (hjr ▸ (List.mem_filter.mp hj).2)
    refine .inr ⟨fun hin => ?_, (evaluate_find_other (h.due now) hnot).trans hf⟩
    obtain ⟨job, hj, he⟩ := evaluate_ids (h.due now) hin
    exact hnot job hj he.symm

def OccursBetween (m : ℤ → Bool) (f f' : ℤ) : Prop := ∃ o ∈ utc.after m f, o ≤ f'

structure Followed (E : Environment) (c : String) (m : ℤ → Bool) (b : ℤ) (k : Uuid)
    (fired : List Instant) (d : Database) : Prop where
  keys : Keys d
  row : ∃ row, jobTable.find k d = some row ∧ OnSchedule c m (fired.getLastD b) row
  chain : (b :: fired).IsChain (OccursBetween m)

lemma Followed.step {fired : List Instant} {a : SchedulerAction} (hr : Recurs E c m)
    (h : Followed E c m b k fired s) (hl : LeavesJob k a) (ht : schedulerStep E s a = some t) :
    Followed E c m b k (fired ++ (firedAt E k s a).toList) t := by
  have hkeys := keys_schedulerStep h.keys ht
  obtain ⟨row, hf, hs⟩ := h.row
  cases a with
  | trigger w j =>
    obtain rfl := Option.some_inj.mp ht
    refine ⟨hkeys, ?_, by simpa [firedAt] using h.chain⟩
    simp only [firedAt, Option.toList_none, List.append_nil]
    rcases trigger_find h.keys w j hf with hrow | hrow
    · exact ⟨row, hrow, hs⟩
    · exact ⟨_, hrow, hs.ran w⟩
  | store a =>
    cases a with
    | call call =>
      obtain rfl := Option.some_inj.mp ht
      refine ⟨hkeys, ⟨row, perform_find hl hf, ?_⟩, by simpa [firedAt] using h.chain⟩
      simpa only [firedAt, Option.toList_none, List.append_nil] using hs
    | evaluate now w =>
      obtain rfl := Option.some_inj.mp ht
      rcases evaluate_onSchedule now w hr h.keys hf hs with ⟨hin, ho, hrow⟩ | ⟨hno, hrow⟩
      · have hat : firedAt E k s (.store (.evaluate now w)) = some now := if_pos hin
        rw [hat]
        refine ⟨hkeys, ?_, ?_⟩
        · simpa using hrow
        · rw [Option.toList_some, ← List.cons_append, List.isChain_append]
          refine ⟨h.chain, List.isChain_singleton now, ?_⟩
          simpa [List.getLast?_cons, OccursBetween] using ho
      · have hat : firedAt E k s (.store (.evaluate now w)) = none := if_neg hno
        rw [hat, Option.toList_none, List.append_nil]
        exact ⟨hkeys, ⟨row, hrow, hs⟩, h.chain⟩

/-- Between one firing of a job and the next its schedule has occurred; and an evaluation in which no job
fails fires it exactly if its schedule has occurred since the firing before. -/
theorem firings_follow_schedule (hr : Recurs E c m) (hd : Keys d) (hf : jobTable.find k d = some row)
    (hs : OnSchedule c m b row) {as : List SchedulerAction}
    (hl : Along (schedulerStep E) (fun _ a _ => LeavesJob k a) d as) (ht : exec (schedulerStep E) d as = some t) :
    (b :: firings E k d as).IsChain (OccursBetween m) ∧ ∀ (now : Instant) (w : Uuid → Outside),
      (∀ f ∈ (evaluateSessionJobs E now w t).1, f.committed = true) →
        (⟨k, true⟩ ∈ (evaluateSessionJobs E now w t).1 ↔
          OccursBetween m ((firings E k d as).getLastD b) now) := by
  have hfollowed : Followed E c m b k (firings E k d as) t := by
    refine Along.history (R := fun as t => Followed E c m b k (firings E k d as) t) ?_
      ⟨hd, ⟨row, hf, hs⟩, List.isChain_singleton b⟩ hl ht
    intro as s a u hs hfol hu hla
    rw [firings, trace_concat hs hu]
    exact hfol.step hr hla hu
  refine ⟨hfollowed.chain, fun now w hall => ?_⟩
  obtain ⟨row', hf', hs'⟩ := hfollowed.row
  constructor
  · intro hin
    rcases evaluate_onSchedule _ _ hr hfollowed.keys hf' hs' with ⟨-, ho, -⟩ | ⟨hno, -⟩
    · exact ho
    · exact absurd hin hno
  · intro ho
    obtain rfl : row'.id = k := lookup_key hf'
    exact evaluate_all (hfollowed.keys.due now) hall row'
      (List.mem_filter.mpr ⟨lookup_mem hf', hs'.due_iff.mpr ho⟩)

lemma twoOClock_recurs : Recurs world "0 2 * * *" twoOClock where
  text := by decide
  accepts := rfl
  endless i := by
    refine ⟨(i / 86400000000 + 1) * 86400000000 + 7200000000, ?_, ?_⟩
    · omega
    · have hshow : (utc.shows ((i / 86400000000 + 1) * 86400000000 + 7200000000)).1 =
          (i / 86400000000 + 1) * 86400000000 + 7200000000 := Int.add_zero _
      rw [hshow, twoOClock, decide_eq_true_eq]
      omega

lemma created_onSchedule : OnSchedule "0 2 * * *" twoOClock 0 createdJob :=
  ⟨rfl, rfl, rfl, 7200000000, rfl, utc_first⟩

/-- An evaluation two days late, a manual trigger and another evaluation. -/
def lateAndAgain : List SchedulerAction :=
  [.store (.evaluate 180000000000 fun _ => willing), .trigger { willing with env := ⟨4, 180000000001⟩ } 2,
    .store (.evaluate 190000000000 fun _ => { willing with env := ⟨5, 190000000000⟩ })]

theorem late_evaluations_coalesce : ∃ t, exec (schedulerStep world) created lateAndAgain = some t ∧
    (0 :: firings world 2 created lateAndAgain).IsChain (OccursBetween twoOClock) ∧
      ∀ (now : Instant) (w : Uuid → Outside),
        (∀ f ∈ (evaluateSessionJobs world now w t).1, f.committed = true) →
          (⟨2, true⟩ ∈ (evaluateSessionJobs world now w t).1 ↔
            OccursBetween twoOClock ((firings world 2 created lateAndAgain).getLastD 0) now) := by
  have hl : Along (schedulerStep world) (fun _ a _ => LeavesJob 2 a) created lateAndAgain :=
    along_cons.mpr fun _ _ => ⟨trivial, along_cons.mpr fun _ _ => ⟨trivial,
      along_cons.mpr fun _ _ => ⟨trivial, trivial⟩⟩⟩
  have hkeys : Keys created := ⟨List.nodup_singleton _, List.nodup_singleton _⟩
  exact ⟨_, rfl, firings_follow_schedule twoOClock_recurs hkeys rfl created_onSchedule hl rfl⟩

end NotebookExecution.Jobs
