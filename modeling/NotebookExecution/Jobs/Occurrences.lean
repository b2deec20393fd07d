import NotebookExecution.Jobs.Evaluation
import NotebookExecution.Jobs.Isolation
import NotebookExecution.Jobs.Routes
import NotebookExecution.Library.Runs

/-! Whether an occurrence that an evaluation has handled is due again. The update after a trigger
writes the next run only if there is one, and only a CRON schedule has one. -/

namespace NotebookExecution.Jobs

open Library.Transaction Library.Table Library.Calendar Library.Runs Store JobManager JobScheduler

variable {E : Environment} {now : ℤ} {w : Uuid → Outside} {job : Job} {d s t : Database}

inductive StoreAction
  | call (c : JobCall)
  | evaluate (now : Instant) (w : Uuid → Outside)

def storeStep (E : Environment) (d : Database) : StoreAction → Option Database
  | .call c => some (perform E d c)
  | .evaluate now w => some (evaluateSessionJobs E now w d).2

def Settled (now : Instant) (d : Database) (k : Uuid) : Prop :=
  ∃ row, jobTable.find k d = some row ∧ JobRepository.isDue now row = false ∧
    ∀ i, row.nextRunAt = some i → now < i

def Settles (E : Environment) (d : Database) : StoreAction → Database → Prop
  | .evaluate now w, t => ∀ f ∈ (evaluateSessionJobs E now w d).1, f.committed = true → Settled now t f.jobId
  | .call _, _ => True

def Advances (E : Environment) (now : Instant) (job : Job) : Prop :=
  job.scheduleType = "CRON" ∧ ∃ c, job.cronExpression = some c ∧ c ≠ "" ∧
    ((E.croniter.getNext c (utc.at now)).isSome = true ∨ 1 ≤ fallbackStep c)

def AllAdvance (E : Environment) (d : Database) : StoreAction → Prop
  | .evaluate now w => ∀ job ∈ dueJobs now d,
      ⟨job.id, true⟩ ∈ (evaluateSessionJobs E now w d).1 → Advances E now job
  | .call _ => True

lemma calculateNextRun_ok {c tzName : String} {base : Option BaseTime} {o : Option DateTime}
    (h : calculateNextRun E now (some c) tzName base = .ok o) (hc : c ≠ "") :
    ∃ tz, E.zoneInfo tzName = .ok tz ∧ ∃ next, o = some next ∧
      (E.croniter.getNext c ((base.getD (.aware (tz.at now))).start tz) = some next ∨
        E.croniter.getNext c ((base.getD (.aware (tz.at now))).start tz) = none ∧
          fallback c ((base.getD (.aware (tz.at now))).start tz) = .ok next) := by
  simp only [calculateNextRun, hc, if_false, bind, Except.bind] at h
  cases hv : validateTimezone E tzName with
  | error err =>
    rw [hv] at h
    cases h
  | ok valid =>
    rw [hv] at h
    cases valid with
    | false => cases h
    | true =>
      cases hx : validateCronExpression c with
      | false =>
        rw [hx] at h
        cases h
      | true =>
        rw [hx] at h
        cases hz : E.zoneInfo tzName with
        | error err =>
          rw [hz] at h
          cases h
        | ok tz =>
          rw [hz] at h
          refine ⟨tz, rfl, ?_⟩
          dsimp only at h
          cases hn : E.croniter.getNext c ((base.getD (.aware (tz.at now))).start tz) with
          | some next =>
            simp only [hn] at h
            cases h
            exact ⟨next, rfl, Or.inl rfl⟩
          | none =>
            simp only [hn] at h
            cases hf : fallback c ((base.getD (.aware (tz.at now))).start tz) with
            | error err =>
              simp only [hf] at h
              cases h
            | ok next =>
              simp only [hf] at h
              cases h
              exact ⟨next, rfl, Or.inr ⟨rfl, rfl⟩⟩

lemma fallback_instant {c : String} {offset : ℤ} {next : DateTime}
    (h : fallback c ((Zone.fixed offset).at now) = .ok next) :
    next.instant = now + fallbackStep c * 60000000 := by
  rw [fallback] at h
  split at h
  · cases h
    exact DateTime.plus_fixed _ _ _
  · cases h

lemma nextFrom_cron {c : String} {o : Option Instant} (hs : job.scheduleType = "CRON")
    (hc : job.cronExpression = some c) (hne : c ≠ "") (h : nextFrom E now job = .ok o) :
    ∃ i : ℤ, o = some i ∧
      (now < i ↔ (E.croniter.getNext c (utc.at now)).isSome = true ∨ 1 ≤ fallbackStep c) := by
  have hcron : job.scheduleType = "CRON" ∧ job.cronExpression.any (fun c => c ≠ "") := by
    simp [hs, hc, hne]
  rw [nextFrom, nextRunOf, if_pos hcron, hc] at h
  cases hr : calculateNextRun E now (some c) job.timezone (some (.aware (utc.at now))) with
  | error err =>
    rw [hr] at h
    cases h
  | ok r =>
    rw [hr] at h
    cases h
    obtain ⟨tz, -, next, rfl, hn⟩ := calculateNextRun_ok hr hne
    refine ⟨next.instant, rfl, ?_⟩
    have hstart : ((some (BaseTime.aware (utc.at now))).getD (.aware (tz.at now))).start tz =
      utc.at now := rfl
    rw [hstart] at hn
    cases hn with
    | inl hg =>
      obtain ⟨m, -, hl⟩ := E.croniter.getNext_least c _ next hg
      have hlt : now < next.instant := by
        have hb := least_after hl
        rwa [DateTime.instant_at] at hb
      exact iff_of_true hlt (Or.inl (by rw [hg]; rfl))
    | inr hf =>
      have hi : next.instant = now + fallbackStep c * 60000000 := fallback_instant hf.2
      simp only [hf.1, Option.isSome_none, Bool.false_eq_true, false_or]
      omega

lemma nextFrom_other (h : ¬ (job.scheduleType = "CRON" ∧ job.cronExpression.any fun c => c ≠ "")) :
    nextFrom E now job = .ok none := by
  rw [nextFrom, nextRunOf, if_neg h]

lemma cron_cases (job : Job) :
    (∃ c, job.scheduleType = "CRON" ∧ job.cronExpression = some c ∧ c ≠ "") ∨
      ¬ (job.scheduleType = "CRON" ∧ job.cronExpression.any fun c => c ≠ "") := by
  by_cases h : job.scheduleType = "CRON" ∧ job.cronExpression.any fun c => c ≠ ""
  · obtain ⟨c, hc, hne⟩ := (Option.any_eq_true _ _).mp h.2
    exact Or.inl ⟨c, h.1, hc, of_decide_eq_true hne⟩
  · exact Or.inr h

lemma due_iff : JobRepository.isDue now job = true ↔
    job.status = .active ∧ ∃ i : ℤ, job.nextRunAt = some i ∧ i ≤ now := by
  simp only [JobRepository.isDue, Bool.and_eq_true, decide_eq_true_eq, Option.any_eq_true]

lemma settledRow_later {w : Outside} {o : Option Instant} (hd : JobRepository.isDue now job = true)
    (h : nextFrom E now job = .ok o) :
    (∀ i : ℤ, (settledRow now w job o).nextRunAt = some i → now < i) ↔ Advances E now job := by
  have hrow : (settledRow now w job o).nextRunAt = o.or job.nextRunAt := by simp [settledRow, ran]
  rw [hrow]
  cases cron_cases job with
  | inl hcron =>
    obtain ⟨c, hs, hc, hne⟩ := hcron
    obtain ⟨i, rfl, hi⟩ := nextFrom_cron hs hc hne h
    constructor
    · intro hl
      exact ⟨hs, c, hc, hne, hi.mp (hl i rfl)⟩
    · rintro ⟨-, c', hc', -, hadv⟩ j hj
      obtain rfl : c = c' := Option.some_inj.mp (hc.symm.trans hc')
      obtain rfl : i = j := Option.some_inj.mp hj
      exact hi.mpr hadv
  | inr hother =>
    obtain rfl : none = o := Except.ok.inj ((nextFrom_other hother).symm.trans h)
    obtain ⟨-, i, hi, hle⟩ := due_iff.mp hd
    constructor
    · intro hl
      exact absurd (hl i hi) (not_lt.mpr hle)
    · rintro ⟨hs, c, hc, hne, -⟩
      exact absurd ⟨hs, (Option.any_eq_true _ _).mpr ⟨c, hc, decide_eq_true hne⟩⟩ hother

lemma evaluate_settles (h : Keys d) (hj : job ∈ dueJobs now d)
    (hf : ⟨job.id, true⟩ ∈ (evaluateSessionJobs E now w d).1) :
    Settled now (evaluateSessionJobs E now w d).2 job.id ↔ Advances E now job := by
  have hdue : JobRepository.isDue now job = true := (List.mem_filter.mp hj).2
  have hl : Left E now w job (evaluateSessionJobs E now w d).1
      (jobTable.find job.id (evaluateSessionJobs E now w d).2) := evaluate_left (h.due now) hj
  cases hl with
  | kept hno hrow => exact absurd hf hno
  | settled o hnext hone hrow =>
    rw [← settledRow_later (w := w job.id) hdue hnext]
    constructor
    · rintro ⟨row, hrow', -, hlater⟩
      obtain rfl : settledRow now (w job.id) job o = row := Option.some_inj.mp (hrow.symm.trans hrow')
      exact hlater
    · intro hlater
      refine ⟨_, hrow, ?_, hlater⟩
      rw [Bool.eq_false_iff, Ne, due_iff]
      rintro ⟨-, i, hi, hle⟩
      exact absurd (hlater i hi) (not_lt.mpr hle)

lemma step_settles (h : Keys s) {a : StoreAction} (ht : storeStep E s a = some t) :
    Settles E s a t ↔ AllAdvance E s a := by
  cases a with
  | call c => exact Iff.rfl
  | evaluate now w =>
    obtain rfl : (evaluateSessionJobs E now w s).2 = t := Option.some_inj.mp ht
    constructor
    · intro hs job hj hf
      exact (evaluate_settles h hj hf).mp (hs _ hf rfl)
    · intro ha f hf hc
      obtain ⟨job, hj, hi⟩ := evaluate_ids (h.due now) hf
      obtain rfl : f = ⟨job.id, true⟩ := by
        obtain ⟨k, c⟩ := f
        cases hc
        cases hi
        rfl
      exact (evaluate_settles h hj hf).mpr (ha job hj hf)

lemma Keys.append (h : Keys d) (ho : jobTable.occupied jobClash job d = false) :
    Keys (jobTable.append job d) := by
  obtain ⟨hfree, hclash⟩ := Bool.or_eq_false_iff.mp ho
  have hid : ∀ x ∈ d.jobs, x.id ≠ job.id :=
    lookup_none.mp (Option.isNone_iff_eq_none.mp (Option.isSome_eq_false_iff.mp hfree))
  have hname : ∀ x ∈ d.jobs, x.name ≠ job.name := fun x hx hn => by
    have hc := List.any_eq_false.mp hclash x hx
    exact hc (decide_eq_true ⟨hid x hx, hn⟩)
  have hrows : (jobTable.append job d).jobs = d.jobs ++ [job] := rfl
  constructor
  · rw [hrows, List.map_append, List.map_singleton, List.nodup_append_comm, List.singleton_append,
      List.nodup_cons]
    refine ⟨fun hm => ?_, h.ids⟩
    obtain ⟨x, hx, he⟩ := List.mem_map.mp hm
    exact hid x hx he
  · rw [hrows, List.map_append, List.map_singleton, List.nodup_append_comm, List.singleton_append,
      List.nodup_cons]
    refine ⟨fun hm => ?_, h.names⟩
    obtain ⟨x, hx, he⟩ := List.mem_map.mp hm
    exact hname x hx he

lemma Keys.put {new : Job} (h : Keys d) (hi : new.id = job.id)
    (hc : jobClash d new = false) : Keys (jobTable.put job.id new d) := by
  have hrows : (jobTable.put job.id new d).jobs = replace Job.id job.id new d.jobs := rfl
  constructor
  · rw [hrows, replace_map_key hi]
    exact h.ids
  · rw [hrows]
    apply replace_map_nodup h.ids h.names
    intro x hx hk hn
    exact List.any_eq_false.mp hc x hx (decide_eq_true ⟨hi ▸ hk, hn⟩)

lemma keys_stable : Stable Keys where
  append := Keys.append
  put h _ hi hc := h.put hi hc
  drop {d k} h := by
    have hrows : (jobTable.drop k d).jobs = d.jobs.filter fun x => x.id ≠ k := rfl
    exact ⟨hrows ▸ h.ids.sublist (List.filter_sublist.map _),
      hrows ▸ h.names.sublist (List.filter_sublist.map _)⟩

lemma keys_step {a : StoreAction} (h : Keys s) (ht : storeStep E s a = some t) : Keys t := by
  cases a with
  | call c =>
    obtain rfl : perform E s c = t := Option.some_inj.mp ht
    exact perform_stable keys_stable h c
  | evaluate now w =>
    obtain rfl : (evaluateSessionJobs E now w s).2 = t := Option.some_inj.mp ht
    exact evaluate_keeps keys_stable (fun hd => ⟨hd.ids, hd.names⟩) false _ ⟨h, h⟩

theorem settles_iff (E : Environment) (d : Database) (as : List StoreAction) :
    Along (storeStep E) (Settles E) (withoutJobs d) as ↔
      Along (storeStep E) (fun s a _ => AllAdvance E s a) (withoutJobs d) as := by
  have hd : Keys (withoutJobs d) := ⟨.nil, .nil⟩
  constructor
  · exact along_of_invariant (fun s a t hs ht hp => ⟨keys_step hs ht, (step_settles hs ht).mp hp⟩) hd
  · exact along_of_invariant (fun s a t hs ht hp => ⟨keys_step hs ht, (step_settles hs ht).mpr hp⟩) hd

def nightlyData : JobCreate :=
  ⟨"nightly", 1, some 7, none, none, "CRON", some "0 2 * * *", "UTC", "ALLOW_CONCURRENT", 0, 60, none⟩

def toOneTime : JobUpdate :=
  ⟨none, none, some "ONE_TIME", none, none, none, none, none, none⟩

def createdJob : Job :=
  { nightly with
    scheduleType := "CRON"
    cronExpression := some "0 2 * * *"
    concurrencyPolicy := "ALLOW_CONCURRENT"
    nextRunAt := some 7200000000 }

def created : Database := { oneNotebook with jobs := [createdJob] }

def takenAway : List StoreAction :=
  [.call (.createJob ⟨2, 0⟩ nightlyData), .call (.updateJob ⟨3, 0⟩ 2 toOneTime),
    .evaluate 7200000000 fun _ => willing]

lemma created_step :
    storeStep world oneNotebook (.call (.createJob ⟨2, 0⟩ nightlyData)) = some created := by
  have hs (s : Session Database) : scheduled world ⟨2, 0⟩ nightlyData.scheduleType
      nightlyData.cronExpression nightlyData.timezone none s = (.ok (some 7200000000), s) := by
    obtain ⟨t, ht, hi⟩ : ∃ t, nextRun world 0 "0 2 * * *" "UTC" none = .ok (some t) ∧
        t.instant = 7200000000 :=
      (nextRun_reaches rfl rfl (by decide) rfl _).mpr (Or.inl utc_first)
    change (ofExcept (instantOf (nextRun world 0 "0 2 * * *" "UTC" none)) : Tx Database JobFailure _) s = _
    rw [ht, ← hi]
    rfl
  have hc : createJob world ⟨2, 0⟩ nightlyData (.open oneNotebook) =
      (.ok createdJob, ⟨oneNotebook, created⟩) := by
    have hn : notebookTable.getById (ε := JobFailure) nightlyData.notebookId (.open oneNotebook) =
      (.ok (some notebook), .open oneNotebook) := rfl
    have hz : requireTimezone world nightlyData.timezone (.open oneNotebook) =
      (.ok (), .open oneNotebook) := rfl
    rw [createJob, bind_ok hn]
    exact (bind_ok hz).trans (bind_ok (hs _))
  rw [storeStep, perform, request, inSession_committed, bind_ok hc]
  rfl

/-- It is triggered at two o'clock, and then again by every evaluation to come. -/
theorem one_time_fires_again :
    exec (storeStep world) (withoutJobs oneNotebook) takenAway =
        some (evaluateSessionJobs world 7200000000 (fun _ => willing)
          (perform world created (.updateJob ⟨3, 0⟩ 2 toOneTime))).2 ∧
      (evaluateSessionJobs world 7200000000 (fun _ => { willing with env := ⟨4, 7200000000⟩ })
        (evaluateSessionJobs world 7200000000 (fun _ => willing)
          (perform world created (.updateJob ⟨3, 0⟩ 2 toOneTime))).2).1 = [⟨2, true⟩] ∧
      ¬ Along (storeStep world) (Settles world) (withoutJobs oneNotebook) takenAway := by
  have he : withoutJobs oneNotebook = oneNotebook := rfl
  refine ⟨?_, rfl, fun h => ?_⟩
  · rw [he, takenAway, exec_cons created_step]
    rfl
  · rw [he, takenAway, along_cons] at h
    obtain ⟨-, hr⟩ := h created created_step
    obtain ⟨-, hr⟩ := along_cons.mp hr _ rfl
    obtain ⟨hs, -⟩ := along_cons.mp hr _ rfl
    obtain ⟨row, hrow, hdue, -⟩ := hs ⟨2, true⟩ List.mem_cons_self rfl
    cases hrow
    cases hdue

end NotebookExecution.Jobs
