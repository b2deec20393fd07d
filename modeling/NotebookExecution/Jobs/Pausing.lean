import NotebookExecution.Jobs.Effects
import NotebookExecution.Jobs.Triggers

/-! Whether an evaluation respects a pause that another session commits while it goes through its
list. The list keeps the attributes it was loaded with, and the update after a trigger writes the next
run to the row as it is by then. -/

namespace NotebookExecution.Jobs

open Library.Transaction Library.Table Library.Runs Store JobManager JobScheduler JobSystem

variable {E : Environment} {e : Env} {d : Database} {job new : Job} {i : ℕ} {j k : Uuid}
  {s t : JobSystem}

def statusIn (k : Uuid) (d : Database) : Option JobStatus := (jobTable.find k d).map Job.status

def Origin.isEvaluation : Origin → Bool
  | .request => false
  | .evaluation _ _ => true

def Trigger.scheduledFor (k : Uuid) (t : Trigger) : Bool :=
  decide (t.jobId = k) && t.origin.isEvaluation && !t.ended

def attended (s : JobSystem) (k : Uuid) : Bool :=
  (s.evaluations.any fun ev => ev.rest.any fun job => job.id = k) || s.triggers.any (Trigger.scheduledFor k)

def undisturbed (s : JobSystem) : Action → Bool
  | .call (.pauseJob _ k) => !attended s k
  | _ => true

structure RespectsPause (s : JobSystem) (a : Action) (t : JobSystem) : Prop where
  begins : ∀ i m u v, a = .move i m → s.triggers[i]? = some u → t.triggers[i]? = some v →
    u.origin.isEvaluation = true → u.executing = false → v.executing = true →
    statusIn u.jobId s.committed ≠ some .paused
  updates : ∀ i u v row, a = .move i .commit → s.triggers[i]? = some u → t.triggers[i]? = some v →
    u.origin.isEvaluation = true → v.phase = .returned row →
    ∀ job, jobTable.find u.jobId t.committed = some job → job.status = .paused → job.nextRunAt = none

lemma statusIn_put (hf : jobTable.find k d = some job) (hi : new.id = k) :
    statusIn j (jobTable.put k new d) = if j = k then some new.status else statusIn j d := by
  by_cases hj : j = k
  · obtain rfl := hj
    rw [if_pos rfl, statusIn, jobTable.find_put_self hi hf, Option.map_some]
  · rw [if_neg hj, statusIn, jobTable.find_put_other hi hj, statusIn]

lemma statusIn_kept (hf : jobTable.find k d = some job) (hi : new.id = k)
    (hs : new.status = job.status) : statusIn j (jobTable.put k new d) = statusIn j d := by
  rw [statusIn_put hf hi]
  by_cases hj : j = k
  · rw [if_pos hj, hj, statusIn, hf, Option.map_some, hs]
  · rw [if_neg hj]

lemma update_statusIn {c : JobChanges} {s u : Session Database} {o : Option Job}
    (h : JobRepository.update e k c s = (.ok o, u)) (hc : c.status = none) :
    statusIn j u.view = statusIn j s.view := by
  cases hf : jobTable.find k s.view with
  | none =>
    have hr : JobRepository.update e k c s = (.ok none, s) := jobTable.update_missing hf
    cases hr.symm.trans h
    rfl
  | some job =>
    obtain ⟨-, rfl⟩ := jobTable.update_inv hf h
    apply statusIn_kept hf
    · exact (updated_id e c).trans (lookup_key hf)
    · exact (updated_status e c).trans (by rw [hc, Option.getD_none])

lemma recordExecution_statusIn {executionId : String} {triggerType : TriggerType} {row : JobExecution}
    {s u : Session Database}
    (h : recordExecution e job executionId triggerType s = (.ok row, u)) :
    statusIn j u.view = statusIn j s.view := by
  obtain ⟨r, v, hr, hk⟩ := bind_ok_inv h
  obtain ⟨o, q, hq, hp⟩ := bind_ok_inv hk
  cases hp
  rw [update_statusIn hq rfl]
  have hk : Keeps (fun x => statusIn j x.view = statusIn j s.view)
      (JobExecutionRepository.create
        (JobExecutionRepository.row e job.id executionId triggerType .running e.now)) :=
    jobExecutionTable.insert_keeps fun x hx _ => hx
  have hv := hk s rfl
  rw [hr] at hv
  exact hv

lemma finish_statusIn {origin : Origin} {executionId : String} {row : JobExecution}
    {u : Session Database} (h : finish E origin e job executionId (.open d) = (.ok row, u)) :
    statusIn j u.view = statusIn j d := by
  obtain ⟨r, v, hr, hk⟩ := bind_ok_inv h
  have hv : statusIn j v.view = statusIn j d := recordExecution_statusIn hr
  cases origin with
  | request =>
    cases hk
    exact hv
  | evaluation now known =>
    obtain ⟨o, q, hq, hp⟩ := bind_ok_inv hk
    cases hp
    obtain ⟨found, x, hx, hn⟩ := bind_ok_inv hq
    obtain rfl : v = x := congrArg Prod.snd hx
    obtain ⟨nextRun, y, hy, hm⟩ := bind_ok_inv hn
    obtain ⟨-, rfl⟩ := ofExcept_inv hy
    obtain ⟨row', z, hz, hw⟩ := bind_ok_inv hm
    cases hw
    rw [update_statusIn hz rfl, hv]

lemma perform_statusIn (c : JobCall) (h : statusIn k (perform E d c) = some .paused) :
    statusIn k d = some .paused ∨ ∃ e, c = .pauseJob e k := by
  have hc := performed E d c
  generalize perform E d c = d' at hc h
  cases hc with
  | idle c => exact Or.inl h
  | created hc =>
    rw [statusIn, jobTable.find_append] at h
    cases hf : jobTable.find k d with
    | some job =>
      rw [hf, Option.some_or] at h
      apply Or.inl
      rw [statusIn, hf]
      exact h
    | none =>
      rw [hf, Option.none_or] at h
      split at h
      · cases h
      · cases h
  | changed hu =>
    rw [statusIn_kept hu.found (changed_id hu.found) changed_status] at h
    exact Or.inl h
  | deleted j =>
    rw [statusIn] at h
    by_cases hk : k = j
    · rw [hk, jobTable.find_drop_self] at h
      cases h
    · rw [jobTable.find_drop_other hk] at h
      exact Or.inl h
  | @paused e j _ hf =>
    rw [statusIn_put hf (paused_id hf)] at h
    by_cases hk : k = j
    · rw [hk]
      exact Or.inr ⟨e, rfl⟩
    · rw [if_neg hk] at h
      exact Or.inl h
  | @resumed _ j _ _ hf _ =>
    rw [statusIn_put hf (resumed_id hf)] at h
    by_cases hk : k = j
    · rw [if_pos hk, resumed, updated_status] at h
      cases h
    · rw [if_neg hk] at h
      exact Or.inl h

lemma finish_keys {origin : Origin} {executionId : String} {row : JobExecution} {u : Session Database}
    (hd : Keys d) (h : finish E origin e job executionId (.open d) = (.ok row, u)) : Keys u.view := by
  have put (s : Session Database) (job new : Job) (hs : Keys s.view)
      (_ : jobTable.find job.id s.view = some job) (hi : new.id = job.id)
      (hc : jobClash s.view new = false) : Keys (jobTable.put job.id new s.view) := hs.put hi hc
  have hk : Keeps (fun s => Keys s.view) (finish E origin e job executionId) := by
    apply Keeps.bind
    · exact recordExecution_keeps _ put (fun s r hs => ⟨hs.ids, hs.names⟩) e job executionId _
    · intro r
      cases origin with
      | request => exact .pure r
      | evaluation now known => exact .bind (reschedule_keeps _ put E now e job) fun _ => .pure r
  have hv := hk (.open d) hd
  rw [h] at hv
  exact hv

lemma move_ended {u : Trigger} {m : Move} {r : Phase × Database} (h : move E i u d m = some r) :
    u.ended = false := by
  obtain ⟨jobId, origin, p⟩ := u
  cases m <;> cases p <;> first | rfl | cases h

lemma move_writes {u : Trigger} {m : Move} {p : Phase} {d' : Database}
    (h : move E i u d m = some (p, d')) :
    d' = d ∨ ∃ job executionId now row v,
      finish E u.origin ⟨i, now⟩ job executionId (.open d) = (.ok row, v) ∧ d' = v.view := by
  obtain ⟨jobId, origin, q⟩ := u
  cases m with
  | commit =>
    cases q <;> try cases h
    next job executionId now =>
      obtain ⟨r, v, hf⟩ : ∃ r v, finish E origin ⟨i, now⟩ job executionId (.open d) = (r, v) := ⟨_, _, rfl⟩
      simp only [move, hf] at h
      cases r with
      | ok row =>
        cases h
        exact Or.inr ⟨job, executionId, now, row, v, hf, rfl⟩
      | error err =>
        cases h
        exact Or.inl rfl
  | _ =>
    cases q <;> cases h
    exact Or.inl rfl

lemma step_keys {a : Action} (hs : Keys s.committed) (h : step E s a = some t) : Keys t.committed := by
  cases a with
  | call c =>
    cases h
    exact perform_stable keys_stable hs c
  | run jobId =>
    cases h
    exact hs
  | evaluate now =>
    cases h
    exact hs
  | fireNext n =>
    obtain ⟨now, job, rest, current, -, rfl⟩ := fireNext_step h
    exact hs
  | move i m =>
    obtain ⟨u, p, d', -, hm, rfl⟩ := move_step h
    cases move_writes hm with
    | inl hsame =>
      obtain rfl : d' = s.committed := hsame
      exact hs
    | inr hw =>
      obtain ⟨job, executionId, now, row, v, hf, rfl⟩ := hw
      exact finish_keys hs hf

lemma step_statusIn {a : Action} (h : step E s a = some t)
    (hp : statusIn k t.committed = some .paused) :
    statusIn k s.committed = some .paused ∨ ∃ e, a = .call (.pauseJob e k) := by
  cases a with
  | call c =>
    cases h
    cases perform_statusIn c hp with
    | inl hold => exact Or.inl hold
    | inr hc =>
      obtain ⟨e, rfl⟩ := hc
      exact Or.inr ⟨e, rfl⟩
  | run jobId =>
    cases h
    exact Or.inl hp
  | evaluate now =>
    cases h
    exact Or.inl hp
  | fireNext n =>
    obtain ⟨now, job, rest, current, -, rfl⟩ := fireNext_step h
    exact Or.inl hp
  | move i m =>
    obtain ⟨u, p, d', -, hm, rfl⟩ := move_step h
    cases move_writes hm with
    | inl hsame =>
      obtain rfl : d' = s.committed := hsame
      exact Or.inl hp
    | inr hw =>
      obtain ⟨job, executionId, now, row, v, hf, rfl⟩ := hw
      rw [finish_statusIn hf] at hp
      exact Or.inl hp

lemma attended_iff : attended s k = true ↔
    (∃ ev ∈ s.evaluations, ∃ job ∈ ev.rest, job.id = k) ∨ ∃ u ∈ s.triggers, u.scheduledFor k = true := by
  simp only [attended, Bool.or_eq_true, List.any_eq_true, decide_eq_true_eq]

lemma scheduledFor_iff {u : Trigger} : u.scheduledFor k = true ↔
    u.jobId = k ∧ u.origin.isEvaluation = true ∧ u.ended = false := by
  simp only [Trigger.scheduledFor, Bool.and_eq_true, decide_eq_true_eq, Bool.not_eq_true', and_assoc]

lemma step_attended {a : Action} (h : step E s a = some t) (ha : attended t k = true) :
    attended s k = true ∨
      ∃ now, a = .evaluate now ∧ t.committed = s.committed ∧ ∃ job ∈ dueJobs now s.committed, job.id = k := by
  cases a with
  | call c =>
    cases h
    exact Or.inl ha
  | run jobId =>
    cases h
    apply Or.inl
    rw [attended_iff] at ha ⊢
    apply ha.imp_right
    rintro ⟨u, hu, hk⟩
    cases List.mem_append.mp hu with
    | inl hm => exact ⟨u, hm, hk⟩
    | inr hnew =>
      rw [List.mem_singleton.mp hnew, scheduledFor_iff] at hk
      cases hk.2.1
  | evaluate now =>
    cases h
    rw [attended_iff] at ha
    rcases ha with ⟨ev, hev, job, hj, hk⟩ | hu
    · cases List.mem_append.mp hev with
      | inl hm => exact Or.inl (attended_iff.mpr (Or.inl ⟨ev, hm, job, hj, hk⟩))
      | inr hnew =>
        rw [List.mem_singleton.mp hnew] at hj
        exact Or.inr ⟨now, rfl, rfl, job, hj, hk⟩
    · exact Or.inl (attended_iff.mpr (Or.inr hu))
  | fireNext n =>
    obtain ⟨now, job, rest, current, hn, rfl⟩ := fireNext_step h
    have hmem : (⟨now, job :: rest, current⟩ : Evaluation) ∈ s.evaluations := List.mem_of_getElem? hn
    apply Or.inl
    rw [attended_iff] at ha ⊢
    rcases ha with ⟨ev, hev, x, hx, hk⟩ | ⟨u, hu, hk⟩
    · cases List.mem_or_eq_of_mem_set hev with
      | inl hm => exact Or.inl ⟨ev, hm, x, hx, hk⟩
      | inr he =>
        rw [he] at hx
        exact Or.inl ⟨_, hmem, x, List.mem_cons_of_mem _ hx, hk⟩
    · cases List.mem_append.mp hu with
      | inl hm => exact Or.inr ⟨u, hm, hk⟩
      | inr hnew =>
        rw [List.mem_singleton.mp hnew, scheduledFor_iff] at hk
        exact Or.inl ⟨_, hmem, job, List.mem_cons_self, hk.1⟩
  | move i m =>
    obtain ⟨u, p, d', hu, hm, rfl⟩ := move_step h
    apply Or.inl
    rw [attended_iff] at ha ⊢
    apply ha.imp_right
    rintro ⟨v, hv, hk⟩
    cases List.mem_or_eq_of_mem_set hv with
    | inl hin => exact ⟨v, hin, hk⟩
    | inr he =>
      rw [he, scheduledFor_iff] at hk
      exact ⟨u, List.mem_of_getElem? hu, scheduledFor_iff.mpr ⟨hk.1, hk.2.1, move_ended hm⟩⟩

structure Calm (s : JobSystem) : Prop where
  keys : Keys s.committed
  awake : ∀ k, attended s k = true → statusIn k s.committed ≠ some .paused

lemma calm_step {a : Action} (hs : Calm s) (hu : undisturbed s a = true) (h : step E s a = some t) :
    Calm t := by
  refine ⟨step_keys hs.keys h, fun k hk hp => ?_⟩
  cases step_attended h hk with
  | inl hold =>
    cases step_statusIn h hp with
    | inl hpaused => exact hs.awake k hold hpaused
    | inr hpause =>
      obtain ⟨e, rfl⟩ := hpause
      rw [undisturbed, hold] at hu
      cases hu
  | inr hnew =>
    obtain ⟨now, -, hc, job, hj, rfl⟩ := hnew
    obtain ⟨hm, hd⟩ := List.mem_filter.mp hj
    have hf : jobTable.find job.id s.committed = some job := lookup_of_mem hs.keys.ids hm
    rw [hc, statusIn, hf, Option.map_some, (due_iff.mp hd).1] at hp
    cases hp

lemma calm_respects {a : Action} (hs : Calm s) (h : step E s a = some t) : RespectsPause s a t := by
  have hawake {i : ℕ} {m : Move} {u : Trigger} (ha : a = .move i m) (hu : s.triggers[i]? = some u)
      (ho : u.origin.isEvaluation = true) : statusIn u.jobId s.committed ≠ some .paused := by
    rw [ha] at h
    obtain ⟨u', p, d', hu', hm, -⟩ := move_step h
    obtain rfl : u = u' := Option.some_inj.mp (hu.symm.trans hu')
    apply hs.awake
    rw [attended_iff]
    exact Or.inr ⟨u, List.mem_of_getElem? hu, scheduledFor_iff.mpr ⟨rfl, ho, move_ended hm⟩⟩
  constructor
  · intro i m u v ha hu _ ho _ _
    exact hawake ha hu ho
  · intro i u v row ha hu _ ho _ job hj hp
    have hpaused : statusIn u.jobId t.committed = some .paused := by
      rw [statusIn, hj, Option.map_some, hp]
    cases step_statusIn h hpaused with
    | inl hold => exact absurd hold (hawake ha hu ho)
    | inr hpause =>
      obtain ⟨e, he⟩ := hpause
      rw [ha] at he
      cases he

theorem pause_respected (E : Environment) (hd : Keys d) {as : List Action}
    (h : Along (step E) (fun s a _ => undisturbed s a = true) (.start d) as) :
    Along (step E) RespectsPause (.start d) as := by
  have hstart : Calm (.start d) := ⟨hd, fun k hk => by cases hk⟩
  apply along_of_invariant ?_ hstart h
  intro s a t hs ht hu
  exact ⟨calm_step hs hu ht, calm_respects hs ht⟩

def dueAtTwo : Database := { oneNotebook with jobs := [atTwo 2 "nightly"] }

def pausedInTheList : List Action :=
  [.evaluate 0, .call (.pauseJob ⟨3, 500⟩ 2), .fireNext 0, .move 0 .load, .move 0 .check,
    .move 0 (.openSession none), .move 0 (.answer (.ok "exec-1")), .move 0 (.record 1000)]

def pausedAfterwards : List Action :=
  [.evaluate 0, .fireNext 0, .move 0 .load, .move 0 .check,
    .move 0 (.openSession (some (.executionManager "Worker process failed to start."))),
    .call (.pauseJob ⟨3, 500⟩ 2)]

theorem paused_afterwards_respected :
    Along (step world) RespectsPause (.start dueAtTwo) pausedAfterwards :=
  pause_respected world ⟨by decide, by decide⟩ (by decide)

def pausedJob : Job := { atTwo 2 "nightly" with status := .paused, nextRunAt := none, updatedAt := 500 }

def midway : JobSystem :=
  ⟨{ oneNotebook with jobs := [pausedJob] },
    [⟨2, .evaluation 0 (atTwo 2 "nightly"), .recorded (atTwo 2 "nightly") "exec-1" 1000⟩],
    [⟨0, [], some 0⟩]⟩

def ranRow : JobExecution := ⟨0, 2, "exec-1", .running, .scheduled, some 1000, none, 1000⟩

def ranJob : Job := { pausedJob with lastRunAt := some 1000, updatedAt := 1000 }

def rescheduledJob : Job := { ranJob with nextRunAt := some 7200000000, lastRunAt := some 0 }

lemma midway_finish :
    finish world (.evaluation 0 (atTwo 2 "nightly")) ⟨0, 1000⟩ (atTwo 2 "nightly") "exec-1"
        (.open midway.committed) =
      (.ok ranRow, ⟨midway.committed, { oneNotebook with jobs := [rescheduledJob], jobExecutions := [ranRow] }⟩) := by
  have hr : recordExecution ⟨0, 1000⟩ (atTwo 2 "nightly") "exec-1" .scheduled (.open midway.committed) =
      (.ok ranRow, ⟨midway.committed, { oneNotebook with jobs := [ranJob], jobExecutions := [ranRow] }⟩) := rfl
  have hn : nextRunOf world 0 ranJob (some (.aware (utc.at 0))) = .ok (some 7200000000) :=
    twoOClock_next rfl rfl rfl
  have hs : reschedule world 0 ⟨0, 1000⟩ (atTwo 2 "nightly")
      ⟨midway.committed, { oneNotebook with jobs := [ranJob], jobExecutions := [ranRow] }⟩ =
      (.ok (), ⟨midway.committed, { oneNotebook with jobs := [rescheduledJob], jobExecutions := [ranRow] }⟩) := by
    have hg : JobRepository.getById (ε := JobFailure) 2
        ⟨midway.committed, { oneNotebook with jobs := [ranJob], jobExecutions := [ranRow] }⟩ =
      (.ok (some ranJob), ⟨midway.committed, { oneNotebook with jobs := [ranJob], jobExecutions := [ranRow] }⟩) := rfl
    apply (bind_ok hg).trans
    rw [Option.getD_some, hn]
    rfl
  exact (bind_ok hr).trans (bind_ok hs)

theorem paused_in_the_list_runs :
    (∃ t, exec (step world) (.start dueAtTwo) (pausedInTheList ++ [.move 0 .commit]) = some t ∧
      t.committed.jobs.map (fun job => (job.status, job.nextRunAt)) = [(.paused, some 7200000000)]) ∧
    ¬ Along (step world) RespectsPause (.start dueAtTwo) pausedInTheList := by
  have hm : exec (step world) (.start dueAtTwo) pausedInTheList = some midway := rfl
  constructor
  · have hc : move world 0 ⟨2, .evaluation 0 (atTwo 2 "nightly"), .recorded (atTwo 2 "nightly") "exec-1" 1000⟩
        midway.committed .commit =
        some (.returned ranRow, { oneNotebook with jobs := [rescheduledJob], jobExecutions := [ranRow] }) := by
      simp only [move, midway_finish]
    rw [exec_append hm, exec, step]
    simp only [midway, List.getElem?_cons_zero] at hc ⊢
    rw [hc]
    exact ⟨_, rfl, rfl⟩
  · intro h
    have he : pausedInTheList = pausedInTheList.take 5 ++ pausedInTheList.drop 5 := rfl
    rw [he] at h
    have hr := h.drop rfl
    obtain ⟨hb, -⟩ := along_cons.mp hr _ rfl
    exact hb.begins 0 _ _ _ rfl rfl rfl rfl rfl rfl rfl

end NotebookExecution.Jobs
