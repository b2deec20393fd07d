import NotebookExecution.Jobs.Evaluation
import NotebookExecution.Jobs.Overlap

/-! Whether the history follows the runs. A trigger enters the history as RUNNING when its run is
done, and no operation ever moves the row on. -/

namespace NotebookExecution.Jobs

open Library.Transaction Library.Table Library.Runs Store JobManager JobScheduler JobSystem

variable {E : Environment} {i : ℕ} {d d' : Database} {s t : JobSystem} {job : Job}

structure FollowsRuns (s : JobSystem) : Prop where
  rows : ∀ h ∈ s.committed.jobExecutions, isOpen h = true →
    ∃ t, s.triggers[h.id]? = some t ∧ t.executing = true
  admits : ∀ job ∈ s.committed.jobs, job.status = .active → preventsOverlap job = true →
    (∀ t ∈ s.triggers, t.jobId = job.id → t.ended = true) →
    checkOverlap job (.open s.committed) = (.ok (), .open s.committed)

def completes (E : Environment) (s : JobSystem) : Action → Bool
  | .move i .commit =>
    match s.triggers[i]? with
    | some ⟨_, origin, .recorded job executionId now⟩ =>
      (finish E origin ⟨i, now⟩ job executionId (.open s.committed)).1.isOk
    | _ => false
  | _ => false

def HasHistory (l : List JobExecution) (s : Session Database) : Prop := s.view.jobExecutions = l

lemma put_history {l : List JobExecution} (s : Session Database) (job new : Job)
    (hs : HasHistory l s) : HasHistory l { s with view := jobTable.put job.id new s.view } := hs

lemma recordExecution_history {e : Env} {executionId : String} {triggerType : TriggerType}
    {row : JobExecution} {u : Session Database}
    (h : recordExecution e job executionId triggerType (.open d) = (.ok row, u)) :
    u.view.jobExecutions =
      d.jobExecutions ++ [JobExecutionRepository.row e job.id executionId triggerType .running e.now] := by
  obtain ⟨r, v, hr, hk⟩ := bind_ok_inv h
  have hv : v.view.jobExecutions =
      d.jobExecutions ++ [JobExecutionRepository.row e job.id executionId triggerType .running e.now] := by
    cases ho : jobExecutionTable.occupied (fun _ _ => false)
        (JobExecutionRepository.row e job.id executionId triggerType .running e.now) d with
    | true =>
      rw [JobExecutionRepository.create, TableOf.insert_refused _ (s := .open d) ho] at hr
      cases hr
    | false =>
      rw [JobExecutionRepository.create, TableOf.insert_accepted _ (s := .open d) ho] at hr
      cases hr
      rfl
  obtain ⟨o, q, hq, hp⟩ := bind_ok_inv hk
  have hw := update_keeps (HasHistory _) (fun s job new hs _ _ _ => put_history s job new hs) e job.id
    { lastRunAt := some e.now } v hv
  rw [hq] at hw
  cases hp
  exact hw

lemma finish_history {origin : Origin} {e : Env} {executionId : String} {row : JobExecution}
    {u : Session Database} (h : finish E origin e job executionId (.open d) = (.ok row, u)) :
    u.view.jobExecutions = d.jobExecutions ++
      [JobExecutionRepository.row e job.id executionId origin.triggerType .running e.now] := by
  obtain ⟨r, v, hr, hk⟩ := bind_ok_inv h
  have hv := recordExecution_history hr
  cases origin with
  | request =>
    cases hk
    exact hv
  | evaluation now job' =>
    obtain ⟨o, q, hq, hp⟩ := bind_ok_inv hk
    have hw := reschedule_keeps (HasHistory _) (fun s job new hs _ _ _ => put_history s job new hs) E now
      e job v hv
    rw [hq] at hw
    cases hp
    exact hw

lemma perform_history (c : JobCall) : (perform E d c).jobExecutions = d.jobExecutions :=
  perform_stable (P := fun x => x.jobExecutions = d.jobExecutions)
    ⟨fun h _ => h, fun h _ _ _ => h, fun h => h⟩ rfl c

inductive Writes (E : Environment) (s : JobSystem) (a : Action) (t : JobSystem) : Prop
  | nothing (still : completes E s a = false)
      (history : t.committed.jobExecutions = s.committed.jobExecutions)
  | row (i : ℕ) (u : Trigger) (row r : JobExecution) (done : completes E s a = true)
      (own : r.id = i) (status : r.status = .running)
      (history : t.committed.jobExecutions = s.committed.jobExecutions ++ [r])
      (here : t.triggers[i]? = some u) (returned : u.phase = .returned row)

lemma step_writes {a : Action} (ht : step E s a = some t) : Writes E s a t := by
  cases a with
  | call c =>
    cases ht
    exact .nothing rfl (perform_history c)
  | run k =>
    cases ht
    exact .nothing rfl rfl
  | evaluate now =>
    cases ht
    exact .nothing rfl rfl
  | fireNext n =>
    obtain ⟨now, job, rest, current, -, rfl⟩ := fireNext_step ht
    exact .nothing rfl rfl
  | move i m =>
    obtain ⟨⟨k, origin, q⟩, p, d', hu, hm, rfl⟩ := move_step ht
    have hi : i < s.triggers.length := (List.getElem?_eq_some_iff.mp hu).1
    cases m with
    | commit =>
      cases q <;> try cases hm
      next job executionId now =>
        obtain ⟨r, v, hf⟩ : ∃ r v,
            finish E origin ⟨i, now⟩ job executionId (.open s.committed) = (r, v) := ⟨_, _, rfl⟩
        simp only [Jobs.move, hf] at hm
        cases r with
        | ok row =>
          cases hm
          have hdone : completes E s (.move i .commit) = true := by
            simp only [completes, hu, hf]
            rfl
          exact .row i _ row _ hdone rfl rfl (finish_history hf)
            (List.getElem?_set_self hi) rfl
        | error err =>
          cases hm
          refine .nothing ?_ rfl
          simp only [completes, hu, hf]
          rfl
    | _ =>
      cases q <;> cases hm
      exact .nothing rfl rfl

lemma returned_stays {a : Action} {j : ℕ} {u : Trigger} {row : JobExecution}
    (ht : step E s a = some t) (hu : s.triggers[j]? = some u) (hr : u.phase = .returned row) :
    t.triggers[j]? = some u := by
  have happend (x : Trigger) : (s.triggers ++ [x])[j]? = some u := by
    rw [List.getElem?_append_left (List.getElem?_eq_some_iff.mp hu).1, hu]
  cases a with
  | call c =>
    cases ht
    exact hu
  | run k =>
    cases ht
    exact happend _
  | evaluate now =>
    cases ht
    exact hu
  | fireNext n =>
    obtain ⟨now, job, rest, current, -, rfl⟩ := fireNext_step ht
    exact happend _
  | move i m =>
    obtain ⟨v, p, d', hv, hm, rfl⟩ := move_step ht
    have hij : i ≠ j := by
      rintro rfl
      obtain rfl : u = v := Option.some_inj.mp (hu.symm.trans hv)
      obtain ⟨k, origin, q⟩ := u
      obtain rfl : q = .returned row := hr
      cases m <;> cases hm
    exact (List.getElem?_set_ne hij).trans hu

def Lingers (s : JobSystem) : Prop :=
  ∀ h ∈ s.committed.jobExecutions, h.status = .running ∧
    ∃ u row, s.triggers[h.id]? = some u ∧ u.phase = .returned row

lemma lingers_step {a : Action} (hs : Lingers s) (ht : step E s a = some t) : Lingers t := by
  have hold (h : JobExecution) (hh : h ∈ s.committed.jobExecutions) : h.status = .running ∧
      ∃ u row, t.triggers[h.id]? = some u ∧ u.phase = .returned row := by
    obtain ⟨hrun, u, row, hu, hr⟩ := hs h hh
    exact ⟨hrun, u, row, returned_stays ht hu hr, hr⟩
  intro h hh
  cases step_writes ht with
  | nothing still history =>
    rw [history] at hh
    exact hold h hh
  | row i u row r done own status history here returned =>
    rw [history] at hh
    cases List.mem_append.mp hh with
    | inl hin => exact hold h hin
    | inr hnew =>
      obtain rfl : h = r := List.mem_singleton.mp hnew
      exact ⟨status, u, row, own ▸ here, returned⟩

lemma followsRuns_iff (hs : Lingers s) : FollowsRuns s ↔ s.committed.jobExecutions = [] := by
  constructor
  · intro hf
    rw [List.eq_nil_iff_forall_not_mem]
    intro h hh
    obtain ⟨hrun, u, row, hu, hr⟩ := hs h hh
    have hopen : isOpen h = true := decide_eq_true (Or.inl hrun)
    obtain ⟨v, hv, he⟩ := hf.rows h hh hopen
    obtain rfl : u = v := Option.some_inj.mp (hu.symm.trans hv)
    rw [Trigger.executing, hr] at he
    cases he
  · intro hn
    refine ⟨fun h hh => ?_, fun job _ _ _ _ => checkOverlap_free fun ho => ?_⟩
    · rw [hn] at hh
      cases hh
    · have hnone : JobExecutionRepository.historyOf job.id s.committed = [] := by
        rw [JobExecutionRepository.historyOf, hn]
        rfl
      have hany := ho.2
      rw [show (Session.open s.committed).view = s.committed from rfl, hnone] at hany
      cases hany

theorem followsRuns_along (E : Environment) (d : Database) (as : List Action) :
    Along (step E) (fun _ _ t => FollowsRuns t) (.start (withoutJobs d)) as ↔
      Along (step E) (fun s a _ => completes E s a = false) (.start (withoutJobs d)) as := by
  have hlingers : Lingers (.start (withoutJobs d)) := fun h hh => by cases hh
  refine along_iff_of_invariant (fun s a t => lingers_step) (fun s a t hs hf ht => ?_) hlingers
    ((followsRuns_iff hlingers).mpr rfl)
  rw [followsRuns_iff (lingers_step hs ht)]
  have hnil := (followsRuns_iff hs).mp hf
  cases step_writes ht with
  | nothing still history => exact iff_of_true (history.trans hnil) still
  | row i u row r done own status history here returned =>
    refine iff_of_false (fun h => ?_) (by rw [done]; exact Bool.noConfusion)
    rw [history] at h
    exact List.append_ne_nil_of_right_ne_nil _ (List.cons_ne_nil r []) h

def onceData : JobCreate :=
  ⟨"nightly", 1, some 7, none, none, "ONE_TIME", none, "UTC", "PREVENT_OVERLAP", 0, 60, none⟩

def onceAndAgain : List Action :=
  [.call (.createJob ⟨2, 0⟩ onceData), .run 2, .move 0 .load, .move 0 .check,
    .move 0 (.openSession none), .move 0 (.answer (.ok "exec-1")), .move 0 (.record 1000),
    .move 0 .commit, .run 2, .move 1 .load, .move 1 .check]

def lingeringRow : JobExecution := ⟨0, 2, "exec-1", .running, .manual, some 1000, none, 1000⟩

/-- Its run is done, its row is RUNNING, and it is refused. -/
theorem once_and_never_again :
    ∃ t, exec (step world) (.start (withoutJobs oneNotebook)) onceAndAgain = some t ∧
      t.committed.jobs.map (·.status) = [.active] ∧
      t.committed.jobExecutions = [lingeringRow] ∧
      t.triggers.map (·.phase) = [.returned lingeringRow, .raised (.concurrency "2")] ∧
      ¬ FollowsRuns t := by
  refine ⟨_, rfl, rfl, rfl, rfl, fun h => ?_⟩
  obtain ⟨u, hu, he⟩ := h.rows lingeringRow List.mem_cons_self rfl
  cases hu
  cases he

end NotebookExecution.Jobs
