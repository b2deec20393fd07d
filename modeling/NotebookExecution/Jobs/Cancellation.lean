import NotebookExecution.Jobs.Effects
import NotebookExecution.Jobs.History

/-! Whether a run of a job can be cancelled. The trigger and the cancellation are served by managers
of their own, and a registry is known to its own manager only. -/

namespace NotebookExecution.Jobs

open Library.Transaction Library.Table Library.Runs Store JobManager JobSystem

variable {E : Environment} {e : Env} {d : Database} {k : Uuid} {i : ℕ} {executionId : String}
  {registry : Registry} {s t : JobSystem}

def Cancellable (registry : Registry) (executionId : String) : Prop :=
  ∃ status, registry executionId = some status ∧ Execution.ExecutionManager.cancellable status = true

lemma cancelExecution_ok : cancelExecution registry executionId = .ok () ↔
    Cancellable registry executionId := by
  rw [cancelExecution, Cancellable]
  cases registry executionId with
  | none => simp
  | some status =>
    cases hc : Execution.ExecutionManager.cancellable status with
    | true => simp [hc]
    | false => simp [hc]

lemma updateStatus_one (now : Instant) {h : JobExecution} {s : Session Database}
    (hf : s.view.jobExecutions.filter (fun h => h.executionId = executionId) = [h]) :
    ∃ row u, JobExecutionRepository.updateStatus executionId .cancelled now s = (.ok (some row), u) := by
  have hm : h ∈ s.view.jobExecutions := List.mem_of_mem_filter (hf ▸ List.mem_singleton_self h)
  obtain ⟨x, hx⟩ : ∃ x, jobExecutionTable.find h.id s.view = some x := by
    apply Option.isSome_iff_exists.mp
    rw [Option.isSome_iff_ne_none]
    intro hn
    exact lookup_none.mp hn h hm rfl
  obtain ⟨row, u, hu⟩ : ∃ row u, jobExecutionTable.update (ε := JobFailure) (fun _ _ => false)
      .integrityError h.id (fun h => { h with status := .cancelled, finishedAt := some now }) id s =
        (.ok (some row), u) := ⟨_, _, jobExecutionTable.update_settled hx rfl⟩
  refine ⟨row, u, ?_⟩
  rw [JobExecutionRepository.updateStatus, read_bind, hf]
  exact hu

theorem cancel_returns_iff (registry : Registry) (e : Env) (k : Uuid) (executionId : String)
    (d : Database) :
    (∃ row, (cancelJobExecution e registry k executionId (.open d)).1 = .ok row) ↔
      (∃ job, jobTable.find k d = some job) ∧ Cancellable registry executionId ∧
        ∃ h, d.jobExecutions.filter (fun h => h.executionId = executionId) = [h] := by
  cases hj : jobTable.find k d with
  | none =>
    have hg : getJob k (.open d) = (.error (.notFound (toString k)), .open d) := by
      simp only [getJob, JobRepository.getById, TableOf.getById_bind, Session.open, hj, throw_apply]
    rw [cancelJobExecution, bind_error hg]
    simp
  | some job =>
    have hg : getJob k (.open d) = (.ok job, .open d) := getJob_found hj
    rw [cancelJobExecution, bind_ok hg]
    cases hc : cancelExecution registry executionId with
    | error err =>
      have hn : ¬ Cancellable registry executionId := by
        rw [← cancelExecution_ok, hc]
        intro h
        cases h
      simp [hn]
    | ok u =>
      have hy : Cancellable registry executionId := cancelExecution_ok.mp hc
      simp only [hy, true_and, Option.some.injEq, exists_eq']
      cases hf : d.jobExecutions.filter (fun h => h.executionId = executionId) with
      | nil =>
        have hu : JobExecutionRepository.updateStatus executionId .cancelled e.now (.open d) =
            (.ok none, .open d) := by
          rw [JobExecutionRepository.updateStatus, read_bind]
          simp only [Session.open, hf, pure_apply]
        rw [bind_ok hu]
        simp
      | cons h rest =>
        cases rest with
        | nil =>
          obtain ⟨row, u, hu⟩ := updateStatus_one e.now (s := .open d) hf
          rw [bind_ok hu]
          exact iff_of_true ⟨row, rfl⟩ ⟨h, rfl⟩
        | cons h' rest =>
          have hu : JobExecutionRepository.updateStatus executionId .cancelled e.now (.open d) =
              (.error .multipleResults, .open d) := by
            rw [JobExecutionRepository.updateStatus, read_bind]
            simp only [Session.open, hf, throw_apply]
          rw [bind_error hu]
          simp

inductive Running (s : JobSystem) (k : Uuid) (executionId : String) (i : ℕ) : Prop
  | inProgress (u : Trigger) (here : s.triggers[i]? = some u) (job : u.jobId = k)
      (executing : u.executing = true)
  | recorded (h : JobExecution) (stored : h ∈ s.committed.jobExecutions) (own : h.id = i)
      (job : h.jobId = k) (execution : h.executionId = executionId) (running : h.status = .running)

structure Cancelled (s : JobSystem) (i : ℕ) : Prop where
  stopped : ∀ u, s.triggers[i]? = some u → u.executing = false
  marked : ∀ h ∈ s.committed.jobExecutions, h.id = i → h.status = .cancelled

def CancelsRun (s : JobSystem) (a : Action) (t : JobSystem) : Prop :=
  ∀ e k executionId i, a = .call (.cancelJobExecution e k executionId) → Running s k executionId i →
    (∃ row, (cancelJobExecution e newRegistry k executionId (.open s.committed)).1 = .ok row) ∧
      Cancelled t i

structure Refuses (s : JobSystem) (a : Action) (t : JobSystem) : Prop where
  raises : ∀ e k executionId, a = .call (.cancelJobExecution e k executionId) →
    ∃ err, (cancelJobExecution e newRegistry k executionId (.open s.committed)).1 = .error err
  unchanged : ∀ e k executionId, a = .call (.cancelJobExecution e k executionId) → t = s
  goesOn : ∀ e k executionId i, a = .call (.cancelJobExecution e k executionId) →
    Running s k executionId i → ¬ Cancelled t i

lemma Running.not_cancelled (h : Running s k executionId i) : ¬ Cancelled s i := by
  intro hc
  cases h with
  | inProgress u here job executing =>
    have hstop := hc.stopped u here
    rw [executing] at hstop
    cases hstop
  | recorded h stored own job execution running =>
    have hmark := hc.marked h stored own
    rw [running] at hmark
    cases hmark

lemma new_raises (e : Env) (k : Uuid) (executionId : String) (d : Database) :
    ∃ err, (cancelJobExecution e newRegistry k executionId (.open d)).1 = .error err := by
  cases hr : (cancelJobExecution e newRegistry k executionId (.open d)).1 with
  | error err => exact ⟨err, rfl⟩
  | ok row =>
    obtain ⟨-, ⟨status, hs, -⟩, -⟩ := (cancel_returns_iff newRegistry e k executionId d).mp ⟨row, hr⟩
    cases hs

theorem cancellations_refused (E : Environment) (d : Database) (as : List Action) :
    Along (step E) Refuses (.start d) as := by
  apply along_of_step
  intro s a t ht
  have hsame : ∀ e k executionId, a = .call (.cancelJobExecution e k executionId) → t = s := by
    rintro e k executionId rfl
    rw [step, perform_cancelJobExecution] at ht
    exact (Option.some_inj.mp ht).symm
  refine ⟨?_, hsame, ?_⟩
  · rintro e k executionId -
    exact new_raises e k executionId s.committed
  · intro e k executionId i ha hr
    rw [hsame e k executionId ha]
    exact hr.not_cancelled

def onceCancelled : List Action :=
  [.call (.createJob ⟨2, 0⟩ onceData), .run 2, .move 0 .load, .move 0 .check,
    .move 0 (.openSession none), .move 0 (.answer (.ok "exec-1")), .move 0 (.record 1000),
    .move 0 .commit, .call (.cancelJobExecution ⟨3, 2000⟩ 2 "exec-1")]

theorem recorded_run_not_cancelled :
    ∃ t, exec (step world) (.start (withoutJobs oneNotebook)) onceCancelled = some t ∧
      t.committed.jobExecutions = [lingeringRow] ∧
      (cancelJobExecution ⟨3, 2000⟩ newRegistry 2 "exec-1" (.open t.committed)).1 =
        .error (.cancellation "2" "Execution task 'exec-1' not found.") ∧
      ¬ Along (step world) CancelsRun (.start (withoutJobs oneNotebook)) onceCancelled := by
  refine ⟨_, rfl, rfl, rfl, fun h => ?_⟩
  have he : onceCancelled = onceCancelled.take 8 ++ onceCancelled.drop 8 := rfl
  rw [he] at h
  have hr := h.drop rfl
  obtain ⟨hc, -⟩ := along_cons.mp hr _ rfl
  obtain ⟨⟨row, hrow⟩, -⟩ := hc _ _ _ 0 rfl (.recorded lingeringRow List.mem_cons_self rfl rfl rfl rfl)
  cases hrow

end NotebookExecution.Jobs
