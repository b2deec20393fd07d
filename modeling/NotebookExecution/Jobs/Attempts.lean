import NotebookExecution.Jobs.Effects
import NotebookExecution.Jobs.Firing
import NotebookExecution.Jobs.NotebookRuns

/-! Which attempts to run a job leave a row in its history. -/

namespace NotebookExecution.Jobs

open Library.Transaction Library.Table Library.Calendar Store JobManager JobScheduler

inductive Attempt
  | manual (jobId : Uuid)
  | scheduled (E : Environment) (now : Instant) (job : Job)

namespace Attempt

def jobId : Attempt → Uuid
  | .manual k => k
  | .scheduled _ _ job => job.id

def known : Attempt → Option Job
  | .manual _ => none
  | .scheduled _ _ job => some job

def perform (w : Outside) (d : Database) : Attempt → Database
  | .manual k => (request d (triggerJobExecution w none k .manual)).2
  | .scheduled E now job => (evaluateJobs E now (fun _ => w) false [job] (.open d)).2.committed

end Attempt

def Recorded (k : Uuid) (d d' : Database) : Prop :=
  ∃ row, row.jobId = k ∧ d'.jobExecutions = d.jobExecutions ++ [row]

structure GetsThrough (w : Outside) (job : Job) (d : Database) : Prop where
  session : w.session = none
  codeless : codeCells job.notebookId d = []
  answered : ∃ x, w.answers 0 = .ok x
  fresh : ∀ h ∈ d.jobExecutions, h.id ≠ w.env.uuid

def Reschedules (d : Database) : Attempt → Prop
  | .manual _ => True
  | .scheduled E now job => ∀ row, jobTable.find job.id d = some row → ∃ next, nextFrom E now row = .ok next

variable {E : Environment} {now : Instant} {w : Outside} {known : Option Job} {triggerType : TriggerType}
  {job row : Job} {d d' : Database} {k : Uuid}

lemma not_recorded : ¬ Recorded k d d := by
  rintro ⟨r, -, h⟩
  have hl := congrArg List.length h
  simp at hl

lemma passes_found (h : Passes known k job d) : ∃ row, jobTable.find k d = some row ∧ job = known.getD row := by
  obtain ⟨row, s, hg, hl⟩ := bind_ok_inv h.1
  obtain ⟨hf, rfl⟩ := getJob_inv hg
  dsimp only at hl
  split at hl
  · cases hl
  · cases hl
    exact ⟨row, hf, rfl⟩

lemma trigger_passed (h : Passes known k job d) (hs : w.session = none) :
    triggerJobExecution w known k triggerType (.open d) =
      (ofExcept (runNotebook w.answers job d).2 >>= fun x =>
        recordExecution w.env job x triggerType) (.open d) := by
  rw [triggerJobExecution, bind_ok h.1, bind_ok h.2, hs]
  rfl

lemma trigger_cases (w : Outside) (triggerType : TriggerType) (hn : (d.jobs.map Job.name).Nodup)
    (hr : jobTable.find job.id d = some row) (h : Passes known k job d) :
    (GetsThrough w job d ∧ ∃ r x, triggerJobExecution w known k triggerType (.open d) =
        (.ok r, ⟨d, stored w triggerType job row x d⟩)) ∨
      ¬ GetsThrough w job d ∧ ∃ err,
        triggerJobExecution w known k triggerType (.open d) = (.error err, .open d) := by
  cases hs : w.session with
  | some err =>
    refine Or.inr ⟨fun hr => ?_, err, trigger_session hs h⟩
    rw [hr.session] at hs
    cases hs
  | none =>
    rw [trigger_passed h hs]
    by_cases hc : codeCells job.notebookId d = []
    swap
    · rw [runNotebook_code hc]
      exact Or.inr ⟨fun hr => hc hr.codeless, _, rfl⟩
    rw [runNotebook_codeless hc]
    cases ha : w.answers 0 with
    | error err =>
      refine Or.inr ⟨fun hr => ?_, err, rfl⟩
      obtain ⟨x, hx⟩ := hr.answered
      rw [ha] at hx
      cases hx
    | ok x =>
      change _ ∧ (∃ r y, recordExecution w.env job x triggerType (.open d) = _) ∨
        _ ∧ ∃ err, recordExecution w.env job x triggerType (.open d) = _
      by_cases hf : ∀ h ∈ d.jobExecutions, h.id ≠ w.env.uuid
      · have ht : ¬ d.jobExecutions.any (fun h => h.id = w.env.uuid) = true := by
          simpa using hf
        exact Or.inl ⟨⟨hs, hc, ⟨x, ha⟩, hf⟩, _, x, recordExecution_stored hr (named_apart hn hr) ht⟩
      · have ht : d.jobExecutions.any (fun h => h.id = w.env.uuid) = true := by
          simpa using hf
        exact Or.inr ⟨fun hr => hf hr.fresh, _, recordExecution_taken ht⟩

lemma recorded_stored {x : String} : Recorded job.id d (stored w triggerType job row x d) := ⟨_, rfl, rfl⟩

lemma step_ok {s : Session Database} (h : fire E now w job (.open d) = (.ok (), s)) :
    (Attempt.scheduled E now job).perform w d = s.committed := by
  simp only [Attempt.perform, evaluateJobs, nameOf, h, if_false, Bool.false_eq_true]

lemma step_error {s : Session Database} {err : JobFailure} (h : fire E now w job (.open d) = (.error err, s)) :
    (Attempt.scheduled E now job).perform w d = s.committed := by
  simp only [Attempt.perform, evaluateJobs, nameOf, h, if_false, if_true, Bool.false_eq_true]

lemma manual_recorded (hn : (d.jobs.map Job.name).Nodup) (h : Passes none k job d) :
    Recorded k d ((Attempt.manual k).perform w d) ↔ GetsThrough w job d := by
  obtain ⟨row, hr, hj⟩ := passes_found h
  have hk : job.id = k := hj ▸ lookup_key hr
  change Recorded k d (request d (triggerJobExecution w none k .manual)).2 ↔ _
  rcases trigger_cases w .manual hn (hk ▸ hr) h with ⟨hg, r, x, ht⟩ | ⟨hg, err, ht⟩
  · rw [request_ok ht, ← hk]
    exact iff_of_true recorded_stored hg
  · rw [request_raises ht rfl]
    exact iff_of_false not_recorded hg

lemma scheduled_recorded (hn : (d.jobs.map Job.name).Nodup) (h : Passes (some job) job.id job d)
    (hr : jobTable.find job.id d = some row) :
    Recorded job.id d ((Attempt.scheduled E now job).perform w d) ↔
      GetsThrough w job d ∧ ∃ next, nextFrom E now row = .ok next := by
  rcases trigger_cases w .scheduled hn hr h with ⟨hg, r, x, ht⟩ | ⟨hg, err, ht⟩
  · have hs := reschedule_stored E now w x hr (named_apart hn hr)
    cases hnext : nextFrom E now row with
    | ok next =>
      rw [hnext] at hs
      have hf : fire E now w job (.open d) = (.ok (), .open (jobTable.put job.id (settledRow now w row next)
          (stored w .scheduled job row x d))) := by
        rw [fire, bind_ok ht, bind_ok hs]
        rfl
      rw [step_ok hf]
      exact iff_of_true ⟨_, rfl, rfl⟩ ⟨hg, next, rfl⟩
    | error err =>
      rw [hnext] at hs
      have hf : fire E now w job (.open d) = (.error err, ⟨d, stored w .scheduled job row x d⟩) := by
        rw [fire, bind_ok ht, bind_error hs]
      rw [step_error hf]
      refine iff_of_false not_recorded ?_
      rintro ⟨-, next, h⟩
      cases h
  · have hf : fire E now w job (.open d) = (.error err, .open d) := by
      rw [fire, bind_error ht]
    rw [step_error hf]
    exact iff_of_false not_recorded fun h => hg h.1

theorem attempt_recorded_iff (w : Outside) (a : Attempt) (job : Job) (d : Database)
    (hn : (d.jobs.map Job.name).Nodup) (h : Passes a.known a.jobId job d) :
    Recorded a.jobId d (a.perform w d) ↔ GetsThrough w job d ∧ Reschedules d a := by
  obtain ⟨row, hr, hj⟩ := passes_found h
  cases a with
  | manual k => exact (manual_recorded hn h).trans (and_iff_left trivial).symm
  | scheduled E now loaded =>
    cases hj
    refine (scheduled_recorded hn h hr).trans (and_congr_right fun _ => ?_)
    constructor
    · intro hnext y hy
      cases hr.symm.trans hy
      exact hnext
    · intro hnext
      exact hnext row hr

theorem codeless_recorded : Recorded 2 (withJob []) ((Attempt.manual 2).perform willing (withJob [])) :=
  (attempt_recorded_iff willing (.manual 2) nightly (withJob []) (by decide) ⟨rfl, rfl⟩).mpr
    ⟨⟨rfl, rfl, ⟨_, rfl⟩, fun h hh => (List.not_mem_nil hh).elim⟩, trivial⟩

def unwilling : Outside := ⟨some (.executionManager "no session"), fun _ => .ok "exec-1", ⟨3, 1000⟩⟩

/-- A code cell, whose source the trigger looks for under another name, and a session that does not come up. -/
theorem attempts_unrecorded :
    (Passes none 2 nightly (withJob oneCell) ∧
        ¬ Recorded 2 (withJob oneCell) ((Attempt.manual 2).perform willing (withJob oneCell))) ∧
      Passes none 2 nightly (withJob []) ∧
        ¬ Recorded 2 (withJob []) ((Attempt.manual 2).perform unwilling (withJob [])) := by
  refine ⟨⟨⟨rfl, rfl⟩, ?_⟩, ⟨rfl, rfl⟩, ?_⟩
  · rintro ⟨row, -, hrow⟩
    have hnone : [] = [row] := hrow
    cases hnone
  · rintro ⟨row, -, hrow⟩
    have hnone : [] = [row] := hrow
    cases hnone

end NotebookExecution.Jobs
