import NotebookExecution.Jobs.Manager

/-! What a trigger makes of a notebook: which codes it submits, and whether it returns. -/

namespace NotebookExecution.Jobs

open Library.Transaction Library.Table Store JobManager

variable {w : Outside} {known : Option Job} {k : Uuid} {triggerType : TriggerType} {job : Job}
  {d : Database}

def Passes (known : Option Job) (k : Uuid) (job : Job) (d : Database) : Prop :=
  loadJob known k (.open d) = (.ok job, .open d) ∧ checkOverlap job (.open d) = (.ok (), .open d)

def submissions (w : Outside) (job : Job) (d : Database) : List Execution.ExecutionRequestPayload :=
  match w.session with
  | some _ => []
  | none => (runNotebook w.answers job d).1

def ofCells (submitted : List Execution.ExecutionRequestPayload) :
    List Execution.ExecutionRequestPayload :=
  submitted.filter fun p => p.cellId.isSome

structure RunsNotebook (counted : List Execution.ExecutionRequestPayload) (w : Outside)
    (known : Option Job) (k : Uuid) (triggerType : TriggerType) (job : Job) (d : Database) : Prop where
  sources : ∃ cells : List NotebookCell,
    cells.Perm (d.notebookCells.filter fun c => c.notebookId = job.notebookId ∧ c.cellType = "code") ∧
      cells.Pairwise (fun x y => x.position < y.position) ∧
      counted.map (·.code) = cells.map (·.source)
  session : ∀ p ∈ submissions w job d, p.sessionId = sessionId job
  returns : (∀ n < (submissions w job d).length, ∃ x, w.answers n = .ok x) →
    ∃ r s, triggerJobExecution w known k triggerType (.open d) = (.ok r, s)

def Recordable (w : Outside) (triggerType : TriggerType) (job : Job) (d : Database) : Prop :=
  ∀ executionId, ∃ r s, recordExecution w.env job executionId triggerType (.open d) = (.ok r, s)

lemma cellsOf_perm (n : Uuid) (d : Database) :
    (cellsOf n d).Perm (d.notebookCells.filter fun c => c.notebookId = n) :=
  List.perm_insertionSort ..

lemma codeCells_perm (n : Uuid) (d : Database) :
    (codeCells n d).Perm (d.notebookCells.filter fun c => c.notebookId = n ∧ c.cellType = "code") := by
  have h := (cellsOf_perm n d).filter fun c => decide (c.cellType = "code")
  rw [List.filter_filter] at h
  simpa [codeCells, Bool.and_comm, Bool.decide_and] using h

/-- The loop never gets past its first cell. -/
lemma submitCells_cons (answers : Answers) (n : ℕ) (executionId : String) (cell : NotebookCell)
    (rest : List NotebookCell) :
    submitCells answers job n executionId (cell :: rest) =
      ([], .error (.attributeError "'NotebookCell' object has no attribute 'code_content'")) := rfl

lemma runNotebook_codeless {answers : Answers} (h : codeCells job.notebookId d = []) :
    runNotebook answers job d = ([placeholder job], answers 0) := by
  simp only [runNotebook, h]

lemma runNotebook_code {answers : Answers} (h : codeCells job.notebookId d ≠ []) :
    runNotebook answers job d =
      ([], .error (.attributeError "'NotebookCell' object has no attribute 'code_content'")) := by
  obtain ⟨cell, rest, hc⟩ := List.exists_cons_of_ne_nil h
  simp only [runNotebook, hc, submitCells_cons]

lemma trigger_session {err : JobFailure} (hs : w.session = some err)
    (h : Passes known k job d) :
    triggerJobExecution w known k triggerType (.open d) = (.error err, .open d) := by
  rw [triggerJobExecution]
  rw [bind_ok h.1, bind_ok h.2, hs]
  rfl

lemma trigger_codeless (hs : w.session = none) (h : Passes known k job d)
    (hc : codeCells job.notebookId d = []) {x : String} (ha : w.answers 0 = .ok x) :
    triggerJobExecution w known k triggerType (.open d) =
      recordExecution w.env job x triggerType (.open d) := by
  rw [triggerJobExecution, bind_ok h.1, bind_ok h.2, hs]
  change (ofExcept (runNotebook w.answers job d).2 >>= fun x =>
    recordExecution w.env job x triggerType) (.open d) = _
  rw [runNotebook_codeless hc, ha]
  rfl

lemma submissions_codeless (hs : w.session = none) (hc : codeCells job.notebookId d = []) :
    submissions w job d = [placeholder job] := by
  simp only [submissions, hs, runNotebook_codeless hc]

lemma submissions_code (hc : codeCells job.notebookId d ≠ []) : submissions w job d = [] := by
  cases hs : w.session with
  | some err => simp only [submissions, hs]
  | none => simp only [submissions, hs, runNotebook_code hc]

variable {counted : List Execution.ExecutionRequestPayload}

lemma RunsNotebook.length (h : RunsNotebook counted w known k triggerType job d) :
    counted.length = (codeCells job.notebookId d).length := by
  obtain ⟨cells, hp, -, hm⟩ := h.sources
  have hl := congrArg List.length hm
  rw [List.length_map, List.length_map] at hl
  rw [hl, hp.length_eq, (codeCells_perm job.notebookId d).length_eq]

lemma RunsNotebook.codeless (h : RunsNotebook counted w known k triggerType job d)
    (hn : submissions w job d = [] → counted = []) : codeCells job.notebookId d = [] := by
  -- Not with a code cell, for nothing is submitted then.
  by_contra hc
  have hl := h.length
  rw [hn (submissions_code hc), List.length_nil] at hl
  exact hc (List.length_eq_zero_iff.mp hl.symm)

lemma RunsNotebook.hasSession (h : RunsNotebook counted w known k triggerType job d)
    (hp : Passes known k job d) : w.session = none := by
  -- Not without a session, for the trigger raises then.
  cases hs : w.session with
  | none => rfl
  | some err =>
    have hnone : submissions w job d = [] := by simp only [submissions, hs]
    obtain ⟨r, s, ht⟩ := h.returns fun n hn => by
      rw [hnone] at hn
      cases hn
    rw [trigger_session hs hp] at ht
    cases ht

lemma runs_codeless (hp : Passes known k job d) (hr : Recordable w triggerType job d)
    (hc : codeCells job.notebookId d = []) (hs : w.session = none) :
    RunsNotebook (ofCells (submissions w job d)) w known k triggerType job d := by
  rw [submissions_codeless hs hc]
  refine ⟨⟨[], ?_, .nil, rfl⟩, fun p hm => ?_, fun ha => ?_⟩
  · have hperm := codeCells_perm job.notebookId d
    rwa [hc] at hperm
  · rw [submissions_codeless hs hc] at hm
    rw [List.mem_singleton.mp hm]
    rfl
  · rw [submissions_codeless hs hc] at ha
    obtain ⟨x, hx⟩ := ha 0 Nat.zero_lt_one
    rw [trigger_codeless hs hp hc hx]
    exact hr x

theorem runsNotebook_iff (w : Outside) (triggerType : TriggerType) (h : Passes known k job d) :
    ¬ RunsNotebook (submissions w job d) w known k triggerType job d ∧
      (Recordable w triggerType job d →
        (RunsNotebook (ofCells (submissions w job d)) w known k triggerType job d ↔
          codeCells job.notebookId d = [] ∧ w.session = none)) := by
  constructor
  · intro hr
    have hc := hr.codeless id
    have hl := hr.length
    rw [submissions_codeless (hr.hasSession h) hc, hc] at hl
    cases hl
  · intro hrec
    constructor
    · intro hr
      exact ⟨hr.codeless fun hn => by rw [hn]; rfl, hr.hasSession h⟩
    · rintro ⟨hc, hs⟩
      exact runs_codeless h hrec hc hs

def willing : Outside := ⟨none, fun _ => .ok "exec-1", ⟨3, 1000⟩⟩

def nightly : Job where
  id := 2
  name := "nightly"
  description := none
  workspaceId := some 7
  projectId := some 8
  notebookId := 1
  status := .active
  scheduleType := "ONE_TIME"
  cronExpression := none
  timezone := "UTC"
  concurrencyPolicy := "PREVENT_OVERLAP"
  maxRetries := 0
  retryDelaySeconds := 60
  parameters := "\x7b\x7d"
  nextRunAt := none
  lastRunAt := none
  createdAt := 0
  updatedAt := 0

def notebook : Notebook := ⟨1, 8, "report", none, "python", 0, 0⟩

def oneNotebook : Database := { Database.empty with notebooks := [notebook] }

def withJob (cells : List NotebookCell) : Database :=
  { oneNotebook with notebookCells := cells, jobs := [nightly] }

def oneCell : List NotebookCell := [⟨5, 1, 0, "code", "x = 1", 0, 0⟩]

theorem codeless_not_run :
    ¬ RunsNotebook (submissions willing nightly (withJob [])) willing none 2 .manual nightly (withJob []) ∧
      (Recordable willing .manual nightly (withJob []) →
        (RunsNotebook (ofCells (submissions willing nightly (withJob []))) willing none 2 .manual nightly
          (withJob []) ↔ codeCells 1 (withJob []) = [] ∧ willing.session = none)) :=
  runsNotebook_iff willing .manual ⟨rfl, rfl⟩

theorem one_cell_not_run :
    submissions willing nightly (withJob oneCell) = [] ∧
      (triggerJobExecution willing none 2 .manual (.open (withJob oneCell))).1 =
        .error (.attributeError "'NotebookCell' object has no attribute 'code_content'") ∧
      ¬ RunsNotebook (submissions willing nightly (withJob oneCell)) willing none 2 .manual nightly
        (withJob oneCell) := by
  refine ⟨rfl, rfl, fun h => ?_⟩
  obtain ⟨r, s, ht⟩ := h.returns fun n hn => by cases hn
  cases ht

end NotebookExecution.Jobs
