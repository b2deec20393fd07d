import NotebookExecution.Jobs.Errors

/-! Where a job stands: a notebook belongs to a project and a project to a workspace, and a job is
stored with an id of each. -/

namespace NotebookExecution.Jobs

open Library.Transaction Library.Table Store JobManager

variable {takes : Texts → Bool} {E : Environment} {e : Env} {d : Database} {data : JobCreate} {nb : Notebook}

def workspaceOfProject (nb : Notebook) (d : Database) : Option Uuid :=
  (projectTable.find nb.projectId d).map Project.workspaceId

def JobCreate.filled (data : JobCreate) (workspaceId projectId : Uuid) : JobCreate :=
  { data with
    workspaceId := data.workspaceId.or (some workspaceId)
    projectId := data.projectId.or (some projectId) }

structure Places (takes : Texts → Bool) (E : Environment) (e : Env) (data : JobCreate) (nb : Notebook)
    (d : Database) : Prop where
  project : ∀ job ∈ (create takes E e data d).2.jobs, job ∉ d.jobs → job.projectId = some nb.projectId
  workspace : ∀ job ∈ (create takes E e data d).2.jobs, job ∉ d.jobs →
    job.workspaceId.isSome = true ∧ job.workspaceId = workspaceOfProject nb d
  -- Leaving an id out is no reason to fail.
  omits : ∀ workspaceId projectId, (∃ job, (create takes E e (data.filled workspaceId projectId) d).1 = .ok job) →
    ∃ job, (create takes E e data d).1 = .ok job

structure Permitted (takes : Texts → Bool) (E : Environment) (e : Env) (data : JobCreate) (d : Database) :
    Prop where
  timely : Timely E e.now data.timezone data.scheduleType data.cronExpression
  schedule : Accepted E data.timezone data.scheduleType data.cronExpression
  name : ∀ x ∈ d.jobs, x.name ≠ data.name
  id : ∀ x ∈ d.jobs, x.id ≠ e.uuid
  taken : takes (newTexts data) = true

lemma Permitted.creates (h : Permitted takes E e data d)
    (hn : notebookTable.find data.notebookId d = some nb) {workspaceId : Uuid}
    (hw : data.workspaceId = some workspaceId) : ∃ nextRun, Creates E d e data nb workspaceId nextRun := by
  obtain ⟨hv, nextRun, hs⟩ := (accepted_iff h.timely).mp h.schedule
  exact ⟨nextRun, hn, hv, hs, h.name, hw, h.id⟩

lemma creates_permitted {workspaceId : Uuid} {nextRun : Option Instant}
    (h : Creates E d e data nb workspaceId nextRun) (ht : takes (newTexts data) = true) :
    Permitted takes E e data d where
  timely := timely_of_schedules h.timezone h.schedule
  schedule := (accepted_iff (timely_of_schedules h.timezone h.schedule)).mpr ⟨h.timezone, nextRun, h.schedule⟩
  name := h.name
  id := h.id
  taken := ht

lemma permitted_filled (workspaceId projectId : Uuid) :
    Permitted takes E e (data.filled workspaceId projectId) d ↔ Permitted takes E e data d :=
  ⟨fun h => ⟨h.timely, h.schedule, h.name, h.id, h.taken⟩,
    fun h => ⟨h.timely, h.schedule, h.name, h.id, h.taken⟩⟩

lemma create_ok (h : Permitted takes E e data d) {workspaceId : Uuid} {nextRun : Option Instant}
    (hc : Creates E d e data nb workspaceId nextRun) :
    create takes E e data d =
      (.ok (newRow e data nb workspaceId nextRun), jobTable.append (newRow e data nb workspaceId nextRun) d) :=
  (create_creates takes hc).trans (if_pos h.taken)

lemma created_ok {job : Job} (h : (create takes E e data d).1 = .ok job) :
    ∃ nb workspaceId nextRun, Creates E d e data nb workspaceId nextRun ∧ Permitted takes E e data d := by
  obtain ⟨nb, workspaceId, nextRun, hc, ht, -⟩ := create_inv (Prod.ext h rfl)
  exact ⟨nb, workspaceId, nextRun, hc, creates_permitted hc ht⟩

lemma create_unchanged {err : Refusal JobFailure} (h : (create takes E e data d).1 = .error err) :
    (create takes E e data d).2 = d := by
  rcases create_cases takes E e data d with ⟨nb, workspaceId, nextRun, hc⟩ | ⟨err', s, -, he⟩
  · rw [create_creates takes hc] at h ⊢
    split at h
    · cases h
    · next ht => rw [if_neg ht]
  · rw [he]

lemma stored_new {job : Job} (hj : job ∈ (create takes E e data d).2.jobs) (ho : job ∉ d.jobs) :
    ∃ nb workspaceId nextRun, Creates E d e data nb workspaceId nextRun ∧ Permitted takes E e data d ∧
      job = newRow e data nb workspaceId nextRun := by
  cases hr : (create takes E e data d).1 with
  | ok row =>
    obtain ⟨nb, workspaceId, nextRun, hc, hp⟩ := created_ok hr
    rw [create_ok hp hc] at hj
    cases List.mem_append.mp hj with
    | inl hold => exact absurd hold ho
    | inr hnew => exact ⟨nb, workspaceId, nextRun, hc, hp, List.mem_singleton.mp hnew⟩
  | error err =>
    rw [create_unchanged hr] at hj
    exact absurd hj ho

lemma newRow_stored (h : Permitted takes E e data d) {workspaceId : Uuid} {nextRun : Option Instant}
    (hc : Creates E d e data nb workspaceId nextRun) :
    newRow e data nb workspaceId nextRun ∈ (create takes E e data d).2.jobs ∧
      newRow e data nb workspaceId nextRun ∉ d.jobs := by
  rw [create_ok h hc]
  exact ⟨List.mem_append_right _ (List.mem_singleton_self _), fun hm => hc.id _ hm rfl⟩

theorem hierarchy_iff (takes : Texts → Bool) (E : Environment) (e : Env) {data : JobCreate} {nb : Notebook}
    {d : Database} (hn : notebookTable.find data.notebookId d = some nb) :
    Places takes E e data nb d ↔
      (Permitted takes E e data d → data.workspaceId.isSome = true ∧
        data.workspaceId = workspaceOfProject nb d ∧ data.projectId.getD nb.projectId = nb.projectId) := by
  constructor
  · intro h hp
    -- With its ids filled in the request passes, so it passes without.
    obtain ⟨w, hw⟩ : ∃ w, (data.filled 0 0).workspaceId = some w := by
      cases hwd : data.workspaceId with
      | none => exact ⟨0, by rw [JobCreate.filled, hwd, Option.none_or]⟩
      | some w => exact ⟨w, by rw [JobCreate.filled, hwd, Option.some_or]⟩
    have hpf : Permitted takes E e (data.filled 0 0) d := (permitted_filled 0 0).mpr hp
    obtain ⟨nextRun, hfilled⟩ := hpf.creates hn hw
    obtain ⟨job, hjob⟩ := h.omits 0 0 ⟨_, congrArg Prod.fst (create_ok hpf hfilled)⟩
    obtain ⟨nb', workspaceId, nextRun', hc, -⟩ := created_ok hjob
    cases hn.symm.trans hc.notebook
    obtain ⟨hmem, hnew⟩ := newRow_stored hp hc
    obtain ⟨-, hworkspace⟩ := h.workspace _ hmem hnew
    have hproject := h.project _ hmem hnew
    refine ⟨?_, ?_, Option.some_inj.mp hproject⟩
    · rw [hc.workspace]
      rfl
    · rw [hc.workspace]
      exact hworkspace
  · intro h
    constructor
    case project =>
      intro job hj ho
      obtain ⟨nb', workspaceId, nextRun, hc, hp, rfl⟩ := stored_new hj ho
      cases hn.symm.trans hc.notebook
      obtain ⟨-, -, hproject⟩ := h hp
      exact congrArg some hproject
    case workspace =>
      intro job hj ho
      obtain ⟨nb', workspaceId, nextRun, hc, hp, rfl⟩ := stored_new hj ho
      cases hn.symm.trans hc.notebook
      obtain ⟨-, hworkspace, -⟩ := h hp
      exact ⟨rfl, hc.workspace.symm.trans hworkspace⟩
    case omits =>
      rintro workspaceId projectId ⟨job, hjob⟩
      obtain ⟨nb', w, nextRun, -, hpf⟩ := created_ok hjob
      have hp : Permitted takes E e data d := (permitted_filled workspaceId projectId).mp hpf
      obtain ⟨hsome, -, -⟩ := h hp
      obtain ⟨given, hgiven⟩ := Option.isSome_iff_exists.mp hsome
      obtain ⟨nextRun', hcreates⟩ := hp.creates hn hgiven
      exact ⟨_, congrArg Prod.fst (create_ok hp hcreates)⟩

def placedStore : Database :=
  { oneNotebook with
    workspaces := [⟨7, "sales", none, 0, 0⟩, ⟨17, "finance", none, 0, 0⟩]
    projects := [⟨8, 7, "reports", none, 0, 0⟩] }

def astray : JobCreate := { unplaced with workspaceId := some 17, projectId := some 18 }

theorem astray_iff :
    Places Texts.short world ⟨2, 0⟩ astray notebook placedStore ↔
      (Permitted Texts.short world ⟨2, 0⟩ astray placedStore → astray.workspaceId.isSome = true ∧
        astray.workspaceId = workspaceOfProject notebook placedStore ∧
        astray.projectId.getD notebook.projectId = notebook.projectId) :=
  hierarchy_iff Texts.short world ⟨2, 0⟩ rfl

/-- One job is stored with another workspace and project, the other has no workspace and fails. -/
theorem astray_stored :
    (create Texts.short world ⟨2, 0⟩ astray placedStore).2.jobs.map (fun job => (job.workspaceId, job.projectId)) =
        [(some 17, some 18)] ∧
      ¬ Places Texts.short world ⟨2, 0⟩ astray notebook placedStore ∧
      (request placedStore (createJob world ⟨2, 0⟩ unplaced)).1 =
        .error (.attributeError "'Notebook' object has no attribute 'workspace_id'") ∧
      ¬ Places Texts.short world ⟨2, 0⟩ unplaced notebook placedStore := by
  refine ⟨rfl, fun h => ?_, rfl, fun h => ?_⟩
  · obtain ⟨-, hw⟩ := h.workspace _ (List.mem_singleton_self _) List.not_mem_nil
    cases hw
  · obtain ⟨job, hj⟩ := h.omits 7 8 ⟨_, rfl⟩
    cases hj

end NotebookExecution.Jobs
