import NotebookExecution.Integrity.Operations

/-! What the operations that delete nothing do to the rows: they add rows under parents that are there,
and rewrite rows in their place. -/

namespace NotebookExecution.Integrity

open Library.Transaction Library.Table Library.References Store Dependencies
  Dependencies.DependencyManager Output
open Jobs (JobCall)
open Jobs.JobManager (Outside triggerJobExecution)

variable {E : Jobs.Environment} {ε : Type} {d : Database}

lemma notebook_there {k : Uuid} (h : d.notebooks.all (fun n => n.id ≠ k) = false) :
    ∃ p ∈ rows d, .notebook k ∈ p.address :=
  there addressed_notebook holds_notebook h

lemma projectClash_parent {p : Project} (h : projectClash d p = false) :
    ∀ a ∈ (Row.project p).parent, ∃ q ∈ rows d, a ∈ q.address := by
  rintro a ⟨⟩
  exact there addressed_workspace holds_workspace (Bool.or_eq_false_iff.mp h).2

lemma notebookClash_parent {n : Notebook} (h : notebookClash d n = false) :
    ∀ a ∈ (Row.notebook n).parent, ∃ q ∈ rows d, a ∈ q.address := by
  rintro a ⟨⟩
  exact there addressed_project holds_project (Bool.or_eq_false_iff.mp h).2

lemma notebookCellClash_parent {c : NotebookCell} (h : notebookCellClash d c = false) :
    ∀ a ∈ (Row.notebookCell c).parent, ∃ q ∈ rows d, a ∈ q.address := by
  rintro a ⟨⟩
  exact notebook_there (Bool.or_eq_false_iff.mp h).2

lemma notebookMetadataClash_parent {m : NotebookMetadata} (h : notebookMetadataClash d m = false) :
    ∀ a ∈ (Row.notebookMetadata m).parent, ∃ q ∈ rows d, a ∈ q.address := by
  rintro a ⟨⟩
  exact notebook_there (Bool.or_eq_false_iff.mp h).2

lemma executionOutputClash_parent {o : ExecutionOutput} (h : executionOutputClash d o = false) :
    ∀ a ∈ (Row.executionOutput o).parent, ∃ q ∈ rows d, a ∈ q.address := by
  intro a ha
  obtain ⟨k, hk, rfl⟩ := Option.mem_map.mp ha
  rw [executionOutputClash, Option.mem_def.mp hk] at h
  exact notebook_there h

lemma notebookDependencyClash_parent {x : NotebookDependency} (h : notebookDependencyClash d x = false) :
    ∀ a ∈ (Row.notebookDependency x).parent, ∃ q ∈ rows d, a ∈ q.address := by
  rintro a ⟨⟩
  exact notebook_there (Bool.or_eq_false_iff.mp h).2

lemma dependencyOperationClash_parent {x : DependencyOperation}
    (h : dependencyOperationClash d x = false) :
    ∀ a ∈ (Row.dependencyOperation x).parent, ∃ q ∈ rows d, a ∈ q.address := by
  rintro a ⟨⟩
  exact notebook_there (Bool.or_eq_false_iff.mp h).2

lemma createOutput_growing (e : Env) (event : OutputEventSchema) :
    Keeps (Growing d) (ExecutionOutputRepository.create e event) :=
  insert_growing holds_executionOutput (fun _ _ _ ha => by cases ha) fun _ _ =>
    executionOutputClash_parent

lemma bulkCreate_growing (events : List (Env × OutputEventSchema)) :
    Keeps (Growing d) (ExecutionOutputRepository.bulkCreate events) := by
  induction events with
  | nil => exact .pure _
  | cons e events ih => exact .bind (createOutput_growing e.1 e.2) fun _ => .bind ih fun _ => .pure _

lemma declareDependency_growing (e : Env) (notebookId : Uuid) (packageName : String)
    (versionSpecifier : Option String) :
    Keeps (Growing d) (declareDependency e notebookId packageName versionSpecifier) := by
  refine .bind (.ofExcept _) fun validName => .bind (.ofExcept _) fun validSpec => ?_
  refine .bind (.bind .read fun _ => .pure _) fun existing => ?_
  cases existing with
  | some x => exact update_growing holds_notebookDependency ⟨fun _ => rfl, fun _ => rfl, fun _ => rfl⟩
  | none =>
    have hc : Keeps (Growing d) (NotebookDependencyRepository.create e notebookId validName validSpec) :=
      insert_growing holds_notebookDependency
        (fun _ => free_of_find addressed_notebookDependency holds_notebookDependency)
        fun _ _ => notebookDependencyClash_parent
    exact .bind hc fun _ => .pure _

lemma mark_growing (x : Setting) (u : DependencyOperationRepository.StatusUpdate) :
    Keeps (Growing d) (mark x u) :=
  .bind (update_growing holds_dependencyOperation ⟨fun _ => rfl, fun _ => rfl, fun _ => rfl⟩) fun _ =>
    .pure _

lemma ready_growing (x : Setting) (v : Option Json) : Keeps (Growing d) (ready x v) :=
  .bind (mark_growing x _) fun _ => dependencyOperationTable.getById_keeps _

lemma failWith_growing (x : Setting) (m : String) (err : DependencyFailure) :
    Keeps (Growing d) (failWith x m err) :=
  .bind (mark_growing x _) fun _ => .throw _

lemma handled_growing (x : Setting) (err : DependencyFailure) : Keeps (Growing d) (handled x err) := by
  cases err with
  | timeout operationId timeoutSeconds => exact .throw _
  | installation operationId details => exact .throw _
  | _ => exact failWith_growing x _ _

lemma stages_growing (w : Runtime) (x : Setting) (timeout : Seconds) (payload : List PackageEntry) :
    Keeps (Growing d) (stages w x timeout payload) := by
  refine .bind (mark_growing x _) fun _ => .bind (.ofExcept _) fun reqs => ?_
  refine .bind (mark_growing x _) fun _ => .bind (.ofExcept _) fun before => ?_
  refine .ite (ready_growing x _) (.bind (mark_growing x _) fun _ => .bind (.ofExcept _) fun reply => ?_)
  refine .bind (.ofExcept _) fun _ => .bind (.ofExcept _) fun _ => ?_
  refine .ite (failWith_growing x _ _) (.ite (failWith_growing x _ _) ?_)
  refine .bind (mark_growing x _) fun _ => .bind (.ofExcept _) fun after => ?_
  exact .ite (ready_growing x _) (failWith_growing x _ _)

lemma install_growing (w : Runtime) (x : Setting) (timeout : Seconds) (notebookId : Uuid)
    (sessionId : Option String) :
    Keeps (Growing d) (installNotebookDependencies w x timeout notebookId sessionId) := by
  refine .bind (.bind .read fun _ => .pure _) fun declared => ?_
  have hc : Keeps (Growing d) (DependencyOperationRepository.create
      (requested w x notebookId sessionId (packagesPayload declared))) :=
    insert_growing holds_dependencyOperation (fun _ _ _ ha => by cases ha) fun _ _ =>
      dependencyOperationClash_parent
  refine .bind hc fun _ => .ite (ready_growing x _) ?_
  exact .tryCatch (stages_growing w x timeout _) (handled_growing x)

lemma updated_stays (e : Env) (c : Jobs.JobChanges) : Stays jobTable .job (Jobs.updated e c) where
  key _ := Jobs.updated_id e c
  address _ := by simp
  parent _ := by simp

lemma updateJob_growing (e : Env) (k : Uuid) (c : Jobs.JobChanges) :
    Keeps (Growing d) (Jobs.JobRepository.update e k c) :=
  update_growing holds_job ⟨fun _ => rfl, fun _ => rfl, fun _ => rfl⟩

lemma job_grows (c : JobCall) (h : ∀ k, c ≠ .deleteJob k) :
    schema.Grows (rows d) (rows (Jobs.perform E d c)) := by
  have hc := Jobs.performed E d c
  generalize Jobs.perform E d c = d' at hc ⊢
  cases hc with
  | idle c => exact .refl
  | created hc =>
    apply holds_job.grows_append .refl
    · apply free_of_find addressed_job holds_job
      exact lookup_none.mpr hc.id
    · rintro a ⟨⟩
      exact there_of_find addressed_notebook holds_notebook hc.notebook
  | changed hu => exact (updated_stays _ _).grows holds_job .refl hu.found
  | deleted k => exact absurd rfl (h k)
  | paused hf => exact (updated_stays _ _).grows holds_job .refl hf
  | resumed hf hn => exact (updated_stays _ _).grows holds_job .refl hf

lemma recordExecution_growing (e : Env) {job : Job} (executionId : String) (triggerType : TriggerType)
    (hj : ∃ p ∈ rows d, .job job.id ∈ p.address) :
    Keeps (Growing d) (Jobs.JobManager.recordExecution e job executionId triggerType) := by
  have hc (row : JobExecution) (hrow : row.jobId = job.id) :
      Keeps (Growing d) (Jobs.JobExecutionRepository.create row) := by
    apply insert_growing holds_jobExecution (fun _ _ _ ha => by cases ha)
    rintro t ht - a ⟨⟩
    rw [hrow]
    exact ht.persists hj
  exact .bind (hc _ rfl) fun _ => .bind (updateJob_growing e _ _) fun _ => .pure _

lemma loadJob_id {k : Uuid} {known : Option {job : Job // job.id = k}} {job : Job} {s t : Session Database}
    (h : Jobs.JobManager.loadJob (known.map Subtype.val) k s = (.ok job, t)) :
    t = s ∧ job.id = k ∧ ∃ row, jobTable.find k s.view = some row := by
  rw [Jobs.JobManager.loadJob] at h
  obtain ⟨row, u, hg, hk⟩ := bind_ok_inv h
  obtain ⟨hf, rfl⟩ := Jobs.getJob_inv hg
  dsimp only at hk
  split at hk
  · cases hk
  · cases hk
    refine ⟨rfl, ?_, row, hf⟩
    cases known with
    | none => exact lookup_key hf
    | some job => exact job.2

lemma trigger_growing (w : Outside) (k : Uuid) (known : Option {job : Job // job.id = k})
    (triggerType : TriggerType) :
    Growing d (triggerJobExecution w (known.map Subtype.val) k triggerType (.open d)).2 := by
  have hd : Growing d (.open d) := ⟨rfl, .refl⟩
  obtain ⟨r, t, hr⟩ : ∃ r t, Jobs.JobManager.loadJob (known.map Subtype.val) k (.open d) = (r, t) :=
    ⟨_, _, rfl⟩
  cases r with
  | error err =>
    have ht := Jobs.loadJob_keeps (Growing d) (known.map Subtype.val) k (.open d) hd
    rw [hr] at ht
    rw [triggerJobExecution, bind_error hr]
    exact ht
  | ok job =>
    obtain ⟨rfl, hid, row, hf⟩ := loadJob_id hr
    have hj : ∃ p ∈ rows d, .job job.id ∈ p.address := by
      rw [hid]
      exact there_of_find addressed_job holds_job hf
    rw [triggerJobExecution, bind_ok hr]
    refine Keeps.bind (Jobs.checkOverlap_keeps (Growing d) job) (fun _ => ?_) (.open d) hd
    cases w.session with
    | some err => exact .throw _
    | none =>
      exact .bind .read fun _ => .bind (.ofExcept _) fun executionId =>
        recordExecution_growing w.env executionId triggerType hj

lemma perform_store (q : Request) :
    perform E d (.store q) = if q.refused d then d else q.effect d := by
  have hq := handle_realises d q
  change (request d (handle q)).2 = _
  cases hr : q.refused d with
  | true =>
    obtain ⟨err, -, he⟩ := hq.1 hr
    rw [request, inSession_committed, bind_error he]
    rfl
  | false =>
    obtain ⟨a, ha⟩ := hq.2 hr
    exact request_ok ha

lemma metadata_stays (e : Env) (configuration : Json) : Stays notebookMetadataTable .notebookMetadata
    (fun m => NotebookMetadataRepository.stamp e (NotebookMetadataRepository.assign configuration m)) :=
  ⟨fun _ => rfl, fun _ => rfl, fun _ => rfl⟩

lemma store_grows (q : Request) (h : (Operation.store q).deletes = none) :
    schema.Grows (rows d) (rows (perform E d (.store q))) := by
  rw [perform_store]
  cases hr : q.refused d with
  | true => exact .refl
  | false =>
    have hc : q.call.refused q.env d = false := (Bool.or_eq_false_iff.mp hr).2
    change schema.Grows (rows d) (rows (q.call.effect q.env d))
    obtain ⟨e, call⟩ := q
    cases call with
    | createWorkspace data =>
      exact append_grows holds_workspace addressed_workspace (Bool.or_eq_false_iff.mp hc).2
        fun _ _ ha => by cases ha
    | updateWorkspace k data =>
      exact amend_grows holds_workspace ⟨fun _ => rfl, fun _ => rfl, fun _ => rfl⟩
    | createProject k data =>
      exact append_grows holds_project addressed_project (Bool.or_eq_false_iff.mp hc).2
        projectClash_parent
    | updateProject k data =>
      exact amend_grows holds_project ⟨fun _ => rfl, fun _ => rfl, fun _ => rfl⟩
    | createNotebook k data =>
      exact append_grows holds_notebook addressed_notebook (Bool.or_eq_false_iff.mp hc).2
        notebookClash_parent
    | updateNotebook k data =>
      exact amend_grows holds_notebook ⟨fun _ => rfl, fun _ => rfl, fun _ => rfl⟩
    | createCell k data =>
      exact append_grows holds_notebookCell addressed_notebookCell (Bool.or_eq_false_iff.mp hc).2
        notebookCellClash_parent
    | updateCell n k data =>
      exact amend_grows holds_notebookCell ⟨fun _ => rfl, fun _ => rfl, fun _ => rfl⟩
    | updateNotebookMetadata n data =>
      have hm := (Bool.or_eq_false_iff.mp hc).2
      simp only [Call.effect]
      cases ht : d.hasMetadata n with
      | true =>
        simp only [if_true]
        exact amend_grows holds_notebookMetadata (metadata_stays e data.configuration)
      | false =>
        simp only [ht, Bool.false_eq_true, if_false] at hm ⊢
        exact append_grows holds_notebookMetadata addressed_notebookMetadata hm notebookMetadataClash_parent
    | deleteWorkspace k => cases h
    | deleteProject k => cases h
    | deleteNotebook k => cases h
    | deleteCell n k => cases h
    | listWorkspaces | getWorkspace | listProjectsInWorkspace | getProject | listNotebooksInProject
    | getNotebook | listCellsInNotebook | getCell | getNotebookMetadata => exact .refl

theorem perform_grows (op : Operation) (h : op.deletes = none) :
    schema.Grows (rows d) (rows (perform E d op)) := by
  cases op with
  | store q => exact store_grows q h
  | deleteMetadata k => cases h
  | persistOutputs events => exact request_grows (bulkCreate_growing events)
  | declareDependency e notebookId packageName versionSpecifier =>
    exact request_grows (declareDependency_growing e notebookId packageName versionSpecifier)
  | deleteDependency k => cases h
  | installDependencies w x timeout notebookId sessionId =>
    exact request_grows (install_growing w x timeout notebookId sessionId)
  | job c =>
    apply job_grows
    rintro k rfl
    cases h
  | trigger w k known triggerType =>
    exact request_kept (I := fun t => schema.Grows (rows d) (rows t))
      (trigger_growing w k known triggerType) .refl

end NotebookExecution.Integrity
