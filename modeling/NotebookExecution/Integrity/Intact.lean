import NotebookExecution.Integrity.Deletion
import NotebookExecution.Jobs.Occurrences

/-! Referential integrity. No deletion of a notebook looks at the jobs, and no deletion of a job at its
executions. -/

namespace NotebookExecution.Integrity

open Library.Transaction Library.Table Library.References Library.Runs Store
open Schema (Gone gone_iff)

variable {E : Jobs.Environment} {d : Database} {a : Address}

structure Intact (d : Database) : Prop where
  projects : ∀ p ∈ d.projects, ∃ w ∈ d.workspaces, w.id = p.workspaceId
  notebooks : ∀ n ∈ d.notebooks, ∃ p ∈ d.projects, p.id = n.projectId
  notebookCells : ∀ c ∈ d.notebookCells, ∃ n ∈ d.notebooks, n.id = c.notebookId
  notebookMetadata : ∀ m ∈ d.notebookMetadata, ∃ n ∈ d.notebooks, n.id = m.notebookId
  executionOutputs : ∀ o ∈ d.executionOutputs, ∀ k ∈ o.notebookId, ∃ n ∈ d.notebooks, n.id = k
  notebookDependencies : ∀ x ∈ d.notebookDependencies, ∃ n ∈ d.notebooks, n.id = x.notebookId
  dependencyOperations : ∀ x ∈ d.dependencyOperations, ∃ n ∈ d.notebooks, n.id = x.notebookId
  jobs : ∀ j ∈ d.jobs, ∃ n ∈ d.notebooks, n.id = j.notebookId
  jobExecutions : ∀ h ∈ d.jobExecutions, ∃ j ∈ d.jobs, j.id = h.jobId

def Unused (d : Database) : Address → Prop
  | .workspace k => ∀ j ∈ d.jobs, ∀ n ∈ d.notebooks, n.id = j.notebookId →
      ∀ p ∈ d.projects, p.id = n.projectId → p.workspaceId ≠ k
  | .project k => ∀ j ∈ d.jobs, ∀ n ∈ d.notebooks, n.id = j.notebookId → n.projectId ≠ k
  | .notebook k => ∀ j ∈ d.jobs, j.notebookId ≠ k
  | .job k => ∀ h ∈ d.jobExecutions, h.jobId ≠ k
  | .notebookCell _ | .notebookMetadata _ | .notebookDependency _ => True

lemma stored_iff {ρ κ : Type} {T : TableOf Database ρ κ} {mk : ρ → Row} {at_ : κ → Address} {k : κ}
    (ha : Addressed T mk at_) (h : Holds T mk) :
    (∃ p ∈ rows d, at_ k ∈ p.address) ↔ ∃ r ∈ T.rows d, T.key r = k := by
  simpa using exists_at (P := fun _ => True) (k := k) (d := d) ha h

lemma intact_iff : Intact d ↔ schema.Resolves (rows d) := by
  have hworkspace (k : Uuid) := stored_iff (d := d) (k := k) addressed_workspace holds_workspace
  have hproject (k : Uuid) := stored_iff (d := d) (k := k) addressed_project holds_project
  have hnotebook (k : Uuid) := stored_iff (d := d) (k := k) addressed_notebook holds_notebook
  have hjob (k : Uuid) := stored_iff (d := d) (k := k) addressed_job holds_job
  constructor
  · intro h x hx b hb
    cases x with
    | workspace w => cases hb
    | project p =>
      cases hb
      exact (hworkspace _).mpr (h.projects p hx)
    | notebook n =>
      cases hb
      exact (hproject _).mpr (h.notebooks n hx)
    | notebookCell c =>
      cases hb
      exact (hnotebook _).mpr (h.notebookCells c hx)
    | notebookMetadata m =>
      cases hb
      exact (hnotebook _).mpr (h.notebookMetadata m hx)
    | executionOutput o =>
      obtain ⟨k, hk, rfl⟩ := Option.mem_map.mp hb
      exact (hnotebook _).mpr (h.executionOutputs o hx k hk)
    | notebookDependency y =>
      cases hb
      exact (hnotebook _).mpr (h.notebookDependencies y hx)
    | dependencyOperation y =>
      cases hb
      exact (hnotebook _).mpr (h.dependencyOperations y hx)
    | job j =>
      cases hb
      exact (hnotebook _).mpr (h.jobs j hx)
    | jobExecution e =>
      cases hb
      exact (hjob _).mpr (h.jobExecutions e hx)
  · intro h
    exact {
      projects := fun p hp => (hworkspace _).mp (h (.project p) hp _ rfl)
      notebooks := fun n hn => (hproject _).mp (h (.notebook n) hn _ rfl)
      notebookCells := fun c hc => (hnotebook _).mp (h (.notebookCell c) hc _ rfl)
      notebookMetadata := fun m hm => (hnotebook _).mp (h (.notebookMetadata m) hm _ rfl)
      executionOutputs := fun o ho k hk =>
        (hnotebook _).mp (h (.executionOutput o) ho _ (Option.mem_map.mpr ⟨k, hk, rfl⟩))
      notebookDependencies := fun y hy => (hnotebook _).mp (h (.notebookDependency y) hy _ rfl)
      dependencyOperations := fun y hy => (hnotebook _).mp (h (.dependencyOperation y) hy _ rfl)
      jobs := fun j hj => (hnotebook _).mp (h (.job j) hj _ rfl)
      jobExecutions := fun e he => (hjob _).mp (h (.jobExecution e) he _ rfl) }

lemma gone_job {j : Job} : Gone schema (rows d) a (.job j) ↔ a = .job j.id := by
  rw [gone_root (x := .job j) (Or.inl id)]
  exact Option.some_inj.trans eq_comm

lemma gone_jobExecution {e : JobExecution} : ¬ Gone schema (rows d) a (.jobExecution e) := by
  rw [gone_root (x := .jobExecution e) (Or.inl id)]
  exact nofun

lemma unreferred_iff : schema.Unreferred (rows d) a ↔
    (∀ j ∈ d.jobs, a ≠ .job j.id → ¬ GoneNotebook d a j.notebookId) ∧
      ∀ e ∈ d.jobExecutions, ∀ j ∈ d.jobs, j.id = e.jobId → a ≠ .job j.id := by
  constructor
  · intro h
    constructor
    · rintro j hj hne ⟨n, hn, hid, hgone⟩
      have hat : .notebook j.notebookId ∈ (Row.notebook n).address := congrArg (some ∘ Address.notebook) hid
      exact h (.job j) hj (mt gone_job.mp hne) id _ rfl (.notebook n) hn hat hgone
    · intro e he j hj hid ha
      have hat : .job e.jobId ∈ (Row.job j).address := congrArg (some ∘ Address.job) hid
      exact h (.jobExecution e) he gone_jobExecution id _ rfl (.job j) hj hat (gone_job.mpr ha)
  · rintro ⟨hjobs, hexecutions⟩ x hx hgx hd b hb p hp hpb hgp
    cases x with
    | job j =>
      cases hb
      obtain ⟨n, rfl, hid⟩ := (addressed_notebook _ _).mp hpb
      exact hjobs j hx (mt gone_job.mpr hgx) ⟨n, hp, hid, hgp⟩
    | jobExecution e =>
      cases hb
      obtain ⟨j, rfl, hid⟩ := (addressed_job _ _).mp hpb
      exact hexecutions e hx j hp hid (gone_job.mp hgp)
    | _ => exact hd trivial

lemma goneNotebook_notebook {k j : Uuid} (h : ∃ n ∈ d.notebooks, n.id = j) :
    GoneNotebook d (.notebook k) j ↔ j = k := by
  simp only [GoneNotebook, gone_notebook, gone_project, reduceCtorEq, and_false, exists_false, or_false,
    Address.notebook.injEq]
  constructor
  · rintro ⟨n, -, rfl, hk⟩
    exact hk
  · rintro rfl
    obtain ⟨n, hn, hk⟩ := h
    exact ⟨n, hn, hk, hk⟩

lemma goneNotebook_project (h : Intact d) {k j : Uuid} :
    GoneNotebook d (.project k) j ↔ ∃ n ∈ d.notebooks, n.id = j ∧ n.projectId = k := by
  simp only [GoneNotebook, gone_notebook, gone_project, reduceCtorEq, false_or, and_false, exists_false,
    or_false, Address.project.injEq]
  constructor
  · rintro ⟨n, hn, hid, p, -, hp, rfl⟩
    exact ⟨n, hn, hid, hp.symm⟩
  · rintro ⟨n, hn, hid, hk⟩
    obtain ⟨p, hp, hpid⟩ := h.notebooks n hn
    exact ⟨n, hn, hid, p, hp, hpid, hpid.trans hk⟩

lemma goneNotebook_workspace (h : Intact d) {k j : Uuid} : GoneNotebook d (.workspace k) j ↔
    ∃ n ∈ d.notebooks, n.id = j ∧ ∃ p ∈ d.projects, p.id = n.projectId ∧ p.workspaceId = k := by
  simp only [GoneNotebook, gone_notebook, gone_project, reduceCtorEq, false_or, Address.workspace.injEq]
  constructor
  · rintro ⟨n, hn, hid, p, hp, hpid, w, -, hw, rfl⟩
    exact ⟨n, hn, hid, p, hp, hpid, hw.symm⟩
  · rintro ⟨n, hn, hid, p, hp, hpid, hk⟩
    obtain ⟨w, hw, hwid⟩ := h.projects p hp
    exact ⟨n, hn, hid, p, hp, hpid, w, hw, hwid, hwid.trans hk⟩

lemma goneNotebook_other {j : Uuid} (ha : ¬ Container a) : ¬ GoneNotebook d a j := by
  rintro ⟨n, -, -, hg⟩
  cases a with
  | workspace k => exact ha trivial
  | project k => exact ha trivial
  | notebook k => exact ha trivial
  | _ => simp [gone_notebook, gone_project] at hg

lemma unused_iff (h : Intact d) : Unused d a ↔ schema.Unreferred (rows d) a := by
  rw [unreferred_iff]
  cases a with
  | workspace k => simp [Unused, goneNotebook_workspace h]
  | project k => simp [Unused, goneNotebook_project h]
  | notebook k =>
    simp only [Unused, ne_eq, reduceCtorEq, not_false_eq_true, forall_const, implies_true, and_true]
    apply forall₂_congr
    intro j hj
    rw [goneNotebook_notebook (h.jobs j hj)]
  | notebookCell k => simp [Unused, goneNotebook_other (a := .notebookCell k) id]
  | notebookMetadata k => simp [Unused, goneNotebook_other (a := .notebookMetadata k) id]
  | notebookDependency k => simp [Unused, goneNotebook_other (a := .notebookDependency k) id]
  | job k =>
    simp only [Unused, goneNotebook_other (a := .job k) id, not_false_eq_true, implies_true, true_and,
      ne_eq, Address.job.injEq]
    apply forall₂_congr
    intro e he
    constructor
    · rintro hk j hj hid rfl
      exact hk hid.symm
    · rintro hk rfl
      obtain ⟨j, hj, hid⟩ := h.jobExecutions e he
      exact hk j hj hid hid.symm

def step (E : Jobs.Environment) (d : Database) (op : Operation) : Option Database := some (perform E d op)

lemma rows_empty (x : Row) : x ∉ rows .empty := by
  intro hx
  cases x <;> cases hx

lemma consistent_empty : schema.Consistent (rows .empty) := by
  intro x hx
  exact absurd hx (rows_empty x)

lemma intact_empty : Intact .empty := by
  rw [intact_iff]
  intro x hx
  exact absurd hx (rows_empty x)

lemma perform_consistent {op : Operation} (h : schema.Consistent (rows d)) :
    schema.Consistent (rows (perform E d op)) := by
  cases hop : op.deletes with
  | none => exact (perform_grows op hop).consistent h
  | some a =>
    cases perform_deletes (E := E) (d := d) hop with
    | inl hd =>
      rw [hd]
      exact h.delete
    | inr hd =>
      rw [hd.1]
      exact h

lemma perform_intact {op : Operation} (hc : schema.Consistent (rows d)) (h : Intact d) :
    Intact (perform E d op) ↔ ∀ a ∈ op.deletes, Unused d a := by
  have hr : schema.Resolves (rows d) := intact_iff.mp h
  cases hop : op.deletes with
  | none =>
    apply iff_of_true
    · exact intact_iff.mpr ((perform_grows op hop).resolves hr)
    · exact nofun
  | some a =>
    have hunused : (∀ b ∈ some a, Unused d b) ↔ Unused d a := by simp
    rw [hunused, intact_iff]
    cases perform_deletes (E := E) (d := d) hop with
    | inl hd => rw [hd, Schema.delete_resolves_iff hc hr, unused_iff h]
    | inr hd =>
      obtain ⟨hd, k, rfl⟩ := hd
      rw [hd]
      exact iff_of_true hr trivial

theorem intact_iff_unused (E : Jobs.Environment) (ops : List Operation) :
    Along (step E) (fun _ _ t => Intact t) .empty ops ↔
      Along (step E) (fun s op _ => ∀ a ∈ op.deletes, Unused s a) .empty ops := by
  apply along_iff_of_invariant (I := fun s => schema.Consistent (rows s))
  · rintro s op t hs ⟨⟩
    exact perform_consistent hs
  · rintro s op t hs hi ⟨⟩
    exact perform_intact hs hi
  · exact consistent_empty
  · exact intact_empty

def jobOutlives : List Operation :=
  [.store ⟨⟨1, 0⟩, .createWorkspace ⟨"w", none⟩⟩, .store ⟨⟨2, 0⟩, .createProject 1 ⟨"p", none⟩⟩,
    .store ⟨⟨3, 0⟩, .createNotebook 2 ⟨"n", none, "python"⟩⟩,
    .job (.createJob ⟨4, 0⟩
      ⟨"j", 3, some 1, none, none, "ONE_TIME", none, "UTC", "PREVENT_OVERLAP", 0, 60, none⟩),
    .store ⟨⟨5, 0⟩, .deleteNotebook 3⟩]

def outlived : Database :=
  { Database.empty with
    workspaces := [⟨1, "w", none, 0, 0⟩]
    projects := [⟨2, 1, "p", none, 0, 0⟩]
    jobs := [⟨4, "j", none, some 1, some 2, 3, .active, "ONE_TIME", none, "UTC", "PREVENT_OVERLAP", 0, 60,
      "\x7b\x7d", none, none, 0, 0⟩] }

theorem job_outlives_notebook : ¬ ∀ E ops, Along (step E) (fun _ _ t => Intact t) .empty ops := by
  intro h
  have ht : exec (step Jobs.world) .empty jobOutlives = some outlived := rfl
  have hi : Intact outlived := Along.reach intact_empty (h Jobs.world jobOutlives) ht
  obtain ⟨n, hn, -⟩ := hi.jobs _ (List.mem_singleton_self _)
  cases hn

end NotebookExecution.Integrity
