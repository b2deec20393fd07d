import NotebookExecution.Library.References
import NotebookExecution.Store.Models

/-! The database as rows that refer to rows. The two tables of jobs have columns of identifiers and
declare no reference with them. -/

namespace NotebookExecution.Integrity

open Library.References Library.Table Store

inductive Row
  | workspace (w : Workspace)
  | project (p : Project)
  | notebook (n : Notebook)
  | notebookCell (c : NotebookCell)
  | notebookMetadata (m : NotebookMetadata)
  | executionOutput (o : ExecutionOutput)
  | notebookDependency (x : NotebookDependency)
  | dependencyOperation (x : DependencyOperation)
  | job (j : Job)
  | jobExecution (h : JobExecution)

inductive Address
  | workspace (k : Uuid)
  | project (k : Uuid)
  | notebook (k : Uuid)
  | notebookCell (k : Uuid)
  | notebookMetadata (notebookId : Uuid)
  | notebookDependency (k : Uuid)
  | job (k : Uuid)
  deriving DecidableEq

namespace Row

@[simp] def address : Row → Option Address
  | .workspace w => some (.workspace w.id)
  | .project p => some (.project p.id)
  | .notebook n => some (.notebook n.id)
  | .notebookCell c => some (.notebookCell c.id)
  | .notebookMetadata m => some (.notebookMetadata m.notebookId)
  | .notebookDependency x => some (.notebookDependency x.id)
  | .job j => some (.job j.id)
  | .executionOutput _ | .dependencyOperation _ | .jobExecution _ => none

@[simp] def parent : Row → Option Address
  | .workspace _ => none
  | .project p => some (.workspace p.workspaceId)
  | .notebook n => some (.project n.projectId)
  | .notebookCell c => some (.notebook c.notebookId)
  | .notebookMetadata m => some (.notebook m.notebookId)
  | .executionOutput o => o.notebookId.map .notebook
  | .notebookDependency x => some (.notebook x.notebookId)
  | .dependencyOperation x => some (.notebook x.notebookId)
  | .job j => some (.notebook j.notebookId)
  | .jobExecution h => some (.job h.jobId)

@[simp] def Declared : Row → Prop
  | .job _ | .jobExecution _ => False
  | _ => True

lemma declared_iff {r : Row} {a : Address} (h : a ∈ r.address) : r.Declared ↔ ∀ k, a ≠ .job k := by
  cases r <;> simp at h <;> simp [← h]

end Row

def schema : Schema Row Address where
  address := Row.address
  parent := Row.parent
  Declared := Row.Declared
  alike h h' := (Row.declared_iff h).trans (Row.declared_iff h').symm

def rows (d : Database) : Set Row
  | .workspace w => w ∈ d.workspaces
  | .project p => p ∈ d.projects
  | .notebook n => n ∈ d.notebooks
  | .notebookCell c => c ∈ d.notebookCells
  | .notebookMetadata m => m ∈ d.notebookMetadata
  | .executionOutput o => o ∈ d.executionOutputs
  | .notebookDependency x => x ∈ d.notebookDependencies
  | .dependencyOperation x => x ∈ d.dependencyOperations
  | .job j => j ∈ d.jobs
  | .jobExecution h => h ∈ d.jobExecutions

/-! ## The rows of one table -/

variable {ρ κ : Type} [DecidableEq κ] {T : TableOf Database ρ κ} {mk : ρ → Row} {d : Database} {s : Set Row}

structure Holds (T : TableOf Database ρ κ) (mk : ρ → Row) : Prop where
  injective : Function.Injective mk
  mem : ∀ r d, mk r ∈ rows d ↔ r ∈ T.rows d
  frame : ∀ t d x, (∀ r, x ≠ mk r) → (x ∈ rows (T.store t d) ↔ x ∈ rows d)

lemma holds_workspace : Holds workspaceTable .workspace where
  injective _ _ h := Row.workspace.inj h
  mem _ _ := Iff.rfl
  frame t d x h := by cases x <;> first | exact Iff.rfl | exact absurd rfl (h _)

lemma holds_project : Holds projectTable .project where
  injective _ _ h := Row.project.inj h
  mem _ _ := Iff.rfl
  frame t d x h := by cases x <;> first | exact Iff.rfl | exact absurd rfl (h _)

lemma holds_notebook : Holds notebookTable .notebook where
  injective _ _ h := Row.notebook.inj h
  mem _ _ := Iff.rfl
  frame t d x h := by cases x <;> first | exact Iff.rfl | exact absurd rfl (h _)

lemma holds_notebookCell : Holds notebookCellTable .notebookCell where
  injective _ _ h := Row.notebookCell.inj h
  mem _ _ := Iff.rfl
  frame t d x h := by cases x <;> first | exact Iff.rfl | exact absurd rfl (h _)

lemma holds_notebookMetadata : Holds notebookMetadataTable .notebookMetadata where
  injective _ _ h := Row.notebookMetadata.inj h
  mem _ _ := Iff.rfl
  frame t d x h := by cases x <;> first | exact Iff.rfl | exact absurd rfl (h _)

lemma holds_executionOutput : Holds executionOutputTable .executionOutput where
  injective _ _ h := Row.executionOutput.inj h
  mem _ _ := Iff.rfl
  frame t d x h := by cases x <;> first | exact Iff.rfl | exact absurd rfl (h _)

lemma holds_notebookDependency : Holds notebookDependencyTable .notebookDependency where
  injective _ _ h := Row.notebookDependency.inj h
  mem _ _ := Iff.rfl
  frame t d x h := by cases x <;> first | exact Iff.rfl | exact absurd rfl (h _)

lemma holds_dependencyOperation : Holds dependencyOperationTable .dependencyOperation where
  injective _ _ h := Row.dependencyOperation.inj h
  mem _ _ := Iff.rfl
  frame t d x h := by cases x <;> first | exact Iff.rfl | exact absurd rfl (h _)

lemma holds_job : Holds jobTable .job where
  injective _ _ h := Row.job.inj h
  mem _ _ := Iff.rfl
  frame t d x h := by cases x <;> first | exact Iff.rfl | exact absurd rfl (h _)

lemma holds_jobExecution : Holds jobExecutionTable .jobExecution where
  injective _ _ h := Row.jobExecution.inj h
  mem _ _ := Iff.rfl
  frame t d x h := by cases x <;> first | exact Iff.rfl | exact absurd rfl (h _)

def Addressed (T : TableOf Database ρ κ) (mk : ρ → Row) (at_ : κ → Address) : Prop :=
  ∀ x k, at_ k ∈ x.address ↔ ∃ r, x = mk r ∧ T.key r = k

lemma addressed_workspace : Addressed workspaceTable .workspace .workspace := by
  intro x k
  cases x <;> simp [workspaceTable]

lemma addressed_project : Addressed projectTable .project .project := by
  intro x k
  cases x <;> simp [projectTable]

lemma addressed_notebook : Addressed notebookTable .notebook .notebook := by
  intro x k
  cases x <;> simp [notebookTable]

lemma addressed_notebookCell : Addressed notebookCellTable .notebookCell .notebookCell := by
  intro x k
  cases x <;> simp [notebookCellTable]

lemma addressed_notebookMetadata : Addressed notebookMetadataTable .notebookMetadata .notebookMetadata := by
  intro x k
  cases x <;> simp [notebookMetadataTable]

lemma addressed_notebookDependency : Addressed notebookDependencyTable .notebookDependency .notebookDependency := by
  intro x k
  cases x <;> simp [notebookDependencyTable]

lemma addressed_job : Addressed jobTable .job .job := by
  intro x k
  cases x <;> simp [jobTable]

namespace Holds

variable (h : Holds T mk)

include h

omit [DecidableEq κ] in
lemma mem_append {r : ρ} {x : Row} : x ∈ rows (T.append r d) ↔ x = mk r ∨ x ∈ rows d := by
  by_cases hx : ∃ r', x = mk r'
  · obtain ⟨r', rfl⟩ := hx
    rw [h.mem, h.mem, T.rows_append, List.mem_append, List.mem_singleton, h.injective.eq_iff, or_comm]
  · have hn : ∀ r', x ≠ mk r' := fun r' he => hx ⟨r', he⟩
    rw [TableOf.append, h.frame _ _ _ hn, or_iff_right (hn r)]

lemma mem_drop {k : κ} {x : Row} :
    x ∈ rows (T.drop k d) ↔ x ∈ rows d ∧ ¬ ∃ r, x = mk r ∧ T.key r = k := by
  by_cases hx : ∃ r', x = mk r'
  · obtain ⟨r', rfl⟩ := hx
    rw [h.mem, h.mem, T.rows_drop, mem_erase]
    apply and_congr_right
    intro _
    constructor
    · rintro hk ⟨r, he, hr⟩
      exact hk (h.injective he ▸ hr)
    · intro hk he
      exact hk ⟨r', rfl, he⟩
  · have hn : ∀ r', x ≠ mk r' := fun r' he => hx ⟨r', he⟩
    rw [TableOf.drop, h.frame _ _ _ hn]
    constructor
    · intro hm
      exact ⟨hm, fun ⟨r, he, _⟩ => hn r he⟩
    · intro hm
      exact hm.1

omit [DecidableEq κ] in
lemma grows_append {r : ρ} (hs : schema.Grows s (rows d))
    (free : ∀ a ∈ (mk r).address, ∀ p ∈ rows d, a ∉ p.address)
    (parent : ∀ a ∈ (mk r).parent, ∃ p ∈ rows d, a ∈ p.address) :
    schema.Grows s (rows (T.append r d)) := by
  have he : rows (T.append r d) = insert (mk r) (rows d) := by
    ext x
    exact h.mem_append
  rw [he]
  exact .insert (mk r) hs free parent

lemma grows_put {k : κ} {old new : ρ} (hs : schema.Grows s (rows d)) (hf : T.find k d = some old)
    (key : T.key new = k) (address : (mk new).address = (mk old).address)
    (parent : (mk new).parent = (mk old).parent) : schema.Grows s (rows (T.put k new d)) := by
  have hnew : new ∈ T.rows (T.put k new d) := lookup_mem (T.find_put_self key hf)
  apply Schema.Grows.rewrite (mk old) (mk new) hs ((h.mem _ _).mpr (lookup_mem hf)) address parent
    ((h.mem _ _).mpr hnew)
  · intro x hx
    by_cases hm : ∃ r', x = mk r'
    · obtain ⟨r', rfl⟩ := hm
      rw [h.mem] at hx ⊢
      rw [T.rows_put]
      exact (mem_replace_of_mem hf hx).imp_left fun he => by rw [he]
    · exact Or.inr ((h.frame _ _ _ fun r' he => hm ⟨r', he⟩).mpr hx)
  · intro x hx
    by_cases hm : ∃ r', x = mk r'
    · obtain ⟨r', rfl⟩ := hm
      rw [h.mem] at hx ⊢
      exact (T.mem_put hx).imp_left fun he => by rw [he]
    · exact Or.inr ((h.frame _ _ _ fun r' he => hm ⟨r', he⟩).mp hx)

end Holds

lemma free_of_find {at_ : κ → Address} {r : ρ} (ha : Addressed T mk at_) (h : Holds T mk)
    (hf : T.find (T.key r) d = none) : ∀ a ∈ (mk r).address, ∀ p ∈ rows d, a ∉ p.address := by
  intro a hr p hp hpa
  have hk : at_ (T.key r) ∈ (mk r).address := (ha _ _).mpr ⟨r, rfl, rfl⟩
  obtain rfl : at_ (T.key r) = a := Option.mem_unique hk hr
  obtain ⟨r', rfl, he⟩ := (ha _ _).mp hpa
  exact lookup_none.mp hf r' ((h.mem _ _).mp hp) he

omit [DecidableEq κ] in
lemma exists_at {at_ : κ → Address} {k : κ} {P : Row → Prop} (ha : Addressed T mk at_) (h : Holds T mk) :
    (∃ p ∈ rows d, at_ k ∈ p.address ∧ P p) ↔ ∃ r ∈ T.rows d, T.key r = k ∧ P (mk r) := by
  constructor
  · rintro ⟨p, hp, hpa, hP⟩
    obtain ⟨r, rfl, hk⟩ := (ha _ _).mp hpa
    exact ⟨r, (h.mem _ _).mp hp, hk, hP⟩
  · rintro ⟨r, hr, hk, hP⟩
    exact ⟨mk r, (h.mem _ _).mpr hr, (ha _ _).mpr ⟨r, rfl, hk⟩, hP⟩

end NotebookExecution.Integrity
