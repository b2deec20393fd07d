import NotebookExecution.Dependencies.Manager
import NotebookExecution.Integrity.Rows
import NotebookExecution.Jobs.Effects
import NotebookExecution.Output.Repositories
import NotebookExecution.Store.Refinement

/-! The operations that create and delete rows, each on a session of its own that is committed when it
returns. -/

namespace NotebookExecution.Integrity

open Library.Transaction Library.Table Library.References Store
open Dependencies Dependencies.DependencyManager Output
open Jobs (JobCall)
open Jobs.JobManager (Outside triggerJobExecution)

inductive Operation
  | store (q : Request)
  | deleteMetadata (notebookId : Uuid)
  | persistOutputs (events : List (Env × OutputEventSchema))
  | declareDependency (e : Env) (notebookId : Uuid) (packageName : String) (versionSpecifier : Option String)
  | deleteDependency (dependencyId : Uuid)
  | installDependencies (w : Runtime) (x : Setting) (timeout : Seconds) (notebookId : Uuid)
      (sessionId : Option String)
  | job (c : JobCall)
  | trigger (w : Outside) (jobId : Uuid) (known : Option {job : Job // job.id = jobId})
      (triggerType : TriggerType)

def perform (E : Jobs.Environment) (d : Database) : Operation → Database
  | .store q => (request d (handle q)).2
  | .deleteMetadata notebookId =>
    (request d (NotebookMetadataRepository.delete notebookId : Tx Database ServiceError Bool)).2
  | .persistOutputs events => (request d (ExecutionOutputRepository.bulkCreate events)).2
  | .declareDependency e notebookId packageName versionSpecifier =>
    (request d (declareDependency e notebookId packageName versionSpecifier)).2
  | .deleteDependency k =>
    (request d (deleteDependency k : Tx Database DependencyFailure Bool)).2
  | .installDependencies w x timeout notebookId sessionId =>
    (request d (installNotebookDependencies w x timeout notebookId sessionId)).2
  | .job c => Jobs.perform E d c
  | .trigger w k known triggerType =>
    (request d (triggerJobExecution w (known.map Subtype.val) k triggerType)).2

def Operation.deletes : Operation → Option Address
  | .store q =>
    match q.call with
    | .deleteWorkspace k => some (.workspace k)
    | .deleteProject k => some (.project k)
    | .deleteNotebook k => some (.notebook k)
    | .deleteCell _ k => some (.notebookCell k)
    | _ => none
  | .deleteMetadata notebookId => some (.notebookMetadata notebookId)
  | .deleteDependency k => some (.notebookDependency k)
  | .job (.deleteJob k) => some (.job k)
  | _ => none

def Growing (d : Database) (s : Session Database) : Prop :=
  s.committed = d ∧ schema.Grows (rows d) (rows s.view)

variable {E : Jobs.Environment} {ε ρ κ α : Type} [DecidableEq κ] {T : TableOf Database ρ κ} {mk : ρ → Row}
  {d : Database}

lemma request_grows {p : Tx Database ε α} (hp : Keeps (Growing d) p) :
    schema.Grows (rows d) (rows (request d p).2) :=
  request_keeps (I := fun t => schema.Grows (rows d) (rows t)) hp .refl

lemma there {at_ : κ → Address} {k : κ} (ha : Addressed T mk at_) (h : Holds T mk)
    (hk : (T.rows d).all (fun r => T.key r ≠ k) = false) : ∃ p ∈ rows d, at_ k ∈ p.address := by
  rw [List.all_eq_false] at hk
  obtain ⟨r, hr, hk⟩ := hk
  have hk : T.key r = k := by simpa using hk
  exact ⟨mk r, (h.mem _ _).mpr hr, (ha _ _).mpr ⟨r, rfl, hk⟩⟩

lemma there_of_find {at_ : κ → Address} {k : κ} {r : ρ} (ha : Addressed T mk at_) (h : Holds T mk)
    (hf : T.find k d = some r) : ∃ p ∈ rows d, at_ k ∈ p.address :=
  ⟨mk r, (h.mem _ _).mpr (lookup_mem hf), (ha _ _).mpr ⟨r, rfl, lookup_key hf⟩⟩

lemma insert_growing {clash : Database → ρ → Bool} {err : ε} {r : ρ} (h : Holds T mk)
    (free : ∀ t, T.find (T.key r) t = none → ∀ a ∈ (mk r).address, ∀ p ∈ rows t, a ∉ p.address)
    (parent : ∀ t, schema.Grows (rows d) (rows t) → clash t r = false →
      ∀ a ∈ (mk r).parent, ∃ p ∈ rows t, a ∈ p.address) :
    Keeps (Growing d) (T.insert clash err r) := by
  refine T.insert_keeps fun s hs ho => ?_
  obtain ⟨hc, hs⟩ := hs
  obtain ⟨hf, hclash⟩ := T.occupied_inv ho
  exact ⟨hc, h.grows_append hs (free _ hf) (parent _ hs hclash)⟩

structure Stays (T : TableOf Database ρ κ) (mk : ρ → Row) (f : ρ → ρ) : Prop where
  key : ∀ r, T.key (f r) = T.key r
  address : ∀ r, (mk (f r)).address = (mk r).address
  parent : ∀ r, (mk (f r)).parent = (mk r).parent

lemma Stays.grows {s : Set Row} {k : κ} {r : ρ} {f : ρ → ρ} (hf : Stays T mk f) (h : Holds T mk)
    (hs : schema.Grows s (rows d)) (hr : T.find k d = some r) : schema.Grows s (rows (T.put k (f r) d)) :=
  h.grows_put hs hr ((hf.key r).trans (lookup_key hr)) (hf.address r) (hf.parent r)

lemma append_grows {clash : Database → ρ → Bool} {r : ρ} {at_ : κ → Address} (h : Holds T mk)
    (ha : Addressed T mk at_) (ho : T.occupied clash r d = false)
    (parent : clash d r = false → ∀ a ∈ (mk r).parent, ∃ p ∈ rows d, a ∈ p.address) :
    schema.Grows (rows d) (rows (T.append r d)) := by
  obtain ⟨hf, hc⟩ := T.occupied_inv ho
  exact h.grows_append .refl (free_of_find ha h hf) (parent hc)

variable [DecidableEq ρ]

lemma update_growing {clash : Database → ρ → Bool} {err : ε} {k : κ} {assign stamp : ρ → ρ}
    (h : Holds T mk) (hf : Stays T mk (fun r => stamp (assign r))) :
    Keeps (Growing d) (T.update clash err k assign stamp) := by
  refine T.update_keeps fun s r hs hr _ => ?_
  exact ⟨hs.1, hf.grows h hs.2 hr⟩

lemma amend_grows {T : TableOf Database ρ Uuid} {k : Uuid} {assign stamp : ρ → ρ} (h : Holds T mk)
    (hf : Stays T mk (fun r => stamp (assign r))) :
    schema.Grows (rows d) (rows (amend T k assign stamp d)) := by
  rw [amend]
  cases hr : T.find k d with
  | none => exact .refl
  | some r =>
    by_cases ha : assign r = r
    · simp only [ha, if_true]
      exact .refl
    · simp only [ha, if_false]
      exact hf.grows h .refl hr

end NotebookExecution.Integrity
