import NotebookExecution.Library.Refusal
import NotebookExecution.Store.Refinement

/-! What a finished request leaves in the committed database. `takes` says of a request whether the
columns take the row that it writes. -/

namespace NotebookExecution.Store

open Library.Transaction Library.Table Library.Text

variable {ρ : Type} {d : Database}

lemma route_success {e : Env} {c : Call} {s t : Session Database} {r : Response}
    (h : route e c s = (.ok r, t)) : r.success = true := by
  cases c with
  | getNotebook k =>
    obtain ⟨n, u, -, hk⟩ := bind_ok_inv h
    rw [read_bind, pure_apply] at hk
    cases hk
    rfl
  | _ =>
    obtain ⟨a, rfl⟩ := map_ok_inv h
    rfl

lemma handle_success {q : Request} {s t : Session Database} {r : Response}
    (h : handle q s = (.ok r, t)) : r.success = true := by
  obtain ⟨u, v, -, hk⟩ := bind_ok_inv h
  exact route_success hk

lemma not_success {r : Response} (h : 400 ≤ r.statusCode) : r.success = false := by
  simp only [Response.success, decide_eq_false_iff_not, not_and, not_lt]
  omega

def answerRefusal : Except (Refusal ServiceError) Response → Response
  | .ok r => r
  | .error (.raised e) => e.response
  -- No service catches it.
  | .error .dataError => ⟨500, .detail "An internal server error occurred."⟩

def serveTaking (takes : Database → Request → Bool) (d : Database) (q : Request) : Response × Database :=
  let outcome := storing (fun _ => takes d q) d (inSession d (handle q))
  (answerRefusal outcome.1, outcome.2)

section Taking

variable (takes : Database → Request → Bool) {q : Request}

lemma serveTaking_refused (h : q.refused d = true) :
    (serveTaking takes d q).1.success = false ∧ (serveTaking takes d q).2 = d := by
  obtain ⟨e, he, hs⟩ := (handle_realises d q).1 h
  have hr : inSession d (handle q) = (.error e, d) := by
    rw [inSession, hs]
    rfl
  rw [serveTaking, hr]
  exact ⟨not_success he, rfl⟩

lemma serveTaking_accepted (h : q.refused d = false) :
    (serveTaking takes d q).1.success = takes d q ∧ (serveTaking takes d q).2 = d := by
  obtain ⟨r, hr⟩ := (handle_realises d q).2 h
  have hs : inSession d (handle q) = (.ok r, d) := hr.inSession
  rw [serveTaking, hs, storing]
  cases takes d q with
  | true => exact ⟨handle_success hr, rfl⟩
  | false => exact ⟨rfl, rfl⟩

theorem serveTaking_success (d : Database) (q : Request) :
    (serveTaking takes d q).1.success = (!q.refused d && takes d q) := by
  cases h : q.refused d with
  | true => exact (serveTaking_refused takes h).1
  | false => exact (serveTaking_accepted takes h).1

theorem serveTaking_committed (d : Database) (q : Request) : (serveTaking takes d q).2 = d := by
  cases h : q.refused d with
  | true => exact (serveTaking_refused takes h).2
  | false => exact (serveTaking_accepted takes h).2

end Taking

lemma serve_eq (d : Database) (q : Request) : serve d q = serveTaking (fun _ _ => true) d q := by
  rw [serve, serveTaking]
  obtain ⟨r, t⟩ := inSession d (handle q)
  cases r <;> rfl

theorem serve_committed (d : Database) (q : Request) : (serve d q).2 = d := by
  rw [serve_eq, serveTaking_committed]

theorem serveAll_committed (d : Database) (qs : List Request) : serveAll d qs = d := by
  induction qs generalizing d with
  | nil => rfl
  | cons q qs ih => rw [serveAll, ih, serve_committed]

def Call.settled (d : Database) : Call → Bool
  | .createWorkspace _ | .createProject _ _ | .createNotebook _ _ | .createCell _ _ => false
  | .deleteWorkspace _ | .deleteProject _ | .deleteNotebook _ | .deleteCell _ _ => false
  | .updateWorkspace k data =>
    Store.settled workspaceTable k (WorkspaceRepository.assign data.name data.description) d
  | .updateProject k data =>
    Store.settled projectTable k (ProjectRepository.assign data.name data.description) d
  | .updateNotebook k data =>
    Store.settled notebookTable k
      (NotebookRepository.assign data.name data.description (data.language.map lower)) d
  | .updateCell _ k data =>
    Store.settled notebookCellTable k
      (NotebookCellRepository.assign data.source (data.cellType.map lower) data.position) d
  | .updateNotebookMetadata n data =>
    d.hasMetadata n &&
      Store.settled notebookMetadataTable n (NotebookMetadataRepository.assign data.configuration) d
  | .listWorkspaces | .getWorkspace _ | .listProjectsInWorkspace _ | .getProject _
  | .listNotebooksInProject _ | .getNotebook _ | .listCellsInNotebook _ | .getCell _ _
  | .getNotebookMetadata _ => true

lemma amend_eq_self [DecidableEq ρ] {T : TableOf Database ρ Uuid} {k : Uuid} {assign stamp : ρ → ρ}
    (hs : ∀ r, stamp (assign r) = r → assign r = r) :
    amend T k assign stamp d = d ↔ settled T k assign d = true := by
  rw [amend, settled]
  cases hf : T.find k d with
  | none => simp
  | some r =>
    by_cases ha : assign r = r
    · simp [ha]
    · have hr : stamp (assign r) ≠ r := fun h => ha (hs r h)
      simp [ha, T.put_eq_self hf, hr]

lemma delete_changes {T : TableOf Database ρ Uuid} {k : Uuid} {cascade : Database → Database}
    (hc : ∀ d, T.rows (cascade d) = T.rows d) (h : (T.find k d).isSome = true) :
    cascade (T.drop k d) ≠ d := by
  intro heq
  have hr : erase T.key k (T.rows d) = T.rows d := by
    rw [← T.rows_drop k d, ← hc (T.drop k d), heq]
  rw [show T.find k d = none from erase_eq_self.mp hr] at h
  cases h

lemma workspace_stamp {e : Env} {name description : Option String} (w : Workspace)
    (h : WorkspaceRepository.stamp e (WorkspaceRepository.assign name description w) = w) :
    WorkspaceRepository.assign name description w = w := by
  cases w
  simp_all [WorkspaceRepository.stamp, WorkspaceRepository.assign]

lemma project_stamp {e : Env} {name description : Option String} (p : Project)
    (h : ProjectRepository.stamp e (ProjectRepository.assign name description p) = p) :
    ProjectRepository.assign name description p = p := by
  cases p
  simp_all [ProjectRepository.stamp, ProjectRepository.assign]

lemma notebook_stamp {e : Env} {name description language : Option String} (n : Notebook)
    (h : NotebookRepository.stamp e (NotebookRepository.assign name description language n) = n) :
    NotebookRepository.assign name description language n = n := by
  cases n
  simp_all [NotebookRepository.stamp, NotebookRepository.assign]

lemma notebookCell_stamp {e : Env} {source cellType : Option String} {position : Option ℤ}
    (c : NotebookCell)
    (h : NotebookCellRepository.stamp e (NotebookCellRepository.assign source cellType position c) = c) :
    NotebookCellRepository.assign source cellType position c = c := by
  cases c
  simp_all [NotebookCellRepository.stamp, NotebookCellRepository.assign]

lemma notebookMetadata_stamp {e : Env} {configuration : Json} (m : NotebookMetadata)
    (h : NotebookMetadataRepository.stamp e (NotebookMetadataRepository.assign configuration m) = m) :
    NotebookMetadataRepository.assign configuration m = m := by
  cases m
  simp_all [NotebookMetadataRepository.stamp, NotebookMetadataRepository.assign]

theorem effect_eq_self {q : Request} (h : q.refused d = false) :
    q.effect d = d ↔ q.call.settled d = true := by
  obtain ⟨e, c⟩ := q
  have hc : c.refused e d = false := (Bool.or_eq_false_iff.mp h).2
  cases c with
  | createWorkspace data => simpa [Call.settled] using! workspaceTable.append_ne _ d
  | createProject w data => simpa [Call.settled] using! projectTable.append_ne _ d
  | createNotebook p data => simpa [Call.settled] using! notebookTable.append_ne _ d
  | createCell n data => simpa [Call.settled] using! notebookCellTable.append_ne _ d
  | updateWorkspace k data => exact amend_eq_self workspace_stamp
  | updateProject k data => exact amend_eq_self project_stamp
  | updateNotebook k data => exact amend_eq_self notebook_stamp
  | updateCell n k data => exact amend_eq_self notebookCell_stamp
  | deleteWorkspace k =>
    have hk : (workspaceTable.find k d).isSome = true := by
      simpa [Call.refused, Database.hasWorkspace] using hc
    have hd : cascadeWorkspace (· = k) (workspaceTable.drop k d) ≠ d := delete_changes (fun _ => rfl) hk
    simpa [Call.settled] using! hd
  | deleteProject k =>
    have hk : (projectTable.find k d).isSome = true := by
      simpa [Call.refused, Database.hasProject] using hc
    have hd : cascadeProject (· = k) (projectTable.drop k d) ≠ d := delete_changes (fun _ => rfl) hk
    simpa [Call.settled] using! hd
  | deleteNotebook k =>
    have hk : (notebookTable.find k d).isSome = true := by
      simpa [Call.refused, Database.hasNotebook] using hc
    have hd : cascadeNotebook (· = k) (notebookTable.drop k d) ≠ d := delete_changes (fun _ => rfl) hk
    simpa [Call.settled] using! hd
  | deleteCell n k =>
    have hk : (notebookCellTable.find k d).isSome = true := by
      simp only [Call.refused, Bool.or_eq_false_iff, Bool.not_eq_false', Database.hasCellIn] at hc
      exact Option.isSome_of_any hc.2
    have hd : id (notebookCellTable.drop k d) ≠ d := delete_changes (fun _ => rfl) hk
    simpa [Call.settled] using! hd
  | updateNotebookMetadata n data =>
    cases hm : d.hasMetadata n with
    | true =>
      simpa [Request.effect, Call.effect, Call.settled, hm] using amend_eq_self notebookMetadata_stamp
    | false =>
      simpa [Request.effect, Call.effect, Call.settled, hm] using notebookMetadataTable.append_ne _ d
  | _ => simp [Request.effect, Call.effect, Call.settled]

def Durable (takes : Database → Request → Bool) (d : Database) : List Request → Prop
  | [] => True
  | q :: qs =>
    (serveTaking takes d q).2 = (if (serveTaking takes d q).1.success then q.effect d else d) ∧
      Durable takes (serveTaking takes d q).2 qs

variable (takes : Database → Request → Bool)

theorem serve_durable (d : Database) (q : Request) :
    (serveTaking takes d q).2 = (if (serveTaking takes d q).1.success then q.effect d else d) ↔
      (q.refused d = true ∨ takes d q = false ∨ q.call.settled d = true) := by
  rw [serveTaking_success, serveTaking_committed]
  cases h : q.refused d with
  | true => simp
  | false =>
    rw [← effect_eq_self h]
    cases takes d q with
    | true => simpa using eq_comm
    | false => simp

theorem durable_iff (d : Database) (qs : List Request) :
    Durable takes d qs ↔
      ∀ q ∈ qs, q.refused d = true ∨ takes d q = false ∨ q.call.settled d = true := by
  induction qs generalizing d with
  | nil => simp [Durable]
  | cons q qs ih => rw [Durable, serve_durable, serveTaking_committed, ih, List.forall_mem_cons]

theorem created_workspace_lost :
    (serveTaking (fun _ _ => true) .empty ⟨⟨1, 0⟩, .createWorkspace ⟨"alpha", none⟩⟩).1.success = true ∧
      ¬ Durable (fun _ _ => true) .empty [⟨⟨1, 0⟩, .createWorkspace ⟨"alpha", none⟩⟩] := by
  refine ⟨rfl, fun h => ?_⟩
  have hw := congrArg Database.workspaces h.1
  cases hw

end NotebookExecution.Store
