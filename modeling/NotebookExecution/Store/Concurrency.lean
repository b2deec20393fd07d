import NotebookExecution.Library.Enforcement
import NotebookExecution.Store.Refinement
import NotebookExecution.Store.Statements

/-! Requests of any number of clients whose statements interleave: the unique columns stay unique, and
a request that collides changes nothing. It answers 409 unless it is the upsert of the metadata of a
notebook, whose service catches no IntegrityError. Every request is a client of its own. -/

namespace NotebookExecution.Store.Interleaved

open Library.Transaction Library.Table Library.Statements Library.Constraints Library.Enforcement
open Library.Isolation Library.Runs

structure Unique (d : Database) : Prop where
  workspaces : (d.workspaces.map Workspace.name).Nodup
  projects : (d.projects.map fun p => (p.workspaceId, p.name)).Nodup
  notebooks : (d.notebooks.map fun n => (n.projectId, n.name)).Nodup
  notebookCells : (d.notebookCells.map fun c => (c.notebookId, c.position)).Nodup

structure Constrained (d : Database) : Prop extends Unique d where
  workspaceIds : (d.workspaces.map Workspace.id).Nodup
  projectIds : (d.projects.map Project.id).Nodup
  notebookIds : (d.notebooks.map Notebook.id).Nodup
  notebookCellIds : (d.notebookCells.map NotebookCell.id).Nodup

lemma Unique.positions {d : Database} (h : Unique d) (n : Uuid) :
    (Store.NotebookCellRepository.cellsOf n d).Pairwise fun x y => x.position < y.position := by
  have : Std.Total fun x y : NotebookCell => x.position ≤ y.position := ⟨fun x y => le_total _ _⟩
  have : IsTrans NotebookCell fun x y => x.position ≤ y.position := ⟨fun x y z => le_trans⟩
  have hperm := List.perm_insertionSort (fun x y : NotebookCell => x.position ≤ y.position)
    (d.notebookCells.filter fun c => c.notebookId = n)
  have hsorted := List.pairwise_insertionSort (fun x y : NotebookCell => x.position ≤ y.position)
    (d.notebookCells.filter fun c => c.notebookId = n)
  have hnodup : (Store.NotebookCellRepository.cellsOf n d).Pairwise fun x y =>
      (x.notebookId, x.position) ≠ (y.notebookId, y.position) := by
    rw [← List.pairwise_map]
    exact (hperm.map _).nodup_iff.mpr (h.notebookCells.sublist (List.filter_sublist.map _))
  refine (hsorted.and hnodup).imp_of_mem ?_
  rintro x y hx hy ⟨hle, hne⟩
  refine lt_of_le_of_ne hle fun he => hne ?_
  have hn : ∀ z ∈ Store.NotebookCellRepository.cellsOf n d, z.notebookId = n := by
    intro z hz
    exact of_decide_eq_true (List.mem_filter.mp (hperm.subset hz)).2
  rw [hn x hx, hn y hy, he]

section Parts

variable {w : Write} {d : Database}

lemma stored_inv (h : engine.flush w d = .stored) : w.refused d = false ∧ w.missed d = false := by
  rw [Engine.flush] at h
  split at h
  · cases h
  · next hr =>
    split at h
    · cases h
    · next hm => exact ⟨Bool.eq_false_iff.mpr hr, Bool.eq_false_iff.mpr hm⟩

def workspacesPart : Part engine workspaces where
  change
    | .workspace x => some x
    | _ => none
  apply w x d h := by
    cases w <;> cases h
    rfl
  stored w x d h hw := by
    cases w <;> cases h
    exact stored_inv hw
  apart v w x y d hv hw h := by
    cases v <;> cases hv
    cases w <;> cases hw
    exact h
  elsewhere w d h := by
    cases w with
    | workspace x => cases h
    | project x => exact x.elsewhere (fun _ _ => rfl) fun _ _ => List.Sublist.refl _
    | notebook x => exact x.elsewhere (fun _ _ => rfl) fun _ _ => List.Sublist.refl _
    | notebookCell x => exact x.elsewhere (fun _ _ => rfl) fun _ _ => List.Sublist.refl _
    | notebookMetadata x => exact x.elsewhere (fun _ _ => rfl) fun _ _ => List.Sublist.refl _

def projectsPart : Part engine projects where
  change
    | .project x => some x
    | _ => none
  apply w x d h := by
    cases w <;> cases h
    rfl
  stored w x d h hw := by
    cases w <;> cases h
    exact stored_inv hw
  apart v w x y d hv hw h := by
    cases v <;> cases hv
    cases w <;> cases hw
    exact h
  elsewhere w d h := by
    cases w with
    | workspace x => exact x.elsewhere (fun _ _ => rfl) fun _ _ => List.filter_sublist
    | project x => cases h
    | notebook x => exact x.elsewhere (fun _ _ => rfl) fun _ _ => List.Sublist.refl _
    | notebookCell x => exact x.elsewhere (fun _ _ => rfl) fun _ _ => List.Sublist.refl _
    | notebookMetadata x => exact x.elsewhere (fun _ _ => rfl) fun _ _ => List.Sublist.refl _

def notebooksPart : Part engine notebooks where
  change
    | .notebook x => some x
    | _ => none
  apply w x d h := by
    cases w <;> cases h
    rfl
  stored w x d h hw := by
    cases w <;> cases h
    exact stored_inv hw
  apart v w x y d hv hw h := by
    cases v <;> cases hv
    cases w <;> cases hw
    exact h
  elsewhere w d h := by
    cases w with
    | workspace x => exact x.elsewhere (fun _ _ => rfl) fun _ _ => List.filter_sublist
    | project x => exact x.elsewhere (fun _ _ => rfl) fun _ _ => List.filter_sublist
    | notebook x => cases h
    | notebookCell x => exact x.elsewhere (fun _ _ => rfl) fun _ _ => List.Sublist.refl _
    | notebookMetadata x => exact x.elsewhere (fun _ _ => rfl) fun _ _ => List.Sublist.refl _

def notebookCellsPart : Part engine notebookCells where
  change
    | .notebookCell x => some x
    | _ => none
  apply w x d h := by
    cases w <;> cases h
    rfl
  stored w x d h hw := by
    cases w <;> cases h
    exact stored_inv hw
  apart v w x y d hv hw h := by
    cases v <;> cases hv
    cases w <;> cases hw
    exact h
  elsewhere w d h := by
    cases w with
    | workspace x => exact x.elsewhere (fun _ _ => rfl) fun _ _ => List.filter_sublist
    | project x => exact x.elsewhere (fun _ _ => rfl) fun _ _ => List.filter_sublist
    | notebook x => exact x.elsewhere (fun _ _ => rfl) fun _ _ => List.filter_sublist
    | notebookCell x => cases h
    | notebookMetadata x => exact x.elsewhere (fun _ _ => rfl) fun _ _ => List.Sublist.refl _

end Parts

abbrev Requests := Server Query Database Write ServiceError Response Request

abbrev step : Requests → Action Request → Option Requests := Server.step engine handle

structure Enforced (s : Requests) : Prop where
  workspaces : workspacesPart.Keeps s
  projects : projectsPart.Keeps s
  notebooks : notebooksPart.Keeps s
  notebookCells : notebookCellsPart.Keeps s

section Runs

variable {d : Database} {s t : Requests} {as : List (Action Request)} {c : ℕ}

lemma enforced_exec (hd : Constrained d) (h : exec step (.opened d) as = some t) : Enforced t where
  workspaces := Part.keeps_exec h (Part.keeps_opened hd.workspaceIds hd.workspaces)
  projects := Part.keeps_exec h (Part.keeps_opened hd.projectIds hd.projects)
  notebooks := Part.keeps_exec h (Part.keeps_opened hd.notebookIds hd.notebooks)
  notebookCells := Part.keeps_exec h (Part.keeps_opened hd.notebookCellIds hd.notebookCells)

lemma Enforced.database (h : Enforced s) : Unique s.database :=
  ⟨h.workspaces.values, h.projects.values, h.notebooks.values, h.notebookCells.values⟩

lemma Enforced.view (h : Enforced s) : Unique (s.view engine c) :=
  ⟨h.workspaces.view, h.projects.view, h.notebooks.view, h.notebookCells.view⟩

end Runs

/-! ## What a pre-check sees -/

def workspaceTaken (d : Database) : Call → Bool
  | .createWorkspace data => d.workspaceNamed data.name
  | .updateWorkspace k data => data.name.any fun name => d.workspaceNamedBeside name k
  | _ => false

def projectTaken (workspaceId : Uuid) (d : Database) : Call → Bool
  | .createProject _ data => d.projectNamed workspaceId data.name
  | .updateProject k data => data.name.any fun name =>
    d.projects.any fun p => p.workspaceId = workspaceId ∧ p.name = name ∧ p.id ≠ k
  | _ => false

def notebookTaken (projectId : Uuid) (d : Database) : Call → Bool
  | .createNotebook _ data => d.notebookNamed projectId data.name
  | .updateNotebook k data => data.name.any fun name =>
    d.notebooks.any fun n => n.projectId = projectId ∧ n.name = name ∧ n.id ≠ k
  | _ => false

def notebookCellTaken (notebookId : Uuid) (d : Database) : Call → Bool
  | .createCell _ data => d.cellAt notebookId data.position
  | .updateCell _ k data => data.position.any fun position => d.cellAtBeside notebookId position k
  | _ => false

def taken (c : Call) : Query → Database → Bool
  | .workspaces, d => workspaceTaken d c
  | .projects w, d => projectTaken w d c
  | .notebooks p, d => notebookTaken p d c
  | .notebookCells n, d => notebookCellTaken n d c
  | _, _ => false

def Conflict (e : ServiceError) : Prop := e.response.statusCode = 409

def writesMetadata : Call → Bool
  | .updateNotebookMetadata .. => true
  | _ => false

def Raises : Call → ServiceError → Prop
  | .updateNotebookMetadata .. => (· = .integrityError)
  | _ => Conflict

lemma raises_integrityError {c : Call} {e : ServiceError} (hc : writesMetadata c = true)
    (he : Raises c e) : e = .integrityError := by
  cases c <;> cases hc
  exact he

section Guards

variable {α β ρ υ : Type} {sees : Query → Database → Bool} {G : ServiceError → Prop} {b : Bool}
  {R : Repository ρ υ} {k : Uuid}

lemma looks_select {q : Query} {f : Database → α} (h : ∀ d, sees q d = false) :
    (select q f).Looks sees G := by
  intro d
  refine ⟨fun hd => ?_, trivial⟩
  rw [h d] at hd
  cases hd

lemma looks_pure {a : α} : (pure a : Statements α).Looks sees G := trivial

lemma looks_refuseIf {x : Bool} {statusCode : ℕ} {detail : String} :
    (refuseIf x statusCode detail).Looks sees G := by
  cases x <;> trivial

lemma looks_orRaise {e : ServiceError} {o : Option α} : (orRaise e o).Looks sees G := by
  cases o <;> trivial

lemma looks_elim {o : Option β} {a : α} {f : β → Statements α}
    (hf : ∀ x, o = some x → (f x).Looks sees G) : (o.elim (pure a) f).Looks sees G := by
  cases o with
  | none => trivial
  | some x => exact hf x rfl

lemma looks_getById (hq : ∀ k d, sees (R.query k) d = false) : (R.getById k).Looks sees G :=
  looks_select (hq k)

lemma looks_found (hq : ∀ k d, sees (R.query k) d = false) {e : ServiceError} :
    (R.getById k >>= orRaise e).Looks sees G :=
  (looks_getById hq).bind fun _ => looks_orRaise

lemma fails_refuseIf {x : Bool} {detail : String} (hx : x = true) :
    (refuseIf x 409 detail).Fails Conflict := by
  rw [hx]
  exact rfl

section Listing

variable {q : Query} {f : Database → α} {x : α → Bool} {detail : String}
  (h : ∀ d, sees q d = true → x (f d) = true)

include h

lemma looks_checked : (select q f >>= fun l => refuseIf (x l) 409 detail).Looks sees Conflict :=
  fun d => ⟨fun hd => fails_refuseIf (h d hd), looks_refuseIf⟩

lemma looks_holding {r : α → β} :
    (select q f >>= fun l => refuseIf (x l) 409 detail >>= fun _ => pure (r l)).Looks sees Conflict :=
  fun d => ⟨fun hd => (fails_refuseIf (h d hd)).bind, looks_refuseIf.bind fun _ => trivial⟩

lemma guarded_checked {p : Statements β} (hp : p.Guarded engine sees Conflict b) :
    (select q f >>= fun l => refuseIf (x l) 409 detail >>= fun _ => p).Guarded engine sees Conflict
      b :=
  fun d => ⟨fun hd => (fails_refuseIf (h d hd)).bind, looks_refuseIf.then_guarded fun _ => hp⟩

end Listing

lemma guarded_flush {w : Write} {f : Unit → Statements α}
    (hw : ∀ d, engine.flush w d = .refused → G .integrityError)
    (hf : (f ()).Looks sees G) : (flush w >>= f).Guarded engine sees G false :=
  ⟨rfl, fun d hd => ⟨hw d hd, trivial⟩, hf.guarded, trivial⟩

section Repository

variable (hq : ∀ k d, sees (R.query k) d = false)
  (hG : G .integrityError)

include hq

lemma looks_refresh : (R.refresh k).Looks sees G := looks_found hq

include hG

lemma guarded_create {r : ρ} : (R.create r).Guarded engine sees G false :=
  guarded_flush (fun _ _ => hG) (looks_refresh hq)

lemma guarded_update {held : Option ρ} {edit : ρ → Option (Edit R.table)} :
    (R.update k held edit).Guarded engine sees G false := by
  refine (looks_getById hq).then_guarded fun o => ?_
  cases o with
  | none => trivial
  | some r =>
    have hrefresh : (R.refresh k >>= fun r => pure (some r)).Looks sees G :=
      (looks_refresh hq).bind fun _ => trivial
    change (R.flushEdit k (edit (held.getD r)) >>= _).Guarded engine sees G false
    cases edit (held.getD r) with
    | none => exact hrefresh.guarded
    | some e => exact guarded_flush (fun _ _ => hG) hrefresh

omit hG

lemma guarded_delete : (R.delete k).Guarded engine sees G false := by
  refine (looks_getById hq).then_guarded fun o => ?_
  cases o with
  | none => trivial
  | some r =>
    refine guarded_flush (fun d hd => ?_) trivial
    rw [R.flush_write] at hd
    cases hd

end Repository

lemma guarded_orConflict {p : Statements α} {detail : String}
    (hp : p.Guarded engine sees (Eq .integrityError) b) :
    (orConflict detail p).Guarded engine sees Conflict b := by
  refine hp.catch ?_ ?_
  · rintro e rfl
    exact rfl
  · intro e b
    cases e <;> trivial

section Conflicts

variable (hq : ∀ k d, sees (R.query k) d = false) {detail : String}

include hq

lemma guarded_createOrConflict {r : ρ} :
    (orConflict detail (R.create r)).Guarded engine sees Conflict false :=
  guarded_orConflict (guarded_create hq rfl)

lemma guarded_updateOrConflict {held : Option ρ} {edit : ρ → Option (Edit R.table)} {missing : String} :
    (orConflict detail (R.update k held edit >>= orNotFound missing)).Guarded engine sees Conflict
      false :=
  guarded_orConflict ((guarded_update hq rfl).then_looks fun _ => looks_orRaise)

lemma guarded_deleteOrNotFound :
    (R.delete k >>= fun deleted => refuseIf (!deleted) 404 detail).Guarded engine sees Conflict
      false :=
  (guarded_delete hq).then_looks fun _ => looks_refuseIf

end Conflicts

end Guards

/-! ## Every request is guarded -/

section Calls

variable {G : ServiceError → Prop} {c : Call} (e : Env) (k : Uuid)

lemma looks_getWorkspace : (WorkspaceService.getWorkspace k).Looks (taken c) G :=
  looks_found (R := WorkspaceRepository.repository) fun _ _ => rfl

lemma looks_getProject : (ProjectService.getProject k).Looks (taken c) G :=
  looks_found (R := ProjectRepository.repository) fun _ _ => rfl

lemma looks_getNotebook : (NotebookService.getNotebook k).Looks (taken c) G :=
  looks_found (R := NotebookRepository.repository) fun _ _ => rfl

abbrev Guards (c : Call) {α : Type} (p : Statements α) : Prop :=
  p.Guarded engine (taken c) (Raises c) false

lemma guards_createWorkspace (data : WorkspaceCreate) :
    Guards (.createWorkspace data) (WorkspaceService.createWorkspace e data) := by
  refine guarded_checked (fun d hd => ?_)
    (guarded_createOrConflict (R := WorkspaceRepository.repository) fun _ _ => rfl)
  rw [WorkspaceRepository.workspacesOf, any_sorted]
  exact hd

lemma guards_updateWorkspace (data : WorkspaceUpdate) :
    Guards (.updateWorkspace k data) (WorkspaceService.updateWorkspace e k data) := by
  refine (looks_getWorkspace k).then_guarded fun _ => ?_
  refine (looks_elim fun name hname => looks_holding fun d hd => ?_).then_guarded fun held =>
    guarded_updateOrConflict (R := WorkspaceRepository.repository) fun _ _ => rfl
  rw [WorkspaceRepository.workspacesOf, any_sorted]
  have hn : data.name.any (fun name => d.workspaceNamedBeside name k) = true := hd
  rw [hname] at hn
  exact hn

lemma guards_deleteWorkspace :
    Guards (.deleteWorkspace k) (WorkspaceService.deleteWorkspace k) :=
  (looks_getWorkspace k).then_guarded fun _ =>
    guarded_deleteOrNotFound (R := WorkspaceRepository.repository) fun _ _ => rfl

lemma guards_createProject (data : ProjectCreate) :
    Guards (.createProject k data) (ProjectService.createProject e k data) := by
  refine (looks_getWorkspace k).then_guarded fun _ => guarded_checked (fun d hd => ?_)
    (guarded_createOrConflict (R := ProjectRepository.repository) fun _ _ => rfl)
  have hn : d.projectNamed k data.name = true := hd
  rw [ProjectRepository.projectsOf, any_filter_sorted]
  simpa [Database.projectNamed] using hn

lemma guards_updateProject (data : ProjectUpdate) :
    Guards (.updateProject k data) (ProjectService.updateProject e k data) := by
  refine (looks_getProject k).then_guarded fun p => ?_
  refine (looks_elim fun name hname => looks_checked fun d hd => ?_).then_guarded fun _ =>
    guarded_updateOrConflict (R := ProjectRepository.repository) fun _ _ => rfl
  have hn : data.name.any (fun name => d.projects.any fun r =>
      r.workspaceId = p.workspaceId ∧ r.name = name ∧ r.id ≠ k) = true := hd
  rw [hname] at hn
  rw [ProjectRepository.projectsOf, any_filter_sorted]
  simpa using hn

lemma guards_deleteProject : Guards (.deleteProject k) (ProjectService.deleteProject k) :=
  (looks_getProject k).then_guarded fun _ =>
    guarded_deleteOrNotFound (R := ProjectRepository.repository) fun _ _ => rfl

lemma looks_validateLanguage (language : String) :
    (NotebookService.validateLanguage language).Looks (taken c) G :=
  looks_refuseIf.bind fun _ => looks_pure

lemma guards_createNotebook (data : NotebookCreate) :
    Guards (.createNotebook k data) (NotebookService.createNotebook e k data) := by
  refine (looks_getProject k).then_guarded fun _ => ?_
  refine (looks_validateLanguage data.language).then_guarded fun language =>
    guarded_checked (fun d hd => ?_)
      (guarded_createOrConflict (R := NotebookRepository.repository) fun _ _ => rfl)
  have hn : d.notebookNamed k data.name = true := hd
  rw [NotebookRepository.notebooksOf, any_filter_sorted]
  simpa [Database.notebookNamed] using hn

lemma guards_updateNotebook (data : NotebookUpdate) :
    Guards (.updateNotebook k data) (NotebookService.updateNotebook e k data) := by
  refine (looks_getNotebook k).then_guarded fun n => ?_
  refine (looks_elim fun _ _ => looks_refuseIf).then_guarded fun _ => ?_
  refine (looks_elim fun name hname => looks_checked fun d hd => ?_).then_guarded fun _ =>
    guarded_updateOrConflict (R := NotebookRepository.repository) fun _ _ => rfl
  have hn : data.name.any (fun name => d.notebooks.any fun r =>
      r.projectId = n.projectId ∧ r.name = name ∧ r.id ≠ k) = true := hd
  rw [hname] at hn
  rw [NotebookRepository.notebooksOf, any_filter_sorted]
  simpa using hn

lemma guards_deleteNotebook : Guards (.deleteNotebook k) (NotebookService.deleteNotebook k) :=
  (looks_getNotebook k).then_guarded fun _ =>
    guarded_deleteOrNotFound (R := NotebookRepository.repository) fun _ _ => rfl

lemma looks_getCell (j : Uuid) : (NotebookCellService.getCell k j).Looks (taken c) G := by
  refine (looks_getNotebook k).bind fun _ => ?_
  refine (looks_getById (R := NotebookCellRepository.repository) fun _ _ => rfl).bind fun _ => ?_
  exact looks_orRaise.bind fun _ => looks_refuseIf.bind fun _ => trivial

lemma looks_validateCellType (cellType : String) :
    (NotebookCellService.validateCellType cellType).Looks (taken c) G :=
  looks_refuseIf.bind fun _ => looks_pure

lemma guards_createCell (data : NotebookCellCreate) :
    Guards (.createCell k data) (NotebookCellService.createCell e k data) := by
  refine (looks_getNotebook k).then_guarded fun _ => ?_
  refine (looks_validateCellType data.cellType).then_guarded fun cellType =>
    guarded_checked (fun d hd => ?_)
      (guarded_createOrConflict (R := NotebookCellRepository.repository) fun _ _ => rfl)
  have hn : d.cellAt k data.position = true := hd
  rw [NotebookCellRepository.cellsOf, any_filter_sorted]
  simpa [Database.cellAt] using hn

lemma guards_updateCell (j : Uuid) (data : NotebookCellUpdate) :
    Guards (.updateCell k j data) (NotebookCellService.updateCell e k j data) := by
  refine (looks_getCell k j).then_guarded fun _ => ?_
  refine (looks_elim fun _ _ => looks_refuseIf).then_guarded fun _ => ?_
  refine (looks_elim fun position hposition => looks_holding fun d hd => ?_).then_guarded fun held =>
    guarded_updateOrConflict (R := NotebookCellRepository.repository) fun _ _ => rfl
  have hn : data.position.any (fun position => d.cellAtBeside k position j) = true := hd
  rw [hposition] at hn
  rw [NotebookCellRepository.cellsOf, any_filter_sorted]
  simpa [Database.cellAtBeside] using hn

lemma guards_deleteCell (j : Uuid) :
    Guards (.deleteCell k j) (NotebookCellService.deleteCell k j) :=
  (looks_getCell k j).then_guarded fun _ =>
    guarded_deleteOrNotFound (R := NotebookCellRepository.repository) fun _ _ => rfl

lemma guards_updateMetadata (data : NotebookMetadataUpdate) :
    Guards (.updateNotebookMetadata k data) (NotebookMetadataService.updateMetadata e k data) := by
  have hrow : ∀ j d, taken (.updateNotebookMetadata k data)
      (NotebookMetadataRepository.repository.query j) d = false := fun _ _ => rfl
  have hraises : Raises (.updateNotebookMetadata k data) .integrityError := rfl
  refine (looks_getNotebook k).then_guarded fun _ => ?_
  simp only [NotebookMetadataRepository.createOrUpdate, Repository.update, bind_assoc]
  refine (looks_getById hrow).then_guarded fun o => ?_
  cases o with
  | none => exact guarded_create hrow hraises
  | some m =>
    have hrefresh : (NotebookMetadataRepository.repository.refresh k >>= fun m => pure m).Looks
        (taken (.updateNotebookMetadata k data)) (Raises (.updateNotebookMetadata k data)) :=
      (looks_refresh hrow).bind fun _ => trivial
    simp only [Repository.updateFound, bind_assoc, pure_bind, NotebookMetadataRepository.orCreate,
      Option.getD_none]
    cases NotebookMetadataRepository.edit e data.configuration m with
    | none => exact hrefresh.guarded
    | some x => exact guarded_flush (fun _ _ => hraises) hrefresh

theorem guards_route (c : Call) : Guards c (route e c) := by
  cases c with
  | createWorkspace data => exact (guards_createWorkspace e data).then_looks fun _ => looks_pure
  | listWorkspaces => exact Program.Looks.guarded ((looks_select fun _ => rfl).bind fun _ => looks_pure)
  | getWorkspace k => exact ((looks_getWorkspace k).bind fun _ => looks_pure).guarded
  | updateWorkspace k data => exact (guards_updateWorkspace e k data).then_looks fun _ => looks_pure
  | deleteWorkspace k => exact (guards_deleteWorkspace k).then_looks fun _ => looks_pure
  | createProject w data => exact (guards_createProject e w data).then_looks fun _ => looks_pure
  | listProjectsInWorkspace w =>
    refine Program.Looks.guarded (((looks_getWorkspace w).bind fun _ => ?_).bind fun _ => looks_pure)
    exact looks_select fun _ => rfl
  | getProject k => exact ((looks_getProject k).bind fun _ => looks_pure).guarded
  | updateProject k data => exact (guards_updateProject e k data).then_looks fun _ => looks_pure
  | deleteProject k => exact (guards_deleteProject k).then_looks fun _ => looks_pure
  | createNotebook p data => exact (guards_createNotebook e p data).then_looks fun _ => looks_pure
  | listNotebooksInProject p =>
    refine Program.Looks.guarded (((looks_getProject p).bind fun _ => ?_).bind fun _ => looks_pure)
    exact looks_select fun _ => rfl
  | getNotebook k =>
    exact ((looks_getNotebook k).bind fun _ => looks_select fun _ => rfl).guarded
  | updateNotebook k data => exact (guards_updateNotebook e k data).then_looks fun _ => looks_pure
  | deleteNotebook k => exact (guards_deleteNotebook k).then_looks fun _ => looks_pure
  | createCell n data => exact (guards_createCell e n data).then_looks fun _ => looks_pure
  | listCellsInNotebook n =>
    refine Program.Looks.guarded (((looks_getNotebook n).bind fun _ => ?_).bind fun _ => looks_pure)
    exact looks_select fun _ => rfl
  | getCell n k => exact ((looks_getCell n k).bind fun _ => looks_pure).guarded
  | updateCell n k data => exact (guards_updateCell e n k data).then_looks fun _ => looks_pure
  | deleteCell n k => exact (guards_deleteCell n k).then_looks fun _ => looks_pure
  | getNotebookMetadata n =>
    refine Program.Looks.guarded (((looks_getNotebook n).bind fun _ => ?_).bind fun _ => looks_pure)
    exact looks_found (R := NotebookMetadataRepository.repository) fun _ _ => rfl
  | updateNotebookMetadata n data => exact (guards_updateMetadata e n data).then_looks fun _ => looks_pure

lemma guards_handle (r : Request) : Guards r.call (handle r) :=
  looks_refuseIf.then_guarded fun _ => guards_route r.env r.call

end Calls

section Interleavings

variable {d : Database} {t : Requests} {as : List (Action Request)}

structure Refused (d : Database) (as : List (Action Request)) (t : Requests) (c : ℕ) : Prop where
  answered : t.clients c = none → ∃ e, t.answers c = some (.error e) ∧ e.response.statusCode = 409
  answers : ∃ n u e, exec step t (List.replicate n (.advance c)) = some u ∧
    u.answers c = some (.error e) ∧ e.response.statusCode = 409
  unchanged : Along step (fun u a v => a = .advance c → v.database = u.database) (.opened d) as

abbrev collisions (d : Database) (as : List (Action Request)) : List (ℕ × Request) :=
  trace step (Server.collides engine fun r => taken r.call) (.opened d) as

lemma refused_of_failing {c : ℕ} (h : Server.Failing Conflict c t)
    (hu : Along step (fun u a v => a = .advance c → v.database = u.database) (.opened d) as) :
    Refused d as t c :=
  ⟨h.answer, h.answers, hu⟩

lemma not_refused {c : ℕ} (h : Server.Failing (· = .integrityError) c t) :
    ¬ Refused d as t c := by
  rintro ⟨-, ⟨n, u, e, hu, he, hstatus⟩, -⟩
  obtain ⟨e', hr, rfl⟩ := (Server.failing_exec h hu).answered _ he
  obtain rfl := Except.error.inj hr
  cases hstatus

lemma refused_iff {k : ℕ × Request} (h : exec step (.opened d) as = some t) (hk : k ∈ collisions d as) :
    Refused d as t k.1 ↔ writesMetadata k.2.call = false := by
  obtain ⟨hfailing, hunchanged⟩ := Server.collided (G := fun r => Raises r.call) guards_handle h hk
  obtain ⟨c, e, call⟩ := k
  cases call with
  | updateNotebookMetadata n data => exact iff_of_false (not_refused hfailing) nofun
  | _ => exact iff_of_true (refused_of_failing hfailing hunchanged) rfl

/-- However the statements of the requests interleave, names and positions stay unique, for every
transaction under way too. The requests that collide answer 409 and change nothing, all of them
exactly if none of them is an upsert of the metadata. -/
theorem unique_under_concurrency (hd : Constrained d) (h : exec step (.opened d) as = some t) :
    Unique t.database ∧ (∀ c, Unique (t.view engine c)) ∧
      (∀ c n, (Store.NotebookCellRepository.cellsOf n (t.view engine c)).Pairwise
        fun x y => x.position < y.position) ∧
      ((∀ k ∈ collisions d as, Refused d as t k.1) ↔
        ∀ k ∈ collisions d as, writesMetadata k.2.call = false) := by
  have henforced := enforced_exec hd h
  refine ⟨henforced.database, fun _ => henforced.view, fun c n => henforced.view.positions n, ?_⟩
  exact forall₂_congr fun k hk => refused_iff h hk

/-- Both look for the name before either writes it, and the second write waits for the first. -/
def race : List (Action Request) :=
  let r (k : Uuid) : Request := ⟨⟨k, 0⟩, .createWorkspace ⟨"a", none⟩⟩
  [.arrive 0 (r 0), .arrive 1 (r 1), .advance 0, .advance 1, .advance 0, .advance 0, .advance 0,
    .advance 1, .advance 1, .advance 1]

lemma constrained_empty : Constrained .empty :=
  ⟨⟨.nil, .nil, .nil, .nil⟩, .nil, .nil, .nil, .nil⟩

theorem race_unique : ∃ t, exec step (.opened .empty) race = some t ∧
    t.database.workspaces.length = 1 ∧ (collisions .empty race).map Prod.fst = [1] ∧
    Refused .empty race t 1 := by
  obtain ⟨t, ht⟩ : ∃ t, exec step (.opened .empty) race = some t :=
    Option.isSome_iff_exists.mp (by decide +kernel)
  have hlength : ((exec step (.opened .empty) race).map fun t => t.database.workspaces.length) = some 1 := by
    decide +kernel
  have hcollisions : (collisions .empty race).map Prod.fst = [1] := by decide +kernel
  have hnames : (collisions .empty race).all fun k => !writesMetadata k.2.call := by decide +kernel
  rw [ht] at hlength
  refine ⟨t, ht, Option.some_inj.mp hlength, hcollisions, ?_⟩
  have hrefused := (unique_under_concurrency constrained_empty ht).2.2.2.mpr fun k hk => by
    simpa using List.all_eq_true.mp hnames k hk
  obtain ⟨k, hk, hc⟩ := List.mem_map.mp (hcollisions ▸ List.mem_singleton_self 1)
  exact hc ▸ hrefused k hk

def withNotebook : Database :=
  { Database.empty with
    workspaces := [⟨7, "w", none, 0, 0⟩]
    projects := [⟨8, 7, "p", none, 0, 0⟩]
    notebooks := [⟨9, 8, "n", none, "python", 0, 0⟩] }

/-- Both find the notebook without metadata, and the second INSERT comes after the first is committed. -/
def metadataRace : List (Action Request) :=
  let r (k : Uuid) : Request := ⟨⟨k, 0⟩, .updateNotebookMetadata 9 ⟨"{}"⟩⟩
  [.arrive 0 (r 0), .arrive 1 (r 1), .advance 0, .advance 1, .advance 0, .advance 1, .advance 0,
    .advance 0, .advance 0, .advance 1, .advance 1]

theorem metadata_collides : Constrained withNotebook ∧
    ∃ t, exec step (.opened withNotebook) metadataRace = some t ∧
      (collisions withNotebook metadataRace).map Prod.fst = [1] ∧
      t.answers 1 = some (.error .integrityError) ∧
      ServiceError.integrityError.response.statusCode = 500 ∧ ¬ Refused withNotebook metadataRace t 1 := by
  obtain ⟨t, ht⟩ : ∃ t, exec step (.opened withNotebook) metadataRace = some t :=
    Option.isSome_iff_exists.mp (by decide +kernel)
  have hcollisions : (collisions withNotebook metadataRace).map Prod.fst = [1] := by decide +kernel
  have hmetadata : (collisions withNotebook metadataRace).all fun k => writesMetadata k.2.call := by
    decide +kernel
  have hclient : ((exec step (.opened withNotebook) metadataRace).map fun t => (t.clients 1).isNone) =
      some true := by decide +kernel
  rw [ht, Option.map_some, Option.some_inj, Option.isNone_iff_eq_none] at hclient
  obtain ⟨k, hk, hc⟩ := List.mem_map.mp (hcollisions ▸ List.mem_singleton_self 1)
  have hcall := List.all_eq_true.mp hmetadata k hk
  refine ⟨⟨⟨?_, ?_, ?_, ?_⟩, ?_, ?_, ?_, ?_⟩, t, ht, hcollisions, ?_, rfl, ?_⟩
  iterate 8 decide
  · obtain ⟨e, he, hraises⟩ := (Server.collided guards_handle ht hk).1.answer (hc ▸ hclient)
    rw [hc] at he
    rw [he, raises_integrityError hcall hraises]
  · rw [← hc, refused_iff ht hk, hcall]
    nofun

end Interleavings

end NotebookExecution.Store.Interleaved
