import NotebookExecution.Library.Constraints
import NotebookExecution.Library.Isolation
import NotebookExecution.Store.Routes

/-! The repositories, services and routes of the notebook store as the trees of the statements they
issue. -/

namespace NotebookExecution.Store.Interleaved

open Library.Transaction Library.Table Library.Text Library.Statements Library.Constraints

lemma any_false {ρ : Type} {p : ρ → Prop} [DecidablePred p] {l : List ρ} {b : Bool}
    (h : (l.any (fun x => p x) || b) = false) : ∀ x ∈ l, ¬ p x := by
  rw [Bool.or_eq_false_iff, List.any_eq_false] at h
  intro x hx
  exact of_decide_eq_false (by simpa using h.1 x hx)

def workspaces : UniqueTable Database Workspace Uuid String where
  table := workspaceTable
  unique := Workspace.name
  clash := workspaceClash
  cascade k := cascadeWorkspace (· = k)
  clash_false d w h x hx hk hn := by
    have hc : (d.workspaces.any (fun x => x.id ≠ w.id ∧ x.name = w.name) || false) = false := by
      rw [Bool.or_false]
      exact h
    exact any_false hc x hx ⟨hk, hn⟩
  cascade_rows _ _ := rfl

def projects : UniqueTable Database Project Uuid (Uuid × String) where
  table := projectTable
  unique p := (p.workspaceId, p.name)
  clash := projectClash
  cascade k := cascadeProject (· = k)
  clash_false _ _ h x hx hk hn := any_false h x hx ⟨hk, (Prod.mk.inj hn).1, (Prod.mk.inj hn).2⟩
  cascade_rows _ _ := rfl

def notebooks : UniqueTable Database Notebook Uuid (Uuid × String) where
  table := notebookTable
  unique n := (n.projectId, n.name)
  clash := notebookClash
  cascade k := cascadeNotebook (· = k)
  clash_false _ _ h x hx hk hn := any_false h x hx ⟨hk, (Prod.mk.inj hn).1, (Prod.mk.inj hn).2⟩
  cascade_rows _ _ := rfl

def notebookCells : UniqueTable Database NotebookCell Uuid (Uuid × ℤ) where
  table := notebookCellTable
  unique c := (c.notebookId, c.position)
  clash := notebookCellClash
  cascade _ := id
  clash_false _ _ h x hx hk hn := any_false h x hx ⟨hk, (Prod.mk.inj hn).1, (Prod.mk.inj hn).2⟩
  cascade_rows _ _ := rfl

def notebookMetadata : UniqueTable Database NotebookMetadata Uuid Uuid where
  table := notebookMetadataTable
  unique := NotebookMetadata.id
  clash := notebookMetadataClash
  cascade _ := id
  clash_false _ _ h x hx hk hn := any_false h x hx ⟨hk, hn⟩
  cascade_rows _ _ := rfl

inductive Write
  | workspace (x : Change workspaces)
  | project (x : Change projects)
  | notebook (x : Change notebooks)
  | notebookCell (x : Change notebookCells)
  | notebookMetadata (x : Change notebookMetadata)

namespace Write

def apply (d : Database) : Write → Database
  | .workspace x => x.apply d
  | .project x => x.apply d
  | .notebook x => x.apply d
  | .notebookCell x => x.apply d
  | .notebookMetadata x => x.apply d

def refused (d : Database) : Write → Bool
  | .workspace x => x.refused d
  | .project x => x.refused d
  | .notebook x => x.refused d
  | .notebookCell x => x.refused d
  | .notebookMetadata x => x.refused d

def missed (d : Database) : Write → Bool
  | .workspace x => x.missed d
  | .project x => x.missed d
  | .notebook x => x.missed d
  | .notebookCell x => x.missed d
  | .notebookMetadata x => x.missed d

def apart (d : Database) : Write → Write → Bool
  | .workspace x, .workspace y => x.apart d y
  | .project x, .project y => x.apart d y
  | .notebook x, .notebook y => x.apart d y
  | .notebookCell x, .notebookCell y => x.apart d y
  | .notebookMetadata x, .notebookMetadata y => x.apart d y
  | _, _ => true

end Write

def engine : Engine Database Write where
  apply w d := w.apply d
  refused w d := w.refused d
  missed w d := w.missed d
  apart := Write.apart

inductive Query
  | workspace (k : Uuid)
  | workspaces
  | project (k : Uuid)
  | projects (workspaceId : Uuid)
  | notebook (k : Uuid)
  | notebooks (projectId : Uuid)
  | notebookCell (k : Uuid)
  | notebookCells (notebookId : Uuid)
  | notebookMetadata (notebookId : Uuid)
  | notebookDetail (notebookId : Uuid)
  deriving DecidableEq

abbrev Statements := Program Query Database Write ServiceError

variable {α β ρ υ : Type}

/-- An exception that no clause of the services catches. -/
def unhandled : ServiceError := .http 500 "An internal server error occurred."

def select (q : Query) (f : Database → α) : Statements α := .select q fun d => pure (f d)

def raised : Flushed → Statements Unit
  | .stored => pure ()
  | .missed => throw unhandled
  | .refused => throw .integrityError

def flush (w : Write) : Statements Unit := .flush w raised

def rollback : Statements Unit := .rollback (pure ())

def httpError (statusCode : ℕ) (detail : String) : Statements α := throw (.http statusCode detail)

def refuseIf (c : Bool) (statusCode : ℕ) (detail : String) : Statements Unit :=
  if c then httpError statusCode detail else pure ()

def orRaise (e : ServiceError) : Option α → Statements α
  | some a => pure a
  | none => throw e

def orNotFound (detail : String) : Option α → Statements α := orRaise (.http 404 detail)

def conflict (detail : String) : ServiceError → Statements α
  | .integrityError => do
    rollback
    httpError 409 detail
  | .http statusCode d => httpError statusCode d

def orConflict (detail : String) (p : Statements α) : Statements α := tryCatch p (conflict detail)

/-! ## Repositories -/

structure Repository (ρ υ : Type) where
  table : UniqueTable Database ρ Uuid υ
  write : Change table → Write
  query : Uuid → Query
  apply_write : ∀ x d, (write x).apply d = x.apply d
  refused_write : ∀ x d, (write x).refused d = x.refused d
  missed_write : ∀ x d, (write x).missed d = x.missed d

structure Edit (U : UniqueTable Database ρ Uuid υ) where
  set : ρ → ρ
  key_set : ∀ r, U.table.key (set r) = U.table.key r

namespace Repository

variable (R : Repository ρ υ)

lemma flush_write (x : Change R.table) (d : Database) : engine.flush (R.write x) d =
    if x.refused d then .refused else if x.missed d then .missed else .stored := by
  simp only [Engine.flush, engine, R.refused_write, R.missed_write]

def getById (k : Uuid) : Statements (Option ρ) := select (R.query k) (R.table.table.find k)

def refresh (k : Uuid) : Statements ρ := do orRaise unhandled (← R.getById k)

def create (r : ρ) : Statements ρ := do
  flush (R.write (.insert r))
  R.refresh (R.table.table.key r)

def flushEdit (k : Uuid) : Option (Edit R.table) → Statements Unit
  | none => pure ()
  | some e => flush (R.write (.update k e.set e.key_set))

def updateFound (k : Uuid) (held : Option ρ) (edit : ρ → Option (Edit R.table)) :
    Option ρ → Statements (Option ρ)
  | none => pure none
  | some r => do
    R.flushEdit k (edit (held.getD r))
    let r ← R.refresh k
    pure (some r)

/-- A row that the session still holds is not loaded again: only its columns that are to have another
value than the held ones are set. -/
def update (k : Uuid) (held : Option ρ) (edit : ρ → Option (Edit R.table)) : Statements (Option ρ) := do
  R.updateFound k held edit (← R.getById k)

def deleteFound (k : Uuid) : Option ρ → Statements Bool
  | none => pure false
  | some _ => do
    flush (R.write (.delete k))
    pure true

def delete (k : Uuid) : Statements Bool := do R.deleteFound k (← R.getById k)

end Repository

def changed [DecidableEq β] (o : Option β) (old : β) : Option β := o.filter (· ≠ old)

def changedText (o old : Option String) : Option String := o.filter fun x => some x ≠ old

namespace WorkspaceRepository

def repository : Repository Workspace String where
  table := workspaces
  write := .workspace
  query := .workspace
  apply_write _ _ := rfl
  refused_write _ _ := rfl
  missed_write _ _ := rfl

def edit (e : Env) (name description : Option String) (held : Workspace) : Option (Edit workspaces) :=
  if WorkspaceRepository.assign name description held = held then none
  else some ⟨fun w => WorkspaceRepository.stamp e
    (WorkspaceRepository.assign (changed name held.name) (changedText description held.description) w),
    fun _ => rfl⟩

end WorkspaceRepository

namespace ProjectRepository

def repository : Repository Project (Uuid × String) where
  table := projects
  write := .project
  query := .project
  apply_write _ _ := rfl
  refused_write _ _ := rfl
  missed_write _ _ := rfl

def edit (e : Env) (name description : Option String) (held : Project) : Option (Edit projects) :=
  if ProjectRepository.assign name description held = held then none
  else some ⟨fun p => ProjectRepository.stamp e
    (ProjectRepository.assign (changed name held.name) (changedText description held.description) p),
    fun _ => rfl⟩

end ProjectRepository

namespace NotebookRepository

def repository : Repository Notebook (Uuid × String) where
  table := notebooks
  write := .notebook
  query := .notebook
  apply_write _ _ := rfl
  refused_write _ _ := rfl
  missed_write _ _ := rfl

def edit (e : Env) (name description language : Option String) (held : Notebook) :
    Option (Edit notebooks) :=
  if NotebookRepository.assign name description language held = held then none
  else some ⟨fun n => NotebookRepository.stamp e (NotebookRepository.assign (changed name held.name)
    (changedText description held.description) (changed language held.language) n), fun _ => rfl⟩

end NotebookRepository

namespace NotebookCellRepository

def repository : Repository NotebookCell (Uuid × ℤ) where
  table := notebookCells
  write := .notebookCell
  query := .notebookCell
  apply_write _ _ := rfl
  refused_write _ _ := rfl
  missed_write _ _ := rfl

def edit (e : Env) (source cellType : Option String) (position : Option ℤ) (held : NotebookCell) :
    Option (Edit notebookCells) :=
  if NotebookCellRepository.assign source cellType position held = held then none
  else some ⟨fun c => NotebookCellRepository.stamp e
    (NotebookCellRepository.assign (changed source held.source) (changed cellType held.cellType)
      (changed position held.position) c), fun _ => rfl⟩

end NotebookCellRepository

namespace NotebookMetadataRepository

def repository : Repository NotebookMetadata Uuid where
  table := notebookMetadata
  write := .notebookMetadata
  query := .notebookMetadata
  apply_write _ _ := rfl
  refused_write _ _ := rfl
  missed_write _ _ := rfl

def edit (e : Env) (configuration : Json) (held : NotebookMetadata) : Option (Edit notebookMetadata) :=
  if NotebookMetadataRepository.assign configuration held = held then none
  else some ⟨fun m => NotebookMetadataRepository.stamp e
    (NotebookMetadataRepository.assign configuration m), fun _ => rfl⟩

def orCreate (e : Env) (notebookId : Uuid) (configuration : Json) :
    Option NotebookMetadata → Statements NotebookMetadata
  | some m => pure m
  | none => repository.create (NotebookMetadataRepository.row e notebookId configuration)

def createOrUpdate (e : Env) (notebookId : Uuid) (configuration : Json) :
    Statements NotebookMetadata := do
  orCreate e notebookId configuration
    (← repository.update notebookId none (edit e configuration))

end NotebookMetadataRepository

/-! ## Services -/

/-- The rows of a listing, and the row `k` among them, which the session holds from then on. -/
def listHolding (R : Repository ρ υ) (q : Query) (k : Uuid) (rows : Database → List ρ) :
    Statements (List ρ × Option ρ) :=
  select q fun d => (rows d, R.table.table.find k d)

def holding (o : Option β) (p : β → Statements (Option ρ)) : Statements (Option ρ) :=
  o.elim (pure none) p

def ifGiven (o : Option β) (p : β → Statements Unit) : Statements Unit := o.elim (pure ()) p

namespace WorkspaceService

def listWorkspaces : Statements (List Workspace) := select .workspaces WorkspaceRepository.workspacesOf

def createWorkspace (e : Env) (data : WorkspaceCreate) : Statements Workspace := do
  let workspaces ← listWorkspaces
  refuseIf (workspaces.any (fun w => w.name = data.name)) 409 (Store.WorkspaceService.taken data.name)
  orConflict (Store.WorkspaceService.taken data.name)
    (WorkspaceRepository.repository.create (WorkspaceRepository.row e data.name data.description))

def getWorkspace (k : Uuid) : Statements Workspace := do
  orNotFound (Store.WorkspaceService.notFound k) (← WorkspaceRepository.repository.getById k)

def updateWorkspace (e : Env) (k : Uuid) (data : WorkspaceUpdate) : Statements Workspace := do
  let _ ← getWorkspace k
  let held ← holding data.name fun name => do
    let listed ← listHolding WorkspaceRepository.repository .workspaces k WorkspaceRepository.workspacesOf
    refuseIf (listed.1.any (fun w => w.name = name ∧ w.id ≠ k)) 409 (Store.WorkspaceService.taken name)
    pure listed.2
  orConflict (Store.WorkspaceService.taken (data.name.getD "None")) do
    orNotFound (Store.WorkspaceService.notFound k)
      (← WorkspaceRepository.repository.update k held
        (WorkspaceRepository.edit e data.name data.description))

def deleteWorkspace (k : Uuid) : Statements Unit := do
  let _ ← getWorkspace k
  let deleted ← WorkspaceRepository.repository.delete k
  refuseIf (!deleted) 404 (Store.WorkspaceService.notFound k)

end WorkspaceService

namespace ProjectService

def getProject (k : Uuid) : Statements Project := do
  orNotFound (Store.ProjectService.notFound k) (← ProjectRepository.repository.getById k)

def listByWorkspace (workspaceId : Uuid) : Statements (List Project) :=
  select (.projects workspaceId) (ProjectRepository.projectsOf workspaceId)

def createProject (e : Env) (workspaceId : Uuid) (data : ProjectCreate) : Statements Project := do
  let _ ← WorkspaceService.getWorkspace workspaceId
  let projects ← listByWorkspace workspaceId
  refuseIf (projects.any (fun p => p.name = data.name)) 409
    (Store.ProjectService.takenIn data.name workspaceId)
  orConflict (Store.ProjectService.takenIn data.name workspaceId)
    (ProjectRepository.repository.create
      (ProjectRepository.row e workspaceId data.name data.description))

def listProjectsByWorkspace (workspaceId : Uuid) : Statements (List Project) := do
  let _ ← WorkspaceService.getWorkspace workspaceId
  listByWorkspace workspaceId

def updateProject (e : Env) (k : Uuid) (data : ProjectUpdate) : Statements Project := do
  let project ← getProject k
  ifGiven data.name fun name => do
    let projects ← listByWorkspace project.workspaceId
    refuseIf (projects.any (fun p => p.name = name ∧ p.id ≠ k)) 409 (Store.ProjectService.taken name)
  orConflict (Store.ProjectService.taken (data.name.getD "None")) do
    orNotFound (Store.ProjectService.notFound k)
      (← ProjectRepository.repository.update k (some project)
        (ProjectRepository.edit e data.name data.description))

def deleteProject (k : Uuid) : Statements Unit := do
  let _ ← getProject k
  let deleted ← ProjectRepository.repository.delete k
  refuseIf (!deleted) 404 (Store.ProjectService.notFound k)

end ProjectService

namespace NotebookService

def validateLanguage (language : String) : Statements String := do
  refuseIf (!Store.NotebookService.supported language) 422 (Store.NotebookService.unsupported language)
  pure (lower language)

def getNotebook (k : Uuid) : Statements Notebook := do
  orNotFound (Store.NotebookService.notFound k) (← NotebookRepository.repository.getById k)

def listByProject (projectId : Uuid) : Statements (List Notebook) :=
  select (.notebooks projectId) (NotebookRepository.notebooksOf projectId)

def createNotebook (e : Env) (projectId : Uuid) (data : NotebookCreate) : Statements Notebook := do
  let _ ← ProjectService.getProject projectId
  let language ← validateLanguage data.language
  let notebooks ← listByProject projectId
  refuseIf (notebooks.any (fun n => n.name = data.name)) 409
    (Store.NotebookService.takenIn data.name projectId)
  orConflict (Store.NotebookService.takenIn data.name projectId)
    (NotebookRepository.repository.create
      (NotebookRepository.row e projectId data.name data.description language))

def listNotebooksByProject (projectId : Uuid) : Statements (List Notebook) := do
  let _ ← ProjectService.getProject projectId
  listByProject projectId

def updateNotebook (e : Env) (k : Uuid) (data : NotebookUpdate) : Statements Notebook := do
  let notebook ← getNotebook k
  ifGiven data.language fun language =>
    refuseIf (!Store.NotebookService.supported language) 422 (Store.NotebookService.unsupported language)
  ifGiven data.name fun name => do
    let notebooks ← listByProject notebook.projectId
    refuseIf (notebooks.any (fun n => n.name = name ∧ n.id ≠ k)) 409 (Store.NotebookService.taken name)
  orConflict (Store.NotebookService.taken (data.name.getD "None")) do
    orNotFound (Store.NotebookService.notFound k)
      (← NotebookRepository.repository.update k (some notebook)
        (NotebookRepository.edit e data.name data.description (data.language.map lower)))

def deleteNotebook (k : Uuid) : Statements Unit := do
  let _ ← getNotebook k
  let deleted ← NotebookRepository.repository.delete k
  refuseIf (!deleted) 404 (Store.NotebookService.notFound k)

end NotebookService

namespace NotebookCellService

def validateCellType (cellType : String) : Statements String := do
  refuseIf (!Store.NotebookCellService.supported cellType) 422
    (Store.NotebookCellService.unsupported cellType)
  pure (lower cellType)

def listByNotebook (notebookId : Uuid) : Statements (List NotebookCell) :=
  select (.notebookCells notebookId) (NotebookCellRepository.cellsOf notebookId)

def createCell (e : Env) (notebookId : Uuid) (data : NotebookCellCreate) : Statements NotebookCell := do
  let _ ← NotebookService.getNotebook notebookId
  let cellType ← validateCellType data.cellType
  let existing ← listByNotebook notebookId
  refuseIf (existing.any (fun c => c.position = data.position)) 409
    (Store.NotebookCellService.taken data.position notebookId)
  orConflict (Store.NotebookCellService.taken data.position notebookId)
    (NotebookCellRepository.repository.create
      (NotebookCellRepository.row e notebookId data.position data.source cellType))

def getCell (notebookId k : Uuid) : Statements NotebookCell := do
  let _ ← NotebookService.getNotebook notebookId
  let cell ← orNotFound (Store.NotebookCellService.notFoundIn k notebookId)
    (← NotebookCellRepository.repository.getById k)
  refuseIf (cell.notebookId ≠ notebookId) 404 (Store.NotebookCellService.notFoundIn k notebookId)
  pure cell

def listCellsByNotebook (notebookId : Uuid) : Statements (List NotebookCell) := do
  let _ ← NotebookService.getNotebook notebookId
  listByNotebook notebookId

def updateCell (e : Env) (notebookId k : Uuid) (data : NotebookCellUpdate) : Statements NotebookCell := do
  let _ ← getCell notebookId k
  ifGiven data.cellType fun cellType =>
    refuseIf (!Store.NotebookCellService.supported cellType) 422
      (Store.NotebookCellService.unsupported cellType)
  let held ← holding data.position fun position => do
    let listed ← listHolding NotebookCellRepository.repository (.notebookCells notebookId) k
      (NotebookCellRepository.cellsOf notebookId)
    refuseIf (listed.1.any (fun c => c.position = position ∧ c.id ≠ k)) 409
      (Store.NotebookCellService.conflicts (toString position) notebookId)
    pure listed.2
  orConflict (Store.NotebookCellService.conflicts ((data.position.map toString).getD "None") notebookId) do
    orNotFound (Store.NotebookCellService.notFound k)
      (← NotebookCellRepository.repository.update k held
        (NotebookCellRepository.edit e data.source (data.cellType.map lower) data.position))

def deleteCell (notebookId k : Uuid) : Statements Unit := do
  let _ ← getCell notebookId k
  let deleted ← NotebookCellRepository.repository.delete k
  refuseIf (!deleted) 404 (Store.NotebookCellService.notFound k)

end NotebookCellService

namespace NotebookMetadataService

def getMetadata (notebookId : Uuid) : Statements NotebookMetadata := do
  let _ ← NotebookService.getNotebook notebookId
  orNotFound (Store.NotebookMetadataService.notFound notebookId)
    (← NotebookMetadataRepository.repository.getById notebookId)

def updateMetadata (e : Env) (notebookId : Uuid) (data : NotebookMetadataUpdate) :
    Statements NotebookMetadata := do
  let _ ← NotebookService.getNotebook notebookId
  NotebookMetadataRepository.createOrUpdate e notebookId data.configuration

end NotebookMetadataService

def route (e : Env) : Call → Statements Response
  | .createWorkspace data => do
    pure ⟨201, .workspace (← WorkspaceService.createWorkspace e data)⟩
  | .listWorkspaces => do pure ⟨200, .workspaceList (← WorkspaceService.listWorkspaces)⟩
  | .getWorkspace k => do pure ⟨200, .workspace (← WorkspaceService.getWorkspace k)⟩
  | .updateWorkspace k data => do
    pure ⟨200, .workspace (← WorkspaceService.updateWorkspace e k data)⟩
  | .deleteWorkspace k => do
    WorkspaceService.deleteWorkspace k
    pure ⟨204, .noContent⟩
  | .createProject w data => do
    pure ⟨201, .project (← ProjectService.createProject e w data)⟩
  | .listProjectsInWorkspace w => do
    pure ⟨200, .projectList (← ProjectService.listProjectsByWorkspace w)⟩
  | .getProject k => do pure ⟨200, .project (← ProjectService.getProject k)⟩
  | .updateProject k data => do
    pure ⟨200, .project (← ProjectService.updateProject e k data)⟩
  | .deleteProject k => do
    ProjectService.deleteProject k
    pure ⟨204, .noContent⟩
  | .createNotebook p data => do
    pure ⟨201, .notebook (← NotebookService.createNotebook e p data)⟩
  | .listNotebooksInProject p => do
    pure ⟨200, .notebookList (← NotebookService.listNotebooksByProject p)⟩
  | .getNotebook k => do
    let notebook ← NotebookService.getNotebook k
    select (.notebookDetail k) fun d => ⟨200, .notebookDetail notebook
      (Store.NotebookCellRepository.cellsOf k d) (notebookMetadataTable.find k d)⟩
  | .updateNotebook k data => do
    pure ⟨200, .notebook (← NotebookService.updateNotebook e k data)⟩
  | .deleteNotebook k => do
    NotebookService.deleteNotebook k
    pure ⟨204, .noContent⟩
  | .createCell n data => do pure ⟨201, .cell (← NotebookCellService.createCell e n data)⟩
  | .listCellsInNotebook n => do
    pure ⟨200, .cellList (← NotebookCellService.listCellsByNotebook n)⟩
  | .getCell n k => do pure ⟨200, .cell (← NotebookCellService.getCell n k)⟩
  | .updateCell n k data => do
    pure ⟨200, .cell (← NotebookCellService.updateCell e n k data)⟩
  | .deleteCell n k => do
    NotebookCellService.deleteCell n k
    pure ⟨204, .noContent⟩
  | .getNotebookMetadata n => do
    pure ⟨200, .metadata (← NotebookMetadataService.getMetadata n)⟩
  | .updateNotebookMetadata n data => do
    pure ⟨200, .metadata (← NotebookMetadataService.updateMetadata e n data)⟩

def handle (r : Request) : Statements Response := do
  refuseIf (!r.call.schemaOk) 422 "Request validation failed."
  route r.env r.call

end NotebookExecution.Store.Interleaved
