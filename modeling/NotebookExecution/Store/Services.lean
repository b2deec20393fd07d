import NotebookExecution.Library.Text
import NotebookExecution.Store.Repositories

/-! The services of the notebook store: existence and uniqueness checks around the repositories. -/

namespace NotebookExecution.Store

open Library.Transaction Library.Table Library.Text

structure WorkspaceCreate where
  name : String
  description : Option String

structure WorkspaceUpdate where
  name : Option String
  description : Option String

structure ProjectCreate where
  name : String
  description : Option String

structure ProjectUpdate where
  name : Option String
  description : Option String

structure NotebookCreate where
  name : String
  description : Option String
  language : String

structure NotebookUpdate where
  name : Option String
  description : Option String
  language : Option String

structure NotebookCellCreate where
  position : ℤ
  cellType : String
  source : String

structure NotebookCellUpdate where
  position : Option ℤ
  cellType : Option String
  source : Option String

structure NotebookMetadataUpdate where
  configuration : Json

variable {α β : Type}

def httpError (statusCode : ℕ) (detail : String) : Tx Database ServiceError α :=
  throw (.http statusCode detail)

def refuseIf (c : Bool) (statusCode : ℕ) (detail : String) : Tx Database ServiceError Unit :=
  if c then httpError statusCode detail else pure ()

lemma refuseIf_true {c : Bool} {statusCode : ℕ} {detail : String} (h : c = true) (s : Session Database) :
    refuseIf c statusCode detail s = (.error (.http statusCode detail), s) := by
  rw [refuseIf, if_pos h]
  rfl

lemma refuseIf_false {c : Bool} {statusCode : ℕ} {detail : String} (h : c = false) (s : Session Database) :
    refuseIf c statusCode detail s = (.ok (), s) := by
  rw [refuseIf, if_neg (by simp [h])]
  rfl

def ifGiven (o : Option β) (p : β → Tx Database ServiceError Unit) : Tx Database ServiceError Unit :=
  match o with
  | none => pure ()
  | some b => p b

def orNotFound (detail : String) : Option α → Tx Database ServiceError α
  | some a => pure a
  | none => httpError 404 detail

def orConflict (detail : String) (p : Tx Database ServiceError α) : Tx Database ServiceError α :=
  tryCatch p fun
    | .integrityError => do
      rollback
      httpError 409 detail
    | .http statusCode d => httpError statusCode d

namespace WorkspaceService

def notFound (k : Uuid) : String := s!"Workspace '{k}' not found."
def taken (name : String) : String := s!"Workspace with name '{name}' already exists."

def createWorkspace (e : Env) (data : WorkspaceCreate) : Tx Database ServiceError Workspace := do
  let workspaces ← WorkspaceRepository.listAll
  refuseIf (workspaces.any (fun w => w.name = data.name)) 409 (taken data.name)
  orConflict (taken data.name) (WorkspaceRepository.create e data.name data.description)

def getWorkspace (k : Uuid) : Tx Database ServiceError Workspace := do
  orNotFound (notFound k) (← WorkspaceRepository.getById k)

def listWorkspaces : Tx Database ServiceError (List Workspace) := WorkspaceRepository.listAll

def updateWorkspace (e : Env) (k : Uuid) (data : WorkspaceUpdate) :
    Tx Database ServiceError Workspace := do
  let _ ← getWorkspace k
  ifGiven data.name fun name => do
    let workspaces ← WorkspaceRepository.listAll
    refuseIf (workspaces.any (fun w => w.name = name ∧ w.id ≠ k)) 409 (taken name)
  orConflict (taken (data.name.getD "None")) do
    orNotFound (notFound k) (← WorkspaceRepository.update e k data.name data.description)

def deleteWorkspace (k : Uuid) : Tx Database ServiceError Unit := do
  let _ ← getWorkspace k
  let deleted ← WorkspaceRepository.delete k
  refuseIf (!deleted) 404 (notFound k)

end WorkspaceService

namespace ProjectService

def notFound (k : Uuid) : String := s!"Project '{k}' not found."
def taken (name : String) : String := s!"Project with name '{name}' already exists in this workspace."
def takenIn (name : String) (workspaceId : Uuid) : String :=
  s!"Project with name '{name}' already exists in workspace '{workspaceId}'."

def createProject (e : Env) (workspaceId : Uuid) (data : ProjectCreate) :
    Tx Database ServiceError Project := do
  let _ ← WorkspaceService.getWorkspace workspaceId
  let projects ← ProjectRepository.listByWorkspace workspaceId
  refuseIf (projects.any (fun p => p.name = data.name)) 409 (takenIn data.name workspaceId)
  orConflict (takenIn data.name workspaceId)
    (ProjectRepository.create e workspaceId data.name data.description)

def getProject (k : Uuid) : Tx Database ServiceError Project := do
  orNotFound (notFound k) (← ProjectRepository.getById k)

def listProjectsByWorkspace (workspaceId : Uuid) : Tx Database ServiceError (List Project) := do
  let _ ← WorkspaceService.getWorkspace workspaceId
  ProjectRepository.listByWorkspace workspaceId

def updateProject (e : Env) (k : Uuid) (data : ProjectUpdate) :
    Tx Database ServiceError Project := do
  let project ← getProject k
  ifGiven data.name fun name => do
    let projects ← ProjectRepository.listByWorkspace project.workspaceId
    refuseIf (projects.any (fun p => p.name = name ∧ p.id ≠ k)) 409 (taken name)
  orConflict (taken (data.name.getD "None")) do
    orNotFound (notFound k) (← ProjectRepository.update e k data.name data.description)

def deleteProject (k : Uuid) : Tx Database ServiceError Unit := do
  let _ ← getProject k
  let deleted ← ProjectRepository.delete k
  refuseIf (!deleted) 404 (notFound k)

end ProjectService

namespace NotebookService

def supportedLanguages : List String := ["python"]

def notFound (k : Uuid) : String := s!"Notebook '{k}' not found."
def taken (name : String) : String := s!"Notebook with name '{name}' already exists in this project."
def takenIn (name : String) (projectId : Uuid) : String :=
  s!"Notebook with name '{name}' already exists in project '{projectId}'."

def unsupported (language : String) : String :=
  s!"Unsupported notebook language '{language}'. Supported languages: ['python']."

def supported (language : String) : Bool := supportedLanguages.contains (lower language)

def validateLanguage (language : String) : Tx Database ServiceError String := do
  refuseIf (!supported language) 422 (unsupported language)
  pure (lower language)

def createNotebook (e : Env) (projectId : Uuid) (data : NotebookCreate) :
    Tx Database ServiceError Notebook := do
  let _ ← ProjectService.getProject projectId
  let language ← validateLanguage data.language
  let notebooks ← NotebookRepository.listByProject projectId
  refuseIf (notebooks.any (fun n => n.name = data.name)) 409 (takenIn data.name projectId)
  orConflict (takenIn data.name projectId)
    (NotebookRepository.create e projectId data.name data.description language)

def getNotebook (k : Uuid) : Tx Database ServiceError Notebook := do
  orNotFound (notFound k) (← NotebookRepository.getById k)

def listNotebooksByProject (projectId : Uuid) : Tx Database ServiceError (List Notebook) := do
  let _ ← ProjectService.getProject projectId
  NotebookRepository.listByProject projectId

def updateNotebook (e : Env) (k : Uuid) (data : NotebookUpdate) :
    Tx Database ServiceError Notebook := do
  let notebook ← getNotebook k
  ifGiven data.language fun language =>
    refuseIf (!supported language) 422 (unsupported language)
  ifGiven data.name fun name => do
    let notebooks ← NotebookRepository.listByProject notebook.projectId
    refuseIf (notebooks.any (fun n => n.name = name ∧ n.id ≠ k)) 409 (taken name)
  orConflict (taken (data.name.getD "None")) do
    orNotFound (notFound k)
      (← NotebookRepository.update e k data.name data.description (data.language.map lower))

def deleteNotebook (k : Uuid) : Tx Database ServiceError Unit := do
  let _ ← getNotebook k
  let deleted ← NotebookRepository.delete k
  refuseIf (!deleted) 404 (notFound k)

end NotebookService

namespace NotebookCellService

def supportedCellTypes : List String := ["code", "markdown"]

def notFoundIn (k notebookId : Uuid) : String := s!"Cell '{k}' not found in notebook '{notebookId}'."
def notFound (k : Uuid) : String := s!"Cell '{k}' not found."
def taken (position : ℤ) (notebookId : Uuid) : String :=
  s!"Cell at position {position} already exists in notebook '{notebookId}'."
def conflicts (position : String) (notebookId : Uuid) : String :=
  s!"Position {position} conflicts with an existing cell in notebook '{notebookId}'."

def unsupported (cellType : String) : String :=
  s!"Unsupported cell type '{cellType}'. Supported cell types: ['code', 'markdown']."

def supported (cellType : String) : Bool := supportedCellTypes.contains (lower cellType)

def validateCellType (cellType : String) : Tx Database ServiceError String := do
  refuseIf (!supported cellType) 422 (unsupported cellType)
  pure (lower cellType)

def createCell (e : Env) (notebookId : Uuid) (data : NotebookCellCreate) :
    Tx Database ServiceError NotebookCell := do
  let _ ← NotebookService.getNotebook notebookId
  let cellType ← validateCellType data.cellType
  let existing ← NotebookCellRepository.listByNotebook notebookId
  refuseIf (existing.any (fun c => c.position = data.position)) 409 (taken data.position notebookId)
  orConflict (taken data.position notebookId)
    (NotebookCellRepository.create e notebookId data.position data.source cellType)

def getCell (notebookId k : Uuid) : Tx Database ServiceError NotebookCell := do
  let _ ← NotebookService.getNotebook notebookId
  let cell ← orNotFound (notFoundIn k notebookId) (← NotebookCellRepository.getById k)
  refuseIf (cell.notebookId ≠ notebookId) 404 (notFoundIn k notebookId)
  pure cell

def listCellsByNotebook (notebookId : Uuid) : Tx Database ServiceError (List NotebookCell) := do
  let _ ← NotebookService.getNotebook notebookId
  NotebookCellRepository.listByNotebook notebookId

def updateCell (e : Env) (notebookId k : Uuid) (data : NotebookCellUpdate) :
    Tx Database ServiceError NotebookCell := do
  let _ ← getCell notebookId k
  ifGiven data.cellType fun cellType =>
    refuseIf (!supported cellType) 422 (unsupported cellType)
  ifGiven data.position fun position => do
    let existing ← NotebookCellRepository.listByNotebook notebookId
    refuseIf (existing.any (fun c => c.position = position ∧ c.id ≠ k)) 409
      (conflicts (toString position) notebookId)
  orConflict (conflicts ((data.position.map toString).getD "None") notebookId) do
    orNotFound (notFound k)
      (← NotebookCellRepository.update e k data.source (data.cellType.map lower) data.position)

def deleteCell (notebookId k : Uuid) : Tx Database ServiceError Unit := do
  let _ ← getCell notebookId k
  let deleted ← NotebookCellRepository.delete k
  refuseIf (!deleted) 404 (notFound k)

end NotebookCellService

namespace NotebookMetadataService

def notFound (notebookId : Uuid) : String := s!"Metadata for notebook '{notebookId}' not found."

def getMetadata (notebookId : Uuid) : Tx Database ServiceError NotebookMetadata := do
  let _ ← NotebookService.getNotebook notebookId
  orNotFound (notFound notebookId) (← NotebookMetadataRepository.getByNotebookId notebookId)

def updateMetadata (e : Env) (notebookId : Uuid) (data : NotebookMetadataUpdate) :
    Tx Database ServiceError NotebookMetadata := do
  let _ ← NotebookService.getNotebook notebookId
  NotebookMetadataRepository.createOrUpdate e notebookId data.configuration

end NotebookMetadataService

end NotebookExecution.Store
