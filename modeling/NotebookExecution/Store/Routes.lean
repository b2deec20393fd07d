import NotebookExecution.Store.Services

/-! The routes of workspaces, projects, notebooks, cells and notebook metadata, and the answer to
one request on its own session. -/

namespace NotebookExecution.Store

open Library.Transaction Library.Table

inductive Call
  | createWorkspace (data : WorkspaceCreate)
  | listWorkspaces
  | getWorkspace (workspaceId : Uuid)
  | updateWorkspace (workspaceId : Uuid) (data : WorkspaceUpdate)
  | deleteWorkspace (workspaceId : Uuid)
  | createProject (workspaceId : Uuid) (data : ProjectCreate)
  | listProjectsInWorkspace (workspaceId : Uuid)
  | getProject (projectId : Uuid)
  | updateProject (projectId : Uuid) (data : ProjectUpdate)
  | deleteProject (projectId : Uuid)
  | createNotebook (projectId : Uuid) (data : NotebookCreate)
  | listNotebooksInProject (projectId : Uuid)
  | getNotebook (notebookId : Uuid)
  | updateNotebook (notebookId : Uuid) (data : NotebookUpdate)
  | deleteNotebook (notebookId : Uuid)
  | createCell (notebookId : Uuid) (data : NotebookCellCreate)
  | listCellsInNotebook (notebookId : Uuid)
  | getCell (notebookId cellId : Uuid)
  | updateCell (notebookId cellId : Uuid) (data : NotebookCellUpdate)
  | deleteCell (notebookId cellId : Uuid)
  | getNotebookMetadata (notebookId : Uuid)
  | updateNotebookMetadata (notebookId : Uuid) (data : NotebookMetadataUpdate)

structure Request where
  env : Env
  call : Call

def nameOk (name : String) : Bool := 1 ≤ name.length ∧ name.length ≤ 255
def descriptionOk (description : Option String) : Bool := description.all (·.length ≤ 2048)
def languageOk (language : String) : Bool := language.length ≤ 50
def sourceOk (source : String) : Bool := source.length ≤ 1000000

def Call.schemaOk : Call → Bool
  | .createWorkspace data => nameOk data.name && descriptionOk data.description
  | .updateWorkspace _ data => data.name.all nameOk && descriptionOk data.description
  | .createProject _ data => nameOk data.name && descriptionOk data.description
  | .updateProject _ data => data.name.all nameOk && descriptionOk data.description
  | .createNotebook _ data =>
    nameOk data.name && descriptionOk data.description && languageOk data.language
  | .updateNotebook _ data =>
    data.name.all nameOk && descriptionOk data.description && data.language.all languageOk
  | .createCell _ data => decide (0 ≤ data.position) && sourceOk data.source
  | .updateCell _ _ data => data.position.all (0 ≤ ·) && data.source.all sourceOk
  | _ => true

inductive Body
  | detail (text : String)
  | noContent
  | workspace (w : Workspace)
  | workspaceList (items : List Workspace)
  | project (p : Project)
  | projectList (items : List Project)
  | notebook (n : Notebook)
  | notebookList (items : List Notebook)
  | notebookDetail (n : Notebook) (cells : List NotebookCell) (metadata : Option NotebookMetadata)
  | cell (c : NotebookCell)
  | cellList (items : List NotebookCell)
  | metadata (m : NotebookMetadata)

structure Response where
  statusCode : ℕ
  body : Body

def Response.success (r : Response) : Bool := 200 ≤ r.statusCode ∧ r.statusCode < 300

def route (e : Env) : Call → Tx Database ServiceError Response
  | .createWorkspace data => do
    pure ⟨201, .workspace (← WorkspaceService.createWorkspace e data)⟩
  | .listWorkspaces => do pure ⟨200, .workspaceList (← WorkspaceService.listWorkspaces)⟩
  | .getWorkspace k => do pure ⟨200, .workspace (← WorkspaceService.getWorkspace k)⟩
  | .updateWorkspace k data => do
    pure ⟨200, .workspace (← WorkspaceService.updateWorkspace e k data)⟩
  | .deleteWorkspace k => do
    WorkspaceService.deleteWorkspace k
    pure ⟨204, .noContent⟩
  | .createProject w data => do pure ⟨201, .project (← ProjectService.createProject e w data)⟩
  | .listProjectsInWorkspace w => do
    pure ⟨200, .projectList (← ProjectService.listProjectsByWorkspace w)⟩
  | .getProject k => do pure ⟨200, .project (← ProjectService.getProject k)⟩
  | .updateProject k data => do pure ⟨200, .project (← ProjectService.updateProject e k data)⟩
  | .deleteProject k => do
    ProjectService.deleteProject k
    pure ⟨204, .noContent⟩
  | .createNotebook p data => do pure ⟨201, .notebook (← NotebookService.createNotebook e p data)⟩
  | .listNotebooksInProject p => do
    pure ⟨200, .notebookList (← NotebookService.listNotebooksByProject p)⟩
  | .getNotebook k => do
    let notebook ← NotebookService.getNotebook k
    let d ← read
    pure ⟨200, .notebookDetail notebook (NotebookCellRepository.cellsOf k d)
      (notebookMetadataTable.find k d)⟩
  | .updateNotebook k data => do pure ⟨200, .notebook (← NotebookService.updateNotebook e k data)⟩
  | .deleteNotebook k => do
    NotebookService.deleteNotebook k
    pure ⟨204, .noContent⟩
  | .createCell n data => do pure ⟨201, .cell (← NotebookCellService.createCell e n data)⟩
  | .listCellsInNotebook n => do
    pure ⟨200, .cellList (← NotebookCellService.listCellsByNotebook n)⟩
  | .getCell n k => do pure ⟨200, .cell (← NotebookCellService.getCell n k)⟩
  | .updateCell n k data => do pure ⟨200, .cell (← NotebookCellService.updateCell e n k data)⟩
  | .deleteCell n k => do
    NotebookCellService.deleteCell n k
    pure ⟨204, .noContent⟩
  | .getNotebookMetadata n => do
    pure ⟨200, .metadata (← NotebookMetadataService.getMetadata n)⟩
  | .updateNotebookMetadata n data => do
    pure ⟨200, .metadata (← NotebookMetadataService.updateMetadata e n data)⟩

def handle (r : Request) : Tx Database ServiceError Response := do
  refuseIf (!r.call.schemaOk) 422 "Request validation failed."
  route r.env r.call

def ServiceError.response : ServiceError → Response
  | .http statusCode detail => ⟨statusCode, .detail detail⟩
  | .integrityError => ⟨500, .detail "An internal server error occurred."⟩

def answer : Except ServiceError Response → Response
  | .ok r => r
  | .error e => e.response

/-- `get_db` opens the session the route works in and closes it after the route. -/
def serve (d : Database) (r : Request) : Response × Database :=
  let outcome := inSession d (handle r)
  (answer outcome.1, outcome.2)

def serveAll (d : Database) : List Request → Database
  | [] => d
  | r :: rs => serveAll (serve d r).2 rs

end NotebookExecution.Store
