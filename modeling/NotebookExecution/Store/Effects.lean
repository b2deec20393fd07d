import NotebookExecution.Store.Routes

/-! What the store is for: one sequential database on which every request is either refused or
takes effect. The routes compute these effects on the view of their session. -/

namespace NotebookExecution.Store

open Library.Transaction Library.Table Library.Text

section Amend

variable {ρ : Type} [DecidableEq ρ] (T : TableOf Database ρ Uuid)

def amend (k : Uuid) (assign stamp : ρ → ρ) (d : Database) : Database :=
  match T.find k d with
  | none => d
  | some r => if assign r = r then d else T.put k (stamp (assign r)) d

def amendRefused (clash : Database → ρ → Bool) (k : Uuid) (assign stamp : ρ → ρ) (d : Database) :
    Bool :=
  match T.find k d with
  | none => true
  | some r => decide (assign r ≠ r) && clash d (stamp (assign r))

def settled (k : Uuid) (assign : ρ → ρ) (d : Database) : Bool :=
  match T.find k d with
  | none => true
  | some r => decide (assign r = r)

end Amend

namespace Database

variable (d : Database)

def workspaceNamed (name : String) : Bool := d.workspaces.any (fun w => w.name = name)

def workspaceNamedBeside (name : String) (k : Uuid) : Bool :=
  d.workspaces.any (fun w => w.name = name ∧ w.id ≠ k)

def projectNamed (workspaceId : Uuid) (name : String) : Bool :=
  d.projects.any (fun p => p.workspaceId = workspaceId ∧ p.name = name)

def projectNamedBeside (name : String) (k : Uuid) : Bool :=
  (projectTable.find k d).any fun r =>
    d.projects.any (fun p => p.workspaceId = r.workspaceId ∧ p.name = name ∧ p.id ≠ k)

def notebookNamed (projectId : Uuid) (name : String) : Bool :=
  d.notebooks.any (fun n => n.projectId = projectId ∧ n.name = name)

def notebookNamedBeside (name : String) (k : Uuid) : Bool :=
  (notebookTable.find k d).any fun r =>
    d.notebooks.any (fun n => n.projectId = r.projectId ∧ n.name = name ∧ n.id ≠ k)

def cellAt (notebookId : Uuid) (position : ℤ) : Bool :=
  d.notebookCells.any (fun c => c.notebookId = notebookId ∧ c.position = position)

def cellAtBeside (notebookId : Uuid) (position : ℤ) (k : Uuid) : Bool :=
  d.notebookCells.any (fun c => c.notebookId = notebookId ∧ c.position = position ∧ c.id ≠ k)

def hasWorkspace (k : Uuid) : Bool := (workspaceTable.find k d).isSome
def hasProject (k : Uuid) : Bool := (projectTable.find k d).isSome
def hasNotebook (k : Uuid) : Bool := (notebookTable.find k d).isSome
def hasCellIn (notebookId k : Uuid) : Bool :=
  (notebookCellTable.find k d).any (fun c => c.notebookId = notebookId)
def hasMetadata (notebookId : Uuid) : Bool := (notebookMetadataTable.find notebookId d).isSome

end Database

def Call.refused (e : Env) (d : Database) : Call → Bool
  | .createWorkspace data =>
    d.workspaceNamed data.name ||
      workspaceTable.occupied workspaceClash (WorkspaceRepository.row e data.name data.description) d
  | .listWorkspaces => false
  | .getWorkspace k => !d.hasWorkspace k
  | .updateWorkspace k data =>
    data.name.any (d.workspaceNamedBeside · k) ||
      amendRefused workspaceTable workspaceClash k
        (WorkspaceRepository.assign data.name data.description) (WorkspaceRepository.stamp e) d
  | .deleteWorkspace k => !d.hasWorkspace k
  | .createProject w data =>
    !d.hasWorkspace w || d.projectNamed w data.name ||
      projectTable.occupied projectClash (ProjectRepository.row e w data.name data.description) d
  | .listProjectsInWorkspace w => !d.hasWorkspace w
  | .getProject k => !d.hasProject k
  | .updateProject k data =>
    data.name.any (d.projectNamedBeside · k) ||
      amendRefused projectTable projectClash k
        (ProjectRepository.assign data.name data.description) (ProjectRepository.stamp e) d
  | .deleteProject k => !d.hasProject k
  | .createNotebook p data =>
    !d.hasProject p || !NotebookService.supported data.language || d.notebookNamed p data.name ||
      notebookTable.occupied notebookClash
        (NotebookRepository.row e p data.name data.description (lower data.language)) d
  | .listNotebooksInProject p => !d.hasProject p
  | .getNotebook k => !d.hasNotebook k
  | .updateNotebook k data =>
    data.language.any (!NotebookService.supported ·) || data.name.any (d.notebookNamedBeside · k) ||
      amendRefused notebookTable notebookClash k
        (NotebookRepository.assign data.name data.description (data.language.map lower))
        (NotebookRepository.stamp e) d
  | .deleteNotebook k => !d.hasNotebook k
  | .createCell n data =>
    !d.hasNotebook n || !NotebookCellService.supported data.cellType || d.cellAt n data.position ||
      notebookCellTable.occupied notebookCellClash
        (NotebookCellRepository.row e n data.position data.source (lower data.cellType)) d
  | .listCellsInNotebook n => !d.hasNotebook n
  | .getCell n k => !d.hasNotebook n || !d.hasCellIn n k
  | .updateCell n k data =>
    !d.hasNotebook n || !d.hasCellIn n k || data.cellType.any (!NotebookCellService.supported ·) ||
      data.position.any (d.cellAtBeside n · k) ||
      amendRefused notebookCellTable notebookCellClash k
        (NotebookCellRepository.assign data.source (data.cellType.map lower) data.position)
        (NotebookCellRepository.stamp e) d
  | .deleteCell n k => !d.hasNotebook n || !d.hasCellIn n k
  | .getNotebookMetadata n => !d.hasNotebook n || !d.hasMetadata n
  | .updateNotebookMetadata n data =>
    !d.hasNotebook n ||
      if d.hasMetadata n then
        amendRefused notebookMetadataTable notebookMetadataClash n
          (NotebookMetadataRepository.assign data.configuration) (NotebookMetadataRepository.stamp e) d
      else
        notebookMetadataTable.occupied notebookMetadataClash
          (NotebookMetadataRepository.row e n data.configuration) d

def Request.refused (d : Database) (r : Request) : Bool :=
  !r.call.schemaOk || r.call.refused r.env d

def Call.effect (e : Env) (d : Database) : Call → Database
  | .createWorkspace data =>
    workspaceTable.append (WorkspaceRepository.row e data.name data.description) d
  | .updateWorkspace k data =>
    amend workspaceTable k (WorkspaceRepository.assign data.name data.description)
      (WorkspaceRepository.stamp e) d
  | .deleteWorkspace k => cascadeWorkspace (· = k) (workspaceTable.drop k d)
  | .createProject w data =>
    projectTable.append (ProjectRepository.row e w data.name data.description) d
  | .updateProject k data =>
    amend projectTable k (ProjectRepository.assign data.name data.description)
      (ProjectRepository.stamp e) d
  | .deleteProject k => cascadeProject (· = k) (projectTable.drop k d)
  | .createNotebook p data =>
    notebookTable.append
      (NotebookRepository.row e p data.name data.description (lower data.language)) d
  | .updateNotebook k data =>
    amend notebookTable k
      (NotebookRepository.assign data.name data.description (data.language.map lower))
      (NotebookRepository.stamp e) d
  | .deleteNotebook k => cascadeNotebook (· = k) (notebookTable.drop k d)
  | .createCell n data =>
    notebookCellTable.append
      (NotebookCellRepository.row e n data.position data.source (lower data.cellType)) d
  | .updateCell _ k data =>
    amend notebookCellTable k
      (NotebookCellRepository.assign data.source (data.cellType.map lower) data.position)
      (NotebookCellRepository.stamp e) d
  | .deleteCell _ k => notebookCellTable.drop k d
  | .updateNotebookMetadata n data =>
    if d.hasMetadata n then
      amend notebookMetadataTable n (NotebookMetadataRepository.assign data.configuration)
        (NotebookMetadataRepository.stamp e) d
    else notebookMetadataTable.append (NotebookMetadataRepository.row e n data.configuration) d
  | .listWorkspaces | .getWorkspace _ | .listProjectsInWorkspace _ | .getProject _
  | .listNotebooksInProject _ | .getNotebook _ | .listCellsInNotebook _ | .getCell _ _
  | .getNotebookMetadata _ => d

def Request.effect (d : Database) (r : Request) : Database := r.call.effect r.env d

end NotebookExecution.Store
