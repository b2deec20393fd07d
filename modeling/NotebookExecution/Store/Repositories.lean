import NotebookExecution.Store.Models

/-! The repositories of the notebook store over one session, with the constraints the schema
declares. -/

namespace NotebookExecution.Store

open Library.Transaction Library.Table

/-- What a request may find generated for it: the next `uuid4` and the database clock. -/
structure Env where
  uuid : Uuid
  now : Instant

inductive ServiceError
  | http (statusCode : ℕ) (detail : String)
  | integrityError

def workspaceClash (d : Database) (w : Workspace) : Bool :=
  d.workspaces.any (fun x => x.id ≠ w.id ∧ x.name = w.name)

def projectClash (d : Database) (p : Project) : Bool :=
  d.projects.any (fun x => x.id ≠ p.id ∧ x.workspaceId = p.workspaceId ∧ x.name = p.name) ||
    d.workspaces.all (fun w => w.id ≠ p.workspaceId)

def notebookClash (d : Database) (n : Notebook) : Bool :=
  d.notebooks.any (fun x => x.id ≠ n.id ∧ x.projectId = n.projectId ∧ x.name = n.name) ||
    d.projects.all (fun p => p.id ≠ n.projectId)

def notebookCellClash (d : Database) (c : NotebookCell) : Bool :=
  d.notebookCells.any (fun x => x.id ≠ c.id ∧ x.notebookId = c.notebookId ∧ x.position = c.position) ||
    d.notebooks.all (fun n => n.id ≠ c.notebookId)

def notebookMetadataClash (d : Database) (m : NotebookMetadata) : Bool :=
  d.notebookMetadata.any (fun x => x.notebookId ≠ m.notebookId ∧ x.id = m.id) ||
    d.notebooks.all (fun n => n.id ≠ m.notebookId)

/-! ## ON DELETE CASCADE -/

def cascadeNotebook (gone : Uuid → Bool) (d : Database) : Database :=
  { d with
    notebookCells := d.notebookCells.filter (fun c => !gone c.notebookId)
    notebookMetadata := d.notebookMetadata.filter (fun m => !gone m.notebookId)
    executionOutputs := d.executionOutputs.filter (fun o => !o.notebookId.any gone)
    notebookDependencies := d.notebookDependencies.filter (fun x => !gone x.notebookId)
    dependencyOperations := d.dependencyOperations.filter (fun x => !gone x.notebookId) }

def cascadeProject (gone : Uuid → Bool) (d : Database) : Database :=
  cascadeNotebook (fun k => d.notebooks.any (fun n => n.id = k && gone n.projectId))
    { d with notebooks := d.notebooks.filter (fun n => !gone n.projectId) }

def cascadeWorkspace (gone : Uuid → Bool) (d : Database) : Database :=
  cascadeProject (fun k => d.projects.any (fun p => p.id = k && gone p.workspaceId))
    { d with projects := d.projects.filter (fun p => !gone p.workspaceId) }

variable {ε : Type}

namespace WorkspaceRepository

def row (e : Env) (name : String) (description : Option String) : Workspace :=
  ⟨e.uuid, name, description, e.now, e.now⟩

def assign (name description : Option String) (w : Workspace) : Workspace :=
  { w with name := name.getD w.name, description := description.or w.description }

def stamp (e : Env) (w : Workspace) : Workspace := { w with updatedAt := e.now }

def create (e : Env) (name : String) (description : Option String) :
    Tx Database ServiceError Workspace :=
  workspaceTable.insert workspaceClash .integrityError (row e name description)

def getById (k : Uuid) : Tx Database ε (Option Workspace) := workspaceTable.getById k

def workspacesOf (d : Database) : List Workspace :=
  d.workspaces.insertionSort (fun x y => y.createdAt ≤ x.createdAt)

def listAll : Tx Database ε (List Workspace) := do
  let d ← read
  pure (workspacesOf d)

def update (e : Env) (k : Uuid) (name description : Option String) :
    Tx Database ServiceError (Option Workspace) :=
  workspaceTable.update workspaceClash .integrityError k (assign name description) (stamp e)

def delete (k : Uuid) : Tx Database ε Bool := workspaceTable.delete k (cascadeWorkspace (· = k))

end WorkspaceRepository

namespace ProjectRepository

def row (e : Env) (workspaceId : Uuid) (name : String) (description : Option String) : Project :=
  ⟨e.uuid, workspaceId, name, description, e.now, e.now⟩

def assign (name description : Option String) (p : Project) : Project :=
  { p with name := name.getD p.name, description := description.or p.description }

def stamp (e : Env) (p : Project) : Project := { p with updatedAt := e.now }

def create (e : Env) (workspaceId : Uuid) (name : String) (description : Option String) :
    Tx Database ServiceError Project :=
  projectTable.insert projectClash .integrityError (row e workspaceId name description)

def getById (k : Uuid) : Tx Database ε (Option Project) := projectTable.getById k

def projectsOf (workspaceId : Uuid) (d : Database) : List Project :=
  (d.projects.filter (fun p => p.workspaceId = workspaceId)).insertionSort (fun x y => x.name ≤ y.name)

def listByWorkspace (workspaceId : Uuid) : Tx Database ε (List Project) := do
  let d ← read
  pure (projectsOf workspaceId d)

def update (e : Env) (k : Uuid) (name description : Option String) :
    Tx Database ServiceError (Option Project) :=
  projectTable.update projectClash .integrityError k (assign name description) (stamp e)

def delete (k : Uuid) : Tx Database ε Bool := projectTable.delete k (cascadeProject (· = k))

end ProjectRepository

namespace NotebookRepository

def row (e : Env) (projectId : Uuid) (name : String) (description : Option String)
    (language : String) : Notebook :=
  ⟨e.uuid, projectId, name, description, language, e.now, e.now⟩

def assign (name description language : Option String) (n : Notebook) : Notebook :=
  { n with
    name := name.getD n.name
    description := description.or n.description
    language := language.getD n.language }

def stamp (e : Env) (n : Notebook) : Notebook := { n with updatedAt := e.now }

def create (e : Env) (projectId : Uuid) (name : String) (description : Option String)
    (language : String) : Tx Database ServiceError Notebook :=
  notebookTable.insert notebookClash .integrityError (row e projectId name description language)

def getById (k : Uuid) : Tx Database ε (Option Notebook) := notebookTable.getById k

def notebooksOf (projectId : Uuid) (d : Database) : List Notebook :=
  (d.notebooks.filter (fun n => n.projectId = projectId)).insertionSort (fun x y => x.name ≤ y.name)

def listByProject (projectId : Uuid) : Tx Database ε (List Notebook) := do
  let d ← read
  pure (notebooksOf projectId d)

def update (e : Env) (k : Uuid) (name description language : Option String) :
    Tx Database ServiceError (Option Notebook) :=
  notebookTable.update notebookClash .integrityError k (assign name description language) (stamp e)

def delete (k : Uuid) : Tx Database ε Bool := notebookTable.delete k (cascadeNotebook (· = k))

end NotebookRepository

namespace NotebookCellRepository

def row (e : Env) (notebookId : Uuid) (position : ℤ) (source cellType : String) : NotebookCell :=
  ⟨e.uuid, notebookId, position, cellType, source, e.now, e.now⟩

def assign (source cellType : Option String) (position : Option ℤ) (c : NotebookCell) :
    NotebookCell :=
  { c with
    source := source.getD c.source
    cellType := cellType.getD c.cellType
    position := position.getD c.position }

def stamp (e : Env) (c : NotebookCell) : NotebookCell := { c with updatedAt := e.now }

def create (e : Env) (notebookId : Uuid) (position : ℤ) (source cellType : String) :
    Tx Database ServiceError NotebookCell :=
  notebookCellTable.insert notebookCellClash .integrityError
    (row e notebookId position source cellType)

def getById (k : Uuid) : Tx Database ε (Option NotebookCell) := notebookCellTable.getById k

def cellsOf (notebookId : Uuid) (d : Database) : List NotebookCell :=
  (d.notebookCells.filter (fun c => c.notebookId = notebookId)).insertionSort
    (fun x y => x.position ≤ y.position)

def listByNotebook (notebookId : Uuid) : Tx Database ε (List NotebookCell) := do
  let d ← read
  pure (cellsOf notebookId d)

def update (e : Env) (k : Uuid) (source cellType : Option String) (position : Option ℤ) :
    Tx Database ServiceError (Option NotebookCell) :=
  notebookCellTable.update notebookCellClash .integrityError k (assign source cellType position)
    (stamp e)

def delete (k : Uuid) : Tx Database ε Bool := notebookCellTable.delete k id

end NotebookCellRepository

namespace NotebookMetadataRepository

def row (e : Env) (notebookId : Uuid) (configuration : Json) : NotebookMetadata :=
  ⟨e.uuid, notebookId, configuration, e.now, e.now⟩

def assign (configuration : Json) (m : NotebookMetadata) : NotebookMetadata :=
  { m with configuration := configuration }

def stamp (e : Env) (m : NotebookMetadata) : NotebookMetadata := { m with updatedAt := e.now }

def getByNotebookId (notebookId : Uuid) : Tx Database ε (Option NotebookMetadata) :=
  notebookMetadataTable.getById notebookId

def createOrUpdate (e : Env) (notebookId : Uuid) (configuration : Json) :
    Tx Database ServiceError NotebookMetadata := do
  let updated ← notebookMetadataTable.update notebookMetadataClash .integrityError notebookId
    (assign configuration) (stamp e)
  match updated with
  | some m => pure m
  | none =>
    notebookMetadataTable.insert notebookMetadataClash .integrityError
      (row e notebookId configuration)

def delete (notebookId : Uuid) : Tx Database ε Bool := notebookMetadataTable.delete notebookId id

end NotebookMetadataRepository

end NotebookExecution.Store
