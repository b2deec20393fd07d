import NotebookExecution.Dependencies.Resolver
import NotebookExecution.Store.Repositories

/-! The repositories of declared dependencies and of the operations that install them. -/

namespace NotebookExecution.Dependencies

open Library.Transaction Library.Table Store

variable {ε : Type}

def notebookDependencyClash (d : Database) (x : NotebookDependency) : Bool :=
  d.notebookDependencies.any
      (fun y => y.id ≠ x.id ∧ y.notebookId = x.notebookId ∧ y.packageName = x.packageName) ||
    d.notebooks.all (fun n => n.id ≠ x.notebookId)

/-- The operation id is unique by declaration and the key of the table here. -/
def dependencyOperationClash (d : Database) (x : DependencyOperation) : Bool :=
  d.dependencyOperations.any (fun y => y.operationId ≠ x.operationId ∧ y.id = x.id) ||
    d.notebooks.all (fun n => n.id ≠ x.notebookId)

namespace NotebookDependencyRepository

def create (e : Env) (notebookId : Uuid) (packageName : String) (versionSpecifier : Option String) :
    Tx Database DependencyFailure NotebookDependency :=
  notebookDependencyTable.insert notebookDependencyClash .integrityError
    ⟨e.uuid, notebookId, packageName, versionSpecifier, e.now, e.now⟩

def getById (k : Uuid) : Tx Database ε (Option NotebookDependency) := notebookDependencyTable.getById k

def getByNotebookAndPackage (notebookId : Uuid) (packageName : String) :
    Tx Database ε (Option NotebookDependency) := do
  let d ← read
  pure (d.notebookDependencies.find? fun x => x.notebookId = notebookId ∧ x.packageName = packageName)

def dependenciesOf (notebookId : Uuid) (d : Database) : List NotebookDependency :=
  (d.notebookDependencies.filter fun x => x.notebookId = notebookId).insertionSort fun x y =>
    x.packageName ≤ y.packageName

def listByNotebookId (notebookId : Uuid) : Tx Database ε (List NotebookDependency) := do
  let d ← read
  pure (dependenciesOf notebookId d)

def assign (versionSpecifier : Option String) (x : NotebookDependency) : NotebookDependency :=
  { x with versionSpecifier := versionSpecifier }

def stamp (e : Env) (x : NotebookDependency) : NotebookDependency := { x with updatedAt := e.now }

def update (e : Env) (k : Uuid) (versionSpecifier : Option String) :
    Tx Database DependencyFailure (Option NotebookDependency) :=
  notebookDependencyTable.update notebookDependencyClash .integrityError k (assign versionSpecifier) (stamp e)

def delete (k : Uuid) : Tx Database ε Bool := notebookDependencyTable.delete k id

end NotebookDependencyRepository

namespace DependencyOperationRepository

def create (row : DependencyOperation) : Tx Database DependencyFailure DependencyOperation :=
  dependencyOperationTable.insert dependencyOperationClash .integrityError row

def getByOperationId (operationId : String) : Tx Database ε (Option DependencyOperation) :=
  dependencyOperationTable.getById operationId

def ends : DependencyStatus → Bool
  | .ready | .failed | .cancelled => true
  | _ => false

/-- The arguments of one `update_status`; no caller gives a completion time. -/
structure StatusUpdate where
  status : DependencyStatus
  resolvedVersions : Option Json := none
  errorMessage : Option String := none

def assign (now : Instant) (u : StatusUpdate) (x : DependencyOperation) : DependencyOperation :=
  { x with
    status := u.status
    resolvedVersions := u.resolvedVersions.or x.resolvedVersions
    errorMessage := u.errorMessage.or x.errorMessage
    completedAt := if ends u.status then some now else x.completedAt }

def updateStatus (now : Instant) (operationId : String) (u : StatusUpdate) :
    Tx Database DependencyFailure (Option DependencyOperation) :=
  -- The table has no column that an update stamps.
  dependencyOperationTable.update (fun _ _ => false) .integrityError operationId (assign now u) id

end DependencyOperationRepository

end NotebookExecution.Dependencies
