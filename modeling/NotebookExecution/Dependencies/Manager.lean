import NotebookExecution.Dependencies.Repositories

/-! The dependency manager: declarations, and the stages of an installation inside the runtime. -/

namespace NotebookExecution.Dependencies

open Library.Transaction Library.Table Store DependencyResolver DependencyOperationRepository

abbrev Seconds := String

/-- The reply of `verify_packages`; the versions are missing when it carries a null. -/
structure VerifyReply where
  satisfied : Bool
  resolvedVersions : Option Json
  missingOrInvalid : List String

structure InstallReply where
  status : Option String
  stdout : Option String
  stderr : Option String

/-- The Python runtime and what it answers to the calls of one installation; an exception has a
text. -/
structure Runtime where
  runtimeId : String
  verifyBefore : List PackageEntry → Except String VerifyReply
  installPackages : List String → Seconds → Except String InstallReply
  verifyAfter : List PackageEntry → Except String VerifyReply

/-- A function refuses the first keyword that it has no parameter for. -/
def bindKeywords (function : String) (parameters keywords : List String) : Except DependencyFailure Unit :=
  match keywords.find? fun k => !parameters.contains k with
  | none => .ok ()
  | some k => .error (.typeError (function ++ "() got an unexpected keyword argument '" ++ k ++ "'"))

def createOutputEventsParameters : List String :=
  ["execution_id", "session_id", "notebook_id", "cell_id", "stdout", "stderr", "traceback", "status",
    "execution_time_ms"]

def captureKeywords : List String :=
  ["execution_id", "session_id", "notebook_id", "output_type", "content"]

def isFalsy (content : Option String) : Bool := content.all fun s => s = ""

def captureLog (content : Option String) : Except DependencyFailure Unit :=
  -- The call is awaited, and what it returns when it binds is a tuple.
  if isFalsy content then .ok ()
  else do
    bindKeywords "OutputManager.create_output_events" createOutputEventsParameters captureKeywords
    throw (.typeError "object tuple can't be used in 'await' expression")

namespace DependencyManager

def declareDependency (e : Env) (notebookId : Uuid) (packageName : String)
    (versionSpecifier : Option String) :
    Tx Database DependencyFailure (Option NotebookDependency) := do
  let validName ← ofExcept (DependencyValidator.validatePackageName packageName)
  let validSpec ← ofExcept (DependencyValidator.validateVersionSpecifier versionSpecifier)
  match ← NotebookDependencyRepository.getByNotebookAndPackage notebookId validName with
  | some existing => NotebookDependencyRepository.update e existing.id validSpec
  | none => some <$> NotebookDependencyRepository.create e notebookId validName validSpec

def listDependencies {ε : Type} (notebookId : Uuid) : Tx Database ε (List NotebookDependency) :=
  NotebookDependencyRepository.listByNotebookId notebookId

def deleteDependency {ε : Type} (k : Uuid) : Tx Database ε Bool := NotebookDependencyRepository.delete k

def packagesPayload (declared : List NotebookDependency) : List PackageEntry :=
  declared.map fun dep => ⟨dep.packageName, dep.versionSpecifier.getD ""⟩

def items (payload : List PackageEntry) : List PackageItem :=
  payload.map fun p => .entry (some p.packageName) (some p.versionSpecifier)

/-- What one installation finds generated for it: its operation id, the key of the record, and the
clock at the writes, none of which has the same status as another. -/
structure Setting where
  operationId : String
  uuid : Uuid
  startedAt : Instant
  clock : DependencyStatus → Instant

variable (w : Runtime) (x : Setting) (timeout : Seconds)

def requested (notebookId : Uuid) (sessionId : Option String) (payload : List PackageEntry) :
    DependencyOperation where
  id := x.uuid
  operationId := x.operationId
  notebookId := notebookId
  sessionId := sessionId
  runtimeId := some w.runtimeId
  status := .requested
  packages := payload
  resolvedVersions := none
  errorMessage := none
  startedAt := x.startedAt
  completedAt := none

def mark (u : StatusUpdate) : Tx Database DependencyFailure Unit := do
  let _ ← updateStatus (x.clock u.status) x.operationId u
  pure ()

def ofRuntime {α : Type} (reply : Except String α) : Tx Database DependencyFailure α :=
  ofExcept (reply.mapError .runtime)

def ready (resolvedVersions : Option Json) : Tx Database DependencyFailure (Option DependencyOperation) := do
  mark x { status := .ready, resolvedVersions := resolvedVersions }
  getByOperationId x.operationId

def failWith (errorMessage : String) (err : DependencyFailure) :
    Tx Database DependencyFailure (Option DependencyOperation) := do
  mark x { status := .failed, errorMessage := some errorMessage }
  throw err

def pipError : String := "Pip installation returned non-zero exit status."

def installError (stderr : Option String) : String :=
  if isFalsy stderr then pipError else stderr.getD pipError

def verificationError (reply : VerifyReply) : String :=
  "Package verification failed: " ++ ", ".intercalate reply.missingOrInvalid

def stages (payload : List PackageEntry) :
    Tx Database DependencyFailure (Option DependencyOperation) := do
  mark x { status := .validating }
  let resolvedReqs ← ofExcept (resolveRequirements (items payload))
  mark x { status := .resolving }
  let before ← ofRuntime (w.verifyBefore payload)
  if before.satisfied then ready x before.resolvedVersions
  else do
    mark x { status := .installing }
    let reply ← ofRuntime (w.installPackages (resolvedReqs.map Resolved.requirement) timeout)
    ofExcept (captureLog reply.stdout)
    ofExcept (captureLog reply.stderr)
    if reply.status = some "timeout" then
      failWith x ("Installation timed out after " ++ timeout ++ " seconds.") (.timeout x.operationId timeout)
    else if reply.status ≠ some "ok" then
      failWith x (installError reply.stderr) (.installation x.operationId (installError reply.stderr))
    else do
      mark x { status := .verifying }
      let after ← ofRuntime (w.verifyAfter payload)
      if after.satisfied then ready x after.resolvedVersions
      else failWith x (verificationError after) (.installation x.operationId (verificationError after))

def handled (err : DependencyFailure) : Tx Database DependencyFailure (Option DependencyOperation) :=
  -- A failure of the pip run or of the verification has been written before it was raised.
  match err with
  | .timeout _ _ | .installation _ _ => throw err
  | _ => failWith x err.text err

def installNotebookDependencies (notebookId : Uuid) (sessionId : Option String) :
    Tx Database DependencyFailure (Option DependencyOperation) := do
  let declared ← NotebookDependencyRepository.listByNotebookId notebookId
  let _ ← create (requested w x notebookId sessionId (packagesPayload declared))
  if declared = [] then ready x (some "\x7b\x7d")
  else tryCatch (stages w x timeout (packagesPayload declared)) (handled x)

def cancelOperation (now : Instant) (operationId : String) :
    Tx Database DependencyFailure (Option DependencyOperation) := do
  match ← getByOperationId operationId with
  | none => pure none
  | some row =>
    if ends row.status then pure (some row)
    else updateStatus now operationId { status := .cancelled }

end DependencyManager

end NotebookExecution.Dependencies
