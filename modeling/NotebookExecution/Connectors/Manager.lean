import NotebookExecution.Connectors.Classes
import NotebookExecution.Connectors.Credentials

/-! The connector manager: connectors with their credentials, and the test of a connection. -/

namespace NotebookExecution.Connectors

open Library.Json Library.Text Library.Transaction Library.Table Store

def connectorClash (d : Platform) (x : Connector) : Bool :=
  d.connectors.any fun y => y.id ≠ x.id ∧ y.name = x.name

namespace ConnectorRepository

def create (e : Env) (name connectorType category : String) (configuration : JsonFields)
    (credentialId : Option String) (status : ConnectorStatus) : Tx Platform ConnectorFailure Connector :=
  connectorTable.insert connectorClash .integrityError
    ⟨e.uuid, name, connectorType, category, configuration, credentialId, status, e.now, e.now⟩

def getById (k : Uuid) : Tx Platform ConnectorFailure (Option Connector) := connectorTable.getById k

structure ConnectorUpdate where
  name : Option String := none
  configuration : Option JsonFields := none
  credentialId : Option String := none
  status : Option ConnectorStatus := none

def assign (u : ConnectorUpdate) (x : Connector) : Connector :=
  { x with
    name := u.name.getD x.name
    -- A document that `==` the one loaded is no change, and its column is not written.
    configuration := (u.configuration.filter fun c => !sameFields c x.configuration).getD x.configuration
    credentialId := u.credentialId.or x.credentialId
    status := u.status.getD x.status }

def stamp (now : Instant) (x : Connector) : Connector := { x with updatedAt := now }

def update (now : Instant) (k : Uuid) (u : ConnectorUpdate) :
    Tx Platform ConnectorFailure (Option Connector) :=
  connectorTable.update connectorClash .integrityError k (assign u) (stamp now)

def updateStatus (now : Instant) (k : Uuid) (status : ConnectorStatus) :
    Tx Platform ConnectorFailure (Option Connector) := do
  let d ← read
  write { d with statusUpdates := d.statusUpdates ++ [(k, status)] }
  update now k { status := some status }

def delete (k : Uuid) : Tx Platform ConnectorFailure Bool := connectorTable.delete k id

end ConnectorRepository

structure Generated where
  dummyId : Uuid
  credential : CredentialManager.Generated
  connector : Env

def givenPayload (secretPayload : Option JsonFields) : Option JsonFields :=
  secretPayload.filter (· ≠ .nil)

namespace ConnectorManager

variable (P : Python) (E : Encryption)

def storePayload (g : Generated) (credentialType : String) (secretPayload : Option JsonFields)
    (current : Option String) : Tx Platform ConnectorFailure (Option String) :=
  -- An update hands over the identifier that the connector has, and stores under a new one if it has none.
  match givenPayload secretPayload with
  | some payload => do
    let cred ← CredentialManager.createCredential E g.credential credentialType payload current
    pure (some cred.credentialId)
  | none => pure current

def createConnector (g : Generated) (name connectorType category : String) (configuration : JsonFields)
    (secretPayload : Option JsonFields) : Tx Platform ConnectorFailure Connector := do
  let connectorCls ← ofExcept (ConnectorRegistry.get connectorType)
  let tempInstance ← ofExcept (connectorCls.construct P
    ⟨toString g.dummyId, name, configuration, orEmpty (secretPayload.map .object)⟩)
  ofExcept tempInstance.validateConfig
  let credentialId ← storePayload E g connectorType secretPayload none
  ConnectorRepository.create g.connector name (lower connectorType) (upper category) configuration
    credentialId .created

def getConnector (k : Uuid) : Tx Platform ConnectorFailure Connector := do
  match ← ConnectorRepository.getById k with
  | some conn => pure conn
  | none => throw (.notFound (toString k))

def updateConnector (g : Generated) (k : Uuid) (name : Option String) (configuration : Option JsonFields)
    (secretPayload : Option JsonFields) : Tx Platform ConnectorFailure (Option Connector) := do
  let conn ← getConnector k
  let updatedCredId ← storePayload E g conn.connectorType secretPayload conn.credentialId
  ConnectorRepository.update g.connector.now k ⟨name, configuration, updatedCredId, some .created⟩

def deleteConnector (k : Uuid) : Tx Platform ConnectorFailure Bool := do
  let conn ← getConnector k
  match conn.credentialId with
  | some c => do
    let _ ← CredentialRepository.delete c
    ConnectorRepository.delete k
  | none => ConnectorRepository.delete k

structure TestResult where
  connectorId : String
  name : String
  status : String
  capabilities : ConnectorCapabilities
  deriving DecidableEq

def publishAll (events : List Output.OutputEventSchema) : Tx Platform ConnectorFailure Unit := do
  let d ← read
  write { d with published := d.published ++ events }

/-- The output manager writes to the tables of the store, through the same session. -/
def inStore {α : Type} (p : Tx Database ServiceError α) : Tx Platform ConnectorFailure α := fun s =>
  let outcome := p ⟨s.committed.store, s.view.store⟩
  (outcome.1.mapError fun _ => .integrityError,
    ⟨{ s.committed with store := outcome.2.committed }, { s.view with store := outcome.2.view }⟩)

def logEvents (e : Env) (x : Output.RawOutput) : Tx Platform ConnectorFailure Unit := do
  let events := (Output.OutputManager.createOutputEvents Output.OutputManager.defaultMaxOutputSize x).1
  publishAll events
  let _ ← inStore (Output.OutputManager.persistEvents (events.map fun event => (e, event)))
  pure ()

def testOutput (conn : Connector) (stdout stderr status : String) : Output.RawOutput where
  executionId := "conn-test-" ++ toString conn.id
  sessionId := "connector-manager"
  stdout := stdout
  stderr := stderr
  status := status

def successText (conn : Connector) (statusVal : ConnectorStatus) : String :=
  "Connector '" ++ conn.name ++ "' (" ++ conn.connectorType ++ ") connection test: " ++ statusVal.value ++ "\n"

def failureText (conn : Connector) (exc : ConnectorFailure) : String :=
  "Connector '" ++ conn.name ++ "' connection test failed: " ++ exc.text ++ "\n"

def resolvedCreds (conn : Connector) : Tx Platform ConnectorFailure JsonValue :=
  match conn.credentialId with
  | some c => do pure (orEmpty (← CredentialManager.resolveCredential E c))
  | none => pure (.object .nil)

def attempt (e : Env) (conn : Connector) (creds : JsonValue) :
    Tx Platform ConnectorFailure TestResult := do
  let connectorInst ← ofExcept (ConnectorFactory.createConnector P (toString conn.id) conn.name
    conn.connectorType conn.configuration (some creds))
  let isOk ← ofExcept connectorInst.testConnection
  let statusVal : ConnectorStatus := if isOk then .available else .unavailable
  let _ ← ConnectorRepository.updateStatus e.now conn.id statusVal
  logEvents e (testOutput conn (successText conn statusVal) "" "ok")
  pure ⟨toString conn.id, conn.name, statusVal.value, connectorInst.capabilities⟩

def failed (e : Env) (conn : Connector) (exc : ConnectorFailure) :
    Tx Platform ConnectorFailure TestResult := do
  -- After a failed flush the first statement of the handler is refused.
  if exc = .integrityError then throw .pendingRollback
  else do
    let _ ← ConnectorRepository.updateStatus e.now conn.id .error
    logEvents e (testOutput conn "" (failureText conn exc) "failed")
    throw (.connection (toString conn.id) exc.text)

def testConnector (e : Env) (k : Uuid) : Tx Platform ConnectorFailure TestResult := do
  let conn ← getConnector k
  let _ ← ConnectorRepository.updateStatus e.now k .validating
  let creds ← resolvedCreds E conn
  tryCatch (attempt P e conn creds) (failed e conn)

end ConnectorManager

end NotebookExecution.Connectors
