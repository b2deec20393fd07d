import NotebookExecution.Library.Json
import NotebookExecution.Output.Manager

/-! The rows of connectors and credentials, and the errors of the operations on them. -/

namespace NotebookExecution.Connectors

open Library.Json Library.Table Store

inductive ConnectorType
  | postgresql | mysql | mssql | mongodb | s3
  deriving DecidableEq

def ConnectorType.value : ConnectorType → String
  | .postgresql => "postgresql"
  | .mysql => "mysql"
  | .mssql => "mssql"
  | .mongodb => "mongodb"
  | .s3 => "s3"

inductive ConnectorCategory
  | relationalDatabase | nosqlDatabase | objectStorage
  deriving DecidableEq

inductive ConnectorStatus
  | created | validating | available | unavailable | error
  deriving DecidableEq

def ConnectorStatus.value : ConnectorStatus → String
  | .created => "CREATED"
  | .validating => "VALIDATING"
  | .available => "AVAILABLE"
  | .unavailable => "UNAVAILABLE"
  | .error => "ERROR"

structure Connector where
  id : Uuid
  name : String
  connectorType : String
  category : String
  configuration : JsonFields
  credentialId : Option String
  status : ConnectorStatus
  createdAt : Instant
  updatedAt : Instant
  deriving DecidableEq

structure Credential where
  id : Uuid
  credentialId : String
  credentialType : String
  encryptedPayload : JsonFields
  createdAt : Instant
  updatedAt : Instant
  deriving DecidableEq

/-- The database with the tables of connectors, and what the operations have told others: every update
of a status and every event handed to the publisher, in order. -/
structure Platform where
  store : Database
  connectors : List Connector
  credentials : List Credential
  statusUpdates : List (Uuid × ConnectorStatus)
  published : List Output.OutputEventSchema

def connectorTable : TableOf Platform Connector Uuid where
  key := Connector.id
  rows := Platform.connectors
  store t d := { d with connectors := t }
  rows_store _ _ := rfl
  store_rows _ := rfl

def credentialTable : TableOf Platform Credential Uuid where
  key := Credential.id
  rows := Platform.credentials
  store t d := { d with credentials := t }
  rows_store _ _ := rfl
  store_rows _ := rfl

/-- What an operation on connectors can raise. `raised` is an exception of Python itself, and
`pendingRollback` answers every statement after a flush that failed. -/
inductive ConnectorFailure
  | notFound (identifier : String)
  | configuration (connectorType details : String)
  | connection (connectorId details : String)
  | raised (message : String)
  | integrityError
  | pendingRollback
  deriving DecidableEq

def ConnectorFailure.text : ConnectorFailure → String
  | .notFound identifier => "Connector '" ++ identifier ++ "' not found."
  | .configuration connectorType details =>
    "Invalid configuration for connector '" ++ connectorType ++ "': " ++ details
  | .connection connectorId details =>
    "Connection failed for connector '" ++ connectorId ++ "': " ++ details
  | .raised message => message
  | .integrityError => "UNIQUE constraint failed"
  | .pendingRollback =>
    "This Session's transaction has been rolled back due to a previous exception during flush."

end NotebookExecution.Connectors
