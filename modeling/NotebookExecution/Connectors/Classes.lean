import NotebookExecution.Connectors.Models

/-! The five connector classes, the registry that finds them by name, and the factory. -/

namespace NotebookExecution.Connectors

open Library.Json Library.Text

/-- `str` of a document and `repr` of a text, which the classes only store and print. -/
structure Python where
  str : JsonValue → String
  repr : String → String

structure BaseConnector where
  connectorId : String
  name : String
  config : JsonFields
  credentials : JsonValue

structure ConnectorCapabilities where
  canRead : Bool
  canWrite : Bool
  supportsTransactions : Bool
  supportsQuery : Bool
  supportsObjectStorage : Bool
  deriving DecidableEq

inductive Target
  | server (host : String) (port : ℤ) (database : String)
  | bucket (bucket region : String)

structure ConnectorInstance extends BaseConnector where
  connectorType : ConnectorType
  category : ConnectorCategory
  target : Target
  username : Option String

def intMessage (P : Python) : IntError → String
  | .notANumber type =>
    "int() argument must be a string, a bytes-like object or a real number, not '" ++ type ++ "'"
  | .invalidLiteral text => "invalid literal for int() with base 10: " ++ P.repr text
  | .tooManyDigits count =>
    "Exceeds the limit (4300 digits) for integer string conversion: value has " ++ toString count ++
      " digits; use sys.set_int_max_str_digits() to increase the limit"
  | .nan => "cannot convert float NaN to integer"
  | .infinity => "cannot convert float infinity to integer"

def getOr (o : JsonFields) (k : String) (default : JsonValue) : JsonValue := (o.get k).getD default

def orEmpty (credentials : Option JsonValue) : JsonValue :=
  match credentials with
  | some v => if truth v then v else .object .nil
  | none => .object .nil

section Constructors

variable (P : Python) (x : BaseConnector)

def serverTarget (port : ℤ) (database : String) : Except ConnectorFailure Target := do
  let number ← (toInt (getOr x.config "port" (.int port))).mapError fun err => .raised (intMessage P err)
  pure (.server (P.str (getOr x.config "host" (.string "localhost"))) number
    (P.str (getOr x.config "database" (.string database))))

def usernameOf (credentials : JsonValue) : Except ConnectorFailure String :=
  -- `self._credentials.get("username", "postgres")`, which only a dictionary has.
  match credentials with
  | .object o => .ok (P.str (getOr o "username" (.string "postgres")))
  | v => .error (.raised ("'" ++ typeName v ++ "' object has no attribute 'get'"))

def PostgreSQLConnector.init : Except ConnectorFailure ConnectorInstance := do
  let target ← serverTarget P x 5432 "postgres"
  let username ← usernameOf P x.credentials
  pure ⟨x, .postgresql, .relationalDatabase, target, some username⟩

def MySQLConnector.init : Except ConnectorFailure ConnectorInstance := do
  let target ← serverTarget P x 3306 "mysql"
  pure ⟨x, .mysql, .relationalDatabase, target, none⟩

def MSSQLConnector.init : Except ConnectorFailure ConnectorInstance := do
  let target ← serverTarget P x 1433 "master"
  pure ⟨x, .mssql, .relationalDatabase, target, none⟩

def MongoDBConnector.init : Except ConnectorFailure ConnectorInstance := do
  let target ← serverTarget P x 27017 "admin"
  pure ⟨x, .mongodb, .nosqlDatabase, target, none⟩

def AWSS3Connector.init : Except ConnectorFailure ConnectorInstance :=
  let target := .bucket (P.str (getOr x.config "bucket" (.string "")))
    (P.str (getOr x.config "region" (.string "us-east-1")))
  .ok ⟨x, .s3, .objectStorage, target, none⟩

end Constructors

def ConnectorType.construct : ConnectorType → Python → BaseConnector → Except ConnectorFailure ConnectorInstance
  | .postgresql => PostgreSQLConnector.init
  | .mysql => MySQLConnector.init
  | .mssql => MSSQLConnector.init
  | .mongodb => MongoDBConnector.init
  | .s3 => AWSS3Connector.init

def requireFields (present : Option JsonValue → Bool) (fields : List String) (type : ConnectorType)
    (config : JsonFields) : Except ConnectorFailure Unit :=
  match fields.find? fun f => !present (config.get f) with
  | some f => .error (.configuration type.value ("Missing required configuration field '" ++ f ++ "'."))
  | none => .ok ()

def notNull (v : Option JsonValue) : Bool := v.any (· ≠ .null)

def BaseRelationalConnector.validateConfig : ConnectorType → JsonFields → Except ConnectorFailure Unit :=
  requireFields notNull ["host", "port", "database"]

def MongoDBConnector.validateConfig : ConnectorType → JsonFields → Except ConnectorFailure Unit :=
  requireFields notNull ["host", "port", "database"]

def AWSS3Connector.validateConfig : ConnectorType → JsonFields → Except ConnectorFailure Unit :=
  -- Here an empty value is as good as none.
  requireFields (fun v => v.any truth) ["bucket", "region"]

namespace ConnectorInstance

def validateConfig (i : ConnectorInstance) : Except ConnectorFailure Unit :=
  match i.connectorType with
  | .postgresql | .mysql | .mssql => BaseRelationalConnector.validateConfig i.connectorType i.config
  | .mongodb => MongoDBConnector.validateConfig i.connectorType i.config
  | .s3 => AWSS3Connector.validateConfig i.connectorType i.config

def testConnection (i : ConnectorInstance) : Except ConnectorFailure Bool := do
  i.validateConfig
  pure true

def capabilities (i : ConnectorInstance) : ConnectorCapabilities :=
  match i.connectorType with
  | .postgresql | .mysql | .mssql => ⟨true, true, true, true, false⟩
  | .mongodb => ⟨true, true, false, true, false⟩
  | .s3 => ⟨true, true, false, false, true⟩

end ConnectorInstance

namespace ConnectorRegistry

def canonicalType (connectorType : String) : String := lower (strip connectorType)

def registry : List (String × ConnectorType) :=
  [ConnectorType.postgresql, .mysql, .mssql, .mongodb, .s3].map fun t => (canonicalType t.value, t)

def get (connectorType : String) : Except ConnectorFailure ConnectorType :=
  match registry.lookup (canonicalType connectorType) with
  | some t => .ok t
  | none => .error (.notFound connectorType)

end ConnectorRegistry

def ConnectorFactory.createConnector (P : Python) (connectorId name connectorType : String)
    (config : JsonFields) (credentials : Option JsonValue) : Except ConnectorFailure ConnectorInstance := do
  let cls ← ConnectorRegistry.get connectorType
  let connectorInst ← cls.construct P ⟨connectorId, name, config, orEmpty credentials⟩
  connectorInst.validateConfig
  pure connectorInst

end NotebookExecution.Connectors
