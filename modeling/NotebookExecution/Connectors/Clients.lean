import NotebookExecution.Connectors.Classes
import NotebookExecution.Library.Dict

/-! Connectors in use: the handle that an operation opens when it needs one, queries and objects. -/

namespace NotebookExecution.Connectors

open Library.Json Library

/-- `invalid` is what `validate_config` raises. -/
inductive ClientFailure
  | invalid (err : ConnectorFailure)
  | operation (connectorId details : String)
  | notImplemented (message : String)
  deriving DecidableEq

structure Client extends ConnectorInstance where
  isConnected : Bool
  objectCache : Dict String ByteArray

def ConnectorInstance.client (i : ConnectorInstance) : Client := { i with isConnected := false, objectCache := .empty }

/-! A connector to a bucket has no attribute `database`, and the others none of a bucket. -/

def Target.database : Target → String
  | .server _ _ database => database
  | .bucket _ _ => ""

def Target.bucketName : Target → String
  | .server _ _ _ => ""
  | .bucket name _ => name

namespace Client

variable {α : Type} (c : Client)

def connect : Except ClientFailure Unit × Client :=
  match c.validateConfig with
  | .ok _ => (.ok (), { c with isConnected := true })
  | .error err => (.error (.invalid err), c)

def disconnect : Except ClientFailure Unit × Client := (.ok (), { c with isConnected := false })

def onHandle (p : Client → Except ClientFailure α × Client) : Except ClientFailure α × Client :=
  if c.isConnected then p c
  else
    match c.connect with
    | (.ok _, c) => p c
    | (.error err, c) => (.error err, c)

def unsupported (operation : String) : Except ClientFailure α × Client :=
  (.error (.notImplemented (operation ++ " operation is not supported by connector '" ++ c.name ++ "'.")), c)

def queryRow (queryStr : String) : JsonFields :=
  .cons "status" (.string "success") (.cons "rows_affected" (.int 0)
    (.cons "query" (.string (String.ofList (queryStr.toList.take 50))) .nil))

def collectionRow (database queryStr : String) : JsonFields :=
  .cons "status" (.string "success") (.cons "database" (.string database)
    (.cons "collection_query" (.string queryStr) .nil))

/-- `";" in query_str and params is None`. -/
def unparameterized (queryStr : String) (params : Option JsonFields) : Bool :=
  queryStr.toList.contains ';' && params.isNone

def query (queryStr : String) (params : Option JsonFields) : Except ClientFailure (List JsonFields) × Client :=
  match c.connectorType with
  | .postgresql | .mysql | .mssql => c.onHandle fun c =>
    if unparameterized queryStr params then
      (.error (.operation c.connectorId "Multiple unparameterized statements are prohibited."), c)
    else (.ok [queryRow queryStr], c)
  | .mongodb => c.onHandle fun c => (.ok [collectionRow c.target.database queryStr], c)
  | .s3 => c.unsupported "Query"

def remoteObject (bucket objectKey : String) : ByteArray :=
  ("S3 object data for s3://" ++ bucket ++ "/" ++ objectKey).toUTF8

def readObject (objectKey : String) : Except ClientFailure ByteArray × Client :=
  match c.connectorType with
  | .s3 => c.onHandle fun c =>
    match c.objectCache.get? objectKey with
    | some data => (.ok data, c)
    | none => (.ok (remoteObject c.target.bucketName objectKey), c)
  | _ => c.unsupported "Read object"

def writeObject (objectKey : String) (data : ByteArray) : Except ClientFailure Bool × Client :=
  match c.connectorType with
  | .s3 => c.onHandle fun c => (.ok true, { c with objectCache := c.objectCache.set objectKey data })
  | _ => c.unsupported "Write object"

end Client

inductive ClientCall
  | testConnection
  | connect
  | disconnect
  | query (queryStr : String) (params : Option JsonFields)
  | readObject (objectKey : String)
  | writeObject (objectKey : String) (data : ByteArray)

inductive ClientAnswer
  | nothing
  | bool (b : Bool)
  | rows (l : List JsonFields)
  | bytes (data : ByteArray)

def ClientCall.perform (c : Client) : ClientCall → Except ClientFailure ClientAnswer × Client
  | .testConnection => ((c.testConnection.mapError .invalid).map .bool, c)
  | .connect => (c.connect.1.map fun _ => .nothing, c.connect.2)
  | .disconnect => (c.disconnect.1.map fun _ => .nothing, c.disconnect.2)
  | .query queryStr params => ((c.query queryStr params).1.map .rows, (c.query queryStr params).2)
  | .readObject objectKey => ((c.readObject objectKey).1.map .bytes, (c.readObject objectKey).2)
  | .writeObject objectKey data =>
    ((c.writeObject objectKey data).1.map .bool, (c.writeObject objectKey data).2)

def Client.after (c : Client) (calls : List ClientCall) : Client := calls.foldl (fun c call => (call.perform c).2) c

namespace ConnectorInstance

variable (i : ConnectorInstance)

def written (calls : List ClientCall) (objectKey : String) : Option ByteArray :=
  if i.connectorType = .s3 ∧ i.validateConfig = .ok () then
    calls.reverse.findSome? fun call =>
      match call with
      | .writeObject key data => if key = objectKey then some data else none
      | _ => none
  else none

def missing (operation : String) : ClientFailure :=
  .notImplemented (operation ++ " operation is not supported by connector '" ++ i.name ++ "'.")

def answer (stored : String → Option ByteArray) : ClientCall → Except ClientFailure ClientAnswer
  | .testConnection => do
    i.validateConfig.mapError .invalid
    pure (.bool true)
  | .connect => do
    i.validateConfig.mapError .invalid
    pure .nothing
  | .disconnect => pure .nothing
  | .query queryStr params =>
    if i.capabilities.supportsQuery then do
      i.validateConfig.mapError .invalid
      if i.connectorType = .mongodb then pure (.rows [Client.collectionRow i.target.database queryStr])
      else if Client.unparameterized queryStr params then
        throw (.operation i.connectorId "Multiple unparameterized statements are prohibited.")
      else pure (.rows [Client.queryRow queryStr])
    else throw (i.missing "Query")
  | .readObject objectKey =>
    if i.capabilities.supportsObjectStorage then do
      i.validateConfig.mapError .invalid
      pure (.bytes ((stored objectKey).getD (Client.remoteObject i.target.bucketName objectKey)))
    else throw (i.missing "Read object")
  | .writeObject _ _ =>
    if i.capabilities.supportsObjectStorage then do
      i.validateConfig.mapError .invalid
      pure (.bool true)
    else throw (i.missing "Write object")

end ConnectorInstance

/-! ## Calls one after the other -/

variable {i : ConnectorInstance} {c : Client} {calls : List ClientCall} {call : ClientCall}

structure Represents (i : ConnectorInstance) (stored : String → Option ByteArray) (c : Client) : Prop where
  config : c.toConnectorInstance = i
  connected : c.isConnected = true → i.validateConfig = .ok ()
  stored : ∀ k, c.objectCache.get? k = stored k

variable {α : Type} {stored : String → Option ByteArray} {p : Client → Except ClientFailure α × Client}

lemma onHandle_valid (h : Represents i stored c) (hv : i.validateConfig = .ok ()) :
    c.onHandle p = p { c with isConnected := true } := by
  obtain ⟨rfl, hc, hs⟩ := h
  by_cases hconn : c.isConnected = true
  · rw [Client.onHandle, if_pos hconn, ← hconn]
  · rw [Client.onHandle, if_neg hconn, Client.connect, hv]

lemma onHandle_invalid {err : ConnectorFailure} (h : Represents i stored c) (hv : i.validateConfig = .error err) :
    c.onHandle p = (.error (.invalid err), c) := by
  obtain ⟨rfl, hc, hs⟩ := h
  have hconn : ¬ c.isConnected = true := by
    intro hconn
    rw [hc hconn] at hv
    cases hv
  rw [Client.onHandle, if_neg hconn, Client.connect, hv]

lemma Represents.opened (h : Represents i stored c) (hv : i.validateConfig = .ok ()) :
    Represents i stored { c with isConnected := true } := ⟨h.config, fun _ => hv, h.stored⟩

def ConnectorInstance.store (i : ConnectorInstance) (stored : String → Option ByteArray) :
    ClientCall → String → Option ByteArray
  | .writeObject key data, objectKey =>
    if (i.connectorType = .s3 ∧ i.validateConfig = .ok ()) ∧ key = objectKey then some data else stored objectKey
  | _, objectKey => stored objectKey

def Answered (c : Client) (stored : String → Option ByteArray) (call : ClientCall) : Prop :=
  (call.perform c).1 = c.answer stored call ∧
    Represents c.toConnectorInstance (c.store stored call) (call.perform c).2

lemma connect_answered (h : Represents c.toConnectorInstance stored c) : Answered c stored .connect := by
  unfold Answered ClientCall.perform ConnectorInstance.answer Client.connect
  cases hv : c.validateConfig with
  | ok u => exact ⟨rfl, h.opened hv⟩
  | error err => exact ⟨rfl, h⟩

lemma testConnection_answered (h : Represents c.toConnectorInstance stored c) :
    Answered c stored .testConnection := by
  refine ⟨?_, h⟩
  unfold ClientCall.perform ConnectorInstance.answer ConnectorInstance.testConnection
  cases c.validateConfig <;> rfl

lemma relational_answered (h : Represents c.toConnectorInstance stored c) {queryStr : String}
    {params : Option JsonFields} (hq : c.query queryStr params = c.onHandle fun c =>
      if Client.unparameterized queryStr params then
        (.error (.operation c.connectorId "Multiple unparameterized statements are prohibited."), c)
      else (.ok [Client.queryRow queryStr], c))
    (hs : c.capabilities.supportsQuery = true) (hm : c.connectorType ≠ .mongodb) :
    Answered c stored (.query queryStr params) := by
  unfold Answered ClientCall.perform ConnectorInstance.answer
  dsimp only
  rw [hq, if_pos hs]
  cases hv : c.validateConfig with
  | error err =>
    rw [onHandle_invalid h hv]
    exact ⟨rfl, h⟩
  | ok u =>
    rw [onHandle_valid h hv, if_neg hm]
    split
    · exact ⟨rfl, h.opened hv⟩
    · exact ⟨rfl, h.opened hv⟩

lemma query_answered (h : Represents c.toConnectorInstance stored c) (queryStr : String)
    (params : Option JsonFields) : Answered c stored (.query queryStr params) := by
  cases ht : c.connectorType with
  | s3 =>
    unfold Answered ClientCall.perform ConnectorInstance.answer ConnectorInstance.capabilities Client.query
    rw [ht]
    exact ⟨rfl, h⟩
  | mongodb =>
    unfold Answered ClientCall.perform ConnectorInstance.answer ConnectorInstance.capabilities Client.query
    rw [ht]
    cases hv : c.validateConfig with
    | error err =>
      dsimp only
      rw [onHandle_invalid h hv]
      exact ⟨rfl, h⟩
    | ok u =>
      dsimp only
      rw [onHandle_valid h hv]
      exact ⟨rfl, h.opened hv⟩
  | _ =>
    refine relational_answered h ?_ ?_ (by rw [ht]; decide)
    · rw [Client.query, ht]
    · rw [ConnectorInstance.capabilities, ht]

lemma read_answered (h : Represents c.toConnectorInstance stored c) (objectKey : String) :
    Answered c stored (.readObject objectKey) := by
  unfold Answered ClientCall.perform ConnectorInstance.answer ConnectorInstance.capabilities Client.readObject
  cases ht : c.connectorType with
  | s3 =>
    cases hv : c.validateConfig with
    | error err =>
      dsimp only
      rw [onHandle_invalid h hv]
      exact ⟨rfl, h⟩
    | ok u =>
      dsimp only
      rw [onHandle_valid h hv, ← h.stored]
      cases c.objectCache.get? objectKey with
      | none => exact ⟨rfl, h.opened hv⟩
      | some data => exact ⟨rfl, h.opened hv⟩
  | _ => exact ⟨rfl, h⟩

lemma store_refused {objectKey : String} {data : ByteArray}
    (hn : ¬ (c.connectorType = .s3 ∧ c.validateConfig = .ok ())) :
    c.store stored (.writeObject objectKey data) = stored := by
  funext k
  rw [ConnectorInstance.store, if_neg fun h => hn h.1]

lemma write_answered (h : Represents c.toConnectorInstance stored c) (objectKey : String) (data : ByteArray) :
    Answered c stored (.writeObject objectKey data) := by
  cases ht : c.connectorType with
  | s3 =>
    cases hv : c.validateConfig with
    | error err =>
      have hn : ¬ (c.connectorType = .s3 ∧ c.validateConfig = .ok ()) := by
        rintro ⟨-, ho⟩
        rw [ho] at hv
        cases hv
      unfold Answered
      rw [store_refused hn]
      unfold ClientCall.perform ConnectorInstance.answer ConnectorInstance.capabilities Client.writeObject
      rw [ht, hv]
      dsimp only
      rw [onHandle_invalid h hv]
      exact ⟨rfl, h⟩
    | ok u =>
      unfold Answered ClientCall.perform ConnectorInstance.answer ConnectorInstance.capabilities Client.writeObject
      rw [ht, hv]
      dsimp only
      rw [onHandle_valid h hv]
      refine ⟨rfl, rfl, fun _ => hv, fun k => ?_⟩
      rw [ConnectorInstance.store, Dict.get?_set, h.stored]
      simp only [ht, hv, true_and, eq_comm]
  | _ =>
    have hn : ¬ (c.connectorType = .s3 ∧ c.validateConfig = .ok ()) := by
      rintro ⟨ho, -⟩
      rw [ho] at ht
      cases ht
    unfold Answered
    rw [store_refused hn]
    unfold ClientCall.perform ConnectorInstance.answer ConnectorInstance.capabilities Client.writeObject
    rw [ht]
    exact ⟨rfl, h⟩

lemma perform_answered (h : Represents i stored c) (call : ClientCall) :
    (call.perform c).1 = i.answer stored call ∧ Represents i (i.store stored call) (call.perform c).2 := by
  obtain rfl := h.config
  change Answered c stored call
  cases call with
  | testConnection => exact testConnection_answered h
  | connect => exact connect_answered h
  | disconnect => exact ⟨rfl, h.config, (fun hc => by cases hc), h.stored⟩
  | query queryStr params => exact query_answered h queryStr params
  | readObject objectKey => exact read_answered h objectKey
  | writeObject objectKey data => exact write_answered h objectKey data

lemma written_concat (i : ConnectorInstance) (calls : List ClientCall) (call : ClientCall) :
    i.written (calls ++ [call]) = i.store (i.written calls) call := by
  funext k
  unfold ConnectorInstance.written ConnectorInstance.store
  by_cases hi : i.connectorType = .s3 ∧ i.validateConfig = .ok ()
  · simp only [hi, List.reverse_append, List.reverse_singleton, List.singleton_append,
      List.findSome?_cons]
    cases call with
    | writeObject key data => by_cases hk : key = k <;> simp [hk]
    | _ => rfl
  · cases call <;> simp [hi]

lemma represents_after (i : ConnectorInstance) (calls : List ClientCall) :
    Represents i (i.written calls) (i.client.after calls) := by
  induction calls using List.reverseRecOn with
  | nil =>
    refine ⟨rfl, (fun h => by cases h), fun k => ?_⟩
    unfold ConnectorInstance.written
    split <;> rfl
  | append_singleton calls call ih =>
    rw [Client.after, List.foldl_append, List.foldl_cons, List.foldl_nil, written_concat, ← Client.after]
    exact (perform_answered ih call).2

theorem answers_by_writes (i : ConnectorInstance) (calls : List ClientCall) (call : ClientCall) :
    (call.perform (i.client.after calls)).1 = i.answer (i.written calls) call :=
  (perform_answered (represents_after i calls) call).1

end NotebookExecution.Connectors
