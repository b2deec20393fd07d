import Mathlib.Data.String.Basic
import NotebookExecution.Library.Sorting
import NotebookExecution.Connectors.Creation

/-! The routes of connectors, and what their answers say of the connectors that are stored. -/

namespace NotebookExecution.Connectors

open Library.Runs Library.Json Library.Transaction Library.Table Library.Sorting Store

structure UpdateConnectorRequest where
  name : Option String
  configuration : Option JsonFields
  secretPayload : Option JsonFields

/-- `capabilities` is `{}` after a connection error. -/
inductive ConnectorReply
  | connector (statusCode : ℕ) (row : Connector)
  | connectors (items : List Connector) (total : ℕ)
  | test (connectorId name status : String) (capabilities : Option ConnectorCapabilities)
  | noContent
  | detail (statusCode : ℕ) (text : String)

namespace ConnectorRoutes

variable (P : Python) (E : Encryption)

def globalExceptionHandler : ConnectorReply := .detail 500 "An internal server error occurred."

def notFoundOr (err : ConnectorFailure) : ConnectorReply :=
  match err with
  | .notFound _ => .detail 404 err.text
  | _ => globalExceptionHandler

def createConnector (g : Generated) (data : CreateConnectorRequest) (d : Platform) :
    ConnectorReply × Platform :=
  let outcome := request d (data.manage P E g)
  (match outcome.1 with
    | .ok conn => .connector 201 conn
    | .error err => if declared err then .detail 400 err.text else globalExceptionHandler, outcome.2)

def listConnectors (d : Platform) : ConnectorReply × Platform :=
  let rows := d.connectors.insertionSort fun x y => x.name ≤ y.name
  (.connectors rows rows.length, d)

def getConnector (k : Uuid) (d : Platform) : ConnectorReply × Platform :=
  let outcome := inSession d (ConnectorManager.getConnector k)
  (match outcome.1 with
    | .ok conn => .connector 200 conn
    | .error err => notFoundOr err, outcome.2)

def updateConnector (g : Generated) (k : Uuid) (data : UpdateConnectorRequest) (d : Platform) :
    ConnectorReply × Platform :=
  let outcome := request d (ConnectorManager.updateConnector E g k data.name data.configuration data.secretPayload)
  (match outcome.1 with
    | .ok (some updated) => .connector 200 updated
    -- `None` is committed, and is no `ConnectorResponse`.
    | .ok none => globalExceptionHandler
    | .error err => notFoundOr err, outcome.2)

def deleteConnector (k : Uuid) (d : Platform) : ConnectorReply × Platform :=
  let outcome := request d (ConnectorManager.deleteConnector k)
  (match outcome.1 with
    | .ok _ => .noContent
    | .error err => notFoundOr err, outcome.2)

def testConnector (e : Env) (k : Uuid) (d : Platform) : ConnectorReply × Platform :=
  match ConnectorManager.testConnector P E e k (.open d) with
  | (.ok res, s) => (.test res.connectorId res.name res.status (some res.capabilities), s.view)
  | (.error (.connection _ _), s) =>
    let name := ((connectorTable.find k s.view).map Connector.name).getD "Unknown"
    (.test (toString k) name "ERROR" none, s.view)
  | (.error err, s) => (notFoundOr err, s.committed)

end ConnectorRoutes

inductive ConnectorRequest
  | createConnector (g : Generated) (data : CreateConnectorRequest)
  | listConnectors
  | getConnector (k : Uuid)
  | updateConnector (g : Generated) (k : Uuid) (data : UpdateConnectorRequest)
  | deleteConnector (k : Uuid)
  | testConnector (e : Env) (k : Uuid)

def ConnectorRequest.serve (P : Python) (E : Encryption) : ConnectorRequest → Platform → ConnectorReply × Platform
  | .createConnector g data => ConnectorRoutes.createConnector P E g data
  | .listConnectors => ConnectorRoutes.listConnectors
  | .getConnector k => ConnectorRoutes.getConnector k
  | .updateConnector g k data => ConnectorRoutes.updateConnector E g k data
  | .deleteConnector k => ConnectorRoutes.deleteConnector k
  | .testConnector e k => ConnectorRoutes.testConnector P E e k

def serveConnectors (P : Python) (F : Fernet) : List (String × ConnectorRequest) → Platform →
    List ConnectorReply × Platform
  | [], d => ([], d)
  | (key, r) :: l, d =>
    let o := r.serve P ⟨F, key⟩ d
    let rest := serveConnectors P F l o.2
    (o.1 :: rest.1, rest.2)

variable {P : Python} {E : Encryption} {F : Fernet} {d d' : Platform} {g : Generated} {k : Uuid} {e : Env}

def ConnectorRequest.call (E : Encryption) : ConnectorRequest → Option ConnectorCall
  | .createConnector g data => some (.createConnector E g data.name data.connectorType data.category
      data.configuration data.secretPayload)
  | .updateConnector g k data =>
    some (.updateConnector E g k data.name data.configuration data.secretPayload)
  | .deleteConnector k => some (.deleteConnector k)
  | .testConnector e k => some (.testConnector E e k)
  | _ => none

lemma getConnector_keeps {I : Session Platform → Prop} : Keeps I (ConnectorManager.getConnector k) := by
  refine .bind (connectorTable.getById_keeps k) fun o => ?_
  cases o with
  | none => exact .throw _
  | some x => exact .pure x

lemma serve_perform (r : ConnectorRequest) (d : Platform) :
    (r.serve P E d).2 = (r.call E).elim d fun c => c.perform P d := by
  cases r with
  | createConnector g data =>
    change (ConnectorRoutes.createConnector P E g data d).2 = (request d (data.manage P E g)).2
    rw [ConnectorRoutes.createConnector]
  | listConnectors => rfl
  | getConnector k =>
    have hk : Keeps (fun s => s.committed = d) (ConnectorManager.getConnector k) := getConnector_keeps
    exact (inSession_committed d _).trans (hk (.open d) rfl)
  | updateConnector g k data =>
    change (ConnectorRoutes.updateConnector E g k data d).2 = (request d (ConnectorManager.updateConnector E g k
      data.name data.configuration data.secretPayload)).2
    rw [ConnectorRoutes.updateConnector]
  | deleteConnector k =>
    change (ConnectorRoutes.deleteConnector k d).2 = (request d (ConnectorManager.deleteConnector k)).2
    rw [ConnectorRoutes.deleteConnector]
  | testConnector e k =>
    change (ConnectorRoutes.testConnector P E e k d).2 = tested d (ConnectorManager.testConnector P E e k)
    rw [ConnectorRoutes.testConnector, tested]
    obtain ⟨r, s⟩ := ConnectorManager.testConnector P E e k (.open d)
    cases r with
    | ok res => rfl
    | error err => cases err <;> rfl

lemma serveConnectors_reaches (l : List (String × ConnectorRequest)) (d : Platform) :
    ∃ calls, exec (connectorStep P) d calls = some (serveConnectors P F l d).2 := by
  induction l generalizing d with
  | nil => exact ⟨[], rfl⟩
  | cons x l ih =>
    obtain ⟨key, r⟩ := x
    obtain ⟨calls, hc⟩ := ih (r.serve P ⟨F, key⟩ d).2
    have hs := serve_perform (P := P) (E := ⟨F, key⟩) r d
    cases hr : r.call ⟨F, key⟩ with
    | none =>
      rw [hr, Option.elim_none] at hs
      rw [hs] at hc
      refine ⟨calls, ?_⟩
      rw [serveConnectors, hs]
      exact hc
    | some c =>
      rw [hr, Option.elim_some] at hs
      refine ⟨c :: calls, ?_⟩
      rw [hs] at hc
      rw [serveConnectors, hs]
      exact hc

lemma listConnectors_eq (d : Platform) : ∃ rows, Answers Connector.name d.connectors rows ∧
    (ConnectorRoutes.listConnectors d).1 = .connectors rows rows.length :=
  ⟨_, answers_insertionSort Connector.name d.connectors, rfl⟩

lemma getConnector_iff {x : Connector} :
    (ConnectorRoutes.getConnector k d).1 = .connector 200 x ↔ connectorTable.find k d = some x := by
  have hd : (ConnectorRoutes.getConnector k d).1 =
      match (inSession d (ConnectorManager.getConnector k)).1 with
      | .ok conn => .connector 200 conn
      | .error err => ConnectorRoutes.notFoundOr err := rfl
  rw [hd, inSession_result]
  cases hf : connectorTable.find k d with
  | none =>
    rw [getConnector_missing hf]
    constructor
    · intro h
      cases h
    · intro h
      cases h
  | some y =>
    rw [getConnector_found hf]
    constructor
    · intro h
      cases h
      rfl
    · intro h
      cases h
      rfl

theorem listing_exact (P : Python) (F : Fernet) (store : Database) (l : List (String × ConnectorRequest)) :
    ∃ rows, (ConnectorRoutes.listConnectors (serveConnectors P F l (withoutConnectors store)).2).1 =
        .connectors rows rows.length ∧
      rows.Pairwise (fun x y => x.name < y.name) ∧
      ∀ k x, (ConnectorRoutes.getConnector k (serveConnectors P F l (withoutConnectors store)).2).1 =
        .connector 200 x ↔ x ∈ rows ∧ x.id = k := by
  obtain ⟨calls, hcalls⟩ := serveConnectors_reaches (P := P) (F := F) l (withoutConnectors store)
  have hcoherent := coherent_reached hcalls
  obtain ⟨rows, ⟨hperm, hle⟩, hreply⟩ := listConnectors_eq (serveConnectors P F l (withoutConnectors store)).2
  refine ⟨rows, hreply, ?_, fun k x => ?_⟩
  · have hne : rows.Pairwise fun x y => x.name ≠ y.name :=
      List.pairwise_map.mp ((hperm.map Connector.name).nodup_iff.mpr hcoherent.names)
    exact (hle.and hne).imp fun h => lt_of_le_of_ne h.1 h.2
  · rw [getConnector_iff, hperm.mem_iff]
    constructor
    · intro h
      exact ⟨lookup_mem h, lookup_key h⟩
    · rintro ⟨hx, rfl⟩
      exact lookup_of_mem hcoherent.connectorIds hx

def ConnectorReply.statusCode : ConnectorReply → ℕ
  | .connector statusCode _ => statusCode
  | .connectors _ _ => 200
  | .test _ _ _ _ => 200
  | .noContent => 204
  | .detail statusCode _ => statusCode

def AllOrNothing (d : Platform) (o : ConnectorReply × Platform) : Prop := o.1.statusCode < 400 ∨ o.2 = d

lemma request_raised {α : Type} {p : Tx Platform ConnectorFailure α} (h : Raised d (p (.open d))) :
    ∃ err, request d p = (.error err, d) := by
  obtain ⟨err, s, he, hs⟩ := h
  exact ⟨err, request_raises he hs⟩

lemma createConnector_allOrNothing (data : CreateConnectorRequest) :
    AllOrNothing d (ConnectorRoutes.createConnector P E g data d) := by
  have ho : (∃ err, request d (data.manage P E g) = (.error err, d)) ∨
      ∃ row t, request d (data.manage P E g) = (.ok row, t) := by
    rcases manage_cases (P := P) (E := E) (g := g) (d := d) (x := data) with h | ⟨-, row, t, hok, -⟩
    · exact Or.inl (request_raised h)
    · exact Or.inr ⟨row, t, request_returns hok⟩
  unfold ConnectorRoutes.createConnector
  generalize request d (data.manage P E g) = o at ho ⊢
  rcases ho with ⟨err, rfl⟩ | ⟨row, t, rfl⟩
  · exact Or.inr rfl
  · exact Or.inl (by decide : 201 < 400)

lemma updateConnector_allOrNothing (hn : (d.connectors.map Connector.name).Nodup) (data : UpdateConnectorRequest) :
    AllOrNothing d (ConnectorRoutes.updateConnector E g k data d) := by
  have ho : (∃ err, request d (ConnectorManager.updateConnector E g k data.name data.configuration
      data.secretPayload) = (.error err, d)) ∨ ∃ row t, request d (ConnectorManager.updateConnector E g k
        data.name data.configuration data.secretPayload) = (.ok (some row), t) := by
    rcases (updateConnector_outcome hn : Raised d (ConnectorManager.updateConnector E g k data.name
      data.configuration data.secretPayload (.open d)) ∨ _) with h | ⟨x, -, o, -, -, hok⟩
    · exact Or.inl (request_raised h)
    · exact Or.inr ⟨_, _, request_returns hok⟩
  unfold ConnectorRoutes.updateConnector
  generalize request d _ = o at ho ⊢
  rcases ho with ⟨err, rfl⟩ | ⟨row, t, rfl⟩
  · exact Or.inr rfl
  · exact Or.inl (by decide : 200 < 400)

lemma deleteConnector_allOrNothing : AllOrNothing d (ConnectorRoutes.deleteConnector k d) := by
  have ho : (∃ err, request d (ConnectorManager.deleteConnector k) = (.error err, d)) ∨
      ∃ b t, request d (ConnectorManager.deleteConnector k) = (.ok b, t) := by
    rcases (deleteConnector_outcome (d := d) (k := k)) with ⟨h, -⟩ | ⟨x, -, hok⟩
    · exact Or.inl (request_raised h)
    · exact Or.inr ⟨_, _, request_returns hok⟩
  unfold ConnectorRoutes.deleteConnector
  generalize request d _ = o at ho ⊢
  rcases ho with ⟨err, rfl⟩ | ⟨b, t, rfl⟩
  · exact Or.inr rfl
  · exact Or.inl (by decide : 204 < 400)

lemma testConnector_allOrNothing : AllOrNothing d (ConnectorRoutes.testConnector P E e k d) := by
  have ht : Tests d (ConnectorManager.testConnector P E e k (.open d)).2 :=
    testConnector_tests e k (.open d) ⟨rfl, rfl, rfl⟩
  unfold ConnectorRoutes.testConnector
  generalize ConnectorManager.testConnector P E e k (.open d) = o at ht ⊢
  obtain ⟨r, s⟩ := o
  cases r with
  | ok res => exact Or.inl (by decide : 200 < 400)
  | error err =>
    cases err with
    | connection connectorId details => exact Or.inl (by decide : 200 < 400)
    | _ => exact Or.inr ht.1

lemma serve_allOrNothing (hn : (d.connectors.map Connector.name).Nodup) (r : ConnectorRequest) :
    AllOrNothing d (r.serve P E d) := by
  have hsame := serve_perform (P := P) (E := E) r d
  unfold ConnectorRequest.serve
  cases r with
  | createConnector g data => exact createConnector_allOrNothing data
  | listConnectors => exact Or.inr rfl
  | getConnector k => exact Or.inr hsame
  | updateConnector g k data => exact updateConnector_allOrNothing hn data
  | deleteConnector k => exact deleteConnector_allOrNothing
  | testConnector e k => exact testConnector_allOrNothing

end NotebookExecution.Connectors
