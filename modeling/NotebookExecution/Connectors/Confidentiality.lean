import NotebookExecution.Library.Relational
import NotebookExecution.Connectors.Routes
import NotebookExecution.Connectors.Secrecy

/-! What the answers of the routes of connectors tell of the secrets that were handed over. -/

namespace NotebookExecution.Connectors

open Library.Json Library.Transaction Library.Table Library.Relational Store

variable {P : Python} {E : Encryption} {F : Fernet} {d d' : Platform} {g : Generated} {k : Uuid} {e : Env}

structure SameCredential (F : Fernet) (x y : Credential) : Prop where
  row : { x with encryptedPayload := y.encryptedPayload } = y
  payload : x.encryptedPayload = y.encryptedPayload ∨
    ∀ key, Alike ⟨F, key⟩ x.encryptedPayload y.encryptedPayload

structure Masked (F : Fernet) (d d' : Platform) : Prop where
  store : d.store = d'.store
  connectors : d.connectors = d'.connectors
  credentials : List.Forall₂ (SameCredential F) d.credentials d'.credentials
  statusUpdates : d.statusUpdates = d'.statusUpdates
  published : d.published = d'.published

lemma SameCredential.refl (x : Credential) : SameCredential F x x := ⟨rfl, Or.inl rfl⟩

lemma Masked.refl (d : Platform) : Masked F d d where
  store := rfl
  connectors := rfl
  credentials := List.forall₂_same.mpr fun x _ => .refl x
  statusUpdates := rfl
  published := rfl

lemma connector_mirrors : Mirrors connectorTable connectorClash Eq (Masked F) where
  key h := h ▸ rfl
  rows hd := List.forall₂_eq_eq_eq ▸ hd.connectors
  store hd hl := ⟨hd.store, List.forall₂_eq_eq_eq ▸ hl, hd.credentials, hd.statusUpdates, hd.published⟩
  clash hd hr := by
    rw [connectorClash, connectorClash, hd.connectors, hr]

lemma SameCredential.id {x y : Credential} (h : SameCredential F x y) : x.id = y.id := by
  rw [← h.row]

lemma SameCredential.credentialId {x y : Credential} (h : SameCredential F x y) :
    x.credentialId = y.credentialId := by
  rw [← h.row]

lemma credential_mirrors : Mirrors credentialTable credentialClash (SameCredential F) (Masked F) where
  key h := h.id
  rows hd := hd.credentials
  store hd hl := ⟨hd.store, hd.connectors, hl, hd.statusUpdates, hd.published⟩
  clash hd hr := by
    refine any_mirrors (fun a b hab => ?_) hd.credentials
    rw [hab.id, hab.credentialId, hr.id, hr.credentialId]

section Manager

variable {secretPayload secretPayload' : Option JsonFields} {v w : JsonValue}

def SameGiven (secretPayload secretPayload' : Option JsonFields) : Prop :=
  (givenPayload secretPayload).isSome = (givenPayload secretPayload').isSome

lemma encryptPayload_alike (hF : F.Lawful) (key : String) (nonce : ℕ) (p p' : JsonFields) :
    Results (fun s s' => ∀ other, Alike ⟨F, other⟩ s s')
      ((⟨F, key⟩ : Encryption).encryptPayload nonce p) ((⟨F, key⟩ : Encryption).encryptPayload nonce p') := by
  cases h : (⟨F, key⟩ : Encryption).getFernet with
  | error err =>
    rw [Encryption.encryptPayload, Encryption.encryptPayload, h]
    exact .raised err
  | ok o =>
    obtain ⟨s, hs⟩ : ∃ s, (⟨F, key⟩ : Encryption).encryptPayload nonce p = .ok s :=
      encryptPayload_usable.mpr ⟨o, h⟩
    obtain ⟨s', hs'⟩ : ∃ s, (⟨F, key⟩ : Encryption).encryptPayload nonce p' = .ok s :=
      encryptPayload_usable.mpr ⟨o, h⟩
    rw [hs, hs']
    refine .returned fun other => ?_
    have hother : (⟨F, other⟩ : Encryption).fernet = (⟨F, key⟩ : Encryption).fernet := rfl
    exact alike_of_encrypt hF hother hs hs'

lemma createCredential_relates (hF : F.Lawful) (key : String) (g : CredentialManager.Generated)
    (credentialType : String) (p p' : JsonFields) (credentialId : Option String) :
    Relates (Masked F) (SameCredential F)
      (CredentialManager.createCredential ⟨F, key⟩ g credentialType p credentialId)
      (CredentialManager.createCredential ⟨F, key⟩ g credentialType p' credentialId) := by
  refine .bind (.ofExcept (encryptPayload_alike hF key g.nonce p p')) fun s s' hs => ?_
  exact credential_mirrors.insert _ ⟨rfl, Or.inr hs⟩

lemma storePayload_relates (hF : F.Lawful) (key : String) (credentialType : String)
    (h : SameGiven secretPayload secretPayload') (current : Option String) :
    Relates (Masked F) Eq (ConnectorManager.storePayload ⟨F, key⟩ g credentialType secretPayload current)
      (ConnectorManager.storePayload ⟨F, key⟩ g credentialType secretPayload' current) := by
  rw [SameGiven] at h
  rw [ConnectorManager.storePayload, ConnectorManager.storePayload]
  cases hs : givenPayload secretPayload with
  | none =>
    rw [hs, Option.isSome_none, eq_comm, Option.isSome_eq_false_iff, Option.isNone_iff_eq_none] at h
    rw [h]
    exact .pure rfl
  | some p =>
    rw [hs, Option.isSome_some, eq_comm, Option.isSome_iff_exists] at h
    obtain ⟨p', hp'⟩ := h
    rw [hp']
    refine .bind (createCredential_relates hF key g.credential credentialType p p' current) fun c c' hc => ?_
    exact .pure (congrArg some hc.credentialId)

lemma SameOutcome.results {r r' : Except ConnectorFailure ConnectorInstance} (h : SameOutcome r r') :
    Results SameTest r r' := by
  rcases h with ⟨err, rfl, rfl⟩ | ⟨i, j, rfl, rfl, hij⟩
  · exact .raised err
  · exact .returned hij

lemma createConnector_relates (hF : F.Lawful) (key : String) (data : CreateConnectorRequest)
    (h : SameGiven data.secretPayload secretPayload') :
    Relates (Masked F) Eq (data.manage P ⟨F, key⟩ g)
      ({ data with secretPayload := secretPayload' }.manage P ⟨F, key⟩ g) := by
  refine .bind (.ofExcept (.refl _)) fun cls _ hcls => ?_
  obtain rfl := hcls
  obtain ⟨a, ha⟩ := orEmpty_object data.secretPayload
  obtain ⟨b, hb⟩ := orEmpty_object secretPayload'
  have hc := construct_same (P := P) cls (toString g.dummyId) data.name data.configuration a b
  rw [← ha, ← hb] at hc
  refine .bind (.ofExcept hc.results) fun i j hij => ?_
  rw [hij.validateConfig]
  refine .bind (.ofExcept (.refl _)) fun _ _ _ => ?_
  refine .bind (storePayload_relates hF key data.connectorType h none) fun c _ hc => ?_
  obtain rfl := hc
  exact connector_mirrors.insert _ rfl

lemma getConnector_relates (k : Uuid) :
    Relates (Masked F) Eq (ConnectorManager.getConnector k) (ConnectorManager.getConnector k) := by
  refine .bind (connector_mirrors.getById k) fun o o' ho => ?_
  cases ho with
  | none => exact .throw _
  | some h => exact .pure h

lemma update_relates (now : Instant) (k : Uuid) (u : ConnectorRepository.ConnectorUpdate) :
    Relates (Masked F) Eq (ConnectorRepository.update now k u) (ConnectorRepository.update now k u) := by
  have hu : Relates (Masked F) (Option.Rel Eq) (ConnectorRepository.update now k u)
      (ConnectorRepository.update now k u) :=
    connector_mirrors.update ConnectorFailure.integrityError k (fun hr => ⟨congrArg _ hr, by rw [hr]⟩)
      fun hr => congrArg _ hr
  refine hu.mono fun o o' ho => ?_
  cases ho with
  | none => rfl
  | some h => exact congrArg some h

lemma updateConnector_relates (hF : F.Lawful) (key : String) (k : Uuid) (name : Option String)
    (configuration : Option JsonFields) (h : SameGiven secretPayload secretPayload') :
    Relates (Masked F) Eq
      (ConnectorManager.updateConnector ⟨F, key⟩ g k name configuration secretPayload)
      (ConnectorManager.updateConnector ⟨F, key⟩ g k name configuration secretPayload') := by
  refine .bind (getConnector_relates k) fun conn _ hc => ?_
  obtain rfl := hc
  refine .bind (storePayload_relates hF key conn.connectorType h conn.credentialId) fun c _ hc => ?_
  obtain rfl := hc
  exact update_relates _ k _

lemma getByCredentialId_relates (c : String) :
    Relates (Masked F) (Option.Rel (SameCredential F)) (CredentialRepository.getByCredentialId c)
      (CredentialRepository.getByCredentialId c) := by
  refine .bind .read fun d d' hd => .pure (find?_mirrors (fun x y hxy => ?_) hd.credentials)
  rw [hxy.credentialId]

lemma deleteCredential_relates (c : String) :
    Relates (Masked F) Eq (CredentialRepository.delete c) (CredentialRepository.delete c) := by
  refine .bind (getByCredentialId_relates c) fun o o' ho => ?_
  cases ho with
  | none => exact .pure rfl
  | @some x y h =>
    dsimp only
    rw [h.id]
    exact credential_mirrors.delete id y.id

lemma deleteConnector_relates (k : Uuid) :
    Relates (Masked F) Eq (ConnectorManager.deleteConnector k) (ConnectorManager.deleteConnector k) := by
  refine .bind (getConnector_relates k) fun conn _ hc => ?_
  obtain rfl := hc
  cases conn.credentialId with
  | none => exact connector_mirrors.delete id k
  | some c => exact .bind (deleteCredential_relates c) fun _ _ _ => connector_mirrors.delete id k

def SameCreds (v w : JsonValue) : Prop := v = w ∨ ∃ a b, v = .object a ∧ w = .object b

lemma decryptPayload_same {x y : Credential} (h : SameCredential F x y) (key : String) :
    Results SameCreds ((⟨F, key⟩ : Encryption).decryptPayload x.encryptedPayload)
      ((⟨F, key⟩ : Encryption).decryptPayload y.encryptedPayload) := by
  rcases h.payload with he | ha
  · rw [he]
    exact (Results.refl _).mono fun _ _ hv => Or.inl hv
  · rcases ha key with ⟨err, hx, hy⟩ | ⟨a, b, hx, hy⟩
    · rw [hx, hy]
      exact .raised err
    · rw [hx, hy]
      exact .returned (Or.inr ⟨a, b, rfl, rfl⟩)

lemma resolveCredential_relates (key c : String) :
    Relates (Masked F) (Option.Rel SameCreds) (CredentialManager.resolveCredential ⟨F, key⟩ c)
      (CredentialManager.resolveCredential ⟨F, key⟩ c) := by
  refine .bind (getByCredentialId_relates c) fun o o' ho => ?_
  cases ho with
  | none => exact .pure .none
  | some h =>
    dsimp only
    rw [map_eq_pure_bind, map_eq_pure_bind]
    exact .bind (.ofExcept (decryptPayload_same h key)) fun v w hv => .pure (.some hv)

lemma orEmpty_same {o o' : Option JsonValue} (h : Option.Rel SameCreds o o') : SameCreds (orEmpty o) (orEmpty o') := by
  cases h with
  | none => exact Or.inl rfl
  | some h =>
    rcases h with rfl | ⟨a, b, rfl, rfl⟩
    · exact Or.inl rfl
    · exact Or.inr ⟨a, b, orEmpty_some_object a, orEmpty_some_object b⟩

lemma resolvedCreds_relates (key : String) (conn : Connector) :
    Relates (Masked F) SameCreds (ConnectorManager.resolvedCreds ⟨F, key⟩ conn)
      (ConnectorManager.resolvedCreds ⟨F, key⟩ conn) := by
  rw [ConnectorManager.resolvedCreds]
  cases conn.credentialId with
  | none => exact .pure (Or.inl rfl)
  | some c => exact .bind (resolveCredential_relates key c) fun o o' ho => .pure (orEmpty_same ho)

lemma updateStatus_relates (now : Instant) (k : Uuid) (status : ConnectorStatus) :
    Relates (Masked F) Eq (ConnectorRepository.updateStatus now k status)
      (ConnectorRepository.updateStatus now k status) := by
  refine .bind .read fun d d' hd => .bind (.write ?_) fun _ _ _ => update_relates now k _
  exact ⟨hd.store, hd.connectors, hd.credentials, congrArg (· ++ [(k, status)]) hd.statusUpdates, hd.published⟩

lemma inStore_relates {α : Type} (p : Tx Database ServiceError α) :
    Relates (Masked F) Eq (ConnectorManager.inStore p) (ConnectorManager.inStore p) := by
  intro s t hs
  have hst : (⟨s.committed.store, s.view.store⟩ : Session Database) = ⟨t.committed.store, t.view.store⟩ := by
    rw [hs.committed.store, hs.view.store]
  unfold ConnectorManager.inStore
  rw [hst]
  refine ⟨.refl _, ?_, ?_⟩
  · exact ⟨rfl, hs.committed.connectors, hs.committed.credentials, hs.committed.statusUpdates,
      hs.committed.published⟩
  · exact ⟨rfl, hs.view.connectors, hs.view.credentials, hs.view.statusUpdates, hs.view.published⟩

lemma logEvents_relates (e : Env) (x : Output.RawOutput) :
    Relates (Masked F) Eq (ConnectorManager.logEvents e x) (ConnectorManager.logEvents e x) := by
  refine .bind (.bind .read fun d d' hd => .write ?_) fun _ _ _ => .bind (inStore_relates _) fun _ _ _ => .pure rfl
  exact ⟨hd.store, hd.connectors, hd.credentials, hd.statusUpdates, congrArg (· ++ _) hd.published⟩

lemma attempt_relates (conn : Connector) {v w : JsonValue} (h : SameCreds v w) :
    Relates (Masked F) Eq (ConnectorManager.attempt P e conn v) (ConnectorManager.attempt P e conn w) := by
  have hvw : ConnectorManager.attempt P e conn v = ConnectorManager.attempt P e conn w := by
    rcases h with rfl | ⟨a, b, rfl, rfl⟩
    · rfl
    · exact attempt_same conn a b
  rw [hvw]
  refine .bind (.ofExcept (.refl _)) fun i _ hi => ?_
  obtain rfl := hi
  refine .bind (.ofExcept (.refl _)) fun isOk _ hok => ?_
  obtain rfl := hok
  refine .bind (updateStatus_relates _ _ _) fun _ _ _ => .bind (logEvents_relates _ _) fun _ _ _ => .pure rfl

lemma failed_relates (conn : Connector) (exc : ConnectorFailure) :
    Relates (Masked F) Eq (ConnectorManager.failed e conn exc) (ConnectorManager.failed e conn exc) := by
  refine .ite (.throw _) (.bind (updateStatus_relates _ _ _) fun _ _ _ => ?_)
  exact .bind (logEvents_relates _ _) fun _ _ _ => .throw _

lemma testConnector_relates (key : String) (e : Env) (k : Uuid) :
    Relates (Masked F) Eq (ConnectorManager.testConnector P ⟨F, key⟩ e k)
      (ConnectorManager.testConnector P ⟨F, key⟩ e k) := by
  refine .bind (getConnector_relates k) fun conn _ hc => .bind (updateStatus_relates _ _ _) fun _ _ _ => ?_
  obtain rfl := hc
  refine .bind (resolvedCreds_relates key conn) fun v w hv => ?_
  exact .tryCatch (attempt_relates conn hv) fun exc => failed_relates conn exc

end Manager

inductive SameRequest : ConnectorRequest → ConnectorRequest → Prop
  | same (r : ConnectorRequest) : SameRequest r r
  | createConnector {g : Generated} {data : CreateConnectorRequest} {secretPayload : Option JsonFields}
      (h : SameGiven data.secretPayload secretPayload) :
      SameRequest (.createConnector g data) (.createConnector g { data with secretPayload := secretPayload })
  | updateConnector {g : Generated} {k : Uuid} {data : UpdateConnectorRequest}
      {secretPayload : Option JsonFields} (h : SameGiven data.secretPayload secretPayload) :
      SameRequest (.updateConnector g k data) (.updateConnector g k { data with secretPayload := secretPayload })

def SameAnswer (F : Fernet) (o o' : ConnectorReply × Platform) : Prop := o.1 = o'.1 ∧ Masked F o.2 o'.2

lemma createConnector_answer (hF : F.Lawful) (hd : Masked F d d') (key : String) {data : CreateConnectorRequest}
    {secretPayload : Option JsonFields} (h : SameGiven data.secretPayload secretPayload) :
    SameAnswer F (ConnectorRoutes.createConnector P ⟨F, key⟩ g data d)
      (ConnectorRoutes.createConnector P ⟨F, key⟩ g { data with secretPayload := secretPayload } d') := by
  have hr := (createConnector_relates (P := P) (g := g) hF key data h).request hd
  unfold ConnectorRoutes.createConnector
  generalize request d (data.manage P ⟨F, key⟩ g) = o at hr ⊢
  generalize request d' _ = o' at hr ⊢
  refine ⟨?_, hr.2⟩
  dsimp only
  rw [hr.1.eq]

lemma updateConnector_answer (hF : F.Lawful) (hd : Masked F d d') (key : String) {data : UpdateConnectorRequest}
    {secretPayload : Option JsonFields} (h : SameGiven data.secretPayload secretPayload) :
    SameAnswer F (ConnectorRoutes.updateConnector ⟨F, key⟩ g k data d)
      (ConnectorRoutes.updateConnector ⟨F, key⟩ g k { data with secretPayload := secretPayload } d') := by
  have hr := (updateConnector_relates (g := g) hF key k data.name data.configuration h).request hd
  unfold ConnectorRoutes.updateConnector
  generalize request d _ = o at hr ⊢
  generalize request d' _ = o' at hr ⊢
  refine ⟨?_, hr.2⟩
  dsimp only
  rw [hr.1.eq]

lemma testConnector_answer (hd : Masked F d d') (key : String) :
    SameAnswer F (ConnectorRoutes.testConnector P ⟨F, key⟩ e k d)
      (ConnectorRoutes.testConnector P ⟨F, key⟩ e k d') := by
  obtain ⟨hr, hs⟩ := testConnector_relates (F := F) (P := P) key e k (.open d) (.open d') ⟨hd, hd⟩
  unfold ConnectorRoutes.testConnector
  generalize ConnectorManager.testConnector P ⟨F, key⟩ e k (.open d) = o at hr hs
  generalize ConnectorManager.testConnector P ⟨F, key⟩ e k (.open d') = o' at hr hs
  obtain ⟨r, s⟩ := o
  obtain ⟨r', s'⟩ := o'
  obtain rfl : r = r' := hr.eq
  cases r with
  | ok res => exact ⟨rfl, hs.view⟩
  | error err =>
    cases err with
    | connection connectorId details =>
      have hf : connectorTable.find k s.view = connectorTable.find k s'.view :=
        congrArg (lookup Connector.id k) hs.view.connectors
      refine ⟨?_, hs.view⟩
      dsimp only
      rw [hf]
    | _ => exact ⟨rfl, hs.committed⟩

lemma getConnector_answer (hd : Masked F d d') :
    SameAnswer F (ConnectorRoutes.getConnector k d) (ConnectorRoutes.getConnector k d') := by
  have hr := (getConnector_relates k).inSession hd
  unfold ConnectorRoutes.getConnector
  generalize inSession d _ = o at hr ⊢
  generalize inSession d' _ = o' at hr ⊢
  refine ⟨?_, hr.2⟩
  dsimp only
  rw [hr.1.eq]

lemma deleteConnector_answer (hd : Masked F d d') :
    SameAnswer F (ConnectorRoutes.deleteConnector k d) (ConnectorRoutes.deleteConnector k d') := by
  have hr := (deleteConnector_relates k).request hd
  unfold ConnectorRoutes.deleteConnector
  generalize request d _ = o at hr ⊢
  generalize request d' _ = o' at hr ⊢
  refine ⟨?_, hr.2⟩
  dsimp only
  rw [hr.1.eq]

lemma listConnectors_answer (hd : Masked F d d') :
    SameAnswer F (ConnectorRoutes.listConnectors d) (ConnectorRoutes.listConnectors d') := by
  refine ⟨?_, hd⟩
  rw [ConnectorRoutes.listConnectors, ConnectorRoutes.listConnectors, hd.connectors]

lemma serve_answer {r r' : ConnectorRequest} (hF : F.Lawful) (hd : Masked F d d') (key : String)
    (h : SameRequest r r') : SameAnswer F (r.serve P ⟨F, key⟩ d) (r'.serve P ⟨F, key⟩ d') := by
  cases h with
  | createConnector h =>
    unfold ConnectorRequest.serve
    exact createConnector_answer hF hd key h
  | updateConnector h =>
    unfold ConnectorRequest.serve
    exact updateConnector_answer hF hd key h
  | same =>
    unfold ConnectorRequest.serve
    cases r with
    | createConnector g data => exact createConnector_answer hF hd key rfl
    | listConnectors => exact listConnectors_answer hd
    | getConnector k => exact getConnector_answer hd
    | updateConnector g k data => exact updateConnector_answer hF hd key rfl
    | deleteConnector k => exact deleteConnector_answer hd
    | testConnector e k => exact testConnector_answer hd key

end NotebookExecution.Connectors
