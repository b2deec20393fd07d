import NotebookExecution.Connectors.Manager

/-! Calls of the connector manager, each in a session of its own, and what one call can do. -/

namespace NotebookExecution.Connectors

open Library.Json Library.Text Library.Transaction Library.Table Store ConnectorManager ConnectorRepository

inductive ConnectorCall
  | createConnector (E : Encryption) (g : Generated) (name connectorType category : String)
      (configuration : JsonFields) (secretPayload : Option JsonFields)
  | updateConnector (E : Encryption) (g : Generated) (k : Uuid) (name : Option String)
      (configuration secretPayload : Option JsonFields)
  | deleteConnector (k : Uuid)
  | testConnector (E : Encryption) (e : Env) (k : Uuid)

/-- A test that ends in a connection error is committed too, for the status it has written. -/
def tested {α : Type} (d : Platform) (p : Tx Platform ConnectorFailure α) : Platform :=
  match p (.open d) with
  | (.ok _, s) | (.error (.connection _ _), s) => s.view
  | (.error _, s) => s.committed

def ConnectorCall.perform (P : Python) (d : Platform) : ConnectorCall → Platform
  | .createConnector E g name connectorType category configuration secretPayload =>
    (request d (ConnectorManager.createConnector P E g name connectorType category configuration
      secretPayload)).2
  | .updateConnector E g k name configuration secretPayload =>
    (request d (ConnectorManager.updateConnector E g k name configuration secretPayload)).2
  | .deleteConnector k => (request d (ConnectorManager.deleteConnector k)).2
  | .testConnector E e k => tested d (ConnectorManager.testConnector P E e k)

def connectorStep (P : Python) (d : Platform) (c : ConnectorCall) : Option Platform := some (c.perform P d)

def withoutConnectors (store : Database) : Platform := ⟨store, [], [], [], []⟩

structure Coherent (d : Platform) : Prop where
  connectorIds : (d.connectors.map Connector.id).Nodup
  names : (d.connectors.map Connector.name).Nodup
  credentialKeys : (d.credentials.map Credential.id).Nodup
  credentialIds : (d.credentials.map Credential.credentialId).Nodup
  matched : (d.connectors.filterMap Connector.credentialId).Perm
    (d.credentials.map Credential.credentialId)

variable {P : Python} {E : Encryption} {g : Generated} {d : Platform} {k : Uuid} {e : Env}
  {name connectorType category : String} {configuration payload : JsonFields}
  {secretPayload : Option JsonFields}

def withCredential (o : Option Credential) (d : Platform) : Platform :=
  o.elim d fun c => credentialTable.append c d

lemma withCredential_connectors (o : Option Credential) :
    (withCredential o d).connectors = d.connectors := by
  cases o <;> rfl

lemma withCredential_credentials (o : Option Credential) :
    (withCredential o d).credentials = d.credentials ++ o.toList := by
  cases o with
  | none => exact (List.append_nil _).symm
  | some c => rfl

structure Stores (E : Encryption) (g : CredentialManager.Generated) (payload : JsonFields) (d : Platform)
    (c : Credential) : Prop where
  id : c.id = g.row.uuid
  free : credentialTable.occupied credentialClash c d = false
  payload : E.encryptPayload g.nonce payload = .ok c.encryptedPayload

def Provides (E : Encryption) (g : CredentialManager.Generated) (secretPayload : Option JsonFields)
    (current : Option String) (d : Platform) : Option Credential → Prop
  | none => givenPayload secretPayload = none
  | some c => ∃ payload, givenPayload secretPayload = some payload ∧ Stores E g payload d c ∧
    c.credentialId = current.getD (CredentialManager.newCredentialId g)

def idOf (o : Option Credential) : Option String := o.map Credential.credentialId

lemma createCredential_cases (credentialType : String) (payload : JsonFields) (current : Option String)
    (s : Session Platform) :
    (∃ err, CredentialManager.createCredential E g.credential credentialType payload current s =
        (.error err, s)) ∨
      ∃ c, Stores E g.credential payload s.view c ∧
        c.credentialId = current.getD (CredentialManager.newCredentialId g.credential) ∧
        CredentialManager.createCredential E g.credential credentialType payload current s =
          (.ok c, { s with view := credentialTable.append c s.view }) := by
  rw [CredentialManager.createCredential]
  cases hp : E.encryptPayload g.credential.nonce payload with
  | error err => exact Or.inl ⟨err, bind_error rfl⟩
  | ok stored =>
    have hs : (ofExcept (.ok stored) : Tx Platform ConnectorFailure JsonFields) s = (.ok stored, s) := rfl
    rw [bind_ok hs]
    cases ho : credentialTable.occupied credentialClash ⟨g.credential.row.uuid,
        current.getD (CredentialManager.newCredentialId g.credential), credentialType, stored,
        g.credential.row.now, g.credential.row.now⟩ s.view with
    | true => exact Or.inl ⟨_, credentialTable.insert_refused ho⟩
    | false => exact Or.inr ⟨_, ⟨rfl, ho, hp⟩, rfl, credentialTable.insert_accepted ho⟩

lemma storePayload_cases (credentialType : String) (secretPayload : Option JsonFields)
    (current : Option String) (s : Session Platform) :
    (∃ err, storePayload E g credentialType secretPayload current s = (.error err, s)) ∨
      ∃ o, Provides E g.credential secretPayload current s.view o ∧
        storePayload E g credentialType secretPayload current s =
          (.ok ((idOf o).or current), { s with view := withCredential o s.view }) := by
  rw [storePayload]
  cases hg : givenPayload secretPayload with
  | none => exact Or.inr ⟨none, hg, rfl⟩
  | some payload =>
    rcases createCredential_cases (E := E) (g := g) credentialType payload current s with
      ⟨err, he⟩ | ⟨c, hc, hid, he⟩
    · exact Or.inl ⟨err, bind_error he⟩
    · exact Or.inr ⟨some c, ⟨payload, hg, hc, hid⟩, bind_ok he⟩

/-! ## What one call can do -/

def newRow (g : Generated) (name connectorType category : String) (configuration : JsonFields)
    (credentialId : Option String) : Connector :=
  ⟨g.connector.uuid, name, lower connectorType, upper category, configuration, credentialId, .created,
    g.connector.now, g.connector.now⟩

def Constructs (P : Python) (x : BaseConnector) (connectorType : String) : Prop :=
  ∃ cls i, ConnectorRegistry.get connectorType = .ok cls ∧ cls.construct P x = .ok i ∧
    i.validateConfig = .ok ()

lemma ofExcept_cases {α : Type} (x : Except ConnectorFailure α) (s : Session Platform) :
    (∃ err, (ofExcept x : Tx Platform ConnectorFailure α) s = (.error err, s)) ∨
      ∃ a, x = .ok a ∧ (ofExcept x : Tx Platform ConnectorFailure α) s = (.ok a, s) := by
  cases x with
  | error err => exact Or.inl ⟨err, rfl⟩
  | ok a => exact Or.inr ⟨a, rfl, rfl⟩

def Raised {α : Type} (d : Platform) (outcome : Except ConnectorFailure α × Session Platform) : Prop :=
  ∃ err s, outcome = (.error err, s) ∧ s.committed = d

lemma Raised.perform {α : Type} {p : Tx Platform ConnectorFailure α} (h : Raised d (p (.open d))) :
    (request d p).2 = d := by
  obtain ⟨err, s, hp, hs⟩ := h
  rw [request_raises hp hs]

lemma createConnector_outcome :
    Raised d (ConnectorManager.createConnector P E g name connectorType category configuration
        secretPayload (.open d)) ∨
      Constructs P ⟨toString g.dummyId, name, configuration, orEmpty (secretPayload.map .object)⟩
          connectorType ∧
        ∃ o, Provides E g.credential secretPayload none d o ∧
          connectorTable.occupied connectorClash
            (newRow g name connectorType category configuration (idOf o)) (withCredential o d) = false ∧
          ConnectorManager.createConnector P E g name connectorType category configuration secretPayload
              (.open d) =
            (.ok (newRow g name connectorType category configuration (idOf o)),
              ⟨d, connectorTable.append (newRow g name connectorType category configuration (idOf o))
                (withCredential o d)⟩) := by
  rw [ConnectorManager.createConnector]
  rcases ofExcept_cases (ConnectorRegistry.get connectorType) (.open d) with ⟨err, he⟩ | ⟨cls, hc, he⟩
  · rw [bind_error he]
    exact Or.inl ⟨err, _, rfl, rfl⟩
  rw [bind_ok he]
  rcases ofExcept_cases (cls.construct P ⟨toString g.dummyId, name, configuration,
    orEmpty (secretPayload.map .object)⟩) (.open d) with ⟨err, he⟩ | ⟨i, hi, he⟩
  · rw [bind_error he]
    exact Or.inl ⟨err, _, rfl, rfl⟩
  rw [bind_ok he]
  rcases ofExcept_cases i.validateConfig (.open d) with ⟨err, he⟩ | ⟨_, hv, he⟩
  · rw [bind_error he]
    exact Or.inl ⟨err, _, rfl, rfl⟩
  rw [bind_ok he]
  rcases storePayload_cases (E := E) (g := g) connectorType secretPayload none (.open d) with
    ⟨err, he⟩ | ⟨o, ho, he⟩
  · rw [bind_error he]
    exact Or.inl ⟨err, _, rfl, rfl⟩
  rw [bind_ok he, Option.or_none]
  cases hf : connectorTable.occupied connectorClash
      (newRow g name connectorType category configuration (idOf o)) (withCredential o d) with
  | true => exact Or.inl ⟨_, _, connectorTable.insert_refused hf, rfl⟩
  | false =>
    exact Or.inr ⟨⟨cls, i, hc, hi, hv⟩, o, ho, hf, connectorTable.insert_accepted hf⟩

lemma getConnector_found {x : Connector} (h : connectorTable.find k d = some x) :
    getConnector k (.open d) = (.ok x, .open d) := by
  have hg : ConnectorRepository.getById k (.open d) = (.ok (connectorTable.find k d), .open d) := rfl
  rw [getConnector, bind_ok hg, h]
  rfl

lemma getConnector_missing (h : connectorTable.find k d = none) :
    getConnector k (.open d) = (.error (.notFound (toString k)), .open d) := by
  have hg : ConnectorRepository.getById k (.open d) = (.ok (connectorTable.find k d), .open d) := rfl
  rw [getConnector, bind_ok hg, h]
  rfl

lemma connectorClash_kept {x y : Connector} (hn : (d.connectors.map Connector.name).Nodup)
    (hx : x ∈ d.connectors) (hid : y.id = x.id) (hname : y.name = x.name) (o : Option Credential) :
    connectorClash (withCredential o d) y = false := by
  rw [connectorClash, withCredential_connectors]
  apply List.any_eq_false.mpr
  intro z hz
  simp only [decide_eq_true_eq, not_and]
  intro hne hzy
  have hzx : z = x := List.inj_on_of_nodup_map hn hz hx (hzy.trans hname)
  exact hne (hzx ▸ hid.symm)

def updateOf (name : Option String) (configuration : Option JsonFields) (o : Option Credential)
    (x : Connector) : ConnectorUpdate :=
  ⟨name, configuration, (idOf o).or x.credentialId, some .created⟩

def updatedRow (g : Generated) (u : ConnectorUpdate) (x : Connector) : Connector :=
  TableOf.settled (assign u) (stamp g.connector.now) x

lemma updateConnector_stored {name : Option String} {configuration : Option JsonFields} {x : Connector}
    {o : Option Credential} (hf : connectorTable.find k d = some x)
    (ho : storePayload E g x.connectorType secretPayload x.credentialId (.open d) =
      (.ok ((idOf o).or x.credentialId), ⟨d, withCredential o d⟩))
    (hc : connectorClash (withCredential o d)
      (stamp g.connector.now (assign (updateOf name configuration o x) x)) = false) :
    ConnectorManager.updateConnector E g k name configuration secretPayload (.open d) =
      (.ok (some (updatedRow g (updateOf name configuration o x) x)),
        ⟨d, connectorTable.put k (updatedRow g (updateOf name configuration o x) x)
          (withCredential o d)⟩) := by
  rw [ConnectorManager.updateConnector, bind_ok (getConnector_found hf), bind_ok ho]
  have hf' : connectorTable.find k (withCredential o d) = some x := by
    change lookup Connector.id k (withCredential o d).connectors = some x
    rw [withCredential_connectors]
    exact hf
  exact connectorTable.update_settled hf' hc

lemma updateConnector_outcome {name : Option String} {configuration : Option JsonFields}
    (hn : (d.connectors.map Connector.name).Nodup) :
    Raised d (ConnectorManager.updateConnector E g k name configuration secretPayload (.open d)) ∨
      ∃ x, connectorTable.find k d = some x ∧ ∃ o, Provides E g.credential secretPayload x.credentialId d o ∧
        connectorClash (withCredential o d)
          (stamp g.connector.now (assign (updateOf name configuration o x) x)) = false ∧
        ConnectorManager.updateConnector E g k name configuration secretPayload (.open d) =
          (.ok (some (updatedRow g (updateOf name configuration o x) x)),
            ⟨d, connectorTable.put k (updatedRow g (updateOf name configuration o x) x)
              (withCredential o d)⟩) := by
  cases hf : connectorTable.find k d with
  | none =>
    rw [ConnectorManager.updateConnector, bind_error (getConnector_missing hf)]
    exact Or.inl ⟨_, _, rfl, rfl⟩
  | some x =>
    rcases storePayload_cases (E := E) (g := g) x.connectorType secretPayload x.credentialId (.open d) with
      ⟨err, he⟩ | ⟨o, ho, he⟩
    · rw [ConnectorManager.updateConnector, bind_ok (getConnector_found hf), bind_error he]
      exact Or.inl ⟨err, _, rfl, rfl⟩
    cases hc : connectorClash (withCredential o d)
        (stamp g.connector.now (assign (updateOf name configuration o x) x)) with
    | true =>
      have ha : assign (updateOf name configuration o x) x ≠ x := by
        intro ha
        rw [ha] at hc
        have hk := connectorClash_kept (y := stamp g.connector.now x) hn (lookup_mem hf) rfl rfl o
        rw [hk] at hc
        cases hc
      have hf' : connectorTable.find k (withCredential o d) = some x := by
        change lookup Connector.id k (withCredential o d).connectors = some x
        rw [withCredential_connectors]
        exact hf
      rw [ConnectorManager.updateConnector, bind_ok (getConnector_found hf), bind_ok he]
      exact Or.inl ⟨_, _, connectorTable.update_refused hf' ha hc, rfl⟩
    | false => exact Or.inr ⟨x, rfl, o, ho, hc, updateConnector_stored hf he hc⟩

def withoutCredential (x : Connector) (d : Platform) : Platform :=
  (x.credentialId.bind fun c => CredentialRepository.named c d).elim d fun c => credentialTable.drop c.id d

lemma withoutCredential_connectors (x : Connector) (d : Platform) :
    (withoutCredential x d).connectors = d.connectors := by
  rw [withoutCredential]
  cases x.credentialId.bind fun c => CredentialRepository.named c d <;> rfl

lemma deleteCredential_named {c : String} {cred : Credential} (h : CredentialRepository.named c d = some cred) :
    CredentialRepository.delete c (.open d) = (.ok true, ⟨d, credentialTable.drop cred.id d⟩) := by
  have hg : CredentialRepository.getByCredentialId c (.open d) =
    (.ok (CredentialRepository.named c d), .open d) := rfl
  rw [CredentialRepository.delete, bind_ok hg, h]
  have hm : cred ∈ d.credentials := List.mem_of_find?_eq_some h
  cases hf : credentialTable.find cred.id d with
  | none => exact absurd rfl (lookup_none.mp hf cred hm)
  | some r => exact credentialTable.delete_found hf

lemma deleteConnector_outcome :
    (Raised d (ConnectorManager.deleteConnector k (.open d)) ∧ connectorTable.find k d = none) ∨
      ∃ x, connectorTable.find k d = some x ∧ ConnectorManager.deleteConnector k (.open d) =
        (.ok true, ⟨d, connectorTable.drop k (withoutCredential x d)⟩) := by
  rw [ConnectorManager.deleteConnector]
  cases hf : connectorTable.find k d with
  | none =>
    rw [bind_error (getConnector_missing hf)]
    exact Or.inl ⟨⟨_, _, rfl, rfl⟩, rfl⟩
  | some x =>
    rw [bind_ok (getConnector_found hf)]
    refine Or.inr ⟨x, rfl, ?_⟩
    rw [withoutCredential]
    cases x.credentialId with
    | none => exact connectorTable.delete_found hf
    | some c =>
      rw [Option.bind_some]
      have hg : CredentialRepository.getByCredentialId c (.open d) =
        (.ok (CredentialRepository.named c d), .open d) := rfl
      cases hc : CredentialRepository.named c d with
      | none =>
        have hd : CredentialRepository.delete c (.open d) = (.ok false, .open d) := by
          rw [CredentialRepository.delete, bind_ok hg, hc]
          rfl
        dsimp only
        rw [bind_ok hd]
        exact connectorTable.delete_found hf
      | some cred =>
        dsimp only
        rw [bind_ok (deleteCredential_named hc)]
        exact connectorTable.delete_found hf

lemma createConnector_cases :
    ConnectorCall.perform P d (.createConnector E g name connectorType category configuration
        secretPayload) = d ∨
      Constructs P ⟨toString g.dummyId, name, configuration, orEmpty (secretPayload.map .object)⟩
          connectorType ∧
        ∃ o, Provides E g.credential secretPayload none d o ∧
          connectorTable.occupied connectorClash
            (newRow g name connectorType category configuration (idOf o)) (withCredential o d) = false ∧
          ConnectorCall.perform P d (.createConnector E g name connectorType category configuration
              secretPayload) =
            connectorTable.append (newRow g name connectorType category configuration (idOf o))
              (withCredential o d) := by
  have hp : ConnectorCall.perform P d (.createConnector E g name connectorType category configuration
    secretPayload) = (request d (ConnectorManager.createConnector P E g name connectorType category
      configuration secretPayload)).2 := rfl
  rw [hp]
  rcases (createConnector_outcome : Raised d (ConnectorManager.createConnector P E g name connectorType
    category configuration secretPayload (.open d)) ∨ _) with hr | ⟨hc, o, ho, hf, hok⟩
  · exact Or.inl hr.perform
  · refine Or.inr ⟨hc, o, ho, hf, ?_⟩
    rw [request_ok hok]

lemma updateConnector_cases {name : Option String} {configuration : Option JsonFields}
    (hn : (d.connectors.map Connector.name).Nodup) :
    ConnectorCall.perform P d (.updateConnector E g k name configuration secretPayload) = d ∨
      ∃ x, connectorTable.find k d = some x ∧ ∃ o, Provides E g.credential secretPayload x.credentialId d o ∧
        connectorClash (withCredential o d)
          (stamp g.connector.now (assign (updateOf name configuration o x) x)) = false ∧
        ConnectorCall.perform P d (.updateConnector E g k name configuration secretPayload) =
          connectorTable.put k (updatedRow g (updateOf name configuration o x) x) (withCredential o d) := by
  have hp : ConnectorCall.perform P d (.updateConnector E g k name configuration secretPayload) =
      (request d (ConnectorManager.updateConnector E g k name configuration secretPayload)).2 := rfl
  rw [hp]
  rcases (updateConnector_outcome hn : Raised d (ConnectorManager.updateConnector E g k name configuration
    secretPayload (.open d)) ∨ _) with hr | ⟨x, hx, o, ho, hc, hok⟩
  · exact Or.inl hr.perform
  · refine Or.inr ⟨x, hx, o, ho, hc, ?_⟩
    rw [request_ok hok]

lemma deleteConnector_cases :
    (ConnectorCall.perform P d (.deleteConnector k) = d ∧ connectorTable.find k d = none) ∨
      ∃ x, connectorTable.find k d = some x ∧
        ConnectorCall.perform P d (.deleteConnector k) = connectorTable.drop k (withoutCredential x d) := by
  have hp : ConnectorCall.perform P d (.deleteConnector k) =
      (request d (ConnectorManager.deleteConnector k)).2 := rfl
  rw [hp]
  rcases deleteConnector_outcome (d := d) (k := k) with ⟨hr, hf⟩ | ⟨x, hx, hok⟩
  · exact Or.inl ⟨hr.perform, hf⟩
  · refine Or.inr ⟨x, hx, ?_⟩
    rw [request_ok hok]

def core (x : Connector) : Connector := { x with status := .created, updatedAt := 0 }

structure Untouched (d t : Platform) : Prop where
  connectors : t.connectors.map core = d.connectors.map core
  credentials : t.credentials = d.credentials

def Tests (d : Platform) (s : Session Platform) : Prop := s.committed = d ∧ Untouched d s.view

lemma updateStatus_tests (now : Instant) (k : Uuid) (status : ConnectorStatus) :
    Keeps (Tests d) (updateStatus now k status) := by
  have hw : Keeps (Tests d) (ConnectorRepository.update now k { status := some status }) := by
    refine connectorTable.update_keeps fun s r hs hf _ => ⟨hs.1, ?_, hs.2.credentials⟩
    have hm : (connectorTable.put k (stamp now (assign { status := some status } r)) s.view).connectors.map
        core = s.view.connectors.map core := replace_map_same hf rfl
    exact hm.trans hs.2.connectors
  intro s hs
  exact hw { s with view := { s.view with statusUpdates := s.view.statusUpdates ++ [(k, status)] } }
    ⟨hs.1, hs.2.connectors, hs.2.credentials⟩

lemma inStore_tests {α : Type} {p : Tx Database ServiceError α} (hp : ∀ s, (p s).2.committed = s.committed) :
    Keeps (Tests d) (inStore p) := by
  rintro s ⟨hc, hu⟩
  refine ⟨?_, hu.connectors, hu.credentials⟩
  change { s.committed with store := (p ⟨s.committed.store, s.view.store⟩).2.committed } = d
  rw [hp, hc]

lemma bulkCreate_uncommitted (l : List (Env × Output.OutputEventSchema)) (s : Session Database) :
    (Output.ExecutionOutputRepository.bulkCreate l s).2.committed = s.committed := by
  have hk : Keeps (fun t => t.committed = s.committed) (Output.ExecutionOutputRepository.bulkCreate l) := by
    induction l with
    | nil => exact .pure []
    | cons p l ih =>
      refine .bind ?_ fun output => .bind ih fun outputs => .pure _
      exact executionOutputTable.insert_keeps fun t ht _ => ht
  exact hk s rfl

lemma logEvents_tests (e : Env) (x : Output.RawOutput) : Keeps (Tests d) (logEvents e x) := by
  refine .bind ?_ fun _ => .bind (inStore_tests (bulkCreate_uncommitted _)) fun _ => .pure ()
  rintro s ⟨hc, hu⟩
  exact ⟨hc, hu.connectors, hu.credentials⟩

lemma testConnector_tests (e : Env) (k : Uuid) : Keeps (Tests d) (ConnectorManager.testConnector P E e k) := by
  have hget : Keeps (Tests d) (getConnector k) := by
    refine .bind (connectorTable.getById_keeps k) fun o => ?_
    cases o with
    | none => exact .throw _
    | some x => exact .pure x
  refine .bind hget fun conn => .bind (updateStatus_tests _ _ _) fun _ => .bind ?_ fun creds =>
    .tryCatch ?_ fun exc => ?_
  · rw [resolvedCreds]
    cases conn.credentialId with
    | none => exact .pure _
    | some c =>
      refine .bind (.bind (.bind .read fun _ => .pure _) fun o => ?_) fun o => .pure _
      cases o with
      | none => exact .pure none
      | some cred =>
        dsimp only
        rw [map_eq_pure_bind]
        exact .bind (.ofExcept _) fun v => .pure _
  · refine .bind (.ofExcept _) fun i => .bind (.ofExcept _) fun isOk => ?_
    exact .bind (updateStatus_tests _ _ _) fun _ => .bind (logEvents_tests _ _) fun _ => .pure _
  · refine .ite (.throw _) ?_
    exact .bind (updateStatus_tests _ _ _) fun _ => .bind (logEvents_tests _ _) fun _ => .throw _

lemma tested_untouched (e : Env) (k : Uuid) :
    Untouched d (ConnectorCall.perform P d (.testConnector E e k)) := by
  have ht := testConnector_tests (P := P) (E := E) e k (.open d) ⟨rfl, rfl, rfl⟩
  change Untouched d (tested d (ConnectorManager.testConnector P E e k))
  rw [tested]
  obtain ⟨r, s, hr⟩ : ∃ r s, ConnectorManager.testConnector P E e k (.open d) = (r, s) := ⟨_, _, rfl⟩
  rw [hr] at ht ⊢
  obtain ⟨hc, hu⟩ := ht
  have hd : Untouched d s.committed := by
    change s.committed = d at hc
    rw [hc]
    exact ⟨rfl, rfl⟩
  cases r with
  | ok a => exact hu
  | error err =>
    cases err with
    | connection connectorId details => exact hu
    | _ => exact hd

end NotebookExecution.Connectors
