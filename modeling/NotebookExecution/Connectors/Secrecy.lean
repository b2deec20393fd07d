import NotebookExecution.Connectors.Rotation

/-! Tests of a connection under two secrets. -/

namespace NotebookExecution.Connectors

open Library.Json Library.Transaction Library.Table Store ConnectorManager ConnectorRepository

variable {P : Python} {E : Encryption} {d : Platform} {k : Uuid} {e : Env} {x : Connector}
  {cls : ConnectorType} {c : String} {stored stored₁ stored₂ : JsonFields}

def withSecret (credentialId : String) (stored : JsonFields) (d : Platform) : Platform :=
  { d with credentials := d.credentials.map fun y =>
      if y.credentialId = credentialId then { y with encryptedPayload := stored } else y }

lemma withSecret_apart : connectorTable.Apart connectorClash (withSecret c stored) where
  rows _ := rfl
  store _ _ := rfl
  clash _ _ := rfl

def Alike (E : Encryption) (stored₁ stored₂ : JsonFields) : Prop :=
  (∃ err, E.decryptPayload stored₁ = .error err ∧ E.decryptPayload stored₂ = .error err) ∨
    ∃ a b, E.decryptPayload stored₁ = .ok (.object a) ∧ E.decryptPayload stored₂ = .ok (.object b)

lemma Fernet.Lawful.reads {F : Fernet} (h : F.Lawful) (key other : String) :
    ∃ f : JsonFields → JsonFields, ∀ nonce payload,
      (F.decrypt other (F.encrypt key nonce payload)).getD (.object .nil) = .object (f payload) := by
  cases h.opensAlike key other with
  | inl ho =>
    refine ⟨id, fun nonce payload => ?_⟩
    rw [ho]
    rfl
  | inr ho =>
    refine ⟨fun _ => .nil, fun nonce payload => ?_⟩
    rw [ho]
    rfl

lemma alike_of_encrypt {E₀ : Encryption} (hE : E₀.fernet.Lawful) (hF : E.fernet = E₀.fernet) {n₁ n₂ : ℕ}
    {p₁ p₂ : JsonFields} (h₁ : E₀.encryptPayload n₁ p₁ = .ok stored₁)
    (h₂ : E₀.encryptPayload n₂ p₂ = .ok stored₂) : Alike E stored₁ stored₂ := by
  rcases encryptPayload_cases h₁ with ⟨hk, hs₁⟩ | ⟨key, hk, hs₁⟩
  · rcases encryptPayload_cases h₂ with ⟨-, hs₂⟩ | ⟨key, hk', -⟩
    · rw [hs₁, hs₂]
      exact Or.inr ⟨p₁, p₂, rfl, rfl⟩
    · rw [hk] at hk'
      cases hk'
  · rcases encryptPayload_cases h₂ with ⟨hk', -⟩ | ⟨key', hk', hs₂⟩
    · rw [hk] at hk'
      cases hk'
    · rw [hk] at hk'
      cases hk'
      rw [hs₁, hs₂, ← hF, Alike, decrypt_token, decrypt_token]
      cases hg : E.getFernet with
      | error err => exact Or.inl ⟨err, rfl, rfl⟩
      | ok o =>
        apply Or.inr
        cases o with
        | none => exact ⟨.nil, .nil, rfl, rfl⟩
        | some other =>
          obtain ⟨f, hf⟩ := hE.reads key other
          rw [← hF] at hf
          exact ⟨f p₁, f p₂, congrArg Except.ok (hf n₁ p₁), congrArg Except.ok (hf n₂ p₂)⟩

structure SameTest (i j : ConnectorInstance) : Prop where
  connectorType : i.connectorType = j.connectorType
  config : i.config = j.config

namespace SameTest

variable {i j : ConnectorInstance}

lemma validateConfig (h : SameTest i j) : i.validateConfig = j.validateConfig := by
  rw [ConnectorInstance.validateConfig, h.connectorType, h.config, ← ConnectorInstance.validateConfig]

lemma testConnection (h : SameTest i j) : i.testConnection = j.testConnection := by
  rw [ConnectorInstance.testConnection, h.validateConfig, ← ConnectorInstance.testConnection]

lemma capabilities (h : SameTest i j) : i.capabilities = j.capabilities := by
  rw [ConnectorInstance.capabilities, h.connectorType, ← ConnectorInstance.capabilities]

end SameTest

def SameOutcome (r₁ r₂ : Except ConnectorFailure ConnectorInstance) : Prop :=
  (∃ err, r₁ = .error err ∧ r₂ = .error err) ∨ ∃ i j, r₁ = .ok i ∧ r₂ = .ok j ∧ SameTest i j

lemma sameOutcome_server {b : BaseConnector} {port : ℤ} {database : String} {i j : Target → ConnectorInstance}
    (h : ∀ target, SameTest (i target) (j target)) :
    SameOutcome (serverTarget P b port database >>= fun target => pure (i target))
      (serverTarget P b port database >>= fun target => pure (j target)) := by
  cases serverTarget P b port database with
  | error err => exact Or.inl ⟨err, rfl, rfl⟩
  | ok target => exact Or.inr ⟨i target, j target, rfl, rfl, h target⟩

lemma construct_same (cls : ConnectorType) (connectorId name : String) (config a b : JsonFields) :
    SameOutcome (cls.construct P ⟨connectorId, name, config, .object a⟩)
      (cls.construct P ⟨connectorId, name, config, .object b⟩) := by
  cases cls with
  | postgresql => exact sameOutcome_server fun _ => ⟨rfl, rfl⟩
  | mysql => exact sameOutcome_server fun _ => ⟨rfl, rfl⟩
  | mssql => exact sameOutcome_server fun _ => ⟨rfl, rfl⟩
  | mongodb => exact sameOutcome_server fun _ => ⟨rfl, rfl⟩
  | s3 => exact Or.inr ⟨_, _, rfl, rfl, rfl, rfl⟩

lemma sameOutcome_validated {r₁ r₂ : Except ConnectorFailure ConnectorInstance} (h : SameOutcome r₁ r₂) :
    SameOutcome (r₁ >>= fun i => i.validateConfig >>= fun _ => pure i)
      (r₂ >>= fun i => i.validateConfig >>= fun _ => pure i) := by
  rcases h with ⟨err, rfl, rfl⟩ | ⟨i, j, rfl, rfl, hij⟩
  · exact Or.inl ⟨err, rfl, rfl⟩
  · change SameOutcome (i.validateConfig >>= fun _ => pure i) (j.validateConfig >>= fun _ => pure j)
    rw [← hij.validateConfig]
    cases i.validateConfig with
    | error err => exact Or.inl ⟨err, rfl, rfl⟩
    | ok u => exact Or.inr ⟨i, j, rfl, rfl, hij⟩

lemma orEmpty_some_object (o : JsonFields) : orEmpty (some (.object o)) = .object o := by
  cases o <;> rfl

lemma createConnector_same (connectorId name connectorType : String) (config a b : JsonFields) :
    SameOutcome (ConnectorFactory.createConnector P connectorId name connectorType config (some (.object a)))
      (ConnectorFactory.createConnector P connectorId name connectorType config (some (.object b))) := by
  rw [ConnectorFactory.createConnector, ConnectorFactory.createConnector, orEmpty_some_object,
    orEmpty_some_object]
  cases ConnectorRegistry.get connectorType with
  | error err => exact Or.inl ⟨err, rfl, rfl⟩
  | ok cls => exact sameOutcome_validated (construct_same cls connectorId name config a b)

lemma attempt_same (conn : Connector) (a b : JsonFields) :
    attempt P e conn (.object a) = attempt P e conn (.object b) := by
  rw [attempt, attempt]
  rcases createConnector_same (P := P) (toString conn.id) conn.name conn.connectorType conn.configuration a b
    with ⟨err, ha, hb⟩ | ⟨i, j, ha, hb, hij⟩
  · rw [ha, hb]
  · have hi : (ofExcept (.ok i) : Tx Platform ConnectorFailure ConnectorInstance) = pure i := rfl
    have hj : (ofExcept (.ok j) : Tx Platform ConnectorFailure ConnectorInstance) = pure j := rfl
    rw [ha, hb, hi, hj, pure_bind, pure_bind, hij.testConnection, hij.capabilities]

lemma updateStatus_agree (now : Instant) (k : Uuid) (status : ConnectorStatus) :
    Agree (withSecret c stored₁) (withSecret c stored₂) (updateStatus now k status)
      (updateStatus now k status) := by
  have h₁ : connectorTable.Apart connectorClash (withSecret c stored₁) := withSecret_apart
  have h₂ : connectorTable.Apart connectorClash (withSecret c stored₂) := withSecret_apart
  have hu := connectorTable.update_agree h₁ h₂ ConnectorFailure.integrityError k
    (assign { status := some status }) (stamp now)
  exact fun s => hu { s with view := { s.view with statusUpdates := s.view.statusUpdates ++ [(k, status)] } }

lemma publishAll_agree (events : List Output.OutputEventSchema) :
    Agree (withSecret c stored₁) (withSecret c stored₂) (publishAll events) (publishAll events) :=
  fun s => ⟨(publishAll events s).1, (publishAll events s).2, rfl, rfl⟩

lemma inStore_agree {α : Type} (p : Tx Database ServiceError α) :
    Agree (withSecret c stored₁) (withSecret c stored₂) (inStore p) (inStore p) :=
  fun s => ⟨(inStore p s).1, (inStore p s).2, rfl, rfl⟩

lemma logEvents_agree (x : Output.RawOutput) :
    Agree (withSecret c stored₁) (withSecret c stored₂) (logEvents e x) (logEvents e x) := by
  refine .bind (publishAll_agree _) fun _ => .bind (inStore_agree _) fun _ => .pure ()

lemma getConnector_agree :
    Agree (withSecret c stored₁) (withSecret c stored₂) (getConnector k) (getConnector k) := by
  refine .bind (connectorTable.getById_agree withSecret_apart withSecret_apart k) fun o => ?_
  cases o with
  | none => exact .throw _
  | some x => exact .pure x

lemma attempt_agree (conn : Connector) (creds : JsonValue) :
    Agree (withSecret c stored₁) (withSecret c stored₂) (attempt P e conn creds) (attempt P e conn creds) := by
  refine .bind (.ofExcept _) fun i => .bind (.ofExcept _) fun isOk => ?_
  exact .bind (updateStatus_agree _ _ _) fun _ => .bind (logEvents_agree _) fun _ => .pure _

lemma failed_agree (conn : Connector) (exc : ConnectorFailure) :
    Agree (withSecret c stored₁) (withSecret c stored₂) (failed e conn exc) (failed e conn exc) := by
  refine .ite (.throw _) ?_
  exact .bind (updateStatus_agree _ _ _) fun _ => .bind (logEvents_agree _) fun _ => .throw _

lemma named_withSecret (c' : String) (d : Platform) :
    CredentialRepository.named c' (withSecret c stored d) = (CredentialRepository.named c' d).map fun y =>
      if y.credentialId = c then { y with encryptedPayload := stored } else y := by
  have hp : (fun y : Credential => decide (y.credentialId = c')) ∘ (fun y : Credential =>
      if y.credentialId = c then { y with encryptedPayload := stored } else y) =
      fun y => decide (y.credentialId = c') := by
    funext y
    rw [Function.comp_apply]
    split <;> rfl
  rw [CredentialRepository.named, CredentialRepository.named, withSecret, List.find?_map, hp]

def credsOf (E : Encryption) (d : Platform) (conn : Connector) : Except ConnectorFailure JsonValue :=
  match conn.credentialId with
  | some c => (resolved E d c).map orEmpty
  | none => .ok (.object .nil)

lemma resolveCredential_eq (c : String) (s : Session Platform) :
    CredentialManager.resolveCredential E c s = (resolved E s.view c, s) := by
  have hg : CredentialRepository.getByCredentialId c s = (.ok (CredentialRepository.named c s.view), s) := rfl
  rw [resolved_eq, CredentialManager.resolveCredential, bind_ok hg]
  cases CredentialRepository.named c s.view with
  | none => rfl
  | some cred =>
    dsimp only
    rw [Option.elim_some]
    cases E.decryptPayload cred.encryptedPayload <;> rfl

lemma resolvedCreds_eq (conn : Connector) (s : Session Platform) :
    resolvedCreds E conn s = (credsOf E s.view conn, s) := by
  rw [resolvedCreds, credsOf]
  cases conn.credentialId with
  | none => rfl
  | some c =>
    dsimp only
    cases hr : resolved E s.view c with
    | error err =>
      have he : CredentialManager.resolveCredential E c s = (.error err, s) := hr ▸ resolveCredential_eq c s
      exact bind_error he
    | ok v =>
      have hv : CredentialManager.resolveCredential E c s = (.ok v, s) := hr ▸ resolveCredential_eq c s
      exact bind_ok hv

lemma credsOf_alike (h : Alike E stored₁ stored₂) (d : Platform) (conn : Connector) :
    credsOf E (withSecret c stored₁ d) conn = credsOf E (withSecret c stored₂ d) conn ∨
      ∃ a b, credsOf E (withSecret c stored₁ d) conn = .ok (.object a) ∧
        credsOf E (withSecret c stored₂ d) conn = .ok (.object b) := by
  rw [credsOf, credsOf]
  cases conn.credentialId with
  | none => exact Or.inl rfl
  | some c' =>
    dsimp only
    rw [resolved_eq, resolved_eq, named_withSecret, named_withSecret]
    cases CredentialRepository.named c' d with
    | none => exact Or.inl rfl
    | some cred =>
      rw [Option.map_some, Option.map_some, Option.elim_some, Option.elim_some]
      by_cases hc : cred.credentialId = c
      · rw [if_pos hc, if_pos hc]
        rcases h with ⟨err, h₁, h₂⟩ | ⟨a, b, h₁, h₂⟩
        · rw [h₁, h₂]
          exact Or.inl rfl
        · rw [h₁, h₂]
          exact Or.inr ⟨a, b, congrArg Except.ok (orEmpty_some_object a),
            congrArg Except.ok (orEmpty_some_object b)⟩
      · rw [if_neg hc, if_neg hc]
        exact Or.inl rfl

lemma resolve_attempt_agree (h : Alike E stored₁ stored₂) (conn : Connector) :
    Agree (withSecret c stored₁) (withSecret c stored₂)
      (resolvedCreds E conn >>= fun creds => tryCatch (attempt P e conn creds) (failed e conn))
      (resolvedCreds E conn >>= fun creds => tryCatch (attempt P e conn creds) (failed e conn)) := by
  intro s
  have h₁ := resolvedCreds_eq (E := E) conn (s.map (withSecret c stored₁))
  have h₂ := resolvedCreds_eq (E := E) conn (s.map (withSecret c stored₂))
  have hrest : ∀ creds, Agree (withSecret c stored₁) (withSecret c stored₂)
      (tryCatch (attempt P e conn creds) (failed e conn)) (tryCatch (attempt P e conn creds) (failed e conn)) :=
    fun creds => .tryCatch (attempt_agree conn creds) (failed_agree conn)
  rcases credsOf_alike (c := c) h s.view conn with hs | ⟨a, b, ha, hb⟩
  · cases hr : credsOf E (withSecret c stored₁ s.view) conn with
    | error err =>
      exact ⟨.error err, s, bind_error (hr ▸ h₁), bind_error ((hs.symm.trans hr) ▸ h₂)⟩
    | ok creds =>
      obtain ⟨r, t, hr₁, hr₂⟩ := hrest creds s
      exact ⟨r, t, (bind_ok (hr ▸ h₁)).trans hr₁, (bind_ok ((hs.symm.trans hr) ▸ h₂)).trans hr₂⟩
  · obtain ⟨r, t, hr₁, hr₂⟩ := hrest (.object a) s
    rw [attempt_same conn a b] at hr₂
    exact ⟨r, t, (bind_ok (ha ▸ h₁)).trans hr₁, (bind_ok (hb ▸ h₂)).trans hr₂⟩

lemma testConnector_agree (h : Alike E stored₁ stored₂) :
    Agree (withSecret c stored₁) (withSecret c stored₂) (testConnector P E e k) (testConnector P E e k) :=
  .bind getConnector_agree fun conn => .bind (updateStatus_agree _ _ _) fun _ =>
    resolve_attempt_agree h conn

structure Indistinguishable (credentialId : String)
    (o₁ o₂ : Except ConnectorFailure TestResult × Session Platform) : Prop where
  result : o₁.1 = o₂.1
  statusUpdates : o₁.2.view.statusUpdates = o₂.2.view.statusUpdates
  persisted : o₁.2.view.store.executionOutputs = o₂.2.view.store.executionOutputs
  published : o₁.2.view.published = o₂.2.view.published
  view : withSecret credentialId .nil o₁.2.view = withSecret credentialId .nil o₂.2.view
  committed : withSecret credentialId .nil o₁.2.committed = withSecret credentialId .nil o₂.2.committed

lemma withSecret_withSecret (stored' : JsonFields) (d : Platform) :
    withSecret c stored' (withSecret c stored d) = withSecret c stored' d := by
  rw [withSecret, withSecret, withSecret, List.map_map]
  congr 1
  apply List.map_congr_left
  intro y _
  rw [Function.comp_apply]
  by_cases hy : y.credentialId = c
  · simp [hy]
  · simp [hy]

theorem tests_indistinguishable (P : Python) (E₀ E : Encryption) (e : Env) (k : Uuid) (c : String)
    (d : Platform) {n₁ n₂ : ℕ} {p₁ p₂ stored₁ stored₂ : JsonFields} (hE : E₀.fernet.Lawful)
    (hF : E.fernet = E₀.fernet) (h₁ : E₀.encryptPayload n₁ p₁ = .ok stored₁)
    (h₂ : E₀.encryptPayload n₂ p₂ = .ok stored₂) :
    Indistinguishable c (testConnector P E e k (.open (withSecret c stored₁ d)))
      (testConnector P E e k (.open (withSecret c stored₂ d))) := by
  obtain ⟨r, t, ht₁, ht₂⟩ := testConnector_agree (P := P) (e := e) (k := k) (c := c)
    (alike_of_encrypt hE hF h₁ h₂) (.open d)
  have hr₁ : testConnector P E e k (.open (withSecret c stored₁ d)) = (r, t.map (withSecret c stored₁)) := ht₁
  have hr₂ : testConnector P E e k (.open (withSecret c stored₂ d)) = (r, t.map (withSecret c stored₂)) := ht₂
  rw [hr₁, hr₂]
  refine ⟨rfl, rfl, rfl, rfl, ?_, ?_⟩
  · exact (withSecret_withSecret .nil t.view).trans (withSecret_withSecret .nil t.view).symm
  · exact (withSecret_withSecret .nil t.committed).trans (withSecret_withSecret .nil t.committed).symm

def plainEnvelope (text : String) : JsonFields := Encryption.envelope false (.object (password text))

theorem passwords_indistinguishable :
    Indistinguishable "cred-12"
      (testConnector plainPython plainText ⟨30, 1⟩ 13 (.open (withSecret "cred-12" (plainEnvelope "a")
        ((createSales (some (password "c"))).perform plainPython (withoutConnectors .empty)))))
      (testConnector plainPython plainText ⟨30, 1⟩ 13 (.open (withSecret "cred-12" (plainEnvelope "b")
        ((createSales (some (password "c"))).perform plainPython (withoutConnectors .empty))))) := by
  have h₁ : plainText.encryptPayload 1 (password "a") = .ok (plainEnvelope "a") := rfl
  have h₂ : plainText.encryptPayload 2 (password "b") = .ok (plainEnvelope "b") := rfl
  exact tests_indistinguishable plainPython plainText plainText ⟨30, 1⟩ 13 "cred-12" _ plainText_lawful rfl h₁ h₂

end NotebookExecution.Connectors
