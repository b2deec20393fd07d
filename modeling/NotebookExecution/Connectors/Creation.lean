import NotebookExecution.Connectors.Instantiation
import NotebookExecution.Library.Refusal

/-! The creation of a connector: what it stores when it succeeds, and its errors when it does not. -/

namespace NotebookExecution.Connectors

open Library.Json Library.Text Library.Transaction Library.Table Store ConnectorManager

structure CreateConnectorRequest where
  name : String
  connectorType : String
  category : String
  configuration : JsonFields
  secretPayload : Option JsonFields

def declared : ConnectorFailure → Bool
  | .notFound _ => true
  | .configuration _ _ => true
  | _ => false

namespace CreateConnectorRequest

def baseOf (x : CreateConnectorRequest) (g : Generated) : BaseConnector :=
  ⟨toString g.dummyId, x.name, x.configuration, orEmpty (x.secretPayload.map .object)⟩

def manage (P : Python) (E : Encryption) (g : Generated) (x : CreateConnectorRequest) :
    Tx Platform ConnectorFailure Connector :=
  createConnector P E g x.name x.connectorType x.category x.configuration x.secretPayload

/-- `takes` says of a request whether the columns take the rows that are made of it. -/
def create (takes : CreateConnectorRequest → Bool) (P : Python) (E : Encryption) (g : Generated)
    (x : CreateConnectorRequest) (d : Platform) : Except (Refusal ConnectorFailure) Connector × Platform :=
  storing (fun _ => takes x) d (request d (x.manage P E g))

end CreateConnectorRequest

def StoresNew (x : CreateConnectorRequest) (d d' : Platform) (row : Connector) : Prop :=
  d'.connectors = d.connectors ++ [row] ∧
    if givenPayload x.secretPayload = none then d'.credentials = d.credentials ∧ row.credentialId = none
    else ∃ c, d'.credentials = d.credentials ++ [c] ∧ row.credentialId = some c.credentialId

def FailsCleanly (x : CreateConnectorRequest) (d : Platform)
    (r : Except (Refusal ConnectorFailure) Connector × Platform) : Prop :=
  (∃ row, r.1 = .ok row ∧ StoresNew x d r.2 row) ∨ Rejects declared d r

variable {P : Python} {E : Encryption} {g : Generated} {d : Platform} {x : CreateConnectorRequest}
  {cls : ConnectorType} {b : BaseConnector} {i : ConnectorInstance} {err : ConnectorFailure}

/-- `int` takes the port, when there is one. -/
def ConnectorType.Converts : ConnectorType → JsonFields → Prop
  | .s3, _ => True
  | _, config => ∀ v, config.get "port" = some v → ∃ n, toInt v = .ok n

lemma serverTarget_converts {port : ℤ} {database : String} :
    (∃ target, serverTarget P b port database = .ok target) ↔
      ∀ v, b.config.get "port" = some v → ∃ n, toInt v = .ok n := by
  rw [serverTarget_ok, getOr]
  cases b.config.get "port" with
  | none => exact iff_of_true ⟨_, rfl⟩ fun v h => by cases h
  | some v =>
    constructor
    · intro h w hw
      cases hw
      exact h
    · intro h
      exact h v rfl

lemma serverTarget_error {port : ℤ} {database : String} (h : serverTarget P b port database = .error err) :
    ∃ message, err = .raised message := by
  rw [serverTarget] at h
  cases ht : toInt (getOr b.config "port" (.int port)) with
  | error e =>
    rw [ht] at h
    cases h
    exact ⟨_, rfl⟩
  | ok n =>
    rw [ht] at h
    cases h

lemma server_cases {port : ℤ} {database : String} {f : Target → Except ConnectorFailure ConnectorInstance}
    (hf : ∀ target, ∃ i, f target = .ok i) :
    (∀ v, b.config.get "port" = some v → ∃ n, toInt v = .ok n) ∧
        (∃ i, (serverTarget P b port database >>= f) = .ok i) ∨
      (¬ ∀ v, b.config.get "port" = some v → ∃ n, toInt v = .ok n) ∧
        ∃ message, (serverTarget P b port database >>= f) = .error (.raised message) := by
  have hconverts : (∃ target, serverTarget P b port database = .ok target) ↔
    ∀ v, b.config.get "port" = some v → ∃ n, toInt v = .ok n := serverTarget_converts
  rw [← hconverts]
  cases ht : serverTarget P b port database with
  | ok target => exact Or.inl ⟨⟨target, rfl⟩, hf target⟩
  | error err =>
    obtain ⟨message, rfl⟩ := serverTarget_error ht
    refine Or.inr ⟨?_, message, rfl⟩
    rintro ⟨target, h⟩
    cases h

lemma construct_cases (P : Python) (cls : ConnectorType) {o : JsonFields} (hb : b.credentials = .object o) :
    cls.Converts b.config ∧ (∃ i, cls.construct P b = .ok i) ∨
      ¬ cls.Converts b.config ∧ ∃ message, cls.construct P b = .error (.raised message) := by
  cases cls with
  | postgresql =>
    apply server_cases
    intro target
    rw [hb]
    exact ⟨_, rfl⟩
  | mysql => exact server_cases fun target => ⟨_, rfl⟩
  | mssql => exact server_cases fun target => ⟨_, rfl⟩
  | mongodb => exact server_cases fun target => ⟨_, rfl⟩
  | s3 => exact Or.inl ⟨trivial, _, rfl⟩

lemma requireFields_error {present : Option JsonValue → Bool} {fields : List String} {config : JsonFields}
    (h : requireFields present fields cls config = .error err) : declared err = true := by
  rw [requireFields] at h
  cases hf : fields.find? fun f => !present (config.get f) with
  | none =>
    rw [hf] at h
    cases h
  | some f =>
    rw [hf] at h
    cases h
    rfl

lemma validateConfig_error (h : i.validateConfig = .error err) : declared err = true := by
  rw [ConnectorInstance.validateConfig] at h
  cases ht : i.connectorType with
  | postgresql =>
    rw [ht] at h
    exact requireFields_error h
  | mysql =>
    rw [ht] at h
    exact requireFields_error h
  | mssql =>
    rw [ht] at h
    exact requireFields_error h
  | mongodb =>
    rw [ht] at h
    exact requireFields_error h
  | s3 =>
    rw [ht] at h
    exact requireFields_error h

lemma registry_error {connectorType : String} (h : ConnectorRegistry.get connectorType = .error err) :
    declared err = true := by
  rw [ConnectorRegistry.get] at h
  split at h
  · cases h
  · cases h
    rfl

/-! ## The rows -/

def UsableKey (E : Encryption) : Prop :=
  strip E.credentialEncryptionKey = "" ∨ E.fernet.refuses (strip E.credentialEncryptionKey) = none

structure Storable (E : Encryption) (g : Generated) (x : CreateConnectorRequest) (d : Platform) : Prop where
  credential : givenPayload x.secretPayload ≠ none → UsableKey E ∧ Fresh g.credential d
  name : ∀ y ∈ d.connectors, y.name ≠ x.name
  id : ∀ y ∈ d.connectors, y.id ≠ g.connector.uuid

lemma usableKey_iff : UsableKey E ↔ ∃ key, E.getFernet = .ok key := by
  rw [UsableKey, Encryption.getFernet]
  by_cases hk : strip E.credentialEncryptionKey = ""
  · exact iff_of_true (Or.inl hk) ⟨none, if_pos hk⟩
  · simp only [if_neg hk]
    cases hr : E.fernet.refuses (strip E.credentialEncryptionKey) with
    | none => exact iff_of_true (Or.inr rfl) ⟨_, rfl⟩
    | some message =>
      refine iff_of_false ?_ ?_
      · rintro (h | h)
        · exact hk h
        · cases h
      · rintro ⟨key, h⟩
        cases h

lemma occupied_iff {o : Option Credential} :
    connectorTable.occupied connectorClash
        (newRow g x.name x.connectorType x.category x.configuration (idOf o)) (withCredential o d) = false ↔
      (∀ y ∈ d.connectors, y.name ≠ x.name) ∧ ∀ y ∈ d.connectors, y.id ≠ g.connector.uuid := by
  constructor
  · intro h
    obtain ⟨hid, hname⟩ := connector_free h
    exact ⟨hname, hid⟩
  · rintro ⟨hname, hid⟩
    apply connectorTable.occupied_eq_false.mpr
    constructor
    · apply lookup_none.mpr
      change ∀ y ∈ (withCredential o d).connectors, _
      rw [withCredential_connectors]
      exact hid
    · rw [connectorClash, withCredential_connectors]
      apply List.any_eq_false.mpr
      intro y hy hc
      exact hname y hy (of_decide_eq_true hc).2

lemma fresh_iff {credentialType : String} {stored : JsonFields} : Fresh g.credential d ↔
    credentialTable.occupied credentialClash (newCredential g.credential credentialType stored) d = false := by
  constructor
  · intro h
    exact fresh_free h rfl rfl
  · intro h y hy
    obtain ⟨hf, hc⟩ := credentialTable.occupied_inv h
    have hid : y.id ≠ g.credential.row.uuid := lookup_none.mp hf y hy
    refine ⟨hid, fun he => ?_⟩
    exact List.any_eq_false.mp hc y hy (decide_eq_true ⟨hid, he⟩)

lemma givenPayload_inv {secretPayload : Option JsonFields} {payload : JsonFields}
    (h : givenPayload secretPayload = some payload) : secretPayload = some payload ∧ payload ≠ .nil := by
  obtain ⟨hs, hne⟩ := Option.filter_eq_some_iff.mp h
  exact ⟨hs, by simpa using hne⟩

lemma storePayload_encryption {connectorType : String} {payload : JsonFields} {s : Session Platform}
    (h : givenPayload x.secretPayload = some payload)
    (he : E.encryptPayload g.credential.nonce payload = .error err) :
    storePayload E g connectorType x.secretPayload none s = (.error err, s) := by
  rw [storePayload, h]
  apply bind_error
  rw [CredentialManager.createCredential, he]
  rfl

lemma storePayload_taken {connectorType : String} {payload stored : JsonFields}
    (h : givenPayload x.secretPayload = some payload)
    (hs : E.encryptPayload g.credential.nonce payload = .ok stored) (hf : ¬ Fresh g.credential d) :
    storePayload E g connectorType x.secretPayload none (.open d) = (.error .integrityError, .open d) := by
  have ho : (ofExcept (.ok stored) : Tx Platform ConnectorFailure JsonFields) (.open d) =
    (.ok stored, .open d) := rfl
  have ht : credentialTable.occupied credentialClash (newCredential g.credential connectorType stored) d =
      true := by
    rw [← Bool.not_eq_false]
    exact fun h => hf (fresh_iff.mpr h)
  rw [storePayload, h]
  apply bind_error
  rw [CredentialManager.createCredential, hs, bind_ok ho]
  exact credentialTable.insert_refused ht

lemma connector_cases {o : Option Credential} :
    ((∀ y ∈ d.connectors, y.name ≠ x.name) ∧ ∀ y ∈ d.connectors, y.id ≠ g.connector.uuid) ∧
        (∃ row t, ConnectorRepository.create g.connector x.name (lower x.connectorType) (upper x.category)
          x.configuration (idOf o) .created ⟨d, withCredential o d⟩ = (.ok row, t)) ∨
      (¬ ((∀ y ∈ d.connectors, y.name ≠ x.name) ∧ ∀ y ∈ d.connectors, y.id ≠ g.connector.uuid)) ∧
        ∃ t, ConnectorRepository.create g.connector x.name (lower x.connectorType) (upper x.category)
          x.configuration (idOf o) .created ⟨d, withCredential o d⟩ = (.error .integrityError, t) := by
  rw [← occupied_iff (o := o)]
  cases ho : connectorTable.occupied connectorClash
      (newRow g x.name x.connectorType x.category x.configuration (idOf o)) (withCredential o d) with
  | true => exact Or.inr ⟨by simp, _, connectorTable.insert_refused ho⟩
  | false => exact Or.inl ⟨rfl, _, _, connectorTable.insert_accepted ho⟩

def storeRows (E : Encryption) (g : Generated) (x : CreateConnectorRequest) :
    Tx Platform ConnectorFailure Connector := do
  let credentialId ← storePayload E g x.connectorType x.secretPayload none
  ConnectorRepository.create g.connector x.name (lower x.connectorType) (upper x.category) x.configuration
    credentialId .created

lemma storeRows_cases :
    Storable E g x d ∧ (∃ row t, storeRows E g x (.open d) = (.ok row, t)) ∨
      ¬ Storable E g x d ∧ ∃ err t, storeRows E g x (.open d) = (.error err, t) ∧ declared err = false := by
  cases hg : givenPayload x.secretPayload with
  | none =>
    have hs : storePayload E g x.connectorType x.secretPayload none (.open d) = (.ok none, .open d) := by
      rw [storePayload, hg]
      rfl
    rw [storeRows, bind_ok hs]
    rcases connector_cases (g := g) (d := d) (x := x) (o := none) with ⟨⟨hn, hid⟩, row, t, hr⟩ | ⟨hno, t, hr⟩
    · exact Or.inl ⟨⟨fun h => absurd hg h, hn, hid⟩, row, t, hr⟩
    · exact Or.inr ⟨fun h => hno ⟨h.name, h.id⟩, _, t, hr, rfl⟩
  | some payload =>
    obtain ⟨hx, hne⟩ := givenPayload_inv hg
    have hgiven : givenPayload x.secretPayload ≠ none := by
      rw [hg]
      exact Option.some_ne_none payload
    rw [storeRows]
    cases he : E.encryptPayload g.credential.nonce payload with
    | error err =>
      obtain ⟨message, rfl⟩ := encryptPayload_error he
      rw [bind_error (storePayload_encryption hg he)]
      refine Or.inr ⟨fun h => ?_, _, _, rfl, rfl⟩
      obtain ⟨stored, hs⟩ := encryptPayload_usable.mpr (usableKey_iff.mp (h.credential hgiven).1)
      rw [hs] at he
      cases he
    | ok stored =>
      have hkey : UsableKey E := usableKey_iff.mpr (encryptPayload_usable.mp ⟨stored, he⟩)
      by_cases hf : Fresh g.credential d
      · have hs : storePayload E g x.connectorType (some payload) none (.open d) =
            (.ok (some (CredentialManager.newCredentialId g.credential)),
              ⟨d, credentialTable.append (newCredential g.credential x.connectorType stored) d⟩) :=
          storePayload_fresh hne hf he
        rw [← hx] at hs
        rw [bind_ok hs]
        rcases connector_cases (g := g) (d := d) (x := x)
          (o := some (newCredential g.credential x.connectorType stored)) with ⟨⟨hn, hid⟩, row, t, hr⟩ | ⟨hno, t, hr⟩
        · exact Or.inl ⟨⟨fun _ => ⟨hkey, hf⟩, hn, hid⟩, row, t, hr⟩
        · exact Or.inr ⟨fun h => hno ⟨h.name, h.id⟩, _, t, hr, rfl⟩
      · rw [bind_error (storePayload_taken hg he hf)]
        exact Or.inr ⟨fun h => hf (h.credential hgiven).2, _, _, rfl, rfl⟩

lemma storeRows_raises : Raises (declared · = true) (storeRows E g x (.open d)).1 ↔ Storable E g x d := by
  rcases storeRows_cases (E := E) (g := g) (d := d) (x := x) with ⟨hs, row, t, hr⟩ | ⟨hs, err, t, hr, hd⟩
  · rw [hr]
    exact iff_of_true (.ok row) hs
  · rw [hr]
    refine iff_of_false (fun h => ?_) hs
    exact Bool.false_ne_true (hd.symm.trans (h err rfl))

def instantiateAndStore (P : Python) (E : Encryption) (g : Generated) (x : CreateConnectorRequest)
    (cls : ConnectorType) : Tx Platform ConnectorFailure Connector := do
  let tempInstance ← ofExcept (cls.construct P (x.baseOf g))
  ofExcept tempInstance.validateConfig
  storeRows E g x

lemma manage_eq : x.manage P E g =
    (ofExcept (ConnectorRegistry.get x.connectorType) >>= instantiateAndStore P E g x) := by
  unfold CreateConnectorRequest.manage createConnector instantiateAndStore storeRows
    CreateConnectorRequest.baseOf
  rfl

lemma validated_raises : Raises (declared · = true) ((do
      ofExcept i.validateConfig
      storeRows E g x : Tx Platform ConnectorFailure Connector) (.open d)).1 ↔
    (i.validateConfig = .ok () → Storable E g x d) := by
  rw [Raises.ofExcept_bind_iff, storeRows_raises]
  constructor
  · rintro ⟨-, h⟩
    exact h ()
  · intro h
    exact ⟨fun err he => validateConfig_error he, fun _ => h⟩

lemma instantiated_raises : Raises (declared · = true) (instantiateAndStore P E g x cls (.open d)).1 ↔
    cls.Converts x.configuration ∧ (cls.Accepts x.configuration → Storable E g x d) := by
  obtain ⟨o, hb⟩ : ∃ o, (x.baseOf g).credentials = .object o := orEmpty_object x.secretPayload
  have ha : (∃ i, cls.construct P (x.baseOf g) = .ok i ∧ i.validateConfig = .ok ()) ↔
    cls.Accepts x.configuration := construct_ok hb
  rw [instantiateAndStore, Raises.ofExcept_bind_iff]
  rcases construct_cases P cls hb with ⟨hc, i, hi⟩ | ⟨hc, message, he⟩
  · rw [hi] at ha ⊢
    constructor
    · rintro ⟨-, h⟩
      refine ⟨hc, fun hacc => ?_⟩
      obtain ⟨j, hj, hv⟩ := ha.mpr hacc
      cases hj
      exact validated_raises.mp (h i rfl) hv
    · rintro ⟨-, h⟩
      refine ⟨.ok i, fun j hj => ?_⟩
      cases hj
      exact validated_raises.mpr fun hv => h (ha.mp ⟨i, rfl, hv⟩)
  · rw [he]
    refine iff_of_false (fun h => ?_) fun h => hc h.1
    exact Bool.false_ne_true (h.1 _ rfl)

lemma manage_raises : Raises (declared · = true) (x.manage P E g (.open d)).1 ↔
    ∀ cls, ConnectorRegistry.get x.connectorType = .ok cls →
      cls.Converts x.configuration ∧ (cls.Accepts x.configuration → Storable E g x d) := by
  rw [manage_eq, Raises.ofExcept_bind_iff]
  constructor
  · rintro ⟨-, h⟩ cls hc
    exact instantiated_raises.mp (h cls hc)
  · intro h
    exact ⟨fun err he => registry_error he, fun cls hc => instantiated_raises.mpr (h cls hc)⟩

lemma manage_returns (hc : ConnectorRegistry.get x.connectorType = .ok cls) (ha : cls.Accepts x.configuration)
    (hs : Storable E g x d) : ∃ row t, x.manage P E g (.open d) = (.ok row, t) := by
  obtain ⟨o, hb⟩ : ∃ o, (x.baseOf g).credentials = .object o := orEmpty_object x.secretPayload
  obtain ⟨i, hi, hv⟩ := (construct_ok (P := P) hb).mpr ha
  have hcls : (ofExcept (ConnectorRegistry.get x.connectorType) : Tx Platform ConnectorFailure _) (.open d) =
      (.ok cls, .open d) := by
    rw [hc]
    rfl
  have hinst : (ofExcept (cls.construct P (x.baseOf g)) : Tx Platform ConnectorFailure _) (.open d) =
      (.ok i, .open d) := by
    rw [hi]
    rfl
  have hval : (ofExcept i.validateConfig : Tx Platform ConnectorFailure _) (.open d) = (.ok (), .open d) := by
    rw [hv]
    rfl
  rw [manage_eq, bind_ok hcls, instantiateAndStore, bind_ok hinst, bind_ok hval]
  rcases storeRows_cases (E := E) (g := g) (d := d) (x := x) with ⟨-, hr⟩ | ⟨hno, -⟩
  · exact hr
  · exact absurd hs hno

lemma manage_cases :
    Raised d (x.manage P E g (.open d)) ∨
      (∃ cls, ConnectorRegistry.get x.connectorType = .ok cls ∧ cls.Accepts x.configuration) ∧
        ∃ row d', x.manage P E g (.open d) = (.ok row, ⟨d, d'⟩) ∧ StoresNew x d d' row := by
  rcases (createConnector_outcome : Raised d (x.manage P E g (.open d)) ∨ _) with hr | ⟨hc, o, ho, -, he⟩
  · exact Or.inl hr
  obtain ⟨cls, i, hcls, hi, hv⟩ := hc
  obtain ⟨b, hb⟩ : ∃ o, (x.baseOf g).credentials = .object o := orEmpty_object x.secretPayload
  refine Or.inr ⟨⟨cls, hcls, (construct_ok (P := P) hb).mp ⟨i, hi, hv⟩⟩, _, _, he, ?_⟩
  constructor
  · change (withCredential o d).connectors ++ [_] = _
    rw [withCredential_connectors]
  · change if givenPayload x.secretPayload = none then (withCredential o d).credentials = _ ∧ _
      else ∃ c, (withCredential o d).credentials = _ ∧ _
    cases o with
    | none =>
      have hn : givenPayload x.secretPayload = none := ho
      rw [if_pos hn]
      exact ⟨rfl, rfl⟩
    | some c =>
      obtain ⟨payload, hp, -⟩ := ho
      rw [if_neg (by simp [hp])]
      exact ⟨c, rfl, rfl⟩

lemma manage_committed : (x.manage P E g (.open d)).2.committed = d := by
  rcases manage_cases (P := P) (E := E) (g := g) (d := d) (x := x) with ⟨err, s, he, hs⟩ | ⟨-, row, d', he, -⟩
  · rw [he]
    exact hs
  · rw [he]

variable {takes : CreateConnectorRequest → Bool}

lemma failsCleanly_iff :
    FailsCleanly x d (x.create takes P E g d) ↔ Declares declared d (x.create takes P E g d) := by
  constructor
  · rintro (⟨row, hr, -⟩ | h)
    · exact Or.inl ⟨row, hr⟩
    · exact Or.inr h
  · rintro (⟨row, hr⟩ | h)
    · refine Or.inl ⟨row, hr, ?_⟩
      obtain ⟨s, hs, hd⟩ := storing_ok hr
      rcases manage_cases (P := P) (E := E) (g := g) (d := d) (x := x) with ⟨err, t, he, -⟩ | ⟨-, row', d', he, hn⟩
      · cases hs.symm.trans he
      · cases hs.symm.trans he
        change StoresNew x d (storing _ d (request d (x.manage P E g))).2 row
        rw [hd]
        exact hn
    · exact Or.inr h

/-- A creation fails cleanly exactly if the port is one that `int` takes and, for a configuration that the
class accepts, nothing is in the way of the rows. -/
theorem connector_creation_iff (takes : CreateConnectorRequest → Bool) (P : Python) (E : Encryption)
    (g : Generated) (x : CreateConnectorRequest) (d : Platform) :
    FailsCleanly x d (x.create takes P E g d) ↔
      ∀ cls, ConnectorRegistry.get x.connectorType = .ok cls →
        cls.Converts x.configuration ∧
          (cls.Accepts x.configuration → Storable E g x d ∧ takes x = true) := by
  rw [failsCleanly_iff, CreateConnectorRequest.create, storing_declares manage_committed, manage_raises]
  constructor
  · rintro ⟨hr, ht⟩ cls hcls
    obtain ⟨hc, hs⟩ := hr cls hcls
    refine ⟨hc, fun ha => ⟨hs ha, ?_⟩⟩
    obtain ⟨row, t, hrow⟩ := manage_returns (P := P) hcls ha (hs ha)
    exact ht row t hrow
  · intro h
    refine ⟨fun cls hcls => ⟨(h cls hcls).1, fun ha => ((h cls hcls).2 ha).1⟩, fun row s hs => ?_⟩
    rcases manage_cases (P := P) (E := E) (g := g) (d := d) (x := x) with ⟨err, t, he, -⟩ | ⟨⟨cls, hcls, ha⟩, -⟩
    · cases hs.symm.trans he
    · exact ((h cls hcls).2 ha).2

def salesRequest (port : JsonValue) : CreateConnectorRequest :=
  ⟨"sales", "PostgreSQL", "relational",
    .cons "host" (.string "db") (.cons "port" port (.cons "database" (.string "sales") .nil)), none⟩

def undeclared : Except (Refusal ConnectorFailure) Connector → Bool
  | .ok _ => false
  | .error (.raised err) => !declared err
  | .error .dataError => true

lemma not_failsCleanly {r : Except (Refusal ConnectorFailure) Connector × Platform}
    (h : undeclared r.1 = true) : ¬ FailsCleanly x d r := by
  rintro (⟨row, hr, -⟩ | ⟨err, he, hd, -⟩)
  · rw [hr] at h
    cases h
  · rw [he, undeclared, hd] at h
    cases h

/-- `int(None)` raises before `validate_config` looks at the port, and a name that is taken is left to the
unique constraint. -/
theorem creation_errors :
    ¬ FailsCleanly (salesRequest .null) (withoutConnectors .empty)
        ((salesRequest .null).create (fun _ => true) plainPython plainText (generated 10)
          (withoutConnectors .empty)) ∧
      ¬ FailsCleanly (salesRequest (.int 5432))
        ((createSales none).perform plainPython (withoutConnectors .empty))
        ((salesRequest (.int 5432)).create (fun _ => true) plainPython plainText (generated 20)
          ((createSales none).perform plainPython (withoutConnectors .empty))) := by
  constructor
  · apply not_failsCleanly
    decide +kernel
  · apply not_failsCleanly
    decide +kernel

end NotebookExecution.Connectors
