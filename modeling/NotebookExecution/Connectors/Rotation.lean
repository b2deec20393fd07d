import NotebookExecution.Connectors.Ownership
import NotebookExecution.Library.Refusal

/-! What an update does with a secret, for connectors with and without one. `takes` says of a stored
payload whether its column takes it and gives it back as it is: a JSONB column refuses the character
U+0000 and keeps some numbers as others, and without a key the payload lies open in it. -/

namespace NotebookExecution.Connectors

open Library.Runs Library.Json Library.Transaction Library.Table Store ConnectorManager ConnectorRepository

variable {P : Python} {E : Encryption} {takes : JsonFields → Bool} {g : Generated} {d : Platform} {x : Connector}
  {payload stored : JsonFields} {secretPayload : Option JsonFields}

def resolved (E : Encryption) (d : Platform) (credentialId : String) :
    Except ConnectorFailure (Option JsonValue) :=
  (CredentialManager.resolveCredential E credentialId (.open d)).1

lemma resolved_eq (d : Platform) (c : String) :
    resolved E d c = (CredentialRepository.named c d).elim (.ok none)
      fun cred => (E.decryptPayload cred.encryptedPayload).map some := by
  have hg : CredentialRepository.getByCredentialId c (.open d) =
    (.ok (CredentialRepository.named c d), .open d) := rfl
  rw [resolved, CredentialManager.resolveCredential, bind_ok hg]
  cases CredentialRepository.named c d with
  | none => rfl
  | some cred =>
    dsimp only
    rw [Option.elim_some]
    cases E.decryptPayload cred.encryptedPayload <;> rfl

lemma resolved_put (k : Uuid) (r : Connector) (c : String) :
    resolved E (connectorTable.put k r d) c = resolved E d c := by
  rw [resolved_eq, resolved_eq]
  rfl

lemma named_append {c : String} {cred new : Credential} (h : CredentialRepository.named c d = some cred) :
    CredentialRepository.named c (credentialTable.append new d) = some cred := by
  change (d.credentials ++ [new]).find? _ = some cred
  rw [CredentialRepository.named] at h
  rw [List.find?_append, h]
  rfl

lemma named_new {new : Credential} (h : ∀ y ∈ d.credentials, y.credentialId ≠ new.credentialId) :
    CredentialRepository.named new.credentialId (credentialTable.append new d) = some new := by
  change (d.credentials ++ [new]).find? _ = some new
  have hn : d.credentials.find? (fun x => x.credentialId = new.credentialId) = none := by
    rw [List.find?_eq_none]
    intro y hy
    simpa using h y hy
  rw [List.find?_append, hn]
  simp

/-! ## Replacing a secret -/

def Taken (takes : JsonFields → Bool) (d t : Platform) : Bool :=
  t.credentials.all fun c => c ∈ d.credentials ∨ takes c.encryptedPayload

def rotate (takes : JsonFields → Bool) (E : Encryption) (g : Generated) (d : Platform) (k : Uuid)
    (payload : JsonFields) : Except (Refusal ConnectorFailure) (Option Connector) × Platform :=
  let r := request d (ConnectorManager.updateConnector E g k none none (some payload))
  storing (fun _ => Taken takes d r.2) d r

def Rotates (takes : JsonFields → Bool) (E : Encryption) (g : Generated) (d : Platform) (x : Connector)
    (payload : JsonFields) : Prop :=
  ∃ r t c, rotate takes E g d x.id payload = (.ok (some r), t) ∧ connectorTable.find x.id t = some r ∧
    r.credentialId = some c ∧ resolved E t c = .ok (some (.object payload)) ∧
    ∀ y ∈ d.connectors, y.id ≠ x.id → y ∈ t.connectors ∧
      ∀ c', y.credentialId = some c' → resolved E t c' = resolved E d c'

def Fresh (g : CredentialManager.Generated) (d : Platform) : Prop :=
  ∀ y ∈ d.credentials, y.id ≠ g.row.uuid ∧ y.credentialId ≠ CredentialManager.newCredentialId g

instance (g : CredentialManager.Generated) (d : Platform) : Decidable (Fresh g d) :=
  inferInstanceAs (Decidable (∀ y ∈ d.credentials, _ ∧ _))

lemma fresh_free (h : Fresh g.credential d) {c : Credential} (hid : c.id = g.credential.row.uuid)
    (hc : c.credentialId = CredentialManager.newCredentialId g.credential) :
    credentialTable.occupied credentialClash c d = false := by
  have hf : credentialTable.find c.id d = none := lookup_none.mpr fun y hy => hid ▸ (h y hy).1
  have hcl : credentialClash d c = false := by
    apply List.any_eq_false.mpr
    intro y hy
    rw [hc]
    simp [(h y hy).2]
  exact credentialTable.occupied_eq_false.mpr ⟨hf, hcl⟩

lemma givenPayload_some (hp : payload ≠ .nil) : givenPayload (some payload) = some payload := by
  rw [givenPayload, Option.filter_some, if_pos (by simpa using hp)]

def newCredential (g : CredentialManager.Generated) (credentialType : String) (stored : JsonFields) :
    Credential :=
  ⟨g.row.uuid, CredentialManager.newCredentialId g, credentialType, stored, g.row.now, g.row.now⟩

lemma storePayload_fresh {connectorType : String} (hp : payload ≠ .nil) (h : Fresh g.credential d)
    (hs : E.encryptPayload g.credential.nonce payload = .ok stored) :
    storePayload E g connectorType (some payload) none (.open d) =
      (.ok (some (CredentialManager.newCredentialId g.credential)),
        ⟨d, credentialTable.append (newCredential g.credential connectorType stored) d⟩) := by
  have hc : CredentialManager.createCredential E g.credential connectorType payload none (.open d) =
      (.ok (newCredential g.credential connectorType stored),
        ⟨d, credentialTable.append (newCredential g.credential connectorType stored) d⟩) := by
    have ho : (ofExcept (.ok stored) : Tx Platform ConnectorFailure JsonFields) (.open d) =
      (.ok stored, .open d) := rfl
    rw [CredentialManager.createCredential, hs, bind_ok ho]
    exact credentialTable.insert_accepted (fresh_free h rfl rfl)
  rw [storePayload, givenPayload_some hp]
  exact bind_ok hc

lemma rotate_returns {o : Option Connector} {s : Session Platform}
    (h : ConnectorManager.updateConnector E g x.id none none (some payload) (.open d) = (.ok o, s)) :
    rotate takes E g d x.id payload =
      if Taken takes d s.view then (.ok o, s.view) else (.error .dataError, d) := by
  rw [rotate, request_returns h, storing]

lemma taken_append {new : Credential} {k : Uuid} {r : Connector} (h : ∀ y ∈ d.credentials, y.id ≠ new.id) :
    Taken takes d (connectorTable.put k r (credentialTable.append new d)) = takes new.encryptedPayload := by
  have hnew : new ∉ d.credentials := fun hm => h new hm rfl
  change (d.credentials ++ [new]).all _ = _
  rw [List.all_append, List.all_eq_true.mpr fun c hc => decide_eq_true (Or.inl hc)]
  simp [hnew]

lemma rotate_first (h : Coherent d) (hx : x ∈ d.connectors) (hn : x.credentialId = none) (hp : payload ≠ .nil)
    (hf : Fresh g.credential d) (hs : E.encryptPayload g.credential.nonce payload = .ok stored)
    (ht : takes stored = true) :
    ∃ r, r.id = x.id ∧ r.credentialId = some (CredentialManager.newCredentialId g.credential) ∧
      rotate takes E g d x.id payload = (.ok (some r), connectorTable.put x.id r
        (credentialTable.append (newCredential g.credential x.connectorType stored) d)) := by
  have hfind : connectorTable.find x.id d = some x := lookup_of_mem h.connectorIds hx
  refine ⟨updatedRow g (updateOf none none (some (newCredential g.credential x.connectorType stored)) x) x,
    updatedRow_field Connector.id fun _ => rfl, updatedRow_field Connector.credentialId fun _ => rfl, ?_⟩
  have hc : connectorClash (withCredential (some (newCredential g.credential x.connectorType stored)) d)
      (stamp g.connector.now (assign (updateOf none none (some (newCredential g.credential x.connectorType
        stored)) x) x)) = false := connectorClash_kept h.names hx rfl rfl _
  have hu := updateConnector_stored hfind (hn ▸ storePayload_fresh hp hf hs) hc
  rw [rotate_returns hu]
  exact if_pos ((taken_append fun y hy => (hf y hy).1).trans ht)

lemma rotates_first (hE : E.fernet.Lawful) (h : Coherent d) (hx : x ∈ d.connectors)
    (hn : x.credentialId = none) (hp : payload ≠ .nil) (hf : Fresh g.credential d)
    (hs : E.encryptPayload g.credential.nonce payload = .ok stored) (ht : takes stored = true) :
    Rotates takes E g d x payload := by
  obtain ⟨r, hid, hc, hr⟩ := rotate_first h hx hn hp hf hs ht
  have hfind : connectorTable.find x.id d = some x := lookup_of_mem h.connectorIds hx
  have hno : ∀ y ∈ d.credentials,
      y.credentialId ≠ (newCredential g.credential x.connectorType stored).credentialId :=
    fun y hy => (hf y hy).2
  have hnew : CredentialRepository.named (CredentialManager.newCredentialId g.credential)
      (credentialTable.append (newCredential g.credential x.connectorType stored) d) =
      some (newCredential g.credential x.connectorType stored) := named_new hno
  refine ⟨r, _, _, hr, ?_, hc, ?_, fun y hy hne => ⟨?_, fun c' hc' => ?_⟩⟩
  · exact connectorTable.find_put_self hid hfind
  · rw [resolved_put, resolved_eq, hnew, Option.elim_some]
    change (E.decryptPayload stored).map some = _
    rw [decrypt_encrypt hE hs]
    rfl
  · change y ∈ replace Connector.id x.id r d.connectors
    have hm : y = x ∨ y ∈ replace Connector.id x.id r d.connectors := mem_replace_of_mem hfind hy
    exact hm.resolve_left fun he => hne (congrArg Connector.id he)
  · obtain ⟨cred, hcred, -, -⟩ := named_stored h hy hc'
    rw [resolved_put, resolved_eq, resolved_eq, hcred, named_append hcred]

lemma Provides.fresh (h : Coherent d) (hx : x ∈ d.connectors) {c : Credential}
    (ho : Provides E g.credential secretPayload x.credentialId d (some c)) :
    x.credentialId = none ∧ (∃ key, E.getFernet = .ok key) ∧ Fresh g.credential d := by
  have hn : x.credentialId = none := h.provides_new hx ho
  obtain ⟨hid, hcid⟩ := ho.free
  obtain ⟨payload, -, hs, hcred⟩ := ho
  rw [hn, Option.getD_none] at hcred
  exact ⟨hn, encryptPayload_usable.mp ⟨_, hs.payload⟩, fun z hz => ⟨hs.id ▸ hid z hz, hcred ▸ hcid z hz⟩⟩

lemma rotates_inv (h : Coherent d) (hx : x ∈ d.connectors) (hp : payload ≠ .nil)
    (hr : Rotates takes E g d x payload) :
    x.credentialId = none ∧ (∃ key, E.getFernet = .ok key) ∧ Fresh g.credential d ∧
      ∀ stored, E.encryptPayload g.credential.nonce payload = .ok stored → takes stored = true := by
  obtain ⟨r, t, c, hrot, -⟩ := hr
  rcases (updateConnector_outcome h.names : Raised d (ConnectorManager.updateConnector E g x.id none none
    (some payload) (.open d)) ∨ _) with ⟨err, s, he, hc⟩ | ⟨y, hy, o, ho, -, hok⟩
  · rw [rotate, request_raises he hc] at hrot
    cases hrot
  · have hxy : y = x := by
      have hfind : connectorTable.find x.id d = some x := lookup_of_mem h.connectorIds hx
      exact Option.some_inj.mp (hy.symm.trans hfind)
    rw [hxy] at ho
    cases o with
    | none =>
      change givenPayload (some payload) = none at ho
      rw [givenPayload_some hp] at ho
      cases ho
    | some cred =>
      obtain ⟨hn, hk, hf⟩ := ho.fresh h hx
      obtain ⟨p, hgiven, hs, -⟩ := ho
      rw [givenPayload_some hp] at hgiven
      obtain rfl := Option.some_inj.mp hgiven
      refine ⟨hn, hk, hf, fun stored hstored => ?_⟩
      obtain rfl := Except.ok.inj (hs.payload.symm.trans hstored)
      have htaken : Taken takes d (connectorTable.put x.id (updatedRow g (updateOf none none (some cred) y) y)
          (withCredential (some cred) d)) = takes cred.encryptedPayload :=
        taken_append fun z hz => hs.id ▸ (hf z hz).1
      rw [rotate_returns hok] at hrot
      by_contra ht
      rw [if_neg (htaken ▸ ht)] at hrot
      cases hrot

theorem rotation_iff (takes : JsonFields → Bool) (P : Python) (store : Database) (calls : List ConnectorCall)
    (E : Encryption) (g : Generated) (payload : JsonFields) {s : Platform} {x : Connector}
    (hE : E.fernet.Lawful) (hs : exec (connectorStep P) (withoutConnectors store) calls = some s)
    (hx : x ∈ s.connectors) (hp : payload ≠ .nil) :
    Rotates takes E g s x payload ↔
      x.credentialId = none ∧ (∃ key, E.getFernet = .ok key) ∧ Fresh g.credential s ∧
        ∀ stored, E.encryptPayload g.credential.nonce payload = .ok stored → takes stored = true := by
  have h : Coherent s := coherent_reached hs
  constructor
  · intro hr
    exact rotates_inv h hx hp hr
  · rintro ⟨hn, hk, hf, ht⟩
    obtain ⟨stored, hstored⟩ := encryptPayload_usable.mpr hk
    exact rotates_first hE h hx hn hp hf hstored (ht stored hstored)

def plainPython : Python where
  str
    | .string s => s
    | .int n => toString n
    | v => typeName v
  repr s := "'" ++ s ++ "'"

def plainText : Encryption where
  fernet := ⟨fun _ => some "Fernet key must be 32 url-safe base64-encoded bytes.", fun _ _ _ => "", fun _ _ => none⟩
  credentialEncryptionKey := ""

lemma plainText_lawful : plainText.fernet.Lawful where
  opens _ _ _ h := by cases h
  opensAlike _ _ := Or.inr fun _ _ => rfl

def serverConfig : JsonFields :=
  .cons "host" (.string "db") (.cons "port" (.int 5432) (.cons "database" (.string "sales") .nil))

def password (text : String) : JsonFields := .cons "password" (.string text) .nil

def generated (n : ℕ) : Generated := ⟨n, ⟨⟨n + 1, 0⟩, n + 2, 0⟩, ⟨n + 3, 0⟩⟩

def createSales (secretPayload : Option JsonFields) : ConnectorCall :=
  .createConnector plainText (generated 10) "sales" "PostgreSQL" "relational" serverConfig secretPayload

def salesRow (credentialId : Option String) : Connector :=
  ⟨13, "sales", "postgresql", "RELATIONAL", serverConfig, credentialId, .created, 0, 0⟩

theorem rotation_iff_first :
    Rotates (fun _ => true) plainText (generated 20)
      ((createSales none).perform plainPython (withoutConnectors .empty)) (salesRow none) (password "a") := by
  have hx : salesRow none ∈ ((createSales none).perform plainPython (withoutConnectors .empty)).connectors := by
    decide +kernel
  have hf : Fresh (generated 20).credential ((createSales none).perform plainPython (withoutConnectors .empty)) := by
    decide +kernel
  exact (rotation_iff (fun _ => true) plainPython .empty [createSales none] plainText (generated 20)
    (password "a") plainText_lawful rfl hx (by decide)).mpr ⟨rfl, ⟨none, rfl⟩, hf, fun _ _ => rfl⟩

theorem second_secret_refused : ¬ ∀ (takes : JsonFields → Bool) (P : Python) (store : Database)
    (calls : List ConnectorCall) (E : Encryption) (g : Generated) (payload : JsonFields) (s : Platform)
    (x : Connector), E.fernet.Lawful → (∃ key, E.getFernet = .ok key) → Fresh g.credential s →
      (∀ stored, takes stored = true) →
      exec (connectorStep P) (withoutConnectors store) calls = some s → x ∈ s.connectors →
      payload ≠ .nil → Rotates takes E g s x payload := by
  intro h
  have hx : salesRow (some "cred-12") ∈
      ((createSales (some (password "a"))).perform plainPython (withoutConnectors .empty)).connectors := by
    decide +kernel
  have hf : Fresh (generated 20).credential
      ((createSales (some (password "a"))).perform plainPython (withoutConnectors .empty)) := by
    decide +kernel
  have hr := h (fun _ => true) plainPython .empty [createSales (some (password "a"))] plainText (generated 20)
    (password "b") _ _ plainText_lawful ⟨none, rfl⟩ hf (fun _ => rfl) rfl hx (by decide)
  obtain ⟨r, t, c, hrot, -⟩ := hr
  have he : (rotate (fun _ => true) plainText (generated 20)
      ((createSales (some (password "a"))).perform plainPython (withoutConnectors .empty)) 13
      (password "b")).1.toBool = false := by decide +kernel
  have hok := congrArg (fun o => o.1.toBool) hrot
  exact Bool.false_ne_true (he.symm.trans hok)

end NotebookExecution.Connectors
