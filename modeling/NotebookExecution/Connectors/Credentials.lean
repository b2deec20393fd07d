import NotebookExecution.Connectors.Models
import NotebookExecution.Library.Transaction

/-! Encryption of payloads at rest, and the credentials stored under it. -/

namespace NotebookExecution.Connectors

open Library.Json Library.Text Library.Transaction Library.Table Store

/-- The library's Fernet. `refuses` is the exception of its constructor on a key that is none; a token
is made of a key, a nonce (time and initial vector) and a plaintext, which is given here as the document
that `json.dumps` writes and `json.loads` reads back. `decrypt` answers `none` for an invalid token. -/
structure Fernet where
  refuses : String → Option String
  encrypt : String → ℕ → JsonFields → String
  decrypt : String → String → Option JsonValue

/-- A key opens the tokens it has made, and of another key's tokens either all or none. -/
structure Fernet.Lawful (F : Fernet) : Prop where
  opens : ∀ key nonce payload, F.refuses key = none →
    F.decrypt key (F.encrypt key nonce payload) = some (.object payload)
  opensAlike : ∀ key other, (∀ nonce payload, F.decrypt other (F.encrypt key nonce payload) =
      some (.object payload)) ∨ ∀ nonce payload, F.decrypt other (F.encrypt key nonce payload) = none

structure Encryption where
  fernet : Fernet
  credentialEncryptionKey : String

namespace Encryption

variable (E : Encryption)

def getFernet : Except ConnectorFailure (Option String) :=
  let key := strip E.credentialEncryptionKey
  if key = "" then .ok none
  else
    match E.fernet.refuses key with
    | some message => .error (.raised message)
    | none => .ok (some key)

def envelope (encrypted : Bool) (data : JsonValue) : JsonFields :=
  .cons "_enc" (.bool encrypted) (.cons "_data" data .nil)

def encryptPayload (nonce : ℕ) (payload : JsonFields) : Except ConnectorFailure JsonFields := do
  match ← E.getFernet with
  | none => pure (envelope false (.object payload))
  | some key => pure (envelope true (.string (E.fernet.encrypt key nonce payload)))

def decryptPayload (stored : JsonFields) : Except ConnectorFailure JsonValue :=
  match stored.get "_enc" with
  | none => .ok (.object stored)
  | some encrypted =>
    if !truth encrypted then .ok ((stored.get "_data").getD (.object .nil))
    else do
      match ← E.getFernet with
      | none => pure (.object .nil)
      | some key =>
        match stored.get "_data" with
        | none => pure (.object .nil)
        | some (.string token) => pure ((E.fernet.decrypt key token).getD (.object .nil))
        | some v => throw (.raised ("'" ++ typeName v ++ "' object has no attribute 'encode'"))

end Encryption

section Envelope

variable {E : Encryption} {stored payload : JsonFields} {nonce : ℕ} {key : String}

lemma getFernet_key (h : E.getFernet = .ok (some key)) : E.fernet.refuses key = none := by
  rw [Encryption.getFernet] at h
  split at h
  · cases h
  · cases hr : E.fernet.refuses (strip E.credentialEncryptionKey) with
    | some message =>
      rw [hr] at h
      cases h
    | none =>
      rw [hr] at h
      cases h
      exact hr

lemma encryptPayload_usable :
    (∃ stored, E.encryptPayload nonce payload = .ok stored) ↔ ∃ key, E.getFernet = .ok key := by
  rw [Encryption.encryptPayload]
  cases E.getFernet with
  | error err =>
    constructor
    · rintro ⟨stored, h⟩
      cases h
    · rintro ⟨key, h⟩
      cases h
  | ok key => cases key <;> exact ⟨fun _ => ⟨_, rfl⟩, fun _ => ⟨_, rfl⟩⟩

lemma encryptPayload_error {err : ConnectorFailure} (h : E.encryptPayload nonce payload = .error err) :
    ∃ message, err = .raised message := by
  rw [Encryption.encryptPayload, Encryption.getFernet] at h
  by_cases hk : strip E.credentialEncryptionKey = ""
  · simp only [if_pos hk] at h
    cases h
  · simp only [if_neg hk] at h
    cases hr : E.fernet.refuses (strip E.credentialEncryptionKey) with
    | none =>
      rw [hr] at h
      cases h
    | some message =>
      rw [hr] at h
      cases h
      exact ⟨message, rfl⟩

lemma encryptPayload_cases (h : E.encryptPayload nonce payload = .ok stored) :
    (E.getFernet = .ok none ∧ stored = Encryption.envelope false (.object payload)) ∨
      ∃ key, E.getFernet = .ok (some key) ∧
        stored = Encryption.envelope true (.string (E.fernet.encrypt key nonce payload)) := by
  rw [Encryption.encryptPayload] at h
  cases hk : E.getFernet with
  | error err =>
    rw [hk] at h
    cases h
  | ok o =>
    rw [hk] at h
    cases o with
    | none =>
      cases h
      exact Or.inl ⟨rfl, rfl⟩
    | some key =>
      cases h
      exact Or.inr ⟨key, rfl, rfl⟩

lemma decrypt_plain {v : JsonValue} : E.decryptPayload (Encryption.envelope false v) = .ok v := rfl

lemma decrypt_token {token : String} : E.decryptPayload (Encryption.envelope true (.string token)) =
    E.getFernet.map fun o => o.elim (.object .nil) fun key => (E.fernet.decrypt key token).getD (.object .nil) := by
  change (E.getFernet >>= fun _ => _) = _
  cases E.getFernet with
  | error err => rfl
  | ok o => cases o <;> rfl

theorem decrypt_encrypt (hE : E.fernet.Lawful) (h : E.encryptPayload nonce payload = .ok stored) :
    E.decryptPayload stored = .ok (.object payload) := by
  rcases encryptPayload_cases h with ⟨-, rfl⟩ | ⟨key, hk, rfl⟩
  · exact decrypt_plain
  · rw [decrypt_token, hk, Except.map, Option.elim_some, hE.opens key nonce payload (getFernet_key hk),
      Option.getD_some]

end Envelope

def credentialClash (d : Platform) (x : Credential) : Bool :=
  d.credentials.any fun y => y.id ≠ x.id ∧ y.credentialId = x.credentialId

namespace CredentialRepository

def create (e : Env) (credentialId credentialType : String) (encryptedPayload : JsonFields) :
    Tx Platform ConnectorFailure Credential :=
  credentialTable.insert credentialClash .integrityError
    ⟨e.uuid, credentialId, credentialType, encryptedPayload, e.now, e.now⟩

def named (credentialId : String) (d : Platform) : Option Credential :=
  d.credentials.find? fun x => x.credentialId = credentialId

def getByCredentialId (credentialId : String) : Tx Platform ConnectorFailure (Option Credential) := do
  let d ← read
  pure (named credentialId d)

def delete (credentialId : String) : Tx Platform ConnectorFailure Bool := do
  match ← getByCredentialId credentialId with
  | none => pure false
  | some cred => credentialTable.delete cred.id id

end CredentialRepository

namespace CredentialManager

/-- What one call finds generated: the key and the clock of the row, the uuid of a new identifier and
the nonce of the token. -/
structure Generated where
  row : Env
  uuid : Uuid
  nonce : ℕ

def newCredentialId (g : Generated) : String := "cred-" ++ toString g.uuid

def createCredential (E : Encryption) (g : Generated) (credentialType : String) (secretPayload : JsonFields)
    (credentialId : Option String) : Tx Platform ConnectorFailure Credential := do
  let encryptedPayload ← ofExcept (E.encryptPayload g.nonce secretPayload)
  CredentialRepository.create g.row (credentialId.getD (newCredentialId g)) credentialType encryptedPayload

def resolveCredential (E : Encryption) (credentialId : String) :
    Tx Platform ConnectorFailure (Option JsonValue) := do
  match ← CredentialRepository.getByCredentialId credentialId with
  | none => pure none
  | some cred => some <$> ofExcept (E.decryptPayload cred.encryptedPayload)

end CredentialManager

end NotebookExecution.Connectors
