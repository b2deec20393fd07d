import NotebookExecution.Connectors.Credentials

/-! What is read back of an encrypted payload, under the settings at its writing and at its reading. -/

namespace NotebookExecution.Connectors

open Library.Json Library.Text

/-- Fernet as the library has it, on texts. `decrypt` answers `none` where it raises InvalidToken. -/
structure Cipher where
  refuses : String → Option String
  encrypt : String → ℕ → String → String
  decrypt : String → String → Option String

/-- `json.dumps` without blanks, and `json.loads`, which answers `none` where it raises JSONDecodeError. -/
structure JsonText where
  dumps : JsonFields → String
  loads : String → Option JsonValue

/-- `decrypt_payload` answers an empty object for both errors. -/
def Cipher.fernet (C : Cipher) (J : JsonText) : Fernet where
  refuses := C.refuses
  encrypt key nonce payload := C.encrypt key nonce (J.dumps payload)
  decrypt key token := (C.decrypt key token).bind J.loads

variable {F : Fernet} {C : Cipher} {J : JsonText} {κ : Type} {keyOf : String → κ} {w r : String} {nonce : ℕ}
  {payload : JsonFields}

/-- Several texts may be the same key. A key opens the tokens made under it, and no other key does. -/
structure Cipher.Keyed (C : Cipher) (keyOf : String → κ) (nonce : ℕ) (text : String) : Prop where
  opens : ∀ key other, C.refuses key = none → C.refuses other = none → keyOf key = keyOf other →
    C.decrypt other (C.encrypt key nonce text) = some text
  rejects : ∀ key other, C.refuses key = none → C.refuses other = none → keyOf key ≠ keyOf other →
    C.decrypt other (C.encrypt key nonce text) = none

lemma fernet_opens (h : C.Keyed keyOf nonce (J.dumps payload))
    (hj : J.loads (J.dumps payload) = some (.object payload)) {key other : String}
    (hkey : C.refuses key = none) (hother : C.refuses other = none) (he : keyOf key = keyOf other) :
    (C.fernet J).decrypt other ((C.fernet J).encrypt key nonce payload) = some (.object payload) := by
  change (C.decrypt other (C.encrypt key nonce (J.dumps payload))).bind J.loads = _
  rw [h.opens key other hkey hother he, Option.bind_some, hj]

lemma fernet_rejects (h : C.Keyed keyOf nonce (J.dumps payload)) {key other : String}
    (hkey : C.refuses key = none) (hother : C.refuses other = none) (hne : keyOf key ≠ keyOf other) :
    (C.fernet J).decrypt other ((C.fernet J).encrypt key nonce payload) = none := by
  change (C.decrypt other (C.encrypt key nonce (J.dumps payload))).bind J.loads = _
  rw [h.rejects key other hkey hother hne, Option.bind_none]

def Unset (setting : String) : Prop := strip setting = ""

structure Fernet.ValidKey (F : Fernet) (setting : String) : Prop where
  set : strip setting ≠ ""
  taken : F.refuses (strip setting) = none

lemma getFernet_unset (h : Unset w) : (⟨F, w⟩ : Encryption).getFernet = .ok none := by
  rw [Encryption.getFernet]
  exact if_pos h

lemma getFernet_valid (h : F.ValidKey w) : (⟨F, w⟩ : Encryption).getFernet = .ok (some (strip w)) := by
  have hset : ¬ strip (⟨F, w⟩ : Encryption).credentialEncryptionKey = "" := h.set
  rw [Encryption.getFernet]
  simp only [if_neg hset, h.taken]

/-- The payload as it is read under `r` when it was written under `w`. -/
def reread (F : Fernet) (w r : String) (nonce : ℕ) (payload : JsonFields) : Except ConnectorFailure JsonValue := do
  let stored ← (⟨F, w⟩ : Encryption).encryptPayload nonce payload
  (⟨F, r⟩ : Encryption).decryptPayload stored

lemma reread_of_stored {stored : JsonFields} (h : (⟨F, w⟩ : Encryption).encryptPayload nonce payload = .ok stored) :
    reread F w r nonce payload = (⟨F, r⟩ : Encryption).decryptPayload stored := by
  rw [reread, h]
  rfl

lemma reread_plain (h : Unset w) : reread F w r nonce payload = .ok (.object payload) := by
  have he : (⟨F, w⟩ : Encryption).encryptPayload nonce payload =
      .ok (Encryption.envelope false (.object payload)) := by
    rw [Encryption.encryptPayload, getFernet_unset h]
    rfl
  rw [reread_of_stored he, decrypt_plain]

lemma reread_encrypted (h : F.ValidKey w) : reread F w r nonce payload =
    (⟨F, r⟩ : Encryption).getFernet.map fun o => o.elim (.object .nil) fun key =>
      (F.decrypt key (F.encrypt (strip w) nonce payload)).getD (.object .nil) := by
  have he : (⟨F, w⟩ : Encryption).encryptPayload nonce payload =
      .ok (Encryption.envelope true (.string (F.encrypt (strip w) nonce payload))) := by
    rw [Encryption.encryptPayload, getFernet_valid h]
    rfl
  rw [reread_of_stored he, decrypt_token]

structure RoundTrip (F : Fernet) (keyOf : String → κ) (w r : String) (nonce : ℕ) (payload : JsonFields) : Prop where
  plain : Unset w → reread F w r nonce payload = .ok (.object payload)
  sameKey : F.ValidKey w → F.ValidKey r → keyOf (strip w) = keyOf (strip r) →
    reread F w r nonce payload = .ok (.object payload)
  otherKey : F.ValidKey w → Unset r ∨ F.ValidKey r ∧ keyOf (strip w) ≠ keyOf (strip r) →
    reread F w r nonce payload = .ok (.object .nil)

theorem encryption_round_trip (w r : String) (h : C.Keyed keyOf nonce (J.dumps payload))
    (hj : J.loads (J.dumps payload) = some (.object payload)) :
    RoundTrip (C.fernet J) keyOf w r nonce payload := by
  constructor
  case plain => exact reread_plain
  case sameKey =>
    intro hw hr hkey
    rw [reread_encrypted hw, getFernet_valid hr, Except.map, Option.elim_some,
      fernet_opens h hj hw.taken hr.taken hkey, Option.getD_some]
  case otherKey =>
    rintro hw (hr | ⟨hr, hkey⟩)
    · rw [reread_encrypted hw, getFernet_unset hr, Except.map, Option.elim_none]
    · rw [reread_encrypted hw, getFernet_valid hr, Except.map, Option.elim_some,
        fernet_rejects h hw.taken hr.taken hkey, Option.getD_none]

def enveloped : JsonFields := .cons "_enc" (.bool true) (.cons "password" (.string "secret") .nil)

def envelopedText : JsonText where
  dumps _ := "\x7b\"_enc\":true,\"password\":\"secret\"\x7d"
  loads text := if text = "\x7b\"_enc\":true,\"password\":\"secret\"\x7d" then some (.object enveloped) else none

def twoKeys : Cipher where
  refuses key :=
    if key = "old" ∨ key = "new" then none
    else some "Fernet key must be 32 url-safe base64-encoded bytes."
  encrypt key _ text := key ++ text
  decrypt key token := if key.toList <+: token.toList then some (String.ofList (token.toList.drop 3)) else none

lemma twoKeys_refuses {key : String} (h : twoKeys.refuses key = none) : key = "old" ∨ key = "new" := by
  by_contra hne
  change (if key = "old" ∨ key = "new" then none else some _) = none at h
  rw [if_neg hne] at h
  cases h

theorem enveloped_round_trip : RoundTrip (twoKeys.fernet envelopedText) id " old" "new\n" 0 enveloped := by
  apply encryption_round_trip
  case h =>
    constructor
    case opens =>
      rintro key other hkey - rfl
      rcases twoKeys_refuses hkey with rfl | rfl <;> decide +kernel
    case rejects =>
      intro key other hkey hother hne
      rcases twoKeys_refuses hkey with rfl | rfl <;> rcases twoKeys_refuses hother with rfl | rfl
      · exact absurd rfl hne
      · decide +kernel
      · decide +kernel
      · exact absurd rfl hne
  case hj => decide +kernel

end NotebookExecution.Connectors
