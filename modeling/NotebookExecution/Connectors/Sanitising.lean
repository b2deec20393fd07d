import NotebookExecution.Connectors.Classes
import NotebookExecution.Library.Redaction

/-! What is shown of credentials and configurations. Both sanitisers look at the keys of the object itself,
each with a list of terms of its own. -/

namespace NotebookExecution.Connectors

open Library.Json Library.Text Store

def sensitive (terms : List String) (key : String) : Bool :=
  terms.any fun term => decide (term.toList <:+: (lower key).toList)

namespace CredentialManager

def sensitiveTerms : List String := ["password", "secret", "token", "private_key", "key"]

def sanitizeCredentialPayload (payload : Option JsonFields) : JsonFields :=
  -- Without a payload there is nothing to mask.
  payload.elim .nil (JsonFields.mask (sensitive sensitiveTerms) (.string "********"))

end CredentialManager

def ConnectorCategory.value : ConnectorCategory → String
  | .relationalDatabase => "RELATIONAL_DATABASE"
  | .nosqlDatabase => "NOSQL_DATABASE"
  | .objectStorage => "OBJECT_STORAGE"

structure Metadata where
  connectorId : String
  name : String
  connectorType : String
  category : String
  configuration : JsonFields
  capabilities : ConnectorCapabilities
  deriving DecidableEq

namespace ConnectorInstance

def sensitiveTerms : List String := ["password", "secret", "token"]

def sanitizeMetadata (i : ConnectorInstance) : Metadata where
  connectorId := i.connectorId
  name := i.name
  connectorType := i.connectorType.value
  category := i.category.value
  configuration := i.config.without (sensitive sensitiveTerms)
  capabilities := i.capabilities

end ConnectorInstance

open CredentialManager

def SameButSecrets (a b : JsonFields) : Prop := alikeFields (sensitive sensitiveTerms) a b = true

structure SameButConfig (i j : ConnectorInstance) : Prop where
  connectorId : i.connectorId = j.connectorId
  name : i.name = j.name
  connectorType : i.connectorType = j.connectorType
  category : i.category = j.category
  config : SameButSecrets i.config j.config

lemma sanitizeMetadata_eq_iff {i j : ConnectorInstance} (h : SameButConfig i j) :
    i.sanitizeMetadata = j.sanitizeMetadata ↔
      i.config.without (sensitive ConnectorInstance.sensitiveTerms) =
        j.config.without (sensitive ConnectorInstance.sensitiveTerms) := by
  have hcap : i.capabilities = j.capabilities := by
    rw [ConnectorInstance.capabilities, ConnectorInstance.capabilities, h.connectorType]
  rw [ConnectorInstance.sanitizeMetadata, ConnectorInstance.sanitizeMetadata, Metadata.mk.injEq, h.connectorId,
    h.name, h.connectorType, h.category, hcap]
  simp

/-- Values below the object itself are never hidden, nor values that only the other list hides. -/
theorem sanitising_iff (a b : JsonFields) (i j : ConnectorInstance) :
    (SameButSecrets a b →
      (sanitizeCredentialPayload (some a) = sanitizeCredentialPayload (some b) ↔
        a.agreeOutside (sensitive sensitiveTerms) b = true)) ∧
    (SameButConfig i j →
      (i.sanitizeMetadata = j.sanitizeMetadata ↔
        i.config.agreeOutside (sensitive ConnectorInstance.sensitiveTerms) j.config = true)) := by
  constructor
  · intro h
    exact JsonFields.mask_eq_iff (keys_of_alike h) _
  · intro h
    rw [sanitizeMetadata_eq_iff h]
    exact JsonFields.without_eq_iff (keys_of_alike h.config)

def nested (password : String) : JsonFields :=
  .cons "database" (.object (.cons "password" (.string password) .nil)) .nil

def withKey (key : String) : ConnectorInstance :=
  ⟨⟨"1", "lake", .cons "bucket" (.string "b") (.cons "access_key" (.string key) .nil), .object .nil⟩, .s3,
    .objectStorage, .bucket "b" "us-east-1", none⟩

theorem secrets_shown :
    (SameButSecrets (nested "x") (nested "y") ∧
      sanitizeCredentialPayload (some (nested "x")) ≠ sanitizeCredentialPayload (some (nested "y"))) ∧
    SameButConfig (withKey "x") (withKey "y") ∧
      (withKey "x").sanitizeMetadata ≠ (withKey "y").sanitizeMetadata := by
  refine ⟨⟨?_, ?_⟩, ⟨rfl, rfl, rfl, rfl, ?_⟩, ?_⟩
  · unfold SameButSecrets
    decide +kernel
  · decide +kernel
  · unfold SameButSecrets
    decide +kernel
  · decide +kernel

end NotebookExecution.Connectors
