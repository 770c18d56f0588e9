/-
The models of the Hosted Agent control plane, and its registry of Provider models.

A record is checked when it is built; a request arrives checked, and the services ask of it only
what is here.  The fields that no service reads or writes are left out of the capabilities.
-/
import Arena402.Contracts.ActionWire
import Arena402.Contracts.Value
import Arena402.Lib.Dict

namespace Arena402.Hosted

open Py Wire

/-! ### Statuses -/

/-- Where a credential is on its way to the secret store. -/
inductive CredentialStatus
  | pendingWrite
  | stored
  | pendingValidation
  | valid
  | invalid
  | revoking
  | revoked
deriving DecidableEq, Repr

/-- How far a hosted Agent is set up. -/
inductive HostedProvisioningStatus
  | provisioning
  | ready
  | degraded
  | disabled
deriving DecidableEq, Repr

/-- Whether an Agent may act. -/
inductive AgentIdentityStatus
  | active
  | disabled
deriving DecidableEq, Repr

/-- Whether a row is new or the one of an earlier request. -/
inductive ReservationDisposition
  | created
  | replay
deriving DecidableEq, Repr

/-! ### Requests -/

/-- What an owner submits with a secret. -/
structure CredentialIngressRequest where
  providerId : String
  apiKey : String
  idempotencyKey : String
deriving DecidableEq

/-- What an owner submits for a new Agent. -/
structure HostedAgentCreateRequest where
  displayName : String
  credentialId : String
  providerId : String
  modelId : String
  thinkingEnabled : Bool
  strategyInstructions : String := ""
  idempotencyKey : String
deriving DecidableEq

/-- What an owner submits for an Agent that there is. -/
structure HostedAgentUpdateRequest where
  providerId : String
  modelId : String
  thinkingEnabled : Bool
  strategyInstructions : String := ""
  idempotencyKey : String
deriving DecidableEq

/-- `request.model_dump(mode="json", by_alias=True, exclude={"idempotency_key"})`. -/
def HostedAgentCreateRequest.dump (request : HostedAgentCreateRequest) : Json :=
  .object
    [("displayName", .str request.displayName),
      ("credentialId", .str request.credentialId),
      ("providerId", .str request.providerId),
      ("modelId", .str request.modelId),
      ("thinkingEnabled", .bool request.thinkingEnabled),
      ("strategyInstructions", .str request.strategyInstructions)]

/-- `request.model_dump(mode="json", by_alias=True, exclude={"idempotency_key"})`. -/
def HostedAgentUpdateRequest.dump (request : HostedAgentUpdateRequest) : Json :=
  .object
    [("providerId", .str request.providerId),
      ("modelId", .str request.modelId),
      ("thinkingEnabled", .bool request.thinkingEnabled),
      ("strategyInstructions", .str request.strategyInstructions)]

/-! ### Records -/

/-- The row of a credential; the secret is not in it. -/
structure CredentialRecord where
  credentialId : String
  ownerUserId : String
  providerId : String
  secretRef : String
  fingerprint : String
  fingerprintPepperVersion : Nat
  status : CredentialStatus
  createdAt : UtcDateTime
  updatedAt : UtcDateTime
deriving DecidableEq

/-- The row of an Agent. -/
structure HostedAgentRecord where
  agentId : String
  ownerUserId : String
  displayName : String
  identityStatus : AgentIdentityStatus
  hostedConfigId : String
  credentialId : String
  providerId : String
  modelId : String
  thinkingEnabled : Bool
  strategyInstructions : String
  promptVersion : String
  taskSchemaVersion : String
  actionSchemaVersion : String
  capabilityVersion : String
  adapterVersion : String
  maxInputBytes : Nat
  maxContextItems : Nat
  maxOutputTokens : Nat
  configHash : String
  provisioningStatus : HostedProvisioningStatus
  runtimeBindingId : String
  routeStatus : HostedProvisioningStatus
  validationJobId : String
  createdAt : UtcDateTime
  updatedAt : UtcDateTime
deriving DecidableEq

/-- What a reservation of a credential returns. -/
structure CredentialReservation where
  disposition : ReservationDisposition
  credential : CredentialRecord

/-- What a creation of an Agent returns. -/
structure HostedAgentCreation where
  disposition : ReservationDisposition
  agent : HostedAgentRecord

/-- `CredentialMetadata`, without its schema version. -/
structure CredentialMetadata where
  credentialId : String
  providerId : String
  status : CredentialStatus
  fingerprintHint : String
  createdAt : UtcDateTime
  updatedAt : UtcDateTime
deriving DecidableEq

/-- `HostedAgentDetail`, without its schema version. -/
structure HostedAgentDetail where
  agentId : String
  displayName : String
  providerId : String
  modelId : String
  thinkingEnabled : Bool
  provisioningStatus : HostedProvisioningStatus
  routeStatus : HostedProvisioningStatus
  createdAt : UtcDateTime
  updatedAt : UtcDateTime
  credentialId : String
  strategyInstructions : String
deriving DecidableEq

/-! ### What a record accepts -/

/-- `Identifier` -/
def isIdentifier (text : String) : Bool :=
  1 ≤ text.length && text.length ≤ 256 && identifierPattern text

/-- A text whose first character and whose other characters are of two kinds. -/
def matchesPattern (first rest : Char → Bool) (text : String) : Bool :=
  match text.toList with
  | [] => false
  | c :: cs => first c && cs.all rest

def isLowerAlphanum (c : Char) : Bool :=
  c.isLower || c.isDigit

/-- `ProviderId` -/
def isProviderId (text : String) : Bool :=
  1 ≤ text.length && text.length ≤ 64 &&
    matchesPattern isLowerAlphanum
      (fun c => isLowerAlphanum c || c = '.' || c = '_' || c = '-') text

/-- The characters of a model id and of a secret reference: those of an identifier, and slashes. -/
def referencePattern (text : String) : Bool :=
  matchesPattern Char.isAlphanum
    (fun c => c.isAlphanum || c = '.' || c = '_' || c = ':' || c = '/' || c = '-') text

/-- `ModelId` -/
def isModelId (text : String) : Bool :=
  1 ≤ text.length && text.length ≤ 200 && referencePattern text

def isHexDigit (c : Char) : Bool :=
  c.isDigit || ('a' ≤ c && c ≤ 'f')

def hexDigestChars (cs : List Char) : Bool :=
  cs.length = 64 && cs.all isHexDigit

/-- `HexDigest` -/
def isHexDigest (text : String) : Bool :=
  hexDigestChars text.toList

/-- `HashIdentifier`, and `_HASH_IDENTIFIER_PATTERN` of the repository. -/
def isHashIdentifier (text : String) : Bool :=
  "sha256:".toList.isPrefixOf text.toList && hexDigestChars (text.toList.drop 7)

/-- The constraints of `CredentialRecord`. -/
def CredentialRecord.accepted (r : CredentialRecord) : Bool :=
  isIdentifier r.credentialId && isIdentifier r.ownerUserId && isProviderId r.providerId &&
    3 ≤ r.secretRef.length && r.secretRef.length ≤ 512 && referencePattern r.secretRef &&
    isHexDigest r.fingerprint && 0 < r.fingerprintPepperVersion

/-- The constraints of `HostedAgentRecord`. -/
def HostedAgentRecord.accepted (r : HostedAgentRecord) : Bool :=
  isIdentifier r.agentId && isIdentifier r.ownerUserId &&
    1 ≤ r.displayName.length && r.displayName.length ≤ 100 &&
    isIdentifier r.hostedConfigId && isIdentifier r.credentialId && isProviderId r.providerId &&
    isModelId r.modelId && r.strategyInstructions.length ≤ 4000 &&
    isIdentifier r.promptVersion && isIdentifier r.taskSchemaVersion &&
    isIdentifier r.actionSchemaVersion && isIdentifier r.capabilityVersion &&
    isIdentifier r.adapterVersion &&
    0 < r.maxInputBytes && r.maxInputBytes ≤ 1048576 &&
    0 < r.maxContextItems && r.maxContextItems ≤ 10000 &&
    0 < r.maxOutputTokens && r.maxOutputTokens ≤ 65536 &&
    isHashIdentifier r.configHash && isIdentifier r.runtimeBindingId &&
    isIdentifier r.validationJobId

/-! ### Capabilities -/

inductive ThinkingMode
  | unsupported
  | «optional»
  | alwaysOn
deriving DecidableEq, Repr

/-- What is known of a model of a Provider. -/
structure ModelCapability where
  providerId : String
  modelId : String
  thinkingMode : ThinkingMode
  maxOutputTokens : Nat
  adapterVersion : String
  verified : Bool := false
  enabled : Bool := false

/-- `CapabilityRegistry` -/
structure CapabilityRegistry where
  registryVersion : String
  entries : Dict (String × String) ModelCapability
  /-- The registry is keyed by the Provider and the model of its entries. -/
  keyed : ∀ key capability, entries.get key = some capability →
    key = (capability.providerId, capability.modelId)

inductive CapabilityErrorCode
  | modelNotAvailable
  | outputTokenLimitExceeded
  | thinkingAlwaysOn
  | thinkingNotSupported
deriving DecidableEq, Repr

/-- The model and the thinking mode that an Agent runs with. -/
structure ResolvedModelCapability where
  providerId : String
  modelId : String
  adapterVersion : String
  thinkingEnabled : Bool
  maxOutputTokens : Nat

/-- `list_public`; a service looks one entry of it up, so that the order does not matter. -/
def CapabilityRegistry.listPublic (registry : CapabilityRegistry) : List ModelCapability :=
  registry.entries.values.filter fun capability => capability.enabled && capability.verified

/-- `resolve` -/
def CapabilityRegistry.resolve (registry : CapabilityRegistry) (providerId modelId : String)
    (thinkingEnabled : Bool) (requestedMaxOutputTokens : Nat) :
    Except CapabilityErrorCode ResolvedModelCapability :=
  match registry.entries.get (providerId, modelId) with
  | none => .error .modelNotAvailable
  | some capability =>
    if !capability.enabled || !capability.verified then .error .modelNotAvailable
    else if requestedMaxOutputTokens = 0 ∨ capability.maxOutputTokens < requestedMaxOutputTokens then
      .error .outputTokenLimitExceeded
    else if capability.thinkingMode = .unsupported && thinkingEnabled then
      .error .thinkingNotSupported
    else if capability.thinkingMode = .alwaysOn && !thinkingEnabled then .error .thinkingAlwaysOn
    else
      .ok
        { providerId := capability.providerId
          modelId := capability.modelId
          adapterVersion := capability.adapterVersion
          thinkingEnabled := capability.thinkingMode = .alwaysOn || thinkingEnabled
          maxOutputTokens := requestedMaxOutputTokens }

end Arena402.Hosted
