/-
The services of the Hosted Agent control plane as coroutines.

Each service is a program over atomic accesses: one repository operation, one write of the secret
writer, one reading of the clock or of the id factory.  Between two accesses any other call can run,
a validation can move the statuses, and a call that is never resumed has failed there.

What the secret writer answers, the ids, the times and the failures are chosen by the environment at
each access.  The repository is the one in memory; `writes` is what the writer was asked for and what
it returned, `updates` the accepted updates with the calls they were made by.
-/
import Arena402.Lib.Async
import Arena402.Core.Hashing
import Arena402.Core.IngressSecurity
import Arena402.Hosted.Repository

namespace Arena402.Hosted

open Py Async Wire

/-! ### Calls and errors -/

/-- What the services answer when they refuse. -/
inductive ControlPlaneErrorCode
  | agentNotFound
  | agentNotReady
  | credentialNotFound
  | credentialNotUsable
  | credentialWriteRecoveryRequired
  | hostedAgentsDisabled
  | idempotencyConflict
  | invalidDisplayName
  | invalidIdentifier
  | invalidIdempotencyKey
  | invalidOwner
  | invalidSecretMaterial
  | invalidStrategy
  | modelNotAvailable
  | providerMismatch
  | repositoryUnavailable
  | secretStoreUnavailable
  | thinkingAlwaysOn
  | thinkingNotSupported
deriving DecidableEq, Repr

/-- What leaves a service. -/
inductive ServiceError
  | repository (error : RepositoryError)
  /-- Any other exception of an access. -/
  | failed
  | control (code : ControlPlaneErrorCode)
  /-- `SecretStoreConfigurationError` of a reference. -/
  | secretReference
  /-- `ValidationError` of a record. -/
  | validation
deriving DecidableEq, Repr

/-- `CredentialIngressService`, with the keyed fingerprint under its pepper. -/
structure CredentialIngressService where
  hmacSha256 : String → String
  pepperVersion : Nat

/-- `HostedAgentService` -/
structure HostedAgentService where
  capabilities : CapabilityRegistry
  hostedAgentsEnabled : Bool := true

/-- One call of a service. -/
inductive Call
  | createCredential (service : CredentialIngressService) (ownerUserId : String)
      (request : CredentialIngressRequest)
  | createHostedAgent (service : HostedAgentService) (ownerUserId : String)
      (request : HostedAgentCreateRequest)
  | updateHostedAgent (service : HostedAgentService) (ownerUserId agentId : String)
      (request : HostedAgentUpdateRequest)
  /-- A validation finishes. -/
  | validate (outcome : ControlRepository.Outcome)

/-! ### Accesses -/

/-- What a call asks of the world. -/
inductive Access
  | clock
  | newId (kind : String)
  | reserveCredential (credential : CredentialRecord) (idempotencyKeyDigest requestHash : String)
  | writeSecret (secretRef : String)
  | markCredentialStored (ownerUserId credentialId idempotencyKeyDigest requestHash : String)
  | getCredentialForOwner (ownerUserId credentialId : String)
  | getHostedAgentForOwner (ownerUserId agentId : String)
  | hostedAgentReplay (operation : Operation) (ownerUserId idempotencyKeyDigest requestHash : String)
  | createHostedAgent (agent : HostedAgentRecord) (idempotencyKeyDigest requestHash : String)
  | updateHostedAgent (agent : HostedAgentRecord)
      (expectedConfigHash idempotencyKeyDigest requestHash : String)
  | validate (outcome : ControlRepository.Outcome)

/-- What the world answers. -/
def Access.Reply : Access → Type
  | .clock => UtcDateTime
  | .newId _ => String
  | .reserveCredential .. => CredentialReservation
  | .writeSecret _ => String
  | .markCredentialStored .. => CredentialRecord
  | .getCredentialForOwner .. => Option CredentialRecord
  | .getHostedAgentForOwner .. => Option HostedAgentRecord
  | .hostedAgentReplay .. => Option HostedAgentRecord
  | .createHostedAgent .. => HostedAgentCreation
  | .updateHostedAgent .. => HostedAgentRecord
  | .validate _ => Unit

/-- An access with the call that makes it. -/
structure Act where
  caller : Call
  access : Access

abbrev Act.Reply (act : Act) : Type :=
  act.access.Reply

/-- The repository, and a log of the secrets and updates that were written. -/
structure World where
  repo : ControlRepository := {}
  writes : List (String × String) := []
  updates : List (Call × HostedAgentRecord) := []

/-- What the environment decides about an access. -/
structure Choice where
  fails : Bool := false
  now : UtcDateTime := 0
  id : String := ""
  written : String := ""

namespace World

variable (w : World)

/-- The outcome of a repository operation. -/
def commit {α : Type} : Except RepositoryError (ControlRepository × α) → World × Except ServiceError α
  | .error e => (w, .error (.repository e))
  | .ok (repo, a) => ({ w with repo }, .ok a)

/-- The outcome of a repository operation that only reads. -/
def inspect {α : Type} : Except RepositoryError α → World × Except ServiceError α
  | .error e => (w, .error (.repository e))
  | .ok a => (w, .ok a)

/-- An update that finds no record of its key is entered with its call. -/
def enter (caller : Call) (agent : HostedAgentRecord) (idempotencyKeyDigest : String) : World :=
  match w.repo.idempotency.get (.updateAgent, agent.ownerUserId, idempotencyKeyDigest) with
  | some _ => w
  | none => { w with updates := (caller, agent) :: w.updates }

def update (caller : Call) (agent : HostedAgentRecord)
    (expectedConfigHash idempotencyKeyDigest requestHash : String) (now : UtcDateTime) :
    World × Except ServiceError HostedAgentRecord :=
  match w.repo.updateHostedAgent agent expectedConfigHash idempotencyKeyDigest requestHash now with
  | .error e => (w, .error (.repository e))
  | .ok (repo, a) => ({ w.enter caller agent idempotencyKeyDigest with repo }, .ok a)

/-- One access that does not fail. -/
def perform (choice : Choice) (caller : Call) :
    (access : Access) → World × Except ServiceError access.Reply
  | .clock => (w, .ok choice.now)
  | .newId _ => (w, .ok choice.id)
  | .reserveCredential credential digest hash =>
    w.commit (w.repo.reserveCredential credential digest hash)
  | .writeSecret secretRef =>
    ({ w with writes := (secretRef, choice.written) :: w.writes }, .ok choice.written)
  | .markCredentialStored ownerUserId credentialId digest hash =>
    w.commit (w.repo.markCredentialStored ownerUserId credentialId digest hash choice.now)
  | .getCredentialForOwner ownerUserId credentialId =>
    (w, .ok (w.repo.getCredentialForOwner ownerUserId credentialId))
  | .getHostedAgentForOwner ownerUserId agentId =>
    (w, .ok (w.repo.getHostedAgentForOwner ownerUserId agentId))
  | .hostedAgentReplay operation ownerUserId digest hash =>
    w.inspect (w.repo.hostedAgentReplay operation ownerUserId digest hash)
  | .createHostedAgent agent digest hash =>
    w.commit (w.repo.createHostedAgent agent digest hash choice.now)
  | .updateHostedAgent agent expected digest hash =>
    w.update caller agent expected digest hash choice.now
  | .validate outcome => ({ w with repo := w.repo.validate outcome }, .ok ())

/-- One access. -/
def run : Semantics Act Act.Reply ServiceError World Choice :=
  fun w choice _ act =>
    if choice.fails then some (w, .error .failed) else some (w.perform choice act.caller act.access)

end World

/-- A service call, suspended at each access. -/
abbrev Coroutine (α : Type) := Prog Act Act.Reply ServiceError α

/-- The refusal with this code. -/
def raise {α : Type} (code : ControlPlaneErrorCode) : Coroutine α :=
  .raise (.control code)

/-- What a check before the first access raises, the call raises. -/
def checked {α β : Type} (x : Except ServiceError α) (f : α → Coroutine β) : Coroutine β :=
  match x with
  | .error e => .raise e
  | .ok a => f a

/-- `_map_repository_error` -/
def mapRepositoryError : RepositoryErrorCode → ControlPlaneErrorCode
  | .agentNotFound => .agentNotFound
  | .agentNotReady => .agentNotReady
  | .credentialNotFound => .credentialNotFound
  | .credentialNotUsable => .credentialNotUsable
  | .idempotencyConflict => .idempotencyConflict
  | .providerMismatch => .providerMismatch

/-- What a service makes of an error of the repository. -/
def mapError : ServiceError → ServiceError
  | .repository (.rejected code) => .control (mapRepositoryError code)
  | _ => .control .repositoryUnavailable

/-- `except ControlRepositoryError` and `except Exception` around an access. -/
def await (caller : Call) (access : Access) : Coroutine access.Reply :=
  .call ⟨caller, access⟩ fun reply =>
    match reply with
    | .ok value => .ret value
    | .error e => .raise (mapError e)

/-- `except Exception` around a read. -/
def read (caller : Call) (access : Access) : Coroutine access.Reply :=
  .call ⟨caller, access⟩ fun reply =>
    match reply with
    | .ok value => .ret value
    | .error _ => raise .repositoryUnavailable

/-- A reading of the clock or of the id factory. -/
def given (caller : Call) (access : Access) : Coroutine access.Reply :=
  (Prog.perform (Act.mk caller access) : Coroutine (Act.mk caller access).Reply)

/-! ### Checks on a request -/

section

variable (T : TextTables) (hexdigest : ByteArray → String)

/-- `validate_runtime_controlled_text(value, include_pii=False)`. -/
def controlledIdentifier (value : String) : Bool :=
  (validateRuntimeControlledText { T with piiPatterns := fun _ => false } value).isNone

/-- `_safe_owner_id` -/
def safeOwnerId (value : String) : Except ServiceError String :=
  if value.isEmpty || 128 < value.length || !identifierPattern value || !controlledIdentifier T value
  then .error (.control .invalidOwner)
  else .ok value

/-- `_safe_persisted_identifier` -/
def safePersistedIdentifier (code : ControlPlaneErrorCode) (value : String) :
    Except ServiceError String :=
  if value.isEmpty || 256 < value.length || !controlledIdentifier T value then .error (.control code)
  else .ok value

/-- The line breaks and tabs of a strategy as spaces. -/
def normalizeStrategy : List Char → List Char
  | [] => []
  | '\r' :: '\n' :: rest => ' ' :: normalizeStrategy rest
  | c :: rest =>
    (if c = '\r' ∨ c = '\n' ∨ c = '\t' then ' ' else c) :: normalizeStrategy rest

/-- The instructions as they are stored. -/
def normalizedStrategy (value : String) : String :=
  String.ofList (normalizeStrategy value.toList)

/-- `_safe_strategy` -/
def safeStrategy (value : String) : Except ServiceError String :=
  if 4 * 1024 < value.utf8ByteSize then .error (.control .invalidStrategy)
  else if (validateRuntimeControlledText T (normalizedStrategy value)).isSome then
    .error (.control .invalidStrategy)
  else .ok (normalizedStrategy value)

/-- `_safe_display_name` -/
def safeDisplayName (value : String) : Except ServiceError String :=
  if (validateRuntimeControlledText T value).isSome then .error (.control .invalidDisplayName)
  else .ok value

/-! ### Credentials -/

/-- `_credential_projection` -/
def credentialProjection (record : CredentialRecord) : CredentialMetadata where
  credentialId := record.credentialId
  providerId := record.providerId
  status := record.status
  fingerprintHint := "hmac-sha256:" ++ String.ofList (record.fingerprint.toList.take 12)
  createdAt := record.createdAt
  updatedAt := record.updatedAt

/-- What the service has of a credential request before the first access. -/
structure PreparedCredential where
  owner : String
  providerId : String
  idempotencyKeyDigest : String
  fingerprint : String

/-- `SecretWrite.from_text` -/
def secretMaterial (value : String) : Except ServiceError String :=
  if value.isEmpty || 32 * 1024 < value.utf8ByteSize || value.toList.contains '\x00' then
    .error (.control .invalidSecretMaterial)
  else .ok value

def prepareCredential (service : CredentialIngressService) (ownerUserId : String)
    (request : CredentialIngressRequest) : Except ServiceError PreparedCredential := do
  let owner ← safeOwnerId T ownerUserId
  let providerId ← safePersistedIdentifier T .invalidIdentifier request.providerId
  let idempotencyKey ← safePersistedIdentifier T .invalidIdempotencyKey request.idempotencyKey
  let material ← secretMaterial request.apiKey
  return ⟨owner, providerId, sha256TextIdentifier hexdigest idempotencyKey,
    service.hmacSha256 material⟩

/-- The `secret_ref` of a credential. -/
def secretRefOf (credentialId : String) : String :=
  s!"arena402/hosted-model/{credentialId}"

/-- `SecretReference.__post_init__` -/
def isSecretReference (value : String) : Bool :=
  3 ≤ value.length && value.length ≤ 256 && referencePattern value &&
    !contains "..".toList value.toList && !contains "//".toList value.toList

/-- The record of a new credential, before it is checked. -/
def credentialRecord (service : CredentialIngressService) (p : PreparedCredential)
    (now : UtcDateTime) (credentialId : String) : CredentialRecord where
  credentialId := credentialId
  ownerUserId := p.owner
  providerId := p.providerId
  secretRef := secretRefOf credentialId
  fingerprint := p.fingerprint
  fingerprintPepperVersion := service.pepperVersion
  status := .pendingWrite
  createdAt := now
  updatedAt := now

/-- The record of a new credential. -/
def newCredential (service : CredentialIngressService) (p : PreparedCredential) (now : UtcDateTime)
    (newId : String) : Except ServiceError CredentialRecord := do
  let credentialId ← safePersistedIdentifier T .invalidIdentifier newId
  if !isSecretReference (secretRefOf credentialId) then .error .secretReference
  else if !(credentialRecord service p now credentialId).accepted then .error .validation
  else .ok (credentialRecord service p now credentialId)

/-- The hash under which a credential request is replayed. -/
def credentialRequestHash (service : CredentialIngressService) (p : PreparedCredential) : String :=
  sha256Identifier hexdigest (.object
    [("fingerprint", .str p.fingerprint),
      ("fingerprintPepperVersion", .int service.pepperVersion),
      ("providerId", .str p.providerId)])

/-- The reference that the writer returns is the one it was asked for. -/
def checkWritten (secretRef written : String) : Coroutine Unit :=
  if written ≠ secretRef then raise .secretStoreUnavailable else .ret ()

/-- The secret is written under its reference. -/
def writeSecret (caller : Call) (secretRef : String) : Coroutine Unit :=
  .call ⟨caller, .writeSecret secretRef⟩ fun reply =>
    match reply with
    | .error _ => raise .secretStoreUnavailable
    | .ok written => checkWritten secretRef written

/-- The part of `create_credential` after the reservation. -/
def storeCredential (caller : Call) (credential : CredentialRecord)
    (idempotencyKeyDigest requestHash : String) (reservation : CredentialReservation) :
    Coroutine CredentialMetadata :=
  match reservation.disposition with
  | .replay =>
    if reservation.credential.status = .pendingWrite then raise .credentialWriteRecoveryRequired
    else .ret (credentialProjection reservation.credential)
  | .created => do
    writeSecret caller credential.secretRef
    let stored ← await caller (.markCredentialStored credential.ownerUserId credential.credentialId
      idempotencyKeyDigest requestHash)
    return credentialProjection stored

/-- `create_credential` -/
def createCredential (service : CredentialIngressService) (ownerUserId : String)
    (request : CredentialIngressRequest) : Coroutine CredentialMetadata :=
  let caller := Call.createCredential service ownerUserId request
  checked (prepareCredential T hexdigest service ownerUserId request) fun p => do
    let now ← given caller .clock
    let newId ← given caller (.newId "cred")
    checked (newCredential T service p now newId) fun credential => do
      let requestHash := credentialRequestHash hexdigest service p
      let reservation ← await caller (.reserveCredential credential p.idempotencyKeyDigest requestHash)
      storeCredential caller credential p.idempotencyKeyDigest requestHash reservation

/-! ### Agents -/

/-- `_agent_detail` -/
def agentDetail (record : HostedAgentRecord) : HostedAgentDetail where
  agentId := record.agentId
  displayName := record.displayName
  providerId := record.providerId
  modelId := record.modelId
  thinkingEnabled := record.thinkingEnabled
  provisioningStatus := record.provisioningStatus
  routeStatus := record.routeStatus
  createdAt := record.createdAt
  updatedAt := record.updatedAt
  credentialId := record.credentialId
  strategyInstructions := record.strategyInstructions

/-- `_map_capability_error` -/
def mapCapabilityError : CapabilityErrorCode → ControlPlaneErrorCode
  | .modelNotAvailable => .modelNotAvailable
  | .thinkingAlwaysOn => .thinkingAlwaysOn
  | .thinkingNotSupported => .thinkingNotSupported
  | .outputTokenLimitExceeded => .modelNotAvailable

/-- The capability that a request names. -/
def HostedAgentService.capabilityOf (service : HostedAgentService) (providerId modelId : String)
    (thinkingEnabled : Bool) : Except ServiceError ResolvedModelCapability :=
  match service.capabilities.listPublic.find? fun capability =>
      capability.providerId = providerId && capability.modelId = modelId with
  | none => .error (.control .modelNotAvailable)
  | some publicCapability =>
    match service.capabilities.resolve providerId modelId thinkingEnabled
        (min 65536 publicCapability.maxOutputTokens) with
    | .error e => .error (.control (mapCapabilityError e))
    | .ok capability => .ok capability

/-- The `config_source` that is hashed. -/
def configSource (registryVersion credentialId strategy adapterVersion : String)
    (capability : ResolvedModelCapability) : Json :=
  .object
    [("credential_id", .str credentialId),
      ("provider", .str capability.providerId),
      ("model", .str capability.modelId),
      ("thinking_enabled", .bool capability.thinkingEnabled),
      ("strategy_instructions", .str strategy),
      ("prompt_version", .str "arena.pydantic-agent.v1"),
      ("task_schema_version", .str "arena.agent-task.v1"),
      ("action_schema_version", .str "arena.agent-action.v1"),
      ("capability_version", .str registryVersion),
      ("adapter_version", .str adapterVersion),
      ("max_input_bytes", .int (64 * 1024)),
      ("max_context_items", .int 256),
      ("max_output_tokens", .int capability.maxOutputTokens)]

/-- What the service has of a create request before the first access. -/
structure PreparedCreation where
  owner : String
  strategy : String
  displayName : String
  credentialId : String
  providerId : String
  modelId : String
  idempotencyKeyDigest : String

def prepareCreation (service : HostedAgentService) (ownerUserId : String)
    (request : HostedAgentCreateRequest) : Except ServiceError PreparedCreation :=
  if !service.hostedAgentsEnabled then .error (.control .hostedAgentsDisabled)
  else do
    let owner ← safeOwnerId T ownerUserId
    let strategy ← safeStrategy T request.strategyInstructions
    let displayName ← safeDisplayName T request.displayName
    let credentialId ← safePersistedIdentifier T .invalidIdentifier request.credentialId
    let providerId ← safePersistedIdentifier T .invalidIdentifier request.providerId
    let modelId ← safePersistedIdentifier T .invalidIdentifier request.modelId
    let idempotencyKey ← safePersistedIdentifier T .invalidIdempotencyKey request.idempotencyKey
    return ⟨owner, strategy, displayName, credentialId, providerId, modelId,
      sha256TextIdentifier hexdigest idempotencyKey⟩

/-- The ids that a new Agent is given. -/
structure NewIds where
  agentId : String
  hostedConfigId : String
  runtimeBindingId : String
  validationJobId : String

/-- The record of a new Agent, before it is checked. -/
def hostedAgentRecord (service : HostedAgentService) (p : PreparedCreation)
    (credential : CredentialRecord) (capability : ResolvedModelCapability) (now : UtcDateTime)
    (adapterVersion : String) (ids : NewIds) : HostedAgentRecord where
  agentId := ids.agentId
  ownerUserId := p.owner
  displayName := p.displayName
  identityStatus := .active
  hostedConfigId := ids.hostedConfigId
  credentialId := credential.credentialId
  providerId := capability.providerId
  modelId := capability.modelId
  thinkingEnabled := capability.thinkingEnabled
  strategyInstructions := p.strategy
  promptVersion := "arena.pydantic-agent.v1"
  taskSchemaVersion := "arena.agent-task.v1"
  actionSchemaVersion := "arena.agent-action.v1"
  capabilityVersion := service.capabilities.registryVersion
  adapterVersion := adapterVersion
  maxInputBytes := 64 * 1024
  maxContextItems := 256
  maxOutputTokens := capability.maxOutputTokens
  configHash := sha256Identifier hexdigest
    (configSource service.capabilities.registryVersion credential.credentialId p.strategy
      adapterVersion capability)
  provisioningStatus := .provisioning
  runtimeBindingId := ids.runtimeBindingId
  routeStatus := .provisioning
  validationJobId := ids.validationJobId
  createdAt := now
  updatedAt := now

/-- The record of a new Agent. -/
def newHostedAgent (service : HostedAgentService) (p : PreparedCreation)
    (credential : CredentialRecord) (capability : ResolvedModelCapability) (now : UtcDateTime)
    (ids : NewIds) : Except ServiceError HostedAgentRecord := do
  let adapterVersion ← safePersistedIdentifier T .invalidIdentifier capability.adapterVersion
  let agentId ← safePersistedIdentifier T .invalidIdentifier ids.agentId
  let hostedConfigId ← safePersistedIdentifier T .invalidIdentifier ids.hostedConfigId
  let runtimeBindingId ← safePersistedIdentifier T .invalidIdentifier ids.runtimeBindingId
  let validationJobId ← safePersistedIdentifier T .invalidIdentifier ids.validationJobId
  let agent := hostedAgentRecord hexdigest service p credential capability now adapterVersion
    ⟨agentId, hostedConfigId, runtimeBindingId, validationJobId⟩
  if !agent.accepted then .error .validation else .ok agent

/-- The part of `create_hosted_agent` after the prerequisites. -/
def insertHostedAgent (caller : Call) (service : HostedAgentService) (p : PreparedCreation)
    (requestHash : String) (credential : CredentialRecord) (capability : ResolvedModelCapability) :
    Coroutine HostedAgentDetail := do
  let now ← given caller .clock
  let agentId ← given caller (.newId "agent")
  let hostedConfigId ← given caller (.newId "hcfg")
  let runtimeBindingId ← given caller (.newId "rbind")
  let validationJobId ← given caller (.newId "cval")
  checked (newHostedAgent T hexdigest service p credential capability now
      ⟨agentId, hostedConfigId, runtimeBindingId, validationJobId⟩) fun agent => do
    let creation ← await caller (.createHostedAgent agent p.idempotencyKeyDigest requestHash)
    return agentDetail creation.agent

/-- The part of `create_hosted_agent` after the replay. -/
def createFresh (caller : Call) (service : HostedAgentService) (p : PreparedCreation)
    (requestHash : String) (thinkingEnabled : Bool) : Coroutine HostedAgentDetail := do
  let found ← read caller (.getCredentialForOwner p.owner p.credentialId)
  match (found : Option CredentialRecord) with
  | none => raise .credentialNotFound
  | some credential =>
    if credential.providerId ≠ p.providerId then raise .providerMismatch
    else
      checked (service.capabilityOf p.providerId p.modelId thinkingEnabled)
        (insertHostedAgent T hexdigest caller service p requestHash credential)

/-- `create_hosted_agent` -/
def createHostedAgent (service : HostedAgentService) (ownerUserId : String)
    (request : HostedAgentCreateRequest) : Coroutine HostedAgentDetail :=
  let caller := Call.createHostedAgent service ownerUserId request
  checked (prepareCreation T hexdigest service ownerUserId request) fun p => do
    let requestHash := sha256Identifier hexdigest request.dump
    let replay ← await caller
      (.hostedAgentReplay .createAgent p.owner p.idempotencyKeyDigest requestHash)
    match (replay : Option HostedAgentRecord) with
    | some agent => .ret (agentDetail agent)
    | none => createFresh T hexdigest caller service p requestHash request.thinkingEnabled

/-- What the service has of an update request before the first access. -/
structure PreparedUpdate where
  owner : String
  agentId : String
  providerId : String
  modelId : String
  strategy : String
  idempotencyKeyDigest : String

def prepareUpdate (service : HostedAgentService) (ownerUserId agentId : String)
    (request : HostedAgentUpdateRequest) : Except ServiceError PreparedUpdate :=
  if !service.hostedAgentsEnabled then .error (.control .hostedAgentsDisabled)
  else do
    let owner ← safeOwnerId T ownerUserId
    let safeAgentId ← safePersistedIdentifier T .invalidIdentifier agentId
    let providerId ← safePersistedIdentifier T .invalidIdentifier request.providerId
    let modelId ← safePersistedIdentifier T .invalidIdentifier request.modelId
    let strategy ← safeStrategy T request.strategyInstructions
    let idempotencyKey ← safePersistedIdentifier T .invalidIdempotencyKey request.idempotencyKey
    return ⟨owner, safeAgentId, providerId, modelId, strategy,
      sha256TextIdentifier hexdigest idempotencyKey⟩

/-- The `candidate` of an update. -/
def candidateOf (service : HostedAgentService) (p : PreparedUpdate) (current : HostedAgentRecord)
    (capability : ResolvedModelCapability) (now : UtcDateTime) (validationJobId : String) :
    HostedAgentRecord :=
  { current with
    providerId := capability.providerId
    modelId := capability.modelId
    thinkingEnabled := capability.thinkingEnabled
    strategyInstructions := p.strategy
    promptVersion := "arena.pydantic-agent.v1"
    taskSchemaVersion := "arena.agent-task.v1"
    actionSchemaVersion := "arena.agent-action.v1"
    capabilityVersion := service.capabilities.registryVersion
    adapterVersion := capability.adapterVersion
    maxInputBytes := 64 * 1024
    maxContextItems := 256
    maxOutputTokens := capability.maxOutputTokens
    configHash := sha256Identifier hexdigest
      (configSource service.capabilities.registryVersion current.credentialId p.strategy
        capability.adapterVersion capability)
    provisioningStatus := .provisioning
    routeStatus := .provisioning
    validationJobId
    updatedAt := now }

/-- The part of `update_hosted_agent` after the prerequisites. -/
def replaceHostedAgent (caller : Call) (service : HostedAgentService) (p : PreparedUpdate)
    (requestHash : String) (current : HostedAgentRecord) (capability : ResolvedModelCapability) :
    Coroutine HostedAgentDetail := do
  let now ← given caller .clock
  let newId ← given caller (.newId "cval")
  checked (safePersistedIdentifier T .invalidIdentifier newId) fun validationJobId => do
    let updated ← await caller
      (.updateHostedAgent (candidateOf hexdigest service p current capability now validationJobId)
        current.configHash p.idempotencyKeyDigest requestHash)
    return agentDetail updated

/-- The part of `update_hosted_agent` after the Agent was read. -/
def updateCurrent (caller : Call) (service : HostedAgentService) (p : PreparedUpdate)
    (requestHash : String) (thinkingEnabled : Bool) (current : HostedAgentRecord) :
    Coroutine HostedAgentDetail :=
  if current.providerId ≠ p.providerId then raise .providerMismatch
  else do
    let found ← read caller (.getCredentialForOwner p.owner current.credentialId)
    match (found : Option CredentialRecord) with
    | none => raise .credentialNotFound
    | some credential =>
      if credential.status ≠ .valid then raise .credentialNotUsable
      else
        checked (service.capabilityOf p.providerId p.modelId thinkingEnabled)
          (replaceHostedAgent T hexdigest caller service p requestHash current)

/-- The part of `update_hosted_agent` after the replay. -/
def updateFresh (caller : Call) (service : HostedAgentService) (p : PreparedUpdate)
    (requestHash : String) (thinkingEnabled : Bool) : Coroutine HostedAgentDetail := do
  let found ← read caller (.getHostedAgentForOwner p.owner p.agentId)
  match (found : Option HostedAgentRecord) with
  | none => raise .agentNotFound
  | some current => updateCurrent T hexdigest caller service p requestHash thinkingEnabled current

/-- `update_hosted_agent` -/
def updateHostedAgent (service : HostedAgentService) (ownerUserId agentId : String)
    (request : HostedAgentUpdateRequest) : Coroutine HostedAgentDetail :=
  let caller := Call.updateHostedAgent service ownerUserId agentId request
  checked (prepareUpdate T hexdigest service ownerUserId agentId request) fun p => do
    let requestHash := sha256Identifier hexdigest request.dump
    let replay ← await caller
      (.hostedAgentReplay .updateAgent p.owner p.idempotencyKeyDigest requestHash)
    match (replay : Option HostedAgentRecord) with
    | some agent => .ret (agentDetail agent)
    | none => updateFresh T hexdigest caller service p requestHash request.thinkingEnabled

/-! ### Runs -/

/-- What a call returns. -/
inductive Answer
  | credential (metadata : CredentialMetadata)
  | agent (call : Call) (detail : HostedAgentDetail)
  | validated

/-- The coroutine of a call. -/
def programOf (call : Call) : Coroutine Answer :=
  match call with
  | .createCredential service owner request => do
    return .credential (← createCredential T hexdigest service owner request)
  | .createHostedAgent service owner request => do
    return .agent call (← createHostedAgent T hexdigest service owner request)
  | .updateHostedAgent service owner agentId request => do
    return .agent call (← updateHostedAgent T hexdigest service owner agentId request)
  | .validate outcome => do
    await call (.validate outcome)
    return .validated

/-- The calls in flight over the repository. -/
abbrev Calls := Pool Act Act.Reply ServiceError World Answer

/-- One event of the calls. -/
def step : Calls → Event Call Choice → Option Calls :=
  Pool.step World.run (programOf T hexdigest)

/-- The states that the calls reach from an empty repository. -/
def Reachable (calls : Calls) : Prop :=
  Trans.Run (step T hexdigest) (fun _ _ => True) ⟨{}, []⟩ calls

end

end Arena402.Hosted
