/-
The repository of the Hosted Agent control plane, in memory.

Each operation holds the lock from its first read to its last write, so that it is one function of
the tables.  It raises before it writes anything.
-/
import Arena402.Hosted.Models

namespace Arena402.Hosted

open Py

/-- What the repository refuses. -/
inductive RepositoryErrorCode
  | agentNotFound
  | agentNotReady
  | credentialNotFound
  | credentialNotUsable
  | idempotencyConflict
  | providerMismatch
deriving DecidableEq, Repr

/-- What an operation raises: a `ControlRepositoryError`, or `KeyError` for a recorded resource that is
    not there. -/
inductive RepositoryError
  | rejected (code : RepositoryErrorCode)
  | keyError
deriving DecidableEq, Repr

/-- The operations that take an idempotency key. -/
inductive Operation
  /-- `model_credentials.create` -/
  | createCredential
  /-- `hosted_agents.create` -/
  | createAgent
  /-- `hosted_agents.update` -/
  | updateAgent
deriving DecidableEq, Repr

/-- `_IdempotencyEntry` -/
structure IdempotencyEntry where
  requestHash : String
  resultId : String
deriving DecidableEq

/-- `MemoryHostedAgentControlRepository` -/
structure ControlRepository where
  credentials : Dict String CredentialRecord := []
  agents : Dict String HostedAgentRecord := []
  idempotency : Dict (Operation × String × String) IdempotencyEntry := []
deriving DecidableEq

namespace ControlRepository

variable (repo : ControlRepository)

/-- `_require_safe_hash` -/
def requireSafeHash (value : String) : Except RepositoryError Unit :=
  if isHashIdentifier value then .ok () else .error (.rejected .idempotencyConflict)

/-- `_idempotency_result` -/
def idempotencyResult (operation : Operation) (ownerUserId idempotencyKeyDigest requestHash : String) :
    Except RepositoryError (Option IdempotencyEntry) :=
  match repo.idempotency.get (operation, ownerUserId, idempotencyKeyDigest) with
  | none => .ok none
  | some existing =>
    if existing.requestHash ≠ requestHash then .error (.rejected .idempotencyConflict)
    else .ok (some existing)

/-- The checks that every operation with an idempotency key starts with. -/
def replayOf (operation : Operation) (ownerUserId idempotencyKeyDigest requestHash : String) :
    Except RepositoryError (Option IdempotencyEntry) := do
  requireSafeHash idempotencyKeyDigest
  requireSafeHash requestHash
  repo.idempotencyResult operation ownerUserId idempotencyKeyDigest requestHash

/-- `_idempotency[operation, owner, digest] = _IdempotencyEntry(..)`. -/
def record (operation : Operation) (ownerUserId idempotencyKeyDigest requestHash resultId : String) :
    ControlRepository :=
  { repo with
    idempotency := repo.idempotency.set (operation, ownerUserId, idempotencyKeyDigest)
      ⟨requestHash, resultId⟩ }

/-- The credential with another status. -/
def setStatus (credential : CredentialRecord) (status : CredentialStatus) (now : UtcDateTime) :
    ControlRepository :=
  { repo with
    credentials := repo.credentials.set credential.credentialId
      { credential with status, updatedAt := now } }

/-! ### Credentials -/

/-- `reserve_credential` -/
def reserveCredential (credential : CredentialRecord) (idempotencyKeyDigest requestHash : String) :
    Except RepositoryError (ControlRepository × CredentialReservation) :=
  match repo.replayOf .createCredential credential.ownerUserId idempotencyKeyDigest requestHash with
  | .error e => .error e
  | .ok (some replay) =>
    match repo.credentials.get replay.resultId with
    | none => .error .keyError
    | some existing => .ok (repo, ⟨.replay, existing⟩)
  | .ok none =>
    if (repo.credentials.get credential.credentialId).isSome then .error (.rejected .idempotencyConflict)
    else
      .ok
        (({ repo with
            credentials := repo.credentials.set credential.credentialId credential }).record
          .createCredential credential.ownerUserId idempotencyKeyDigest requestHash
          credential.credentialId, ⟨.created, credential⟩)

/-- `mark_credential_stored_and_complete_idempotency` -/
def markCredentialStored (ownerUserId credentialId idempotencyKeyDigest requestHash : String)
    (now : UtcDateTime) : Except RepositoryError (ControlRepository × CredentialRecord) :=
  match repo.replayOf .createCredential ownerUserId idempotencyKeyDigest requestHash with
  | .error e => .error e
  | .ok none => .error (.rejected .idempotencyConflict)
  | .ok (some replay) =>
    if replay.resultId ≠ credentialId then .error (.rejected .idempotencyConflict)
    else
      match repo.credentials.get credentialId with
      | none => .error (.rejected .credentialNotFound)
      | some credential =>
        if credential.ownerUserId ≠ ownerUserId then .error (.rejected .credentialNotFound)
        else if credential.status = .pendingWrite then
          .ok ({ repo with
              credentials := repo.credentials.set credentialId
                { credential with status := .stored, updatedAt := now } },
            { credential with status := .stored, updatedAt := now })
        else if credential.status ≠ .stored then .error (.rejected .credentialNotUsable)
        else .ok (repo, credential)

/-- `get_credential_for_owner` -/
def getCredentialForOwner (ownerUserId credentialId : String) : Option CredentialRecord :=
  (repo.credentials.get credentialId).filter fun credential => credential.ownerUserId = ownerUserId

/-! ### Agents -/

/-- `get_hosted_agent_for_owner` -/
def getHostedAgentForOwner (ownerUserId agentId : String) : Option HostedAgentRecord :=
  (repo.agents.get agentId).filter fun agent => agent.ownerUserId = ownerUserId

/-- `get_hosted_agent_creation_replay` and `get_hosted_agent_update_replay`. -/
def hostedAgentReplay (operation : Operation) (ownerUserId idempotencyKeyDigest requestHash : String) :
    Except RepositoryError (Option HostedAgentRecord) :=
  match repo.replayOf operation ownerUserId idempotencyKeyDigest requestHash with
  | .error e => .error e
  | .ok none => .ok none
  | .ok (some replay) =>
    match repo.getHostedAgentForOwner ownerUserId replay.resultId with
    | none => .error (.rejected .idempotencyConflict)
    | some agent => .ok (some agent)

/-- `create_hosted_agent` -/
def createHostedAgent (agent : HostedAgentRecord) (idempotencyKeyDigest requestHash : String)
    (now : UtcDateTime) : Except RepositoryError (ControlRepository × HostedAgentCreation) :=
  match repo.replayOf .createAgent agent.ownerUserId idempotencyKeyDigest requestHash with
  | .error e => .error e
  | .ok (some replay) =>
    match repo.agents.get replay.resultId with
    | none => .error .keyError
    | some existing => .ok (repo, ⟨.replay, existing⟩)
  | .ok none =>
    match repo.getCredentialForOwner agent.ownerUserId agent.credentialId with
    | none => .error (.rejected .credentialNotFound)
    | some credential =>
      if credential.providerId ≠ agent.providerId then .error (.rejected .providerMismatch)
      else if credential.status ≠ .stored then .error (.rejected .credentialNotUsable)
      else if repo.agents.values.any fun existing => existing.credentialId = agent.credentialId then
        .error (.rejected .credentialNotUsable)
      else if (repo.agents.get agent.agentId).isSome then .error (.rejected .idempotencyConflict)
      else
        .ok
          ((({ repo with agents := repo.agents.set agent.agentId agent }).setStatus credential
              .pendingValidation now).record
            .createAgent agent.ownerUserId idempotencyKeyDigest requestHash agent.agentId,
            ⟨.created, agent⟩)

/-- `update_hosted_agent` -/
def updateHostedAgent (agent : HostedAgentRecord)
    (expectedConfigHash idempotencyKeyDigest requestHash : String) (now : UtcDateTime) :
    Except RepositoryError (ControlRepository × HostedAgentRecord) :=
  match requireSafeHash expectedConfigHash with
  | .error e => .error e
  | .ok () =>
    match repo.replayOf .updateAgent agent.ownerUserId idempotencyKeyDigest requestHash with
    | .error e => .error e
    | .ok (some replay) =>
      match repo.agents.get replay.resultId with
      | none => .error .keyError
      | some existing => .ok (repo, existing)
    | .ok none =>
      match repo.getHostedAgentForOwner agent.ownerUserId agent.agentId with
      | none => .error (.rejected .agentNotFound)
      | some current =>
        if current.provisioningStatus ≠ .ready || current.routeStatus ≠ .ready ||
            current.configHash ≠ expectedConfigHash then .error (.rejected .agentNotReady)
        else
          match repo.getCredentialForOwner agent.ownerUserId current.credentialId with
          | none => .error (.rejected .credentialNotFound)
          | some credential =>
            if credential.status ≠ .valid then .error (.rejected .credentialNotUsable)
            else
              .ok
                ((({ repo with agents := repo.agents.set agent.agentId agent }).setStatus credential
                    .pendingValidation now).record
                  .updateAgent agent.ownerUserId idempotencyKeyDigest requestHash agent.agentId,
                  agent)

/-! ### Validation -/

/-- What a validation leaves: new statuses, of credentials whose secret was written and of Agents. -/
structure Outcome where
  credential : String → CredentialStatus
  identity : String → AgentIdentityStatus
  provisioning : String → HostedProvisioningStatus
  route : String → HostedProvisioningStatus
  now : UtcDateTime

def Outcome.applyCredential (outcome : Outcome) (id : String) (c : CredentialRecord) :
    CredentialRecord :=
  if c.status = .pendingWrite ∨ outcome.credential id = .pendingWrite then c
  else { c with status := outcome.credential id, updatedAt := outcome.now }

def Outcome.applyAgent (outcome : Outcome) (id : String) (a : HostedAgentRecord) :
    HostedAgentRecord :=
  { a with
    identityStatus := outcome.identity id
    provisioningStatus := outcome.provisioning id
    routeStatus := outcome.route id
    updatedAt := outcome.now }

def validate (outcome : Outcome) : ControlRepository :=
  { repo with
    credentials := repo.credentials.map fun e => (e.1, outcome.applyCredential e.1 e.2)
    agents := repo.agents.map fun e => (e.1, outcome.applyAgent e.1 e.2) }

end ControlRepository

end Arena402.Hosted
