/-
The Connector repository: what every Gateway instance shares.

`MemoryConnectorRepository` keeps each collection as a list of records with one record for
an id and merges by id, so a collection is a dictionary here.  Every method runs under the
repository's lock and is one atomic step; the clock it reads is an argument.  The audit
trail is left out: nothing reads it back.
-/
import Arena402.Lib.Dict

namespace Arena402.Gateway

open Py

/-- A point in time, in seconds. -/
abbrev Time := Nat

/-! ### Records -/

/-- `DeviceStatus` -/
inductive DeviceStatus
  | offline
  | online
  | revoked
deriving DecidableEq, Repr

/-- Where a pairing is. -/
inductive PairingStatus
  | pending
  | approved
  | consumed
  | expired
deriving DecidableEq, Repr

/-- Where a binding is. -/
inductive BindingStatus
  | available
  | starting
  | running
  | degraded
  | stopped
deriving DecidableEq, Repr

/-- What a command asks of the Connector. -/
inductive CommandAction
  | runtimeProbe
  | sessionStart
  | taskDispatch
  | taskCancel
  | sessionStop
  | sessionResume
deriving DecidableEq, Repr

/-- Where a command is. -/
inductive CommandStatus
  | queued
  | delivered
  | accepted
  | running
  | succeeded
  | failed
  | rejected
  | expired
deriving DecidableEq, Repr

/-- One runtime of a device's inventory. -/
structure Runtime where
  runtimeId : String
  kind : String
  displayName : String
  available : Bool := true
  capabilities : List CommandAction := []
  /-- `_arena_runtime_readiness_issues` of this runtime. -/
  readinessIssues : List String := []
deriving DecidableEq, Repr

/-- A pairing of a device with an owner. -/
structure Pairing where
  pairingId : String
  ownerId : Option String
  deviceName : String
  userCode : String
  deviceCodeHash : String
  status : PairingStatus
  expiresAt : Time
  deviceId : Option String
deriving DecidableEq, Repr

/-- The record of a device. -/
structure Device where
  deviceId : String
  ownerId : String
  name : String
  status : DeviceStatus
  tokenHash : String
  revokedAt : Option Time := none
  connectorStartedAt : Option String := none
  createdAt : Time
  connectedAt : Option Time := none
  lastSeenAt : Option Time := none
  runtimes : List Runtime := []
  activeSessions : Nat := 0
  bindingEpoch : Nat := 1
  outboundSequence : Nat := 0
  lastInboundSequence : Option Nat := none
  eventAckWatermark : Nat := 0
  eventPendingSequences : List Nat := []
  connectionGeneration : Nat := 0
deriving DecidableEq, Repr

/-- A runtime on a device, bound to an Agent. -/
structure Binding where
  bindingId : String
  deviceId : String
  runtimeId : String
  agentId : String := ""
  workingDirectory : Option String := none
  status : BindingStatus := .available
  bindingEpoch : Nat
  sessionGeneration : Nat := 0
  createdAt : Time
  updatedAt : Time
  lastSessionId : Option String := none
  lastTaskId : Option String := none
  lastStoppedCommandCreatedAt : Option Time := none
deriving DecidableEq, Repr

/-- A command to a binding. -/
structure Command where
  commandId : String
  bindingId : String
  deviceId : String
  runtimeId : String
  agentId : String := ""
  bindingEpoch : Nat
  sessionId : Option String
  action : CommandAction
  /-- `payload["task"]["taskId"]` of a typed dispatch. -/
  taskId : Option String
  idempotencyKey : String
  requestFingerprint : String
  sessionGeneration : Nat
  status : CommandStatus
  createdAt : Time
  expiresAt : Time
  deliveredAt : Option Time := none
  deliveryAttempts : Nat := 0
  updatedAt : Time
  /-- The result object of the last acknowledgement. -/
  result : Option String := none
  /-- What is kept of the error of the last acknowledgement. -/
  error : Option (Dict String String) := none
  durableReady : Bool := false
deriving DecidableEq, Repr

/-- `command["error"].get("code")`. -/
def Command.errorCode (command : Command) : Option String :=
  command.error.bind fun error => error.get "code"

/-- The result of a task of an Agent. -/
structure AgentTaskResult where
  taskId : String
  resultId : String
  bindingId : String
  bindingEpoch : Nat
  deviceId : String
  commandId : String
  resultHash : String
  receivedAt : Time
  arenaSinkAcceptedAt : Option Time := none
deriving DecidableEq, Repr

/-- An event of a runtime, as it is stored. -/
structure Event where
  eventId : String
  sourceEventId : Option String
  deviceId : String
  bindingId : String
  taskId : Option String
  sequence : Nat
  eventType : String
  receivedAt : Time
deriving DecidableEq, Repr

/-- A row of `connection_leases`. -/
structure Lease where
  instanceId : String
  fencingToken : Nat
  leaseExpiresAt : Time
deriving DecidableEq, Repr

/-- `state["_connection_fence"]`. -/
structure Fence where
  deviceId : String
  instanceId : String
  fencingToken : Nat
deriving DecidableEq, Repr

/-- The state `_persist_current` hands to `save_gateway_state`; always incremental, as
    every transition of the gateway names its entities. -/
structure Snapshot where
  pairings : List Pairing := []
  devices : List Device := []
  bindings : List Binding := []
  commands : List Command := []
  agentTaskResults : List AgentTaskResult := []
  events : List Event := []
  replacePairings : Bool := false
  fence : Option Fence := none
deriving DecidableEq, Repr

/-- The tables of the gateway. -/
structure Repository where
  pairings : Dict String Pairing := []
  devices : Dict String Device := []
  bindings : Dict String Binding := []
  commands : Dict String Command := []
  agentTaskResults : Dict String AgentTaskResult := []
  events : Dict String Event := []
  connectionLeases : Dict String Lease := []
deriving DecidableEq, Repr

/-- Merging records into a collection by their ids. -/
def upsert {α : Type} (key : α → String) (rows : Dict String α) (incoming : List α) :
    Dict String α :=
  incoming.foldl (fun d item => d.set (key item) item) rows

/-- The observability window: the last 10,000 entries of an append-only stream. -/
def retained {α : Type} (rows : Dict String α) : Dict String α :=
  rows.drop (rows.length - 10000)

namespace Repository

/-! ### Connection leases -/

/-- The lease of a device names this instance and this token. -/
def holds (r : Repository) (deviceId instanceId : String) (fencingToken : Nat) : Bool :=
  match r.connectionLeases.get deviceId with
  | some lease => lease.instanceId == instanceId && lease.fencingToken == fencingToken
  | none => false

/-- `is_device_connection_owner` -/
def isDeviceConnectionOwner (r : Repository) (now : Time) (deviceId instanceId : String)
    (fencingToken : Nat) : Bool :=
  match r.connectionLeases.get deviceId with
  | some lease =>
      lease.instanceId == instanceId && lease.fencingToken == fencingToken &&
        decide (now < lease.leaseExpiresAt)
  | none => false

/-- `has_active_device_connection` -/
def hasActiveDeviceConnection (r : Repository) (now : Time) (deviceId : String) : Bool :=
  match r.connectionLeases.get deviceId with
  | some lease => decide (now < lease.leaseExpiresAt)
  | none => false

/-- A command that was delivered on an earlier connection goes back to the queue. -/
def requeue (now : Time) (deviceId : String) (command : Command) : Command :=
  if command.deviceId = deviceId ∧ command.status = .delivered then
    { command with status := .queued, deliveredAt := none, updatedAt := now }
  else command

/-- The token the next claim of a device gets. -/
def nextFencingToken (r : Repository) (deviceId : String) : Nat :=
  match r.connectionLeases.get deviceId with
  | some previous => previous.fencingToken + 1
  | none => 1

/-- `claim_device_connection` -/
def claimDeviceConnection (r : Repository) (now : Time) (deviceId instanceId : String)
    (leaseSeconds : Nat) : Nat × Repository :=
  let fencingToken := r.nextFencingToken deviceId
  (fencingToken,
    { r with
      connectionLeases :=
        r.connectionLeases.set deviceId ⟨instanceId, fencingToken, now + leaseSeconds⟩
      commands := r.commands.map fun item => (item.1, requeue now deviceId item.2) })

/-- The lease of a device with another expiry. -/
def setLeaseExpiry (r : Repository) (deviceId : String) (leaseExpiresAt : Time) : Repository :=
  match r.connectionLeases.get deviceId with
  | some lease =>
      { r with
        connectionLeases :=
          r.connectionLeases.set deviceId { lease with leaseExpiresAt := leaseExpiresAt } }
  | none => r

/-- `renew_device_connection` -/
def renewDeviceConnection (r : Repository) (now : Time) (deviceId instanceId : String)
    (fencingToken leaseSeconds : Nat) : Bool × Repository :=
  if r.isDeviceConnectionOwner now deviceId instanceId fencingToken then
    (true, r.setLeaseExpiry deviceId (now + leaseSeconds))
  else (false, r)

/-- `release_device_connection` -/
def releaseDeviceConnection (r : Repository) (now : Time) (deviceId instanceId : String)
    (fencingToken : Nat) : Bool × Repository :=
  if r.holds deviceId instanceId fencingToken then (true, r.setLeaseExpiry deviceId now)
  else (false, r)

/-- The device's record with a revocation that has been stored kept. -/
def saveUnlessRevoked (devices : Dict String Device) (deviceId : String) (device : Device) :
    Dict String Device :=
  match devices.get deviceId with
  | some current => if current.revokedAt.isSome then devices else devices.set deviceId device
  | none => devices.set deviceId device

/-- `release_device_connection_and_save_device` -/
def releaseDeviceConnectionAndSaveDevice (r : Repository) (now : Time)
    (deviceId instanceId : String) (fencingToken : Nat) (device : Device) : Bool × Repository :=
  if r.holds deviceId instanceId fencingToken then
    let released := r.setLeaseExpiry deviceId now
    (true, { released with devices := saveUnlessRevoked released.devices deviceId device })
  else (false, r)

/-! ### Writes -/

/-- The fence of a snapshot still stands: its lease is unexpired and the device is not
    revoked. -/
def fenceHolds (r : Repository) (now : Time) (fence : Fence) : Bool :=
  r.isDeviceConnectionOwner now fence.deviceId fence.instanceId fence.fencingToken &&
    match r.devices.get fence.deviceId with
    | some current => current.revokedAt.isNone
    | none => false

/-- The merge that follows the fence check. -/
def store (r : Repository) (state : Snapshot) : Repository :=
  { r with
    pairings :=
      if state.replacePairings then upsert Pairing.pairingId [] state.pairings
      else upsert Pairing.pairingId r.pairings state.pairings
    devices := upsert Device.deviceId r.devices state.devices
    bindings := upsert Binding.bindingId r.bindings state.bindings
    commands := upsert Command.commandId r.commands state.commands
    agentTaskResults := upsert AgentTaskResult.taskId r.agentTaskResults state.agentTaskResults
    events := retained (upsert Event.eventId r.events state.events) }

/-- `save_gateway_state`; `none` is `ConnectionFenceError`. -/
def saveGatewayState (r : Repository) (now : Time) (state : Snapshot) : Option Repository :=
  match state.fence with
  | some fence => if r.fenceHolds now fence then some (r.store state) else none
  | none => some (r.store state)

/-- `save_command_for_connection_owner` -/
def saveCommandForConnectionOwner (r : Repository) (now : Time) (deviceId instanceId : String)
    (fencingToken : Nat) (command : Command) : Bool × Repository :=
  if r.isDeviceConnectionOwner now deviceId instanceId fencingToken then
    match r.commands.get command.commandId with
    | some current =>
        if current.status = .queued then
          (true, { r with commands := r.commands.set command.commandId command })
        else (false, r)
    | none => (false, r)
  else (false, r)

/-- `save_outbound_sequence_for_connection_owner` -/
def saveOutboundSequenceForConnectionOwner (r : Repository) (now : Time)
    (deviceId instanceId : String) (fencingToken sequence : Nat) : Bool × Repository :=
  if r.isDeviceConnectionOwner now deviceId instanceId fencingToken then
    match r.devices.get deviceId with
    | some device =>
        (true, { r with
          devices := r.devices.set deviceId { device with outboundSequence := sequence } })
    | none => (false, r)
  else (false, r)

end Repository

/-! ### The methods of the connection owners -/

/-- A call of a Gateway instance to the repository. -/
inductive Request
  | claim (deviceId instanceId : String) (leaseSeconds : Nat)
  | isOwner (deviceId instanceId : String) (fencingToken : Nat)
  | renew (deviceId instanceId : String) (fencingToken leaseSeconds : Nat)
  | release (deviceId instanceId : String) (fencingToken : Nat)
  | releaseAndSaveDevice (deviceId instanceId : String) (fencingToken : Nat) (device : Device)
  | saveState (fence : Fence) (state : Snapshot)
  | saveCommand (deviceId instanceId : String) (fencingToken : Nat) (command : Command)
  | saveOutboundSequence (deviceId instanceId : String) (fencingToken sequence : Nat)
deriving DecidableEq, Repr

/-- What a call answers: a claim its token, `ConnectionFenceError` as `fenced`. -/
inductive Answer
  | token (fencingToken : Nat)
  | truth (value : Bool)
  | saved
  | fenced
deriving DecidableEq, Repr

namespace Request

/-- The answer of a request at a clock reading, and the repository after it. -/
def serve (r : Repository) (now : Time) : Request → Answer × Repository
  | claim deviceId instanceId leaseSeconds =>
      let claimed := r.claimDeviceConnection now deviceId instanceId leaseSeconds
      (.token claimed.1, claimed.2)
  | isOwner deviceId instanceId fencingToken =>
      (.truth (r.isDeviceConnectionOwner now deviceId instanceId fencingToken), r)
  | renew deviceId instanceId fencingToken leaseSeconds =>
      let renewed := r.renewDeviceConnection now deviceId instanceId fencingToken leaseSeconds
      (.truth renewed.1, renewed.2)
  | release deviceId instanceId fencingToken =>
      let released := r.releaseDeviceConnection now deviceId instanceId fencingToken
      (.truth released.1, released.2)
  | releaseAndSaveDevice deviceId instanceId fencingToken device =>
      let released :=
        r.releaseDeviceConnectionAndSaveDevice now deviceId instanceId fencingToken device
      (.truth released.1, released.2)
  | saveState fence state =>
      match r.saveGatewayState now { state with fence := some fence } with
      | some stored => (.saved, stored)
      | none => (.fenced, r)
  | saveCommand deviceId instanceId fencingToken command =>
      let saved := r.saveCommandForConnectionOwner now deviceId instanceId fencingToken command
      (.truth saved.1, saved.2)
  | saveOutboundSequence deviceId instanceId fencingToken sequence =>
      let saved :=
        r.saveOutboundSequenceForConnectionOwner now deviceId instanceId fencingToken sequence
      (.truth saved.1, saved.2)

/-- The device and the token a request carries; a claim carries no token. -/
def carries : Request → Option (String × Nat)
  | claim _ _ _ => none
  | isOwner deviceId _ fencingToken => some (deviceId, fencingToken)
  | renew deviceId _ fencingToken _ => some (deviceId, fencingToken)
  | release deviceId _ fencingToken => some (deviceId, fencingToken)
  | releaseAndSaveDevice deviceId _ fencingToken _ => some (deviceId, fencingToken)
  | saveState fence _ => some (fence.deviceId, fence.fencingToken)
  | saveCommand deviceId _ fencingToken _ => some (deviceId, fencingToken)
  | saveOutboundSequence deviceId _ fencingToken _ => some (deviceId, fencingToken)

/-- The answer of a request whose fence does not stand. -/
def refusal : Request → Answer
  | saveState _ _ => .fenced
  | _ => .truth false

/-- A fenced write holds records of the fenced device only, as in every transition of the
    gateway. -/
def OwnRecords (r : Repository) : Request → Prop
  | saveState fence state =>
      (∀ device ∈ state.devices, device.deviceId = fence.deviceId) ∧
        ∀ command ∈ state.commands, ∀ stored, r.commands.get command.commandId = some stored →
          stored.deviceId = fence.deviceId
  | saveCommand deviceId _ _ command =>
      ∀ stored, r.commands.get command.commandId = some stored → stored.deviceId = deviceId
  | _ => True

/-- A call and the clock it reads, as one step of the repository. -/
def step (r : Repository) (call : Time × Request) : Option Repository :=
  some (call.2.serve r call.1).2

end Request

end Arena402.Gateway
