/-
The state a Gateway instance keeps in memory, and what its methods do to it.

Every function here is the body of one `async with self._lock` block of `ConnectorGateway`
or `PersistentConnectorGateway`: it awaits nothing, so it is one atomic step.  A block that
raises has not written, unless its name says otherwise.  Audit entries and the fields of a
device that only describe it (platform, hostname, versions) are left out.
-/
import Arena402.Lib.Text
import Arena402.Gateway.Repository

namespace Arena402.Gateway

open Py

/-- The exceptions a coroutine of the gateway can see. -/
inductive Error
  | connector (statusCode : Nat) (detail : String)
  /-- `ConnectionReplacedError`, a `ConnectorError` with status 409. -/
  | replaced (detail : String)
  /-- `ConnectionFenceError` of the repository. -/
  | fence
  /-- Whatever the database, a socket or the Arena sink raises. -/
  | failure
deriving DecidableEq, Repr

/-- A socket, by a number of its own. -/
abbrev Socket := Nat

/-- The locks a coroutine can hold over an await; `_lock` is never held over one. -/
inductive Lock
  | send (deviceId : String)
  | persistence
  | initialization
  | sharedCommandRoute
deriving DecidableEq, Repr

/-- One `PersistentConnectorGateway`; `locks` gives the coroutine that holds a lock. -/
structure ConnectorGateway where
  pairings : Dict String Pairing := []
  pairingsByDeviceCode : Dict String String := []
  devices : Dict String Device := []
  bindings : Dict String Binding := []
  commands : Dict String Command := []
  agentTaskResults : Dict String AgentTaskResult := []
  events : List Event := []
  connections : Dict String Socket := []
  connectionSets : Dict String (List Socket) := []
  connectionReadyGenerations : Dict String Nat := []
  locks : Dict Lock Nat := []
  eventAckWatermarks : Dict String Nat := []
  eventPendingSequences : Dict String (List Nat) := []
  maxPendingPairings : Nat := 500
  connectionLeaseSeconds : Nat := 45
  connectionLeaseTokens : Dict Socket Nat := []
  hasResultSink : Bool := false
  persistedEventIds : List String := []
  initialized : Bool := false
  draining : Bool := false
deriving DecidableEq, Repr

/-- `str(value)[:n]`. -/
def clip (n : Nat) (text : String) : String :=
  String.ofList (text.toList.take n)

/-- `text or None`. -/
def orNone (text : String) : Option String :=
  if text = "" then none else some text

namespace ConnectorGateway

/-- `_get_device` -/
def getDevice (g : ConnectorGateway) (deviceId : String) : Except Error Device :=
  match g.devices.get deviceId with
  | some device => .ok device
  | none => .error (.connector 404 "Device not found")

/-- A revoked device is refused. -/
def ensureNotRevoked (device : Device) : Except Error Unit :=
  if device.revokedAt.isSome then .error (.connector 410 "Device has been revoked") else .ok ()

/-- The socket of an older connection is refused. -/
def ensureConnectionGeneration (device : Device) (expectedGeneration : Option Nat) :
    Except Error Unit :=
  match expectedGeneration with
  | some generation =>
      if device.connectionGeneration ≠ generation then
        .error (.connector 409 "WebSocket is no longer an active device connection")
      else .ok ()
  | none => .ok ()

/-- The checks every transition of a socket begins with. -/
def activeDevice (g : ConnectorGateway) (deviceId : String) (expectedGeneration : Option Nat) :
    Except Error Device := do
  let device ← g.getDevice deviceId
  ensureNotRevoked device
  ensureConnectionGeneration device expectedGeneration
  return device

/-- The record of a device replaced. -/
def setDevice (g : ConnectorGateway) (device : Device) : ConnectorGateway :=
  { g with devices := g.devices.set device.deviceId device }

/-- `event_ack_watermarks.get(device_id, 0)`. -/
def watermark (g : ConnectorGateway) (deviceId : String) : Nat :=
  (g.eventAckWatermarks.get deviceId).getD 0

/-- `event_pending_sequences.get(device_id)`, a set. -/
def pending (g : ConnectorGateway) (deviceId : String) : List Nat :=
  (g.eventPendingSequences.get deviceId).getD []

/-! ### Pairing -/

/-- `_remove_expired_pairings`. -/
def removeExpiredPairings (g : ConnectorGateway) (now : Time) : ConnectorGateway :=
  let stale (record : Pairing) : Bool := record.status ≠ .consumed && record.expiresAt ≤ now
  { g with
    pairings := g.pairings.filter fun item => !stale item.2
    pairingsByDeviceCode := g.pairingsByDeviceCode.filter fun item =>
      !g.pairings.any fun record => stale record.2 && record.2.deviceCodeHash == item.1 }

/-- `create_pairing`, with the codes it draws; expired records are gone also when the call
    raises, so the outcome is part of the reply. -/
def createPairing (g : ConnectorGateway) (now : Time) (deviceName pairingId userCode
    deviceCodeHash : String) : Except Error Pairing × ConnectorGateway :=
  let g := g.removeExpiredPairings now
  let openPairings := (g.pairings.filter fun item =>
    item.2.status = .pending ∨ item.2.status = .approved).length
  if g.maxPendingPairings ≤ openPairings then
    (.error (.connector 503 "Connector pairing capacity is temporarily full; retry later"), g)
  else
    let record : Pairing :=
      { pairingId, ownerId := none, deviceName, userCode, deviceCodeHash, status := .pending,
        expiresAt := now + 600, deviceId := none }
    (.ok record, { g with
      pairings := g.pairings.set userCode record
      pairingsByDeviceCode := g.pairingsByDeviceCode.set deviceCodeHash userCode })

/-- `_refresh_pairing_expiry`. -/
def refreshPairingExpiry (now : Time) (record : Pairing) : Pairing :=
  if (record.status = .pending ∨ record.status = .approved) ∧ record.expiresAt ≤ now then
    { record with status := .expired }
  else record

/-- The code under which `_get_pairing` looks: `user_code.strip().upper()`.  A code that the gateway has
    drawn, in capitals and digits, is its own. -/
def normalizedUserCode (userCode : String) : String :=
  upper (String.ofList (strip userCode.toList))

/-- `approve_pairing`; an expired record is marked also when the call raises, so the
    outcome is part of the reply. -/
def approvePairing (g : ConnectorGateway) (now : Time) (userCode ownerId : String) :
    Except Error Pairing × ConnectorGateway :=
  let normalized := normalizedUserCode userCode
  match g.pairings.get normalized with
  | none => (.error (.connector 404 "Pairing code not found"), g)
  | some stored =>
      let record := refreshPairingExpiry now stored
      let marked := { g with pairings := g.pairings.set normalized record }
      if record.status = .expired then (.error (.connector 410 "Pairing code expired"), marked)
      else if record.status = .approved then
        (.error (.connector 409 "Pairing code already approved"), marked)
      else if record.status = .consumed then
        (.error (.connector 409 "Pairing code already consumed"), marked)
      else if record.ownerId.isSome ∧ record.ownerId ≠ some ownerId then
        (.error (.connector 403 "Pairing belongs to another owner"), marked)
      else
        let approved := { record with ownerId := some ownerId, status := .approved }
        (.ok approved, { g with pairings := g.pairings.set normalized approved })

/-- `exchange_pairing`, with the device id and the token hash it draws. -/
def exchangePairing (g : ConnectorGateway) (now : Time) (codeHash deviceId tokenHash : String) :
    Except Error String × ConnectorGateway :=
  match g.pairingsByDeviceCode.get codeHash with
  | none => (.error (.connector 401 "Invalid device code"), g)
  | some userCode =>
      match g.pairings.get userCode with
      | none => (.error (.connector 404 "Pairing code not found"), g)
      | some stored =>
          let record := refreshPairingExpiry now stored
          let marked := { g with pairings := g.pairings.set userCode record }
          if record.status = .pending then
            (.error (.connector 428 "Pairing is waiting for user approval"), marked)
          else if record.status = .expired then
            (.error (.connector 410 "Pairing code expired"), marked)
          else if record.status = .consumed then
            (.error (.connector 409 "Pairing code already consumed"), marked)
          else
            let device : Device :=
              { deviceId, ownerId := record.ownerId.getD "", name := record.deviceName,
                status := .offline, tokenHash, createdAt := now }
            (.ok deviceId, { marked with
              devices := g.devices.set deviceId device
              pairings := g.pairings.set userCode
                { record with status := .consumed, deviceId := some deviceId }
              pairingsByDeviceCode := g.pairingsByDeviceCode.erase codeHash })

/-! ### Connections -/

/-- The in-memory check of `authenticate_device`. -/
def authenticateDevice (g : ConnectorGateway) (deviceId tokenHash : String) :
    Except Error Unit :=
  match g.devices.get deviceId with
  | none => .error (.connector 401 "Invalid device credentials")
  | some device =>
      if device.revokedAt.isSome then .error (.connector 410 "Device has been revoked")
      else if device.tokenHash ≠ tokenHash then
        .error (.connector 401 "Invalid device credentials")
      else .ok ()

/-- A command that may have reached the previous socket goes back to the queue. -/
def requeueDelivered (now : Time) (deviceId : String) (command : Command) : Command :=
  if command.deviceId = deviceId ∧ command.status = .delivered then
    { command with status := .queued, updatedAt := now }
  else command

/-- `ConnectorGateway.connect_device` under its lock: the generation of the new socket and
    the socket it replaces. -/
def connectDevice (g : ConnectorGateway) (now : Time) (deviceId : String) (websocket : Socket) :
    Except Error ((Nat × Option Socket) × ConnectorGateway) := do
  let device ← g.getDevice deviceId
  ensureNotRevoked device
  let generation := device.connectionGeneration + 1
  let sockets := (g.connectionSets.get deviceId).getD []
  return ((generation, g.connections.get deviceId),
    { g with
      devices := g.devices.set deviceId
        { device with
          status := .online, connectedAt := some now, lastSeenAt := some now
          connectionGeneration := generation }
      connections := g.connections.set deviceId websocket
      connectionReadyGenerations := g.connectionReadyGenerations.erase deviceId
      connectionSets := g.connectionSets.set deviceId (sockets.insert websocket)
      commands := g.commands.map fun item => (item.1, requeueDelivered now deviceId item.2) })

/-- `ConnectorGateway.disconnect_device`. -/
def disconnectDevice (g : ConnectorGateway) (deviceId : String) (websocket : Socket) :
    ConnectorGateway :=
  let connectionSets :=
    match g.connectionSets.get deviceId with
    | none => g.connectionSets
    | some sockets =>
        if sockets.erase websocket = [] then g.connectionSets.erase deviceId
        else g.connectionSets.set deviceId (sockets.erase websocket)
  if g.connections.get deviceId = some websocket then
    { g with
      connectionSets
      connections := g.connections.erase deviceId
      connectionReadyGenerations := g.connectionReadyGenerations.erase deviceId
      devices :=
        match g.devices.get deviceId with
        | some device => g.devices.set deviceId { device with status := .offline }
        | none => g.devices }
  else { g with connectionSets }

/-- `ConnectorGateway.assert_active_connection`. -/
def assertActiveConnection (g : ConnectorGateway) (deviceId : String) (websocket : Socket)
    (generation : Option Nat) : Except Error Unit := do
  let device ← g.getDevice deviceId
  ensureNotRevoked device
  if g.connections.get deviceId ≠ some websocket ∨
      (generation.isSome ∧ generation ≠ some device.connectionGeneration) then
    .error (.replaced "WebSocket is no longer an active device connection")
  else return ()

/-- `mark_transport_ready` -/
def markTransportReady (g : ConnectorGateway) (deviceId : String) (expectedGeneration : Nat) :
    Except Error (Unit × ConnectorGateway) := do
  let _ ← g.activeDevice deviceId (some expectedGeneration)
  return ((), { g with
    connectionReadyGenerations :=
      g.connectionReadyGenerations.set deviceId expectedGeneration })

/-- `_transition_fence`. -/
def transitionFence (g : ConnectorGateway) (instanceId deviceId : String)
    (expectedGeneration : Option Nat) : Except Error (Option Fence) :=
  match expectedGeneration with
  | none => .ok none
  | some _ =>
      match (g.connections.get deviceId).bind g.connectionLeaseTokens.get with
      | some fencingToken => .ok (some ⟨deviceId, instanceId, fencingToken⟩)
      | none =>
          .error (.replaced
            "WebSocket was replaced by a connection on another Gateway instance")

/-! ### Transitions of a socket -/

/-- What a `hello` carries that the gateway keeps. -/
structure Hello where
  protocolVersion : String
  startedAt : String := ""
deriving DecidableEq, Repr

/-- The binding of a device whose connector has been restarted. -/
def resetSession (now : Time) (binding : Binding) : Binding :=
  { binding with
    sessionGeneration := binding.sessionGeneration + 1
    status :=
      if binding.status ≠ .stopped ∧ (binding.lastSessionId.isSome ∨ binding.lastTaskId.isSome)
      then .degraded else binding.status
    lastSessionId := none
    lastTaskId := none
    updatedAt := now }

/-- `apply_hello` -/
def applyHello (g : ConnectorGateway) (now : Time) (deviceId : String) (payload : Hello)
    (expectedGeneration : Option Nat) : Except Error (Unit × ConnectorGateway) := do
  let device ← g.activeDevice deviceId expectedGeneration
  if payload.protocolVersion ≠ "1.0" then
    .error (.connector 409
      ("Unsupported protocol version '" ++ payload.protocolVersion ++ "'; expected 1.0"))
  else
    let startedAt := orNone (clip 128 (String.ofList (strip payload.startedAt.toList)))
    let restarted :=
      startedAt.isSome && device.connectorStartedAt.isSome && device.connectorStartedAt != startedAt
    return ((), { g with
      devices := g.devices.set deviceId
        { device with
          connectorStartedAt := startedAt.orElse fun _ => device.connectorStartedAt
          lastSeenAt := some now }
      bindings :=
        if restarted then
          g.bindings.map fun item =>
            (item.1, if item.2.deviceId = deviceId then resetSession now item.2 else item.2)
        else g.bindings })

/-- `heartbeat` -/
def heartbeat (g : ConnectorGateway) (now : Time) (deviceId : String) (activeSessions : Option Nat)
    (expectedGeneration : Option Nat) : Except Error (Unit × ConnectorGateway) := do
  let device ← g.activeDevice deviceId expectedGeneration
  return ((), { g with
    devices := g.devices.set deviceId
      { device with
        lastSeenAt := some now, status := .online
        activeSessions := activeSessions.getD device.activeSessions } })

/-- `update_inventory` -/
def updateInventory (g : ConnectorGateway) (now : Time) (deviceId : String)
    (runtimes : List Runtime) (expectedGeneration : Option Nat) :
    Except Error (Unit × ConnectorGateway) := do
  let device ← g.activeDevice deviceId expectedGeneration
  if ¬(runtimes.map Runtime.runtimeId).Nodup then
    .error (.connector 422 "runtime_id values must be unique per device")
  else
    return ((), { g with
      devices := g.devices.set deviceId { device with runtimes, lastSeenAt := some now } })

/-- `observe_inbound_sequence` -/
def observeInboundSequence (g : ConnectorGateway) (deviceId : String) (sequence : Option Nat)
    (expectedGeneration : Option Nat) : Except Error (Unit × ConnectorGateway) :=
  match sequence with
  | none => .ok ((), g)
  | some received => do
      let device ← g.activeDevice deviceId expectedGeneration
      let latest :=
        match device.lastInboundSequence with
        | some previous => max previous received
        | none => received
      return ((), { g with
        devices := g.devices.set deviceId { device with lastInboundSequence := some latest } })

/-- The cursors of a `resume` whose payload is valid. -/
structure Resume where
  lastGatewaySequence : Nat
  eventAckThrough : Nat
  pendingResultIds : List String := []
deriving DecidableEq, Repr

/-- What a resume is answered with. -/
structure ResumeAck where
  connectionGeneration : Nat
  gatewaySequence : Nat
  eventAckThrough : Nat
  acceptedResultIds : List String
  pendingCommandIds : List String
deriving DecidableEq, Repr

/-- `resume_transport`; `_result_ready_for_transport_ack` asks for the Arena sink's
    acceptance where there is a sink. -/
def resumeTransport (g : ConnectorGateway) (now : Time) (deviceId : String) (payload : Resume)
    (expectedGeneration : Option Nat) : Except Error ResumeAck := do
  let device ← g.activeDevice deviceId expectedGeneration
  if device.outboundSequence < payload.lastGatewaySequence then
    .error (.connector 409 "Connector resume cursor is ahead of the Gateway")
  else
    let authoritativeEventAck := g.watermark deviceId
    if authoritativeEventAck < payload.eventAckThrough then
      .error (.connector 409 "Connector event resume cursor is ahead of the Gateway")
    else
      let accepted := (g.agentTaskResults.filter fun item =>
        item.2.deviceId == deviceId &&
          (!g.hasResultSink || item.2.arenaSinkAcceptedAt.isSome)).map fun item => item.2.resultId
      return {
        connectionGeneration := device.connectionGeneration
        gatewaySequence := device.outboundSequence
        eventAckThrough := authoritativeEventAck
        acceptedResultIds :=
          (payload.pendingResultIds.filter (· ∈ accepted)).dedup.insertionSort (· ≤ ·)
        pendingCommandIds := ((g.commands.filter fun item =>
          item.2.deviceId = deviceId ∧ item.2.status = .queued ∧ now < item.2.expiresAt).map
            fun item => item.2.commandId).insertionSort (· ≤ ·) }

/-- `acknowledge_task_available` of a wake for a binding. -/
def acknowledgeTaskAvailable (g : ConnectorGateway) (deviceId bindingId : String)
    (bindingEpoch : Nat) (expectedGeneration : Option Nat) : Except Error Unit := do
  let _ ← g.activeDevice deviceId expectedGeneration
  match g.bindings.get bindingId with
  | none => .error (.connector 403 "Wake binding does not belong to device")
  | some binding =>
      if binding.deviceId ≠ deviceId then
        .error (.connector 403 "Wake binding does not belong to device")
      else if bindingEpoch ≠ binding.bindingEpoch then
        .error (.connector 409 "Stale Connector binding epoch")
      else return ()

/-! ### Command acknowledgements -/

/-- The error of an acknowledgement: the entries of an object, each with what `_safe_error` makes of
    its value, or the same of any other value.  The codes that are looked for are neither cut
    nor redacted, and no other text becomes one of them. -/
inductive AckError
  | object (entries : List (String × String))
  | text (message : String)
deriving DecidableEq, Repr

/-- `_safe_error`: the first twenty entries of an object. -/
def safeError : AckError → Dict String String
  | .object entries => (entries.take 20).foldl (fun d entry => d.set (clip 128 entry.1) entry.2) []
  | .text message => [("message", message)]

/-- A `command.ack`.  `status` is `none` for a text that names no status; `result` is the result
    object, of which two fields are read; `code` and `message` stand for an error that is not
    there. -/
structure CommandAck where
  commandId : String
  bindingEpoch : Option Nat := none
  status : Option CommandStatus
  sessionId : Option String := none
  result : Option String := none
  resultSessionId : Option String := none
  resultTaskId : Option String := none
  error : Option AckError := none
  code : String := ""
  message : String := ""
deriving DecidableEq, Repr

/-- `allowed`: what a connector may set. -/
def ackStatuses : List CommandStatus :=
  [.accepted, .running, .succeeded, .failed, .rejected]

/-- `transitions`. -/
def transitions : CommandStatus → List CommandStatus
  | .queued => ackStatuses
  | .delivered => ackStatuses
  | .accepted => [.accepted, .running, .succeeded, .failed, .rejected]
  | .running => [.running, .succeeded, .failed, .rejected]
  | .succeeded => [.succeeded]
  | .failed => [.failed]
  | .rejected => [.rejected]
  | .expired => []

/-- The value of a status, as error texts show it. -/
def statusValue : CommandStatus → String
  | .queued => "queued"
  | .delivered => "delivered"
  | .accepted => "accepted"
  | .running => "running"
  | .succeeded => "succeeded"
  | .failed => "failed"
  | .rejected => "rejected"
  | .expired => "expired"

/-- `error_value`. -/
def ackError (payload : CommandAck) (status : CommandStatus) : Option AckError :=
  match payload.error with
  | some error => some error
  | none =>
      if status = .failed ∨ status = .rejected then
        some (.object [("code", payload.code), ("message", payload.message)])
      else none

/-- `error_code`, of the whole object. -/
def ackErrorCode (payload : CommandAck) (status : CommandStatus) : String :=
  match ackError payload status with
  | some (.object entries) => (entries.lookup "code").getD ""
  | _ => ""

/-- What the command keeps of the error. -/
def storedError (payload : CommandAck) (status : CommandStatus) : Option (Dict String String) :=
  (ackError payload status).map safeError

/-- What an acknowledgement does to the command's binding. -/
def acknowledgedBinding (now : Time) (command : Command) (payload : CommandAck)
    (status : CommandStatus) (binding : Binding) : Binding :=
  let lifecycle := command.action = .sessionStart ∨ command.action = .sessionResume
  let olderThanRestart := lifecycle ∧ command.sessionGeneration < binding.sessionGeneration
  let sessionId :=
    (payload.sessionId.bind orNone).orElse fun _ => payload.resultSessionId.bind orNone
  let resultTaskId := payload.resultTaskId.bind orNone
  let binding :=
    match sessionId with
    | some id =>
        if olderThanRestart then binding
        else { binding with lastSessionId := some (clip 128 id) }
    | none => binding
  let binding :=
    match resultTaskId with
    | some id => { binding with lastTaskId := some (clip 128 id) }
    | none => binding
  let terminalFailure := status = .failed ∨ status = .rejected
  let errorCode := ackErrorCode payload status
  let sessionWasLost := terminalFailure ∧
    errorCode ∈ ["connector_restarted", "session_not_found", "stale_binding"]
  let olderThanStop :=
    match binding.lastStoppedCommandCreatedAt with
    | some stoppedAt => decide (command.createdAt ≤ stoppedAt)
    | none => false
  let binding :=
    if command.action = .sessionStop ∧ status = .succeeded then
      { binding with
        status := .stopped, lastStoppedCommandCreatedAt := some command.createdAt
        lastTaskId := none }
    else if lifecycle ∧ olderThanStop = false ∧ ¬olderThanRestart then
      if status = .accepted ∨ status = .running ∨ status = .succeeded then
        { binding with status := .running }
      else if terminalFailure then { binding with status := .degraded }
      else binding
    else if sessionWasLost then
      { binding with status := .degraded, lastSessionId := none, lastTaskId := none }
    else if command.action = .taskDispatch ∧ binding.status ≠ .stopped then
      { binding with status := .running }
    else if (command.action = .runtimeProbe ∨ command.action = .sessionStop) ∧ terminalFailure ∧
        binding.status ≠ .stopped then
      { binding with status := .degraded }
    else binding
  let finished := command.action = .taskDispatch ∧
    (status = .succeeded ∨ status = .failed ∨ status = .rejected) ∧
    resultTaskId.isSome ∧ binding.lastTaskId = resultTaskId
  { binding with
    lastTaskId := if finished then none else binding.lastTaskId
    updatedAt := now }

/-- `acknowledge_command` -/
def acknowledgeCommand (g : ConnectorGateway) (now : Time) (deviceId : String)
    (payload : CommandAck) (expectedGeneration : Option Nat) :
    Except Error (Command × ConnectorGateway) := do
  let _ ← g.activeDevice deviceId expectedGeneration
  match g.commands.get payload.commandId with
  | none => .error (.connector 404 "Command not found for this device")
  | some command =>
      if command.deviceId ≠ deviceId then
        .error (.connector 404 "Command not found for this device")
      else if payload.bindingEpoch.getD command.bindingEpoch ≠ command.bindingEpoch then
        .error (.connector 409 "Stale binding epoch")
      else
        match payload.status with
        | none => .error (.connector 422 "Invalid command status")
        | some status =>
            if status ∉ ackStatuses then
              .error (.connector 422 "Connector cannot set that command status")
            else if status ∉ transitions command.status then
              .error (.connector 409
                ("Invalid command transition " ++ statusValue command.status ++ " -> " ++
                  statusValue status))
            else
              let updated := { command with
                status, updatedAt := now, result := payload.result
                error := storedError payload status }
              return (updated, { g with
                commands := g.commands.set payload.commandId updated
                bindings :=
                  match g.bindings.get command.bindingId with
                  | some binding =>
                      g.bindings.set command.bindingId
                        (acknowledgedBinding now command payload status binding)
                  | none => g.bindings })

/-! ### Results and events -/

/-- An `agent_task.result` whose result is a valid `arena.agent-result.v1`. -/
structure ResultMessage where
  bindingId : String
  bindingEpoch : Nat
  taskId : String
  resultId : String
  resultHash : String
deriving DecidableEq, Repr

/-- `submit_agent_task_result` -/
def submitAgentTaskResult (g : ConnectorGateway) (now : Time) (deviceId : String)
    (payload : ResultMessage) (expectedGeneration : Option Nat) :
    Except Error (AgentTaskResult × ConnectorGateway) := do
  let _ ← g.activeDevice deviceId expectedGeneration
  match g.bindings.get payload.bindingId with
  | none => .error (.connector 404 "Binding not found for this device")
  | some binding =>
      if binding.deviceId ≠ deviceId then
        .error (.connector 404 "Binding not found for this device")
      else if payload.bindingEpoch ≠ binding.bindingEpoch then
        .error (.connector 409 "Stale binding epoch")
      else
        match g.commands.find? fun item =>
            item.2.bindingId == payload.bindingId && item.2.action == .taskDispatch &&
              item.2.taskId == some payload.taskId with
        | none =>
            .error (.connector 409
              "AgentTaskResult does not match a typed task dispatched to this binding")
        | some dispatched =>
            match g.agentTaskResults.get payload.taskId with
            | some existing =>
                if existing.resultHash ≠ payload.resultHash then
                  .error (.connector 409 "AgentTask already has a different terminal result")
                else return (existing, g)
            | none =>
                let record : AgentTaskResult :=
                  { taskId := payload.taskId, resultId := payload.resultId
                    bindingId := payload.bindingId, bindingEpoch := payload.bindingEpoch, deviceId
                    commandId := dispatched.2.commandId, resultHash := payload.resultHash
                    receivedAt := now }
                return (record, { g with
                  agentTaskResults := g.agentTaskResults.set payload.taskId record })

/-- The Arena sink has taken the result of a task. -/
def markSinkAccepted (g : ConnectorGateway) (now : Time) (taskId : String) : ConnectorGateway :=
  match g.agentTaskResults.get taskId with
  | some accepted =>
      if accepted.arenaSinkAcceptedAt.isSome then g
      else { g with
        agentTaskResults := g.agentTaskResults.set taskId
          { accepted with arenaSinkAcceptedAt := some now } }
  | none => g

/-- A `runtime.event`.  `sequence` is `none` for a value that is no number. -/
structure EventMessage where
  bindingId : String
  eventType : String
  sequence : Option Int
  eventId : String := ""
  taskId : String := ""
deriving DecidableEq, Repr

/-- What `append_runtime_event` answers: the stored event or `None` for a replay that has
    aged out, and the watermark. -/
structure EventReceipt where
  event : Option Event
  sequence : Nat
  ackThroughSequence : Nat
deriving DecidableEq, Repr

/-- `while watermark + 1 in pending`, at most `fuel` times. -/
def advanceWatermark : Nat → Nat → List Nat → Nat × List Nat
  | 0, watermark, pending => (watermark, pending)
  | fuel + 1, watermark, pending =>
      if watermark + 1 ∈ pending then
        advanceWatermark fuel (watermark + 1) (pending.filter (· ≠ watermark + 1))
      else (watermark, pending)

/-- The event types that end a task. -/
def endsTask (eventType : String) : Bool :=
  eventType ∈ ["process.exited", "runtime.task.completed", "task.completed"]

/-- `if len(self.events) > 10_000: del self.events[:1_000]`. -/
def trimEvents (events : List Event) : List Event :=
  if 10000 < events.length then events.drop 1000 else events

/-- The event type and the sequence of an event message. -/
def checkEvent (payload : EventMessage) : Except Error (String × Nat) :=
  let eventType := clip 128 payload.eventType
  if eventType = "" then .error (.connector 422 "event_type is required")
  else
    match payload.sequence with
    | none => .error (.connector 422 "runtime event sequence must be a positive integer")
    | some number =>
        if number ≤ 0 then
          .error (.connector 422 "runtime event sequence must be a positive integer")
        else .ok (eventType, number.toNat)

/-- A recorded event that a message repeats: the same source id or the same sequence. -/
def duplicateOf (g : ConnectorGateway) (deviceId : String) (supplied : Option String)
    (sequence : Nat) : Option Event :=
  g.events.find? fun existing =>
    existing.deviceId == deviceId &&
      ((supplied.isSome && existing.sourceEventId == supplied) || existing.sequence == sequence)

/-- The end of `append_runtime_event`: a new event is recorded. -/
def recordEvent (g : ConnectorGateway) (now : Time) (device : Device) (binding : Binding)
    (event : Event) : EventReceipt × ConnectorGateway :=
  let pending := g.pending event.deviceId
  let advanced :=
    advanceWatermark (pending.length + 1) (g.watermark event.deviceId) (event.sequence :: pending)
  let ended :=
    endsTask event.eventType ∧ event.taskId.isSome ∧ binding.lastTaskId = event.taskId
  (⟨some event, event.sequence, advanced.1⟩, { g with
    eventAckWatermarks := g.eventAckWatermarks.set event.deviceId advanced.1
    eventPendingSequences := g.eventPendingSequences.set event.deviceId advanced.2
    devices := g.devices.set event.deviceId
      { device with
        eventAckWatermark := advanced.1
        eventPendingSequences := advanced.2.insertionSort (· ≤ ·) }
    events := trimEvents (g.events ++ [event])
    bindings :=
      if ended then
        g.bindings.set event.bindingId { binding with lastTaskId := none, updatedAt := now }
      else g.bindings })

/-- `append_runtime_event`; `eventId` is the new id it draws. -/
def appendRuntimeEvent (g : ConnectorGateway) (now : Time) (eventId deviceId : String)
    (payload : EventMessage) (expectedGeneration : Option Nat) :
    Except Error (EventReceipt × ConnectorGateway) := do
  let device ← g.activeDevice deviceId expectedGeneration
  match g.bindings.get payload.bindingId with
  | none => .error (.connector 404 "Binding not found for this device")
  | some binding =>
      if binding.deviceId ≠ deviceId then
        .error (.connector 404 "Binding not found for this device")
      else do
        let (eventType, sequence) ← checkEvent payload
        let supplied := orNone (clip 128 payload.eventId)
        match g.duplicateOf deviceId supplied sequence with
        | some existing => return (⟨some existing, existing.sequence, g.watermark deviceId⟩, g)
        | none =>
            if sequence ≤ g.watermark deviceId ∨ sequence ∈ g.pending deviceId then
              return (⟨none, sequence, g.watermark deviceId⟩, g)
            else
              return g.recordEvent now device binding
                { eventId, sourceEventId := supplied, deviceId, bindingId := payload.bindingId
                  taskId := orNone (clip 128 payload.taskId), sequence, eventType
                  receivedAt := now }

/-- `_rebuild_event_watermarks`. -/
def rebuildEventWatermarks (g : ConnectorGateway) : ConnectorGateway :=
  let rebuilt (device : Device) : Nat × List Nat :=
    let watermark := device.eventAckWatermark
    let known := (g.events.filter fun event =>
      event.deviceId == device.deviceId && watermark < event.sequence).map Event.sequence
    let pending := ((device.eventPendingSequences.filter (watermark < ·)) ++ known).dedup
    advanceWatermark pending.length watermark pending
  { g with
    eventAckWatermarks := g.devices.map fun item => (item.1, (rebuilt item.2).1)
    eventPendingSequences := g.devices.map fun item => (item.1, (rebuilt item.2).2)
    devices := g.devices.map fun item =>
      (item.1, { item.2 with
        eventAckWatermark := (rebuilt item.2).1
        eventPendingSequences := (rebuilt item.2).2.insertionSort (· ≤ ·) }) }

/-! ### Outbound frames -/

/-- A frame a device's socket gets.  `message` is one of the frames without a sequence number:
    the welcome, an acknowledgement or an error. -/
inductive Frame
  | command (sequence : Nat) (command : Command)
  | taskAvailable (sequence : Nat) (wakeId taskId bindingId : String) (bindingEpoch : Nat)
  | message (kind : String)
deriving DecidableEq, Repr

/-- The sequence number of a frame that carries one. -/
def Frame.sequence? : Frame → Option Nat
  | .command sequence _ => some sequence
  | .taskAvailable sequence _ _ _ _ => some sequence
  | .message _ => none

/-- The socket, its generation, whether its handshake is done, and the commands to send. -/
structure Delivery where
  websocket : Option Socket
  generation : Nat
  ready : Bool
  queued : List Command
deriving DecidableEq, Repr

/-- A queued command that is due for delivery or for expiry. -/
def deliverable (deviceId : String) (command : Command) : Bool :=
  command.deviceId == deviceId && command.status == .queued && command.durableReady

/-- The first lock block of `_deliver_pending_serialized`: it also expires commands. -/
def startDelivery (g : ConnectorGateway) (now : Time) (deviceId : String) :
    Except Error (Delivery × ConnectorGateway) := do
  let device ← g.getDevice deviceId
  ensureNotRevoked device
  let generation := device.connectionGeneration
  let due := (g.commands.filter fun item =>
    deliverable deviceId item.2 && decide (now < item.2.expiresAt)).map (·.2)
  return ({
      websocket := g.connections.get deviceId
      generation
      ready := g.connectionReadyGenerations.get deviceId == some generation
      queued := due },
    { g with
      commands := g.commands.map fun item =>
        (item.1,
          if deliverable deviceId item.2 = true ∧ item.2.expiresAt ≤ now then
            { item.2 with status := .expired, updatedAt := now }
          else item.2) })

/-- The device with the next outbound sequence. -/
def nextSequence (device : Device) : Device :=
  { device with outboundSequence := device.outboundSequence + 1 }

/-- The lock block that reserves the sequence of a command frame; `none` passes over the
    command. -/
def reserveCommandSequence (g : ConnectorGateway) (deviceId : String) (websocket : Socket)
    (generation : Nat) (commandId : String) : Except Error (Option Nat × ConnectorGateway) := do
  let device ← g.getDevice deviceId
  ensureNotRevoked device
  if g.connections.get deviceId ≠ some websocket ∨ device.connectionGeneration ≠ generation ∨
      (g.commands.get commandId).map Command.status ≠ some .queued then
    return (none, g)
  else
    return (some (device.outboundSequence + 1),
      { g with devices := g.devices.set deviceId (nextSequence device) })

/-- The lock block after the frame was written: the command as it was marked delivered. -/
def markDelivered (g : ConnectorGateway) (now : Time) (deviceId : String) (websocket : Socket)
    (generation : Nat) (commandId : String) :
    Except Error (Option Command × ConnectorGateway) := do
  let device ← g.getDevice deviceId
  match g.commands.get commandId with
  | none => return (none, g)
  | some current =>
      if g.connections.get deviceId = some websocket ∧ device.connectionGeneration = generation ∧
          current.status = .queued then
        let delivered := { current with
          status := .delivered, deliveredAt := some now
          deliveryAttempts := current.deliveryAttempts + 1, updatedAt := now }
        return (some delivered, { g with commands := g.commands.set commandId delivered })
      else return (none, g)

/-- `_restore_local_command_for_replay`. -/
def restoreLocalCommandForReplay (g : ConnectorGateway) (commandId : String) : ConnectorGateway :=
  match g.commands.get commandId with
  | some current =>
      if current.status = .delivered then
        { g with
          commands := g.commands.set commandId
            { current with status := .queued, deliveredAt := none } }
      else g
  | none => g

/-- A `task.available` for a binding. -/
structure Wake where
  wakeId : String
  taskId : String
  bindingId : String
  bindingEpoch : Nat
deriving DecidableEq, Repr

/-- The first lock block of `notify_task_available`. -/
def startNotification (g : ConnectorGateway) (wake : Wake) :
    Except Error (String × Option Socket × Nat × Bool) :=
  match g.bindings.get wake.bindingId with
  | none => .error (.connector 404 "Binding not found")
  | some binding =>
      if wake.bindingEpoch ≠ binding.bindingEpoch then
        .error (.connector 409 "Stale Connector binding epoch")
      else do
        let device ← g.getDevice binding.deviceId
        ensureNotRevoked device
        let generation := device.connectionGeneration
        return (binding.deviceId, g.connections.get binding.deviceId, generation,
          g.connectionReadyGenerations.get binding.deviceId == some generation)

/-- The lock block that reserves the sequence of a `task.available`. -/
def reserveNotificationSequence (g : ConnectorGateway) (deviceId : String) (websocket : Socket)
    (generation : Nat) : Except Error (Option Nat × ConnectorGateway) := do
  let device ← g.getDevice deviceId
  if g.connections.get deviceId ≠ some websocket ∨ device.connectionGeneration ≠ generation ∨
      g.connectionReadyGenerations.get deviceId ≠ some generation then
    return (none, g)
  else
    return (some (device.outboundSequence + 1),
      { g with devices := g.devices.set deviceId (nextSequence device) })

/-! ### The control plane -/

/-- `revoke_device` under its locks, with the sockets to close; `tokenHash` is the hash of the
    token it draws. -/
def revokeDevice (g : ConnectorGateway) (now : Time) (deviceId ownerId tokenHash : String) :
    Except Error (List Socket × ConnectorGateway) := do
  let device ← g.getDevice deviceId
  if device.ownerId ≠ ownerId then
    .error (.connector 403 "Device belongs to another owner")
  else if device.revokedAt.isSome then return ([], g)
  else
    let epoch := device.bindingEpoch + 1
    return ((g.connectionSets.get deviceId).getD [], { g with
      devices := g.devices.set deviceId
        { device with
          revokedAt := some now, status := .revoked, tokenHash, bindingEpoch := epoch
          connectionGeneration := device.connectionGeneration + 1 }
      connections := g.connections.erase deviceId
      connectionSets := g.connectionSets.erase deviceId
      bindings := g.bindings.map fun item =>
        (item.1,
          if item.2.deviceId = deviceId then
            { item.2 with status := .stopped, bindingEpoch := epoch, updatedAt := now }
          else item.2) })

/-- The checks of a binding's working directory, before any lock. -/
def checkWorkingDirectory (workingDirectory : Option String) : Except Error Unit :=
  match workingDirectory with
  | some directory =>
      if strip directory.toList = [] ∨ 2048 < directory.length then
        .error (.connector 422
          ("Binding working directory must be a non-empty string " ++
            "no longer than 2048 characters"))
      else .ok ()
  | none => .ok ()

/-- `create_binding` under its lock; `bindingId` is the new id it draws, `agentId` the agent the
    request names or a new one. -/
def createBinding (g : ConnectorGateway) (now : Time)
    (bindingId agentId deviceId runtimeId : String) (workingDirectory : Option String) :
    Except Error (Binding × ConnectorGateway) := do
  let device ← g.getDevice deviceId
  ensureNotRevoked device
  match device.runtimes.find? fun item => item.runtimeId == runtimeId && item.available with
  | none => .error (.connector 404 "Runtime is not present or unavailable")
  | some _ =>
      match g.bindings.find? fun item =>
          item.2.deviceId == deviceId && item.2.runtimeId == runtimeId with
      | some (key, binding) =>
          match workingDirectory, binding.workingDirectory with
          | some directory, none =>
              let frozen := { binding with workingDirectory := some directory, updatedAt := now }
              return (frozen, { g with bindings := g.bindings.set key frozen })
          | some directory, some existing =>
              if existing ≠ directory then
                .error (.connector 409 "Binding working directory is already frozen")
              else return (binding, g)
          | none, _ => return (binding, g)
      | none =>
          let binding : Binding :=
            { bindingId, deviceId, runtimeId, agentId, workingDirectory
              bindingEpoch := device.bindingEpoch, createdAt := now, updatedAt := now }
          return (binding, { g with bindings := g.bindings.set bindingId binding })

/-- A command request whose payload has passed `_validate_command_payload`. -/
structure CommandRequest where
  bindingId : String
  action : CommandAction
  sessionId : Option String := none
  taskId : Option String := none
  requestFingerprint : String
  idempotencyKey : Option String := none
  expiresInSeconds : Nat
deriving DecidableEq, Repr

/-- The text of an action. -/
def actionValue : CommandAction → String
  | .runtimeProbe => "runtime.probe"
  | .sessionStart => "session.start"
  | .taskDispatch => "task.dispatch"
  | .taskCancel => "task.cancel"
  | .sessionStop => "session.stop"
  | .sessionResume => "session.resume"

/-- The action is on a session that there is. -/
def sessionOwned (action : CommandAction) : Bool :=
  action ∈ [.taskDispatch, .taskCancel, .sessionStop, .sessionResume]

/-- The checks `queue_command` makes of the session a request names. -/
def checkSession (binding : Binding) (request : CommandRequest) : Except Error Unit :=
  if sessionOwned request.action then
    match binding.lastSessionId with
    | none => .error (.connector 409 "Binding has no active Connector-owned session")
    | some owned =>
        if request.sessionId ≠ some owned then
          .error (.connector 409 "Session does not belong to this runtime binding")
        else .ok ()
  else .ok ()

/-- The checks `queue_command` makes of the runtime. -/
def checkRuntime (binding : Binding) (runtime : Option Runtime) (request : CommandRequest) :
    Except Error Unit :=
  if request.action = .runtimeProbe then .ok ()
  else
    match runtime with
    | none => .error (.connector 409 ("Runtime " ++ binding.runtimeId ++ " is no longer available"))
    | some runtime =>
        if !runtime.available then
          .error (.connector 409 ("Runtime " ++ binding.runtimeId ++ " is no longer available"))
        else if request.action ∉ runtime.capabilities then
          .error (.connector 409
            ("Runtime " ++ binding.runtimeId ++ " does not advertise " ++ actionValue request.action))
        else if request.action = .taskDispatch ∧ request.taskId.isSome ∧
            runtime.readinessIssues ≠ [] then
          .error (.connector 409
            ("Runtime " ++ binding.runtimeId ++ " is not ready for Arena execution: " ++
              String.intercalate ", " ((runtime.readinessIssues.take 4).map (clip 128))))
        else .ok ()

/-- The later of two commands: by creation, then by id. -/
def laterCommand (a b : Command) : Command :=
  if a.createdAt < b.createdAt ∨ (a.createdAt = b.createdAt ∧ a.commandId < b.commandId) then b
  else a

/-- The command an idempotency key selects; `none` asks for a new one. -/
def selectCommand (g : ConnectorGateway) (request : CommandRequest) :
    Except Error (Option Command) :=
  match request.idempotencyKey.bind orNone with
  | none => .ok none
  | some key =>
      match (g.commands.filter fun item =>
          item.2.bindingId == request.bindingId && item.2.idempotencyKey == key).map (·.2) with
      | [] => .ok none
      | first :: rest =>
          let previous := rest.foldl laterCommand first
          if previous.requestFingerprint = request.requestFingerprint then .ok (some previous)
          else if request.action = .taskDispatch ∧ rest = [] ∧ previous.status = .failed ∧
              previous.errorCode = some "connector_restarted" then .ok none
          else
            .error (.connector 409 "Idempotency key was already used with a different command")

/-- The first lock block of `queue_command`; `commandId` is the new id it draws. -/
def queueCommand (g : ConnectorGateway) (now : Time) (commandId : String)
    (request : CommandRequest) : Except Error (Command × ConnectorGateway) :=
  match g.bindings.get request.bindingId with
  | none => .error (.connector 404 "Binding not found")
  | some binding => do
      checkSession binding request
      let device ← g.getDevice binding.deviceId
      ensureNotRevoked device
      checkRuntime binding (device.runtimes.find? fun item => item.runtimeId == binding.runtimeId)
        request
      match ← g.selectCommand request with
      | some selected => return (selected, g)
      | none =>
          let command : Command :=
            { commandId, bindingId := binding.bindingId, deviceId := binding.deviceId
              runtimeId := binding.runtimeId, agentId := binding.agentId
              bindingEpoch := binding.bindingEpoch
              sessionId := request.sessionId.orElse fun _ => binding.lastSessionId
              action := request.action, taskId := request.taskId
              idempotencyKey := (request.idempotencyKey.bind orNone).getD commandId
              requestFingerprint := request.requestFingerprint
              sessionGeneration := binding.sessionGeneration, status := .queued, createdAt := now
              expiresAt := now + request.expiresInSeconds, updatedAt := now }
          return (command, { g with commands := g.commands.set commandId command })

/-- The lock block after the durable barrier of `queue_command`. -/
def markDurable (g : ConnectorGateway) (commandId : String) :
    Except Error (Unit × ConnectorGateway) :=
  match g.commands.get commandId with
  | none => .error (.connector 404 "Command not found")
  | some current =>
      .ok ((), { g with
        commands := g.commands.set commandId { current with durableReady := true } })

end ConnectorGateway

end Arena402.Gateway
