/-
The methods of `PersistentConnectorGateway` as coroutines.

Each method is a program over the actions of `PersistentService`, in the order of the
source, with the locks it holds.  Blocks that the source runs without an await in between
are separate actions here, so a pool has every interleaving of the source, and some more.
-/
import Arena402.Gateway.PersistentService

namespace Arena402.Gateway

open Py Async

/-- A coroutine of some instance. -/
abbrev Coroutine (α : Type) := Prog Act Act.Reply Error α

variable (self : String)

/-- One action of this instance. -/
def await (call : Call) : Coroutine call.Reply :=
  (Prog.perform (Act.mk self call) : Coroutine (Act.mk self call).Reply)

/-- A block that reads. -/
def query (q : Query) : Coroutine q.Reply :=
  await self (.query q)

/-- A block that writes. -/
def update (u : Update) : Coroutine u.Reply :=
  await self (.update u)

/-- `async with lock: body`. -/
def locked {α : Type} (lock : Lock) (body : Coroutine α) : Coroutine α := do
  await self (.acquire lock)
  body.ensuring (await self (.unlock lock))

/-- The block's own outcome, where it is part of the reply. -/
def returned {α : Type} : Except Error α → Coroutine α
  | .ok value => .ret value
  | .error error => .raise error

/-- What a call raises that has lost the connection to another instance. -/
def replacedElsewhere : Error :=
  .replaced "WebSocket was replaced by a connection on another Gateway instance"

/-! ### Persistence -/

/-- `_persist_current`. -/
def persistCurrent (scope : Scope) (fence : Option Fence) : Coroutine Unit :=
  locked self .persistence do
    let state ← query self (.snapshot scope fence)
    match ← (await self (.saveGatewayState state)).attempt with
    | .ok () => update self (.markPersisted state.events)
    | .error .fence => .raise replacedElsewhere
    | .error error => .raise error

/-- The devices of a loaded state that have an unexpired lease. -/
def activeLeases : List String → Coroutine (List String)
  | [] => pure []
  | deviceId :: rest => do
      let active ← await self (.hasActiveDeviceConnection deviceId)
      let others ← activeLeases rest
      pure (if active then deviceId :: others else others)

/-- `initialize`. -/
def initializeGateway : Coroutine Unit := do
  if ← query self .isInitialized then pure ()
  else
    locked self .initialization do
      if ← query self .isInitialized then pure ()
      else
        let state ← await self .loadGatewayState
        let active ← activeLeases self (state.devices.map (·.1))
        let (deviceIds, commandIds) ← update self (.installInitial state active)
        persistCurrent self { deviceIds, commandIds, replacePairings := true } none

/-- `_refresh_device_runtime_state`. -/
def refreshDeviceRuntimeState (deviceId : String) : Coroutine Unit := do
  let state ← await self (.loadDeviceRuntimeState deviceId)
  match state.device with
  | some shared => update self (.installDeviceState deviceId shared state)
  | none => pure ()

/-! ### Pairing -/

/-- `create_pairing`. -/
def createPairing (deviceName : String) : Coroutine Unit := do
  initializeGateway self
  let _ ← returned (← update self (.createPairing deviceName))
  persistCurrent self { replacePairings := true } none

/-- `approve_pairing`. -/
def approvePairing (userCode ownerId : String) : Coroutine Unit := do
  initializeGateway self
  let pairing ← returned (← update self (.approvePairing userCode ownerId))
  persistCurrent self { pairingIds := [pairing.pairingId] } none

/-- `exchange_pairing`. -/
def exchangePairing (codeHash : String) : Coroutine Unit := do
  initializeGateway self
  let deviceId ← returned (← update self (.exchangePairing codeHash))
  persistCurrent self { deviceIds := [deviceId], replacePairings := true } none

/-! ### Connections -/

/-- The shared record of a device takes the place of the one in memory. -/
def installShared (deviceId : String) : Coroutine Unit := do
  match ← await self (.getDevice deviceId) with
  | some shared => update self (.installDevice shared)
  | none => pure ()

/-- `authenticate_device`. -/
def authenticateDevice (deviceId tokenHash : String) : Coroutine Unit := do
  initializeGateway self
  installShared self deviceId
  query self (.authenticate deviceId tokenHash)

/-- `ConnectorGateway.connect_device`: the generation of the socket. -/
def registerSocket (deviceId : String) (websocket : Socket) : Coroutine Nat :=
  locked self (.send deviceId) do
    let (generation, previous) ← update self (.connect deviceId websocket)
    match previous with
    | some old =>
        if old ≠ websocket then
          let _ ← (await self (.close old)).attempt
          pure generation
        else pure generation
    | none => pure generation

/-- The cursors of the shared record, taken into the one in memory. -/
def mergeSharedCursors (deviceId : String) : Coroutine Unit := do
  match ← await self (.getDevice deviceId) with
  | some shared => update self (.mergeCursors deviceId shared)
  | none => pure ()

/-- `connect_device` once the device is claimed. -/
def persistConnection (deviceId : String) (websocket : Socket) (fencingToken : Nat) :
    Coroutine Unit := do
  update self (.rememberToken websocket fencingToken)
  mergeSharedCursors self deviceId
  match ← (persistCurrent self { deviceIds := [deviceId] }
      (some ⟨deviceId, self, fencingToken⟩)).attempt with
  | .ok () => pure ()
  | .error error =>
      let _ ← update self (.forgetToken websocket)
      let _ ← await self (.release deviceId fencingToken)
      update self (.disconnect deviceId websocket)
      .raise error

/-- `connect_device`. -/
def connectDevice (deviceId : String) (websocket : Socket) : Coroutine Nat := do
  initializeGateway self
  if ← query self .isDraining then
    .raise (.connector 503 "Gateway worker is draining")
  else
    refreshDeviceRuntimeState self deviceId
    let generation ← registerSocket self deviceId websocket
    match ← (await self (.claim deviceId)).attempt with
    | .error error =>
        update self (.disconnect deviceId websocket)
        .raise error
    | .ok fencingToken =>
        persistConnection self deviceId websocket fencingToken
        pure generation

/-- `disconnect_device`. -/
def disconnectDevice (deviceId : String) (websocket : Socket) : Coroutine Unit := do
  initializeGateway self
  let fencingToken ← update self (.forgetToken websocket)
  update self (.disconnect deviceId websocket)
  match fencingToken with
  | none => pure ()
  | some token =>
      let device ← query self (.copyDevice deviceId)
      if ← await self (.releaseAndSaveDevice deviceId token device) then
        persistCurrent self {} none
      else pure ()

/-- The connections `begin_drain` has copied, one after the other. -/
def drainConnections : List (String × Socket) → Coroutine Unit
  | [] => pure ()
  | (deviceId, websocket) :: rest => do
      let _ ← (await self (.close websocket)).attempt
      disconnectDevice self deviceId websocket
      drainConnections rest

/-- `begin_drain`. -/
def beginDrain : Coroutine Unit := do
  update self .setDraining
  drainConnections self (← query self .openConnections)

/-- The shared record of a device says that it is revoked. -/
def refuseRevoked (deviceId : String) : Coroutine Unit := do
  match ← await self (.getDevice deviceId) with
  | some shared =>
      if shared.revokedAt.isSome then .raise (.connector 410 "Device has been revoked")
      else pure ()
  | none => pure ()

/-- `assert_active_connection`. -/
def assertActiveConnection (deviceId : String) (websocket : Socket) (generation : Option Nat) :
    Coroutine Unit := do
  initializeGateway self
  refuseRevoked self deviceId
  query self (.assertActiveConnection deviceId websocket generation)
  match ← query self (.leaseToken websocket) with
  | none => .raise replacedElsewhere
  | some token =>
      if ← await self (.isOwner deviceId token) then pure () else .raise replacedElsewhere

/-- `_can_deliver_to_connection`. -/
def canDeliverToConnection (deviceId : String) (websocket : Socket) : Coroutine Bool := do
  match ← query self (.leaseToken websocket) with
  | none => pure false
  | some token => await self (.isOwner deviceId token)

/-- `send_active_message`. -/
def sendActiveMessage (deviceId : String) (websocket : Socket) (generation : Nat)
    (kind : String) : Coroutine Unit :=
  locked self (.send deviceId) do
    assertActiveConnection self deviceId websocket (some generation)
    await self (.send deviceId websocket (.message kind))

/-- `mark_transport_ready`. -/
def markTransportReady (deviceId : String) (expectedGeneration : Nat) : Coroutine Unit :=
  update self (.markTransportReady deviceId expectedGeneration)

/-! ### Transitions of a socket -/

/-- A transition of a socket: its block, then the entities it has touched under the fence. -/
def transition {α : Type} (deviceId : String) (expectedGeneration : Option Nat)
    (body : Coroutine α) (scope : α → Scope) : Coroutine α := do
  initializeGateway self
  let result ← body
  let fence ← query self (.transitionFence deviceId expectedGeneration)
  persistCurrent self (scope result) fence
  pure result

/-- `apply_hello`. -/
def applyHello (deviceId : String) (payload : ConnectorGateway.Hello)
    (expectedGeneration : Option Nat) : Coroutine Unit := do
  let _ ← transition self deviceId expectedGeneration
    (do
      update self (.applyHello deviceId payload expectedGeneration)
      query self (.bindingIdsOf deviceId))
    fun bindingIds => { deviceIds := [deviceId], bindingIds }

/-- `heartbeat`. -/
def heartbeat (deviceId : String) (activeSessions expectedGeneration : Option Nat) :
    Coroutine Unit :=
  transition self deviceId expectedGeneration
    (do
      update self (.heartbeat deviceId activeSessions expectedGeneration)
      match expectedGeneration with
      | none => pure ()
      | some _ =>
          match ← query self (.connectionLeaseToken deviceId) with
          | none => .raise replacedElsewhere
          | some token =>
              if ← await self (.renew deviceId token) then pure ()
              else .raise replacedElsewhere)
    fun _ => { deviceIds := [deviceId] }

/-- `update_inventory`. -/
def updateInventory (deviceId : String) (runtimes : List Runtime)
    (expectedGeneration : Option Nat) : Coroutine Unit :=
  transition self deviceId expectedGeneration
    (update self (.updateInventory deviceId runtimes expectedGeneration))
    fun _ => { deviceIds := [deviceId] }

/-- `observe_inbound_sequence`. -/
def observeInboundSequence (deviceId : String) (sequence expectedGeneration : Option Nat) :
    Coroutine Unit :=
  transition self deviceId expectedGeneration
    (update self (.observeInboundSequence deviceId sequence expectedGeneration))
    fun _ => { deviceIds := [deviceId] }

/-- `resume_transport`. -/
def resumeTransport (deviceId : String) (payload : ConnectorGateway.Resume)
    (expectedGeneration : Option Nat) : Coroutine ConnectorGateway.ResumeAck :=
  transition self deviceId expectedGeneration
    (query self (.resumeTransport deviceId payload expectedGeneration))
    fun _ => { deviceIds := [deviceId] }

/-- `acknowledge_task_available`. -/
def acknowledgeTaskAvailable (deviceId bindingId : String) (bindingEpoch : Nat)
    (expectedGeneration : Option Nat) : Coroutine Unit :=
  transition self deviceId expectedGeneration
    (query self (.acknowledgeTaskAvailable deviceId bindingId bindingEpoch expectedGeneration))
    fun _ => { deviceIds := [deviceId] }

/-- `acknowledge_command`. -/
def acknowledgeCommand (deviceId : String) (payload : ConnectorGateway.CommandAck)
    (expectedGeneration : Option Nat) : Coroutine Command :=
  transition self deviceId expectedGeneration
    (update self (.acknowledgeCommand deviceId payload expectedGeneration))
    fun command => { commandIds := [command.commandId], bindingIds := [command.bindingId] }

/-- `append_runtime_event`. -/
def appendRuntimeEvent (deviceId : String) (payload : ConnectorGateway.EventMessage)
    (expectedGeneration : Option Nat) : Coroutine ConnectorGateway.EventReceipt :=
  transition self deviceId expectedGeneration
    (update self (.appendRuntimeEvent deviceId payload expectedGeneration))
    fun _ => { deviceIds := [deviceId], bindingIds := [payload.bindingId] }

/-- `submit_agent_task_result`. -/
def submitAgentTaskResult (deviceId : String) (payload : ConnectorGateway.ResultMessage)
    (expectedGeneration : Option Nat) : Coroutine AgentTaskResult := do
  let receipt ← transition self deviceId expectedGeneration
    (update self (.submitAgentTaskResult deviceId payload expectedGeneration))
    fun _ => { resultTaskIds := [payload.taskId] }
  if ← query self .hasResultSink then
    match ← (await self (.submitToSink payload.taskId)).attempt with
    | .error _ => .raise (.connector 503 "Arena Result Sink unavailable")
    | .ok () =>
        update self (.markSinkAccepted payload.taskId)
        persistCurrent self { resultTaskIds := [payload.taskId] } none
        pure receipt
  else pure receipt

/-! ### Outbound frames -/

/-- `_prepare_outbound_sequence`. -/
def prepareOutboundSequence (deviceId : String) (sequence : Nat) : Coroutine Unit := do
  match ← query self (.connectionLeaseToken deviceId) with
  | none => .raise replacedElsewhere
  | some token =>
      if ← await self (.saveOutboundSequence deviceId token sequence) then pure ()
      else .raise replacedElsewhere

/-- `_commit_command_delivery`. -/
def commitCommandDelivery (deviceId : String) (websocket : Socket) (command : Command) :
    Coroutine Unit := do
  match ← query self (.leaseToken websocket) with
  | none => pure ()
  | some token =>
      match ← (await self (.saveCommand deviceId token command)).attempt with
      | .ok true => pure ()
      | .ok false => update self (.restoreLocalCommandForReplay command.commandId)
      | .error error =>
          update self (.restoreLocalCommandForReplay command.commandId)
          .raise error

/-- The command whose frame was written is marked delivered. -/
def commitDelivered (deviceId : String) (websocket : Socket) (generation : Nat)
    (commandId : String) : Coroutine Unit := do
  match ← update self (.markDelivered deviceId websocket generation commandId) with
  | some delivered => commitCommandDelivery self deviceId websocket delivered
  | none => pure ()

/-- The loop of `_deliver_pending_serialized`. -/
def deliverCommands (deviceId : String) (websocket : Socket) (generation : Nat) :
    List Command → Coroutine Unit
  | [] => pure ()
  | command :: rest => do
      if ← canDeliverToConnection self deviceId websocket then
        match ← update self
            (.reserveCommandSequence deviceId websocket generation command.commandId) with
        | none => deliverCommands deviceId websocket generation rest
        | some sequence =>
            prepareOutboundSequence self deviceId sequence
            if ← canDeliverToConnection self deviceId websocket then
              match ← (await self (.send deviceId websocket (.command sequence command))).attempt with
              | .error _ => pure ()
              | .ok () =>
                  commitDelivered self deviceId websocket generation command.commandId
                  deliverCommands deviceId websocket generation rest
            else pure ()
      else pure ()

/-- `deliver_pending`. -/
def deliverPending (deviceId : String) : Coroutine Unit := do
  initializeGateway self
  locked self (.send deviceId) do
    let delivery ← update self (.startDelivery deviceId)
    match delivery.websocket with
    | none => pure ()
    | some websocket =>
        if delivery.ready then
          if ← canDeliverToConnection self deviceId websocket then
            deliverCommands self deviceId websocket delivery.generation delivery.queued
          else pure ()
        else pure ()

/-- `deliver_pending` for one device after the other. -/
def deliverToDevices : List String → Coroutine Unit
  | [] => pure ()
  | deviceId :: rest => do
      deliverPending self deviceId
      deliverToDevices rest

/-- `route_shared_commands_once`. -/
def routeSharedCommandsOnce (limit : Nat) : Coroutine Unit := do
  initializeGateway self
  locked self .sharedCommandRoute do
    let routes ← await self (.listQueuedCommandRoutes limit)
    let deviceIds ← update self (.installRoutes routes)
    deliverToDevices self (deviceIds.insertionSort (· ≤ ·))

/-- `list_bindings`. -/
def listBindings (deviceId : Option String) : Coroutine Unit := do
  initializeGateway self
  let shared ← await self (.listBindings deviceId)
  update self (.installBindings deviceId shared)

/-- `notify_task_available` up to the write of the frame: whether it was sent. -/
def sendNotification (wake : ConnectorGateway.Wake) : Coroutine Bool := do
  let (deviceId, connection, generation, ready) ← query self (.startNotification wake)
  match connection with
  | none => pure false
  | some websocket =>
      if ready then
        if ← canDeliverToConnection self deviceId websocket then
          locked self (.send deviceId) do
            match ← update self (.reserveNotificationSequence deviceId websocket generation) with
            | none => pure false
            | some sequence =>
                prepareOutboundSequence self deviceId sequence
                if ← canDeliverToConnection self deviceId websocket then
                  match ← (await self (.send deviceId websocket
                      (.taskAvailable sequence wake.wakeId wake.taskId wake.bindingId
                        wake.bindingEpoch))).attempt with
                  | .ok () => pure true
                  | .error _ => pure false
                else pure false
        else pure false
      else pure false

/-- `notify_task_available`. -/
def notifyTaskAvailable (wake : ConnectorGateway.Wake) : Coroutine Unit := do
  initializeGateway self
  if ← sendNotification self wake then
    listBindings self none
    match ← query self (.bindingDevice wake.bindingId) with
    | none => pure ()
    | some deviceId =>
        match ← query self (.connectionLeaseToken deviceId) with
        | none => .raise replacedElsewhere
        | some token =>
            persistCurrent self { deviceIds := [deviceId] } (some ⟨deviceId, self, token⟩)
  else pure ()

/-! ### The control plane -/

/-- `list_devices`. -/
def listDevices (ownerId : Option String) : Coroutine Unit := do
  initializeGateway self
  let shared ← await self (.listDevices ownerId)
  update self (.installDevices shared)

/-- `get_device`. -/
def getDevice (deviceId : String) : Coroutine Unit := do
  initializeGateway self
  refreshDeviceRuntimeState self deviceId
  let device ← query self (.publicDevice deviceId)
  if device.revokedAt.isNone then
    let _ ← await self (.hasActiveDeviceConnection deviceId)
    pure ()
  else pure ()

/-- The sockets of a revoked device, one after the other. -/
def closeSockets : List Socket → Coroutine Unit
  | [] => pure ()
  | websocket :: rest => do
      let _ ← (await self (.close websocket)).attempt
      closeSockets rest

/-- `revoke_device`. -/
def revokeDevice (deviceId ownerId : String) : Coroutine Unit := do
  initializeGateway self
  refreshDeviceRuntimeState self deviceId
  locked self (.send deviceId) do
    closeSockets self (← update self (.revokeDevice deviceId ownerId))
  let bindingIds ← query self (.bindingIdsOf deviceId)
  persistCurrent self { deviceIds := [deviceId], bindingIds } none

/-- `create_binding`. -/
def createBinding (deviceId runtimeId : String) (workingDirectory : Option String) :
    Coroutine Unit := do
  initializeGateway self
  refreshDeviceRuntimeState self deviceId
  returned (ConnectorGateway.checkWorkingDirectory workingDirectory)
  let binding ← update self (.createBinding deviceId runtimeId workingDirectory)
  persistCurrent self { bindingIds := [binding.bindingId] } none

/-- `_prepare_command_delivery`. -/
def prepareCommandDelivery (commandId : String) : Coroutine Unit := do
  if ← query self (.isDurable commandId) then pure ()
  else persistCurrent self { commandIds := [commandId] } none

/-- The device of a binding, as the repository has it. -/
def refreshBindingDevice (bindingId : String) : Coroutine Unit := do
  match ← await self (.getBinding bindingId) with
  | some binding => refreshDeviceRuntimeState self binding.deviceId
  | none => pure ()

/-- The command of an idempotency key, as the repository has it. -/
def installKeyedCommand (bindingId : String) (idempotencyKey : Option String) : Coroutine Unit :=
  match idempotencyKey.bind orNone with
  | none => pure ()
  | some key => do
      match ← await self (.getCommandByIdempotencyKey bindingId key) with
      | some shared => update self (.installCommand shared)
      | none => pure ()

/-- `queue_command`. -/
def queueCommand (request : ConnectorGateway.CommandRequest) : Coroutine Unit := do
  initializeGateway self
  refreshBindingDevice self request.bindingId
  installKeyedCommand self request.bindingId request.idempotencyKey
  let command ← update self (.queueCommand request)
  prepareCommandDelivery self command.commandId
  update self (.markDurable command.commandId)
  deliverPending self command.deviceId
  let _ ← query self (.publicCommand command.commandId)
  pure ()

/-! ### Operations -/

/-- A call of a method by a socket, a REST request or a background worker. -/
inductive Op
  | createPairing (deviceName : String)
  | approvePairing (userCode ownerId : String)
  | exchangePairing (codeHash : String)
  | authenticateDevice (deviceId tokenHash : String)
  | connectDevice (deviceId : String) (websocket : Socket)
  | disconnectDevice (deviceId : String) (websocket : Socket)
  | beginDrain
  | assertActiveConnection (deviceId : String) (websocket : Socket) (generation : Nat)
  | sendActiveMessage (deviceId : String) (websocket : Socket) (generation : Nat) (kind : String)
  | markTransportReady (deviceId : String) (expectedGeneration : Nat)
  | applyHello (deviceId : String) (payload : ConnectorGateway.Hello)
      (expectedGeneration : Option Nat)
  | heartbeat (deviceId : String) (activeSessions expectedGeneration : Option Nat)
  | updateInventory (deviceId : String) (runtimes : List Runtime) (expectedGeneration : Option Nat)
  | observeInboundSequence (deviceId : String) (sequence expectedGeneration : Option Nat)
  | resumeTransport (deviceId : String) (payload : ConnectorGateway.Resume)
      (expectedGeneration : Option Nat)
  | acknowledgeTaskAvailable (deviceId bindingId : String) (bindingEpoch : Nat)
      (expectedGeneration : Option Nat)
  | acknowledgeCommand (deviceId : String) (payload : ConnectorGateway.CommandAck)
      (expectedGeneration : Option Nat)
  | appendRuntimeEvent (deviceId : String) (payload : ConnectorGateway.EventMessage)
      (expectedGeneration : Option Nat)
  | submitAgentTaskResult (deviceId : String) (payload : ConnectorGateway.ResultMessage)
      (expectedGeneration : Option Nat)
  | deliverPending (deviceId : String)
  | routeSharedCommandsOnce (limit : Nat)
  | notifyTaskAvailable (wake : ConnectorGateway.Wake)
  | listDevices (ownerId : Option String)
  | getDevice (deviceId : String)
  | revokeDevice (deviceId ownerId : String)
  | createBinding (deviceId runtimeId : String) (workingDirectory : Option String)
  | listBindings (deviceId : Option String)
  | queueCommand (request : ConnectorGateway.CommandRequest)
deriving DecidableEq, Repr

/-- What a method returned, where something is said about it. -/
inductive Outcome
  | done
  | acknowledged (command : Command)
  | appended (deviceId : String) (receipt : ConnectorGateway.EventReceipt)
  | submitted (result : AgentTaskResult)
  | revoked (deviceId : String)
deriving DecidableEq, Repr

/-- The coroutine of a call on an instance. -/
def Op.program (self : String) : Op → Coroutine Outcome
  | createPairing deviceName => do
      Gateway.createPairing self deviceName
      pure .done
  | approvePairing userCode ownerId => do
      Gateway.approvePairing self userCode ownerId
      pure .done
  | exchangePairing codeHash => do
      Gateway.exchangePairing self codeHash
      pure .done
  | authenticateDevice deviceId tokenHash => do
      Gateway.authenticateDevice self deviceId tokenHash
      pure .done
  | connectDevice deviceId websocket => do
      let _ ← Gateway.connectDevice self deviceId websocket
      pure .done
  | disconnectDevice deviceId websocket => do
      Gateway.disconnectDevice self deviceId websocket
      pure .done
  | beginDrain => do
      Gateway.beginDrain self
      pure .done
  | assertActiveConnection deviceId websocket generation => do
      Gateway.assertActiveConnection self deviceId websocket (some generation)
      pure .done
  | sendActiveMessage deviceId websocket generation kind => do
      Gateway.sendActiveMessage self deviceId websocket generation kind
      pure .done
  | markTransportReady deviceId expectedGeneration => do
      Gateway.markTransportReady self deviceId expectedGeneration
      pure .done
  | applyHello deviceId payload expectedGeneration => do
      Gateway.applyHello self deviceId payload expectedGeneration
      pure .done
  | heartbeat deviceId activeSessions expectedGeneration => do
      Gateway.heartbeat self deviceId activeSessions expectedGeneration
      pure .done
  | updateInventory deviceId runtimes expectedGeneration => do
      Gateway.updateInventory self deviceId runtimes expectedGeneration
      pure .done
  | observeInboundSequence deviceId sequence expectedGeneration => do
      Gateway.observeInboundSequence self deviceId sequence expectedGeneration
      pure .done
  | resumeTransport deviceId payload expectedGeneration => do
      let _ ← Gateway.resumeTransport self deviceId payload expectedGeneration
      pure .done
  | acknowledgeTaskAvailable deviceId bindingId bindingEpoch expectedGeneration => do
      Gateway.acknowledgeTaskAvailable self deviceId bindingId bindingEpoch expectedGeneration
      pure .done
  | acknowledgeCommand deviceId payload expectedGeneration => do
      let command ← Gateway.acknowledgeCommand self deviceId payload expectedGeneration
      pure (.acknowledged command)
  | appendRuntimeEvent deviceId payload expectedGeneration => do
      let receipt ← Gateway.appendRuntimeEvent self deviceId payload expectedGeneration
      pure (.appended deviceId receipt)
  | submitAgentTaskResult deviceId payload expectedGeneration => do
      let result ← Gateway.submitAgentTaskResult self deviceId payload expectedGeneration
      pure (.submitted result)
  | deliverPending deviceId => do
      Gateway.deliverPending self deviceId
      pure .done
  | routeSharedCommandsOnce limit => do
      Gateway.routeSharedCommandsOnce self limit
      pure .done
  | notifyTaskAvailable wake => do
      Gateway.notifyTaskAvailable self wake
      pure .done
  | listDevices ownerId => do
      Gateway.listDevices self ownerId
      pure .done
  | getDevice deviceId => do
      Gateway.getDevice self deviceId
      pure .done
  | revokeDevice deviceId ownerId => do
      Gateway.revokeDevice self deviceId ownerId
      pure (.revoked deviceId)
  | createBinding deviceId runtimeId workingDirectory => do
      Gateway.createBinding self deviceId runtimeId workingDirectory
      pure .done
  | listBindings deviceId => do
      Gateway.listBindings self deviceId
      pure .done
  | queueCommand request => do
      Gateway.queueCommand self request
      pure .done

/-- The instances with their coroutines, some of them done. -/
abbrev Deployment := Pool Act Act.Reply Error World Outcome

/-- One step of a deployment: a call begins on an instance, or a coroutine performs its next
    action. -/
def Deployment.step (d : Deployment) (e : Async.Event (String × Op) Choice) : Option Deployment :=
  Pool.step World.perform (fun op : String × Op => op.2.program op.1) d e

end Arena402.Gateway
