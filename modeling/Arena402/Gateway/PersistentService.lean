/-
The actions of the Gateway instances over one repository.

A coroutine of `PersistentConnectorGateway` awaits the repository, a socket or a lock; what
it does between two awaits to the memory of its instance is one of the blocks of `Service`
or of this file.  Each such action is a constructor of `Call`, and `perform` says what it
does to the shared world.  An action that awaits the repository or a socket may also raise.
-/
import Arena402.Lib.Async
import Arena402.Gateway.Service

namespace Arena402.Gateway

open Py Async

/-! ### Blocks of the persistent gateway -/

/-- The entities one transition has touched. -/
structure Scope where
  pairingIds : List String := []
  deviceIds : List String := []
  bindingIds : List String := []
  commandIds : List String := []
  resultTaskIds : List String := []
  replacePairings : Bool := false
deriving DecidableEq, Repr

/-- What `load_device_runtime_state` reads of one device. -/
structure DeviceState where
  device : Option Device
  bindings : List Binding
  commands : List Command
  agentTaskResults : List AgentTaskResult
  events : List Event
deriving DecidableEq, Repr

namespace Repository

/-- `load_device_runtime_state` -/
def loadDeviceRuntimeState (r : Repository) (deviceId : String) : DeviceState where
  device := r.devices.get deviceId
  bindings := (r.bindings.filter fun item => item.2.deviceId == deviceId).map (·.2)
  commands := (r.commands.filter fun item => item.2.deviceId == deviceId).map (·.2)
  agentTaskResults :=
    (r.agentTaskResults.filter fun item => item.2.deviceId == deviceId).map (·.2)
  events := (r.events.filter fun item => item.2.deviceId == deviceId).map (·.2)

/-- `list_devices` -/
def listDevices (r : Repository) (ownerId : Option String) : List Device :=
  (r.devices.filter fun item => ownerId.isNone || some item.2.ownerId == ownerId).map (·.2)

/-- `list_bindings` -/
def listBindings (r : Repository) (deviceId : Option String) : List Binding :=
  (r.bindings.filter fun item => deviceId.isNone || some item.2.deviceId == deviceId).map (·.2)

/-- `get_command_by_idempotency_key` -/
def getCommandByIdempotencyKey (r : Repository) (bindingId idempotencyKey : String) :
    Option Command :=
  (r.commands.find? fun item =>
    item.2.bindingId == bindingId && item.2.idempotencyKey == idempotencyKey).map (·.2)

/-- The queued commands of the devices this instance owns, with their bindings. -/
def listQueuedCommandRoutes (r : Repository) (now : Time) (instanceId : String) (limit : Nat) :
    List (Command × Binding) :=
  let owned (deviceId : String) : Bool :=
    (match r.connectionLeases.get deviceId with
      | some lease => lease.instanceId == instanceId && decide (now < lease.leaseExpiresAt)
      | none => false) &&
    !(r.devices.any fun item => item.2.deviceId == deviceId && item.2.revokedAt.isSome)
  let routes := r.commands.filterMap fun item =>
    if owned item.2.deviceId && item.2.status == .queued && decide (now < item.2.expiresAt) then
      (r.bindings.get item.2.bindingId).map fun binding => (item.2, binding)
    else none
  (routes.insertionSort fun a b =>
    a.1.createdAt < b.1.createdAt ∨
      (a.1.createdAt = b.1.createdAt ∧ a.1.commandId ≤ b.1.commandId)).take limit

end Repository

namespace ConnectorGateway

/-- A command that was delivered by a worker that is gone. -/
def recovered (activeLeases : List String) (command : Command) : Bool :=
  command.status == .delivered && decide (command.deviceId ∉ activeLeases)

/-- A device's record as `initialize` takes it over. -/
def recoverDevice (activeLeases : List String) (item : String × Device) : Device :=
  if item.1 ∈ activeLeases then item.2
  else { item.2 with
    status := if item.2.revokedAt.isSome then .revoked else .offline
    connectionGeneration := item.2.connectionGeneration + 1 }

/-- The memory with the loaded state in it. -/
def loadState (g : ConnectorGateway) (state : Repository) (activeLeases : List String) :
    ConnectorGateway :=
  { g with
    pairings := state.pairings.map fun item => (item.2.userCode, item.2)
    pairingsByDeviceCode := (state.pairings.filter fun item =>
      item.2.status = .pending ∨ item.2.status = .approved).map fun item =>
        (item.2.deviceCodeHash, item.2.userCode)
    devices := state.devices.map fun item => (item.1, recoverDevice activeLeases item)
    bindings := state.bindings
    commands := state.commands.map fun item =>
      (item.1,
        if recovered activeLeases item.2 then
          { item.2 with status := .queued, deliveredAt := none, durableReady := true }
        else { item.2 with durableReady := true })
    agentTaskResults := state.agentTaskResults
    events := state.events.values
    persistedEventIds := state.events.values.map Event.eventId }

/-- The lock block of `initialize` that takes the loaded state over: the devices and the
    commands it has recovered. -/
def installInitial (g : ConnectorGateway) (now : Time) (state : Repository)
    (activeLeases : List String) : (List String × List String) × ConnectorGateway :=
  (((state.devices.map (·.1)).filter (· ∉ activeLeases),
      (state.commands.filter fun item => recovered activeLeases item.2).map (·.1)),
    { ((g.loadState state activeLeases).removeExpiredPairings now).rebuildEventWatermarks with
      initialized := true })

/-- A row read from the repository, with the generation never taken back. -/
def keepGeneration (g : ConnectorGateway) (shared : Device) : Device :=
  match g.devices.get shared.deviceId with
  | some existing =>
      { shared with
        connectionGeneration := max shared.connectionGeneration existing.connectionGeneration }
  | none => shared

/-- The lock block of `_refresh_device_runtime_state`. -/
def installDeviceState (g : ConnectorGateway) (deviceId : String) (shared : Device)
    (state : DeviceState) : ConnectorGateway :=
  rebuildEventWatermarks { g with
    devices := g.devices.set deviceId (g.keepGeneration shared)
    bindings := upsert Binding.bindingId
      (g.bindings.filter fun item => item.2.deviceId ≠ deviceId) state.bindings
    commands := upsert Command.commandId
      (g.commands.filter fun item => item.2.deviceId ≠ deviceId)
      (state.commands.map fun command => { command with durableReady := true })
    agentTaskResults := upsert AgentTaskResult.taskId
      (g.agentTaskResults.filter fun item => item.2.deviceId ≠ deviceId) state.agentTaskResults
    events := (g.events.filter fun event => event.deviceId ≠ deviceId) ++ state.events
    persistedEventIds := g.persistedEventIds ∪ state.events.map Event.eventId }

/-- The lock block of `list_devices`. -/
def installDevices (g : ConnectorGateway) (shared : List Device) : ConnectorGateway :=
  shared.foldl (fun g device =>
    { g with devices := g.devices.set device.deviceId (g.keepGeneration device) }) g

/-- The lock block of `list_bindings`. -/
def installBindings (g : ConnectorGateway) (deviceId : Option String) (shared : List Binding) :
    ConnectorGateway :=
  { g with
    bindings := upsert Binding.bindingId
      (g.bindings.filter fun item => deviceId.isSome && some item.2.deviceId != deviceId) shared }

/-- The lock block of `connect_device` after the claim: the larger cursors of the two copies. -/
def mergeCursors (g : ConnectorGateway) (deviceId : String) (shared : Device) : ConnectorGateway :=
  match g.devices.get deviceId with
  | some device =>
      { g with
        devices := g.devices.set deviceId
          { device with
            outboundSequence := max device.outboundSequence shared.outboundSequence
            eventAckWatermark := max device.eventAckWatermark shared.eventAckWatermark
            eventPendingSequences :=
              (device.eventPendingSequences ∪ shared.eventPendingSequences).insertionSort (· ≤ ·) } }
  | none => g

/-- One round of the loop in `route_shared_commands_once`: a command this instance knows to
    be past the queue is passed over. -/
def installRoute (state : List String × ConnectorGateway) (route : Command × Binding) :
    List String × ConnectorGateway :=
  let current := state.2.commands.get route.1.commandId
  if (current.map Command.status).getD .queued ≠ .queued then state
  else
    (state.1.insert route.1.deviceId, { state.2 with
      bindings := state.2.bindings.set route.2.bindingId route.2
      commands := state.2.commands.set route.1.commandId { route.1 with durableReady := true } })

/-- The lock block of `route_shared_commands_once`: the devices that have something to send. -/
def installRoutes (g : ConnectorGateway) (routes : List (Command × Binding)) :
    List String × ConnectorGateway :=
  routes.foldl installRoute ([], g)

/-- The lock block of `_persist_current`: a copy of the entities in scope, and of the events
    that no snapshot has stored. -/
def snapshot (g : ConnectorGateway) (scope : Scope) (fence : Option Fence) : Snapshot where
  pairings := (g.pairings.filter fun item =>
    scope.replacePairings || decide (item.2.pairingId ∈ scope.pairingIds)).map (·.2)
  devices := scope.deviceIds.filterMap g.devices.get
  bindings := scope.bindingIds.filterMap g.bindings.get
  commands := scope.commandIds.filterMap g.commands.get
  agentTaskResults := scope.resultTaskIds.filterMap g.agentTaskResults.get
  events := g.events.filter fun event => event.eventId ∉ g.persistedEventIds
  replacePairings := scope.replacePairings
  fence

/-- The lock block after the save of `_persist_current`. -/
def markPersisted (g : ConnectorGateway) (stored : List Event) : ConnectorGateway :=
  { g with
    persistedEventIds := (g.persistedEventIds ∪ stored.map Event.eventId).filter
      (· ∈ g.events.map Event.eventId) }

end ConnectorGateway

/-! ### Actions -/

/-- A block that reads the memory of an instance. -/
inductive Query
  | isInitialized
  | isDraining
  | hasResultSink
  | openConnections
  | authenticate (deviceId tokenHash : String)
  | leaseToken (websocket : Socket)
  | connectionLeaseToken (deviceId : String)
  | copyDevice (deviceId : String)
  | assertActiveConnection (deviceId : String) (websocket : Socket) (generation : Option Nat)
  | transitionFence (deviceId : String) (expectedGeneration : Option Nat)
  | resumeTransport (deviceId : String) (payload : ConnectorGateway.Resume)
      (expectedGeneration : Option Nat)
  | acknowledgeTaskAvailable (deviceId bindingId : String) (bindingEpoch : Nat)
      (expectedGeneration : Option Nat)
  | bindingIdsOf (deviceId : String)
  | snapshot (scope : Scope) (fence : Option Fence)
  | publicDevice (deviceId : String)
  | isDurable (commandId : String)
  | publicCommand (commandId : String)
  | bindingDevice (bindingId : String)
  | startNotification (wake : ConnectorGateway.Wake)
deriving DecidableEq, Repr

namespace Query

/-- The type a read gives back. -/
abbrev Reply : Query → Type
  | isInitialized => Bool
  | isDraining => Bool
  | hasResultSink => Bool
  | openConnections => List (String × Socket)
  | authenticate _ _ => Unit
  | leaseToken _ => Option Nat
  | connectionLeaseToken _ => Option Nat
  | copyDevice _ => Device
  | assertActiveConnection _ _ _ => Unit
  | transitionFence _ _ => Option Fence
  | resumeTransport _ _ _ => ConnectorGateway.ResumeAck
  | acknowledgeTaskAvailable _ _ _ _ => Unit
  | bindingIdsOf _ => List String
  | snapshot _ _ => Snapshot
  | publicDevice _ => Device
  | isDurable _ => Bool
  | publicCommand _ => Command
  | bindingDevice _ => Option String
  | startNotification _ => String × Option Socket × Nat × Bool

def eval (g : ConnectorGateway) (instanceId : String) (now : Time) :
    (q : Query) → Except Error q.Reply
  | isInitialized => .ok g.initialized
  | isDraining => .ok g.draining
  | hasResultSink => .ok g.hasResultSink
  | openConnections => .ok g.connections
  | authenticate deviceId tokenHash => g.authenticateDevice deviceId tokenHash
  | leaseToken websocket => .ok (g.connectionLeaseTokens.get websocket)
  | connectionLeaseToken deviceId =>
      .ok ((g.connections.get deviceId).bind g.connectionLeaseTokens.get)
  | copyDevice deviceId =>
      match g.devices.get deviceId with
      | some device => .ok device
      | none => .error .failure
  | assertActiveConnection deviceId websocket generation =>
      g.assertActiveConnection deviceId websocket generation
  | transitionFence deviceId expectedGeneration =>
      g.transitionFence instanceId deviceId expectedGeneration
  | resumeTransport deviceId payload expectedGeneration =>
      g.resumeTransport now deviceId payload expectedGeneration
  | acknowledgeTaskAvailable deviceId bindingId bindingEpoch expectedGeneration =>
      g.acknowledgeTaskAvailable deviceId bindingId bindingEpoch expectedGeneration
  | bindingIdsOf deviceId =>
      .ok ((g.bindings.filter fun item => item.2.deviceId == deviceId).map (·.1))
  | snapshot scope fence => .ok (g.snapshot scope fence)
  | publicDevice deviceId => g.getDevice deviceId
  | isDurable commandId => .ok (((g.commands.get commandId).map Command.durableReady).getD false)
  | publicCommand commandId =>
      match g.commands.get commandId with
      | some command => .ok command
      | none => .error .failure
  | bindingDevice bindingId => .ok ((g.bindings.get bindingId).map Binding.deviceId)
  | startNotification wake => g.startNotification wake

end Query

/-- A block that writes the memory of an instance. -/
inductive Update
  | installInitial (state : Repository) (activeLeases : List String)
  | setDraining
  | createPairing (deviceName : String)
  | approvePairing (userCode ownerId : String)
  | exchangePairing (codeHash : String)
  | installDevice (shared : Device)
  | installDeviceState (deviceId : String) (shared : Device) (state : DeviceState)
  | installDevices (shared : List Device)
  | installBindings (deviceId : Option String) (shared : List Binding)
  | installCommand (shared : Command)
  | installRoutes (routes : List (Command × Binding))
  | connect (deviceId : String) (websocket : Socket)
  | rememberToken (websocket : Socket) (fencingToken : Nat)
  | forgetToken (websocket : Socket)
  | mergeCursors (deviceId : String) (shared : Device)
  | disconnect (deviceId : String) (websocket : Socket)
  | markTransportReady (deviceId : String) (expectedGeneration : Nat)
  | applyHello (deviceId : String) (payload : ConnectorGateway.Hello)
      (expectedGeneration : Option Nat)
  | heartbeat (deviceId : String) (activeSessions expectedGeneration : Option Nat)
  | updateInventory (deviceId : String) (runtimes : List Runtime) (expectedGeneration : Option Nat)
  | observeInboundSequence (deviceId : String) (sequence expectedGeneration : Option Nat)
  | acknowledgeCommand (deviceId : String) (payload : ConnectorGateway.CommandAck)
      (expectedGeneration : Option Nat)
  | submitAgentTaskResult (deviceId : String) (payload : ConnectorGateway.ResultMessage)
      (expectedGeneration : Option Nat)
  | markSinkAccepted (taskId : String)
  | appendRuntimeEvent (deviceId : String) (payload : ConnectorGateway.EventMessage)
      (expectedGeneration : Option Nat)
  | markPersisted (stored : List Event)
  | revokeDevice (deviceId ownerId : String)
  | createBinding (deviceId runtimeId : String) (workingDirectory : Option String)
  | queueCommand (request : ConnectorGateway.CommandRequest)
  | markDurable (commandId : String)
  | startDelivery (deviceId : String)
  | reserveCommandSequence (deviceId : String) (websocket : Socket) (generation : Nat)
      (commandId : String)
  | markDelivered (deviceId : String) (websocket : Socket) (generation : Nat) (commandId : String)
  | restoreLocalCommandForReplay (commandId : String)
  | reserveNotificationSequence (deviceId : String) (websocket : Socket) (generation : Nat)
deriving DecidableEq, Repr

/-- What an action finds outside the model: the clock, the random texts it draws, and
    whether the database or the socket fails. -/
structure Choice where
  now : Time := 0
  draws : List String := []
  fails : Bool := false
deriving DecidableEq, Repr

/-- The `n`-th random text of an action. -/
def Choice.draw (c : Choice) (n : Nat) : String :=
  c.draws.getD n ""

namespace Update

/-- The type a write gives back. -/
abbrev Reply : Update → Type
  | installInitial _ _ => List String × List String
  | createPairing _ => Except Error Pairing
  | approvePairing _ _ => Except Error Pairing
  | exchangePairing _ => Except Error String
  | installRoutes _ => List String
  | connect _ _ => Nat × Option Socket
  | forgetToken _ => Option Nat
  | acknowledgeCommand _ _ _ => Command
  | submitAgentTaskResult _ _ _ => AgentTaskResult
  | appendRuntimeEvent _ _ _ => ConnectorGateway.EventReceipt
  | revokeDevice _ _ => List Socket
  | createBinding _ _ _ => Binding
  | queueCommand _ => Command
  | startDelivery _ => ConnectorGateway.Delivery
  | reserveCommandSequence _ _ _ _ => Option Nat
  | markDelivered _ _ _ _ => Option Command
  | reserveNotificationSequence _ _ _ => Option Nat
  | _ => Unit

def apply (g : ConnectorGateway) (c : Choice) :
    (u : Update) → Except Error (u.Reply × ConnectorGateway)
  | installInitial state activeLeases => .ok (g.installInitial c.now state activeLeases)
  | setDraining => .ok ((), { g with draining := true })
  | createPairing deviceName =>
      .ok (g.createPairing c.now deviceName (c.draw 0) (c.draw 1) (c.draw 2))
  | approvePairing userCode ownerId => .ok (g.approvePairing c.now userCode ownerId)
  | exchangePairing codeHash => .ok (g.exchangePairing c.now codeHash (c.draw 0) (c.draw 1))
  | installDevice shared => .ok ((), g.setDevice shared)
  | installDeviceState deviceId shared state => .ok ((), g.installDeviceState deviceId shared state)
  | installDevices shared => .ok ((), g.installDevices shared)
  | installBindings deviceId shared => .ok ((), g.installBindings deviceId shared)
  | installCommand shared =>
      .ok ((), { g with
        commands := g.commands.set shared.commandId { shared with durableReady := true } })
  | installRoutes routes => .ok (g.installRoutes routes)
  | connect deviceId websocket => g.connectDevice c.now deviceId websocket
  | rememberToken websocket fencingToken =>
      .ok ((), { g with
        connectionLeaseTokens := g.connectionLeaseTokens.set websocket fencingToken })
  | forgetToken websocket =>
      .ok (g.connectionLeaseTokens.get websocket,
        { g with connectionLeaseTokens := g.connectionLeaseTokens.erase websocket })
  | mergeCursors deviceId shared => .ok ((), g.mergeCursors deviceId shared)
  | disconnect deviceId websocket => .ok ((), g.disconnectDevice deviceId websocket)
  | markTransportReady deviceId expectedGeneration =>
      g.markTransportReady deviceId expectedGeneration
  | applyHello deviceId payload expectedGeneration =>
      g.applyHello c.now deviceId payload expectedGeneration
  | heartbeat deviceId activeSessions expectedGeneration =>
      g.heartbeat c.now deviceId activeSessions expectedGeneration
  | updateInventory deviceId runtimes expectedGeneration =>
      g.updateInventory c.now deviceId runtimes expectedGeneration
  | observeInboundSequence deviceId sequence expectedGeneration =>
      g.observeInboundSequence deviceId sequence expectedGeneration
  | acknowledgeCommand deviceId payload expectedGeneration =>
      g.acknowledgeCommand c.now deviceId payload expectedGeneration
  | submitAgentTaskResult deviceId payload expectedGeneration =>
      g.submitAgentTaskResult c.now deviceId payload expectedGeneration
  | markSinkAccepted taskId => .ok ((), g.markSinkAccepted c.now taskId)
  | appendRuntimeEvent deviceId payload expectedGeneration =>
      g.appendRuntimeEvent c.now (c.draw 0) deviceId payload expectedGeneration
  | markPersisted stored => .ok ((), g.markPersisted stored)
  | revokeDevice deviceId ownerId => g.revokeDevice c.now deviceId ownerId (c.draw 0)
  | createBinding deviceId runtimeId workingDirectory =>
      g.createBinding c.now (c.draw 0) (c.draw 1) deviceId runtimeId workingDirectory
  | queueCommand request => g.queueCommand c.now (c.draw 0) request
  | markDurable commandId => g.markDurable commandId
  | startDelivery deviceId => g.startDelivery c.now deviceId
  | reserveCommandSequence deviceId websocket generation commandId =>
      g.reserveCommandSequence deviceId websocket generation commandId
  | markDelivered deviceId websocket generation commandId =>
      g.markDelivered c.now deviceId websocket generation commandId
  | restoreLocalCommandForReplay commandId => .ok ((), g.restoreLocalCommandForReplay commandId)
  | reserveNotificationSequence deviceId websocket generation =>
      g.reserveNotificationSequence deviceId websocket generation

end Update

/-- One action of a coroutine. -/
inductive Call
  | loadGatewayState
  | hasActiveDeviceConnection (deviceId : String)
  | getDevice (deviceId : String)
  | loadDeviceRuntimeState (deviceId : String)
  | listDevices (ownerId : Option String)
  | listBindings (deviceId : Option String)
  | getBinding (bindingId : String)
  | getCommandByIdempotencyKey (bindingId idempotencyKey : String)
  | listQueuedCommandRoutes (limit : Nat)
  | claim (deviceId : String)
  | isOwner (deviceId : String) (fencingToken : Nat)
  | renew (deviceId : String) (fencingToken : Nat)
  | release (deviceId : String) (fencingToken : Nat)
  | releaseAndSaveDevice (deviceId : String) (fencingToken : Nat) (device : Device)
  | saveGatewayState (state : Snapshot)
  | saveCommand (deviceId : String) (fencingToken : Nat) (command : Command)
  | saveOutboundSequence (deviceId : String) (fencingToken sequence : Nat)
  | send (deviceId : String) (websocket : Socket) (frame : ConnectorGateway.Frame)
  | close (websocket : Socket)
  | submitToSink (taskId : String)
  | acquire (lock : Lock)
  | unlock (lock : Lock)
  | query (q : Query)
  | update (u : Update)
deriving DecidableEq, Repr

/-- The type an action gives back. -/
abbrev Call.Reply : Call → Type
  | loadGatewayState => Repository
  | hasActiveDeviceConnection _ => Bool
  | getDevice _ => Option Device
  | loadDeviceRuntimeState _ => DeviceState
  | listDevices _ => List Device
  | listBindings _ => List Binding
  | getBinding _ => Option Binding
  | getCommandByIdempotencyKey _ _ => Option Command
  | listQueuedCommandRoutes _ => List (Command × Binding)
  | claim _ => Nat
  | isOwner _ _ => Bool
  | renew _ _ => Bool
  | release _ _ => Bool
  | releaseAndSaveDevice _ _ _ => Bool
  | saveCommand _ _ _ => Bool
  | saveOutboundSequence _ _ _ => Bool
  | query q => q.Reply
  | update u => u.Reply
  | _ => Unit

/-- An action and the instance whose coroutine performs it. -/
structure Act where
  instanceId : String
  call : Call
deriving DecidableEq, Repr

/-- What an action answers. -/
abbrev Act.Reply (a : Act) : Type :=
  a.call.Reply

/-- A frame that was written to a socket of a device. -/
structure Sent where
  instanceId : String
  deviceId : String
  websocket : Socket
  frame : ConnectorGateway.Frame
deriving DecidableEq, Repr

/-- The repository, the memory of every instance, and the frames sent so far, newest last. -/
structure World where
  repository : Repository
  gateways : String → ConnectorGateway
  sent : List Sent

namespace World

/-- The world with the memory of an instance replaced. -/
def setGateway (w : World) (instanceId : String) (g : ConnectorGateway) : World :=
  { w with gateways := Function.update w.gateways instanceId g }

/-- A read of the repository. -/
def read {α : Type} (w : World) (c : Choice) (value : α) : Option (World × Except Error α) :=
  some (w, if c.fails then .error .failure else .ok value)

/-- A write of the repository. -/
def write {α : Type} (w : World) (c : Choice) (result : α × Repository) :
    Option (World × Except Error α) :=
  if c.fails then some (w, .error .failure)
  else some ({ w with repository := result.2 }, .ok result.1)

/-- What an action does when coroutine `task` performs it. -/
def perform (w : World) (c : Choice) (task : Nat) :
    (a : Act) → Option (World × Except Error a.Reply)
  | ⟨_, .loadGatewayState⟩ => w.read c w.repository
  | ⟨_, .hasActiveDeviceConnection deviceId⟩ =>
      w.read c (w.repository.hasActiveDeviceConnection c.now deviceId)
  | ⟨_, .getDevice deviceId⟩ => w.read c (w.repository.devices.get deviceId)
  | ⟨_, .loadDeviceRuntimeState deviceId⟩ =>
      w.read c (w.repository.loadDeviceRuntimeState deviceId)
  | ⟨_, .listDevices ownerId⟩ => w.read c (w.repository.listDevices ownerId)
  | ⟨_, .listBindings deviceId⟩ => w.read c (w.repository.listBindings deviceId)
  | ⟨_, .getBinding bindingId⟩ => w.read c (w.repository.bindings.get bindingId)
  | ⟨_, .getCommandByIdempotencyKey bindingId idempotencyKey⟩ =>
      w.read c (w.repository.getCommandByIdempotencyKey bindingId idempotencyKey)
  | ⟨instanceId, .listQueuedCommandRoutes limit⟩ =>
      w.read c (w.repository.listQueuedCommandRoutes c.now instanceId limit)
  | ⟨instanceId, .claim deviceId⟩ =>
      w.write c (w.repository.claimDeviceConnection c.now deviceId instanceId
        (w.gateways instanceId).connectionLeaseSeconds)
  | ⟨instanceId, .isOwner deviceId fencingToken⟩ =>
      w.read c (w.repository.isDeviceConnectionOwner c.now deviceId instanceId fencingToken)
  | ⟨instanceId, .renew deviceId fencingToken⟩ =>
      w.write c (w.repository.renewDeviceConnection c.now deviceId instanceId fencingToken
        (w.gateways instanceId).connectionLeaseSeconds)
  | ⟨instanceId, .release deviceId fencingToken⟩ =>
      w.write c (w.repository.releaseDeviceConnection c.now deviceId instanceId fencingToken)
  | ⟨instanceId, .releaseAndSaveDevice deviceId fencingToken device⟩ =>
      w.write c (w.repository.releaseDeviceConnectionAndSaveDevice c.now deviceId instanceId
        fencingToken device)
  | ⟨_, .saveGatewayState state⟩ =>
      if c.fails then some (w, .error .failure)
      else
        match w.repository.saveGatewayState c.now state with
        | some stored => some ({ w with repository := stored }, .ok ())
        | none => some (w, .error .fence)
  | ⟨instanceId, .saveCommand deviceId fencingToken command⟩ =>
      w.write c (w.repository.saveCommandForConnectionOwner c.now deviceId instanceId fencingToken
        command)
  | ⟨instanceId, .saveOutboundSequence deviceId fencingToken sequence⟩ =>
      w.write c (w.repository.saveOutboundSequenceForConnectionOwner c.now deviceId instanceId
        fencingToken sequence)
  | ⟨instanceId, .send deviceId websocket frame⟩ =>
      if c.fails then some (w, .error .failure)
      else some ({ w with sent := w.sent ++ [⟨instanceId, deviceId, websocket, frame⟩] }, .ok ())
  | ⟨_, .close _⟩ => some (w, if c.fails then .error .failure else .ok ())
  | ⟨_, .submitToSink _⟩ => some (w, if c.fails then .error .failure else .ok ())
  | ⟨instanceId, .acquire lock⟩ =>
      let g := w.gateways instanceId
      if (g.locks.get lock).isSome then none
      else some (w.setGateway instanceId { g with locks := g.locks.set lock task }, .ok ())
  | ⟨instanceId, .unlock lock⟩ =>
      let g := w.gateways instanceId
      -- a coroutine gives back only locks it holds
      if g.locks.get lock = some task then
        some (w.setGateway instanceId { g with locks := g.locks.erase lock }, .ok ())
      else some (w, .error .failure)
  | ⟨instanceId, .query q⟩ => some (w, q.eval (w.gateways instanceId) instanceId c.now)
  | ⟨instanceId, .update u⟩ =>
      match u.apply (w.gateways instanceId) c with
      | .ok (reply, g) => some (w.setGateway instanceId g, .ok reply)
      | .error error => some (w, .error error)

end World

end Arena402.Gateway
