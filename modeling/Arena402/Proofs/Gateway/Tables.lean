/-
What a block of the gateway does to its tables.

Most blocks rewrite rows in place and leave their identity alone: `Quiet` says how.  The
blocks that do more are the ones that add a device, a binding, a command or a result, and
the acknowledgement of a command; `Effect` has one case for each of them, so that an
invariant of the tables is proved by cases on it and never unfolds a block.
-/
import Arena402.Lib.Rows
import Arena402.Gateway.Operations
import Arena402.Proofs.Gateway.Memory

namespace Arena402.Gateway

open Py

/-! ### Rows that are rewritten in place -/

/-- What a command was queued with: everything but what deliveries and acknowledgements set. -/
def Command.request (command : Command) : Command :=
  { command with
    status := .queued, deliveredAt := none, deliveryAttempts := 0, updatedAt := 0
    result := none, error := none, durableReady := false }

/-- A command after a block that is no acknowledgement. -/
structure Command.Moved (old new : Command) : Prop where
  request : new.request = old.request
  error : new.error = old.error
  /-- A final status stays. -/
  final : old.status.isTerminal = true → new.status = old.status
  /-- A status that only an acknowledgement sets is not reached. -/
  outcome : new.status = old.status ∨
    new.status = .queued ∨ new.status = .delivered ∨ new.status = .expired

/-- A binding after a block that is no acknowledgement. -/
structure Binding.Calm (old new : Binding) : Prop where
  bindingId : new.bindingId = old.bindingId
  deviceId : new.deviceId = old.deviceId
  runtimeId : new.runtimeId = old.runtimeId
  agentId : new.agentId = old.agentId
  /-- A working directory is set once. -/
  directory : old.workingDirectory.isSome → new.workingDirectory = old.workingDirectory
  stopped : old.status = .stopped → new.status = .stopped
  stoppedAt : new.lastStoppedCommandCreatedAt = old.lastStoppedCommandCreatedAt
  generation : old.sessionGeneration ≤ new.sessionGeneration

/-- A device after a block, as far as its runtimes go. -/
structure Device.Stable (old new : Device) : Prop where
  deviceId : new.deviceId = old.deviceId
  runtimes : new.runtimes = old.runtimes ∨ (new.runtimes.map Runtime.runtimeId).Nodup

theorem Command.Moved.refl (command : Command) : command.Moved command :=
  ⟨rfl, rfl, fun _ => rfl, Or.inl rfl⟩

theorem Binding.Calm.refl (binding : Binding) : binding.Calm binding :=
  ⟨rfl, rfl, rfl, rfl, fun _ => rfl, id, rfl, le_rfl⟩

theorem Device.Stable.refl (device : Device) : device.Stable device :=
  ⟨rfl, Or.inl rfl⟩

/-- The tables after a block that adds no row and acknowledges nothing. -/
structure Quiet (g g' : ConnectorGateway) : Prop where
  devices : Dict.Related Device.Stable g.devices g'.devices
  bindings : Dict.Related Binding.Calm g.bindings g'.bindings
  commands : Dict.Related Command.Moved g.commands g'.commands
  results : g'.agentTaskResults = g.agentTaskResults

variable {g g' : ConnectorGateway} {now : Time} {d : String} {expected : Option Nat}

theorem Quiet.refl (g : ConnectorGateway) : Quiet g g :=
  ⟨.refl Device.Stable.refl _, .refl Binding.Calm.refl _, .refl Command.Moved.refl _, rfl⟩

theorem Quiet.of_eq (hdevices : g'.devices = g.devices) (hbindings : g'.bindings = g.bindings)
    (hcommands : g'.commands = g.commands) (hresults : g'.agentTaskResults = g.agentTaskResults) :
    Quiet g g' := by
  refine ⟨?_, ?_, ?_, hresults⟩
  · rw [hdevices]
    exact .refl Device.Stable.refl _
  · rw [hbindings]
    exact .refl Binding.Calm.refl _
  · rw [hcommands]
    exact .refl Command.Moved.refl _

/-- A block that writes the record of one device. -/
theorem Quiet.of_device {old new : Device} (hget : g.devices.get d = some old)
    (hnew : old.Stable new) : Quiet g { g with devices := g.devices.set d new } :=
  ⟨Dict.related_set Device.Stable.refl _ ⟨old, hget, hnew⟩, .refl Binding.Calm.refl _,
    .refl Command.Moved.refl _, rfl⟩

/-- A block that writes one binding. -/
theorem Quiet.of_binding {key : String} {old new : Binding} (hget : g.bindings.get key = some old)
    (hnew : old.Calm new) : Quiet g { g with bindings := g.bindings.set key new } :=
  ⟨.refl Device.Stable.refl _, Dict.related_set Binding.Calm.refl _ ⟨old, hget, hnew⟩,
    .refl Command.Moved.refl _, rfl⟩

/-- A block that rewrites the rows of the commands. -/
theorem Quiet.of_commands {commands : Dict String Command}
    (h : Dict.Related Command.Moved g.commands commands) : Quiet g { g with commands } :=
  ⟨.refl Device.Stable.refl _, .refl Binding.Calm.refl _, h, rfl⟩

namespace ConnectorGateway

/-! ### Blocks that add no row -/

theorem resetSession_calm (binding : Binding) : binding.Calm (resetSession now binding) := by
  refine ⟨rfl, rfl, rfl, rfl, fun _ => rfl, ?_, rfl, Nat.le_succ _⟩
  intro hstopped
  simp [resetSession, hstopped]

theorem applyHello_quiet {payload : Hello} {u : Unit}
    (h : g.applyHello now d payload expected = .ok (u, g')) : Quiet g g' := by
  obtain ⟨device, hdevice, h⟩ := ok_of_bind h
  obtain ⟨-, h⟩ := ok_of_guard h
  obtain ⟨-, rfl⟩ := Prod.mk.inj (Except.ok.inj h)
  refine ⟨Dict.related_set Device.Stable.refl _
    ⟨device, (activeDevice_ok hdevice).1, rfl, Or.inl rfl⟩, ?_, .refl Command.Moved.refl _, rfl⟩
  dsimp only
  split_ifs with hrestarted
  · refine Dict.related_map ?_ g.bindings
    intro item
    refine ⟨rfl, ?_⟩
    by_cases hd : item.2.deviceId = d
    · rw [if_pos hd]
      exact resetSession_calm item.2
    · rw [if_neg hd]
      exact .refl item.2
  · exact .refl Binding.Calm.refl _

theorem heartbeat_quiet {sessions : Option Nat} {u : Unit}
    (h : g.heartbeat now d sessions expected = .ok (u, g')) : Quiet g g' := by
  obtain ⟨device, hdevice, h⟩ := ok_of_bind h
  obtain ⟨-, rfl⟩ := Prod.mk.inj (Except.ok.inj h)
  exact .of_device (activeDevice_ok hdevice).1 ⟨rfl, Or.inl rfl⟩

theorem updateInventory_quiet {runtimes : List Runtime} {u : Unit}
    (h : g.updateInventory now d runtimes expected = .ok (u, g')) : Quiet g g' := by
  obtain ⟨device, hdevice, h⟩ := ok_of_bind h
  obtain ⟨hnodup, h⟩ := ok_of_guard h
  obtain ⟨-, rfl⟩ := Prod.mk.inj (Except.ok.inj h)
  exact .of_device (activeDevice_ok hdevice).1 ⟨rfl, Or.inr (not_not.mp hnodup)⟩

theorem observeInboundSequence_quiet {sequence : Option Nat} {u : Unit}
    (h : g.observeInboundSequence d sequence expected = .ok (u, g')) : Quiet g g' := by
  cases sequence with
  | none =>
      obtain ⟨-, rfl⟩ := Prod.mk.inj (Except.ok.inj h)
      exact .refl g
  | some received =>
      obtain ⟨device, hdevice, h⟩ := ok_of_bind h
      obtain ⟨-, rfl⟩ := Prod.mk.inj (Except.ok.inj h)
      exact .of_device (activeDevice_ok hdevice).1 ⟨rfl, Or.inl rfl⟩

theorem markTransportReady_quiet {generation : Nat} {u : Unit}
    (h : g.markTransportReady d generation = .ok (u, g')) : Quiet g g' := by
  obtain ⟨device, hdevice, h⟩ := ok_of_bind h
  obtain ⟨-, rfl⟩ := Prod.mk.inj (Except.ok.inj h)
  exact .of_eq rfl rfl rfl rfl

theorem disconnectDevice_quiet (websocket : Socket) : Quiet g (g.disconnectDevice d websocket) := by
  unfold disconnectDevice
  by_cases hsocket : g.connections.get d = some websocket
  · rw [if_pos hsocket]
    refine ⟨?_, .refl Binding.Calm.refl _, .refl Command.Moved.refl _, rfl⟩
    dsimp only
    cases hget : g.devices.get d with
    | none => exact .refl Device.Stable.refl _
    | some device => exact Dict.related_set Device.Stable.refl _ ⟨device, hget, rfl, Or.inl rfl⟩
  · rw [if_neg hsocket]
    exact .of_eq rfl rfl rfl rfl

theorem connectDevice_quiet {websocket : Socket} {reply : Nat × Option Socket}
    (h : g.connectDevice now d websocket = .ok (reply, g')) : Quiet g g' := by
  obtain ⟨device, hdevice, h⟩ := ok_of_bind h
  obtain ⟨_, -, h⟩ := ok_of_bind h
  obtain ⟨-, rfl⟩ := Prod.mk.inj (Except.ok.inj h)
  refine ⟨Dict.related_set Device.Stable.refl _ ⟨device, getDevice_ok hdevice, rfl, Or.inl rfl⟩,
    .refl Binding.Calm.refl _, ?_, rfl⟩
  refine Dict.related_map ?_ g.commands
  intro item
  refine ⟨rfl, ?_⟩
  unfold requeueDelivered
  by_cases hdelivered : item.2.deviceId = d ∧ item.2.status = .delivered
  · rw [if_pos hdelivered]
    refine ⟨rfl, rfl, ?_, Or.inr (Or.inl rfl)⟩
    rw [hdelivered.2]
    intro hfinal
    cases hfinal
  · rw [if_neg hdelivered]
    exact .refl item.2

theorem appendRuntimeEvent_quiet {eventId : String} {payload : EventMessage}
    {receipt : EventReceipt}
    (h : g.appendRuntimeEvent now eventId d payload expected = .ok (receipt, g')) :
    Quiet g g' := by
  obtain ⟨rfl, -⟩ | ⟨device, binding, event, hget, hbinding, -, rfl, -, -, -, -, heq⟩ :=
    appendRuntimeEvent_cases h
  · exact .refl _
  · obtain ⟨-, rfl⟩ := Prod.mk.inj heq
    refine ⟨Dict.related_set Device.Stable.refl _ ⟨device, hget, rfl, Or.inl rfl⟩, ?_,
      .refl Command.Moved.refl _, rfl⟩
    dsimp only
    split_ifs with hended
    · exact Dict.related_set Binding.Calm.refl _
        ⟨binding, hbinding, rfl, rfl, rfl, rfl, fun _ => rfl, id, rfl, le_rfl⟩
    · exact .refl Binding.Calm.refl _

theorem startDelivery_quiet {delivery : Delivery}
    (h : g.startDelivery now d = .ok (delivery, g')) : Quiet g g' := by
  obtain ⟨device, -, h⟩ := ok_of_bind h
  obtain ⟨_, -, h⟩ := ok_of_bind h
  obtain ⟨-, rfl⟩ := Prod.mk.inj (Except.ok.inj h)
  refine .of_commands (Dict.related_map ?_ g.commands)
  intro item
  refine ⟨rfl, ?_⟩
  by_cases hexpired : deliverable d item.2 = true ∧ item.2.expiresAt ≤ now
  · rw [if_pos hexpired]
    refine ⟨rfl, rfl, ?_, Or.inr (Or.inr (Or.inr rfl))⟩
    have hqueued : item.2.status = .queued := by
      simpa using (Bool.and_eq_true_iff.mp (Bool.and_eq_true_iff.mp hexpired.1).1).2
    rw [hqueued]
    intro hfinal
    cases hfinal
  · rw [if_neg hexpired]
    exact .refl item.2

theorem reserveCommandSequence_quiet {websocket : Socket} {generation : Nat} {commandId : String}
    {sequence : Option Nat}
    (h : g.reserveCommandSequence d websocket generation commandId = .ok (sequence, g')) :
    Quiet g g' := by
  obtain ⟨-, rfl⟩ | ⟨device, hget, -, -, -, rfl⟩ := reserveCommandSequence_cases h
  · exact .refl _
  · exact .of_device hget ⟨rfl, Or.inl rfl⟩

theorem reserveNotificationSequence_quiet {websocket : Socket} {generation : Nat}
    {sequence : Option Nat}
    (h : g.reserveNotificationSequence d websocket generation = .ok (sequence, g')) :
    Quiet g g' := by
  obtain ⟨-, rfl⟩ | ⟨device, hget, -, -, rfl⟩ := reserveNotificationSequence_cases h
  · exact .refl _
  · exact .of_device hget ⟨rfl, Or.inl rfl⟩

theorem markDelivered_quiet {websocket : Socket} {generation : Nat} {commandId : String}
    {delivered : Option Command}
    (h : g.markDelivered now d websocket generation commandId = .ok (delivered, g')) :
    Quiet g g' := by
  obtain rfl | ⟨current, hget, hqueued, rfl⟩ := markDelivered_cases h
  · exact .refl _
  · refine .of_commands (Dict.related_set Command.Moved.refl _
      ⟨current, hget, rfl, rfl, ?_, Or.inr (Or.inr (Or.inl rfl))⟩)
    rw [hqueued]
    intro hfinal
    cases hfinal

theorem markDurable_quiet {commandId : String} {u : Unit}
    (h : g.markDurable commandId = .ok (u, g')) : Quiet g g' := by
  unfold markDurable at h
  cases hget : g.commands.get commandId with
  | none =>
      rw [hget] at h
      cases h
  | some current =>
      rw [hget] at h
      obtain ⟨-, rfl⟩ := Prod.mk.inj (Except.ok.inj h)
      exact .of_commands (Dict.related_set Command.Moved.refl _
        ⟨current, hget, rfl, rfl, fun _ => rfl, Or.inl rfl⟩)

theorem createPairing_quiet (deviceName pairingId userCode codeHash : String) :
    Quiet g (g.createPairing now deviceName pairingId userCode codeHash).2 := by
  unfold createPairing
  dsimp only
  by_cases hfull : (g.removeExpiredPairings now).maxPendingPairings ≤
      ((g.removeExpiredPairings now).pairings.filter fun item =>
        item.2.status = .pending ∨ item.2.status = .approved).length
  · rw [if_pos hfull]
    exact .of_eq rfl rfl rfl rfl
  · rw [if_neg hfull]
    exact .of_eq rfl rfl rfl rfl

theorem approvePairing_quiet (userCode ownerId : String) :
    Quiet g (g.approvePairing now userCode ownerId).2 := by
  unfold approvePairing
  dsimp only
  cases g.pairings.get (normalizedUserCode userCode) with
  | none => exact .refl g
  | some stored =>
      dsimp only
      split_ifs <;> exact .of_eq rfl rfl rfl rfl

theorem revokeDevice_quiet {ownerId tokenHash : String} {sockets : List Socket}
    (h : g.revokeDevice now d ownerId tokenHash = .ok (sockets, g')) : Quiet g g' := by
  obtain ⟨device, hdevice, h⟩ := ok_of_bind h
  obtain ⟨-, h⟩ := ok_of_guard h
  by_cases hrevoked : device.revokedAt.isSome = true
  · rw [if_pos hrevoked] at h
    obtain ⟨-, rfl⟩ := Prod.mk.inj (Except.ok.inj h)
    exact .refl g
  · rw [if_neg hrevoked] at h
    obtain ⟨-, rfl⟩ := Prod.mk.inj (Except.ok.inj h)
    refine ⟨Dict.related_set Device.Stable.refl _ ⟨device, getDevice_ok hdevice, rfl, Or.inl rfl⟩,
      ?_, .refl Command.Moved.refl _, rfl⟩
    refine Dict.related_map ?_ g.bindings
    intro item
    refine ⟨rfl, ?_⟩
    by_cases hd : item.2.deviceId = d
    · rw [if_pos hd]
      exact ⟨rfl, rfl, rfl, rfl, fun _ => rfl, fun _ => rfl, rfl, le_rfl⟩
    · rw [if_neg hd]
      exact .refl item.2

/-! ### Acknowledgements -/

/-- An acknowledgement that nothing speaks against is taken. -/
theorem Acknowledges.taken {payload : CommandAck} {command : Command} {status : CommandStatus}
    {device : Device} (h : Acknowledges g now d payload command status g')
    (hdevice : g.activeDevice d expected = .ok device) :
    g.acknowledgeCommand now d payload expected =
      .ok (acknowledgedCommand now command payload status, g') := by
  obtain rfl := h.deviceId
  unfold acknowledgeCommand
  rw [hdevice]
  simp only [bind, Except.bind, h.stored, h.epoch, h.named, h.allowed, h.transition,
    h.left, ne_eq, not_true_eq_false, if_false]
  rfl

/-! ### All blocks -/

/-- What a block can do to the tables. -/
inductive Effect (g g' : ConnectorGateway) : Choice × Update → Prop
  | quiet {event : Choice × Update} (h : Quiet g g') : Effect g g' event
  | enrolled {c : Choice} {codeHash : String} {device : Device}
      (hid : device.deviceId = c.draw 0) (hruntimes : device.runtimes = [])
      (hdevices : g'.devices = g.devices.set (c.draw 0) device)
      (hbindings : g'.bindings = g.bindings) (hcommands : g'.commands = g.commands)
      (hresults : g'.agentTaskResults = g.agentTaskResults) :
      Effect g g' (c, .exchangePairing codeHash)
  | bound {c : Choice} {d runtimeId : String} {directory : Option String} {binding : Binding}
      (hid : binding.bindingId = c.draw 0) (hdevice : binding.deviceId = d)
      (hruntime : binding.runtimeId = runtimeId)
      (hnever : binding.lastStoppedCommandCreatedAt = none)
      (hunbound : ∀ item ∈ g.bindings, ¬(item.2.deviceId = d ∧ item.2.runtimeId = runtimeId))
      (heq : g' = { g with bindings := g.bindings.set (c.draw 0) binding }) :
      Effect g g' (c, .createBinding d runtimeId directory)
  | queued {c : Choice} {request : CommandRequest} {binding : Binding} {command : Command}
      (h : Queues g c.now (c.draw 0) request binding command)
      (heq : g' = { g with commands := g.commands.set (c.draw 0) command }) :
      Effect g g' (c, .queueCommand request)
  | acknowledged {c : Choice} {d : String} {payload : CommandAck} {expected : Option Nat}
      {command : Command} {status : CommandStatus}
      (hactive : ∃ device, g.activeDevice d expected = .ok device)
      (h : Acknowledges g c.now d payload command status g') :
      Effect g g' (c, .acknowledgeCommand d payload expected)
  | submitted {c : Choice} {d : String} {payload : ResultMessage} {expected : Option Nat}
      {record : AgentTaskResult} {binding : Binding} {dispatched : String × Command}
      (h : Submits g d payload record binding dispatched)
      (heq : g' = { g with agentTaskResults := g.agentTaskResults.set payload.taskId record }) :
      Effect g g' (c, .submitAgentTaskResult d payload expected)

theorem apply_effect {c : Choice} {u : Update} {reply : u.Reply} (hkeys : g.bindings.keys.Nodup)
    (hmemory : u.inMemory = true) (h : u.apply g c = .ok (reply, g')) : Effect g g' (c, u) := by
  cases u <;> cases hmemory
  case createPairing name =>
    obtain ⟨-, rfl⟩ := Prod.mk.inj (Except.ok.inj h)
    exact .quiet (createPairing_quiet _ _ _ _)
  case approvePairing =>
    obtain ⟨-, rfl⟩ := Prod.mk.inj (Except.ok.inj h)
    exact .quiet (approvePairing_quiet _ _)
  case exchangePairing =>
    obtain ⟨-, -, hbindings, hcommands, hresults, hdevices | ⟨device, hid, -, hruntimes, hdevices⟩⟩ :=
      exchangePairing_cases (Except.ok.inj h)
    · exact .quiet (.of_eq hdevices hbindings hcommands hresults)
    · exact .enrolled hid hruntimes hdevices hbindings hcommands hresults
  case connect => exact .quiet (connectDevice_quiet h)
  case disconnect =>
    obtain ⟨-, rfl⟩ := Prod.mk.inj (Except.ok.inj h)
    exact .quiet (disconnectDevice_quiet _)
  case markTransportReady => exact .quiet (markTransportReady_quiet h)
  case applyHello => exact .quiet (applyHello_quiet h)
  case heartbeat => exact .quiet (heartbeat_quiet h)
  case updateInventory => exact .quiet (updateInventory_quiet h)
  case observeInboundSequence => exact .quiet (observeInboundSequence_quiet h)
  case acknowledgeCommand =>
    obtain ⟨hactive, command, status, hack, -⟩ := acknowledgeCommand_cases h
    exact .acknowledged hactive hack
  case submitAgentTaskResult =>
    obtain rfl | ⟨record, binding, dispatched, hsubmits, heq⟩ := submitAgentTaskResult_cases h
    · exact .quiet (.refl _)
    · exact .submitted hsubmits heq
  case appendRuntimeEvent => exact .quiet (appendRuntimeEvent_quiet h)
  case revokeDevice => exact .quiet (revokeDevice_quiet h)
  case createBinding =>
    obtain rfl | ⟨item, hmem, hnone, rfl⟩ | ⟨hid, hdevice, hruntime, hnever, hunbound, heq⟩ :=
      createBinding_cases h
    · exact .quiet (.refl _)
    · exact .quiet (.of_binding (Dict.get_of_mem hkeys hmem)
        ⟨rfl, rfl, rfl, rfl, fun hsome => (by simp [hnone] at hsome), id, rfl, le_rfl⟩)
    · exact .bound hid hdevice hruntime hnever hunbound heq
  case queueCommand =>
    obtain ⟨-, rfl⟩ | ⟨binding, hqueues, heq⟩ := queueCommand_cases h
    · exact .quiet (.refl _)
    · exact .queued hqueues heq
  case markDurable => exact .quiet (markDurable_quiet h)
  case startDelivery => exact .quiet (startDelivery_quiet h)
  case reserveCommandSequence => exact .quiet (reserveCommandSequence_quiet h)
  case markDelivered => exact .quiet (markDelivered_quiet h)
  case reserveNotificationSequence => exact .quiet (reserveNotificationSequence_quiet h)

/-- What a step can do to the tables. -/
theorem step_effect {event : Choice × Update} (hkeys : g.bindings.keys.Nodup)
    (h : g.step event = some g') : Effect g g' event := by
  obtain ⟨c, u⟩ := event
  unfold step at h
  by_cases hmemory : u.inMemory = true
  · rw [if_pos hmemory] at h
    dsimp only at h
    cases happly : u.apply g c with
    | error raised =>
        rw [happly] at h
        obtain rfl := Option.some.inj h
        exact .quiet (.refl _)
    | ok answer =>
        rw [happly] at h
        obtain rfl := Option.some.inj h
        exact apply_effect hkeys hmemory happly
  · rw [if_neg hmemory] at h
    cases h

end ConnectorGateway

end Arena402.Gateway
