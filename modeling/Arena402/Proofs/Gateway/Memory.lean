/-
What the blocks of a Gateway instance do to its memory.

Most blocks touch the record of one device, and then only in fields that describe it or
that count forwards: `Grown` says which, `Kept` says it of a whole memory.  The blocks that
do more are the ones that install records read from the repository, the one that registers
a socket and the one that revokes.
-/
import Arena402.Lib.Raise
import Arena402.Gateway.PersistentService

namespace Arena402.Gateway

open Py

/-! ### Records and memories that only grow -/

/-- A device's record after a block that is no install and no revocation. -/
structure Device.Grown (old new : Device) : Prop where
  deviceId : new.deviceId = old.deviceId
  sequence : old.outboundSequence ≤ new.outboundSequence
  generation : old.connectionGeneration ≤ new.connectionGeneration
  revokedAt : new.revokedAt = old.revokedAt
  tokenHash : new.tokenHash = old.tokenHash

theorem Device.Grown.refl (device : Device) : device.Grown device :=
  ⟨rfl, le_rfl, le_rfl, rfl, rfl⟩

theorem Device.Grown.trans {a b c : Device} (h : a.Grown b) (h' : b.Grown c) : a.Grown c :=
  ⟨h'.deviceId.trans h.deviceId, h.sequence.trans h'.sequence, h.generation.trans h'.generation,
    h'.revokedAt.trans h.revokedAt, h'.tokenHash.trans h.tokenHash⟩

/-- The same devices, each with a record that has grown. -/
def DevicesGrown (old new : Dict String Device) : Prop :=
  ∀ d, Option.Rel Device.Grown (old.get d) (new.get d)

theorem DevicesGrown.refl (devices : Dict String Device) : DevicesGrown devices devices := by
  intro d
  cases devices.get d with
  | none => exact .none
  | some device => exact .some (.refl device)

theorem DevicesGrown.trans {a b c : Dict String Device} (h : DevicesGrown a b)
    (h' : DevicesGrown b c) : DevicesGrown a c := by
  intro d
  have hd := h d
  have hd' := h' d
  generalize a.get d = old at hd ⊢
  generalize b.get d = middle at hd hd'
  generalize c.get d = new at hd' ⊢
  cases hd with
  | none => exact hd'
  | some hgrown =>
      cases hd' with
      | some hgrown' => exact .some (hgrown.trans hgrown')

theorem DevicesGrown.set {devices : Dict String Device} {d : String} {old new : Device}
    (hget : devices.get d = some old) (h : old.Grown new) :
    DevicesGrown devices (devices.set d new) := by
  intro x
  rw [Dict.get_set]
  by_cases hx : x = d
  · rw [if_pos hx, hx, hget]
    exact .some h
  · rw [if_neg hx]
    exact DevicesGrown.refl devices x

theorem DevicesGrown.map {devices : Dict String Device} {f : String × Device → Device}
    (h : ∀ item : String × Device, item.2.Grown (f item)) :
    DevicesGrown devices (devices.map fun item => (item.1, f item)) := by
  intro d
  induction devices with
  | nil => exact .none
  | cons item rest ih =>
      rw [List.map_cons, Dict.get_cons, Dict.get_cons]
      by_cases hd : item.1 = d
      · rw [if_pos hd, if_pos hd]
        exact .some (h item)
      · rw [if_neg hd, if_neg hd]
        exact ih

/-- A memory after a block that installs nothing, registers no socket and revokes nothing. -/
structure Kept (g g' : ConnectorGateway) : Prop where
  devices : DevicesGrown g.devices g'.devices
  locks : g'.locks = g.locks
  /-- No socket is registered. -/
  connections : ∀ d, g'.connections.get d = g.connections.get d ∨ g'.connections.get d = none

variable {g g' : ConnectorGateway} {now : Time} {d : String} {expected : Option Nat}

theorem Kept.of_devices (hdevices : DevicesGrown g.devices g'.devices) (hlocks : g'.locks = g.locks)
    (hconnections : g'.connections = g.connections) : Kept g g' :=
  ⟨hdevices, hlocks, fun _ => Or.inl (by rw [hconnections])⟩

theorem Kept.refl (g : ConnectorGateway) : Kept g g :=
  .of_devices (.refl _) rfl rfl

theorem Kept.trans {g'' : ConnectorGateway} (h : Kept g g') (h' : Kept g' g'') : Kept g g'' := by
  refine ⟨h.devices.trans h'.devices, h'.locks.trans h.locks, ?_⟩
  intro x
  rcases h'.connections x with heq | hnone
  · rw [heq]
    exact h.connections x
  · exact Or.inr hnone

/-- A block that touches neither devices, locks nor connections. -/
theorem Kept.of_eq (hdevices : g'.devices = g.devices) (hlocks : g'.locks = g.locks)
    (hconnections : g'.connections = g.connections) : Kept g g' :=
  .of_devices (hdevices ▸ .refl _) hlocks hconnections

namespace ConnectorGateway

/-! ### The checks -/

theorem getDevice_ok {device : Device} (h : g.getDevice d = .ok device) :
    g.devices.get d = some device := by
  unfold getDevice at h
  cases hget : g.devices.get d with
  | none =>
      rw [hget] at h
      cases h
  | some stored =>
      rw [hget] at h
      obtain rfl := Except.ok.inj h
      rfl

theorem ensureNotRevoked_ok {device : Device} {u : Unit} (h : ensureNotRevoked device = .ok u) :
    device.revokedAt = none := by
  obtain ⟨hnot, -⟩ := ok_of_guard h
  simpa using hnot

theorem activeDevice_ok {device : Device} (h : g.activeDevice d expected = .ok device) :
    g.devices.get d = some device ∧ device.revokedAt = none := by
  obtain ⟨found, hfound, h⟩ := ok_of_bind h
  obtain ⟨_, hrevoked, h⟩ := ok_of_bind h
  obtain ⟨_, -, h⟩ := ok_of_bind h
  obtain rfl := Except.ok.inj h
  exact ⟨getDevice_ok hfound, ensureNotRevoked_ok hrevoked⟩

/-- What the checks of a transition raise. -/
theorem activeDevice_error {error : Error} (h : g.activeDevice d expected = .error error) :
    error = .connector 404 "Device not found" ∨ error = .connector 410 "Device has been revoked" ∨
      error = .connector 409 "WebSocket is no longer an active device connection" := by
  rcases error_of_bind h with h | ⟨device, -, h⟩
  · unfold getDevice at h
    cases hget : g.devices.get d with
    | none =>
        rw [hget] at h
        exact Or.inl (Except.error.inj h).symm
    | some stored =>
        rw [hget] at h
        cases h
  · rcases error_of_bind h with h | ⟨_, -, h⟩
    · unfold ensureNotRevoked at h
      split_ifs at h
      exact Or.inr (Or.inl (Except.error.inj h).symm)
    · rcases error_of_bind h with h | ⟨_, -, h⟩
      · unfold ensureConnectionGeneration at h
        cases expected with
        | none => cases h
        | some generation =>
            dsimp only at h
            split_ifs at h
            exact Or.inr (Or.inr (Except.error.inj h).symm)
      · cases h

/-- A Connector is told that it is ahead when it is. -/
theorem resumeTransport_ahead {payload : Resume}
    (h : g.resumeTransport now d payload expected =
      .error (.connector 409 "Connector resume cursor is ahead of the Gateway")) :
    ∃ device, g.devices.get d = some device ∧
      device.outboundSequence < payload.lastGatewaySequence := by
  rcases error_of_bind h with h | ⟨device, hdevice, h⟩
  · have herror := activeDevice_error h
    simp at herror
  · refine ⟨device, (activeDevice_ok hdevice).1, ?_⟩
    by_contra hbehind
    rw [if_neg hbehind] at h
    dsimp only at h
    split_ifs at h
    · simp at h
    · cases h

/-! ### Blocks that only describe a device -/

theorem applyHello_kept {payload : Hello} {u : Unit}
    (h : g.applyHello now d payload expected = .ok (u, g')) : Kept g g' := by
  obtain ⟨device, hdevice, h⟩ := ok_of_bind h
  obtain ⟨-, h⟩ := ok_of_guard h
  obtain ⟨-, rfl⟩ := Prod.mk.inj (Except.ok.inj h)
  exact .of_devices (.set (activeDevice_ok hdevice).1 ⟨rfl, le_rfl, le_rfl, rfl, rfl⟩) rfl rfl

theorem heartbeat_kept {sessions : Option Nat} {u : Unit}
    (h : g.heartbeat now d sessions expected = .ok (u, g')) : Kept g g' := by
  obtain ⟨device, hdevice, h⟩ := ok_of_bind h
  obtain ⟨-, rfl⟩ := Prod.mk.inj (Except.ok.inj h)
  exact .of_devices (.set (activeDevice_ok hdevice).1 ⟨rfl, le_rfl, le_rfl, rfl, rfl⟩) rfl rfl

theorem updateInventory_kept {runtimes : List Runtime} {u : Unit}
    (h : g.updateInventory now d runtimes expected = .ok (u, g')) : Kept g g' := by
  obtain ⟨device, hdevice, h⟩ := ok_of_bind h
  obtain ⟨-, h⟩ := ok_of_guard h
  obtain ⟨-, rfl⟩ := Prod.mk.inj (Except.ok.inj h)
  exact .of_devices (.set (activeDevice_ok hdevice).1 ⟨rfl, le_rfl, le_rfl, rfl, rfl⟩) rfl rfl

theorem observeInboundSequence_kept {sequence : Option Nat} {u : Unit}
    (h : g.observeInboundSequence d sequence expected = .ok (u, g')) : Kept g g' := by
  cases sequence with
  | none =>
      obtain ⟨-, rfl⟩ := Prod.mk.inj (Except.ok.inj h)
      exact .refl g
  | some received =>
      obtain ⟨device, hdevice, h⟩ := ok_of_bind h
      obtain ⟨-, rfl⟩ := Prod.mk.inj (Except.ok.inj h)
      exact .of_devices (.set (activeDevice_ok hdevice).1 ⟨rfl, le_rfl, le_rfl, rfl, rfl⟩) rfl rfl

theorem markTransportReady_kept {generation : Nat} {u : Unit}
    (h : g.markTransportReady d generation = .ok (u, g')) : Kept g g' := by
  obtain ⟨device, hdevice, h⟩ := ok_of_bind h
  obtain ⟨-, rfl⟩ := Prod.mk.inj (Except.ok.inj h)
  exact .of_eq rfl rfl rfl

theorem disconnectDevice_kept (websocket : Socket) : Kept g (g.disconnectDevice d websocket) := by
  unfold disconnectDevice
  by_cases hsocket : g.connections.get d = some websocket
  · rw [if_pos hsocket]
    refine ⟨?_, rfl, ?_⟩
    · cases hget : g.devices.get d with
      | none => exact .refl _
      | some device => exact .set hget ⟨rfl, le_rfl, le_rfl, rfl, rfl⟩
    · intro x
      dsimp only
      rw [Dict.get_erase]
      by_cases hx : x = d
      · rw [if_pos hx]
        exact Or.inr rfl
      · rw [if_neg hx]
        exact Or.inl rfl
  · rw [if_neg hsocket]
    exact .of_eq rfl rfl rfl

theorem mergeCursors_kept (shared : Device) : Kept g (g.mergeCursors d shared) := by
  unfold mergeCursors
  cases hget : g.devices.get d with
  | none => exact .refl g
  | some device =>
      exact .of_devices (.set hget ⟨rfl, le_max_left _ _, le_rfl, rfl, rfl⟩) rfl rfl

/-! ### Acknowledgements, results and events -/

/-- The command as an acknowledgement leaves it. -/
def acknowledgedCommand (now : Time) (command : Command) (payload : CommandAck)
    (status : CommandStatus) : Command :=
  { command with
    status, updatedAt := now, result := payload.result
    error := storedError payload status }

/-- An acknowledgement that is taken: what it finds and what it leaves. -/
structure Acknowledges (g : ConnectorGateway) (now : Time) (d : String) (payload : CommandAck)
    (command : Command) (status : CommandStatus) (g' : ConnectorGateway) : Prop where
  stored : g.commands.get payload.commandId = some command
  deviceId : command.deviceId = d
  epoch : payload.bindingEpoch.getD command.bindingEpoch = command.bindingEpoch
  named : payload.status = some status
  allowed : status ∈ ackStatuses
  transition : status ∈ transitions command.status
  left : g' = { g with
    commands := g.commands.set payload.commandId (acknowledgedCommand now command payload status)
    bindings :=
      match g.bindings.get command.bindingId with
      | some binding =>
          g.bindings.set command.bindingId (acknowledgedBinding now command payload status binding)
      | none => g.bindings }

theorem acknowledgeCommand_cases {payload : CommandAck} {updated : Command}
    (h : g.acknowledgeCommand now d payload expected = .ok (updated, g')) :
    (∃ device, g.activeDevice d expected = .ok device) ∧
      ∃ command status, Acknowledges g now d payload command status g' ∧
        updated = acknowledgedCommand now command payload status := by
  obtain ⟨device, hactive, h⟩ := ok_of_bind h
  refine ⟨⟨device, hactive⟩, ?_⟩
  cases hget : g.commands.get payload.commandId with
  | none =>
      rw [hget] at h
      cases h
  | some stored =>
      rw [hget] at h
      obtain ⟨hdevice, h⟩ := ok_of_guard h
      obtain ⟨hepoch, h⟩ := ok_of_guard h
      cases hstatus : payload.status with
      | none =>
          rw [hstatus] at h
          cases h
      | some status =>
          rw [hstatus] at h
          obtain ⟨hallowed, h⟩ := ok_of_guard h
          obtain ⟨htransition, h⟩ := ok_of_guard h
          obtain ⟨rfl, rfl⟩ := Prod.mk.inj (Except.ok.inj h)
          exact ⟨stored, status, ⟨hget, not_not.mp hdevice, not_not.mp hepoch, hstatus,
            not_not.mp hallowed, not_not.mp htransition, rfl⟩, rfl⟩

theorem acknowledgeCommand_kept {payload : CommandAck} {command : Command}
    (h : g.acknowledgeCommand now d payload expected = .ok (command, g')) : Kept g g' := by
  obtain ⟨-, _, _, hack, -⟩ := acknowledgeCommand_cases h
  rw [hack.left]
  exact .of_eq rfl rfl rfl

/-- A result that is stored: of a task that was dispatched to a binding of the device. -/
structure Submits (g : ConnectorGateway) (d : String) (payload : ResultMessage)
    (record : AgentTaskResult) (binding : Binding) (dispatched : String × Command) : Prop where
  bound : g.bindings.get payload.bindingId = some binding
  deviceId : binding.deviceId = d
  mem : dispatched ∈ g.commands
  dispatchedTo : dispatched.2.bindingId = payload.bindingId
  action : dispatched.2.action = .taskDispatch
  taskId : dispatched.2.taskId = some payload.taskId
  fresh : g.agentTaskResults.get payload.taskId = none
  recordTask : record.taskId = payload.taskId
  recordBinding : record.bindingId = payload.bindingId
  recordDevice : record.deviceId = d
  recordCommand : record.commandId = dispatched.2.commandId

theorem submitAgentTaskResult_cases {payload : ResultMessage} {result : AgentTaskResult}
    (h : g.submitAgentTaskResult now d payload expected = .ok (result, g')) :
    g' = g ∨ ∃ record binding dispatched, Submits g d payload record binding dispatched ∧
      g' = { g with agentTaskResults := g.agentTaskResults.set payload.taskId record } := by
  obtain ⟨_, -, h⟩ := ok_of_bind h
  cases hbinding : g.bindings.get payload.bindingId with
  | none =>
      rw [hbinding] at h
      cases h
  | some binding =>
      rw [hbinding] at h
      obtain ⟨hdevice, h⟩ := ok_of_guard h
      obtain ⟨-, h⟩ := ok_of_guard h
      cases hfind : g.commands.find? fun item =>
          item.2.bindingId == payload.bindingId && item.2.action == .taskDispatch &&
            item.2.taskId == some payload.taskId with
      | none =>
          rw [hfind] at h
          cases h
      | some dispatched =>
          rw [hfind] at h
          cases hexisting : g.agentTaskResults.get payload.taskId with
          | none =>
              simp only [hexisting] at h
              obtain ⟨-, rfl⟩ := Prod.mk.inj (Except.ok.inj h)
              have hmatch := List.find?_some hfind
              simp only [Bool.and_eq_true, beq_iff_eq] at hmatch
              exact Or.inr ⟨_, binding, dispatched,
                ⟨hbinding, not_not.mp hdevice, List.mem_of_find?_eq_some hfind, hmatch.1.1,
                  hmatch.1.2, hmatch.2, hexisting, rfl, rfl, rfl, rfl⟩, rfl⟩
          | some existing =>
              simp only [hexisting] at h
              obtain ⟨-, h⟩ := ok_of_guard h
              obtain ⟨-, rfl⟩ := Prod.mk.inj (Except.ok.inj h)
              exact Or.inl rfl

theorem submitAgentTaskResult_kept {payload : ResultMessage} {result : AgentTaskResult}
    (h : g.submitAgentTaskResult now d payload expected = .ok (result, g')) : Kept g g' := by
  obtain rfl | ⟨_, _, _, -, rfl⟩ := submitAgentTaskResult_cases h
  · exact .refl _
  · exact .of_eq rfl rfl rfl

theorem markSinkAccepted_kept (taskId : String) : Kept g (g.markSinkAccepted now taskId) := by
  unfold markSinkAccepted
  cases g.agentTaskResults.get taskId with
  | none => exact .refl g
  | some accepted =>
      by_cases hsome : accepted.arenaSinkAcceptedAt.isSome = true
      · simp only [hsome, if_true]
        exact .refl g
      · simp only [hsome]
        exact .of_eq rfl rfl rfl

/-- What `append_runtime_event` can have done: answered a replay, or recorded the event. -/
theorem appendRuntimeEvent_cases {eventId : String} {payload : EventMessage}
    {receipt : EventReceipt}
    (h : g.appendRuntimeEvent now eventId d payload expected = .ok (receipt, g')) :
    (g' = g ∧ receipt.ackThroughSequence = g.watermark d) ∨
    ∃ device binding event, g.devices.get d = some device ∧
      g.bindings.get event.bindingId = some binding ∧ event.eventId = eventId ∧
      event.deviceId = d ∧ g.duplicateOf d event.sourceEventId event.sequence = none ∧
      0 < event.sequence ∧ g.watermark d < event.sequence ∧ event.sequence ∉ g.pending d ∧
      (receipt, g') = g.recordEvent now device binding event := by
  obtain ⟨device, hdevice, h⟩ := ok_of_bind h
  cases hbinding : g.bindings.get payload.bindingId with
  | none =>
      rw [hbinding] at h
      cases h
  | some binding =>
      rw [hbinding] at h
      obtain ⟨-, h⟩ := ok_of_guard h
      obtain ⟨⟨eventType, sequence⟩, hcheck, h⟩ := ok_of_bind h
      have hpositive : 0 < sequence := by
        unfold checkEvent at hcheck
        obtain ⟨-, hcheck⟩ := ok_of_guard hcheck
        cases hsequence : payload.sequence with
        | none =>
            rw [hsequence] at hcheck
            cases hcheck
        | some number =>
            rw [hsequence] at hcheck
            obtain ⟨hnumber, hcheck⟩ := ok_of_guard hcheck
            obtain ⟨-, rfl⟩ := Prod.mk.inj (Except.ok.inj hcheck)
            omega
      cases hduplicate : g.duplicateOf d (orNone (clip 128 payload.eventId)) sequence with
      | some existing =>
          simp only [hduplicate] at h
          obtain ⟨rfl, rfl⟩ := Prod.mk.inj (Except.ok.inj h)
          exact Or.inl ⟨rfl, rfl⟩
      | none =>
          simp only [hduplicate] at h
          by_cases hold : sequence ≤ g.watermark d ∨ sequence ∈ g.pending d
          · rw [if_pos hold] at h
            obtain ⟨rfl, rfl⟩ := Prod.mk.inj (Except.ok.inj h)
            exact Or.inl ⟨rfl, rfl⟩
          · rw [if_neg hold] at h
            obtain ⟨hwatermark, hpending⟩ := not_or.mp hold
            refine Or.inr ⟨device, binding,
              { eventId, sourceEventId := orNone (clip 128 payload.eventId), deviceId := d,
                bindingId := payload.bindingId, taskId := orNone (clip 128 payload.taskId),
                sequence, eventType, receivedAt := now }, ?_⟩
            refine ⟨(activeDevice_ok hdevice).1, hbinding, rfl, rfl, hduplicate, hpositive,
              Nat.lt_of_not_le hwatermark, hpending, ?_⟩
            exact (Except.ok.inj h).symm

theorem appendRuntimeEvent_kept {eventId : String} {payload : EventMessage}
    {receipt : EventReceipt}
    (h : g.appendRuntimeEvent now eventId d payload expected = .ok (receipt, g')) : Kept g g' := by
  obtain ⟨rfl, -⟩ | ⟨device, binding, event, hget, -, -, rfl, -, -, -, -, heq⟩ :=
    appendRuntimeEvent_cases h
  · exact .refl _
  · obtain ⟨-, rfl⟩ := Prod.mk.inj heq
    exact .of_devices (.set hget ⟨rfl, le_rfl, le_rfl, rfl, rfl⟩) rfl rfl

/-! ### Outbound frames -/

theorem startDelivery_kept {delivery : Delivery}
    (h : g.startDelivery now d = .ok (delivery, g')) : Kept g g' := by
  obtain ⟨device, -, h⟩ := ok_of_bind h
  obtain ⟨_, -, h⟩ := ok_of_bind h
  obtain ⟨-, rfl⟩ := Prod.mk.inj (Except.ok.inj h)
  exact .of_eq rfl rfl rfl

/-- A reserved sequence is the next one of the record in memory. -/
theorem reserveCommandSequence_cases {websocket : Socket} {generation : Nat} {commandId : String}
    {sequence : Option Nat}
    (h : g.reserveCommandSequence d websocket generation commandId = .ok (sequence, g')) :
    (sequence = none ∧ g' = g) ∨
    ∃ device, g.devices.get d = some device ∧ device.revokedAt = none ∧
      g.connections.get d = some websocket ∧
      sequence = some (device.outboundSequence + 1) ∧
      g' = { g with devices := g.devices.set d (nextSequence device) } := by
  obtain ⟨device, hdevice, h⟩ := ok_of_bind h
  obtain ⟨_, hrevoked, h⟩ := ok_of_bind h
  by_cases hpass : g.connections.get d ≠ some websocket ∨ device.connectionGeneration ≠ generation ∨
      (g.commands.get commandId).map Command.status ≠ some .queued
  · rw [if_pos hpass] at h
    obtain ⟨rfl, rfl⟩ := Prod.mk.inj (Except.ok.inj h)
    exact Or.inl ⟨rfl, rfl⟩
  · rw [if_neg hpass] at h
    obtain ⟨rfl, rfl⟩ := Prod.mk.inj (Except.ok.inj h)
    have hsocket : g.connections.get d = some websocket := by
      by_contra hc
      exact hpass (Or.inl hc)
    exact Or.inr ⟨device, getDevice_ok hdevice, ensureNotRevoked_ok hrevoked, hsocket, rfl, rfl⟩

theorem reserveNotificationSequence_cases {websocket : Socket} {generation : Nat}
    {sequence : Option Nat}
    (h : g.reserveNotificationSequence d websocket generation = .ok (sequence, g')) :
    (sequence = none ∧ g' = g) ∨
    ∃ device, g.devices.get d = some device ∧ g.connections.get d = some websocket ∧
      sequence = some (device.outboundSequence + 1) ∧
      g' = { g with devices := g.devices.set d (nextSequence device) } := by
  obtain ⟨device, hdevice, h⟩ := ok_of_bind h
  by_cases hpass : g.connections.get d ≠ some websocket ∨ device.connectionGeneration ≠ generation ∨
      g.connectionReadyGenerations.get d ≠ some generation
  · rw [if_pos hpass] at h
    obtain ⟨rfl, rfl⟩ := Prod.mk.inj (Except.ok.inj h)
    exact Or.inl ⟨rfl, rfl⟩
  · rw [if_neg hpass] at h
    obtain ⟨rfl, rfl⟩ := Prod.mk.inj (Except.ok.inj h)
    have hsocket : g.connections.get d = some websocket := by
      by_contra hc
      exact hpass (Or.inl hc)
    exact Or.inr ⟨device, getDevice_ok hdevice, hsocket, rfl, rfl⟩

theorem nextSequence_grown (device : Device) : device.Grown (nextSequence device) :=
  ⟨rfl, Nat.le_succ _, le_rfl, rfl, rfl⟩

theorem reserveCommandSequence_kept {websocket : Socket} {generation : Nat} {commandId : String}
    {sequence : Option Nat}
    (h : g.reserveCommandSequence d websocket generation commandId = .ok (sequence, g')) :
    Kept g g' := by
  obtain ⟨-, rfl⟩ | ⟨device, hget, -, -, -, rfl⟩ := reserveCommandSequence_cases h
  · exact .refl _
  · exact .of_devices (.set hget (nextSequence_grown device)) rfl rfl

theorem reserveNotificationSequence_kept {websocket : Socket} {generation : Nat}
    {sequence : Option Nat}
    (h : g.reserveNotificationSequence d websocket generation = .ok (sequence, g')) :
    Kept g g' := by
  obtain ⟨-, rfl⟩ | ⟨device, hget, -, -, rfl⟩ := reserveNotificationSequence_cases h
  · exact .refl _
  · exact .of_devices (.set hget (nextSequence_grown device)) rfl rfl

/-- `mark_delivered` leaves the memory as it is, or it marks a command that was queued. -/
theorem markDelivered_cases {websocket : Socket} {generation : Nat} {commandId : String}
    {delivered : Option Command}
    (h : g.markDelivered now d websocket generation commandId = .ok (delivered, g')) :
    g' = g ∨ ∃ current, g.commands.get commandId = some current ∧ current.status = .queued ∧
      g' = { g with
        commands := g.commands.set commandId
          { current with
            status := .delivered, deliveredAt := some now
            deliveryAttempts := current.deliveryAttempts + 1, updatedAt := now } } := by
  obtain ⟨device, -, h⟩ := ok_of_bind h
  cases hget : g.commands.get commandId with
  | none =>
      rw [hget] at h
      obtain ⟨-, rfl⟩ := Prod.mk.inj (Except.ok.inj h)
      exact Or.inl rfl
  | some current =>
      simp only [hget] at h
      by_cases hcurrent : g.connections.get d = some websocket ∧
          device.connectionGeneration = generation ∧ current.status = .queued
      · rw [if_pos hcurrent] at h
        obtain ⟨-, rfl⟩ := Prod.mk.inj (Except.ok.inj h)
        exact Or.inr ⟨current, rfl, hcurrent.2.2, rfl⟩
      · rw [if_neg hcurrent] at h
        obtain ⟨-, rfl⟩ := Prod.mk.inj (Except.ok.inj h)
        exact Or.inl rfl

theorem markDelivered_kept {websocket : Socket} {generation : Nat} {commandId : String}
    {delivered : Option Command}
    (h : g.markDelivered now d websocket generation commandId = .ok (delivered, g')) :
    Kept g g' := by
  obtain rfl | ⟨_, -, -, rfl⟩ := markDelivered_cases h
  · exact .refl _
  · exact .of_eq rfl rfl rfl

theorem restoreLocalCommandForReplay_kept (commandId : String) :
    Kept g (g.restoreLocalCommandForReplay commandId) := by
  unfold restoreLocalCommandForReplay
  cases g.commands.get commandId with
  | none => exact .refl g
  | some current =>
      by_cases hdelivered : current.status = .delivered
      · simp only [hdelivered, if_true]
        exact .of_eq rfl rfl rfl
      · simp only [hdelivered, if_false]
        exact .refl g

/-! ### The control plane -/

theorem createPairing_kept (deviceName pairingId userCode codeHash : String) :
    Kept g (g.createPairing now deviceName pairingId userCode codeHash).2 := by
  unfold createPairing
  dsimp only
  by_cases hfull : (g.removeExpiredPairings now).maxPendingPairings ≤
      ((g.removeExpiredPairings now).pairings.filter fun item =>
        item.2.status = .pending ∨ item.2.status = .approved).length
  · rw [if_pos hfull]
    exact .of_eq rfl rfl rfl
  · rw [if_neg hfull]
    exact .of_eq rfl rfl rfl

theorem approvePairing_kept (userCode ownerId : String) :
    Kept g (g.approvePairing now userCode ownerId).2 := by
  unfold approvePairing
  dsimp only
  cases g.pairings.get (normalizedUserCode userCode) with
  | none => exact .refl g
  | some stored =>
      dsimp only
      split_ifs <;> exact .of_eq rfl rfl rfl

/-- `create_binding` finds the binding of the runtime, freezes its working directory, or adds a
    binding. -/
theorem createBinding_cases {bindingId agentId runtimeId : String} {directory : Option String}
    {binding : Binding}
    (h : g.createBinding now bindingId agentId d runtimeId directory = .ok (binding, g')) :
    g' = g ∨
    (∃ item ∈ g.bindings, item.2.workingDirectory = none ∧
      g' = { g with
        bindings := g.bindings.set item.1
          { item.2 with workingDirectory := directory, updatedAt := now } }) ∨
    (binding.bindingId = bindingId ∧ binding.deviceId = d ∧ binding.runtimeId = runtimeId ∧
      binding.lastStoppedCommandCreatedAt = none ∧
      (∀ item ∈ g.bindings, ¬(item.2.deviceId = d ∧ item.2.runtimeId = runtimeId)) ∧
      g' = { g with bindings := g.bindings.set bindingId binding }) := by
  obtain ⟨device, -, h⟩ := ok_of_bind h
  obtain ⟨_, -, h⟩ := ok_of_bind h
  cases hruntime : device.runtimes.find? fun item =>
      item.runtimeId == runtimeId && item.available with
  | none =>
      rw [hruntime] at h
      cases h
  | some runtime =>
      simp only [hruntime] at h
      cases hfind : g.bindings.find? fun item =>
          item.2.deviceId == d && item.2.runtimeId == runtimeId with
      | none =>
          simp only [hfind] at h
          obtain ⟨rfl, rfl⟩ := Prod.mk.inj (Except.ok.inj h)
          refine Or.inr (Or.inr ⟨rfl, rfl, rfl, rfl, ?_, rfl⟩)
          intro item hitem
          simpa using List.find?_eq_none.mp hfind item hitem
      | some item =>
          simp only [hfind] at h
          cases directory with
          | none =>
              obtain ⟨-, rfl⟩ := Prod.mk.inj (Except.ok.inj h)
              exact Or.inl rfl
          | some wanted =>
              cases hfrozen : item.2.workingDirectory with
              | none =>
                  simp only [hfrozen] at h
                  obtain ⟨-, rfl⟩ := Prod.mk.inj (Except.ok.inj h)
                  exact Or.inr (Or.inl ⟨item, List.mem_of_find?_eq_some hfind, hfrozen, rfl⟩)
              | some frozen =>
                  simp only [hfrozen] at h
                  obtain ⟨-, h⟩ := ok_of_guard h
                  obtain ⟨-, rfl⟩ := Prod.mk.inj (Except.ok.inj h)
                  exact Or.inl rfl

theorem createBinding_kept {bindingId agentId runtimeId : String} {directory : Option String}
    {binding : Binding}
    (h : g.createBinding now bindingId agentId d runtimeId directory = .ok (binding, g')) :
    Kept g g' := by
  obtain rfl | ⟨_, -, -, rfl⟩ | ⟨-, -, -, -, -, rfl⟩ := createBinding_cases h
  · exact .refl _
  · exact .of_eq rfl rfl rfl
  · exact .of_eq rfl rfl rfl

/-- A command that is added: for a binding, under a key that asks for a new one. -/
structure Queues (g : ConnectorGateway) (now : Time) (commandId : String)
    (request : CommandRequest) (binding : Binding) (command : Command) : Prop where
  bound : g.bindings.get request.bindingId = some binding
  selected : g.selectCommand request = .ok none
  id : command.commandId = commandId
  bindingId : command.bindingId = binding.bindingId
  deviceId : command.deviceId = binding.deviceId
  runtimeId : command.runtimeId = binding.runtimeId
  agentId : command.agentId = binding.agentId
  action : command.action = request.action
  key : command.idempotencyKey = (request.idempotencyKey.bind orNone).getD commandId
  fingerprint : command.requestFingerprint = request.requestFingerprint
  generation : command.sessionGeneration = binding.sessionGeneration
  status : command.status = .queued
  createdAt : command.createdAt = now
  expiresAt : command.expiresAt = now + request.expiresInSeconds
  errorCode : command.errorCode = none
  checked : ∃ device, g.getDevice binding.deviceId = .ok device ∧
    ensureNotRevoked device = .ok () ∧ checkSession binding request = .ok () ∧
    checkRuntime binding (device.runtimes.find? fun item => item.runtimeId == binding.runtimeId)
      request = .ok ()

/-- `queue_command` finds the command of its idempotency key or adds a new one. -/
theorem queueCommand_cases {commandId : String} {request : CommandRequest} {command : Command}
    (h : g.queueCommand now commandId request = .ok (command, g')) :
    (g.selectCommand request = .ok (some command) ∧ g' = g) ∨
    ∃ binding, Queues g now commandId request binding command ∧
      g' = { g with commands := g.commands.set commandId command } := by
  unfold queueCommand at h
  cases hbinding : g.bindings.get request.bindingId with
  | none =>
      rw [hbinding] at h
      cases h
  | some binding =>
      rw [hbinding] at h
      obtain ⟨_, hsession, h⟩ := ok_of_bind h
      obtain ⟨device, hdevice, h⟩ := ok_of_bind h
      obtain ⟨_, hrevoked, h⟩ := ok_of_bind h
      obtain ⟨_, hruntime, h⟩ := ok_of_bind h
      obtain ⟨selected, hselected, h⟩ := ok_of_bind h
      cases selected with
      | some found =>
          obtain ⟨rfl, rfl⟩ := Prod.mk.inj (Except.ok.inj h)
          exact Or.inl ⟨hselected, rfl⟩
      | none =>
          obtain ⟨rfl, rfl⟩ := Prod.mk.inj (Except.ok.inj h)
          exact Or.inr ⟨binding,
            ⟨hbinding, hselected, rfl, rfl, rfl, rfl, rfl, rfl, rfl, rfl, rfl, rfl, rfl, rfl, rfl,
              device, hdevice, hrevoked, hsession, hruntime⟩, rfl⟩

theorem queueCommand_kept {commandId : String} {request : CommandRequest} {command : Command}
    (h : g.queueCommand now commandId request = .ok (command, g')) : Kept g g' := by
  obtain ⟨-, rfl⟩ | ⟨_, -, rfl⟩ := queueCommand_cases h
  · exact .refl _
  · exact .of_eq rfl rfl rfl

theorem markDurable_kept {commandId : String} {u : Unit}
    (h : g.markDurable commandId = .ok (u, g')) : Kept g g' := by
  unfold markDurable at h
  cases hget : g.commands.get commandId with
  | none =>
      rw [hget] at h
      cases h
  | some current =>
      rw [hget] at h
      obtain ⟨-, rfl⟩ := Prod.mk.inj (Except.ok.inj h)
      exact .of_eq rfl rfl rfl

theorem installRoute_kept (state : List String × ConnectorGateway) (route : Command × Binding) :
    Kept state.2 (installRoute state route).2 := by
  unfold installRoute
  dsimp only
  by_cases hpast : ((state.2.commands.get route.1.commandId).map Command.status).getD .queued ≠
      .queued
  · rw [if_pos hpast]
    exact .refl _
  · rw [if_neg hpast]
    exact .of_eq rfl rfl rfl

theorem installRoutes_kept (routes : List (Command × Binding)) :
    Kept g (g.installRoutes routes).2 := by
  have hfold : ∀ (routes : List (Command × Binding)) (state : List String × ConnectorGateway),
      Kept state.2 (routes.foldl installRoute state).2 := by
    intro routes
    induction routes with
    | nil => exact fun state => .refl _
    | cons route rest ih =>
        intro state
        exact (installRoute_kept state route).trans (ih (installRoute state route))
  exact hfold routes ([], g)

/-! ### Blocks that do more -/

theorem rebuildEventWatermarks_grown : DevicesGrown g.devices g.rebuildEventWatermarks.devices :=
  .map fun _ => ⟨rfl, le_rfl, le_rfl, rfl, rfl⟩

theorem keepGeneration_grown (shared : Device) : shared.Grown (g.keepGeneration shared) := by
  unfold keepGeneration
  cases g.devices.get shared.deviceId with
  | none => exact .refl shared
  | some existing => exact ⟨rfl, le_rfl, le_max_left _ _, rfl, rfl⟩

theorem recoverDevice_grown (active : List String) (item : String × Device) :
    item.2.Grown (recoverDevice active item) := by
  unfold recoverDevice
  by_cases h : item.1 ∈ active
  · rw [if_pos h]
    exact .refl _
  · rw [if_neg h]
    exact ⟨rfl, le_rfl, Nat.le_succ _, rfl, rfl⟩

theorem installInitial_grown (state : Repository) (active : List String) :
    DevicesGrown state.devices (g.installInitial now state active).2.devices := by
  have hloaded : DevicesGrown state.devices (g.loadState state active).devices :=
    .map (recoverDevice_grown active)
  exact hloaded.trans
    (rebuildEventWatermarks_grown (g := (g.loadState state active).removeExpiredPairings now))

/-- What `exchange_pairing` does to the devices: nothing, or one more of them, without a runtime. -/
theorem exchangePairing_cases {codeHash deviceId tokenHash : String} {reply : Except Error String}
    (h : g.exchangePairing now codeHash deviceId tokenHash = (reply, g')) :
    g'.locks = g.locks ∧ g'.connections = g.connections ∧ g'.bindings = g.bindings ∧
      g'.commands = g.commands ∧ g'.agentTaskResults = g.agentTaskResults ∧
      (g'.devices = g.devices ∨ ∃ device : Device, device.deviceId = deviceId ∧
        device.revokedAt = none ∧ device.runtimes = [] ∧
        g'.devices = g.devices.set deviceId device) := by
  unfold exchangePairing at h
  cases hcode : g.pairingsByDeviceCode.get codeHash with
  | none =>
      simp only [hcode] at h
      obtain ⟨-, rfl⟩ := Prod.mk.inj h
      exact ⟨rfl, rfl, rfl, rfl, rfl, Or.inl rfl⟩
  | some userCode =>
      cases hpairing : g.pairings.get userCode with
      | none =>
          simp only [hcode, hpairing] at h
          obtain ⟨-, rfl⟩ := Prod.mk.inj h
          exact ⟨rfl, rfl, rfl, rfl, rfl, Or.inl rfl⟩
      | some stored =>
          simp only [hcode, hpairing] at h
          split_ifs at h <;> obtain ⟨-, rfl⟩ := Prod.mk.inj h
          · exact ⟨rfl, rfl, rfl, rfl, rfl, Or.inl rfl⟩
          · exact ⟨rfl, rfl, rfl, rfl, rfl, Or.inl rfl⟩
          · exact ⟨rfl, rfl, rfl, rfl, rfl, Or.inl rfl⟩
          · exact ⟨rfl, rfl, rfl, rfl, rfl, Or.inr ⟨_, rfl, rfl, rfl, rfl⟩⟩

/-- What `connect_device` does: the device was not revoked, and its socket is registered. -/
theorem connectDevice_cases {websocket : Socket} {reply : Nat × Option Socket}
    (h : g.connectDevice now d websocket = .ok (reply, g')) :
    (∃ device, g.devices.get d = some device ∧ device.revokedAt = none) ∧
      DevicesGrown g.devices g'.devices ∧ g'.locks = g.locks ∧
      g'.connections = g.connections.set d websocket := by
  obtain ⟨device, hdevice, h⟩ := ok_of_bind h
  obtain ⟨_, hrevoked, h⟩ := ok_of_bind h
  obtain ⟨-, rfl⟩ := Prod.mk.inj (Except.ok.inj h)
  have hget := getDevice_ok hdevice
  refine ⟨⟨device, hget, ensureNotRevoked_ok hrevoked⟩, ?_, rfl, rfl⟩
  exact .set hget ⟨rfl, le_rfl, Nat.le_succ _, rfl, rfl⟩

/-- What `revoke_device` does: nothing to a device that had been revoked, else the record is
    revoked and the socket gone. -/
theorem revokeDevice_cases {ownerId tokenHash : String} {sockets : List Socket}
    (h : g.revokeDevice now d ownerId tokenHash = .ok (sockets, g')) :
    ∃ device, g.devices.get d = some device ∧
      ((device.revokedAt.isSome = true ∧ g' = g) ∨
        (device.revokedAt = none ∧ ∃ bindings, g' = { g with
          devices := g.devices.set d
            { device with
              revokedAt := some now, status := .revoked, tokenHash
              bindingEpoch := device.bindingEpoch + 1
              connectionGeneration := device.connectionGeneration + 1 }
          connections := g.connections.erase d
          connectionSets := g.connectionSets.erase d
          bindings })) := by
  obtain ⟨device, hdevice, h⟩ := ok_of_bind h
  obtain ⟨-, h⟩ := ok_of_guard h
  refine ⟨device, getDevice_ok hdevice, ?_⟩
  by_cases hrevoked : device.revokedAt.isSome = true
  · rw [if_pos hrevoked] at h
    obtain ⟨-, rfl⟩ := Prod.mk.inj (Except.ok.inj h)
    exact Or.inl ⟨hrevoked, rfl⟩
  · rw [if_neg hrevoked] at h
    obtain ⟨-, rfl⟩ := Prod.mk.inj (Except.ok.inj h)
    exact Or.inr ⟨by simpa using hrevoked, _, rfl⟩

end ConnectorGateway

theorem World.gateways_setGateway_self (w : World) (host : String) (g : ConnectorGateway) :
    (w.setGateway host g).gateways host = g := by
  unfold setGateway
  exact Function.update_self host g w.gateways

/-! ### Any block -/

/-- The blocks that install no device's record, register no socket and revoke nothing. -/
def Update.Routine : Update → Prop
  | .installInitial _ _ => False
  | .exchangePairing _ => False
  | .installDevice _ => False
  | .installDeviceState _ _ _ => False
  | .installDevices _ => False
  | .connect _ _ => False
  | .revokeDevice _ _ => False
  | _ => True

open ConnectorGateway in
/-- Every routine block keeps the memory. -/
theorem Update.Routine.kept {u : Update} (hroutine : u.Routine) {c : Choice} {reply : u.Reply}
    (h : u.apply g c = .ok (reply, g')) : Kept g g' := by
  cases u with
  | installInitial | exchangePairing | installDevice | installDeviceState | installDevices
  | connect | revokeDevice => exact hroutine.elim
  | createPairing deviceName =>
      obtain ⟨-, rfl⟩ := Prod.mk.inj (Except.ok.inj h)
      exact createPairing_kept _ _ _ _
  | approvePairing userCode ownerId =>
      obtain ⟨-, rfl⟩ := Prod.mk.inj (Except.ok.inj h)
      exact approvePairing_kept _ _
  | installRoutes routes =>
      obtain ⟨-, rfl⟩ := Prod.mk.inj (Except.ok.inj h)
      exact installRoutes_kept routes
  | mergeCursors deviceId shared =>
      obtain ⟨-, rfl⟩ := Prod.mk.inj (Except.ok.inj h)
      exact mergeCursors_kept shared
  | disconnect deviceId websocket =>
      obtain ⟨-, rfl⟩ := Prod.mk.inj (Except.ok.inj h)
      exact disconnectDevice_kept websocket
  | markSinkAccepted taskId =>
      obtain ⟨-, rfl⟩ := Prod.mk.inj (Except.ok.inj h)
      exact markSinkAccepted_kept taskId
  | restoreLocalCommandForReplay commandId =>
      obtain ⟨-, rfl⟩ := Prod.mk.inj (Except.ok.inj h)
      exact restoreLocalCommandForReplay_kept commandId
  | setDraining | installBindings _ _ | installCommand _ | rememberToken _ _ | forgetToken _
  | markPersisted _ =>
      obtain ⟨-, rfl⟩ := Prod.mk.inj (Except.ok.inj h)
      exact .of_eq rfl rfl rfl
  | markTransportReady => exact markTransportReady_kept h
  | applyHello => exact applyHello_kept h
  | heartbeat => exact heartbeat_kept h
  | updateInventory => exact updateInventory_kept h
  | observeInboundSequence => exact observeInboundSequence_kept h
  | acknowledgeCommand => exact acknowledgeCommand_kept h
  | submitAgentTaskResult => exact submitAgentTaskResult_kept h
  | appendRuntimeEvent => exact appendRuntimeEvent_kept h
  | createBinding => exact createBinding_kept h
  | queueCommand => exact queueCommand_kept h
  | markDurable => exact markDurable_kept h
  | startDelivery => exact startDelivery_kept h
  | reserveCommandSequence => exact reserveCommandSequence_kept h
  | markDelivered => exact markDelivered_kept h
  | reserveNotificationSequence => exact reserveNotificationSequence_kept h

end Arena402.Gateway
