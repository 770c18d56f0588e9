/-
The actions the methods are made of.

`Plain` leaves out the two actions that only the senders of numbered frames perform:
writing such a frame to a socket and saving its number.  Every method but those senders is
made of plain actions of its own instance, so a fact about plain actions holds all through
it.
-/
import Arena402.Gateway.Coroutines

namespace Arena402.Gateway

open Py Async

/-- Neither a numbered frame nor the save of its number. -/
def Call.Plain : Call → Prop
  | .send _ _ frame => frame.sequence? = none
  | .saveOutboundSequence _ _ _ => False
  | _ => True

variable {self : String} {good : Act → Prop} {α : Type}

/-! ### Parts that hold their caller's locks -/

section LockFree

variable (hgood : ∀ call : Call, call.Plain → (∀ lock, call ≠ .unlock lock) → good ⟨self, call⟩)

include hgood

theorem canDeliverToConnection_within (deviceId : String) (websocket : Socket) :
    (canDeliverToConnection self deviceId websocket).Within good := by
  have howner : ∀ token, good ⟨self, .isOwner deviceId token⟩ := fun token =>
    hgood _ trivial fun _ hc => by cases hc
  refine .bind (.perform (hgood _ trivial fun _ hc => by cases hc)) fun token => ?_
  cases token with
  | none => trivial
  | some token => exact .perform (howner token)

theorem commitDelivered_within (deviceId : String) (websocket : Socket) (generation : Nat)
    (commandId : String) :
    (commitDelivered self deviceId websocket generation commandId).Within good := by
  have hupdate : ∀ u, (update self u).Within good := fun u =>
    .perform (hgood _ trivial fun _ hc => by cases hc)
  refine .bind (hupdate _) fun delivered => ?_
  cases delivered with
  | none => trivial
  | some command =>
      refine .bind (.perform (hgood _ trivial fun _ hc => by cases hc)) fun token => ?_
      cases token with
      | none => trivial
      | some token =>
          refine .bind (.attempt (.perform (hgood _ trivial fun _ hc => by cases hc)))
            fun committed => ?_
          cases committed with
          | error error => exact .bind (hupdate _) fun _ => trivial
          | ok saved =>
              cases saved with
              | true => trivial
              | false => exact hupdate _

end LockFree

/-! ### Methods -/

section Within

variable (hgood : ∀ call : Call, call.Plain → good ⟨self, call⟩)

include hgood

theorem await_within {call : Call} (h : call.Plain) : (await self call).Within good :=
  .perform (hgood call h)

theorem query_within (q : Query) : (query self q).Within good :=
  await_within hgood trivial

theorem update_within (u : Update) : (update self u).Within good :=
  await_within hgood trivial

theorem locked_within (lock : Lock) {body : Coroutine α} (h : body.Within good) :
    (locked self lock body).Within good :=
  .bind (await_within hgood trivial) fun _ => .ensuring h (await_within hgood trivial)

theorem persistCurrent_within (scope : Scope) (fence : Option Fence) :
    (persistCurrent self scope fence).Within good := by
  refine locked_within hgood _ (.bind (query_within hgood _) fun state => ?_)
  refine .bind (.attempt (await_within hgood trivial)) fun result => ?_
  cases result with
  | ok value => exact update_within hgood _
  | error error => cases error <;> trivial

theorem activeLeases_within : ∀ deviceIds : List String,
    (activeLeases self deviceIds).Within good := by
  intro deviceIds
  induction deviceIds with
  | nil => trivial
  | cons deviceId rest ih =>
      exact .bind (await_within hgood trivial) fun _ => .bind ih fun _ => trivial

theorem initializeGateway_within : (initializeGateway self).Within good := by
  refine .bind (query_within hgood _) fun initialized => ?_
  cases initialized with
  | true => trivial
  | false =>
      refine locked_within hgood _ (.bind (query_within hgood _) fun initialized => ?_)
      cases initialized with
      | true => trivial
      | false =>
          refine .bind (await_within hgood trivial) fun state => ?_
          refine .bind (activeLeases_within hgood _) fun active => ?_
          exact .bind (update_within hgood _) fun _ => persistCurrent_within hgood _ _

theorem refreshDeviceRuntimeState_within (deviceId : String) :
    (refreshDeviceRuntimeState self deviceId).Within good := by
  refine .bind (await_within hgood trivial) fun state => ?_
  cases state.device with
  | none => trivial
  | some shared => exact update_within hgood _

omit hgood in
theorem returned_within (result : Except Error α) : (returned result).Within good := by
  cases result <;> trivial

/-! ### Pairing and connections -/

theorem createPairing_within (deviceName : String) :
    (createPairing self deviceName).Within good := by
  refine .bind (initializeGateway_within hgood) fun _ => ?_
  refine .bind (update_within hgood _) fun outcome => ?_
  exact .bind (returned_within outcome) fun _ => persistCurrent_within hgood _ _

theorem approvePairing_within (userCode ownerId : String) :
    (approvePairing self userCode ownerId).Within good := by
  refine .bind (initializeGateway_within hgood) fun _ => ?_
  refine .bind (update_within hgood _) fun outcome => ?_
  exact .bind (returned_within outcome) fun _ => persistCurrent_within hgood _ _

theorem exchangePairing_within (codeHash : String) :
    (exchangePairing self codeHash).Within good := by
  refine .bind (initializeGateway_within hgood) fun _ => ?_
  refine .bind (update_within hgood _) fun outcome => ?_
  exact .bind (returned_within outcome) fun _ => persistCurrent_within hgood _ _

theorem installShared_within (deviceId : String) : (installShared self deviceId).Within good := by
  refine .bind (await_within hgood trivial) fun shared => ?_
  cases shared with
  | none => trivial
  | some device => exact update_within hgood _

theorem authenticateDevice_within (deviceId tokenHash : String) :
    (authenticateDevice self deviceId tokenHash).Within good :=
  .bind (initializeGateway_within hgood) fun _ =>
    .bind (installShared_within hgood deviceId) fun _ => query_within hgood _

theorem registerSocket_within (deviceId : String) (websocket : Socket) :
    (registerSocket self deviceId websocket).Within good := by
  refine locked_within hgood _ (.bind (update_within hgood _) fun registered => ?_)
  obtain ⟨generation, previous⟩ := registered
  cases previous with
  | none => trivial
  | some old =>
      dsimp only
      split_ifs
      · exact .bind (.attempt (await_within hgood trivial)) fun _ => trivial
      · trivial

theorem mergeSharedCursors_within (deviceId : String) :
    (mergeSharedCursors self deviceId).Within good := by
  refine .bind (await_within hgood trivial) fun shared => ?_
  cases shared with
  | none => trivial
  | some device => exact update_within hgood _

theorem persistConnection_within (deviceId : String) (websocket : Socket) (fencingToken : Nat) :
    (persistConnection self deviceId websocket fencingToken).Within good := by
  refine .bind (update_within hgood _) fun _ => ?_
  refine .bind (mergeSharedCursors_within hgood deviceId) fun _ => ?_
  refine .bind (.attempt (persistCurrent_within hgood _ _)) fun result => ?_
  cases result with
  | ok value => trivial
  | error error =>
      refine .bind (update_within hgood _) fun _ => ?_
      refine .bind (await_within hgood trivial) fun _ => ?_
      exact .bind (update_within hgood _) fun _ => trivial

theorem connectDevice_within (deviceId : String) (websocket : Socket) :
    (connectDevice self deviceId websocket).Within good := by
  refine .bind (initializeGateway_within hgood) fun _ => ?_
  refine .bind (query_within hgood _) fun draining => ?_
  cases draining with
  | true => trivial
  | false =>
      refine .bind (refreshDeviceRuntimeState_within hgood deviceId) fun _ => ?_
      refine .bind (registerSocket_within hgood deviceId websocket) fun generation => ?_
      refine .bind (.attempt (await_within hgood trivial)) fun result => ?_
      cases result with
      | error error => exact .bind (update_within hgood _) fun _ => trivial
      | ok fencingToken =>
          exact .bind (persistConnection_within hgood deviceId websocket fencingToken)
            fun _ => trivial

theorem disconnectDevice_within (deviceId : String) (websocket : Socket) :
    (disconnectDevice self deviceId websocket).Within good := by
  refine .bind (initializeGateway_within hgood) fun _ => ?_
  refine .bind (update_within hgood _) fun fencingToken => ?_
  refine .bind (update_within hgood _) fun _ => ?_
  cases fencingToken with
  | none => trivial
  | some token =>
      refine .bind (query_within hgood _) fun device => ?_
      refine .bind (await_within hgood trivial) fun released => ?_
      cases released with
      | true => exact persistCurrent_within hgood _ _
      | false => trivial

theorem drainConnections_within : ∀ connections : List (String × Socket),
    (drainConnections self connections).Within good := by
  intro connections
  induction connections with
  | nil => trivial
  | cons connection rest ih =>
      refine .bind (.attempt (await_within hgood trivial)) fun _ => ?_
      exact .bind (disconnectDevice_within hgood connection.1 connection.2) fun _ => ih

theorem beginDrain_within : (beginDrain self).Within good :=
  .bind (update_within hgood _) fun _ =>
    .bind (query_within hgood _) fun connections => drainConnections_within hgood connections

theorem refuseRevoked_within (deviceId : String) : (refuseRevoked self deviceId).Within good := by
  refine .bind (await_within hgood trivial) fun shared => ?_
  cases shared with
  | none => trivial
  | some device =>
      dsimp only
      split_ifs <;> trivial

theorem assertActiveConnection_within (deviceId : String) (websocket : Socket)
    (generation : Option Nat) :
    (assertActiveConnection self deviceId websocket generation).Within good := by
  refine .bind (initializeGateway_within hgood) fun _ => ?_
  refine .bind (refuseRevoked_within hgood deviceId) fun _ => ?_
  refine .bind (query_within hgood _) fun _ => ?_
  refine .bind (query_within hgood _) fun token => ?_
  cases token with
  | none => trivial
  | some token =>
      refine .bind (await_within hgood trivial) fun owner => ?_
      cases owner <;> trivial

theorem sendActiveMessage_within (deviceId : String) (websocket : Socket) (generation : Nat)
    (kind : String) : (sendActiveMessage self deviceId websocket generation kind).Within good :=
  locked_within hgood _
    (.bind (assertActiveConnection_within hgood deviceId websocket _) fun _ =>
      await_within hgood rfl)

/-! ### Transitions of a socket -/

theorem transition_within (deviceId : String) (expected : Option Nat) {body : Coroutine α}
    (scope : α → Scope) (hbody : body.Within good) :
    (transition self deviceId expected body scope).Within good := by
  refine .bind (initializeGateway_within hgood) fun _ => ?_
  refine .bind hbody fun result => ?_
  refine .bind (query_within hgood _) fun fence => ?_
  exact .bind (persistCurrent_within hgood _ _) fun _ => trivial

theorem applyHello_within (deviceId : String) (payload : ConnectorGateway.Hello)
    (expected : Option Nat) : (applyHello self deviceId payload expected).Within good :=
  .bind (transition_within hgood deviceId expected _
    (.bind (update_within hgood _) fun _ => query_within hgood _)) fun _ => trivial

theorem heartbeat_within (deviceId : String) (sessions expected : Option Nat) :
    (heartbeat self deviceId sessions expected).Within good := by
  refine transition_within hgood deviceId expected _ (.bind (update_within hgood _) fun _ => ?_)
  cases expected with
  | none => trivial
  | some generation =>
      refine .bind (query_within hgood _) fun token => ?_
      cases token with
      | none => trivial
      | some token =>
          refine .bind (await_within hgood trivial) fun renewed => ?_
          cases renewed <;> trivial

theorem submitAgentTaskResult_within (deviceId : String) (payload : ConnectorGateway.ResultMessage)
    (expected : Option Nat) : (submitAgentTaskResult self deviceId payload expected).Within good := by
  refine .bind (transition_within hgood deviceId expected _ (update_within hgood _))
    fun receipt => ?_
  refine .bind (query_within hgood _) fun sink => ?_
  cases sink with
  | false => trivial
  | true =>
      refine .bind (.attempt (await_within hgood trivial)) fun result => ?_
      cases result with
      | error error => trivial
      | ok value =>
          refine .bind (update_within hgood _) fun _ => ?_
          exact .bind (persistCurrent_within hgood _ _) fun _ => trivial

/-! ### The control plane -/

theorem listBindings_within (deviceId : Option String) :
    (listBindings self deviceId).Within good :=
  .bind (initializeGateway_within hgood) fun _ =>
    .bind (await_within hgood trivial) fun _ => update_within hgood _

theorem listDevices_within (ownerId : Option String) : (listDevices self ownerId).Within good :=
  .bind (initializeGateway_within hgood) fun _ =>
    .bind (await_within hgood trivial) fun _ => update_within hgood _

theorem getDevice_within (deviceId : String) : (getDevice self deviceId).Within good := by
  refine .bind (initializeGateway_within hgood) fun _ => ?_
  refine .bind (refreshDeviceRuntimeState_within hgood deviceId) fun _ => ?_
  refine .bind (query_within hgood _) fun device => ?_
  split_ifs
  · exact .bind (await_within hgood trivial) fun _ => trivial
  · trivial

theorem closeSockets_within : ∀ sockets : List Socket,
    (closeSockets self sockets).Within good := by
  intro sockets
  induction sockets with
  | nil => trivial
  | cons websocket rest ih => exact .bind (.attempt (await_within hgood trivial)) fun _ => ih

theorem revokeDevice_within (deviceId ownerId : String) :
    (revokeDevice self deviceId ownerId).Within good := by
  refine .bind (initializeGateway_within hgood) fun _ => ?_
  refine .bind (refreshDeviceRuntimeState_within hgood deviceId) fun _ => ?_
  refine .bind (locked_within hgood _
    (.bind (update_within hgood _) fun sockets => closeSockets_within hgood sockets)) fun _ => ?_
  exact .bind (query_within hgood _) fun _ => persistCurrent_within hgood _ _

theorem createBinding_within (deviceId runtimeId : String) (directory : Option String) :
    (createBinding self deviceId runtimeId directory).Within good := by
  refine .bind (initializeGateway_within hgood) fun _ => ?_
  refine .bind (refreshDeviceRuntimeState_within hgood deviceId) fun _ => ?_
  refine .bind (returned_within _) fun _ => ?_
  exact .bind (update_within hgood _) fun _ => persistCurrent_within hgood _ _

theorem prepareCommandDelivery_within (commandId : String) :
    (prepareCommandDelivery self commandId).Within good := by
  refine .bind (query_within hgood _) fun durable => ?_
  cases durable with
  | true => trivial
  | false => exact persistCurrent_within hgood _ _

theorem refreshBindingDevice_within (bindingId : String) :
    (refreshBindingDevice self bindingId).Within good := by
  refine .bind (await_within hgood trivial) fun binding => ?_
  cases binding with
  | none => trivial
  | some binding => exact refreshDeviceRuntimeState_within hgood binding.deviceId

theorem installKeyedCommand_within (bindingId : String) (key : Option String) :
    (installKeyedCommand self bindingId key).Within good := by
  unfold installKeyedCommand
  cases key.bind orNone with
  | none => trivial
  | some key =>
      refine .bind (await_within hgood trivial) fun shared => ?_
      cases shared with
      | none => trivial
      | some command => exact update_within hgood _

end Within

end Arena402.Gateway
