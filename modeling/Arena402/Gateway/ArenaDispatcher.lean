/-
The dispatch of Arena tasks to the sessions of Connectors.

`ConnectorArenaTaskDispatcher` claims a task from the database and asks the gateway for a
session of the task's binding, or sends the task to the session there is.  One call runs
here without other calls in between, at its own readings of the clock; the claim is put
back in every case but one, so the database is left out.
-/
import Arena402.Gateway.Schema

namespace Arena402.Gateway

open Py

/-- A `ConnectorTaskClaim`, with what the dispatcher reads of its task. -/
structure TaskClaim where
  connectorBindingId : String
  connectorBindingEpoch : Nat
  taskId : String
  idempotencyKey : String
  deadlineAt : Time
deriving DecidableEq, Repr

/-- The command payloads that the dispatcher builds. -/
inductive DispatchPayload
  | sessionStart (workingDirectory : String)
  | taskDispatch (sessionId taskId : String)
deriving DecidableEq, Repr

/-- When a call asks for the remaining time, queues a command and delivers. -/
structure DispatchClock where
  asked : Time
  queuedAt : Time
  delivered : Time
deriving DecidableEq, Repr

namespace ConnectorGateway

/-- The loop of `_deliver_pending_serialized`; `sends` says whether each write of a frame
    succeeds, and a failed one ends it. -/
def deliverCommands (g : ConnectorGateway) (now : Time) (deviceId : String) (websocket : Socket)
    (generation : Nat) : List Command → List Bool → ConnectorGateway
  | [], _ => g
  | command :: rest, sends =>
      match g.reserveCommandSequence deviceId websocket generation command.commandId with
      | .error _ => g
      | .ok (none, g) => g.deliverCommands now deviceId websocket generation rest sends
      | .ok (some _, g) =>
          match sends with
          | true :: sends =>
              match g.markDelivered now deviceId websocket generation command.commandId with
              | .error _ => g
              | .ok (_, g) => g.deliverCommands now deviceId websocket generation rest sends
          | _ => g

/-- `deliver_pending` of the gateway without a database. -/
def deliverPending (g : ConnectorGateway) (now : Time) (deviceId : String) (sends : List Bool) :
    ConnectorGateway :=
  match g.startDelivery now deviceId with
  | .error _ => g
  | .ok (delivery, g) =>
      match delivery.websocket with
      | some websocket =>
          if delivery.ready then
            g.deliverCommands now deviceId websocket delivery.generation delivery.queued sends
          else g
      | none => g

/-- All of `queue_command`: the block that selects or adds the command, the mark that it may
    leave the process, and the delivery. -/
def queueAndDeliver (g : ConnectorGateway) (clock : DispatchClock) (commandId : String)
    (request : CommandRequest) (sends : List Bool) : ConnectorGateway :=
  match g.queueCommand clock.queuedAt commandId request with
  | .error _ => g
  | .ok (command, g) =>
      match g.markDurable command.commandId with
      | .error _ => g
      | .ok (_, g) => g.deliverPending clock.delivered command.deviceId sends

end ConnectorGateway

open ConnectorGateway

/-- `max(1, min(3600, math.ceil(remaining)))`. -/
def expiresIn (remaining : Time) : Nat :=
  max 1 (min 3600 remaining)

/-- The idempotency key of the session start of a generation. -/
def sessionKey (bindingId : String) (epoch generation : Nat) : String :=
  "arena-session:" ++ bindingId ++ ":" ++ toString epoch ++ ":" ++ toString generation

/-- The working directory of a binding without the space around it. -/
def Binding.directory (binding : Binding) : String :=
  String.ofList (strip (binding.workingDirectory.getD "").toList)

variable (fingerprint : CommandAction → DispatchPayload → String)

/-- The start that is queued for a claim. -/
def startRequest (claim : TaskClaim) (binding : Binding) (asked : Time) : CommandRequest where
  bindingId := claim.connectorBindingId
  action := .sessionStart
  requestFingerprint := fingerprint .sessionStart (.sessionStart binding.directory)
  idempotencyKey := some
    (sessionKey claim.connectorBindingId claim.connectorBindingEpoch binding.sessionGeneration)
  expiresInSeconds := expiresIn (claim.deadlineAt - asked)

/-- `ConnectorArenaRuntimeAdapter.dispatch` for a binding that has a session. -/
def adapterDispatch (g : ConnectorGateway) (clock : DispatchClock) (commandId : String)
    (sends : List Bool) (claim : TaskClaim) (sessionId : String) : ConnectorGateway :=
  if claim.deadlineAt ≤ clock.asked then g
  else
    g.queueAndDeliver clock commandId
      { bindingId := claim.connectorBindingId
        action := .taskDispatch
        sessionId := some sessionId
        taskId := some claim.taskId
        requestFingerprint := fingerprint .taskDispatch (.taskDispatch sessionId claim.taskId)
        idempotencyKey := some claim.idempotencyKey
        expiresInSeconds := expiresIn (claim.deadlineAt - clock.asked) } sends

/-- `_dispatch_claim`; `commandId` is the id that a new command would get. -/
def dispatchClaim (g : ConnectorGateway) (clock : DispatchClock) (commandId : String)
    (sends : List Bool) (claim : TaskClaim) : ConnectorGateway :=
  match g.bindings.values.find? fun binding => binding.bindingId == claim.connectorBindingId with
  | none => g
  | some binding =>
      if binding.bindingEpoch ≠ claim.connectorBindingEpoch then g
      else
        match binding.lastSessionId.bind orNone with
        | some sessionId => adapterDispatch fingerprint g clock commandId sends claim sessionId
        | none =>
            if binding.directory = "" then g
            else if claim.deadlineAt ≤ clock.asked then g
            -- `_validate_command_payload`
            else if 2048 < binding.directory.length then g
            else
              g.queueAndDeliver clock commandId (startRequest fingerprint claim binding clock.asked)
                sends

/-! ### Session starts -/

/-- A start of a binding's session generation that may still lead to a session. -/
def Command.IsOpenStart (command : Command) (bindingId : String) (generation : Nat) : Prop :=
  command.action = .sessionStart ∧ command.bindingId = bindingId ∧
    command.sessionGeneration = generation ∧
    command.status ≠ .expired ∧ command.status ≠ .failed ∧ command.status ≠ .rejected

instance decidableIsOpenStart (command : Command) (bindingId : String) (generation : Nat) :
    Decidable (command.IsOpenStart bindingId generation) :=
  inferInstanceAs (Decidable (_ ∧ _ ∧ _ ∧ _ ∧ _ ∧ _))

namespace ConnectorGateway

/-- The gateway holds a start of the binding's session generation that is not expired, failed
    or rejected. -/
def HoldsStart (g : ConnectorGateway) (bindingId : String) (generation : Nat) : Prop :=
  ∃ item ∈ g.commands, item.2.IsOpenStart bindingId generation

instance decidableHoldsStart (g : ConnectorGateway) (bindingId : String) (generation : Nat) :
    Decidable (g.HoldsStart bindingId generation) :=
  inferInstanceAs (Decidable (∃ item ∈ g.commands, item.2.IsOpenStart bindingId generation))

/-- A queued command whose time is over is expired by the delivery that follows an accepted
    request; `selected` is the command the request has selected. -/
def SweptBy (command selected : Command) (delivered : Time) : Prop :=
  command.status = .queued ∧ (command.durableReady = true ∨ command.commandId = selected.commandId) ∧
    command.expiresAt ≤ delivered

instance decidableSweptBy (command selected : Command) (delivered : Time) :
    Decidable (SweptBy command selected delivered) :=
  inferInstanceAs (Decidable (_ ∧ (_ ∨ _) ∧ _ ≤ _))

/-- When a start is held after the call: the request adds a new one, or there is one already
    that the call does not find expired. -/
def StartPossible (g : ConnectorGateway) (clock : DispatchClock) (binding : Binding)
    (request : CommandRequest) : Prop :=
  if g.admits request = true ∧ binding.directory.length ≤ 2048 then
    match g.selectCommand request with
    | .ok none =>
        clock.delivered < clock.queuedAt + 3600 ∨
          ∃ item ∈ g.commands, item.2.IsOpenStart binding.bindingId binding.sessionGeneration ∧
            ¬(item.2.status = .queued ∧ item.2.durableReady = true ∧
              item.2.expiresAt ≤ clock.delivered)
    | .ok (some selected) =>
        ∃ item ∈ g.commands, item.2.IsOpenStart binding.bindingId binding.sessionGeneration ∧
          ¬SweptBy item.2 selected clock.delivered
    | .error _ => g.HoldsStart binding.bindingId binding.sessionGeneration
  else g.HoldsStart binding.bindingId binding.sessionGeneration

instance decidableStartPossible (g : ConnectorGateway) (clock : DispatchClock) (binding : Binding)
    (request : CommandRequest) : Decidable (g.StartPossible clock binding request) := by
  unfold StartPossible
  split
  · split <;> infer_instance
  · infer_instance

end ConnectorGateway

end Arena402.Gateway
