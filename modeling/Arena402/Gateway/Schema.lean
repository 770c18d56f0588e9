/-
The schema of the gateway's tables.

The dictionaries of `ConnectorGateway` have no declared relations, and the operations rely
on them all the same: a binding belongs to one runtime, a command to one binding, an
idempotency key to one command or to a dispatch and its single retry, a result to the
device that the task was dispatched to.
-/
import Arena402.Gateway.StoppedSession

namespace Arena402.Gateway

open Py

/-- A dispatch that a restart of the Connector has interrupted. -/
def Command.Interrupted (command : Command) : Prop :=
  command.status = .failed ∧ command.errorCode = some "connector_restarted"

instance decidableInterrupted (command : Command) : Decidable command.Interrupted :=
  inferInstanceAs (Decidable (_ ∧ _))

/-- What the commands of a key may be: one, or an interrupted dispatch and another one. -/
def KeyRule : List Command → Prop
  | [] => True
  | [_] => True
  | [first, second] =>
      first.action = .taskDispatch ∧ second.action = .taskDispatch ∧
        first.requestFingerprint ≠ second.requestFingerprint ∧ first.Interrupted
  | _ => False

namespace ConnectorGateway

/-- The commands of a binding under an idempotency key, in the order they were queued. -/
def commandsOf (g : ConnectorGateway) (bindingId key : String) : List Command :=
  g.commands.values.filter fun command =>
    command.bindingId = bindingId ∧ command.idempotencyKey = key

/-- The relations between the tables. -/
structure Schema (g : ConnectorGateway) : Prop where
  /-- The runtimes of a device have distinct ids. -/
  runtimes : ∀ item ∈ g.devices, (item.2.runtimes.map Runtime.runtimeId).Nodup
  /-- A runtime of a device has one binding at most. -/
  bindings : (g.bindings.map fun item => (item.2.deviceId, item.2.runtimeId)).Nodup
  /-- A command has the device, the runtime and the agent of its binding. -/
  commands : ∀ item ∈ g.commands, ∃ binding, g.bindings.get item.2.bindingId = some binding ∧
    item.2.deviceId = binding.deviceId ∧ item.2.runtimeId = binding.runtimeId ∧
    item.2.agentId = binding.agentId
  keys : ∀ bindingId key, KeyRule (g.commandsOf bindingId key)
  /-- There is one result for a task, stored under the task's id. -/
  taskIds : g.agentTaskResults.keys.Nodup ∧ ∀ item ∈ g.agentTaskResults, item.2.taskId = item.1
  /-- A result came from the device of the binding that its dispatch was addressed to. -/
  results : ∀ item ∈ g.agentTaskResults, ∃ command binding,
    g.commands.get item.2.commandId = some command ∧ command.action = .taskDispatch ∧
    command.taskId = some item.1 ∧ g.bindings.get command.bindingId = some binding ∧
    item.2.deviceId = binding.deviceId

/-- What no later state takes back. -/
structure Evolves (g g' : ConnectorGateway) : Prop where
  directory : ∀ id binding, g.bindings.get id = some binding →
    ∃ new, g'.bindings.get id = some new ∧ new.deviceId = binding.deviceId ∧
      new.runtimeId = binding.runtimeId ∧
      (binding.workingDirectory.isSome → new.workingDirectory = binding.workingDirectory)
  terminal : ∀ id command, g.commands.get id = some command → command.status.isTerminal = true →
    ∃ new, g'.commands.get id = some new ∧ new.status = command.status
  results : ∀ taskId result, g.agentTaskResults.get taskId = some result →
    g'.agentTaskResults.get taskId = some result

/-- The checks `queue_command` makes before it looks at the idempotency key. -/
def admits (g : ConnectorGateway) (request : CommandRequest) : Bool :=
  match g.bindings.get request.bindingId with
  | none => false
  | some binding =>
      match g.activeDevice binding.deviceId none with
      | .error _ => false
      | .ok device =>
          (checkSession binding request).toBool &&
            (checkRuntime binding
              (device.runtimes.find? fun item => item.runtimeId == binding.runtimeId)
              request).toBool

/-- A dispatch that is queued as a retry follows a dispatch. -/
def RetriesDispatch (g : ConnectorGateway) (request : CommandRequest) : Prop :=
  match request.idempotencyKey.bind orNone with
  | none => True
  | some key =>
      match g.commandsOf request.bindingId key with
      | [previous] =>
          g.admits request = true → request.action = .taskDispatch →
            previous.requestFingerprint ≠ request.requestFingerprint → previous.Interrupted →
            previous.action = .taskDispatch
      | _ => True

/-- The acknowledgement of an interrupted dispatch that has been retried still says so, in what is
    kept of its error. -/
def StaysInterrupted (g : ConnectorGateway) (deviceId : String) (payload : CommandAck)
    (expectedGeneration : Option Nat) : Prop :=
  match g.takes deviceId payload expectedGeneration with
  | none => True
  | some (command, status) =>
      match g.commandsOf command.bindingId command.idempotencyKey with
      | first :: _ :: _ =>
          first.commandId = command.commandId →
            (storedError payload status).bind (·.get "code") = some "connector_restarted"
      | _ => True

/-- A step that neither retries another command as a dispatch nor renames the failure of a
    dispatch that has been retried. -/
def KeepsKeys (g : ConnectorGateway) (event : Choice × Update) : Prop :=
  match event.2 with
  | .queueCommand request => g.RetriesDispatch request
  | .acknowledgeCommand deviceId payload expectedGeneration =>
      g.StaysInterrupted deviceId payload expectedGeneration
  | _ => True

instance decidableRetriesDispatch (g : ConnectorGateway) (request : CommandRequest) :
    Decidable (g.RetriesDispatch request) := by
  unfold RetriesDispatch
  split
  · exact .isTrue trivial
  · split
    · exact inferInstance
    · exact .isTrue trivial

instance decidableStaysInterrupted (g : ConnectorGateway) (deviceId : String)
    (payload : CommandAck) (expectedGeneration : Option Nat) :
    Decidable (g.StaysInterrupted deviceId payload expectedGeneration) := by
  unfold StaysInterrupted
  split
  · exact .isTrue trivial
  · split
    · exact inferInstance
    · exact .isTrue trivial

instance decidableKeepsKeys (g : ConnectorGateway) (event : Choice × Update) :
    Decidable (g.KeepsKeys event) := by
  obtain ⟨c, u⟩ := event
  induction u using Update.casesOn with
  | queueCommand request => exact inferInstanceAs (Decidable (g.RetriesDispatch request))
  | acknowledgeCommand d payload expected =>
      exact inferInstanceAs (Decidable (g.StaysInterrupted d payload expected))
  | _ => exact .isTrue trivial

end ConnectorGateway

end Arena402.Gateway
