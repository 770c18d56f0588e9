/-
Acknowledgements that are sent again.

A Connector keeps a receipt of every command and sends all of them at each reconnect, so
the gateway runs an old acknowledgement through the whole update of the binding again.
`Carries` says, action by action, which fields of the binding must still have the values
that the acknowledgement gave them.
-/
import Arena402.Gateway.Operations

namespace Arena402.Gateway

open Py

namespace ConnectorGateway

/-- The session an acknowledgement names: its own field or the result's. -/
def CommandAck.session (payload : CommandAck) : Option String :=
  (payload.sessionId.bind orNone).orElse fun _ => payload.resultSessionId.bind orNone

/-- The task an acknowledgement's result names. -/
def CommandAck.task (payload : CommandAck) : Option String :=
  payload.resultTaskId.bind orNone

end ConnectorGateway

open ConnectorGateway

/-- A start or a resume. -/
def CommandAction.isLifecycle (action : CommandAction) : Prop :=
  action = .sessionStart ∨ action = .sessionResume

instance decidableIsLifecycle (action : CommandAction) : Decidable action.isLifecycle :=
  inferInstanceAs (Decidable (_ ∨ _))

/-- `lifecycle_is_older_than_restart`. -/
def Command.OlderThanRestart (command : Command) (binding : Binding) : Prop :=
  command.action.isLifecycle ∧ command.sessionGeneration < binding.sessionGeneration

/-- `lifecycle_is_older_than_stop`. -/
def Command.olderThanStop (command : Command) (binding : Binding) : Bool :=
  match binding.lastStoppedCommandCreatedAt with
  | some stoppedAt => decide (command.createdAt ≤ stoppedAt)
  | none => false

/-- A start or a resume that no stop and no restart has overtaken. -/
def Command.IsCurrent (command : Command) (binding : Binding) : Prop :=
  command.action.isLifecycle ∧ command.olderThanStop binding = false ∧
    ¬command.OlderThanRestart binding

/-- `session_was_lost`. -/
def SessionLost (payload : CommandAck) (status : CommandStatus) : Prop :=
  (status = .failed ∨ status = .rejected) ∧
    ackErrorCode payload status ∈
      ["connector_restarted", "session_not_found", "stale_binding"]

instance decidableOlderThanRestart (command : Command) (binding : Binding) :
    Decidable (command.OlderThanRestart binding) :=
  inferInstanceAs (Decidable (_ ∧ _))

instance decidableIsCurrent (command : Command) (binding : Binding) :
    Decidable (command.IsCurrent binding) :=
  inferInstanceAs (Decidable (_ ∧ _ ∧ _))

instance decidableSessionLost (payload : CommandAck) (status : CommandStatus) :
    Decidable (SessionLost payload status) :=
  inferInstanceAs (Decidable (_ ∧ _))

/-- The session that the acknowledgement names, if any, is the binding's. -/
def Binding.InSession (binding : Binding) (payload : CommandAck) : Prop :=
  ∀ id, payload.session = some id → binding.lastSessionId = some (clip 128 id)

/-- The task that the acknowledgement names, if any, is the binding's. -/
def Binding.AtTask (binding : Binding) (payload : CommandAck) : Prop :=
  ∀ id, payload.task = some id → binding.lastTaskId = some (clip 128 id)

/-- The task that the acknowledgement of a dispatch names, if any, has been taken off the
    binding; a name that is cut off is left there. -/
def Binding.TaskDone (binding : Binding) (payload : CommandAck) : Prop :=
  ∀ id, payload.task = some id →
    binding.lastTaskId = if clip 128 id = id then none else some (clip 128 id)

/-- The binding still has what a final acknowledgement of the command gives it. -/
def Carries (command : Command) (payload : CommandAck) (status : CommandStatus)
    (binding : Binding) : Prop :=
  if command.action = .sessionStop ∧ status = .succeeded then
    binding.status = .stopped ∧ binding.InSession payload ∧ binding.lastTaskId = none
  else if command.IsCurrent binding then
    binding.status = (if status = .succeeded then .running else .degraded) ∧
      binding.InSession payload ∧ binding.AtTask payload
  else if SessionLost payload status then
    binding.status = .degraded ∧ binding.lastSessionId = none ∧ binding.lastTaskId = none
  else
    (command.OlderThanRestart binding ∨ binding.InSession payload) ∧
      match command.action with
      | .taskDispatch =>
          (binding.status = .stopped ∨ binding.status = .running) ∧ binding.TaskDone payload
      | .runtimeProbe | .sessionStop =>
          (status = .succeeded ∨ binding.status = .stopped ∨ binding.status = .degraded) ∧
            binding.AtTask payload
      | _ => binding.AtTask payload

namespace ConnectorGateway

/-- The gateway does not take a message of this socket. -/
def Refuses (g : ConnectorGateway) (d : String) (expected : Option Nat) : Prop :=
  ∀ device, g.devices.get d = some device →
    device.revokedAt.isSome = true ∨
      ∃ generation, expected = some generation ∧ device.connectionGeneration ≠ generation

/-- Whether an acknowledgement that was taken before finds everything as it has left it. -/
def ReplayHarmless (g : ConnectorGateway) (d : String) (payload : CommandAck)
    (expected : Option Nat) : Prop :=
  g.Refuses d expected ∨
    ∀ command status, g.commands.get payload.commandId = some command →
      payload.status = some status →
      (command.result = payload.result ∧ command.error = storedError payload status) ∧
      ∀ binding, g.bindings.get command.bindingId = some binding →
        Carries command payload status binding

/-- The status, the result and the error of a command. -/
def commandOutcome (g : ConnectorGateway) (commandId : String) :
    Option (CommandStatus × Option String × Option (Dict String String)) :=
  (g.commands.get commandId).map fun command => (command.status, command.result, command.error)

/-- The status, the session and the task of a command's binding. -/
def bindingOutcome (g : ConnectorGateway) (commandId : String) :
    Option (BindingStatus × Option String × Option String) :=
  ((g.commands.get commandId).bind fun command => g.bindings.get command.bindingId).map
    fun binding => (binding.status, binding.lastSessionId, binding.lastTaskId)

end ConnectorGateway

end Arena402.Gateway
