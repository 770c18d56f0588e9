/-
Bindings whose session has been stopped.

A stop that the Connector has carried out ends the session of its binding; a start or a
resume that was created after it begins the next one.  `Releases` is the acknowledgement
of such a command, and `Spares` rules out the two acknowledgements that end the stop
although they are of another command.
-/
import Arena402.Gateway.AckReplay

namespace Arena402.Gateway

open Py

namespace ConnectorGateway

/-- The command that an acknowledgement is taken for, and the status it gets. -/
def takes (g : ConnectorGateway) (deviceId : String) (payload : CommandAck)
    (expectedGeneration : Option Nat) : Option (Command × CommandStatus) :=
  match g.activeDevice deviceId expectedGeneration, g.commands.get payload.commandId,
      payload.status with
  | .ok _, some command, some status =>
      if command.deviceId = deviceId ∧
          payload.bindingEpoch.getD command.bindingEpoch = command.bindingEpoch ∧
          status ∈ ackStatuses ∧ status ∈ transitions command.status then
        some (command, status)
      else none
  | _, _, _ => none

/-- The command of a stopped binding that a step acknowledges, with the binding. -/
def acknowledges (stop : Command) (g : ConnectorGateway) (event : Choice × Update) :
    Option (Command × CommandStatus × CommandAck × Binding) :=
  match event.2 with
  | .acknowledgeCommand deviceId payload expectedGeneration =>
      (g.takes deviceId payload expectedGeneration).bind fun taken =>
        if taken.1.bindingId = stop.bindingId then
          (g.bindings.get stop.bindingId).map fun binding => (taken.1, taken.2, payload, binding)
        else none
  | _ => none

/-- The acknowledgement of a start or a resume that was created after the stop, in the current
    session generation. -/
def Releases (stop : Command) (g : ConnectorGateway) (event : Choice × Update) : Prop :=
  match acknowledges stop g event with
  | some (command, _, _, binding) =>
      command.action.isLifecycle ∧ stop.createdAt < command.createdAt ∧
        command.sessionGeneration = binding.sessionGeneration
  | none => False

/-- No start or resume from before the stop passes for a current one, and no other command
    fails for a lost session. -/
def Spares (stop : Command) (g : ConnectorGateway) (event : Choice × Update) : Prop :=
  match acknowledges stop g event with
  | some (command, status, payload, binding) =>
      if command.IsCurrent binding then stop.createdAt < command.createdAt
      else ¬SessionLost payload status
  | none => True

instance decidableReleases (stop : Command) (g : ConnectorGateway) (event : Choice × Update) :
    Decidable (Releases stop g event) := by
  unfold Releases
  cases acknowledges stop g event with
  | none => exact .isFalse id
  | some taken => exact inferInstanceAs (Decidable (_ ∧ _ ∧ _))

instance decidableSpares (stop : Command) (g : ConnectorGateway) (event : Choice × Update) :
    Decidable (Spares stop g event) := by
  unfold Spares
  cases acknowledges stop g event with
  | none => exact .isTrue trivial
  | some taken =>
      obtain ⟨command, status, payload, binding⟩ := taken
      exact inferInstanceAs (Decidable (if command.IsCurrent binding then
        stop.createdAt < command.createdAt else ¬SessionLost payload status))

end ConnectorGateway

end Arena402.Gateway
