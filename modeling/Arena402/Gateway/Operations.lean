/-
Runs of the gateway without a database.

A method of `ConnectorGateway` does its work in blocks under `_lock`, and between two of
them others can run.  A step is one such block, with the clock and the random texts it
finds; a block that raises leaves the memory as it is, except for a pairing it has marked.
-/
import Arena402.Gateway.PersistentService

namespace Arena402.Gateway

open Py

/-- The blocks of `ConnectorGateway` itself; the others belong to the persistent gateway. -/
def Update.inMemory : Update → Bool
  | .createPairing _ => true
  | .approvePairing _ _ => true
  | .exchangePairing _ => true
  | .connect _ _ => true
  | .disconnect _ _ => true
  | .markTransportReady _ _ => true
  | .applyHello _ _ _ => true
  | .heartbeat _ _ _ => true
  | .updateInventory _ _ _ => true
  | .observeInboundSequence _ _ _ => true
  | .acknowledgeCommand _ _ _ => true
  | .submitAgentTaskResult _ _ _ => true
  | .appendRuntimeEvent _ _ _ => true
  | .revokeDevice _ _ => true
  | .createBinding _ _ _ => true
  | .queueCommand _ => true
  | .markDurable _ => true
  | .startDelivery _ => true
  | .reserveCommandSequence _ _ _ _ => true
  | .markDelivered _ _ _ _ => true
  | .reserveNotificationSequence _ _ _ => true
  | _ => false

namespace ConnectorGateway

/-- One block of the gateway. -/
def step (g : ConnectorGateway) (event : Choice × Update) : Option ConnectorGateway :=
  if event.2.inMemory then
    match event.2.apply g event.1 with
    | .ok (_, g') => some g'
    | .error _ => some g
  else none

/-- A gateway as its constructor leaves it. -/
structure IsNew (g : ConnectorGateway) : Prop where
  devices : g.devices = []
  bindings : g.bindings = []
  commands : g.commands = []
  results : g.agentTaskResults = []

/-- The ids a block draws are new. -/
def FreshIds (g : ConnectorGateway) (event : Choice × Update) : Prop :=
  match event.2 with
  | .exchangePairing _ => g.devices.get (event.1.draw 0) = none
  | .createBinding _ _ _ => g.bindings.get (event.1.draw 0) = none
  | .queueCommand _ =>
      g.commands.get (event.1.draw 0) = none ∧
        ∀ item ∈ g.commands, item.2.idempotencyKey ≠ event.1.draw 0
  | _ => True

instance decidableFreshIds (g : ConnectorGateway) (event : Choice × Update) :
    Decidable (FreshIds g event) := by
  obtain ⟨c, u⟩ := event
  cases u with
  | exchangePairing => exact inferInstanceAs (Decidable (g.devices.get (c.draw 0) = none))
  | createBinding => exact inferInstanceAs (Decidable (g.bindings.get (c.draw 0) = none))
  | queueCommand =>
      exact inferInstanceAs (Decidable (g.commands.get (c.draw 0) = none ∧
        ∀ item ∈ g.commands, item.2.idempotencyKey ≠ c.draw 0))
  | _ => exact .isTrue trivial

end ConnectorGateway

/-- A status that no acknowledgement and no delivery leads out of. -/
def CommandStatus.isTerminal : CommandStatus → Bool
  | .succeeded => true
  | .failed => true
  | .rejected => true
  | .expired => true
  | _ => false

end Arena402.Gateway
