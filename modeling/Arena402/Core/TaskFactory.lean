/-
Idempotent creation of Agent tasks from authoritative snapshots.

The view and the configuration are scanned before anything else.  A view whose deadline
has passed can only recover a task that already has the same snapshot.
-/
import Arena402.Core.Repository

namespace Arena402.ArenaCore

variable (T : TextTables) (H : Hashes)

/-- The negotiation that a task belongs to. -/
def negotiationIdOf : TaskInput → Option String
  | .negotiate v => some v.negotiationId
  | _ => none

/-- The task that the factory builds for a view. -/
def taskOf (taskId gameAgentId : String) (view : TaskInput) : ArenaAgentTaskV1 where
  taskId := taskId
  kind := view.kind
  gameId := view.gameId
  roundId := view.roundId
  gameAgentId := gameAgentId
  negotiationId := negotiationIdOf view
  deadlineAt := view.deadlineAt
  idempotencyKey := deriveIdempotencyKey H.text gameAgentId view
  inputHash := H.snapshot view.dump
  input := view

/-- `ArenaTaskFactory._create`. -/
def factoryCreate (s : ArenaCore) (taskId gameAgentId : String) (view : TaskInput)
    (config : Config) (now : UtcDateTime) : Except ArenaError (ArenaCore × ArenaTaskRecord) :=
  match secureConfigSnapshot T view.dump, secureConfigSnapshot T (.dict config) with
  | some code, _ => .error (.ingress code)
  | none, some code => .error (.ingress code)
  | none, none =>
    let task := taskOf H taskId gameAgentId view
    let configHash := H.snapshot (.dict config)
    if view.deadlineAt ≤ now then
      match s.getTaskByIdempotency gameAgentId task.idempotencyKey with
      | none => .error (.value "Arena task deadline must be in the future")
      | some existing =>
        if existing.task.kind ≠ task.kind || existing.task.inputHash ≠ task.inputHash ||
            existing.configHash ≠ configHash then
          .error (.idempotencyConflict
            "Elapsed Arena task recovery conflicts with its frozen snapshot")
        else .ok (s, existing)
    else if !task.wireValid H.text then .error (.value "ValidationError")
    else s.createTask T H task config configHash now

end Arena402.ArenaCore
