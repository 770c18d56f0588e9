/-
Arena-owned ingress of terminal results.

A result passes here before it is hashed or stored.  The messages of proposals and
rejections go through the output policy; every other action is stored as it came.
-/
import Arena402.Core.Repository
import Arena402.Proofs.Core.PublicOutputPolicy

namespace Arena402

variable (T : TextTables)

/-- The text of a configuration entry; a strategy is text or missing. -/
def configText (config : Config) (key : String) : Option String :=
  match Value.get config key with
  | .str s => if s.isEmpty then none else some s
  | _ => none

/-- `config_snapshot.get("strategy_instructions") or ..get("strategyInstructions")`. -/
def strategyInstructions (config : Config) : Option String :=
  (configText config "strategy_instructions").or (configText config "strategyInstructions")

/-- `getattr(task.task.input, "role", None)`. -/
def roleOf : TaskInput → Option Role
  | .negotiate v => some v.role
  | _ => none

/-- What the policy decides about a message of a task. -/
def decisionFor (record : ArenaTaskRecord) (action : String) (price : Option PositiveFixedDecimal)
    (message : PublicMessage) : PublicOutputDecision :=
  sanitize T message.text action price (roleOf record.task.input)
    (strategyInstructions record.configSnapshot)

/-- The message of a decision, which is a public message again. -/
def decidedMessage (record : ArenaTaskRecord) (action : String)
    (price : Option PositiveFixedDecimal) (message : PublicMessage) : PublicMessage :=
  have h : IsPublicMessage (decisionFor T record action price message).message :=
    sanitize_isPublic _ _ _ _ _
  ⟨(decisionFor T record action price message).message, h.minLength, h.maxLength, h.visible⟩

/-- The action that is stored, with the decision when its message went through the policy. -/
def sanitizedAction (record : ArenaTaskRecord) : Action → Action × Option PublicOutputDecision
  | .propose price message =>
    (.propose price (decidedMessage T record "propose" (some price) message),
      some (decisionFor T record "propose" (some price) message))
  | .reject (some message) =>
    (.reject (some (decidedMessage T record "reject" none message)),
      some (decisionFor T record "reject" none message))
  | action => (action, none)

/-- The result that the repository receives, with the decision. -/
def sanitizedResult (record : ArenaTaskRecord) (r : AgentTaskResultV1) :
    AgentTaskResultV1 × Option PublicOutputDecision :=
  ({ r with
      action := r.action.map fun a => (sanitizedAction T record a).1
      shape := by rw [r.shape, Option.isSome_map] },
    r.action.bind fun a => (sanitizedAction T record a).2)

/-- `ArenaResultSink.submit`. -/
def ArenaCore.sinkSubmit (H : Hashes) (s : ArenaCore) (r : AgentTaskResultV1) (now : UtcDateTime) :
    Except (ArenaError × ArenaCore) (ArenaCore × ResultSubmissionReceipt) :=
  match validateRuntimeResultIdentifiers T r with
  | some code => .error (.ingress code, s)
  | none =>
    match s.tasks.get r.taskId with
    | none => .error (.taskNotFound, s)
    | some record =>
      let (sanitized, decision) := sanitizedResult T record r
      s.submitResult T H sanitized now ((decision.map (·.messageReplaced)).getD false)
        (decision.map fun _ => publicOutputPolicyVersion)

end Arena402
