/-
`apply_arena_agent_task_result`, the projection of a result inside the database.

It stands in three layers.  The function of the frozen `fcfs.v1` protocol takes decide and
negotiate tasks; the function of the agent market delegates to it and takes the market tasks;
and the outermost function turns an applied candidate into the default of its task when a
price of it has more decimal places than gold has.  Each reads the task's snapshot and the
candidate as `JSONB`.
-/
import Arena402.Contracts.Jsonb
import Arena402.Core.Repository

namespace Arena402

open Py Sql Jsonb

/-! ### Tables -/

/-- `arena_agent_tasks`, by task id. -/
structure TaskRow where
  gameId : String
  roundId : String
  gameAgentId : String
  taskKind : TaskKind
  inputSnapshot : Value

/-- `arena_agent_task_results`, by result id. -/
structure ResultRow where
  taskId : String
  runtimeStatus : ResultStatus
  candidateAction : Option Value
  resultHash : String
  resultReceivedAt : UtcDateTime
  applyStatus : ResultApplyStatus := .pending
  arenaAppliedAt : Option UtcDateTime := none
  errorClass : Option String := none

/-- `arena_applied_agent_actions`, by task id. -/
structure AppliedRow where
  resultId : String
  gameId : String
  roundId : String
  gameAgentId : String
  taskKind : TaskKind
  applicationOutcome : ApplicationOutcome
  appliedAction : Option Value
  authoritativeEnteredAt : UtcDateTime
  appliedAt : UtcDateTime

/-- `arena_agent_task_events`, those of type `result_applied`. -/
structure AppliedEventRow where
  taskId : String
  createdAt : UtcDateTime
  resultHash : String
  applicationOutcome : ApplicationOutcome
  reason : Option String

/-- The row `create_task` writes for a task. -/
def ArenaAgentTaskV1.row (t : ArenaAgentTaskV1) : TaskRow where
  gameId := t.gameId
  roundId := t.roundId
  gameAgentId := t.gameAgentId
  taskKind := t.kind
  inputSnapshot := t.input.dump

/-- The tables that a projection reads and writes. -/
structure ArenaDb where
  tasks : Dict String TaskRow := []
  results : Dict String ResultRow := []
  applied : Dict String AppliedRow := []
  events : List AppliedEventRow := []

/-! ### `fcfs.v1` -/

/-- `COALESCE((candidate_action ->> 'quantity')::BIGINT, 1)`. -/
def candidateQuantity (action : Option Value) : Except Error Int := do
  return (← toBigint (text action "quantity")).getD 1

/-- The action of the candidate is not among the allowed ones. -/
def actionNotAllowed (input : Option Value) (actionName : Option String) : Truth :=
  let allowedActions := path input [some "limits", some "allowedActions"]
  (equals (typeOf allowedActions) (some "array")).and (containsText allowedActions actionName).not

/-- The candidate has no good, or one that is not among the allowed ones. -/
def goodNotAllowed (input : Option Value) (good : Option String) : Except Error Truth :=
  let allowedGoods := path input [some "limits", some "allowedGoods"]
  (isNull good).orElse
    ((equals (typeOf allowedGoods) (some "array")).andThen do
      let length ← Jsonb.length allowedGoods
      return (less (some 0) length).and (containsText allowedGoods good).not)

/-- `COALESCE((input_snapshot #>> ARRAY['holdings', good])::BIGINT, 0) < quantity`. -/
def holdingsBelow (input : Option Value) (good : Option String) (quantity : Int) :
    Except Error Truth := do
  let held ← toBigint (pathText input [some "holdings", good])
  return less (some (held.getD 0)) (some quantity)

/-- `price * quantity > (input_snapshot ->> 'cash')::NUMERIC`. -/
def costsMore (input : Option Value) (price : Option Numeric) (quantity : Int) :
    Except Error Truth := do
  let cash ← toNumeric (text input "cash")
  return exceeds (price.map fun p => p.mul (.ofInt quantity)) cash

/-- The branch of `arena.decide`. -/
def decideReason (input action : Option Value) (quantity : Int) : Except Error (Option String) :=
  let actionName := text action "action"
  let good := text action "good"
  firstBranch
    [(.ok (notIn actionName ["buy", "sell", "pass"]), "action_kind_mismatch"),
      (.ok (actionNotAllowed input actionName), "action_not_allowed"),
      ((differs actionName (some "pass")).andThen (goodNotAllowed input good), "good_not_allowed"),
      ((equals actionName (some "sell")).andThen (holdingsBelow input good quantity),
        "insufficient_inventory"),
      ((equals actionName (some "buy")).andThen ((isNull (text action "limitPrice")).not.andThen do
          costsMore input (← toNumeric (text action "limitPrice")) quantity),
        "insufficient_cash")]

/-- A price outside the private limit of a role. -/
def pastLimit (role : Option String) (price limit : Option Numeric) : Truth :=
  ((equals role (some "buyer")).and (exceeds price limit)).or
    ((equals role (some "seller")).and (exceeds limit price))

/-- The branch of `arena.negotiate`. -/
def negotiateReason (input action : Option Value) : Except Error (Option String) := do
  let actionName := text action "action"
  let limitPrice ← toNumeric (text input "limitPrice")
  let actionPrice ← toNumeric (text action "price")
  let quotePrice ← toNumeric (pathText input [some "latestCounterpartyQuote", some "price"])
  let role := text input "role"
  let remainingTurns ← toInteger (text input "remainingTurns")
  firstBranch
    [(.ok (notIn actionName ["propose", "accept", "reject"]), "action_kind_mismatch"),
      (do
          let turnSequence ← toInteger (text input "turnSequence")
          return (equals turnSequence (some 1)).and (differs actionName (some "propose")),
        "buyer_opening_proposal_required"),
      (.ok ((equals actionName (some "accept")).and (isNull quotePrice)),
        "counterparty_proposal_required"),
      (.ok ((less (some 1) remainingTurns).not.and (equals actionName (some "propose"))),
        "final_turn_must_close"),
      (.ok ((isNull limitPrice).not.and
          (((equals actionName (some "propose")).and (pastLimit role actionPrice limitPrice)).or
            ((equals actionName (some "accept")).and
              ((isNull quotePrice).not.and (pastLimit role quotePrice limitPrice))))),
        "limit_price_violation")]

/-- Why `apply_arena_agent_task_result_fcfs_v1` turns a candidate down. -/
def fcfsReason (task : TaskRow) (result : ResultRow) : Except Error (Option String) := do
  let input := some task.inputSnapshot
  let quantity ← candidateQuantity result.candidateAction
  if result.runtimeStatus ≠ .succeeded then
    return some ("runtime_" ++ result.runtimeStatus.wire)
  match task.taskKind with
  | .decide => decideReason input result.candidateAction quantity
  | .negotiate => negotiateReason input result.candidateAction
  | _ => return some "action_kind_mismatch"

/-- `{"action":"pass"}`. -/
def passJson : Value :=
  .obj [("action", .str "pass")]

namespace ArenaDb

/-- What both projections write once they have the outcome: the applied action, the status of
    the result and the event. -/
def writeApplication (db : ArenaDb) (resultId : String) (result : ResultRow) (task : TaskRow)
    (outcome : ApplicationOutcome) (action : Option Value) (reason : Option String)
    (now : UtcDateTime) : Except Error ArenaDb :=
  if (db.applied.get result.taskId).isSome || db.applied.any (fun e => e.2.resultId = resultId) then
    .error .uniqueViolation
  else
    .ok { db with
      applied := db.applied.set result.taskId {
        resultId := resultId
        gameId := task.gameId
        roundId := task.roundId
        gameAgentId := task.gameAgentId
        taskKind := task.taskKind
        applicationOutcome := outcome
        appliedAction := action
        authoritativeEnteredAt := if outcome = .candidate then result.resultReceivedAt else now
        appliedAt := now }
      results := db.results.set resultId { result with
        applyStatus := .applied
        arenaAppliedAt := some now
        errorClass := result.errorClass <|> reason }
      events := db.events ++ [⟨result.taskId, now, result.resultHash, outcome, reason⟩] }

/-- `apply_arena_agent_task_result_fcfs_v1`. -/
def applyFcfsV1 (db : ArenaDb) (resultId : String) (now : UtcDateTime) :
    Except Error (ArenaDb × Bool) :=
  match db.results.get resultId with
  | none => .ok (db, false)
  | some result =>
    if result.applyStatus ≠ .pending then .ok (db, false)
    else
      match db.tasks.get result.taskId with
      | none => .error .noDataFound
      | some task => do
        let reason ← fcfsReason task result
        let db ← match reason with
          | none =>
            db.writeApplication resultId result task .candidate result.candidateAction none now
          | some reason =>
            if task.taskKind = .decide then
              db.writeApplication resultId result task .defaultPass (some passJson) (some reason) now
            else
              db.writeApplication resultId result task .negotiationTimeout none (some reason) now
        return (db, true)

end ArenaDb

/-! ### The agent market -/

/-- The branch of `arena.market.intent`. -/
def marketIntentReason (input action : Option Value) (quantity : Int) :
    Except Error (Option String) := do
  let actionName := text action "action"
  let good := text action "good"
  let reason ← firstBranch
    [(.ok ((isNull actionName).or (notIn actionName ["buy", "sell", "pass"])),
        "action_kind_mismatch"),
      (.ok (actionNotAllowed input actionName), "action_not_allowed"),
      ((differs actionName (some "pass")).andThen (goodNotAllowed input good), "good_not_allowed"),
      (.ok ((differs actionName (some "pass")).and
          ((isNull (text action "publicPrice")).or (isNull (text action "limitPrice")))),
        "market_price_required")]
  if reason.isSome || differs actionName (some "pass") ≠ some true then return reason
  let publicPrice ← toNumeric (text action "publicPrice")
  let limitPrice ← toNumeric (text action "limitPrice")
  firstBranch
    [(.ok (((equals actionName (some "buy")).and (exceeds publicPrice limitPrice)).or
          ((equals actionName (some "sell")).and (exceeds limitPrice publicPrice))),
        "market_price_boundary_violation"),
      ((equals actionName (some "buy")).andThen (costsMore input limitPrice quantity),
        "insufficient_cash"),
      ((equals actionName (some "sell")).andThen (holdingsBelow input good quantity),
        "insufficient_inventory")]

/-- `EXISTS (SELECT 1 FROM jsonb_array_elements(j) AS entry WHERE entry ->> key = value)`. -/
def anyField (j : Option Value) (key : String) (value : Option String) : Except Error Bool := do
  return (← elements j).any fun entry => equals (text (some entry) key) value = some true

/-- The branch of `arena.market.rfq`. -/
def marketRfqReason (input action : Option Value) : Except Error (Option String) := do
  let actionName := text action "action"
  let requests := field action (some "requests")
  let limitPrice ← toNumeric (text input "limitPrice")
  let maxOutboundRfq ← toInteger (text input "maxOutboundRfq")
  let asks := equals actionName (some "request_negotiations")
  firstBranch
    [(.ok ((isNull actionName).or (notIn actionName ["request_negotiations", "pass"])),
        "action_kind_mismatch"),
      (asks.andThen ((differs (typeOf requests) (some "array")).orElse do
          let length ← Jsonb.length requests
          return (less length (some 1)).or (less maxOutboundRfq length)),
        "rfq_budget_exceeded"),
      (asks.andThen do
          return some (← (← elements requests).anyM fun request => do
            return !(← anyField (field input (some "directory")) "intentId"
              (text (some request) "targetIntentId"))),
        "rfq_target_not_visible"),
      (asks.andThen do
          return some (← (← elements requests).anyM fun request => do
            return exceeds (← toNumeric (text (some request) "openingPrice")) limitPrice =
              some true),
        "limit_price_violation")]

/-- The branch of `arena.market.select`. -/
def marketSelectReason (input action : Option Value) : Except Error (Option String) :=
  let actionName := text action "action"
  let engages := equals actionName (some "engage")
  firstBranch
    [(.ok ((isNull actionName).or (notIn actionName ["engage", "reject_all"])),
        "action_kind_mismatch"),
      (engages.andThen do
          return some !(← anyField (field input (some "requests")) "requestId"
            (text action "requestId")),
        "request_not_visible"),
      (engages.andThen do
          return less (← toBigint (text input "inventoryAvailable"))
            (← toBigint (text input "quantity")),
        "insufficient_inventory")]

/-- Whether the agent market leaves the task to `fcfs.v1`. -/
def delegatesToFcfs (task : TaskRow) (result : ResultRow) : Bool :=
  task.taskKind = .negotiate ||
    (task.taskKind = .decide && !((hasKey result.candidateAction "publicPrice").getD false ||
      (hasKey result.candidateAction "message").getD false))

/-- Why the agent market turns a candidate down. -/
def marketReason (task : TaskRow) (result : ResultRow) : Except Error (Option String) := do
  let input := some task.inputSnapshot
  let quantity ← candidateQuantity result.candidateAction
  if task.taskKind = .decide then return some "public_price_not_allowed"
  if result.runtimeStatus ≠ .succeeded then
    return some ("runtime_" ++ result.runtimeStatus.wire)
  match task.taskKind with
  | .marketIntent => marketIntentReason input result.candidateAction quantity
  | .marketRfq => marketRfqReason input result.candidateAction
  | .marketSelect => marketSelectReason input result.candidateAction
  | _ => return some "action_kind_mismatch"

namespace ArenaDb

/-- `apply_arena_agent_task_result_pre_precision_v1`, the function of the agent market. -/
def applyPrePrecisionV1 (db : ArenaDb) (resultId : String) (now : UtcDateTime) :
    Except Error (ArenaDb × Bool) :=
  match db.results.get resultId with
  | none => .ok (db, false)
  | some result =>
    if result.applyStatus ≠ .pending then .ok (db, false)
    else
      match db.tasks.get result.taskId with
      | none => .error .noDataFound
      | some task =>
        if delegatesToFcfs task result then db.applyFcfsV1 resultId now
        else do
          let reason ← marketReason task result
          let db ← match reason with
            | none =>
              db.writeApplication resultId result task .candidate result.candidateAction none now
            | some reason =>
              if task.taskKind = .decide ∨ task.taskKind = .marketIntent then
                db.writeApplication resultId result task .defaultPass (some passJson) (some reason)
                  now
              else
                db.writeApplication resultId result task .marketTimeout none (some reason) now
          return (db, true)

end ArenaDb

/-! ### The precision of prices -/

/-- `arena_money_value_has_atomic_precision`: a text that is no number has none. -/
def moneyValueHasAtomicPrecision (value : Option String) : Truth :=
  value.map fun _ =>
    match toNumeric value with
    | .ok (some n) =>
      let atomic := n.mul (.ofInt 1000000)
      atomic.eq atomic.trunc
    | _ => false

/-- A price that is missing, or has the precision of gold. -/
def pricePrecise (action : Option Value) (key : String) : Truth :=
  (isNull (text action key)).or (moneyValueHasAtomicPrecision (text action key))

/-- `arena_action_price_precision_valid`. -/
def actionPricePrecisionValid (kind : TaskKind) (action : Option Value) : Except Error Truth :=
  if action.isNone then .ok (some true)
  else
    let actionName := text action "action"
    let ordered := actionName = some "buy" ∨ actionName = some "sell"
    if kind = .decide ∧ ordered then .ok (pricePrecise action "limitPrice")
    else if kind = .marketIntent ∧ ordered then
      .ok ((pricePrecise action "publicPrice").and (pricePrecise action "limitPrice"))
    else if kind = .marketRfq ∧ actionName = some "request_negotiations" then do
      let requests ← elements (some ((field action (some "requests")).getD (.list [])))
      return some !(requests.any fun request =>
        (isNull (text (some request) "openingPrice")).not.and
          (moneyValueHasAtomicPrecision (text (some request) "openingPrice")).not = some true)
    else if kind = .negotiate ∧ actionName = some "propose" then .ok (pricePrecise action "price")
    else .ok (some true)

/-- The default of a task whose candidate was too precise. -/
def repairedApplication : TaskKind → ApplicationOutcome × Option Value
  | .decide | .marketIntent => (.defaultPass, some passJson)
  | .marketRfq | .marketSelect => (.marketTimeout, none)
  | .negotiate => (.negotiationTimeout, none)

namespace ArenaDb

/-- The candidate that was applied becomes the default of its task, in all three tables. -/
def repairPrecision (db : ArenaDb) (resultId taskId : String) (row : AppliedRow) : ArenaDb :=
  let (outcome, action) := repairedApplication row.taskKind
  let reason := "price_precision_exceeded"
  let resultHash := (db.results.get resultId).map (·.resultHash)
  { db with
    applied := db.applied.set taskId { row with
      applicationOutcome := outcome
      appliedAction := action
      authoritativeEnteredAt := row.appliedAt }
    results := db.results.update (fun id _ => id = resultId) fun result =>
      { result with errorClass := result.errorClass <|> some reason }
    events := db.events.map fun e =>
      if e.taskId = taskId ∧ some e.resultHash = resultHash then
        { e with applicationOutcome := outcome, reason := some reason }
      else e }

/-- `apply_arena_agent_task_result`. -/
def applyArenaAgentTaskResult (db : ArenaDb) (resultId : String) (now : UtcDateTime) :
    Except Error (ArenaDb × Bool) := do
  let (db, applied) ← db.applyPrePrecisionV1 resultId now
  if !applied then return (db, false)
  match db.applied.find? fun e => e.2.resultId = resultId with
  | none => .error .noDataFound
  | some (taskId, row) =>
    let valid ← (if row.applicationOutcome ≠ .candidate then .ok (some true)
      else actionPricePrecisionValid row.taskKind row.appliedAction)
    if valid = some true then return (db, true)
    return (db.repairPrecision resultId taskId row, true)

end ArenaDb

end Arena402
