/-
The MCP task broker: an execution binding claims its tasks, releases them, and lists them in pages.

A claim takes or renews the lease of the task first and looks for the managed session afterwards.
Without a session it gives the task back.  The lists go from one page to the next with a cursor,
which is the last task id of a page in URL-safe base64.
-/
import Arena402.Core.Repository
import Arena402.Lib.Base64

namespace Arena402.Mcp

open Py

/-! ### Tables -/

/-- `status`, `leased_by` and `lease_expires_at` of a task, as the check of the table ties them. -/
inductive TaskLease
  | queued
  | leased (owner : String) (expiresAt : UtcDateTime)
  | running (owner : String) (expiresAt : UtcDateTime)
  | completed
  | defaulted
  | cancelled
  deriving DecidableEq

namespace TaskLease

/-- The status of a task with this lease. -/
def status : TaskLease → TaskStatus
  | queued => .queued
  | leased _ _ => .leased
  | running _ _ => .running
  | completed => .completed
  | defaulted => .defaulted
  | cancelled => .cancelled

/-- The worker of the lease. -/
def leasedBy : TaskLease → Option String
  | leased owner _ => some owner
  | running owner _ => some owner
  | _ => none

/-- When the lease expires. -/
def leaseExpiresAt : TaskLease → Option UtcDateTime
  | leased _ expiresAt => some expiresAt
  | running _ expiresAt => some expiresAt
  | _ => none

end TaskLease

/-- A row of `arena_agent_tasks`. -/
structure TaskRow where
  task : ArenaAgentTaskV1
  runtimeBindingId : String
  lease : TaskLease

/-- `runtime_kind` of a binding, with what its check asks of a Connector binding. -/
inductive BindingKind
  | hosted
  | connector (bindingId : String) (bindingEpoch : Nat)
  | nativeA2a

/-- The task goes to a Connector. -/
def BindingKind.isConnector : BindingKind → Bool
  | .connector _ _ => true
  | _ => false

/-- Where a route is. -/
inductive RouteStatus
  | provisioning
  | ready
  | degraded
  | disabled
  deriving DecidableEq

/-- A row of `arena_runtime_bindings`. -/
structure RuntimeBinding where
  kind : BindingKind
  routeStatus : RouteStatus
  disabledAt : Option UtcDateTime

/-- The tables of the broker. -/
structure Tables where
  tasks : Dict String TaskRow
  bindings : Dict String RuntimeBinding

/-- A task for a Connector, with its route. -/
structure ConnectorTaskRoute where
  task : ArenaAgentTaskV1
  connectorBindingId : String
  connectorBindingEpoch : Nat
  lease : TaskLease

/-- The readings of `clock_timestamp()` in one claim, in the order in which they are made where it
    matters: for the deadline, for the old lease, for the choice to keep it, for the new lease, and
    at last for the deadline in the release. -/
structure Readings where
  deadline : UtcDateTime
  expiry : UtcDateTime
  kept : UtcDateTime
  granted : UtcDateTime
  released : UtcDateTime
  ordered : kept ≤ granted

/-! ### Errors -/

/-- What the broker raises. -/
inductive McpError
  | broker (code message : String)
  | value (message : String)
  | gateway (message : String)
  deriving DecidableEq

/-! ### Repository -/

namespace Tables

variable (tables : Tables)

/-- The Connector route of a task: the join with its Runtime binding. -/
def routeOf (row : TaskRow) (bindingId : String) (bindingEpoch : Nat) : Bool :=
  match tables.bindings.get row.runtimeBindingId with
  | some binding =>
    match binding.kind with
    | .connector id epoch => id = bindingId && epoch = bindingEpoch
    | _ => false
  | none => false

/-- The Runtime binding of a task is a Connector that is ready and not disabled. -/
def routeReady (row : TaskRow) : Bool :=
  match tables.bindings.get row.runtimeBindingId with
  | some binding =>
    binding.kind.isConnector && binding.routeStatus = .ready && binding.disabledAt.isNone
  | none => false

/-- The lease of a task replaced. -/
def setLease (taskId : String) (row : TaskRow) (lease : TaskLease) : Tables :=
  { tables with tasks := tables.tasks.set taskId { row with lease } }

/-- The checks of the ids, which all operations share. -/
def checkTaskId (taskId : String) : Except McpError Unit :=
  if taskId = "" ∨ taskId.length > 256 then .error (.value "Connector task_id is invalid") else .ok ()

/-- The checks of a binding. -/
def checkBinding (bindingId : String) (bindingEpoch : Nat) : Except McpError Unit :=
  if bindingId = "" ∨ bindingId.length > 256 then .error (.value "Connector binding_id is invalid")
  else if bindingEpoch < 1 then .error (.value "Connector binding_epoch must be positive")
  else .ok ()

/-- The check of a worker. -/
def checkWorker (workerId : String) : Except McpError Unit :=
  if workerId = "" ∨ workerId.length > 200 then .error (.value "Connector task worker_id is invalid")
  else .ok ()

/-- Whether a lease is up for a worker. -/
def claimable (workerId : String) (now : UtcDateTime) : TaskLease → Bool
  | .queued => true
  | .leased owner expiresAt => owner = workerId || expiresAt ≤ now
  | _ => false

/-- The lease after a claim: a live lease of the worker keeps its end. -/
def leaseFor (workerId : String) (leaseSeconds : Nat) (now : Readings) : TaskLease → TaskLease
  | .leased owner expiresAt =>
    if owner = workerId ∧ expiresAt > now.kept then .leased workerId expiresAt
    else .leased workerId (now.granted + leaseSeconds * 1000000)
  | _ => .leased workerId (now.granted + leaseSeconds * 1000000)

/-- The candidate of a claim. -/
def candidate (taskId bindingId : String) (bindingEpoch : Nat) (workerId : String) (now : Readings) :
    Option TaskRow :=
  (tables.tasks.get taskId).filter fun row =>
    row.task.deadlineAt > now.deadline && tables.routeReady row &&
      tables.routeOf row bindingId bindingEpoch && claimable workerId now.expiry row.lease

/-- `claim_connector_task` -/
def claimConnectorTask (taskId bindingId : String) (bindingEpoch : Nat) (workerId : String)
    (leaseSeconds : Nat) (now : Readings) : Except McpError (Tables × Option ConnectorTaskRoute) := do
  checkTaskId taskId
  checkBinding bindingId bindingEpoch
  checkWorker workerId
  if leaseSeconds < 1 ∨ leaseSeconds > 600 then
    .error (.value "Connector task lease must be between 1 and 600 seconds")
  match tables.candidate taskId bindingId bindingEpoch workerId now with
  | none => .ok (tables, none)
  | some row =>
    let lease := leaseFor workerId leaseSeconds now row.lease
    .ok (tables.setLease taskId row lease, some
      { task := row.task, connectorBindingId := bindingId, connectorBindingEpoch := bindingEpoch, lease })

/-- `get_connector_task_route` -/
def getConnectorTaskRoute (taskId bindingId : String) (bindingEpoch : Nat) :
    Except McpError (Option ConnectorTaskRoute) := do
  checkTaskId taskId
  .ok (((tables.tasks.get taskId).filter fun row =>
      tables.routeOf row bindingId bindingEpoch).map fun row =>
    { task := row.task, connectorBindingId := bindingId, connectorBindingEpoch := bindingEpoch,
      lease := row.lease })

/-- `release_connector_task` -/
def releaseConnectorTask (taskId workerId : String) (now : UtcDateTime) :
    Except McpError (Tables × Bool) := do
  checkTaskId taskId
  checkWorker workerId
  match tables.tasks.get taskId with
  | some row =>
    match row.lease with
    | .leased owner _ =>
      if owner = workerId ∧ row.task.deadlineAt > now then
        .ok (tables.setLease taskId row .queued, true)
      else .ok (tables, false)
    | _ => .ok (tables, false)
  | none => .ok (tables, false)

/-- Whether `claim_connector_tasks` may give the task to any worker. -/
def dispatchable (taskId : String) (now : UtcDateTime) : Bool :=
  (tables.tasks.get taskId).any fun row =>
    row.task.deadlineAt > now && tables.routeReady row &&
      match row.lease with
      | .queued => true
      | .leased _ expiresAt => expiresAt ≤ now
      | _ => false

end Tables

/-! ### Broker -/

/-- `ArenaTaskBroker`; the checks of its constructor are fields. -/
structure ArenaTaskBroker where
  leaseSeconds : Nat := 600
  atLeast : 1 ≤ leaseSeconds := by decide
  atMost : leaseSeconds ≤ 600 := by decide

/-- `ExecutionTokenClaims`; its checks are fields. -/
structure ExecutionTokenClaims where
  deviceId : String
  bindingId : String
  bindingEpoch : Nat
  scopes : List String
  bindingIdGiven : bindingId ≠ ""
  bindingIdLength : bindingId.length ≤ 256
  epochPositive : 0 < bindingEpoch

/-- `worker_id`; `sha256` is the hexadecimal digest of a text. -/
def ExecutionTokenClaims.workerId (sha256 : String → String) (principal : ExecutionTokenClaims) :
    String :=
  let digest := sha256 (principal.deviceId ++ "\x1f" ++ principal.bindingId ++ "\x1f" ++
    toString principal.bindingEpoch)
  "mcp-" ++ String.ofList (digest.toList.take 32)

/-- A binding as `list_bindings` of the Gateway returns it. -/
structure GatewayBinding where
  bindingId : String
  bindingEpoch : Nat := 0
  agentId : String
  runtimeId : String
  lastSessionId : Option String

/-- What a claim returns. -/
structure Claimed where
  leaseId : String
  task : ArenaAgentTaskV1
  bindingId : String
  bindingEpoch : Nat
  agentId : String
  runtimeId : String
  sessionId : String

/-- `_require` -/
def requireScope (principal : ExecutionTokenClaims) (scope : String) : Except McpError Unit :=
  if scope ∈ principal.scopes then .ok ()
  else .error (.broker "insufficient_scope" "Execution token does not authorize this tool")

/-- `_binding`, of what the Gateway lists for the device. -/
def bindingFor (principal : ExecutionTokenClaims)
    (listed : Except McpError (List GatewayBinding)) : Except McpError GatewayBinding := do
  match (← listed).find? fun item => item.bindingId = principal.bindingId with
  | none => .error (.broker "binding_not_found" "Execution binding is no longer available")
  | some binding =>
    if binding.bindingEpoch ≠ principal.bindingEpoch then
      .error (.broker "stale_binding_epoch" "Execution token uses a stale binding epoch")
    else .ok binding

/-- `str(binding.get("last_session_id") or "").strip()` -/
def GatewayBinding.sessionId (binding : GatewayBinding) : String :=
  String.ofList (strip (binding.lastSessionId.getD "").toList)

/-- `claim`: the tables after the call, with what it returns or raises. -/
def claim (sha256 : String → String) (broker : ArenaTaskBroker) (tables : Tables)
    (principal : ExecutionTokenClaims) (listed : Except McpError (List GatewayBinding))
    (taskId : String) (now : Readings) : Tables × Except McpError Claimed :=
  let workerId := principal.workerId sha256
  match requireScope principal "task:claim", bindingFor principal listed with
  | .error e, _ => (tables, .error e)
  | .ok (), .error e => (tables, .error e)
  | .ok (), .ok binding =>
    match tables.claimConnectorTask taskId principal.bindingId principal.bindingEpoch workerId
        broker.leaseSeconds now with
    | .error e => (tables, .error e)
    | .ok (tables, none) =>
      match tables.getConnectorTaskRoute taskId principal.bindingId principal.bindingEpoch with
      | .error e => (tables, .error e)
      | .ok none => (tables, .error (.broker "task_not_found"
          "Task is not assigned to this execution binding"))
      | .ok (some existing) =>
        if existing.lease.status.terminal then
          (tables, .error (.broker "task_terminal"
            "Task is already terminal; inspect its status instead"))
        else
          (tables, .error (.broker "task_unavailable"
            "Task is not currently claimable; retry after the active lease expires"))
    | .ok (tables, some route) =>
      if binding.sessionId = "" then
        match tables.releaseConnectorTask taskId workerId now.released with
        | .error e => (tables, .error e)
        | .ok (tables, _) =>
          (tables, .error (.broker "managed_session_unavailable"
            "The Connector-owned runtime session is not ready yet"))
      else
        (tables, .ok
          { leaseId := workerId
            task := route.task
            bindingId := principal.bindingId
            bindingEpoch := principal.bindingEpoch
            agentId := binding.agentId
            runtimeId := binding.runtimeId
            sessionId := binding.sessionId })

/-! ### Pages of open tasks -/

/-- `_encode_cursor` -/
def encodeCursor (taskId : String) : String :=
  let encoded := (Base64.encode taskId.toByteArray.data.toList).map Base64.toUrlSafe
  String.ofList (Base64.unpad encoded)

/-- `_decode_cursor`; `isalnum` is `str.isalnum` of one character. -/
def decodeCursor (isalnum : Char → Bool) (cursor : String) : Except McpError String :=
  let invalid : McpError := .broker "invalid_cursor" "Task cursor is invalid"
  let cs := cursor.toList
  if cs = [] ∨ cs.length > 512 ∨ cs.any isSpace = true then .error invalid
  else
    match Base64.decodeStrict ((cs ++ Base64.padding cs).map Base64.ofUrlSafe) with
    | none => .error invalid
    | some bytes =>
      match String.fromUTF8? ⟨bytes.toArray⟩ with
      | none => .error invalid
      | some taskId =>
        match taskId.toList with
        | [] => .error invalid
        | first :: rest =>
          if (first :: rest).length > 256 ∨ isalnum first = false ∨
              (first :: rest).any (fun c => !(isalnum c || "._:-".toList.contains c)) = true then
            .error invalid
          else .ok taskId

/-- The tasks that `list_connector_task_routes` chooses from. -/
def Tables.openTasks (tables : Tables) (bindingId : String) (bindingEpoch : Nat)
    (now : UtcDateTime) : List TaskRow :=
  tables.tasks.values.filter fun row =>
    tables.routeReady row && tables.routeOf row bindingId bindingEpoch && row.task.deadlineAt > now &&
      (row.lease.status = .queued || row.lease.status = .leased)

/-- `list_connector_task_routes`; `le` is the order of texts in the database. -/
def Tables.listConnectorTaskRoutes (le : String → String → Bool) (tables : Tables)
    (bindingId : String) (bindingEpoch : Nat) (afterTaskId : Option String) (limit : Nat)
    (now : UtcDateTime) : Except McpError (List TaskRow) := do
  checkBinding bindingId bindingEpoch
  if afterTaskId.any fun id => id = "" || id.length > 256 then
    .error (.value "Connector task cursor is invalid")
  if limit < 1 ∨ limit > 51 then
    .error (.value "Connector task list limit must be between 1 and 51")
  let rows := (tables.openTasks bindingId bindingEpoch now).filter fun row =>
    afterTaskId.all fun id => !le row.task.taskId id
  .ok ((rows.mergeSort fun a b => le a.task.taskId b.task.taskId).take limit)

/-- An entry of a page. -/
structure TaskEntry where
  taskId : String
  bindingId : String
  bindingEpoch : Nat
  deadlineAt : UtcDateTime
  status : TaskStatus

/-- What a list shows of a task. -/
def entryOf (principal : ExecutionTokenClaims) (row : TaskRow) : TaskEntry where
  taskId := row.task.taskId
  bindingId := principal.bindingId
  bindingEpoch := principal.bindingEpoch
  deadlineAt := row.task.deadlineAt
  status := row.lease.status

/-- What `sync` returns. -/
structure Page where
  tasks : List TaskEntry
  hasMore : Bool
  nextCursor : Option String

/-- `_decode_cursor(cursor) if cursor else None` -/
def afterTaskId (isalnum : Char → Bool) (cursor : Option String) : Except McpError (Option String) :=
  match cursor.filter fun text => text ≠ "" with
  | some text => (decodeCursor isalnum text).map some
  | none => .ok none

/-- `sync` -/
def sync (le : String → String → Bool) (isalnum : Char → Bool) (tables : Tables)
    (principal : ExecutionTokenClaims) (listed : Except McpError (List GatewayBinding))
    (cursor : Option String) (limit : Nat) (now : UtcDateTime) : Except McpError Page := do
  requireScope principal "task:read"
  let _ ← bindingFor principal listed
  let after ← afterTaskId isalnum cursor
  let routes ← tables.listConnectorTaskRoutes le principal.bindingId principal.bindingEpoch after
    (limit + 1) now
  let hasMore := routes.length > limit
  let selected := routes.take limit
  .ok
    { tasks := selected.map (entryOf principal)
      hasMore
      nextCursor := if hasMore then selected.getLast?.map fun row => encodeCursor row.task.taskId
        else none }

/-- The pages that a client reads who follows `nextCursor` until it is null, in at most `fuel`
    calls; `page n` is what the call number `n` returns. -/
def follow (page : Nat → Option String → Except McpError Page) :
    Nat → Nat → Option String → Option (Except McpError (List Page))
  | 0, _, _ => none
  | fuel + 1, call, cursor =>
    match page call cursor with
    | .error e => some (.error e)
    | .ok read =>
      match read.nextCursor with
      | none => some (.ok [read])
      | some next => (follow page fuel (call + 1) (some next)).map fun later => later.map (read :: ·)

end Arena402.Mcp
