/-
The Arena Core repository: tasks, terminal results and applied actions.

Every operation is one locked transaction on the tables.  A task accepts one terminal
result, which its deadline or the Runtime supplies, and one action is applied for it.

Leases are left out: no operation here reads them.
-/
import Arena402.Lib.Dict
import Arena402.Core.ApplicationPolicy
import Arena402.Core.IngressSecurity

namespace Arena402

open Py

/-- Where a task is. -/
inductive TaskStatus
  | queued
  | leased
  | running
  | completed
  | defaulted
  | cancelled
deriving DecidableEq, Repr

/-- The task has its result. -/
def TaskStatus.terminal : TaskStatus → Bool
  | .completed | .defaulted | .cancelled => true
  | _ => false

/-- Whether a result was applied. -/
inductive ResultApplyStatus
  | pending
  | applied
  | rejected
deriving DecidableEq, Repr

/-- What became of a submission. -/
inductive SubmissionDisposition
  | accepted
  | duplicate
  | late
deriving DecidableEq, Repr

/-- A frozen configuration, a mapping. -/
abbrev Config := List (Key × Value)

/-- A task with its binding and deadline. -/
structure ArenaTaskRecord where
  task : ArenaAgentTaskV1
  configSnapshot : Config
  configHash : String
  status : TaskStatus
  createdAt : UtcDateTime
  completedAt : Option UtcDateTime := none

/-- A result of a task. -/
structure ArenaResultRecord where
  result : AgentTaskResultV1
  resultReceivedAt : UtcDateTime
  resultHash : String
  applyStatus : ResultApplyStatus := .pending
  messageReplaced : Bool := false
  publicOutputPolicyVersion : Option String := none
  safeErrorClass : Option String := none
  arenaAppliedAt : Option UtcDateTime := none
  arenaRejectedAt : Option UtcDateTime := none
  rejectionReason : Option String := none

/-- A row of the audit. -/
structure TaskEventRecord where
  taskId : String
  eventType : String
  createdAt : UtcDateTime
  data : List (String × Value) := []

/-- What a submission returns. -/
structure ResultSubmissionReceipt where
  taskId : String
  disposition : SubmissionDisposition
  authoritativeResultId : Option String
  taskStatus : TaskStatus
  resultReceivedAt : UtcDateTime
deriving DecidableEq, Repr

/-- What applying a result returns. -/
structure AppliedArenaAction where
  taskId : String
  resultId : String
  kind : TaskKind
  outcome : ApplicationOutcome
  action : Option Action
  enteredAt : UtcDateTime
  appliedAt : UtcDateTime

/-- What the core raises. -/
inductive ArenaError
  | ingress (code : IngressRejectionCode)
  | taskNotFound
  | idempotencyConflict (message : String)
  | resultConflict (message : String)
  | value (message : String)
deriving DecidableEq, Repr

/-- The SHA-256 identifiers the repository derives. -/
structure Hashes where
  /-- The hexadecimal digest of a text. -/
  text : String → String
  /-- `sha256_identifier` of a dumped snapshot. -/
  snapshot : Value → String
  /-- `sha256_identifier` of a result. -/
  result : AgentTaskResultV1 → String

/-- The tables of `MemoryArenaCoreRepository`. -/
structure ArenaCore where
  tasks : Dict String ArenaTaskRecord := []
  taskByIdempotency : Dict (String × String) String := []
  results : Dict String ArenaResultRecord := []
  resultByTask : Dict String String := []
  appliedByTask : Dict String AppliedArenaAction := []
  events : List TaskEventRecord := []

namespace ArenaCore

variable (T : TextTables) (H : Hashes)

/-- `_append_event`. -/
def appendEvent (s : ArenaCore) (taskId eventType : String) (createdAt : UtcDateTime)
    (data : List (String × Value)) : ArenaCore :=
  { s with events := s.events ++ [⟨taskId, eventType, createdAt, data⟩] }

/-- `get_task_by_idempotency`. -/
def getTaskByIdempotency (s : ArenaCore) (gameAgentId idempotencyKey : String) :
    Option ArenaTaskRecord :=
  (s.taskByIdempotency.get (gameAgentId, idempotencyKey)).bind s.tasks.get

/-- `create_task`. -/
def createTask (s : ArenaCore) (task : ArenaAgentTaskV1) (config : Config) (configHash : String)
    (createdAt : UtcDateTime) : Except ArenaError (ArenaCore × ArenaTaskRecord) :=
  match secureConfigSnapshot T task.input.dump, secureConfigSnapshot T (.dict config) with
  | some code, _ => .error (.ingress code)
  | none, some code => .error (.ingress code)
  | none, none =>
    if H.snapshot task.input.dump ≠ task.inputHash then
      .error (.idempotencyConflict "Arena task input hash does not match its snapshot")
    else if H.snapshot (.dict config) ≠ configHash then
      .error (.idempotencyConflict "Arena task config hash does not match its snapshot")
    else
      match s.getTaskByIdempotency task.gameAgentId task.idempotencyKey with
      | some existing =>
        if existing.task.inputHash ≠ task.inputHash || existing.configHash ≠ configHash ||
            existing.task.kind ≠ task.kind then
          .error (.idempotencyConflict
            "Arena task idempotency key was reused with a different snapshot")
        else .ok (s, existing)
      | none =>
        if (s.tasks.get task.taskId).isSome then
          .error (.idempotencyConflict "Arena task id already exists")
        else
          let record : ArenaTaskRecord :=
            { task := task
              configSnapshot := config
              configHash := configHash
              status := .queued
              createdAt := createdAt }
          let s' : ArenaCore := { s with
            tasks := s.tasks.set task.taskId record
            taskByIdempotency :=
              s.taskByIdempotency.set (task.gameAgentId, task.idempotencyKey) task.taskId }
          .ok (s'.appendEvent task.taskId "created" createdAt [("kind", .str task.kind.wire)],
            record)

/-- The result that stands in for a Runtime that missed the deadline. -/
def timeoutResult (taskId : String) : AgentTaskResultV1 where
  resultId := "default:" ++ H.text taskId
  taskId := taskId
  status := .timedOut
  action := none
  shape := by simp

/-- A task that got its terminal result. -/
def closeTask (s : ArenaCore) (record : ArenaTaskRecord) (status : TaskStatus) (now : UtcDateTime)
    (result : ArenaResultRecord) : ArenaCore :=
  { s with
    tasks := s.tasks.set record.task.taskId
      { record with
        status := status
        completedAt := some now }
    results := s.results.set result.result.resultId result
    resultByTask := s.resultByTask.set record.task.taskId result.result.resultId }

/-- `_create_timeout_result_locked`. -/
def createTimeoutResultLocked (s : ArenaCore) (record : ArenaTaskRecord) (now : UtcDateTime) :
    ArenaCore × ArenaResultRecord :=
  let result := timeoutResult H record.task.taskId
  let row : ArenaResultRecord :=
    { result := result
      resultReceivedAt := now
      resultHash := H.result result
      safeErrorClass := some "deadline_elapsed" }
  ((s.closeTask record .defaulted now row).appendEvent record.task.taskId "defaulted" now
    [("reason", .str "deadline_elapsed")], row)

/-- The status a terminal result gives its task. -/
def statusOfResult : ResultStatus → TaskStatus
  | .succeeded => .completed
  | .cancelled => .cancelled
  | .failed | .timedOut => .defaulted

/-- The row of a result that the Runtime submitted, under its internal id. -/
def submittedRow (r : AgentTaskResultV1) (now : UtcDateTime) (messageReplaced : Bool)
    (policyVersion : Option String) : ArenaResultRecord :=
  { result := { r with resultId := "runtime:" ++ H.text r.resultId }
    resultReceivedAt := now
    resultHash := H.result r
    messageReplaced := messageReplaced
    publicOutputPolicyVersion := policyVersion
    safeErrorClass := if r.status = .succeeded then none else some ("runtime_" ++ r.status.wire) }

/-- `submit_result`.  The error case of a conflict also leaves an event behind. -/
def submitResult (s : ArenaCore) (r : AgentTaskResultV1) (now : UtcDateTime)
    (messageReplaced : Bool) (policyVersion : Option String) :
    Except (ArenaError × ArenaCore) (ArenaCore × ResultSubmissionReceipt) :=
  match validateRuntimeResultIdentifiers T r with
  | some code => .error (.ingress code, s)
  | none =>
    match s.tasks.get r.taskId with
    | none => .error (.taskNotFound, s)
    | some record =>
      let incomingHash := H.result r
      let authoritative := s.resultByTask.get r.taskId
      let receipt (disposition : SubmissionDisposition) (result : Option String)
          (status : TaskStatus) (receivedAt : UtcDateTime) : ResultSubmissionReceipt :=
        ⟨r.taskId, disposition, result, status, receivedAt⟩
      match s.results.get ("runtime:" ++ H.text r.resultId) with
      | some existing =>
        if existing.result.taskId ≠ r.taskId then
          .error (.resultConflict "Result id was reused for a different task",
            s.appendEvent r.taskId "result_conflict" now
              [("incoming_result_hash", .str incomingHash)])
        else if existing.resultHash ≠ incomingHash then
          .error (.resultConflict "Result id was replayed with a different terminal payload",
            s.appendEvent r.taskId "result_conflict" now
              [("authoritative_result_hash", .str existing.resultHash),
                ("incoming_result_hash", .str incomingHash)])
        else
          .ok (s.appendEvent r.taskId "duplicate_result_ignored" now
              [("result_hash", .str existing.resultHash)],
            receipt .duplicate authoritative record.status existing.resultReceivedAt)
      | none =>
        if authoritative.isSome || record.status.terminal then
          .ok (s.appendEvent r.taskId "late_result_ignored" now
              [("result_hash", .str incomingHash), ("reason", .str "task_terminal")],
            receipt .late authoritative record.status now)
        else if record.task.deadlineAt ≤ now then
          let (s', row) := s.createTimeoutResultLocked H record now
          .ok (s'.appendEvent r.taskId "late_result_ignored" now
              [("result_hash", .str incomingHash), ("reason", .str "deadline_elapsed")],
            receipt .late (some row.result.resultId) .defaulted now)
        else
          let row := submittedRow H r now messageReplaced policyVersion
          let status := statusOfResult r.status
          .ok ((s.closeTask record status now row).appendEvent r.taskId "result_submitted" now
              [("result_hash", .str incomingHash), ("runtime_status", .str r.status.wire),
                ("message_replaced", .bool messageReplaced)],
            receipt .accepted (some row.result.resultId) status now)

/-- The tasks `finalize_expired` takes: open, past their deadline, by deadline and id. -/
def expiredTasks (s : ArenaCore) (now : UtcDateTime) (limit : Nat) : List ArenaTaskRecord :=
  let eligible := s.tasks.values.filter fun record =>
    !record.status.terminal && record.task.deadlineAt ≤ now &&
      (s.resultByTask.get record.task.taskId).isNone
  (eligible.mergeSort fun a b => a.task.deadlineAt < b.task.deadlineAt ||
    (a.task.deadlineAt = b.task.deadlineAt && a.task.taskId ≤ b.task.taskId)).take limit

/-- `finalize_expired`. -/
def finalizeExpired (s : ArenaCore) (now : UtcDateTime) (limit : Nat) : ArenaCore :=
  (s.expiredTasks now limit).foldl (fun s record => (s.createTimeoutResultLocked H record now).1) s

/-- The applied action of a result. -/
def appliedOf (record : ArenaTaskRecord) (row : ArenaResultRecord) (application : ArenaApplication)
    (resultId : String) (now : UtcDateTime) : AppliedArenaAction where
  taskId := record.task.taskId
  resultId := resultId
  kind := record.task.kind
  outcome := application.outcome
  action := application.action
  enteredAt := if application.outcome = .candidate then row.resultReceivedAt else now
  appliedAt := now

/-- `apply_result`. -/
def applyResult (s : ArenaCore) (resultId : String) (now : UtcDateTime) :
    Except ArenaError (ArenaCore × Option AppliedArenaAction) :=
  match s.results.get resultId with
  | none => .error (.resultConflict "Arena result does not exist")
  | some row =>
    if row.applyStatus ≠ .pending then .ok (s, none)
    else
      match s.tasks.get row.result.taskId with
      | none => .error (.value "KeyError")
      | some record =>
        let application := deriveApplication record.task row.result
        let event (s : ArenaCore) (eventType : String) (data : List (String × Value)) : ArenaCore :=
          s.appendEvent record.task.taskId eventType now (("result_hash", .str row.resultHash) :: data)
        if !application.accepted then
          let row' : ArenaResultRecord := { row with
            applyStatus := .rejected
            arenaRejectedAt := some now
            rejectionReason := application.rejectionReason }
          .ok (event { s with results := s.results.set resultId row' } "result_rejected"
            [("reason", .str (application.rejectionReason.getD "invalid_candidate"))], none)
        else
          match s.appliedByTask.get record.task.taskId with
          | some existing =>
            if existing.resultId ≠ resultId then
              .error (.resultConflict "Task already has a different applied action")
            else
              let row' : ArenaResultRecord := { row with
                applyStatus := .applied
                arenaAppliedAt := some now }
              .ok ({ s with results := s.results.set resultId row' }, none)
          | none =>
            let applied := appliedOf record row application resultId now
            let row' : ArenaResultRecord := { row with
              applyStatus := .applied
              arenaAppliedAt := some now
              rejectionReason := application.rejectionReason }
            .ok (event { s with
                results := s.results.set resultId row'
                appliedByTask := s.appliedByTask.set record.task.taskId applied }
              "result_applied" [("outcome", .str application.outcome.wire),
                ("reason", .opt .str application.rejectionReason)], some applied)

end ArenaCore

end Arena402
