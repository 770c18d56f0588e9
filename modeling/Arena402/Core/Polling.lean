/-
Waiting for terminal results.

A coordinator polls the repository for the tasks it created.  When none has a result and
some deadlines have passed it calls the finalizer, with a limit computed from its own tasks,
and reads again.  Each of the three repository calls is one locked transaction; other
processes create, answer, finalize and apply tasks between them.
-/
import Arena402.Core.Repository

namespace Arena402

open Py

/-- `_TaskWaitRef`: what `_wait_task_id` and `_wait_task_deadline` read of a pending task. -/
structure TaskWaitRef where
  taskId : String
  deadlineAt : UtcDateTime
deriving DecidableEq, Repr

namespace ArenaCore

variable (T : TextTables) (H : Hashes)

/-! ### Calls of other processes -/

/-- A call that some process makes on the repository. -/
inductive CoreCall
  | createTask (task : ArenaAgentTaskV1) (config : Config) (configHash : String)
      (createdAt : UtcDateTime)
  | submitResult (r : AgentTaskResultV1) (now : UtcDateTime) (messageReplaced : Bool)
      (policyVersion : Option String)
  | finalizeExpired (now : UtcDateTime) (limit : Nat)
  | applyResult (resultId : String) (now : UtcDateTime)

/-- The tables after a call, whether it raised or not. -/
def call (s : ArenaCore) : CoreCall → ArenaCore
  | .createTask task config configHash createdAt =>
    match s.createTask T H task config configHash createdAt with
    | .ok (s', _) => s'
    | .error _ => s
  | .submitResult r now messageReplaced policyVersion =>
    match s.submitResult T H r now messageReplaced policyVersion with
    | .ok (s', _) => s'
    | .error (_, s') => s'
  | .finalizeExpired now limit => s.finalizeExpired H now limit
  | .applyResult resultId now =>
    match s.applyResult resultId now with
    | .ok (s', _) => s'
    | .error _ => s

/-- The tables after a sequence of calls. -/
def calls (s : ArenaCore) (l : List CoreCall) : ArenaCore :=
  l.foldl (call T H) s

/-! ### One poll -/

/-- `get_results_for_tasks`. -/
def getResultsForTasks (s : ArenaCore) (taskIds : List String) : Dict String ArenaResultRecord :=
  taskIds.filterMap fun taskId =>
    ((s.resultByTask.get taskId).bind s.results.get).map fun row => (taskId, row)

/-- The pending tasks whose deadline has passed. -/
def expiredRefs (pending : List TaskWaitRef) (now : UtcDateTime) : List TaskWaitRef :=
  pending.filter fun ref => ref.deadlineAt ≤ now

/-- `max(50, len(expired))`. -/
def finalizeLimit (expired : List TaskWaitRef) : Nat :=
  max 50 expired.length

/-- The read after the finalizer ran. -/
def readFinalized (s : ArenaCore) (expired : List TaskWaitRef) :
    Except String (Dict String ArenaResultRecord) :=
  let finalized := s.getResultsForTasks (expired.map (·.taskId))
  let missing := expired.filter fun ref => (finalized.get ref.taskId).isNone
  if missing.isEmpty then .ok finalized else .error "terminal_runtime_result_missing"

/-- `_poll_terminal_results` for the tasks `pending`, one of each id.  The two readings of the
    clock are `now` and `finalizeNow`; other processes make the calls `before` between the
    first read and the finalizer and the calls `after` between the finalizer and the second
    read. -/
def pollTerminalResults (s : ArenaCore) (pending : List TaskWaitRef) (now finalizeNow : UtcDateTime)
    (before after : List CoreCall) : ArenaCore × Except String (Dict String ArenaResultRecord) :=
  let results := s.getResultsForTasks (pending.map (·.taskId))
  if !results.isEmpty then (s, .ok results)
  else
    let expired := expiredRefs pending now
    if expired.isEmpty then (s, .ok [])
    else
      let s := s.calls T H before
      let s := s.finalizeExpired H finalizeNow (finalizeLimit expired)
      let s := s.calls T H after
      (s, s.readFinalized expired)

end ArenaCore

end Arena402
