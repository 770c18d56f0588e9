/-
The supervisor: the managed sessions of the connector, and the commands on them.

A command is answered with one acknowledgement.  Its handler takes the lock for a few statements at a
time; `Call.write` is such a section that writes, and it is kept with what it found and what it left.
Other goroutines (the observers of running tasks, a shutdown) run between the sections, so a dispatch
looks its session up again after the process was started.

What lies outside is a parameter: the answers of the receipt store, what the JSON decoder makes of a
payload, the file system and the environment, and the drivers that build and start processes.
-/
import Arena402.Connector.ArenaAction

namespace Arena402.Connector

open Py (Dict Json)

/-! ### The protocol -/

namespace Protocol

def commandRuntimeProbe := "runtime.probe"
def commandSessionStart := "session.start"
def commandTaskDispatch := "task.dispatch"
def commandTaskCancel := "task.cancel"
def commandSessionStop := "session.stop"
def commandSessionResume := "session.resume"

/-- The commands that a Connector carries out. -/
def allowedCommands : List String :=
  [commandRuntimeProbe, commandSessionStart, commandTaskDispatch, commandTaskCancel,
    commandSessionStop, commandSessionResume]

/-- A payload is raw JSON text; a zero time is `none`. -/
structure Command where
  commandId : String
  bindingId : String
  agentId : String
  kind : String
  action : String
  idempotencyKey : String
  runtimeId : String
  sessionId : String
  bindingEpoch : Nat
  expiresAt : Option Int
  payload : String
deriving DecidableEq

namespace Command

/-- `CommandKind` -/
def commandKind (c : Command) : String :=
  if c.kind ≠ "" then c.kind else c.action

/-- `Validate`: the first thing that is wrong with a command. -/
def validate (now : Int) (c : Command) : Option String :=
  if c.commandId = "" then some "command_id is required"
  else if c.idempotencyKey = "" then some "idempotency_key is required"
  else if c.bindingId = "" then some "binding_id is required"
  else if ¬ c.commandKind ∈ allowedCommands then
    some ("unsupported command kind " ++ c.commandKind.quote)
  else if c.expiresAt = none then some "expires_at is required"
  else if c.expiresAt.any (· ≤ now) then some "command has expired"
  else if c.commandKind ≠ commandRuntimeProbe ∧ c.agentId = "" then some "agent_id is required"
  else if c.commandKind ≠ commandRuntimeProbe ∧ c.runtimeId = "" then some "runtime_id is required"
  else if c.commandKind ≠ commandRuntimeProbe ∧ c.bindingEpoch = 0 then
    some "binding_epoch is required"
  else if c.commandKind ≠ commandRuntimeProbe ∧ c.commandKind ≠ commandSessionStart ∧
      c.sessionId = "" then some "session_id is required"
  else if c.payload = "" then some "command payload is required"
  else none

end Command

/-- How a command went. -/
inductive AckStatus
  | accepted
  | completed
  | failed
  | rejected
deriving DecidableEq

/-- What a command is answered with. -/
structure CommandAck where
  commandId : String
  idempotencyKey : String
  bindingEpoch : Nat
  status : AckStatus
  code : String
  message : String
  result : Option Json

/-- `NewAck` -/
def newAck (c : Command) (status : AckStatus) (code message : String) (result : Option Json) :
    CommandAck where
  commandId := c.commandId
  idempotencyKey := c.idempotencyKey
  bindingEpoch := c.bindingEpoch
  status := status
  code := code
  message := message
  result := result

/-- A runtime of the machine. -/
structure Runtime where
  id : String
  kind : String
  status : String
  statusDetail : String
  taskEnabled : Bool
  authenticationStatus : String
  arenaCompatible : Bool
  arenaIsolation : String
  localExecutionReady : Bool
deriving DecidableEq

/-- What the supervisor reports. -/
structure RuntimeEvent where
  bindingId : String
  runtimeId : String
  sessionId : String
  taskId : String
  type : String
  data : List (String × Json)

end Protocol

open Protocol

/-! ### Sessions and what is outside -/

namespace Supervisor

/-- The task of a dispatch. -/
structure ArenaTask where
  taskId : String
  kind : String
  idempotencyKey : String
  deadlineAt : Int
deriving DecidableEq

/-- A running task. -/
structure Task where
  id : String
  origin : Command
  trackAck : Bool
  arenaTask : Option ArenaTask
deriving DecidableEq

/-- Whether a session is ready. -/
inductive SessionStatus
  | ready
  | stopped
deriving DecidableEq

/-- A managed session. -/
structure Session where
  id : String
  bindingId : String
  agentId : String
  runtimeId : String
  bindingEpoch : Nat
  workingDir : String
  resumeToken : String := ""
  resumeTokenCaptured : Bool := false
  environment : List String
  status : SessionStatus
  tasks : Dict String Task
deriving DecidableEq

/-- The session table. -/
abbrev Sessions := Dict String Session

/-- The payload of a start. -/
structure StartSessionPayload where
  workingDirectory : String
  initialPrompt : String
  environmentRefs : List String

/-- `task` is raw JSON, empty when it is left out. -/
structure DispatchTaskPayload where
  taskId : String
  requestId : String := ""
  prompt : String
  timeoutSeconds : Int := 0
  task : String := ""

/-- The payload of a cancel. -/
structure CancelTaskPayload where
  taskId : String
  requestId : String

/-- What a driver is started with for a session. -/
structure SessionSpec where
  sessionId : String
  workingDir : String
  resumeToken : String
  environment : List String

/-- The schema of a task. -/
structure OutputSchema where
  schema : String
  path : String
  isolatedWorkingDir : String

/-- What a driver is started with for a task. -/
structure TaskSpec where
  taskId : String
  prompt : String
  arenaKind : String := ""
  outputSchema : Option OutputSchema := none

/-- A process that was built: what its pipes and its start give. -/
structure Process where
  stdoutPipe : Except String Unit
  stderrPipe : Except String Unit
  start : Except String Nat

/-- What a call finds outside of the supervisor. -/
structure Outside where
  now : Int
  newSessionId : String
  scan : List Protocol.Runtime
  /-- the receipt of a key -/
  lookupReceipt : String → Except String (Option CommandAck)
  /-- saving the claim, and saving the acknowledgement -/
  saveClaim : Except String Unit
  saveAck : Except String Unit
  decodeStartSession : String → Except String StartSessionPayload
  decodeDispatchTask : String → Except String DispatchTaskPayload
  decodeCancelTask : String → Except String CancelTaskPayload
  /-- the keys of a `map[string]json.RawMessage` -/
  decodeKeys : String → Except String (List String)
  decodeArenaTask : String → Int → Except String (ArenaTask × String)
  resolvePath : String → Except String String
  isDir : String → Except String Bool
  pathWithin : String → String → Bool
  lookupEnv : String → Option String
  prepareArenaOutputSchema : String → Except String OutputSchema
  /-- the driver of a kind of runtime, by its `BuildTask` -/
  driver : String → Option (Protocol.Runtime → SessionSpec → TaskSpec → Except String Process)
  /-- what other goroutines do to the table before the call, before the initial task of a new session
      is dispatched, and while a process starts -/
  earlier : Sessions → Sessions
  beforeInitialTask : Sessions → Sessions
  meanwhile : Sessions → Sessions

end Supervisor

/-- The sessions, and what the Connector is set up with. -/
structure Supervisor where
  allowedRoots : List String
  allowedEnvironment : List String
  runtimes : Dict String Protocol.Runtime
  sessions : Supervisor.Sessions

namespace Supervisor

/-! ### Checks -/

/-- The code and the message of a rejection. -/
abbrev Rejection := String × String

/-- A rejection under a condition. -/
def rejectIf (c : Prop) [Decidable c] (code message : String) : Except Rejection Unit :=
  if c then .error (code, message) else .ok ()

/-- The value of a call, or a rejection with its error. -/
def orReject {α : Type} (code : String) (x : Except String α) : Except Rejection α :=
  x.mapError fun message => (code, message)

/-- What is not there is a rejection. -/
def orMissing {α : Type} (code message : String) : Option α → Except Rejection α
  | some a => .ok a
  | none => .error (code, message)

/-- `environmentNamePattern` -/
def environmentNamePattern (name : String) : Bool :=
  match name.toList with
  | [] => false
  | c :: rest => (c.isAlpha || c = '_') && rest.all fun d => d.isAlphanum || d = '_'

section

variable (o : Outside)

/-- `rejectCloudResumeToken` -/
def rejectCloudResumeToken (payload : String) : Except String Unit := do
  let keys ← o.decodeKeys payload
  if "conversation_id" ∈ keys then
    .error "conversation_id cannot be supplied by the cloud control plane"
  else if "resume_token" ∈ keys then
    .error "resume_token cannot be supplied by the cloud control plane"
  else .ok ()

/-- `validateSessionOwnership`: the code and the message, if there is something wrong. -/
def validateSessionOwnership (current : Session) (c : Command) : Option Rejection :=
  if current.bindingEpoch ≠ c.bindingEpoch then
    some ("stale_binding", "binding epoch does not match the active session")
  else if current.bindingId ≠ c.bindingId ∨ current.agentId ≠ c.agentId ∨
      current.runtimeId ≠ c.runtimeId then
    some ("session_ownership_mismatch",
      "binding, agent, or runtime does not own the managed session")
  else none

/-- The command is of the binding and generation of the session. -/
def checkOwnership (current : Session) (c : Command) : Except Rejection Unit :=
  match validateSessionOwnership current c with
  | some rejection => .error rejection
  | none => .ok ()

/-- `validateWorkingDirectory` -/
def validateWorkingDirectory (s : Supervisor) (path : String) : Except String String :=
  if isBlank path then .error "working_directory is required"
  else do
    let resolved ← o.resolvePath path
    let isDir ← (o.isDir resolved).mapError fun err => "stat working directory: " ++ err
    if !isDir then .error "working_directory is not a directory"
    else if s.allowedRoots.any fun root => o.pathWithin root resolved then .ok resolved
    else .error "working_directory is outside the connector allowlist"

/-- The variables that every session has. -/
def baseNames : List String :=
  ["PATH", "HOME", "USERPROFILE", "LOCALAPPDATA", "APPDATA", "CODEX_HOME", "TMP", "TEMP", "TMPDIR",
    "SystemRoot", "COMSPEC", "LANG", "LC_ALL", "TERM"]

/-- `appendName`: a variable that is set and not yet there. -/
def appendName (environment : List (String × String)) (name : String) : List (String × String) :=
  if environment.any (·.1 = name) then environment
  else
    match o.lookupEnv name with
    | some value => environment ++ [(name, value)]
    | none => environment

/-- One reference of `buildEnvironment`. -/
def appendRef (allowed : List String) (environment : List (String × String)) (name : String) :
    Except String (List (String × String)) :=
  if !environmentNamePattern name then
    .error ("environment reference " ++ name.quote ++ " is not a variable name")
  else if ¬ name ∈ allowed then
    .error ("environment reference " ++ name.quote ++ " is not locally allowed")
  else if (o.lookupEnv name).isNone then
    .error ("environment reference " ++ name.quote ++ " is not configured locally")
  else .ok (appendName o environment name)

/-- `buildEnvironment` -/
def buildEnvironment (refs allowed : List String) : Except String (List String) := do
  let environment ← refs.foldlM (appendRef o allowed) (baseNames.foldl (appendName o) [])
  return environment.map fun entry => entry.1 ++ "=" ++ entry.2

/-- `runtimeIsArenaReady` -/
def runtimeIsArenaReady (runtime : Protocol.Runtime) : Bool :=
  let expectedIsolation :=
    if runtime.kind = "codex" then "read_only_ephemeral_schema"
    else if runtime.kind = "claude_code" then "no_tools_safe_mode_schema" else ""
  runtime.taskEnabled && runtime.authenticationStatus = "configured" && runtime.arenaCompatible &&
    expectedIsolation ≠ "" && runtime.arenaIsolation = expectedIsolation &&
    runtime.localExecutionReady

/-! ### A call -/

/-- The supervisor during a call, with the events it emitted and the writes to the table: what each
    found and what it left. -/
structure Call where
  supervisor : Supervisor
  events : List Protocol.RuntimeEvent
  writes : List (Sessions × Sessions)

namespace Call

/-- The table as it is now. -/
def sessions (call : Call) : Sessions :=
  call.supervisor.sessions

/-- A locked section that writes to the table. -/
def write (call : Call) (f : Sessions → Sessions) : Call where
  supervisor := { call.supervisor with sessions := f call.sessions }
  events := call.events
  writes := call.writes ++ [(call.sessions, f call.sessions)]

/-- Other goroutines run. -/
def yield (call : Call) (f : Sessions → Sessions) : Call :=
  { call with supervisor := { call.supervisor with sessions := f call.sessions } }

/-- `replaceInventory` -/
def replaceInventory (call : Call) (runtimes : List Protocol.Runtime) : Call :=
  { call with
    supervisor := { call.supervisor with
      runtimes := runtimes.foldl (fun table runtime => table.set runtime.id runtime) [] } }

/-- `emit`, which fills in the binding of the session. -/
def emit (call : Call) (runtimeId sessionId taskId type : String) (data : List (String × Json)) :
    Call :=
  let bindingId :=
    if sessionId = "" then ""
    else
      match call.sessions.get sessionId with
      | some current => current.bindingId
      | none => ""
  { call with events := call.events ++ [⟨bindingId, runtimeId, sessionId, taskId, type, data⟩] }

end Call

/-- A rejected acknowledgement. -/
def rejected (c : Command) (rejection : Rejection) : CommandAck :=
  newAck c .rejected rejection.1 rejection.2 none

/-! ### Dispatching a task -/

def maxTaskTimeout : Int := 3600 * 10 ^ 9
def defaultTimeout : Int := 900 * 10 ^ 9

/-- `time.Duration(n) * time.Second`, in 64 bits. -/
def secondsDuration (n : Int) : Int :=
  (n * 10 ^ 9 + 2 ^ 63) % 2 ^ 64 - 2 ^ 63

/-- The task that a payload asks for. -/
structure TaskRequest where
  taskId : String
  prompt : String
  timeout : Int
  arenaTask : Option ArenaTask

/-- The first half of `dispatchTask`, up to the lock: what is to be run. -/
def taskRequest (c : Command) (payload : DispatchTaskPayload) : Except Rejection TaskRequest :=
  if payload.task ≠ "" then do
    rejectIf (payload.taskId ≠ "" ∨ payload.requestId ≠ "" ∨ isBlank payload.prompt = false ∨
      payload.timeoutSeconds ≠ 0) "invalid_payload"
      "typed Arena task cannot include prompt, request_id, task_id, or timeout_seconds"
    let (task, prompt) ← orReject "invalid_arena_task" (o.decodeArenaTask payload.task o.now)
    rejectIf (task.idempotencyKey ≠ c.idempotencyKey) "idempotency_mismatch"
      "Arena task idempotencyKey does not match the Connector command"
    return ⟨task.taskId, prompt, min defaultTimeout (task.deadlineAt - o.now), some task⟩
  else do
    let taskId := if payload.taskId = "" then payload.requestId else payload.taskId
    rejectIf (taskId = "" ∨ isBlank payload.prompt = true) "invalid_payload"
      "task_id and prompt are required"
    let timeout :=
      if payload.timeoutSeconds ≠ 0 then secondsDuration payload.timeoutSeconds else defaultTimeout
    rejectIf (timeout ≤ 0 ∨ maxTaskTimeout < timeout) "invalid_timeout"
      "timeout_seconds must be between 1 and 3600"
    return ⟨taskId, payload.prompt, timeout, none⟩

/-- The output schema of an Arena task. -/
def taskSpec (request : TaskRequest) : Except Rejection TaskSpec :=
  match request.arenaTask with
  | none => .ok { taskId := request.taskId, prompt := request.prompt }
  | some task => do
    let schema ← orReject "driver_error" (o.prepareArenaOutputSchema task.kind)
    return {
      taskId := request.taskId
      prompt := request.prompt
      arenaKind := task.kind
      outputSchema := some schema }

/-- The driver builds the process and it is started: its process id. -/
def launch (runtime : Protocol.Runtime) (spec : SessionSpec) (request : TaskRequest) :
    Except Rejection Nat := do
  let buildTask ← orMissing "driver_not_supported" "no managed driver exists for this runtime"
    (o.driver runtime.kind)
  let task ← taskSpec o request
  let process ← orReject "driver_error" (buildTask runtime spec task)
  orReject "process_pipe_error" process.stdoutPipe
  orReject "process_pipe_error" process.stderrPipe
  orReject "process_start_error" process.start

/-- A process that runs, before its task is in the table. -/
structure Started where
  runtimeId : String
  request : TaskRequest
  pid : Nat

/-- `dispatchTask`, up to the second lock. -/
def startTask (s : Supervisor) (c : Command) (payload : Except String DispatchTaskPayload) :
    Except Rejection Started := do
  let payload ← orReject "invalid_payload" payload
  let request ← taskRequest o c payload
  let current ← orMissing "session_not_found" "managed session does not exist"
    (s.sessions.get c.sessionId)
  checkOwnership current c
  rejectIf (current.status ≠ .ready) "session_not_ready" "session is stopped"
  rejectIf ((current.tasks.get request.taskId).isSome = true) "task_exists" "task is already running"
  let runtime ← orMissing "runtime_not_found" "session runtime is no longer available"
    (s.runtimes.get current.runtimeId)
  rejectIf (request.arenaTask.isSome = true ∧ (runtime.kind = "codex" ∨ runtime.kind = "claude_code") ∧
    runtimeIsArenaReady runtime = false) "runtime_not_arena_ready"
    "local Runtime has not passed task, authentication, and Arena isolation readiness checks"
  -- a provider session is not what an Arena task is recovered from
  let resumeToken := if request.arenaTask.isSome then "" else current.resumeToken
  let pid ← launch o runtime ⟨current.id, current.workingDir, resumeToken, current.environment⟩ request
  return ⟨runtime.id, request, pid⟩

/-- The session is looked up again under the second lock. -/
def recheck (sessions : Sessions) (c : Command) : Except Rejection Session := do
  let current ← orMissing "session_changed" "session changed while the process was starting"
    (sessions.get c.sessionId)
  rejectIf (current.status ≠ .ready) "session_changed" "session changed while the process was starting"
  rejectIf ((validateSessionOwnership current c).isSome = true) "session_changed"
    "session ownership changed while the process was starting"
  return current

/-- `dispatchTask`; a process whose session changed is stopped again. -/
def dispatchTask (c : Command) (payload : Except String DispatchTaskPayload) (trackAck : Bool)
    (call : Call) : CommandAck × Call :=
  match startTask o call.supervisor c payload with
  | .error rejection => (rejected c rejection, call)
  | .ok started =>
    let call := call.yield o.meanwhile
    match recheck call.sessions c with
    | .error rejection => (rejected c rejection, call)
    | .ok current =>
      let taskId := started.request.taskId
      let running : Task := ⟨taskId, c, trackAck, started.request.arenaTask⟩
      let call := call.write fun sessions =>
        sessions.set c.sessionId { current with tasks := current.tasks.set taskId running }
      let call := call.emit started.runtimeId c.sessionId taskId "process.started"
        [("command_id", .str c.commandId), ("pid", .int started.pid),
          ("timeout_seconds", .int (started.request.timeout.tdiv (10 ^ 9)))]
      (newAck c .accepted "" "task process started"
        (some (.object [("task_id", .str taskId), ("pid", .int started.pid)])), call)

/-! ### The commands on sessions -/

/-- What a session is started with. -/
structure StartPlan where
  workingDirectory : String
  environment : List String
  initialPrompt : String

/-- An active session is not started again. -/
def checkExisting (existing : Option Session) (c : Command) : Except Rejection Unit :=
  match existing with
  | none => .ok ()
  | some existing => do
    checkOwnership existing c
    rejectIf (existing.status ≠ .stopped) "session_exists" "session is already active"

/-- `startSession`, up to the write. -/
def startChecks (s : Supervisor) (c : Command) : Except Rejection StartPlan := do
  let payload ← orReject "invalid_payload" (o.decodeStartSession c.payload)
  orReject "cloud_resume_token_forbidden" (rejectCloudResumeToken o c.payload)
  rejectIf (isBlank payload.workingDirectory = true) "invalid_payload" "working_directory is required"
  let workingDirectory ← orReject "working_directory_denied"
    (validateWorkingDirectory o s payload.workingDirectory)
  let environment ← orReject "invalid_environment_refs"
    (buildEnvironment o payload.environmentRefs s.allowedEnvironment)
  rejectIf (1000000 < payload.initialPrompt.utf8ByteSize) "invalid_payload"
    "initial_prompt exceeds 1000000 bytes"
  checkExisting (s.sessions.get c.sessionId) c
  let runtime ← orMissing "runtime_not_found" "runtime is not present in the latest inventory"
    (s.runtimes.get c.runtimeId)
  rejectIf (runtime.status ≠ "ready") "runtime_not_ready" runtime.statusDetail
  return ⟨workingDirectory, environment, payload.initialPrompt⟩

/-- The session that is started. -/
def StartPlan.session (plan : StartPlan) (c : Command) : Session where
  id := c.sessionId
  bindingId := c.bindingId
  agentId := c.agentId
  runtimeId := c.runtimeId
  bindingEpoch := c.bindingEpoch
  workingDir := plan.workingDirectory
  environment := plan.environment
  status := .ready
  tasks := []

/-- The command of the initial task; its payload was written by the supervisor itself. -/
def initialCommand (c : Command) : Command :=
  { c with kind := commandTaskDispatch, action := "" }

def initialPayload (c : Command) (plan : StartPlan) : DispatchTaskPayload where
  taskId := c.commandId ++ "-initial"
  prompt := plan.initialPrompt

/-- `startSession` -/
def startSession (c : Command) (call : Call) : CommandAck × Call :=
  match startChecks o call.supervisor c with
  | .error rejection => (rejected c rejection, call)
  | .ok plan =>
    let call := call.write fun sessions => sessions.set c.sessionId (plan.session c)
    let call := call.emit c.runtimeId c.sessionId "" "session.started"
      [("working_directory", .str plan.workingDirectory), ("binding_epoch", .int c.bindingEpoch)]
    if isBlank plan.initialPrompt then
      (newAck c .completed "" "managed session created"
        (some (.object [("session_id", .str c.sessionId)])), call)
    else
      let (initialAck, call) :=
        dispatchTask o (initialCommand c) (.ok (initialPayload c plan)) false
          (call.yield o.beforeInitialTask)
      if initialAck.status = .rejected then
        (rejected c (initialAck.code, "session created but initial task failed: " ++ initialAck.message),
          call)
      else
        (newAck c .completed "" "managed session and initial task started"
          (some (.object [("session_id", .str c.sessionId),
            ("task_id", .str (c.commandId ++ "-initial"))])), call)

/-- The session of a command, if the command owns it. -/
def ownedSession (s : Supervisor) (c : Command) : Except Rejection Session := do
  let current ← orMissing "session_not_found" "managed session does not exist"
    (s.sessions.get c.sessionId)
  checkOwnership current c
  return current

/-- `cancelTask`: the task is signalled, and its observer takes it out of the table. -/
def cancelTask (c : Command) (call : Call) : CommandAck × Call :=
  let found : Except Rejection Task := do
    let payload ← orReject "invalid_payload" (o.decodeCancelTask c.payload)
    let taskId := if payload.taskId = "" then payload.requestId else payload.taskId
    rejectIf (taskId = "") "invalid_payload" "task_id is required"
    let current ← ownedSession call.supervisor c
    orMissing "task_not_found" "running task does not exist" (current.tasks.get taskId)
  match found with
  | .error rejection => (rejected c rejection, call)
  | .ok _ => (newAck c .completed "" "task cancellation signal delivered" none, call)

/-- `stopSession` -/
def stopSession (c : Command) (call : Call) : CommandAck × Call :=
  match ownedSession call.supervisor c with
  | .error rejection => (rejected c rejection, call)
  | .ok current =>
    let call := call.write fun sessions => sessions.set c.sessionId { current with status := .stopped }
    let call := call.emit current.runtimeId c.sessionId "" "session.stopped" []
    (newAck c .completed "" "managed session stopped" none, call)

/-- `resumeSession`, up to the write. -/
def resumeChecks (s : Supervisor) (c : Command) : Except Rejection Session := do
  orReject "cloud_resume_token_forbidden" (rejectCloudResumeToken o c.payload)
  let current ← ownedSession s c
  rejectIf (current.status ≠ .stopped) "session_not_stopped"
    "managed session must be stopped before it can be resumed"
  rejectIf (current.resumeTokenCaptured = false ∨ current.resumeToken = "")
    "resume_token_unavailable"
    "the Connector-owned session has not captured a provider resume token"
  return current

/-- `resumeSession` -/
def resumeSession (c : Command) (call : Call) : CommandAck × Call :=
  match resumeChecks o call.supervisor c with
  | .error rejection => (rejected c rejection, call)
  | .ok current =>
    let call := call.write fun sessions => sessions.set c.sessionId { current with status := .ready }
    let call := call.emit current.runtimeId c.sessionId "" "session.resumed"
      [("runtime_resume_available", .bool true)]
    (newAck c .completed "" "managed session resumed"
      (some (.object [("runtime_resume_available", .bool true)])), call)

/-! ### Handling a command -/

structure HandleResult where
  ack : CommandAck
  inventory : Option (List Protocol.Runtime) := none
  persistenceError : Option String := none

/-- `record` -/
def record (c : Command) (ack : CommandAck) (inventory : Option (List Protocol.Runtime)) :
    HandleResult :=
  if c.idempotencyKey ≠ "" then
    match o.saveAck with
    | .ok () => { ack, inventory }
    | .error err =>
      { ack := rejected c ("receipt_store_error", "could not persist command receipt")
        inventory
        persistenceError := some ("persist command receipt: " ++ err) }
  else { ack, inventory }

/-- `receiptKey` -/
def receiptKey (c : Command) : String :=
  c.bindingId ++ "\x1f" ++ c.idempotencyKey

/-- `canRetryInterruptedArenaTask` -/
def canRetryInterruptedArenaTask (c : Command) (receipt : CommandAck) : Bool :=
  if c.commandKind ≠ commandTaskDispatch ∨ receipt.status ≠ .failed ∨
      receipt.code ≠ "connector_restarted" ∨ receipt.commandId = c.commandId then false
  else
    match o.decodeDispatchTask c.payload with
    | .ok payload => payload.task ≠ ""
    | .error _ => false

/-- The switch of `Handle`, for a command that was claimed. -/
def perform (c : Command) (call : Call) : HandleResult × Call :=
  if c.commandKind = commandRuntimeProbe then
    let ack := newAck c .completed "" "runtime inventory refreshed"
      (some (.object [("runtime_count", .int o.scan.length)]))
    (record o c ack (some o.scan), call.replaceInventory o.scan)
  else if c.commandKind = commandSessionStart then
    let (ack, call) := startSession o c call
    (record o c ack none, call)
  else if c.commandKind = commandTaskDispatch then
    let (ack, call) := dispatchTask o c (o.decodeDispatchTask c.payload) true call
    if ack.status = .accepted then ({ ack }, call) else (record o c ack none, call)
  else if c.commandKind = commandTaskCancel then
    let (ack, call) := cancelTask o c call
    (record o c ack none, call)
  else if c.commandKind = commandSessionStop then
    let (ack, call) := stopSession c call
    (record o c ack none, call)
  else if c.commandKind = commandSessionResume then
    let (ack, call) := resumeSession o c call
    (record o c ack none, call)
  else
    (record o c (rejected c ("unsupported_command", "command is not in the connector allowlist")) none,
      call)

/-- A session that is started without an id gets one. -/
def withSessionId (c : Command) : Command :=
  if c.commandKind = commandSessionStart ∧ c.sessionId = "" then
    { c with sessionId := o.newSessionId }
  else c

/-- `Handle` behind the lookup of the receipt. -/
def execute (c : Command) (call : Call) : HandleResult × Call :=
  match c.validate o.now with
  | some message => (record o c (rejected c ("invalid_command", message)) none, call)
  | none =>
    match o.saveClaim with
    | .error err =>
      ({ ack := rejected c
          ("receipt_store_error", "could not durably claim command before execution")
         persistenceError := some ("claim durable command receipt: " ++ err) }, call)
    | .ok () => perform o c call

/-- The receipt of a command without an idempotency key is not looked up. -/
def receiptOf (c : Command) : Except String (Option CommandAck) :=
  if c.idempotencyKey ≠ "" then o.lookupReceipt (receiptKey c) else .ok none

/-- `Handle` -/
def handle (c : Command) (s : Supervisor) : HandleResult × Call :=
  let call : Call := ⟨{ s with sessions := o.earlier s.sessions }, [], []⟩
  match receiptOf o c with
  | .error err =>
    ({ ack := rejected c ("receipt_store_error", "could not read the durable command receipt store")
       persistenceError := some ("lookup durable command receipt: " ++ err) }, call)
  | .ok (some receipt) =>
    if canRetryInterruptedArenaTask o c receipt then execute o (withSessionId o c) call
    else ({ ack := receipt }, call)
  | .ok none => execute o (withSessionId o c) call

end

end Supervisor

end Arena402.Connector
