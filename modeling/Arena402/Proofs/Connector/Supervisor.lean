/-
What a rejected command leaves in the session table.

A handler makes all its checks before it writes, so a rejection by a check finds nothing to undo, and
`dispatchTask` stops a process whose session has changed before the task is in the table.  Two paths
reject a command after its write.  `startSession` puts the session into the table and then dispatches
the initial task, which can still fail; and `record` turns the acknowledgement of a command that was
carried out into a rejection when the receipt cannot be saved.

`Leaves` says when a call takes one of the two.  Writes of other goroutines are no part of it: a call
is held to the writes it makes itself.
-/
import Arena402.Connector.Supervisor
import Arena402.Lib.Raise

namespace Arena402.Connector

open Py (Dict Json)
open Protocol

namespace Supervisor

variable {o : Outside} {c : Command} {s : Supervisor} {call : Call}

/-! ### The writes of a call -/

/-- Every write of the call left the table as it found it. -/
def Untouched (call : Call) : Prop :=
  ∀ w ∈ call.writes, w.2 = w.1

theorem untouched_nil {supervisor : Supervisor} {events : List Protocol.RuntimeEvent} :
    Untouched ⟨supervisor, events, []⟩ := by
  intro w hw
  exact absurd hw List.not_mem_nil

theorem untouched_of_writes (h : call.writes = []) : Untouched call := by
  intro w hw
  rw [h] at hw
  exact absurd hw List.not_mem_nil

/-- A first write. -/
theorem untouched_iff_of_write {w : Sessions × Sessions} (h : call.writes = [w]) :
    Untouched call ↔ w.2 = w.1 := by
  unfold Untouched
  rw [h]
  simp

/-! ### Setting a session -/

/-- Overwriting a session by what it is changes nothing, by anything else changes the table. -/
theorem set_eq_iff {sessions : Sessions} {id : String} {new : Session} :
    sessions.set id new = sessions ↔ sessions.get id = some new := by
  constructor
  · intro h
    rw [← h]
    exact Dict.get_set_self _ _ _
  · exact Dict.set_get_self

/-! ### Checks that pass -/

@[simp] theorem rejectIf_ok_iff {p : Prop} [Decidable p] {code message : String} {u : Unit} :
    rejectIf p code message = .ok u ↔ ¬ p := by
  unfold rejectIf
  by_cases hp : p
  · rw [if_pos hp]
    simp [hp]
  · rw [if_neg hp]
    simp [hp]

@[simp] theorem orReject_ok_iff {α : Type} {code : String} {x : Except String α} {a : α} :
    orReject code x = .ok a ↔ x = .ok a := by
  cases x with
  | error _ | ok _ => simp [orReject, Except.mapError]

@[simp] theorem orMissing_ok_iff {α : Type} {code message : String} {x : Option α} {a : α} :
    orMissing code message x = .ok a ↔ x = some a := by
  cases x with
  | none | some _ => simp [orMissing]

@[simp] theorem checkOwnership_ok_iff {current : Session} {u : Unit} :
    checkOwnership current c = .ok u ↔ validateSessionOwnership current c = none := by
  unfold checkOwnership
  cases validateSessionOwnership current c with
  | none => simp
  | some rejection => simp

/-- A sequence of checks passes when each of them does. -/
theorem bind_ok_iff {α β : Type} {x : Except Rejection α} {f : α → Except Rejection β} {b : β} :
    (x >>= f) = .ok b ↔ ∃ a, x = .ok a ∧ f a = .ok b := by
  constructor
  · exact Py.ok_of_bind
  · rintro ⟨a, rfl, h⟩
    exact h

/-- The last of a sequence of checks, and what it returns. -/
theorem pure_ok_iff {α : Type} {a b : α} : (pure a : Except Rejection α) = .ok b ↔ a = b := by
  constructor
  · intro h
    injection h
  · intro h
    rw [h]
    rfl

/-! ### Dispatching -/

/-- The session of a command is there, ready, and owned by the command. -/
def StillReady (sessions : Sessions) (c : Command) : Prop :=
  ∃ current, sessions.get c.sessionId = some current ∧ current.status = .ready ∧
    validateSessionOwnership current c = none

theorem recheck_isOk_iff {sessions : Sessions} :
    (∃ current, recheck sessions c = .ok current) ↔ StillReady sessions c := by
  unfold recheck StillReady
  simp only [bind_ok_iff, pure_ok_iff, orMissing_ok_iff, rejectIf_ok_iff, not_not,
    Bool.not_eq_true, Option.isSome_eq_false_iff, Option.isNone_iff_eq_none, exists_const]
  constructor
  · rintro ⟨current, found, hfound, hready, howned, rfl⟩
    exact ⟨found, hfound, hready, howned⟩
  · rintro ⟨current, hfound, hready, howned⟩
    exact ⟨current, current, hfound, hready, howned, rfl⟩

variable {payload : Except String DispatchTaskPayload} {trackAck : Bool}

/-- The process starts, and the session is still there when it has. -/
def Dispatches (o : Outside) (c : Command) (payload : Except String DispatchTaskPayload)
    (call : Call) : Prop :=
  (∃ started, startTask o call.supervisor c payload = .ok started) ∧
    StillReady (o.meanwhile call.sessions) c

/-- A dispatch that cannot go through is rejected, and writes nothing. -/
theorem dispatchTask_rejected (h : ¬ Dispatches o c payload call) :
    (dispatchTask o c payload trackAck call).1.status = .rejected ∧
      (dispatchTask o c payload trackAck call).2.writes = call.writes := by
  unfold dispatchTask
  cases hstart : startTask o call.supervisor c payload with
  | error rejection => exact ⟨rfl, rfl⟩
  | ok started =>
      dsimp only
      cases hcheck : recheck (call.yield o.meanwhile).sessions c with
      | error rejection => exact ⟨rfl, rfl⟩
      | ok current =>
          have hready : StillReady (o.meanwhile call.sessions) c :=
            recheck_isOk_iff.mp ⟨current, hcheck⟩
          exact absurd ⟨⟨started, hstart⟩, hready⟩ h

/-- A dispatch that goes through is accepted. -/
theorem dispatchTask_accepted (h : Dispatches o c payload call) :
    (dispatchTask o c payload trackAck call).1.status = .accepted := by
  obtain ⟨⟨started, hstart⟩, hready⟩ := h
  obtain ⟨current, hcheck⟩ := recheck_isOk_iff.mpr hready
  have hcheck' : recheck (call.yield o.meanwhile).sessions c = .ok current := hcheck
  unfold dispatchTask
  rw [hstart]
  dsimp only
  rw [hcheck']
  rfl

/-! ### The initial task -/

variable {plan : StartPlan}

/-- The runtime has a driver, which builds a process for the task, and the process starts. -/
def Launchable (o : Outside) (runtime : Protocol.Runtime) (spec : SessionSpec) (task : TaskSpec) :
    Prop :=
  ∃ buildTask process pid, o.driver runtime.kind = some buildTask ∧
    buildTask runtime spec task = .ok process ∧ process.stdoutPipe = .ok () ∧
    process.stderrPipe = .ok () ∧ process.start = .ok pid

theorem launch_isOk_iff {runtime : Protocol.Runtime} {spec : SessionSpec} {request : TaskRequest}
    (hprompt : request.arenaTask = none) :
    (∃ pid, launch o runtime spec request = .ok pid) ↔
      Launchable o runtime spec { taskId := request.taskId, prompt := request.prompt } := by
  have htask : taskSpec o request =
      .ok { taskId := request.taskId, prompt := request.prompt } := by
    unfold taskSpec
    rw [hprompt]
  unfold launch Launchable
  simp only [bind_ok_iff, orMissing_ok_iff, orReject_ok_iff, htask, Except.ok.injEq]
  constructor
  · rintro ⟨pid, buildTask, hdriver, _, rfl, process, hbuild, _, hout, _, herr, hstart⟩
    exact ⟨buildTask, process, pid, hdriver, hbuild, hout, herr, hstart⟩
  · rintro ⟨buildTask, process, pid, hdriver, hbuild, hout, herr, hstart⟩
    exact ⟨pid, buildTask, hdriver, _, rfl, process, hbuild, (), hout, (), herr, hstart⟩

/-- What the initial task asks for. -/
def initialRequest (c : Command) (plan : StartPlan) : TaskRequest :=
  ⟨c.commandId ++ "-initial", plan.initialPrompt, defaultTimeout, none⟩

theorem taskRequest_initial (hprompt : isBlank plan.initialPrompt = false) :
    taskRequest o (initialCommand c) (initialPayload c plan) = .ok (initialRequest c plan) := by
  have hid : c.commandId ++ "-initial" ≠ "" := by
    intro h
    have hlength := congrArg String.length h
    simp at hlength
  unfold taskRequest initialPayload
  rw [if_neg (by simp)]
  simp only [bind_ok_iff, pure_ok_iff, rejectIf_ok_iff]
  refine ⟨(), ?_, (), ?_, ?_⟩
  · rw [if_neg hid]
    simp [hid, hprompt]
  · decide
  · rw [if_neg hid]
    rfl

/-- The initial task finds a session that is ready and owned by the command and has no such task yet,
    on a known runtime, and its process can be launched. -/
def InitialTaskStarts (o : Outside) (c : Command) (plan : StartPlan) (s : Supervisor) : Prop :=
  ∃ current runtime, s.sessions.get c.sessionId = some current ∧
    validateSessionOwnership current c = none ∧ current.status = .ready ∧
    current.tasks.get (c.commandId ++ "-initial") = none ∧
    s.runtimes.get current.runtimeId = some runtime ∧
    Launchable o runtime
      ⟨current.id, current.workingDir, current.resumeToken, current.environment⟩
      { taskId := c.commandId ++ "-initial", prompt := plan.initialPrompt }

theorem startTask_initial (hprompt : isBlank plan.initialPrompt = false) :
    (∃ started, startTask o s (initialCommand c) (.ok (initialPayload c plan)) = .ok started) ↔
      InitialTaskStarts o c plan s := by
  have hlaunch : ∀ (runtime : Protocol.Runtime) (spec : SessionSpec),
      (∃ pid, launch o runtime spec (initialRequest c plan) = .ok pid) ↔
        Launchable o runtime spec
          { taskId := c.commandId ++ "-initial", prompt := plan.initialPrompt } :=
    fun runtime spec => launch_isOk_iff rfl
  unfold startTask InitialTaskStarts
  simp only [bind_ok_iff, pure_ok_iff, orReject_ok_iff, orMissing_ok_iff, rejectIf_ok_iff,
    taskRequest_initial hprompt, checkOwnership_ok_iff, Except.ok.injEq, exists_eq_left', ← hlaunch,
    not_not, Bool.not_eq_true, Option.isSome_eq_false_iff, Option.isNone_iff_eq_none, exists_const]
  constructor
  · rintro ⟨started, current, hget, howned, hready, hfree, runtime, hruntime, -, pid, hpid, -⟩
    exact ⟨current, runtime, hget, howned, hready, hfree, hruntime, pid, hpid⟩
  · rintro ⟨current, runtime, hget, howned, hready, hfree, hruntime, pid, hpid⟩
    refine ⟨⟨runtime.id, initialRequest c plan, pid⟩, current, hget, howned, hready, hfree, runtime,
      hruntime, ?_, pid, hpid, rfl⟩
    rintro ⟨harena, -⟩
    cases harena

/-! ### Checks before a write -/

/-- A session is started under an id that is free, or whose session is stopped. -/
theorem startChecks_ok (h : startChecks o s c = .ok plan) {existing : Session}
    (hget : s.sessions.get c.sessionId = some existing) : existing.status = .stopped := by
  unfold startChecks at h
  simp only [bind_ok_iff, pure_ok_iff, orReject_ok_iff, orMissing_ok_iff, rejectIf_ok_iff] at h
  obtain ⟨payload, -, _, -, _, -, workingDirectory, -, environment, -, _, -, _, hexisting, -⟩ := h
  rw [hget] at hexisting
  unfold checkExisting at hexisting
  simp only [bind_ok_iff, rejectIf_ok_iff, not_not] at hexisting
  obtain ⟨_, -, hstopped⟩ := hexisting
  exact hstopped

theorem ownedSession_ok {current : Session} (h : ownedSession s c = .ok current) :
    s.sessions.get c.sessionId = some current := by
  unfold ownedSession at h
  simp only [bind_ok_iff, pure_ok_iff, orMissing_ok_iff] at h
  obtain ⟨found, hfound, _, -, rfl⟩ := h
  exact hfound

theorem resumeChecks_ok {current : Session} (h : resumeChecks o s c = .ok current) :
    s.sessions.get c.sessionId = some current ∧ current.status = .stopped := by
  unfold resumeChecks at h
  simp only [bind_ok_iff, pure_ok_iff, orReject_ok_iff, rejectIf_ok_iff, not_not] at h
  obtain ⟨_, -, found, hfound, _, hstopped, _, -, rfl⟩ := h
  exact ⟨ownedSession_ok hfound, hstopped⟩

/-- Starting a session changes the table. -/
theorem start_changes (h : startChecks o s c = .ok plan) :
    s.sessions.set c.sessionId (plan.session c) ≠ s.sessions := by
  intro heq
  have hstopped := startChecks_ok h (set_eq_iff.mp heq)
  cases hstopped

/-- Stopping a session changes the table unless it was stopped already. -/
theorem stop_changes_iff {current : Session} (h : ownedSession s c = .ok current) :
    s.sessions.set c.sessionId { current with status := .stopped } = s.sessions ↔
      current.status = .stopped := by
  rw [set_eq_iff, ownedSession_ok h, Option.some.injEq]
  constructor
  · intro heq
    rw [heq]
  · intro hstopped
    cases current
    cases hstopped
    rfl

/-- Resuming a session changes the table. -/
theorem resume_changes {current : Session} (h : resumeChecks o s c = .ok current) :
    s.sessions.set c.sessionId { current with status := .ready } ≠ s.sessions := by
  obtain ⟨hfound, hstopped⟩ := resumeChecks_ok h
  intro heq
  rw [set_eq_iff, hfound, Option.some.injEq] at heq
  rw [heq] at hstopped
  cases hstopped

/-! ### When a rejected command leaves a change -/

/-- The initial task of a session that was just put into the table cannot be started: the session has
    changed before it is dispatched, its process does not launch, or the session has changed when it
    has. -/
def InitialTaskFails (o : Outside) (c : Command) (s : Supervisor) (plan : StartPlan) : Prop :=
  let sessions := o.beforeInitialTask (s.sessions.set c.sessionId (plan.session c))
  isBlank plan.initialPrompt = false ∧
    ¬ (InitialTaskStarts o c plan { s with sessions } ∧ StillReady (o.meanwhile sessions) c)

/-- A session is started, and then its initial task fails or the receipt cannot be saved. -/
def LeavesSession (o : Outside) (c : Command) (s : Supervisor) : Prop :=
  ∃ plan, startChecks o s c = .ok plan ∧ (InitialTaskFails o c s plan ∨ o.saveAck ≠ .ok ())

/-- An active session is stopped, and the receipt cannot be saved. -/
def LeavesStopped (o : Outside) (c : Command) (s : Supervisor) : Prop :=
  ∃ current, ownedSession s c = .ok current ∧ current.status ≠ .stopped ∧ o.saveAck ≠ .ok ()

/-- A session is resumed, and the receipt cannot be saved. -/
def LeavesResumed (o : Outside) (c : Command) (s : Supervisor) : Prop :=
  ∃ current, resumeChecks o s c = .ok current ∧ o.saveAck ≠ .ok ()

/-- A command that is carried out and then rejected. -/
def Leaves (o : Outside) (c : Command) (s : Supervisor) : Prop :=
  (c.commandKind = commandSessionStart ∧ LeavesSession o c s) ∨
    (c.commandKind = commandSessionStop ∧ LeavesStopped o c s) ∨
    (c.commandKind = commandSessionResume ∧ LeavesResumed o c s)

theorem leaves_start_iff (hkind : c.commandKind = commandSessionStart) :
    Leaves o c s ↔ LeavesSession o c s := by
  unfold Leaves
  rw [hkind]
  simp [commandSessionStart, commandSessionStop, commandSessionResume]

theorem leaves_stop_iff (hkind : c.commandKind = commandSessionStop) :
    Leaves o c s ↔ LeavesStopped o c s := by
  unfold Leaves
  rw [hkind]
  simp [commandSessionStart, commandSessionStop, commandSessionResume]

theorem leaves_resume_iff (hkind : c.commandKind = commandSessionResume) :
    Leaves o c s ↔ LeavesResumed o c s := by
  unfold Leaves
  rw [hkind]
  simp [commandSessionStart, commandSessionStop, commandSessionResume]

/-- An acknowledgement is a rejection after it was recorded if it was one, or could not be saved. -/
theorem record_rejected_iff {ack : CommandAck} {inventory : Option (List Protocol.Runtime)}
    (hkey : c.idempotencyKey ≠ "") :
    (record o c ack inventory).ack.status = .rejected ↔
      ack.status = .rejected ∨ o.saveAck ≠ .ok () := by
  unfold record
  rw [if_pos hkey]
  cases hsave : o.saveAck with
  | error err => simp [rejected, newAck]
  | ok u => simp

/-! ### Starting a session -/

theorem mem_dispatchTask_writes {w : Sessions × Sessions} (h : w ∈ call.writes) :
    w ∈ (dispatchTask o c payload trackAck call).2.writes := by
  unfold dispatchTask
  cases startTask o call.supervisor c payload with
  | error rejection => exact h
  | ok started =>
      dsimp only
      cases recheck (call.yield o.meanwhile).sessions c with
      | error rejection => exact h
      | ok current => exact List.mem_append_left _ h

/-- The call with the session in the table. -/
def afterStart (c : Command) (plan : StartPlan) (call : Call) : Call :=
  (call.write fun sessions => sessions.set c.sessionId (plan.session c)).emit c.runtimeId c.sessionId ""
    "session.started"
    [("working_directory", .str plan.workingDirectory), ("binding_epoch", .int c.bindingEpoch)]

/-- A new session's task is dispatched unless it fails. -/
theorem dispatches_initial_iff (hprompt : isBlank plan.initialPrompt = false) :
    Dispatches o (initialCommand c) (.ok (initialPayload c plan))
        ((afterStart c plan call).yield o.beforeInitialTask) ↔
      ¬ InitialTaskFails o c call.supervisor plan := by
  unfold Dispatches InitialTaskFails
  rw [startTask_initial hprompt]
  simp only [hprompt, true_and, not_not]
  exact Iff.rfl

/-- A session that is started is in the table, and the command is rejected when its task fails. -/
theorem startSession_ok (h : startChecks o call.supervisor c = .ok plan) :
    ((startSession o c call).1.status = .rejected ↔ InitialTaskFails o c call.supervisor plan) ∧
      ¬ Untouched (startSession o c call).2 := by
  have hchanged := start_changes h
  have hwrite : (call.sessions, call.sessions.set c.sessionId (plan.session c)) ∈
      (afterStart c plan call).writes :=
    List.mem_append_right _ (List.mem_singleton.mpr rfl)
  have hresult : startSession o c call =
      if isBlank plan.initialPrompt then
        (newAck c .completed "" "managed session created"
          (some (.object [("session_id", .str c.sessionId)])), afterStart c plan call)
      else
        let initial := dispatchTask o (initialCommand c) (.ok (initialPayload c plan)) false
          ((afterStart c plan call).yield o.beforeInitialTask)
        if initial.1.status = .rejected then
          (rejected c (initial.1.code,
            "session created but initial task failed: " ++ initial.1.message), initial.2)
        else
          (newAck c .completed "" "managed session and initial task started"
            (some (.object [("session_id", .str c.sessionId),
              ("task_id", .str (c.commandId ++ "-initial"))])), initial.2) := by
    unfold startSession
    rw [h]
    rfl
  by_cases hprompt : isBlank plan.initialPrompt = true
  · rw [hresult, if_pos hprompt]
    constructor
    · simp [newAck, InitialTaskFails, hprompt]
    · intro huntouched
      exact hchanged (huntouched _ hwrite)
  · have hprompt' : isBlank plan.initialPrompt = false := by simpa using hprompt
    rw [hresult, if_neg hprompt]
    dsimp only
    have hkept : (call.sessions, call.sessions.set c.sessionId (plan.session c)) ∈
        (dispatchTask o (initialCommand c) (.ok (initialPayload c plan)) false
          ((afterStart c plan call).yield o.beforeInitialTask)).2.writes :=
      mem_dispatchTask_writes hwrite
    by_cases hfails : InitialTaskFails o c call.supervisor plan
    · have hnot := (dispatches_initial_iff hprompt').not.mpr (not_not.mpr hfails)
      rw [if_pos (dispatchTask_rejected hnot).1]
      constructor
      · simp [rejected, newAck, hfails]
      · intro huntouched
        exact hchanged (huntouched _ hkept)
    · have haccepted : (dispatchTask o (initialCommand c) (.ok (initialPayload c plan)) false
          ((afterStart c plan call).yield o.beforeInitialTask)).1.status = .accepted :=
        dispatchTask_accepted ((dispatches_initial_iff hprompt').mpr hfails)
      rw [if_neg (by rw [haccepted]; decide)]
      constructor
      · simp [newAck, hfails]
      · intro huntouched
        exact hchanged (huntouched _ hkept)

/-! ### The other handlers -/

/-- A session that is stopped or resumed is written once, and the command is completed. -/
theorem stopSession_ok {current : Session} (h : ownedSession call.supervisor c = .ok current)
    (hwrites : call.writes = []) :
    (stopSession c call).1.status = .completed ∧
      (Untouched (stopSession c call).2 ↔ current.status = .stopped) := by
  have hwritten : (stopSession c call).2.writes =
      [(call.sessions, call.sessions.set c.sessionId { current with status := .stopped })] := by
    unfold stopSession
    rw [h]
    show call.writes ++ _ = _
    rw [hwrites]
    rfl
  constructor
  · unfold stopSession
    rw [h]
    rfl
  · rw [untouched_iff_of_write hwritten]
    exact stop_changes_iff h

theorem resumeSession_ok {current : Session} (h : resumeChecks o call.supervisor c = .ok current)
    (hwrites : call.writes = []) :
    (resumeSession o c call).1.status = .completed ∧ ¬ Untouched (resumeSession o c call).2 := by
  have hwritten : (resumeSession o c call).2.writes =
      [(call.sessions, call.sessions.set c.sessionId { current with status := .ready })] := by
    unfold resumeSession
    rw [h]
    show call.writes ++ _ = _
    rw [hwrites]
    rfl
  constructor
  · unfold resumeSession
    rw [h]
    rfl
  · rw [untouched_iff_of_write hwritten]
    exact resume_changes h

theorem cancelTask_call : (cancelTask o c call).2 = call := by
  unfold cancelTask
  dsimp only
  split <;> rfl

/-! ### A claimed command -/

variable (hkey : c.idempotencyKey ≠ "") (hwrites : call.writes = [])
include hkey hwrites

/-- A claimed command keeps the table when it is rejected, unless it leaves a change. -/
theorem perform_start (hkind : c.commandKind = commandSessionStart) :
    ((perform o c call).1.ack.status = .rejected → Untouched (perform o c call).2) ↔
      ¬ Leaves o c call.supervisor := by
  unfold perform
  rw [if_neg (by rw [hkind]; decide), if_pos hkind, leaves_start_iff hkind]
  dsimp only
  rw [record_rejected_iff hkey]
  unfold LeavesSession
  cases hchecks : startChecks o call.supervisor c with
  | error rejection =>
      have huntouched : Untouched (startSession o c call).2 := by
        unfold startSession
        rw [hchecks]
        exact untouched_of_writes hwrites
      simp [huntouched]
  | ok plan =>
      obtain ⟨hstatus, hleft⟩ := startSession_ok hchecks
      rw [hstatus]
      simp [hleft]

theorem perform_stop (hkind : c.commandKind = commandSessionStop) :
    ((perform o c call).1.ack.status = .rejected → Untouched (perform o c call).2) ↔
      ¬ Leaves o c call.supervisor := by
  unfold perform
  rw [if_neg (by rw [hkind]; decide), if_neg (by rw [hkind]; decide), if_neg (by rw [hkind]; decide),
    if_neg (by rw [hkind]; decide), if_pos hkind, leaves_stop_iff hkind]
  dsimp only
  rw [record_rejected_iff hkey]
  unfold LeavesStopped
  cases hchecks : ownedSession call.supervisor c with
  | error rejection =>
      have huntouched : Untouched (stopSession c call).2 := by
        unfold stopSession
        rw [hchecks]
        exact untouched_of_writes hwrites
      simp [huntouched]
  | ok current =>
      obtain ⟨hstatus, hleft⟩ := stopSession_ok hchecks hwrites
      rw [hstatus, hleft]
      have hcompleted : AckStatus.completed ≠ AckStatus.rejected := by decide
      simp only [hcompleted, false_or, Except.ok.injEq, exists_eq_left', not_and_or, not_not]
      by_cases hstopped : current.status = .stopped
      · simp [hstopped]
      · simp [hstopped]

theorem perform_resume (hkind : c.commandKind = commandSessionResume) :
    ((perform o c call).1.ack.status = .rejected → Untouched (perform o c call).2) ↔
      ¬ Leaves o c call.supervisor := by
  unfold perform
  rw [if_neg (by rw [hkind]; decide), if_neg (by rw [hkind]; decide), if_neg (by rw [hkind]; decide),
    if_neg (by rw [hkind]; decide), if_neg (by rw [hkind]; decide), if_pos hkind,
    leaves_resume_iff hkind]
  dsimp only
  rw [record_rejected_iff hkey]
  unfold LeavesResumed
  cases hchecks : resumeChecks o call.supervisor c with
  | error rejection =>
      have huntouched : Untouched (resumeSession o c call).2 := by
        unfold resumeSession
        rw [hchecks]
        exact untouched_of_writes hwrites
      simp [huntouched]
  | ok current =>
      obtain ⟨hstatus, hleft⟩ := resumeSession_ok hchecks hwrites
      rw [hstatus]
      have hcompleted : AckStatus.completed ≠ AckStatus.rejected := by decide
      simp [hcompleted, hleft]

omit hkey in
/-- The other kinds never leave a change behind a rejection. -/
theorem perform_other (hstart : c.commandKind ≠ commandSessionStart)
    (hstop : c.commandKind ≠ commandSessionStop) (hresume : c.commandKind ≠ commandSessionResume)
    (hrejected : (perform o c call).1.ack.status = .rejected) : Untouched (perform o c call).2 := by
  unfold perform at hrejected ⊢
  rw [if_neg hstart, if_neg hstop, if_neg hresume] at hrejected ⊢
  by_cases hprobe : c.commandKind = commandRuntimeProbe
  · rw [if_pos hprobe]
    exact untouched_of_writes hwrites
  rw [if_neg hprobe] at hrejected ⊢
  by_cases hdispatch : c.commandKind = commandTaskDispatch
  · rw [if_pos hdispatch] at hrejected ⊢
    by_cases hgoes : Dispatches o c (o.decodeDispatchTask c.payload) call
    · have haccepted : (dispatchTask o c (o.decodeDispatchTask c.payload) true call).1.status =
          .accepted := dispatchTask_accepted hgoes
      dsimp only at hrejected
      rw [if_pos haccepted] at hrejected
      dsimp only at hrejected
      rw [haccepted] at hrejected
      cases hrejected
    · have hdispatched : (dispatchTask o c (o.decodeDispatchTask c.payload) true call).1.status =
          .rejected ∧ (dispatchTask o c (o.decodeDispatchTask c.payload) true call).2.writes =
          call.writes := dispatchTask_rejected hgoes
      obtain ⟨hstatus, hkept⟩ := hdispatched
      dsimp only
      rw [if_neg (by rw [hstatus]; decide)]
      exact untouched_of_writes (hkept.trans hwrites)
  rw [if_neg hdispatch] at hrejected ⊢
  by_cases hcancel : c.commandKind = commandTaskCancel
  · rw [if_pos hcancel]
    dsimp only
    rw [cancelTask_call]
    exact untouched_of_writes hwrites
  · rw [if_neg hcancel]
    exact untouched_of_writes hwrites

theorem perform_iff :
    ((perform o c call).1.ack.status = .rejected → Untouched (perform o c call).2) ↔
      ¬ Leaves o c call.supervisor := by
  by_cases hstart : c.commandKind = commandSessionStart
  · exact perform_start hkey hwrites hstart
  by_cases hstop : c.commandKind = commandSessionStop
  · exact perform_stop hkey hwrites hstop
  by_cases hresume : c.commandKind = commandSessionResume
  · exact perform_resume hkey hwrites hresume
  · have hnot : ¬ Leaves o c call.supervisor := by
      unfold Leaves
      simp [hstart, hstop, hresume]
    exact ⟨fun _ => hnot, fun _ => perform_other hwrites hstart hstop hresume⟩

omit hkey hwrites

/-! ### A handled command -/

/-- The supervisor as a call finds it. -/
def found (o : Outside) (s : Supervisor) : Supervisor :=
  { s with sessions := o.earlier s.sessions }

/-- A call gets past the receipts and the validation, carries its command out, and rejects it. -/
structure LeavesChange (o : Outside) (c : Command) (s : Supervisor) : Prop where
  fresh : receiptOf o c = .ok none
  valid : (withSessionId o c).validate o.now = none
  claimed : o.saveClaim = .ok ()
  leaves : Leaves o (withSessionId o c) (found o s)

theorem key_of_valid (h : c.validate o.now = none) : c.idempotencyKey ≠ "" := by
  intro hkey
  unfold Command.validate at h
  by_cases hid : c.commandId = ""
  · rw [if_pos hid] at h
    cases h
  · rw [if_neg hid, if_pos hkey] at h
    cases h

theorem execute_iff (hwrites : call.writes = []) :
    ((execute o c call).1.ack.status = .rejected → Untouched (execute o c call).2) ↔
      ¬ (c.validate o.now = none ∧ o.saveClaim = .ok () ∧ Leaves o c call.supervisor) := by
  unfold execute
  cases hvalid : c.validate o.now with
  | some message => simp [untouched_of_writes hwrites]
  | none =>
      cases hclaim : o.saveClaim with
      | error err => simp [untouched_of_writes hwrites]
      | ok u =>
          dsimp only
          rw [perform_iff (key_of_valid hvalid) hwrites]
          simp

/-- An id for a new session does not make another kind of command of it. -/
theorem commandKind_withSessionId : (withSessionId o c).commandKind = c.commandKind := by
  unfold withSessionId
  by_cases hfresh : c.commandKind = commandSessionStart ∧ c.sessionId = ""
  · rw [if_pos hfresh]
    rfl
  · rw [if_neg hfresh]

/-- What is retried from a receipt is a dispatch, which never leaves a change behind. -/
theorem not_leaves_of_retry {receipt : CommandAck}
    (h : canRetryInterruptedArenaTask o c receipt = true) :
    ¬ Leaves o (withSessionId o c) s := by
  have hkind : c.commandKind = commandTaskDispatch := by
    by_contra hother
    unfold canRetryInterruptedArenaTask at h
    rw [if_pos (Or.inl hother)] at h
    cases h
  unfold Leaves
  rw [commandKind_withSessionId, hkind]
  simp [commandTaskDispatch, commandSessionStart, commandSessionStop, commandSessionResume]

/-- **A rejected call wrote nothing, unless it carried its command out first.** -/
theorem handle_iff (o : Outside) (c : Command) (s : Supervisor) :
    ((handle o c s).1.ack.status = .rejected → Untouched (handle o c s).2) ↔
      ¬ LeavesChange o c s := by
  have hwrites : (Call.mk (found o s) [] []).writes = [] := rfl
  unfold handle
  cases hreceipt : receiptOf o c with
  | error err =>
      have hnot : ¬ LeavesChange o c s := by
        intro h
        rw [h.fresh] at hreceipt
        cases hreceipt
      exact ⟨fun _ => hnot, fun _ _ => untouched_nil⟩
  | ok receipt =>
      cases receipt with
      | some receipt =>
          have hnot : ¬ LeavesChange o c s := by
            intro h
            rw [h.fresh] at hreceipt
            cases hreceipt
          refine ⟨fun _ => hnot, fun _ => ?_⟩
          dsimp only
          by_cases hretry : canRetryInterruptedArenaTask o c receipt = true
          · rw [if_pos hretry]
            refine (execute_iff hwrites).mpr ?_
            rintro ⟨-, -, hleaves⟩
            exact not_leaves_of_retry hretry hleaves
          · rw [if_neg hretry]
            exact fun _ => untouched_nil
      | none =>
          refine (execute_iff hwrites).trans (not_congr ?_)
          constructor
          · rintro ⟨hvalid, hclaimed, hleaves⟩
            exact ⟨hreceipt, hvalid, hclaimed, hleaves⟩
          · intro h
            exact ⟨h.valid, h.claimed, h.leaves⟩

/-! ### The table after a call -/

/-! ### Runs -/

/-- The results of calls made one after another, each with what it finds outside. -/
def run : List (Outside × Command) → Supervisor → List (HandleResult × Call)
  | [], _ => []
  | (o, c) :: rest, s => handle o c s :: run rest (handle o c s).2.supervisor

/-- The calls of a run, with the supervisor each is made on. -/
def inputs : List (Outside × Command) → Supervisor → List (Outside × Command × Supervisor)
  | [], _ => []
  | (o, c) :: rest, s => (o, c, s) :: inputs rest (handle o c s).2.supervisor

/-- **In a run the rejected calls leave the session table alone exactly when no call carries its
    command out and then rejects it.** -/
theorem rejected_untouched_iff : ∀ (calls : List (Outside × Command)) (s : Supervisor),
    (∀ result ∈ run calls s, result.1.ack.status = .rejected → Untouched result.2) ↔
      ∀ input ∈ inputs calls s, ¬ LeavesChange input.1 input.2.1 input.2.2 := by
  intro calls
  induction calls with
  | nil => intro s; simp [run, inputs]
  | cons head rest ih =>
      intro s
      obtain ⟨o, c⟩ := head
      rw [run, inputs, List.forall_mem_cons, List.forall_mem_cons, handle_iff, ih]

namespace Sample

def codex : Protocol.Runtime :=
  ⟨"codex-1", "codex", "ready", "", true, "configured", true, "read_only_ephemeral_schema", true⟩

def start : Command where
  commandId := "command-1"
  bindingId := "binding-1"
  agentId := "agent-1"
  kind := commandSessionStart
  action := ""
  idempotencyKey := "key-1"
  runtimeId := "codex-1"
  sessionId := "session-1"
  bindingEpoch := 1
  expiresAt := some 100
  payload := "start with a prompt"

/-- A machine on which the process of a task does not start, and nothing else goes wrong. -/
def outside : Outside where
  now := 0
  newSessionId := "session-0"
  scan := [codex]
  lookupReceipt := fun _ => .ok none
  saveClaim := .ok ()
  saveAck := .ok ()
  decodeStartSession := fun _ => .ok ⟨"/work", "trade", []⟩
  decodeDispatchTask := fun _ => .error "not a task"
  decodeCancelTask := fun _ => .error "not a task"
  decodeKeys := fun _ => .ok ["working_directory", "initial_prompt"]
  decodeArenaTask := fun _ _ => .error "not a task"
  resolvePath := fun path => .ok path
  isDir := fun _ => .ok true
  pathWithin := fun root path => decide (root = path)
  lookupEnv := fun _ => none
  prepareArenaOutputSchema := fun _ => .error "no schema"
  driver := fun _ => some fun _ _ _ => .ok ⟨.ok (), .ok (), .error "executable file not found"⟩
  earlier := id
  beforeInitialTask := id
  meanwhile := id

def supervisor : Supervisor where
  allowedRoots := ["/work"]
  allowedEnvironment := []
  runtimes := [("codex-1", codex)]
  sessions := []

/-- The process of the initial task does not start: the command is rejected, and its session stays. -/
theorem rejected_start_leaves_session :
    (handle outside start supervisor).1.ack.status = .rejected ∧
      ((handle outside start supervisor).2.sessions.get "session-1").map (·.status) = some .ready ∧
      supervisor.sessions.get "session-1" = none := by
  decide

end Sample

end Supervisor

end Arena402.Connector
