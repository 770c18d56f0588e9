/-
What the task factory does when it returns, and when it returns.

A key that is known gives its task back, if the snapshot is the same, and nothing is written.
A new key gets the task of the view under a new id, as long as the deadline lies ahead.
-/
import Arena402.Core.TaskFactory
import Arena402.Proofs.Core.Answers

namespace Arena402.ArenaCore

open Py

variable {T : TextTables} {H : Hashes} {s s' : ArenaCore}
variable {taskId agent : String} {view : TaskInput} {config : Config} {now : UtcDateTime}
variable {record : ArenaTaskRecord}

/-- The task of a view has a consistent envelope as soon as the view is valid. -/
theorem wireValid_taskOf (h : view.validate = true) :
    (taskOf H taskId agent view).wireValid H.text = true := by
  unfold ArenaAgentTaskV1.wireValid taskOf
  cases view with
  | decide _ | negotiate _ | marketIntent _ | marketRfq _ | marketSelect _ => simp_all [negotiationIdOf]

/-- A record that a view would recover. -/
structure Matches (H : Hashes) (agent : String) (view : TaskInput) (config : Config)
    (record : ArenaTaskRecord) : Prop where
  kind : record.task.kind = view.kind
  inputHash : record.task.inputHash = H.snapshot view.dump
  configHash : record.configHash = H.snapshot (.dict config)

/-- The record of a new task. -/
def newRecord (H : Hashes) (taskId agent : String) (view : TaskInput) (config : Config)
    (now : UtcDateTime) : ArenaTaskRecord where
  task := taskOf H taskId agent view
  configSnapshot := config
  configHash := H.snapshot (.dict config)
  status := .queued
  createdAt := now

/-- The tables with a new task. -/
def withTask (s : ArenaCore) (record : ArenaTaskRecord) (now : UtcDateTime) : ArenaCore :=
  { s with
    tasks := s.tasks.set record.task.taskId record
    taskByIdempotency := s.taskByIdempotency.set
      (record.task.gameAgentId, record.task.idempotencyKey) record.task.taskId }.appendEvent
    record.task.taskId "created" now [("kind", .str record.task.kind.wire)]

section Returns

variable (hview : secureConfigSnapshot T view.dump = none)
variable (hconfig : secureConfigSnapshot T (.dict config) = none)

include hview hconfig

/-- A matching task is recovered at any time. -/
theorem factory_recovers (hvalid : view.validate = true)
    (hexisting : s.getTaskByIdempotency agent (deriveIdempotencyKey H.text agent view) = some record)
    (hmatch : Matches H agent view config record) :
    s.factoryCreate T H taskId agent view config now = .ok (s, record) := by
  unfold factoryCreate
  rw [hview, hconfig]
  dsimp only
  have hkey : (taskOf H taskId agent view).idempotencyKey
      = deriveIdempotencyKey H.text agent view := rfl
  have hagent : (taskOf H taskId agent view).gameAgentId = agent := rfl
  by_cases hlate : view.deadlineAt ≤ now
  · rw [if_pos hlate, hkey, hexisting]
    dsimp only
    rw [if_neg (by simp [taskOf, hmatch.kind, hmatch.inputHash, hmatch.configHash])]
  · rw [if_neg hlate, if_neg (by simp [wireValid_taskOf hvalid])]
    unfold createTask
    have hdump : (taskOf H taskId agent view).input.dump = view.dump := rfl
    rw [hdump, hview, hconfig]
    dsimp only
    rw [if_neg (by simp [taskOf]), if_neg (by simp), hagent, hkey, hexisting]
    dsimp only
    rw [if_neg (by simp [taskOf, hmatch.kind, hmatch.inputHash, hmatch.configHash])]

/-- A new key gets a task under a new id before the deadline. -/
theorem factory_creates (hvalid : view.validate = true)
    (hnone : s.getTaskByIdempotency agent (deriveIdempotencyKey H.text agent view) = none)
    (hfresh : s.tasks.get taskId = none) (hdeadline : now < view.deadlineAt) :
    s.factoryCreate T H taskId agent view config now
      = .ok (s.withTask (newRecord H taskId agent view config now) now,
        newRecord H taskId agent view config now) := by
  unfold factoryCreate
  rw [hview, hconfig]
  dsimp only
  have hkey : (taskOf H taskId agent view).idempotencyKey
      = deriveIdempotencyKey H.text agent view := rfl
  have hagent : (taskOf H taskId agent view).gameAgentId = agent := rfl
  have hid : (taskOf H taskId agent view).taskId = taskId := rfl
  rw [if_neg (not_le.mpr hdeadline), if_neg (by simp [wireValid_taskOf hvalid])]
  unfold createTask
  have hdump : (taskOf H taskId agent view).input.dump = view.dump := rfl
  rw [hdump, hview, hconfig]
  dsimp only
  rw [if_neg (by simp [taskOf]), if_neg (by simp), hagent, hkey, hnone]
  dsimp only
  rw [hid, hfresh, if_neg (by simp)]
  rfl

end Returns

end Arena402.ArenaCore
