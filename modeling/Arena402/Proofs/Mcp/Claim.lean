/-
What a claim that raises leaves behind.

A claim takes or renews the lease before it looks for the session, and without one it gives the task
back.  `Disturbs` is the call after which the lease is not what it was: it gets the lease, finds no
session, and the task was not simply queued before.
-/
import Arena402.Mcp.Broker
import Arena402.Proofs.Core.ResultSink

namespace Arena402.Mcp

open Py

variable {sha256 : String → String} {broker : ArenaTaskBroker} {tables : Tables}
variable {principal : ExecutionTokenClaims} {listed : Except McpError (List GatewayBinding)}
variable {binding : GatewayBinding} {taskId : String} {now : Readings} {row : TaskRow}

/-! ### What is claimed -/

/-- The status, the lease owner and the lease expiry of a task. -/
def Tables.columns (tables : Tables) (taskId : String) :
    Option (TaskStatus × Option String × Option UtcDateTime) :=
  (tables.tasks.get taskId).map fun row =>
    (row.lease.status, row.lease.leasedBy, row.lease.leaseExpiresAt)

/-- If the call raises, the task is as it was. -/
def RaisesUnchanged (sha256 : String → String) (broker : ArenaTaskBroker) (tables : Tables)
    (principal : ExecutionTokenClaims) (listed : Except McpError (List GatewayBinding))
    (taskId : String) (now : Readings) : Prop :=
  ∀ e, (claim sha256 broker tables principal listed taskId now).2 = .error e →
    (claim sha256 broker tables principal listed taskId now).1.columns taskId = tables.columns taskId

/-- The lease is afterwards as it was: the task was queued and is given back before its deadline, or
    the worker had a live lease and the deadline comes before the release. -/
def Restored (workerId : String) (row : TaskRow) (now : Readings) : Prop :=
  (row.lease = .queued ∧ row.task.deadlineAt > now.released) ∨
    ∃ expiresAt, row.lease = .leased workerId expiresAt ∧ expiresAt > now.kept ∧
      row.task.deadlineAt ≤ now.released

/-- The call gets a lease that it cannot restore, and finds no session. -/
def Disturbs (sha256 : String → String) (tables : Tables) (principal : ExecutionTokenClaims)
    (listed : Except McpError (List GatewayBinding)) (taskId : String) (now : Readings) : Prop :=
  requireScope principal "task:claim" = .ok () ∧ Tables.checkTaskId taskId = .ok () ∧
    ∃ binding, bindingFor principal listed = .ok binding ∧ binding.sessionId = "" ∧
      ∃ row, tables.candidate taskId principal.bindingId principal.bindingEpoch
          (principal.workerId sha256) now = some row ∧
        ¬ Restored (principal.workerId sha256) row now

/-! ### Checks -/

theorem checkBinding_ok (principal : ExecutionTokenClaims) :
    Tables.checkBinding principal.bindingId principal.bindingEpoch = .ok () := by
  have hid : ¬ (principal.bindingId = "" ∨ principal.bindingId.length > 256) := by
    rintro (hempty | hlong)
    · exact principal.bindingIdGiven hempty
    · exact absurd principal.bindingIdLength (Nat.not_le.mpr hlong)
  have hepoch : ¬ principal.bindingEpoch < 1 := Nat.not_lt.mpr principal.epochPositive
  rw [Tables.checkBinding, if_neg hid, if_neg hepoch]

theorem checkWorker_ok (sha256 : String → String) (principal : ExecutionTokenClaims) :
    Tables.checkWorker (principal.workerId sha256) = .ok () := by
  have hlength : (principal.workerId sha256).length ≤ 36 := by
    have htake : ∀ cs : List Char, (String.ofList (cs.take 32)).length ≤ 32 := by
      intro cs
      rw [String.length_ofList, List.length_take]
      exact Nat.min_le_left _ _
    have hprefix : "mcp-".length = 4 := by decide
    unfold ExecutionTokenClaims.workerId
    rw [String.length_append, hprefix]
    exact Nat.add_le_add_left (htake _) 4
  have hlow : 4 ≤ (principal.workerId sha256).length := by
    unfold ExecutionTokenClaims.workerId
    rw [String.length_append]
    exact Nat.le_add_right _ _
  have hid : ¬ (principal.workerId sha256 = "" ∨ (principal.workerId sha256).length > 200) := by
    rintro (hempty | hlong)
    · rw [hempty] at hlow
      exact absurd hlow (by decide)
    · omega
  rw [Tables.checkWorker, if_neg hid]

/-! ### Leases -/

theorem TaskLease.ext_columns {a b : TaskLease} (hstatus : a.status = b.status)
    (howner : a.leasedBy = b.leasedBy) (hexpiry : a.leaseExpiresAt = b.leaseExpiresAt) : a = b := by
  cases a <;> cases b <;> simp_all [TaskLease.status, TaskLease.leasedBy, TaskLease.leaseExpiresAt]

theorem get_setLease (lease : TaskLease) :
    (tables.setLease taskId row lease).tasks.get taskId = some { row with lease } :=
  Dict.get_set_self _ _ _

/-- The columns are what they were exactly if the lease is. -/
theorem columns_setLease_iff {tables' : Tables} (hrow : tables.tasks.get taskId = some row)
    {row' : TaskRow} (hrow' : tables'.tasks.get taskId = some row') :
    tables'.columns taskId = tables.columns taskId ↔ row'.lease = row.lease := by
  rw [Tables.columns, Tables.columns, hrow, hrow', Option.map_some, Option.map_some]
  constructor
  · intro h
    have hcolumns := Option.some.inj h
    exact TaskLease.ext_columns (congrArg (·.1) hcolumns) (congrArg (·.2.1) hcolumns)
      (congrArg (·.2.2) hcolumns)
  · intro h
    rw [h]

theorem leaseFor_leased (workerId : String) (leaseSeconds : Nat) (now : Readings)
    (lease : TaskLease) :
    ∃ expiresAt, Tables.leaseFor workerId leaseSeconds now lease = .leased workerId expiresAt := by
  cases lease with
  | leased owner expiresAt =>
      rw [Tables.leaseFor]
      split <;> exact ⟨_, rfl⟩
  | _ => exact ⟨_, rfl⟩

theorem lt_granted {kept granted : Int} {leaseSeconds : Nat} (hordered : kept ≤ granted)
    (hpositive : 1 ≤ leaseSeconds) : kept < granted + leaseSeconds * 1000000 := by
  omega

/-- A claim leaves the lease as it was only if the worker had a live one. -/
theorem leaseFor_eq_self_iff {workerId : String} {leaseSeconds : Nat} (hpositive : 1 ≤ leaseSeconds)
    {lease : TaskLease} : Tables.leaseFor workerId leaseSeconds now lease = lease ↔
      ∃ expiresAt, lease = .leased workerId expiresAt ∧ expiresAt > now.kept := by
  have hgrant : now.kept < now.granted + (leaseSeconds : Int) * 1000000 :=
    lt_granted now.ordered hpositive
  cases lease with
  | leased owner expiresAt =>
      rw [Tables.leaseFor]
      by_cases hlive : owner = workerId ∧ expiresAt > now.kept
      · rw [if_pos hlive, hlive.1]
        exact ⟨fun _ => ⟨expiresAt, rfl, hlive.2⟩, fun _ => rfl⟩
      · rw [if_neg hlive]
        constructor
        · intro h
          injection h with howner hexpiry
          refine absurd ⟨howner.symm, ?_⟩ hlive
          rw [← hexpiry]
          exact hgrant
        · rintro ⟨expiresAt', heq, hkept⟩
          injection heq with howner hexpiry
          exact absurd ⟨howner, hexpiry ▸ hkept⟩ hlive
  | queued | running _ _ | completed | defaulted | cancelled => simp [Tables.leaseFor]

/-! ### One claim -/

theorem candidate_row {workerId : String}
    (h : tables.candidate taskId principal.bindingId principal.bindingEpoch workerId now = some row) :
    tables.tasks.get taskId = some row :=
  (Option.filter_eq_some_iff.mp h).1

theorem claimConnectorTask_eq (hid : Tables.checkTaskId taskId = .ok ()) :
    tables.claimConnectorTask taskId principal.bindingId principal.bindingEpoch
        (principal.workerId sha256) broker.leaseSeconds now =
      match tables.candidate taskId principal.bindingId principal.bindingEpoch
          (principal.workerId sha256) now with
      | none => .ok (tables, none)
      | some row =>
        let lease := Tables.leaseFor (principal.workerId sha256) broker.leaseSeconds now row.lease
        .ok (tables.setLease taskId row lease, some
          { task := row.task, connectorBindingId := principal.bindingId
            connectorBindingEpoch := principal.bindingEpoch, lease }) := by
  have hlease : ¬ (broker.leaseSeconds < 1 ∨ broker.leaseSeconds > 600) := by
    have := broker.atLeast
    have := broker.atMost
    omega
  unfold Tables.claimConnectorTask
  rw [hid, checkBinding_ok, checkWorker_ok, if_neg hlease]
  rfl

/-- Until the lease is taken nothing changes. -/
theorem claim_unchanged
    (h : ∀ binding, requireScope principal "task:claim" = .ok () → Tables.checkTaskId taskId = .ok () →
      bindingFor principal listed = .ok binding →
        tables.candidate taskId principal.bindingId principal.bindingEpoch
          (principal.workerId sha256) now = none) :
    (claim sha256 broker tables principal listed taskId now).1 = tables := by
  unfold claim
  cases hscope : requireScope principal "task:claim" with
  | error e => rfl
  | ok _ =>
      cases hbinding : bindingFor principal listed with
      | error e => rfl
      | ok binding =>
          dsimp only
          cases hid : Tables.checkTaskId taskId with
          | error e =>
              rw [Tables.claimConnectorTask, hid]
              rfl
          | ok _ =>
              rw [claimConnectorTask_eq hid, h binding hscope hid hbinding]
              dsimp only
              rw [Tables.getConnectorTaskRoute, hid]
              dsimp only [bind, Except.bind]
              split
              · rfl
              · rfl
              · split <;> rfl

/-- A lease that was taken without a session is given back before the deadline. -/
theorem claim_without_session (broker : ArenaTaskBroker)
    (hscope : requireScope principal "task:claim" = .ok ())
    (hid : Tables.checkTaskId taskId = .ok ()) (hbinding : bindingFor principal listed = .ok binding)
    (hrow : tables.candidate taskId principal.bindingId principal.bindingEpoch
      (principal.workerId sha256) now = some row) (hsession : binding.sessionId = "") :
    (∃ e, (claim sha256 broker tables principal listed taskId now).2 = .error e) ∧
      (claim sha256 broker tables principal listed taskId now).1.tasks.get taskId = some { row with
        lease := if row.task.deadlineAt > now.released then .queued
          else Tables.leaseFor (principal.workerId sha256) broker.leaseSeconds now row.lease } := by
  obtain ⟨expiresAt, hlease⟩ :=
    leaseFor_leased (principal.workerId sha256) broker.leaseSeconds now row.lease
  unfold claim
  rw [hscope, hbinding]
  dsimp only
  rw [claimConnectorTask_eq hid, hrow]
  dsimp only
  rw [if_pos hsession, Tables.releaseConnectorTask, hid, checkWorker_ok, hlease]
  simp only [bind, Except.bind, get_setLease, true_and]
  by_cases hdeadline : row.task.deadlineAt > now.released
  · rw [if_pos hdeadline, if_pos hdeadline]
    exact ⟨⟨_, rfl⟩, get_setLease _⟩
  · rw [if_neg hdeadline, if_neg hdeadline]
    exact ⟨⟨_, rfl⟩, get_setLease _⟩

/-- With a session the call returns. -/
theorem claim_with_session (broker : ArenaTaskBroker)
    (hscope : requireScope principal "task:claim" = .ok ())
    (hid : Tables.checkTaskId taskId = .ok ()) (hbinding : bindingFor principal listed = .ok binding)
    (hrow : tables.candidate taskId principal.bindingId principal.bindingEpoch
      (principal.workerId sha256) now = some row) (hsession : ¬ binding.sessionId = "") :
    ∃ claimed, (claim sha256 broker tables principal listed taskId now).2 = .ok claimed := by
  unfold claim
  rw [hscope, hbinding]
  dsimp only
  rw [claimConnectorTask_eq hid, hrow]
  dsimp only
  rw [if_neg hsession]
  exact ⟨_, rfl⟩

/-- The lease is what it was exactly if it was restored. -/
theorem restored_iff : (if row.task.deadlineAt > now.released then TaskLease.queued
    else Tables.leaseFor (principal.workerId sha256) broker.leaseSeconds now row.lease) = row.lease ↔
      Restored (principal.workerId sha256) row now := by
  unfold Restored
  by_cases hdeadline : row.task.deadlineAt > now.released
  · rw [if_pos hdeadline]
    constructor
    · intro h
      exact Or.inl ⟨h.symm, hdeadline⟩
    · rintro (⟨hqueued, -⟩ | ⟨_, -, -, hpast⟩)
      · exact hqueued.symm
      · exact absurd hdeadline (not_lt.mpr hpast)
  · rw [if_neg hdeadline, leaseFor_eq_self_iff broker.atLeast]
    constructor
    · rintro ⟨expiresAt, hlease, hlive⟩
      exact Or.inr ⟨expiresAt, hlease, hlive, not_lt.mp hdeadline⟩
    · rintro (⟨-, hfuture⟩ | ⟨expiresAt, hlease, hlive, -⟩)
      · exact absurd hfuture hdeadline
      · exact ⟨expiresAt, hlease, hlive⟩

/-- **A claim that raises leaves the task as it was exactly if it does not disturb a lease: take one
    that it cannot restore, and then find no session.** -/
theorem raisesUnchanged_iff (sha256 : String → String) (broker : ArenaTaskBroker) (tables : Tables)
    (principal : ExecutionTokenClaims) (listed : Except McpError (List GatewayBinding))
    (taskId : String) (now : Readings) :
    RaisesUnchanged sha256 broker tables principal listed taskId now ↔
      ¬ Disturbs sha256 tables principal listed taskId now := by
  constructor
  · rintro hclaim ⟨hscope, hid, binding, hbinding, hsession, row, hrow, hnot⟩
    obtain ⟨⟨e, hraises⟩, hafter⟩ :=
      claim_without_session broker hscope hid hbinding hrow hsession
    have hcolumns := hclaim e hraises
    rw [columns_setLease_iff (candidate_row hrow) hafter] at hcolumns
    exact hnot (restored_iff.mp hcolumns)
  · intro hnot e hraises
    by_cases htaken : ∃ binding row, requireScope principal "task:claim" = .ok () ∧
        Tables.checkTaskId taskId = .ok () ∧ bindingFor principal listed = .ok binding ∧
        tables.candidate taskId principal.bindingId principal.bindingEpoch
          (principal.workerId sha256) now = some row
    · obtain ⟨binding, row, hscope, hid, hbinding, hrow⟩ := htaken
      by_cases hsession : binding.sessionId = ""
      · obtain ⟨-, hafter⟩ :=
          claim_without_session broker hscope hid hbinding hrow hsession
        rw [columns_setLease_iff (candidate_row hrow) hafter, restored_iff]
        by_contra hlost
        exact hnot ⟨hscope, hid, binding, hbinding, hsession, row, hrow, hlost⟩
      · obtain ⟨claimed, hreturns⟩ :=
          claim_with_session broker hscope hid hbinding hrow hsession
        rw [hreturns] at hraises
        cases hraises
    · have hsame : (claim sha256 broker tables principal listed taskId now).1 = tables := by
        refine claim_unchanged fun binding hscope hid hbinding => ?_
        by_contra hsome
        obtain ⟨row, hrow⟩ := Option.ne_none_iff_exists'.mp hsome
        exact htaken ⟨binding, row, hscope, hid, hbinding, hrow⟩
      rw [hsame]

/-! ### A worker that claims again -/

namespace Example

def gateway : ArenaTaskBroker where
  leaseSeconds := 600
  atLeast := by decide
  atMost := by decide

def worker : ExecutionTokenClaims where
  deviceId := "device-1"
  bindingId := "binding-1"
  bindingEpoch := 1
  scopes := ["task:claim", "task:read"]
  bindingIdGiven := by decide
  bindingIdLength := by decide
  epochPositive := Nat.one_pos

/-- The worker holds the lease until 40, and the task ends at 50. -/
def heldTask : TaskRow where
  task := ArenaCore.taskOf ArenaCore.Messages.hashes "task-1" "agent-1"
    (.negotiate ArenaCore.Messages.negotiateView)
  runtimeBindingId := "runtime-1"
  lease := .leased (worker.workerId fun _ => "worker") 40

def held : Tables where
  tasks := [("task-1", heldTask)]
  bindings := [("runtime-1",
    { kind := .connector "binding-1" 1, routeStatus := .ready, disabledAt := none })]

/-- The binding has lost its session. -/
def unready : Except McpError (List GatewayBinding) :=
  .ok [{ bindingId := "binding-1", bindingEpoch := 1, agentId := "agent-1", runtimeId := "codex",
         lastSessionId := none }]

def readings : Readings where
  deadline := 10
  expiry := 10
  kept := 10
  granted := 10
  released := 11
  ordered := Int.le_refl 10

end Example

/-- The worker that runs the task claims it again, and any other worker can have it. -/
theorem repeated_claim_gives_task_away :
    (¬ ∀ sha256 broker tables principal listed taskId now,
      RaisesUnchanged sha256 broker tables principal listed taskId now) ∧
    Example.held.dispatchable "task-1" 12 = false ∧
    (claim (fun _ => "worker") Example.gateway Example.held Example.worker Example.unready "task-1"
      Example.readings).1.dispatchable "task-1" 12 = true := by
  refine ⟨?_, by decide, by decide⟩
  intro hclaim
  have hraises : (claim (fun _ => "worker") Example.gateway Example.held Example.worker
      Example.unready "task-1" Example.readings).2.toOption.isNone = true := by decide
  have hcolumns : (claim (fun _ => "worker") Example.gateway Example.held Example.worker
      Example.unready "task-1" Example.readings).1.columns "task-1" ≠
        Example.held.columns "task-1" := by decide
  cases houtcome : (claim (fun _ => "worker") Example.gateway Example.held Example.worker
      Example.unready "task-1" Example.readings).2 with
  | ok claimed =>
      rw [houtcome] at hraises
      cases hraises
  | error e => exact hcolumns (hclaim _ _ _ _ _ _ _ e houtcome)

end Arena402.Mcp
