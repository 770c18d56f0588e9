/-
`AutomaticSettlementWorker._execute` over the shared tables, one await at a time.

A worker runs one `_execute` per intent; the database operations it awaits are single
statements, so each is one atomic step on the tables.  Between them anything can happen:
the clock moves on, other workers take their steps, the coordinator and other services
write submissions and reservations.  An awaited operation may also raise without an
effect.

The clock is read where the source reads it: at the start of `_execute`, and again right
before the fence is claimed.  A statement that runs late still uses the instant that was
read.
-/
import Arena402.Game.Settlement

namespace Arena402.Payments.Worker

open Py
open Arena402.Game (SettlementStatus)

/-! ### Tables -/

/-- Where an attempt is. -/
inductive AttemptStatus
  | reserved
  | signed
  | submitting
  | submitted
  | failed
  | unknown
deriving DecidableEq, Repr

/-- The statuses after which `mark_attempt` clears the lease. -/
def AttemptStatus.terminal : AttemptStatus → Bool
  | .submitted | .failed | .unknown => true
  | _ => false

/-- A row of `x402_settlement_attempts`. -/
structure Attempt where
  facilitatorId : Option String
  status : AttemptStatus
  leaseOwner : Option String
  leaseExpiresAt : Option UtcDateTime
deriving DecidableEq, Repr

/-- A row of `facilitator_broadcast_fences`. -/
structure Fence where
  settlementIntentId : String
  leaseOwner : String
  leaseExpiresAt : UtcDateTime
deriving DecidableEq, Repr

/-- What the worker reads and writes of a row of `payment_reservations`. -/
structure ReservationRow where
  status : ReservationStatus
  releaseReason : Option String
deriving DecidableEq, Repr

/-- The tables that the workers share. -/
structure Tables where
  attempts : Dict String Attempt := []
  fences : Dict String Fence := []
  submissions : List String := []
  reservations : Dict String ReservationRow := []
  intents : Dict String SettlementStatus := []
deriving DecidableEq

/-- `lease_seconds` of the source, and the jitter of `_facilitator_retry_delay`. -/
structure LeaseConfig where
  leaseSeconds : Nat
  inRange : 15 ≤ leaseSeconds ∧ leaseSeconds ≤ 600
  retryDelay : String → Nat

/-- When a lease that is taken now expires. -/
def LeaseConfig.expiry (cfg : LeaseConfig) (now : UtcDateTime) : UtcDateTime :=
  now + cfg.leaseSeconds * 1000000

namespace Tables

/-- `claim_attempt`: insert the attempt, or take it over when its lease has expired before
    anything was submitted. -/
def claimAttempt (t : Tables) (cfg : LeaseConfig) (intent facilitator worker : String)
    (now : UtcDateTime) : Tables × Bool :=
  match t.attempts.get intent with
  | none =>
    ({ t with
      attempts := t.attempts.set intent
        { facilitatorId := some facilitator
          status := .reserved
          leaseOwner := some worker
          leaseExpiresAt := some (cfg.expiry now) } }, true)
  | some a =>
    if (a.status = .reserved || a.status = .signed) && a.leaseExpiresAt.any (· < now) &&
        a.facilitatorId.all (· = facilitator) then
      ({ t with
        attempts := t.attempts.set intent
          { a with
            facilitatorId := some (a.facilitatorId.getD facilitator)
            leaseOwner := some worker
            leaseExpiresAt := some (cfg.expiry now) } }, true)
    else (t, false)

/-- `mark_attempt`; `none` is `automatic_payment_lease_lost`. -/
def markAttempt (t : Tables) (intent : String) (status : AttemptStatus) (worker : String) :
    Option Tables :=
  match t.attempts.get intent with
  | none => none
  | some a =>
    if a.leaseOwner = some worker then
      some { t with
        attempts := t.attempts.set intent
          { a with
            status := status
            leaseOwner := if status.terminal then none else a.leaseOwner
            leaseExpiresAt := if status.terminal then none else a.leaseExpiresAt } }
    else none

/-- `defer_attempt`; `none` is `automatic_payment_lease_lost`. -/
def deferAttempt (t : Tables) (intent worker : String) (retryAt : UtcDateTime) :
    Option Tables :=
  match t.attempts.get intent with
  | none => none
  | some a =>
    if a.leaseOwner = some worker && (a.status = .reserved || a.status = .signed) then
      some { t with
        attempts := t.attempts.set intent { a with leaseExpiresAt := some retryAt } }
    else none

/-- An attempt of the facilitator that may have been broadcast and has no submission. -/
def unresolved (t : Tables) (facilitator : String) (e : String × Attempt) : Bool :=
  e.2.facilitatorId = some facilitator &&
    (e.2.status = .submitting || e.2.status = .unknown) && !t.submissions.contains e.1

/-- `claim_facilitator_fence`; `none` is the violation of `UNIQUE (settlement_intent_id)`. -/
def claimFacilitatorFence (t : Tables) (cfg : LeaseConfig)
    (facilitator intent worker : String) (now : UtcDateTime) : Option (Tables × Bool) :=
  if t.attempts.any (t.unresolved facilitator) then some (t, false)
  else if (t.fences.get facilitator).any (fun f => !decide (f.leaseExpiresAt < now)) then
    some (t, false)
  else if t.fences.any (fun e => e.1 ≠ facilitator && e.2.settlementIntentId = intent) then none
  else
    some ({ t with
      fences := t.fences.set facilitator ⟨intent, worker, cfg.expiry now⟩ }, true)

/-- `release_facilitator_fence`; `none` is `facilitator_broadcast_fence_lost`. -/
def releaseFacilitatorFence (t : Tables) (facilitator intent worker : String) :
    Option Tables :=
  match t.fences.get facilitator with
  | none => none
  | some f =>
    if f.settlementIntentId = intent && f.leaseOwner = worker then
      some { t with fences := t.fences.erase facilitator }
    else none

/-- `reserve_mandate`: one reservation per intent, whatever became of it. -/
def reserveMandate (t : Tables) (intent : String) : Tables :=
  match t.reservations.get intent with
  | some _ => t
  | none => { t with reservations := t.reservations.set intent ⟨.reserved, none⟩ }

/-- `release_reservation`; `none` is a `MandateRejected`. -/
def releaseReservation (t : Tables) (intent reason : String) : Option Tables :=
  match t.reservations.get intent with
  | none => none
  | some r =>
    match r.status with
    | .released => if r.releaseReason = some reason then some t else none
    | .reserved =>
      some { t with reservations := t.reservations.set intent ⟨.released, some reason⟩ }
    | _ => none

/-- `fail_settlement`, which is `record_automatic_failure` of the game; `none` is what it
    raises. -/
def failSettlement (t : Tables) (intent : String) : Option Tables :=
  match t.intents.get intent with
  | some .authorizationFailed => some t
  | some .authorizationRequested =>
    some { t with intents := t.intents.set intent .authorizationFailed }
  | _ => none

end Tables

/-! ### One `_execute` -/

/-- The status of an `X402ExecutionResult`. -/
inductive ResultStatus
  | submitted
  | failed
  | unknown
deriving DecidableEq, Repr

/-- What a result makes of the attempt. -/
def ResultStatus.attempt : ResultStatus → AttemptStatus
  | .submitted => .submitted
  | .failed => .failed
  | .unknown => .unknown

/-- The await at which an `_execute` is suspended. -/
inductive Stage
  /-- `active_mandate`. -/
  | mandate
  /-- `fail_settlement` for a missing mandate. -/
  | mandateMissing
  /-- `reserve_mandate`. -/
  | reserve
  /-- `claim_attempt`. -/
  | claim
  /-- `claim_facilitator_fence`, with the instant read for it. -/
  | fence (fenceNow : UtcDateTime)
  /-- `defer_attempt`. -/
  | defer (fenceNow : UtcDateTime)
  /-- `create_payment_payload`. -/
  | sign
  /-- `mark_attempt` with `signed`. -/
  | markSigned
  /-- `mark_attempt` with `submitting`. -/
  | markSubmitting
  /-- `coordinator.execute`. -/
  | execute
  /-- `fail_settlement` after a failed result. -/
  | fail
  /-- `mark_attempt` with the status of the result. -/
  | markResult (result : ResultStatus)
  /-- `release_facilitator_fence` after the result. -/
  | releaseFence
  /-- The handler's `release_facilitator_fence`. -/
  | undoFence
  /-- The handler's `release_reservation`. -/
  | undoReservation
  /-- The handler's `mark_attempt` with `failed`. -/
  | undoAttempt
  /-- The handler's `fail_settlement`. -/
  | undoSettlement
deriving DecidableEq, Repr

/-- One run of `_execute` over an intent. -/
structure Task where
  facilitatorId : String
  now : UtcDateTime
  stage : Stage
deriving DecidableEq, Repr

def Task.at (task : Task) (stage : Stage) : Task :=
  { task with stage := stage }

/-- What a write by the coordinator or by another service does to an intent. -/
inductive Effect
  | reservation (row : ReservationRow)
  | intent (status : SettlementStatus)
  | submission
deriving DecidableEq, Repr

/-- What an outside effect does to the tables. -/
def Tables.effect (t : Tables) (intent : String) : Effect → Tables
  | .reservation row => { t with reservations := t.reservations.set intent row }
  | .intent status => { t with intents := t.intents.set intent status }
  | .submission => { t with submissions := intent :: t.submissions }

/-- What resumes a suspended `_execute`. -/
inductive Input
  /-- The awaited operation runs. -/
  | run
  /-- It raises without an effect. -/
  | error
  /-- `active_mandate` returned. -/
  | mandate (found : Bool)
  /-- `coordinator.execute` writes something, and goes on. -/
  | writes (effect : Effect)
  /-- `coordinator.execute` returned. -/
  | executed (result : ResultStatus)
deriving DecidableEq, Repr

/-- Where an exception leads: the handler compensates while nothing was submitted. -/
def Task.raised (task : Task) : Option Task :=
  match task.stage with
  | .fence _ | .defer _ => some (task.at .undoReservation)
  | .sign | .markSigned | .markSubmitting => some (task.at .undoFence)
  | _ => none

/-- The next stage when the operation succeeded, the exception's when it raised. -/
def resume (t : Tables) (task : Task) (next : Option Task) :
    Option Tables → Tables × Option Task
  | some t' => (t', next)
  | none => (t, task.raised)

/-- One `_execute` of `worker` on `intent` resumed; the task is `none` once it has returned
    or raised. -/
def stepTask (cfg : LeaseConfig) (clock : UtcDateTime) (t : Tables) (worker intent : String)
    (task : Task) : Input → Option (Tables × Option Task)
  | .error => some (t, task.raised)
  | .mandate found =>
    match task.stage with
    | .mandate => some (t, some (task.at (if found then .reserve else .mandateMissing)))
    | _ => none
  | .writes effect =>
    match task.stage with
    | .execute => some (t.effect intent effect, some task)
    | _ => none
  | .executed result =>
    match task.stage with
    | .execute =>
      some (t, some (task.at (if result = .failed then .fail else .markResult result)))
    | _ => none
  | .run =>
    match task.stage with
    | .mandate | .execute => none
    | .mandateMissing => some (resume t task none (t.failSettlement intent))
    | .reserve => some (t.reserveMandate intent, some (task.at .claim))
    | .claim =>
      let claimed := t.claimAttempt cfg intent task.facilitatorId worker task.now
      some (claimed.1, if claimed.2 then some (task.at (.fence clock)) else none)
    | .fence fenceNow =>
      match t.claimFacilitatorFence cfg task.facilitatorId intent worker fenceNow with
      | none => some (t, task.raised)
      | some (t', true) => some (t', some (task.at .sign))
      | some (t', false) => some (t', some (task.at (.defer fenceNow)))
    | .defer fenceNow =>
      some (resume t task none
        (t.deferAttempt intent worker (fenceNow + cfg.retryDelay intent * 1000)))
    | .sign => some (t, some (task.at .markSigned))
    | .markSigned =>
      some (resume t task (some (task.at .markSubmitting)) (t.markAttempt intent .signed worker))
    | .markSubmitting =>
      some (resume t task (some (task.at .execute)) (t.markAttempt intent .submitting worker))
    | .fail => some (resume t task (some (task.at (.markResult .failed))) (t.failSettlement intent))
    | .markResult result =>
      some (resume t task (if result = .unknown then none else some (task.at .releaseFence))
        (t.markAttempt intent result.attempt worker))
    | .releaseFence =>
      some (resume t task none (t.releaseFacilitatorFence task.facilitatorId intent worker))
    | .undoFence =>
      some (resume t task (some (task.at .undoReservation))
        (t.releaseFacilitatorFence task.facilitatorId intent worker))
    | .undoReservation =>
      some (resume t task (some (task.at .undoAttempt))
        (t.releaseReservation intent "automatic_settlement_pre_submission_failed"))
    | .undoAttempt =>
      some (resume t task (some (task.at .undoSettlement)) (t.markAttempt intent .failed worker))
    | .undoSettlement => some (resume t task none (t.failSettlement intent))

/-! ### Many workers -/

/-- The tables, the clock, and the `_execute` each worker runs for each intent.  `held`
    records who has ever claimed which attempt; no code reads it. -/
structure System where
  clock : UtcDateTime
  tables : Tables
  tasks : String → String → Option Task
  held : List (String × String)

/-- No worker has started and no attempt or fence exists. -/
def System.initial (clock : UtcDateTime) (tables : Tables) : System where
  clock := clock
  tables :=
    { tables with
      attempts := []
      fences := [] }
  tasks := fun _ _ => none
  held := []

/-- What happens next. -/
inductive Event
  /-- Time passes. -/
  | tick (microseconds : Nat)
  /-- A worker starts `_execute` for an intent it has prepared. -/
  | start (worker intent facilitator : String)
  /-- A suspended `_execute` is resumed. -/
  | step (worker intent : String) (input : Input)
  /-- The process running an `_execute` dies. -/
  | crash (worker intent : String)
  /-- Another service writes to the intent. -/
  | outside (intent : String) (effect : Effect)
  /-- The recovery of a submission deletes the fence of its attempt. -/
  | dropFence (facilitator intent : String)

def System.setTask (sys : System) (worker intent : String) (task : Option Task) :
    String → String → Option Task :=
  fun w i => if w = worker ∧ i = intent then task else sys.tasks w i

/-- Whether a step is a claim of the attempt that succeeds. -/
def claims (cfg : LeaseConfig) (t : Tables) (worker intent : String) (task : Task) :
    Input → Bool
  | .run =>
    match task.stage with
    | .claim => (t.claimAttempt cfg intent task.facilitatorId worker task.now).2
    | _ => false
  | _ => false

/-- One event. -/
def stepSystem (cfg : LeaseConfig) (sys : System) : Event → Option System
  | .tick d => some { sys with clock := sys.clock + d }
  | .start w i f =>
    match sys.tasks w i with
    | some _ => none
    | none => some { sys with tasks := sys.setTask w i (some ⟨f, sys.clock, .mandate⟩) }
  | .step w i input =>
    match sys.tasks w i with
    | none => none
    | some task =>
      (stepTask cfg sys.clock sys.tables w i task input).map fun next =>
        { sys with
          tables := next.1
          tasks := sys.setTask w i next.2
          held := if claims cfg sys.tables w i task input then (w, i) :: sys.held
            else sys.held }
  | .crash w i => some { sys with tasks := sys.setTask w i none }
  | .outside i effect => some { sys with tables := sys.tables.effect i effect }
  | .dropFence f i =>
    match sys.tables.fences.get f with
    | none => some sys
    | some fence =>
      if fence.settlementIntentId = i then
        some { sys with
          tables := { sys.tables with fences := sys.tables.fences.erase f } }
      else some sys

end Arena402.Payments.Worker
