/-
`AutomaticSettlementWorker.run_once`: one scan of the ambiguous submissions and of the authorization
targets.

The scan has three parts.  The recovery is a plain loop, the preparations are gathered with their
exceptions, and the settlements of one facilitator are executed one after another in its own queue,
the queues side by side.  A queue goes on by one port call at a time; in which order the queues do is
a schedule, and every width of the semaphore allows some of the schedules.

The tables are shared.  Most ports read and write only what is a settlement's own, its reservation
and its facilitator's rows, so they are parameters that act on these rows.  What two settlements of
different facilitators share is what `reserve_mandate` adds up: the outstanding reservations of a
buyer and of a mandate.  That port is written out.  What a call wrote before it raised stays written.
-/
import Arena402.Lib.Async
import Arena402.Lib.Method
import Arena402.Payments.Models

namespace Arena402.Payments.Scan

open Py Async

/-! ### Tables -/

/-- What is read and written of a row of `payment_reservations`. -/
structure Reservation where
  mandateId : String
  buyerParticipantId : String
  intentHash : String
  amountAtomic : Nat
  payee : String
  status : ReservationStatus
deriving DecidableEq, Repr

/-- `status IN ('reserved', 'submitted')`. -/
def Reservation.isOutstanding (r : Reservation) : Bool :=
  r.status = .reserved || r.status = .submitted

/-- A settlement's own rows `σ`, which are its intent, its attempt and its submission with what the
    services outside answer about it; a facilitator's rows `φ`, which are its fence and the attempts
    that a fence waits for; and the reservations, one per settlement. -/
structure Tables (σ φ : Type) where
  own : String → σ
  facilitators : String → φ
  reservations : Dict String Reservation := []

/-- The rows that a port works on when it is called for a settlement. -/
structure Rows (σ φ : Type) where
  own : σ
  facilitator : φ
  reservation : Option ReservationStatus

namespace Tables

variable {σ φ : Type}

/-- The rows of a settlement at a facilitator. -/
def rowsOf (t : Tables σ φ) (id facilitatorId : String) : Rows σ φ where
  own := t.own id
  facilitator := t.facilitators facilitatorId
  reservation := (t.reservations.get id).map (·.status)

/-- What a port leaves of the rows; it may give the reservation another status. -/
def write (t : Tables σ φ) (id facilitatorId : String) (rows : Rows σ φ) : Tables σ φ where
  own := Function.update t.own id rows.own
  facilitators := Function.update t.facilitators facilitatorId rows.facilitator
  reservations := t.reservations.update (fun key _ => key = id) fun r =>
    { r with status := rows.reservation.getD r.status }

end Tables

/-! ### Ports -/

/-- The status of an `X402ExecutionResult`. -/
inductive ExecutionStatus
  | submitted
  | failed
  | unknown
deriving DecidableEq, Repr

/-- What the executor answers. -/
structure ExecutionResult where
  status : ExecutionStatus
  errorReason : Option String := none

/-- The statuses that `mark_attempt` is called with. -/
inductive MarkedStatus
  | signed (payloadDigest : String)
  | submitting
  | result (status : ExecutionStatus) (safeErrorCode : Option String)
  | failed (safeErrorCode : String)

/-- What `reserve_mandate` reads of the frozen intent, of the buyer's balance and of the mandate. -/
structure ReservationFacts where
  buyerParticipantId : String
  cashAtomic : Int
  /-- What `_validate_mandate_row` finds before the cumulative limit. -/
  invalid : Option String
  /-- `consumed_atomic`, and what `reserved_atomic` has besides the outstanding reservations: each
      statement that inserts or finalizes a reservation moves the column in its transaction. -/
  consumedAtomic : Int
  maxCumulativeAtomic : Int

/-- The source, the payment repository, the signer, the coordinator and the recovery reader. -/
structure Ports (σ φ Requirement Mandate Payload : Type) where
  settlementTerms : σ → Except String SettlementTerms
  paymentRequired : SettlementTerms → Except String Requirement
  facilitatorId : Requirement → Except String String
  /-- Whether the query for authorization targets lists a settlement. -/
  isTarget : σ → Bool
  /-- The facilitator of the attempt, for its fence. -/
  attemptFacilitator : σ → Option String
  findTransactionForAuthorization : SettlementTerms → Method (Rows σ φ) (Option String)
  recordRecoveredSubmission : String → Method (Rows σ φ) Unit
  activeMandate : Method (Rows σ φ) (Option Mandate)
  mandateId : Mandate → String
  /-- What `reserve_mandate` reads before its sums; it raises what is wrong with these rows. -/
  reservationFacts : σ → String → SettlementTerms → Except String ReservationFacts
  claimAttempt : Requirement → Method (Rows σ φ) Bool
  claimFacilitatorFence : Method (Rows σ φ) Bool
  deferAttempt : Method (Rows σ φ) Unit
  createPaymentPayload : Requirement → Mandate → SettlementTerms → Method (Rows σ φ) Payload
  payloadDigest : Payload → String
  markAttempt : MarkedStatus → Method (Rows σ φ) Unit
  execute : SettlementTerms → Mandate → Payload → Method (Rows σ φ) ExecutionResult
  failSettlement : String → Method (Rows σ φ) Unit
  releaseFacilitatorFence : Method (Rows σ φ) Unit
  releaseReservation : String → Method (Rows σ φ) Unit

variable {σ φ Requirement Mandate Payload : Type}
  (ports : Ports σ φ Requirement Mandate Payload)

/-! ### Reservations -/

/-- The sum over the outstanding reservations of a buyer. -/
def outstandingOf (buyer : String) (reservations : Dict String Reservation) : Int :=
  Dict.total (fun _ r => if r.isOutstanding ∧ r.buyerParticipantId = buyer then r.amountAtomic else 0)
    reservations

/-- The sum over the outstanding reservations of a mandate. -/
def reservedUnder (mandateId : String) (reservations : Dict String Reservation) : Int :=
  Dict.total (fun _ r => if r.isOutstanding ∧ r.mandateId = mandateId then r.amountAtomic else 0)
    reservations

/-- The limits of `reserve_mandate` and the checks between them. -/
def ReservationFacts.refusal (facts : ReservationFacts) (mandateId : String)
    (terms : SettlementTerms) (reservations : Dict String Reservation) : Option String :=
  if facts.cashAtomic <
      outstandingOf facts.buyerParticipantId reservations + terms.amountAtomic then
    some "buyer_cash_reservation_limit"
  else
    match facts.invalid with
    | some e => some e
    | none =>
      if facts.maxCumulativeAtomic <
          reservedUnder mandateId reservations + facts.consumedAtomic + terms.amountAtomic then
        some "mandate_cumulative_limit"
      else none

namespace Tables

/-- The reservation that `reserve_mandate` gives a settlement: the one it has, or a new one. -/
def reservationFor (t : Tables σ φ) (id mandateId : String) (terms : SettlementTerms) :
    Except String Reservation :=
  match t.reservations.get id with
  | some r =>
    if r.mandateId ≠ mandateId || r.intentHash ≠ terms.intentHash ||
        r.amountAtomic ≠ terms.amountAtomic || r.payee ≠ terms.payee then
      .error "reservation_intent_conflict"
    else .ok r
  | none =>
    match ports.reservationFacts (t.own id) mandateId terms with
    | .error e => .error e
    | .ok facts =>
      match facts.refusal mandateId terms t.reservations with
      | some e => .error e
      | none =>
        .ok
          { mandateId
            buyerParticipantId := facts.buyerParticipantId
            intentHash := terms.intentHash
            amountAtomic := terms.amountAtomic
            payee := terms.payee
            status := .reserved }

/-- `reserve_mandate`: one transaction. -/
def reserveMandate (t : Tables σ φ) (id mandateId : String) (terms : SettlementTerms) :
    Tables σ φ × Except String Unit :=
  match t.reservationFor ports id mandateId terms with
  | .error e => (t, .error e)
  | .ok r => ({ t with reservations := t.reservations.set id r }, .ok ())

end Tables

/-! ### The calls of one settlement -/

/-- A port call on the settlement's rows, or `reserve_mandate`. -/
inductive Act (σ φ : Type)
  | port (change : Rows σ φ → Rows σ φ)
  | reserveMandate (mandateId : String) (terms : SettlementTerms)

/-- A port call gives back the rows that it found, from which its value is computed. -/
def Act.Reply : Act σ φ → Type
  | .port _ => Rows σ φ
  | .reserveMandate _ _ => Unit

/-- A call for a settlement in the queue of a facilitator. -/
def Tables.perform (t : Tables σ φ) (id facilitatorId : String) :
    (act : Act σ φ) → Tables σ φ × Except String act.Reply
  | .port change =>
    (t.write id facilitatorId (change (t.rowsOf id facilitatorId)), .ok (t.rowsOf id facilitatorId))
  | .reserveMandate mandateId terms => t.reserveMandate ports id mandateId terms

/-- A coroutine of the worker. -/
abbrev Coroutine (σ φ α : Type) := Prog (Act σ φ) Act.Reply String α

/-- `await` of a port. -/
def await {α : Type} (m : Method (Rows σ φ) α) : Coroutine σ φ α :=
  .call (.port m.after) fun reply =>
    match reply with
    | .ok rows =>
      match m.result rows with
      | .ok value => .ret value
      | .error e => .raise e
    | .error e => .raise e

/-- `_PreparedSettlement` -/
structure PreparedSettlement (Requirement : Type) where
  settlementIntentId : String
  terms : SettlementTerms
  paymentRequired : Requirement
  facilitatorId : String

/-- `_prepare`, which only reads. -/
def prepare (t : Tables σ φ) (id : String) : Except String (PreparedSettlement Requirement) := do
  let terms ← ports.settlementTerms (t.own id)
  let paymentRequired ← ports.paymentRequired terms
  let facilitatorId ← ports.facilitatorId paymentRequired
  return ⟨id, terms, paymentRequired, facilitatorId⟩

/-- The body of the loop of `_recover_ambiguous_submissions`. -/
def recover : Method (Rows σ φ) Unit := do
  let terms ← Method.check (ports.settlementTerms (← get).own)
  match ← ports.findTransactionForAuthorization terms with
  | none => return ()
  | some txHash => ports.recordRecoveredSubmission txHash

/-- The handler of `_execute` while nothing can have been submitted; it raises again. -/
def compensate (fenceClaimed : Bool) (e : String) : Coroutine σ φ Unit := do
  if fenceClaimed then await ports.releaseFacilitatorFence
  await (ports.releaseReservation "automatic_settlement_pre_submission_failed")
  await (ports.markAttempt (.failed "automatic_settlement_failed"))
  await (ports.failSettlement "automatic_settlement_failed")
  .raise e

/-- The signature and the two marks before the submission. -/
def sign (p : PreparedSettlement Requirement) (mandate : Mandate) : Coroutine σ φ Payload := do
  let payload ← await (ports.createPaymentPayload p.paymentRequired mandate p.terms)
  await (ports.markAttempt (.signed (ports.payloadDigest payload)))
  await (ports.markAttempt .submitting)
  return payload

/-- The submission, whose exceptions are not compensated. -/
def submit (p : PreparedSettlement Requirement) (mandate : Mandate) (payload : Payload) :
    Coroutine σ φ Unit := do
  let result ← await (ports.execute p.terms mandate payload)
  if result.status = .failed then
    await (ports.failSettlement (result.errorReason.getD "automatic_settlement_failed"))
  await (ports.markAttempt (.result result.status result.errorReason))
  if result.status ≠ .unknown then await ports.releaseFacilitatorFence

/-- The part of `_execute` behind the claim of the attempt. -/
def executeClaimed (p : PreparedSettlement Requirement) (mandate : Mandate) :
    Coroutine σ φ Unit := do
  match ← (await ports.claimFacilitatorFence).attempt with
  | .error e => compensate ports false e
  | .ok false =>
    match ← (await ports.deferAttempt).attempt with
    | .error e => compensate ports false e
    | .ok () => return ()
  | .ok true =>
    match ← (sign ports p mandate).attempt with
    | .error e => compensate ports true e
    | .ok payload => submit ports p mandate payload

/-- `_execute` -/
def execute (p : PreparedSettlement Requirement) : Coroutine σ φ Unit := do
  match ← await ports.activeMandate with
  | none => await (ports.failSettlement "payment_mandate_not_active")
  | some mandate =>
    Prog.perform (Act.reserveMandate (ports.mandateId mandate) p.terms)
    if ← await (ports.claimAttempt p.paymentRequired) then executeClaimed ports p mandate

/-! ### The recovery -/

/-- What the loop over the ambiguous submissions leaves: the tables, the submissions that it took up
    and what it raised. -/
structure Recovery (σ φ : Type) where
  tables : Tables σ φ
  taken : List String := []
  returned : List String := []
  error : Option String := none

/-- `_recover_ambiguous_submissions`: a loop that the first exception leaves. -/
def recoverAll : List String → Tables σ φ → Recovery σ φ
  | [], t => { tables := t }
  | id :: rest, t =>
    let facilitatorId := (ports.attemptFacilitator (t.own id)).getD ""
    let rows := t.rowsOf id facilitatorId
    let t := t.write id facilitatorId ((recover ports).after rows)
    match (recover ports).result rows with
    | .error e => { tables := t, taken := [id], error := some e }
    | .ok () =>
      let others := recoverAll rest t
      { others with taken := id :: others.taken, returned := id :: others.returned }

/-! ### The queues -/

/-- `execute_queue`: between two settlements, in one of them, or left by its exception. -/
inductive Queue (σ φ Requirement : Type)
  | idle (rest : List (PreparedSettlement Requirement))
  | running (p : PreparedSettlement Requirement) (program : Coroutine σ φ Unit)
      (rest : List (PreparedSettlement Requirement))
  | failed (p : PreparedSettlement Requirement) (error : String)

/-- Whether the queue has returned or raised. -/
def Queue.hasEnded : Queue σ φ Requirement → Bool
  | .idle [] => true
  | .failed _ _ => true
  | _ => false

/-- What the execution of the settlement raised. -/
def Queue.error : Queue σ φ Requirement → Option String
  | .failed _ e => some e
  | _ => none

/-- The tables, the queue of each facilitator, and the settlements whose execution was started and
    has returned. -/
structure Execution (σ φ Requirement : Type) where
  tables : Tables σ φ
  queues : String → Queue σ φ Requirement
  taken : List String := []
  returned : List String := []

/-- `queues.setdefault(target.facilitator_id, []).append(target)` for each target: a facilitator has
    its targets in their order. -/
def Execution.start (prepared : List (PreparedSettlement Requirement)) (t : Tables σ φ) :
    Execution σ φ Requirement where
  tables := t
  queues facilitatorId := .idle (prepared.filter fun p => p.facilitatorId = facilitatorId)

/-- The queue of a facilitator goes on: it starts its next settlement, makes one call of it or ends
    it. -/
def Execution.tick (s : Execution σ φ Requirement) (facilitatorId : String) :
    Execution σ φ Requirement :=
  match s.queues facilitatorId with
  | .idle [] => s
  | .idle (p :: rest) =>
    { s with
      queues := Function.update s.queues facilitatorId (.running p (execute ports p) rest)
      taken := s.taken ++ [p.settlementIntentId] }
  | .running p (.ret _) rest =>
    { s with
      queues := Function.update s.queues facilitatorId (.idle rest)
      returned := s.returned ++ [p.settlementIntentId] }
  | .running p (.raise e) _ =>
    { s with queues := Function.update s.queues facilitatorId (.failed p e) }
  | .running p (.call act next) rest =>
    let done := s.tables.perform ports p.settlementIntentId facilitatorId act
    { s with
      tables := done.1
      queues := Function.update s.queues facilitatorId (.running p (next done.2) rest) }
  | .failed _ _ => s

/-- The execution after a schedule, which names the facilitator whose queue goes on. -/
def Execution.run (s : Execution σ φ Requirement) (schedule : List String) :
    Execution σ φ Requirement :=
  schedule.foldl (Execution.tick ports) s

/-! ### The scan -/

/-- What the two queries give back, in their order and each settlement once. -/
structure Queries where
  /-- `unknown_submission_targets`; none without a recovery reader. -/
  unknown : List String
  /-- The settlements that wait for an authorization, of which `authorization_targets` lists those
      that are targets when it runs. -/
  waiting : List String
  unknown_nodup : unknown.Nodup
  waiting_nodup : waiting.Nodup

/-- The targets that are listed after the recovery. -/
def targetsOf (waiting : List String) (t : Tables σ φ) : List String :=
  waiting.filter fun id => ports.isTarget (t.own id)

/-- The preparations that returned. -/
def preparedOf (targets : List String) (t : Tables σ φ) : List (PreparedSettlement Requirement) :=
  targets.filterMap fun id => (prepare ports t id).toOption

/-- The errors of a scan in the order in which it looks at them; it raises the first one. -/
def errorsOf (targets : List String) (t : Tables σ φ) (s : Execution σ φ Requirement) :
    List String :=
  (targets.filterMap fun id =>
      match prepare ports t id with
      | .ok _ => none
      | .error e => some e) ++
    ((preparedOf ports targets t).map (·.facilitatorId)).eraseDups.filterMap fun facilitatorId =>
      (s.queues facilitatorId).error

/-- What a scan leaves: the tables, the settlements that were taken up in each part, those whose
    recovery or execution returned, and what it raises. -/
structure ScanOutcome (σ φ : Type) where
  tables : Tables σ φ
  recovered : List String
  prepared : List String := []
  executed : List String := []
  returned : List String
  /-- Whether `run_once` has come to its end: every queue has. -/
  hasEnded : Bool := true
  error : Option String

/-- The part of `run_once` behind the recovery. -/
def runTargets (recovery : Recovery σ φ) (targets schedule : List String) : ScanOutcome σ φ :=
  let prepared := preparedOf ports targets recovery.tables
  let s := (Execution.start prepared recovery.tables).run ports schedule
  { tables := s.tables
    recovered := recovery.taken
    prepared := targets
    executed := s.taken
    returned := recovery.returned ++ s.returned
    hasEnded := prepared.all fun p => (s.queues p.facilitatorId).hasEnded
    error := (errorsOf ports targets recovery.tables s).head? }

/-- `run_once`, with the order in which its queues go on. -/
def runOnce (q : Queries) (t : Tables σ φ) (schedule : List String) : ScanOutcome σ φ :=
  let recovery := recoverAll ports q.unknown t
  match recovery.error with
  | some e =>
    { tables := recovery.tables, recovered := recovery.taken, returned := recovery.returned
      error := some e }
  | none => runTargets ports recovery (targetsOf ports q.waiting recovery.tables) schedule

end Arena402.Payments.Scan
