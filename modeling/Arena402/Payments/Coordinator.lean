/-
`X402SettlementCoordinator.execute`, one await at a time.

Between two awaits a call runs alone, so its life is a small machine: a phase says which
await it is suspended at, and `stepCall` resumes it with what the awaited operation
returned or raised.  The repository operations are computed on the shared repository; what
the facilitator and the Arena recorder answer is up to the environment.

Any number of calls then run over one repository.  The system also keeps the history of
the settlements that were invoked and of what the facilitator answered, which no code
reads.
-/
import Arena402.Payments.Repository
import Arena402.Payments.Service

namespace Arena402.Payments

/-- The exceptions that reach the handlers of `execute`. -/
inductive Exc
  | facilitator (code : String) (ambiguous : Bool)
  | protocol (code : String)
  | payment (e : PaymentError)
  | other (name : String)
deriving DecidableEq, Repr

/-- What a facilitator answers to a settlement. -/
structure FacilitatorSettlement where
  success : Bool
  transaction : Option String
  network : String
  payer : Option String := none
  errorReason : Option String := none
deriving DecidableEq, Repr

/-- What a call returns. -/
structure X402ExecutionResult where
  success : Bool
  status : String
  transaction : Option String
  network : String
  payer : Option String := none
  errorReason : Option String := none
deriving DecidableEq, Repr

/-- The arguments of one call. -/
structure Call where
  terms : SettlementTerms
  mandateId : String
  payload : List (Key × Value)
  now : UtcDateTime

/-- The await at which a call that holds its reservation is suspended. -/
inductive Stage
  /-- `facilitator.verify`. -/
  | verifying
  /-- The release after `verify` answered false. -/
  | rejecting
  /-- `record_mandate_approval`. -/
  | approving
  /-- `facilitator.settle`. -/
  | settling
  /-- The release after `settle` reported no transaction. -/
  | refusing (settled : FacilitatorSettlement)
  /-- `record_automatic_submission`. -/
  | recording (settled : FacilitatorSettlement) (transaction : String)
  /-- `submit_reservation`. -/
  | submitting (settled : FacilitatorSettlement) (transaction : String)
  /-- The release in the handler of `FacilitatorError`. -/
  | handling (code : String)
  /-- The release in the last handler, which then raises the exception again. -/
  | compensating (e : Exc)
deriving DecidableEq, Repr

/-- Where a call is. -/
inductive Phase
  | start
  | suspended (r : PaymentReservation) (stage : Stage)
  | returned (result : X402ExecutionResult)
  | raised (e : Exc)
deriving DecidableEq, Repr

/-- The value of `settle_started` while a call is suspended in the `try` block. -/
def Stage.settleStarted : Stage → Bool
  | .settling | .refusing _ | .recording .. | .submitting .. => true
  | _ => false

/-- What resumes a call.  `resume` is the turn of a repository operation. -/
inductive Answer
  | resume
  | verify (answer : Except Exc Bool)
  | approval (answer : Except String Unit)
  | settle (answer : Except Exc FacilitatorSettlement)
  | submission (answer : Except String Unit)

/-- The two `except` clauses: an exception raised in the `try` block. -/
def handle (call : Call) (r : PaymentReservation) (settleStarted : Bool) : Exc → Phase
  | .facilitator code ambiguous =>
    if ambiguous then
      .returned
        { success := false
          status := "unknown"
          transaction := none
          network := call.terms.network
          errorReason := some code }
    else .suspended r (.handling code)
  | e =>
    if settleStarted then
      .returned
        { success := false
          status := "unknown"
          transaction := none
          network := call.terms.network
          errorReason := some "payment_submission_unknown" }
    else .suspended r (.compensating e)

section Step

variable (identifier : ReservationKey → String)

/-- The call up to its first await after `reserve_mandate`. -/
def begin (s : Repository) (call : Call) : Repository × Phase :=
  match s.reserveMandate identifier call.mandateId call.terms call.now with
  | .error e => (s, .raised (.payment e))
  | .ok (s', r) =>
    match r.status with
    | .submitted | .consumed =>
      (s', .returned
        { success := true
          status := "submitted"
          transaction := r.txHash
          network := call.terms.network
          payer := some call.terms.payer })
    | .released =>
      (s', .returned
        { success := false
          status := "failed"
          transaction := none
          network := call.terms.network
          errorReason := some "payment_reservation_released" })
    | .reserved =>
      match validatePaymentPayload call.terms call.payload call.now with
      | .error code => (s', handle call r false (.protocol code))
      | .ok _ => (s', .suspended r .verifying)

/-- The reason a suspended call gives for the release it waits for. -/
def Stage.releaseReason : Stage → Option String
  | .rejecting => some "facilitator_verification_rejected"
  | .refusing _ => some "facilitator_settlement_rejected"
  | .handling code => some code
  | .compensating _ => some "payment_pre_submission_failed"
  | _ => none

/-- Where a call goes after its release returned or raised. -/
def afterRelease (call : Call) (r : PaymentReservation) (stage : Stage)
    (outcome : Except PaymentError Unit) : Phase :=
  match stage, outcome with
  | .rejecting, .ok _ =>
    .returned
      { success := false
        status := "failed"
        transaction := none
        network := call.terms.network
        errorReason := some "payment_verification_failed" }
  | .refusing settled, .ok _ =>
    .returned
      { success := false
        status := "failed"
        transaction := none
        network := settled.network
        payer := settled.payer
        errorReason := some
          (match settled.errorReason with
          | some reason => if reason = "" then "payment_settlement_failed" else reason
          | none => "payment_settlement_failed") }
  | .handling code, .ok _ =>
    .returned
      { success := false
        status := "failed"
        transaction := none
        network := call.terms.network
        errorReason := some code }
  | .compensating e, .ok _ => .raised e
  -- a release inside the `try` block is itself covered by the last handler
  | .rejecting, .error e | .refusing _, .error e =>
    handle call r stage.settleStarted (.payment e)
  | _, .error e => .raised (.payment e)
  | _, .ok _ => .suspended r stage

/-- The call resumed after `facilitator.settle`. -/
def afterSettle (call : Call) (r : PaymentReservation) :
    Except Exc FacilitatorSettlement → Phase
  | .error e => handle call r true e
  | .ok settled =>
    match settled.success, settled.transaction with
    | true, some transaction => .suspended r (.recording settled transaction)
    | _, _ => .suspended r (.refusing settled)

/-- One call resumed with an answer; `none` when it does not wait for that answer. -/
def stepCall (s : Repository) (call : Call) : Phase → Answer → Option (Repository × Phase)
  | .start, .resume => some (begin identifier s call)
  | .suspended r .verifying, .verify (.ok true) => some (s, .suspended r .approving)
  | .suspended r .verifying, .verify (.ok false) => some (s, .suspended r .rejecting)
  | .suspended r .verifying, .verify (.error e) => some (s, handle call r false e)
  -- `settle` is invoked in the same turn in which the approval returned
  | .suspended r .approving, .approval (.ok _) => some (s, .suspended r .settling)
  | .suspended r .approving, .approval (.error e) => some (s, handle call r false (.other e))
  | .suspended r .settling, .settle answer => some (s, afterSettle call r answer)
  | .suspended r (.recording settled transaction), .submission (.ok _) =>
    some (s, .suspended r (.submitting settled transaction))
  | .suspended r (.recording _ _), .submission (.error e) =>
    some (s, handle call r true (.other e))
  | .suspended r (.submitting settled transaction), .resume =>
    match s.submitReservation r.reservationId transaction with
    | .error e => some (s, handle call r true (.payment e))
    | .ok (s', _) =>
      some (s', .returned
        { success := true
          status := "submitted"
          transaction := some transaction
          network := settled.network
          payer := settled.payer })
  | .suspended r stage, .resume =>
    stage.releaseReason.map fun reason =>
      match s.releaseReservation r.reservationId reason call.now with
      | .error e => (s, afterRelease call r stage (.error e))
      | .ok (s', _) => (s', afterRelease call r stage (.ok ()))
  | _, _ => none

/-! ### Many calls over one repository -/

/-- What the history records about `facilitator.settle`. -/
inductive SettleEvent
  | invoked (call : Nat)
  | answered (call : Nat) (answer : Except Exc FacilitatorSettlement)
deriving DecidableEq

/-- `settle` reported that it did not pay: `success = False`, or a `FacilitatorError` that
    is not ambiguous. -/
def DefinitiveFailure : Except Exc FacilitatorSettlement → Prop
  | .ok settled => settled.success = false
  | .error (.facilitator _ ambiguous) => ambiguous = false
  | .error _ => False

instance : DecidablePred DefinitiveFailure := fun a =>
  match a with
  | .ok settled => inferInstanceAs (Decidable (settled.success = false))
  | .error (.facilitator _ ambiguous) => inferInstanceAs (Decidable (ambiguous = false))
  | .error (.protocol _) => inferInstanceAs (Decidable False)
  | .error (.payment _) => inferInstanceAs (Decidable False)
  | .error (.other _) => inferInstanceAs (Decidable False)

/-- The calls over one repository, and what became of `settle`. -/
structure System where
  repository : Repository
  phases : Nat → Phase
  history : List SettleEvent

/-- Before the first step of any call. -/
def System.initial (s : Repository) : System where
  repository := s
  phases := fun _ => .start
  history := []

/-- What a step adds to the history. -/
def settleEvents (c : Nat) (before : Phase) (answer : Answer) (after : Phase) :
    List SettleEvent :=
  match before, answer, after with
  | .suspended _ .settling, .settle a, _ => [.answered c a]
  | .suspended _ .approving, _, .suspended _ .settling => [.invoked c]
  | _, _, _ => []

/-- Resume call `c` with an answer. -/
def stepSystem (calls : Nat → Call) (sys : System) (e : Nat × Answer) : Option System :=
  (stepCall identifier sys.repository (calls e.1) (sys.phases e.1) e.2).map fun next =>
    { repository := next.1
      phases := Function.update sys.phases e.1 next.2
      history := sys.history ++ settleEvents e.1 (sys.phases e.1) e.2 next.2 }

/-! ### One call alone -/

/-- How the facilitator and the recorder answer a call. -/
structure Answers where
  verify : Except Exc Bool
  approval : Except String Unit
  settle : Except Exc FacilitatorSettlement
  submission : Except String Unit

/-- What a suspended call is resumed with. -/
def Answers.to (a : Answers) : Phase → Answer
  | .suspended _ .verifying => .verify a.verify
  | .suspended _ .approving => .approval a.approval
  | .suspended _ .settling => .settle a.settle
  | .suspended _ (.recording ..) => .submission a.submission
  | _ => .resume

/-- A call has returned or raised. -/
def Phase.done : Phase → Bool
  | .returned _ | .raised _ => true
  | _ => false

/-- Resume a call until it is done, at most `fuel` times. -/
def drive (call : Call) (a : Answers) : Nat → Repository × Phase → Repository × Phase
  | 0, st => st
  | fuel + 1, st =>
    match stepCall identifier st.1 call st.2 (a.to st.2) with
    | none => st
    | some next => drive call a fuel next

/-- `execute`: no call is resumed more than six times. -/
def execute (s : Repository) (call : Call) (a : Answers) : Repository × Phase :=
  drive identifier call a 6 (s, .start)

end Step

end Arena402.Payments
