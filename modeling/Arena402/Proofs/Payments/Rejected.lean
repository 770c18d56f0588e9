/-
What a rejected payload leaves behind.

`execute` reserves before it validates.  When the payload is rejected it releases the
reservation again, but the entry stays in the table as `released`, and every later call
for the intent finds it there and fails.  So a rejected payload is invisible to a later
call exactly when it could not reserve anything: the intent has a reservation already, and
that reservation is no longer `reserved`.
-/
import Arena402.Proofs.Payments.Accounting
import Arena402.Proofs.Payments.Release

namespace Arena402.Payments

open Py

variable {identifier : ReservationKey → String} {s s' : Repository} {call : Call} {a : Answers}

/-! ### A call runs to its end -/

/-- How often a call can still be resumed. -/
def Phase.remaining : Phase → Nat
  | .start => 6
  | .suspended _ .verifying => 5
  | .suspended _ .approving => 4
  | .suspended _ .settling => 3
  | .suspended _ .rejecting => 2
  | .suspended _ (.recording ..) => 2
  | .suspended _ (.submitting ..) => 1
  | .suspended _ (.refusing _) => 1
  | .suspended _ (.handling _) => 1
  | .suspended _ (.compensating _) => 1
  | .returned _ => 0
  | .raised _ => 0

theorem handle_remaining (call : Call) (r : PaymentReservation) (started : Bool) (e : Exc) :
    (handle call r started e).remaining ≤ 1 := by
  unfold handle
  split <;> split <;> simp [Phase.remaining]

/-- The turn of a call that waits for a release. -/
theorem stepCall_release {r : PaymentReservation} {stage : Stage} {reason : String}
    (h : stage.releaseReason = some reason) :
    stepCall identifier s call (.suspended r stage) .resume
      = some (match s.releaseReservation r.reservationId reason call.now with
        | .error e => (s, afterRelease call r stage (.error e))
        | .ok (s', _) => (s', afterRelease call r stage (.ok ()))) := by
  cases stage <;> cases h <;> rfl

theorem afterRelease_remaining {r : PaymentReservation} {stage : Stage} {reason : String}
    (h : stage.releaseReason = some reason) (outcome : Except PaymentError Unit) :
    (afterRelease call r stage outcome).remaining < (Phase.suspended r stage).remaining := by
  cases stage with
  | rejecting =>
      cases outcome with
      | ok _ => exact Nat.zero_lt_two
      | error e =>
          show (handle call r false (.payment e)).remaining < 2
          exact Nat.lt_succ_of_le (handle_remaining call r _ _)
  | refusing _ | handling _ | compensating _ => cases outcome <;> exact Nat.zero_lt_one
  | verifying => cases h
  | approving => cases h
  | settling => cases h
  | recording settled tx => cases h
  | submitting settled tx => cases h

theorem afterSettle_remaining (r : PaymentReservation)
    (answer : Except Exc FacilitatorSettlement) : (afterSettle call r answer).remaining < 3 := by
  unfold afterSettle
  split
  · exact Nat.lt_of_le_of_lt (handle_remaining call r true _) (by decide)
  · split <;> simp [Phase.remaining]

theorem begin_remaining : (begin identifier s call).2.remaining < 6 := by
  unfold begin
  split
  · exact Nat.succ_pos 5
  · split
    · exact Nat.succ_pos 5
    · exact Nat.succ_pos 5
    · exact Nat.succ_pos 5
    · split
      · dsimp only
        exact Nat.lt_of_le_of_lt (handle_remaining call _ false _) (by decide)
      · exact Nat.lt_succ_self 5

/-- A call that is not done can be resumed with the answer it waits for, and gets closer to
    its end. -/
theorem stepCall_progress (identifier : ReservationKey → String) (s : Repository) (call : Call)
    (a : Answers) (ph : Phase) (h : ph.done = false) :
    ∃ next, stepCall identifier s call ph (a.to ph) = some next ∧
      next.2.remaining < ph.remaining := by
  have release : ∀ (r : PaymentReservation) (stage : Stage) (reason : String),
      stage.releaseReason = some reason →
      ∃ next, stepCall identifier s call (.suspended r stage) .resume = some next ∧
        next.2.remaining < (Phase.suspended r stage).remaining := by
    intro r stage reason hreason
    refine ⟨_, stepCall_release hreason, ?_⟩
    split
    · exact afterRelease_remaining hreason _
    · exact afterRelease_remaining hreason _
  cases ph with
  | start => exact ⟨_, rfl, begin_remaining⟩
  | returned result => cases h
  | raised e => cases h
  | suspended r stage =>
      cases stage with
      | verifying =>
          obtain ⟨verify, _, _, _⟩ := a
          rcases verify with e | verified
          · exact ⟨_, rfl, Nat.lt_of_le_of_lt (handle_remaining call r false e) (by decide : 1 < 5)⟩
          · cases verified with
            | true => exact ⟨_, rfl, Nat.lt_succ_self 4⟩
            | false => exact ⟨_, rfl, (by decide : 2 < 5)⟩
      | approving =>
          obtain ⟨_, approval, _, _⟩ := a
          rcases approval with e | _
          · exact ⟨_, rfl, Nat.lt_of_le_of_lt
              (handle_remaining call r false (.other e)) (by decide : 1 < 4)⟩
          · exact ⟨_, rfl, Nat.lt_succ_self 3⟩
      | settling => exact ⟨_, rfl, afterSettle_remaining r a.settle⟩
      | recording settled tx =>
          obtain ⟨_, _, _, submission⟩ := a
          rcases submission with e | _
          · exact ⟨_, rfl, Nat.zero_lt_two⟩
          · exact ⟨_, rfl, Nat.lt_succ_self 1⟩
      | submitting settled tx =>
          show ∃ next, stepCall identifier s call (.suspended r (.submitting settled tx)) .resume
            = some next ∧ next.2.remaining < 1
          unfold stepCall
          dsimp only
          split
          · exact ⟨_, rfl, Nat.zero_lt_one⟩
          · exact ⟨_, rfl, Nat.zero_lt_one⟩
      | rejecting | refusing _ | handling _ | compensating _ => exact release r _ _ rfl

/-- A call that is done stays as it is. -/
theorem drive_done {ph : Phase} (h : ph.done = true) :
    ∀ fuel, drive identifier call a fuel (s, ph) = (s, ph) := by
  intro fuel
  cases fuel with
  | zero => rfl
  | succ n =>
      cases ph with
      | start => cases h
      | suspended r stage => cases h
      | returned result => rfl
      | raised e => rfl

/-- The first turn of a call. -/
theorem execute_eq (s : Repository) (call : Call) (a : Answers) :
    execute identifier s call a = drive identifier call a 5 (begin identifier s call) := rfl

/-! ### What the later call and the accounting can tell apart -/

/-- The result of a call, the accounting of the mandate and the reservation of the intent. -/
structure Observation where
  result : Phase
  accounting : Option (Int × Int)
  reservation : Option PaymentReservation
deriving DecidableEq

def observe (call : Call) (st : Repository × Phase) : Observation where
  result := st.2
  accounting := (st.1.mandates.get call.mandateId).map fun m =>
    (m.reservedAtomic, m.consumedAtomic)
  reservation := st.1.reservationFor call.terms.settlementIntentId

theorem result_eq_of_observe_eq {call : Call} {st st' : Repository × Phase}
    (h : observe call st = observe call st') : st.2 = st'.2 :=
  congrArg Observation.result h

theorem reservation_eq_of_observe_eq {call : Call} {st st' : Repository × Phase}
    (h : observe call st = observe call st') :
    st.1.reservationFor call.terms.settlementIntentId
      = st'.1.reservationFor call.terms.settlementIntentId :=
  congrArg Observation.reservation h

/-- The mandate is valid for the payment: it covers the reservation the intent has, or it
    passes `_validate_mandate`. -/
def MandateCovers (s : Repository) (call : Call) : Prop :=
  match s.reservationFor call.terms.settlementIntentId with
  | some r => Repository.reserveExisting call.mandateId call.terms r = .ok r
  | none => ∃ m, s.mandates.get call.mandateId = some m ∧
      validateMandate m call.terms call.now = none

/-! ### Reserving -/

theorem reserve_existing (identifier : ReservationKey → String) (hk : s.Kept) {r : PaymentReservation}
    (hr : s.reservationFor call.terms.settlementIntentId = some r)
    (hcov : Repository.reserveExisting call.mandateId call.terms r = .ok r) :
    s.reserveMandate identifier call.mandateId call.terms call.now = .ok (s, r) := by
  obtain ⟨hi, hget⟩ := hk.reservationFor hr
  unfold Repository.reserveMandate
  rw [hi]
  dsimp only
  rw [hget]
  dsimp only
  rw [hcov]
  rfl

/-- A mandate that passes `_validate_mandate` has room for the amount. -/
theorem validateMandate_room {m : PaymentMandate} {terms : SettlementTerms} {now : UtcDateTime}
    (h : validateMandate m terms now = none) :
    m.reservedAtomic + m.consumedAtomic + terms.amountAtomic ≤ m.limits.maxCumulativeAtomic := by
  unfold validateMandate at h
  repeat' (split at h; · cases h)
  rename_i hroom
  exact not_lt.mp hroom

theorem reserve_new (identifier : ReservationKey → String) (hk : s.Kept)
    (hr : s.reservationFor call.terms.settlementIntentId = none) {m : PaymentMandate}
    (hm : s.mandates.get call.mandateId = some m)
    (hval : validateMandate m call.terms call.now = none) :
    ∃ s' r, s.reserveMandate identifier call.mandateId call.terms call.now = .ok (s', r) ∧
      r.status = .reserved ∧ s'.reservationFor call.terms.settlementIntentId = some r ∧
      Repository.reserveExisting call.mandateId call.terms r = .ok r := by
  have hnone : s.reservationsByIntent.get call.terms.settlementIntentId = none := by
    cases hi : s.reservationsByIntent.get call.terms.settlementIntentId with
    | none => rfl
    | some id =>
        obtain ⟨x, hx⟩ := hk.intents _ _ hi
        rw [Repository.reservationFor, hi] at hr
        exact absurd (hx.symm.trans hr) (by simp)
  set r := Repository.newReservation identifier call.mandateId call.terms call.now with hrdef
  have hcon : r.construct = .ok r :=
    Repository.construct_of_address call.terms.payeeAddress rfl
  have hacc : (m.account (m.reservedAtomic + call.terms.amountAtomic)
      m.consumedAtomic).accountingError = none := by
    rw [accountingError_none_iff]
    obtain ⟨h1, h2, -⟩ := (accountingError_none_iff m).mp (hk.mandates _ _ hm).accepted
    have hroom := validateMandate_room hval
    simp only [PaymentMandate.account]
    omega
  have hreserve : s.reserveMandate identifier call.mandateId call.terms call.now
      = .ok ({ s with
          mandates := s.mandates.set call.mandateId
            (m.account (m.reservedAtomic + call.terms.amountAtomic) m.consumedAtomic)
          reservations := s.reservations.set r.reservationId r
          reservationsByIntent := s.reservationsByIntent.set call.terms.settlementIntentId
            r.reservationId }, r) := by
    unfold Repository.reserveMandate
    rw [hnone]
    dsimp only
    rw [hm]
    dsimp only
    rw [hval]
    dsimp only
    rw [← hrdef, hcon]
    dsimp only
    rw [withAccounting_of_accepted hacc]
  refine ⟨_, r, hreserve, rfl, ?_, ?_⟩
  · exact Option.bind_eq_some_iff.mpr
      ⟨r.reservationId, Dict.get_set_self _ _ _, Dict.get_set_self s.reservations _ _⟩
  · simp [Repository.reserveExisting, hrdef, Repository.newReservation]

/-- An open intent: a valid mandate lets a call reserve it, and the reservation it then has
    is one the next call finds. -/
theorem reserve_open (identifier : ReservationKey → String) (hk : s.Kept)
    (hcov : MandateCovers s call)
    (hopen : ∀ r, s.reservationFor call.terms.settlementIntentId = some r →
      r.status = .reserved) :
    ∃ s' r, s.reserveMandate identifier call.mandateId call.terms call.now = .ok (s', r) ∧
      r.status = .reserved ∧ s'.reservationFor call.terms.settlementIntentId = some r ∧
      Repository.reserveExisting call.mandateId call.terms r = .ok r := by
  unfold MandateCovers at hcov
  cases hr : s.reservationFor call.terms.settlementIntentId with
  | none =>
      rw [hr] at hcov
      obtain ⟨m, hm, hval⟩ := hcov
      exact reserve_new identifier hk hr hm hval
  | some r =>
      rw [hr] at hcov
      exact ⟨s, r, reserve_existing identifier hk hr hcov, hopen r hr, hr, hcov⟩

/-! ### The rejected call -/

/-- A call that finds the reservation finished changes nothing. -/
theorem execute_finished (identifier : ReservationKey → String) (call : Call) (a : Answers)
    (hk : s.Kept) {r : PaymentReservation}
    (hr : s.reservationFor call.terms.settlementIntentId = some r)
    (hcov : Repository.reserveExisting call.mandateId call.terms r = .ok r)
    (hst : r.status ≠ .reserved) : (execute identifier s call a).1 = s := by
  have hres := reserve_existing identifier hk hr hcov
  have hbegin : ∃ result, begin identifier s call = (s, .returned result) := by
    unfold begin
    rw [hres]
    dsimp only
    split
    · exact ⟨_, rfl⟩
    · exact ⟨_, rfl⟩
    · exact ⟨_, rfl⟩
    · rename_i hreserved
      exact absurd hreserved hst
  obtain ⟨result, hbegin⟩ := hbegin
  rw [execute_eq, hbegin, drive_done rfl]

/-- A call that finds the reservation released fails. -/
theorem execute_released (identifier : ReservationKey → String) (call : Call) (a : Answers)
    (hk : s.Kept) {r : PaymentReservation}
    (hr : s.reservationFor call.terms.settlementIntentId = some r)
    (hcov : Repository.reserveExisting call.mandateId call.terms r = .ok r)
    (hst : r.status = .released) :
    execute identifier s call a = (s, .returned
      { success := false
        status := "failed"
        transaction := none
        network := call.terms.network
        errorReason := some "payment_reservation_released" }) := by
  rw [execute_eq]
  unfold begin
  rw [reserve_existing identifier hk hr hcov]
  dsimp only
  rw [hst]
  dsimp only
  rw [drive_done rfl]

/-- A rejected payload on an open intent leaves its reservation `released`. -/
theorem execute_rejected (identifier : ReservationKey → String) (call : Call) (a : Answers)
    (hk : s.Kept) {code : String}
    (hval : validatePaymentPayload call.terms call.payload call.now = .error code)
    (hcov : MandateCovers s call)
    (hopen : ∀ r, s.reservationFor call.terms.settlementIntentId = some r →
      r.status = .reserved) :
    ∃ r, (execute identifier s call a).1.Kept ∧
      (execute identifier s call a).1.reservationFor call.terms.settlementIntentId = some r ∧
      r.status = .released ∧ r.releaseReason = some "payment_pre_submission_failed" ∧
      Repository.reserveExisting call.mandateId call.terms r = .ok r := by
  obtain ⟨t, r, hres, hst, hr, hsame⟩ := reserve_open identifier hk hcov hopen
  have hkt := hk.reserve hres
  obtain ⟨hi, hget⟩ := hkt.reservationFor hr
  obtain ⟨u, hrel, hby, hgetu⟩ := hkt.release_reserved hget hst
    "payment_pre_submission_failed" (by decide) (by decide) call.now
  have hbegin : begin identifier s call
      = (t, .suspended r (.compensating (.protocol code))) := by
    unfold begin
    rw [hres]
    dsimp only
    rw [hst, hval]
    rfl
  have hstep : stepCall identifier t call (.suspended r (.compensating (.protocol code))) .resume
      = some (u, .raised (.protocol code)) := by
    have hreason : (Stage.compensating (.protocol code)).releaseReason
        = some "payment_pre_submission_failed" := rfl
    rw [stepCall_release hreason, hrel]
    rfl
  have hexec : execute identifier s call a = (u, .raised (.protocol code)) := by
    rw [execute_eq, hbegin]
    unfold drive
    dsimp only
    rw [show a.to (.suspended r (.compensating (.protocol code))) = .resume from rfl, hstep]
    exact drive_done rfl 4
  rw [hexec]
  refine ⟨Repository.releasedEntry r "payment_pre_submission_failed" call.now, hkt.release hrel,
    ?_, rfl, rfl, ?_⟩
  · refine Option.bind_eq_some_iff.mpr ⟨r.reservationId, ?_, hgetu⟩
    rw [hby]
    exact hi
  · have hno := hsame
    unfold Repository.reserveExisting at hno ⊢
    split at hno
    · cases hno
    · rename_i hcond
      exact if_neg hcond

/-! ### The later call alone -/

/-- A release for a failure before submission is on record for the intent. -/
def PreSubmissionRelease (s : Repository) (intent : String) : Prop :=
  ∃ r, s.reservationFor intent = some r ∧
    r.releaseReason = some "payment_pre_submission_failed"

/-- The call of this run ended in a way that goes with such a release. -/
def Compensated : Phase → Prop
  | .raised _ => True
  | .returned result => result.errorReason = some "payment_pre_submission_failed"
  | _ => False

/-- One step that puts such a release on record ends the call accordingly. -/
theorem stepCall_compensated {ph ph' : Phase} {answer : Answer} {intent : String}
    (h : stepCall identifier s call ph answer = some (s', ph'))
    (hbefore : ¬ PreSubmissionRelease s intent) (hafter : PreSubmissionRelease s' intent) :
    Compensated ph' := by
  obtain ⟨x, hx, hreason⟩ := hafter
  have hne : s.reservationFor intent ≠ some x := fun hc => hbefore ⟨x, hc, hreason⟩
  rcases stepCall_repository h with rfl | ⟨-, r, hres⟩ | ⟨r, settled, tx, r', -, hsub⟩ |
    ⟨r, stage, reason, r', -, hstage, hop, rfl⟩
  · exact absurd hx hne
  · rcases Repository.reservationFor_reserve hres hx with hold | ⟨hst, hshape⟩
    · exact absurd hold hne
    · obtain ⟨-, -, hnone⟩ := shape_reserved hst hshape
      rw [hnone] at hreason
      cases hreason
  · rcases Repository.reservationFor_submit hsub hx with hold | ⟨hst, hshape⟩
    · exact absurd hold hne
    · rw [shape_submitted hst hshape] at hreason
      cases hreason
  · rcases Repository.reservationFor_release hop hx with hold | ⟨-, hgiven, -⟩
    · exact absurd hold hne
    · rw [hreason] at hgiven
      rw [← Option.some.inj hgiven] at hstage
      cases stage with
      | handling code =>
          show some code = some "payment_pre_submission_failed"
          exact hstage
      | compensating e => exact trivial
      | rejecting | refusing _ => exact absurd (Option.some.inj hstage) (by decide)
      | verifying => cases hstage
      | approving => cases hstage
      | settling => cases hstage
      | recording settled tx => cases hstage
      | submitting settled tx => cases hstage

theorem drive_compensated (identifier : ReservationKey → String) (call : Call) (a : Answers)
    {intent : String} :
    ∀ (fuel : Nat) (st : Repository × Phase),
      (PreSubmissionRelease st.1 intent → Compensated st.2) →
      PreSubmissionRelease (drive identifier call a fuel st).1 intent →
      Compensated (drive identifier call a fuel st).2 := by
  intro fuel
  induction fuel with
  | zero =>
      intro st h
      exact h
  | succ n ih =>
      intro st h
      by_cases hd : st.2.done = true
      · rw [drive_done hd]
        exact h
      · obtain ⟨next, hnext, -⟩ :=
          stepCall_progress identifier st.1 call a st.2 (by simpa using hd)
        unfold drive
        rw [hnext]
        refine ih next fun hrel => ?_
        -- a call that is still running has put no such release on record
        have hrunning : ¬ Compensated st.2 := by
          obtain ⟨t, ph⟩ := st
          cases ph with
          | start => exact id
          | suspended r stage => exact id
          | returned _ | raised _ => exact absurd rfl hd
        exact stepCall_compensated hnext (fun hc => hrunning (h hc)) hrel

/-- A call on an open intent does not end both as a failure on a released reservation and
    with a pre-submission release on record. -/
theorem execute_not_both (identifier : ReservationKey → String) (call : Call) (a : Answers)
    (hk : s.Kept)
    (hopen : ∀ r, s.reservationFor call.terms.settlementIntentId = some r →
      r.status = .reserved) {result : X402ExecutionResult}
    (hres : (execute identifier s call a).2 = .returned result)
    (hreason : result.errorReason = some "payment_reservation_released") :
    ¬ PreSubmissionRelease (execute identifier s call a).1 call.terms.settlementIntentId := by
  intro hrel
  have hstart : ¬ PreSubmissionRelease s call.terms.settlementIntentId := by
    rintro ⟨r, hr, hreason'⟩
    obtain ⟨-, hget⟩ := hk.reservationFor hr
    obtain ⟨-, -, hnone⟩ := shape_reserved (hopen r hr) (hk.entry hget).shape
    rw [hnone] at hreason'
    cases hreason'
  have hcomp := drive_compensated identifier call a 6 (s, .start)
    (fun hc => absurd hc hstart) hrel
  change Compensated (execute identifier s call a).2 at hcomp
  rw [hres] at hcomp
  change result.errorReason = _ at hcomp
  rw [hreason] at hcomp
  exact absurd (Option.some.inj hcomp) (by decide)

/-- Two payloads for the same payment: the second call has the terms and the mandate of the
    first. -/
def Call.withPayload (call : Call) (payload : List (Key × Value)) (now : UtcDateTime) : Call :=
  { call with
    payload := payload
    now := now }

/-- **A rejected payload is invisible to a later call exactly when the intent's reservation
    was finished before it.** -/
theorem rejected_payload_invisible_iff {identifier : ReservationKey → String} {s : Repository}
    (hreach : Repository.Reachable identifier s) (q : Call) {code : String}
    (hq : validatePaymentPayload q.terms q.payload q.now = .error code)
    (hcov : MandateCovers s q) (payload : List (Key × Value)) (now : UtcDateTime)
    (aq ap : Answers) :
    observe q (execute identifier (execute identifier s q aq).1 (q.withPayload payload now) ap)
        = observe q (execute identifier s (q.withPayload payload now) ap) ↔
      ∃ r, s.reservationFor q.terms.settlementIntentId = some r ∧ r.status ≠ .reserved := by
  have hk := hreach.kept
  constructor
  · intro hsame
    by_contra hno
    have hopen : ∀ r, s.reservationFor q.terms.settlementIntentId = some r →
        r.status = .reserved := by
      intro r hr
      by_contra hst
      exact hno ⟨r, hr, hst⟩
    -- after `q` the later call finds a released reservation
    obtain ⟨r, hkq, hr, hst, hreason, hcov'⟩ :=
      execute_rejected identifier q aq hk hq hcov hopen
    have hlater := execute_released identifier (q.withPayload payload now) ap hkq hr hcov' hst
    rw [hlater] at hsame
    have hresult := result_eq_of_observe_eq hsame
    have hreservation := reservation_eq_of_observe_eq hsame
    -- alone it cannot end that way
    refine execute_not_both identifier (q.withPayload payload now) ap hk hopen hresult.symm rfl
      ⟨r, ?_, hreason⟩
    show (execute identifier s (q.withPayload payload now) ap).1.reservationFor
      q.terms.settlementIntentId = some r
    rw [← hreservation]
    exact hr
  · rintro ⟨r, hr, hst⟩
    unfold MandateCovers at hcov
    rw [hr] at hcov
    rw [execute_finished identifier q aq hk hr hcov hst]

/-! ### One rejected payload before a good one -/

open Example

/-- The call returned a success. -/
def Phase.succeeded : Phase → Bool
  | .returned result => result.success
  | _ => false

/-- The facilitator and the recorder accept everything. -/
def acceptingAnswers : Answers where
  verify := .ok true
  approval := .ok ()
  settle := .ok ⟨true, some ("0x" ++ hash), "eip155:1", some terms.payer, none⟩
  submission := .ok ()

/-- The call with an empty payload. -/
def emptyCall : Call :=
  ⟨terms, "mandate", [], 0⟩

/-- Alone, the payment is submitted. -/
theorem payment_alone_succeeds :
    (execute plainIdentifier repository (emptyCall.withPayload payload 0)
      acceptingAnswers).2.succeeded = true := by
  obtain ⟨nonce, hval⟩ := payload_accepted
  rw [execute_eq, begin_of_valid (emptyCall.withPayload payload 0) reserve_ok rfl hval]
  decide

/-- After the empty payload, it fails. -/
theorem payment_after_empty_payload_fails :
    (execute plainIdentifier (execute plainIdentifier repository emptyCall acceptingAnswers).1
      (emptyCall.withPayload payload 0) acceptingAnswers).2.succeeded = false := by
  decide

/-- An empty payload changes the result of the payment that follows it. -/
theorem empty_payload_blocks_payment :
    ¬ (observe emptyCall (execute plainIdentifier (execute plainIdentifier repository emptyCall
          acceptingAnswers).1 (emptyCall.withPayload payload 0) acceptingAnswers)
        = observe emptyCall (execute plainIdentifier repository
          (emptyCall.withPayload payload 0) acceptingAnswers)) := by
  intro hsame
  have hfails := payment_after_empty_payload_fails
  rw [result_eq_of_observe_eq hsame, payment_alone_succeeds] at hfails
  cases hfails

/-- The repository once the payment was submitted. -/
def submitted : Repository :=
  reserved.apply plainIdentifier (.submit "mandate/intent" ("0x" ++ hash))

theorem submitted_reachable : Repository.Reachable plainIdentifier submitted := by
  refine Trans.Run.tail (t := reserved) (e := .submit "mandate/intent" ("0x" ++ hash)) ?_ trivial rfl
  refine Trans.Run.tail (t := repository) (e := .reserve "mandate" terms 0) ?_ trivial ?_
  · exact Trans.Run.refl.tail (e := .create mandate (by decide) 0) trivial (by decide)
  · decide

/-- An empty payload after the submission changes nothing for the calls after it. -/
theorem empty_payload_after_submission :
    observe emptyCall (execute plainIdentifier (execute plainIdentifier submitted emptyCall
        acceptingAnswers).1 (emptyCall.withPayload payload 0) acceptingAnswers)
      = observe emptyCall (execute plainIdentifier submitted
        (emptyCall.withPayload payload 0) acceptingAnswers) := by
  have hsome : (submitted.reservationFor "intent").any (fun r => r.status ≠ .reserved &&
      decide (Repository.reserveExisting "mandate" terms r = .ok r)) = true := by
    decide
  obtain ⟨r, hr, hboth⟩ := (Option.any_eq_true _ _).mp hsome
  simp only [Bool.and_eq_true, decide_eq_true_eq] at hboth
  have hcov : MandateCovers submitted emptyCall := by
    unfold MandateCovers
    rw [show submitted.reservationFor emptyCall.terms.settlementIntentId = some r from hr]
    exact hboth.2
  have hrejected : validatePaymentPayload emptyCall.terms emptyCall.payload emptyCall.now
      = .error "unsupported_x402_version" := by
    decide
  exact (rejected_payload_invisible_iff submitted_reachable emptyCall hrejected hcov payload 0
    acceptingAnswers acceptingAnswers).mpr ⟨r, hr, hboth.1⟩

end Arena402.Payments
