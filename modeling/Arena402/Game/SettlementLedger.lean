/-
The settlement operations of the game repository on its tables.

Each operation is one transaction: it returns the new tables, or the error it raises and
the tables stay as they are.  Only `commit_confirmed_inventory` writes balances and
holdings; the others move the status of an intent and write down what was submitted and
what the chain confirmed.

Timestamps are left out: nothing here reads them.
-/
import Arena402.Game.Settlement
import Arena402.Game.Tables

namespace Arena402.Game

open Py

/-- A row of an intent with its status. -/
structure IntentRow where
  intent : SettlementIntent
  status : SettlementStatus
  safeErrorCode : Option String

/-- The approval of an intent. -/
structure ApprovalRow where
  approvedIntentHash : String
  authorizationNonceDigest : String
  approvalSource : String
deriving DecidableEq, Repr

/-- The transaction of an intent. -/
structure SubmissionRow where
  txHash : String
  authorizationNonceDigest : String
  submissionSource : String
deriving DecidableEq, Repr

/-- What was confirmed on the chain. -/
structure ConfirmationRow where
  txHash : String
  chainId : Nat
  facilitatorAddress : String
  tokenAddress : String
  fromAccount : String
  toAccount : String
  amountAtomic : Nat
  blockNumber : Nat
  blockHash : String
  confirmationCount : Nat
  evidenceHash : String
deriving DecidableEq, Repr

/-- The balances and holdings around a commit. -/
structure CommitRow where
  buyerCashBefore : Int
  buyerCashAfter : Int
  sellerCashBefore : Int
  sellerCashAfter : Int
  buyerHoldingBefore : Int
  buyerHoldingAfter : Int
  sellerHoldingBefore : Int
  sellerHoldingAfter : Int
deriving DecidableEq, Repr

/-- A row of the outbox. -/
structure GameEvent where
  gameId : String
  roundId : String
  eventType : String
  sourceKey : String
  payload : Value

/-- The tables that the settlement of deals reads and writes. -/
structure Ledger where
  intents : Dict String IntentRow
  approvals : Dict String ApprovalRow := []
  submissions : Dict String SubmissionRow := []
  confirmations : Dict String ConfirmationRow := []
  commits : Dict String CommitRow := []
  balances : Dict String Int
  holdings : Dict (String × String) Int
  participants : Dict String Participant
  pairings : Dict String PairingRow
  negotiations : Dict String NegotiationRow
  engagements : Dict String Engagement := []
  events : List GameEvent := []

namespace Ledger

/-! ### Pieces the operations share -/

/-- `_event`: a second event with the same key is dropped. -/
def event (s : Ledger) (e : GameEvent) : Ledger :=
  if s.events.any fun x => x.gameId = e.gameId && x.sourceKey = e.sourceKey then s
  else { s with events := s.events ++ [e] }

/-- The events of an intent carry its game and round. -/
def intentEvent (s : Ledger) (intent : SettlementIntent) (eventType sourceKey : String)
    (payload : List (String × Value)) : Ledger :=
  s.event ⟨intent.gameId, intent.roundId, eventType, sourceKey, .obj payload⟩

def dealStatusName : DealStatus → String
  | .negotiating => "negotiating"
  | .acceptedPendingSettlement => "accepted_pending_settlement"
  | .settling => "settling"
  | .settled => "settled"
  | .settlementFailed => "settlement_failed"
  | .rejected => "rejected"
  | .timeout => "timeout"

/-- `_pairing_closed_event`: the engagements of the negotiation follow. -/
def pairingClosedEvent (s : Ledger) (id : String) (intent : SettlementIntent)
    (status : DealStatus) : Ledger :=
  let s' : Ledger := { s with
    engagements := s.engagements.map fun e =>
      if e.2.negotiationId = intent.negotiationId &&
          (e.2.status = .acceptedPendingSettlement || e.2.status = .settling) then
        (e.1, { e.2 with status := status })
      else e }
  s'.intentEvent intent "pairing.closed" (intent.pairingId ++ ":closed")
    [("pairingId", .str intent.pairingId), ("negotiationId", .str intent.negotiationId),
      ("status", .str (dealStatusName status)), ("settlementIntentId", .str id)]

/-- The pairing gets the status, and so does a negotiation that awaits settlement. -/
def closeDeal (s : Ledger) (intent : SettlementIntent) (status : DealStatus) : Ledger :=
  { s with
    pairings := s.pairings.map fun e =>
      if e.1 = intent.pairingId then (e.1, { e.2 with status := status }) else e
    negotiations := s.negotiations.map fun e =>
      if e.1 = intent.negotiationId && e.2.status = .acceptedPendingSettlement then
        (e.1, { e.2 with status := status })
      else e }

/-- Both participants leave the status `settling`. -/
def reactivate (s : Ledger) (intent : SettlementIntent) : Ledger :=
  { s with
    participants := s.participants.map fun e =>
      if (e.1 = intent.buyerParticipantId || e.1 = intent.sellerParticipantId) &&
          e.2.status = .settling then
        (e.1, { e.2 with status := .active })
      else e }

/-- `UPDATE settlement_intents SET status = .., safe_error_code = ..`. -/
def setStatus (s : Ledger) (id : String) (row : IntentRow) (status : SettlementStatus)
    (safeErrorCode : Option String) : Ledger :=
  { s with
    intents := s.intents.set id
      { row with
        status := status
        safeErrorCode := safeErrorCode } }

/-- The deal of a settlement that failed for good. -/
def failDeal (s : Ledger) (id : String) (intent : SettlementIntent) : Ledger :=
  (s.closeDeal intent .settlementFailed).pairingClosedEvent id intent .settlementFailed

section Operations

-- `sha256_text_identifier`, `ChainConfirmation.evidence_hash`, and the check of
-- `_intent_from_row` that the row still has the hash of its columns.
variable (digest : String → String) (evidenceHash : ChainConfirmation → String)
  (intact : SettlementIntent → Bool)

/-- `record_settlement_approval`. -/
def recordSettlementApproval (s : Ledger) (id approvedIntentHash nonce source : String) :
    Except String Ledger :=
  if !intentHashPattern approvedIntentHash then .error "invalid_approved_intent_hash"
  else if source ≠ "operator_cli" && source ≠ "payment_mandate" then
    .error "invalid_approval_source"
  else
    match normalizeHex "invalid_authorization_nonce" nonce with
    | .error e => .error e
    | .ok normalizedNonce =>
      if normalizedNonce ≠ "0x" ++ String.ofList (approvedIntentHash.toList.drop 7) then
        .error "authorization_nonce_not_bound_to_intent"
      else
        match s.intents.get id with
        | none => .error "settlement_intent_not_found"
        | some row =>
          if row.intent.intentHash ≠ approvedIntentHash then
            .error "approved_intent_hash_mismatch"
          else
            let approval : ApprovalRow := ⟨approvedIntentHash, digest normalizedNonce, source⟩
            match s.approvals.get id with
            | some existing =>
              if existing ≠ approval then .error "settlement_approval_conflict" else .ok s
            | none =>
              if row.status ≠ .authorizationRequested then
                .error "settlement_not_awaiting_approval"
              else if s.approvals.values.any
                  (·.authorizationNonceDigest = digest normalizedNonce) then
                .error "unique_violation"
              else
                .ok ({ s with approvals := s.approvals.set id approval }.intentEvent row.intent
                  "settlement.approved" (id ++ ":approved")
                  [("settlementIntentId", .str id), ("intentHash", .str approvedIntentHash),
                    ("approvalSource", .str source),
                    ("status", .str "authorization_requested")])

/-- The approval that a submission needs. -/
def approvalMatches (intent : SettlementIntent) (approvedIntentHash nonceDigest : String)
    (approval : ApprovalRow) : Bool :=
  approval.approvedIntentHash = approvedIntentHash &&
    approval.approvedIntentHash = intent.intentHash &&
    approval.authorizationNonceDigest = nonceDigest &&
    (approval.approvalSource = "operator_cli" || approval.approvalSource = "payment_mandate")

/-- A new submission of an intent that awaits one. -/
def insertSubmission (s : Ledger) (id : String) (row : IntentRow) (submission : SubmissionRow) :
    Ledger :=
  ({ s with submissions := s.submissions.set id submission }.setStatus id row .submitted
      none).intentEvent row.intent "settlement.submitted" (id ++ ":submitted")
    [("settlementIntentId", .str id), ("txHash", .str submission.txHash),
      ("status", .str "submitted")]

/-- `record_settlement_submission`. -/
def recordSettlementSubmission (s : Ledger) (id txHash nonce approvedIntentHash source : String) :
    Except String Ledger :=
  match normalizeHex "invalid_transaction_hash" txHash,
      normalizeHex "invalid_authorization_nonce" nonce with
  | .error e, _ => .error e
  | _, .error e => .error e
  | .ok normalizedTx, .ok normalizedNonce =>
    if !intentHashPattern approvedIntentHash then .error "invalid_approved_intent_hash"
    else if source ≠ "wallet" && source ≠ "sandbox_guest" then
      .error "invalid_submission_source"
    else
      let submission : SubmissionRow := ⟨normalizedTx, digest normalizedNonce, source⟩
      match s.intents.get id with
      | none => .error "settlement_intent_not_found"
      | some row =>
        match s.submissions.get id with
        | some existing =>
          if existing ≠ submission then .error "settlement_submission_conflict" else .ok s
        | none =>
          match s.approvals.get id with
          | none => .error "settlement_approval_required"
          | some approval =>
            if !approvalMatches row.intent approvedIntentHash (digest normalizedNonce) approval
              then .error "settlement_approval_mismatch"
            else if row.status ≠ .authorizationRequested && row.status ≠ .confirmationTimeout then
              .error "settlement_not_awaiting_submission"
            else if s.submissions.values.any (·.txHash = normalizedTx) then
              .error "unique_violation"
            else .ok (s.insertSubmission id row submission)

/-- `mark_confirmation_timeout`. -/
def markConfirmationTimeout (s : Ledger) (id : String) : Except String Ledger :=
  match s.intents.get id with
  | none => .error "settlement_intent_not_found"
  | some row =>
    let timedOut (t : Ledger) : Ledger :=
      t.intentEvent row.intent "settlement.confirmation_timeout" (id ++ ":confirmation_timeout")
        [("settlementIntentId", .str id),
          ("txHash", .opt .str ((s.submissions.get id).map (·.txHash))),
          ("status", .str "confirmation_timeout")]
    match row.status with
    | .submitted =>
      .ok (timedOut (s.setStatus id row .confirmationTimeout (some "confirmation_timeout")))
    | .confirmationTimeout => .ok (timedOut s)
    | _ => .error "settlement_not_submitted"

/-- `record_automatic_failure`. -/
def recordAutomaticFailure (s : Ledger) (id safeErrorCode : String) : Except String Ledger :=
  if safeErrorCode = "" || 100 < safeErrorCode.length then .error "invalid_safe_error_code"
  else
    match s.intents.get id with
    | none => .error "settlement_intent_not_found"
    | some row =>
      match row.status with
      | .authorizationFailed => .ok (s.failDeal id row.intent)
      | .authorizationRequested =>
        .ok ((((s.setStatus id row .authorizationFailed (some safeErrorCode)).closeDeal row.intent
            .settlementFailed).reactivate row.intent).intentEvent row.intent
            "settlement.authorization_failed" (id ++ ":authorization_failed")
            [("settlementIntentId", .str id), ("pairingId", .str row.intent.pairingId),
              ("negotiationId", .str row.intent.negotiationId),
              ("status", .str "authorization_failed"), ("safeErrorCode", .str safeErrorCode)]
          |>.pairingClosedEvent id row.intent .settlementFailed)
      | _ => .error "settlement_not_awaiting_authorization"

/-- The row that a confirmation leaves. -/
def confirmationRow (c : ChainConfirmation) : ConfirmationRow where
  txHash := c.txHash
  chainId := c.chainId
  facilitatorAddress := c.facilitatorAddress
  tokenAddress := c.tokenAddress
  fromAccount := c.fromAccount
  toAccount := c.toAccount
  amountAtomic := c.amountAtomic
  blockNumber := c.blockNumber
  blockHash := c.blockHash
  confirmationCount := c.confirmationCount
  evidenceHash := evidenceHash c

/-- A new confirmation of an intent that awaits one. -/
def insertConfirmation (s : Ledger) (id : String) (row : IntentRow) (c : ChainConfirmation) :
    Ledger :=
  ({ s with confirmations := s.confirmations.set id (confirmationRow evidenceHash c) }.setStatus
      id row .chainConfirmedUncommitted none).intentEvent row.intent "settlement.chain_confirmed"
    (id ++ ":" ++ evidenceHash c)
    [("settlementIntentId", .str id), ("txHash", .str c.txHash),
      ("blockNumber", .nat c.blockNumber), ("facilitatorAddress", .str c.facilitatorAddress),
      ("confirmationCount", .nat c.confirmationCount),
      ("status", .str "chain_confirmed_uncommitted")]

/-- `record_chain_confirmation`. -/
def recordChainConfirmation (s : Ledger) (id : String) (c : ChainConfirmation) :
    Except String Ledger :=
  match s.intents.get id, s.submissions.get id with
  | some row, some submission =>
    if !intact row.intent then .error "settlement_intent_integrity_failure"
    else if c.txHash ≠ submission.txHash then .error "confirmation_transaction_mismatch"
    else
      match validateChainConfirmation row.intent c with
      | some e => .error e
      | none =>
        match s.confirmations.get id with
        | some existing =>
          if existing.evidenceHash ≠ evidenceHash c then .error "chain_confirmation_conflict"
          else .ok s
        | none =>
          if row.status ≠ .submitted && row.status ≠ .confirmationTimeout then
            .error "settlement_not_confirmable"
          else if s.confirmations.values.any (·.txHash = c.txHash) then .error "unique_violation"
          else .ok (s.insertConfirmation evidenceHash id row c)
  | _, _ => .error "settlement_submission_not_found"

/-- `record_chain_reverted`. -/
def recordChainReverted (s : Ledger) (id txHash : String) : Except String Ledger :=
  match normalizeHex "invalid_transaction_hash" txHash with
  | .error e => .error e
  | .ok normalizedTx =>
    match s.intents.get id, s.submissions.get id with
    | some row, some submission =>
      if submission.txHash ≠ normalizedTx then .error "confirmation_transaction_mismatch"
      else
        match row.status with
        | .reverted => .ok (s.failDeal id row.intent)
        | .submitted | .confirmationTimeout =>
          .ok ((((s.setStatus id row .reverted (some "chain_transaction_reverted")).closeDeal
              row.intent .settlementFailed).reactivate row.intent).intentEvent row.intent
              "settlement.reverted" (id ++ ":reverted")
              [("settlementIntentId", .str id), ("pairingId", .str row.intent.pairingId),
                ("negotiationId", .str row.intent.negotiationId), ("txHash", .str normalizedTx),
                ("status", .str "reverted")]
            |>.pairingClosedEvent id row.intent .settlementFailed)
        | _ => .error "settlement_not_revertible"
    | _, _ => .error "settlement_submission_not_found"

/-- The checks of `inventory_commits`, and the ranges of its columns. -/
def commitRowValid (c : CommitRow) : Bool :=
  c.buyerHoldingAfter = c.buyerHoldingBefore + 1 &&
    c.sellerHoldingAfter = c.sellerHoldingBefore - 1 &&
    c.sellerCashAfter < 10 ^ 78 && c.buyerHoldingAfter < 2 ^ 63

/-- The move itself: cash to the seller, goods to the buyer. -/
def moveAssets (s : Ledger) (id : String) (row : IntentRow) (c : CommitRow) : Ledger :=
  let intent := row.intent
  (({ s with
      balances := (s.balances.set intent.buyerParticipantId c.buyerCashAfter).set
        intent.sellerParticipantId c.sellerCashAfter
      holdings := (s.holdings.set (intent.buyerParticipantId, intent.goodId)
        c.buyerHoldingAfter).set (intent.sellerParticipantId, intent.goodId)
        c.sellerHoldingAfter
      commits := s.commits.set id c }.setStatus id row .inventoryCommitted
        row.safeErrorCode).closeDeal intent .settled).reactivate intent
    |>.intentEvent intent "settlement.inventory_committed" (id ++ ":inventory_committed")
      [("settlementIntentId", .str id), ("pairingId", .str intent.pairingId),
        ("good", .str intent.goodId), ("quantity", .nat intent.quantity),
        ("amountAtomic", .str (toString intent.amountAtomic)),
        ("status", .str "inventory_committed")]
    |>.pairingClosedEvent id intent .settled

/-- `commit_confirmed_inventory`. -/
def commitConfirmedInventory (s : Ledger) (id : String) : Except String Ledger :=
  match s.intents.get id with
  | none => .error "settlement_intent_not_found"
  | some row =>
    let intent := row.intent
    match s.commits.get id with
    | some _ => .ok ((s.closeDeal intent .settled).pairingClosedEvent id intent .settled)
    | none =>
      if row.status ≠ .chainConfirmedUncommitted then .error "chain_confirmation_required"
      else if (s.confirmations.get id).isNone then .error "chain_confirmation_required"
      else
        match s.balances.get intent.buyerParticipantId,
            s.balances.get intent.sellerParticipantId with
        | some buyerCash, some sellerCash =>
          match s.holdings.get (intent.buyerParticipantId, intent.goodId),
              s.holdings.get (intent.sellerParticipantId, intent.goodId) with
          | some buyerHolding, some sellerHolding =>
            if buyerCash < intent.amountAtomic then .error "buyer_cash_changed_before_commit"
            else if sellerHolding < intent.quantity then
              .error "seller_inventory_changed_before_commit"
            else
              let c : CommitRow :=
                { buyerCashBefore := buyerCash
                  buyerCashAfter := buyerCash - intent.amountAtomic
                  sellerCashBefore := sellerCash
                  sellerCashAfter := sellerCash + intent.amountAtomic
                  buyerHoldingBefore := buyerHolding
                  buyerHoldingAfter := buyerHolding + intent.quantity
                  sellerHoldingBefore := sellerHolding
                  sellerHoldingAfter := sellerHolding - intent.quantity }
              if !commitRowValid c then .error "check_violation"
              else .ok (s.moveAssets id row c)
          | _, _ => .error "settlement_holding_projection_missing"
        | _, _ => .error "settlement_balance_projection_missing"

/-! ### Any sequence of calls -/

/-- A call of the repository. -/
inductive Operation
  | approve (id approvedIntentHash nonce source : String)
  | submit (id txHash nonce approvedIntentHash source : String)
  | timeout (id : String)
  | fail (id safeErrorCode : String)
  | confirm (id : String) (c : ChainConfirmation)
  | revert (id txHash : String)
  | commit (id : String)

/-- The result of one call. -/
def call (s : Ledger) : Operation → Except String Ledger
  | .approve id approvedIntentHash nonce source =>
    s.recordSettlementApproval digest id approvedIntentHash nonce source
  | .submit id txHash nonce approvedIntentHash source =>
    s.recordSettlementSubmission digest id txHash nonce approvedIntentHash source
  | .timeout id => s.markConfirmationTimeout id
  | .fail id safeErrorCode => s.recordAutomaticFailure id safeErrorCode
  | .confirm id c => s.recordChainConfirmation evidenceHash intact id c
  | .revert id txHash => s.recordChainReverted id txHash
  | .commit id => s.commitConfirmedInventory id

/-- The tables after one call: a call that raises is rolled back. -/
def apply (s : Ledger) (op : Operation) : Ledger :=
  match s.call digest evidenceHash intact op with
  | .ok s' => s'
  | .error _ => s

/-- The tables after a sequence of calls. -/
def run (s : Ledger) (ops : List Operation) : Ledger :=
  ops.foldl (apply digest evidenceHash intact) s

end Operations

end Ledger

end Arena402.Game
