/-
The recovery worker: a scan over the settlements that wait for the chain.

The worker works on a repository and a reader.  The repository is an interface, so that what
the worker does can be stated for any of them; `Journal` is the one over the settlement
ledger, which also writes down every transaction that was committed and for which target.  A
call that raises ends the scan: `run_once` has no handler.
-/
import Arena402.Game.EvmConfirmation
import Arena402.Game.SettlementLedger
import Arena402.Lib.Method

namespace Arena402.Game

open Py

/-- The message of what a reader raised. -/
def ReadError.message : ReadError → String
  | .chainRead code => code
  | .settlement code => code
  | .typeError => "TypeError"

/-- The repository methods that `_recover` calls, with the intents it returns. -/
structure RecoveryRepository (σ ι : Type) where
  settlementConfirmationTarget : String → Method σ (ι × String)
  recordChainReverted : String → String → Method σ Unit
  recordChainConfirmation : String → ChainConfirmation → Method σ Unit
  commitConfirmedInventory : String → Method σ Unit

/-- A row of `recoverable_settlement_targets`. -/
structure RecoveryTarget where
  settlementIntentId : String
  status : SettlementStatus
deriving DecidableEq, Repr

section Worker

variable {σ ι : Type} (repository : RecoveryRepository σ ι) (requiredConfirmations : ι → Int)
  (read : ι → String → Except ReadError (Option ChainConfirmation))

/-- `_recover` once the reader has answered. -/
def settle (id : String) (intent : ι) (txHash : String) (confirmation : Option ChainConfirmation) :
    Method σ Unit :=
  match confirmation with
  | none => pure ()
  | some c =>
    if c.success = false then repository.recordChainReverted id txHash
    else if (c.confirmationCount : Int) < requiredConfirmations intent then pure ()
    else do
      repository.recordChainConfirmation id c
      repository.commitConfirmedInventory id

/-- `_recover` from the reader's answer on. -/
def recoverFrom (id : String) (intent : ι) (txHash : String)
    (answer : Except ReadError (Option ChainConfirmation)) : Method σ Unit := do
  let confirmation ← Method.check (answer.mapError ReadError.message)
  settle repository requiredConfirmations id intent txHash confirmation

/-- `_recover`. -/
def recover (target : RecoveryTarget) : Method σ Unit :=
  if target.status = .chainConfirmedUncommitted then
    repository.commitConfirmedInventory target.settlementIntentId
  else do
    let found ← repository.settlementConfirmationTarget target.settlementIntentId
    recoverFrom repository requiredConfirmations target.settlementIntentId found.1 found.2
      (read found.1 found.2)

/-- The loop of `run_once`. -/
def recoverAll : List RecoveryTarget → Method σ Unit
  | [] => pure ()
  | target :: rest => do
    recover repository requiredConfirmations read target
    recoverAll rest

end Worker

/-! ### The ledger as a repository -/

/-- The settlement tables, with the transactions that were committed and their targets. -/
structure Journal where
  ledger : Ledger
  committed : List (String × Ledger.Operation) := []

namespace Journal

variable (digest : String → String) (evidenceHash : ChainConfirmation → String)
  (intact : SettlementIntent → Bool)

/-- One transaction for a target: it is committed, or it raises and writes nothing. -/
def commit (id : String) (op : Ledger.Operation) : Method Journal Unit := do
  let self ← get
  let ledger ← Method.check (self.ledger.call digest evidenceHash intact op)
  modify fun j => { ledger := ledger, committed := j.committed ++ [(id, op)] }

/-- The statuses that `settlement_confirmation_target` accepts. -/
def recoverable (status : SettlementStatus) : Bool :=
  status = .submitted || status = .confirmationTimeout || status = .chainConfirmedUncommitted ||
    status = .inventoryCommitted

/-- `settlement_confirmation_target`. -/
def confirmationTarget (s : Ledger) (id : String) : Except String (SettlementIntent × String) :=
  match s.intents.get id, s.submissions.get id with
  | some row, some submission =>
    if !recoverable row.status then .error "settlement_not_recoverable"
    else if !intact row.intent then .error "settlement_intent_integrity_failure"
    else .ok (row.intent, submission.txHash)
  | _, _ => .error "settlement_submission_not_found"

/-- The ledger behind the methods of the worker. -/
def repository : RecoveryRepository Journal SettlementIntent where
  settlementConfirmationTarget id := do
    let self ← get
    Method.check (confirmationTarget intact self.ledger id)
  recordChainReverted id txHash := commit digest evidenceHash intact id (.revert id txHash)
  recordChainConfirmation id c := commit digest evidenceHash intact id (.confirm id c)
  commitConfirmedInventory id := commit digest evidenceHash intact id (.commit id)

/-- `run_once` over the targets that the scan found. -/
def runOnce (read : SettlementIntent → String → Except ReadError (Option ChainConfirmation))
    (targets : List RecoveryTarget) : Method Journal Nat := do
  recoverAll (repository digest evidenceHash intact) (fun intent => intent.requiredConfirmations)
    read targets
  return targets.length

end Journal

end Arena402.Game
