/-
Frozen settlement intents and the chain evidence they are checked against.

An intent freezes the economic facts of an accepted deal: who pays whom, for how much of
which good, on which chain.  A confirmation is what was observed on the chain.  Inventory
moves only after a confirmation was checked against the intent.
-/
import Arena402.Payments.Models

namespace Arena402.Game

open Arena402.Payments (IsAddress hexPattern txHashPattern)

/-- The statuses of `settlement_intents`. -/
inductive SettlementStatus
  | authorizationRequested
  | submitted
  | confirmationTimeout
  | chainConfirmedUncommitted
  | inventoryCommitted
  | authorizationFailed
  | submissionFailed
  | expired
  | reverted
deriving DecidableEq, Repr

/-- The columns of a settlement intent that never change. -/
structure SettlementIntent where
  gameId : String
  roundId : String
  pairingId : String
  negotiationId : String
  buyerParticipantId : String
  sellerParticipantId : String
  buyerAccount : String
  sellerAccount : String
  goodId : String
  quantity : Nat
  unitPriceAtomic : Nat
  amountAtomic : Nat
  chainId : Nat
  tokenAddress : String
  requiredConfirmations : Nat
  intentHash : String
  quantityPositive : 0 < quantity
  pricePositive : 0 < unitPriceAtomic
  amountIsProduct : amountAtomic = unitPriceAtomic * quantity
  participantsDiffer : buyerParticipantId ≠ sellerParticipantId
  accountsDiffer : buyerAccount ≠ sellerAccount
  confirmationsInRange : 1 ≤ requiredConfirmations ∧ requiredConfirmations ≤ 100

/-- What was observed on the chain.  The text fields hold what `__post_init__` normalised. -/
structure ChainConfirmation where
  txHash : String
  chainId : Nat
  facilitatorAddress : String
  tokenAddress : String
  fromAccount : String
  toAccount : String
  amountAtomic : Nat
  blockNumber : Nat
  blockHash : String
  confirmationCount : Nat
  success : Bool
  txHashValid : txHashPattern txHash = true ∧ Py.lower txHash = txHash
  facilitatorValid : IsAddress facilitatorAddress
  tokenValid : IsAddress tokenAddress
  fromValid : IsAddress fromAccount
  toValid : IsAddress toAccount
  blockHashValid : hexPattern 64 blockHash = true
  chainPositive : 0 < chainId
  amountPositive : 0 < amountAtomic

/-- `validate_chain_confirmation`: the first reason the evidence is not for the intent. -/
def validateChainConfirmation (intent : SettlementIntent) (c : ChainConfirmation) :
    Option String :=
  if !c.success then some "chain_transaction_failed"
  else if c.chainId ≠ intent.chainId then some "chain_id_mismatch"
  else if c.tokenAddress ≠ intent.tokenAddress then some "token_mismatch"
  else if c.fromAccount ≠ intent.buyerAccount then some "payer_mismatch"
  else if c.toAccount ≠ intent.sellerAccount then some "payee_mismatch"
  else if c.amountAtomic ≠ intent.amountAtomic then some "amount_mismatch"
  else if c.confirmationCount < intent.requiredConfirmations then
    some "insufficient_confirmations"
  else none

/-- `normalize_tx_hash` and `normalize_authorization_nonce`. -/
def normalizeHex (error value : String) : Except String String :=
  if hexPattern 64 value then .ok (Py.lower value) else .error error

/-- `_INTENT_HASH`: `sha256:` and 64 lower-case hexadecimal digits. -/
def intentHashPattern (s : String) : Bool :=
  let cs := s.toList
  "sha256:".toList.isPrefixOf cs && (cs.drop 7).length = 64 &&
    (cs.drop 7).all fun c => c.isDigit || ('a' ≤ c && c ≤ 'f')

end Arena402.Game
