/-
The settlement intent and the chain evidence as they are hashed.

`Game/Settlement.lean` keeps the columns of an intent the ledger works with.  Here are all
the fields of the dataclass, what its constructor checks and normalises, and the snapshot
whose canonical JSON text gives the intent hash and, through it, the nonce of the payment
authorization.  A confirmation is hashed the same way, over everything that was observed.
-/
import Arena402.Core.Hashing
import Arena402.Game.Settlement
import Arena402.Lib.Raise

namespace Arena402.Game.Settlement

open Py
open Arena402.Payments (addressPattern)

/-- How a payment is authorized. -/
inductive AuthorizationMode
  | none
  | singleEip3009
deriving DecidableEq, Repr

def AuthorizationMode.name : AuthorizationMode → String
  | .none => "none"
  | .singleEip3009 => "single_eip3009"

/-- An intent with all of its fields. -/
structure SettlementIntent where
  settlementIntentId : String
  gameId : String
  roundId : String
  pairingId : String
  negotiationId : String
  buyerParticipantId : String
  sellerParticipantId : String
  buyerAgentId : String
  sellerAgentId : String
  buyerAccount : String
  sellerAccount : String
  good : String
  quantity : Int
  unitPriceAtomic : Int
  amountAtomic : Int
  chainId : Int
  tokenAddress : String
  tokenSymbol : String
  tokenDecimals : Int
  requiredConfirmations : Int
  authorizationMode : AuthorizationMode
  idempotencyKey : String
  tokenEip712Name : Option String := none
  tokenEip712Version : Option String := none
deriving DecidableEq, Repr

/-- `normalize_evm_address`. -/
def normalizeEvmAddress (value : String) : Except String String :=
  if !addressPattern value then .error "invalid_evm_address" else .ok (lower value)

namespace SettlementIntent

/-- The identifiers that must not be empty. -/
def identifiers (i : SettlementIntent) : List String :=
  [i.settlementIntentId, i.gameId, i.roundId, i.pairingId, i.negotiationId, i.buyerParticipantId,
    i.sellerParticipantId, i.buyerAgentId, i.sellerAgentId, i.good, i.idempotencyKey]

/-- An EIP-712 name or version that the constructor refuses. -/
def badDomainText (limit : Nat) (text : Option String) : Bool :=
  match text with
  | Option.none => true
  | some text => text.isEmpty || limit < text.length

/-- The checks after the addresses were normalised. -/
def check (i : SettlementIntent) : Except String SettlementIntent :=
  if i.buyerAccount = i.sellerAccount then .error "buyer_and_seller_accounts_must_differ"
  else if i.quantity ≤ 0 then .error "settlement_quantity_must_be_positive"
  else if i.unitPriceAtomic ≤ 0 then .error "settlement_price_must_be_positive"
  else if i.amountAtomic ≠ i.unitPriceAtomic * i.quantity then .error "settlement_amount_mismatch"
  else if i.chainId ≤ 0 then .error "invalid_chain_id"
  else if i.tokenDecimals ≠ 6 then .error "token_decimals_must_match_gold_scale"
  else if ¬ (1 ≤ i.requiredConfirmations ∧ i.requiredConfirmations ≤ 100) then
    .error "invalid_required_confirmations"
  else if i.authorizationMode ≠ .singleEip3009 then .error "unsupported_authorization_mode"
  else if i.tokenEip712Name.isNone ≠ i.tokenEip712Version.isNone then
    .error "incomplete_token_eip712_domain"
  else if i.tokenEip712Name.isSome &&
      (badDomainText 128 i.tokenEip712Name || badDomainText 32 i.tokenEip712Version) then
    .error "invalid_token_eip712_domain"
  else .ok i

/-- `__post_init__`: the intent with its addresses in lower case. -/
def postInit (i : SettlementIntent) : Except String SettlementIntent :=
  if i.identifiers.any (·.isEmpty) then .error "settlement_identifier_required"
  else do
    let buyerAccount ← normalizeEvmAddress i.buyerAccount
    let sellerAccount ← normalizeEvmAddress i.sellerAccount
    let tokenAddress ← normalizeEvmAddress i.tokenAddress
    check { i with
      buyerAccount := buyerAccount
      sellerAccount := sellerAccount
      tokenAddress := tokenAddress }

/-- An intent that some call of the constructor returned. -/
def Constructible (i : SettlementIntent) : Prop :=
  ∃ given : SettlementIntent, given.postInit = .ok i

/-- The EIP-712 fields, which are left out when there is no name. -/
def domainFields (i : SettlementIntent) : List (String × Json) :=
  match i.tokenEip712Name with
  | Option.none => []
  | some name =>
    [("tokenEip712Name", .str name), ("tokenEip712Version", .opt .str i.tokenEip712Version)]

/-- The fields of `to_snapshot`. -/
def snapshotFields (i : SettlementIntent) : List (String × Json) :=
  [("schemaVersion", .str "arena402.settlement-intent.v1"),
    ("settlementIntentId", .str i.settlementIntentId),
    ("gameId", .str i.gameId),
    ("roundId", .str i.roundId),
    ("pairingId", .str i.pairingId),
    ("negotiationId", .str i.negotiationId),
    ("buyerParticipantId", .str i.buyerParticipantId),
    ("sellerParticipantId", .str i.sellerParticipantId),
    ("buyerAgentId", .str i.buyerAgentId),
    ("sellerAgentId", .str i.sellerAgentId),
    ("buyerAccount", .str i.buyerAccount),
    ("sellerAccount", .str i.sellerAccount),
    ("good", .str i.good),
    ("quantity", .int i.quantity),
    ("unitPriceAtomic", .intStr i.unitPriceAtomic),
    ("amountAtomic", .intStr i.amountAtomic),
    ("chainId", .int i.chainId),
    ("tokenAddress", .str i.tokenAddress),
    ("tokenSymbol", .str i.tokenSymbol),
    ("tokenDecimals", .int i.tokenDecimals),
    ("requiredConfirmations", .int i.requiredConfirmations),
    ("authorizationMode", .str i.authorizationMode.name),
    ("idempotencyKey", .str i.idempotencyKey)] ++ i.domainFields

/-- `to_snapshot`. -/
def toSnapshot (i : SettlementIntent) : Json :=
  .object i.snapshotFields

/-- `intent_hash`. -/
def intentHash (hexdigest : ByteArray → String) (i : SettlementIntent) : String :=
  sha256Identifier hexdigest i.toSnapshot

end SettlementIntent

end Arena402.Game.Settlement

namespace Arena402.Game.ChainConfirmation

open Py

/-- The fields of `to_snapshot`. -/
def snapshotFields (c : ChainConfirmation) : List (String × Json) :=
  [("schemaVersion", .str "arena402.chain-confirmation.v2"),
    ("txHash", .str c.txHash),
    ("chainId", .int c.chainId),
    ("facilitatorAddress", .str c.facilitatorAddress),
    ("tokenAddress", .str c.tokenAddress),
    ("from", .str c.fromAccount),
    ("to", .str c.toAccount),
    ("amountAtomic", .intStr c.amountAtomic),
    ("blockNumber", .int c.blockNumber),
    ("blockHash", .str c.blockHash),
    ("confirmationCount", .int c.confirmationCount),
    ("success", .bool c.success)]

/-- `to_snapshot`. -/
def toSnapshot (c : ChainConfirmation) : Json :=
  .object c.snapshotFields

/-- `evidence_hash`. -/
def evidenceHash (hexdigest : ByteArray → String) (c : ChainConfirmation) : String :=
  sha256Identifier hexdigest c.toSnapshot

end Arena402.Game.ChainConfirmation
