/-
The read-only chain reader: one frozen payment resolved from a transaction receipt.

`_read_sync` asks a JSON-RPC node; when the node has no receipt, `_read_blockscout` asks an
explorer.  The two read the same facts out of different JSON shapes.  The answers are
parameters: what each call of `_rpc` and `_get_json` gave back, or raised.  `str(value)` is
modelled for strings and the short texts of other values, none of which is an address, a hash
or a topic.
-/
import Arena402.Game.SettlementSnapshot

namespace Arena402.Game

open Py
open Arena402.Payments (IsAddress isHex hexPattern addressPattern txHashPattern)
open Arena402.Game.Settlement (normalizeEvmAddress)

/-! ### The confirmation -/

/-- The arguments of `ChainConfirmation(..)`. -/
structure ConfirmationFields where
  txHash : String
  chainId : Int
  facilitatorAddress : String
  tokenAddress : String
  fromAccount : String
  toAccount : String
  amountAtomic : Int
  blockNumber : Int
  blockHash : String
  confirmationCount : Int
  success : Bool
deriving DecidableEq, Repr

/-- The hexadecimal digits. -/
def hexDigits : List Char :=
  "0123456789abcdefABCDEF".toList

theorem mem_hexDigits {c : Char} (h : isHex c = true) : c ∈ hexDigits := by
  have hrange : (48 ≤ c.toNat ∧ c.toNat ≤ 57) ∨ (97 ≤ c.toNat ∧ c.toNat ≤ 102) ∨
      (65 ≤ c.toNat ∧ c.toNat ≤ 70) := by
    simp only [isHex, Char.isDigit, Bool.or_eq_true, Bool.and_eq_true, decide_eq_true_eq] at h
    rcases h with (h | h) | h
    · exact Or.inl h
    · exact Or.inr (Or.inl h)
    · exact Or.inr (Or.inr h)
  have hc : c = Char.ofNat c.toNat := (Char.ofNat_toNat c).symm
  generalize c.toNat = n at *
  subst hc
  rcases hrange with ⟨hlow, hhigh⟩ | ⟨hlow, hhigh⟩ | ⟨hlow, hhigh⟩ <;> interval_cases n <;> decide

theorem isHex_toLower {c : Char} (h : isHex c = true) :
    isHex c.toLower = true ∧ c.toLower.toLower = c.toLower := by
  have hall : hexDigits.all (fun d => isHex d.toLower && d.toLower.toLower == d.toLower) = true := by
    decide
  have hdigit := List.all_eq_true.mp hall c (mem_hexDigits h)
  simpa using hdigit

/-- The digits of a text with the pattern, and of the same text in lower case. -/
theorem hexPattern_lower {n : Nat} {s : String} (h : hexPattern n s = true) :
    hexPattern n (lower s) = true ∧ lower (lower s) = lower s := by
  unfold hexPattern at h
  split at h
  · rename_i rest heq
    simp only [Bool.and_eq_true, decide_eq_true_eq, List.all_eq_true] at h
    have hlower : (lower s).toList = '0' :: 'x' :: rest.map Char.toLower := by
      unfold lower
      rw [String.toList_ofList, heq]
      rfl
    constructor
    · unfold hexPattern
      rw [hlower]
      simp only [Bool.and_eq_true, decide_eq_true_eq, List.all_eq_true, List.length_map]
      refine ⟨h.1, ?_⟩
      intro c hc
      obtain ⟨d, hd, rfl⟩ := List.mem_map.mp hc
      exact (isHex_toLower (h.2 d hd)).1
    · rw [← String.toList_inj, hlower]
      show (String.ofList ((lower s).toList.map Char.toLower)).toList = _
      rw [String.toList_ofList, hlower, List.map_cons, List.map_cons, List.map_map]
      have hrest : rest.map (Char.toLower ∘ Char.toLower) = rest.map Char.toLower :=
        List.map_congr_left fun c hc => (isHex_toLower (h.2 c hc)).2
      rw [hrest]
      rfl
  · cases h

/-- `ChainConfirmation.__post_init__`: the texts are checked and put in lower case. -/
def ConfirmationFields.postInit (f : ConfirmationFields) : Except String ChainConfirmation :=
  if htx : txHashPattern f.txHash = true then
    if hfacilitator : addressPattern f.facilitatorAddress = true then
      if htoken : addressPattern f.tokenAddress = true then
        if hfrom : addressPattern f.fromAccount = true then
          if hto : addressPattern f.toAccount = true then
            if hblock : hexPattern 64 f.blockHash = true then
              if hchain : 0 < f.chainId then
                if hamount : 0 < f.amountAtomic then
                  if f.blockNumber < 0 || f.confirmationCount < 0 then
                    .error "invalid_confirmation_height"
                  else
                    .ok {
                      txHash := lower f.txHash
                      chainId := f.chainId.toNat
                      facilitatorAddress := lower f.facilitatorAddress
                      tokenAddress := lower f.tokenAddress
                      fromAccount := lower f.fromAccount
                      toAccount := lower f.toAccount
                      amountAtomic := f.amountAtomic.toNat
                      blockNumber := f.blockNumber.toNat
                      blockHash := lower f.blockHash
                      confirmationCount := f.confirmationCount.toNat
                      success := f.success
                      txHashValid := hexPattern_lower htx
                      facilitatorValid := hexPattern_lower hfacilitator
                      tokenValid := hexPattern_lower htoken
                      fromValid := hexPattern_lower hfrom
                      toValid := hexPattern_lower hto
                      blockHashValid := (hexPattern_lower hblock).1
                      chainPositive := by omega
                      amountPositive := by omega }
                else .error "invalid_confirmation_amount"
              else .error "invalid_chain_id"
            else .error "invalid_block_hash"
          else .error "invalid_evm_address"
        else .error "invalid_evm_address"
      else .error "invalid_evm_address"
    else .error "invalid_evm_address"
  else .error "invalid_transaction_hash"

/-- `validate_chain_confirmation`, of an intent with all its fields. -/
def Settlement.validateChainConfirmation (intent : Settlement.SettlementIntent)
    (c : ChainConfirmation) : Option String :=
  if !c.success then some "chain_transaction_failed"
  else if (c.chainId : Int) ≠ intent.chainId then some "chain_id_mismatch"
  else if c.tokenAddress ≠ intent.tokenAddress then some "token_mismatch"
  else if c.fromAccount ≠ intent.buyerAccount then some "payer_mismatch"
  else if c.toAccount ≠ intent.sellerAccount then some "payee_mismatch"
  else if (c.amountAtomic : Int) ≠ intent.amountAtomic then some "amount_mismatch"
  else if (c.confirmationCount : Int) < intent.requiredConfirmations then
    some "insufficient_confirmations"
  else none

/-! ### Reading JSON -/

/-- What the reader raises. -/
inductive ReadError
  | chainRead (code : String)
  | settlement (code : String)
  | typeError
deriving DecidableEq, Repr

/-- `str(value)`; the texts of floats, lists and mappings are left open. -/
def strOf : Value → String
  | .str s => s
  | .none => "None"
  | .bool true => "True"
  | .bool false => "False"
  | .int n => toString n
  | _ => ""

/-- `int(value)`; `none` is the `TypeError` or the `ValueError`. -/
def intOf : Value → Option Int
  | .int n => some n
  | .bool b => some (if b then 1 else 0)
  | .float q => some (q.num.tdiv q.den)
  | .str s => parseInt s.toList
  | _ => none

/-- `int(value[key])`; `none` also for the `KeyError`. -/
def intField (entries : List (Key × Value)) (key : String) : Option Int :=
  (entries.lookup (.text key)).bind intOf

/-- The value of a hexadecimal digit. -/
def hexValue (c : Char) : Nat :=
  if c.isDigit then c.toNat - 48 else c.toLower.toNat - 87

/-- The digits of a hexadecimal literal after its prefix, with single underscores before and
    between them. -/
def hexBody (cs : List Char) : Option Nat :=
  let digits := match cs with
    | '_' :: rest => rest
    | _ => cs
  if digits.isEmpty || !(digits.all fun c => isHex c || c = '_') || digits.head? = some '_' ||
      digits.getLast? = some '_' || contains ['_', '_'] digits then none
  else some ((digits.filter isHex).foldl (fun n c => n * 16 + hexValue c) 0)

/-- `_hex_int`. -/
def hexInt (value : Value) : Except ReadError Nat :=
  match value with
  | .str s =>
    match s.toList with
    | '0' :: 'x' :: _ =>
      match intSource s.toList with
      | '0' :: 'x' :: rest =>
        match hexBody rest with
        | some n => .ok n
        | none => .error (.chainRead "invalid_rpc_quantity")
      | _ => .error (.chainRead "invalid_rpc_quantity")
    | _ => .error (.chainRead "invalid_rpc_quantity")
  | _ => .error (.chainRead "invalid_rpc_quantity")

/-- `_transaction_sender`. -/
def transactionSender : Value → Option String
  | .dict entries =>
    let sender := match Value.get entries "from" with
      | .dict inner => Value.get inner "hash"
      | value => value
    (normalizeEvmAddress (strOf sender)).toOption
  | _ => none

/-- `_topic_address`. -/
def topicAddress (value : Value) : Except ReadError String :=
  match value with
  | .str s =>
    match s.toList with
    | '0' :: 'x' :: digits =>
      if digits.length ≠ 64 then .error (.chainRead "invalid_transfer_topic")
      else
        (normalizeEvmAddress (String.ofList ('0' :: 'x' :: digits.drop 24))).mapError .settlement
    | _ => .error (.chainRead "invalid_transfer_topic")
  | _ => .error (.chainRead "invalid_transfer_topic")

/-- `_TRANSFER_TOPIC`. -/
def transferTopic : String :=
  "0xddf252ad1be2c89b69c2b068fc378daa952ba7f163c4a11628f55a4df523b3ef"

/-- The confirmation that a reader returns. -/
def confirm (f : ConfirmationFields) : Except ReadError (Option ChainConfirmation) :=
  match f.postInit with
  | .ok c => .ok (some c)
  | .error code => .error (.settlement code)

/-! ### The explorer -/

/-- What `_get_json` gave back for the two pages of a transaction; `None` for a 404. -/
structure Explorer where
  transaction : Except ReadError Value
  tokenTransfers : Except ReadError Value

section

variable (intent : Settlement.SettlementIntent) (txHash : String)

/-- The five fields of a token transfer that are compared; `none` when one cannot be read. -/
def readTransfer (item : Value) : Option (String × String × String × Int × Int) :=
  match item with
  | .dict fields =>
    match Value.get fields "token", Value.get fields "from", Value.get fields "to",
        Value.get fields "total" with
    | .dict token, .dict sender, .dict receiver, .dict total => do
      let tokenAddress ← (normalizeEvmAddress (strOf (.get token "address_hash"))).toOption
      let fromAccount ← (normalizeEvmAddress (strOf (.get sender "hash"))).toOption
      let toAccount ← (normalizeEvmAddress (strOf (.get receiver "hash"))).toOption
      let amount ← intOf (.get total "value")
      let decimals ← intOf (.get total "decimals")
      return (tokenAddress, fromAccount, toAccount, amount, decimals)
    | _, _, _, _ => none
  | _ => none

/-- Whether an item of the page is the frozen payment. -/
def matchesItem (item : Value) : Bool :=
  readTransfer item
    = some (intent.tokenAddress, intent.buyerAccount, intent.sellerAccount, intent.amountAtomic,
      intent.tokenDecimals)

/-- The end of `_read_blockscout`: the block of the one match. -/
def confirmItem (facilitatorAddress : String) (blockNumber confirmationCount : Int) (item : Value) :
    Except ReadError (Option ChainConfirmation) :=
  match item with
  | .dict fields =>
    match intField fields "block_number", fields.lookup (.text "block_hash") with
    | some transferBlockNumber, some blockHash =>
      if transferBlockNumber ≠ blockNumber then .error (.chainRead "blockscout_block_mismatch")
      else
        confirm {
          txHash := txHash
          chainId := intent.chainId
          facilitatorAddress := facilitatorAddress
          tokenAddress := intent.tokenAddress
          fromAccount := intent.buyerAccount
          toAccount := intent.sellerAccount
          amountAtomic := intent.amountAtomic
          blockNumber := blockNumber
          blockHash := strOf blockHash
          confirmationCount := confirmationCount
          success := true }
    | _, _ => .error (.chainRead "blockscout_invalid_token_transfers")
  | _ => .error (.chainRead "blockscout_invalid_token_transfers")

/-- The items of a complete page. -/
def pageItems (page : Value) : Except ReadError (List Value) :=
  match page with
  | .dict transfers =>
    match Value.get transfers "next_page_params" with
    | .none =>
      match Value.get transfers "items" with
      | .list items => .ok items
      | _ => .error (.chainRead "blockscout_invalid_token_transfers")
    | _ => .error (.chainRead "blockscout_transfer_page_truncated")
  | _ => .error (.chainRead "blockscout_invalid_token_transfers")

/-- The reading of a transaction whose status is `ok`. -/
def readSuccessful (explorer : Explorer) (transaction : List (Key × Value)) :
    Except ReadError (Option ChainConfirmation) :=
  match intField transaction "block_number", intField transaction "confirmations",
      transactionSender (.dict transaction) with
  | some blockNumber, some confirmationCount, some facilitatorAddress => do
    let page ← explorer.tokenTransfers
    let items ← pageItems page
    match items.filter (matchesItem intent) with
    | [item] => confirmItem intent txHash facilitatorAddress blockNumber confirmationCount item
    | _ => .error (.chainRead "expected_transfer_event_not_found")
  | _, _, _ => .error (.chainRead "blockscout_invalid_transaction")

/-- `_read_blockscout`. -/
def readBlockscout (explorer : Explorer) : Except ReadError (Option ChainConfirmation) := do
  let page ← explorer.transaction
  match page with
  | .none => .ok none
  | .dict transaction =>
    match Value.get transaction "status" with
    | .str "ok" =>
      match Value.get transaction "result" with
      | .str "success" => readSuccessful intent txHash explorer transaction
      | _ => .error (.chainRead "chain_transaction_reverted")
    | .str "error" => .error (.chainRead "chain_transaction_reverted")
    -- an unhashable value cannot be looked up in the set of statuses
    | .list _ => .error .typeError
    | .dict _ => .error .typeError
    | _ => .ok none
  | _ => .error (.chainRead "blockscout_invalid_transaction")

/-! ### The node -/

/-- What `_rpc` gave back for the four methods. -/
structure Rpc where
  chainId : Except ReadError Value
  transactionReceipt : Except ReadError Value
  transactionByHash : Except ReadError Value
  blockNumber : Except ReadError Value

/-- The sender of the receipt, or else of the transaction. -/
def receiptSender (rpc : Rpc) (receipt : List (Key × Value)) : Except ReadError String :=
  match transactionSender (.dict receipt) with
  | some sender => .ok sender
  | none => do
    let transaction ← rpc.transactionByHash
    match transactionSender transaction with
    | some sender => .ok sender
    | none => .error (.chainRead "transaction_sender_missing")

/-- The body of the loop over the logs: a `Transfer` event of the token, if it is the frozen
    payment. -/
def matchLog (log : Value) : Except ReadError (Option (String × String × Int)) :=
  match log with
  | .dict fields =>
    match normalizeEvmAddress (strOf (.get fields "address")) with
    | .error _ => .ok none
    | .ok address =>
      match Value.get fields "topics" with
      | .list (topic :: first :: second :: _) =>
        if address ≠ intent.tokenAddress || lower (strOf topic) ≠ transferTopic then .ok none
        else do
          let fromAccount ← topicAddress first
          let toAccount ← topicAddress second
          let amount ← hexInt (.get fields "data")
          return if fromAccount = intent.buyerAccount && toAccount = intent.sellerAccount &&
              (amount : Int) = intent.amountAtomic
            then some (fromAccount, toAccount, (amount : Int)) else none
      | _ => .ok none
  | _ => .ok none

/-- The loop over the logs. -/
def matchLogs : List Value → Except ReadError (List (String × String × Int))
  | [] => .ok []
  | log :: rest => do
    let found ← matchLog intent log
    let more ← matchLogs rest
    return found.toList ++ more

/-- The reading of a receipt. -/
def readReceipt (rpc : Rpc) (chainId : Nat) (receipt : List (Key × Value)) :
    Except ReadError (Option ChainConfirmation) := do
  let blockNumber ← hexInt (.get receipt "blockNumber")
  let status ← hexInt (.get receipt "status")
  let facilitatorAddress ← receiptSender rpc receipt
  let head ← rpc.blockNumber
  let latestBlock ← hexInt head
  let fields : ConfirmationFields := {
    txHash := txHash
    chainId := chainId
    facilitatorAddress := facilitatorAddress
    tokenAddress := intent.tokenAddress
    fromAccount := intent.buyerAccount
    toAccount := intent.sellerAccount
    amountAtomic := intent.amountAtomic
    blockNumber := blockNumber
    blockHash := strOf (.get receipt "blockHash")
    confirmationCount := max 0 ((latestBlock : Int) - blockNumber + 1)
    success := false }
  if status = 0 then confirm fields
  else if status ≠ 1 then .error (.chainRead "unknown_transaction_receipt_status")
  else
    match Value.get receipt "logs" with
    | .list logs => do
      let found ← matchLogs intent logs
      match found with
      | [(fromAccount, toAccount, amount)] =>
        confirm { fields with
          fromAccount := fromAccount
          toAccount := toAccount
          amountAtomic := amount
          success := true }
      | _ => .error (.chainRead "expected_transfer_event_not_found")
    | _ => .error (.chainRead "transaction_receipt_logs_missing")

/-- `_read_sync`. -/
def readSync (rpc : Rpc) (explorer : Option Explorer) :
    Except ReadError (Option ChainConfirmation) := do
  let answer ← rpc.chainId
  let chainId ← hexInt answer
  if (chainId : Int) ≠ intent.chainId then .error (.chainRead "settlement_rpc_chain_mismatch")
  else do
    let receipt ← rpc.transactionReceipt
    match receipt, explorer with
    | .none, some explorer => readBlockscout intent txHash explorer
    | .none, none => .ok none
    | .dict receipt, _ => readReceipt intent txHash rpc chainId receipt
    | _, _ => .error (.chainRead "invalid_transaction_receipt")

end

end Arena402.Game
