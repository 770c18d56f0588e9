/-
The node and the explorer, reading the same chain.

The facts of a mined transaction are stated apart from any JSON; an answer describes them
when its fields read as the facts.  Both readers look for the one transfer that is the frozen
payment, so on a successful transaction they agree, as long as the token has the decimals of
the intent and every transfer of it has an amount.  Transfers of other tokens, whatever their
logs and items hold, are passed over by both.  A reverted transaction has no answer in common:
the node's receipt gives a confirmation with `success = False`, the explorer's page raises.
-/
import Arena402.Game.SettlementWorker
import Arena402.Proofs.Game.SettlementSnapshot

namespace Arena402.Game

open Py
open Arena402.Payments (IsAddress hexPattern addressPattern txHashPattern)
open Arena402.Game.Settlement (normalizeEvmAddress)

/-! ### Chain facts -/

/-- A transfer of a token; `none` where it has no amount, as that of a single piece has none. -/
structure Transfer where
  token : String
  sender : String
  receiver : String
  amount : Option Nat
deriving DecidableEq

/-- What the chain says about a mined transaction. -/
structure ChainFacts where
  chainId : Nat
  succeeded : Bool
  blockNumber : Nat
  blockHash : String
  head : Nat
  sender : String
  transfers : List Transfer
  /-- What a token says of its decimals, if it says anything. -/
  decimals : String → Option Nat
  mined : blockNumber ≤ head

/-- The confirmations of a mined transaction. -/
def ChainFacts.depth (facts : ChainFacts) : Int :=
  (facts.head : Int) - facts.blockNumber + 1

/-- The transfers of one token, in their order. -/
def ChainFacts.transfersOf (facts : ChainFacts) (token : String) : List Transfer :=
  facts.transfers.filter fun t => t.token = token

/-- A text for a block hash, in any case. -/
def ReadsHash (value : Value) (blockHash : String) : Prop :=
  hexPattern 64 (strOf value) = true ∧ lower (strOf value) = blockHash

/-! ### What the node answers -/

/-- A log of the token with the first topic of a transfer and two parties. -/
def isTransferOf (token : String) : Value → Bool
  | .dict fields =>
    (normalizeEvmAddress (strOf (.get fields "address"))).toOption = some token &&
      match Value.get fields "topics" with
      | .list (topic :: _ :: _ :: _) => lower (strOf topic) = transferTopic
      | _ => false
  | _ => false

/-- A log that reads as a transfer; without an amount, its data is no quantity. -/
inductive TransferLog (t : Transfer) : Value → Prop
  | event {fields : List (Key × Value)} {topic first second : Value} {rest : List Value}
      (haddress : normalizeEvmAddress (strOf (.get fields "address")) = .ok t.token)
      (htopics : Value.get fields "topics" = .list (topic :: first :: second :: rest))
      (htopic : lower (strOf topic) = transferTopic) (hfrom : topicAddress first = .ok t.sender)
      (hto : topicAddress second = .ok t.receiver)
      (hdata : (hexInt (.get fields "data")).toOption = t.amount) : TransferLog t (.dict fields)

/-- The logs of a receipt: the transfers of the token in their order, among any other logs. -/
inductive DescribesLogs (token : String) : List Value → List Transfer → Prop
  | nil : DescribesLogs token [] []
  | transfer {t : Transfer} {log : Value} {logs : List Value} {ts : List Transfer}
      (h : TransferLog t log) (hrest : DescribesLogs token logs ts) :
      DescribesLogs token (log :: logs) (t :: ts)
  | other {log : Value} {logs : List Value} {ts : List Transfer}
      (h : isTransferOf token log = false) (hrest : DescribesLogs token logs ts) :
      DescribesLogs token (log :: logs) ts

/-- A receipt that reads as the facts, for a reader that looks for the token. -/
structure DescribesReceipt (token : String) (facts : ChainFacts) (rpc : Rpc)
    (receipt : List (Key × Value)) : Prop where
  blockNumber : hexInt (.get receipt "blockNumber") = .ok facts.blockNumber
  blockHash : ReadsHash (.get receipt "blockHash") facts.blockHash
  status : hexInt (.get receipt "status") = .ok (if facts.succeeded then 1 else 0)
  sender : transactionSender (.dict receipt) = some facts.sender ∨
    (transactionSender (.dict receipt) = none ∧
      ∃ transaction, rpc.transactionByHash = .ok transaction ∧
        transactionSender transaction = some facts.sender)
  logs : ∃ logs, Value.get receipt "logs" = .list logs ∧
    DescribesLogs token logs (facts.transfersOf token)

/-- The answers of a node that has the receipt. -/
structure DescribesNode (token : String) (facts : ChainFacts) (rpc : Rpc) : Prop where
  chainId : ∃ value, rpc.chainId = .ok value ∧ hexInt value = .ok facts.chainId
  head : ∃ value, rpc.blockNumber = .ok value ∧ hexInt value = .ok facts.head
  receipt : ∃ receipt, rpc.transactionReceipt = .ok (.dict receipt) ∧
    DescribesReceipt token facts rpc receipt

/-! ### What the explorer answers -/

/-- An item of the page that reads as a transfer of the transaction with its amount. -/
inductive TransferItem (facts : ChainFacts) (t : Transfer) : Value → Prop
  | item {fields token sender receiver total : List (Key × Value)} {blockHash : Value} {amount : Nat}
      (htoken : Value.get fields "token" = .dict token)
      (hsender : Value.get fields "from" = .dict sender)
      (hreceiver : Value.get fields "to" = .dict receiver)
      (htotal : Value.get fields "total" = .dict total)
      (haddress : normalizeEvmAddress (strOf (.get token "address_hash")) = .ok t.token)
      (hfrom : normalizeEvmAddress (strOf (.get sender "hash")) = .ok t.sender)
      (hto : normalizeEvmAddress (strOf (.get receiver "hash")) = .ok t.receiver)
      (hamount : t.amount = some amount) (hvalue : intOf (.get total "value") = some (amount : Int))
      (hdecimals : intOf (.get total "decimals") = (facts.decimals t.token).map Int.ofNat)
      (hnumber : intField fields "block_number" = some (facts.blockNumber : Int))
      (hhash : fields.lookup (.text "block_hash") = some blockHash)
      (hreads : ReadsHash blockHash facts.blockHash) : TransferItem facts t (.dict fields)

/-- The items of the page: the transfers of the token that have an amount, among any items that
    cannot be read or are of another token. -/
inductive DescribesItems (token : String) (facts : ChainFacts) : List Value → List Transfer → Prop
  | nil : DescribesItems token facts [] []
  | transfer {t : Transfer} {item : Value} {items : List Value} {ts : List Transfer}
      (h : TransferItem facts t item) (hrest : DescribesItems token facts items ts) :
      DescribesItems token facts (item :: items) (t :: ts)
  | other {item : Value} {items : List Value} {ts : List Transfer}
      (h : ∀ read, readTransfer item = some read → read.1 ≠ token)
      (hrest : DescribesItems token facts items ts) : DescribesItems token facts (item :: items) ts

/-- The page of a transaction that reads as the facts. -/
structure DescribesTransaction (facts : ChainFacts) (transaction : List (Key × Value)) : Prop where
  status : Value.get transaction "status" = .str (if facts.succeeded then "ok" else "error")
  result : facts.succeeded = true → Value.get transaction "result" = .str "success"
  blockNumber : intField transaction "block_number" = some (facts.blockNumber : Int)
  confirmations : intField transaction "confirmations" = some facts.depth
  sender : transactionSender (.dict transaction) = some facts.sender

/-- The answers of an explorer: the transaction, and one complete page with its transfers in
    any order. -/
structure DescribesExplorer (token : String) (facts : ChainFacts) (explorer : Explorer) :
    Prop where
  transaction : ∃ transaction, explorer.transaction = .ok (.dict transaction) ∧
    DescribesTransaction facts transaction
  transfers : ∃ page items order, explorer.tokenTransfers = .ok (.dict page) ∧
    Value.get page "next_page_params" = .none ∧ Value.get page "items" = .list items ∧
    List.Perm order ((facts.transfersOf token).filter (·.amount.isSome)) ∧
    DescribesItems token facts items order

/-! ### The frozen payment -/

section

variable {intent : Settlement.SettlementIntent} {txHash : String} {facts : ChainFacts} {rpc : Rpc}
  {explorer : Explorer}

/-- A transfer that is the payment of the intent. -/
def pays (intent : Settlement.SettlementIntent) (t : Transfer) : Bool :=
  t.token = intent.tokenAddress && t.sender = intent.buyerAccount &&
    t.receiver = intent.sellerAccount && t.amount.any fun n : Nat => (n : Int) = intent.amountAtomic

/-- How often the payment was made. -/
def payments (intent : Settlement.SettlementIntent) (facts : ChainFacts) : Nat :=
  facts.transfers.countP (pays intent)

/-- A transfer of the token in the transaction has no amount. -/
def namesNoAmount (intent : Settlement.SettlementIntent) (facts : ChainFacts) : Bool :=
  (facts.transfersOf intent.tokenAddress).any fun t => t.amount.isNone

/-- The confirmation of the facts for the intent. -/
def evidence (intent : Settlement.SettlementIntent) (txHash : String) (facts : ChainFacts)
    (success : Bool) : ConfirmationFields where
  txHash := txHash
  chainId := intent.chainId
  facilitatorAddress := facts.sender
  tokenAddress := intent.tokenAddress
  fromAccount := intent.buyerAccount
  toAccount := intent.sellerAccount
  amountAtomic := intent.amountAtomic
  blockNumber := facts.blockNumber
  blockHash := facts.blockHash
  confirmationCount := facts.depth
  success := success

/-- A block hash is put in lower case, so its case does not matter. -/
theorem confirm_blockHash (f : ConfirmationFields) {value : Value} {blockHash : String}
    (h : ReadsHash value blockHash) :
    confirm { f with blockHash := strOf value } = confirm { f with blockHash := blockHash } := by
  obtain ⟨hpattern, rfl⟩ := h
  have hlower := hexPattern_lower hpattern
  unfold confirm ConfirmationFields.postInit
  simp only [hpattern, hlower.1, hlower.2]

/-- The decimals of the token are those of the intent. -/
def DecimalsMatch (intent : Settlement.SettlementIntent) (facts : ChainFacts) : Prop :=
  (facts.decimals intent.tokenAddress).map Int.ofNat = some intent.tokenDecimals

instance (intent : Settlement.SettlementIntent) (facts : ChainFacts) :
    Decidable (DecimalsMatch intent facts) :=
  inferInstanceAs (Decidable (_ = _))

/-! ### The node -/

theorem hexInt_error {value : Value} (h : (hexInt value).toOption = none) :
    hexInt value = .error (.chainRead "invalid_rpc_quantity") := by
  cases hread : hexInt value with
  | ok n =>
      rw [hread] at h
      cases h
  | error e =>
      unfold hexInt at hread
      split at hread
      · split at hread
        · split at hread
          · split at hread
            · cases hread
            · cases hread
              rfl
          · cases hread
            rfl
        · cases hread
          rfl
      · cases hread
        rfl

theorem matchLog_other {log : Value} (h : isTransferOf intent.tokenAddress log = false) :
    matchLog intent log = .ok none := by
  unfold isTransferOf at h
  unfold matchLog
  cases log with
  | dict fields =>
      simp only at h ⊢
      cases haddress : normalizeEvmAddress (strOf (Value.get fields "address")) with
      | error e => rfl
      | ok address =>
          rw [haddress] at h
          simp only
          generalize Value.get fields "topics" = topics at h ⊢
          cases topics with
          | list items =>
              rcases items with _ | ⟨topic, _ | ⟨first, _ | ⟨second, rest⟩⟩⟩
              · rfl
              · rfl
              · rfl
              · have hpass : (address ≠ intent.tokenAddress || lower (strOf topic) ≠ transferTopic) =
                    true := by
                  by_cases htoken : address = intent.tokenAddress
                  · simpa [Except.toOption, htoken] using h
                  · simp [htoken]
                dsimp only
                rw [if_pos hpass]
          | _ => rfl
  | _ => rfl

/-- A transfer of the token is read, unless it has no amount. -/
theorem matchLog_transfer {t : Transfer} {log : Value} (h : TransferLog t log)
    (htoken : t.token = intent.tokenAddress) :
    matchLog intent log =
      if t.amount.isNone then .error (.chainRead "invalid_rpc_quantity")
      else .ok (if pays intent t then
        some (intent.buyerAccount, intent.sellerAccount, intent.amountAtomic) else none) := by
  obtain ⟨haddress, htopics, htopic, hfrom, hto, hdata⟩ := h
  unfold matchLog
  dsimp only
  rw [haddress, htopics]
  dsimp only
  rw [if_neg (by simp [htoken, htopic]), hfrom, hto]
  cases hamount : t.amount with
  | none =>
      rw [hamount] at hdata
      rw [hexInt_error hdata]
      rfl
  | some n =>
      rw [hamount] at hdata
      rw [ok_of_toOption hdata]
      show Except.ok _ = Except.ok _
      by_cases hpays : pays intent t = true
      · have hfields := hpays
        simp only [pays, hamount, Option.any_some, Bool.and_eq_true, decide_eq_true_eq] at hfields
        rw [if_pos hpays, if_pos (by simp [hfields]), hfields.1.1.2, hfields.1.2, hfields.2]
      · have hfields := hpays
        simp only [pays, hamount, Option.any_some, htoken, decide_true, Bool.true_and] at hfields
        rw [if_neg hpays, if_neg hfields]

/-- The loop over the logs counts the payments, unless a transfer of the token has no amount. -/
theorem matchLogs_eq {logs : List Value} {ts : List Transfer}
    (h : DescribesLogs intent.tokenAddress logs ts) (htoken : ∀ t ∈ ts, t.token = intent.tokenAddress) :
    matchLogs intent logs =
      if ts.any (·.amount.isNone) then .error (.chainRead "invalid_rpc_quantity")
      else .ok ((ts.filter (pays intent)).map fun _ =>
        (intent.buyerAccount, intent.sellerAccount, intent.amountAtomic)) := by
  induction h with
  | nil => rfl
  | @transfer t log logs ts hlog hrest ih =>
      unfold matchLogs
      rw [matchLog_transfer hlog (htoken t List.mem_cons_self),
        ih fun t ht => htoken t (List.mem_cons_of_mem _ ht), List.any_cons, List.filter_cons]
      by_cases hnone : t.amount.isNone = true
      · rw [if_pos hnone, hnone, Bool.true_or, if_pos rfl]
        rfl
      rw [if_neg hnone, Bool.not_eq_true _ |>.mp hnone, Bool.false_or]
      by_cases hrest : (ts.any fun t => t.amount.isNone) = true
      · rw [if_pos hrest, if_pos hrest]
        rfl
      rw [if_neg hrest, if_neg hrest]
      by_cases hpays : pays intent t = true
      · rw [if_pos hpays, if_pos hpays]
        rfl
      · rw [if_neg hpays, if_neg hpays]
        rfl
  | @other log logs ts hlog hrest ih =>
      unfold matchLogs
      rw [matchLog_other hlog, ih htoken]
      by_cases hnone : (ts.any fun t => t.amount.isNone) = true
      · rw [if_pos hnone]
        rfl
      · rw [if_neg hnone]
        rfl

theorem token_of_transfersOf {token : String} {t : Transfer} (h : t ∈ facts.transfersOf token) :
    t.token = token :=
  of_decide_eq_true (List.mem_filter.mp h).2

/-- The payments are among the transfers of the token. -/
theorem payments_eq (intent : Settlement.SettlementIntent) (facts : ChainFacts) :
    payments intent facts = (facts.transfersOf intent.tokenAddress).countP (pays intent) := by
  unfold payments ChainFacts.transfersOf
  rw [List.countP_filter]
  congr 1
  funext t
  by_cases htoken : t.token = intent.tokenAddress
  · simp [htoken]
  · simp [pays, htoken]

theorem receiptSender_eq {token : String} {receipt : List (Key × Value)}
    (h : DescribesReceipt token facts rpc receipt) : receiptSender rpc receipt = .ok facts.sender := by
  unfold receiptSender
  rcases h.sender with hsender | ⟨hnone, transaction, hanswer, hsender⟩
  · rw [hsender]
  · rw [hnone, hanswer]
    simp only [bind, Except.bind, hsender]

theorem depth_eq (facts : ChainFacts) :
    max 0 ((facts.head : Int) - facts.blockNumber + 1) = facts.depth := by
  have hmined := facts.mined
  unfold ChainFacts.depth
  omega

/-- What a receipt is read as. -/
theorem readReceipt_eq (hhead : ∃ value, rpc.blockNumber = .ok value ∧ hexInt value = .ok facts.head)
    {receipt : List (Key × Value)} (h : DescribesReceipt intent.tokenAddress facts rpc receipt)
    (hchain : (facts.chainId : Int) = intent.chainId) :
    readReceipt intent txHash rpc facts.chainId receipt =
      if facts.succeeded = false then confirm (evidence intent txHash facts false)
      else if namesNoAmount intent facts then .error (.chainRead "invalid_rpc_quantity")
      else if payments intent facts = 1 then confirm (evidence intent txHash facts true)
      else .error (.chainRead "expected_transfer_event_not_found") := by
  obtain ⟨value, hanswer, hhead⟩ := hhead
  obtain ⟨logs, hlogs, hdescribes⟩ := h.logs
  unfold readReceipt
  rw [h.blockNumber, h.status, receiptSender_eq h, hanswer]
  simp only [bind, Except.bind]
  rw [hhead]
  simp only [hchain, depth_eq]
  cases hsucceeded : facts.succeeded with
  | false =>
      simp only [Bool.false_eq_true, if_false, if_true]
      exact confirm_blockHash (evidence intent txHash facts false) h.blockHash
  | true =>
      simp only [if_true, hlogs, matchLogs_eq hdescribes fun t => token_of_transfersOf]
      rw [if_neg (by decide), if_neg (by decide), if_neg (show ¬ (true = false) by decide)]
      unfold namesNoAmount
      by_cases hnone : ((facts.transfersOf intent.tokenAddress).any fun t => t.amount.isNone) = true
      · rw [if_pos hnone, if_pos hnone]
      rw [if_neg hnone, if_neg hnone, payments_eq, List.countP_eq_length_filter]
      cases hfound : (facts.transfersOf intent.tokenAddress).filter (pays intent) with
      | nil => rfl
      | cons t more =>
          cases more with
          | cons t' more => rfl
          | nil =>
              simp only [List.map_cons, List.map_nil, List.length_singleton, if_true]
              exact confirm_blockHash (evidence intent txHash facts true) h.blockHash

theorem readSync_eq (h : DescribesNode intent.tokenAddress facts rpc) (fallback : Option Explorer) :
    readSync intent txHash rpc fallback =
      if (facts.chainId : Int) ≠ intent.chainId then
        .error (.chainRead "settlement_rpc_chain_mismatch")
      else if facts.succeeded = false then confirm (evidence intent txHash facts false)
      else if namesNoAmount intent facts then .error (.chainRead "invalid_rpc_quantity")
      else if payments intent facts = 1 then confirm (evidence intent txHash facts true)
      else .error (.chainRead "expected_transfer_event_not_found") := by
  obtain ⟨value, hanswer, hchainId⟩ := h.chainId
  obtain ⟨receipt, hreceipt, hdescribes⟩ := h.receipt
  unfold readSync
  rw [hanswer, hreceipt]
  simp only [bind, Except.bind]
  rw [hchainId]
  dsimp only
  by_cases hchain : (facts.chainId : Int) = intent.chainId
  · rw [if_neg (not_not.mpr hchain), if_neg (not_not.mpr hchain)]
    exact readReceipt_eq h.head hdescribes hchain
  · rw [if_pos hchain, if_pos hchain]

/-! ### The explorer -/

/-- A described item is read as its transfer. -/
theorem readTransfer_item {t : Transfer} {item : Value} (h : TransferItem facts t item) :
    ∃ amount : Nat, t.amount = some amount ∧
      readTransfer item = (facts.decimals t.token).map fun d : Nat =>
        (t.token, t.sender, t.receiver, (amount : Int), (d : Int)) := by
  obtain ⟨htoken, hsender, hreceiver, htotal, haddress, hfrom, hto, hamount, hvalue, hdecimals, -, -,
    -⟩ := h
  refine ⟨_, hamount, ?_⟩
  unfold readTransfer
  simp only [htoken, hsender, hreceiver, htotal, haddress, hfrom, hto, hvalue, hdecimals,
    Except.toOption]
  cases facts.decimals t.token with
  | none => rfl
  | some d => rfl

theorem matchesItem_eq {t : Transfer} {item : Value} (h : TransferItem facts t item)
    (htoken : t.token = intent.tokenAddress) :
    matchesItem intent item = (pays intent t && decide (DecimalsMatch intent facts)) := by
  obtain ⟨amount, hamount, hread⟩ := readTransfer_item h
  unfold matchesItem pays
  rw [hread, hamount, htoken, Bool.eq_iff_iff]
  simp only [Option.any_some, decide_true, Bool.true_and, Bool.and_eq_true, decide_eq_true_eq]
  unfold DecimalsMatch
  cases facts.decimals intent.tokenAddress with
  | none => simp
  | some d =>
      simp only [Option.map_some, Option.some.injEq, Prod.mk.injEq, true_and, Int.ofNat_eq_natCast]
      exact ⟨fun h => ⟨⟨⟨h.1, h.2.1⟩, h.2.2.1⟩, h.2.2.2⟩, fun h => ⟨h.1.1.1, h.1.1.2, h.1.2, h.2⟩⟩

theorem matchesItem_other {item : Value}
    (h : ∀ read, readTransfer item = some read → read.1 ≠ intent.tokenAddress) :
    matchesItem intent item = false := by
  unfold matchesItem
  rw [decide_eq_false_iff_not]
  intro hread
  exact h _ hread rfl

/-- The items that match are those of the payments, if the token has the decimals. -/
theorem matching_items {items : List Value} {order : List Transfer}
    (h : DescribesItems intent.tokenAddress facts items order)
    (htoken : ∀ t ∈ order, t.token = intent.tokenAddress) :
    List.Forall₂ (TransferItem facts)
      (order.filter fun t => pays intent t && decide (DecimalsMatch intent facts))
      (items.filter (matchesItem intent)) := by
  induction h with
  | nil => exact .nil
  | @transfer t item items ts hitem hrest ih =>
      have hrest := ih fun t ht => htoken t (List.mem_cons_of_mem _ ht)
      have hmatch := matchesItem_eq hitem (htoken t List.mem_cons_self)
      rw [List.filter_cons, List.filter_cons, hmatch]
      by_cases hpays : (pays intent t && decide (DecimalsMatch intent facts)) = true
      · rw [if_pos hpays, if_pos hpays]
        exact .cons hitem hrest
      · rw [if_neg hpays, if_neg hpays]
        exact hrest
  | @other item items ts hother hrest ih =>
      rw [List.filter_cons_of_neg (by rw [matchesItem_other hother]; exact Bool.false_ne_true)]
      exact ih htoken

theorem confirmItem_eq {t : Transfer} {item : Value} (h : TransferItem facts t item) :
    confirmItem intent txHash facts.sender facts.blockNumber facts.depth item
      = confirm (evidence intent txHash facts true) := by
  obtain ⟨-, -, -, -, -, -, -, -, -, -, hnumber, hhash, hreads⟩ := h
  unfold confirmItem
  simp only [hnumber, hhash]
  rw [if_neg (not_not.mpr rfl)]
  exact confirm_blockHash (evidence intent txHash facts true) hreads

/-- A payment has an amount, so the transfers without one do not count. -/
theorem countP_pays_amounts (ts : List Transfer) :
    (ts.filter fun t => t.amount.isSome).countP (pays intent) = ts.countP (pays intent) := by
  rw [List.countP_filter]
  congr 1
  funext t
  cases hamount : t.amount with
  | none => simp [pays, hamount]
  | some n => simp

theorem readBlockscout_eq (h : DescribesExplorer intent.tokenAddress facts explorer) :
    readBlockscout intent txHash explorer =
      if facts.succeeded = false then .error (.chainRead "chain_transaction_reverted")
      else if DecimalsMatch intent facts ∧ payments intent facts = 1 then
        confirm (evidence intent txHash facts true)
      else .error (.chainRead "expected_transfer_event_not_found") := by
  obtain ⟨transaction, hanswer, hdescribes⟩ := h.transaction
  obtain ⟨page, items, order, hpage, hcomplete, hitems, hperm, htransfers⟩ := h.transfers
  have htoken : ∀ t ∈ order, t.token = intent.tokenAddress := by
    intro t ht
    exact token_of_transfersOf (List.mem_of_mem_filter (hperm.mem_iff.mp ht))
  unfold readBlockscout
  rw [hanswer]
  simp only [bind, Except.bind]
  rw [hdescribes.status]
  cases hsucceeded : facts.succeeded with
  | false =>
      simp only [Bool.false_eq_true, if_false, if_true]
  | true =>
      have hresult := hdescribes.result hsucceeded
      simp only [if_true, hresult]
      unfold readSuccessful
      rw [hdescribes.blockNumber, hdescribes.confirmations, hdescribes.sender, hpage]
      have hread : pageItems (.dict page) = .ok items := by
        unfold pageItems
        simp only [hcomplete, hitems]
      simp only [bind, Except.bind, hread]
      have hmatching := matching_items htransfers htoken
      rw [if_neg (by decide)]
      by_cases hdecimals : DecimalsMatch intent facts
      · simp only [hdecimals, decide_true, Bool.and_true] at hmatching
        have hcount : payments intent facts = (items.filter (matchesItem intent)).length := by
          rw [payments_eq, ← countP_pays_amounts, ← hperm.countP_eq, List.countP_eq_length_filter]
          exact hmatching.length_eq
        rw [hcount]
        cases hfound : items.filter (matchesItem intent) with
        | nil => simp
        | cons item more =>
            cases more with
            | cons item' more => simp
            | nil =>
                rw [hfound] at hmatching
                obtain ⟨t, rest, hitem, -, -⟩ := List.forall₂_cons_right_iff.mp hmatching
                rw [if_pos ⟨hdecimals, rfl⟩]
                exact confirmItem_eq hitem
      · simp only [hdecimals, decide_false, Bool.and_false, List.filter_false] at hmatching
        rw [List.forall₂_nil_left_iff.mp hmatching, if_neg fun hboth => hdecimals hboth.1]

/-! ### Agreement -/

/-- Two readings with one outcome: the same confirmation, or a `ChainReadError` both times. -/
def SameOutcome (x y : Except ReadError (Option ChainConfirmation)) : Prop :=
  (∃ c, x = .ok c ∧ y = .ok c) ∨
    ∃ code code', x = .error (.chainRead code) ∧ y = .error (.chainRead code')

theorem addressPattern_of_normalize {value address : String}
    (h : normalizeEvmAddress value = .ok address) : addressPattern address = true := by
  unfold normalizeEvmAddress at h
  obtain ⟨hpattern, h⟩ := ok_of_guard h
  obtain rfl := Except.ok.inj h
  have hvalid : addressPattern value = true := by simpa using hpattern
  exact (hexPattern_lower hvalid).1

theorem addressPattern_of_sender {value : Value} {address : String}
    (h : transactionSender value = some address) : addressPattern address = true := by
  unfold transactionSender at h
  split at h
  · exact addressPattern_of_normalize (ok_of_toOption h)
  · cases h

/-- An intent that was constructed can be confirmed. -/
structure Settleable (intent : Settlement.SettlementIntent) : Prop where
  buyer : addressPattern intent.buyerAccount = true
  seller : addressPattern intent.sellerAccount = true
  token : addressPattern intent.tokenAddress = true
  amount : 0 < intent.amountAtomic
  chain : 0 < intent.chainId

theorem settleable_of_constructible (h : intent.Constructible) : Settleable intent := by
  obtain ⟨⟨_, hbuyer⟩, ⟨_, hseller⟩, ⟨_, htoken⟩, hamount, hchain, -, -⟩ := h.checked
  exact ⟨addressPattern_of_normalize hbuyer, addressPattern_of_normalize hseller,
    addressPattern_of_normalize htoken, hamount, hchain⟩

/-- The facts of a payment make a confirmation. -/
theorem confirm_evidence (hintent : Settleable intent) (htx : txHashPattern txHash = true)
    (hsender : addressPattern facts.sender = true) (hhash : hexPattern 64 facts.blockHash = true)
    (success : Bool) :
    ∃ c : ChainConfirmation, confirm (evidence intent txHash facts success) = .ok (some c) := by
  have hmined := facts.mined
  have hheight : ¬ (decide ((facts.blockNumber : Int) < 0) || decide (facts.depth < 0)) = true := by
    unfold ChainFacts.depth
    simp only [Bool.or_eq_true, decide_eq_true_eq]
    omega
  unfold confirm ConfirmationFields.postInit evidence
  simp only [htx, hsender, hintent.token, hintent.buyer, hintent.seller, hhash, hintent.chain,
    hintent.amount, hheight, dif_pos]
  exact ⟨_, rfl⟩

/-- The facts that both readers read alike. -/
def ReadAlike (intent : Settlement.SettlementIntent) (facts : ChainFacts) : Prop :=
  if (facts.chainId : Int) = intent.chainId then
    facts.succeeded = true ∧
      (payments intent facts = 1 → (namesNoAmount intent facts = false ↔ DecimalsMatch intent facts))
  else
    ¬ (facts.succeeded = true ∧ DecimalsMatch intent facts ∧ payments intent facts = 1)

theorem sameOutcome_iff (hintent : intent.Constructible) (htx : txHashPattern txHash = true)
    (hnode : DescribesNode intent.tokenAddress facts rpc)
    (hexplorer : DescribesExplorer intent.tokenAddress facts explorer)
    (fallback : Option Explorer) :
    SameOutcome (readSync intent txHash rpc fallback) (readBlockscout intent txHash explorer) ↔
      ReadAlike intent facts := by
  obtain ⟨receipt, -, hreceipt⟩ := hnode.receipt
  obtain ⟨transaction, -, htransaction⟩ := hexplorer.transaction
  have hsender := addressPattern_of_sender htransaction.sender
  have hhash : hexPattern 64 facts.blockHash = true := by
    obtain ⟨hpattern, hlower⟩ := hreceipt.blockHash
    rw [← hlower]
    exact (hexPattern_lower hpattern).1
  have hsettleable := settleable_of_constructible hintent
  obtain ⟨reverted, hreverted⟩ := confirm_evidence hsettleable htx hsender hhash false
  obtain ⟨paid, hpaid⟩ := confirm_evidence hsettleable htx hsender hhash true
  rw [readSync_eq hnode, readBlockscout_eq hexplorer, hreverted, hpaid]
  unfold ReadAlike SameOutcome
  by_cases hchain : (facts.chainId : Int) = intent.chainId <;>
    cases hsucceeded : facts.succeeded <;>
    cases hnone : namesNoAmount intent facts <;>
    by_cases hdecimals : DecimalsMatch intent facts <;>
    by_cases hpayments : payments intent facts = 1 <;>
    simp [hchain, hdecimals, hpayments]

/-- With one outcome the worker leaves any repository in one state. -/
theorem after_recoverFrom {σ ι : Type} {x y : Except ReadError (Option ChainConfirmation)}
    (h : SameOutcome x y) (repository : RecoveryRepository σ ι) (requiredConfirmations : ι → Int)
    (id : String) (target : ι) (s : σ) :
    (recoverFrom repository requiredConfirmations id target txHash x).after s
      = (recoverFrom repository requiredConfirmations id target txHash y).after s := by
  rcases h with ⟨c, rfl, rfl⟩ | ⟨code, code', rfl, rfl⟩
  · rfl
  · rfl

/-- **When the two sources are read alike.**  Both readers give the same confirmation or both
    reject, and the worker then does the same to any repository, exactly when the transaction
    succeeded and, if the payment was made exactly once, the token has the decimals of the intent
    just when no transfer of it is without an amount; on another chain, where the node's reader
    rejects, exactly when the explorer's does too. -/
theorem readers_agree_iff (hintent : intent.Constructible) (htx : txHashPattern txHash = true)
    (hnode : DescribesNode intent.tokenAddress facts rpc)
    (hexplorer : DescribesExplorer intent.tokenAddress facts explorer)
    (fallback : Option Explorer) :
    (SameOutcome (readSync intent txHash rpc fallback) (readBlockscout intent txHash explorer) ∧
      ∀ (σ : Type) (repository : RecoveryRepository σ Settlement.SettlementIntent) (id : String)
        (s : σ),
        (recoverFrom repository (·.requiredConfirmations) id intent txHash
            (readSync intent txHash rpc fallback)).after s
          = (recoverFrom repository (·.requiredConfirmations) id intent txHash
            (readBlockscout intent txHash explorer)).after s) ↔
      ReadAlike intent facts := by
  have hiff := sameOutcome_iff hintent htx hnode hexplorer fallback
  constructor
  · rintro ⟨hsame, -⟩
    exact hiff.mp hsame
  · intro halike
    have hsame := hiff.mpr halike
    exact ⟨hsame, fun σ repository id s => after_recoverFrom hsame repository _ id intent s⟩

end

/-! ### A payment and a revert -/

namespace Sample

def intent : Settlement.SettlementIntent :=
  Settlement.SettlementIntent.grainIntent "USDC"

def txHash : String :=
  "0x4444444444444444444444444444444444444444444444444444444444444444"

def facilitator : String :=
  "0x6666666666666666666666666666666666666666"

/-- The payment. -/
def grainPayment : Transfer :=
  ⟨intent.tokenAddress, intent.buyerAccount, intent.sellerAccount, some 2500000⟩

/-- A piece of another token changes hands in the same transaction. -/
def pieceTransfer : Transfer :=
  ⟨"0x9999999999999999999999999999999999999999", intent.sellerAccount, intent.buyerAccount, none⟩

/-- A transaction two blocks deep, with the payment behind another transfer or without both. -/
def facts (succeeded : Bool) : ChainFacts where
  chainId := 84532
  succeeded := succeeded
  blockNumber := 100
  blockHash := "0x5555555555555555555555555555555555555555555555555555555555555555"
  head := 101
  sender := facilitator
  transfers := if succeeded then [pieceTransfer, grainPayment] else []
  decimals token := if token = intent.tokenAddress then some 6 else none
  mined := by decide

/-- The log of the payment. -/
def paymentLog : Value :=
  .obj [("address", .str "0x3333333333333333333333333333333333333333"),
    ("topics", .list [.str transferTopic,
      .str "0x0000000000000000000000001111111111111111111111111111111111111111",
      .str "0x0000000000000000000000002222222222222222222222222222222222222222"]),
    ("data", .str "0x2625a0")]

/-- The log of the other transfer: the piece is a fourth topic. -/
def pieceLog : Value :=
  .obj [("address", .str "0x9999999999999999999999999999999999999999"),
    ("topics", .list [.str transferTopic,
      .str "0x0000000000000000000000002222222222222222222222222222222222222222",
      .str "0x0000000000000000000000001111111111111111111111111111111111111111",
      .str "0x0000000000000000000000000000000000000000000000000000000000000007"]),
    ("data", .str "0x")]

def rpc (succeeded : Bool) : Rpc where
  chainId := .ok (.str "0x14a34")
  transactionReceipt := .ok (.obj [("blockNumber", .str "0x64"),
    ("blockHash", .str "0x5555555555555555555555555555555555555555555555555555555555555555"),
    ("status", .str (if succeeded then "0x1" else "0x0")), ("from", .str facilitator),
    ("logs", .list (if succeeded then [pieceLog, paymentLog] else []))])
  transactionByHash := .ok .none
  blockNumber := .ok (.str "0x65")

/-- The transfer of the payment, as the explorer shows it. -/
def paymentItem : Value :=
  .obj [("token", .obj [("address_hash", .str "0x3333333333333333333333333333333333333333")]),
    ("from", .obj [("hash", .str "0x1111111111111111111111111111111111111111")]),
    ("to", .obj [("hash", .str "0x2222222222222222222222222222222222222222")]),
    ("total", .obj [("value", .str "2500000"), ("decimals", .str "6")]),
    ("block_number", .int 100),
    ("block_hash", .str "0x5555555555555555555555555555555555555555555555555555555555555555")]

/-- The other transfer on the same page. -/
def pieceItem : Value :=
  .obj [("token", .obj [("address_hash", .str "0x9999999999999999999999999999999999999999")]),
    ("from", .obj [("hash", .str "0x2222222222222222222222222222222222222222")]),
    ("to", .obj [("hash", .str "0x1111111111111111111111111111111111111111")]),
    ("total", .obj [("token_id", .str "7")]),
    ("block_number", .int 100),
    ("block_hash", .str "0x5555555555555555555555555555555555555555555555555555555555555555")]

def explorer (succeeded : Bool) : Explorer where
  transaction := .ok (.obj [("status", .str (if succeeded then "ok" else "error")),
    ("result", .str (if succeeded then "success" else "execution reverted")),
    ("block_number", .int 100), ("confirmations", .int 2),
    ("from", .obj [("hash", .str facilitator)])])
  tokenTransfers := .ok (.obj [("items", .list (if succeeded then [paymentItem, pieceItem] else [])),
    ("next_page_params", .none)])

theorem intent_constructible : intent.Constructible :=
  ⟨intent, by decide⟩

theorem hash_reads : ReadsHash
    (.str "0x5555555555555555555555555555555555555555555555555555555555555555")
    "0x5555555555555555555555555555555555555555555555555555555555555555" :=
  ⟨by decide, by decide⟩

theorem transfersOf_facts (succeeded : Bool) :
    (facts succeeded).transfersOf intent.tokenAddress = if succeeded then [grainPayment] else [] := by
  cases succeeded <;> decide

theorem describes_logs (succeeded : Bool) :
    DescribesLogs intent.tokenAddress (if succeeded then [pieceLog, paymentLog] else [])
      ((facts succeeded).transfersOf intent.tokenAddress) := by
  rw [transfersOf_facts]
  cases succeeded with
  | false => exact .nil
  | true =>
      refine .other (by decide) (.transfer ?_ .nil)
      exact .event (by decide) rfl (by decide) (by decide) (by decide) (by decide)

theorem describes_node (succeeded : Bool) :
    DescribesNode intent.tokenAddress (facts succeeded) (rpc succeeded) where
  chainId := ⟨_, rfl, by cases succeeded <;> decide⟩
  head := ⟨_, rfl, by cases succeeded <;> decide⟩
  receipt := ⟨_, rfl, {
    blockNumber := by cases succeeded <;> decide
    blockHash := hash_reads
    status := by cases succeeded <;> decide
    sender := Or.inl (by cases succeeded <;> decide)
    logs := ⟨_, rfl, describes_logs succeeded⟩ }⟩

theorem describes_items (succeeded : Bool) :
    DescribesItems intent.tokenAddress (facts succeeded)
      (if succeeded then [paymentItem, pieceItem] else []) (if succeeded then [grainPayment] else []) := by
  cases succeeded with
  | false => exact .nil
  | true =>
      refine .transfer ?_ (.other ?_ .nil)
      · exact .item rfl rfl rfl rfl (by decide) (by decide) (by decide) rfl (by decide) (by decide)
          (by decide) rfl hash_reads
      · intro read hread
        have hnone : readTransfer pieceItem = none := by decide
        rw [hnone] at hread
        cases hread

theorem describes_explorer (succeeded : Bool) :
    DescribesExplorer intent.tokenAddress (facts succeeded) (explorer succeeded) where
  transaction := ⟨_, rfl, {
    status := rfl
    result := by
      intro h
      cases succeeded with
      | false => cases h
      | true => rfl
    blockNumber := by cases succeeded <;> decide
    confirmations := by cases succeeded <;> decide
    sender := by cases succeeded <;> decide }⟩
  transfers := by
    refine ⟨_, _, _, rfl, rfl, rfl, ?_, describes_items succeeded⟩
    rw [transfersOf_facts]
    cases succeeded <;> decide

/-- A successful payment is read alike, behind a transfer without an amount. -/
theorem payment_read_alike :
    SameOutcome (readSync intent txHash (rpc true) none)
      (readBlockscout intent txHash (explorer true)) :=
  ((readers_agree_iff intent_constructible (by decide) (describes_node true)
    (describes_explorer true) none).mpr (by
      unfold ReadAlike
      rw [if_pos (by decide)]
      exact ⟨rfl, fun _ => by decide⟩)).1

/-- The receipt of a reverted transaction is a confirmation without success; the explorer's
    page of it raises. -/
theorem revert_not_read_alike :
    ¬ ∀ (intent : Settlement.SettlementIntent) (txHash : String) (facts : ChainFacts) (rpc : Rpc)
      (explorer : Explorer) (fallback : Option Explorer), intent.Constructible →
      txHashPattern txHash = true → DescribesNode intent.tokenAddress facts rpc →
      DescribesExplorer intent.tokenAddress facts explorer →
      SameOutcome (readSync intent txHash rpc fallback) (readBlockscout intent txHash explorer) ∧
        ∀ (σ : Type) (repository : RecoveryRepository σ Settlement.SettlementIntent) (id : String)
          (s : σ),
          (recoverFrom repository (·.requiredConfirmations) id intent txHash
              (readSync intent txHash rpc fallback)).after s
            = (recoverFrom repository (·.requiredConfirmations) id intent txHash
              (readBlockscout intent txHash explorer)).after s := by
  intro h
  have hsame := (h intent txHash (facts false) (rpc false) (explorer false) none
    intent_constructible (by decide) (describes_node false) (describes_explorer false)).1
  rw [sameOutcome_iff intent_constructible (by decide) (describes_node false)
    (describes_explorer false)] at hsame
  unfold ReadAlike at hsame
  rw [if_pos (by decide)] at hsame
  cases hsame.1

end Sample

end Arena402.Game
