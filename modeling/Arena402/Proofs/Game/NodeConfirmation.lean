/-
What the node's answers must say for a payment to be confirmed, and that it is enough.

A payment log is described by what stands in it: the token's address, the topic of a transfer, the
two accounts in the last forty digits of their topics, and the amount.  A reading that returned
counted the payment logs among all the logs of the receipt; a log that is no transfer of the token is
passed over, whatever else it holds.  A receipt that the node does not have is no evidence: the
explorer, when there is one, answers instead.
-/
import Arena402.Proofs.Game.EvmConfirmation

namespace Arena402.Game

open Py
open Arena402.Payments (isHex hexPattern addressPattern txHashPattern)
open Arena402.Game.Settlement (normalizeEvmAddress)

/-! ### Payment logs -/

/-- A topic of 64 characters, the last forty of them an address. -/
def EndsInAddress (topic : Value) (address : String) : Prop :=
  ∃ padding digits : List Char, padding.length = 24 ∧ digits.length = 40 ∧
    topic = .str (String.ofList ('0' :: 'x' :: (padding ++ digits))) ∧
    normalizeEvmAddress (String.ofList ('0' :: 'x' :: digits)) = .ok address

/-- A transfer event of the intent's token, with its two parties. -/
structure IsTransferOf (intent : Settlement.SettlementIntent) (fields : List (Key × Value))
    (first second : Value) : Prop where
  address : ∃ s, Value.get fields "address" = .str s ∧
    normalizeEvmAddress s = .ok intent.tokenAddress
  topics : ∃ topic rest, Value.get fields "topics" = .list (.str topic :: first :: second :: rest) ∧
    lower topic = transferTopic

/-- A transfer of the intent's token from its buyer to its seller for exactly its amount. -/
inductive PaymentLog (intent : Settlement.SettlementIntent) : Value → Prop
  | event {fields : List (Key × Value)} {first second : Value} {amount : Nat}
      (transfer : IsTransferOf intent fields first second)
      (payer : EndsInAddress first intent.buyerAccount)
      (payee : EndsInAddress second intent.sellerAccount)
      (data : hexInt (.get fields "data") = .ok amount)
      (amount_eq : (amount : Int) = intent.amountAtomic) : PaymentLog intent (.dict fields)

/-- A 32-byte word in hexadecimal. -/
def IsWord (value : Value) : Prop :=
  ∃ digits : List Char, digits.length = 64 ∧ (∀ c ∈ digits, isHex c = true) ∧
    value = .str (String.ofList ('0' :: 'x' :: digits))

/-- A non-empty text of hexadecimal digits. -/
def IsHexData (value : Value) : Prop :=
  ∃ digits : List Char, digits ≠ [] ∧ (∀ c ∈ digits, isHex c = true) ∧
    value = .str (String.ofList ('0' :: 'x' :: digits))

/-- A log that does not stop the reader: a transfer of the token has words for its parties and
    hexadecimal data, any other log is free. -/
def Readable (intent : Settlement.SettlementIntent) (log : Value) : Prop :=
  ∀ fields first second, log = .dict fields → IsTransferOf intent fields first second →
    IsWord first ∧ IsWord second ∧ IsHexData (.get fields "data")

/-! ### Texts with an `x` -/

/-- Only a text of the JSON has an `x` in it. -/
theorem str_of_mem_x {value : Value} (h : 'x' ∈ (lower (strOf value)).toList) :
    ∃ s, value = .str s := by
  have hdigits : ∀ n : Nat, 'x' ∉ (Nat.repr n).toList.map Char.toLower := by
    intro n hc
    obtain ⟨c, hmem, hx⟩ := List.mem_map.mp hc
    rw [Nat.toList_repr] at hmem
    have hdigit := Nat.isDigit_of_mem_toDigits (by decide) (by decide) hmem
    have hhex : isHex c = true := by
      unfold isHex
      rw [hdigit]
      rfl
    have hlower := (isHex_toLower hhex).1
    rw [hx] at hlower
    exact absurd hlower (by decide)
  cases value with
  | str s => exact ⟨s, rfl⟩
  | int n =>
      unfold lower at h
      rw [String.toList_ofList] at h
      cases n with
      | ofNat n => exact absurd h (hdigits n)
      | negSucc n =>
          have hneg : (strOf (.int (Int.negSucc n))).toList = '-' :: (Nat.repr (n + 1)).toList := by
            show ("-" ++ Nat.repr (n + 1)).toList = _
            rw [String.toList_append]
            rfl
          rw [hneg, List.map_cons, List.mem_cons] at h
          rcases h with h | h
          · exact absurd h (by decide)
          · exact absurd h (hdigits (n + 1))
  | bool b => cases b <;> exact absurd h (by decide)
  | none => exact absurd h (by decide)
  | float _ | decimal _ | datetime _ | list _ | dict _ | bytes | other => exact absurd h (by decide : 'x' ∉ (lower "").toList)

theorem str_of_address {value : Value} {address : String}
    (h : normalizeEvmAddress (strOf value) = .ok address) : ∃ s, value = .str s := by
  have hpattern := addressPattern_of_normalize h
  unfold normalizeEvmAddress at h
  obtain ⟨-, h⟩ := ok_of_guard h
  rw [← Except.ok.inj h] at hpattern
  apply str_of_mem_x
  unfold addressPattern hexPattern at hpattern
  split at hpattern
  · rename_i rest heq
    rw [heq]
    simp
  · cases hpattern

theorem str_of_transferTopic {value : Value} (h : lower (strOf value) = transferTopic) :
    ∃ s, value = .str s := by
  apply str_of_mem_x
  rw [h]
  decide

/-! ### Reading words and data -/

theorem isHex_ascii {c : Char} (h : isHex c = true) : c.toNat < 128 := by
  have hall : hexDigits.all (fun d => decide (d.toNat < 128)) = true := by decide
  simpa using List.all_eq_true.mp hall c (mem_hexDigits h)

theorem isHex_visible {c : Char} (h : isHex c = true) : isAsciiSpace c = false ∧ c ≠ '_' := by
  have hall : hexDigits.all (fun d => !isAsciiSpace d && d != '_') = true := by decide
  simpa using List.all_eq_true.mp hall c (mem_hexDigits h)

/-- The value of hexadecimal digits. -/
theorem hexBody_digits {digits : List Char} (hne : digits ≠ []) (h : ∀ c ∈ digits, isHex c = true) :
    hexBody digits = some (digits.foldl (fun n c => n * 16 + hexValue c) 0) := by
  have hbar : '_' ∉ digits := fun hc => (isHex_visible (h _ hc)).2 rfl
  have hall : digits.all (fun c => isHex c || c = '_') = true :=
    List.all_eq_true.mpr fun c hc => by rw [h c hc]; rfl
  have hhead : digits.head? ≠ some '_' := fun hc => hbar (List.mem_of_mem_head? hc)
  have hlast : digits.getLast? ≠ some '_' := fun hc => hbar (List.mem_of_getLast? hc)
  have hfilter : digits.filter isHex = digits := List.filter_eq_self.mpr h
  have hpass : ¬ (digits.isEmpty || !(digits.all fun c => isHex c || c = '_') ||
      digits.head? = some '_' || digits.getLast? = some '_' || contains ['_', '_'] digits) = true := by
    simp [hne, hall, hhead, hlast, contains_of_not_mem digits hbar]
  unfold hexBody
  split
  · exact absurd (List.mem_cons_self ..) hbar
  · dsimp only
    rw [if_neg hpass, hfilter]

theorem hexInt_data {value : Value} (h : IsHexData value) : ∃ n, hexInt value = .ok n := by
  obtain ⟨digits, hne, hhex, rfl⟩ := h
  refine ⟨digits.foldl (fun n c => n * 16 + hexValue c) 0, ?_⟩
  have hsource : intSource ('0' :: 'x' :: digits) = '0' :: 'x' :: digits := by
    apply intSource_eq_self
    intro c hc
    rcases List.mem_cons.mp hc with rfl | hc
    · decide
    rcases List.mem_cons.mp hc with rfl | hc
    · decide
    · exact ⟨isHex_ascii (hhex c hc), (isHex_visible (hhex c hc)).1⟩
  unfold hexInt
  simp only [String.toList_ofList, hsource, hexBody_digits hne hhex]

theorem topicAddress_digits (digits : List Char) :
    topicAddress (.str (String.ofList ('0' :: 'x' :: digits))) =
      if digits.length ≠ 64 then .error (.chainRead "invalid_transfer_topic")
      else (normalizeEvmAddress
        (String.ofList ('0' :: 'x' :: digits.drop 24))).mapError .settlement := by
  unfold topicAddress
  simp only [String.toList_ofList]

/-- The party of a topic. -/
theorem topicAddress_ok_iff {topic : Value} {address : String} :
    topicAddress topic = .ok address ↔ EndsInAddress topic address := by
  constructor
  · intro h
    unfold topicAddress at h
    split at h
    · rename_i s
      split at h
      · rename_i digits heq
        obtain ⟨hlength, h⟩ := ok_of_guard h
        rw [not_not] at hlength
        refine ⟨digits.take 24, digits.drop 24, by simp [hlength], by simp [hlength], ?_, ?_⟩
        · rw [List.take_append_drop, ← heq, String.ofList_toList]
        · cases hread : normalizeEvmAddress (String.ofList ('0' :: 'x' :: digits.drop 24)) with
          | ok found =>
              rw [hread] at h
              exact congrArg Except.ok (Except.ok.inj h)
          | error e =>
              rw [hread] at h
              cases h
      · cases h
    · cases h
  · rintro ⟨padding, digits, hpadding, hdigits, rfl, haddress⟩
    rw [topicAddress_digits, if_neg (by simp [hpadding, hdigits]), List.drop_left' hpadding, haddress]
    rfl

theorem topicAddress_word {topic : Value} (h : IsWord topic) :
    ∃ address, topicAddress topic = .ok address := by
  obtain ⟨digits, hlength, hhex, rfl⟩ := h
  refine ⟨lower (String.ofList ('0' :: 'x' :: digits.drop 24)), ?_⟩
  have hpattern : addressPattern (String.ofList ('0' :: 'x' :: digits.drop 24)) = true := by
    unfold addressPattern hexPattern
    rw [String.toList_ofList]
    simp only [Bool.and_eq_true, decide_eq_true_eq, List.all_eq_true]
    exact ⟨by simp [hlength], fun c hc => hhex c (List.mem_of_mem_drop hc)⟩
  rw [topicAddress_digits, if_neg (by simp [hlength])]
  unfold normalizeEvmAddress
  rw [hpattern]
  rfl

/-! ### The loop over the logs -/

section

variable {intent : Settlement.SettlementIntent} {txHash : String} {rpc : Rpc}
  {explorer : Option Explorer}

/-- What a payment log adds to the matches. -/
def payment (intent : Settlement.SettlementIntent) : String × String × Int :=
  (intent.buyerAccount, intent.sellerAccount, intent.amountAtomic)

/-- A transfer of the token is read as its parties and its amount. -/
theorem matchLog_of_transfer {fields : List (Key × Value)} {first second : Value}
    (h : IsTransferOf intent fields first second) :
    matchLog intent (.dict fields) = do
      let fromAccount ← topicAddress first
      let toAccount ← topicAddress second
      let amount ← hexInt (.get fields "data")
      return if fromAccount = intent.buyerAccount && toAccount = intent.sellerAccount &&
          (amount : Int) = intent.amountAtomic
        then some (fromAccount, toAccount, (amount : Int)) else none := by
  obtain ⟨s, haddress, htoken⟩ := h.address
  obtain ⟨topic, rest, htopics, htopic⟩ := h.topics
  have hread : normalizeEvmAddress (strOf (Value.get fields "address")) = .ok intent.tokenAddress := by
    rw [haddress]
    exact htoken
  have hpass : ¬ (decide (intent.tokenAddress ≠ intent.tokenAddress) ||
      decide (lower (strOf (.str topic)) ≠ transferTopic)) = true := by
    have hstr : lower (strOf (.str topic)) = transferTopic := htopic
    simp [hstr]
  unfold matchLog
  dsimp only
  rw [hread, htopics]
  dsimp only
  rw [if_neg hpass]

/-- A log that is no transfer of the token is passed over. -/
theorem matchLog_of_other {log : Value}
    (h : ∀ fields first second, log = .dict fields → ¬ IsTransferOf intent fields first second) :
    matchLog intent log = .ok none := by
  unfold matchLog
  split
  · rename_i fields
    split
    · rfl
    · rename_i address haddress
      split
      · rename_i topic first second rest htopics
        by_cases hpass : (decide (address ≠ intent.tokenAddress) ||
            decide (lower (strOf topic) ≠ transferTopic)) = true
        · rw [if_pos hpass]
        · simp only [Bool.or_eq_true, decide_eq_true_eq, not_or, not_not] at hpass
          obtain ⟨rfl, htopic⟩ := hpass
          obtain ⟨s, hs⟩ := str_of_address haddress
          obtain ⟨text, rfl⟩ := str_of_transferTopic htopic
          rw [hs] at haddress
          exact absurd ⟨⟨s, hs, haddress⟩, text, rest, htopics, htopic⟩ (h fields first second rfl)
      · rfl
  · rfl

/-- A log that was read was counted exactly when it is a payment log. -/
theorem matchLog_ok {log : Value} {found : Option (String × String × Int)}
    (h : matchLog intent log = .ok found) :
    (PaymentLog intent log ∧ found = some (payment intent)) ∨
      (¬ PaymentLog intent log ∧ found = none) := by
  by_cases htransfer : ∃ fields first second, log = .dict fields ∧
      IsTransferOf intent fields first second
  · obtain ⟨fields, first, second, rfl, htransfer⟩ := htransfer
    rw [matchLog_of_transfer htransfer] at h
    obtain ⟨fromAccount, hfrom, h⟩ := ok_of_bind h
    obtain ⟨toAccount, hto, h⟩ := ok_of_bind h
    obtain ⟨amount, hdata, h⟩ := ok_of_bind h
    have hfound := Except.ok.inj h
    by_cases hsame : (decide (fromAccount = intent.buyerAccount) &&
        decide (toAccount = intent.sellerAccount) && decide ((amount : Int) = intent.amountAtomic)) = true
    · rw [if_pos hsame] at hfound
      simp only [Bool.and_eq_true, decide_eq_true_eq] at hsame
      obtain ⟨⟨rfl, rfl⟩, hamount⟩ := hsame
      refine Or.inl ⟨.event htransfer (topicAddress_ok_iff.mp hfrom) (topicAddress_ok_iff.mp hto)
        hdata hamount, ?_⟩
      rw [← hfound, hamount]
      rfl
    · rw [if_neg hsame] at hfound
      refine Or.inr ⟨?_, hfound.symm⟩
      rintro ⟨htransfer', hpayer, hpayee, hdata', hamount⟩
      obtain ⟨topic, rest, htopics, -⟩ := htransfer.topics
      obtain ⟨topic', rest', htopics', -⟩ := htransfer'.topics
      rw [htopics] at htopics'
      cases htopics'
      rw [topicAddress_ok_iff.mpr hpayer] at hfrom
      rw [topicAddress_ok_iff.mpr hpayee] at hto
      rw [hdata'] at hdata
      cases hfrom
      cases hto
      cases hdata
      simp [hamount] at hsame
  · have hother : ∀ fields first second, log = .dict fields →
        ¬ IsTransferOf intent fields first second := fun fields first second hlog htransfer' =>
      htransfer ⟨fields, first, second, hlog, htransfer'⟩
    rw [matchLog_of_other hother] at h
    refine Or.inr ⟨?_, (Except.ok.inj h).symm⟩
    rintro ⟨htransfer', -, -, -, -⟩
    exact hother _ _ _ rfl htransfer'

theorem matchLog_of_readable {log : Value} (h : Readable intent log) :
    ∃ found, matchLog intent log = .ok found := by
  by_cases htransfer : ∃ fields first second, log = .dict fields ∧
      IsTransferOf intent fields first second
  · obtain ⟨fields, first, second, rfl, htransfer⟩ := htransfer
    obtain ⟨hfirst, hsecond, hdata⟩ := h fields first second rfl htransfer
    obtain ⟨fromAccount, hfrom⟩ := topicAddress_word hfirst
    obtain ⟨toAccount, hto⟩ := topicAddress_word hsecond
    obtain ⟨amount, hamount⟩ := hexInt_data hdata
    rw [matchLog_of_transfer htransfer, hfrom, hto, hamount]
    exact ⟨_, rfl⟩
  · exact ⟨none, matchLog_of_other fun fields first second hlog htransfer' =>
      htransfer ⟨fields, first, second, hlog, htransfer'⟩⟩

open Classical in
/-- The payment logs among the logs. -/
noncomputable def paymentLogs (intent : Settlement.SettlementIntent) (logs : List Value) : Nat :=
  logs.countP fun log => PaymentLog intent log

/-- The loop adds one match for each payment log. -/
theorem matchLogs_ok : ∀ {logs : List Value} {found : List (String × String × Int)},
    matchLogs intent logs = .ok found →
      found = List.replicate (paymentLogs intent logs) (payment intent) := by
  intro logs
  induction logs with
  | nil =>
      intro found h
      cases h
      rfl
  | cons log rest ih =>
      intro found h
      obtain ⟨this, hthis, h⟩ := ok_of_bind h
      obtain ⟨more, hmore, h⟩ := ok_of_bind h
      rw [← Except.ok.inj h, ih hmore]
      unfold paymentLogs
      rw [List.countP_cons]
      rcases matchLog_ok hthis with ⟨hpayment, rfl⟩ | ⟨hnot, rfl⟩
      · rw [if_pos (by simpa using hpayment), List.replicate_succ]
        rfl
      · rw [if_neg (by simpa using hnot)]
        rfl

theorem matchLogs_of_readable : ∀ {logs : List Value}, (∀ log ∈ logs, Readable intent log) →
    ∃ found, matchLogs intent logs = .ok found := by
  intro logs
  induction logs with
  | nil =>
      intro _
      exact ⟨[], rfl⟩
  | cons log rest ih =>
      intro h
      obtain ⟨this, hthis⟩ := matchLog_of_readable (h log (by simp))
      obtain ⟨more, hmore⟩ := ih fun log' hlog' => h log' (List.mem_cons_of_mem log hlog')
      unfold matchLogs
      rw [hthis, hmore]
      exact ⟨_, rfl⟩

/-! ### The confirmation -/

/-- What the node must say for the payment to be confirmed. -/
structure PaidOnChain (intent : Settlement.SettlementIntent) (rpc : Rpc)
    (receipt : List (Key × Value)) (block head : Nat) : Prop where
  chainId : ∃ value n, rpc.chainId = .ok value ∧ hexInt value = .ok n ∧ (n : Int) = intent.chainId
  answer : rpc.transactionReceipt = .ok (.dict receipt)
  status : hexInt (.get receipt "status") = .ok 1
  blockNumber : hexInt (.get receipt "blockNumber") = .ok block
  head : ∃ value, rpc.blockNumber = .ok value ∧ hexInt value = .ok head
  logs : ∃ logs, Value.get receipt "logs" = .list logs ∧ paymentLogs intent logs = 1

/-- The rest of the answers is well-formed. -/
structure WellFormed (intent : Settlement.SettlementIntent) (rpc : Rpc)
    (receipt : List (Key × Value)) : Prop where
  blockHash : hexPattern 64 (strOf (.get receipt "blockHash")) = true
  sender : ∃ sender, receiptSender rpc receipt = .ok sender
  logs : ∀ logs, Value.get receipt "logs" = .list logs → ∀ log ∈ logs, Readable intent log

theorem lower_of_normalize {value address : String} (h : normalizeEvmAddress value = .ok address) :
    lower address = address := by
  unfold normalizeEvmAddress at h
  obtain ⟨hpattern, h⟩ := ok_of_guard h
  obtain rfl := Except.ok.inj h
  have hvalid : addressPattern value = true := by simpa using hpattern
  exact (hexPattern_lower hvalid).2

/-- The constructor puts the addresses in lower case and asks for a confirmation. -/
theorem constructible_normalized (h : intent.Constructible) :
    lower intent.buyerAccount = intent.buyerAccount ∧
      lower intent.sellerAccount = intent.sellerAccount ∧
      lower intent.tokenAddress = intent.tokenAddress ∧ 1 ≤ intent.requiredConfirmations := by
  obtain ⟨⟨_, hbuyer⟩, ⟨_, hseller⟩, ⟨_, htoken⟩, -, -, hconfirmations, -⟩ := h.checked
  exact ⟨lower_of_normalize hbuyer, lower_of_normalize hseller, lower_of_normalize htoken,
    hconfirmations⟩

/-- A confirmation holds what it was constructed from. -/
structure HoldsFields (f : ConfirmationFields) (c : ChainConfirmation) : Prop where
  chainId : c.chainId = f.chainId.toNat
  tokenAddress : c.tokenAddress = lower f.tokenAddress
  fromAccount : c.fromAccount = lower f.fromAccount
  toAccount : c.toAccount = lower f.toAccount
  amountAtomic : c.amountAtomic = f.amountAtomic.toNat
  confirmationCount : c.confirmationCount = f.confirmationCount.toNat
  success : c.success = f.success

theorem confirm_holds {f : ConfirmationFields} {c : ChainConfirmation}
    (h : confirm f = .ok (some c)) : HoldsFields f c := by
  unfold confirm ConfirmationFields.postInit at h
  split at h
  · rename_i c' hc'
    cases h
    split at hc' <;> try cases hc'
    split at hc' <;> try cases hc'
    split at hc' <;> try cases hc'
    split at hc' <;> try cases hc'
    split at hc' <;> try cases hc'
    split at hc' <;> try cases hc'
    split at hc' <;> try cases hc'
    split at hc' <;> try cases hc'
    split at hc'
    · cases hc'
    · cases hc'
      exact ⟨rfl, rfl, rfl, rfl, rfl, rfl, rfl⟩
  · cases h

/-- The fields that a receipt with a payment is confirmed with. -/
def confirmedFields (intent : Settlement.SettlementIntent) (txHash sender blockHash : String)
    (block head : Nat) : ConfirmationFields where
  txHash := txHash
  chainId := intent.chainId
  facilitatorAddress := sender
  tokenAddress := intent.tokenAddress
  fromAccount := intent.buyerAccount
  toAccount := intent.sellerAccount
  amountAtomic := intent.amountAtomic
  blockNumber := block
  blockHash := blockHash
  confirmationCount := max 0 ((head : Int) - block + 1)
  success := true

/-- A confirmation of the payment passes as soon as the block is deep enough. -/
theorem validate_confirmed_iff (hintent : intent.Constructible) {sender blockHash : String}
    {block head : Nat} {c : ChainConfirmation}
    (h : HoldsFields (confirmedFields intent txHash sender blockHash block head) c) :
    Settlement.validateChainConfirmation intent c = none ↔
      intent.requiredConfirmations ≤ (head : Int) - block + 1 := by
  obtain ⟨hbuyer, hseller, htoken, hrequired⟩ := constructible_normalized hintent
  have hsettleable := settleable_of_constructible hintent
  have hsuccess : ¬ (!c.success) = true := by simp [h.success, confirmedFields]
  have hchain : (c.chainId : Int) = intent.chainId := by
    rw [h.chainId]
    exact Int.toNat_of_nonneg (le_of_lt hsettleable.chain)
  have hamount : (c.amountAtomic : Int) = intent.amountAtomic := by
    rw [h.amountAtomic]
    exact Int.toNat_of_nonneg (le_of_lt hsettleable.amount)
  have hcount : (c.confirmationCount : Int) = max 0 ((head : Int) - block + 1) := by
    rw [h.confirmationCount]
    exact Int.toNat_of_nonneg (le_max_left 0 _)
  unfold Settlement.validateChainConfirmation
  rw [if_neg hsuccess, if_neg (not_not.mpr hchain), if_neg (not_not.mpr (h.tokenAddress.trans htoken)),
    if_neg (not_not.mpr (h.fromAccount.trans hbuyer)), if_neg (not_not.mpr (h.toAccount.trans hseller)),
    if_neg (not_not.mpr hamount), hcount]
  by_cases hdeep : intent.requiredConfirmations ≤ (head : Int) - block + 1
  · rw [if_neg (by omega)]
    exact iff_of_true rfl hdeep
  · rw [if_pos (by omega)]
    exact iff_of_false (by simp) hdeep

/-- A receipt that gave a successful confirmation. -/
theorem readReceipt_success {chainId : Nat} {receipt : List (Key × Value)} {c : ChainConfirmation}
    (hchain : (chainId : Int) = intent.chainId)
    (h : readReceipt intent txHash rpc chainId receipt = .ok (some c)) (hsuccess : c.success = true) :
    ∃ block head sender, hexInt (.get receipt "status") = .ok 1 ∧
      hexInt (.get receipt "blockNumber") = .ok block ∧
      (∃ value, rpc.blockNumber = .ok value ∧ hexInt value = .ok head) ∧
      (∃ logs, Value.get receipt "logs" = .list logs ∧ paymentLogs intent logs = 1) ∧
      HoldsFields
        (confirmedFields intent txHash sender (strOf (.get receipt "blockHash")) block head) c := by
  obtain ⟨block, hblock, h⟩ := ok_of_bind h
  obtain ⟨status, hstatus, h⟩ := ok_of_bind h
  obtain ⟨sender, -, h⟩ := ok_of_bind h
  obtain ⟨value, hvalue, h⟩ := ok_of_bind h
  obtain ⟨head, hhead, h⟩ := ok_of_bind h
  dsimp only at h
  by_cases hzero : status = 0
  · rw [if_pos hzero] at h
    have hfailed := (confirm_holds h).success
    rw [hsuccess] at hfailed
    cases hfailed
  rw [if_neg hzero] at h
  obtain ⟨hone, h⟩ := ok_of_guard h
  rw [not_not] at hone
  rw [hone] at hstatus
  cases hlogs : Value.get receipt "logs" with
  | list logs =>
      rw [hlogs] at h
      obtain ⟨found, hfound, h⟩ := ok_of_bind h
      have hcount := matchLogs_ok hfound
      cases hpayments : paymentLogs intent logs with
      | zero =>
          rw [hpayments] at hcount
          rw [hcount] at h
          cases h
      | succ n =>
          cases n with
          | zero =>
              rw [hpayments] at hcount
              rw [hcount] at h
              refine ⟨block, head, sender, hstatus, hblock, ⟨value, hvalue, hhead⟩,
                ⟨logs, rfl, hpayments⟩, ?_⟩
              have hholds := confirm_holds h
              rw [hchain] at hholds
              exact hholds
          | succ n =>
              rw [hpayments] at hcount
              rw [hcount] at h
              cases h
  | _ =>
      rw [hlogs] at h
      cases h

/-- A receipt with the payment is read as its confirmation. -/
theorem readReceipt_paid {chainId : Nat} {receipt : List (Key × Value)} {block head : Nat}
    (hchain : (chainId : Int) = intent.chainId) (hpaid : PaidOnChain intent rpc receipt block head)
    (hwell : WellFormed intent rpc receipt) :
    ∃ sender, addressPattern sender = true ∧ readReceipt intent txHash rpc chainId receipt =
      confirm (confirmedFields intent txHash sender (strOf (.get receipt "blockHash")) block head) := by
  obtain ⟨sender, hsender⟩ := hwell.sender
  obtain ⟨value, hvalue, hhead⟩ := hpaid.head
  obtain ⟨logs, hlogs, hone⟩ := hpaid.logs
  obtain ⟨found, hfound⟩ := matchLogs_of_readable (hwell.logs logs hlogs)
  have hcount := matchLogs_ok hfound
  rw [hone] at hcount
  rw [hcount] at hfound
  have haddress : addressPattern sender = true := by
    unfold receiptSender at hsender
    split at hsender
    · rename_i found hread
      rw [← Except.ok.inj hsender]
      exact addressPattern_of_sender hread
    · obtain ⟨transaction, -, hsender⟩ := ok_of_bind hsender
      split at hsender
      · rename_i found hread
        rw [← Except.ok.inj hsender]
        exact addressPattern_of_sender hread
      · cases hsender
  refine ⟨sender, haddress, ?_⟩
  unfold readReceipt
  rw [hpaid.blockNumber, hpaid.status, hsender, hvalue]
  simp only [bind, Except.bind]
  rw [hhead, hlogs]
  dsimp only
  rw [if_neg (by decide), if_neg (by decide), hfound, hchain]
  rfl

theorem confirm_confirmed (hintent : intent.Constructible) (htx : txHashPattern txHash = true)
    {sender blockHash : String} (hsender : addressPattern sender = true)
    (hhash : hexPattern 64 blockHash = true) (block head : Nat) :
    ∃ c : ChainConfirmation,
      confirm (confirmedFields intent txHash sender blockHash block head) = .ok (some c) := by
  have hsettleable := settleable_of_constructible hintent
  have hheight : ¬ (decide ((block : Int) < 0) ||
      decide (max 0 ((head : Int) - block + 1) < 0)) = true := by
    simp only [Bool.or_eq_true, decide_eq_true_eq]
    omega
  unfold confirm ConfirmationFields.postInit confirmedFields
  simp only [htx, hsender, hsettleable.token, hsettleable.buyer, hsettleable.seller, hhash,
    hsettleable.chain, hsettleable.amount, hheight, dif_pos]
  exact ⟨_, rfl⟩

/-- **The node's reader confirms exactly the payments.**  A successful confirmation that was not the
    explorer's comes from a receipt with status 1 on the intent's chain that holds exactly one payment
    log, and it passes the intent's check exactly when the block is deep enough; and well-formed answers
    with those facts do give it. -/
theorem node_confirms (intent : Settlement.SettlementIntent) (txHash : String) (rpc : Rpc)
    (explorer : Option Explorer) (hintent : intent.Constructible) :
    (∀ c, (explorer = none ∨ rpc.transactionReceipt ≠ .ok .none) →
      readSync intent txHash rpc explorer = .ok (some c) → c.success = true →
        ∃ receipt block head, PaidOnChain intent rpc receipt block head ∧
          (Settlement.validateChainConfirmation intent c = none ↔
            intent.requiredConfirmations ≤ (head : Int) - block + 1)) ∧
    (txHashPattern txHash = true → ∀ receipt block head, PaidOnChain intent rpc receipt block head →
      WellFormed intent rpc receipt →
        ∃ c, readSync intent txHash rpc explorer = .ok (some c) ∧ c.success = true ∧
          (Settlement.validateChainConfirmation intent c = none ↔
            intent.requiredConfirmations ≤ (head : Int) - block + 1)) := by
  constructor
  · intro c hsource h hsuccess
    unfold readSync at h
    obtain ⟨answer, hanswer, h⟩ := ok_of_bind h
    obtain ⟨chainId, hchainId, h⟩ := ok_of_bind h
    obtain ⟨hchain, h⟩ := ok_of_guard h
    rw [not_not] at hchain
    obtain ⟨value, hvalue, h⟩ := ok_of_bind h
    split at h
    · rename_i explorer
      rcases hsource with hsource | hsource
      · cases hsource
      · exact absurd hvalue hsource
    · cases h
    · rename_i receipt
      obtain ⟨block, head, sender, hstatus, hblock, hhead, hlogs, hholds⟩ :=
        readReceipt_success hchain h hsuccess
      exact ⟨receipt, block, head,
        ⟨⟨answer, chainId, hanswer, hchainId, hchain⟩, hvalue, hstatus, hblock, hhead, hlogs⟩,
        validate_confirmed_iff hintent hholds⟩
    · cases h
  · intro htx receipt block head hpaid hwell
    obtain ⟨answer, chainId, hanswer, hchainId, hchain⟩ := hpaid.chainId
    obtain ⟨sender, hsender, hread⟩ := readReceipt_paid hchain hpaid hwell
    obtain ⟨c, hc⟩ := confirm_confirmed hintent htx hsender hwell.blockHash block head
    have hholds := confirm_holds hc
    refine ⟨c, ?_, hholds.success, validate_confirmed_iff hintent hholds⟩
    unfold readSync
    rw [hanswer, hpaid.answer]
    simp only [bind, Except.bind]
    rw [hchainId]
    dsimp only
    rw [if_neg (not_not.mpr hchain), hread, hc]

end

/-! ### A payment with an authorization -/

namespace Sample

/-- The event of the authorization that was used: everything is in its topics. -/
def authorizationUsedLog : Value :=
  .obj [("address", .str "0x3333333333333333333333333333333333333333"),
    ("topics", .list [.str "0x98de503528ee59b575ef0c0a2576a82497bfc029a5685b209e9ec333479b10a5",
      .str "0x0000000000000000000000001111111111111111111111111111111111111111",
      .str "0x5555555555555555555555555555555555555555555555555555555555555555"]),
    ("data", .str "0x")]

/-- A transfer of the token that says nothing of its amount. -/
def emptyTransferLog : Value :=
  .obj [("address", .str "0x3333333333333333333333333333333333333333"),
    ("topics", .list [.str transferTopic,
      .str "0x0000000000000000000000001111111111111111111111111111111111111111",
      .str "0x0000000000000000000000002222222222222222222222222222222222222222"]),
    ("data", .str "0x")]

/-- A receipt with the payment after another log. -/
def receiptAfter (log : Value) : List (Key × Value) :=
  [(.text "blockNumber", .str "0x64"),
    (.text "blockHash", .str "0x5555555555555555555555555555555555555555555555555555555555555555"),
    (.text "status", .str "0x1"), (.text "from", .str facilitator),
    (.text "logs", .list [log, paymentLog])]

def rpcAfter (log : Value) : Rpc :=
  { rpc true with transactionReceipt := .ok (.dict (receiptAfter log)) }

theorem paymentLog_pays : PaymentLog intent paymentLog := by
  have hread : matchLog intent paymentLog = .ok (some (payment intent)) := by decide
  rcases matchLog_ok hread with ⟨hpayment, -⟩ | ⟨-, hnone⟩
  · exact hpayment
  · cases hnone

theorem paid_after {log : Value} (h : ¬ PaymentLog intent log) :
    PaidOnChain intent (rpcAfter log) (receiptAfter log) 100 101 where
  chainId := ⟨_, _, rfl, by decide, rfl⟩
  answer := rfl
  status := by
    show hexInt (.str "0x1") = .ok 1
    decide
  blockNumber := by
    show hexInt (.str "0x64") = .ok 100
    decide
  head := ⟨_, rfl, by decide⟩
  logs := by
    refine ⟨_, rfl, ?_⟩
    unfold paymentLogs
    simp [h, paymentLog_pays]

theorem authorizationUsed_other (fields : List (Key × Value)) (first second : Value)
    (h : authorizationUsedLog = .dict fields) : ¬ IsTransferOf intent fields first second := by
  rintro ⟨-, topic, rest, htopics, htopic⟩
  cases h
  cases htopics
  revert htopic
  decide

/-- An address of one repeated digit, as a topic. -/
theorem isWord_repeated {digit : Char} (h : isHex digit = true) :
    IsWord (.str (String.ofList ('0' :: 'x' :: (List.replicate 24 '0' ++ List.replicate 40 digit)))) := by
  refine ⟨_, ?_, ?_, rfl⟩
  · rw [List.length_append, List.length_replicate, List.length_replicate]
  · intro c hc
    rcases List.mem_append.mp hc with hc | hc
    · rw [List.eq_of_mem_replicate hc]
      decide
    · rw [List.eq_of_mem_replicate hc]
      exact h

theorem readable_payment : Readable intent paymentLog := by
  rintro fields first second h ⟨-, topic, rest, htopics, -⟩
  cases h
  cases htopics
  have hbuyer : isHex '1' = true := by decide
  have hseller : isHex '2' = true := by decide
  have hdata : ['2', '6', '2', '5', 'a', '0'].all isHex = true := by decide
  exact ⟨isWord_repeated hbuyer, isWord_repeated hseller,
    ⟨_, List.cons_ne_nil _ _, List.all_eq_true.mp hdata, rfl⟩⟩

theorem wellFormed_after : WellFormed intent (rpcAfter authorizationUsedLog)
    (receiptAfter authorizationUsedLog) where
  blockHash := by decide
  sender := ⟨facilitator, by decide⟩
  logs := by
    intro logs hlogs log hlog
    cases hlogs
    simp only [List.mem_cons, List.not_mem_nil, or_false] at hlog
    rcases hlog with rfl | rfl
    · exact fun fields first second h htransfer =>
        absurd htransfer (authorizationUsed_other fields first second h)
    · exact readable_payment

/-- The payment is confirmed, and two blocks are deep enough. -/
theorem node_confirms_payment : ∃ c,
    readSync intent txHash (rpcAfter authorizationUsedLog) none = .ok (some c) ∧
      c.success = true ∧ Settlement.validateChainConfirmation intent c = none := by
  have hother : ¬ PaymentLog intent authorizationUsedLog := by
    generalize hlog : authorizationUsedLog = log
    rintro ⟨htransfer, -, -, -, -⟩
    exact authorizationUsed_other _ _ _ hlog htransfer
  obtain ⟨c, hread, hsuccess, hiff⟩ :=
    (node_confirms intent txHash (rpcAfter authorizationUsedLog) none intent_constructible).2
      (by decide) _ _ _ (paid_after hother) wellFormed_after
  exact ⟨c, hread, hsuccess, hiff.mpr (by decide)⟩

/-- Without a receipt the explorer is asked. -/
theorem readSync_explorer {node : Rpc} {answer : Value} {chainId : Nat}
    (hanswer : node.chainId = .ok answer) (hvalue : hexInt answer = .ok chainId)
    (hchain : (chainId : Int) = intent.chainId) (hnone : node.transactionReceipt = .ok .none)
    (explorer : Explorer) :
    readSync intent txHash node (some explorer) = readBlockscout intent txHash explorer := by
  unfold readSync
  rw [hanswer, hnone]
  simp only [bind, Except.bind]
  rw [hvalue]
  dsimp only
  rw [if_neg (not_not.mpr hchain)]

/-- The node has no receipt and the explorer confirms; and a transfer of the token with empty data
    stops the reader before it reaches the payment. -/
theorem confirmed_without_receipt :
    (∃ c, readSync intent txHash { rpc true with transactionReceipt := .ok .none }
        (some (explorer true)) = .ok (some c) ∧ c.success = true ∧
      ∀ receipt block head, ¬ PaidOnChain intent { rpc true with transactionReceipt := .ok .none }
        receipt block head) ∧
    PaidOnChain intent (rpcAfter emptyTransferLog) (receiptAfter emptyTransferLog) 100 101 ∧
      readSync intent txHash (rpcAfter emptyTransferLog) none =
        .error (.chainRead "invalid_rpc_quantity") := by
  refine ⟨?_, paid_after ?_, rfl⟩
  · obtain ⟨c, hc⟩ := @confirm_evidence intent txHash (facts true)
      (settleable_of_constructible intent_constructible) (by decide : txHashPattern txHash = true)
      (by decide) (by decide) true
    refine ⟨c, ?_, (confirm_holds hc).success, ?_⟩
    · have hread : readBlockscout intent txHash (explorer true) = .ok (some c) := by
        rw [readBlockscout_eq (describes_explorer true), if_neg (by decide), if_pos (by decide), hc]
      have hvalue : hexInt (.str "0x14a34") = .ok 84532 := by decide
      exact (readSync_explorer rfl hvalue rfl rfl _).trans hread
    · rintro receipt block head ⟨-, hanswer, -, -, -, -⟩
      cases hanswer
  · generalize hlog : emptyTransferLog = log
    rintro ⟨-, -, -, hdata, -⟩
    cases hlog
    have hempty : hexInt (.str "0x") = .error (.chainRead "invalid_rpc_quantity") := by decide
    have hboth := hempty.symm.trans hdata
    cases hboth

end Sample

end Arena402.Game
