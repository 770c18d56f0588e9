/-
Settlements conserve cash and goods, and inventory moves once, on evidence.

An operation either leaves the books alone, or it does one of four things: it moves the
status of an intent that is not final, writes down a submission, writes down checked chain
evidence, or commits.  Only a commit touches balances and holdings; it takes from one
participant what it gives to another of the same game, and it needs the evidence.  A final
status never changes and a commit is never forgotten, so what moved once never moves again.
-/
import Arena402.Lib.Raise
import Arena402.Game.SettlementLedger

namespace Arena402.Game.Ledger

open Py Arena402.Payments

variable {digest : String → String} {evidenceHash : ChainConfirmation → String}
  {intact : SettlementIntent → Bool} {s t u : Ledger} {id : String}

/-! ### What the bookkeeping around a deal leaves alone -/

/-- The game a participant belongs to. -/
def gameOf (s : Ledger) (p : String) : Option String :=
  (s.participants.get p).map (·.gameId)

/-- `t` differs from `s` at most in approvals, deals, statuses of participants and events. -/
structure SameBooks (s t : Ledger) : Prop where
  intents : t.intents = s.intents
  submissions : t.submissions = s.submissions
  confirmations : t.confirmations = s.confirmations
  commits : t.commits = s.commits
  balances : t.balances = s.balances
  holdings : t.holdings = s.holdings
  games : t.gameOf = s.gameOf

theorem SameBooks.refl (s : Ledger) : SameBooks s s :=
  ⟨rfl, rfl, rfl, rfl, rfl, rfl, rfl⟩

theorem SameBooks.trans (h : SameBooks s t) (h' : SameBooks t u) : SameBooks s u :=
  ⟨h'.intents.trans h.intents, h'.submissions.trans h.submissions,
    h'.confirmations.trans h.confirmations, h'.commits.trans h.commits,
    h'.balances.trans h.balances, h'.holdings.trans h.holdings, h'.games.trans h.games⟩

theorem event_sameBooks (s : Ledger) (e : GameEvent) : SameBooks s (s.event e) := by
  unfold event
  split
  · exact SameBooks.refl s
  · exact ⟨rfl, rfl, rfl, rfl, rfl, rfl, rfl⟩

theorem intentEvent_sameBooks (s : Ledger) (intent : SettlementIntent) (eventType key : String)
    (payload : List (String × Value)) : SameBooks s (s.intentEvent intent eventType key payload) :=
  event_sameBooks s _

theorem pairingClosedEvent_sameBooks (s : Ledger) (id : String) (intent : SettlementIntent)
    (status : DealStatus) : SameBooks s (s.pairingClosedEvent id intent status) := by
  unfold pairingClosedEvent
  refine SameBooks.trans ?_ (intentEvent_sameBooks _ _ _ _ _)
  exact ⟨rfl, rfl, rfl, rfl, rfl, rfl, rfl⟩

theorem closeDeal_sameBooks (s : Ledger) (intent : SettlementIntent) (status : DealStatus) :
    SameBooks s (s.closeDeal intent status) :=
  ⟨rfl, rfl, rfl, rfl, rfl, rfl, rfl⟩

theorem failDeal_sameBooks (s : Ledger) (id : String) (intent : SettlementIntent) :
    SameBooks s (s.failDeal id intent) :=
  (closeDeal_sameBooks s intent _).trans (pairingClosedEvent_sameBooks _ _ _ _)

/-- A participant keeps its game when its status changes. -/
theorem gameOf_reactivate (s : Ledger) (intent : SettlementIntent) :
    (s.reactivate intent).gameOf = s.gameOf := by
  funext p
  unfold gameOf reactivate
  dsimp only
  induction s.participants with
  | nil => rfl
  | cons e rest ih =>
      rw [List.map_cons, Dict.get_cons, Dict.get_cons]
      by_cases hp : e.1 = p
      · split_ifs <;> simp_all
      · split_ifs <;> simp_all

theorem reactivate_sameBooks (s : Ledger) (intent : SettlementIntent) :
    SameBooks s (s.reactivate intent) :=
  ⟨rfl, rfl, rfl, rfl, rfl, rfl, gameOf_reactivate s intent⟩

/-- The steps that follow every change of a deal's outcome. -/
theorem finish_sameBooks (s : Ledger) (id : String) (intent : SettlementIntent)
    (status : DealStatus) (eventType key : String) (payload : List (String × Value)) :
    SameBooks s ((((s.closeDeal intent status).reactivate intent).intentEvent intent eventType key
      payload).pairingClosedEvent id intent status) :=
  (((closeDeal_sameBooks s intent status).trans (reactivate_sameBooks _ intent)).trans
    (intentEvent_sameBooks _ _ _ _ _)).trans (pairingClosedEvent_sameBooks _ _ _ _)

/-! ### What one call can do to the books -/

/-- The statuses that an intent never leaves. -/
def Final (status : SettlementStatus) : Prop :=
  status = .reverted ∨ status = .authorizationFailed ∨ status = .inventoryCommitted

/-- The amounts a commit of the intent moves. -/
def commitOf (intent : SettlementIntent) (buyerCash sellerCash buyerHolding sellerHolding : Int) :
    CommitRow where
  buyerCashBefore := buyerCash
  buyerCashAfter := buyerCash - intent.amountAtomic
  sellerCashBefore := sellerCash
  sellerCashAfter := sellerCash + intent.amountAtomic
  buyerHoldingBefore := buyerHolding
  buyerHoldingAfter := buyerHolding + intent.quantity
  sellerHoldingBefore := sellerHolding
  sellerHoldingAfter := sellerHolding - intent.quantity

/-- The books after a commit. -/
def committed (s : Ledger) (id : String) (row : IntentRow) (c : CommitRow) : Ledger :=
  { s with
    balances := (s.balances.set row.intent.buyerParticipantId c.buyerCashAfter).set
      row.intent.sellerParticipantId c.sellerCashAfter
    holdings := (s.holdings.set (row.intent.buyerParticipantId, row.intent.goodId)
      c.buyerHoldingAfter).set (row.intent.sellerParticipantId, row.intent.goodId)
      c.sellerHoldingAfter
    commits := s.commits.set id c }.setStatus id row .inventoryCommitted row.safeErrorCode

/-- What a call that succeeds does to the books. -/
inductive Effect (evidenceHash : ChainConfirmation → String) (s : Ledger) :
    Operation → Ledger → Prop
  | same {op : Operation} {t : Ledger} : SameBooks s t → Effect evidenceHash s op t
  | status {op : Operation} {t : Ledger} (id : String) (row : IntentRow)
      (status : SettlementStatus) (code : Option String) :
      s.intents.get id = some row → ¬ Final row.status →
      SameBooks (s.setStatus id row status code) t → Effect evidenceHash s op t
  | submitted {t : Ledger} (id txHash nonce hash source : String) (row : IntentRow)
      (submission : SubmissionRow) :
      s.intents.get id = some row → ¬ Final row.status → s.submissions.get id = none →
      SameBooks ({ s with submissions := s.submissions.set id submission }.setStatus id row
        .submitted none) t →
      Effect evidenceHash s (.submit id txHash nonce hash source) t
  | confirmed {t : Ledger} (id : String) (c : ChainConfirmation) (row : IntentRow)
      (submission : SubmissionRow) :
      s.intents.get id = some row → ¬ Final row.status →
      s.submissions.get id = some submission → c.txHash = submission.txHash →
      validateChainConfirmation row.intent c = none →
      SameBooks ({ s with
        confirmations := s.confirmations.set id (confirmationRow evidenceHash c) }.setStatus id row
          .chainConfirmedUncommitted none) t →
      Effect evidenceHash s (.confirm id c) t
  | committed {t : Ledger} (id : String) (row : IntentRow)
      (buyerCash sellerCash buyerHolding sellerHolding : Int) :
      s.intents.get id = some row → s.commits.get id = none →
      row.status = .chainConfirmedUncommitted → (s.confirmations.get id).isSome →
      s.balances.get row.intent.buyerParticipantId = some buyerCash →
      s.balances.get row.intent.sellerParticipantId = some sellerCash →
      s.holdings.get (row.intent.buyerParticipantId, row.intent.goodId) = some buyerHolding →
      s.holdings.get (row.intent.sellerParticipantId, row.intent.goodId) = some sellerHolding →
      row.intent.amountAtomic ≤ buyerCash → row.intent.quantity ≤ sellerHolding →
      SameBooks (s.committed id row
        (commitOf row.intent buyerCash sellerCash buyerHolding sellerHolding)) t →
      Effect evidenceHash s (.commit id) t

theorem recordSettlementApproval_effect {hash nonce source : String}
    (h : s.recordSettlementApproval digest id hash nonce source = .ok t) : SameBooks s t := by
  obtain ⟨-, h⟩ := ok_of_guard h
  obtain ⟨-, h⟩ := ok_of_guard h
  split at h
  · cases h
  obtain ⟨-, h⟩ := ok_of_guard h
  split at h
  · cases h
  obtain ⟨-, h⟩ := ok_of_guard h
  dsimp only at h
  split at h
  · obtain ⟨-, h⟩ := ok_of_guard h
    obtain rfl := Except.ok.inj h
    exact SameBooks.refl _
  · obtain ⟨-, h⟩ := ok_of_guard h
    obtain ⟨-, h⟩ := ok_of_guard h
    obtain rfl := Except.ok.inj h
    refine SameBooks.trans ?_ (intentEvent_sameBooks _ _ _ _ _)
    exact ⟨rfl, rfl, rfl, rfl, rfl, rfl, rfl⟩

theorem recordSettlementSubmission_effect {txHash nonce hash source : String}
    (h : s.recordSettlementSubmission digest id txHash nonce hash source = .ok t) :
    Effect evidenceHash s (.submit id txHash nonce hash source) t := by
  unfold recordSettlementSubmission at h
  split at h
  · cases h
  · cases h
  obtain ⟨-, h⟩ := ok_of_guard h
  obtain ⟨-, h⟩ := ok_of_guard h
  dsimp only at h
  split at h
  · cases h
  rename_i row hrow
  split at h
  · obtain ⟨-, h⟩ := ok_of_guard h
    obtain rfl := Except.ok.inj h
    exact Effect.same (SameBooks.refl _)
  rename_i hnone
  split at h
  · cases h
  obtain ⟨-, h⟩ := ok_of_guard h
  obtain ⟨hstatus, h⟩ := ok_of_guard h
  obtain ⟨-, h⟩ := ok_of_guard h
  obtain rfl := Except.ok.inj h
  refine Effect.submitted id txHash nonce hash source row _ hrow ?_ hnone
    (intentEvent_sameBooks _ _ _ _ _)
  rintro (hf | hf | hf) <;> simp [hf] at hstatus

theorem markConfirmationTimeout_effect {op : Operation}
    (h : s.markConfirmationTimeout id = .ok t) : Effect evidenceHash s op t := by
  unfold markConfirmationTimeout at h
  split at h
  · cases h
  rename_i row hrow
  dsimp only at h
  split at h
  · rename_i hstatus
    obtain rfl := Except.ok.inj h
    exact Effect.status id row .confirmationTimeout (some "confirmation_timeout") hrow
      (by simp [Final, hstatus]) (intentEvent_sameBooks _ _ _ _ _)
  · obtain rfl := Except.ok.inj h
    exact Effect.same (intentEvent_sameBooks _ _ _ _ _)
  · cases h

theorem recordAutomaticFailure_effect {op : Operation} {code : String}
    (h : s.recordAutomaticFailure id code = .ok t) : Effect evidenceHash s op t := by
  obtain ⟨-, h⟩ := ok_of_guard h
  split at h
  · cases h
  rename_i row hrow
  split at h
  · obtain rfl := Except.ok.inj h
    exact Effect.same (failDeal_sameBooks _ _ _)
  · rename_i hstatus
    obtain rfl := Except.ok.inj h
    exact Effect.status id row .authorizationFailed (some code) hrow (by simp [Final, hstatus])
      (finish_sameBooks _ _ _ _ _ _ _)
  · cases h

theorem recordChainConfirmation_effect {c : ChainConfirmation}
    (h : s.recordChainConfirmation evidenceHash intact id c = .ok t) :
    Effect evidenceHash s (.confirm id c) t := by
  unfold recordChainConfirmation at h
  split at h
  · rename_i row submission hrow hsub
    obtain ⟨-, h⟩ := ok_of_guard h
    obtain ⟨htx, h⟩ := ok_of_guard h
    split at h
    · cases h
    rename_i hvalid
    split at h
    · obtain ⟨-, h⟩ := ok_of_guard h
      obtain rfl := Except.ok.inj h
      exact Effect.same (SameBooks.refl _)
    obtain ⟨hstatus, h⟩ := ok_of_guard h
    obtain ⟨-, h⟩ := ok_of_guard h
    obtain rfl := Except.ok.inj h
    refine Effect.confirmed id c row submission hrow ?_ hsub (not_not.mp htx) hvalid
      (intentEvent_sameBooks _ _ _ _ _)
    rintro (hf | hf | hf) <;> simp [hf] at hstatus
  · cases h

theorem recordChainReverted_effect {op : Operation} {txHash : String}
    (h : s.recordChainReverted id txHash = .ok t) : Effect evidenceHash s op t := by
  have hrevert : ∀ row, s.intents.get id = some row →
      row.status = .submitted ∨ row.status = .confirmationTimeout → ∀ eventType key payload,
      Effect evidenceHash s op (((((s.setStatus id row .reverted
        (some "chain_transaction_reverted")).closeDeal row.intent .settlementFailed).reactivate
        row.intent).intentEvent row.intent eventType key payload).pairingClosedEvent id row.intent
        .settlementFailed) := by
    intro row hrow hstatus eventType key payload
    refine Effect.status id row .reverted _ hrow ?_ (finish_sameBooks _ _ _ _ _ _ _)
    rintro (hf | hf | hf) <;> simp [hf] at hstatus
  unfold recordChainReverted at h
  split at h
  · cases h
  split at h
  · rename_i row submission hrow hsub
    obtain ⟨-, h⟩ := ok_of_guard h
    split at h
    · obtain rfl := Except.ok.inj h
      exact Effect.same (failDeal_sameBooks _ _ _)
    · rename_i hstatus
      obtain rfl := Except.ok.inj h
      exact hrevert row hrow (Or.inl hstatus) _ _ _
    · rename_i hstatus
      obtain rfl := Except.ok.inj h
      exact hrevert row hrow (Or.inr hstatus) _ _ _
    · cases h
  · cases h

theorem commitConfirmedInventory_effect (h : s.commitConfirmedInventory id = .ok t) :
    Effect evidenceHash s (.commit id) t := by
  unfold commitConfirmedInventory at h
  split at h
  · cases h
  rename_i row hrow
  dsimp only at h
  split at h
  · obtain rfl := Except.ok.inj h
    exact Effect.same ((closeDeal_sameBooks s _ _).trans (pairingClosedEvent_sameBooks _ _ _ _))
  rename_i hcommit
  obtain ⟨hstatus, h⟩ := ok_of_guard h
  obtain ⟨hconf, h⟩ := ok_of_guard h
  split at h
  · rename_i buyerCash sellerCash hbuyer hseller
    split at h
    · rename_i buyerHolding sellerHolding hbuyerHolds hsellerHolds
      obtain ⟨hcash, h⟩ := ok_of_guard h
      obtain ⟨hgoods, h⟩ := ok_of_guard h
      obtain ⟨-, h⟩ := ok_of_guard h
      obtain rfl := Except.ok.inj h
      exact Effect.committed id row buyerCash sellerCash buyerHolding sellerHolding hrow hcommit
        (not_not.mp hstatus) (by simpa [Option.isSome_iff_ne_none] using hconf) hbuyer hseller
        hbuyerHolds hsellerHolds (not_lt.mp hcash) (not_lt.mp hgoods)
        (finish_sameBooks _ _ _ _ _ _ _)
    · cases h
  · cases h

/-- The tables after a call, whether it raised or not. -/
theorem apply_effect (s : Ledger) (op : Operation) :
    Effect evidenceHash s op (s.apply digest evidenceHash intact op) := by
  unfold apply
  split
  · rename_i t h
    cases op with
    | approve => exact Effect.same (recordSettlementApproval_effect h)
    | submit => exact recordSettlementSubmission_effect h
    | timeout => exact markConfirmationTimeout_effect h
    | fail => exact recordAutomaticFailure_effect h
    | confirm => exact recordChainConfirmation_effect h
    | revert => exact recordChainReverted_effect h
    | commit => exact commitConfirmedInventory_effect h
  · exact Effect.same (SameBooks.refl s)

/-! ### What no call takes back -/

def statusOf (s : Ledger) (id : String) : Option SettlementStatus :=
  (s.intents.get id).map (·.status)

def intentOf (s : Ledger) (id : String) : Option SettlementIntent :=
  (s.intents.get id).map (·.intent)

/-- `t` is `s` after some calls. -/
structure Grows (s t : Ledger) : Prop where
  games : t.gameOf = s.gameOf
  intents : t.intentOf = s.intentOf
  final : ∀ id status, s.statusOf id = some status → Final status → t.statusOf id = some status
  submissions : ∀ id x, s.submissions.get id = some x → t.submissions.get id = some x
  commits : ∀ id, (s.commits.get id).isSome → (t.commits.get id).isSome

theorem Grows.trans (h : Grows s t) (h' : Grows t u) : Grows s u where
  games := h'.games.trans h.games
  intents := h'.intents.trans h.intents
  final id status hs hf := h'.final id status (h.final id status hs hf) hf
  submissions id x hx := h'.submissions id x (h.submissions id x hx)
  commits id hc := h'.commits id (h.commits id hc)

theorem SameBooks.grows (h : SameBooks s t) : Grows s t where
  games := h.games
  intents := by
    unfold intentOf
    rw [h.intents]
  final id status hs _ := by
    unfold statusOf
    rw [h.intents]
    exact hs
  submissions id x hx := by
    rw [h.submissions]
    exact hx
  commits id hc := by
    rw [h.commits]
    exact hc

theorem Grows.setStatus {row : IntentRow} {status : SettlementStatus} {code : Option String}
    (h : Grows s t) (hrow : t.intents.get id = some row) (hfinal : ¬ Final row.status) :
    Grows s (t.setStatus id row status code) := by
  refine h.trans ⟨rfl, ?_, ?_, fun _ _ hx => hx, fun _ hc => hc⟩
  · funext i
    unfold intentOf Ledger.setStatus
    dsimp only
    rw [Dict.get_set]
    by_cases hi : i = id
    · rw [if_pos hi, hi, hrow]
      rfl
    · rw [if_neg hi]
  · intro i st hs hf
    unfold statusOf Ledger.setStatus
    dsimp only
    have hi : i ≠ id := by
      intro hi
      rw [statusOf, hi, hrow] at hs
      obtain rfl := Option.some.inj hs
      exact hfinal hf
    rw [Dict.get_set_ne _ _ hi]
    exact hs

theorem Effect.grows {op : Operation} (h : Effect evidenceHash s op t) : Grows s t := by
  cases h with
  | same hsame => exact hsame.grows
  | status id row status code hrow hfinal hsame =>
      exact ((SameBooks.refl s).grows.setStatus hrow hfinal).trans hsame.grows
  | submitted id txHash nonce hash source row submission hrow hfinal hnone hsame =>
      refine Grows.trans ?_ hsame.grows
      refine Grows.setStatus ?_ hrow hfinal
      refine ⟨rfl, rfl, fun _ _ hs _ => hs, ?_, fun _ hc => hc⟩
      intro i x hx
      have hi : i ≠ id := by
        rintro rfl
        rw [hnone] at hx
        cases hx
      exact (Dict.get_set_ne _ _ hi).trans hx
  | confirmed id c row submission hrow hfinal hsub htx hvalid hsame =>
      refine Grows.trans ?_ hsame.grows
      refine Grows.setStatus ?_ hrow hfinal
      exact ⟨rfl, rfl, fun _ _ hs _ => hs, fun _ _ hx => hx, fun _ hc => hc⟩
  | committed id row buyerCash sellerCash buyerHolding sellerHolding hrow hnone hstatus hconf
      hb hs hbh hsh hcash hgoods hsame =>
      refine Grows.trans ?_ hsame.grows
      refine Grows.setStatus ?_ hrow (by simp [Final, hstatus])
      refine ⟨rfl, rfl, fun _ _ hs _ => hs, fun _ _ hx => hx, ?_⟩
      intro i hi
      dsimp only
      rw [Dict.get_set]
      split
      · rfl
      · exact hi

theorem run_append (s : Ledger) (ops ops' : List Operation) :
    s.run digest evidenceHash intact (ops ++ ops')
      = (s.run digest evidenceHash intact ops).run digest evidenceHash intact ops' :=
  List.foldl_append

theorem run_grows : ∀ (ops : List Operation) (s : Ledger),
    Grows s (s.run digest evidenceHash intact ops) := by
  intro ops
  induction ops with
  | nil => exact fun s => (SameBooks.refl s).grows
  | cons op rest ih => exact fun s => (apply_effect s op).grows.trans (ih _)

theorem grows_along {pre ops : List Operation} (h : pre <+: ops) :
    Grows (s.run digest evidenceHash intact pre) (s.run digest evidenceHash intact ops) := by
  obtain ⟨rest, rfl⟩ := h
  rw [run_append]
  exact run_grows rest _

/-! ### Totals -/

/-- The cash of all participants of a game. -/
def cash (s : Ledger) (game : String) : Int :=
  Dict.total (fun p amount => if s.gameOf p = some game then amount else 0) s.balances

/-- What all participants of a game hold of a good. -/
def goods (s : Ledger) (game good : String) : Int :=
  Dict.total (fun p amount => if s.gameOf p.1 = some game ∧ p.2 = good then amount else 0)
    s.holdings

/-- No balance and no holding is negative, and both sides of an intent play its game. -/
structure Solvent (s : Ledger) : Prop where
  balances : ∀ e ∈ s.balances, 0 ≤ e.2
  holdings : ∀ e ∈ s.holdings, 0 ≤ e.2
  buyers : ∀ id intent, s.intentOf id = some intent →
    s.gameOf intent.buyerParticipantId = some intent.gameId
  sellers : ∀ id intent, s.intentOf id = some intent →
    s.gameOf intent.sellerParticipantId = some intent.gameId

/-- The two sides of every intent keep their games. -/
theorem Solvent.of_grows (h : Solvent s) (hg : Grows s t) (hb : ∀ e ∈ t.balances, 0 ≤ e.2)
    (hh : ∀ e ∈ t.holdings, 0 ≤ e.2) : Solvent t where
  balances := hb
  holdings := hh
  buyers id intent hi := by
    rw [hg.games]
    exact h.buyers id intent (hg.intents ▸ hi)
  sellers id intent hi := by
    rw [hg.games]
    exact h.sellers id intent (hg.intents ▸ hi)

/-- An effect that is no commit leaves balances and holdings. -/
theorem Effect.assets {op : Operation} (h : Effect evidenceHash s op t) :
    (t.balances = s.balances ∧ t.holdings = s.holdings) ∨
      ∃ id row buyerCash sellerCash buyerHolding sellerHolding, op = .commit id ∧
        s.intents.get id = some row ∧ s.commits.get id = none ∧
        row.status = .chainConfirmedUncommitted ∧ (s.confirmations.get id).isSome ∧
        s.balances.get row.intent.buyerParticipantId = some buyerCash ∧
        s.balances.get row.intent.sellerParticipantId = some sellerCash ∧
        s.holdings.get (row.intent.buyerParticipantId, row.intent.goodId) = some buyerHolding ∧
        s.holdings.get (row.intent.sellerParticipantId, row.intent.goodId)
          = some sellerHolding ∧
        row.intent.amountAtomic ≤ buyerCash ∧ row.intent.quantity ≤ sellerHolding ∧
        SameBooks (s.committed id row
          (commitOf row.intent buyerCash sellerCash buyerHolding sellerHolding)) t := by
  cases h with
  | same hsame | status _ _ _ _ _ _ hsame | submitted _ _ _ _ _ _ _ _ _ _ hsame
  | confirmed _ _ _ _ _ _ _ _ _ hsame => exact Or.inl ⟨hsame.balances, hsame.holdings⟩
  | committed id row bc sc bh sh hrow hnone hstatus hconf hb hs hbh hsh hcash hgoods hsame =>
      exact Or.inr ⟨id, row, bc, sc, bh, sh, rfl, hrow, hnone, hstatus, hconf, hb, hs, hbh, hsh,
        hcash, hgoods, hsame⟩

/-- Two writes of amounts that are not negative leave no negative amount. -/
theorem nonneg_set_set {κ : Type} [DecidableEq κ] {d : Dict κ Int} {k k' : κ} {v v' : Int}
    (h : ∀ e ∈ d, 0 ≤ e.2) (hv : 0 ≤ v) (hv' : 0 ≤ v') :
    ∀ e ∈ (d.set k v).set k' v', 0 ≤ e.2 := by
  intro e he
  rcases Dict.mem_set he with rfl | he
  · exact hv'
  · rcases Dict.mem_set he with rfl | he
    · exact hv
    · exact h e he

theorem Solvent.effect {op : Operation} (h : Solvent s) (he : Effect evidenceHash s op t) :
    Solvent t := by
  rcases he.assets with ⟨hb, hh⟩ | ⟨id, row, bc, sc, bh, sh, -, -, -, -, -, hb, hs, hbh, hsh, hcash,
    hgoods, hsame⟩
  · exact h.of_grows he.grows (hb ▸ h.balances) (hh ▸ h.holdings)
  · have hsc := h.balances _ (Dict.mem_of_get hs)
    have hbh' := h.holdings _ (Dict.mem_of_get hbh)
    refine h.of_grows he.grows ?_ ?_
    · rw [hsame.balances]
      refine nonneg_set_set h.balances ?_ ?_
      · show 0 ≤ bc - (row.intent.amountAtomic : Int)
        omega
      · show 0 ≤ sc + (row.intent.amountAtomic : Int)
        omega
    · rw [hsame.holdings]
      refine nonneg_set_set h.holdings ?_ ?_
      · show 0 ≤ bh + (row.intent.quantity : Int)
        omega
      · show 0 ≤ sh - (row.intent.quantity : Int)
        omega

/-- A call keeps the cash of every game: what the buyer pays is what the seller gets. -/
theorem cash_effect {op : Operation} (h : Solvent s) (he : Effect evidenceHash s op t)
    (game : String) : t.cash game = s.cash game := by
  unfold cash
  rw [he.grows.games]
  rcases he.assets with ⟨hb, -⟩ | ⟨id, row, bc, sc, bh, sh, -, hrow, -, -, -, hb, hs, -, -, -, -,
    hsame⟩
  · rw [hb]
  · have hintent : s.intentOf id = some row.intent := by rw [intentOf, hrow]; rfl
    have hne := row.intent.participantsDiffer.symm
    rw [hsame.balances]
    refine (Dict.total_set_set _ _ _ hne hb hs).trans ?_
    rw [h.buyers id _ hintent, h.sellers id _ hintent]
    simp only [commitOf]
    split <;> omega

theorem goods_effect {op : Operation} (h : Solvent s) (he : Effect evidenceHash s op t)
    (game good : String) : t.goods game good = s.goods game good := by
  unfold goods
  rw [he.grows.games]
  rcases he.assets with ⟨-, hh⟩ | ⟨id, row, bc, sc, bh, sh, -, hrow, -, -, -, -, -, hbh, hsh, -, -,
    hsame⟩
  · rw [hh]
  · have hintent : s.intentOf id = some row.intent := by rw [intentOf, hrow]; rfl
    have hne : (row.intent.sellerParticipantId, row.intent.goodId)
        ≠ (row.intent.buyerParticipantId, row.intent.goodId) :=
      fun hc => row.intent.participantsDiffer (congrArg Prod.fst hc).symm
    rw [hsame.holdings]
    refine (Dict.total_set_set _ _ _ hne hbh hsh).trans ?_
    dsimp only
    rw [h.buyers id _ hintent, h.sellers id _ hintent]
    simp only [commitOf]
    split <;> omega

/-- The totals of `t` are those of `s`, and nothing is negative. -/
structure Conserved (s t : Ledger) : Prop where
  cash : ∀ game, t.cash game = s.cash game
  goods : ∀ game good, t.goods game good = s.goods game good
  balances : ∀ e ∈ t.balances, 0 ≤ e.2
  holdings : ∀ e ∈ t.holdings, 0 ≤ e.2

theorem run_conserved : ∀ (ops : List Operation) (s : Ledger), Solvent s →
    Conserved s (s.run digest evidenceHash intact ops) := by
  intro ops
  induction ops with
  | nil => exact fun s h => ⟨fun _ => rfl, fun _ _ => rfl, h.balances, h.holdings⟩
  | cons op rest ih =>
      intro s h
      have he : Effect evidenceHash s op (s.apply digest evidenceHash intact op) :=
        apply_effect s op
      have hrest := ih _ (h.effect he)
      exact ⟨fun g => (hrest.cash g).trans (cash_effect h he g),
        fun g x => (hrest.goods g x).trans (goods_effect h he g x), hrest.balances,
        hrest.holdings⟩

/-! ### Evidence -/

/-- The evidence is for the intent and for the transaction that was submitted. -/
structure Supports (intent : SettlementIntent) (submission : SubmissionRow)
    (c : ChainConfirmation) : Prop where
  success : c.success = true
  chain : c.chainId = intent.chainId
  token : c.tokenAddress = intent.tokenAddress
  payer : c.fromAccount = intent.buyerAccount
  payee : c.toAccount = intent.sellerAccount
  amount : c.amountAtomic = intent.amountAtomic
  confirmations : intent.requiredConfirmations ≤ c.confirmationCount
  transaction : c.txHash = submission.txHash

theorem supports_of_valid {intent : SettlementIntent} {submission : SubmissionRow}
    {c : ChainConfirmation} (h : validateChainConfirmation intent c = none)
    (htx : c.txHash = submission.txHash) : Supports intent submission c := by
  unfold validateChainConfirmation at h
  split_ifs at h with h1 h2 h3 h4 h5 h6 h7
  exact ⟨by simpa using h1, not_not.mp h2, not_not.mp h3, not_not.mp h4, not_not.mp h5,
    not_not.mp h6, not_lt.mp h7, htx⟩

/-- Every confirmation on the books was reported by one of the calls `ops`, with evidence
    that supports the intent. -/
def Evidenced (evidenceHash : ChainConfirmation → String) (ops : List Operation) (s : Ledger) :
    Prop :=
  ∀ id x, s.confirmations.get id = some x → ∃ intent submission c,
    Operation.confirm id c ∈ ops ∧ s.intentOf id = some intent ∧
    s.submissions.get id = some submission ∧ x = confirmationRow evidenceHash c ∧
    Supports intent submission c

theorem Evidenced.mono {ops ops' : List Operation} (h : Evidenced evidenceHash ops s)
    (hsub : ops ⊆ ops') (hg : Grows s t) (hc : t.confirmations = s.confirmations) :
    Evidenced evidenceHash ops' t := by
  intro id x hx
  obtain ⟨intent, submission, c, hmem, hintent, hsubm, hrow, hsup⟩ := h id x (hc ▸ hx)
  exact ⟨intent, submission, c, hsub hmem, hg.intents ▸ hintent, hg.submissions _ _ hsubm, hrow,
    hsup⟩

theorem Evidenced.effect {ops : List Operation} {op : Operation}
    (h : Evidenced evidenceHash ops s) (he : Effect evidenceHash s op t) :
    Evidenced evidenceHash (ops ++ [op]) t := by
  have hold : t.confirmations = s.confirmations → Evidenced evidenceHash (ops ++ [op]) t :=
    h.mono (List.subset_append_left ops [op]) he.grows
  cases he with
  | same hsame | status _ _ _ _ _ _ hsame | submitted _ _ _ _ _ _ _ _ _ _ hsame
  | committed _ _ _ _ _ _ _ _ _ _ _ _ _ _ _ _ hsame => exact hold hsame.confirmations
  | confirmed id c row submission hrow hfinal hsub htx hvalid hsame =>
      have hg : Grows s t := (Effect.confirmed id c row submission hrow hfinal hsub htx hvalid
        hsame).grows
      intro i x hx
      rw [hsame.confirmations] at hx
      have hget := (Dict.get_set s.confirmations id i (confirmationRow evidenceHash c)).symm.trans hx
      by_cases hi : i = id
      · rw [if_pos hi] at hget
        have hintent : s.intentOf id = some row.intent := by rw [intentOf, hrow]; rfl
        rw [hi]
        exact ⟨row.intent, submission, c, by simp, hg.intents ▸ hintent, hg.submissions _ _ hsub,
          (Option.some.inj hget).symm, supports_of_valid hvalid htx⟩
      · rw [if_neg hi] at hget
        obtain ⟨intent, sub, c', hmem, hintent, hsubm, hrow', hsup⟩ := h i x hget
        exact ⟨intent, sub, c', List.mem_append_left _ hmem, hg.intents ▸ hintent,
          hg.submissions _ _ hsubm, hrow', hsup⟩

theorem run_evidenced : ∀ (ops past : List Operation) (s : Ledger),
    Evidenced evidenceHash past s →
    Evidenced evidenceHash (past ++ ops) (s.run digest evidenceHash intact ops) := by
  intro ops
  induction ops with
  | nil =>
      intro past s h
      rw [List.append_nil]
      exact h
  | cons op rest ih =>
      intro past s h
      have he : Effect evidenceHash s op (s.apply digest evidenceHash intact op) :=
        apply_effect s op
      have hrest := ih (past ++ [op]) _ (h.effect he)
      rw [List.append_assoc] at hrest
      exact hrest

/-! ### The whole history of a settlement -/

/-- Tables whose intents were frozen and not touched since. -/
structure Fresh (s : Ledger) : Prop where
  awaiting : ∀ id status, s.statusOf id = some status → status = .authorizationRequested
  submissions : s.submissions = []
  confirmations : s.confirmations = []
  commits : s.commits = []
  solvent : Solvent s

section History

variable (digest : String → String) (evidenceHash : ChainConfirmation → String)
  (intact : SettlementIntent → Bool)

/-- The call moves cash or goods. -/
def Moves (s : Ledger) (op : Operation) : Prop :=
  (s.apply digest evidenceHash intact op).balances ≠ s.balances ∨
    (s.apply digest evidenceHash intact op).holdings ≠ s.holdings

end History

/-- What a call that moves assets found, and what it leaves. -/
theorem Moves.commit {op : Operation} (h : Moves digest evidenceHash intact s op) :
    ∃ id x, op = .commit id ∧ s.statusOf id = some .chainConfirmedUncommitted ∧
      s.commits.get id = none ∧ s.confirmations.get id = some x ∧
      (s.apply digest evidenceHash intact op).statusOf id = some .inventoryCommitted ∧
      ((s.apply digest evidenceHash intact op).commits.get id).isSome := by
  have he : Effect evidenceHash s op (s.apply digest evidenceHash intact op) := apply_effect s op
  rcases he.assets with ⟨hb, hh⟩ | ⟨id, row, bc, sc, bh, sh, hop, hrow, hnone, hstatus, hconf, -, -,
    -, -, -, -, hsame⟩
  · rcases h with h | h
    · exact absurd hb h
    · exact absurd hh h
  · obtain ⟨x, hx⟩ := Option.isSome_iff_exists.mp hconf
    refine ⟨id, x, hop, ?_, hnone, hx, ?_, ?_⟩
    · rw [statusOf, hrow, Option.map_some, hstatus]
    · rw [statusOf, hsame.intents, committed, setStatus]
      dsimp only
      rw [Dict.get_set_self]
      rfl
    · rw [hsame.commits, committed, setStatus]
      dsimp only
      rw [Dict.get_set_self]
      rfl

theorem run_snoc (s : Ledger) (pre : List Operation) (op : Operation) :
    s.run digest evidenceHash intact (pre ++ [op])
      = (s.run digest evidenceHash intact pre).apply digest evidenceHash intact op :=
  run_append s pre [op]

/-- A committed intent stays committed, and one that failed was never ready to commit. -/
theorem never_failed {pre q ops : List Operation} {op : Operation}
    (hpre : pre ++ [op] <+: ops) (hq : q <+: ops)
    (hready : (s.run digest evidenceHash intact pre).statusOf id
      = some .chainConfirmedUncommitted)
    (hdone : (s.run digest evidenceHash intact (pre ++ [op])).statusOf id
      = some .inventoryCommitted)
    {status : SettlementStatus} (hfinal : Final status) (hne : status ≠ .inventoryCommitted) :
    (s.run digest evidenceHash intact q).statusOf id ≠ some status := by
  intro hs
  rcases Nat.lt_or_ge pre.length q.length with hlt | hge
  · -- the commit is part of `q`
    have hprefix : pre ++ [op] <+: q :=
      List.prefix_of_prefix_length_le hpre hq (by simpa using hlt)
    have hstay := (grows_along hprefix).final id _ hdone (Or.inr (Or.inr rfl))
    rw [hstay] at hs
    exact hne (Option.some.inj hs).symm
  · have hprefix : q <+: pre :=
      List.prefix_of_prefix_length_le hq ((List.prefix_append pre [op]).trans hpre) hge
    have hstay := (grows_along hprefix).final id _ hs hfinal
    rw [hstay] at hready
    obtain rfl := Option.some.inj hready
    rcases hfinal with hf | hf | hf <;> cases hf

/-- A second call that moves the assets of an intent would find the commit of the first. -/
theorem moves_at_most_once {pre pre' ops : List Operation}
    (hpre : pre ++ [.commit id] <+: ops) (hpre' : pre' ++ [.commit id] <+: ops)
    (hm : Moves digest evidenceHash intact (s.run digest evidenceHash intact pre) (.commit id))
    (hm' : Moves digest evidenceHash intact (s.run digest evidenceHash intact pre') (.commit id)) :
    pre'.length ≤ pre.length := by
  by_contra hlt
  obtain ⟨i, -, hi, -, -, -, -, hdone⟩ := hm.commit
  obtain ⟨i', -, hi', -, hnone, -⟩ := hm'.commit
  obtain rfl : id = i := Operation.commit.inj hi
  obtain rfl : id = i' := Operation.commit.inj hi'
  have hprefix : pre ++ [.commit id] <+: pre' :=
    List.prefix_of_prefix_length_le hpre ((List.prefix_append pre' _).trans hpre')
      (by simp; omega)
  rw [← run_snoc] at hdone
  have hstay := (grows_along hprefix).commits id hdone
  rw [hnone] at hstay
  cases hstay

/-- **In every run the totals stay, nothing becomes negative, and an intent moves cash and
    goods at most once, on recorded evidence, and only if it never failed.** -/
theorem inventory_moves_once_on_evidence (h : s.Fresh) (ops : List Operation) :
    Conserved s (s.run digest evidenceHash intact ops) ∧
    ∀ pre op, pre ++ [op] <+: ops →
      Moves digest evidenceHash intact (s.run digest evidenceHash intact pre) op →
      ∃ id, op = .commit id ∧
        (∃ intent submission c, Operation.confirm id c ∈ pre ∧ s.intentOf id = some intent ∧
          (s.run digest evidenceHash intact pre).submissions.get id = some submission ∧
          (s.run digest evidenceHash intact pre).confirmations.get id
            = some (confirmationRow evidenceHash c) ∧
          Supports intent submission c) ∧
        (∀ q, q <+: ops →
          (s.run digest evidenceHash intact q).statusOf id ≠ some .reverted ∧
          (s.run digest evidenceHash intact q).statusOf id ≠ some .authorizationFailed) ∧
        ∀ pre', pre' ++ [.commit id] <+: ops →
          Moves digest evidenceHash intact (s.run digest evidenceHash intact pre') (.commit id) →
          pre' = pre := by
  refine ⟨run_conserved ops s h.solvent, ?_⟩
  intro pre op hpre hmoves
  obtain ⟨id, x, rfl, hready, -, hx, hdone, -⟩ := hmoves.commit
  rw [← run_snoc] at hdone
  have hstart : Evidenced evidenceHash [] s := by
    intro i y hy
    rw [h.confirmations] at hy
    cases hy
  have hevidence : Evidenced evidenceHash ([] ++ pre) (s.run digest evidenceHash intact pre) :=
    run_evidenced pre [] s hstart
  obtain ⟨intent, submission, c, hmem, hintent, hsub, hrow, hsup⟩ := hevidence id x hx
  refine ⟨id, rfl, ⟨intent, submission, c, hmem, ?_, hsub, hrow ▸ hx, hsup⟩, ?_, ?_⟩
  · rw [← (run_grows pre s).intents]
    exact hintent
  · intro q hq
    exact ⟨never_failed hpre hq hready hdone (Or.inl rfl) (by simp),
      never_failed hpre hq hready hdone (Or.inr (Or.inl rfl)) (by simp)⟩
  · intro pre' hpre' hmoves'
    have hle := moves_at_most_once hpre hpre' hmoves hmoves'
    have hge := moves_at_most_once hpre' hpre hmoves' hmoves
    exact List.IsPrefix.eq_of_length_le
      (List.prefix_of_prefix_length_le ((List.prefix_append pre' _).trans hpre')
        ((List.prefix_append pre _).trans hpre) hle) hge

/-! ### One paid trade -/

namespace Trade

theorem five_pos : 0 < 5 := by decide

/-- Alice buys one herb of Bob for 5. -/
def intent : SettlementIntent where
  gameId := "game_1"
  roundId := "round_1"
  pairingId := "pair_1"
  negotiationId := "neg_1"
  buyerParticipantId := "alice"
  sellerParticipantId := "bob"
  buyerAccount := "0xaaaaaaaaaaaaaaaaaaaaaaaaaaaaaaaaaaaaaaaa"
  sellerAccount := "0xbbbbbbbbbbbbbbbbbbbbbbbbbbbbbbbbbbbbbbbb"
  goodId := "herb"
  quantity := 1
  unitPriceAtomic := 5
  amountAtomic := 5
  chainId := 43113
  tokenAddress := "0xcccccccccccccccccccccccccccccccccccccccc"
  requiredConfirmations := 1
  intentHash := "sha256:00ab8f74082ec1824382c8c4504adfb0f37c7f8a8b78d3e98d9643caa06b0d9f"
  quantityPositive := Nat.one_pos
  pricePositive := five_pos
  amountIsProduct := by decide
  participantsDiffer := by decide
  accountsDiffer := by decide
  confirmationsInRange := by decide

def confirmation : ChainConfirmation where
  txHash := "0x1111111111111111111111111111111111111111111111111111111111111111"
  chainId := 43113
  facilitatorAddress := "0xffffffffffffffffffffffffffffffffffffffff"
  tokenAddress := "0xcccccccccccccccccccccccccccccccccccccccc"
  fromAccount := "0xaaaaaaaaaaaaaaaaaaaaaaaaaaaaaaaaaaaaaaaa"
  toAccount := "0xbbbbbbbbbbbbbbbbbbbbbbbbbbbbbbbbbbbbbbbb"
  amountAtomic := 5
  blockNumber := 7
  blockHash := "0x2222222222222222222222222222222222222222222222222222222222222222"
  confirmationCount := 1
  success := true
  txHashValid := by decide
  facilitatorValid := by unfold IsAddress; decide
  tokenValid := by unfold IsAddress; decide
  fromValid := by unfold IsAddress; decide
  toValid := by unfold IsAddress; decide
  blockHashValid := by decide
  chainPositive := by decide
  amountPositive := five_pos

def start : Ledger where
  intents := [("settle_1", ⟨intent, .authorizationRequested, none⟩)]
  balances := [("alice", 20), ("bob", 0)]
  holdings := [(("alice", "herb"), 0), (("bob", "herb"), 2)]
  participants :=
    [("alice", { gameId := "game_1", status := .settling, agentId := "agent_a" }),
      ("bob", { gameId := "game_1", status := .settling, agentId := "agent_b" })]
  pairings := [("pair_1",
    { roundId := "round_1"
      goodId := "herb"
      buyerEntryId := "pool_1"
      sellerEntryId := "pool_2"
      buyerParticipantId := "alice"
      sellerParticipantId := "bob"
      pairingSequence := 1
      quantity := 1
      buyerLimitPriceAtomic := none
      sellerLimitPriceAtomic := none
      status := .settling })]
  negotiations := [("neg_1",
    { pairingId := "pair_1"
      roundId := "round_1"
      buyerParticipantId := "alice"
      sellerParticipantId := "bob"
      maxTurns := 3
      turnCount := 2
      nextRole := none
      acceptedPriceAtomic := some 5
      actionDeadlineAt := 0
      status := .acceptedPendingSettlement })]

/-- The payment is approved, submitted and confirmed; the commit is called twice. -/
def calls : List Operation :=
  let nonce := "0x00ab8f74082ec1824382c8c4504adfb0f37c7f8a8b78d3e98d9643caa06b0d9f"
  [.approve "settle_1" intent.intentHash nonce "payment_mandate",
    .submit "settle_1" confirmation.txHash nonce intent.intentHash "wallet",
    .timeout "settle_1", .confirm "settle_1" confirmation, .commit "settle_1",
    .commit "settle_1", .revert "settle_1" confirmation.txHash]

/-- The SHA-256 values of the one nonce and of the one confirmation of this trade. -/
def after (ops : List Operation) : Ledger :=
  start.run
    (fun _ => "sha256:f1c16b0f0969df881122bfc73903f4c82d33f832200f456c0420dd8353b2bc5d")
    (fun _ => "sha256:518147158bb74c4a9153451ae2b5d299da0af1a3945dcced542280e6647e10e6")
    (fun _ => true) ops

theorem start_fresh : start.Fresh := by
  have hintent : ∀ id x, start.intentOf id = some x → x = intent := by
    intro id x hx
    rw [intentOf, start, Dict.get_cons] at hx
    by_cases hid : "settle_1" = id
    · rw [if_pos hid] at hx
      exact (Option.some.inj hx).symm
    · rw [if_neg hid] at hx
      cases hx
  refine ⟨?_, rfl, rfl, rfl, ⟨by decide, by decide, ?_, ?_⟩⟩
  · intro id status hs
    rw [statusOf, start, Dict.get_cons] at hs
    by_cases hid : "settle_1" = id
    · rw [if_pos hid] at hs
      exact (Option.some.inj hs).symm
    · rw [if_neg hid] at hs
      cases hs
  · intro id x hx
    rw [hintent id x hx]
    decide
  · intro id x hx
    rw [hintent id x hx]
    decide

/-- The trade moves 5 and one herb, once. -/
theorem trade_moves_once :
    ((after calls).balances, (after calls).holdings) =
        ([("alice", 15), ("bob", 5)], [(("alice", "herb"), 1), (("bob", "herb"), 1)]) ∧
      Conserved start (after calls) :=
  ⟨by decide, (inventory_moves_once_on_evidence start_fresh calls).1⟩

end Trade

end Arena402.Game.Ledger
