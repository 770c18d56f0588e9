/-
A second observation of a confirmed payment is refused.

The evidence hash covers the whole confirmation, the depth below the head included.  A
confirmation is never taken back, so once one is recorded a later observation of the same
transaction in the same block, at another depth, meets a different hash and raises, whatever
happened in between.
-/
import Mathlib
import Arena402.Game.SettlementSnapshot
import Arena402.Proofs.Game.SettlementLedger
import Arena402.Proofs.Lib.Json

namespace Arena402.Game

open Py

/-! ### The depth is part of the evidence -/

namespace ChainConfirmation

theorem keys_nodup (c : ChainConfirmation) : (c.snapshotFields.map Prod.fst).Nodup := by
  simp only [snapshotFields, List.map_cons, List.map_nil]
  decide

theorem lookup_confirmationCount (c : ChainConfirmation) :
    c.snapshotFields.lookup "confirmationCount" = some (.int c.confirmationCount) := by
  simp [snapshotFields, List.lookup_cons]

variable {c c' : ChainConfirmation}

/-- Observations at different depths are hashed from different texts. -/
theorem bytes_ne_of_count (h : c'.confirmationCount ≠ c.confirmationCount) :
    canonicalJsonBytes c.toSnapshot ≠ canonicalJsonBytes c'.toSnapshot := by
  intro heq
  have hlookup := Json.lookup_of_canonical (keys_nodup c) (keys_nodup c')
    (Json.encode_eq_iff.mp heq) "confirmationCount"
  rw [lookup_confirmationCount, lookup_confirmationCount] at hlookup
  simp only [Option.map_some, Json.canonical_int, Option.some.injEq, Json.int.injEq] at hlookup
  exact h (by exact_mod_cast hlookup.symm)

theorem evidenceHash_ne_of_count {hexdigest : ByteArray → String}
    (hfree : NoCollision hexdigest (canonicalJsonBytes c.toSnapshot)
      (canonicalJsonBytes c'.toSnapshot))
    (h : c'.confirmationCount ≠ c.confirmationCount) :
    c.evidenceHash hexdigest ≠ c'.evidenceHash hexdigest := by
  intro heq
  exact bytes_ne_of_count h (bytes_of_sha256Identifier hfree heq)

/-- Two observations of one transaction in one block. -/
def SameInclusion (c c' : ChainConfirmation) : Prop :=
  c'.txHash = c.txHash ∧ c'.blockNumber = c.blockNumber ∧ c'.blockHash = c.blockHash

end ChainConfirmation

/-! ### A recorded confirmation stays -/

namespace Ledger

variable {digest : String → String} {evidenceHash : ChainConfirmation → String}
  {intact : SettlementIntent → Bool} {s t : Ledger} {id : String} {c c' : ChainConfirmation}

theorem recordChainConfirmation_keeps {other : String} {x : ConfirmationRow}
    (h : s.recordChainConfirmation evidenceHash intact id c = .ok t)
    (hx : s.confirmations.get other = some x) : t.confirmations.get other = some x := by
  unfold recordChainConfirmation at h
  split at h
  · obtain ⟨-, h⟩ := ok_of_guard h
    obtain ⟨-, h⟩ := ok_of_guard h
    split at h
    · cases h
    split at h
    · obtain ⟨-, h⟩ := ok_of_guard h
      obtain rfl := Except.ok.inj h
      exact hx
    · rename_i hnone
      obtain ⟨-, h⟩ := ok_of_guard h
      obtain ⟨-, h⟩ := ok_of_guard h
      obtain rfl := Except.ok.inj h
      have hne : other ≠ id := by
        rintro rfl
        rw [hnone] at hx
        cases hx
      rw [insertConfirmation, (intentEvent_sameBooks _ _ _ _ _).confirmations]
      exact (Dict.get_set_ne _ _ hne).trans hx
  · cases h

/-- No call takes a confirmation back. -/
theorem apply_confirmations (op : Operation) {other : String} {x : ConfirmationRow}
    (hx : s.confirmations.get other = some x) :
    (s.apply digest evidenceHash intact op).confirmations.get other = some x := by
  have heffect : Effect evidenceHash s op (s.apply digest evidenceHash intact op) := apply_effect s op
  cases heffect with
  | same hsame | status _ _ _ _ _ _ hsame => rwa [hsame.confirmations]
  | submitted id txHash nonce hash source row submission hrow hfinal hnone hsame =>
      rwa [hsame.confirmations]
  | confirmed id c row submission hrow hfinal hsub htx hvalid hsame =>
      unfold apply
      split
      · rename_i t ht
        exact recordChainConfirmation_keeps ht hx
      · exact hx
  | committed id row buyerCash sellerCash buyerHolding sellerHolding hrow hnone hstatus hconf
      hb hs hbh hsh hcash hgoods hsame => rwa [hsame.confirmations]

theorem run_confirmations {other : String} {x : ConfirmationRow} :
    ∀ (ops : List Operation) {s : Ledger}, s.confirmations.get other = some x →
      (s.run digest evidenceHash intact ops).confirmations.get other = some x := by
  intro ops
  induction ops with
  | nil => exact fun h => h
  | cons op rest ih => exact fun h => ih (apply_confirmations op h)

/-- What holds of the tables once a confirmation of an intent was accepted. -/
structure Recorded (evidenceHash : ChainConfirmation → String) (intact : SettlementIntent → Bool)
    (s : Ledger) (id : String) (intent : SettlementIntent) (c : ChainConfirmation) : Prop where
  intent_eq : s.intentOf id = some intent
  intact_eq : intact intent = true
  submission : ∃ x, s.submissions.get id = some x ∧ x.txHash = c.txHash
  confirmation : ∃ x, s.confirmations.get id = some x ∧ x.evidenceHash = evidenceHash c

theorem recorded_of_ok (h : s.recordChainConfirmation evidenceHash intact id c = .ok t) :
    ∃ intent, s.intentOf id = some intent ∧ Recorded evidenceHash intact t id intent c := by
  have hgrows := (recordChainConfirmation_effect h).grows
  have hkeeps : ∀ x, s.confirmations.get id = some x → t.confirmations.get id = some x :=
    fun x hx => recordChainConfirmation_keeps h hx
  unfold recordChainConfirmation at h
  split at h
  · rename_i row submission hrow hsub
    obtain ⟨hintact, h⟩ := ok_of_guard h
    obtain ⟨htx, h⟩ := ok_of_guard h
    have hintent : s.intentOf id = some row.intent := by
      rw [intentOf, hrow]
      rfl
    split at h
    · cases h
    refine ⟨row.intent, hintent, ?_, by simpa using hintact,
      ⟨submission, hgrows.submissions id submission hsub, (not_not.mp htx).symm⟩, ?_⟩
    · rw [hgrows.intents]
      exact hintent
    split at h
    · rename_i existing hexisting
      obtain ⟨hsame, h⟩ := ok_of_guard h
      exact ⟨existing, hkeeps existing hexisting, not_not.mp hsame⟩
    · obtain ⟨-, h⟩ := ok_of_guard h
      obtain ⟨-, h⟩ := ok_of_guard h
      obtain rfl := Except.ok.inj h
      refine ⟨confirmationRow evidenceHash c, ?_, rfl⟩
      rw [insertConfirmation, (intentEvent_sameBooks _ _ _ _ _).confirmations]
      exact Dict.get_set_self _ _ _
  · cases h

theorem Recorded.run {intent : SettlementIntent} (h : Recorded evidenceHash intact s id intent c)
    (ops : List Operation) :
    Recorded evidenceHash intact (s.run digest evidenceHash intact ops) id intent c := by
  have hgrows : Grows s (s.run digest evidenceHash intact ops) := run_grows ops s
  obtain ⟨submission, hsub, htx⟩ := h.submission
  obtain ⟨existing, hexisting, hhash⟩ := h.confirmation
  refine ⟨?_, h.intact_eq, ⟨submission, hgrows.submissions id submission hsub, htx⟩,
    ⟨existing, run_confirmations ops hexisting, hhash⟩⟩
  rw [hgrows.intents]
  exact h.intent_eq

/-- Evidence with another hash is refused. -/
theorem Recorded.conflict {intent : SettlementIntent}
    (h : Recorded evidenceHash intact s id intent c) (htx : c'.txHash = c.txHash)
    (hvalid : validateChainConfirmation intent c' = none)
    (hne : evidenceHash c ≠ evidenceHash c') :
    s.recordChainConfirmation evidenceHash intact id c' = .error "chain_confirmation_conflict" := by
  obtain ⟨submission, hsub, hsubTx⟩ := h.submission
  obtain ⟨existing, hexisting, hhash⟩ := h.confirmation
  have hintent := h.intent_eq
  unfold intentOf at hintent
  cases hrow : s.intents.get id with
  | none =>
      rw [hrow] at hintent
      cases hintent
  | some row =>
      rw [hrow] at hintent
      obtain rfl := Option.some.inj hintent
      unfold recordChainConfirmation
      rw [hrow, hsub]
      dsimp only
      rw [h.intact_eq, if_neg (by decide), if_neg (by rw [htx, hsubTx]; simp), hvalid, hexisting]
      dsimp only
      rw [if_pos (by rw [hhash]; exact hne)]

/-- **A payment that was confirmed once cannot be confirmed again at another depth.**  After
    the first observation was recorded, and after any calls in between, a second valid
    observation of the same transaction in the same block raises unless the digest
    collides. -/
theorem second_observation_conflicts (hexdigest : ByteArray → String) {intent : SettlementIntent}
    (hintent : s.intentOf id = some intent)
    (hfirst : s.recordChainConfirmation (ChainConfirmation.evidenceHash hexdigest) intact id c
      = .ok t)
    (hsame : c.SameInclusion c') (hvalid : validateChainConfirmation intent c' = none)
    (hhead : c'.confirmationCount ≠ c.confirmationCount)
    (hfree : NoCollision hexdigest (canonicalJsonBytes c.toSnapshot)
      (canonicalJsonBytes c'.toSnapshot)) (ops : List Operation) :
    (t.run digest (ChainConfirmation.evidenceHash hexdigest) intact ops).recordChainConfirmation
      (ChainConfirmation.evidenceHash hexdigest) intact id c'
        = .error "chain_confirmation_conflict" := by
  obtain ⟨found, hfound, hrecorded⟩ := recorded_of_ok hfirst
  rw [hintent] at hfound
  obtain rfl := Option.some.inj hfound
  exact (hrecorded.run ops).conflict hsame.1 hvalid
    (ChainConfirmation.evidenceHash_ne_of_count hfree hhead)

/-! ### A second worker reads the chain two blocks later -/

namespace Trade

def laterConfirmation : ChainConfirmation :=
  { confirmation with confirmationCount := 3 }

/-- The SHA-256 values of the two observations. -/
def observedDigest (bytes : ByteArray) : String :=
  if bytes = canonicalJsonBytes confirmation.toSnapshot then
    "518147158bb74c4a9153451ae2b5d299da0af1a3945dcced542280e6647e10e6"
  else "a2e5b5a1af5cc62992d2fee5c437249f11eeaca9c0b6b66079aac7e6ed5db16b"

/-- The payment is approved and submitted. -/
def submitted : Ledger :=
  after (calls.take 2)

theorem observedDigest_free :
    NoCollision observedDigest (canonicalJsonBytes confirmation.toSnapshot)
      (canonicalJsonBytes laterConfirmation.toSnapshot) := by
  have hne : canonicalJsonBytes confirmation.toSnapshot
      ≠ canonicalJsonBytes laterConfirmation.toSnapshot :=
    ChainConfirmation.bytes_ne_of_count (by decide)
  intro hcollision
  unfold observedDigest at hcollision
  rw [if_pos rfl, if_neg hne.symm] at hcollision
  exact absurd hcollision (by decide)

/-- The tables after the first observation was recorded. -/
def observed : Ledger :=
  match submitted.recordChainConfirmation (ChainConfirmation.evidenceHash observedDigest)
    (fun _ => true) "settle_1" confirmation with
  | .ok t => t
  | .error _ => submitted

theorem observed_eq :
    submitted.recordChainConfirmation (ChainConfirmation.evidenceHash observedDigest)
      (fun _ => true) "settle_1" confirmation = .ok observed := by
  rfl

theorem submitted_intent : submitted.intentOf "settle_1" = some intent := rfl

theorem later_valid : validateChainConfirmation intent laterConfirmation = none := by
  decide

theorem later_sameInclusion : confirmation.SameInclusion laterConfirmation :=
  ⟨rfl, rfl, rfl⟩

theorem later_count : laterConfirmation.confirmationCount ≠ confirmation.confirmationCount := by
  decide

/-- Before the commit the valid second observation does not succeed. -/
theorem later_observation_refused :
    ¬ ∀ c' : ChainConfirmation, confirmation.SameInclusion c' →
      validateChainConfirmation intent c' = none →
      c'.confirmationCount ≠ confirmation.confirmationCount →
      observed.recordChainConfirmation (ChainConfirmation.evidenceHash observedDigest)
        (fun _ => true) "settle_1" c' = .ok observed := by
  intro h
  have hok := h laterConfirmation later_sameInclusion later_valid later_count
  obtain ⟨found, hfound, hrecorded⟩ := recorded_of_ok observed_eq
  rw [submitted_intent] at hfound
  obtain rfl := Option.some.inj hfound
  have hne := ChainConfirmation.evidenceHash_ne_of_count observedDigest_free later_count
  rw [hrecorded.conflict later_sameInclusion.1 later_valid hne] at hok
  cases hok

theorem committed_trade_refuses_replay :
    (observed.run (fun nonce => nonce) (ChainConfirmation.evidenceHash observedDigest)
      (fun _ => true) [.commit "settle_1"]).recordChainConfirmation
        (ChainConfirmation.evidenceHash observedDigest) (fun _ => true) "settle_1"
        laterConfirmation = .error "chain_confirmation_conflict" :=
  second_observation_conflicts observedDigest submitted_intent observed_eq later_sameInclusion
    later_valid later_count observedDigest_free [.commit "settle_1"]

end Trade

end Ledger

end Arena402.Game
