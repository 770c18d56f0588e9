/-
A scan ends at the first target that raises.

`run_once` has no handler, so a target that raises takes the rest of its scan with it.  What
the targets before it wrote stays written; the targets after it are not looked at.  So a
raising target leaves the others alone exactly when nothing after it had anything to write,
up to the next target that raises.
-/
import Arena402.Game.SettlementWorker
import Arena402.Proofs.Game.SettlementReplay

namespace Arena402.Game

open Py

namespace Journal

variable {digest : String → String} {evidenceHash : ChainConfirmation → String}
  {intact : SettlementIntent → Bool}
  {read : SettlementIntent → String → Except ReadError (Option ChainConfirmation)}
  {j j' : Journal}

/-! ### One target -/

/-- The recovery of one target on the ledger. -/
abbrev recoverOne (digest : String → String) (evidenceHash : ChainConfirmation → String)
    (intact : SettlementIntent → Bool)
    (read : SettlementIntent → String → Except ReadError (Option ChainConfirmation))
    (target : RecoveryTarget) : Method Journal Unit :=
  recover (repository digest evidenceHash intact) (fun intent => intent.requiredConfirmations) read
    target

/-- The loop of a scan on the ledger. -/
abbrev scan (digest : String → String) (evidenceHash : ChainConfirmation → String)
    (intact : SettlementIntent → Bool)
    (read : SettlementIntent → String → Except ReadError (Option ChainConfirmation))
    (targets : List RecoveryTarget) : Method Journal Unit :=
  recoverAll (repository digest evidenceHash intact) (fun intent => intent.requiredConfirmations)
    read targets

/-- What a target needs: it waits for the chain, its recovery raises before it writes, or it
    writes. -/
inductive Need
  | waits
  | raises
  | writes
deriving DecidableEq, Repr

/-- A transaction writes when it returns. -/
def needOf (x : Except String Ledger) : Need :=
  match x with
  | .ok _ => .writes
  | .error _ => .raises

/-- What the answer of the reader asks for. -/
def needOfAnswer (digest : String → String) (evidenceHash : ChainConfirmation → String)
    (intact : SettlementIntent → Bool) (s : Ledger) (id : String) (intent : SettlementIntent)
    (txHash : String) : Except ReadError (Option ChainConfirmation) → Need
  | .error _ => .raises
  | .ok none => .waits
  | .ok (some c) =>
    if c.success = false then needOf (s.call digest evidenceHash intact (.revert id txHash))
    else if (c.confirmationCount : Int) < intent.requiredConfirmations then .waits
    else needOf (s.call digest evidenceHash intact (.confirm id c))

/-- What a target needs, from its status, its row and the answer of the reader. -/
def need (digest : String → String) (evidenceHash : ChainConfirmation → String)
    (intact : SettlementIntent → Bool)
    (read : SettlementIntent → String → Except ReadError (Option ChainConfirmation)) (s : Ledger)
    (target : RecoveryTarget) : Need :=
  let id := target.settlementIntentId
  if target.status = .chainConfirmedUncommitted then
    needOf (s.call digest evidenceHash intact (.commit id))
  else
    match confirmationTarget intact s id with
    | .error _ => .raises
    | .ok (intent, txHash) =>
      needOfAnswer digest evidenceHash intact s id intent txHash (read intent txHash)

/-- The journal grew by transactions for the targets of a list. -/
def Grows (ids : List String) (j j' : Journal) : Prop :=
  ∃ entries, j'.committed = j.committed ++ entries ∧ ∀ e ∈ entries, e.1 ∈ ids

theorem Grows.refl (ids : List String) (j : Journal) : Grows ids j j :=
  ⟨[], by simp, by simp⟩

theorem Grows.trans {ids : List String} {j'' : Journal} (h : Grows ids j j') (h' : Grows ids j' j'') :
    Grows ids j j'' := by
  obtain ⟨entries, heq, hids⟩ := h
  obtain ⟨entries', heq', hids'⟩ := h'
  refine ⟨entries ++ entries', by rw [heq', heq, List.append_assoc], ?_⟩
  intro e he
  rcases List.mem_append.mp he with he | he
  · exact hids e he
  · exact hids' e he

theorem Grows.mono {ids ids' : List String} (h : Grows ids j j') (hsub : ∀ id ∈ ids, id ∈ ids') :
    Grows ids' j j' := by
  obtain ⟨entries, heq, hids⟩ := h
  exact ⟨entries, heq, fun e he => hsub _ (hids e he)⟩

/-- A transaction is written down, or it leaves nothing. -/
theorem commit_run (id : String) (op : Ledger.Operation) (j : Journal) :
    (commit digest evidenceHash intact id op).run j =
      match j.ledger.call digest evidenceHash intact op with
      | .ok ledger => .ok () ⟨ledger, j.committed ++ [(id, op)]⟩
      | .error e => .error e j := by
  unfold commit
  rw [Method.run_get_bind, Method.run_check_bind]
  cases j.ledger.call digest evidenceHash intact op with
  | ok ledger => rfl
  | error e => rfl

/-- A method writes for the targets of a list only. -/
def WritesFor {α : Type} (ids : List String) (m : Method Journal α) : Prop :=
  ∀ j, Grows ids j (m.after j)

section WritesFor

variable {α β : Type} {ids : List String}

theorem writesFor_check (x : Except String α) : WritesFor ids (Method.check x) := by
  intro j
  cases x with
  | ok _ | error _ => exact Grows.refl _ _

theorem WritesFor.bind {m : Method Journal α} {f : α → Method Journal β} (h : WritesFor ids m)
    (hf : ∀ a, WritesFor ids (f a)) : WritesFor ids (m >>= f) := by
  intro j
  have hfirst := h j
  unfold Method.after at hfirst ⊢
  rw [Method.run_bind]
  cases hm : m.run j with
  | error e t =>
      rw [hm] at hfirst
      exact hfirst
  | ok a t =>
      rw [hm] at hfirst
      exact hfirst.trans (hf a t)

theorem writesFor_commit (id : String) (op : Ledger.Operation) :
    WritesFor [id] (commit digest evidenceHash intact id op) := by
  intro j
  unfold Method.after
  rw [commit_run]
  cases j.ledger.call digest evidenceHash intact op with
  | error e => exact Grows.refl _ _
  | ok ledger => exact ⟨[(id, op)], rfl, by simp⟩

end WritesFor

/-- A method does what a need says. -/
def Meets (n : Need) (m : Method Journal Unit) (j : Journal) : Prop :=
  match n with
  | .waits => m.run j = .ok () j
  | .raises => ∃ e, m.run j = .error e j
  | .writes => ∃ entry entries, (m.after j).committed = j.committed ++ entry :: entries

theorem Meets.congr {n : Need} {m m' : Method Journal Unit} (h : Meets n m j)
    (hrun : m'.run j = m.run j) : Meets n m' j := by
  cases n with
  | waits => exact hrun.trans h
  | raises =>
      obtain ⟨e, he⟩ := h
      exact ⟨e, hrun.trans he⟩
  | writes =>
      unfold Meets Method.after at h ⊢
      rw [hrun]
      exact h

theorem meets_commit (id : String) (op : Ledger.Operation) (j : Journal) :
    Meets (needOf (j.ledger.call digest evidenceHash intact op))
      (commit digest evidenceHash intact id op) j := by
  have hrun : (commit digest evidenceHash intact id op).run j = _ := commit_run id op j
  cases hcall : j.ledger.call digest evidenceHash intact op with
  | error e =>
      rw [hcall] at hrun
      exact ⟨e, hrun⟩
  | ok ledger =>
      rw [hcall] at hrun
      refine ⟨(id, op), [], ?_⟩
      unfold Method.after
      rw [hrun]

/-- Two transactions in a row write when the first does. -/
theorem meets_commit_bind (id : String) (op op' : Ledger.Operation) (j : Journal) :
    Meets (needOf (j.ledger.call digest evidenceHash intact op))
      (do
        commit digest evidenceHash intact id op
        commit digest evidenceHash intact id op') j := by
  have hrun : (commit digest evidenceHash intact id op).run j = _ := commit_run id op j
  cases hcall : j.ledger.call digest evidenceHash intact op with
  | error e =>
      rw [hcall] at hrun
      refine ⟨e, ?_⟩
      rw [Method.run_bind, hrun]
  | ok ledger =>
      rw [hcall] at hrun
      have hnext : (commit digest evidenceHash intact id op').run
          ⟨ledger, j.committed ++ [(id, op)]⟩ = _ := commit_run id op' _
      unfold Meets needOf Method.after
      rw [Method.run_bind, hrun]
      dsimp only
      rw [hnext]
      cases ledger.call digest evidenceHash intact op' with
      | error e => exact ⟨(id, op), [], rfl⟩
      | ok ledger' => exact ⟨(id, op), [(id, op')], by simp⟩

theorem meets_recoverFrom (id : String) (intent : SettlementIntent) (txHash : String)
    (answer : Except ReadError (Option ChainConfirmation)) (j : Journal) :
    Meets (needOfAnswer digest evidenceHash intact j.ledger id intent txHash answer)
      (recoverFrom (repository digest evidenceHash intact)
        (fun intent => intent.requiredConfirmations) id intent txHash answer) j := by
  cases answer with
  | error e => exact ⟨e.message, rfl⟩
  | ok confirmation =>
      cases confirmation with
      | none => rfl
      | some c =>
          show Meets (if c.success = false then _ else _)
            (if c.success = false then _ else _ : Method Journal Unit) j
          by_cases hsuccess : c.success = false
          · rw [if_pos hsuccess, if_pos hsuccess]
            exact meets_commit id _ j
          · rw [if_neg hsuccess, if_neg hsuccess]
            by_cases hcount : (c.confirmationCount : Int) < intent.requiredConfirmations
            · rw [if_pos hcount, if_pos hcount]
              rfl
            · rw [if_neg hcount, if_neg hcount]
              exact meets_commit_bind id _ _ j

theorem meets_recoverOne (target : RecoveryTarget) (j : Journal) :
    Meets (need digest evidenceHash intact read j.ledger target)
      (recoverOne digest evidenceHash intact read target) j := by
  unfold need recoverOne recover
  by_cases hstatus : target.status = .chainConfirmedUncommitted
  · rw [if_pos hstatus, if_pos hstatus]
    exact meets_commit _ _ j
  · rw [if_neg hstatus, if_neg hstatus]
    have htarget : ((repository digest evidenceHash intact).settlementConfirmationTarget
        target.settlementIntentId).run j
        = (Method.check (confirmationTarget intact j.ledger target.settlementIntentId)).run j := rfl
    cases hfound : confirmationTarget intact j.ledger target.settlementIntentId with
    | error e =>
        refine ⟨e, ?_⟩
        rw [Method.run_bind, htarget, Method.run_check, hfound]
    | ok found =>
        refine (meets_recoverFrom target.settlementIntentId found.1 found.2 _ j).congr ?_
        rw [Method.run_bind, htarget, Method.run_check, hfound]

theorem writesFor_settle (id : String) (intent : SettlementIntent) (txHash : String)
    (confirmation : Option ChainConfirmation) :
    WritesFor [id] (settle (repository digest evidenceHash intact)
      (fun intent => intent.requiredConfirmations) id intent txHash confirmation) := by
  cases confirmation with
  | none => exact fun j => Grows.refl _ _
  | some c =>
      unfold settle
      dsimp only
      by_cases hsuccess : c.success = false
      · rw [if_pos hsuccess]
        exact writesFor_commit id _
      · rw [if_neg hsuccess]
        by_cases hcount : (c.confirmationCount : Int) < intent.requiredConfirmations
        · rw [if_pos hcount]
          exact fun j => Grows.refl _ _
        · rw [if_neg hcount]
          exact (writesFor_commit id _).bind fun _ => writesFor_commit id _

/-- A recovery writes for its own target only. -/
theorem writesFor_recoverOne (target : RecoveryTarget) :
    WritesFor [target.settlementIntentId]
      (recoverOne digest evidenceHash intact read target) := by
  unfold recoverOne recover
  by_cases hstatus : target.status = .chainConfirmedUncommitted
  · rw [if_pos hstatus]
    exact writesFor_commit _ _
  · rw [if_neg hstatus]
    have htarget : WritesFor [target.settlementIntentId]
        ((repository digest evidenceHash intact).settlementConfirmationTarget
          target.settlementIntentId) := fun j => writesFor_check _ j
    exact htarget.bind fun found => (writesFor_check _).bind fun confirmation =>
      writesFor_settle _ _ _ confirmation

/-! ### The scan -/

/-- A scan over a list goes on with the rest after a part that returned. -/
theorem scan_append (xs ys : List RecoveryTarget) (j : Journal) :
    (scan digest evidenceHash intact read (xs ++ ys)).run j =
      match (scan digest evidenceHash intact read xs).run j with
      | .ok _ j' => (scan digest evidenceHash intact read ys).run j'
      | .error e j' => .error e j' := by
  induction xs generalizing j with
  | nil => rfl
  | cons x rest ih =>
      show ((recoverOne digest evidenceHash intact read x >>= fun _ =>
          scan digest evidenceHash intact read (rest ++ ys)).run j)
        = match (recoverOne digest evidenceHash intact read x >>= fun _ =>
            scan digest evidenceHash intact read rest).run j with
          | .ok _ j' => (scan digest evidenceHash intact read ys).run j'
          | .error e j' => .error e j'
      rw [Method.run_bind, Method.run_bind]
      cases (recoverOne digest evidenceHash intact read x).run j with
      | error e t => rfl
      | ok a t => exact ih t

/-- A scan writes for the targets of its list only. -/
theorem writesFor_scan (targets : List RecoveryTarget) :
    WritesFor (targets.map (·.settlementIntentId)) (scan digest evidenceHash intact read targets) := by
  induction targets with
  | nil => exact fun j => Grows.refl _ _
  | cons x rest ih =>
      have hfirst : WritesFor ((x :: rest).map (·.settlementIntentId))
          (recoverOne digest evidenceHash intact read x) := by
        intro j
        refine (writesFor_recoverOne x j).mono ?_
        simp
      refine hfirst.bind fun _ j => ?_
      refine (ih j).mono ?_
      intro id hid
      exact List.mem_cons_of_mem _ hid

/-- No target of a list has anything to write, up to the first that raises. -/
def Quiet (digest : String → String) (evidenceHash : ChainConfirmation → String)
    (intact : SettlementIntent → Bool)
    (read : SettlementIntent → String → Except ReadError (Option ChainConfirmation)) (s : Ledger) :
    List RecoveryTarget → Prop
  | [] => True
  | target :: rest =>
    match need digest evidenceHash intact read s target with
    | .waits => Quiet digest evidenceHash intact read s rest
    | .raises => True
    | .writes => False

/-- A scan writes nothing exactly when its targets are quiet. -/
theorem scan_committed_iff (targets : List RecoveryTarget) (j : Journal) :
    ((scan digest evidenceHash intact read targets).after j).committed = j.committed ↔
      Quiet digest evidenceHash intact read j.ledger targets := by
  induction targets with
  | nil => exact ⟨fun _ => trivial, fun _ => rfl⟩
  | cons x rest ih =>
      have hmeets : Meets (need digest evidenceHash intact read j.ledger x)
          (recoverOne digest evidenceHash intact read x) j := meets_recoverOne x j
      unfold Quiet
      have hafter : ((scan digest evidenceHash intact read (x :: rest)).after j)
          = match (recoverOne digest evidenceHash intact read x).run j with
            | .ok _ t => (scan digest evidenceHash intact read rest).after t
            | .error _ t => t := by
        show (recoverOne digest evidenceHash intact read x >>= fun _ =>
          scan digest evidenceHash intact read rest).after j = _
        unfold Method.after
        rw [Method.run_bind]
        cases (recoverOne digest evidenceHash intact read x).run j with
        | ok a t => rfl
        | error e t => rfl
      cases hneed : need digest evidenceHash intact read j.ledger x with
      | waits =>
          rw [hneed] at hmeets
          have hwaits : (recoverOne digest evidenceHash intact read x).run j = .ok () j := hmeets
          rw [hafter, hwaits]
          exact ih
      | raises =>
          rw [hneed] at hmeets
          obtain ⟨e, hraises⟩ := hmeets
          rw [hafter, hraises]
          exact ⟨fun _ => trivial, fun _ => rfl⟩
      | writes =>
          rw [hneed] at hmeets
          obtain ⟨entry, entries, hwrites⟩ := hmeets
          refine ⟨fun hsame => ?_, fun hfalse => hfalse.elim⟩
          have hgrown : ∃ more, ((scan digest evidenceHash intact read (x :: rest)).after j).committed
              = j.committed ++ entry :: entries ++ more := by
            rw [hafter]
            unfold Method.after at hwrites
            cases hrun : (recoverOne digest evidenceHash intact read x).run j with
            | error e t =>
                rw [hrun] at hwrites
                exact ⟨[], by simpa using hwrites⟩
            | ok a t =>
                rw [hrun] at hwrites
                have hscan : WritesFor _ (scan digest evidenceHash intact read rest) :=
                  writesFor_scan rest
                obtain ⟨more, hmore, -⟩ := hscan t
                exact ⟨more, hmore.trans (by rw [hwrites])⟩
          obtain ⟨more, hmore⟩ := hgrown
          have hlength := congrArg List.length (hmore.symm.trans hsame)
          simp only [List.length_append, List.length_cons] at hlength
          omega

/-! ### A target that raises -/

/-- The transactions that were committed for a target. -/
def effectsOf (id : String) (j : Journal) : List (String × Ledger.Operation) :=
  j.committed.filter fun e => e.1 = id

theorem effectsOf_grows {ids : List String} {id : String} (h : Grows ids j j') (hid : id ∉ ids) :
    effectsOf id j' = effectsOf id j := by
  obtain ⟨entries, heq, hids⟩ := h
  unfold effectsOf
  rw [heq, List.filter_append]
  have hnone : entries.filter (fun e => decide (e.1 = id)) = [] := by
    rw [List.filter_eq_nil_iff]
    intro e he
    have hin := hids e he
    simp only [decide_eq_true_eq]
    rintro rfl
    exact hid hin
  rw [hnone, List.append_nil]

/-- A journal that grew wrote nothing exactly when no target has more than before. -/
theorem effectsOf_eq_iff {ids : List String} {id : String} (h : Grows ids j j') (hid : id ∉ ids) :
    (∀ u, u ≠ id → effectsOf u j' = effectsOf u j) ↔ j'.committed = j.committed := by
  refine ⟨fun hsame => ?_, fun heq u _ => by unfold effectsOf; rw [heq]⟩
  obtain ⟨entries, heq, hids⟩ := h
  cases entries with
  | nil => rw [heq, List.append_nil]
  | cons entry rest =>
      have hother : entry.1 ≠ id := by
        rintro rfl
        exact hid (hids entry List.mem_cons_self)
      have hlength := congrArg List.length (hsame entry.1 hother)
      unfold effectsOf at hlength
      rw [heq, List.filter_append, List.filter_cons_of_pos (by simp), List.length_append,
        List.length_cons] at hlength
      omega

theorem runOnce_after (targets : List RecoveryTarget) (j : Journal) :
    (runOnce digest evidenceHash intact read targets).after j
      = (scan digest evidenceHash intact read targets).after j := by
  unfold runOnce Method.after
  rw [Method.run_bind]
  cases (recoverAll (repository digest evidenceHash intact)
    (fun intent => intent.requiredConfirmations) read targets).run j with
  | ok a t => rfl
  | error e t => rfl

theorem scan_after_append {xs : List RecoveryTarget} {j₀ : Journal}
    (h : (scan digest evidenceHash intact read xs).run j₀ = .ok () j) (ys : List RecoveryTarget) :
    (scan digest evidenceHash intact read (xs ++ ys)).after j₀
      = (scan digest evidenceHash intact read ys).after j := by
  unfold Method.after
  rw [scan_append, h]

/-- **When a raising target leaves the others alone.**  Let the targets before `t` be recovered,
    and let `t` raise.  Every other target then has the transactions it would have had without
    `t` in the list exactly when none of the targets after `t` had anything to write, up to the
    next one that raises. -/
theorem raising_target_isolated_iff {s : Ledger} {xs ys : List RecoveryTarget} {t : RecoveryTarget}
    (hids : ((xs ++ t :: ys).map (·.settlementIntentId)).Nodup) {e : String}
    (hxs : (scan digest evidenceHash intact read xs).run ⟨s, []⟩ = .ok () j)
    (ht : (recoverOne digest evidenceHash intact read t).run j = .error e j') :
    (∀ u, u ≠ t.settlementIntentId →
      effectsOf u ((runOnce digest evidenceHash intact read (xs ++ t :: ys)).after ⟨s, []⟩)
        = effectsOf u ((runOnce digest evidenceHash intact read (xs ++ ys)).after ⟨s, []⟩)) ↔
      Quiet digest evidenceHash intact read j.ledger ys := by
  have hwith : (scan digest evidenceHash intact read (t :: ys)).after j = j' := by
    show (recoverOne digest evidenceHash intact read t >>= fun _ =>
      scan digest evidenceHash intact read ys).after j = j'
    unfold Method.after
    rw [Method.run_bind, ht]
  have hown : Grows [t.settlementIntentId] j j' := by
    have hwrites : WritesFor [t.settlementIntentId]
        (recoverOne digest evidenceHash intact read t) := writesFor_recoverOne t
    have hgrows := hwrites j
    unfold Method.after at hgrows
    rw [ht] at hgrows
    exact hgrows
  have hfresh : t.settlementIntentId ∉ ys.map (·.settlementIntentId) := by
    rw [List.map_append, List.map_cons] at hids
    exact (List.nodup_cons.mp hids.of_append_right).1
  have hrest : WritesFor (ys.map (·.settlementIntentId)) (scan digest evidenceHash intact read ys) :=
    writesFor_scan ys
  rw [runOnce_after, runOnce_after, scan_after_append hxs, scan_after_append hxs, hwith,
    ← scan_committed_iff, ← effectsOf_eq_iff (hrest j) hfresh]
  refine forall₂_congr fun u hu => ?_
  rw [effectsOf_grows hown (by simpa using hu)]
  exact eq_comm

namespace Sample

/-- Dave buys one herb of Carol for 4. -/
def otherIntent : SettlementIntent :=
  { Ledger.Trade.intent with
    pairingId := "pair_0"
    negotiationId := "neg_0"
    buyerParticipantId := "dave"
    sellerParticipantId := "carol"
    buyerAccount := "0xdddddddddddddddddddddddddddddddddddddddd"
    sellerAccount := "0x9999999999999999999999999999999999999999"
    unitPriceAtomic := 4
    amountAtomic := 4
    intentHash := "sha256:88af9887f689ec942329808f024df7da0ab0d80e6493b1206acbca1603d3eaa2"
    pricePositive := by decide
    amountIsProduct := by decide
    participantsDiffer := by decide
    accountsDiffer := by decide }

/-- Dave's transaction. -/
def otherTx : String := "0x3333333333333333333333333333333333333333333333333333333333333333"

/-- Both payments are submitted and wait for the chain, each with its own transaction. -/
def waiting : Ledger :=
  let other : PairingRow :=
    { roundId := "round_1"
      goodId := "herb"
      buyerEntryId := "pool_3"
      sellerEntryId := "pool_4"
      buyerParticipantId := "dave"
      sellerParticipantId := "carol"
      pairingSequence := 2
      quantity := 1
      buyerLimitPriceAtomic := none
      sellerLimitPriceAtomic := none
      status := .settling }
  let nonce (intent : SettlementIntent) := "0x" ++ String.ofList (intent.intentHash.toList.drop 7)
  let approval (intent : SettlementIntent) : ApprovalRow :=
    ⟨intent.intentHash, nonce intent, "payment_mandate"⟩
  { intents := [("settle_0", ⟨otherIntent, .submitted, none⟩),
      ("settle_1", ⟨Ledger.Trade.intent, .submitted, none⟩)]
    approvals := [("settle_0", approval otherIntent), ("settle_1", approval Ledger.Trade.intent)]
    submissions := [("settle_0", ⟨otherTx, nonce otherIntent, "wallet"⟩),
      ("settle_1", ⟨Ledger.Trade.confirmation.txHash, nonce Ledger.Trade.intent, "wallet"⟩)]
    balances := Ledger.Trade.start.balances ++ [("dave", 20), ("carol", 0)]
    holdings := Ledger.Trade.start.holdings ++ [(("dave", "herb"), 0), (("carol", "herb"), 2)]
    participants := Ledger.Trade.start.participants ++
      [("dave", { gameId := "game_1", status := .settling, agentId := "agent_d" }),
        ("carol", { gameId := "game_1", status := .settling, agentId := "agent_c" })]
    pairings := Ledger.Trade.start.pairings ++ [("pair_0", other)]
    negotiations := Ledger.Trade.start.negotiations ++ [("neg_0",
      { pairingId := "pair_0"
        roundId := "round_1"
        buyerParticipantId := "dave"
        sellerParticipantId := "carol"
        maxTurns := 3
        turnCount := 2
        nextRole := none
        acceptedPriceAtomic := some 4
        actionDeadlineAt := 0
        status := .acceptedPendingSettlement })] }

/-- The first transaction cannot be read; the second has an answer. -/
def reader (answer : Option ChainConfirmation) (_ : SettlementIntent) (txHash : String) :
    Except ReadError (Option ChainConfirmation) :=
  if txHash = otherTx then .error (.chainRead "expected_transfer_event_not_found") else .ok answer

/-- The second transaction was reverted. -/
def reverted : ChainConfirmation :=
  { Ledger.Trade.confirmation with success := false }

/-- A scan of the two, with or without the first. -/
def scanned (answer : Option ChainConfirmation) (targets : List RecoveryTarget) : Journal :=
  (runOnce id (fun _ => "sha256") (fun _ => true) (reader answer) targets).after ⟨waiting, []⟩

/-- An unreadable settlement before one that still waits takes nothing away. -/
theorem unreadable_before_waiting :
    Quiet id (fun _ => "sha256") (fun _ => true) (reader none) waiting
        [⟨"settle_1", .submitted⟩] ∧
      ∀ u, u ≠ "settle_0" →
        effectsOf u (scanned none [⟨"settle_0", .submitted⟩, ⟨"settle_1", .submitted⟩])
          = effectsOf u (scanned none [⟨"settle_1", .submitted⟩]) := by
  have hquiet : Quiet id (fun _ => "sha256") (fun _ => true) (reader none) waiting
      [⟨"settle_1", .submitted⟩] := by
    have hneed : need id (fun _ => "sha256") (fun _ => true) (reader none) waiting
        ⟨"settle_1", .submitted⟩ = .waits := by decide
    unfold Quiet
    rw [hneed]
    trivial
  have hraises : (recoverOne id (fun _ => "sha256") (fun _ => true) (reader none)
      ⟨"settle_0", .submitted⟩).run ⟨waiting, []⟩
      = .error "expected_transfer_event_not_found" ⟨waiting, []⟩ := rfl
  have hids : (([] ++ (⟨"settle_0", .submitted⟩ : RecoveryTarget) ::
      [⟨"settle_1", .submitted⟩]).map RecoveryTarget.settlementIntentId).Nodup := by decide
  exact ⟨hquiet, (raising_target_isolated_iff hids rfl hraises).mpr hquiet⟩

/-- The revert of the second settlement is lost when the first cannot be read. -/
theorem revert_after_unreadable_lost :
    ¬ ∀ (digest : String → String) (evidenceHash : ChainConfirmation → String)
      (intact : SettlementIntent → Bool)
      (read : SettlementIntent → String → Except ReadError (Option ChainConfirmation))
      (s : Ledger) (xs ys : List RecoveryTarget) (t : RecoveryTarget) (j j' : Journal) (e : String),
      ((xs ++ t :: ys).map (·.settlementIntentId)).Nodup →
      (scan digest evidenceHash intact read xs).run ⟨s, []⟩ = .ok () j →
      (recoverOne digest evidenceHash intact read t).run j = .error e j' →
      ∀ u, u ≠ t.settlementIntentId →
        effectsOf u ((runOnce digest evidenceHash intact read (xs ++ t :: ys)).after ⟨s, []⟩)
          = effectsOf u ((runOnce digest evidenceHash intact read (xs ++ ys)).after ⟨s, []⟩) := by
  intro h
  have hraises : (recoverOne id (fun _ => "sha256") (fun _ => true) (reader (some reverted))
      ⟨"settle_0", .submitted⟩).run ⟨waiting, []⟩
      = .error "expected_transfer_event_not_found" ⟨waiting, []⟩ := rfl
  have hsame := h id (fun _ => "sha256") (fun _ => true) (reader (some reverted)) waiting []
    [⟨"settle_1", .submitted⟩] ⟨"settle_0", .submitted⟩ _ _ _ (by decide) rfl hraises "settle_1"
    (by decide)
  have hlength : (effectsOf "settle_1" (scanned (some reverted)
      [⟨"settle_0", .submitted⟩, ⟨"settle_1", .submitted⟩])).length
      = (effectsOf "settle_1" (scanned (some reverted) [⟨"settle_1", .submitted⟩])).length :=
    congrArg List.length hsame
  exact absurd hlength (by decide)

end Sample

end Journal

end Arena402.Game
