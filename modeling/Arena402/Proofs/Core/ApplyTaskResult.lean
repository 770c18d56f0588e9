/-
The projection inside the database and the projection in Python give the same application
exactly when no cast that is reached raises and rounding does not turn the verdict.

`ProjectionChecks` has the two verdicts on a candidate.  What is added here is the precision
of prices, which the database checks last and exactly, and the rows that are written.
-/
import Arena402.Proofs.Core.ProjectionChecks

namespace Arena402

open Py Sql Jsonb
open Value (nat opt ofAmount ofPrice ofDecimal ofGoods ofText listOf optEntry)

/-! ### The precision of prices -/

theorem atomicPrice_iff (p : PositiveFixedDecimal) :
    moneyValueHasAtomicPrecision (some (serializeFixedDecimal p.value)) = some true ↔
      AtomicPrice p := by
  have hval : ((Numeric.ofDecimal false p.value).mul (.ofInt 1000000)).val = p.value.val * 10 ^ 6 := by
    rw [Numeric.val_mul, Numeric.val_ofDecimal, Numeric.val_ofInt]
    norm_num
  unfold moneyValueHasAtomicPrecision
  rw [toNumeric_serialize p.wire]
  show some (Numeric.eq _ _) = some true ↔ _
  rw [Option.some.injEq, Numeric.eq_trunc_iff, hval]
  constructor
  · rintro ⟨n, hn⟩
    have hpos : (0 : ℚ) ≤ n := by
      rw [← hn]
      have : (0 : ℚ) ≤ p.value.val := by
        unfold Decimal.val
        positivity
      positivity
    exact ⟨n.toNat, by rw [hn]; exact_mod_cast (Int.toNat_of_nonneg (by exact_mod_cast hpos)).symm⟩
  · rintro ⟨n, hn⟩
    exact ⟨n, by exact_mod_cast hn⟩

/-- Python's check takes every whole number of atomic units. -/
theorem precise_of_atomic {p : PositiveFixedDecimal} (h : AtomicPrice p) :
    hasArenaMoneyPrecision p.value = true := by
  obtain ⟨n, hn⟩ := h
  have hexact : Decimal.val ⟨p.value.coeff * goldScale, p.value.exp + 0⟩ = n := by
    rw [exactProduct_val]
    exact hn
  obtain ⟨m, hm⟩ := Decimal.fix_integer (by decide : 0 < defaultPrecision) hexact
  exact Decimal.eq_toIntegralValue_of_integer hm

theorem precision_known (t : String) : ∃ b, moneyValueHasAtomicPrecision (some t) = some b := by
  unfold moneyValueHasAtomicPrecision
  rw [Option.map_some]
  exact ⟨_, rfl⟩

/-- The precision of a price that may be missing. -/
theorem precise_option (x : Option PositiveFixedDecimal) :
    ∃ b, (isNull (x.map fun p => serializeFixedDecimal p.value)).or
        (moneyValueHasAtomicPrecision (x.map fun p => serializeFixedDecimal p.value)) = some b ∧
      (b = true ↔ ∀ p, x = some p → AtomicPrice p) := by
  cases x with
  | none => exact ⟨true, rfl, by simp⟩
  | some p =>
      have hiff := atomicPrice_iff p
      obtain ⟨b, hb⟩ := precision_known (serializeFixedDecimal p.value)
      rw [hb, Option.some.injEq] at hiff
      refine ⟨b, ?_, by simp [hiff]⟩
      rw [Option.map_some, isNull_some, Truth.false_or, hb]

theorem pricePrecise_order (name : String) (o : Order) :
    (∃ b, pricePrecise (some (o.dump name)) "limitPrice" = some b ∧
      (b = true ↔ ∀ p, o.limitPrice = some p → AtomicPrice p)) ∧
    ∃ b, pricePrecise (some (o.dump name)) "publicPrice" = some b ∧
      (b = true ↔ ∀ p, o.publicPrice = some p → AtomicPrice p) := by
  unfold pricePrecise
  rw [text_order_limitPrice, text_order_publicPrice]
  exact ⟨precise_option o.limitPrice, precise_option o.publicPrice⟩

/-- The prices of a request action, checked one by one. -/
theorem precise_requests (l : RequestList) :
    ∃ b, actionPricePrecisionValid .marketRfq (some (Action.requestNegotiations l).dump) =
        .ok (some b) ∧ (b = true ↔ ∀ r ∈ l.requests, AtomicPrice r.openingPrice) := by
  have hrequests : field (some (Action.requestNegotiations l).dump) (some "requests") =
      some (listOf NegotiationRequestCandidateV1.dump l.requests) := by
    simp [Action.dump, List.lookup]
  have hname : text (some (Action.requestNegotiations l).dump) "action" =
      some "request_negotiations" := text_action_name _
  have helements : elements (some (listOf NegotiationRequestCandidateV1.dump l.requests)) =
      .ok (l.requests.map NegotiationRequestCandidateV1.dump) := rfl
  have hbad : ∀ r : NegotiationRequestCandidateV1,
      (decide ((isNull (text (some r.dump) "openingPrice")).not.and
        (moneyValueHasAtomicPrecision (text (some r.dump) "openingPrice")).not = some true)) =
      true ↔ ¬ AtomicPrice r.openingPrice := by
    intro r
    obtain ⟨b, hb⟩ := precision_known (serializeFixedDecimal r.openingPrice.value)
    rw [text_request_price, ← atomicPrice_iff, hb]
    simp
  unfold actionPricePrecisionValid
  simp only [hname, hrequests, Option.getD_some, helements, ok_bind]
  refine ⟨!(l.requests.map NegotiationRequestCandidateV1.dump).any fun request =>
    (isNull (text (some request) "openingPrice")).not.and
      (moneyValueHasAtomicPrecision (text (some request) "openingPrice")).not = some true, rfl, ?_⟩
  rw [Bool.not_eq_true', List.any_map, List.any_eq_false]
  simp only [Function.comp_apply, hbad, not_not]

/-- A candidate without a price has no imprecise one. -/
theorem precise_of_name {kind : TaskKind} {a : Action}
    (h : a.name ∉ ["buy", "sell", "request_negotiations", "propose"]) :
    actionPricePrecisionValid kind (some a.dump) = .ok (some true) := by
  simp only [List.mem_cons, List.not_mem_nil, or_false, not_or] at h
  obtain ⟨hbuy, hsell, hrequest, hpropose⟩ := h
  unfold actionPricePrecisionValid
  simp [hbuy, hsell, hrequest, hpropose]

/-- The database's check of the prices of a candidate. -/
theorem actionPricePrecisionValid_iff {input : TaskInput} {a : Action}
    (h : PassesOtherwise input a) :
    ∃ b, actionPricePrecisionValid input.kind (some a.dump) = .ok (some b) ∧
      (b = true ↔ ∀ p ∈ a.prices, AtomicPrice p) := by
  cases a with
  | buy o =>
      obtain ⟨⟨b, hb, hlimit⟩, b', hb', hpublic⟩ := pricePrecise_order "buy" o
      cases input with
      | decide v =>
          refine ⟨b, congrArg Except.ok hb, ?_⟩
          rw [hlimit]
          simp [Action.prices, Order.prices, h.2.1]
      | marketIntent v =>
          refine ⟨b' && b, ?_, ?_⟩
          · rw [← Truth.and_some, ← hb, ← hb']
            rfl
          · rw [Bool.and_eq_true, hlimit, hpublic]
            simp [Action.prices, Order.prices, or_imp, forall_and, and_comm]
      | _ => exact absurd h id
  | sell o =>
      obtain ⟨⟨b, hb, hlimit⟩, b', hb', hpublic⟩ := pricePrecise_order "sell" o
      cases input with
      | decide v =>
          refine ⟨b, congrArg Except.ok hb, ?_⟩
          rw [hlimit]
          simp [Action.prices, Order.prices, h.2.1]
      | marketIntent v =>
          refine ⟨b' && b, ?_, ?_⟩
          · rw [← Truth.and_some, ← hb, ← hb']
            rfl
          · rw [Bool.and_eq_true, hlimit, hpublic]
            simp [Action.prices, Order.prices, or_imp, forall_and, and_comm]
      | _ => exact absurd h id
  | propose price message =>
      cases input with
      | negotiate v =>
          have hprice : text (some (Action.propose price message).dump) "price" =
              some (serializeFixedDecimal price.value) := by
            simp [text, Action.dump, List.lookup, ofPrice, ofDecimal]
          obtain ⟨b, hb, hiff⟩ := precise_option (some price)
          refine ⟨b, ?_, ?_⟩
          · rw [← hb, Option.map_some, ← hprice]
            rfl
          · rw [hiff]
            simp [Action.prices]
      | _ => exact absurd h id
  | requestNegotiations l =>
      cases input with
      | marketRfq v =>
          obtain ⟨b, hb, hiff⟩ := precise_requests l
          exact ⟨b, hb, by simp [hiff, Action.prices]⟩
      | _ => exact absurd h id
  | _ => exact ⟨true, precise_of_name (by simp [Action.name]), by simp [Action.prices]⟩

/-! ### What is written -/

/-- The database waits for the result of a task to be applied. -/
structure Awaiting (db : ArenaDb) (t : ArenaAgentTaskV1) (r : AgentTaskResultV1)
    (result : ResultRow) : Prop where
  task : db.tasks.get r.taskId = some t.row
  stored : db.results.get r.resultId = some result
  taskId : result.taskId = r.taskId
  status : result.runtimeStatus = r.status
  candidate : result.candidateAction = r.action.map Action.dump
  pending : result.applyStatus = .pending
  fresh : db.applied.get r.taskId = none
  unapplied : ∀ e ∈ db.applied, e.2.resultId ≠ r.resultId

/-- The row of the applied action. -/
def appliedRowOf (t : ArenaAgentTaskV1) (r : AgentTaskResultV1) (result : ResultRow)
    (outcome : ApplicationOutcome) (action : Option Value) (now : UtcDateTime) : AppliedRow where
  resultId := r.resultId
  gameId := t.gameId
  roundId := t.roundId
  gameAgentId := t.gameAgentId
  taskKind := t.kind
  applicationOutcome := outcome
  appliedAction := action
  authoritativeEnteredAt := if outcome = .candidate then result.resultReceivedAt else now
  appliedAt := now

section Rows

variable {db : ArenaDb} {t : ArenaAgentTaskV1} {r : AgentTaskResultV1} {result : ResultRow}

theorem Awaiting.write (h : Awaiting db t r result) (outcome : ApplicationOutcome)
    (action : Option Value) (reason : Option String) (now : UtcDateTime) :
    ∃ db', db.writeApplication r.resultId result t.row outcome action reason now = .ok db' ∧
      db'.applied = db.applied.set r.taskId (appliedRowOf t r result outcome action now) := by
  have hfree : (db.applied.any fun e => e.2.resultId = r.resultId) = false := by
    rw [List.any_eq_false]
    intro e he
    simpa using h.unapplied e he
  unfold ArenaDb.writeApplication
  rw [h.taskId, h.fresh, hfree, if_neg (by simp)]
  exact ⟨_, rfl, rfl⟩

/-- Both functions turn a candidate down in the same way. -/
theorem Awaiting.applyPrePrecisionV1_eq (h : Awaiting db t r result) (now : UtcDateTime) :
    db.applyPrePrecisionV1 r.resultId now = (do
      let db ← match ← projectedReason t.row result with
        | none =>
          db.writeApplication r.resultId result t.row .candidate result.candidateAction none now
        | some reason =>
          db.writeApplication r.resultId result t.row (repairedApplication t.kind).1
            (repairedApplication t.kind).2 (some reason) now
      return (db, true)) := by
  have hkind : t.row.taskKind = t.kind := rfl
  unfold ArenaDb.applyPrePrecisionV1 ArenaDb.applyFcfsV1 projectedReason
  rw [h.stored]
  dsimp only
  rw [if_neg (by simp [h.pending]), if_neg (by simp [h.pending]), h.taskId, h.task]
  dsimp only
  by_cases hdelegates : delegatesToFcfs t.row result = true
  · have hfcfs : t.kind = .decide ∨ t.kind = .negotiate := by
      unfold delegatesToFcfs at hdelegates
      rw [hkind] at hdelegates
      simp only [Bool.or_eq_true, Bool.and_eq_true, decide_eq_true_eq] at hdelegates
      exact hdelegates.elim Or.inr fun hd => Or.inl hd.1
    rw [if_pos hdelegates, if_pos hdelegates]
    cases fcfsReason t.row result with
    | error e => rfl
    | ok reason =>
        cases reason with
        | none => rfl
        | some reason => rcases hfcfs with hdecide | hnegotiate <;> simp [*, repairedApplication]
  · have hmarket : t.kind ≠ .negotiate := by
      intro hnegotiate
      refine hdelegates ?_
      unfold delegatesToFcfs
      rw [hkind, hnegotiate]
      rfl
    rw [if_neg hdelegates, if_neg hdelegates]
    cases marketReason t.row result with
    | error e => rfl
    | ok reason =>
        cases reason with
        | none => rfl
        | some reason =>
            cases hk : t.kind with
            | negotiate => exact absurd hk hmarket
            | _ => simp [hkind, hk, repairedApplication]

/-- The row of the new applied action is found by its result. -/
theorem Awaiting.find (h : Awaiting db t r result) (row : AppliedRow)
    (hrow : row.resultId = r.resultId) :
    (db.applied.set r.taskId row).find? (fun e => e.2.resultId = r.resultId) =
      some (r.taskId, row) := by
  have hnone : db.applied.find? (fun e => e.2.resultId = r.resultId) = none := by
    rw [List.find?_eq_none]
    intro e he
    simpa using h.unapplied e he
  rw [Dict.set_of_get_none row h.fresh, List.find?_append, hnone]
  simp [hrow]

/-- The application the database writes, as its outcome and its action. -/
def Written (db : ArenaDb) (r : AgentTaskResultV1) (now : UtcDateTime)
    (application : ApplicationOutcome × Option Value) : Prop :=
  ∃ db' row, db.applyArenaAgentTaskResult r.resultId now = .ok (db', true) ∧
    db'.applied.get r.taskId = some row ∧
    (row.applicationOutcome, row.appliedAction) = application

theorem repaired_ne_candidate (kind : TaskKind) : (repairedApplication kind).1 ≠ .candidate := by
  cases kind <;> decide

theorem Awaiting.raises (h : Awaiting db t r result) {e : Error}
    (hreason : projectedReason t.row result = .error e) (now : UtcDateTime) :
    db.applyArenaAgentTaskResult r.resultId now = .error e := by
  unfold ArenaDb.applyArenaAgentTaskResult
  rw [h.applyPrePrecisionV1_eq, hreason]
  rfl

theorem Awaiting.turnedDown (h : Awaiting db t r result) {reason : String}
    (hreason : projectedReason t.row result = .ok (some reason)) (now : UtcDateTime) :
    Written db r now (repairedApplication t.kind) := by
  obtain ⟨db', hwrite, happlied⟩ := h.write (repairedApplication t.kind).1
    (repairedApplication t.kind).2 (some reason) now
  have hfind := h.find (appliedRowOf t r result (repairedApplication t.kind).1
    (repairedApplication t.kind).2 now) rfl
  refine ⟨db', appliedRowOf t r result (repairedApplication t.kind).1
    (repairedApplication t.kind).2 now, ?_, ?_, rfl⟩
  · unfold ArenaDb.applyArenaAgentTaskResult
    rw [h.applyPrePrecisionV1_eq, hreason, ok_bind]
    dsimp only
    rw [hwrite, ok_bind, pure_ok, ok_bind]
    dsimp only
    rw [happlied, hfind]
    simp [appliedRowOf, repaired_ne_candidate]
  · rw [happlied]
    exact Dict.get_set_self _ _ _

/-- A candidate that is not turned down stands when its prices are precise. -/
theorem Awaiting.taken (h : Awaiting db t r result)
    (hreason : projectedReason t.row result = .ok none) {valid : Bool}
    (hvalid : actionPricePrecisionValid t.kind result.candidateAction = .ok (some valid))
    (now : UtcDateTime) :
    Written db r now (if valid = true then (.candidate, result.candidateAction)
      else repairedApplication t.kind) := by
  obtain ⟨db', hwrite, happlied⟩ := h.write .candidate result.candidateAction none now
  have hfind := h.find (appliedRowOf t r result .candidate result.candidateAction now) rfl
  have hvalid' : actionPricePrecisionValid
      (appliedRowOf t r result .candidate result.candidateAction now).taskKind
      (appliedRowOf t r result .candidate result.candidateAction now).appliedAction =
        .ok (some valid) := hvalid
  have hoffered : ¬ (appliedRowOf t r result .candidate result.candidateAction
      now).applicationOutcome ≠ .candidate := by simp [appliedRowOf]
  have happly : db.applyArenaAgentTaskResult r.resultId now =
      if valid = true then .ok (db', true)
      else .ok (db'.repairPrecision r.resultId r.taskId
        (appliedRowOf t r result .candidate result.candidateAction now), true) := by
    unfold ArenaDb.applyArenaAgentTaskResult
    rw [h.applyPrePrecisionV1_eq, hreason, ok_bind]
    dsimp only
    rw [hwrite, ok_bind, pure_ok, ok_bind]
    dsimp only
    rw [happlied, hfind]
    dsimp only
    rw [if_neg hoffered, hvalid', ok_bind]
    cases valid <;> rfl
  cases valid with
  | true =>
      refine ⟨db', appliedRowOf t r result .candidate result.candidateAction now, happly, ?_, rfl⟩
      rw [happlied]
      exact Dict.get_set_self _ _ _
  | false => exact ⟨_, _, happly, Dict.get_set_self _ _ _, rfl⟩

theorem Written.unique {now : UtcDateTime} {x y : ApplicationOutcome × Option Value}
    (hx : Written db r now x) (hy : Written db r now y) : x = y := by
  obtain ⟨db', row, happly, hrow, rfl⟩ := hx
  obtain ⟨db'', row', happly', hrow', rfl⟩ := hy
  rw [happly] at happly'
  cases happly'
  rw [hrow] at hrow'
  cases hrow'
  rfl

/-- The database turns down what the Runtime did not bring to an end. -/
theorem Awaiting.noCandidate (h : Awaiting db t r result) (hnone : r.action = none) :
    ∃ reason, projectedReason t.row result = .ok (some reason) := by
  have hcandidate : result.candidateAction = none := by
    rw [h.candidate, hnone]
    rfl
  have hstatus : result.runtimeStatus ≠ .succeeded := by
    rw [h.status, Ne, r.shape, hnone]
    simp
  have hquantity : candidateQuantity none = .ok 1 := rfl
  unfold projectedReason fcfsReason marketReason
  rw [hcandidate, hquantity]
  simp only [ok_bind, if_pos hstatus]
  split_ifs
  · exact ⟨_, rfl⟩
  · exact ⟨_, rfl⟩
  · exact ⟨_, rfl⟩

end Rows

/-! ### Python's application -/

/-- The outcome and the action that Python applies. -/
def derivedApplication (t : ArenaAgentTaskV1) (r : AgentTaskResultV1) :
    ApplicationOutcome × Option Value :=
  ((deriveApplication t r).outcome, (deriveApplication t r).action.map Action.dump)

theorem default_eq_repaired (t : ArenaAgentTaskV1) (reason : String) :
    ((defaultApplication t reason).outcome, (defaultApplication t reason).action.map Action.dump) =
      repairedApplication t.kind := by
  unfold defaultApplication
  cases t.kind <;> rfl

theorem derived_none {t : ArenaAgentTaskV1} {r : AgentTaskResultV1} (h : r.action = none) :
    derivedApplication t r = repairedApplication t.kind := by
  have hstatus : r.status ≠ .succeeded := by
    rw [Ne, r.shape, h]
    simp
  unfold derivedApplication deriveApplication
  rw [if_pos hstatus]
  exact default_eq_repaired t _

theorem derived_some {t : ArenaAgentTaskV1} {r : AgentTaskResultV1} {a : Action}
    (h : r.action = some a) :
    (candidateViolation t.kind t.input a = some none →
      derivedApplication t r = (.candidate, some a.dump)) ∧
    (candidateViolation t.kind t.input a ≠ some none →
      derivedApplication t r = repairedApplication t.kind) := by
  have hstatus : r.status = .succeeded := by
    rw [r.shape, h]
    rfl
  unfold derivedApplication deriveApplication
  rw [if_neg (not_not.mpr hstatus), h]
  dsimp only
  cases hviolation : candidateViolation t.kind t.input a with
  | none => exact ⟨by simp, fun _ => default_eq_repaired t _⟩
  | some violation =>
      cases violation with
      | none => exact ⟨fun _ => rfl, by simp⟩
      | some violation => exact ⟨by simp, fun _ => default_eq_repaired t _⟩

/-! ### When they agree -/

/-- Rounding does not turn the verdict on a candidate that passes the other checks: its prices
    are whole numbers of atomic units and the cash does not lie between the cost and the rounded
    cost; or they are not, and Python sees that in spite of rounding, or finds the rounded cost
    too high. -/
def RoundsAlike (input : TaskInput) (a : Action) : Prop :=
  PassesOtherwise input a →
    ((∀ p ∈ a.prices, AtomicPrice p) ∧ ∀ c, purchase input a = some c →
      (c.2.value.lt (roundedCost c.1) = true ↔ c.2.value.lt c.1.value = true)) ∨
    ((∃ p ∈ a.prices, ¬ AtomicPrice p) ∧
      ((∃ p ∈ a.prices, hasArenaMoneyPrecision p.value = false) ∨
        ∃ c, purchase input a = some c ∧ c.2.value.lt (roundedCost c.1) = true))

/-- The two verdicts are the same exactly when rounding is harmless. -/
theorem roundsAlike_iff (input : TaskInput) (a : Action) :
    RoundsAlike input a ↔ (candidateViolation input.kind input a = some none ↔
      PassesExactly input a ∧ ∀ p ∈ a.prices, AtomicPrice p) := by
  rw [candidateViolation_none_iff]
  unfold RoundsAlike PassesExactly
  by_cases hpasses : PassesOtherwise input a
  · by_cases hatomic : ∀ p ∈ a.prices, AtomicPrice p
    · have hprecise : ∀ p ∈ a.prices, hasArenaMoneyPrecision p.value = true :=
        fun p hp => precise_of_atomic (hatomic p hp)
      have hnot : ¬ ∃ p ∈ a.prices, ¬ AtomicPrice p := by simpa using hatomic
      simp only [hpasses, true_imp_iff, true_and, hnot, false_and, or_false, eq_true hprecise,
        eq_true hatomic, and_true]
      cases purchase input a with
      | none => simp
      | some c =>
          cases hrounded : c.2.value.lt (roundedCost c.1) <;>
            cases hexact : c.2.value.lt c.1.value <;> simp [hrounded, hexact]
    · have hsome : ∃ p ∈ a.prices, ¬ AtomicPrice p := by simpa using hatomic
      simp only [hpasses, true_imp_iff, true_and, hatomic, false_and, false_or, hsome, and_false,
        iff_false, not_and_or]
      cases purchase input a with
      | none => simp
      | some c => simp
  · simp [hpasses]

/-- The verdict of the database on any candidate. -/
theorem projected_verdict {sha256 : String → String} {t : ArenaAgentTaskV1}
    (hvalid : t.wireValid sha256 = true) {result : ResultRow} {a : Action}
    (hrows : RowsOf t.row result t.input a) :
    Verdict (projectedReason t.row result) (Castable t.input a) (PassesExactly t.input a) := by
  have hinput : t.input.validate = true := by
    unfold ArenaAgentTaskV1.wireValid at hvalid
    simp only [Bool.and_eq_true] at hvalid
    exact hvalid.1.1.1.1.1.1
  cases hview : t.input with
  | decide v => exact decide_verdict (hview ▸ hrows)
  | negotiate v => exact negotiate_verdict (hview ▸ hrows)
  | marketIntent v => exact marketIntent_verdict (hview ▸ hrows)
  | marketRfq v =>
      have hmax : v.maxOutboundRfq < 2 ^ 31 := by
        rw [hview] at hinput
        simp only [TaskInput.validate, ArenaMarketRfqInputV1.validateDirectory, Bool.and_eq_true,
          decide_eq_true_eq] at hinput
        have hle : v.maxOutboundRfq ≤ 3 := hinput.1.2
        omega
      exact marketRfq_verdict (hview ▸ hrows) hmax
  | marketSelect v => exact marketSelect_verdict (hview ▸ hrows)

/-- What the database writes when its casts hold. -/
theorem Awaiting.written {db : ArenaDb} {t : ArenaAgentTaskV1} {r : AgentTaskResultV1}
    {result : ResultRow} {a : Action} {reason : Option String}
    (h : Awaiting db t r result) (now : UtcDateTime) (hkind : t.input.kind = t.kind)
    (hcandidate : result.candidateAction = some a.dump)
    (hreason : projectedReason t.row result = .ok reason)
    (hpasses : reason = none ↔ PassesExactly t.input a) :
    (PassesExactly t.input a ∧ (∀ p ∈ a.prices, AtomicPrice p) →
      Written db r now (.candidate, some a.dump)) ∧
    (¬ (PassesExactly t.input a ∧ ∀ p ∈ a.prices, AtomicPrice p) →
      Written db r now (repairedApplication t.kind)) := by
  cases reason with
  | some reason =>
      have hnot : ¬ PassesExactly t.input a := fun hp => nomatch hpasses.mpr hp
      exact ⟨fun hp => absurd hp.1 hnot, fun _ => h.turnedDown hreason now⟩
  | none =>
      have hexactly : PassesExactly t.input a := hpasses.mp rfl
      obtain ⟨valid, hvalid, hatomic⟩ := actionPricePrecisionValid_iff hexactly.1
      rw [hkind, ← hcandidate] at hvalid
      have htaken := h.taken hreason hvalid now
      rw [hcandidate] at htaken
      constructor
      · rintro ⟨_, hall⟩
        rwa [if_pos (hatomic.mpr hall)] at htaken
      · intro hnot
        have hinvalid : ¬ valid = true := fun hb => hnot ⟨hexactly, hatomic.mp hb⟩
        rwa [if_neg hinvalid] at htaken

/-- **The database writes the application that Python derives exactly when every cast it
    reaches holds its count and rounding does not turn the verdict.** -/
theorem projections_agree_iff (sha256 : String → String) (db : ArenaDb) (t : ArenaAgentTaskV1)
    (r : AgentTaskResultV1) (result : ResultRow) (now : UtcDateTime)
    (hvalid : t.wireValid sha256 = true) (h : Awaiting db t r result) :
    Written db r now (derivedApplication t r) ↔
      ∀ a, r.action = some a → Castable t.input a ∧ RoundsAlike t.input a := by
  have hkind : t.input.kind = t.kind := by
    unfold ArenaAgentTaskV1.wireValid at hvalid
    simp only [Bool.and_eq_true, decide_eq_true_eq] at hvalid
    exact hvalid.1.1.1.1.1.2
  cases haction : r.action with
  | none =>
      obtain ⟨reason, hreason⟩ := h.noCandidate haction
      rw [derived_none haction]
      exact iff_of_true (h.turnedDown hreason now) (by simp)
  | some a =>
      have hcandidate : result.candidateAction = some a.dump := by
        rw [h.candidate, haction]
        rfl
      have hsucceeded : result.runtimeStatus = .succeeded := by
        rw [h.status, r.shape, haction]
        rfl
      have hrows : RowsOf t.row result t.input a := ⟨hkind.symm, rfl, hsucceeded, hcandidate⟩
      obtain ⟨hcasts, hraises⟩ := projected_verdict hvalid hrows
      obtain ⟨hoffered, hdefault⟩ := derived_some (t := t) haction
      have hone : (∀ b, some a = some b → Castable t.input b ∧ RoundsAlike t.input b) ↔
          Castable t.input a ∧ RoundsAlike t.input a := by simp
      have hne : (ApplicationOutcome.candidate, some a.dump) ≠ repairedApplication t.kind := by
        intro heq
        exact repaired_ne_candidate t.kind (congrArg Prod.fst heq).symm
      rw [hone]
      by_cases hcastable : Castable t.input a
      · obtain ⟨reason, hreason, hpasses⟩ := hcasts hcastable
        obtain ⟨htaken, hturned⟩ := h.written now hkind hcandidate hreason hpasses
        rw [and_iff_right hcastable, roundsAlike_iff, hkind]
        by_cases hpython : candidateViolation t.kind t.input a = some none
        · rw [hoffered hpython, iff_true_left hpython]
          refine ⟨fun hw => ?_, htaken⟩
          by_contra hnot
          exact hne (hw.unique (hturned hnot))
        · rw [hdefault hpython, iff_false_left hpython]
          exact ⟨fun hw hq => hne ((htaken hq).unique hw), hturned⟩
      · obtain ⟨e, hreason⟩ := hraises hcastable
        refine iff_of_false ?_ fun hboth => hcastable hboth.1
        rintro ⟨db', row, happly, _⟩
        rw [h.raises hreason now] at happly
        cases happly

namespace Overprecise

/-- A price with seven decimal places and more digits than Python's context. -/
def longPrice : PositiveFixedDecimal :=
  priceOfChars "1000000000000000000000.0000001".toList ⟨10000000000000000000000000001, -7⟩
    (by decide) (by decide)

def shortPrice : PositiveFixedDecimal :=
  priceOfChars "5.5".toList ⟨55, -1⟩ (by decide) (by decide)

def opening : PublicMessage where
  text := "deal?"
  minLength := by decide
  maxLength := by decide
  visible := by decide

/-- The first turn of a buyer without a limit. -/
def view : ArenaNegotiateInputV1 where
  gameId := "g1"
  roundId := "r1"
  roundIndex := 1
  negotiationId := "n1"
  role := .buyer
  good := "herb"
  quantity := 1
  cash := zeroCash
  inventoryAvailable := 0
  counterparty := { failedNegotiations := 0 }
  turnSequence := 1
  remainingTurns := 3
  deadlineAt := 60

def task : ArenaAgentTaskV1 where
  taskId := "t1"
  kind := .negotiate
  gameId := "g1"
  roundId := "r1"
  gameAgentId := "a1"
  negotiationId := some "n1"
  deadlineAt := 60
  idempotencyKey := "g1:r1:n1:1:a1:negotiate"
  inputHash := "sha256:0"
  input := .negotiate view

def proposal (price : PositiveFixedDecimal) : AgentTaskResultV1 where
  resultId := "runtime:0"
  taskId := "t1"
  status := .succeeded
  action := some (.propose price opening)
  shape := by simp

def resultRow (price : PositiveFixedDecimal) : ResultRow where
  taskId := "t1"
  runtimeStatus := .succeeded
  candidateAction := some (Action.propose price opening).dump
  resultHash := "sha256:1"
  resultReceivedAt := 10

/-- The proposal waits to be applied. -/
def db (price : PositiveFixedDecimal) : ArenaDb where
  tasks := [("t1", task.row)]
  results := [("runtime:0", resultRow price)]

theorem awaiting (price : PositiveFixedDecimal) :
    Awaiting (db price) task (proposal price) (resultRow price) :=
  ⟨rfl, rfl, rfl, rfl, rfl, rfl, rfl, by simp [db]⟩

end Overprecise

/-- Python applies the proposal with seven decimal places; the database writes the timeout. -/
theorem long_price_splits_projections :
    Overprecise.task.wireValid id = true ∧
    Awaiting (Overprecise.db Overprecise.longPrice) Overprecise.task
      (Overprecise.proposal Overprecise.longPrice) (Overprecise.resultRow Overprecise.longPrice) ∧
    (deriveApplication Overprecise.task (Overprecise.proposal Overprecise.longPrice)).outcome =
      .candidate ∧
    (((Overprecise.db Overprecise.longPrice).applyArenaAgentTaskResult "runtime:0"
      20).toOption.bind fun x => (x.1.applied.get "t1").map (·.applicationOutcome)) =
      some .negotiationTimeout ∧
    ¬ Written (Overprecise.db Overprecise.longPrice)
      (Overprecise.proposal Overprecise.longPrice) 20
      (derivedApplication Overprecise.task (Overprecise.proposal Overprecise.longPrice)) := by
  have hpython : (deriveApplication Overprecise.task
      (Overprecise.proposal Overprecise.longPrice)).outcome = .candidate := by decide
  have hsql : (((Overprecise.db Overprecise.longPrice).applyArenaAgentTaskResult "runtime:0"
      20).toOption.bind fun x => (x.1.applied.get "t1").map (·.applicationOutcome)) =
      some .negotiationTimeout := by decide
  refine ⟨by decide, Overprecise.awaiting _, hpython, hsql, ?_⟩
  rintro ⟨db', row, happly, hrow, heq⟩
  have houtcome : row.applicationOutcome = .candidate := (congrArg Prod.fst heq).trans hpython
  have happly' : (Overprecise.db Overprecise.longPrice).applyArenaAgentTaskResult "runtime:0" 20 =
    .ok (db', true) := happly
  have hrow' : db'.applied.get "t1" = some row := hrow
  rw [happly'] at hsql
  simp [Except.toOption, hrow', houtcome] at hsql

/-- A price of one decimal place: the database writes what Python derives. -/
theorem projections_agree_short_price :
    Overprecise.task.wireValid id = true ∧
    Awaiting (Overprecise.db Overprecise.shortPrice) Overprecise.task
      (Overprecise.proposal Overprecise.shortPrice) (Overprecise.resultRow Overprecise.shortPrice) ∧
    Written (Overprecise.db Overprecise.shortPrice) (Overprecise.proposal Overprecise.shortPrice) 20
      (derivedApplication Overprecise.task (Overprecise.proposal Overprecise.shortPrice)) := by
  have hvalid : Overprecise.task.wireValid id = true := by decide
  have hatomic : AtomicPrice Overprecise.shortPrice := by
    refine ⟨5500000, ?_⟩
    show ((55 : Nat) : ℚ) * 10 ^ (-1 : Int) * 10 ^ 6 = _
    norm_num
  refine ⟨hvalid, Overprecise.awaiting _, ?_⟩
  refine (projections_agree_iff id _ _ _ _ 20 hvalid (Overprecise.awaiting _)).mpr ?_
  intro a ha
  obtain rfl := Option.some.inj ha
  refine ⟨⟨by decide, by decide⟩, fun _ => Or.inl ⟨?_, ?_⟩⟩
  · intro p hp
    obtain rfl := List.mem_singleton.mp hp
    exact hatomic
  · intro c hc
    cases hc

end Arena402
