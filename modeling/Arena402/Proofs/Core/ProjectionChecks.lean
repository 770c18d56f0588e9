/-
What the database checks of a candidate, and what Python checks.

Both read the same task and candidate.  They make the same checks, but not with the same
numbers: Python rounds a product to 28 digits, while a wire price may have 38, and the
database casts counts to `INTEGER` or `BIGINT`, while the wire bounds no count.
`PassesOtherwise` is what the checks have in common and `Castable` says that no cast that is
reached raises.
-/
import Mathlib
import Arena402.Core.ApplyTaskResult
import Arena402.Proofs.Core.Prices
import Arena402.Proofs.Lib.Sql

namespace Arena402

open Py Sql Jsonb
open Value (nat opt ofAmount ofPrice ofDecimal ofGoods ofText listOf optEntry)

/-! ### Reading a dump -/

theorem lookup_obj (entries : List (String × Value)) (key : String) :
    (entries.map fun e => (Key.text e.1, e.2)).lookup (.text key) = entries.lookup key := by
  induction entries with
  | nil => rfl
  | cons e rest ih =>
      by_cases h : key = e.1
      · subst h
        simp [List.lookup]
      · have htext : (Key.text key == Key.text e.1) = false := by simp [h]
        have hkey : (key == e.1) = false := by simp [h]
        simp [List.lookup, htext, hkey, ih]

@[simp] theorem field_obj (entries : List (String × Value)) (key : String) :
    field (some (.obj entries)) (some key) = entries.lookup key :=
  lookup_obj entries key

@[simp] theorem hasKey_obj (entries : List (String × Value)) (key : String) :
    hasKey (some (.obj entries)) key = some (entries.lookup key).isSome := by
  show some ((entries.map fun e => (Key.text e.1, e.2)).lookup (.text key)).isSome = _
  rw [lookup_obj]

@[simp] theorem scalarText_str (s : String) : scalarText (some (.str s)) = some s := rfl

@[simp] theorem scalarText_nat (n : Nat) : scalarText (some (nat n)) = some (toString (n : Int)) := rfl

@[simp] theorem scalarText_null : scalarText (some .none) = none := rfl

@[simp] theorem scalarText_none : scalarText none = none := rfl

theorem lookup_map {α : Type} (f : α → Value) (entries : List (String × α)) (key : String) :
    (entries.map fun e => (e.1, f e.2)).lookup key = (entries.lookup key).map f := by
  induction entries with
  | nil => rfl
  | cons e rest ih =>
      by_cases h : key = e.1
      · subst h
        simp [List.lookup]
      · have hkey : (key == e.1) = false := by simp [h]
        simp [List.lookup, hkey, ih]

/-- A wire decimal, cast from its text. -/
theorem toNumeric_serialize {d : Decimal} (hwire : ∃ text, parseFixedDecimal text = .ok d) :
    toNumeric (some (serializeFixedDecimal d)) = .ok (some (.ofDecimal false d)) := by
  obtain ⟨text, htext⟩ := hwire
  exact toNumeric_formatF (parseFixedDecimal_exp htext).2

@[simp] theorem lt_ofDecimal (a b : Decimal) :
    Numeric.lt (.ofDecimal false a) (.ofDecimal false b) = a.lt b := by
  rw [Bool.eq_iff_iff, Numeric.lt_iff, Decimal.lt_iff, Numeric.val_ofDecimal, Numeric.val_ofDecimal]

/-! ### Orders -/

section Order

variable (name : String) (o : Order)

@[simp] theorem text_order_action : text (some (o.dump name)) "action" = some name := by
  simp [text, Order.dump]

@[simp] theorem text_order_good : text (some (o.dump name)) "good" = some o.good := by
  simp [text, Order.dump, List.lookup]

@[simp] theorem text_order_quantity : text (some (o.dump name)) "quantity" = none := by
  obtain ⟨good, limitPrice, publicPrice, message⟩ := o
  cases limitPrice <;> cases publicPrice <;> cases message <;>
    simp [text, Order.dump, optEntry, List.lookup]

@[simp] theorem text_order_limitPrice : text (some (o.dump name)) "limitPrice" =
    o.limitPrice.map fun p => serializeFixedDecimal p.value := by
  obtain ⟨good, limitPrice, publicPrice, message⟩ := o
  cases limitPrice <;> cases publicPrice <;> cases message <;>
    simp [text, Order.dump, optEntry, List.lookup, ofPrice, ofDecimal]

@[simp] theorem text_order_publicPrice : text (some (o.dump name)) "publicPrice" =
    o.publicPrice.map fun p => serializeFixedDecimal p.value := by
  obtain ⟨good, limitPrice, publicPrice, message⟩ := o
  cases limitPrice <;> cases publicPrice <;> cases message <;>
    simp [text, Order.dump, optEntry, List.lookup, ofPrice, ofDecimal]

@[simp] theorem hasKey_order_publicPrice :
    hasKey (some (o.dump name)) "publicPrice" = some o.publicPrice.isSome := by
  obtain ⟨good, limitPrice, publicPrice, message⟩ := o
  cases limitPrice <;> cases publicPrice <;> cases message <;>
    simp [Order.dump, optEntry, List.lookup]

@[simp] theorem hasKey_order_message :
    hasKey (some (o.dump name)) "message" = some o.message.isSome := by
  obtain ⟨good, limitPrice, publicPrice, message⟩ := o
  cases limitPrice <;> cases publicPrice <;> cases message <;>
    simp [Order.dump, optEntry, List.lookup]

end Order

/-! ### Portfolios -/

/-- The snapshot has the portfolio and the limits of a view. -/
structure ReadsAs (input : Option Value) (v : ArenaDecideInputV1) : Prop where
  cash : field input (some "cash") = some (ofAmount v.cash)
  holdings : field input (some "holdings") = some (ofGoods nat v.holdings)
  limits : field input (some "limits") = some v.limits.dump

theorem readsAs_decide (v : ArenaDecideInputV1) : ReadsAs (some v.dump) v := by
  constructor <;>
    simp [ArenaDecideInputV1.dump, ArenaDecideInputV1.entries, roundEntries, List.lookup]

theorem readsAs_marketIntent (v : ArenaMarketIntentInputV1) :
    ReadsAs (some v.dump) v.toArenaDecideInputV1 := by
  constructor <;>
    simp [ArenaMarketIntentInputV1.dump, ArenaDecideInputV1.entries, roundEntries, List.lookup]

section Portfolio

variable {input : Option Value} {v : ArenaDecideInputV1}

theorem wire_injective {a b : AllowedDecideAction} (h : a.wire = b.wire) : a = b := by
  cases a <;> cases b <;> first | rfl | exact absurd h (by decide)

/-- The texts of different values are looked up as the values are. -/
theorem containsText_listOf {α : Type} [BEq α] [LawfulBEq α] {f : α → String}
    (hinjective : Function.Injective f) {values : List α} {a : α} :
    containsText (some (listOf (fun a => .str (f a)) values)) (some (f a)) =
      some (values.contains a) := by
  show some ((values.map _).any _) = _
  rw [List.any_map, Option.some.injEq, Bool.eq_iff_iff]
  simp only [List.any_eq_true, Function.comp_apply, decide_eq_true_eq, Option.some.injEq,
    List.contains_iff_mem]
  constructor
  · rintro ⟨b, hb, heq⟩
    rwa [hinjective heq]
  · intro ha
    exact ⟨a, ha, rfl⟩

theorem actionNotAllowed_eq (h : ReadsAs input v) (a : AllowedDecideAction) :
    actionNotAllowed input (some a.wire) = some !(v.limits.allowedActions.contains a) := by
  have hpath : path input [some "limits", some "allowedActions"] =
      some (listOf (fun a => .str a.wire) v.limits.allowedActions) := by
    simp [path, h.limits, ArenaDecideLimitsV1.dump, List.lookup]
  unfold actionNotAllowed
  dsimp only
  rw [hpath, containsText_listOf (fun _ _ h => wire_injective h)]
  rfl

theorem goodNotAllowed_eq (h : ReadsAs input v) (good : String) :
    goodNotAllowed input (some good) =
      .ok (some (!v.limits.allowedGoods.isEmpty && !v.limits.allowedGoods.contains good)) := by
  have hpath : path input [some "limits", some "allowedGoods"] =
      some (listOf .str v.limits.allowedGoods) := by
    simp [path, h.limits, ArenaDecideLimitsV1.dump, List.lookup]
  have hany : containsText (some (listOf .str v.limits.allowedGoods)) (some good) =
      some (v.limits.allowedGoods.contains good) := containsText_listOf (fun _ _ h => h)
  have hlength : Jsonb.length (some (listOf .str v.limits.allowedGoods)) =
      .ok (some (v.limits.allowedGoods.length : Int)) := by
    show Except.ok (some ((v.limits.allowedGoods.map _).length : Int)) = _
    rw [List.length_map]
  have hempty : decide ((0 : Int) < v.limits.allowedGoods.length) =
      !v.limits.allowedGoods.isEmpty := by
    cases v.limits.allowedGoods with
    | nil => rfl
    | cons g rest => simp
  unfold goodNotAllowed
  dsimp only
  rw [hpath]
  simp only [isNull_some, Truth.false_orElse, show typeOf (some (listOf .str v.limits.allowedGoods)) =
    some "array" from rfl, equals_some, decide_true, Truth.true_andThen, hlength, hany]
  show Except.ok _ = _
  simp only [less_some, Truth.not_some, Truth.and_some, hempty]

theorem holdingsBelow_eq (h : ReadsAs input v) (good : String) (quantity : Int) :
    holdingsBelow input (some good) quantity =
      if v.held good < 2 ^ 63 then .ok (some (decide ((v.held good : Int) < quantity)))
      else .error .numericValueOutOfRange := by
  have hpath : pathText input [some "holdings", some good] =
      (v.holdings.lookup good).map fun n : Nat => toString (n : Int) := by
    simp only [pathText, path, List.foldl_cons, List.foldl_nil, h.holdings, ofGoods, field_obj]
    rw [lookup_map]
    cases v.holdings.lookup good <;> rfl
  unfold holdingsBelow
  rw [hpath]
  unfold ArenaDecideInputV1.held
  cases v.holdings.lookup good with
  | none => rfl
  | some n =>
      rw [Option.map_some, toBigint_toString, Option.getD_some]
      split_ifs with hfits
      · rfl
      · rfl

theorem costsMore_eq (h : ReadsAs input v) (p : Decimal) :
    costsMore input (some (.ofDecimal false p)) orderQuantity =
      .ok (some (v.cash.value.lt p)) := by
  have hcash : text input "cash" = some (serializeFixedDecimal v.cash.value) := by
    rw [text, h.cash]
    rfl
  unfold costsMore
  rw [hcash, toNumeric_serialize v.cash.wire]
  show Except.ok (some (Numeric.lt _ _)) = _
  congr 2
  rw [Bool.eq_iff_iff, Numeric.lt_iff, Decimal.lt_iff]
  simp [orderQuantity]

end Portfolio

/-! ### The two verdicts -/

/-- The price is a whole number of atomic units. -/
def AtomicPrice (p : PositiveFixedDecimal) : Prop :=
  ∃ n : Nat, p.value.val * 10 ^ 6 = n

/-- A buyer's limit price and cash. -/
def purchase : TaskInput → Action → Option (PositiveFixedDecimal × NonNegativeFixedDecimal)
  | .decide v, .buy o => o.limitPrice.map (·, v.cash)
  | .marketIntent v, .buy o => o.limitPrice.map (·, v.cash)
  | _, _ => none

/-- The cost of an order as Python has it. -/
def roundedCost (p : PositiveFixedDecimal) : Decimal :=
  Decimal.mul defaultPrecision p.value (Decimal.ofNat orderQuantity)

/-- The action and the good of an order are among the allowed ones. -/
def orderAllowed (l : ArenaDecideLimitsV1) (side : Side) (o : Order) : Prop :=
  side.allowed ∈ l.allowedActions ∧ (l.allowedGoods = [] ∨ o.good ∈ l.allowedGoods)

/-- The candidate passes the checks that no rounding enters. -/
def PassesOtherwise : TaskInput → Action → Prop
  | .decide v, .buy o => orderAllowed v.limits .buy o ∧ o.publicPrice = none ∧ o.message = none
  | .decide v, .sell o => orderAllowed v.limits .sell o ∧ o.publicPrice = none ∧ o.message = none ∧
      o.quantity ≤ v.held o.good
  | .decide v, .pass => .pass ∈ v.limits.allowedActions
  | .negotiate v, .propose price _ => 1 < v.remainingTurns ∧
      ∀ limit, v.limitPrice = some limit → crossesLimit v.role price.value limit.value = false
  | .negotiate v, .accept => v.turnSequence ≠ 1 ∧ ∃ quote, v.latestCounterpartyQuote = some quote ∧
      ∀ limit, v.limitPrice = some limit → crossesLimit v.role quote.price.value limit.value = false
  | .negotiate v, .reject _ => v.turnSequence ≠ 1
  | .marketIntent v, .buy o => orderAllowed v.limits .buy o ∧ ∃ publicPrice limitPrice,
      o.publicPrice = some publicPrice ∧ o.limitPrice = some limitPrice ∧
      limitPrice.value.lt publicPrice.value = false
  | .marketIntent v, .sell o => orderAllowed v.limits .sell o ∧ (∃ publicPrice limitPrice,
      o.publicPrice = some publicPrice ∧ o.limitPrice = some limitPrice ∧
      publicPrice.value.lt limitPrice.value = false) ∧ o.quantity ≤ v.held o.good
  | .marketIntent v, .pass => .pass ∈ v.limits.allowedActions
  | .marketRfq v, .requestNegotiations l => l.requests.length ≤ v.maxOutboundRfq ∧
      ∀ request ∈ l.requests, request.targetIntentId ∈ v.directory.map (·.intentId) ∧
        v.limitPrice.value.lt request.openingPrice.value = false
  | .marketRfq _, .pass => True
  | .marketSelect v, .engage requestId =>
      requestId ∈ v.requests.map (·.requestId) ∧ v.quantity ≤ v.inventoryAvailable
  | .marketSelect _, .rejectAll _ => True
  | _, _ => False

/-- Every cast of a count that the database reaches holds the count. -/
def Castable : TaskInput → Action → Prop
  | .decide v, .sell o => orderAllowed v.limits .sell o → o.publicPrice = none → o.message = none →
      v.held o.good < 2 ^ 63
  | .marketIntent v, .sell o => orderAllowed v.limits .sell o → ∀ publicPrice limitPrice,
      o.publicPrice = some publicPrice → o.limitPrice = some limitPrice →
      publicPrice.value.lt limitPrice.value = false → v.held o.good < 2 ^ 63
  | .negotiate v, .propose .. => v.remainingTurns < 2 ^ 31 ∧ v.turnSequence < 2 ^ 31
  | .negotiate v, .accept => v.remainingTurns < 2 ^ 31 ∧ v.turnSequence < 2 ^ 31
  | .negotiate v, .reject _ => v.remainingTurns < 2 ^ 31 ∧ v.turnSequence < 2 ^ 31
  | .negotiate v, _ => v.remainingTurns < 2 ^ 31
  | .marketSelect v, .engage requestId =>
      requestId ∈ v.requests.map (·.requestId) → v.inventoryAvailable < 2 ^ 63
  | _, _ => True

/-- A check that finds nothing, and nothing after it. -/
theorem branch_eq_none_iff {α : Type} {c : Prop} [Decidable c] {x : α} {rest : Option α} :
    (if c then some x else rest) = none ↔ ¬ c ∧ rest = none := by
  by_cases h : c
  · simp [h]
  · simp [h]

theorem any_eq_false_iff {α : Type} {p : α → Bool} {x : Option α} :
    x.any p = false ↔ ∀ a, x = some a → p a = false := by
  cases x <;> simp

theorem goods_iff {goods : List String} {good : String} :
    ¬ (!goods.isEmpty && !goods.contains good) = true ↔ goods = [] ∨ good ∈ goods := by
  simp [or_iff_not_imp_left]

theorem decideOrderViolation_none_iff {v : ArenaDecideInputV1} {side : Side} {o : Order} :
    decideOrderViolation v side o = none ↔
      orderAllowed v.limits side o ∧ (o.publicPrice = none ∧ o.message = none) ∧
      (∀ p, o.limitPrice = some p → hasArenaMoneyPrecision p.value = true) ∧
      (side = .sell → o.quantity ≤ v.held o.good) ∧
      (side = .buy → ∀ p, o.limitPrice = some p → v.cash.value.lt (roundedCost p) = false) := by
  have hcost : ∀ p, orderCost o p = roundedCost p := fun _ => rfl
  unfold decideOrderViolation orderAllowed
  simp only [branch_eq_none_iff, goods_iff, hcost, and_true]
  simp [any_eq_false_iff]
  tauto

theorem marketIntentOrderViolation_none_iff {v : ArenaMarketIntentInputV1} {side : Side}
    {o : Order} : marketIntentOrderViolation v side o = none ↔
      orderAllowed v.limits side o ∧ ∃ publicPrice limitPrice,
        (o.publicPrice = some publicPrice ∧ o.limitPrice = some limitPrice) ∧
        (hasArenaMoneyPrecision publicPrice.value = true ∧
          hasArenaMoneyPrecision limitPrice.value = true) ∧
        match side with
        | .buy => limitPrice.value.lt publicPrice.value = false ∧
            v.cash.value.lt (roundedCost limitPrice) = false
        | .sell => publicPrice.value.lt limitPrice.value = false ∧ o.quantity ≤ v.held o.good := by
  have hcost : ∀ p, orderCost o p = roundedCost p := fun _ => rfl
  obtain ⟨good, limitPrice, publicPrice, message⟩ := o
  unfold marketIntentOrderViolation orderAllowed
  rw [branch_eq_none_iff, branch_eq_none_iff, goods_iff]
  cases publicPrice with
  | none => simp
  | some publicPrice =>
      cases limitPrice with
      | none => simp
      | some limitPrice =>
          cases side <;> simp [branch_eq_none_iff, hcost, and_assoc]

theorem marketRfqViolation_none_iff {v : ArenaMarketRfqInputV1} {l : RequestList} :
    marketRfqViolation v l = none ↔ l.requests.length ≤ v.maxOutboundRfq ∧
      (∀ r ∈ l.requests, r.targetIntentId ∈ v.directory.map (·.intentId) ∧
        v.limitPrice.value.lt r.openingPrice.value = false) ∧
      ∀ r ∈ l.requests, hasArenaMoneyPrecision r.openingPrice.value = true := by
  have hloop : ∀ requests : List NegotiationRequestCandidateV1,
      rfqRequestsViolation v requests = none ↔
        (∀ r ∈ requests, r.targetIntentId ∈ v.directory.map (·.intentId) ∧
          v.limitPrice.value.lt r.openingPrice.value = false) ∧
        ∀ r ∈ requests, hasArenaMoneyPrecision r.openingPrice.value = true := by
    intro requests
    induction requests with
    | nil => simp [rfqRequestsViolation]
    | cons request rest ih =>
        unfold rfqRequestsViolation
        rw [branch_eq_none_iff, branch_eq_none_iff, branch_eq_none_iff, ih]
        simp only [List.forall_mem_cons]
        simp
        tauto
  unfold marketRfqViolation
  rw [branch_eq_none_iff, hloop, not_lt]

theorem marketSelectViolation_none_iff {v : ArenaMarketSelectInputV1} {requestId : String} :
    marketSelectViolation v requestId = none ↔
      requestId ∈ v.requests.map (·.requestId) ∧ v.quantity ≤ v.inventoryAvailable := by
  unfold marketSelectViolation
  rw [branch_eq_none_iff, branch_eq_none_iff, not_lt]
  simp

theorem proposalViolation_none_iff {v : ArenaNegotiateInputV1} {price : PositiveFixedDecimal}
    {message : PublicMessage} : negotiationViolation v (.propose price message) = none ↔
      (1 < v.remainingTurns ∧
        ∀ limit, v.limitPrice = some limit → crossesLimit v.role price.value limit.value = false) ∧
      hasArenaMoneyPrecision price.value = true := by
  unfold negotiationViolation
  rw [branch_eq_none_iff, branch_eq_none_iff, branch_eq_none_iff, not_le]
  simp [any_eq_false_iff]
  tauto

theorem acceptanceViolation_none_iff {v : ArenaNegotiateInputV1} :
    negotiationViolation v .accept = none ↔ v.turnSequence ≠ 1 ∧ ∃ quote,
      v.latestCounterpartyQuote = some quote ∧ ∀ limit, v.limitPrice = some limit →
        crossesLimit v.role quote.price.value limit.value = false := by
  unfold negotiationViolation
  rw [branch_eq_none_iff]
  cases v.latestCounterpartyQuote with
  | none => simp
  | some quote => simp [any_eq_false_iff]

/-- Python takes a candidate that passes the other checks, whose prices seem precise and whose
    rounded cost the cash covers. -/
theorem candidateViolation_none_iff (input : TaskInput) (a : Action) :
    candidateViolation input.kind input a = some none ↔
      PassesOtherwise input a ∧ (∀ p ∈ a.prices, hasArenaMoneyPrecision p.value = true) ∧
        ∀ c, purchase input a = some c → c.2.value.lt (roundedCost c.1) = false := by
  cases input with
  | decide v =>
      cases a with
      | buy _ | sell _ =>
          simp only [candidateViolation, TaskInput.kind, Option.some.injEq,
            decideOrderViolation_none_iff, PassesOtherwise, purchase, Action.prices, Order.prices]
          simp
          grind
      | pass =>
          simp [candidateViolation, TaskInput.kind, PassesOtherwise, passViolation, purchase,
            Action.prices]
      | _ => simp [candidateViolation, TaskInput.kind, PassesOtherwise]
  | negotiate v =>
      cases a with
      | propose price message =>
          simp [candidateViolation, TaskInput.kind, PassesOtherwise, proposalViolation_none_iff,
            purchase, Action.prices]
      | accept =>
          simp [candidateViolation, TaskInput.kind, PassesOtherwise, acceptanceViolation_none_iff,
            purchase, Action.prices]
      | reject message =>
          simp [candidateViolation, TaskInput.kind, PassesOtherwise, negotiationViolation,
            purchase, Action.prices]
      | _ => simp [candidateViolation, TaskInput.kind, PassesOtherwise]
  | marketIntent v =>
      cases a with
      | buy _ | sell _ =>
          simp only [candidateViolation, TaskInput.kind, Option.some.injEq,
            marketIntentOrderViolation_none_iff, PassesOtherwise, purchase, Action.prices,
            Order.prices]
          simp
          grind
      | pass =>
          simp [candidateViolation, TaskInput.kind, PassesOtherwise, passViolation, purchase,
            Action.prices]
      | _ => simp [candidateViolation, TaskInput.kind, PassesOtherwise]
  | marketRfq v =>
      cases a with
      | requestNegotiations l =>
          simp [candidateViolation, TaskInput.kind, PassesOtherwise, marketRfqViolation_none_iff,
            purchase, Action.prices, and_assoc]
      | pass => simp [candidateViolation, TaskInput.kind, PassesOtherwise, purchase, Action.prices]
      | _ => simp [candidateViolation, TaskInput.kind, PassesOtherwise]
  | marketSelect v =>
      cases a with
      | engage requestId =>
          simp [candidateViolation, TaskInput.kind, PassesOtherwise,
            marketSelectViolation_none_iff, purchase, Action.prices]
      | rejectAll message =>
          simp [candidateViolation, TaskInput.kind, PassesOtherwise, purchase, Action.prices]
      | _ => simp [candidateViolation, TaskInput.kind, PassesOtherwise]

/-! ### What the database reads -/

@[simp] theorem text_action_name (a : Action) : text (some a.dump) "action" = some a.name := by
  cases a with
  | buy o => exact text_order_action "buy" o
  | sell o => exact text_order_action "sell" o
  | _ => simp [text, Action.dump, Action.name]

theorem candidateQuantity_eq (a : Action) :
    candidateQuantity (some a.dump) = .ok (orderQuantity : Int) := by
  have htext : text (some a.dump) "quantity" = none := by
    cases a with
    | buy o => exact text_order_quantity "buy" o
    | sell o => exact text_order_quantity "sell" o
    | _ => simp [text, Action.dump, List.lookup]
  unfold candidateQuantity
  rw [htext]
  rfl

theorem toNumeric_price (p : Option PositiveFixedDecimal) :
    toNumeric (p.map fun p => serializeFixedDecimal p.value) =
      .ok (p.map fun p => .ofDecimal false p.value) := by
  cases p with
  | none => rfl
  | some p => exact toNumeric_serialize p.wire

/-- The order checks of a decide task, in the database. -/
theorem decideReason_order {input : Option Value} {v : ArenaDecideInputV1} (h : ReadsAs input v)
    (side : Side) (o : Order) :
    decideReason input (some (o.dump side.allowed.wire)) orderQuantity =
      if !v.limits.allowedActions.contains side.allowed then .ok (some "action_not_allowed")
      else if !v.limits.allowedGoods.isEmpty && !v.limits.allowedGoods.contains o.good then
        .ok (some "good_not_allowed")
      else
        match side with
        | .sell =>
          if v.held o.good < 2 ^ 63 then
            if v.held o.good < orderQuantity then .ok (some "insufficient_inventory") else .ok none
          else .error .numericValueOutOfRange
        | .buy =>
          if o.limitPrice.any fun p => v.cash.value.lt p.value then .ok (some "insufficient_cash")
          else .ok none := by
  unfold decideReason
  cases side with
  | buy =>
      have hname : actionNotAllowed input (some "buy") = _ := actionNotAllowed_eq h .buy
      cases hlimit : o.limitPrice with
      | none =>
          simp [Side.allowed, AllowedDecideAction.wire, hname, goodNotAllowed_eq h, hlimit]
      | some p =>
          simp [Side.allowed, AllowedDecideAction.wire, hname, goodNotAllowed_eq h, hlimit,
              toNumeric_serialize p.wire, costsMore_eq h]
  | sell =>
      have hname : actionNotAllowed input (some "sell") = _ := actionNotAllowed_eq h .sell
      simp [Side.allowed, AllowedDecideAction.wire, hname, goodNotAllowed_eq h, holdingsBelow_eq h]

/-- The order checks of a market intent, in the database. -/
theorem marketIntentReason_order {input : Option Value} {v : ArenaDecideInputV1}
    (h : ReadsAs input v) (side : Side) (o : Order) :
    marketIntentReason input (some (o.dump side.allowed.wire)) orderQuantity =
      if !v.limits.allowedActions.contains side.allowed then .ok (some "action_not_allowed")
      else if !v.limits.allowedGoods.isEmpty && !v.limits.allowedGoods.contains o.good then
        .ok (some "good_not_allowed")
      else
        match o.publicPrice, o.limitPrice with
        | some publicPrice, some limitPrice =>
          match side with
          | .sell =>
            if publicPrice.value.lt limitPrice.value then
              .ok (some "market_price_boundary_violation")
            else if v.held o.good < 2 ^ 63 then
              if v.held o.good < orderQuantity then .ok (some "insufficient_inventory")
              else .ok none
            else .error .numericValueOutOfRange
          | .buy =>
            if limitPrice.value.lt publicPrice.value then
              .ok (some "market_price_boundary_violation")
            else if v.cash.value.lt limitPrice.value then .ok (some "insufficient_cash")
            else .ok none
        | _, _ => .ok (some "market_price_required") := by
  have hkind : notIn (some side.allowed.wire) ["buy", "sell", "pass"] = some false := by
    cases side <;> rfl
  have hpass : differs (some side.allowed.wire) (some "pass") = some true := by
    cases side <;> rfl
  unfold marketIntentReason
  simp only [text_order_action, text_order_good, isNull_some, hkind, hpass, Truth.or_some,
    Bool.or_self, firstBranch_ok, Bool.false_eq_true, if_false, actionNotAllowed_eq h side.allowed,
    Truth.true_andThen, goodNotAllowed_eq h, text_order_publicPrice, text_order_limitPrice]
  by_cases hallowed : (!v.limits.allowedActions.contains side.allowed) = true
  · rw [if_pos hallowed, if_pos hallowed]
    rfl
  · rw [if_neg hallowed, if_neg hallowed]
    by_cases hgood :
        (!v.limits.allowedGoods.isEmpty && !v.limits.allowedGoods.contains o.good) = true
    · rw [if_pos hgood, if_pos hgood]
      rfl
    · rw [if_neg hgood, if_neg hgood]
      cases o.publicPrice with
      | none => rfl
      | some publicPrice =>
          cases o.limitPrice with
          | none => rfl
          | some limitPrice =>
              have hprice : ∀ p : PositiveFixedDecimal,
                  toNumeric (some (serializeFixedDecimal p.value)) = _ :=
                fun p => toNumeric_serialize p.wire
              cases side with
              | buy => simp [Side.allowed, AllowedDecideAction.wire, hprice, costsMore_eq h]
              | sell => simp [Side.allowed, AllowedDecideAction.wire, hprice, holdingsBelow_eq h]

/-- A pass, in the database. -/
theorem decideReason_pass {input : Option Value} {v : ArenaDecideInputV1} (h : ReadsAs input v)
    (quantity : Int) :
    decideReason input (some Action.pass.dump) quantity =
      if !v.limits.allowedActions.contains .pass then .ok (some "action_not_allowed")
      else .ok none := by
  have hname : actionNotAllowed input (some "pass") = _ := actionNotAllowed_eq h .pass
  unfold decideReason
  simp [Action.name, hname]

theorem marketIntentReason_pass {input : Option Value} {v : ArenaDecideInputV1}
    (h : ReadsAs input v) (quantity : Int) :
    marketIntentReason input (some Action.pass.dump) quantity =
      if !v.limits.allowedActions.contains .pass then .ok (some "action_not_allowed")
      else .ok none := by
  have hname : actionNotAllowed input (some "pass") = _ := actionNotAllowed_eq h .pass
  unfold marketIntentReason
  generalize v.limits.allowedActions.contains .pass = allowed at hname
  cases allowed <;> simp [Action.name, hname]

section Negotiate

variable (v : ArenaNegotiateInputV1)

theorem text_negotiate_limitPrice : text (some v.dump) "limitPrice" =
    v.limitPrice.map fun p => serializeFixedDecimal p.value := by
  cases h : v.limitPrice <;>
    simp [text, ArenaNegotiateInputV1.dump, roundEntries, List.lookup, h, opt, ofPrice, ofDecimal]

theorem text_negotiate_role : text (some v.dump) "role" = some v.role.wire := by
  simp [text, ArenaNegotiateInputV1.dump, roundEntries, List.lookup]

theorem text_negotiate_remainingTurns :
    text (some v.dump) "remainingTurns" = some (toString (v.remainingTurns : Int)) := by
  simp [text, ArenaNegotiateInputV1.dump, roundEntries, List.lookup]

theorem text_negotiate_turnSequence :
    text (some v.dump) "turnSequence" = some (toString (v.turnSequence : Int)) := by
  simp [text, ArenaNegotiateInputV1.dump, roundEntries, List.lookup]

theorem pathText_negotiate_quote :
    pathText (some v.dump) [some "latestCounterpartyQuote", some "price"] =
      v.latestCounterpartyQuote.map fun q => serializeFixedDecimal q.price.value := by
  have hfield : field (some v.dump) (some "latestCounterpartyQuote") =
      some (opt ArenaCounterpartyQuoteV1.dump v.latestCounterpartyQuote) := by
    simp [ArenaNegotiateInputV1.dump, roundEntries, List.lookup]
  simp only [pathText, path, List.foldl_cons, List.foldl_nil, hfield]
  cases v.latestCounterpartyQuote with
  | none => rfl
  | some q =>
      simp [opt, ArenaCounterpartyQuoteV1.dump, List.lookup, ofPrice, ofDecimal]

theorem pastLimit_wire (role : Role) (price limit : Decimal) :
    pastLimit (some role.wire) (some (.ofDecimal false price)) (some (.ofDecimal false limit)) =
      some (crossesLimit role price limit) := by
  cases role <;> simp [pastLimit, Role.wire, crossesLimit]

theorem toNumeric_quote :
    toNumeric (v.latestCounterpartyQuote.map fun q => serializeFixedDecimal q.price.value) =
      .ok (v.latestCounterpartyQuote.map fun q => .ofDecimal false q.price.value) := by
  cases v.latestCounterpartyQuote with
  | none => rfl
  | some q => exact toNumeric_serialize q.price.wire

theorem text_price_none {a : Action} (h : ∀ price message, a ≠ .propose price message) :
    text (some a.dump) "price" = none := by
  cases a with
  | propose price message => exact absurd rfl (h price message)
  | buy o | sell o =>
    obtain ⟨good, limitPrice, publicPrice, message⟩ := o
    cases limitPrice <;> cases publicPrice <;> cases message <;>
      simp [text, Action.dump, Order.dump, optEntry, List.lookup]
  | _ => simp [text, Action.dump, List.lookup]

/-- The branches of a negotiation, once the snapshot has been read. -/
theorem negotiateReason_read {a : Action} {price : Option Numeric}
    (hprice : toNumeric (text (some a.dump) "price") = .ok price) :
    negotiateReason (some v.dump) (some a.dump) =
      if v.remainingTurns < 2 ^ 31 then
        firstBranch
          [(.ok (notIn (some a.name) ["propose", "accept", "reject"]), "action_kind_mismatch"),
            (if v.turnSequence < 2 ^ 31 then
                .ok (some (decide (v.turnSequence = 1) && !decide (a.name = "propose")))
              else .error .numericValueOutOfRange, "buyer_opening_proposal_required"),
            (.ok (some (decide (a.name = "accept") && v.latestCounterpartyQuote.isNone)),
              "counterparty_proposal_required"),
            (.ok (some (decide (v.remainingTurns ≤ 1) && decide (a.name = "propose"))),
              "final_turn_must_close"),
            (.ok ((isNull v.limitPrice).not.and
                (((equals (some a.name) (some "propose")).and (pastLimit (some v.role.wire) price
                    (v.limitPrice.map fun p => .ofDecimal false p.value))).or
                  ((equals (some a.name) (some "accept")).and
                    ((isNull v.latestCounterpartyQuote).not.and (pastLimit (some v.role.wire)
                      (v.latestCounterpartyQuote.map fun q => .ofDecimal false q.price.value)
                      (v.limitPrice.map fun p => .ofDecimal false p.value)))))),
              "limit_price_violation")]
      else .error .numericValueOutOfRange := by
  have hnull : ∀ {α β : Type} (f : α → β) (x : Option α), isNull (x.map f) = isNull x := by
    intro α β f x
    cases x <;> rfl
  unfold negotiateReason
  simp only [text_negotiate_limitPrice, text_negotiate_role, text_negotiate_remainingTurns,
    text_negotiate_turnSequence, pathText_negotiate_quote, hprice, toNumeric_price, toNumeric_quote,
    ok_bind, text_action_name, toInteger_toString, hnull]
  by_cases hremaining : v.remainingTurns < 2 ^ 31
  · rw [if_pos hremaining, if_pos hremaining, ok_bind]
    by_cases hsequence : v.turnSequence < 2 ^ 31
    · rw [if_pos hsequence, if_pos hsequence]
      simp [isNull]
    · rw [if_neg hsequence, if_neg hsequence]
      simp [isNull]
  · rw [if_neg hremaining, if_neg hremaining, error_bind]

theorem negotiateReason_propose (price : PositiveFixedDecimal) (message : PublicMessage) :
    negotiateReason (some v.dump) (some (Action.propose price message).dump) =
      if v.remainingTurns < 2 ^ 31 then
        if v.turnSequence < 2 ^ 31 then
          if v.remainingTurns ≤ 1 then .ok (some "final_turn_must_close")
          else if v.limitPrice.any fun limit => crossesLimit v.role price.value limit.value then
            .ok (some "limit_price_violation")
          else .ok none
        else .error .numericValueOutOfRange
      else .error .numericValueOutOfRange := by
  have hprice : text (some (Action.propose price message).dump) "price" =
      some (serializeFixedDecimal price.value) := by
    simp [text, Action.dump, List.lookup, ofPrice, ofDecimal]
  rw [negotiateReason_read v (hprice ▸ toNumeric_serialize price.wire)]
  cases v.limitPrice with
  | none => simp [Action.name]
  | some limit => simp [Action.name, pastLimit_wire]

theorem negotiateReason_accept :
    negotiateReason (some v.dump) (some Action.accept.dump) =
      if v.remainingTurns < 2 ^ 31 then
        if v.turnSequence < 2 ^ 31 then
          if v.turnSequence = 1 then .ok (some "buyer_opening_proposal_required")
          else
            match v.latestCounterpartyQuote with
            | none => .ok (some "counterparty_proposal_required")
            | some quote =>
              if v.limitPrice.any fun limit => crossesLimit v.role quote.price.value limit.value then
                .ok (some "limit_price_violation")
              else .ok none
        else .error .numericValueOutOfRange
      else .error .numericValueOutOfRange := by
  rw [negotiateReason_read v (text_price_none (a := .accept) (by simp) ▸ toNumeric_none)]
  cases v.limitPrice with
  | none => cases v.latestCounterpartyQuote <;> simp [Action.name]
  | some limit => cases v.latestCounterpartyQuote <;> simp [Action.name, pastLimit_wire]

theorem negotiateReason_reject (message : Option PublicMessage) :
    negotiateReason (some v.dump) (some (Action.reject message).dump) =
      if v.remainingTurns < 2 ^ 31 then
        if v.turnSequence < 2 ^ 31 then
          if v.turnSequence = 1 then .ok (some "buyer_opening_proposal_required") else .ok none
        else .error .numericValueOutOfRange
      else .error .numericValueOutOfRange := by
  rw [negotiateReason_read v (text_price_none (a := .reject message) (by simp) ▸ toNumeric_none)]
  cases v.limitPrice with
  | none | some _ => simp [Action.name]

theorem negotiateReason_mismatch {a : Action}
    (h : a.name ∉ ["propose", "accept", "reject"]) :
    negotiateReason (some v.dump) (some a.dump) =
      if v.remainingTurns < 2 ^ 31 then .ok (some "action_kind_mismatch")
      else .error .numericValueOutOfRange := by
  have hnone : text (some a.dump) "price" = none := by
    refine text_price_none fun price message ha => ?_
    subst ha
    exact h (by simp [Action.name])
  have hmove : ["propose", "accept", "reject"].contains a.name = false := by simpa using h
  rw [negotiateReason_read v (hnone ▸ toNumeric_none), notIn_some, hmove]
  rfl

end Negotiate

section Market

theorem anyField_eq {α : Type} {input : Option Value} {items : List α} {dump : α → Value}
    {key : String} (hfield : field input (some key) = some (listOf dump items)) (subkey : String)
    (name : α → String) (hname : ∀ a, text (some (dump a)) subkey = some (name a))
    (value : String) :
    anyField (field input (some key)) subkey (some value) =
      .ok ((items.map name).contains value) := by
  unfold anyField
  rw [hfield]
  show Except.ok ((items.map dump).any _) = _
  rw [List.any_map]
  congr 1
  rw [Bool.eq_iff_iff]
  simp [hname]

theorem field_rfq_directory (v : ArenaMarketRfqInputV1) :
    field (some v.dump) (some "directory") =
      some (listOf ArenaMarketDirectoryEntryV1.dump v.directory) := by
  simp [ArenaMarketRfqInputV1.dump, roundEntries, List.lookup]

theorem text_rfq_limitPrice (v : ArenaMarketRfqInputV1) :
    text (some v.dump) "limitPrice" = some (serializeFixedDecimal v.limitPrice.value) := by
  simp [text, ArenaMarketRfqInputV1.dump, roundEntries, List.lookup, ofPrice, ofDecimal]

theorem text_rfq_maxOutboundRfq (v : ArenaMarketRfqInputV1) :
    text (some v.dump) "maxOutboundRfq" = some (toString (v.maxOutboundRfq : Int)) := by
  simp [text, ArenaMarketRfqInputV1.dump, roundEntries, List.lookup]

theorem text_request_target (c : NegotiationRequestCandidateV1) :
    text (some c.dump) "targetIntentId" = some c.targetIntentId := by
  simp [text, NegotiationRequestCandidateV1.dump]

theorem text_request_price (c : NegotiationRequestCandidateV1) :
    text (some c.dump) "openingPrice" = some (serializeFixedDecimal c.openingPrice.value) := by
  simp [text, NegotiationRequestCandidateV1.dump, List.lookup, ofPrice, ofDecimal]

theorem marketRfqReason_requests (v : ArenaMarketRfqInputV1) (l : RequestList)
    (hmax : v.maxOutboundRfq < 2 ^ 31) :
    marketRfqReason (some v.dump) (some (Action.requestNegotiations l).dump) =
      if v.maxOutboundRfq < l.requests.length then .ok (some "rfq_budget_exceeded")
      else if l.requests.any fun r => !(v.directory.map (·.intentId)).contains r.targetIntentId then
        .ok (some "rfq_target_not_visible")
      else if l.requests.any fun r => v.limitPrice.value.lt r.openingPrice.value then
        .ok (some "limit_price_violation")
      else .ok none := by
  have hrequests : field (some (Action.requestNegotiations l).dump) (some "requests") =
      some (listOf NegotiationRequestCandidateV1.dump l.requests) := by
    simp [Action.dump, List.lookup]
  have hlength : Jsonb.length (some (listOf NegotiationRequestCandidateV1.dump l.requests)) =
      .ok (some (l.requests.length : Int)) := by
    show Except.ok (some ((l.requests.map _).length : Int)) = _
    rw [List.length_map]
  have hsome : ¬ (l.requests.length : Int) < 1 := by
    have := l.minLength
    omega
  have hvisible := fun c : NegotiationRequestCandidateV1 =>
    anyField_eq (field_rfq_directory v) "intentId" (·.intentId)
      (fun e => by simp [text, ArenaMarketDirectoryEntryV1.dump]) c.targetIntentId
  have htargets : (l.requests.map NegotiationRequestCandidateV1.dump).anyM (fun request => do
      return !(← anyField (field (some v.dump) (some "directory")) "intentId"
        (text (some request) "targetIntentId"))) = _ :=
    anyM_map (p := fun r => !(v.directory.map (·.intentId)).contains r.targetIntentId) _ fun c _ => by
      rw [text_request_target, hvisible]
      rfl
  have hprices : (l.requests.map NegotiationRequestCandidateV1.dump).anyM (fun request => do
      return decide (exceeds (← toNumeric (text (some request) "openingPrice"))
        (some (.ofDecimal false v.limitPrice.value)) = some true)) = _ :=
    anyM_map (p := fun r => v.limitPrice.value.lt r.openingPrice.value) _ fun c _ => by
      rw [text_request_price, toNumeric_serialize c.openingPrice.wire]
      simp
  unfold marketRfqReason
  simp only [text_action_name, hrequests, text_rfq_limitPrice, toNumeric_serialize v.limitPrice.wire,
    ok_bind, text_rfq_maxOutboundRfq, toInteger_toString, if_pos hmax, hlength]
  have helements : elements (some (listOf NegotiationRequestCandidateV1.dump l.requests)) =
      .ok (l.requests.map NegotiationRequestCandidateV1.dump) := rfl
  have harray : typeOf (some (listOf NegotiationRequestCandidateV1.dump l.requests)) =
      some "array" := rfl
  simp only [Action.name, helements, harray, ok_bind, htargets, hprices]
  generalize (l.requests.any fun r => !(v.directory.map (·.intentId)).contains r.targetIntentId) =
    hidden
  generalize (l.requests.any fun r => v.limitPrice.value.lt r.openingPrice.value) = above
  simp [hsome]

theorem marketRfqReason_other (v : ArenaMarketRfqInputV1) {a : Action}
    (h : a.name ∉ ["request_negotiations"]) (hmax : v.maxOutboundRfq < 2 ^ 31) :
    marketRfqReason (some v.dump) (some a.dump) =
      if a.name = "pass" then .ok none else .ok (some "action_kind_mismatch") := by
  have hname : a.name ≠ "request_negotiations" := by simpa using h
  unfold marketRfqReason
  simp only [text_action_name, text_rfq_limitPrice, toNumeric_serialize v.limitPrice.wire,
    ok_bind, text_rfq_maxOutboundRfq, toInteger_toString, if_pos hmax]
  by_cases hpass : a.name = "pass"
  · simp [hpass]
  · simp [hname, hpass]

theorem marketSelectReason_engage (v : ArenaMarketSelectInputV1) (requestId : String) :
    marketSelectReason (some v.dump) (some (Action.engage requestId).dump) =
      if !(v.requests.map (·.requestId)).contains requestId then .ok (some "request_not_visible")
      else if v.inventoryAvailable < 2 ^ 63 then
        if v.inventoryAvailable < v.quantity then .ok (some "insufficient_inventory") else .ok none
      else .error .numericValueOutOfRange := by
  have hfield : field (some v.dump) (some "requests") =
      some (listOf ArenaInboundRfqV1.dump v.requests) := by
    simp [ArenaMarketSelectInputV1.dump, roundEntries, List.lookup]
  have hvisible := anyField_eq hfield "requestId" (·.requestId)
    (fun r => by simp [text, ArenaInboundRfqV1.dump]) requestId
  have hrequest : text (some (Action.engage requestId).dump) "requestId" = some requestId := by
    simp [text, Action.dump, List.lookup]
  have hinventory : text (some v.dump) "inventoryAvailable" =
      some (toString (v.inventoryAvailable : Int)) := by
    simp [text, ArenaMarketSelectInputV1.dump, roundEntries, List.lookup]
  have hquantity : text (some v.dump) "quantity" = some (toString (v.quantity : Int)) := by
    simp [text, ArenaMarketSelectInputV1.dump, roundEntries, List.lookup]
  have hone : v.quantity < 2 ^ 63 := by
    show 1 < 2 ^ 63
    decide
  unfold marketSelectReason
  simp only [text_action_name, hrequest, hvisible, hinventory, hquantity, toBigint_toString,
    if_pos hone, ok_bind]
  by_cases hfits : v.inventoryAvailable < 2 ^ 63
  · rw [if_pos hfits, if_pos hfits]
    generalize (v.requests.map (·.requestId)).contains requestId = visible
    simp [Action.name]
  · rw [if_neg hfits, if_neg hfits]
    generalize (v.requests.map (·.requestId)).contains requestId = visible
    simp [Action.name]

theorem marketSelectReason_other (v : ArenaMarketSelectInputV1) {a : Action}
    (h : a.name ≠ "engage") :
    marketSelectReason (some v.dump) (some a.dump) =
      if a.name = "reject_all" then .ok none else .ok (some "action_kind_mismatch") := by
  unfold marketSelectReason
  by_cases hreject : a.name = "reject_all"
  · simp [hreject]
  · simp [h, hreject]

end Market

/-! ### The verdict of the database -/

/-- Why the database turns the candidate down, whichever function looks at it. -/
def projectedReason (task : TaskRow) (result : ResultRow) : Except Error (Option String) :=
  if delegatesToFcfs task result then fcfsReason task result else marketReason task result

/-- The answer is an error unless the casts hold, and else a reason unless the candidate
    passes. -/
def Verdict (answer : Except Error (Option String)) (castable passes : Prop) : Prop :=
  (castable → ∃ reason, answer = .ok reason ∧ (reason = none ↔ passes)) ∧
    (¬ castable → ∃ e, answer = .error e)

theorem verdict_reason {reason : String} {castable passes : Prop} (hc : castable)
    (hp : ¬ passes) : Verdict (.ok (some reason)) castable passes :=
  ⟨fun _ => ⟨some reason, rfl, by simp [hp]⟩, fun h => absurd hc h⟩

theorem verdict_none {castable passes : Prop} (hc : castable) (hp : passes) :
    Verdict (.ok none) castable passes :=
  ⟨fun _ => ⟨none, rfl, by simp [hp]⟩, fun h => absurd hc h⟩

theorem verdict_error {e : Error} {castable passes : Prop} (hc : ¬ castable) :
    Verdict (.error e) castable passes :=
  ⟨fun h => absurd h hc, fun _ => ⟨e, rfl⟩⟩

/-- What the database takes: the other checks pass and the cash covers the exact cost. -/
def PassesExactly (input : TaskInput) (a : Action) : Prop :=
  PassesOtherwise input a ∧ ∀ c, purchase input a = some c → c.2.value.lt c.1.value = false

/-- The rows of a task and a candidate for it. -/
structure RowsOf (task : TaskRow) (result : ResultRow) (input : TaskInput) (a : Action) : Prop where
  kind : task.taskKind = input.kind
  snapshot : task.inputSnapshot = input.dump
  succeeded : result.runtimeStatus = .succeeded
  candidate : result.candidateAction = some a.dump

section Verdicts

variable {task : TaskRow} {result : ResultRow}

theorem decideReason_mismatch {input : Option Value} {a : Action} {quantity : Int}
    (h : a.name ∉ ["buy", "sell", "pass"]) :
    decideReason input (some a.dump) quantity = .ok (some "action_kind_mismatch") := by
  have hmember : ["buy", "sell", "pass"].contains a.name = false := by simpa using h
  unfold decideReason
  simp only [text_action_name, notIn_some, hmember]
  rfl

theorem marketIntentReason_mismatch {input : Option Value} {a : Action} {quantity : Int}
    (h : a.name ∉ ["buy", "sell", "pass"]) :
    marketIntentReason input (some a.dump) quantity = .ok (some "action_kind_mismatch") := by
  have hmember : ["buy", "sell", "pass"].contains a.name = false := by simpa using h
  unfold marketIntentReason
  simp only [text_action_name, notIn_some, hmember]
  rfl

theorem allowed_iff {l : ArenaDecideLimitsV1} {side : Side} {o : Order} :
    orderAllowed l side o ↔ ¬ (!l.allowedActions.contains side.allowed) = true ∧
      ¬ (!l.allowedGoods.isEmpty && !l.allowedGoods.contains o.good) = true := by
  rw [goods_iff]
  simp [orderAllowed]

/-- A decide task whose candidate the agent market leaves to `fcfs.v1`. -/
theorem projectedReason_decide {v : ArenaDecideInputV1} {a : Action}
    (hrows : RowsOf task result (.decide v) a) :
    projectedReason task result =
      if (hasKey (some a.dump) "publicPrice").getD false ||
          (hasKey (some a.dump) "message").getD false then
        .ok (some "public_price_not_allowed")
      else decideReason (some v.dump) (some a.dump) orderQuantity := by
  have hkind : task.taskKind = .decide := hrows.kind
  have hsnapshot : task.inputSnapshot = v.dump := hrows.snapshot
  unfold projectedReason delegatesToFcfs marketReason fcfsReason
  rw [hrows.candidate, candidateQuantity_eq, hkind, hsnapshot, hrows.succeeded]
  generalize ((hasKey (some a.dump) "publicPrice").getD false ||
    (hasKey (some a.dump) "message").getD false) = marked
  cases marked <;> simp

/-- An order that a decide task may carry. -/
theorem plain_iff {o : Order} : ¬ (o.publicPrice.isSome || o.message.isSome) = true ↔
    o.publicPrice = none ∧ o.message = none := by
  simp

theorem decide_verdict {v : ArenaDecideInputV1} {a : Action}
    (hrows : RowsOf task result (.decide v) a) :
    Verdict (projectedReason task result) (Castable (.decide v) a) (PassesExactly (.decide v) a) := by
  rw [projectedReason_decide hrows]
  cases a with
  | buy o =>
      have hreason : decideReason (some v.dump) (some (Action.buy o).dump) orderQuantity = _ :=
        decideReason_order (readsAs_decide v) .buy o
      rw [hreason]
      show Verdict (if (hasKey (some (o.dump "buy")) "publicPrice").getD false ||
        (hasKey (some (o.dump "buy")) "message").getD false then _ else _) True _
      rw [hasKey_order_publicPrice, hasKey_order_message, Option.getD_some, Option.getD_some]
      simp only [PassesExactly, PassesOtherwise, purchase, allowed_iff]
      split_ifs with hplain hallowed hgood hcash
      · exact verdict_reason trivial fun h => absurd h.1.2 (mt plain_iff.mpr (not_not.mpr hplain))
      · exact verdict_reason trivial fun h => h.1.1.1 hallowed
      · exact verdict_reason trivial fun h => h.1.1.2 hgood
      · obtain ⟨p, hp, hlt⟩ := Option.any_eq_true .. |>.mp hcash
        refine verdict_reason trivial fun h => ?_
        have hcovered := h.2 (p, v.cash) (by rw [hp]; rfl)
        rw [hlt] at hcovered
        cases hcovered
      · refine verdict_none trivial ⟨⟨⟨hallowed, hgood⟩, plain_iff.mp hplain⟩, ?_⟩
        intro c hc
        obtain ⟨p, hp, rfl⟩ := Option.map_eq_some_iff.mp hc
        exact any_eq_false_iff.mp (by simpa using hcash) p hp
  | sell o =>
      have hreason : decideReason (some v.dump) (some (Action.sell o).dump) orderQuantity = _ :=
        decideReason_order (readsAs_decide v) .sell o
      rw [hreason]
      show Verdict (if (hasKey (some (o.dump "sell")) "publicPrice").getD false ||
        (hasKey (some (o.dump "sell")) "message").getD false then _ else _) _ _
      rw [hasKey_order_publicPrice, hasKey_order_message, Option.getD_some, Option.getD_some]
      simp only [PassesExactly, PassesOtherwise, purchase, Castable, allowed_iff]
      split_ifs with hplain hallowed hgood hfits hheld
      · refine verdict_reason (fun _ hpublic hmessage => ?_) fun h => ?_
        · exact absurd hplain (plain_iff.mpr ⟨hpublic, hmessage⟩)
        · exact absurd hplain (plain_iff.mpr ⟨h.1.2.1, h.1.2.2.1⟩)
      · exact verdict_reason (fun h => absurd hallowed h.1) fun h => h.1.1.1 hallowed
      · exact verdict_reason (fun h => absurd hgood h.2) fun h => h.1.1.2 hgood
      · exact verdict_reason (fun _ _ _ => hfits) fun h => absurd h.1.2.2.2 (not_le.mpr hheld)
      · obtain ⟨hpublic, hmessage⟩ := plain_iff.mp hplain
        exact verdict_none (fun _ _ _ => hfits)
          ⟨⟨⟨hallowed, hgood⟩, hpublic, hmessage, not_lt.mp hheld⟩, by simp⟩
      · obtain ⟨hpublic, hmessage⟩ := plain_iff.mp hplain
        exact verdict_error fun h => hfits (h ⟨hallowed, hgood⟩ hpublic hmessage)
  | pass =>
      have hmarked : ((hasKey (some Action.pass.dump) "publicPrice").getD false ||
          (hasKey (some Action.pass.dump) "message").getD false) = false := by
        simp [Action.dump, List.lookup]
      rw [hmarked, if_neg Bool.false_ne_true, decideReason_pass (readsAs_decide v)]
      simp only [PassesExactly, PassesOtherwise, purchase]
      split_ifs with hallowed
      · exact verdict_reason trivial fun h => by simp [h.1] at hallowed
      · exact verdict_none trivial ⟨by simpa using hallowed, by simp⟩
  | _ =>
      rw [decideReason_mismatch (by simp [Action.name])]
      split_ifs
      · exact verdict_reason trivial fun h => h.1
      · exact verdict_reason trivial fun h => h.1

theorem projectedReason_marketIntent {v : ArenaMarketIntentInputV1} {a : Action}
    (hrows : RowsOf task result (.marketIntent v) a) :
    projectedReason task result = marketIntentReason (some v.dump) (some a.dump) orderQuantity := by
  have hkind : task.taskKind = .marketIntent := hrows.kind
  have hsnapshot : task.inputSnapshot = v.dump := hrows.snapshot
  unfold projectedReason delegatesToFcfs marketReason
  rw [hrows.candidate, candidateQuantity_eq, hkind, hsnapshot, hrows.succeeded]
  simp

theorem marketIntent_verdict {v : ArenaMarketIntentInputV1} {a : Action}
    (hrows : RowsOf task result (.marketIntent v) a) :
    Verdict (projectedReason task result) (Castable (.marketIntent v) a)
      (PassesExactly (.marketIntent v) a) := by
  rw [projectedReason_marketIntent hrows]
  cases a with
  | buy o =>
      have hreason : marketIntentReason (some v.dump) (some (Action.buy o).dump) orderQuantity = _ :=
        marketIntentReason_order (readsAs_marketIntent v) .buy o
      rw [hreason]
      show Verdict _ True _
      simp only [PassesExactly, PassesOtherwise, purchase, allowed_iff]
      split_ifs with hallowed hgood
      · exact verdict_reason trivial fun h => h.1.1.1 hallowed
      · exact verdict_reason trivial fun h => h.1.1.2 hgood
      · cases hpublic : o.publicPrice with
        | none => exact verdict_reason trivial (by simp)
        | some publicPrice =>
            cases hlimit : o.limitPrice with
            | none => exact verdict_reason trivial (by simp)
            | some limitPrice =>
                dsimp only
                split_ifs with hboundary hcash
                · exact verdict_reason trivial (by simp [hboundary])
                · exact verdict_reason trivial (by simp [hcash])
                · refine verdict_none trivial
                      ⟨⟨⟨hallowed, hgood⟩, publicPrice, limitPrice, rfl, rfl, ?_⟩, ?_⟩
                  · simpa using hboundary
                  · simpa using hcash
  | sell o =>
      have hreason : marketIntentReason (some v.dump) (some (Action.sell o).dump) orderQuantity = _ :=
        marketIntentReason_order (readsAs_marketIntent v) .sell o
      rw [hreason]
      simp only [PassesExactly, PassesOtherwise, purchase, Castable, allowed_iff]
      by_cases hallowed : (!v.limits.allowedActions.contains Side.sell.allowed) = true
      · rw [if_pos hallowed]
        exact verdict_reason (fun h => absurd hallowed h.1) fun h => h.1.1.1 hallowed
      · rw [if_neg hallowed]
        by_cases hgood :
            (!v.limits.allowedGoods.isEmpty && !v.limits.allowedGoods.contains o.good) = true
        · rw [if_pos hgood]
          exact verdict_reason (fun h => absurd hgood h.2) fun h => h.1.1.2 hgood
        · rw [if_neg hgood]
          cases hpublic : o.publicPrice with
          | none => exact verdict_reason (by simp) (by simp)
          | some publicPrice =>
              cases hlimit : o.limitPrice with
              | none => exact verdict_reason (by simp) (by simp)
              | some limitPrice =>
                  dsimp only
                  split_ifs with hboundary hfits hheld
                  · exact verdict_reason (by simp [hboundary]) (by simp [hboundary])
                  · exact verdict_reason (fun _ _ _ _ _ _ => hfits)
                      fun h => absurd h.1.2.2 (not_le.mpr hheld)
                  · refine verdict_none (fun _ _ _ _ _ _ => hfits) ⟨⟨⟨hallowed, hgood⟩,
                      ⟨publicPrice, limitPrice, rfl, rfl, ?_⟩, not_lt.mp hheld⟩, by simp⟩
                    simpa using hboundary
                  · exact verdict_error fun h => hfits
                      (h ⟨hallowed, hgood⟩ _ _ rfl rfl (by simpa using hboundary))
  | pass =>
      rw [marketIntentReason_pass (readsAs_marketIntent v)]
      simp only [PassesExactly, PassesOtherwise, purchase]
      split_ifs with hallowed
      · exact verdict_reason trivial fun h => by simp [h.1] at hallowed
      · exact verdict_none trivial ⟨by simpa using hallowed, by simp⟩
  | _ =>
      rw [marketIntentReason_mismatch (by simp [Action.name])]
      exact verdict_reason trivial fun h => h.1

theorem negotiate_verdict {v : ArenaNegotiateInputV1} {a : Action}
    (hrows : RowsOf task result (.negotiate v) a) :
    Verdict (projectedReason task result) (Castable (.negotiate v) a)
      (PassesExactly (.negotiate v) a) := by
  have hreason : projectedReason task result = negotiateReason (some v.dump) (some a.dump) := by
    have hkind : task.taskKind = .negotiate := hrows.kind
    have hsnapshot : task.inputSnapshot = v.dump := hrows.snapshot
    unfold projectedReason delegatesToFcfs fcfsReason
    rw [hrows.candidate, candidateQuantity_eq, hkind, hsnapshot, hrows.succeeded]
    simp
  rw [hreason]
  cases a with
  | propose price message =>
      rw [negotiateReason_propose]
      simp only [PassesExactly, PassesOtherwise, purchase, Castable]
      split_ifs with hremaining hsequence hlast hcross
      · exact verdict_reason ⟨hremaining, hsequence⟩ fun h => absurd h.1.1 (not_lt.mpr hlast)
      · obtain ⟨limit, hlimit, hout⟩ := Option.any_eq_true .. |>.mp hcross
        refine verdict_reason ⟨hremaining, hsequence⟩ fun h => ?_
        have hin := h.1.2 limit hlimit
        rw [hout] at hin
        cases hin
      · exact verdict_none ⟨hremaining, hsequence⟩
          ⟨⟨not_le.mp hlast, any_eq_false_iff.mp (by simpa using hcross)⟩, by simp⟩
      · exact verdict_error fun h => hsequence h.2
      · exact verdict_error fun h => hremaining h.1
  | accept =>
      rw [negotiateReason_accept]
      simp only [PassesExactly, PassesOtherwise, purchase, Castable]
      by_cases hremaining : v.remainingTurns < 2 ^ 31
      · rw [if_pos hremaining]
        by_cases hsequence : v.turnSequence < 2 ^ 31
        · rw [if_pos hsequence]
          by_cases hfirst : v.turnSequence = 1
          · rw [if_pos hfirst]
            exact verdict_reason ⟨hremaining, hsequence⟩ fun h => h.1.1 hfirst
          · rw [if_neg hfirst]
            cases hquote : v.latestCounterpartyQuote with
            | none => exact verdict_reason ⟨hremaining, hsequence⟩ (by simp)
            | some quote =>
                dsimp only
                split_ifs with hcross
                · obtain ⟨limit, hlimit, hout⟩ := Option.any_eq_true .. |>.mp hcross
                  refine verdict_reason ⟨hremaining, hsequence⟩ fun h => ?_
                  obtain ⟨quote', hquote', hin⟩ := h.1.2
                  obtain rfl := Option.some.inj hquote'
                  have hin := hin limit hlimit
                  rw [hout] at hin
                  cases hin
                · exact verdict_none ⟨hremaining, hsequence⟩ ⟨⟨hfirst, quote, rfl,
                    any_eq_false_iff.mp (by simpa using hcross)⟩, by simp⟩
        · rw [if_neg hsequence]
          exact verdict_error fun h => hsequence h.2
      · rw [if_neg hremaining]
        exact verdict_error fun h => hremaining h.1
  | reject message =>
      rw [negotiateReason_reject]
      simp only [PassesExactly, PassesOtherwise, purchase, Castable]
      split_ifs with hremaining hsequence hfirst
      · exact verdict_reason ⟨hremaining, hsequence⟩ fun h => h.1 hfirst
      · exact verdict_none ⟨hremaining, hsequence⟩ ⟨hfirst, by simp⟩
      · exact verdict_error fun h => hsequence h.2
      · exact verdict_error fun h => hremaining h.1
  | _ =>
      rw [negotiateReason_mismatch _ (by simp [Action.name])]
      split_ifs with hremaining
      · exact verdict_reason hremaining fun h => h.1
      · exact verdict_error hremaining

theorem marketRfq_verdict {v : ArenaMarketRfqInputV1} {a : Action}
    (hrows : RowsOf task result (.marketRfq v) a) (hmax : v.maxOutboundRfq < 2 ^ 31) :
    Verdict (projectedReason task result) (Castable (.marketRfq v) a)
      (PassesExactly (.marketRfq v) a) := by
  have hreason : projectedReason task result = marketRfqReason (some v.dump) (some a.dump) := by
    have hkind : task.taskKind = .marketRfq := hrows.kind
    have hsnapshot : task.inputSnapshot = v.dump := hrows.snapshot
    unfold projectedReason delegatesToFcfs marketReason
    rw [hrows.candidate, candidateQuantity_eq, hkind, hsnapshot, hrows.succeeded]
    simp
  rw [hreason]
  cases a with
  | requestNegotiations l =>
      rw [marketRfqReason_requests v l hmax]
      simp only [PassesExactly, PassesOtherwise, purchase]
      split_ifs with hbudget hhidden habove
      · exact verdict_reason trivial fun h => absurd h.1.1 (not_le.mpr hbudget)
      · obtain ⟨r, hr, hout⟩ := List.any_eq_true.mp hhidden
        refine verdict_reason trivial fun h => ?_
        have hin := (h.1.2 r hr).1
        simp [hin] at hout
      · obtain ⟨r, hr, hout⟩ := List.any_eq_true.mp habove
        refine verdict_reason trivial fun h => ?_
        have hin := (h.1.2 r hr).2
        rw [hout] at hin
        cases hin
      · refine verdict_none trivial ⟨⟨not_lt.mp hbudget, fun r hr => ⟨?_, ?_⟩⟩, by simp⟩
        · have hshown := List.any_eq_false.mp ((Bool.not_eq_true _).mp hhidden) r hr
          simpa using hshown
        · have hbelow := List.any_eq_false.mp ((Bool.not_eq_true _).mp habove) r hr
          simpa using hbelow
  | pass =>
      rw [marketRfqReason_other v (by simp [Action.name]) hmax]
      exact verdict_none trivial ⟨trivial, by simp [purchase]⟩
  | _ =>
      rw [marketRfqReason_other v (by simp [Action.name]) hmax]
      exact verdict_reason trivial fun h => h.1

theorem marketSelect_verdict {v : ArenaMarketSelectInputV1} {a : Action}
    (hrows : RowsOf task result (.marketSelect v) a) :
    Verdict (projectedReason task result) (Castable (.marketSelect v) a)
      (PassesExactly (.marketSelect v) a) := by
  have hreason : projectedReason task result = marketSelectReason (some v.dump) (some a.dump) := by
    have hkind : task.taskKind = .marketSelect := hrows.kind
    have hsnapshot : task.inputSnapshot = v.dump := hrows.snapshot
    unfold projectedReason delegatesToFcfs marketReason
    rw [hrows.candidate, candidateQuantity_eq, hkind, hsnapshot, hrows.succeeded]
    simp
  rw [hreason]
  cases a with
  | engage requestId =>
      rw [marketSelectReason_engage]
      simp only [PassesExactly, PassesOtherwise, purchase, Castable]
      split_ifs with hvisible hfits hheld
      · have hnot : requestId ∉ v.requests.map (·.requestId) := by simpa using hvisible
        exact verdict_reason (fun h => absurd h hnot) fun h => hnot h.1.1
      · exact verdict_reason (fun _ => hfits) fun h => absurd h.1.2 (not_le.mpr hheld)
      · exact verdict_none (fun _ => hfits) ⟨⟨by simpa using hvisible, not_lt.mp hheld⟩, by simp⟩
      · exact verdict_error fun h => hfits (h (by simpa using hvisible))
  | rejectAll message =>
      rw [marketSelectReason_other v (by simp [Action.name])]
      exact verdict_none trivial ⟨trivial, by simp [purchase]⟩
  | _ =>
      rw [marketSelectReason_other v (by simp [Action.name])]
      exact verdict_reason trivial fun h => h.1

end Verdicts

end Arena402
