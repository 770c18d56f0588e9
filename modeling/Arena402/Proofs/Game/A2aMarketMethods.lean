/-
A call that raises leaves the market as it was.

In a reachable market every method that writes in place does what the function of
`Game/A2aMarket.lean` says (`method_computes`): its checks stand before its writes, and the
reads that stand between them find what the invariants promise.  The one error that comes
with a write is the refusal of an engagement.
-/
import Arena402.Game.A2aMarketMethods
import Arena402.Proofs.Game.MarketResults
import Arena402.Proofs.Game.MarketBudget

namespace Arena402.Game

namespace AgentDrivenMarket

open Py

variable {s t : AgentDrivenMarket} {α β : Type}

/-! ### Raised errors -/

theorem raised_ite {c : Prop} [Decidable c] (s : AgentDrivenMarket) (x y : Except String α) :
    s.raised (if c then x else y) = if c then s.raised x else s.raised y :=
  apply_ite _ _ _ _

theorem raised_bind (s : AgentDrivenMarket) (x : Except String α) (f : α → Except String β) :
    s.raised (x >>= f) = s.raised x >>= fun a => s.raised (f a) := by
  cases x with
  | error e => rfl
  | ok a => rfl

/-- A guard that raises, in both programs. -/
theorem computes_guard {c : Prop} [Decidable c] {e : String} {m : Method AgentDrivenMarket α}
    {x : Except (String × AgentDrivenMarket) (AgentDrivenMarket × α)} (h : ¬ c → m.Computes s x) :
    Method.Computes (if c then throw e else m) s (if c then .error (e, s) else x) :=
  Method.Computes.ite (fun _ => .throw e s) h

theorem item_of_get {κ : Type} [DecidableEq κ] {d : Dict κ α} {k : κ} {v : α}
    (h : d.get k = some v) : item d k = .ok v := by
  unfold item
  rw [h]

/-- The claims stand alone: they are all made, or none is. -/
theorem computes_claimResults {claims : List (String × String × String)}
    {f : Unit → Method AgentDrivenMarket α}
    {g : AgentDrivenMarket → Except (String × AgentDrivenMarket) (AgentDrivenMarket × α)}
    (h : ∀ c, s.claimResults claims = .ok c → (f ()).Computes c (g c)) :
    Method.Computes (InPlace.claimResults claims >>= f) s
      (s.raised (s.claimResults claims) >>= g) := by
  have hclaims : s.claimResults claims = claims.foldlM s.claimResult [] >>= fun pending =>
      .ok { s with resultClaims := pending.foldl (fun d e => d.set e.1 e.2) s.resultClaims } := rfl
  rw [hclaims, raised_bind, bind_assoc]
  unfold InPlace.claimResults
  simp only [bind_assoc]
  refine Method.Computes.get (Method.Computes.check fun pending hloop => Method.Computes.modify ?_)
  exact h _ (by rw [hclaims, hloop]; rfl)

/-! ### The five operations -/

theorem publishIntent_computes (hb : Booked s) (intent : AgentMarketIntent) :
    (InPlace.publishIntent intent).Computes s (s.raised (s.publishIntent intent)) := by
  unfold InPlace.publishIntent publishIntent
  refine Method.Computes.get ?_
  cases hresult : s.intentByResult.get intent.sourceResultId with
  | some existingId =>
      obtain ⟨_, existing, rfl, hexisting, _⟩ := (hb.indexed.intents _ _).mp hresult
      simp only [item_of_get hexisting, Option.bind_some, hexisting, raised_ite]
      exact computes_guard fun _ => .pure existing s
  | none =>
      simp only [Option.bind_none]
      cases hid : s.intents.get intent.intentId with
      | some existing =>
          simp only [raised_ite]
          exact computes_guard fun _ => .pure existing s
      | none =>
          simp only [raised_ite, raised_bind]
          refine computes_guard fun _ => computes_claimResults fun c _ => ?_
          exact rfl

theorem submitRequests_computes (hb : Booked s) (requests : List AgentNegotiationRequest) :
    (InPlace.submitRequests requests).Computes s (s.raised (s.submitRequests requests)) := by
  rcases requests with _ | ⟨request, _ | ⟨second, rest⟩⟩
  · exact .throw _ s
  · unfold InPlace.submitRequests submitRequests
    refine Method.Computes.get ?_
    cases hresult : s.requestIdsByResult.get request.sourceResultId with
    | some ids =>
        obtain ⟨id, record, rfl, hrecord, _⟩ := (hb.indexed.requests _ _).mp hresult
        have hitems : [id].mapM (fun id => item s.requests id) = .ok [record] := by
          rw [List.mapM_cons, item_of_get hrecord]
          rfl
        simp only [hresult, hitems, List.filterMap_cons, hrecord, Option.map_some, List.filterMap_nil,
          raised_ite]
        exact computes_guard fun _ => .pure [record.request] s
    | none =>
        simp only [hresult, raised_ite, raised_bind]
        refine Method.Computes.check fun buyer hbuyer => ?_
        refine computes_guard fun _ => computes_guard fun _ => ?_
        refine Method.Computes.check fun _ hcheck => computes_claimResults fun c hclaim => ?_
        have hid : buyer.intentId = request.buyerIntentId :=
          hb.sound.intentIds _ _ (requireIntent_ok hbuyer)
        rw [hid]
        exact rfl
  · exact .throw _ s

theorem engageRequest_computes (hb : Booked s) (actor requestId selectionResultId : String) :
    (InPlace.engageRequest actor requestId selectionResultId).Computes s
      (s.engageRequest actor requestId selectionResultId) := by
  unfold InPlace.engageRequest engageRequest
  refine Method.Computes.check fun _ _ => Method.Computes.get ?_
  cases hselection : s.engagementBySelectionResult.get selectionResultId with
  | some id =>
      obtain ⟨_, engagement, rfl, hengagement, _⟩ := (hb.indexed.selections _ _).mp hselection
      simp only [item_of_get hengagement, Option.bind_some, hengagement]
      exact computes_guard fun _ => .pure engagement s
  | none =>
      simp only [Option.bind_none]
      refine Method.Computes.check fun record hrecord => computes_guard fun hpending => ?_
      refine Method.Computes.check fun buyer hbuyer => Method.Computes.check fun seller hseller => ?_
      refine computes_guard fun _ => Method.Computes.ite (fun _ => rfl) fun _ => ?_
      refine computes_claimResults fun c hclaim => ?_
      simp only [Method.Computes, Method.run_modify_bind, Method.run_pure, Dict.set_set]
      rfl

/-- The writes of `close_engagement` do not raise: its request and its intents are there. -/
theorem writeClosed_run {engagementId : String} {engagement : AgentMarketEngagement}
    {status : CloseStatus} {sourceResultId : Option String} {record : RequestRecord}
    {buyer seller : AgentMarketIntent} (hkeys : s.requests.keys.Nodup)
    (hrecord : s.requests.get engagement.requestId = some record)
    (hbuyer : s.intents.get engagement.buyerIntentId = some buyer)
    (hseller : s.intents.get engagement.sellerIntentId = some seller) :
    (InPlace.writeClosed engagementId engagement { engagement with
        status := status.engagement
        terminalSourceResultId := sourceResultId }).run s =
      .ok () (s.closeWith engagementId engagement status sourceResultId buyer seller) := by
  have hrequests : (s.rejectRequest engagement.requestId).requests =
      s.requests.set engagement.requestId { record with status := .rejected } :=
    Dict.update_key hkeys hrecord fun record => { record with status := .rejected }
  unfold closeWith
  rw [hrequests]
  unfold InPlace.writeClosed InPlace.releaseSlots
  simp only [Method.run_modify_bind, Method.run_get_bind, item_of_get hrecord,
    Method.run_check_bind, requireIntent, hbuyer, hseller]
  rfl

/-- The end of `close_engagement`, after the claim. -/
theorem closed_computes {c : AgentDrivenMarket} {engagementId : String}
    {engagement : AgentMarketEngagement} {status : CloseStatus} {sourceResultId : Option String}
    (hs : Sound s) (hkeys : s.requests.keys.Nodup)
    (hengagement : s.engagements.get engagementId = some engagement)
    (hc : c = { s with resultClaims := c.resultClaims }) :
    Method.Computes (do
        InPlace.writeClosed engagementId engagement { engagement with
          status := status.engagement
          terminalSourceResultId := sourceResultId }
        pure { engagement with
          status := status.engagement
          terminalSourceResultId := sourceResultId }) c
      (s.raised ((({ c with engagements := c.engagements.set engagementId { engagement with
          status := status.engagement
          terminalSourceResultId := sourceResultId } } : AgentDrivenMarket).rejectRequest
            engagement.requestId).releaseSlots engagement) >>= fun released =>
        s.raised (pure (released, { engagement with
          status := status.engagement
          terminalSourceResultId := sourceResultId }))) := by
  obtain ⟨claimed, rfl⟩ : ∃ d, c = { s with resultClaims := d } := ⟨_, hc⟩
  obtain ⟨_, _, buyer, seller, record, hengages⟩ := hs.engagements _ _ hengagement
  refine Method.Computes.bind (writeClosed_run (s := { s with resultClaims := claimed }) hkeys
    hengages.found hengages.buyerIntent hengages.sellerIntent) ?_
  simp only [releaseSlots, requireIntent, rejectRequest, hengages.buyerIntent,
    hengages.sellerIntent]
  rfl

theorem closeEngagement_computes (hs : Sound s) (hkeys : s.requests.keys.Nodup)
    (engagementId : String) (status : CloseStatus) (sourceResultId : Option String) :
    (InPlace.closeEngagement engagementId status sourceResultId).Computes s
      (s.raised (s.closeEngagement engagementId status sourceResultId)) := by
  unfold InPlace.closeEngagement closeEngagement
  simp only [raised_ite, raised_bind]
  refine Method.Computes.get (Method.Computes.check fun engagement hengagement => ?_)
  have hengagement := requireEngagement_ok hengagement
  refine Method.Computes.ite (fun _ => Method.Computes.ite (fun _ => .pure _ s) fun _ => .throw _ s)
    fun _ => computes_guard fun _ => computes_guard fun _ => ?_
  cases sourceResultId with
  | none => exact closed_computes hs hkeys hengagement rfl
  | some resultId =>
      unfold InPlace.claimRejection
      simp only [raised_bind, bind_assoc]
      refine Method.Computes.check fun _ _ => computes_claimResults fun c hclaim => ?_
      exact closed_computes hs hkeys hengagement (claims_of_ok hclaim).market

theorem freezeDeal_computes (a : Acceptance) :
    (InPlace.freezeDeal a).Computes s (s.raised (s.freezeDeal a)) := by
  unfold InPlace.freezeDeal freezeDeal
  simp only [raised_ite, raised_bind]
  refine Method.Computes.check fun _ _ => computes_guard fun _ => Method.Computes.get ?_
  refine Method.Computes.check fun engagement _ => ?_
  cases hdeal : s.deals.get s!"deal:{a.engagementId}" with
  | some existing =>
      simp only [raised_ite]
      exact computes_guard fun _ => .pure existing s
  | none =>
      simp only [raised_ite, raised_bind]
      refine computes_guard fun _ => computes_guard fun _ => ?_
      refine Method.Computes.check fun buyer _ => Method.Computes.check fun seller _ => ?_
      refine Method.Computes.check fun record _ => computes_guard fun _ => computes_guard fun _ => ?_
      exact computes_claimResults fun c _ => rfl

/-- **In a reachable market a method does what the function says.** -/
theorem method_computes {n : Nat} (hb : Booked s) (hn : Bounded n s) (call : MarketCall) :
    call.method.Computes s (s.perform call) := by
  cases call with
  | publishIntent intent => exact (publishIntent_computes hb intent).map _
  | submitRequests requests => exact (submitRequests_computes hb requests).map _
  | engageRequest actor requestId selectionResultId =>
      exact (engageRequest_computes hb actor requestId selectionResultId).map _
  | closeEngagement engagementId status sourceResultId =>
      exact (closeEngagement_computes hb.sound hn.budgeted.keys engagementId status
        sourceResultId).map _
  | freezeDeal a => exact (freezeDeal_computes a).map _

theorem after_method {n : Nat} (hb : Booked s) (hn : Bounded n s) (call : MarketCall) :
    call.method.after s = s.call call := by
  have hrun := method_computes hb hn call
  unfold Method.after
  rw [call_of_perform, hrun]
  cases s.perform call with
  | ok r => rfl
  | error e => rfl

/-- The runs that write in place are the runs of the functions. -/
theorem callsInPlace_eq {n : Nat} : ∀ (l : List MarketCall) {s : AgentDrivenMarket}, Booked s →
    Bounded n s → s.callsInPlace l = s.calls l := by
  intro l
  induction l with
  | nil =>
      intro s _ _
      rfl
  | cons c rest ih =>
      intro s hb hn
      show (c.method.after s).callsInPlace rest = (s.call c).calls rest
      rw [after_method hb hn]
      exact ih (hb.call c) (hn.call c)

/-- The error of a call that raised, with the market it leaves behind. -/
theorem perform_error {n : Nat} (hb : Booked s) (hn : Bounded n s) {call : MarketCall} {e : String}
    (h : call.method.run s = .error e t) : s.perform call = .error (e, t) := by
  rw [method_computes hb hn call] at h
  cases hperform : s.perform call with
  | ok r =>
      rw [hperform] at h
      cases h
  | error r =>
      rw [hperform] at h
      cases h
      rfl

/-- **A call that raises leaves the market as it was, except that an engagement which is refused
    as busy marks its pending request, and nothing else.** -/
theorem raising_call_keeps_market (n : Nat) (l : List MarketCall) (call : MarketCall) (e : String)
    (t : AgentDrivenMarket) :
    let s := ({ maxOutbound := n } : AgentDrivenMarket).callsInPlace l
    call.method.run s = .error e t →
    match call with
    | .engageRequest _ requestId _ =>
      (e ≠ "counterparty_busy" → t = s) ∧
      (e = "counterparty_busy" → ∃ record, s.requests.get requestId = some record ∧
        record.status = .pending ∧
        t = { s with requests := s.requests.set requestId { record with
          status := .counterpartyBusy } })
    | _ => t = s := by
  intro s hraise
  have hs : s = ({ maxOutbound := n } : AgentDrivenMarket).calls l :=
    callsInPlace_eq l ⟨sound_empty n, indexed_empty n, accounted_empty n⟩
      ⟨sound_empty n, budgeted_empty n, engaging_empty n⟩
  have hb : Booked s := hs ▸ booked_calls n l
  have hn : Bounded n s := hs ▸ bounded_calls n l
  have h := perform_error hb hn hraise
  cases call with
  | engageRequest actor requestId selectionResultId =>
      rcases error_of_bind h with h | ⟨_, _, h⟩
      · rcases engageRequest_raises h with ⟨hsame, hother⟩ | ⟨hbusy, _, record, hrefused⟩
        · exact ⟨fun _ => hsame, fun hbusy => absurd hbusy hother⟩
        · exact ⟨fun hother => absurd hbusy hother, fun _ =>
            ⟨record, hrefused.found, hrefused.pending, hrefused.marked⟩⟩
      · cases h
  | publishIntent _ | submitRequests _ | closeEngagement _ _ _ | freezeDeal _ =>
      rcases error_of_bind h with h | ⟨_, _, h⟩
      · exact (raised_error h).1
      · cases h

/-- A second buyer asks the same seller. -/
def secondRequest : AgentNegotiationRequest where
  requestId := "request-2"
  sourceResultId := "result-4"
  buyerIntentId := "second"
  sellerIntentId := "seller"
  openingPriceAtomic := 5
  publicMessage := "five"
  createdAt := 10
  identifiers := by decide
  openingPositive := five_positive
  messageVisible := five_isVisible

/-- Two buyers have asked the seller, who has engaged with the first. -/
def engagedCalls : List MarketCall :=
  [.publishIntent (intentOf "buyer" .buy buyer_isIdentifier buyer_isVisible),
    .publishIntent (intentOf "second" .buy (by decide) (by decide)),
    .publishIntent (intentOf "seller" .sell seller_isIdentifier seller_isVisible),
    .submitRequests [openingRequest], .submitRequests [secondRequest],
    .engageRequest "seller" "request-1" "result-2"]

/-- The message of a call that raised. -/
def raisedMessage (s : AgentDrivenMarket) (call : MarketCall) : Option String :=
  match call.method.run s with
  | .ok _ _ => none
  | .error e _ => some e

/-- The seller is taken when it turns to the second buyer. -/
theorem raising_call_keeps_market_busy :
    ∃ t, (MarketCall.engageRequest "seller" "request-2" "result-5").method.run
        (({ maxOutbound := 3 } : AgentDrivenMarket).callsInPlace engagedCalls) =
          .error "counterparty_busy" t ∧
      ∃ record, (({ maxOutbound := 3 } : AgentDrivenMarket).callsInPlace engagedCalls).requests.get
          "request-2" = some record ∧ record.status = .pending ∧
        t = { ({ maxOutbound := 3 } : AgentDrivenMarket).callsInPlace engagedCalls with
          requests := (({ maxOutbound := 3 } : AgentDrivenMarket).callsInPlace
            engagedCalls).requests.set "request-2" { record with status := .counterpartyBusy } } := by
  have hmessage : raisedMessage (({ maxOutbound := 3 } : AgentDrivenMarket).callsInPlace engagedCalls)
      (.engageRequest "seller" "request-2" "result-5") = some "counterparty_busy" := by
    decide
  unfold raisedMessage at hmessage
  split at hmessage
  · cases hmessage
  · rename_i e t hrun
    obtain rfl := Option.some.inj hmessage
    exact ⟨t, hrun, (raising_call_keeps_market 3 engagedCalls _ _ t hrun).2 rfl⟩

end AgentDrivenMarket

end Arena402.Game
