/-
A call that returned can be repeated at any later time.

A call that returns leaves its record in the market (`Recorded`).  Later calls keep the
record, up to how its engagement ended, and a market that has the record gives it back
without writing.  The keys by which the operations recognise a repeated call are the indexes
of the market, which is why `Indexed` has to hold in the later market too.
-/
import Arena402.Proofs.Game.MarketResults

namespace Arena402.Game

namespace AgentDrivenMarket

open Py

variable {s t : AgentDrivenMarket}

/-- The same intent, requests or deal, or the same engagement, which may have ended since. -/
inductive Subject.Same : Subject → Subject → Prop
  | intent (i : AgentMarketIntent) : Same (.intent i) (.intent i)
  | requests (l : List AgentNegotiationRequest) : Same (.requests l) (.requests l)
  | engagement {e e' : AgentMarketEngagement} (h : SameTerms e e') :
      Same (.engagement e) (.engagement e')
  | deal (d : AgentMarketDeal) : Same (.deal d) (.deal d)

theorem CloseStatus.engagement_ne_active (status : CloseStatus) : status.engagement ≠ .active := by
  cases status with
  | rejected => decide
  | timedOut => decide

/-- A later market still has the record of a call. -/
theorem Recorded.grows {call : MarketCall} {subject : Subject} (h : Recorded s call subject)
    (hs : Booked s) (ht : Booked t) (hg : Grows s t) :
    ∃ subject', Recorded t call subject' ∧ subject.Same subject' := by
  cases h with
  | intent hintent => exact ⟨_, .intent (hg.intents _ _ hintent), .intent _⟩
  | requests hrecord =>
      obtain ⟨record', hrecord', hrequest, _⟩ := hg.requests _ _ hrecord
      rw [← hrequest]
      exact ⟨_, .requests hrecord', .requests _⟩
  | @selected id selectionResultId e hidentifier hselection hengagement =>
      obtain ⟨id', e', rfl, he, rfl⟩ := (hs.indexed.selections _ _).mp hselection
      obtain rfl := Option.some.inj (hengagement.symm.trans he)
      obtain ⟨e', he', hterms, _⟩ := hg.engagements _ _ hengagement
      have hselection' := (ht.indexed.selections _ _).mpr
        ⟨_, e', rfl, he', hterms.selectionResultId⟩
      refine ⟨_, ?_, .engagement hterms⟩
      rw [← hterms.sellerParticipantId, ← hterms.requestId]
      exact .selected hidentifier hselection' he'
  | @closed id e status hengagement hstatus =>
      obtain ⟨e', he', _, hended⟩ := hg.engagements _ _ hengagement
      obtain rfl := hended (hstatus ▸ status.engagement_ne_active)
      exact ⟨_, .closed he' hstatus, .engagement (.refl _)⟩
  | frozen hidentifiers hdistinct hdeal hproposal hacceptance hprice haccepter =>
      exact ⟨_, .frozen hidentifiers hdistinct (hg.deals _ _ hdeal) hproposal hacceptance hprice
        haccepter, .deal _⟩

/-! ### A market that has the record gives it back -/

theorem publishIntent_of_recorded (hb : Booked s) {id : String} {intent : AgentMarketIntent}
    (hintent : s.intents.get id = some intent) : s.publishIntent intent = .ok (s, intent) := by
  have hfound := (hb.indexed.intents _ _).mpr ⟨id, intent, rfl, hintent, rfl⟩
  simp only [publishIntent, hfound, id_eq, Option.bind_some, hintent]
  rw [if_neg (not_not.mpr rfl)]

theorem submitRequests_of_recorded (hb : Booked s) {id : String} {record : RequestRecord}
    (hrecord : s.requests.get id = some record) :
    s.submitRequests [record.request] = .ok (s, [record.request]) := by
  have hfound := (hb.indexed.requests _ _).mpr ⟨id, record, rfl, hrecord, rfl⟩
  simp [submitRequests, hfound, hrecord]

theorem engageRequest_of_recorded {id selectionResultId : String} {e : AgentMarketEngagement}
    (hidentifier : isIdentifier selectionResultId = true)
    (hselection : s.engagementBySelectionResult.get selectionResultId = some id)
    (hengagement : s.engagements.get id = some e) :
    s.engageRequest e.sellerParticipantId e.requestId selectionResultId = .ok (s, e) := by
  have hrequire : requireIdentifier selectionResultId "selection_result_id" = .ok () :=
    if_pos hidentifier
  simp [engageRequest, hrequire, raised, Except.mapError, hselection, hengagement, bind,
    Except.bind]

theorem requireEngagement_of_get {engagementId : String} {e : AgentMarketEngagement}
    (h : s.engagements.get engagementId = some e) : s.requireEngagement engagementId = .ok e := by
  unfold requireEngagement
  rw [h]

theorem closeEngagement_of_recorded {id : String} {e : AgentMarketEngagement} {status : CloseStatus}
    (hengagement : s.engagements.get id = some e) (hstatus : e.status = status.engagement) :
    s.closeEngagement id status e.terminalSourceResultId = .ok (s, e) := by
  have hended := status.engagement_ne_active
  unfold closeEngagement
  rw [requireEngagement_of_get hengagement]
  simp [bind, Except.bind, hstatus, hended]

theorem freezeDeal_of_recorded (hb : Booked s) {a : Acceptance} {d : AgentMarketDeal}
    (hidentifiers : checkIdentifiers a = .ok ())
    (hdistinct : a.latestProposalResultId ≠ a.acceptanceResultId)
    (hdeal : s.deals.get s!"deal:{a.engagementId}" = some d)
    (hproposal : d.latestProposalResultId = a.latestProposalResultId)
    (hacceptance : d.acceptanceResultId = a.acceptanceResultId)
    (hprice : d.unitPriceAtomic = a.unitPriceAtomic)
    (haccepter : d.acceptedByParticipantId = a.acceptedByParticipantId) :
    s.freezeDeal a = .ok (s, d) := by
  obtain ⟨e, _, _, _, hsealed⟩ := hb.sound.deals _ _ hdeal
  have hid : a.engagementId = d.engagementId := String.append_right_inj _ |>.mp hsealed.dealId
  have hengagement : s.engagements.get a.engagementId = some e := hid ▸ hsealed.engagement
  unfold freezeDeal
  rw [hidentifiers, requireEngagement_of_get hengagement]
  simp [bind, Except.bind, hdistinct, hdeal, hproposal, hacceptance, hprice, haccepter]

theorem perform_of_recorded (hb : Booked s) {call : MarketCall} {subject : Subject}
    (h : Recorded s call subject) : s.perform call = .ok (s, subject) := by
  cases h with
  | intent hintent =>
      simp only [perform, publishIntent_of_recorded hb hintent]
      rfl
  | requests hrecord =>
      simp only [perform, submitRequests_of_recorded hb hrecord]
      rfl
  | selected hidentifier hselection hengagement =>
      simp only [perform, engageRequest_of_recorded hidentifier hselection hengagement]
      rfl
  | closed hengagement hstatus =>
      simp only [perform, closeEngagement_of_recorded hengagement hstatus]
      rfl
  | frozen hidentifiers hdistinct hdeal hproposal hacceptance hprice haccepter =>
      simp only [perform, freezeDeal_of_recorded hb hidentifiers hdistinct hdeal hproposal
        hacceptance hprice haccepter]
      rfl

/-- **A call that returned returns again at any later time, gives back the same intent, requests,
    engagement or deal, and leaves the market as it is.** -/
theorem repeated_call_replays (n : Nat) (before later : List MarketCall) (call : MarketCall)
    (t : AgentDrivenMarket) (subject : Subject)
    (hreturned : (({ maxOutbound := n } : AgentDrivenMarket).calls before).perform call =
      .ok (t, subject)) :
    ∃ subject', (t.calls later).perform call = .ok (t.calls later, subject') ∧
      subject.Same subject' := by
  have hb : Booked t := by
    have hcall := (booked_calls n before).call call
    rw [call_of_perform, hreturned] at hcall
    exact hcall
  have hg : Grows t (t.calls later) := (sound_later later hb.sound).2
  have hlater : Booked (t.calls later) := hb.calls later
  obtain ⟨_, hrecorded⟩ := perform_returns hreturned
  obtain ⟨subject', hrecorded', hsame⟩ := hrecorded.grows hb hlater hg
  exact ⟨subject', perform_of_recorded hlater hrecorded', hsame⟩

/-- The calls up to the request for the herb. -/
def openingCalls : List MarketCall :=
  [.publishIntent (intentOf "buyer" .buy buyer_isIdentifier buyer_isVisible),
    .publishIntent (intentOf "seller" .sell seller_isIdentifier seller_isVisible),
    .submitRequests [openingRequest]]

/-- The seller's selection is delivered again after the deal. -/
theorem repeated_call_replays_selection :
    ∃ t subject, (({ maxOutbound := 3 } : AgentDrivenMarket).calls openingCalls).perform
        (.engageRequest "seller" "request-1" "result-2") = .ok (t, subject) ∧
      ∃ subject', (t.calls [.freezeDeal
          ⟨"engagement:request-1", "result-1", "buyer", "result-3", "seller", 5⟩]).perform
            (.engageRequest "seller" "request-1" "result-2") =
          .ok (t.calls [.freezeDeal
            ⟨"engagement:request-1", "result-1", "buyer", "result-3", "seller", 5⟩], subject') ∧
        subject.Same subject' := by
  have hok : ((({ maxOutbound := 3 } : AgentDrivenMarket).calls openingCalls).perform
      (.engageRequest "seller" "request-1" "result-2")).isOk = true := by decide
  cases hperform : (({ maxOutbound := 3 } : AgentDrivenMarket).calls openingCalls).perform
      (.engageRequest "seller" "request-1" "result-2") with
  | error e =>
      rw [hperform] at hok
      cases hok
  | ok r => exact ⟨r.1, r.2, rfl, repeated_call_replays 3 openingCalls _ _ r.1 r.2 hperform⟩

end AgentDrivenMarket

end Arena402.Game
