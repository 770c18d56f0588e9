/-
What every reachable agent-driven market keeps.

A call changes the market in one of six ways: it publishes an intent, sends a request, marks
a request busy, engages one, closes an engagement or freezes a deal.  Intents, requests and
deals only grow and an engagement that ended stays as it is (`Grows`), so what holds of an
ended engagement holds for good.  The slot map is the one part that shrinks again, and its
exactness is carried by `Sound.slots`.  A deal is the end of an engagement, so its slots are
never released and no participant gets a second one.
-/
import Arena402.Proofs.Game.MarketCalls

namespace Arena402.Game

/-- An engagement that holds its two slots. -/
def AgentMarketEngagement.live (e : AgentMarketEngagement) : Bool :=
  e.status = .active || e.status = .acceptedPendingSettlement

namespace AgentDrivenMarket

open Py

variable {s t u : AgentDrivenMarket}

/-! ### What only grows -/

/-- The engagement is the same up to how it ended. -/
structure SameTerms (e e' : AgentMarketEngagement) : Prop where
  engagementId : e'.engagementId = e.engagementId
  requestId : e'.requestId = e.requestId
  buyerIntentId : e'.buyerIntentId = e.buyerIntentId
  sellerIntentId : e'.sellerIntentId = e.sellerIntentId
  buyerParticipantId : e'.buyerParticipantId = e.buyerParticipantId
  sellerParticipantId : e'.sellerParticipantId = e.sellerParticipantId
  good : e'.good = e.good
  selectionResultId : e'.selectionResultId = e.selectionResultId

/-- The record is of the same request and is not pending again. -/
def KeepsRequest (r r' : RequestRecord) : Prop :=
  r'.request = r.request ∧ (r.status ≠ .pending → r'.status ≠ .pending)

/-- The engagement has the same terms and, once it ended, is the same. -/
def KeepsEngagement (e e' : AgentMarketEngagement) : Prop :=
  SameTerms e e' ∧ (e.status ≠ .active → e' = e)

/-- What later markets keep. -/
structure Grows (s t : AgentDrivenMarket) : Prop where
  intents : ∀ id i, s.intents.get id = some i → t.intents.get id = some i
  requests : ∀ id r, s.requests.get id = some r →
    ∃ r', t.requests.get id = some r' ∧ KeepsRequest r r'
  engagements : ∀ id e, s.engagements.get id = some e →
    ∃ e', t.engagements.get id = some e' ∧ KeepsEngagement e e'
  deals : ∀ id d, s.deals.get id = some d → t.deals.get id = some d

theorem SameTerms.refl (e : AgentMarketEngagement) : SameTerms e e :=
  ⟨rfl, rfl, rfl, rfl, rfl, rfl, rfl, rfl⟩

theorem SameTerms.trans {e e' e'' : AgentMarketEngagement} (h : SameTerms e e')
    (h' : SameTerms e' e'') : SameTerms e e'' :=
  ⟨h'.1.trans h.1, h'.2.trans h.2, h'.3.trans h.3, h'.4.trans h.4, h'.5.trans h.5,
    h'.6.trans h.6, h'.7.trans h.7, h'.8.trans h.8⟩

theorem Grows.refl (s : AgentDrivenMarket) : Grows s s :=
  ⟨fun _ _ h => h, fun _ r h => ⟨r, h, rfl, id⟩, fun _ e h => ⟨e, h, .refl e, fun _ => rfl⟩,
    fun _ _ h => h⟩

theorem Grows.trans (hst : Grows s t) (htu : Grows t u) : Grows s u := by
  refine ⟨fun id i h => htu.intents id i (hst.intents id i h), ?_, ?_,
    fun id d h => htu.deals id d (hst.deals id d h)⟩
  · intro id r h
    obtain ⟨r', h', hreq, hstatus⟩ := hst.requests id r h
    obtain ⟨r'', h'', hreq', hstatus'⟩ := htu.requests id r' h'
    exact ⟨r'', h'', hreq'.trans hreq, fun hp => hstatus' (hstatus hp)⟩
  · intro id e h
    obtain ⟨e', h', hterms, hended⟩ := hst.engagements id e h
    obtain ⟨e'', h'', hterms', hended'⟩ := htu.engagements id e' h'
    refine ⟨e'', h'', hterms.trans hterms', fun hne => ?_⟩
    have heq := hended hne
    rw [hended' (heq ▸ hne), heq]

/-- A write at a new key, or one that keeps what matters of the old row. -/
theorem get_set_grows {κ α : Type} [DecidableEq κ] {d : Dict κ α} {k : κ} {v : α}
    {R : α → α → Prop} (hrefl : ∀ a, R a a) (hold : ∀ old, d.get k = some old → R old v) :
    ∀ id a, d.get id = some a → ∃ a', (d.set k v).get id = some a' ∧ R a a' := by
  intro id a h
  by_cases hid : id = k
  · subst hid
    exact ⟨v, Dict.get_set_self _ _ _, hold a h⟩
  · exact ⟨a, (Dict.get_set_ne d v hid).trans h, hrefl a⟩

/-- A market that differs in requests, engagements, slots and claims only. -/
theorem grows_of (hintents : t.intents = s.intents) (hdeals : t.deals = s.deals)
    (hrequests : ∀ id r, s.requests.get id = some r →
      ∃ r', t.requests.get id = some r' ∧ KeepsRequest r r')
    (hengagements : ∀ id e, s.engagements.get id = some e →
      ∃ e', t.engagements.get id = some e' ∧ KeepsEngagement e e') : Grows s t :=
  ⟨fun _ _ h => hintents ▸ h, hrequests, hengagements, fun _ _ h => hdeals ▸ h⟩

/-! ### The invariant -/

/-- An engagement with its two intents and the record of its request. -/
structure Engages (s : AgentDrivenMarket) (e : AgentMarketEngagement)
    (buyer seller : AgentMarketIntent) (record : RequestRecord) : Prop where
  buyerIntent : s.intents.get e.buyerIntentId = some buyer
  sellerIntent : s.intents.get e.sellerIntentId = some seller
  found : s.requests.get e.requestId = some record
  taken : record.status ≠ .pending
  counterparties : Counterparties buyer seller
  buyerParticipant : e.buyerParticipantId = buyer.participantId
  sellerParticipant : e.sellerParticipantId = seller.participantId
  good : e.good = buyer.good

/-- A slot of a live engagement: its buyer's or its seller's. -/
def Holds (s : AgentDrivenMarket) (id : String) (slot : SlotKey) : Prop :=
  ∃ e buyer seller, s.engagements.get id = some e ∧ e.live = true ∧
    s.intents.get e.buyerIntentId = some buyer ∧ s.intents.get e.sellerIntentId = some seller ∧
    (slot = slotKey buyer ∨ slot = slotKey seller)

/-- The terms of a deal: who traded what, within which limits, and how it was agreed. -/
structure Terms (d : AgentMarketDeal) (buyer seller : AgentMarketIntent)
    (request : AgentNegotiationRequest) : Prop where
  counterparties : Counterparties buyer seller
  buyerParticipant : d.buyerParticipantId = buyer.participantId
  sellerParticipant : d.sellerParticipantId = seller.participantId
  good : d.good = buyer.good
  positive : 0 < d.unitPriceAtomic
  ceiling : d.unitPriceAtomic ≤ buyer.limitPriceAtomic
  floor : seller.limitPriceAtomic ≤ d.unitPriceAtomic
  distinct : d.latestProposalResultId ≠ d.acceptanceResultId
  accepter : d.acceptedByParticipantId = buyer.participantId ∨
    d.acceptedByParticipantId = seller.participantId
  /-- A deal on the RFQ itself is at its price and accepted by the seller. -/
  opening : d.latestProposalResultId = request.sourceResultId →
    d.unitPriceAtomic = request.openingPriceAtomic ∧
      d.acceptedByParticipantId = seller.participantId

/-- A deal with the engagement that it ended. -/
structure Sealed (s : AgentDrivenMarket) (id : String) (d : AgentMarketDeal)
    (e : AgentMarketEngagement) (buyer seller : AgentMarketIntent) (record : RequestRecord) :
    Prop where
  dealId : id = s!"deal:{d.engagementId}"
  engagement : s.engagements.get d.engagementId = some e
  accepted : e.status = .acceptedPendingSettlement
  requestId : d.requestId = e.requestId
  engages : Engages s e buyer seller record
  terms : Terms d buyer seller record.request

/-- What every reachable market keeps. -/
structure Sound (s : AgentDrivenMarket) : Prop where
  intentIds : ∀ id i, s.intents.get id = some i → i.intentId = id
  requests : ∀ id r, s.requests.get id = some r → ∃ buyer seller, Targets s buyer seller r
  engagements : ∀ id e, s.engagements.get id = some e → e.engagementId = id ∧
    id = s!"engagement:{e.requestId}" ∧ ∃ buyer seller record, Engages s e buyer seller record
  slots : ∀ slot id, s.reservedSlots.get slot = some id ↔ Holds s id slot
  deals : ∀ id d, s.deals.get id = some d → ∃ e buyer seller record,
    Sealed s id d e buyer seller record

theorem sound_empty (n : Nat) : Sound { maxOutbound := n } := by
  have hslots : ∀ slot id, ({ maxOutbound := n } : AgentDrivenMarket).reservedSlots.get slot = some id ↔
      Holds { maxOutbound := n } id slot := by
    intro slot id
    constructor
    · intro h
      cases h
    · rintro ⟨e, _, _, h, _⟩
      cases h
  exact ⟨by simp, by simp, by simp, hslots, by simp⟩

theorem Targets.grows {buyer seller : AgentMarketIntent} {r r' : RequestRecord}
    (h : Targets s buyer seller r) (hg : Grows s t) (hr : r'.request = r.request) :
    Targets t buyer seller r' :=
  ⟨hr ▸ hg.intents _ _ h.buyerIntent, hr ▸ hg.intents _ _ h.sellerIntent, h.counterparties⟩

theorem Engages.grows {e e' : AgentMarketEngagement} {buyer seller : AgentMarketIntent}
    {record : RequestRecord} (h : Engages s e buyer seller record) (hg : Grows s t)
    (he : SameTerms e e') :
    ∃ record', Engages t e' buyer seller record' ∧ record'.request = record.request := by
  obtain ⟨record', hrecord', hreq, hstatus⟩ := hg.requests _ _ h.found
  refine ⟨record', ⟨?_, ?_, ?_, hstatus h.taken, h.counterparties, ?_, ?_, ?_⟩, hreq⟩
  · rw [he.buyerIntentId]
    exact hg.intents _ _ h.buyerIntent
  · rw [he.sellerIntentId]
    exact hg.intents _ _ h.sellerIntent
  · rw [he.requestId]
    exact hrecord'
  · rw [he.buyerParticipantId]
    exact h.buyerParticipant
  · rw [he.sellerParticipantId]
    exact h.sellerParticipant
  · rw [he.good]
    exact h.good

theorem Sealed.grows {id : String} {d : AgentMarketDeal} {e : AgentMarketEngagement}
    {buyer seller : AgentMarketIntent} {record : RequestRecord}
    (h : Sealed s id d e buyer seller record) (hg : Grows s t) :
    ∃ record', Sealed t id d e buyer seller record' := by
  obtain ⟨record', hengages, hreq⟩ := h.engages.grows hg (.refl e)
  obtain ⟨e', he', _, hended⟩ := hg.engagements _ _ h.engagement
  have hne : e.status ≠ .active := by
    rw [h.accepted]
    decide
  rw [hended hne] at he'
  exact ⟨record', h.dealId, he', h.accepted, h.requestId, hengages, hreq ▸ h.terms⟩

/-- What of an engagement decides which slots it holds. -/
def holding (e : AgentMarketEngagement) : Bool × String × String :=
  (e.live, e.buyerIntentId, e.sellerIntentId)

/-- A slot is held as before when its engagement is as before. -/
theorem holds_congr (hs : Sound s) (hg : Grows s t) {id : String}
    (hsame : (t.engagements.get id).map holding = (s.engagements.get id).map holding)
    (slot : SlotKey) : Holds t id slot ↔ Holds s id slot := by
  constructor
  · rintro ⟨e', buyer, seller, he', hlive, hb, hsl, hslot⟩
    rw [he', Option.map_some] at hsame
    obtain ⟨e, he, hhold⟩ := Option.map_eq_some_iff.mp hsame.symm
    obtain ⟨_, _, buyer', seller', record, hengages⟩ := hs.engagements id e he
    have hbid : e.buyerIntentId = e'.buyerIntentId := congrArg (·.2.1) hhold
    have hsid : e.sellerIntentId = e'.sellerIntentId := congrArg (·.2.2) hhold
    have hb' := hg.intents _ _ hengages.buyerIntent
    have hs' := hg.intents _ _ hengages.sellerIntent
    rw [hbid, hb] at hb'
    rw [hsid, hsl] at hs'
    obtain rfl := Option.some.inj hb'
    obtain rfl := Option.some.inj hs'
    exact ⟨e, buyer, seller, he, (congrArg (·.1) hhold).trans hlive, hengages.buyerIntent,
      hengages.sellerIntent, hslot⟩
  · rintro ⟨e, buyer, seller, he, hlive, hb, hsl, hslot⟩
    rw [he, Option.map_some] at hsame
    obtain ⟨e', he', hhold⟩ := Option.map_eq_some_iff.mp hsame
    have hbid : e'.buyerIntentId = e.buyerIntentId := congrArg (·.2.1) hhold
    have hsid : e'.sellerIntentId = e.sellerIntentId := congrArg (·.2.2) hhold
    exact ⟨e', buyer, seller, he', (congrArg (·.1) hhold).trans hlive,
      hbid ▸ hg.intents _ _ hb, hsid ▸ hg.intents _ _ hsl, hslot⟩

/-- A later market is sound when its new rows are and its slots are exact. -/
theorem sound_of_grows (hs : Sound s) (hg : Grows s t)
    (hintents : ∀ id i, t.intents.get id = some i → s.intents.get id = some i ∨ i.intentId = id)
    (hrequests : ∀ id r, t.requests.get id = some r →
      (∃ r0, s.requests.get id = some r0 ∧ r.request = r0.request) ∨
        ∃ buyer seller, Targets t buyer seller r)
    (hengagements : ∀ id e, t.engagements.get id = some e →
      (∃ e0, s.engagements.get id = some e0 ∧ SameTerms e0 e) ∨
        (e.engagementId = id ∧ id = s!"engagement:{e.requestId}" ∧
          ∃ buyer seller record, Engages t e buyer seller record))
    (hslots : ∀ slot id, t.reservedSlots.get slot = some id ↔ Holds t id slot)
    (hdeals : ∀ id d, t.deals.get id = some d → s.deals.get id = some d ∨
      ∃ e buyer seller record, Sealed t id d e buyer seller record) : Sound t := by
  refine ⟨?_, ?_, ?_, hslots, ?_⟩
  · intro id i h
    rcases hintents id i h with hold | hnew
    · exact hs.intentIds id i hold
    · exact hnew
  · intro id r h
    rcases hrequests id r h with ⟨r0, hold, hreq⟩ | hnew
    · obtain ⟨buyer, seller, htargets⟩ := hs.requests id r0 hold
      exact ⟨buyer, seller, htargets.grows hg hreq⟩
    · exact hnew
  · intro id e h
    rcases hengagements id e h with ⟨e0, hold, hterms⟩ | hnew
    · obtain ⟨heid, hid, buyer, seller, record, hengages⟩ := hs.engagements id e0 hold
      obtain ⟨record', hengages', _⟩ := hengages.grows hg hterms
      refine ⟨hterms.engagementId.trans heid, ?_, buyer, seller, record', hengages'⟩
      rw [hterms.requestId]
      exact hid
    · exact hnew
  · intro id d h
    rcases hdeals id d h with hold | hnew
    · obtain ⟨e, buyer, seller, record, hsealed⟩ := hs.deals id d hold
      obtain ⟨record', hsealed'⟩ := hsealed.grows hg
      exact ⟨e, buyer, seller, record', hsealed'⟩
    · exact hnew

/-! ### Each move keeps it -/

/-- A market with the same intents, requests, engagements, slots and deals. -/
theorem sound_of_grows_same (hs : Sound s) (hg : Grows s t)
    (hintents : ∀ id i, t.intents.get id = some i → s.intents.get id = some i ∨ i.intentId = id)
    (hrequests : ∀ id r, t.requests.get id = some r →
      (∃ r0, s.requests.get id = some r0 ∧ r.request = r0.request) ∨
        ∃ buyer seller, Targets t buyer seller r)
    (hengagements : t.engagements = s.engagements) (hslots : t.reservedSlots = s.reservedSlots)
    (hdeals : t.deals = s.deals) : Sound t := by
  refine sound_of_grows hs hg hintents hrequests ?_ ?_ ?_
  · intro id e h
    rw [hengagements] at h
    exact Or.inl ⟨e, h, .refl e⟩
  · intro slot id
    rw [hslots, hs.slots slot id]
    exact (holds_congr hs hg (by rw [hengagements]) slot).symm
  · intro id d h
    rw [hdeals] at h
    exact Or.inl h

theorem grows_claim (s : AgentDrivenMarket) (claims : Dict String (String × String)) :
    Grows s { s with resultClaims := claims } :=
  grows_of rfl rfl (Grows.refl s).requests (Grows.refl s).engagements

theorem sound_claim (hs : Sound s) (claims : Dict String (String × String)) :
    Sound { s with resultClaims := claims } :=
  sound_of_grows_same hs (grows_claim s claims) (fun _ _ h => Or.inl h)
    (fun _ r h => Or.inl ⟨r, h, rfl⟩) rfl rfl rfl

theorem grows_publish {intent : AgentMarketIntent} (hfresh : s.intents.get intent.intentId = none)
    (byResult : Dict String String) (byRound : Dict SlotKey String) :
    Grows s { s with
      intents := s.intents.set intent.intentId intent
      intentByResult := byResult
      intentByParticipantRound := byRound } :=
  ⟨fun _ _ h => Dict.get_set_fresh _ hfresh h, (Grows.refl s).requests, (Grows.refl s).engagements,
    (Grows.refl s).deals⟩

theorem sound_publish (hs : Sound s) {intent : AgentMarketIntent}
    (hfresh : s.intents.get intent.intentId = none) (byResult : Dict String String)
    (byRound : Dict SlotKey String) :
    Sound { s with
      intents := s.intents.set intent.intentId intent
      intentByResult := byResult
      intentByParticipantRound := byRound } := by
  refine sound_of_grows_same hs (grows_publish hfresh byResult byRound) ?_
    (fun _ r h => Or.inl ⟨r, h, rfl⟩) rfl rfl rfl
  intro id i h
  have hget : (s.intents.set intent.intentId intent).get id = some i := h
  rw [Dict.get_set] at hget
  by_cases hid : id = intent.intentId
  · rw [if_pos hid] at hget
    obtain rfl := Option.some.inj hget
    exact Or.inr hid.symm
  · rw [if_neg hid] at hget
    exact Or.inl hget

theorem grows_addRequest {request : AgentNegotiationRequest}
    (hfresh : s.requests.get request.requestId = none) (targets : List String) :
    Grows s (s.addRequest targets request) :=
  grows_of rfl rfl (fun _ r h => ⟨r, Dict.get_set_fresh _ hfresh h, rfl, id⟩) (Grows.refl s).engagements

theorem sound_addRequest (hs : Sound s) {request : AgentNegotiationRequest}
    {buyer seller : AgentMarketIntent} (hfresh : s.requests.get request.requestId = none)
    (htargets : Targets s buyer seller { request := request }) (targets : List String) :
    Sound (s.addRequest targets request) := by
  have hg := grows_addRequest hfresh targets
  refine sound_of_grows_same hs hg (fun _ _ h => Or.inl h) ?_ rfl rfl rfl
  intro id r h
  have hget : (s.requests.set request.requestId { request := request }).get id = some r := h
  rw [Dict.get_set] at hget
  by_cases hid : id = request.requestId
  · rw [if_pos hid] at hget
    obtain rfl := Option.some.inj hget
    exact Or.inr ⟨buyer, seller, htargets.grows hg rfl⟩
  · rw [if_neg hid] at hget
    exact Or.inl ⟨r, hget, rfl⟩

theorem grows_markBusy {requestId : String} {record : RequestRecord}
    (hrecord : s.requests.get requestId = some record) : Grows s (s.markBusy requestId record) := by
  refine grows_of rfl rfl ?_ (Grows.refl s).engagements
  refine get_set_grows (R := KeepsRequest) (fun _ => ⟨rfl, id⟩) ?_
  intro old hold
  rw [hrecord] at hold
  obtain rfl := Option.some.inj hold
  exact ⟨rfl, fun _ => by simp⟩

theorem sound_markBusy (hs : Sound s) {requestId : String} {record : RequestRecord}
    (hrecord : s.requests.get requestId = some record) : Sound (s.markBusy requestId record) := by
  refine sound_of_grows_same hs (grows_markBusy hrecord) (fun _ _ h => Or.inl h) ?_ rfl rfl rfl
  intro id r h
  have hget : (s.requests.set requestId { record with status := .counterpartyBusy }).get id = some r :=
    h
  rw [Dict.get_set] at hget
  by_cases hid : id = requestId
  · rw [if_pos hid] at hget
    obtain rfl := Option.some.inj hget
    exact Or.inl ⟨record, hid ▸ hrecord, rfl⟩
  · rw [if_neg hid] at hget
    exact Or.inl ⟨r, hget, rfl⟩

/-- The engagement of a request that is still pending does not exist yet. -/
theorem Sound.engagement_fresh (hs : Sound s) {requestId : String} {record : RequestRecord}
    (hrecord : s.requests.get requestId = some record) (hpending : record.status = .pending) :
    s.engagements.get s!"engagement:{requestId}" = none := by
  refine Option.eq_none_iff_forall_ne_some.mpr fun e he => ?_
  obtain ⟨_, hid, _, _, record', hengages⟩ := hs.engagements _ e he
  have hreq : requestId = e.requestId := String.append_right_inj _ |>.mp hid
  have hfound := hengages.found
  rw [← hreq, hrecord] at hfound
  obtain rfl := Option.some.inj hfound
  exact hengages.taken hpending

section Engage

variable {requestId selectionResultId : String} {record : RequestRecord}
  {buyer seller : AgentMarketIntent}

theorem grows_addEngagement (hs : Sound s) (hrecord : s.requests.get requestId = some record)
    (hpending : record.status = .pending) (buyer seller : AgentMarketIntent)
    (selectionResultId : String) :
    Grows s (s.addEngagement buyer seller record
      (engagementOf buyer seller requestId selectionResultId)) := by
  have hfresh := hs.engagement_fresh hrecord hpending
  refine grows_of rfl rfl ?_ ?_
  · refine get_set_grows (R := KeepsRequest) (fun _ => ⟨rfl, id⟩) ?_
    intro old hold
    have hold' : s.requests.get requestId = some old := hold
    rw [hrecord] at hold'
    obtain rfl := Option.some.inj hold'
    exact ⟨rfl, fun _ => by simp⟩
  · intro id e he
    exact ⟨e, Dict.get_set_fresh _ hfresh he, .refl e, fun _ => rfl⟩

theorem get_engagements_addEngagement :
    (s.addEngagement buyer seller record
      (engagementOf buyer seller requestId selectionResultId)).engagements.get
        s!"engagement:{requestId}" = some (engagementOf buyer seller requestId selectionResultId) :=
  Dict.get_set_self _ _ _

theorem engages_addEngagement (hs : Sound s) (hrecord : s.requests.get requestId = some record)
    (hbuyer : s.intents.get record.request.buyerIntentId = some buyer)
    (hseller : s.intents.get record.request.sellerIntentId = some seller) :
    Engages (s.addEngagement buyer seller record
        (engagementOf buyer seller requestId selectionResultId))
      (engagementOf buyer seller requestId selectionResultId) buyer seller
      { record with
        status := .engaged
        engagementId := some s!"engagement:{requestId}" } := by
  obtain ⟨buyer', seller', htargets⟩ := hs.requests _ _ hrecord
  obtain rfl := Option.some.inj (hbuyer.symm.trans htargets.buyerIntent)
  obtain rfl := Option.some.inj (hseller.symm.trans htargets.sellerIntent)
  refine ⟨?_, ?_, Dict.get_set_self _ _ _, by simp, htargets.counterparties, rfl, rfl, rfl⟩
  · show s.intents.get buyer.intentId = some buyer
    rw [hs.intentIds _ _ hbuyer]
    exact hbuyer
  · show s.intents.get seller.intentId = some seller
    rw [hs.intentIds _ _ hseller]
    exact hseller

/-- The new engagement holds the slots of its two intents. -/
theorem holds_addEngagement_iff {slot : SlotKey}
    (hengages : Engages (s.addEngagement buyer seller record
        (engagementOf buyer seller requestId selectionResultId))
      (engagementOf buyer seller requestId selectionResultId) buyer seller
      { record with
        status := .engaged
        engagementId := some s!"engagement:{requestId}" }) :
    Holds (s.addEngagement buyer seller record
        (engagementOf buyer seller requestId selectionResultId)) s!"engagement:{requestId}" slot ↔
      (slot = slotKey buyer ∨ slot = slotKey seller) := by
  constructor
  · rintro ⟨e, b, sl, he, _, hb, hsl, hslot⟩
    rw [get_engagements_addEngagement] at he
    obtain rfl := Option.some.inj he
    obtain rfl := Option.some.inj (hb.symm.trans hengages.buyerIntent)
    obtain rfl := Option.some.inj (hsl.symm.trans hengages.sellerIntent)
    exact hslot
  · intro hslot
    exact ⟨_, buyer, seller, get_engagements_addEngagement, rfl, hengages.buyerIntent,
      hengages.sellerIntent, hslot⟩

theorem slots_addEngagement (hs : Sound s) (hrecord : s.requests.get requestId = some record)
    (hpending : record.status = .pending)
    (hbuyer : s.intents.get record.request.buyerIntentId = some buyer)
    (hseller : s.intents.get record.request.sellerIntentId = some seller)
    (hfreeb : s.reservedSlots.get (slotKey buyer) = none)
    (hfrees : s.reservedSlots.get (slotKey seller) = none) (slot : SlotKey) (id : String) :
    (s.addEngagement buyer seller record
        (engagementOf buyer seller requestId selectionResultId)).reservedSlots.get slot = some id ↔
      Holds (s.addEngagement buyer seller record
        (engagementOf buyer seller requestId selectionResultId)) id slot := by
  have hfresh := hs.engagement_fresh hrecord hpending
  have hg := grows_addEngagement hs hrecord hpending buyer seller selectionResultId
  show ((s.reservedSlots.set (slotKey buyer) s!"engagement:{requestId}").set (slotKey seller)
    s!"engagement:{requestId}").get slot = some id ↔ _
  rw [Dict.get_set_set]
  by_cases hid : id = s!"engagement:{requestId}"
  · rw [hid, holds_addEngagement_iff (engages_addEngagement hs hrecord hbuyer hseller)]
    by_cases hslot : slot = slotKey buyer ∨ slot = slotKey seller
    · rw [if_pos hslot]
      exact ⟨fun _ => hslot, fun _ => rfl⟩
    · rw [if_neg hslot]
      refine ⟨fun hheld => ?_, fun h => absurd h hslot⟩
      -- nothing was held under the new id
      obtain ⟨e, _, _, he, _⟩ := (hs.slots slot _).mp hheld
      rw [hfresh] at he
      cases he
  · have hsame : (s.addEngagement buyer seller record
        (engagementOf buyer seller requestId selectionResultId)).engagements.get id =
          s.engagements.get id := Dict.get_set_ne _ _ hid
    rw [holds_congr hs hg (by rw [hsame]) slot, ← hs.slots slot id]
    by_cases hslot : slot = slotKey buyer ∨ slot = slotKey seller
    · have hfree : s.reservedSlots.get slot = none := by
        rcases hslot with rfl | rfl
        · exact hfreeb
        · exact hfrees
      rw [if_pos hslot, hfree]
      exact ⟨fun h => absurd (Option.some.inj h).symm hid, fun h => by cases h⟩
    · rw [if_neg hslot]

theorem sound_addEngagement (hs : Sound s) (hrecord : s.requests.get requestId = some record)
    (hpending : record.status = .pending)
    (hbuyer : s.intents.get record.request.buyerIntentId = some buyer)
    (hseller : s.intents.get record.request.sellerIntentId = some seller)
    (hfreeb : s.reservedSlots.get (slotKey buyer) = none)
    (hfrees : s.reservedSlots.get (slotKey seller) = none) :
    Sound (s.addEngagement buyer seller record
      (engagementOf buyer seller requestId selectionResultId)) := by
  have hg := grows_addEngagement hs hrecord hpending buyer seller selectionResultId
  refine sound_of_grows hs hg (fun _ _ h => Or.inl h) ?_ ?_
    (slots_addEngagement hs hrecord hpending hbuyer hseller hfreeb hfrees) (fun _ _ h => Or.inl h)
  · intro id r h
    have hget : (s.requests.set requestId { record with
        status := .engaged
        engagementId := some s!"engagement:{requestId}" }).get id = some r := h
    rw [Dict.get_set] at hget
    by_cases hid : id = requestId
    · rw [if_pos hid] at hget
      obtain rfl := Option.some.inj hget
      exact Or.inl ⟨record, hid ▸ hrecord, rfl⟩
    · rw [if_neg hid] at hget
      exact Or.inl ⟨r, hget, rfl⟩
  · intro id e h
    by_cases hid : id = s!"engagement:{requestId}"
    · rw [hid, get_engagements_addEngagement] at h
      obtain rfl := Option.some.inj h
      exact Or.inr ⟨hid.symm, hid, buyer, seller, _,
        engages_addEngagement hs hrecord hbuyer hseller⟩
    · have hget : s.engagements.get id = some e := (Dict.get_set_ne _ _ hid).symm.trans h
      exact Or.inl ⟨e, hget, .refl e⟩

end Engage

section Close

variable {engagementId : String} {engagement : AgentMarketEngagement} {status : CloseStatus}
  {sourceResultId : Option String} {buyer seller : AgentMarketIntent}

theorem grows_closeWith (hengagement : s.engagements.get engagementId = some engagement)
    (hactive : engagement.status = .active) (status : CloseStatus) (sourceResultId : Option String)
    (buyer seller : AgentMarketIntent) :
    Grows s (s.closeWith engagementId engagement status sourceResultId buyer seller) := by
  refine grows_of rfl rfl ?_ ?_
  · intro id r h
    have hget : (s.requests.update (fun id _ => id = engagement.requestId)
        fun record => { record with status := .rejected }).get id = _ :=
      Dict.get_update _ _ _ id
    rw [h, Option.map_some] at hget
    refine ⟨_, hget, ?_⟩
    by_cases hid : id = engagement.requestId
    · rw [if_pos (decide_eq_true hid)]
      exact ⟨rfl, fun _ => by simp⟩
    · rw [if_neg (by simpa using hid)]
      exact ⟨rfl, fun h => h⟩
  · refine get_set_grows (R := KeepsEngagement) (fun e => ⟨.refl e, fun _ => rfl⟩) ?_
    intro old hold
    rw [hengagement] at hold
    obtain rfl := Option.some.inj hold
    exact ⟨⟨rfl, rfl, rfl, rfl, rfl, rfl, rfl, rfl⟩, fun hne => absurd hactive hne⟩

/-- What a read of the slots sees after both slots of an engagement were released. -/
theorem get_releaseSlot (slots : Dict SlotKey String) (id : String) (released slot : SlotKey) :
    (releaseSlot id slots released).get slot =
      if slot = released ∧ slots.get slot = some id then none else slots.get slot := by
  unfold releaseSlot
  by_cases hheld : slots.get released = some id
  · rw [if_pos hheld, Dict.get_erase]
    by_cases hslot : slot = released
    · rw [if_pos hslot, hslot, if_pos ⟨rfl, hheld⟩]
    · rw [if_neg hslot, if_neg fun h => hslot h.1]
  · rw [if_neg hheld]
    by_cases hslot : slot = released
    · rw [hslot, if_neg fun h => hheld h.2]
    · rw [if_neg fun h => hslot h.1]

theorem get_releaseSlots (slots : Dict SlotKey String) (id : String) (first second slot : SlotKey) :
    ([first, second].foldl (releaseSlot id) slots).get slot =
      if (slot = first ∨ slot = second) ∧ slots.get slot = some id then none
      else slots.get slot := by
  show (releaseSlot id (releaseSlot id slots first) second).get slot = _
  rw [get_releaseSlot, get_releaseSlot]
  by_cases hheld : slots.get slot = some id
  · by_cases hfirst : slot = first
    · simp [hfirst]
    · by_cases hsecond : slot = second
      · subst hsecond
        simp [hfirst, hheld]
      · simp [hfirst, hsecond]
  · simp [hheld]

theorem slots_closeWith (hs : Sound s) (hengagement : s.engagements.get engagementId = some engagement)
    (hactive : engagement.status = .active)
    (hbuyer : s.intents.get engagement.buyerIntentId = some buyer)
    (hseller : s.intents.get engagement.sellerIntentId = some seller) (slot : SlotKey)
    (id : String) :
    (s.closeWith engagementId engagement status sourceResultId buyer seller).reservedSlots.get slot
        = some id ↔
      Holds (s.closeWith engagementId engagement status sourceResultId buyer seller) id slot := by
  have heid : engagement.engagementId = engagementId := (hs.engagements _ _ hengagement).1
  have hg := grows_closeWith hengagement hactive status sourceResultId buyer seller
  show ([slotKey buyer, slotKey seller].foldl (releaseSlot engagement.engagementId)
    s.reservedSlots).get slot = some id ↔ _
  rw [get_releaseSlots, heid]
  by_cases hid : id = engagementId
  · -- the engagement has ended and holds nothing, and nothing is left of its slots
    have hended : ¬ Holds (s.closeWith engagementId engagement status sourceResultId buyer seller)
        id slot := by
      rintro ⟨e, _, _, he, hlive, _⟩
      have hget : (s.closeWith engagementId engagement status sourceResultId buyer
          seller).engagements.get engagementId = some { engagement with
            status := status.engagement
            terminalSourceResultId := sourceResultId } := Dict.get_set_self _ _ _
      rw [hid, hget] at he
      obtain rfl := Option.some.inj he
      cases status <;> simp [AgentMarketEngagement.live, CloseStatus.engagement] at hlive
    refine ⟨fun hget => ?_, fun h => absurd h hended⟩
    by_cases hheld : s.reservedSlots.get slot = some engagementId
    · obtain ⟨e, b, sl, he, _, hb, hsl, hslot⟩ := (hs.slots slot _).mp hheld
      rw [hengagement] at he
      obtain rfl := Option.some.inj he
      obtain rfl := Option.some.inj (hb.symm.trans hbuyer)
      obtain rfl := Option.some.inj (hsl.symm.trans hseller)
      rw [if_pos ⟨hslot, hheld⟩] at hget
      cases hget
    · rw [if_neg fun h => hheld h.2, hid] at hget
      exact absurd hget hheld
  · have hsame : (s.closeWith engagementId engagement status sourceResultId buyer
        seller).engagements.get id = s.engagements.get id := Dict.get_set_ne _ _ hid
    rw [holds_congr hs hg (by rw [hsame]) slot, ← hs.slots slot id]
    by_cases hheld : s.reservedSlots.get slot = some engagementId
    · rw [hheld]
      have hne : (some engagementId : Option String) ≠ some id :=
        fun h => hid (Option.some.inj h).symm
      by_cases hslot : slot = slotKey buyer ∨ slot = slotKey seller
      · rw [if_pos ⟨hslot, rfl⟩]
        exact ⟨nofun, fun h => absurd h hne⟩
      · rw [if_neg fun h => hslot h.1]
    · rw [if_neg fun h => hheld h.2]

theorem sound_closeWith (hs : Sound s) (hengagement : s.engagements.get engagementId = some engagement)
    (hactive : engagement.status = .active)
    (hbuyer : s.intents.get engagement.buyerIntentId = some buyer)
    (hseller : s.intents.get engagement.sellerIntentId = some seller) :
    Sound (s.closeWith engagementId engagement status sourceResultId buyer seller) := by
  have hg := grows_closeWith hengagement hactive status sourceResultId buyer seller
  refine sound_of_grows hs hg (fun _ _ h => Or.inl h) ?_ ?_
    (slots_closeWith hs hengagement hactive hbuyer hseller) (fun _ _ h => Or.inl h)
  · intro id r h
    have hget : (s.requests.update (fun id _ => id = engagement.requestId)
        fun record => { record with status := .rejected }).get id = some r := h
    rw [Dict.get_update] at hget
    obtain ⟨r0, hr0, rfl⟩ := Option.map_eq_some_iff.mp hget
    refine Or.inl ⟨r0, hr0, ?_⟩
    split <;> rfl
  · intro id e h
    have hget : (s.engagements.set engagementId { engagement with
        status := status.engagement
        terminalSourceResultId := sourceResultId }).get id = some e := h
    rw [Dict.get_set] at hget
    by_cases hid : id = engagementId
    · rw [if_pos hid] at hget
      obtain rfl := Option.some.inj hget
      exact Or.inl ⟨engagement, hid ▸ hengagement, rfl, rfl, rfl, rfl, rfl, rfl, rfl, rfl⟩
    · rw [if_neg hid] at hget
      exact Or.inl ⟨e, hget, .refl e⟩

end Close

section Deal

variable {a : Acceptance} {engagement : AgentMarketEngagement} {buyer seller : AgentMarketIntent}
  {record : RequestRecord}

theorem grows_addDeal (hengagement : s.engagements.get a.engagementId = some engagement)
    (hactive : engagement.status = .active)
    (hnone : s.deals.get (dealOf a engagement).dealId = none) :
    Grows s (s.addDeal a engagement) := by
  refine ⟨fun _ _ h => h, (Grows.refl s).requests, ?_, fun _ _ h => Dict.get_set_fresh _ hnone h⟩
  refine get_set_grows (R := KeepsEngagement) (fun e => ⟨.refl e, fun _ => rfl⟩) ?_
  intro old hold
  rw [hengagement] at hold
  obtain rfl := Option.some.inj hold
  exact ⟨⟨rfl, rfl, rfl, rfl, rfl, rfl, rfl, rfl⟩, fun hne => absurd hactive hne⟩

/-- One side proposed and the other accepted. -/
theorem accepter_of_opposite (h : oppositeCounterparties a engagement = true)
    (hne : engagement.buyerParticipantId ≠ engagement.sellerParticipantId) :
    (a.acceptedByParticipantId = engagement.buyerParticipantId ∨
      a.acceptedByParticipantId = engagement.sellerParticipantId) ∧
    (a.latestProposalActorId = engagement.buyerParticipantId →
      a.acceptedByParticipantId = engagement.sellerParticipantId) := by
  have hset : ({a.latestProposalActorId, a.acceptedByParticipantId} : Finset String) =
      {engagement.buyerParticipantId, engagement.sellerParticipantId} := of_decide_eq_true h
  constructor
  · have hmem : a.acceptedByParticipantId ∈
        ({a.latestProposalActorId, a.acceptedByParticipantId} : Finset String) := by simp
    rw [hset] at hmem
    simpa using hmem
  · intro hactor
    have hmem : engagement.sellerParticipantId ∈
        ({engagement.buyerParticipantId, engagement.sellerParticipantId} : Finset String) := by simp
    rw [← hset, hactor] at hmem
    rcases Finset.mem_insert.mp hmem with hbuyer | hseller
    · exact absurd hbuyer.symm hne
    · exact (Finset.mem_singleton.mp hseller).symm

theorem terms_dealOf (hengages : Engages s engagement buyer seller record)
    (hopposite : oppositeCounterparties a engagement = true)
    (hprice : PriceOk a buyer seller record) :
    Terms (dealOf a engagement) buyer seller record.request := by
  have hne : engagement.buyerParticipantId ≠ engagement.sellerParticipantId := by
    rw [hengages.buyerParticipant, hengages.sellerParticipant]
    exact hengages.counterparties.differ
  obtain ⟨haccepter, hother⟩ := accepter_of_opposite hopposite hne
  rw [hengages.buyerParticipant, hengages.sellerParticipant] at haccepter
  refine ⟨hengages.counterparties, hengages.buyerParticipant, hengages.sellerParticipant,
    hengages.good, hprice.positive, hprice.ceiling, hprice.floor, hprice.distinct, haccepter, ?_⟩
  intro hopening
  obtain ⟨hactor, hunit⟩ := hprice.opening hopening
  refine ⟨hunit, ?_⟩
  rw [← hengages.sellerParticipant]
  exact hother (hactor.trans hengages.buyerParticipant.symm)

theorem sound_addDeal (hs : Sound s) (hengagement : s.engagements.get a.engagementId = some engagement)
    (hactive : engagement.status = .active) (hopposite : oppositeCounterparties a engagement = true)
    (hbuyer : s.intents.get engagement.buyerIntentId = some buyer)
    (hseller : s.intents.get engagement.sellerIntentId = some seller)
    (hrecord : s.requests.get engagement.requestId = some record)
    (hnone : s.deals.get (dealOf a engagement).dealId = none)
    (hprice : PriceOk a buyer seller record) : Sound (s.addDeal a engagement) := by
  have hg := grows_addDeal hengagement hactive hnone
  obtain ⟨_, _, buyer', seller', record', hengages⟩ := hs.engagements _ _ hengagement
  obtain rfl := Option.some.inj (hbuyer.symm.trans hengages.buyerIntent)
  obtain rfl := Option.some.inj (hseller.symm.trans hengages.sellerIntent)
  obtain rfl := Option.some.inj (hrecord.symm.trans hengages.found)
  have hget : (s.addDeal a engagement).engagements.get a.engagementId = some { engagement with
      status := .acceptedPendingSettlement
      terminalSourceResultId := some a.acceptanceResultId } := Dict.get_set_self _ _ _
  have hterms : SameTerms engagement { engagement with
      status := .acceptedPendingSettlement
      terminalSourceResultId := some a.acceptanceResultId } :=
    ⟨rfl, rfl, rfl, rfl, rfl, rfl, rfl, rfl⟩
  refine sound_of_grows hs hg (fun _ _ h => Or.inl h) (fun _ r h => Or.inl ⟨r, h, rfl⟩) ?_ ?_ ?_
  · intro id e h
    by_cases hid : id = a.engagementId
    · rw [hid, hget] at h
      obtain rfl := Option.some.inj h
      exact Or.inl ⟨engagement, hid ▸ hengagement, hterms⟩
    · exact Or.inl ⟨e, (Dict.get_set_ne _ _ hid).symm.trans h, .refl e⟩
  · intro slot id
    have hsame : ((s.addDeal a engagement).engagements.get id).map holding =
        (s.engagements.get id).map holding := by
      by_cases hid : id = a.engagementId
      · rw [hid, hget, hengagement]
        simp [holding, AgentMarketEngagement.live, hactive]
      · exact congrArg (Option.map holding) (Dict.get_set_ne _ _ hid)
    exact (hs.slots slot id).trans (holds_congr hs hg hsame slot).symm
  · intro id d h
    have hdeal : (s.deals.set (dealOf a engagement).dealId (dealOf a engagement)).get id = some d := h
    rw [Dict.get_set] at hdeal
    by_cases hid : id = (dealOf a engagement).dealId
    · rw [if_pos hid] at hdeal
      obtain rfl := Option.some.inj hdeal
      obtain ⟨record', hengages', hreq⟩ := hengages.grows hg hterms
      refine Or.inr ⟨_, _, _, record', hid, hget, rfl, rfl, hengages', ?_⟩
      rw [hreq]
      exact terms_dealOf hengages hopposite hprice
    · rw [if_neg hid] at hdeal
      exact Or.inl hdeal

end Deal

/-! ### Runs -/

/-- Claims keep the invariant, and the tables that the checks of a call read. -/
theorem Claims.sound {claims : List (String × String × String)} {c : AgentDrivenMarket}
    (h : Claims s claims c) (hs : Sound s) :
    Sound c ∧ Grows s c ∧ c.intents = s.intents ∧ c.requests = s.requests ∧
      c.engagements = s.engagements ∧ c.deals = s.deals ∧ c.reservedSlots = s.reservedSlots := by
  rw [h.market]
  exact ⟨sound_claim hs _, grows_claim s _, rfl, rfl, rfl, rfl, rfl⟩

/-- **What a call writes keeps the invariant, and what was written stays.** -/
theorem Writes.sound {call : MarketCall} (h : Writes s call t) (hs : Sound s) :
    Sound t ∧ Grows s t := by
  cases h with
  | publish _ hfresh hclaims =>
      obtain ⟨hc, hg, hintents, -⟩ := hclaims.sound hs
      rw [← hintents] at hfresh
      exact ⟨sound_publish hc hfresh _ _, hg.trans (grows_publish hfresh _ _)⟩
  | request _ hfresh htargets _ _ _ hclaims =>
      obtain ⟨hc, hg, -, hrequests, -⟩ := hclaims.sound hs
      rw [← hrequests] at hfresh
      exact ⟨sound_addRequest hc hfresh (htargets.grows hg rfl) _,
        hg.trans (grows_addRequest hfresh _)⟩
  | busy hrecord => exact ⟨sound_markBusy hs hrecord, grows_markBusy hrecord⟩
  | engage _ hrecord hpending hbuyer hseller _ hfreeb hfrees hclaims =>
      obtain ⟨hc, hg, hintents, hrequests, -, -, hslots⟩ := hclaims.sound hs
      rw [← hrequests] at hrecord
      rw [← hintents] at hbuyer hseller
      rw [← hslots] at hfreeb hfrees
      exact ⟨sound_addEngagement hc hrecord hpending hbuyer hseller hfreeb hfrees,
        hg.trans (grows_addEngagement hc hrecord hpending _ _ _)⟩
  | close hengagement hactive _ hbuyer hseller hclaims =>
      obtain ⟨hc, hg, hintents, -, hengagements, -⟩ := hclaims.sound hs
      rw [← hengagements] at hengagement
      rw [← hintents] at hbuyer hseller
      exact ⟨sound_closeWith hc hengagement hactive hbuyer hseller,
        hg.trans (grows_closeWith hengagement hactive _ _ _ _)⟩
  | deal hengagement hactive hopposite hbuyer hseller hrecord hnone hprice hclaims =>
      obtain ⟨hc, hg, hintents, hrequests, hengagements, hdeals, -⟩ := hclaims.sound hs
      rw [← hengagements] at hengagement
      rw [← hintents] at hbuyer hseller
      rw [← hrequests] at hrecord
      rw [← hdeals] at hnone
      exact ⟨sound_addDeal hc hengagement hactive hopposite hbuyer hseller hrecord hnone hprice,
        hg.trans (grows_addDeal hengagement hactive hnone)⟩

/-- Every call, successful or raising, keeps the invariant. -/
theorem sound_call (hs : Sound s) (c : MarketCall) : Sound (s.call c) ∧ Grows s (s.call c) := by
  rcases writes_call s c with hsame | hwrites
  · rw [hsame]
    exact ⟨hs, .refl s⟩
  · exact hwrites.sound hs

theorem sound_later : ∀ (l : List MarketCall) {s : AgentDrivenMarket}, Sound s →
    Sound (s.calls l) ∧ Grows s (s.calls l) := by
  intro l
  induction l with
  | nil =>
      intro s hs
      exact ⟨hs, .refl s⟩
  | cons c rest ih =>
      intro s hs
      obtain ⟨ht, hg⟩ := sound_call hs c
      obtain ⟨hu, hg'⟩ := ih ht
      exact ⟨hu, hg.trans hg'⟩

theorem sound_calls (n : Nat) (l : List MarketCall) :
    Sound (({ maxOutbound := n } : AgentDrivenMarket).calls l) :=
  (sound_later l (sound_empty n)).1

/-- Two live engagements that hold one slot are one engagement. -/
theorem Sound.holds_unique (hs : Sound s) {slot : SlotKey} {id id' : String}
    (h : Holds s id slot) (h' : Holds s id' slot) : id = id' :=
  Option.some.inj (((hs.slots slot id).mpr h).symm.trans ((hs.slots slot id').mpr h'))

/-- **The reserved slots are exactly those of the live engagements.** -/
theorem reserved_slots_exact (n : Nat) (l : List MarketCall) :
    let s := ({ maxOutbound := n } : AgentDrivenMarket).calls l
    (∀ id e, s.engagements.get id = some e → ∃ buyer seller,
      s.intents.get e.buyerIntentId = some buyer ∧ s.intents.get e.sellerIntentId = some seller ∧
      buyer.participantId = e.buyerParticipantId ∧ seller.participantId = e.sellerParticipantId ∧
      (e.live = true → s.reservedSlots.get (slotKey buyer) = some id ∧
        s.reservedSlots.get (slotKey seller) = some id)) ∧
    (∀ slot id, s.reservedSlots.get slot = some id → ∃ e buyer seller,
      s.engagements.get id = some e ∧ e.live = true ∧
      s.intents.get e.buyerIntentId = some buyer ∧ s.intents.get e.sellerIntentId = some seller ∧
      (slot = slotKey buyer ∨ slot = slotKey seller)) ∧
    (∀ slot id id', Holds s id slot → Holds s id' slot → id = id') ∧
    (∀ id e, s.engagements.get id = some e → e.live = false →
      ∀ slot, s.reservedSlots.get slot ≠ some id) := by
  intro s
  have hs : Sound s := sound_calls n l
  refine ⟨?_, fun slot id h => (hs.slots slot id).mp h, fun _ _ _ => hs.holds_unique, ?_⟩
  · intro id e he
    obtain ⟨_, _, buyer, seller, record, hengages⟩ := hs.engagements id e he
    refine ⟨buyer, seller, hengages.buyerIntent, hengages.sellerIntent,
      hengages.buyerParticipant.symm, hengages.sellerParticipant.symm, fun hlive => ⟨?_, ?_⟩⟩
    · exact (hs.slots _ id).mpr ⟨e, buyer, seller, he, hlive, hengages.buyerIntent,
        hengages.sellerIntent, Or.inl rfl⟩
    · exact (hs.slots _ id).mpr ⟨e, buyer, seller, he, hlive, hengages.buyerIntent,
        hengages.sellerIntent, Or.inr rfl⟩
  · intro id e he hended slot hheld
    obtain ⟨e', _, _, he', hlive, _⟩ := (hs.slots slot id).mp hheld
    rw [he] at he'
    obtain rfl := Option.some.inj he'
    rw [hended] at hlive
    cases hlive

/-- A deal's engagement holds the slots of its participants. -/
theorem Sealed.holds {id : String} {d : AgentMarketDeal} {e : AgentMarketEngagement}
    {buyer seller : AgentMarketIntent} {record : RequestRecord}
    (h : Sealed s id d e buyer seller record) {participant : String}
    (hp : d.buyerParticipantId = participant ∨ d.sellerParticipantId = participant) :
    Holds s d.engagementId (buyer.gameId, buyer.roundId, participant) := by
  refine ⟨e, buyer, seller, h.engagement, by simp [AgentMarketEngagement.live, h.accepted],
    h.engages.buyerIntent, h.engages.sellerIntent, ?_⟩
  rcases hp with rfl | rfl
  · rw [h.terms.buyerParticipant]
    exact Or.inl rfl
  · rw [h.terms.sellerParticipant, h.terms.counterparties.sameGame,
      h.terms.counterparties.sameRound]
    exact Or.inr rfl

/-- **Every deal keeps to the terms of its two intents, no participant has two in a round, and
    no later call changes one.** -/
theorem deals_sound (n : Nat) (l : List MarketCall) :
    let s := ({ maxOutbound := n } : AgentDrivenMarket).calls l
    (∀ id d, s.deals.get id = some d → ∃ e buyer seller record,
      s.engagements.get d.engagementId = some e ∧ s.intents.get e.buyerIntentId = some buyer ∧
      s.intents.get e.sellerIntentId = some seller ∧ s.requests.get d.requestId = some record ∧
      Terms d buyer seller record.request ∧
      ∀ id' d' e' buyer', s.deals.get id' = some d' →
        s.engagements.get d'.engagementId = some e' →
        s.intents.get e'.buyerIntentId = some buyer' →
        buyer'.gameId = buyer.gameId → buyer'.roundId = buyer.roundId →
        ∀ participant, (d.buyerParticipantId = participant ∨ d.sellerParticipantId = participant) →
          (d'.buyerParticipantId = participant ∨ d'.sellerParticipantId = participant) → id' = id) ∧
    ∀ id d, s.deals.get id = some d → ∀ later : List MarketCall,
      (s.calls later).deals.get id = some d := by
  intro s
  have hs : Sound s := sound_calls n l
  constructor
  · intro id d hd
    obtain ⟨e, buyer, seller, record, hsealed⟩ := hs.deals id d hd
    have hfound : s.requests.get d.requestId = some record := by
      rw [hsealed.requestId]
      exact hsealed.engages.found
    refine ⟨e, buyer, seller, record, hsealed.engagement, hsealed.engages.buyerIntent,
      hsealed.engages.sellerIntent, hfound, hsealed.terms, ?_⟩
    intro id' d' e' buyer' hd' he' hb' hgame hround participant hp hp'
    obtain ⟨e'', buyer'', seller'', record'', hsealed'⟩ := hs.deals id' d' hd'
    obtain rfl := Option.some.inj (he'.symm.trans hsealed'.engagement)
    obtain rfl := Option.some.inj (hb'.symm.trans hsealed'.engages.buyerIntent)
    have hheld' := hsealed'.holds hp'
    rw [hgame, hround] at hheld'
    have hsame : d'.engagementId = d.engagementId := hs.holds_unique hheld' (hsealed.holds hp)
    rw [hsealed.dealId, hsealed'.dealId, hsame]
  · intro id d hd later
    exact (sound_later later hs).2.deals id d hd

/-! ### A market with one deal -/

theorem buyer_isIdentifier : isIdentifier "buyer" = true := by decide

theorem buyer_isVisible : isVisibleText "buyer" = true := by decide

theorem seller_isIdentifier : isIdentifier "seller" = true := by decide

theorem seller_isVisible : isVisibleText "seller" = true := by decide

theorem five_positive : (0 : Int) < 5 := by decide

theorem five_isVisible : isVisibleText "five" = true := by decide

/-- An intent of round one at price five. -/
def intentOf (name : String) (side : MarketSide) (hname : isIdentifier name = true)
    (hvisible : isVisibleText name = true) : AgentMarketIntent where
  intentId := name
  sourceResultId := name
  gameId := "game-1"
  roundId := "round-1"
  participantId := name
  agentId := name
  displayName := name
  side := side
  good := "herb"
  publicPriceAtomic := 5
  limitPriceAtomic := 5
  expiresAt := 100
  identifiers := by
    have hgame : isIdentifier "game-1" = true := by decide
    have hround : isIdentifier "round-1" = true := by decide
    simp [hname, hgame, hround]
  nameVisible := hvisible
  quantityOne := rfl
  publicPositive := five_positive
  limitPositive := five_positive
  ceiling := fun _ => le_rfl
  floor := fun _ => le_rfl
  failedNonneg := le_rfl
  messageVisible := by simp

/-- The buyer asks for the herb at five. -/
def openingRequest : AgentNegotiationRequest where
  requestId := "request-1"
  sourceResultId := "result-1"
  buyerIntentId := "buyer"
  sellerIntentId := "seller"
  openingPriceAtomic := 5
  publicMessage := "five"
  createdAt := 10
  identifiers := by decide
  openingPositive := five_positive
  messageVisible := five_isVisible

-- the seller takes the opening price, and the late timeout leaves the deal alone
example :
    (({} : AgentDrivenMarket).calls
      [.publishIntent (intentOf "buyer" .buy (by decide) (by decide)),
        .publishIntent (intentOf "seller" .sell (by decide) (by decide)),
        .submitRequests [openingRequest],
        .engageRequest "seller" "request-1" "result-2",
        .freezeDeal ⟨"engagement:request-1", "result-1", "buyer", "result-3", "seller", 5⟩,
        .closeEngagement "engagement:request-1" .timedOut none]).deals.keys =
      ["deal:engagement:request-1"] := by
  decide

end AgentDrivenMarket

end Arena402.Game
