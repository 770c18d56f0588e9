/-
Each Agent result authors one action of the market.

Six kinds of action draw on the results of Agents, and each action leaves a record: an
intent, a request, an engagement, its rejection, or a deal with its acceptance and its last
proposal.  `Authors` reads them off the records, and the claims of the market are exactly
these (`Accounted`).  A result has one claim, so it has one action; the opening of a deal on
the RFQ itself claims nothing, because its RFQ has claimed it.
-/
import Arena402.Proofs.Game.A2aMarket

namespace Arena402.Game

namespace AgentDrivenMarket

open Py

variable {s t c : AgentDrivenMarket}

/-! ### The indexes -/

/-- The indexes of the market by the results of Agents. -/
structure Indexed (s : AgentDrivenMarket) : Prop where
  intents : Dict.Index id s.intentByResult s.intents (·.sourceResultId)
  requests : Dict.Index (fun id => [id]) s.requestIdsByResult s.requests (·.request.sourceResultId)
  selections : Dict.Index id s.engagementBySelectionResult s.engagements (·.selectionResultId)

theorem indexed_empty (n : Nat) : Indexed { maxOutbound := n } := by
  refine ⟨?_, ?_, ?_⟩ <;>
  · intro r i
    simp

/-- A claim leaves the rows and the indexes alone. -/
theorem Indexed.claims {claims : List (String × String × String)} (h : Indexed s)
    (hclaims : Claims s claims c) : Indexed c := by
  rw [hclaims.market]
  exact ⟨h.intents, h.requests, h.selections⟩

/-- The request of a record whose status was changed. -/
theorem map_request_rejectRequest (s : AgentDrivenMarket) (requestId id : String) :
    ((s.rejectRequest requestId).requests.get id).map (·.request) =
      (s.requests.get id).map (·.request) := by
  show ((s.requests.update (fun id _ => id = requestId)
    fun record => { record with status := .rejected }).get id).map _ = _
  rw [Dict.get_update]
  cases s.requests.get id with
  | none => rfl
  | some record =>
      simp only [Option.map_some]
      split <;> rfl

theorem Writes.indexed {call : MarketCall} (h : Writes s call t) (hs : Sound s) (hi : Indexed s) :
    Indexed t := by
  cases h with
  | @publish c intent hresult hfresh hclaims =>
      have hc := hi.claims hclaims
      have hfree := hi.intents.free hresult
      rw [hclaims.market] at hc ⊢
      exact ⟨hc.intents.set hfresh hfree, hc.requests, hc.selections⟩
  | @request c request buyer seller hresult hfresh htargets _ _ _ hclaims =>
      have hc := hi.claims hclaims
      rw [hclaims.market] at hc ⊢
      exact ⟨hc.intents, hc.requests.set (v := { request := request }) hfresh hresult,
        hc.selections⟩
  | busy hrecord =>
      exact ⟨hi.intents, hi.requests.congr (Dict.map_get_set hrecord rfl), hi.selections⟩
  | @engage c actor requestId selectionResultId record buyer seller hselection hrecord hpending
      _ _ _ _ _ hclaims =>
      have hc := hi.claims hclaims
      have hfree := hi.selections.free hselection
      have hfresh := hs.engagement_fresh hrecord hpending
      rw [hclaims.market] at hc ⊢
      exact ⟨hc.intents, hc.requests.congr (Dict.map_get_set hrecord rfl),
        hc.selections.set (v := engagementOf buyer seller requestId selectionResultId) hfresh hfree⟩
  | @close c engagementId engagement status sourceResultId buyer seller hengagement _ _ _ _
      hclaims =>
      have hc := hi.claims hclaims
      rw [hclaims.market] at hc ⊢
      refine ⟨hc.intents, hc.requests.congr fun id => ?_,
        hc.selections.congr (Dict.map_get_set hengagement rfl)⟩
      have hsame := congrArg (Option.map (·.sourceResultId))
        (map_request_rejectRequest s engagement.requestId id)
      rw [Option.map_map, Option.map_map] at hsame
      exact hsame
  | @deal c a engagement buyer seller record hengagement _ _ _ _ _ _ _ hclaims =>
      have hc := hi.claims hclaims
      rw [hclaims.market] at hc ⊢
      exact ⟨hc.intents, hc.requests, hc.selections.congr (Dict.map_get_set hengagement rfl)⟩

/-! ### The actions and their results -/

/-- An action of an Agent, by the id of its record. -/
inductive Use
  | intent (intentId : String)
  | rfq (requestId : String)
  | selection (engagementId : String)
  | rejection (engagementId : String)
  | acceptance (dealId : String)
  | proposal (dealId : String)
deriving DecidableEq

/-- The result that authored an action, with the claim the action makes on it.  The last
    proposal of a deal counts when it is not the RFQ itself. -/
inductive Authors (s : AgentDrivenMarket) : String → Use → String × String → Prop
  | intent {id : String} {i : AgentMarketIntent} (hintent : s.intents.get id = some i) :
      Authors s i.sourceResultId (.intent id) ("intent", id)
  | rfq {id : String} {record : RequestRecord} (hrecord : s.requests.get id = some record) :
      Authors s record.request.sourceResultId (.rfq id)
        ("rfq", s!"rfq-batch:{record.request.sourceResultId}")
  | selection {id : String} {e : AgentMarketEngagement}
      (hengagement : s.engagements.get id = some e) :
      Authors s e.selectionResultId (.selection id) ("engage", id)
  | rejection {id r : String} {e : AgentMarketEngagement}
      (hengagement : s.engagements.get id = some e) (hrejected : e.status = .rejected)
      (hsource : e.terminalSourceResultId = some r) : Authors s r (.rejection id) ("reject", id)
  | acceptance {id : String} {d : AgentMarketDeal} (hdeal : s.deals.get id = some d) :
      Authors s d.acceptanceResultId (.acceptance id) ("acceptance", d.engagementId)
  | proposal {id : String} {d : AgentMarketDeal} {record : RequestRecord}
      (hdeal : s.deals.get id = some d) (hrecord : s.requests.get d.requestId = some record)
      (hother : d.latestProposalResultId ≠ record.request.sourceResultId) :
      Authors s d.latestProposalResultId (.proposal id) ("proposal", d.engagementId)

/-- An action stays the action of its result. -/
theorem Authors.grows {r : String} {use : Use} {v : String × String} (h : Authors s r use v)
    (hg : Grows s t) : Authors t r use v := by
  cases h with
  | intent hintent => exact .intent (hg.intents _ _ hintent)
  | rfq hrecord =>
      obtain ⟨record', hrecord', hrequest, _⟩ := hg.requests _ _ hrecord
      rw [← hrequest]
      exact .rfq hrecord'
  | selection hengagement =>
      obtain ⟨e', he', hterms, _⟩ := hg.engagements _ _ hengagement
      rw [← hterms.selectionResultId]
      exact .selection he'
  | rejection hengagement hrejected hsource =>
      obtain ⟨e', he', _, hended⟩ := hg.engagements _ _ hengagement
      obtain rfl := hended (by rw [hrejected]; decide)
      exact .rejection he' hrejected hsource
  | acceptance hdeal => exact .acceptance (hg.deals _ _ hdeal)
  | proposal hdeal hrecord hother =>
      obtain ⟨record', hrecord', hrequest, _⟩ := hg.requests _ _ hrecord
      exact .proposal (hg.deals _ _ hdeal) hrecord' (hrequest ▸ hother)

/-- The new records of a later market, each with a claim of the call. -/
structure NewActions (s t : AgentDrivenMarket) (claims : List (String × String × String)) : Prop where
  intents : ∀ id i, t.intents.get id = some i →
    s.intents.get id = some i ∨ (i.sourceResultId, "intent", id) ∈ claims
  requests : ∀ id record, t.requests.get id = some record →
    (∃ old, s.requests.get id = some old ∧ record.request = old.request) ∨
      (record.request.sourceResultId, "rfq", s!"rfq-batch:{record.request.sourceResultId}") ∈ claims
  selections : ∀ id e, t.engagements.get id = some e →
    (∃ old, s.engagements.get id = some old ∧ e.selectionResultId = old.selectionResultId) ∨
      (e.selectionResultId, "engage", id) ∈ claims
  rejections : ∀ id e r, t.engagements.get id = some e → e.status = .rejected →
    e.terminalSourceResultId = some r →
    s.engagements.get id = some e ∨ (r, "reject", id) ∈ claims
  deals : ∀ id d, t.deals.get id = some d → s.deals.get id = some d ∨
    ((d.acceptanceResultId, "acceptance", d.engagementId) ∈ claims ∧
      ∀ record, t.requests.get d.requestId = some record →
        d.latestProposalResultId ≠ record.request.sourceResultId →
        (d.latestProposalResultId, "proposal", d.engagementId) ∈ claims)

/-- An action of a later market is an old one or was claimed. -/
theorem Authors.back {claims : List (String × String × String)} {r : String} {use : Use}
    {v : String × String} (h : Authors t r use v) (hs : Sound s) (hg : Grows s t)
    (hnew : NewActions s t claims) : Authors s r use v ∨ (r, v) ∈ claims := by
  cases h with
  | intent hintent =>
      rcases hnew.intents _ _ hintent with hold | hclaim
      · exact Or.inl (.intent hold)
      · exact Or.inr hclaim
  | rfq hrecord =>
      rcases hnew.requests _ _ hrecord with ⟨old, hold, hrequest⟩ | hclaim
      · rw [hrequest]
        exact Or.inl (.rfq hold)
      · exact Or.inr hclaim
  | selection hengagement =>
      rcases hnew.selections _ _ hengagement with ⟨old, hold, hselection⟩ | hclaim
      · rw [hselection]
        exact Or.inl (.selection hold)
      · exact Or.inr hclaim
  | rejection hengagement hrejected hsource =>
      rcases hnew.rejections _ _ _ hengagement hrejected hsource with hold | hclaim
      · exact Or.inl (.rejection hold hrejected hsource)
      · exact Or.inr hclaim
  | acceptance hdeal =>
      rcases hnew.deals _ _ hdeal with hold | ⟨hclaim, _⟩
      · exact Or.inl (.acceptance hold)
      · exact Or.inr hclaim
  | @proposal id d record hdeal hrecord hother =>
      rcases hnew.deals _ _ hdeal with hold | ⟨_, hclaim⟩
      · obtain ⟨e, _, _, old, hsealed⟩ := hs.deals _ _ hold
        have hfound := hsealed.engages.found
        rw [← hsealed.requestId] at hfound
        obtain ⟨record', hrecord', hrequest, _⟩ := hg.requests _ _ hfound
        obtain rfl := Option.some.inj (hrecord.symm.trans hrecord')
        exact Or.inl (.proposal hold hfound (hrequest ▸ hother))
      · exact Or.inr (hclaim record hrecord hother)

/-- The claims of the market are those of its actions. -/
structure Accounted (s : AgentDrivenMarket) : Prop where
  authored : ∀ r use v, Authors s r use v → s.resultClaims.get r = some v
  claimed : ∀ r v, s.resultClaims.get r = some v → ∃ use, Authors s r use v

theorem accounted_empty (n : Nat) : Accounted { maxOutbound := n } := by
  constructor
  · intro r use v h
    cases h with
    | intent h => cases h
    | rfq h => cases h
    | selection h => cases h
    | rejection h => cases h
    | acceptance h => cases h
    | proposal h => cases h
  · intro r v h
    cases h

/-- A call whose new records and whose claims are the same actions. -/
theorem Accounted.step {claims : List (String × String × String)} (ha : Accounted s) (hs : Sound s)
    (hg : Grows s t) (hclaims : Claims s claims c) (hc : t.resultClaims = c.resultClaims)
    (hnew : NewActions s t claims) (hmade : ∀ e ∈ claims, ∃ use, Authors t e.1 use e.2) :
    Accounted t := by
  constructor
  · intro r use v h
    rw [hc, hclaims.recorded]
    rcases h.back hs hg hnew with hold | hclaim
    · exact Or.inr (ha.authored r use v hold)
    · exact Or.inl hclaim
  · intro r v h
    rw [hc, hclaims.recorded] at h
    rcases h with hclaim | hold
    · exact hmade _ hclaim
    · obtain ⟨use, huse⟩ := ha.claimed r v hold
      exact ⟨use, huse.grows hg⟩

/-- A market that only marks records has no new actions. -/
theorem NewActions.refl (s : AgentDrivenMarket) (claims : List (String × String × String)) :
    NewActions s s claims :=
  ⟨fun _ _ h => Or.inl h, fun _ record h => Or.inl ⟨record, h, rfl⟩,
    fun _ e h => Or.inl ⟨e, h, rfl⟩, fun _ _ _ h _ _ => Or.inl h, fun _ _ h => Or.inl h⟩

theorem Writes.accounted {call : MarketCall} (h : Writes s call t) (hs : Sound s)
    (ha : Accounted s) : Accounted t := by
  have hg : Grows s t := (h.sound hs).2
  cases h with
  | @publish c intent hresult hfresh hclaims =>
      obtain ⟨claimed, rfl⟩ : ∃ d, c = { s with resultClaims := d } := ⟨_, hclaims.market⟩
      have hold := NewActions.refl s [(intent.sourceResultId, "intent", intent.intentId)]
      refine ha.step hs hg hclaims rfl
        ⟨?_, hold.requests, hold.selections, hold.rejections, hold.deals⟩ ?_
      · intro id i hi
        refine Dict.of_get_set hi ?_ fun _ h => Or.inl h
        rintro rfl rfl
        exact Or.inr (List.mem_singleton_self _)
      · intro e he
        obtain rfl := List.mem_singleton.mp he
        exact ⟨_, .intent (Dict.get_set_self _ _ _)⟩
  | @request c request buyer seller hresult hfresh htargets _ _ _ hclaims =>
      obtain ⟨claimed, rfl⟩ : ∃ d, c = { s with resultClaims := d } := ⟨_, hclaims.market⟩
      have hold := NewActions.refl s
        [(request.sourceResultId, "rfq", s!"rfq-batch:{request.sourceResultId}")]
      refine ha.step hs hg hclaims rfl
        ⟨hold.intents, ?_, hold.selections, hold.rejections, fun _ _ hd => Or.inl hd⟩ ?_
      · intro id record hrecord
        refine Dict.of_get_set hrecord ?_ fun _ hr => Or.inl ⟨record, hr, rfl⟩
        rintro rfl rfl
        exact Or.inr (List.mem_singleton_self _)
      · intro e he
        obtain rfl := List.mem_singleton.mp he
        have hwritten : (({ s with resultClaims := claimed } : AgentDrivenMarket).addRequest
            (s.targetsOf buyer.intentId) request).requests.get request.requestId =
              some { request := request } := Dict.get_set_self _ _ _
        have hrfq := Authors.rfq hwritten
        exact ⟨_, hrfq⟩
  | @busy _ requestId _ record _ _ hrecord =>
      have hold := NewActions.refl s []
      refine ha.step hs hg (.nil s) rfl
        ⟨hold.intents, ?_, hold.selections, hold.rejections, fun _ _ hd => Or.inl hd⟩ (by simp)
      intro id r hr
      exact Or.inl (Dict.kept_of_set (·.request) hrecord hr rfl)
  | @engage c actor requestId selectionResultId record buyer seller _ hrecord _ _ _ _ _ _ hclaims =>
      obtain ⟨claimed, rfl⟩ : ∃ d, c = { s with resultClaims := d } := ⟨_, hclaims.market⟩
      have hold := NewActions.refl s [(selectionResultId, "engage", s!"engagement:{requestId}")]
      refine ha.step hs hg hclaims rfl ⟨hold.intents, ?_, ?_, ?_, fun _ _ hd => Or.inl hd⟩ ?_
      · intro id r hr
        exact Or.inl (Dict.kept_of_set (·.request) hrecord hr rfl)
      · intro id e he
        refine Dict.of_get_set he ?_ fun _ he => Or.inl ⟨e, he, rfl⟩
        rintro rfl rfl
        exact Or.inr (List.mem_singleton_self _)
      · intro id e r he hrejected _
        refine Dict.of_get_set he ?_ fun _ h => Or.inl h
        rintro rfl rfl
        cases hrejected
      · intro e he
        obtain rfl := List.mem_singleton.mp he
        exact ⟨_, .selection (e := engagementOf buyer seller requestId selectionResultId)
          (Dict.get_set_self _ _ _)⟩
  | @close c engagementId engagement status sourceResultId buyer seller hengagement _ hsource _ _
      hclaims =>
      obtain ⟨claimed, rfl⟩ : ∃ d, c = { s with resultClaims := d } := ⟨_, hclaims.market⟩
      have hold := NewActions.refl s (closeClaims engagementId sourceResultId)
      refine ha.step hs hg hclaims rfl ⟨hold.intents, ?_, ?_, ?_, fun _ _ hd => Or.inl hd⟩ ?_
      · intro id r hr
        have hsame := map_request_rejectRequest s engagement.requestId id
        rw [show (s.rejectRequest engagement.requestId).requests.get id = some r from hr] at hsame
        obtain ⟨old, hold, hrequest⟩ := Option.map_eq_some_iff.mp hsame.symm
        exact Or.inl ⟨old, hold, hrequest.symm⟩
      · intro id e he
        exact Or.inl (Dict.kept_of_set (·.selectionResultId) hengagement he rfl)
      · intro id e r he _ hsource'
        refine Dict.of_get_set he ?_ fun _ h => Or.inl h
        rintro rfl rfl
        refine Or.inr ?_
        rw [closeClaims, show sourceResultId = some r from hsource']
        exact List.mem_singleton_self _
      · intro e he
        cases sourceResultId with
        | none => cases he
        | some r =>
            obtain rfl := List.mem_singleton.mp he
            have hrejected : status = .rejected := hsource.mpr rfl
            exact ⟨_, .rejection (Dict.get_set_self _ _ _) (by rw [hrejected]; rfl) rfl⟩
  | @deal c a engagement buyer seller record hengagement _ _ _ _ hrecord _ _ hclaims =>
      obtain ⟨claimed, rfl⟩ : ∃ d, c = { s with resultClaims := d } := ⟨_, hclaims.market⟩
      have hold := NewActions.refl s
        (acceptanceClaims a (a.latestProposalResultId = record.request.sourceResultId))
      refine ha.step hs hg hclaims rfl ⟨hold.intents, hold.requests, ?_, ?_, ?_⟩ ?_
      · intro id e he
        exact Or.inl (Dict.kept_of_set (·.selectionResultId) hengagement he rfl)
      · intro id e r he hrejected _
        refine Dict.of_get_set he ?_ fun _ h => Or.inl h
        rintro rfl rfl
        cases hrejected
      · intro id d hd
        refine Dict.of_get_set hd ?_ fun _ h => Or.inl h
        rintro rfl rfl
        refine Or.inr ⟨by simp [acceptanceClaims, dealOf], fun record' hrecord' hother => ?_⟩
        obtain rfl := Option.some.inj (hrecord.symm.trans hrecord')
        have hne : a.latestProposalResultId ≠ record.request.sourceResultId := hother
        simp [acceptanceClaims, dealOf, hne]
      · intro e he
        rcases List.mem_append.mp he with he | he
        · split at he
          · cases he
          · rename_i hother
            obtain rfl := List.mem_singleton.mp he
            have hne : a.latestProposalResultId ≠ record.request.sourceResultId := by
              simpa using hother
            exact ⟨_, .proposal (d := dealOf a engagement) (Dict.get_set_self _ _ _) hrecord hne⟩
        · obtain rfl := List.mem_singleton.mp he
          exact ⟨_, .acceptance (d := dealOf a engagement) (Dict.get_set_self _ _ _)⟩

/-! ### Runs -/

/-- What every reachable market keeps of its records, its indexes and its claims. -/
structure Booked (s : AgentDrivenMarket) : Prop where
  sound : Sound s
  indexed : Indexed s
  accounted : Accounted s

theorem Booked.call (h : Booked s) (c : MarketCall) : Booked (s.call c) := by
  rcases writes_call s c with hsame | hwrites
  · rw [hsame]
    exact h
  · exact ⟨(hwrites.sound h.sound).1, hwrites.indexed h.sound h.indexed,
      hwrites.accounted h.sound h.accounted⟩

theorem Booked.calls : ∀ (l : List MarketCall) {s : AgentDrivenMarket}, Booked s →
    Booked (s.calls l) := by
  intro l
  induction l with
  | nil =>
      intro s h
      exact h
  | cons c rest ih =>
      intro s h
      exact ih (h.call c)

theorem booked_calls (n : Nat) (l : List MarketCall) :
    Booked (({ maxOutbound := n } : AgentDrivenMarket).calls l) :=
  Booked.calls l ⟨sound_empty n, indexed_empty n, accounted_empty n⟩

/-- The action of a claim. -/
def actionOf (s : AgentDrivenMarket) (r : String) (v : String × String) : Use :=
  if v.1 = "intent" then .intent v.2
  else if v.1 = "rfq" then .rfq (((s.requestIdsByResult.get r).bind List.head?).getD "")
  else if v.1 = "engage" then .selection v.2
  else if v.1 = "reject" then .rejection v.2
  else if v.1 = "acceptance" then .acceptance s!"deal:{v.2}"
  else .proposal s!"deal:{v.2}"

/-- The claim tells the action. -/
theorem Booked.action_eq (h : Booked s) {r : String} {use : Use} {v : String × String}
    (hu : Authors s r use v) : use = s.actionOf r v := by
  cases hu with
  | intent hintent => simp [actionOf]
  | @rfq id record hrecord =>
      have hfound := (h.indexed.requests _ _).mpr ⟨id, record, rfl, hrecord, rfl⟩
      simp [actionOf, hfound]
  | selection _ | rejection _ _ _ => simp [actionOf]
  | acceptance hdeal | proposal hdeal _ _ =>
      obtain ⟨_, _, _, _, hsealed⟩ := h.sound.deals _ _ hdeal
      simp [actionOf, hsealed.dealId]

theorem Booked.author_unique (h : Booked s) {r : String} {use use' : Use} {v v' : String × String}
    (hu : Authors s r use v) (hu' : Authors s r use' v') : use = use' := by
  have hv : some v = some v' :=
    (h.accounted.authored _ _ _ hu).symm.trans (h.accounted.authored _ _ _ hu')
  rw [h.action_eq hu, h.action_eq hu', Option.some.inj hv]

/-- The record of the request of a deal. -/
theorem Sound.deal_request (hs : Sound s) {id : String} {d : AgentMarketDeal}
    (hdeal : s.deals.get id = some d) : ∃ record, s.requests.get d.requestId = some record ∧
      id = "deal:" ++ ("engagement:" ++ d.requestId) := by
  obtain ⟨e, _, _, record, hsealed⟩ := hs.deals _ _ hdeal
  obtain ⟨_, hid, _⟩ := hs.engagements _ _ hsealed.engagement
  refine ⟨record, hsealed.requestId ▸ hsealed.engages.found, ?_⟩
  rw [hsealed.dealId, hid, hsealed.requestId]
  rfl

/-- The last proposal of a deal is an action, of the deal or of its request. -/
theorem Sound.last_proposal (hs : Sound s) {id : String} {d : AgentMarketDeal}
    (hd : s.deals.get id = some d) : ∃ use v, Authors s d.latestProposalResultId use v ∧
      (use = .proposal id ∨ (use = .rfq d.requestId ∧
        ∃ record, s.requests.get d.requestId = some record ∧
          d.latestProposalResultId = record.request.sourceResultId)) := by
  obtain ⟨record, hrecord, _⟩ := hs.deal_request hd
  by_cases hopening : d.latestProposalResultId = record.request.sourceResultId
  · have hrfq : Authors s d.latestProposalResultId (.rfq d.requestId) _ :=
      hopening ▸ Authors.rfq hrecord
    exact ⟨_, _, hrfq, Or.inr ⟨rfl, record, hrecord, hopening⟩⟩
  · exact ⟨_, _, .proposal hd hrecord hopening, Or.inl rfl⟩

/-- **A result authors at most one action, the claims of the market are exactly the actions, and
    the last proposal of a deal is its own action or the RFQ of the deal.** -/
theorem results_author_once (n : Nat) (l : List MarketCall) :
    let s := ({ maxOutbound := n } : AgentDrivenMarket).calls l
    (∀ r use v use' v', Authors s r use v → Authors s r use' v' → use = use') ∧
    (∀ r v, s.resultClaims.get r = some v ↔ ∃ use, Authors s r use v) ∧
    (∀ id d, s.deals.get id = some d → ∀ use v, Authors s d.latestProposalResultId use v →
      use = .proposal id ∨ (use = .rfq d.requestId ∧
        ∃ record, s.requests.get d.requestId = some record ∧
          d.latestProposalResultId = record.request.sourceResultId)) ∧
    ∀ id d id' d', s.deals.get id = some d → s.deals.get id' = some d' →
      d.latestProposalResultId = d'.latestProposalResultId → id = id' := by
  intro s
  have hb : Booked s := booked_calls n l
  refine ⟨fun r use v use' v' => hb.author_unique, fun r v => ⟨hb.accounted.claimed r v, ?_⟩, ?_, ?_⟩
  · rintro ⟨use, huse⟩
    exact hb.accounted.authored r use v huse
  · intro id d hd use v huse
    obtain ⟨use', v', huse', hcase⟩ := hb.sound.last_proposal hd
    rw [hb.author_unique huse huse']
    exact hcase
  · intro id d id' d' hd hd' hsame
    obtain ⟨use, v, huse, hcase⟩ := hb.sound.last_proposal hd
    obtain ⟨use', v', huse', hcase'⟩ := hb.sound.last_proposal hd'
    rw [hsame] at huse
    have heq := hb.author_unique huse huse'
    obtain ⟨_, _, hid⟩ := hb.sound.deal_request hd
    obtain ⟨_, _, hid'⟩ := hb.sound.deal_request hd'
    rcases hcase with rfl | ⟨rfl, _⟩
    · rcases hcase' with rfl | ⟨rfl, _⟩
      · exact Use.proposal.inj heq
      · cases heq
    · rcases hcase' with rfl | ⟨rfl, _⟩
      · cases heq
      · rw [hid, hid', Use.rfq.inj heq]

end AgentDrivenMarket

end Arena402.Game
