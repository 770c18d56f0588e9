/-
What the operations of the control plane's repository do.

Each operation is inverted once: it raises, it answers from an earlier record of its key, or it makes
one change.  `Later` is what no operation takes back: the owner and the Provider of a credential,
the owner, the credential and the Provider of an Agent, and every entry of the idempotency table.
-/
import Arena402.Lib.Rows
import Arena402.Hosted.Repository

namespace Arena402.Hosted.ControlRepository

open Py

variable {repo repo' : ControlRepository} {ownerUserId digest hash : String} {now : UtcDateTime}
  {operation : Operation}

/-! ### The idempotency table -/

theorem idempotencyResult_of_replayOf {found : Option IdempotencyEntry}
    (h : repo.replayOf operation ownerUserId digest hash = .ok found) :
    repo.idempotencyResult operation ownerUserId digest hash = .ok found := by
  unfold replayOf requireSafeHash at h
  by_cases hdigest : isHashIdentifier digest = true
  · by_cases hhash : isHashIdentifier hash = true
    · rw [if_pos hdigest, if_pos hhash] at h
      exact h
    · rw [if_pos hdigest, if_neg hhash] at h
      cases h
  · rw [if_neg hdigest] at h
    cases h

/-- The entry of a key, when it was made for the same request. -/
theorem replayOf_some {e : IdempotencyEntry}
    (h : repo.replayOf operation ownerUserId digest hash = .ok (some e)) :
    repo.idempotency.get (operation, ownerUserId, digest) = some e ∧ e.requestHash = hash := by
  have hresult := idempotencyResult_of_replayOf h
  unfold idempotencyResult at hresult
  cases hget : repo.idempotency.get (operation, ownerUserId, digest) with
  | none =>
      rw [hget] at hresult
      cases hresult
  | some existing =>
      rw [hget] at hresult
      dsimp only at hresult
      by_cases hother : existing.requestHash ≠ hash
      · rw [if_pos hother] at hresult
        cases hresult
      · rw [if_neg hother] at hresult
        cases hresult
        exact ⟨rfl, not_not.mp hother⟩

theorem replayOf_none (h : repo.replayOf operation ownerUserId digest hash = .ok none) :
    repo.idempotency.get (operation, ownerUserId, digest) = none := by
  have hresult := idempotencyResult_of_replayOf h
  unfold idempotencyResult at hresult
  cases hget : repo.idempotency.get (operation, ownerUserId, digest) with
  | none => rfl
  | some existing =>
      rw [hget] at hresult
      dsimp only at hresult
      by_cases hother : existing.requestHash ≠ hash
      · rw [if_pos hother] at hresult
        cases hresult
      · rw [if_neg hother] at hresult
        cases hresult

/-! ### The operations -/

theorem getCredentialForOwner_some {id : String} {c : CredentialRecord}
    (h : repo.getCredentialForOwner ownerUserId id = some c) :
    repo.credentials.get id = some c ∧ c.ownerUserId = ownerUserId := by
  obtain ⟨hget, howner⟩ := Option.filter_eq_some_iff.mp h
  exact ⟨hget, by simpa using howner⟩

theorem getHostedAgentForOwner_some {id : String} {a : HostedAgentRecord}
    (h : repo.getHostedAgentForOwner ownerUserId id = some a) :
    repo.agents.get id = some a ∧ a.ownerUserId = ownerUserId := by
  obtain ⟨hget, howner⟩ := Option.filter_eq_some_iff.mp h
  exact ⟨hget, by simpa using howner⟩

theorem reserveCredential_cases {credential : CredentialRecord} {r : CredentialReservation}
    (h : repo.reserveCredential credential digest hash = .ok (repo', r)) :
    (repo' = repo ∧ r.disposition = .replay) ∨
      (repo.idempotency.get (.createCredential, credential.ownerUserId, digest) = none ∧
        repo.credentials.get credential.credentialId = none ∧ r.disposition = .created ∧
        repo' = ({ repo with
            credentials := repo.credentials.set credential.credentialId credential }).record
          .createCredential credential.ownerUserId digest hash credential.credentialId) := by
  unfold reserveCredential at h
  cases hreplay : repo.replayOf .createCredential credential.ownerUserId digest hash with
  | error e =>
      rw [hreplay] at h
      cases h
  | ok found =>
      rw [hreplay] at h
      cases found with
      | some replay =>
          dsimp only at h
          cases hget : repo.credentials.get replay.resultId with
          | none =>
              rw [hget] at h
              cases h
          | some existing =>
              rw [hget] at h
              cases h
              exact Or.inl ⟨rfl, rfl⟩
      | none =>
          dsimp only at h
          by_cases htaken : (repo.credentials.get credential.credentialId).isSome = true
          · rw [if_pos htaken] at h
            cases h
          · rw [if_neg htaken] at h
            cases h
            exact Or.inr ⟨replayOf_none hreplay, by simpa using htaken, rfl, rfl⟩

theorem markCredentialStored_cases {id : String} {c : CredentialRecord}
    (h : repo.markCredentialStored ownerUserId id digest hash now = .ok (repo', c)) :
    repo' = repo ∨
      ∃ old, repo.credentials.get id = some old ∧ old.status = .pendingWrite ∧
        repo' = { repo with
          credentials := repo.credentials.set id
            { old with status := .stored, updatedAt := now } } := by
  unfold markCredentialStored at h
  cases hreplay : repo.replayOf .createCredential ownerUserId digest hash with
  | error e =>
      rw [hreplay] at h
      cases h
  | ok found =>
      rw [hreplay] at h
      cases found with
      | none => cases h
      | some replay =>
          dsimp only at h
          by_cases hid : replay.resultId ≠ id
          · rw [if_pos hid] at h
            cases h
          · rw [if_neg hid] at h
            cases hget : repo.credentials.get id with
            | none =>
                rw [hget] at h
                cases h
            | some old =>
                rw [hget] at h
                dsimp only at h
                by_cases howner : old.ownerUserId ≠ ownerUserId
                · rw [if_pos howner] at h
                  cases h
                · rw [if_neg howner] at h
                  by_cases hpending : old.status = .pendingWrite
                  · rw [if_pos hpending] at h
                    cases h
                    exact Or.inr ⟨old, rfl, hpending, rfl⟩
                  · rw [if_neg hpending] at h
                    by_cases hstored : old.status ≠ .stored
                    · rw [if_pos hstored] at h
                      cases h
                    · rw [if_neg hstored] at h
                      cases h
                      exact Or.inl rfl

theorem hostedAgentReplay_some {a : HostedAgentRecord}
    (h : repo.hostedAgentReplay operation ownerUserId digest hash = .ok (some a)) :
    ∃ e, repo.idempotency.get (operation, ownerUserId, digest) = some e ∧ e.requestHash = hash ∧
      repo.agents.get e.resultId = some a := by
  unfold hostedAgentReplay at h
  cases hreplay : repo.replayOf operation ownerUserId digest hash with
  | error e =>
      rw [hreplay] at h
      cases h
  | ok found =>
      rw [hreplay] at h
      cases found with
      | none => cases h
      | some replay =>
          dsimp only at h
          cases hagent : repo.getHostedAgentForOwner ownerUserId replay.resultId with
          | none =>
              rw [hagent] at h
              cases h
          | some agent =>
              rw [hagent] at h
              cases h
              obtain ⟨hentry, hhash⟩ := replayOf_some hreplay
              exact ⟨replay, hentry, hhash, (getHostedAgentForOwner_some hagent).1⟩

/-- What a new Agent changes. -/
def addAgent (repo : ControlRepository) (agent : HostedAgentRecord) (credential : CredentialRecord)
    (operation : Operation) (digest hash : String) (now : UtcDateTime) : ControlRepository :=
  (({ repo with agents := repo.agents.set agent.agentId agent }).setStatus credential
    .pendingValidation now).record operation agent.ownerUserId digest hash agent.agentId

theorem createHostedAgent_cases {agent : HostedAgentRecord} {r : HostedAgentCreation}
    (h : repo.createHostedAgent agent digest hash now = .ok (repo', r)) :
    repo' = repo ∨
      (repo.idempotency.get (.createAgent, agent.ownerUserId, digest) = none ∧
        ∃ credential, repo.credentials.get agent.credentialId = some credential ∧
          credential.ownerUserId = agent.ownerUserId ∧ credential.providerId = agent.providerId ∧
          credential.status = .stored ∧
          (∀ a ∈ repo.agents.values, a.credentialId ≠ agent.credentialId) ∧
          repo.agents.get agent.agentId = none ∧
          repo' = repo.addAgent agent credential .createAgent digest hash now) := by
  unfold createHostedAgent at h
  cases hreplay : repo.replayOf .createAgent agent.ownerUserId digest hash with
  | error e =>
      rw [hreplay] at h
      cases h
  | ok found =>
      rw [hreplay] at h
      cases found with
      | some replay =>
          dsimp only at h
          cases hget : repo.agents.get replay.resultId with
          | none =>
              rw [hget] at h
              cases h
          | some existing =>
              rw [hget] at h
              cases h
              exact Or.inl rfl
      | none =>
          dsimp only at h
          cases hcredential : repo.getCredentialForOwner agent.ownerUserId agent.credentialId with
          | none =>
              rw [hcredential] at h
              cases h
          | some credential =>
              rw [hcredential] at h
              dsimp only at h
              by_cases hprovider : credential.providerId ≠ agent.providerId
              · rw [if_pos hprovider] at h
                cases h
              rw [if_neg hprovider] at h
              by_cases hstatus : credential.status ≠ .stored
              · rw [if_pos hstatus] at h
                cases h
              rw [if_neg hstatus] at h
              by_cases hused : (repo.agents.values.any fun existing =>
                  existing.credentialId = agent.credentialId) = true
              · rw [if_pos hused] at h
                cases h
              rw [if_neg hused] at h
              by_cases htaken : (repo.agents.get agent.agentId).isSome = true
              · rw [if_pos htaken] at h
                cases h
              rw [if_neg htaken] at h
              cases h
              obtain ⟨hget, howner⟩ := getCredentialForOwner_some hcredential
              refine Or.inr ⟨replayOf_none hreplay, credential, hget, howner, not_not.mp hprovider,
                not_not.mp hstatus, ?_, by simpa using htaken, rfl⟩
              intro a ha hsame
              exact hused (List.any_eq_true.mpr ⟨a, ha, by simpa using hsame⟩)

theorem updateHostedAgent_cases {agent a : HostedAgentRecord} {expected : String}
    (h : repo.updateHostedAgent agent expected digest hash now = .ok (repo', a)) :
    (repo' = repo ∧ ∃ e, repo.idempotency.get (.updateAgent, agent.ownerUserId, digest) = some e ∧
        e.requestHash = hash ∧ repo.agents.get e.resultId = some a) ∨
      (repo.idempotency.get (.updateAgent, agent.ownerUserId, digest) = none ∧ a = agent ∧
        ∃ current credential, repo.agents.get agent.agentId = some current ∧
          repo.credentials.get current.credentialId = some credential ∧
          credential.status = .valid ∧
          repo' = repo.addAgent agent credential .updateAgent digest hash now) := by
  unfold updateHostedAgent at h
  cases hsafe : requireSafeHash expected with
  | error e =>
      rw [hsafe] at h
      cases h
  | ok _ =>
      rw [hsafe] at h
      dsimp only at h
      cases hreplay : repo.replayOf .updateAgent agent.ownerUserId digest hash with
      | error e =>
          rw [hreplay] at h
          cases h
      | ok found =>
          rw [hreplay] at h
          cases found with
          | some replay =>
              dsimp only at h
              cases hget : repo.agents.get replay.resultId with
              | none =>
                  rw [hget] at h
                  cases h
              | some existing =>
                  rw [hget] at h
                  cases h
                  obtain ⟨hentry, hhash⟩ := replayOf_some hreplay
                  exact Or.inl ⟨rfl, replay, hentry, hhash, hget⟩
          | none =>
              dsimp only at h
              cases hcurrent : repo.getHostedAgentForOwner agent.ownerUserId agent.agentId with
              | none =>
                  rw [hcurrent] at h
                  cases h
              | some current =>
                  rw [hcurrent] at h
                  dsimp only at h
                  by_cases hready : (current.provisioningStatus ≠ .ready ||
                      current.routeStatus ≠ .ready || current.configHash ≠ expected) = true
                  · rw [if_pos hready] at h
                    cases h
                  rw [if_neg hready] at h
                  cases hcredential :
                      repo.getCredentialForOwner agent.ownerUserId current.credentialId with
                  | none =>
                      rw [hcredential] at h
                      cases h
                  | some credential =>
                      rw [hcredential] at h
                      dsimp only at h
                      by_cases hstatus : credential.status ≠ .valid
                      · rw [if_pos hstatus] at h
                        cases h
                      rw [if_neg hstatus] at h
                      cases h
                      exact Or.inr ⟨replayOf_none hreplay, rfl, current, credential,
                        (getHostedAgentForOwner_some hcurrent).1,
                        (getCredentialForOwner_some hcredential).1, not_not.mp hstatus, rfl⟩

/-! ### What is never taken back -/

structure Later (r r' : ControlRepository) : Prop where
  credential : ∀ id c, r.credentials.get id = some c → ∃ c', r'.credentials.get id = some c' ∧
    c'.ownerUserId = c.ownerUserId ∧ c'.providerId = c.providerId
  agent : ∀ id a, r.agents.get id = some a → ∃ a', r'.agents.get id = some a' ∧
    a'.ownerUserId = a.ownerUserId ∧ a'.credentialId = a.credentialId ∧ a'.providerId = a.providerId
  entry : ∀ key e, r.idempotency.get key = some e → r'.idempotency.get key = some e

theorem Later.refl (r : ControlRepository) : Later r r where
  credential _ c h := ⟨c, h, rfl, rfl⟩
  agent _ a h := ⟨a, h, rfl, rfl, rfl⟩
  entry _ _ h := h

theorem Later.trans {r s t : ControlRepository} (hrs : Later r s) (hst : Later s t) : Later r t where
  credential id c h := by
    obtain ⟨c', hc', howner, hprovider⟩ := hrs.credential id c h
    obtain ⟨c'', hc'', howner', hprovider'⟩ := hst.credential id c' hc'
    exact ⟨c'', hc'', howner'.trans howner, hprovider'.trans hprovider⟩
  agent id a h := by
    obtain ⟨a', ha', howner, hcredential, hprovider⟩ := hrs.agent id a h
    obtain ⟨a'', ha'', howner', hcredential', hprovider'⟩ := hst.agent id a' ha'
    exact ⟨a'', ha'', howner'.trans howner, hcredential'.trans hcredential, hprovider'.trans hprovider⟩
  entry key e h := hst.entry key e (hrs.entry key e h)

/-- A credential written over one with the same owner and Provider, or at a new id. -/
theorem later_setCredential {id : String} {c : CredentialRecord}
    (h : ∀ old, repo.credentials.get id = some old →
      c.ownerUserId = old.ownerUserId ∧ c.providerId = old.providerId) :
    Later repo { repo with credentials := repo.credentials.set id c } where
  credential id' old hold := by
    by_cases hid : id' = id
    · subst hid
      exact ⟨c, Dict.get_set_self _ _ _, h old hold⟩
    · exact ⟨old, (Dict.get_set_ne _ _ hid).trans hold, rfl, rfl⟩
  agent _ a ha := ⟨a, ha, rfl, rfl, rfl⟩
  entry _ _ he := he

/-- An Agent written over one with the same owner, credential and Provider, or at a new id. -/
theorem later_setAgent {id : String} {a : HostedAgentRecord}
    (h : ∀ old, repo.agents.get id = some old → a.ownerUserId = old.ownerUserId ∧
      a.credentialId = old.credentialId ∧ a.providerId = old.providerId) :
    Later repo { repo with agents := repo.agents.set id a } where
  credential _ c hc := ⟨c, hc, rfl, rfl⟩
  agent id' old hold := by
    by_cases hid : id' = id
    · subst hid
      exact ⟨a, Dict.get_set_self _ _ _, h old hold⟩
    · exact ⟨old, (Dict.get_set_ne _ _ hid).trans hold, rfl, rfl, rfl⟩
  entry _ _ he := he

/-- A key that had no entry gets one. -/
theorem later_record {resultId : String}
    (h : repo.idempotency.get (operation, ownerUserId, digest) = none) :
    Later repo (repo.record operation ownerUserId digest hash resultId) where
  credential _ c hc := ⟨c, hc, rfl, rfl⟩
  agent _ a ha := ⟨a, ha, rfl, rfl, rfl⟩
  entry _ _ he := Dict.get_set_fresh _ h he

theorem later_validate (outcome : Outcome) : Later repo (repo.validate outcome) where
  credential id c h := by
    refine ⟨outcome.applyCredential id c, ?_, ?_, ?_⟩
    · exact (Dict.get_map_entries _ _ _).trans (by rw [h]; rfl)
    · unfold Outcome.applyCredential
      split <;> rfl
    · unfold Outcome.applyCredential
      split <;> rfl
  agent id a h := ⟨outcome.applyAgent id a,
    (Dict.get_map_entries _ _ _).trans (by rw [h]; rfl), rfl, rfl, rfl⟩
  entry _ _ he := he

end Arena402.Hosted.ControlRepository
