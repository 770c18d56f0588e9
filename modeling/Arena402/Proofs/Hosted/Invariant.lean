/-
What holds of the control plane whatever calls are in flight.

`Sound` is about the repository and about the histories of the secret writer and of the accepted
updates: the credential of an Agent is its own and has its owner and Provider, the configuration hash
is that of the record's own fields, a credential leaves `pending_write` only once its secret is
written, and the entries of the update keys are those of the accepted updates.
-/
import Arena402.Hosted.Services
import Arena402.Proofs.Hosted.Repository

namespace Arena402.Hosted

open Py Async Wire

variable {T : TextTables} {hexdigest : ByteArray → String} {w w' s : World}

/-! ### The invariant -/

/-- The snake_case configuration of an Agent, rebuilt from its own fields. -/
def HostedAgentRecord.configSource (r : HostedAgentRecord) : Json :=
  .object
    [("credential_id", .str r.credentialId),
      ("provider", .str r.providerId),
      ("model", .str r.modelId),
      ("thinking_enabled", .bool r.thinkingEnabled),
      ("strategy_instructions", .str r.strategyInstructions),
      ("prompt_version", .str r.promptVersion),
      ("task_schema_version", .str r.taskSchemaVersion),
      ("action_schema_version", .str r.actionSchemaVersion),
      ("capability_version", .str r.capabilityVersion),
      ("adapter_version", .str r.adapterVersion),
      ("max_input_bytes", .int r.maxInputBytes),
      ("max_context_items", .int r.maxContextItems),
      ("max_output_tokens", .int r.maxOutputTokens)]

/-- The configuration hash is that of the record's own fields. -/
def Hashed (hexdigest : ByteArray → String) (agent : HostedAgentRecord) : Prop :=
  agent.configHash = sha256Identifier hexdigest agent.configSource

/-- The record has what the request asks for. -/
structure Stores (request : HostedAgentUpdateRequest) (agent : HostedAgentRecord) : Prop where
  providerId : agent.providerId = request.providerId
  modelId : agent.modelId = request.modelId
  thinkingEnabled : agent.thinkingEnabled = request.thinkingEnabled
  strategyInstructions : agent.strategyInstructions = normalizedStrategy request.strategyInstructions

/-- An accepted update and the entry of its key. -/
structure Entered (hexdigest : ByteArray → String) (x : Call × HostedAgentRecord)
    (owner digest : String) (e : IdempotencyEntry) : Prop where
  made : ∃ service request, x.1 = .updateHostedAgent service owner e.resultId request ∧
    digest = sha256TextIdentifier hexdigest request.idempotencyKey ∧
    e.requestHash = sha256Identifier hexdigest request.dump ∧ Stores request x.2
  agentId : x.2.agentId = e.resultId

/-- The accepted updates are those the idempotency table has entries of, one for each key. -/
structure Journal (hexdigest : ByteArray → String) (repo : ControlRepository)
    (updates : List (Call × HostedAgentRecord)) : Prop where
  entered : ∀ owner digest e, repo.idempotency.get (.updateAgent, owner, digest) = some e →
    ∃ x ∈ updates, Entered hexdigest x owner digest e
  recorded : ∀ x ∈ updates, ∃ owner digest e,
    repo.idempotency.get (.updateAgent, owner, digest) = some e ∧ Entered hexdigest x owner digest e
  once : updates.Pairwise fun x y => ∀ owner digest e e',
    Entered hexdigest x owner digest e → ¬Entered hexdigest y owner digest e'

structure Sound (hexdigest : ByteArray → String) (w : World) : Prop where
  credentialId : ∀ id c, w.repo.credentials.get id = some c →
    c.credentialId = id ∧ c.secretRef = secretRefOf id
  agentId : ∀ id a, w.repo.agents.get id = some a → a.agentId = id
  linked : ∀ id a, w.repo.agents.get id = some a →
    ∃ c, w.repo.credentials.get a.credentialId = some c ∧ c.ownerUserId = a.ownerUserId ∧
      c.providerId = a.providerId
  unshared : ∀ id id' a a', w.repo.agents.get id = some a → w.repo.agents.get id' = some a' →
    a.credentialId = a'.credentialId → id = id'
  hashed : ∀ id a, w.repo.agents.get id = some a → Hashed hexdigest a
  written : ∀ id c, w.repo.credentials.get id = some c → c.status ≠ .pendingWrite →
    (c.secretRef, c.secretRef) ∈ w.writes
  journal : Journal hexdigest w.repo w.updates

/-- What no access takes back. -/
structure World.Later (w w' : World) : Prop where
  repo : ControlRepository.Later w.repo w'.repo
  writes : ∀ x ∈ w.writes, x ∈ w'.writes

theorem World.Later.refl (w : World) : w.Later w :=
  ⟨ControlRepository.Later.refl _, fun _ h => h⟩

theorem World.Later.trans {u : World} (h : w.Later w') (h' : w'.Later u) : w.Later u :=
  ⟨h.repo.trans h'.repo, fun x hx => h'.writes x (h.writes x hx)⟩

theorem sound_empty : Sound hexdigest {} where
  credentialId _ _ h := by cases h
  agentId _ _ h := by cases h
  linked _ _ h := by cases h
  unshared _ _ _ _ h := by cases h
  hashed _ _ h := by cases h
  written _ _ h := by cases h
  journal :=
    { entered := by
        intro _ _ _ h
        cases h
      recorded := by
        intro _ h
        cases h
      once := List.Pairwise.nil }

/-! ### The accepted updates -/

theorem Journal.congr {repo repo' : ControlRepository} {updates : List (Call × HostedAgentRecord)}
    (h : Journal hexdigest repo updates)
    (hsame : ∀ owner digest, repo'.idempotency.get (.updateAgent, owner, digest) =
      repo.idempotency.get (.updateAgent, owner, digest)) : Journal hexdigest repo' updates where
  entered owner digest e he := h.entered owner digest e (hsame owner digest ▸ he)
  recorded x hx := by
    obtain ⟨owner, digest, e, he, hentered⟩ := h.recorded x hx
    exact ⟨owner, digest, e, (hsame owner digest).trans he, hentered⟩
  once := h.once

/-- One call has the entry of one key. -/
theorem Entered.key {x : Call × HostedAgentRecord} {owner owner' digest digest' : String}
    {e e' : IdempotencyEntry} (h : Entered hexdigest x owner digest e)
    (h' : Entered hexdigest x owner' digest' e') : owner = owner' ∧ digest = digest' := by
  obtain ⟨service, request, hcall, hdigest, -, -⟩ := h.made
  obtain ⟨service', request', hcall', hdigest', -, -⟩ := h'.made
  obtain ⟨-, rfl, -, rfl⟩ := Call.updateHostedAgent.inj (hcall.symm.trans hcall')
  exact ⟨rfl, hdigest.trans hdigest'.symm⟩

/-- A new key is entered with its call. -/
theorem Journal.cons {repo repo' : ControlRepository} {updates : List (Call × HostedAgentRecord)}
    {x : Call × HostedAgentRecord} {owner digest : String} {e : IdempotencyEntry}
    (h : Journal hexdigest repo updates) (hx : Entered hexdigest x owner digest e)
    (hnew : repo.idempotency.get (.updateAgent, owner, digest) = none)
    (hset : repo'.idempotency = repo.idempotency.set (.updateAgent, owner, digest) e) :
    Journal hexdigest repo' (x :: updates) where
  entered owner' digest' e' he' := by
    rw [hset] at he'
    refine Dict.of_get_set he' ?_ ?_
    · rintro hkey rfl
      cases hkey
      exact ⟨x, List.mem_cons_self, hx⟩
    · intro _ hold
      obtain ⟨y, hy, hentered⟩ := h.entered owner' digest' e' hold
      exact ⟨y, List.mem_cons_of_mem _ hy, hentered⟩
  recorded y hy := by
    rw [hset]
    rcases List.mem_cons.mp hy with rfl | hy
    · exact ⟨owner, digest, e, Dict.get_set_self _ _ _, hx⟩
    · obtain ⟨owner', digest', e', he', hentered⟩ := h.recorded y hy
      exact ⟨owner', digest', e', Dict.get_set_fresh _ hnew he', hentered⟩
  once := by
    refine List.Pairwise.cons ?_ h.once
    intro y hy owner' digest' e₁ e₂ hx' hy'
    obtain ⟨owner'', digest'', e'', he'', hentered⟩ := h.recorded y hy
    obtain ⟨rfl, rfl⟩ := hx.key hx'
    obtain ⟨rfl, rfl⟩ := hy'.key hentered
    rw [hnew] at he''
    cases he''

/-! ### Changes of the repository -/

theorem Sound.reserve (h : Sound hexdigest w) {credential : CredentialRecord} {digest hash : String}
    (hfree : w.repo.credentials.get credential.credentialId = none)
    (hpending : credential.status = .pendingWrite)
    (href : credential.secretRef = secretRefOf credential.credentialId) :
    Sound hexdigest { w with
      repo := ({ w.repo with
          credentials := w.repo.credentials.set credential.credentialId credential }).record
        .createCredential credential.ownerUserId digest hash credential.credentialId } where
  credentialId id c hc := by
    refine Dict.of_get_set hc ?_ ?_
    · rintro rfl rfl
      exact ⟨rfl, href⟩
    · intro _ hold
      exact h.credentialId id c hold
  agentId := h.agentId
  linked id a ha := by
    obtain ⟨c, hc, hlinked⟩ := h.linked id a ha
    exact ⟨c, Dict.get_set_fresh _ hfree hc, hlinked⟩
  unshared := h.unshared
  hashed := h.hashed
  written id c hc hstatus := by
    refine Dict.of_get_set hc ?_ ?_
    · rintro - rfl
      exact absurd hpending hstatus
    · intro _ hold
      exact h.written id c hold hstatus
  journal := by
    refine h.journal.congr ?_
    intro owner digest'
    exact Dict.get_set_ne _ _ (by simp)

/-- A credential whose status changes once its secret is written. -/
theorem Sound.setCredential (h : Sound hexdigest w) {id : String} {old c : CredentialRecord}
    (hold : w.repo.credentials.get id = some old) (howner : c.ownerUserId = old.ownerUserId)
    (hprovider : c.providerId = old.providerId) (hid : c.credentialId = old.credentialId)
    (href : c.secretRef = old.secretRef) (hwritten : (old.secretRef, old.secretRef) ∈ w.writes) :
    Sound hexdigest { w with
      repo := { w.repo with credentials := w.repo.credentials.set id c } } where
  credentialId id' c' hc := by
    refine Dict.of_get_set hc ?_ fun _ hget => h.credentialId id' c' hget
    rintro rfl rfl
    rw [hid, href]
    exact h.credentialId id' old hold
  agentId := h.agentId
  linked id' a ha := by
    obtain ⟨c', hc', howner', hprovider'⟩ := h.linked id' a ha
    by_cases hsame : a.credentialId = id
    · rw [hsame, hold] at hc'
      cases hc'
      exact ⟨c, (Dict.get_set _ _ _ _).trans (if_pos hsame), howner.trans howner',
        hprovider.trans hprovider'⟩
    · exact ⟨c', (Dict.get_set_ne _ _ hsame).trans hc', howner', hprovider'⟩
  unshared := h.unshared
  hashed := h.hashed
  written id' c' hc hstatus := by
    refine Dict.of_get_set hc ?_ fun _ hget => h.written id' c' hget hstatus
    rintro - rfl
    rw [href]
    exact hwritten
  journal := h.journal.congr fun _ _ => rfl

theorem Sound.setAgent (h : Sound hexdigest w) {agent : HostedAgentRecord} {c : CredentialRecord}
    (hc : w.repo.credentials.get agent.credentialId = some c)
    (howner : c.ownerUserId = agent.ownerUserId) (hprovider : c.providerId = agent.providerId)
    (hhashed : Hashed hexdigest agent)
    (hunshared : ∀ id a, w.repo.agents.get id = some a → a.credentialId = agent.credentialId →
      id = agent.agentId) :
    Sound hexdigest { w with
      repo := { w.repo with agents := w.repo.agents.set agent.agentId agent } } where
  credentialId := h.credentialId
  agentId id a ha := by
    refine Dict.of_get_set ha ?_ fun _ hget => h.agentId id a hget
    rintro rfl rfl
    rfl
  linked id a ha := by
    refine Dict.of_get_set ha ?_ fun _ hget => h.linked id a hget
    rintro - rfl
    exact ⟨c, hc, howner, hprovider⟩
  unshared id id' a a' ha ha' hsame := by
    refine Dict.of_get_set ha ?_ ?_
    · rintro rfl rfl
      refine Dict.of_get_set ha' (fun hid _ => hid.symm) ?_
      intro _ hget'
      exact (hunshared id' a' hget' hsame.symm).symm
    · intro _ hget
      refine Dict.of_get_set ha' ?_ fun _ hget' => h.unshared id id' a a' hget hget' hsame
      rintro rfl rfl
      exact hunshared id a hget hsame
  hashed id a ha := by
    refine Dict.of_get_set ha ?_ fun _ hget => h.hashed id a hget
    rintro - rfl
    exact hhashed
  written := h.written
  journal := h.journal.congr fun _ _ => rfl

/-- A new entry of the idempotency table, with the accepted updates it goes with. -/
theorem Sound.record (h : Sound hexdigest w) {operation : Operation}
    {owner digest hash resultId : String} {updates : List (Call × HostedAgentRecord)}
    (hjournal : Journal hexdigest (w.repo.record operation owner digest hash resultId) updates) :
    Sound hexdigest { w with
      repo := w.repo.record operation owner digest hash resultId
      updates := updates } :=
  ⟨h.credentialId, h.agentId, h.linked, h.unshared, h.hashed, h.written, hjournal⟩

theorem Sound.validate (h : Sound hexdigest w) (outcome : ControlRepository.Outcome) :
    Sound hexdigest { w with repo := w.repo.validate outcome } := by
  have hcredential : ∀ id c', (w.repo.validate outcome).credentials.get id = some c' →
      ∃ c, w.repo.credentials.get id = some c ∧ outcome.applyCredential id c = c' := by
    intro id c' hc'
    exact Option.map_eq_some_iff.mp ((Dict.get_map_entries _ _ _).symm.trans hc')
  have hagent : ∀ id a', (w.repo.validate outcome).agents.get id = some a' →
      ∃ a, w.repo.agents.get id = some a ∧ outcome.applyAgent id a = a' := by
    intro id a' ha'
    exact Option.map_eq_some_iff.mp ((Dict.get_map_entries _ _ _).symm.trans ha')
  have hlater : ControlRepository.Later w.repo (w.repo.validate outcome) :=
    ControlRepository.later_validate outcome
  refine ⟨?_, ?_, ?_, ?_, ?_, ?_, h.journal.congr fun _ _ => rfl⟩
  · intro id c' hc'
    obtain ⟨c, hc, rfl⟩ := hcredential id c' hc'
    unfold ControlRepository.Outcome.applyCredential
    split
    · exact h.credentialId id c hc
    · exact h.credentialId id c hc
  · intro id a' ha'
    obtain ⟨a, ha, rfl⟩ := hagent id a' ha'
    exact h.agentId id a ha
  · intro id a' ha'
    obtain ⟨a, ha, rfl⟩ := hagent id a' ha'
    obtain ⟨c, hc, howner, hprovider⟩ := h.linked id a ha
    obtain ⟨c', hc', howner', hprovider'⟩ := hlater.credential _ c hc
    exact ⟨c', hc', howner'.trans howner, hprovider'.trans hprovider⟩
  · intro id id' a a' ha ha' hsame
    obtain ⟨b, hb, rfl⟩ := hagent id a ha
    obtain ⟨b', hb', rfl⟩ := hagent id' a' ha'
    exact h.unshared id id' b b' hb hb' hsame
  · intro id a' ha'
    obtain ⟨a, ha, rfl⟩ := hagent id a' ha'
    exact h.hashed id a ha
  · intro id c' hc' hstatus
    obtain ⟨c, hc, rfl⟩ := hcredential id c' hc'
    unfold ControlRepository.Outcome.applyCredential at hstatus ⊢
    split
    · rename_i hkept
      rw [if_pos hkept] at hstatus
      exact h.written id c hc hstatus
    · rename_i hmoved
      exact h.written id c hc fun hpending => hmoved (Or.inl hpending)

end Arena402.Hosted
