/-
The services under concurrent calls.

Each access is shown once to keep `Sound` and to go forward along `Later`, and each service is then
followed from access to access.  `reachable_sound` puts the calls together: whatever calls of any
owners are in flight, wherever they fail and whatever a validation decides meanwhile, the invariant
holds.
-/
import Arena402.Lib.Raise
import Arena402.Proofs.Hosted.Invariant

namespace Arena402.Hosted

open Py Async Wire

variable {T : TextTables} {hexdigest : ByteArray → String} {w w' s : World} {caller : Call}
  {task : Nat}

/-! ### What an access does -/

/-- The access raises and changes nothing, or it keeps the invariant, takes nothing back and returns
    in `post`. -/
def Does (hexdigest : ByteArray → String) (w : World) (caller : Call) (access : Access)
    (post : access.Reply → World → Prop) : Prop :=
  ∀ choice, (∃ e, w.perform choice caller access = (w, .error e)) ∨
    ∃ w' v, w.perform choice caller access = (w', .ok v) ∧ Sound hexdigest w' ∧ w.Later w' ∧ post v w'

theorem later_of_repo {repo : ControlRepository} (h : ControlRepository.Later w.repo repo) :
    w.Later { w with repo } :=
  ⟨h, fun _ hx => hx⟩

theorem does_reserveCredential (h : Sound hexdigest w) {credential : CredentialRecord}
    (digest hash : String) (hpending : credential.status = .pendingWrite)
    (href : credential.secretRef = secretRefOf credential.credentialId) :
    Does hexdigest w caller (.reserveCredential credential digest hash) fun _ _ => True := by
  intro choice
  cases hrun : w.repo.reserveCredential credential digest hash with
  | error e => exact Or.inl ⟨.repository e, by simp only [World.perform, hrun, World.commit]⟩
  | ok result =>
      obtain ⟨repo, reservation⟩ := result
      refine Or.inr ⟨{ w with repo }, reservation,
        by simp only [World.perform, hrun, World.commit], ?_⟩
      rcases ControlRepository.reserveCredential_cases hrun with ⟨rfl, -⟩ | ⟨hnew, hfree, -, rfl⟩
      · exact ⟨h, World.Later.refl w, trivial⟩
      · refine ⟨h.reserve hfree hpending href, later_of_repo ?_, trivial⟩
        refine (ControlRepository.later_setCredential ?_).trans (ControlRepository.later_record hnew)
        intro old hold
        rw [hfree] at hold
        cases hold

theorem does_writeSecret (h : Sound hexdigest w) (secretRef : String) :
    Does hexdigest w caller (.writeSecret secretRef) fun written w' =>
      (secretRef, written) ∈ w'.writes := by
  intro choice
  refine Or.inr ⟨{ w with writes := (secretRef, choice.written) :: w.writes }, choice.written, rfl,
    ?_, ?_, List.mem_cons_self⟩
  · exact
      { h with
        written := fun id c hc hstatus => List.mem_cons_of_mem _ (h.written id c hc hstatus) }
  · exact ⟨ControlRepository.Later.refl _, fun _ hx => List.mem_cons_of_mem _ hx⟩

theorem does_markCredentialStored (h : Sound hexdigest w) {owner id digest hash : String}
    (hwritten : (secretRefOf id, secretRefOf id) ∈ w.writes) :
    Does hexdigest w caller (.markCredentialStored owner id digest hash) fun _ _ => True := by
  intro choice
  cases hrun : w.repo.markCredentialStored owner id digest hash choice.now with
  | error e => exact Or.inl ⟨.repository e, by simp only [World.perform, hrun, World.commit]⟩
  | ok result =>
      obtain ⟨repo, credential⟩ := result
      refine Or.inr ⟨{ w with repo }, credential,
        by simp only [World.perform, hrun, World.commit], ?_⟩
      rcases ControlRepository.markCredentialStored_cases hrun with rfl | ⟨old, hold, -, rfl⟩
      · exact ⟨h, World.Later.refl w, trivial⟩
      · have href : old.secretRef = secretRefOf id := (h.credentialId id old hold).2
        refine ⟨h.setCredential hold rfl rfl rfl rfl (href ▸ hwritten), later_of_repo ?_, trivial⟩
        refine ControlRepository.later_setCredential ?_
        intro old' hold'
        rw [hold] at hold'
        cases hold'
        exact ⟨rfl, rfl⟩

/-- An access that only reads. -/
theorem does_read (h : Sound hexdigest w) {access : Access} {post : access.Reply → World → Prop}
    (hreads : ∀ choice, (∃ e, w.perform choice caller access = (w, .error e)) ∨
      ∃ v, w.perform choice caller access = (w, .ok v) ∧ post v w) :
    Does hexdigest w caller access post := by
  intro choice
  rcases hreads choice with herror | ⟨v, hv, hpost⟩
  · exact Or.inl herror
  · exact Or.inr ⟨w, v, hv, h, World.Later.refl w, hpost⟩

theorem does_clock (h : Sound hexdigest w) : Does hexdigest w caller .clock fun _ _ => True :=
  does_read h fun choice => Or.inr ⟨choice.now, rfl, trivial⟩

theorem does_newId (h : Sound hexdigest w) (kind : String) :
    Does hexdigest w caller (.newId kind) fun _ _ => True :=
  does_read h fun choice => Or.inr ⟨choice.id, rfl, trivial⟩

theorem does_getCredentialForOwner (h : Sound hexdigest w) (owner id : String) :
    Does hexdigest w caller (.getCredentialForOwner owner id) fun found w' =>
      found = w'.repo.getCredentialForOwner owner id :=
  does_read h fun _ => Or.inr ⟨_, rfl, rfl⟩

theorem does_getHostedAgentForOwner (h : Sound hexdigest w) (owner id : String) :
    Does hexdigest w caller (.getHostedAgentForOwner owner id) fun found w' =>
      ∀ agent, found = some agent →
        w'.repo.agents.get id = some agent ∧ agent.ownerUserId = owner ∧ agent.agentId = id := by
  refine does_read h fun _ => Or.inr ⟨_, rfl, ?_⟩
  intro agent hfound
  obtain ⟨hget, howner⟩ := ControlRepository.getHostedAgentForOwner_some hfound
  exact ⟨hget, howner, h.agentId _ _ hget⟩

/-- A record that is found by its key is the one that the key is recorded with. -/
theorem does_hostedAgentReplay (h : Sound hexdigest w) (operation : Operation)
    (owner digest hash : String) :
    Does hexdigest w caller (.hostedAgentReplay operation owner digest hash) fun found w' =>
      ∀ agent, found = some agent → ∃ e,
        w'.repo.idempotency.get (operation, owner, digest) = some e ∧ e.requestHash = hash ∧
          w'.repo.agents.get e.resultId = some agent := by
  refine does_read h ?_
  intro choice
  cases hrun : w.repo.hostedAgentReplay operation owner digest hash with
  | error e => exact Or.inl ⟨.repository e, by simp only [World.perform, hrun, World.inspect]⟩
  | ok found =>
      refine Or.inr ⟨found, by simp only [World.perform, hrun, World.inspect], ?_⟩
      rintro agent rfl
      obtain ⟨e, he, hhash, hagent⟩ := ControlRepository.hostedAgentReplay_some hrun
      exact ⟨e, he, hhash, hagent⟩

theorem does_validate (h : Sound hexdigest w) (outcome : ControlRepository.Outcome) :
    Does hexdigest w caller (.validate outcome) fun _ _ => True :=
  fun _ => Or.inr ⟨_, (), rfl, h.validate outcome,
    later_of_repo (ControlRepository.later_validate outcome), trivial⟩

/-! ### Agents that are written -/

/-- An Agent with its credential and the entry of its key, over no Agent or one with the same owner,
    credential and Provider. -/
theorem later_addAgent {agent : HostedAgentRecord} {credential : CredentialRecord}
    {operation : Operation} {digest hash : String} {now : UtcDateTime} (h : Sound hexdigest w)
    (hcredential : w.repo.credentials.get agent.credentialId = some credential)
    (hnew : w.repo.idempotency.get (operation, agent.ownerUserId, digest) = none)
    (hsame : ∀ old, w.repo.agents.get agent.agentId = some old →
      agent.ownerUserId = old.ownerUserId ∧ agent.credentialId = old.credentialId ∧
        agent.providerId = old.providerId) :
    ControlRepository.Later w.repo
      (w.repo.addAgent agent credential operation digest hash now) := by
  have hid : credential.credentialId = agent.credentialId := (h.credentialId _ _ hcredential).1
  refine (ControlRepository.later_setAgent hsame).trans
    ((ControlRepository.later_setCredential ?_).trans (ControlRepository.later_record hnew))
  intro old hold
  rw [hid] at hold
  obtain rfl : credential = old := Option.some.inj (hcredential.symm.trans hold)
  exact ⟨rfl, rfl⟩

theorem Sound.addAgent {agent : HostedAgentRecord} {credential : CredentialRecord}
    {operation : Operation} {digest hash : String} {now : UtcDateTime}
    {updates : List (Call × HostedAgentRecord)} (h : Sound hexdigest w)
    (hcredential : w.repo.credentials.get agent.credentialId = some credential)
    (howner : credential.ownerUserId = agent.ownerUserId)
    (hprovider : credential.providerId = agent.providerId)
    (hstatus : credential.status ≠ .pendingWrite) (hhashed : Hashed hexdigest agent)
    (hunshared : ∀ id a, w.repo.agents.get id = some a → a.credentialId = agent.credentialId →
      id = agent.agentId)
    (hjournal : Journal hexdigest
      (w.repo.addAgent agent credential operation digest hash now) updates) :
    Sound hexdigest { w with
      repo := w.repo.addAgent agent credential operation digest hash now
      updates := updates } := by
  have hid : credential.credentialId = agent.credentialId := (h.credentialId _ _ hcredential).1
  have hagent := h.setAgent hcredential howner hprovider hhashed hunshared
  have hwritten := h.written _ _ hcredential hstatus
  have hold : w.repo.credentials.get credential.credentialId = some credential := by
    rw [hid]
    exact hcredential
  have hmoved := hagent.setCredential
    (c := { credential with status := .pendingValidation, updatedAt := now })
    hold rfl rfl rfl rfl hwritten
  exact hmoved.record hjournal

theorem does_createHostedAgent (h : Sound hexdigest w) {agent : HostedAgentRecord}
    (hhashed : Hashed hexdigest agent) (digest hash : String) :
    Does hexdigest w caller (.createHostedAgent agent digest hash) fun _ _ => True := by
  intro choice
  cases hrun : w.repo.createHostedAgent agent digest hash choice.now with
  | error e => exact Or.inl ⟨.repository e, by simp only [World.perform, hrun, World.commit]⟩
  | ok result =>
      obtain ⟨repo, creation⟩ := result
      refine Or.inr ⟨{ w with repo }, creation,
        by simp only [World.perform, hrun, World.commit], ?_⟩
      rcases ControlRepository.createHostedAgent_cases hrun with
        rfl | ⟨hnew, credential, hcredential, howner, hprovider, hstored, hunused, hfree, rfl⟩
      · exact ⟨h, World.Later.refl w, trivial⟩
      · have hunshared : ∀ id a, w.repo.agents.get id = some a →
            a.credentialId = agent.credentialId → id = agent.agentId := by
          intro id a ha hsame
          exact absurd hsame (hunused a (List.mem_map_of_mem (Dict.mem_of_get ha)))
        have hjournal : Journal hexdigest
            (w.repo.addAgent agent credential .createAgent digest hash choice.now) w.updates :=
          h.journal.congr fun _ _ => Dict.get_set_ne _ _ (by simp)
        have hlater : ControlRepository.Later w.repo
            (w.repo.addAgent agent credential .createAgent digest hash choice.now) := by
          refine later_addAgent h hcredential hnew ?_
          intro old hold
          rw [hfree] at hold
          cases hold
        exact ⟨h.addAgent hcredential howner hprovider (by simp [hstored]) hhashed hunshared hjournal,
          later_of_repo hlater, trivial⟩

theorem does_updateHostedAgent (h : Sound hexdigest w) {agent : HostedAgentRecord}
    {expected digest hash : String} (hhashed : Hashed hexdigest agent)
    (hknown : ∃ old, w.repo.agents.get agent.agentId = some old ∧
      agent.ownerUserId = old.ownerUserId ∧ agent.credentialId = old.credentialId ∧
        agent.providerId = old.providerId)
    (hentered : Entered hexdigest (caller, agent) agent.ownerUserId digest ⟨hash, agent.agentId⟩) :
    Does hexdigest w caller (.updateHostedAgent agent expected digest hash) fun a w' =>
      ∃ e, w'.repo.idempotency.get (.updateAgent, agent.ownerUserId, digest) = some e ∧
        e.requestHash = hash ∧ w'.repo.agents.get e.resultId = some a := by
  intro choice
  cases hrun : w.repo.updateHostedAgent agent expected digest hash choice.now with
  | error e =>
      refine Or.inl ⟨.repository e, ?_⟩
      simp only [World.perform, hrun, World.update]
      rfl
  | ok result =>
      obtain ⟨repo, a⟩ := result
      have hperform : w.perform choice caller (.updateHostedAgent agent expected digest hash) =
          ({ w.enter caller agent digest with repo }, .ok a) := by
        simp only [World.perform, hrun, World.update]
        rfl
      refine Or.inr ⟨_, a, hperform, ?_⟩
      rcases ControlRepository.updateHostedAgent_cases hrun with
        ⟨rfl, e, he, hhash, hagent⟩ |
        ⟨hnew, rfl, current, credential, hcurrent, hcredential, hvalid, rfl⟩
      · have hsame : ({ w.enter caller agent digest with repo := w.repo } : World) = w := by
          unfold World.enter
          rw [he]
        rw [hsame]
        exact ⟨h, World.Later.refl w, e, he, hhash, hagent⟩
      · obtain ⟨old, hold, howner, hcredentialId, hprovider⟩ := hknown
        obtain rfl : old = current := Option.some.inj (hold.symm.trans hcurrent)
        rw [← hcredentialId] at hcredential
        obtain ⟨c, hc, hcowner, hcprovider⟩ := h.linked _ _ hold
        rw [← hcredentialId] at hc
        obtain rfl : credential = c := Option.some.inj (hcredential.symm.trans hc)
        have hworld : ({ w.enter caller a digest with
              repo := w.repo.addAgent a credential .updateAgent digest hash choice.now } : World) =
            { w with
              repo := w.repo.addAgent a credential .updateAgent digest hash choice.now
              updates := (caller, a) :: w.updates } := by
          unfold World.enter
          rw [hnew]
        have hunshared : ∀ id b, w.repo.agents.get id = some b →
            b.credentialId = a.credentialId → id = a.agentId :=
          fun id b hb hsame => h.unshared id _ b old hb hold (hsame.trans hcredentialId)
        have hjournal : Journal hexdigest
            (w.repo.addAgent a credential .updateAgent digest hash choice.now)
            ((caller, a) :: w.updates) := h.journal.cons hentered hnew rfl
        have hlater : ControlRepository.Later w.repo
            (w.repo.addAgent a credential .updateAgent digest hash choice.now) := by
          refine later_addAgent h hcredential hnew ?_
          intro old' hold'
          obtain rfl : old = old' := Option.some.inj (hold.symm.trans hold')
          exact ⟨howner, hcredentialId, hprovider⟩
        rw [hworld]
        refine ⟨h.addAgent hcredential (hcowner.trans howner.symm) (hcprovider.trans hprovider.symm)
          (by simp [hvalid]) hhashed hunshared hjournal, ⟨hlater, fun _ hx => hx⟩, ?_⟩
        exact ⟨⟨hash, a.agentId⟩, Dict.get_set_self _ _ _, rfl, Dict.get_set_self _ _ _⟩

/-! ### One call among others -/

def discipline (hexdigest : ByteArray → String) : Discipline World where
  inv := Sound hexdigest
  rely := fun _ => World.Later
  refl := fun _ => World.Later.refl
  trans := fun _ _ _ _ => World.Later.trans

/-- From `s` on, a coroutine keeps the invariant and returns in `post`. -/
def Meets {α : Type} (hexdigest : ByteArray → String) (post : α → World → Prop) (x : Coroutine α)
    (s : World) : Prop :=
  ∀ task, Wp World.run (fun _ _ _ _ => True) (discipline hexdigest) task post (fun _ _ => True) x s

section

variable {α : Type} {post : α → World → Prop} {access : Access}
  {does : access.Reply → World → Prop}

theorem meets_raise (e : ServiceError) : Meets hexdigest post (.raise e) s :=
  fun _ => trivial

theorem meets_ret {a : α} (h : post a s) : Meets hexdigest post (.ret a) s :=
  fun _ => h

theorem meets_call {next : Except ServiceError access.Reply → Coroutine α}
    (h : ∀ w, s.Later w → Sound hexdigest w → Does hexdigest w caller access does)
    (hok : ∀ v w, s.Later w → does v w → Meets hexdigest post (next (.ok v)) w)
    (herror : ∀ e w, Meets hexdigest post (next (.error e)) w) :
    Meets hexdigest post (.call ⟨caller, access⟩ next) s := by
  intro task w hlater hsound choice w' reply _ hrun
  by_cases hfails : choice.fails = true
  · have hsame : (w, Except.error ServiceError.failed) = (w', reply) := by
      simpa [World.run, hfails] using hrun
    cases hsame
    exact ⟨hsound, fun _ _ => World.Later.refl w, herror _ w task⟩
  · have hperform : w.perform choice caller access = (w', reply) := by
      simpa [World.run, hfails] using hrun
    rcases h w hlater hsound choice with ⟨e, he⟩ | ⟨u, v, hv, hsound', hlater', hdoes⟩
    · cases he.symm.trans hperform
      exact ⟨hsound, fun _ _ => World.Later.refl w, herror _ w task⟩
    · cases hv.symm.trans hperform
      exact ⟨hsound', fun _ _ => hlater', hok v w' (hlater.trans hlater') hdoes task⟩

theorem meets_await {f : access.Reply → Coroutine α}
    (h : ∀ w, s.Later w → Sound hexdigest w → Does hexdigest w caller access does)
    (hok : ∀ v w, s.Later w → does v w → Meets hexdigest post (f v) w) :
    Meets hexdigest post (await caller access >>= f) s :=
  meets_call h hok fun _ _ => meets_raise _

theorem meets_read {f : access.Reply → Coroutine α}
    (h : ∀ w, s.Later w → Sound hexdigest w → Does hexdigest w caller access does)
    (hok : ∀ v w, s.Later w → does v w → Meets hexdigest post (f v) w) :
    Meets hexdigest post (read caller access >>= f) s :=
  meets_call h hok fun _ _ => meets_raise _

theorem meets_given {f : access.Reply → Coroutine α}
    (h : ∀ w, s.Later w → Sound hexdigest w → Does hexdigest w caller access does)
    (hok : ∀ v w, s.Later w → does v w → Meets hexdigest post (f v) w) :
    Meets hexdigest post (given caller access >>= f) s :=
  meets_call h hok fun _ _ => meets_raise _

theorem meets_checked {β : Type} {x : Except ServiceError β} {f : β → Coroutine α}
    (h : ∀ a, x = .ok a → Meets hexdigest post (f a) s) : Meets hexdigest post (checked x f) s := by
  cases hx : x with
  | error e => exact meets_raise e
  | ok a => exact h a hx

end

/-! ### Credentials -/

theorem safePersistedIdentifier_ok {code : ControlPlaneErrorCode} {value id : String}
    (h : safePersistedIdentifier T code value = .ok id) : id = value := by
  obtain ⟨-, h⟩ := ok_of_guard h
  exact (Except.ok.inj h).symm

theorem safeOwnerId_ok {value owner : String} (h : safeOwnerId T value = .ok owner) :
    owner = value := by
  obtain ⟨-, h⟩ := ok_of_guard h
  exact (Except.ok.inj h).symm

theorem safeStrategy_ok {value strategy : String} (h : safeStrategy T value = .ok strategy) :
    strategy = normalizedStrategy value := by
  obtain ⟨-, h⟩ := ok_of_guard h
  obtain ⟨-, h⟩ := ok_of_guard h
  exact (Except.ok.inj h).symm

theorem newCredential_ok {service : CredentialIngressService} {p : PreparedCredential}
    {now : UtcDateTime} {newId : String} {credential : CredentialRecord}
    (h : newCredential T service p now newId = .ok credential) :
    credential.status = .pendingWrite ∧
      credential.secretRef = secretRefOf credential.credentialId := by
  obtain ⟨credentialId, -, h⟩ := ok_of_bind h
  obtain ⟨-, h⟩ := ok_of_guard h
  obtain ⟨-, h⟩ := ok_of_guard h
  obtain rfl := Except.ok.inj h
  exact ⟨rfl, rfl⟩

theorem meets_checkWritten {α : Type} {post : α → World → Prop} {secretRef written : String}
    {f : Unit → Coroutine α} (h : written = secretRef → Meets hexdigest post (f ()) s) :
    Meets hexdigest post ((checkWritten secretRef written).bind f) s := by
  unfold checkWritten
  by_cases hother : written ≠ secretRef
  · rw [if_pos hother]
    exact meets_raise _
  · rw [if_neg hother]
    exact h (not_not.mp hother)

theorem meets_storeCredential {credential : CredentialRecord} {digest hash : String}
    (href : credential.secretRef = secretRefOf credential.credentialId)
    (reservation : CredentialReservation) :
    Meets hexdigest (fun _ _ => True)
      (storeCredential caller credential digest hash reservation) s := by
  unfold storeCredential
  cases reservation.disposition with
  | replay =>
      dsimp only
      by_cases hpending : reservation.credential.status = .pendingWrite
      · rw [if_pos hpending]
        exact meets_raise _
      · rw [if_neg hpending]
        exact meets_ret trivial
  | created =>
      refine meets_call (fun w _ hw => does_writeSecret hw credential.secretRef) ?_
        fun _ _ => meets_raise _
      intro written w _ hwritten
      refine meets_checkWritten fun hsame => ?_
      rw [hsame, href] at hwritten
      exact meets_await
        (fun u hlater hu => does_markCredentialStored hu (hlater.writes _ hwritten))
        fun _ _ _ _ => meets_ret trivial

theorem meets_createCredential (service : CredentialIngressService) (owner : String)
    (request : CredentialIngressRequest) :
    Meets hexdigest (fun _ _ => True) (createCredential T hexdigest service owner request) s := by
  unfold createCredential
  refine meets_checked fun p _ => ?_
  refine meets_given (fun w _ hw => does_clock hw) fun now w _ _ => ?_
  refine meets_given (fun w _ hw => does_newId hw "cred") fun newId w _ _ => ?_
  refine meets_checked fun credential hcredential => ?_
  obtain ⟨hpending, href⟩ := newCredential_ok hcredential
  refine meets_await (fun w _ hw => does_reserveCredential hw _ _ hpending href) ?_
  intro reservation w _ _
  exact meets_storeCredential href reservation

/-! ### Agents -/

theorem resolve_ok {registry : CapabilityRegistry} {providerId modelId : String}
    {thinkingEnabled : Bool} {requested : Nat} {capability : ResolvedModelCapability}
    (h : registry.resolve providerId modelId thinkingEnabled requested = .ok capability) :
    capability.providerId = providerId ∧ capability.modelId = modelId ∧
      capability.thinkingEnabled = thinkingEnabled := by
  unfold CapabilityRegistry.resolve at h
  cases hget : registry.entries.get (providerId, modelId) with
  | none =>
      rw [hget] at h
      cases h
  | some entry =>
      rw [hget] at h
      obtain ⟨-, h⟩ := ok_of_guard h
      obtain ⟨-, h⟩ := ok_of_guard h
      obtain ⟨-, h⟩ := ok_of_guard h
      obtain ⟨halways, h⟩ := ok_of_guard h
      obtain rfl := Except.ok.inj h
      have hkey := registry.keyed _ _ hget
      obtain ⟨hprovider, hmodel⟩ := Prod.mk.inj hkey
      refine ⟨hprovider.symm, hmodel.symm, ?_⟩
      by_cases hmode : entry.thinkingMode = .alwaysOn
      · simpa [hmode] using halways
      · simp [hmode]

/-- The capability of a request is that of its Provider, its model and its thinking flag. -/
theorem capabilityOf_ok {service : HostedAgentService} {providerId modelId : String}
    {thinkingEnabled : Bool} {capability : ResolvedModelCapability}
    (h : service.capabilityOf providerId modelId thinkingEnabled = .ok capability) :
    capability.providerId = providerId ∧ capability.modelId = modelId ∧
      capability.thinkingEnabled = thinkingEnabled := by
  unfold HostedAgentService.capabilityOf at h
  split at h
  · cases h
  · split at h
    · cases h
    · rename_i hresolve
      cases h
      exact resolve_ok hresolve

theorem newHostedAgent_ok {service : HostedAgentService} {p : PreparedCreation}
    {credential : CredentialRecord} {capability : ResolvedModelCapability} {now : UtcDateTime}
    {ids : NewIds} {agent : HostedAgentRecord}
    (h : newHostedAgent T hexdigest service p credential capability now ids = .ok agent) :
    Hashed hexdigest agent := by
  obtain ⟨adapterVersion, -, h⟩ := ok_of_bind h
  obtain ⟨agentId, -, h⟩ := ok_of_bind h
  obtain ⟨hostedConfigId, -, h⟩ := ok_of_bind h
  obtain ⟨runtimeBindingId, -, h⟩ := ok_of_bind h
  obtain ⟨validationJobId, -, h⟩ := ok_of_bind h
  obtain ⟨-, h⟩ := ok_of_guard h
  obtain rfl := Except.ok.inj h
  rfl

theorem meets_insertHostedAgent (service : HostedAgentService) (p : PreparedCreation)
    (requestHash : String) (credential : CredentialRecord) (capability : ResolvedModelCapability) :
    Meets hexdigest (fun _ _ => True)
      (insertHostedAgent T hexdigest caller service p requestHash credential capability) s := by
  unfold insertHostedAgent
  refine meets_given (fun w _ hw => does_clock hw) fun now _ _ _ => ?_
  refine meets_given (fun w _ hw => does_newId hw _) fun agentId _ _ _ => ?_
  refine meets_given (fun w _ hw => does_newId hw _) fun hostedConfigId _ _ _ => ?_
  refine meets_given (fun w _ hw => does_newId hw _) fun runtimeBindingId _ _ _ => ?_
  refine meets_given (fun w _ hw => does_newId hw _) fun validationJobId _ _ _ => ?_
  refine meets_checked fun agent hagent => ?_
  exact meets_await (fun w _ hw => does_createHostedAgent hw (newHostedAgent_ok hagent) _ _)
    fun _ _ _ _ => meets_ret trivial

theorem meets_createHostedAgent (service : HostedAgentService) (owner : String)
    (request : HostedAgentCreateRequest) :
    Meets hexdigest (fun _ _ => True) (createHostedAgent T hexdigest service owner request) s := by
  unfold createHostedAgent
  refine meets_checked fun p _ => ?_
  refine meets_await (fun w _ hw => does_hostedAgentReplay hw _ _ _ _) fun replay w _ _ => ?_
  cases replay with
  | some agent => exact meets_ret trivial
  | none =>
      unfold createFresh
      refine meets_read (fun w _ hw => does_getCredentialForOwner hw _ _) fun found w _ _ => ?_
      cases found with
      | none => exact meets_raise _
      | some credential =>
          dsimp only
          by_cases hprovider : credential.providerId ≠ p.providerId
          · rw [if_pos hprovider]
            exact meets_raise _
          · rw [if_neg hprovider]
            exact meets_checked fun capability _ => meets_insertHostedAgent _ _ _ _ _

/-- What is prepared of an update request. -/
structure Prepared (hexdigest : ByteArray → String) (p : PreparedUpdate) (owner agentId : String)
    (request : HostedAgentUpdateRequest) : Prop where
  owner : p.owner = owner
  agentId : p.agentId = agentId
  providerId : p.providerId = request.providerId
  modelId : p.modelId = request.modelId
  strategy : p.strategy = normalizedStrategy request.strategyInstructions
  idempotencyKeyDigest : p.idempotencyKeyDigest = sha256TextIdentifier hexdigest request.idempotencyKey

theorem prepareUpdate_ok {service : HostedAgentService} {owner agentId : String}
    {request : HostedAgentUpdateRequest} {p : PreparedUpdate}
    (h : prepareUpdate T hexdigest service owner agentId request = .ok p) :
    Prepared hexdigest p owner agentId request := by
  obtain ⟨-, h⟩ := ok_of_guard h
  obtain ⟨safeOwner, howner, h⟩ := ok_of_bind h
  obtain ⟨safeAgentId, hagentId, h⟩ := ok_of_bind h
  obtain ⟨providerId, hproviderId, h⟩ := ok_of_bind h
  obtain ⟨modelId, hmodelId, h⟩ := ok_of_bind h
  obtain ⟨strategy, hstrategy, h⟩ := ok_of_bind h
  obtain ⟨key, hkey, h⟩ := ok_of_bind h
  obtain rfl := Except.ok.inj h
  exact
    { owner := safeOwnerId_ok howner
      agentId := safePersistedIdentifier_ok hagentId
      providerId := safePersistedIdentifier_ok hproviderId
      modelId := safePersistedIdentifier_ok hmodelId
      strategy := safeStrategy_ok hstrategy
      idempotencyKeyDigest := by rw [safePersistedIdentifier_ok hkey] }

/-- The key of an update is recorded, and the answer is the Agent it is recorded for. -/
def Settled (hexdigest : ByteArray → String) (owner : String) (request : HostedAgentUpdateRequest)
    (detail : HostedAgentDetail) (w : World) : Prop :=
  ∃ e agent, w.repo.idempotency.get
      (.updateAgent, owner, sha256TextIdentifier hexdigest request.idempotencyKey) = some e ∧
    e.requestHash = sha256Identifier hexdigest request.dump ∧
    w.repo.agents.get e.resultId = some agent ∧ detail = agentDetail agent

/-- An Agent as it was read: its own id and owner, and what no later state changes of it. -/
structure Read (p : PreparedUpdate) (current : HostedAgentRecord) (w : World) : Prop where
  agentId : current.agentId = p.agentId
  ownerUserId : current.ownerUserId = p.owner
  stored : ∃ a, w.repo.agents.get p.agentId = some a ∧ current.ownerUserId = a.ownerUserId ∧
    current.credentialId = a.credentialId ∧ current.providerId = a.providerId

theorem Read.later {p : PreparedUpdate} {current : HostedAgentRecord} (h : Read p current w)
    (hlater : w.Later w') : Read p current w' := by
  obtain ⟨a, ha, howner, hcredential, hprovider⟩ := h.stored
  obtain ⟨a', ha', howner', hcredential', hprovider'⟩ := hlater.repo.agent _ a ha
  exact ⟨h.agentId, h.ownerUserId, a', ha', howner.trans howner'.symm,
    hcredential.trans hcredential'.symm, hprovider.trans hprovider'.symm⟩

section Update

variable {service : HostedAgentService} {owner agentId : String}
  {request : HostedAgentUpdateRequest} {p : PreparedUpdate} {current : HostedAgentRecord}

theorem meets_replaceHostedAgent (hp : Prepared hexdigest p owner agentId request)
    {capability : ResolvedModelCapability}
    (hcapability : capability.providerId = p.providerId ∧ capability.modelId = p.modelId ∧
      capability.thinkingEnabled = request.thinkingEnabled)
    (hprovider : current.providerId = p.providerId) (hread : Read p current s) :
    Meets hexdigest (Settled hexdigest owner request)
      (replaceHostedAgent T hexdigest (.updateHostedAgent service owner agentId request) service p
        (sha256Identifier hexdigest request.dump) current capability) s := by
  unfold replaceHostedAgent
  refine meets_given (fun w _ hw => does_clock hw) fun now w₁ hlater₁ _ => ?_
  refine meets_given (fun w _ hw => does_newId hw _) fun newId w₂ hlater₂ _ => ?_
  refine meets_checked fun validationJobId _ => ?_
  have hread₂ := hread.later (hlater₁.trans hlater₂)
  generalize hcandidate : candidateOf hexdigest service p current capability now validationJobId =
    candidate
  have hhashed : Hashed hexdigest candidate := by
    subst hcandidate
    rfl
  have howner : candidate.ownerUserId = owner := by
    subst hcandidate
    exact hread.ownerUserId.trans hp.owner
  have hagentId : candidate.agentId = agentId := by
    subst hcandidate
    exact hread.agentId.trans hp.agentId
  have hentered : Entered hexdigest (.updateHostedAgent service owner agentId request, candidate)
      candidate.ownerUserId p.idempotencyKeyDigest
      ⟨sha256Identifier hexdigest request.dump, candidate.agentId⟩ := by
    refine ⟨⟨service, request, ?_, hp.idempotencyKeyDigest, rfl, ?_⟩, rfl⟩
    · rw [howner, hagentId]
    · subst hcandidate
      exact ⟨hcapability.1.trans hp.providerId, hcapability.2.1.trans hp.modelId, hcapability.2.2,
        hp.strategy⟩
  refine meets_await (fun w hlater hw => does_updateHostedAgent hw hhashed ?_ hentered) ?_
  · obtain ⟨a, ha, hsame⟩ := (hread₂.later hlater).stored
    subst hcandidate
    exact ⟨a, hread.agentId ▸ ha, hsame.1, hsame.2.1,
      hcapability.1.trans (hprovider.symm.trans hsame.2.2)⟩
  · intro updated w _ hdoes
    obtain ⟨e, he, hhash, hstored⟩ := hdoes
    rw [howner, hp.idempotencyKeyDigest] at he
    exact meets_ret ⟨e, updated, he, hhash, hstored, rfl⟩

theorem meets_updateCurrent (hp : Prepared hexdigest p owner agentId request)
    (hread : Read p current s) :
    Meets hexdigest (Settled hexdigest owner request)
      (updateCurrent T hexdigest (.updateHostedAgent service owner agentId request) service p
        (sha256Identifier hexdigest request.dump) request.thinkingEnabled current) s := by
  unfold updateCurrent
  by_cases hprovider : current.providerId ≠ p.providerId
  · rw [if_pos hprovider]
    exact meets_raise _
  · rw [if_neg hprovider]
    refine meets_read (fun w _ hw => does_getCredentialForOwner hw _ _) fun found w hlater _ => ?_
    cases found with
    | none => exact meets_raise _
    | some credential =>
        dsimp only
        by_cases hstatus : credential.status ≠ .valid
        · rw [if_pos hstatus]
          exact meets_raise _
        · rw [if_neg hstatus]
          refine meets_checked fun capability hcapability => ?_
          exact meets_replaceHostedAgent hp (capabilityOf_ok hcapability) (not_not.mp hprovider)
            (hread.later hlater)

theorem meets_updateHostedAgent (service : HostedAgentService) (owner agentId : String)
    (request : HostedAgentUpdateRequest) :
    Meets hexdigest (Settled hexdigest owner request)
      (updateHostedAgent T hexdigest service owner agentId request) s := by
  unfold updateHostedAgent
  refine meets_checked fun p hprepared => ?_
  have hp := prepareUpdate_ok hprepared
  refine meets_await (fun w _ hw => does_hostedAgentReplay hw _ _ _ _) fun replay w _ hreplay => ?_
  cases replay with
  | some agent =>
      obtain ⟨e, he, hhash, hstored⟩ := hreplay agent rfl
      rw [hp.owner, hp.idempotencyKeyDigest] at he
      exact meets_ret ⟨e, agent, he, hhash, hstored, rfl⟩
  | none =>
      unfold updateFresh
      refine meets_read (fun w _ hw => does_getHostedAgentForOwner hw _ _) ?_
      intro found w _ hfound
      cases found with
      | none => exact meets_raise _
      | some current =>
          obtain ⟨hget, howner, hid⟩ := hfound current rfl
          exact meets_updateCurrent hp ⟨hid, howner, current, hget, rfl, rfl, rfl⟩

end Update

/-! ### Any calls -/

/-- What holds when a call returns. -/
def Answered (hexdigest : ByteArray → String) (answer : Answer) (w : World) : Prop :=
  match answer with
  | .agent (.updateHostedAgent _ owner _ request) detail => Settled hexdigest owner request detail w
  | _ => True

theorem Meets.map {α β : Type} {post : α → World → Prop} {post' : β → World → Prop} {x : Coroutine α}
    (h : Meets hexdigest post x s) {f : α → β} (hf : ∀ a w, post a w → post' (f a) w) :
    Meets hexdigest post' (x >>= fun a => pure (f a)) s :=
  fun task => Wp.bind (Wp.mono hf (fun _ _ h => h) (h task))

theorem meets_programOf (call : Call) :
    Meets hexdigest (Answered hexdigest) (programOf T hexdigest call) s := by
  cases call with
  | createCredential service owner request =>
      exact (meets_createCredential service owner request).map fun _ _ _ => trivial
  | createHostedAgent service owner request =>
      exact (meets_createHostedAgent service owner request).map fun _ _ _ => trivial
  | updateHostedAgent service owner agentId request =>
      exact (meets_updateHostedAgent service owner agentId request).map fun _ _ h => h
  | validate outcome =>
      exact meets_await (fun w _ hw => does_validate hw outcome) fun _ _ _ _ => meets_ret trivial

/-- Everything that is in flight keeps the invariant. -/
abbrev Safe (hexdigest : ByteArray → String) (calls : Calls) : Prop :=
  Pool.Safe World.run (fun _ _ _ _ => True) (discipline hexdigest) (Answered hexdigest)
    (fun _ _ => True) calls

theorem safe_start : Safe hexdigest ⟨{}, []⟩ :=
  ⟨sound_empty, fun _ _ h => by cases h⟩

theorem allowed (calls : Calls) (e : Event Call Choice) :
    calls.Allowed (fun _ => True) (fun _ _ _ _ => True) e := by
  cases e with
  | spawn op => trivial
  | advance task choice => exact fun _ _ _ => trivial

theorem Safe.step {calls calls' : Calls} (h : Safe hexdigest calls) {e : Event Call Choice}
    (hstep : Hosted.step T hexdigest calls e = some calls') : Safe hexdigest calls' :=
  Pool.Safe.step h (fun op _ task _ _ => meets_programOf op task) (allowed calls e) hstep

theorem safe_of_run {calls calls' : Calls} (h : Safe hexdigest calls)
    (hrun : Trans.Run (step T hexdigest) (fun _ _ => True) calls calls') : Safe hexdigest calls' :=
  hrun.invariant h fun _ _ _ hsafe _ hstep => hsafe.step hstep

/-- No step takes back what is `Later`. -/
theorem later_of_step {calls calls' : Calls} (h : Safe hexdigest calls) {e : Event Call Choice}
    (hstep : step T hexdigest calls e = some calls') : calls.shared.Later calls'.shared := by
  cases e with
  | spawn op =>
      obtain rfl := Option.some.inj hstep
      exact World.Later.refl _
  | advance task choice =>
      exact (Pool.Safe.advance h (allowed calls _) hstep).2.1 (task + 1) (by omega)

theorem later_of_run {calls calls' : Calls} (h : Safe hexdigest calls)
    (hrun : Trans.Run (step T hexdigest) (fun _ _ => True) calls calls') :
    calls.shared.Later calls'.shared := by
  have hboth : Safe hexdigest calls' ∧ calls.shared.Later calls'.shared := by
    refine hrun.invariant (I := fun c => Safe hexdigest c ∧ calls.shared.Later c.shared)
      ⟨h, World.Later.refl _⟩ ?_
    rintro c e c' ⟨hsafe, hlater⟩ _ hstep
    exact ⟨hsafe.step hstep, hlater.trans (later_of_step hsafe hstep)⟩
  exact hboth.2

/-! ### A run -/

def plainTables : TextTables where
  nfkc := id
  casefold := id
  isalnum := Char.isAlphanum
  category _ := "Ll"
  secretPatterns _ := false
  piiPatterns _ := false
  htmlPattern _ := false

/-- A checksum of four hexadecimal digits in the place of the digest. -/
def checksum (bytes : ByteArray) : String :=
  let sum := bytes.data.toList.foldl (fun sum b => (sum * 31 + b.toNat) % 65536) 7
  String.ofList (List.replicate 60 '0' ++
    [sum / 4096, sum / 256 % 16, sum / 16 % 16, sum % 16].map Nat.digitChar)

def smallModel : ModelCapability where
  providerId := "p"
  modelId := "m"
  thinkingMode := .optional
  maxOutputTokens := 4096
  adapterVersion := "v1"
  verified := true
  enabled := true

def oneModel : CapabilityRegistry where
  registryVersion := "r1"
  entries := [(("p", "m"), smallModel)]
  keyed := by
    intro key capability h
    rw [Dict.get_cons] at h
    by_cases hkey : ("p", "m") = key
    · rw [if_pos hkey] at h
      cases h
      exact hkey.symm
    · rw [if_neg hkey] at h
      cases h

def ingress : CredentialIngressService where
  hmacSha256 _ := String.ofList (List.replicate 64 'a')
  pepperVersion := 1

def agents : HostedAgentService := { capabilities := oneModel }

def createAgentRequest (name credentialId key : String) : HostedAgentCreateRequest :=
  { displayName := name, credentialId, providerId := "p", modelId := "m",
    thinkingEnabled := false, idempotencyKey := key }

/-- An update that the owner sends twice, first to `agent-1` and then to `agent-2`. -/
def cautious : HostedAgentUpdateRequest :=
  { providerId := "p", modelId := "m", thinkingEnabled := true,
    strategyInstructions := "Wait.", idempotencyKey := "update-key" }

def ready : ControlRepository.Outcome where
  credential _ := .valid
  identity _ := .active
  provisioning _ := .ready
  route _ := .ready
  now := 50

/-- One call, its accesses answered one after another. -/
def runCall (call : Call) (task : Nat) (choices : List Choice) : List (Event Call Choice) :=
  .spawn call :: choices.map (.advance task)

def twoAgents : List (Event Call Choice) :=
  runCall (.createCredential ingress "owner" ⟨"p", "secret", "key-cred-1"⟩) 0
      [{}, { id := "cred-1" }, {}, { written := "arena402/hosted-model/cred-1" }, {}] ++
    runCall (.createCredential ingress "owner" ⟨"p", "secret", "key-cred-2"⟩) 1
      [{}, { id := "cred-2" }, {}, { written := "arena402/hosted-model/cred-2" }, {}] ++
    runCall (.createHostedAgent agents "owner" (createAgentRequest "One" "cred-1" "key-agent-1")) 2
      [{}, {}, {}, { id := "agent-1" }, { id := "h1" }, { id := "r1" }, { id := "v1" }, {}] ++
    runCall (.createHostedAgent agents "owner" (createAgentRequest "Two" "cred-2" "key-agent-2")) 3
      [{}, {}, {}, { id := "agent-2" }, { id := "h2" }, { id := "r2" }, { id := "v2" }, {}] ++
    runCall (.validate ready) 4 [{}] ++
    runCall (.updateHostedAgent agents "owner" "agent-1" cautious) 5
      [{}, {}, {}, {}, { id := "v3" }, {}] ++
    [.spawn (.updateHostedAgent agents "owner" "agent-2" cautious)]

/-- The requests of the accepted updates. -/
def updateRequests (w : World) : List (Option HostedAgentUpdateRequest) :=
  w.updates.map fun x =>
    match x.1 with
    | .updateHostedAgent _ _ _ request => some request
    | _ => none

/-- What an update was asked for, and the id of the Agent it returned. -/
structure UpdateAnswer where
  owner : String
  agentId : String
  request : HostedAgentUpdateRequest
  answered : String
deriving DecidableEq

def updateAnswer (calls : Calls) (task : Nat) : Option UpdateAnswer :=
  match calls.tasks[task]? with
  | some (.ret (.agent (.updateHostedAgent _ owner agentId request) detail)) =>
    some ⟨owner, agentId, request, detail.agentId⟩
  | _ => none

theorem updateAnswer_some {calls : Calls} {task : Nat} {a : UpdateAnswer}
    (h : updateAnswer calls task = some a) : ∃ service detail, calls.tasks[task]? =
      some (.ret (.agent (.updateHostedAgent service a.owner a.agentId a.request) detail)) ∧
        detail.agentId = a.answered := by
  unfold updateAnswer at h
  split at h
  · rename_i service owner agentId request detail htask
    cases h
    exact ⟨service, detail, htask, rfl⟩
  · cases h

/-! The run is evaluated in parts.  Between two parts all calls have ended, and an ended call
makes no difference to the rest, so the next part starts from any ended calls. -/

def digestOf (digits : String) : String :=
  "sha256:" ++ String.ofList (List.replicate 60 '0') ++ digits

def credentialOf (id : String) (status : CredentialStatus) : CredentialRecord where
  credentialId := id
  ownerUserId := "owner"
  providerId := "p"
  secretRef := secretRefOf id
  fingerprint := String.ofList (List.replicate 64 'a')
  fingerprintPepperVersion := 1
  status := status
  createdAt := 0
  updatedAt := 0

def agentOf (number displayName configDigits : String) : HostedAgentRecord where
  agentId := "agent-" ++ number
  ownerUserId := "owner"
  displayName := displayName
  identityStatus := .active
  hostedConfigId := "h" ++ number
  credentialId := "cred-" ++ number
  providerId := "p"
  modelId := "m"
  thinkingEnabled := false
  strategyInstructions := ""
  promptVersion := "arena.pydantic-agent.v1"
  taskSchemaVersion := "arena.agent-task.v1"
  actionSchemaVersion := "arena.agent-action.v1"
  capabilityVersion := "r1"
  adapterVersion := "v1"
  maxInputBytes := 65536
  maxContextItems := 256
  maxOutputTokens := 4096
  configHash := digestOf configDigits
  provisioningStatus := .provisioning
  runtimeBindingId := "r" ++ number
  routeStatus := .provisioning
  validationJobId := "v" ++ number
  createdAt := 0
  updatedAt := 0

/-- The keys of the two credentials. -/
def credentialKeys : Dict (Operation × String × String) IdempotencyEntry :=
  [((.createCredential, "owner", digestOf "39e7"), ⟨digestOf "9b86", "cred-1"⟩),
    ((.createCredential, "owner", digestOf "39e8"), ⟨digestOf "9b86", "cred-2"⟩)]

def storedSecrets : List (String × String) :=
  [(secretRefOf "cred-2", secretRefOf "cred-2"), (secretRefOf "cred-1", secretRefOf "cred-1")]

def twoCredentials : World where
  repo :=
    { credentials := [("cred-1", credentialOf "cred-1" .stored),
        ("cred-2", credentialOf "cred-2" .stored)]
      idempotency := credentialKeys }
  writes := storedSecrets

def oneAgent : World where
  repo :=
    { credentials := [("cred-1", credentialOf "cred-1" .pendingValidation),
        ("cred-2", credentialOf "cred-2" .stored)]
      agents := [("agent-1", agentOf "1" "One" "ed71")]
      idempotency := credentialKeys ++
        [((.createAgent, "owner", digestOf "d394"), ⟨digestOf "1bb3", "agent-1"⟩)] }
  writes := storedSecrets

def bothAgents : World where
  repo :=
    { credentials := [("cred-1", credentialOf "cred-1" .pendingValidation),
        ("cred-2", credentialOf "cred-2" .pendingValidation)]
      agents := [("agent-1", agentOf "1" "One" "ed71"), ("agent-2", agentOf "2" "Two" "2b90")]
      idempotency := oneAgent.repo.idempotency ++
        [((.createAgent, "owner", digestOf "d395"), ⟨digestOf "6aec", "agent-2"⟩)] }
  writes := storedSecrets

/-- `n` calls that have ended. -/
def ended (w : World) (n : Nat) : Calls :=
  ⟨w, List.replicate n (.ret .validated)⟩

/-- What the next part of a run can see of the calls, when no update was made yet. -/
def visible (calls : Calls) : ControlRepository × List (String × String) × Bool × Nat :=
  (calls.shared.repo, calls.shared.writes, calls.shared.updates.isEmpty, calls.tasks.length)

theorem agree_ended {calls : Calls} {world : World} {n : Nat}
    (h : visible calls = (world.repo, world.writes, true, n)) (hnone : world.updates = []) :
    Pool.AgreeFrom n (ended world n) calls := by
  unfold visible at h
  simp only [Prod.mk.injEq, List.isEmpty_iff] at h
  obtain ⟨hrepo, hwrites, hupdates, hlength⟩ := h
  refine ⟨?_, ?_, ?_⟩
  · cases world
    cases hcalls : calls.shared
    simp_all [ended]
  · simp [ended, hlength]
  · intro i hi
    rw [List.getElem?_eq_none, List.getElem?_eq_none]
    · omega
    · simpa [ended] using hi

/-- The calls that a part of the run ends with. -/
def EndsVisibly (start : Calls) (es : List (Event Call Choice)) (world : World) (n : Nat) : Prop :=
  (Trans.exec (step plainTables checksum) (fun _ _ => True) start es).map visible =
    some (world.repo, world.writes, true, n)

/-- One part of a run after another. -/
theorem exec_from {start : Calls} {world : World} {n : Nat} {es es' : List (Event Call Choice)}
    (hends : EndsVisibly start es world n) (hnone : world.updates = [])
    (hafter : ∀ e ∈ es', Pool.After n e) {after : Calls}
    (hexec' : Trans.exec (step plainTables checksum) (fun _ _ => True) (ended world n) es' =
      some after) :
    ∃ calls', Trans.exec (step plainTables checksum) (fun _ _ => True) start (es ++ es') =
      some calls' ∧ Pool.AgreeFrom n after calls' := by
  obtain ⟨calls, hexec, hvisible⟩ := Option.map_eq_some_iff.mp hends
  obtain ⟨calls', hcalls', hagree⟩ :=
    (agree_ended hvisible hnone).exec (fun _ _ => trivial) es' hafter hexec'
  refine ⟨calls', ?_, hagree⟩
  rw [Trans.exec_append, hexec]
  exact hcalls'

theorem EndsVisibly.append {start : Calls} {world world' : World} {n n' : Nat}
    {es es' : List (Event Call Choice)} (hends : EndsVisibly start es world n)
    (hnone : world.updates = []) (hafter : ∀ e ∈ es', Pool.After n e)
    (hends' : EndsVisibly (ended world n) es' world' n') :
    EndsVisibly start (es ++ es') world' n' := by
  obtain ⟨after, hafter', hvisible⟩ := Option.map_eq_some_iff.mp hends'
  obtain ⟨calls, hexec, hagree⟩ := exec_from hends hnone hafter hafter'
  unfold EndsVisibly
  rw [hexec, Option.map_some, ← hvisible]
  unfold visible
  rw [hagree.shared, hagree.length]

instance {n : Nat} (e : Event Call Choice) : Decidable (Pool.After n e) :=
  match e with
  | .spawn _ => .isTrue trivial
  | .advance task _ => inferInstanceAs (Decidable (n ≤ task))

/-- The second update is answered with the Agent of the first. -/
theorem twoAgents_run :
    ((Trans.exec (step plainTables checksum) (fun _ _ => True) ⟨{}, []⟩ twoAgents).bind fun calls =>
      (step plainTables checksum calls (.advance 6 {})).map fun calls' =>
        (calls.shared.repo.agents.keys, updateRequests calls'.shared, updateAnswer calls' 6)) =
    some (["agent-1", "agent-2"], [some cautious],
      some ⟨"owner", "agent-2", cautious, "agent-1"⟩) := by
  have htwoCredentials : EndsVisibly ⟨{}, []⟩ (twoAgents.take 12) twoCredentials 2 := by
    unfold EndsVisibly
    decide +kernel
  have honeAgent : EndsVisibly (ended twoCredentials 2) ((twoAgents.drop 12).take 9) oneAgent 3 := by
    unfold EndsVisibly
    decide +kernel
  have hbothAgents : EndsVisibly (ended oneAgent 3) ((twoAgents.drop 21).take 9) bothAgents 4 := by
    unfold EndsVisibly
    decide +kernel
  have hagents : EndsVisibly ⟨{}, []⟩
      (twoAgents.take 12 ++ (twoAgents.drop 12).take 9 ++ (twoAgents.drop 21).take 9) bothAgents 4 :=
    (htwoCredentials.append rfl (by decide) honeAgent).append rfl (by decide) hbothAgents
  -- The rest of the run, and the step that answers its last call.
  have hlastCalls :
      ((Trans.exec (step plainTables checksum) (fun _ _ => True) (ended bothAgents 4)
          (twoAgents.drop 30)).bind fun calls =>
        (step plainTables checksum calls (.advance 6 {})).map fun calls' =>
          (calls.shared.repo.agents.keys, updateRequests calls'.shared, updateAnswer calls' 6)) =
      some (["agent-1", "agent-2"], [some cautious],
        some ⟨"owner", "agent-2", cautious, "agent-1"⟩) := by
    decide +kernel
  obtain ⟨last, hlast, hrest⟩ := Option.bind_eq_some_iff.mp hlastCalls
  obtain ⟨last', hlast', hsummary⟩ := Option.map_eq_some_iff.mp hrest
  obtain ⟨calls, hcalls, hagree⟩ := exec_from hagents rfl (by decide) hlast
  have hwhole : twoAgents.take 12 ++ (twoAgents.drop 12).take 9 ++ (twoAgents.drop 21).take 9 ++
      twoAgents.drop 30 = twoAgents := rfl
  rw [hwhole] at hcalls
  obtain ⟨calls', hcalls', hagree'⟩ := hagree.step (by decide : Pool.After 4 _) hlast'
  have hstep : step plainTables checksum calls (.advance 6 {}) = some calls' := hcalls'
  rw [hcalls, Option.bind_some, hstep, ← hsummary]
  unfold updateAnswer
  rw [Option.map_some, ← hagree.shared, ← hagree'.shared, ← hagree'.tasks 6 (by decide)]

theorem twoAgents_reached : ∃ calls calls' service detail,
    Reachable plainTables checksum calls ∧
      calls.shared.repo.agents.keys = ["agent-1", "agent-2"] ∧
      step plainTables checksum calls (.advance 6 {}) = some calls' ∧
      updateRequests calls'.shared = [some cautious] ∧
      calls'.tasks[6]? =
        some (.ret (.agent (.updateHostedAgent service "owner" "agent-2" cautious) detail)) ∧
      detail.agentId = "agent-1" := by
  obtain ⟨calls, hexec, hrest⟩ := Option.bind_eq_some_iff.mp twoAgents_run
  obtain ⟨calls', hstep, hsummary⟩ := Option.map_eq_some_iff.mp hrest
  obtain ⟨hkeys, hrequests, hanswer⟩ : calls.shared.repo.agents.keys = ["agent-1", "agent-2"] ∧
      updateRequests calls'.shared = [some cautious] ∧
      updateAnswer calls' 6 = some ⟨"owner", "agent-2", cautious, "agent-1"⟩ := by
    simpa using hsummary
  obtain ⟨service, detail, htask, hid⟩ := updateAnswer_some hanswer
  exact ⟨calls, calls', service, detail, Trans.run_of_exec _ hexec, hkeys, hstep, hrequests, htask,
    hid⟩

/-! ### Every state -/

/-- **In every state that calls of any owners reach: a credential is used by at most one Agent, which
    has its owner and its Provider; the configuration hash of an Agent is that of its own fields; a
    credential is out of `pending_write` only if the secret writer returned its own reference for
    it; and no later state changes what is recorded of an idempotency key.** -/
theorem reachable_sound (calls : Calls) (h : Reachable T hexdigest calls) :
    (∀ id agent, calls.shared.repo.agents.get id = some agent →
      ∃ credential, calls.shared.repo.credentials.get agent.credentialId = some credential ∧
        credential.ownerUserId = agent.ownerUserId ∧ credential.providerId = agent.providerId) ∧
    (∀ id id' agent agent', calls.shared.repo.agents.get id = some agent →
      calls.shared.repo.agents.get id' = some agent' →
        agent.credentialId = agent'.credentialId → id = id') ∧
    (∀ id agent, calls.shared.repo.agents.get id = some agent →
      agent.configHash = sha256Identifier hexdigest agent.configSource) ∧
    (∀ id credential, calls.shared.repo.credentials.get id = some credential →
      credential.status ≠ .pendingWrite →
        (credential.secretRef, credential.secretRef) ∈ calls.shared.writes) ∧
    (∀ calls', Trans.Run (step T hexdigest) (fun _ _ => True) calls calls' →
      ∀ key entry, calls.shared.repo.idempotency.get key = some entry →
        calls'.shared.repo.idempotency.get key = some entry) := by
  have hsafe : Safe hexdigest calls := safe_of_run safe_start h
  have hsound : Sound hexdigest calls.shared := hsafe.inv
  refine ⟨hsound.linked, hsound.unshared, hsound.hashed, hsound.written, ?_⟩
  intro calls' hrun key entry hentry
  exact (later_of_run hsafe hrun).repo.entry key entry hentry

theorem reachable_sound_twoAgents : ∃ calls, calls.shared.repo.agents.keys = ["agent-1", "agent-2"] ∧
    (∀ id agent, calls.shared.repo.agents.get id = some agent →
      ∃ credential, calls.shared.repo.credentials.get agent.credentialId = some credential ∧
        credential.ownerUserId = agent.ownerUserId ∧ credential.providerId = agent.providerId) ∧
    (∀ id id' agent agent', calls.shared.repo.agents.get id = some agent →
      calls.shared.repo.agents.get id' = some agent' →
        agent.credentialId = agent'.credentialId → id = id') ∧
    (∀ id agent, calls.shared.repo.agents.get id = some agent →
      agent.configHash = sha256Identifier checksum agent.configSource) ∧
    (∀ id credential, calls.shared.repo.credentials.get id = some credential →
      credential.status ≠ .pendingWrite →
        (credential.secretRef, credential.secretRef) ∈ calls.shared.writes) ∧
    (∀ calls', Trans.Run (step plainTables checksum) (fun _ _ => True) calls calls' →
      ∀ key entry, calls.shared.repo.idempotency.get key = some entry →
        calls'.shared.repo.idempotency.get key = some entry) := by
  obtain ⟨calls, calls', service, detail, hreach, hkeys, -⟩ := twoAgents_reached
  exact ⟨calls, hkeys, reachable_sound calls hreach⟩

end Arena402.Hosted
