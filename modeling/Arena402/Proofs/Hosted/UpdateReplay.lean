/-
Updates that are repeated under their key.

The request hash of an update covers the request and not the Agent it is addressed to.  So a key that
was recorded for one Agent answers, for the same request, every later update of its owner with that
Agent: the answer is about the addressed Agent exactly when the key was not recorded for another one
(`update_answers_iff`).
-/
import Arena402.Proofs.Lib.Json
import Arena402.Proofs.Hosted.Services

namespace Arena402.Hosted

open Py Async Wire

variable {T : TextTables} {hexdigest : ByteArray → String} {w : World} {calls calls' : Calls}
  {owner agentId : String} {request request' : HostedAgentUpdateRequest}

/-! ### What an update may access -/

/-- The accesses of `update_hosted_agent`. -/
def UpdateAccess : Access → Prop
  | .clock | .newId _ | .getCredentialForOwner .. | .getHostedAgentForOwner ..
  | .hostedAgentReplay .. | .updateHostedAgent .. => True
  | _ => False

theorem inspect_fst {α : Type} (x : Except RepositoryError α) : (w.inspect x).1 = w := by
  cases x with
  | error e => rfl
  | ok a => rfl

theorem update_fst (caller : Call) (agent : HostedAgentRecord) (expected digest hash : String)
    (now : UtcDateTime) : (w.update caller agent expected digest hash now).1 = w ∨
      (w.update caller agent expected digest hash now).1.updates = (caller, agent) :: w.updates := by
  unfold World.update
  cases hrun : w.repo.updateHostedAgent agent expected digest hash now with
  | error e => exact Or.inl rfl
  | ok result =>
      obtain ⟨repo, a⟩ := result
      rcases ControlRepository.updateHostedAgent_cases hrun with ⟨rfl, e, he, -⟩ | ⟨hnew, -⟩
      · refine Or.inl ?_
        unfold World.enter
        rw [he]
      · refine Or.inr ?_
        unfold World.enter
        rw [hnew]

/-- An access of an update changes nothing, or the update is accepted and entered. -/
theorem perform_of_updateAccess {access : Access} (h : UpdateAccess access) (choice : Choice)
    (caller : Call) : (w.perform choice caller access).1 = w ∨
      ∃ agent, (w.perform choice caller access).1.updates = (caller, agent) :: w.updates := by
  cases access with
  | clock | newId _ | getCredentialForOwner _ _ | getHostedAgentForOwner _ _ => exact Or.inl rfl
  | hostedAgentReplay operation ownerUserId digest hash => exact Or.inl (inspect_fst _)
  | updateHostedAgent agent expected digest hash =>
      rcases update_fst caller agent expected digest hash choice.now with hsame | hentered
      · exact Or.inl hsame
      · exact Or.inr ⟨agent, hentered⟩
  | reserveCredential credential digest hash => exact h.elim
  | writeSecret secretRef => exact h.elim
  | markCredentialStored ownerUserId id digest hash => exact h.elim
  | createHostedAgent agent digest hash => exact h.elim
  | validate outcome => exact h.elim

/-- An access is made for its own call, and an update keeps to its accesses. -/
def MadeFor (call : Call) (act : Act) : Prop :=
  act.caller = call ∧
    ∀ service owner agentId request, call = .updateHostedAgent service owner agentId request →
      UpdateAccess act.access

/-- An answer about an Agent names its own call. -/
def AnswerOf (call : Call) : Answer → Prop
  | .agent caller _ => caller = call
  | _ => True

section Within

variable {α β : Type} {good : Act → Prop} {caller : Call} {access : Access}

theorem within_await (h : good ⟨caller, access⟩) : (await caller access).Within good := by
  refine ⟨h, ?_⟩
  intro reply
  cases reply with
  | error e => trivial
  | ok value => trivial

theorem within_read (h : good ⟨caller, access⟩) : (read caller access).Within good := by
  refine ⟨h, ?_⟩
  intro reply
  cases reply with
  | error e => trivial
  | ok value => trivial

theorem within_given (h : good ⟨caller, access⟩) : (given caller access).Within good := by
  refine ⟨h, ?_⟩
  intro reply
  cases reply with
  | error e => trivial
  | ok value => trivial

theorem within_checked {x : Except ServiceError β} {f : β → Coroutine α}
    (h : ∀ a, (f a).Within good) : (checked x f).Within good := by
  cases x with
  | error e => trivial
  | ok a => exact h a

theorem within_ite {c : Prop} [Decidable c] {x y : Coroutine α} (hx : x.Within good)
    (hy : y.Within good) : (if c then x else y).Within good := by
  by_cases hc : c
  · rw [if_pos hc]
    exact hx
  · rw [if_neg hc]
    exact hy

theorem within_checkWritten (secretRef written : String) :
    (checkWritten secretRef written).Within good :=
  within_ite trivial trivial

end Within

/-- The accesses of one call. -/
def By (caller : Call) (act : Act) : Prop :=
  act.caller = caller

theorem by_self {caller : Call} {access : Access} : By caller ⟨caller, access⟩ :=
  rfl

theorem within_createCredential (service : CredentialIngressService) (owner : String)
    (request : CredentialIngressRequest) :
    (createCredential T hexdigest service owner request).Within
      (By (.createCredential service owner request)) := by
  unfold createCredential
  refine within_checked fun p => ?_
  refine (within_given by_self).bind fun now => ?_
  refine (within_given by_self).bind fun newId => ?_
  refine within_checked fun credential => ?_
  refine (within_await by_self).bind fun reservation => ?_
  unfold storeCredential
  cases reservation.disposition with
  | replay => exact within_ite trivial trivial
  | created =>
      refine Prog.Within.bind ?_ fun _ => (within_await by_self).bind fun _ => trivial
      refine ⟨by_self, ?_⟩
      intro reply
      cases reply with
      | error e => trivial
      | ok written => exact within_checkWritten _ _

theorem within_createHostedAgent (service : HostedAgentService) (owner : String)
    (request : HostedAgentCreateRequest) :
    (createHostedAgent T hexdigest service owner request).Within
      (By (.createHostedAgent service owner request)) := by
  unfold createHostedAgent
  refine within_checked fun p => ?_
  refine (within_await by_self).bind fun replay => ?_
  cases replay with
  | some agent => trivial
  | none =>
      unfold createFresh
      refine (within_read by_self).bind fun found => ?_
      cases found with
      | none => trivial
      | some credential =>
          refine within_ite trivial (within_checked fun capability => ?_)
          unfold insertHostedAgent
          refine (within_given by_self).bind fun now => ?_
          refine (within_given by_self).bind fun agentId => ?_
          refine (within_given by_self).bind fun hostedConfigId => ?_
          refine (within_given by_self).bind fun runtimeBindingId => ?_
          refine (within_given by_self).bind fun validationJobId => ?_
          exact within_checked fun agent => (within_await by_self).bind fun _ => trivial

/-- The accesses of one update. -/
def ByUpdate (caller : Call) (act : Act) : Prop :=
  act.caller = caller ∧ UpdateAccess act.access

theorem within_updateHostedAgent (service : HostedAgentService) (owner agentId : String)
    (request : HostedAgentUpdateRequest) :
    (updateHostedAgent T hexdigest service owner agentId request).Within
      (ByUpdate (.updateHostedAgent service owner agentId request)) := by
  unfold updateHostedAgent
  refine within_checked fun p => ?_
  refine (within_await ⟨rfl, trivial⟩).bind fun replay => ?_
  cases replay with
  | some agent => trivial
  | none =>
      unfold updateFresh
      refine (within_read ⟨rfl, trivial⟩).bind fun found => ?_
      cases found with
      | none => trivial
      | some current =>
          unfold updateCurrent
          refine within_ite trivial ((within_read ⟨rfl, trivial⟩).bind fun found => ?_)
          cases found with
          | none => trivial
          | some credential =>
              refine within_ite trivial (within_checked fun capability => ?_)
              unfold replaceHostedAgent
              refine (within_given ⟨rfl, trivial⟩).bind fun now => ?_
              refine (within_given ⟨rfl, trivial⟩).bind fun newId => ?_
              exact within_checked fun id => (within_await ⟨rfl, trivial⟩).bind fun _ => trivial

theorem yields_programOf (call : Call) :
    (programOf T hexdigest call).Yields (MadeFor call) (AnswerOf call) := by
  cases call with
  | createCredential service owner request =>
      refine Prog.Within.yields ((within_createCredential service owner request).mono ?_) ?_
      · exact fun _ h => ⟨h, fun _ _ _ _ hcall => by cases hcall⟩
      · exact fun _ => trivial
  | createHostedAgent service owner request =>
      refine Prog.Within.yields ((within_createHostedAgent service owner request).mono ?_) ?_
      · exact fun _ h => ⟨h, fun _ _ _ _ hcall => by cases hcall⟩
      · exact fun _ => rfl
  | updateHostedAgent service owner agentId request =>
      refine Prog.Within.yields ((within_updateHostedAgent service owner agentId request).mono ?_) ?_
      · exact fun _ h => ⟨h.1, fun _ _ _ _ _ => h.2⟩
      · exact fun _ => rfl
  | validate outcome =>
      refine Prog.Within.yields (within_await ?_) ?_
      · exact ⟨rfl, fun _ _ _ _ hcall => by cases hcall⟩
      · exact fun _ => trivial

/-- What is left of each call. -/
def Kept (calls : Calls) : Prop :=
  ∀ x ∈ calls.tasks, ∃ call, x.Yields (MadeFor call) (AnswerOf call)

theorem kept_of_run (h : Kept calls)
    (hrun : Trans.Run (step T hexdigest) (fun _ _ => True) calls calls') :
    Kept calls' := by
  have hallowed : Trans.Run (Pool.step World.run (programOf T hexdigest))
      (Pool.Allowed (fun _ => True) fun _ _ _ _ => True) calls calls' :=
    hrun.mono fun c e _ => allowed c e
  exact Pool.yields_ofRun yields_programOf h hallowed

/-! ### Requests by their hash -/

theorem dump_injective
    (h : canonicalJsonBytes request.dump = canonicalJsonBytes request'.dump) :
    request.providerId = request'.providerId ∧ request.modelId = request'.modelId ∧
      request.thinkingEnabled = request'.thinkingEnabled ∧
      request.strategyInstructions = request'.strategyInstructions := by
  have hcanonical : request.dump.canonical = request'.dump.canonical := Json.encode_eq_iff.mp h
  unfold HostedAgentUpdateRequest.dump at hcanonical
  have hfields := Json.canonicalFields_eq (by simp) (by simp) hcanonical
  simpa [Json.canonicalFields] using hfields

/-- The key and the content of a request are told apart from those of every accepted update. -/
def CollisionFree (hexdigest : ByteArray → String) (request : HostedAgentUpdateRequest) (w : World) :
    Prop :=
  ∀ x ∈ w.updates, ∀ service owner agentId request',
    x.1 = .updateHostedAgent service owner agentId request' →
      NoCollision hexdigest request.idempotencyKey.toByteArray request'.idempotencyKey.toByteArray ∧
        NoCollision hexdigest (canonicalJsonBytes request.dump) (canonicalJsonBytes request'.dump)

/-! ### Whose answer it is -/

/-- The answer is the Agent's record, and the request was stored for this Agent by an update under
    its key. -/
structure OwnAnswer (w : World) (owner agentId : String) (request : HostedAgentUpdateRequest)
    (detail : HostedAgentDetail) : Prop where
  record : ∃ agent, w.repo.agents.get agentId = some agent ∧ detail = agentDetail agent
  stored : ∃ service request' agent,
    (.updateHostedAgent service owner agentId request', agent) ∈ w.updates ∧
      request'.idempotencyKey = request.idempotencyKey ∧ agent.agentId = agentId ∧ Stores request agent

/-- The key is not recorded for this request and another Agent. -/
def NotElsewhere (hexdigest : ByteArray → String) (repo : ControlRepository) (owner agentId : String)
    (request : HostedAgentUpdateRequest) : Prop :=
  ∀ e, repo.idempotency.get
      (.updateAgent, owner, sha256TextIdentifier hexdigest request.idempotencyKey) = some e →
    e.requestHash = sha256Identifier hexdigest request.dump → e.resultId = agentId

/-- A recorded key was accepted for the Agent it is recorded for. -/
theorem stored_of_entry {e : IdempotencyEntry} (h : Sound hexdigest w)
    (hfree : CollisionFree hexdigest request w)
    (he : w.repo.idempotency.get
      (.updateAgent, owner, sha256TextIdentifier hexdigest request.idempotencyKey) = some e)
    (hhash : e.requestHash = sha256Identifier hexdigest request.dump) :
    ∃ service request' agent,
      (.updateHostedAgent service owner e.resultId request', agent) ∈ w.updates ∧
        request'.idempotencyKey = request.idempotencyKey ∧ agent.agentId = e.resultId ∧
          Stores request agent := by
  obtain ⟨⟨call, agent⟩, hx, hentered⟩ := h.journal.entered _ _ e he
  obtain ⟨service, request', rfl, hkey, hcontent, hstores⟩ := hentered.made
  obtain ⟨hfreeKey, hfreeContent⟩ := hfree _ hx service owner e.resultId request' rfl
  have hsameKey := text_of_sha256TextIdentifier hfreeKey hkey
  obtain ⟨hprovider, hmodel, hthinking, hstrategy⟩ :=
    dump_injective (bytes_of_sha256Identifier hfreeContent (hhash.symm.trans hcontent))
  refine ⟨service, request', agent, hx, hsameKey.symm, hentered.agentId, ?_⟩
  exact
    { providerId := hstores.providerId.trans hprovider.symm
      modelId := hstores.modelId.trans hmodel.symm
      thinkingEnabled := hstores.thinkingEnabled.trans hthinking.symm
      strategyInstructions := by rw [hstores.strategyInstructions, hstrategy] }

/-- A step of a call makes an access for the call. -/
theorem advance_cases {task : Nat} {choice : Choice} (h : Kept calls)
    (hstep : step T hexdigest calls (.advance task choice) = some calls') :
    ∃ act next call, calls.tasks[task]? = some (.call act next) ∧ MadeFor call act ∧
      (∀ answer, calls'.tasks[task]? = some (.ret answer) → AnswerOf call answer) ∧
      (calls'.shared = calls.shared ∨
        calls'.shared = (calls.shared.perform choice act.caller act.access).1) := by
  obtain ⟨act, next, shared, reply, htask, hrun, rfl⟩ := Pool.step_advance hstep
  obtain ⟨call, hmade, hrest⟩ := h _ (List.mem_of_getElem? htask)
  refine ⟨act, next, call, htask, hmade, ?_, ?_⟩
  · intro answer hanswer
    rw [List.getElem?_set_self'] at hanswer
    obtain ⟨_, -, hreply⟩ := Option.map_eq_some_iff.mp hanswer
    have hyields := hrest reply
    rw [show next reply = .ret answer from hreply] at hyields
    exact hyields
  · by_cases hfails : choice.fails = true
    · have hsame : (calls.shared, Except.error ServiceError.failed) = (shared, reply) := by
        simpa [World.run, hfails] using hrun
      exact Or.inl (congrArg Prod.fst hsame).symm
    · have hperform : calls.shared.perform choice act.caller act.access = (shared, reply) := by
        simpa [World.run, hfails] using hrun
      exact Or.inr (congrArg Prod.fst hperform).symm

/-- A step of an update changes nothing, or the update is accepted and entered. -/
theorem advance_update {choice : Choice} {act : Act} {call : Call}
    (hmade : MadeFor call act) {service : HostedAgentService}
    (hcall : call = .updateHostedAgent service owner agentId request)
    (hshared : calls'.shared = calls.shared ∨
      calls'.shared = (calls.shared.perform choice act.caller act.access).1) :
    calls'.shared = calls.shared ∨
      ∃ agent, calls'.shared.updates = (call, agent) :: calls.shared.updates := by
  rcases hshared with hsame | hperform
  · exact Or.inl hsame
  · rw [hperform, hmade.1]
    exact perform_of_updateAccess (hmade.2 _ _ _ _ hcall) choice call

theorem kept_of_reachable (h : Reachable T hexdigest calls) : Kept calls :=
  kept_of_run (fun _ hx => by cases hx) h

/-- A key that is new after a step of an update is the update's own. -/
theorem entry_of_advance {task : Nat} {choice : Choice} {service : HostedAgentService}
    {detail : HostedAgentDetail} {digest : String} {e : IdempotencyEntry}
    (hreach : Reachable T hexdigest calls)
    (hstep : step T hexdigest calls (.advance task choice) = some calls')
    (hreturn : calls'.tasks[task]? =
      some (.ret (.agent (.updateHostedAgent service owner agentId request) detail)))
    (hnew : calls.shared.repo.idempotency.get (.updateAgent, owner, digest) = none)
    (he : calls'.shared.repo.idempotency.get (.updateAgent, owner, digest) = some e) :
    e.resultId = agentId := by
  have hsafe : Safe hexdigest calls := safe_of_run safe_start hreach
  have hsound : Sound hexdigest calls.shared := hsafe.inv
  have hsound' : Sound hexdigest calls'.shared := (hsafe.step hstep).inv
  obtain ⟨act, next, call, -, hmade, hanswer, hshared⟩ :=
    advance_cases (kept_of_reachable hreach) hstep
  have hcall : Call.updateHostedAgent service owner agentId request = call := hanswer _ hreturn
  rcases advance_update hmade hcall.symm hshared with hsame | ⟨agent, hupdates⟩
  · rw [hsame, hnew] at he
    cases he
  · obtain ⟨x, hx, hentered⟩ := hsound'.journal.entered _ _ _ he
    rw [hupdates] at hx
    rcases List.mem_cons.mp hx with rfl | hold
    · obtain ⟨service', request', hmadeBy, -⟩ := hentered.made
      obtain ⟨-, -, hid, -⟩ := Call.updateHostedAgent.inj (hcall.trans hmadeBy)
      exact hid.symm
    · -- an older update has had its entry before the step
      obtain ⟨owner', digest', e', he', hentered'⟩ := hsound.journal.recorded x hold
      obtain ⟨rfl, rfl⟩ := hentered.key hentered'
      rw [hnew] at he'
      cases he'

/-- No update changes anything under a key that is recorded. -/
theorem shared_of_recorded {task : Nat} {choice : Choice} {act : Act}
    {next : Except ServiceError act.Reply → Coroutine Answer} {service : HostedAgentService}
    {e : IdempotencyEntry} (hsafe : Safe hexdigest calls) (hkept : Kept calls)
    (hstep : step T hexdigest calls (.advance task choice) = some calls')
    (htask : calls.tasks[task]? = some (.call act next))
    (hcaller : act.caller = .updateHostedAgent service owner agentId request)
    (he : calls.shared.repo.idempotency.get
      (.updateAgent, owner, sha256TextIdentifier hexdigest request.idempotencyKey) = some e) :
    calls'.shared = calls.shared := by
  have hsound : Sound hexdigest calls.shared := hsafe.inv
  have hsound' : Sound hexdigest calls'.shared := (hsafe.step hstep).inv
  obtain ⟨act', next', call, htask', hmade, -, hshared⟩ := advance_cases hkept hstep
  rw [htask] at htask'
  cases htask'
  have hcall : call = .updateHostedAgent service owner agentId request :=
    hmade.1.symm.trans hcaller
  rcases advance_update hmade hcall hshared with hsame | ⟨agent, hupdates⟩
  · exact hsame
  · exfalso
    obtain ⟨x, hx, hentered⟩ := hsound.journal.entered _ _ _ he
    obtain ⟨owner', digest', e', -, hentered'⟩ :=
      hsound'.journal.recorded (call, agent) (hupdates ▸ List.mem_cons_self)
    obtain ⟨service', request', hmadeBy, hdigest, -⟩ := hentered'.made
    obtain ⟨-, rfl, -, rfl⟩ := Call.updateHostedAgent.inj (hcall.symm.trans hmadeBy)
    subst hdigest
    have honce := hsound'.journal.once
    rw [hupdates] at honce
    exact List.rel_of_pairwise_cons honce hx _ _ _ _ hentered' hentered

/-- **An update that returns, returns the record of the Agent it is addressed to, and the request is
    stored for it under its key, exactly when its key was not recorded for the same request and
    another Agent; repeated, it changes nothing.** -/
theorem update_answers_iff (calls calls' : Calls) (task : Nat) (choice : Choice)
    (service : HostedAgentService) (owner agentId : String) (request : HostedAgentUpdateRequest)
    (detail : HostedAgentDetail) (hreach : Reachable T hexdigest calls)
    (hstep : step T hexdigest calls (.advance task choice) = some calls')
    (hreturn : calls'.tasks[task]? =
      some (.ret (.agent (.updateHostedAgent service owner agentId request) detail)))
    (hfree : CollisionFree hexdigest request calls'.shared) :
    (OwnAnswer calls'.shared owner agentId request detail ↔
        NotElsewhere hexdigest calls.shared.repo owner agentId request) ∧
      ∀ calls₁ calls₂ task' choice' act next service',
        Trans.Run (step T hexdigest) (fun _ _ => True) calls' calls₁ →
        step T hexdigest calls₁ (.advance task' choice') = some calls₂ →
        calls₁.tasks[task']? = some (.call act next) →
        act.caller = .updateHostedAgent service' owner agentId request →
          calls₂.shared = calls₁.shared := by
  have hsafe : Safe hexdigest calls := safe_of_run safe_start hreach
  have hsafe' : Safe hexdigest calls' := hsafe.step hstep
  have hsound' : Sound hexdigest calls'.shared := hsafe'.inv
  obtain ⟨e, agent, he, hhash, hagent, hdetail⟩ :
      Settled hexdigest owner request detail calls'.shared :=
    Pool.Safe.returns hsafe (allowed calls _) hstep hreturn
  refine ⟨⟨?_, ?_⟩, ?_⟩
  · intro hown e₀ he₀ _
    have he₀' := (later_of_step hsafe hstep).repo.entry _ _ he₀
    obtain rfl : e = e₀ := Option.some.inj (he.symm.trans he₀')
    obtain ⟨record, hrecord, hdetail'⟩ := hown.record
    have hid := hsound'.agentId _ _ hagent
    have hid' := hsound'.agentId _ _ hrecord
    have hsame : agent.agentId = record.agentId :=
      congrArg HostedAgentDetail.agentId (hdetail.symm.trans hdetail')
    exact hid.symm.trans (hsame.trans hid')
  · intro hnot
    have hid : e.resultId = agentId := by
      cases he₀ : calls.shared.repo.idempotency.get
          (.updateAgent, owner, sha256TextIdentifier hexdigest request.idempotencyKey) with
      | none => exact entry_of_advance hreach hstep hreturn he₀ he
      | some e₀ =>
          have he₀' := (later_of_step hsafe hstep).repo.entry _ _ he₀
          obtain rfl : e = e₀ := Option.some.inj (he.symm.trans he₀')
          exact hnot e he₀ hhash
    subst hid
    exact ⟨⟨agent, hagent, hdetail⟩, stored_of_entry hsound' hfree he hhash⟩
  · intro calls₁ calls₂ task' choice' act next service' hrun hstep' htask hcaller
    have hkept' : Kept calls' :=
      kept_of_run (kept_of_reachable hreach) (Trans.Run.refl.tail trivial hstep)
    exact shared_of_recorded (safe_of_run hsafe' hrun) (kept_of_run hkept' hrun) hstep' htask hcaller
      ((later_of_run hsafe' hrun).repo.entry _ _ he)

theorem collisionFree_of_requests (h : updateRequests w = [some request]) :
    CollisionFree hexdigest request w := by
  intro x hx service owner agentId request' hcall
  have hmem : some request' ∈ updateRequests w := by
    refine List.mem_map.mpr ⟨x, hx, ?_⟩
    rw [hcall]
  rw [h, List.mem_singleton] at hmem
  cases hmem
  exact ⟨fun _ => rfl, fun _ => rfl⟩

theorem update_answers_twoAgents : ∃ calls calls' service detail,
    step plainTables checksum calls (.advance 6 {}) = some calls' ∧
      calls'.tasks[6]? =
        some (.ret (.agent (.updateHostedAgent service "owner" "agent-2" cautious) detail)) ∧
      ((OwnAnswer calls'.shared "owner" "agent-2" cautious detail ↔
          NotElsewhere checksum calls.shared.repo "owner" "agent-2" cautious) ∧
        ∀ calls₁ calls₂ task' choice' act next service',
          Trans.Run (step plainTables checksum) (fun _ _ => True) calls' calls₁ →
          step plainTables checksum calls₁ (.advance task' choice') = some calls₂ →
          calls₁.tasks[task']? = some (.call act next) →
          act.caller = .updateHostedAgent service' "owner" "agent-2" cautious →
            calls₂.shared = calls₁.shared) := by
  obtain ⟨calls, calls', service, detail, hreach, -, hstep, hrequests, htask, -⟩ := twoAgents_reached
  exact ⟨calls, calls', service, detail, hstep, htask,
    update_answers_iff calls calls' 6 {} service "owner" "agent-2" cautious detail hreach hstep htask
      (collisionFree_of_requests hrequests)⟩

/-- The update of `agent-2` under the key and with the content of an earlier update of `agent-1`
    returns the record of `agent-1`. -/
theorem key_redirected : ∃ calls calls' service detail,
    Reachable plainTables checksum calls ∧
      calls.shared.repo.agents.keys = ["agent-1", "agent-2"] ∧
      step plainTables checksum calls (.advance 6 {}) = some calls' ∧
      calls'.tasks[6]? =
        some (.ret (.agent (.updateHostedAgent service "owner" "agent-2" cautious) detail)) ∧
      detail.agentId = "agent-1" ∧ ¬OwnAnswer calls'.shared "owner" "agent-2" cautious detail := by
  obtain ⟨calls, calls', service, detail, hreach, hkeys, hstep, -, htask, hid⟩ := twoAgents_reached
  refine ⟨calls, calls', service, detail, hreach, hkeys, hstep, htask, hid, ?_⟩
  rintro ⟨⟨agent, hagent, rfl⟩, -⟩
  have hsafe' : Safe checksum calls' := (safe_of_run safe_start hreach).step hstep
  have hown : agent.agentId = "agent-2" := hsafe'.inv.agentId _ _ hagent
  have hother : agent.agentId = "agent-1" := hid
  rw [hown] at hother
  exact absurd hother (by decide)

end Arena402.Hosted
