/-
The gateway keeps its schema.

A step keeps the relations between the tables row by row; only the rule for idempotency
keys needs something of the step, for a new command under a used key and for the
acknowledgement of a dispatch that has been retried.
-/
import Arena402.Gateway.Schema
import Arena402.Proofs.Gateway.StoppedSession

namespace Arena402.Gateway

open Py ConnectorGateway

variable {g g' g'' : ConnectorGateway} {now : Time} {d : String} {command : Command}
  {payload : CommandAck} {status : CommandStatus} {event : Choice × Update}

namespace ConnectorGateway

/-! ### What no later state takes back -/

theorem Evolves.refl (g : ConnectorGateway) : Evolves g g :=
  ⟨fun _ binding h => ⟨binding, h, rfl, rfl, fun _ => rfl⟩, fun _ command h _ => ⟨command, h, rfl⟩,
    fun _ _ h => h⟩

theorem Evolves.trans (h : Evolves g g') (h' : Evolves g' g'') : Evolves g g'' := by
  refine ⟨?_, ?_, fun taskId result hget => h'.results _ _ (h.results _ _ hget)⟩
  · intro id binding hget
    obtain ⟨middle, hmiddle, hdevice, hruntime, hdirectory⟩ := h.directory id binding hget
    obtain ⟨new, hnew, hdevice', hruntime', hdirectory'⟩ := h'.directory id middle hmiddle
    refine ⟨new, hnew, hdevice'.trans hdevice, hruntime'.trans hruntime, ?_⟩
    intro hset
    have hsame := hdirectory hset
    rw [hdirectory' (by rw [hsame]; exact hset), hsame]
  · intro id command hget hfinal
    obtain ⟨middle, hmiddle, hstatus⟩ := h.terminal id command hget hfinal
    obtain ⟨new, hnew, hstatus'⟩ := h'.terminal id middle hmiddle (by rw [hstatus]; exact hfinal)
    exact ⟨new, hnew, hstatus'.trans hstatus⟩

/-- The bindings after an acknowledgement: one of them has been updated. -/
theorem Acknowledges.bindings (hack : Acknowledges g now d payload command status g') :
    Dict.Related (fun a b : Binding => b.deviceId = a.deviceId ∧ b.runtimeId = a.runtimeId ∧
      b.workingDirectory = a.workingDirectory) g.bindings g'.bindings := by
  obtain rfl := hack.left
  dsimp only
  cases hbinding : g.bindings.get command.bindingId with
  | none => exact .refl (fun _ => ⟨rfl, rfl, rfl⟩) _
  | some binding =>
      obtain ⟨-, hdevice, hruntime, -, hdirectory, -⟩ :=
        acknowledgedBinding_identity now command payload status binding
      exact Dict.related_set (fun _ => ⟨rfl, rfl, rfl⟩) _
        ⟨binding, hbinding, hdevice, hruntime, hdirectory⟩

theorem Evolves.step (hkeyed : Keyed g) (hfresh : g.FreshIds event)
    (hstep : g.step event = some g') : Evolves g g' := by
  have hterminal : ∀ id command, g.commands.get id = some command →
      command.status.isTerminal = true →
      ∃ new, g'.commands.get id = some new ∧ new.status = command.status := by
    intro id command hget hfinal
    obtain ⟨new, hnew, hlater⟩ := command_later hkeyed hfresh hstep hget
    exact ⟨new, hnew, hlater.final hfinal⟩
  have hsame := (Evolves.refl g).directory
  cases step_effect hkeyed.bindings hstep with
  | quiet hquiet =>
      refine ⟨?_, hterminal, fun taskId result hget => hquiet.results ▸ hget⟩
      intro id binding hget
      obtain ⟨new, hnew, hcalm⟩ := hquiet.bindings.get hget
      exact ⟨new, hnew, hcalm.deviceId, hcalm.runtimeId, hcalm.directory⟩
  | enrolled _ _ _ hbindings _ hresults =>
      exact ⟨hbindings ▸ hsame, hterminal, fun taskId result hget => hresults ▸ hget⟩
  | bound _ _ _ _ _ heq =>
      obtain rfl := heq
      refine ⟨?_, hterminal, fun _ _ hget => hget⟩
      intro id binding hget
      exact ⟨binding, Dict.get_set_fresh _ hfresh hget, rfl, rfl, fun _ => rfl⟩
  | queued _ heq =>
      obtain rfl := heq
      exact ⟨hsame, hterminal, fun _ _ hget => hget⟩
  | acknowledged _ hack =>
      refine ⟨?_, hterminal, ?_⟩
      · intro id binding hget
        obtain ⟨new, hnew, hdevice, hruntime, hdirectory⟩ := hack.bindings.get hget
        exact ⟨new, hnew, hdevice, hruntime, fun _ => hdirectory⟩
      · intro taskId result hget
        rw [hack.left]
        exact hget
  | submitted hsubmits heq =>
      obtain rfl := heq
      exact ⟨hsame, hterminal, fun taskId result hget =>
        Dict.get_set_fresh _ hsubmits.fresh hget⟩

end ConnectorGateway

/-! ### The rule for idempotency keys -/

/-- Commands that are still what they were queued as, of which an interrupted first stays
    interrupted. -/
theorem KeyRule.transfer {P : Command → Command → Prop} {old new : List Command}
    (hrule : KeyRule old) (h : List.Forall₂ P old new)
    (hrequest : ∀ a b, P a b → b.request = a.request)
    (hfirst : ∀ first second a, old = [first, second] → P first a → first.Interrupted →
      a.Interrupted) : KeyRule new := by
  cases h with
  | nil => trivial
  | @cons first first' rest rest' hhead htail =>
      cases htail with
      | nil => trivial
      | @cons second second' rest rest' hsecond htail =>
          cases htail with
          | cons _ _ => exact absurd hrule id
          | nil =>
              obtain ⟨haction, haction', hfingerprint, hinterrupted⟩ := hrule
              have hone := hrequest _ _ hhead
              have htwo := hrequest _ _ hsecond
              have hactionOne := congrArg Command.action hone
              have hactionTwo := congrArg Command.action htwo
              have hprintOne := congrArg Command.requestFingerprint hone
              have hprintTwo := congrArg Command.requestFingerprint htwo
              change first'.action = first.action at hactionOne
              change second'.action = second.action at hactionTwo
              change first'.requestFingerprint = first.requestFingerprint at hprintOne
              change second'.requestFingerprint = second.requestFingerprint at hprintTwo
              refine ⟨hactionOne.trans haction, hactionTwo.trans haction', ?_,
                hfirst _ _ _ rfl hhead hinterrupted⟩
              rw [hprintOne, hprintTwo]
              exact hfingerprint

namespace ConnectorGateway

/-- The commands of a key after a step that rewrites rows in place. -/
theorem commandsOf_related {P : Command → Command → Prop}
    (h : Dict.Related P g.commands g'.commands) (hrequest : ∀ a b, P a b → b.request = a.request)
    (bindingId key : String) :
    List.Forall₂ P (g.commandsOf bindingId key) (g'.commandsOf bindingId key) := by
  refine h.filter ?_
  intro a b hab
  have hsame := hrequest a b hab
  have hbinding := congrArg Command.bindingId hsame
  have hkey := congrArg Command.idempotencyKey hsame
  change b.bindingId = a.bindingId at hbinding
  change b.idempotencyKey = a.idempotencyKey at hkey
  rw [hbinding, hkey]

/-- A command of a key is found under it. -/
theorem commandsOf_self {bindingId key : String} (h : command ∈ g.commandsOf bindingId key) :
    g.commandsOf command.bindingId command.idempotencyKey = g.commandsOf bindingId key := by
  have hkey := (List.mem_filter.mp h).2
  simp only [decide_eq_true_eq] at hkey
  rw [hkey.1, hkey.2]

/-- The commands of a key after a new one. -/
theorem commandsOf_queued {id : String} (hfresh : g.commands.get id = none)
    (bindingId key : String) :
    ({ g with commands := g.commands.set id command } : ConnectorGateway).commandsOf bindingId key =
      g.commandsOf bindingId key ++
        if command.bindingId = bindingId ∧ command.idempotencyKey = key then [command] else [] := by
  unfold commandsOf Dict.values
  rw [Dict.set_of_get_none command hfresh, List.map_append, List.filter_append]
  congr 1
  by_cases hkey : command.bindingId = bindingId ∧ command.idempotencyKey = key
  · simp [hkey]
  · rw [if_neg hkey]
    simpa using hkey

/-- The rows that `queue_command` compares a request with. -/
theorem commandsOf_eq (g : ConnectorGateway) (bindingId key : String) :
    (g.commands.filter fun item =>
      item.2.bindingId == bindingId && item.2.idempotencyKey == key).map (·.2) =
        g.commandsOf bindingId key := by
  unfold commandsOf Dict.values
  rw [List.filter_map]
  congr 2
  funext item
  simp [Bool.beq_eq_decide_eq]

/-- A request that is queued has passed the checks before the idempotency key. -/
theorem Queues.admits {commandId : String} {request : CommandRequest} {binding : Binding}
    (h : Queues g now commandId request binding command) : g.admits request = true := by
  obtain ⟨device, hdevice, hrevoked, hsession, hruntime⟩ := h.checked
  have hactive : g.activeDevice binding.deviceId none = .ok device := by
    unfold activeDevice
    rw [hdevice]
    simp [bind, Except.bind, hrevoked, ensureConnectionGeneration, pure, Except.pure]
  unfold ConnectorGateway.admits
  simp [h.bound, hactive, hsession, hruntime, Except.toBool]

/-- The commands of the key under which a new one is queued. -/
theorem Queues.rule {commandId : String} {request : CommandRequest} {binding : Binding}
    (h : Queues g now commandId request binding command) (hkeyed : Keyed g)
    (hunused : ∀ item ∈ g.commands, item.2.idempotencyKey ≠ commandId)
    (hretries : g.RetriesDispatch request) :
    KeyRule (g.commandsOf command.bindingId command.idempotencyKey ++ [command]) := by
  have hbinding : command.bindingId = request.bindingId :=
    h.bindingId.trans (hkeyed.bindingIds _ (Dict.mem_of_get h.bound))
  have hselected := h.selected
  unfold selectCommand at hselected
  unfold RetriesDispatch at hretries
  rw [hbinding, h.key]
  cases hkey : request.idempotencyKey.bind orNone with
  | none =>
      have hnone : g.commandsOf request.bindingId commandId = [] := by
        refine List.filter_eq_nil_iff.mpr ?_
        intro other hother
        obtain ⟨item, hitem, rfl⟩ := List.mem_map.mp hother
        simp [hunused item hitem]
      rw [Option.getD_none, hnone]
      trivial
  | some key =>
      simp only [hkey, commandsOf_eq] at hselected
      simp only [hkey] at hretries
      rw [Option.getD_some]
      cases hcommands : g.commandsOf request.bindingId key with
      | nil => trivial
      | cons previous rest =>
          rw [hcommands] at hselected
          cases rest with
          | nil =>
              simp only [List.foldl_nil, true_and] at hselected
              simp only [hcommands] at hretries
              by_cases hprint : previous.requestFingerprint = request.requestFingerprint
              · rw [if_pos hprint] at hselected
                cases hselected
              · rw [if_neg hprint] at hselected
                by_cases hretry : request.action = .taskDispatch ∧
                    previous.status = .failed ∧ previous.errorCode = some "connector_restarted"
                · have hinterrupted : previous.Interrupted := hretry.2
                  refine ⟨hretries h.admits hretry.1 hprint hinterrupted,
                    h.action.trans hretry.1, ?_, hinterrupted⟩
                  rw [h.fingerprint]
                  exact hprint
                · rw [if_neg hretry] at hselected
                  cases hselected
          | cons second rest =>
              dsimp only at hselected
              by_cases hprint : (List.foldl laterCommand previous (second :: rest)).requestFingerprint =
                  request.requestFingerprint
              · rw [if_pos hprint] at hselected
                cases hselected
              · rw [if_neg hprint, if_neg fun h => List.cons_ne_nil _ _ h.2.1] at hselected
                cases hselected

/-- The rows after the acknowledgement of a dispatch that stays interrupted. -/
theorem Acknowledges.commands {expected : Option Nat}
    (hactive : ∃ device, g.activeDevice d expected = .ok device)
    (hack : Acknowledges g now d payload command status g')
    (hstays : g.StaysInterrupted d payload expected) :
    Dict.Related (fun a b : Command => b.request = a.request ∧
      (a.Interrupted → (∃ second rest,
        g.commandsOf a.bindingId a.idempotencyKey = a :: second :: rest) → b.Interrupted))
      g.commands g'.commands := by
  have htakes := takes_of_acknowledges hactive hack
  obtain rfl := hack.left
  refine Dict.related_set (fun _ => ⟨rfl, fun h _ => h⟩) _ ⟨command, hack.stored, rfl, ?_⟩
  rintro hinterrupted ⟨second, rest, hcommands⟩
  unfold StaysInterrupted at hstays
  simp only [htakes, hcommands] at hstays
  have hfinal : command.status.isTerminal = true := by
    rw [hinterrupted.1]
    rfl
  exact ⟨(transition_of_terminal hfinal hack.transition).trans hinterrupted.1, hstays trivial⟩

/-- A step keeps the rule of every key. -/
theorem keys_step (hkeyed : Keyed g) (hkeys : ∀ bindingId key, KeyRule (g.commandsOf bindingId key))
    (hfresh : g.FreshIds event) (hkeeps : g.KeepsKeys event) (hstep : g.step event = some g')
    (bindingId key : String) : KeyRule (g'.commandsOf bindingId key) := by
  have hrule := hkeys bindingId key
  cases step_effect hkeyed.bindings hstep with
  | quiet hquiet =>
      refine hrule.transfer (commandsOf_related hquiet.commands (fun _ _ h => h.request) _ _)
        (fun _ _ h => h.request) ?_
      rintro first second a - hmoved ⟨hfailed, hcode⟩
      refine ⟨(hmoved.final (by rw [hfailed]; rfl)).trans hfailed, ?_⟩
      unfold Command.errorCode at hcode ⊢
      rw [hmoved.error, hcode]
  | enrolled _ _ _ _ hcommands _ =>
      unfold commandsOf
      rw [hcommands]
      exact hrule
  | bound _ _ _ _ _ heq =>
      obtain rfl := heq
      exact hrule
  | queued hqueues heq =>
      obtain rfl := heq
      rw [commandsOf_queued hfresh.1]
      split_ifs with hsame
      · obtain ⟨rfl, rfl⟩ := hsame
        exact hqueues.rule hkeyed hfresh.2 hkeeps
      · rw [List.append_nil]
        exact hrule
  | acknowledged hactive hack =>
      refine hrule.transfer (commandsOf_related (hack.commands hactive hkeeps)
        (fun _ _ h => h.1) _ _) (fun _ _ h => h.1) ?_
      intro first second a hcommands hrelated hinterrupted
      refine hrelated.2 hinterrupted ⟨second, [], ?_⟩
      have hmem : first ∈ g.commandsOf bindingId key := by
        rw [hcommands]
        exact List.mem_cons_self
      rw [commandsOf_self hmem, hcommands]
  | submitted _ heq =>
      obtain rfl := heq
      exact hrule

/-! ### The schema -/

theorem schema_new (hnew : g.IsNew) : Schema g := by
  refine ⟨?_, ?_, ?_, ?_, ?_, ?_⟩
  · rw [hnew.devices]
    exact fun item hitem => by cases hitem
  · rw [hnew.bindings]
    exact List.nodup_nil
  · rw [hnew.commands]
    exact fun item hitem => by cases hitem
  · intro bindingId key
    have hnone : g.commandsOf bindingId key = [] := by
      unfold commandsOf
      rw [hnew.commands]
      rfl
    rw [hnone]
    trivial
  · rw [hnew.results]
    exact ⟨List.nodup_nil, fun item hitem => by cases hitem⟩
  · rw [hnew.results]
    exact fun item hitem => by cases hitem

/-- A step keeps the runtimes of every device apart. -/
theorem runtimes_step (hkeyed : Keyed g)
    (h : ∀ item ∈ g.devices, (item.2.runtimes.map Runtime.runtimeId).Nodup)
    (hstep : g.step event = some g') :
    ∀ item ∈ g'.devices, (item.2.runtimes.map Runtime.runtimeId).Nodup := by
  cases step_effect hkeyed.bindings hstep with
  | quiet hquiet =>
      intro item hitem
      obtain ⟨old, hold, -, hstable⟩ := hquiet.devices.mem_back hitem
      rcases hstable.runtimes with hsame | hnodup
      · rw [hsame]
        exact h old hold
      · exact hnodup
  | enrolled _ hruntimes hdevices _ _ _ =>
      intro item hitem
      rw [hdevices] at hitem
      rcases Dict.mem_set hitem with rfl | hold
      · rw [hruntimes]
        exact List.nodup_nil
      · exact h item hold
  | bound _ _ _ _ _ heq | queued _ heq => exact heq ▸ h
  | acknowledged _ hack => exact hack.left ▸ h
  | submitted _ heq => exact heq ▸ h

/-- A step leaves a runtime with one binding. -/
theorem bindings_step (hkeyed : Keyed g)
    (h : (g.bindings.map fun item => (item.2.deviceId, item.2.runtimeId)).Nodup)
    (hfresh : g.FreshIds event) (hstep : g.step event = some g') :
    (g'.bindings.map fun item => (item.2.deviceId, item.2.runtimeId)).Nodup := by
  cases step_effect hkeyed.bindings hstep with
  | quiet hquiet =>
      rw [hquiet.bindings.map_eq fun k a b hcalm => by rw [hcalm.deviceId, hcalm.runtimeId]]
      exact h
  | enrolled _ _ _ hbindings _ _ => exact hbindings ▸ h
  | bound _ hdevice hruntime _ hunbound heq =>
      obtain rfl := heq
      dsimp only
      rw [Dict.set_of_get_none _ hfresh, List.map_append]
      refine List.nodup_append.mpr ⟨h, List.nodup_singleton _, ?_⟩
      intro a ha b hb hab
      obtain ⟨item, hitem, rfl⟩ := List.mem_map.mp ha
      rw [List.map_singleton, List.mem_singleton] at hb
      obtain ⟨hsame, hsame'⟩ := Prod.mk.inj (hab.trans hb)
      exact hunbound item hitem ⟨hsame.trans hdevice, hsame'.trans hruntime⟩
  | queued _ heq => exact heq ▸ h
  | acknowledged _ hack =>
      rw [hack.bindings.map_eq fun k a b hsame => by rw [hsame.1, hsame.2.1]]
      exact h
  | submitted _ heq => exact heq ▸ h

/-- What the schema says of the stored results. -/
def ResultsOwned (g : ConnectorGateway) : Prop :=
  ∀ item ∈ g.agentTaskResults, ∃ command binding,
    g.commands.get item.2.commandId = some command ∧ command.action = .taskDispatch ∧
    command.taskId = some item.1 ∧ g.bindings.get command.bindingId = some binding ∧
    item.2.deviceId = binding.deviceId

/-- A result stays with the device of its dispatch's binding. -/
theorem results_carry (hkeyed : Keyed g) (hfresh : g.FreshIds event)
    (hstep : g.step event = some g') {result : AgentTaskResult} {taskId : String}
    (h : ∃ command binding, g.commands.get result.commandId = some command ∧
      command.action = .taskDispatch ∧ command.taskId = some taskId ∧
      g.bindings.get command.bindingId = some binding ∧ result.deviceId = binding.deviceId) :
    ∃ command binding, g'.commands.get result.commandId = some command ∧
      command.action = .taskDispatch ∧ command.taskId = some taskId ∧
      g'.bindings.get command.bindingId = some binding ∧ result.deviceId = binding.deviceId := by
  obtain ⟨command, binding, hcommand, haction, htask, hbinding, hdevice⟩ := h
  obtain ⟨command', hcommand', hlater⟩ := command_later hkeyed hfresh hstep hcommand
  obtain ⟨binding', hbinding', hdevice', -⟩ :=
    (Evolves.step hkeyed hfresh hstep).directory _ _ hbinding
  have haction' := congrArg Command.action hlater.request
  have htask' := congrArg Command.taskId hlater.request
  have hid := congrArg Command.bindingId hlater.request
  change command'.action = command.action at haction'
  change command'.taskId = command.taskId at htask'
  change command'.bindingId = command.bindingId at hid
  exact ⟨command', binding', hcommand', haction'.trans haction, htask'.trans htask,
    hid ▸ hbinding', hdevice.trans hdevice'.symm⟩

/-- A step keeps one result for a task, from the right device. -/
theorem results_step (hkeyed : Keyed g)
    (htaskIds : g.agentTaskResults.keys.Nodup ∧
      ∀ item ∈ g.agentTaskResults, item.2.taskId = item.1)
    (h : ResultsOwned g) (hfresh : g.FreshIds event) (hstep : g.step event = some g') :
    (g'.agentTaskResults.keys.Nodup ∧ ∀ item ∈ g'.agentTaskResults, item.2.taskId = item.1) ∧
      ResultsOwned g' := by
  have hcarry : g'.agentTaskResults = g.agentTaskResults →
      (g'.agentTaskResults.keys.Nodup ∧ ∀ item ∈ g'.agentTaskResults, item.2.taskId = item.1) ∧
        ResultsOwned g' := by
    intro hsame
    refine ⟨hsame ▸ htaskIds, ?_⟩
    intro item hitem
    rw [hsame] at hitem
    exact results_carry hkeyed hfresh hstep (h item hitem)
  cases step_effect hkeyed.bindings hstep with
  | quiet hquiet => exact hcarry hquiet.results
  | enrolled _ _ _ _ _ hresults => exact hcarry hresults
  | bound _ _ _ _ _ heq | queued _ heq => exact hcarry (by rw [heq])
  | acknowledged _ hack => exact hcarry (by rw [hack.left])
  | @submitted c d payload expected record binding dispatched hsubmits heq =>
      have hnodup := Dict.nodup_keys_set htaskIds.1
      refine ⟨⟨by rw [heq]; exact hnodup _ _, ?_⟩, ?_⟩
      · intro item hitem
        rw [heq] at hitem
        rcases Dict.mem_set hitem with rfl | hold
        · exact hsubmits.recordTask
        · exact htaskIds.2 item hold
      · intro item hitem
        rw [heq] at hitem
        rcases Dict.mem_set hitem with rfl | hold
        · obtain rfl := heq
          refine ⟨dispatched.2, binding, ?_, hsubmits.action, hsubmits.taskId, ?_, ?_⟩
          · dsimp only
            rw [hsubmits.recordCommand, hkeyed.commandIds _ hsubmits.mem]
            exact Dict.get_of_mem hkeyed.commands hsubmits.mem
          · dsimp only
            rw [hsubmits.dispatchedTo]
            exact hsubmits.bound
          · exact hsubmits.recordDevice.trans hsubmits.deviceId.symm
        · exact results_carry hkeyed hfresh hstep (h item hold)

/-- **Every state that a run with such steps reaches has the schema, and from any state of the
    run on nothing that is set once, final or stored is taken back.** -/
theorem schema_kept {start : ConnectorGateway} (hnew : start.IsNew)
    (hreach : Trans.Run ConnectorGateway.step (fun t e => t.FreshIds e ∧ t.KeepsKeys e) start g)
    (hrun : Trans.Run ConnectorGateway.step (fun t e => t.FreshIds e ∧ t.KeepsKeys e) g g') :
    Schema g' ∧ Evolves g g' := by
  have hall : Keyed g' ∧ Owned g' ∧ Schema g' := by
    refine (hreach.trans hrun).invariant (I := fun t => Keyed t ∧ Owned t ∧ Schema t) ?_ ?_
    · refine ⟨keyed_new hnew, owned_of_run hnew .refl, schema_new hnew⟩
    · rintro t event u ⟨hkeyed, howned, hschema⟩ ⟨hfresh, hkeeps⟩ hstep
      have howned' := howned.step hkeyed hfresh hstep
      obtain ⟨htaskIds, hresults⟩ :=
        results_step hkeyed hschema.taskIds hschema.results hfresh hstep
      refine ⟨hkeyed.step hstep, howned', runtimes_step hkeyed hschema.runtimes hstep,
        bindings_step hkeyed hschema.bindings hfresh hstep, ?_,
        keys_step hkeyed hschema.keys hfresh hkeeps hstep, htaskIds, hresults⟩
      intro item hitem
      obtain ⟨binding, hget, hdevice, hruntime, hagent, -⟩ := howned' item hitem
      exact ⟨binding, hget, hdevice, hruntime, hagent⟩
  have hkeyed : Keyed g := keyed_of_run hnew (hreach.mono fun _ _ h => h.1)
  have hevolves : Keyed g' ∧ Evolves g g' := by
    refine hrun.invariant (I := fun t => Keyed t ∧ Evolves g t) ⟨hkeyed, .refl g⟩ ?_
    rintro t event u ⟨hkeyed, hevolves⟩ ⟨hfresh, -⟩ hstep
    exact ⟨hkeyed.step hstep, hevolves.trans (.step hkeyed hfresh hstep)⟩
  exact ⟨hall.2.2, hevolves.2⟩

namespace Sample

open Gateway.Sample

/-- A dispatch of a session under a key of the caller. -/
def dispatch (sessionId key fingerprint : String) : CommandRequest :=
  { request .taskDispatch (some sessionId) (some key) with requestFingerprint := fingerprint }

/-- The Connector was restarted while it had the command. -/
def interrupted (commandId : String) : CommandAck where
  commandId
  status := some .failed
  error := some (.object [("code", "connector_restarted")])

def acknowledge (now : Time) (payload : CommandAck) : List (Choice × Update) :=
  [({ now }, .acknowledgeCommand "device_1" payload (some 1))]

/-- A dispatch is interrupted and queued again in a new session. -/
def retry : List (Choice × Update) :=
  setUp ++ deliver 10 "start_1" (request .sessionStart none none) ++
    acknowledge 11 (started "start_1" "session_1") ++
    deliver 20 "task_1" (dispatch "session_1" "turn_1" "first") ++
    acknowledge 21 (interrupted "task_1") ++
    deliver 30 "start_2" (request .sessionStart none none) ++
    acknowledge 31 (started "start_2" "session_2") ++
    deliver 40 "task_2" (dispatch "session_2" "turn_1" "second")

/-- A start is interrupted, and a dispatch of the next session takes over its key. -/
def takeover : List (Choice × Update) :=
  setUp ++ deliver 10 "start_1" (request .sessionStart none (some "turn_1")) ++
    acknowledge 11 (interrupted "start_1") ++
    deliver 20 "start_2" (request .sessionStart none none) ++
    acknowledge 21 (started "start_2" "session_2") ++
    deliver 30 "task_1" (dispatch "session_2" "turn_1" "first")

/-- The retry of a dispatch keeps the schema. -/
theorem retry_keeps_schema :
    ∃ g : ConnectorGateway, Schema g ∧ (g.commandsOf "binding_1" "turn_1").length = 2 := by
  have hruns : ∃ g : ConnectorGateway,
      Trans.exec ConnectorGateway.step (fun t e => t.FreshIds e ∧ t.KeepsKeys e) {} retry =
        some g ∧ (g.commandsOf "binding_1" "turn_1").length = 2 := by
    refine ⟨_, rfl, ?_⟩
    decide
  obtain ⟨g, hrun, hlength⟩ := hruns
  exact ⟨g, (schema_kept ⟨rfl, rfl, rfl, rfl⟩ .refl (Trans.run_of_exec _ hrun)).1, hlength⟩

/-- One key has two commands, of which the first is no dispatch. -/
theorem key_taken_over :
    ∃ g : ConnectorGateway, Trans.Run ConnectorGateway.step FreshIds {} g ∧
      ¬KeyRule (g.commandsOf "binding_1" "turn_1") := by
  have hruns : ∃ g : ConnectorGateway,
      Trans.exec ConnectorGateway.step FreshIds {} takeover = some g ∧
        (g.commandsOf "binding_1" "turn_1").map Command.action = [.sessionStart, .taskDispatch] := by
    refine ⟨_, rfl, ?_⟩
    decide
  obtain ⟨g, hrun, hactions⟩ := hruns
  refine ⟨g, Trans.run_of_exec _ hrun, ?_⟩
  intro hrule
  cases hcommands : g.commandsOf "binding_1" "turn_1" with
  | nil => simp [hcommands] at hactions
  | cons first rest =>
      cases rest with
      | nil => simp [hcommands] at hactions
      | cons second rest =>
          simp only [hcommands, List.map_cons, List.cons.injEq, List.map_eq_nil_iff] at hactions
          obtain ⟨hstart, -, rfl⟩ := hactions
          rw [hcommands] at hrule
          simp [hrule.1] at hstart

end Sample

end ConnectorGateway

end Arena402.Gateway
