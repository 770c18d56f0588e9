/-
What runs of the gateway keep, and the branches of an acknowledgement.

`acknowledgedBinding` first notes the session and the task that the payload names, then
decides by the action, and takes the task of a finished dispatch off again.  Written as
these three, its branches are `if_pos` and `if_neg` of one another.  The second part is
what every run keeps of the tables: their keys, and the final status of a command.
-/
import Arena402.Gateway.AckReplay
import Arena402.Proofs.Gateway.Tables

namespace Arena402.Gateway

open Py ConnectorGateway

variable {now : Time} {command : Command} {payload : CommandAck} {status : CommandStatus}
  {binding : Binding}

/-! ### The branches of the update -/

/-- The binding with the session and the task that the payload names. -/
def Binding.naming (binding : Binding) (command : Command) (payload : CommandAck) : Binding :=
  { binding with
    lastSessionId :=
      match payload.session with
      | some id =>
          if command.OlderThanRestart binding then binding.lastSessionId else some (clip 128 id)
      | none => binding.lastSessionId
    lastTaskId :=
      match payload.task with
      | some id => some (clip 128 id)
      | none => binding.lastTaskId }

/-- The branches after the stop, the lifecycle and the lost session. -/
def Binding.remaining (binding : Binding) (command : Command) (status : CommandStatus) :
    Binding :=
  if command.action = .taskDispatch ∧ binding.status ≠ .stopped then
    { binding with status := .running }
  else if (command.action = .runtimeProbe ∨ command.action = .sessionStop) ∧
      (status = .failed ∨ status = .rejected) ∧ binding.status ≠ .stopped then
    { binding with status := .degraded }
  else binding

/-- The branch that the action and the status select. -/
def Binding.deciding (binding : Binding) (command : Command) (payload : CommandAck)
    (status : CommandStatus) : Binding :=
  if command.action = .sessionStop ∧ status = .succeeded then
    { binding with
      status := .stopped, lastStoppedCommandCreatedAt := some command.createdAt
      lastTaskId := none }
  else if command.IsCurrent binding then
    if status = .accepted ∨ status = .running ∨ status = .succeeded then
      { binding with status := .running }
    else if status = .failed ∨ status = .rejected then { binding with status := .degraded }
    else binding
  else if SessionLost payload status then
    { binding with status := .degraded, lastSessionId := none, lastTaskId := none }
  else binding.remaining command status

/-- The end of a dispatch takes its task off the binding. -/
def Binding.finishing (binding : Binding) (now : Time) (command : Command) (payload : CommandAck)
    (status : CommandStatus) : Binding :=
  { binding with
    lastTaskId :=
      if command.action = .taskDispatch ∧
          (status = .succeeded ∨ status = .failed ∨ status = .rejected) ∧
          payload.task.isSome ∧ binding.lastTaskId = payload.task then none
      else binding.lastTaskId
    updatedAt := now }

theorem acknowledgedBinding_eq (now : Time) (command : Command) (payload : CommandAck)
    (status : CommandStatus) (binding : Binding) :
    acknowledgedBinding now command payload status binding =
      ((binding.naming command payload).deciding command payload status).finishing now command
        payload status := by
  have hsession : payload.session =
      (payload.sessionId.bind orNone).orElse fun _ => payload.resultSessionId.bind orNone := rfl
  have htask : payload.task = payload.resultTaskId.bind orNone := rfl
  have hrestart : command.OlderThanRestart binding ↔
      (command.action = .sessionStart ∨ command.action = .sessionResume) ∧
        command.sessionGeneration < binding.sessionGeneration := Iff.rfl
  unfold acknowledgedBinding Binding.naming Binding.deciding Binding.remaining Binding.finishing
  rw [← hsession, ← htask]
  cases hs : payload.session with
  | none => cases ht : payload.task <;> rfl
  | some session =>
      by_cases hold : command.OlderThanRestart binding
      · have hold' := hrestart.mp hold
        simp only [if_pos hold, if_pos hold']
        cases ht : payload.task <;> rfl
      · have hold' := fun h => hold (hrestart.mpr h)
        simp only [if_neg hold, if_neg hold']
        cases ht : payload.task <;> rfl

/-- An acknowledgement leaves the identity of the binding alone. -/
theorem acknowledgedBinding_identity (now : Time) (command : Command) (payload : CommandAck)
    (status : CommandStatus) (binding : Binding) :
    (acknowledgedBinding now command payload status binding).bindingId = binding.bindingId ∧
      (acknowledgedBinding now command payload status binding).deviceId = binding.deviceId ∧
      (acknowledgedBinding now command payload status binding).runtimeId = binding.runtimeId ∧
      (acknowledgedBinding now command payload status binding).agentId = binding.agentId ∧
      (acknowledgedBinding now command payload status binding).workingDirectory =
        binding.workingDirectory ∧
      (acknowledgedBinding now command payload status binding).sessionGeneration =
        binding.sessionGeneration := by
  rw [acknowledgedBinding_eq]
  unfold Binding.finishing Binding.deciding Binding.remaining
  dsimp only
  split_ifs <;> exact ⟨rfl, rfl, rfl, rfl, rfl, rfl⟩

/-! ### What every run keeps -/

/-- The keys of the tables are the ids of their rows, and none occurs twice. -/
structure Keyed (g : ConnectorGateway) : Prop where
  bindings : g.bindings.keys.Nodup
  commands : g.commands.keys.Nodup
  bindingIds : ∀ item ∈ g.bindings, item.2.bindingId = item.1
  commandIds : ∀ item ∈ g.commands, item.2.commandId = item.1

variable {g g' : ConnectorGateway} {event : Choice × Update}

theorem keyed_new (hnew : g.IsNew) : Keyed g := by
  refine ⟨?_, ?_, ?_, ?_⟩
  · rw [hnew.bindings]
    exact List.nodup_nil
  · rw [hnew.commands]
    exact List.nodup_nil
  · rw [hnew.bindings]
    exact fun item hitem => by cases hitem
  · rw [hnew.commands]
    exact fun item hitem => by cases hitem

theorem Keyed.quiet (h : Keyed g) (hquiet : Quiet g g') : Keyed g' := by
  have hbindings : g'.bindings.keys = g.bindings.keys :=
    hquiet.bindings.map_eq fun _ _ _ _ => rfl
  have hcommands : g'.commands.keys = g.commands.keys :=
    hquiet.commands.map_eq fun _ _ _ _ => rfl
  refine ⟨hbindings ▸ h.bindings, hcommands ▸ h.commands, ?_, ?_⟩
  · intro item hitem
    obtain ⟨old, hold, hkey, hcalm⟩ := hquiet.bindings.mem_back hitem
    rw [hkey, hcalm.bindingId]
    exact h.bindingIds old hold
  · intro item hitem
    obtain ⟨old, hold, hkey, hmoved⟩ := hquiet.commands.mem_back hitem
    have hid := congrArg Command.commandId hmoved.request
    rw [hkey, ← h.commandIds old hold]
    exact hid

theorem Keyed.acknowledge {d : String} (h : Keyed g)
    (hack : Acknowledges g now d payload command status g') : Keyed g' := by
  have hcommand := h.commandIds _ (Dict.mem_of_get hack.stored)
  obtain rfl := hack.left
  refine ⟨?_, Dict.nodup_keys_set h.commands _ _, ?_, ?_⟩
  · dsimp only
    cases g.bindings.get command.bindingId with
    | none => exact h.bindings
    | some binding => exact Dict.nodup_keys_set h.bindings _ _
  · dsimp only
    cases hbinding : g.bindings.get command.bindingId with
    | none => exact h.bindingIds
    | some binding =>
        intro item hitem
        rcases Dict.mem_set hitem with rfl | hold
        · dsimp only
          rw [(acknowledgedBinding_identity now command payload status binding).1]
          exact h.bindingIds _ (Dict.mem_of_get hbinding)
        · exact h.bindingIds item hold
  · intro item hitem
    rcases Dict.mem_set hitem with rfl | hold
    · exact hcommand
    · exact h.commandIds item hold

theorem Keyed.step (h : Keyed g) (hstep : g.step event = some g') : Keyed g' := by
  cases step_effect h.bindings hstep with
  | quiet hquiet => exact h.quiet hquiet
  | enrolled _ _ _ hbindings hcommands _ =>
      exact ⟨hbindings ▸ h.bindings, hcommands ▸ h.commands, hbindings ▸ h.bindingIds,
        hcommands ▸ h.commandIds⟩
  | bound hid _ _ _ _ heq =>
      obtain rfl := heq
      refine ⟨Dict.nodup_keys_set h.bindings _ _, h.commands, ?_, h.commandIds⟩
      intro item hitem
      rcases Dict.mem_set hitem with rfl | hold
      · exact hid
      · exact h.bindingIds item hold
  | queued hqueues heq =>
      obtain rfl := heq
      refine ⟨h.bindings, Dict.nodup_keys_set h.commands _ _, h.bindingIds, ?_⟩
      intro item hitem
      rcases Dict.mem_set hitem with rfl | hold
      · exact hqueues.id
      · exact h.commandIds item hold
  | acknowledged _ hack => exact h.acknowledge hack
  | submitted _ heq =>
      obtain rfl := heq
      exact ⟨h.bindings, h.commands, h.bindingIds, h.commandIds⟩

/-- The keys of a reachable state. -/
theorem keyed_of_run {start : ConnectorGateway} {ok : ConnectorGateway → Choice × Update → Prop}
    (hnew : start.IsNew) (hrun : Trans.Run ConnectorGateway.step ok start g) : Keyed g :=
  hrun.invariant (keyed_new hnew) fun _ _ _ h _ hstep => h.step hstep

/-- Each command has its binding, of the same device, runtime and agent, and is no later than
    its session generation. -/
def Owned (g : ConnectorGateway) : Prop :=
  ∀ item ∈ g.commands, ∃ binding, g.bindings.get item.2.bindingId = some binding ∧
    item.2.deviceId = binding.deviceId ∧ item.2.runtimeId = binding.runtimeId ∧
    item.2.agentId = binding.agentId ∧ item.2.sessionGeneration ≤ binding.sessionGeneration

/-- A step that keeps the bindings' identities and what the commands were queued with. -/
theorem Owned.congr (h : Owned g)
    (hcommands : ∀ item ∈ g'.commands, ∃ old ∈ g.commands, item.2.request = old.2.request)
    (hbindings : ∀ id binding, g.bindings.get id = some binding →
      ∃ new, g'.bindings.get id = some new ∧ new.deviceId = binding.deviceId ∧
        new.runtimeId = binding.runtimeId ∧ new.agentId = binding.agentId ∧
        binding.sessionGeneration ≤ new.sessionGeneration) : Owned g' := by
  intro item hitem
  obtain ⟨old, hold, hrequest⟩ := hcommands item hitem
  obtain ⟨binding, hget, hdevice, hruntime, hagent, hgeneration⟩ := h old hold
  obtain ⟨new, hnew, hdevice', hruntime', hagent', hgeneration'⟩ := hbindings _ _ hget
  have hbindingId := congrArg Command.bindingId hrequest
  have hdeviceId := congrArg Command.deviceId hrequest
  have hruntimeId := congrArg Command.runtimeId hrequest
  have hagentId := congrArg Command.agentId hrequest
  have hsession := congrArg Command.sessionGeneration hrequest
  change item.2.bindingId = old.2.bindingId at hbindingId
  change item.2.sessionGeneration = old.2.sessionGeneration at hsession
  refine ⟨new, hbindingId ▸ hnew, ?_, ?_, ?_, by omega⟩
  · exact hdeviceId.trans (hdevice.trans hdevice'.symm)
  · exact hruntimeId.trans (hruntime.trans hruntime'.symm)
  · exact hagentId.trans (hagent.trans hagent'.symm)

theorem Owned.quiet (h : Owned g) (hquiet : Quiet g g') : Owned g' := by
  refine h.congr ?_ ?_
  · intro item hitem
    obtain ⟨old, hold, -, hmoved⟩ := hquiet.commands.mem_back hitem
    exact ⟨old, hold, hmoved.request⟩
  · intro id binding hget
    obtain ⟨new, hnew, hcalm⟩ := hquiet.bindings.get hget
    exact ⟨new, hnew, hcalm.deviceId, hcalm.runtimeId, hcalm.agentId, hcalm.generation⟩

/-- The same bindings. -/
theorem bindings_same (h : g'.bindings = g.bindings) (id : String) (binding : Binding)
    (hget : g.bindings.get id = some binding) :
    ∃ new, g'.bindings.get id = some new ∧ new.deviceId = binding.deviceId ∧
      new.runtimeId = binding.runtimeId ∧ new.agentId = binding.agentId ∧
      binding.sessionGeneration ≤ new.sessionGeneration :=
  ⟨binding, h ▸ hget, rfl, rfl, rfl, le_rfl⟩

theorem Owned.acknowledge {d : String} (h : Owned g)
    (hack : Acknowledges g now d payload command status g') : Owned g' := by
  obtain rfl := hack.left
  refine h.congr ?_ ?_
  · intro item hitem
    rcases Dict.mem_set hitem with rfl | hold
    · exact ⟨_, Dict.mem_of_get hack.stored, rfl⟩
    · exact ⟨item, hold, rfl⟩
  · intro id binding hget
    dsimp only
    cases hbinding : g.bindings.get command.bindingId with
    | none => exact ⟨binding, hget, rfl, rfl, rfl, le_rfl⟩
    | some owner =>
        dsimp only
        by_cases hid : id = command.bindingId
        · rw [hid, hbinding] at hget
          obtain rfl := Option.some.inj hget
          obtain ⟨-, hdevice, hruntime, hagent, -, hgeneration⟩ :=
            acknowledgedBinding_identity now command payload status owner
          exact ⟨_, hid ▸ Dict.get_set_self _ _ _, hdevice, hruntime, hagent, hgeneration.ge⟩
        · exact ⟨binding, (Dict.get_set_ne _ _ hid).trans hget, rfl, rfl, rfl, le_rfl⟩

theorem Owned.step (h : Owned g) (hkeyed : Keyed g) (hfresh : g.FreshIds event)
    (hstep : g.step event = some g') : Owned g' := by
  cases step_effect hkeyed.bindings hstep with
  | quiet hquiet => exact h.quiet hquiet
  | enrolled _ _ _ hbindings hcommands _ =>
      exact h.congr (fun item hitem => ⟨item, hcommands ▸ hitem, rfl⟩) (bindings_same hbindings)
  | bound _ _ _ _ _ heq =>
      obtain rfl := heq
      refine h.congr (fun item hitem => ⟨item, hitem, rfl⟩) ?_
      intro id binding hget
      exact ⟨binding, Dict.get_set_fresh _ hfresh hget, rfl, rfl, rfl, le_rfl⟩
  | @queued c request binding new hqueues heq =>
      obtain rfl := heq
      intro item hitem
      rcases Dict.mem_set hitem with rfl | hold
      · refine ⟨binding, ?_, hqueues.deviceId, hqueues.runtimeId, hqueues.agentId,
          hqueues.generation.le⟩
        dsimp only
        rw [hqueues.bindingId, hkeyed.bindingIds _ (Dict.mem_of_get hqueues.bound)]
        exact hqueues.bound
      · exact h item hold
  | acknowledged _ hack => exact h.acknowledge hack
  | submitted _ heq =>
      obtain rfl := heq
      exact h.congr (fun item hitem => ⟨item, hitem, rfl⟩) (bindings_same rfl)

theorem owned_of_run {start : ConnectorGateway} (hnew : start.IsNew)
    (hrun : Trans.Run ConnectorGateway.step ConnectorGateway.FreshIds start g) : Owned g := by
  have hboth : Keyed g ∧ Owned g := by
    refine hrun.invariant (I := fun t => Keyed t ∧ Owned t) ⟨keyed_new hnew, ?_⟩ ?_
    · intro item hitem
      rw [hnew.commands] at hitem
      cases hitem
    · rintro t e u ⟨hkeyed, howned⟩ hfresh hstep
      exact ⟨hkeyed.step hstep, howned.step hkeyed hfresh hstep⟩
  exact hboth.2

/-- From a final status an acknowledgement leads nowhere else. -/
theorem transition_of_terminal (h : command.status.isTerminal = true)
    (htransition : status ∈ transitions command.status) : status = command.status := by
  cases hs : command.status with
  | queued | delivered | accepted | running => simp [hs, CommandStatus.isTerminal] at h
  | succeeded | failed | rejected => simpa [hs, transitions] using htransition
  | expired => simp [hs, transitions] at htransition

/-- A command of an earlier state. -/
structure Command.Later (old new : Command) : Prop where
  request : new.request = old.request
  final : old.status.isTerminal = true → new.status = old.status

theorem Command.Later.refl (command : Command) : command.Later command :=
  ⟨rfl, fun _ => rfl⟩

theorem Command.Later.trans {a b c : Command} (h : a.Later b) (h' : b.Later c) : a.Later c := by
  refine ⟨h'.request.trans h.request, ?_⟩
  intro hfinal
  have hsame := h.final hfinal
  rw [h'.final (by rw [hsame]; exact hfinal), hsame]

/-- No step forgets a command, or takes it out of a final status. -/
theorem command_later (hkeyed : Keyed g) (hfresh : g.FreshIds event)
    (hstep : g.step event = some g') {id : String} (hget : g.commands.get id = some command) :
    ∃ new, g'.commands.get id = some new ∧ command.Later new := by
  cases step_effect hkeyed.bindings hstep with
  | quiet hquiet =>
      obtain ⟨new, hnew, hmoved⟩ := hquiet.commands.get hget
      exact ⟨new, hnew, hmoved.request, hmoved.final⟩
  | enrolled _ _ _ _ hcommands _ => exact ⟨command, hcommands ▸ hget, .refl command⟩
  | bound _ _ _ _ _ heq => exact ⟨command, heq ▸ hget, .refl command⟩
  | queued _ heq =>
      obtain rfl := heq
      exact ⟨command, Dict.get_set_fresh _ hfresh.1 hget, .refl command⟩
  | @acknowledged c d payload expected stored status _ hack =>
      obtain rfl := hack.left
      by_cases hid : id = payload.commandId
      · rw [hid, hack.stored] at hget
        obtain rfl := Option.some.inj hget
        refine ⟨acknowledgedCommand c.now stored payload status, ?_, rfl, ?_⟩
        · rw [hid]
          exact Dict.get_set_self _ _ _
        · exact fun hfinal => transition_of_terminal hfinal hack.transition
      · exact ⟨command, (Dict.get_set_ne _ _ hid).trans hget, .refl command⟩
  | submitted _ heq => exact ⟨command, heq ▸ hget, .refl command⟩

/-- **A command stays what it was queued as, and a final status is never left.** -/
theorem command_later_of_run (hkeyed : Keyed g)
    (hrun : Trans.Run ConnectorGateway.step ConnectorGateway.FreshIds g g') {id : String}
    (hget : g.commands.get id = some command) :
    Keyed g' ∧ ∃ new, g'.commands.get id = some new ∧ command.Later new := by
  refine hrun.invariant
    (I := fun t => Keyed t ∧ ∃ new, t.commands.get id = some new ∧ command.Later new)
    ⟨hkeyed, command, hget, .refl command⟩ ?_
  rintro t e u ⟨hkeyed, middle, hmiddle, hlater⟩ hfresh hstep
  obtain ⟨new, hnew, hlater'⟩ := command_later hkeyed hfresh hstep hmiddle
  exact ⟨hkeyed.step hstep, new, hnew, hlater.trans hlater'⟩

/-! ### A device with a binding -/

namespace Sample

def codex : Runtime where
  runtimeId := "codex"
  kind := "codex_cli"
  displayName := "Codex"
  capabilities := [.runtimeProbe, .sessionStart, .taskDispatch, .taskCancel, .sessionStop]

/-- A device is enrolled and connected, and its runtime gets a binding. -/
def setUp : List (Choice × Update) :=
  [({ draws := ["pairing_1", "AAAA-AAAA", "code_1"] }, .createPairing "laptop"),
    ({ now := 1 }, .approvePairing "AAAA-AAAA" "owner_1"),
    ({ now := 2, draws := ["device_1", "token_1"] }, .exchangePairing "code_1"),
    ({ now := 3 }, .connect "device_1" 1),
    ({ now := 4 }, .updateInventory "device_1" [codex] (some 1)),
    ({ now := 5, draws := ["binding_1", "agent_1"] },
      .createBinding "device_1" "codex" (some "/work"))]

/-- A request of the binding. -/
def request (action : CommandAction) (sessionId key : Option String) : CommandRequest where
  bindingId := "binding_1"
  action
  sessionId
  requestFingerprint := "request"
  idempotencyKey := key
  expiresInSeconds := 60

/-- A command is queued and reaches the device. -/
def deliver (now : Time) (commandId : String) (command : CommandRequest) :
    List (Choice × Update) :=
  [({ now, draws := [commandId] }, .queueCommand command),
    ({ now }, .markDurable commandId),
    ({ now }, .markDelivered "device_1" 1 1 commandId)]

/-- The acknowledgement of a start. -/
def started (commandId sessionId : String) : CommandAck where
  commandId
  status := some .succeeded
  resultSessionId := some sessionId

end Sample

end Arena402.Gateway
