/-
A stopped binding stays stopped.

Only acknowledgements change the status of a stopped binding, and of those only the ones of
a current start or resume and the failures for a lost session do.  So a step that does not
release the binding keeps it stopped exactly when it spares it, and a run of such steps
never leaves the stop.
-/
import Arena402.Gateway.StoppedSession
import Arena402.Proofs.Gateway.Acknowledgements

namespace Arena402.Gateway

open Py ConnectorGateway

variable {now : Time} {command stop : Command} {payload : CommandAck} {status : CommandStatus}
  {binding : Binding}

/-! ### One acknowledgement -/

/-- The acknowledgements that leave a stopped binding stopped. -/
theorem acknowledged_stopped_iff (hallowed : status ∈ ackStatuses)
    (hstopped : binding.status = .stopped) :
    (acknowledgedBinding now command payload status binding).status = .stopped ↔
      ¬command.IsCurrent binding ∧ ¬SessionLost payload status := by
  have hcurrent : command.IsCurrent (binding.naming command payload) ↔
      command.IsCurrent binding := Iff.rfl
  have hnamed : (binding.naming command payload).status = .stopped := hstopped
  rw [acknowledgedBinding_eq]
  unfold Binding.deciding
  by_cases hstop : command.action = .sessionStop ∧ status = .succeeded
  · rw [if_pos hstop]
    have hlifecycle : ¬command.action.isLifecycle := by
      rw [hstop.1]
      decide
    have hsucceeded : ¬SessionLost payload status := by
      rintro ⟨hfailed, -⟩
      rw [hstop.2] at hfailed
      rcases hfailed with hfailed | hfailed <;> cases hfailed
    exact iff_of_true rfl ⟨fun hc => hlifecycle hc.1, hsucceeded⟩
  · rw [if_neg hstop]
    by_cases hcur : command.IsCurrent binding
    · rw [if_pos (hcurrent.mpr hcur)]
      refine iff_of_false ?_ fun h => h.1 hcur
      by_cases hopen : status = .accepted ∨ status = .running ∨ status = .succeeded
      · rw [if_pos hopen]
        exact fun h => by cases h
      · have hfailed : status = .failed ∨ status = .rejected := by
          simp only [ackStatuses, List.mem_cons, List.not_mem_nil, or_false] at hallowed
          tauto
        rw [if_neg hopen, if_pos hfailed]
        exact fun h => by cases h
    · rw [if_neg fun h => hcur (hcurrent.mp h)]
      by_cases hlost : SessionLost payload status
      · rw [if_pos hlost]
        exact iff_of_false (fun h => by cases h) fun h => h.2 hlost
      · rw [if_neg hlost]
        refine iff_of_true ?_ ⟨hcur, hlost⟩
        unfold Binding.remaining
        rw [if_neg fun h => h.2 hnamed, if_neg fun h => h.2.2 hnamed]
        exact hnamed

/-! ### One step -/

namespace ConnectorGateway

variable {start g₀ g₁ g g' : ConnectorGateway} {d : String} {expected : Option Nat}
  {event : Choice × Update}

theorem takes_of_acknowledges (hactive : ∃ device, g.activeDevice d expected = .ok device)
    (hack : Acknowledges g now d payload command status g') :
    g.takes d payload expected = some (command, status) := by
  obtain ⟨device, hdevice⟩ := hactive
  unfold takes
  rw [hdevice, hack.stored, hack.named]
  exact if_pos ⟨hack.deviceId, hack.epoch, hack.allowed, hack.transition⟩

/-- The status that an acknowledgement leaves its command's binding. -/
theorem acknowledges_status {bindingId : String}
    (hack : Acknowledges g now d payload command status g')
    (hbinding : g.bindings.get bindingId = some binding) :
    (g'.bindings.get bindingId).map Binding.status =
      if command.bindingId = bindingId then
        some (acknowledgedBinding now command payload status binding).status
      else some binding.status := by
  obtain rfl := hack.left
  dsimp only
  by_cases hid : command.bindingId = bindingId
  · rw [if_pos hid, hid, hbinding]
    dsimp only
    rw [Dict.get_set_self]
    rfl
  · rw [if_neg hid]
    cases hother : g.bindings.get command.bindingId with
    | none =>
        dsimp only
        rw [hbinding]
        rfl
    | some other =>
        dsimp only
        rw [Dict.get_set_ne _ _ (Ne.symm hid), hbinding]
        rfl

/-- A current start or resume that does not release is from before the stop. -/
theorem not_current_of_spares (howned : command.sessionGeneration ≤ binding.sessionGeneration)
    (hnot : ¬(command.action.isLifecycle ∧ stop.createdAt < command.createdAt ∧
      command.sessionGeneration = binding.sessionGeneration))
    (hspares : if command.IsCurrent binding then stop.createdAt < command.createdAt
      else ¬SessionLost payload status) :
    ¬command.IsCurrent binding ∧ ¬SessionLost payload status := by
  by_cases hcur : command.IsCurrent binding
  · rw [if_pos hcur] at hspares
    have hgeneration : ¬command.sessionGeneration < binding.sessionGeneration :=
      fun h => hcur.2.2 ⟨hcur.1, h⟩
    exact absurd ⟨hcur.1, hspares, by omega⟩ hnot
  · rw [if_neg hcur] at hspares
    exact ⟨hcur, hspares⟩

/-- A step that spares a stopped binding and does not release it leaves it stopped. -/
theorem stopped_step (hkeyed : Keyed g) (howned : Owned g) (hfresh : g.FreshIds event)
    (hbinding : g.bindings.get stop.bindingId = some binding)
    (hstopped : binding.status = .stopped) (hnot : ¬Releases stop g event)
    (hspares : Spares stop g event) (hstep : g.step event = some g') :
    (g'.bindings.get stop.bindingId).map Binding.status = some .stopped := by
  cases step_effect hkeyed.bindings hstep with
  | quiet hquiet =>
      obtain ⟨new, hnew, hcalm⟩ := hquiet.bindings.get hbinding
      rw [hnew, Option.map_some, hcalm.stopped hstopped]
  | enrolled _ _ _ hbindings _ _ =>
      rw [hbindings, hbinding, Option.map_some, hstopped]
  | bound _ _ _ _ _ heq =>
      obtain rfl := heq
      rw [Dict.get_set_fresh _ hfresh hbinding, Option.map_some, hstopped]
  | queued _ heq =>
      obtain rfl := heq
      rw [hbinding, Option.map_some, hstopped]
  | @acknowledged c d payload expected command status hactive hack =>
      rw [acknowledges_status hack hbinding]
      by_cases hid : command.bindingId = stop.bindingId
      · have hevent : acknowledges stop g (c, .acknowledgeCommand d payload expected) =
            some (command, status, payload, binding) := by
          simp [acknowledges, takes_of_acknowledges hactive hack, hid, hbinding]
        unfold Releases at hnot
        unfold Spares at hspares
        rw [hevent] at hnot hspares
        obtain ⟨owner, howner, -, -, -, hgeneration⟩ :=
          howned _ (Dict.mem_of_get hack.stored)
        change g.bindings.get command.bindingId = some owner at howner
        rw [hid, hbinding] at howner
        obtain rfl := Option.some.inj howner
        rw [if_pos hid, (acknowledged_stopped_iff hack.allowed hstopped).mpr
          (not_current_of_spares hgeneration hnot hspares)]
      · rw [if_neg hid, hstopped]
  | submitted _ heq =>
      obtain rfl := heq
      rw [hbinding, Option.map_some, hstopped]

/-! ### Runs -/

/-- **Once its session has been stopped, a binding stays stopped in every run that spares it,
    until a start or a resume from after the stop is acknowledged.** -/
theorem stays_stopped {earlier : Time} {before : Option Nat} (hnew : start.IsNew)
    (hreach : Trans.Run ConnectorGateway.step FreshIds start g₀)
    (hack : g₀.acknowledgeCommand earlier d payload before = .ok (stop, g₁))
    (haction : stop.action = .sessionStop) (hsucceeded : stop.status = .succeeded)
    (hrun : Trans.Run ConnectorGateway.step
      (fun t event => t.FreshIds event ∧ ¬Releases stop t event ∧ Spares stop t event) g₁ g) :
    (g.bindings.get stop.bindingId).map Binding.status = some .stopped := by
  obtain ⟨-, command, status, hfirst, rfl⟩ := acknowledgeCommand_cases hack
  have hkeyed : Keyed g₁ := (keyed_of_run hnew hreach).acknowledge hfirst
  have howned₀ := owned_of_run hnew hreach
  have howned : Owned g₁ := howned₀.acknowledge hfirst
  have hstopped : (g₁.bindings.get command.bindingId).map Binding.status = some .stopped := by
    obtain ⟨binding, hbinding, -⟩ := howned₀ _ (Dict.mem_of_get hfirst.stored)
    change g₀.bindings.get command.bindingId = some binding at hbinding
    rw [acknowledges_status hfirst hbinding, if_pos rfl, acknowledgedBinding_eq]
    unfold Binding.deciding
    rw [if_pos ⟨haction, hsucceeded⟩]
    rfl
  have hall : Keyed g ∧ Owned g ∧
      (g.bindings.get command.bindingId).map Binding.status = some .stopped := by
    refine hrun.invariant
      (I := fun t => Keyed t ∧ Owned t ∧
        (t.bindings.get command.bindingId).map Binding.status = some .stopped)
      ⟨hkeyed, howned, hstopped⟩ ?_
    rintro t event u ⟨hkeyed, howned, hstopped⟩ ⟨hfresh, hnot, hspares⟩ hstep
    obtain ⟨binding, hbinding, hstatus⟩ := Option.map_eq_some_iff.mp hstopped
    exact ⟨hkeyed.step hstep, howned.step hkeyed hfresh hstep,
      stopped_step hkeyed howned hfresh hbinding hstatus hnot hspares hstep⟩
  exact hall.2.2

namespace Sample

open Gateway.Sample

/-- A session is started, and a task and a stop are sent to it. -/
def taskAndStop : List (Choice × Update) :=
  setUp ++ deliver 10 "start_1" (request .sessionStart none none) ++
    [({ now := 11 }, .acknowledgeCommand "device_1" (started "start_1" "session_1") (some 1))] ++
    deliver 20 "task_1" (request .taskDispatch (some "session_1") none) ++
    deliver 21 "stop_1" (request .sessionStop (some "session_1") none)

def stopped : CommandAck where
  commandId := "stop_1"
  status := some .succeeded

/-- The Connector has ended the session before it gets to the task. -/
def taskFailed : Choice × Update :=
  ({ now := 23 }, .acknowledgeCommand "device_1"
    { commandId := "task_1"
      status := some .failed
      error := some (.object [("code", "session_not_found")]) } (some 1))

/-- A hello of a restarted Connector and a late event, after the stop. -/
def restart : List (Choice × Update) :=
  [({ now := 30 }, .applyHello "device_1" { protocolVersion := "1.0", startedAt := "a" } (some 1)),
    ({ now := 31 }, .applyHello "device_1" { protocolVersion := "1.0", startedAt := "b" } (some 1)),
    ({ now := 32, draws := ["event_1"] }, .appendRuntimeEvent "device_1"
      { bindingId := "binding_1", eventType := "task.completed", sequence := some 1 } (some 1))]

/-- The late failure of the task puts the stopped binding back to degraded. -/
theorem late_failure_ends_stop :
    ∃ g₀ g₁ g : ConnectorGateway, ∃ stop,
      Trans.Run ConnectorGateway.step FreshIds {} g₀ ∧
      g₀.acknowledgeCommand 22 "device_1" stopped (some 1) = .ok (stop, g₁) ∧
      stop.action = .sessionStop ∧ stop.status = .succeeded ∧
      Trans.Run ConnectorGateway.step
        (fun t event => t.FreshIds event ∧ ¬Releases stop t event) g₁ g ∧
      (g.bindings.get stop.bindingId).map Binding.status = some .degraded := by
  have hruns : ∃ g₀ g₁ g : ConnectorGateway, ∃ stop,
      Trans.exec ConnectorGateway.step FreshIds {} taskAndStop = some g₀ ∧
      g₀.acknowledgeCommand 22 "device_1" stopped (some 1) = .ok (stop, g₁) ∧
      Trans.exec ConnectorGateway.step
        (fun t event => t.FreshIds event ∧ ¬Releases stop t event) g₁ [taskFailed] = some g ∧
      stop.action = .sessionStop ∧ stop.status = .succeeded ∧
      (g.bindings.get stop.bindingId).map Binding.status = some .degraded := by
    refine ⟨_, _, _, _, rfl, rfl, rfl, ?_⟩
    decide
  obtain ⟨g₀, g₁, g, stop, h₀, hack, h, haction, hstatus, hg⟩ := hruns
  exact ⟨g₀, g₁, g, stop, Trans.run_of_exec _ h₀, hack, haction, hstatus, Trans.run_of_exec _ h, hg⟩

/-- A restart and a late event leave the binding stopped. -/
theorem restart_stays_stopped :
    ∃ g : ConnectorGateway, Trans.Run ConnectorGateway.step FreshIds {} g ∧
      (g.bindings.get "binding_1").map Binding.status = some .stopped := by
  have hruns : ∃ g₀ g₁ g : ConnectorGateway, ∃ stop,
      Trans.exec ConnectorGateway.step FreshIds {} taskAndStop = some g₀ ∧
      g₀.acknowledgeCommand 22 "device_1" stopped (some 1) = .ok (stop, g₁) ∧
      Trans.exec ConnectorGateway.step
        (fun t event => t.FreshIds event ∧ ¬Releases stop t event ∧ Spares stop t event)
          g₁ restart = some g ∧
      stop.action = .sessionStop ∧ stop.status = .succeeded ∧ stop.bindingId = "binding_1" := by
    refine ⟨_, _, _, _, rfl, rfl, rfl, ?_⟩
    decide
  obtain ⟨g₀, g₁, g, stop, h₀, hack, h, haction, hstatus, hid⟩ := hruns
  have hreach := Trans.run_of_exec _ h₀
  have hrun := Trans.run_of_exec _ h
  have hstep : ConnectorGateway.step g₀
      ({ now := 22 }, .acknowledgeCommand "device_1" stopped (some 1)) = some g₁ := by
    simp [ConnectorGateway.step, Update.inMemory, Update.apply, hack]
  refine ⟨g, (hreach.tail (by exact trivial) hstep).trans ?_, ?_⟩
  · exact hrun.mono fun t event h => h.1
  · rw [← hid]
    exact stays_stopped ⟨rfl, rfl, rfl, rfl⟩ hreach hack haction hstatus hrun

end Sample

end ConnectorGateway

end Arena402.Gateway
