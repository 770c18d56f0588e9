/-
A replayed acknowledgement, field by field.

For each branch of the update there is a lemma that says when it leaves a field alone; the
theorem about replays is read off them, and needs of the run in between only that a final
status stays.
-/
import Arena402.Proofs.Gateway.Acknowledgements

namespace Arena402.Gateway

open Py ConnectorGateway

variable {now : Time} {command : Command} {payload : CommandAck} {status : CommandStatus}
  {binding : Binding}

/-! ### When a branch leaves the fields alone -/

theorem naming_session_iff : (binding.naming command payload).lastSessionId = binding.lastSessionId ↔
    command.OlderThanRestart binding ∨ binding.InSession payload := by
  unfold Binding.naming Binding.InSession
  cases hs : payload.session with
  | none => simp
  | some id =>
      by_cases hold : command.OlderThanRestart binding
      · simp [hold]
      · simp [hold, eq_comm]

theorem naming_task_iff : (binding.naming command payload).lastTaskId = binding.lastTaskId ↔
    binding.AtTask payload := by
  unfold Binding.naming Binding.AtTask
  cases ht : payload.task with
  | none => simp
  | some id => simp [eq_comm]

/-- Only the end of a dispatch takes a task off. -/
theorem finishing_task_of_ne (h : command.action ≠ .taskDispatch) :
    (binding.finishing now command payload status).lastTaskId = binding.lastTaskId := by
  unfold Binding.finishing
  exact if_neg fun hdone => h hdone.1

/-- The task that a dispatch's end leaves. -/
theorem finishing_task_iff (haction : command.action = .taskDispatch)
    (hfinal : status = .succeeded ∨ status = .failed ∨ status = .rejected) {other : Binding}
    (hother : other.lastTaskId = (binding.naming command payload).lastTaskId) :
    (other.finishing now command payload status).lastTaskId = binding.lastTaskId ↔
      binding.TaskDone payload := by
  unfold Binding.finishing Binding.TaskDone
  dsimp only
  rw [hother]
  unfold Binding.naming
  cases ht : payload.task with
  | none => simp
  | some id =>
      by_cases hcut : clip 128 id = id
      · rw [if_pos ⟨haction, hfinal, rfl, congrArg some hcut⟩]
        simp [hcut, eq_comm]
      · rw [if_neg fun hdone => hcut (Option.some.inj hdone.2.2.2)]
        simp only [Option.some.injEq, forall_eq', if_neg hcut]
        exact eq_comm

/-- There is no task to take off. -/
theorem finishing_task_of_none (h : binding.lastTaskId = none) :
    (binding.finishing now command payload status).lastTaskId = none := by
  unfold Binding.finishing
  dsimp only
  rw [h]
  exact ite_self _

theorem remaining_session : (binding.remaining command status).lastSessionId =
    binding.lastSessionId := by
  unfold Binding.remaining
  split_ifs <;> rfl

theorem remaining_task : (binding.remaining command status).lastTaskId = binding.lastTaskId := by
  unfold Binding.remaining
  split_ifs <;> rfl

/-- The status that the last branches leave. -/
theorem remaining_status_iff
    (hfinal : status = .succeeded ∨ status = .failed ∨ status = .rejected)
    (hstop : ¬(command.action = .sessionStop ∧ status = .succeeded)) :
    (binding.remaining command status).status = binding.status ↔
      match command.action with
      | .taskDispatch => binding.status = .stopped ∨ binding.status = .running
      | .runtimeProbe | .sessionStop =>
          status = .succeeded ∨ binding.status = .stopped ∨ binding.status = .degraded
      | _ => True := by
  unfold Binding.remaining
  cases haction : command.action with
  | taskDispatch =>
      by_cases hstopped : binding.status = .stopped
      · simp [hstopped]
      · simp [hstopped, eq_comm]
  | runtimeProbe =>
      by_cases hstopped : binding.status = .stopped
      · simp [hstopped]
      · rcases hfinal with rfl | rfl | rfl <;> simp [hstopped, eq_comm]
  | sessionStop =>
      by_cases hstopped : binding.status = .stopped
      · simp [hstopped]
      · rcases hfinal with rfl | rfl | rfl
        · exact absurd ⟨haction, rfl⟩ hstop
        · simp [hstopped, eq_comm]
        · simp [hstopped, eq_comm]
  | sessionStart => simp
  | taskCancel => simp
  | sessionResume => simp

variable (now) in
/-- **A final acknowledgement leaves a binding's status, session and task alone exactly when
    the binding still carries them.** -/
theorem acknowledgedBinding_same_iff
    (hfinal : status = .succeeded ∨ status = .failed ∨ status = .rejected) :
    ((acknowledgedBinding now command payload status binding).status = binding.status ∧
      (acknowledgedBinding now command payload status binding).lastSessionId =
        binding.lastSessionId ∧
      (acknowledgedBinding now command payload status binding).lastTaskId = binding.lastTaskId) ↔
    Carries command payload status binding := by
  have hcurrent : command.IsCurrent (binding.naming command payload) ↔
      command.IsCurrent binding := Iff.rfl
  rw [acknowledgedBinding_eq]
  unfold Binding.deciding Carries
  by_cases hstop : command.action = .sessionStop ∧ status = .succeeded
  · have hnever : ¬command.OlderThanRestart binding := by
      rintro ⟨hstart | hresume, -⟩
      · simp [hstop.1] at hstart
      · simp [hstop.1] at hresume
    have hkept : command.action ≠ .taskDispatch := by simp [hstop.1]
    rw [if_pos hstop, if_pos hstop, finishing_task_of_ne hkept]
    change .stopped = binding.status ∧
      (binding.naming command payload).lastSessionId = binding.lastSessionId ∧
      none = binding.lastTaskId ↔ _
    rw [naming_session_iff, or_iff_right hnever, eq_comm, @eq_comm _ none]
  · rw [if_neg hstop, if_neg hstop]
    by_cases hcur : command.IsCurrent binding
    · have hkept : command.action ≠ .taskDispatch := by
        rcases hcur.1 with hstart | hresume
        · simp [hstart]
        · simp [hresume]
      rw [if_pos (hcurrent.mpr hcur), if_pos hcur, finishing_task_of_ne hkept]
      by_cases hsucceeded : status = .succeeded
      · rw [if_pos (Or.inr (Or.inr hsucceeded)), if_pos hsucceeded]
        change .running = binding.status ∧
          (binding.naming command payload).lastSessionId = binding.lastSessionId ∧
          (binding.naming command payload).lastTaskId = binding.lastTaskId ↔ _
        rw [naming_session_iff, naming_task_iff, or_iff_right hcur.2.2, eq_comm]
      · have hfailed := hfinal.resolve_left hsucceeded
        have hopen : ¬(status = .accepted ∨ status = .running ∨ status = .succeeded) := by
          rcases hfailed with rfl | rfl <;> simp
        rw [if_neg hopen, if_pos hfailed, if_neg hsucceeded]
        change .degraded = binding.status ∧
          (binding.naming command payload).lastSessionId = binding.lastSessionId ∧
          (binding.naming command payload).lastTaskId = binding.lastTaskId ↔ _
        rw [naming_session_iff, naming_task_iff, or_iff_right hcur.2.2, eq_comm]
    · rw [if_neg (fun h => hcur (hcurrent.mp h)), if_neg hcur]
      by_cases hlost : SessionLost payload status
      · rw [if_pos hlost, if_pos hlost, finishing_task_of_none rfl]
        change .degraded = binding.status ∧ none = binding.lastSessionId ∧
          none = binding.lastTaskId ↔ _
        rw [eq_comm, @eq_comm _ none, @eq_comm _ none]
      · rw [if_neg hlost, if_neg hlost]
        have hstatus : ((binding.naming command payload).remaining command status).status =
            binding.status ↔ _ := remaining_status_iff hfinal hstop
        change ((binding.naming command payload).remaining command status).status =
            binding.status ∧
          ((binding.naming command payload).remaining command status).lastSessionId =
            binding.lastSessionId ∧ _ ↔ _
        rw [remaining_session, naming_session_iff, hstatus]
        by_cases hdispatch : command.action = .taskDispatch
        · rw [finishing_task_iff hdispatch hfinal remaining_task, hdispatch]
          exact and_left_comm
        · rw [finishing_task_of_ne hdispatch, remaining_task, naming_task_iff]
          cases haction : command.action with
          | taskDispatch => exact absurd haction hdispatch
          | runtimeProbe | sessionStop => exact and_left_comm
          | sessionStart => exact and_left_comm.trans (and_congr_right fun _ => iff_of_eq (true_and _))
          | taskCancel => exact and_left_comm.trans (and_congr_right fun _ => iff_of_eq (true_and _))
          | sessionResume => exact and_left_comm.trans (and_congr_right fun _ => iff_of_eq (true_and _))

/-! ### Replays -/

namespace ConnectorGateway

variable {start g₀ g₁ g g' : ConnectorGateway} {d : String} {expected : Option Nat}

/-- The checks a transition begins with pass exactly when the socket is not refused. -/
theorem activeDevice_ok_iff :
    (∃ device, g.activeDevice d expected = .ok device) ↔ ¬g.Refuses d expected := by
  unfold Refuses activeDevice getDevice
  cases hget : g.devices.get d with
  | none => simp [bind, Except.bind]
  | some device =>
      by_cases hrevoked : device.revokedAt.isSome = true
      · simp [bind, Except.bind, ensureNotRevoked, hrevoked]
      · cases expected with
        | none =>
            simp [bind, Except.bind, ensureNotRevoked, ensureConnectionGeneration, hrevoked, pure,
              Except.pure]
        | some generation =>
            by_cases hgeneration : device.connectionGeneration = generation
            · simp [bind, Except.bind, ensureNotRevoked, ensureConnectionGeneration, hrevoked, pure,
                Except.pure, hgeneration]
            · simp [bind, Except.bind, ensureNotRevoked, ensureConnectionGeneration, hrevoked,
                hgeneration]

/-- What a repeated final acknowledgement changes. -/
theorem Acknowledges.same_iff (hack : Acknowledges g now d payload command status g')
    (hfinal : status = .succeeded ∨ status = .failed ∨ status = .rejected)
    (hstatus : command.status = status) :
    (g'.commandOutcome payload.commandId = g.commandOutcome payload.commandId ∧
      g'.bindingOutcome payload.commandId = g.bindingOutcome payload.commandId) ↔
    (command.result = payload.result ∧ command.error = storedError payload status) ∧
    ∀ binding, g.bindings.get command.bindingId = some binding →
      Carries command payload status binding := by
  obtain rfl := hack.left
  refine and_congr ?_ ?_
  · simp [commandOutcome, hack.stored, Dict.get_set_self, acknowledgedCommand, hstatus, eq_comm]
  · unfold bindingOutcome
    rw [Dict.get_set_self, hack.stored, Option.bind_some, Option.bind_some]
    change Option.map _ (Dict.get _ command.bindingId) = _ ↔ _
    cases hbinding : g.bindings.get command.bindingId with
    | none => simp [hbinding]
    | some binding =>
        have hforall : (∀ other, some binding = some other →
            Carries command payload status other) ↔ Carries command payload status binding := by
          simp
        rw [hforall, ← acknowledgedBinding_same_iff now hfinal]
        simp [Dict.get_set_self]

/-- **A replayed final acknowledgement changes neither the command nor its binding exactly
    when the binding and the command still have what it set.** -/
theorem replay_harmless_iff {earlier now : Time} {before : Option Nat} {acknowledged : Command}
    (hnew : start.IsNew) (hreach : Trans.Run ConnectorGateway.step FreshIds start g₀)
    (hack : g₀.acknowledgeCommand earlier d payload before = .ok (acknowledged, g₁))
    (hfinal : acknowledged.status = .succeeded ∨ acknowledged.status = .failed ∨
      acknowledged.status = .rejected)
    (hrun : Trans.Run ConnectorGateway.step FreshIds g₁ g) :
    (∀ updated g', g.acknowledgeCommand now d payload expected = .ok (updated, g') →
      g'.commandOutcome payload.commandId = g.commandOutcome payload.commandId ∧
      g'.bindingOutcome payload.commandId = g.bindingOutcome payload.commandId) ↔
    g.ReplayHarmless d payload expected := by
  obtain ⟨-, first, status, hfirst, rfl⟩ := acknowledgeCommand_cases hack
  change status = .succeeded ∨ status = .failed ∨ status = .rejected at hfinal
  have hkeyed : Keyed g₁ := (keyed_of_run hnew hreach).acknowledge hfirst
  have hstored : g₁.commands.get payload.commandId =
      some (acknowledgedCommand earlier first payload status) := by
    rw [hfirst.left]
    exact Dict.get_set_self _ _ _
  obtain ⟨-, later, hlater, hsame⟩ := command_later_of_run hkeyed hrun hstored
  have hstatus : later.status = status := by
    refine hsame.final ?_
    rcases hfinal with rfl | rfl | rfl <;> rfl
  -- The command is the one that was acknowledged, so only the socket can be refused.
  have htaken : ∃ g', Acknowledges g now d payload later status g' := by
    have hdevice := congrArg Command.deviceId hsame.request
    have hepoch := congrArg Command.bindingEpoch hsame.request
    change later.deviceId = first.deviceId at hdevice
    change later.bindingEpoch = first.bindingEpoch at hepoch
    refine ⟨_, hlater, hdevice.trans hfirst.deviceId, ?_, hfirst.named, hfirst.allowed, ?_, rfl⟩
    · rw [hepoch]
      exact hfirst.epoch
    · rw [hstatus]
      rcases hfinal with rfl | rfl | rfl <;> decide
  obtain ⟨left, hleft⟩ := htaken
  have hiff := hleft.same_iff hfinal hstatus
  unfold ReplayHarmless
  constructor
  · intro h
    by_cases hrefused : g.Refuses d expected
    · exact Or.inl hrefused
    · obtain ⟨device, hdevice⟩ := activeDevice_ok_iff.mpr hrefused
      refine Or.inr ?_
      intro command other hcommand hother
      rw [hlater] at hcommand
      obtain rfl := Option.some.inj hcommand
      rw [hfirst.named] at hother
      obtain rfl := Option.some.inj hother
      exact hiff.mp (h _ _ (hleft.taken hdevice))
  · rintro (hrefused | hcarries) updated g' h
    · exact absurd hrefused (activeDevice_ok_iff.mp (acknowledgeCommand_cases h).1)
    · obtain ⟨-, command, other, hother, -⟩ := acknowledgeCommand_cases h
      have hcommand := hother.stored
      rw [hlater] at hcommand
      obtain rfl := Option.some.inj hcommand
      have hnamed := hother.named
      rw [hfirst.named] at hnamed
      obtain rfl := Option.some.inj hnamed
      have heq : g' = left := hother.left.trans hleft.left.symm
      rw [heq]
      exact hiff.mpr (hcarries _ _ hlater hfirst.named)

namespace Sample

open Gateway.Sample

/-- Two starts one after the other; the second one's session is the binding's. -/
def secondStart : List (Choice × Update) :=
  deliver 20 "start_2" (request .sessionStart none none) ++
    [({ now := 21 }, .acknowledgeCommand "device_1" (started "start_2" "session_2") (some 1))]

theorem replayed :
    ∃ g₀ g₁ g g' : ConnectorGateway, ∃ acknowledged updated,
      Trans.exec ConnectorGateway.step FreshIds {}
        (setUp ++ deliver 10 "start_1" (request .sessionStart none none)) = some g₀ ∧
      g₀.acknowledgeCommand 11 "device_1" (started "start_1" "session_1") (some 1) =
        .ok (acknowledged, g₁) ∧
      Trans.exec ConnectorGateway.step FreshIds g₁ secondStart = some g ∧
      g.acknowledgeCommand 30 "device_1" (started "start_1" "session_1") (some 1) =
        .ok (updated, g') ∧
      acknowledged.status = .succeeded ∧
      g.bindingOutcome "start_1" = some (.running, some "session_2", none) ∧
      g'.bindingOutcome "start_1" = some (.running, some "session_1", none) := by
  refine ⟨_, _, _, _, _, _, rfl, rfl, rfl, rfl, ?_⟩
  decide

/-- The acknowledgement of the first start comes again and takes the session back. -/
theorem replay_takes_session_back :
    ∃ g₀ g₁ g g' : ConnectorGateway, ∃ acknowledged updated,
      Trans.Run ConnectorGateway.step FreshIds {} g₀ ∧
      g₀.acknowledgeCommand 11 "device_1" (started "start_1" "session_1") (some 1) =
        .ok (acknowledged, g₁) ∧
      acknowledged.status = .succeeded ∧
      Trans.Run ConnectorGateway.step FreshIds g₁ g ∧
      g.acknowledgeCommand 30 "device_1" (started "start_1" "session_1") (some 1) =
        .ok (updated, g') ∧
      g.bindingOutcome "start_1" = some (.running, some "session_2", none) ∧
      g'.bindingOutcome "start_1" = some (.running, some "session_1", none) := by
  obtain ⟨g₀, g₁, g, g', acknowledged, updated, h₀, hfirst, h₁, hagain, hstatus, hg, hg'⟩ :=
    replayed
  exact ⟨g₀, g₁, g, g', acknowledged, updated, Trans.run_of_exec _ h₀, hfirst, hstatus,
    Trans.run_of_exec _ h₁, hagain, hg, hg'⟩

/-- The second start has overwritten what the first acknowledgement set. -/
theorem second_start_not_harmless :
    ∃ g : ConnectorGateway, Trans.Run ConnectorGateway.step FreshIds {} g ∧
      ¬g.ReplayHarmless "device_1" (started "start_1" "session_1") (some 1) := by
  obtain ⟨g₀, g₁, g, g', acknowledged, updated, h₀, hfirst, h₁, hagain, hstatus, hg, hg'⟩ :=
    replayed
  have hreach := Trans.run_of_exec _ h₀
  have hack : ConnectorGateway.step g₀
      ({ now := 11 }, .acknowledgeCommand "device_1" (started "start_1" "session_1") (some 1)) =
        some g₁ := by
    simp [ConnectorGateway.step, Update.inMemory, Update.apply, hfirst]
  refine ⟨g, (hreach.tail (by exact trivial) hack).trans (Trans.run_of_exec _ h₁), ?_⟩
  intro hharmless
  have hsame := (replay_harmless_iff ⟨rfl, rfl, rfl, rfl⟩ hreach hfirst (Or.inl hstatus)
    (Trans.run_of_exec _ h₁)).mpr hharmless _ _ hagain
  have hbinding := hsame.2
  have hid : (started "start_1" "session_1").commandId = "start_1" := rfl
  rw [hid, hg, hg'] at hbinding
  simp at hbinding

end Sample

end ConnectorGateway

end Arena402.Gateway
