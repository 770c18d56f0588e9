/-
When the dispatcher's call leaves a session start.

A call queues a start, finds an earlier one under the key of the generation, or is refused;
after that it expires what is overdue and delivers.  Each of the three is an equivalence
between what is held after the call and what can be read off the state before it.
-/
import Arena402.Gateway.ArenaDispatcher
import Arena402.Proofs.Gateway.Schema

namespace Arena402.Gateway

open Py ConnectorGateway

variable {g g' : ConnectorGateway} {now : Time} {d : String} {command selected : Command}
  {binding : Binding} {request : CommandRequest} {bindingId : String} {generation : Nat}

/-! ### Delivery -/

/-- A command before and after the loop that delivers. -/
def Command.Delivered (old new : Command) : Prop :=
  new = old ∨ (old.status = .queued ∧ new.request = old.request ∧ new.status = .delivered)

theorem Command.Delivered.refl (command : Command) : command.Delivered command :=
  Or.inl rfl

theorem Command.Delivered.trans {a b c : Command} (h : a.Delivered b) (h' : b.Delivered c) :
    a.Delivered c := by
  rcases h with rfl | ⟨hqueued, hrequest, hstatus⟩
  · exact h'
  · rcases h' with rfl | ⟨hqueued', -, -⟩
    · exact Or.inr ⟨hqueued, hrequest, hstatus⟩
    · rw [hstatus] at hqueued'
      cases hqueued'

/-- Delivery neither opens nor closes a start. -/
theorem Command.Delivered.isOpenStart_iff {a b : Command} (h : a.Delivered b) :
    a.IsOpenStart bindingId generation ↔ b.IsOpenStart bindingId generation := by
  rcases h with rfl | ⟨hqueued, hrequest, hstatus⟩
  · exact Iff.rfl
  · have haction := congrArg Command.action hrequest
    have hbinding := congrArg Command.bindingId hrequest
    have hgeneration := congrArg Command.sessionGeneration hrequest
    change b.action = a.action at haction
    change b.bindingId = a.bindingId at hbinding
    change b.sessionGeneration = a.sessionGeneration at hgeneration
    unfold Command.IsOpenStart
    rw [haction, hbinding, hgeneration, hqueued, hstatus]
    simp

namespace ConnectorGateway

theorem markDelivered_related {websocket : Socket} {gen : Nat} {commandId : String}
    {delivered : Option Command}
    (h : g.markDelivered now d websocket gen commandId = .ok (delivered, g')) :
    Dict.Related Command.Delivered g.commands g'.commands := by
  obtain rfl | ⟨current, hget, hqueued, rfl⟩ := markDelivered_cases h
  · exact .refl Command.Delivered.refl _
  · exact Dict.related_set Command.Delivered.refl _ ⟨current, hget, Or.inr ⟨hqueued, rfl, rfl⟩⟩

theorem deliverCommands_related {websocket : Socket} {gen : Nat} :
    ∀ (queued : List Command) (sends : List Bool) (g : ConnectorGateway),
      Dict.Related Command.Delivered g.commands
        (g.deliverCommands now d websocket gen queued sends).commands := by
  have hrefl : ∀ g : ConnectorGateway, Dict.Related Command.Delivered g.commands g.commands :=
    fun g => .refl Command.Delivered.refl _
  intro queued
  induction queued with
  | nil => exact fun _ g => hrefl g
  | cons command rest ih =>
      intro sends g
      unfold deliverCommands
      cases hreserve : g.reserveCommandSequence d websocket gen command.commandId with
      | error raised => exact hrefl g
      | ok answer =>
          obtain ⟨sequence, reserved⟩ := answer
          have hsame : reserved.commands = g.commands := by
            obtain ⟨-, rfl⟩ | ⟨_, -, -, -, -, rfl⟩ := reserveCommandSequence_cases hreserve
            · rfl
            · rfl
          cases sequence with
          | none =>
              dsimp only
              rw [← hsame]
              exact ih sends reserved
          | some number =>
              rw [← hsame]
              cases sends with
              | nil => exact hrefl reserved
              | cons sent sends =>
                  cases sent with
                  | false => exact hrefl reserved
                  | true =>
                      dsimp only
                      cases hmark : reserved.markDelivered now d websocket gen command.commandId with
                      | error raised => exact hrefl reserved
                      | ok answer =>
                          obtain ⟨delivered, marked⟩ := answer
                          exact .trans (fun _ _ _ => Command.Delivered.trans)
                            (markDelivered_related hmark) (ih sends marked)

/-- After the delivery to a device that is not revoked, what is held are the open starts that
    were not overdue. -/
theorem deliverPending_holds_iff {device : Device} {sends : List Bool}
    (hdevice : g.devices.get d = some device) (hrevoked : device.revokedAt = none) :
    (g.deliverPending now d sends).HoldsStart bindingId generation ↔
      ∃ item ∈ g.commands, item.2.IsOpenStart bindingId generation ∧
        ¬(deliverable d item.2 = true ∧ item.2.expiresAt ≤ now) := by
  have hstarted : ∃ delivery swept, g.startDelivery now d = .ok (delivery, swept) ∧
      swept.commands = g.commands.map fun item =>
        (item.1,
          if deliverable d item.2 = true ∧ item.2.expiresAt ≤ now then
            { item.2 with status := .expired, updatedAt := now }
          else item.2) := by
    have hfound : g.getDevice d = .ok device := by
      unfold getDevice
      rw [hdevice]
    have hactive : ensureNotRevoked device = .ok () := by
      unfold ensureNotRevoked
      rw [hrevoked]
      rfl
    unfold startDelivery
    rw [hfound]
    simp only [bind, Except.bind, hactive]
    exact ⟨_, _, rfl, rfl⟩
  obtain ⟨delivery, swept, hstart, hswept⟩ := hstarted
  have hloop : (g.deliverPending now d sends).HoldsStart bindingId generation ↔
      swept.HoldsStart bindingId generation := by
    unfold deliverPending
    rw [hstart]
    dsimp only
    cases delivery.websocket with
    | none => exact Iff.rfl
    | some websocket =>
        dsimp only
        split_ifs
        · exact ((deliverCommands_related _ _ _).exists_iff
            fun _ _ h => h.isOpenStart_iff).symm
        · exact Iff.rfl
  rw [hloop]
  unfold HoldsStart
  rw [hswept]
  refine (Dict.exists_map_iff _ g.commands fun command =>
    command.IsOpenStart bindingId generation).trans ?_
  refine exists_congr fun item => and_congr_right fun _ => ?_
  dsimp only
  by_cases hover : deliverable d item.2 = true ∧ item.2.expiresAt ≤ now
  · rw [if_pos hover]
    refine iff_of_false ?_ fun h => h.2 hover
    rintro ⟨-, -, -, hnot, -⟩
    exact hnot rfl
  · rw [if_neg hover]
    exact (and_iff_left hover).symm

/-! ### The request -/

/-- Whether a request is accepted. -/
theorem queueCommand_isOk_iff {commandId : String} :
    (∃ answer, g.queueCommand now commandId request = .ok answer) ↔
      g.admits request = true ∧ ∃ selected, g.selectCommand request = .ok selected := by
  unfold queueCommand admits activeDevice
  cases hbinding : g.bindings.get request.bindingId with
  | none => simp
  | some binding =>
      dsimp only
      cases hsession : checkSession binding request with
      | error raised =>
          cases hdevice : g.getDevice binding.deviceId with
          | error other => simp [bind, Except.bind]
          | ok device =>
              cases hrevoked : ensureNotRevoked device with
              | error other => simp [bind, Except.bind, hrevoked]
              | ok u =>
                  simp [bind, Except.bind, ensureConnectionGeneration, pure, Except.pure, hrevoked,
                    Except.toBool]
      | ok u =>
          cases hdevice : g.getDevice binding.deviceId with
          | error other => simp [bind, Except.bind]
          | ok device =>
              cases hrevoked : ensureNotRevoked device with
              | error other => simp [bind, Except.bind, hrevoked]
              | ok u =>
                  cases hruntime : checkRuntime binding
                      (device.runtimes.find? fun item => item.runtimeId == binding.runtimeId)
                      request with
                  | error other =>
                      simp [bind, Except.bind, hrevoked, ensureConnectionGeneration, pure,
                        Except.pure, hruntime, Except.toBool]
                  | ok u =>
                      cases hselect : g.selectCommand request with
                      | error other =>
                          simp [bind, Except.bind, hrevoked, ensureConnectionGeneration, pure,
                            Except.pure, hruntime, Except.toBool]
                      | ok selected =>
                          cases selected <;>
                            simp [bind, Except.bind, hrevoked, ensureConnectionGeneration, pure,
                              Except.pure, hruntime, Except.toBool]

/-- The latest of some commands is one of them. -/
theorem foldl_laterCommand_mem : ∀ (rest : List Command) (first : Command),
    rest.foldl laterCommand first ∈ first :: rest := by
  intro rest
  induction rest with
  | nil => exact fun first => List.mem_singleton_self first
  | cons command rest ih =>
      intro first
      rw [List.foldl_cons]
      have hstep : laterCommand first command = first ∨ laterCommand first command = command := by
        unfold laterCommand
        split_ifs
        · exact Or.inr rfl
        · exact Or.inl rfl
      rcases List.mem_cons.mp (ih (laterCommand first command)) with hhead | htail
      · rw [hhead]
        rcases hstep with heq | heq
        · rw [heq]
          exact List.mem_cons_self
        · rw [heq]
          exact List.mem_cons_of_mem _ List.mem_cons_self
      · exact List.mem_cons_of_mem _ (List.mem_cons_of_mem _ htail)

/-- A command that a request selects is there, under its id. -/
theorem selectCommand_mem (hkeyed : Keyed g) (h : g.selectCommand request = .ok (some selected)) :
    g.commands.get selected.commandId = some selected ∧
      selected.bindingId = request.bindingId := by
  unfold selectCommand at h
  cases hkey : request.idempotencyKey.bind orNone with
  | none => simp [hkey] at h
  | some key =>
      simp only [hkey, commandsOf_eq] at h
      cases hcommands : g.commandsOf request.bindingId key with
      | nil => simp [hcommands] at h
      | cons first rest =>
          rw [hcommands] at h
          dsimp only at h
          have hmem : rest.foldl laterCommand first ∈ g.commandsOf request.bindingId key := by
            rw [hcommands]
            exact foldl_laterCommand_mem rest first
          by_cases hprint :
              (rest.foldl laterCommand first).requestFingerprint = request.requestFingerprint
          · rw [if_pos hprint] at h
            obtain rfl := Option.some.inj (Except.ok.inj h)
            obtain ⟨hvalues, hsame⟩ := List.mem_filter.mp hmem
            obtain ⟨item, hitem, hitem'⟩ := List.mem_map.mp hvalues
            have hid := hkeyed.commandIds item hitem
            rw [hitem'] at hid
            simp only [decide_eq_true_eq] at hsame
            refine ⟨?_, hsame.1⟩
            rw [hid]
            exact Dict.get_of_mem hkeyed.commands (by rw [← hitem']; exact hitem)
          · rw [if_neg hprint] at h
            split_ifs at h
            all_goals cases h

/-- The device of a request that is admitted. -/
theorem device_of_admits (hbinding : g.bindings.get request.bindingId = some binding)
    (h : g.admits request = true) :
    ∃ device, g.devices.get binding.deviceId = some device ∧ device.revokedAt = none := by
  unfold admits at h
  rw [hbinding] at h
  cases hactive : g.activeDevice binding.deviceId none with
  | error raised => simp [hactive] at h
  | ok device => exact ⟨device, activeDevice_ok hactive⟩

/-! ### The three outcomes of the request -/

variable {clock : DispatchClock} {commandId : String} {sends : List Bool}

/-- A request that is refused leaves what is held. -/
theorem queueAndDeliver_refused (h : ¬∃ answer,
    g.queueCommand clock.queuedAt commandId request = .ok answer) :
    g.queueAndDeliver clock commandId request sends = g := by
  unfold queueAndDeliver
  cases hqueue : g.queueCommand clock.queuedAt commandId request with
  | error raised => rfl
  | ok answer => exact absurd ⟨answer, hqueue⟩ h

/-- A command has been marked durable. -/
def withDurable (g : ConnectorGateway) (command : Command) : ConnectorGateway :=
  { g with
    commands := g.commands.set command.commandId { command with durableReady := true } }

/-- The delivery after a command was marked durable. -/
theorem queueAndDeliver_ok {left : ConnectorGateway}
    (hqueue : g.queueCommand clock.queuedAt commandId request = .ok (selected, left))
    (hstored : left.commands.get selected.commandId = some selected) :
    g.queueAndDeliver clock commandId request sends =
      (left.withDurable selected).deliverPending clock.delivered selected.deviceId sends := by
  unfold queueAndDeliver
  rw [hqueue]
  dsimp only
  unfold markDurable
  rw [hstored]
  rfl

/-- An open start of a binding is addressed to the binding's device. -/
theorem openStart_device (howned : Owned g) {item : String × Command} (hitem : item ∈ g.commands)
    (hbinding : g.bindings.get bindingId = some binding)
    (hopen : item.2.IsOpenStart bindingId generation) : item.2.deviceId = binding.deviceId := by
  obtain ⟨owner, howner, hdevice, -⟩ := howned item hitem
  rw [hopen.2.1, hbinding] at howner
  obtain rfl := Option.some.inj howner
  exact hdevice

/-- A request that selects an earlier command. -/
theorem queueAndDeliver_selected (hkeyed : Keyed g) (howned : Owned g)
    (hbinding : g.bindings.get request.bindingId = some binding)
    (hadmits : g.admits request = true)
    (hselect : g.selectCommand request = .ok (some selected)) :
    (g.queueAndDeliver clock commandId request sends).HoldsStart request.bindingId generation ↔
      ∃ item ∈ g.commands, item.2.IsOpenStart request.bindingId generation ∧
        ¬SweptBy item.2 selected clock.delivered := by
  obtain ⟨⟨command, left⟩, hqueue⟩ :
      ∃ answer, g.queueCommand clock.queuedAt commandId request = .ok answer :=
    queueCommand_isOk_iff.mpr ⟨hadmits, _, hselect⟩
  have hsame : command = selected ∧ left = g := by
    rcases queueCommand_cases hqueue with ⟨hfound, hleft⟩ | ⟨_, hqueues, -⟩
    · rw [hselect] at hfound
      exact ⟨(Option.some.inj (Except.ok.inj hfound)).symm, hleft⟩
    · have hnone := hqueues.selected
      rw [hselect] at hnone
      cases hnone
  obtain ⟨rfl, rfl⟩ := hsame
  obtain ⟨hstored, hid⟩ := selectCommand_mem hkeyed hselect
  obtain ⟨device, hdevice, hrevoked⟩ := device_of_admits hbinding hadmits
  have hto : command.deviceId = binding.deviceId := by
    obtain ⟨owner, howner, howns, -⟩ := howned _ (Dict.mem_of_get hstored)
    change left.bindings.get command.bindingId = some owner at howner
    rw [hid, hbinding] at howner
    obtain rfl := Option.some.inj howner
    exact howns
  rw [queueAndDeliver_ok hqueue hstored, hto,
    deliverPending_holds_iff (g := left.withDurable command) hdevice hrevoked]
  refine (Dict.exists_set_iff hkeyed.commands hstored
    (fun stored => { stored with durableReady := true }) fun stored =>
      stored.IsOpenStart request.bindingId generation ∧
        ¬(deliverable binding.deviceId stored = true ∧ stored.expiresAt ≤ clock.delivered)).trans ?_
  refine exists_congr fun item => and_congr_right fun hitem => ?_
  have hkey := hkeyed.commandIds item hitem
  by_cases hselected : item.1 = command.commandId
  · rw [if_pos hselected]
    refine and_congr_right fun hopen => not_congr ?_
    have hdev := openStart_device howned hitem hbinding hopen
    simp [deliverable, SweptBy, hdev, hkey, hselected]
  · rw [if_neg hselected]
    refine and_congr_right fun hopen => not_congr ?_
    have hdev := openStart_device howned hitem hbinding hopen
    simp [deliverable, SweptBy, hdev, hkey, hselected, and_assoc]

/-- A request that adds a command. -/
theorem queueAndDeliver_added (hkeyed : Keyed g) (howned : Owned g)
    (hbinding : g.bindings.get request.bindingId = some binding)
    (hadmits : g.admits request = true) (haction : request.action = .sessionStart)
    (hselect : g.selectCommand request = .ok none) (hfresh : g.commands.get commandId = none) :
    (g.queueAndDeliver clock commandId request sends).HoldsStart request.bindingId
        binding.sessionGeneration ↔
      clock.delivered < clock.queuedAt + request.expiresInSeconds ∨
        ∃ item ∈ g.commands,
          item.2.IsOpenStart request.bindingId binding.sessionGeneration ∧
            ¬(item.2.status = .queued ∧ item.2.durableReady = true ∧
              item.2.expiresAt ≤ clock.delivered) := by
  obtain ⟨⟨command, left⟩, hqueue⟩ :
      ∃ answer, g.queueCommand clock.queuedAt commandId request = .ok answer :=
    queueCommand_isOk_iff.mpr ⟨hadmits, _, hselect⟩
  obtain ⟨device, hdevice, hrevoked⟩ := device_of_admits hbinding hadmits
  rcases queueCommand_cases hqueue with ⟨hfound, -⟩ | ⟨owner, hqueues, hleft⟩
  · rw [hselect] at hfound
    exact absurd hfound (by simp)
  · have howner := hqueues.bound
    rw [hbinding] at howner
    obtain rfl := Option.some.inj howner
    have hid : command.bindingId = request.bindingId :=
      hqueues.bindingId.trans (hkeyed.bindingIds _ (Dict.mem_of_get hbinding))
    obtain rfl := hqueues.id
    have hstored : left.commands.get command.commandId = some command := by
      rw [hleft]
      exact Dict.get_set_self _ _ _
    have hto : (left.withDurable command).devices.get binding.deviceId = some device := by
      rw [hleft]
      exact hdevice
    rw [queueAndDeliver_ok hqueue hstored, hqueues.deviceId, deliverPending_holds_iff hto hrevoked]
    unfold withDurable
    rw [hleft]
    dsimp only
    rw [Dict.set_set, Dict.set_of_get_none _ hfresh]
    simp only [List.mem_append, List.mem_singleton, or_and_right, exists_or, exists_eq_left]
    rw [or_comm]
    refine or_congr ?_ (exists_congr fun item => and_congr_right fun hitem =>
      and_congr_right fun hopen => not_congr ?_)
    · have hopen : ({ command with durableReady := true } : Command).IsOpenStart
          request.bindingId binding.sessionGeneration := by
        unfold Command.IsOpenStart
        simp [hqueues.action, haction, hid, hqueues.generation, hqueues.status]
      rw [and_iff_right hopen]
      simp [deliverable, hqueues.deviceId, hqueues.status, hqueues.expiresAt]
    · have hdev := openStart_device howned hitem hbinding hopen
      simp [deliverable, hdev, and_assoc]

/-- The binding that `list_bindings` shows under an id. -/
theorem find_binding (hkeyed : Keyed g) (hget : g.bindings.get bindingId = some binding) :
    g.bindings.values.find? (fun b => b.bindingId == bindingId) = some binding := by
  have hid := hkeyed.bindingIds _ (Dict.mem_of_get hget)
  have hmem : binding ∈ g.bindings.values := List.mem_map_of_mem (Dict.mem_of_get hget)
  cases hfind : g.bindings.values.find? fun b => b.bindingId == bindingId with
  | none => exact absurd hid (by simpa using List.find?_eq_none.mp hfind binding hmem)
  | some found =>
      have hsame : found.bindingId = bindingId := by simpa using List.find?_some hfind
      obtain ⟨item, hitem, rfl⟩ := List.mem_map.mp (List.mem_of_find?_eq_some hfind)
      have hkey := hkeyed.bindingIds item hitem
      have hfound : g.bindings.get item.1 = some item.2 := Dict.get_of_mem hkeyed.bindings hitem
      rw [← hkey, hsame, hget] at hfound
      exact hfound.symm

/-- Before the deadline a new start is overdue only after its longest time. -/
theorem expiresIn_reaches {asked queuedAt delivered deadline : Nat} (hasked : asked ≤ queuedAt)
    (hqueued : queuedAt ≤ delivered) (hdeadline : delivered < deadline) :
    delivered < queuedAt + expiresIn (deadline - asked) ↔ delivered < queuedAt + 3600 := by
  unfold expiresIn
  omega

/-- **After a dispatcher's call before the deadline the gateway holds an open start of the
    current generation exactly when one is possible.** -/
theorem start_held_iff {start : ConnectorGateway} {claim : TaskClaim}
    (fingerprint : CommandAction → DispatchPayload → String) (hnew : start.IsNew)
    (hreach : Trans.Run ConnectorGateway.step FreshIds start g)
    (hbinding : g.bindings.get claim.connectorBindingId = some binding)
    (hepoch : binding.bindingEpoch = claim.connectorBindingEpoch)
    (hdirectory : binding.directory ≠ "") (hsession : binding.lastSessionId.bind orNone = none)
    (hclock : clock.asked ≤ clock.queuedAt ∧ clock.queuedAt ≤ clock.delivered)
    (hdeadline : clock.delivered < claim.deadlineAt) (hfresh : g.commands.get commandId = none) :
    (dispatchClaim fingerprint g clock commandId sends claim).HoldsStart claim.connectorBindingId
        binding.sessionGeneration ↔
      g.StartPossible clock binding (startRequest fingerprint claim binding clock.asked) := by
  have hkeyed := keyed_of_run hnew hreach
  have howned := owned_of_run hnew hreach
  have hid : binding.bindingId = claim.connectorBindingId :=
    hkeyed.bindingIds _ (Dict.mem_of_get hbinding)
  have hrequest : g.bindings.get (startRequest fingerprint claim binding clock.asked).bindingId =
      some binding := hbinding
  have hexpires : clock.delivered < clock.queuedAt + expiresIn (claim.deadlineAt - clock.asked) ↔
      clock.delivered < clock.queuedAt + 3600 :=
    expiresIn_reaches hclock.1 hclock.2 hdeadline
  have hbefore : ¬claim.deadlineAt ≤ clock.asked :=
    not_le.mpr (lt_of_le_of_lt (hclock.1.trans hclock.2) hdeadline)
  unfold dispatchClaim StartPossible
  rw [find_binding hkeyed hbinding]
  dsimp only
  rw [if_neg (not_not.mpr hepoch), hsession]
  dsimp only
  rw [if_neg hdirectory, if_neg hbefore, hid]
  by_cases hlong : 2048 < binding.directory.length
  · rw [if_pos hlong, if_neg fun h => absurd h.2 (by omega)]
  · rw [if_neg hlong]
    by_cases hadmits : g.admits (startRequest fingerprint claim binding clock.asked) = true
    · rw [if_pos ⟨hadmits, by omega⟩]
      cases hselect : g.selectCommand (startRequest fingerprint claim binding clock.asked) with
      | error raised =>
          dsimp only
          rw [queueAndDeliver_refused]
          rw [queueCommand_isOk_iff]
          rintro ⟨-, selected, hselected⟩
          rw [hselect] at hselected
          cases hselected
      | ok selected =>
          cases selected with
          | none =>
              dsimp only
              rw [← hexpires]
              exact queueAndDeliver_added hkeyed howned hrequest hadmits rfl hselect hfresh
          | some selected =>
              exact queueAndDeliver_selected hkeyed howned hrequest hadmits hselect
    · rw [if_neg fun h => hadmits h.1, queueAndDeliver_refused]
      rw [queueCommand_isOk_iff]
      exact fun h => hadmits h.1

namespace Sample

open Gateway.Sample

/-- A fingerprint that shows the whole payload. -/
def fingerprint (action : CommandAction) : DispatchPayload → String
  | .sessionStart workingDirectory => actionValue action ++ workingDirectory
  | .taskDispatch sessionId taskId => actionValue action ++ sessionId ++ taskId

/-- A task of the binding, due at a time. -/
def task (deadlineAt : Time) : TaskClaim where
  connectorBindingId := "binding_1"
  connectorBindingEpoch := 1
  taskId := "task_1"
  idempotencyKey := "turn_1"
  deadlineAt

/-- The binding as `create_binding` leaves it. -/
def bound : Binding where
  bindingId := "binding_1"
  deviceId := "device_1"
  runtimeId := "codex"
  agentId := "agent_1"
  workingDirectory := some "/work"
  bindingEpoch := 1
  createdAt := 5
  updatedAt := 5

def moment (now : Time) : DispatchClock := ⟨now, now, now⟩

/-- The start that an earlier task has asked for has not been delivered. -/
def waiting : List (Choice × Update) :=
  setUp ++
    [({ now := 10, draws := ["start_1"] },
        .queueCommand (startRequest fingerprint (task 40) bound 10)),
      ({ now := 10 }, .markDurable "start_1")]

/-- The first call of a generation leaves a start. -/
theorem first_start_held :
    ∃ g : ConnectorGateway, Trans.Run ConnectorGateway.step FreshIds {} g ∧
      (dispatchClaim fingerprint g (moment 10) "start_1" [] (task 40)).HoldsStart "binding_1" 0 := by
  have hruns : ∃ g : ConnectorGateway,
      Trans.exec ConnectorGateway.step FreshIds {} setUp = some g ∧
        g.bindings.get "binding_1" = some bound ∧ g.commands.get "start_1" = none ∧
        g.StartPossible (moment 10) bound (startRequest fingerprint (task 40) bound 10) := by
    refine ⟨_, rfl, ?_⟩
    decide
  obtain ⟨g, hrun, hbinding, hfresh, hpossible⟩ := hruns
  have hreach := Trans.run_of_exec _ hrun
  have hheld : (dispatchClaim fingerprint g (moment 10) "start_1" [] (task 40)).HoldsStart
      "binding_1" 0 ↔ g.StartPossible (moment 10) bound (startRequest fingerprint (task 40) bound 10) :=
    start_held_iff fingerprint ⟨rfl, rfl, rfl, rfl⟩ hreach hbinding rfl (show bound.directory ≠ "" by decide)
      rfl ⟨le_rfl, le_rfl⟩ (show (10 : Time) < 40 by decide) hfresh
  exact ⟨g, hreach, hheld.mpr hpossible⟩

/-- After the first start has expired no call leaves another one. -/
theorem expired_start_blocks :
    ∃ g : ConnectorGateway, Trans.Run ConnectorGateway.step FreshIds {} g ∧
      g.bindings.get "binding_1" = some bound ∧
      (∃ device, g.devices.get "device_1" = some device ∧ device.revokedAt = none ∧
        codex ∈ device.runtimes) ∧
      ¬(dispatchClaim fingerprint g (moment 50) "start_2" [] (task 100)).HoldsStart "binding_1" 0 := by
  have hruns : ∃ g : ConnectorGateway,
      Trans.exec ConnectorGateway.step FreshIds {} waiting = some g ∧
        g.bindings.get "binding_1" = some bound ∧
        (∃ device, g.devices.get "device_1" = some device ∧ device.revokedAt = none ∧
          codex ∈ device.runtimes) ∧
        ¬(dispatchClaim fingerprint g (moment 50) "start_2" [] (task 100)).HoldsStart
          "binding_1" 0 := by
    refine ⟨_, rfl, ?_, ⟨_, rfl, ?_⟩, ?_⟩
    · decide
    · decide
    · decide
  obtain ⟨g, hrun, hrest⟩ := hruns
  exact ⟨g, Trans.run_of_exec _ hrun, hrest⟩

end Sample

end ConnectorGateway

end Arena402.Gateway
