/-
The outbound sequence of a device.

A sender holds the send lock of its device from the reservation of a number to the write
of its frame.  While it does, nobody else sends to the device or saves a number for it, so
the number it reserved stays above every number sent before.  Memory and repository can
only fall behind a sent number when a whole record is written back from an older copy:
`FreshRecords` is the step condition that no write-back lowers the sequence it overwrites,
and under it the counters never fall behind.
-/
import Arena402.Proofs.Gateway.Memory
import Arena402.Proofs.Gateway.Repository
import Arena402.Proofs.Gateway.Coroutines

namespace Arena402.Gateway

open Py Async

/-- The numbers of the frames sent to a device, in the order they were sent. -/
def World.sentSequences (w : World) (d : String) : List Nat :=
  w.sent.filterMap fun sent => if sent.deviceId = d then sent.frame.sequence? else none

/-- The outbound sequence of a device among these records is at least `n`. -/
def Reaches (devices : Dict String Device) (d : String) (n : Nat) : Prop :=
  ∃ device, devices.get d = some device ∧ n ≤ device.outboundSequence

/-- No record of `devices` has a higher outbound sequence than the one that takes its place. -/
def NotBelow (devices : Dict String Device) (d : String) (device : Device) : Prop :=
  ∀ old, devices.get d = some old → old.outboundSequence ≤ device.outboundSequence

/-- A step writes back no record that is older, in its outbound sequence, than the one it
    overwrites: neither from the repository to memory nor from memory to the repository.
    A new device's id is new. -/
def FreshRecords (w : World) (c : Choice) (_task : Nat) (a : Act) : Prop :=
  let memory := (w.gateways a.instanceId).devices
  match a.call with
  | .update (.installInitial state _) =>
      ∀ d old, memory.get d = some old →
        ∃ row, state.devices.get d = some row ∧ old.outboundSequence ≤ row.outboundSequence
  | .update (.installDevice shared) => NotBelow memory shared.deviceId shared
  | .update (.installDeviceState d shared _) => NotBelow memory d shared
  | .update (.installDevices shared) => ∀ row ∈ shared, NotBelow memory row.deviceId row
  | .update (.exchangePairing _) => memory.get (c.draw 0) = none
  | .saveGatewayState state =>
      ∀ row ∈ state.devices, NotBelow w.repository.devices row.deviceId row
  | .releaseAndSaveDevice d _ device => NotBelow w.repository.devices d device
  | _ => True

instance decidableNotBelow (devices : Dict String Device) (d : String) (device : Device) :
    Decidable (NotBelow devices d device) :=
  inferInstanceAs (Decidable (∀ old ∈ devices.get d, old.outboundSequence ≤ device.outboundSequence))

/-- Only the records there are have to be looked at. -/
theorem forall_get_iff {devices : Dict String Device} {P : String → Device → Prop} :
    (∀ d ∈ devices.keys, ∀ old ∈ devices.get d, P d old) ↔
      ∀ d old, devices.get d = some old → P d old := by
  constructor
  · intro h d old hget
    refine h d (Dict.mem_keys_iff.mpr ?_) old hget
    rw [hget]
    rfl
  · exact fun h d _ old hold => h d old hold

instance decidableFreshRecords (w : World) (c : Choice) (task : Nat) (a : Act) :
    Decidable (FreshRecords w c task a) := by
  obtain ⟨instanceId, call⟩ := a
  induction call using Call.casesOn with
  | update u =>
      induction u using Update.casesOn with
      | installInitial state active =>
          exact decidable_of_iff
            (∀ d ∈ (w.gateways instanceId).devices.keys,
              ∀ old ∈ (w.gateways instanceId).devices.get d,
                ∃ row ∈ state.devices.get d, old.outboundSequence ≤ row.outboundSequence)
            forall_get_iff
      | installDevice _ | installDeviceState _ _ _ => exact decidableNotBelow _ _ _
      | installDevices shared => exact List.decidableBAll _ _
      | exchangePairing codeHash =>
          exact inferInstanceAs (Decidable ((w.gateways instanceId).devices.get (c.draw 0) = none))
      | _ => exact .isTrue trivial
  | saveGatewayState state => exact List.decidableBAll _ _
  | releaseAndSaveDevice d token device => exact decidableNotBelow _ _ _
  | _ => exact .isTrue trivial

/-- The numbers sent so far are increasing, and neither counter is behind them. -/
structure Counted (host : String) (w : World) : Prop where
  increasing : ∀ d, (w.sentSequences d).Pairwise (· < ·)
  memory : ∀ d n, n ∈ w.sentSequences d → Reaches (w.gateways host).devices d n
  repository : ∀ d n, n ∈ w.sentSequences d → Reaches w.repository.devices d n

/-- What the others leave to a coroutine: memory counts forwards, and while it holds the send
    lock of a device, nobody else sends to the device or counts its record back. -/
structure SenderRely (host : String) (task : Nat) (w w' : World) : Prop where
  memory : ∀ d n, Reaches (w.gateways host).devices d n → Reaches (w'.gateways host).devices d n
  lock : ∀ d, (w.gateways host).locks.get (.send d) = some task →
    (w'.gateways host).locks.get (.send d) = some task ∧
      w'.sentSequences d = w.sentSequences d ∧
      ∀ n, Reaches w.repository.devices d n → Reaches w'.repository.devices d n

def senders (host : String) : Discipline World where
  inv := Counted host
  rely := SenderRely host
  refl := fun _ _ => ⟨fun _ _ h => h, fun _ h => ⟨h, rfl, fun _ hn => hn⟩⟩
  trans := by
    intro task w₁ w₂ w₃ h₁₂ h₂₃
    refine ⟨fun d n h => h₂₃.memory d n (h₁₂.memory d n h), ?_⟩
    intro d hlock
    obtain ⟨hlock₂, hsent₂, hstored₂⟩ := h₁₂.lock d hlock
    obtain ⟨hlock₃, hsent₃, hstored₃⟩ := h₂₃.lock d hlock₂
    exact ⟨hlock₃, hsent₃.trans hsent₂, fun n hn => hstored₃ n (hstored₂ n hn)⟩

/-! ### Records that count forwards -/

section Records

variable {old new : Dict String Device} {d x : String} {n : Nat} {device : Device}

theorem DevicesGrown.reaches (h : DevicesGrown old new) (hn : Reaches old d n) :
    Reaches new d n := by
  obtain ⟨stored, hget, hle⟩ := hn
  have hd := h d
  rw [hget] at hd
  generalize hnew : new.get d = after at hd
  cases hd with
  | some hgrown => exact ⟨_, hnew, hle.trans hgrown.sequence⟩

/-- A record that is not below the one it replaces leaves every counter where it was or
    moves it forwards. -/
theorem NotBelow.reaches_set (h : NotBelow old d device) (hn : Reaches old x n) :
    Reaches (old.set d device) x n := by
  obtain ⟨stored, hget, hle⟩ := hn
  by_cases hx : x = d
  · subst hx
    exact ⟨device, Dict.get_set_self _ _ _, hle.trans (h stored hget)⟩
  · refine ⟨stored, ?_, hle⟩
    rw [Dict.get_set_ne _ _ hx]
    exact hget

theorem NotBelow.le_of_reaches (h : NotBelow old x device) (hn : Reaches old x n) :
    n ≤ device.outboundSequence := by
  obtain ⟨stored, hget, hle⟩ := hn
  exact hle.trans (h stored hget)

theorem reaches_upsert : ∀ (rows : List Device) {devices : Dict String Device},
    (∀ row ∈ rows, row.deviceId = x → n ≤ row.outboundSequence) → Reaches devices x n →
      Reaches (upsert Device.deviceId devices rows) x n := by
  intro rows
  induction rows with
  | nil => exact fun _ h => h
  | cons row rest ih =>
      intro devices hrows hn
      obtain ⟨stored, hget, hle⟩ := hn
      have hset : Reaches (devices.set row.deviceId row) x n := by
        by_cases hx : x = row.deviceId
        · exact ⟨row, by rw [hx, Dict.get_set_self], hrows row List.mem_cons_self hx.symm⟩
        · exact ⟨stored, by rw [Dict.get_set_ne _ _ hx, hget], hle⟩
      exact ih (fun item hitem => hrows item (List.mem_cons_of_mem _ hitem)) hset

/-- Rows none of which is below the stored one leave every counter where it was or move it
    forwards. -/
theorem reaches_upsert_of_notBelow {rows : List Device}
    (h : ∀ row ∈ rows, NotBelow old row.deviceId row) (hn : Reaches old x n) :
    Reaches (upsert Device.deviceId old rows) x n := by
  refine reaches_upsert rows ?_ hn
  rintro row hmem rfl
  exact (h row hmem).le_of_reaches hn

end Records

/-! ### Blocks of memory -/

section Blocks

variable {g g' : ConnectorGateway} {w : World} {c : Choice} {task : Nat} {host d x : String}
  {n : Nat}

theorem installDevices_reaches : ∀ (rows : List Device) {g : ConnectorGateway},
    (∀ row ∈ rows, row.deviceId = x → n ≤ row.outboundSequence) → Reaches g.devices x n →
      Reaches (g.installDevices rows).devices x n := by
  intro rows
  induction rows with
  | nil => exact fun _ h => h
  | cons row rest ih =>
      intro g hrows hn
      refine ih (fun item hitem => hrows item (List.mem_cons_of_mem _ hitem)) ?_
      have hkept := (ConnectorGateway.keepGeneration_grown (g := g) row).sequence
      obtain ⟨stored, hget, hle⟩ := hn
      by_cases hx : x = row.deviceId
      · exact ⟨_, by rw [hx, Dict.get_set_self],
          (hrows row List.mem_cons_self hx.symm).trans hkept⟩
      · exact ⟨stored, by rw [Dict.get_set_ne _ _ hx, hget], hle⟩

theorem installDevices_locks : ∀ (rows : List Device) (g : ConnectorGateway),
    (g.installDevices rows).locks = g.locks := by
  intro rows
  induction rows with
  | nil => exact fun _ => rfl
  | cons row rest ih => exact fun g => ih _

/-- No block counts memory back, and none touches a lock. -/
theorem Update.apply_reaches {u : Update} {reply : u.Reply}
    (hfresh : FreshRecords w c task ⟨host, .update u⟩)
    (h : u.apply (w.gateways host) c = .ok (reply, g')) :
    (∀ x n, Reaches (w.gateways host).devices x n → Reaches g'.devices x n) ∧
      g'.locks = (w.gateways host).locks := by
  by_cases hroutine : u.Routine
  · have hkept := hroutine.kept h
    exact ⟨fun x n => hkept.devices.reaches, hkept.locks⟩
  · cases u with
    | installInitial state active =>
        obtain ⟨-, rfl⟩ := Prod.mk.inj (Except.ok.inj h)
        refine ⟨?_, rfl⟩
        intro x n hn
        obtain ⟨stored, hget, hle⟩ := hn
        obtain ⟨row, hrow, hseq⟩ := hfresh x stored hget
        exact (ConnectorGateway.installInitial_grown state active).reaches
          ⟨row, hrow, hle.trans hseq⟩
    | exchangePairing codeHash =>
        have hexchange : (w.gateways host).exchangePairing c.now codeHash (c.draw 0) (c.draw 1) =
            (reply, g') := Except.ok.inj h
        obtain ⟨hlocks, -, -, -, -, hdevices⟩ := ConnectorGateway.exchangePairing_cases hexchange
        refine ⟨?_, hlocks⟩
        intro x n hn
        obtain heq | ⟨device, -, -, -, heq⟩ := hdevices
        · rw [heq]
          exact hn
        · rw [heq]
          have hnew : NotBelow (w.gateways host).devices (c.draw 0) device := by
            intro old hold
            rw [show (w.gateways host).devices.get (c.draw 0) = none from hfresh] at hold
            cases hold
          exact hnew.reaches_set hn
    | installDevice shared =>
        obtain ⟨-, rfl⟩ := Prod.mk.inj (Except.ok.inj h)
        exact ⟨fun x n => NotBelow.reaches_set hfresh, rfl⟩
    | installDeviceState deviceId shared state =>
        obtain ⟨-, rfl⟩ := Prod.mk.inj (Except.ok.inj h)
        refine ⟨?_, rfl⟩
        intro x n hn
        refine ConnectorGateway.rebuildEventWatermarks_grown.reaches (NotBelow.reaches_set ?_ hn)
        intro old hold
        exact (hfresh old hold).trans
          (ConnectorGateway.keepGeneration_grown (g := w.gateways host) shared).sequence
    | installDevices shared =>
        obtain ⟨-, rfl⟩ := Prod.mk.inj (Except.ok.inj h)
        refine ⟨?_, installDevices_locks shared _⟩
        intro x n hn
        refine installDevices_reaches shared ?_ hn
        rintro row hmem rfl
        exact (hfresh row hmem).le_of_reaches hn
    | connect deviceId websocket =>
        obtain ⟨-, hdevices, hlocks, -⟩ := ConnectorGateway.connectDevice_cases h
        exact ⟨fun x n => hdevices.reaches, hlocks⟩
    | revokeDevice deviceId ownerId =>
        obtain ⟨device, hget, hcases⟩ := ConnectorGateway.revokeDevice_cases h
        obtain ⟨-, rfl⟩ | ⟨-, bindings, rfl⟩ := hcases
        · exact ⟨fun x n hn => hn, rfl⟩
        · refine ⟨fun x n => NotBelow.reaches_set ?_, rfl⟩
          intro old hold
          rw [hget] at hold
          obtain rfl := Option.some.inj hold
          exact le_rfl
    | _ => exact absurd trivial hroutine

end Blocks

/-! ### Actions -/

section Actions

variable {w w' : World} {host d : String} {task : Nat} {c : Choice}

/-- A step that takes no counter back and sends no number. -/
theorem Counted.step (h : Counted host w)
    (hmemory : ∀ d n, Reaches (w.gateways host).devices d n →
      Reaches (w'.gateways host).devices d n)
    (hrepository : ∀ d n, Reaches w.repository.devices d n → Reaches w'.repository.devices d n)
    (hsent : ∀ d, w'.sentSequences d = w.sentSequences d) : Counted host w' := by
  refine ⟨?_, ?_, ?_⟩
  · intro d
    rw [hsent]
    exact h.increasing d
  · intro d n hn
    rw [hsent] at hn
    exact hmemory d n (h.memory d n hn)
  · intro d n hn
    rw [hsent] at hn
    exact hrepository d n (h.repository d n hn)

/-- A step that takes no counter back, sends no number and takes no lock away. -/
theorem Counted.quiet_step (h : Counted host w)
    (hmemory : ∀ d n, Reaches (w.gateways host).devices d n →
      Reaches (w'.gateways host).devices d n)
    (hrepository : ∀ d n, Reaches w.repository.devices d n → Reaches w'.repository.devices d n)
    (hsent : ∀ d, w'.sentSequences d = w.sentSequences d)
    (hlocks : ∀ other d, (w.gateways host).locks.get (.send d) = some other →
      (w'.gateways host).locks.get (.send d) = some other) :
    Counted host w' ∧ ∀ other, SenderRely host other w w' :=
  ⟨h.step hmemory hrepository hsent, fun other =>
    ⟨hmemory, fun d hlock => ⟨hlocks other d hlock, hsent d, hrepository d⟩⟩⟩

/-- A step that only writes the repository. -/
theorem Counted.repository_step {r : Repository} (h : Counted host w)
    (hrepository : ∀ d n, Reaches w.repository.devices d n → Reaches r.devices d n) :
    Counted host { w with repository := r } ∧
      ∀ other, SenderRely host other w { w with repository := r } :=
  h.quiet_step (fun _ _ hn => hn) hrepository (fun _ => rfl) fun _ _ hlock => hlock

theorem Counted.unchanged (h : Counted host w) :
    Counted host w ∧ ∀ other, SenderRely host other w w :=
  ⟨h, fun other => (senders host).refl other w⟩

/-- A step that only writes the memory of the instance. -/
theorem Counted.gateway_step {g : ConnectorGateway} (h : Counted host w)
    (hmemory : ∀ d n, Reaches (w.gateways host).devices d n → Reaches g.devices d n)
    (hlocks : ∀ other d, (w.gateways host).locks.get (.send d) = some other →
      g.locks.get (.send d) = some other) :
    Counted host (w.setGateway host g) ∧
      ∀ other, SenderRely host other w (w.setGateway host g) := by
  have hg : (w.setGateway host g).gateways host = g := World.gateways_setGateway_self w host g
  refine h.quiet_step ?_ (fun _ _ hn => hn) (fun _ => rfl) ?_
  · rw [hg]
    exact hmemory
  · rw [hg]
    exact hlocks

/-- A write of the repository that leaves the device records. -/
theorem Counted.write_step {α : Type} {result : α × Repository} {reply : Except Error α}
    (h : Counted host w)
    (hdevices : ∀ d n, Reaches w.repository.devices d n → Reaches result.2.devices d n)
    (hrun : w.write c result = some (w', reply)) :
    Counted host w' ∧ ∀ other, SenderRely host other w w' := by
  unfold World.write at hrun
  by_cases hfails : c.fails = true
  · rw [if_pos hfails] at hrun
    obtain ⟨rfl, -⟩ := Prod.mk.inj (Option.some.inj hrun)
    exact h.unchanged
  · rw [if_neg hfails] at hrun
    obtain ⟨rfl, -⟩ := Prod.mk.inj (Option.some.inj hrun)
    exact h.repository_step hdevices

theorem Counted.read_step {α : Type} {value : α} {reply : Except Error α} (h : Counted host w)
    (hrun : w.read c value = some (w', reply)) :
    Counted host w' ∧ ∀ other, SenderRely host other w w' := by
  obtain ⟨rfl, -⟩ := Prod.mk.inj (Option.some.inj hrun)
  exact h.unchanged

/-- The actions after which every other coroutine, and this one, still has its locks. -/
def KeepsSendLocks (call : Call) : Prop :=
  ∀ d, call ≠ .unlock (.send d)

theorem plain_quiet {call : Call} (hplain : call.Plain) (hkeeps : KeepsSendLocks call) :
    Quiet World.perform FreshRecords (senders host) ⟨host, call⟩ := by
  intro task w c w' reply hinv hok hrun
  cases call with
  | loadGatewayState | hasActiveDeviceConnection | getDevice | loadDeviceRuntimeState
  | listDevices | listBindings | getBinding | getCommandByIdempotencyKey
  | listQueuedCommandRoutes | isOwner => exact hinv.read_step hrun
  | claim => exact hinv.write_step (fun _ _ hn => hn) hrun
  | renew => exact hinv.write_step (fun _ _ hn => by rwa [Repository.renew_devices]) hrun
  | release => exact hinv.write_step (fun _ _ hn => by rwa [Repository.release_devices]) hrun
  | saveCommand =>
      exact hinv.write_step (fun _ _ hn => by rwa [Repository.saveCommand_devices]) hrun
  | releaseAndSaveDevice deviceId token device =>
      refine hinv.write_step ?_ hrun
      intro d n hn
      obtain heq | heq :=
        w.repository.releaseAndSave_devices c.now deviceId host token device
      · rwa [heq]
      · rw [heq]
        obtain hsame | ⟨hset, -⟩ :=
          Repository.saveUnlessRevoked_cases w.repository.devices deviceId device
        · rwa [hsame]
        · rw [hset]
          exact NotBelow.reaches_set hok hn
  | saveGatewayState state =>
      simp only [World.perform] at hrun
      by_cases hfails : c.fails = true
      · rw [if_pos hfails] at hrun
        obtain ⟨rfl, -⟩ := Prod.mk.inj (Option.some.inj hrun)
        exact hinv.unchanged
      · rw [if_neg hfails] at hrun
        cases hsave : w.repository.saveGatewayState c.now state with
        | none =>
            rw [hsave] at hrun
            obtain ⟨rfl, -⟩ := Prod.mk.inj (Option.some.inj hrun)
            exact hinv.unchanged
        | some stored =>
            rw [hsave] at hrun
            obtain ⟨rfl, -⟩ := Prod.mk.inj (Option.some.inj hrun)
            refine hinv.repository_step ?_
            intro d n hn
            rw [Repository.saveGatewayState_eq hsave]
            exact reaches_upsert_of_notBelow hok hn
  | saveOutboundSequence => exact hplain.elim
  | send deviceId websocket frame =>
      simp only [World.perform] at hrun
      by_cases hfails : c.fails = true
      · rw [if_pos hfails] at hrun
        obtain ⟨rfl, -⟩ := Prod.mk.inj (Option.some.inj hrun)
        exact hinv.unchanged
      · rw [if_neg hfails] at hrun
        obtain ⟨rfl, -⟩ := Prod.mk.inj (Option.some.inj hrun)
        refine hinv.quiet_step (fun _ _ hn => hn) (fun _ _ hn => hn) ?_ fun _ _ hlock => hlock
        intro d
        have hframe : frame.sequence? = none := hplain
        simp [World.sentSequences, hframe]
  | close | submitToSink =>
      obtain ⟨rfl, -⟩ := Prod.mk.inj (Option.some.inj hrun)
      exact hinv.unchanged
  | acquire lock =>
      simp only [World.perform] at hrun
      by_cases hheld : ((w.gateways host).locks.get lock).isSome = true
      · rw [if_pos hheld] at hrun
        cases hrun
      · rw [if_neg hheld] at hrun
        obtain ⟨rfl, -⟩ := Prod.mk.inj (Option.some.inj hrun)
        refine hinv.gateway_step (fun _ _ hn => hn) ?_
        intro other d hlock
        have hne : Lock.send d ≠ lock := by
          rintro rfl
          rw [hlock] at hheld
          exact hheld rfl
        rw [Dict.get_set_ne _ _ hne]
        exact hlock
  | unlock lock =>
      simp only [World.perform] at hrun
      by_cases hmine : (w.gateways host).locks.get lock = some task
      · rw [if_pos hmine] at hrun
        obtain ⟨rfl, -⟩ := Prod.mk.inj (Option.some.inj hrun)
        refine hinv.gateway_step (fun _ _ hn => hn) ?_
        intro other d hlock
        have hne : Lock.send d ≠ lock := by
          rintro rfl
          exact hkeeps d rfl
        rw [Dict.get_erase, if_neg hne]
        exact hlock
      · rw [if_neg hmine] at hrun
        obtain ⟨rfl, -⟩ := Prod.mk.inj (Option.some.inj hrun)
        exact hinv.unchanged
  | query q =>
      obtain ⟨rfl, -⟩ := Prod.mk.inj (Option.some.inj hrun)
      exact hinv.unchanged
  | update u =>
      simp only [World.perform] at hrun
      cases happly : u.apply (w.gateways host) c with
      | error error =>
          rw [happly] at hrun
          obtain ⟨rfl, -⟩ := Prod.mk.inj (Option.some.inj hrun)
          exact hinv.unchanged
      | ok result =>
          rw [happly] at hrun
          obtain ⟨rfl, -⟩ := Prod.mk.inj (Option.some.inj hrun)
          obtain ⟨hreaches, hlocks⟩ := Update.apply_reaches hok happly
          refine hinv.gateway_step hreaches ?_
          intro other d hlock
          rw [hlocks]
          exact hlock

/-- Giving a send lock back harms nobody else. -/
theorem plain_harmless {call : Call} (hplain : call.Plain) :
    Harmless World.perform FreshRecords (senders host) ⟨host, call⟩ := by
  by_cases hkeeps : KeepsSendLocks call
  · exact (plain_quiet hplain hkeeps).harmless
  · obtain ⟨d, hcall⟩ := not_forall.mp hkeeps
    obtain rfl := not_not.mp hcall
    intro task w c w' reply hinv hok hrun
    simp only [World.perform] at hrun
    by_cases hmine : (w.gateways host).locks.get (.send d) = some task
    · rw [if_pos hmine] at hrun
      obtain ⟨rfl, -⟩ := Prod.mk.inj (Option.some.inj hrun)
      have hg := World.gateways_setGateway_self w host
        { w.gateways host with locks := (w.gateways host).locks.erase (.send d) }
      refine ⟨hinv.step ?_ (fun _ _ hn => hn) fun _ => rfl, ?_⟩
      · intro x n hn
        rw [hg]
        exact hn
      · intro other hother
        refine ⟨?_, ?_⟩
        · intro x n hn
          rw [hg]
          exact hn
        · intro x hlock
          have hne : Lock.send x ≠ .send d := by
            rintro hc
            rw [hc, hmine] at hlock
            exact hother (Option.some.inj hlock).symm
          refine ⟨?_, rfl, fun _ hn => hn⟩
          rw [hg]
          dsimp only
          rw [Dict.get_erase, if_neg hne]
          exact hlock
    · rw [if_neg hmine] at hrun
      obtain ⟨rfl, -⟩ := Prod.mk.inj (Option.some.inj hrun)
      exact ⟨hinv, fun other _ => (senders host).refl other w⟩

end Actions

/-! ### Senders -/

section Senders

variable {host d : String} {task : Nat} {w w' : World} {n : Nat} {α : Type}

/-- The coroutine holds the send lock of the device. -/
def Holding (host : String) (task : Nat) (d : String) (w : World) : Prop :=
  (w.gateways host).locks.get (.send d) = some task

/-- It has reserved `n`: nothing sent so far has that number or a higher one. -/
structure Reserved (host : String) (task : Nat) (d : String) (n : Nat) (w : World) : Prop where
  holding : Holding host task d w
  memory : Reaches (w.gateways host).devices d n
  unsent : ∀ m ∈ w.sentSequences d, m < n

/-- And the repository has counted it. -/
structure Prepared (host : String) (task : Nat) (d : String) (n : Nat) (w : World) : Prop
    extends Reserved host task d n w where
  repository : Reaches w.repository.devices d n

theorem Holding.stable (h : Holding host task d w) (hrely : SenderRely host task w w') :
    Holding host task d w' :=
  (hrely.lock d h).1

theorem Reserved.stable (h : Reserved host task d n w) (hrely : SenderRely host task w w') :
    Reserved host task d n w' := by
  obtain ⟨hlock, hsent, -⟩ := hrely.lock d h.holding
  refine ⟨hlock, hrely.memory d n h.memory, ?_⟩
  rw [hsent]
  exact h.unsent

theorem Prepared.stable (h : Prepared host task d n w) (hrely : SenderRely host task w w') :
    Prepared host task d n w' :=
  ⟨h.toReserved.stable hrely, (hrely.lock d h.holding).2.2 n h.repository⟩

/-- The discipline of the senders, for one coroutine. -/
abbrev SafeSender (host : String) (task : Nat) (post : α → World → Prop)
    (exc : Error → World → Prop) (x : Coroutine α) (w : World) : Prop :=
  Wp World.perform FreshRecords (senders host) task post exc x w

/-- The plain actions of the instance that keep every send lock. -/
def Undisturbing (host : String) (act : Act) : Prop :=
  act.instanceId = host ∧ act.call.Plain ∧ ∀ lock, act.call ≠ .unlock lock

theorem undisturbing_quiet : ∀ act, Undisturbing host act →
    Quiet World.perform FreshRecords (senders host) act := by
  rintro ⟨_, call⟩ ⟨rfl, hplain, hunlock⟩
  exact plain_quiet hplain fun d => hunlock (.send d)

theorem undisturbing_call : ∀ call : Call, call.Plain → (∀ lock, call ≠ .unlock lock) →
    Undisturbing host ⟨host, call⟩ :=
  fun _ hplain hunlock => ⟨rfl, hplain, hunlock⟩

/-- Plain parts keep what the others keep. -/
theorem SafeSender.undisturbed {P : World → Prop}
    (hstable : ∀ s t, SenderRely host task s t → P s → P t) {x : Coroutine α}
    (hx : x.Within (Undisturbing host)) (hP : P w) :
    SafeSender host task (fun _ t => P t) (fun _ t => P t) x w :=
  Wp.of_quiet undisturbing_quiet hstable hx hP

/-- Saving the reserved number leaves it counted in the repository, or the sender stops. -/
theorem saveOutboundSequence_safe (token : Nat) (h : Reserved host task d n w) :
    SafeSender host task
      (fun saved t => Reserved host task d n t ∧ (saved = true → Prepared host task d n t))
      (fun _ t => Holding host task d t) (await host (.saveOutboundSequence d token n)) w := by
  refine Wp.perform ?_
  intro w₁ hrely hinv c w₂ reply hok hrun
  have h₁ := h.stable hrely
  simp only [World.perform, World.write] at hrun
  by_cases hfails : c.fails = true
  · rw [if_pos hfails] at hrun
    obtain ⟨rfl, rfl⟩ := Prod.mk.inj (Option.some.inj hrun)
    exact ⟨hinv, fun other _ => (senders host).refl other _, h₁.holding⟩
  · rw [if_neg hfails] at hrun
    obtain hrefused | ⟨stored, hget, hsaved⟩ :=
      w₁.repository.saveOutboundSequence_cases c.now d host token n
    · rw [hrefused] at hrun
      obtain ⟨rfl, rfl⟩ := Prod.mk.inj (Option.some.inj hrun)
      exact ⟨hinv, fun other _ => (senders host).refl other _, h₁, by simp⟩
    · rw [hsaved] at hrun
      obtain ⟨rfl, rfl⟩ := Prod.mk.inj (Option.some.inj hrun)
      have hothers : ∀ x m, x ≠ d → Reaches w₁.repository.devices x m →
          Reaches (w₁.repository.devices.set d { stored with outboundSequence := n }) x m := by
        intro x m hx hm
        obtain ⟨row, hrow, hle⟩ := hm
        exact ⟨row, by rw [Dict.get_set_ne _ _ hx, hrow], hle⟩
      have hsaved : ∀ m ≤ n,
          Reaches (w₁.repository.devices.set d { stored with outboundSequence := n }) d m :=
        fun m hm => ⟨_, Dict.get_set_self _ _ _, hm⟩
      have h₂ : Reserved host task d n { w₁ with
          repository := { w₁.repository with
            devices := w₁.repository.devices.set d { stored with outboundSequence := n } } } :=
        ⟨h₁.holding, h₁.memory, h₁.unsent⟩
      refine ⟨⟨hinv.increasing, hinv.memory, ?_⟩, ?_, h₂, fun _ => ⟨h₂, hsaved n le_rfl⟩⟩
      · intro x m hm
        by_cases hx : x = d
        · subst hx
          exact hsaved m (h₁.unsent m hm).le
        · exact hothers x m hx (hinv.repository x m hm)
      · intro other hother
        refine ⟨fun _ _ hm => hm, fun x hlock => ⟨hlock, rfl, fun m hm => ?_⟩⟩
        refine hothers x m ?_ hm
        rintro rfl
        have hmine : some task = some other := h₁.holding.symm.trans hlock
        exact hother (Option.some.inj hmine).symm

/-- Writing the frame of a prepared number keeps the count. -/
theorem Prepared.send (h : Prepared host task d n w) (hinv : Counted host w) {websocket : Socket}
    {frame : ConnectorGateway.Frame} (hframe : frame.sequence? = some n)
    (hsent : w'.sent = w.sent ++ [⟨host, d, websocket, frame⟩])
    (hgateways : w'.gateways = w.gateways) (hrepository : w'.repository = w.repository) :
    Counted host w' ∧ (∀ other, other ≠ task → SenderRely host other w w') ∧
      Holding host task d w' := by
  have hself : w'.sentSequences d = w.sentSequences d ++ [n] := by
    simp [World.sentSequences, hsent, hframe]
  have hne : ∀ x, x ≠ d → w'.sentSequences x = w.sentSequences x := by
    intro x hx
    simp [World.sentSequences, hsent, Ne.symm hx]
  refine ⟨⟨?_, ?_, ?_⟩, ?_, ?_⟩
  · intro x
    by_cases hx : x = d
    · subst hx
      rw [hself, List.pairwise_append]
      refine ⟨hinv.increasing x, List.pairwise_singleton _ _, ?_⟩
      intro m hm k hk
      rw [List.mem_singleton.mp hk]
      exact h.unsent m hm
    · rw [hne x hx]
      exact hinv.increasing x
  · intro x m hm
    rw [hgateways]
    by_cases hx : x = d
    · subst hx
      rw [hself] at hm
      rcases List.mem_append.mp hm with hold | hnew
      · exact hinv.memory x m hold
      · exact List.mem_singleton.mp hnew ▸ h.memory
    · rw [hne x hx] at hm
      exact hinv.memory x m hm
  · intro x m hm
    rw [hrepository]
    by_cases hx : x = d
    · subst hx
      rw [hself] at hm
      rcases List.mem_append.mp hm with hold | hnew
      · exact hinv.repository x m hold
      · exact List.mem_singleton.mp hnew ▸ h.repository
    · rw [hne x hx] at hm
      exact hinv.repository x m hm
  · intro other hother
    refine ⟨fun x m hm => by rwa [hgateways], fun x hlock => ⟨by rwa [hgateways], ?_, ?_⟩⟩
    · refine hne x ?_
      rintro rfl
      exact hother (Option.some.inj (h.holding.symm.trans hlock)).symm
    · intro m hm
      rwa [hrepository]
  · unfold Holding
    rw [hgateways]
    exact h.holding

theorem send_safe {websocket : Socket} {frame : ConnectorGateway.Frame}
    (hframe : frame.sequence? = some n) (h : Prepared host task d n w) :
    SafeSender host task (fun _ t => Holding host task d t) (fun _ t => Holding host task d t)
      (await host (.send d websocket frame)) w := by
  refine Wp.perform ?_
  intro w₁ hrely hinv c w₂ reply hok hrun
  have h₁ := h.stable hrely
  simp only [World.perform] at hrun
  by_cases hfails : c.fails = true
  · rw [if_pos hfails] at hrun
    obtain ⟨rfl, rfl⟩ := Prod.mk.inj (Option.some.inj hrun)
    exact ⟨hinv, fun other _ => (senders host).refl other _, h₁.holding⟩
  · rw [if_neg hfails] at hrun
    obtain ⟨rfl, rfl⟩ := Prod.mk.inj (Option.some.inj hrun)
    exact h₁.send hinv hframe rfl rfl rfl

/-- A block that gives the device its next number reserves it. -/
theorem reserve_safe {u : Update} (sequence : u.Reply → Option Nat)
    (hcases : ∀ (g g' : ConnectorGateway) c reply, u.apply g c = .ok (reply, g') →
      ∀ n, sequence reply = some n →
        ∃ device, g.devices.get d = some device ∧ n = device.outboundSequence + 1 ∧
          g' = { g with devices := g.devices.set d (ConnectorGateway.nextSequence device) })
    (h : Holding host task d w) :
    SafeSender host task
      (fun reply t => Holding host task d t ∧
        ∀ n, sequence reply = some n → Reserved host task d n t)
      (fun _ t => Holding host task d t) (update host u) w := by
  refine Wp.perform ?_
  intro w₁ hrely hinv c w₂ reply hok hrun
  have h₁ := h.stable hrely
  have hquiet : Quiet World.perform FreshRecords (senders host) ⟨host, .update u⟩ :=
    plain_quiet trivial fun _ hc => by cases hc
  obtain ⟨hinv₂, hall⟩ := hquiet task w₁ c w₂ reply hinv hok hrun
  have h₂ := h₁.stable (hall task)
  refine ⟨hinv₂, fun other _ => hall other, ?_⟩
  simp only [World.perform] at hrun
  cases happly : u.apply (w₁.gateways host) c with
  | error error =>
      rw [happly] at hrun
      obtain ⟨-, rfl⟩ := Prod.mk.inj (Option.some.inj hrun)
      exact h₂
  | ok result =>
      obtain ⟨value, g'⟩ := result
      rw [happly] at hrun
      obtain ⟨hw, rfl⟩ := Prod.mk.inj (Option.some.inj hrun)
      refine ⟨h₂, ?_⟩
      intro n hn
      obtain ⟨device, hget, rfl, hg'⟩ := hcases _ _ _ _ happly n hn
      refine ⟨h₂, ?_, ?_⟩
      · rw [← hw, World.gateways_setGateway_self, hg']
        exact ⟨_, Dict.get_set_self _ _ _, le_rfl⟩
      · intro m hm
        rw [← hw] at hm
        obtain ⟨stored, hstored, hle⟩ := hinv.memory d m hm
        rw [hget] at hstored
        obtain rfl := Option.some.inj hstored
        exact Nat.lt_succ_of_le hle

/-- Between two blocks of its own, a sender keeps what it holds. -/
theorem Holding.during {x : Coroutine α} (h : Holding host task d w)
    (hx : x.Within (Undisturbing host)) :
    SafeSender host task (fun _ t => Holding host task d t) (fun _ t => Holding host task d t)
      x w :=
  SafeSender.undisturbed (fun _ _ hrely hP => hP.stable hrely) hx h

theorem Reserved.during {x : Coroutine α} (h : Reserved host task d n w)
    (hx : x.Within (Undisturbing host)) :
    SafeSender host task (fun _ t => Reserved host task d n t)
      (fun _ t => Holding host task d t) x w :=
  Wp.mono (fun _ _ hP => hP) (fun _ _ hP => hP.holding)
    (SafeSender.undisturbed (fun _ _ hrely hP => hP.stable hrely) hx h)

theorem Prepared.during {x : Coroutine α} (h : Prepared host task d n w)
    (hx : x.Within (Undisturbing host)) :
    SafeSender host task (fun _ t => Prepared host task d n t)
      (fun _ t => Holding host task d t) x w :=
  Wp.mono (fun _ _ hP => hP) (fun _ _ hP => hP.holding)
    (SafeSender.undisturbed (fun _ _ hrely hP => hP.stable hrely) hx h)

theorem prepareOutboundSequence_safe (h : Reserved host task d n w) :
    SafeSender host task (fun _ t => Prepared host task d n t)
      (fun _ t => Holding host task d t) (prepareOutboundSequence host d n) w := by
  refine Wp.bind (Wp.mono ?_ (fun _ _ hP => hP)
    (h.during (.perform (undisturbing_call _ trivial fun _ hc => by cases hc))))
  intro token t ht
  cases token with
  | none => exact ht.holding
  | some token =>
      refine Wp.bind (Wp.mono ?_ (fun _ _ hP => hP) (saveOutboundSequence_safe token ht))
      intro saved t' ht'
      cases saved with
      | false => exact ht'.1.holding
      | true => exact ht'.2 rfl

/-- A number that was reserved is sent once, if at all. -/
theorem sendReserved_safe {β : Type} {websocket : Socket} {frame : ConnectorGateway.Frame}
    (hframe : frame.sequence? = some n) (h : Reserved host task d n w)
    {sent : Except Error Unit → Coroutine β} {unsent : Coroutine β}
    (hsent : ∀ result t, Holding host task d t →
      SafeSender host task (fun _ t => Holding host task d t) (fun _ t => Holding host task d t)
        (sent result) t)
    (hunsent : ∀ t, Holding host task d t →
      SafeSender host task (fun _ t => Holding host task d t) (fun _ t => Holding host task d t)
        unsent t) :
    SafeSender host task (fun _ t => Holding host task d t) (fun _ t => Holding host task d t)
      (do
        prepareOutboundSequence host d n
        if ← canDeliverToConnection host d websocket then
          let result ← (await host (.send d websocket frame)).attempt
          sent result
        else unsent) w := by
  refine Wp.bind (Wp.mono ?_ (fun _ _ hP => hP) (prepareOutboundSequence_safe h))
  intro _ t ht
  refine Wp.bind (Wp.mono ?_ (fun _ _ hP => hP)
    (ht.during (canDeliverToConnection_within undisturbing_call d websocket)))
  intro owner t' ht'
  cases owner with
  | false => exact hunsent t' ht'.holding
  | true =>
      refine Wp.bind (Wp.attempt (Wp.mono ?_ ?_ (send_safe hframe ht')))
      · exact fun _ => hsent (.ok ())
      · exact fun error => hsent (.error error)

theorem deliverCommands_safe (websocket : Socket) (generation : Nat) :
    ∀ (commands : List Command) {w : World}, Holding host task d w →
      SafeSender host task (fun _ t => Holding host task d t)
        (fun _ t => Holding host task d t)
        (deliverCommands host d websocket generation commands) w := by
  intro commands
  induction commands with
  | nil => exact fun h => h
  | cons command rest ih =>
      intro w h
      refine Wp.bind (Wp.mono ?_ (fun _ _ hP => hP)
        (h.during (canDeliverToConnection_within undisturbing_call d websocket)))
      intro owner t ht
      cases owner with
      | false => exact ht
      | true =>
          refine Wp.bind (Wp.mono ?_ (fun _ _ hP => hP) (reserve_safe id ?_ ht))
          · intro sequence t' ht'
            cases sequence with
            | none => exact ih ht'.1
            | some sequence =>
                refine sendReserved_safe rfl (ht'.2 sequence rfl) ?_ fun _ hP => hP
                intro result t'' ht''
                cases result with
                | error error => exact ht''
                | ok value =>
                    refine Wp.bind (Wp.mono (fun _ _ hP => ih hP) (fun _ _ hP => hP)
                      (ht''.during ?_))
                    exact commitDelivered_within undisturbing_call _ _ _ _
          · intro g g' c reply happly n hn
            obtain ⟨hnone, -⟩ | ⟨device, hget, -, -, hsome, hg'⟩ :=
              ConnectorGateway.reserveCommandSequence_cases happly
            · exact absurd (hnone.symm.trans hn) (by simp)
            · exact ⟨device, hget, Option.some.inj (hn.symm.trans hsome), hg'⟩

/-- A coroutine of the instance that keeps the count, whatever the others do. -/
abbrev KeepsCount (host : String) (task : Nat) (x : Coroutine α) : Prop :=
  Keeps World.perform FreshRecords (senders host) task x

/-- The plain actions of the instance. -/
def Plainly (host : String) (act : Act) : Prop :=
  act.instanceId = host ∧ act.call.Plain

theorem plainly_call : ∀ call : Call, call.Plain → Plainly host ⟨host, call⟩ :=
  fun _ hplain => ⟨rfl, hplain⟩

theorem plainly_keeps {x : Coroutine α} (h : x.Within (Plainly host)) :
    KeepsCount host task x := by
  refine .of_within ?_ h
  rintro ⟨_, call⟩ ⟨rfl, hplain⟩
  exact plain_harmless hplain

theorem locked_keeps (lock : Lock) {body : Coroutine α} (h : KeepsCount host task body) :
    KeepsCount host task (locked host lock body) :=
  .bind (plainly_keeps (await_within plainly_call trivial)) fun _ =>
    .ensuring h (plainly_keeps (await_within plainly_call trivial))

/-- What is sent under the send lock of a device. -/
theorem lockedSend_keeps {body : Coroutine α}
    (hbody : ∀ t, Holding host task d t →
      SafeSender host task (fun _ t => Holding host task d t) (fun _ t => Holding host task d t)
        body t) :
    KeepsCount host task (locked host (.send d) body) := by
  intro w
  have hunlock : KeepsCount host task (await host (.unlock (.send d))) :=
    plainly_keeps (await_within plainly_call trivial)
  have hacquire : SafeSender host task (fun _ t => Holding host task d t) (fun _ _ => True)
      (await host (.acquire (.send d))) w := by
    refine Wp.perform ?_
    intro w₁ hrely hinv c w₂ reply hok hrun
    have hquiet : Quiet World.perform FreshRecords (senders host) ⟨host, .acquire (.send d)⟩ :=
      plain_quiet trivial fun _ hc => by cases hc
    obtain ⟨hinv₂, hall⟩ := hquiet task w₁ c w₂ reply hinv hok hrun
    refine ⟨hinv₂, fun other _ => hall other, ?_⟩
    simp only [World.perform] at hrun
    by_cases hheld : ((w₁.gateways host).locks.get (.send d)).isSome = true
    · rw [if_pos hheld] at hrun
      cases hrun
    · rw [if_neg hheld] at hrun
      obtain ⟨rfl, rfl⟩ := Prod.mk.inj (Option.some.inj hrun)
      unfold Holding
      rw [World.gateways_setGateway_self]
      exact Dict.get_set_self _ _ _
  refine Wp.bind (Wp.mono ?_ (fun _ _ hP => hP) hacquire)
  intro _ t ht
  refine Wp.bind (Wp.attempt (Wp.mono ?_ ?_ (hbody t ht)))
  · exact fun value t' _ => hunlock.bind (fun _ => .ret value) t'
  · exact fun error t' _ => hunlock.bind (fun _ => .raise error) t'

end Senders

/-! ### Methods -/

section Methods

variable {host : String} {task : Nat}

theorem deliverPending_keeps (d : String) : KeepsCount host task (deliverPending host d) := by
  refine .bind (plainly_keeps (initializeGateway_within plainly_call)) fun _ => ?_
  refine lockedSend_keeps fun t ht => ?_
  refine Wp.bind (Wp.mono ?_ (fun _ _ hP => hP)
    (ht.during (.perform (undisturbing_call _ trivial fun _ hc => by cases hc))))
  intro delivery t' ht'
  cases delivery.websocket with
  | none => exact ht'
  | some websocket =>
      dsimp only
      by_cases hready : delivery.ready = true
      · rw [if_pos hready]
        refine Wp.bind (Wp.mono ?_ (fun _ _ hP => hP)
          (ht'.during (canDeliverToConnection_within undisturbing_call d websocket)))
        intro owner t'' ht''
        cases owner with
        | false => exact ht''
        | true => exact deliverCommands_safe websocket _ _ ht''
      · rw [if_neg hready]
        exact ht'

theorem deliverToDevices_keeps : ∀ deviceIds : List String,
    KeepsCount host task (deliverToDevices host deviceIds) := by
  intro deviceIds
  induction deviceIds with
  | nil => exact .ret ()
  | cons d rest ih => exact .bind (deliverPending_keeps d) fun _ => ih

theorem routeSharedCommandsOnce_keeps (limit : Nat) :
    KeepsCount host task (routeSharedCommandsOnce host limit) := by
  refine .bind (plainly_keeps (initializeGateway_within plainly_call)) fun _ => ?_
  refine locked_keeps _ (.bind (plainly_keeps (await_within plainly_call trivial)) fun routes => ?_)
  exact .bind (plainly_keeps (update_within plainly_call _)) fun deviceIds =>
    deliverToDevices_keeps _

theorem sendNotification_keeps (wake : ConnectorGateway.Wake) :
    KeepsCount host task (sendNotification host wake) := by
  refine .bind (plainly_keeps (query_within plainly_call _)) fun start => ?_
  obtain ⟨d, connection, generation, ready⟩ := start
  cases connection with
  | none => exact .ret false
  | some websocket =>
      cases ready with
      | false => exact .ret false
      | true =>
          refine .bind (plainly_keeps (canDeliverToConnection_within
            (fun call hplain _ => plainly_call call hplain) d websocket)) fun owner => ?_
          cases owner with
          | false => exact .ret false
          | true =>
              refine lockedSend_keeps fun t ht => ?_
              refine Wp.bind (Wp.mono ?_ (fun _ _ hP => hP) (reserve_safe id ?_ ht))
              · intro sequence t' ht'
                cases sequence with
                | none => exact ht'.1
                | some sequence =>
                    refine sendReserved_safe rfl (ht'.2 sequence rfl) ?_ fun _ hP => hP
                    intro result t'' ht''
                    cases result <;> exact ht''
              · intro g g' c reply happly n hn
                obtain ⟨hnone, -⟩ | ⟨device, hget, -, hsome, hg'⟩ :=
                  ConnectorGateway.reserveNotificationSequence_cases happly
                · exact absurd (hnone.symm.trans hn) (by simp)
                · exact ⟨device, hget, Option.some.inj (hn.symm.trans hsome), hg'⟩

theorem notifyTaskAvailable_keeps (wake : ConnectorGateway.Wake) :
    KeepsCount host task (notifyTaskAvailable host wake) := by
  refine .bind (plainly_keeps (initializeGateway_within plainly_call)) fun _ => ?_
  refine .bind (sendNotification_keeps wake) fun sent => ?_
  cases sent with
  | false => exact .ret ()
  | true =>
      refine .bind (plainly_keeps (listBindings_within plainly_call none)) fun _ => ?_
      refine .bind (plainly_keeps (query_within plainly_call _)) fun device => ?_
      cases device with
      | none => exact .ret ()
      | some d =>
          refine .bind (plainly_keeps (query_within plainly_call _)) fun token => ?_
          cases token with
          | none => exact .raise _
          | some token => exact plainly_keeps (persistCurrent_within plainly_call _ _)

theorem queueCommand_keeps (request : ConnectorGateway.CommandRequest) :
    KeepsCount host task (queueCommand host request) := by
  refine .bind (plainly_keeps (initializeGateway_within plainly_call)) fun _ => ?_
  refine .bind (plainly_keeps (refreshBindingDevice_within plainly_call _)) fun _ => ?_
  refine .bind (plainly_keeps (installKeyedCommand_within plainly_call _ _)) fun _ => ?_
  refine .bind (plainly_keeps (update_within plainly_call _)) fun command => ?_
  refine .bind (plainly_keeps (prepareCommandDelivery_within plainly_call _)) fun _ => ?_
  refine .bind (plainly_keeps (update_within plainly_call _)) fun _ => ?_
  refine .bind (deliverPending_keeps _) fun _ => ?_
  exact .bind (plainly_keeps (query_within plainly_call _)) fun _ => .ret ()

theorem Op.program_keeps : ∀ op : Op, KeepsCount host task (op.program host) := by
  intro op
  have hcall : ∀ call : Call, call.Plain → Plainly host ⟨host, call⟩ := plainly_call
  cases op with
  | deliverPending d => exact .bind (deliverPending_keeps d) fun _ => .ret _
  | routeSharedCommandsOnce limit =>
      exact .bind (routeSharedCommandsOnce_keeps limit) fun _ => .ret _
  | notifyTaskAvailable wake => exact .bind (notifyTaskAvailable_keeps wake) fun _ => .ret _
  | queueCommand request => exact .bind (queueCommand_keeps request) fun _ => .ret _
  | createPairing => exact plainly_keeps (.bind (createPairing_within hcall _) fun _ => trivial)
  | approvePairing => exact plainly_keeps (.bind (approvePairing_within hcall _ _) fun _ => trivial)
  | exchangePairing => exact plainly_keeps (.bind (exchangePairing_within hcall _) fun _ => trivial)
  | authenticateDevice =>
      exact plainly_keeps (.bind (authenticateDevice_within hcall _ _) fun _ => trivial)
  | connectDevice => exact plainly_keeps (.bind (connectDevice_within hcall _ _) fun _ => trivial)
  | disconnectDevice =>
      exact plainly_keeps (.bind (disconnectDevice_within hcall _ _) fun _ => trivial)
  | beginDrain => exact plainly_keeps (.bind (beginDrain_within hcall) fun _ => trivial)
  | assertActiveConnection =>
      exact plainly_keeps (.bind (assertActiveConnection_within hcall _ _ _) fun _ => trivial)
  | sendActiveMessage =>
      exact plainly_keeps (.bind (sendActiveMessage_within hcall _ _ _ _) fun _ => trivial)
  | markTransportReady => exact plainly_keeps (.bind (update_within hcall _) fun _ => trivial)
  | applyHello => exact plainly_keeps (.bind (applyHello_within hcall _ _ _) fun _ => trivial)
  | heartbeat => exact plainly_keeps (.bind (heartbeat_within hcall _ _ _) fun _ => trivial)
  | updateInventory | observeInboundSequence =>
      exact plainly_keeps
        (.bind (transition_within hcall _ _ _ (update_within hcall _)) fun _ => trivial)
  | resumeTransport | acknowledgeTaskAvailable =>
      exact plainly_keeps
        (.bind (transition_within hcall _ _ _ (query_within hcall _)) fun _ => trivial)
  | acknowledgeCommand | appendRuntimeEvent =>
      exact plainly_keeps
        (.bind (transition_within hcall _ _ _ (update_within hcall _)) fun _ => trivial)
  | submitAgentTaskResult =>
      exact plainly_keeps (.bind (submitAgentTaskResult_within hcall _ _ _) fun _ => trivial)
  | listDevices => exact plainly_keeps (.bind (listDevices_within hcall _) fun _ => trivial)
  | getDevice => exact plainly_keeps (.bind (getDevice_within hcall _) fun _ => trivial)
  | revokeDevice => exact plainly_keeps (.bind (revokeDevice_within hcall _ _) fun _ => trivial)
  | createBinding => exact plainly_keeps (.bind (createBinding_within hcall _ _ _) fun _ => trivial)
  | listBindings => exact plainly_keeps (.bind (listBindings_within hcall _) fun _ => trivial)

end Methods

/-! ### Runs -/

/-- The methods that send numbered frames, or that read and write the records of devices
    around them. -/
def Op.isOutbound : Op → Bool
  | deliverPending _ => true
  | notifyTaskAvailable _ => true
  | heartbeat _ _ _ => true
  | connectDevice _ _ => true
  | disconnectDevice _ _ => true
  | listDevices _ => true
  | getDevice _ => true
  | _ => false

/-- A Connector that resumes with a number it was sent is not told that it is ahead. -/
def ResumesAccepted (host : String) (w : World) : Prop :=
  ∀ d n, n ∈ w.sentSequences d → ∀ now payload expected,
    payload.lastGatewaySequence = n →
      (w.gateways host).resumeTransport now d payload expected ≠
        .error (.connector 409 "Connector resume cursor is ahead of the Gateway")

theorem Counted.resumesAccepted {host : String} {w : World} (h : Counted host w) :
    ResumesAccepted host w := by
  intro d n hn now payload expected hcursor herror
  obtain ⟨stored, hget, hle⟩ := h.memory d n hn
  obtain ⟨device, hdevice, hahead⟩ := ConnectorGateway.resumeTransport_ahead herror
  rw [hget] at hdevice
  obtain rfl := Option.some.inj hdevice
  omega

/-- **While no record of a device is written back from an older copy, the numbers sent to a
    device increase, memory and repository count every one of them, and a Connector can
    resume with any of them.** -/
theorem Deployment.outbound_sequences_counted {host : String} {w : World} {d : Deployment}
    (hsent : w.sent = [])
    (hrun : Trans.Run Deployment.step
      (Pool.Allowed (fun op : String × Op => op.1 = host) FreshRecords) ⟨w, []⟩ d) :
    Counted host d.shared ∧ ResumesAccepted host d.shared := by
  have hnone : ∀ x, w.sentSequences x = [] := by
    intro x
    simp [World.sentSequences, hsent]
  have hstart : Pool.Safe World.perform FreshRecords (senders host) (fun _ _ => True)
      (fun _ _ => True) (⟨w, []⟩ : Deployment) := by
    refine ⟨⟨?_, ?_, ?_⟩, ?_⟩
    · intro x
      rw [show World.sentSequences _ x = [] from hnone x]
      exact .nil
    · intro x n hn
      rw [show World.sentSequences _ x = [] from hnone x] at hn
      cases hn
    · intro x n hn
      rw [show World.sentSequences _ x = [] from hnone x] at hn
      cases hn
    · intro i x hx
      cases hx
  have hsafe := hstart.ofRun (fun op hop i s _ => by
    obtain ⟨_, method⟩ := op
    obtain rfl := hop
    exact Op.program_keeps method s) hrun
  exact ⟨hsafe.inv, hsafe.inv.resumesAccepted⟩

namespace Sample

/-- A device with a socket on worker `east`, and two commands that wait for it. -/
def laptop : Device where
  deviceId := "device_1"
  ownerId := "owner_1"
  name := "laptop"
  status := .online
  tokenHash := "hash"
  createdAt := 0
  connectionGeneration := 1

def probe (commandId : String) : Command where
  commandId
  bindingId := "binding_1"
  deviceId := "device_1"
  runtimeId := "codex"
  bindingEpoch := 1
  sessionId := none
  action := .runtimeProbe
  taskId := none
  idempotencyKey := commandId
  requestFingerprint := "probe"
  sessionGeneration := 0
  status := .queued
  createdAt := 0
  expiresAt := 60
  updatedAt := 0
  durableReady := true

def connected : World where
  repository :=
    { devices := [("device_1", laptop)]
      commands := [("command_1", probe "command_1"), ("command_2", probe "command_2")]
      connectionLeases := [("device_1", ⟨"east", 1, 45⟩)] }
  gateways := fun _ =>
    { devices := [("device_1", laptop)]
      commands := [("command_1", probe "command_1"), ("command_2", probe "command_2")]
      connections := [("device_1", 1)]
      connectionReadyGenerations := [("device_1", 1)]
      connectionLeaseTokens := [(1, 1)]
      initialized := true }
  sent := []

/-- The next `count` actions of a coroutine. -/
def advance (count task : Nat) : List (Async.Event (String × Op) Choice) :=
  List.replicate count (.advance task {})

/-- Both commands are delivered, and between the two frames `list_devices` reads the repository
    and installs what it has read. -/
def delivery : List (Async.Event (String × Op) Choice) :=
  [.spawn ("east", .deliverPending "device_1")] ++ advance 13 0 ++
    [.spawn ("east", .listDevices none)] ++ advance 3 1 ++ advance 11 0

/-- `list_devices` reads the repository, the first command is sent, `list_devices` installs
    what it has read, and the second command is sent. -/
def staleList : List (Async.Event (String × Op) Choice) :=
  [.spawn ("east", .listDevices none)] ++ advance 2 0 ++
    [.spawn ("east", .deliverPending "device_1")] ++ advance 13 1 ++ advance 1 0 ++ advance 11 1

/-- Two frames, numbered one and two. -/
theorem deliveries_counted :
    ∃ d : Deployment, Counted "east" d.shared ∧ ResumesAccepted "east" d.shared ∧
      d.shared.sentSequences "device_1" = [1, 2] := by
  have hexec : ∃ d, Trans.exec Deployment.step
      (Pool.Allowed (fun op : String × Op => op.1 = "east") FreshRecords) ⟨connected, []⟩
      delivery = some d ∧ d.shared.sentSequences "device_1" = [1, 2] := by
    refine ⟨_, rfl, ?_⟩
    decide
  obtain ⟨d, hd, hsequences⟩ := hexec
  obtain ⟨hcounted, hresumes⟩ :=
    Deployment.outbound_sequences_counted (w := connected) rfl (Trans.run_of_exec _ hd)
  exact ⟨d, hcounted, hresumes, hsequences⟩

/-- The same number is sent twice when an older record is installed in between. -/
theorem stale_list_repeats_a_number :
    ¬ ∀ (host : String) (w : World) (d : Deployment), w.sent = [] →
      Trans.Run Deployment.step
        (Pool.Allowed (fun op : String × Op => op.1 = host ∧ op.2.isOutbound = true)
          fun _ _ _ _ => True) ⟨w, []⟩ d →
      Counted host d.shared ∧ ResumesAccepted host d.shared := by
  intro h
  have hexec : ∃ d, Trans.exec Deployment.step
      (Pool.Allowed (fun op : String × Op => op.1 = "east" ∧ op.2.isOutbound = true)
        fun _ _ _ _ => True) ⟨connected, []⟩ staleList = some d ∧
      d.shared.sentSequences "device_1" = [1, 1] := by
    refine ⟨_, rfl, ?_⟩
    decide
  obtain ⟨d, hd, hsequences⟩ := hexec
  have hincreasing := (h "east" connected d rfl (Trans.run_of_exec _ hd)).1.increasing "device_1"
  rw [hsequences] at hincreasing
  simp at hincreasing

end Sample

end Arena402.Gateway
