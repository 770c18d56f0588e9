/-
What the repository's methods read and leave.
-/
import Arena402.Gateway.Repository

namespace Arena402.Gateway

open Py

/-! ### Merging records -/

section Upsert

variable {α : Type} {key : α → String} {k : String}

/-- A record that no incoming one names is left. -/
theorem get_upsert_of_ne : ∀ (incoming : List α) (rows : Dict String α),
    (∀ item ∈ incoming, key item ≠ k) → (upsert key rows incoming).get k = rows.get k := by
  intro incoming
  induction incoming with
  | nil => exact fun _ _ => rfl
  | cons item rest ih =>
      intro rows h
      have hrest := ih (rows.set (key item) item) fun x hx => h x (List.mem_cons_of_mem _ hx)
      have hk : k ≠ key item := Ne.symm (h item List.mem_cons_self)
      rw [Dict.get_set_ne _ _ hk] at hrest
      exact hrest

end Upsert

/-! ### What the lease row names -/

namespace Repository

variable {r : Repository} {now leaseExpiresAt : Time} {d deviceId instanceId : String}
  {fencingToken : Nat}

/-- The instance and the token a device's lease names. -/
def claimant (r : Repository) (deviceId : String) : Option (String × Nat) :=
  (r.connectionLeases.get deviceId).map fun lease => (lease.instanceId, lease.fencingToken)

theorem holds_iff :
    r.holds deviceId instanceId fencingToken = true ↔
      r.claimant deviceId = some (instanceId, fencingToken) := by
  unfold holds claimant
  cases r.connectionLeases.get deviceId with
  | none => simp
  | some lease => simp

theorem claimant_of_isOwner
    (h : r.isDeviceConnectionOwner now deviceId instanceId fencingToken = true) :
    r.claimant deviceId = some (instanceId, fencingToken) := by
  unfold isDeviceConnectionOwner at h
  unfold claimant
  cases hl : r.connectionLeases.get deviceId with
  | none =>
      rw [hl] at h
      cases h
  | some lease =>
      rw [hl] at h
      simp only [Bool.and_eq_true, beq_iff_eq] at h
      simp [h.1.1, h.1.2]

@[simp] theorem setLeaseExpiry_claimant :
    (r.setLeaseExpiry deviceId leaseExpiresAt).claimant d = r.claimant d := by
  unfold setLeaseExpiry
  cases hl : r.connectionLeases.get deviceId with
  | none => rfl
  | some lease =>
      unfold claimant
      simp only [Dict.get_set]
      by_cases hd : d = deviceId
      · simp [hd, hl]
      · simp [hd]

@[simp] theorem setLeaseExpiry_devices :
    (r.setLeaseExpiry deviceId leaseExpiresAt).devices = r.devices := by
  unfold setLeaseExpiry
  cases r.connectionLeases.get deviceId <;> rfl

/-- Saving one device leaves the records of the others. -/
theorem saveUnlessRevoked_get_ne {devices : Dict String Device} {device : Device}
    (h : d ≠ deviceId) : (saveUnlessRevoked devices deviceId device).get d = devices.get d := by
  unfold saveUnlessRevoked
  cases devices.get deviceId with
  | none => exact Dict.get_set_ne _ _ h
  | some current =>
      by_cases hrevoked : current.revokedAt.isSome = true
      · simp [hrevoked]
      · simp only [hrevoked]
        exact Dict.get_set_ne _ _ h

/-- Saving one device writes its record or leaves it. -/
theorem saveUnlessRevoked_cases (devices : Dict String Device) (deviceId : String)
    (device : Device) :
    saveUnlessRevoked devices deviceId device = devices ∨
      saveUnlessRevoked devices deviceId device = devices.set deviceId device ∧
        ∀ current, devices.get deviceId = some current → current.revokedAt = none := by
  unfold saveUnlessRevoked
  cases hget : devices.get deviceId with
  | none => exact Or.inr ⟨rfl, fun _ hc => by cases hc⟩
  | some current =>
      dsimp only
      by_cases hrevoked : current.revokedAt.isSome = true
      · rw [if_pos hrevoked]
        exact Or.inl rfl
      · rw [if_neg hrevoked]
        refine Or.inr ⟨rfl, ?_⟩
        intro stored hstored
        obtain rfl := Option.some.inj hstored
        simpa using hrevoked

@[simp] theorem setLeaseExpiry_commands :
    (r.setLeaseExpiry deviceId leaseExpiresAt).commands = r.commands := by
  unfold setLeaseExpiry
  cases r.connectionLeases.get deviceId <;> rfl

/-! ### What each method does to the device records -/

variable {token secs sequence : Nat} {device : Device} {command : Command}

@[simp] theorem renew_devices :
    (r.renewDeviceConnection now deviceId instanceId token secs).2.devices = r.devices := by
  unfold renewDeviceConnection
  by_cases h : r.isDeviceConnectionOwner now deviceId instanceId token = true <;> simp [h]

@[simp] theorem release_devices :
    (r.releaseDeviceConnection now deviceId instanceId token).2.devices = r.devices := by
  unfold releaseDeviceConnection
  by_cases h : r.holds deviceId instanceId token = true <;> simp [h]

theorem releaseAndSave_devices (r : Repository) (now : Time) (deviceId instanceId : String)
    (token : Nat) (device : Device) :
    (r.releaseDeviceConnectionAndSaveDevice now deviceId instanceId token device).2.devices =
        r.devices ∨
      (r.releaseDeviceConnectionAndSaveDevice now deviceId instanceId token device).2.devices =
        saveUnlessRevoked r.devices deviceId device := by
  unfold releaseDeviceConnectionAndSaveDevice
  by_cases h : r.holds deviceId instanceId token = true <;> simp [h]

@[simp] theorem saveCommand_devices :
    (r.saveCommandForConnectionOwner now deviceId instanceId token command).2.devices =
      r.devices := by
  unfold saveCommandForConnectionOwner
  by_cases h : r.isDeviceConnectionOwner now deviceId instanceId token = true
  · simp only [h, if_true]
    cases r.commands.get command.commandId with
    | none => rfl
    | some current => by_cases hq : current.status = .queued <;> simp [hq]
  · simp [h]

/-- The sequence of a frame is saved when the answer says so, and else nothing is. -/
theorem saveOutboundSequence_cases (r : Repository) (now : Time) (deviceId instanceId : String)
    (token sequence : Nat) :
    (r.saveOutboundSequenceForConnectionOwner now deviceId instanceId token sequence = (false, r)) ∨
      ∃ stored, r.devices.get deviceId = some stored ∧
        r.saveOutboundSequenceForConnectionOwner now deviceId instanceId token sequence =
          (true, { r with
            devices := r.devices.set deviceId { stored with outboundSequence := sequence } }) := by
  unfold saveOutboundSequenceForConnectionOwner
  by_cases h : r.isDeviceConnectionOwner now deviceId instanceId token = true
  · simp only [h, if_true]
    cases hget : r.devices.get deviceId with
    | none => exact Or.inl rfl
    | some stored => exact Or.inr ⟨stored, rfl, rfl⟩
  · simp only [h]
    exact Or.inl rfl

/-- A save that is not refused merges the snapshot. -/
theorem saveGatewayState_eq {state : Snapshot} {r' : Repository}
    (h : r.saveGatewayState now state = some r') : r' = r.store state := by
  unfold saveGatewayState at h
  cases hfence : state.fence with
  | none =>
      rw [hfence] at h
      exact (Option.some.inj h).symm
  | some fence =>
      rw [hfence] at h
      by_cases hholds : r.fenceHolds now fence = true
      · simp only [hholds, if_true] at h
        exact (Option.some.inj h).symm
      · simp [hholds] at h

end Repository

end Arena402.Gateway
