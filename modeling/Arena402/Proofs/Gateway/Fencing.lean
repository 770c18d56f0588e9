/-
Connection fencing.

A device's lease row is never deleted and only a claim changes the pair of instance and
token it names, to a token one higher.  So from the claim that returned `token` on, the
row of the device has a token of at least `token`, and every other method compares the
token it carries with that row before it writes anything.  The clock plays no part in
this: an expired lease only makes a method refuse more.
-/
import Arena402.Lib.Run
import Arena402.Proofs.Gateway.Repository

namespace Arena402.Gateway

open Py Trans

/-! ### One request -/

namespace Request

variable {r s : Repository} {now : Time} {req : Request} {d : String} {token : Nat}

/-- What a request can do to the repository. -/
inductive Effect (r : Repository) : Request → Repository → Prop
  | nothing (req : Request) : Effect r req r
  | claimed (now : Time) (deviceId instanceId : String) (secs : Nat) :
      Effect r (claim deviceId instanceId secs)
        (r.claimDeviceConnection now deviceId instanceId secs).2
  | expiry {req : Request} {deviceId : String} {fencingToken : Nat}
      (hcarries : req.carries = some (deviceId, fencingToken)) (leaseExpiresAt : Time) :
      Effect r req (r.setLeaseExpiry deviceId leaseExpiresAt)
  | released (now : Time) (deviceId instanceId : String) (fencingToken : Nat) (device : Device) :
      Effect r (releaseAndSaveDevice deviceId instanceId fencingToken device)
        { r.setLeaseExpiry deviceId now with
          devices := Repository.saveUnlessRevoked r.devices deviceId device }
  | stored (fence : Fence) (state : Snapshot) :
      Effect r (saveState fence state) (r.store { state with fence := some fence })
  | command (deviceId instanceId : String) (fencingToken : Nat) (command : Command) :
      Effect r (saveCommand deviceId instanceId fencingToken command)
        { r with commands := r.commands.set command.commandId command }
  | sequence (deviceId instanceId : String) (fencingToken sequence : Nat) (device : Device) :
      Effect r (saveOutboundSequence deviceId instanceId fencingToken sequence)
        { r with devices := r.devices.set deviceId { device with outboundSequence := sequence } }

theorem serve_effect (r : Repository) (now : Time) (req : Request) :
    Effect r req (req.serve r now).2 := by
  cases req with
  | claim deviceId instanceId secs => exact .claimed now deviceId instanceId secs
  | isOwner => exact .nothing _
  | renew deviceId instanceId fencingToken secs =>
      unfold serve Repository.renewDeviceConnection
      by_cases h : r.isDeviceConnectionOwner now deviceId instanceId fencingToken = true
      · simp only [h, if_true]
        exact .expiry rfl _
      · simp only [h]
        exact .nothing _
  | release deviceId instanceId fencingToken =>
      unfold serve Repository.releaseDeviceConnection
      by_cases h : r.holds deviceId instanceId fencingToken = true
      · simp only [h, if_true]
        exact .expiry rfl _
      · simp only [h]
        exact .nothing _
  | releaseAndSaveDevice deviceId instanceId fencingToken device =>
      unfold serve Repository.releaseDeviceConnectionAndSaveDevice
      by_cases h : r.holds deviceId instanceId fencingToken = true
      · simp only [h, if_true, Repository.setLeaseExpiry_devices]
        exact .released now deviceId instanceId fencingToken device
      · simp only [h]
        exact .nothing _
  | saveState fence state =>
      unfold serve Repository.saveGatewayState
      by_cases h : r.fenceHolds now fence = true
      · simp only [h, if_true]
        exact .stored fence state
      · simp only [h]
        exact .nothing _
  | saveCommand deviceId instanceId fencingToken command =>
      unfold serve Repository.saveCommandForConnectionOwner
      by_cases h : r.isDeviceConnectionOwner now deviceId instanceId fencingToken = true
      · simp only [h, if_true]
        cases r.commands.get command.commandId with
        | none => exact .nothing _
        | some current =>
            by_cases hq : current.status = .queued
            · simp only [hq, if_true]
              exact .command deviceId instanceId fencingToken command
            · simp only [hq, if_false]
              exact .nothing _
      · simp only [h]
        exact .nothing _
  | saveOutboundSequence deviceId instanceId fencingToken sequence =>
      unfold serve Repository.saveOutboundSequenceForConnectionOwner
      by_cases h : r.isDeviceConnectionOwner now deviceId instanceId fencingToken = true
      · simp only [h, if_true]
        cases r.devices.get deviceId with
        | none => exact .nothing _
        | some device => exact .sequence deviceId instanceId fencingToken sequence device
      · simp only [h]
        exact .nothing _

/-- Every request but a claim of the device leaves its claimant. -/
theorem Effect.claimant (h : Effect r req s)
    (hclaim : ∀ instanceId secs, req ≠ claim d instanceId secs) :
    s.claimant d = r.claimant d := by
  cases h with
  | claimed now deviceId instanceId secs =>
      have hd : d ≠ deviceId := by
        rintro rfl
        exact hclaim instanceId secs rfl
      simp [Repository.claimDeviceConnection, Repository.claimant, Dict.get_set, hd]
  | expiry hcarries leaseExpiresAt => exact Repository.setLeaseExpiry_claimant
  | released now deviceId instanceId fencingToken device =>
      exact Repository.setLeaseExpiry_claimant (r := r) (d := d)
  | nothing => rfl
  | stored => rfl
  | command => rfl
  | sequence => rfl

/-- A claim names its own instance, with the next token. -/
theorem serve_claim_claimant (instanceId : String) (secs : Nat) :
    ((claim d instanceId secs).serve r now).2.claimant d =
      some (instanceId, r.nextFencingToken d) := by
  simp [serve, Repository.claimDeviceConnection, Repository.claimant]

/-- A request that carries a token the device's lease does not name is refused and
    changes nothing. -/
theorem serve_of_ne_claimant (hcarries : req.carries = some (d, token))
    (hne : ∀ instanceId, r.claimant d ≠ some (instanceId, token)) :
    req.serve r now = (req.refusal, r) := by
  have howner : ∀ instanceId,
      r.isDeviceConnectionOwner now d instanceId token = false := by
    intro instanceId
    by_contra hc
    exact hne instanceId (Repository.claimant_of_isOwner (Bool.eq_true_of_not_eq_false hc))
  have hholds : ∀ instanceId, r.holds d instanceId token = false := by
    intro instanceId
    by_contra hc
    exact hne instanceId (Repository.holds_iff.mp (Bool.eq_true_of_not_eq_false hc))
  cases req with
  | claim => cases hcarries
  | isOwner deviceId instanceId fencingToken =>
      obtain ⟨rfl, rfl⟩ : deviceId = d ∧ fencingToken = token := by simpa [carries] using hcarries
      simp [serve, refusal, howner]
  | renew deviceId instanceId fencingToken secs =>
      obtain ⟨rfl, rfl⟩ : deviceId = d ∧ fencingToken = token := by simpa [carries] using hcarries
      simp [serve, refusal, Repository.renewDeviceConnection, howner]
  | release deviceId instanceId fencingToken =>
      obtain ⟨rfl, rfl⟩ : deviceId = d ∧ fencingToken = token := by simpa [carries] using hcarries
      simp [serve, refusal, Repository.releaseDeviceConnection, hholds]
  | releaseAndSaveDevice deviceId instanceId fencingToken device =>
      obtain ⟨rfl, rfl⟩ : deviceId = d ∧ fencingToken = token := by simpa [carries] using hcarries
      simp [serve, refusal, Repository.releaseDeviceConnectionAndSaveDevice, hholds]
  | saveState fence state =>
      obtain ⟨hd, ht⟩ : fence.deviceId = d ∧ fence.fencingToken = token := by
        simpa [carries] using hcarries
      have hfence : r.fenceHolds now fence = false := by
        unfold Repository.fenceHolds
        rw [hd, ht, howner, Bool.false_and]
      simp [serve, refusal, Repository.saveGatewayState, hfence]
  | saveCommand deviceId instanceId fencingToken command =>
      obtain ⟨rfl, rfl⟩ : deviceId = d ∧ fencingToken = token := by simpa [carries] using hcarries
      simp [serve, refusal, Repository.saveCommandForConnectionOwner, howner]
  | saveOutboundSequence deviceId instanceId fencingToken sequence =>
      obtain ⟨rfl, rfl⟩ : deviceId = d ∧ fencingToken = token := by simpa [carries] using hcarries
      simp [serve, refusal, Repository.saveOutboundSequenceForConnectionOwner, howner]

/-! ### What the records of a device are changed by -/

/-- The record of a device is changed by a fenced request for that device only. -/
theorem Effect.device (h : Effect r req s) (hown : req.OwnRecords r)
    (hne : s.devices.get d ≠ r.devices.get d) : ∃ current, req.carries = some (d, current) := by
  by_contra hnone
  refine hne ?_
  cases h with
  | nothing => rfl
  | claimed => rfl
  | expiry hcarries leaseExpiresAt => rw [Repository.setLeaseExpiry_devices]
  | released now deviceId instanceId fencingToken device =>
      have hd : d ≠ deviceId := fun hc => hnone ⟨fencingToken, by rw [hc]; rfl⟩
      exact Repository.saveUnlessRevoked_get_ne hd
  | stored fence state =>
      have hd : d ≠ fence.deviceId := fun hc => hnone ⟨fence.fencingToken, by rw [hc]; rfl⟩
      exact get_upsert_of_ne _ _ fun device hmem hc => hd (hc ▸ hown.1 device hmem)
  | command => rfl
  | sequence deviceId instanceId fencingToken sequence device =>
      have hd : d ≠ deviceId := fun hc => hnone ⟨fencingToken, by rw [hc]; rfl⟩
      exact Dict.get_set_ne _ _ hd

/-- A stored command of a device is changed by a claim of the device or by a fenced request
    for it only. -/
theorem Effect.stored_command {commandId : String} {stored : Command} (h : Effect r req s)
    (hown : req.OwnRecords r) (hstored : r.commands.get commandId = some stored)
    (hdevice : stored.deviceId = d) (hne : s.commands.get commandId ≠ some stored) :
    (∃ instanceId secs, req = claim d instanceId secs) ∨
      ∃ current, req.carries = some (d, current) := by
  by_contra hnone
  obtain ⟨hclaim, hcarries⟩ := not_or.mp hnone
  refine hne ?_
  rw [← hstored]
  cases h with
  | nothing => rfl
  | claimed now deviceId instanceId secs =>
      have hd : stored.deviceId ≠ deviceId := by
        intro hc
        refine hclaim ⟨instanceId, secs, ?_⟩
        rw [← hdevice, hc]
      simp only [Repository.claimDeviceConnection]
      rw [Dict.get_map, hstored]
      simp [Repository.requeue, hd]
  | expiry hcarries leaseExpiresAt => rw [Repository.setLeaseExpiry_commands]
  | released now deviceId instanceId fencingToken device =>
      exact congrArg (Dict.get · commandId) Repository.setLeaseExpiry_commands
  | stored fence state =>
      have hd : d ≠ fence.deviceId := fun hc => hcarries ⟨fence.fencingToken, by rw [hc]; rfl⟩
      refine get_upsert_of_ne _ _ fun command hmem hc => hd ?_
      rw [← hdevice]
      exact hown.2 command hmem stored (hc ▸ hstored)
  | command deviceId instanceId fencingToken command =>
      have hd : d ≠ deviceId := fun hc => hcarries ⟨fencingToken, by rw [hc]; rfl⟩
      have hid : commandId ≠ command.commandId := by
        intro hc
        refine hd ?_
        rw [← hdevice]
        exact hown stored (hc ▸ hstored)
      exact Dict.get_set_ne _ _ hid
  | sequence => rfl

/-! ### Runs -/

/-- The device's lease has reached a token. -/
def Reached (d : String) (token : Nat) (r : Repository) : Prop :=
  ∃ instanceId current, r.claimant d = some (instanceId, current) ∧ token ≤ current

theorem Reached.lt_nextFencingToken (h : Reached d token r) : token < r.nextFencingToken d := by
  obtain ⟨instanceId, current, hclaimant, hle⟩ := h
  unfold Repository.claimant at hclaimant
  unfold Repository.nextFencingToken
  obtain ⟨lease, hlease, heq⟩ := Option.map_eq_some_iff.mp hclaimant
  obtain ⟨-, rfl⟩ := Prod.mk.inj heq
  rw [hlease]
  exact Nat.lt_succ_of_le hle

/-- No request takes a token back. -/
theorem Reached.serve (h : Reached d token r) : Reached d token (req.serve r now).2 := by
  by_cases hclaim : ∃ instanceId secs, req = claim d instanceId secs
  · obtain ⟨instanceId, secs, rfl⟩ := hclaim
    exact ⟨instanceId, r.nextFencingToken d, serve_claim_claimant instanceId secs,
      h.lt_nextFencingToken.le⟩
  · obtain ⟨instanceId, current, hclaimant, hle⟩ := h
    refine ⟨instanceId, current, ?_, hle⟩
    rw [(serve_effect r now req).claimant fun i secs hc => hclaim ⟨i, secs, hc⟩]
    exact hclaimant

theorem Reached.run (h : Reached d token r) (hrun : Run step (fun _ _ => True) r s) :
    Reached d token s := by
  refine hrun.invariant h ?_
  intro t call u ht _ hs
  obtain rfl := Option.some.inj hs
  exact ht.serve

/-- A request with an older token is refused and changes nothing. -/
theorem Reached.serve_older {old : Nat} (h : Reached d token r)
    (hcarries : req.carries = some (d, old)) (hold : old < token) :
    req.serve r now = (req.refusal, r) := by
  obtain ⟨instanceId, current, hclaimant, hle⟩ := h
  refine serve_of_ne_claimant hcarries ?_
  intro other hc
  rw [hclaimant] at hc
  obtain ⟨-, rfl⟩ := Prod.mk.inj (Option.some.inj hc)
  omega

/-- **A newer claim fences every older worker out.** -/
theorem older_workers_fenced {r' : Repository} {instanceId : String} {secs : Nat}
    (hclaim : (claim d instanceId secs).serve r now = (.token token, r'))
    (hrun : Run step (fun _ _ => True) r' s) :
    (∀ now' other secs' later s',
      (claim d other secs').serve s now' = (.token later, s') → token < later) ∧
    (∀ now' i₁ t₁ i₂ t₂, s.isDeviceConnectionOwner now' d i₁ t₁ = true →
      s.isDeviceConnectionOwner now' d i₂ t₂ = true → i₁ = i₂ ∧ t₁ = t₂) ∧
    (∀ req now' old, carries req = some (d, old) → old < token →
      req.serve s now' = (req.refusal, s)) ∧
    (∀ req now', OwnRecords s req → (req.serve s now').2.devices.get d ≠ s.devices.get d →
      ∃ current, req.carries = some (d, current) ∧ token ≤ current) ∧
    ∀ req now' commandId stored, OwnRecords s req → s.commands.get commandId = some stored →
      stored.deviceId = d → (req.serve s now').2.commands.get commandId ≠ some stored →
      (∃ other secs', req = claim d other secs') ∨
        ∃ current, req.carries = some (d, current) ∧ token ≤ current := by
  have hreached : Reached d token s := by
    refine Reached.run ?_ hrun
    obtain ⟨htoken, rfl⟩ := Prod.mk.inj hclaim
    obtain rfl := Answer.token.inj htoken
    exact ⟨instanceId, _, serve_claim_claimant instanceId secs, le_rfl⟩
  -- a request that carried an older token would have changed nothing
  have hcurrent : ∀ (req : Request) (now' : Time) (current : Nat),
      req.carries = some (d, current) → (req.serve s now').2 ≠ s → token ≤ current := by
    intro req now' current hcarries hchanged
    by_contra hlt
    exact hchanged (by rw [hreached.serve_older hcarries (Nat.lt_of_not_le hlt)])
  refine ⟨?_, ?_, ?_, ?_, ?_⟩
  · intro now' other secs' later s' hlater
    obtain rfl := Answer.token.inj (Prod.mk.inj hlater).1
    exact hreached.lt_nextFencingToken
  · intro now' i₁ t₁ i₂ t₂ h₁ h₂
    have hsame := (Repository.claimant_of_isOwner h₁).symm.trans (Repository.claimant_of_isOwner h₂)
    exact Prod.mk.inj (Option.some.inj hsame)
  · intro req now' old hcarries hold
    exact hreached.serve_older hcarries hold
  · intro req now' hown hne
    obtain ⟨current, hcarries⟩ := (serve_effect s now' req).device hown hne
    exact ⟨current, hcarries, hcurrent req now' current hcarries fun hc => hne (by rw [hc])⟩
  · intro req now' commandId stored hown hstored hdevice hne
    refine ((serve_effect s now' req).stored_command hown hstored hdevice hne).imp_right ?_
    rintro ⟨current, hcarries⟩
    refine ⟨current, hcarries, hcurrent req now' current hcarries ?_⟩
    intro hc
    rw [hc] at hne
    exact hne hstored

namespace Sample

/-- A device that worker `east` holds with token 1. -/
def held : Repository where
  devices :=
    [("device_1",
      { deviceId := "device_1", ownerId := "owner_1", name := "laptop", status := .online,
        tokenHash := "hash", createdAt := 0, outboundSequence := 4 })]
  connectionLeases := [("device_1", ⟨"east", 1, 45⟩)]

/-- The repository after worker `west` took the device over and sent a frame. -/
def takenOver : Repository :=
  ((saveOutboundSequence "device_1" "west" 2 5).serve
    ((claim "device_1" "west" 45).serve held 10).2 11).2

/-- `east` still tries to move the outbound sequence; the frame of `west` stays counted. -/
theorem east_is_fenced :
    (claim "device_1" "west" 45).serve held 10 =
      (.token 2, ((claim "device_1" "west" 45).serve held 10).2) ∧
    (saveOutboundSequence "device_1" "east" 1 4).serve takenOver 12 = (.truth false, takenOver) ∧
    ((takenOver.devices.get "device_1").map Device.outboundSequence) = some 5 := by
  have hclaim : (claim "device_1" "west" 45).serve held 10 =
      (.token 2, ((claim "device_1" "west" 45).serve held 10).2) := by decide
  have hrun : Run step (fun _ _ => True) ((claim "device_1" "west" 45).serve held 10).2 takenOver :=
    Run.refl.tail (e := (11, saveOutboundSequence "device_1" "west" 2 5)) trivial rfl
  have hfenced := (older_workers_fenced hclaim hrun).2.2.1
    (saveOutboundSequence "device_1" "east" 1 4) 12 1 rfl (by decide)
  exact ⟨hclaim, hfenced, by decide⟩

end Sample

end Request

end Arena402.Gateway
