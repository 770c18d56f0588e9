/-
A device token goes to the Connector whose pairing was approved, and to nobody else.

A stored pairing has one creation behind it, and its status says which approvals and
enrolments there were.  `Consistent` is that, together with the exactness of the index by
device code.  Expiry only takes pairings out of the way: a record that is removed, or
marked as expired, was never exchanged.
-/
import Arena402.Lib.Rows
import Arena402.Gateway.PairingCalls

namespace Arena402.Gateway

open Py

/-- A pairing that counts against the capacity. -/
def Pairing.isOpen (record : Pairing) : Bool :=
  record.status = .pending ∨ record.status = .approved

/-- The number of open pairings. -/
def ConnectorGateway.openPairings (g : ConnectorGateway) : Nat :=
  (g.pairings.filter fun item => item.2.isOpen).length

namespace PairingWorld

variable {digest : String → String} {w w' : PairingWorld} {now : Time} {code hash : String}
  {r r' : Pairing}

/-- What pairing promises. -/
structure Sound (digest : String → String) (w : PairingWorld) : Prop where
  /-- A pairing enrols one device at most. -/
  once : (w.enrolments.map Enrolment.pairingId).Nodup
  /-- It does so with its own device code and before its expiry. -/
  own : ∀ e ∈ w.enrolments, ∃ c ∈ w.created,
    c.pairingId = e.pairingId ∧ c.deviceCode = e.deviceCode ∧ e.time < c.expiresAt
  /-- Exactly one owner has approved it, and the device is that owner's. -/
  approved : ∀ e ∈ w.enrolments, ∃ owner device,
    w.approvalsOf e.pairingId = [⟨e.pairingId, owner⟩] ∧
      w.gateway.devices.get e.deviceId = some device ∧ device.ownerId = owner
  /-- The index has the device codes of the stored pairings that are not consumed. -/
  index : ∀ hash code, w.gateway.pairingsByDeviceCode.get hash = some code ↔
    ∃ record, w.gateway.pairings.get code = some record ∧ record.status ≠ .consumed ∧
      record.deviceCodeHash = hash
  bound : w.gateway.openPairings ≤ w.gateway.maxPendingPairings

/-- The approvals that the status of a record stands for. -/
def ApprovalsMatch (w : PairingWorld) (record : Pairing) : Prop :=
  match record.status with
  | .pending => w.approvalsOf record.pairingId = []
  | .approved => ∃ owner, record.ownerId = some owner ∧
      w.approvalsOf record.pairingId = [⟨record.pairingId, owner⟩]
  | .consumed => ∃ owner, record.ownerId = some owner ∧
      w.approvalsOf record.pairingId = [⟨record.pairingId, owner⟩]
  | .expired => True

/-- A stored pairing is one that was created. -/
structure Originates (digest : String → String) (c : Created) (code : String) (record : Pairing) :
    Prop where
  pairingId : c.pairingId = record.pairingId
  userCode : c.userCode = code
  deviceCode : digest c.deviceCode = record.deviceCodeHash
  expiresAt : c.expiresAt = record.expiresAt

structure Consistent (digest : String → String) (w : PairingWorld) : Prop extends
    Sound digest w where
  ids : (w.created.map Created.pairingId).Nodup
  codes : (w.created.map fun c => digest c.deviceCode).Nodup
  keys : w.gateway.pairings.keys.Nodup
  origin : ∀ code record, w.gateway.pairings.get code = some record →
    ∃ c ∈ w.created, Originates digest c code record
  status : ∀ code record, w.gateway.pairings.get code = some record → w.ApprovalsMatch record
  logged : ∀ a ∈ w.approvals, ∃ c ∈ w.created, c.pairingId = a.pairingId
  /-- The pairing of an enrolment is still stored. -/
  consumed : ∀ e ∈ w.enrolments, ∃ code record, w.gateway.pairings.get code = some record ∧
    record.pairingId = e.pairingId ∧ record.status = .consumed

/-- Two stored pairings with one id are one. -/
theorem Consistent.same_of_id (h : Consistent digest w) {code' : String}
    (hr : w.gateway.pairings.get code = some r) (hr' : w.gateway.pairings.get code' = some r')
    (hid : r.pairingId = r'.pairingId) : code = code' ∧ r = r' := by
  obtain ⟨c, hc, horigin⟩ := h.origin code r hr
  obtain ⟨c', hc', horigin'⟩ := h.origin code' r' hr'
  have hsame : c = c' := List.inj_on_of_nodup_map h.ids hc hc'
    (horigin.pairingId.trans (hid.trans horigin'.pairingId.symm))
  obtain rfl : code = code' := by rw [← horigin.userCode, hsame, horigin'.userCode]
  exact ⟨rfl, Option.some.inj (hr.symm.trans hr')⟩

/-- So are two with one device code. -/
theorem Consistent.same_of_hash (h : Consistent digest w) {code' : String}
    (hr : w.gateway.pairings.get code = some r) (hr' : w.gateway.pairings.get code' = some r')
    (hhash : r.deviceCodeHash = r'.deviceCodeHash) : code = code' := by
  obtain ⟨c, hc, horigin⟩ := h.origin code r hr
  obtain ⟨c', hc', horigin'⟩ := h.origin code' r' hr'
  have hsame : c = c' := List.inj_on_of_nodup_map h.codes hc hc'
    (horigin.deviceCode.trans (hhash.trans horigin'.deviceCode.symm))
  rw [← horigin.userCode, hsame, horigin'.userCode]

/-- A pairing that is not consumed has no enrolment. -/
theorem Consistent.not_enrolled (h : Consistent digest w)
    (hr : w.gateway.pairings.get code = some r) (hopen : r.status ≠ .consumed) :
    ∀ e ∈ w.enrolments, e.pairingId ≠ r.pairingId := by
  intro e he hid
  obtain ⟨code', r', hr', hid', hconsumed⟩ := h.consumed e he
  obtain ⟨-, rfl⟩ := h.same_of_id hr' hr (hid'.trans hid)
  exact hopen hconsumed

/-! ### Expired pairings go -/

/-- A record that `_remove_expired_pairings` drops. -/
def stale (now : Time) (record : Pairing) : Bool :=
  record.status ≠ .consumed && record.expiresAt ≤ now

theorem removeExpired_pairings (g : ConnectorGateway) :
    (g.removeExpiredPairings now).pairings = g.pairings.filter fun item => !stale now item.2 :=
  rfl

theorem removeExpired_index (g : ConnectorGateway) (hash : String) :
    (g.removeExpiredPairings now).pairingsByDeviceCode.get hash =
      if g.pairings.any (fun item => stale now item.2 && item.2.deviceCodeHash == hash) then none
      else g.pairingsByDeviceCode.get hash := by
  have hget := Dict.get_filter_key (fun key => !g.pairings.any fun item =>
    stale now item.2 && item.2.deviceCodeHash == key) g.pairingsByDeviceCode hash
  refine Eq.trans hget ?_
  by_cases hany : g.pairings.any (fun item => stale now item.2 && item.2.deviceCodeHash == hash)
  · simp only [hany, if_true, Bool.not_true]
    rfl
  · simp only [hany]
    rfl

theorem Consistent.removeExpired (h : Consistent digest w) (now : Time) :
    Consistent digest { w with gateway := w.gateway.removeExpiredPairings now } := by
  have hback : ∀ code record,
      (w.gateway.removeExpiredPairings now).pairings.get code = some record →
        w.gateway.pairings.get code = some record ∧ stale now record = false := by
    intro code record hget
    rw [removeExpired_pairings, Dict.get_filter_value h.keys (fun r => !stale now r)] at hget
    simpa using Option.filter_eq_some_iff.mp hget
  have hkept : ∀ code record, w.gateway.pairings.get code = some record →
      stale now record = false →
        (w.gateway.removeExpiredPairings now).pairings.get code = some record := by
    intro code record hget hstale
    rw [removeExpired_pairings, Dict.get_filter_value h.keys (fun r => !stale now r), hget]
    simp [hstale]
  refine ⟨⟨h.once, h.own, h.approved, ?_, ?_⟩, h.ids, h.codes, ?_, ?_, ?_, h.logged, ?_⟩
  · intro hash code
    show (w.gateway.removeExpiredPairings now).pairingsByDeviceCode.get hash = some code ↔ _
    rw [removeExpired_index]
    constructor
    · intro hget
      by_cases hany : w.gateway.pairings.any fun item =>
          stale now item.2 && item.2.deviceCodeHash == hash
      · rw [if_pos hany] at hget
        cases hget
      · rw [if_neg hany] at hget
        obtain ⟨record, hrecord, hopen, hhash⟩ := (h.index hash code).mp hget
        refine ⟨record, hkept code record hrecord ?_, hopen, hhash⟩
        by_contra hstale
        refine hany (List.any_eq_true.mpr ⟨_, Dict.mem_of_get hrecord, ?_⟩)
        simp [hhash, Bool.not_eq_false _ ▸ hstale]
    · rintro ⟨record, hrecord, hopen, hhash⟩
      obtain ⟨hrecord, hstale⟩ := hback code record hrecord
      have hany : ¬ w.gateway.pairings.any (fun item =>
          stale now item.2 && item.2.deviceCodeHash == hash) = true := by
        intro hany
        obtain ⟨⟨code', other⟩, hmem, hother⟩ := List.any_eq_true.mp hany
        simp only [Bool.and_eq_true, beq_iff_eq] at hother
        have hget := Dict.get_of_mem h.keys hmem
        obtain rfl := h.same_of_hash hrecord hget (hhash.trans hother.2.symm)
        rw [hrecord] at hget
        obtain rfl := Option.some.inj hget
        rw [hstale] at hother
        cases hother.1
      rw [if_neg hany]
      exact (h.index hash code).mpr ⟨record, hrecord, hopen, hhash⟩
  · exact (List.Sublist.filter _ List.filter_sublist).length_le.trans h.bound
  · exact Dict.nodup_keys_filter h.keys _
  · exact fun code record hget => h.origin code record (hback code record hget).1
  · exact fun code record hget => h.status code record (hback code record hget).1
  · intro e he
    obtain ⟨code, record, hget, hid, hconsumed⟩ := h.consumed e he
    refine ⟨code, record, hkept code record hget ?_, hid, hconsumed⟩
    simp [stale, hconsumed]

/-! ### A record that takes another's place -/

/-- A record of the same pairing, no more open than the one it replaces and consumed as it
    was. -/
structure Replaces (old new : Pairing) : Prop where
  pairingId : new.pairingId = old.pairingId
  deviceCodeHash : new.deviceCodeHash = old.deviceCodeHash
  expiresAt : new.expiresAt = old.expiresAt
  isOpen : new.isOpen = true → old.isOpen = true
  consumed : new.status = .consumed ↔ old.status = .consumed

/-- The approvals match a record as they did, when those of its pairing are the same. -/
theorem ApprovalsMatch.congr (h : w.ApprovalsMatch r)
    (hsame : w'.approvalsOf r.pairingId = w.approvalsOf r.pairingId) : w'.ApprovalsMatch r := by
  unfold ApprovalsMatch at h ⊢
  rwa [hsame]

/-- A record that takes another's place, with approvals that only that pairing gets. -/
theorem Consistent.replace (h : Consistent digest w) (hget : w.gateway.pairings.get code = some r)
    (hreplaces : Replaces r r') {approvals : List Approval}
    (hmatch : ApprovalsMatch { w with approvals } r')
    (hothers : ∀ id, id ≠ r.pairingId ∨ r.status = .consumed →
      approvalsOf { w with approvals } id = w.approvalsOf id)
    (hlogged : ∀ a ∈ approvals, ∃ c ∈ w.created, c.pairingId = a.pairingId) :
    Consistent digest { w with
      gateway := { w.gateway with pairings := w.gateway.pairings.set code r' }
      approvals } := by
  refine ⟨⟨h.once, h.own, ?_, ?_, ?_⟩, h.ids, h.codes, Dict.nodup_keys_set h.keys _ _,
    ?_, ?_, hlogged, ?_⟩
  · intro e he
    obtain ⟨owner, device, happroved, hdevice⟩ := h.approved e he
    refine ⟨owner, device, ?_, hdevice⟩
    rw [← happroved]
    refine hothers e.pairingId ?_
    by_cases hconsumed : r.status = .consumed
    · exact Or.inr hconsumed
    · exact Or.inl (h.not_enrolled hget hconsumed e he)
  · intro hash x
    rw [h.index hash x]
    constructor
    · rintro ⟨record, hrecord, hopen, hhash⟩
      by_cases hx : x = code
      · subst hx
        obtain rfl := Option.some.inj (hget.symm.trans hrecord)
        exact ⟨r', Dict.get_set_self _ _ _, fun hc => hopen (hreplaces.consumed.mp hc),
          hreplaces.deviceCodeHash.trans hhash⟩
      · exact ⟨record, by rw [Dict.get_set_ne _ _ hx, hrecord], hopen, hhash⟩
    · rintro ⟨record, hrecord, hopen, hhash⟩
      refine Dict.of_get_set hrecord ?_ fun _ hold => ⟨record, hold, hopen, hhash⟩
      rintro rfl rfl
      exact ⟨r, hget, fun hc => hopen (hreplaces.consumed.mpr hc),
        hreplaces.deviceCodeHash.symm.trans hhash⟩
  · exact (Dict.length_filter_set_le hget hreplaces.isOpen).trans h.bound
  · intro x record hrecord
    refine Dict.of_get_set hrecord ?_ fun _ hold => h.origin x record hold
    rintro rfl rfl
    obtain ⟨c, hc, horigin⟩ := h.origin x r hget
    exact ⟨c, hc, horigin.pairingId.trans hreplaces.pairingId.symm, horigin.userCode,
      horigin.deviceCode.trans hreplaces.deviceCodeHash.symm,
      horigin.expiresAt.trans hreplaces.expiresAt.symm⟩
  · intro x record hrecord
    refine Dict.of_get_set hrecord ?_ ?_
    · rintro rfl rfl
      exact hmatch
    · intro hx hold
      refine (h.status x record hold).congr (hothers _ (Or.inl ?_))
      exact fun hid => hx (h.same_of_id hold hget hid).1
  · intro e he
    obtain ⟨x, record, hrecord, hid, hconsumed⟩ := h.consumed e he
    by_cases hx : x = code
    · subst hx
      obtain rfl := Option.some.inj (hget.symm.trans hrecord)
      exact ⟨x, r', Dict.get_set_self _ _ _, hreplaces.pairingId.trans hid,
        hreplaces.consumed.mpr hconsumed⟩
    · exact ⟨x, record, by rw [Dict.get_set_ne _ _ hx, hrecord], hid, hconsumed⟩

/-- Marking a record as expired. -/
theorem Consistent.refresh (h : Consistent digest w) (hget : w.gateway.pairings.get code = some r)
    (now : Time) :
    Consistent digest { w with
      gateway := { w.gateway with
        pairings := w.gateway.pairings.set code (ConnectorGateway.refreshPairingExpiry now r) } } := by
  unfold ConnectorGateway.refreshPairingExpiry
  by_cases hexpired : (r.status = .pending ∨ r.status = .approved) ∧ r.expiresAt ≤ now
  · rw [if_pos hexpired]
    have hreplaces : Replaces r { r with status := .expired } := by
      refine ⟨rfl, rfl, rfl, ?_, ?_⟩
      · exact fun hc => by simp [Pairing.isOpen] at hc
      · rcases hexpired.1 with hstatus | hstatus <;> simp [hstatus]
    exact h.replace hget hreplaces trivial (fun _ _ => rfl) h.logged
  · rw [if_neg hexpired]
    exact h.replace hget ⟨rfl, rfl, rfl, id, Iff.rfl⟩ (h.status code r hget) (fun _ _ => rfl)
      h.logged

/-! ### The three calls -/

/-- A new pairing, under codes that no other pairing has. -/
theorem Consistent.create (h : Consistent digest w) (record : Pairing) {deviceCode : String}
    (hids : ∀ c ∈ w.created, c.pairingId ≠ record.pairingId)
    (hcodes : ∀ c ∈ w.created, digest c.deviceCode ≠ digest deviceCode)
    (hhash : record.deviceCodeHash = digest deviceCode)
    (hnone : w.gateway.pairings.get record.userCode = none) (hstatus : record.status = .pending)
    (hroom : w.gateway.openPairings < w.gateway.maxPendingPairings) :
    Consistent digest { w with
      gateway := { w.gateway with
        pairings := w.gateway.pairings.set record.userCode record
        pairingsByDeviceCode :=
          w.gateway.pairingsByDeviceCode.set (digest deviceCode) record.userCode }
      created := w.created ++
        [⟨record.pairingId, record.userCode, deviceCode, record.expiresAt⟩] } := by
  have hunused : ∀ code r, w.gateway.pairings.get code = some r →
      r.deviceCodeHash ≠ digest deviceCode := by
    intro code r hr hsame
    obtain ⟨c, hc, horigin⟩ := h.origin code r hr
    exact hcodes c hc (horigin.deviceCode.trans hsame)
  have hnew : ∀ code, code ≠ record.userCode →
      (w.gateway.pairings.set record.userCode record).get code = w.gateway.pairings.get code :=
    fun code hne => Dict.get_set_ne _ _ hne
  have hold : ∀ code r, w.gateway.pairings.get code = some r → code ≠ record.userCode := by
    rintro code r hr rfl
    rw [hnone] at hr
    cases hr
  refine ⟨⟨h.once, ?_, h.approved, ?_, ?_⟩, ?_, ?_, Dict.nodup_keys_set h.keys _ _, ?_, ?_, ?_, ?_⟩
  · intro e he
    obtain ⟨c, hc, hown⟩ := h.own e he
    exact ⟨c, List.mem_append_left _ hc, hown⟩
  · intro hash code
    rw [Dict.get_set]
    by_cases hsame : hash = digest deviceCode
    · rw [if_pos hsame]
      constructor
      · intro heq
        obtain rfl := Option.some.inj heq
        exact ⟨record, Dict.get_set_self _ _ _, by rw [hstatus]; decide, hhash.trans hsame.symm⟩
      · rintro ⟨r, hr, -, hrhash⟩
        refine Dict.of_get_set hr (fun hcode _ => hcode ▸ rfl) fun _ hr => ?_
        exact absurd (hrhash.trans hsame) (hunused code r hr)
    · rw [if_neg hsame, h.index hash code]
      constructor
      · rintro ⟨r, hr, hopen, hrhash⟩
        exact ⟨r, by rw [hnew code (hold code r hr), hr], hopen, hrhash⟩
      · rintro ⟨r, hr, hopen, hrhash⟩
        refine Dict.of_get_set hr ?_ fun _ hr => ⟨r, hr, hopen, hrhash⟩
        rintro - rfl
        exact absurd (hrhash.symm.trans hhash) hsame
  · show (List.filter _ (w.gateway.pairings.set record.userCode record)).length ≤ _
    rw [Dict.set_of_get_none _ hnone, List.filter_append, List.length_append]
    have hone : (List.filter (fun item : String × Pairing => item.2.isOpen)
        [(record.userCode, record)]).length ≤ 1 := List.length_filter_le _ _
    have hroom : (List.filter (fun item : String × Pairing => item.2.isOpen)
        w.gateway.pairings).length < w.gateway.maxPendingPairings := hroom
    show _ ≤ w.gateway.maxPendingPairings
    omega
  · rw [List.map_append]
    refine List.nodup_append.mpr ⟨h.ids, List.nodup_singleton _, ?_⟩
    intro id hid id' hid' heq
    obtain ⟨c, hc, rfl⟩ := List.mem_map.mp hid
    exact hids c hc (heq.trans (List.mem_singleton.mp hid'))
  · rw [List.map_append]
    refine List.nodup_append.mpr ⟨h.codes, List.nodup_singleton _, ?_⟩
    intro hash hhash' other hother heq
    obtain ⟨c, hc, rfl⟩ := List.mem_map.mp hhash'
    exact hcodes c hc (heq.trans (List.mem_singleton.mp hother))
  · intro code r hr
    refine Dict.of_get_set hr ?_ ?_
    · rintro rfl rfl
      exact ⟨_, List.mem_append_right _ List.mem_cons_self, rfl, rfl, hhash.symm, rfl⟩
    · intro _ hr
      obtain ⟨c, hc, horigin⟩ := h.origin code r hr
      exact ⟨c, List.mem_append_left _ hc, horigin⟩
  · intro code r hr
    refine Dict.of_get_set hr ?_ fun _ hr => h.status code r hr
    rintro rfl rfl
    unfold ApprovalsMatch
    rw [hstatus]
    refine List.filter_eq_nil_iff.mpr fun a ha => ?_
    obtain ⟨c, hc, hid⟩ := h.logged a ha
    simpa [hid] using hids c hc
  · intro a ha
    obtain ⟨c, hc, hid⟩ := h.logged a ha
    exact ⟨c, List.mem_append_left _ hc, hid⟩
  · intro e he
    obtain ⟨code, r, hr, hid, hconsumed⟩ := h.consumed e he
    exact ⟨code, r, by rw [hnew code (hold code r hr), hr], hid, hconsumed⟩

/-- A pending pairing gets its one approval. -/
theorem Consistent.approve (h : Consistent digest w) (hget : w.gateway.pairings.get code = some r)
    (hpending : r.status = .pending) (owner : String) :
    Consistent digest { w with
      gateway := { w.gateway with
        pairings := w.gateway.pairings.set code
          { r with ownerId := some owner, status := .approved } }
      approvals := w.approvals ++ [⟨r.pairingId, owner⟩] } := by
  have hnone : w.approvalsOf r.pairingId = [] := by
    have hmatch := h.status code r hget
    unfold ApprovalsMatch at hmatch
    rwa [hpending] at hmatch
  have hreplaces : Replaces r { r with ownerId := some owner, status := .approved } := by
    refine ⟨rfl, rfl, rfl, ?_, ?_⟩
    · exact fun _ => by simp [Pairing.isOpen, hpending]
    · simp [hpending]
  have hmatch : ApprovalsMatch { w with approvals := w.approvals ++ [⟨r.pairingId, owner⟩] }
      { r with ownerId := some owner, status := .approved } := by
    refine ⟨owner, rfl, ?_⟩
    unfold approvalsOf at hnone ⊢
    simp [List.filter_append, hnone]
  refine h.replace hget hreplaces hmatch ?_ ?_
  · rintro id (hid | hconsumed)
    · unfold approvalsOf
      simp [List.filter_append, Ne.symm hid]
    · rw [hpending] at hconsumed
      cases hconsumed
  · intro a ha
    rcases List.mem_append.mp ha with hold | hnew
    · exact h.logged a hold
    · obtain ⟨c, hc, horigin⟩ := h.origin code r hget
      obtain rfl := List.mem_singleton.mp hnew
      exact ⟨c, hc, horigin.pairingId⟩

/-- An approved pairing is consumed by its own device code. -/
theorem Consistent.exchange (h : Consistent digest w) {deviceCode deviceId : String}
    {device : Device} (hget : w.gateway.pairings.get code = some r)
    (happroved : r.status = .approved) (hexpiry : now < r.expiresAt)
    (hhash : r.deviceCodeHash = digest deviceCode)
    (hcode : ∀ c ∈ w.created, digest c.deviceCode = digest deviceCode → c.deviceCode = deviceCode)
    (hnew : w.gateway.devices.get deviceId = none) (howner : device.ownerId = r.ownerId.getD "") :
    Consistent digest { w with
      gateway := { w.gateway with
        devices := w.gateway.devices.set deviceId device
        pairings := w.gateway.pairings.set code
          { r with status := .consumed, deviceId := some deviceId }
        pairingsByDeviceCode := w.gateway.pairingsByDeviceCode.erase (digest deviceCode) }
      enrolments := w.enrolments ++ [⟨r.pairingId, deviceCode, deviceId, now⟩] } := by
  have hopen : r.status ≠ .consumed := by rw [happroved]; decide
  have hfirst := h.not_enrolled hget hopen
  obtain ⟨c, hc, horigin⟩ := h.origin code r hget
  obtain ⟨owner, hr, hone⟩ : ∃ owner, r.ownerId = some owner ∧
      w.approvalsOf r.pairingId = [⟨r.pairingId, owner⟩] := by
    have hmatch := h.status code r hget
    unfold ApprovalsMatch at hmatch
    rwa [happroved] at hmatch
  refine ⟨⟨?_, ?_, ?_, ?_, ?_⟩, h.ids, h.codes, Dict.nodup_keys_set h.keys _ _, ?_, ?_, h.logged, ?_⟩
  · rw [List.map_append]
    refine List.nodup_append.mpr ⟨h.once, List.nodup_singleton _, ?_⟩
    intro id hid id' hid' heq
    obtain ⟨e, he, rfl⟩ := List.mem_map.mp hid
    exact hfirst e he (heq.trans (List.mem_singleton.mp hid'))
  · intro e he
    rcases List.mem_append.mp he with hold | hlast
    · exact h.own e hold
    · obtain rfl := List.mem_singleton.mp hlast
      exact ⟨c, hc, horigin.pairingId, hcode c hc (horigin.deviceCode.trans hhash),
        by rw [horigin.expiresAt]; exact hexpiry⟩
  · intro e he
    rcases List.mem_append.mp he with hold | hlast
    · obtain ⟨owner', device', happ, hdevice, howner'⟩ := h.approved e hold
      refine ⟨owner', device', happ, ?_, howner'⟩
      exact Dict.get_set_fresh _ hnew hdevice
    · obtain rfl := List.mem_singleton.mp hlast
      refine ⟨owner, device, hone, Dict.get_set_self _ _ _, ?_⟩
      rw [howner, hr]
      rfl
  · intro hash x
    rw [Dict.get_erase]
    by_cases hsame : hash = digest deviceCode
    · rw [if_pos hsame]
      refine ⟨fun hnone => (by cases hnone), ?_⟩
      rintro ⟨record, hrecord, hlive, hrhash⟩
      refine Dict.of_get_set hrecord ?_ ?_
      · rintro rfl rfl
        exact absurd rfl hlive
      · intro hx hold
        have hsamehash : record.deviceCodeHash = r.deviceCodeHash := by
          rw [hrhash, hsame, hhash]
        exact absurd (h.same_of_hash hold hget hsamehash) hx
    · rw [if_neg hsame, h.index hash x]
      constructor
      · rintro ⟨record, hrecord, hlive, hrhash⟩
        refine ⟨record, ?_, hlive, hrhash⟩
        rw [Dict.get_set_ne, hrecord]
        rintro rfl
        obtain rfl := Option.some.inj (hget.symm.trans hrecord)
        exact hsame (hrhash.symm.trans hhash)
      · rintro ⟨record, hrecord, hlive, hrhash⟩
        refine Dict.of_get_set hrecord ?_ fun _ hold => ⟨record, hold, hlive, hrhash⟩
        rintro rfl rfl
        exact absurd rfl hlive
  · refine (Dict.length_filter_set_le hget ?_).trans h.bound
    exact fun hc => by simp [Pairing.isOpen] at hc
  · intro x record hrecord
    refine Dict.of_get_set hrecord ?_ fun _ hold => h.origin x record hold
    rintro rfl rfl
    exact ⟨c, hc, horigin.pairingId, horigin.userCode, horigin.deviceCode, horigin.expiresAt⟩
  · intro x record hrecord
    refine Dict.of_get_set hrecord ?_ fun _ hold => h.status x record hold
    rintro rfl rfl
    exact ⟨owner, hr, hone⟩
  · intro e he
    rcases List.mem_append.mp he with hold | hlast
    · obtain ⟨x, record, hrecord, hid, hconsumed⟩ := h.consumed e hold
      refine ⟨x, record, ?_, hid, hconsumed⟩
      rw [Dict.get_set_ne, hrecord]
      rintro rfl
      obtain rfl := Option.some.inj (hget.symm.trans hrecord)
      exact hopen hconsumed
    · obtain rfl := List.mem_singleton.mp hlast
      exact ⟨code, _, Dict.get_set_self _ _ _, rfl, rfl⟩

/-- A record that is not marked as expired is the stored one, and its time has not come. -/
theorem refresh_eq (h : (ConnectorGateway.refreshPairingExpiry now r).status ≠ .expired) :
    ConnectorGateway.refreshPairingExpiry now r = r ∧
      (r.status = .pending ∨ r.status = .approved → now < r.expiresAt) := by
  unfold ConnectorGateway.refreshPairingExpiry at h ⊢
  by_cases hexpired : (r.status = .pending ∨ r.status = .approved) ∧ r.expiresAt ≤ now
  · rw [if_pos hexpired] at h
    exact absurd rfl h
  · rw [if_neg hexpired]
    exact ⟨rfl, fun hlive => Nat.lt_of_not_le fun hle => hexpired ⟨hlive, hle⟩⟩

theorem Consistent.step_create (h : Consistent digest w)
    {deviceName pairingId userCode deviceCode : String}
    (hfresh : Fresh digest w (now, .create deviceName pairingId userCode deviceCode))
    (hstep : step digest w (now, .create deviceName pairingId userCode deviceCode) = some w') :
    Consistent digest w' := by
  obtain ⟨hnew, hnone⟩ := hfresh
  have hremoved := h.removeExpired now
  simp only [step, ConnectorGateway.createPairing] at hstep
  by_cases hfull : (w.gateway.removeExpiredPairings now).maxPendingPairings ≤
      ((w.gateway.removeExpiredPairings now).pairings.filter fun item =>
        item.2.status = .pending ∨ item.2.status = .approved).length
  · rw [if_pos hfull] at hstep
    obtain rfl := Option.some.inj hstep
    exact hremoved
  · rw [if_neg hfull] at hstep
    obtain rfl := Option.some.inj hstep
    exact hremoved.create
      ⟨pairingId, none, deviceName, userCode, digest deviceCode, .pending, now + 600, none⟩
      (fun c hc => (hnew c hc).1) (fun c hc => (hnew c hc).2) rfl hnone rfl
      (Nat.lt_of_not_le hfull)

theorem Consistent.step_approve (h : Consistent digest w) {userCode owner : String}
    (hstep : step digest w (now, .approve userCode owner) = some w') : Consistent digest w' := by
  simp only [step, ConnectorGateway.approvePairing] at hstep
  cases hget : w.gateway.pairings.get (ConnectorGateway.normalizedUserCode userCode) with
  | none =>
      rw [hget] at hstep
      obtain rfl := Option.some.inj hstep
      exact h
  | some r =>
      rw [hget] at hstep
      dsimp only at hstep
      have hmarked := h.refresh hget now
      by_cases hexpired : (ConnectorGateway.refreshPairingExpiry now r).status = .expired
      · rw [if_pos hexpired] at hstep
        obtain rfl := Option.some.inj hstep
        exact hmarked
      · rw [if_neg hexpired] at hstep
        obtain ⟨hsame, -⟩ := refresh_eq hexpired
        split_ifs at hstep with happroved hconsumed hforeign
        · obtain rfl := Option.some.inj hstep
          exact hmarked
        · obtain rfl := Option.some.inj hstep
          exact hmarked
        · obtain rfl := Option.some.inj hstep
          exact hmarked
        · obtain rfl := Option.some.inj hstep
          rw [hsame] at hexpired happroved hconsumed ⊢
          refine h.approve hget ?_ owner
          cases hstatus : r.status <;> simp_all

theorem Consistent.step_exchange (h : Consistent digest w) {deviceCode deviceId token : String}
    (hfresh : Fresh digest w (now, .exchange deviceCode deviceId token))
    (hstep : step digest w (now, .exchange deviceCode deviceId token) = some w') :
    Consistent digest w' := by
  obtain ⟨hnew, hcode⟩ := hfresh
  simp only [step, ConnectorGateway.exchangePairing, pairingOf] at hstep
  cases hindex : w.gateway.pairingsByDeviceCode.get (digest deviceCode) with
  | none =>
      rw [hindex] at hstep
      obtain rfl := Option.some.inj hstep
      exact h
  | some code =>
      obtain ⟨r, hget, -, hhash⟩ := (h.index _ _).mp hindex
      simp only [hindex, hget, Option.bind_some, Option.map_some] at hstep
      have hmarked := h.refresh hget now
      by_cases hpending : (ConnectorGateway.refreshPairingExpiry now r).status = .pending
      · rw [if_pos hpending] at hstep
        obtain rfl := Option.some.inj hstep
        exact hmarked
      · rw [if_neg hpending] at hstep
        by_cases hexpired : (ConnectorGateway.refreshPairingExpiry now r).status = .expired
        · rw [if_pos hexpired] at hstep
          obtain rfl := Option.some.inj hstep
          exact hmarked
        · rw [if_neg hexpired] at hstep
          obtain ⟨hsame, hlive⟩ := refresh_eq hexpired
          by_cases hconsumed : (ConnectorGateway.refreshPairingExpiry now r).status = .consumed
          · rw [if_pos hconsumed] at hstep
            obtain rfl := Option.some.inj hstep
            exact hmarked
          · rw [if_neg hconsumed] at hstep
            obtain rfl := Option.some.inj hstep
            rw [hsame] at hpending hexpired hconsumed ⊢
            have happroved : r.status = .approved := by
              cases hstatus : r.status <;> simp_all
            exact h.exchange hget happroved (hlive (Or.inr happroved)) hhash hcode hnew rfl

theorem Consistent.step (h : Consistent digest w) {event : Time × PairingCall}
    (hfresh : Fresh digest w event) (hstep : PairingWorld.step digest w event = some w') :
    Consistent digest w' := by
  obtain ⟨now, call⟩ := event
  cases call with
  | create deviceName pairingId userCode deviceCode => exact h.step_create hfresh hstep
  | approve userCode owner => exact h.step_approve hstep
  | exchange deviceCode deviceId token => exact h.step_exchange hfresh hstep

/-- A gateway without pairings. -/
theorem consistent_new (digest : String → String) {g : ConnectorGateway} (hpairings : g.pairings = [])
    (hindex : g.pairingsByDeviceCode = []) : Consistent digest { gateway := g } := by
  have hnone : ∀ code, g.pairings.get code = none := by
    intro code
    rw [hpairings]
    rfl
  refine ⟨⟨List.nodup_nil, ?_, ?_, ?_, ?_⟩, List.nodup_nil, List.nodup_nil, ?_, ?_, ?_, ?_, ?_⟩
  · exact fun e he => by cases he
  · exact fun e he => by cases he
  · intro hash code
    rw [hindex, hnone code]
    simp
  · simp [ConnectorGateway.openPairings, hpairings]
  · rw [hpairings]
    exact List.nodup_nil
  · exact fun code record hget => by simp [hnone] at hget
  · exact fun code record hget => by simp [hnone] at hget
  · exact fun a ha => by cases ha
  · exact fun e he => by cases he

/-- **However the calls of all parties interleave and the clock moves, a pairing enrols one
    device of the one owner who approved it, by its own code and in time.** -/
theorem pairing_sound {g : ConnectorGateway} (hpairings : g.pairings = [])
    (hindex : g.pairingsByDeviceCode = [])
    (hrun : Trans.Run (PairingWorld.step digest) (Fresh digest) { gateway := g } w) :
    Sound digest w := by
  have hconsistent : Consistent digest w :=
    hrun.invariant (consistent_new digest hpairings hindex)
      fun _ _ _ h hfresh hstep => h.step hfresh hstep
  exact hconsistent.toSound

namespace Sample

/-- Two Connectors ask, one is approved and exchanges its code twice, the other is late. -/
def calls : List (Time × PairingCall) :=
  [(0, .create "laptop" "pair_1" "AAAA-AAAA" "code_1"),
    (5, .create "desktop" "pair_2" "BBBB-BBBB" "code_2"),
    (10, .approve "AAAA-AAAA" "owner_1"),
    (20, .exchange "code_1" "device_1" "token_1"),
    (30, .exchange "code_1" "device_2" "token_2"),
    (604, .approve "BBBB-BBBB" "owner_2"),
    (605, .exchange "code_2" "device_3" "token_3")]

/-- One device comes out of it. -/
theorem calls_sound :
    ∃ w, Trans.exec (step id) (Fresh id) { gateway := {} } calls = some w ∧ Sound id w ∧
      w.enrolments = [⟨"pair_1", "code_1", "device_1", 20⟩] := by
  have hexec : ∃ w, Trans.exec (step id) (Fresh id) { gateway := {} } calls = some w ∧
      w.enrolments = [⟨"pair_1", "code_1", "device_1", 20⟩] := by
    refine ⟨_, rfl, ?_⟩
    decide
  obtain ⟨w, hw, henrolments⟩ := hexec
  exact ⟨w, hw, pairing_sound rfl rfl (Trans.run_of_exec calls hw), henrolments⟩

end Sample

end PairingWorld

end Arena402.Gateway
