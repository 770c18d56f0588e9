/-
The accounting of every reachable repository.

A mandate's `reserved_atomic` covers what its open reservations hold, every entry is one
its constructor accepts and names a mandate that exists, and an intent never points at a
missing entry.  Each operation keeps this, so in every reachable state a `reserved` entry
can be released: nothing in `release_reservation` can raise but its own conflict checks.
-/
import Arena402.Proofs.Payments.Repository

namespace Arena402.Payments

open Py

/-- What a reservation holds of the budget of a mandate. -/
def holds (mandateId : String) (r : PaymentReservation) : Int :=
  if r.mandateId = mandateId ∧ (r.status = .reserved ∨ r.status = .submitted) then
    r.amountAtomic
  else 0

theorem holds_nonneg (mandateId : String) (r : PaymentReservation) : 0 ≤ holds mandateId r := by
  unfold holds
  split
  · exact Int.natCast_nonneg _
  · exact le_refl 0

/-- A table entry is stored under its own id, is one the constructor accepts, and names a
    mandate that exists. -/
structure EntryOk (s : Repository) (e : String × PaymentReservation) : Prop where
  key : e.2.reservationId = e.1
  payee : IsAddress e.2.payee
  shape : e.2.shapeError = none
  mandate : ∃ m, s.mandates.get e.2.mandateId = some m

/-- A mandate is stored under its own id and its accounting covers what is held of it. -/
structure MandateOk (s : Repository) (id : String) (m : PaymentMandate) : Prop where
  key : m.mandateId = id
  accepted : m.accountingError = none
  covers : Dict.total (fun _ => holds id) s.reservations ≤ m.reservedAtomic

/-- The revocation mark is not part of what is checked. -/
theorem MandateOk.revoked {s : Repository} {id : String} {m : PaymentMandate}
    (h : MandateOk s id m) (now : UtcDateTime) :
    MandateOk s id { m with revokedAt := some now } :=
  ⟨h.key, h.accepted, h.covers⟩

/-- What every reachable repository satisfies. -/
structure Repository.Kept (s : Repository) : Prop where
  entries : ∀ e ∈ s.reservations, EntryOk s e
  mandates : ∀ id m, s.mandates.get id = some m → MandateOk s id m
  intents : ∀ i id, s.reservationsByIntent.get i = some id →
    ∃ r, s.reservations.get id = some r

namespace Repository

variable {s s' : Repository} {id : String} {r r' : PaymentReservation}

/-- Construction changes nothing in a reservation whose payee is an address already. -/
theorem construct_of_address (hp : IsAddress r.payee) (hs : r.shapeError = none) :
    r.construct = .ok r := by
  have hr : ({ r with payee := lower r.payee } : PaymentReservation) = r := by rw [hp.2]
  unfold PaymentReservation.construct
  rw [if_neg (by simp [hp.1]), hr]
  dsimp only
  rw [hs]

theorem construct_payee (hp : IsAddress r.payee) (h : r.construct = .ok r') : r' = r := by
  obtain ⟨-, rfl, -⟩ := construct_ok h
  rw [hp.2]

theorem Kept.entry (hk : s.Kept) (h : s.reservations.get id = some r) : EntryOk s (id, r) :=
  hk.entries _ (Dict.mem_of_get h)

theorem Kept.reservationFor (hk : s.Kept) {i : String} (h : s.reservationFor i = some r) :
    s.reservationsByIntent.get i = some r.reservationId ∧
      s.reservations.get r.reservationId = some r := by
  obtain ⟨k, hi, hget⟩ := Option.bind_eq_some_iff.mp h
  have hid : r.reservationId = k := (hk.entry hget).key
  rw [hid]
  exact ⟨hi, hget⟩

/-! ### Writes -/

/-- The mandates after one of them was written. -/
theorem get_set_mandate {mandates : Dict String PaymentMandate} {k k' : String}
    {m m' : PaymentMandate} (h : (mandates.set k m).get k' = some m') :
    (k' = k ∧ m' = m) ∨ (k' ≠ k ∧ mandates.get k' = some m') := by
  rw [Dict.get_set] at h
  by_cases hk : k' = k
  · rw [if_pos hk] at h
    exact Or.inl ⟨hk, (Option.some.inj h).symm⟩
  · rw [if_neg hk] at h
    exact Or.inr ⟨hk, h⟩

/-- A mandate that exists still exists after a write. -/
theorem exists_get_set {mandates : Dict String PaymentMandate} {k k' : String}
    (m : PaymentMandate) (h : ∃ x, mandates.get k' = some x) :
    ∃ x, (mandates.set k m).get k' = some x := by
  rw [Dict.get_set]
  by_cases hk : k' = k
  · rw [if_pos hk]
    exact ⟨m, rfl⟩
  · rw [if_neg hk]
    exact h

/-- The operations that replace an entry `r` by `r'` and move the accounting of its mandate
    keep the repository, when the accounting moves by at least what the entry held less. -/
theorem Kept.replace (hk : s.Kept) (r' : PaymentReservation) (m' : PaymentMandate)
    (hget : s.reservations.get id = some r) {m : PaymentMandate}
    (hm : s.mandates.get r.mandateId = some m) (hid' : r'.reservationId = id)
    (hmandate' : r'.mandateId = r.mandateId) (hpayee' : IsAddress r'.payee)
    (hshape' : r'.shapeError = none) (hm'id : m'.mandateId = m.mandateId)
    (hm'acc : m'.accountingError = none)
    (hmove : m.reservedAtomic + (holds r.mandateId r' - holds r.mandateId r) ≤ m'.reservedAtomic) :
    Kept { s with
      mandates := s.mandates.set m.mandateId m'
      reservations := s.reservations.set id r' } := by
  have hmok := hk.mandates _ _ hm
  have hkey : m.mandateId = r.mandateId := hmok.key
  have htotal : ∀ k, Dict.total (fun _ => holds k) (s.reservations.set id r')
      = Dict.total (fun _ => holds k) s.reservations + holds k r' - holds k r := by
    intro k
    rw [Dict.total_set, hget]
    rfl
  refine ⟨?_, ?_, ?_⟩
  · intro e he
    rcases Dict.mem_set he with rfl | hold
    · refine ⟨hid', hpayee', hshape', ?_⟩
      show ∃ x, (s.mandates.set m.mandateId m').get r'.mandateId = some x
      exact exists_get_set m' (hmandate' ▸ ⟨m, hm⟩)
    · obtain ⟨h1, h2, h3, h4⟩ := hk.entries e hold
      exact ⟨h1, h2, h3, exists_get_set m' h4⟩
  · intro k x hx
    rcases get_set_mandate hx with ⟨hkm, rfl⟩ | ⟨hkm, hold⟩
    · rw [hkey] at hkm
      subst hkm
      refine ⟨hm'id.trans hkey, hm'acc, ?_⟩
      show Dict.total (fun _ => holds r.mandateId) (s.reservations.set id r') ≤ x.reservedAtomic
      have hcov := hmok.covers
      rw [htotal]
      omega
    · have hxok := hk.mandates _ _ hold
      refine ⟨hxok.key, hxok.accepted, ?_⟩
      show Dict.total (fun _ => holds k) (s.reservations.set id r') ≤ x.reservedAtomic
      have hne : r.mandateId ≠ k := fun hc => hkm (by rw [hkey, hc])
      have h0 : holds k r' = 0 := by simp [holds, hmandate', hne]
      have h1 : holds k r = 0 := by simp [holds, hne]
      rw [htotal, h0, h1]
      have hcov := hxok.covers
      omega
  · intro i k hi
    obtain ⟨x, hx⟩ := hk.intents i k hi
    show ∃ y, (s.reservations.set id r').get k = some y
    rw [Dict.get_set]
    by_cases hkid : k = id
    · rw [if_pos hkid]
      exact ⟨r', rfl⟩
    · rw [if_neg hkid]
      exact ⟨x, hx⟩

/-! ### The operations -/

/-- Finalizing an open entry, which frees what it held. -/
theorem Kept.finalize (hk : s.Kept) (hget : s.reservations.get id = some r)
    (hopen : r.status = .reserved ∨ r.status = .submitted) {x x' : PaymentReservation} {dc : Int}
    (hx : x.status = .consumed ∨ x.status = .released) (hxid : x.reservationId = r.reservationId)
    (hxm : x.mandateId = r.mandateId) (hxp : x.payee = r.payee)
    (h : s.finalize id x (-r.amountAtomic) dc = .ok (s', x')) : s'.Kept := by
  have he := hk.entry hget
  obtain ⟨hcon, m, hm, hacc, rfl⟩ := finalize_ok h
  have hpayee : IsAddress x.payee := hxp ▸ he.payee
  obtain ⟨-, -, hshape⟩ := construct_ok hcon
  obtain rfl := construct_payee hpayee hcon
  have hheld : holds r.mandateId r = r.amountAtomic := by simp [holds, hopen]
  have hfreed : holds r.mandateId x' = 0 := by
    rcases hx with hx | hx <;> simp [holds, hx]
  refine hk.replace x' _ hget (hxm ▸ hm) (hxid.trans he.key) hxm hpayee hshape rfl hacc ?_
  rw [hheld, hfreed]
  show m.reservedAtomic + (0 - (r.amountAtomic : Int)) ≤ m.reservedAtomic + -r.amountAtomic
  omega

theorem Kept.release (hk : s.Kept) {reason : String} {now : UtcDateTime}
    (h : s.releaseReservation id reason now = .ok (s', r')) : s'.Kept := by
  rcases releaseReservation_ok h with rfl | ⟨r, hget, hres, hfin⟩
  · exact hk
  · refine hk.finalize hget (Or.inl hres) (Or.inr ?_) ?_ ?_ ?_ hfin <;> rfl

theorem Kept.consume (hk : s.Kept) {tx : String} {now : UtcDateTime}
    (h : s.consumeReservation id tx now = .ok (s', r')) : s'.Kept := by
  rcases consumeReservation_ok h with rfl | ⟨r, hget, hopen, hfin⟩
  · exact hk
  · refine hk.finalize hget hopen (Or.inl ?_) ?_ ?_ ?_ hfin <;> rfl

/-- A submission keeps the entry open, so nothing is freed. -/
theorem Kept.submit (hk : s.Kept) {tx : String}
    (h : s.submitReservation id tx = .ok (s', r')) : s'.Kept := by
  rcases submitReservation_ok h with rfl | ⟨r, hget, hres, hcon, rfl⟩
  · exact hk
  have he := hk.entry hget
  obtain ⟨m, hm⟩ := he.mandate
  have hmok := hk.mandates _ _ hm
  obtain ⟨-, -, hshape⟩ := construct_ok hcon
  obtain rfl := construct_payee (r := { r with status := .submitted, txHash := some (lower tx) })
    he.payee hcon
  have hmandates : s.mandates.set m.mandateId m = s.mandates := by
    refine Dict.set_get_self ?_
    rw [hmok.key]
    exact hm
  have hkept := hk.replace { r with status := .submitted, txHash := some (lower tx) } m
    hget hm he.key rfl he.payee hshape rfl hmok.accepted (by simp [holds, hres])
  rw [hmandates] at hkept
  exact hkept

theorem Kept.reserve (hk : s.Kept) {identifier : ReservationKey → String} {mandateId : String}
    {terms : SettlementTerms} {now : UtcDateTime}
    (h : s.reserveMandate identifier mandateId terms now = .ok (s', r)) : s'.Kept := by
  rcases reserveMandate_ok h with ⟨rfl, -, -⟩ | ⟨-, m, hm, -, hcon, hacc, rfl⟩
  · exact hk
  have hmok := hk.mandates _ _ hm
  obtain ⟨-, -, hshape⟩ := construct_ok hcon
  obtain rfl := construct_payee (r := newReservation identifier mandateId terms now)
    terms.payeeAddress hcon
  set r := newReservation identifier mandateId terms now with hr
  -- the entry may replace another one, which then frees what that one held
  have htotal : ∀ k, Dict.total (fun _ => holds k) (s.reservations.set r.reservationId r)
      ≤ Dict.total (fun _ => holds k) s.reservations + holds k r := by
    intro k
    rw [Dict.total_set]
    have : 0 ≤ ((s.reservations.get r.reservationId).map (holds k)).getD 0 := by
      cases s.reservations.get r.reservationId with
      | none => exact le_refl 0
      | some old => exact holds_nonneg k old
    omega
  refine ⟨?_, ?_, ?_⟩
  · intro e he
    rcases Dict.mem_set he with rfl | hold
    · refine ⟨rfl, terms.payeeAddress, hshape, ?_⟩
      show ∃ x, (s.mandates.set mandateId _).get mandateId = some x
      exact exists_get_set _ ⟨m, hm⟩
    · obtain ⟨h1, h2, h3, h4⟩ := hk.entries e hold
      exact ⟨h1, h2, h3, exists_get_set _ h4⟩
  · intro k x hx
    have hk' := htotal k
    rcases get_set_mandate hx with ⟨rfl, rfl⟩ | ⟨hkm, hold⟩
    · refine ⟨hmok.key, hacc, ?_⟩
      have hheld : holds k r = terms.amountAtomic := by simp [holds, hr, newReservation]
      have hcov := hmok.covers
      show Dict.total (fun _ => holds k) (s.reservations.set r.reservationId r)
        ≤ m.reservedAtomic + terms.amountAtomic
      omega
    · have hxok := hk.mandates _ _ hold
      refine ⟨hxok.key, hxok.accepted, ?_⟩
      have hheld : holds k r = 0 := by simp [holds, hr, newReservation, Ne.symm hkm]
      have hcov := hxok.covers
      show Dict.total (fun _ => holds k) (s.reservations.set r.reservationId r) ≤ x.reservedAtomic
      omega
  · intro i k hi
    show ∃ y, (s.reservations.set r.reservationId r).get k = some y
    rw [Dict.get_set]
    by_cases hkid : k = r.reservationId
    · rw [if_pos hkid]
      exact ⟨r, rfl⟩
    · rw [if_neg hkid]
      change (s.reservationsByIntent.set _ _).get i = some k at hi
      rw [Dict.get_set] at hi
      by_cases hit : i = terms.settlementIntentId
      · rw [if_pos hit] at hi
        exact absurd (Option.some.inj hi).symm hkid
      · rw [if_neg hit] at hi
        exact hk.intents i k hi

/-- Revoking changes no accounting. -/
theorem Kept.mandates_only (hk : s.Kept) {mandates : Dict String PaymentMandate}
    (hex : ∀ k, (∃ x, s.mandates.get k = some x) → ∃ x, mandates.get k = some x)
    (hok : ∀ k x, mandates.get k = some x → MandateOk s k x) :
    Kept { s with mandates := mandates } := by
  refine ⟨?_, ?_, ?_⟩
  · intro e he
    obtain ⟨h1, h2, h3, h4⟩ := hk.entries e he
    exact ⟨h1, h2, h3, hex _ h4⟩
  · intro k x hx
    obtain ⟨h1, h2, h3⟩ := hok k x hx
    exact ⟨h1, h2, h3⟩
  · exact hk.intents

theorem Kept.revoke (hk : s.Kept) {mandateId userId : String} {now : UtcDateTime}
    {m : PaymentMandate} (h : s.revokeMandate mandateId userId now = .ok (s', m)) : s'.Kept := by
  unfold revokeMandate at h
  split at h
  · cases h
  rename_i m₀ hm
  split at h
  · cases h
  split at h
  · cases h
    exact hk
  · cases h
    refine hk.mandates_only (fun k => exists_get_set _) ?_
    intro k x hx
    rcases get_set_mandate hx with ⟨rfl, rfl⟩ | ⟨-, hold⟩
    · exact (hk.mandates _ _ hm).revoked now
    · exact hk.mandates _ _ hold

/-- The mandates after the expired competitors were revoked. -/
theorem get_revokeExpired (m : PaymentMandate) (observedAt : UtcDateTime) (k : String) :
    (s.revokeExpired m observedAt).mandates.get k = (s.mandates.get k).map fun x =>
      if competes m x && x.expiresAt ≤ observedAt then { x with revokedAt := some observedAt }
      else x := by
  rw [← Dict.get_map]
  unfold revokeExpired
  congr 1
  refine List.map_congr_left fun e _ => ?_
  by_cases hc : (competes m e.2 && decide (e.2.expiresAt ≤ observedAt)) = true
  · rw [if_pos hc, if_pos hc]
  · rw [if_neg hc, if_neg hc]

theorem Kept.revokeExpired (hk : s.Kept) (m : PaymentMandate) (observedAt : UtcDateTime) :
    (s.revokeExpired m observedAt).Kept := by
  refine hk.mandates_only ?_ ?_
  · rintro k ⟨x, hx⟩
    have hget := get_revokeExpired (s := s) m observedAt k
    rw [hx] at hget
    exact ⟨_, hget⟩
  · intro k x hx
    have hget : (s.revokeExpired m observedAt).mandates.get k = some x := hx
    rw [get_revokeExpired] at hget
    obtain ⟨y, hy, rfl⟩ := Option.map_eq_some_iff.mp hget
    by_cases hc : (competes m y && decide (y.expiresAt ≤ observedAt)) = true
    · rw [if_pos hc]
      exact (hk.mandates _ _ hy).revoked observedAt
    · rw [if_neg hc]
      exact hk.mandates _ _ hy

/-- Nothing is held of a mandate that does not exist. -/
theorem Kept.total_of_missing (hk : s.Kept) {k : String} (h : s.mandates.get k = none) :
    Dict.total (fun _ => holds k) s.reservations = 0 := by
  refine Dict.total_eq_zero fun e he => ?_
  obtain ⟨m, hm⟩ := (hk.entries e he).mandate
  have hne : e.2.mandateId ≠ k := by
    intro hc
    rw [hc, h] at hm
    cases hm
  simp [holds, hne]

theorem Kept.create (hk : s.Kept) (m : PaymentMandate) (accepted : m.accountingError = none)
    (observedAt : UtcDateTime) : (s.createMandate m observedAt).1.Kept := by
  unfold createMandate
  by_cases hconflict : (s.mandates.get m.mandateId).any (· ≠ m) = true
  · rw [if_pos hconflict]
    exact hk
  rw [if_neg hconflict]
  dsimp only
  have hk' := hk.revokeExpired m observedAt
  split
  · exact hk'
  · refine hk'.mandates_only (fun k => exists_get_set _) ?_
    intro k x hx
    rcases get_set_mandate hx with ⟨rfl, rfl⟩ | ⟨-, hold⟩
    · refine ⟨rfl, accepted, ?_⟩
      show Dict.total (fun _ => holds x.mandateId) s.reservations ≤ x.reservedAtomic
      cases hget : s.mandates.get x.mandateId with
      | none =>
          rw [hk.total_of_missing hget]
          exact ((accountingError_none_iff x).mp accepted).1
      | some y =>
          obtain rfl : y = x := by
            rw [hget] at hconflict
            simpa using hconflict
          exact (hk.mandates _ _ hget).covers
    · exact hk'.mandates _ _ hold

/-- Every operation keeps the repository, whether it raises or not. -/
theorem apply_kept {identifier : ReservationKey → String} (hk : s.Kept) (op : Operation) :
    (s.apply identifier op).Kept := by
  have stateOr_kept : ∀ {α : Type} (result : Except PaymentError (Repository × α)),
      (∀ t x, result = .ok (t, x) → t.Kept) → (s.stateOr result).Kept := by
    intro α result h
    cases result with
    | error e => exact hk
    | ok p => exact h p.1 p.2 rfl
  cases op with
  | create m accepted observedAt => exact hk.create m accepted observedAt
  | revoke mandateId userId now => exact stateOr_kept _ fun t x h => hk.revoke h
  | reserve mandateId terms now => exact stateOr_kept _ fun t x h => hk.reserve h
  | consume id tx now => exact stateOr_kept _ fun t x h => hk.consume h
  | submit id tx => exact stateOr_kept _ fun t x h => hk.submit h
  | release id reason now => exact stateOr_kept _ fun t x h => hk.release h

/-- **Every reachable repository keeps its accounts.** -/
theorem Reachable.kept {identifier : ReservationKey → String} (h : Reachable identifier s) :
    s.Kept := by
  refine Trans.Run.invariant (I := Kept) ?_ ?_ h
  · refine ⟨?_, ?_, ?_⟩
    · intro e he
      cases he
    · intro k m hm
      cases hm
    · intro i k hi
      cases hi
  · intro t op u ht _ hstep
    obtain rfl := Option.some.inj hstep
    exact apply_kept ht op

/-! ### A reserved entry can be released -/

/-- The entry a release leaves. -/
def releasedEntry (r : PaymentReservation) (reason : String) (now : UtcDateTime) :
    PaymentReservation :=
  { r with
    status := .released
    finalizedAt := some now
    releaseReason := some reason }

theorem releasedEntry_construct (he : EntryOk s (id, r)) (hres : r.status = .reserved)
    {reason : String} (hreason : reason ≠ "") (now : UtcDateTime) :
    (releasedEntry r reason now).construct = .ok (releasedEntry r reason now) := by
  obtain ⟨-, htx, -⟩ := shape_reserved hres he.shape
  refine construct_of_address he.payee ?_
  simp [PaymentReservation.shapeError, releasedEntry, htx, hreason]

/-- In a kept repository the release of a `reserved` entry raises nothing. -/
theorem Kept.release_reserved (hk : s.Kept) (hget : s.reservations.get id = some r)
    (hres : r.status = .reserved) (reason : String) (hreason : reason ≠ "")
    (hlen : reason.length ≤ 100) (now : UtcDateTime) :
    ∃ s', s.releaseReservation id reason now = .ok (s', releasedEntry r reason now) ∧
      s'.reservationsByIntent = s.reservationsByIntent ∧
      s'.reservations.get id = some (releasedEntry r reason now) := by
  have he := hk.entry hget
  obtain ⟨m, hm⟩ := he.mandate
  have hmok := hk.mandates _ _ hm
  have hheld : (r.amountAtomic : Int) ≤ m.reservedAtomic := by
    have hle := Dict.le_total (fun _ => holds_nonneg r.mandateId) hget
    have hholds : holds r.mandateId r = r.amountAtomic := by simp [holds, hres]
    have hcov := hmok.covers
    dsimp only at hcov
    omega
  have hacc : (m.account (m.reservedAtomic + -r.amountAtomic)
      (m.consumedAtomic + 0)).accountingError = none := by
    rw [accountingError_none_iff]
    obtain ⟨-, h2, h3⟩ := (accountingError_none_iff m).mp hmok.accepted
    simp only [PaymentMandate.account]
    omega
  have hfin := finalize_of_accepted id (releasedEntry_construct he hres hreason now) hm hacc
  have hreservation : s.reservation id = .ok r := by
    unfold reservation
    rw [hget]
  have hrelease : s.releaseReservation id reason now
      = s.finalize id (releasedEntry r reason now) (-r.amountAtomic) 0 := by
    unfold releaseReservation
    rw [if_neg (by simp [hreason]; omega), hreservation]
    dsimp only
    rw [if_neg (by simp [hres]), if_neg (by simp [hres])]
    rfl
  exact ⟨_, hrelease.trans hfin, rfl, Dict.get_set_self _ _ _⟩

end Repository

end Arena402.Payments
