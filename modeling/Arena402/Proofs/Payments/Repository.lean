/-
What the repository's operations do to the tables.

Each operation on a reservation either leaves the state alone or replaces one entry, so
one inversion lemma per operation says everything the later proofs use: which entry was
there, what it became, and how the mandate's accounting moved.
-/
import Arena402.Payments.Repository

namespace Arena402.Payments

open Py

/-! ### Accounting and construction -/

/-- The mandate with new accounting. -/
def PaymentMandate.account (m : PaymentMandate) (reserved consumed : Int) : PaymentMandate :=
  { m with
    reservedAtomic := reserved
    consumedAtomic := consumed }

theorem withAccounting_ok {m m' : PaymentMandate} {reserved consumed : Int}
    (h : m.withAccounting reserved consumed = .ok m') :
    m' = m.account reserved consumed ∧ m'.accountingError = none := by
  unfold PaymentMandate.withAccounting at h
  dsimp only at h
  split at h
  · cases h
  · rename_i hnone
    cases h
    exact ⟨rfl, hnone⟩

theorem withAccounting_of_accepted {m : PaymentMandate} {reserved consumed : Int}
    (h : (m.account reserved consumed).accountingError = none) :
    m.withAccounting reserved consumed = .ok (m.account reserved consumed) := by
  unfold PaymentMandate.withAccounting
  dsimp only
  unfold PaymentMandate.account at h ⊢
  rw [h]

/-- What the accounting checks accept. -/
theorem accountingError_none_iff (m : PaymentMandate) :
    m.accountingError = none ↔ 0 ≤ m.reservedAtomic ∧ 0 ≤ m.consumedAtomic ∧
      m.reservedAtomic + m.consumedAtomic ≤ m.limits.maxCumulativeAtomic := by
  unfold PaymentMandate.accountingError
  split
  · rename_i h
    simp only [Bool.or_eq_true, decide_eq_true_eq] at h
    simp
    omega
  · rename_i h
    simp only [Bool.or_eq_true, decide_eq_true_eq] at h
    split
    · simp
      omega
    · simp
      omega

theorem construct_ok {r r' : PaymentReservation} (h : r.construct = .ok r') :
    addressPattern r.payee = true ∧ r' = { r with payee := lower r.payee } ∧
      r'.shapeError = none := by
  unfold PaymentReservation.construct at h
  split at h
  · cases h
  · rename_i hpat
    dsimp only at h
    split at h
    · cases h
    · rename_i hshape
      cases h
      exact ⟨by simpa using hpat, rfl, hshape⟩

/-- A `reserved` entry carries nothing of a later status. -/
theorem shape_reserved {r : PaymentReservation} (hst : r.status = .reserved)
    (h : r.shapeError = none) :
    r.finalizedAt = none ∧ r.txHash = none ∧ r.releaseReason = none := by
  unfold PaymentReservation.shapeError at h
  rw [hst] at h
  split at h
  · cases h
  · dsimp only at h
    split at h
    · cases h
    · rename_i hnone
      simpa [and_assoc] using hnone

/-- A `submitted` entry has no release reason. -/
theorem shape_submitted {r : PaymentReservation} (hst : r.status = .submitted)
    (h : r.shapeError = none) : r.releaseReason = none := by
  unfold PaymentReservation.shapeError at h
  rw [hst] at h
  split at h
  · cases h
  · dsimp only at h
    split at h
    · cases h
    · rename_i hnone
      simp only [Bool.or_eq_true, not_or, Bool.not_eq_true, Option.isSome_eq_false_iff,
        Option.isNone_iff_eq_none] at hnone
      exact hnone.2

namespace Repository

variable {s s' : Repository} {id : String} {r r' : PaymentReservation}

theorem reservation_ok (h : s.reservation id = .ok r) : s.reservations.get id = some r := by
  unfold reservation at h
  split at h
  · cases h
  · rename_i hget
    cases h
    exact hget

/-- What `finalize` writes. -/
theorem finalize_ok {dr dc : Int} (h : s.finalize id r dr dc = .ok (s', r')) :
    r.construct = .ok r' ∧ ∃ m, s.mandates.get r.mandateId = some m ∧
      (m.account (m.reservedAtomic + dr) (m.consumedAtomic + dc)).accountingError = none ∧
      s' = { s with
        mandates := s.mandates.set m.mandateId
          (m.account (m.reservedAtomic + dr) (m.consumedAtomic + dc))
        reservations := s.reservations.set id r' } := by
  unfold finalize at h
  split at h
  · cases h
  · rename_i r₁ hr
    split at h
    · cases h
    · rename_i m hm
      split at h
      · cases h
      · rename_i m' hm'
        obtain ⟨rfl, hacc⟩ := withAccounting_ok hm'
        cases h
        exact ⟨hr, m, hm, hacc, rfl⟩

/-- `finalize` on an entry the constructor accepts and accounting the mandate accepts. -/
theorem finalize_of_accepted (id : String) {dr dc : Int} {m : PaymentMandate}
    (hcon : r.construct = .ok r')
    (hm : s.mandates.get r.mandateId = some m)
    (hacc : (m.account (m.reservedAtomic + dr) (m.consumedAtomic + dc)).accountingError = none) :
    s.finalize id r dr dc = .ok ({ s with
      mandates := s.mandates.set m.mandateId
        (m.account (m.reservedAtomic + dr) (m.consumedAtomic + dc))
      reservations := s.reservations.set id r' }, r') := by
  unfold finalize
  rw [hcon]
  dsimp only
  rw [hm]
  dsimp only
  rw [withAccounting_of_accepted hacc]

/-- A release leaves the state alone, or it moves one `reserved` entry to `released`. -/
theorem releaseReservation_ok {reason : String} {now : UtcDateTime}
    (h : s.releaseReservation id reason now = .ok (s', r')) :
    s' = s ∨ ∃ r, s.reservations.get id = some r ∧ r.status = .reserved ∧
      s.finalize id
        { r with
          status := .released
          finalizedAt := some now
          releaseReason := some reason } (-r.amountAtomic) 0 = .ok (s', r') := by
  unfold releaseReservation at h
  split at h
  · cases h
  split at h
  · cases h
  rename_i r hr
  have hget := reservation_ok hr
  by_cases hrel : r.status = .released
  · rw [if_pos hrel] at h
    split at h
    · cases h
    · cases h
      exact Or.inl rfl
  · rw [if_neg hrel] at h
    by_cases hres : r.status ≠ .reserved
    · rw [if_pos hres] at h
      cases h
    · rw [if_neg hres] at h
      exact Or.inr ⟨r, hget, not_not.mp hres, h⟩

/-- A consumption leaves the state alone, or it moves one open entry to `consumed`. -/
theorem consumeReservation_ok {tx : String} {now : UtcDateTime}
    (h : s.consumeReservation id tx now = .ok (s', r')) :
    s' = s ∨ ∃ r, s.reservations.get id = some r ∧
      (r.status = .reserved ∨ r.status = .submitted) ∧
      s.finalize id
        { r with
          status := .consumed
          finalizedAt := some now
          txHash := some (lower tx) } (-r.amountAtomic) r.amountAtomic = .ok (s', r') := by
  unfold consumeReservation at h
  split at h
  · cases h
  rename_i r hr
  have hget := reservation_ok hr
  by_cases hcon : r.status = .consumed
  · rw [if_pos hcon] at h
    split at h
    · cases h
    · cases h
      exact Or.inl rfl
  · rw [if_neg hcon] at h
    by_cases hrel : r.status = .released
    · rw [if_pos hrel] at h
      cases h
    · rw [if_neg hrel] at h
      refine Or.inr ⟨r, hget, ?_, h⟩
      cases hst : r.status with
      | reserved => exact Or.inl rfl
      | submitted => exact Or.inr rfl
      | consumed => exact absurd hst hcon
      | released => exact absurd hst hrel

/-- A submission leaves the state alone, or it moves one `reserved` entry to `submitted`. -/
theorem submitReservation_ok {tx : String} (h : s.submitReservation id tx = .ok (s', r')) :
    s' = s ∨ ∃ r, s.reservations.get id = some r ∧ r.status = .reserved ∧
      PaymentReservation.construct
        { r with status := .submitted, txHash := some (lower tx) } = .ok r' ∧
      s' = { s with reservations := s.reservations.set id r' } := by
  unfold submitReservation at h
  split at h
  · cases h
  rename_i r hr
  have hget := reservation_ok hr
  split at h
  · split at h
    · cases h
    · cases h
      exact Or.inl rfl
  · by_cases hres : r.status ≠ .reserved
    · rw [if_pos hres] at h
      cases h
    · rw [if_neg hres] at h
      split at h
      · cases h
      · rename_i r₁ hcon
        cases h
        exact Or.inr ⟨r, hget, not_not.mp hres, hcon, rfl⟩

/-- `reserve_mandate` returns the reservation the intent has, or it adds a new one. -/
theorem reserveMandate_ok {identifier : ReservationKey → String} {mandateId : String}
    {terms : SettlementTerms} {now : UtcDateTime}
    (h : s.reserveMandate identifier mandateId terms now = .ok (s', r)) :
    (s' = s ∧ s.reservationFor terms.settlementIntentId = some r ∧
        reserveExisting mandateId terms r = .ok r) ∨
      (s.reservationsByIntent.get terms.settlementIntentId = none ∧
        ∃ m, s.mandates.get mandateId = some m ∧ validateMandate m terms now = none ∧
          (newReservation identifier mandateId terms now).construct = .ok r ∧
          (m.account (m.reservedAtomic + terms.amountAtomic) m.consumedAtomic).accountingError
            = none ∧
          s' = { s with
            mandates := s.mandates.set mandateId
              (m.account (m.reservedAtomic + terms.amountAtomic) m.consumedAtomic)
            reservations := s.reservations.set r.reservationId r
            reservationsByIntent :=
              s.reservationsByIntent.set terms.settlementIntentId r.reservationId }) := by
  unfold reserveMandate at h
  split at h
  · rename_i existingId hid
    split at h
    · cases h
    · rename_i existing hget
      left
      unfold reserveExisting at h
      split at h
      · cases h
      · rename_i hsame
        cases h
        refine ⟨rfl, ?_, ?_⟩
        · simp [reservationFor, hid, hget]
        · unfold reserveExisting
          rw [if_neg hsame]
  · rename_i hid
    split at h
    · cases h
    rename_i m hm
    split at h
    · cases h
    rename_i hval
    split at h
    · cases h
    rename_i r₁ hcon
    split at h
    · cases h
    rename_i m' hm'
    obtain ⟨rfl, hacc⟩ := withAccounting_ok hm'
    cases h
    exact Or.inr ⟨hid, m, hm, hval, hcon, hacc, rfl⟩

/-! ### Which reservation an intent has after a write -/

/-- After one entry was written, an intent has that entry or the one it had. -/
theorem reservationFor_write {i : String} {mandates : Dict String PaymentMandate}
    {x : PaymentReservation}
    (h : reservationFor { s with
      mandates := mandates
      reservations := s.reservations.set id r } i = some x) :
    (x = r ∧ s.reservationsByIntent.get i = some id) ∨ s.reservationFor i = some x := by
  obtain ⟨k, hk, hx⟩ := Option.bind_eq_some_iff.mp h
  change s.reservationsByIntent.get i = some k at hk
  rw [Dict.get_set] at hx
  by_cases hkid : k = id
  · rw [if_pos hkid] at hx
    left
    exact ⟨(Option.some.inj hx).symm, hkid ▸ hk⟩
  · rw [if_neg hkid] at hx
    right
    exact Option.bind_eq_some_iff.mpr ⟨k, hk, hx⟩

/-- The reservation an intent has after a release. -/
theorem reservationFor_release {i reason : String} {now : UtcDateTime} {x : PaymentReservation}
    (h : s.releaseReservation id reason now = .ok (s', r'))
    (hx : s'.reservationFor i = some x) :
    s.reservationFor i = some x ∨
      (x.status = .released ∧ x.releaseReason = some reason ∧
        ∃ r, s.reservationFor i = some r ∧ r.status = .reserved) := by
  rcases releaseReservation_ok h with rfl | ⟨r, hget, hres, hfin⟩
  · exact Or.inl hx
  obtain ⟨hcon, m, -, -, rfl⟩ := finalize_ok hfin
  obtain ⟨-, hr', -⟩ := construct_ok hcon
  rcases reservationFor_write hx with ⟨rfl, hid⟩ | hold
  · right
    rw [hr']
    refine ⟨rfl, rfl, r, ?_, hres⟩
    exact Option.bind_eq_some_iff.mpr ⟨id, hid, hget⟩
  · exact Or.inl hold

theorem reservationsByIntent_release {reason : String} {now : UtcDateTime}
    (h : s.releaseReservation id reason now = .ok (s', r')) :
    s'.reservationsByIntent = s.reservationsByIntent := by
  rcases releaseReservation_ok h with rfl | ⟨r, -, -, hfin⟩
  · rfl
  obtain ⟨-, m, -, -, rfl⟩ := finalize_ok hfin
  rfl

theorem reservationsByIntent_submit {tx : String} (h : s.submitReservation id tx = .ok (s', r')) :
    s'.reservationsByIntent = s.reservationsByIntent := by
  rcases submitReservation_ok h with rfl | ⟨r, -, -, -, rfl⟩
  · rfl
  · rfl

/-- The reservation an intent has after a submission. -/
theorem reservationFor_submit {i tx : String} {x : PaymentReservation}
    (h : s.submitReservation id tx = .ok (s', r')) (hx : s'.reservationFor i = some x) :
    s.reservationFor i = some x ∨ (x.status = .submitted ∧ x.shapeError = none) := by
  rcases submitReservation_ok h with rfl | ⟨r, -, -, hcon, rfl⟩
  · exact Or.inl hx
  obtain ⟨-, hr', hshape⟩ := construct_ok hcon
  rcases reservationFor_write hx with ⟨rfl, -⟩ | hold
  · right
    refine ⟨?_, hshape⟩
    rw [hr']
  · exact Or.inl hold

/-- The reservation an intent has after `reserve_mandate`. -/
theorem reservationFor_reserve {identifier : ReservationKey → String} {i mandateId : String}
    {terms : SettlementTerms} {now : UtcDateTime} {x : PaymentReservation}
    (h : s.reserveMandate identifier mandateId terms now = .ok (s', r))
    (hx : s'.reservationFor i = some x) :
    s.reservationFor i = some x ∨ (x.status = .reserved ∧ x.shapeError = none) := by
  rcases reserveMandate_ok h with ⟨rfl, -, -⟩ | ⟨-, m, -, -, hcon, -, rfl⟩
  · exact Or.inl hx
  obtain ⟨-, hr, hshape⟩ := construct_ok hcon
  obtain ⟨k, hk, hget⟩ := Option.bind_eq_some_iff.mp hx
  change (s.reservations.set r.reservationId r).get k = some x at hget
  rw [Dict.get_set] at hget
  by_cases hkr : k = r.reservationId
  · rw [if_pos hkr] at hget
    obtain rfl := Option.some.inj hget
    right
    refine ⟨?_, hshape⟩
    rw [hr]
    rfl
  · rw [if_neg hkr] at hget
    left
    change (s.reservationsByIntent.set terms.settlementIntentId r.reservationId).get i = some k
      at hk
    rw [Dict.get_set] at hk
    by_cases hi : i = terms.settlementIntentId
    · rw [if_pos hi] at hk
      exact absurd (Option.some.inj hk).symm hkr
    · rw [if_neg hi] at hk
      exact Option.bind_eq_some_iff.mpr ⟨k, hk, hget⟩

end Repository

end Arena402.Payments
