/-
The two views of a mandate's budget agree.

A mandate counts what is reserved and what is consumed of it, and its reservations say the
same one by one.  An operation marks mandates, adds a reservation or moves one of them
(`Effect`), and each of the three moves both views by the same amounts.  That a new reservation
does not overwrite another one rests on its id, which is a hash of the mandate, the intent and
the intent's hash.
-/
import Arena402.Proofs.Payments.Accounting
import Arena402.Proofs.Payments.Release

namespace Arena402.Payments

open Py

/-- What a reservation has used up of the budget of a mandate. -/
def spends (mandateId : String) (r : PaymentReservation) : Int :=
  if r.mandateId = mandateId ∧ r.status = .consumed then r.amountAtomic else 0

/-- How the status of a reservation may move. -/
inductive StatusMove : ReservationStatus → ReservationStatus → Prop
  | stay (x : ReservationStatus) : StatusMove x x
  | submit : StatusMove .reserved .submitted
  | consume : StatusMove .submitted .consumed
  | consumeReserved : StatusMove .reserved .consumed
  | release : StatusMove .reserved .released

/-- What a reservation says for good. -/
structure SamePayment (r r' : PaymentReservation) : Prop where
  mandate : r'.mandateId = r.mandateId
  intent : r'.settlementIntentId = r.settlementIntentId
  intentHash : r'.intentHash = r.intentHash
  amount : r'.amountAtomic = r.amountAtomic
  payee : r'.payee = r.payee

theorem SamePayment.refl (r : PaymentReservation) : SamePayment r r := ⟨rfl, rfl, rfl, rfl, rfl⟩

/-- What a mark on a mandate leaves as it was. -/
structure SameBudget (m m' : PaymentMandate) : Prop where
  limits : m'.limits = m.limits
  payees : m'.allowedPayees = m.allowedPayees
  reserved : m'.reservedAtomic = m.reservedAtomic
  consumed : m'.consumedAtomic = m.consumedAtomic

theorem SameBudget.refl (m : PaymentMandate) : SameBudget m m := ⟨rfl, rfl, rfl, rfl⟩

namespace Repository

variable {identifier : ReservationKey → String} {s s' : Repository} {id : String}
variable {r r' : PaymentReservation}

/-! ### What an operation does -/

/-- The id of a reservation. -/
def idOf (identifier : ReservationKey → String) (r : PaymentReservation) : String :=
  identifier ⟨r.mandateId, r.settlementIntentId, r.intentHash⟩

/-- Mandates that were marked at most, and new ones without accounting. -/
structure Marked (s : Repository) (mandates : Dict String PaymentMandate) : Prop where
  forth : ∀ k m, s.mandates.get k = some m → ∃ m', mandates.get k = some m' ∧ SameBudget m m'
  back : ∀ k m', mandates.get k = some m' → (∃ m, s.mandates.get k = some m ∧ SameBudget m m') ∨
    (s.mandates.get k = none ∧ m'.reservedAtomic = 0 ∧ m'.consumedAtomic = 0)

theorem marked_refl (s : Repository) : Marked s s.mandates :=
  ⟨fun _ m hm => ⟨m, hm, .refl m⟩, fun _ m hm => Or.inl ⟨m, hm, .refl m⟩⟩

/-- The mandates, with the accounting of one of them moved. -/
def accounted (s : Repository) (mandateId : String) (m : PaymentMandate) (reserved consumed : Int) :
    Dict String PaymentMandate :=
  s.mandates.set mandateId
    (m.account (m.reservedAtomic + reserved) (m.consumedAtomic + consumed))

/-- What one operation does to the repository. -/
inductive Effect (identifier : ReservationKey → String) (s : Repository) : Repository → Prop
  | mark {mandates : Dict String PaymentMandate} (h : Marked s mandates) :
      Effect identifier s { s with mandates := mandates }
  | reserve {r : PaymentReservation} {m : PaymentMandate}
      (hnew : s.reservationsByIntent.get r.settlementIntentId = none)
      (hm : s.mandates.get r.mandateId = some m) (hstatus : r.status = .reserved)
      (hlimit : r.amountAtomic ≤ m.limits.maxPerPaymentAtomic)
      (hpayee : r.payee ∈ m.allowedPayees) :
      Effect identifier s { s with
        mandates := s.accounted r.mandateId m r.amountAtomic 0
        reservations := s.reservations.set (idOf identifier r) r
        reservationsByIntent := s.reservationsByIntent.set r.settlementIntentId (idOf identifier r) }
  | move {id : String} {r r' : PaymentReservation} {m : PaymentMandate}
      (hget : s.reservations.get id = some r) (hm : s.mandates.get r.mandateId = some m)
      (hsame : SamePayment r r') (hmove : StatusMove r.status r'.status) :
      Effect identifier s { s with
        mandates := s.accounted r.mandateId m
          (holds r.mandateId r' - holds r.mandateId r) (spends r.mandateId r' - spends r.mandateId r)
        reservations := s.reservations.set id r' }

/-- The operations of a repository whose mandates start without accounting. -/
def ZeroAccounting (_ : Repository) : Operation → Prop
  | .create m _ _ => m.reservedAtomic = 0 ∧ m.consumedAtomic = 0
  | _ => True

theorem validateMandate_none {m : PaymentMandate} {terms : SettlementTerms} {now : UtcDateTime}
    (h : validateMandate m terms now = none) :
    terms.payee ∈ m.allowedPayees ∧ terms.amountAtomic ≤ m.limits.maxPerPaymentAtomic := by
  unfold validateMandate at h
  split at h
  · cases h
  split at h
  · cases h
  split at h
  · cases h
  split at h
  · cases h
  split at h
  · cases h
  split at h
  · cases h
  split at h
  · cases h
  rename_i hpayee
  split at h
  · cases h
  rename_i hlimit
  exact ⟨by simpa using hpayee, not_lt.mp hlimit⟩

theorem effect_reserve {mandateId : String} {terms : SettlementTerms} {now : UtcDateTime}
    (h : s.reserveMandate identifier mandateId terms now = .ok (s', r)) :
    Effect identifier s s' := by
  rcases reserveMandate_ok h with ⟨rfl, -, -⟩ | ⟨hnone, m, hm, hvalid, hcon, -, rfl⟩
  · exact .mark (marked_refl s')
  obtain ⟨hpayee, hlimit⟩ := validateMandate_none hvalid
  obtain rfl := construct_payee (r := newReservation identifier mandateId terms now)
    terms.payeeAddress hcon
  have heffect : Effect identifier s _ :=
    .reserve (r := newReservation identifier mandateId terms now) hnone hm rfl hlimit hpayee
  have haccount : s.accounted mandateId m terms.amountAtomic 0 = s.mandates.set mandateId
      (m.account (m.reservedAtomic + terms.amountAtomic) m.consumedAtomic) := by
    unfold accounted
    rw [add_zero]
  rw [← haccount]
  exact heffect

/-- The effect of the operations that finalize an entry. -/
theorem effect_finalize (hk : s.Kept) (hget : s.reservations.get id = some r)
    {x x' : PaymentReservation} {dr dc : Int} (h : s.finalize id x dr dc = .ok (s', x'))
    (hsame : SamePayment r x) (hmove : StatusMove r.status x.status)
    (hdr : dr = holds r.mandateId x - holds r.mandateId r)
    (hdc : dc = spends r.mandateId x - spends r.mandateId r) : Effect identifier s s' := by
  have he := hk.entry hget
  obtain ⟨hcon, m, hm, -, rfl⟩ := finalize_ok h
  have hpayee : IsAddress x.payee := hsame.payee ▸ he.payee
  obtain rfl := construct_payee hpayee hcon
  have hm' : s.mandates.get r.mandateId = some m := hsame.mandate ▸ hm
  have hkey : m.mandateId = r.mandateId := (hk.mandates _ _ hm').key
  rw [hdr, hdc, hkey]
  exact .move hget hm' hsame hmove

theorem effect_consume (hk : s.Kept) {tx : String} {now : UtcDateTime}
    (h : s.consumeReservation id tx now = .ok (s', r')) : Effect identifier s s' := by
  rcases consumeReservation_ok h with rfl | ⟨r, hget, hopen, hfin⟩
  · exact .mark (marked_refl s')
  refine effect_finalize hk hget hfin ⟨rfl, rfl, rfl, rfl, rfl⟩ ?_ ?_ ?_
  · rcases hopen with hres | hsub
    · rw [hres]
      exact .consumeReserved
    · rw [hsub]
      exact .consume
  · simp [holds, hopen]
  · rcases hopen with hres | hsub
    · simp [spends, hres]
    · simp [spends, hsub]

theorem effect_release (hk : s.Kept) {reason : String} {now : UtcDateTime}
    (h : s.releaseReservation id reason now = .ok (s', r')) : Effect identifier s s' := by
  rcases releaseReservation_ok h with rfl | ⟨r, hget, hres, hfin⟩
  · exact .mark (marked_refl s')
  refine effect_finalize hk hget hfin ⟨rfl, rfl, rfl, rfl, rfl⟩ ?_ ?_ ?_
  · rw [hres]
    exact .release
  · simp [holds, hres]
  · simp [spends, hres]

theorem effect_submit (hk : s.Kept) {tx : String}
    (h : s.submitReservation id tx = .ok (s', r')) : Effect identifier s s' := by
  rcases submitReservation_ok h with rfl | ⟨r, hget, hres, hcon, rfl⟩
  · exact .mark (marked_refl s')
  have he := hk.entry hget
  obtain ⟨m, hm⟩ := he.mandate
  obtain rfl := construct_payee (r := { r with status := .submitted, txHash := some (lower tx) })
    he.payee hcon
  have hpayment : SamePayment r { r with status := .submitted, txHash := some (lower tx) } :=
    ⟨rfl, rfl, rfl, rfl, rfl⟩
  have heffect : Effect identifier s _ := .move hget hm hpayment (by rw [hres]; exact .submit)
  have hsame : s.accounted r.mandateId m
      (holds r.mandateId { r with status := .submitted, txHash := some (lower tx) }
        - holds r.mandateId r)
      (spends r.mandateId { r with status := .submitted, txHash := some (lower tx) }
        - spends r.mandateId r) = s.mandates := by
    have hzero : holds r.mandateId { r with status := .submitted, txHash := some (lower tx) }
        - holds r.mandateId r = 0 := by simp [holds, hres]
    have hzero' : spends r.mandateId { r with status := .submitted, txHash := some (lower tx) }
        - spends r.mandateId r = 0 := by simp [spends, hres]
    rw [hzero, hzero']
    unfold accounted
    rw [add_zero, add_zero]
    exact Dict.set_get_self hm
  rw [hsame] at heffect
  exact heffect

theorem effect_revoke {mandateId userId : String} {now : UtcDateTime} {m : PaymentMandate}
    (h : s.revokeMandate mandateId userId now = .ok (s', m)) : Effect identifier s s' := by
  unfold revokeMandate at h
  split at h
  · cases h
  rename_i m₀ hm
  split at h
  · cases h
  split at h
  · cases h
    exact .mark (marked_refl s)
  · cases h
    refine .mark ⟨?_, ?_⟩
    · intro k x hx
      rw [Dict.get_set]
      by_cases hk : k = mandateId
      · subst hk
        obtain rfl := Option.some.inj (hm.symm.trans hx)
        rw [if_pos rfl]
        exact ⟨_, rfl, rfl, rfl, rfl, rfl⟩
      · rw [if_neg hk]
        exact ⟨x, hx, .refl x⟩
    · intro k x hx
      rcases get_set_mandate hx with ⟨rfl, rfl⟩ | ⟨-, hold⟩
      · exact Or.inl ⟨m₀, hm, rfl, rfl, rfl, rfl⟩
      · exact Or.inl ⟨x, hold, .refl x⟩

theorem marked_revokeExpired (s : Repository) (m : PaymentMandate) (observedAt : UtcDateTime) :
    Marked s (s.revokeExpired m observedAt).mandates := by
  have hmark : ∀ y : PaymentMandate, SameBudget y
      (if competes m y && y.expiresAt ≤ observedAt then { y with revokedAt := some observedAt }
        else y) := by
    intro y
    by_cases hc : (competes m y && decide (y.expiresAt ≤ observedAt)) = true
    · rw [if_pos hc]
      exact ⟨rfl, rfl, rfl, rfl⟩
    · rw [if_neg hc]
      exact .refl y
  refine ⟨?_, ?_⟩
  · intro k x hx
    rw [get_revokeExpired, hx]
    exact ⟨_, rfl, hmark x⟩
  · intro k x hx
    rw [get_revokeExpired] at hx
    obtain ⟨y, hy, rfl⟩ := Option.map_eq_some_iff.mp hx
    exact Or.inl ⟨y, hy, hmark y⟩

theorem effect_create (m : PaymentMandate) (observedAt : UtcDateTime)
    (hzero : m.reservedAtomic = 0 ∧ m.consumedAtomic = 0) :
    Effect identifier s (s.createMandate m observedAt).1 := by
  unfold createMandate
  by_cases hconflict : (s.mandates.get m.mandateId).any (· ≠ m) = true
  · rw [if_pos hconflict]
    exact .mark (marked_refl s)
  rw [if_neg hconflict]
  dsimp only
  have hmarked := marked_revokeExpired s m observedAt
  split
  · exact .mark hmarked
  · refine .mark ⟨?_, ?_⟩
    · intro k x hx
      rw [Dict.get_set]
      by_cases hk : k = m.mandateId
      · rw [if_pos hk]
        subst hk
        obtain rfl : x = m := by
          rw [hx] at hconflict
          simpa using hconflict
        exact ⟨x, rfl, .refl x⟩
      · rw [if_neg hk]
        exact hmarked.forth k x hx
    · intro k x hx
      rcases get_set_mandate hx with ⟨rfl, rfl⟩ | ⟨-, hold⟩
      · cases hget : s.mandates.get x.mandateId with
        | none => exact Or.inr ⟨rfl, hzero⟩
        | some y =>
            obtain rfl : y = x := by
              rw [hget] at hconflict
              simpa using hconflict
            exact Or.inl ⟨y, rfl, .refl y⟩
      · exact hmarked.back k x hold

theorem effect_apply (hk : s.Kept) {op : Operation} (hop : ZeroAccounting s op) :
    Effect identifier s (s.apply identifier op) := by
  have effect_stateOr : ∀ {α : Type} (result : Except PaymentError (Repository × α)),
      (∀ t x, result = .ok (t, x) → Effect identifier s t) →
        Effect identifier s (s.stateOr result) := by
    intro α result h
    cases result with
    | error e => exact .mark (marked_refl s)
    | ok p => exact h p.1 p.2 rfl
  cases op with
  | create m accepted observedAt => exact effect_create m observedAt hop
  | revoke mandateId userId now => exact effect_stateOr _ fun t x h => effect_revoke h
  | reserve mandateId terms now => exact effect_stateOr _ fun t x h => effect_reserve h
  | consume id tx now => exact effect_stateOr _ fun t x h => effect_consume hk h
  | submit id tx => exact effect_stateOr _ fun t x h => effect_submit hk h
  | release id reason now => exact effect_stateOr _ fun t x h => effect_release hk h

/-! ### The invariant -/

/-- A reservation is stored under its id, is the one of its intent, and was covered. -/
structure EntryExact (identifier : ReservationKey → String) (s : Repository) (id : String)
    (r : PaymentReservation) : Prop where
  key : id = idOf identifier r
  intent : s.reservationsByIntent.get r.settlementIntentId = some id
  covered : ∃ m, s.mandates.get r.mandateId = some m ∧
    r.amountAtomic ≤ m.limits.maxPerPaymentAtomic ∧ r.payee ∈ m.allowedPayees

/-- Both views of every budget agree. -/
structure Exact (identifier : ReservationKey → String) (s : Repository) : Prop where
  kept : s.Kept
  distinct : s.reservations.keys.Nodup
  reserved : ∀ id m, s.mandates.get id = some m →
    m.reservedAtomic = Dict.total (fun _ => holds id) s.reservations
  consumed : ∀ id m, s.mandates.get id = some m →
    m.consumedAtomic = Dict.total (fun _ => spends id) s.reservations
  entries : ∀ id r, s.reservations.get id = some r → EntryExact identifier s id r

/-- Nothing of a mandate is used before it exists. -/
theorem Kept.spent_of_missing (hk : s.Kept) {k : String} (h : s.mandates.get k = none) :
    Dict.total (fun _ => spends k) s.reservations = 0 := by
  refine Dict.total_eq_zero fun e he => ?_
  obtain ⟨m, hm⟩ := (hk.entries e he).mandate
  have hne : e.2.mandateId ≠ k := by
    intro hc
    rw [hc, h] at hm
    cases hm
  simp [spends, hne]

/-- Payments of another mandate count nothing. -/
theorem counts_zero {k : String} (h : r.mandateId ≠ k) : holds k r = 0 ∧ spends k r = 0 :=
  ⟨by simp [holds, h], by simp [spends, h]⟩

/-- A mandate after the accounting of one was moved. -/
theorem get_accounted {mandateId k : String} {m x : PaymentMandate} {dr dc : Int}
    (h : (s.accounted mandateId m dr dc).get k = some x) :
    (k = mandateId ∧ x = m.account (m.reservedAtomic + dr) (m.consumedAtomic + dc)) ∨
      (k ≠ mandateId ∧ s.mandates.get k = some x) :=
  get_set_mandate h

/-- A covered payment stays covered when accounts move. -/
theorem covered_accounted {mandateId k : String} {m : PaymentMandate} {dr dc : Int}
    (hm : s.mandates.get mandateId = some m) {amount : Nat} {payee : String}
    (h : ∃ x, s.mandates.get k = some x ∧ amount ≤ x.limits.maxPerPaymentAtomic ∧
      payee ∈ x.allowedPayees) :
    ∃ x, (s.accounted mandateId m dr dc).get k = some x ∧ amount ≤ x.limits.maxPerPaymentAtomic ∧
      payee ∈ x.allowedPayees := by
  obtain ⟨x, hx, hcovered⟩ := h
  unfold accounted
  rw [Dict.get_set]
  by_cases hk : k = mandateId
  · rw [if_pos hk]
    subst hk
    obtain rfl := Option.some.inj (hm.symm.trans hx)
    exact ⟨_, rfl, hcovered⟩
  · rw [if_neg hk]
    exact ⟨x, hx, hcovered⟩

theorem Exact.mark (h : Exact identifier s) {mandates : Dict String PaymentMandate}
    (hmarked : Marked s mandates) (hk : Kept { s with mandates := mandates }) :
    Exact identifier { s with mandates := mandates } := by
  refine ⟨hk, h.distinct, ?_, ?_, ?_⟩
  · intro k x hx
    rcases hmarked.back k x hx with ⟨m, hm, hsame⟩ | ⟨hnone, hzero, -⟩
    · rw [hsame.reserved]
      exact h.reserved k m hm
    · rw [hzero]
      exact (h.kept.total_of_missing hnone).symm
  · intro k x hx
    rcases hmarked.back k x hx with ⟨m, hm, hsame⟩ | ⟨hnone, -, hzero⟩
    · rw [hsame.consumed]
      exact h.consumed k m hm
    · rw [hzero]
      exact (h.kept.spent_of_missing hnone).symm
  · intro k r hr
    obtain ⟨hkey, hintent, m, hm, hlimit, hpayee⟩ := h.entries k r hr
    obtain ⟨m', hm', hsame⟩ := hmarked.forth _ m hm
    exact ⟨hkey, hintent, m', hm', by rw [hsame.limits]; exact hlimit,
      by rw [hsame.payees]; exact hpayee⟩

/-- An intent without a reservation has a free id. -/
theorem Exact.fresh (h : Exact identifier s) (hinj : Function.Injective identifier)
    (hnew : s.reservationsByIntent.get r.settlementIntentId = none) :
    s.reservations.get (idOf identifier r) = none := by
  cases hold : s.reservations.get (idOf identifier r) with
  | none => rfl
  | some old =>
      have he := h.entries _ _ hold
      have hkeys := hinj he.key
      have hintent : r.settlementIntentId = old.settlementIntentId :=
        congrArg ReservationKey.settlementIntentId hkeys
      rw [hintent, he.intent] at hnew
      cases hnew

theorem Exact.reserve (h : Exact identifier s) (hinj : Function.Injective identifier)
    {m : PaymentMandate} (hnew : s.reservationsByIntent.get r.settlementIntentId = none)
    (hm : s.mandates.get r.mandateId = some m) (hstatus : r.status = .reserved)
    (hlimit : r.amountAtomic ≤ m.limits.maxPerPaymentAtomic) (hpayee : r.payee ∈ m.allowedPayees)
    (hk : Kept { s with
      mandates := s.accounted r.mandateId m r.amountAtomic 0
      reservations := s.reservations.set (idOf identifier r) r
      reservationsByIntent := s.reservationsByIntent.set r.settlementIntentId (idOf identifier r) }) :
    Exact identifier { s with
      mandates := s.accounted r.mandateId m r.amountAtomic 0
      reservations := s.reservations.set (idOf identifier r) r
      reservationsByIntent :=
        s.reservationsByIntent.set r.settlementIntentId (idOf identifier r) } := by
  have hfresh := h.fresh hinj hnew
  have htotal : ∀ f : PaymentReservation → Int,
      Dict.total (fun _ => f) (s.reservations.set (idOf identifier r) r)
        = Dict.total (fun _ => f) s.reservations + f r := by
    intro f
    rw [Dict.total_set, hfresh]
    simp
  have hheld : holds r.mandateId r = r.amountAtomic := by simp [holds, hstatus]
  have hspent : spends r.mandateId r = 0 := by simp [spends, hstatus]
  refine ⟨hk, Dict.nodup_keys_set h.distinct _ _, ?_, ?_, ?_⟩
  · intro k x hx
    show x.reservedAtomic = Dict.total (fun _ => holds k) (s.reservations.set (idOf identifier r) r)
    rw [htotal]
    rcases get_accounted hx with ⟨rfl, rfl⟩ | ⟨hne, hold⟩
    · rw [hheld, ← h.reserved _ _ hm]
      rfl
    · rw [(counts_zero (Ne.symm hne)).1, ← h.reserved _ _ hold, add_zero]
  · intro k x hx
    show x.consumedAtomic = Dict.total (fun _ => spends k) (s.reservations.set (idOf identifier r) r)
    rw [htotal]
    rcases get_accounted hx with ⟨rfl, rfl⟩ | ⟨hne, hold⟩
    · rw [hspent, ← h.consumed _ _ hm]
      rfl
    · rw [(counts_zero (Ne.symm hne)).2, ← h.consumed _ _ hold, add_zero]
  · intro k x hx
    have hx' : (s.reservations.set (idOf identifier r) r).get k = some x := hx
    rw [Dict.get_set] at hx'
    by_cases hid : k = idOf identifier r
    · rw [if_pos hid] at hx'
      obtain rfl := Option.some.inj hx'
      exact ⟨hid, by rw [hid]; exact Dict.get_set_self _ _ _,
        covered_accounted hm ⟨m, hm, hlimit, hpayee⟩⟩
    · rw [if_neg hid] at hx'
      obtain ⟨hkey, hintent, hcovered⟩ := h.entries k x hx'
      refine ⟨hkey, ?_, covered_accounted hm hcovered⟩
      exact Dict.get_set_fresh _ hnew hintent

theorem Exact.move (h : Exact identifier s) {m : PaymentMandate}
    (hget : s.reservations.get id = some r) (hm : s.mandates.get r.mandateId = some m)
    (hsame : SamePayment r r')
    (hk : Kept { s with
      mandates := s.accounted r.mandateId m
        (holds r.mandateId r' - holds r.mandateId r) (spends r.mandateId r' - spends r.mandateId r)
      reservations := s.reservations.set id r' }) :
    Exact identifier { s with
      mandates := s.accounted r.mandateId m
        (holds r.mandateId r' - holds r.mandateId r) (spends r.mandateId r' - spends r.mandateId r)
      reservations := s.reservations.set id r' } := by
  have htotal : ∀ f : PaymentReservation → Int,
      Dict.total (fun _ => f) (s.reservations.set id r')
        = Dict.total (fun _ => f) s.reservations + (f r' - f r) := by
    intro f
    rw [Dict.total_set, hget]
    simp only [Option.map_some, Option.getD_some]
    omega
  have hother : ∀ k, k ≠ r.mandateId → holds k r' = 0 ∧ spends k r' = 0 := by
    intro k hne
    refine counts_zero ?_
    rw [hsame.mandate]
    exact Ne.symm hne
  refine ⟨hk, Dict.nodup_keys_set h.distinct _ _, ?_, ?_, ?_⟩
  · intro k x hx
    show x.reservedAtomic = Dict.total (fun _ => holds k) (s.reservations.set id r')
    rw [htotal]
    rcases get_accounted hx with ⟨rfl, rfl⟩ | ⟨hne, hold⟩
    · rw [← h.reserved _ _ hm]
      rfl
    · rw [(counts_zero (Ne.symm hne)).1, (hother k hne).1, ← h.reserved _ _ hold, sub_zero, add_zero]
  · intro k x hx
    show x.consumedAtomic = Dict.total (fun _ => spends k) (s.reservations.set id r')
    rw [htotal]
    rcases get_accounted hx with ⟨rfl, rfl⟩ | ⟨hne, hold⟩
    · rw [← h.consumed _ _ hm]
      rfl
    · rw [(counts_zero (Ne.symm hne)).2, (hother k hne).2, ← h.consumed _ _ hold, sub_zero, add_zero]
  · intro k x hx
    have hx' : (s.reservations.set id r').get k = some x := hx
    rw [Dict.get_set] at hx'
    by_cases hid : k = id
    · rw [if_pos hid] at hx'
      obtain rfl := Option.some.inj hx'
      obtain ⟨hkey, hintent, hcovered⟩ := h.entries id r hget
      refine ⟨?_, ?_, ?_⟩
      · rw [hid, hkey]
        unfold idOf
        rw [hsame.mandate, hsame.intent, hsame.intentHash]
      · rw [hid, hsame.intent]
        exact hintent
      · rw [hsame.mandate, hsame.amount, hsame.payee]
        exact covered_accounted hm hcovered
    · rw [if_neg hid] at hx'
      obtain ⟨hkey, hintent, hcovered⟩ := h.entries k x hx'
      exact ⟨hkey, hintent, covered_accounted hm hcovered⟩

theorem Exact.effect (h : Exact identifier s) (hinj : Function.Injective identifier)
    (he : Effect identifier s s') (hk : s'.Kept) : Exact identifier s' := by
  cases he with
  | mark hmarked => exact h.mark hmarked hk
  | reserve hnew hm hstatus hlimit hpayee =>
      exact h.reserve hinj hnew hm hstatus hlimit hpayee hk
  | move hget hm hsame hmove => exact h.move hget hm hsame hk

/-- A reservation stays, with the same payment, and its status moves as it may. -/
theorem Exact.moves (h : Exact identifier s) (hinj : Function.Injective identifier)
    (he : Effect identifier s s') {k : String} {x : PaymentReservation}
    (hx : s.reservations.get k = some x) :
    ∃ x', s'.reservations.get k = some x' ∧ SamePayment x x' ∧ StatusMove x.status x'.status := by
  cases he with
  | mark hmarked => exact ⟨x, hx, .refl x, .stay _⟩
  | reserve hnew hm hstatus hlimit hpayee =>
      exact ⟨x, Dict.get_set_fresh _ (h.fresh hinj hnew) hx, .refl x, .stay _⟩
  | @move id r r' m hget hm hsame hmove =>
      by_cases hid : k = id
      · subst hid
        obtain rfl := Option.some.inj (hget.symm.trans hx)
        exact ⟨r', Dict.get_set_self _ _ _, hsame, hmove⟩
      · exact ⟨x, (Dict.get_set_ne _ _ hid).trans hx, .refl x, .stay _⟩

/-! ### Every run -/

/-- The states that operations lead to when every mandate is created without accounting. -/
def ReachedFromZero (identifier : ReservationKey → String) (s : Repository) : Prop :=
  Trans.Run (fun s op => some (s.apply identifier op)) ZeroAccounting {} s

/-- A list of such operations is a run. -/
theorem reached_operations : ∀ (ops : List Operation) {s : Repository},
    (∀ op ∈ ops, ∀ s, ZeroAccounting s op) → ReachedFromZero identifier s →
      ReachedFromZero identifier (ops.foldl (fun s op => s.apply identifier op) s) := by
  intro ops
  induction ops with
  | nil =>
      intro s _ h
      exact h
  | cons op rest ih =>
      intro s hops h
      refine ih (fun x hx => hops x (List.mem_cons_of_mem _ hx)) ?_
      exact Trans.Run.tail h (hops op List.mem_cons_self s) rfl

theorem exact_of_reached (hinj : Function.Injective identifier)
    (h : ReachedFromZero identifier s) : Exact identifier s := by
  refine Trans.Run.invariant (I := Exact identifier) ?_ ?_ h
  · refine ⟨⟨?_, ?_, ?_⟩, List.nodup_nil, ?_, ?_, ?_⟩
    · intro e he
      cases he
    · intro k m hm
      cases hm
    · intro i k hi
      cases hi
    · intro k m hm
      cases hm
    · intro k m hm
      cases hm
    · intro k r hr
      cases hr
  · intro t op u ht hop hstep
    obtain rfl := Option.some.inj hstep
    exact ht.effect hinj (effect_apply ht.kept hop) (apply_kept ht.kept op)

/-- **The accounting of a mandate is the sum of its reservations**, an intent has one
    reservation at most, and its status only moves forward. -/
theorem budgets_exact (identifier : ReservationKey → String) (hinj : Function.Injective identifier)
    (s : Repository) (h : ReachedFromZero identifier s) :
    s.reservations.keys.Nodup ∧
    (∀ id m, s.mandates.get id = some m →
      m.reservedAtomic = Dict.total (fun _ => holds id) s.reservations ∧
      m.consumedAtomic = Dict.total (fun _ => spends id) s.reservations ∧
      m.reservedAtomic + m.consumedAtomic ≤ m.limits.maxCumulativeAtomic) ∧
    (∀ id r, s.reservations.get id = some r → ∃ m, s.mandates.get r.mandateId = some m ∧
      r.amountAtomic ≤ m.limits.maxPerPaymentAtomic ∧ r.payee ∈ m.allowedPayees) ∧
    (∀ id id' r r', s.reservations.get id = some r → s.reservations.get id' = some r' →
      r.settlementIntentId = r'.settlementIntentId → id = id') ∧
    (∀ op id r, ZeroAccounting s op → s.reservations.get id = some r →
      ∃ r', (s.apply identifier op).reservations.get id = some r' ∧ SamePayment r r' ∧
        StatusMove r.status r'.status) := by
  have hexact := exact_of_reached hinj h
  refine ⟨hexact.distinct, ?_, ?_, ?_, ?_⟩
  · intro id m hm
    have hmok := hexact.kept.mandates id m hm
    exact ⟨hexact.reserved id m hm, hexact.consumed id m hm,
      ((accountingError_none_iff m).mp hmok.accepted).2.2⟩
  · intro id r hr
    exact (hexact.entries id r hr).covered
  · intro id id' r r' hr hr' hintent
    have hid := (hexact.entries id r hr).intent
    rw [hintent, (hexact.entries id' r' hr').intent] at hid
    exact (Option.some.inj hid).symm
  · intro op id r hop hr
    exact hexact.moves hinj (effect_apply hexact.kept hop) hr

/-! ### A mandate that is used up -/

/-- The characters of a text, each behind a mark, and an end mark. -/
def marked : List Char → List Char
  | [] => ['0']
  | c :: rest => '1' :: c :: marked rest

theorem marked_append_inj : ∀ (a b : List Char) {x y : List Char},
    marked a ++ x = marked b ++ y → a = b ∧ x = y := by
  intro a
  induction a with
  | nil =>
      intro b x y h
      cases b with
      | nil => exact ⟨rfl, by simpa [marked] using h⟩
      | cons c rest =>
          rw [marked, marked, List.cons_append, List.cons_append] at h
          exact absurd (List.cons.inj h).1 (by decide)
  | cons c rest ih =>
      intro b x y h
      cases b with
      | nil =>
          rw [marked, marked, List.cons_append, List.cons_append] at h
          exact absurd (List.cons.inj h).1 (by decide)
      | cons c' rest' =>
          simp only [marked, List.cons_append, List.cons.injEq, true_and] at h
          obtain ⟨rfl, h⟩ := h
          obtain ⟨rfl, hxy⟩ := ih rest' h
          exact ⟨rfl, hxy⟩

/-- An id that keeps the three parts of its key apart. -/
def markedIdentifier (key : ReservationKey) : String :=
  String.ofList (marked key.mandateId.toList ++ (marked key.settlementIntentId.toList ++
    marked key.intentHash.toList))

theorem markedIdentifier_injective : Function.Injective markedIdentifier := by
  intro k k' h
  have hlist := congrArg String.toList h
  rw [markedIdentifier, markedIdentifier, String.toList_ofList, String.toList_ofList] at hlist
  obtain ⟨hmandate, hlist⟩ := marked_append_inj _ _ hlist
  obtain ⟨hintent, hlist⟩ := marked_append_inj _ _ hlist
  have hhash : marked k.intentHash.toList ++ [] = marked k'.intentHash.toList ++ [] := by
    rw [List.append_nil, List.append_nil]
    exact hlist
  obtain ⟨hhash, -⟩ := marked_append_inj _ _ hhash
  cases k
  cases k'
  simp only [ReservationKey.mk.injEq]
  exact ⟨String.toList_inj.mp hmandate, String.toList_inj.mp hintent, String.toList_inj.mp hhash⟩

/-- A mandate is created, five of its ten units are reserved, submitted and consumed. -/
def spending : List Operation :=
  [.create Example.mandate rfl 0, .reserve "mandate" Example.terms 0,
    .submit (markedIdentifier ⟨"mandate", "intent", Example.terms.intentHash⟩) ("0x" ++ Example.hash),
    .consume (markedIdentifier ⟨"mandate", "intent", Example.terms.intentHash⟩)
      ("0x" ++ Example.hash) 0]

def spent : Repository :=
  spending.foldl (fun s op => s.apply markedIdentifier op) {}

theorem spent_reached : ReachedFromZero markedIdentifier spent := by
  refine reached_operations spending ?_ .refl
  intro op hop s
  simp only [spending, List.mem_cons, List.not_mem_nil, or_false] at hop
  rcases hop with rfl | rfl | rfl | rfl
  · exact ⟨rfl, rfl⟩
  · exact trivial
  · exact trivial
  · exact trivial

theorem budgets_exact_spent :
    (spent.mandates.get "mandate").map (·.consumedAtomic) = some 5 ∧
      ∀ m, spent.mandates.get "mandate" = some m →
        m.consumedAtomic = Dict.total (fun _ => spends "mandate") spent.reservations := by
  refine ⟨by decide +kernel, ?_⟩
  intro m hm
  exact ((budgets_exact markedIdentifier markedIdentifier_injective spent spent_reached).2.1 _ m hm).2.1

end Repository

end Arena402.Payments
