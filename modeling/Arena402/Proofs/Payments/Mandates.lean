/-
One unrevoked mandate for a user and a game.

`create_mandate` writes a mandate only when no other one of its user and game is left unrevoked, and
every other operation keeps or revokes the mandates there are.  So in a reachable repository there
is one unrevoked mandate of a user and a game at most.  A call that raises has found one that is not
expired; being the only one, nothing was revoked before.
-/
import Arena402.Proofs.Payments.Accounting
import Arena402.Proofs.Payments.Release

namespace Arena402.Payments

open Py

/-- Two unrevoked mandates of one user and one game. -/
structure Rivals (m m' : PaymentMandate) : Prop where
  user : m.userId = m'.userId
  game : m.gameId = m'.gameId
  unrevoked : m.revokedAt = none
  unrevoked' : m'.revokedAt = none

/-- What an operation that creates no mandate may do to one. -/
structure Narrows (m m' : PaymentMandate) : Prop where
  user : m'.userId = m.userId
  game : m'.gameId = m.gameId
  unrevoked : m'.revokedAt = none → m.revokedAt = none

theorem Narrows.refl (m : PaymentMandate) : Narrows m m := ⟨rfl, rfl, id⟩

theorem narrows_account (m : PaymentMandate) (reserved consumed : Int) :
    Narrows m (m.account reserved consumed) := ⟨rfl, rfl, id⟩

theorem narrows_revoked (m : PaymentMandate) (now : UtcDateTime) :
    Narrows m { m with revokedAt := some now } := by
  refine ⟨rfl, rfl, ?_⟩
  intro h
  cases h

namespace Repository

variable {identifier : ReservationKey → String} {s s' : Repository} {id : String}
  {r : PaymentReservation}

/-- No user has two unrevoked mandates of a game. -/
structure OneUnrevoked (s : Repository) : Prop where
  nodup : s.mandates.keys.Nodup
  one : ∀ k k' m m', s.mandates.get k = some m → s.mandates.get k' = some m' → Rivals m m' → k = k'

/-- Mandates that are narrowed from the ones of a repository. -/
structure NarrowedFrom (s : Repository) (mandates : Dict String PaymentMandate) : Prop where
  nodup : s.mandates.keys.Nodup → mandates.keys.Nodup
  back : ∀ k m', mandates.get k = some m' → ∃ m, s.mandates.get k = some m ∧ Narrows m m'

theorem narrowedFrom_refl (s : Repository) : NarrowedFrom s s.mandates :=
  ⟨id, fun _ m hm => ⟨m, hm, .refl m⟩⟩

theorem narrowedFrom_set {m m' : PaymentMandate} (hm : s.mandates.get id = some m)
    (h : Narrows m m') : NarrowedFrom s (s.mandates.set id m') := by
  refine ⟨fun hd => Dict.nodup_keys_set hd _ _, ?_⟩
  intro k x hx
  rcases get_set_mandate hx with ⟨rfl, rfl⟩ | ⟨-, hold⟩
  · exact ⟨m, hm, h⟩
  · exact ⟨x, hold, .refl x⟩

theorem keys_revokeExpired (s : Repository) (m : PaymentMandate) (observedAt : UtcDateTime) :
    (s.revokeExpired m observedAt).mandates.keys = s.mandates.keys := by
  unfold revokeExpired Dict.keys
  rw [List.map_map]
  refine List.map_congr_left fun e _ => ?_
  by_cases hc : (competes m e.2 && decide (e.2.expiresAt ≤ observedAt)) = true
  · rw [Function.comp_apply, if_pos hc]
  · rw [Function.comp_apply, if_neg hc]

theorem narrowedFrom_revokeExpired (s : Repository) (m : PaymentMandate) (observedAt : UtcDateTime) :
    NarrowedFrom s (s.revokeExpired m observedAt).mandates := by
  refine ⟨fun hd => by rwa [keys_revokeExpired], ?_⟩
  intro k x hx
  rw [get_revokeExpired] at hx
  obtain ⟨y, hy, rfl⟩ := Option.map_eq_some_iff.mp hx
  refine ⟨y, hy, ?_⟩
  by_cases hc : (competes m y && decide (y.expiresAt ≤ observedAt)) = true
  · rw [if_pos hc]
    exact narrows_revoked y observedAt
  · rw [if_neg hc]
    exact .refl y

theorem OneUnrevoked.narrowed (h : s.OneUnrevoked) (hn : NarrowedFrom s s'.mandates) :
    s'.OneUnrevoked := by
  refine ⟨hn.nodup h.nodup, ?_⟩
  intro k k' m m' hm hm' hr
  obtain ⟨x, hx, hnx⟩ := hn.back k m hm
  obtain ⟨x', hx', hnx'⟩ := hn.back k' m' hm'
  refine h.one k k' x x' hx hx' ⟨?_, ?_, hnx.unrevoked hr.unrevoked, hnx'.unrevoked hr.unrevoked'⟩
  · rw [← hnx.user, ← hnx'.user, hr.user]
  · rw [← hnx.game, ← hnx'.game, hr.game]

/-! ### The operations that create no mandate -/

theorem narrowedFrom_finalize (hk : s.Kept) {x x' : PaymentReservation} {dr dc : Int}
    (h : s.finalize id x dr dc = .ok (s', x')) : NarrowedFrom s s'.mandates := by
  obtain ⟨-, m, hm, -, rfl⟩ := finalize_ok h
  have hkey : m.mandateId = x.mandateId := (hk.mandates _ _ hm).key
  exact narrowedFrom_set (hkey ▸ hm) (narrows_account m _ _)

theorem narrowedFrom_reserve {mandateId : String} {terms : SettlementTerms} {now : UtcDateTime}
    (h : s.reserveMandate identifier mandateId terms now = .ok (s', r)) :
    NarrowedFrom s s'.mandates := by
  rcases reserveMandate_ok h with ⟨rfl, -, -⟩ | ⟨-, m, hm, -, -, -, rfl⟩
  · exact narrowedFrom_refl s'
  · exact narrowedFrom_set hm (narrows_account m _ _)

theorem narrowedFrom_consume (hk : s.Kept) {tx : String} {now : UtcDateTime}
    (h : s.consumeReservation id tx now = .ok (s', r)) : NarrowedFrom s s'.mandates := by
  rcases consumeReservation_ok h with rfl | ⟨r₀, hget, hopen, hfin⟩
  · exact narrowedFrom_refl s'
  · exact narrowedFrom_finalize hk hfin

theorem narrowedFrom_release (hk : s.Kept) {reason : String} {now : UtcDateTime}
    (h : s.releaseReservation id reason now = .ok (s', r)) : NarrowedFrom s s'.mandates := by
  rcases releaseReservation_ok h with rfl | ⟨r₀, hget, hopen, hfin⟩
  · exact narrowedFrom_refl s'
  · exact narrowedFrom_finalize hk hfin

theorem narrowedFrom_submit {tx : String} (h : s.submitReservation id tx = .ok (s', r)) :
    NarrowedFrom s s'.mandates := by
  rcases submitReservation_ok h with rfl | ⟨-, -, -, -, rfl⟩
  · exact narrowedFrom_refl s'
  · exact narrowedFrom_refl s

theorem narrowedFrom_revoke {mandateId userId : String} {now : UtcDateTime} {m : PaymentMandate}
    (h : s.revokeMandate mandateId userId now = .ok (s', m)) : NarrowedFrom s s'.mandates := by
  unfold revokeMandate at h
  split at h
  · cases h
  rename_i m₀ hm
  split at h
  · cases h
  split at h
  · cases h
    exact narrowedFrom_refl s
  · cases h
    exact narrowedFrom_set hm (narrows_revoked m₀ now)

/-! ### The creation -/

theorem competes_iff {m x : PaymentMandate} :
    competes m x = true ↔ x.userId = m.userId ∧ x.gameId = m.gameId ∧ x.revokedAt = none ∧
      x.mandateId ≠ m.mandateId := by
  simp [competes, and_assoc]

theorem mem_values_of_get {d : Dict String PaymentMandate} {k : String} {x : PaymentMandate}
    (h : d.get k = some x) : x ∈ d.values :=
  List.mem_map_of_mem (Dict.mem_of_get h)

/-- A mandate that is written when no unrevoked one competes with it has no rival. -/
theorem OneUnrevoked.set (h : s.OneUnrevoked) (hk : s.Kept) {m : PaymentMandate}
    (hfree : s.mandates.values.any (competes m) = false) :
    OneUnrevoked { s with mandates := s.mandates.set m.mandateId m } := by
  have halone : ∀ k x, s.mandates.get k = some x → Rivals x m → k = m.mandateId := by
    intro k x hx hr
    by_contra hne
    have hkey : x.mandateId ≠ m.mandateId := (hk.mandates k x hx).key ▸ hne
    have hcompetes : competes m x = true := competes_iff.mpr ⟨hr.user, hr.game, hr.unrevoked, hkey⟩
    have hany := List.any_eq_true.mpr ⟨x, mem_values_of_get hx, hcompetes⟩
    rw [hfree] at hany
    cases hany
  refine ⟨Dict.nodup_keys_set h.nodup _ _, ?_⟩
  intro k k' x x' hx hx' hr
  rcases get_set_mandate hx with ⟨rfl, rfl⟩ | ⟨-, hold⟩
  · rcases get_set_mandate hx' with ⟨rfl, -⟩ | ⟨-, hold'⟩
    · rfl
    · exact (halone k' x' hold' ⟨hr.user.symm, hr.game.symm, hr.unrevoked', hr.unrevoked⟩).symm
  · rcases get_set_mandate hx' with ⟨rfl, rfl⟩ | ⟨-, hold'⟩
    · exact halone k x hold hr
    · exact h.one k k' x x' hold hold' hr

theorem OneUnrevoked.create (h : s.OneUnrevoked) (hk : s.Kept) (m : PaymentMandate)
    (observedAt : UtcDateTime) : (s.createMandate m observedAt).1.OneUnrevoked := by
  unfold createMandate
  by_cases hconflict : (s.mandates.get m.mandateId).any (· ≠ m) = true
  · rw [if_pos hconflict]
    exact h
  rw [if_neg hconflict]
  dsimp only
  have h' := h.narrowed (narrowedFrom_revokeExpired s m observedAt)
  by_cases hany : (s.revokeExpired m observedAt).mandates.values.any (competes m) = true
  · rw [if_pos hany]
    exact h'
  · rw [if_neg hany]
    exact h'.set (hk.revokeExpired m observedAt) (Bool.not_eq_true _ ▸ hany)

/-- Of mandates with one unrevoked competitor, nothing is revoked when it is not expired. -/
theorem revokeExpired_eq_self (h : s.OneUnrevoked) {m : PaymentMandate} {observedAt : UtcDateTime}
    (hany : (s.revokeExpired m observedAt).mandates.values.any (competes m) = true) :
    s.revokeExpired m observedAt = s := by
  obtain ⟨v, hv, hcompetes⟩ := List.any_eq_true.mp hany
  obtain ⟨e, he, rfl⟩ := List.mem_map.mp hv
  have hnodup : (s.revokeExpired m observedAt).mandates.keys.Nodup := by
    rw [keys_revokeExpired]
    exact h.nodup
  have hget : (s.revokeExpired m observedAt).mandates.get e.1 = some e.2 := Dict.get_of_mem hnodup he
  rw [get_revokeExpired] at hget
  obtain ⟨y, hy, heq⟩ := Option.map_eq_some_iff.mp hget
  obtain ⟨huser, hgame, hunrevoked, -⟩ := competes_iff.mp hcompetes
  -- the one that was found was not revoked by the loop, so it is not expired
  have hkept : ¬ (competes m y && decide (y.expiresAt ≤ observedAt)) = true := by
    intro hc
    rw [if_pos hc] at heq
    rw [← heq] at hunrevoked
    cases hunrevoked
  rw [if_neg hkept] at heq
  rw [heq] at hkept hy
  have hsame : s.mandates.map (fun x => if competes m x.2 && x.2.expiresAt ≤ observedAt then
      (x.1, { x.2 with revokedAt := some observedAt }) else x) = s.mandates := by
    refine (List.map_congr_left fun x hx => ?_).trans (List.map_id _)
    refine if_neg fun hc => hkept ?_
    have hx' : s.mandates.get x.1 = some x.2 := Dict.get_of_mem h.nodup hx
    have hxc := competes_iff.mp (Bool.and_eq_true_iff.mp hc).1
    have hkeys := h.one x.1 e.1 x.2 e.2 hx' hy
      ⟨hxc.1.trans huser.symm, hxc.2.1.trans hgame.symm, hxc.2.2.1, hunrevoked⟩
    rw [hkeys, hy] at hx'
    rw [Option.some.inj hx']
    exact hc
  unfold revokeExpired
  rw [hsame]

/-- A creation that raises leaves the repository as it was. -/
theorem createMandate_raises (h : s.OneUnrevoked) {m : PaymentMandate} {observedAt : UtcDateTime}
    {e : PaymentError} (herror : (s.createMandate m observedAt).2 = .error e) :
    (s.createMandate m observedAt).1 = s := by
  unfold createMandate at herror ⊢
  by_cases hconflict : (s.mandates.get m.mandateId).any (· ≠ m) = true
  · rw [if_pos hconflict]
  rw [if_neg hconflict] at herror ⊢
  dsimp only at herror ⊢
  by_cases hany : (s.revokeExpired m observedAt).mandates.values.any (competes m) = true
  · rw [if_pos hany]
    exact revokeExpired_eq_self h hany
  · rw [if_neg hany] at herror
    cases herror

/-! ### Every reachable repository -/

theorem OneUnrevoked.apply (h : s.OneUnrevoked) (hk : s.Kept) (op : Operation) :
    (s.apply identifier op).OneUnrevoked := by
  have stateOr_one : ∀ {α : Type} (result : Except PaymentError (Repository × α)),
      (∀ t x, result = .ok (t, x) → NarrowedFrom s t.mandates) → (s.stateOr result).OneUnrevoked := by
    intro α result hn
    cases result with
    | error e => exact h
    | ok p => exact h.narrowed (hn p.1 p.2 rfl)
  cases op with
  | create m accepted observedAt => exact h.create hk m observedAt
  | revoke mandateId userId now => exact stateOr_one _ fun t x h => narrowedFrom_revoke h
  | reserve mandateId terms now => exact stateOr_one _ fun t x h => narrowedFrom_reserve h
  | consume id tx now => exact stateOr_one _ fun t x h => narrowedFrom_consume hk h
  | submit id tx => exact stateOr_one _ fun t x h => narrowedFrom_submit h
  | release id reason now => exact stateOr_one _ fun t x h => narrowedFrom_release hk h

theorem Reachable.oneUnrevoked (h : Reachable identifier s) : s.OneUnrevoked := by
  have hboth : s.Kept ∧ s.OneUnrevoked := by
    have hinitial : Reachable identifier {} := .refl
    refine Trans.Run.invariant (I := fun t => t.Kept ∧ t.OneUnrevoked) ?_ ?_ h
    · refine ⟨hinitial.kept, List.nodup_nil, ?_⟩
      intro k k' m m' hm
      cases hm
    · rintro t op u ⟨hk, ht⟩ _ hstep
      obtain rfl := Option.some.inj hstep
      exact ⟨apply_kept hk op, ht.apply hk op⟩
  exact hboth.2

/-- **A user has one unrevoked mandate of a game at most, and a creation that raises leaves the
    mandates as they are.** -/
theorem one_mandate_and_atomic_creation (identifier : ReservationKey → String) (s : Repository)
    (h : Reachable identifier s) :
    (∀ k k' m m', s.mandates.get k = some m → s.mandates.get k' = some m' → Rivals m m' → k = k') ∧
      ∀ m observedAt e, (s.createMandate m observedAt).2 = .error e →
        (s.createMandate m observedAt).1 = s :=
  ⟨h.oneUnrevoked.one, fun _ _ _ => createMandate_raises h.oneUnrevoked⟩

/-- A second mandate of the same game, while the first one is not expired. -/
theorem one_mandate_and_atomic_creation_second :
    (((({} : Repository).createMandate Example.mandate 0).1).createMandate
      { Example.mandate with mandateId := "second" } 0).2 =
        .error (.mandateRejected "active_game_mandate_exists") ∧
    (((({} : Repository).createMandate Example.mandate 0).1).createMandate
      { Example.mandate with mandateId := "second" } 0).1 =
        (({} : Repository).createMandate Example.mandate 0).1 := by
  have hreached : Reachable (fun key => key.mandateId)
      (({} : Repository).createMandate Example.mandate 0).1 :=
    Trans.Run.refl.tail (e := .create Example.mandate rfl 0) trivial rfl
  have hraises : (((({} : Repository).createMandate Example.mandate 0).1).createMandate
      { Example.mandate with mandateId := "second" } 0).2 =
        .error (.mandateRejected "active_game_mandate_exists") := by
    decide
  exact ⟨hraises,
    (one_mandate_and_atomic_creation (fun key => key.mandateId) _ hreached).2 _ 0 _ hraises⟩

end Repository

end Arena402.Payments
