/-
What the settlement workers do to an attempt.

Every write to an attempt is a claim, which needs an expired lease and nothing submitted,
or a mark by the worker that owns the lease.  So once a worker has marked its attempt
`submitting`, nobody else can touch it, and before that a worker that lost its lease can
no longer mark anything.  This is the invariant of one `_execute`; it holds for all of
them together, whatever the interleaving.
-/
import Arena402.Lib.Run
import Arena402.Payments.Worker

namespace Arena402.Payments.Worker

open Py

variable {cfg : LeaseConfig} {clock : UtcDateTime} {t t' : Tables} {w i f : String}
  {task : Task} {input : Input} {next next' : Option Task}

/-! ### The writes of one operation -/

/-- What one step of `w` on `i` does to the attempts. -/
inductive AttemptMove (t t' : Tables) (w i f : String) (stage : Stage) : Prop
  | same (h : t'.attempts = t.attempts)
  /-- A claim for facilitator `f`. -/
  | claimed (hst : stage = .claim) (a' : Attempt) (h : t'.attempts = t.attempts.set i a')
      (before : ∀ a, t.attempts.get i = some a →
        (a.status = .reserved ∨ a.status = .signed) ∧ ∀ g, a.facilitatorId = some g → g = f)
      (facilitator : a'.facilitatorId = some f) (owner : a'.leaseOwner = some w)
      (status : a'.status = .reserved ∨ a'.status = .signed)
  /-- A write by the owner of the lease. -/
  | owned (a a' : Attempt) (h : t'.attempts = t.attempts.set i a')
      (before : t.attempts.get i = some a) (owner : a.leaseOwner = some w)
      (facilitator : a'.facilitatorId = a.facilitatorId)
      (after : a'.leaseOwner = some w ∨ a'.leaseOwner = none)

theorem claimAttempt_spec (t : Tables) (cfg : LeaseConfig) (i f w : String) (now : UtcDateTime) :
    (t.claimAttempt cfg i f w now = (t, false)) ∨
      ∃ a', t.claimAttempt cfg i f w now
          = ({ t with attempts := t.attempts.set i a' }, true) ∧
        (∀ a, t.attempts.get i = some a →
          (a.status = .reserved ∨ a.status = .signed) ∧ ∀ g, a.facilitatorId = some g → g = f) ∧
        a'.facilitatorId = some f ∧ a'.leaseOwner = some w ∧
        (a'.status = .reserved ∨ a'.status = .signed) := by
  unfold Tables.claimAttempt
  split
  · rename_i hnone
    right
    refine ⟨_, rfl, ?_, rfl, rfl, Or.inl rfl⟩
    intro a ha
    rw [hnone] at ha
    cases ha
  · rename_i a ha
    split
    · rename_i hcond
      simp only [Bool.and_eq_true, Bool.or_eq_true, decide_eq_true_eq] at hcond
      obtain ⟨⟨hstatus, -⟩, hfac⟩ := hcond
      have hsame : ∀ g, a.facilitatorId = some g → g = f := by
        intro g hg
        rw [hg] at hfac
        simpa using hfac
      right
      refine ⟨_, rfl, ?_, ?_, rfl, hstatus⟩
      · intro b hb
        obtain rfl : a = b := Option.some.inj (ha.symm.trans hb)
        exact ⟨hstatus, hsame⟩
      · cases hg : a.facilitatorId with
        | none => rfl
        | some g =>
            show some g = some f
            rw [hsame g hg]
    · exact Or.inl rfl

/-- The row `mark_attempt` leaves. -/
def markedRow (a : Attempt) (status : AttemptStatus) : Attempt :=
  { a with
    status := status
    leaseOwner := if status.terminal then none else a.leaseOwner
    leaseExpiresAt := if status.terminal then none else a.leaseExpiresAt }

theorem markAttempt_some {status : AttemptStatus} (h : t.markAttempt i status w = some t') :
    ∃ a, t.attempts.get i = some a ∧ a.leaseOwner = some w ∧
      t' = { t with attempts := t.attempts.set i (markedRow a status) } := by
  unfold Tables.markAttempt at h
  split at h
  · cases h
  · rename_i a ha
    split at h
    · rename_i hown
      exact ⟨a, ha, hown, (Option.some.inj h).symm⟩
    · cases h

theorem markedRow_owner {a : Attempt} {status : AttemptStatus} (h : a.leaseOwner = some w) :
    (markedRow a status).leaseOwner = some w ∨ (markedRow a status).leaseOwner = none := by
  unfold markedRow
  dsimp only
  split
  · exact Or.inr rfl
  · exact Or.inl h

theorem deferAttempt_some {retryAt : UtcDateTime} (h : t.deferAttempt i w retryAt = some t') :
    ∃ a, t.attempts.get i = some a ∧ a.leaseOwner = some w ∧
      t' = { t with
        attempts := t.attempts.set i { a with leaseExpiresAt := some retryAt } } := by
  unfold Tables.deferAttempt at h
  split at h
  · cases h
  · rename_i a ha
    split at h
    · rename_i hcond
      simp only [Bool.and_eq_true, decide_eq_true_eq] at hcond
      exact ⟨a, ha, hcond.1, (Option.some.inj h).symm⟩
    · cases h

/-- A fence is claimed only when no attempt of the facilitator is unresolved. -/
theorem claimFacilitatorFence_some {now : UtcDateTime} {b : Bool}
    (h : t.claimFacilitatorFence cfg f i w now = some (t', b)) :
    t' = t ∨ ((∀ e ∈ t.attempts, t.unresolved f e = false) ∧
      t' = { t with fences := t.fences.set f ⟨i, w, cfg.expiry now⟩ }) := by
  unfold Tables.claimFacilitatorFence at h
  split at h
  · cases h
    exact Or.inl rfl
  · rename_i hnone
    split at h
    · cases h
      exact Or.inl rfl
    · split at h
      · cases h
      · cases h
        refine Or.inr ⟨?_, rfl⟩
        intro e he
        have hany : ¬ ∃ x ∈ t.attempts, t.unresolved f x = true := by
          simpa only [List.any_eq_true] using hnone
        exact Bool.eq_false_iff.mpr fun hc => hany ⟨e, he, hc⟩

theorem releaseFacilitatorFence_some (h : t.releaseFacilitatorFence f i w = some t') :
    t' = { t with fences := t.fences.erase f } := by
  unfold Tables.releaseFacilitatorFence at h
  split at h
  · cases h
  · split at h
    · exact (Option.some.inj h).symm
    · cases h

/-- A release leaves the tables alone or moves the `reserved` row of the intent. -/
theorem releaseReservation_some {reason : String} (h : t.releaseReservation i reason = some t') :
    t' = t ∨ (∃ r, t.reservations.get i = some r ∧ r.status = .reserved) ∧
      t' = { t with reservations := t.reservations.set i ⟨.released, some reason⟩ } := by
  unfold Tables.releaseReservation at h
  split at h
  · cases h
  · rename_i r hr
    split at h
    · split at h
      · exact Or.inl (Option.some.inj h).symm
      · cases h
    · rename_i hst
      exact Or.inr ⟨⟨r, hr, hst⟩, (Option.some.inj h).symm⟩
    · cases h

/-- A failure leaves the tables alone or moves an intent that awaits authorization. -/
theorem failSettlement_some (h : t.failSettlement i = some t') :
    t' = t ∨ t.intents.get i = some .authorizationRequested ∧
      t' = { t with intents := t.intents.set i .authorizationFailed } := by
  unfold Tables.failSettlement at h
  split at h
  · exact Or.inl (Option.some.inj h).symm
  · rename_i hreq
    exact Or.inr ⟨hreq, (Option.some.inj h).symm⟩
  · cases h

/-! ### What one resumed `_execute` can do -/

/-- The steps of one `_execute`: either nothing is written, or the operation its stage
    awaits succeeds. -/
inductive TaskStep (cfg : LeaseConfig) (clock : UtcDateTime) (t : Tables) (w i : String)
    (task : Task) : Tables → Option Task → Prop
  /-- The awaited operation raised. -/
  | raises : TaskStep cfg clock t w i task t task.raised
  | mandate (h : task.stage = .mandate) (found : Bool) :
      TaskStep cfg clock t w i task t
        (some (task.at (if found then .reserve else .mandateMissing)))
  | sign (h : task.stage = .sign) : TaskStep cfg clock t w i task t (some (task.at .markSigned))
  | executed (h : task.stage = .execute) (result : ResultStatus) :
      TaskStep cfg clock t w i task t
        (some (task.at (if result = .failed then .fail else .markResult result)))
  | writes (h : task.stage = .execute) (effect : Effect) :
      TaskStep cfg clock t w i task (t.effect i effect) (some task)
  | reserve (h : task.stage = .reserve) :
      TaskStep cfg clock t w i task (t.reserveMandate i) (some (task.at .claim))
  | claim (h : task.stage = .claim) :
      TaskStep cfg clock t w i task (t.claimAttempt cfg i task.facilitatorId w task.now).1
        (if (t.claimAttempt cfg i task.facilitatorId w task.now).2 then
          some (task.at (.fence clock)) else none)
  | fence {now : UtcDateTime} {t' : Tables} {b : Bool} (h : task.stage = .fence now)
      (hop : t.claimFacilitatorFence cfg task.facilitatorId i w now = some (t', b)) :
      TaskStep cfg clock t w i task t' (some (task.at (if b then .sign else .defer now)))
  | defer {now retryAt : UtcDateTime} {t' : Tables} (h : task.stage = .defer now)
      (hop : t.deferAttempt i w retryAt = some t') : TaskStep cfg clock t w i task t' none
  | markSigned {t' : Tables} (h : task.stage = .markSigned)
      (hop : t.markAttempt i .signed w = some t') :
      TaskStep cfg clock t w i task t' (some (task.at .markSubmitting))
  | markSubmitting {t' : Tables} (h : task.stage = .markSubmitting)
      (hop : t.markAttempt i .submitting w = some t') :
      TaskStep cfg clock t w i task t' (some (task.at .execute))
  | markResult {result : ResultStatus} {t' : Tables} (h : task.stage = .markResult result)
      (hop : t.markAttempt i result.attempt w = some t') :
      TaskStep cfg clock t w i task t'
        (if result = .unknown then none else some (task.at .releaseFence))
  | undoAttempt {t' : Tables} (h : task.stage = .undoAttempt)
      (hop : t.markAttempt i .failed w = some t') :
      TaskStep cfg clock t w i task t' (some (task.at .undoSettlement))
  | releaseFence {t' : Tables} (h : task.stage = .releaseFence)
      (hop : t.releaseFacilitatorFence task.facilitatorId i w = some t') :
      TaskStep cfg clock t w i task t' none
  | undoFence {t' : Tables} (h : task.stage = .undoFence)
      (hop : t.releaseFacilitatorFence task.facilitatorId i w = some t') :
      TaskStep cfg clock t w i task t' (some (task.at .undoReservation))
  | undoReservation {reason : String} {t' : Tables} (h : task.stage = .undoReservation)
      (hop : t.releaseReservation i reason = some t') :
      TaskStep cfg clock t w i task t' (some (task.at .undoAttempt))
  | mandateMissing {t' : Tables} (h : task.stage = .mandateMissing)
      (hop : t.failSettlement i = some t') : TaskStep cfg clock t w i task t' none
  | fail {t' : Tables} (h : task.stage = .fail) (hop : t.failSettlement i = some t') :
      TaskStep cfg clock t w i task t' (some (task.at (.markResult .failed)))
  | undoSettlement {t' : Tables} (h : task.stage = .undoSettlement)
      (hop : t.failSettlement i = some t') : TaskStep cfg clock t w i task t' none

/-- An operation that may raise. -/
theorem resume_step {result : Option Tables}
    (hsome : ∀ t₁, result = some t₁ → TaskStep cfg clock t w i task t₁ next)
    (h : resume t task next result = (t', next')) : TaskStep cfg clock t w i task t' next' := by
  cases result with
  | none =>
      cases h
      exact .raises
  | some t₁ =>
      cases h
      exact hsome _ rfl

theorem stepTask_step (h : stepTask cfg clock t w i task input = some (t', next)) :
    TaskStep cfg clock t w i task t' next := by
  unfold stepTask at h
  split at h
  · cases h
    exact .raises
  · split at h
    · rename_i hst
      cases h
      exact .mandate hst _
    · cases h
  · split at h
    · rename_i hst
      cases h
      exact .writes hst _
    · cases h
  · split at h
    · rename_i hst
      cases h
      exact .executed hst _
    · cases h
  · split at h
    · cases h
    · cases h
    · rename_i hst
      exact resume_step (fun _ => .mandateMissing hst) (Option.some.inj h)
    · rename_i hst
      cases h
      exact .reserve hst
    · rename_i hst
      cases h
      exact .claim hst
    · rename_i now hst
      split at h
      · cases h
        exact .raises
      · rename_i t₁ hop
        cases h
        exact .fence hst hop
      · rename_i t₁ hop
        cases h
        exact .fence hst hop
    · rename_i now hst
      exact resume_step (fun _ => .defer hst) (Option.some.inj h)
    · rename_i hst
      cases h
      exact .sign hst
    · rename_i hst
      exact resume_step (fun _ => .markSigned hst) (Option.some.inj h)
    · rename_i hst
      exact resume_step (fun _ => .markSubmitting hst) (Option.some.inj h)
    · rename_i hst
      exact resume_step (fun _ => .fail hst) (Option.some.inj h)
    · rename_i result hst
      exact resume_step (fun _ => .markResult hst) (Option.some.inj h)
    · rename_i hst
      exact resume_step (fun _ => .releaseFence hst) (Option.some.inj h)
    · rename_i hst
      exact resume_step (fun _ => .undoFence hst) (Option.some.inj h)
    · rename_i hst
      exact resume_step (fun _ => .undoReservation hst) (Option.some.inj h)
    · rename_i hst
      exact resume_step (fun _ => .undoAttempt hst) (Option.some.inj h)
    · rename_i hst
      exact resume_step (fun _ => .undoSettlement hst) (Option.some.inj h)

/-- Outside `coordinator.execute` only the awaited operation writes. -/
theorem stepTask_input (h : stepTask cfg clock t w i task input = some (t', next)) :
    input = .run ∨ t' = t ∨ task.stage = .execute := by
  cases input with
  | run => exact Or.inl rfl
  | error =>
      cases h
      exact Or.inr (Or.inl rfl)
  | mandate found =>
      unfold stepTask at h
      dsimp only at h
      split at h
      · cases h
        exact Or.inr (Or.inl rfl)
      · cases h
  | writes effect =>
      unfold stepTask at h
      dsimp only at h
      split at h
      · rename_i hst
        exact Or.inr (Or.inr hst)
      · cases h
  | executed result =>
      unfold stepTask at h
      dsimp only at h
      split at h
      · cases h
        exact Or.inr (Or.inl rfl)
      · cases h

/-- How a step of `w` on `i` moves the attempts. -/
theorem TaskStep.attempts (h : TaskStep cfg clock t w i task t' next) :
    AttemptMove t t' w i task.facilitatorId task.stage := by
  have marked : ∀ {status : AttemptStatus} {t₁ : Tables}, t.markAttempt i status w = some t₁ →
      AttemptMove t t₁ w i task.facilitatorId task.stage := by
    intro status t₁ hop
    obtain ⟨a, ha, hown, rfl⟩ := markAttempt_some hop
    exact .owned a _ rfl ha hown rfl (markedRow_owner hown)
  cases h with
  | raises | mandate _ _ | sign _ | executed _ _ => exact .same rfl
  | writes hst effect => cases effect <;> exact .same rfl
  | reserve hst =>
      refine .same ?_
      unfold Tables.reserveMandate
      split <;> rfl
  | claim hst =>
      rcases claimAttempt_spec t cfg i task.facilitatorId w task.now with hno | ⟨a', hyes, h1, h2, h3, h4⟩
      · rw [hno]
        exact .same rfl
      · rw [hyes]
        exact .claimed hst a' rfl h1 h2 h3 h4
  | fence hst hop =>
      rcases claimFacilitatorFence_some hop with rfl | ⟨-, rfl⟩ <;> exact .same rfl
  | defer hst hop =>
      obtain ⟨a, ha, hown, rfl⟩ := deferAttempt_some hop
      exact .owned a _ rfl ha hown rfl (Or.inl hown)
  | markSigned _ hop | markSubmitting _ hop | markResult _ hop | undoAttempt _ hop => exact marked hop
  | releaseFence _ hop | undoFence _ hop =>
      rw [releaseFacilitatorFence_some hop]
      exact .same rfl
  | undoReservation hst hop =>
      rcases releaseReservation_some hop with rfl | ⟨-, rfl⟩ <;> exact .same rfl
  | mandateMissing _ hop | fail _ hop | undoSettlement _ hop =>
      rcases failSettlement_some hop with rfl | ⟨-, rfl⟩ <;> exact .same rfl

/-! ### The invariant of one `_execute` -/

/-- The worker has claimed the attempt for `f`; while it still owns it, nothing was
    submitted. -/
def Claimed (t : Tables) (w i f : String) : Prop :=
  ∃ a, t.attempts.get i = some a ∧ a.facilitatorId = some f ∧
    (a.leaseOwner = some w → a.status = .reserved ∨ a.status = .signed)

/-- The worker owns the attempt and has marked it `submitting`. -/
def Submitting (t : Tables) (w i f : String) : Prop :=
  ∃ a, t.attempts.get i = some a ∧ a.facilitatorId = some f ∧ a.leaseOwner = some w ∧
    a.status = .submitting

/-- The attempt has failed and nobody owns it. -/
def GivenUp (t : Tables) (i : String) : Prop :=
  ∃ a, t.attempts.get i = some a ∧ a.leaseOwner = none ∧ a.status = .failed

/-- What the stage of an `_execute` says about its attempt. -/
def StageOk (t : Tables) (w i f : String) : Stage → Prop
  | .fence _ | .defer _ | .sign | .markSigned | .markSubmitting
  | .undoFence | .undoReservation | .undoAttempt => Claimed t w i f
  | .execute | .fail | .markResult _ => Submitting t w i f
  | .undoSettlement => GivenUp t i
  | .mandate | .mandateMissing | .reserve | .claim | .releaseFence => True

/-- Only the attempt of the intent matters. -/
theorem StageOk.congr {stage : Stage} (h : t'.attempts.get i = t.attempts.get i)
    (hok : StageOk t w i f stage) : StageOk t' w i f stage := by
  unfold StageOk Claimed Submitting GivenUp at *
  rw [h]
  exact hok

/-- The attempt of the intent after another worker moved it. -/
theorem AttemptMove.claimed_other {w₂ f₂ : String} {stage : Stage}
    (h : AttemptMove t t' w i f stage) (hne : w₂ ≠ w)
    (hok : Claimed t w₂ i f₂) : Claimed t' w₂ i f₂ := by
  obtain ⟨a, ha, hfac, hfree⟩ := hok
  cases h with
  | same h => exact ⟨a, by rw [h]; exact ha, hfac, hfree⟩
  | claimed hclaim a' h before facilitator owner status =>
      refine ⟨a', by rw [h]; exact Dict.get_set_self _ _ _, ?_, fun _ => status⟩
      rw [facilitator, (before a ha).2 f₂ hfac]
  | owned b a' h before owner facilitator after =>
      obtain rfl : a = b := Option.some.inj (ha.symm.trans before)
      refine ⟨a', by rw [h]; exact Dict.get_set_self _ _ _, facilitator.trans hfac, ?_⟩
      intro hown
      -- the lease is with `w`, or with nobody
      rcases after with hw | hnone
      · exact absurd (Option.some.inj (hown.symm.trans hw)) hne
      · rw [hnone] at hown
        cases hown

theorem AttemptMove.submitting_other {w₂ f₂ : String} {stage : Stage}
    (h : AttemptMove t t' w i f stage) (hne : w₂ ≠ w)
    (hok : Submitting t w₂ i f₂) : Submitting t' w₂ i f₂ := by
  obtain ⟨a, ha, hfac, hown, hst⟩ := hok
  cases h with
  | same h => exact ⟨a, by rw [h]; exact ha, hfac, hown, hst⟩
  | claimed hclaim a' h before facilitator owner status =>
      rcases (before a ha).1 with hres | hsig
      · rw [hst] at hres
        cases hres
      · rw [hst] at hsig
        cases hsig
  | owned b a' h before owner facilitator after =>
      obtain rfl : a = b := Option.some.inj (ha.symm.trans before)
      exact absurd (Option.some.inj (hown.symm.trans owner)) hne

theorem AttemptMove.givenUp_other {stage : Stage} (h : AttemptMove t t' w i f stage)
    (hok : GivenUp t i) :
    GivenUp t' i := by
  obtain ⟨a, ha, hown, hst⟩ := hok
  cases h with
  | same h => exact ⟨a, by rw [h]; exact ha, hown, hst⟩
  | claimed hclaim a' h before facilitator owner status =>
      rcases (before a ha).1 with hres | hsig
      · rw [hst] at hres
        cases hres
      · rw [hst] at hsig
        cases hsig
  | owned b a' h before owner facilitator after =>
      obtain rfl : a = b := Option.some.inj (ha.symm.trans before)
      rw [hown] at owner
      cases owner

/-- A step leaves the attempts of the other intents alone. -/
theorem AttemptMove.get_other {i₂ : String} {stage : Stage} (h : AttemptMove t t' w i f stage)
    (hne : i₂ ≠ i) :
    t'.attempts.get i₂ = t.attempts.get i₂ := by
  cases h with
  | same h => rw [h]
  | claimed hclaim a' h before facilitator owner status => rw [h, Dict.get_set_ne _ _ hne]
  | owned b a' h before owner facilitator after => rw [h, Dict.get_set_ne _ _ hne]

/-- A step of another worker, or on another intent, keeps what a stage says. -/
theorem AttemptMove.other {w₂ i₂ f₂ : String} {stage stage₂ : Stage}
    (h : AttemptMove t t' w i f stage) (hne : ¬ (w₂ = w ∧ i₂ = i))
    (hok : StageOk t w₂ i₂ f₂ stage₂) : StageOk t' w₂ i₂ f₂ stage₂ := by
  by_cases hi : i₂ = i
  · subst hi
    have hw : w₂ ≠ w := fun hc => hne ⟨hc, rfl⟩
    unfold StageOk at hok ⊢
    split at hok
    all_goals first
      | exact h.claimed_other hw hok
      | exact h.submitting_other hw hok
      | exact h.givenUp_other hok
      | exact trivial
  · exact hok.congr (h.get_other hi)

/-- A mark by the owner that is not terminal keeps the claim. -/
theorem markSigned_claimed (h : Claimed t w i f) (hop : t.markAttempt i .signed w = some t') :
    Claimed t' w i f := by
  obtain ⟨a, ha, hfac, -⟩ := h
  obtain ⟨b, hb, -, rfl⟩ := markAttempt_some hop
  obtain rfl : a = b := Option.some.inj (ha.symm.trans hb)
  exact ⟨_, Dict.get_set_self _ _ _, hfac, fun _ => Or.inr rfl⟩

theorem markSubmitting_submitting (h : Claimed t w i f)
    (hop : t.markAttempt i .submitting w = some t') : Submitting t' w i f := by
  obtain ⟨a, ha, hfac, -⟩ := h
  obtain ⟨b, hb, hown, rfl⟩ := markAttempt_some hop
  obtain rfl : a = b := Option.some.inj (ha.symm.trans hb)
  exact ⟨_, Dict.get_set_self _ _ _, hfac, hown, rfl⟩

theorem markFailed_givenUp (hop : t.markAttempt i .failed w = some t') : GivenUp t' i := by
  obtain ⟨a, -, -, rfl⟩ := markAttempt_some hop
  exact ⟨_, Dict.get_set_self _ _ _, rfl, rfl⟩

theorem raised_stageOk (hok : StageOk t w i task.facilitatorId task.stage) :
    ∀ task', task.raised = some task' → StageOk t w i task'.facilitatorId task'.stage := by
  intro task' hr
  unfold Task.raised at hr
  split at hr
  case h_6 => cases hr
  all_goals
    rename_i hst
    rw [hst] at hok
    cases hr
    exact hok

/-- A step keeps the invariant of the `_execute` that takes it. -/
theorem TaskStep.stageOk (h : TaskStep cfg clock t w i task t' next)
    (hok : StageOk t w i task.facilitatorId task.stage) :
    ∀ task', next = some task' → StageOk t' w i task'.facilitatorId task'.stage := by
  have hmove := h.attempts
  intro task' hnext
  cases h with
  | raises => exact raised_stageOk hok task' hnext
  | mandate hst found =>
      cases hnext
      cases found <;> exact trivial
  | sign hst =>
      cases hnext
      rw [hst] at hok
      exact hok
  | executed hst result =>
      cases hnext
      rw [hst] at hok
      cases result <;> exact hok
  | writes hst effect =>
      cases hnext
      refine hok.congr ?_
      cases effect <;> rfl
  | reserve hst =>
      cases hnext
      exact trivial
  | claim hst =>
      rcases claimAttempt_spec t cfg i task.facilitatorId w task.now with
        hno | ⟨a', hyes, -, hfac, -, hst'⟩
      · rw [hno] at hnext
        cases hnext
      · rw [hyes] at hnext ⊢
        cases hnext
        exact ⟨a', Dict.get_set_self _ _ _, hfac, fun _ => hst'⟩
  | @fence now _ b hst hop =>
      cases hnext
      rw [hst] at hok
      have hclaimed : Claimed t' w i task.facilitatorId := by
        rcases claimFacilitatorFence_some hop with rfl | ⟨-, rfl⟩ <;> exact hok
      cases b <;> exact hclaimed
  | defer hst hop => cases hnext
  | markSigned hst hop =>
      cases hnext
      rw [hst] at hok
      exact markSigned_claimed hok hop
  | markSubmitting hst hop =>
      cases hnext
      rw [hst] at hok
      exact markSubmitting_submitting hok hop
  | @markResult result _ hst hop =>
      cases result <;> cases hnext <;> exact trivial
  | undoAttempt hst hop =>
      cases hnext
      exact markFailed_givenUp hop
  | releaseFence hst hop => cases hnext
  | undoFence hst hop =>
      cases hnext
      rw [hst] at hok
      rw [releaseFacilitatorFence_some hop]
      exact hok
  | undoReservation hst hop =>
      cases hnext
      rw [hst] at hok
      rcases releaseReservation_some hop with rfl | ⟨-, rfl⟩ <;> exact hok
  | mandateMissing hst hop => cases hnext
  | fail hst hop =>
      cases hnext
      rw [hst] at hok
      rcases failSettlement_some hop with rfl | ⟨-, rfl⟩ <;> exact hok
  | undoSettlement hst hop => cases hnext

/-! ### All of them together -/

variable {sys sys' : System} {e : Event}

/-- Every `_execute` is where its attempt says it can be. -/
def System.StagesOk (sys : System) : Prop :=
  ∀ w i task, sys.tasks w i = some task →
    StageOk sys.tables w i task.facilitatorId task.stage

theorem setTask_some {w₂ i₂ : String} {task₂ : Task}
    (h : sys.setTask w i next w₂ i₂ = some task₂) :
    (w₂ = w ∧ i₂ = i ∧ next = some task₂) ∨ (¬ (w₂ = w ∧ i₂ = i) ∧ sys.tasks w₂ i₂ = some task₂) := by
  unfold System.setTask at h
  by_cases hk : w₂ = w ∧ i₂ = i
  · rw [if_pos hk] at h
    exact Or.inl ⟨hk.1, hk.2, h⟩
  · rw [if_neg hk] at h
    exact Or.inr ⟨hk, h⟩

/-- The step of a suspended `_execute`, spelled out. -/
theorem stepSystem_step (h : stepSystem cfg sys (.step w i input) = some sys') :
    ∃ task next, sys.tasks w i = some task ∧
      stepTask cfg sys.clock sys.tables w i task input = some (sys'.tables, next) ∧
      sys'.tasks = sys.setTask w i next ∧
      sys'.held = (if claims cfg sys.tables w i task input then (w, i) :: sys.held
        else sys.held) := by
  unfold stepSystem at h
  dsimp only at h
  split at h
  · cases h
  · rename_i task htask
    obtain ⟨⟨t', next⟩, hstep, rfl⟩ := Option.map_eq_some_iff.mp h
    exact ⟨task, next, htask, hstep, rfl, rfl⟩

/-- What an event other than a step writes. -/
inductive QuietMove (t t' : Tables) : Prop
  | same (h : t' = t)
  | effect (i : String) (effect : Effect) (h : t' = t.effect i effect)
  | dropFence (f : String) (h : t' = { t with fences := t.fences.erase f })

theorem QuietMove.attempts (h : QuietMove t t') : t'.attempts = t.attempts := by
  cases h with
  | same h => rw [h]
  | effect i effect h =>
      rw [h]
      cases effect <;> rfl
  | dropFence f h => rw [h]

/-- A task after an event other than a step was there before, or has just started. -/
theorem stepSystem_quiet (h : stepSystem cfg sys e = some sys')
    (hstep : ∀ w i input, e ≠ .step w i input) :
    QuietMove sys.tables sys'.tables ∧
      ∀ w i task, sys'.tasks w i = some task →
        sys.tasks w i = some task ∨ task.stage = .mandate := by
  cases e with
  | step w i input => exact absurd rfl (hstep w i input)
  | tick d =>
      cases h
      exact ⟨.same rfl, fun _ _ _ => Or.inl⟩
  | start w i f =>
      unfold stepSystem at h
      dsimp only at h
      split at h
      · cases h
      · cases h
        refine ⟨.same rfl, ?_⟩
        intro w₂ i₂ task htask
        rcases setTask_some htask with ⟨-, -, hnew⟩ | ⟨-, hold⟩
        · cases hnew
          exact Or.inr rfl
        · exact Or.inl hold
  | crash w i =>
      cases h
      refine ⟨.same rfl, ?_⟩
      intro w₂ i₂ task htask
      rcases setTask_some htask with ⟨-, -, hnew⟩ | ⟨-, hold⟩
      · cases hnew
      · exact Or.inl hold
  | outside i effect =>
      cases h
      exact ⟨.effect i effect rfl, fun _ _ _ => Or.inl⟩
  | dropFence f i =>
      unfold stepSystem at h
      dsimp only at h
      split at h
      · cases h
        exact ⟨.same rfl, fun _ _ _ => Or.inl⟩
      · split at h
        · cases h
          exact ⟨.dropFence f rfl, fun _ _ _ => Or.inl⟩
        · cases h
          exact ⟨.same rfl, fun _ _ _ => Or.inl⟩

theorem stepSystem_stagesOk (h : stepSystem cfg sys e = some sys') (hok : sys.StagesOk) :
    sys'.StagesOk := by
  by_cases hev : ∃ w i input, e = .step w i input
  · obtain ⟨w, i, input, rfl⟩ := hev
    obtain ⟨task, next, htask, hstep, htasks, -⟩ := stepSystem_step h
    have hts := stepTask_step hstep
    intro w₂ i₂ task₂ htask₂
    rw [htasks] at htask₂
    rcases setTask_some htask₂ with ⟨rfl, rfl, hnew⟩ | ⟨hne, hold⟩
    · exact hts.stageOk (hok _ _ _ htask) task₂ hnew
    · exact hts.attempts.other hne (hok _ _ _ hold)
  · obtain ⟨hquiet, htasks⟩ := stepSystem_quiet h fun w i input hc => hev ⟨w, i, input, hc⟩
    intro w₂ i₂ task₂ htask₂
    rcases htasks _ _ _ htask₂ with hold | hnew
    · refine (hok _ _ _ hold).congr ?_
      rw [hquiet.attempts]
    · rw [hnew]
      exact trivial

theorem initial_stagesOk (clock : UtcDateTime) (tables : Tables) :
    (System.initial clock tables).StagesOk := by
  intro w i task h
  cases h

/-- In every run, every `_execute` is where its attempt says it can be. -/
theorem run_stagesOk {ok : System → Event → Prop} {clock : UtcDateTime} {tables : Tables}
    (h : Trans.Run (stepSystem cfg) ok (System.initial clock tables) sys) : sys.StagesOk :=
  h.invariant (initial_stagesOk clock tables) fun _ _ _ ht _ hs => stepSystem_stagesOk hs ht

end Arena402.Payments.Worker
