/-
What a worker may still do after its attempt was taken over.

A worker that lost its lease cannot mark the attempt any more, but two of its writes do not
ask for the lease: the release of the reservation in the handler of `_execute`, and the
failure it records when it finds no active mandate.  Every other write to the reservation
or to the settlement happens while the worker owns the attempt, or after it has given the
attempt up for good.

So a takeover is harmless when it is in time: the overtaken worker does not run into its
handler or miss its mandate afterwards, and no attempt is taken over from a worker that
already has.
-/
import Arena402.Proofs.Payments.Fence

namespace Arena402.Payments.Worker

open Py

variable {cfg : LeaseConfig} {clock : UtcDateTime} {t t' : Tables} {w i f : String}
  {task : Task} {input : Input} {next : Option Task} {sys sys' : System} {e : Event}

/-- The worker has claimed the attempt at some time, and another worker owns its lease. -/
def TakenOver (sys : System) (w i : String) : Prop :=
  (w, i) ∈ sys.held ∧ ∃ a ∈ sys.tables.attempts.get i, ∃ w' ∈ a.leaseOwner, w' ≠ w

/-- The payment reservation and the status of the intent stay as they are. -/
def LeavesAlone (t t' : Tables) (i : String) : Prop :=
  t'.reservations.get i = t.reservations.get i ∧ t'.intents.get i = t.intents.get i

/-- In every run whose steps meet `ok`, a worker whose attempt was taken over changes
    neither. -/
def TakenOverIsHarmless (cfg : LeaseConfig) (ok : System → Event → Prop) (clock : UtcDateTime)
    (tables : Tables) : Prop :=
  ∀ sys w i input sys',
    Trans.Run (stepSystem cfg) ok (System.initial clock tables) sys →
    ok sys (.step w i input) → stepSystem cfg sys (.step w i input) = some sys' →
    TakenOver sys w i → LeavesAlone sys.tables sys'.tables i

/-- The stages on the way to a write that does not ask for the lease. -/
def Stage.unleased : Stage → Bool
  | .undoFence | .undoReservation | .mandateMissing => true
  | _ => false

/-- The awaited operation raises before anything was submitted, which leads into the handler. -/
def failsEarly (t : Tables) (cfg : LeaseConfig) (w i : String) (task : Task) : Input → Bool
  | .error =>
    match task.stage with
    | .fence _ | .defer _ | .sign | .markSigned | .markSubmitting => true
    | _ => false
  | .run =>
    match task.stage with
    | .fence fenceNow => (t.claimFacilitatorFence cfg task.facilitatorId i w fenceNow).isNone
    | .defer fenceNow => (t.deferAttempt i w (fenceNow + cfg.retryDelay i * 1000)).isNone
    | .markSigned => (t.markAttempt i .signed w).isNone
    | .markSubmitting => (t.markAttempt i .submitting w).isNone
    | _ => false
  | _ => false

/-- No active mandate is found. -/
def missesMandate (task : Task) (input : Input) : Bool :=
  task.stage = .mandate && input = .mandate false

/-- The condition on one step under which takeovers are harmless. -/
structure Timely (cfg : LeaseConfig) (sys : System) (w i : String) (input : Input) : Prop where
  /-- A worker fails before the submission, or finds no mandate, only while nobody has taken its
      attempt over. -/
  fails : ∀ task ∈ sys.tasks w i, (failsEarly sys.tables cfg w i task input = true ∨
    missesMandate task input = true) → ¬ TakenOver sys w i
  /-- An attempt is not taken over from a worker that has failed or found no mandate and has yet to
      write that down. -/
  takes : ∀ task ∈ sys.tasks w i, claims cfg sys.tables w i task input = true →
    ∀ past ∈ sys.held, past.1 ≠ w → past.2 = i → ∀ task' ∈ sys.tasks past.1 i,
      task'.stage.unleased = false

def TimelyEvent (cfg : LeaseConfig) (sys : System) : Event → Prop
  | .step w i input => Timely cfg sys w i input
  | _ => True

instance (sys : System) (w i : String) : Decidable (TakenOver sys w i) :=
  inferInstanceAs (Decidable (_ ∧ _))

theorem timely_iff (cfg : LeaseConfig) (sys : System) (w i : String) (input : Input) :
    Timely cfg sys w i input ↔
      (∀ task ∈ sys.tasks w i, (failsEarly sys.tables cfg w i task input = true ∨
        missesMandate task input = true) → ¬ TakenOver sys w i) ∧
      ∀ task ∈ sys.tasks w i, claims cfg sys.tables w i task input = true →
        ∀ past ∈ sys.held, past.1 ≠ w → past.2 = i → ∀ task' ∈ sys.tasks past.1 i,
          task'.stage.unleased = false :=
  ⟨fun h => ⟨h.fails, h.takes⟩, fun h => ⟨h.1, h.2⟩⟩

instance (cfg : LeaseConfig) (sys : System) (w i : String) (input : Input) :
    Decidable (Timely cfg sys w i input) :=
  decidable_of_iff _ (timely_iff cfg sys w i input).symm

instance (cfg : LeaseConfig) (sys : System) (e : Event) : Decidable (TimelyEvent cfg sys e) :=
  match e with
  | .step w i input => inferInstanceAs (Decidable (Timely cfg sys w i input))
  | .tick _ => .isTrue trivial
  | .start .. => .isTrue trivial
  | .crash .. => .isTrue trivial
  | .outside .. => .isTrue trivial
  | .dropFence .. => .isTrue trivial

/-! ### The writes to reservations and intents -/

/-- What one step of an `_execute` on `i` does to the reservations and the intents. -/
inductive RowMove (t t' : Tables) (i : String) (stage : Stage) : Prop
  | same (hres : t'.reservations = t.reservations) (hint : t'.intents = t.intents)
  | coordinator (hst : stage = .execute) (effect : Effect) (h : t' = t.effect i effect)
  | reserved (hst : stage = .reserve) (hnone : t.reservations.get i = none) (r : ReservationRow)
      (h : t' = { t with reservations := t.reservations.set i r })
  | released (hst : stage = .undoReservation)
      (hres : ∃ r, t.reservations.get i = some r ∧ r.status = .reserved) (r : ReservationRow)
      (h : t' = { t with reservations := t.reservations.set i r })
  | failed (hst : stage = .mandateMissing ∨ stage = .fail ∨ stage = .undoSettlement)
      (hreq : t.intents.get i = some .authorizationRequested)
      (h : t' = { t with intents := t.intents.set i .authorizationFailed })

theorem TaskStep.rows (h : TaskStep cfg clock t w i task t' next) :
    RowMove t t' i task.stage := by
  have marked : ∀ {status : AttemptStatus} {t₁ : Tables}, t.markAttempt i status w = some t₁ →
      RowMove t t₁ i task.stage := by
    intro status t₁ hop
    obtain ⟨a, -, -, rfl⟩ := markAttempt_some hop
    exact .same rfl rfl
  have failed : ∀ {t₁ : Tables}, t.failSettlement i = some t₁ →
      (task.stage = .mandateMissing ∨ task.stage = .fail ∨ task.stage = .undoSettlement) →
      RowMove t t₁ i task.stage := by
    intro t₁ hop hst
    rcases failSettlement_some hop with rfl | ⟨hreq, rfl⟩
    · exact .same rfl rfl
    · exact .failed hst hreq rfl
  have unfenced : ∀ {t₁ : Tables}, t.releaseFacilitatorFence task.facilitatorId i w = some t₁ →
      RowMove t t₁ i task.stage := by
    intro t₁ hop
    rw [releaseFacilitatorFence_some hop]
    exact .same rfl rfl
  cases h with
  | raises | mandate _ _ | sign _ | executed _ _ => exact .same rfl rfl
  | writes hst effect => exact .coordinator hst effect rfl
  | reserve hst =>
      unfold Tables.reserveMandate
      split
      · exact .same rfl rfl
      · rename_i hnone
        exact .reserved hst hnone _ rfl
  | claim hst =>
      rcases claimAttempt_spec t cfg i task.facilitatorId w task.now with hno | ⟨a', hyes, -⟩
      · rw [hno]
        exact .same rfl rfl
      · rw [hyes]
        exact .same rfl rfl
  | fence hst hop =>
      rcases claimFacilitatorFence_some hop with rfl | ⟨-, rfl⟩ <;> exact .same rfl rfl
  | defer hst hop =>
      obtain ⟨a, -, -, rfl⟩ := deferAttempt_some hop
      exact .same rfl rfl
  | markSigned _ hop | markSubmitting _ hop | markResult _ hop | undoAttempt _ hop => exact marked hop
  | releaseFence _ hop | undoFence _ hop => exact unfenced hop
  | undoReservation hst hop =>
      rcases releaseReservation_some hop with rfl | ⟨hres, rfl⟩
      · exact .same rfl rfl
      · exact .released hst hres _ rfl
  | mandateMissing hst hop => exact failed hop (Or.inl hst)
  | fail hst hop => exact failed hop (Or.inr (Or.inl hst))
  | undoSettlement hst hop => exact failed hop (Or.inr (Or.inr hst))

/-! ### An attempt has a reservation -/

/-- The intent has a reservation. -/
def HasReservation (t : Tables) (i : String) : Prop :=
  ∃ r, t.reservations.get i = some r

/-- Every attempt, and every `_execute` that is about to claim one, has its reservation. -/
structure Backed (sys : System) : Prop where
  attempts : ∀ i a, sys.tables.attempts.get i = some a → HasReservation sys.tables i
  claims : ∀ w i task, sys.tasks w i = some task → task.stage = .claim →
    HasReservation sys.tables i

theorem HasReservation.set {j : String} {r : ReservationRow} (h : HasReservation t j) :
    HasReservation { t with reservations := t.reservations.set i r } j := by
  obtain ⟨x, hx⟩ := h
  unfold HasReservation
  dsimp only
  rw [Dict.get_set]
  by_cases hj : j = i
  · rw [if_pos hj]
    exact ⟨r, rfl⟩
  · rw [if_neg hj]
    exact ⟨x, hx⟩

theorem HasReservation.effect {j : String} (h : HasReservation t j) (effect : Effect) :
    HasReservation (t.effect i effect) j := by
  cases effect with
  | reservation row => exact h.set
  | intent status => exact h
  | submission => exact h

/-- A reservation is never removed. -/
theorem RowMove.grows {j : String} {stage : Stage} (h : RowMove t t' i stage)
    (hj : HasReservation t j) : HasReservation t' j := by
  cases h with
  | same hres hint =>
      unfold HasReservation
      rw [hres]
      exact hj
  | coordinator hst effect h =>
      rw [h]
      exact hj.effect effect
  | reserved _ _ _ h | released _ _ _ h =>
      rw [h]
      exact hj.set
  | failed hst hreq h =>
      rw [h]
      exact hj

theorem QuietMove.grows {j : String} (h : QuietMove t t') (hj : HasReservation t j) :
    HasReservation t' j := by
  cases h with
  | same h =>
      rw [h]
      exact hj
  | effect i effect h =>
      rw [h]
      exact hj.effect effect
  | dropFence f h =>
      rw [h]
      exact hj

/-- An `_execute` that is about to claim has just reserved. -/
theorem TaskStep.claim_next (h : TaskStep cfg clock t w i task t' next) :
    ∀ task', next = some task' → task'.stage = .claim → HasReservation t' i := by
  intro task' hnext hst'
  cases h with
  | reserve hst =>
      unfold HasReservation Tables.reserveMandate
      split
      · rename_i r hr
        exact ⟨r, hr⟩
      · exact ⟨_, Dict.get_set_self _ _ _⟩
  | raises =>
      unfold Task.raised at hnext
      split at hnext <;> cases hnext <;> cases hst'
  | mandate hst found =>
      cases hnext
      cases found <;> cases hst'
  | executed hst result =>
      cases hnext
      cases result <;> cases hst'
  | writes hst effect =>
      cases hnext
      rw [hst] at hst'
      cases hst'
  | claim hst =>
      rcases claimAttempt_spec t cfg i task.facilitatorId w task.now with hno | ⟨a', hyes, -⟩
      · rw [hno] at hnext
        cases hnext
      · rw [hyes] at hnext
        cases hnext
        cases hst'
  | @fence now _ b hst hop =>
      cases hnext
      cases b <;> cases hst'
  | @markResult result _ hst hop =>
      cases result <;> cases hnext <;> cases hst'
  | sign _ | markSigned _ _ | markSubmitting _ _ | undoAttempt _ _ | undoFence _ _
  | undoReservation _ _ | fail _ _ => cases hnext; cases hst'
  | defer hst hop => cases hnext
  | releaseFence hst hop => cases hnext
  | mandateMissing hst hop => cases hnext
  | undoSettlement hst hop => cases hnext

/-- An attempt that exists after a step existed before it, or was claimed by it. -/
theorem TaskStep.attempt_backed (h : TaskStep cfg clock t w i task t' next)
    (hatt : ∀ j a, t.attempts.get j = some a → HasReservation t j)
    (hclaim : task.stage = .claim → HasReservation t i) :
    ∀ j a, t'.attempts.get j = some a → HasReservation t' j := by
  intro j a ha
  refine h.rows.grows ?_
  by_cases hj : j = i
  · subst hj
    cases h.attempts with
    | same hs =>
        rw [hs] at ha
        exact hatt j a ha
    | owned b a' hs before owner facilitator after => exact hatt j b before
    | claimed hst a' hs before facilitator owner status => exact hclaim hst
  · rw [h.attempts.get_other hj] at ha
    exact hatt j a ha

theorem stepSystem_backed (h : stepSystem cfg sys e = some sys') (hb : Backed sys) :
    Backed sys' := by
  by_cases hev : ∃ w i input, e = .step w i input
  · obtain ⟨w, i, input, rfl⟩ := hev
    obtain ⟨task, next, htask, hstep, htasks, -⟩ := stepSystem_step h
    have hts := stepTask_step hstep
    refine ⟨hts.attempt_backed hb.attempts (hb.claims _ _ _ htask), ?_⟩
    intro w₂ i₂ task₂ htask₂ hst
    rw [htasks] at htask₂
    rcases setTask_some htask₂ with ⟨rfl, rfl, hnew⟩ | ⟨-, hold⟩
    · exact hts.claim_next task₂ hnew hst
    · exact hts.rows.grows (hb.claims _ _ _ hold hst)
  · obtain ⟨hquiet, htasks⟩ := stepSystem_quiet h fun w i input hc => hev ⟨w, i, input, hc⟩
    refine ⟨?_, ?_⟩
    · intro j a ha
      rw [hquiet.attempts] at ha
      exact hquiet.grows (hb.attempts j a ha)
    · intro w i task htask hst
      rcases htasks _ _ _ htask with hold | hnew
      · exact hquiet.grows (hb.claims _ _ _ hold hst)
      · rw [hnew] at hst
        cases hst

theorem initial_backed (clock : UtcDateTime) (tables : Tables) :
    Backed (System.initial clock tables) := by
  refine ⟨?_, ?_⟩
  · intro i a ha
    cases ha
  · intro w i task htask
    cases htask

/-! ### A worker without the lease -/

/-- Another worker owns the attempt of `i`. -/
def OwnedElsewhere (t : Tables) (w i : String) : Prop :=
  ∃ a ∈ t.attempts.get i, ∃ w' ∈ a.leaseOwner, w' ≠ w

/-- A worker that is submitting, or that has given up, does not lose its attempt. -/
theorem not_submitting_elsewhere (h : OwnedElsewhere t w i) : ¬ Submitting t w i f := by
  rintro ⟨a, ha, -, hown, -⟩
  obtain ⟨b, hb, w', hw', hne⟩ := h
  obtain rfl : a = b := Option.some.inj (ha.symm.trans hb)
  have hw : a.leaseOwner = some w' := hw'
  exact hne (Option.some.inj (hw.symm.trans hown))

theorem not_givenUp_elsewhere (h : OwnedElsewhere t w i) : ¬ GivenUp t i := by
  rintro ⟨a, ha, hown, -⟩
  obtain ⟨b, hb, w', hw', -⟩ := h
  obtain rfl : a = b := Option.some.inj (ha.symm.trans hb)
  rw [hown] at hw'
  cases hw'

/-- A step of a worker without the lease changes nothing but through the two writes that do
    not ask for it. -/
theorem TaskStep.leavesAlone (h : TaskStep cfg clock t w i task t' next)
    (hok : StageOk t w i task.facilitatorId task.stage) (helse : OwnedElsewhere t w i)
    (hres : HasReservation t i) (hleased : task.stage.unleased = false) : LeavesAlone t t' i := by
  cases h.rows with
  | same hres hint => exact ⟨by rw [hres], by rw [hint]⟩
  | coordinator hst effect ht =>
      rw [hst] at hok
      exact absurd hok (not_submitting_elsewhere helse)
  | reserved hst hnone r ht =>
      obtain ⟨x, hx⟩ := hres
      rw [hnone] at hx
      cases hx
  | released hst hreserved r ht =>
      rw [hst] at hleased
      cases hleased
  | failed hst hreq ht =>
      rcases hst with hst | hst | hst
      · rw [hst] at hleased
        cases hleased
      · rw [hst] at hok
        exact absurd hok (not_submitting_elsewhere helse)
      · rw [hst] at hok
        exact absurd hok (not_givenUp_elsewhere helse)

/-! ### Takeovers in time -/

/-- A step that claims no attempt writes none, or writes that of its own worker. -/
theorem attempts_of_not_claims (h : stepTask cfg clock t w i task input = some (t', next))
    (hno : claims cfg t w i task input = false) :
    t'.attempts = t.attempts ∨ ∃ a, t.attempts.get i = some a ∧ a.leaseOwner = some w := by
  cases (stepTask_step h).attempts with
  | same hs => exact Or.inl hs
  | owned a a' hs before owner facilitator after => exact Or.inr ⟨a, before, owner⟩
  | claimed hst a' hs before facilitator owner status =>
      rcases stepTask_input h with rfl | hsame | hexec
      · left
        unfold claims at hno
        rw [hst] at hno
        unfold stepTask at h
        dsimp only at h
        rw [hst] at h
        obtain rfl := (Prod.mk.inj (Option.some.inj h)).1
        rcases claimAttempt_spec t cfg i task.facilitatorId w task.now with hfail | ⟨a', hyes, -⟩
        · rw [hfail]
        · rw [hyes] at hno
          cases hno
      · rw [hsame]
        exact Or.inl rfl
      · rw [hst] at hexec
        cases hexec

/-- An awaited operation raised or it returned. -/
theorem resume_some {next : Option Task} {op : Option Tables} {task' : Task}
    (h : resume t task next op = (t', some task')) :
    (op = none ∧ t = t' ∧ task.raised = some task') ∨ next = some task' := by
  cases op with
  | none =>
      obtain ⟨ht, hr⟩ := Prod.mk.inj h
      exact Or.inl ⟨rfl, ht, hr⟩
  | some t₁ => exact Or.inr (Prod.mk.inj h).2

/-- An awaited operation that raises leads out of the `_execute`, unless it is one of the first. -/
theorem next_of_resume {next : Option Task} {op : Option Tables} {task' : Task}
    (h : resume t task next op = (t', some task')) (hnone : task.raised = none) :
    next = some task' := by
  rcases resume_some h with ⟨-, -, hr⟩ | hnext
  · rw [hnone] at hr
    cases hr
  · exact hnext

/-- Only an early failure leads into the handler. -/
theorem failsEarly_of_raised {task' : Task} (h : task.raised = some task') :
    failsEarly t cfg w i task .error = true := by
  unfold Task.raised at h
  split at h
  case h_6 => cases h
  all_goals
    rename_i hst
    simp only [failsEarly, hst]

/-- How the operation that is awaited leads to a write without the lease. -/
theorem run_unleased {task' : Task}
    (h : stepTask cfg clock t w i task .run = some (t', some task'))
    (hun : task'.stage.unleased = true) :
    t'.attempts = t.attempts ∧ claims cfg t w i task .run = false ∧
      (failsEarly t cfg w i task .run = true ∨ missesMandate task .run = true ∨
        task.stage.unleased = true) := by
  unfold stepTask at h
  unfold claims failsEarly missesMandate
  dsimp only at h ⊢
  split at h
  case h_1 => cases h
  case h_2 => cases h
  case h_3 hst =>
    cases next_of_resume (Option.some.inj h) (by unfold Task.raised; rw [hst])
  case h_4 => cases h; cases hun
  case h_5 hst =>
    split at h
    · cases h
      cases hun
    · cases h
  case h_6 fenceNow hst =>
    rw [hst]
    dsimp only
    split at h
    · rename_i hop
      obtain ⟨rfl, -⟩ := Prod.mk.inj (Option.some.inj h)
      rw [hop]
      exact ⟨rfl, rfl, Or.inl rfl⟩
    · cases h
      cases hun
    · cases h
      cases hun
  case h_7 fenceNow hst =>
    rw [hst]
    rcases resume_some (Option.some.inj h) with ⟨hop, rfl, -⟩ | hnext
    · dsimp only
      rw [hop]
      exact ⟨rfl, rfl, Or.inl rfl⟩
    · cases hnext
  case h_8 => cases h; cases hun
  case h_9 hst =>
    rw [hst]
    rcases resume_some (Option.some.inj h) with ⟨hop, rfl, -⟩ | hnext
    · dsimp only
      rw [hop]
      exact ⟨rfl, rfl, Or.inl rfl⟩
    · cases hnext
      cases hun
  case h_10 hst =>
    rw [hst]
    rcases resume_some (Option.some.inj h) with ⟨hop, rfl, -⟩ | hnext
    · dsimp only
      rw [hop]
      exact ⟨rfl, rfl, Or.inl rfl⟩
    · cases hnext
      cases hun
  case h_11 hst =>
    cases next_of_resume (Option.some.inj h) (by unfold Task.raised; rw [hst])
    cases hun
  case h_12 result hst =>
    have hnext := next_of_resume (Option.some.inj h) (by unfold Task.raised; rw [hst])
    split at hnext
    · cases hnext
    · cases hnext
      cases hun
  case h_13 hst =>
    cases next_of_resume (Option.some.inj h) (by unfold Task.raised; rw [hst])
  case h_14 hst =>
    rw [hst]
    refine ⟨?_, rfl, Or.inr (Or.inr rfl)⟩
    cases hop : t.releaseFacilitatorFence task.facilitatorId i w with
    | none =>
        rw [hop] at h
        rw [(Prod.mk.inj (Option.some.inj h)).1]
    | some t₁ =>
        rw [hop] at h
        rw [← (Prod.mk.inj (Option.some.inj h)).1, releaseFacilitatorFence_some hop]
  case h_15 hst =>
    cases next_of_resume (Option.some.inj h) (by unfold Task.raised; rw [hst])
    cases hun
  case h_16 hst =>
    cases next_of_resume (Option.some.inj h) (by unfold Task.raised; rw [hst])
    cases hun
  case h_17 hst =>
    cases next_of_resume (Option.some.inj h) (by unfold Task.raised; rw [hst])

/-- How an `_execute` gets on the way to a write without the lease: it fails early, it finds no
    mandate, or it is on the way already.  The attempts stay as they are. -/
theorem stepTask_unleased {task' : Task}
    (h : stepTask cfg clock t w i task input = some (t', some task'))
    (hun : task'.stage.unleased = true) :
    t'.attempts = t.attempts ∧ claims cfg t w i task input = false ∧
      (failsEarly t cfg w i task input = true ∨ missesMandate task input = true ∨
        task.stage.unleased = true) := by
  cases input with
  | error =>
      obtain ⟨rfl, hr⟩ := Prod.mk.inj (Option.some.inj h)
      exact ⟨rfl, rfl, Or.inl (failsEarly_of_raised hr)⟩
  | writes effect =>
      unfold stepTask at h
      dsimp only at h
      split at h
      · rename_i hst
        cases h
        rw [hst] at hun
        cases hun
      · cases h
  | executed result =>
      unfold stepTask at h
      dsimp only at h
      split at h
      · cases h
        cases result <;> cases hun
      · cases h
  | mandate found =>
      unfold stepTask at h
      dsimp only at h
      split at h
      · rename_i hst
        cases h
        cases found with
        | true => cases hun
        | false =>
            refine ⟨rfl, rfl, Or.inr (Or.inl ?_)⟩
            unfold missesMandate
            rw [hst]
            rfl
      · cases h
  | run => exact run_unleased h hun

/-! ### Every state of a run -/

/-- A worker that is on the way to a write without the lease has not lost it. -/
def Unhurried (sys : System) : Prop :=
  ∀ w i task, sys.tasks w i = some task → task.stage.unleased = true → ¬ TakenOver sys w i

theorem held_of_quiet (h : stepSystem cfg sys e = some sys')
    (hquiet : ∀ w i input, e ≠ .step w i input) :
    sys'.held = sys.held := by
  cases e with
  | step w i input => exact absurd rfl (hquiet w i input)
  | tick d => cases h; rfl
  | crash w i => cases h; rfl
  | outside i effect => cases h; rfl
  | start w i f =>
      unfold stepSystem at h
      dsimp only at h
      split at h <;> cases h
      rfl
  | dropFence f i =>
      unfold stepSystem at h
      dsimp only at h
      split at h
      · cases h
        rfl
      · split at h <;> cases h <;> rfl

theorem stepSystem_unhurried (h : stepSystem cfg sys e = some sys') (hok : TimelyEvent cfg sys e)
    (hu : Unhurried sys) : Unhurried sys' := by
  by_cases hev : ∃ w i input, e = .step w i input
  · obtain ⟨w₂, i₂, input, rfl⟩ := hev
    obtain ⟨task₂, next, htask₂, hstep, htasks, hheld⟩ := stepSystem_step h
    intro w i task htask hun
    rw [htasks] at htask
    rcases setTask_some htask with ⟨rfl, rfl, rfl⟩ | ⟨hne, hold⟩
    · obtain ⟨hsame, hno, hwhy⟩ := stepTask_unleased hstep hun
      have hbefore : ¬ TakenOver sys w i := by
        rcases hwhy with hfails | hmisses | hwas
        · exact hok.fails task₂ htask₂ (Or.inl hfails)
        · exact hok.fails task₂ htask₂ (Or.inr hmisses)
        · exact hu w i task₂ htask₂ hwas
      unfold TakenOver
      rw [hheld, hno, hsame]
      exact hbefore
    · have hbefore := hu w i task hold hun
      rintro ⟨hmem, a, ha, w', hw', hother⟩
      have hmem' : (w, i) ∈ sys.held := by
        rw [hheld] at hmem
        split at hmem
        · exact (List.mem_cons.mp hmem).resolve_left fun hc => hne (by simpa using hc)
        · exact hmem
      by_cases hi : i = i₂
      · subst hi
        have hw : w ≠ w₂ := fun hc => hne ⟨hc, rfl⟩
        cases hclaims : claims cfg sys.tables w₂ i task₂ input with
        | true =>
            have hfree := hok.takes task₂ htask₂ hclaims (w, i) hmem' hw rfl task hold
            rw [hfree] at hun
            cases hun
        | false =>
            rcases attempts_of_not_claims hstep hclaims with hsame | ⟨b, hb, howner⟩
            · rw [hsame] at ha
              exact hbefore ⟨hmem', a, ha, w', hw', hother⟩
            · exact hbefore ⟨hmem', b, hb, w₂, howner, Ne.symm hw⟩
      · rw [(stepTask_step hstep).attempts.get_other hi] at ha
        exact hbefore ⟨hmem', a, ha, w', hw', hother⟩
  · have hquiet : ∀ w i input, e ≠ .step w i input := fun w i input hc => hev ⟨w, i, input, hc⟩
    obtain ⟨hmove, htasks⟩ := stepSystem_quiet h hquiet
    intro w i task htask hun
    rcases htasks w i task htask with hold | hnew
    · unfold TakenOver
      rw [held_of_quiet h hquiet, hmove.attempts]
      exact hu w i task hold hun
    · rw [hnew] at hun
      cases hun

theorem initial_unhurried (clock : UtcDateTime) (tables : Tables) :
    Unhurried (System.initial clock tables) := by
  intro w i task htask
  cases htask

/-- **When takeovers are in time, a worker whose attempt was taken over leaves the reservation and
    the settlement alone.** -/
theorem takeover_harmless_when_timely (cfg : LeaseConfig) (clock : UtcDateTime)
    (tables : Tables) : TakenOverIsHarmless cfg (TimelyEvent cfg) clock tables := by
  intro sys w i input sys' hrun hok hstep htaken
  have hstages := run_stagesOk hrun
  have hbacked : Backed sys :=
    hrun.invariant (initial_backed clock tables) fun _ _ _ ht _ hs => stepSystem_backed hs ht
  have hunhurried : Unhurried sys :=
    hrun.invariant (initial_unhurried clock tables) fun _ _ _ ht hok hs =>
      stepSystem_unhurried hs hok ht
  obtain ⟨task, next, htask, htstep, -, -⟩ := stepSystem_step hstep
  obtain ⟨a, ha, hother⟩ := htaken.2
  have hleased : task.stage.unleased = false := by
    cases hun : task.stage.unleased with
    | false => rfl
    | true => exact absurd htaken (hunhurried w i task htask hun)
  exact (stepTask_step htstep).leavesAlone (hstages _ _ _ htask) ⟨a, ha, hother⟩
    (hbacked.attempts i a ha) hleased

/-! ### A worker that is overtaken before it claims the fence -/

namespace TwoWorkers

/-- `a` claims the attempt and sleeps; `b` takes the attempt over and claims the fence.
    Then `a` goes on: the fence is refused, it cannot defer, and its handler is about to
    release the reservation. -/
def overtaken : List Event :=
  [.start "a" "first" "relay", .step "a" "first" (.mandate true), .step "a" "first" .run,
    .step "a" "first" .run, .tick 61000000] ++ toFence "b" "first" ++
    [.step "a" "first" .run, .step "a" "first" .run]

/-- The same takeover, but `a` has not gone on yet. -/
def sleeping : List Event :=
  [.start "a" "first" "relay", .step "a" "first" (.mandate true), .step "a" "first" .run,
    .step "a" "first" .run, .tick 61000000] ++ toFence "b" "first"

end TwoWorkers

open TwoWorkers

/-- The worker that was overtaken releases the reservation under the new owner. -/
theorem overtaken_worker_releases :
    ¬ TakenOverIsHarmless config (fun _ _ => True) 0 TwoWorkers.tables := by
  intro h
  have hexec : ((Trans.exec (stepSystem config) (fun _ _ => True)
      (System.initial 0 TwoWorkers.tables) overtaken).any fun sys =>
        TakenOver sys "a" "first" &&
          (stepSystem config sys (.step "a" "first" .run)).any fun sys' =>
            decide (sys'.tables.reservations.get "first"
              ≠ sys.tables.reservations.get "first")) = true := by
    decide
  obtain ⟨sys, hsys, hboth⟩ := (Option.any_eq_true _ _).mp hexec
  simp only [Bool.and_eq_true, decide_eq_true_eq] at hboth
  obtain ⟨htaken, hstep⟩ := hboth
  obtain ⟨sys', hsys', hchanged⟩ := (Option.any_eq_true _ _).mp hstep
  have hsame := h sys "a" "first" .run sys' (Trans.run_of_exec _ hsys) trivial hsys' htaken
  exact absurd hsame.1 (of_decide_eq_true hchanged)

/-- A refused fence changes nothing after the takeover. -/
theorem overtaken_worker_is_refused :
    ∃ sys sys' : System, TakenOver sys "a" "first" ∧
      stepSystem config sys (.step "a" "first" .run) = some sys' ∧
      LeavesAlone sys.tables sys'.tables "first" := by
  have hexec : ((Trans.exec (stepSystem config) (TimelyEvent config)
      (System.initial 0 TwoWorkers.tables)
      sleeping).any fun sys =>
        TakenOver sys "a" "first" && decide (TimelyEvent config sys (.step "a" "first" .run)) &&
          (stepSystem config sys (.step "a" "first" .run)).isSome) = true := by
    decide
  obtain ⟨sys, hsys, hall⟩ := (Option.any_eq_true _ _).mp hexec
  simp only [Bool.and_eq_true, decide_eq_true_eq] at hall
  obtain ⟨⟨htaken, hok⟩, hstep⟩ := hall
  obtain ⟨sys', hsys'⟩ := Option.isSome_iff_exists.mp hstep
  exact ⟨sys, sys', htaken, hsys', takeover_harmless_when_timely config 0 TwoWorkers.tables sys "a"
    "first" .run sys' (Trans.run_of_exec _ hsys) hok hsys' htaken⟩

end Arena402.Payments.Worker
