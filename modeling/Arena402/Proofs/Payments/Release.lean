/-
When a reservation is released although a settlement is under way.

All calls for an intent share one reservation, and `execute` releases it at five places.
Two of them follow `facilitator.settle`; the others follow a failure before it, and look
at nothing but the call's own progress.  So the reservation stays locked after `settle`
was invoked only when the calls do not get into each other's way:

  * no call fails early (its payload, its verification, its approval) while another one has
    gone to `settle`,
  * no call goes to `settle` while another one waits for its release, and
  * `settle` does not answer success without naming a transaction.

Under these conditions every release after an invocation of `settle` follows a definitive
failure of it, whatever the interleaving.
-/
import Arena402.Payments.Coordinator
import Arena402.Proofs.Payments.Repository

namespace Arena402.Payments

open Py

/-! ### What is to be shown -/

/-- The intent's reservation has been released. -/
def Repository.Released (s : Repository) (intent : String) : Prop :=
  ∃ r, s.reservationFor intent = some r ∧ r.status = .released

/-- The intent's reservation is still `reserved`. -/
def Repository.Reserved (s : Repository) (intent : String) : Prop :=
  ∃ r, s.reservationFor intent = some r ∧ r.status = .reserved

/-- Some call has invoked `facilitator.settle`. -/
def SettleInvoked (history : List SettleEvent) : Prop :=
  ∃ c, SettleEvent.invoked c ∈ history

/-- `facilitator.settle` has definitively reported failure. -/
def DefinitelyFailed (history : List SettleEvent) : Prop :=
  ∃ c a, SettleEvent.answered c a ∈ history ∧ DefinitiveFailure a

/-- Any number of calls for one settlement intent. -/
structure CallsFor (intent : String) where
  call : Nat → Call
  sameIntent : ∀ c, (call c).terms.settlementIntentId = intent

/-- In every run whose steps meet `ok`: once `settle` was invoked, a step that moves the
    reservation to `released` follows a definitive failure of `settle`. -/
def ReleasedOnlyAfterFailure (identifier : ReservationKey → String) {intent : String}
    (calls : CallsFor intent) (ok : System → Nat × Answer → Prop) (s : Repository) : Prop :=
  ∀ sys e sys', Trans.Run (stepSystem identifier calls.call) ok (System.initial s) sys →
    ok sys e → stepSystem identifier calls.call sys e = some sys' →
    SettleInvoked sys.history → ¬ sys.repository.Released intent →
    sys'.repository.Released intent → DefinitelyFailed sys.history

/-- The intent has a reservation, which is not `reserved` any more. -/
def Repository.Closed (s : Repository) (intent : String) : Prop :=
  s.reservationsByIntent.get intent ≠ none ∧ ¬ s.Reserved intent

/-- The stages of a call that failed before its own `settle` and waits for its release. -/
def Stage.undoes : Stage → Bool
  | .rejecting | .handling _ | .compensating _ => true
  | _ => false

/-- The call has failed and waits for its release. -/
def Phase.undoes : Phase → Bool
  | .suspended _ stage => stage.undoes
  | _ => false

/-- The call gets the reservation and fails before it invokes `settle`: its payload is not valid, it is
    not verified, or its approval is not recorded. -/
def failsEarly (identifier : ReservationKey → String) (s : Repository) (call : Call) :
    Phase → Answer → Bool
  | .start, .resume =>
    (s.reserveMandate identifier call.mandateId call.terms call.now).isOk &&
      !(validatePaymentPayload call.terms call.payload call.now).isOk
  | .suspended _ .verifying, .verify (.ok verified) => !verified
  | .suspended _ .verifying, .verify (.error (.facilitator _ ambiguous)) => !ambiguous
  | .suspended _ .verifying, .verify (.error _) => true
  | .suspended _ .approving, .approval (.error _) => true
  | _, _ => false

/-- The call goes on to `settle`: its approval is recorded. -/
def goesToSettle : Phase → Answer → Bool
  | .suspended _ .approving, .approval (.ok _) => true
  | _, _ => false

/-- The condition on one step under which the reservation stays locked: what fails and what goes to
    `settle` are kept apart, until `settle` has failed or the reservation is not `reserved` any more. -/
structure Careful (identifier : ReservationKey → String) (calls : Nat → Call) (intent : String)
    (sys : System) (e : Nat × Answer) : Prop where
  /-- No call fails early once a call has gone to `settle`. -/
  fails : failsEarly identifier sys.repository (calls e.1) (sys.phases e.1) e.2 = true →
    SettleInvoked sys.history → DefinitelyFailed sys.history ∨ sys.repository.Closed intent
  /-- No call goes to `settle` while another one waits for its release. -/
  settles : goesToSettle (sys.phases e.1) e.2 = true → ∀ c, (sys.phases c).undoes = true →
    DefinitelyFailed sys.history ∨ sys.repository.Closed intent
  /-- A success names its transaction. -/
  named : ∀ settled, e.2 = .settle (.ok settled) → settled.success = true →
    settled.transaction ≠ none

instance (s : Repository) (intent : String) : Decidable (s.Released intent) :=
  decidable_of_iff ((s.reservationFor intent).any (·.status = .released))
    (by simp [Repository.Released, Option.any_eq_true])

instance (s : Repository) (intent : String) : Decidable (s.Reserved intent) :=
  decidable_of_iff ((s.reservationFor intent).any (·.status = .reserved))
    (by simp [Repository.Reserved, Option.any_eq_true])

def SettleEvent.isInvoked : SettleEvent → Bool
  | .invoked _ => true
  | .answered .. => false

def SettleEvent.isFailure : SettleEvent → Bool
  | .invoked _ => false
  | .answered _ a => DefinitiveFailure a

theorem settleInvoked_iff (history : List SettleEvent) :
    SettleInvoked history ↔ history.any SettleEvent.isInvoked = true := by
  rw [List.any_eq_true]
  constructor
  · rintro ⟨c, hc⟩
    exact ⟨_, hc, rfl⟩
  · rintro ⟨e, hmem, he⟩
    cases e with
    | invoked c => exact ⟨c, hmem⟩
    | answered c a => cases he

theorem definitelyFailed_iff (history : List SettleEvent) :
    DefinitelyFailed history ↔ history.any SettleEvent.isFailure = true := by
  rw [List.any_eq_true]
  constructor
  · rintro ⟨c, a, hmem, hf⟩
    exact ⟨_, hmem, decide_eq_true hf⟩
  · rintro ⟨e, hmem, he⟩
    cases e with
    | invoked c => cases he
    | answered c a => exact ⟨c, a, hmem, of_decide_eq_true he⟩

instance (history : List SettleEvent) : Decidable (SettleInvoked history) :=
  decidable_of_iff _ (settleInvoked_iff history).symm

instance (history : List SettleEvent) : Decidable (DefinitelyFailed history) :=
  decidable_of_iff _ (definitelyFailed_iff history).symm

/-! ### Only a release releases -/

variable {identifier : ReservationKey → String} {s s' : Repository} {call : Call}
  {ph ph' : Phase} {answer : Answer} {intent : String}

/-- The repository after `begin` is the one after `reserve_mandate`. -/
theorem begin_repository (identifier : ReservationKey → String) (s : Repository) (call : Call) :
    (begin identifier s call).1 = s ∨
      ∃ r, s.reserveMandate identifier call.mandateId call.terms call.now
        = .ok ((begin identifier s call).1, r) := by
  unfold begin
  split
  · exact Or.inl rfl
  · rename_i s₁ r hok
    right
    refine ⟨r, ?_⟩
    rw [hok]
    split
    · rfl
    · rfl
    · rfl
    · split <;> rfl

/-- What one resumed call does to the repository: nothing, or the one operation that its
    phase names. -/
theorem stepCall_repository (h : stepCall identifier s call ph answer = some (s', ph')) :
    s' = s ∨
      (ph = .start ∧ ∃ r, s.reserveMandate identifier call.mandateId call.terms call.now
        = .ok (s', r)) ∨
      (∃ r settled tx r', ph = .suspended r (.submitting settled tx) ∧
        s.submitReservation r.reservationId tx = .ok (s', r')) ∨
      (∃ r stage reason r', ph = .suspended r stage ∧ stage.releaseReason = some reason ∧
        s.releaseReservation r.reservationId reason call.now = .ok (s', r') ∧
        ph' = afterRelease call r stage (.ok ())) := by
  unfold stepCall at h
  split at h
  case h_1 =>
    have hs : (begin identifier s call).1 = s' := by
      rw [Option.some.inj h]
    rcases begin_repository identifier s call with hb | ⟨r, hr⟩
    · exact Or.inl (hs.symm.trans hb)
    · rw [hs] at hr
      exact Or.inr (Or.inl ⟨rfl, r, hr⟩)
  case h_10 r settled tx =>
    split at h
    · cases h
      exact Or.inl rfl
    · rename_i s₁ r' hsub
      cases h
      exact Or.inr (Or.inr (Or.inl ⟨r, settled, tx, r', rfl, hsub⟩))
  case h_11 r stage _ =>
    obtain ⟨reason, hreason, hnext⟩ := Option.map_eq_some_iff.mp h
    split at hnext
    · cases hnext
      exact Or.inl rfl
    · rename_i s₁ r' hrel
      cases hnext
      exact Or.inr (Or.inr (Or.inr ⟨r, stage, reason, r', rfl, hreason, hrel, rfl⟩))
  all_goals
    cases h
    try exact Or.inl rfl

/-- A step that moves the reservation to `released` is the release a call waited for, and
    it found the reservation `reserved`. -/
theorem stepCall_releases (h : stepCall identifier s call ph answer = some (s', ph'))
    (hbefore : ¬ s.Released intent) (hafter : s'.Released intent) :
    s.Reserved intent ∧
      ∃ r stage, ph = .suspended r stage ∧ stage.releaseReason ≠ none := by
  obtain ⟨x, hx, hrel⟩ := hafter
  have hne : s.reservationFor intent ≠ some x := fun hc => hbefore ⟨x, hc, hrel⟩
  rcases stepCall_repository h with rfl | ⟨-, r, hres⟩ | ⟨r, settled, tx, r', -, hsub⟩ |
    ⟨r, stage, reason, r', hph, hreason, hop, -⟩
  · exact absurd hx hne
  · rcases Repository.reservationFor_reserve hres hx with hold | ⟨hst, -⟩
    · exact absurd hold hne
    · rw [hrel] at hst
      cases hst
  · rcases Repository.reservationFor_submit hsub hx with hold | ⟨hst, -⟩
    · exact absurd hold hne
    · rw [hrel] at hst
      cases hst
  · rcases Repository.reservationFor_release hop hx with hold | ⟨-, -, y, hy, hyres⟩
    · exact absurd hold hne
    · exact ⟨⟨y, hy, hyres⟩, r, stage, hph, by simp [hreason]⟩

/-! ### What follows `settle`, and what does not -/

/-- A reservation that is closed stays closed. -/
theorem closed_of_stepCall (h : stepCall identifier s call ph answer = some (s', ph'))
    (hintent : call.terms.settlementIntentId = intent) (hclosed : s.Closed intent) :
    s'.Closed intent := by
  obtain ⟨hkey, hopen⟩ := hclosed
  rcases stepCall_repository h with rfl | ⟨-, r, hres⟩ | ⟨r, settled, tx, r', -, hsub⟩ |
    ⟨r, stage, reason, r', -, -, hrel, -⟩
  · exact ⟨hkey, hopen⟩
  · rcases Repository.reserveMandate_ok hres with ⟨rfl, -, -⟩ | ⟨hnone, -⟩
    · exact ⟨hkey, hopen⟩
    · exact absurd (hintent ▸ hnone) hkey
  · refine ⟨by rw [Repository.reservationsByIntent_submit hsub]; exact hkey, ?_⟩
    rintro ⟨x, hx, hst⟩
    rcases Repository.reservationFor_submit hsub hx with hold | ⟨hst', -⟩
    · exact hopen ⟨x, hold, hst⟩
    · rw [hst] at hst'
      cases hst'
  · refine ⟨by rw [Repository.reservationsByIntent_release hrel]; exact hkey, ?_⟩
    rintro ⟨x, hx, hst⟩
    rcases Repository.reservationFor_release hrel hx with hold | ⟨hst', -⟩
    · exact hopen ⟨x, hold, hst⟩
    · rw [hst] at hst'
      cases hst'

/-- `settle` answered success without a transaction. -/
def Unnamed (answer : Answer) : Prop :=
  ∃ settled, answer = .settle (.ok settled) ∧ settled.success = true ∧ settled.transaction = none

/-- The answer is that of a `settle` that definitively failed. -/
def Refuses (ph : Phase) (answer : Answer) : Prop :=
  ∃ r a, ph = .suspended r .settling ∧ answer = .settle a ∧ DefinitiveFailure a

/-- Before `settle` the handlers return or release; after it they release only a refused payment. -/
theorem handle_undoes_late {r : PaymentReservation} {e : Exc}
    (h : (handle call r true e).undoes = true) : ∃ code, e = .facilitator code false := by
  cases e with
  | facilitator code ambiguous =>
      cases ambiguous with
      | true => cases h
      | false => exact ⟨code, rfl⟩
  | protocol code => cases h
  | payment e => cases h
  | other name => cases h

theorem handle_ne_refusing (call : Call) (r r' : PaymentReservation) (started : Bool) (e : Exc)
    (settled : FacilitatorSettlement) :
    handle call r started e ≠ .suspended r' (.refusing settled) := by
  intro h
  unfold handle at h
  split at h <;> split at h <;> cases h

theorem begin_undoes (h : (begin identifier s call).2.undoes = true) :
    failsEarly identifier s call .start .resume = true := by
  unfold begin at h
  split at h
  · cases h
  · rename_i s₁ r hok
    split at h
    · cases h
    · cases h
    · cases h
    · split at h
      · rename_i code hval
        unfold failsEarly
        rw [hok, hval]
        rfl
      · cases h

theorem begin_ne_refusing (identifier : ReservationKey → String) (s : Repository) (call : Call)
    (r : PaymentReservation) (settled : FacilitatorSettlement) :
    (begin identifier s call).2 ≠ .suspended r (.refusing settled) := by
  intro h
  unfold begin at h
  split at h
  · cases h
  · split at h
    · cases h
    · cases h
    · cases h
    · split at h
      · dsimp only at h
        exact handle_ne_refusing _ _ _ _ _ _ h
      · cases h

theorem verify_undoes {r : PaymentReservation} {e : Exc} (h : (handle call r false e).undoes = true) :
    failsEarly identifier s call (.suspended r .verifying) (.verify (.error e)) = true := by
  cases e with
  | facilitator code ambiguous =>
      cases ambiguous with
      | true => cases h
      | false => rfl
  | protocol code => rfl
  | payment e => rfl
  | other name => rfl

/-- A release that returned or raised leads to another one only before `settle`. -/
theorem afterRelease_undoes {r : PaymentReservation} {stage : Stage} {reason : String}
    {outcome : Except PaymentError Unit} (hreason : stage.releaseReason = some reason)
    (h : (afterRelease call r stage outcome).undoes = true) : stage.undoes = true := by
  cases stage with
  | rejecting => rfl
  | handling code => rfl
  | compensating e => rfl
  | refusing settled => cases outcome <;> cases h
  | verifying | approving | settling | recording _ _ | submitting _ _ => cases hreason

theorem afterRelease_ne_refusing (call : Call) (r r' : PaymentReservation) {stage : Stage}
    {reason : String} (outcome : Except PaymentError Unit) (settled : FacilitatorSettlement)
    (hreason : stage.releaseReason = some reason) :
    afterRelease call r stage outcome ≠ .suspended r' (.refusing settled) := by
  intro h
  cases stage with
  | rejecting | handling _ | compensating _ | refusing _ => cases outcome <;> cases h
  | verifying | approving | settling | recording _ _ | submitting _ _ => cases hreason

/-- How a call comes to wait for a release before its `settle`: it fails early, its release failed, or
    its `settle` did. -/
theorem stepCall_undoes (h : stepCall identifier s call ph answer = some (s', ph'))
    (hundoes : ph'.undoes = true) :
    failsEarly identifier s call ph answer = true ∨ ph.undoes = true ∨ Refuses ph answer := by
  unfold stepCall at h
  split at h
  case h_1 =>
    left
    refine begin_undoes ?_
    rw [Option.some.inj h]
    exact hundoes
  case h_2 => cases h; cases hundoes
  case h_3 => exact Or.inl rfl
  case h_4 e => cases h; exact Or.inl (verify_undoes hundoes)
  case h_5 => cases h; cases hundoes
  case h_6 => exact Or.inl rfl
  case h_7 r a =>
    cases h
    refine Or.inr (Or.inr ⟨r, a, rfl, rfl, ?_⟩)
    unfold afterSettle at hundoes
    split at hundoes
    · obtain ⟨code, rfl⟩ := handle_undoes_late hundoes
      rfl
    · split at hundoes <;> cases hundoes
  case h_8 => cases h; cases hundoes
  case h_9 =>
    cases h
    obtain ⟨code, hcode⟩ := handle_undoes_late hundoes
    cases hcode
  case h_10 =>
    split at h
    · cases h
      obtain ⟨code, hcode⟩ := handle_undoes_late hundoes
      cases hcode
    · cases h
      cases hundoes
  case h_11 r stage _ =>
    obtain ⟨reason, hreason, hnext⟩ := Option.map_eq_some_iff.mp h
    right
    left
    split at hnext
    · cases hnext
      exact afterRelease_undoes hreason hundoes
    · cases hnext
      exact afterRelease_undoes hreason hundoes
  case h_12 => cases h

/-- How a call comes to wait for the release of a refused settlement. -/
theorem stepCall_refusing {r : PaymentReservation} {settled : FacilitatorSettlement}
    (h : stepCall identifier s call ph answer = some (s', .suspended r (.refusing settled))) :
    Refuses ph answer ∨ Unnamed answer := by
  unfold stepCall at h
  split at h
  case h_1 =>
    refine absurd ?_ (begin_ne_refusing identifier s call r settled)
    rw [Option.some.inj h]
  case h_4 e => exact absurd (Prod.mk.inj (Option.some.inj h)).2 (handle_ne_refusing _ _ _ _ _ _)
  case h_6 e => exact absurd (Prod.mk.inj (Option.some.inj h)).2 (handle_ne_refusing _ _ _ _ _ _)
  case h_9 e => exact absurd (Prod.mk.inj (Option.some.inj h)).2 (handle_ne_refusing _ _ _ _ _ _)
  case h_7 r' a =>
    have hafter : afterSettle call r' a = .suspended r (.refusing settled) :=
      (Prod.mk.inj (Option.some.inj h)).2
    unfold afterSettle at hafter
    split at hafter
    · exact absurd hafter (handle_ne_refusing _ _ _ _ _ _)
    · rename_i settled'
      split at hafter
      · cases hafter
      · rename_i hno
        by_cases hs : settled'.success = true
        · refine Or.inr ⟨settled', rfl, hs, ?_⟩
          cases htx : settled'.transaction with
          | none => rfl
          | some tx => exact absurd htx (hno tx hs)
        · exact Or.inl ⟨r', _, rfl, rfl, by simpa [DefinitiveFailure] using hs⟩
  case h_10 =>
    split at h
    · exact absurd (Prod.mk.inj (Option.some.inj h)).2 (handle_ne_refusing _ _ _ _ _ _)
    · cases h
  case h_11 r' stage _ =>
    obtain ⟨reason, hreason, hnext⟩ := Option.map_eq_some_iff.mp h
    split at hnext
    · exact absurd (Prod.mk.inj hnext).2 (afterRelease_ne_refusing _ _ _ _ _ hreason)
    · exact absurd (Prod.mk.inj hnext).2 (afterRelease_ne_refusing _ _ _ _ _ hreason)
  all_goals cases h

/-! ### The system -/

variable {calls : CallsFor intent} {sys sys' : System} {e : Nat × Answer}

/-- A call that waits for its release is justified by a failure of `settle`, or nobody has gone to
    `settle` yet, or there is nothing left to release. -/
structure System.Justified (intent : String) (sys : System) : Prop where
  refusing : ∀ c r settled, sys.phases c = .suspended r (.refusing settled) →
    DefinitelyFailed sys.history
  undoing : ∀ c, (sys.phases c).undoes = true → SettleInvoked sys.history →
    DefinitelyFailed sys.history ∨ sys.repository.Closed intent

theorem stepSystem_some {calls : Nat → Call} (h : stepSystem identifier calls sys e = some sys') :
    ∃ next, stepCall identifier sys.repository (calls e.1) (sys.phases e.1) e.2 = some next ∧
      sys' =
        { repository := next.1
          phases := Function.update sys.phases e.1 next.2
          history := sys.history ++ settleEvents e.1 (sys.phases e.1) e.2 next.2 } := by
  obtain ⟨next, hnext, rfl⟩ := Option.map_eq_some_iff.mp h
  exact ⟨next, hnext, rfl⟩

theorem definitelyFailed_append {l l' : List SettleEvent} :
    DefinitelyFailed (l ++ l') ↔ DefinitelyFailed l ∨ DefinitelyFailed l' := by
  simp only [definitelyFailed_iff, List.any_append, Bool.or_eq_true]

theorem settleInvoked_append {l l' : List SettleEvent} :
    SettleInvoked (l ++ l') ↔ SettleInvoked l ∨ SettleInvoked l' := by
  simp only [settleInvoked_iff, List.any_append, Bool.or_eq_true]

/-- The answer of a `settle` that failed is in the history. -/
theorem definitelyFailed_of_refuses (c : Nat) (h : Refuses ph answer) :
    DefinitelyFailed (settleEvents c ph answer ph') := by
  obtain ⟨r, a, rfl, rfl, hf⟩ := h
  exact ⟨c, a, by simp [settleEvents], hf⟩

/-- `settle` is invoked by the call that goes to it. -/
theorem goesToSettle_of_invoked {c : Nat} (h : stepCall identifier s call ph answer = some (s', ph'))
    (hinvoked : SettleInvoked (settleEvents c ph answer ph')) :
    goesToSettle ph answer = true ∧ ph'.undoes = false := by
  obtain ⟨c', hmem⟩ := hinvoked
  unfold settleEvents at hmem
  split at hmem
  · simp at hmem
  · refine ⟨?_, rfl⟩
    cases answer with
    | approval outcome =>
        cases outcome with
        | ok _ => rfl
        | error e =>
            have hnext := (Prod.mk.inj (Option.some.inj h)).2
            cases hnext
    | resume => cases h
    | verify outcome => cases h
    | settle outcome => cases h
    | submission outcome => cases h
  · simp at hmem

theorem initial_justified (s : Repository) : (System.initial s).Justified intent where
  refusing := by
    intro c r settled h
    cases h
  undoing := by
    intro c h
    cases h

theorem stepSystem_justified (h : stepSystem identifier calls.call sys e = some sys')
    (hok : Careful identifier calls.call intent sys e) (hj : sys.Justified intent) :
    sys'.Justified intent := by
  obtain ⟨next, hnext, rfl⟩ := stepSystem_some h
  have hclosed : sys.repository.Closed intent → next.1.Closed intent :=
    closed_of_stepCall hnext (calls.sameIntent _)
  -- what justified a release before the step justifies it after the step
  have hkeeps : DefinitelyFailed sys.history ∨ sys.repository.Closed intent →
      DefinitelyFailed (sys.history ++ settleEvents e.1 (sys.phases e.1) e.2 next.2) ∨
        next.1.Closed intent := by
    rintro (hfailed | hdone)
    · exact Or.inl (definitelyFailed_append.mpr (Or.inl hfailed))
    · exact Or.inr (hclosed hdone)
  constructor
  · intro c r settled hph
    change Function.update sys.phases e.1 next.2 c = _ at hph
    refine definitelyFailed_append.mpr ?_
    by_cases hc : c = e.1
    · rw [hc, Function.update_self] at hph
      have hcall : stepCall identifier sys.repository (calls.call e.1) (sys.phases e.1) e.2 =
          some (next.1, .suspended r (.refusing settled)) := by
        rw [hnext, ← hph]
      rcases stepCall_refusing hcall with hrefuses | ⟨settled', hans, hs, hnone⟩
      · exact Or.inr (definitelyFailed_of_refuses _ hrefuses)
      · exact absurd hnone (hok.named settled' hans hs)
    · rw [Function.update_of_ne hc] at hph
      exact Or.inl (hj.refusing c r settled hph)
  · intro c hundoes hinvoked
    change (Function.update sys.phases e.1 next.2 c).undoes = true at hundoes
    by_cases hc : c = e.1
    · rw [hc, Function.update_self] at hundoes
      rcases settleInvoked_append.mp hinvoked with hbefore | hnew
      · rcases stepCall_undoes hnext hundoes with hfails | hwaited | hrefuses
        · exact hkeeps (hok.fails hfails hbefore)
        · exact hkeeps (hj.undoing _ hwaited hbefore)
        · exact Or.inl (definitelyFailed_append.mpr (Or.inr (definitelyFailed_of_refuses _ hrefuses)))
      · rw [(goesToSettle_of_invoked hnext hnew).2] at hundoes
        cases hundoes
    · rw [Function.update_of_ne hc] at hundoes
      rcases settleInvoked_append.mp hinvoked with hbefore | hnew
      · exact hkeeps (hj.undoing c hundoes hbefore)
      · exact hkeeps (hok.settles (goesToSettle_of_invoked hnext hnew).1 c hundoes)

/-- **A reservation is released under a settlement only after the settlement failed.** -/
theorem released_only_after_definitive_failure (identifier : ReservationKey → String)
    {intent : String} (calls : CallsFor intent) (s : Repository) :
    ReleasedOnlyAfterFailure identifier calls (Careful identifier calls.call intent) s := by
  intro sys e sys' hrun hok hstep hinvoked hbefore hafter
  have hj : sys.Justified intent :=
    hrun.invariant (initial_justified s) fun t e u ht hok hs => stepSystem_justified hs hok ht
  obtain ⟨next, hnext, rfl⟩ := stepSystem_some hstep
  obtain ⟨hres, r, stage, hph, hreason⟩ := stepCall_releases hnext hbefore hafter
  by_cases hundoes : stage.undoes = true
  · have hwaits : (sys.phases e.1).undoes = true := by
      rw [hph]
      exact hundoes
    rcases hj.undoing e.1 hwaits hinvoked with hfailed | hclosed
    · exact hfailed
    · exact absurd hres hclosed.2
  · cases stage with
    | refusing settled => exact hj.refusing e.1 r settled hph
    | rejecting | handling _ | compensating _ => exact absurd rfl hundoes
    | verifying | approving | settling | recording _ _ | submitting _ _ => exact absurd rfl hreason

/-! ### Two calls on one intent -/

/-- A call with an accepted payload and a fresh reservation goes on to `verify`. -/
theorem begin_of_valid (call : Call) {r : PaymentReservation} {nonce : String}
    (hres : s.reserveMandate identifier call.mandateId call.terms call.now = .ok (s', r))
    (hst : r.status = .reserved)
    (hval : validatePaymentPayload call.terms call.payload call.now = .ok nonce) :
    begin identifier s call = (s', .suspended r .verifying) := by
  unfold begin
  rw [hres]
  dsimp only
  rw [hst, hval]

namespace Example

def hash : String :=
  String.ofList (List.replicate 64 'a')

theorem five_pos : 0 < 5 := by decide

/-- A settlement of five atomic units. -/
def terms : SettlementTerms where
  settlementIntentId := "intent"
  intentHash := "sha256:" ++ hash
  gameId := "game"
  payer := "0x1111111111111111111111111111111111111111"
  payee := "0x2222222222222222222222222222222222222222"
  chainId := 1
  tokenAddress := "0x3333333333333333333333333333333333333333"
  tokenSymbol := "GOLD"
  tokenDecimals := 6
  tokenEip712Name := "Gold"
  tokenEip712Version := "1"
  amountAtomic := 5
  resourceUrl := "https://arena/execute"
  payerAddress := by decide +kernel
  payeeAddress := by decide +kernel
  tokenAddressValid := by decide +kernel
  partiesDiffer := by decide
  chainPositive := Nat.one_pos
  amountPositive := five_pos

/-- A payload that `validate_payment_payload` accepts at time zero. -/
def payload : List (Key × Value) :=
  [(.text "x402Version", .int 2),
    (.text "resource", requiredResource terms),
    (.text "accepted", requirement terms),
    (.text "payload", .obj [
      ("signature", .str ("0x" ++ String.ofList (List.replicate 130 'a'))),
      ("authorization", .obj [
        ("from", .str terms.payer),
        ("to", .str terms.payee),
        ("value", .str "5"),
        ("nonce", .str ("0x" ++ hash)),
        ("validAfter", .str "0"),
        ("validBefore", .str "300")])])]

theorem payload_accepted : ∃ nonce, validatePaymentPayload terms payload 0 = .ok nonce := by
  have h : (validatePaymentPayload terms payload 0).isOk = true := by decide +kernel
  cases hv : validatePaymentPayload terms payload 0 with
  | ok nonce => exact ⟨nonce, rfl⟩
  | error e =>
      rw [hv] at h
      cases h

def mandate : PaymentMandate where
  mandateId := "mandate"
  userId := "user"
  walletId := "wallet"
  gameId := "game"
  chainId := 1
  tokenAddress := terms.tokenAddress
  limits := ⟨10, 10⟩
  allowedPayees := [terms.payee]
  validFrom := 0
  expiresAt := 1000000000

/-- A repository with one unused mandate. -/
def repository : Repository where
  mandates := [("mandate", mandate)]

def plainIdentifier (key : ReservationKey) : String :=
  key.mandateId ++ "/" ++ key.settlementIntentId

/-- The reservation of the five units. -/
def reservation : PaymentReservation :=
  Repository.newReservation plainIdentifier "mandate" terms 0

/-- The repository once they are reserved. -/
def reserved : Repository where
  mandates := [("mandate", mandate.account 5 0)]
  reservations := [("mandate/intent", reservation)]
  reservationsByIntent := [("intent", "mandate/intent")]

theorem reserve_ok :
    repository.reserveMandate plainIdentifier "mandate" terms 0 = .ok (reserved, reservation) := by
  decide +kernel

/-- Call 0 pays; every other call sends an empty object. -/
def bothCalls : CallsFor "intent" :=
  ⟨fun c => ⟨terms, "mandate", if c = 0 then payload else [], 0⟩, fun _ => rfl⟩

/-- Call 0 waits for `facilitator.verify`, and nothing else has happened. -/
def verifying : System where
  repository := reserved
  phases := Function.update (fun _ => .start) 0 (.suspended reservation .verifying)
  history := []

theorem first_step :
    stepSystem plainIdentifier bothCalls.call (System.initial repository) (0, .resume)
      = some verifying := by
  obtain ⟨nonce, hval⟩ := payload_accepted
  have hbegin : stepCall plainIdentifier repository (bothCalls.call 0) .start .resume
      = some (reserved, .suspended reservation .verifying) :=
    congrArg some (begin_of_valid (bothCalls.call 0) reserve_ok rfl hval)
  unfold stepSystem
  simp only [System.initial, hbegin]
  rfl

/-- Call 1 fails validation, and call 0 invokes `settle`. -/
def pending : List (Nat × Answer) :=
  [(1, .resume), (0, .verify (.ok true)), (0, .approval (.ok ()))]

/-- The `settle` of call 0 reports failure, and then call 1 fails validation. -/
def refused : List (Nat × Answer) :=
  [(0, .verify (.ok true)), (0, .approval (.ok ())),
    (0, .settle (.ok ⟨false, none, "eip155:1", none, none⟩)), (1, .resume)]

/-- The condition of `Careful` for the steps of the first two calls. -/
def carefulTwo (sys : System) (e : Nat × Answer) : Bool :=
  let justified := decide (DefinitelyFailed sys.history) ||
    (sys.repository.reservationsByIntent.get "intent").isSome &&
      !decide (sys.repository.Reserved "intent")
  e.1 < 2 &&
    (!failsEarly plainIdentifier sys.repository (bothCalls.call e.1) (sys.phases e.1) e.2 ||
      !decide (SettleInvoked sys.history) || justified) &&
    (!goesToSettle (sys.phases e.1) e.2 || !(sys.phases 0).undoes && !(sys.phases 1).undoes ||
      justified) &&
    match e.2 with
    | .settle (.ok settled) => !settled.success || settled.transaction.isSome
    | _ => true

/-- Only the first two calls have started. -/
def TwoStarted (sys : System) : Prop :=
  ∀ c, 2 ≤ c → sys.phases c = .start

theorem twoStarted_step {sys sys' : System} {e : Nat × Answer} (h : TwoStarted sys) (he : e.1 < 2)
    (hstep : stepSystem plainIdentifier bothCalls.call sys e = some sys') : TwoStarted sys' := by
  obtain ⟨next, -, rfl⟩ := stepSystem_some hstep
  intro c hc
  show Function.update sys.phases e.1 next.2 c = .start
  rw [Function.update_of_ne (by omega)]
  exact h c hc

theorem careful_of_two {sys : System} {e : Nat × Answer} (htwo : TwoStarted sys)
    (h : carefulTwo sys e = true) :
    Careful plainIdentifier bothCalls.call "intent" sys e := by
  simp only [carefulTwo, Bool.and_eq_true, Bool.or_eq_true, Bool.not_eq_true', decide_eq_true_eq,
    decide_eq_false_iff_not] at h
  obtain ⟨⟨⟨-, hfails⟩, hsettles⟩, hnamed⟩ := h
  have hclosed : (sys.repository.reservationsByIntent.get "intent").isSome = true ∧
      ¬ sys.repository.Reserved "intent" → sys.repository.Closed "intent" := by
    rintro ⟨hkey, hopen⟩
    exact ⟨Option.isSome_iff_ne_none.mp hkey, hopen⟩
  refine ⟨?_, ?_, ?_⟩
  · intro hearly hinvoked
    rcases hfails with (hno | hno) | hfailed | hdone
    · rw [hearly] at hno
      cases hno
    · exact absurd hinvoked hno
    · exact Or.inl hfailed
    · exact Or.inr (hclosed hdone)
  · intro hgoes c hundoes
    rcases hsettles with (hno | ⟨hzero, hone⟩) | hfailed | hdone
    · rw [hgoes] at hno
      cases hno
    · obtain rfl | rfl | hlater : c = 0 ∨ c = 1 ∨ 2 ≤ c := by omega
      · rw [hundoes] at hzero
        cases hzero
      · rw [hundoes] at hone
        cases hone
      · rw [htwo c hlater] at hundoes
        cases hundoes
    · exact Or.inl hfailed
    · exact Or.inr (hclosed hdone)
  · intro settled he hs
    rw [he] at hnamed
    dsimp only at hnamed
    rw [hs, Bool.not_true, Bool.false_or] at hnamed
    exact Option.isSome_iff_ne_none.mp hnamed

end Example

open Example

/-- The rejected payload of call 1 releases the reservation while the `settle` of call 0 is
    unanswered. -/
theorem released_under_pending_settlement :
    ¬ ReleasedOnlyAfterFailure plainIdentifier bothCalls (fun _ _ => True) repository := by
  intro h
  have hrun : ((Trans.exec (stepSystem plainIdentifier bothCalls.call) (fun _ _ => True)
      verifying pending).any fun sys =>
        SettleInvoked sys.history && !sys.repository.Released "intent" &&
          !DefinitelyFailed sys.history &&
          (stepSystem plainIdentifier bothCalls.call sys (1, .resume)).any
            (·.repository.Released "intent")) = true := by
    decide +kernel
  obtain ⟨sys, hexec, hsys⟩ := (Option.any_eq_true _ _).mp hrun
  simp only [Bool.and_eq_true, Bool.not_eq_true', decide_eq_true_eq, decide_eq_false_iff_not]
    at hsys
  obtain ⟨⟨⟨hinvoked, hbefore⟩, hnot⟩, hstep⟩ := hsys
  obtain ⟨sys', hstep', hafter⟩ := (Option.any_eq_true _ _).mp hstep
  have hreach := (Trans.Run.refl.tail trivial first_step).trans (Trans.run_of_exec _ hexec)
  exact hnot (h sys _ sys' hreach trivial hstep' hinvoked hbefore (of_decide_eq_true hafter))

/-- The release of call 0 after its `settle` failed, with a rejected call 1 behind it. -/
theorem released_after_refused_settlement :
    ∃ sys sys', stepSystem plainIdentifier bothCalls.call sys (0, .resume) = some sys' ∧
      SettleInvoked sys.history ∧ (sys.phases 1).undoes = true ∧
      sys'.repository.Released "intent" ∧ DefinitelyFailed sys.history := by
  have hrun : ((Trans.exec (stepSystem plainIdentifier bothCalls.call)
      (fun sys e => carefulTwo sys e = true) verifying refused).any fun sys =>
        SettleInvoked sys.history && (sys.phases 1).undoes &&
          !sys.repository.Released "intent" && carefulTwo sys (0, .resume) &&
          (stepSystem plainIdentifier bothCalls.call sys (0, .resume)).any
            (·.repository.Released "intent")) = true := by
    decide +kernel
  obtain ⟨sys, hexec, hsys⟩ := (Option.any_eq_true _ _).mp hrun
  simp only [Bool.and_eq_true, Bool.not_eq_true', decide_eq_true_eq, decide_eq_false_iff_not]
    at hsys
  obtain ⟨⟨⟨⟨hinvoked, hwaits⟩, hbefore⟩, hok⟩, hstep⟩ := hsys
  obtain ⟨sys', hstep', hafter⟩ := (Option.any_eq_true _ _).mp hstep
  have hfirst : carefulTwo (System.initial repository) (0, .resume) = true := by decide +kernel
  have hstart : TwoStarted (System.initial repository) := fun _ _ => rfl
  have hkeep : ∀ t e u, TwoStarted t → carefulTwo t e = true →
      stepSystem plainIdentifier bothCalls.call t e = some u → TwoStarted u := by
    intro t e u ht hcareful hstep
    refine twoStarted_step ht ?_ hstep
    simp only [carefulTwo, Bool.and_eq_true, decide_eq_true_eq] at hcareful
    exact hcareful.1.1.1
  have hone : Trans.Run (stepSystem plainIdentifier bothCalls.call)
      (fun sys e => carefulTwo sys e = true) (System.initial repository) verifying :=
    Trans.Run.tail Trans.Run.refl hfirst first_step
  have htwo := hone.trans (Trans.run_of_exec _ hexec)
  have hreach := htwo.mono_of_invariant hstart hkeep fun _ _ ht hc => careful_of_two ht hc
  have hcareful := careful_of_two (htwo.invariant hstart hkeep) hok
  have hreleased := of_decide_eq_true hafter
  exact ⟨sys, sys', hstep', hinvoked, hwaits, hreleased,
    released_only_after_definitive_failure plainIdentifier bothCalls repository sys _ sys' hreach
      hcareful hstep' hinvoked hbefore hreleased⟩

end Arena402.Payments
