/-
At most one unresolved broadcast per facilitator.

The fence is claimed only while no attempt of the facilitator is unresolved, and an expired
fence can be claimed again.  Marking an attempt `submitting` asks only for the lease of the
attempt, not for the fence.  So the exclusion holds as long as every such mark happens
while the facilitator's fence still names the intent; a worker that sleeps past its fence
and then marks breaks it.
-/
import Arena402.Proofs.Payments.Worker

namespace Arena402.Payments.Worker

open Py

variable {cfg : LeaseConfig} {clock : UtcDateTime} {t t' : Tables} {w i f : String}
  {task : Task} {input : Input} {next : Option Task} {sys sys' : System} {e : Event}

/-- At most one attempt of each facilitator is `submitting` or `unknown` without a recorded
    submission. -/
def AtMostOneBroadcast (t : Tables) : Prop :=
  ∀ f, ∀ x ∈ t.attempts, ∀ y ∈ t.attempts, t.unresolved f x = true → t.unresolved f y = true →
    x.1 = y.1

/-- A mark `submitting` that takes effect happens while the fence names the intent. -/
def FenceHeld (sys : System) : Event → Prop
  | .step w i .run => ∀ task ∈ sys.tasks w i, task.stage = .markSubmitting →
      (sys.tables.markAttempt i .submitting w).isSome = true →
      ∃ fence ∈ sys.tables.fences.get task.facilitatorId, fence.settlementIntentId = i
  | _ => True

instance (sys : System) (e : Event) : Decidable (FenceHeld sys e) := by
  unfold FenceHeld
  split <;> infer_instance

/-! ### The invariant -/

/-- The unresolved attempt of a facilitator is the only one, and a fence that is there
    names it. -/
structure Exclusive (t : Tables) : Prop where
  one : AtMostOneBroadcast t
  fenced : ∀ f, ∀ x ∈ t.attempts, t.unresolved f x = true →
    ∀ fence, t.fences.get f = some fence → fence.settlementIntentId = x.1

/-- Fewer unresolved attempts and fewer fences keep the exclusion. -/
theorem Exclusive.mono (h : Exclusive t)
    (hatt : ∀ f, ∀ x ∈ t'.attempts, t'.unresolved f x = true →
      ∃ y ∈ t.attempts, y.1 = x.1 ∧ t.unresolved f y = true)
    (hfence : ∀ f fence, t'.fences.get f = some fence → t.fences.get f = some fence) :
    Exclusive t' := by
  refine ⟨?_, ?_⟩
  · intro f x hx y hy hux huy
    obtain ⟨x₀, hx₀, hxk, hux₀⟩ := hatt f x hx hux
    obtain ⟨y₀, hy₀, hyk, huy₀⟩ := hatt f y hy huy
    rw [← hxk, ← hyk]
    exact h.one f x₀ hx₀ y₀ hy₀ hux₀ huy₀
  · intro f x hx hux fence hf
    obtain ⟨x₀, hx₀, hxk, hux₀⟩ := hatt f x hx hux
    rw [← hxk]
    exact h.fenced f x₀ hx₀ hux₀ fence (hfence f fence hf)

/-- The attempts and the submissions decide what is unresolved. -/
theorem unresolved_congr {x : String × Attempt} (hsub : t'.submissions = t.submissions) :
    t'.unresolved f x = t.unresolved f x := by
  unfold Tables.unresolved
  rw [hsub]

theorem unresolved_iff {x : String × Attempt} : t.unresolved f x = true ↔
    x.2.facilitatorId = some f ∧ (x.2.status = .submitting ∨ x.2.status = .unknown) ∧
      x.1 ∉ t.submissions := by
  simp [Tables.unresolved, and_assoc]

/-- A write of an attempt that is not unresolved afterwards. -/
theorem Exclusive.write (h : Exclusive t) {a' : Attempt} (hatt : t'.attempts = t.attempts.set i a')
    (hfences : t'.fences = t.fences) (hsub : t'.submissions = t.submissions)
    (hnot : ∀ f, t.unresolved f (i, a') = true →
      ∃ y ∈ t.attempts, y.1 = i ∧ t.unresolved f y = true) : Exclusive t' := by
  refine h.mono ?_ ?_
  · intro g x hx hux
    rw [unresolved_congr hsub] at hux
    rw [hatt] at hx
    rcases Dict.mem_set hx with rfl | hold
    · exact hnot g hux
    · exact ⟨x, hold, rfl, hux⟩
  · intro g fence hg
    rw [← hfences]
    exact hg

/-- A row that is not unresolved. -/
theorem not_unresolved {a : Attempt} (hst : a.status ≠ .submitting ∧ a.status ≠ .unknown)
    {P : Prop} (h : t.unresolved f (i, a) = true) : P := by
  obtain ⟨-, hs, -⟩ := unresolved_iff.mp h
  rcases hs with hs | hs
  · exact absurd hs hst.1
  · exact absurd hs hst.2

theorem Exclusive.same_attempts (h : Exclusive t) (hatt : t'.attempts = t.attempts)
    (hsub : ∀ x ∈ t.submissions, x ∈ t'.submissions)
    (hfence : ∀ f fence, t'.fences.get f = some fence → t.fences.get f = some fence) :
    Exclusive t' := by
  refine h.mono ?_ hfence
  intro g x hx hux
  obtain ⟨h1, h2, h3⟩ := unresolved_iff.mp hux
  rw [hatt] at hx
  exact ⟨x, hx, rfl, unresolved_iff.mpr ⟨h1, h2, fun hc => h3 (hsub _ hc)⟩⟩

theorem Exclusive.effect (h : Exclusive t) (i : String) (effect : Effect) :
    Exclusive (t.effect i effect) := by
  cases effect with
  | reservation row => exact h.same_attempts rfl (fun _ => id) (fun _ _ => id)
  | intent status => exact h.same_attempts rfl (fun _ => id) (fun _ _ => id)
  | submission =>
      exact h.same_attempts rfl (fun _ hmem => List.mem_cons_of_mem _ hmem) (fun _ _ => id)

theorem Exclusive.dropFence (h : Exclusive t) (f : String) :
    Exclusive { t with fences := t.fences.erase f } :=
  h.same_attempts rfl (fun _ => id) fun _ _ => Dict.get_of_get_erase

theorem Exclusive.releaseFence (h : Exclusive t)
    (hop : t.releaseFacilitatorFence f i w = some t') : Exclusive t' := by
  rw [releaseFacilitatorFence_some hop]
  exact h.dropFence f

theorem Exclusive.failSettlement (h : Exclusive t) (hop : t.failSettlement i = some t') :
    Exclusive t' := by
  rcases failSettlement_some hop with rfl | ⟨-, rfl⟩
  · exact h
  · exact h.same_attempts rfl (fun _ => id) (fun _ _ => id)

/-! ### The two steps that matter -/

/-- Claiming the fence: nothing of the facilitator is unresolved then. -/
theorem Exclusive.claimFence (h : Exclusive t) {now : UtcDateTime} {b : Bool}
    (hop : t.claimFacilitatorFence cfg f i w now = some (t', b)) : Exclusive t' := by
  rcases claimFacilitatorFence_some hop with rfl | ⟨hnone, rfl⟩
  · exact h
  refine ⟨?_, ?_⟩
  · exact h.one
  · intro g x hx hux fence hfence
    change (t.fences.set f ⟨i, w, cfg.expiry now⟩).get g = some fence at hfence
    rw [Dict.get_set] at hfence
    by_cases hgf : g = f
    · subst hgf
      exact absurd (show t.unresolved g x = true from hux) (by simp [hnone x hx])
    · rw [if_neg hgf] at hfence
      exact h.fenced g x hx hux fence hfence

/-- Marking `submitting` while the fence names the intent. -/
theorem Exclusive.markSubmitting (h : Exclusive t) (hclaim : Claimed t w i f)
    (hop : t.markAttempt i .submitting w = some t') {fence : Fence}
    (hfence : t.fences.get f = some fence) (hnames : fence.settlementIntentId = i) :
    Exclusive t' := by
  obtain ⟨a, ha, hfac, -⟩ := hclaim
  obtain ⟨b, hb, -, rfl⟩ := markAttempt_some hop
  obtain rfl : a = b := Option.some.inj (ha.symm.trans hb)
  -- whatever is unresolved for a facilitator afterwards was so before, or is this attempt
  have hcases : ∀ g x, x ∈ t.attempts.set i (markedRow a .submitting) →
      t.unresolved g x = true → (x ∈ t.attempts ∨ (x.1 = i ∧ g = f)) := by
    intro g x hx hux
    rcases Dict.mem_set hx with rfl | hold
    · right
      obtain ⟨hg, -, -⟩ := unresolved_iff.mp hux
      exact ⟨rfl, Option.some.inj (hg.symm.trans hfac)⟩
    · exact Or.inl hold
  -- what is unresolved for `f` already is this attempt too, since the fence names it
  have hold : ∀ x ∈ t.attempts, t.unresolved f x = true → x.1 = i := by
    intro x hx hux
    rw [← h.fenced f x hx hux fence hfence]
    exact hnames
  have hkey : ∀ x, x ∈ t.attempts.set i (markedRow a .submitting) →
      t.unresolved f x = true → x.1 = i := by
    intro x hx hux
    rcases hcases f x hx hux with hmem | ⟨hi, -⟩
    · exact hold x hmem hux
    · exact hi
  refine ⟨?_, ?_⟩
  · intro g x hx y hy hux huy
    change t.unresolved g x = true at hux
    change t.unresolved g y = true at huy
    by_cases hg : g = f
    · subst hg
      rw [hkey x hx hux, hkey y hy huy]
    · rcases hcases g x hx hux with hx' | ⟨-, hc⟩
      · rcases hcases g y hy huy with hy' | ⟨-, hc⟩
        · exact h.one g x hx' y hy' hux huy
        · exact absurd hc hg
      · exact absurd hc hg
  · intro g x hx hux fence' hfence'
    change t.unresolved g x = true at hux
    change t.fences.get g = some fence' at hfence'
    by_cases hg : g = f
    · subst hg
      obtain rfl : fence = fence' := Option.some.inj (hfence.symm.trans hfence')
      rw [hkey x hx hux, hnames]
    · rcases hcases g x hx hux with hx' | ⟨-, hc⟩
      · exact h.fenced g x hx' hux fence' hfence'
      · exact absurd hc hg

/-- The result of a submission that the worker had marked. -/
theorem Exclusive.markResult (h : Exclusive t) (hsub : Submitting t w i f)
    {status : AttemptStatus} (hop : t.markAttempt i status w = some t') : Exclusive t' := by
  obtain ⟨a, ha, hfac, -, hst⟩ := hsub
  obtain ⟨b, hb, -, rfl⟩ := markAttempt_some hop
  obtain rfl : a = b := Option.some.inj (ha.symm.trans hb)
  refine h.write rfl rfl rfl ?_
  intro g hg
  obtain ⟨h1, -, h3⟩ := unresolved_iff.mp hg
  exact ⟨(i, a), Dict.mem_of_get ha, rfl, unresolved_iff.mpr ⟨h1, Or.inl hst, h3⟩⟩

/-! ### Every step -/

theorem TaskStep.exclusive (h : TaskStep cfg clock t w i task t' next)
    (hok : StageOk t w i task.facilitatorId task.stage) (hx : Exclusive t)
    (hheld : task.stage = .markSubmitting →
      (t.markAttempt i .submitting w).isSome = true →
      ∃ fence, t.fences.get task.facilitatorId = some fence ∧ fence.settlementIntentId = i) :
    Exclusive t' := by
  cases h with
  | raises => exact hx
  | mandate hst found => exact hx
  | sign hst => exact hx
  | executed hst result => exact hx
  | writes hst effect => exact hx.effect i effect
  | reserve hst =>
      unfold Tables.reserveMandate
      split
      · exact hx
      · exact hx.same_attempts rfl (fun _ => id) (fun _ _ => id)
  | claim hst =>
      rcases claimAttempt_spec t cfg i task.facilitatorId w task.now with
        hno | ⟨a', hyes, -, -, -, hst'⟩
      · rw [hno]
        exact hx
      · rw [hyes]
        refine hx.write rfl rfl rfl fun g hg => not_unresolved ?_ hg
        rcases hst' with hs | hs <;> simp [hs]
  | fence hst hop => exact hx.claimFence hop
  | defer hst hop =>
      obtain ⟨a, ha, hown, rfl⟩ := deferAttempt_some hop
      refine hx.write rfl rfl rfl fun g hg => ?_
      exact ⟨(i, a), Dict.mem_of_get ha, rfl, hg⟩
  | markSigned hst hop =>
      obtain ⟨a, -, -, rfl⟩ := markAttempt_some hop
      exact hx.write rfl rfl rfl fun g hg => not_unresolved (by simp [markedRow]) hg
  | markSubmitting hst hop =>
      rw [hst] at hok
      obtain ⟨fence, hfence, hnames⟩ := hheld hst (by rw [hop]; rfl)
      exact hx.markSubmitting hok hop hfence hnames
  | markResult hst hop =>
      rw [hst] at hok
      exact hx.markResult hok hop
  | undoAttempt hst hop =>
      obtain ⟨a, -, -, rfl⟩ := markAttempt_some hop
      exact hx.write rfl rfl rfl fun g hg => not_unresolved (by simp [markedRow]) hg
  | releaseFence _ hop | undoFence _ hop => exact hx.releaseFence hop
  | undoReservation hst hop =>
      rcases releaseReservation_some hop with rfl | ⟨-, rfl⟩
      · exact hx
      · exact hx.same_attempts rfl (fun _ => id) (fun _ _ => id)
  | mandateMissing _ hop | fail _ hop | undoSettlement _ hop => exact hx.failSettlement hop

theorem QuietMove.exclusive (h : QuietMove t t') (hx : Exclusive t) : Exclusive t' := by
  cases h with
  | same h =>
      rw [h]
      exact hx
  | effect i effect h =>
      rw [h]
      exact hx.effect i effect
  | dropFence f h =>
      rw [h]
      exact hx.dropFence f

theorem stepSystem_exclusive (h : stepSystem cfg sys e = some sys') (hstages : sys.StagesOk)
    (hx : Exclusive sys.tables) (hheld : FenceHeld sys e) : Exclusive sys'.tables := by
  by_cases hev : ∃ w i input, e = .step w i input
  · obtain ⟨w, i, input, rfl⟩ := hev
    obtain ⟨task, next, htask, hstep, -, -⟩ := stepSystem_step h
    have hts := stepTask_step hstep
    rcases stepTask_input hstep with rfl | hsame | hexec
    · exact hts.exclusive (hstages _ _ _ htask) hx
        fun hst hsome => hheld task htask hst hsome
    · rw [hsame]
      exact hx
    · refine hts.exclusive (hstages _ _ _ htask) hx fun hst _ => ?_
      rw [hexec] at hst
      cases hst
  · exact (stepSystem_quiet h fun w i input hc => hev ⟨w, i, input, hc⟩).1.exclusive hx

theorem initial_exclusive (clock : UtcDateTime) (tables : Tables) :
    Exclusive (System.initial clock tables).tables := by
  refine ⟨?_, ?_⟩
  · intro f x hx
    cases hx
  · intro f x hx
    cases hx

/-- **While every mark `submitting` is made under the fence, no facilitator has two
    unresolved broadcasts.** -/
theorem one_broadcast_per_facilitator {cfg : LeaseConfig} {clock : UtcDateTime}
    {tables : Tables} {sys : System}
    (hrun : Trans.Run (stepSystem cfg) FenceHeld (System.initial clock tables) sys) :
    AtMostOneBroadcast sys.tables := by
  have hboth : sys.StagesOk ∧ Exclusive sys.tables := by
    refine hrun.invariant (I := fun s => s.StagesOk ∧ Exclusive s.tables)
      ⟨initial_stagesOk clock tables, initial_exclusive clock tables⟩ ?_
    intro s e s' ⟨hstages, hx⟩ hheld hstep
    exact ⟨stepSystem_stagesOk hstep hstages, stepSystem_exclusive hstep hstages hx hheld⟩
  exact hboth.2.one

/-! ### A worker that sleeps past its fence -/

namespace TwoWorkers

def config : LeaseConfig where
  leaseSeconds := 60
  inRange := by decide
  retryDelay := fun _ => 500

/-- Two intents that await authorization. -/
def tables : Tables where
  intents := [("first", .authorizationRequested), ("second", .authorizationRequested)]

/-- An `_execute` from its start to the claimed fence. -/
def toFence (worker intent : String) : List Event :=
  [.start worker intent "relay", .step worker intent (.mandate true), .step worker intent .run,
    .step worker intent .run, .step worker intent .run]

/-- From the signature to the mark `submitting`. -/
def toSubmitting (worker intent : String) : List Event :=
  [.step worker intent .run, .step worker intent .run, .step worker intent .run]

/-- `a` holds the fence for the first intent and sleeps until its lease is over; `b` then
    takes the fence for the second intent and broadcasts, and so does `a`. -/
def oversleep : List Event :=
  toFence "a" "first" ++ [.tick 61000000] ++ toFence "b" "second" ++ toSubmitting "b" "second" ++
    toSubmitting "a" "first"

end TwoWorkers

open TwoWorkers

/-- Two attempts of one facilitator are being broadcast. -/
theorem two_broadcasts :
    ¬ ∀ sys, Trans.Run (stepSystem config) (fun _ _ => True) (System.initial 0 TwoWorkers.tables) sys →
      AtMostOneBroadcast sys.tables := by
  intro h
  have hexec : ((Trans.exec (stepSystem config) (fun _ _ => True)
      (System.initial 0 TwoWorkers.tables) oversleep).any fun sys =>
        sys.tables.attempts.all (sys.tables.unresolved "relay") &&
          decide (sys.tables.attempts.map (·.1) = ["first", "second"])) = true := by
    decide
  obtain ⟨sys, hsys, hboth⟩ := (Option.any_eq_true _ _).mp hexec
  simp only [Bool.and_eq_true, List.all_eq_true, decide_eq_true_eq] at hboth
  obtain ⟨hall, hkeys⟩ := hboth
  have hmem : ∀ k ∈ ["first", "second"], ∃ x ∈ sys.tables.attempts, x.1 = k := by
    intro k hk
    rw [← hkeys] at hk
    exact List.mem_map.mp hk
  obtain ⟨x, hx, hxk⟩ := hmem "first" (by simp)
  obtain ⟨y, hy, hyk⟩ := hmem "second" (by simp)
  have hsame := h sys (Trans.run_of_exec _ hsys) "relay" x hx y hy (hall x hx) (hall y hy)
  rw [hxk, hyk] at hsame
  exact absurd hsame (by decide)

/-- `a` broadcasts under the fence; `b`, which has claimed the other attempt, is refused the fence and
    puts its attempt off. -/
theorem one_broadcast :
    ∃ sys : System, AtMostOneBroadcast sys.tables ∧
      sys.tables.attempts.any (sys.tables.unresolved "relay") = true ∧
      (sys.tables.attempts.get "second").any
        (fun a => a.status = .reserved && a.leaseOwner = some "b" &&
          a.leaseExpiresAt = some 500000) = true ∧
      sys.tasks "b" "second" = none := by
  have hexec : ((Trans.exec (stepSystem config) FenceHeld (System.initial 0 TwoWorkers.tables)
      (toFence "a" "first" ++ toFence "b" "second" ++ [.step "b" "second" .run] ++
        toSubmitting "a" "first")).any fun sys =>
        sys.tables.attempts.any (sys.tables.unresolved "relay") &&
          (sys.tables.attempts.get "second").any
            (fun a => a.status = .reserved && a.leaseOwner = some "b" &&
              a.leaseExpiresAt = some 500000) &&
          (sys.tasks "b" "second").isNone) = true := by
    decide
  obtain ⟨sys, hsys, hall⟩ := (Option.any_eq_true _ _).mp hexec
  rw [Bool.and_eq_true, Bool.and_eq_true, Option.isNone_iff_eq_none] at hall
  obtain ⟨⟨hany, hsecond⟩, hnone⟩ := hall
  exact ⟨sys, one_broadcast_per_facilitator (Trans.run_of_exec _ hsys), hany, hsecond, hnone⟩

end Arena402.Payments.Worker
