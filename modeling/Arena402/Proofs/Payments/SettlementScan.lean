/-
What a settlement that raises takes from the others of a scan.

A loop, the recovery or the queue of a facilitator, stops at the first settlement that raises, and a
recovery that raises ends the scan; only the preparations are gathered with their exceptions.  Queues
touch one another only where `reserve_mandate` adds up the reservations of a buyer or of a mandate,
and a settlement that raises can leave one behind or take one back.

The scan with `x` and the scan without it are followed side by side (`Sim`): their queues go on in
step, each without `x`, as long as each step of the first one is harmless.  At the first step that is
not, one of the scans gives a settlement something that the other one never gives it, so the
condition is exact (`scan_isolates_iff`).
-/
import Arena402.Lib.Rows
import Arena402.Payments.SettlementScan

namespace Arena402.Payments.Scan

open Py Async

variable {σ φ Requirement Mandate Payload : Type}
  {ports : Ports σ φ Requirement Mandate Payload} {t t' : Tables σ φ} {x y g : String}

/-! ### Tables that agree about the others -/

/-- The other settlements of a list. -/
def others (x : String) (l : List String) : List String :=
  l.filter fun y => y ≠ x

/-- The reservation of a settlement, as an item of the table. -/
def rowOf (x : String) (reservations : Dict String Reservation) : Dict String Reservation :=
  reservations.filter fun e => e.1 = x

/-- Two tables that agree about every settlement but one. -/
structure AgreeOff (x : String) (t t' : Tables σ φ) : Prop where
  own : ∀ y, y ≠ x → t.own y = t'.own y
  reservations : t.reservations.erase x = t'.reservations.erase x

theorem AgreeOff.refl (x : String) (t : Tables σ φ) : AgreeOff x t t :=
  ⟨fun _ _ => rfl, rfl⟩

theorem AgreeOff.get (h : AgreeOff x t t') (hy : y ≠ x) :
    t.reservations.get y = t'.reservations.get y := by
  have hget := congrArg (fun d => Dict.get d y) h.reservations
  simpa only [Dict.get_erase, if_neg hy] using hget

/-- Setting a settlement's reservation, seen from the others. -/
theorem erase_set (d : Dict String Reservation) (r : Reservation) :
    (d.set y r).erase x = if y ≠ x then (d.erase x).set y r else d.erase x := by
  simpa [Dict.erase] using Dict.filter_key_set (fun key => decide (key ≠ x)) d y r

theorem rowOf_set_ne (d : Dict String Reservation) (r : Reservation) (hy : y ≠ x) :
    rowOf x (d.set y r) = rowOf x d := by
  simpa [rowOf, hy] using Dict.filter_key_set (fun key => decide (key = x)) d y r

/-- Updating a settlement's reservation, seen from the others. -/
theorem erase_update (d : Dict String Reservation) (f : Reservation → Reservation) :
    (d.update (fun key _ => key = y) f).erase x =
      if y ≠ x then (d.erase x).update (fun key _ => key = y) f else d.erase x := by
  simpa [Dict.erase] using Dict.filter_key_update (fun key => decide (key ≠ x)) d y f

theorem rowOf_update_ne (d : Dict String Reservation) (f : Reservation → Reservation) (hy : y ≠ x) :
    rowOf x (d.update (fun key _ => key = y) f) = rowOf x d := by
  simpa [rowOf, hy] using Dict.filter_key_update (fun key => decide (key = x)) d y f

@[simp] theorem write_own (t : Tables σ φ) (y g : String) (rows : Rows σ φ) :
    (t.write y g rows).own = Function.update t.own y rows.own := rfl

@[simp] theorem write_facilitators (t : Tables σ φ) (y g : String) (rows : Rows σ φ) :
    (t.write y g rows).facilitators = Function.update t.facilitators g rows.facilitator := rfl

@[simp] theorem write_reservations (t : Tables σ φ) (y g : String) (rows : Rows σ φ) :
    (t.write y g rows).reservations = t.reservations.update (fun key _ => key = y)
      fun r => { r with status := rows.reservation.getD r.status } := rfl

/-- A port leaves the settlements other than its own alone. -/
theorem AgreeOff.write (h : AgreeOff x t t') (y g : String) (rows : Rows σ φ) :
    AgreeOff x (t.write y g rows) (t'.write y g rows) where
  own z hz := by
    rw [write_own, write_own]
    by_cases hzy : z = y
    · rw [hzy, Function.update_self, Function.update_self]
    · rw [Function.update_of_ne hzy, Function.update_of_ne hzy, h.own z hz]
  reservations := by
    rw [write_reservations, write_reservations, erase_update, erase_update, h.reservations]

theorem AgreeOff.write_self (h : AgreeOff x t t') (g : String) (rows : Rows σ φ) :
    AgreeOff x (t.write x g rows) t' where
  own z hz := by
    rw [write_own, Function.update_of_ne hz, h.own z hz]
  reservations := by
    rw [write_reservations, erase_update, if_neg (not_not.mpr rfl), h.reservations]

/-! ### What `reserve_mandate` sees -/

/-- A settlement is given its reservation by its own rows and the two sums. -/
theorem reservationFor_congr (hget : t.reservations.get y = t'.reservations.get y)
    (hown : t.own y = t'.own y)
    (htotal : ∀ f, Dict.total f t.reservations = Dict.total f t'.reservations) (mandateId : String)
    (terms : SettlementTerms) :
    t.reservationFor ports y mandateId terms = t'.reservationFor ports y mandateId terms := by
  have hrefusal : ∀ facts : ReservationFacts, facts.refusal mandateId terms t.reservations =
      facts.refusal mandateId terms t'.reservations := by
    intro facts
    unfold ReservationFacts.refusal outstandingOf reservedUnder
    rw [htotal, htotal]
  unfold Tables.reservationFor
  rw [hget, hown]
  simp only [hrefusal]

/-- The tables with the reservation of a settlement as another table has it. -/
def Tables.withReservationOf (t : Tables σ φ) (x : String) (before : Dict String Reservation) :
    Tables σ φ :=
  { t with reservations := t.reservations.erase x ++ rowOf x before }

theorem total_split (f : String → Reservation → Int) (x : String) (d : Dict String Reservation) :
    Dict.total f d = Dict.total f (d.erase x ++ rowOf x d) := by
  induction d with
  | nil => rfl
  | cons e rest ih =>
      by_cases hx : e.1 = x
      · simp_all [Dict.total, Dict.erase, rowOf]
        omega
      · simp_all [Dict.total, Dict.erase, rowOf]

theorem get_withReservationOf (t : Tables σ φ) (before : Dict String Reservation) (hy : y ≠ x) :
    (t.withReservationOf x before).reservations.get y = t.reservations.get y := by
  have herased : (t.reservations.erase x).get y = t.reservations.get y := by
    rw [Dict.get_erase, if_neg hy]
  have hnone : (rowOf x before).get y = none := by
    by_contra hsome
    obtain ⟨r, hr⟩ := Option.ne_none_iff_exists'.mp hsome
    have hkey : (y, r).1 = x := by simpa [rowOf] using (List.mem_filter.mp (Dict.mem_of_get hr)).2
    exact hy hkey
  show List.lookup y (_ ++ _) = _
  rw [List.lookup_append, show List.lookup y (rowOf x before) = none from hnone, Option.or_none]
  exact herased

/-- The scan without `x` gives a settlement the reservation that the tables of the scan with `x`
    would give it with the reservation of `x` as it was. -/
theorem AgreeOff.reservationFor (h : AgreeOff x t t') {before : Dict String Reservation}
    (hkept : rowOf x t'.reservations = rowOf x before) (hy : y ≠ x) (mandateId : String)
    (terms : SettlementTerms) :
    t'.reservationFor ports y mandateId terms =
      (t.withReservationOf x before).reservationFor ports y mandateId terms := by
  have hget : t'.reservations.get y = (t.withReservationOf x before).reservations.get y := by
    rw [get_withReservationOf t before hy, h.get hy]
  have htotal : ∀ f, Dict.total f t'.reservations =
      Dict.total f (t.withReservationOf x before).reservations := by
    intro f
    rw [total_split f x t'.reservations, ← h.reservations, hkept]
    rfl
  exact reservationFor_congr hget (h.own y hy).symm htotal mandateId terms

/-- Both scans give a settlement the same reservation when they give it one. -/
theorem reservationFor_unique {r r' : Reservation} {mandateId : String} {terms : SettlementTerms}
    (hget : t.reservations.get y = t'.reservations.get y) (hown : t.own y = t'.own y)
    (hr : t.reservationFor ports y mandateId terms = .ok r)
    (hr' : t'.reservationFor ports y mandateId terms = .ok r') : r = r' := by
  unfold Tables.reservationFor at hr hr'
  rw [hget, hown] at hr
  cases hold : t'.reservations.get y with
  | some old =>
      rw [hold] at hr hr'
      exact Except.ok.inj (hr.symm.trans hr')
  | none =>
      rw [hold] at hr hr'
      cases hfacts : ports.reservationFacts (t'.own y) mandateId terms with
      | error e =>
          rw [hfacts] at hr
          cases hr
      | ok facts =>
          rw [hfacts] at hr hr'
          dsimp only at hr hr'
          cases hrefused : facts.refusal mandateId terms t.reservations with
          | some e =>
              rw [hrefused] at hr
              cases hr
          | none =>
              cases hrefused' : facts.refusal mandateId terms t'.reservations with
              | some e =>
                  rw [hrefused'] at hr'
                  cases hr'
              | none =>
                  rw [hrefused] at hr
                  rw [hrefused'] at hr'
                  exact Except.ok.inj (hr.symm.trans hr')

theorem perform_of_error {mandateId : String} {terms : SettlementTerms} {e : String}
    (h : t.reservationFor ports y mandateId terms = .error e) :
    t.perform ports y g (.reserveMandate mandateId terms) = (t, .error e) := by
  show t.reserveMandate ports y mandateId terms = _
  unfold Tables.reserveMandate
  rw [h]
  rfl

theorem perform_of_ok {mandateId : String} {terms : SettlementTerms} {r : Reservation}
    (h : t.reservationFor ports y mandateId terms = .ok r) :
    t.perform ports y g (.reserveMandate mandateId terms) =
      ({ t with reservations := t.reservations.set y r }, .ok ()) := by
  show t.reserveMandate ports y mandateId terms = _
  unfold Tables.reserveMandate
  rw [h]
  rfl

/-! ### Refusals leave `_execute` -/

def Act.isPort : Act σ φ → Prop
  | .port _ => True
  | .reserveMandate _ _ => False

/-- What `reserve_mandate` raises, the coroutine raises too. -/
def RaisesRefusals {α : Type} : Coroutine σ φ α → Prop
  | .ret _ => True
  | .raise _ => True
  | .call act next =>
    (¬ act.isPort → ∀ e, ∃ e', next (.error e) = .raise e') ∧ ∀ reply, RaisesRefusals (next reply)

variable {α β : Type}

theorem raisesRefusals_of_within {c : Coroutine σ φ α} (h : c.Within Act.isPort) :
    RaisesRefusals c := by
  induction c with
  | ret value => trivial
  | raise e => trivial
  | call act next ih => exact ⟨fun hact => absurd h.1 hact, fun reply => ih reply (h.2 reply)⟩

theorem RaisesRefusals.bind {c : Coroutine σ φ α} {f : α → Coroutine σ φ β} (hc : RaisesRefusals c)
    (hf : ∀ a, RaisesRefusals (f a)) : RaisesRefusals (c >>= f) := by
  induction c with
  | ret value => exact hf value
  | raise e => trivial
  | call act next ih =>
      refine ⟨fun hact e => ?_, fun reply => ih reply (hc.2 reply)⟩
      obtain ⟨e', he'⟩ := hc.1 hact e
      refine ⟨e', ?_⟩
      show (next (.error e)).bind f = _
      rw [he']
      rfl

theorem await_within (m : Method (Rows σ φ) α) : (await m).Within Act.isPort := by
  refine ⟨trivial, ?_⟩
  intro reply
  cases reply with
  | error e => trivial
  | ok rows =>
      dsimp only
      cases m.result rows with
      | ok value => trivial
      | error e => trivial

theorem raisesRefusals_reserveMandate (mandateId : String) (terms : SettlementTerms) :
    RaisesRefusals (Prog.perform (Act.reserveMandate mandateId terms) : Coroutine σ φ Unit) := by
  refine ⟨fun _ e => ⟨e, rfl⟩, ?_⟩
  intro reply
  cases reply with
  | ok _ => trivial
  | error _ => trivial

theorem compensate_within (fenceClaimed : Bool) (e : String) :
    (compensate ports fenceClaimed e).Within Act.isPort := by
  have hrest : (do
      await (ports.releaseReservation "automatic_settlement_pre_submission_failed")
      await (ports.markAttempt (.failed "automatic_settlement_failed"))
      await (ports.failSettlement "automatic_settlement_failed")
      .raise e : Coroutine σ φ Unit).Within Act.isPort :=
    (await_within _).bind fun _ => (await_within _).bind fun _ => (await_within _).bind fun _ =>
      trivial
  cases fenceClaimed with
  | false => exact hrest
  | true => exact (await_within _).bind fun _ => hrest

theorem sign_within (p : PreparedSettlement Requirement) (mandate : Mandate) :
    (sign ports p mandate).Within Act.isPort :=
  (await_within _).bind fun _ => (await_within _).bind fun _ => (await_within _).bind fun _ => trivial

theorem submit_within (p : PreparedSettlement Requirement) (mandate : Mandate) (payload : Payload) :
    (submit ports p mandate payload).Within Act.isPort := by
  refine (await_within _).bind fun result => ?_
  have hlast : (do
      await (ports.markAttempt (.result result.status result.errorReason))
      if result.status ≠ .unknown then await ports.releaseFacilitatorFence :
      Coroutine σ φ Unit).Within Act.isPort := by
    refine (await_within _).bind fun _ => ?_
    by_cases hunknown : result.status ≠ .unknown
    · rw [if_pos hunknown]
      exact await_within _
    · rw [if_neg hunknown]
      trivial
  by_cases hfailed : result.status = .failed
  · rw [if_pos hfailed]
    exact (await_within _).bind fun _ => hlast
  · rw [if_neg hfailed]
    exact hlast

theorem executeClaimed_within (p : PreparedSettlement Requirement) (mandate : Mandate) :
    (executeClaimed ports p mandate).Within Act.isPort := by
  refine (await_within _).attempt.bind fun claimed => ?_
  match claimed with
  | .error e => exact compensate_within false e
  | .ok false =>
      refine (await_within _).attempt.bind fun deferred => ?_
      match deferred with
      | .error e => exact compensate_within false e
      | .ok () => trivial
  | .ok true =>
      refine (sign_within p mandate).attempt.bind fun signed => ?_
      match signed with
      | .error e => exact compensate_within true e
      | .ok payload => exact submit_within p mandate payload

/-- **A refused reservation ends the execution of the settlement.** -/
theorem execute_raisesRefusals (p : PreparedSettlement Requirement) :
    RaisesRefusals (execute ports p) := by
  refine (raisesRefusals_of_within (await_within _)).bind fun found => ?_
  cases found with
  | none => exact raisesRefusals_of_within (await_within _)
  | some mandate =>
      refine (raisesRefusals_reserveMandate _ _).bind fun _ => raisesRefusals_of_within ?_
      refine (await_within _).bind fun claimed => ?_
      cases claimed with
      | false => trivial
      | true => exact executeClaimed_within p mandate

/-! ### Queues that go on -/

variable {s s' u : Execution σ φ Requirement} {p : PreparedSettlement Requirement}
  {rest : List (PreparedSettlement Requirement)} {program : Coroutine σ φ Unit} {e : String}

theorem tick_nil (h : s.queues g = .idle []) : s.tick ports g = s := by
  simp only [Execution.tick, h]

theorem tick_start (h : s.queues g = .idle (p :: rest)) :
    s.tick ports g =
      { s with
        queues := Function.update s.queues g (.running p (execute ports p) rest)
        taken := s.taken ++ [p.settlementIntentId] } := by
  simp only [Execution.tick, h]

theorem tick_ret (h : s.queues g = .running p (.ret ()) rest) :
    s.tick ports g =
      { s with
        queues := Function.update s.queues g (.idle rest)
        returned := s.returned ++ [p.settlementIntentId] } := by
  simp only [Execution.tick, h]

theorem tick_raise (h : s.queues g = .running p (.raise e) rest) :
    s.tick ports g = { s with queues := Function.update s.queues g (.failed p e) } := by
  simp only [Execution.tick, h]

theorem tick_call {act : Act σ φ} {next : Except String act.Reply → Coroutine σ φ Unit}
    (h : s.queues g = .running p (.call act next) rest) :
    s.tick ports g =
      { s with
        tables := (s.tables.perform ports p.settlementIntentId g act).1
        queues := Function.update s.queues g
          (.running p (next (s.tables.perform ports p.settlementIntentId g act).2) rest) } := by
  simp only [Execution.tick, h]

/-- The queue after a call. -/
theorem tick_call_self {act : Act σ φ} {next : Except String act.Reply → Coroutine σ φ Unit}
    (h : s.queues g = .running p (.call act next) rest) :
    (s.tick ports g).queues g =
      .running p (next (s.tables.perform ports p.settlementIntentId g act).2) rest := by
  rw [tick_call h]
  exact Function.update_self ..

theorem tick_failed (h : s.queues g = .failed p e) : s.tick ports g = s := by
  simp only [Execution.tick, h]

/-- The other queues stay. -/
theorem tick_queues_ne {g' : String} (h : g' ≠ g) : (s.tick ports g).queues g' = s.queues g' := by
  unfold Execution.tick
  split <;> first | rfl | exact Function.update_of_ne h ..

theorem returned_tick (h : y ∈ s.returned) : y ∈ (s.tick ports g).returned := by
  unfold Execution.tick
  split <;> first | exact h | exact List.mem_append_left _ h

variable (ports) in
theorem returned_run (h : y ∈ s.returned) (schedule : List String) :
    y ∈ (s.run ports schedule).returned := by
  induction schedule generalizing s with
  | nil => exact h
  | cons g rest ih => exact ih (returned_tick h)

/-- A condition on every step of a schedule. -/
def EveryStep (ports : Ports σ φ Requirement Mandate Payload)
    (P : Execution σ φ Requirement → String → Prop) :
    Execution σ φ Requirement → List String → Prop
  | _, [] => True
  | s, g :: rest => P s g ∧ EveryStep ports P (s.tick ports g) rest

/-! ### Harmless steps -/

/-- A step of the scan that takes nothing from a settlement other than `x`: where `x` raises there is
    nobody behind it in its queue, and where another settlement asks for its reservation the limits
    decide as they do with the reservation of `x` as it was when the queues were started. -/
def HarmlessStep (ports : Ports σ φ Requirement Mandate Payload) (x : String)
    (before : Dict String Reservation) (s : Execution σ φ Requirement) (g : String) : Prop :=
  match s.queues g with
  | .running p (.raise _) rest => p.settlementIntentId = x → rest = []
  | .running p (.call (.reserveMandate mandateId terms) _) _ =>
    p.settlementIntentId ≠ x →
      (s.tables.reservationFor ports p.settlementIntentId mandateId terms).isOk =
        ((s.tables.withReservationOf x before).reservationFor ports p.settlementIntentId mandateId
          terms).isOk
  | _ => True

theorem HarmlessStep.last {before : Dict String Reservation} (h : HarmlessStep ports x before s g)
    (hq : s.queues g = .running p (.raise e) rest) (hp : p.settlementIntentId = x) : rest = [] := by
  rw [HarmlessStep, hq] at h
  exact h hp

theorem HarmlessStep.reserve {before : Dict String Reservation} (h : HarmlessStep ports x before s g)
    {mandateId : String} {terms : SettlementTerms}
    {next : Except String (Act.reserveMandate mandateId terms : Act σ φ).Reply → Coroutine σ φ Unit}
    (hq : s.queues g = .running p (.call (.reserveMandate mandateId terms) next) rest)
    (hp : p.settlementIntentId ≠ x) :
    (s.tables.reservationFor ports p.settlementIntentId mandateId terms).isOk =
      ((s.tables.withReservationOf x before).reservationFor ports p.settlementIntentId mandateId
        terms).isOk := by
  rw [HarmlessStep, hq] at h
  exact h hp

/-! ### The two scans in step -/

/-- The settlements of a queue without `x`. -/
def restOff (x : String) (rest : List (PreparedSettlement Requirement)) :
    List (PreparedSettlement Requirement) :=
  rest.filter fun p => p.settlementIntentId ≠ x

/-- A queue of the scan with `x` and the same queue of the scan without it.  The two are in step, but
    for what a settlement was refused with; once `x` has been started, as the last one, the queue
    without it has returned. -/
inductive QueueOff (x : String) : Queue σ φ Requirement → Queue σ φ Requirement → Prop
  | idle (rest : List (PreparedSettlement Requirement)) :
      QueueOff x (.idle rest) (.idle (restOff x rest))
  | running {p : PreparedSettlement Requirement} (hp : p.settlementIntentId ≠ x)
      (program : Coroutine σ φ Unit) (rest : List (PreparedSettlement Requirement)) :
      QueueOff x (.running p program rest) (.running p program (restOff x rest))
  | raised {p : PreparedSettlement Requirement} (hp : p.settlementIntentId ≠ x) (e e' : String)
      (rest : List (PreparedSettlement Requirement)) :
      QueueOff x (.running p (.raise e) rest) (.running p (.raise e') (restOff x rest))
  | failed {p : PreparedSettlement Requirement} (hp : p.settlementIntentId ≠ x) (e e' : String) :
      QueueOff x (.failed p e) (.failed p e')
  | own {p : PreparedSettlement Requirement} (hp : p.settlementIntentId = x)
      (program : Coroutine σ φ Unit) : QueueOff x (.running p program []) (.idle [])
  | ownFailed {p : PreparedSettlement Requirement} (hp : p.settlementIntentId = x) (e : String) :
      QueueOff x (.failed p e) (.idle [])

/-- The scan with `x` and the scan without it; `before` has the reservation of `x` as both found it. -/
structure Sim (x : String) (before : Dict String Reservation) (s s' : Execution σ φ Requirement) :
    Prop where
  agree : AgreeOff x s.tables s'.tables
  /-- Nothing happens to `x` in the scan without it. -/
  kept : rowOf x s'.tables.reservations = rowOf x before
  queues : ∀ g, QueueOff x (s.queues g) (s'.queues g)
  /-- A facilitator's rows agree as long as its queue has something to do without `x`. -/
  facilitators : ∀ g, s'.queues g ≠ .idle [] → s.tables.facilitators g = s'.tables.facilitators g
  taken : others x s.taken = s'.taken

/-- Every running settlement is left by a refused reservation. -/
def Plain (s : Execution σ φ Requirement) : Prop :=
  ∀ g p program rest, s.queues g = .running p program rest → RaisesRefusals program

theorem Plain.tick (h : Plain s) : Plain (s.tick ports g) := by
  intro g' p program rest hq
  by_cases hg : g' = g
  · subst hg
    unfold Execution.tick at hq
    split at hq
    · exact h _ _ _ _ hq
    · dsimp only at hq
      rw [Function.update_self] at hq
      cases hq
      exact execute_raisesRefusals _
    · dsimp only at hq
      rw [Function.update_self] at hq
      cases hq
    · dsimp only at hq
      rw [Function.update_self] at hq
      cases hq
    · rename_i hold
      dsimp only at hq
      rw [Function.update_self] at hq
      cases hq
      exact (h _ _ _ _ hold).2 _
    · exact h _ _ _ _ hq
  · rw [tick_queues_ne hg] at hq
    exact h _ _ _ _ hq

variable {before : Dict String Reservation}

theorem queueOff_update {q q' : Queue σ φ Requirement} {f f' : String → Queue σ φ Requirement}
    (h : ∀ g, QueueOff x (f g) (f' g)) (hq : QueueOff x q q') :
    ∀ g', QueueOff x (Function.update f g q g') (Function.update f' g q' g') := by
  intro g'
  by_cases hg : g' = g
  · rw [hg, Function.update_self, Function.update_self]
    exact hq
  · rw [Function.update_of_ne hg, Function.update_of_ne hg]
    exact h g'

/-- The queue of `x` goes on, after it has returned without `x`. -/
theorem queueOff_update_left {q : Queue σ φ Requirement} {f f' : String → Queue σ φ Requirement}
    (h : ∀ g, QueueOff x (f g) (f' g)) (hq : QueueOff x q (f' g)) :
    ∀ g', QueueOff x (Function.update f g q g') (f' g') := by
  have hupdate := queueOff_update (g := g) h hq
  rwa [Function.update_eq_self] at hupdate

theorem others_append_ne (hy : y ≠ x) (l : List String) : others x (l ++ [y]) = others x l ++ [y] := by
  simp [others, hy]

theorem others_append_self (l : List String) : others x (l ++ [x]) = others x l := by
  simp [others]

/-- A facilitator whose queue has something to do has the same rows in both scans, also after a step
    that leaves the facilitators alone. -/
theorem Sim.busy (h : Sim x before s s') (hbusy : s'.queues g ≠ .idle [])
    {q : Queue σ φ Requirement} {g' : String} (hg' : Function.update s'.queues g q g' ≠ .idle []) :
    s.tables.facilitators g' = s'.tables.facilitators g' := by
  by_cases hg : g' = g
  · exact hg ▸ h.facilitators g hbusy
  · exact h.facilitators g' (by rwa [Function.update_of_ne hg] at hg')

/-- A port call for another settlement. -/
theorem Sim.port (h : Sim x before s s') (hp : p.settlementIntentId ≠ x)
    {change : Rows σ φ → Rows σ φ}
    {next : Except String (Act.port change).Reply → Coroutine σ φ Unit}
    (hq : s.queues g = .running p (.call (.port change) next) rest)
    (hq' : s'.queues g = .running p (.call (.port change) next) (restOff x rest)) :
    Sim x before (s.tick ports g) (s'.tick ports g) := by
  have hbusy : s'.queues g ≠ .idle [] := by
    rw [hq']
    simp
  have hrows : s.tables.rowsOf p.settlementIntentId g = s'.tables.rowsOf p.settlementIntentId g := by
    unfold Tables.rowsOf
    rw [h.agree.own _ hp, h.facilitators g hbusy, h.agree.get hp]
  have hdone : s.tables.perform ports p.settlementIntentId g (.port change) =
      (s.tables.write p.settlementIntentId g
        (change (s'.tables.rowsOf p.settlementIntentId g)),
        .ok (s'.tables.rowsOf p.settlementIntentId g)) := by
    rw [Tables.perform, hrows]
  rw [tick_call hq, tick_call hq', hdone]
  exact
    { agree := h.agree.write _ _ _
      kept := by
        show rowOf x (s'.tables.write _ _ _).reservations = _
        rw [write_reservations, rowOf_update_ne _ _ hp]
        exact h.kept
      queues := queueOff_update h.queues (.running hp _ _)
      facilitators := by
        intro g' hg'
        show Function.update _ _ _ _ = Function.update _ _ _ _
        by_cases hg : g' = g
        · rw [hg, Function.update_self, Function.update_self]
        · rw [Function.update_of_ne hg, Function.update_of_ne hg]
          exact h.busy hbusy hg'
      taken := h.taken }

/-- A reservation for another settlement, which the limits decide alike. -/
theorem Sim.reserve (h : Sim x before s s') (hplain : Plain s) (hp : p.settlementIntentId ≠ x)
    {mandateId : String} {terms : SettlementTerms}
    {next : Except String (Act.reserveMandate mandateId terms : Act σ φ).Reply → Coroutine σ φ Unit}
    (hq : s.queues g = .running p (.call (.reserveMandate mandateId terms) next) rest)
    (hq' : s'.queues g = .running p (.call (.reserveMandate mandateId terms) next) (restOff x rest))
    (halike : (s.tables.reservationFor ports p.settlementIntentId mandateId terms).isOk =
      (s'.tables.reservationFor ports p.settlementIntentId mandateId terms).isOk) :
    Sim x before (s.tick ports g) (s'.tick ports g) := by
  have hbusy : s'.queues g ≠ .idle [] := by
    rw [hq']
    simp
  rw [tick_call hq, tick_call hq']
  cases hr : s.tables.reservationFor ports p.settlementIntentId mandateId terms with
  | error e =>
      cases hr' : s'.tables.reservationFor ports p.settlementIntentId mandateId terms with
      | ok r =>
          rw [hr, hr'] at halike
          cases halike
      | error e' =>
          obtain ⟨a, ha⟩ := (hplain _ _ _ _ hq).1 id e
          obtain ⟨a', ha'⟩ := (hplain _ _ _ _ hq).1 id e'
          have hraised : QueueOff x (.running p (next (.error e)) rest)
              (.running p (next (.error e')) (restOff x rest)) := by
            rw [ha, ha']
            exact .raised hp _ _ _
          rw [perform_of_error hr, perform_of_error hr']
          exact ⟨h.agree, h.kept, queueOff_update h.queues hraised, fun _ => h.busy hbusy, h.taken⟩
  | ok r =>
      cases hr' : s'.tables.reservationFor ports p.settlementIntentId mandateId terms with
      | error e' =>
          rw [hr, hr'] at halike
          cases halike
      | ok r' =>
          obtain rfl := reservationFor_unique (h.agree.get hp) (h.agree.own _ hp) hr hr'
          rw [perform_of_ok hr, perform_of_ok hr']
          refine ⟨⟨h.agree.own, ?_⟩, (rowOf_set_ne _ _ hp).trans h.kept,
            queueOff_update h.queues (.running hp _ _), fun _ => h.busy hbusy, h.taken⟩
          show (Dict.set _ _ _).erase x = (Dict.set _ _ _).erase x
          rw [erase_set, erase_set, if_pos hp, if_pos hp, h.agree.reservations]

/-- A call for `x`. -/
theorem Sim.ownCall (h : Sim x before s s') (hp : p.settlementIntentId = x) {act : Act σ φ}
    {next : Except String act.Reply → Coroutine σ φ Unit}
    (hq : s.queues g = .running p (.call act next) []) (hq' : s'.queues g = .idle []) :
    Sim x before (s.tick ports g) s' := by
  have hagree : AgreeOff x (s.tables.perform ports p.settlementIntentId g act).1 s'.tables := by
    rw [hp]
    cases act with
    | port change => exact h.agree.write_self _ _
    | reserveMandate mandateId terms =>
        cases hr : s.tables.reservationFor ports x mandateId terms with
        | error e =>
            rw [perform_of_error hr]
            exact h.agree
        | ok r =>
            rw [perform_of_ok hr]
            refine ⟨h.agree.own, ?_⟩
            show (Dict.set _ _ _).erase x = _
            rw [erase_set, if_neg (not_not.mpr rfl), h.agree.reservations]
  have hfacilitators : ∀ g', g' ≠ g →
      (s.tables.perform ports p.settlementIntentId g act).1.facilitators g' =
        s.tables.facilitators g' := by
    intro g' hg
    rw [hp]
    cases act with
    | port change => exact Function.update_of_ne hg ..
    | reserveMandate mandateId terms =>
        cases hr : s.tables.reservationFor ports x mandateId terms with
        | error e => rw [perform_of_error hr]
        | ok r => rw [perform_of_ok hr]
  rw [tick_call hq]
  refine ⟨hagree, h.kept, queueOff_update_left h.queues (hq' ▸ .own hp _), ?_, h.taken⟩
  intro g' hg'
  have hg : g' ≠ g := fun hg => hg' (hg ▸ hq')
  exact (hfacilitators g' hg).trans (h.facilitators g' hg')

/-- **The two scans stay in step along a harmless step that does not start `x` before another
    settlement of its queue.** -/
theorem Sim.tick (h : Sim x before s s') (hplain : Plain s) (hstep : HarmlessStep ports x before s g)
    (hlast : ∀ p rest, s.queues g = .idle (p :: rest) → p.settlementIntentId = x → rest = []) :
    Sim x before (s.tick ports g) (s'.tick ports g) := by
  have hoff := h.queues g
  generalize hq : s.queues g = q at hoff
  generalize hq' : s'.queues g = q' at hoff
  have hbusy : q' ≠ .idle [] → s'.queues g ≠ .idle [] := fun hne => hq' ▸ hne
  cases hoff with
  | idle rest =>
      cases rest with
      | nil =>
          rw [tick_nil hq, tick_nil (show s'.queues g = .idle [] from hq')]
          exact h
      | cons p rest =>
          by_cases hp : p.settlementIntentId = x
          · obtain rfl := hlast p rest hq hp
            have hidle : s'.queues g = .idle [] := by simpa [restOff, hp] using hq'
            rw [tick_start hq, tick_nil hidle]
            refine ⟨h.agree, h.kept, queueOff_update_left h.queues (hidle ▸ .own hp _), h.facilitators,
              ?_⟩
            rw [hp, others_append_self, h.taken]
          · have hkeep : restOff x (p :: rest) = p :: restOff x rest := by simp [restOff, hp]
            rw [hkeep] at hq' hbusy
            rw [tick_start hq, tick_start hq']
            refine ⟨h.agree, h.kept, queueOff_update h.queues (.running hp _ _),
              fun _ => h.busy (hbusy (by simp)), ?_⟩
            rw [others_append_ne hp, h.taken]
  | running hp program rest =>
      cases program with
      | ret value =>
          rw [tick_ret hq, tick_ret hq']
          exact ⟨h.agree, h.kept, queueOff_update h.queues (.idle rest),
            fun _ => h.busy (hbusy (by simp)), h.taken⟩
      | raise e =>
          rw [tick_raise hq, tick_raise hq']
          exact ⟨h.agree, h.kept, queueOff_update h.queues (.failed hp _ _),
            fun _ => h.busy (hbusy (by simp)), h.taken⟩
      | call act next =>
          cases act with
          | port change => exact h.port hp hq hq'
          | reserveMandate mandateId terms =>
              refine h.reserve hplain hp hq hq' ?_
              rw [h.agree.reservationFor h.kept hp]
              exact hstep.reserve hq hp
  | raised hp e e' rest =>
      rw [tick_raise hq, tick_raise hq']
      exact ⟨h.agree, h.kept, queueOff_update h.queues (.failed hp _ _),
        fun _ => h.busy (hbusy (by simp)), h.taken⟩
  | failed hp e e' =>
      rw [tick_failed hq, tick_failed hq']
      exact h
  | own hp program =>
      rw [tick_nil (s := s') hq']
      cases program with
      | ret value =>
          rw [tick_ret hq]
          have hidle : QueueOff x (.idle []) (s'.queues g) := by
            rw [hq']
            exact .idle []
          exact ⟨h.agree, h.kept, queueOff_update_left h.queues hidle, h.facilitators, h.taken⟩
      | raise e =>
          rw [tick_raise hq]
          exact ⟨h.agree, h.kept, queueOff_update_left h.queues (hq' ▸ .ownFailed hp e),
            h.facilitators, h.taken⟩
      | call act next => exact h.ownCall hp hq hq'
  | ownFailed hp e =>
      rw [tick_failed hq, tick_nil hq']
      exact h

/-! ### Where the settlements are -/

/-- The settlements that a queue has not been through. -/
def Queue.settlements : Queue σ φ Requirement → List (PreparedSettlement Requirement)
  | .idle rest => rest
  | .running p _ rest => p :: rest
  | .failed p _ => [p]

/-- The settlements that a queue has not started. -/
def Queue.waiting : Queue σ φ Requirement → List (PreparedSettlement Requirement)
  | .idle rest => rest
  | .running _ _ rest => rest
  | .failed _ _ => []

variable {prepared : List (PreparedSettlement Requirement)}

/-- Every settlement is in the queue of its facilitator, and one that waits was not taken up. -/
structure Placed (prepared : List (PreparedSettlement Requirement)) (s : Execution σ φ Requirement) :
    Prop where
  queues : ∀ g, ∀ p ∈ (s.queues g).settlements, p ∈ prepared ∧ p.facilitatorId = g
  nodup : ∀ g, ((s.queues g).settlements.map (·.settlementIntentId)).Nodup
  waiting : ∀ g, ∀ p ∈ (s.queues g).waiting, p.settlementIntentId ∉ s.taken

/-- A settlement is in one queue. -/
theorem Placed.eq (h : Placed prepared s) (hnodup : (prepared.map (·.settlementIntentId)).Nodup)
    {g g' : String} {p p' : PreparedSettlement Requirement} (hp : p ∈ (s.queues g).settlements)
    (hp' : p' ∈ (s.queues g').settlements) (hid : p.settlementIntentId = p'.settlementIntentId) :
    g = g' := by
  obtain ⟨hmem, rfl⟩ := h.queues g p hp
  obtain ⟨hmem', rfl⟩ := h.queues g' p' hp'
  rw [List.inj_on_of_nodup_map hnodup hmem hmem' hid]

theorem mem_settlements_of_waiting {q : Queue σ φ Requirement} (h : p ∈ q.waiting) :
    p ∈ q.settlements := by
  cases q with
  | idle rest => exact h
  | running p' program rest => exact List.mem_cons_of_mem _ h
  | failed p' e => cases h

variable (ports) in
/-- A queue that goes on takes up its next settlement, or none. -/
theorem tick_taken (s : Execution σ φ Requirement) (g : String) :
    (∃ p rest, s.queues g = .idle (p :: rest) ∧
      (s.tick ports g).queues g = .running p (execute ports p) rest ∧
      (s.tick ports g).taken = s.taken ++ [p.settlementIntentId]) ∨
    (s.tick ports g).taken = s.taken := by
  unfold Execution.tick
  split
  · exact .inr rfl
  · rename_i p rest hq
    exact .inl ⟨p, rest, hq, Function.update_self .., rfl⟩
  all_goals exact .inr rfl

variable (ports) in
/-- No queue gets a settlement when one goes on. -/
theorem tick_sublist (s : Execution σ φ Requirement) (g g' : String) :
    ((s.tick ports g).queues g').settlements.Sublist (s.queues g').settlements ∧
      ((s.tick ports g).queues g').waiting.Sublist (s.queues g').waiting := by
  by_cases hg : g' = g
  · subst hg
    unfold Execution.tick
    split
    · exact ⟨.refl _, .refl _⟩
    · rename_i hq
      simp only [hq, Function.update_self]
      exact ⟨.refl _, List.sublist_cons_self _ _⟩
    · rename_i hq
      simp only [hq, Function.update_self]
      exact ⟨List.sublist_cons_self _ _, .refl _⟩
    · rename_i hq
      simp only [hq, Function.update_self]
      exact ⟨List.Sublist.cons_cons _ (List.nil_sublist _), List.nil_sublist _⟩
    · rename_i hq
      simp only [hq, Function.update_self]
      exact ⟨.refl _, .refl _⟩
    · exact ⟨.refl _, .refl _⟩
  · rw [tick_queues_ne hg]
    exact ⟨.refl _, .refl _⟩

theorem Placed.tick (h : Placed prepared s) (hnodup : (prepared.map (·.settlementIntentId)).Nodup) :
    Placed prepared (s.tick ports g) := by
  refine ⟨fun g' p' hp' => h.queues g' p' ((tick_sublist ports s g g').1.subset hp'),
    fun g' => ((tick_sublist ports s g g').1.map _).nodup (h.nodup g'), fun g' p' hp' => ?_⟩
  have hbefore := h.waiting g' p' ((tick_sublist ports s g g').2.subset hp')
  rcases tick_taken ports s g with ⟨p, rest, hq, hqueue, htaken⟩ | htaken
  · rw [htaken, List.mem_append, List.mem_singleton, not_or]
    refine ⟨hbefore, fun hid => ?_⟩
    by_cases hg : g' = g
    · subst hg
      rw [hqueue] at hp'
      have hdistinct := h.nodup g'
      rw [hq] at hdistinct
      exact (List.nodup_cons.mp hdistinct).1 (List.mem_map.mpr ⟨p', hp', hid⟩)
    · rw [tick_queues_ne hg] at hp'
      have hhead : p ∈ (s.queues g).settlements := hq ▸ List.mem_cons_self
      exact hg (h.eq hnodup (mem_settlements_of_waiting hp') hhead hid)
  · rw [htaken]
    exact hbefore

/-! ### A settlement behind `x` -/

/-- Every queue of the settlements has come to its end. -/
def Ended (prepared : List (PreparedSettlement Requirement)) (s : Execution σ φ Requirement) : Prop :=
  ∀ p ∈ prepared, (s.queues p.facilitatorId).hasEnded = true

/-- When `x` has been started and does not return, each step is harmless only if `x` is the last one of
    its queue. -/
theorem last_of_running (hp : p.settlementIntentId = x) : ∀ {schedule : List String}
    {s : Execution σ φ Requirement} {program : Coroutine σ φ Unit},
    s.queues g = .running p program rest → EveryStep ports (HarmlessStep ports x before) s schedule →
    ((s.run ports schedule).queues g).hasEnded = true → x ∉ (s.run ports schedule).returned →
    rest = [] := by
  intro schedule
  induction schedule with
  | nil =>
      intro s program hq _ hended _
      rw [show s.run ports [] = s from rfl, hq] at hended
      cases hended
  | cons g' others ih =>
      intro s program hq hsteps hended hreturned
      by_cases hg : g = g'
      · subst hg
        cases program with
        | ret value =>
            refine absurd (returned_run ports ?_ others) hreturned
            rw [tick_ret hq]
            exact List.mem_append_right _ (hp ▸ List.mem_singleton_self _)
        | raise e => exact hsteps.1.last hq hp
        | call act next =>
            exact ih (tick_call_self hq) hsteps.2 hended hreturned
      · exact ih (s := s.tick ports g') (by rw [tick_queues_ne hg]; exact hq) hsteps.2 hended hreturned

/-- A settlement that waits behind `x` is not taken up as long as `x` does not return. -/
structure Blocked (x y g : String) (s : Execution σ φ Requirement) : Prop where
  untaken : y ∉ s.taken
  queue : (∃ p program rest, s.queues g = .running p program rest ∧ p.settlementIntentId = x) ∨
    ∃ p e, s.queues g = .failed p e
  elsewhere : ∀ g', g' ≠ g → ∀ p ∈ (s.queues g').waiting, p.settlementIntentId ≠ y

theorem Blocked.tick (h : Blocked x y g s) {g' : String} (hreturned : x ∉ (s.tick ports g').returned) :
    Blocked x y g (s.tick ports g') := by
  have helsewhere : ∀ g'', g'' ≠ g → ∀ p ∈ ((s.tick ports g').queues g'').waiting,
      p.settlementIntentId ≠ y :=
    fun g'' hne p hp => h.elsewhere g'' hne p ((tick_sublist ports s g' g'').2.subset hp)
  by_cases hg : g' = g
  · subst hg
    rcases h.queue with ⟨p, program, rest, hq, hp⟩ | ⟨p, e, hq⟩
    · cases program with
      | ret value =>
          refine absurd ?_ hreturned
          rw [tick_ret hq]
          exact List.mem_append_right _ (hp ▸ List.mem_singleton_self _)
      | raise e =>
          refine ⟨?_, .inr ⟨p, e, ?_⟩, helsewhere⟩
          · rw [tick_raise hq]
            exact h.untaken
          · rw [tick_raise hq]
            exact Function.update_self ..
      | call act next =>
          refine ⟨?_, .inl ⟨p, _, rest, tick_call_self hq, hp⟩, helsewhere⟩
          rw [tick_call hq]
          exact h.untaken
    · rw [tick_failed hq]
      exact h
  · refine ⟨?_, by rw [tick_queues_ne (Ne.symm hg)]; exact h.queue, helsewhere⟩
    rcases tick_taken ports s g' with ⟨p, rest, hq, -, htaken⟩ | htaken
    · rw [htaken, List.mem_append, List.mem_singleton, not_or]
      exact ⟨h.untaken, fun hy => h.elsewhere g' hg p (by rw [hq]; exact List.mem_cons_self) hy.symm⟩
    · rw [htaken]
      exact h.untaken

theorem Blocked.run : ∀ (schedule : List String) {s : Execution σ φ Requirement}, Blocked x y g s →
    x ∉ (s.run ports schedule).returned → y ∉ (s.run ports schedule).taken := by
  intro schedule
  induction schedule with
  | nil => exact fun h _ => h.untaken
  | cons g' others ih =>
      intro s h hreturned
      exact ih (h.tick fun hmem => hreturned (returned_run ports hmem others)) hreturned

variable (ports) in
/-- A queue that goes on changes the tables only by a call for its settlement. -/
theorem tick_tables (s : Execution σ φ Requirement) (g : String) :
    (s.tick ports g).tables = s.tables ∨ ∃ p program rest act, s.queues g = .running p program rest ∧
      (s.tick ports g).tables = (s.tables.perform ports p.settlementIntentId g act).1 := by
  unfold Execution.tick
  split
  · exact .inl rfl
  · exact .inl rfl
  · exact .inl rfl
  · exact .inl rfl
  · rename_i hq
    exact .inr ⟨_, _, _, _, hq, rfl⟩
  · exact .inl rfl

/-- A call leaves the reservations of the other settlements. -/
theorem get_perform_ne {id : String} (hne : y ≠ id) (act : Act σ φ) :
    (t.perform ports id g act).1.reservations.get y = t.reservations.get y := by
  cases act with
  | port change =>
      show (t.write id g _).reservations.get y = _
      rw [write_reservations, Dict.get_update]
      cases t.reservations.get y with
      | none => rfl
      | some r => simp [hne]
  | reserveMandate mandateId terms =>
      cases hr : t.reservationFor ports id mandateId terms with
      | error e => rw [perform_of_error hr]
      | ok r =>
          rw [perform_of_ok hr]
          exact Dict.get_set_ne _ _ hne

/-- A settlement that was refused its reservation, and whose queue is left by the refusal. -/
structure Refused (y g : String) (s : Execution σ φ Requirement) : Prop where
  absent : s.tables.reservations.get y = none
  queue : (∃ p e rest, s.queues g = .running p (.raise e) rest) ∨ ∃ p e, s.queues g = .failed p e
  elsewhere : ∀ g', g' ≠ g → ∀ p ∈ (s.queues g').settlements, p.settlementIntentId ≠ y

theorem Refused.tick (h : Refused y g s) (g' : String) : Refused y g (s.tick ports g') := by
  have helsewhere : ∀ g'', g'' ≠ g → ∀ p ∈ ((s.tick ports g').queues g'').settlements,
      p.settlementIntentId ≠ y :=
    fun g'' hne p hp => h.elsewhere g'' hne p ((tick_sublist ports s g' g'').1.subset hp)
  by_cases hg : g' = g
  · subst hg
    rcases h.queue with ⟨p, e, rest, hq⟩ | ⟨p, e, hq⟩
    · rw [tick_raise hq] at helsewhere ⊢
      exact ⟨h.absent, .inr ⟨p, e, Function.update_self ..⟩, helsewhere⟩
    · rw [tick_failed hq]
      exact h
  · refine ⟨?_, by rw [tick_queues_ne (Ne.symm hg)]; exact h.queue, helsewhere⟩
    rcases tick_tables ports s g' with htables | ⟨p, program, rest, act, hq, htables⟩
    · rw [htables]
      exact h.absent
    · rw [htables, get_perform_ne]
      · exact h.absent
      · exact Ne.symm (h.elsewhere g' hg p (by rw [hq]; exact List.mem_cons_self))

/-- **When every step of an ended execution is harmless, the execution without `x` is in step with it
    to its end.** -/
theorem Sim.run : ∀ {schedule : List String} {s s' : Execution σ φ Requirement},
    Sim x before s s' → Plain s → Placed prepared s →
    (prepared.map (·.settlementIntentId)).Nodup →
    EveryStep ports (HarmlessStep ports x before) s schedule → Ended prepared (s.run ports schedule) →
    x ∉ (s.run ports schedule).returned →
    Sim x before (s.run ports schedule) (s'.run ports schedule) := by
  intro schedule
  induction schedule with
  | nil => exact fun h _ _ _ _ _ _ => h
  | cons g others ih =>
      intro s s' h hplain hplaced hnodup hsteps hended hreturned
      have hlast : ∀ p rest, s.queues g = .idle (p :: rest) → p.settlementIntentId = x → rest = [] := by
        intro p rest hq hp
        obtain ⟨hmem, hfacilitator⟩ := hplaced.queues g p (by rw [hq]; exact List.mem_cons_self)
        have hqueue : (s.tick ports g).queues g = .running p (execute ports p) rest := by
          rw [tick_start hq]
          exact Function.update_self ..
        exact last_of_running hp hqueue hsteps.2 (hfacilitator ▸ hended p hmem) hreturned
      exact ih (h.tick hplain hsteps.1 hlast) hplain.tick (hplaced.tick hnodup) hnodup hsteps.2 hended
        hreturned

/-- The queries without a settlement. -/
def Queries.without (q : Queries) (x : String) : Queries where
  unknown := others x q.unknown
  waiting := others x q.waiting
  unknown_nodup := q.unknown_nodup.filter _
  waiting_nodup := q.waiting_nodup.filter _

/-- Two scans that do the same to every settlement but one. -/
structure SameForOthers (x : String) (o o' : ScanOutcome σ φ) : Prop where
  tables : AgreeOff x o.tables o'.tables
  recovered : others x o.recovered = o'.recovered
  prepared : others x o.prepared = o'.prepared
  executed : others x o.executed = o'.executed

/-- A settlement takes nothing from the others of a scan.  Where it is the first one whose recovery
    raises, no ambiguous submission stands behind it and no other target is listed.  Where the
    recovery returns, each step of the queues is harmless. -/
structure Harmless (ports : Ports σ φ Requirement Mandate Payload) (q : Queries) (t : Tables σ φ)
    (schedule : List String) (x : String) : Prop where
  recovery : ∀ front behind, q.unknown = front ++ x :: behind →
    (recoverAll ports front t).error = none →
      behind = [] ∧ ∀ y ∈ targetsOf ports q.waiting (recoverAll ports front t).tables, y = x
  execution : (recoverAll ports q.unknown t).error = none →
    EveryStep ports (HarmlessStep ports x (recoverAll ports q.unknown t).tables.reservations)
      (Execution.start (preparedOf ports
        (targetsOf ports q.waiting (recoverAll ports q.unknown t).tables)
        (recoverAll ports q.unknown t).tables) (recoverAll ports q.unknown t).tables) schedule

variable {q : Queries} {schedule : List String}

end Arena402.Payments.Scan
