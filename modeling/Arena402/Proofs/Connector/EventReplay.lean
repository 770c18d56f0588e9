/-
The replay hands every event out once, in order, and keeps at most a window of them on the way.

`Replaying` is what every operation keeps: the list is what is left of the events that were put into
it, its first `next` events are those that were handed out and not acknowledged, and the set
`inFlight` holds their sequence numbers.  The sequence numbers of all events increase, so the events
at or below an acknowledged number are the first ones of the list.
-/
import Mathlib.Data.List.TakeWhile
import Arena402.Connector.EventReplay

namespace Arena402.Connector

namespace EventReplay

variable {r : EventReplay} {gone : List RuntimeEvent}

/-! ### Lists of events -/

/-- The sequence numbers of the events increase. -/
def Increasing (events : List RuntimeEvent) : Prop :=
  events.Pairwise fun first second => first.sequence < second.sequence

/-- The numbers of a list of events. -/
def numbers (events : List RuntimeEvent) : Finset Nat :=
  (events.map (·.sequence)).toFinset

theorem mem_numbers {events : List RuntimeEvent} {n : Nat} :
    n ∈ numbers events ↔ ∃ e ∈ events, e.sequence = n := by
  simp [numbers]

theorem card_numbers {events : List RuntimeEvent} (h : Increasing events) :
    (numbers events).card = events.length := by
  have hnodup : (events.map (·.sequence)).Nodup :=
    (List.pairwise_map.mpr h).imp fun hlt => Nat.ne_of_lt hlt
  rw [numbers, List.toFinset_card_of_nodup hnodup, List.length_map]

/-- The loop counts the events at or below the number, which are the first ones. -/
theorem countThrough_eq (sequence : Nat) : ∀ (next : Nat) (events : List RuntimeEvent),
    countThrough sequence next events =
      ((events.take next).takeWhile fun e => e.sequence ≤ sequence).length := by
  intro next
  induction next with
  | zero =>
      intro events
      cases events <;> rfl
  | succ next ih =>
      intro events
      cases events with
      | nil => rfl
      | cons event rest =>
          rw [countThrough, List.take_succ_cons, List.takeWhile_cons]
          by_cases hle : event.sequence ≤ sequence
          · simp [hle, ih rest]
          · simp [hle]

/-- In increasing order, what is not dropped is above the number. -/
theorem increasing_dropWhile {sequence : Nat} : ∀ {events : List RuntimeEvent}, Increasing events →
    events.dropWhile (fun e => e.sequence ≤ sequence) =
      events.filter fun e => ¬ e.sequence ≤ sequence := by
  intro events
  induction events with
  | nil => intro _; rfl
  | cons event rest ih =>
      intro h
      obtain ⟨hhead, hrest⟩ := List.pairwise_cons.mp h
      by_cases hle : event.sequence ≤ sequence
      · simpa [hle] using ih hrest
      · have hall : ∀ e ∈ rest, ¬ e.sequence ≤ sequence := by
          intro e he
          have := hhead e he
          omega
        rw [List.dropWhile_cons_of_neg (by simpa using hle),
          List.filter_eq_self.mpr]
        intro e he
        rcases List.mem_cons.mp he with rfl | he
        · simpa using hle
        · simpa using hall e he

/-- The number of the last event, zero when there is none. -/
def lastNumber (events : List RuntimeEvent) : Nat :=
  (events.getLast?.map (·.sequence)).getD 0

theorem lastNumber_append_single (events : List RuntimeEvent) (event : RuntimeEvent) :
    lastNumber (events ++ [event]) = event.sequence := by
  rw [lastNumber, List.getLast?_concat]
  rfl

/-- The last event has the highest number. -/
theorem le_lastNumber {events : List RuntimeEvent} (h : Increasing events) :
    ∀ e ∈ events, e.sequence ≤ lastNumber events := by
  intro e he
  obtain ⟨before, last, rfl⟩ : ∃ before last, events = before ++ [last] := by
    rcases List.eq_nil_or_concat events with rfl | ⟨before, last, hlast⟩
    · exact absurd he List.not_mem_nil
    · exact ⟨before, last, hlast.trans (List.concat_eq_append ..)⟩
  rw [lastNumber_append_single]
  rcases List.mem_append.mp he with he | he
  · exact Nat.le_of_lt ((List.pairwise_append.mp h).2.2 e he last List.mem_cons_self)
  · rw [List.mem_singleton.mp he]

/-! ### What every operation keeps -/

/-- The events of the list follow those that are gone; the first `next` of them are on the way. -/
structure Replaying (r : EventReplay) (gone : List RuntimeEvent) : Prop where
  increasing : Increasing (gone ++ r.events)
  next_le : r.next ≤ r.events.length
  inFlight : r.inFlight = numbers (r.events.take r.next)
  window : r.next ≤ replayWindow
  highest_ge : ∀ e ∈ r.events.take r.next, e.sequence ≤ r.highestSent
  last : r.lastSequence = lastNumber (gone ++ r.events)
  last_lt : r.lastSequence < 2 ^ 64

theorem Replaying.card (h : Replaying r gone) : r.inFlight.card = r.next := by
  have hincreasing : Increasing (r.events.take r.next) :=
    (List.pairwise_append.mp h.increasing).2.1.sublist (List.take_sublist _ _)
  rw [h.inFlight, card_numbers hincreasing, List.length_take, Nat.min_eq_left h.next_le]

theorem sequenceGap_eq_none : ∀ {events : List RuntimeEvent},
    (∀ e ∈ events, e.sequence < 2 ^ 64) →
    events.IsChain (fun first second => second.sequence = first.sequence + 1) →
    sequenceGap events = none := by
  intro events
  induction events with
  | nil => intro _ _; rfl
  | cons first rest ih =>
      intro hfits hchain
      cases rest with
      | nil => rfl
      | cons second rest =>
          obtain ⟨hnext, hrest⟩ := List.isChain_cons_cons.mp hchain
          have hsecond := hfits second (by simp)
          have heq : second.sequence = nextSequence first.sequence := by
            unfold nextSequence
            omega
          rw [sequenceGap, if_neg (not_not.mpr heq)]
          exact ih (fun e he => hfits e (List.mem_cons_of_mem _ he)) hrest

theorem increasing_of_contiguous {events : List RuntimeEvent}
    (h : events.IsChain fun first second => second.sequence = first.sequence + 1) :
    Increasing events := by
  have hchain : events.IsChain fun first second => first.sequence < second.sequence :=
    h.imp fun first second hnext => by omega
  exact List.isChain_iff_pairwise.mp hchain

theorem last_lt_of_fits {events : List RuntimeEvent} (h : ∀ e ∈ events, e.sequence < 2 ^ 64) :
    lastNumber events < 2 ^ 64 := by
  unfold lastNumber
  cases hlast : events.getLast? with
  | none => simp
  | some last => simpa using h last (List.mem_of_getLast? hlast)

theorem newEventReplay_ok {events : List RuntimeEvent} (hfits : ∀ e ∈ events, e.sequence < 2 ^ 64)
    (h : events.IsChain fun first second => second.sequence = first.sequence + 1) :
    ∃ r, newEventReplay events = .ok r ∧ r.events = events ∧ r.next = 0 ∧ Replaying r [] := by
  refine ⟨{ events, lastSequence := (events.getLast?.map (·.sequence)).getD 0 }, ?_, rfl, rfl, ?_⟩
  · rw [newEventReplay, sequenceGap_eq_none hfits h]
  · exact
      { increasing := increasing_of_contiguous h
        next_le := Nat.zero_le _
        inFlight := rfl
        window := Nat.zero_le _
        highest_ge := by simp
        last := rfl
        last_lt := last_lt_of_fits hfits }

/-! ### The operations -/

/-- A new event goes behind all others. -/
theorem Replaying.add (h : Replaying r gone) {event : RuntimeEvent} {r' : EventReplay}
    (hfits : event.sequence < 2 ^ 64) (hadd : r.add event = .ok r') :
    r'.events = r.events ++ [event] ∧ r'.next = r.next ∧ Replaying r' gone := by
  unfold EventReplay.add at hadd
  by_cases hzero : event.sequence = 0
  · rw [if_pos hzero] at hadd
    cases hadd
  rw [if_neg hzero] at hadd
  by_cases hgap : r.lastSequence ≠ 0 ∧ event.sequence ≠ nextSequence r.lastSequence
  · rw [if_pos hgap] at hadd
    cases hadd
  rw [if_neg hgap] at hadd
  cases hadd
  have habove : r.lastSequence < event.sequence := by
    by_cases hlast : r.lastSequence = 0
    · omega
    · have hnext : event.sequence = nextSequence r.lastSequence := by
        by_contra hne
        exact hgap ⟨hlast, hne⟩
      have hlt := h.last_lt
      unfold nextSequence at hnext
      omega
  have hall : ∀ e ∈ gone ++ r.events, e.sequence < event.sequence := fun e he =>
    Nat.lt_of_le_of_lt (le_lastNumber h.increasing e he) (h.last ▸ habove)
  have htake : (r.events ++ [event]).take r.next = r.events.take r.next :=
    List.take_append_of_le_length h.next_le
  refine ⟨rfl, rfl, ?_⟩
  constructor
  · show Increasing (gone ++ (r.events ++ [event]))
    rw [← List.append_assoc]
    exact List.pairwise_append.mpr ⟨h.increasing, List.pairwise_singleton _ _,
      fun e he e' he' => by rw [List.mem_singleton.mp he']; exact hall e he⟩
  · show r.next ≤ (r.events ++ [event]).length
    rw [List.length_append]
    exact Nat.le_add_right_of_le h.next_le
  · show r.inFlight = numbers ((r.events ++ [event]).take r.next)
    rw [htake, h.inFlight]
  · exact h.window
  · show ∀ e ∈ (r.events ++ [event]).take r.next, _
    rw [htake]
    exact h.highest_ge
  · show event.sequence = lastNumber (gone ++ (r.events ++ [event]))
    rw [← List.append_assoc, lastNumber_append_single]
  · exact hfits

/-- An event with the next number is taken. -/
theorem Replaying.add_next (h : Replaying r gone) {event : RuntimeEvent} (hnonzero : event.sequence ≠ 0)
    (hfits : event.sequence < 2 ^ 64)
    (hnext : ∀ last ∈ (gone ++ r.events).getLast?, event.sequence = last.sequence + 1) :
    r.add event = .ok { r with events := r.events ++ [event], lastSequence := event.sequence } := by
  have hfollows : ¬ (r.lastSequence ≠ 0 ∧ event.sequence ≠ nextSequence r.lastSequence) := by
    rintro ⟨hlast, hgap⟩
    rw [h.last, lastNumber] at hlast hgap
    cases hget : (gone ++ r.events).getLast? with
    | none =>
        rw [hget] at hlast
        exact hlast rfl
    | some last =>
        have hstep := hnext last hget
        rw [hget] at hgap
        refine hgap ?_
        show event.sequence = (last.sequence + 1) % 2 ^ 64
        rw [← hstep, Nat.mod_eq_of_lt hfits]
  unfold EventReplay.add
  rw [if_neg hnonzero, if_neg hfollows]

/-- The event that is handed out is the first unsent one, and the window has room for it. -/
theorem nextEvent_some {event : RuntimeEvent} (h : r.nextEvent = some event) :
    r.next < r.events.length ∧ r.inFlight.card < replayWindow ∧ r.events[r.next]? = some event := by
  unfold nextEvent at h
  by_cases hfull : r.next ≥ r.events.length ∨ r.inFlight.card ≥ replayWindow
  · rw [if_pos hfull] at h
    cases h
  · rw [if_neg hfull] at h
    exact ⟨by omega, by omega, h⟩

theorem take_next {event : RuntimeEvent} (h : r.events[r.next]? = some event) :
    r.events.take (r.next + 1) = r.events.take r.next ++ [event] := by
  rw [List.take_add_one, h]
  rfl

theorem Replaying.send (h : Replaying r gone) {event : RuntimeEvent}
    (hnext : r.nextEvent = some event) :
    Replaying (r.markSent event) gone := by
  obtain ⟨hlt, hroom, hget⟩ := nextEvent_some hnext
  rw [h.card] at hroom
  constructor
  · exact h.increasing
  · exact hlt
  · show insert event.sequence r.inFlight = numbers (r.events.take (r.next + 1))
    rw [take_next hget, h.inFlight]
    ext n
    simp only [Finset.mem_insert, mem_numbers, List.mem_append, List.mem_singleton]
    constructor
    · rintro (rfl | ⟨e, he, rfl⟩)
      · exact ⟨event, Or.inr rfl, rfl⟩
      · exact ⟨e, Or.inl he, rfl⟩
    · rintro ⟨e, he | rfl, rfl⟩
      · exact Or.inr ⟨e, he, rfl⟩
      · exact Or.inl rfl
  · exact hroom
  · show ∀ e ∈ r.events.take (r.next + 1),
      e.sequence ≤ if event.sequence > r.highestSent then event.sequence else r.highestSent
    rw [take_next hget]
    intro e he
    rcases List.mem_append.mp he with he | he
    · have := h.highest_ge e he
      split <;> omega
    · rw [List.mem_singleton.mp he]
      split <;> omega
  · exact h.last
  · exact h.last_lt

/-! ### Acknowledging -/

/-- The events on the way that an acknowledgement takes out of the list. -/
def reached (r : EventReplay) (sequence : Nat) : List RuntimeEvent :=
  (r.events.take r.next).takeWhile fun e => e.sequence ≤ sequence

theorem acknowledge_events (sequence : Nat) :
    r.reached sequence ++ (r.acknowledgeThrough sequence).events = r.events := by
  have hprefix : r.reached sequence <+: r.events :=
    (List.takeWhile_prefix _).trans (List.take_prefix _ _)
  show r.reached sequence ++ r.events.drop (countThrough sequence r.next r.events) = r.events
  rw [countThrough_eq]
  exact List.prefix_iff_eq_append.mp hprefix

theorem reached_le {sequence : Nat} : ∀ e ∈ r.reached sequence, e.sequence ≤ sequence := by
  intro e he
  have hall := List.all_eq_true.mp
    (List.all_takeWhile (p := fun e : RuntimeEvent => decide (e.sequence ≤ sequence))) e he
  exact of_decide_eq_true hall

/-- What is left on the way are the events above the number. -/
theorem acknowledge_take (h : Replaying r gone) (sequence : Nat) :
    (r.acknowledgeThrough sequence).events.take (r.acknowledgeThrough sequence).next =
      (r.events.take r.next).filter fun e => ¬ e.sequence ≤ sequence := by
  have hincreasing : Increasing (r.events.take r.next) :=
    (List.pairwise_append.mp h.increasing).2.1.sublist (List.take_sublist _ _)
  rw [← increasing_dropWhile hincreasing]
  show (r.events.drop (countThrough sequence r.next r.events)).take
    (r.next - countThrough sequence r.next r.events) = _
  rw [← List.drop_take, countThrough_eq]
  have hboth := List.takeWhile_append_dropWhile
    (p := fun e : RuntimeEvent => decide (e.sequence ≤ sequence)) (l := r.events.take r.next)
  calc (r.events.take r.next).drop (r.reached sequence).length
      = (r.reached sequence ++ (r.events.take r.next).dropWhile fun e => e.sequence ≤ sequence).drop
          (r.reached sequence).length := by rw [reached, hboth]
    _ = (r.events.take r.next).dropWhile fun e => e.sequence ≤ sequence := List.drop_left ..

theorem Replaying.acknowledge (h : Replaying r gone) (sequence : Nat) :
    Replaying (r.acknowledgeThrough sequence) (gone ++ r.reached sequence) := by
  have hsplit : gone ++ r.reached sequence ++ (r.acknowledgeThrough sequence).events =
      gone ++ r.events := by
    rw [List.append_assoc, acknowledge_events]
  constructor
  · rw [hsplit]
    exact h.increasing
  · have := h.next_le
    show r.next - countThrough sequence r.next r.events ≤
      (r.events.drop (countThrough sequence r.next r.events)).length
    rw [List.length_drop]
    omega
  · rw [acknowledge_take h]
    show r.inFlight.filter _ = _
    rw [h.inFlight]
    ext n
    simp only [Finset.mem_filter, mem_numbers, List.mem_filter, decide_eq_true_eq]
    constructor
    · rintro ⟨⟨e, he, rfl⟩, hn⟩
      exact ⟨e, ⟨he, hn⟩, rfl⟩
    · rintro ⟨e, ⟨he, hn⟩, rfl⟩
      exact ⟨⟨e, he, rfl⟩, hn⟩
  · exact Nat.le_trans (Nat.sub_le _ _) h.window
  · rw [acknowledge_take h]
    intro e he
    exact h.highest_ge e (List.mem_of_mem_filter he)
  · rw [hsplit]
    exact h.last
  · exact h.last_lt

/-- After the highest sent number is acknowledged nothing is on the way, and the first unsent event
    comes next. -/
theorem nextEvent_after_highest (h : Replaying r gone) :
    (r.acknowledgeThrough r.highestSent).nextEvent = r.events[r.next]? := by
  have hall : (r.events.take r.next).takeWhile (fun e => e.sequence ≤ r.highestSent) =
      r.events.take r.next :=
    List.takeWhile_eq_self_iff.mpr fun e he => decide_eq_true (h.highest_ge e he)
  have hcount : countThrough r.highestSent r.next r.events = r.next := by
    rw [countThrough_eq, hall, List.length_take, Nat.min_eq_left h.next_le]
  have hempty : (r.acknowledgeThrough r.highestSent).inFlight = ∅ := by
    rw [(h.acknowledge r.highestSent).inFlight, acknowledge_take h]
    have hnone : (r.events.take r.next).filter (fun e => ¬ e.sequence ≤ r.highestSent) = [] := by
      refine List.filter_eq_nil_iff.mpr ?_
      intro e he
      simpa using h.highest_ge e he
    rw [hnone]
    rfl
  have hevents : (r.acknowledgeThrough r.highestSent).events = r.events.drop r.next := by
    show r.events.drop (countThrough r.highestSent r.next r.events) = _
    rw [hcount]
  have hnext : (r.acknowledgeThrough r.highestSent).next = 0 := by
    show r.next - countThrough r.highestSent r.next r.events = 0
    rw [hcount, Nat.sub_self]
  unfold nextEvent
  rw [hempty, hevents, hnext, List.length_drop, List.getElem?_drop, Nat.add_zero]
  by_cases hend : 0 ≥ r.events.length - r.next ∨ (∅ : Finset Nat).card ≥ replayWindow
  · rw [if_pos hend]
    have hle : r.events.length ≤ r.next := by
      rcases hend with hend | hend
      · omega
      · exact absurd hend (by decide)
    exact (List.getElem?_eq_none hle).symm
  · rw [if_neg hend]

/-! ### Runs -/

/-- The events that one operation puts into the list. -/
theorem added_cons (op : Operation) (rest : List Operation) :
    r.added (op :: rest) = r.added [op] ++ (r.apply op).1.added rest := by
  simp [added]

/-- An operation hands out the next event, puts a new one behind the others, or takes acknowledged
    ones from the front. -/
theorem Replaying.apply (h : Replaying r gone) (op : Operation)
    (hfits : ∀ event, op = .add event → event.sequence < 2 ^ 64) :
    ∃ gone', Replaying (r.apply op).1 gone' ∧
      gone' ++ (r.apply op).1.events = gone ++ r.events ++ r.added [op] ∧
      gone' ++ (r.apply op).1.events.take (r.apply op).1.next =
        gone ++ r.events.take r.next ++ (r.apply op).2.toList := by
  cases op with
  | add event =>
      cases hadd : r.add event with
      | error e =>
          exact ⟨gone, by simpa [EventReplay.apply, added, hadd, Except.isOk, Except.toBool] using h⟩
      | ok r' =>
          obtain ⟨hevents, hnext, hkept⟩ := h.add (hfits event rfl) hadd
          refine ⟨gone, ?_⟩
          simp only [EventReplay.apply, added, hadd, Except.isOk, Except.toBool, hevents, hnext]
          refine ⟨hkept, by simp, ?_⟩
          rw [List.take_append_of_le_length h.next_le]
          simp
  | send =>
      cases hnext : r.nextEvent with
      | none => exact ⟨gone, by simpa [EventReplay.apply, added, hnext] using h⟩
      | some event =>
          refine ⟨gone, ?_⟩
          simp only [EventReplay.apply, added, hnext]
          refine ⟨h.send hnext, by simp [markSent], ?_⟩
          show gone ++ r.events.take (r.next + 1) = _
          rw [take_next (nextEvent_some hnext).2.2]
          simp
  | acknowledge sequence =>
      by_cases hcan : r.canAcknowledge sequence = true
      · refine ⟨gone ++ r.reached sequence, ?_⟩
        simp only [EventReplay.apply, added, if_pos hcan]
        refine ⟨h.acknowledge sequence, ?_, ?_⟩
        · rw [List.append_assoc, acknowledge_events]
          simp
        · have hboth := List.takeWhile_append_dropWhile
            (p := fun e : RuntimeEvent => decide (e.sequence ≤ sequence)) (l := r.events.take r.next)
          have hincreasing : Increasing (r.events.take r.next) :=
            (List.pairwise_append.mp h.increasing).2.1.sublist (List.take_sublist _ _)
          rw [acknowledge_take h, ← increasing_dropWhile hincreasing, List.append_assoc, reached, hboth]
          simp
      · exact ⟨gone, by simpa [EventReplay.apply, added, hcan] using h⟩

/-- What a run keeps: what was put into the list is what was handed out and what was not yet sent. -/
theorem Replaying.run : ∀ (ops : List Operation) {r : EventReplay} {gone : List RuntimeEvent},
    Replaying r gone → (∀ event, .add event ∈ ops → event.sequence < 2 ^ 64) →
    ∃ gone', Replaying (r.run ops).1 gone' ∧
      gone' ++ (r.run ops).1.events = gone ++ r.events ++ r.added ops ∧
      gone' ++ (r.run ops).1.events.take (r.run ops).1.next =
        gone ++ r.events.take r.next ++ (r.run ops).2 := by
  intro ops
  induction ops with
  | nil =>
      intro r gone h _
      exact ⟨gone, by simpa [EventReplay.run, added] using h⟩
  | cons op rest ih =>
      intro r gone h hfits
      obtain ⟨gone₁, h₁, hall₁, hsent₁⟩ :=
        h.apply op fun event hop => hfits event (hop ▸ List.mem_cons_self)
      obtain ⟨gone₂, h₂, hall₂, hsent₂⟩ :=
        ih h₁ fun event hmem => hfits event (List.mem_cons_of_mem _ hmem)
      refine ⟨gone₂, h₂, ?_, ?_⟩
      · show gone₂ ++ ((r.apply op).1.run rest).1.events = _
        rw [hall₂, hall₁, added_cons op rest]
        simp
      · show gone₂ ++ ((r.apply op).1.run rest).1.events.take ((r.apply op).1.run rest).1.next = _
        rw [hsent₂, hsent₁]
        simp [EventReplay.run]

/-- An event leaves the list by an acknowledgement at or above it. -/
theorem leaves_acknowledged {op : Operation} {e : RuntimeEvent} (he : e ∈ r.events)
    (hgone : e ∉ (r.apply op).1.events) :
    ∃ sequence, op = .acknowledge sequence ∧ sequence ≤ r.highestSent ∧ e.sequence ≤ sequence := by
  cases op with
  | add event =>
      exfalso
      cases hadd : r.add event with
      | error _ =>
          rw [EventReplay.apply, hadd] at hgone
          exact hgone he
      | ok r' =>
          rw [EventReplay.apply, hadd] at hgone
          unfold EventReplay.add at hadd
          split at hadd
          · cases hadd
          · split at hadd
            · cases hadd
            · cases hadd
              exact hgone (List.mem_append_left _ he)
  | send =>
      exfalso
      rw [EventReplay.apply] at hgone
      split at hgone
      · exact hgone he
      · exact hgone he
  | acknowledge sequence =>
      by_cases hcan : r.canAcknowledge sequence = true
      · refine ⟨sequence, rfl, of_decide_eq_true hcan, ?_⟩
        rw [EventReplay.apply, if_pos hcan] at hgone
        rw [← acknowledge_events (r := r) sequence] at he
        exact reached_le e ((List.mem_append.mp he).resolve_right hgone)
      · rw [EventReplay.apply, if_neg hcan] at hgone
        exact absurd he hgone

/-- **From a contiguous outbox and after any operations: the events on the way are the first `next`
    ones of the list and at most a window of them, every event is handed out once and in increasing
    order, it leaves the list only by an acknowledgement at or above it, when all that was sent is
    acknowledged the first unsent event comes next, and an event with the next number is taken and
    goes behind the others.** -/
theorem replay_in_order (events : List RuntimeEvent) (hfits : ∀ e ∈ events, e.sequence < 2 ^ 64)
    (hcontiguous : events.IsChain fun first second => second.sequence = first.sequence + 1) :
    ∃ r, newEventReplay events = .ok r ∧ ∀ ops : List Operation,
      (∀ event, .add event ∈ ops → event.sequence < 2 ^ 64) →
      (∀ n, n ∈ (r.run ops).1.inFlight ↔
        ∃ e ∈ (r.run ops).1.events.take (r.run ops).1.next, e.sequence = n) ∧
      (r.run ops).1.inFlight.card ≤ 64 ∧
      ((r.run ops).2.Pairwise fun first second => first.sequence < second.sequence) ∧
      (r.run ops).2 ++ (r.run ops).1.events.drop (r.run ops).1.next = events ++ r.added ops ∧
      (∀ op, ∀ e ∈ (r.run ops).1.events, e ∉ ((r.run ops).1.apply op).1.events →
        ∃ sequence, op = .acknowledge sequence ∧ sequence ≤ (r.run ops).1.highestSent ∧
          e.sequence ≤ sequence) ∧
      ((r.run ops).1.acknowledgeThrough (r.run ops).1.highestSent).nextEvent =
        (r.run ops).1.events[(r.run ops).1.next]? ∧
      ∀ event : RuntimeEvent, event.sequence ≠ 0 → event.sequence < 2 ^ 64 →
        (∀ last ∈ (events ++ r.added ops).getLast?, event.sequence = last.sequence + 1) →
        ∃ r', (r.run ops).1.add event = .ok r' ∧
          r'.events = (r.run ops).1.events ++ [event] := by
  obtain ⟨r, hnew, hevents, hnext, hstart⟩ := newEventReplay_ok hfits hcontiguous
  refine ⟨r, hnew, ?_⟩
  intro ops hadds
  obtain ⟨gone, h, hall, hsent⟩ := hstart.run ops hadds
  have hhanded : gone ++ (r.run ops).1.events.take (r.run ops).1.next = (r.run ops).2 := by
    rw [hsent, hnext]
    simp
  refine ⟨?_, ?_, ?_, ?_, ?_, ?_, ?_⟩
  · intro n
    rw [h.inFlight, mem_numbers]
  · rw [h.card]
    exact h.window
  · rw [← hhanded]
    refine h.increasing.sublist ?_
    exact List.Sublist.append (List.Sublist.refl _) (List.take_sublist _ _)
  · rw [← hhanded, List.append_assoc, List.take_append_drop, hall, hevents, List.nil_append]
  · intro op e he hgone
    exact leaves_acknowledged he hgone
  · exact nextEvent_after_highest h
  · intro event hnonzero hevent hlast
    refine ⟨_, h.add_next hnonzero hevent ?_, rfl⟩
    rw [hall, hevents, List.nil_append]
    exact hlast

/-- An event with nothing in it but its number. -/
def bareEvent (sequence : Nat) : RuntimeEvent where
  eventId := []
  bindingId := []
  sequence := sequence
  runtimeId := []
  sessionId := []
  taskId := []
  type := []
  observedAt := ""
  data := []

/-- Two events are sent, the first is acknowledged, and the third is added and sent. -/
def threeSent : List Operation :=
  [.send, .send, .acknowledge 7, .add (bareEvent 9), .send]

/-- The three events are handed out, the last two are on the way, and a fourth is taken. -/
theorem replay_in_order_three :
    ∃ r, newEventReplay [bareEvent 7, bareEvent 8] = .ok r ∧
      (r.run threeSent).2 = [bareEvent 7, bareEvent 8, bareEvent 9] ∧
      ((r.run threeSent).2.Pairwise fun first second => first.sequence < second.sequence) ∧
      (∀ n, n ∈ (r.run threeSent).1.inFlight ↔ n = 8 ∨ n = 9) ∧
      ∃ r', (r.run threeSent).1.add (bareEvent 10) = .ok r' ∧
        r'.events = [bareEvent 8, bareEvent 9, bareEvent 10] := by
  obtain ⟨r, hnew, hrun⟩ := replay_in_order [bareEvent 7, bareEvent 8] (by simp [bareEvent])
    (by simp [bareEvent])
  obtain ⟨hflight, -, hordered, -, -, -, hadd⟩ := hrun threeSent (by simp [threeSent, bareEvent])
  obtain rfl : r = { events := [bareEvent 7, bareEvent 8], lastSequence := 8 } := by
    cases hnew
    rfl
  refine ⟨_, hnew, rfl, hordered, ?_, ?_⟩
  · intro n
    rw [hflight n]
    show (∃ e ∈ [bareEvent 8, bareEvent 9], e.sequence = n) ↔ _
    simp [bareEvent, eq_comm]
  · obtain ⟨r', hadded, hlist⟩ := hadd (bareEvent 10) (by decide) (by decide) fun last hlast => by
      obtain rfl : bareEvent 9 = last := Option.some.inj hlast
      rfl
    exact ⟨r', hadded, hlist⟩

end EventReplay

end Arena402.Connector
