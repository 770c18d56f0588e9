/-
Snapshots of earlier rounds.

A snapshot of round `r` reads the events whose reveal round is at most `r`, so a later reveal
changes nothing in it but one field: the list of revealed events is copied whole.  A
published snapshot is therefore reproduced exactly only until the next event is revealed.
-/
import Arena402.Game.Events
import Arena402.Lib.Raise

namespace Arena402.Game

open Py

namespace WorldState

variable {w w' : WorldState} {eventId : String} {roundIndex : Int}

/-! ### Revealing -/

/-- The world with one more event revealed. -/
def withEvent (w : WorldState) (eventId : String) : WorldState :=
  { w with revealedEventIds := w.revealedEventIds ++ [eventId] }

/-- What `reveal` raises before it writes. -/
def revealError (w : WorldState) (eventId : String) (roundIndex : Int) : Option String :=
  match w.eventCatalog.get eventId with
  | none => some s!"unknown event: {eventId}"
  | some event =>
    if event.revealRound ≠ roundIndex then
      some "event cannot be revealed outside its scheduled round"
    else if eventId ∈ w.revealedEventIds then some "event was already revealed"
    else none

/-- `reveal` raises without a trace, or it writes the event down and computes the snapshot. -/
theorem reveal_run (w : WorldState) (eventId : String) (roundIndex : Int) :
    (reveal eventId roundIndex).run w =
      match w.revealError eventId roundIndex with
      | some e => .error e w
      | none =>
        match (w.withEvent eventId).snapshot roundIndex with
        | .ok snapshot => .ok snapshot (w.withEvent eventId)
        | .error e => .error e (w.withEvent eventId) := by
  unfold reveal revealError
  rw [Method.run_get_bind]
  cases w.eventCatalog.get eventId with
  | none => rfl
  | some event =>
      dsimp only
      by_cases hround : event.revealRound ≠ roundIndex
      · rw [if_pos hround, if_pos hround]
        rfl
      · rw [if_neg hround, if_neg hround]
        by_cases hmem : eventId ∈ w.revealedEventIds
        · rw [if_pos hmem, if_pos hmem]
          rfl
        · rw [if_neg hmem, if_neg hmem, Method.run_modify_bind, Method.run_get_bind,
            Method.run_check]
          dsimp only [withEvent]
          cases WorldState.snapshot _ roundIndex with
          | ok snapshot => rfl
          | error e => rfl

/-- A reveal that returned. -/
theorem reveal_ok {snapshot : WorldSnapshot}
    (h : (reveal eventId roundIndex).run w = .ok snapshot w') :
    ∃ event, w.eventCatalog.get eventId = some event ∧ event.revealRound = roundIndex ∧
      eventId ∉ w.revealedEventIds ∧ w' = w.withEvent eventId ∧
      w'.snapshot roundIndex = .ok snapshot := by
  rw [reveal_run] at h
  unfold revealError at h
  cases hget : w.eventCatalog.get eventId with
  | none =>
      rw [hget] at h
      cases h
  | some event =>
      rw [hget] at h
      dsimp only at h
      by_cases hround : event.revealRound ≠ roundIndex
      · rw [if_pos hround] at h
        cases h
      · rw [if_neg hround] at h
        by_cases hmem : eventId ∈ w.revealedEventIds
        · rw [if_pos hmem] at h
          cases h
        · rw [if_neg hmem] at h
          dsimp only at h
          cases hsnap : (w.withEvent eventId).snapshot roundIndex with
          | error e =>
              rw [hsnap] at h
              cases h
          | ok found =>
              rw [hsnap] at h
              cases h
              exact ⟨event, rfl, not_not.mp hround, hmem, rfl, hsnap⟩

/-! ### A later event -/

/-- The fields of a snapshot that are computed from the events of its rounds. -/
def computed (w : WorldState) (roundIndex : Int) : Except String Board := do
  let events ← w.revealedEventIds.mapM w.event
  (events.filter fun e => e.revealRound ≤ roundIndex).foldlM (applyEvent w.basePrices roundIndex)
    w.board

/-- The snapshot that shows a computed board. -/
def shown (w : WorldState) (roundIndex : Int) (b : Board) : WorldSnapshot where
  roundIndex := roundIndex
  marketPrices := b.market
  finalPrices := b.final
  supplyIndexBps := b.supply
  bubblePremiumBps := b.bubble
  royalOrders := b.orders
  revealedEventIds := w.revealedEventIds

theorem snapshot_eq (w : WorldState) (h : ¬ roundIndex < 0) :
    w.snapshot roundIndex = (w.computed roundIndex).map (w.shown roundIndex) := by
  unfold snapshot computed
  rw [if_neg h]
  cases w.revealedEventIds.mapM w.event with
  | error e => rfl
  | ok events =>
      show (List.foldlM _ _ _ >>= _) = Except.map _ (List.foldlM _ _ _)
      cases List.foldlM (applyEvent w.basePrices roundIndex) w.board
        (events.filter fun e => e.revealRound ≤ roundIndex) with
      | error e => rfl
      | ok b => rfl

/-- An event of a later round is not read. -/
theorem computed_withEvent {event : WorldEvent} (hget : w.eventCatalog.get eventId = some event)
    (hlater : roundIndex < event.revealRound) :
    (w.withEvent eventId).computed roundIndex = w.computed roundIndex := by
  have hevent : w.event eventId = .ok event := by
    unfold WorldState.event
    rw [hget]
  unfold computed
  show ((w.revealedEventIds ++ [eventId]).mapM w.event >>= _) = _
  rw [List.mapM_append, List.mapM_cons, hevent]
  cases w.revealedEventIds.mapM w.event with
  | error e => rfl
  | ok events =>
      show List.foldlM _ _ ((events ++ [event]).filter _) = List.foldlM _ _ (events.filter _)
      rw [List.filter_append]
      have hnone : [event].filter (fun e => decide (e.revealRound ≤ roundIndex)) = [] := by
        simp [not_le.mpr hlater]
      rw [hnone, List.append_nil]
      rfl

/-! ### Rounds in order -/

/-- A world whose events were revealed in the rounds `1`, `2`, .. in turn, with the snapshots
    that the reveals returned. -/
inductive RevealedInOrder : WorldState → List WorldSnapshot → WorldState → Prop
  | start {w : WorldState} (h : w.revealedEventIds = []) : RevealedInOrder w [] w
  | next {w w' w'' : WorldState} {published : List WorldSnapshot} {eventId : String}
      {snapshot : WorldSnapshot} (hbefore : RevealedInOrder w published w')
      (hreveal : (reveal eventId (published.length + 1)).run w' = .ok snapshot w'') :
      RevealedInOrder w (published ++ [snapshot]) w''

/-- Every published snapshot shows the board that is computed for its round now, and the
    events revealed by then. -/
structure Reproduced (w : WorldState) (published : List WorldSnapshot) : Prop where
  count : w.revealedEventIds.length = published.length
  again : ∀ (r : Nat) (snapshot : WorldSnapshot), published[r]? = some snapshot →
    ∃ b, w.computed (r + 1) = .ok b ∧ snapshot =
      { w.shown (r + 1) b with revealedEventIds := w.revealedEventIds.take (r + 1) }

/-- An element of a list with one more element is one of the old ones or the new one. -/
theorem getElem?_snoc {α : Type} {l : List α} {x y : α} {r : Nat} (h : (l ++ [x])[r]? = some y) :
    (r < l.length ∧ l[r]? = some y) ∨ (r = l.length ∧ y = x) := by
  rw [List.getElem?_append] at h
  split at h
  · rename_i hlt
    exact Or.inl ⟨hlt, h⟩
  · rename_i hge
    rw [List.getElem?_singleton] at h
    split at h
    · rename_i hzero
      exact Or.inr ⟨by omega, (Option.some.inj h).symm⟩
    · cases h

theorem snapshot_ok {snapshot : WorldSnapshot} (hround : ¬ roundIndex < 0)
    (h : w.snapshot roundIndex = .ok snapshot) :
    ∃ b, w.computed roundIndex = .ok b ∧ snapshot = w.shown roundIndex b := by
  rw [snapshot_eq w hround] at h
  cases hcomputed : w.computed roundIndex with
  | error e =>
      rw [hcomputed] at h
      cases h
  | ok b =>
      rw [hcomputed] at h
      exact ⟨b, rfl, (Except.ok.inj h).symm⟩

theorem reproduced {w₀ : WorldState} {published : List WorldSnapshot}
    (h : RevealedInOrder w₀ published w) : Reproduced w published := by
  induction h with
  | start h =>
      refine ⟨by rw [h]; rfl, ?_⟩
      intro r snapshot hr
      simp at hr
  | @next w w' published eventId snapshot hbefore hreveal ih =>
      obtain ⟨event, hget, hround, -, rfl, hsnapshot⟩ := reveal_ok hreveal
      obtain ⟨b, hb, rfl⟩ := snapshot_ok (by omega) hsnapshot
      have hids : (w.withEvent eventId).revealedEventIds = w.revealedEventIds ++ [eventId] := rfl
      refine ⟨?_, ?_⟩
      · rw [hids, List.length_append, List.length_append, ih.count]
        rfl
      · intro r found hfound
        rcases getElem?_snoc hfound with ⟨hlt, hold⟩ | ⟨rfl, rfl⟩
        · -- an earlier round does not read the new event
          obtain ⟨b', hb', rfl⟩ := ih.again r found hold
          refine ⟨b', ?_, ?_⟩
          · rw [computed_withEvent hget (by omega)]
            exact hb'
          · rw [hids, List.take_append_of_le_length (by rw [ih.count]; omega)]
            rfl
        · refine ⟨b, hb, ?_⟩
          rw [List.take_of_length_le (by rw [hids]; simp [ih.count])]
          rfl

/-- **A published snapshot is reproduced until the next event is revealed.**  Computed again
    later, the snapshot of a round agrees with the published one in all fields but the list of
    revealed events, which has grown; so it equals it exactly when no later event was
    revealed. -/
theorem snapshot_reproducible_iff {w₀ : WorldState} {published : List WorldSnapshot}
    (h : RevealedInOrder w₀ published w) (r : Nat) (snapshot : WorldSnapshot)
    (hr : published[r]? = some snapshot) :
    w.snapshot (r + 1) = .ok { snapshot with revealedEventIds := w.revealedEventIds } ∧
      (w.snapshot (r + 1) = .ok snapshot ↔ r + 1 = published.length) := by
  have hrep := reproduced h
  obtain ⟨b, hb, rfl⟩ := hrep.again r snapshot hr
  have hlt : r < published.length := by
    by_contra hge
    rw [List.getElem?_eq_none (by omega)] at hr
    cases hr
  have hnow : w.snapshot (r + 1) = .ok (w.shown (r + 1) b) := by
    rw [snapshot_eq w (by omega), hb]
    rfl
  refine ⟨hnow, ?_⟩
  rw [hnow]
  constructor
  · intro heq
    have hids := congrArg WorldSnapshot.revealedEventIds (Except.ok.inj heq)
    have hlength := congrArg List.length hids
    simp only [shown, List.length_take, hrep.count] at hlength
    omega
  · intro hlast
    rw [List.take_of_length_le (by rw [hrep.count]; omega)]
    rfl

/-! ### Two rumors -/

/-- A rumor raises the price of gems by a tenth from its round on. -/
def rumor (eventId : String) (revealRound : Int) : WorldEvent where
  eventId := eventId
  displayName := "Rumor"
  narrative := ""
  revealRound := revealRound
  durationRounds := none
  effects := [{ kind := .priceMultiplyBps, good := .gems, target := .both, basisPoints := some 1000 }]

def rumors : WorldState where
  eventCatalog := [("rumor-one", rumor "rumor-one" 1), ("rumor-two", rumor "rumor-two" 2)]

/-- What a reveal in `rumors` returns. -/
def publishedAt (w : WorldState) (roundIndex : Int) : WorldSnapshot :=
  match w.snapshot roundIndex with
  | .ok snapshot => snapshot
  | .error _ => w.shown roundIndex w.board

theorem rumors_in_order : RevealedInOrder rumors
    [publishedAt (rumors.withEvent "rumor-one") 1,
      publishedAt ((rumors.withEvent "rumor-one").withEvent "rumor-two") 2]
    ((rumors.withEvent "rumor-one").withEvent "rumor-two") := by
  have hfirst : (reveal "rumor-one" 1).run rumors
      = .ok (publishedAt (rumors.withEvent "rumor-one") 1) (rumors.withEvent "rumor-one") := rfl
  have hsecond : (reveal "rumor-two" 2).run (rumors.withEvent "rumor-one")
      = .ok (publishedAt ((rumors.withEvent "rumor-one").withEvent "rumor-two") 2)
        ((rumors.withEvent "rumor-one").withEvent "rumor-two") := rfl
  exact .next (.next (.start rfl) hfirst) hsecond

theorem rumors_second_reproduced :
    ((rumors.withEvent "rumor-one").withEvent "rumor-two").snapshot 2
      = .ok (publishedAt ((rumors.withEvent "rumor-one").withEvent "rumor-two") 2) :=
  (snapshot_reproducible_iff rumors_in_order 1 _ rfl).2.mpr rfl

/-- The snapshot of the first round changes when the second event is revealed. -/
theorem published_snapshot_changes :
    ¬ ∀ (w₀ w : WorldState) (published : List WorldSnapshot), RevealedInOrder w₀ published w →
      ∀ (r : Nat) (snapshot : WorldSnapshot), published[r]? = some snapshot →
        w.snapshot (r + 1) = .ok snapshot := by
  intro h
  have hfirst := h _ _ _ rumors_in_order 0 _ rfl
  have hids : (((rumors.withEvent "rumor-one").withEvent "rumor-two").snapshot 1).map
      (·.revealedEventIds) = .ok ["rumor-one", "rumor-two"] := by decide
  have hpublished : (publishedAt (rumors.withEvent "rumor-one") 1).revealedEventIds
      = ["rumor-one"] := by decide
  rw [show ((0 : Nat) : Int) + 1 = 1 from rfl] at hfirst
  rw [hfirst] at hids
  have hnow : (publishedAt (rumors.withEvent "rumor-one") 1).revealedEventIds
      = ["rumor-one", "rumor-two"] := Except.ok.inj hids
  rw [hpublished] at hnow
  cases hnow

end WorldState

end Arena402.Game
