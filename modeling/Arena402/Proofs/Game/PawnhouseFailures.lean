/-
Calls that raise, and what they leave behind.

Every call but two checks before it writes.  `start` and `next_round` write the phase, the
counter and the revealed event, and then compute the snapshot of the round; when a price
leaves the money bounds there, the call raises and the game stays in `event_reveal` with the
event revealed already.  No call gets it out of there.
-/
import Arena402.Proofs.Game.EventPrices
import Arena402.Proofs.Game.PawnhouseRounds

namespace Arena402.Game.Aggregate

open Py

namespace PawnhouseGame

variable {digest : ByteArray → ByteArray} {g : PawnhouseGame}

/-! ### The prices of a round -/

/-- The prices of a round stay within the money bounds: those of the market under the events
    that are active in it, the final ones under all events so far. -/
structure RoundFits (events : List WorldEvent) (r : Int) : Prop where
  market : TableFits initialPrices .final initialPrices ((events.take r.toNat).flatMap (acting r))
  final : TableFits initialPrices .market initialPrices ((events.take r.toNat).flatMap (·.effects))

theorem initialPrices_nonneg (good : Good) : 0 ≤ initialPrices good := by
  cases good <;> decide

/-- The snapshot of the round that a call enters returns exactly when its prices fit. -/
theorem due_snapshot_iff (h : Consistent g) (hevents : ∀ e ∈ g.events, e.Constructible) {c : Call}
    {r : Int} {event : WorldEvent} (hdue : g.due c = some (r, event)) :
    (∃ snapshot, (g.world.withEvent event.eventId).snapshot r = .ok snapshot) ↔
      RoundFits g.events r := by
  obtain ⟨k, hround, rfl, hevent, -⟩ := due_cases h hdue
  have htake : ((k : Int) + 1).toNat = k + 1 := by omega
  have hsub : ∀ e ∈ g.events.take (k + 1), e ∈ g.events := fun e he => List.mem_of_mem_take he
  have hids : (g.world.withEvent event.eventId).revealedEventIds
      = (g.events.take (k + 1)).map (·.eventId) := by
    show g.world.revealedEventIds ++ [event.eventId] = _
    rw [h.revealed, hround, Int.toNat_natCast, List.take_add_one, hevent]
    simp
  have hreveal : ∀ e ∈ g.events.take (k + 1), e.revealRound ≤ (k : Int) + 1 := by
    intro e he
    obtain ⟨j, hj, hget⟩ := List.mem_take_iff_getElem.mp he
    have hat : g.events[j]? = some e := by
      rw [List.getElem?_eq_getElem (by omega), hget]
    rw [h.scheduled.rounds j e hat]
    omega
  have hprices : (g.world.withEvent event.eventId).basePrices = initialPrices := h.scheduled.prices
  have hiff := WorldState.snapshot_returns_iff (w := g.world.withEvent event.eventId)
    (by omega : (0 : Int) ≤ k + 1) (by rw [hprices]; exact initialPrices_nonneg) hids
    (fun e he => by
      show g.world.eventCatalog.get e.eventId = some e
      rw [h.scheduled.catalog]
      exact catalog_get h.scheduled.distinct (hsub e he))
    hreveal (fun e he => hevents e (hsub e he))
  rw [hiff]
  unfold WorldState.board
  rw [hprices]
  constructor
  · rintro ⟨hmarket, hfinal⟩
    refine ⟨?_, ?_⟩
    · rw [htake]
      exact hmarket
    · rw [htake]
      exact hfinal
  · rintro ⟨hmarket, hfinal⟩
    rw [htake] at hmarket hfinal
    exact ⟨hmarket, hfinal⟩

/-! ### Failed calls -/

/-- A call that raises is undone exactly when it enters no round or the prices of the round
    it enters fit. -/
theorem atomic_iff (h : Consistent g) (hevents : ∀ e ∈ g.events, e.Constructible) (c : Call) :
    (perform digest c).Atomic g ↔
      ∀ r event, g.due c = some (r, event) → RoundFits g.events r := by
  cases hdue : g.due c with
  | none =>
      constructor
      · intro _ r event hnone
        cases hnone
      · intro _ e t hraise
        rcases perform_not_due digest h hdue with ⟨e', hrun⟩ | ⟨g', hrun, -⟩
        · rw [hrun] at hraise
          cases hraise
          rfl
        · rw [hrun] at hraise
          cases hraise
  | some found =>
      obtain ⟨r, event⟩ := found
      have hfits := due_snapshot_iff h hevents hdue
      have hrun : (perform digest c).run g = _ := perform_due h hdue
      constructor
      · intro hatomic r' event' hsame
        cases hsame
        rw [← hfits]
        cases hsnapshot : (g.world.withEvent event.eventId).snapshot r with
        | ok snapshot => exact ⟨snapshot, rfl⟩
        | error e =>
            rw [hsnapshot] at hrun
            have hback := congrArg currentRound (hatomic e _ hrun)
            obtain ⟨k, hround, rfl, -, -⟩ := due_cases h hdue
            have hentered : (k : Int) + 1 = g.currentRound := hback
            omega
      · intro hall e t hraise
        obtain ⟨snapshot, hsnapshot⟩ := hfits.mpr (hall r event rfl)
        rw [hrun, hsnapshot] at hraise
        cases hraise

/-- A game whose reveal failed raises on every call and never changes again. -/
theorem stuck_after_failed_reveal (h : Consistent g) (hphase : g.phase = .running)
    (hreveal : g.roundPhase = some .eventReveal) (c : Call) :
    ∃ e, (perform digest c).run g = .error e g := by
  have hdue : g.due c = none := by
    cases c <;> simp [due, hphase, hreveal]
  rcases perform_not_due digest h hdue with hraise | ⟨g', -, hchange⟩
  · exact hraise
  · exfalso
    cases hchange with
    | joined hopen _ _ _ => simp [hphase] at hopen
    | configured hsetup _ | locked hsetup _ _ => simp [hphase] at hsetup
    | moved _ hp hq =>
        rw [hreveal] at hp
        cases hp
        cases hq
    | valued _ hp _ =>
        rw [hreveal] at hp
        cases hp
    | ranked hvalued => simp [hphase] at hvalued

/-- **When a failed call is undone.**  In every state that a game can reach, a call that raises
    leaves the game as it was exactly when it enters no round, or the prices of the round it
    enters stay within the money bounds. -/
theorem failed_call_undone_iff {hexdigest : ByteArray → String} {gameId : String}
    {config : GameConfig} {events : List WorldEvent} {eventSeed : String}
    (hconfig : config.postInit = .ok config) (hevents : ∀ e ∈ events, e.Constructible)
    (hnew : new hexdigest gameId config events eventSeed = .ok g) (calls : List Call) (c : Call) :
    (perform digest c).Atomic (run digest g calls) ↔
      ∀ r event, (run digest g calls).due c = some (r, event) → RoundFits events r := by
  obtain ⟨hstart, hsame, hschedule, -⟩ := consistent_new hconfig hnew
  have hkept : (run digest g calls).events = events := by
    refine run_keeps (P := fun g => g.events = events) ?_ calls hstart hschedule
    intro g g' _ hstep hkept
    rw [hstep.kept.2]
    exact hkept
  have hc : Consistent (run digest g calls) := consistent_run calls hstart
  rw [atomic_iff hc (by rw [hkept]; exact hevents) c, hkept]

/-- **A failed reveal is final.**  Once a call has raised and changed the game, it stays in
    `event_reveal`: whatever is called later, every call raises and none changes it again. -/
theorem failed_reveal_is_final {hexdigest : ByteArray → String} {gameId : String}
    {config : GameConfig} {events : List WorldEvent} {eventSeed e : String} {t : PawnhouseGame}
    (hconfig : config.postInit = .ok config)
    (hnew : new hexdigest gameId config events eventSeed = .ok g) (calls : List Call) (c : Call)
    (hraise : (perform digest c).run (run digest g calls) = .error e t)
    (hchanged : t ≠ run digest g calls) :
    t.phase = .running ∧ t.roundPhase = some .eventReveal ∧ ∀ later d,
      run digest t later = t ∧ ∃ e', (perform digest d).run t = .error e' t := by
  have hc : Consistent (run digest g calls) := consistent_run calls (consistent_new hconfig hnew).1
  have hafter : (perform digest c).after (run digest g calls) = t := by
    unfold Method.after
    rw [hraise]
  have ht : Consistent t := by
    rw [← hafter]
    exact consistent_step hc (step_perform digest hc c)
  have hreveal : t.phase = .running ∧ t.roundPhase = some .eventReveal := by
    cases hdue : (run digest g calls).due c with
    | none =>
        rcases perform_not_due digest hc hdue with ⟨e', hrun⟩ | ⟨g', hrun, -⟩
        · rw [hrun] at hraise
          cases hraise
          exact absurd rfl hchanged
        · rw [hrun] at hraise
          cases hraise
    | some found =>
        obtain ⟨r, event⟩ := found
        have hrun : (perform digest c).run (run digest g calls) = _ := perform_due hc hdue
        rw [hraise] at hrun
        cases hsnapshot : ((run digest g calls).world.withEvent event.eventId).snapshot r with
        | ok snapshot =>
            rw [hsnapshot] at hrun
            cases hrun
        | error e' =>
            rw [hsnapshot] at hrun
            cases hrun
            exact ⟨rfl, rfl⟩
  have hstuck : ∀ d, ∃ e', (perform digest d).run t = .error e' t :=
    stuck_after_failed_reveal ht hreveal.1 hreveal.2
  refine ⟨hreveal.1, hreveal.2, fun later d => ⟨?_, hstuck d⟩⟩
  induction later with
  | nil => rfl
  | cons d' rest ih =>
      have hstay : (perform digest d').after t = t := by
        obtain ⟨e', hrun⟩ := hstuck d'
        unfold Method.after
        rw [hrun]
      show run digest ((perform digest d').after t) rest = t
      rw [hstay]
      exact ih

/-! ### A price change without bound -/

/-- A rumor that raises the price of gems by two hundred times. -/
def wildRumor : WorldEvent :=
  { WorldState.rumor "rumor-one" 1 with
    effects := [{ kind := .priceMultiplyBps, good := .gems, target := .both,
                  basisPoints := some 2000000 }] }

theorem wildRumor_constructible : ∀ e ∈ [wildRumor], e.Constructible := by
  intro e he
  obtain rfl := List.mem_singleton.mp he
  refine ⟨rfl, ?_⟩
  intro effect heffect
  obtain rfl := List.mem_singleton.mp heffect
  rfl

/-- A game of one round with the wild rumor. -/
def wildGame : PawnhouseGame :=
  { oneRound with
    events := [wildRumor]
    world := { eventCatalog := [("rumor-one", wildRumor)] } }

theorem wildGame_new :
    new (fun _ => "") "one-round" { roundCount := 1, portfolioMode := .balancedAuto } [wildRumor] "seed"
      = .ok wildGame := rfl

/-- Two participants with locked portfolios. -/
def ready : List Call :=
  [.join "user-one" "agent-one", .join "user-two" "agent-two", .lockPortfolios]

theorem early_start_undone :
    (perform (fun _ => .empty) .start).Atomic (run (fun _ => .empty) wildGame []) := by
  refine (failed_call_undone_iff rfl wildRumor_constructible wildGame_new [] .start).mpr ?_
  intro r event hdue
  cases hdue

/-- A `start` that raises has started the game. -/
theorem failed_start_not_undone :
    ¬ ∀ (hexdigest : ByteArray → String) (digest : ByteArray → ByteArray) (gameId : String)
      (config : GameConfig) (events : List WorldEvent) (eventSeed : String) (g : PawnhouseGame)
      (calls : List Call) (c : Call), config.postInit = .ok config →
      (∀ e ∈ events, e.Constructible) → new hexdigest gameId config events eventSeed = .ok g →
      (perform digest c).Atomic (run digest g calls) := by
  intro h
  have hundone := h (fun _ => "") (fun _ => .empty) "one-round" _ [wildRumor] "seed" wildGame ready
    .start rfl wildRumor_constructible wildGame_new
  have hbefore : (run (fun _ => .empty) wildGame ready).phase = .portfolioLocked := by
    decide +kernel
  have hafter : ((perform (fun _ => .empty) .start).after
      (run (fun _ => .empty) wildGame ready)).phase = .running := by
    decide +kernel
  have hraised : ((perform (fun _ => .empty) .start).result
      (run (fun _ => .empty) wildGame ready)).isOk = false := by
    decide +kernel
  unfold Method.after at hafter
  unfold Method.result at hraised
  cases hrun : (perform (fun _ => .empty) .start).run (run (fun _ => .empty) wildGame ready) with
  | ok a t =>
      rw [hrun] at hraised
      cases hraised
  | error e t =>
      rw [hrun] at hafter
      rw [hundone e t hrun, hbefore] at hafter
      cases hafter

theorem failed_reveal_is_final_wild : ∃ e t,
    (perform (fun _ => .empty) .start).run (run (fun _ => .empty) wildGame ready) = .error e t ∧
      ∀ later, run (fun _ => .empty) t later = t := by
  have hstart : ((perform (fun _ => .empty) .start).result
      (run (fun _ => .empty) wildGame ready)).isOk = false ∧
        ((perform (fun _ => .empty) .start).after
          (run (fun _ => .empty) wildGame ready)).phase = .running ∧
        (run (fun _ => .empty) wildGame ready).phase = .portfolioLocked := by
    decide +kernel
  obtain ⟨hraised, hafter, hbefore⟩ := hstart
  unfold Method.after at hafter
  unfold Method.result at hraised
  cases hrun : (perform (fun _ => .empty) .start).run (run (fun _ => .empty) wildGame ready) with
  | ok a t =>
      rw [hrun] at hraised
      cases hraised
  | error e t =>
      rw [hrun] at hafter
      have hchanged : t ≠ run (fun _ => .empty) wildGame ready := by
        rintro rfl
        rw [hbefore] at hafter
        cases hafter
      exact ⟨e, t, rfl, fun later =>
        ((failed_reveal_is_final rfl wildGame_new ready .start hrun hchanged).2.2 later .start).1⟩

end PawnhouseGame

end Arena402.Game.Aggregate
