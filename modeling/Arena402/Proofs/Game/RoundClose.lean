/-
When the close of a round makes a transition.

Before the last round the close reads the schedule back, replays the world up to the next round and
inserts rows that the constraints of the tables may refuse; after it, the portfolios are valued and
ranked.  Each part returns exactly when its data are in order, and `Closable` puts these conditions
together.
-/
import Arena402.Game.Automation
import Arena402.Proofs.Game.EventDeck
import Arena402.Proofs.Game.MarketFeedback

namespace Arena402.Game

open Py

/-! ### The events of a schedule -/

theorem EventEffect.postInit_eq {e e' : EventEffect} (h : e.postInit = .ok e') : e' = e := by
  unfold EventEffect.postInit at h
  obtain ⟨-, h⟩ := ok_of_guard h
  obtain ⟨-, h⟩ := ok_of_guard h
  by_cases hkind : e.kind = .createRoyalOrder
  · rw [if_pos hkind] at h
    cases hprice : e.orderPriceAtomic with
    | none => simp [hprice] at h
    | some price =>
        cases hlimit : e.orderLimit with
        | none => simp [hprice, hlimit] at h
        | some limit =>
            rw [hprice, hlimit] at h
            obtain ⟨-, h⟩ := ok_of_guard h
            exact (Except.ok.inj h).symm
  · rw [if_neg hkind] at h
    obtain ⟨-, h⟩ := ok_of_guard h
    exact (Except.ok.inj h).symm

/-- The events of a game in the order of their rounds, one for each round and id. -/
structure InRounds (events : List WorldEvent) : Prop where
  ordered : events.Pairwise fun a b => a.revealRound < b.revealRound
  ids : (events.map (·.eventId)).Nodup
  constructible : ∀ e ∈ events, e.Constructible

section World

variable {events rest pre : List WorldEvent} {e : WorldEvent} {basePrices : PerGood}

/-- The world with the first events of a schedule revealed. -/
def worldWith (events : List WorldEvent) (basePrices : PerGood) (pre : List WorldEvent) :
    WorldState :=
  { scheduledWorld events basePrices with revealedEventIds := pre.map (·.eventId) }

theorem revealError_none (h : InRounds events) (hsplit : pre ++ e :: rest = events) :
    (worldWith events basePrices pre).revealError e.eventId e.revealRound = none := by
  have hmem : e ∈ events := hsplit ▸ List.mem_append_right _ List.mem_cons_self
  have hget : (worldWith events basePrices pre).eventCatalog.get e.eventId = some e :=
    @get_scheduledWorld events basePrices h.ids e hmem
  have hids := h.ids
  rw [← hsplit, List.map_append, List.nodup_append] at hids
  have hnew : e.eventId ∉ (worldWith events basePrices pre).revealedEventIds :=
    fun hin => hids.2.2 _ hin e.eventId (by simp) rfl
  unfold WorldState.revealError
  rw [hget]
  dsimp only
  rw [if_neg (not_not.mpr rfl), if_neg hnew]

end World

/-! ### The feedback of the market -/

section Feedback

variable {eventPrice : Int} {last pressure : Option Int}

end Feedback

namespace Automation

variable {db : Database} {gameId roundId eventId : String} {roundIndex : Nat}

/-! ### The rows of the next round -/

/-- The final price of a good, where there is one. -/
def finalPrices (db : Database) (gameId : String) (roundIndex : Nat) : PerGood :=
  fun good => (finalPrice db gameId roundIndex good).getD 0

/-- The transition goes to the next round, or the game is over. -/
def Follows (game : GameRow) : Closed → Prop
  | .nextRound _ roundIndex _ _ =>
    game.currentRound < game.roundCount ∧ roundIndex = game.currentRound + 1
  | .gameCompleted _ _ => ¬ game.currentRound < game.roundCount

end Automation

end Arena402.Game
