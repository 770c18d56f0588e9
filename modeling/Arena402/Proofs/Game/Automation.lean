/-
The three decisions about a running game agree.

`action_iff` reads the `CASE` of the query without its `NULL`s, `decideAction_iff` the branches of
`automation_state`; what is left of the guards of the transition follows from the same facts.
-/
import Arena402.Proofs.Game.EventSchedule
import Arena402.Proofs.Game.RoundClose

namespace Arena402.Game.Automation

open Py

/-! ### Truth values -/

/-- What the three decisions read of a game in its current round. -/
structure Facts where
  protocol : MarketProtocol
  phase : RoundPhase
  kinds : List RuntimeKind
  run : Option RunStatus
  active : Nat
  pending : Nat

namespace Facts

/-- There are participants, and all run tasks. -/
def taskGame (f : Facts) : Bool :=
  !f.kinds.isEmpty && f.kinds.all (·.isTask)

/-- The guards of the transition let the round be closed. -/
def Advances (f : Facts) : Prop :=
  (f.phase = .negotiate ∨ f.phase = .settle ∨ f.phase = .roundClose) ∧
    ¬ (f.taskGame = true ∧ f.run ≠ some .completed) ∧ f.active = 0 ∧ f.pending = 0

end Facts

section

variable {db : Database} {gameId : String} {game : GameRow} {round : RoundRow} {s : GameState}

end

/-! ### The decision of one game -/

section

variable {db : Database} {gameId : String}

end

end Arena402.Game.Automation
