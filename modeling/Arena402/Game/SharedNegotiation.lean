/-
One negotiation that several coordinators drive at the same time.

A coordinator that lost its lease does not know it, so it goes on beside its successors.
Each of them reads the context of the turn, creates the task of it, waits for the result and
applies its derived action.  The context is not read in one transaction: every fetch sees the
tables as they are when it runs, and a turn of another coordinator may be committed between
two of them.
-/
import Arena402.Core.Polling
import Arena402.Game.FcfsRound

namespace Arena402.Game

open Py

namespace SharedNegotiation

/-! ### The fetches of a context -/

/-- What the second fetch reads of the participant whose turn it is. -/
structure OwnRow where
  cashAtomic : Int
  inventoryAvailable : Int
  configSnapshot : Config

/-- What the third fetch reads of the other one. -/
structure CounterpartyRow where
  agentId : String
  name : Option String
  failedNegotiations : Nat

/-- The row of the side whose turn it is. -/
def fetchParticipant (s : Pawnhouse) (n : NegotiationRow) : Option OwnRow := do
  let role ← n.nextRole
  let pairing ← s.pairings.get n.pairingId
  let p ← s.participants.get (Pawnhouse.turnOf n role).1
  let cash ← s.balances.get (Pawnhouse.turnOf n role).1
  let inventory ← s.holdings.get ((Pawnhouse.turnOf n role).1, pairing.goodId)
  return ⟨cash, inventory, p.configSnapshot⟩

/-- The row of the other side. -/
def fetchCounterparty (s : Pawnhouse) (n : NegotiationRow) : Option CounterpartyRow := do
  let role ← n.nextRole
  let p ← s.participants.get (Pawnhouse.turnOf n role).2
  return ⟨p.agentId, p.name, s.failedNegotiations (Pawnhouse.turnOf n role).2⟩

/-- The last fetches, and the context that the rows make up. -/
def assemble (s : Pawnhouse) (negotiationId : String) (n : NegotiationRow) (own : Option OwnRow)
    (counterparty : Option CounterpartyRow) (history : List NegotiationMessage) :
    Except String NegotiationContext :=
  match n.nextRole, s.pairings.get n.pairingId, s.rounds.get n.roundId with
  | some role, some pairing, some row =>
    match own, counterparty with
    | some own, some counterparty =>
      .ok
        { round := s.roundContext n.roundId row
          deadlineAt := n.actionDeadlineAt
          participantId := (Pawnhouse.turnOf n role).1
          negotiationId := negotiationId
          role := role
          good := pairing.goodId
          quantity := pairing.quantity
          limitPriceAtomic := Pawnhouse.ownLimit pairing role
          cashAtomic := own.cashAtomic
          inventoryAvailable := own.inventoryAvailable
          counterpartyAgentId := counterparty.agentId
          counterpartyName := (counterparty.name.filter (· ≠ "")).getD "Arena Agent"
          counterpartyFailedNegotiations := counterparty.failedNegotiations
          history := history
          latestQuote := Pawnhouse.latestQuote history role
          turnSequence := n.turnCount + 1
          remainingTurns := n.maxTurns - n.turnCount
          configSnapshot := own.configSnapshot }
    | _, _ => .error "TypeError"
  | _, _, none => .error "negotiation_round_missing"
  | _, _, _ => .error "TypeError"

/-! ### The coordinators -/

/-- Where a coordinator is in its loop, and what it has read on the way. -/
inductive Coordinator
  | idle
  | row (n : NegotiationRow)
  | participant (n : NegotiationRow) (own : Option OwnRow)
  | counterparty (n : NegotiationRow) (own : Option OwnRow) (other : Option CounterpartyRow)
  | messages (n : NegotiationRow) (own : Option OwnRow) (other : Option CounterpartyRow)
      (history : List NegotiationMessage)
  | context (c : NegotiationContext)
  | task (task : ArenaAgentTaskV1)

/-- What a call ends with. -/
inductive CallError
  | repository (message : String)
  | arena (e : ArenaError)

/-- The tables, and the coordinators by number. -/
structure Shared where
  house : Pawnhouse
  core : ArenaCore
  «at» : Nat → Coordinator := fun _ => .idle

/-- What a coordinator or the core does next. -/
inductive Move
  /-- The next fetch of a coordinator. -/
  | fetch (i : Nat)
  | create (i : Nat) (taskId : String) (now : UtcDateTime)
  | apply (i : Nat) (now : UtcDateTime)
  /-- A coordinator dies, or starts over. -/
  | stop (i : Nat)
  /-- Results come in, expire or are applied. -/
  | core (c : ArenaCore.CoreCall)

variable (T : TextTables) (H : Hashes) (intentHash : String → Nat → String) (nid : String)

namespace Shared

/-- The coordinator `i` goes on to `c`. -/
def go (t : Shared) (i : Nat) (c : Coordinator) : Shared :=
  { t with «at» := Function.update t.at i c }

/-- One fetch of `hosted_negotiation_context`. -/
def fetch (t : Shared) (i : Nat) : Option (Except CallError Shared) :=
  match t.at i with
  | .idle =>
    match t.house.negotiations.get nid with
    | some n => some (.ok (if n.status = .negotiating then t.go i (.row n) else t))
    | none => some (.ok t)
  | .row n => some (.ok (t.go i (.participant n (fetchParticipant t.house n))))
  | .participant n own => some (.ok (t.go i (.counterparty n own (fetchCounterparty t.house n))))
  | .counterparty n own other =>
    some (.ok (t.go i (.messages n own other (t.house.messagesOf nid))))
  | .messages n own other history =>
    match assemble t.house nid n own other history with
    | .ok c => some (.ok (t.go i (.context c)))
    | .error e => some (.error (.repository e))
  | _ => none

/-- `create_negotiate_task` with the view of the context. -/
def create (t : Shared) (i : Nat) (taskId : String) (now : UtcDateTime) :
    Option (Except CallError Shared) :=
  match t.at i with
  | .context c =>
    match negotiateView c with
    | .error e => some (.error (.repository e))
    | .ok view =>
      match t.core.factoryCreate T H taskId c.participantId view c.configSnapshot now with
      | .error e => some (.error (.arena e))
      | .ok (core, record) => some (.ok ({ t with core := core }.go i (.task record.task)))
  | _ => none

/-- `apply_hosted_negotiation_action` with the derived action, once the result is there. -/
def apply (t : Shared) (i : Nat) (now : UtcDateTime) : Option (Except CallError Shared) :=
  match t.at i with
  | .task task =>
    ((t.core.resultByTask.get task.taskId).bind t.core.results.get).map fun row =>
      match t.house.applyHostedNegotiationAction intentHash t.core nid row.result.resultId
          (FcfsRound.derivedAction task row.result) now with
      | .error e => .error (.repository e)
      | .ok house => .ok ({ t with house := house }.go i .idle)
  | _ => none

/-- One call, if it is the next one of its coordinator. -/
def call (t : Shared) : Move → Option (Except CallError Shared)
  | .fetch i => t.fetch nid i
  | .create i taskId now => t.create T H i taskId now
  | .apply i now => t.apply intentHash nid i now
  | .stop i => some (.ok (t.go i .idle))
  | .core (.createTask ..) => none
  | .core c => some (.ok { t with core := t.core.call T H c })

/-- A call that returns. -/
def step (t : Shared) (m : Move) : Option Shared :=
  (t.call T H intentHash nid m).bind (·.toOption)

end Shared

end SharedNegotiation

end Arena402.Game
