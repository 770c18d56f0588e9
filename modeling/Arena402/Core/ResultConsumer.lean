/-
Applying durable results.

The consumer reads the pending results once and then applies them one by one.  Each
application is a transaction of its own, and other processes, other consumers among them,
make their calls in between.
-/
import Arena402.Core.Polling

namespace Arena402

open Py

namespace ArenaCore

variable (T : TextTables) (H : Hashes)

/-- `pending_results`: by the time they were received and by id. -/
def pendingResults (s : ArenaCore) (limit : Nat) : List ArenaResultRecord :=
  let records := s.results.values.filter fun record => record.applyStatus = .pending
  (records.insertionSort fun a b => a.resultReceivedAt < b.resultReceivedAt ||
    (a.resultReceivedAt = b.resultReceivedAt && a.result.resultId ≤ b.result.resultId)).take limit

/-- The loop of `consume_pending`: before each `consume` the other processes make some calls, and
    the clock is read anew. -/
def consumeLoop (s : ArenaCore) : List (ArenaResultRecord × List CoreCall × UtcDateTime) →
    ArenaCore × Except ArenaError (List AppliedArenaAction)
  | [] => (s, .ok [])
  | (record, others, now) :: rest =>
    let s := s.calls T H others
    match s.applyResult record.result.resultId now with
    | .error e => (s, .error e)
    | .ok (s, item) =>
      let (s, applied) := s.consumeLoop rest
      (s, applied.map (item.toList ++ ·))

/-- `ArenaResultConsumer.consume_pending`.  A consumer that is stopped early has fewer turns than
    there are pending results. -/
def consumePending (s : ArenaCore) (limit : Nat) (turns : List (List CoreCall × UtcDateTime)) :
    ArenaCore × Except ArenaError (List AppliedArenaAction) :=
  s.consumeLoop T H ((s.pendingResults limit).zip turns)

/-- What a process does with the repository. -/
inductive CoreOp
  | call (c : CoreCall)
  | consumePending (limit : Nat) (turns : List (List CoreCall × UtcDateTime))

/-- One operation on the core. -/
def operate (s : ArenaCore) : CoreOp → ArenaCore
  | .call c => s.call T H c
  | .consumePending limit turns => (s.consumePending T H limit turns).1

/-- The tables after a sequence of operations. -/
def operates (s : ArenaCore) (l : List CoreOp) : ArenaCore :=
  l.foldl (operate T H) s

end ArenaCore

end Arena402
