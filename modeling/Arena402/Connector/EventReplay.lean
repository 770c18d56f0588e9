/-
The replay of the outbox over a connection.

The events are sent in the order of their sequence numbers, with at most `replayWindow` of them on
the way at any time.  The Gateway acknowledges all events up to a sequence number, and these leave
the list.
-/
import Arena402.Connector.Events

namespace Arena402.Connector

/-- `replayWindow` -/
def replayWindow := 64

/-- `sequence + 1` in `uint64`. -/
def nextSequence (sequence : Nat) : Nat :=
  (sequence + 1) % 2 ^ 64

/-- `eventReplay`; the map `inFlight` is a set of sequence numbers. -/
structure EventReplay where
  events : List RuntimeEvent
  next : Nat := 0
  inFlight : Finset Nat := ∅
  highestSent : Nat := 0
  lastSequence : Nat := 0

/-- The first two events whose sequence numbers do not follow each other. -/
def sequenceGap : List RuntimeEvent → Option (Nat × Nat)
  | first :: second :: rest =>
    if second.sequence ≠ nextSequence first.sequence then some (first.sequence, second.sequence)
    else sequenceGap (second :: rest)
  | _ => none

/-- `newEventReplay` -/
def newEventReplay (events : List RuntimeEvent) : Except String EventReplay :=
  match sequenceGap events with
  | some (before, after) =>
    .error ("event outbox has a sequence gap between " ++ toString before ++ " and " ++ toString after)
  | none => .ok { events, lastSequence := (events.getLast?.map (·.sequence)).getD 0 }

namespace EventReplay

variable (r : EventReplay)

/-- `Add` -/
def add (event : RuntimeEvent) : Except String EventReplay :=
  if event.sequence = 0 then .error "replay event sequence is required"
  else if r.lastSequence ≠ 0 ∧ event.sequence ≠ nextSequence r.lastSequence then
    .error ("replay event sequence " ++ toString event.sequence ++ " does not follow " ++
      toString r.lastSequence)
  else .ok { r with events := r.events ++ [event], lastSequence := event.sequence }

/-- `Next` -/
def nextEvent : Option RuntimeEvent :=
  if r.next ≥ r.events.length ∨ r.inFlight.card ≥ replayWindow then none else r.events[r.next]?

/-- `MarkSent` -/
def markSent (event : RuntimeEvent) : EventReplay :=
  { r with
    next := r.next + 1
    inFlight := insert event.sequence r.inFlight
    highestSent := if event.sequence > r.highestSent then event.sequence else r.highestSent }

/-- `CanAcknowledge` -/
def canAcknowledge (sequence : Nat) : Bool :=
  sequence ≤ r.highestSent

/-- The loop of `AcknowledgeThrough`: how many of the first `next` events are removed. -/
def countThrough (sequence : Nat) : Nat → List RuntimeEvent → Nat
  | next + 1, event :: rest =>
    if event.sequence ≤ sequence then countThrough sequence next rest + 1 else 0
  | _, _ => 0

/-- `AcknowledgeThrough` -/
def acknowledgeThrough (sequence : Nat) : EventReplay :=
  let remove := countThrough sequence r.next r.events
  { r with
    events := r.events.drop remove
    next := r.next - remove
    inFlight := r.inFlight.filter fun sent => ¬ sent ≤ sequence }

/-! ### Operations -/

/-- What a connection does to the replay. -/
inductive Operation
  | add (event : RuntimeEvent)
  /-- `Next`, followed by `MarkSent` of the event it returned -/
  | send
  /-- `AcknowledgeThrough`, if `CanAcknowledge` -/
  | acknowledge (sequence : Nat)

/-- The replay after an operation, and the event that it handed out. -/
def apply : Operation → EventReplay × Option RuntimeEvent
  | .add event =>
    match r.add event with
    | .ok added => (added, none)
    | .error _ => (r, none)
  | .send =>
    match r.nextEvent with
    | some event => (r.markSent event, some event)
    | none => (r, none)
  | .acknowledge sequence =>
    if r.canAcknowledge sequence then (r.acknowledgeThrough sequence, none) else (r, none)

/-- The replay after any operations, and the events that were handed out, in order. -/
def run : EventReplay → List Operation → EventReplay × List RuntimeEvent
  | r, [] => (r, [])
  | r, op :: rest =>
    let (after, handed) := r.apply op
    let (last, later) := run after rest
    (last, handed.toList ++ later)

/-- The events that operations put into the list. -/
def added : EventReplay → List Operation → List RuntimeEvent
  | _, [] => []
  | r, op :: rest =>
    let new :=
      match op with
      | .add event => if (r.add event).isOk then [event] else []
      | _ => []
    new ++ added (r.apply op).1 rest

end EventReplay

end Arena402.Connector
