/-
The event schedule in the database.

A row of `event_schedule` keeps an event in its columns and the effects as JSONB, written as on the
wire.  The game reads all rows in the order of their rounds and makes the events anew.
-/
import Arena402.Game.PawnhouseGame

namespace Arena402.Game

open Py

/-! ### Writing -/

/-- A row of `event_schedule`. -/
structure EventRow where
  roundIndex : Int
  eventId : String
  displayName : String
  narrative : String
  durationRounds : Option Int
  effectSnapshot : Json
  schemaVersion : String

/-- Python neither writes nor reads an integer of more than 4300 digits. -/
def writableInt (n : Int) : Bool :=
  (Nat.toDigits 10 n.natAbs).length ≤ 4300

/-- The range of an `INTEGER` column. -/
def fitsInteger (n : Int) : Bool :=
  -2147483648 ≤ n && n ≤ 2147483647

/-- A `TEXT` column takes any text without the character zero. -/
def fitsText (text : String) : Bool :=
  !text.toList.contains (Char.ofNat 0)

namespace EventEffect

/-- `to_wire` and `_json` write the integers of the effect. -/
def writable (e : EventEffect) : Bool :=
  e.basisPoints.all writableInt && e.orderPriceAtomic.all writableInt && e.orderLimit.all writableInt

end EventEffect

namespace WorldEvent

/-- The database takes the arguments of the `INSERT`. -/
def fitsColumns (e : WorldEvent) : Bool :=
  fitsInteger e.revealRound && fitsText e.eventId && fitsText e.displayName &&
    fitsText e.narrative && e.durationRounds.all fitsInteger && fitsText e.schemaVersion

/-- The `CHECK`s of the table; the effects are written as an array. -/
def passesChecks (e : WorldEvent) : Bool :=
  1 ≤ e.revealRound && eventIdPattern e.eventId && e.displayName ≠ "" &&
    e.displayName.length ≤ 100 && e.narrative.length ≤ 1000 && e.durationRounds.all (1 ≤ ·)

/-- The row of an event; `jsonb` is what the column gives back for a value. -/
def row (jsonb : Json → Json) (e : WorldEvent) : EventRow where
  roundIndex := e.revealRound
  eventId := e.eventId
  displayName := e.displayName
  narrative := e.narrative
  durationRounds := e.durationRounds
  effectSnapshot := jsonb (.list (e.effects.map EventEffect.toWire))
  schemaVersion := e.schemaVersion

end WorldEvent

/-- The `INSERT` of one event of the game, whose rows are there already. -/
def insertEvent (jsonb : Json → Json) (rows : List EventRow) (e : WorldEvent) :
    Except String (List EventRow) :=
  if !e.effects.all EventEffect.writable then .error "ValueError"
  else if !e.fitsColumns then .error "DataError"
  else if !e.passesChecks then .error "CheckViolationError"
  else if rows.any fun r => r.roundIndex = e.revealRound || r.eventId = e.eventId then
    .error "UniqueViolationError"
  else .ok (rows ++ [e.row jsonb])

/-- The loop over the events in `_insert_game`. -/
def insertEvents (jsonb : Json → Json) (events : List WorldEvent) : Except String (List EventRow) :=
  events.foldlM (insertEvent jsonb) []

/-! ### Reading -/

/-- `EffectKind(text)`. -/
def EffectKind.ofValue (text : String) : Option EffectKind :=
  [EffectKind.priceMultiplyBps, .priceResetToBase, .supplyIndexAddBps, .bubbleAddBps, .bubbleClear,
    .createRoyalOrder].find? fun kind => kind.value = text

/-- `require_good`. -/
def Good.ofId (text : String) : Option Good :=
  goods.find? fun good => good.id = text

def PriceTarget.ofValue (text : String) : Option PriceTarget :=
  [PriceTarget.market, .final, .both].find? fun target => target.value = text

/-- `str(value)` where names are compared with it; no other value reads as a name. -/
def nameOf : Json → String
  | .str s => s
  | _ => ""

/-- `int(value)`. -/
def wireInt : Json → Except String Int
  | .int n => .ok n
  | .bool b => .ok (if b then 1 else 0)
  | .str s =>
    match parseInt s.toList with
    | some n => .ok n
    | none => .error "ValueError"
  | _ => .error "TypeError"

/-- `int(effect[key]) if effect.get(key) is not None else None`. -/
def intMember (fields : List (String × Json)) (key : String) : Except String (Option Int) :=
  match fields.lookup key with
  | none => .ok none
  | some .null => .ok none
  | some value => some <$> wireInt value

/-- `str(effect[key])`, read as one of the names. -/
def nameMember {α : Type} (ofName : String → Option α) (failure : String → String) (key : String)
    (fields : List (String × Json)) : Except String α :=
  match fields.lookup key with
  | none => .error "KeyError"
  | some value =>
    match ofName (nameOf value) with
    | some a => .ok a
    | none => .error (failure (nameOf value))

/-- `str(effect.get("target", "market"))`, as the constructor takes it. -/
def targetMember (fields : List (String × Json)) : Except String PriceTarget :=
  match fields.lookup "target" with
  | none => .ok .market
  | some value =>
    match PriceTarget.ofValue (nameOf value) with
    | some target => .ok target
    | none => .error "invalid event effect target"

/-- One effect of a row. -/
def effectOf (raw : Json) : Except String EventEffect :=
  match raw with
  | .object fields => do
    let kind ← nameMember EffectKind.ofValue (fun text => s!"'{text}' is not a valid EffectKind")
      "kind" fields
    let good ← nameMember Good.ofId (fun text => s!"unknown King's Pawnhouse good: {text}")
      "good" fields
    let basisPoints ← intMember fields "basisPoints"
    let orderPriceAtomic ← intMember fields "orderPriceAtomic"
    let orderLimit ← intMember fields "orderLimit"
    let target ← targetMember fields
    EventEffect.postInit { kind, good, target, basisPoints, orderPriceAtomic, orderLimit }
  | _ => .error "TypeError"

/-- The event of a row. -/
def eventOf (row : EventRow) : Except String WorldEvent :=
  match row.effectSnapshot with
  | .list items => do
    let effects ← items.mapM effectOf
    WorldEvent.postInit {
      eventId := row.eventId
      displayName := row.displayName
      narrative := row.narrative
      revealRound := row.roundIndex
      durationRounds := row.durationRounds
      effects
      schemaVersion := row.schemaVersion }
  | _ => .error "TypeError"

/-- `_scheduled_events`. -/
def scheduledEvents (rows : List EventRow) : Except String (List WorldEvent) :=
  (rows.mergeSort fun a b => a.roundIndex ≤ b.roundIndex).mapM eventOf

/-! ### Opening a round -/

/-- The loop of `_open_next_round` over the scheduled events. -/
def revealThrough (roundIndex : Int) :
    List WorldEvent → Option WorldSnapshot → Method WorldState (Option WorldSnapshot)
  | [], snapshot => return snapshot
  | scheduled :: rest, snapshot =>
    if roundIndex < scheduled.revealRound then return snapshot
    else do
      let revealed ← WorldState.reveal scheduled.eventId scheduled.revealRound
      revealThrough roundIndex rest (some revealed)

/-- The snapshot that `_open_next_round` computes before the feedback of the market. -/
def openingSnapshot (rows : List EventRow) (basePrices : PerGood) (roundIndex : Int) :
    Except String WorldSnapshot := do
  let events ← scheduledEvents rows
  if events.all fun event => event.revealRound ≠ roundIndex then .error "round_event_not_found"
  else do
    let world ← WorldState.postInit
      { eventCatalog := Aggregate.PawnhouseGame.catalog events, basePrices }
    match (revealThrough roundIndex events none).result world with
    | .ok (some snapshot) => .ok snapshot
    | .ok none => .error "round_world_snapshot_missing"
    | .error e => .error e

/-- The in-memory world through its first rounds, the event of each round revealed in it. -/
def revealRounds (events : List WorldEvent) : Nat → Method WorldState (Option WorldSnapshot)
  | 0 => return none
  | n + 1 => do
    let _ ← revealRounds events n
    let event ← Method.check (index events n)
    let snapshot ← WorldState.reveal event.eventId (n + 1)
    return some snapshot

/-- The snapshot of a round of the in-memory world. -/
def inMemorySnapshot (events : List WorldEvent) (basePrices : PerGood) (roundIndex : Nat) :
    Except String (Option WorldSnapshot) := do
  let world ← WorldState.postInit { eventCatalog := Aggregate.PawnhouseGame.catalog events, basePrices }
  (revealRounds events roundIndex).result world

end Arena402.Game
