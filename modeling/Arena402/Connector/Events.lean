/-
Runtime events on the disk of the connector.

An event gets its sequence number when it is staged in the state file, is then written to a
file of its own in the outbox, and the staged copy is cleared.  After a crash the staged event
is read back from the state file, written to the outbox again and cleared.  A file that is
already there must hold the same bytes.

The state file is read through the JSON decoder, so a staged event is what the decoder gives
back.  The files of the outbox are compared as bytes.
-/
import Arena402.Lib.Dict
import Arena402.Lib.GoJson
import Arena402.Lib.Method

namespace Arena402.Connector

open Py Go

/-! ### Data of an event -/

/-- A value of `map[string]any`.  A number is the text that is printed for it: a `float64` is
    printed as the shortest text that reads as the same number, so the text is kept by a decode.
    A map lists its entries in the order of their keys, in which they are printed. -/
inductive Value
  | null
  | bool (b : Bool)
  | number (text : Bytes)
  | str (s : Bytes)
  | list (items : List Value)
  | map (entries : List (String × Value))

/-- An event of a runtime. -/
structure RuntimeEvent where
  eventId : Bytes
  bindingId : Bytes
  sequence : Nat
  runtimeId : Bytes
  sessionId : Bytes
  taskId : Bytes
  type : Bytes
  observedAt : String
  data : List (String × Value)

/-! ### `json.Marshal` -/

mutual

/-- What `json.Marshal` writes. -/
def Value.encode : Value → Bytes
  | .null => utf8 "null"
  | .bool b => if b then utf8 "true" else utf8 "false"
  | .number text => text
  | .str s => encodeString s
  | .list items => 0x5b :: (encodeItems items ++ [0x5d])
  | .map entries => 0x7b :: (encodeEntries entries ++ [0x7d])

def encodeItems : List Value → Bytes
  | [] => []
  | v :: rest => v.encode ++ (if rest.isEmpty then [] else 0x2c :: encodeItems rest)

def encodeEntries : List (String × Value) → Bytes
  | [] => []
  | (key, v) :: rest =>
    encodeString (utf8 key) ++ 0x3a :: (v.encode ++
      (if rest.isEmpty then [] else 0x2c :: encodeEntries rest))

end

/-- A field with its name, after a comma. -/
def field (name : String) (value : Bytes) : Bytes :=
  utf8 (",\"" ++ name ++ "\":") ++ value

/-- A field with the option `omitempty`. -/
def optionalField (name : String) (empty : Bool) (value : Bytes) : Bytes :=
  if empty then [] else field name value

/-- What `json.Marshal` writes. -/
def RuntimeEvent.encode (e : RuntimeEvent) : Bytes :=
  utf8 "\x7b\"event_id\":" ++ encodeString e.eventId ++
    optionalField "binding_id" e.bindingId.isEmpty (encodeString e.bindingId) ++
    optionalField "sequence" (e.sequence == 0) (utf8 (toString e.sequence)) ++
    field "runtime_id" (encodeString e.runtimeId) ++
    field "session_id" (encodeString e.sessionId) ++
    optionalField "task_id" e.taskId.isEmpty (encodeString e.taskId) ++
    field "type" (encodeString e.type) ++
    field "observed_at" (encodeString (utf8 e.observedAt)) ++
    optionalField "data" e.data.isEmpty (Value.encode (.map e.data)) ++ utf8 "\x7d"

/-! ### `json.Unmarshal` of what was marshalled -/

/-- A string read back. -/
def rereadString (s : Bytes) : Bytes :=
  (decodeString (encodeString s)).getD []

mutual

/-- The value that is read back from what was written. -/
def Value.reread : Value → Value
  | .null => .null
  | .bool b => .bool b
  | .number text => .number text
  | .str s => .str (rereadString s)
  | .list items => .list (rereadItems items)
  | .map entries => .map (rereadEntries entries)

def rereadItems : List Value → List Value
  | [] => []
  | v :: rest => v.reread :: rereadItems rest

def rereadEntries : List (String × Value) → List (String × Value)
  | [] => []
  | (key, v) :: rest => (key, v.reread) :: rereadEntries rest

end

/-- The event that is read back from what was written. -/
def RuntimeEvent.reread (e : RuntimeEvent) : RuntimeEvent where
  eventId := rereadString e.eventId
  bindingId := rereadString e.bindingId
  sequence := e.sequence
  runtimeId := rereadString e.runtimeId
  sessionId := rereadString e.sessionId
  taskId := rereadString e.taskId
  type := rereadString e.type
  observedAt := e.observedAt
  data := rereadEntries e.data

/-! ### The disk -/

/-- The parts of `state.json` that number and stage events, and the files of the outbox by
    sequence number, a `uint64`. -/
structure Disk where
  nextSequence : Nat := 0
  stagedEvent : Option RuntimeEvent := none
  outbox : Dict Nat Bytes := []

namespace Disk

/-- `StageEvent`. -/
def stageEvent (event : RuntimeEvent) : Method Disk RuntimeEvent := do
  let current ← get
  if current.stagedEvent.isSome then throw "an event is already staged for outbox recovery"
  if event.sequence ≠ 0 then throw "new staged event must not already have a sequence"
  let staged := { event with sequence := (current.nextSequence + 1) % 2 ^ 64 }
  set { current with
    nextSequence := staged.sequence
    stagedEvent := some staged }
  return staged

/-- `FileOutbox.Append`. -/
def append (event : RuntimeEvent) : Method Disk Unit := do
  if event.sequence = 0 then throw "event sequence is required"
  let current ← get
  match current.outbox.get event.sequence with
  | some existing =>
    if existing ≠ event.encode then
      throw s!"outbox sequence {event.sequence} already contains a different event"
  | none =>
    set { current with outbox := current.outbox.set event.sequence event.encode }

/-- `ClearStagedEvent`. -/
def clearStagedEvent (sequence : Nat) : Method Disk Unit := do
  let current ← get
  match current.stagedEvent with
  | none => pure ()
  | some staged =>
    if staged.sequence ≠ sequence then
      throw s!"staged event sequence mismatch: have {staged.sequence}, clearing {sequence}"
    set { current with stagedEvent := none }

/-- The first write of `recoverStagedEvent`. -/
def rewriteStagedEvent : Method Disk Unit := do
  let current ← get
  match current.stagedEvent with
  | none => pure ()
  | some written => append written.reread

/-- `recoverStagedEvent`: the staged event is what the state file decodes to. -/
def recoverStagedEvent : Method Disk Unit := do
  let current ← get
  match current.stagedEvent with
  | none => pure ()
  | some written =>
    let staged := written.reread
    append staged
    clearStagedEvent staged.sequence

/-- `persistEvent`. -/
def persistEvent (event : RuntimeEvent) : Method Disk RuntimeEvent := do
  recoverStagedEvent
  if event.sequence ≠ 0 then throw "new runtime event already has a sequence"
  let staged ← stageEvent event
  append staged
  clearStagedEvent staged.sequence
  return staged

/-- `FileOutbox.AckThrough`. -/
def ackThrough (sequence : Nat) : Method Disk Unit :=
  modify fun current =>
    { current with outbox := current.outbox.filter fun file => sequence < file.1 }

/-! ### Crashes -/

/-- Where `persistEvent` can be cut off, between two writes: the first point is inside its
    `recoverStagedEvent`, before the event that was staged earlier is cleared. -/
inductive CrashPoint
  | beforeRecovered
  | beforeStage
  | afterStage
  | afterAppend
  | afterClear
deriving DecidableEq, Repr

/-- The statements of `persistEvent` before the crash. -/
def persistUntil (event : RuntimeEvent) : CrashPoint → Method Disk Unit
  | .beforeRecovered => rewriteStagedEvent
  | .beforeStage => recoverStagedEvent
  | .afterStage => do
    recoverStagedEvent
    if event.sequence ≠ 0 then throw "new runtime event already has a sequence"
    let _ ← stageEvent event
    return ()
  | .afterAppend => do
    recoverStagedEvent
    if event.sequence ≠ 0 then throw "new runtime event already has a sequence"
    let staged ← stageEvent event
    append staged
  | .afterClear => do
    let _ ← persistEvent event
    return ()

/-- What happens to the disk: an event is persisted, cut off by a crash or not, the staged
    event is recovered, or acknowledged events are removed. -/
inductive Operation
  | persist (event : RuntimeEvent)
  | crash (event : RuntimeEvent) (point : CrashPoint)
  | recover
  | ack (sequence : Nat)

/-- What an operation does to the disk. -/
def Operation.method : Operation → Method Disk Unit
  | .persist event => persistUntil event .afterClear
  | .crash event point => persistUntil event point
  | .recover => recoverStagedEvent
  | .ack sequence => ackThrough sequence

/-- The disk after a history; a call that fails keeps what it wrote before. -/
def run (d : Disk) (ops : List Operation) : Disk :=
  ops.foldl (fun d op => op.method.after d) d

end Disk

end Arena402.Connector
