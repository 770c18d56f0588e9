/-
The connector's own check of the action a runtime answers with.

The two runtimes are read differently: for Codex the fields its output schema makes nullable are
dropped when they are `null`, for Claude common other spellings are renamed and a long message is
cut.  The normalised object is then decoded strictly into the struct of its task kind and action,
and what that struct is written as must pass the checks on goods, prices, messages and ids.
-/
import Arena402.Contracts.Tasks
import Arena402.Lib.GoDecode

namespace Arena402.Connector

open Py (Dict Json)
open Go (Field FieldType Struct)

/-- An error of the check: from `encoding/json`, an unknown discriminator, or a fixed text. -/
inductive ActionError
  | json (context : String)
  | unsupported (what action : String)
  | text (message : String)
deriving DecidableEq, Repr

/-- What does not decode is refused. -/
def orJson {α : Type} (context : String) : Option α → Except ActionError α
  | some a => .ok a
  | none => .error (.json context)

/-! ### The two runtimes -/

/-- A runtime whose output is read. -/
inductive Runtime
  | codex
  | claude
deriving DecidableEq, Repr

/-- The action as far as it can be read; a failed read leaves the empty string. -/
def actionOf (fields : Dict String Go.Value) : String :=
  ((fields.get "action").bind Go.Value.toText).getD ""

/-- The fields that a runtime may send as null. -/
def nullableFields : TaskKind → List String
  | .decide => ["good", "quantity", "limitPrice"]
  | .marketIntent => ["good", "quantity", "publicPrice", "limitPrice", "message"]
  | .marketRfq => ["requests"]
  | .marketSelect => ["requestId", "message"]
  | .negotiate => ["price", "message"]

/-- The fields without the nulls among these. -/
def dropNulls (nullable : List String) (fields : Dict String Go.Value) : Dict String Go.Value :=
  fields.filter fun field =>
    match field.2 with
    | .null => !nullable.contains field.1
    | _ => true

/-- What `validateCodexArenaAction` makes of the fields. -/
def normalizeCodex (taskKind : TaskKind) (fields : Dict String Go.Value) : Dict String Go.Value :=
  let fields := dropNulls (nullableFields taskKind) fields
  match taskKind with
  | .marketSelect => if actionOf fields = "engage" then fields.erase "message" else fields
  | .negotiate =>
    if actionOf fields = "accept" then (fields.erase "price").erase "message" else fields
  | _ => fields

/-- A field under its other name; both together are refused. -/
def renamed (other name : String) (conflict : String) (fields : Dict String Go.Value) :
    Except ActionError (Dict String Go.Value) :=
  match fields.get other with
  | none => .ok fields
  | some value =>
    if (fields.get name).isSome then .error (.text conflict)
    else .ok ((fields.set name value).erase other)

/-- `offer` is another word for `propose`. -/
def offerAsPropose (fields : Dict String Go.Value) : Dict String Go.Value :=
  match (fields.get "action").bind Go.Value.toText with
  | some "offer" => fields.set "action" (.str "propose")
  | _ => fields

/-- A message longer than 100 characters is cut. -/
def cutMessage (fields : Dict String Go.Value) : Dict String Go.Value :=
  match (fields.get "message").bind Go.Value.toText with
  | none => fields
  | some message =>
    if 100 < message.length then
      fields.set "message" (.str (String.ofList (message.toList.take 100)))
    else fields

/-- What `validateClaudeArenaAction` makes of the fields. -/
def normalizeClaude (taskKind : TaskKind) (fields : Dict String Go.Value) :
    Except ActionError (Dict String Go.Value) :=
  match taskKind with
  | .decide =>
    renamed "price" "limitPrice"
      "Claude Arena decide action cannot contain both price and limitPrice" fields
  | .negotiate => do
    let fields ← renamed "type" "action"
      "Claude Arena negotiate action cannot contain both type and action" fields
    let fields ← renamed "quote" "price"
      "Claude Arena negotiate action cannot contain both quote and price" fields
    let fields := offerAsPropose fields
    let fields :=
      if actionOf fields = "accept" then (fields.erase "price").erase "message" else fields
    return cutMessage fields
  | _ => .ok fields

/-- The normalised object of an answer: a Codex answer may be followed by other text. -/
def normalize : Runtime → TaskKind → Go.Bytes → Except ActionError Go.Value
  | .codex, taskKind, raw => do
    let fields ← orJson "decode Codex Arena action" ((Go.decodeFirst raw).bind Go.Value.toMap)
    return Go.ofMap (normalizeCodex taskKind fields)
  | .claude, taskKind, raw => do
    let fields ← orJson "decode Claude Arena action" ((Go.decodeAll raw).bind Go.Value.toMap)
    return Go.ofMap (← normalizeClaude taskKind fields)

/-! ### The structs -/

/-- The fields of an action that has no other. -/
def onlyAction : List Field :=
  [{ name := "action", type := .string }]

/-- The struct of a task kind and a discriminator. -/
def actionTarget (taskKind : TaskKind) (action : String) : Except ActionError (List Field) :=
  match taskKind with
  | .decide =>
    if action = "buy" ∨ action = "sell" then
      .ok [{ name := "action", type := .string }, { name := "good", type := .string },
        { name := "quantity", type := .intPointer, omitEmpty := true },
        { name := "limitPrice", type := .stringPointer, omitEmpty := true }]
    else if action = "pass" then .ok onlyAction
    else .error (.unsupported "decide" action)
  | .marketIntent =>
    if action = "buy" ∨ action = "sell" then
      .ok [{ name := "action", type := .string }, { name := "good", type := .string },
        { name := "quantity", type := .intPointer, omitEmpty := true },
        { name := "publicPrice", type := .string }, { name := "limitPrice", type := .string },
        { name := "message", type := .stringPointer, omitEmpty := true }]
    else if action = "pass" then .ok onlyAction
    else .error (.unsupported "market intent" action)
  | .marketRfq =>
    if action = "request_negotiations" then
      .ok [{ name := "action", type := .string },
        { name := "requests", type := .slice ["targetIntentId", "openingPrice", "message"] }]
    else if action = "pass" then .ok onlyAction
    else .error (.unsupported "market RFQ" action)
  | .marketSelect =>
    if action = "engage" then
      .ok [{ name := "action", type := .string }, { name := "requestId", type := .string }]
    else if action = "reject_all" then
      .ok [{ name := "action", type := .string },
        { name := "message", type := .stringPointer, omitEmpty := true }]
    else .error (.unsupported "market select" action)
  | .negotiate =>
    if action = "propose" then
      .ok [{ name := "action", type := .string }, { name := "price", type := .string },
        { name := "message", type := .string }]
    else if action = "accept" then .ok onlyAction
    else if action = "reject" then
      .ok [{ name := "action", type := .string },
        { name := "message", type := .stringPointer, omitEmpty := true }]
    else .error (.unsupported "negotiate" action)

/-! ### The checks -/

/-- `unicode.IsSpace` -/
def isSpace (c : Char) : Bool :=
  (9 ≤ c.toNat && c.toNat ≤ 13) || c.toNat = 0x20 || c.toNat = 0x85 || c.toNat = 0xa0 ||
    c.toNat = 0x1680 || (0x2000 ≤ c.toNat && c.toNat ≤ 0x200a) || c.toNat = 0x2028 ||
    c.toNat = 0x2029 || c.toNat = 0x202f || c.toNat = 0x205f || c.toNat = 0x3000

/-- `strings.TrimSpace(text) == ""` -/
def isBlank (text : String) : Bool :=
  text.toList.all isSpace

/-- A character that an id can start with. -/
def isIdentifierStart (c : Char) : Bool :=
  c.isAlphanum

/-- A character that an id can go on with. -/
def isIdentifierRest (c : Char) : Bool :=
  c.isAlphanum || c = '.' || c = '_' || c = ':' || c = '-'

/-- `arenaGoodIDPattern` and `arenaIdentifierPattern`: `^[A-Za-z0-9][A-Za-z0-9._:-]*$` -/
def arenaIdentifierPattern (text : String) : Bool :=
  match text.toList with
  | [] => false
  | c :: rest => isIdentifierStart c && rest.all isIdentifierRest

/-- `arenaFixedDecimalPattern`: `^(?:0\.[0-9]*[1-9][0-9]*|[1-9][0-9]*(?:\.[0-9]+)?)$` -/
def arenaFixedDecimalPattern (text : String) : Bool :=
  let (int, rest) := text.toList.span Char.isDigit
  if int = ['0'] then
    match rest with
    | '.' :: frac => frac.all Char.isDigit && frac.any fun c => c ≠ '0'
    | _ => false
  else
    !int.isEmpty && int.head? ≠ some '0' &&
      match rest with
      | [] => true
      | c :: frac => c = '.' && !frac.isEmpty && frac.all Char.isDigit

/-- `strings.Cut(price, ".")` -/
def cutPoint (price : String) : String × String :=
  (String.ofList (price.toList.takeWhile (· ≠ '.')),
    String.ofList (price.toList.dropWhile (· ≠ '.')).tail)

/-- A price of the pattern with at most 38 digits, 18 of them after the point. -/
def fixedDecimal (price : String) : Bool :=
  let (integerPart, fractionalPart) := cutPoint price
  arenaFixedDecimalPattern price &&
    integerPart.utf8ByteSize + fractionalPart.utf8ByteSize ≤ 38 &&
    fractionalPart.utf8ByteSize ≤ 18

/-- A message that is not blank and short enough. -/
def publicMessage (message : String) : Bool :=
  !isBlank message && message.length ≤ 100

/-- An id of the pattern. -/
def identifier (maxBytes : Nat) (id : String) : Bool :=
  id.utf8ByteSize ≤ maxBytes && arenaIdentifierPattern id

/-- A condition or its message. -/
def check (condition : Bool) (message : String) : Except ActionError Unit :=
  if condition then .ok () else .error (.text message)

/-- A field of an object that is a string. -/
def textAt (name : String) (fields : List (String × Json)) : Option String :=
  match fields.lookup name with
  | some (.str text) => some text
  | _ => none

/-- The check of a field, when it is a string. -/
def checkText (name : String) (valid : String → Bool) (message : String)
    (fields : List (String × Json)) : Except ActionError Unit :=
  match textAt name fields with
  | some text => check (valid text) message
  | none => .ok ()

/-- The quantity is one, if it is there. -/
def checkQuantity (fields : List (String × Json)) : Except ActionError Unit :=
  match fields.lookup "quantity" with
  | some (.int n) => check (n = 1) "Arena quantity must equal the fixed trade quantity 1"
  | _ => .ok ()

/-- The price check of one field. -/
def checkPrice (name : String) : List (String × Json) → Except ActionError Unit :=
  checkText name fixedDecimal "Arena price must be a positive bounded fixed-point decimal string"

/-- One request of an RFQ; `seen` are the targets before it. -/
def checkRequest (seen : List String) : Json → Except ActionError String
  | .object request => do
    let targetId := (textAt "targetIntentId" request).getD ""
    check (identifier 512 targetId) "Arena RFQ targetIntentId is invalid"
    check (!seen.contains targetId) "Arena RFQ targetIntentId values must be unique"
    check (fixedDecimal ((textAt "openingPrice" request).getD ""))
      "Arena RFQ openingPrice must be a positive bounded fixed-point decimal string"
    check (publicMessage ((textAt "message" request).getD ""))
      "Arena RFQ message must contain 1 to 100 characters"
    return targetId
  | _ => .error (.text "Arena RFQ request must be an object")

/-- The requests of an RFQ. -/
def checkRequests (fields : List (String × Json)) : Except ActionError Unit :=
  match fields.lookup "requests" with
  | some (.list requests) => do
    check (requests.length = 1) "Arena RFQ action must contain exactly one request"
    let _ ← requests.foldlM (fun seen request => do
      let targetId ← checkRequest seen request
      return targetId :: seen) []
    return ()
  | _ => .error (.text "Arena RFQ action must contain exactly one request")

/-- The checks on the written fields. -/
def checkFields (action : String) (fields : List (String × Json)) : Except ActionError Unit := do
  check (textAt "action" fields = some action) "Arena action discriminator is required"
  checkText "good" (identifier 128) "Arena good must be a valid GoodId" fields
  checkQuantity fields
  checkPrice "price" fields
  checkPrice "publicPrice" fields
  checkPrice "limitPrice" fields
  checkText "message" publicMessage "Arena public message must contain 1 to 100 characters" fields
  if action = "request_negotiations" then
    checkRequests fields
  if action = "engage" then
    check (identifier 512 ((textAt "requestId" fields).getD "")) "Arena requestId is invalid"

/-- The discriminator and the struct that an object is decoded into. -/
def decodeAction (taskKind : TaskKind) (raw : Go.Value) :
    Except ActionError (String × List Field × Struct) := do
  let discriminator ← orJson "decode Arena action" (Go.decodeStruct false onlyAction raw)
  let action := (textAt "action" discriminator).getD ""
  let target ← actionTarget taskKind action
  let decoded ← orJson "decode strict Arena action" (Go.decodeStruct true target raw)
  return (action, target, decoded)

/-- `validateArenaAction` -/
def validateArenaAction (taskKind : TaskKind) (raw : Go.Value) : Except ActionError Json := do
  let (action, target, decoded) ← decodeAction taskKind raw
  let canonical := Go.marshal target decoded
  match canonical with
  | .object fields => checkFields action fields
  | _ => .ok ()
  return canonical

/-- `validateCodexArenaAction` and `validateClaudeArenaAction` -/
def validateRuntimeAction (runtime : Runtime) (taskKind : TaskKind) (raw : Go.Bytes) :
    Except ActionError Json := do
  validateArenaAction taskKind (← normalize runtime taskKind raw)

end Arena402.Connector
