/-
The policy that cleans public messages before any durable write.

`sanitize` keeps the normalised text of a message when nothing speaks against it and
replaces it by a neutral text otherwise.  The neutral text depends on the action, its
price and the role, and not on the message.
-/
import Arena402.Core.IngressSecurity

namespace Arena402

open Py

def publicOutputPolicyVersion : String := "arena.public-output.v1"
def maxPublicMessageChars : Nat := 100
def minStrategyMatchChars : Nat := 12
def maxStrategyScanChars : Nat := 32000

/-- Why a message is replaced. -/
inductive ReplacementReason
  | empty
  | length
  | controlCharacter
  | formatCharacter
  | markup
  | secretOrPii
  | strategyCopy
deriving DecidableEq, Repr

/-- What becomes of a message. -/
structure PublicOutputDecision where
  message : String
  messageReplaced : Bool
  replacementReason : Option ReplacementReason := none
deriving DecidableEq, Repr

section Policy

variable (T : TextTables)

/-- Some 12 characters in a row of the first text stand in the second. -/
def sharesFragment (message strategy : List Char) : Bool :=
  (List.range (message.length - minStrategyMatchChars + 1)).any fun offset =>
    Py.contains ((message.drop offset).take minStrategyMatchChars) strategy

/-- `_copies_strategy`. -/
def copiesStrategy (message strategy : String) : Bool :=
  let compactMessage := (normalizeKey T message).toList
  let compactStrategy := (normalizeKey T strategy).toList
  if compactMessage.length < minStrategyMatchChars then false
  else if compactStrategy.length < minStrategyMatchChars then false
  else if maxStrategyScanChars < compactStrategy.length then true
  else if Py.contains compactMessage compactStrategy then true
  else sharesFragment compactMessage compactStrategy

/-- `_replacement_reason`. -/
def replacementReason (message : String) (strategy : Option String) : Option ReplacementReason :=
  if message.isEmpty then some .empty
  else if maxPublicMessageChars < message.length then some .length
  else if unsafeUnicodeReason T message = some .unsafeUnicodeControl then some .controlCharacter
  else if unsafeUnicodeReason T message = some .unsafeUnicodeFormat then some .formatCharacter
  else if T.htmlPattern message then some .markup
  else if (sensitiveTextReason T message).isSome then some .secretOrPii
  else
    match strategy with
    | none => none
    | some text =>
      if !text.isEmpty && copiesStrategy T message text then some .strategyCopy else none

/-- `_neutral_message`.  `Decimal(str(price))` is `price` itself. -/
def neutralMessage (action : String) (price : Option PositiveFixedDecimal) (role : Option Role) :
    String :=
  let safeRole := (role.map Role.wire).getD "agent"
  match price with
  | some p =>
    if action = "propose" then
      safeRole ++ " proposes " ++ serializeFixedDecimal p.value ++ "."
    else plain safeRole
  | none => plain safeRole
where
  plain (safeRole : String) : String :=
    if action = "accept" then safeRole ++ " accepts the latest offer."
    else if action = "reject" then safeRole ++ " rejects the latest offer."
    else if action = "buy" || action = "sell" || action = "pass" then
      safeRole ++ " submitted a " ++ action ++ " action."
    else "The agent submitted an Arena action."

/-- `unicodedata.normalize("NFKC", message).strip()`. -/
def normalizeMessage (message : String) : String :=
  String.ofList (strip (T.nfkc message).toList)

/-- `PublicOutputPolicy.sanitize`, of a message that is not `None`. -/
def sanitize (message action : String) (price : Option PositiveFixedDecimal) (role : Option Role)
    (strategy : Option String) : PublicOutputDecision :=
  match replacementReason T (normalizeMessage T message) strategy with
  | none => { message := normalizeMessage T message, messageReplaced := false }
  | some reason =>
    { message := neutralMessage action price role
      messageReplaced := true
      replacementReason := some reason }

end Policy

end Arena402
