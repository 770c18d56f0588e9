/-
What the Gateway keeps of the data of an event.

Values under sensitive keys are replaced, texts are cut and searched for tokens.  Down to the fourth
level objects and lists are walked; below it a container is rendered as text.
-/
import Arena402.Lib.Dict
import Arena402.Lib.Json
import Arena402.Lib.Text

namespace Arena402.Gateway.Redaction

open Py

/-! ### Patterns -/

/-- The letter of a pattern without case; these four letters stand for ASCII ones. -/
def foldCase (c : Char) : Char :=
  if c.toNat = 0x17f then 's'
  else if c.toNat = 0x212a then 'k'
  else if c.toNat = 0x130 || c.toNat = 0x131 then 'i'
  else c.toLower

/-- The rest after a literal in lower case. -/
def literalAt : List Char → List Char → Option (List Char)
  | [], cs => some cs
  | _ :: _, [] => none
  | p :: ps, c :: cs => if foldCase c = p then literalAt ps cs else none

/-- `first[_-]?second`. -/
def pairAt (first second : List Char) (cs : List Char) : Bool :=
  match literalAt first cs with
  | none => false
  | some rest =>
    (literalAt second rest).isSome ||
      match rest with
      | [] => false
      | c :: more => (c = '_' || c = '-') && (literalAt second more).isSome

/-- One of the words of `_sensitive_key_pattern` starts here. -/
def sensitiveAt (cs : List Char) : Bool :=
  pairAt "api".toList "key".toList cs || pairAt "access".toList "token".toList cs ||
    (literalAt "authorization".toList cs).isSome || (literalAt "cookie".toList cs).isSome ||
    (literalAt "password".toList cs).isSome || (literalAt "secret".toList cs).isSome ||
    pairAt "private".toList "key".toList cs

/-- `_sensitive_key_pattern.search(key)`. -/
def sensitiveKey (key : String) : Bool :=
  key.toList.tails.any sensitiveAt

/-! ### Texts -/

/-- What Python knows of characters and of floats. -/
structure Runtime (F : Type) where
  isWord : Char → Bool
  isPrintable : Char → Bool
  reprFloat : F → List Char

/-- `pattern.sub`: a match gives its length and what stands for it. -/
def subAll (find : Option Char → List Char → Option (Nat × List Char)) :
    Option Char → Nat → List Char → List Char
  | _, _, [] => []
  | _, skip + 1, c :: cs => subAll find (some c) skip cs
  | previous, 0, c :: cs =>
    match find previous (c :: cs) with
    | some (length, replacement) => replacement ++ subAll find (some c) (length - 1) cs
    | none => c :: subAll find (some c) 0 cs

/-- What stands in place of a secret. -/
def redacted : List Char := "[REDACTED]".toList

/-- `[A-Za-z0-9_-]` without case. -/
def isTokenChar (c : Char) : Bool :=
  ('a' ≤ foldCase c && foldCase c ≤ 'z') || c.isDigit || c = '_' || c = '-'

/-- `[A-Za-z0-9._~+/=-]` without case. -/
def isBearerChar (c : Char) : Bool :=
  isTokenChar c || c = '.' || c = '~' || c = '+' || c = '/' || c = '='

namespace Runtime

variable {F : Type}

/-- `\b`. -/
def boundary (rt : Runtime F) (previous next : Option Char) : Bool :=
  previous.any rt.isWord != next.any rt.isWord

/-- `\b`, the literal, at least `least` characters of a token and `\b`; the longest first. -/
def tokenAt (rt : Runtime F) (lead : List Char) (least : Nat) (previous : Option Char)
    (cs : List Char) : Option (Nat × List Char) :=
  if !rt.boundary previous cs.head? then none
  else
    match literalAt lead cs with
    | none => none
    | some rest =>
      let run := rest.takeWhile isTokenChar
      match (List.range (run.length + 1)).reverse.find? fun n =>
          least ≤ n && rt.boundary ((run.take n).getLast?) (rest.drop n).head? with
      | some n => some (lead.length + n, redacted)
      | none => none

end Runtime

/-- `authorization\s*:\s*bearer\s+` and the characters after it; the group is kept. -/
def bearerAt (_ : Option Char) (cs : List Char) : Option (Nat × List Char) :=
  match literalAt "authorization".toList cs with
  | none => none
  | some rest =>
    match rest.dropWhile isSpace with
    | ':' :: more =>
      match literalAt "bearer".toList (more.dropWhile isSpace) with
      | none => none
      | some spaced =>
        let token := (spaced.dropWhile isSpace).takeWhile isBearerChar
        if (spaced.takeWhile isSpace).isEmpty || token.isEmpty then none
        else
          let group := cs.take (cs.length - (spaced.dropWhile isSpace).length)
          some (group.length + token.length, group ++ redacted)
    | _ => none

namespace Runtime

variable {F : Type}

/-- `_redact_text`. -/
def redactText (rt : Runtime F) (text : List Char) : List Char :=
  subAll bearerAt none 0
    (subAll (rt.tokenAt "sk-".toList 20) none 0
      (subAll (rt.tokenAt "sk-ant-".toList 12) none 0 text))

end Runtime

/-! ### Rendered values -/

/-- A JSON value as Python holds it. -/
inductive Payload (F : Type)
  | null
  | bool (b : Bool)
  | int (n : Int)
  | float (x : F)
  | str (s : String)
  | list (items : List (Payload F))
  | object (fields : List (String × Payload F))

/-- `n` in `width` hexadecimal digits. -/
def hexText (width n : Nat) : List Char :=
  (Nat.toDigits 16 n).leftpad width '0'

namespace Runtime

variable {F : Type}

/-- A character inside a `repr`. -/
def reprChar (rt : Runtime F) (quote c : Char) : List Char :=
  if c = quote || c = '\\' then ['\\', c]
  else if c = '\t' then ['\\', 't']
  else if c = '\n' then ['\\', 'n']
  else if c = '\r' then ['\\', 'r']
  else if c.toNat < 32 || c.toNat = 127 then '\\' :: 'x' :: hexText 2 c.toNat
  else if c.toNat < 127 || rt.isPrintable c then [c]
  else if c.toNat < 256 then '\\' :: 'x' :: hexText 2 c.toNat
  else if c.toNat < 65536 then '\\' :: 'u' :: hexText 4 c.toNat
  else '\\' :: 'U' :: hexText 8 c.toNat

/-- `repr(text)`. -/
def reprString (rt : Runtime F) (text : String) : List Char :=
  let quote := if text.toList.contains '\'' && !text.toList.contains '"' then '"' else '\''
  quote :: text.toList.flatMap (rt.reprChar quote) ++ [quote]

mutual

/-- `repr(value)`. -/
def reprValue (rt : Runtime F) : Payload F → List Char
  | .null => "None".toList
  | .bool true => "True".toList
  | .bool false => "False".toList
  | .int n => Json.intText n
  | .float x => rt.reprFloat x
  | .str s => rt.reprString s
  | .list items => '[' :: reprItems rt [] items
  | .object fields => '{' :: reprFields rt [] fields

/-- The items, with what separates the next one from the one before. -/
def reprItems (rt : Runtime F) : List Char → List (Payload F) → List Char
  | _, [] => [']']
  | separator, v :: rest => separator ++ reprValue rt v ++ reprItems rt [',', ' '] rest

/-- The entries, with what separates the next one from the one before. -/
def reprFields (rt : Runtime F) : List Char → List (String × Payload F) → List Char
  | _, [] => ['}']
  | separator, (key, v) :: rest =>
    separator ++ rt.reprString key ++ [':', ' '] ++ reprValue rt v ++
      reprFields rt [',', ' '] rest

end

/-! ### Stored values -/

/-- `str(key)[:128]`. -/
def storedKey (key : String) : String :=
  String.ofList (key.toList.take 128)

/-- A text as it is stored. -/
def storedText (rt : Runtime F) (text : List Char) : Payload F :=
  .str (String.ofList (rt.redactText (text.take 8192)))

/-- `{key: value for ...}`. -/
def dictOf (entries : List (String × Payload F)) : Dict String (Payload F) :=
  entries.foldl (fun d entry => d.set entry.1 entry.2) []

mutual

/-- `_bounded_event_value`. -/
def boundedEventValue (rt : Runtime F) : Payload F → String → Nat → Payload F
  | .null, key, _ => if sensitiveKey key then .str "[REDACTED]" else .null
  | .bool b, key, _ => if sensitiveKey key then .str "[REDACTED]" else .bool b
  | .int n, key, _ => if sensitiveKey key then .str "[REDACTED]" else .int n
  | .float x, key, _ => if sensitiveKey key then .str "[REDACTED]" else .float x
  | .str s, key, _ => if sensitiveKey key then .str "[REDACTED]" else rt.storedText s.toList
  | .list items, key, depth =>
    if sensitiveKey key then .str "[REDACTED]"
    else if 4 ≤ depth then rt.storedText (rt.reprValue (.list items))
    else .list (boundedItems rt items 100 key (depth + 1))
  | .object fields, key, depth =>
    if sensitiveKey key then .str "[REDACTED]"
    else if 4 ≤ depth then rt.storedText (rt.reprValue (.object fields))
    else .object (dictOf (boundedFields rt fields 100 (depth + 1)))

/-- The items up to a number, each under the key of the list. -/
def boundedItems (rt : Runtime F) : List (Payload F) → Nat → String → Nat → List (Payload F)
  | [], _, _, _ => []
  | _ :: _, 0, _, _ => []
  | v :: rest, left + 1, key, depth =>
    boundedEventValue rt v key depth :: boundedItems rt rest left key depth

/-- The entries up to a number, each under its own key. -/
def boundedFields (rt : Runtime F) :
    List (String × Payload F) → Nat → Nat → List (String × Payload F)
  | [], _, _ => []
  | _ :: _, 0, _ => []
  | (key, v) :: rest, left + 1, depth =>
    (storedKey key, boundedEventValue rt v key depth) :: boundedFields rt rest left depth

end

/-- `_bounded_event_data`. -/
def boundedEventData (rt : Runtime F) : Payload F → Dict String (Payload F)
  | .object fields => dictOf (rt.boundedFields fields 100 0)
  | value => [("value", rt.boundedEventValue value "" 0)]

end Runtime

end Arena402.Gateway.Redaction
