/-
Fail-closed checks on text before Arena persists it.

The Unicode tables and the compiled regular expressions are parameters: the checks only
ask them yes-or-no questions.  What the checks do with the answers, in which order, and
over which parts of a nested snapshot is the model.
-/
import Arena402.Contracts.Tasks

namespace Arena402

/-- The Unicode tables and the regular expressions that the text checks consult. -/
structure TextTables where
  /-- `unicodedata.normalize("NFKC", text)`. -/
  nfkc : String → String
  casefold : String → String
  isalnum : Char → Bool
  /-- `unicodedata.category(character)`. -/
  category : Char → String
  /-- Whether one of `_SECRET_PATTERNS` finds a match. -/
  secretPatterns : String → Bool
  /-- Whether one of `_PII_PATTERNS` finds a match. -/
  piiPatterns : String → Bool
  /-- Whether `_HTML_PATTERN` finds a match. -/
  htmlPattern : String → Bool

/-- Why a text or a configuration is refused. -/
inductive IngressRejectionCode
  | secretBearingKey
  | secretOrPii
  | unsafeBinary
  | unsafeConfigKey
  | unsafeConfigValue
  | unsafeUnicodeControl
  | unsafeUnicodeFormat
deriving DecidableEq, Repr

/-- `MAX_CONFIG_DEPTH` -/
def maxConfigDepth : Nat := 16
/-- `MAX_CONFIG_NODES` -/
def maxConfigNodes : Nat := 4096

/-- `_BIDI_AND_ZERO_WIDTH`. -/
def bidiAndZeroWidth : List Char :=
  ['\u061c', '\u200b', '\u200c', '\u200d', '\u200e', '\u200f', '\u202a', '\u202b', '\u202c',
    '\u202d', '\u202e', '\u2060', '\u2066', '\u2067', '\u2068', '\u2069', '\ufeff']

def safeReferenceKeys : List String :=
  ["credentialid", "credentialref", "credentialreference", "secretref", "secretreference"]

def secretKeyNames : List String :=
  ["accesstoken", "apikey", "apisecret", "authorization", "bearer", "clientsecret", "credential",
    "password", "passwd", "privatekey", "refreshtoken", "seedphrase", "secret", "secretkey",
    "token", "walletprivatekey", "xapikey"]

def secretKeySuffixes : List String :=
  ["accesstoken", "apikey", "apisecret", "authorization", "bearer", "clientsecret", "credential",
    "password", "privatekey", "refreshtoken", "secret", "seedphrase", "secretkey", "token"]

section Checks

variable (T : TextTables)

/-- What is wrong with one character. -/
def unsafeCharacter (c : Char) : Option IngressRejectionCode :=
  if bidiAndZeroWidth.contains c then some .unsafeUnicodeFormat
  else if T.category c = "Cf" || T.category c = "Cs" then some .unsafeUnicodeFormat
  else if T.category c = "Cc" then some .unsafeUnicodeControl
  else none

/-- `unsafe_unicode_reason`: the reason of the first unsafe character. -/
def unsafeUnicodeReason (value : String) : Option IngressRejectionCode :=
  value.toList.findSome? (unsafeCharacter T)

/-- `sensitive_text_reason`, with `include_pii`. -/
def sensitiveTextReason (value : String) : Option IngressRejectionCode :=
  if T.secretPatterns (T.nfkc value) || T.piiPatterns (T.nfkc value) then some .secretOrPii
  else none

/-- `validate_runtime_controlled_text`: the code it raises with, if it raises. -/
def validateRuntimeControlledText (value : String) : Option IngressRejectionCode :=
  (unsafeUnicodeReason T value).or (sensitiveTextReason T value)

/-- Every identifier of a result that the Runtime controls. -/
def runtimeIdentifiers (r : AgentTaskResultV1) : List String :=
  r.resultId :: match r.action with
    | some (.buy o) | some (.sell o) => [o.good]
    | some (.requestNegotiations l) => l.requests.map (·.targetIntentId)
    | some (.engage requestId) => [requestId]
    | _ => []

/-- `validate_runtime_result_identifiers`. -/
def validateRuntimeResultIdentifiers (r : AgentTaskResultV1) : Option IngressRejectionCode :=
  (runtimeIdentifiers r).findSome? (validateRuntimeControlledText T)

/-- `_normalize_key`, and `_compact` of the output policy. -/
def normalizeKey (value : String) : String :=
  String.ofList ((T.casefold (T.nfkc value)).toList.filter T.isalnum)

/-- `_is_secret_bearing_key`. -/
def isSecretBearingKey (normalizedKey : String) : Bool :=
  !safeReferenceKeys.contains normalizedKey &&
    (secretKeyNames.contains normalizedKey ||
      secretKeySuffixes.any fun suffix => suffix.toList.isSuffixOf normalizedKey.toList)

/-- What the scan says to one key of a mapping. -/
def keyReason : Key → Option IngressRejectionCode
  | .other => some .unsafeConfigKey
  | .text key =>
    match unsafeUnicodeReason T key with
    | some reason => some reason
    | none =>
      if (sensitiveTextReason T key).isSome || isSecretBearingKey (normalizeKey T key) then
        some .secretBearingKey
      else none

mutual

/-- `_scan_config_value`: the number of nodes counted so far, or the code it raises with. -/
def scanConfigValue (depth nodes : Nat) (value : Value) : Except IngressRejectionCode Nat :=
  if maxConfigNodes < nodes + 1 || maxConfigDepth < depth then .error .unsafeConfigKey
  else
    match value with
    | .str s =>
      match validateRuntimeControlledText T s with
      | some code => .error code
      | none => .ok (nodes + 1)
    | .bytes => .error .unsafeBinary
    | .dict entries => scanConfigEntries (depth + 1) (nodes + 1) entries
    | .list items => scanConfigItems (depth + 1) (nodes + 1) items
    | .none | .bool _ | .int _ | .decimal _ | .datetime _ => .ok (nodes + 1)
    | .float _ | .other => .error .unsafeConfigValue

def scanConfigItems (depth nodes : Nat) : List Value → Except IngressRejectionCode Nat
  | [] => .ok nodes
  | item :: rest =>
    match scanConfigValue depth nodes item with
    | .error code => .error code
    | .ok nodes => scanConfigItems depth nodes rest

def scanConfigEntries (depth nodes : Nat) : List (Key × Value) → Except IngressRejectionCode Nat
  | [] => .ok nodes
  | (key, nested) :: rest =>
    match keyReason T key with
    | some code => .error code
    | none =>
      match scanConfigValue depth nodes nested with
      | .error code => .error code
      | .ok nodes => scanConfigEntries depth nodes rest

end

/-- `secure_config_snapshot`: the code it raises with, if it raises. -/
def secureConfigSnapshot (snapshot : Value) : Option IngressRejectionCode :=
  match snapshot with
  | .dict entries =>
    match scanConfigValue T 0 0 (.dict entries) with
    | .error code => some code
    | .ok _ => none
  | _ => some .unsafeConfigKey

end Checks

end Arena402
