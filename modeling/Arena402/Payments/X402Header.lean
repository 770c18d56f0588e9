/-
The x402 header codec: JSON in base64.

A header is a Python string, so a list of code points.  What leaves `decode_x402_header` is the
members of an object, an `X402ProtocolError`, or a fault of `json.loads` that no `except` names.
-/
import Arena402.Lib.Base64
import Arena402.Lib.JsonText

namespace Arena402.Payments.X402

open JsonText

/-- What the codec raises. -/
inductive Raised
  | x402ProtocolError (message : String)
  | fault (f : Fault)
  deriving DecidableEq

def invalidX402Header : Raised :=
  .x402ProtocolError "invalid_x402_header"

/-- `encode_x402_header`, when the encoder may open `levels` containers. -/
def encodeX402Header {F : Type} (fl : Floats F) (levels : Nat) (value : JsonText.Value F) :
    Except Fault Text := do
  let raw ← dumps fl levels value
  .ok ((Base64.encode (raw.map UInt8.ofNat)).map Char.toNat)

/-- `base64.b64decode(value, validate=True)` -/
def b64decode (value : Text) : Option (List Nat) :=
  if value.any fun c => 0x80 ≤ c then none
  else (Base64.decodeStrict (value.map Char.ofNat)).map fun bytes => bytes.map UInt8.toNat

def defaultMaxBytes : Nat := 32768

/-- `decode_x402_header`, when the decoder may open `levels` containers. -/
def decodeX402Header {F : Type} (fl : Floats F) (levels : Nat) (value : Text) (maxBytes : Nat) :
    Except Raised (List (Text × JsonText.Value F)) :=
  if value = [] ∨ maxBytes * 2 < value.length then .error invalidX402Header
  else
    match b64decode value with
    | none => .error invalidX402Header
    | some raw =>
      if maxBytes < raw.length then .error invalidX402Header
      else
        match loads fl levels raw with
        | .ok (.object fields) => .ok fields
        | .ok _ => .error invalidX402Header
        | .error .valueError => .error invalidX402Header
        | .error f => .error (.fault f)

/-! ### Headers and values that the codec is not made for -/

/-- A header that reaches `json.loads` with a text that opens more containers than it may. -/
def TooDeep {F : Type} (fl : Floats F) (levels : Nat) (header : Text) : Prop :=
  header ≠ [] ∧ header.length ≤ defaultMaxBytes * 2 ∧
    ∃ raw, b64decode header = some raw ∧ raw.length ≤ defaultMaxBytes ∧ levels < deepest fl raw

end Arena402.Payments.X402
