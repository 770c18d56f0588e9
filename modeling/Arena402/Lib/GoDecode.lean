/-
JSON as Go's `encoding/json` reads it into maps and structs.

The scanner gives a `Value`: strings are decoded, numbers keep their text and an object keeps its
fields in the order of the text, repeated keys included.  A map takes the last value of a key and
is written again with its keys sorted.  A struct takes the fields one after another, matches a
key exactly or else without regard to case, and leaves a field as it is when the value is `null`;
what a struct holds is written as a `Py.Json` object, in the order of its fields.
-/
import Arena402.Lib.Dict
import Arena402.Lib.GoJson
import Arena402.Lib.Json

namespace Go

open Py (Dict Json)

/-- A value of a JSON text. -/
inductive Value
  | null
  | bool (b : Bool)
  | number (literal : List Char)
  | str (text : String)
  | list (items : List Value)
  | object (fields : List (String × Value))

/-! ### The scanner -/

/-- Whitespace of JSON. -/
def isSpace (b : UInt8) : Bool :=
  b = 0x20 || b = 0x09 || b = 0x0a || b = 0x0d

/-- What follows the whitespace. -/
def skipSpace (bs : Bytes) : Bytes :=
  bs.dropWhile isSpace

/-- A string after its opening quote; the fuel is the length of the text. -/
def readText : Nat → Bytes → Option (List Char × Bytes)
  | _, [] => none
  | 0, _ :: _ => none
  | n + 1, b :: rest =>
    if b = 0x22 then some ([], rest)
    else do
      let (c, more) ← readRune (b :: rest)
      let (cs, left) ← readText n more
      return (c :: cs, left)

/-- A byte that a number can have. -/
def isNumberByte (b : UInt8) : Bool :=
  (0x30 ≤ b && b ≤ 0x39) || b = 0x2b || b = 0x2d || b = 0x2e || b = 0x45 || b = 0x65

/-- An exponent, or nothing. -/
def exponentShape : List Char → Bool
  | [] => true
  | c :: rest =>
    (c = 'e' || c = 'E') &&
      match rest with
      | '+' :: digits | '-' :: digits | digits => !digits.isEmpty && digits.all Char.isDigit

/-- `-?(0|[1-9][0-9]*)(\.[0-9]+)?([eE][+-]?[0-9]+)?` -/
def numberShape (literal : List Char) : Bool :=
  let unsigned := match literal with
    | '-' :: rest => rest
    | rest => rest
  let (int, rest) := unsigned.span Char.isDigit
  (int = ['0'] || (!int.isEmpty && int.head? ≠ some '0')) &&
    match rest with
    | '.' :: fraction =>
      let (frac, exponent) := fraction.span Char.isDigit
      !frac.isEmpty && exponentShape exponent
    | exponent => exponentShape exponent

/-- A number at the front. -/
def readNumber (bs : Bytes) : Option (Value × Bytes) :=
  let literal := (bs.takeWhile isNumberByte).map fun b => Char.ofNat b.toNat
  if numberShape literal then some (.number literal, bs.dropWhile isNumberByte) else none

/-- `maxNestingDepth` -/
def maxNestingDepth : Nat := 10000

mutual

/-- The next value.  Every call reads a byte or more, so the length of the text is enough fuel. -/
def readValue : Nat → Nat → Bytes → Option (Value × Bytes)
  | 0, _, _ => none
  | n + 1, depth, bs =>
    match skipSpace bs with
    | 0x7b :: rest =>
      match depth with
      | 0 => none
      | depth + 1 =>
        match skipSpace rest with
        | 0x7d :: left => some (.object [], left)
        | _ => (readFields n depth rest).map fun x => (.object x.1, x.2)
    | 0x5b :: rest =>
      match depth with
      | 0 => none
      | depth + 1 =>
        match skipSpace rest with
        | 0x5d :: left => some (.list [], left)
        | _ => (readItems n depth rest).map fun x => (.list x.1, x.2)
    | 0x22 :: rest => (readText rest.length rest).map fun x => (.str (String.ofList x.1), x.2)
    | 0x74 :: 0x72 :: 0x75 :: 0x65 :: rest => some (.bool true, rest)
    | 0x66 :: 0x61 :: 0x6c :: 0x73 :: 0x65 :: rest => some (.bool false, rest)
    | 0x6e :: 0x75 :: 0x6c :: 0x6c :: rest => some (.null, rest)
    | other => readNumber other

/-- The fields of an object, from a key to the closing brace. -/
def readFields : Nat → Nat → Bytes → Option (List (String × Value) × Bytes)
  | 0, _, _ => none
  | n + 1, depth, bs =>
    match skipSpace bs with
    | 0x22 :: rest => do
      let (key, afterKey) ← readText rest.length rest
      match skipSpace afterKey with
      | 0x3a :: rest => do
        let (value, afterValue) ← readValue n depth rest
        let field := (String.ofList key, value)
        match skipSpace afterValue with
        | 0x2c :: rest => do
          let (more, left) ← readFields n depth rest
          return (field :: more, left)
        | 0x7d :: left => return ([field], left)
        | _ => none
      | _ => none
    | _ => none

/-- The items of a list, to the closing bracket. -/
def readItems : Nat → Nat → Bytes → Option (List Value × Bytes)
  | 0, _, _ => none
  | n + 1, depth, bs => do
    let (value, afterValue) ← readValue n depth bs
    match skipSpace afterValue with
    | 0x2c :: rest => do
      let (more, left) ← readItems n depth rest
      return (value :: more, left)
    | 0x5d :: left => return ([value], left)
    | _ => none

end

/-- The value a `Decoder` reads first; what follows it stays unread. -/
def decodeFirst (bs : Bytes) : Option Value :=
  (readValue (bs.length + 1) maxNestingDepth bs).map (·.1)

/-- The value of a whole text, as `json.Unmarshal` reads it. -/
def decodeAll (bs : Bytes) : Option Value :=
  match readValue (bs.length + 1) maxNestingDepth bs with
  | some (value, rest) => if (skipSpace rest).isEmpty then some value else none
  | none => none

/-! ### Maps -/

/-- A `map[string]json.RawMessage`; `null` is the nil map, which has no keys. -/
def Value.toMap : Value → Option (Dict String Value)
  | .null => some []
  | .object fields => some (fields.foldl (fun m field => m.set field.1 field.2) [])
  | _ => none

/-- The map written again: its keys are sorted. -/
def ofMap (fields : Dict String Value) : Value :=
  .object (fields.insertionSort fun a b => a.1 ≤ b.1)

/-- What `json.Unmarshal` leaves in a `string` that was empty; `none` is an error. -/
def Value.toText : Value → Option String
  | .null => some ""
  | .str text => some text
  | _ => none

/-! ### Structs -/

/-- The type of a struct field: `string`, `*int`, `*string`, or a slice of structs of strings. -/
inductive FieldType
  | string
  | intPointer
  | stringPointer
  | slice (names : List String)
deriving DecidableEq

/-- A field of a struct. -/
structure Field where
  name : String
  type : FieldType
  omitEmpty : Bool := false

/-- The runes that fold to an ASCII letter are the letter's two cases, `ſ` for `s` and the Kelvin
    sign for `k`; no other rune folds to ASCII. -/
def foldRune (c : Char) : Char :=
  if c = '\u017F' then 'S' else if c = '\u212A' then 'K' else c.toUpper

/-- A name as fields are matched without their case. -/
def foldName (name : String) : List Char :=
  name.toList.map foldRune

/-- The field of a key: an exact match, or else one that differs in case only. -/
def findField (known : List Field) (key : String) : Option Field :=
  (known.find? fun f => f.name = key).orElse fun _ =>
    known.find? fun f => foldName f.name = foldName key

/-- What a struct holds, by field name. -/
abbrev Struct := Dict String Json

/-- The zero value of a type. -/
def FieldType.zero : FieldType → Json
  | .string => .str ""
  | _ => .null

/-- What a field holds, or its zero value. -/
def Struct.value (s : Struct) (f : Field) : Json :=
  (s.get f.name).getD f.type.zero

/-- `strconv.ParseInt(literal, 10, 64)`, of a JSON number. -/
def parseInt64 (literal : List Char) : Option Int :=
  match literal with
  | '-' :: digits =>
    if digits.all Char.isDigit ∧ Nat.ofDigitChars 10 digits 0 ≤ 2 ^ 63 then
      some (-(Nat.ofDigitChars 10 digits 0 : Int))
    else none
  | digits =>
    if digits.all Char.isDigit ∧ Nat.ofDigitChars 10 digits 0 < 2 ^ 63 then
      some (Nat.ofDigitChars 10 digits 0 : Int)
    else none

section Decode

variable (read : FieldType → Value → Json → Option Json) (strict : Bool) (known : List Field)

/-- One field of the text; with `DisallowUnknownFields` a key no field has is an error. -/
def decodeField (s : Struct) (field : String × Value) : Option Struct :=
  match findField known field.1 with
  | none => if strict then none else some s
  | some f => (read f.type field.2 (s.value f)).map fun value => s.set f.name value

/-- A value read into an empty struct. -/
def decodeInto : Value → Option Struct
  | .null => some []
  | .object fields => fields.foldlM (decodeField read strict known) []
  | _ => none

end Decode

/-- How a field is written: a pointer that is nil may be left out. -/
def Struct.written (s : Struct) (f : Field) : Option Json :=
  match f.omitEmpty, s.value f with
  | true, .null => none
  | _, value => some value

/-- The fields of the object a struct is written as. -/
def Struct.fields (s : Struct) (known : List Field) : List (String × Json) :=
  known.filterMap fun f => (s.written f).map fun value => (f.name, value)

/-- `json.Marshal` of a struct. -/
def marshal (known : List Field) (s : Struct) : Json :=
  .object (s.fields known)

/-- A scalar into a field that holds `old`. -/
def readScalar : FieldType → Value → Json → Option Json
  | .string, .null, old => some old
  | .string, .str text, _ => some (.str text)
  | .intPointer, .null, _ => some .null
  | .intPointer, .number literal, _ => (parseInt64 literal).map .int
  | .stringPointer, .null, _ => some .null
  | .stringPointer, .str text, _ => some (.str text)
  | _, _, _ => none

/-- The fields of a struct that has strings only. -/
def stringFields (names : List String) : List Field :=
  names.map fun name => { name, type := .string }

/-- A value into a field that holds `old`; a list replaces the slice. -/
def readField (strict : Bool) : FieldType → Value → Json → Option Json
  | .slice _, .null, _ => some .null
  | .slice names, .list items, _ =>
    (items.mapM fun item =>
      (decodeInto readScalar strict (stringFields names) item).map
        (marshal (stringFields names))).map .list
  | type, value, old => readScalar type value old

/-- A value into a struct; the strict decoder has `DisallowUnknownFields`. -/
def decodeStruct (strict : Bool) (known : List Field) (value : Value) : Option Struct :=
  decodeInto (readField strict) strict known value

end Go
