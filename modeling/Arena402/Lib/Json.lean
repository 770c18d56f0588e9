/-
JSON text, as Python's `json.dumps` writes it.

The text is written with `ensure_ascii=False`, `sort_keys=True` and the separators `","` and
`":"`, and encoded as UTF-8.  A dump first orders the keys of every object (`canonical`) and
then writes the value out (`render`).  The fields of an object stand for a `dict`, so their
keys are distinct.  Floats are left out.
-/
import Mathlib.Tactic

namespace Py

/-- A JSON value. -/
inductive Json
  | null
  | bool (b : Bool)
  | int (n : Int)
  | str (s : String)
  | list (items : List Json)
  | object (fields : List (String × Json))

namespace Json

/-! ### Text -/

/-- A character inside a string literal. -/
def escapeChar (c : Char) : List Char :=
  if c = '"' then ['\\', '"']
  else if c = '\\' then ['\\', '\\']
  else if c = '\n' then ['\\', 'n']
  else if c = '\r' then ['\\', 'r']
  else if c = '\t' then ['\\', 't']
  else if c = '\x0c' then ['\\', 'f']
  else if c = '\x08' then ['\\', 'b']
  else if c.toNat < 0x20 then
    ['\\', 'u', '0', '0', Nat.digitChar (c.toNat / 16), Nat.digitChar (c.toNat % 16)]
  else [c]

/-- What follows the opening quote of a string literal. -/
def literal : List Char → List Char
  | [] => ['"']
  | c :: rest => escapeChar c ++ literal rest

/-- `str(n)`. -/
def intText (n : Int) : List Char :=
  if n < 0 then '-' :: Nat.toDigits 10 n.natAbs else Nat.toDigits 10 n.natAbs

mutual

/-- A value written out, its fields in the order they have. -/
def render : Json → List Char
  | .null => ['n', 'u', 'l', 'l']
  | .bool true => ['t', 'r', 'u', 'e']
  | .bool false => ['f', 'a', 'l', 's', 'e']
  | .int n => intText n
  | .str s => '"' :: literal s.toList
  | .list items => '[' :: renderItems items
  | .object fields => '{' :: renderFields fields

/-- What follows the opening bracket of a list. -/
def renderItems : List Json → List Char
  | [] => [']']
  | v :: rest => render v ++ renderMoreItems rest

/-- What follows an item of a list. -/
def renderMoreItems : List Json → List Char
  | [] => [']']
  | v :: rest => ',' :: (render v ++ renderMoreItems rest)

/-- What follows the opening brace of an object. -/
def renderFields : List (String × Json) → List Char
  | [] => ['}']
  | (key, v) :: rest => '"' :: (literal key.toList ++ ':' :: (render v ++ renderMoreFields rest))

/-- What follows a field of an object. -/
def renderMoreFields : List (String × Json) → List Char
  | [] => ['}']
  | (key, v) :: rest =>
    ',' :: '"' :: (literal key.toList ++ ':' :: (render v ++ renderMoreFields rest))

end

/-! ### Key order -/

/-- The fields by their keys, in code point order. -/
def sortFields (fields : List (String × Json)) : List (String × Json) :=
  fields.insertionSort fun a b => a.1 ≤ b.1

mutual

/-- The value with the keys of every object ordered. -/
def canonical : Json → Json
  | .null => .null
  | .bool b => .bool b
  | .int n => .int n
  | .str s => .str s
  | .list items => .list (canonicalItems items)
  | .object fields => .object (sortFields (canonicalFields fields))

def canonicalItems : List Json → List Json
  | [] => []
  | v :: rest => canonical v :: canonicalItems rest

def canonicalFields : List (String × Json) → List (String × Json)
  | [] => []
  | (key, v) :: rest => (key, canonical v) :: canonicalFields rest

end

/-- `json.dumps(value, ensure_ascii=False, sort_keys=True, separators=(",", ":"))`. -/
def dumps (v : Json) : String :=
  String.ofList (render (canonical v))

/-- `json.dumps(..).encode("utf-8")`. -/
def encode (v : Json) : ByteArray :=
  (dumps v).toByteArray

/-- `str(n)`, as a value. -/
def intStr (n : Int) : Json :=
  .str (String.ofList (intText n))

/-- A value that may be `None`. -/
def opt {α : Type} (f : α → Json) : Option α → Json
  | none => .null
  | some a => f a

/-- A field that is left out when there is nothing to write. -/
def optField (key : String) : Option Json → List (String × Json)
  | none => []
  | some v => [(key, v)]

end Json

end Py
