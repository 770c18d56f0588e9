/-
The values a snapshot is built from.

A participant view, an event payload or a configuration is dumped to nested mappings
and sequences before it is scanned or hashed.  `Value` is what such a dump can hold:
the JSON values, the decimals and timestamps a Python-mode dump keeps, and what the
ingress scan refuses (floats, `bytes` and everything it has no case for).
-/
import Arena402.Lib.Decimal

namespace Arena402

/-- A UTC instant in microseconds. -/
abbrev UtcDateTime := Int

/-- The first instant of year 1 and the last one of year 9999. -/
def firstUtcDatetime : UtcDateTime := -62135596800000000

/-- The last microsecond of the year 9999. -/
def lastUtcDatetime : UtcDateTime := 253402300799999999

/-- Whether `value.astimezone(timezone.utc)` returns: an aware time may be up to a day outside. -/
def HasUtcDate (t : UtcDateTime) : Prop :=
  firstUtcDatetime ≤ t ∧ t ≤ lastUtcDatetime

instance (t : UtcDateTime) : Decidable (HasUtcDate t) :=
  inferInstanceAs (Decidable (_ ∧ _))

/-- A mapping key: a string, or any other hashable object. -/
inductive Key
  | text (s : String)
  | other
deriving DecidableEq

/-- What a model dumps to, and what a configuration holds. -/
inductive Value
  | none
  | bool (b : Bool)
  | int (n : Int)
  | float (q : ℚ)
  | decimal (d : Py.Decimal)
  | datetime (t : UtcDateTime)
  | str (s : String)
  | list (items : List Value)
  | dict (entries : List (Key × Value))
  | bytes
  | other

namespace Value

/-- A mapping with string keys. -/
def obj (entries : List (String × Value)) : Value :=
  .dict (entries.map fun e => (.text e.1, e.2))

/-- A field that may be `None`. -/
def opt {α : Type} (f : α → Value) : Option α → Value
  | Option.none => .none
  | some a => f a

/-- A natural number as a value. -/
def nat (n : Nat) : Value :=
  .int n

/-- `value.get(key)` of a mapping; `None` for a missing key. -/
def get (entries : List (Key × Value)) (key : String) : Value :=
  (entries.lookup (.text key)).getD .none

mutual

/-- Whether two JSON values have the same canonical dump: keys in any order, numbers of
    the same kind. -/
def sameJson : Value → Value → Bool
  | .none, .none => true
  | .bool a, .bool b => a = b
  | .int a, .int b => a = b
  | .float a, .float b => a = b
  | .str a, .str b => a = b
  | .list as, .list bs => sameJsonList as bs
  | .dict as, .dict bs => as.length = bs.length && sameJsonEntries as bs
  | _, _ => false

def sameJsonList : List Value → List Value → Bool
  | [], [] => true
  | a :: as, b :: bs => sameJson a b && sameJsonList as bs
  | _, _ => false

/-- Every entry of the first mapping has its match in the second. -/
def sameJsonEntries : List (Key × Value) → List (Key × Value) → Bool
  | [], _ => true
  | (k, a) :: as, bs =>
    (match bs.lookup k with
      | some b => sameJson a b
      | Option.none => false) && sameJsonEntries as bs

end

end Value

end Arena402
