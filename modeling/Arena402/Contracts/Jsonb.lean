/-
The operators of `JSONB`, on the values a snapshot is built from.

A `NULL` operand gives `NULL`, and so does a key that is not there.  The keys of an object
are distinct.
-/
import Arena402.Contracts.Dump
import Arena402.Lib.Sql

namespace Arena402

namespace Jsonb

open Sql

/-- `j -> key`. -/
def field (j : Option Value) (key : Option String) : Option Value :=
  match j, key with
  | some (.dict entries), some key => entries.lookup (.text key)
  | _, _ => none

/-- The text of a scalar; the text of JSON's `null` is `NULL`.  Nothing reads the text of an
    object or an array. -/
def scalarText : Option Value → Option String
  | some (.str s) => some s
  | some (.int n) => some (toString n)
  | some (.bool b) => some (if b then "true" else "false")
  | _ => none

/-- `j ->> key`. -/
def text (j : Option Value) (key : String) : Option String :=
  scalarText (field j (some key))

/-- `j #> keys`. -/
def path (j : Option Value) (keys : List (Option String)) : Option Value :=
  keys.foldl field j

/-- `j #>> keys`. -/
def pathText (j : Option Value) (keys : List (Option String)) : Option String :=
  scalarText (path j keys)

/-- `j ? key`. -/
def hasKey (j : Option Value) (key : String) : Truth :=
  j.map fun v =>
    match v with
    | .dict entries => (entries.lookup (.text key)).isSome
    | .list items => items.any fun
      | .str s => s = key
      | _ => false
    | .str s => s = key
    | _ => false

/-- `jsonb_typeof(j)`. -/
def typeOf (j : Option Value) : Option String :=
  j.bind fun
    | .none => some "null"
    | .bool _ => some "boolean"
    | .int _ | .float _ => some "number"
    | .str _ => some "string"
    | .list _ => some "array"
    | .dict _ => some "object"
    | _ => none

/-- `j @> jsonb_build_array(text)`. -/
def containsText (j : Option Value) (text : Option String) : Truth :=
  j.map fun
    | .list items => items.any fun
      | .str s => text = some s
      | .none => text.isNone
      | _ => false
    | _ => false

/-- `jsonb_array_elements(j)`, which raises unless `j` is an array. -/
def elements : Option Value → Except Error (List Value)
  | none => .ok []
  | some (.list items) => .ok items
  | _ => .error .invalidParameterValue

/-- `jsonb_array_length(j)`. -/
def length : Option Value → Except Error (Option Int)
  | none => .ok none
  | some (.list items) => .ok (some items.length)
  | _ => .error .invalidParameterValue

end Jsonb

end Arena402
