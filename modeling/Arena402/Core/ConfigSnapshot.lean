/-
`secure_config_snapshot` with what it returns: a detached copy of the mapping it was given.
-/
import Arena402.Core.IngressSecurity

namespace Arena402

mutual

/-- `copy.deepcopy`, which makes the mappings and the sequences anew. -/
def deepcopy : Value → Value
  | .list items => .list (deepcopyItems items)
  | .dict entries => .dict (deepcopyEntries entries)
  | value => value

def deepcopyItems : List Value → List Value
  | [] => []
  | item :: rest => deepcopy item :: deepcopyItems rest

def deepcopyEntries : List (Key × Value) → List (Key × Value)
  | [] => []
  | (key, nested) :: rest => (key, deepcopy nested) :: deepcopyEntries rest

end

/-- `secure_config_snapshot`: the detached snapshot, or the code it raises with. -/
def detachedConfigSnapshot (T : TextTables) (configSnapshot : Value) :
    Except IngressRejectionCode Value :=
  match configSnapshot with
  | .dict entries => do
    let detached := deepcopy (.dict entries)
    let _ ← scanConfigValue T 0 0 detached
    return detached
  | _ => .error .unsafeConfigKey

end Arena402
