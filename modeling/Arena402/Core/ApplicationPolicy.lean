/-
The deterministic projection of one authoritative terminal result.

`deriveApplication` pairs the task's kind with the kind of action it got.  A pairing
that does not fit, a result that did not succeed and a candidate with a violation all
become the kind's default outcome.
-/
import Arena402.Core.CandidateValidation

namespace Arena402

/-- What becomes of a result. -/
inductive ApplicationOutcome
  | candidate
  | defaultPass
  | negotiationTimeout
  | marketTimeout
deriving DecidableEq, Repr

/-- The text of an outcome. -/
def ApplicationOutcome.wire : ApplicationOutcome → String
  | .candidate => "candidate"
  | .defaultPass => "default_pass"
  | .negotiationTimeout => "negotiation_timeout"
  | .marketTimeout => "market_timeout"

/-- What Arena applies for one result.  The action is kept as a value; the source keeps
    its JSON dump, whose prices are `serializeFixedDecimal` texts. -/
structure ArenaApplication where
  accepted : Bool
  outcome : ApplicationOutcome
  action : Option Action := none
  rejectionReason : Option String := none

/-- `_default_application`. -/
def defaultApplication (t : ArenaAgentTaskV1) (reason : String) : ArenaApplication :=
  match t.kind with
  | .decide | .marketIntent =>
    { accepted := true, outcome := .defaultPass, action := some .pass, rejectionReason := some reason }
  | .negotiate =>
    { accepted := true, outcome := .negotiationTimeout, rejectionReason := some reason }
  | .marketRfq | .marketSelect =>
    { accepted := true, outcome := .marketTimeout, rejectionReason := some reason }

/-- The violation of an action that fits the task's kind and input; `none` when no
    branch of the projection takes the pair. -/
def candidateViolation (kind : TaskKind) (input : TaskInput) (action : Action) :
    Option (Option CandidateViolation) :=
  match kind, input, action with
  | .decide, .decide v, .buy o => some (decideOrderViolation v .buy o)
  | .decide, .decide v, .sell o => some (decideOrderViolation v .sell o)
  | .decide, .decide v, .pass => some (passViolation v.limits)
  | .negotiate, .negotiate v, .propose price message =>
    some (negotiationViolation v (.propose price message))
  | .negotiate, .negotiate v, .accept => some (negotiationViolation v .accept)
  | .negotiate, .negotiate v, .reject message => some (negotiationViolation v (.reject message))
  | .marketIntent, .marketIntent v, .buy o => some (marketIntentOrderViolation v .buy o)
  | .marketIntent, .marketIntent v, .sell o => some (marketIntentOrderViolation v .sell o)
  | .marketIntent, .marketIntent v, .pass => some (passViolation v.limits)
  | .marketRfq, .marketRfq v, .requestNegotiations l => some (marketRfqViolation v l)
  | .marketRfq, .marketRfq _, .pass => some none
  | .marketSelect, .marketSelect v, .engage requestId =>
    some (marketSelectViolation v requestId)
  | .marketSelect, .marketSelect _, .rejectAll _ => some none
  | _, _, _ => none

/-- `derive_application`. -/
def deriveApplication (t : ArenaAgentTaskV1) (r : AgentTaskResultV1) : ArenaApplication :=
  if r.status ≠ .succeeded then defaultApplication t ("runtime_" ++ r.status.wire)
  else
    match r.action with
    | none => defaultApplication t "action_kind_mismatch"
    | some action =>
      match candidateViolation t.kind t.input action with
      | none => defaultApplication t "action_kind_mismatch"
      | some (some violation) => defaultApplication t violation.wire
      | some none => { accepted := true, outcome := .candidate, action := some action }

end Arena402
