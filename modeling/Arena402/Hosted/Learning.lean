/-
Learning from completed games: the gate, the rendered instructions and the lineage of a strategy.

A game's evidence carries the foundation of the strategy, which is the text of the nearest ancestor
that was not learned.  The accepted profile becomes the baseline of the next game.
-/
import Arena402.Lib.Json
import Arena402.Lib.Text

namespace Arena402.Hosted.Learning

open Py

/-! ### Models -/

/-- The archetypes that a strategy can have. -/
inductive StrategyArchetype
  | aggressive
  | conservative
  | balanced
  | custom
deriving DecidableEq, Repr

def StrategyArchetype.value : StrategyArchetype → String
  | .aggressive => "aggressive"
  | .conservative => "conservative"
  | .balanced => "balanced"
  | .custom => "custom"

/-- `STRATEGY_CATALOG_VERSION_V1`. -/
def strategyCatalogVersion : String := "arena.hosted-strategy.v1"

/-- The fields of a policy profile, in the order of the envelopes. -/
inductive PolicyField
  | riskBudgetBps
  | minExpectedEdgeBps
  | maxInventoryConcentrationBps
  | negotiationConcessionBps
  | explorationBps
deriving DecidableEq, Repr

namespace PolicyField

/-- The fields, in the order of the profile. -/
def all : List PolicyField :=
  [.riskBudgetBps, .minExpectedEdgeBps, .maxInventoryConcentrationBps, .negotiationConcessionBps,
    .explorationBps]

def name : PolicyField → String
  | .riskBudgetBps => "risk_budget_bps"
  | .minExpectedEdgeBps => "min_expected_edge_bps"
  | .maxInventoryConcentrationBps => "max_inventory_concentration_bps"
  | .negotiationConcessionBps => "negotiation_concession_bps"
  | .explorationBps => "exploration_bps"

/-- `ge` and `le` of the field. -/
def range : PolicyField → Int × Int
  | .riskBudgetBps => (1000, 9000)
  | .minExpectedEdgeBps => (0, 5000)
  | .maxInventoryConcentrationBps => (2000, 10000)
  | .negotiationConcessionBps => (0, 3000)
  | .explorationBps => (0, 5000)

end PolicyField

/-- The five numbers of a policy, in basis points. -/
structure StrategyPolicyProfile where
  value : PolicyField → Int
  inRange : ∀ f, (f.range).1 ≤ value f ∧ value f ≤ (f.range).2

/-- How a game ended for the Agent. -/
structure LearningOutcome where
  rank : Int
  participantCount : Int
  netWorthAtomic : String
  averageNetWorthAtomic : String
  outcomeScoreBps : Int

/-- What the Agent did in a game. -/
structure LearningBehaviorSummary where
  taskCount : Int
  candidateActionCount : Int
  defaultedTaskCount : Int
  settledTradeCount : Int
  appliedActionCounts : List (String × Int)

/-- A text that pydantic takes, without the whitespace of Unicode at its ends, of 1 to `limit`
    characters. -/
structure LearningText (limit : Nat) where
  text : String
  stripped : trim isWhiteSpace text.toList = text.toList
  given : text.toList ≠ []
  short : text.length ≤ limit

/-- What is loaded of a game for learning. -/
structure HostedLearningEvidence where
  gameId : LearningText 500
  gameAgentId : LearningText 500
  baseStrategyRevisionId : LearningText 500
  archetype : StrategyArchetype
  baseStrategyInstructions : LearningText 4000
  basePolicyProfile : StrategyPolicyProfile
  outcome : LearningOutcome
  behavior : LearningBehaviorSummary
  finalPricesAtomic : List (String × String)

/-- What a model proposes after a game, as the contract takes it. -/
structure StrategyLearningProposal where
  policyProfile : StrategyPolicyProfile
  lessonSummary : LearningText 500
  adjustments : List (LearningText 180)
  adjustments_given : adjustments ≠ []
  adjustments_count : adjustments.length ≤ 4
  expectedEffect : LearningText 500
  confidenceBps : Int

/-! ### The gate -/

/-- `_ARCHETYPE_ENVELOPES`. -/
def archetypeEnvelope : StrategyArchetype → PolicyField → Int × Int
  | .aggressive, .riskBudgetBps => (5000, 9000)
  | .aggressive, .minExpectedEdgeBps => (0, 2000)
  | .aggressive, .maxInventoryConcentrationBps => (5000, 10000)
  | .aggressive, .negotiationConcessionBps => (700, 3000)
  | .aggressive, .explorationBps => (1000, 5000)
  | .conservative, .riskBudgetBps => (1000, 5000)
  | .conservative, .minExpectedEdgeBps => (1000, 5000)
  | .conservative, .maxInventoryConcentrationBps => (2000, 7000)
  | .conservative, .negotiationConcessionBps => (0, 1500)
  | .conservative, .explorationBps => (0, 2000)
  | .balanced, .riskBudgetBps => (3000, 7000)
  | .balanced, .minExpectedEdgeBps => (500, 3000)
  | .balanced, .maxInventoryConcentrationBps => (4000, 8500)
  | .balanced, .negotiationConcessionBps => (300, 2200)
  | .balanced, .explorationBps => (500, 3000)
  | .custom, .riskBudgetBps => (1000, 9000)
  | .custom, .minExpectedEdgeBps => (0, 5000)
  | .custom, .maxInventoryConcentrationBps => (2000, 10000)
  | .custom, .negotiationConcessionBps => (0, 3000)
  | .custom, .explorationBps => (0, 5000)

/-- `_MAX_SINGLE_GAME_DELTA_BPS`. -/
def maxSingleGameDeltaBps : Int := 1000

/-- `_REQUIRED_FINAL_GOODS`. -/
def requiredFinalGoods : List String := ["grain", "iron", "warhorse", "gems"]

/-- Whether the evidence allows to learn. -/
structure LearningEvidenceDecision where
  passed : Bool
  reason : String
  checks : List (String × Bool)

/-- Whether a proposal passes the gate, and why not. -/
structure LearningGateDecision where
  passed : Bool
  reason : String
  evidenceSummary : Json

/-- The checks of `evaluate_learning_evidence`. -/
def evidenceChecks (evidence : HostedLearningEvidence) : List (String × Bool) :=
  let behavior := evidence.behavior
  let goods := evidence.finalPricesAtomic.map Prod.fst
  let replayCount := (behavior.appliedActionCounts.map Prod.snd).sum
  let activeActionCount := ((behavior.appliedActionCounts.filter fun entry =>
    !(["pass", "reject", "reject_all"].contains entry.1)).map Prod.snd).sum
  [("evidenceComplete",
      goods.all requiredFinalGoods.contains && requiredFinalGoods.all goods.contains &&
        evidence.outcome.rank ≤ evidence.outcome.participantCount &&
        behavior.candidateActionCount ≤ behavior.taskCount && 1 ≤ behavior.candidateActionCount),
    ("replayContractPassed",
      behavior.candidateActionCount ≤ replayCount && replayCount ≤ behavior.taskCount &&
        behavior.defaultedTaskCount + behavior.candidateActionCount ≤ behavior.taskCount),
    ("multiStepEvidencePassed", 2 ≤ behavior.taskCount),
    ("marketParticipationPassed", 1 ≤ activeActionCount),
    ("economicOutcomePassed",
      evidence.outcome.netWorthAtomic ≠ evidence.outcome.averageNetWorthAtomic &&
        1 ≤ behavior.settledTradeCount)]

/-- The reason that goes with a check. -/
def failureReason : String → String
  | "evidenceComplete" => "incomplete_verified_evidence"
  | "archetypeEnvelopePassed" => "archetype_envelope_violation"
  | "boundedDeltaPassed" => "single_game_delta_too_large"
  | "replayContractPassed" => "historical_action_replay_failed"
  | "multiStepEvidencePassed" => "insufficient_multi_step_evidence"
  | "marketParticipationPassed" => "no_active_market_participation"
  | _ => "no_economic_outcome_signal"

/-- The reason of the first check that failed. -/
def firstReason (checks : List (String × Bool)) : String :=
  match checks.find? fun check => !check.2 with
  | some check => failureReason check.1
  | none => "passed"

/-- `evaluate_learning_evidence`. -/
def evaluateLearningEvidence (evidence : HostedLearningEvidence) : LearningEvidenceDecision where
  passed := (evidenceChecks evidence).all (·.2)
  reason := firstReason (evidenceChecks evidence)
  checks := evidenceChecks evidence

/-- Every field is within the envelope of the archetype. -/
def envelopePassed (archetype : StrategyArchetype) (profile : StrategyPolicyProfile) : Bool :=
  PolicyField.all.all fun f =>
    (archetypeEnvelope archetype f).1 ≤ profile.value f &&
      profile.value f ≤ (archetypeEnvelope archetype f).2

/-- No field moves further than a thousand basis points. -/
def boundedDeltaPassed (profile baseline : StrategyPolicyProfile) : Bool :=
  PolicyField.all.all fun f => |profile.value f - baseline.value f| ≤ maxSingleGameDeltaBps

/-- The checks of `evaluate_learning_proposal`. -/
def proposalChecks (evidence : HostedLearningEvidence) (proposal : StrategyLearningProposal) :
    List (String × Bool) :=
  let checks := (evaluateLearningEvidence evidence).checks
  checks.take 1 ++
    [("archetypeEnvelopePassed", envelopePassed evidence.archetype proposal.policyProfile),
      ("boundedDeltaPassed",
        boundedDeltaPassed proposal.policyProfile evidence.basePolicyProfile)] ++
    checks.drop 1

/-- `evaluate_learning_proposal`. -/
def evaluateLearningProposal (evidence : HostedLearningEvidence)
    (proposal : StrategyLearningProposal) : LearningGateDecision where
  passed := (proposalChecks evidence proposal).all (·.2)
  reason := firstReason (proposalChecks evidence proposal)
  evidenceSummary := .object
    [("schemaVersion", .str "arena.hosted-learning-gate.v1"),
      ("gameId", .str evidence.gameId.text),
      ("gameAgentId", .str evidence.gameAgentId.text),
      ("baseStrategyRevisionId", .str evidence.baseStrategyRevisionId.text),
      ("outcomeScoreBps", .int evidence.outcome.outcomeScoreBps),
      ("rank", .int evidence.outcome.rank),
      ("participantCount", .int evidence.outcome.participantCount),
      ("candidateActionCount", .int evidence.behavior.candidateActionCount),
      ("settledTradeCount", .int evidence.behavior.settledTradeCount),
      ("checks", .object ((proposalChecks evidence proposal).map fun check =>
        (check.1, .bool check.2))),
      ("policyDeltaBps", .object (PolicyField.all.map fun f =>
        (f.name, .int (proposal.policyProfile.value f - evidence.basePolicyProfile.value f)))),
      ("lessonSummary", .str proposal.lessonSummary.text),
      ("expectedEffect", .str proposal.expectedEffect.text),
      ("confidenceBps", .int proposal.confidenceBps)]

/-! ### The rendered instructions -/

/-- What stands before a value of the profile. -/
def PolicyField.label : PolicyField → String
  | .riskBudgetBps => "risk budget "
  | .minExpectedEdgeBps => "minimum expected edge "
  | .maxInventoryConcentrationBps => "maximum marked inventory concentration "
  | .negotiationConcessionBps => "total negotiation concession budget "
  | .explorationBps => "exploration budget "

/-- The end of the header, after the foundation. -/
def policyText (archetype : StrategyArchetype) (profile : StrategyPolicyProfile) : List Char :=
  let stated (f : PolicyField) : List Char := f.label.toList ++ Json.intText (profile.value f)
  " Learned bounded policy; public archetype ".toList ++ archetype.value.toList ++
    "; catalog ".toList ++ strategyCatalogVersion.toList ++ ": ".toList ++
    stated .riskBudgetBps ++ " bps; ".toList ++ stated .minExpectedEdgeBps ++ " bps; ".toList ++
    stated .maxInventoryConcentrationBps ++ " bps; ".toList ++ stated .negotiationConcessionBps ++
    " bps; ".toList ++ stated .explorationBps ++ " bps. ".toList

/-- The fixed guard at the end. -/
def guardText : List Char :=
  "Treat every value as a private preference, never as permission to ".toList ++
    "violate Arena cash, inventory, price, deadline, settlement, privacy, ".toList ++
    "or typed-action constraints.".toList

/-- The lessons between the header and the guard. -/
def joined (lessons : List (List Char)) : List Char :=
  List.intercalate [' '] lessons

/-- The header, the lessons and the guard. -/
def assembled (header : List Char) (lessons : List (List Char)) : List Char :=
  header ++ joined lessons ++ [' '] ++ guardText

/-- A lesson with its number. -/
def lessonText (index : Nat) (value : String) : List Char :=
  "Lesson ".toList ++ Json.intText index ++ ": ".toList ++ strip value.toList

/-- The loop over the adjustments: it stops at the first lesson that makes the text too long. -/
def selectLessons (header : List Char) :
    Nat → List String → List (List Char) → List (List Char)
  | _, [], selected => selected
  | index, value :: rest, selected =>
    let candidates := selected ++ [lessonText index value]
    if 4000 < (assembled header candidates).length then selected
    else selectLessons header (index + 1) rest candidates

/-- `render_learned_strategy_instructions`. -/
def renderLearnedStrategyInstructions (archetype : StrategyArchetype)
    (baseStrategyInstructions : String) (profile : StrategyPolicyProfile)
    (adjustments : List String) : Except String String :=
  let foundation := strip baseStrategyInstructions.toList
  if foundation.isEmpty then .error "base strategy instructions must be non-empty"
  else if adjustments.isEmpty then .error "at least one learned adjustment is required"
  else
    let header := foundation ++ policyText archetype profile
    let lessons := selectLessons header 1 adjustments []
    if lessons.isEmpty then .error "learned strategy instructions exceed the limit"
    else .ok (String.ofList (assembled header lessons))

/-! ### The lineage of a strategy -/

/-- Who wrote a revision. -/
inductive RevisionSource
  | preset
  | owner
  | learned
deriving DecidableEq, Repr

/-- A row of `hosted_agent_strategy_revisions`. -/
structure StrategyRevision where
  source : RevisionSource
  instructions : String
  policyProfile : StrategyPolicyProfile

/-- `load_hosted_agent_learning_evidence_v2`: the nearest text that was not learned, at most a
    hundred parents away. -/
def foundationInstructions (lineage : List StrategyRevision) : Option String :=
  match (lineage.take 101).find? fun revision => revision.source ≠ .learned with
  | some revision => if revision.instructions.isEmpty then none else some revision.instructions
  | none => none

/-- A completed game of an agent, as the learning job sees it. -/
structure LearningGame where
  evidence : HostedLearningEvidence
  proposal : StrategyLearningProposal

namespace LearningGame

/-- The instructions that the worker renders for the game. -/
def instructions (g : LearningGame) : Except String String :=
  renderLearnedStrategyInstructions g.evidence.archetype g.evidence.baseStrategyInstructions.text
    g.proposal.policyProfile (g.proposal.adjustments.map (·.text))

/-- The revision that the database keeps of the game. -/
def revision (g : LearningGame) (instructions : String) : StrategyRevision where
  source := .learned
  instructions := instructions
  policyProfile := g.proposal.policyProfile

end LearningGame

end Arena402.Hosted.Learning
