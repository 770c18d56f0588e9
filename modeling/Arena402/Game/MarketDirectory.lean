/-
The public directory of the agent-driven market.

`public_directory` reads the sell intents a buyer can ask and writes each of them as a wire
model.  The wire models are stricter than the market: an identifier of the market is any text
of 1 to 512 characters and a price any positive integer, while a directory entry takes only
what the contracts of the Agents take, and one entry that does not fit fails the whole read.
-/
import Arena402.Contracts.ActionWire
import Arena402.Game.A2aMarket
import Arena402.Game.Money

namespace Arena402.Game

open Py (Json)
open Wire (identifier goodId positiveFixedDecimal)

/-- What `public_directory` raises: a refusal of the market, a price that cannot be written, a
    time without a date in UTC, or the validation of a wire model. -/
inductive DirectoryError
  | market (message : String)
  | money (error : MoneyError)
  | overflow
  | validation (model : String)
deriving DecidableEq

/-- One candidate of the directory. -/
structure MarketDirectoryEntryV1 where
  intentId : String
  agentId : String
  displayName : String
  side : MarketSide
  good : String
  quantity : Int := 1
  publicPrice : PositiveFixedDecimal
  failedNegotiations : Int := 0
  expiresAt : UtcDateTime

/-- The directory of a requester. -/
structure MarketDirectoryV1 where
  marketSessionId : String
  gameId : String
  roundId : String
  entries : List MarketDirectoryEntryV1 := []
  expiresAt : UtcDateTime

/-- `displayName`: 1 to 100 characters, not all of them blank. -/
def directoryName (text : String) : Option String :=
  if 1 ≤ text.length ∧ isVisibleText text = true then some text else none

/-- `NonNegativeInt` -/
def nonNegativeInt (n : Int) : Option Int :=
  if 0 ≤ n then some n else none

/-- The fields of an entry, as the wire model takes them. -/
def entryFields (candidate : AgentMarketIntent) (publicPrice : String) :
    Option MarketDirectoryEntryV1 := do
  let intentId ← identifier (.str candidate.intentId)
  let agentId ← identifier (.str candidate.agentId)
  let displayName ← directoryName candidate.displayName
  let good ← goodId (.str candidate.good)
  let publicPrice ← positiveFixedDecimal (.str publicPrice)
  let failedNegotiations ← nonNegativeInt candidate.failedNegotiations
  return {
    intentId, agentId, displayName, side := .sell, good, publicPrice, failedNegotiations
    expiresAt := candidate.expiresAt }

/-- The entry of a candidate; its price is written before the model is validated.  An overflow of
    the time is no `ValueError`, so it leaves the validation at once. -/
def directoryEntry (candidate : AgentMarketIntent) : Except DirectoryError MarketDirectoryEntryV1 :=
  match formatGold (.int candidate.publicPriceAtomic) with
  | .error e => .error (.money e)
  | .ok price =>
    if HasUtcDate candidate.expiresAt then
      match entryFields candidate (String.ofList price) with
      | some entry => .ok entry
      | none => .error (.validation "MarketDirectoryEntryV1")
    else .error .overflow

/-- `min([requester.expires_at, *(entry.expires_at for entry in entries)])` -/
def directoryExpiry (requester : AgentMarketIntent) (entries : List MarketDirectoryEntryV1) :
    UtcDateTime :=
  entries.foldl (fun expiry entry => min expiry entry.expiresAt) requester.expiresAt

/-- The directory of a requester, as the wire model takes it. -/
def directoryFields (requester : AgentMarketIntent) (entries : List MarketDirectoryEntryV1) :
    Option MarketDirectoryV1 := do
  let marketSessionId ← identifier (.str s!"market:{requester.gameId}:{requester.roundId}")
  let gameId ← identifier (.str requester.gameId)
  let roundId ← identifier (.str requester.roundId)
  if (entries.map (·.intentId)).Nodup then
    return {
      marketSessionId, gameId, roundId, entries, expiresAt := directoryExpiry requester entries }
  else none

/-- The directory of the candidates, in the order of their ids. -/
def writeDirectory (requester : AgentMarketIntent) (candidates : List AgentMarketIntent) :
    Except DirectoryError MarketDirectoryV1 := do
  let entries ← candidates.mapM directoryEntry
  let sorted := entries.mergeSort fun a b => decide (a.intentId ≤ b.intentId)
  if HasUtcDate (directoryExpiry requester sorted) then
    match directoryFields requester sorted with
    | some directory => .ok directory
    | none => .error (.validation "MarketDirectoryV1")
  else .error .overflow

namespace AgentDrivenMarket

/-- The filters of the loop of `public_directory`. -/
def discovers (s : AgentDrivenMarket) (requester : AgentMarketIntent) (observedAt : UtcDateTime)
    (candidate : AgentMarketIntent) : Bool :=
  candidate.side = .sell &&
    candidate.gameId = requester.gameId &&
    candidate.roundId = requester.roundId &&
    candidate.participantId ≠ requester.participantId &&
    candidate.good = requester.good &&
    observedAt < candidate.expiresAt &&
    candidate.limitPriceAtomic ≤ requester.limitPriceAtomic &&
    !s.isReserved candidate

/-- `public_directory` -/
def publicDirectory (s : AgentDrivenMarket) (requesterIntentId : String)
    (observedAt : UtcDateTime) : Except DirectoryError MarketDirectoryV1 :=
  match s.requireIntent requesterIntentId with
  | .error e => .error (.market e)
  | .ok requester =>
    if requester.side ≠ .buy then
      .error (.market "only a buyer intent can discover sell intents in v1")
    else if requester.expiresAt ≤ observedAt then .error (.market "requester intent is expired")
    else writeDirectory requester (s.intents.values.filter (s.discovers requester observedAt))

/-- The directory lists the intent. -/
def Lists (s : AgentDrivenMarket) (requesterIntentId : String) (observedAt : UtcDateTime)
    (intentId : String) : Prop :=
  ∃ directory, s.publicDirectory requesterIntentId observedAt = .ok directory ∧
    ∃ entry ∈ directory.entries, entry.intentId = intentId

end AgentDrivenMarket

end Arena402.Game
