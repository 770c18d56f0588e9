import Arena402.Lib.Text
import Arena402.Lib.Decimal
import Arena402.Lib.Dict
import Arena402.Lib.Json
import Arena402.Lib.Raise
import Arena402.Lib.Run
import Arena402.Lib.Method
import Arena402.Lib.Sql
import Arena402.Lib.Evm
import Arena402.Lib.GoJson
import Arena402.Contracts.Actions
import Arena402.Contracts.Value
import Arena402.Contracts.Tasks
import Arena402.Contracts.Dump
import Arena402.Contracts.Jsonb
import Arena402.Game.Money
import Arena402.Game.Settlement
import Arena402.Game.SettlementSnapshot
import Arena402.Game.Events
import Arena402.Game.EventDeck
import Arena402.Game.Portfolio
import Arena402.Game.PawnhouseGame
import Arena402.Game.EvmConfirmation
import Arena402.Game.SettlementWorker
import Arena402.Game.Tables
import Arena402.Game.Negotiation
import Arena402.Game.NegotiationObject
import Arena402.Game.SettlementLedger
import Arena402.Game.Pawnhouse
import Arena402.Game.Contexts
import Arena402.Game.Views
import Arena402.Game.HostedNegotiation
import Arena402.Game.Rounds
import Arena402.Game.A2aMarket
import Arena402.Game.A2aMarketMethods
import Arena402.Game.FcfsRound
import Arena402.Game.SharedNegotiation
import Arena402.Core.CandidateValidation
import Arena402.Core.ApplicationPolicy
import Arena402.Core.IngressSecurity
import Arena402.Core.PublicOutputPolicy
import Arena402.Core.Repository
import Arena402.Core.TaskFactory
import Arena402.Core.ResultSink
import Arena402.Core.Hashing
import Arena402.Core.Polling
import Arena402.Core.ResultConsumer
import Arena402.Core.ApplyTaskResult
import Arena402.Payments.Models
import Arena402.Payments.Repository
import Arena402.Payments.Service
import Arena402.Payments.Coordinator
import Arena402.Payments.Worker
import Arena402.Coin.ArenaGameCoin
import Arena402.Connector.Events
import Arena402.Gateway.Repository
import Arena402.Proofs.Lib.Decimal
import Arena402.Proofs.Lib.Json
import Arena402.Proofs.Lib.Sql
import Arena402.Proofs.Core.Prices
import Arena402.Proofs.Core.PublicOutputPolicy
import Arena402.Proofs.Core.ResultSink
import Arena402.Proofs.Core.Polling
import Arena402.Proofs.Core.Answers
import Arena402.Proofs.Core.Steps
import Arena402.Proofs.Core.Authoritative
import Arena402.Proofs.Core.ResultConsumer
import Arena402.Proofs.Core.ProjectionChecks
import Arena402.Proofs.Core.ApplyTaskResult
import Arena402.Proofs.Core.TaskFactory
import Arena402.Proofs.Payments.Repository
import Arena402.Proofs.Payments.Accounting
import Arena402.Proofs.Payments.Release
import Arena402.Proofs.Payments.Budget
import Arena402.Proofs.Payments.Rejected
import Arena402.Proofs.Payments.Worker
import Arena402.Proofs.Payments.Fence
import Arena402.Proofs.Payments.Takeover
import Arena402.Proofs.Game.SettlementLedger
import Arena402.Proofs.Game.SettlementSnapshot
import Arena402.Proofs.Game.SettlementReplay
import Arena402.Proofs.Game.EventCommitment
import Arena402.Proofs.Game.Events
import Arena402.Proofs.Game.EventDeck
import Arena402.Proofs.Game.PawnhouseGame
import Arena402.Proofs.Game.PawnhouseRounds
import Arena402.Proofs.Game.EventPrices
import Arena402.Proofs.Game.PawnhouseFailures
import Arena402.Proofs.Game.EvmConfirmation
import Arena402.Proofs.Game.SettlementWorker
import Arena402.Proofs.Game.MarketCalls
import Arena402.Proofs.Game.A2aMarket
import Arena402.Proofs.Game.MarketResults
import Arena402.Proofs.Game.MarketReplay
import Arena402.Proofs.Game.MarketBudget
import Arena402.Proofs.Game.A2aMarketMethods
import Arena402.Proofs.Game.Negotiation
import Arena402.Proofs.Game.NegotiationObject
import Arena402.Proofs.Game.Amounts
import Arena402.Proofs.Game.Gold
import Arena402.Proofs.Game.Turns
import Arena402.Proofs.Game.TurnReturns
import Arena402.Proofs.Game.FcfsRound
import Arena402.Proofs.Game.TurnContexts
import Arena402.Proofs.Game.SharedNegotiation
import Arena402.Proofs.Game.Candidates
import Arena402.Proofs.Game.MarketDirectory
import Arena402.Proofs.Game.Orchestrator
import Arena402.Proofs.Coin.ArenaGameCoin
import Arena402.Proofs.Coin.Whitelist
import Arena402.Proofs.Coin.Authorizations
import Arena402.Proofs.Connector.Events
import Arena402.Proofs.Gateway.Repository
import Arena402.Proofs.Gateway.Fencing
import Arena402.Proofs.Gateway.OutboundSequence
import Arena402.Proofs.Gateway.PairingCalls
import Arena402.Proofs.Gateway.AckReplay
import Arena402.Proofs.Gateway.StoppedSession
import Arena402.Proofs.Gateway.Schema
import Arena402.Proofs.Gateway.ArenaDispatcher
import Arena402.Proofs.Connector.ActionContent
import Arena402.Proofs.Hosted.UpdateReplay
import Arena402.Proofs.Payments.SettlementScan
import Arena402.Proofs.Payments.Mandates
import Arena402.Proofs.Game.Market
import Arena402.Proofs.Game.Liquidity
import Arena402.Proofs.Game.RuleRuntime
import Arena402.Proofs.Game.NodeConfirmation
import Arena402.Proofs.Game.MarketFeedback
import Arena402.Proofs.Core.ConfigSnapshot
import Arena402.Proofs.Connector.ActionCapture
import Arena402.Proofs.Connector.Supervisor
import Arena402.Connector.EventReplay
import Arena402.Proofs.Connector.EventReplay
import Arena402.Gateway.RateLimit
import Arena402.Proofs.Gateway.RateLimit
import Arena402.Lib.Base64
import Arena402.Mcp.Broker
import Arena402.Proofs.Mcp.Claim
import Arena402.Proofs.Mcp.Sync
import Arena402.Proofs.Game.Automation
import Arena402.Proofs.Game.EventSchedule
import Arena402.Proofs.Hosted.Learning
import Arena402.Proofs.Gateway.EventRedaction
import Arena402.Proofs.Payments.X402Header
import Arena402.Proofs.Game.RoundClose
