import PrismGateway.Lib.Run
import PrismGateway.Lib.Redis
import PrismGateway.Lib.Text
import PrismGateway.CircuitBreaker.Runs
import PrismGateway.CircuitBreaker.Probes
import PrismGateway.CircuitBreaker.Recovery
import PrismGateway.CircuitBreaker.Window
import PrismGateway.Config.Types
import PrismGateway.Router.ErrorClassifier
import PrismGateway.Orchestrator.Attempts
import PrismGateway.Orchestrator.ProbeReports
import PrismGateway.Orchestrator.Independence
import PrismGateway.Lib.FloatOrder
import PrismGateway.Lib.StableSort
import PrismGateway.Router.Stages
import PrismGateway.Router.Select
import PrismGateway.Config.Tenant
import PrismGateway.Router.Selection
import PrismGateway.Router.Strategies
import PrismGateway.Orchestrator.Routing
import PrismGateway.Lib.GoMap
import PrismGateway.Lib.Json
import PrismGateway.Lib.Schema
import PrismGateway.Lib.Rekeying
import PrismGateway.Lib.RoundTrip
import PrismGateway.Storage.Normalize
import PrismGateway.Config.TenantSchema
import PrismGateway.Storage.TenantStore
import PrismGateway.Config.GlobalSchema
import PrismGateway.Storage.GlobalConfig
import PrismGateway.Lib.TokenBucket
import PrismGateway.RateLimit.RedisLimiter
import PrismGateway.Storage.BudgetReservations
import PrismGateway.Storage.GlobalVersions
import PrismGateway.Storage.TenantVersions
import PrismGateway.Admin.TenantConfig
import PrismGateway.Admin.Environment
import PrismGateway.Admin.TenantRules
import PrismGateway.Admin.TenantValidity
import PrismGateway.Api.Requests
import PrismGateway.Orchestrator.Run
import PrismGateway.Orchestrator.SystemPrompt
import PrismGateway.Api.Handlers
import PrismGateway.Api.WireFormat
import PrismGateway.Lib.Tables
import PrismGateway.Storage.Catalog
import PrismGateway.Storage.Migrations
import PrismGateway.Lib.Sql
import PrismGateway.Storage.Billing
import PrismGateway.Orchestrator.Accounting
import PrismGateway.Admin.Isolation
import PrismGateway.Hooks.ExternalPII
import PrismGateway.Orchestrator.Cost
import PrismGateway.Api.Streaming
import PrismGateway.Api.StreamErrors
import PrismGateway.Api.FinishReasons
import PrismGateway.Lib.LineLoop
import PrismGateway.Providers.Streams
import PrismGateway.Orchestrator.CacheEffectiveness
import PrismGateway.Frontend.AdminClient
import PrismGateway.Frontend.Routes
import PrismGateway.Frontend.KeyLending
import PrismGateway.Admin.ConfigReads
import PrismGateway.Admin.Secrets
import PrismGateway.Orchestrator.Completeness
import PrismGateway.Orchestrator.StreamCost
import PrismGateway.Lib.Program
import PrismGateway.Orchestrator.Effects
import PrismGateway.Orchestrator.Courses
import PrismGateway.Orchestrator.OneAnswer
import PrismGateway.Orchestrator.Bookkeeping
import PrismGateway.Orchestrator.Settlement
import PrismGateway.Orchestrator.Budget
import PrismGateway.Orchestrator.Containment
import PrismGateway.Storage.ApiKeys
import PrismGateway.Orchestrator.PriceResolution
import PrismGateway.Auth.Middleware
import PrismGateway.Auth.Revocation
import PrismGateway.Storage.KeyTransactions
import PrismGateway.Config.ConfigCache
import PrismGateway.Lib.Insert
import PrismGateway.Storage.RequestLog
import PrismGateway.Api.Embeddings
import PrismGateway.Api.Overrides
import PrismGateway.Admin.TenantPatch
import PrismGateway.Lib.DecodeFrame
import PrismGateway.Admin.PiiSettings
import PrismGateway.Lib.FieldEdit
import PrismGateway.Lib.GroupEdit
import PrismGateway.Storage.FieldMerge
import PrismGateway.Storage.StructEdit
import PrismGateway.Admin.ModelPatch
import PrismGateway.Admin.ModelForm
import PrismGateway.Lib.Paths
import PrismGateway.Storage.PathMerge
import PrismGateway.Admin.GlobalWrites
import PrismGateway.Admin.ProviderCredentials
import PrismGateway.Admin.TrafficSplit
import PrismGateway.Lib.Arrivals
import PrismGateway.Storage.ArrivalMerge
import PrismGateway.Admin.BudgetEditor
import PrismGateway.Lib.Channel
import PrismGateway.Orchestrator.StatsDispatcher
import PrismGateway.Auth.ValidatorCache
import PrismGateway.Providers.Bedrock
import PrismGateway.CircuitBreaker.Endpoints
import PrismGateway.Router.RoundRobin
import PrismGateway.Admin.TrafficReplay
import PrismGateway.Lib.Framing
import PrismGateway.Lib.JsonParse
import PrismGateway.Lib.Utf8
import PrismGateway.Api.StreamTranslation
import PrismGateway.Api.MessagesPassthrough
import PrismGateway.Hooks.MessageRoundTrip
import PrismGateway.Admin.RouteGroups
import PrismGateway.Admin.RouteGroupRuns
import PrismGateway.Lib.MergePatch
import PrismGateway.Storage.MergeConformance
import PrismGateway.Auth.TokenChecks
import PrismGateway.Auth.KeyHeaders
import PrismGateway.Lib.Hex
import PrismGateway.RateLimit.BucketKeys
import PrismGateway.RateLimit.InMemoryLimiter
import PrismGateway.Router.PrecedenceContract
import PrismGateway.Router.BlockRules
import PrismGateway.Lib.LeastLimit
import PrismGateway.Router.Constraints
import PrismGateway.Lib.Averages
import PrismGateway.Storage.ModelStats
import PrismGateway.Router.StatsCache
import PrismGateway.Lib.MinMax
import PrismGateway.Router.ExactScoring
import PrismGateway.Router.PriceDominance
import PrismGateway.Storage.DailyUpsert
import PrismGateway.Router.MetricsStore
import PrismGateway.Lib.Decimals
import PrismGateway.Router.MetricsBackends
import PrismGateway.Orchestrator.OutputCap
import PrismGateway.Api.StreamEstimate
import PrismGateway.Orchestrator.ToolPricing
import PrismGateway.Admin.Baselines
import PrismGateway.Orchestrator.SplitPlans
import PrismGateway.Auth.AdminBootstrap
import PrismGateway.Api.ConversationLog
import PrismGateway.Admin.Monetization
import PrismGateway.Lib.Clusters
import PrismGateway.Admin.AnchorClusters
import PrismGateway.Lib.FloatRange
import PrismGateway.Admin.Calibration
import PrismGateway.Router.RankingDetails
import PrismGateway.Orchestrator.WeightedDraw
import PrismGateway.Router.KeywordSearch
import PrismGateway.Lib.MapHeap
import PrismGateway.Storage.MergeReferences
import PrismGateway.Admin.ChangeReports
import PrismGateway.Admin.RepeatedWrites
import PrismGateway.Router.LazySemantics
import PrismGateway.Api.StreamRelay
import PrismGateway.Benchmarking.Rounds
import PrismGateway.Admin.CsvExports
import PrismGateway.Api.ClaudeCodeBudget
import PrismGateway.Api.ClaudeCodeSpend
import PrismGateway.Lib.JsonNumbers
import PrismGateway.Providers.Translation
import PrismGateway.Providers.Conversations
import PrismGateway.Api.StreamPipeline
import PrismGateway.Benchmarking.Scheduler
import PrismGateway.Router.LiveStats
