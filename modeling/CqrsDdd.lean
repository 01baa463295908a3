import CqrsDdd.Transition
import CqrsDdd.Dict
import CqrsDdd.Trace
import CqrsDdd.Sagas.State
import CqrsDdd.Sagas.Orchestration
import CqrsDdd.Sagas.TccMachine
import CqrsDdd.Sagas.TccSafety
import CqrsDdd.Sagas.TccOutcome
import CqrsDdd.Sagas.Manager
import CqrsDdd.Sagas.Effects
import CqrsDdd.Sagas.Dispatch
import CqrsDdd.Sagas.CommandDelivery
import CqrsDdd.Sagas.CompensationDelivery
import CqrsDdd.Outbox.Storage
import CqrsDdd.Outbox.Workers
import CqrsDdd.Outbox.Agreement
import CqrsDdd.Messaging.Consumers
import CqrsDdd.Messaging.Envelope
import CqrsDdd.Messaging.Delivery
import CqrsDdd.Transactions.Hooks
import CqrsDdd.Transactions.ExactHooks
import CqrsDdd.Transactions.Mediator
import CqrsDdd.Transactions.OneTransaction
import CqrsDdd.EventSourcing.Loader
import CqrsDdd.EventSourcing.Replay
import CqrsDdd.EventSourcing.Snapshots
import CqrsDdd.EventSourcing.Repository
import CqrsDdd.EventSourcing.Responses
import CqrsDdd.Locking.CriticalSection
import CqrsDdd.Locking.Guard
import CqrsDdd.Locking.WaitFor
import CqrsDdd.Locking.InMemory
import CqrsDdd.Locking.Serialised
import CqrsDdd.Events.Dispatcher
import CqrsDdd.Events.Tracing
import CqrsDdd.Generator
import CqrsDdd.Paging
import CqrsDdd.EventStores.Stores
import CqrsDdd.EventStores.Criteria
import CqrsDdd.EventStores.Pagination
import CqrsDdd.EventStores.Streaming
import CqrsDdd.EventStores.MongoAppends
import CqrsDdd.Projections.Workers
import CqrsDdd.Projections.AdvancedWorker
import CqrsDdd.Projections.Replay
import CqrsDdd.Projections.Stores
import CqrsDdd.Projections.SqlRows
import CqrsDdd.Projections.MongoDocuments
import CqrsDdd.Attempts
import CqrsDdd.Specifications.Values
import CqrsDdd.Specifications.Factory
import CqrsDdd.Filtering.Syntaxes
import CqrsDdd.Filtering.Parser
import CqrsDdd.Filtering.Soundness
import CqrsDdd.Specifications.Evaluation
import CqrsDdd.Noninterference
import CqrsDdd.Multitenancy.Repository
import CqrsDdd.Multitenancy.Guards
import CqrsDdd.Multitenancy.Isolation
import CqrsDdd.Memo
import CqrsDdd.Identity.Principal
import CqrsDdd.Access.Evaluators
import CqrsDdd.Access.Pep
import CqrsDdd.Multitenancy.Resolvers
import CqrsDdd.Multitenancy.Middleware
import CqrsDdd.Access.Authorization
import CqrsDdd.Access.PostFilter
import CqrsDdd.Access.QueryFilter
import CqrsDdd.Access.Decorators
import CqrsDdd.Access.FailClosed
import CqrsDdd.Access.StepUp
import CqrsDdd.Access.Elevation
import CqrsDdd.Access.ElevationSafety
import CqrsDdd.Expiring
import CqrsDdd.StorePrograms
import CqrsDdd.Identity.Session
import CqrsDdd.Identity.Database
import CqrsDdd.Identity.Sessions
import CqrsDdd.Identity.SessionSafety
import CqrsDdd.Identity.SingleUse
import CqrsDdd.Identity.Otp
import CqrsDdd.Identity.GuessingBudgets
import CqrsDdd.Specifications.Casting
import CqrsDdd.Specifications.Agreement
import CqrsDdd.Caching.Repositories
import CqrsDdd.Caching.ReadThrough
import CqrsDdd.Caching.FilteredReads
import CqrsDdd.Mongo.Repository
import CqrsDdd.Mongo.OptimisticConcurrency
import CqrsDdd.Caching.Dispatcher
import CqrsDdd.Caching.StaleEntries
import CqrsDdd.Sagas.Frames
import CqrsDdd.Sagas.Idempotency
import CqrsDdd.Sagas.Retagging
import CqrsDdd.Sagas.Redelivery
import CqrsDdd.Sagas.StalledRecovery
import CqrsDdd.Trimming
import CqrsDdd.Filtering.ColonRoundTrip
import CqrsDdd.Sagas.TccCoherence
import CqrsDdd.Outbox.Bookkeeping
import CqrsDdd.Outbox.RetryBudget
import CqrsDdd.Locking.RedisCalls
import CqrsDdd.Locking.FifoRedis
import CqrsDdd.Locking.FifoSafety
import CqrsDdd.Locking.FifoQueue
import CqrsDdd.Locking.StaleReleases
import CqrsDdd.Locking.LockKeys
import CqrsDdd.BackgroundJobs.Jobs
import CqrsDdd.BackgroundJobs.Cancellation
import CqrsDdd.Scheduling.Commands
import CqrsDdd.Scheduling.Dispatch
import CqrsDdd.Scheduling.Batches
import CqrsDdd.Analytics.Buffer
import CqrsDdd.Analytics.Conservation
import CqrsDdd.ThreeValued
import CqrsDdd.Specifications.MongoFilters
import CqrsDdd.Specifications.Clauses
import CqrsDdd.Specifications.BackEnds
import CqrsDdd.Specifications.MemoryOperators
import CqrsDdd.Specifications.SqlOperators
import CqrsDdd.RegularExpressions
import CqrsDdd.Specifications.Patterns
import CqrsDdd.Specifications.TextLeaves
import CqrsDdd.Specifications.Nulls
import CqrsDdd.Specifications.Readers
import CqrsDdd.Caching.ListAll
import CqrsDdd.Links
import CqrsDdd.EventSourcing.Upcasting
import CqrsDdd.Specifications.RoundTrip
import CqrsDdd.EventStores.TenantReads
import CqrsDdd.EventStores.TenantRestriction
import CqrsDdd.Outbox.TenantStorage
import CqrsDdd.Outbox.TenantIsolation
import CqrsDdd.Access.AclGrants
import CqrsDdd.Sagas.CompensationAccounting
import CqrsDdd.Sagas.Builder
import CqrsDdd.Sagas.BuiltSaga
import CqrsDdd.Client
import CqrsDdd.Sagas.TenantRepository
import CqrsDdd.Sagas.TenantManager
import CqrsDdd.DepthFirst
import CqrsDdd.Projections.InitializationOrder
import CqrsDdd.Specifications.Builder
import CqrsDdd.Specifications.Validation
import CqrsDdd.Specifications.Traversal
import CqrsDdd.BackgroundJobs.Lifecycle
import CqrsDdd.Projections.ErrorPolicies
import CqrsDdd.OrderedMerge
import CqrsDdd.Conflict.DeepMerge
import CqrsDdd.Conflict.Blending
import CqrsDdd.Conflict.ListHandling
import CqrsDdd.Conflict.MergeLaws
import CqrsDdd.Access.DenyWins
import CqrsDdd.Worklist
import CqrsDdd.Access.RoleExpansion
import CqrsDdd.Access.AbacAnswers
import CqrsDdd.Multitenancy.ConnectionPool
import CqrsDdd.Multitenancy.PoolInvariant
import CqrsDdd.HeadOfLine
import CqrsDdd.Outbox.PoisonMessages
import CqrsDdd.Projections.SchemaJson
import CqrsDdd.KeyedRows
import CqrsDdd.Projections.SqlBatch
import CqrsDdd.Caching.FetchDomain
import CqrsDdd.Searching.SearchResults
import CqrsDdd.Searching.ListAndStream
import CqrsDdd.Access.ConditionConverter
import CqrsDdd.Access.ConditionRoundTrip
import CqrsDdd.Access.ConversionMeaning
import CqrsDdd.Specifications.JsonContainment
import CqrsDdd.Identity.BackupCodeRuns
import CqrsDdd.Recency
import CqrsDdd.Multitenancy.PoolRecency
import CqrsDdd.Multitenancy.TenantSpecifications
import CqrsDdd.Multitenancy.SchemaRouting
import CqrsDdd.Logged
import CqrsDdd.Handlers.Pipeline
import CqrsDdd.Handlers.Resilience
import CqrsDdd.Sagas.TenantIsolation
import CqrsDdd.Sagas.OwnSagas
import CqrsDdd.Sagas.TenantHistories
import CqrsDdd.UniqueRows
import CqrsDdd.Projections.SqlTables
import CqrsDdd.Projections.TenantRows
import CqrsDdd.Projections.TenantProjections
import CqrsDdd.Projections.SeparateStores
import CqrsDdd.FileSystems
import CqrsDdd.FileStorage.Paths
import CqrsDdd.FileStorage.LocalStorage
import CqrsDdd.FileStorage.TenantBlobs
import CqrsDdd.BackgroundJobs.Claiming
