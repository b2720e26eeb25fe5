import SmartGate.Lib.Transition
import SmartGate.Lib.ExpiringStore
import SmartGate.Lib.Coalescing
import SmartGate.Lib.Data
import SmartGate.Lib.Keyset
import SmartGate.Lib.Least
import SmartGate.Lib.Table
import SmartGate.Lib.Cache
import SmartGate.Lib.Processes
import SmartGate.Lib.Fallback
import SmartGate.Lib.Glob
import SmartGate.Lib.Base64
import SmartGate.Lib.CacheFleet
import SmartGate.Types
import SmartGate.Models
import SmartGate.Storage.Redis
import SmartGate.Storage.Audit
import SmartGate.Storage.Database
import SmartGate.Storage.Listing
import SmartGate.Storage.Repositories
import SmartGate.Storage.Policies
import SmartGate.Storage.Routes
import SmartGate.Storage.Usage
import SmartGate.Storage.UsageSummary
import SmartGate.Auth.Nonce
import SmartGate.Auth.Verifier
import SmartGate.Auth.Middleware
import SmartGate.Auth.Replay
import SmartGate.Auth.DataPlane
import SmartGate.Auth.Integrity
import SmartGate.Auth.Identity
import SmartGate.Auth.NonceRecords
import SmartGate.Auth.Opacity
import SmartGate.Auth.Withdrawal
import SmartGate.Auth.KeyStore
import SmartGate.Auth.KeyStaleness
import SmartGate.Auth.KeyTiers
import SmartGate.Auth.Pem
import SmartGate.Policy.Checks
import SmartGate.Policy.Estimate
import SmartGate.Policy.Engine
import SmartGate.Policy.Meet
import SmartGate.Policy.Merge
import SmartGate.Policy.Cache
import SmartGate.Policy.Concurrency
import SmartGate.Policy.Middleware
import SmartGate.Policy.RateLimit
import SmartGate.Policy.RateLimitHistory
import SmartGate.Policy.RetryAfter
import SmartGate.Policy.RateLimitAccounting
import SmartGate.Policy.RateLimitPromise
import SmartGate.Policy.ConcurrentLimits
import SmartGate.Policy.SlotRecovery
import SmartGate.Policy.LateRollback
import SmartGate.Routing.Router
import SmartGate.Routing.Resolver
import SmartGate.Routing.Retry
import SmartGate.Routing.Execution
import SmartGate.Routing.Backoff
import SmartGate.Routing.WorstCase
import SmartGate.Routing.Fallback
import SmartGate.Admin.Validation
import SmartGate.Admin.Patterns
import SmartGate.Admin.Handlers
import SmartGate.Admin.PolicyDeletion
import SmartGate.Admin.TenantScope
import SmartGate.Admin.AuditTrail
import SmartGate.Admin.Authentication
import SmartGate.Admin.CacheCoherence
import SmartGate.Admin.DeletionCascade
import SmartGate.Admin.Effects
import SmartGate.Admin.Queries
import SmartGate.Admin.Routes
import SmartGate.Admin.ControlPlane
import SmartGate.Gateway.Staleness
import SmartGate.Gateway.Pipeline
import SmartGate.Gateway.RateLimitHeaders
import SmartGate.Gateway.Progress
import SmartGate.Gateway.Counters
import SmartGate.Gateway.Isolation
import SmartGate.Gateway.Forgery
import SmartGate.Gateway.Retention
import SmartGate.Gateway.Config
