import ReverseProxy.GoValues
import ReverseProxy.FiniteMap
import ReverseProxy.Transition
import ReverseProxy.ConfigData
import ReverseProxy.ConfigValidation
import ReverseProxy.PolicyBuild
import ReverseProxy.PoolRegistry
import ReverseProxy.TrafficRegistry
import ReverseProxy.OutlierRegistry
import ReverseProxy.CallScript
import ReverseProxy.SnapshotBuild
import ReverseProxy.RegistryEffect
import ReverseProxy.ProviderMerge
import ReverseProxy.SnapshotStore
import ReverseProxy.ApplyManager
import ReverseProxy.ApplyRejection
import ReverseProxy.CircuitBreaker
import ReverseProxy.ListText
import ReverseProxy.CacheKey
import ReverseProxy.BreakerLockout
import ReverseProxy.CacheIsolation
import ReverseProxy.FilterGate
import ReverseProxy.KeyParts
import ReverseProxy.ApplyAgreement
import ReverseProxy.LockedWindow
import ReverseProxy.PoolCoverage
import ReverseProxy.RolloutRecovery
import ReverseProxy.ControlPlane
import ReverseProxy.Coalescer
import ReverseProxy.LayeredFold
import ReverseProxy.MergeMeaning
import ReverseProxy.ServingPools
import ReverseProxy.SerialApplies
import ReverseProxy.Crew
import ReverseProxy.StoreSteps
import ReverseProxy.SnapshotLifetimes
import ReverseProxy.RetiredList
import ReverseProxy.InflightTracker
import ReverseProxy.InflightCounts
import ReverseProxy.RetryBudget
import ReverseProxy.BudgetedRetries
import ReverseProxy.RetryLedger
import ReverseProxy.OutlierDetection
import ReverseProxy.BreakerRegistry
import ReverseProxy.KeyIsolation
import ReverseProxy.Deployments
import ReverseProxy.CanaryBrakes
import ReverseProxy.OutlierCoverage
import ReverseProxy.RequestIntake
import ReverseProxy.FailureContract
import ReverseProxy.PlanHistory
import ReverseProxy.BuildAcceptance
import ReverseProxy.LockedMask
import ReverseProxy.StartupPath
import ReverseProxy.PoolLookup
import ReverseProxy.SignedBundle
import ReverseProxy.AdminHistory
import ReverseProxy.AdminApi
import ReverseProxy.ValidationLoops
import ReverseProxy.LimiterSlots
import ReverseProxy.PlanPointers
import ReverseProxy.OverloadBound
import ReverseProxy.ShutdownOrder
import ReverseProxy.PoolMembership
import ReverseProxy.EndpointRecovery
import ReverseProxy.BreakerProbes
import ReverseProxy.BreakerHistory
import ReverseProxy.PluginBreaker
import ReverseProxy.MemoryStore
import ReverseProxy.RetryExecute
import ReverseProxy.RetryOutcomes
import ReverseProxy.RetryTokens
import ReverseProxy.Base64
import ReverseProxy.JsonText
import ReverseProxy.BundleSigning
import ReverseProxy.Doubling
import ReverseProxy.EjectDurations
import ReverseProxy.RepeatOffenders
import ReverseProxy.OutlierCounters
import ReverseProxy.EjectionCap
import ReverseProxy.LimiterRuns
import ReverseProxy.Binary64
import ReverseProxy.Tally
import ReverseProxy.RollingCounter
import ReverseProxy.TrafficStats
import ReverseProxy.StatsWindow
import ReverseProxy.StatsRuns
import ReverseProxy.BodyLimit
import ReverseProxy.Recency
import ReverseProxy.ClientCapLru
import ReverseProxy.MillisecondFields
import ReverseProxy.Rounds
import ReverseProxy.CanarySplit
import ReverseProxy.RoundRobin
import ReverseProxy.XorShift
import ReverseProxy.RandomSeed
import ReverseProxy.BundleHistory
import ReverseProxy.RingWrites
import ReverseProxy.LatencySamples
import ReverseProxy.HeaderMutations
import ReverseProxy.TokenBucket
import ReverseProxy.AdminLimiter
import ReverseProxy.AdminBlocks
import ReverseProxy.Ranking
import ReverseProxy.TopKeys
import ReverseProxy.BundlePull
import ReverseProxy.Custody
import ReverseProxy.TransportRegistry
import ReverseProxy.TransportRuns
import ReverseProxy.PluginClients
import ReverseProxy.AdminAccess
import ReverseProxy.AutoDrain
import ReverseProxy.PoolSteps
