import ReverseProxy.FiniteMap
import ReverseProxy.GoValues

/-! The configuration document of package config: every field of the Go structs
under its own name, with the zero value as default. A JSON int is an `Int`
inside the int64 range, a finite float64 is the rational it denotes. The pool
map keeps one entry per name; ranging over it may use any enumeration. -/
namespace ReverseProxy.ConfigData
open GoValues (Slice Bytes Message RuneTables)

structure TLSCert where
  serverName : String := ""
  certFile : String := ""
  keyFile : String := ""
  deriving DecidableEq, Repr

structure TLSConfig where
  enabled : Bool := false
  addr : String := ""
  certs : Slice TLSCert := none
  clientCAFile : String := ""
  minVersion : String := ""
  cipherSuites : Slice String := none
  deriving DecidableEq, Repr

structure LimitsConfig where
  maxHeaderBytes : Int := 0
  maxHeaderCount : Int := 0
  maxURLBytes : Int := 0
  maxBodyBytes : Option Int := none
  readHeaderTimeoutMS : Int := 0
  readTimeoutMS : Int := 0
  writeTimeoutMS : Int := 0
  idleTimeoutMS : Int := 0
  responseStreamTimeoutMS : Int := 0
  deriving DecidableEq, Repr

structure ShutdownConfig where
  drainMS : Int := 0
  gracefulTimeoutMS : Int := 0
  forceCloseMS : Int := 0
  deriving DecidableEq, Repr

structure LoggingConfig where
  redactQuery : Bool := false
  deriving DecidableEq, Repr

structure MetricsConfig where
  enabled : Option Bool := none
  path : String := ""
  requireToken : Bool := false
  tokenEnv : String := ""
  deriving DecidableEq, Repr

structure RetryConfig where
  enabled : Bool := false
  maxAttempts : Int := 0
  perTryTimeoutMS : Int := 0
  totalRetryBudgetMS : Int := 0
  retryOnStatus : Slice Int := none
  retryOnErrors : Slice String := none
  backoffMS : Int := 0
  backoffJitterMS : Int := 0
  deriving DecidableEq, Repr

structure RetryBudgetConfig where
  enabled : Bool := false
  percentOfSuccesses : Int := 0
  burst : Int := 0
  deriving DecidableEq, Repr

structure ClientRetryCapConfig where
  enabled : Bool := false
  key : String := ""
  percentOfSuccesses : Int := 0
  burst : Int := 0
  lruSize : Int := 0
  deriving DecidableEq, Repr

structure CacheConfig where
  enabled : Bool := false
  isPublic : Bool := false
  ttlMS : Int := 0
  maxObjectBytes : Int := 0
  varyHeaders : Slice String := none
  coalesceEnabled : Option Bool := none
  coalesceTimeoutMS : Int := 0
  onlyIfContentLength : Option Bool := none
  deriving DecidableEq, Repr

structure CohortConfig where
  enabled : Bool := false
  key : String := ""
  deriving DecidableEq, Repr

structure OverloadConfig where
  enabled : Bool := false
  maxInflight : Int := 0
  maxQueue : Int := 0
  queueTimeoutMS : Int := 0
  deriving DecidableEq, Repr

structure AutoDrainConfig where
  enabled : Bool := false
  windowMS : Int := 0
  minRequests : Int := 0
  errorRateMultiplier : Rat := 0
  cooloffMS : Int := 0
  deriving DecidableEq, Repr

structure TrafficConfig where
  enabled : Bool := false
  stablePool : String := ""
  canaryPool : String := ""
  stableWeight : Int := 0
  canaryWeight : Int := 0
  cohort : CohortConfig := {}
  overload : OverloadConfig := {}
  autoDrain : AutoDrainConfig := {}
  deriving DecidableEq, Repr

structure PluginBreakerConfig where
  enabled : Option Bool := none
  consecutiveFailures : Int := 0
  openMS : Int := 0
  halfOpenProbes : Int := 0
  deriving DecidableEq, Repr

structure PluginFilter where
  name : String := ""
  addr : String := ""
  requestTimeoutMS : Int := 0
  responseTimeoutMS : Int := 0
  failureMode : String := ""
  breaker : PluginBreakerConfig := {}
  deriving DecidableEq, Repr

structure PluginConfig where
  enabled : Bool := false
  filters : Slice PluginFilter := none
  deriving DecidableEq, Repr

structure RoutePolicy where
  requestTimeoutMS : Int := 0
  upstreamDialTimeoutMS : Int := 0
  upstreamResponseHeaderTimeoutMS : Int := 0
  retry : RetryConfig := {}
  retryBudget : RetryBudgetConfig := {}
  clientRetryCap : ClientRetryCapConfig := {}
  requireMTLS : Bool := false
  mtlsClientCA : String := ""
  cache : CacheConfig := {}
  traffic : TrafficConfig := {}
  plugins : PluginConfig := {}
  deriving DecidableEq, Repr

structure Route where
  id : String := ""
  host : String := ""
  pathPrefix : String := ""
  methods : Slice String := none
  pool : String := ""
  policy : RoutePolicy := {}
  overlay : Bool := false
  deriving DecidableEq, Repr

structure HealthConfig where
  path : String := ""
  intervalMS : Int := 0
  timeoutMS : Int := 0
  unhealthyAfterFailures : Int := 0
  healthyAfterSuccesses : Int := 0
  baseEjectMS : Int := 0
  maxEjectMS : Int := 0
  deriving DecidableEq, Repr

structure PoolTransportConfig where
  maxIdlePerHost : Int := 0
  maxConnsPerHost : Int := 0
  idleConnTimeoutMS : Int := 0
  deriving DecidableEq, Repr

structure BreakerConfig where
  enabled : Bool := false
  failureRateThresholdPercent : Int := 0
  minimumRequests : Int := 0
  evaluationWindowMS : Int := 0
  openMS : Int := 0
  halfOpenMaxProbes : Int := 0
  deriving DecidableEq, Repr

structure OutlierConfig where
  enabled : Bool := false
  consecutiveFailures : Int := 0
  errorRateThreshold : Int := 0
  errorRateWindowMS : Int := 0
  minRequests : Int := 0
  baseEjectMS : Int := 0
  maxEjectMS : Int := 0
  maxEjectPercent : Int := 0
  latencyEnabled : Bool := false
  latencyWindowSize : Int := 0
  latencyEvalIntervalMS : Int := 0
  latencyMinSamples : Int := 0
  latencyMultiplier : Int := 0
  latencyConsecutiveIntervals : Int := 0
  deriving DecidableEq, Repr

structure Pool where
  endpoints : Slice String := none
  health : HealthConfig := {}
  breaker : BreakerConfig := {}
  outlier : OutlierConfig := {}
  transport : PoolTransportConfig := {}
  overlay : Bool := false
  deriving DecidableEq, Repr

structure PoolMap where
  entries : List (String × Pool) := []
  unique : (entries.map (·.1)).Nodup := by decide
  deriving DecidableEq, Repr

namespace PoolMap

def empty : PoolMap := {}

def single (name : String) (pool : Pool) : PoolMap := ⟨[(name,pool)],List.pairwise_singleton _ _⟩

def names (m : PoolMap) : List String := m.entries.map (·.1)

def get (m : PoolMap) (name : String) : Option Pool :=
  (m.entries.find? (fun e => e.1 = name)).map (·.2)

/- cfg.Pools[name] of a missing name is the zero Pool. -/
def getD (m : PoolMap) (name : String) : Pool := (m.get name).getD {}

theorem getMember {m : PoolMap} {name : String} {pool : Pool} :
    m.get name = some pool ↔ (name,pool) ∈ m.entries := FiniteMap.Map.keyedMember m.unique

theorem getNone {m : PoolMap} {name : String} : m.get name = none ↔ name ∉ m.names := by
  constructor
  · intro absent member
    obtain ⟨⟨key,pool⟩,inside,rfl⟩ := List.mem_map.mp member
    rw [getMember.mpr inside] at absent
    cases absent
  · intro absent
    cases found : m.get name with
    | none => rfl
    | some pool => exact absurd (List.mem_map.mpr ⟨_,getMember.mp found,rfl⟩) absent

theorem replaceNames (entries : List (String × Pool)) (name : String) (pool : Pool) :
    (entries.map (fun e => if e.1 = name then (name,pool) else e)).map (·.1) = entries.map (·.1) := by
  rw [List.map_map]
  apply List.map_congr_left
  intro e _
  simp only [Function.comp_apply]
  split
  · rename_i same
    exact same.symm
  · rfl

/- Assignment to one key of the Go map. -/
def set (m : PoolMap) (name : String) (pool : Pool) : PoolMap :=
  if present : name ∈ m.names then
    { entries := m.entries.map (fun e => if e.1 = name then (name,pool) else e)
      unique := by rw [replaceNames]; exact m.unique }
  else
    { entries := m.entries ++ [(name,pool)]
      unique := by
        rw [List.map_append, List.nodup_append]
        refine ⟨m.unique,by simp,?_⟩
        intro a left b right same
        have last : b = name := by simpa using right
        exact present (last ▸ same ▸ left) }

theorem getSet (m : PoolMap) (name x : String) (pool : Pool) :
    (m.set name pool).get x = if x = name then some pool else m.get x := by
  apply Option.ext
  intro v
  rw [getMember]
  unfold set
  split
  · rename_i present
    obtain ⟨⟨key,old⟩,inside,rfl⟩ := List.mem_map.mp present
    by_cases same : x = key
    · subst same
      simp only [List.mem_map, if_true, Option.some.injEq]
      constructor
      · rintro ⟨e,-,written⟩
        split at written
        · exact (Prod.mk.inj written).2
        · rename_i other
          exact absurd (congrArg Prod.fst written) other
      · rintro rfl
        exact ⟨_,inside,if_pos rfl⟩
    · simp only [List.mem_map, if_neg same, getMember]
      constructor
      · rintro ⟨e,member,written⟩
        split at written
        · exact absurd (congrArg Prod.fst written).symm same
        · exact written ▸ member
      · intro member
        exact ⟨_,member,if_neg same⟩
  · rename_i absent
    rw [List.mem_append,List.mem_singleton]
    by_cases same : x = name
    · subst same
      have outside : (x,v) ∉ m.entries := fun member => absent (List.mem_map.mpr ⟨_,member,rfl⟩)
      simp [outside,eq_comm]
    · simp [same,getMember]

end PoolMap

/- One execution of `range m`: some enumeration of the entries. -/
structure PoolMap.Range (m : PoolMap) where
  order : List (String × Pool)
  perm : order.Perm m.entries

def PoolMap.inOrder (m : PoolMap) : m.Range := ⟨m.entries,.refl _⟩

structure Config where
  listenAddr : String := ""
  tls : TLSConfig := {}
  limits : LimitsConfig := {}
  shutdown : ShutdownConfig := {}
  logging : LoggingConfig := {}
  metrics : Option MetricsConfig := none
  routes : Slice Route := none
  pools : PoolMap := PoolMap.empty
  deriving DecidableEq, Repr

theorem PoolMap.rangeUnique {m : PoolMap} (r : m.Range) : (r.order.map (·.1)).Nodup :=
  (r.perm.map _).nodup_iff.mpr m.unique

theorem PoolMap.rangeMember {m : PoolMap} (r : m.Range) {e : String × Pool} :
    e ∈ r.order ↔ e ∈ m.entries := r.perm.mem_iff

/- The standard library and the operating system as one call of the proxy sees
them. Certificates and CA pools are kept as the bytes they were read from. -/
structure Platform where
  runes : RuneTables
  sha256 : Bytes → Bytes
  parseJSON : Bytes → Except Message Config
  marshalJSON : Config → Except Message Bytes
  decodeBase64 : String → Except Message Bytes
  getenv : String → String
  loadX509KeyPair : String → String → Except Message Bytes
  readFile : String → Except Message Bytes
  appendCertsFromPEM : Bytes → Option Bytes
  cipherSuites : List (String × Nat)

end ReverseProxy.ConfigData
