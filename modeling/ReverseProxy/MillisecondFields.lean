import ReverseProxy.ApplyManager

/-! The millisecond fields of a config and the durations a build makes of them. Every
conversion multiplies in int64, so a positive field of m becomes m * 10^6 nanoseconds
exactly when that product is below 2^63; the few checks that follow look at the sign of
the wrapped product only. -/
namespace ReverseProxy.MillisecondFields
open GoValues FiniteMap ConfigData PolicyBuild SnapshotBuild
open List (Forall₂)

def Same (m : Int) (d : Duration) : Prop := 0 < m → d = m * 1000000 ∧ (0 : Int) < d

def Converted (m : Int) (d : Duration) : Prop := 0 < m → d = milliseconds m

def Fits (m : Int) : Prop := m * 1000000 < 2^63
instance (m : Int) : Decidable (Fits m) := by unfold Fits; infer_instance

theorem sameFits (m : Int) (d : Duration) (converted : Converted m d) : Same m d ↔ Fits m := by
  unfold Fits
  constructor
  · intro same
    by_cases positive : 0 < m
    · have product : wrap64 (m * 1000000) = m * 1000000 := (converted positive).symm.trans (same positive).1
      have below := wrap64Lt (m * 1000000)
      omega
    · omega
  · intro fits positive
    have product : wrap64 (m * 1000000) = m * 1000000 := wrap64Same (by omega) fits
    have exactly : d = m * 1000000 := (converted positive).trans product
    exact ⟨exactly,by rw [exactly]; omega⟩

@[simp] theorem convertedDefault (m : Int) (fallback : Duration) : Converted m (durationOrDefault m fallback) :=
  fun positive => if_neg (by omega)

@[simp] theorem convertedZero (m : Int) : Converted m (durationOrZero m) := fun positive => if_neg (by omega)

@[simp] theorem convertedPositive (m : Int) (fallback : Duration) : Converted m (if 0 < m then milliseconds m else fallback) :=
  fun positive => if_pos positive

theorem pairsIff {α β : Type} {R S : α → β → Prop} {T : α → Prop} {as : List α} {bs : List β} (pairs : Forall₂ R as bs)
    (one : ∀ a b, R a b → (S a b ↔ T a)) : Forall₂ S as bs ↔ ∀ a ∈ as, T a := by
  induction pairs with
  | nil => simp
  | cons first rest ih => rw [List.forall₂_cons, one _ _ first, ih, List.forall_mem_cons]

theorem allSame {ms : List Int} {ds : List Duration} (converted : Forall₂ Converted ms ds) :
    Forall₂ Same ms ds ↔ ∀ m ∈ ms, Fits m :=
  pairsIff converted sameFits

def limitsMS (cfg : LimitsConfig) : List Int :=
  [cfg.readHeaderTimeoutMS,cfg.readTimeoutMS,cfg.writeTimeoutMS,cfg.idleTimeoutMS,cfg.responseStreamTimeoutMS]

def limitsTimes (l : Limits) : List Duration :=
  [l.readHeaderTimeout,l.readTimeout,l.writeTimeout,l.idleTimeout,l.responseStreamTimeout]

def healthMS (cfg : HealthConfig) : List Int := [cfg.intervalMS,cfg.timeoutMS,cfg.baseEjectMS,cfg.maxEjectMS]

def healthTimes (h : Health) : List Duration := [h.interval,h.timeout,h.baseEjectDuration,h.maxEjectDuration]

def transportMS (cfg : PoolTransportConfig) : List Int := [cfg.idleConnTimeoutMS]

def transportTimes (o : TransportOptions) : List Duration := [o.idleConnTimeout]

def breakerMS (cfg : BreakerConfig) : List Int := [cfg.evaluationWindowMS,cfg.openMS]

def breakerTimes (b : Breaker) : List Duration := [b.evaluationWindow,b.openDuration]

def outlierMS (cfg : OutlierConfig) : List Int :=
  [cfg.errorRateWindowMS,cfg.baseEjectMS,cfg.maxEjectMS,cfg.latencyEvalIntervalMS]

def outlierTimes (o : Outlier) : List Duration :=
  [o.errorRateWindow,o.baseEjectDuration,o.maxEjectDuration,o.latencyEvalInterval]

def poolMS (pool : Pool) : List Int := breakerMS pool.breaker ++ outlierMS pool.outlier

def poolTimes (p : PoolConfig) : List Duration := breakerTimes p.breaker ++ outlierTimes p.outlier

def retryMS (cfg : RetryConfig) : List Int :=
  [cfg.perTryTimeoutMS,cfg.totalRetryBudgetMS,cfg.backoffMS,cfg.backoffJitterMS]

def retryTimes (r : RetryPolicy) : List Duration := [r.perTryTimeout,r.totalRetryBudget,r.backoff,r.backoffJitter]

def cacheMS (cfg : CacheConfig) : List Int := [cfg.ttlMS,cfg.coalesceTimeoutMS]

def cacheTimes (c : CachePolicy) : List Duration := [c.ttl,c.coalesceTimeout]

def filterMS (cfg : PluginFilter) : List Int := [cfg.requestTimeoutMS,cfg.responseTimeoutMS,cfg.breaker.openMS]

def filterTimes (f : Filter) : List Duration := [f.requestTimeout,f.responseTimeout,f.breaker.openDuration]

def policyMS (cfg : RoutePolicy) : List Int :=
  [cfg.requestTimeoutMS,cfg.upstreamDialTimeoutMS,cfg.upstreamResponseHeaderTimeoutMS] ++ retryMS cfg.retry ++
    cacheMS cfg.cache ++ (items cfg.plugins.filters).flatMap filterMS

def policyTimes (p : Policy) : List Duration :=
  [p.requestTimeout,p.upstreamDialTimeout,p.upstreamResponseHeaderTimeout] ++ retryTimes p.retry ++
    cacheTimes p.cache ++ p.plugins.filters.flatMap filterTimes

def trafficMS (cfg : TrafficConfig) : List Int :=
  [cfg.overload.queueTimeoutMS,cfg.autoDrain.windowMS,cfg.autoDrain.cooloffMS]

def trafficTimes (t : Traffic) : List Duration := [t.overload.queueTimeout,t.autoDrain.window,t.autoDrain.cooloff]

/- All that a build converts. A traffic section that is off is not read, and the shutdown
section is no part of a snapshot. -/
def routeMS (route : Route) : List Int :=
  policyMS route.policy ++ if route.policy.traffic.enabled then trafficMS route.policy.traffic else []

def fields (cfg : Config) : List Int :=
  limitsMS cfg.limits ++
    cfg.pools.entries.flatMap (fun e => poolMS e.2 ++ healthMS e.2.health ++ transportMS e.2.transport) ++
    (items cfg.routes).flatMap routeMS

structure Exact (cfg : Config) (built : Compiled) (calls : List Call) : Prop where
  limits : Forall₂ Same (limitsMS cfg.limits) (limitsTimes built.limits)
  pools : ∀ name pool, cfg.pools.get name = some pool →
    ∃ p, built.poolConfigs.get name = some p ∧ Forall₂ Same (poolMS pool) (poolTimes p)
  health : ∀ name pool, cfg.pools.get name = some pool →
    ∃ health, (∃ endpoints opts, Call.reconcile name endpoints health opts ∈ calls) ∧
      Forall₂ Same (healthMS pool.health) (healthTimes health)
  transport : ∀ name pool, cfg.pools.get name = some pool →
    ∃ opts, (∃ endpoints health, Call.reconcile name endpoints health opts ∈ calls) ∧
      Forall₂ Same (transportMS pool.transport) (transportTimes opts)
  routes : Forall₂ (fun route r => Forall₂ Same (policyMS route.policy) (policyTimes r.policy)) (items cfg.routes) built.routes
  traffic : ∀ route ∈ items cfg.routes, route.policy.traffic.enabled = true →
    ∃ t, Call.plan route.id t ∈ calls ∧ Forall₂ Same (trafficMS route.policy.traffic) (trafficTimes t)

theorem limitsConverted (cfg : LimitsConfig) : Forall₂ Converted (limitsMS cfg) (limitsTimes (limitsOf cfg)) := by
  simp [limitsMS,limitsTimes,limitsOf]

theorem healthConverted (cfg : HealthConfig) : Forall₂ Converted (healthMS cfg) (healthTimes (healthFromConfig cfg)) := by
  simp [healthMS,healthTimes,healthFromConfig]

theorem transportConverted (cfg : PoolTransportConfig) :
    Forall₂ Converted (transportMS cfg) (transportTimes (transportFromConfig cfg)) := by
  simp [transportMS,transportTimes,transportFromConfig]

theorem poolConverted (pool : Pool) : Forall₂ Converted (poolMS pool) (poolTimes (poolConfig pool)) := by
  simp [poolMS,poolTimes,poolConfig,breakerMS,breakerTimes,breakerFromConfig,outlierMS,outlierTimes,outlierFromConfig]

theorem retryConverted (cfg : RetryConfig) : Forall₂ Converted (retryMS cfg) (retryTimes (retryFromConfig cfg)) := by
  simp [retryMS,retryTimes,retryFromConfig]

theorem cacheConverted {routeID : String} {cfg : CacheConfig} {c : CachePolicy}
    (ok : cachePolicyFromConfig routeID cfg = .ok c) : Forall₂ Converted (cacheMS cfg) (cacheTimes c) := by
  obtain ⟨ttl,coalesce,-⟩ := cachePolicyOk ok
  simp [cacheMS,cacheTimes,ttl,coalesce]

theorem filterConverted (cfg : PluginFilter) (mode : FailureMode) :
    Forall₂ Converted (filterMS cfg) (filterTimes (filterOf cfg mode)) := by
  simp [filterMS,filterTimes,filterOf]

theorem filtersConverted {runes : RuneTables} {routeID : String} {names later : List String} {fs : List PluginFilter}
    {gs : List Filter} (ok : filtersFromConfig runes routeID names fs = .ok (gs,later)) :
    Forall₂ Converted (fs.flatMap filterMS) (gs.flatMap filterTimes) := by
  have pairs := filtersFromConfigOk ok
  clear ok
  induction pairs with
  | nil => exact .nil
  | cons one rest ih =>
    obtain ⟨names,later,made⟩ := one
    obtain ⟨⟨mode,-,rfl⟩,-⟩ := filterFromConfigOk made
    exact List.rel_append (filterConverted _ mode) ih

theorem policyConverted {runes : RuneTables} {pools : PoolMap} {seen names later : List String} {route : Route}
    {policy : Policy} {choice : TrafficChoice} (ok : checkRoute runes pools seen names route = .ok (policy,choice,later)) :
    Forall₂ Converted (policyMS route.policy) (policyTimes policy) := by
  obtain ⟨-,⟨plugins,cache,plugged,cached,rfl⟩,-,-,-⟩ := checkRouteIff.mp ok
  have own : Forall₂ Converted
      [route.policy.requestTimeoutMS,route.policy.upstreamDialTimeoutMS,route.policy.upstreamResponseHeaderTimeoutMS]
      [durationOrDefault route.policy.requestTimeoutMS (30 * second),
        durationOrDefault route.policy.upstreamDialTimeoutMS second,
        durationOrDefault route.policy.upstreamResponseHeaderTimeoutMS (5 * second)] := by simp
  exact List.rel_append (List.rel_append (List.rel_append own (retryConverted _)) (cacheConverted cached))
    (filtersConverted (pluginPolicyOk plugged).2)

theorem trafficConverted (cfg : TrafficConfig) (stableWeight : Int) :
    Forall₂ Converted (trafficMS cfg) (trafficTimes (trafficChoice cfg stableWeight).config) := by
  simp [trafficMS,trafficTimes,trafficChoice]

theorem madeSame {β : Type} {made : β → Prop} {b : β} {times : β → List Duration} {ms : List Int} (own : made b)
    (only : ∀ x, made x → x = b) (converted : Forall₂ Converted ms (times b)) :
    (∃ x, made x ∧ Forall₂ Same ms (times x)) ↔ ∀ m ∈ ms, Fits m := by
  rw [← allSame converted]
  constructor
  · rintro ⟨x,its,same⟩
    rw [← only x its]
    exact same
  · exact fun same => ⟨b,own,same⟩

section
variable {platform : Platform} {cfg : Config} {range : cfg.pools.Range} {built : Compiled}

theorem limitsExact (builds : Builds platform cfg range.order built) :
    Forall₂ Same (limitsMS cfg.limits) (limitsTimes built.limits) ↔ ∀ m ∈ limitsMS cfg.limits, Fits m := by
  rw [(limitsFromConfigOk builds.limits).1]
  exact allSame (limitsConverted cfg.limits)

theorem poolsExact (builds : Builds platform cfg range.order built) {name : String} {pool : Pool}
    (named : cfg.pools.get name = some pool) :
    (∃ p, built.poolConfigs.get name = some p ∧ Forall₂ Same (poolMS pool) (poolTimes p)) ↔
      ∀ m ∈ poolMS pool, Fits m := by
  have own := builds.poolConfigured named
  exact madeSame own (fun x found => Option.some.inj (found.symm.trans own)) (poolConverted pool)

theorem poolMade (builds : Builds platform cfg range.order built) {name : String} {endpoints : List String} {health : Health}
    {opts : TransportOptions} :
    Call.reconcile name endpoints health opts ∈ (buildSnapshot platform cfg range).calls ↔
      ∃ pool, cfg.pools.get name = some pool ∧ Call.reconcile name endpoints health opts = poolCall (name,pool) := by
  rw [buildSnapshotCalls builds, List.mem_append, List.mem_cons]
  constructor
  · rintro (first | ⟨⟨⟩⟩ | later)
    · obtain ⟨⟨own,pool⟩,inside,same⟩ := List.mem_map.mp first
      cases same
      exact ⟨pool,PoolMap.getMember.mpr ((PoolMap.rangeMember range).mp inside),rfl⟩
    · exact absurd ((buildRoutesCalls _ _ _ _ _).noPool _ later) (by simp [Call.pool?])
  · rintro ⟨pool,named,same⟩
    exact .inl (List.mem_map.mpr ⟨(name,pool),(PoolMap.rangeMember range).mpr (PoolMap.getMember.mp named),same.symm⟩)

theorem poolMadeOnce (builds : Builds platform cfg range.order built) {name : String} {pool : Pool}
    (named : cfg.pools.get name = some pool) {endpoints : List String} {health : Health} {opts : TransportOptions}
    (called : Call.reconcile name endpoints health opts ∈ (buildSnapshot platform cfg range).calls) :
    health = healthFromConfig pool.health ∧ opts = transportFromConfig pool.transport := by
  obtain ⟨other,found,same⟩ := (poolMade builds).mp called
  cases Option.some.inj (found.symm.trans named)
  cases same
  exact ⟨rfl,rfl⟩

theorem healthExact (builds : Builds platform cfg range.order built) {name : String} {pool : Pool}
    (named : cfg.pools.get name = some pool) :
    (∃ health, (∃ endpoints opts, Call.reconcile name endpoints health opts ∈ (buildSnapshot platform cfg range).calls) ∧
      Forall₂ Same (healthMS pool.health) (healthTimes health)) ↔ ∀ m ∈ healthMS pool.health, Fits m :=
  madeSame ⟨_,_,(poolMade builds).mpr ⟨pool,named,rfl⟩⟩ (fun _ ⟨_,_,called⟩ => (poolMadeOnce builds named called).1)
    (healthConverted pool.health)

theorem transportExact (builds : Builds platform cfg range.order built) {name : String} {pool : Pool}
    (named : cfg.pools.get name = some pool) :
    (∃ opts, (∃ endpoints health, Call.reconcile name endpoints health opts ∈ (buildSnapshot platform cfg range).calls) ∧
      Forall₂ Same (transportMS pool.transport) (transportTimes opts)) ↔ ∀ m ∈ transportMS pool.transport, Fits m :=
  madeSame ⟨_,_,(poolMade builds).mpr ⟨pool,named,rfl⟩⟩ (fun _ ⟨_,_,called⟩ => (poolMadeOnce builds named called).2)
    (transportConverted pool.transport)

theorem routesExact (builds : Builds platform cfg range.order built) :
    Forall₂ (fun route r => Forall₂ Same (policyMS route.policy) (policyTimes r.policy)) (items cfg.routes) built.routes ↔
      ∀ route ∈ items cfg.routes, ∀ m ∈ policyMS route.policy, Fits m := by
  obtain ⟨turns,routes,rows,-,went⟩ := buildRoutesTurns builds.routed
  have pairs : Forall₂ (fun (route : Route) (r : CompiledRoute) =>
      Forall₂ Converted (policyMS route.policy) (policyTimes r.policy)) (items cfg.routes) built.routes := by
    rw [← routes, ← rows, List.forall₂_map_left_iff, List.forall₂_map_right_iff, List.forall₂_same]
    intro t inside
    obtain ⟨seen,names,later,checked⟩ := went t inside
    exact policyConverted checked
  exact pairsIff pairs (fun _ _ converted => allSame converted)

theorem planMade (builds : Builds platform cfg range.order built) {route : Route} (listed : route ∈ items cfg.routes)
    (enabled : route.policy.traffic.enabled = true) :
    Call.plan route.id (trafficChoice route.policy.traffic (stableShare route.policy.traffic)).config ∈
      (buildSnapshot platform cfg range).calls := by
  obtain ⟨turns,routes,-,calls,went⟩ := buildRoutesTurns builds.routed
  rw [← routes] at listed
  obtain ⟨t,inside,rfl⟩ := List.mem_map.mp listed
  obtain ⟨seen,names,later,checked⟩ := went t inside
  obtain ⟨-,-,traffic,-,-⟩ := checkRouteIff.mp checked
  obtain ⟨-,-,-,-,-,choice⟩ := (trafficConfigIff enabled).mp traffic
  have on : t.choice.config.enabled = true := (trafficConfigOk traffic).1.trans enabled
  rw [buildSnapshotCalls builds, calls, choice]
  refine List.mem_append_right _ (List.mem_cons_of_mem _ (List.mem_flatMap.mpr ⟨t,inside,?_⟩))
  rw [Turn.calls, reconcileRouteList, if_pos on]
  exact List.mem_cons_self

theorem planOnce {id : String} {a b : Traffic} (first : Call.plan id a ∈ (buildSnapshot platform cfg range).calls)
    (second : Call.plan id b ∈ (buildSnapshot platform cfg range).calls) : a = b := by
  have unique := (buildTidy platform cfg range).routes
  have listed : ∀ t, Call.plan id t ∈ (buildSnapshot platform cfg range).calls →
      (id,t) ∈ planned (buildSnapshot platform cfg range).calls :=
    fun t called => List.mem_filterMap.mpr ⟨_,called,rfl⟩
  exact Option.some.inj (((Map.keyedMember unique).mpr (listed a first)).symm.trans
    ((Map.keyedMember unique).mpr (listed b second)))

theorem trafficExact (builds : Builds platform cfg range.order built) {route : Route} (listed : route ∈ items cfg.routes)
    (enabled : route.policy.traffic.enabled = true) :
    (∃ t, Call.plan route.id t ∈ (buildSnapshot platform cfg range).calls ∧
      Forall₂ Same (trafficMS route.policy.traffic) (trafficTimes t)) ↔ ∀ m ∈ trafficMS route.policy.traffic, Fits m :=
  madeSame (planMade builds listed enabled) (fun _ called => planOnce called (planMade builds listed enabled))
    (trafficConverted ..)

structure Accepted (platform : Platform) (cfg : Config) (range : cfg.pools.Range) (built : Compiled) : Prop where
  valid : ∃ (checked : cfg.pools.Range) (warnings : List Message), ConfigValidation.validate platform cfg checked = .ok warnings
  ok : (buildSnapshot platform cfg range).result = .ok built

theorem fieldsFit : (∀ m ∈ fields cfg, Fits m) ↔
    (∀ m ∈ limitsMS cfg.limits, Fits m) ∧
    (∀ name pool, cfg.pools.get name = some pool → (∀ m ∈ poolMS pool, Fits m) ∧
      (∀ m ∈ healthMS pool.health, Fits m) ∧ ∀ m ∈ transportMS pool.transport, Fits m) ∧
    ∀ route ∈ items cfg.routes, (∀ m ∈ policyMS route.policy, Fits m) ∧
      (route.policy.traffic.enabled = true → ∀ m ∈ trafficMS route.policy.traffic, Fits m) := by
  unfold fields
  simp only [List.forall_mem_append, List.forall_mem_flatMap, routeMS, PoolMap.getMember, Prod.forall, and_assoc]
  refine and_congr_right fun _ => and_congr_right fun _ => forall₂_congr fun route _ => and_congr_right fun _ => ?_
  cases route.policy.traffic.enabled <;> simp

theorem millisecondsExact (accepted : Accepted platform cfg range built) :
    Exact cfg built (buildSnapshot platform cfg range).calls ↔ ∀ m ∈ fields cfg, Fits m := by
  have builds := buildSnapshotOk.mp accepted.ok
  rw [fieldsFit]
  constructor
  · intro exactly
    refine ⟨(limitsExact builds).mp exactly.limits,fun name pool named => ⟨?_,?_,?_⟩,fun route listed => ⟨?_,?_⟩⟩
    · exact (poolsExact builds named).mp (exactly.pools name pool named)
    · exact (healthExact builds named).mp (exactly.health name pool named)
    · exact (transportExact builds named).mp (exactly.transport name pool named)
    · exact (routesExact builds).mp exactly.routes route listed
    · exact fun enabled => (trafficExact builds listed enabled).mp (exactly.traffic route listed enabled)
  · rintro ⟨limits,pools,routes⟩
    exact {
      limits := (limitsExact builds).mpr limits
      pools := fun name pool named => (poolsExact builds named).mpr (pools name pool named).1
      health := fun name pool named => (healthExact builds named).mpr (pools name pool named).2.1
      transport := fun name pool named => (transportExact builds named).mpr (pools name pool named).2.2
      routes := (routesExact builds).mpr fun route listed => (routes route listed).1
      traffic := fun route listed enabled => (trafficExact builds listed enabled).mpr ((routes route listed).2 enabled) }

end

def timedPolicy (requestTimeoutMS : Int) : RoutePolicy where
  requestTimeoutMS := requestTimeoutMS
  cache := { enabled := true, ttlMS := 60000 }
  plugins := ⟨true,some [{ name := "f", addr := "127.0.0.1:9000", requestTimeoutMS := 20 }]⟩

def timedPool : Pool where
  endpoints := some ["10.0.0.1:80"]
  health := { intervalMS := 1000 }
  transport := { idleConnTimeoutMS := 4000 }
  breaker := { enabled := true, openMS := 3000 }
  outlier := { enabled := true, baseEjectMS := 10000 }

def timed (requestTimeoutMS : Int) : Config where
  limits := { readHeaderTimeoutMS := 2000, idleTimeoutMS := 45000 }
  routes := some [{ id := "r", host := "h", pathPrefix := "/", pool := "p", policy := timedPolicy requestTimeoutMS }]
  pools := PoolMap.single "p" timedPool

theorem secondsExact : ∃ built,
    Accepted (ApplyManager.decoding {}) (timed 1500) (timed 1500).pools.inOrder built ∧
      Exact (timed 1500) built (buildSnapshot (ApplyManager.decoding {}) (timed 1500) (timed 1500).pools.inOrder).calls := by
  obtain ⟨built,ok⟩ : ∃ built, (buildSnapshot (ApplyManager.decoding {}) (timed 1500)
      (timed 1500).pools.inOrder).result = .ok built := ⟨_,rfl⟩
  have accepted : Accepted _ _ _ built := ⟨⟨PoolMap.inOrder _,_,rfl⟩,ok⟩
  exact ⟨built,accepted,(millisecondsExact accepted).mpr (by decide)⟩

theorem longTimeoutWraps : ∃ built,
    Accepted (ApplyManager.decoding {}) (timed 9223372036855) (timed 9223372036855).pools.inOrder built ∧
      built.routes.map (·.policy.requestTimeout) = [-9223372036854551616] ∧
      ¬Exact (timed 9223372036855) built
        (buildSnapshot (ApplyManager.decoding {}) (timed 9223372036855) (timed 9223372036855).pools.inOrder).calls := by
  obtain ⟨built,ok,wrapped⟩ : ∃ built, (buildSnapshot (ApplyManager.decoding {}) (timed 9223372036855)
      (timed 9223372036855).pools.inOrder).result = .ok built ∧
      built.routes.map (·.policy.requestTimeout) = [-9223372036854551616] := ⟨_,rfl,by decide⟩
  refine ⟨built,⟨⟨PoolMap.inOrder _,_,rfl⟩,ok⟩,wrapped,fun exactly => ?_⟩
  have fits := (routesExact (buildSnapshotOk.mp ok)).mp exactly.routes _ List.mem_cons_self 9223372036855
    List.mem_cons_self
  exact absurd fits (by decide)

end ReverseProxy.MillisecondFields
