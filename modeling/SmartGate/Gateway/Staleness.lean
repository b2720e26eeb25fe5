import SmartGate.Admin.Authentication
import SmartGate.Admin.CacheCoherence
import SmartGate.Lib.CacheFleet
import SmartGate.Routing.Resolver

/-!
# How old a cached answer can be

Merged policies, resolved routes and the keys of administrators are each kept in a cache of
the gateway that loads them on demand and coalesces its loads.  A write on one gateway does
not reach the caches of the others, so all that limits the age of an entry there is its time
to live.  An answer is what a load has read at a moment which is not longer before the
request than the time to live, and the delay of the load.  A load of policies that has to
fetch a default policy reads at two moments.
-/

namespace SmartGate

open CacheFleet Transition

/-! ## Policies -/

/-- What a statement of a load of policies meets: the order of rows and of hash sets, and
failures. -/
structure PolicyLoad where
  order : Enumeration Policy
  hash : Enumeration String
  failure : Option StorageError

/-- What the repository answers with these policies, unless the statement has failed. -/
def PolicyLoad.repo (load : PolicyLoad) (policies : List Policy) : PolicySource :=
  fun _ _ ↦ match load.failure with
    | none => .ok policies
    | some e => .error e

/-- `PolicyCache::new` and the loader of `get_or_evaluate`.  The bound policies are selected
first, and a default policy that is not among them by a second statement. -/
def policyService (ttlSecs : ℕ) :
    CacheFleet.Service Database ServiceAccountId AuthContext (List Policy) EvaluatedPolicy
      GatewayError PolicyLoad where
  key auth := auth.serviceAccountId
  first load db auth :=
    let policies := load.order.list (db.boundPolicies auth.serviceAccountId)
    if load.failure.isNone &&
        auth.defaultPolicyId.any fun id ↦ !PolicyRepo.alreadyPresent policies id then
      .inl policies
    else .inr (loadAndMerge load.hash (load.repo policies) auth)
  second load db auth policies :=
    loadAndMerge load.hash (load.repo (PolicyRepo.addDefault db policies auth.defaultPolicyId))
      auth
  ttl := 1000 * ttlSecs

/-- The repository whose two statements meet two states of the database. -/
def PolicyRepo.sourceBetween (order : Enumeration Policy) (first second : Database) :
    PolicySource := fun sa defaultPolicyId ↦
  .ok (addDefault second (order.list (first.boundPolicies sa)) defaultPolicyId)

theorem PolicyRepo.sourceBetween_self (order : Enumeration Policy) (db : Database) :
    sourceBetween order db db = source order db := rfl

theorem PolicyRepo.addDefault_of_present {policies : List Policy}
    {defaultPolicyId : Option PolicyId}
    (h : (defaultPolicyId.any fun id ↦ !alreadyPresent policies id) = false) (db : Database) :
    addDefault db policies defaultPolicyId = policies := by
  cases defaultPolicyId with
  | none => rfl
  | some id =>
      have hpresent : alreadyPresent policies id = true := by simpa using h
      rw [addDefault, if_pos hpresent]

theorem loadAndMerge_repo {load : PolicyLoad} {policies : List Policy} {auth : AuthContext}
    {e : EvaluatedPolicy} (h : loadAndMerge load.hash (load.repo policies) auth = .ok e) :
    load.failure = none ∧ mergePolicies load.hash policies = .ok e := by
  obtain ⟨policies', hload, hmerge⟩ := bind_eq_ok.mp h
  cases hfailure : load.failure with
  | some failure => simp [loadPolicies, PolicyLoad.repo, hfailure] at hload
  | none =>
      simp only [loadPolicies, PolicyLoad.repo, hfailure, Except.ok.injEq] at hload
      exact ⟨rfl, hload ▸ hmerge⟩

/-- A load that succeeds has merged what its two statements have selected. -/
theorem policyService_answer {ttlSecs : ℕ} {load load' : PolicyLoad} {db db' : Database}
    {auth : AuthContext} {e : EvaluatedPolicy}
    (h : (policyService ttlSecs).answer load db load' db' auth = .ok e) :
    ∃ hash : Enumeration String, mergePolicies hash (PolicyRepo.addDefault db'
      (load.order.list (db.boundPolicies auth.serviceAccountId)) auth.defaultPolicyId) = .ok e := by
  simp only [CacheFleet.Service.answer, policyService] at h
  split_ifs at h with hmissing
  · exact ⟨load'.hash, (loadAndMerge_repo h).2⟩
  · obtain ⟨hfailure, hmerge⟩ := loadAndMerge_repo h
    refine ⟨load.hash, ?_⟩
    rw [PolicyRepo.addDefault_of_present (by simpa [hfailure] using hmissing)]
    exact hmerge

abbrev PolicyFleet (ι : Type) :=
  CacheFleet.Fleet ι Database ServiceAccountId AuthContext (List Policy) EvaluatedPolicy
    GatewayError

abbrev PolicyFleetStep (ι : Type) :=
  CacheFleet.Step ι Database ServiceAccountId AuthContext PolicyLoad

section Policies

variable {ι : Type} [DecidableEq ι] {ttlSecs d now : ℕ} {db : Database}
  {steps : List (PolicyFleetStep ι)} {u : PolicyFleet ι}
  {l : CacheFleet.Lookup ι AuthContext EvaluatedPolicy GatewayError} {e : EvaluatedPolicy}
  {time : ℕ}

/-- Whatever is written meanwhile, and on whichever gateway: a request is decided as the
uncached evaluation would have decided it, for a caller of the same account, on the policies
that were bound at a moment which is not longer before the request than the time to live and
the delay of a load, and the default policy as it was then or later. -/
theorem cached_decision_age
    (htimely : Guarded (policyService ttlSecs).step (TimelyLoads d) (.start now db) steps)
    (hrun : run (policyService ttlSecs).step (.start now db) steps = some u)
    (hl : l ∈ u.lookups) (hreturned : l.phase = .returned (.ok e) time) :
    ∃ v ∈ visited (policyService ttlSecs).step (.start now db) steps,
      ∃ w ∈ visited (policyService ttlSecs).step (.start now db) steps,
        l.started ≤ v.now + (1000 * ttlSecs + d) ∧ v.now ≤ w.now ∧ w.now ≤ time ∧
        ∃ auth ∈ v.asked, auth.serviceAccountId = l.query.serviceAccountId ∧
          ∃ hash order, ∀ model features estimated requested,
            evaluate hash (PolicyRepo.sourceBetween order v.source w.source) auth model features
                estimated requested =
              decidePolicy e model features estimated requested := by
  obtain ⟨v, hv, w, hw, hle, hage, hvw, auth, hasked, hkey, load, load', hread⟩ :=
    returned_age htimely hrun hl hreturned
  obtain ⟨hash, hmerge⟩ := policyService_answer hread
  refine ⟨v, hv, w, hw, hage, hvw, hle, auth, hasked, hkey, hash, load.order, ?_⟩
  intro model features estimated requested
  have hmerged : loadAndMerge hash
      (PolicyRepo.sourceBetween load.order v.source w.source) auth = .ok e := hmerge
  rw [evaluate, hmerged]
  rfl

/-- Once the policies of an account have stood for the time to live and the delay of a load,
every gateway decides by them, also the gateways that no write has told. -/
theorem policy_change_enforced
    (htimely : Guarded (policyService ttlSecs).step (TimelyLoads d) (.start now db) steps)
    (hrun : run (policyService ttlSecs).step (.start now db) steps = some u)
    (hl : l ∈ u.lookups) (hreturned : l.phase = .returned (.ok e) time) {ps : List Policy}
    (hquiet : ∀ v ∈ visited (policyService ttlSecs).step (.start now db) steps, v.now ≤ time →
      l.started ≤ v.now + (1000 * ttlSecs + d) →
        v.source.boundPolicies l.query.serviceAccountId = ps ∧
        ∀ auth ∈ v.asked, auth.serviceAccountId = l.query.serviceAccountId →
          auth.defaultPolicyId = none)
    (hash : Enumeration String) :
    ∃ merged, mergePolicies hash ps = .ok merged ∧ e.SameDecision merged := by
  obtain ⟨v, hv, w, _, hle, hage, hvw, auth, hasked, hkey, load, load', hread⟩ :=
    returned_age htimely hrun hl hreturned
  have haccount : auth.serviceAccountId = l.query.serviceAccountId := hkey
  obtain ⟨hbound, hdefault⟩ := hquiet v hv (hvw.trans hle) hage
  obtain ⟨loaded, hmerge⟩ := policyService_answer hread
  rw [hdefault auth hasked haccount, PolicyRepo.addDefault_none, haccount, hbound] at hmerge
  obtain ⟨hmergeable, rfl⟩ := (mergePolicies_validates loaded _).valid_of_ok hmerge
  refine ⟨mergedPolicy hash ps, (mergePolicies_validates hash ps).ok fun p hp ↦ ?_, ?_⟩
  · exact hmergeable p (load.order.mem_list.mpr hp)
  · exact mergedPolicy_sameDecision loaded hash fun p ↦ load.order.mem_list

end Policies

/-- The database after the policy of the sample run has been bound. -/
def samplePolicyDatabase : Database :=
  ((run (gatewayStep .trusting) AppState.initial bindSamplePolicy).bind AppState.db).getD .empty

def plainLoad : PolicyLoad := ⟨.stored, .stored, none⟩

/-- A lookup that misses on its gateway, loads and returns. -/
def loadPolicy (gateway : Bool) (i : ℕ) : List (PolicyFleetStep Bool) :=
  [.startLookup gateway sampleCaller, .stepLookup i, .stepLoad i plainLoad, .wait 10,
    .stepLoad i plainLoad, .stepLookup i]

/-- Two gateways cache the policy, and all policies are withdrawn.  The first gateway is
asked half a minute later and the second at once. -/
def withdrawPolicy : List (PolicyFleetStep Bool) :=
  loadPolicy false 0 ++ loadPolicy true 1 ++
    [.write .empty, .startLookup true sampleCaller, .stepLookup 2, .wait 30020,
      .startLookup false sampleCaller, .stepLookup 3, .stepLoad 2 plainLoad,
      .stepLoad 2 plainLoad, .stepLookup 3]

/-- Who asked a lookup and when, and what it answered when. -/
def answeredLookup (u : PolicyFleet Bool) (i : ℕ) :
    Option (ServiceAccountId × ℕ × EvaluatedPolicy × ℕ) :=
  u.lookups[i]?.bind fun l ↦
    match l.phase with
    | .returned (.ok e) time => some (l.query.serviceAccountId, l.started, e, time)
    | _ => none

theorem answeredLookup_eq_some {u : PolicyFleet Bool} {i started time : ℕ}
    {sa : ServiceAccountId} {e : EvaluatedPolicy}
    (h : answeredLookup u i = some (sa, started, e, time)) :
    ∃ l ∈ u.lookups, l.query.serviceAccountId = sa ∧ l.started = started ∧
      l.phase = .returned (.ok e) time := by
  obtain ⟨l, hl, hphase⟩ := Option.bind_eq_some_iff.mp h
  refine ⟨l, List.mem_of_getElem? hl, ?_⟩
  split at hphase <;> cases hphase
  exact ⟨rfl, rfl, by assumption⟩

/-- The binding is deleted, and a second policy is created. -/
def rebindSamplePolicy : List GatewayOp :=
  bindSamplePolicy ++
    [.admin sampleAdmin 4 (.deleteBinding ⟨⟨2⟩⟩ ⟨⟨3⟩⟩),
      .admin sampleAdmin 5 (.createPolicy
        { tenantId := ⟨⟨1⟩⟩, name := "short answers", maxOutputTokens := some 256 } ⟨⟨5⟩⟩)]

def reboundPolicyDatabase : Database :=
  ((run (gatewayStep .trusting) AppState.initial rebindSamplePolicy).bind AppState.db).getD .empty

/-- The caller of the sample run, after its account was given the second policy by default. -/
def defaultedCaller : AuthContext := { sampleCaller with defaultPolicyId := some ⟨⟨5⟩⟩ }

/-- The policies change between the two statements of a load, and are all gone before the
account is asked for once more. -/
def rebindWhileLoading : List (PolicyFleetStep Bool) :=
  [.startLookup true defaultedCaller, .stepLookup 0, .stepLoad 0 plainLoad,
    .write reboundPolicyDatabase, .wait 10, .stepLoad 0 plainLoad, .stepLoad 0 plainLoad,
    .stepLookup 0, .write .empty, .wait 29999, .startLookup true defaultedCaller, .stepLookup 1]

/-- The gateway decides by two policies of which one was gone before the other applied. -/
theorem cached_decision_age_rebound :
    ∃ u l e, run (policyService 30).step (.start 0 samplePolicyDatabase) rebindWhileLoading =
        some u ∧ l ∈ u.lookups ∧ l.phase = .returned (.ok e) 30009 ∧
      e.modelAccess.allowedModels = ["gpt-4o-mini*"] ∧
      e.tokenLimits.maxOutputTokens = some 256 ∧
      ∃ v ∈ visited (policyService 30).step (.start 0 samplePolicyDatabase) rebindWhileLoading,
        ∃ w ∈ visited (policyService 30).step (.start 0 samplePolicyDatabase) rebindWhileLoading,
          l.started ≤ v.now + (1000 * 30 + 10) ∧ v.now ≤ w.now ∧ w.now ≤ 30009 ∧
          ∃ auth ∈ v.asked, auth.serviceAccountId = l.query.serviceAccountId ∧
            ∃ hash order, ∀ model features estimated requested,
              evaluate hash (PolicyRepo.sourceBetween order v.source w.source) auth model features
                  estimated requested =
                decidePolicy e model features estimated requested := by
  have hrun : ((run (policyService 30).step (.start 0 samplePolicyDatabase)
      rebindWhileLoading).bind fun u ↦ answeredLookup u 1) = some (⟨⟨2⟩⟩, 30009,
        ⟨⟨["gpt-4o-mini*"], []⟩, ⟨none, some 256⟩, ⟨true, true, true⟩, none, none⟩, 30009) := by
    decide +kernel
  have htimely : Guarded (policyService 30).step (TimelyLoads 10)
      (.start 0 samplePolicyDatabase) rebindWhileLoading := by
    decide +kernel
  obtain ⟨u, hu, hanswer⟩ := Option.bind_eq_some_iff.mp hrun
  obtain ⟨l, hl, _, _, hreturned⟩ := answeredLookup_eq_some hanswer
  exact ⟨u, l, _, hu, hl, hreturned, rfl, rfl, cached_decision_age htimely hu hl hreturned⟩

/-- Half a minute later the first gateway no longer knows it. -/
theorem policy_change_enforced_withdrawn :
    ∃ u l e, run (policyService 30).step (.start 0 samplePolicyDatabase) withdrawPolicy = some u ∧
      l ∈ u.lookups ∧ l.started = 30040 ∧ l.phase = .returned (.ok e) 30040 ∧
      ∃ merged, mergePolicies .stored [] = .ok merged ∧ e.SameDecision merged := by
  have hrun : ((run (policyService 30).step (.start 0 samplePolicyDatabase) withdrawPolicy).bind
      fun u ↦ answeredLookup u 3) = some (⟨⟨2⟩⟩, 30040, EvaluatedPolicy.default, 30040) := by
    decide +kernel
  have htimely : Guarded (policyService 30).step (TimelyLoads 10)
      (.start 0 samplePolicyDatabase) withdrawPolicy := by
    decide +kernel
  have hquiet : ∀ v ∈ visited (policyService 30).step (.start 0 samplePolicyDatabase)
      withdrawPolicy, v.now ≤ 30040 → 30040 ≤ v.now + (1000 * 30 + 10) →
        v.source.boundPolicies ⟨⟨2⟩⟩ = [] ∧
        ∀ auth ∈ v.asked, auth.serviceAccountId = ⟨⟨2⟩⟩ → auth.defaultPolicyId = none := by
    decide +kernel
  obtain ⟨u, hu, hanswer⟩ := Option.bind_eq_some_iff.mp hrun
  obtain ⟨l, hl, hquery, hstarted, hreturned⟩ := answeredLookup_eq_some hanswer
  rw [← hquery] at hquiet
  refine ⟨u, l, _, hu, hl, hstarted, hreturned, ?_⟩
  apply policy_change_enforced htimely hu hl hreturned
  rw [hstarted]
  exact hquiet

/-! ## Routes -/

/-- `RouteCache::new` and the loader of `resolve`. -/
def routeCacheService (ttlSecs : ℕ) :
    CacheFleet.Service RouteDatabase String (TenantId × String) Empty (List ProviderRoute)
      GatewayError (Enumeration RouteRow × Bool) :=
  .ofRead (fun query ↦ RouteCache.cacheKey query.1 query.2)
    (fun choice db query ↦ RouteResolver.load choice db query.1 query.2) (1000 * ttlSecs)

theorem RouteResolver.load_eq_ok {choice : Enumeration RouteRow × Bool} {db : RouteDatabase}
    {tenant : TenantId} {modelAlias : String} {routes : List ProviderRoute}
    (h : RouteResolver.load choice db tenant modelAlias = .ok routes) :
    RouteRepo.resolveRoutes choice.1 db.routes tenant modelAlias = .ok routes := by
  unfold RouteResolver.load at h
  split_ifs at h
  exact eq_ok_of_mapError h

/-- The routes that a request gets are exactly the rows that served its alias for its tenant
at one moment, in the order of the table at that moment, and the moment is not longer before
the request than the time to live and the delay of a load. -/
theorem resolved_routes_age {ι : Type} [DecidableEq ι] {ttlSecs d now : ℕ} {db : RouteDatabase}
    {steps : List (CacheFleet.Step ι RouteDatabase String (TenantId × String)
      (Enumeration RouteRow × Bool))}
    {u : CacheFleet.Fleet ι RouteDatabase String (TenantId × String) Empty
      (List ProviderRoute) GatewayError}
    (htimely : Guarded (routeCacheService ttlSecs).step (TimelyLoads d) (.start now db) steps)
    (hrun : run (routeCacheService ttlSecs).step (.start now db) steps = some u)
    {l : CacheFleet.Lookup ι (TenantId × String) (List ProviderRoute) GatewayError}
    (hl : l ∈ u.lookups) {loaded : Except GatewayError (List ProviderRoute)} {time : ℕ}
    (hreturned : l.phase = .returned loaded time) {routes : List ProviderRoute}
    (hanswer : RouteResolver.answer l.query.2 loaded = .ok routes) :
    ∃ v ∈ visited (routeCacheService ttlSecs).step (.start now db) steps,
      v.now ≤ time ∧ l.started ≤ v.now + (1000 * ttlSecs + d) ∧
      routes.Pairwise Route.Precedes ∧
      ∀ row, (∃ route ∈ routes, route.encode = row) ↔
        row ∈ v.source.routes.rows ∧ row.Serves l.query.1 l.query.2 := by
  obtain ⟨v, hv, hle, hage, query, _, choice, hkey, hread⟩ :=
    returned_age_ofRead htimely hrun hl hreturned
  cases RouteCache.cacheKey_injective hkey
  have hloaded : loaded = .ok routes := by
    unfold RouteResolver.answer at hanswer
    split at hanswer <;> cases hanswer
    rfl
  have hresolved := RouteResolver.load_eq_ok (hread.trans hloaded)
  exact ⟨v, hv, hle, hage, RouteRepo.pairwise_resolveRoutes hresolved,
    fun row ↦ RouteRepo.mem_resolveRoutes hresolved⟩

/-- What a resolve that has returned answers, and when. -/
def resolvedRoutes
    (u : CacheFleet.Fleet Bool RouteDatabase String (TenantId × String) Empty
      (List ProviderRoute) GatewayError)
    (i : ℕ) : Option (List ProviderRoute × ℕ) :=
  u.lookups[i]?.bind fun l ↦
    match l.phase with
    | .returned loaded time => (RouteResolver.answer l.query.2 loaded).toOption.map (·, time)
    | _ => none

theorem resolvedRoutes_eq_some
    {u : CacheFleet.Fleet Bool RouteDatabase String (TenantId × String) Empty
      (List ProviderRoute) GatewayError}
    {i time : ℕ} {routes : List ProviderRoute} (h : resolvedRoutes u i = some (routes, time)) :
    ∃ l ∈ u.lookups, ∃ loaded, l.phase = .returned loaded time ∧
      RouteResolver.answer l.query.2 loaded = .ok routes := by
  obtain ⟨l, hl, hphase⟩ := Option.bind_eq_some_iff.mp h
  refine ⟨l, List.mem_of_getElem? hl, ?_⟩
  split at hphase
  · next loaded time' hreturned =>
    obtain ⟨routes', hanswer, hpair⟩ := Option.map_eq_some_iff.mp hphase
    cases hpair
    exact ⟨loaded, hreturned, eq_ok_of_toOption hanswer⟩
  · cases hphase

/-- The route is deleted after a gateway has cached it, and is resolved there once more. -/
def resolveDeleted : List (CacheFleet.Step Bool RouteDatabase String (TenantId × String)
    (Enumeration RouteRow × Bool)) :=
  [.startLookup true sampleQuery, .stepLookup 0, .stepLoad 0 asStored, .stepLoad 0 asStored,
    .stepLookup 0, .write .empty, .wait 59000,
    .startLookup true sampleQuery, .stepLookup 1]

theorem resolved_routes_age_deleted :
    ∃ u l, ∃ routes : List ProviderRoute,
      run (routeCacheService 60).step (.start 0 sampleRouteDatabase) resolveDeleted = some u ∧
      l ∈ u.lookups ∧ routes.map (fun r ↦ r.id) = [⟨⟨1⟩⟩] ∧
      ∃ v ∈ visited (routeCacheService 60).step (.start 0 sampleRouteDatabase) resolveDeleted,
        v.now ≤ 59000 ∧ l.started ≤ v.now + (1000 * 60 + 0) ∧
        routes.Pairwise Route.Precedes ∧
        ∀ row, (∃ route ∈ routes, route.encode = row) ↔
          row ∈ v.source.routes.rows ∧ row.Serves l.query.1 l.query.2 := by
  have hrun : ((run (routeCacheService 60).step (.start 0 sampleRouteDatabase)
      resolveDeleted).bind fun u ↦ (resolvedRoutes u 1).map fun r ↦
        (r.1.map (fun x ↦ x.id), r.2)) = some ([⟨⟨1⟩⟩], 59000) := by
    decide +kernel
  have htimely : Guarded (routeCacheService 60).step (TimelyLoads 0)
      (.start 0 sampleRouteDatabase) resolveDeleted := by
    decide +kernel
  obtain ⟨u, hu, hanswer⟩ := Option.bind_eq_some_iff.mp hrun
  obtain ⟨⟨routes, time⟩, hroutes, hpair⟩ := Option.map_eq_some_iff.mp hanswer
  obtain ⟨hids, htime⟩ := Prod.mk.inj hpair
  obtain ⟨l, hl, loaded, hreturned, hok⟩ := resolvedRoutes_eq_some hroutes
  cases htime
  exact ⟨u, l, routes, hu, hl, hids, resolved_routes_age htimely hu hl hreturned hok⟩

/-! ## Keys of administrators -/

/-- The cache that `main` builds for the keys, and its loader in `admin_auth_middleware`. -/
def adminKeyService (ttlSecs : ℕ) :
    CacheFleet.Service AdminKeyTable Unit Unit Empty (List AdminApiKey) String
      (Enumeration AdminApiKey × Option StorageError) :=
  .ofRead id
    (fun choice table _ ↦ match choice.2 with
      | none => .ok (AdminApiKeyRepo.listActive choice.1 table)
      | some e => .error e.display)
    (1000 * ttlSecs)

theorem AdminApiKeyRepo.mem_listActive {order : Enumeration AdminApiKey} {table : AdminKeyTable}
    {key : AdminApiKey} :
    key ∈ listActive order table ↔ key ∈ table.rows ∧ key.isActive = true := by
  rw [listActive, List.mem_insertionSort, order.mem_list, List.mem_filter]

/-- Whoever is identified presented a token that matches one of the keys. -/
theorem matches_of_identify {bcrypt : Bcrypt} {order : Enumeration (ℕ × Verification)}
    {token : String} {keys : List AdminApiKey} {ctx : AdminContext}
    (h : identify bcrypt order token keys = .ok ctx) :
    ∃ key ∈ keys, key.Matches bcrypt token ∧ key.context = .ok ctx := by
  by_cases hfails : VerificationFails bcrypt token keys
  · rw [identify_of_failure order hfails] at h
    cases h
  · rcases identify_of_no_failure order hfails with ⟨key, hkey, hmatches, hcontext⟩ | ⟨_, hnone⟩
    · exact ⟨key, hkey, hmatches, hcontext.symm.trans h⟩
    · rw [hnone] at h
      cases h

/-- The request whose keys the cache has answered.  The database and its failures then no
longer matter. -/
def AdminAuthState.answered (keys : List AdminApiKey) (table : AdminKeyTable)
    (failure : Option StorageError) : AdminAuthState := ⟨some table, failure, some (some keys)⟩

/-- An administrator who is let in has presented the token of a key that was active, with the
identity and the role it is let in with, at a moment that is not longer before the request
than the time to live and the delay of a load. -/
theorem administrator_key_age {ι : Type} [DecidableEq ι] {ttlSecs d now : ℕ}
    {table : AdminKeyTable}
    {steps : List (CacheFleet.Step ι AdminKeyTable Unit Unit
      (Enumeration AdminApiKey × Option StorageError))}
    {u : CacheFleet.Fleet ι AdminKeyTable Unit Unit Empty (List AdminApiKey) String}
    (htimely : Guarded (adminKeyService ttlSecs).step (TimelyLoads d) (.start now table) steps)
    (hrun : run (adminKeyService ttlSecs).step (.start now table) steps = some u)
    {l : CacheFleet.Lookup ι Unit (List AdminApiKey) String} (hl : l ∈ u.lookups)
    {keys : List AdminApiKey} {time : ℕ} (hreturned : l.phase = .returned (.ok keys) time)
    {bcrypt : Bcrypt} {ties : Enumeration AdminApiKey} {order : Enumeration (ℕ × Verification)}
    {header : Option HeaderValue} {failure : Option StorageError} {ctx : AdminContext}
    (haccepted : (adminAuthMiddleware bcrypt ties order time header
      (.answered keys u.source failure)).1 = .ok ctx) :
    ∃ v ∈ visited (adminKeyService ttlSecs).step (.start now table) steps,
      v.now ≤ time ∧ l.started ≤ v.now + (1000 * ttlSecs + d) ∧
      ∃ token, extractBearerToken header = .ok token ∧
        ∃ key ∈ v.source.rows, key.isActive = true ∧ key.Matches bcrypt token ∧
          key.context = .ok ctx := by
  obtain ⟨v, hv, hle, hage, _, _, choice, _, hread⟩ :=
    returned_age_ofRead htimely hrun hl hreturned
  refine ⟨v, hv, hle, hage, ?_⟩
  rcases adminAuthMiddleware_cases bcrypt ties time header (.answered keys u.source failure) with
    ⟨token, keys', hreaches, hidentify⟩ | ⟨⟨e, hrefused⟩, _⟩
  · obtain ⟨_, _, hdb, hload⟩ := hreaches.loaded
    cases hload
    obtain ⟨key, hkey, hmatches, hcontext⟩ :=
      matches_of_identify ((hidentify order).symm.trans haccepted)
    refine ⟨token, hreaches.extracted, key, ?_⟩
    split at hread <;> cases hread
    obtain ⟨hrow, hactive⟩ := AdminApiKeyRepo.mem_listActive.mp hkey
    exact ⟨hrow, hactive, hmatches, hcontext⟩
  · rw [hrefused order] at haccepted
    cases haccepted

/-- One key of an administrator. -/
def oneAdminKey (isActive : Bool) : AdminKeyTable :=
  ⟨[{ sampleAdminKey 1 "admin" sampleHash with isActive := isActive }], List.nodup_singleton _⟩

/-- A key is cached and then deactivated. -/
def deactivateKey : List (CacheFleet.Step Unit AdminKeyTable Unit Unit
    (Enumeration AdminApiKey × Option StorageError)) :=
  [.startLookup () (), .stepLookup 0, .stepLoad 0 (.stored, none), .stepLoad 0 (.stored, none),
    .stepLookup 0, .write (oneAdminKey false), .wait 29999, .startLookup () (), .stepLookup 1]

/-- The keys that a request gets from the cache, and when. -/
def cachedAdminKeys
    (u : CacheFleet.Fleet Unit AdminKeyTable Unit Unit Empty (List AdminApiKey) String) (i : ℕ) :
    Option (List AdminApiKey × ℕ) :=
  u.lookups[i]?.bind fun l ↦
    match l.phase with
    | .returned (.ok keys) time => some (keys, time)
    | _ => none

def sampleAuthorization : HeaderValue := "Bearer secret".toList.map fun c ↦ UInt8.ofNat c.toNat

theorem administrator_key_age_deactivated :
    ∃ u l, run (adminKeyService 30).step (.start 0 (oneAdminKey true)) deactivateKey = some u ∧
      l ∈ u.lookups ∧ u.source.rows.map (fun k ↦ k.isActive) = [false] ∧
      ∃ v ∈ visited (adminKeyService 30).step (.start 0 (oneAdminKey true)) deactivateKey,
        v.now ≤ 29999 ∧ l.started ≤ v.now + (1000 * 30 + 0) ∧
        ∃ token, extractBearerToken (some sampleAuthorization) = .ok token ∧
          ∃ key ∈ v.source.rows, key.isActive = true ∧ key.Matches sampleBcrypt token ∧
            key.context = .ok ⟨⟨1⟩, "ops", .admin⟩ := by
  have hrun : ((run (adminKeyService 30).step (.start 0 (oneAdminKey true)) deactivateKey).bind
      fun u ↦ (cachedAdminKeys u 1).map fun r ↦ (r.2,
        u.source.rows.map (fun k ↦ k.isActive),
        (adminAuthMiddleware sampleBcrypt .stored .stored r.2 (some sampleAuthorization)
          (.answered r.1 u.source none)).1.toOption)) =
      some (29999, [false], some ⟨⟨1⟩, "ops", .admin⟩) := by
    decide +kernel
  have htimely : Guarded (adminKeyService 30).step (TimelyLoads 0) (.start 0 (oneAdminKey true))
      deactivateKey := by
    decide +kernel
  obtain ⟨u, hu, hanswer⟩ := Option.bind_eq_some_iff.mp hrun
  obtain ⟨⟨keys, time⟩, hkeys, htriple⟩ := Option.map_eq_some_iff.mp hanswer
  simp only [Prod.mk.injEq] at htriple
  obtain ⟨rfl, hinactive, haccepted⟩ := htriple
  obtain ⟨l, hl, hphase⟩ := Option.bind_eq_some_iff.mp hkeys
  split at hphase <;> cases hphase
  next hreturned =>
    exact ⟨u, l, hu, List.mem_of_getElem? hl, hinactive, administrator_key_age htimely hu
      (List.mem_of_getElem? hl) hreturned (eq_ok_of_toOption haccepted)⟩

end SmartGate
