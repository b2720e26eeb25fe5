import SmartGate.Routing.Retry

/-!
# Falling back to the next route

`executeWithFallback` tries the routes of a plan in order.  The calls it makes are those
of a chain of fallbacks, whatever the providers answer; together with the order in which
`resolveRoutes` lists the routes, this says which providers a request can reach and when.
-/

namespace SmartGate

open Fallback

variable {τ : Type}

structure RoutingOutcome (τ : Type) where
  result : τ
  route : ProviderRoute
  totalAttempts : ℕ
  routesTried : ℕ

/-- The loop of `execute_with_fallback`.  The counters are `u32`. -/
def fallbackLoop (env : ProviderEnv τ) (modelAlias : String) :
    List RouteAttempt → ℕ → ℕ → Option GatewayError → List (RoutingEvent τ) →
      Except GatewayError (RoutingOutcome τ) × List (RoutingEvent τ)
  | [], _, routesTried, lastError, log =>
      (.error (lastError.getD (.routing "all_routes_exhausted"
        s!"all {routesTried} routes failed for model alias '{modelAlias}'")), log)
  | a :: rest, totalAttempts, routesTried, _, log =>
      match retryWithBackoff env a log with
      | (.ok (result, used), log') =>
          (.ok ⟨result, a.route, (totalAttempts + used) % 2 ^ 32, (routesTried + 1) % 2 ^ 32⟩, log')
      | (.error (e, used), log') =>
          fallbackLoop env modelAlias rest ((totalAttempts + used) % 2 ^ 32)
            ((routesTried + 1) % 2 ^ 32) (some e) log'

/-- The answer of `execute_with_fallback` and the log of what it did. -/
def executeWithFallback (env : ProviderEnv τ) (plan : ExecutionPlan) :
    Except GatewayError (RoutingOutcome τ) × List (RoutingEvent τ) :=
  fallbackLoop env plan.modelAlias plan.attempts 0 0 none []

abbrev providerCalls (env : ProviderEnv τ) (plan : ExecutionPlan) :
    List (Call ProviderRoute τ GatewayError) :=
  callsOf (executeWithFallback env plan).2

/-! ## The calls of a plan -/

/-- What the answer of the loop says about its calls, given the counters and the error with
which the loop is entered. -/
def Reported (attempts : List RouteAttempt) (calls : List (Call ProviderRoute τ GatewayError))
    (totalAttempts routesTried : ℕ) (last : Option GatewayError) :
    Except GatewayError (RoutingOutcome τ) → Prop
  | .ok o => ∃ position, SucceedsAt RouteAttempt.route RouteAttempt.totalCalls o.route o.result
        position attempts calls ∧
      o.totalAttempts = (totalAttempts + calls.length) % 2 ^ 32 ∧
      o.routesTried = (routesTried + position) % 2 ^ 32
  | .error e => Exhausts RouteAttempt.route RouteAttempt.totalCalls attempts calls ∧
      ((∀ a ∈ attempts, 0 < a.totalCalls) → (attempts ≠ [] ∨ last.isSome) →
        lastError last (calls.map Call.outcome) = some e)

theorem Reported.executes {attempts : List RouteAttempt}
    {calls : List (Call ProviderRoute τ GatewayError)} {totalAttempts routesTried : ℕ}
    {last : Option GatewayError} {answer : Except GatewayError (RoutingOutcome τ)}
    (h : Reported attempts calls totalAttempts routesTried last answer) :
    Executes RouteAttempt.route RouteAttempt.totalCalls attempts calls := by
  cases answer with
  | ok o =>
      obtain ⟨position, hsucceeds, _⟩ := h
      exact hsucceeds.executes
  | error e => exact h.1.executes

/-- A route that is given up hands its calls and its error on to the rest of the loop. -/
theorem Reported.fails {a : RouteAttempt} {rest : List RouteAttempt}
    {outcomes : List (AttemptOutcome τ)} {calls : List (Call ProviderRoute τ GatewayError)}
    {totalAttempts routesTried used : ℕ} {e : GatewayError}
    {answer : Except GatewayError (RoutingOutcome τ)} (hfails : Fails a.totalCalls outcomes)
    (hcounted : Counted (τ := τ) outcomes.length (lastError none outcomes) (.error (e, used)))
    (h : Reported rest calls ((totalAttempts + used) % 2 ^ 32) ((routesTried + 1) % 2 ^ 32)
      (some e) answer) (last : Option GatewayError) :
    Reported (a :: rest) (outcomes.map (Call.mk a.route) ++ calls) totalAttempts routesTried last
      answer := by
  obtain ⟨hused, herror⟩ := hcounted
  cases answer with
  | ok o =>
      obtain ⟨position, hsucceeds, htotal, htried⟩ := h
      refine ⟨position + 1, SucceedsAt.later hfails hsucceeds, ?_, ?_⟩
      · rw [htotal, Nat.mod_add_mod, hused, List.length_append, List.length_map, Nat.add_assoc]
      · rw [htried, Nat.mod_add_mod, Nat.add_assoc, Nat.add_comm 1 position]
  | error e' =>
      refine ⟨Exhausts.cons hfails h.1, fun hpositive _ ↦ ?_⟩
      obtain ⟨hfirst, hrest⟩ := List.forall_mem_cons.mp hpositive
      have hlast : lastError last outcomes = some e := by
        have hsome : (lastError none outcomes).isSome := hfails.isSome_lastError (Or.inl hfirst)
        rw [lastError_of_ne_nil (hfails.ne_nil hfirst), ← herror,
          ← Option.some_get hsome, Option.getD_some]
      have hmap : (outcomes.map (Call.mk a.route)).map Call.outcome = outcomes := by
        rw [List.map_map]
        exact List.map_id outcomes
      rw [List.map_append, lastError_append, hmap, hlast]
      exact h.2 hrest (Or.inr rfl)

theorem fallbackLoop_reported (env : ProviderEnv τ) (modelAlias : String)
    (attempts : List RouteAttempt) (totalAttempts routesTried : ℕ)
    (last : Option GatewayError) (log : List (RoutingEvent τ)) :
    ∃ calls, Reported attempts calls totalAttempts routesTried last
        (fallbackLoop env modelAlias attempts totalAttempts routesTried last log).1 ∧
      callsOf (fallbackLoop env modelAlias attempts totalAttempts routesTried last log).2 =
        callsOf log ++ calls := by
  induction attempts generalizing totalAttempts routesTried last log with
  | nil =>
      refine ⟨[], ⟨Exhausts.nil, fun _ hlast ↦ ?_⟩, by simp [fallbackLoop]⟩
      obtain ⟨e, rfl⟩ := Option.isSome_iff_exists.mp (hlast.resolve_left fun h ↦ h rfl)
      rfl
  | cons a rest ih =>
      obtain ⟨outcomes, hretried, hcounted, hcalls⟩ := retryWithBackoff_calls env a log
      rw [fallbackLoop]
      rcases hretry : retryWithBackoff env a log with ⟨⟨e, used⟩ | ⟨result, used⟩, log'⟩
      · rw [hretry] at hretried hcounted hcalls
        obtain ⟨later, hrest, hlater⟩ := ih ((totalAttempts + used) % 2 ^ 32)
          ((routesTried + 1) % 2 ^ 32) (some e) log'
        refine ⟨_, Reported.fails hretried hcounted hrest last, ?_⟩
        rw [← List.append_assoc, ← hcalls]
        exact hlater
      · rw [hretry] at hretried hcounted hcalls
        refine ⟨_, ⟨1, SucceedsAt.here rest rfl hretried, ?_, rfl⟩, hcalls⟩
        rw [List.length_map, ← hcounted]

/-- What `execute_with_fallback` answers is what its calls have shown. -/
theorem executeWithFallback_reported (env : ProviderEnv τ) (plan : ExecutionPlan) :
    Reported plan.attempts (providerCalls env plan) 0 0 none (executeWithFallback env plan).1 := by
  obtain ⟨calls, hreported, hcalls⟩ :=
    fallbackLoop_reported env plan.modelAlias plan.attempts 0 0 none []
  have hsame : providerCalls env plan = calls := hcalls
  exact hsame ▸ hreported

/-- The calls of a plan are those of a chain of fallbacks. -/
theorem executeWithFallback_executes (env : ProviderEnv τ) (plan : ExecutionPlan) :
    Executes RouteAttempt.route RouteAttempt.totalCalls plan.attempts (providerCalls env plan) :=
  (executeWithFallback_reported env plan).executes

/-! ## From the table to the calls -/

/-- A route is given up: a call failed fatally, or all its calls may be retried and there
are no retries left. -/
def GivenUp (route : ProviderRoute) (outcomes : List (AttemptOutcome τ)) : Prop :=
  (∃ earlier error, outcomes = earlier ++ [.fatal error] ∧ ∀ o ∈ earlier, o.IsRetryable) ∨
    (outcomes.length : ℤ) = 1 + route.maxRetries.toInt ∧ ∀ o ∈ outcomes, o.IsRetryable

/-- A setting of the table is too small for the sum to overflow. -/
theorem totalCalls_ofRoute {route : ProviderRoute} (hroute : route.NonNegative) :
    ((RouteAttempt.ofRoute route).totalCalls : ℤ) = 1 + route.maxRetries.toInt := by
  have hretries : (RouteAttempt.ofRoute route).maxRetries.toNat = route.maxRetries.toNatClampNeg :=
    Int32.toNat_toUInt32_of_le hroute.1
  have hlt := route.maxRetries.toNatClampNeg_lt
  have hcast := Int32.cast_toNatClampNeg route.maxRetries hroute.1
  have hone : (1 : UInt32).toNat = 1 := rfl
  rw [RouteAttempt.totalCalls, UInt32.toNat_add, hretries, hone, Nat.mod_eq_of_lt (by omega)]
  omega

theorem givenUp_of_fails {route : ProviderRoute} (hroute : route.NonNegative)
    {outcomes : List (AttemptOutcome τ)}
    (h : Fails (RouteAttempt.ofRoute route).totalCalls outcomes) : GivenUp route outcomes := by
  rcases h.fatal_or_exhausted with hfatal | ⟨hlength, hall⟩
  · exact Or.inl hfatal
  · refine Or.inr ⟨?_, hall⟩
    rw [hlength, totalCalls_ofRoute hroute]

section Resolved

variable {order : Enumeration RouteRow} {routes : RouteTable} {tenant : TenantId}
  {modelAlias : String} {selected : List ProviderRoute}

/-- The calls of the plan of a list of routes. -/
theorem executes_build (env : ProviderEnv τ) {plan : ExecutionPlan}
    (hbuild : ExecutionPlan.build modelAlias selected = .ok plan) :
    Executes RouteAttempt.route RouteAttempt.totalCalls (selected.map RouteAttempt.ofRoute)
      (providerCalls env plan) := by
  obtain ⟨_, _, rfl⟩ := ExecutionPlan.build_eq_ok.mp hbuild
  exact executeWithFallback_executes env ⟨modelAlias, selected.map RouteAttempt.ofRoute⟩

/-- Only routes that serve the alias for the tenant are called. -/
theorem serves_of_mem_providerCalls (env : ProviderEnv τ)
    (hresolve : RouteRepo.resolveRoutes order routes tenant modelAlias = .ok selected)
    {plan : ExecutionPlan} (hbuild : ExecutionPlan.build modelAlias selected = .ok plan)
    {c : Call ProviderRoute τ GatewayError} (hc : c ∈ providerCalls env plan) :
    c.target.encode ∈ routes.rows ∧ c.target.Serves tenant modelAlias := by
  obtain ⟨a, ha, htarget⟩ := (executes_build env hbuild).target_mem hc
  obtain ⟨route, hroute, rfl⟩ := List.mem_map.mp ha
  rw [htarget]
  exact (RouteRepo.mem_resolveRoutes hresolve).mp ⟨route, hroute, rfl⟩

/-- Routes are called in the order in which `resolve_routes` lists them. -/
theorem pairwise_providerCalls (env : ProviderEnv τ)
    (hresolve : RouteRepo.resolveRoutes order routes tenant modelAlias = .ok selected)
    {plan : ExecutionPlan} (hbuild : ExecutionPlan.build modelAlias selected = .ok plan) :
    (providerCalls env plan).Pairwise fun c d ↦ c.target.Precedes d.target := by
  refine (executes_build env hbuild).pairwise (fun _ ↦ Or.inr ⟨rfl, le_rfl⟩) ?_
  rw [List.pairwise_map]
  exact RouteRepo.pairwise_resolveRoutes hresolve

/-- When a global route is called, the routes of the tenant have been given up. -/
theorem givenUp_before_global (env : ProviderEnv τ)
    (hresolve : RouteRepo.resolveRoutes order routes tenant modelAlias = .ok selected)
    {plan : ExecutionPlan} (hbuild : ExecutionPlan.build modelAlias selected = .ok plan)
    {before after : List (Call ProviderRoute τ GatewayError)}
    {c : Call ProviderRoute τ GatewayError}
    (hcalls : providerCalls env plan = before ++ c :: after) (hglobal : c.target.tenantId = none)
    {route : ProviderRoute} (hroute : route ∈ selected) (hscoped : route.tenantId.isSome) :
    GivenUp route (outcomesOf (fun r : ProviderRoute ↦ r.id) route.id before) := by
  obtain ⟨_, hnonneg, _⟩ := ExecutionPlan.build_eq_ok.mp hbuild
  have hfirst : (selected.map RouteAttempt.ofRoute).Pairwise fun a b ↦
      b.route.tenantId.isSome → a.route.tenantId.isSome := by
    rw [List.pairwise_map]
    exact (RouteRepo.pairwise_resolveRoutes hresolve).imp fun h ↦ (Route.precedes_iff.mp h).1
  have hdistinct : ((selected.map RouteAttempt.ofRoute).map fun a ↦ a.route.id).Nodup := by
    rw [List.map_map]
    exact RouteRepo.nodup_resolveRoutes hresolve
  have hnot : ¬ c.target.tenantId.isSome := by simp [hglobal]
  have hfails := (executes_build env hbuild).failed_before
    (p := fun r : ProviderRoute ↦ r.tenantId.isSome) hfirst hdistinct hcalls hnot
    (List.mem_map_of_mem hroute) hscoped
  exact givenUp_of_fails (hnonneg route hroute) hfails

/-- Without a success, every route of a plan is called. -/
theorem called_of_no_success (env : ProviderEnv τ) {plan : ExecutionPlan}
    (hbuild : ExecutionPlan.build modelAlias selected = .ok plan)
    (hnone : ∀ c ∈ providerCalls env plan, ∀ result, c.outcome ≠ .success result)
    {route : ProviderRoute} (hroute : route ∈ selected) :
    ∃ c ∈ providerCalls env plan, c.target = route := by
  refine (executes_build env hbuild).called (fun a ha ↦ ?_) hnone (List.mem_map_of_mem hroute)
  obtain ⟨r, hr, rfl⟩ := List.mem_map.mp ha
  have hnonneg := (ExecutionPlan.build_eq_ok.mp hbuild).2.1 r hr
  have hcalls := totalCalls_ofRoute hnonneg
  have hretries := Int32.le_iff_toInt_le.mp hnonneg.1
  rw [Int32.toInt_zero] at hretries
  omega

/-- Routing keeps to the routes of the tenant and the global ones, tries them in order,
and leaves none out.  A provider may answer in any way that depends on what happened
before. -/
theorem routing_follows_resolution (env : ProviderEnv τ)
    (hresolve : RouteRepo.resolveRoutes order routes tenant modelAlias = .ok selected) :
    (∀ plan, ExecutionPlan.build modelAlias selected = .ok plan →
      (∀ c ∈ providerCalls env plan, c.target.encode ∈ routes.rows ∧
        c.target.enabled = true ∧ c.target.modelAlias = modelAlias ∧
        (c.target.tenantId = some tenant ∨ c.target.tenantId = none)) ∧
      ((providerCalls env plan).Pairwise fun c d ↦
        (d.target.tenantId.isSome → c.target.tenantId.isSome) ∧
        (c.target.tenantId.isSome = d.target.tenantId.isSome →
          c.target.priority ≤ d.target.priority)) ∧
      ∀ before c after, providerCalls env plan = before ++ c :: after →
        c.target.tenantId = none → ∀ route ∈ selected, route.tenantId.isSome →
          GivenUp route (outcomesOf (fun r : ProviderRoute ↦ r.id) route.id before)) ∧
    ((∀ route ∈ selected, route.NonNegative) → ∀ route ∈ selected,
      ∃ plan, ExecutionPlan.build modelAlias selected = .ok plan ∧
        ((∀ c ∈ providerCalls env plan, ∀ result, c.outcome ≠ .success result) →
          ∃ c ∈ providerCalls env plan, c.target = route)) := by
  refine ⟨fun plan hbuild ↦ ⟨fun c hc ↦ ?_, ?_, ?_⟩, fun hnonneg route hroute ↦ ?_⟩
  · obtain ⟨hrow, halias, henabled, hscope⟩ := serves_of_mem_providerCalls env hresolve hbuild hc
    exact ⟨hrow, henabled, halias, hscope⟩
  · exact (pairwise_providerCalls env hresolve hbuild).imp Route.precedes_iff.mp
  · intro before c after hcalls hglobal route hroute hscoped
    exact givenUp_before_global env hresolve hbuild hcalls hglobal hroute hscoped
  · have hbuild : ExecutionPlan.build modelAlias selected =
        .ok ⟨modelAlias, selected.map RouteAttempt.ofRoute⟩ :=
      ExecutionPlan.build_eq_ok.mpr ⟨List.ne_nil_of_mem hroute, hnonneg, rfl⟩
    exact ⟨_, hbuild, fun hnone ↦ called_of_no_success env hbuild hnone hroute⟩

end Resolved

def sampleRoute (id : BitVec 128) (tenantId : Option TenantId) (enabled : Bool) : RouteRow where
  id := ⟨⟨id⟩⟩
  tenantId := tenantId
  modelAlias := "gpt-4"
  provider := "openai"
  providerModelName := "gpt-4-turbo"
  priority := 100
  enabled := enabled
  timeoutMs := 30000
  maxRetries := 1
  retryBackoffMs := 250
  config := .obj []
  createdAt := 0

/-- A global route, a route of the tenant, a disabled one, and one of another tenant. -/
def sampleRoutes : RouteTable where
  rows := [sampleRoute 1 none true, sampleRoute 2 (some ⟨⟨1⟩⟩) true,
    sampleRoute 3 (some ⟨⟨1⟩⟩) false, sampleRoute 4 (some ⟨⟨2⟩⟩) true]
  unique := by decide

/-- Tenants' own routes are overloaded, and every delay is as short as possible. -/
def sampleEnv : ProviderEnv ℕ where
  callFn _ route :=
    if route.tenantId.isSome then .retryable (.provider "provider_error" "overloaded" 503)
    else .success 7
  genRange _ _ := 0

theorem routing_follows_resolution_sample :
    ∃ selected plan,
      RouteRepo.resolveRoutes .stored sampleRoutes ⟨⟨1⟩⟩ "gpt-4" = .ok selected ∧
      ExecutionPlan.build "gpt-4" selected = .ok plan ∧
      (providerCalls sampleEnv plan).map (fun c ↦ c.target.id) = [⟨⟨2⟩⟩, ⟨⟨2⟩⟩, ⟨⟨1⟩⟩] ∧
      ∀ c ∈ providerCalls sampleEnv plan, c.target.encode ∈ sampleRoutes.rows ∧
        c.target.enabled = true ∧ c.target.modelAlias = "gpt-4" ∧
        (c.target.tenantId = some ⟨⟨1⟩⟩ ∨ c.target.tenantId = none) := by
  have hrun : ((RouteRepo.resolveRoutes .stored sampleRoutes ⟨⟨1⟩⟩ "gpt-4").toOption.bind
      fun selected ↦ (ExecutionPlan.build "gpt-4" selected).toOption.map
        fun plan ↦ (providerCalls sampleEnv plan).map fun c ↦ c.target.id) =
          some [⟨⟨2⟩⟩, ⟨⟨2⟩⟩, ⟨⟨1⟩⟩] := by
    decide +kernel
  obtain ⟨selected, hselected, hplan⟩ := Option.bind_eq_some_iff.mp hrun
  obtain ⟨plan, hbuild, hids⟩ := Option.map_eq_some_iff.mp hplan
  have hresolve := eq_ok_of_toOption hselected
  have hbuild := eq_ok_of_toOption hbuild
  exact ⟨selected, plan, hresolve, hbuild, hids,
    ((routing_follows_resolution sampleEnv hresolve).1 plan hbuild).1⟩

end SmartGate
