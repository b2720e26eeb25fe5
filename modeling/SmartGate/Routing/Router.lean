import SmartGate.Storage.Routes

/-!
# The route cache and execution plans

A plan lists the routes of an alias in the order in which they are tried, each with its
retry settings.  A route with a negative setting makes the whole plan fail.  Durations
are in milliseconds.
-/

namespace SmartGate

/-- The routes that were resolved for a tenant and an alias, under the key of the two. -/
abbrev RouteCache := String → Option (List ProviderRoute)

def RouteCache.cacheKey (tenant : TenantId) (modelAlias : String) : String :=
  "routes:" ++ tenant.display ++ ":" ++ modelAlias

def RouteCache.invalidateAll (_ : RouteCache) : RouteCache := fun _ ↦ none

def defaultBackoffCapMs : ℕ := 10000

structure RouteAttempt where
  route : ProviderRoute
  maxRetries : UInt32
  timeoutMs : ℕ
  backoffBaseMs : ℕ
  backoffCapMs : ℕ

structure ExecutionPlan where
  modelAlias : String
  attempts : List RouteAttempt

/-- The three settings that a plan checks are not negative. -/
def Route.NonNegative {π : Type} (route : Route π) : Prop :=
  0 ≤ route.maxRetries ∧ 0 ≤ route.timeoutMs ∧ 0 ≤ route.retryBackoffMs

instance {π : Type} (route : Route π) : Decidable route.NonNegative :=
  inferInstanceAs (Decidable (_ ∧ _))

/-- The casts of settings that have been checked. -/
def RouteAttempt.ofRoute (route : ProviderRoute) : RouteAttempt where
  route := route
  maxRetries := route.maxRetries.toUInt32
  timeoutMs := route.timeoutMs.toNat
  backoffBaseMs := route.retryBackoffMs.toNat
  backoffCapMs := defaultBackoffCapMs

/-- A setting that was an `i32` leaves room in a `u32`. -/
theorem RouteAttempt.maxRetries_ofRoute_lt {route : ProviderRoute} (h : route.NonNegative) :
    (RouteAttempt.ofRoute route).maxRetries.toNat < 2 ^ 31 := by
  have hretries : (RouteAttempt.ofRoute route).maxRetries.toNat =
      route.maxRetries.toNatClampNeg := Int32.toNat_toUInt32_of_le h.1
  rw [hretries]
  exact route.maxRetries.toNatClampNeg_lt

namespace ExecutionPlan

def invalidRouteConfig (route : ProviderRoute) : GatewayError :=
  .routing "invalid_route_config"
    s!"route {route.id.display} has invalid configuration (negative values)"

/-- The loop of `build`, which stops at the first route with a negative setting. -/
def buildAttempts : List ProviderRoute → Except GatewayError (List RouteAttempt)
  | [] => .ok []
  | route :: routes =>
      if route.maxRetries < 0 ∨ route.timeoutMs < 0 ∨ route.retryBackoffMs < 0 then
        .error (invalidRouteConfig route)
      else do
        let attempts ← buildAttempts routes
        return RouteAttempt.ofRoute route :: attempts

def build (modelAlias : String) (routes : List ProviderRoute) :
    Except GatewayError ExecutionPlan :=
  if routes.isEmpty then
    .error (.routing "no_healthy_route"
      s!"no available routes for model alias '{modelAlias}'")
  else do
    let attempts ← buildAttempts routes
    return { modelAlias, attempts }

theorem not_negative_iff {route : ProviderRoute} :
    ¬(route.maxRetries < 0 ∨ route.timeoutMs < 0 ∨ route.retryBackoffMs < 0) ↔
      route.NonNegative := by
  rw [not_or, not_or, Int32.not_lt, not_lt, not_lt, Route.NonNegative]

theorem buildAttempts_of_nonNegative {routes : List ProviderRoute}
    (h : ∀ route ∈ routes, route.NonNegative) :
    buildAttempts routes = .ok (routes.map RouteAttempt.ofRoute) := by
  induction routes with
  | nil => rfl
  | cons route routes ih =>
      have hroute := not_negative_iff.mpr (h route List.mem_cons_self)
      have hrest := ih fun r hr ↦ h r (List.mem_cons_of_mem route hr)
      rw [buildAttempts, if_neg hroute, hrest]
      rfl

theorem buildAttempts_of_negative {routes : List ProviderRoute}
    (h : ¬ ∀ route ∈ routes, route.NonNegative) :
    ∃ route ∈ routes, buildAttempts routes = .error (invalidRouteConfig route) := by
  induction routes with
  | nil => exact absurd (fun _ hr ↦ absurd hr List.not_mem_nil) h
  | cons route routes ih =>
      rw [buildAttempts]
      split_ifs with hnegative
      · exact ⟨route, List.mem_cons_self, rfl⟩
      · have hroute : route.NonNegative := not_negative_iff.mp hnegative
        have hrest : ¬ ∀ r ∈ routes, r.NonNegative := fun hall ↦
          h (List.forall_mem_cons.mpr ⟨hroute, hall⟩)
        obtain ⟨r, hr, herror⟩ := ih hrest
        exact ⟨r, List.mem_cons_of_mem route hr, by rw [herror]; rfl⟩

/-- A plan is built exactly when there is a route and no setting is negative. -/
theorem build_eq_ok {modelAlias : String} {routes : List ProviderRoute} {plan : ExecutionPlan} :
    build modelAlias routes = .ok plan ↔
      routes ≠ [] ∧ (∀ route ∈ routes, route.NonNegative) ∧
        plan = ⟨modelAlias, routes.map RouteAttempt.ofRoute⟩ := by
  cases routes with
  | nil => exact iff_of_false (fun h ↦ by cases h) fun h ↦ h.1 rfl
  | cons route routes =>
      by_cases hall : ∀ r ∈ route :: routes, r.NonNegative
      · have hbuild : build modelAlias (route :: routes) =
            .ok ⟨modelAlias, (route :: routes).map RouteAttempt.ofRoute⟩ := by
          rw [build, if_neg (by simp), buildAttempts_of_nonNegative hall]
          rfl
        rw [hbuild, Except.ok.injEq, eq_comm]
        exact ⟨fun h ↦ ⟨List.cons_ne_nil _ _, hall, h⟩, fun h ↦ h.2.2⟩
      · obtain ⟨r, _, herror⟩ := buildAttempts_of_negative hall
        refine iff_of_false (fun h ↦ ?_) fun h ↦ hall h.2.1
        rw [build, if_neg (by simp), herror] at h
        cases h

/-- One route with a negative setting is enough to refuse the plan of all. -/
theorem build_of_negative (modelAlias : String) {routes : List ProviderRoute}
    (h : ¬ ∀ route ∈ routes, route.NonNegative) :
    ∃ route ∈ routes, build modelAlias routes = .error (invalidRouteConfig route) := by
  obtain ⟨route, hroute, herror⟩ := buildAttempts_of_negative h
  have hne : routes.isEmpty = false := by
    cases routes with
    | nil => exact absurd hroute List.not_mem_nil
    | cons _ _ => rfl
  refine ⟨route, hroute, ?_⟩
  rw [build, hne, herror]
  rfl

end ExecutionPlan

end SmartGate
