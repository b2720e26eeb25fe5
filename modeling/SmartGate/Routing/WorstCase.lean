import SmartGate.Routing.Backoff

/-!
# The worst case of a plan

How often the providers are called for one request, and how long the gateway sleeps between
the calls, is bounded by the settings of the routes alone.  The bounds are reached by
providers that ask for a retry each time, when every delay that is drawn is the longest.
-/

namespace SmartGate

variable {τ : Type}

/-! ## Calls and delays of a log -/

def RoutingEvent.ms : RoutingEvent τ → ℕ
  | .call _ _ => 0
  | .sleep ms => ms

def sleptMs (log : List (RoutingEvent τ)) : ℕ := (log.map RoutingEvent.ms).sum

theorem sleptMs_call (log : List (RoutingEvent τ)) (route : ProviderRoute)
    (outcome : AttemptOutcome τ) : sleptMs (log ++ [.call route outcome]) = sleptMs log := by
  simp [sleptMs, RoutingEvent.ms]

theorem sleptMs_sleep (log : List (RoutingEvent τ)) (ms : ℕ) :
    sleptMs (log ++ [.sleep ms]) = sleptMs log + ms := by
  simp [sleptMs, RoutingEvent.ms]

/-- The longest delays of a route, from retry number `attempt` on. -/
def longestDelays (a : RouteAttempt) (attempt retries : ℕ) : ℕ :=
  ∑ i ∈ Finset.range retries, exactBackoff a.backoffBaseMs (attempt + i)

theorem longestDelays_of_pos (a : RouteAttempt) (attempt : ℕ) {retries : ℕ} (h : 0 < retries) :
    longestDelays a attempt retries =
      exactBackoff a.backoffBaseMs attempt + longestDelays a (attempt + 1) (retries - 1) := by
  obtain ⟨r, rfl⟩ : ∃ r, retries = r + 1 := ⟨retries - 1, by omega⟩
  rw [longestDelays, Finset.sum_range_succ', Nat.add_comm, longestDelays]
  simp only [Nat.add_zero, Nat.add_assoc, Nat.add_comm 1, Nat.add_sub_cancel]

/-! ## The retries of a route -/

/-- The log after a call that asks for a retry, with the delay if there is one. -/
def retryLogged (log : List (RoutingEvent τ)) (route : ProviderRoute) (e : GatewayError)
    (remaining ms : ℕ) : List (RoutingEvent τ) :=
  if 0 < remaining then log ++ [.call route (.retryable e)] ++ [.sleep ms]
  else log ++ [.call route (.retryable e)]

theorem length_callsOf_retryLogged (log : List (RoutingEvent τ)) (route : ProviderRoute)
    (e : GatewayError) (remaining ms : ℕ) :
    (callsOf (retryLogged log route e remaining ms)).length = (callsOf log).length + 1 := by
  rw [retryLogged, callsOf_slept, callsOf_append, callsOf_call, List.length_append,
    List.length_singleton]

theorem sleptMs_retryLogged (log : List (RoutingEvent τ)) (route : ProviderRoute)
    (e : GatewayError) (remaining ms : ℕ) :
    sleptMs (retryLogged log route e remaining ms) =
      sleptMs log + if 0 < remaining then ms else 0 := by
  unfold retryLogged
  split_ifs
  · rw [sleptMs_sleep, sleptMs_call]
  · rw [sleptMs_call, Nat.add_zero]

theorem retryLoop_retryable {env : ProviderEnv τ} {a : RouteAttempt} {log : List (RoutingEvent τ)}
    {e : GatewayError} (h : env.callFn log a.route = .retryable e) (remaining attempt : ℕ)
    (last : Option GatewayError) :
    retryLoop env a (remaining + 1) attempt last log =
      retryLoop env a remaining (attempt + 1) (some e)
        (retryLogged log a.route e remaining (computeBackoff a.backoffBaseMs a.backoffCapMs attempt
          (env.genRange (log ++ [.call a.route (.retryable e)])))) := by
  rw [retryLoop, h]
  rfl

theorem retryLoop_costs_le (env : ProviderEnv τ) {a : RouteAttempt}
    (hcap : a.backoffCapMs = defaultBackoffCapMs) (remaining attempt : ℕ)
    (last : Option GatewayError) (log : List (RoutingEvent τ)) :
    (callsOf (retryLoop env a remaining attempt last log).2).length ≤
        (callsOf log).length + remaining ∧
      sleptMs (retryLoop env a remaining attempt last log).2 ≤
        sleptMs log + longestDelays a attempt (remaining - 1) := by
  induction remaining generalizing attempt last log with
  | zero => exact ⟨le_rfl, Nat.le_add_right _ _⟩
  | succ remaining ih =>
      cases houtcome : env.callFn log a.route with
      | success result =>
          rw [retryLoop, houtcome]
          simp [callsOf_append, sleptMs_call]
      | fatal e =>
          rw [retryLoop, houtcome]
          simp [callsOf_append, sleptMs_call]
      | retryable e =>
          rw [retryLoop_retryable houtcome]
          have hdelay : computeBackoff a.backoffBaseMs a.backoffCapMs attempt
              (env.genRange (log ++ [.call a.route (.retryable e)])) ≤
                exactBackoff a.backoffBaseMs attempt := by
            rw [hcap, computeBackoff_eq]
            exact Nat.le_of_lt_succ (Fin.isLt _)
          obtain ⟨hcalls, hslept⟩ := ih (attempt + 1) (some e) (retryLogged log a.route e remaining
            (computeBackoff a.backoffBaseMs a.backoffCapMs attempt
              (env.genRange (log ++ [.call a.route (.retryable e)]))))
          rw [length_callsOf_retryLogged] at hcalls
          rw [sleptMs_retryLogged] at hslept
          refine ⟨by omega, hslept.trans ?_⟩
          rw [Nat.add_sub_cancel]
          split_ifs with hpos
          · rw [longestDelays_of_pos a attempt hpos]
            omega
          · simp [longestDelays, Nat.eq_zero_of_not_pos hpos]

theorem retryLoop_stubborn (e : GatewayError) {a : RouteAttempt}
    (hcap : a.backoffCapMs = defaultBackoffCapMs) (remaining attempt : ℕ)
    (last : Option GatewayError) (log : List (RoutingEvent τ)) :
    (∃ failure, (retryLoop (stubborn e) a remaining attempt last log).1 = .error failure) ∧
      (callsOf (retryLoop (stubborn e) a remaining attempt last log).2).length =
        (callsOf log).length + remaining ∧
      sleptMs (retryLoop (stubborn e) a remaining attempt last log).2 =
        sleptMs log + longestDelays a attempt (remaining - 1) := by
  induction remaining generalizing attempt last log with
  | zero => exact ⟨⟨_, rfl⟩, rfl, rfl⟩
  | succ remaining ih =>
      have houtcome : (stubborn e : ProviderEnv τ).callFn log a.route = .retryable e := rfl
      have hdelay : computeBackoff a.backoffBaseMs a.backoffCapMs attempt
          ((stubborn e).genRange (log ++ [.call a.route (.retryable e)])) =
            exactBackoff a.backoffBaseMs attempt := by
        rw [hcap, computeBackoff_eq]
        rfl
      rw [retryLoop_retryable houtcome, hdelay]
      obtain ⟨herror, hcalls, hslept⟩ := ih (attempt + 1) (some e)
        (retryLogged log a.route e remaining (exactBackoff a.backoffBaseMs attempt))
      rw [length_callsOf_retryLogged] at hcalls
      rw [sleptMs_retryLogged] at hslept
      refine ⟨herror, by omega, hslept.trans ?_⟩
      rw [Nat.add_sub_cancel]
      split_ifs with hpos
      · rw [longestDelays_of_pos a attempt hpos, Nat.add_assoc]
      · simp [longestDelays, Nat.eq_zero_of_not_pos hpos]

/-! ## The routes of a plan -/

def worstCalls (attempts : List RouteAttempt) : ℕ :=
  (attempts.map RouteAttempt.totalCalls).sum

def worstDelayMs (attempts : List RouteAttempt) : ℕ :=
  (attempts.map fun a ↦ longestDelays a 0 (a.totalCalls - 1)).sum

theorem fallbackLoop_costs_le (env : ProviderEnv τ) (modelAlias : String)
    {attempts : List RouteAttempt} (hcap : ∀ a ∈ attempts, a.backoffCapMs = defaultBackoffCapMs)
    (totalAttempts routesTried : ℕ) (last : Option GatewayError) (log : List (RoutingEvent τ)) :
    (callsOf (fallbackLoop env modelAlias attempts totalAttempts routesTried last log).2).length ≤
        (callsOf log).length + worstCalls attempts ∧
      sleptMs (fallbackLoop env modelAlias attempts totalAttempts routesTried last log).2 ≤
        sleptMs log + worstDelayMs attempts := by
  induction attempts generalizing totalAttempts routesTried last log with
  | nil => exact ⟨le_rfl, le_rfl⟩
  | cons a rest ih =>
      obtain ⟨ha, hrest⟩ := List.forall_mem_cons.mp hcap
      obtain ⟨hcalls, hslept⟩ := retryLoop_costs_le env ha a.totalCalls 0 none log
      rw [← retryWithBackoff] at hcalls hslept
      simp only [worstCalls, worstDelayMs, List.map_cons, List.sum_cons] at ih ⊢
      rw [fallbackLoop]
      rcases hanswer : retryWithBackoff env a log with ⟨⟨e, used⟩ | ⟨result, used⟩, log'⟩
      · simp only [hanswer] at hcalls hslept
        obtain ⟨hcalls', hslept'⟩ := ih hrest ((totalAttempts + used) % 2 ^ 32)
          ((routesTried + 1) % 2 ^ 32) (some e) log'
        exact ⟨hcalls'.trans (by omega), hslept'.trans (by omega)⟩
      · simp only [hanswer] at hcalls hslept
        exact ⟨hcalls.trans (by omega), hslept.trans (by omega)⟩

theorem fallbackLoop_stubborn (e : GatewayError) (modelAlias : String)
    {attempts : List RouteAttempt} (hcap : ∀ a ∈ attempts, a.backoffCapMs = defaultBackoffCapMs)
    (totalAttempts routesTried : ℕ) (last : Option GatewayError) (log : List (RoutingEvent τ)) :
    (callsOf (fallbackLoop (stubborn e) modelAlias attempts totalAttempts routesTried last
        log).2).length = (callsOf log).length + worstCalls attempts ∧
      sleptMs (fallbackLoop (stubborn e) modelAlias attempts totalAttempts routesTried last log).2 =
        sleptMs log + worstDelayMs attempts := by
  induction attempts generalizing totalAttempts routesTried last log with
  | nil => exact ⟨rfl, rfl⟩
  | cons a rest ih =>
      obtain ⟨ha, hrest⟩ := List.forall_mem_cons.mp hcap
      obtain ⟨⟨⟨e', used⟩, herror⟩, hcalls, hslept⟩ :=
        retryLoop_stubborn e ha a.totalCalls 0 none log
      obtain ⟨hcalls', hslept'⟩ := ih hrest ((totalAttempts + used) % 2 ^ 32)
        ((routesTried + 1) % 2 ^ 32) (some e') (retryWithBackoff (stubborn e) a log).2
      simp only [worstCalls, worstDelayMs, List.map_cons, List.sum_cons] at hcalls' hslept' ⊢
      rw [← retryWithBackoff] at herror hcalls hslept
      have hanswer : retryWithBackoff (stubborn e) a log =
          (.error (e', used), (retryWithBackoff (stubborn e) a log).2) := by
        rw [← herror]
      rw [fallbackLoop, hanswer]
      exact ⟨hcalls'.trans (by omega), hslept'.trans (by omega)⟩

/-- One request is called for at most `1 + max_retries` times for each route of its plan, and
the gateway sleeps no longer than the longest delays of all retries together, whatever the
providers answer and whatever the random numbers are.  There are answers and numbers for
which it comes to that. -/
theorem worst_case_of_plan {modelAlias : String} {routes : List ProviderRoute}
    {plan : ExecutionPlan} (hplan : ExecutionPlan.build modelAlias routes = .ok plan) :
    (∀ env : ProviderEnv τ,
      (providerCalls env plan).length ≤
          (plan.attempts.map fun a ↦ a.maxRetries.toNat + 1).sum ∧
        sleptMs (executeWithFallback env plan).2 ≤ (plan.attempts.map fun a ↦
          ∑ i ∈ Finset.range a.maxRetries.toNat, min 10000 (a.backoffBaseMs * 2 ^ i)).sum) ∧
      ∃ env : ProviderEnv τ,
        (providerCalls env plan).length =
            (plan.attempts.map fun a ↦ a.maxRetries.toNat + 1).sum ∧
          sleptMs (executeWithFallback env plan).2 = (plan.attempts.map fun a ↦
            ∑ i ∈ Finset.range a.maxRetries.toNat, min 10000 (a.backoffBaseMs * 2 ^ i)).sum := by
  have hcap : ∀ a ∈ plan.attempts, a.backoffCapMs = defaultBackoffCapMs := fun a ha ↦
    (attempt_of_build hplan ha).1
  have hcalls : worstCalls plan.attempts =
      (plan.attempts.map fun a ↦ a.maxRetries.toNat + 1).sum :=
    congrArg List.sum (List.map_congr_left fun a ha ↦ (attempt_of_build hplan ha).2)
  have hdelay : worstDelayMs plan.attempts = (plan.attempts.map fun a ↦
      ∑ i ∈ Finset.range a.maxRetries.toNat, min 10000 (a.backoffBaseMs * 2 ^ i)).sum := by
    refine congrArg List.sum (List.map_congr_left fun a ha ↦ ?_)
    rw [(attempt_of_build hplan ha).2, Nat.add_sub_cancel, longestDelays]
    simp only [Nat.zero_add]
    rfl
  rw [← hcalls, ← hdelay]
  refine ⟨fun env ↦ ?_, stubborn (.routing "" ""), ?_⟩
  · simpa [callsOf, sleptMs, executeWithFallback] using
      fallbackLoop_costs_le env plan.modelAlias hcap 0 0 none []
  · have hreached := fallbackLoop_stubborn (.routing "" "") plan.modelAlias hcap 0 0 none
      ([] : List (RoutingEvent τ))
    simpa [callsOf, sleptMs, executeWithFallback] using hreached

theorem worst_case_of_plan_patient :
    (∀ env : ProviderEnv ℕ,
      (providerCalls env ⟨"gpt-4", [.ofRoute patientRoute]⟩).length ≤ 40 + 1 + 0 ∧
        sleptMs (executeWithFallback env ⟨"gpt-4", [.ofRoute patientRoute]⟩).2 ≤
          (∑ i ∈ Finset.range 40, min 10000 (250 * 2 ^ i)) + 0) ∧
      ∃ env : ProviderEnv ℕ,
        (providerCalls env ⟨"gpt-4", [.ofRoute patientRoute]⟩).length = 40 + 1 + 0 ∧
          sleptMs (executeWithFallback env ⟨"gpt-4", [.ofRoute patientRoute]⟩).2 =
            (∑ i ∈ Finset.range 40, min 10000 (250 * 2 ^ i)) + 0 := by
  have hplan : ExecutionPlan.build "gpt-4" [patientRoute] =
      .ok ⟨"gpt-4", [.ofRoute patientRoute]⟩ :=
    ExecutionPlan.build_eq_ok.mpr ⟨List.cons_ne_nil patientRoute [], by decide, rfl⟩
  exact worst_case_of_plan hplan

end SmartGate
