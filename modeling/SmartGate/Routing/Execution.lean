import SmartGate.Routing.Fallback

/-!
# What the fallback executor realises

`Realises` says what a plan is to do with its routes and what it is to answer, with the
budgets of calls taken as natural numbers.  Every plan that the gateway builds is realised,
whatever the providers answer (`realises_of_build`).  The executor counts in 32 bits, and
plans could be larger than the gateway builds them: in general a plan is realised exactly
when neither a budget of the plan nor its number of routes is out of the range of the
counters.
-/

namespace SmartGate

open Fallback

variable {τ : Type}

/-- A route is called `1 + max_retries` times at most. -/
def RouteAttempt.budget (a : RouteAttempt) : ℕ := 1 + a.maxRetries.toNat

structure Realises (plan : ExecutionPlan) (calls : List (Call ProviderRoute τ GatewayError))
    (answer : Except GatewayError (RoutingOutcome τ)) : Prop where
  inOrder : Executes RouteAttempt.route RouteAttempt.budget plan.attempts calls
  successLast : ∀ before route result after,
    calls = before ++ ⟨route, .success result⟩ :: after → after = []
  onSuccess : ∀ o, answer = .ok o →
    calls.getLast? = some ⟨o.route, .success o.result⟩ ∧
    SucceedsAt RouteAttempt.route RouteAttempt.budget o.route o.result o.routesTried
      plan.attempts calls ∧
    o.totalAttempts = calls.length % 2 ^ 32
  onFailure : ∀ e, answer = .error e → plan.attempts ≠ [] →
    (calls.getLast?.bind fun c ↦ c.outcome.toError) = some e
  onEmpty : plan.attempts = [] → calls = [] ∧
    ∃ message, answer = .error (.routing "all_routes_exhausted" message)

theorem totalCalls_eq_budget {a : RouteAttempt} (h : a.maxRetries.toNat < 2 ^ 32 - 1) :
    a.totalCalls = a.budget := by
  have hone : (1 : UInt32).toNat = 1 := rfl
  rw [RouteAttempt.totalCalls, RouteAttempt.budget, UInt32.toNat_add, hone,
    Nat.mod_eq_of_lt (by omega)]

theorem budget_pos (a : RouteAttempt) : 0 < a.budget := by
  rw [RouteAttempt.budget]
  omega

/-- The sum wraps around to no call at all. -/
theorem lt_of_totalCalls_pos {a : RouteAttempt} (h : 0 < a.totalCalls) :
    a.maxRetries.toNat < 2 ^ 32 - 1 := by
  have hone : (1 : UInt32).toNat = 1 := rfl
  have hlt := a.maxRetries.toNat_lt
  rw [RouteAttempt.totalCalls, UInt32.toNat_add, hone] at h
  by_contra hge
  rw [show 1 + a.maxRetries.toNat = 2 ^ 32 by omega, Nat.mod_self] at h
  exact absurd h (Nat.lt_irrefl 0)

theorem realises_of_bounds (env : ProviderEnv τ) {plan : ExecutionPlan}
    (hretries : ∀ a ∈ plan.attempts, a.maxRetries.toNat < 2 ^ 32 - 1)
    (hroutes : plan.attempts.length < 2 ^ 32) :
    Realises plan (providerCalls env plan) (executeWithFallback env plan).1 := by
  have hbudget : ∀ a ∈ plan.attempts, a.totalCalls = a.budget := fun a ha ↦
    totalCalls_eq_budget (hretries a ha)
  have hreported := executeWithFallback_reported env plan
  have hexecutes := hreported.executes
  constructor
  · exact hexecutes.congr hbudget
  · intro before route result after hcalls
    exact hexecutes.success_last hcalls
  · intro o ho
    rw [ho] at hreported
    obtain ⟨position, hsucceeds, htotal, htried⟩ := hreported
    have hposition := hsucceeds.position_le
    rw [Nat.zero_add, Nat.mod_eq_of_lt (by omega)] at htried
    refine ⟨hsucceeds.getLast, ?_, by rw [htotal, Nat.zero_add]⟩
    rw [htried]
    exact hsucceeds.congr hbudget
  · intro e he hne
    rw [he] at hreported
    have hlast := hreported.2 (fun a ha ↦ hbudget a ha ▸ budget_pos a) (Or.inl hne)
    rw [lastError_none, List.getLast?_map] at hlast
    rw [← hlast]
    cases (providerCalls env plan).getLast? <;> rfl
  · intro hempty
    rw [providerCalls, executeWithFallback, hempty]
    exact ⟨rfl, _, rfl⟩

/-- What holds of every plan of the program: the settings of a route are signed, so a plan
that was built has no budget out of range. -/
theorem realises_of_build (env : ProviderEnv τ) {modelAlias : String}
    {selected : List ProviderRoute} {plan : ExecutionPlan}
    (hbuild : ExecutionPlan.build modelAlias selected = .ok plan)
    (hroutes : selected.length < 2 ^ 32) :
    Realises plan (providerCalls env plan) (executeWithFallback env plan).1 := by
  obtain ⟨_, hnonneg, rfl⟩ := ExecutionPlan.build_eq_ok.mp hbuild
  refine realises_of_bounds env (fun a ha ↦ ?_) (by rwa [List.length_map])
  obtain ⟨route, hroute, rfl⟩ := List.mem_map.mp ha
  have hlt := RouteAttempt.maxRetries_ofRoute_lt (hnonneg route hroute)
  omega

/-! ## Plans out of range -/

/-- Providers whose answers depend only on how many calls have been made. -/
def countingEnv (f : ℕ → AttemptOutcome τ) : ProviderEnv τ where
  callFn log _ := f (callsOf log).length
  genRange _ bound := ⟨0, Nat.succ_pos bound⟩

def AnsweredBy (f : ℕ → AttemptOutcome τ) (calls : List (Call ProviderRoute τ GatewayError)) :
    Prop :=
  calls.map Call.outcome = (List.range calls.length).map f

variable {f : ℕ → AttemptOutcome τ}

theorem AnsweredBy.call {calls : List (Call ProviderRoute τ GatewayError)}
    (h : AnsweredBy f calls) (route : ProviderRoute) :
    AnsweredBy f (calls ++ [⟨route, f calls.length⟩]) := by
  rw [AnsweredBy, List.map_append, h, List.length_append, List.length_singleton, List.range_succ,
    List.map_append]
  rfl

theorem answeredBy_retryLoop (a : RouteAttempt) (remaining attempt : ℕ)
    (last : Option GatewayError) {log : List (RoutingEvent τ)} (h : AnsweredBy f (callsOf log)) :
    AnsweredBy f (callsOf (retryLoop (countingEnv f) a remaining attempt last log).2) := by
  induction remaining generalizing attempt last log with
  | zero => exact h
  | succ remaining ih =>
      have hcall : AnsweredBy f
          (callsOf (log ++ [.call a.route ((countingEnv f).callFn log a.route)])) := by
        rw [callsOf_append]
        exact h.call a.route
      rw [retryLoop]
      cases houtcome : (countingEnv f).callFn log a.route with
      | success result =>
          rw [houtcome] at hcall
          exact hcall
      | fatal e =>
          rw [houtcome] at hcall
          exact hcall
      | retryable e =>
          rw [houtcome] at hcall
          apply ih
          rw [callsOf_slept]
          exact hcall

theorem answeredBy_fallbackLoop (modelAlias : String) (attempts : List RouteAttempt)
    (totalAttempts routesTried : ℕ) (last : Option GatewayError) {log : List (RoutingEvent τ)}
    (h : AnsweredBy f (callsOf log)) :
    AnsweredBy f (callsOf (fallbackLoop (countingEnv f) modelAlias attempts totalAttempts
      routesTried last log).2) := by
  induction attempts generalizing totalAttempts routesTried last log with
  | nil => exact h
  | cons a rest ih =>
      have hretry : AnsweredBy f (callsOf (retryWithBackoff (countingEnv f) a log).2) :=
        answeredBy_retryLoop a a.totalCalls 0 none h
      rw [fallbackLoop]
      rcases hanswer : retryWithBackoff (countingEnv f) a log with
        ⟨⟨e, used⟩ | ⟨result, used⟩, log'⟩
      · rw [hanswer] at hretry
        exact ih _ _ _ hretry
      · rw [hanswer] at hretry
        exact hretry

theorem answeredBy_providerCalls (f : ℕ → AttemptOutcome τ) (plan : ExecutionPlan) :
    AnsweredBy f (providerCalls (countingEnv f) plan) :=
  answeredBy_fallbackLoop plan.modelAlias plan.attempts 0 0 none rfl

theorem AnsweredBy.outcome_of_mem {calls : List (Call ProviderRoute τ GatewayError)}
    (h : AnsweredBy f calls) {c : Call ProviderRoute τ GatewayError} (hc : c ∈ calls) :
    ∃ n < calls.length, c.outcome = f n := by
  have hmem : c.outcome ∈ (List.range calls.length).map f := h ▸ List.mem_map_of_mem hc
  obtain ⟨n, hn, houtcome⟩ := List.mem_map.mp hmem
  exact ⟨n, List.mem_range.mp hn, houtcome.symm⟩

theorem AnsweredBy.outcome_of_getLast {calls : List (Call ProviderRoute τ GatewayError)}
    (h : AnsweredBy f calls) {c : Call ProviderRoute τ GatewayError}
    (hc : calls.getLast? = some c) : c.outcome = f (calls.length - 1) := by
  have hne : calls.length ≠ 0 := fun hzero ↦ by
    rw [List.length_eq_zero_iff.mp hzero] at hc
    cases hc
  have hlast := congrArg List.getLast? h
  rw [List.getLast?_map, List.getLast?_map, hc, List.getLast?_range, if_neg hne] at hlast
  exact Option.some.inj hlast

/-- When all providers refuse, every route of a plan is called once. -/
theorem lt_of_realises {plan : ExecutionPlan} (e : GatewayError)
    (h : Realises plan (providerCalls (countingEnv fun _ ↦ (.fatal e : AttemptOutcome τ)) plan)
      (executeWithFallback (countingEnv fun _ ↦ .fatal e) plan).1)
    {a : RouteAttempt} (ha : a ∈ plan.attempts) : a.maxRetries.toNat < 2 ^ 32 - 1 := by
  have hfatal : ∀ c ∈ providerCalls (countingEnv fun _ ↦ (.fatal e : AttemptOutcome τ)) plan,
      ∃ error, c.outcome = .fatal error := by
    intro c hc
    obtain ⟨_, _, houtcome⟩ := (answeredBy_providerCalls _ plan).outcome_of_mem hc
    exact ⟨e, houtcome⟩
  have hmeant := h.inOrder.length_of_fatal hfatal
  have hdone := (executeWithFallback_executes _ plan).length_of_fatal hfatal
  have hall : plan.attempts.countP (fun a ↦ 0 < a.budget) = plan.attempts.length :=
    List.countP_eq_length.mpr fun a _ ↦ decide_eq_true (budget_pos a)
  have hcount := List.countP_eq_length.mp (hdone.symm.trans (hmeant.trans hall)) a ha
  exact lt_of_totalCalls_pos (of_decide_eq_true hcount)

/-- Providers that refuse until the counter of routes wraps around. -/
def refusingUntil (limit : ℕ) (e : GatewayError) (result : τ) (n : ℕ) : AttemptOutcome τ :=
  if n + 1 < limit then .fatal e else .success result

theorem refusingUntil_not_retryable (limit : ℕ) (e : GatewayError) (result : τ) (n : ℕ) :
    ¬ (refusingUntil limit e result n).IsRetryable := by
  rw [refusingUntil]
  split_ifs
  · exact id
  · exact id

theorem length_lt_of_realises {plan : ExecutionPlan} (e : GatewayError) (result : τ)
    (h : Realises plan (providerCalls (countingEnv (refusingUntil (2 ^ 32) e result)) plan)
      (executeWithFallback (countingEnv (refusingUntil (2 ^ 32) e result)) plan).1) :
    plan.attempts.length < 2 ^ 32 := by
  have hanswered := answeredBy_providerCalls (refusingUntil (2 ^ 32) e result) plan
  have hreported := executeWithFallback_reported
    (countingEnv (refusingUntil (2 ^ 32) e result)) plan
  generalize providerCalls (countingEnv (refusingUntil (2 ^ 32) e result)) plan = calls at *
  by_contra hlong
  cases hanswer : (executeWithFallback (countingEnv (refusingUntil (2 ^ 32) e result)) plan).1 with
  | ok o =>
      obtain ⟨hlast, hsucceeds, _⟩ := h.onSuccess o hanswer
      have houtcome := hanswered.outcome_of_getLast hlast
      have hcalls : 2 ^ 32 ≤ calls.length := by
        by_contra hshort
        rw [refusingUntil, if_pos (by omega)] at houtcome
        cases houtcome
      have hposition := hsucceeds.position_eq (fun a _ ↦ budget_pos a) fun c hc hretry ↦ by
        obtain ⟨n, _, hn⟩ := hanswered.outcome_of_mem hc
        exact refusingUntil_not_retryable (2 ^ 32) e result n (hn ▸ hretry)
      rw [hanswer] at hreported
      obtain ⟨position, _, _, htried⟩ := hreported
      have hlt := Nat.mod_lt (0 + position) (show 0 < 2 ^ 32 by decide)
      omega
  | error e' =>
      have hne : plan.attempts ≠ [] := fun hempty ↦ hlong (by rw [hempty]; decide)
      obtain ⟨c, hlast, herror⟩ := Option.bind_eq_some_iff.mp (h.onFailure e' hanswer hne)
      have houtcome := hanswered.outcome_of_getLast hlast
      have hcalls : calls.length - 1 + 1 < 2 ^ 32 := by
        by_contra hshort
        rw [houtcome, refusingUntil, if_neg hshort] at herror
        cases herror
      have hlength := h.inOrder.length_of_fatal fun c hc ↦ by
        obtain ⟨n, hn, houtcome⟩ := hanswered.outcome_of_mem hc
        exact ⟨e, by rw [houtcome, refusingUntil, if_pos (by omega)]⟩
      rw [List.countP_eq_length.mpr fun a _ ↦ decide_eq_true (budget_pos a)] at hlength
      omega

/-- A plan is realised, whatever its providers answer, exactly when no budget and no number
of routes is out of range. -/
theorem executeWithFallback_realises_iff [Inhabited τ] (plan : ExecutionPlan) :
    (∀ env : ProviderEnv τ,
      Realises plan (providerCalls env plan) (executeWithFallback env plan).1) ↔
      (∀ a ∈ plan.attempts, a.maxRetries.toNat < 2 ^ 32 - 1) ∧
        plan.attempts.length < 2 ^ 32 := by
  constructor
  · intro h
    have e : GatewayError := .routing "" ""
    exact ⟨fun a ha ↦ lt_of_realises e (h _) ha, length_lt_of_realises e default (h _)⟩
  · rintro ⟨hretries, hroutes⟩ env
    exact realises_of_bounds env hretries hroutes

/-- A route that may be retried as often as the type allows. -/
def unlimitedPlan : ExecutionPlan where
  modelAlias := "gpt-4"
  attempts := [{
    route := {
      id := ⟨⟨1⟩⟩
      tenantId := none
      modelAlias := "gpt-4"
      provider := .openai
      providerModelName := "gpt-4-turbo"
      priority := 100
      enabled := true
      timeoutMs := 30000
      maxRetries := 0
      retryBackoffMs := 250
      config := .obj []
      createdAt := 0 }
    maxRetries := 4294967295
    timeoutMs := 30000
    backoffBaseMs := 250
    backoffCapMs := defaultBackoffCapMs }]

/-- It is never called, although the provider would answer the first call. -/
theorem unlimitedPlan_not_realised :
    providerCalls sampleEnv unlimitedPlan = [] ∧
      (executeWithFallback sampleEnv unlimitedPlan).1 =
        .error (.routing "retry_exhausted" "all retry attempts exhausted") ∧
      ¬ Realises unlimitedPlan (providerCalls sampleEnv unlimitedPlan)
        (executeWithFallback sampleEnv unlimitedPlan).1 := by
  have hcalls : providerCalls sampleEnv unlimitedPlan = [] := rfl
  refine ⟨hcalls, rfl, fun h ↦ ?_⟩
  have hnone : ∀ c ∈ providerCalls sampleEnv unlimitedPlan, ∀ result, c.outcome ≠ .success result :=
    fun c hc ↦ absurd (hcalls ▸ hc) List.not_mem_nil
  obtain ⟨c, hc, _⟩ := h.inOrder.called (fun a _ ↦ budget_pos a) hnone List.mem_cons_self
  exact absurd (hcalls ▸ hc) List.not_mem_nil

end SmartGate
