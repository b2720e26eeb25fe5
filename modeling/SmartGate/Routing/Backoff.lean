import Mathlib.Algebra.BigOperators.Intervals
import SmartGate.Routing.Execution

/-!
# The delays between retries

The code clamps the exponent of the backoff and saturates the product.  With the cap of a
plan neither is ever noticed: the delay before a retry is drawn from the range of the
formula over the natural numbers.  A run of the retries alternates calls and delays and
ends with a call.
-/

namespace SmartGate

variable {τ : Type}

/-! ## The bound of a delay -/

/-- The formula of the backoff, with the cap of a plan. -/
def exactBackoff (baseMs i : ℕ) : ℕ := min defaultBackoffCapMs (baseMs * 2 ^ i)

theorem cap_le_of_shift_clamped {baseMs i : ℕ} (hbase : 0 < baseMs) (hi : maxBackoffShift ≤ i) :
    defaultBackoffCapMs ≤ baseMs * 2 ^ i := by
  calc defaultBackoffCapMs ≤ 2 ^ maxBackoffShift := by decide
    _ ≤ 2 ^ i := Nat.pow_le_pow_right (by decide) hi
    _ ≤ baseMs * 2 ^ i := Nat.le_mul_of_pos_left _ hbase

theorem min_saturated (n : ℕ) :
    min (min n (2 ^ 64 - 1)) defaultBackoffCapMs = min defaultBackoffCapMs n := by
  have hcap : defaultBackoffCapMs ≤ 2 ^ 64 - 1 := by decide
  rw [min_assoc, min_eq_right hcap, min_comm]

theorem backoffBound_eq_exactBackoff (baseMs i : ℕ) :
    backoffBound baseMs defaultBackoffCapMs i = exactBackoff baseMs i := by
  rw [backoffBound, exactBackoff, min_saturated]
  rcases le_total i maxBackoffShift with hi | hi
  · rw [min_eq_left hi]
  · rw [min_eq_right hi]
    rcases Nat.eq_zero_or_pos baseMs with rfl | hbase
    · rw [Nat.zero_mul, Nat.zero_mul]
    · rw [min_eq_left (cap_le_of_shift_clamped hbase le_rfl),
        min_eq_left (cap_le_of_shift_clamped hbase hi)]

/-- A base of zero is answered without a draw, and the range has one number only. -/
theorem computeBackoff_eq (baseMs i : ℕ) (genRange : (bound : ℕ) → Fin (bound + 1)) :
    computeBackoff baseMs defaultBackoffCapMs i genRange = genRange (exactBackoff baseMs i) := by
  have hcap : defaultBackoffCapMs ≠ 0 := by decide
  rw [computeBackoff, backoffBound_eq_exactBackoff]
  split_ifs with hzero
  · have hbase : baseMs = 0 := hzero.resolve_right hcap
    have hlt := (genRange (exactBackoff baseMs i)).isLt
    have hexact : exactBackoff baseMs i = 0 := by
      rw [exactBackoff, hbase, Nat.zero_mul, Nat.min_zero]
    omega
  · rfl

/-! ## Calls and delays in turn -/

/-- The events of the calls to a route with these outcomes and of the delays after them. -/
def retryEvents (route : ProviderRoute) : List (AttemptOutcome τ) → List ℕ → List (RoutingEvent τ)
  | [], _ => []
  | outcome :: outcomes, [] => .call route outcome :: retryEvents route outcomes []
  | outcome :: outcomes, ms :: delays =>
      .call route outcome :: .sleep ms :: retryEvents route outcomes delays

/-- What the retries from call number `attempt` on add to the log. -/
structure Delayed (env : ProviderEnv τ) (a : RouteAttempt) (remaining attempt : ℕ)
    (log later : List (RoutingEvent τ)) (outcomes : List (AttemptOutcome τ))
    (delays : List ℕ) : Prop where
  events : later = log ++ retryEvents a.route outcomes delays
  endsWithCall : outcomes.length = delays.length + 1
  withinBudget : delays.length ≤ remaining
  answered : ∀ i (hi : i < outcomes.length), outcomes[i] =
    env.callFn (log ++ retryEvents a.route (outcomes.take i) (delays.take i)) a.route
  retried : ∀ i (hi : i < outcomes.length),
    i < delays.length ↔ i < remaining ∧ ∃ e, outcomes[i] = .retryable e
  drawn : ∀ i (hi : i < delays.length), delays[i] =
    computeBackoff a.backoffBaseMs a.backoffCapMs (attempt + i)
      (env.genRange (log ++ retryEvents a.route (outcomes.take (i + 1)) (delays.take i)))

theorem Delayed.single {env : ProviderEnv τ} {a : RouteAttempt} {remaining : ℕ} (attempt : ℕ)
    {log : List (RoutingEvent τ)} {outcome : AttemptOutcome τ}
    (hcall : env.callFn log a.route = outcome)
    (hlast : remaining = 0 ∨ ∀ e, outcome ≠ .retryable e) :
    Delayed env a remaining attempt log (log ++ [.call a.route outcome]) [outcome] [] where
  events := rfl
  endsWithCall := rfl
  withinBudget := Nat.zero_le remaining
  answered i hi := by
    obtain rfl : i = 0 := Nat.lt_one_iff.mp hi
    simpa [retryEvents] using hcall.symm
  retried i hi := by
    obtain rfl : i = 0 := Nat.lt_one_iff.mp hi
    refine iff_of_false (Nat.not_lt_zero 0) ?_
    rintro ⟨hbudget, e, he⟩
    exact hlast.elim (fun hzero ↦ absurd hbudget (hzero ▸ Nat.lt_irrefl 0)) fun h ↦ h e he
  drawn _ hi := absurd hi (Nat.not_lt_zero _)

theorem Delayed.retry {env : ProviderEnv τ} {a : RouteAttempt} {remaining attempt : ℕ}
    {log later : List (RoutingEvent τ)} {outcomes : List (AttemptOutcome τ)} {delays : List ℕ}
    {e : GatewayError} (hcall : env.callFn log a.route = .retryable e) {ms : ℕ}
    (hms : ms = computeBackoff a.backoffBaseMs a.backoffCapMs attempt
      (env.genRange (log ++ [.call a.route (.retryable e)])))
    (h : Delayed env a remaining (attempt + 1)
      (log ++ [.call a.route (.retryable e)] ++ [.sleep ms]) later outcomes delays) :
    Delayed env a (remaining + 1) attempt log later (.retryable e :: outcomes)
      (ms :: delays) where
  events := by
    rw [h.events]
    simp [retryEvents]
  endsWithCall := congrArg Nat.succ h.endsWithCall
  withinBudget := Nat.succ_le_succ h.withinBudget
  answered i hi := by
    cases i with
    | zero => simpa [retryEvents] using hcall.symm
    | succ i =>
        have hanswered := h.answered i (Nat.lt_of_succ_lt_succ hi)
        simpa [retryEvents] using hanswered
  retried i hi := by
    cases i with
    | zero => simp
    | succ i =>
        have hretried := h.retried i (Nat.lt_of_succ_lt_succ hi)
        simpa using hretried
  drawn i hi := by
    cases i with
    | zero => simpa [retryEvents] using hms
    | succ i =>
        have hdrawn := h.drawn i (Nat.lt_of_succ_lt_succ hi)
        simpa [retryEvents, Nat.add_assoc, Nat.add_comm 1 i] using hdrawn

theorem retryLoop_delayed (env : ProviderEnv τ) (a : RouteAttempt) (remaining attempt : ℕ)
    (last : Option GatewayError) (log : List (RoutingEvent τ)) :
    ∃ outcomes delays, Delayed env a remaining attempt log
      (retryLoop env a (remaining + 1) attempt last log).2 outcomes delays := by
  induction remaining generalizing attempt last log with
  | zero =>
      refine ⟨[env.callFn log a.route], [], ?_⟩
      rw [retryLoop]
      cases hcall : env.callFn log a.route <;> exact Delayed.single attempt hcall (Or.inl rfl)
  | succ remaining ih =>
      rw [retryLoop]
      cases hcall : env.callFn log a.route with
      | success result => exact ⟨_, _, Delayed.single attempt hcall (Or.inr (by simp))⟩
      | fatal e => exact ⟨_, _, Delayed.single attempt hcall (Or.inr (by simp))⟩
      | retryable e =>
          obtain ⟨outcomes, delays, h⟩ := ih (attempt + 1) (some e)
            (log ++ [.call a.route (.retryable e)] ++ [.sleep (computeBackoff a.backoffBaseMs
              a.backoffCapMs attempt (env.genRange (log ++ [.call a.route (.retryable e)])))])
          exact ⟨_, _, h.retry hcall rfl⟩

/-! ## The sum of the delays -/

theorem sum_le_sum_range {delays : List ℕ} {bound : ℕ → ℕ} {r : ℕ} (hr : delays.length ≤ r)
    (h : ∀ i (hi : i < delays.length), delays[i] ≤ bound i) :
    delays.sum ≤ ∑ i ∈ Finset.range r, bound i := by
  induction delays generalizing bound r with
  | nil => exact Nat.zero_le _
  | cons ms delays ih =>
      obtain ⟨r, rfl⟩ : ∃ k, r = k + 1 := ⟨r - 1, by simp at hr; omega⟩
      have hms : ms ≤ bound 0 := h 0 (Nat.succ_pos _)
      have hrest : delays.sum ≤ ∑ i ∈ Finset.range r, bound (i + 1) :=
        ih (Nat.le_of_succ_le_succ hr) fun i hi ↦ h (i + 1) (Nat.succ_lt_succ hi)
      rw [Finset.sum_range_succ', List.sum_cons, Nat.add_comm]
      exact Nat.add_le_add hrest hms

/-! ## The retries of a plan -/

theorem attempt_of_build {modelAlias : String} {routes : List ProviderRoute}
    {plan : ExecutionPlan} (h : ExecutionPlan.build modelAlias routes = .ok plan)
    {a : RouteAttempt} (ha : a ∈ plan.attempts) :
    a.backoffCapMs = defaultBackoffCapMs ∧ a.totalCalls = a.maxRetries.toNat + 1 := by
  obtain ⟨_, hall, rfl⟩ := ExecutionPlan.build_eq_ok.mp h
  obtain ⟨route, hroute, rfl⟩ := List.mem_map.mp ha
  have hlt := RouteAttempt.maxRetries_ofRoute_lt (hall route hroute)
  exact ⟨rfl, (totalCalls_eq_budget (by omega)).trans (Nat.add_comm _ _)⟩

theorem backoff_follows_formula {modelAlias : String} {routes : List ProviderRoute}
    {plan : ExecutionPlan} (hplan : ExecutionPlan.build modelAlias routes = .ok plan)
    {a : RouteAttempt} (ha : a ∈ plan.attempts) (env : ProviderEnv τ)
    (log : List (RoutingEvent τ)) :
    ∃ (outcomes : List (AttemptOutcome τ)) (delays : List ℕ),
      (retryWithBackoff env a log).2 = log ++ retryEvents a.route outcomes delays ∧
      outcomes.length = delays.length + 1 ∧ delays.length ≤ a.maxRetries.toNat ∧
      (∀ i (hi : i < outcomes.length), outcomes[i] =
        env.callFn (log ++ retryEvents a.route (outcomes.take i) (delays.take i)) a.route) ∧
      (∀ i (hi : i < outcomes.length),
        i < delays.length ↔ i < a.maxRetries.toNat ∧ ∃ e, outcomes[i] = .retryable e) ∧
      (∀ i (hi : i < delays.length), delays[i] =
        (env.genRange (log ++ retryEvents a.route (outcomes.take (i + 1)) (delays.take i))
          (min 10000 (a.backoffBaseMs * 2 ^ i))).val) ∧
      ∀ r, delays.length ≤ r →
        delays.sum ≤ ∑ i ∈ Finset.range r, min 10000 (a.backoffBaseMs * 2 ^ i) := by
  obtain ⟨hcap, htotal⟩ := attempt_of_build hplan ha
  obtain ⟨outcomes, delays, h⟩ := retryLoop_delayed env a a.maxRetries.toNat 0 none log
  rw [← htotal] at h
  have hdrawn : ∀ i (hi : i < delays.length), delays[i] =
      (env.genRange (log ++ retryEvents a.route (outcomes.take (i + 1)) (delays.take i))
        (exactBackoff a.backoffBaseMs i)).val := by
    intro i hi
    rw [h.drawn i hi, hcap, Nat.zero_add, computeBackoff_eq]
  refine ⟨outcomes, delays, h.events, h.endsWithCall, h.withinBudget, h.answered, h.retried,
    hdrawn, fun r hr ↦ ?_⟩
  refine sum_le_sum_range hr fun i hi ↦ ?_
  rw [hdrawn i hi]
  exact Nat.le_of_lt_succ (Fin.isLt _)

/-- A route with more retries than the exponent is ever raised to. -/
def patientRoute : ProviderRoute where
  id := ⟨⟨1⟩⟩
  tenantId := some ⟨⟨1⟩⟩
  modelAlias := "gpt-4"
  provider := .openai
  providerModelName := "gpt-4-turbo"
  priority := 100
  enabled := true
  timeoutMs := 30000
  maxRetries := 40
  retryBackoffMs := 250
  config := .obj []
  createdAt := 0

def RoutingEvent.delay : RoutingEvent τ → Option ℕ
  | .sleep ms => some ms
  | .call _ _ => none

/-- Every provider asks for a retry, and every draw is the longest delay. -/
def stubborn (e : GatewayError) : ProviderEnv τ where
  callFn _ _ := .retryable e
  genRange _ bound := Fin.last bound

def overloadedEnv : ProviderEnv ℕ := stubborn (.provider "provider_error" "overloaded" 503)

theorem backoff_follows_formula_patient :
    ∃ (outcomes : List (AttemptOutcome ℕ)) (delays : List ℕ),
      (retryWithBackoff overloadedEnv (.ofRoute patientRoute) []).2 =
        [] ++ retryEvents patientRoute outcomes delays ∧
      (retryEvents patientRoute outcomes delays).filterMap RoutingEvent.delay =
        [250, 500, 1000, 2000, 4000, 8000] ++ List.replicate 34 10000 ∧
      outcomes.length = delays.length + 1 ∧ delays.length ≤ 40 ∧
      (∀ i (hi : i < outcomes.length), outcomes[i] =
        overloadedEnv.callFn ([] ++ retryEvents patientRoute (outcomes.take i) (delays.take i))
          patientRoute) ∧
      (∀ i (hi : i < outcomes.length),
        i < delays.length ↔ i < 40 ∧ ∃ e, outcomes[i] = .retryable e) ∧
      (∀ i (hi : i < delays.length), delays[i] =
        (overloadedEnv.genRange ([] ++ retryEvents patientRoute (outcomes.take (i + 1))
          (delays.take i)) (min 10000 (250 * 2 ^ i))).val) ∧
      ∀ r, delays.length ≤ r → delays.sum ≤ ∑ i ∈ Finset.range r, min 10000 (250 * 2 ^ i) := by
  have hplan : ExecutionPlan.build "gpt-4" [patientRoute] =
      .ok ⟨"gpt-4", [.ofRoute patientRoute]⟩ :=
    ExecutionPlan.build_eq_ok.mpr ⟨List.cons_ne_nil patientRoute [], by decide, rfl⟩
  have hdelays : (retryWithBackoff overloadedEnv (.ofRoute patientRoute) []).2.filterMap
      RoutingEvent.delay = [250, 500, 1000, 2000, 4000, 8000] ++ List.replicate 34 10000 := by
    decide +kernel
  obtain ⟨outcomes, delays, hevents, h⟩ :=
    backoff_follows_formula hplan List.mem_cons_self overloadedEnv []
  rw [hevents] at hdelays
  exact ⟨outcomes, delays, hevents, hdelays, h⟩

end SmartGate
