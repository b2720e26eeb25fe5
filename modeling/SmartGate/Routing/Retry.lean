import SmartGate.Lib.Fallback
import SmartGate.Routing.Router

/-!
# Retrying one route

The calls to providers and the delays between them are kept in a log.  What a provider
answers, and which delay is drawn, may depend on everything that has happened before.
-/

namespace SmartGate

open Fallback

variable {τ : Type}

abbrev AttemptOutcome (τ : Type) := Outcome τ GatewayError

inductive RoutingEvent (τ : Type) where
  | call (route : ProviderRoute) (outcome : AttemptOutcome τ)
  | sleep (ms : ℕ)

/-- The closure that calls a provider, and the random number generator, which draws from
`0..=bound`. -/
structure ProviderEnv (τ : Type) where
  callFn : List (RoutingEvent τ) → ProviderRoute → AttemptOutcome τ
  genRange : List (RoutingEvent τ) → (bound : ℕ) → Fin (bound + 1)

def maxBackoffShift : ℕ := 32

/-- The largest delay before retry number `attempt`: a saturating product of `u64`. -/
def backoffBound (baseMs capMs attempt : ℕ) : ℕ :=
  min (min (baseMs * 2 ^ min attempt maxBackoffShift) (2 ^ 64 - 1)) capMs

def computeBackoff (baseMs capMs attempt : ℕ) (genRange : (bound : ℕ) → Fin (bound + 1)) : ℕ :=
  if baseMs = 0 ∨ capMs = 0 then 0 else genRange (backoffBound baseMs capMs attempt)

/-- `1 + max_retries`, a sum of `u32`. -/
def RouteAttempt.totalCalls (a : RouteAttempt) : ℕ := (1 + a.maxRetries).toNat

/-- The loop of `retry_with_backoff_rng` with `remaining` calls left. -/
def retryLoop (env : ProviderEnv τ) (a : RouteAttempt) :
    ℕ → ℕ → Option GatewayError → List (RoutingEvent τ) →
      Except (GatewayError × ℕ) (τ × ℕ) × List (RoutingEvent τ)
  | 0, _, lastError, log =>
      (.error (lastError.getD (.routing "retry_exhausted" "all retry attempts exhausted"),
        a.totalCalls), log)
  | remaining + 1, attempt, _, log =>
      let outcome := env.callFn log a.route
      let called := log ++ [.call a.route outcome]
      match outcome with
      | .success result => (.ok (result, attempt + 1), called)
      | .fatal e => (.error (e, attempt + 1), called)
      | .retryable e =>
          let backoff := computeBackoff a.backoffBaseMs a.backoffCapMs attempt
            (env.genRange called)
          let slept := if 0 < remaining then called ++ [.sleep backoff] else called
          retryLoop env a remaining (attempt + 1) (some e) slept

def retryWithBackoff (env : ProviderEnv τ) (a : RouteAttempt) (log : List (RoutingEvent τ)) :
    Except (GatewayError × ℕ) (τ × ℕ) × List (RoutingEvent τ) :=
  retryLoop env a a.totalCalls 0 none log

/-! ## The calls of a route -/

def RoutingEvent.toCall : RoutingEvent τ → Option (Call ProviderRoute τ GatewayError)
  | .call route outcome => some ⟨route, outcome⟩
  | .sleep _ => none

def callsOf (log : List (RoutingEvent τ)) : List (Call ProviderRoute τ GatewayError) :=
  log.filterMap RoutingEvent.toCall

theorem callsOf_append (log later : List (RoutingEvent τ)) :
    callsOf (log ++ later) = callsOf log ++ callsOf later :=
  List.filterMap_append

@[simp] theorem callsOf_call (route : ProviderRoute) (outcome : AttemptOutcome τ) :
    callsOf [.call route outcome] = [⟨route, outcome⟩] := rfl

@[simp] theorem callsOf_sleep (ms : ℕ) : callsOf ([.sleep ms] : List (RoutingEvent τ)) = [] := rfl

theorem callsOf_slept (log : List (RoutingEvent τ)) (ms : ℕ) (p : Prop) [Decidable p] :
    callsOf (if p then log ++ [.sleep ms] else log) = callsOf log := by
  split_ifs
  · rw [callsOf_append, callsOf_sleep, List.append_nil]
  · rfl

/-- The outcomes of the calls to a route agree with what the retries report. -/
def Retried (budget : ℕ) (outcomes : List (AttemptOutcome τ)) :
    Except (GatewayError × ℕ) (τ × ℕ) → Prop
  | .ok (result, _) => Succeeds result budget outcomes
  | .error _ => Fails budget outcomes

theorem Retried.retry {budget : ℕ} {outcomes : List (AttemptOutcome τ)}
    {answer : Except (GatewayError × ℕ) (τ × ℕ)} (h : Retried budget outcomes answer)
    (e : GatewayError) : Retried (budget + 1) (.retryable e :: outcomes) answer := by
  cases answer with
  | ok pair => exact Succeeds.retry e h
  | error pair => exact Fails.retry e h

/-- The number of calls and the error that the retries report. -/
def Counted (calls : ℕ) (last : Option GatewayError) :
    Except (GatewayError × ℕ) (τ × ℕ) → Prop
  | .ok (_, used) => used = calls
  | .error (e, used) => used = calls ∧
      last.getD (.routing "retry_exhausted" "all retry attempts exhausted") = e

theorem retryLoop_calls (env : ProviderEnv τ) (a : RouteAttempt) {remaining attempt : ℕ}
    (htotal : attempt + remaining = a.totalCalls) (last : Option GatewayError)
    (log : List (RoutingEvent τ)) :
    ∃ outcomes, Retried remaining outcomes (retryLoop env a remaining attempt last log).1 ∧
      Counted (attempt + outcomes.length) (lastError last outcomes)
        (retryLoop env a remaining attempt last log).1 ∧
      callsOf (retryLoop env a remaining attempt last log).2 =
        callsOf log ++ outcomes.map (Call.mk a.route) := by
  induction remaining generalizing attempt last log with
  | zero => exact ⟨[], Fails.exhausted, ⟨htotal.symm, rfl⟩, by simp [retryLoop]⟩
  | succ remaining ih =>
      rw [retryLoop]
      cases houtcome : env.callFn log a.route with
      | success result =>
          exact ⟨[.success result], Succeeds.success remaining, rfl, by simp [callsOf_append]⟩
      | fatal e =>
          exact ⟨[.fatal e], Fails.fatal remaining e, ⟨rfl, rfl⟩, by simp [callsOf_append]⟩
      | retryable e =>
          have htotal' : attempt + 1 + remaining = a.totalCalls := by omega
          obtain ⟨outcomes, hretried, hcounted, hcalls⟩ := ih htotal' (some e) _
          refine ⟨.retryable e :: outcomes, hretried.retry e, ?_, hcalls.trans ?_⟩
          · rw [List.length_cons, Nat.add_comm outcomes.length 1, ← Nat.add_assoc]
            exact hcounted
          · rw [callsOf_slept, callsOf_append, callsOf_call, List.append_assoc]
            rfl

theorem retryWithBackoff_calls (env : ProviderEnv τ) (a : RouteAttempt)
    (log : List (RoutingEvent τ)) :
    ∃ outcomes, Retried a.totalCalls outcomes (retryWithBackoff env a log).1 ∧
      Counted outcomes.length (lastError none outcomes) (retryWithBackoff env a log).1 ∧
      callsOf (retryWithBackoff env a log).2 = callsOf log ++ outcomes.map (Call.mk a.route) := by
  have h := retryLoop_calls env a (Nat.zero_add a.totalCalls) none log
  simpa only [Nat.zero_add, retryWithBackoff] using h

end SmartGate
