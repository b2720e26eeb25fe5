import SmartGate.Lib.Cache
import SmartGate.Policy.Merge
import SmartGate.Storage.Policies

/-!
# Evaluating the policies of a request

`evaluate` loads and merges the policies of the caller on every request;
`evaluateCached`, which the data plane uses, keeps the merged policy of each service
account in a cache and rewraps every error of the loader under one code.
-/

namespace SmartGate

open Cache

structure PolicyDecision where
  tokenCheck : TokenCheckResult
  evaluated : EvaluatedPolicy
  deriving DecidableEq

/-- What `list_policies_for_service_account` answers. -/
abbrev PolicySource :=
  ServiceAccountId → Option PolicyId → Except StorageError (List Policy)

/-- The repository on a database whose calls succeed, with rows in the order `order`. -/
def PolicyRepo.source (order : Enumeration Policy) (db : Database) : PolicySource :=
  fun sa defaultPolicyId ↦ .ok (listPoliciesForServiceAccount order db sa defaultPolicyId)

def loadPolicies (repo : PolicySource) (auth : AuthContext) : Except GatewayError (List Policy) :=
  match repo auth.serviceAccountId auth.defaultPolicyId with
  | .ok policies => .ok policies
  | .error _ =>
      .error (.policy "policy_load_failed" "failed to load policies for service account")

def loadAndMerge (hash : Enumeration String) (repo : PolicySource) (auth : AuthContext) :
    Except GatewayError EvaluatedPolicy := do
  let policies ← loadPolicies repo auth
  mergePolicies hash policies

def decidePolicy (evaluated : EvaluatedPolicy) (model : String) (features : RequestFeatures)
    (estimatedInputTokens requestedMaxOutputTokens : Option ℕ) :
    Except GatewayError PolicyDecision := do
  let tokenCheck ← applyPolicyChecks evaluated model features estimatedInputTokens
    requestedMaxOutputTokens
  return { tokenCheck, evaluated }

def evaluate (hash : Enumeration String) (repo : PolicySource) (auth : AuthContext)
    (model : String) (features : RequestFeatures)
    (estimatedInputTokens requestedMaxOutputTokens : Option ℕ) :
    Except GatewayError PolicyDecision := do
  let evaluated ← loadAndMerge hash repo auth
  decidePolicy evaluated model features estimatedInputTokens requestedMaxOutputTokens

/-! ## The cache -/

abbrev PolicyCache := ServiceAccountId → Option EvaluatedPolicy

namespace PolicyCache

def empty : PolicyCache := fun _ ↦ none

/-- `try_get_with`: an error of the loader is not cached. -/
def getOrEvaluate (hash : Enumeration String) (cache : PolicyCache) (repo : PolicySource)
    (auth : AuthContext) : Except GatewayError EvaluatedPolicy × PolicyCache :=
  match cache auth.serviceAccountId with
  | some evaluated => (.ok evaluated, cache)
  | none =>
      match loadAndMerge hash repo auth with
      | .ok evaluated => (.ok evaluated, setEntry cache auth.serviceAccountId (some evaluated))
      | .error e => (.error (.policy "policy_load_failed" e.display), cache)

def invalidate (sa : ServiceAccountId) (cache : PolicyCache) : PolicyCache :=
  setEntry cache sa none

def invalidateAll (_ : PolicyCache) : PolicyCache := empty

end PolicyCache

def evaluateCached (hash : Enumeration String) (cache : PolicyCache) (repo : PolicySource)
    (auth : AuthContext) (model : String) (features : RequestFeatures)
    (estimatedInputTokens requestedMaxOutputTokens : Option ℕ) :
    Except GatewayError PolicyDecision × PolicyCache :=
  let (result, cache') := cache.getOrEvaluate hash repo auth
  (result >>= fun evaluated ↦
    decidePolicy evaluated model features estimatedInputTokens requestedMaxOutputTokens, cache')

end SmartGate
