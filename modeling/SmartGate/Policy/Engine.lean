import SmartGate.Lib.Least
import SmartGate.Policy.Checks

/-!
# Merging policies

`mergePolicies` folds the policies of a service account into one `EvaluatedPolicy`
under the rule that the most restrictive wins.  The fold stops at the first
malformed policy.  The denylist is collected in a hash set, whose iteration order
is a parameter.
-/

namespace SmartGate

open Least

structure EvaluatedPolicy where
  modelAccess : ModelAccessRules
  tokenLimits : TokenLimits
  featureFlags : FeatureFlags
  rpmLimit : Option ℕ
  concurrencyLimit : Option ℕ
  deriving DecidableEq

/-- The policy of a service account without any policy: no model restriction, but
tools and files denied. -/
def EvaluatedPolicy.default : EvaluatedPolicy where
  modelAccess := ModelAccessRules.default
  tokenLimits := TokenLimits.default
  featureFlags := ⟨true, false, false⟩
  rpmLimit := none
  concurrencyLimit := none

def configInvalid (field : String) : GatewayError :=
  .policy "policy_config_invalid" s!"policy has invalid {field} configuration"

/-- Merge a limit as a minimum.  A limit that is not positive is an error. -/
def mergePositiveLimit (current : Option ℕ) (value : Option ℤ) (fieldName : String) :
    Except GatewayError (Option ℕ) :=
  match value with
  | none => .ok current
  | some limit =>
      if limit ≤ 0 then .error (configInvalid fieldName)
      else .ok (insertMin current limit.toNat)

def decodeModels (v : Json) (field : String) : Except GatewayError (List String) :=
  match v.toStrings with
  | some models => .ok models
  | none => .error (configInvalid field)

structure MergeState where
  allowedModels : List String
  deniedModelsSet : List String
  maxInputTokens : Option ℕ
  maxOutputTokens : Option ℕ
  allowStreaming : Bool
  allowTools : Bool
  allowFiles : Bool
  rpmLimit : Option ℕ
  concurrencyLimit : Option ℕ
  firstAllowlist : Bool
  deriving DecidableEq

def MergeState.initial : MergeState where
  allowedModels := []
  deniedModelsSet := []
  maxInputTokens := none
  maxOutputTokens := none
  allowStreaming := true
  allowTools := true
  allowFiles := true
  rpmLimit := none
  concurrencyLimit := none
  firstAllowlist := true

/-- The merged allowlist and the flag `first_allowlist` after one more policy: the
first non-empty allowlist is taken over, later ones are intersected with it pattern
by pattern, and an empty one constrains nothing. -/
def mergeAllowed (allowedModels : List String) (firstAllowlist : Bool)
    (policyAllowed : List String) : List String × Bool :=
  if policyAllowed.isEmpty then (allowedModels, firstAllowlist)
  else if firstAllowlist then (policyAllowed, false)
  else (allowedModels.filter fun m ↦ decide (m ∈ policyAllowed), firstAllowlist)

def mergePolicy (acc : MergeState) (policy : Policy) : Except GatewayError MergeState := do
  let policyAllowed ← decodeModels policy.allowedModelsJson "allowed_models"
  let (allowedModels, firstAllowlist) :=
    mergeAllowed acc.allowedModels acc.firstAllowlist policyAllowed
  let policyDenied ← decodeModels policy.deniedModelsJson "denied_models"
  let maxInputTokens ← mergePositiveLimit acc.maxInputTokens policy.maxInputTokens
    "max_input_tokens"
  let maxOutputTokens ← mergePositiveLimit acc.maxOutputTokens policy.maxOutputTokens
    "max_output_tokens"
  let rpmLimit ← mergePositiveLimit acc.rpmLimit policy.rpmLimit "rpm_limit"
  let concurrencyLimit ← mergePositiveLimit acc.concurrencyLimit policy.concurrencyLimit
    "concurrency_limit"
  return {
    allowedModels, firstAllowlist, maxInputTokens, maxOutputTokens, rpmLimit, concurrencyLimit
    deniedModelsSet := acc.deniedModelsSet ∪ policyDenied
    allowStreaming := acc.allowStreaming && policy.allowStreaming
    allowTools := acc.allowTools && policy.allowTools
    allowFiles := acc.allowFiles && policy.allowFiles }

/-- The result of the loop, with the hash set listed in the order `hash`. -/
def MergeState.finish (hash : Enumeration String) (acc : MergeState) : EvaluatedPolicy where
  modelAccess := ⟨acc.allowedModels, hash.list acc.deniedModelsSet⟩
  tokenLimits := ⟨acc.maxInputTokens, acc.maxOutputTokens⟩
  featureFlags := ⟨acc.allowStreaming, acc.allowTools, acc.allowFiles⟩
  rpmLimit := acc.rpmLimit
  concurrencyLimit := acc.concurrencyLimit

def mergePolicies (hash : Enumeration String) (policies : List Policy) :
    Except GatewayError EvaluatedPolicy :=
  if policies.isEmpty then .ok EvaluatedPolicy.default
  else (policies.foldlM mergePolicy MergeState.initial).map (MergeState.finish hash)

def applyPolicyChecks (evaluated : EvaluatedPolicy) (model : String) (features : RequestFeatures)
    (estimatedInputTokens requestedMaxOutputTokens : Option ℕ) :
    Except GatewayError TokenCheckResult := do
  checkModelAccess evaluated.modelAccess model
  checkFeatures evaluated.featureFlags features
  checkTokenLimits evaluated.tokenLimits estimatedInputTokens requestedMaxOutputTokens

end SmartGate
