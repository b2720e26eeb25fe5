import SmartGate.Models

/-!
# The three enforcement checks of a merged policy

Model access with allow and deny lists of glob patterns, feature flags, and token
limits.  An empty allowlist means that every model not denied is permitted; deny
takes precedence over allow.
-/

namespace SmartGate

/-! ## Model access -/

/-- `str::strip_suffix`, for a single character. -/
def stripSuffix (s : String) (c : Char) : Option (List Char) :=
  if s.toList.getLast? = some c then some s.toList.dropLast else none

/-- Exact match, or prefix match when the pattern ends in a star. -/
def matchesGlob (pattern value : String) : Bool :=
  match stripSuffix pattern '*' with
  | some pre => pre.isPrefixOf value.toList
  | none => pattern == value

structure ModelAccessRules where
  allowedModels : List String
  deniedModels : List String
  deriving DecidableEq

def ModelAccessRules.default : ModelAccessRules := ⟨[], []⟩

def checkModelAccess (rules : ModelAccessRules) (model : String) : Except GatewayError Unit :=
  if rules.deniedModels.any (fun p ↦ matchesGlob p model) then
    .error (.policy "model_not_allowed" s!"model '{model}' is denied by policy")
  else if !rules.allowedModels.isEmpty &&
      !rules.allowedModels.any (fun p ↦ matchesGlob p model) then
    .error (.policy "model_not_allowed" s!"model '{model}' is not allowed by policy")
  else .ok ()

def ModelAccessRules.Accepts (rules : ModelAccessRules) (model : String) : Prop :=
  checkModelAccess rules model = .ok ()

instance (rules : ModelAccessRules) (model : String) : Decidable (rules.Accepts model) :=
  inferInstanceAs (Decidable (checkModelAccess rules model = .ok ()))

theorem ModelAccessRules.accepts_iff {rules : ModelAccessRules} {model : String} :
    rules.Accepts model ↔
      (∀ p ∈ rules.deniedModels, matchesGlob p model = false) ∧
        (rules.allowedModels = [] ∨ ∃ p ∈ rules.allowedModels, matchesGlob p model = true) := by
  unfold ModelAccessRules.Accepts checkModelAccess
  by_cases hd : rules.deniedModels.any (fun p ↦ matchesGlob p model) = true
  · obtain ⟨p, hp, hm⟩ := List.any_eq_true.mp hd
    rw [if_pos hd]
    constructor
    · intro h
      cases h
    · intro h
      simp [h.1 p hp] at hm
  · have hnone : ∀ p ∈ rules.deniedModels, matchesGlob p model = false := by
      simpa using hd
    rw [if_neg hd, and_iff_right hnone]
    cases ha : rules.allowedModels with
    | nil => simp
    | cons a as =>
        by_cases hm : (a :: as).any (fun p ↦ matchesGlob p model) = true
        · simpa [hm] using List.any_eq_true.mp hm
        · have hno : matchesGlob a model = false ∧ ∀ p ∈ as, matchesGlob p model = false := by
            simpa using hm
          simpa [hm, hno.1] using hno.2

/-- Rules with the same patterns, in any order and multiplicity, decide alike. -/
theorem checkModelAccess_congr {r r' : ModelAccessRules}
    (hallowed : ∀ p, p ∈ r.allowedModels ↔ p ∈ r'.allowedModels)
    (hdenied : ∀ p, p ∈ r.deniedModels ↔ p ∈ r'.deniedModels) (model : String) :
    checkModelAccess r model = checkModelAccess r' model := by
  have hd : r.deniedModels.any (fun p ↦ matchesGlob p model) =
      r'.deniedModels.any (fun p ↦ matchesGlob p model) := by
    rw [Bool.eq_iff_iff, List.any_eq_true, List.any_eq_true]
    exact exists_congr fun p ↦ and_congr_left fun _ ↦ hdenied p
  have ha : r.allowedModels.any (fun p ↦ matchesGlob p model) =
      r'.allowedModels.any (fun p ↦ matchesGlob p model) := by
    rw [Bool.eq_iff_iff, List.any_eq_true, List.any_eq_true]
    exact exists_congr fun p ↦ and_congr_left fun _ ↦ hallowed p
  have he : r.allowedModels.isEmpty = r'.allowedModels.isEmpty := by
    rw [Bool.eq_iff_iff, List.isEmpty_iff, List.isEmpty_iff, List.eq_nil_iff_forall_not_mem,
      List.eq_nil_iff_forall_not_mem]
    exact forall_congr' fun p ↦ not_congr (hallowed p)
  unfold checkModelAccess
  rw [hd, ha, he]

/-! ## Feature flags -/

@[ext]
structure FeatureFlags where
  allowStreaming : Bool
  allowTools : Bool
  allowFiles : Bool
  deriving DecidableEq

structure RequestFeatures where
  stream : Bool
  hasTools : Bool
  hasFiles : Bool
  deriving DecidableEq

def checkFeatures (flags : FeatureFlags) (request : RequestFeatures) : Except GatewayError Unit :=
  if !flags.allowStreaming && request.stream then
    .error (.policy "streaming_not_allowed" "streaming is not allowed by policy")
  else if !flags.allowTools && request.hasTools then
    .error (.policy "tools_not_allowed" "tool use is not allowed by policy")
  else if !flags.allowFiles && request.hasFiles then
    .error (.policy "files_not_allowed" "file input is not allowed by policy")
  else .ok ()

theorem checkFeatures_eq_ok {flags : FeatureFlags} {request : RequestFeatures} :
    checkFeatures flags request = .ok () ↔
      (request.stream = true → flags.allowStreaming = true) ∧
        (request.hasTools = true → flags.allowTools = true) ∧
        (request.hasFiles = true → flags.allowFiles = true) := by
  rcases flags with ⟨_ | _, _ | _, _ | _⟩ <;> rcases request with ⟨_ | _, _ | _, _ | _⟩ <;>
    simp [checkFeatures]

/-! ## Token limits -/

@[ext]
structure TokenLimits where
  maxInputTokens : Option ℕ
  maxOutputTokens : Option ℕ
  deriving DecidableEq

def TokenLimits.default : TokenLimits := ⟨none, none⟩

structure TokenCheckResult where
  effectiveMaxOutputTokens : Option ℕ
  outputTokensClamped : Bool
  deriving DecidableEq

def clampOutputTokens : Option ℕ → Option ℕ → Option ℕ × Bool
  | some requested, some limit =>
      if limit < requested then (some limit, true) else (some requested, false)
  | none, some limit => (some limit, false)
  | requested, none => (requested, false)

def checkTokenLimits (limits : TokenLimits)
    (estimatedInputTokens requestedMaxOutputTokens : Option ℕ) :
    Except GatewayError TokenCheckResult :=
  let clamped := clampOutputTokens requestedMaxOutputTokens limits.maxOutputTokens
  match estimatedInputTokens, limits.maxInputTokens with
  | some estimate, some limit =>
      if limit < estimate then
        .error (.policy "input_tokens_exceeded"
          s!"estimated input tokens ({estimate}) exceeds policy limit ({limit})")
      else .ok ⟨clamped.1, clamped.2⟩
  | _, _ => .ok ⟨clamped.1, clamped.2⟩

theorem checkTokenLimits_eq_ok {limits : TokenLimits} {estimated requested : Option ℕ}
    {result : TokenCheckResult} :
    checkTokenLimits limits estimated requested = .ok result ↔
      (∀ estimate ∈ estimated, ∀ limit ∈ limits.maxInputTokens, estimate ≤ limit) ∧
        result = ⟨(clampOutputTokens requested limits.maxOutputTokens).1,
          (clampOutputTokens requested limits.maxOutputTokens).2⟩ := by
  cases estimated with
  | none => simp [checkTokenLimits, eq_comm]
  | some estimate =>
      cases hlimit : limits.maxInputTokens with
      | none => simp [checkTokenLimits, hlimit, eq_comm]
      | some limit =>
          by_cases hexceeds : limit < estimate
          · simp [checkTokenLimits, hlimit, hexceeds]
          · simp [checkTokenLimits, hlimit, hexceeds, Nat.le_of_not_lt hexceeds, eq_comm]

end SmartGate
