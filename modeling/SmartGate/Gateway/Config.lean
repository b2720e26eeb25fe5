import SmartGate.Types

/-!
# The configuration

The configuration is read from environment variables, in a fixed order, and the first
variable that cannot be used ends the attempt.  Parsing an IP address is left to the
standard library; decimal numbers are parsed as `u16`, `u32` and `u64` do.
-/

namespace SmartGate

/-! ## Unsigned integers -/

/-- The digits from left to right, with the value read so far. -/
def readDigits (bits : ℕ) : ℕ → List Char → Except String ℕ
  | value, [] => .ok value
  | value, c :: cs =>
      if c.isDigit then
        let next := 10 * value + (c.toNat - '0'.toNat)
        if next < 2 ^ bits then readDigits bits next cs
        else .error "number too large to fit in target type"
      else .error "invalid digit found in string"

/-- `str::parse` for an unsigned integer of `bits` bits. -/
def parseUnsigned (bits : ℕ) (s : String) : Except String ℕ :=
  match s.toList with
  | [] => .error "cannot parse integer from empty string"
  | ['+'] => .error "invalid digit found in string"
  | '+' :: cs => readDigits bits 0 cs
  | cs => readDigits bits 0 cs

theorem le_ofDigitChars (cs : List Char) (value : ℕ) : value ≤ Nat.ofDigitChars 10 cs value := by
  induction cs generalizing value with
  | nil => exact le_rfl
  | cons c cs ih =>
      rw [Nat.ofDigitChars_cons]
      exact le_trans (by omega) (ih _)

theorem readDigits_eq {bits value : ℕ} {cs : List Char} (hdigits : ∀ c ∈ cs, c.isDigit = true)
    (hlt : Nat.ofDigitChars 10 cs value < 2 ^ bits) :
    readDigits bits value cs = .ok (Nat.ofDigitChars 10 cs value) := by
  induction cs generalizing value with
  | nil => rfl
  | cons c cs ih =>
      rw [Nat.ofDigitChars_cons] at hlt ⊢
      have hnext := (le_ofDigitChars cs (10 * value + (c.toNat - '0'.toNat))).trans_lt hlt
      rw [readDigits, if_pos (hdigits c List.mem_cons_self), if_pos hnext]
      exact ih (fun d hd ↦ hdigits d (List.mem_cons_of_mem c hd)) hlt

theorem parseUnsigned_repr {bits n : ℕ} (h : n < 2 ^ bits) :
    parseUnsigned bits (toString n) = .ok n := by
  have hdigits : ∀ c ∈ Nat.toDigits 10 n, c.isDigit = true :=
    fun c hc ↦ Nat.isDigit_of_mem_toDigits (by decide) le_rfl hc
  have hread : readDigits bits 0 (Nat.toDigits 10 n) = .ok n := by
    have hvalue : Nat.ofDigitChars 10 (Nat.toDigits 10 n) 0 = n := Nat.ofDigitChars_ten_toDigits
    rw [readDigits_eq hdigits (by rwa [hvalue]), hvalue]
  have hlist : (toString n).toList = Nat.toDigits 10 n := by
    rw [show toString n = n.repr from rfl, Nat.repr_eq_ofList_toDigits, String.toList_ofList]
  unfold parseUnsigned
  rw [hlist]
  split
  · next hnil => exact absurd hnil Nat.toDigits_ne_nil
  · next hplus =>
    rw [hplus] at hdigits
    exact absurd (hdigits '+' (by simp)) (by decide)
  · next cs _ hplus =>
    rw [hplus] at hdigits
    exact absurd (hdigits '+' (by simp)) (by decide)
  · exact hread

def parseU16 (s : String) : Except String UInt16 := (parseUnsigned 16 s).map UInt16.ofNat

def parseU32 (s : String) : Except String UInt32 := (parseUnsigned 32 s).map UInt32.ofNat

def parseU64 (s : String) : Except String UInt64 := (parseUnsigned 64 s).map UInt64.ofNat

theorem parseU16_toString (n : UInt16) : parseU16 (toString n.toNat) = .ok n := by
  rw [parseU16, parseUnsigned_repr n.toNat_lt]
  exact congrArg Except.ok UInt16.ofNat_toNat

theorem parseU32_toString (n : UInt32) : parseU32 (toString n.toNat) = .ok n := by
  rw [parseU32, parseUnsigned_repr n.toNat_lt]
  exact congrArg Except.ok UInt32.ofNat_toNat

theorem parseU64_toString (n : UInt64) : parseU64 (toString n.toNat) = .ok n := by
  rw [parseU64, parseUnsigned_repr n.toNat_lt]
  exact congrArg Except.ok UInt64.ofNat_toNat

/-! ## Loading -/

inductive ConfigError where
  | missingRequired (name : String)
  | invalidValue (name reason : String)
  deriving DecidableEq

def ConfigError.name : ConfigError → String
  | .missingRequired name => name
  | .invalidValue name _ => name

structure ServerConfig (IpAddr : Type) where
  host : IpAddr
  port : UInt16
  deriving DecidableEq

structure DatabaseConfig where
  url : String
  poolSize : UInt32
  deriving DecidableEq

structure RedisConfig where
  url : String
  poolSize : UInt32
  deriving DecidableEq

structure AuthConfig where
  timestampSkewSecs : UInt64
  adminKeyCacheTtlSecs : UInt64
  deriving DecidableEq

structure PolicyConfig where
  cacheTtlSecs : UInt64
  deriving DecidableEq

structure RoutingConfig where
  cacheTtlSecs : UInt64
  deriving DecidableEq

structure RateLimitConfig where
  globalRpm : UInt32
  windowSecs : UInt64
  deriving DecidableEq

structure ProviderConfig where
  timeoutMs : UInt64
  deriving DecidableEq

structure ObservabilityConfig where
  logLevel : String
  otelEndpoint : Option String
  serviceName : String
  deriving DecidableEq

structure GatewayConfig (IpAddr : Type) where
  server : ServerConfig IpAddr
  database : DatabaseConfig
  redis : RedisConfig
  auth : AuthConfig
  policy : PolicyConfig
  routing : RoutingConfig
  rateLimit : RateLimitConfig
  provider : ProviderConfig
  observability : ObservabilityConfig
  deriving DecidableEq

def defaultHost : String := "0.0.0.0"
def defaultPort : UInt16 := 8080
def defaultPgPoolSize : UInt32 := 20
def defaultValkeyPoolSize : UInt32 := 10
def defaultTimestampSkewSecs : UInt64 := 300
def defaultProviderTimeoutMs : UInt64 := 30000
def defaultPolicyCacheTtlSecs : UInt64 := 30
def defaultAdminKeyCacheTtlSecs : UInt64 := 30
def defaultRoutingCacheTtlSecs : UInt64 := 60
def defaultGlobalRpm : UInt32 := 1000
def defaultRateLimitWindowSecs : UInt64 := 60
def defaultLogLevel : String := "info"
def defaultServiceName : String := "llmsmartgate"

/-- The value of a variable, if it is set. -/
abbrev ConfigSource := String → Option String

def required (source : ConfigSource) (name : String) : Except ConfigError String :=
  match source name with
  | some value => .ok value
  | none => .error (.missingRequired name)

def optional (source : ConfigSource) (name default : String) : String :=
  (source name).getD default

def parseVal {α : Type} (parse : String → Except String α) (source : ConfigSource)
    (name : String) (default : α) : Except ConfigError α :=
  match source name with
  | some value => (parse value).mapError (.invalidValue name)
  | none => .ok default

def rejectZero (isZero : Bool) (name reason : String) : Except ConfigError Unit :=
  if isZero then .error (.invalidValue name reason) else .ok ()

def loadFrom {IpAddr : Type} (parseIpAddr : String → Except String IpAddr)
    (source : ConfigSource) : Except ConfigError (GatewayConfig IpAddr) := do
  let databaseUrl ← required source "DATABASE_URL"
  let valkeyUrl ← required source "VALKEY_URL"
  let host ← (parseIpAddr (optional source "LLMSMARTGATE_HOST" defaultHost)).mapError
    (.invalidValue "LLMSMARTGATE_HOST")
  let port ← parseVal parseU16 source "LLMSMARTGATE_PORT" defaultPort
  let pgPoolSize ← parseVal parseU32 source "LLMSMARTGATE_PG_POOL_SIZE" defaultPgPoolSize
  let valkeyPoolSize ←
    parseVal parseU32 source "LLMSMARTGATE_VALKEY_POOL_SIZE" defaultValkeyPoolSize
  let timestampSkewSecs ←
    parseVal parseU64 source "LLMSMARTGATE_TIMESTAMP_SKEW_SECS" defaultTimestampSkewSecs
  let providerTimeoutMs ←
    parseVal parseU64 source "LLMSMARTGATE_PROVIDER_TIMEOUT_MS" defaultProviderTimeoutMs
  let policyCacheTtlSecs ←
    parseVal parseU64 source "LLMSMARTGATE_POLICY_CACHE_TTL_SECS" defaultPolicyCacheTtlSecs
  let adminKeyCacheTtlSecs ←
    parseVal parseU64 source "LLMSMARTGATE_ADMIN_KEY_CACHE_TTL_SECS" defaultAdminKeyCacheTtlSecs
  let routingCacheTtlSecs ←
    parseVal parseU64 source "LLMSMARTGATE_ROUTING_CACHE_TTL_SECS" defaultRoutingCacheTtlSecs
  let globalRpm ← parseVal parseU32 source "LLMSMARTGATE_GLOBAL_RPM" defaultGlobalRpm
  let rateLimitWindowSecs ←
    parseVal parseU64 source "LLMSMARTGATE_RATE_LIMIT_WINDOW_SECS" defaultRateLimitWindowSecs
  rejectZero (globalRpm == 0) "LLMSMARTGATE_GLOBAL_RPM" "global_rpm must be > 0"
  rejectZero (rateLimitWindowSecs == 0) "LLMSMARTGATE_RATE_LIMIT_WINDOW_SECS"
    "window_secs must be > 0"
  return {
    server := { host, port }
    database := { url := databaseUrl, poolSize := pgPoolSize }
    redis := { url := valkeyUrl, poolSize := valkeyPoolSize }
    auth := { timestampSkewSecs, adminKeyCacheTtlSecs }
    policy := { cacheTtlSecs := policyCacheTtlSecs }
    routing := { cacheTtlSecs := routingCacheTtlSecs }
    rateLimit := { globalRpm, windowSecs := rateLimitWindowSecs }
    provider := { timeoutMs := providerTimeoutMs }
    observability :=
      { logLevel := optional source "RUST_LOG" defaultLogLevel
        otelEndpoint := source "OTEL_EXPORTER_OTLP_ENDPOINT"
        serviceName := optional source "OTEL_SERVICE_NAME" defaultServiceName } }

theorem bind_eq_error {ε α β : Type} {x : Except ε α} {f : α → Except ε β} {e : ε} :
    (x >>= f) = .error e ↔ x = .error e ∨ ∃ a, x = .ok a ∧ f a = .error e := by
  cases x with
  | error e' =>
      change Except.error e' = Except.error e ↔ _
      simp
  | ok a =>
      change f a = Except.error e ↔ _
      simp

section

variable {IpAddr α : Type} {parseIpAddr : String → Except String IpAddr}
  {source source' : ConfigSource} {c : GatewayConfig IpAddr} {name : String} {e : ConfigError}

/-- What each step of `loadFrom` finds when `c` is loaded. -/
structure Loads (parseIpAddr : String → Except String IpAddr) (source : ConfigSource)
    (c : GatewayConfig IpAddr) : Prop where
  databaseUrl : required source "DATABASE_URL" = .ok c.database.url
  valkeyUrl : required source "VALKEY_URL" = .ok c.redis.url
  host : (parseIpAddr (optional source "LLMSMARTGATE_HOST" defaultHost)).mapError
    (ConfigError.invalidValue "LLMSMARTGATE_HOST") = .ok c.server.host
  port : parseVal parseU16 source "LLMSMARTGATE_PORT" defaultPort = .ok c.server.port
  pgPoolSize : parseVal parseU32 source "LLMSMARTGATE_PG_POOL_SIZE" defaultPgPoolSize =
    .ok c.database.poolSize
  valkeyPoolSize : parseVal parseU32 source "LLMSMARTGATE_VALKEY_POOL_SIZE"
    defaultValkeyPoolSize = .ok c.redis.poolSize
  timestampSkewSecs : parseVal parseU64 source "LLMSMARTGATE_TIMESTAMP_SKEW_SECS"
    defaultTimestampSkewSecs = .ok c.auth.timestampSkewSecs
  providerTimeoutMs : parseVal parseU64 source "LLMSMARTGATE_PROVIDER_TIMEOUT_MS"
    defaultProviderTimeoutMs = .ok c.provider.timeoutMs
  policyCacheTtlSecs : parseVal parseU64 source "LLMSMARTGATE_POLICY_CACHE_TTL_SECS"
    defaultPolicyCacheTtlSecs = .ok c.policy.cacheTtlSecs
  adminKeyCacheTtlSecs : parseVal parseU64 source "LLMSMARTGATE_ADMIN_KEY_CACHE_TTL_SECS"
    defaultAdminKeyCacheTtlSecs = .ok c.auth.adminKeyCacheTtlSecs
  routingCacheTtlSecs : parseVal parseU64 source "LLMSMARTGATE_ROUTING_CACHE_TTL_SECS"
    defaultRoutingCacheTtlSecs = .ok c.routing.cacheTtlSecs
  globalRpm : parseVal parseU32 source "LLMSMARTGATE_GLOBAL_RPM" defaultGlobalRpm =
    .ok c.rateLimit.globalRpm
  windowSecs : parseVal parseU64 source "LLMSMARTGATE_RATE_LIMIT_WINDOW_SECS"
    defaultRateLimitWindowSecs = .ok c.rateLimit.windowSecs
  globalRpm_ne : rejectZero (c.rateLimit.globalRpm == 0) "LLMSMARTGATE_GLOBAL_RPM"
    "global_rpm must be > 0" = .ok ()
  windowSecs_ne : rejectZero (c.rateLimit.windowSecs == 0) "LLMSMARTGATE_RATE_LIMIT_WINDOW_SECS"
    "window_secs must be > 0" = .ok ()
  observability : c.observability =
    { logLevel := optional source "RUST_LOG" defaultLogLevel
      otelEndpoint := source "OTEL_EXPORTER_OTLP_ENDPOINT"
      serviceName := optional source "OTEL_SERVICE_NAME" defaultServiceName }

theorem loadFrom_eq_ok : loadFrom parseIpAddr source = .ok c ↔ Loads parseIpAddr source c := by
  constructor
  · intro h
    unfold loadFrom at h
    obtain ⟨databaseUrl, h1, h⟩ := bind_eq_ok.mp h
    obtain ⟨valkeyUrl, h2, h⟩ := bind_eq_ok.mp h
    obtain ⟨host, h3, h⟩ := bind_eq_ok.mp h
    obtain ⟨port, h4, h⟩ := bind_eq_ok.mp h
    obtain ⟨pgPoolSize, h5, h⟩ := bind_eq_ok.mp h
    obtain ⟨valkeyPoolSize, h6, h⟩ := bind_eq_ok.mp h
    obtain ⟨timestampSkewSecs, h7, h⟩ := bind_eq_ok.mp h
    obtain ⟨providerTimeoutMs, h8, h⟩ := bind_eq_ok.mp h
    obtain ⟨policyCacheTtlSecs, h9, h⟩ := bind_eq_ok.mp h
    obtain ⟨adminKeyCacheTtlSecs, h10, h⟩ := bind_eq_ok.mp h
    obtain ⟨routingCacheTtlSecs, h11, h⟩ := bind_eq_ok.mp h
    obtain ⟨globalRpm, h12, h⟩ := bind_eq_ok.mp h
    obtain ⟨windowSecs, h13, h⟩ := bind_eq_ok.mp h
    obtain ⟨_, h14, h⟩ := bind_eq_ok.mp h
    obtain ⟨_, h15, h⟩ := bind_eq_ok.mp h
    cases h
    exact ⟨h1, h2, h3, h4, h5, h6, h7, h8, h9, h10, h11, h12, h13, h14, h15, rfl⟩
  · rintro ⟨h1, h2, h3, h4, h5, h6, h7, h8, h9, h10, h11, h12, h13, h14, h15, h16⟩
    unfold loadFrom
    refine bind_eq_ok.mpr ⟨_, h1, bind_eq_ok.mpr ⟨_, h2, bind_eq_ok.mpr ⟨_, h3, ?_⟩⟩⟩
    refine bind_eq_ok.mpr ⟨_, h4, bind_eq_ok.mpr ⟨_, h5, bind_eq_ok.mpr ⟨_, h6, ?_⟩⟩⟩
    refine bind_eq_ok.mpr ⟨_, h7, bind_eq_ok.mpr ⟨_, h8, bind_eq_ok.mpr ⟨_, h9, ?_⟩⟩⟩
    refine bind_eq_ok.mpr ⟨_, h10, bind_eq_ok.mpr ⟨_, h11, bind_eq_ok.mpr ⟨_, h12, ?_⟩⟩⟩
    refine bind_eq_ok.mpr ⟨_, h13, bind_eq_ok.mpr ⟨_, h14, bind_eq_ok.mpr ⟨_, h15, ?_⟩⟩⟩
    rw [← h16]
    rfl

theorem rejectZero_eq_ok {isZero : Bool} {reason : String} :
    rejectZero isZero name reason = .ok () ↔ isZero = false := by
  cases isZero <;> simp [rejectZero]

/-! ## Every valid configuration can be written down -/

/-- The variables that describe `c`. -/
def environment (showIpAddr : IpAddr → String) (c : GatewayConfig IpAddr) : ConfigSource
  | "DATABASE_URL" => some c.database.url
  | "VALKEY_URL" => some c.redis.url
  | "LLMSMARTGATE_HOST" => some (showIpAddr c.server.host)
  | "LLMSMARTGATE_PORT" => some (toString c.server.port.toNat)
  | "LLMSMARTGATE_PG_POOL_SIZE" => some (toString c.database.poolSize.toNat)
  | "LLMSMARTGATE_VALKEY_POOL_SIZE" => some (toString c.redis.poolSize.toNat)
  | "LLMSMARTGATE_TIMESTAMP_SKEW_SECS" => some (toString c.auth.timestampSkewSecs.toNat)
  | "LLMSMARTGATE_PROVIDER_TIMEOUT_MS" => some (toString c.provider.timeoutMs.toNat)
  | "LLMSMARTGATE_POLICY_CACHE_TTL_SECS" => some (toString c.policy.cacheTtlSecs.toNat)
  | "LLMSMARTGATE_ADMIN_KEY_CACHE_TTL_SECS" => some (toString c.auth.adminKeyCacheTtlSecs.toNat)
  | "LLMSMARTGATE_ROUTING_CACHE_TTL_SECS" => some (toString c.routing.cacheTtlSecs.toNat)
  | "LLMSMARTGATE_GLOBAL_RPM" => some (toString c.rateLimit.globalRpm.toNat)
  | "LLMSMARTGATE_RATE_LIMIT_WINDOW_SECS" => some (toString c.rateLimit.windowSecs.toNat)
  | "RUST_LOG" => some c.observability.logLevel
  | "OTEL_EXPORTER_OTLP_ENDPOINT" => c.observability.otelEndpoint
  | "OTEL_SERVICE_NAME" => some c.observability.serviceName
  | _ => none

theorem parseVal_eq_ok_of_some {parse : String → Except String α} {default a : α} {text : String}
    (hsource : source name = some text) (htext : parse text = .ok a) :
    parseVal parse source name default = .ok a := by
  unfold parseVal
  rw [hsource]
  change (parse text).mapError _ = _
  rw [htext]
  rfl

theorem loads_environment {showIpAddr : IpAddr → String}
    (hhost : parseIpAddr (showIpAddr c.server.host) = .ok c.server.host)
    (hrpm : 0 < c.rateLimit.globalRpm) (hwindow : 0 < c.rateLimit.windowSecs) :
    Loads parseIpAddr (environment showIpAddr c) c where
  databaseUrl := rfl
  valkeyUrl := rfl
  host := by
    change (parseIpAddr (showIpAddr c.server.host)).mapError _ = _
    rw [hhost]
    rfl
  port := parseVal_eq_ok_of_some rfl (parseU16_toString _)
  pgPoolSize := parseVal_eq_ok_of_some rfl (parseU32_toString _)
  valkeyPoolSize := parseVal_eq_ok_of_some rfl (parseU32_toString _)
  timestampSkewSecs := parseVal_eq_ok_of_some rfl (parseU64_toString _)
  providerTimeoutMs := parseVal_eq_ok_of_some rfl (parseU64_toString _)
  policyCacheTtlSecs := parseVal_eq_ok_of_some rfl (parseU64_toString _)
  adminKeyCacheTtlSecs := parseVal_eq_ok_of_some rfl (parseU64_toString _)
  routingCacheTtlSecs := parseVal_eq_ok_of_some rfl (parseU64_toString _)
  globalRpm := parseVal_eq_ok_of_some rfl (parseU32_toString _)
  windowSecs := parseVal_eq_ok_of_some rfl (parseU64_toString _)
  globalRpm_ne := rejectZero_eq_ok.mpr (beq_eq_false_iff_ne.mpr (UInt32.pos_iff_ne_zero.mp hrpm))
  windowSecs_ne := rejectZero_eq_ok.mpr
    (beq_eq_false_iff_ne.mpr (UInt64.pos_iff_ne_zero.mp hwindow))
  observability := rfl

theorem loadable_iff_positive_limits :
    (∃ source, loadFrom parseIpAddr source = .ok c) ↔
      (∃ text, parseIpAddr text = .ok c.server.host) ∧
        0 < c.rateLimit.globalRpm ∧ 0 < c.rateLimit.windowSecs := by
  constructor
  · rintro ⟨source, h⟩
    have loads := loadFrom_eq_ok.mp h
    refine ⟨⟨_, eq_ok_of_mapError loads.host⟩, ?_, ?_⟩
    · have hne := beq_eq_false_iff_ne.mp (rejectZero_eq_ok.mp loads.globalRpm_ne)
      exact UInt32.pos_iff_ne_zero.mpr hne
    · have hne := beq_eq_false_iff_ne.mp (rejectZero_eq_ok.mp loads.windowSecs_ne)
      exact UInt64.pos_iff_ne_zero.mpr hne
  · rintro ⟨⟨text, htext⟩, hrpm, hwindow⟩
    have hloads : Loads parseIpAddr (environment (fun _ ↦ text) c) c :=
      loads_environment htext hrpm hwindow
    exact ⟨_, loadFrom_eq_ok.mpr hloads⟩

/-! ## Which variable is to blame -/

/-- `read` depends on the variable `name` only, and blames it for its errors. -/
structure Reads (name : String) (read : ConfigSource → Except ConfigError α) : Prop where
  congr : ∀ source source', source' name = source name → read source' = read source
  blame : ∀ source e, read source = .error e → e.name = name

theorem reads_required : Reads name fun source ↦ required source name where
  congr source source' hsame := by simp only [required, hsame]
  blame source e h := by
    unfold required at h
    split at h
    · cases h
    · cases h
      rfl

theorem name_of_mapError {x : Except String α} (h : x.mapError (.invalidValue name) = .error e) :
    e.name = name := by
  cases x with
  | ok a => cases h
  | error reason =>
      cases h
      rfl

theorem reads_host : Reads "LLMSMARTGATE_HOST" fun source ↦
    (parseIpAddr (optional source "LLMSMARTGATE_HOST" defaultHost)).mapError
      (.invalidValue "LLMSMARTGATE_HOST") where
  congr source source' hsame := by simp only [optional, hsame]
  blame source e h := name_of_mapError h

theorem reads_parseVal {parse : String → Except String α} {default : α} :
    Reads name fun source ↦ parseVal parse source name default where
  congr source source' hsame := by simp only [parseVal, hsame]
  blame source e h := by
    unfold parseVal at h
    split at h
    · exact name_of_mapError h
    · cases h

theorem Reads.nonzero {read : ConfigSource → Except ConfigError α} (hread : Reads name read)
    (isZero : α → Bool) {reason : String} :
    Reads name fun source ↦ read source >>= fun a ↦ rejectZero (isZero a) name reason where
  congr source source' hsame := by simp only [hread.congr source source' hsame]
  blame source e h := by
    rcases bind_eq_error.mp h with h | ⟨a, _, h⟩
    · exact hread.blame source e h
    · unfold rejectZero at h
      split_ifs at h
      cases h
      rfl

theorem Reads.not_ok {read : ConfigSource → Except ConfigError α} {a : α}
    (hread : Reads name read) (h : read source = .error e)
    (hsame : source' e.name = source e.name) (hok : read source' = .ok a) : False := by
  rw [hread.blame source e h] at hsame
  rw [hread.congr source source' hsame, h] at hok
  cases hok

theorem not_loads_of_error (h : loadFrom parseIpAddr source = .error e)
    (hsame : source' e.name = source e.name) : ¬ Loads parseIpAddr source' c := by
  intro loads
  unfold loadFrom at h
  rcases bind_eq_error.mp h with h | ⟨_, _, h⟩
  · exact reads_required.not_ok h hsame loads.databaseUrl
  rcases bind_eq_error.mp h with h | ⟨_, _, h⟩
  · exact reads_required.not_ok h hsame loads.valkeyUrl
  rcases bind_eq_error.mp h with h | ⟨_, _, h⟩
  · exact reads_host.not_ok h hsame loads.host
  rcases bind_eq_error.mp h with h | ⟨_, _, h⟩
  · exact reads_parseVal.not_ok h hsame loads.port
  rcases bind_eq_error.mp h with h | ⟨_, _, h⟩
  · exact reads_parseVal.not_ok h hsame loads.pgPoolSize
  rcases bind_eq_error.mp h with h | ⟨_, _, h⟩
  · exact reads_parseVal.not_ok h hsame loads.valkeyPoolSize
  rcases bind_eq_error.mp h with h | ⟨_, _, h⟩
  · exact reads_parseVal.not_ok h hsame loads.timestampSkewSecs
  rcases bind_eq_error.mp h with h | ⟨_, _, h⟩
  · exact reads_parseVal.not_ok h hsame loads.providerTimeoutMs
  rcases bind_eq_error.mp h with h | ⟨_, _, h⟩
  · exact reads_parseVal.not_ok h hsame loads.policyCacheTtlSecs
  rcases bind_eq_error.mp h with h | ⟨_, _, h⟩
  · exact reads_parseVal.not_ok h hsame loads.adminKeyCacheTtlSecs
  rcases bind_eq_error.mp h with h | ⟨_, _, h⟩
  · exact reads_parseVal.not_ok h hsame loads.routingCacheTtlSecs
  rcases bind_eq_error.mp h with h | ⟨globalRpm, hrpm, h⟩
  · exact reads_parseVal.not_ok h hsame loads.globalRpm
  rcases bind_eq_error.mp h with h | ⟨windowSecs, hwindow, h⟩
  · exact reads_parseVal.not_ok h hsame loads.windowSecs
  rcases bind_eq_error.mp h with h | ⟨_, _, h⟩
  · exact (reads_parseVal.nonzero (· == 0)).not_ok (bind_eq_error.mpr (.inr ⟨globalRpm, hrpm, h⟩))
      hsame (bind_eq_ok.mpr ⟨_, loads.globalRpm, loads.globalRpm_ne⟩)
  rcases bind_eq_error.mp h with h | ⟨_, _, h⟩
  · exact (reads_parseVal.nonzero (· == 0)).not_ok
      (bind_eq_error.mpr (.inr ⟨windowSecs, hwindow, h⟩)) hsame
      (bind_eq_ok.mpr ⟨_, loads.windowSecs, loads.windowSecs_ne⟩)
  cases h

/-- A variable that stops one load stops every load in which it has the same value. -/
theorem load_error_blames_variable (h : loadFrom parseIpAddr source = .error e)
    (hsame : source' e.name = source e.name) :
    ∃ e', loadFrom parseIpAddr source' = .error e' := by
  cases hload : loadFrom parseIpAddr source' with
  | error e' => exact ⟨e', rfl⟩
  | ok c => exact absurd (loadFrom_eq_ok.mp hload) (not_loads_of_error h hsame)

end

/-- The database and the cache only, with a window of zero seconds. -/
def zeroWindow : ConfigSource
  | "DATABASE_URL" => some "postgres://db"
  | "VALKEY_URL" => some "redis://cache"
  | "LLMSMARTGATE_RATE_LIMIT_WINDOW_SECS" => some "0"
  | _ => none

theorem load_error_blames_variable_window :
    ∃ e', loadFrom (fun s ↦ .ok s) (fun name ↦ (zeroWindow name).map fun _ ↦ "0") =
      .error e' := by
  have hload : loadFrom (fun s ↦ .ok s) zeroWindow =
      .error (.invalidValue "LLMSMARTGATE_RATE_LIMIT_WINDOW_SECS" "window_secs must be > 0") := by
    decide +kernel
  exact load_error_blames_variable hload (by decide)

end SmartGate
