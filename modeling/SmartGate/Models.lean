import SmartGate.Types

/-!
# Rows and inputs

The row structs of `models.rs` and the inputs of the repositories.  Instants are
milliseconds since the Unix epoch.  Columns that only triggers write (`updated_at`)
and the tables that no modelled function reads are left out.
-/

namespace SmartGate

structure Tenant where
  id : TenantId
  name : String
  slug : String
  status : TenantStatus
  metadata : Json
  createdAt : ℕ

structure ServiceAccount where
  id : ServiceAccountId
  tenantId : TenantId
  name : String
  slug : String
  environment : Environment
  description : Option String
  status : ServiceAccountStatus
  defaultPolicyId : Option PolicyId
  createdAt : ℕ
  deriving DecidableEq

structure ServiceAccountKey where
  id : KeyId
  serviceAccountId : ServiceAccountId
  keyId : String
  algorithm : String
  publicKeyPem : String
  fingerprint : String
  status : KeyStatus
  expiresAt : Option ℕ
  createdAt : ℕ
  revokedAt : Option ℕ
  lastUsedAt : Option ℕ
  deriving DecidableEq

/-- A row of `policies`.  The four limits are signed 32-bit columns. -/
structure Policy where
  id : PolicyId
  tenantId : TenantId
  name : String
  description : Option String
  allowedModelsJson : Json
  deniedModelsJson : Json
  maxInputTokens : Option ℤ
  maxOutputTokens : Option ℤ
  allowStreaming : Bool
  allowTools : Bool
  allowFiles : Bool
  rpmLimit : Option ℤ
  concurrencyLimit : Option ℤ
  createdAt : ℕ

structure ServiceAccountPolicyBinding where
  id : Uuid
  serviceAccountId : ServiceAccountId
  policyId : PolicyId
  createdAt : ℕ
  deriving DecidableEq

/-- A row of `provider_routes`.  The column `provider` is a text, which is decoded when a
row is read; `priority` and the three settings are signed 32-bit columns.  The number of
retries keeps its machine type, because the routing core goes on to calculate with it. -/
structure Route (π : Type) where
  id : RouteId
  tenantId : Option TenantId
  modelAlias : String
  provider : π
  providerModelName : String
  priority : ℤ
  enabled : Bool
  timeoutMs : ℤ
  maxRetries : Int32
  retryBackoffMs : ℤ
  config : Json
  createdAt : ℕ

abbrev RouteRow := Route String

abbrev ProviderRoute := Route Provider

/-- A row of `admin_api_keys`.  The role is a text, which is read at every request. -/
structure AdminApiKey where
  id : Uuid
  name : String
  keyHash : String
  role : String
  isActive : Bool
  createdAt : ℕ
  lastUsedAt : Option ℕ

/-! ## Inputs of the repositories -/

structure CreateTenant where
  id : TenantId
  name : String
  slug : String
  status : TenantStatus
  metadata : Json

structure UpdateTenant where
  name : Option String
  slug : Option String
  status : Option TenantStatus
  metadata : Option Json

structure CreateServiceAccount where
  id : ServiceAccountId
  tenantId : TenantId
  name : String
  slug : String
  environment : Environment
  description : Option String
  status : ServiceAccountStatus
  defaultPolicyId : Option PolicyId

structure UpdateServiceAccount where
  name : Option String := none
  slug : Option String := none
  environment : Option Environment := none
  description : Option String := none
  status : Option ServiceAccountStatus := none
  defaultPolicyId : Option PolicyId := none

structure RegisterKey where
  serviceAccountId : ServiceAccountId
  keyId : String
  algorithm : String
  publicKeyPem : String
  fingerprint : String
  expiresAt : Option ℕ

structure CreatePolicy where
  id : PolicyId
  tenantId : TenantId
  name : String
  description : Option String
  allowedModelsJson : Json
  deniedModelsJson : Json
  maxInputTokens : Option ℤ
  maxOutputTokens : Option ℤ
  allowStreaming : Bool
  allowTools : Bool
  allowFiles : Bool
  rpmLimit : Option ℤ
  concurrencyLimit : Option ℤ

structure UpdatePolicy where
  name : Option String
  description : Option String
  allowedModelsJson : Option Json
  deniedModelsJson : Option Json
  maxInputTokens : Option ℤ
  maxOutputTokens : Option ℤ
  allowStreaming : Option Bool
  allowTools : Option Bool
  allowFiles : Option Bool
  rpmLimit : Option ℤ
  concurrencyLimit : Option ℤ

structure CreateRoute where
  tenantId : Option TenantId
  modelAlias : String
  provider : String
  providerModelName : String
  priority : Option ℤ := none
  enabled : Option Bool := none
  timeoutMs : Option ℤ := none
  maxRetries : Option Int32 := none
  retryBackoffMs : Option ℤ := none
  config : Option Json := none

structure UpdateRoute where
  modelAlias : Option String := none
  provider : Option String := none
  providerModelName : Option String := none
  priority : Option ℤ := none
  enabled : Option Bool := none
  timeoutMs : Option ℤ := none
  maxRetries : Option Int32 := none
  retryBackoffMs : Option ℤ := none
  config : Option Json := none

/-! ## The authenticated caller -/

/-- What the auth middleware hands to the policy layer. -/
structure AuthContext where
  tenantId : TenantId
  serviceAccountId : ServiceAccountId
  keyId : String
  serviceAccountName : String
  environment : Environment
  defaultPolicyId : Option PolicyId
  deriving DecidableEq

end SmartGate
