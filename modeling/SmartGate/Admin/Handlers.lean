import SmartGate.Admin.Validation
import SmartGate.Auth.Verifier
import SmartGate.Lib.Transition
import SmartGate.Policy.Cache

/-!
# The mutating handlers of the admin API

A handler checks the role and the fields of the request, sends one statement to the
database and then drops the entries of the policy cache that the statement may have
made stale.  A handler that fails leaves the application state as it was.  Identifiers
the handlers generate and the time of the database are arguments.
-/

namespace SmartGate

structure AppState where
  db : Option Database
  policyCache : Option PolicyCache

namespace AppState

def initial : AppState := ⟨some Database.empty, some PolicyCache.empty⟩

def requireDb (s : AppState) : Except GatewayError Database :=
  match s.db with
  | some db => .ok db
  | none => .error (.config "internal_error" "database not available")

theorem requireDb_eq_ok {s : AppState} {db : Database} (h : s.requireDb = .ok db) :
    s.db = some db := by
  unfold requireDb at h
  split at h
  · next heq =>
    cases h
    exact heq
  · cases h

/-- The tail that all handlers share: the statement, the translation of its error, and
the invalidation of cached policies. -/
def execute {α : Type} (s : AppState) (statement : Database → Except StorageError (α × Database))
    (mapError : StorageError → GatewayError) (invalidate : PolicyCache → PolicyCache) :
    Except GatewayError (α × AppState) := do
  let db ← s.requireDb
  let (answer, db') ← (statement db).mapError mapError
  return (answer, ⟨some db', s.policyCache.map invalidate⟩)

theorem execute_eq_ok {α : Type} {s s' : AppState}
    {statement : Database → Except StorageError (α × Database)}
    {mapError : StorageError → GatewayError} {invalidate : PolicyCache → PolicyCache} {answer : α}
    (h : s.execute statement mapError invalidate = .ok (answer, s')) :
    ∃ db db', s.db = some db ∧ statement db = .ok (answer, db') ∧
      s' = ⟨some db', s.policyCache.map invalidate⟩ := by
  obtain ⟨db, hdb, hrest⟩ := bind_eq_ok.mp h
  obtain ⟨⟨a, db'⟩, hstatement, hreturn⟩ := bind_eq_ok.mp hrest
  cases hreturn
  exact ⟨db, db', requireDb_eq_ok hdb, eq_ok_of_mapError hstatement, rfl⟩

end AppState

/-! ## Tenants -/

structure CreateTenantRequest where
  name : String
  slug : String
  metadata : Option Json

structure UpdateTenantRequest where
  name : Option String
  metadata : Option Json

def createTenant (ctx : AdminContext) (body : CreateTenantRequest) (id : TenantId) (now : ℕ)
    (s : AppState) : Except GatewayError (Tenant × AppState) := do
  requireAdminRole ctx
  validateName body.name
  validateSlug body.slug
  let input : CreateTenant := {
    id, name := body.name, slug := body.slug, status := .active
    metadata := body.metadata.getD (.obj []) }
  s.execute (fun db ↦ TenantRepo.create db input now) mapStorageError (fun cache ↦ cache)

def updateTenant (ctx : AdminContext) (id : TenantId) (body : UpdateTenantRequest)
    (s : AppState) : Except GatewayError (Tenant × AppState) := do
  requireAdminRole ctx
  checkSome body.name validateName
  let input : UpdateTenant := ⟨body.name, none, none, body.metadata⟩
  s.execute (fun db ↦ TenantRepo.update db id input) mapStorageError (fun cache ↦ cache)

def deleteTenant (ctx : AdminContext) (id : TenantId) (s : AppState) :
    Except GatewayError (Tenant × AppState) := do
  requireAdminRole ctx
  s.execute (fun db ↦ TenantRepo.softDelete db id) mapStorageError (fun cache ↦ cache)

/-! ## Service accounts -/

structure CreateServiceAccountRequest where
  tenantId : TenantId
  name : String
  slug : String
  environment : String
  description : Option String

structure UpdateServiceAccountRequest where
  name : Option String
  description : Option String

def createServiceAccount (ctx : AdminContext) (body : CreateServiceAccountRequest)
    (id : ServiceAccountId) (now : ℕ) (s : AppState) :
    Except GatewayError (ServiceAccount × AppState) := do
  requireAdminRole ctx
  validateName body.name
  validateSlug body.slug
  let environment ← parseEnvironment body.environment
  let input : CreateServiceAccount := {
    id, tenantId := body.tenantId, name := body.name, slug := body.slug, environment
    description := body.description, status := .active, defaultPolicyId := none }
  s.execute (fun db ↦ ServiceAccountRepo.create db input now) mapStorageError (fun cache ↦ cache)

def updateServiceAccount (ctx : AdminContext) (id : ServiceAccountId) (tenantId : TenantId)
    (body : UpdateServiceAccountRequest) (s : AppState) :
    Except GatewayError (ServiceAccount × AppState) := do
  requireAdminRole ctx
  checkSome body.name validateName
  let input : UpdateServiceAccount := { name := body.name, description := body.description }
  s.execute (fun db ↦ ServiceAccountRepo.update db tenantId id input) mapStorageError
    (fun cache ↦ cache)

def suspendServiceAccount (ctx : AdminContext) (id : ServiceAccountId) (tenantId : TenantId)
    (s : AppState) : Except GatewayError (ServiceAccount × AppState) := do
  requireAdminRole ctx
  s.execute (fun db ↦ ServiceAccountRepo.suspend db tenantId id) mapStorageError
    (fun cache ↦ cache)

def activateServiceAccount (ctx : AdminContext) (id : ServiceAccountId) (tenantId : TenantId)
    (s : AppState) : Except GatewayError (ServiceAccount × AppState) := do
  requireAdminRole ctx
  s.execute (fun db ↦ ServiceAccountRepo.activate db tenantId id) mapStorageError
    (fun cache ↦ cache)

/-! ## Keys -/

structure RegisterKeyRequest where
  keyId : String
  publicKeyPem : String
  expiresAt : Option ℕ

def registerKey (P : Primitives) (ctx : AdminContext) (sa : ServiceAccountId)
    (body : RegisterKeyRequest) (id : KeyId) (now : ℕ) (s : AppState) :
    Except GatewayError (ServiceAccountKey × AppState) := do
  requireAdminRole ctx
  validateKeyId body.keyId
  let verifyingKey ← (parsePublicKey P body.publicKeyPem).mapError fun _ ↦
    .validation "invalid_public_key"
      "public_key_pem is not a valid Ed25519 public key in PEM format"
  let input : RegisterKey := {
    serviceAccountId := sa, keyId := body.keyId, algorithm := "ed25519"
    publicKeyPem := body.publicKeyPem
    fingerprint := computeBodyHash P (P.verifyingKeyAsBytes verifyingKey)
    expiresAt := body.expiresAt }
  s.execute (fun db ↦ KeyRepo.registerKey db input id now) mapStorageError (fun cache ↦ cache)

/-- The key store that this handler also invalidates is the subject of its own model. -/
def revokeKey (ctx : AdminContext) (sa : ServiceAccountId) (id : KeyId) (now : ℕ)
    (s : AppState) : Except GatewayError (ServiceAccountKey × AppState) := do
  requireAdminRole ctx
  s.execute (fun db ↦ KeyRepo.revokeScoped db id sa now) mapStorageError (fun cache ↦ cache)

/-! ## Policies -/

structure CreatePolicyRequest where
  tenantId : TenantId
  name : String
  description : Option String := none
  allowedModelsJson : Option Json := none
  deniedModelsJson : Option Json := none
  maxInputTokens : Option ℤ := none
  maxOutputTokens : Option ℤ := none
  allowStreaming : Option Bool := none
  allowTools : Option Bool := none
  allowFiles : Option Bool := none
  rpmLimit : Option ℤ := none
  concurrencyLimit : Option ℤ := none

/-- The checks that creating and updating a policy share, in their order. -/
def validatePolicyFields (allowedModelsJson deniedModelsJson : Option Json)
    (maxInputTokens maxOutputTokens rpmLimit concurrencyLimit : Option ℤ) :
    Except GatewayError Unit := do
  checkSome allowedModelsJson fun v ↦ validateModelsJson v "allowed_models_json"
  checkSome deniedModelsJson fun v ↦ validateModelsJson v "denied_models_json"
  checkSome maxInputTokens fun v ↦ validateTokenLimit v "max_input_tokens"
  checkSome maxOutputTokens fun v ↦ validateTokenLimit v "max_output_tokens"
  checkSome rpmLimit fun v ↦ validatePositiveLimit v "rpm_limit"
  checkSome concurrencyLimit fun v ↦ validatePositiveLimit v "concurrency_limit"

def CreatePolicyRequest.input (body : CreatePolicyRequest) (id : PolicyId) : CreatePolicy where
  id := id
  tenantId := body.tenantId
  name := body.name
  description := body.description
  allowedModelsJson := body.allowedModelsJson.getD (.arr [])
  deniedModelsJson := body.deniedModelsJson.getD (.arr [])
  maxInputTokens := body.maxInputTokens
  maxOutputTokens := body.maxOutputTokens
  allowStreaming := body.allowStreaming.getD true
  allowTools := body.allowTools.getD true
  allowFiles := body.allowFiles.getD true
  rpmLimit := body.rpmLimit
  concurrencyLimit := body.concurrencyLimit

def createPolicy (ctx : AdminContext) (body : CreatePolicyRequest) (id : PolicyId) (now : ℕ)
    (s : AppState) : Except GatewayError (Policy × AppState) := do
  requireAdminRole ctx
  validateName body.name
  validatePolicyFields body.allowedModelsJson body.deniedModelsJson body.maxInputTokens
    body.maxOutputTokens body.rpmLimit body.concurrencyLimit
  s.execute (fun db ↦ PolicyRepo.create db (body.input id) now) mapStorageError
    PolicyCache.invalidateAll

/-- The request has the fields of the repository's input. -/
abbrev UpdatePolicyRequest := UpdatePolicy

def updatePolicy (ctx : AdminContext) (id : PolicyId) (tenantId : TenantId)
    (body : UpdatePolicyRequest) (s : AppState) : Except GatewayError (Policy × AppState) := do
  requireAdminRole ctx
  checkSome body.name validateName
  validatePolicyFields body.allowedModelsJson body.deniedModelsJson body.maxInputTokens
    body.maxOutputTokens body.rpmLimit body.concurrencyLimit
  s.execute (fun db ↦ PolicyRepo.update db tenantId id body) mapStorageError
    PolicyCache.invalidateAll

/-- A policy that is still referred to is reported as a conflict. -/
def mapDeletePolicyError : StorageError → GatewayError
  | .referenceError _ =>
      .conflict "conflict" "cannot delete policy: it still has active bindings"
  | e => mapStorageError e

def deletePolicy (ctx : AdminContext) (id : PolicyId) (tenantId : TenantId) (s : AppState) :
    Except GatewayError (Unit × AppState) := do
  requireAdminRole ctx
  s.execute (fun db ↦ (PolicyRepo.delete db tenantId id).map fun db' ↦ ((), db'))
    mapDeletePolicyError PolicyCache.invalidateAll

def createBinding (ctx : AdminContext) (sa : ServiceAccountId) (policyId : PolicyId) (id : Uuid)
    (now : ℕ) (s : AppState) : Except GatewayError (ServiceAccountPolicyBinding × AppState) := do
  requireAdminRole ctx
  s.execute (fun db ↦ PolicyRepo.createBinding db sa policyId id now) mapStorageError
    (PolicyCache.invalidate sa)

def deleteBinding (ctx : AdminContext) (sa : ServiceAccountId) (policyId : PolicyId)
    (s : AppState) : Except GatewayError (Unit × AppState) := do
  requireAdminRole ctx
  s.execute (fun db ↦ (PolicyRepo.deleteBinding db sa policyId).map fun db' ↦ ((), db'))
    mapStorageError (PolicyCache.invalidate sa)

/-! ## What a handler that succeeds has executed -/

theorem of_requireAdminRole {α : Type} {ctx : AdminContext} {x : Except GatewayError α} {a : α}
    (h : (requireAdminRole ctx >>= fun _ ↦ x) = .ok a) : x = .ok a := by
  obtain ⟨_, _, hx⟩ := bind_eq_ok.mp h
  exact hx

section Executed

variable {ctx : AdminContext} {now : ℕ} {s s' : AppState}

theorem createTenant_executed {body : CreateTenantRequest} {id : TenantId} {t : Tenant}
    (h : createTenant ctx body id now s = .ok (t, s')) :
    s.execute (fun db ↦ TenantRepo.create db {
      id, name := body.name, slug := body.slug, status := .active
      metadata := body.metadata.getD (.obj []) } now) mapStorageError (fun cache ↦ cache) =
        .ok (t, s') := by
  obtain ⟨_, _, h⟩ := bind_eq_ok.mp (of_requireAdminRole h)
  obtain ⟨_, _, h⟩ := bind_eq_ok.mp h
  exact h

theorem updateTenant_executed {body : UpdateTenantRequest} {id : TenantId} {t : Tenant}
    (h : updateTenant ctx id body s = .ok (t, s')) :
    s.execute (fun db ↦ TenantRepo.update db id ⟨body.name, none, none, body.metadata⟩)
      mapStorageError (fun cache ↦ cache) = .ok (t, s') := by
  obtain ⟨_, _, h⟩ := bind_eq_ok.mp (of_requireAdminRole h)
  exact h

theorem createServiceAccount_executed {body : CreateServiceAccountRequest}
    {id : ServiceAccountId} {a : ServiceAccount}
    (h : createServiceAccount ctx body id now s = .ok (a, s')) :
    ∃ environment, parseEnvironment body.environment = .ok environment ∧
      s.execute (fun db ↦ ServiceAccountRepo.create db {
        id, tenantId := body.tenantId, name := body.name, slug := body.slug, environment
        description := body.description, status := .active, defaultPolicyId := none } now)
        mapStorageError (fun cache ↦ cache) = .ok (a, s') := by
  obtain ⟨_, _, h⟩ := bind_eq_ok.mp (of_requireAdminRole h)
  obtain ⟨_, _, h⟩ := bind_eq_ok.mp h
  obtain ⟨environment, henvironment, h⟩ := bind_eq_ok.mp h
  exact ⟨environment, henvironment, h⟩

theorem updateServiceAccount_executed {body : UpdateServiceAccountRequest}
    {id : ServiceAccountId} {tenantId : TenantId} {a : ServiceAccount}
    (h : updateServiceAccount ctx id tenantId body s = .ok (a, s')) :
    s.execute (fun db ↦ ServiceAccountRepo.update db tenantId id
      { name := body.name, description := body.description }) mapStorageError
      (fun cache ↦ cache) = .ok (a, s') := by
  obtain ⟨_, _, h⟩ := bind_eq_ok.mp (of_requireAdminRole h)
  exact h

theorem registerKey_executed {P : Primitives} {sa : ServiceAccountId} {body : RegisterKeyRequest}
    {id : KeyId} {key : ServiceAccountKey}
    (h : registerKey P ctx sa body id now s = .ok (key, s')) :
    ∃ verifyingKey, parsePublicKey P body.publicKeyPem = .ok verifyingKey ∧
      s.execute (fun db ↦ KeyRepo.registerKey db {
        serviceAccountId := sa, keyId := body.keyId, algorithm := "ed25519"
        publicKeyPem := body.publicKeyPem
        fingerprint := computeBodyHash P (P.verifyingKeyAsBytes verifyingKey)
        expiresAt := body.expiresAt } id now) mapStorageError (fun cache ↦ cache) =
          .ok (key, s') := by
  obtain ⟨_, _, h⟩ := bind_eq_ok.mp (of_requireAdminRole h)
  obtain ⟨verifyingKey, hparsed, h⟩ := bind_eq_ok.mp h
  exact ⟨verifyingKey, eq_ok_of_mapError hparsed, h⟩

theorem createPolicy_executed {body : CreatePolicyRequest} {id : PolicyId} {p : Policy}
    (h : createPolicy ctx body id now s = .ok (p, s')) :
    validatePolicyFields body.allowedModelsJson body.deniedModelsJson body.maxInputTokens
        body.maxOutputTokens body.rpmLimit body.concurrencyLimit = .ok () ∧
      s.execute (fun db ↦ PolicyRepo.create db (body.input id) now) mapStorageError
        PolicyCache.invalidateAll = .ok (p, s') := by
  obtain ⟨_, _, h⟩ := bind_eq_ok.mp (of_requireAdminRole h)
  obtain ⟨_, hfields, h⟩ := bind_eq_ok.mp h
  exact ⟨hfields, h⟩

theorem updatePolicy_executed {body : UpdatePolicyRequest} {id : PolicyId} {tenantId : TenantId}
    {p : Policy} (h : updatePolicy ctx id tenantId body s = .ok (p, s')) :
    validatePolicyFields body.allowedModelsJson body.deniedModelsJson body.maxInputTokens
        body.maxOutputTokens body.rpmLimit body.concurrencyLimit = .ok () ∧
      s.execute (fun db ↦ PolicyRepo.update db tenantId id body) mapStorageError
        PolicyCache.invalidateAll = .ok (p, s') := by
  obtain ⟨_, _, h⟩ := bind_eq_ok.mp (of_requireAdminRole h)
  obtain ⟨_, hfields, h⟩ := bind_eq_ok.mp h
  exact ⟨hfields, h⟩

end Executed

/-! ## Requests -/

inductive AdminRequest where
  | createTenant (body : CreateTenantRequest) (id : TenantId)
  | updateTenant (id : TenantId) (body : UpdateTenantRequest)
  | deleteTenant (id : TenantId)
  | createServiceAccount (body : CreateServiceAccountRequest) (id : ServiceAccountId)
  | updateServiceAccount (id : ServiceAccountId) (tenantId : TenantId)
      (body : UpdateServiceAccountRequest)
  | suspendServiceAccount (id : ServiceAccountId) (tenantId : TenantId)
  | activateServiceAccount (id : ServiceAccountId) (tenantId : TenantId)
  | registerKey (sa : ServiceAccountId) (body : RegisterKeyRequest) (id : KeyId)
  | revokeKey (sa : ServiceAccountId) (id : KeyId)
  | createPolicy (body : CreatePolicyRequest) (id : PolicyId)
  | updatePolicy (id : PolicyId) (tenantId : TenantId) (body : UpdatePolicyRequest)
  | deletePolicy (id : PolicyId) (tenantId : TenantId)
  | createBinding (sa : ServiceAccountId) (policyId : PolicyId) (id : Uuid)
  | deleteBinding (sa : ServiceAccountId) (policyId : PolicyId)

def handle (P : Primitives) (ctx : AdminContext) (now : ℕ) (s : AppState) :
    AdminRequest → Except GatewayError AppState
  | .createTenant body id => (createTenant ctx body id now s).map Prod.snd
  | .updateTenant id body => (updateTenant ctx id body s).map Prod.snd
  | .deleteTenant id => (deleteTenant ctx id s).map Prod.snd
  | .createServiceAccount body id => (createServiceAccount ctx body id now s).map Prod.snd
  | .updateServiceAccount id tenantId body =>
      (updateServiceAccount ctx id tenantId body s).map Prod.snd
  | .suspendServiceAccount id tenantId => (suspendServiceAccount ctx id tenantId s).map Prod.snd
  | .activateServiceAccount id tenantId => (activateServiceAccount ctx id tenantId s).map Prod.snd
  | .registerKey sa body id => (registerKey P ctx sa body id now s).map Prod.snd
  | .revokeKey sa id => (revokeKey ctx sa id now s).map Prod.snd
  | .createPolicy body id => (createPolicy ctx body id now s).map Prod.snd
  | .updatePolicy id tenantId body => (updatePolicy ctx id tenantId body s).map Prod.snd
  | .deletePolicy id tenantId => (deletePolicy ctx id tenantId s).map Prod.snd
  | .createBinding sa policyId id => (createBinding ctx sa policyId id now s).map Prod.snd
  | .deleteBinding sa policyId => (deleteBinding ctx sa policyId s).map Prod.snd

theorem answered_of_map {α : Type} {x : Except GatewayError (α × AppState)} {s' : AppState}
    (h : x.map Prod.snd = .ok s') : ∃ answer, x = .ok (answer, s') := by
  obtain ⟨⟨answer, _⟩, hx, rfl⟩ := map_eq_ok.mp h
  exact ⟨answer, hx⟩

/-! ## Sequential runs -/

/-- The caller was authenticated against the current row of its service account. -/
def AuthContext.CurrentIn (auth : AuthContext) (db : Database) : Prop :=
  auth.defaultPolicyId =
    (db.serviceAccounts.get auth.serviceAccountId).bind ServiceAccount.defaultPolicyId

instance (auth : AuthContext) (db : Database) : Decidable (auth.CurrentIn db) :=
  inferInstanceAs (Decidable (_ = _))

inductive GatewayOp where
  | admin (ctx : AdminContext) (now : ℕ) (request : AdminRequest)
  /-- An entry of the policy cache is evicted or expires. -/
  | evict (sa : ServiceAccountId)
  | evaluateCached (order : Enumeration Policy) (hash : Enumeration String) (auth : AuthContext)
      (model : String) (features : RequestFeatures)
      (estimatedInputTokens requestedMaxOutputTokens : Option ℕ)

/-- One operation from its start to its end. -/
def gatewayStep (P : Primitives) (s : AppState) : GatewayOp → Option AppState
  | .admin ctx now request =>
      match handle P ctx now s request with
      | .ok s' => some s'
      | .error _ => some s
  | .evict sa => some { s with policyCache := s.policyCache.map (PolicyCache.invalidate sa) }
  | .evaluateCached order hash auth model features estimated requested =>
      s.db.bind fun db ↦ s.policyCache.bind fun cache ↦
        if auth.CurrentIn db then
          some { s with policyCache := some (evaluateCached hash cache
            (PolicyRepo.source order db) auth model features estimated requested).2 }
        else none

/-! ## A sample installation -/

def sampleAdmin : AdminContext := ⟨⟨1⟩, "ops", .admin⟩

def bindSamplePolicy : List GatewayOp :=
  [.admin sampleAdmin 0 (.createTenant ⟨"Acme Corp", "acme-corp", none⟩ ⟨⟨1⟩⟩),
    .admin sampleAdmin 1
      (.createServiceAccount ⟨⟨⟨1⟩⟩, "Batch jobs", "batch-jobs", "prod", none⟩ ⟨⟨2⟩⟩),
    .admin sampleAdmin 2 (.createPolicy
      { tenantId := ⟨⟨1⟩⟩, name := "small models"
        allowedModelsJson := some (Json.ofStrings ["gpt-4o-mini*"]) } ⟨⟨3⟩⟩),
    .admin sampleAdmin 3 (.createBinding ⟨⟨2⟩⟩ ⟨⟨3⟩⟩ ⟨4⟩)]

end SmartGate
