import SmartGate.Admin.Validation
import SmartGate.Storage.Listing

/-!
# The reading handlers of the admin API

The handlers of `GET` requests.  They do not check the role, they send one query to the
database, and they change nothing.
-/

namespace SmartGate

/-! ## Single rows -/

/-- `fetch_optional` followed by `ok_or_else`. -/
def fetchOptional {ρ : Type} (row : Option ρ) (missing : StorageError) : Except StorageError ρ :=
  match row with
  | some row => .ok row
  | none => .error missing

def TenantRepo.getById (db : Database) (id : TenantId) : Except StorageError Tenant :=
  fetchOptional (db.tenants.get id) (.notFound "tenant" "id" id.display)

def ServiceAccountRepo.getById (db : Database) (tenantId : TenantId) (id : ServiceAccountId) :
    Except StorageError ServiceAccount :=
  fetchOptional (db.serviceAccounts.rows.find? fun a ↦ decide (a.id = id ∧ a.tenantId = tenantId))
    (.notFound "service_account" "id" id.display)

def PolicyRepo.getById (db : Database) (tenantId : TenantId) (id : PolicyId) :
    Except StorageError Policy :=
  fetchOptional (db.policies.rows.find? fun p ↦ decide (p.id = id ∧ p.tenantId = tenantId))
    (.notFound "policy" "id" id.display)

def RouteRepo.getById (db : RouteDatabase) (id : RouteId) : Except StorageError ProviderRoute := do
  let row ← fetchOptional (db.routes.get id) (.notFound "route" "id" id.display)
  row.decode

/-! ## Requests and answers -/

structure ListTenantsQuery where
  cursor : Option String
  limit : Option ℤ
  status : Option String

structure ListServiceAccountsQuery where
  tenantId : TenantId
  cursor : Option String
  limit : Option ℤ

structure ListKeysQuery where
  cursor : Option String
  limit : Option ℤ

structure ListPoliciesQuery where
  tenantId : TenantId
  cursor : Option String
  limit : Option ℤ

/-- Without a tenant, the routes that belong to none are listed. -/
structure ListRoutesQuery where
  tenantId : Option TenantId
  cursor : Option String
  limit : Option ℤ

def KeyStatus.display : KeyStatus → String
  | .active => "active"
  | .rotating => "rotating"
  | .revoked => "revoked"
  | .expired => "expired"

structure KeyRegistrationResponse where
  id : KeyId
  keyId : String
  fingerprint : String
  algorithm : String
  status : String
  expiresAt : Option ℕ
  createdAt : ℕ

structure KeySummaryResponse where
  id : KeyId
  keyId : String
  fingerprint : String
  algorithm : String
  status : String
  expiresAt : Option ℕ
  createdAt : ℕ
  lastUsedAt : Option ℕ

def ServiceAccountKey.registrationResponse (key : ServiceAccountKey) : KeyRegistrationResponse where
  id := key.id
  keyId := key.keyId
  fingerprint := key.fingerprint
  algorithm := key.algorithm
  status := key.status.display
  expiresAt := key.expiresAt
  createdAt := key.createdAt

def ServiceAccountKey.summaryResponse (key : ServiceAccountKey) : KeySummaryResponse where
  id := key.id
  keyId := key.keyId
  fingerprint := key.fingerprint
  algorithm := key.algorithm
  status := key.status.display
  expiresAt := key.expiresAt
  createdAt := key.createdAt
  lastUsedAt := key.lastUsedAt

def TenantStatus.decode : String → Option TenantStatus
  | "active" => some .active
  | "suspended" => some .suspended
  | "deleted" => some .deleted
  | _ => none

def validateLimit (limit : Option ℤ) : Except GatewayError ℤ :=
  let limit := limit.getD 50
  if 1 ≤ limit ∧ limit ≤ 200 then .ok limit
  else .error (.validation "invalid_limit" s!"limit must be between 1 and 200, got {limit}")

/-- The bodies of successful answers. -/
inductive AdminAnswer where
  | tenant (t : Tenant)
  | serviceAccount (a : ServiceAccount)
  | keyRegistered (key : KeyRegistrationResponse)
  | key (key : ServiceAccountKey)
  | policy (p : Policy)
  | binding (b : ServiceAccountPolicyBinding)
  | route (r : ProviderRoute)
  | noContent
  | tenants (page : Page Tenant)
  | serviceAccounts (page : Page ServiceAccount)
  | keys (page : Page KeySummaryResponse)
  | policies (page : Page Policy)
  | routes (page : Page ProviderRoute)

inductive ReadRequest where
  | listTenants (query : ListTenantsQuery)
  | getTenant (id : TenantId)
  | listServiceAccounts (query : ListServiceAccountsQuery)
  | getServiceAccount (id : ServiceAccountId) (tenantId : TenantId)
  | listKeys (sa : ServiceAccountId) (query : ListKeysQuery)
  | listPolicies (query : ListPoliciesQuery)
  | getPolicy (id : PolicyId) (tenantId : TenantId)
  | listRoutes (query : ListRoutesQuery)
  | getRoute (id : RouteId)

/-! ## Handlers -/

def GatewayDatabase.require (db : Option GatewayDatabase) : Except GatewayError GatewayDatabase :=
  match db with
  | some db => .ok db
  | none => .error (.config "internal_error" "database not available")

/-- What the handlers of lists share: the database, then the limit, then the query. -/
def listPage {β : Type} (db : Option GatewayDatabase) (cursor : Option String) (limit : Option ℤ)
    (list : GatewayDatabase → Option Cursor → ℤ → Except StorageError (Page β)) :
    Except GatewayError (Page β) := do
  let db ← GatewayDatabase.require db
  let limit ← validateLimit limit
  (list db (cursor.map Cursor.mk) limit).mapError mapStorageError

/-- What the handlers of single rows share. -/
def getRow {ρ : Type} (db : Option GatewayDatabase)
    (get : GatewayDatabase → Except StorageError ρ) : Except GatewayError ρ := do
  let db ← GatewayDatabase.require db
  (get db).mapError mapStorageError

/-- The status is parsed after the limit and before the query. -/
def listTenants (codec : CursorCodec) (db : Option GatewayDatabase) (query : ListTenantsQuery) :
    Except GatewayError (Page Tenant) := do
  let db ← GatewayDatabase.require db
  let limit ← validateLimit query.limit
  let status ← match query.status with
    | some s => (parseEnumStr TenantStatus.decode s "status" "active, suspended, deleted").map some
    | none => .ok none
  (TenantRepo.list codec db.toDatabase (query.cursor.map Cursor.mk) limit status).mapError
    mapStorageError

def listServiceAccounts (codec : CursorCodec) (db : Option GatewayDatabase)
    (query : ListServiceAccountsQuery) : Except GatewayError (Page ServiceAccount) :=
  listPage db query.cursor query.limit fun db ↦
    ServiceAccountRepo.listByTenant codec db.toDatabase query.tenantId

def listKeys (codec : CursorCodec) (db : Option GatewayDatabase) (sa : ServiceAccountId)
    (query : ListKeysQuery) : Except GatewayError (Page KeySummaryResponse) := do
  let page ← listPage db query.cursor query.limit fun db ↦
    KeyRepo.listByServiceAccount codec db.toDatabase sa
  return { page with items := page.items.map ServiceAccountKey.summaryResponse }

def listPolicies (codec : CursorCodec) (db : Option GatewayDatabase) (query : ListPoliciesQuery) :
    Except GatewayError (Page Policy) :=
  listPage db query.cursor query.limit fun db ↦
    PolicyRepo.listByTenant codec db.toDatabase query.tenantId

def listRoutes (codec : CursorCodec) (db : Option GatewayDatabase) (query : ListRoutesQuery) :
    Except GatewayError (Page ProviderRoute) :=
  listPage db query.cursor query.limit fun db ↦
    match query.tenantId with
    | some tenantId => RouteRepo.listByTenant codec db.toRouteDatabase tenantId
    | none => RouteRepo.listGlobal codec db.toRouteDatabase

def answerRead (codec : CursorCodec) (db : Option GatewayDatabase) :
    ReadRequest → Except GatewayError AdminAnswer
  | .listTenants query => (listTenants codec db query).map .tenants
  | .getTenant id => (getRow db fun db ↦ TenantRepo.getById db.toDatabase id).map .tenant
  | .listServiceAccounts query => (listServiceAccounts codec db query).map .serviceAccounts
  | .getServiceAccount id tenantId =>
      (getRow db fun db ↦ ServiceAccountRepo.getById db.toDatabase tenantId id).map .serviceAccount
  | .listKeys sa query => (listKeys codec db sa query).map .keys
  | .listPolicies query => (listPolicies codec db query).map .policies
  | .getPolicy id tenantId =>
      (getRow db fun db ↦ PolicyRepo.getById db.toDatabase tenantId id).map .policy
  | .listRoutes query => (listRoutes codec db query).map .routes
  | .getRoute id => (getRow db fun db ↦ RouteRepo.getById db.toRouteDatabase id).map .route

end SmartGate
