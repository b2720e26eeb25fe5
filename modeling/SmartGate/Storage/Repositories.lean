import SmartGate.Lib.Data
import SmartGate.Storage.Database

/-!
# The repositories

The statements that the repositories send to PostgreSQL.  A statement either fails and
changes nothing, or answers a row and the database after it.  Identifiers and the time
`NOW()` are arguments.  A unique constraint is checked before the foreign keys, and the
constraints of one table in the order in which the migrations declare them.
-/

namespace SmartGate

/-! ## Answers of PostgreSQL -/

/-- SQLSTATE 23505, as `StorageError::from` reads it. -/
def uniqueViolation (table constraint : String) : StorageError :=
  .conflict table s!"duplicate key value violates unique constraint \"{constraint}\""

/-- SQLSTATE 23503 on an insert, as `StorageError::from` reads it. -/
def foreignKeyViolation (table constraint : String) : StorageError :=
  .referenceError
    s!"insert or update on table \"{table}\" violates foreign key constraint \"{constraint}\""

/-- `UPDATE … WHERE … RETURNING`, for a condition that at most one row meets: the row
after the update `f` and the store `after` it, or the error for a missing row. -/
def returning {ρ δ : Type} (rows : List ρ) (p : ρ → Bool) (f : ρ → ρ) (after : δ)
    (missing : StorageError) : Except StorageError (ρ × δ) :=
  match rows.find? p with
  | none => .error missing
  | some row => .ok (f row, after)

theorem returning_eq_ok {ρ δ : Type} {rows : List ρ} {p : ρ → Bool} {f : ρ → ρ} {after after' : δ}
    {missing : StorageError} {row : ρ} (h : returning rows p f after missing = .ok (row, after')) :
    (∃ row₀ ∈ rows, p row₀ = true ∧ f row₀ = row) ∧ after = after' := by
  unfold returning at h
  split at h
  · cases h
  · next row₀ hfind =>
    cases h
    exact ⟨⟨row₀, List.mem_of_find?_eq_some hfind, List.find?_some hfind, rfl⟩, rfl⟩

/-! ## Tenants -/

def CreateTenant.row (input : CreateTenant) (now : ℕ) : Tenant where
  id := input.id
  name := input.name
  slug := input.slug
  status := input.status
  metadata := input.metadata
  createdAt := now

/-- `SET name = COALESCE($1, name), metadata = COALESCE($2, metadata)` -/
def UpdateTenant.apply (input : UpdateTenant) (t : Tenant) : Tenant :=
  { t with name := input.name.getD t.name, metadata := input.metadata.getD t.metadata }

def Tenant.delete (t : Tenant) : Tenant := { t with status := .deleted }

def ServiceAccount.setStatus (status : ServiceAccountStatus) (a : ServiceAccount) :
    ServiceAccount :=
  { a with status }

theorem ServiceAccount.keepsAccount_setStatus (status : ServiceAccountStatus) :
    Database.KeepsAccount (ServiceAccount.setStatus status) :=
  ⟨fun _ ↦ rfl, fun _ ↦ rfl, fun _ ↦ rfl, fun _ ↦ rfl⟩

namespace TenantRepo

def create (db : Database) (input : CreateTenant) (now : ℕ) :
    Except StorageError (Tenant × Database) :=
  let row := input.row now
  if hid : db.tenants.get row.id = none then
    if hslug : ∀ t ∈ db.tenants.rows, t.slug ≠ row.slug then
      .ok (row, db.insertTenant row hid hslug)
    else .error (uniqueViolation "tenants" "tenants_slug_key")
  else .error (uniqueViolation "tenants" "tenants_pkey")

def update (db : Database) (id : TenantId) (input : UpdateTenant) :
    Except StorageError (Tenant × Database) :=
  returning db.tenants.rows (fun t ↦ decide (t.id = id)) input.apply
    (db.updateTenants (fun t ↦ decide (t.id = id)) input.apply (fun _ ↦ rfl) (fun _ ↦ rfl))
    (.notFound "tenant" "id" id.display)

theorem create_eq_ok {db db' : Database} {input : CreateTenant} {now : ℕ} {t : Tenant}
    (h : create db input now = .ok (t, db')) :
    t = input.row now ∧ ∃ hid hslug, db' = db.insertTenant (input.row now) hid hslug := by
  unfold create at h
  dsimp only at h
  split_ifs at h with hid hslug
  cases h
  exact ⟨rfl, hid, hslug, rfl⟩

/-- The first statement of `soft_delete`: the accounts of the tenant that are neither
suspended nor deleted are suspended. -/
def suspendAccounts (db : Database) (id : TenantId) : Database :=
  db.updateServiceAccounts
    (fun a ↦ decide (a.tenantId = id ∧ a.status ≠ .suspended ∧ a.status ≠ .deleted))
    (ServiceAccount.setStatus .suspended) (ServiceAccount.keepsAccount_setStatus .suspended)

/-- One transaction: without the tenant row the suspensions are rolled back. -/
def softDelete (db : Database) (id : TenantId) : Except StorageError (Tenant × Database) :=
  returning db.tenants.rows (fun t ↦ decide (t.id = id)) Tenant.delete
    ((suspendAccounts db id).updateTenants (fun t ↦ decide (t.id = id)) Tenant.delete
      (fun _ ↦ rfl) (fun _ ↦ rfl))
    (.notFound "tenant" "id" id.display)

end TenantRepo

/-! ## Service accounts -/

def CreateServiceAccount.row (input : CreateServiceAccount) (now : ℕ) : ServiceAccount where
  id := input.id
  tenantId := input.tenantId
  name := input.name
  slug := input.slug
  environment := input.environment
  description := input.description
  status := input.status
  defaultPolicyId := input.defaultPolicyId
  createdAt := now

/-- `SET name = COALESCE($1, name), description = COALESCE($2, description)`: the other
fields of the input are not read. -/
def UpdateServiceAccount.apply (input : UpdateServiceAccount) (a : ServiceAccount) :
    ServiceAccount :=
  { a with name := input.name.getD a.name, description := input.description.or a.description }

theorem UpdateServiceAccount.keepsAccount_apply (input : UpdateServiceAccount) :
    Database.KeepsAccount input.apply :=
  ⟨fun _ ↦ rfl, fun _ ↦ rfl, fun _ ↦ rfl, fun _ ↦ rfl⟩

namespace ServiceAccountRepo

def create (db : Database) (input : CreateServiceAccount) (now : ℕ) :
    Except StorageError (ServiceAccount × Database) :=
  let row := input.row now
  if hid : db.serviceAccounts.get row.id = none then
    if hslug : ∀ a ∈ db.serviceAccounts.rows, (a.tenantId, a.slug) ≠ (row.tenantId, row.slug) then
      if htenant : db.HasTenant row.tenantId then
        if hdefault : ∀ id ∈ row.defaultPolicyId, db.HasPolicy id then
          .ok (row, db.insertServiceAccount row hid hslug htenant hdefault)
        else .error (foreignKeyViolation "service_accounts" "fk_service_accounts_default_policy")
      else .error (foreignKeyViolation "service_accounts" "service_accounts_tenant_id_fkey")
    else .error (uniqueViolation "service_accounts" "service_accounts_tenant_id_slug_key")
  else .error (uniqueViolation "service_accounts" "service_accounts_pkey")

theorem create_eq_ok {db db' : Database} {input : CreateServiceAccount} {now : ℕ}
    {a : ServiceAccount} (h : create db input now = .ok (a, db')) :
    a = input.row now ∧ ∃ hid hslug htenant hdefault,
      db' = db.insertServiceAccount (input.row now) hid hslug htenant hdefault := by
  unfold create at h
  dsimp only at h
  split_ifs at h with hid hslug htenant hdefault
  cases h
  exact ⟨rfl, hid, hslug, htenant, hdefault, rfl⟩

/-- The three updates of one account within its tenant. -/
def updateScoped (db : Database) (tenantId : TenantId) (id : ServiceAccountId)
    (f : ServiceAccount → ServiceAccount) (hf : Database.KeepsAccount f) :
    Except StorageError (ServiceAccount × Database) :=
  returning db.serviceAccounts.rows (fun a ↦ decide (a.id = id ∧ a.tenantId = tenantId)) f
    (db.updateServiceAccounts (fun a ↦ decide (a.id = id ∧ a.tenantId = tenantId)) f hf)
    (.notFound "service_account" "id" id.display)

def update (db : Database) (tenantId : TenantId) (id : ServiceAccountId)
    (input : UpdateServiceAccount) : Except StorageError (ServiceAccount × Database) :=
  updateScoped db tenantId id input.apply input.keepsAccount_apply

def suspend (db : Database) (tenantId : TenantId) (id : ServiceAccountId) :
    Except StorageError (ServiceAccount × Database) :=
  updateScoped db tenantId id _ (ServiceAccount.keepsAccount_setStatus .suspended)

def activate (db : Database) (tenantId : TenantId) (id : ServiceAccountId) :
    Except StorageError (ServiceAccount × Database) :=
  updateScoped db tenantId id _ (ServiceAccount.keepsAccount_setStatus .active)

end ServiceAccountRepo

/-! ## Keys -/

def ServiceAccountKey.revoke (now : ℕ) (key : ServiceAccountKey) : ServiceAccountKey :=
  { key with status := .revoked, revokedAt := some now }

@[simp] theorem ServiceAccountKey.revoke_keyId (now : ℕ) (key : ServiceAccountKey) :
    (key.revoke now).keyId = key.keyId := rfl

theorem ServiceAccountKey.keepsKey_revoke (now : ℕ) :
    Database.KeepsKey (ServiceAccountKey.revoke now) :=
  ⟨fun _ ↦ rfl, fun _ ↦ rfl, fun _ ↦ rfl⟩

/-- `KeyRepo::revoke` on the table of keys. -/
def revoke (db : KeyTable) (id : KeyId) (now : ℕ) :
    Except StorageError (ServiceAccountKey × KeyTable) :=
  returning db.rows (fun k ↦ decide (k.id = id)) (ServiceAccountKey.revoke now)
    (db.updateWhere (fun k ↦ decide (k.id = id)) (ServiceAccountKey.revoke now)
      (ServiceAccountKey.revoke_keyId now))
    (.notFound "key" "id" id.display)

/-- `KeyRepo::revoke_scoped` on the table of keys. -/
def revokeScoped (db : KeyTable) (id : KeyId) (serviceAccountId : ServiceAccountId) (now : ℕ) :
    Except StorageError (ServiceAccountKey × KeyTable) :=
  returning db.rows (fun k ↦ decide (k.id = id ∧ k.serviceAccountId = serviceAccountId))
    (ServiceAccountKey.revoke now)
    (db.updateWhere (fun k ↦ decide (k.id = id ∧ k.serviceAccountId = serviceAccountId))
      (ServiceAccountKey.revoke now) (ServiceAccountKey.revoke_keyId now))
    (.notFound "key" "id" id.display)

def ServiceAccountKey.touch (now : ℕ) (key : ServiceAccountKey) : ServiceAccountKey :=
  { key with lastUsedAt := some now }

@[simp] theorem ServiceAccountKey.touch_keyId (now : ℕ) (key : ServiceAccountKey) :
    (key.touch now).keyId = key.keyId := rfl

theorem ServiceAccountKey.keepsKey_touch (now : ℕ) :
    Database.KeepsKey (ServiceAccountKey.touch now) :=
  ⟨fun _ ↦ rfl, fun _ ↦ rfl, fun _ ↦ rfl⟩

def updateLastUsed (db : KeyTable) (id : KeyId) (now : ℕ) : KeyTable :=
  db.updateWhere (fun r ↦ decide (r.id = id)) (ServiceAccountKey.touch now)
    (ServiceAccountKey.touch_keyId now)

def RegisterKey.row (input : RegisterKey) (id : KeyId) (now : ℕ) : ServiceAccountKey where
  id := id
  serviceAccountId := input.serviceAccountId
  keyId := input.keyId
  algorithm := input.algorithm
  publicKeyPem := input.publicKeyPem
  fingerprint := input.fingerprint
  status := .active
  expiresAt := input.expiresAt
  createdAt := now
  revokedAt := none
  lastUsedAt := none

namespace KeyRepo

def registerKey (db : Database) (input : RegisterKey) (id : KeyId) (now : ℕ) :
    Except StorageError (ServiceAccountKey × Database) :=
  let row := input.row id now
  if hprimary : ∀ k ∈ db.keys.rows, k.id ≠ row.id then
    if hkeyId : db.keys.get row.keyId = none then
      if haccount : db.HasServiceAccount row.serviceAccountId then
        .ok (row, db.insertKey row hprimary hkeyId haccount)
      else .error
        (foreignKeyViolation "service_account_keys" "service_account_keys_service_account_id_fkey")
    else .error (uniqueViolation "service_account_keys" "service_account_keys_key_id_key")
  else .error (uniqueViolation "service_account_keys" "service_account_keys_pkey")

theorem registerKey_eq_ok {db db' : Database} {input : RegisterKey} {id : KeyId} {now : ℕ}
    {key : ServiceAccountKey} (h : registerKey db input id now = .ok (key, db')) :
    key = input.row id now ∧ ∃ hprimary hkeyId haccount,
      db' = db.insertKey (input.row id now) hprimary hkeyId haccount := by
  unfold registerKey at h
  dsimp only at h
  split_ifs at h with hprimary hkeyId haccount
  cases h
  exact ⟨rfl, hprimary, hkeyId, haccount, rfl⟩

def revokeScoped (db : Database) (id : KeyId) (serviceAccountId : ServiceAccountId) (now : ℕ) :
    Except StorageError (ServiceAccountKey × Database) :=
  match h : SmartGate.revokeScoped db.keys id serviceAccountId now with
  | .error e => .error e
  | .ok (key, keys) => .ok (key, { db with
      keys
      keyPrimary := (returning_eq_ok h).2 ▸ db.keyPrimary.updateWhere fun _ ↦ rfl
      keyAccount := (returning_eq_ok h).2 ▸ db.keyAccount.updateWhere fun _ _ hk ↦ hk })

theorem revokeScoped_eq_ok {db db' : Database} {id : KeyId} {sa : ServiceAccountId} {now : ℕ}
    {key : ServiceAccountKey} (h : revokeScoped db id sa now = .ok (key, db')) :
    ∃ p, db' = db.updateKeys p (ServiceAccountKey.revoke now)
      (ServiceAccountKey.keepsKey_revoke now) := by
  unfold revokeScoped at h
  split at h
  · cases h
  · next keys hkeys =>
    obtain ⟨_, rfl⟩ := returning_eq_ok hkeys
    cases h
    exact ⟨_, rfl⟩

/-- `update_last_used`, which the auth middleware sends without waiting for it. -/
def updateLastUsed (db : Database) (id : KeyId) (now : ℕ) : Database :=
  db.updateKeys (fun k ↦ decide (k.id = id)) (ServiceAccountKey.touch now)
    (ServiceAccountKey.keepsKey_touch now)

end KeyRepo

end SmartGate
