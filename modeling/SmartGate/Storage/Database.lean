import SmartGate.Lib.Table
import SmartGate.Models

/-!
# The database

The tables behind accounts, keys and policies, together with the constraints that the
migrations declare on them.  The constraints are fields, so that a statement can only
be modelled in a way that keeps them: an insert needs its keys to be free and its
references to exist, and the deletion of a policy has to carry out the actions
`ON DELETE CASCADE` of the bindings and `ON DELETE SET NULL` of the default policies.
-/

namespace SmartGate

open Table

/-- `service_account_keys`, by its unique column `key_id`. -/
abbrev KeyTable := Table ServiceAccountKey.keyId

structure Database where
  tenants : Table Tenant.id
  serviceAccounts : Table ServiceAccount.id
  keys : KeyTable
  policies : Table Policy.id
  bindings : Table ServiceAccountPolicyBinding.id
  tenantSlug : tenants.Distinct Tenant.slug
  accountSlug : serviceAccounts.Distinct fun a ↦ (a.tenantId, a.slug)
  accountTenant : serviceAccounts.References (fun a ↦ some a.tenantId) tenants
  accountDefaultPolicy : serviceAccounts.References ServiceAccount.defaultPolicyId policies
  keyPrimary : keys.Distinct ServiceAccountKey.id
  keyAccount : keys.References (fun k ↦ some k.serviceAccountId) serviceAccounts
  policyTenant : policies.References (fun p ↦ some p.tenantId) tenants
  bindingPair : bindings.Distinct fun b ↦ (b.serviceAccountId, b.policyId)
  bindingAccount : bindings.References (fun b ↦ some b.serviceAccountId) serviceAccounts
  bindingPolicy : bindings.References (fun b ↦ some b.policyId) policies

namespace Database

def empty : Database where
  tenants := Table.empty
  serviceAccounts := Table.empty
  keys := Table.empty
  policies := Table.empty
  bindings := Table.empty
  tenantSlug := List.nodup_nil
  accountSlug := List.nodup_nil
  accountTenant := fun _ h ↦ absurd h List.not_mem_nil
  accountDefaultPolicy := fun _ h ↦ absurd h List.not_mem_nil
  keyPrimary := List.nodup_nil
  keyAccount := fun _ h ↦ absurd h List.not_mem_nil
  policyTenant := fun _ h ↦ absurd h List.not_mem_nil
  bindingPair := List.nodup_nil
  bindingAccount := fun _ h ↦ absurd h List.not_mem_nil
  bindingPolicy := fun _ h ↦ absurd h List.not_mem_nil

/-! ## Existence of the referenced rows -/

def HasTenant (db : Database) (id : TenantId) : Prop := ∃ t ∈ db.tenants.rows, t.id = id

def HasServiceAccount (db : Database) (id : ServiceAccountId) : Prop :=
  ∃ a ∈ db.serviceAccounts.rows, a.id = id

def HasPolicy (db : Database) (id : PolicyId) : Prop := ∃ p ∈ db.policies.rows, p.id = id

instance (db : Database) (id : TenantId) : Decidable (db.HasTenant id) :=
  inferInstanceAs (Decidable (∃ t ∈ db.tenants.rows, t.id = id))

instance (db : Database) (id : ServiceAccountId) : Decidable (db.HasServiceAccount id) :=
  inferInstanceAs (Decidable (∃ a ∈ db.serviceAccounts.rows, a.id = id))

instance (db : Database) (id : PolicyId) : Decidable (db.HasPolicy id) :=
  inferInstanceAs (Decidable (∃ p ∈ db.policies.rows, p.id = id))

/-! ## Inserts -/

def insertTenant (db : Database) (row : Tenant) (hid : db.tenants.get row.id = none)
    (hslug : ∀ t ∈ db.tenants.rows, t.slug ≠ row.slug) : Database :=
  { db with
    tenants := db.tenants.insert row hid
    tenantSlug := db.tenantSlug.insert hslug
    accountTenant := db.accountTenant.insert_parent
    policyTenant := db.policyTenant.insert_parent }

def insertServiceAccount (db : Database) (row : ServiceAccount)
    (hid : db.serviceAccounts.get row.id = none)
    (hslug : ∀ a ∈ db.serviceAccounts.rows, (a.tenantId, a.slug) ≠ (row.tenantId, row.slug))
    (htenant : db.HasTenant row.tenantId)
    (hdefault : ∀ id ∈ row.defaultPolicyId, db.HasPolicy id) : Database :=
  { db with
    serviceAccounts := db.serviceAccounts.insert row hid
    accountSlug := db.accountSlug.insert hslug
    accountTenant := db.accountTenant.insert fun _ hk ↦ Option.some.inj hk ▸ htenant
    accountDefaultPolicy := db.accountDefaultPolicy.insert hdefault
    keyAccount := db.keyAccount.insert_parent
    bindingAccount := db.bindingAccount.insert_parent }

def insertKey (db : Database) (row : ServiceAccountKey)
    (hprimary : ∀ k ∈ db.keys.rows, k.id ≠ row.id) (hkeyId : db.keys.get row.keyId = none)
    (haccount : db.HasServiceAccount row.serviceAccountId) : Database :=
  { db with
    keys := db.keys.insert row hkeyId
    keyPrimary := db.keyPrimary.insert hprimary
    keyAccount := db.keyAccount.insert fun _ hk ↦ Option.some.inj hk ▸ haccount }

def insertPolicy (db : Database) (row : Policy) (hid : db.policies.get row.id = none)
    (htenant : db.HasTenant row.tenantId) : Database :=
  { db with
    policies := db.policies.insert row hid
    policyTenant := db.policyTenant.insert fun _ hk ↦ Option.some.inj hk ▸ htenant
    accountDefaultPolicy := db.accountDefaultPolicy.insert_parent
    bindingPolicy := db.bindingPolicy.insert_parent }

def insertBinding (db : Database) (row : ServiceAccountPolicyBinding)
    (hid : db.bindings.get row.id = none)
    (hpair : ∀ b ∈ db.bindings.rows,
      (b.serviceAccountId, b.policyId) ≠ (row.serviceAccountId, row.policyId))
    (haccount : db.HasServiceAccount row.serviceAccountId)
    (hpolicy : db.HasPolicy row.policyId) : Database :=
  { db with
    bindings := db.bindings.insert row hid
    bindingPair := db.bindingPair.insert hpair
    bindingAccount := db.bindingAccount.insert fun _ hk ↦ Option.some.inj hk ▸ haccount
    bindingPolicy := db.bindingPolicy.insert fun _ hk ↦ Option.some.inj hk ▸ hpolicy }

/-! ## Updates -/

def updateTenants (db : Database) (p : Tenant → Bool) (f : Tenant → Tenant)
    (hid : ∀ t, (f t).id = t.id) (hslug : ∀ t, (f t).slug = t.slug) : Database :=
  { db with
    tenants := db.tenants.updateWhere p f hid
    tenantSlug := db.tenantSlug.updateWhere hslug
    accountTenant := db.accountTenant.updateWhere_parent
    policyTenant := db.policyTenant.updateWhere_parent }

/-- An update of service accounts that leaves the constrained columns alone. -/
structure KeepsAccount (f : ServiceAccount → ServiceAccount) : Prop where
  id : ∀ a, (f a).id = a.id
  tenantId : ∀ a, (f a).tenantId = a.tenantId
  slug : ∀ a, (f a).slug = a.slug
  defaultPolicyId : ∀ a, (f a).defaultPolicyId = a.defaultPolicyId

def updateServiceAccounts (db : Database) (p : ServiceAccount → Bool)
    (f : ServiceAccount → ServiceAccount) (hf : KeepsAccount f) : Database :=
  { db with
    serviceAccounts := db.serviceAccounts.updateWhere p f hf.id
    accountSlug := db.accountSlug.updateWhere fun a ↦ by rw [hf.tenantId, hf.slug]
    accountTenant := db.accountTenant.updateWhere fun a _ h ↦ by rwa [hf.tenantId] at h
    accountDefaultPolicy :=
      db.accountDefaultPolicy.updateWhere fun a _ h ↦ by rwa [hf.defaultPolicyId] at h
    keyAccount := db.keyAccount.updateWhere_parent
    bindingAccount := db.bindingAccount.updateWhere_parent }

/-- An update of keys that leaves the constrained columns alone. -/
structure KeepsKey (f : ServiceAccountKey → ServiceAccountKey) : Prop where
  id : ∀ k, (f k).id = k.id
  keyId : ∀ k, (f k).keyId = k.keyId
  serviceAccountId : ∀ k, (f k).serviceAccountId = k.serviceAccountId

def updateKeys (db : Database) (p : ServiceAccountKey → Bool)
    (f : ServiceAccountKey → ServiceAccountKey) (hf : KeepsKey f) : Database :=
  { db with
    keys := db.keys.updateWhere p f hf.keyId
    keyPrimary := db.keyPrimary.updateWhere hf.id
    keyAccount := db.keyAccount.updateWhere fun k _ h ↦ by rwa [hf.serviceAccountId] at h }

def updatePolicies (db : Database) (p : Policy → Bool) (f : Policy → Policy)
    (hid : ∀ r, (f r).id = r.id) (htenant : ∀ r, (f r).tenantId = r.tenantId) : Database :=
  { db with
    policies := db.policies.updateWhere p f hid
    policyTenant := db.policyTenant.updateWhere fun r _ h ↦ by rwa [htenant] at h
    accountDefaultPolicy := db.accountDefaultPolicy.updateWhere_parent
    bindingPolicy := db.bindingPolicy.updateWhere_parent }

/-! ## Deletions -/

def clearDefaultPolicy (a : ServiceAccount) : ServiceAccount := { a with defaultPolicyId := none }

theorem clearDefaultPolicy_id (a : ServiceAccount) : (clearDefaultPolicy a).id = a.id := rfl

/-- The deletion of a policy with the actions of the two foreign keys that refer to it:
bindings are deleted along with it, default policies are cleared. -/
def deletePolicy (db : Database) (id : PolicyId) : Database :=
  { db with
    policies := db.policies.deleteWhere fun p ↦ decide (p.id = id)
    bindings := db.bindings.cascade (fun b ↦ some b.policyId) id
    serviceAccounts := db.serviceAccounts.setNull ServiceAccount.defaultPolicyId id
      clearDefaultPolicy clearDefaultPolicy_id
    accountSlug := db.accountSlug.updateWhere fun _ ↦ rfl
    accountTenant := db.accountTenant.updateWhere fun _ _ h ↦ h
    accountDefaultPolicy := db.accountDefaultPolicy.setNull fun _ ↦ rfl
    keyAccount := db.keyAccount.updateWhere_parent
    policyTenant := db.policyTenant.deleteWhere _
    bindingPair := db.bindingPair.deleteWhere _
    bindingAccount := (db.bindingAccount.deleteWhere _).updateWhere_parent
    bindingPolicy := db.bindingPolicy.cascade }

def deleteBindings (db : Database) (p : ServiceAccountPolicyBinding → Bool) : Database :=
  { db with
    bindings := db.bindings.deleteWhere p
    bindingPair := db.bindingPair.deleteWhere p
    bindingAccount := db.bindingAccount.deleteWhere p
    bindingPolicy := db.bindingPolicy.deleteWhere p }

end Database

end SmartGate
