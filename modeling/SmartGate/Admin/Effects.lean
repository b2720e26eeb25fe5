import SmartGate.Admin.CacheCoherence

/-!
# What an accepted admin request does to the database

An accepted request has carried out one statement.  `Committed` lists the statements
together with what the checks of the handlers guarantee about them.  From it follow,
table by table, the facts that invariants of the database rest on: where a row after
the request comes from, and what a row before the request has become.
-/

namespace SmartGate

open Transition

/-! ## Statements of accepted requests -/

inductive Committed (P : Primitives) (now : ℕ) (db : Database) : AdminRequest → Database → Prop
  | createTenant {body : CreateTenantRequest} {id : TenantId} {input : CreateTenant}
      (hid : db.tenants.get (input.row now).id = none)
      (hslug : ∀ t ∈ db.tenants.rows, t.slug ≠ (input.row now).slug) :
      Committed P now db (.createTenant body id) (db.insertTenant (input.row now) hid hslug)
  | updateTenant {id : TenantId} {body : UpdateTenantRequest} (input : UpdateTenant) :
      Committed P now db (.updateTenant id body)
        (db.updateTenants (fun t ↦ decide (t.id = id)) input.apply (fun _ ↦ rfl) (fun _ ↦ rfl))
  | deleteTenant {id : TenantId} (htenant : db.HasTenant id) :
      Committed P now db (.deleteTenant id)
        ((TenantRepo.suspendAccounts db id).updateTenants (fun t ↦ decide (t.id = id))
          Tenant.delete (fun _ ↦ rfl) (fun _ ↦ rfl))
  | createServiceAccount {body : CreateServiceAccountRequest} {id : ServiceAccountId}
      {input : CreateServiceAccount} (hnone : input.defaultPolicyId = none)
      (hid : db.serviceAccounts.get (input.row now).id = none)
      (hslug : ∀ a ∈ db.serviceAccounts.rows,
        (a.tenantId, a.slug) ≠ ((input.row now).tenantId, (input.row now).slug))
      (htenant : db.HasTenant (input.row now).tenantId)
      (hdefault : ∀ id ∈ (input.row now).defaultPolicyId, db.HasPolicy id)
      (htenantId : input.tenantId = body.tenantId) (hstatus : input.status = .active) :
      Committed P now db (.createServiceAccount body id)
        (db.insertServiceAccount (input.row now) hid hslug htenant hdefault)
  | updateServiceAccount {id : ServiceAccountId} {tenantId : TenantId}
      {body : UpdateServiceAccountRequest} (p : ServiceAccount → Bool)
      {f : ServiceAccount → ServiceAccount} (hf : Database.KeepsAccount f)
      (hstatus : ∀ a, (f a).status = a.status) :
      Committed P now db (.updateServiceAccount id tenantId body)
        (db.updateServiceAccounts p f hf)
  | suspendServiceAccount {id : ServiceAccountId} {tenantId : TenantId}
      (p : ServiceAccount → Bool) {f : ServiceAccount → ServiceAccount}
      (hf : Database.KeepsAccount f) (hstatus : ∀ a, (f a).status = .suspended) :
      Committed P now db (.suspendServiceAccount id tenantId) (db.updateServiceAccounts p f hf)
  | activateServiceAccount {id : ServiceAccountId} {tenantId : TenantId}
      (p : ServiceAccount → Bool) {f : ServiceAccount → ServiceAccount}
      (hf : Database.KeepsAccount f) (hstatus : ∀ a, (f a).status = .active)
      (hselected : ∀ a, p a = true → a.tenantId = tenantId)
      (hfound : ∃ a ∈ db.serviceAccounts.rows, p a = true) :
      Committed P now db (.activateServiceAccount id tenantId) (db.updateServiceAccounts p f hf)
  | registerKey {sa : ServiceAccountId} {body : RegisterKeyRequest} {id : KeyId}
      {input : RegisterKey} {publicKey : P.VerifyingKey} (haccountId : input.serviceAccountId = sa)
      (hpem : input.publicKeyPem = body.publicKeyPem)
      (hparsed : parsePublicKey P body.publicKeyPem = .ok publicKey)
      (hprimary : ∀ k ∈ db.keys.rows, k.id ≠ (input.row id now).id)
      (hkeyId : db.keys.get (input.row id now).keyId = none)
      (haccount : db.HasServiceAccount (input.row id now).serviceAccountId) :
      Committed P now db (.registerKey sa body id)
        (db.insertKey (input.row id now) hprimary hkeyId haccount)
  | revokeKey {sa : ServiceAccountId} {id : KeyId} (p : ServiceAccountKey → Bool) :
      Committed P now db (.revokeKey sa id)
        (db.updateKeys p (ServiceAccountKey.revoke now) (ServiceAccountKey.keepsKey_revoke now))
  | createPolicy {body : CreatePolicyRequest} {id : PolicyId} {row : Policy}
      (hmergeable : row.Mergeable) (hid : db.policies.get row.id = none)
      (htenant : db.HasTenant row.tenantId) :
      Committed P now db (.createPolicy body id) (db.insertPolicy row hid htenant)
  | updatePolicy {id : PolicyId} {tenantId : TenantId} {body : UpdatePolicyRequest}
      (hmergeable : ∀ p : Policy, p.Mergeable → (body.apply p).Mergeable) :
      Committed P now db (.updatePolicy id tenantId body)
        (db.updatePolicies (fun p ↦ decide (p.id = id ∧ p.tenantId = tenantId)) body.apply
          (fun _ ↦ rfl) (fun _ ↦ rfl))
  | deletePolicy {id : PolicyId} {tenantId : TenantId}
      (hfound : ∃ p ∈ db.policies.rows, p.id = id ∧ p.tenantId = tenantId) :
      Committed P now db (.deletePolicy id tenantId) (db.deletePolicy id)
  | createBinding {sa : ServiceAccountId} {policyId : PolicyId} {id : Uuid}
      (hid : db.bindings.get id = none)
      (hpair : ∀ b ∈ db.bindings.rows, (b.serviceAccountId, b.policyId) ≠ (sa, policyId))
      (haccount : db.HasServiceAccount sa) (hpolicy : db.HasPolicy policyId) :
      Committed P now db (.createBinding sa policyId id)
        (db.insertBinding ⟨id, sa, policyId, now⟩ hid hpair haccount hpolicy)
  | deleteBinding {sa : ServiceAccountId} {policyId : PolicyId}
      (p : ServiceAccountPolicyBinding → Bool) :
      Committed P now db (.deleteBinding sa policyId) (db.deleteBindings p)

/-- The tail of a handler: what a successful statement does, the handler has done. -/
theorem exists_of_execute {α : Type} {s s' : AppState}
    {statement : Database → Except StorageError (α × Database)}
    {mapError : StorageError → GatewayError} {invalidate : PolicyCache → PolicyCache} {answer : α}
    {effect : Database → Database → Prop}
    (h : s.execute statement mapError invalidate = .ok (answer, s'))
    (heffect : ∀ db db', statement db = .ok (answer, db') → effect db db') :
    ∃ db db', s.db = some db ∧ s'.db = some db' ∧ effect db db' := by
  obtain ⟨db, db', hdb, hstatement, rfl⟩ := AppState.execute_eq_ok h
  exact ⟨db, db', hdb, rfl, heffect db db' hstatement⟩

theorem committed_of_handle {P : Primitives} {ctx : AdminContext} {now : ℕ} {s s' : AppState}
    {request : AdminRequest} (h : handle P ctx now s request = .ok s') :
    ∃ db db', s.db = some db ∧ s'.db = some db' ∧ Committed P now db request db' := by
  cases request with
  | createTenant body id =>
      obtain ⟨_, h⟩ := answered_of_map h
      refine exists_of_execute (createTenant_executed h) fun db db' hok ↦ ?_
      obtain ⟨_, hid, hslug, rfl⟩ := TenantRepo.create_eq_ok hok
      exact .createTenant hid hslug
  | updateTenant id body =>
      obtain ⟨_, h⟩ := answered_of_map h
      refine exists_of_execute (updateTenant_executed h) fun db db' hok ↦ ?_
      obtain ⟨_, rfl⟩ := returning_eq_ok hok
      exact .updateTenant _
  | deleteTenant id =>
      obtain ⟨_, h⟩ := answered_of_map h
      refine exists_of_execute (of_requireAdminRole h) fun db db' hok ↦ ?_
      obtain ⟨⟨t₀, ht₀, hid, _⟩, rfl⟩ := returning_eq_ok hok
      exact .deleteTenant ⟨t₀, ht₀, of_decide_eq_true hid⟩
  | createServiceAccount body id =>
      obtain ⟨_, h⟩ := answered_of_map h
      obtain ⟨_, _, h⟩ := createServiceAccount_executed h
      refine exists_of_execute h fun db db' hok ↦ ?_
      obtain ⟨_, hid, hslug, htenant, hdefault, rfl⟩ := ServiceAccountRepo.create_eq_ok hok
      exact .createServiceAccount rfl hid hslug htenant hdefault rfl rfl
  | updateServiceAccount id tenantId body =>
      obtain ⟨_, h⟩ := answered_of_map h
      refine exists_of_execute (updateServiceAccount_executed h) fun db db' hok ↦ ?_
      obtain ⟨_, rfl⟩ := returning_eq_ok hok
      exact .updateServiceAccount _ _ fun _ ↦ rfl
  | suspendServiceAccount id tenantId =>
      obtain ⟨_, h⟩ := answered_of_map h
      refine exists_of_execute (of_requireAdminRole h) fun db db' hok ↦ ?_
      obtain ⟨_, rfl⟩ := returning_eq_ok hok
      exact .suspendServiceAccount _ _ fun _ ↦ rfl
  | activateServiceAccount id tenantId =>
      obtain ⟨_, h⟩ := answered_of_map h
      refine exists_of_execute (of_requireAdminRole h) fun db db' hok ↦ ?_
      obtain ⟨⟨a, ha, hselected, _⟩, rfl⟩ := returning_eq_ok hok
      exact .activateServiceAccount _ _ (fun _ ↦ rfl) (fun _ hb ↦ (of_decide_eq_true hb).2)
        ⟨a, ha, hselected⟩
  | registerKey sa body id =>
      obtain ⟨_, h⟩ := answered_of_map h
      obtain ⟨publicKey, hparsed, h⟩ := registerKey_executed h
      refine exists_of_execute h fun db db' hok ↦ ?_
      obtain ⟨_, hprimary, hkeyId, haccount, rfl⟩ := KeyRepo.registerKey_eq_ok hok
      exact .registerKey rfl rfl hparsed hprimary hkeyId haccount
  | revokeKey sa id =>
      obtain ⟨_, h⟩ := answered_of_map h
      refine exists_of_execute (of_requireAdminRole h) fun db db' hok ↦ ?_
      obtain ⟨p, rfl⟩ := KeyRepo.revokeScoped_eq_ok hok
      exact .revokeKey p
  | createPolicy body id =>
      obtain ⟨_, h⟩ := answered_of_map h
      obtain ⟨hfields, h⟩ := createPolicy_executed h
      refine exists_of_execute h fun db db' hok ↦ ?_
      obtain ⟨_, hid, htenant, rfl⟩ := PolicyRepo.create_eq_ok hok
      exact .createPolicy (body.mergeable_row (.of_validate hfields) id now) hid htenant
  | updatePolicy id tenantId body =>
      obtain ⟨_, h⟩ := answered_of_map h
      obtain ⟨hfields, h⟩ := updatePolicy_executed h
      refine exists_of_execute h fun db db' hok ↦ ?_
      obtain ⟨_, rfl⟩ := returning_eq_ok hok
      exact .updatePolicy fun _ hp ↦ UpdatePolicy.mergeable_apply (.of_validate hfields) hp
  | deletePolicy id tenantId =>
      obtain ⟨_, h⟩ := answered_of_map h
      refine exists_of_execute (of_requireAdminRole h) fun db db' hok ↦ ?_
      obtain ⟨_, hdelete, hpair⟩ := map_eq_ok.mp hok
      cases hpair
      obtain ⟨hfound, rfl⟩ := PolicyRepo.delete_eq_ok hdelete
      exact .deletePolicy hfound
  | createBinding sa policyId id =>
      obtain ⟨_, h⟩ := answered_of_map h
      refine exists_of_execute (of_requireAdminRole h) fun db db' hok ↦ ?_
      obtain ⟨hid, hpair, haccount, hpolicy, rfl⟩ := PolicyRepo.createBinding_eq_ok hok
      exact .createBinding hid hpair haccount hpolicy
  | deleteBinding sa policyId =>
      obtain ⟨_, h⟩ := answered_of_map h
      refine exists_of_execute (of_requireAdminRole h) fun db db' hok ↦ ?_
      obtain ⟨_, hdelete, hpair⟩ := map_eq_ok.mp hok
      cases hpair
      obtain rfl := PolicyRepo.deleteBinding_eq_ok hdelete
      exact .deleteBinding _

/-! ## Tenants and accounts stay what they are -/

def Database.TenantDeleted (db : Database) (id : TenantId) : Prop :=
  ∃ t ∈ db.tenants.rows, t.id = id ∧ t.status = .deleted

/-- The account exists and belongs to the tenant. -/
def Database.AccountOf (db : Database) (sa : ServiceAccountId) (tenantId : TenantId) : Prop :=
  ∃ a ∈ db.serviceAccounts.rows, a.id = sa ∧ a.tenantId = tenantId

section Frame

variable {P : Primitives} {now : ℕ} {db db' : Database} {request : AdminRequest}

/-- No request moves a tenant out of the status `deleted`. -/
theorem Committed.tenantDeleted {id : TenantId} (h : Committed P now db request db')
    (hdeleted : db.TenantDeleted id) : db'.TenantDeleted id := by
  cases h with
  | createTenant hid hslug =>
      obtain ⟨t, ht, hstatus⟩ := hdeleted
      exact ⟨t, List.mem_cons_of_mem _ ht, hstatus⟩
  | updateTenant input => exact Table.exists_map_ite (fun _ ht ↦ ht) hdeleted
  | deleteTenant htenant =>
      exact Table.exists_map_ite (fun _ ht ↦ ⟨ht.1, rfl⟩) hdeleted
  | createServiceAccount | updateServiceAccount | suspendServiceAccount | activateServiceAccount
  | registerKey | revokeKey | createPolicy | updatePolicy | deletePolicy | createBinding
  | deleteBinding => exact hdeleted

/-- No request deletes an account or moves it to another tenant. -/
theorem Committed.accountOf {sa : ServiceAccountId} {tenantId : TenantId}
    (h : Committed P now db request db') (haccount : db.AccountOf sa tenantId) :
    db'.AccountOf sa tenantId := by
  cases h with
  | deleteTenant htenant =>
      exact Table.exists_map_ite (fun _ ha ↦ ha) haccount
  | createServiceAccount hnone hid hslug htenant hdefault =>
      obtain ⟨a, ha, hof⟩ := haccount
      exact ⟨a, List.mem_cons_of_mem _ ha, hof⟩
  | updateServiceAccount p hf | suspendServiceAccount p hf | activateServiceAccount p hf =>
      refine Table.exists_map_ite (fun a ha ↦ ?_) haccount
      rw [hf.id, hf.tenantId]
      exact ha
  | deletePolicy hfound => exact Table.exists_map_ite (fun _ ha ↦ ha) haccount
  | createTenant | updateTenant | registerKey | revokeKey | createPolicy
  | updatePolicy | createBinding | deleteBinding => exact haccount

/-- The account `a'` is the account `a` after some requests: its tenant is the same,
and a default policy can only have been lost. -/
structure ServiceAccount.SameAccount (a a' : ServiceAccount) : Prop where
  id : a'.id = a.id
  tenantId : a'.tenantId = a.tenantId
  defaultPolicyId : ∀ id ∈ a'.defaultPolicyId, id ∈ a.defaultPolicyId

theorem ServiceAccount.SameAccount.refl (a : ServiceAccount) : a.SameAccount a :=
  ⟨rfl, rfl, fun _ hid ↦ hid⟩

/-- An account after a request was there before, or it is new and has no default policy. -/
theorem Committed.account_origin (h : Committed P now db request db') {a' : ServiceAccount}
    (ha' : a' ∈ db'.serviceAccounts.rows) :
    (∃ a ∈ db.serviceAccounts.rows, a.SameAccount a') ∨
      (¬db.HasServiceAccount a'.id ∧ a'.defaultPolicyId = none) := by
  cases h with
  | deleteTenant htenant =>
      exact Or.inl (Table.origin_map_ite .refl (fun _ ↦ ⟨rfl, rfl, fun _ hid ↦ hid⟩) ha')
  | createServiceAccount hnone hid hslug htenant hdefault =>
      rcases List.mem_cons.mp ha' with rfl | ha'
      · refine Or.inr ⟨?_, hnone⟩
        rintro ⟨a, ha, hida⟩
        exact Table.get_eq_none.mp hid a ha hida
      · exact Or.inl ⟨a', ha', .refl a'⟩
  | updateServiceAccount p hf | suspendServiceAccount p hf | activateServiceAccount p hf =>
      refine Or.inl (Table.origin_map_ite .refl (fun a ↦ ?_) ha')
      refine ⟨hf.id a, hf.tenantId a, fun id hid ↦ ?_⟩
      rwa [hf.defaultPolicyId] at hid
  | deletePolicy hfound =>
      refine Or.inl (Table.origin_map_ite .refl (fun a ↦ ⟨rfl, rfl, ?_⟩) ha')
      intro id hid
      cases hid
  | createTenant | updateTenant | registerKey | revokeKey | createPolicy
  | updatePolicy | createBinding | deleteBinding => exact Or.inl ⟨a', ha', .refl a'⟩

/-! ## Keys -/

/-- Two records of one registration: what identifies the key, its owner and its public
key agree. -/
structure ServiceAccountKey.SameCredential (k k' : ServiceAccountKey) : Prop where
  keyId : k'.keyId = k.keyId
  serviceAccountId : k'.serviceAccountId = k.serviceAccountId
  publicKeyPem : k'.publicKeyPem = k.publicKeyPem

theorem ServiceAccountKey.SameCredential.refl (k : ServiceAccountKey) : k.SameCredential k :=
  ⟨rfl, rfl, rfl⟩

theorem ServiceAccountKey.SameCredential.trans {k₁ k₂ k₃ : ServiceAccountKey}
    (h : k₁.SameCredential k₂) (h' : k₂.SameCredential k₃) : k₁.SameCredential k₃ :=
  ⟨h'.keyId.trans h.keyId, h'.serviceAccountId.trans h.serviceAccountId,
    h'.publicKeyPem.trans h.publicKeyPem⟩

/-- A key that was registered once stays in the table. -/
theorem Committed.key_stays (h : Committed P now db request db') {k : ServiceAccountKey}
    (hk : ∃ r ∈ db.keys.rows, k.SameCredential r) : ∃ r ∈ db'.keys.rows, k.SameCredential r := by
  cases h with
  | registerKey haccountId hpem hparsed hprimary hkeyId haccount =>
      obtain ⟨r, hr, hsame⟩ := hk
      exact ⟨r, List.mem_cons_of_mem _ hr, hsame⟩
  | revokeKey p => exact Table.exists_map_ite (fun _ hr ↦ ⟨hr.1, hr.2, hr.3⟩) hk
  | createTenant | updateTenant | deleteTenant | createServiceAccount | updateServiceAccount
  | suspendServiceAccount | activateServiceAccount | createPolicy | updatePolicy | deletePolicy
  | createBinding | deleteBinding => exact hk

/-- A key after a request was there before, or the request has registered it. -/
theorem Committed.key_origin (h : Committed P now db request db') {k' : ServiceAccountKey}
    (hk' : k' ∈ db'.keys.rows) :
    (∃ k ∈ db.keys.rows, k.SameCredential k') ∨
    ∃ sa body id publicKey, request = .registerKey sa body id ∧ k'.serviceAccountId = sa ∧
      k'.publicKeyPem = body.publicKeyPem ∧
      parsePublicKey P body.publicKeyPem = .ok publicKey := by
  cases h with
  | registerKey haccountId hpem hparsed hprimary hkeyId haccount =>
      rcases List.mem_cons.mp hk' with rfl | hk'
      · exact Or.inr ⟨_, _, _, _, rfl, haccountId, hpem, hparsed⟩
      · exact Or.inl ⟨k', hk', .refl k'⟩
  | revokeKey p => exact Or.inl (Table.origin_map_ite .refl (fun _ ↦ ⟨rfl, rfl, rfl⟩) hk')
  | createTenant | updateTenant | deleteTenant | createServiceAccount | updateServiceAccount
  | suspendServiceAccount | activateServiceAccount | createPolicy | updatePolicy | deletePolicy
  | createBinding | deleteBinding =>
      exact Or.inl ⟨k', hk', .refl k'⟩

/-! ## Policies and bindings -/

/-- The policy `p'` is the policy `p` after some requests, none of which made it
unmergeable. -/
structure Policy.SamePolicy (p p' : Policy) : Prop where
  id : p'.id = p.id
  tenantId : p'.tenantId = p.tenantId
  mergeable : p.Mergeable → p'.Mergeable

theorem Policy.SamePolicy.refl (p : Policy) : p.SamePolicy p := ⟨rfl, rfl, fun hp ↦ hp⟩

/-- A policy after a request was there before, or it is new and merges. -/
theorem Committed.policy_origin (h : Committed P now db request db') {p' : Policy}
    (hp' : p' ∈ db'.policies.rows) :
    (∃ p ∈ db.policies.rows, p.SamePolicy p') ∨ (¬db.HasPolicy p'.id ∧ p'.Mergeable) := by
  cases h with
  | createPolicy hmergeable hid htenant =>
      rcases List.mem_cons.mp hp' with rfl | hp'
      · refine Or.inr ⟨?_, hmergeable⟩
        rintro ⟨p, hp, hidp⟩
        exact Table.get_eq_none.mp hid p hp hidp
      · exact Or.inl ⟨p', hp', .refl p'⟩
  | updatePolicy hmergeable =>
      exact Or.inl (Table.origin_map_ite .refl (fun p ↦ ⟨rfl, rfl, hmergeable p⟩) hp')
  | deletePolicy hfound => exact Or.inl ⟨p', (Table.mem_deleteWhere.mp hp').1, .refl p'⟩
  | createTenant | updateTenant | deleteTenant | createServiceAccount | updateServiceAccount
  | suspendServiceAccount | activateServiceAccount | registerKey | revokeKey | createBinding
  | deleteBinding => exact Or.inl ⟨p', hp', .refl p'⟩

theorem Committed.binding_origin (h : Committed P now db request db')
    {b' : ServiceAccountPolicyBinding} (hb' : b' ∈ db'.bindings.rows) :
    b' ∈ db.bindings.rows ∨
    ∃ id, request = .createBinding b'.serviceAccountId b'.policyId id ∧
      db.HasServiceAccount b'.serviceAccountId ∧ db.HasPolicy b'.policyId := by
  cases h with
  | createBinding hid hpair haccount hpolicy =>
      rcases List.mem_cons.mp hb' with rfl | hb'
      · exact Or.inr ⟨_, rfl, haccount, hpolicy⟩
      · exact Or.inl hb'
  | deletePolicy hfound => exact Or.inl (Table.mem_deleteWhere.mp hb').1
  | deleteBinding p => exact Or.inl (Table.mem_deleteWhere.mp hb').1
  | createTenant | updateTenant | deleteTenant | createServiceAccount | updateServiceAccount
  | suspendServiceAccount | activateServiceAccount | registerKey | revokeKey | createPolicy
  | updatePolicy => exact Or.inl hb'

end Frame

/-! ## Runs -/

/-- An operation of the gateway changes the database by an accepted admin request, or
not at all. -/
theorem gatewayStep_db {P : Primitives} {s t : AppState} {op : GatewayOp}
    (h : gatewayStep P s op = some t) :
    t.db = s.db ∨ ∃ ctx now request db db', op = .admin ctx now request ∧ s.db = some db ∧
      t.db = some db' ∧ Committed P now db request db' := by
  cases op with
  | admin ctx now request =>
      simp only [gatewayStep] at h
      split at h <;> cases h
      · next hok =>
        obtain ⟨db, db', hdb, hdb', hcommitted⟩ := committed_of_handle hok
        exact Or.inr ⟨ctx, now, request, db, db', rfl, hdb, hdb', hcommitted⟩
      · exact Or.inl rfl
  | evict sa =>
      cases h
      exact Or.inl rfl
  | evaluateCached order hash auth model features estimated requested =>
      obtain ⟨db, hdb, h⟩ := Option.bind_eq_some_iff.mp h
      obtain ⟨cache, _, h⟩ := Option.bind_eq_some_iff.mp h
      split_ifs at h
      cases h
      exact Or.inl rfl

/-- The database, where there is one, satisfies `inv`. -/
def AppState.Satisfies (inv : Database → Prop) (s : AppState) : Prop := ∀ db ∈ s.db, inv db

/-- The invariant rule for the database behind the gateway. -/
theorem AppState.Satisfies.step {P : Primitives} {inv : Database → Prop} {s t : AppState}
    {op : GatewayOp} (hs : s.Satisfies inv) (hstep : gatewayStep P s op = some t)
    (hcommitted : ∀ ctx now request db db', op = .admin ctx now request → s.db = some db →
      inv db → Committed P now db request db' → inv db') : t.Satisfies inv := by
  rcases gatewayStep_db hstep with hsame | ⟨ctx, now, request, db, db', hop, hdb, hdb', hc⟩
  · intro db hdb
    exact hs db (hsame ▸ hdb)
  · intro db₁ hdb₁
    rw [hdb'] at hdb₁
    cases hdb₁
    exact hcommitted ctx now request db db' hop hdb (hs db hdb) hc

/-! ## Stored policies merge -/

theorem Committed.mergeable {P : Primitives} {now : ℕ} {db db' : Database}
    {request : AdminRequest} (h : Committed P now db request db')
    (hdb : ∀ p ∈ db.policies.rows, p.Mergeable) : ∀ p ∈ db'.policies.rows, p.Mergeable := by
  intro p' hp'
  rcases h.policy_origin hp' with ⟨p, hp, hsame⟩ | ⟨_, hmergeable⟩
  · exact hsame.mergeable (hdb p hp)
  · exact hmergeable

/-- Whatever requests were made since the table of policies was empty, every list of
stored policies merges: both lists of models of a stored policy decode, and its limits
are positive. -/
theorem stored_policies_merge {P : Primitives} {ops : List GatewayOp} {s t : AppState}
    (hempty : ∀ db ∈ s.db, db.policies.rows = []) (hrun : run (gatewayStep P) s ops = some t)
    {db : Database} (hdb : t.db = some db) :
    (∀ p ∈ db.policies.rows, p.Mergeable) ∧
      ∀ (hash : Enumeration String) (policies : List Policy), policies ⊆ db.policies.rows →
        ∃ e, mergePolicies hash policies = .ok e := by
  have hs : s.Satisfies fun db ↦ ∀ p ∈ db.policies.rows, p.Mergeable := by
    intro db hdb p hp
    rw [hempty db hdb] at hp
    cases hp
  have ht := run_preserves (fun s op t hs hstep ↦ AppState.Satisfies.step hs hstep
    fun _ _ _ _ _ _ _ hdb hc ↦ hc.mergeable hdb) hrun hs
  have hstored : ∀ p ∈ db.policies.rows, p.Mergeable := ht db hdb
  refine ⟨hstored, fun hash policies hsub ↦ ⟨mergedPolicy hash policies, ?_⟩⟩
  exact (mergePolicies_validates hash policies).ok fun p hp ↦ hstored p (hsub hp)

theorem stored_policies_merge_after_update :
    ∃ t db, run (gatewayStep .trusting) .initial limitCachedPolicy = some t ∧ t.db = some db ∧
      db.policies.rows.length = 1 ∧
      ∃ e, mergePolicies .stored (db.policies.rows ++ db.policies.rows) = .ok e := by
  have heval : ((run (gatewayStep .trusting) .initial limitCachedPolicy).bind
      AppState.db).map (fun db ↦ db.policies.rows.length) = some 1 := by
    decide +kernel
  obtain ⟨db, hdb, hlength⟩ := Option.map_eq_some_iff.mp heval
  obtain ⟨t, hrun, hdb⟩ := Option.bind_eq_some_iff.mp hdb
  have hempty : ∀ db ∈ AppState.initial.db, db.policies.rows = [] := by
    intro db hdb
    cases hdb
    rfl
  refine ⟨t, db, hrun, hdb, hlength, (stored_policies_merge hempty hrun hdb).2 .stored _ ?_⟩
  exact List.append_subset.mpr ⟨List.Subset.refl _, List.Subset.refl _⟩

end SmartGate
