import SmartGate.Auth.DataPlane
import SmartGate.Auth.Opacity

/-!
# Who can withdraw access

A caller has access as long as its key, its service account and its tenant are in use.  Three
requests of the admin API end that: the revocation of the key, the suspension of the account
and the deletion of the tenant.  No other request does, whatever else is created, updated or
deleted, and each of the three does so as soon as it is accepted.
-/

namespace SmartGate

open ExpiringStore Transition

/-! ## What access rests on -/

def ServiceAccountKey.usedAt (key : ServiceAccountKey) (used : Option ℕ) : ServiceAccountKey :=
  { key with lastUsedAt := used }

/-- The key is registered, and the account that owns it and the tenant of the account are
active. -/
structure Database.Backs (db : Database) (key : ServiceAccountKey) (tenantId : TenantId) :
    Prop where
  registered : ∃ used, key.usedAt used ∈ db.keys.rows
  account : ∃ a ∈ db.serviceAccounts.rows,
    (a.id = key.serviceAccountId ∧ a.tenantId = tenantId) ∧ a.status = .active
  tenant : ∃ t ∈ db.tenants.rows, t.id = tenantId ∧ t.status = .active

def AdminRequest.Withdraws (key : ServiceAccountKey) (tenantId : TenantId) : AdminRequest → Prop
  | .deleteTenant id => id = tenantId
  | .suspendServiceAccount id scope => id = key.serviceAccountId ∧ scope = tenantId
  | .revokeKey sa id => id = key.id ∧ sa = key.serviceAccountId
  | .createTenant _ _ | .updateTenant _ _ | .createServiceAccount _ _
  | .updateServiceAccount _ _ _ | .activateServiceAccount _ _ | .registerKey _ _ _
  | .createPolicy _ _ | .updatePolicy _ _ _ | .deletePolicy _ _ | .createBinding _ _ _
  | .deleteBinding _ _ => False

instance (key : ServiceAccountKey) (tenantId : TenantId) (request : AdminRequest) :
    Decidable (request.Withdraws key tenantId) :=
  match request with
  | .deleteTenant id => inferInstanceAs (Decidable (id = tenantId))
  | .suspendServiceAccount id scope =>
      inferInstanceAs (Decidable (id = key.serviceAccountId ∧ scope = tenantId))
  | .revokeKey sa id => inferInstanceAs (Decidable (id = key.id ∧ sa = key.serviceAccountId))
  | .createTenant _ _ | .updateTenant _ _ | .createServiceAccount _ _
  | .updateServiceAccount _ _ _ | .activateServiceAccount _ _ | .registerKey _ _ _
  | .createPolicy _ _ | .updatePolicy _ _ _ | .deletePolicy _ _ | .createBinding _ _ _
  | .deleteBinding _ _ => inferInstanceAs (Decidable False)

theorem AdminRequest.Withdraws.usedAt {key : ServiceAccountKey} {tenantId : TenantId}
    {request : AdminRequest} (h : request.Withdraws key tenantId) (used : Option ℕ) :
    request.Withdraws (key.usedAt used) tenantId := by
  cases request <;> exact h

section Requests

variable {P : Primitives} {ctx : AdminContext} {now : ℕ} {s s' : AppState}
  {key : ServiceAccountKey} {tenantId : TenantId} {db db' : Database} {request : AdminRequest}

theorem suspended_of_handle {id : ServiceAccountId} {scope : TenantId}
    (h : handle P ctx now s (.suspendServiceAccount id scope) = .ok s') (hdb : s.db = some db) :
    s'.db = some (db.updateServiceAccounts (fun a ↦ decide (a.id = id ∧ a.tenantId = scope))
      (ServiceAccount.setStatus .suspended)
      (ServiceAccount.keepsAccount_setStatus .suspended)) := by
  obtain ⟨_, h⟩ := answered_of_map h
  obtain ⟨db₀, db₁, hdb₀, hok, rfl⟩ := AppState.execute_eq_ok (of_requireAdminRole h)
  cases hdb.symm.trans hdb₀
  obtain ⟨_, rfl⟩ := returning_eq_ok hok
  rfl

theorem revoked_of_handle {sa : ServiceAccountId} {id : KeyId}
    (h : handle P ctx now s (.revokeKey sa id) = .ok s') (hdb : s.db = some db) :
    s'.db = some (db.updateKeys (fun k ↦ decide (k.id = id ∧ k.serviceAccountId = sa))
      (ServiceAccountKey.revoke now) (ServiceAccountKey.keepsKey_revoke now)) := by
  obtain ⟨_, h⟩ := answered_of_map h
  obtain ⟨db₀, db₁, hdb₀, hok, rfl⟩ := AppState.execute_eq_ok (of_requireAdminRole h)
  cases hdb.symm.trans hdb₀
  unfold KeyRepo.revokeScoped at hok
  split at hok
  · cases hok
  · next keys hkeys =>
    obtain ⟨_, rfl⟩ := returning_eq_ok hkeys
    cases hok
    rfl

theorem deleted_of_handle {id : TenantId} (h : handle P ctx now s (.deleteTenant id) = .ok s')
    (hdb : s.db = some db) :
    s'.db = some ((TenantRepo.suspendAccounts db id).updateTenants (fun t ↦ decide (t.id = id))
      Tenant.delete (fun _ ↦ rfl) (fun _ ↦ rfl)) := by
  obtain ⟨_, h⟩ := answered_of_map h
  obtain ⟨db₀, db₁, hdb₀, hok, rfl⟩ := AppState.execute_eq_ok (of_requireAdminRole h)
  cases hdb.symm.trans hdb₀
  obtain ⟨_, rfl⟩ := returning_eq_ok hok
  rfl

/-- A request that concerns neither the key, nor its account, nor their tenant, in one of the
three ways, leaves access as it is. -/
theorem Database.Backs.handle (hb : db.Backs key tenantId) (hdb : s.db = some db)
    (h : handle P ctx now s request = .ok s') (hkeep : ¬request.Withdraws key tenantId) :
    ∃ db', s'.db = some db' ∧ db'.Backs key tenantId := by
  obtain ⟨db₀, db', hdb₀, hdb', hcommitted⟩ := committed_of_handle h
  cases hdb.symm.trans hdb₀
  refine ⟨db', hdb', ?_⟩
  cases hcommitted with
  | createTenant hid hslug =>
      obtain ⟨t, ht, hactive⟩ := hb.tenant
      exact ⟨hb.registered, hb.account, t, List.mem_cons_of_mem _ ht, hactive⟩
  | updateTenant input =>
      exact ⟨hb.registered, hb.account, Table.exists_map_ite (fun _ ht ↦ ht) hb.tenant⟩
  | deleteTenant htenant =>
      refine ⟨hb.registered, ?_, ?_⟩
      · refine Table.exists_map_ite_of_not (fun a ha ↦ decide_eq_false fun hselected ↦ ?_)
          hb.account
        exact hkeep (hselected.1.symm.trans ha.1.2)
      · exact Table.exists_map_ite_of_not
          (fun t ht ↦ decide_eq_false fun hid ↦ hkeep (hid.symm.trans ht.1)) hb.tenant
  | createServiceAccount hnone hid hslug htenant hdefault =>
      obtain ⟨a, ha, hactive⟩ := hb.account
      exact ⟨hb.registered, ⟨a, List.mem_cons_of_mem _ ha, hactive⟩, hb.tenant⟩
  | updateServiceAccount p hf hstatus =>
      refine ⟨hb.registered, Table.exists_map_ite (fun a ha ↦ ?_) hb.account, hb.tenant⟩
      rw [hf.id, hf.tenantId, hstatus]
      exact ha
  | suspendServiceAccount p hf hstatus =>
      rw [Option.some.inj (hdb'.symm.trans (suspended_of_handle h hdb))]
      refine ⟨hb.registered, Table.exists_map_ite_of_not
        (fun a ha ↦ decide_eq_false fun hselected ↦ ?_) hb.account, hb.tenant⟩
      exact hkeep ⟨hselected.1.symm.trans ha.1.1, hselected.2.symm.trans ha.1.2⟩
  | activateServiceAccount p hf hstatus =>
      refine ⟨hb.registered, Table.exists_map_ite (fun a ha ↦ ?_) hb.account, hb.tenant⟩
      rw [hf.id, hf.tenantId]
      exact ⟨ha.1, hstatus a⟩
  | registerKey haccountId hpem hparsed hprimary hkeyId haccount =>
      obtain ⟨used, hused⟩ := hb.registered
      exact ⟨⟨used, List.mem_cons_of_mem _ hused⟩, hb.account, hb.tenant⟩
  | revokeKey p =>
      rw [Option.some.inj (hdb'.symm.trans (revoked_of_handle h hdb))]
      obtain ⟨used, hused⟩ := hb.registered
      refine ⟨⟨used, Table.mem_map_ite.mpr (Or.inl ⟨hused, ?_⟩)⟩, hb.account, hb.tenant⟩
      exact decide_eq_false fun hselected ↦ hkeep ⟨hselected.1.symm, hselected.2.symm⟩
  | deletePolicy hfound =>
      exact ⟨hb.registered, Table.exists_map_ite (fun _ ha ↦ ha) hb.account, hb.tenant⟩
  | createPolicy | updatePolicy | createBinding | deleteBinding =>
      exact ⟨hb.registered, hb.account, hb.tenant⟩

theorem not_active_of_selected {a a' : ServiceAccount} (ha : a ∈ db.serviceAccounts.rows)
    {p : ServiceAccount → Bool} (hp : a.status = .active → p a = true)
    (ha' : a' ∈ db.serviceAccounts.rows.map fun r ↦ if p r then r.setStatus .suspended else r)
    (hid : a'.id = a.id) : a'.status ≠ .active := by
  intro hactive
  rcases Table.mem_map_ite.mp ha' with ⟨hmem, hnot⟩ | ⟨r, _, _, rfl⟩
  · cases db.serviceAccounts.eq_of_key_eq hmem ha hid
    rw [hp hactive] at hnot
    cases hnot
  · cases hactive

/-- One of the three requests, once accepted, leaves nothing that access could rest on. -/
theorem Database.Backs.withdrawn (hb : db.Backs key tenantId) (hdb : s.db = some db)
    (h : SmartGate.handle P ctx now s request = .ok s')
    (hwithdraws : request.Withdraws key tenantId) (hdb' : s'.db = some db')
    {key' : ServiceAccountKey} {tenantId' : TenantId} (hkey' : key' ∈ db'.keys.rows)
    (hkeyId : key'.keyId = key.keyId) (hlive : key'.status ≠ .revoked) :
    ¬db'.Backs key' tenantId' := by
  intro hb'
  obtain ⟨used, hused⟩ := hb.registered
  obtain ⟨a, ha, ⟨haid, hatenant⟩, _⟩ := hb.account
  cases request with
  | deleteTenant id =>
      cases hdb'.symm.trans (deleted_of_handle h hdb)
      cases db.keys.eq_of_key_eq hkey' hused hkeyId
      obtain ⟨a', ha', ⟨hid', _⟩, hactive⟩ := hb'.account
      refine not_active_of_selected ha (fun hstatus ↦ ?_) ha' (hid'.trans haid.symm) hactive
      exact decide_eq_true ⟨hatenant.trans hwithdraws.symm, by simp [hstatus], by simp [hstatus]⟩
  | suspendServiceAccount id scope =>
      obtain ⟨rfl, rfl⟩ := hwithdraws
      cases hdb'.symm.trans (suspended_of_handle h hdb)
      cases db.keys.eq_of_key_eq hkey' hused hkeyId
      obtain ⟨a', ha', ⟨hid', _⟩, hactive⟩ := hb'.account
      exact not_active_of_selected ha (fun _ ↦ decide_eq_true ⟨haid, hatenant⟩) ha'
        (hid'.trans haid.symm) hactive
  | revokeKey sa id =>
      obtain ⟨rfl, rfl⟩ := hwithdraws
      cases hdb'.symm.trans (revoked_of_handle h hdb)
      rcases Table.mem_map_ite.mp hkey' with ⟨hmem, hnot⟩ | ⟨k, _, _, rfl⟩
      · have hsame : key' = key.usedAt used := db.keys.eq_of_key_eq hmem hused hkeyId
        rw [hsame] at hnot
        exact of_decide_eq_false hnot ⟨rfl, rfl⟩
      · exact hlive rfl
  | createTenant | updateTenant | createServiceAccount | updateServiceAccount
  | activateServiceAccount | registerKey | createPolicy | updatePolicy | deletePolicy
  | createBinding | deleteBinding => exact hwithdraws

end Requests

/-! ## Access -/

/-- Whom a request is attributed to. -/
structure Caller where
  tenantId : TenantId
  serviceAccountId : ServiceAccountId
  keyId : String
  deriving DecidableEq

def AuthContext.caller (ctx : AuthContext) : Caller :=
  ⟨ctx.tenantId, ctx.serviceAccountId, ctx.keyId⟩

theorem verifyKey_usedAt {keyStore keyStore' : KeyLookup} {keyId : String} {now : ℕ}
    {key : ServiceAccountKey} {used : Option ℕ} (h : verifyKey keyStore keyId now = .ok key)
    (hstore : keyStore' keyId = .ok (key.usedAt used)) :
    verifyKey keyStore' keyId now = .ok (key.usedAt used) := by
  obtain ⟨hkey, hstatus, hexpiry⟩ := verifyKey_eq_ok h
  have hnot : key.expiresAt.any (fun expiresAt ↦ decide (expiresAt < now)) = false := by
    cases he : key.expiresAt with
    | none => rfl
    | some expiresAt => simpa using hexpiry expiresAt he
  unfold verifyKey
  rw [hstore]
  rcases hstatus with hstatus | hstatus <;> simp [ServiceAccountKey.usedAt, hstatus, hnot]

theorem Database.Backs.keyLookup {db : Database} {key : ServiceAccountKey} {tenantId : TenantId}
    (hb : db.Backs key tenantId) : ∃ used, db.keyLookup key.keyId = .ok (key.usedAt used) := by
  obtain ⟨used, hused⟩ := hb.registered
  exact ⟨used, keyLookup_eq_ok.mpr (Table.get_eq_some.mpr ⟨hused, rfl⟩)⟩

theorem Database.Backs.verifyServiceAccount {db : Database} {key : ServiceAccountKey}
    {tenantId : TenantId} (hb : db.Backs key tenantId) (used : Option ℕ) :
    ∃ sa, SmartGate.verifyServiceAccount (accountLookup none db) (key.usedAt used) = .ok sa ∧
      sa.id = key.serviceAccountId ∧ sa.tenantId = tenantId := by
  obtain ⟨a, ha, ⟨haid, hatenant⟩, hactive⟩ := hb.account
  obtain ⟨t, ht, htid, htactive⟩ := hb.tenant
  have haccount : db.serviceAccounts.get key.serviceAccountId = some a :=
    Table.get_eq_some.mpr ⟨ha, haid⟩
  have htenant : db.tenants.get a.tenantId = some t :=
    Table.get_eq_some.mpr ⟨ht, htid.trans hatenant.symm⟩
  refine ⟨⟨a, t.status⟩, ?_, haid, hatenant⟩
  simp [SmartGate.verifyServiceAccount, accountLookup, ServiceAccountRepo.getWithTenantStatus,
    ServiceAccountKey.usedAt, haccount, htenant, hactive, htactive]

/-- A claim that is live in one database is live in every other one that backs it. -/
theorem liveClaim_of_backs {db db' : Database} {now : ℕ} {h : AuthHeaders}
    {key : ServiceAccountKey} {sa : ServiceAccountWithTenantStatus}
    (hclaim : liveClaim db.keyLookup (accountLookup none db) now h = some (key, sa))
    (hb : db'.Backs key sa.tenantId) :
    ∃ used sa', liveClaim db'.keyLookup (accountLookup none db') now h =
      some (key.usedAt used, sa') ∧ sa'.id = sa.id ∧ sa'.tenantId = sa.tenantId := by
  obtain ⟨hkey, hsa, hid⟩ := liveClaim_eq_some hclaim
  obtain ⟨_, hkeyId⟩ := Table.get_eq_some.mp (keyLookup_eq_ok.mp (verifyKey_eq_ok hkey).1)
  obtain ⟨used, hused⟩ := hb.keyLookup
  obtain ⟨sa', hsa', hid', htenant'⟩ := hb.verifyServiceAccount used
  have howner : sa.id = key.serviceAccountId :=
    (ServiceAccountRepo.getWithTenantStatus_eq_ok
      (accountLookup_eq_ok (verifyServiceAccount_eq_ok hsa).1)).1.2
  rw [hkeyId] at hused
  have hkey' := verifyKey_usedAt hkey hused
  have hidentity : sa'.id = sa.id := hid'.trans howner.symm
  refine ⟨used, sa', ?_, hidentity, htenant'⟩
  simp only [liveClaim, hkey', hsa', hidentity, hid, if_true]

theorem backs_of_liveClaim {db : Database} {now : ℕ} {h : AuthHeaders} {key : ServiceAccountKey}
    {sa : ServiceAccountWithTenantStatus}
    (hclaim : liveClaim db.keyLookup (accountLookup none db) now h = some (key, sa)) :
    db.keys.get h.keyId = some key ∧ key.status ≠ .revoked ∧ db.Backs key sa.tenantId := by
  obtain ⟨hkey, hsa, _⟩ := liveClaim_eq_some hclaim
  obtain ⟨hlookup, hstatus, _⟩ := verifyKey_eq_ok hkey
  obtain ⟨haccount, hactive, htenant⟩ := verifyServiceAccount_eq_ok hsa
  obtain ⟨⟨ha, haid⟩, t, ht, htid, hstatus'⟩ :=
    ServiceAccountRepo.getWithTenantStatus_eq_ok (accountLookup_eq_ok haccount)
  have hget := keyLookup_eq_ok.mp hlookup
  refine ⟨hget, ?_, ⟨key.lastUsedAt, (Table.get_eq_some.mp hget).1⟩,
    ⟨sa.toServiceAccount, ha, ⟨haid, rfl⟩, hactive⟩, t, ht, htid, hstatus'.trans htenant⟩
  rcases hstatus with hstatus | hstatus <;> simp [hstatus]

section Access

variable (P : Primitives) {skewSecs : ℕ} {redis : Option RedisConnection} {clock : ClockReadings}
  {store : Store String String} {request : Request}

/-- Whom the gateway takes the sender of the request for, if it lets it in. -/
def Database.admits (skewSecs : ℕ) (db : Database) (redis : Option RedisConnection)
    (clock : ClockReadings) (store : Store String String) (request : Request) : Option Caller :=
  (authMiddleware P skewSecs (db.backend redis) clock store request).1.toOption.map
    AuthContext.caller

theorem checkSignature_congr {h : AuthHeaders} {key key' : ServiceAccountKey}
    {sa : ServiceAccountWithTenantStatus} {v : Verified}
    (hv : checkSignature P redis request h key sa = .ok v)
    (hpem : key'.publicKeyPem = key.publicKeyPem) (sa' : ServiceAccountWithTenantStatus) :
    v.headers = h ∧ v.serviceAccount = sa ∧
      checkSignature P redis request h key' sa' = .ok { v with serviceAccount := sa' } := by
  obtain ⟨publicKey, hparse, hv⟩ := bind_eq_ok.mp hv
  obtain ⟨_, hverify, hv⟩ := bind_eq_ok.mp hv
  obtain ⟨connection, hredis, hv⟩ := bind_eq_ok.mp hv
  cases hv
  refine ⟨rfl, rfl, ?_⟩
  rw [← hpem] at hparse
  exact bind_eq_ok.mpr ⟨publicKey, hparse, bind_eq_ok.mpr ⟨_, hverify,
    bind_eq_ok.mpr ⟨connection, hredis, rfl⟩⟩⟩

theorem admits_eq_some {db : Database} {caller : Caller}
    (hadmits : db.admits P skewSecs redis clock store request = some caller) :
    ∃ h key sa v, checkFormat P skewSecs clock request = .ok h ∧
      liveClaim db.keyLookup (accountLookup none db) clock.keyExpiry.ms h = some (key, sa) ∧
      checkSignature P redis request h key sa = .ok v ∧ v.redis = .working ∧
      lookup store clock.nonce.ms v.nonceKey = none ∧ caller = ⟨sa.tenantId, sa.id, h.keyId⟩ := by
  obtain ⟨ctx, hctx, rfl⟩ := Option.map_eq_some_iff.mp hadmits
  obtain ⟨v, hv, hredis, hfree, rfl⟩ := authMiddleware_eq_ok P (eq_ok_of_toOption hctx)
  rw [Database.backend, verifyRequest_eq] at hv
  obtain ⟨h, hformat, hv⟩ := bind_eq_ok.mp hv
  cases hclaim : liveClaim db.keyLookup (accountLookup none db) clock.keyExpiry.ms h with
  | none =>
      rw [hclaim] at hv
      cases hv
  | some claim =>
      rw [hclaim] at hv
      obtain ⟨hheaders, hsa, _⟩ := checkSignature_congr P hv rfl claim.2
      refine ⟨h, claim.1, claim.2, v, hformat, hclaim, hv, hredis, hfree, ?_⟩
      rw [← hheaders, ← hsa]
      rfl

theorem admits_of_backs {db db' : Database} {caller : Caller} {key : ServiceAccountKey}
    (hadmits : db.admits P skewSecs redis clock store request = some caller)
    (hkey : db.keys.get caller.keyId = some key) (hb : db'.Backs key caller.tenantId) :
    db'.admits P skewSecs redis clock store request = some caller := by
  obtain ⟨h, key₀, sa, v, hformat, hclaim, hv, hredis, hfree, rfl⟩ := admits_eq_some P hadmits
  cases (backs_of_liveClaim hclaim).1.symm.trans hkey
  obtain ⟨used, sa', hclaim', hid, htenant⟩ := liveClaim_of_backs hclaim hb
  have hpem : (key.usedAt used).publicKeyPem = key.publicKeyPem := rfl
  obtain ⟨rfl, rfl, hv'⟩ := checkSignature_congr P hv hpem sa'
  have hverified : verifyRequest P skewSecs (db'.backend redis) clock request =
      .ok { v with serviceAccount := sa' } := by
    rw [Database.backend, verifyRequest_eq]
    refine bind_eq_ok.mpr ⟨v.headers, hformat, ?_⟩
    rw [hclaim']
    exact hv'
  have hfree' : lookup store clock.nonce.ms
      (Verified.nonceKey { v with serviceAccount := sa' }) = none := by
    rw [Verified.nonceKey, hid]
    exact hfree
  unfold Database.admits
  rw [authMiddleware_of_free P hverified hredis hfree']
  simp only [Except.toOption, Option.map_some, AuthContext.caller, Verified.authContext, hid,
    htenant]

theorem not_admits_of_withdrawn {db db' : Database} {s s' : AppState} {ctx : AdminContext}
    {now : ℕ} {next : AdminRequest} {caller : Caller} {key : ServiceAccountKey}
    (hadmits : db.admits P skewSecs redis clock store request = some caller)
    (hkey : db.keys.get caller.keyId = some key) (hdb : s.db = some db)
    (h : handle P ctx now s next = .ok s') (hdb' : s'.db = some db')
    (hwithdraws : next.Withdraws key caller.tenantId) :
    db'.admits P skewSecs redis clock store request = none := by
  obtain ⟨hd, key₀, sa, _, hformat, hclaim, _, _, _, rfl⟩ := admits_eq_some P hadmits
  obtain ⟨hget, _, hb⟩ := backs_of_liveClaim hclaim
  cases hget.symm.trans hkey
  rw [Option.eq_none_iff_forall_ne_some]
  intro caller' hadmits'
  obtain ⟨hd', key', sa', _, hformat', hclaim', _, _, _, rfl⟩ := admits_eq_some P hadmits'
  cases hformat.symm.trans hformat'
  obtain ⟨hget', hlive', hb'⟩ := backs_of_liveClaim hclaim'
  obtain ⟨hmem', hkeyId'⟩ := Table.get_eq_some.mp hget'
  exact hb.withdrawn hdb h hwithdraws hdb' hmem'
    (hkeyId'.trans (Table.get_eq_some.mp hkey).2.symm) hlive' hb'

end Access

/-! ## Runs -/

/-- None of the three requests is accepted. -/
def KeepsAccess (P : Primitives) (key : ServiceAccountKey) (tenantId : TenantId)
    (s : PlaneState) : PlaneOp → Prop
  | .gateway (.admin ctx now request) => request.Withdraws key tenantId →
      (handle P ctx now s.app request).toOption.isNone = true
  | .gateway (.evict _) | .gateway (.evaluateCached _ _ _ _ _ _ _) | .authenticate _
  | .updateLastUsed _ _ => True

instance (P : Primitives) (key : ServiceAccountKey) (tenantId : TenantId) (s : PlaneState)
    (op : PlaneOp) : Decidable (KeepsAccess P key tenantId s op) :=
  match op with
  | .gateway (.admin ctx now request) => inferInstanceAs (Decidable
      (request.Withdraws key tenantId →
        (handle P ctx now s.app request).toOption.isNone = true))
  | .gateway (.evict _) | .gateway (.evaluateCached _ _ _ _ _ _ _) | .authenticate _
  | .updateLastUsed _ _ => inferInstanceAs (Decidable True)

theorem Database.Backs.updateLastUsed {db : Database} {key : ServiceAccountKey}
    {tenantId : TenantId} (hb : db.Backs key tenantId) (id : KeyId) (now : ℕ) :
    (KeyRepo.updateLastUsed db id now).Backs key tenantId := by
  obtain ⟨used, hused⟩ := hb.registered
  refine ⟨?_, hb.account, hb.tenant⟩
  by_cases hid : (key.usedAt used).id = id
  · exact ⟨some now, Table.mem_map_ite.mpr (Or.inr ⟨_, hused, decide_eq_true hid, rfl⟩)⟩
  · exact ⟨used, Table.mem_map_ite.mpr (Or.inl ⟨hused, decide_eq_false hid⟩)⟩

theorem backs_planeStep {P : Primitives} {skewSecs : ℕ} {key : ServiceAccountKey}
    {tenantId : TenantId} {s t : PlaneState} {op : PlaneOp}
    (hs : ∃ db, s.app.db = some db ∧ db.Backs key tenantId)
    (hkeep : KeepsAccess P key tenantId s op) (hstep : planeStep P skewSecs s op = some t) :
    ∃ db, t.app.db = some db ∧ db.Backs key tenantId := by
  obtain ⟨db, hdb, hb⟩ := hs
  cases op with
  | gateway op =>
      obtain ⟨app, happ, rfl⟩ := Option.map_eq_some_iff.mp hstep
      cases op with
      | admin ctx now request =>
          simp only [gatewayStep] at happ
          split at happ
          · next s' hok =>
            cases happ
            refine hb.handle hdb hok fun hwithdraws ↦ ?_
            have hrefused := hkeep hwithdraws
            rw [hok] at hrefused
            cases hrefused
          · cases happ
            exact ⟨db, hdb, hb⟩
      | evict sa =>
          cases happ
          exact ⟨db, hdb, hb⟩
      | evaluateCached =>
          rcases gatewayStep_db happ with hsame | ⟨_, _, _, _, _, hop, _⟩
          · exact ⟨db, hsame.trans hdb, hb⟩
          · cases hop
  | authenticate r =>
      cases hstep
      exact ⟨db, hdb, hb⟩
  | updateLastUsed id now =>
      cases hstep
      refine ⟨KeyRepo.updateLastUsed db id now, ?_, hb.updateLastUsed id now⟩
      simp [PlaneState.withApp, hdb]

/-- As long as no revocation of the key, suspension of the account or deletion of the tenant is
accepted, a request that was let in is let in, as the same caller, whatever else happens.  The
next accepted request of an administrator ends that if, and only if, it is one of the
three. -/
theorem access_ends_by_withdrawal (P : Primitives) {skewSecs : ℕ} {s u : PlaneState}
    {ops : List PlaneOp} {db : Database} (hdb : s.app.db = some db)
    (hrun : run (planeStep P skewSecs) s ops = some u) {redis : Option RedisConnection}
    {clock : ClockReadings} {store : Store String String} {request : Request} {caller : Caller}
    (hadmits : db.admits P skewSecs redis clock store request = some caller)
    {key : ServiceAccountKey} (hkey : db.keys.get caller.keyId = some key)
    (hkeep : Guarded (planeStep P skewSecs) (KeepsAccess P key caller.tenantId) s ops) :
    ∃ db', u.app.db = some db' ∧
      db'.admits P skewSecs redis clock store request = some caller ∧
      ∀ ctx now next app db'', handle P ctx now u.app next = .ok app → app.db = some db'' →
        (next.Withdraws key caller.tenantId →
          db''.admits P skewSecs redis clock store request = none) ∧
        (¬next.Withdraws key caller.tenantId →
          db''.admits P skewSecs redis clock store request = some caller) := by
  have hback : db.Backs key caller.tenantId := by
    obtain ⟨_, _, _, _, _, hclaim, _, _, _, rfl⟩ := admits_eq_some P hadmits
    obtain ⟨hget, _, hb⟩ := backs_of_liveClaim hclaim
    cases hget.symm.trans hkey
    exact hb
  have hstep : ∀ v op w, (∃ db, v.app.db = some db ∧ db.Backs key caller.tenantId) →
      KeepsAccess P key caller.tenantId v op → planeStep P skewSecs v op = some w →
      ∃ db, w.app.db = some db ∧ db.Backs key caller.tenantId :=
    fun _ _ _ hv hop hw ↦ backs_planeStep hv hop hw
  obtain ⟨db', hdb', hb'⟩ := run_invariant hstep hkeep hrun ⟨db, hdb, hback⟩
  have hadmits' := admits_of_backs P hadmits hkey hb'
  refine ⟨db', hdb', hadmits', fun ctx now next app db'' h hdb'' ↦ ⟨fun hw ↦ ?_, fun hkept ↦ ?_⟩⟩
  · obtain ⟨used, hused⟩ := hb'.registered
    have hget' : db'.keys.get caller.keyId = some (key.usedAt used) :=
      Table.get_eq_some.mpr ⟨hused, (Table.get_eq_some.mp hkey).2⟩
    exact not_admits_of_withdrawn P hadmits' hget' hdb' h hdb'' (hw.usedAt used)
  · obtain ⟨db₁, hdb₁, hb₁⟩ := hb'.handle hdb' h hkept
    cases hdb''.symm.trans hdb₁
    exact admits_of_backs P hadmits hkey hb₁

/-- A second key is registered for the account, the first one is used, another account is
suspended, and somebody who may not do so tries to revoke the first key. -/
def keyRotation : List PlaneOp :=
  [registerSampleKey ⟨⟨2⟩⟩ "key-2" ⟨⟨5⟩⟩, .updateLastUsed ⟨⟨4⟩⟩ 6,
    .gateway (.admin sampleAdmin 7 (.suspendServiceAccount ⟨⟨3⟩⟩ ⟨⟨1⟩⟩)),
    .gateway (.admin ⟨⟨2⟩, "audit", .viewer⟩ 7 (.revokeKey ⟨⟨2⟩⟩ ⟨⟨4⟩⟩))]

theorem access_ends_by_withdrawal_rotation :
    ∃ s u db' app db'', run (planeStep .sample 300) (.start .initial empty)
        (sampleAccounts ++ [registerSampleKey ⟨⟨2⟩⟩ "key-1" ⟨⟨4⟩⟩]) = some s ∧
      run (planeStep .sample 300) s keyRotation = some u ∧ u.app.db = some db' ∧
      db'.admits .sample 300 (some .working) (.at sampleInstant) empty
        (sampleSignedRequest ⟨⟨2⟩⟩ "key-1") = some ⟨⟨⟨1⟩⟩, ⟨⟨2⟩⟩, "key-1"⟩ ∧
      handle .sample sampleAdmin 8 u.app (.revokeKey ⟨⟨2⟩⟩ ⟨⟨4⟩⟩) = .ok app ∧
      app.db = some db'' ∧ db''.admits .sample 300 (some .working) (.at sampleInstant) empty
        (sampleSignedRequest ⟨⟨2⟩⟩ "key-1") = none := by
  have heval : ((run (planeStep .sample 300) (.start .initial empty)
      (sampleAccounts ++ [registerSampleKey ⟨⟨2⟩⟩ "key-1" ⟨⟨4⟩⟩])).bind fun s ↦
      s.app.db.bind fun db ↦ (run (planeStep .sample 300) s keyRotation).bind fun u ↦
      (handle .sample sampleAdmin 8 u.app (.revokeKey ⟨⟨2⟩⟩ ⟨⟨4⟩⟩)).toOption.bind fun app ↦
      app.db.map fun _ ↦ decide (Guarded (planeStep .sample 300)
        (KeepsAccess .sample (sampleRecord ⟨⟨2⟩⟩ "key-1" ⟨⟨4⟩⟩) ⟨⟨1⟩⟩) s keyRotation ∧
        db.admits .sample 300 (some .working) (.at sampleInstant) empty
        (sampleSignedRequest ⟨⟨2⟩⟩ "key-1") = some ⟨⟨⟨1⟩⟩, ⟨⟨2⟩⟩, "key-1"⟩ ∧
        db.keys.get "key-1" = some (sampleRecord ⟨⟨2⟩⟩ "key-1" ⟨⟨4⟩⟩))) = some true := by
    decide +kernel
  obtain ⟨s, hs, heval⟩ := Option.bind_eq_some_iff.mp heval
  obtain ⟨db, hdb, heval⟩ := Option.bind_eq_some_iff.mp heval
  obtain ⟨u, hu, heval⟩ := Option.bind_eq_some_iff.mp heval
  obtain ⟨app, happ, heval⟩ := Option.bind_eq_some_iff.mp heval
  obtain ⟨db'', hdb'', heval⟩ := Option.map_eq_some_iff.mp heval
  obtain ⟨hkeep, hadmits, hkey⟩ := of_decide_eq_true heval
  have hrevoked := eq_ok_of_toOption happ
  obtain ⟨db', hdb', hstill, hnext⟩ :=
    access_ends_by_withdrawal .sample hdb hu hadmits hkey hkeep
  exact ⟨s, u, db', app, db'', hs, hu, hdb', hstill, hrevoked, hdb'',
    (hnext _ _ _ _ _ hrevoked hdb'').1 ⟨rfl, rfl⟩⟩

end SmartGate
