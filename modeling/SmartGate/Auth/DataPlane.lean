import SmartGate.Admin.Effects
import SmartGate.Auth.Middleware

/-!
# The data plane on top of the admin API

Admin requests and data-plane requests work on the same database.  A data-plane request
looks its service account up in the current tables, but the key record may come from a
cache: it is any row that the table of keys has held so far for the identifier in the
request.  Everything else that a request meets (its headers, the clock, failures of
the database and of Redis) is arbitrary.
-/

namespace SmartGate

open ExpiringStore Transition

/-! ## Looking up a key and an account -/

/-- `get_with_tenant_status`: the account joined with the status of its tenant. -/
def ServiceAccountRepo.getWithTenantStatus (db : Database) (id : ServiceAccountId) :
    Except StorageError ServiceAccountWithTenantStatus :=
  match db.serviceAccounts.get id with
  | none => .error (.notFound "service_account" "id" id.display)
  | some sa =>
      match db.tenants.get sa.tenantId with
      | none => .error (.notFound "service_account" "id" id.display)
      | some t => .ok { toServiceAccount := sa, tenantStatus := t.status }

theorem ServiceAccountRepo.getWithTenantStatus_eq_ok {db : Database} {id : ServiceAccountId}
    {sa : ServiceAccountWithTenantStatus} (h : getWithTenantStatus db id = .ok sa) :
    (sa.toServiceAccount ∈ db.serviceAccounts.rows ∧ sa.id = id) ∧
      ∃ t ∈ db.tenants.rows, t.id = sa.tenantId ∧ t.status = sa.tenantStatus := by
  unfold getWithTenantStatus at h
  cases haccount : db.serviceAccounts.get id with
  | none => simp [haccount] at h
  | some a =>
      cases htenant : db.tenants.get a.tenantId with
      | none => simp [haccount, htenant] at h
      | some t =>
          simp only [haccount, htenant, Except.ok.injEq] at h
          subst h
          obtain ⟨ht, hid⟩ := Table.get_eq_some.mp htenant
          exact ⟨Table.get_eq_some.mp haccount, t, ht, hid, rfl⟩

/-- The query as one request experiences it: it fails, or answers from the tables. -/
def accountLookup (failure : Option StorageError) (db : Database) (id : ServiceAccountId) :
    Except StorageError ServiceAccountWithTenantStatus :=
  match failure with
  | some e => .error e
  | none => ServiceAccountRepo.getWithTenantStatus db id

theorem accountLookup_eq_ok {failure : Option StorageError} {db : Database}
    {id : ServiceAccountId} {sa : ServiceAccountWithTenantStatus}
    (h : accountLookup failure db id = .ok sa) :
    ServiceAccountRepo.getWithTenantStatus db id = .ok sa := by
  cases failure with
  | none => exact h
  | some e => cases h

/-- The key store when it is up to date. -/
def Database.keyLookup (db : Database) (keyId : String) : Except GatewayError ServiceAccountKey :=
  match db.keys.get keyId with
  | some key => .ok key
  | none => .error (.auth "unknown_key" s!"key '{keyId}' not found")

def Database.backend (db : Database) (redis : Option RedisConnection) : Backend :=
  ⟨some db.keyLookup, some (accountLookup none db), redis⟩

theorem keyLookup_eq_ok {db : Database} {keyId : String} {key : ServiceAccountKey} :
    db.keyLookup keyId = .ok key ↔ db.keys.get keyId = some key := by
  unfold Database.keyLookup
  cases db.keys.get keyId with
  | some k => simp
  | none => simp

theorem verifyServiceAccount_eq_ok
    {lookup : ServiceAccountId → Except StorageError ServiceAccountWithTenantStatus}
    {key : ServiceAccountKey} {sa : ServiceAccountWithTenantStatus}
    (h : verifyServiceAccount lookup key = .ok sa) :
    lookup key.serviceAccountId = .ok sa ∧ sa.status = .active ∧ sa.tenantStatus = .active := by
  unfold verifyServiceAccount at h
  cases hlookup : lookup key.serviceAccountId with
  | error e => simp [hlookup] at h
  | ok a =>
      simp only [hlookup] at h
      split_ifs at h with hstatus htenant
      cases h
      exact ⟨rfl, not_not.mp hstatus, not_not.mp htenant⟩

theorem verifyKey_eq_ok {keyStore : String → Except GatewayError ServiceAccountKey}
    {keyId : String} {now : ℕ} {key : ServiceAccountKey}
    (h : verifyKey keyStore keyId now = .ok key) :
    keyStore keyId = .ok key ∧ (key.status = .active ∨ key.status = .rotating) ∧
      ∀ expiresAt ∈ key.expiresAt, now ≤ expiresAt := by
  unfold verifyKey at h
  cases hstore : keyStore keyId with
  | error e => simp [hstore] at h
  | ok k =>
      simp only [hstore] at h
      have hlive : (k.status = .active ∨ k.status = .rotating) ∧
          (if k.expiresAt.any (fun expiresAt ↦ decide (expiresAt < now)) then
            .error authDenied else .ok k) = (.ok key : Except GatewayError ServiceAccountKey) := by
        cases hstatus : k.status <;> simp_all
      obtain ⟨hstatus, hexpiry⟩ := hlive
      split_ifs at hexpiry with hany
      cases hexpiry
      refine ⟨rfl, hstatus, fun expiresAt hmem ↦ ?_⟩
      simpa [Option.mem_def.mp hmem] using hany

/-! ## States and operations -/

/-- A request that was let through, with the identity it was given. -/
structure Acceptance where
  request : Request
  context : AuthContext

structure PlaneState where
  app : AppState
  nonces : Store String String
  /-- Every row that the table of keys has held. -/
  records : List ServiceAccountKey
  accepted : List Acceptance

def AppState.keyRows (app : AppState) : List ServiceAccountKey :=
  app.db.elim [] fun db ↦ db.keys.rows

namespace PlaneState

def start (app : AppState) (nonces : Store String String) : PlaneState :=
  ⟨app, nonces, app.keyRows, []⟩

def withApp (s : PlaneState) (app : AppState) : PlaneState :=
  { s with app, records := app.keyRows ++ s.records }

end PlaneState

/-- A request, and what it meets besides the state of the gateway. -/
structure DataRequest where
  request : Request
  clock : ClockReadings
  /-- The record that the key store finds, in whichever tier. -/
  found : Option ServiceAccountKey
  databaseFailure : Option StorageError
  redis : Option RedisConnection

/-- `KeyStore::get_by_key_id` over all tiers: a record that was stored under the
identifier at some time. -/
def PlaneState.keyStore (s : PlaneState) (found : Option ServiceAccountKey) (keyId : String) :
    Except GatewayError ServiceAccountKey :=
  match found.filter fun key ↦ decide (key ∈ s.records ∧ key.keyId = keyId) with
  | some key => .ok key
  | none => .error (.auth "unknown_key" s!"key '{keyId}' not found")

theorem PlaneState.keyStore_eq_ok {s : PlaneState} {found : Option ServiceAccountKey}
    {keyId : String} {key : ServiceAccountKey} (h : s.keyStore found keyId = .ok key) :
    key ∈ s.records ∧ key.keyId = keyId := by
  unfold PlaneState.keyStore at h
  split at h
  · next key' hfilter =>
    cases h
    exact of_decide_eq_true (Option.filter_eq_some_iff.mp hfilter).2
  · cases h

def PlaneState.backend (s : PlaneState) (r : DataRequest) : Backend where
  keyStore := some (s.keyStore r.found)
  db := s.app.db.map (accountLookup r.databaseFailure)
  redis := r.redis

inductive PlaneOp where
  | gateway (op : GatewayOp)
  | authenticate (r : DataRequest)
  | updateLastUsed (id : KeyId) (now : ℕ)

section Step

variable (P : Primitives) (skewSecs : ℕ)

def PlaneState.authenticate (s : PlaneState) (r : DataRequest) :
    Except GatewayError AuthContext × Store String String :=
  authMiddleware P skewSecs (s.backend r) r.clock s.nonces r.request

def planeStep (s : PlaneState) : PlaneOp → Option PlaneState
  | .gateway op => (gatewayStep P s.app op).map s.withApp
  | .authenticate r =>
      let answer := s.authenticate P skewSecs r
      some { s with
        nonces := answer.2
        accepted := match answer.1 with
          | .ok context => ⟨r.request, context⟩ :: s.accepted
          | .error _ => s.accepted }
  | .updateLastUsed id now => some (s.withApp
      { s.app with db := s.app.db.map fun db ↦ KeyRepo.updateLastUsed db id now })

variable {P skewSecs}

/-- A request that is let through was checked against a record that the table of keys
has held, and against the current row of the account that owns it. -/
theorem PlaneState.authenticate_eq_ok {s : PlaneState} {r : DataRequest} {ctx : AuthContext}
    (h : (s.authenticate P skewSecs r).1 = .ok ctx) :
    ∃ (v : Verified) (key : ServiceAccountKey) (publicKey : P.VerifyingKey) (db : Database),
      v.Passed P skewSecs (s.backend r) r.clock r.request key publicKey ∧
      ctx = v.authContext ∧ s.app.db = some db ∧ key ∈ s.records ∧
      key.keyId = v.headers.keyId ∧
      ServiceAccountRepo.getWithTenantStatus db key.serviceAccountId = .ok v.serviceAccount := by
  obtain ⟨v, hv, _, _, hctx⟩ := authMiddleware_eq_ok P h
  obtain ⟨key, publicKey, hpassed⟩ := Verified.passed_of_verifyRequest P hv
  obtain ⟨keyStore, hstore, hkey⟩ := hpassed.keyFound
  obtain ⟨lookup, hlookup, hsa⟩ := hpassed.owned
  cases hstore
  obtain ⟨hmem, hkeyId⟩ := PlaneState.keyStore_eq_ok (verifyKey_eq_ok hkey).1
  cases hdb : s.app.db with
  | none => simp [Backend.requireDb, PlaneState.backend, hdb] at hlookup
  | some db =>
      simp only [Backend.requireDb, PlaneState.backend, hdb, Option.map_some,
        Except.ok.injEq] at hlookup
      subst hlookup
      exact ⟨v, key, publicKey, db, hpassed, hctx, rfl, hmem, hkeyId,
        accountLookup_eq_ok (verifyServiceAccount_eq_ok hsa).1⟩

/-! ## Invariants of the database -/

theorem AppState.Satisfies.planeStep {inv : Database → Prop} {s t : PlaneState} {op : PlaneOp}
    (hs : s.app.Satisfies inv) (hstep : planeStep P skewSecs s op = some t)
    (hcommitted : ∀ ctx now request db db', op = .gateway (.admin ctx now request) →
      s.app.db = some db → inv db → Committed P now db request db' → inv db')
    (htouched : ∀ db id now, inv db → inv (KeyRepo.updateLastUsed db id now)) :
    t.app.Satisfies inv := by
  cases op with
  | gateway op =>
      obtain ⟨app, happ, rfl⟩ := Option.map_eq_some_iff.mp hstep
      refine AppState.Satisfies.step hs happ ?_
      rintro ctx now request db db' rfl hdb hinv hc
      exact hcommitted ctx now request db db' rfl hdb hinv hc
  | authenticate r =>
      cases hstep
      exact hs
  | updateLastUsed id now =>
      cases hstep
      intro db hdb
      obtain ⟨db₀, hdb₀, rfl⟩ := Option.map_eq_some_iff.mp hdb
      exact htouched db₀ id now (hs db₀ hdb₀)

/-! ## Keys stay on record -/

/-- Every record that a cache may hold belongs to a key that is still in the table. -/
def PlaneState.Recorded (s : PlaneState) : Prop :=
  ∀ k ∈ s.records, ∃ r ∈ s.app.keyRows, k.SameCredential r

theorem PlaneState.recorded_start (app : AppState) (nonces : Store String String) :
    (PlaneState.start app nonces).Recorded := fun k hk ↦ ⟨k, hk, .refl k⟩

theorem PlaneState.Recorded.withApp {s : PlaneState} {app : AppState} (hs : s.Recorded)
    (hstays : ∀ k : ServiceAccountKey, (∃ r ∈ s.app.keyRows, k.SameCredential r) →
      ∃ r ∈ app.keyRows, k.SameCredential r) : (s.withApp app).Recorded := by
  intro k hk
  rcases List.mem_append.mp hk with hk | hk
  · exact ⟨k, hk, .refl k⟩
  · exact hstays k (hs k hk)

theorem AppState.keyRows_eq {app : AppState} {db : Database} (h : app.db = some db) :
    app.keyRows = db.keys.rows := by
  simp [AppState.keyRows, h]

theorem PlaneState.Recorded.step {s t : PlaneState} {op : PlaneOp} (hs : s.Recorded)
    (hstep : planeStep P skewSecs s op = some t) : t.Recorded := by
  cases op with
  | gateway op =>
      obtain ⟨app, happ, rfl⟩ := Option.map_eq_some_iff.mp hstep
      refine hs.withApp fun k hk ↦ ?_
      rcases gatewayStep_db happ with hsame | ⟨ctx, now, request, db, db', _, hdb, hdb', hc⟩
      · rwa [AppState.keyRows, hsame]
      · rw [AppState.keyRows_eq hdb] at hk
        rw [AppState.keyRows_eq hdb']
        exact hc.key_stays hk
  | authenticate r =>
      cases hstep
      exact hs
  | updateLastUsed id now =>
      cases hstep
      refine hs.withApp fun k hk ↦ ?_
      cases hdb : s.app.db with
      | none => simp [AppState.keyRows, hdb] at hk
      | some db =>
          rw [AppState.keyRows_eq hdb] at hk
          exact Table.exists_map_ite (fun _ hr ↦ ⟨hr.1, hr.2, hr.3⟩) hk

end Step

/-! ## A sample installation -/

/-- One tenant with two service accounts. -/
def sampleAccounts : List PlaneOp :=
  [.gateway (.admin sampleAdmin 0 (.createTenant ⟨"Acme Corp", "acme-corp", none⟩ ⟨⟨1⟩⟩)),
    .gateway (.admin sampleAdmin 1
      (.createServiceAccount ⟨⟨⟨1⟩⟩, "Batch jobs", "batch-jobs", "prod", none⟩ ⟨⟨2⟩⟩)),
    .gateway (.admin sampleAdmin 2
      (.createServiceAccount ⟨⟨⟨1⟩⟩, "Reports", "reports", "prod", none⟩ ⟨⟨3⟩⟩))]

/-- The sample public key is registered for an account. -/
def registerSampleKey (sa : ServiceAccountId) (keyId : String) (id : KeyId) : PlaneOp :=
  .gateway (.admin sampleAdmin 3 (.registerKey sa ⟨keyId, samplePublicKeyPem, none⟩ id))

def sampleDataRequest (sa : ServiceAccountId) (keyId : String) (id : KeyId) (now : Instant) :
    DataRequest where
  request := sampleSignedRequest sa keyId
  clock := .at now
  found := some (sampleRecord sa keyId id)
  databaseFailure := none
  redis := some .working

/-! ## Deleted tenants -/

/-- No lookup of an account lets a caller of the tenant through. -/
structure Database.Excludes (P : Primitives) (skewSecs : ℕ) (db : Database) (id : TenantId) :
    Prop where
  rejected : ∀ key, db.AccountOf key.serviceAccountId id →
    verifyServiceAccount (ServiceAccountRepo.getWithTenantStatus db) key = .error authDenied
  verified : ∀ key sa, verifyServiceAccount (ServiceAccountRepo.getWithTenantStatus db) key =
    .ok sa → sa.tenantId ≠ id
  accepted : ∀ failure backend clock nonces request ctx,
    backend.db = some (accountLookup failure db) →
    (authMiddleware P skewSecs backend clock nonces request).1 = .ok ctx →
    ctx.tenantId ≠ id ∧ ¬db.AccountOf ctx.serviceAccountId id

theorem Database.TenantDeleted.status {db : Database} {id : TenantId} (h : db.TenantDeleted id)
    {t : Tenant} (ht : t ∈ db.tenants.rows) (hid : t.id = id) : t.status = .deleted := by
  obtain ⟨t₀, ht₀, hid₀, hstatus⟩ := h
  rw [db.tenants.eq_of_key_eq ht ht₀ (hid.trans hid₀.symm)]
  exact hstatus

theorem Database.TenantDeleted.verified {db : Database} {id : TenantId} (h : db.TenantDeleted id)
    {key : ServiceAccountKey} {sa : ServiceAccountWithTenantStatus}
    (hsa : verifyServiceAccount (ServiceAccountRepo.getWithTenantStatus db) key = .ok sa) :
    sa.id = key.serviceAccountId ∧ ¬db.AccountOf sa.id id ∧ sa.tenantId ≠ id := by
  obtain ⟨hlookup, _, hactive⟩ := verifyServiceAccount_eq_ok hsa
  obtain ⟨⟨hmem, hid⟩, t, ht, htid, htstatus⟩ :=
    ServiceAccountRepo.getWithTenantStatus_eq_ok hlookup
  have hother : sa.tenantId ≠ id := by
    intro hsame
    rw [← htstatus, h.status ht (htid.trans hsame)] at hactive
    cases hactive
  refine ⟨hid, ?_, hother⟩
  rintro ⟨a, ha, hida, htenant⟩
  rw [db.serviceAccounts.eq_of_key_eq ha hmem hida] at htenant
  exact hother htenant

theorem verifyServiceAccount_cases
    (lookup : ServiceAccountId → Except StorageError ServiceAccountWithTenantStatus)
    (key : ServiceAccountKey) :
    verifyServiceAccount lookup key = .error authDenied ∨
      ∃ sa, verifyServiceAccount lookup key = .ok sa := by
  unfold verifyServiceAccount
  split
  · exact Or.inl rfl
  · split_ifs
    · exact Or.inl rfl
    · exact Or.inl rfl
    · exact Or.inr ⟨_, rfl⟩

theorem Database.TenantDeleted.excludes {P : Primitives} {skewSecs : ℕ} {db : Database}
    {id : TenantId} (h : db.TenantDeleted id) : db.Excludes P skewSecs id where
  rejected := by
    intro key haccount
    rcases verifyServiceAccount_cases (ServiceAccountRepo.getWithTenantStatus db) key with
      hdenied | ⟨sa, hsa⟩
    · exact hdenied
    · obtain ⟨hid, hnot, _⟩ := h.verified hsa
      exact absurd (hid ▸ haccount) hnot
  verified := fun key sa hsa ↦ (h.verified hsa).2.2
  accepted := by
    intro failure backend clock nonces request ctx hbackend hok
    obtain ⟨v, hv, _, _, rfl⟩ := authMiddleware_eq_ok P hok
    obtain ⟨key, _, hpassed⟩ := Verified.passed_of_verifyRequest P hv
    obtain ⟨lookup, hlookup, hsa⟩ := hpassed.owned
    simp only [Backend.requireDb, hbackend, Except.ok.injEq] at hlookup
    subst hlookup
    have hfound : verifyServiceAccount (ServiceAccountRepo.getWithTenantStatus db) key =
        .ok v.serviceAccount := by
      cases failure with
      | none => exact hsa
      | some e => cases hsa
    obtain ⟨_, hnot, hother⟩ := h.verified hfound
    exact ⟨hother, hnot⟩

theorem Committed.deletes {P : Primitives} {now : ℕ} {db db' : Database} {id : TenantId}
    (h : Committed P now db (.deleteTenant id) db') : db'.TenantDeleted id := by
  cases h with
  | deleteTenant htenant =>
      obtain ⟨t, ht, hid⟩ := htenant
      have hselected : decide (t.id = id) = true := decide_eq_true hid
      exact ⟨t.delete, Table.mem_map_ite.mpr (Or.inr ⟨t, ht, hselected, rfl⟩), hid, rfl⟩

/-- Once a deletion of the tenant has been committed, no account of the tenant is ever
authenticated again, whatever requests follow; and the accounts that it had then are its
accounts still. -/
theorem tenant_deletion_is_final {P : Primitives} {skewSecs : ℕ} {s u : PlaneState}
    {ctx : AdminContext} {now : ℕ} {id : TenantId} {app : AppState} {ops : List PlaneOp}
    (hdelete : handle P ctx now s.app (.deleteTenant id) = .ok app)
    (hrun : run (planeStep P skewSecs) (s.withApp app) ops = some u) :
    ∀ db ∈ u.app.db, db.Excludes P skewSecs id ∧
      ∀ db₀ ∈ s.app.db, ∀ sa, db₀.AccountOf sa id → db.AccountOf sa id := by
  obtain ⟨db₀, db₁, hdb₀, hdb₁, hc⟩ := committed_of_handle hdelete
  let inv : Database → Prop := fun db ↦
    db.TenantDeleted id ∧ ∀ sa, db₀.AccountOf sa id → db.AccountOf sa id
  have hinit : (s.withApp app).app.Satisfies inv := by
    intro db hdb
    cases hdb₁.symm.trans hdb
    exact ⟨hc.deletes, fun sa hsa ↦ hc.accountOf hsa⟩
  have hstep : ∀ (s : PlaneState) op t, s.app.Satisfies inv → planeStep P skewSecs s op = some t →
      t.app.Satisfies inv := by
    intro s op t hs ht
    refine hs.planeStep ht ?_ ?_
    · intro _ _ _ _ _ _ _ hinv hc
      exact ⟨hc.tenantDeleted hinv.1, fun sa hsa ↦ hc.accountOf (hinv.2 sa hsa)⟩
    · exact fun _ _ _ hinv ↦ hinv
  have hfinal : u.app.Satisfies inv := run_preserves hstep hrun hinit
  intro db hdb
  refine ⟨(hfinal db hdb).1.excludes, fun db' hdb' ↦ ?_⟩
  cases hdb₀.symm.trans hdb'
  exact (hfinal db hdb).2

/-- The account of a deleted tenant is activated again and gets a key, to no avail. -/
theorem tenant_deletion_is_final_activated :
    ∃ s app u db, run (planeStep .sample 300) (.start .initial empty) sampleAccounts = some s ∧
      handle .sample sampleAdmin 4 s.app (.deleteTenant ⟨⟨1⟩⟩) = .ok app ∧
      run (planeStep .sample 300) (s.withApp app)
        [.gateway (.admin sampleAdmin 5 (.activateServiceAccount ⟨⟨2⟩⟩ ⟨⟨1⟩⟩)),
          registerSampleKey ⟨⟨2⟩⟩ "key-1" ⟨⟨4⟩⟩] = some u ∧ u.app.db = some db ∧
      (∃ a ∈ db.serviceAccounts.rows, a.id = ⟨⟨2⟩⟩ ∧ a.status = .active) ∧
      db.keys.rows ≠ [] ∧ db.Excludes .sample 300 ⟨⟨1⟩⟩ := by
  have heval : ((run (planeStep .sample 300) (.start .initial empty) sampleAccounts).bind fun s ↦
      (handle .sample sampleAdmin 4 s.app (.deleteTenant ⟨⟨1⟩⟩)).toOption.bind fun app ↦
      (run (planeStep .sample 300) (s.withApp app)
        [.gateway (.admin sampleAdmin 5 (.activateServiceAccount ⟨⟨2⟩⟩ ⟨⟨1⟩⟩)),
          registerSampleKey ⟨⟨2⟩⟩ "key-1" ⟨⟨4⟩⟩]).bind fun u ↦ u.app.db.map fun db ↦
      decide ((∃ a ∈ db.serviceAccounts.rows, a.id = ⟨⟨2⟩⟩ ∧ a.status = .active) ∧
        db.keys.rows ≠ [])) = some true := by
    decide +kernel
  obtain ⟨s, hrun, heval⟩ := Option.bind_eq_some_iff.mp heval
  obtain ⟨app, hdelete, heval⟩ := Option.bind_eq_some_iff.mp heval
  obtain ⟨u, hlater, heval⟩ := Option.bind_eq_some_iff.mp heval
  obtain ⟨db, hdb, heval⟩ := Option.map_eq_some_iff.mp heval
  have hok := eq_ok_of_toOption hdelete
  obtain ⟨hactive, hkeys⟩ := of_decide_eq_true heval
  exact ⟨s, app, u, db, hrun, hok, hlater, hdb, hactive, hkeys,
    (tenant_deletion_is_final hok hlater db hdb).1⟩

end SmartGate
