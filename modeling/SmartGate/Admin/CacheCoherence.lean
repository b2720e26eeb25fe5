import SmartGate.Admin.Handlers

/-!
# The cached evaluation agrees with the uncached one

Three facts hold in every state that a sequential run of the gateway reaches: no service
account has a default policy, since no handler sets one; every stored policy passed the
checks of the admin API and therefore merges; and every entry of the policy cache
decides like the policies currently bound to its account, since each handler drops the
entries that its statement may have made stale.  The error codes that only the cached
path produces are therefore never seen.
-/

namespace SmartGate

open Cache Transition

/-! ## The invariant -/

/-- The policies of every account can be merged, and bindings are all there is to them. -/
structure Database.Evaluable (db : Database) : Prop where
  noDefault : ∀ a ∈ db.serviceAccounts.rows, a.defaultPolicyId = none
  mergeable : ∀ p ∈ db.policies.rows, p.Mergeable

/-- A merged policy decides like the policies bound to the account. -/
def Database.Agrees (db : Database) (sa : ServiceAccountId) (e : EvaluatedPolicy) : Prop :=
  e.SameDecision (mergedPolicy .stored (db.boundPolicies sa))

def AppState.Coherent (s : AppState) : Prop :=
  ∃ db cache, s = ⟨some db, some cache⟩ ∧ db.Evaluable ∧ Fresh db.Agrees cache

theorem AppState.coherent_initial : AppState.initial.Coherent := by
  refine ⟨Database.empty, PolicyCache.empty, rfl, ⟨?_, ?_⟩, ?_⟩
  · intro a ha
    cases ha
  · intro p hp
    cases hp
  · intro sa e he
    cases he

/-! ## Evaluation in a coherent state -/

theorem Database.Evaluable.default_eq_none {db : Database} (h : db.Evaluable) {auth : AuthContext}
    (hcurrent : auth.CurrentIn db) : auth.defaultPolicyId = none := by
  rw [hcurrent]
  cases hget : db.serviceAccounts.get auth.serviceAccountId with
  | none => rfl
  | some a => exact h.noDefault a (Table.get_eq_some.mp hget).1

theorem Database.Evaluable.loadAndMerge {db : Database} (h : db.Evaluable) {auth : AuthContext}
    (hcurrent : auth.CurrentIn db) (hash : Enumeration String) (order : Enumeration Policy) :
    ∃ e, loadAndMerge hash (PolicyRepo.source order db) auth = .ok e ∧
      db.Agrees auth.serviceAccountId e := by
  let policies := order.list (db.boundPolicies auth.serviceAccountId)
  have hload : loadPolicies (PolicyRepo.source order db) auth = .ok policies := by
    simp only [loadPolicies, PolicyRepo.source, PolicyRepo.listPoliciesForServiceAccount,
      h.default_eq_none hcurrent, PolicyRepo.addDefault_none, policies]
  have hmergeable : ∀ p ∈ policies, p.Mergeable := by
    intro p hp
    exact h.mergeable p (db.boundPolicies_subset _ p (order.mem_list.mp hp))
  refine ⟨mergedPolicy hash policies, ?_, ?_⟩
  · rw [SmartGate.loadAndMerge, hload]
    exact (mergePolicies_validates hash policies).ok hmergeable
  · exact mergedPolicy_sameDecision hash .stored fun p ↦ order.mem_list

/-- A lookup in a fresh cache finds or loads a policy that agrees with the database, and
leaves the cache fresh. -/
theorem Database.Evaluable.getOrEvaluate {db : Database} (h : db.Evaluable) {cache : PolicyCache}
    (hfresh : Fresh db.Agrees cache) {auth : AuthContext} (hcurrent : auth.CurrentIn db)
    (hash : Enumeration String) (order : Enumeration Policy) :
    ∃ e cache', cache.getOrEvaluate hash (PolicyRepo.source order db) auth = (.ok e, cache') ∧
      db.Agrees auth.serviceAccountId e ∧ Fresh db.Agrees cache' := by
  unfold PolicyCache.getOrEvaluate
  cases hentry : cache auth.serviceAccountId with
  | some e => exact ⟨e, cache, rfl, hfresh _ e hentry, hfresh⟩
  | none =>
      obtain ⟨e, hload, hagrees⟩ := h.loadAndMerge hcurrent hash order
      rw [hload]
      exact ⟨e, _, rfl, hagrees, hfresh.fill hagrees⟩

theorem map_tokenCheck_decidePolicy (e : EvaluatedPolicy) (model : String)
    (features : RequestFeatures) (estimated requested : Option ℕ) :
    (decidePolicy e model features estimated requested).map PolicyDecision.tokenCheck =
      applyPolicyChecks e model features estimated requested := by
  unfold decidePolicy
  cases applyPolicyChecks e model features estimated requested <;> rfl

/-! ## Statements -/

/-- A statement keeps the database evaluable, and an entry that `invalidate` leaves in
the cache belongs to an account whose policies the statement did not change. -/
def SafeStatement {α : Type} (statement : Database → Except StorageError (α × Database))
    (invalidate : PolicyCache → PolicyCache) : Prop :=
  ∀ db answer db', db.Evaluable → statement db = .ok (answer, db') →
    db'.Evaluable ∧ ∀ cache sa e, invalidate cache sa = some e →
      cache sa = some e ∧ db'.boundPolicies sa = db.boundPolicies sa

def LeavesCoherent {α : Type} (x : Except GatewayError (α × AppState)) : Prop :=
  ∀ answer s', x = .ok (answer, s') → s'.Coherent

theorem AppState.Coherent.execute {α : Type} {s : AppState} (h : s.Coherent)
    {statement : Database → Except StorageError (α × Database)}
    {mapError : StorageError → GatewayError} {invalidate : PolicyCache → PolicyCache}
    (hsafe : SafeStatement statement invalidate) :
    LeavesCoherent (s.execute statement mapError invalidate) := by
  intro answer s' hok
  obtain ⟨db, cache, rfl, heval, hfresh⟩ := h
  obtain ⟨_, db', hdb, hstatement, rfl⟩ := AppState.execute_eq_ok hok
  cases hdb
  obtain ⟨heval', hkept⟩ := hsafe db answer db' heval hstatement
  refine ⟨db', invalidate cache, rfl, heval', hfresh.update fun sa e he ↦ ?_⟩
  obtain ⟨hold, hbound⟩ := hkept cache sa e he
  refine ⟨hold, fun hagrees ↦ ?_⟩
  rw [Database.Agrees, hbound]
  exact hagrees

theorem Database.boundPolicies_congr {db db' : Database} {sa : ServiceAccountId}
    (hpolicies : db'.policies = db.policies) (hbindings : db'.bindingsOf sa = db.bindingsOf sa) :
    db'.boundPolicies sa = db.boundPolicies sa := by
  rw [Database.boundPolicies, hbindings, hpolicies, Database.boundPolicies]

section Statements

variable {α : Type} {statement : Database → Except StorageError (α × Database)}

/-- A statement that touches neither policies nor bindings needs no invalidation. -/
theorem safeStatement_of_frame
    (h : ∀ db answer db', statement db = .ok (answer, db') →
      db'.policies = db.policies ∧ db'.bindings = db.bindings ∧
        ((∀ a ∈ db.serviceAccounts.rows, a.defaultPolicyId = none) →
          ∀ a ∈ db'.serviceAccounts.rows, a.defaultPolicyId = none)) :
    SafeStatement statement fun cache ↦ cache := by
  intro db answer db' heval hok
  obtain ⟨hpolicies, hbindings, hdefault⟩ := h db answer db' hok
  refine ⟨⟨hdefault heval.noDefault, ?_⟩, fun cache sa e he ↦ ⟨he, ?_⟩⟩
  · rw [hpolicies]
    exact heval.mergeable
  · apply Database.boundPolicies_congr hpolicies
    rw [Database.bindingsOf, hbindings, Database.bindingsOf]

theorem safeStatement_of_binding {sa : ServiceAccountId}
    (h : ∀ db answer db', statement db = .ok (answer, db') →
      db'.policies = db.policies ∧ db'.serviceAccounts = db.serviceAccounts ∧
        ∀ sa', sa' ≠ sa → db'.bindingsOf sa' = db.bindingsOf sa') :
    SafeStatement statement (PolicyCache.invalidate sa) := by
  intro db answer db' heval hok
  obtain ⟨hpolicies, haccounts, hbindings⟩ := h db answer db' hok
  refine ⟨⟨?_, ?_⟩, fun cache sa' e he ↦ ?_⟩
  · rw [haccounts]
    exact heval.noDefault
  · rw [hpolicies]
    exact heval.mergeable
  · have hne : sa' ≠ sa := by
      rintro rfl
      rw [PolicyCache.invalidate, setEntry_same] at he
      cases he
    rw [PolicyCache.invalidate, setEntry_ne cache hne] at he
    exact ⟨he, Database.boundPolicies_congr hpolicies (hbindings sa' hne)⟩

/-- After `invalidate_all` nothing is left to be stale. -/
theorem safeStatement_of_evaluable
    (h : ∀ db answer db', db.Evaluable → statement db = .ok (answer, db') → db'.Evaluable) :
    SafeStatement statement PolicyCache.invalidateAll := by
  intro db answer db' heval hok
  refine ⟨h db answer db' heval hok, fun cache sa e he ↦ ?_⟩
  cases he

end Statements

theorem noDefault_updateServiceAccounts {db : Database} {p : ServiceAccount → Bool}
    {f : ServiceAccount → ServiceAccount} (hf : Database.KeepsAccount f)
    (h : ∀ a ∈ db.serviceAccounts.rows, a.defaultPolicyId = none) :
    ∀ a ∈ (db.updateServiceAccounts p f hf).serviceAccounts.rows, a.defaultPolicyId = none := by
  intro a ha
  rcases Table.mem_map_ite.mp ha with ⟨hold, _⟩ | ⟨a₀, ha₀, _, rfl⟩
  · exact h a hold
  · rw [hf.defaultPolicyId]
    exact h a₀ ha₀

theorem TenantRepo.safe_create (input : CreateTenant) (now : ℕ) :
    SafeStatement (fun db ↦ TenantRepo.create db input now) fun cache ↦ cache := by
  apply safeStatement_of_frame
  intro db answer db' hok
  obtain ⟨_, _, _, rfl⟩ := TenantRepo.create_eq_ok hok
  exact ⟨rfl, rfl, fun h ↦ h⟩

theorem TenantRepo.safe_update (id : TenantId) (input : UpdateTenant) :
    SafeStatement (fun db ↦ TenantRepo.update db id input) fun cache ↦ cache := by
  apply safeStatement_of_frame
  intro db answer db' hok
  obtain ⟨_, rfl⟩ := returning_eq_ok hok
  exact ⟨rfl, rfl, fun h ↦ h⟩

theorem TenantRepo.safe_softDelete (id : TenantId) :
    SafeStatement (fun db ↦ TenantRepo.softDelete db id) fun cache ↦ cache := by
  apply safeStatement_of_frame
  intro db answer db' hok
  obtain ⟨_, rfl⟩ := returning_eq_ok hok
  exact ⟨rfl, rfl, noDefault_updateServiceAccounts (ServiceAccount.keepsAccount_setStatus _)⟩

theorem ServiceAccountRepo.safe_create {input : CreateServiceAccount}
    (hnone : input.defaultPolicyId = none) (now : ℕ) :
    SafeStatement (fun db ↦ ServiceAccountRepo.create db input now) fun cache ↦ cache := by
  apply safeStatement_of_frame
  intro db answer db' hok
  obtain ⟨_, _, _, _, _, rfl⟩ := ServiceAccountRepo.create_eq_ok hok
  refine ⟨rfl, rfl, fun h a ha ↦ ?_⟩
  rcases List.mem_cons.mp ha with rfl | ha
  · exact hnone
  · exact h a ha

theorem ServiceAccountRepo.safe_updateScoped (tenantId : TenantId) (id : ServiceAccountId)
    {f : ServiceAccount → ServiceAccount} (hf : Database.KeepsAccount f) :
    SafeStatement (fun db ↦ ServiceAccountRepo.updateScoped db tenantId id f hf)
      fun cache ↦ cache := by
  apply safeStatement_of_frame
  intro db answer db' hok
  obtain ⟨_, rfl⟩ := returning_eq_ok hok
  exact ⟨rfl, rfl, noDefault_updateServiceAccounts hf⟩

theorem KeyRepo.safe_registerKey (input : RegisterKey) (id : KeyId) (now : ℕ) :
    SafeStatement (fun db ↦ KeyRepo.registerKey db input id now) fun cache ↦ cache := by
  apply safeStatement_of_frame
  intro db answer db' hok
  obtain ⟨_, _, _, _, rfl⟩ := KeyRepo.registerKey_eq_ok hok
  exact ⟨rfl, rfl, fun h ↦ h⟩

theorem KeyRepo.safe_revokeScoped (id : KeyId) (sa : ServiceAccountId) (now : ℕ) :
    SafeStatement (fun db ↦ KeyRepo.revokeScoped db id sa now) fun cache ↦ cache := by
  apply safeStatement_of_frame
  intro db answer db' hok
  obtain ⟨_, rfl⟩ := KeyRepo.revokeScoped_eq_ok hok
  exact ⟨rfl, rfl, fun h ↦ h⟩

/-! ## Checked policies merge -/

structure CheckedFields (allowedModelsJson deniedModelsJson : Option Json)
    (maxInputTokens maxOutputTokens rpmLimit concurrencyLimit : Option ℤ) : Prop where
  allowed : ∀ v ∈ allowedModelsJson, v.toStrings.isSome
  denied : ∀ v ∈ deniedModelsJson, v.toStrings.isSome
  maxInputTokens : PositiveLimit maxInputTokens
  maxOutputTokens : PositiveLimit maxOutputTokens
  rpmLimit : PositiveLimit rpmLimit
  concurrencyLimit : PositiveLimit concurrencyLimit

theorem positiveLimit_of_checkSome {value : Option ℤ} {max : ℤ} {field : String}
    (h : checkSome value (fun v ↦ validateUpTo max v field) = .ok ()) : PositiveLimit value := by
  intro n hn
  exact (validateUpTo_eq_ok.mp (checkSome_eq_ok.mp h n hn)).1

theorem decodes_of_checkSome {value : Option Json} {field : String}
    (h : checkSome value (fun v ↦ validateModelsJson v field) = .ok ()) :
    ∀ v ∈ value, v.toStrings.isSome := by
  intro v hv
  exact toStrings_isSome_of_validateModelsJson (checkSome_eq_ok.mp h v hv)

theorem CheckedFields.of_validate {allowed denied : Option Json}
    {maxInput maxOutput rpm concurrency : Option ℤ}
    (h : validatePolicyFields allowed denied maxInput maxOutput rpm concurrency = .ok ()) :
    CheckedFields allowed denied maxInput maxOutput rpm concurrency := by
  obtain ⟨_, hallowed, h⟩ := bind_eq_ok.mp h
  obtain ⟨_, hdenied, h⟩ := bind_eq_ok.mp h
  obtain ⟨_, hinput, h⟩ := bind_eq_ok.mp h
  obtain ⟨_, houtput, h⟩ := bind_eq_ok.mp h
  obtain ⟨_, hrpm, hconcurrency⟩ := bind_eq_ok.mp h
  exact {
    allowed := decodes_of_checkSome hallowed
    denied := decodes_of_checkSome hdenied
    maxInputTokens := positiveLimit_of_checkSome hinput
    maxOutputTokens := positiveLimit_of_checkSome houtput
    rpmLimit := positiveLimit_of_checkSome hrpm
    concurrencyLimit := positiveLimit_of_checkSome hconcurrency }

theorem isSome_toStrings_getD {value : Option Json} {stored : Json}
    (h : ∀ v ∈ value, v.toStrings.isSome) (hstored : stored.toStrings.isSome) :
    (value.getD stored).toStrings.isSome := by
  cases value with
  | none => exact hstored
  | some v => exact h v rfl

theorem PositiveLimit.or {value stored : Option ℤ} (h : PositiveLimit value)
    (hstored : PositiveLimit stored) : PositiveLimit (value.or stored) := by
  cases value with
  | none => exact hstored
  | some v => exact h

theorem CreatePolicyRequest.mergeable_row {body : CreatePolicyRequest}
    (h : CheckedFields body.allowedModelsJson body.deniedModelsJson body.maxInputTokens
      body.maxOutputTokens body.rpmLimit body.concurrencyLimit) (id : PolicyId) (now : ℕ) :
    ((body.input id).row now).Mergeable where
  allowed := isSome_toStrings_getD h.allowed rfl
  denied := isSome_toStrings_getD h.denied rfl
  maxInputTokens := h.maxInputTokens
  maxOutputTokens := h.maxOutputTokens
  rpmLimit := h.rpmLimit
  concurrencyLimit := h.concurrencyLimit

theorem UpdatePolicy.mergeable_apply {input : UpdatePolicy}
    (h : CheckedFields input.allowedModelsJson input.deniedModelsJson input.maxInputTokens
      input.maxOutputTokens input.rpmLimit input.concurrencyLimit) {p : Policy}
    (hp : p.Mergeable) : (input.apply p).Mergeable where
  allowed := isSome_toStrings_getD h.allowed hp.allowed
  denied := isSome_toStrings_getD h.denied hp.denied
  maxInputTokens := h.maxInputTokens.or hp.maxInputTokens
  maxOutputTokens := h.maxOutputTokens.or hp.maxOutputTokens
  rpmLimit := h.rpmLimit.or hp.rpmLimit
  concurrencyLimit := h.concurrencyLimit.or hp.concurrencyLimit

theorem PolicyRepo.safe_create {input : CreatePolicy} {now : ℕ}
    (hrow : (input.row now).Mergeable) :
    SafeStatement (fun db ↦ PolicyRepo.create db input now) PolicyCache.invalidateAll := by
  apply safeStatement_of_evaluable
  intro db answer db' heval hok
  obtain ⟨_, _, _, rfl⟩ := PolicyRepo.create_eq_ok hok
  refine ⟨heval.noDefault, fun p hp ↦ ?_⟩
  rcases List.mem_cons.mp hp with rfl | hp
  · exact hrow
  · exact heval.mergeable p hp

theorem PolicyRepo.safe_update (tenantId : TenantId) (id : PolicyId) {input : UpdatePolicy}
    (happly : ∀ p : Policy, p.Mergeable → (input.apply p).Mergeable) :
    SafeStatement (fun db ↦ PolicyRepo.update db tenantId id input)
      PolicyCache.invalidateAll := by
  apply safeStatement_of_evaluable
  intro db answer db' heval hok
  obtain ⟨_, rfl⟩ := returning_eq_ok hok
  refine ⟨heval.noDefault, fun p hp ↦ ?_⟩
  rcases Table.mem_map_ite.mp hp with ⟨hold, _⟩ | ⟨p₀, hp₀, _, rfl⟩
  · exact heval.mergeable p hold
  · exact happly p₀ (heval.mergeable p₀ hp₀)

theorem PolicyRepo.safe_delete (tenantId : TenantId) (id : PolicyId) :
    SafeStatement (fun db ↦ (PolicyRepo.delete db tenantId id).map fun db' ↦ ((), db'))
      PolicyCache.invalidateAll := by
  apply safeStatement_of_evaluable
  intro db answer db' heval hok
  obtain ⟨_, hdelete, hpair⟩ := map_eq_ok.mp hok
  cases hpair
  obtain ⟨_, rfl⟩ := PolicyRepo.delete_eq_ok hdelete
  refine ⟨fun a ha ↦ ?_, fun p hp ↦ heval.mergeable p (Table.mem_deleteWhere.mp hp).1⟩
  rcases Table.mem_map_ite.mp ha with ⟨hold, _⟩ | ⟨a₀, _, _, rfl⟩
  · exact heval.noDefault a hold
  · rfl

theorem PolicyRepo.safe_createBinding (sa : ServiceAccountId) (policyId : PolicyId) (id : Uuid)
    (now : ℕ) :
    SafeStatement (fun db ↦ PolicyRepo.createBinding db sa policyId id now)
      (PolicyCache.invalidate sa) := by
  apply safeStatement_of_binding
  intro db answer db' hok
  obtain ⟨_, _, _, _, rfl⟩ := PolicyRepo.createBinding_eq_ok hok
  refine ⟨rfl, rfl, fun sa' hne ↦ ?_⟩
  exact List.filter_cons_of_neg (by simpa using hne.symm)

theorem PolicyRepo.safe_deleteBinding (sa : ServiceAccountId) (policyId : PolicyId) :
    SafeStatement (fun db ↦ (PolicyRepo.deleteBinding db sa policyId).map fun db' ↦ ((), db'))
      (PolicyCache.invalidate sa) := by
  apply safeStatement_of_binding
  intro db answer db' hok
  obtain ⟨_, hdelete, hpair⟩ := map_eq_ok.mp hok
  cases hpair
  obtain rfl := PolicyRepo.deleteBinding_eq_ok hdelete
  refine ⟨rfl, rfl, fun sa' hne ↦ ?_⟩
  unfold Database.bindingsOf Database.deleteBindings Table.deleteWhere
  rw [List.filter_filter]
  refine List.filter_congr fun b _ ↦ ?_
  by_cases hb : b.serviceAccountId = sa'
  · simp [hb, hne]
  · simp [hb]

/-! ## Runs -/

/-- Every handler of the admin API keeps the state coherent. -/
theorem AppState.Coherent.handle {P : Primitives} {ctx : AdminContext} {now : ℕ}
    {s s' : AppState} (hs : s.Coherent) {request : AdminRequest}
    (h : SmartGate.handle P ctx now s request = .ok s') : s'.Coherent := by
  cases request with
  | createTenant body id =>
      obtain ⟨t, h⟩ := answered_of_map h
      exact hs.execute (TenantRepo.safe_create _ now) t s' (createTenant_executed h)
  | updateTenant id body =>
      obtain ⟨t, h⟩ := answered_of_map h
      exact hs.execute (TenantRepo.safe_update id _) t s' (updateTenant_executed h)
  | deleteTenant id =>
      obtain ⟨t, h⟩ := answered_of_map h
      exact hs.execute (TenantRepo.safe_softDelete id) t s' (of_requireAdminRole h)
  | createServiceAccount body id =>
      obtain ⟨a, h⟩ := answered_of_map h
      obtain ⟨_, _, h⟩ := createServiceAccount_executed h
      exact hs.execute (ServiceAccountRepo.safe_create rfl now) a s' h
  | updateServiceAccount id tenantId body =>
      obtain ⟨a, h⟩ := answered_of_map h
      exact hs.execute (ServiceAccountRepo.safe_updateScoped tenantId id _) a s'
        (updateServiceAccount_executed h)
  | suspendServiceAccount id tenantId | activateServiceAccount id tenantId =>
      obtain ⟨a, h⟩ := answered_of_map h
      exact hs.execute (ServiceAccountRepo.safe_updateScoped tenantId id _) a s'
        (of_requireAdminRole h)
  | registerKey sa body id =>
      obtain ⟨key, h⟩ := answered_of_map h
      obtain ⟨_, _, h⟩ := registerKey_executed h
      exact hs.execute (KeyRepo.safe_registerKey _ id now) key s' h
  | revokeKey sa id =>
      obtain ⟨key, h⟩ := answered_of_map h
      exact hs.execute (KeyRepo.safe_revokeScoped id sa now) key s' (of_requireAdminRole h)
  | createPolicy body id =>
      obtain ⟨p, h⟩ := answered_of_map h
      obtain ⟨hfields, h⟩ := createPolicy_executed h
      have hchecked := CheckedFields.of_validate hfields
      exact hs.execute (PolicyRepo.safe_create (body.mergeable_row hchecked id now)) p s' h
  | updatePolicy id tenantId body =>
      obtain ⟨p, h⟩ := answered_of_map h
      obtain ⟨hfields, h⟩ := updatePolicy_executed h
      have hchecked := CheckedFields.of_validate hfields
      exact hs.execute (PolicyRepo.safe_update tenantId id fun _ hp ↦
        UpdatePolicy.mergeable_apply hchecked hp) p s' h
  | deletePolicy id tenantId =>
      obtain ⟨_, h⟩ := answered_of_map h
      exact hs.execute (PolicyRepo.safe_delete tenantId id) _ s' (of_requireAdminRole h)
  | createBinding sa policyId id =>
      obtain ⟨binding, h⟩ := answered_of_map h
      exact hs.execute (PolicyRepo.safe_createBinding sa policyId id now) binding s'
        (of_requireAdminRole h)
  | deleteBinding sa policyId =>
      obtain ⟨_, h⟩ := answered_of_map h
      exact hs.execute (PolicyRepo.safe_deleteBinding sa policyId) _ s' (of_requireAdminRole h)

theorem AppState.Coherent.step {P : Primitives} {s t : AppState} {op : GatewayOp}
    (hs : s.Coherent) (hstep : gatewayStep P s op = some t) : t.Coherent := by
  cases op with
  | admin ctx now request =>
      simp only [gatewayStep] at hstep
      split at hstep <;> cases hstep
      · next hok => exact hs.handle hok
      · exact hs
  | evict sa =>
      obtain ⟨db, cache, rfl, heval, hfresh⟩ := hs
      cases hstep
      exact ⟨db, _, rfl, heval, hfresh.evict sa⟩
  | evaluateCached order hash auth model features estimated requested =>
      obtain ⟨db, cache, rfl, heval, hfresh⟩ := hs
      simp only [gatewayStep, Option.bind_some] at hstep
      split_ifs at hstep with hcurrent
      cases hstep
      obtain ⟨e, cache', hget, _, hfresh'⟩ := heval.getOrEvaluate hfresh hcurrent hash order
      refine ⟨db, cache', ?_, heval, hfresh'⟩
      simp only [evaluateCached, hget]

/-- After any sequential run the cached evaluation answers every request like the
uncached one, for the row orders and hash orders of either. -/
theorem evaluateCached_agrees {P : Primitives} {ops : List GatewayOp} {s : AppState}
    (hrun : run (gatewayStep P) AppState.initial ops = some s) :
    ∃ db cache, s = ⟨some db, some cache⟩ ∧
      ∀ (auth : AuthContext), auth.CurrentIn db → ∀ order order' hash hash' model features
        estimated requested,
        SameOutcome
          ((evaluateCached hash cache (PolicyRepo.source order db) auth model features estimated
            requested).1.map PolicyDecision.tokenCheck)
          ((evaluate hash' (PolicyRepo.source order' db) auth model features estimated
            requested).map PolicyDecision.tokenCheck) := by
  have hcoherent : s.Coherent :=
    run_preserves (fun _ _ _ hs hstep ↦ hs.step hstep) hrun AppState.coherent_initial
  obtain ⟨db, cache, rfl, heval, hfresh⟩ := hcoherent
  refine ⟨db, cache, rfl, ?_⟩
  intro auth hcurrent order order' hash hash' model features estimated requested
  obtain ⟨e, cache', hget, hagrees, _⟩ := heval.getOrEvaluate hfresh hcurrent hash order
  obtain ⟨e', hload, hagrees'⟩ := heval.loadAndMerge hcurrent hash' order'
  have hcached : (evaluateCached hash cache (PolicyRepo.source order db) auth model features
      estimated requested).1 = decidePolicy e model features estimated requested := by
    simp only [evaluateCached, hget]
    rfl
  have hplain : evaluate hash' (PolicyRepo.source order' db) auth model features estimated
      requested = decidePolicy e' model features estimated requested := by
    rw [evaluate, hload]
    rfl
  rw [hcached, hplain, map_tokenCheck_decidePolicy, map_tokenCheck_decidePolicy, hagrees.checks,
    hagrees'.checks]
  exact SameOutcome.refl _

def sampleCaller : AuthContext where
  tenantId := ⟨⟨1⟩⟩
  serviceAccountId := ⟨⟨2⟩⟩
  keyId := "key-1"
  serviceAccountName := "Batch jobs"
  environment := .prod
  defaultPolicyId := none

/-- The merged policy is cached, and its policy is then limited further. -/
def limitCachedPolicy : List GatewayOp :=
  bindSamplePolicy ++
    [.evaluateCached .stored .stored sampleCaller "gpt-4o-mini" ⟨true, false, false⟩ none none,
      .admin sampleAdmin 4 (.updatePolicy ⟨⟨3⟩⟩ ⟨⟨1⟩⟩
        ⟨none, none, none, none, none, some 256, none, none, none, none, none⟩)]

theorem evaluateCached_agrees_after_update :
    ∃ s db cache, run (gatewayStep .trusting) AppState.initial limitCachedPolicy = some s ∧
      s = ⟨some db, some cache⟩ ∧ sampleCaller.CurrentIn db ∧
      SameOutcome
        ((evaluateCached .stored cache (PolicyRepo.source .stored db) sampleCaller "gpt-4o-mini"
          ⟨true, false, false⟩ none (some 1024)).1.map PolicyDecision.tokenCheck)
        ((evaluate .stored (PolicyRepo.source .stored db) sampleCaller "gpt-4o-mini"
          ⟨true, false, false⟩ none (some 1024)).map PolicyDecision.tokenCheck) := by
  have heval : (run (gatewayStep .trusting) AppState.initial limitCachedPolicy).map
      (fun s ↦ s.db.map fun db ↦ decide (sampleCaller.CurrentIn db)) = some (some true) := by
    decide +kernel
  obtain ⟨s, hrun, hs⟩ := Option.map_eq_some_iff.mp heval
  obtain ⟨db, cache, rfl, hagrees⟩ := evaluateCached_agrees hrun
  have hcurrent : sampleCaller.CurrentIn db := by simpa using hs
  exact ⟨_, db, cache, hrun, rfl, hcurrent, hagrees sampleCaller hcurrent _ _ _ _ _ _ _ _⟩

end SmartGate
