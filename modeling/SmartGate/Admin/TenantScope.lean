import SmartGate.Admin.Effects
import SmartGate.Admin.PolicyDeletion

/-!
# Policies across tenants

Policies and service accounts belong to a tenant, and the queries that change a policy
name the tenant next to the policy.  The request that binds a policy to an account names
no tenant, and neither the handler nor the schema compares the two.  As long as every
binding joins an account and a policy of one tenant, the policies that apply to an
account are those of its own tenant, and no other tenant can change them.
-/

namespace SmartGate

open Transition

/-! ## Scoped databases -/

/-- Bindings and default policies stay within a tenant. -/
structure Database.Scoped (db : Database) : Prop where
  bound : ∀ b ∈ db.bindings.rows, ∀ a ∈ db.serviceAccounts.rows, ∀ p ∈ db.policies.rows,
    a.id = b.serviceAccountId → p.id = b.policyId → p.tenantId = a.tenantId
  default : ∀ a ∈ db.serviceAccounts.rows, ∀ p ∈ db.policies.rows,
    a.defaultPolicyId = some p.id → p.tenantId = a.tenantId

theorem Database.scoped_empty : Database.empty.Scoped := by
  constructor
  · intro b hb
    cases hb
  · intro a ha
    cases ha

/-- A request to bind a policy to an account finds both in one tenant. -/
def AdminRequest.WithinTenant (db : Database) : AdminRequest → Prop
  | .createBinding sa policyId _ => ∀ a ∈ db.serviceAccounts.rows, ∀ p ∈ db.policies.rows,
      a.id = sa → p.id = policyId → p.tenantId = a.tenantId
  | _ => True

instance (db : Database) (request : AdminRequest) : Decidable (request.WithinTenant db) := by
  cases request <;> unfold AdminRequest.WithinTenant <;> infer_instance

theorem Database.Scoped.committed {P : Primitives} {now : ℕ} {db db' : Database}
    {request : AdminRequest} (hdb : db.Scoped) (hrequest : request.WithinTenant db)
    (h : Committed P now db request db') : db'.Scoped := by
  constructor
  · intro b' hb' a' ha' p' hp' haccount hpolicy
    have hjoined : db.HasServiceAccount b'.serviceAccountId ∧ db.HasPolicy b'.policyId ∧
        ∀ a ∈ db.serviceAccounts.rows, ∀ p ∈ db.policies.rows, a.id = b'.serviceAccountId →
          p.id = b'.policyId → p.tenantId = a.tenantId := by
      rcases h.binding_origin hb' with hb | ⟨id, rfl, hsa, hp⟩
      · exact ⟨db.bindingAccount b' hb _ rfl, db.bindingPolicy b' hb _ rfl, hdb.bound b' hb⟩
      · exact ⟨hsa, hp, hrequest⟩
    obtain ⟨hsa, hp, hjoined⟩ := hjoined
    rcases h.account_origin ha' with ⟨a, ha, hsame⟩ | ⟨hnew, _⟩
    · rcases h.policy_origin hp' with ⟨p, hp, hsamep⟩ | ⟨hnew, _⟩
      · rw [hsame.tenantId, hsamep.tenantId]
        exact hjoined a ha p hp (hsame.id ▸ haccount) (hsamep.id ▸ hpolicy)
      · exact absurd (hpolicy ▸ hp) hnew
    · exact absurd (haccount ▸ hsa) hnew
  · intro a' ha' p' hp' hdefault
    rcases h.account_origin ha' with ⟨a, ha, hsame⟩ | ⟨_, hnone⟩
    · have hold : a.defaultPolicyId = some p'.id := hsame.defaultPolicyId _ hdefault
      rcases h.policy_origin hp' with ⟨p, hp, hsamep⟩ | ⟨hnew, _⟩
      · rw [hsame.tenantId, hsamep.tenantId]
        exact hdb.default a ha p hp (hsamep.id ▸ hold)
      · exact absurd (db.accountDefaultPolicy a ha _ hold) hnew
    · rw [hnone] at hdefault
      cases hdefault

/-! ## The policies that apply to an account -/

theorem Database.Scoped.boundPolicies {db : Database} (hdb : db.Scoped) {a : ServiceAccount}
    (ha : a ∈ db.serviceAccounts.rows) : ∀ p ∈ db.boundPolicies a.id, p.tenantId = a.tenantId := by
  intro p hp
  obtain ⟨b, hb, hget⟩ := List.mem_filterMap.mp hp
  obtain ⟨hb, hsa⟩ := Database.mem_bindingsOf.mp hb
  obtain ⟨hp, hid⟩ := Table.get_eq_some.mp hget
  exact hdb.bound b hb a ha p hp hsa.symm hid

theorem PolicyRepo.mem_listPoliciesForServiceAccount {order : Enumeration Policy} {db : Database}
    {sa : ServiceAccountId} {defaultPolicyId : Option PolicyId} {p : Policy} :
    p ∈ listPoliciesForServiceAccount order db sa defaultPolicyId ↔
      p ∈ db.boundPolicies sa ∨ p ∈ db.policies.rows ∧ defaultPolicyId = some p.id := by
  cases defaultPolicyId with
  | none => simp [listPoliciesForServiceAccount]
  | some id =>
      have hdefault : p ∈ db.policies.rows ∧ some id = some p.id ↔ db.policies.get id = some p := by
        rw [Table.get_eq_some, Option.some.injEq, eq_comm]
      rw [hdefault]
      simp only [listPoliciesForServiceAccount, addDefault]
      split_ifs with hbound
      · rw [order.mem_list, or_iff_left_of_imp]
        intro hget
        obtain ⟨q, hq, hid⟩ := List.any_eq_true.mp hbound
        have hq' := order.mem_list.mp hq
        have hrow := Table.get_eq_some.mpr
          ⟨db.boundPolicies_subset sa q hq', of_decide_eq_true hid⟩
        cases hget.symm.trans hrow
        exact hq'
      · cases hget : db.policies.get id with
        | none => simp
        | some q => simp [eq_comm]

theorem PolicyRepo.listPoliciesForServiceAccount_congr {db db' : Database} {sa : ServiceAccountId}
    {defaultPolicyId : Option PolicyId} (hbound : db'.boundPolicies sa = db.boundPolicies sa)
    (hdefault : ∀ id ∈ defaultPolicyId, db'.policies.get id = db.policies.get id)
    (order : Enumeration Policy) :
    listPoliciesForServiceAccount order db' sa defaultPolicyId =
      listPoliciesForServiceAccount order db sa defaultPolicyId := by
  unfold listPoliciesForServiceAccount
  rw [hbound]
  cases defaultPolicyId with
  | none => rfl
  | some id => simp only [addDefault, hdefault id rfl]

/-- What applies to the account comes from its own tenant, and no accepted edit of a
policy of another tenant changes it. -/
structure Database.Isolates (P : Primitives) (db : Database) (a : ServiceAccount) : Prop where
  listed : ∀ order, ∀ p ∈ PolicyRepo.listPoliciesForServiceAccount order db a.id
    a.defaultPolicyId, p.tenantId = a.tenantId
  edited : ∀ ctx now cache request s' db', handle P ctx now ⟨some db, cache⟩ request = .ok s' →
    s'.db = some db' → ∀ id tenantId,
      (∃ body, request = .updatePolicy id tenantId body) ∨ request = .deletePolicy id tenantId →
      tenantId ≠ a.tenantId → ∀ order,
        PolicyRepo.listPoliciesForServiceAccount order db' a.id a.defaultPolicyId =
          PolicyRepo.listPoliciesForServiceAccount order db a.id a.defaultPolicyId

section Isolation

variable {P : Primitives} {db : Database} {a : ServiceAccount}

theorem Database.Scoped.listed (hdb : db.Scoped) (ha : a ∈ db.serviceAccounts.rows)
    (order : Enumeration Policy) : ∀ p ∈ PolicyRepo.listPoliciesForServiceAccount order db a.id
      a.defaultPolicyId, p.tenantId = a.tenantId := by
  intro p hp
  rcases PolicyRepo.mem_listPoliciesForServiceAccount.mp hp with hbound | ⟨hp, hdefault⟩
  · exact hdb.boundPolicies ha p hbound
  · exact hdb.default a ha p hp hdefault

/-- An update of other tenants' policies passes the account by. -/
theorem Database.Scoped.listed_updatePolicies (hdb : db.Scoped)
    (ha : a ∈ db.serviceAccounts.rows) {q : Policy → Bool} {f : Policy → Policy}
    {hid : ∀ r, (f r).id = r.id} {htenant : ∀ r, (f r).tenantId = r.tenantId}
    (hq : ∀ p, p.tenantId = a.tenantId → q p = false) (order : Enumeration Policy) :
    PolicyRepo.listPoliciesForServiceAccount order (db.updatePolicies q f hid htenant) a.id
        a.defaultPolicyId =
      PolicyRepo.listPoliciesForServiceAccount order db a.id a.defaultPolicyId := by
  have hget : ∀ id, (∀ p ∈ db.policies.rows, p.id = id → p.tenantId = a.tenantId) →
      (db.updatePolicies q f hid htenant).policies.get id = db.policies.get id := by
    intro id hown
    rw [Database.updatePolicies, Table.get_updateWhere]
    cases hp : db.policies.get id with
    | none => rfl
    | some p =>
        obtain ⟨hmem, hidp⟩ := Table.get_eq_some.mp hp
        simp [hq p (hown p hmem hidp)]
  apply PolicyRepo.listPoliciesForServiceAccount_congr
  · refine List.filterMap_congr fun b hb ↦ hget b.policyId fun p hp hidp ↦ ?_
    obtain ⟨hb, hsa⟩ := Database.mem_bindingsOf.mp hb
    exact hdb.bound b hb a ha p hp hsa.symm hidp
  · intro id hdefault
    exact hget id fun p hp hidp ↦ hdb.default a ha p hp (hidp ▸ hdefault)

/-- So does the deletion of another tenant's policy. -/
theorem Database.Scoped.listed_deletePolicy (hdb : db.Scoped) (ha : a ∈ db.serviceAccounts.rows)
    {p : Policy} (hp : p ∈ db.policies.rows) (hother : p.tenantId ≠ a.tenantId)
    (order : Enumeration Policy) :
    PolicyRepo.listPoliciesForServiceAccount order (db.deletePolicy p.id) a.id
        a.defaultPolicyId =
      PolicyRepo.listPoliciesForServiceAccount order db a.id a.defaultPolicyId := by
  apply PolicyRepo.listPoliciesForServiceAccount_congr
  · apply Database.boundPolicies_deletePolicy_of_unbound
    intro b hb hid
    obtain ⟨hb, hsa⟩ := Database.mem_bindingsOf.mp hb
    exact hother (hdb.bound b hb a ha p hp hsa.symm hid.symm)
  · intro id hdefault
    apply Table.get_deleteWhere_of_not
    intro r hr
    refine decide_eq_false fun hid ↦ hother (hdb.default a ha p hp ?_)
    rw [← hid, hr]
    exact hdefault

theorem Database.Scoped.isolates (hdb : db.Scoped) (ha : a ∈ db.serviceAccounts.rows) :
    db.Isolates P a where
  listed := hdb.listed ha
  edited := by
    intro ctx now cache request s' db' hok hdb' id tenantId hrequest hother order
    obtain ⟨_, _, hbefore, hafter, hcommitted⟩ := committed_of_handle hok
    cases hbefore
    cases hafter.symm.trans hdb'
    rcases hrequest with ⟨body, rfl⟩ | rfl
    · cases hcommitted with
      | updatePolicy hmergeable =>
          refine hdb.listed_updatePolicies ha (fun p hp ↦ decide_eq_false ?_) order
          rintro ⟨_, htenant⟩
          exact hother (htenant.symm.trans hp)
    · cases hcommitted with
      | deletePolicy hfound =>
          obtain ⟨p, hp, rfl, rfl⟩ := hfound
          exact hdb.listed_deletePolicy ha hp hother order

end Isolation

/-! ## Runs -/

/-- Every binding that the run asks for joins an account and a policy of one tenant. -/
def BindsWithinTenant (s : AppState) : GatewayOp → Prop
  | .admin _ _ request => ∀ db ∈ s.db, request.WithinTenant db
  | _ => True

instance (s : AppState) (op : GatewayOp) : Decidable (BindsWithinTenant s op) := by
  cases op <;> unfold BindsWithinTenant <;> infer_instance

/-- As long as no binding joins an account and a policy of different tenants, every
account is subject to policies of its own tenant only, and other tenants cannot edit
them. -/
theorem policies_stay_in_tenant {P : Primitives} {ops : List GatewayOp} {s : AppState}
    (hguard : Guarded (gatewayStep P) BindsWithinTenant .initial ops)
    (hrun : run (gatewayStep P) .initial ops = some s) {db : Database} (hdb : s.db = some db) :
    ∀ a ∈ db.serviceAccounts.rows, db.Isolates P a := by
  have hinit : AppState.initial.Satisfies Database.Scoped := by
    intro db hdb
    cases hdb
    exact Database.scoped_empty
  have hstep : ∀ s op t, s.Satisfies Database.Scoped → BindsWithinTenant s op →
      gatewayStep P s op = some t → t.Satisfies Database.Scoped := by
    intro s op t hs hop ht
    refine hs.step ht ?_
    rintro ctx now request db db' rfl hdb hscoped hcommitted
    exact hscoped.committed (hop db hdb) hcommitted
  have hscoped : db.Scoped := run_invariant hstep hguard hrun hinit db hdb
  exact fun a ha ↦ hscoped.isolates ha

/-- The condition is sharp: an accepted binding that does not meet it puts an account
under a policy of another tenant. -/
theorem crossed_of_createBinding {P : Primitives} {ctx : AdminContext} {now : ℕ} {s s' : AppState}
    {sa : ServiceAccountId} {policyId : PolicyId} {id : Uuid} {db : Database}
    (hdb : s.db = some db) (hok : handle P ctx now s (.createBinding sa policyId id) = .ok s')
    (hcrossed : ¬(AdminRequest.createBinding sa policyId id).WithinTenant db) :
    ∃ db', s'.db = some db' ∧ ∃ a ∈ db'.serviceAccounts.rows, ¬db'.Isolates P a := by
  obtain ⟨db₀, db', hdb₀, hdb', hcommitted⟩ := committed_of_handle hok
  cases hdb.symm.trans hdb₀
  simp only [AdminRequest.WithinTenant, not_forall] at hcrossed
  obtain ⟨a, ha, p, hp, rfl, rfl, hother⟩ := hcrossed
  refine ⟨db', hdb', a, ?_⟩
  cases hcommitted with
  | createBinding hid hpair haccount hpolicy =>
      refine ⟨ha, fun hisolates ↦ hother (hisolates.listed .stored p ?_)⟩
      refine PolicyRepo.mem_listPoliciesForServiceAccount.mpr (Or.inl ?_)
      refine List.mem_filterMap.mpr ⟨⟨id, a.id, p.id, now⟩, ?_, Table.get_eq_some.mpr ⟨hp, rfl⟩⟩
      exact Database.mem_bindingsOf.mpr ⟨List.mem_cons_self, rfl⟩

/-! ## Two tenants -/

/-- An account of the first tenant, a policy of the second. -/
def twoTenants : List GatewayOp :=
  [.admin sampleAdmin 0 (.createTenant ⟨"Acme Corp", "acme-corp", none⟩ ⟨⟨1⟩⟩),
    .admin sampleAdmin 1 (.createTenant ⟨"Globex", "globex", none⟩ ⟨⟨2⟩⟩),
    .admin sampleAdmin 2
      (.createServiceAccount ⟨⟨⟨1⟩⟩, "Batch jobs", "batch-jobs", "prod", none⟩ ⟨⟨3⟩⟩),
    .admin sampleAdmin 3 (.createPolicy { tenantId := ⟨⟨2⟩⟩, name := "all models" } ⟨⟨4⟩⟩),
    .admin sampleAdmin 4 (.createPolicy { tenantId := ⟨⟨1⟩⟩, name := "small models" } ⟨⟨5⟩⟩)]

theorem policies_stay_in_tenant_bound :
    ∃ s db, run (gatewayStep .trusting) .initial
        (twoTenants ++ [.admin sampleAdmin 5 (.createBinding ⟨⟨3⟩⟩ ⟨⟨5⟩⟩ ⟨6⟩)]) = some s ∧
      s.db = some db ∧ (db.boundPolicies ⟨⟨3⟩⟩).length = 1 ∧
      ∀ a ∈ db.serviceAccounts.rows, db.Isolates .trusting a := by
  have heval : ((run (gatewayStep .trusting) .initial
      (twoTenants ++ [.admin sampleAdmin 5 (.createBinding ⟨⟨3⟩⟩ ⟨⟨5⟩⟩ ⟨6⟩)])).bind
        AppState.db).map (fun db ↦ (db.boundPolicies ⟨⟨3⟩⟩).length) = some 1 := by
    decide +kernel
  obtain ⟨db, hdb, hlength⟩ := Option.map_eq_some_iff.mp heval
  obtain ⟨s, hrun, hdb⟩ := Option.bind_eq_some_iff.mp hdb
  exact ⟨s, db, hrun, hdb, hlength, policies_stay_in_tenant (by decide +kernel) hrun hdb⟩

/-- The admin API lets an account of one tenant be bound to a policy of another. -/
theorem policy_of_other_tenant_listed :
    ∃ s db, run (gatewayStep .trusting) .initial
        (twoTenants ++ [.admin sampleAdmin 5 (.createBinding ⟨⟨3⟩⟩ ⟨⟨4⟩⟩ ⟨6⟩)]) = some s ∧
      s.db = some db ∧ ∃ a ∈ db.serviceAccounts.rows,
        ∃ p ∈ PolicyRepo.listPoliciesForServiceAccount .stored db a.id a.defaultPolicyId,
          p.tenantId ≠ a.tenantId := by
  have heval : ((run (gatewayStep .trusting) .initial
      (twoTenants ++ [.admin sampleAdmin 5 (.createBinding ⟨⟨3⟩⟩ ⟨⟨4⟩⟩ ⟨6⟩)])).bind
        AppState.db).map (fun db ↦ decide (∃ a ∈ db.serviceAccounts.rows,
          ∃ p ∈ PolicyRepo.listPoliciesForServiceAccount .stored db a.id a.defaultPolicyId,
            p.tenantId ≠ a.tenantId)) = some true := by
    decide +kernel
  obtain ⟨db, hdb, hcrossed⟩ := Option.map_eq_some_iff.mp heval
  obtain ⟨s, hrun, hdb⟩ := Option.bind_eq_some_iff.mp hdb
  exact ⟨s, db, hrun, hdb, of_decide_eq_true hcrossed⟩

end SmartGate
