import SmartGate.Admin.Handlers

/-!
# Deleting a policy

The repository documents that a policy with bindings is not deleted, and the handler
has a message for that case.  The foreign key of the bindings is declared
`ON DELETE CASCADE`, however: the deletion goes through and takes the bindings along.
-/

namespace SmartGate

open Transition

namespace Database

/-- The policy that the deletion addresses exists and has a binding. -/
def Bound (db : Database) (tenantId : TenantId) (id : PolicyId) : Prop :=
  (∃ p ∈ db.policies.rows, p.id = id ∧ p.tenantId = tenantId) ∧
    ∃ b ∈ db.bindings.rows, b.policyId = id

theorem bindingsOf_deletePolicy (db : Database) (id : PolicyId) (sa : ServiceAccountId) :
    (db.deletePolicy id).bindingsOf sa =
      (db.bindingsOf sa).filter fun b ↦ decide (b.policyId ≠ id) := by
  unfold bindingsOf deletePolicy Table.cascade Table.deleteWhere
  rw [List.filter_filter, List.filter_filter]
  refine List.filter_congr fun b _ ↦ ?_
  rw [Bool.and_comm]
  simp

/-- Deleting a policy takes it from the policies of every account. -/
theorem boundPolicies_deletePolicy (db : Database) (id : PolicyId) (sa : ServiceAccountId) :
    (db.deletePolicy id).boundPolicies sa =
      (db.boundPolicies sa).filter fun p ↦ decide (p.id ≠ id) := by
  unfold boundPolicies
  rw [bindingsOf_deletePolicy, List.filterMap_filter, List.filter_filterMap]
  refine List.filterMap_congr fun b _ ↦ ?_
  have hid : ∀ p, db.policies.get b.policyId = some p → p.id = b.policyId := fun p hp ↦
    (Table.get_eq_some.mp hp).2
  by_cases hb : b.policyId = id
  · rw [if_neg (by simpa using hb)]
    cases hget : db.policies.get b.policyId with
    | none => rfl
    | some p => simp [Option.filter_some, hid p hget, hb]
  · have hsame : (db.deletePolicy id).policies.get b.policyId = db.policies.get b.policyId := by
      apply Table.get_deleteWhere_of_not
      intro p hp
      exact decide_eq_false (hp ▸ hb)
    rw [if_pos (decide_eq_true hb), hsame]
    cases hget : db.policies.get b.policyId with
    | none => rfl
    | some p => simp [Option.filter_some, hid p hget, hb]

theorem boundPolicies_deletePolicy_of_unbound {db : Database} {id : PolicyId}
    {sa : ServiceAccountId} (h : ∀ b ∈ db.bindingsOf sa, b.policyId ≠ id) :
    (db.deletePolicy id).boundPolicies sa = db.boundPolicies sa := by
  rw [boundPolicies_deletePolicy, List.filter_eq_self]
  intro p hp
  have hmem : p.id ∈ (db.bindingsOf sa).map ServiceAccountPolicyBinding.policyId := by
    rw [← map_id_boundPolicies]
    exact List.mem_map_of_mem hp
  obtain ⟨b, hb, hid⟩ := List.mem_map.mp hmem
  rw [← hid]
  exact decide_eq_true (h b hb)

end Database

/-! ## What the documentation promises -/

/-- The promise for one deletion: a policy with bindings is refused as a reference error,
which the handler reports as a conflict, and a deletion that succeeds leaves the policies
of every account as they were. -/
structure DeletionKeepsPolicies (db : Database) (tenantId : TenantId) (id : PolicyId) :
    Prop where
  refused : db.Bound tenantId id →
    (∃ detail, PolicyRepo.delete db tenantId id = .error (.referenceError detail)) ∧
      ∀ ctx cache, ctx.role = .admin → ∃ err,
        deletePolicy ctx id tenantId ⟨some db, cache⟩ = .error err ∧ err.statusCode = 409
  kept : ∀ ctx cache s', deletePolicy ctx id tenantId ⟨some db, cache⟩ = .ok ((), s') →
    ∃ db', s'.db = some db' ∧ ∀ order sa,
      PolicyRepo.listPoliciesForServiceAccount order db' sa none =
        PolicyRepo.listPoliciesForServiceAccount order db sa none

theorem delete_of_bound {db : Database} {tenantId : TenantId} {id : PolicyId}
    (h : db.Bound tenantId id) : PolicyRepo.delete db tenantId id = .ok (db.deletePolicy id) :=
  if_pos h.1

theorem deletePolicy_eq_ok {ctx : AdminContext} {db : Database} {cache : Option PolicyCache}
    {tenantId : TenantId} {id : PolicyId} {s' : AppState}
    (h : deletePolicy ctx id tenantId ⟨some db, cache⟩ = .ok ((), s')) :
    (∃ p ∈ db.policies.rows, p.id = id ∧ p.tenantId = tenantId) ∧
      s'.db = some (db.deletePolicy id) := by
  obtain ⟨db₀, db', hdb, hstatement, rfl⟩ := AppState.execute_eq_ok (of_requireAdminRole h)
  cases hdb
  obtain ⟨_, hdelete, hpair⟩ := map_eq_ok.mp hstatement
  cases hpair
  obtain ⟨hex, rfl⟩ := PolicyRepo.delete_eq_ok hdelete
  exact ⟨hex, rfl⟩

/-- The promise is kept exactly for the policies without bindings. -/
theorem deletion_keeps_policies_iff (db : Database) (tenantId : TenantId) (id : PolicyId) :
    DeletionKeepsPolicies db tenantId id ↔ ¬db.Bound tenantId id := by
  constructor
  · intro h hbound
    obtain ⟨⟨detail, hrefused⟩, _⟩ := h.refused hbound
    rw [delete_of_bound hbound] at hrefused
    cases hrefused
  · intro hunbound
    refine ⟨fun hbound ↦ absurd hbound hunbound, ?_⟩
    intro ctx cache s' hok
    obtain ⟨hex, hdb⟩ := deletePolicy_eq_ok hok
    refine ⟨_, hdb, fun order sa ↦ ?_⟩
    have hfree : ∀ b ∈ db.bindingsOf sa, b.policyId ≠ id := fun b hb hid ↦
      hunbound ⟨hex, b, (Database.mem_bindingsOf.mp hb).1, hid⟩
    simp only [PolicyRepo.listPoliciesForServiceAccount, PolicyRepo.addDefault_none,
      Database.boundPolicies_deletePolicy_of_unbound hfree]

/-! ## A restriction that is stripped -/

def AppState.policyIdsOf (s : AppState) (sa : ServiceAccountId) : Option (List PolicyId) :=
  s.db.map fun db ↦ (PolicyRepo.listPoliciesForServiceAccount .stored db sa none).map Policy.id

/-- The deletion of a bound policy succeeds and leaves its account without a policy. -/
theorem bound_policy_deleted :
    ∃ s s', run (gatewayStep .trusting) AppState.initial bindSamplePolicy = some s ∧
      deletePolicy sampleAdmin ⟨⟨3⟩⟩ ⟨⟨1⟩⟩ s = .ok ((), s') ∧
      s.policyIdsOf ⟨⟨2⟩⟩ = some [⟨⟨3⟩⟩] ∧ s'.policyIdsOf ⟨⟨2⟩⟩ = some [] := by
  have heval : ((run (gatewayStep .trusting) AppState.initial bindSamplePolicy).bind fun s ↦
      (deletePolicy sampleAdmin ⟨⟨3⟩⟩ ⟨⟨1⟩⟩ s).toOption.map fun r ↦
        (s.policyIdsOf ⟨⟨2⟩⟩, r.2.policyIdsOf ⟨⟨2⟩⟩)) = some (some [⟨⟨3⟩⟩], some []) := by
    decide +kernel
  obtain ⟨s, hrun, hdelete⟩ := Option.bind_eq_some_iff.mp heval
  obtain ⟨⟨_, s'⟩, hok, hids⟩ := Option.map_eq_some_iff.mp hdelete
  obtain ⟨hbefore, hafter⟩ := Prod.mk.inj hids
  exact ⟨s, s', hrun, eq_ok_of_toOption hok, hbefore, hafter⟩

end SmartGate
