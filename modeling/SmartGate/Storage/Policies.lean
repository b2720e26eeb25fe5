import SmartGate.Storage.Repositories

/-!
# The policy repository

Policies, their bindings to service accounts, and the query that collects the policies
of one account.  The query has no `ORDER BY`: the order of its rows is a parameter.
-/

namespace SmartGate

def CreatePolicy.row (input : CreatePolicy) (now : ℕ) : Policy where
  id := input.id
  tenantId := input.tenantId
  name := input.name
  description := input.description
  allowedModelsJson := input.allowedModelsJson
  deniedModelsJson := input.deniedModelsJson
  maxInputTokens := input.maxInputTokens
  maxOutputTokens := input.maxOutputTokens
  allowStreaming := input.allowStreaming
  allowTools := input.allowTools
  allowFiles := input.allowFiles
  rpmLimit := input.rpmLimit
  concurrencyLimit := input.concurrencyLimit
  createdAt := now

/-- `SET column = COALESCE($n, column)` for every column of the input. -/
def UpdatePolicy.apply (input : UpdatePolicy) (p : Policy) : Policy :=
  { p with
    name := input.name.getD p.name
    description := input.description.or p.description
    allowedModelsJson := input.allowedModelsJson.getD p.allowedModelsJson
    deniedModelsJson := input.deniedModelsJson.getD p.deniedModelsJson
    maxInputTokens := input.maxInputTokens.or p.maxInputTokens
    maxOutputTokens := input.maxOutputTokens.or p.maxOutputTokens
    allowStreaming := input.allowStreaming.getD p.allowStreaming
    allowTools := input.allowTools.getD p.allowTools
    allowFiles := input.allowFiles.getD p.allowFiles
    rpmLimit := input.rpmLimit.or p.rpmLimit
    concurrencyLimit := input.concurrencyLimit.or p.concurrencyLimit }

namespace PolicyRepo

def create (db : Database) (input : CreatePolicy) (now : ℕ) :
    Except StorageError (Policy × Database) :=
  let row := input.row now
  if hid : db.policies.get row.id = none then
    if htenant : db.HasTenant row.tenantId then .ok (row, db.insertPolicy row hid htenant)
    else .error (foreignKeyViolation "policies" "policies_tenant_id_fkey")
  else .error (uniqueViolation "policies" "policies_pkey")

theorem create_eq_ok {db db' : Database} {input : CreatePolicy} {now : ℕ} {p : Policy}
    (h : create db input now = .ok (p, db')) :
    p = input.row now ∧ ∃ hid htenant, db' = db.insertPolicy (input.row now) hid htenant := by
  unfold create at h
  dsimp only at h
  split_ifs at h with hid htenant
  cases h
  exact ⟨rfl, hid, htenant, rfl⟩

def update (db : Database) (tenantId : TenantId) (id : PolicyId) (input : UpdatePolicy) :
    Except StorageError (Policy × Database) :=
  returning db.policies.rows (fun p ↦ decide (p.id = id ∧ p.tenantId = tenantId)) input.apply
    (db.updatePolicies (fun p ↦ decide (p.id = id ∧ p.tenantId = tenantId)) input.apply
      (fun _ ↦ rfl) (fun _ ↦ rfl))
    (.notFound "policy" "id" id.display)

/-- `DELETE FROM policies WHERE id = $1 AND tenant_id = $2`.  At most one row is
deleted, and the foreign-key actions are carried out for it. -/
def delete (db : Database) (tenantId : TenantId) (id : PolicyId) : Except StorageError Database :=
  if ∃ p ∈ db.policies.rows, p.id = id ∧ p.tenantId = tenantId then .ok (db.deletePolicy id)
  else .error (.notFound "policy" "id" id.display)

theorem delete_eq_ok {db db' : Database} {tenantId : TenantId} {id : PolicyId}
    (h : delete db tenantId id = .ok db') :
    (∃ p ∈ db.policies.rows, p.id = id ∧ p.tenantId = tenantId) ∧ db' = db.deletePolicy id := by
  unfold delete at h
  split_ifs at h with hfound
  cases h
  exact ⟨hfound, rfl⟩

def createBinding (db : Database) (serviceAccountId : ServiceAccountId) (policyId : PolicyId)
    (id : Uuid) (now : ℕ) : Except StorageError (ServiceAccountPolicyBinding × Database) :=
  let row : ServiceAccountPolicyBinding := ⟨id, serviceAccountId, policyId, now⟩
  if hid : db.bindings.get row.id = none then
    if hpair : ∀ b ∈ db.bindings.rows,
        (b.serviceAccountId, b.policyId) ≠ (row.serviceAccountId, row.policyId) then
      if haccount : db.HasServiceAccount row.serviceAccountId then
        if hpolicy : db.HasPolicy row.policyId then
          .ok (row, db.insertBinding row hid hpair haccount hpolicy)
        else .error (foreignKeyViolation "service_account_policy_bindings"
          "service_account_policy_bindings_policy_id_fkey")
      else .error (foreignKeyViolation "service_account_policy_bindings"
        "service_account_policy_bindings_service_account_id_fkey")
    else .error (uniqueViolation "service_account_policy_bindings"
      "service_account_policy_binding_service_account_id_policy_id_key")
  else .error (uniqueViolation "service_account_policy_bindings"
    "service_account_policy_bindings_pkey")

theorem createBinding_eq_ok {db db' : Database} {sa : ServiceAccountId} {policyId : PolicyId}
    {id : Uuid} {now : ℕ} {b : ServiceAccountPolicyBinding}
    (h : createBinding db sa policyId id now = .ok (b, db')) :
    ∃ hid hpair haccount hpolicy,
      db' = db.insertBinding ⟨id, sa, policyId, now⟩ hid hpair haccount hpolicy := by
  unfold createBinding at h
  dsimp only at h
  split_ifs at h with hid hpair haccount hpolicy
  cases h
  exact ⟨hid, hpair, haccount, hpolicy, rfl⟩

def deleteBinding (db : Database) (serviceAccountId : ServiceAccountId) (policyId : PolicyId) :
    Except StorageError Database :=
  if ∃ b ∈ db.bindings.rows, b.serviceAccountId = serviceAccountId ∧ b.policyId = policyId then
    .ok (db.deleteBindings fun b ↦
      decide (b.serviceAccountId = serviceAccountId ∧ b.policyId = policyId))
  else .error (.notFound "policy_binding" "service_account_id+policy_id"
    s!"{serviceAccountId.display}+{policyId.display}")

theorem deleteBinding_eq_ok {db db' : Database} {sa : ServiceAccountId} {policyId : PolicyId}
    (h : deleteBinding db sa policyId = .ok db') :
    db' = db.deleteBindings fun b ↦ decide (b.serviceAccountId = sa ∧ b.policyId = policyId) := by
  unfold deleteBinding at h
  split_ifs at h
  cases h
  rfl

end PolicyRepo

/-! ## The policies of a service account -/

namespace Database

def bindingsOf (db : Database) (sa : ServiceAccountId) : List ServiceAccountPolicyBinding :=
  db.bindings.rows.filter fun b ↦ decide (b.serviceAccountId = sa)

/-- The join of `policies` and the bindings of one account. -/
def boundPolicies (db : Database) (sa : ServiceAccountId) : List Policy :=
  (db.bindingsOf sa).filterMap fun b ↦ db.policies.get b.policyId

theorem mem_bindingsOf {db : Database} {sa : ServiceAccountId} {b : ServiceAccountPolicyBinding} :
    b ∈ db.bindingsOf sa ↔ b ∈ db.bindings.rows ∧ b.serviceAccountId = sa := by
  simp [bindingsOf]

theorem boundPolicies_subset (db : Database) (sa : ServiceAccountId) :
    ∀ p ∈ db.boundPolicies sa, p ∈ db.policies.rows := by
  intro p hp
  obtain ⟨b, _, hget⟩ := List.mem_filterMap.mp hp
  exact (Table.get_eq_some.mp hget).1

/-- Every binding of the account contributes its policy: the foreign key leaves no
binding without a partner in the join. -/
theorem map_id_boundPolicies (db : Database) (sa : ServiceAccountId) :
    (db.boundPolicies sa).map Policy.id =
      (db.bindingsOf sa).map ServiceAccountPolicyBinding.policyId := by
  have hget : ∀ b ∈ db.bindingsOf sa,
      (db.policies.get b.policyId).map Policy.id = some b.policyId := by
    intro b hb
    obtain ⟨p, hp, hid⟩ := db.bindingPolicy b (mem_bindingsOf.mp hb).1 b.policyId rfl
    rw [Table.get_eq_some.mpr ⟨hp, hid⟩, Option.map_some, hid]
  rw [boundPolicies, List.map_filterMap, List.filterMap_congr hget, List.filterMap_eq_map']

end Database

namespace PolicyRepo

def alreadyPresent (policies : List Policy) (defaultId : PolicyId) : Bool :=
  policies.any fun p ↦ decide (p.id = defaultId)

/-- The second half of `list_policies_for_service_account`, with a statement of its own. -/
def addDefault (db : Database) (policies : List Policy) (defaultPolicyId : Option PolicyId) :
    List Policy :=
  match defaultPolicyId with
  | none => policies
  | some defaultId =>
      if alreadyPresent policies defaultId then policies
      else match db.policies.get defaultId with
        | some defaultPolicy => policies ++ [defaultPolicy]
        | none => policies

/-- The bound policies in the order `order`, and the default policy unless it is among
them. -/
def listPoliciesForServiceAccount (order : Enumeration Policy) (db : Database)
    (serviceAccountId : ServiceAccountId) (defaultPolicyId : Option PolicyId) : List Policy :=
  addDefault db (order.list (db.boundPolicies serviceAccountId)) defaultPolicyId

@[simp] theorem addDefault_none (db : Database) (policies : List Policy) :
    addDefault db policies none = policies := rfl

end PolicyRepo

end SmartGate
