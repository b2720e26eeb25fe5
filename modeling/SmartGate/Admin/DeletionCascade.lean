import SmartGate.Admin.Effects

/-!
# Accounts of deleted tenants

The deletion of a tenant suspends its accounts in the same transaction.  No constraint of
the schema keeps them suspended.  An account is active in a deleted tenant exactly when a
later request has created it there or has activated it again.
-/

namespace SmartGate

open Transition

/-- No account of a deleted tenant is active. -/
def Database.CascadeHolds (db : Database) : Prop :=
  ∀ a ∈ db.serviceAccounts.rows, db.TenantDeleted a.tenantId → a.status ≠ .active

instance (db : Database) (id : TenantId) : Decidable (db.TenantDeleted id) :=
  inferInstanceAs (Decidable (∃ t ∈ db.tenants.rows, t.id = id ∧ t.status = .deleted))

instance (db : Database) : Decidable db.CascadeHolds :=
  inferInstanceAs (Decidable (∀ a ∈ db.serviceAccounts.rows,
    db.TenantDeleted a.tenantId → a.status ≠ .active))

/-- The request creates or activates an account in a tenant that is deleted. -/
def AdminRequest.Revives (db : Database) : AdminRequest → Prop
  | .createServiceAccount body _ => db.TenantDeleted body.tenantId
  | .activateServiceAccount _ tenantId => db.TenantDeleted tenantId
  | _ => False

instance (db : Database) : (request : AdminRequest) → Decidable (request.Revives db)
  | .createServiceAccount body _ => inferInstanceAs (Decidable (db.TenantDeleted body.tenantId))
  | .activateServiceAccount _ tenantId => inferInstanceAs (Decidable (db.TenantDeleted tenantId))
  | .createTenant _ _ | .updateTenant _ _ | .deleteTenant _ | .updateServiceAccount _ _ _
  | .suspendServiceAccount _ _ | .registerKey _ _ _ | .revokeKey _ _ | .createPolicy _ _
  | .updatePolicy _ _ _ | .deletePolicy _ _ | .createBinding _ _ _ | .deleteBinding _ _ =>
      inferInstanceAs (Decidable False)

section Statements

variable {db : Database}

/-- An update of accounts that does not activate any. -/
theorem Database.CascadeHolds.updateServiceAccounts (h : db.CascadeHolds)
    {p : ServiceAccount → Bool} {f : ServiceAccount → ServiceAccount}
    (hf : Database.KeepsAccount f)
    (hstatus : ∀ a, (f a).status = a.status ∨ (f a).status = .suspended) :
    (db.updateServiceAccounts p f hf).CascadeHolds := by
  intro a' ha' hdeleted
  rcases Table.mem_map_ite.mp ha' with ⟨ha', _⟩ | ⟨a, ha, _, rfl⟩
  · exact h a' ha' hdeleted
  · rcases hstatus a with hsame | hsuspended
    · rw [hsame]
      exact h a ha (hf.tenantId a ▸ hdeleted)
    · rw [hsuspended]
      exact ServiceAccountStatus.noConfusion

/-- The accounts of a new tenant are those that refer to it, and there are none. -/
theorem Database.CascadeHolds.insertTenant (h : db.CascadeHolds) {row : Tenant}
    (hid : db.tenants.get row.id = none) (hslug : ∀ t ∈ db.tenants.rows, t.slug ≠ row.slug) :
    (db.insertTenant row hid hslug).CascadeHolds := by
  rintro a ha ⟨t, ht, hta, hstatus⟩
  rcases List.mem_cons.mp ht with rfl | ht
  · obtain ⟨t', ht', hid'⟩ := db.accountTenant a ha a.tenantId rfl
    exact absurd (hid'.trans hta.symm) (Table.get_eq_none.mp hid t' ht')
  · exact h a ha ⟨t, ht, hta, hstatus⟩

theorem tenantDeleted_updateTenants {p : Tenant → Bool} {f : Tenant → Tenant}
    {hid : ∀ t, (f t).id = t.id} {hslug : ∀ t, (f t).slug = t.slug} {id : TenantId}
    (hdeleted : (db.updateTenants p f hid hslug).TenantDeleted id) :
    db.TenantDeleted id ∨ ∃ t, p t = true ∧ t.id = id ∧ (f t).status = .deleted := by
  obtain ⟨t', ht', hid', hstatus⟩ := hdeleted
  rcases Table.mem_map_ite.mp ht' with ⟨ht', _⟩ | ⟨t, ht, hp, rfl⟩
  · exact Or.inl ⟨t', ht', hid', hstatus⟩
  · exact Or.inr ⟨t, hp, (hid t).symm.trans hid', hstatus⟩

/-- After the transaction, the accounts of the tenant are suspended or deleted. -/
theorem not_active_of_suspendAccounts {id : TenantId} {a' : ServiceAccount}
    (ha' : a' ∈ (TenantRepo.suspendAccounts db id).serviceAccounts.rows)
    (htenant : a'.tenantId = id) : a'.status ≠ .active := by
  rcases Table.mem_map_ite.mp ha' with ⟨_, hother⟩ | ⟨a, _, _, rfl⟩
  · intro hactive
    have hselected : a'.tenantId = id ∧ a'.status ≠ .suspended ∧ a'.status ≠ .deleted := by
      rw [hactive]
      exact ⟨htenant, by decide, by decide⟩
    exact absurd hselected (of_decide_eq_false hother)
  · exact ServiceAccountStatus.noConfusion

theorem Database.CascadeHolds.softDelete (h : db.CascadeHolds) (id : TenantId) :
    ((TenantRepo.suspendAccounts db id).updateTenants (fun t ↦ decide (t.id = id))
      Tenant.delete (fun _ ↦ rfl) (fun _ ↦ rfl)).CascadeHolds := by
  intro a' ha' hdeleted
  rcases tenantDeleted_updateTenants hdeleted with hearlier | ⟨t, hselected, htenant, _⟩
  · exact h.updateServiceAccounts _ (fun _ ↦ Or.inr rfl) a' ha' hearlier
  · exact not_active_of_suspendAccounts ha' (htenant.symm.trans (of_decide_eq_true hselected))

end Statements

/-! ## Requests -/

variable {P : Primitives}

/-- An accepted request keeps the accounts of deleted tenants inactive, unless it revives
one. -/
theorem Committed.cascadeHolds_iff {now : ℕ} {db db' : Database} {request : AdminRequest}
    (hc : Committed P now db request db') (h : db.CascadeHolds) :
    db'.CascadeHolds ↔ ¬ request.Revives db := by
  cases hc with
  | @createServiceAccount body _ input hnone hid hslug htenant hdefault htenantId hstatus =>
      have hrevives : (AdminRequest.createServiceAccount body input.id).Revives db ↔
          db.TenantDeleted input.tenantId := by
        rw [htenantId, AdminRequest.Revives]
      constructor
      · intro h' hdeleted
        exact h' _ List.mem_cons_self (hrevives.mp hdeleted) hstatus
      · intro hlive a ha hdeleted
        rcases List.mem_cons.mp ha with rfl | ha
        · exact absurd (hrevives.mpr hdeleted) hlive
        · exact h a ha hdeleted
  | activateServiceAccount p hf hstatus hselected hfound =>
      constructor
      · intro h' hdeleted
        obtain ⟨a, ha, hp⟩ := hfound
        refine h' _ (Table.mem_map_ite.mpr (Or.inr ⟨a, ha, hp, rfl⟩)) ?_ (hstatus a)
        rw [hf.tenantId, hselected a hp]
        exact hdeleted
      · intro hlive a' ha' hdeleted
        rcases Table.mem_map_ite.mp ha' with ⟨ha', _⟩ | ⟨a, ha, hp, rfl⟩
        · exact h a' ha' hdeleted
        · rw [hf.tenantId, hselected a hp] at hdeleted
          exact absurd hdeleted hlive
  | createTenant hid hslug => exact iff_of_true (h.insertTenant hid hslug) id
  | updateTenant input =>
      refine iff_of_true (fun a ha hdeleted ↦ h a ha ?_) id
      obtain ⟨t', ht', hid, hstatus⟩ := hdeleted
      rcases Table.mem_map_ite.mp ht' with ⟨ht', _⟩ | ⟨t, ht, _, rfl⟩
      · exact ⟨t', ht', hid, hstatus⟩
      · exact ⟨t, ht, hid, hstatus⟩
  | deleteTenant htenant => exact iff_of_true (h.softDelete _) id
  | updateServiceAccount p hf hstatus =>
      exact iff_of_true (h.updateServiceAccounts hf fun a ↦ Or.inl (hstatus a)) id
  | suspendServiceAccount p hf hstatus =>
      exact iff_of_true (h.updateServiceAccounts hf fun a ↦ Or.inr (hstatus a)) id
  | deletePolicy hfound =>
      refine iff_of_true (fun a' ha' hdeleted ↦ ?_) id
      rcases Table.mem_map_ite.mp ha' with ⟨ha', _⟩ | ⟨a, ha, _, rfl⟩
      · exact h a' ha' hdeleted
      · exact h a ha hdeleted
  | registerKey | revokeKey | createPolicy | updatePolicy | createBinding | deleteBinding =>
      exact iff_of_true h id

/-- The operation does not ask for an account in a tenant that is deleted. -/
def RevivesNone (s : AppState) : GatewayOp → Prop
  | .admin _ _ request => ∀ db ∈ s.db, ¬ request.Revives db
  | .evict _ | .evaluateCached _ _ _ _ _ _ _ => True

instance (s : AppState) : (op : GatewayOp) → Decidable (RevivesNone s op)
  | .admin _ _ request => inferInstanceAs (Decidable (∀ db ∈ s.db, ¬ request.Revives db))
  | .evict _ | .evaluateCached _ _ _ _ _ _ _ => inferInstanceAs (Decidable True)

/-- As long as no request creates or activates an account in a deleted tenant, no account of
a deleted tenant is active. -/
theorem deletion_cascade_maintained {s t : AppState} {ops : List GatewayOp}
    (hs : ∀ db ∈ s.db, db.CascadeHolds) (hguard : Guarded (gatewayStep P) RevivesNone s ops)
    (hrun : run (gatewayStep P) s ops = some t) : ∀ db ∈ t.db, db.CascadeHolds := by
  have hstep : ∀ s op t, AppState.Satisfies Database.CascadeHolds s → RevivesNone s op →
      gatewayStep P s op = some t → t.Satisfies Database.CascadeHolds := by
    intro s op t hs hop hstep
    refine hs.step hstep fun ctx now request db db' heq hdb h hc ↦ ?_
    subst heq
    exact (hc.cascadeHolds_iff h).mpr (hop db hdb)
  exact run_invariant hstep hguard hrun hs

/-- A tenant with an account is deleted. -/
def deleteSampleTenant : List GatewayOp :=
  bindSamplePolicy ++ [.admin sampleAdmin 4 (.deleteTenant ⟨⟨1⟩⟩)]

theorem deletion_cascade_maintained_sample :
    ∃ t db, run (gatewayStep .trusting) .initial deleteSampleTenant = some t ∧ t.db = some db ∧
      db.TenantDeleted ⟨⟨1⟩⟩ ∧ db.serviceAccounts.rows.length = 1 ∧ db.CascadeHolds := by
  have heval : ((run (gatewayStep .trusting) .initial deleteSampleTenant).bind
      AppState.db).map (fun db ↦ decide (db.TenantDeleted ⟨⟨1⟩⟩ ∧
        db.serviceAccounts.rows.length = 1)) = some true := by
    decide +kernel
  have hguard : Guarded (gatewayStep .trusting) RevivesNone .initial deleteSampleTenant := by
    decide +kernel
  obtain ⟨db, hdb, hsample⟩ := Option.map_eq_some_iff.mp heval
  obtain ⟨t, hrun, hdb⟩ := Option.bind_eq_some_iff.mp hdb
  obtain ⟨hdeleted, hlength⟩ := of_decide_eq_true hsample
  have hempty : ∀ db ∈ AppState.initial.db, db.CascadeHolds := by
    intro db hdb
    cases hdb
    exact fun a ha ↦ absurd ha List.not_mem_nil
  exact ⟨t, db, hrun, hdb, hdeleted, hlength,
    deletion_cascade_maintained hempty hguard hrun db hdb⟩

/-- Its account can be activated again, and further ones can be created. -/
theorem activated_in_deleted_tenant :
    ∃ t db, run (gatewayStep .trusting) .initial (deleteSampleTenant ++
        [.admin sampleAdmin 5 (.activateServiceAccount ⟨⟨2⟩⟩ ⟨⟨1⟩⟩),
          .admin sampleAdmin 6
            (.createServiceAccount ⟨⟨⟨1⟩⟩, "Web", "web", "prod", none⟩ ⟨⟨5⟩⟩)]) = some t ∧
      t.db = some db ∧ db.TenantDeleted ⟨⟨1⟩⟩ ∧
      (∃ a ∈ db.serviceAccounts.rows, a.id = ⟨⟨2⟩⟩ ∧ a.tenantId = ⟨⟨1⟩⟩ ∧ a.status = .active) ∧
      ∃ a ∈ db.serviceAccounts.rows, a.id = ⟨⟨5⟩⟩ ∧ a.tenantId = ⟨⟨1⟩⟩ ∧ a.status = .active := by
  have heval : ((run (gatewayStep .trusting) .initial (deleteSampleTenant ++
        [.admin sampleAdmin 5 (.activateServiceAccount ⟨⟨2⟩⟩ ⟨⟨1⟩⟩),
          .admin sampleAdmin 6
            (.createServiceAccount ⟨⟨⟨1⟩⟩, "Web", "web", "prod", none⟩ ⟨⟨5⟩⟩)])).bind
      AppState.db).map (fun db ↦ decide (db.TenantDeleted ⟨⟨1⟩⟩ ∧
        (∃ a ∈ db.serviceAccounts.rows,
          a.id = ⟨⟨2⟩⟩ ∧ a.tenantId = ⟨⟨1⟩⟩ ∧ a.status = .active) ∧
        ∃ a ∈ db.serviceAccounts.rows,
          a.id = ⟨⟨5⟩⟩ ∧ a.tenantId = ⟨⟨1⟩⟩ ∧ a.status = .active)) = some true := by
    decide +kernel
  obtain ⟨db, hdb, hsample⟩ := Option.map_eq_some_iff.mp heval
  obtain ⟨t, hrun, hdb⟩ := Option.bind_eq_some_iff.mp hdb
  exact ⟨t, db, hrun, hdb, of_decide_eq_true hsample⟩

end SmartGate
