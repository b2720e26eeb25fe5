import Mathlib.Data.List.Perm.Basic
import SmartGate.Admin.ControlPlane

/-!
# The audit trail of a tenant

Every successful request that writes emits one audit event, and a request that fails emits
none.  The event names its action and target.  It can be found under the tenant of its object
only if the handler passes that tenant on.  Five handlers pass none: those for keys, those for
bindings, and the one that deletes routes.
-/

namespace SmartGate

open Transition

/-! ## What an event records -/

structure Recorded where
  tenantId : Option TenantId
  actorId : String
  action : String
  targetType : String
  targetId : String
  deriving DecidableEq

def CreateAuditEvent.recorded (event : CreateAuditEvent) : Recorded :=
  ⟨event.tenantId, event.actorId, event.action, event.targetType, event.targetId⟩

def AuditEvent.recorded (event : AuditEvent) : Recorded :=
  ⟨event.tenantId, event.actorId, event.action, event.targetType, event.targetId⟩

def Database.tenantOfAccount (db : Database) (sa : ServiceAccountId) : Option TenantId :=
  (db.serviceAccounts.get sa).map ServiceAccount.tenantId

namespace AdminRequest

/-- The tenant that the object of a request belongs to.  Keys and bindings belong to the
tenant of their service account. -/
def owner (db : Database) : AdminRequest → Option TenantId
  | .createTenant _ id | .updateTenant id _ | .deleteTenant id => some id
  | .createServiceAccount body _ => some body.tenantId
  | .updateServiceAccount id _ _ | .suspendServiceAccount id _ | .activateServiceAccount id _ =>
      db.tenantOfAccount id
  | .registerKey sa _ _ | .revokeKey sa _ | .createBinding sa _ _ | .deleteBinding sa _ =>
      db.tenantOfAccount sa
  | .createPolicy body _ => some body.tenantId
  | .updatePolicy id _ _ | .deletePolicy id _ => (db.policies.get id).map Policy.tenantId

/-- The action of a request with the type and the identifier of its target. -/
def subject : AdminRequest → String × String × String
  | .createTenant _ id => ("tenant.created", "tenant", id.display)
  | .updateTenant id _ => ("tenant.updated", "tenant", id.display)
  | .deleteTenant id => ("tenant.deleted", "tenant", id.display)
  | .createServiceAccount _ id => ("service_account.created", "service_account", id.display)
  | .updateServiceAccount id _ _ => ("service_account.updated", "service_account", id.display)
  | .suspendServiceAccount id _ => ("service_account.suspended", "service_account", id.display)
  | .activateServiceAccount id _ => ("service_account.activated", "service_account", id.display)
  | .registerKey _ _ id => ("key.registered", "key", id.display)
  | .revokeKey _ id => ("key.revoked", "key", id.display)
  | .createPolicy _ id => ("policy.created", "policy", id.display)
  | .updatePolicy id _ _ => ("policy.updated", "policy", id.display)
  | .deletePolicy id _ => ("policy.deleted", "policy", id.display)
  | .createBinding sa policyId _ =>
      ("policy_binding.created", "policy_binding", bindingTarget sa policyId)
  | .deleteBinding sa policyId =>
      ("policy_binding.deleted", "policy_binding", bindingTarget sa policyId)

/-- The handlers that pass no tenant to `emit_audit`. -/
def passesNoTenant : AdminRequest → Bool
  | .registerKey _ _ _ | .revokeKey _ _ | .createBinding _ _ _ | .deleteBinding _ _ => true
  | _ => false

end AdminRequest

namespace RouteRequest

def owner (routes : RouteTable) : RouteRequest → Option TenantId
  | .create body _ => body.tenantId
  | .update id _ | .delete id => (routes.get id).bind fun row ↦ row.tenantId

def subject : RouteRequest → String × String × String
  | .create _ id => ("route.created", "route", id.display)
  | .update id _ => ("route.updated", "route", id.display)
  | .delete id => ("route.deleted", "route", id.display)

def passesNoTenant : RouteRequest → Bool
  | .delete _ => true
  | _ => false

end RouteRequest

def Recorded.of (tenantId : Option TenantId) (ctx : AdminContext)
    (subject : String × String × String) : Recorded :=
  ⟨tenantId, ctx.adminId.display, subject.1, subject.2.1, subject.2.2⟩

/-- The event that a successful request should leave behind. -/
def ControlCall.expected (c : ControlCall) (g : GatewayDatabase) : Option Recorded :=
  match c.request with
  | .admin request => some (.of (request.owner g.toDatabase) c.ctx request.subject)
  | .route request => some (.of (request.owner g.routes) c.ctx request.subject)
  | .read _ => none

/-- The event that a successful request leaves behind. -/
def ControlCall.emitted (c : ControlCall) (g : GatewayDatabase) : Option Recorded :=
  match c.request with
  | .admin request => some (.of
      (if request.passesNoTenant then none else request.owner g.toDatabase) c.ctx request.subject)
  | .route request => some (.of
      (if request.passesNoTenant then none else request.owner g.routes) c.ctx request.subject)
  | .read _ => none

/-- The handler passes the tenant of its object on, or the object has none. -/
def ControlCall.Attributes (c : ControlCall) (g : GatewayDatabase) : Prop :=
  match c.request with
  | .admin request => request.passesNoTenant = true → request.owner g.toDatabase = none
  | .route request => request.passesNoTenant = true → request.owner g.routes = none
  | .read _ => True

/-! ## The events of the handlers -/

theorem audited_eq_ok {α σ : Type} {answer : α → AdminAnswer} {event : α → CreateAuditEvent}
    {handled : Except GatewayError (α × σ)} {a : AdminAnswer} {e : CreateAuditEvent} {s : σ}
    (h : audited answer event handled = .ok ((a, e), s)) :
    ∃ x, handled = .ok (x, s) ∧ e = event x := by
  obtain ⟨⟨x, _⟩, hhandled, heq⟩ := map_eq_ok.mp h
  cases heq
  exact ⟨x, hhandled, rfl⟩

theorem tenantOfAccount_of_mem {db : Database} {a : ServiceAccount}
    (h : a ∈ db.serviceAccounts.rows) : db.tenantOfAccount a.id = some a.tenantId := by
  rw [Database.tenantOfAccount, Table.get_eq_some.mpr ⟨h, rfl⟩, Option.map_some]

theorem ServiceAccountRepo.updateScoped_row {db db' : Database} {tenantId : TenantId}
    {id : ServiceAccountId} {f : ServiceAccount → ServiceAccount} {hf : Database.KeepsAccount f}
    {a : ServiceAccount}
    (h : ServiceAccountRepo.updateScoped db tenantId id f hf = .ok (a, db')) :
    a.id = id ∧ db.tenantOfAccount id = some a.tenantId := by
  obtain ⟨⟨a₀, ha₀, hselected, rfl⟩, _⟩ := returning_eq_ok h
  obtain ⟨rfl, _⟩ := of_decide_eq_true hselected
  rw [hf.id, hf.tenantId]
  exact ⟨rfl, tenantOfAccount_of_mem ha₀⟩

/-- A successful request emits the event of its action and target.  The event has the tenant
of the object, unless the handler passes none. -/
theorem answerAdmin_recorded {P : Primitives} {ctx : AdminContext} {now : ℕ} {s s' : AppState}
    {request : AdminRequest} {a : AdminAnswer} {e : CreateAuditEvent} {db : Database}
    (hdb : s.db = some db) (h : answerAdmin P ctx now s request = .ok ((a, e), s')) :
    e.recorded = .of (if request.passesNoTenant then none else request.owner db) ctx
      request.subject := by
  cases request with
  | createTenant body id =>
      rw [answerAdmin] at h
      obtain ⟨t, hx, rfl⟩ := audited_eq_ok h
      obtain ⟨_, _, _, hcreate, _⟩ := AppState.execute_eq_ok (createTenant_executed hx)
      obtain ⟨rfl, _⟩ := TenantRepo.create_eq_ok hcreate
      rfl
  | updateTenant id body =>
      rw [answerAdmin] at h
      obtain ⟨t, hx, rfl⟩ := audited_eq_ok h
      obtain ⟨_, _, _, hupdate, _⟩ := AppState.execute_eq_ok (updateTenant_executed hx)
      obtain ⟨⟨t₀, _, hid, rfl⟩, _⟩ := returning_eq_ok hupdate
      obtain rfl := of_decide_eq_true hid
      rfl
  | deleteTenant id =>
      rw [answerAdmin] at h
      obtain ⟨t, hx, rfl⟩ := audited_eq_ok h
      obtain ⟨_, _, _, hupdate, _⟩ := AppState.execute_eq_ok (of_requireAdminRole hx)
      obtain ⟨⟨t₀, _, hid, rfl⟩, _⟩ := returning_eq_ok hupdate
      obtain rfl := of_decide_eq_true hid
      rfl
  | createServiceAccount body id =>
      rw [answerAdmin] at h
      obtain ⟨a, hx, rfl⟩ := audited_eq_ok h
      obtain ⟨_, _, hx⟩ := createServiceAccount_executed hx
      obtain ⟨_, _, _, hcreate, _⟩ := AppState.execute_eq_ok hx
      obtain ⟨rfl, _⟩ := ServiceAccountRepo.create_eq_ok hcreate
      rfl
  | updateServiceAccount id tenantId body =>
      rw [answerAdmin] at h
      obtain ⟨a, hx, rfl⟩ := audited_eq_ok h
      obtain ⟨db₀, _, hdb₀, hupdate, _⟩ := AppState.execute_eq_ok (updateServiceAccount_executed hx)
      cases hdb.symm.trans hdb₀
      obtain ⟨rfl, htenant⟩ := ServiceAccountRepo.updateScoped_row hupdate
      rw [AdminRequest.owner, htenant]
      rfl
  | suspendServiceAccount id tenantId | activateServiceAccount id tenantId =>
      rw [answerAdmin] at h
      obtain ⟨a, hx, rfl⟩ := audited_eq_ok h
      obtain ⟨db₀, _, hdb₀, hupdate, _⟩ := AppState.execute_eq_ok (of_requireAdminRole hx)
      cases hdb.symm.trans hdb₀
      obtain ⟨rfl, htenant⟩ := ServiceAccountRepo.updateScoped_row hupdate
      rw [AdminRequest.owner, htenant]
      rfl
  | registerKey sa body id =>
      rw [answerAdmin] at h
      obtain ⟨key, hx, rfl⟩ := audited_eq_ok h
      obtain ⟨_, _, hx⟩ := registerKey_executed hx
      obtain ⟨_, _, _, hregister, _⟩ := AppState.execute_eq_ok hx
      obtain ⟨rfl, _⟩ := KeyRepo.registerKey_eq_ok hregister
      rfl
  | createPolicy body id =>
      rw [answerAdmin] at h
      obtain ⟨p, hx, rfl⟩ := audited_eq_ok h
      obtain ⟨_, _, _, hcreate, _⟩ := AppState.execute_eq_ok (createPolicy_executed hx).2
      obtain ⟨rfl, _⟩ := PolicyRepo.create_eq_ok hcreate
      rfl
  | updatePolicy id tenantId body =>
      rw [answerAdmin] at h
      obtain ⟨p, hx, rfl⟩ := audited_eq_ok h
      obtain ⟨db₀, _, hdb₀, hupdate, _⟩ := AppState.execute_eq_ok (updatePolicy_executed hx).2
      cases hdb.symm.trans hdb₀
      obtain ⟨⟨p₀, hp₀, hselected, rfl⟩, _⟩ := returning_eq_ok hupdate
      obtain ⟨rfl, rfl⟩ := of_decide_eq_true hselected
      rw [AdminRequest.owner, Table.get_eq_some.mpr ⟨hp₀, rfl⟩]
      rfl
  | deletePolicy id tenantId =>
      rw [answerAdmin] at h
      obtain ⟨_, hx, rfl⟩ := audited_eq_ok h
      obtain ⟨db₀, _, hdb₀, hdelete, _⟩ := AppState.execute_eq_ok (of_requireAdminRole hx)
      cases hdb.symm.trans hdb₀
      obtain ⟨_, hdelete, _⟩ := map_eq_ok.mp hdelete
      obtain ⟨⟨p, hp, rfl, rfl⟩, _⟩ := PolicyRepo.delete_eq_ok hdelete
      rw [AdminRequest.owner, Table.get_eq_some.mpr ⟨hp, rfl⟩]
      rfl
  | revokeKey | createBinding | deleteBinding =>
      rw [answerAdmin] at h
      obtain ⟨_, _, rfl⟩ := audited_eq_ok h
      rfl

theorem RouteRepo.update_row {db db' : RouteDatabase} {id : RouteId} {input : UpdateRoute}
    {route : ProviderRoute} (h : RouteRepo.update db id input = (.ok route, db')) :
    ∃ row, db.routes.get id = some row ∧ (input.apply row).decode = .ok route := by
  unfold RouteRepo.update at h
  split at h
  · cases h
  · next row hrow => exact ⟨row, hrow, (Prod.mk.inj h).1⟩

theorem Route.decode_columns {row : RouteRow} {route : ProviderRoute}
    (h : row.decode = .ok route) : route.id = row.id ∧ route.tenantId = row.tenantId := by
  rw [Route.decode_eq_ok h]
  exact ⟨rfl, rfl⟩

theorem answerRoute_recorded {ctx : AdminContext} {now : ℕ} {s s' : RouteApp}
    {request : RouteRequest} {a : AdminAnswer} {e : CreateAuditEvent}
    (h : answerRoute ctx now s request = (.ok (a, e), s')) :
    ∃ db, s.db = some db ∧ e.recorded =
      .of (if request.passesNoTenant then none else request.owner db.routes) ctx
        request.subject := by
  cases request with
  | create body id =>
      obtain ⟨hanswer, hstate⟩ := Prod.mk.inj h
      obtain ⟨route, hroute, heq⟩ := map_eq_ok.mp hanswer
      cases heq
      obtain ⟨_, db, _, hdb, hcreate, _⟩ := RouteApp.execute_eq_ok (Prod.ext hroute hstate)
      obtain ⟨hid, htenant⟩ := Route.decode_columns (RouteRepo.create_eq_ok hcreate).1
      refine ⟨db, hdb, ?_⟩
      rw [CreateAuditEvent.recorded, emitAudit, hid, htenant]
      rfl
  | update id body =>
      obtain ⟨hanswer, hstate⟩ := Prod.mk.inj h
      obtain ⟨route, hroute, heq⟩ := map_eq_ok.mp hanswer
      cases heq
      obtain ⟨_, db, _, hdb, hupdate, _⟩ := RouteApp.execute_eq_ok (Prod.ext hroute hstate)
      obtain ⟨row, hrow, hdecode⟩ := RouteRepo.update_row hupdate
      obtain ⟨hid, htenant⟩ := Route.decode_columns hdecode
      obtain ⟨_, rfl⟩ := Table.get_eq_some.mp hrow
      refine ⟨db, hdb, ?_⟩
      rw [CreateAuditEvent.recorded, emitAudit, hid, htenant, RouteRequest.owner, hrow]
      rfl
  | delete id =>
      obtain ⟨hanswer, hstate⟩ := Prod.mk.inj h
      obtain ⟨_, hdelete, heq⟩ := map_eq_ok.mp hanswer
      cases heq
      obtain ⟨_, db, _, hdb, _⟩ := RouteApp.execute_eq_ok (Prod.ext hdelete hstate)
      exact ⟨db, hdb, rfl⟩

/-! ## The trail -/

/-- What the inserted and the pending events record. -/
def ControlPlane.trail (s : ControlPlane) : List Recorded :=
  (s.db.elim [] fun g ↦ g.auditEvents.rows.map AuditEvent.recorded) ++
    s.pending.map CreateAuditEvent.recorded

/-- The event that should be left behind by a request, if it succeeds. -/
def ControlPlane.due (P : Primitives) (codec : CursorCodec) (s : ControlPlane)
    (c : ControlCall) : Option Recorded :=
  if (s.serve P codec c).1.toOption.isSome then s.db.bind c.expected else none

theorem GatewayDatabase.adopt_of_some {o : Option GatewayDatabase} {d : Option Database}
    {g : GatewayDatabase} {db : Database} (ho : o = some g) (hd : d = some db)
    (h : ∀ d₀ ∈ o.map fun g ↦ g.toDatabase, ∀ d' ∈ d, d₀.KeepsTenants d')
    (hkeeps : g.toDatabase.KeepsTenants db) :
    adopt o d h = some (g.withDatabase db hkeeps) := by
  subst ho hd
  rfl

theorem ControlPlane.serveAdmin_of_ok {P : Primitives} {ctx : AdminContext} {now : ℕ}
    {request : AdminRequest} {s : ControlPlane} {a : AdminAnswer} {e : CreateAuditEvent}
    {app : AppState} (redis : Bool)
    (h : answerAdmin P ctx now ⟨s.db.map fun g ↦ g.toDatabase, s.policyCache⟩ request =
      .ok ((a, e), app)) :
    ∃ g db' hkeeps, s.db = some g ∧ (s.serveAdmin P ctx now redis request).1 = .ok a ∧
      (s.serveAdmin P ctx now redis request).2.db = some (g.withDatabase db' hkeeps) ∧
      (s.serveAdmin P ctx now redis request).2.pending = s.pending ++ [e] := by
  obtain ⟨db, db', hdb, hdb', hcommitted⟩ := committed_of_answerAdmin h
  obtain ⟨g, hg, rfl⟩ := Option.map_eq_some_iff.mp hdb
  refine ⟨g, db', fun id hid ↦ hcommitted.hasTenant hid, hg, ?_⟩
  unfold serveAdmin
  split
  · next he => cases h.symm.trans he
  · next hok =>
    cases h.symm.trans hok
    exact ⟨rfl, GatewayDatabase.adopt_of_some hg hdb' _ _, rfl⟩

theorem GatewayDatabase.adoptRoutes_auditEvents {α : Type} (g : Option GatewayDatabase)
    (db : Option RouteDatabase)
    (h : ∀ d ∈ g.map fun g ↦ g.toRouteDatabase, ∀ d' ∈ db, d'.toDatabase = d.toDatabase)
    (f : Table AuditEvent.id → List α) :
    ((adoptRoutes g db h).elim [] fun g ↦ f g.auditEvents) = g.elim [] fun g ↦ f g.auditEvents := by
  cases g <;> cases db <;> rfl

theorem Recorded.of_ite_iff {passesNoTenant : Bool} {owner : Option TenantId} (ctx : AdminContext)
    (subject : String × String × String) :
    Recorded.of (if passesNoTenant then none else owner) ctx subject = .of owner ctx subject ↔
      (passesNoTenant = true → owner = none) := by
  cases passesNoTenant with
  | true =>
      rw [if_pos rfl]
      refine ⟨fun h _ ↦ (Recorded.mk.inj h).1.symm, fun h ↦ ?_⟩
      rw [h rfl]
  | false => exact ⟨fun _ h ↦ absurd h Bool.false_ne_true, fun _ ↦ rfl⟩

theorem ControlCall.emitted_eq_expected_iff {c : ControlCall} {g : GatewayDatabase} :
    c.emitted g = c.expected g ↔ c.Attributes g := by
  unfold emitted expected Attributes
  cases c.request with
  | admin request => rw [Option.some_inj, Recorded.of_ite_iff]
  | route request => rw [Option.some_inj, Recorded.of_ite_iff]
  | read request => exact ⟨fun _ ↦ trivial, fun _ ↦ rfl⟩

namespace ControlPlane

variable {ctx : AdminContext} {now : ℕ} {s : ControlPlane}

theorem serveAdmin_trail (P : Primitives) (redis : Bool) (request : AdminRequest) :
    (s.serveAdmin P ctx now redis request).2.trail = s.trail ++
      (if (s.serveAdmin P ctx now redis request).1.toOption.isSome then
        s.db.bind (ControlCall.emitted ⟨ctx, now, redis, .admin request⟩) else none).toList := by
  cases hanswer : answerAdmin P ctx now ⟨s.db.map fun g ↦ g.toDatabase, s.policyCache⟩
      request with
  | error e =>
      rw [serveAdmin_of_error hanswer]
      exact (List.append_nil _).symm
  | ok answered =>
      obtain ⟨⟨a, e⟩, app⟩ := answered
      obtain ⟨g, db', hkeeps, hg, hok, hdb, hpending⟩ := serveAdmin_of_ok redis hanswer
      have hrecorded := answerAdmin_recorded (congrArg (Option.map _) hg) hanswer
      rw [hok, trail, trail, hdb, hpending, hg, List.map_append, ← List.append_assoc,
        List.map_singleton, hrecorded]
      rfl

theorem serveRoute_answer (request : RouteRequest) :
    (s.serveRoute ctx now request).1 =
      (answerRoute ctx now ⟨s.db.map fun g ↦ g.toRouteDatabase, s.routeCache⟩
        request).1.map Prod.fst := rfl

theorem serveRoute_trail_append (request : RouteRequest) :
    (s.serveRoute ctx now request).2.trail = s.trail ++
      ((answerRoute ctx now ⟨s.db.map fun g ↦ g.toRouteDatabase, s.routeCache⟩
        request).1.toOption.map fun answered ↦ answered.2.recorded).toList := by
  unfold serveRoute trail
  dsimp only
  rw [GatewayDatabase.adoptRoutes_auditEvents s.db _ _ fun t ↦ t.rows.map AuditEvent.recorded,
    List.map_append, ← List.append_assoc]
  congr 1
  cases (answerRoute ctx now ⟨s.db.map fun g ↦ g.toRouteDatabase, s.routeCache⟩ request).1 <;> rfl

theorem serveRoute_trail (redis : Bool) (request : RouteRequest) :
    (s.serveRoute ctx now request).2.trail = s.trail ++
      (if (s.serveRoute ctx now request).1.toOption.isSome then
        s.db.bind (ControlCall.emitted ⟨ctx, now, redis, .route request⟩) else none).toList := by
  rw [serveRoute_trail_append, serveRoute_answer]
  rcases hanswer : answerRoute ctx now ⟨s.db.map fun g ↦ g.toRouteDatabase, s.routeCache⟩
      request with ⟨_ | ⟨a, e⟩, app⟩
  · rw [hanswer]
    rfl
  · obtain ⟨db, hdb, hrecorded⟩ := answerRoute_recorded hanswer
    obtain ⟨g, hg, rfl⟩ := Option.map_eq_some_iff.mp hdb
    rw [hanswer, hg]
    exact congrArg (fun e ↦ s.trail ++ [e]) hrecorded

/-- A request that fails leaves the trail alone, and one that succeeds adds its event. -/
theorem serve_trail (P : Primitives) (codec : CursorCodec) (s : ControlPlane) (c : ControlCall) :
    (s.serve P codec c).2.trail = s.trail ++
      (if (s.serve P codec c).1.toOption.isSome then s.db.bind c.emitted else none).toList := by
  obtain ⟨ctx, now, redis, request⟩ := c
  cases request with
  | admin request => exact serveAdmin_trail P redis request
  | route request => exact serveRoute_trail redis request
  | read request =>
      have hnone : s.db.bind (ControlCall.emitted ⟨ctx, now, redis, .read request⟩) = none := by
        cases s.db <;> rfl
      rw [hnone, ite_self, Option.toList_none, List.append_nil]
      rfl

/-- The event that is added is the one that is due exactly if the handler attributes it. -/
theorem serve_trail_due_iff {P : Primitives} {codec : CursorCodec} {s : ControlPlane}
    {c : ControlCall} :
    (s.serve P codec c).2.trail = s.trail ++ (s.due P codec c).toList ↔
      ((s.serve P codec c).1.toOption.isSome → ∀ g ∈ s.db, c.Attributes g) := by
  rw [serve_trail, due, List.append_cancel_left_eq]
  split_ifs with hok
  · cases s.db with
    | none => simp
    | some g =>
        have hinj : (c.emitted g).toList = (c.expected g).toList ↔ c.emitted g = c.expected g :=
          ⟨fun h ↦ by simpa using congrArg List.head? h, congrArg Option.toList⟩
        simp [hok, hinj, ControlCall.emitted_eq_expected_iff]
  · simp [hok]

end ControlPlane

/-! ## Runs -/

def controlStep (P : Primitives) (codec : CursorCodec) (s : ControlPlane) :
    ControlOp → Option ControlPlane
  | .call c => some (s.serve P codec c).2
  | .deliver i id now => some (s.deliver i id now)

/-- A request attributes its event, and an insert succeeds. -/
def Accountable (s : ControlPlane) : ControlOp → Prop
  | .call c => ∀ g ∈ s.db, c.Attributes g
  | .deliver i id now => ∀ event ∈ s.pending[i]?, ∀ g ∈ s.db,
      (AuditRepo.insert g event id now).toOption.isSome

instance (c : ControlCall) (g : GatewayDatabase) : Decidable (c.Attributes g) :=
  match c with
  | ⟨_, _, _, .admin request⟩ =>
      inferInstanceAs (Decidable
        (request.passesNoTenant = true → request.owner g.toDatabase = none))
  | ⟨_, _, _, .route request⟩ =>
      inferInstanceAs (Decidable (request.passesNoTenant = true → request.owner g.routes = none))
  | ⟨_, _, _, .read _⟩ => inferInstanceAs (Decidable True)

instance (s : ControlPlane) : (op : ControlOp) → Decidable (Accountable s op)
  | .call c => inferInstanceAs (Decidable (∀ g ∈ s.db, c.Attributes g))
  | .deliver i id now => inferInstanceAs (Decidable (∀ event ∈ s.pending[i]?, ∀ g ∈ s.db,
      (AuditRepo.insert g event id now).toOption.isSome))

/-- The events that are due to the requests of a run that succeeded, in their order. -/
def ledger (P : Primitives) (codec : CursorCodec) : ControlPlane → List ControlOp → List Recorded
  | _, [] => []
  | s, .call c :: ops => (s.due P codec c).toList ++ ledger P codec (s.serve P codec c).2 ops
  | s, .deliver i id now :: ops => ledger P codec (s.deliver i id now) ops

/-- An insert moves an event from the pending ones to the others. -/
theorem ControlPlane.deliver_trail {s : ControlPlane} {i : ℕ} {id : AuditEventId} {now : ℕ}
    (h : Accountable s (.deliver i id now)) : (s.deliver i id now).trail.Perm s.trail := by
  unfold deliver
  split
  · next event g hevent hg =>
    obtain ⟨⟨row, g'⟩, hinsert⟩ := Option.isSome_iff_exists.mp (h event hevent g hg)
    have hok := eq_ok_of_toOption hinsert
    obtain ⟨_, hrows⟩ := AuditRepo.insert_eq_ok hok
    rw [hok]
    unfold trail
    dsimp only
    rw [hg, Option.elim_some, Option.elim_some, hrows]
    have hperm : (event :: s.pending.eraseIdx i).Perm s.pending := by
      obtain ⟨hlt, rfl⟩ := List.getElem?_eq_some_iff.mp hevent
      exact List.getElem_cons_eraseIdx_perm hlt
    exact List.perm_middle.symm.trans ((hperm.map CreateAuditEvent.recorded).append_left _)
  · exact List.Perm.refl _

theorem serveAll_trail {P : Primitives} {codec : CursorCodec} {s : ControlPlane}
    {ops : List ControlOp} (h : Guarded (controlStep P codec) Accountable s ops) :
    (serveAll P codec s ops).2.trail.Perm (s.trail ++ ledger P codec s ops) := by
  induction ops generalizing s with
  | nil =>
      rw [ledger, List.append_nil]
      exact List.Perm.refl _
  | cons op ops ih =>
      cases op with
      | call c =>
          have hrest := ih (h.tail rfl)
          rwa [ControlPlane.serve_trail_due_iff.mpr fun _ ↦ h.head, List.append_assoc] at hrest
      | deliver i id now =>
          exact (ih (h.tail rfl)).trans ((ControlPlane.deliver_trail h.head).append_right _)

theorem selects_tenant (tenant : TenantId) (event : AuditEvent) :
    AuditFilter.selects { tenantId := some tenant } event =
      decide (event.tenantId = some tenant) := by
  simp [AuditFilter.selects]

/-- In a run whose requests attribute their events and whose inserts succeed, the events
listed for a tenant are those that are due to the requests on its objects that succeeded,
each of them once, along with the events that it had before. -/
theorem tenant_audit_trail_complete (P : Primitives) (codec : CursorCodec) {s : ControlPlane}
    {ops : List ControlOp} {g : GatewayDatabase}
    (hguard : Guarded (controlStep P codec) Accountable s ops)
    (hdelivered : (serveAll P codec s ops).2.pending = [])
    (hdb : (serveAll P codec s ops).2.db = some g) (tenant : TenantId) {limits : List ℤ}
    (hlimits : g.auditEvents.rows.length < limits.length) :
    ∃ pages, follow (fun db ↦ AuditRepo.list codec db { tenantId := some tenant }) none
        (limits.map fun limit ↦ (g, limit)) = .ok pages ∧ Finished pages ∧
      ((pages.flatMap Page.items).map AuditEvent.recorded).Perm
        ((s.trail ++ ledger P codec s ops).filter fun r ↦ decide (r.tenantId = some tenant)) := by
  have hunique : ∀ db : GatewayDatabase, (db.auditEvents.rows.map
      (auditListing { tenantId := some tenant }).id).Nodup :=
    ListQuery.nodup_id (.auditEvents { tenantId := some tenant })
  obtain ⟨pages, hpages, hfinished, hitems⟩ := Listing.lists_table
    (auditListing { tenantId := some tenant }) codec
    (fun db : GatewayDatabase ↦ db.auditEvents.rows) hunique (fun _ _ ↦ trivial) hlimits
  refine ⟨pages, hpages, hfinished, ?_⟩
  have hlisted : (pages.flatMap Page.items).Perm
      (g.auditEvents.rows.filter fun event ↦ decide (event.tenantId = some tenant)) := by
    have hencode : (pages.flatMap Page.items).map
        (auditListing { tenantId := some tenant }).encode = pages.flatMap Page.items :=
      List.map_id _
    rw [← List.filter_congr fun event _ ↦ selects_tenant tenant event]
    rwa [hencode] at hitems
  have htrail := serveAll_trail hguard
  rw [ControlPlane.trail, hdb, hdelivered, Option.elim_some, List.map_nil,
    List.append_nil] at htrail
  have hfiltered := htrail.filter fun r ↦ decide (r.tenantId = some tenant)
  rw [List.filter_map] at hfiltered
  exact (hlisted.map AuditEvent.recorded).trans hfiltered

/-! ## Sample runs -/

/-- A tenant with a service account, and the two events are inserted, the later one first. -/
def accountRun : List ControlOp :=
  [.call ⟨sampleAdmin, 0, true, .admin (.createTenant ⟨"Acme Corp", "acme-corp", none⟩ ⟨⟨1⟩⟩)⟩,
    .call ⟨sampleAdmin, 1, true,
      .admin (.createServiceAccount ⟨⟨⟨1⟩⟩, "Batch jobs", "batch-jobs", "prod", none⟩ ⟨⟨2⟩⟩)⟩,
    .deliver 1 ⟨⟨7⟩⟩ 2,
    .deliver 0 ⟨⟨8⟩⟩ 3]

/-- A key is registered for the service account. -/
def keyRun : List ControlOp :=
  accountRun ++
    [.call ⟨sampleAdmin, 4, true,
        .admin (.registerKey ⟨⟨2⟩⟩ ⟨"batch-key", samplePublicKeyPem, none⟩ ⟨⟨3⟩⟩)⟩,
      .deliver 0 ⟨⟨9⟩⟩ 5]

/-- The event of the registration is inserted and is not listed for the tenant. -/
theorem key_registration_not_listed :
    ∃ g page, (serveAll .trusting unaryCodec .initial keyRun).2.db = some g ∧
      (serveAll .trusting unaryCodec .initial keyRun).2.pending = [] ∧
      (ledger .trusting unaryCodec .initial keyRun).map (fun r ↦ (r.tenantId, r.action)) =
        [(some ⟨⟨1⟩⟩, "tenant.created"), (some ⟨⟨1⟩⟩, "service_account.created"),
          (some ⟨⟨1⟩⟩, "key.registered")] ∧
      AuditRepo.list unaryCodec g { tenantId := some ⟨⟨1⟩⟩ } none 50 = .ok page ∧
      page.items.map AuditEvent.action = ["tenant.created", "service_account.created"] ∧
      page.hasMore = false := by
  have hpending : (serveAll .trusting unaryCodec .initial keyRun).2.pending.length = 0 := by
    decide +kernel
  have hledger : (ledger .trusting unaryCodec .initial keyRun).map
      (fun r ↦ (r.tenantId, r.action)) =
        [(some ⟨⟨1⟩⟩, "tenant.created"), (some ⟨⟨1⟩⟩, "service_account.created"),
          (some ⟨⟨1⟩⟩, "key.registered")] := by decide +kernel
  have hlisted : ((serveAll .trusting unaryCodec .initial keyRun).2.db.bind fun g ↦
      (AuditRepo.list unaryCodec g { tenantId := some ⟨⟨1⟩⟩ } none 50).toOption.map
        fun page ↦ (page.items.map AuditEvent.action, page.hasMore)) =
      some (["tenant.created", "service_account.created"], false) := by decide +kernel
  obtain ⟨g, hg, hpage⟩ := Option.bind_eq_some_iff.mp hlisted
  obtain ⟨page, hpage, heq⟩ := Option.map_eq_some_iff.mp hpage
  obtain ⟨hitems, hmore⟩ := Prod.mk.inj heq
  exact ⟨g, page, hg, List.length_eq_zero_iff.mp hpending, hledger, eq_ok_of_toOption hpage,
    hitems, hmore⟩

/-- Without the registration, the two events are listed. -/
theorem tenant_audit_trail_complete_account :
    ∃ g pages, (serveAll .trusting unaryCodec .initial accountRun).2.db = some g ∧
      follow (fun db ↦ AuditRepo.list unaryCodec db { tenantId := some ⟨⟨1⟩⟩ }) none
        ([1, 1, 1].map fun limit ↦ (g, limit)) = .ok pages ∧ Finished pages ∧
      ((pages.flatMap Page.items).map AuditEvent.recorded).Perm
        [⟨some ⟨⟨1⟩⟩, sampleAdmin.adminId.display, "tenant.created", "tenant",
            TenantId.display ⟨⟨1⟩⟩⟩,
          ⟨some ⟨⟨1⟩⟩, sampleAdmin.adminId.display, "service_account.created", "service_account",
            ServiceAccountId.display ⟨⟨2⟩⟩⟩] := by
  have hguard : Guarded (controlStep .trusting unaryCodec) Accountable .initial accountRun := by
    decide +kernel
  have hpending : (serveAll .trusting unaryCodec .initial accountRun).2.pending.length = 0 := by
    decide +kernel
  have hrows : (serveAll .trusting unaryCodec .initial accountRun).2.db.map
      (fun g ↦ g.auditEvents.rows.length) = some 2 := by decide +kernel
  have hledger : ((ControlPlane.initial.trail ++
      ledger .trusting unaryCodec .initial accountRun).filter
        fun r ↦ decide (r.tenantId = some ⟨⟨1⟩⟩)) =
      [⟨some ⟨⟨1⟩⟩, sampleAdmin.adminId.display, "tenant.created", "tenant",
          TenantId.display ⟨⟨1⟩⟩⟩,
        ⟨some ⟨⟨1⟩⟩, sampleAdmin.adminId.display, "service_account.created", "service_account",
          ServiceAccountId.display ⟨⟨2⟩⟩⟩] := by decide +kernel
  obtain ⟨g, hg, hlength⟩ := Option.map_eq_some_iff.mp hrows
  have hlimits : g.auditEvents.rows.length < ([1, 1, 1] : List ℤ).length := by
    rw [hlength]
    decide
  obtain ⟨pages, hpages, hfinished, hperm⟩ := tenant_audit_trail_complete .trusting unaryCodec
    hguard (List.length_eq_zero_iff.mp hpending) hg ⟨⟨1⟩⟩ hlimits
  rw [hledger] at hperm
  exact ⟨g, pages, hg, hpages, hfinished, hperm⟩

end SmartGate
