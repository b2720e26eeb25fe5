import SmartGate.Admin.Effects
import SmartGate.Admin.Queries
import SmartGate.Admin.Routes
import SmartGate.Lib.Cache

/-!
# The admin API as a whole

All endpoints of `build_router` over one state: the database, the caches that handlers
invalidate, and the audit events that have been emitted.  A handler emits its event without
waiting for it, so the event is pending until a later step inserts it.  Only an admin can
change this state: every handler that writes starts with the check of the role.
-/

namespace SmartGate

open Cache

/-! ## The handlers with their audit events -/

/-- The event that `emit_audit` inserts. -/
def emitAudit (tenantId : Option TenantId) (adminId : Uuid) (action targetType targetId : String)
    (metadata : Json) : CreateAuditEvent where
  tenantId := tenantId
  actorType := "admin_user"
  actorId := adminId.display
  action := action
  targetType := targetType
  targetId := targetId
  metadataJson := metadata

/-- What a handler has got from its statement, with the answer and the event made of it. -/
def audited {α σ : Type} (answer : α → AdminAnswer) (event : α → CreateAuditEvent)
    (handled : Except GatewayError (α × σ)) :
    Except GatewayError ((AdminAnswer × CreateAuditEvent) × σ) :=
  handled.map fun (a, s) ↦ ((answer a, event a), s)

/-- The path of a binding in the audit log. -/
def bindingTarget (sa : ServiceAccountId) (policyId : PolicyId) : String :=
  s!"{sa.display}/{policyId.display}"

def bindingMetadata (sa : ServiceAccountId) (policyId : PolicyId) : Json :=
  .obj [("service_account_id", .str sa.display), ("policy_id", .str policyId.display)]

def answerAdmin (P : Primitives) (ctx : AdminContext) (now : ℕ) (s : AppState) :
    AdminRequest → Except GatewayError ((AdminAnswer × CreateAuditEvent) × AppState)
  | .createTenant body id => audited .tenant
      (fun t ↦ emitAudit (some t.id) ctx.adminId "tenant.created" "tenant" t.id.display (.obj []))
      (createTenant ctx body id now s)
  | .updateTenant id body => audited .tenant
      (fun t ↦ emitAudit (some t.id) ctx.adminId "tenant.updated" "tenant" t.id.display (.obj []))
      (updateTenant ctx id body s)
  | .deleteTenant id => audited .tenant
      (fun t ↦ emitAudit (some t.id) ctx.adminId "tenant.deleted" "tenant" t.id.display (.obj []))
      (deleteTenant ctx id s)
  | .createServiceAccount body id => audited .serviceAccount
      (fun a ↦ emitAudit (some a.tenantId) ctx.adminId "service_account.created"
        "service_account" a.id.display (.obj []))
      (createServiceAccount ctx body id now s)
  | .updateServiceAccount id tenantId body => audited .serviceAccount
      (fun a ↦ emitAudit (some a.tenantId) ctx.adminId "service_account.updated"
        "service_account" a.id.display (.obj []))
      (updateServiceAccount ctx id tenantId body s)
  | .suspendServiceAccount id tenantId => audited .serviceAccount
      (fun a ↦ emitAudit (some a.tenantId) ctx.adminId "service_account.suspended"
        "service_account" a.id.display (.obj []))
      (suspendServiceAccount ctx id tenantId s)
  | .activateServiceAccount id tenantId => audited .serviceAccount
      (fun a ↦ emitAudit (some a.tenantId) ctx.adminId "service_account.activated"
        "service_account" a.id.display (.obj []))
      (activateServiceAccount ctx id tenantId s)
  | .registerKey sa body id => audited (fun key ↦ .keyRegistered key.registrationResponse)
      (fun key ↦ emitAudit none ctx.adminId "key.registered" "key" key.id.display
        (.obj [("service_account_id", .str sa.display)]))
      (registerKey P ctx sa body id now s)
  | .revokeKey sa id => audited .key
      (fun _ ↦ emitAudit none ctx.adminId "key.revoked" "key" id.display
        (.obj [("service_account_id", .str sa.display)]))
      (revokeKey ctx sa id now s)
  | .createPolicy body id => audited .policy
      (fun p ↦ emitAudit (some p.tenantId) ctx.adminId "policy.created" "policy" p.id.display
        (.obj [("name", .str p.name), ("tenant_id", .str p.tenantId.display)]))
      (createPolicy ctx body id now s)
  | .updatePolicy id tenantId body => audited .policy
      (fun p ↦ emitAudit (some p.tenantId) ctx.adminId "policy.updated" "policy" p.id.display
        (.obj [("name", .str p.name)]))
      (updatePolicy ctx id tenantId body s)
  | .deletePolicy id tenantId => audited (fun _ ↦ .noContent)
      (fun _ ↦ emitAudit (some tenantId) ctx.adminId "policy.deleted" "policy" id.display
        (.obj [("tenant_id", .str tenantId.display)]))
      (deletePolicy ctx id tenantId s)
  | .createBinding sa policyId id => audited .binding
      (fun _ ↦ emitAudit none ctx.adminId "policy_binding.created" "policy_binding"
        (bindingTarget sa policyId) (bindingMetadata sa policyId))
      (createBinding ctx sa policyId id now s)
  | .deleteBinding sa policyId => audited (fun _ ↦ .noContent)
      (fun _ ↦ emitAudit none ctx.adminId "policy_binding.deleted" "policy_binding"
        (bindingTarget sa policyId) (bindingMetadata sa policyId))
      (deleteBinding ctx sa policyId s)

theorem map_audited {α σ : Type} {answer : α → AdminAnswer} {event : α → CreateAuditEvent}
    (handled : Except GatewayError (α × σ)) :
    (audited answer event handled).map Prod.snd = handled.map Prod.snd := by
  cases handled <;> rfl

/-- With answers and events left out, these are the handlers. -/
theorem handle_eq_answerAdmin (P : Primitives) (ctx : AdminContext) (now : ℕ) (s : AppState)
    (request : AdminRequest) :
    handle P ctx now s request = (answerAdmin P ctx now s request).map Prod.snd := by
  cases request <;> rw [handle, answerAdmin, map_audited]

def answerRoute (ctx : AdminContext) (now : ℕ) (s : RouteApp) :
    RouteRequest → Except GatewayError (AdminAnswer × CreateAuditEvent) × RouteApp
  | .create body id =>
      let (handled, s') := createRoute ctx body id now s
      (handled.map fun r ↦ (.route r, emitAudit r.tenantId ctx.adminId "route.created" "route"
        r.id.display (.obj [])), s')
  | .update id body =>
      let (handled, s') := updateRoute ctx id body s
      (handled.map fun r ↦ (.route r, emitAudit r.tenantId ctx.adminId "route.updated" "route"
        r.id.display (.obj [])), s')
  | .delete id =>
      let (handled, s') := deleteRoute ctx id s
      (handled.map fun _ ↦ (.noContent, emitAudit none ctx.adminId "route.deleted" "route"
        id.display (.obj [])), s')

/-! ## The state -/

/-- The two tiers of the key store in front of the database. -/
structure KeyTiers where
  l1 : String → Option ServiceAccountKey
  l2 : String → Option ServiceAccountKey

/-- `KeyStore::invalidate`.  The entry in Redis stays when the command fails. -/
def KeyTiers.invalidate (tiers : KeyTiers) (redis : Bool) (keyId : String) : KeyTiers where
  l1 := setEntry tiers.l1 keyId none
  l2 := if redis then setEntry tiers.l2 keyId none else tiers.l2

structure ControlPlane where
  db : Option GatewayDatabase
  policyCache : Option PolicyCache
  routeCache : Option RouteCache
  keyStore : Option KeyTiers
  pending : List CreateAuditEvent

/-! ## Tenants are never removed -/

theorem Committed.hasTenant {P : Primitives} {now : ℕ} {db db' : Database}
    {request : AdminRequest} (h : Committed P now db request db') {id : TenantId}
    (hid : db.HasTenant id) : db'.HasTenant id := by
  cases h with
  | createTenant =>
      obtain ⟨t, ht, hid⟩ := hid
      exact ⟨t, List.mem_cons_of_mem _ ht, hid⟩
  | updateTenant input => exact Table.exists_map_ite (fun _ ht ↦ ht) hid
  | deleteTenant htenant => exact Table.exists_map_ite (fun _ ht ↦ ht) hid
  | createServiceAccount | updateServiceAccount | suspendServiceAccount | activateServiceAccount
  | registerKey | revokeKey | createPolicy | updatePolicy | deletePolicy | createBinding
  | deleteBinding => exact hid

def Database.KeepsTenants (db db' : Database) : Prop := ∀ id, db.HasTenant id → db'.HasTenant id

theorem committed_of_answerAdmin {P : Primitives} {ctx : AdminContext} {now : ℕ}
    {s s' : AppState} {request : AdminRequest} {answered : AdminAnswer × CreateAuditEvent}
    (h : answerAdmin P ctx now s request = .ok (answered, s')) :
    ∃ db db', s.db = some db ∧ s'.db = some db' ∧ Committed P now db request db' := by
  have hhandle : handle P ctx now s request = .ok s' := by
    rw [handle_eq_answerAdmin, h]
    rfl
  exact committed_of_handle hhandle

theorem keepsTenants_of_answerAdmin {P : Primitives} {ctx : AdminContext} {now : ℕ}
    {s s' : AppState} {request : AdminRequest} {answered : AdminAnswer × CreateAuditEvent}
    (h : answerAdmin P ctx now s request = .ok (answered, s')) :
    ∀ db ∈ s.db, ∀ db' ∈ s'.db, db.KeepsTenants db' := by
  obtain ⟨db, db', hdb, hdb', hcommitted⟩ := committed_of_answerAdmin h
  intro d hd d' hd' id hid
  cases hdb.symm.trans hd
  cases hdb'.symm.trans hd'
  exact hcommitted.hasTenant hid

/-- The statements on routes leave the other tables alone. -/
theorem RouteApp.execute_toDatabase {α : Type} {s : RouteApp} {checks : Except GatewayError Unit}
    {statement : RouteDatabase → Except StorageError α × RouteDatabase}
    (hstatement : ∀ db, (statement db).2.toDatabase = db.toDatabase) :
    ∀ db ∈ s.db, ∀ db' ∈ (s.execute checks statement).2.db, db'.toDatabase = db.toDatabase := by
  intro db hdb db' hdb'
  obtain ⟨_, cache⟩ := s
  cases hdb
  unfold RouteApp.execute at hdb'
  cases checks with
  | error e =>
      cases hdb'
      rfl
  | ok _ =>
      have hkeeps := hstatement db
      rcases hresult : statement db with ⟨answer, db₁⟩
      rw [hresult] at hkeeps
      simp only [RouteApp.requireDb, bind, Except.bind, hresult] at hdb'
      cases answer with
      | error e =>
          cases hdb'
          exact hkeeps
      | ok a =>
          cases hdb'
          exact hkeeps

theorem RouteRepo.create_toDatabase (db : RouteDatabase) (input : CreateRoute) (id : RouteId)
    (now : ℕ) : (RouteRepo.create db input id now).2.toDatabase = db.toDatabase := by
  unfold RouteRepo.create
  dsimp only
  split_ifs <;> rfl

theorem RouteRepo.update_toDatabase (db : RouteDatabase) (id : RouteId) (input : UpdateRoute) :
    (RouteRepo.update db id input).2.toDatabase = db.toDatabase := by
  unfold RouteRepo.update
  split <;> rfl

theorem RouteRepo.delete_toDatabase (db : RouteDatabase) (id : RouteId) :
    (RouteRepo.delete db id).2.toDatabase = db.toDatabase := by
  unfold RouteRepo.delete
  split <;> rfl

theorem answerRoute_toDatabase (ctx : AdminContext) (now : ℕ) (s : RouteApp)
    (request : RouteRequest) :
    ∀ db ∈ s.db, ∀ db' ∈ (answerRoute ctx now s request).2.db, db'.toDatabase = db.toDatabase := by
  cases request with
  | create body id =>
      exact RouteApp.execute_toDatabase fun db ↦ RouteRepo.create_toDatabase db body id now
  | update id body =>
      exact RouteApp.execute_toDatabase fun db ↦ RouteRepo.update_toDatabase db id body
  | delete id => exact RouteApp.execute_toDatabase fun db ↦ RouteRepo.delete_toDatabase db id

/-! ## Serving requests -/

namespace GatewayDatabase

/-- The tables that a handler has worked on, put back among the others. -/
def withDatabase (g : GatewayDatabase) (db : Database) (h : g.toDatabase.KeepsTenants db) :
    GatewayDatabase where
  toDatabase := db
  routes := g.routes
  routeTenant row hrow tenant htenant := h tenant (g.routeTenant row hrow tenant htenant)
  auditEvents := g.auditEvents
  auditTenant event hevent tenant htenant := h tenant (g.auditTenant event hevent tenant htenant)

def withRoutes (g : GatewayDatabase) (db : RouteDatabase) (h : db.toDatabase = g.toDatabase) :
    GatewayDatabase where
  toRouteDatabase := db
  auditEvents := g.auditEvents
  auditTenant := h ▸ g.auditTenant

def adopt (g : Option GatewayDatabase) (db : Option Database)
    (h : ∀ d ∈ g.map fun g ↦ g.toDatabase, ∀ d' ∈ db, d.KeepsTenants d') :
    Option GatewayDatabase :=
  match g, db, h with
  | some g, some db, h => some (g.withDatabase db (h _ rfl _ rfl))
  | g, none, _ => g
  | none, some _, _ => none

def adoptRoutes (g : Option GatewayDatabase) (db : Option RouteDatabase)
    (h : ∀ d ∈ g.map fun g ↦ g.toRouteDatabase, ∀ d' ∈ db, d'.toDatabase = d.toDatabase) :
    Option GatewayDatabase :=
  match g, db, h with
  | some g, some db, h => some (g.withRoutes db (h _ rfl _ rfl))
  | g, none, _ => g
  | none, some _, _ => none

end GatewayDatabase

/-- The key that a handler invalidates.  Only `revoke_key` answers with a key. -/
def AdminAnswer.revokedKey : AdminAnswer → Option String
  | .key k => some k.keyId
  | _ => none

namespace ControlPlane

def serveAdmin (P : Primitives) (ctx : AdminContext) (now : ℕ) (redis : Bool)
    (request : AdminRequest) (s : ControlPlane) : Except GatewayError AdminAnswer × ControlPlane :=
  match h : answerAdmin P ctx now ⟨s.db.map fun g ↦ g.toDatabase, s.policyCache⟩ request with
  | .error e => (.error e, s)
  | .ok ((answer, event), app) => (.ok answer, { s with
      db := GatewayDatabase.adopt s.db app.db (keepsTenants_of_answerAdmin h)
      policyCache := app.policyCache
      keyStore := s.keyStore.map fun tiers ↦
        match answer.revokedKey with
        | some keyId => tiers.invalidate redis keyId
        | none => tiers
      pending := s.pending ++ [event] })

def serveRoute (ctx : AdminContext) (now : ℕ) (request : RouteRequest) (s : ControlPlane) :
    Except GatewayError AdminAnswer × ControlPlane :=
  let app : RouteApp := ⟨s.db.map fun g ↦ g.toRouteDatabase, s.routeCache⟩
  let handled := answerRoute ctx now app request
  (handled.1.map Prod.fst, { s with
    db := GatewayDatabase.adoptRoutes s.db handled.2.db (answerRoute_toDatabase ctx now app request)
    routeCache := handled.2.routeCache
    pending := s.pending ++ (handled.1.toOption.map Prod.snd).toList })

end ControlPlane

inductive ControlRequest where
  | admin (request : AdminRequest)
  | route (request : RouteRequest)
  | read (request : ReadRequest)

/-- A request with its caller, the time of the database, and whether Redis answers. -/
structure ControlCall where
  ctx : AdminContext
  now : ℕ
  redis : Bool
  request : ControlRequest

namespace ControlPlane

def serve (P : Primitives) (codec : CursorCodec) (c : ControlCall) (s : ControlPlane) :
    Except GatewayError AdminAnswer × ControlPlane :=
  match c.request with
  | .admin request => s.serveAdmin P c.ctx c.now c.redis request
  | .route request => s.serveRoute c.ctx c.now request
  | .read request => (answerRead codec s.db request, s)

/-- A task that `emit_audit` has spawned inserts its event.  If that fails, the event is
lost. -/
def deliver (s : ControlPlane) (i : ℕ) (id : AuditEventId) (now : ℕ) : ControlPlane :=
  match s.pending[i]?, s.db with
  | some event, some db =>
      { s with
        pending := s.pending.eraseIdx i
        db := match AuditRepo.insert db event id now with
          | .ok (_, db') => some db'
          | .error _ => some db }
  | _, _ => s

end ControlPlane

inductive ControlOp where
  | call (c : ControlCall)
  | deliver (i : ℕ) (id : AuditEventId) (now : ℕ)

/-- The answers to the requests of a run, and the state after it. -/
def serveAll (P : Primitives) (codec : CursorCodec) : ControlPlane → List ControlOp →
    List (ControlCall × Except GatewayError AdminAnswer) × ControlPlane
  | s, [] => ([], s)
  | s, .call c :: ops =>
      let (answer, s') := s.serve P codec c
      let (answers, t) := serveAll P codec s' ops
      ((c, answer) :: answers, t)
  | s, .deliver i id now :: ops => serveAll P codec (s.deliver i id now) ops

theorem serveAll_call (P : Primitives) (codec : CursorCodec) (s : ControlPlane) (c : ControlCall)
    (ops : List ControlOp) :
    serveAll P codec s (.call c :: ops) =
      ((c, (s.serve P codec c).1) :: (serveAll P codec (s.serve P codec c).2 ops).1,
        (serveAll P codec (s.serve P codec c).2 ops).2) := rfl

/-! ## Viewers -/

def insufficientPermissions : GatewayError :=
  .policy "insufficient_permissions" "this operation requires admin role"

section Viewer

variable {ctx : AdminContext}

theorem requireAdminRole_viewer (h : ctx.role = .viewer) :
    requireAdminRole ctx = .error insufficientPermissions := by
  rw [requireAdminRole, if_pos (by rw [h]; decide)]
  rfl

theorem audited_viewer {α σ : Type} {answer : α → AdminAnswer} {event : α → CreateAuditEvent}
    (h : ctx.role = .viewer) (rest : Unit → Except GatewayError (α × σ)) :
    audited answer event (requireAdminRole ctx >>= rest) = .error insufficientPermissions := by
  rw [requireAdminRole_viewer h]
  rfl

/-- Every handler starts with the check of the role. -/
theorem answerAdmin_viewer (h : ctx.role = .viewer) (P : Primitives) (now : ℕ) (s : AppState)
    (request : AdminRequest) :
    answerAdmin P ctx now s request = .error insufficientPermissions := by
  cases request <;> rw [answerAdmin] <;> exact audited_viewer h _

theorem answerRoute_viewer (h : ctx.role = .viewer) (now : ℕ) (s : RouteApp)
    (request : RouteRequest) :
    answerRoute ctx now s request = (.error insufficientPermissions, s) := by
  have hrole := requireAdminRole_viewer h
  cases request with
  | create =>
      rw [answerRoute, createRoute, hrole]
      rfl
  | update =>
      rw [answerRoute, updateRoute, hrole]
      rfl
  | delete =>
      rw [answerRoute, deleteRoute, hrole]
      rfl

end Viewer

namespace ControlPlane

theorem serveAdmin_of_error {P : Primitives} {ctx : AdminContext} {now : ℕ} {redis : Bool}
    {request : AdminRequest} {s : ControlPlane} {e : GatewayError}
    (h : answerAdmin P ctx now ⟨s.db.map fun g ↦ g.toDatabase, s.policyCache⟩ request =
      .error e) : s.serveAdmin P ctx now redis request = (.error e, s) := by
  unfold serveAdmin
  split
  · next e' he =>
    cases h.symm.trans he
    rfl
  · next hok => cases h.symm.trans hok

theorem adoptRoutes_self (g : Option GatewayDatabase)
    (h : ∀ d ∈ g.map fun g ↦ g.toRouteDatabase, ∀ d' ∈ g.map fun g ↦ g.toRouteDatabase,
      d'.toDatabase = d.toDatabase) :
    GatewayDatabase.adoptRoutes g (g.map fun g ↦ g.toRouteDatabase) h = g := by
  cases g <;> rfl

theorem serveRoute_viewer {ctx : AdminContext} (h : ctx.role = .viewer) (now : ℕ)
    (request : RouteRequest) (s : ControlPlane) :
    s.serveRoute ctx now request = (.error insufficientPermissions, s) := by
  unfold serveRoute
  simp only [answerRoute_viewer h, adoptRoutes_self]
  simp [Except.map, Except.toOption]

/-- A request of a viewer leaves the database, the caches and the audit log as they are. -/
theorem serve_viewer (P : Primitives) (codec : CursorCodec) {c : ControlCall}
    (h : c.ctx.role = .viewer) (s : ControlPlane) : (s.serve P codec c).2 = s := by
  unfold serve
  cases c.request with
  | admin request =>
      exact congrArg Prod.snd (serveAdmin_of_error (answerAdmin_viewer h P c.now _ request))
  | route request => exact congrArg Prod.snd (serveRoute_viewer h c.now request s)
  | read request => rfl

end ControlPlane

/-- The operation is no request of a viewer. -/
def ControlOp.notViewer : ControlOp → Bool
  | .call c => decide (c.ctx.role ≠ .viewer)
  | .deliver _ _ _ => true

/-- A request of a viewer changes nothing, and so a run without the requests of viewers gives
everyone else the same answers and ends in the same state. -/
theorem viewers_change_nothing (P : Primitives) (codec : CursorCodec) :
    (∀ (s : ControlPlane) (c : ControlCall), c.ctx.role = .viewer → (s.serve P codec c).2 = s) ∧
    ∀ (s : ControlPlane) (ops : List ControlOp),
      serveAll P codec s (ops.filter ControlOp.notViewer) =
        ((serveAll P codec s ops).1.filter fun answered ↦ decide (answered.1.ctx.role ≠ .viewer),
          (serveAll P codec s ops).2) := by
  refine ⟨fun s c h ↦ ControlPlane.serve_viewer P codec h s, fun s ops ↦ ?_⟩
  induction ops generalizing s with
  | nil => rfl
  | cons op ops ih =>
      cases op with
      | deliver i id now => exact ih (s.deliver i id now)
      | call c =>
          by_cases hviewer : c.ctx.role = .viewer
          · have hop : ControlOp.notViewer (.call c) = false :=
              decide_eq_false (not_not.mpr hviewer)
            rw [List.filter_cons_of_neg (by rw [hop]; exact Bool.false_ne_true), serveAll_call,
              ControlPlane.serve_viewer P codec hviewer, ih,
              List.filter_cons_of_neg (by simp [hviewer])]
          · have hop : ControlOp.notViewer (.call c) = true := decide_eq_true hviewer
            rw [List.filter_cons_of_pos hop, serveAll_call, serveAll_call, ih,
              List.filter_cons_of_pos (by simp [hviewer])]

/-! ## A sample run -/

def ControlPlane.initial : ControlPlane where
  db := some GatewayDatabase.empty
  policyCache := some PolicyCache.empty
  routeCache := some fun _ ↦ none
  keyStore := some ⟨fun _ ↦ none, fun _ ↦ none⟩
  pending := []

def sampleViewer : AdminContext := ⟨⟨2⟩, "support", .viewer⟩

/-- An admin creates a tenant, which a viewer lists and tries to delete. -/
def mixedRun : List ControlOp :=
  [.call ⟨sampleAdmin, 0, true, .admin (.createTenant ⟨"Acme Corp", "acme-corp", none⟩ ⟨⟨1⟩⟩)⟩,
    .call ⟨sampleViewer, 1, true, .read (.listTenants ⟨none, none, some "active"⟩)⟩,
    .call ⟨sampleViewer, 2, true, .admin (.deleteTenant ⟨⟨1⟩⟩)⟩,
    .deliver 0 ⟨⟨7⟩⟩ 3,
    .call ⟨sampleAdmin, 4, true, .read (.getTenant ⟨⟨1⟩⟩)⟩]

theorem viewers_change_nothing_mixed :
    (serveAll .trusting unaryCodec .initial mixedRun).1.map (fun a ↦ a.2.toOption.isSome) =
        [true, true, false, true] ∧
      serveAll .trusting unaryCodec .initial (mixedRun.filter ControlOp.notViewer) =
        ((serveAll .trusting unaryCodec .initial mixedRun).1.filter
            fun answered ↦ decide (answered.1.ctx.role ≠ .viewer),
          (serveAll .trusting unaryCodec .initial mixedRun).2) :=
  ⟨by decide +kernel, (viewers_change_nothing .trusting unaryCodec).2 .initial mixedRun⟩

end SmartGate
