import SmartGate.Storage.Routes

/-!
# Audit events

The table `audit_events`, to which rows are only added: triggers refuse updates and
deletions.  With it the database has all tables that the admin API reads and writes.
-/

namespace SmartGate

structure AuditEventId where
  uuid : Uuid
  deriving DecidableEq

structure AuditEvent where
  id : AuditEventId
  tenantId : Option TenantId
  actorType : String
  actorId : String
  action : String
  targetType : String
  targetId : String
  metadataJson : Json
  createdAt : ℕ

structure CreateAuditEvent where
  tenantId : Option TenantId
  actorType : String
  actorId : String
  action : String
  targetType : String
  targetId : String
  metadataJson : Json

structure GatewayDatabase extends RouteDatabase where
  auditEvents : Table AuditEvent.id
  auditTenant : auditEvents.References AuditEvent.tenantId tenants

def GatewayDatabase.empty : GatewayDatabase where
  toRouteDatabase := RouteDatabase.empty
  auditEvents := Table.empty
  auditTenant := fun _ h ↦ absurd h List.not_mem_nil

def CreateAuditEvent.row (input : CreateAuditEvent) (id : AuditEventId) (now : ℕ) :
    AuditEvent where
  id := id
  tenantId := input.tenantId
  actorType := input.actorType
  actorId := input.actorId
  action := input.action
  targetType := input.targetType
  targetId := input.targetId
  metadataJson := input.metadataJson
  createdAt := now

namespace AuditRepo

def insert (db : GatewayDatabase) (input : CreateAuditEvent) (id : AuditEventId) (now : ℕ) :
    Except StorageError (AuditEvent × GatewayDatabase) :=
  let row := input.row id now
  if hid : db.auditEvents.get row.id = none then
    if htenant : ∀ tenant ∈ row.tenantId, db.HasTenant tenant then
      .ok (row, { db with
        auditEvents := db.auditEvents.insert row hid
        auditTenant := db.auditTenant.insert htenant })
    else .error (foreignKeyViolation "audit_events" "audit_events_tenant_id_fkey")
  else .error (uniqueViolation "audit_events" "audit_events_pkey")

theorem insert_eq_ok {db db' : GatewayDatabase} {input : CreateAuditEvent} {id : AuditEventId}
    {now : ℕ} {event : AuditEvent} (h : insert db input id now = .ok (event, db')) :
    db'.toRouteDatabase = db.toRouteDatabase ∧
      db'.auditEvents.rows = input.row id now :: db.auditEvents.rows := by
  unfold insert at h
  dsimp only at h
  split_ifs at h
  cases h
  exact ⟨rfl, rfl⟩

end AuditRepo

/-! ## Filters -/

structure AuditFilter where
  tenantId : Option TenantId := none
  action : Option String := none
  targetType : Option String := none
  actorId : Option String := none
  startDate : Option ℕ := none
  endDate : Option ℕ := none

/-- The conditions of `WHERE`, each of which a filter may leave out. -/
def AuditFilter.selects (filter : AuditFilter) (event : AuditEvent) : Bool :=
  (filter.tenantId.all fun tenant ↦ decide (event.tenantId = some tenant)) &&
    (filter.action.all fun action ↦ decide (event.action = action)) &&
    (filter.targetType.all fun targetType ↦ decide (event.targetType = targetType)) &&
    (filter.actorId.all fun actorId ↦ decide (event.actorId = actorId)) &&
    (filter.startDate.all fun start ↦ decide (start ≤ event.createdAt)) &&
    (filter.endDate.all fun finish ↦ decide (event.createdAt ≤ finish))

end SmartGate
