import Mathlib.Data.List.Sort
import SmartGate.Storage.Repositories

/-!
# Provider routes

The table of routes and the statements of its repository.  A route belongs to a tenant
or, without one, to all of them.  `INSERT` and `UPDATE` answer the row they wrote, and
reading that answer may fail although the row is stored; so a statement has an answer
and, next to it, the database it leaves.
-/

namespace SmartGate

abbrev RouteTable := Table fun row : RouteRow ↦ row.id

structure RouteDatabase extends Database where
  routes : RouteTable
  routeTenant : routes.References (fun row ↦ row.tenantId) tenants

def RouteDatabase.empty : RouteDatabase where
  toDatabase := Database.empty
  routes := Table.empty
  routeTenant := fun _ h ↦ absurd h List.not_mem_nil

/-! ## Reading rows -/

def Route.encode (route : ProviderRoute) : RouteRow :=
  { route with provider := route.provider.text }

/-- `FromRow`, which fails for a provider that the gateway does not know. -/
def Route.decode (row : RouteRow) : Except StorageError ProviderRoute :=
  match Provider.decode row.provider with
  | some provider => .ok { row with provider }
  | none => .error (.database ("error occurred while decoding column \"provider\": " ++
      s!"invalid value \"{row.provider}\" for enum Provider"))

theorem Route.decode_eq_ok {row : RouteRow} {route : ProviderRoute} (h : row.decode = .ok route) :
    row = route.encode := by
  unfold Route.decode at h
  split at h
  · next provider hprovider =>
    cases h
    rw [Route.encode, Provider.text_of_decode hprovider]
  · cases h

theorem Route.decode_of_isSome {row : RouteRow} (h : (Provider.decode row.provider).isSome) :
    ∃ route, row.decode = .ok route := by
  obtain ⟨provider, hprovider⟩ := Option.isSome_iff_exists.mp h
  exact ⟨{ row with provider }, by rw [Route.decode, hprovider]⟩

def decodeRows : List RouteRow → Except StorageError (List ProviderRoute)
  | [] => .ok []
  | row :: rows => do
      let route ← row.decode
      let routes ← decodeRows rows
      return route :: routes

theorem decodeRows_eq_ok {rows : List RouteRow} {routes : List ProviderRoute}
    (h : decodeRows rows = .ok routes) : rows = routes.map Route.encode := by
  induction rows generalizing routes with
  | nil =>
      cases h
      rfl
  | cons row rows ih =>
      obtain ⟨route, hroute, hrest⟩ := bind_eq_ok.mp h
      obtain ⟨routes', hroutes, hreturn⟩ := bind_eq_ok.mp hrest
      cases hreturn
      rw [List.map_cons, ← Route.decode_eq_ok hroute, ← ih hroutes]

theorem decodeRows_of_isSome {rows : List RouteRow}
    (h : ∀ row ∈ rows, (Provider.decode row.provider).isSome) :
    ∃ routes, decodeRows rows = .ok routes := by
  induction rows with
  | nil => exact ⟨[], rfl⟩
  | cons row rows ih =>
      obtain ⟨route, hroute⟩ := Route.decode_of_isSome (h row List.mem_cons_self)
      obtain ⟨routes, hroutes⟩ := ih fun r hr ↦ h r (List.mem_cons_of_mem row hr)
      refine ⟨route :: routes, ?_⟩
      rw [decodeRows, hroute, hroutes]
      rfl

/-! ## Writing rows -/

/-- The row that `create` inserts, with the defaults for absent fields. -/
def CreateRoute.row (input : CreateRoute) (id : RouteId) (now : ℕ) : RouteRow where
  id := id
  tenantId := input.tenantId
  modelAlias := input.modelAlias
  provider := input.provider
  providerModelName := input.providerModelName
  priority := input.priority.getD 100
  enabled := input.enabled.getD true
  timeoutMs := input.timeoutMs.getD 30000
  maxRetries := input.maxRetries.getD 1
  retryBackoffMs := input.retryBackoffMs.getD 250
  config := input.config.getD (.obj [])
  createdAt := now

/-- `SET … = COALESCE($n, …)` for every column but the tenant. -/
def UpdateRoute.apply (input : UpdateRoute) (row : RouteRow) : RouteRow :=
  { row with
    modelAlias := input.modelAlias.getD row.modelAlias
    provider := input.provider.getD row.provider
    providerModelName := input.providerModelName.getD row.providerModelName
    priority := input.priority.getD row.priority
    enabled := input.enabled.getD row.enabled
    timeoutMs := input.timeoutMs.getD row.timeoutMs
    maxRetries := input.maxRetries.getD row.maxRetries
    retryBackoffMs := input.retryBackoffMs.getD row.retryBackoffMs
    config := input.config.getD row.config }

namespace RouteRepo

def create (db : RouteDatabase) (input : CreateRoute) (id : RouteId) (now : ℕ) :
    Except StorageError ProviderRoute × RouteDatabase :=
  let row := input.row id now
  if hid : db.routes.get row.id = none then
    if htenant : ∀ tenant ∈ row.tenantId, db.HasTenant tenant then
      (row.decode, { db with
        routes := db.routes.insert row hid
        routeTenant := db.routeTenant.insert htenant })
    else (.error (foreignKeyViolation "provider_routes" "provider_routes_tenant_id_fkey"), db)
  else (.error (uniqueViolation "provider_routes" "provider_routes_pkey"), db)

def update (db : RouteDatabase) (id : RouteId) (input : UpdateRoute) :
    Except StorageError ProviderRoute × RouteDatabase :=
  match db.routes.get id with
  | none => (.error (.notFound "route" "id" id.display), db)
  | some row => ((input.apply row).decode, { db with
      routes := db.routes.updateWhere (fun r ↦ decide (r.id = id)) input.apply fun _ ↦ rfl
      routeTenant := db.routeTenant.updateWhere fun _ _ htenant ↦ htenant })

def delete (db : RouteDatabase) (id : RouteId) : Except StorageError Unit × RouteDatabase :=
  match db.routes.get id with
  | none => (.error (.notFound "route" "id" id.display), db)
  | some _ => (.ok (), { db with
      routes := db.routes.deleteWhere fun r ↦ decide (r.id = id)
      routeTenant := db.routeTenant.deleteWhere _ })

theorem create_eq_ok {db db' : RouteDatabase} {input : CreateRoute} {id : RouteId} {now : ℕ}
    {route : ProviderRoute} (h : create db input id now = (.ok route, db')) :
    (input.row id now).decode = .ok route ∧
      db'.routes.rows = input.row id now :: db.routes.rows := by
  unfold create at h
  dsimp only at h
  split_ifs at h
  · obtain ⟨hdecode, rfl⟩ := Prod.mk.inj h
    exact ⟨hdecode, rfl⟩
  · cases h
  · cases h

theorem update_eq_ok {db db' : RouteDatabase} {id : RouteId} {input : UpdateRoute}
    {route : ProviderRoute} (h : update db id input = (.ok route, db')) :
    (∃ row ∈ db.routes.rows, row.id = id) ∧ db'.routes.rows =
      db.routes.rows.map fun r ↦ if decide (r.id = id) then input.apply r else r := by
  unfold update at h
  split at h
  · cases h
  · next row hget =>
    obtain ⟨_, rfl⟩ := Prod.mk.inj h
    exact ⟨⟨row, Table.get_eq_some.mp hget⟩, rfl⟩

theorem delete_eq_ok {db db' : RouteDatabase} {id : RouteId}
    (h : delete db id = (.ok (), db')) : db'.routes.rows ⊆ db.routes.rows := by
  unfold delete at h
  split at h
  · cases h
  · obtain ⟨_, rfl⟩ := Prod.mk.inj h
    exact fun r hr ↦ (Table.mem_deleteWhere.mp hr).1

end RouteRepo

/-! ## Resolving an alias -/

/-- `CASE WHEN tenant_id IS NOT NULL THEN 0 ELSE 1 END` -/
def Route.scopeRank {π : Type} (route : Route π) : ℕ := if route.tenantId.isSome then 0 else 1

/-- The order of `resolve_routes`: routes of the tenant first, then by priority. -/
def Route.Precedes {π : Type} (a b : Route π) : Prop :=
  a.scopeRank < b.scopeRank ∨ a.scopeRank = b.scopeRank ∧ a.priority ≤ b.priority

instance {π : Type} (a b : Route π) : Decidable (a.Precedes b) :=
  inferInstanceAs (Decidable (_ ∨ _))

instance {π : Type} : Std.Total (Route.Precedes : Route π → Route π → Prop) where
  total a b := by
    unfold Route.Precedes
    omega

instance {π : Type} : IsTrans (Route π) Route.Precedes where
  trans a b c hab hbc := by
    unfold Route.Precedes at hab hbc ⊢
    omega

theorem Route.precedes_iff {π : Type} {a b : Route π} :
    a.Precedes b ↔ (b.tenantId.isSome → a.tenantId.isSome) ∧
      (a.tenantId.isSome = b.tenantId.isSome → a.priority ≤ b.priority) := by
  unfold Route.Precedes Route.scopeRank
  cases a.tenantId <;> cases b.tenantId <;> simp

/-- The route may be used by the tenant for the alias. -/
def Route.Serves {π : Type} (route : Route π) (tenant : TenantId) (modelAlias : String) : Prop :=
  route.modelAlias = modelAlias ∧ route.enabled = true ∧
    (route.tenantId = some tenant ∨ route.tenantId = none)

instance {π : Type} (route : Route π) (tenant : TenantId) (modelAlias : String) :
    Decidable (route.Serves tenant modelAlias) :=
  inferInstanceAs (Decidable (_ ∧ _))

/-- `resolve_routes`.  Rows that `ORDER BY` does not separate come in any order. -/
def RouteRepo.resolveRoutes (order : Enumeration RouteRow) (routes : RouteTable)
    (tenant : TenantId) (modelAlias : String) : Except StorageError (List ProviderRoute) :=
  let selected := routes.rows.filter fun row ↦ decide (row.Serves tenant modelAlias)
  decodeRows ((order.list selected).insertionSort Route.Precedes)

namespace RouteRepo

variable {order : Enumeration RouteRow} {routes : RouteTable} {tenant : TenantId}
  {modelAlias : String} {selected : List ProviderRoute}

theorem resolveRoutes_perm (h : resolveRoutes order routes tenant modelAlias = .ok selected) :
    (selected.map Route.encode).Perm
      (routes.rows.filter fun row ↦ decide (row.Serves tenant modelAlias)) := by
  rw [← decodeRows_eq_ok h]
  exact (List.perm_insertionSort _ _).trans (order.perm _)

/-- The answer has the rows that serve the alias for the tenant, and no others. -/
theorem mem_resolveRoutes (h : resolveRoutes order routes tenant modelAlias = .ok selected)
    {row : RouteRow} :
    (∃ route ∈ selected, route.encode = row) ↔
      row ∈ routes.rows ∧ row.Serves tenant modelAlias := by
  rw [← List.mem_map, (resolveRoutes_perm h).mem_iff, List.mem_filter, decide_eq_true_iff]

theorem pairwise_resolveRoutes
    (h : resolveRoutes order routes tenant modelAlias = .ok selected) :
    selected.Pairwise Route.Precedes := by
  have hsorted := List.pairwise_insertionSort Route.Precedes
    (order.list (routes.rows.filter fun row ↦ decide (row.Serves tenant modelAlias)))
  rw [decodeRows_eq_ok h, List.pairwise_map] at hsorted
  exact hsorted

theorem nodup_resolveRoutes (h : resolveRoutes order routes tenant modelAlias = .ok selected) :
    (selected.map fun route ↦ route.id).Nodup := by
  have hids : ((selected.map Route.encode).map fun row ↦ row.id).Nodup := by
    rw [((resolveRoutes_perm h).map _).nodup_iff]
    exact routes.unique.sublist (List.filter_sublist.map _)
  rwa [List.map_map] at hids

theorem resolveRoutes_of_isSome
    (h : ∀ row ∈ routes.rows, (Provider.decode row.provider).isSome)
    (order : Enumeration RouteRow) (tenant : TenantId) (modelAlias : String) :
    ∃ selected, resolveRoutes order routes tenant modelAlias = .ok selected := by
  refine decodeRows_of_isSome fun row hrow ↦ h row ?_
  rw [List.mem_insertionSort, order.mem_list] at hrow
  exact (List.mem_filter.mp hrow).1

end RouteRepo

end SmartGate
