import SmartGate.Admin.Routes
import SmartGate.Lib.Coalescing
import SmartGate.Routing.Fallback
import SmartGate.Storage.Redis

/-!
# Resolving aliases while routes are written

`RouteResolver::resolve` reads routes through the cache, which coalesces the loads of a key.
The route handlers write to the database, clear the cache and then respond.  These steps
interleave on one gateway.  A resolve that starts after a response returns routes that
reflect the write, unless a load that had read the table before the write has finished after
the cache was cleared.
-/

namespace SmartGate

open Coalescing Transition

theorem RouteCache.cacheKey_injective :
    Function.Injective fun query : TenantId × String ↦ RouteCache.cacheKey query.1 query.2 := by
  rintro ⟨⟨a⟩, m⟩ ⟨⟨b⟩, n⟩ h
  have hlist := congrArg String.toList h
  simp only [RouteCache.cacheKey, String.toList_append, List.append_assoc,
    List.append_cancel_left_eq] at hlist
  obtain ⟨rfl, hrest⟩ := Uuid.display_append_inj hlist
  rw [String.toList_inj.mp (List.append_cancel_left hrest)]

namespace RouteResolver

/-- The loader.  The choices are the order of rows that `ORDER BY` does not separate, and
whether the database answers. -/
def load (choice : Enumeration RouteRow × Bool) (db : RouteDatabase) (tenant : TenantId)
    (modelAlias : String) : Except GatewayError (List ProviderRoute) :=
  let failed : GatewayError :=
    .routing "route_resolve_failed" "failed to resolve routes from database"
  if choice.2 then
    (RouteRepo.resolveRoutes choice.1 db.routes tenant modelAlias).mapError fun _ ↦ failed
  else .error failed

/-- What `resolve` makes of the answer of the cache. -/
def answer (modelAlias : String) :
    Except GatewayError (List ProviderRoute) → Except GatewayError (List ProviderRoute)
  | .error e => .error (.routing "route_cache_load_failed" e.display)
  | .ok [] => .error (.routing "no_route" s!"no enabled routes for model alias '{modelAlias}'")
  | .ok (route :: routes) => .ok (route :: routes)

end RouteResolver

/-- The checks and the statement of a handler, which come before it clears the cache. -/
def RouteOp.write (op : RouteOp) (db : RouteDatabase) : Bool × RouteDatabase :=
  let outcome {α : Type} (handled : Except GatewayError α × RouteApp) : Bool × RouteDatabase :=
    (handled.1.toOption.isSome, handled.2.db.getD db)
  match op.request with
  | .create body id => outcome (createRoute op.ctx body id op.now ⟨some db, none⟩)
  | .update id body => outcome (updateRoute op.ctx id body ⟨some db, none⟩)
  | .delete id => outcome (deleteRoute op.ctx id ⟨some db, none⟩)

/-- What a handler does to the database does not depend on its cache. -/
theorem RouteApp.execute_db {α : Type} (db : RouteDatabase) (cache : Option RouteCache)
    (checks : Except GatewayError Unit)
    (statement : RouteDatabase → Except StorageError α × RouteDatabase) :
    ((⟨some db, cache⟩ : RouteApp).execute checks statement).1 =
        ((⟨some db, none⟩ : RouteApp).execute checks statement).1 ∧
      ((⟨some db, cache⟩ : RouteApp).execute checks statement).2.db =
        ((⟨some db, none⟩ : RouteApp).execute checks statement).2.db := by
  unfold RouteApp.execute
  cases checks with
  | error e => exact ⟨rfl, rfl⟩
  | ok _ =>
      rcases hstatement : statement db with ⟨e | a, db'⟩
      · simp [RouteApp.requireDb, hstatement, bind, Except.bind]
      · simp [RouteApp.requireDb, hstatement, bind, Except.bind]

/-- A request that is accepted when it is handled in one step succeeds as a write. -/
theorem RouteOp.write_of_routeStep {op : RouteOp} {s t : RouteApp} {db : RouteDatabase}
    (hdb : s.db = some db) (h : routeStep s op = some t) :
    ∃ db', t.db = some db' ∧ op.write db = (true, db') := by
  obtain ⟨_, cache⟩ := s
  cases hdb
  have houtcome : ∀ {α : Type} {checks : Except GatewayError Unit}
      {statement : RouteDatabase → Except StorageError α × RouteDatabase},
      accepted ((⟨some db, cache⟩ : RouteApp).execute checks statement) = some t →
        ∃ db', t.db = some db' ∧
          (((⟨some db, none⟩ : RouteApp).execute checks statement).1.toOption.isSome,
            ((⟨some db, none⟩ : RouteApp).execute checks statement).2.db.getD db) =
              (true, db') := by
    intro α checks statement haccepted
    obtain ⟨a, hexecute⟩ := accepted_eq_some haccepted
    obtain ⟨hanswer, hstate⟩ := RouteApp.execute_db db cache checks statement
    obtain ⟨_, _, db', _, _, rfl⟩ := RouteApp.execute_eq_ok hexecute
    rw [← hanswer, ← hstate, hexecute]
    exact ⟨db', rfl, rfl⟩
  unfold routeStep at h
  unfold RouteOp.write
  cases hrequest : op.request with
  | create body id =>
      rw [hrequest] at h
      exact houtcome h
  | update id body =>
      rw [hrequest] at h
      exact houtcome h
  | delete id =>
      rw [hrequest] at h
      exact houtcome h

/-- The routes of one gateway, read through its cache and written by its handlers. -/
def routeService : Service RouteDatabase String (TenantId × String) (List ProviderRoute)
    GatewayError RouteOp (Enumeration RouteRow × Bool) where
  key query := RouteCache.cacheKey query.1 query.2
  read choice db query := RouteResolver.load choice db query.1 query.2
  write := RouteOp.write

abbrev RoutingState :=
  State RouteDatabase String (TenantId × String) (List ProviderRoute) GatewayError RouteOp

abbrev RoutingStep := Step String (TenantId × String) RouteOp (Enumeration RouteRow × Bool)

/-- In every interleaving in which no load finishes after a write that it has not seen has
cleared the cache, a resolve answers as a read of the database would have done at or after
every write whose response had been sent when the resolve started. -/
theorem resolve_reflects_writes {db : RouteDatabase} {t : RoutingState} {steps : List RoutingStep}
    (hguard : Guarded routeService.step FinishesInTime (.initial db) steps)
    (hrun : run routeService.step (.initial db) steps = some t) :
    ∀ r ∈ t.lookups, ∀ loaded version, r.phase = .returned loaded version →
      r.since ≤ version ∧ ∃ source choice, t.history[version]? = some source ∧
        RouteResolver.answer r.query.2 loaded = RouteResolver.answer r.query.2
          (RouteResolver.load choice source r.query.1 r.query.2) := by
  intro r hr loaded version hreturned
  have hcoherent : Coherent routeService t :=
    run_invariant (Coherent.step RouteCache.cacheKey_injective) hguard hrun (Coherent.initial db)
  obtain ⟨hsince, source, choice, hsource, hread⟩ := hcoherent.returned hr hreturned
  exact ⟨hsince, source, choice, hsource, by rw [← hread]; rfl⟩

/-- The condition is sharp: when a load stores the routes that it has read before a write, and
the write has cleared the cache, a resolve that starts after the response can be answered with
those routes. -/
theorem stale_routes_of_late_load {db : RouteDatabase} {t : RoutingState}
    {steps : List RoutingStep} (hrun : run routeService.step (.initial db) steps = some t) {i : ℕ}
    {load : Coalescing.Load (TenantId × String) (List ProviderRoute) GatewayError}
    (hload : t.loads[i]? = some load) {routes : List ProviderRoute} {version : ℕ}
    (hread : load.phase = .read (.ok routes) version) (hlate : version < t.invalidated)
    (choice : Enumeration RouteRow × Bool) :
    ∃ steps' u, run routeService.step t (.stepLoad i choice :: steps') = some u ∧
      ∃ r ∈ u.lookups, r.query = load.query ∧ r.phase = .returned (.ok routes) version ∧
        version < r.since :=
  stale_answer_of_late_load hrun hload hread hlate choice

/-- A resolve that has not returned can go on, or the load that it waits for can. -/
theorem resolve_not_stuck {db : RouteDatabase} {t : RoutingState} {steps : List RoutingStep}
    (hguard : Guarded routeService.step FinishesInTime (.initial db) steps)
    (hrun : run routeService.step (.initial db) steps = some t) {i : ℕ}
    {r : Coalescing.Lookup (TenantId × String) (List ProviderRoute) GatewayError}
    (hi : t.lookups[i]? = some r)
    (hpending : ∀ loaded version, r.phase ≠ .returned loaded version) :
    ∃ a, (a = .stepLookup i ∨ ∃ j choice, r.phase = .waiting j ∧ a = .stepLoad j choice) ∧
      (routeService.step t a).isSome := by
  have hcoherent : Coherent routeService t :=
    run_invariant (Coherent.step RouteCache.cacheKey_injective) hguard hrun (Coherent.initial db)
  have : Inhabited (Enumeration RouteRow × Bool) := ⟨(Enumeration.stored, true)⟩
  exact hcoherent.progress hi hpending

/-! ## A sample gateway -/

def sampleRouteDatabase : RouteDatabase where
  toDatabase := Database.empty
  routes := ⟨[sampleRoute 1 none true], by decide⟩
  routeTenant := by
    intro row hrow tenant htenant
    rw [List.mem_singleton.mp hrow] at htenant
    cases htenant

def deleteSampleRoute : RouteOp := ⟨⟨⟨1⟩, "ops", .admin⟩, 0, .delete ⟨⟨1⟩⟩⟩

def sampleQuery : TenantId × String := (⟨⟨1⟩⟩, "gpt-4")

def asStored : Enumeration RouteRow × Bool := (Enumeration.stored, true)

/-- A resolve that misses, reads the table and stores what it has read. -/
def resolveMiss (i : ℕ) : List RoutingStep :=
  [.startLookup sampleQuery, .stepLookup i, .stepLoad i asStored, .stepLoad i asStored,
    .stepLookup i]

def deletion : List RoutingStep :=
  [.startWrite deleteSampleRoute, .stepWrite 0, .stepWrite 0, .stepWrite 0]

/-- The route is deleted while a resolve has read the table but has not stored what it has
read.  A second resolve starts after the response. -/
def staleInsert : List RoutingStep :=
  [.startLookup sampleQuery, .stepLookup 0, .stepLoad 0 asStored] ++ deletion ++
    [.stepLoad 0 asStored, .startLookup sampleQuery, .stepLookup 1]

/-- What a resolve answers, with the version that it has to reflect. -/
def resolveAnswer (r : Coalescing.Lookup (TenantId × String) (List ProviderRoute) GatewayError) :
    Option (ℕ × Except GatewayError (List RouteId)) :=
  match r.phase with
  | .returned loaded _ => some (r.since,
      (RouteResolver.answer r.query.2 loaded).map fun routes ↦ routes.map fun x ↦ x.id)
  | .start | .waiting _ => none

theorem resolveAnswer_eq_some
    {r : Coalescing.Lookup (TenantId × String) (List ProviderRoute) GatewayError} {since : ℕ}
    {answer : Except GatewayError (List RouteId)}
    (h : resolveAnswer r = some (since, answer)) :
    ∃ loaded version, r.phase = .returned loaded version ∧ r.since = since ∧
      (RouteResolver.answer r.query.2 loaded).map (fun routes ↦ routes.map fun x ↦ x.id) =
        answer := by
  unfold resolveAnswer at h
  cases hphase : r.phase with
  | start =>
      rw [hphase] at h
      cases h
  | waiting j =>
      rw [hphase] at h
      cases h
  | returned loaded version =>
      rw [hphase] at h
      cases h
      exact ⟨loaded, version, rfl, rfl, rfl⟩

/-- A resolve that starts after the response of a deletion answers with the deleted route. -/
theorem deleted_route_resolved :
    ∃ t r, run routeService.step (.initial sampleRouteDatabase) staleInsert = some t ∧
      t.lookups[1]? = some r ∧ resolveAnswer r = some (1, .ok [⟨⟨1⟩⟩]) ∧
      t.source.routes.rows = [] := by
  have hrun : ((run routeService.step (.initial sampleRouteDatabase) staleInsert).bind
      fun t ↦ t.lookups[1]?.map fun r ↦ (resolveAnswer r, t.source.routes.rows.length)) =
        some (some (1, .ok [⟨⟨1⟩⟩]), 0) := by decide +kernel
  obtain ⟨t, ht, hanswer⟩ := Option.bind_eq_some_iff.mp hrun
  obtain ⟨r, hr, heq⟩ := Option.map_eq_some_iff.mp hanswer
  obtain ⟨hresolve, hrows⟩ := Prod.mk.inj heq
  exact ⟨t, r, ht, hr, hresolve, List.length_eq_zero_iff.mp hrows⟩

/-- Without the race, the resolve after the response finds no route. -/
theorem resolve_reflects_writes_deletion :
    ∃ t r loaded version, run routeService.step (.initial sampleRouteDatabase)
        (resolveMiss 0 ++ deletion ++ resolveMiss 1) = some t ∧
      t.lookups[1]? = some r ∧ r.phase = .returned loaded version ∧
      RouteResolver.answer r.query.2 loaded =
        .error (.routing "no_route" "no enabled routes for model alias 'gpt-4'") ∧
      r.since = 1 ∧ r.since ≤ version ∧ ∃ source choice, t.history[version]? = some source ∧
        RouteResolver.answer r.query.2 loaded = RouteResolver.answer r.query.2
          (RouteResolver.load choice source r.query.1 r.query.2) := by
  have hguard : Guarded routeService.step FinishesInTime (.initial sampleRouteDatabase)
      (resolveMiss 0 ++ deletion ++ resolveMiss 1) := by decide +kernel
  have hrun : ((run routeService.step (.initial sampleRouteDatabase)
      (resolveMiss 0 ++ deletion ++ resolveMiss 1)).bind
        fun t ↦ t.lookups[1]?.bind resolveAnswer) = some (1, .error
          (.routing "no_route" "no enabled routes for model alias 'gpt-4'")) := by decide +kernel
  obtain ⟨t, ht, hanswer⟩ := Option.bind_eq_some_iff.mp hrun
  obtain ⟨r, hr, hresolve⟩ := Option.bind_eq_some_iff.mp hanswer
  obtain ⟨loaded, version, hreturned, hsince, hloaded⟩ := resolveAnswer_eq_some hresolve
  have hreflects := resolve_reflects_writes hguard ht r (List.mem_of_getElem? hr) loaded version
    hreturned
  refine ⟨t, r, loaded, version, ht, hr, hreturned, ?_, hsince, hreflects⟩
  cases hanswer : RouteResolver.answer r.query.2 loaded with
  | error e =>
      rw [hanswer] at hloaded
      cases hloaded
      rfl
  | ok routes =>
      rw [hanswer] at hloaded
      cases hloaded

end SmartGate
