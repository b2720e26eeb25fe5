import SmartGate.Admin.Validation
import SmartGate.Lib.Transition
import SmartGate.Routing.Router

/-!
# The route handlers of the admin API

The handlers check the provider and the two model names of a request, and nothing about
the numbers in it.  A plan, on the other hand, is refused as soon as one of its routes has
a negative setting.  So the routes that the handlers accept can be executed as long as
the requests bring no negative setting, and a request that does can block its alias for
every tenant that the route serves.
-/

namespace SmartGate

open Transition

structure RouteApp where
  db : Option RouteDatabase
  routeCache : Option RouteCache

namespace RouteApp

def requireDb (s : RouteApp) : Except GatewayError RouteDatabase :=
  match s.db with
  | some db => .ok db
  | none => .error (.config "internal_error" "database not available")

theorem requireDb_eq_ok {s : RouteApp} {db : RouteDatabase} (h : s.requireDb = .ok db) :
    s.db = some db := by
  unfold requireDb at h
  split at h
  · next heq =>
    cases h
    exact heq
  · cases h

/-- What the three handlers share: after the checks comes one statement, and after a
statement that succeeded the whole route cache is dropped. -/
def execute {α : Type} (s : RouteApp) (checks : Except GatewayError Unit)
    (statement : RouteDatabase → Except StorageError α × RouteDatabase) :
    Except GatewayError α × RouteApp :=
  match checks >>= fun _ ↦ s.requireDb with
  | .error e => (.error e, s)
  | .ok db =>
      match statement db with
      | (.ok answer, db') => (.ok answer, ⟨some db', s.routeCache.map RouteCache.invalidateAll⟩)
      | (.error e, db') => (.error (mapStorageError e), { s with db := some db' })

theorem execute_eq_ok {α : Type} {s s' : RouteApp} {checks : Except GatewayError Unit}
    {statement : RouteDatabase → Except StorageError α × RouteDatabase} {answer : α}
    (h : s.execute checks statement = (.ok answer, s')) :
    checks = .ok () ∧ ∃ db db', s.db = some db ∧ statement db = (.ok answer, db') ∧
      s' = ⟨some db', s.routeCache.map RouteCache.invalidateAll⟩ := by
  unfold execute at h
  split at h
  · cases h
  · next db hdb =>
    obtain ⟨_, hchecks, hrequire⟩ := bind_eq_ok.mp hdb
    split at h
    · next answer' db' hstatement =>
      cases h
      exact ⟨hchecks, db, db', requireDb_eq_ok hrequire, hstatement, rfl⟩
    · cases h

end RouteApp

/-! ## Handlers -/

def validateProvider (provider : String) : Except GatewayError Unit :=
  (parseEnumStr Provider.decode provider "provider"
    "openai, anthropic, gemini, azure_openai, vllm").map fun _ ↦ ()

theorem validateProvider_eq_ok {provider : String} (h : validateProvider provider = .ok ()) :
    (Provider.decode provider).isSome := by
  obtain ⟨p, hparse, _⟩ := map_eq_ok.mp h
  unfold parseEnumStr at hparse
  split at hparse
  · next hdecode => rw [hdecode, Option.isSome_some]
  · cases hparse

/-- The requests have the fields of the repository's inputs. -/
abbrev CreateRouteRequest := CreateRoute

abbrev UpdateRouteRequest := UpdateRoute

def createRoute (ctx : AdminContext) (body : CreateRouteRequest) (id : RouteId) (now : ℕ)
    (s : RouteApp) : Except GatewayError ProviderRoute × RouteApp :=
  s.execute
    (do requireAdminRole ctx
        validateProvider body.provider
        validateModelIdentifier body.modelAlias "model_alias"
        validateModelIdentifier body.providerModelName "provider_model_name")
    (fun db ↦ RouteRepo.create db body id now)

def updateRoute (ctx : AdminContext) (id : RouteId) (body : UpdateRouteRequest) (s : RouteApp) :
    Except GatewayError ProviderRoute × RouteApp :=
  s.execute
    (do requireAdminRole ctx
        checkSome body.provider validateProvider
        checkSome body.modelAlias fun v ↦ validateModelIdentifier v "model_alias"
        checkSome body.providerModelName fun v ↦ validateModelIdentifier v "provider_model_name")
    (fun db ↦ RouteRepo.update db id body)

def deleteRoute (ctx : AdminContext) (id : RouteId) (s : RouteApp) :
    Except GatewayError Unit × RouteApp :=
  s.execute (requireAdminRole ctx) (fun db ↦ RouteRepo.delete db id)

/-! ## Accepted requests -/

inductive RouteRequest where
  | create (body : CreateRouteRequest) (id : RouteId)
  | update (id : RouteId) (body : UpdateRouteRequest)
  | delete (id : RouteId)

structure RouteOp where
  ctx : AdminContext
  now : ℕ
  request : RouteRequest

/-- The state after a request that was answered with success. -/
def accepted {α : Type} : Except GatewayError α × RouteApp → Option RouteApp
  | (.ok _, s) => some s
  | (.error _, _) => none

def routeStep (s : RouteApp) (op : RouteOp) : Option RouteApp :=
  match op.request with
  | .create body id => accepted (createRoute op.ctx body id op.now s)
  | .update id body => accepted (updateRoute op.ctx id body s)
  | .delete id => accepted (deleteRoute op.ctx id s)

theorem accepted_eq_some {α : Type} {answer : Except GatewayError α × RouteApp} {s : RouteApp}
    (h : accepted answer = some s) : ∃ a, answer = (.ok a, s) := by
  obtain ⟨result, s'⟩ := answer
  cases result with
  | error e => cases h
  | ok a =>
      cases h
      exact ⟨a, rfl⟩

/-- What an accepted request has checked about the provider, and what it does to the rows. -/
def RouteRequest.Effect (now : ℕ) (rows rows' : List RouteRow) : RouteRequest → Prop
  | .create body id =>
      validateProvider body.provider = .ok () ∧ rows' = body.row id now :: rows
  | .update id body => (∀ p ∈ body.provider, validateProvider p = .ok ()) ∧
      (∃ row ∈ rows, row.id = id) ∧
      rows' = rows.map fun r ↦ if decide (r.id = id) then body.apply r else r
  | .delete _ => rows' ⊆ rows

theorem routeStep_effect {s t : RouteApp} {op : RouteOp} {db : RouteDatabase}
    (hdb : s.db = some db) (hstep : routeStep s op = some t) :
    requireAdminRole op.ctx = .ok () ∧
      ∃ db', t.db = some db' ∧ op.request.Effect op.now db.routes.rows db'.routes.rows := by
  unfold routeStep at hstep
  cases hrequest : op.request with
  | create body id =>
      rw [hrequest] at hstep
      obtain ⟨route, hanswer⟩ := accepted_eq_some hstep
      obtain ⟨hchecks, db₀, db', hdb₀, hcreate, rfl⟩ := RouteApp.execute_eq_ok hanswer
      cases hdb.symm.trans hdb₀
      obtain ⟨_, hrole, hchecks⟩ := bind_eq_ok.mp hchecks
      obtain ⟨_, hprovider, _⟩ := bind_eq_ok.mp hchecks
      exact ⟨hrole, db', rfl, hprovider, (RouteRepo.create_eq_ok hcreate).2⟩
  | update id body =>
      rw [hrequest] at hstep
      obtain ⟨route, hanswer⟩ := accepted_eq_some hstep
      obtain ⟨hchecks, db₀, db', hdb₀, hupdate, rfl⟩ := RouteApp.execute_eq_ok hanswer
      cases hdb.symm.trans hdb₀
      obtain ⟨_, hrole, hchecks⟩ := bind_eq_ok.mp hchecks
      obtain ⟨_, hprovider, _⟩ := bind_eq_ok.mp hchecks
      obtain ⟨hfound, hrows⟩ := RouteRepo.update_eq_ok hupdate
      exact ⟨hrole, db', rfl, checkSome_eq_ok.mp hprovider, hfound, hrows⟩
  | delete id =>
      rw [hrequest] at hstep
      obtain ⟨_, hanswer⟩ := accepted_eq_some hstep
      obtain ⟨hrole, db₀, db', hdb₀, hdelete, rfl⟩ := RouteApp.execute_eq_ok hanswer
      cases hdb.symm.trans hdb₀
      exact ⟨hrole, db', rfl, RouteRepo.delete_eq_ok hdelete⟩

/-! ## Routes that can be executed -/

/-- The settings that a plan checks are not negative, as far as the request has them. -/
def SettingsNonNegative (maxRetries : Option Int32) (timeoutMs retryBackoffMs : Option ℤ) : Prop :=
  (∀ v ∈ maxRetries, 0 ≤ v) ∧ (∀ v ∈ timeoutMs, 0 ≤ v) ∧ ∀ v ∈ retryBackoffMs, 0 ≤ v

/-- The instance for options is named, for a search may find the one that goes through all
values of `Int32`. -/
instance (maxRetries : Option Int32) (timeoutMs retryBackoffMs : Option ℤ) :
    Decidable (SettingsNonNegative maxRetries timeoutMs retryBackoffMs) :=
  have : Decidable (∀ v ∈ maxRetries, 0 ≤ v) := Option.decidableForallMem maxRetries
  inferInstanceAs (Decidable (_ ∧ _))

def RouteRequest.NonNegative : RouteRequest → Prop
  | .create body _ => SettingsNonNegative body.maxRetries body.timeoutMs body.retryBackoffMs
  | .update _ body => SettingsNonNegative body.maxRetries body.timeoutMs body.retryBackoffMs
  | .delete _ => True

instance (request : RouteRequest) : Decidable request.NonNegative :=
  match request with
  | .create body _ => inferInstanceAs (Decidable
      (SettingsNonNegative body.maxRetries body.timeoutMs body.retryBackoffMs))
  | .update _ body => inferInstanceAs (Decidable
      (SettingsNonNegative body.maxRetries body.timeoutMs body.retryBackoffMs))
  | .delete _ => inferInstanceAs (Decidable True)

theorem getD_nonneg {α : Type} [LE α] [Zero α] {v : Option α} {d : α} (hv : ∀ x ∈ v, 0 ≤ x)
    (hd : 0 ≤ d) : 0 ≤ v.getD d := by
  cases v with
  | none => exact hd
  | some x => exact hv x rfl

/-- The gateway knows the provider of every row. -/
def ProvidersKnown (rows : List RouteRow) : Prop :=
  ∀ row ∈ rows, (Provider.decode row.provider).isSome

theorem ProvidersKnown.effect {now : ℕ} {rows rows' : List RouteRow} {request : RouteRequest}
    (h : ProvidersKnown rows) (heffect : request.Effect now rows rows') : ProvidersKnown rows' := by
  cases request with
  | create body id =>
      obtain ⟨hprovider, rfl⟩ := heffect
      exact List.forall_mem_cons.mpr ⟨validateProvider_eq_ok hprovider, h⟩
  | update id body =>
      obtain ⟨hprovider, _, rfl⟩ := heffect
      intro row hrow
      rcases Table.mem_map_ite.mp hrow with ⟨hrow, _⟩ | ⟨row₀, hrow₀, _, rfl⟩
      · exact h row hrow
      · cases hp : body.provider with
        | none => simpa [UpdateRoute.apply, hp] using h row₀ hrow₀
        | some p => simpa [UpdateRoute.apply, hp] using validateProvider_eq_ok (hprovider p hp)
  | delete id => exact fun row hrow ↦ h row (heffect hrow)

/-- A plan accepts the settings of every row. -/
def SettingsAccepted (rows : List RouteRow) : Prop := ∀ row ∈ rows, row.NonNegative

theorem SettingsAccepted.effect {now : ℕ} {rows rows' : List RouteRow} {request : RouteRequest}
    (h : SettingsAccepted rows) (hnonneg : request.NonNegative)
    (heffect : request.Effect now rows rows') : SettingsAccepted rows' := by
  cases request with
  | create body id =>
      obtain ⟨_, rfl⟩ := heffect
      refine List.forall_mem_cons.mpr ⟨⟨?_, ?_, ?_⟩, h⟩
      · exact getD_nonneg hnonneg.1 (by decide)
      · exact getD_nonneg hnonneg.2.1 (by decide)
      · exact getD_nonneg hnonneg.2.2 (by decide)
  | update id body =>
      obtain ⟨_, _, rfl⟩ := heffect
      intro row hrow
      rcases Table.mem_map_ite.mp hrow with ⟨hrow, _⟩ | ⟨row₀, hrow₀, _, rfl⟩
      · exact h row hrow
      · obtain ⟨hretries, htimeout, hbackoff⟩ := h row₀ hrow₀
        exact ⟨getD_nonneg hnonneg.1 hretries, getD_nonneg hnonneg.2.1 htimeout,
          getD_nonneg hnonneg.2.2 hbackoff⟩
  | delete id => exact fun row hrow ↦ h row (heffect hrow)

/-- There is a database, and its routes have a property. -/
def RouteApp.Satisfies (s : RouteApp) (inv : List RouteRow → Prop) : Prop :=
  ∃ db, s.db = some db ∧ inv db.routes.rows

theorem RouteApp.Satisfies.step {inv : List RouteRow → Prop} {s t : RouteApp} {op : RouteOp}
    (hinv : ∀ rows rows', inv rows → op.request.Effect op.now rows rows' → inv rows')
    (h : s.Satisfies inv) (hstep : routeStep s op = some t) : t.Satisfies inv := by
  obtain ⟨db, hdb, hrows⟩ := h
  obtain ⟨_, db', hdb', heffect⟩ := routeStep_effect hdb hstep
  exact ⟨db', hdb', hinv _ _ hrows heffect⟩

theorem run_providersKnown {s t : RouteApp} {ops : List RouteOp}
    (h : s.Satisfies ProvidersKnown) (hrun : run routeStep s ops = some t) :
    t.Satisfies ProvidersKnown := by
  have hkeep : ∀ s op t, RouteApp.Satisfies s ProvidersKnown → routeStep s op = some t →
      t.Satisfies ProvidersKnown := fun s op t hs hstep ↦
    hs.step (fun _ _ hrows heffect ↦ hrows.effect heffect) hstep
  exact run_preserves hkeep hrun h

theorem run_settingsAccepted {s t : RouteApp} {ops : List RouteOp}
    (h : s.Satisfies SettingsAccepted) (hops : ∀ op ∈ ops, op.request.NonNegative)
    (hrun : run routeStep s ops = some t) : t.Satisfies SettingsAccepted := by
  have hkeep : ∀ s op t, RouteApp.Satisfies s SettingsAccepted → op.request.NonNegative →
      routeStep s op = some t → t.Satisfies SettingsAccepted := fun s op t hs hop hstep ↦
    hs.step (fun _ _ hrows heffect ↦ hrows.effect hop heffect) hstep
  exact run_invariant hkeep (guarded_of_forall s hops) hrun h

/-- In every run of accepted requests without negative settings, each alias can be
resolved for each tenant, and routes that are found have a plan. -/
theorem accepted_routes_have_plan {s s' : RouteApp} {db : RouteDatabase}
    (hdb : s.db = some db) (hempty : db.routes.rows = []) {ops : List RouteOp}
    (hops : ∀ op ∈ ops, op.request.NonNegative) (hrun : run routeStep s ops = some s') :
    ∃ db', s'.db = some db' ∧ ∀ order tenant modelAlias, ∃ selected,
      RouteRepo.resolveRoutes order db'.routes tenant modelAlias = .ok selected ∧
        (selected ≠ [] → ∃ plan, ExecutionPlan.build modelAlias selected = .ok plan) := by
  have hinit : s.Satisfies SettingsAccepted := ⟨db, hdb, by simp [hempty, SettingsAccepted]⟩
  obtain ⟨db', hdb', hrows⟩ := run_settingsAccepted hinit hops hrun
  obtain ⟨db'', hdb'', hknown⟩ :=
    run_providersKnown ⟨db, hdb, by simp [hempty, ProvidersKnown]⟩ hrun
  cases hdb'.symm.trans hdb''
  refine ⟨db', hdb', fun order tenant modelAlias ↦ ?_⟩
  obtain ⟨selected, hselected⟩ := RouteRepo.resolveRoutes_of_isSome hknown order tenant modelAlias
  refine ⟨selected, hselected, fun hne ↦ ⟨_, ExecutionPlan.build_eq_ok.mpr ⟨hne, ?_, rfl⟩⟩⟩
  intro route hroute
  have hrow := (RouteRepo.mem_resolveRoutes hselected).mp ⟨route, hroute, rfl⟩
  exact hrows route.encode hrow.1

def RouteApp.initial : RouteApp := ⟨some RouteDatabase.empty, none⟩

/-- Two global routes of one alias, with the given number of retries on the second. -/
def createSampleRoutes (maxRetries : Int32) : List RouteOp :=
  [⟨⟨⟨1⟩, "ops", .admin⟩, 0, .create
      { tenantId := none, modelAlias := "gpt-4", provider := "openai"
        providerModelName := "gpt-4-turbo" } ⟨⟨1⟩⟩⟩,
    ⟨⟨⟨1⟩, "ops", .admin⟩, 1, .create
      { tenantId := none, modelAlias := "gpt-4", provider := "azure_openai"
        providerModelName := "gpt-4", priority := some 200
        maxRetries := some maxRetries } ⟨⟨2⟩⟩⟩]

/-- The routes that a tenant finds after a run, with whether a plan accepts each of them. -/
def settingsFound (ops : List RouteOp) : Option (List (RouteId × Bool)) :=
  (run routeStep .initial ops).bind fun s ↦ s.db.bind fun db ↦
    (RouteRepo.resolveRoutes .stored db.routes ⟨⟨1⟩⟩ "gpt-4").toOption.map fun selected ↦
      selected.map fun route ↦ (route.id, decide route.NonNegative)

theorem accepted_routes_have_plan_sample :
    ∃ s' db' selected plan, run routeStep .initial (createSampleRoutes 3) = some s' ∧
      s'.db = some db' ∧
      RouteRepo.resolveRoutes .stored db'.routes ⟨⟨1⟩⟩ "gpt-4" = .ok selected ∧
      selected.map (fun route ↦ route.id) = [⟨⟨1⟩⟩, ⟨⟨2⟩⟩] ∧
      ExecutionPlan.build "gpt-4" selected = .ok plan := by
  have hfound : settingsFound (createSampleRoutes 3) =
      some [(⟨⟨1⟩⟩, true), (⟨⟨2⟩⟩, true)] := by
    decide +kernel
  obtain ⟨s', hrun, hdb⟩ := Option.bind_eq_some_iff.mp hfound
  obtain ⟨db', hdb', hresolve⟩ := Option.bind_eq_some_iff.mp hdb
  obtain ⟨selected, hselected, hids⟩ := Option.map_eq_some_iff.mp hresolve
  have hids : selected.map (fun route ↦ route.id) = [⟨⟨1⟩⟩, ⟨⟨2⟩⟩] := by
    simpa [Function.comp_def] using congrArg (List.map Prod.fst) hids
  obtain ⟨db'', hdb'', hplans⟩ := accepted_routes_have_plan rfl rfl (by decide) hrun
  cases hdb'.symm.trans hdb''
  obtain ⟨selected', hselected', hplan⟩ := hplans .stored ⟨⟨1⟩⟩ "gpt-4"
  cases (eq_ok_of_toOption hselected).symm.trans hselected'
  obtain ⟨plan, hbuild⟩ := hplan fun hnil ↦ by simp [hnil] at hids
  exact ⟨s', db', selected, plan, hrun, hdb', hselected', hids, hbuild⟩

/-- A second global route with `max_retries = -1` is accepted; from then on no tenant has a
plan for the alias, although the first route is in order. -/
theorem no_plan_for_accepted_routes :
    ∃ s' db' selected r, run routeStep .initial (createSampleRoutes (-1)) = some s' ∧
      s'.db = some db' ∧
      RouteRepo.resolveRoutes .stored db'.routes ⟨⟨1⟩⟩ "gpt-4" = .ok selected ∧
      selected.map (fun route ↦ (route.id, decide route.NonNegative)) =
        [(⟨⟨1⟩⟩, true), (⟨⟨2⟩⟩, false)] ∧
      ExecutionPlan.build "gpt-4" selected = .error (ExecutionPlan.invalidRouteConfig r) := by
  have hfound : settingsFound (createSampleRoutes (-1)) =
      some [(⟨⟨1⟩⟩, true), (⟨⟨2⟩⟩, false)] := by
    decide +kernel
  obtain ⟨s', hrun, hdb⟩ := Option.bind_eq_some_iff.mp hfound
  obtain ⟨db', hdb', hresolve⟩ := Option.bind_eq_some_iff.mp hdb
  obtain ⟨selected, hselected, hsettings⟩ := Option.map_eq_some_iff.mp hresolve
  have hnegative : ¬ ∀ route ∈ selected, route.NonNegative := by
    intro hall
    have hmem : ((⟨⟨2⟩⟩, false) : RouteId × Bool) ∈
        selected.map fun route ↦ (route.id, decide route.NonNegative) := by
      simp [hsettings]
    obtain ⟨route, hroute, hpair⟩ := List.mem_map.mp hmem
    exact of_decide_eq_false (Prod.mk.inj hpair).2 (hall route hroute)
  obtain ⟨r, _, herror⟩ := ExecutionPlan.build_of_negative "gpt-4" hnegative
  exact ⟨s', db', selected, r, hrun, hdb', eq_ok_of_toOption hselected, hsettings, herror⟩

/-! ## Settings that block an alias -/

/-- A row with a negative setting leaves no plan for its alias to the tenants that it
serves. -/
theorem no_plan_of_negative {db : RouteDatabase} {row : RouteRow} (hrow : row ∈ db.routes.rows)
    (hnegative : ¬row.NonNegative) {tenant : TenantId}
    (hserves : row.Serves tenant row.modelAlias) {order : Enumeration RouteRow}
    {selected : List ProviderRoute}
    (hselected : RouteRepo.resolveRoutes order db.routes tenant row.modelAlias = .ok selected) :
    ∃ r ∈ selected, ExecutionPlan.build row.modelAlias selected =
      .error (ExecutionPlan.invalidRouteConfig r) := by
  obtain ⟨r, hr, hencode⟩ := (RouteRepo.mem_resolveRoutes hselected).mpr ⟨hrow, hserves⟩
  refine ExecutionPlan.build_of_negative row.modelAlias fun hall ↦ hnegative ?_
  have hnonneg : r.encode.NonNegative := hall r hr
  rwa [hencode] at hnonneg

/-- After an accepted request for an enabled route with a negative setting, there is no plan
for its alias and any tenant that it serves. -/
theorem no_plan_after_createRoute {ctx : AdminContext} {body : CreateRouteRequest}
    {id : RouteId} {now : ℕ} {s s' : RouteApp} {route : ProviderRoute}
    (h : createRoute ctx body id now s = (.ok route, s')) (hnegative : ¬ route.NonNegative)
    {tenant : TenantId} (hserves : route.Serves tenant route.modelAlias) :
    ∃ db', s'.db = some db' ∧ ∀ order selected,
      RouteRepo.resolveRoutes order db'.routes tenant route.modelAlias = .ok selected →
        ∃ r, ExecutionPlan.build route.modelAlias selected =
          .error (ExecutionPlan.invalidRouteConfig r) := by
  obtain ⟨_, db, db', _, hcreate, rfl⟩ := RouteApp.execute_eq_ok h
  obtain ⟨hdecode, hrows⟩ := RouteRepo.create_eq_ok hcreate
  refine ⟨db', rfl, fun order selected hselected ↦ ?_⟩
  have hmem : route.encode ∈ db'.routes.rows := by
    rw [hrows, Route.decode_eq_ok hdecode]
    exact List.mem_cons_self
  obtain ⟨r, _, herror⟩ := no_plan_of_negative hmem hnegative hserves hselected
  exact ⟨r, herror⟩

/-- A setting that a request brings is in the row that it writes. -/
theorem negative_of_settings {maxRetries : Option Int32} {timeoutMs retryBackoffMs : Option ℤ}
    (h : ¬SettingsNonNegative maxRetries timeoutMs retryBackoffMs) {row : RouteRow}
    {retries : Int32} {timeout backoff : ℤ} (hretries : row.maxRetries = maxRetries.getD retries)
    (htimeout : row.timeoutMs = timeoutMs.getD timeout)
    (hbackoff : row.retryBackoffMs = retryBackoffMs.getD backoff) : ¬row.NonNegative := by
  rintro ⟨h₁, h₂, h₃⟩
  refine h ⟨?_, ?_, ?_⟩
  · rintro v rfl
    rwa [hretries] at h₁
  · rintro v rfl
    rwa [htimeout] at h₂
  · rintro v rfl
    rwa [hbackoff] at h₃

theorem RouteRequest.Effect.exists_negative {now : ℕ} {rows rows' : List RouteRow}
    {request : RouteRequest} (h : request.Effect now rows rows')
    (hnegative : ¬request.NonNegative) : ∃ row ∈ rows', ¬row.NonNegative := by
  cases request with
  | create body id =>
      obtain ⟨_, rfl⟩ := h
      exact ⟨_, List.mem_cons_self, negative_of_settings hnegative rfl rfl rfl⟩
  | update id body =>
      obtain ⟨_, ⟨row, hrow, hid⟩, rfl⟩ := h
      refine ⟨body.apply row, ?_, negative_of_settings hnegative rfl rfl rfl⟩
      exact Table.mem_map_ite.mpr (Or.inr ⟨row, hrow, decide_eq_true hid, rfl⟩)
  | delete id => exact absurd trivial hnegative

/-- Some tenant is served by an enabled row. -/
theorem exists_serves (row : RouteRow) (h : row.enabled = true) :
    ∃ tenant, row.Serves tenant row.modelAlias := by
  cases htenant : row.tenantId with
  | none => exact ⟨⟨⟨0⟩⟩, rfl, h, Or.inr htenant⟩
  | some tenant => exact ⟨tenant, rfl, h, Or.inl htenant⟩

/-- The request that enables a route and changes nothing else. -/
def enableRoute (ctx : AdminContext) (now : ℕ) (id : RouteId) : RouteOp :=
  ⟨ctx, now, .update id { enabled := some true }⟩

theorem routeStep_enableRoute {s : RouteApp} {db : RouteDatabase} (hdb : s.db = some db)
    (hknown : ProvidersKnown db.routes.rows) {ctx : AdminContext}
    (hrole : requireAdminRole ctx = .ok ()) {row : RouteRow} (hrow : row ∈ db.routes.rows)
    (now : ℕ) :
    ∃ t db', routeStep s (enableRoute ctx now row.id) = some t ∧ t.db = some db' ∧
      { row with enabled := true } ∈ db'.routes.rows ∧ ProvidersKnown db'.routes.rows := by
  let body : UpdateRoute := { enabled := some true }
  have hget : db.routes.get row.id = some row := Table.get_eq_some.mpr ⟨hrow, rfl⟩
  obtain ⟨route, hdecode⟩ : ∃ route, (body.apply row).decode = .ok route :=
    Route.decode_of_isSome (hknown row hrow)
  have hupdate : ∃ db', RouteRepo.update db row.id body = (.ok route, db') := by
    simp only [RouteRepo.update, hget, hdecode]
    exact ⟨_, rfl⟩
  obtain ⟨db', hupdate⟩ := hupdate
  have hchecks : updateRoute ctx row.id body s =
      (.ok route, ⟨some db', s.routeCache.map RouteCache.invalidateAll⟩) := by
    simp [updateRoute, RouteApp.execute, hrole, RouteApp.requireDb, hdb, hupdate, checkSome, body,
      bind, Except.bind]
  have hstep : routeStep s (enableRoute ctx now row.id) =
      some ⟨some db', s.routeCache.map RouteCache.invalidateAll⟩ := congrArg accepted hchecks
  obtain ⟨_, db'', hdb'', heffect⟩ := routeStep_effect hdb hstep
  cases hdb''
  refine ⟨_, db', hstep, rfl, ?_, hknown.effect heffect⟩
  rw [heffect.2.2]
  exact Table.mem_map_ite.mpr (Or.inr ⟨row, hrow, decide_eq_true rfl, rfl⟩)

/-- The condition is sharp: whatever request brings a negative setting, one more request
without any, which enables its route, leaves some tenant with routes for an alias and without
a plan. -/
theorem no_plan_after_negative_request {s t : RouteApp} {db : RouteDatabase} (hdb : s.db = some db)
    (hempty : db.routes.rows = []) {ops : List RouteOp} {op : RouteOp}
    (hrun : run routeStep s (ops ++ [op]) = some t) (hnegative : ¬op.request.NonNegative) :
    ∃ enable u db' tenant modelAlias, enable.request.NonNegative ∧ routeStep t enable = some u ∧
      u.db = some db' ∧ ∀ order, ∃ selected, selected ≠ [] ∧
        RouteRepo.resolveRoutes order db'.routes tenant modelAlias = .ok selected ∧
          ∃ r, ExecutionPlan.build modelAlias selected =
            .error (ExecutionPlan.invalidRouteConfig r) := by
  obtain ⟨s', hrun', hlast⟩ := run_append_eq_some.mp hrun
  obtain ⟨t', hstep, hnil⟩ := run_cons_eq_some.mp hlast
  cases hnil
  obtain ⟨db₁, hdb₁, hknown⟩ :=
    run_providersKnown ⟨db, hdb, by simp [hempty, ProvidersKnown]⟩ hrun'
  obtain ⟨hrole, db₂, hdb₂, heffect⟩ := routeStep_effect hdb₁ hstep
  obtain ⟨row, hrow, hrownegative⟩ := heffect.exists_negative hnegative
  obtain ⟨u, db', henable, hdb', hrow', hknown'⟩ :=
    routeStep_enableRoute hdb₂ (hknown.effect heffect) hrole hrow op.now
  obtain ⟨tenant, hserves⟩ := exists_serves { row with enabled := true } rfl
  refine ⟨enableRoute op.ctx op.now row.id, u, db', tenant, row.modelAlias,
    ⟨nofun, nofun, nofun⟩, henable, hdb', fun order ↦ ?_⟩
  obtain ⟨selected, hselected⟩ :=
    RouteRepo.resolveRoutes_of_isSome hknown' order tenant row.modelAlias
  obtain ⟨r, hr, herror⟩ := no_plan_of_negative hrow' hrownegative hserves hselected
  exact ⟨selected, List.ne_nil_of_mem hr, hselected, r, herror⟩

end SmartGate
