import SmartGate.Auth.DataPlane
import SmartGate.Auth.KeyTiers
import SmartGate.Auth.Opacity
import SmartGate.Gateway.Staleness
import SmartGate.Policy.Concurrency
import SmartGate.Policy.RateLimitAccounting

/-!
# The data plane as one system

A request of the data plane arrives at one of several gateways.  It looks its key up in the
tiers of the key store, queries its account, records its nonce, gets the policy of the account
from the cache of its gateway, is evaluated against the rate limits, given a slot if its
policy limits concurrency, handled, and answered.  The gateways share one Redis and one
database, and the stages of many requests interleave.

Requests of one account that miss the policy cache of a gateway at the same time share one
load: the first of them leads it, and the others wait for its outcome, or start over when the
leader is gone.  Nothing else makes one request wait for another: no request keeps a
connection from one command to the next, and the wait for a connection is part of a command.

A request is dropped when its client disconnects: the command it waits for may still be
executed, and a permit that it holds in the handler is given back by a task.
-/

namespace SmartGate

open ExpiringStore Transition

variable (P : Primitives)

/-! ## Responses -/

structure Response where
  status : ℕ
  headers : List (String × String)
  body : Option Json

/-- `HeaderMap::insert`, which replaces what is there under the name. -/
def Response.insertHeader (r : Response) (name value : String) : Response :=
  { r with headers := (name, value) :: r.headers.filter fun h ↦ h.1 ≠ name }

def Response.header (r : Response) (name : String) : Option String :=
  (r.headers.find? fun h ↦ h.1 == name).map Prod.snd

namespace GatewayError

def errorType : GatewayError → String
  | .auth _ _ => "authentication_error"
  | .policy _ _ => "policy_error"
  | .rateLimit _ _ _ => "rate_limit_error"
  | .budget _ _ => "budget_error"
  | .provider _ _ _ => "provider_error"
  | .routing _ _ => "routing_error"
  | .storage _ _ => "storage_error"
  | .config _ _ => "configuration_error"
  | .validation _ _ => "validation_error"
  | .notFound _ _ => "not_found_error"
  | .conflict _ _ => "conflict_error"

def message : GatewayError → String
  | .auth _ m | .policy _ m | .rateLimit _ m _ | .budget _ m | .provider _ m _ | .routing _ m
  | .storage _ m | .config _ m | .validation _ m | .notFound _ m | .conflict _ m => m

/-- The `request_id` is never set, and a field that is not set is not written. -/
def toErrorResponse (e : GatewayError) : Json :=
  .obj [("error", .obj [("code", .str e.code), ("message", .str e.message),
    ("type", .str e.errorType)])]

def intoResponse (e : GatewayError) : Response :=
  let response : Response :=
    { status := e.statusCode
      headers := [("content-type", "application/json")]
      body := some e.toErrorResponse }
  match e.retryAfter with
  | some secs => response.insertHeader "retry-after" (toString secs)
  | none => response

end GatewayError

def rateLimitHeaders : List String :=
  ["x-ratelimit-limit", "x-ratelimit-remaining", "x-ratelimit-reset"]

def injectRateLimitHeaders (response : Response) (outcome : RateLimitOutcome) : Response :=
  ((response.insertHeader "x-ratelimit-limit" (toString outcome.limit)).insertHeader
    "x-ratelimit-remaining" (toString outcome.remaining)).insertHeader
    "x-ratelimit-reset" (toString outcome.resetAt)

/-! ## The gateways -/

structure RateLimitEvaluator where
  windowSecs : ℕ
  globalRpm : ℕ
  deriving DecidableEq

/-- How the gateways are configured.  A component may be missing. -/
structure DataPlane where
  skewSecs : ℕ
  policyTtlSecs : ℕ
  keyStore : Bool
  db : Bool
  redis : Bool
  policyCache : Bool
  concurrencyLimiter : Bool
  evaluator : Option RateLimitEvaluator
  conversion : ReplyConversion

def requireComponent (available : Bool) (component : String) : Except GatewayError Unit :=
  if available then .ok ()
  else .error (.config "internal_error" s!"{component} not available")

namespace DataPlane

variable (plane : DataPlane)

def requireDb : Except GatewayError Unit := requireComponent plane.db "database"

def requireRedis : Except GatewayError Unit := requireComponent plane.redis "redis"

def requireKeyStore : Except GatewayError Unit := requireComponent plane.keyStore "key store"

def requirePolicyCache : Except GatewayError Unit :=
  requireComponent plane.policyCache "policy cache"

def requireConcurrencyLimiter : Except GatewayError Unit :=
  requireComponent plane.concurrencyLimiter "concurrency limiter"

def requireRateLimitEvaluator : Except GatewayError RateLimitEvaluator :=
  match plane.evaluator with
  | some evaluator => .ok evaluator
  | none => .error (.config "internal_error" "rate limit evaluator not available")

end DataPlane

/-- A request, with the gateway that it arrives at, what it reads from the clock while it is
authenticated, and the response of the handler, should it get that far. -/
structure Job where
  request : Request
  gateway : ℕ
  clock : ClockReadings
  response : Response

/-- What a request meets in one step.  The reading `after` of the clock is the second one that
a rejected request makes. -/
structure Circumstances where
  now : ℕ
  after : ℕ
  redis : RedisConnection
  load : PolicyLoad

/-- The keys of Redis by what they hold; no two of them collide. -/
structure RedisState where
  nonces : Store String String
  counters : Store String ℤ
  keys : Store String ServiceAccountKey

inductive LoadOutcome where
  | finished (answer : Except GatewayError EvaluatedPolicy)
  | abandoned

/-- The loads of policies: who leads the one in flight for an account on a gateway, and what
has become of the one that a request has led. -/
structure PolicyLoads where
  leader : ℕ × ServiceAccountId → Option ℕ
  outcome : ℕ → Option LoadOutcome

namespace PolicyLoads

def none : PolicyLoads := ⟨fun _ ↦ .none, fun _ ↦ .none⟩

def lead (loads : PolicyLoads) (place : ℕ × ServiceAccountId) (i : ℕ) : PolicyLoads :=
  { loads with leader := Function.update loads.leader place (some i) }

def settle (loads : PolicyLoads) (place : ℕ × ServiceAccountId) (i : ℕ) (outcome : LoadOutcome) :
    PolicyLoads where
  leader := Function.update loads.leader place .none
  outcome := Function.update loads.outcome i (some outcome)

end PolicyLoads

/-- All that the requests share. -/
structure Shared where
  redis : RedisState
  l1 : ℕ → Store String ServiceAccountKey
  policies : Store (ℕ × ServiceAccountId) EvaluatedPolicy
  loads : PolicyLoads
  db : Database

namespace Shared

def withNonces (s : Shared) (nonces : Store String String) : Shared :=
  { s with redis := { s.redis with nonces } }

def withCounters (s : Shared) (counters : Store String ℤ) : Shared :=
  { s with redis := { s.redis with counters } }

/-- The tiers of the key store at the instant `now`. -/
def fleet (s : Shared) (now : ℕ) : Fleet ℕ := ⟨now, s.l1, s.redis.keys, s.db.keys, []⟩

def withTiers (s : Shared) (fleet : Fleet ℕ) : Shared :=
  { s with l1 := fleet.l1, redis := { s.redis with keys := fleet.l2 } }

variable (s : Shared)

@[simp] theorem loads_withNonces (nonces : Store String String) :
    (s.withNonces nonces).loads = s.loads := rfl

@[simp] theorem loads_withCounters (counters : Store String ℤ) :
    (s.withCounters counters).loads = s.loads := rfl

end Shared

/-! ## One request -/

/-- The steps of `get_or_evaluate`. -/
inductive PolicyPhase where
  | cacheGet
  | boundRead
  | defaultRead (policies : List Policy)
  | cacheInsert (answer : Except GatewayError EvaluatedPolicy)
  | waiting (leader : ℕ)

def PolicyPhase.leads : PolicyPhase → Bool
  | .boundRead | .defaultRead _ | .cacheInsert _ => true
  | .cacheGet | .waiting _ => false

def PolicyPhase.waitsFor : PolicyPhase → Option ℕ
  | .waiting leader => some leader
  | .cacheGet | .boundRead | .defaultRead _ | .cacheInsert _ => none

/-- The await points at which a request has something left to do, and its ends. -/
inductive DataPhase where
  | received
  | lookingUp (h : AuthHeaders) (lookup : FleetLookup ℕ)
  | findingAccount (h : AuthHeaders) (key : ServiceAccountKey)
  | recording (v : Verified)
  | policy (auth : AuthContext) (evaluator : RateLimitEvaluator) (phase : PolicyPhase)
  | evaluating (evaluator : RateLimitEvaluator) (evaluated : EvaluatedPolicy) (call : EvaluateCall)
  | acquiring (saId : ServiceAccountId) (outcome : RateLimitOutcome) (limit : ℕ)
  | handling (saId : ServiceAccountId) (outcome : RateLimitOutcome) (permit : Bool)
  | releasing (saId : ServiceAccountId) (outcome : RateLimitOutcome)
  | answered (response : Response)
  /-- The request is gone, the task that gives its permit back is not. -/
  | releaseTask (saId : ServiceAccountId)
  | dropped

/-- An error ends the request with its response. -/
def DataPhase.orAnswer {α : Type} (result : Except GatewayError α) (next : α → DataPhase) :
    DataPhase :=
  match result with
  | .error e => .answered e.intoResponse
  | .ok a => next a

/-- `auth_middleware` up to the lookup of the key. -/
def receive (plane : DataPlane) (job : Job) (now : ℕ) : DataPhase :=
  .orAnswer (do
    let h ← checkFormat P plane.skewSecs job.clock job.request
    plane.requireKeyStore
    return h) fun h ↦ .lookingUp h ⟨job.gateway, h.keyId, .l1Get, now⟩

def keyFound (plane : DataPlane) (job : Job) (h : AuthHeaders)
    (found : Except GatewayError ServiceAccountKey) : DataPhase :=
  .orAnswer (do
    let key ← verifyKey (fun _ ↦ found) h.keyId job.clock.keyExpiry.ms
    plane.requireDb
    return key) (.findingAccount h)

def lookupKey (plane : DataPlane) (job : Job) (c : Circumstances) (s : Shared) (h : AuthHeaders)
    (l : FleetLookup ℕ) : Option (DataPhase × Shared) :=
  (fleetLookupStep (s.fleet c.now) c.redis c.load.failure.isNone l).map fun (fleet, l') ↦
    (match l'.phase with
      | .returned found => keyFound plane job h found
      | _ => .lookingUp h l', s.withTiers fleet)

def DataPlane.redisPool (plane : DataPlane) : Option RedisConnection :=
  if plane.redis then some .working else none

def accountFound (plane : DataPlane) (job : Job) (h : AuthHeaders) (key : ServiceAccountKey)
    (found : Except StorageError ServiceAccountWithTenantStatus) : DataPhase :=
  .orAnswer (do
    let sa ← verifyServiceAccount (fun _ ↦ found) key
    verifyClaimedId h.saIdStr sa
    checkSignature P plane.redisPool job.request h key sa) .recording

/-- The end of `auth_middleware` and the beginning of `rate_limit_middleware`. -/
def nonceChecked (plane : DataPlane) (v : Verified) (checked : Except GatewayError Unit) :
    DataPhase :=
  .orAnswer (do
    checked
    plane.requireRedis
    let evaluator ← plane.requireRateLimitEvaluator
    plane.requirePolicyCache
    plane.requireDb
    return evaluator) (.policy v.authContext · .cacheGet)

def policyFound (auth : AuthContext) (evaluator : RateLimitEvaluator)
    (answer : Except GatewayError EvaluatedPolicy) : DataPhase :=
  match answer with
  | .ok evaluated =>
      .evaluating evaluator evaluated (.start auth.serviceAccountId evaluated.rpmLimit)
  | .error e => .answered (GatewayError.policy "policy_load_failed" e.display).intoResponse

/-- `try_get_with`: the request that leads a load reads, stores what it has read unless that
is an error, and shares it with those that wait. -/
def policyStep (plane : DataPlane) (job : Job) (i : ℕ) (c : Circumstances) (s : Shared)
    (auth : AuthContext) (evaluator : RateLimitEvaluator) :
    PolicyPhase → Option (DataPhase × Shared)
  | .cacheGet =>
      match get s.policies c.now (job.gateway, auth.serviceAccountId) with
      | some evaluated => some (policyFound auth evaluator (.ok evaluated), s)
      | none =>
          match s.loads.leader (job.gateway, auth.serviceAccountId) with
          | some leader => some (.policy auth evaluator (.waiting leader), s)
          | none => some (.policy auth evaluator .boundRead,
              { s with loads := s.loads.lead (job.gateway, auth.serviceAccountId) i })
  | .boundRead =>
      some (.policy auth evaluator
        (((policyService plane.policyTtlSecs).first c.load s.db auth).elim .defaultRead
          .cacheInsert), s)
  | .defaultRead policies =>
      some (.policy auth evaluator
        (.cacheInsert ((policyService plane.policyTtlSecs).second c.load s.db auth policies)), s)
  | .cacheInsert answer =>
      -- an error is not cached, but those that wait get it too
      some (policyFound auth evaluator answer, { s with
        policies := answer.toOption.elim s.policies fun evaluated ↦
          setEx s.policies c.now (job.gateway, auth.serviceAccountId) evaluated
            (1000 * plane.policyTtlSecs)
        loads := s.loads.settle (job.gateway, auth.serviceAccountId) i (.finished answer) })
  | .waiting leader =>
      match s.loads.outcome leader with
      | some (.finished answer) => some (policyFound auth evaluator answer, s)
      | some .abandoned => some (.policy auth evaluator .cacheGet, s)
      -- the leader is still at work: the only step that has to wait
      | none => none

/-- A command that is sent without regard to its reply. -/
def RedisConnection.effect (redis : RedisConnection) (before after : Store String ℤ) :
    Store String ℤ :=
  match redis with
  | .failing false => before
  | .failing true | .working => after

/-- The next command of `evaluate`. -/
def evaluateStep (conv : ReplyConversion) (evaluator : RateLimitEvaluator)
    (redis : RedisConnection) (counters : Store String ℤ) (now after : ℕ) (call : EvaluateCall) :
    EvaluateCall × Store String ℤ :=
  match call.phase with
  | .saCheck saRpm =>
      let answer := checkAndIncrement conv evaluator.windowSecs redis counters now
        (saKeyPrefix call.saId) saRpm
      (call.afterSaCheck (windowOf evaluator.windowSecs now) after answer.1, answer.2)
  | .globalCheck =>
      let answer := checkAndIncrement conv evaluator.windowSecs redis counters now globalKeyPrefix
        evaluator.globalRpm
      (call.afterGlobalCheck (windowOf evaluator.windowSecs now) after answer.1, answer.2)
  | .rollback resetAt =>
      (call.afterRollback resetAt after,
        redis.effect counters (rollbackSaCounter evaluator.windowSecs counters now call.saId))
  | .returned _ => (call, counters)

def afterEvaluation (plane : DataPlane) (evaluator : RateLimitEvaluator)
    (evaluated : EvaluatedPolicy) (call : EvaluateCall) : DataPhase :=
  match call.phase with
  | .returned (.error e) => .answered e.intoResponse
  | .returned (.ok outcome) =>
      match evaluated.concurrencyLimit with
      | none => .handling call.saId outcome false
      | some limit =>
          .orAnswer plane.requireConcurrencyLimiter fun _ ↦ .acquiring call.saId outcome limit
  | _ => .evaluating evaluator evaluated call

/-- What a request does next. -/
def advance (plane : DataPlane) (job : Job) (i : ℕ) (c : Circumstances) (s : Shared) :
    DataPhase → Option (DataPhase × Shared)
  | .received => some (receive P plane job c.now, s)
  | .lookingUp h l => lookupKey plane job c s h l
  | .findingAccount h key => some (accountFound P plane job h key
      (accountLookup c.load.failure s.db key.serviceAccountId), s)
  | .recording v =>
      let answer := checkNonce c.redis s.redis.nonces job.clock.nonce.ms
        v.serviceAccount.id.display v.headers.nonce plane.skewSecs
      some (nonceChecked plane v answer.1, s.withNonces answer.2)
  | .policy auth evaluator phase => policyStep plane job i c s auth evaluator phase
  | .evaluating evaluator evaluated call =>
      let answer := evaluateStep plane.conversion evaluator c.redis s.redis.counters c.now c.after
        call
      some (afterEvaluation plane evaluator evaluated answer.1, s.withCounters answer.2)
  | .acquiring saId outcome limit =>
      let answer := acquire c.redis s.redis.counters c.now saId limit
      some (.orAnswer answer.1 fun _ ↦ .handling saId outcome true, s.withCounters answer.2)
  | .handling saId outcome permit =>
      some (if permit then .releasing saId outcome
        else .answered (injectRateLimitHeaders job.response outcome), s)
  | .releasing saId outcome =>
      some (.answered (injectRateLimitHeaders job.response outcome), s.withCounters
        (c.redis.effect s.redis.counters
          (decrPermit s.redis.counters c.now (concurrencyKey saId))))
  | .releaseTask saId =>
      some (.dropped, s.withCounters (c.redis.effect s.redis.counters
        (decrPermit s.redis.counters c.now (concurrencyKey saId))))
  | .answered _ | .dropped => none

/-- What is left of a request whose client disconnects. -/
def abandon : DataPhase → Option DataPhase
  | .received | .lookingUp _ _ | .findingAccount _ _ | .recording _ | .policy _ _ _
  | .evaluating _ _ _ | .acquiring _ _ _ | .releasing _ _ => some .dropped
  | .handling saId _ permit => some (if permit then .releaseTask saId else .dropped)
  | .answered _ | .releaseTask _ | .dropped => none

/-- Where the request leads a load, if it does. -/
def DataPhase.leadsAt (job : Job) : DataPhase → Option (ℕ × ServiceAccountId)
  | .policy auth _ phase =>
      if phase.leads then some (job.gateway, auth.serviceAccountId) else none
  | .received | .lookingUp _ _ | .findingAccount _ _ | .recording _ | .evaluating _ _ _
  | .acquiring _ _ _ | .handling _ _ _ | .releasing _ _ | .answered _ | .releaseTask _
  | .dropped => none

/-- The load that the request leads is abandoned with it. -/
def abandonLoad (job : Job) (i : ℕ) (loads : PolicyLoads) (phase : DataPhase) : PolicyLoads :=
  (phase.leadsAt job).elim loads fun place ↦ loads.settle place i .abandoned

/-- What a request leaves behind when its client disconnects, before or after the command that
it waits for is executed. -/
def interrupt (plane : DataPlane) (job : Job) (i : ℕ) (c : Circumstances) (executed : Bool)
    (s : Shared) (phase : DataPhase) : Shared :=
  -- the outcome of the command is lost with the request, so nobody gets it from the load
  let left := if executed then (advance P plane job i c s phase).elim s Prod.snd else s
  { left with loads := abandonLoad job i s.loads phase }

/-! ## All requests together -/

structure DataState where
  shared : Shared
  phase : ℕ → DataPhase

def DataState.move (s : DataState) (i : ℕ) (answer : DataPhase × Shared) : DataState where
  shared := answer.2
  phase := Function.update s.phase i answer.1

/-- The steps of a request, and what else may happen at any time.  How many steps the lookup of
a key takes depends on the caches, so that these have a label of their own. -/
inductive DataStep where
  | advance (i : ℕ) (c : Circumstances)
  | lookup (i : ℕ) (c : Circumstances)
  /-- The client of request `i` disconnects, before or after the command that the request
  waits for is executed. -/
  | drop (i : ℕ) (c : Circumstances) (executed : Bool)
  | invalidateL1 (gateway : ℕ) (keyId : String)
  | invalidateL2 (keyId : String)
  | evictPolicy (gateway : ℕ) (saId : ServiceAccountId)
  | write (db : Database)

def DataStep.request : DataStep → Option ℕ
  | .advance i _ | .lookup i _ | .drop i _ _ => some i
  | .invalidateL1 _ _ | .invalidateL2 _ | .evictPolicy _ _ | .write _ => none

def DataPhase.isLookingUp : DataPhase → Bool
  | .lookingUp _ _ => true
  | .received | .findingAccount _ _ | .recording _ | .policy _ _ _ | .evaluating _ _ _
  | .acquiring _ _ _ | .handling _ _ _ | .releasing _ _ | .answered _ | .releaseTask _
  | .dropped => false

def dataStep (plane : DataPlane) (jobs : ℕ → Job) (s : DataState) : DataStep → Option DataState
  | .advance i c =>
      if (s.phase i).isLookingUp then none
      else (advance P plane (jobs i) i c s.shared (s.phase i)).map (s.move i)
  | .lookup i c =>
      if (s.phase i).isLookingUp then
        (advance P plane (jobs i) i c s.shared (s.phase i)).map (s.move i)
      else none
  | .drop i c executed => (abandon (s.phase i)).map fun phase ↦
      s.move i (phase, interrupt P plane (jobs i) i c executed s.shared (s.phase i))
  | .invalidateL1 gateway keyId => some { s with shared := { s.shared with
      l1 := Function.update s.shared.l1 gateway (put (s.shared.l1 gateway) keyId none) } }
  | .invalidateL2 keyId => some { s with shared := { s.shared with
      redis := { s.shared.redis with
        keys := put s.shared.redis.keys (keyCacheKey keyId) none } } }
  | .evictPolicy gateway saId => some { s with shared := { s.shared with
      policies := put s.shared.policies (gateway, saId) none } }
  | .write db => some { s with shared := { s.shared with db } }

/-- Nothing is cached or counted, and no request has begun. -/
def DataState.start (db : Database) : DataState where
  shared := ⟨⟨empty, empty, empty⟩, fun _ ↦ empty, empty, .none, db⟩
  phase := fun _ ↦ .received

/-! ## Steps -/

section Steps

variable {plane : DataPlane} {jobs : ℕ → Job} {s t : DataState} {i : ℕ} {c : Circumstances}

theorem dataStep_advance_eq_some :
    dataStep P plane jobs s (.advance i c) = some t ↔ (s.phase i).isLookingUp = false ∧
      ∃ answer, advance P plane (jobs i) i c s.shared (s.phase i) = some answer ∧
        s.move i answer = t := by
  simp only [dataStep]
  split_ifs with hlookup
  · simp [hlookup]
  · simp [hlookup, Option.map_eq_some_iff]

theorem dataStep_lookup_eq_some :
    dataStep P plane jobs s (.lookup i c) = some t ↔ (s.phase i).isLookingUp = true ∧
      ∃ answer, advance P plane (jobs i) i c s.shared (s.phase i) = some answer ∧
        s.move i answer = t := by
  simp only [dataStep]
  split_ifs with hlookup
  · simp [hlookup, Option.map_eq_some_iff]
  · simp [hlookup]

/-- A step of a lookup ends it, or leaves it pending. -/
theorem lookupKey_eq_some {job : Job} {r r' : Shared} {hd : AuthHeaders} {l : FleetLookup ℕ}
    {next : DataPhase} : lookupKey plane job c r hd l = some (next, r') ↔
      ∃ fleet l', fleetLookupStep (r.fleet c.now) c.redis c.load.failure.isNone l =
          some (fleet, l') ∧ r.withTiers fleet = r' ∧
        ((∃ found, l'.phase = .returned found ∧ keyFound plane job hd found = next) ∨
          (∀ found, l'.phase ≠ .returned found) ∧ .lookingUp hd l' = next) := by
  unfold lookupKey
  cases fleetLookupStep (r.fleet c.now) c.redis c.load.failure.isNone l with
  | none => simp
  | some answer =>
      obtain ⟨fleet, l'⟩ := answer
      cases hphase : l'.phase <;> simp [hphase, and_comm]

theorem requireComponent_eq_ok {available : Bool} {component : String}
    (h : requireComponent available component = .ok ()) : available = true := by
  unfold requireComponent at h
  split_ifs at h with havailable
  exact havailable

theorem requireRateLimitEvaluator_eq_ok {evaluator : RateLimitEvaluator}
    (h : plane.requireRateLimitEvaluator = .ok evaluator) : plane.evaluator = some evaluator := by
  unfold DataPlane.requireRateLimitEvaluator at h
  split at h
  · next hplane => rw [hplane, Except.ok.inj h]
  · cases h

theorem evaluateStep_saId (conv : ReplyConversion) (evaluator : RateLimitEvaluator)
    (redis : RedisConnection) (counters : Store String ℤ) (now after : ℕ) (call : EvaluateCall) :
    (evaluateStep conv evaluator redis counters now after call).1.saId = call.saId := by
  unfold evaluateStep
  cases call.phase with
  | saCheck saRpm =>
      simp only [EvaluateCall.afterSaCheck]
      repeat' split
      all_goals rfl
  | globalCheck =>
      simp only [EvaluateCall.afterGlobalCheck]
      repeat' split
      all_goals rfl
  | rollback resetAt => rfl
  | returned result => rfl

/-- What a step of `try_get_with` can be. -/
inductive PolicyMove (plane : DataPlane) (job : Job) (i : ℕ) (c : Circumstances) (s : Shared)
    (auth : AuthContext) (evaluator : RateLimitEvaluator) :
    PolicyPhase → DataPhase → Shared → Prop
  | hit (evaluated : EvaluatedPolicy) : PolicyMove plane job i c s auth evaluator .cacheGet
      (policyFound auth evaluator (.ok evaluated)) s
  | join {leader : ℕ}
      (hleader : s.loads.leader (job.gateway, auth.serviceAccountId) = some leader) :
      PolicyMove plane job i c s auth evaluator .cacheGet
        (.policy auth evaluator (.waiting leader)) s
  | lead (hfree : s.loads.leader (job.gateway, auth.serviceAccountId) = none) :
      PolicyMove plane job i c s auth evaluator .cacheGet (.policy auth evaluator .boundRead)
        { s with loads := s.loads.lead (job.gateway, auth.serviceAccountId) i }
  | readBound (read : List Policy ⊕ Except GatewayError EvaluatedPolicy) :
      PolicyMove plane job i c s auth evaluator .boundRead
        (.policy auth evaluator (read.elim .defaultRead .cacheInsert)) s
  | readDefault (policies : List Policy) (answer : Except GatewayError EvaluatedPolicy) :
      PolicyMove plane job i c s auth evaluator (.defaultRead policies)
        (.policy auth evaluator (.cacheInsert answer)) s
  | settle (answer : Except GatewayError EvaluatedPolicy) :
      PolicyMove plane job i c s auth evaluator (.cacheInsert answer)
        (policyFound auth evaluator answer) { s with
          policies := answer.toOption.elim s.policies fun evaluated ↦
            setEx s.policies c.now (job.gateway, auth.serviceAccountId) evaluated
              (1000 * plane.policyTtlSecs)
          loads := s.loads.settle (job.gateway, auth.serviceAccountId) i (.finished answer) }
  | share {leader : ℕ} {answer : Except GatewayError EvaluatedPolicy}
      (houtcome : s.loads.outcome leader = some (.finished answer)) :
      PolicyMove plane job i c s auth evaluator (.waiting leader)
        (policyFound auth evaluator answer) s
  | startOver {leader : ℕ} (houtcome : s.loads.outcome leader = some .abandoned) :
      PolicyMove plane job i c s auth evaluator (.waiting leader)
        (.policy auth evaluator .cacheGet) s

theorem policyMove_policyStep {job : Job} {r r' : Shared} {auth : AuthContext}
    {evaluator : RateLimitEvaluator} {policy : PolicyPhase} {next : DataPhase}
    (hstep : policyStep plane job i c r auth evaluator policy = some (next, r')) :
    PolicyMove plane job i c r auth evaluator policy next r' := by
  cases policy with
  | cacheGet =>
      simp only [policyStep] at hstep
      repeat' split at hstep
      all_goals cases hstep
      · exact .hit _
      · next hleader => exact .join hleader
      · next hfree => exact .lead hfree
  | boundRead =>
      cases hstep
      exact .readBound _
  | defaultRead policies =>
      cases hstep
      exact .readDefault policies _
  | cacheInsert answer =>
      cases hstep
      exact .settle answer
  | waiting leader =>
      simp only [policyStep] at hstep
      split at hstep
      all_goals cases hstep
      · next houtcome => exact .share houtcome
      · next houtcome => exact .startOver houtcome

/-- Policies are loaded and cached without Redis, and nothing is written to the database. -/
theorem policyStep_frame {job : Job} {r r' : Shared} {auth : AuthContext}
    {evaluator : RateLimitEvaluator} {policy : PolicyPhase} {next : DataPhase}
    (hstep : policyStep plane job i c r auth evaluator policy = some (next, r')) :
    r'.redis = r.redis ∧ r'.l1 = r.l1 ∧ r'.db = r.db := by
  cases policyMove_policyStep hstep <;> exact ⟨rfl, rfl, rfl⟩

/-- What a step of a request may lead to, and what it has checked by then. -/
inductive PhaseStep (plane : DataPlane) (job : Job) (c : Circumstances) (s : Shared) :
    DataPhase → DataPhase → Prop
  | answered (phase : DataPhase) (response : Response) :
      PhaseStep plane job c s phase (.answered response)
  | received {hd : AuthHeaders} (hstore : plane.keyStore = true)
      (hformat : checkFormat P plane.skewSecs job.clock job.request = .ok hd) :
      PhaseStep plane job c s .received (.lookingUp hd ⟨job.gateway, hd.keyId, .l1Get, c.now⟩)
  | lookingUp {hd : AuthHeaders} {l l' : FleetLookup ℕ} {fleet : Fleet ℕ}
      (hlookup : fleetLookupStep (s.fleet c.now) c.redis c.load.failure.isNone l =
        some (fleet, l')) (hpending : ∀ found, l'.phase ≠ .returned found) :
      PhaseStep plane job c s (.lookingUp hd l) (.lookingUp hd l')
  | keyFound {hd : AuthHeaders} {l l' : FleetLookup ℕ} {fleet : Fleet ℕ}
      {key : ServiceAccountKey}
      (hlookup : fleetLookupStep (s.fleet c.now) c.redis c.load.failure.isNone l =
        some (fleet, l')) (hfound : l'.phase = .returned (.ok key))
      (hlive : verifyKey (fun _ ↦ .ok key) hd.keyId job.clock.keyExpiry.ms = .ok key)
      (hdb : plane.db = true) :
      PhaseStep plane job c s (.lookingUp hd l) (.findingAccount hd key)
  | accountFound {hd : AuthHeaders} {key : ServiceAccountKey}
      {sa : ServiceAccountWithTenantStatus} {v : Verified}
      (hsa : verifyServiceAccount (accountLookup c.load.failure s.db) key = .ok sa)
      (hclaimed : verifyClaimedId hd.saIdStr sa = .ok ())
      (hsigned : checkSignature P plane.redisPool job.request hd key sa = .ok v) :
      PhaseStep plane job c s (.findingAccount hd key) (.recording v)
  | recorded {v : Verified} {evaluator : RateLimitEvaluator}
      (hevaluator : plane.evaluator = some evaluator) :
      PhaseStep plane job c s (.recording v) (.policy v.authContext evaluator .cacheGet)
  | policy {auth : AuthContext} {evaluator : RateLimitEvaluator} {policy policy' : PolicyPhase}
      (hwaits : ∀ leader ∈ policy'.waitsFor,
        s.loads.leader (job.gateway, auth.serviceAccountId) = some leader) :
      PhaseStep plane job c s (.policy auth evaluator policy) (.policy auth evaluator policy')
  | policyFound (auth : AuthContext) (evaluator : RateLimitEvaluator) (policy : PolicyPhase)
      (evaluated : EvaluatedPolicy) :
      PhaseStep plane job c s (.policy auth evaluator policy) (.evaluating evaluator evaluated
        (.start auth.serviceAccountId evaluated.rpmLimit))
  | evaluating {evaluator : RateLimitEvaluator} {evaluated : EvaluatedPolicy}
      {call call' : EvaluateCall} (hsaId : call'.saId = call.saId) :
      PhaseStep plane job c s (.evaluating evaluator evaluated call)
        (.evaluating evaluator evaluated call')
  | limited (evaluator : RateLimitEvaluator) (evaluated : EvaluatedPolicy) (call : EvaluateCall)
      (outcome : RateLimitOutcome) (limit : ℕ) :
      PhaseStep plane job c s (.evaluating evaluator evaluated call)
        (.acquiring call.saId outcome limit)
  | unlimited (evaluator : RateLimitEvaluator) (evaluated : EvaluatedPolicy) (call : EvaluateCall)
      (outcome : RateLimitOutcome) :
      PhaseStep plane job c s (.evaluating evaluator evaluated call)
        (.handling call.saId outcome false)
  | acquired (saId : ServiceAccountId) (outcome : RateLimitOutcome) (limit : ℕ) :
      PhaseStep plane job c s (.acquiring saId outcome limit) (.handling saId outcome true)
  | handled (saId : ServiceAccountId) (outcome : RateLimitOutcome) :
      PhaseStep plane job c s (.handling saId outcome true) (.releasing saId outcome)
  | released (saId : ServiceAccountId) : PhaseStep plane job c s (.releaseTask saId) .dropped

section PhaseStep

variable {job : Job} {r r' : Shared} {phase next : DataPhase}

theorem phaseStep_orAnswer {α : Type} {result : Except GatewayError α} {next : α → DataPhase}
    (hnext : ∀ a, result = .ok a → PhaseStep P plane job c r phase (next a)) :
    PhaseStep P plane job c r phase (.orAnswer result next) := by
  cases result with
  | error e => exact .answered phase _
  | ok a => exact hnext a rfl

theorem phaseStep_receive : PhaseStep P plane job c r .received (receive P plane job c.now) := by
  refine phaseStep_orAnswer P fun hd h ↦ ?_
  obtain ⟨_, hformat, h⟩ := bind_eq_ok.mp h
  obtain ⟨_, hstore, h⟩ := bind_eq_ok.mp h
  cases h
  exact .received (requireComponent_eq_ok hstore) hformat

theorem phaseStep_lookupKey {hd : AuthHeaders} {l : FleetLookup ℕ}
    (hstep : lookupKey plane job c r hd l = some (next, r')) :
    PhaseStep P plane job c r (.lookingUp hd l) next := by
  obtain ⟨fleet, l', hlookup, _, hnext⟩ := lookupKey_eq_some.mp hstep
  rcases hnext with ⟨found, hfound, rfl⟩ | ⟨hpending, rfl⟩
  · refine phaseStep_orAnswer P fun key h ↦ ?_
    obtain ⟨_, hkey, h⟩ := bind_eq_ok.mp h
    obtain ⟨_, hdb, h⟩ := bind_eq_ok.mp h
    cases h
    obtain rfl := (verifyKey_eq_ok hkey).1
    exact .keyFound hlookup hfound hkey (requireComponent_eq_ok hdb)
  · exact .lookingUp hlookup hpending

theorem verifyServiceAccount_const (db : AccountLookup) (key : ServiceAccountKey) :
    verifyServiceAccount (fun _ ↦ db key.serviceAccountId) key = verifyServiceAccount db key := rfl

theorem phaseStep_accountFound (hd : AuthHeaders) (key : ServiceAccountKey) :
    PhaseStep P plane job c r (.findingAccount hd key) (accountFound P plane job hd key
      (accountLookup c.load.failure r.db key.serviceAccountId)) := by
  refine phaseStep_orAnswer P fun v h ↦ ?_
  obtain ⟨sa, hsa, h⟩ := bind_eq_ok.mp h
  obtain ⟨_, hclaimed, hsigned⟩ := bind_eq_ok.mp h
  rw [verifyServiceAccount_const (accountLookup c.load.failure r.db)] at hsa
  exact .accountFound hsa hclaimed hsigned

theorem phaseStep_nonceChecked (v : Verified) (checked : Except GatewayError Unit) :
    PhaseStep P plane job c r (.recording v) (nonceChecked plane v checked) := by
  refine phaseStep_orAnswer P fun evaluator h ↦ ?_
  obtain ⟨_, _, h⟩ := bind_eq_ok.mp h
  obtain ⟨_, _, h⟩ := bind_eq_ok.mp h
  obtain ⟨_, hevaluator, h⟩ := bind_eq_ok.mp h
  obtain ⟨_, _, h⟩ := bind_eq_ok.mp h
  obtain ⟨_, _, h⟩ := bind_eq_ok.mp h
  cases h
  exact .recorded (requireRateLimitEvaluator_eq_ok hevaluator)

theorem phaseStep_policyFound (auth : AuthContext) (evaluator : RateLimitEvaluator)
    (policy : PolicyPhase) (answer : Except GatewayError EvaluatedPolicy) :
    PhaseStep P plane job c r (.policy auth evaluator policy)
      (policyFound auth evaluator answer) := by
  cases answer with
  | error e => exact .answered _ _
  | ok evaluated => exact .policyFound auth evaluator policy evaluated

theorem phaseStep_policyStep {auth : AuthContext} {evaluator : RateLimitEvaluator}
    {policy : PolicyPhase}
    (hstep : policyStep plane job i c r auth evaluator policy = some (next, r')) :
    PhaseStep P plane job c r (.policy auth evaluator policy) next := by
  cases policyMove_policyStep hstep with
  | hit _ | settle _ | share _ => exact phaseStep_policyFound P auth evaluator _ _
  | join hleader => exact .policy fun _ hwaits ↦ Option.some.inj hwaits ▸ hleader
  | readBound read => cases read <;> exact .policy fun _ hwaits ↦ by cases hwaits
  | lead _ | readDefault _ _ | startOver _ => exact .policy fun _ hwaits ↦ by cases hwaits

theorem phaseStep_afterEvaluation {call call' : EvaluateCall} (hsaId : call'.saId = call.saId)
    (evaluator : RateLimitEvaluator) (evaluated : EvaluatedPolicy) :
    PhaseStep P plane job c r (.evaluating evaluator evaluated call)
      (afterEvaluation plane evaluator evaluated call') := by
  unfold afterEvaluation
  rw [hsaId]
  split
  · exact .answered _ _
  · split
    · exact .unlimited evaluator evaluated call _
    · exact phaseStep_orAnswer P fun _ _ ↦ .limited evaluator evaluated call _ _
  · exact .evaluating hsaId

theorem phaseStep_advance (hstep : advance P plane job i c r phase = some (next, r')) :
    PhaseStep P plane job c r phase next := by
  cases phase with
  | received =>
      cases hstep
      exact phaseStep_receive P
  | lookingUp hd l => exact phaseStep_lookupKey P hstep
  | findingAccount hd key =>
      cases hstep
      exact phaseStep_accountFound P hd key
  | recording v =>
      cases hstep
      exact phaseStep_nonceChecked P v _
  | policy auth evaluator policy => exact phaseStep_policyStep P hstep
  | evaluating evaluator evaluated call =>
      cases hstep
      exact phaseStep_afterEvaluation P (evaluateStep_saId _ _ _ _ _ _ call) evaluator evaluated
  | acquiring saId outcome limit =>
      cases hstep
      exact phaseStep_orAnswer P fun _ _ ↦ .acquired saId outcome limit
  | handling saId outcome permit =>
      cases hstep
      cases permit with
      | true => exact .handled saId outcome
      | false => exact .answered _ _
  | releasing saId outcome =>
      cases hstep
      exact .answered _ _
  | releaseTask saId =>
      cases hstep
      exact .released saId
  | answered _ | dropped => cases hstep

end PhaseStep

/-- A request is dropped for good, or leaves a permit behind that is still to be given back. -/
theorem abandon_eq_some {phase next : DataPhase} (h : abandon phase = some next) :
    next = .dropped ∨
      ∃ saId outcome, phase = .handling saId outcome true ∧ next = .releaseTask saId := by
  cases phase with
  | handling saId outcome permit =>
      cases h
      cases permit with
      | true => exact Or.inr ⟨saId, outcome, rfl, rfl⟩
      | false => exact Or.inl rfl
  | received | lookingUp _ _ | findingAccount _ _ | recording _ | policy _ _ _
  | evaluating _ _ _ | acquiring _ _ _ | releasing _ _ =>
      cases h
      exact Or.inl rfl
  | answered _ | releaseTask _ | dropped => cases h

/-- What holds before and after a command holds whether it is executed or not. -/
theorem exists_interrupt {job : Job} {r : Shared} {phase : DataPhase} {q : Shared → Prop}
    (hr : q r) (hadvance : ∀ answer, advance P plane job i c r phase = some answer → q answer.2)
    (executed : Bool) : ∃ left, q left ∧
      interrupt P plane job i c executed r phase =
        { left with loads := abandonLoad job i r.loads phase } := by
  refine ⟨_, ?_, rfl⟩
  cases executed with
  | false => exact hr
  | true =>
      cases hstep : advance P plane job i c r phase with
      | none => exact hr
      | some answer => exact hadvance answer hstep

theorem db_advance {job : Job} {r r' : Shared} {phase next : DataPhase}
    (hstep : advance P plane job i c r phase = some (next, r')) : r'.db = r.db := by
  cases phase with
  | lookingUp hd l =>
      obtain ⟨_, _, _, rfl, _⟩ := lookupKey_eq_some.mp hstep
      rfl
  | policy auth evaluator policy => exact (policyStep_frame hstep).2.2
  | received | findingAccount _ _ | recording _ | evaluating _ _ _ | acquiring _ _ _
  | handling _ _ _ | releasing _ _ | releaseTask _ =>
      cases hstep
      rfl
  | answered _ | dropped => cases hstep

/-- Only a lookup changes the tiers of the key store, and it stores nothing but what it finds. -/
theorem tiersHold_advance {p : String → ServiceAccountKey → Prop} {job : Job} {r r' : Shared}
    {phase next : DataPhase} (h : TiersHold p r.l1 r.redis.keys r.db.keys)
    (hcarries : ∀ hd l, phase = .lookingUp hd l → l.phase.Carries (p l.keyId))
    (hstep : advance P plane job i c r phase = some (next, r')) :
    TiersHold p r'.l1 r'.redis.keys r'.db.keys := by
  cases phase with
  | lookingUp hd l =>
      obtain ⟨fleet, l', hlookup, rfl, _⟩ := lookupKey_eq_some.mp hstep
      have htiers := (h.lookupStep (hcarries hd l rfl) hlookup).1
      rwa [(fleetLookupStep_frame hlookup).2] at htiers
  | policy auth evaluator policy =>
      obtain ⟨hredis, hl1, hdb⟩ := policyStep_frame hstep
      rwa [hredis, hl1, hdb]
  | received | findingAccount _ _ | recording _ | evaluating _ _ _ | acquiring _ _ _
  | handling _ _ _ | releasing _ _ | releaseTask _ =>
      cases hstep
      exact h
  | answered _ | dropped => cases hstep

end Steps

/-! ## Two accounts, for concrete runs -/

/-- Two accounts with a key each, and one policy that is bound to both of them. -/
def sampleSetup : List PlaneOp :=
  sampleAccounts ++
    [registerSampleKey ⟨⟨2⟩⟩ "key-1" ⟨⟨4⟩⟩, registerSampleKey ⟨⟨3⟩⟩ "key-2" ⟨⟨5⟩⟩,
      .gateway (.admin sampleAdmin 4 (.createPolicy
        { tenantId := ⟨⟨1⟩⟩, name := "limits", rpmLimit := some 1, concurrencyLimit := some 1 }
        ⟨⟨6⟩⟩)),
      .gateway (.admin sampleAdmin 5 (.createBinding ⟨⟨2⟩⟩ ⟨⟨6⟩⟩ ⟨7⟩)),
      .gateway (.admin sampleAdmin 6 (.createBinding ⟨⟨3⟩⟩ ⟨⟨6⟩⟩ ⟨8⟩))]

def sampleDatabase : Database :=
  ((run (planeStep .sample 300) (.start .initial empty) sampleSetup).bind
    fun s ↦ s.app.db).getD .empty

def sampleJob (sa : ServiceAccountId) (keyId : String) : Job where
  request := sampleSignedRequest sa keyId
  gateway := 0
  clock := .at sampleInstant
  response := ⟨200, [], none⟩

/-- Request 0 comes from one account, every other request from a second one. -/
def sampleJobs : ℕ → Job
  | 0 => sampleJob ⟨⟨2⟩⟩ "key-1"
  | _ + 1 => sampleJob ⟨⟨3⟩⟩ "key-2"

def samplePlane : DataPlane where
  skewSecs := 300
  policyTtlSecs := 30
  keyStore := true
  db := true
  redis := true
  policyCache := true
  concurrencyLimiter := true
  evaluator := some ⟨60, 2⟩
  conversion := .wrapping

def sampleCircumstances : Circumstances := ⟨1000000, 1000000, .working, ⟨.stored, .stored, none⟩⟩

/-- A request takes its first step, looks its key up where nothing is cached, and takes `n`
more steps. -/
def takesSteps (i n : ℕ) : List DataStep :=
  [.advance i sampleCircumstances] ++ List.replicate 5 (.lookup i sampleCircumstances) ++
    List.replicate n (.advance i sampleCircumstances)

end SmartGate
