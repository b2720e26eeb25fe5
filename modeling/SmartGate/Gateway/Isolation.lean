import SmartGate.Gateway.Counters

/-!
# What one account notices of the others

All accounts share the gateways with their caches, Redis and the database, and the requests of
all of them interleave.  The requests that name a key of one account are answered as if nobody
else had sent any, as long as the global limit has room for them.  Only the figures in the rate
limit headers may differ, because they may be those of the global limit.

Two runs are compared: the full one, and the one without the requests that name other keys.
-/

namespace SmartGate

open ExpiringStore Transition

variable (P : Primitives)

/-! ## Whose request it is -/

/-- The request names one of these keys. -/
def Job.names (keyIds : List String) (job : Job) : Bool :=
  (extractAuthHeaders job.request.headers).toOption.any fun h ↦ decide (h.keyId ∈ keyIds)

/-- A record under this identifier belongs to the account if the identifier is one of these. -/
def OwnedBy (saId : ServiceAccountId) (keyIds : List String) (keyId : String)
    (key : ServiceAccountKey) : Prop :=
  key.serviceAccountId = saId ↔ keyId ∈ keyIds

/-- The keys of the account are those with these identifiers. -/
def Database.Assigns (db : Database) (saId : ServiceAccountId) (keyIds : List String) : Prop :=
  ∀ key ∈ db.keys.rows, OwnedBy saId keyIds key.keyId key

theorem Database.Assigns.tiersHold {db : Database} {saId : ServiceAccountId}
    {keyIds : List String} (h : db.Assigns saId keyIds) (keyId : String) (key : ServiceAccountKey)
    (hkey : db.keys.get keyId = some key) : OwnedBy saId keyIds keyId key := by
  obtain ⟨hmem, rfl⟩ := Table.get_eq_some.mp hkey
  exact h key hmem

section Belongs

variable (jobs : ℕ → Job) (saId : ServiceAccountId) (keyIds : List String)

/-- Request `i` works for the account exactly if it names one of its keys. -/
def DataPhase.Belongs (i : ℕ) : DataPhase → Prop
  | .received | .answered _ | .dropped => True
  | .lookingUp _ l => ((jobs i).names keyIds = true ↔ l.keyId ∈ keyIds) ∧
      l.phase.Carries (OwnedBy saId keyIds l.keyId)
  | .findingAccount _ key => (jobs i).names keyIds = true ↔ key.serviceAccountId = saId
  | .recording v => (jobs i).names keyIds = true ↔ v.serviceAccount.id = saId
  | .policy auth _ phase => ((jobs i).names keyIds = true ↔ auth.serviceAccountId = saId) ∧
      ((jobs i).names keyIds = true → ∀ leader ∈ phase.waitsFor,
        (jobs leader).names keyIds = true)
  | .evaluating _ _ call => (jobs i).names keyIds = true ↔ call.saId = saId
  | .acquiring owner _ _ | .handling owner _ _ | .releasing owner _ | .releaseTask owner =>
      (jobs i).names keyIds = true ↔ owner = saId

/-- What is cached under the keys of the account is its own, and who loads its policies names
one of its keys. -/
structure Shared.Owned (s : Shared) : Prop where
  tiers : TiersHold (OwnedBy saId keyIds) s.l1 s.redis.keys s.db.keys
  leader : ∀ gateway i, s.loads.leader (gateway, saId) = some i →
    (jobs i).names keyIds = true

end Belongs

theorem leader_of_lead {loads : PolicyLoads} {place place' : ℕ × ServiceAccountId} {i j : ℕ}
    (h : (loads.lead place i).leader place' = some j) :
    place' = place ∧ i = j ∨ loads.leader place' = some j := by
  simp only [PolicyLoads.lead, Function.update_apply] at h
  split_ifs at h with hplace
  · exact Or.inl ⟨hplace, Option.some.inj h⟩
  · exact Or.inr h

theorem leader_of_settle {loads : PolicyLoads} {place place' : ℕ × ServiceAccountId} {i j : ℕ}
    {outcome : LoadOutcome} (h : (loads.settle place i outcome).leader place' = some j) :
    loads.leader place' = some j := by
  simp only [PolicyLoads.settle, Function.update_apply] at h
  split_ifs at h
  exact h

section BelongsAdvance

variable {plane : DataPlane} {jobs : ℕ → Job} {saId : ServiceAccountId} {keyIds : List String}
  {i : ℕ} {c : Circumstances} {s s' : Shared} {phase next : DataPhase}

theorem names_of_checkFormat {job : Job} {hd : AuthHeaders}
    (h : checkFormat P plane.skewSecs job.clock job.request = .ok hd) :
    job.names keyIds = true ↔ hd.keyId ∈ keyIds := by
  obtain ⟨hd', hextract, h⟩ := bind_eq_ok.mp h
  obtain ⟨_, _, h⟩ := bind_eq_ok.mp h
  obtain ⟨_, _, h⟩ := bind_eq_ok.mp h
  obtain ⟨_, _, h⟩ := bind_eq_ok.mp h
  obtain ⟨_, _, h⟩ := bind_eq_ok.mp h
  cases h
  simp [Job.names, hextract, Except.toOption]

theorem checkSignature_serviceAccount {redis : Option RedisConnection} {request : Request}
    {hd : AuthHeaders} {key : ServiceAccountKey} {sa : ServiceAccountWithTenantStatus}
    {v : Verified} (h : checkSignature P redis request hd key sa = .ok v) :
    v.serviceAccount = sa := by
  obtain ⟨_, _, h⟩ := bind_eq_ok.mp h
  obtain ⟨_, _, h⟩ := bind_eq_ok.mp h
  obtain ⟨_, _, h⟩ := bind_eq_ok.mp h
  cases h
  rfl

theorem DataPhase.Belongs.advance (h : phase.Belongs jobs saId keyIds i)
    (hs : s.Owned jobs saId keyIds)
    (hstep : advance P plane (jobs i) i c s phase = some (next, s')) :
    next.Belongs jobs saId keyIds i := by
  cases phaseStep_advance P hstep with
  | received _ hformat => exact ⟨names_of_checkFormat P hformat, trivial⟩
  | lookingUp hlookup _ =>
      obtain ⟨_, hkeyId, hcarries⟩ := hs.tiers.lookupStep h.2 hlookup
      exact ⟨hkeyId ▸ h.1, hkeyId ▸ hcarries⟩
  | keyFound hlookup hfound _ _ =>
      obtain ⟨_, _, hcarries⟩ := hs.tiers.lookupStep h.2 hlookup
      rw [hfound] at hcarries
      exact h.1.trans hcarries.symm
  | @accountFound hd key sa v hsa _ hsigned =>
      have hid : sa.id = key.serviceAccountId := (ServiceAccountRepo.getWithTenantStatus_eq_ok
        (accountLookup_eq_ok (verifyServiceAccount_eq_ok hsa).1)).1.2
      change (jobs i).names keyIds = true ↔ v.serviceAccount.id = saId
      rw [checkSignature_serviceAccount P hsigned, hid]
      exact h
  | recorded _ => exact ⟨h, fun _ _ hwaits ↦ by cases hwaits⟩
  | policy hwaits =>
      refine ⟨h.1, fun hown leader hleader ↦ ?_⟩
      rw [h.1.mp hown] at hwaits
      exact hs.leader _ leader (hwaits leader hleader)
  | policyFound _ _ _ _ => exact h.1
  | evaluating hsaId =>
      change (jobs i).names keyIds = true ↔ _ = saId
      rw [hsaId]
      exact h
  | limited _ _ _ _ _ | unlimited _ _ _ _ | acquired _ _ _ | handled _ _ => exact h
  | answered _ _ | released _ => trivial

theorem Shared.Owned.leader_policyStep {auth : AuthContext} {evaluator : RateLimitEvaluator}
    {policy : PolicyPhase} (h : s.Owned jobs saId keyIds)
    (hauth : (jobs i).names keyIds = true ↔ auth.serviceAccountId = saId)
    (hstep : policyStep plane (jobs i) i c s auth evaluator policy = some (next, s'))
    {gateway j : ℕ} (hj : s'.loads.leader (gateway, saId) = some j) :
    (jobs j).names keyIds = true := by
  cases policyMove_policyStep hstep with
  | lead _ =>
      rcases leader_of_lead hj with ⟨hplace, rfl⟩ | hj
      · exact hauth.mpr (congrArg Prod.snd hplace).symm
      · exact h.leader gateway j hj
  | settle answer => exact h.leader gateway j (leader_of_settle hj)
  | hit _ | join _ | readBound _ | readDefault _ _ | share _ | startOver _ =>
      exact h.leader gateway j hj

theorem Shared.Owned.advance (h : s.Owned jobs saId keyIds)
    (hphase : phase.Belongs jobs saId keyIds i)
    (hstep : advance P plane (jobs i) i c s phase = some (next, s')) :
    s'.Owned jobs saId keyIds := by
  have hcarries : ∀ hd l, phase = .lookingUp hd l →
      l.phase.Carries (OwnedBy saId keyIds l.keyId) := by
    rintro hd l rfl
    exact hphase.2
  refine ⟨tiersHold_advance P h.tiers hcarries hstep, fun gateway j hj ↦ ?_⟩
  cases phase with
  | policy auth evaluator policy => exact h.leader_policyStep hphase.1 hstep hj
  | lookingUp hd l =>
      obtain ⟨_, _, _, rfl, _⟩ := lookupKey_eq_some.mp hstep
      exact h.leader gateway j hj
  | received | findingAccount _ _ | recording _ | evaluating _ _ _ | acquiring _ _ _
  | handling _ _ _ | releasing _ _ | releaseTask _ =>
      cases hstep
      exact h.leader gateway j hj
  | answered response | dropped => cases hstep

theorem DataPhase.Belongs.abandon (h : phase.Belongs jobs saId keyIds i)
    (hstep : abandon phase = some next) : next.Belongs jobs saId keyIds i := by
  rcases abandon_eq_some hstep with rfl | ⟨_, _, rfl, rfl⟩
  · trivial
  · exact h

end BelongsAdvance

/-! ## Stores that one account cannot tell apart -/

theorem checkNonce_congr {store store' : Store String String} (redis : RedisConnection) (now : ℕ)
    {serviceAccountId nonce : String} (ttlSecs : ℕ)
    (h : store' (nonceKey serviceAccountId nonce) = store (nonceKey serviceAccountId nonce)) :
    (checkNonce redis store' now serviceAccountId nonce ttlSecs).1 =
        (checkNonce redis store now serviceAccountId nonce ttlSecs).1 ∧
      ∀ key, store' key = store key →
        (checkNonce redis store' now serviceAccountId nonce ttlSecs).2 key =
          (checkNonce redis store now serviceAccountId nonce ttlSecs).2 key := by
  obtain ⟨hanswer, hentry⟩ := setNxEx_congr h now "1" (1000 * ttlSecs)
  have hset : ∀ key, store' key = store key →
      (setNxEx store' now (nonceKey serviceAccountId nonce) "1" (1000 * ttlSecs)).2 key =
        (setNxEx store now (nonceKey serviceAccountId nonce) "1" (1000 * ttlSecs)).2 key := by
    intro key hkey
    by_cases hk : key = nonceKey serviceAccountId nonce
    · rw [hk, hentry]
    · rw [setNxEx_ne _ _ hk, setNxEx_ne _ _ hk, hkey]
  match redis with
  | .failing false => exact ⟨rfl, fun key hkey ↦ hkey⟩
  | .failing true => exact ⟨rfl, hset⟩
  | .working =>
      simp only [checkNonce, hanswer]
      split_ifs
      · exact ⟨rfl, hset⟩
      · exact ⟨rfl, hset⟩

/-! ## What the account shares with the others -/

/-- The loads of the account are the same. -/
structure PolicyLoads.Alike (jobs : ℕ → Job) (saId : ServiceAccountId) (keyIds : List String)
    (alone full : PolicyLoads) : Prop where
  leader : ∀ gateway, alone.leader (gateway, saId) = full.leader (gateway, saId)
  outcome : ∀ i, (jobs i).names keyIds = true → alone.outcome i = full.outcome i

/-- Everything that is the account's own is the same. -/
structure Shared.Alike (plane : DataPlane) (jobs : ℕ → Job) (saId : ServiceAccountId)
    (keyIds : List String) (alone full : Shared) : Prop where
  nonces : ∀ key : RedisKey, key.account = some saId →
    alone.redis.nonces key.render = full.redis.nonces key.render
  counters : CountersAlike plane.windowSecs saId alone.redis.counters full.redis.counters
  l1 : ∀ gateway, ∀ keyId ∈ keyIds, alone.l1 gateway keyId = full.l1 gateway keyId
  l2 : ∀ keyId ∈ keyIds,
    alone.redis.keys (keyCacheKey keyId) = full.redis.keys (keyCacheKey keyId)
  policies : ∀ gateway, alone.policies (gateway, saId) = full.policies (gateway, saId)
  loads : alone.loads.Alike jobs saId keyIds full.loads
  db : alone.db = full.db

section PolicyLoads

variable {jobs : ℕ → Job} {saId : ServiceAccountId} {keyIds : List String}
  {alone full : PolicyLoads}

theorem PolicyLoads.Alike.lead_both (h : alone.Alike jobs saId keyIds full)
    (place : ℕ × ServiceAccountId) (i : ℕ) :
    (alone.lead place i).Alike jobs saId keyIds (full.lead place i) where
  leader gateway := by
    simp only [PolicyLoads.lead, Function.update_apply, h.leader]
  outcome := h.outcome

theorem PolicyLoads.Alike.settle_both (h : alone.Alike jobs saId keyIds full)
    (place : ℕ × ServiceAccountId) (i : ℕ) (outcome : LoadOutcome) :
    (alone.settle place i outcome).Alike jobs saId keyIds (full.settle place i outcome) where
  leader gateway := by
    simp only [PolicyLoads.settle, Function.update_apply, h.leader]
  outcome j hj := by
    simp only [PolicyLoads.settle, Function.update_apply, h.outcome j hj]

theorem PolicyLoads.Alike.lead_full (h : alone.Alike jobs saId keyIds full)
    {owner : ServiceAccountId} (howner : owner ≠ saId) (gateway i : ℕ) :
    alone.Alike jobs saId keyIds (full.lead (gateway, owner) i) where
  leader g := by
    have hne : (g, saId) ≠ (gateway, owner) := fun heq ↦ howner (congrArg Prod.snd heq).symm
    exact (h.leader g).trans (Function.update_of_ne hne _ _).symm
  outcome := h.outcome

theorem PolicyLoads.Alike.settle_full (h : alone.Alike jobs saId keyIds full)
    {owner : ServiceAccountId} (howner : owner ≠ saId) {i : ℕ}
    (hi : ¬(jobs i).names keyIds = true) (gateway : ℕ) (outcome : LoadOutcome) :
    alone.Alike jobs saId keyIds (full.settle (gateway, owner) i outcome) where
  leader g := by
    have hne : (g, saId) ≠ (gateway, owner) := fun heq ↦ howner (congrArg Prod.snd heq).symm
    exact (h.leader g).trans (Function.update_of_ne hne _ _).symm
  outcome j hj := by
    have hne : j ≠ i := fun heq ↦ hi (heq ▸ hj)
    exact (h.outcome j hj).trans (Function.update_of_ne hne _ _).symm

end PolicyLoads

/-! ## Phases that differ in their figures only -/

def Response.withoutFigures (r : Response) : Response :=
  { r with headers := r.headers.filter fun h ↦ h.1 ∉ rateLimitHeaders }

/-- The phase of a request in the full run and in the run of its account alone: they may
differ in the figures for the rate limit headers. -/
inductive DataPhase.Like : DataPhase → DataPhase → Prop
  | received : Like .received .received
  | lookingUp (hd : AuthHeaders) (l : FleetLookup ℕ) : Like (.lookingUp hd l) (.lookingUp hd l)
  | findingAccount (hd : AuthHeaders) (key : ServiceAccountKey) :
      Like (.findingAccount hd key) (.findingAccount hd key)
  | recording (v : Verified) : Like (.recording v) (.recording v)
  | policy (auth : AuthContext) (evaluator : RateLimitEvaluator) (phase : PolicyPhase) :
      Like (.policy auth evaluator phase) (.policy auth evaluator phase)
  | evaluating (evaluator : RateLimitEvaluator) (evaluated : EvaluatedPolicy)
      (call : EvaluateCall) :
      Like (.evaluating evaluator evaluated call) (.evaluating evaluator evaluated call)
  | acquiring (owner : ServiceAccountId) (outcome outcome' : RateLimitOutcome) (limit : ℕ) :
      Like (.acquiring owner outcome limit) (.acquiring owner outcome' limit)
  | handling (owner : ServiceAccountId) (outcome outcome' : RateLimitOutcome) (permit : Bool) :
      Like (.handling owner outcome permit) (.handling owner outcome' permit)
  | releasing (owner : ServiceAccountId) (outcome outcome' : RateLimitOutcome) :
      Like (.releasing owner outcome) (.releasing owner outcome')
  | answered {response response' : Response}
      (h : response.withoutFigures = response'.withoutFigures) :
      Like (.answered response) (.answered response')
  | releaseTask (owner : ServiceAccountId) : Like (.releaseTask owner) (.releaseTask owner)
  | dropped : Like .dropped .dropped

theorem DataPhase.Like.refl (phase : DataPhase) : phase.Like phase := by
  cases phase <;> constructor
  rfl

theorem withoutFigures_insertHeader {name : String} (h : name ∈ rateLimitHeaders) (r : Response)
    (value : String) : (r.insertHeader name value).withoutFigures = r.withoutFigures := by
  simp only [Response.withoutFigures, Response.insertHeader, Response.mk.injEq, true_and, and_true]
  rw [List.filter_cons_of_neg (by simpa using h), List.filter_filter]
  refine List.filter_congr fun x _ ↦ ?_
  by_cases hx : x.1 = name
  · simp [hx, h]
  · simp [hx]

theorem withoutFigures_injectRateLimitHeaders (r : Response) (outcome : RateLimitOutcome) :
    (injectRateLimitHeaders r outcome).withoutFigures = r.withoutFigures := by
  unfold injectRateLimitHeaders
  rw [withoutFigures_insertHeader (by decide), withoutFigures_insertHeader (by decide),
    withoutFigures_insertHeader (by decide)]

theorem DataPhase.Like.abandon {phase phase' : DataPhase} (h : phase.Like phase') :
    abandon phase' = abandon phase := by
  cases h <;> rfl

theorem DataPhase.Like.leadsAt {phase phase' : DataPhase} (h : phase.Like phase') (job : Job) :
    phase'.leadsAt job = phase.leadsAt job := by
  cases h <;> rfl

theorem DataPhase.Like.isLookingUp {phase phase' : DataPhase} (h : phase.Like phase') :
    phase'.isLookingUp = phase.isLookingUp := by
  cases h <;> rfl

theorem DataPhase.Like.handled (response : Response) (outcome outcome' : RateLimitOutcome) :
    DataPhase.Like (.answered (injectRateLimitHeaders response outcome))
      (.answered (injectRateLimitHeaders response outcome')) := by
  refine .answered ?_
  rw [withoutFigures_injectRateLimitHeaders, withoutFigures_injectRateLimitHeaders]

/-! ## One step of the account -/

/-- The global limit has room for the request, if that is what it asks for next. -/
def hasRoom (conv : ReplyConversion) (c : Circumstances) (counters : Store String ℤ) :
    DataPhase → Bool
  | .evaluating evaluator _ call =>
      match call.phase with
      | .globalCheck =>
          match (checkAndIncrement conv evaluator.windowSecs c.redis counters c.now globalKeyPrefix
            evaluator.globalRpm).1 with
          | .ok result => result.allowed
          | .error _ => true
      | .saCheck _ | .rollback _ | .returned _ => true
  | .received | .lookingUp _ _ | .findingAccount _ _ | .recording _ | .policy _ _ _
  | .acquiring _ _ _ | .handling _ _ _ | .releasing _ _ | .answered _ | .releaseTask _
  | .dropped => true

theorem hasRoom_of_isLookingUp (conv : ReplyConversion) (c : Circumstances)
    (counters : Store String ℤ) {phase : DataPhase} (h : phase.isLookingUp = true) :
    hasRoom conv c counters phase = true := by
  cases phase with
  | lookingUp hd l => rfl
  | received | findingAccount _ _ | recording _ | policy _ _ _ | evaluating _ _ _
  | acquiring _ _ _ | handling _ _ _ | releasing _ _ | answered _ | releaseTask _
  | dropped => cases h

theorem afterGlobalCheck_allowed {result : WindowCheckResult} (h : result.allowed = true)
    (call : EvaluateCall) (window after : ℕ) :
    ∃ outcome, (call.afterGlobalCheck window after (.ok result)).phase = .returned (.ok outcome) ∧
      (call.afterGlobalCheck window after (.ok result)).saId = call.saId := by
  simp only [EvaluateCall.afterGlobalCheck, h, if_true]
  exact ⟨_, rfl, trivial⟩

theorem afterEvaluation_returned {call call' : EvaluateCall} {outcome outcome' : RateLimitOutcome}
    (hcall : call.phase = .returned (.ok outcome)) (hcall' : call'.phase = .returned (.ok outcome'))
    (hsaId : call'.saId = call.saId) (plane : DataPlane) (evaluator : RateLimitEvaluator)
    (evaluated : EvaluatedPolicy) :
    (afterEvaluation plane evaluator evaluated call).Like
      (afterEvaluation plane evaluator evaluated call') := by
  simp only [afterEvaluation, hcall, hcall', hsaId]
  cases evaluated.concurrencyLimit with
  | none => exact .handling _ _ _ _
  | some limit =>
      cases plane.requireConcurrencyLimiter with
      | error e => exact .refl _
      | ok _ => exact .acquiring _ _ _ _

theorem evaluating_alike {plane : DataPlane} {evaluator : RateLimitEvaluator}
    {call : EvaluateCall} {alone full : Store String ℤ}
    (h : CountersAlike evaluator.windowSecs call.saId alone full)
    (hw : 0 < evaluator.windowSecs) (evaluated : EvaluatedPolicy) {c : Circumstances}
    (hroom : hasRoom plane.conversion c full (.evaluating evaluator evaluated call) = true) :
    (afterEvaluation plane evaluator evaluated
        (evaluateStep plane.conversion evaluator c.redis full c.now c.after call).1).Like
      (afterEvaluation plane evaluator evaluated
        (evaluateStep plane.conversion evaluator c.redis alone c.now c.after call).1) := by
  unfold evaluateStep
  cases hphase : call.phase with
  | saCheck saRpm =>
      have hkeys : ∀ k, alone (windowKey (saKeyPrefix call.saId) k) =
          full (windowKey (saKeyPrefix call.saId) k) :=
        fun k ↦ h.account (.saWindow call.saId k) rfl
      simp only [checkAndIncrement_congr hkeys]
      exact .refl _
  | globalCheck =>
      cases hredis : c.redis with
      | failing executed => exact .refl _
      | working =>
          obtain ⟨result, result', hfull, halone, hallowed⟩ :=
            h.globalCheck plane.conversion hw c.now evaluator.globalRpm
          -- less is counted globally in the run of the account alone, so there is room there too
          simp only [hasRoom, hphase, hredis, hfull] at hroom
          obtain ⟨_, hreturned, hsaId⟩ := afterGlobalCheck_allowed hroom call
            (windowOf evaluator.windowSecs c.now) c.after
          obtain ⟨_, hreturned', hsaId'⟩ := afterGlobalCheck_allowed (hallowed hroom) call
            (windowOf evaluator.windowSecs c.now) c.after
          simp only [hfull, halone]
          exact afterEvaluation_returned hreturned hreturned' (hsaId'.trans hsaId.symm) _ _ _
  | rollback resetAt => exact .refl _
  | returned result => exact .refl _

section Account

variable {plane : DataPlane} {jobs : ℕ → Job} {saId : ServiceAccountId} {keyIds : List String}
  {i : ℕ} {c : Circumstances} {alone full full' : Shared} {phase phase' next : DataPhase}

theorem lookupKey_alike (h : alone.Alike plane jobs saId keyIds full) (hd : AuthHeaders)
    {l : FleetLookup ℕ} (hl : l.keyId ∈ keyIds) :
    Option.Rel (fun answer answer' ↦ answer'.2.Alike plane jobs saId keyIds answer.2 ∧
        answer'.1 = answer.1)
      (lookupKey plane (jobs i) c full hd l) (lookupKey plane (jobs i) c alone hd l) := by
  have hdb : (alone.fleet c.now).db = (full.fleet c.now).db := congrArg Database.keys h.db
  have hnow : (alone.fleet c.now).now = (full.fleet c.now).now := rfl
  have hrel := fleetLookupStep_congr hnow (h.l1 l.gateway l.keyId hl) (h.l2 l.keyId hl) hdb
    c.redis c.load.failure.isNone
  refine rel_map hrel ?_
  rintro ⟨fleet, l₁⟩ ⟨fleet', l₂⟩ ⟨hlookup, hl1, hl2⟩
  obtain rfl : l₂ = l₁ := hlookup
  refine ⟨{ h with l1 := fun gateway keyId hk ↦ ?_, l2 := fun keyId hk ↦ ?_ }, rfl⟩
  · exact hl1 gateway keyId (h.l1 gateway keyId hk)
  · exact hl2 (keyCacheKey keyId) (h.l2 keyId hk)

theorem recording_alike (h : alone.Alike plane jobs saId keyIds full) {v : Verified}
    (hv : v.serviceAccount.id = saId) (redis : RedisConnection) (now ttlSecs : ℕ) :
    (alone.withNonces (checkNonce redis alone.redis.nonces now v.serviceAccount.id.display
        v.headers.nonce ttlSecs).2).Alike plane jobs saId keyIds
      (full.withNonces (checkNonce redis full.redis.nonces now v.serviceAccount.id.display
        v.headers.nonce ttlSecs).2) ∧
      (checkNonce redis alone.redis.nonces now v.serviceAccount.id.display v.headers.nonce
          ttlSecs).1 =
        (checkNonce redis full.redis.nonces now v.serviceAccount.id.display v.headers.nonce
          ttlSecs).1 := by
  obtain ⟨hanswer, hkeys⟩ := checkNonce_congr redis now ttlSecs
    (h.nonces (.nonce v.serviceAccount.id v.headers.nonce) (congrArg some hv))
  exact ⟨{ h with nonces := fun key hkey ↦ hkeys _ (h.nonces key hkey) }, hanswer⟩

/-- The policies of the account are cached and loaded alike. -/
theorem policyStep_alike (h : alone.Alike plane jobs saId keyIds full) {auth : AuthContext}
    {evaluator : RateLimitEvaluator} {policy : PolicyPhase} (hauth : auth.serviceAccountId = saId)
    (hleader : ∀ leader ∈ policy.waitsFor, (jobs leader).names keyIds = true) :
    Option.Rel (fun answer answer' ↦ answer'.2.Alike plane jobs saId keyIds answer.2 ∧
        answer'.1 = answer.1)
      (policyStep plane (jobs i) i c full auth evaluator policy)
      (policyStep plane (jobs i) i c alone auth evaluator policy) := by
  subst hauth
  cases policy with
  | cacheGet =>
      simp only [policyStep, get_congr (h.policies _), h.loads.leader]
      split
      · exact .some ⟨h, rfl⟩
      · split
        · exact .some ⟨h, rfl⟩
        · exact .some ⟨{ h with loads := h.loads.lead_both _ i }, rfl⟩
  | boundRead | defaultRead policies =>
      simp only [policyStep, h.db]
      exact .some ⟨h, rfl⟩
  | cacheInsert answer =>
      refine .some ⟨{ h with
        policies := fun gateway ↦ ?_
        loads := h.loads.settle_both _ i _ }, rfl⟩
      cases answer with
      | error e => exact h.policies gateway
      | ok evaluated => exact put_congr (h.policies gateway) _ _
  | waiting leader =>
      simp only [policyStep, h.loads.outcome leader (hleader leader rfl)]
      split
      · exact .some ⟨h, rfl⟩
      · exact .some ⟨h, rfl⟩
      · exact .none

theorem Shared.Alike.withCounters (h : alone.Alike plane jobs saId keyIds full)
    {counters counters' : Store String ℤ}
    (hcounters : CountersAlike plane.windowSecs saId counters' counters) :
    (alone.withCounters counters').Alike plane jobs saId keyIds (full.withCounters counters) :=
  { h with counters := hcounters }

theorem evaluateStep_counters_both (h : CountersAlike plane.windowSecs saId alone.redis.counters
      full.redis.counters) (hw : 0 < plane.windowSecs) {evaluator : RateLimitEvaluator}
    (hplane : plane.evaluator = some evaluator) (call : EvaluateCall) :
    CountersAlike plane.windowSecs saId
      (evaluateStep plane.conversion evaluator c.redis alone.redis.counters c.now c.after call).2
      (evaluateStep plane.conversion evaluator c.redis full.redis.counters c.now c.after
        call).2 := by
  rw [evaluateStep_snd, evaluateStep_snd]
  cases hcommand : call.command evaluator.windowSecs with
  | none => exact h
  | some command =>
      have huses := (EvaluateCall.uses_command hcommand).1
      exact h.effect_both hw (windowSecs_eq hplane ▸ huses) c.redis c.now

/-- What a request of the account does in the full run, it does in the run of the account, with
the same result if the global limit has room. -/
theorem advance_alike (h : alone.Alike plane jobs saId keyIds full) (hw : 0 < plane.windowSecs)
    (hconf : phase.Configured plane)
    (hbelongs : phase.Belongs jobs saId keyIds i) (hown : (jobs i).names keyIds = true)
    (hlike : phase.Like phase') (c : Circumstances) :
    Option.Rel (fun answer answer' ↦ answer'.2.Alike plane jobs saId keyIds answer.2 ∧
        (hasRoom plane.conversion c full.redis.counters phase = true →
          answer.1.Like answer'.1))
      (advance P plane (jobs i) i c full phase) (advance P plane (jobs i) i c alone phase') := by
  have hrel : ∀ {a b : Option (DataPhase × Shared)},
      Option.Rel (fun answer answer' ↦ answer'.2.Alike plane jobs saId keyIds answer.2 ∧
        answer'.1 = answer.1) a b →
      Option.Rel (fun answer answer' ↦ answer'.2.Alike plane jobs saId keyIds answer.2 ∧
        (hasRoom plane.conversion c full.redis.counters phase = true →
          answer.1.Like answer'.1)) a b := by
    intro a b hab
    cases hab with
    | some hr => exact .some ⟨hr.1, fun _ ↦ hr.2 ▸ .refl _⟩
    | none => exact .none
  cases hlike with
  | received => exact .some ⟨h, fun _ ↦ .refl _⟩
  | lookingUp hd l => exact hrel (lookupKey_alike h hd (hbelongs.1.mp hown))
  | findingAccount hd key =>
      simp only [advance, h.db]
      exact .some ⟨h, fun _ ↦ .refl _⟩
  | recording v =>
      obtain ⟨halike, hanswer⟩ := recording_alike h (hbelongs.mp hown) c.redis
        (jobs i).clock.nonce.ms plane.skewSecs
      simp only [advance, hanswer]
      exact .some ⟨halike, fun _ ↦ .refl _⟩
  | policy auth evaluator policy =>
      exact hrel (policyStep_alike h (hbelongs.1.mp hown) (hbelongs.2 hown))
  | evaluating evaluator evaluated call =>
      have hsecs := windowSecs_eq hconf
      refine .some ⟨h.withCounters (evaluateStep_counters_both h.counters hw hconf call),
        fun hroom ↦ ?_⟩
      exact evaluating_alike (hbelongs.mp hown ▸ hsecs ▸ h.counters) (hsecs ▸ hw) evaluated hroom
  | acquiring owner outcome outcome' limit =>
      have hkey : alone.redis.counters (concurrencyKey owner) =
          full.redis.counters (concurrencyKey owner) :=
        h.counters.account (.concurrency owner) (congrArg some (hbelongs.mp hown))
      have huses : CounterCommand.Uses plane.windowSecs (.acquire owner limit) := trivial
      simp only [advance, acquire_congr hkey, acquire_snd]
      refine .some ⟨h.withCounters (h.counters.effect_both hw huses c.redis c.now), fun _ ↦ ?_⟩
      cases (acquire c.redis full.redis.counters c.now owner limit).1 with
      | error e => exact .refl _
      | ok permit => exact .handling _ _ _ _
  | handling owner outcome outcome' permit =>
      refine .some ⟨h, fun _ ↦ ?_⟩
      cases permit with
      | true => exact .releasing _ _ _
      | false => exact .handled _ _ _
  | releasing owner outcome outcome' =>
      have huses : CounterCommand.Uses plane.windowSecs (.release owner) := trivial
      exact .some ⟨h.withCounters (h.counters.effect_both hw huses c.redis c.now),
        fun _ ↦ .handled _ _ _⟩
  | releaseTask owner =>
      have huses : CounterCommand.Uses plane.windowSecs (.release owner) := trivial
      exact .some ⟨h.withCounters (h.counters.effect_both hw huses c.redis c.now),
        fun _ ↦ .dropped⟩
  | answered _ | dropped => exact .none

/-! Steps of requests that name other keys. -/

theorem policyStep_other (h : alone.Alike plane jobs saId keyIds full) {auth : AuthContext}
    {evaluator : RateLimitEvaluator} {policy : PolicyPhase} (hauth : auth.serviceAccountId ≠ saId)
    (hother : ¬(jobs i).names keyIds = true)
    (hfull : policyStep plane (jobs i) i c full auth evaluator policy = some (next, full')) :
    alone.Alike plane jobs saId keyIds full' := by
  cases policyMove_policyStep hfull with
  | lead _ => exact { h with loads := h.loads.lead_full hauth (jobs i).gateway i }
  | settle answer =>
      refine { h with
        policies := fun gateway ↦ ?_
        loads := h.loads.settle_full hauth hother (jobs i).gateway _ }
      cases answer with
      | error e => exact h.policies gateway
      | ok evaluated =>
          have hne : (gateway, saId) ≠ ((jobs i).gateway, auth.serviceAccountId) :=
            fun heq ↦ hauth (congrArg Prod.snd heq).symm
          exact (h.policies gateway).trans (put_ne _ hne _).symm
  | hit _ | join _ | readBound _ | readDefault _ _ | share _ | startOver _ => exact h

theorem evaluateStep_counters_full (h : CountersAlike plane.windowSecs saId alone.redis.counters
      full.redis.counters) (hw : 0 < plane.windowSecs) {evaluator : RateLimitEvaluator}
    (hplane : plane.evaluator = some evaluator) {call : EvaluateCall} (hcall : call.saId ≠ saId) :
    CountersAlike plane.windowSecs saId alone.redis.counters
      (evaluateStep plane.conversion evaluator c.redis full.redis.counters c.now c.after
        call).2 := by
  rw [evaluateStep_snd]
  cases hcommand : call.command evaluator.windowSecs with
  | none => exact h
  | some command =>
      obtain ⟨huses, hkey⟩ := EvaluateCall.uses_command hcommand
      refine h.effect_full hw (windowSecs_eq hplane ▸ huses) c.redis ?_
      rcases hkey c.now with hkey | hkey
      · simp [hkey]
      · simpa [hkey] using hcall

theorem advance_other (h : alone.Alike plane jobs saId keyIds full) (hw : 0 < plane.windowSecs)
    (hconf : phase.Configured plane)
    (hbelongs : phase.Belongs jobs saId keyIds i) (hother : ¬(jobs i).names keyIds = true)
    (hfull : advance P plane (jobs i) i c full phase = some (next, full')) :
    alone.Alike plane jobs saId keyIds full' := by
  cases phase with
  | received | findingAccount hd key | handling owner outcome permit =>
      cases hfull
      exact h
  | lookingUp hd l =>
      obtain ⟨fleet, _, hlookup, rfl, _⟩ := lookupKey_eq_some.mp hfull
      obtain ⟨hl1, hl2⟩ := fleetLookupStep_ne hlookup
      have hne : ∀ keyId ∈ keyIds, keyId ≠ l.keyId := by
        rintro _ hk rfl
        exact hother (hbelongs.1.mpr hk)
      refine { h with l1 := fun gateway keyId hk ↦ ?_, l2 := fun keyId hk ↦ ?_ }
      · exact (h.l1 gateway keyId hk).trans (hl1 gateway keyId (hne keyId hk)).symm
      · exact (h.l2 keyId hk).trans (hl2 keyId (hne keyId hk)).symm
  | recording v =>
      cases hfull
      refine { h with nonces := fun key hkey ↦ (h.nonces key hkey).trans ?_ }
      have hne : key.render ≠ nonceKey v.serviceAccount.id.display v.headers.nonce := by
        intro heq
        have hnonce : key = .nonce v.serviceAccount.id v.headers.nonce :=
          RedisKey.render_injective heq
        rw [hnonce] at hkey
        exact hother (hbelongs.mpr (Option.some.inj hkey))
      rcases checkNonce_store c.redis full.redis.nonces (jobs i).clock.nonce.ms
        v.serviceAccount.id.display v.headers.nonce plane.skewSecs with hstore | hstore
      · exact (congrFun hstore _).symm
      · exact ((congrFun hstore _).trans (setNxEx_ne _ _ hne _ _)).symm
  | policy auth evaluator policy =>
      exact policyStep_other h (mt hbelongs.1.mpr hother) hother hfull
  | evaluating evaluator evaluated call =>
      cases hfull
      exact { h with counters :=
        evaluateStep_counters_full h.counters hw hconf (mt hbelongs.mpr hother) }
  | acquiring owner outcome limit =>
      cases hfull
      have huses : CounterCommand.Uses plane.windowSecs (.acquire owner limit) := trivial
      have hkey : (CounterCommand.key c.now (.acquire owner limit)).account ≠ some saId :=
        fun heq ↦ hother (hbelongs.mpr (Option.some.inj heq))
      rw [acquire_snd]
      exact { h with counters := h.counters.effect_full hw huses c.redis hkey }
  | releasing owner outcome | releaseTask owner =>
      cases hfull
      have huses : CounterCommand.Uses plane.windowSecs (.release owner) := trivial
      have hkey : (CounterCommand.key c.now (.release owner)).account ≠ some saId :=
        fun heq ↦ hother (hbelongs.mpr (Option.some.inj heq))
      exact { h with counters := h.counters.effect_full hw huses c.redis hkey }
  | answered response | dropped => cases hfull

end Account

/-! ## Whole runs -/

section Runs

variable {plane : DataPlane} {jobs : ℕ → Job} {saId : ServiceAccountId} {keyIds : List String}

/-- The step is not one of a request that names another key. -/
def isOwn (jobs : ℕ → Job) (keyIds : List String) (a : DataStep) : Bool :=
  a.request.all fun i ↦ (jobs i).names keyIds

instance (db : Database) : Decidable (db.Assigns saId keyIds) :=
  inferInstanceAs (Decidable (∀ key ∈ db.keys.rows,
    (key.serviceAccountId = saId ↔ key.keyId ∈ keyIds)))

/-- The global limit has room for the requests of the account, and its keys stay its own. -/
def Undisturbed (plane : DataPlane) (jobs : ℕ → Job) (saId : ServiceAccountId)
    (keyIds : List String) (s : DataState) : DataStep → Prop
  | .advance i c => (jobs i).names keyIds = true →
      hasRoom plane.conversion c s.shared.redis.counters (s.phase i) = true
  | .write db => db.Assigns saId keyIds
  | .lookup _ _ | .drop _ _ _ | .invalidateL1 _ _ | .invalidateL2 _ | .evictPolicy _ _ => True

instance (s : DataState) (a : DataStep) : Decidable (Undisturbed plane jobs saId keyIds s a) :=
  match a with
  | .advance i c => inferInstanceAs (Decidable ((jobs i).names keyIds = true →
      hasRoom plane.conversion c s.shared.redis.counters (s.phase i) = true))
  | .write db => inferInstanceAs (Decidable (db.Assigns saId keyIds))
  | .lookup _ _ | .drop _ _ _ | .invalidateL1 _ _ | .invalidateL2 _ | .evictPolicy _ _ =>
      inferInstanceAs (Decidable True)

/-- The full run and the run of the account alone, side by side. -/
structure Unnoticed (plane : DataPlane) (jobs : ℕ → Job) (saId : ServiceAccountId)
    (keyIds : List String) (full alone : DataState) : Prop where
  configured : ∀ i, (full.phase i).Configured plane
  belongs : ∀ i, (full.phase i).Belongs jobs saId keyIds i
  owned : full.shared.Owned jobs saId keyIds
  alike : alone.shared.Alike plane jobs saId keyIds full.shared
  like : ∀ i, (jobs i).names keyIds = true → (full.phase i).Like (alone.phase i)

variable {full alone t : DataState} {i : ℕ} {c : Circumstances} {next next' : DataPhase}
  {shared shared' : Shared}

theorem Unnoticed.move_both (h : Unnoticed plane jobs saId keyIds full alone)
    (hconf : next.Configured plane) (hbelongs : next.Belongs jobs saId keyIds i)
    (howned : shared.Owned jobs saId keyIds)
    (halike : shared'.Alike plane jobs saId keyIds shared) (hlike : next.Like next') :
    Unnoticed plane jobs saId keyIds (full.move i (next, shared))
      (alone.move i (next', shared')) where
  configured := Function.forall_update_iff full.phase _ |>.mpr ⟨hconf, fun j _ ↦ h.configured j⟩
  belongs := Function.forall_update_iff full.phase _ |>.mpr ⟨hbelongs, fun j _ ↦ h.belongs j⟩
  owned := howned
  alike := halike
  like j hj := by
    by_cases hji : j = i
    · subst hji
      simpa [DataState.move] using hlike
    · simpa [DataState.move, Function.update_of_ne hji] using h.like j hj

theorem Unnoticed.move_full (h : Unnoticed plane jobs saId keyIds full alone)
    (hother : ¬(jobs i).names keyIds = true) (hconf : next.Configured plane)
    (hbelongs : next.Belongs jobs saId keyIds i) (howned : shared.Owned jobs saId keyIds)
    (halike : alone.shared.Alike plane jobs saId keyIds shared) :
    Unnoticed plane jobs saId keyIds (full.move i (next, shared)) alone where
  configured := Function.forall_update_iff full.phase _ |>.mpr ⟨hconf, fun j _ ↦ h.configured j⟩
  belongs := Function.forall_update_iff full.phase _ |>.mpr ⟨hbelongs, fun j _ ↦ h.belongs j⟩
  owned := howned
  alike := halike
  like j hj := by
    have hji : j ≠ i := fun heq ↦ hother (heq ▸ hj)
    simpa [DataState.move, Function.update_of_ne hji] using h.like j hj

/-- A request of the account takes its next step in both runs. -/
theorem Unnoticed.advance_both (hw : 0 < plane.windowSecs)
    (h : Unnoticed plane jobs saId keyIds full alone) (hown : (jobs i).names keyIds = true)
    (hroom : hasRoom plane.conversion c full.shared.redis.counters (full.phase i) = true)
    {answer : DataPhase × Shared}
    (hfull : advance P plane (jobs i) i c full.shared (full.phase i) = some answer) :
    ∃ answer', advance P plane (jobs i) i c alone.shared (alone.phase i) = some answer' ∧
      Unnoticed plane jobs saId keyIds (full.move i answer) (alone.move i answer') := by
  have hrel := advance_alike P h.alike hw (h.configured i) (h.belongs i) hown (h.like i hown) c
  rw [hfull] at hrel
  obtain ⟨answer', halone, halike, hlike⟩ := exists_of_rel_some hrel
  exact ⟨answer', halone, h.move_both ((h.configured i).advance P hfull)
    ((h.belongs i).advance P h.owned hfull)
    (h.owned.advance P (h.belongs i) hfull) halike (hlike hroom)⟩

theorem Shared.Owned.interrupt {s : Shared} (h : s.Owned jobs saId keyIds) {phase : DataPhase}
    (hphase : phase.Belongs jobs saId keyIds i) (c : Circumstances) (executed : Bool) :
    (interrupt P plane (jobs i) i c executed s phase).Owned jobs saId keyIds := by
  obtain ⟨left, hleft, heq⟩ := exists_interrupt P h
    (fun _ hstep ↦ h.advance P (c := c) hphase hstep) executed
  rw [heq]
  refine ⟨hleft.tiers, fun gateway j hj ↦ h.leader gateway j ?_⟩
  unfold abandonLoad at hj
  cases hplace : phase.leadsAt (jobs i) with
  | none => simpa [hplace] using hj
  | some place =>
      rw [hplace] at hj
      exact leader_of_settle hj

theorem interrupt_alike {full alone : Shared} {phase phase' : DataPhase}
    (h : alone.Alike plane jobs saId keyIds full) (hw : 0 < plane.windowSecs)
    (hconf : phase.Configured plane) (hbelongs : phase.Belongs jobs saId keyIds i)
    (hown : (jobs i).names keyIds = true) (hlike : phase.Like phase') (c : Circumstances)
    (executed : Bool) :
    (interrupt P plane (jobs i) i c executed alone phase').Alike plane jobs saId keyIds
      (interrupt P plane (jobs i) i c executed full phase) := by
  let alike : Shared → Shared → Prop := fun full alone ↦ alone.Alike plane jobs saId keyIds full
  have hleft : alike
      (if executed then (advance P plane (jobs i) i c full phase).elim full Prod.snd else full)
      (if executed then (advance P plane (jobs i) i c alone phase').elim alone Prod.snd
        else alone) := by
    cases executed with
    | false => exact h
    | true =>
        exact rel_elim (advance_alike P h hw hconf hbelongs hown hlike c) h fun _ _ hr ↦ hr.1
  refine { hleft with loads := ?_ }
  change PolicyLoads.Alike _ _ _ (abandonLoad _ _ _ _) (abandonLoad _ _ _ _)
  unfold abandonLoad
  rw [hlike.leadsAt]
  cases phase.leadsAt (jobs i) with
  | none => exact h.loads
  | some place => exact h.loads.settle_both place i _

theorem interrupt_other {full alone : Shared} {phase : DataPhase}
    (h : alone.Alike plane jobs saId keyIds full) (hw : 0 < plane.windowSecs)
    (hconf : phase.Configured plane) (hbelongs : phase.Belongs jobs saId keyIds i)
    (hother : ¬(jobs i).names keyIds = true) (c : Circumstances) (executed : Bool) :
    alone.Alike plane jobs saId keyIds (interrupt P plane (jobs i) i c executed full phase) := by
  obtain ⟨left, hleft, heq⟩ := exists_interrupt P h
    (fun _ hstep ↦ advance_other P h hw hconf (c := c) hbelongs hother hstep) executed
  rw [heq]
  refine { hleft with loads := ?_ }
  change PolicyLoads.Alike _ _ _ _ (abandonLoad _ _ _ _)
  unfold abandonLoad
  cases phase with
  | policy auth evaluator policy =>
      simp only [DataPhase.leadsAt]
      split_ifs
      · exact h.loads.settle_full (mt hbelongs.1.mpr hother) hother _ _
      · exact h.loads
  | received | lookingUp _ _ | findingAccount _ _ | recording _ | evaluating _ _ _
  | acquiring _ _ _ | handling _ _ _ | releasing _ _ | answered _ | releaseTask _
  | dropped => exact h.loads

/-- What happens besides the requests happens in both runs. -/
theorem Unnoticed.environment (h : Unnoticed plane jobs saId keyIds full alone) {a : DataStep}
    (ha : a.request = none) (hguard : Undisturbed plane jobs saId keyIds full a)
    (hstep : dataStep P plane jobs full a = some t) :
    ∃ t', dataStep P plane jobs alone a = some t' ∧ Unnoticed plane jobs saId keyIds t t' := by
  cases a with
  | advance i c | lookup i c | drop i c executed => cases ha
  | invalidateL1 gateway keyId =>
      cases hstep
      refine ⟨_, rfl, h.configured, h.belongs, ⟨h.owned.tiers.putL1 gateway nofun, h.owned.leader⟩,
        { h.alike with l1 := fun g k hk ↦ ?_ }, h.like⟩
      by_cases hg : g = gateway
      · subst hg
        simp only [Function.update_self]
        exact put_congr (h.alike.l1 g k hk) _ _
      · simp only [Function.update_of_ne hg]
        exact h.alike.l1 g k hk
  | invalidateL2 keyId =>
      cases hstep
      exact ⟨_, rfl, h.configured, h.belongs, ⟨h.owned.tiers.putL2 nofun, h.owned.leader⟩,
        { h.alike with l2 := fun k hk ↦ put_congr (h.alike.l2 k hk) _ _ }, h.like⟩
  | evictPolicy gateway owner =>
      cases hstep
      exact ⟨_, rfl, h.configured, h.belongs, ⟨h.owned.tiers, h.owned.leader⟩,
        { h.alike with policies := fun g ↦ put_congr (h.alike.policies g) _ _ }, h.like⟩
  | write db =>
      cases hstep
      have htiers : TiersHold (OwnedBy saId keyIds) full.shared.l1 full.shared.redis.keys
          db.keys :=
        ⟨h.owned.tiers.l1, h.owned.tiers.l2, Database.Assigns.tiersHold hguard⟩
      exact ⟨_, rfl, h.configured, h.belongs, ⟨htiers, h.owned.leader⟩,
        { h.alike with db := rfl }, h.like⟩

theorem Unnoticed.own_step (hw : 0 < plane.windowSecs)
    (h : Unnoticed plane jobs saId keyIds full alone) {a : DataStep}
    (hguard : Undisturbed plane jobs saId keyIds full a) (hown : isOwn jobs keyIds a = true)
    (hstep : dataStep P plane jobs full a = some t) :
    ∃ t', dataStep P plane jobs alone a = some t' ∧ Unnoticed plane jobs saId keyIds t t' := by
  cases a with
  | advance i c =>
      obtain ⟨hlookup, answer, hfull, rfl⟩ := (dataStep_advance_eq_some P).mp hstep
      obtain ⟨answer', halone, hnext⟩ := h.advance_both P hw hown (hguard hown) hfull
      rw [← (h.like i hown).isLookingUp] at hlookup
      exact ⟨_, (dataStep_advance_eq_some P).mpr ⟨hlookup, answer', halone, rfl⟩, hnext⟩
  | lookup i c =>
      obtain ⟨hlookup, answer, hfull, rfl⟩ := (dataStep_lookup_eq_some P).mp hstep
      obtain ⟨answer', halone, hnext⟩ :=
        h.advance_both P hw hown (hasRoom_of_isLookingUp _ _ _ hlookup) hfull
      rw [← (h.like i hown).isLookingUp] at hlookup
      exact ⟨_, (dataStep_lookup_eq_some P).mpr ⟨hlookup, answer', halone, rfl⟩, hnext⟩
  | drop i c executed =>
      obtain ⟨next, hnext, rfl⟩ := Option.map_eq_some_iff.mp hstep
      have hlike := h.like i hown
      refine ⟨_, Option.map_eq_some_iff.mpr ⟨next, hlike.abandon.trans hnext, rfl⟩, ?_⟩
      exact h.move_both (.abandon hnext) ((h.belongs i).abandon hnext)
        (h.owned.interrupt P (h.belongs i) c executed)
        (interrupt_alike P h.alike hw (h.configured i) (h.belongs i) hown hlike c executed)
        (.refl _)
  | invalidateL1 _ _ | invalidateL2 _ | evictPolicy _ _ | write _ =>
      exact h.environment P rfl hguard hstep

theorem Unnoticed.other_step (hw : 0 < plane.windowSecs)
    (h : Unnoticed plane jobs saId keyIds full alone) {a : DataStep}
    (hother : isOwn jobs keyIds a = false) (hstep : dataStep P plane jobs full a = some t) :
    Unnoticed plane jobs saId keyIds t alone := by
  have hadvance : ∀ {i c answer}, ¬(jobs i).names keyIds = true →
      advance P plane (jobs i) i c full.shared (full.phase i) = some answer →
      Unnoticed plane jobs saId keyIds (full.move i answer) alone := by
    intro i c answer hi hfull
    exact h.move_full hi ((h.configured i).advance P hfull)
      ((h.belongs i).advance P h.owned hfull)
      (h.owned.advance P (h.belongs i) hfull)
      (advance_other P h.alike hw (h.configured i) (h.belongs i) hi hfull)
  cases a with
  | advance i c =>
      obtain ⟨_, answer, hfull, rfl⟩ := (dataStep_advance_eq_some P).mp hstep
      exact hadvance (ne_true_of_eq_false hother) hfull
  | lookup i c =>
      obtain ⟨_, answer, hfull, rfl⟩ := (dataStep_lookup_eq_some P).mp hstep
      exact hadvance (ne_true_of_eq_false hother) hfull
  | drop i c executed =>
      obtain ⟨next, hnext, rfl⟩ := Option.map_eq_some_iff.mp hstep
      have hi : ¬(jobs i).names keyIds = true := ne_true_of_eq_false hother
      exact h.move_full hi (.abandon hnext) ((h.belongs i).abandon hnext)
        (h.owned.interrupt P (h.belongs i) c executed)
        (interrupt_other P h.alike hw (h.configured i) (h.belongs i) hi c executed)
  | invalidateL1 _ _ | invalidateL2 _ | evictPolicy _ _ | write _ => cases hother

theorem unnoticed_start {db : Database} (hdb : db.Assigns saId keyIds) :
    Unnoticed plane jobs saId keyIds (.start db) (.start db) where
  configured _ := trivial
  belongs _ := trivial
  owned := ⟨⟨nofun, nofun, hdb.tiersHold⟩, nofun⟩
  alike := {
    nonces := fun _ _ ↦ rfl
    counters := {
      account := fun _ _ ↦ rfl
      aloneKept := nofun
      fullKept := nofun
      nonneg := fun _ ↦ le_rfl
      fewer := fun _ ↦ le_rfl }
    l1 := fun _ _ _ ↦ rfl
    l2 := fun _ _ ↦ rfl
    policies := fun _ ↦ rfl
    loads := ⟨fun _ ↦ rfl, fun _ _ ↦ rfl⟩
    db := rfl }
  like _ _ := .received

/-- The requests that name a key of the account are answered as if there were no others, in
every interleaving with requests that name other keys, on whichever gateway, as long as the
global limit has room for them.  Only the figures in the headers may differ.  The nonces and
the counters of the account, its cached keys and its cached policies end up the same. -/
theorem other_accounts_unnoticed {db : Database} {u : DataState} {steps : List DataStep}
    (hdb : db.Assigns saId keyIds)
    (hw : ∀ evaluator ∈ plane.evaluator, 1 ≤ evaluator.windowSecs)
    (hguard : Guarded (dataStep P plane jobs) (Undisturbed plane jobs saId keyIds) (.start db)
      steps)
    (hrun : run (dataStep P plane jobs) (.start db) steps = some u) :
    ∃ v, run (dataStep P plane jobs) (.start db) (steps.filter (isOwn jobs keyIds)) = some v ∧
      (∀ i, (jobs i).names keyIds = true → (u.phase i).Like (v.phase i)) ∧
      (∀ key : RedisKey, key.account = some saId →
        v.shared.redis.nonces key.render = u.shared.redis.nonces key.render ∧
          v.shared.redis.counters key.render = u.shared.redis.counters key.render) ∧
      (∀ keyId ∈ keyIds, v.shared.redis.keys (keyCacheKey keyId) =
          u.shared.redis.keys (keyCacheKey keyId) ∧
        ∀ gateway, v.shared.l1 gateway keyId = u.shared.l1 gateway keyId) ∧
      ∀ gateway, v.shared.policies (gateway, saId) = u.shared.policies (gateway, saId) := by
  have hsecs : 0 < plane.windowSecs := by
    unfold DataPlane.windowSecs
    cases hplane : plane.evaluator with
    | none => exact Nat.one_pos
    | some evaluator => exact hw evaluator hplane
  have hown : ∀ full alone a t, Unnoticed plane jobs saId keyIds full alone →
      Undisturbed plane jobs saId keyIds full a → isOwn jobs keyIds a = true →
      dataStep P plane jobs full a = some t →
      ∃ t', dataStep P plane jobs alone a = some t' ∧ Unnoticed plane jobs saId keyIds t t' :=
    fun _ _ _ _ h hguard hown hstep ↦ h.own_step P hsecs hguard hown hstep
  have hother : ∀ full alone a t, Unnoticed plane jobs saId keyIds full alone →
      Undisturbed plane jobs saId keyIds full a → isOwn jobs keyIds a = false →
      dataStep P plane jobs full a = some t → Unnoticed plane jobs saId keyIds t alone :=
    fun _ _ _ _ h _ hother hstep ↦ h.other_step P hsecs hother hstep
  obtain ⟨v, hv, h⟩ := run_filter hown hother hguard hrun (unnoticed_start hdb)
  exact ⟨v, hv, h.like,
    fun key hkey ↦ ⟨h.alike.nonces key hkey, h.alike.counters.account key hkey⟩,
    fun keyId hk ↦ ⟨h.alike.l2 keyId hk, fun gateway ↦ h.alike.l1 gateway keyId hk⟩,
    h.alike.policies⟩

end Runs

/-- The other account loads its policies before and is limited after the first one is served. -/
def interleaved : List DataStep :=
  takesSteps 1 5 ++ takesSteps 0 10 ++ List.replicate 5 (.advance 1 sampleCircumstances)

theorem other_accounts_unnoticed_two :
    ∃ u v, run (dataStep .sample samplePlane sampleJobs) (.start sampleDatabase) interleaved =
        some u ∧
      (∃ response, u.phase 0 = .answered response ∧ response.status = 200) ∧
      run (dataStep .sample samplePlane sampleJobs) (.start sampleDatabase)
        (interleaved.filter (isOwn sampleJobs ["key-1"])) = some v ∧
      (∀ i, (sampleJobs i).names ["key-1"] = true → (u.phase i).Like (v.phase i)) ∧
      (∀ key : RedisKey, key.account = some ⟨⟨2⟩⟩ →
        v.shared.redis.nonces key.render = u.shared.redis.nonces key.render ∧
          v.shared.redis.counters key.render = u.shared.redis.counters key.render) ∧
      (∀ keyId ∈ ["key-1"], v.shared.redis.keys (keyCacheKey keyId) =
          u.shared.redis.keys (keyCacheKey keyId) ∧
        ∀ gateway, v.shared.l1 gateway keyId = u.shared.l1 gateway keyId) ∧
      ∀ gateway, v.shared.policies (gateway, ⟨⟨2⟩⟩) = u.shared.policies (gateway, ⟨⟨2⟩⟩) := by
  have hrun : ((run (dataStep .sample samplePlane sampleJobs) (.start sampleDatabase)
      interleaved).map fun u ↦ match u.phase 0 with
        | .answered response => response.status
        | _ => 0) = some 200 := by decide +kernel
  have hguard : Guarded (dataStep .sample samplePlane sampleJobs)
      (Undisturbed samplePlane sampleJobs ⟨⟨2⟩⟩ ["key-1"]) (.start sampleDatabase)
      interleaved := by
    decide +kernel
  have hdb : sampleDatabase.Assigns ⟨⟨2⟩⟩ ["key-1"] := by decide +kernel
  have hw : ∀ evaluator ∈ samplePlane.evaluator, 1 ≤ evaluator.windowSecs := by
    rintro _ ⟨⟩
    decide
  obtain ⟨u, hu, hstatus⟩ := Option.map_eq_some_iff.mp hrun
  obtain ⟨v, hv⟩ := other_accounts_unnoticed .sample hdb hw hguard hu
  refine ⟨u, v, hu, ?_, hv⟩
  split at hstatus
  · next response hresponse => exact ⟨response, hresponse, hstatus⟩
  · cases hstatus

end SmartGate
