import SmartGate.Gateway.Pipeline

/-!
# The headers of a response

A response that comes from the handler tells the caller what the rate limit is and how much of
it is left.  A response that does not come from it tells nothing of that, but it does say when
to come back if, and only if, a limit has rejected the request.
-/

namespace SmartGate

open ExpiringStore Transition

variable (P : Primitives)

/-! ## Headers -/

theorem header_insertHeader (r : Response) (name value name' : String) :
    (r.insertHeader name value).header name' =
      if name = name' then some value else r.header name' := by
  unfold Response.insertHeader Response.header
  by_cases h : name = name'
  · rw [if_pos h, List.find?_cons_of_pos (by simpa using h)]
    rfl
  · rw [if_neg h, List.find?_cons_of_neg (by simpa using h), List.find?_filter]
    congr 2
    funext x
    by_cases hx : x.1 = name'
    · have hne : x.1 ≠ name := fun heq ↦ h (heq.symm.trans hx)
      simp [hx, Ne.symm h]
    · simp [hx]

theorem header_injectRateLimitHeaders (r : Response) (outcome : RateLimitOutcome) {name : String}
    (h : name ∈ rateLimitHeaders) :
    ((injectRateLimitHeaders r outcome).header name).isSome = true := by
  simp only [injectRateLimitHeaders, header_insertHeader]
  simp only [rateLimitHeaders, List.mem_cons, List.not_mem_nil, or_false] at h
  rcases h with rfl | rfl | rfl <;> simp

theorem header_intoResponse (e : GatewayError) {name : String} (h : name ∈ rateLimitHeaders) :
    (e.intoResponse.header name).isSome = false := by
  have hretry : "retry-after" ≠ name := by
    rintro rfl
    simp [rateLimitHeaders] at h
  have htype : "content-type" ≠ name := by
    rintro rfl
    simp [rateLimitHeaders] at h
  unfold GatewayError.intoResponse
  cases e.retryAfter with
  | none => simp [Response.header, htype]
  | some secs =>
      rw [header_insertHeader, if_neg hretry]
      simp [Response.header, htype]

theorem retryAfter_intoResponse (e : GatewayError) :
    (e.intoResponse.header "retry-after").isSome = e.retryAfter.isSome := by
  unfold GatewayError.intoResponse
  cases e.retryAfter with
  | none => rfl
  | some secs => rw [header_insertHeader, if_pos rfl, Option.isSome_some, Option.isSome_some]

theorem status_intoResponse (e : GatewayError) : e.intoResponse.status = e.statusCode := by
  unfold GatewayError.intoResponse
  cases e.retryAfter <;> rfl

/-! ## Errors that say when to come back -/

/-- A rejection by a limit says when to come back, and no other error does. -/
def GatewayError.SaysWhen (e : GatewayError) : Prop :=
  e.retryAfter.isSome = true ↔ e.statusCode = 429

@[simp] theorem saysWhen_auth (code message : String) :
    (GatewayError.auth code message).SaysWhen := by
  simp [GatewayError.SaysWhen, GatewayError.retryAfter, GatewayError.statusCode]

@[simp] theorem saysWhen_config (code message : String) :
    (GatewayError.config code message).SaysWhen := by
  simp [GatewayError.SaysWhen, GatewayError.retryAfter, GatewayError.statusCode]

@[simp] theorem saysWhen_policy (code message : String) :
    (GatewayError.policy code message).SaysWhen := by
  simp [GatewayError.SaysWhen, GatewayError.retryAfter, GatewayError.statusCode]

@[simp] theorem saysWhen_rateLimit (code message : String) (seconds : ℕ) :
    (GatewayError.rateLimit code message (some seconds)).SaysWhen := by
  simp [GatewayError.SaysWhen, GatewayError.retryAfter, GatewayError.statusCode]

section SaysWhen

variable {α β : Type}

/-- The result is not an error, or one that says when to come back. -/
def SaysWhen : Except GatewayError α → Prop
  | .ok _ => True
  | .error e => e.SaysWhen

@[simp] theorem saysWhen_ok (a : α) : SaysWhen (.ok a) := trivial

@[simp] theorem saysWhen_error (e : GatewayError) :
    SaysWhen (.error e : Except GatewayError α) ↔ e.SaysWhen := Iff.rfl

theorem SaysWhen.bind {x : Except GatewayError α} {f : α → Except GatewayError β}
    (hx : SaysWhen x) (hf : ∀ a, SaysWhen (f a)) : SaysWhen (x >>= f) := by
  cases x with
  | error e => exact hx
  | ok a => exact hf a

theorem saysWhen_requireComponent (available : Bool) (component : String) :
    SaysWhen (requireComponent available component) := by
  unfold requireComponent
  split_ifs <;> simp

theorem saysWhen_extractHeader (headers : HeaderMap) (name : String) :
    SaysWhen (extractHeader headers name) := by
  unfold extractHeader
  repeat' split
  all_goals simp

theorem saysWhen_extractAuthHeaders (headers : HeaderMap) :
    SaysWhen (extractAuthHeaders headers) := by
  unfold extractAuthHeaders
  iterate 6 refine (saysWhen_extractHeader _ _).bind fun _ ↦ ?_
  trivial

theorem saysWhen_checkFormat (skewSecs : ℕ) (clock : ClockReadings) (request : Request) :
    SaysWhen (checkFormat P skewSecs clock request) := by
  have hbody : SaysWhen (readBody request) := by
    unfold readBody
    split <;> simp
  have hhash : ∀ body hash, SaysWhen (verifyBodyHash P body hash) := by
    intro body hash
    unfold verifyBodyHash
    split_ifs <;> simp
  have htimestamp : ∀ text now, SaysWhen (validateTimestamp text skewSecs now) := by
    intro text now
    unfold validateTimestamp
    split
    · simp
    · dsimp only
      split_ifs <;> simp
  have hnonce : ∀ nonce, SaysWhen (validateNonceLength nonce) := by
    intro nonce
    unfold validateNonceLength
    dsimp only
    split_ifs <;> simp
  exact (saysWhen_extractAuthHeaders _).bind fun h ↦ hbody.bind fun body ↦
    (hhash body h.bodyHash).bind fun _ ↦ (htimestamp h.timestamp _).bind fun _ ↦
      (hnonce h.nonce).bind fun _ ↦ trivial

theorem saysWhen_verifyKey (keyStore : KeyLookup) (keyId : String) (now : ℕ) :
    SaysWhen (verifyKey keyStore keyId now) := by
  cases h : verifyKey keyStore keyId now with
  | ok key => trivial
  | error e =>
      cases verifyKey_error h
      simp [authDenied]

theorem saysWhen_verifyServiceAccount (db : AccountLookup) (key : ServiceAccountKey) :
    SaysWhen (verifyServiceAccount db key) := by
  cases h : verifyServiceAccount db key with
  | ok sa => trivial
  | error e =>
      cases verifyServiceAccount_error h
      simp [authDenied]

theorem saysWhen_checkSignature (redis : Option RedisConnection) (request : Request)
    (h : AuthHeaders) (key : ServiceAccountKey) (sa : ServiceAccountWithTenantStatus) :
    SaysWhen (checkSignature P redis request h key sa) := by
  have hparse : SaysWhen (parsePublicKey P key.publicKeyPem) := by
    unfold parsePublicKey
    cases P.decodeBase64 (pemPayload key.publicKeyPem) with
    | error e => simp
    | ok der =>
        generalize (if der.length = 44 then some (der.drop 12)
          else if der.length = 32 then some der else none) = keyBytes
        dsimp only
        repeat' split
        all_goals simp
  have hverify : ∀ publicKey canonical signature,
      SaysWhen (verifySignature P publicKey canonical signature) := by
    intro publicKey canonical signature
    unfold verifySignature
    repeat' split
    all_goals simp
  have hredis : SaysWhen (Backend.requireRedis ⟨none, none, redis⟩) := by
    unfold Backend.requireRedis
    split <;> simp
  exact hparse.bind fun _ ↦ (hverify _ _ _).bind fun _ ↦ hredis.bind fun _ ↦ trivial

theorem saysWhen_checkNonce (redis : RedisConnection) (store : Store String String) (now : ℕ)
    (serviceAccountId nonce : String) (ttlSecs : ℕ) :
    SaysWhen (checkNonce redis store now serviceAccountId nonce ttlSecs).1 := by
  match redis with
  | .failing executed => simp [checkNonce]
  | .working =>
      simp only [checkNonce]
      split_ifs <;> simp

theorem saysWhen_requireRateLimitEvaluator (plane : DataPlane) :
    SaysWhen plane.requireRateLimitEvaluator := by
  unfold DataPlane.requireRateLimitEvaluator
  split <;> simp

theorem saysWhen_acquire (redis : RedisConnection) (store : Store String ℤ) (now : ℕ)
    (saId : ServiceAccountId) (limit : ℕ) :
    SaysWhen (acquire redis store now saId limit).1 := by
  match redis with
  | .failing executed => simp [acquire, limiterUnavailable]
  | .working =>
      simp only [acquire]
      split_ifs <;> simp [concurrencyExceeded]

end SaysWhen

/-! ## What a phase tells of the past -/

/-- The request has been in its handler. -/
def Handled (past : List DataState) (i : ℕ) : Prop :=
  ∃ t ∈ past, ∃ saId outcome permit, t.phase i = .handling saId outcome permit

def DataPhase.isHandling : DataPhase → Bool
  | .handling _ _ _ => true
  | .received | .lookingUp _ _ | .findingAccount _ _ | .recording _ | .policy _ _ _
  | .evaluating _ _ _ | .acquiring _ _ _ | .releasing _ _ | .answered _ | .releaseTask _
  | .dropped => false

def EvaluateCall.SaysWhen (call : EvaluateCall) : Prop :=
  ∀ e, call.phase = .returned (.error e) → e.SaysWhen

theorem saysWhen_evaluateStep {call : EvaluateCall} (h : call.SaysWhen) (conv : ReplyConversion)
    (evaluator : RateLimitEvaluator) (redis : RedisConnection) (counters : Store String ℤ)
    (now after : ℕ) : (evaluateStep conv evaluator redis counters now after call).1.SaysWhen := by
  unfold evaluateStep
  cases hphase : call.phase with
  | saCheck saRpm =>
      intro e he
      simp only [EvaluateCall.afterSaCheck] at he
      repeat' split at he
      all_goals cases he
      · simp [rateLimiterUnavailable]
      · simp [rateLimitExceeded]
  | globalCheck =>
      intro e he
      simp only [EvaluateCall.afterGlobalCheck] at he
      repeat' split at he
      all_goals cases he
      · simp [rateLimiterUnavailable]
      · simp [rateLimitExceeded]
  | rollback resetAt =>
      intro e he
      cases he
      simp [rateLimitExceeded]
  | returned result => exact h

/-- What the phase of a request says about its past. -/
def DataPhase.Tells (handled : Prop) : DataPhase → Prop
  | .received | .lookingUp _ _ | .findingAccount _ _ | .recording _ | .policy _ _ _
  | .acquiring _ _ _ => ¬handled
  | .evaluating _ _ call => ¬handled ∧ call.SaysWhen
  | .handling _ _ _ | .releasing _ _ => handled
  | .answered response =>
      (∀ name ∈ rateLimitHeaders, (response.header name).isSome = true ↔ handled) ∧
        (¬handled → ((response.header "retry-after").isSome = true ↔ response.status = 429))
  | .releaseTask _ | .dropped => True

/-- The same for a phase that a request has just entered. -/
def DataPhase.TellsOn (handled : Prop) (phase : DataPhase) : Prop :=
  phase.Tells (handled ∨ phase.isHandling = true)

section Tells

variable {handled : Prop} {plane : DataPlane}

theorem tells_error {e : GatewayError} (he : e.SaysWhen) (h : ¬handled) :
    (DataPhase.answered e.intoResponse).TellsOn handled := by
  have hunhandled : ¬(handled ∨ (DataPhase.answered e.intoResponse).isHandling = true) :=
    not_or.mpr ⟨h, Bool.false_ne_true⟩
  refine ⟨fun name hname ↦ ?_, fun _ ↦ ?_⟩
  · simp [header_intoResponse e hname, hunhandled]
  · rw [retryAfter_intoResponse, status_intoResponse]
    exact he

theorem tells_injected (r : Response) (outcome : RateLimitOutcome) (h : handled) :
    (DataPhase.answered (injectRateLimitHeaders r outcome)).TellsOn handled := by
  refine ⟨fun name hname ↦ ?_, fun hnot ↦ absurd (Or.inl h) hnot⟩
  simp [header_injectRateLimitHeaders r outcome hname, h]

theorem tells_orAnswer {α : Type} {result : Except GatewayError α} {next : α → DataPhase}
    (hresult : SaysWhen result) (h : ¬handled) (hnext : ∀ a, (next a).TellsOn handled) :
    (DataPhase.orAnswer result next).TellsOn handled := by
  cases result with
  | error e => exact tells_error hresult h
  | ok a => exact hnext a

theorem tells_receive (job : Job) (now : ℕ) (h : ¬handled) :
    (receive P plane job now).TellsOn handled := by
  refine tells_orAnswer ?_ h fun _ ↦ not_or.mpr ⟨h, Bool.false_ne_true⟩
  exact (saysWhen_checkFormat P _ _ _).bind fun _ ↦
    (saysWhen_requireComponent _ _).bind fun _ ↦ trivial

theorem tells_keyFound (job : Job) (hd : AuthHeaders)
    (found : Except GatewayError ServiceAccountKey) (h : ¬handled) :
    (keyFound plane job hd found).TellsOn handled := by
  refine tells_orAnswer ?_ h fun _ ↦ not_or.mpr ⟨h, Bool.false_ne_true⟩
  exact (saysWhen_verifyKey _ _ _).bind fun _ ↦
    (saysWhen_requireComponent _ _).bind fun _ ↦ trivial

theorem tells_lookupKey {job : Job} {c : Circumstances} {s s' : Shared} {hd : AuthHeaders}
    {l : FleetLookup ℕ} {next : DataPhase} (h : ¬handled)
    (hstep : lookupKey plane job c s hd l = some (next, s')) : next.TellsOn handled := by
  obtain ⟨_, _, _, _, hnext⟩ := lookupKey_eq_some.mp hstep
  rcases hnext with ⟨found, _, rfl⟩ | ⟨_, rfl⟩
  · exact tells_keyFound job hd found h
  · exact not_or.mpr ⟨h, Bool.false_ne_true⟩

theorem tells_accountFound (job : Job) (hd : AuthHeaders) (key : ServiceAccountKey)
    (found : Except StorageError ServiceAccountWithTenantStatus) (h : ¬handled) :
    (accountFound P plane job hd key found).TellsOn handled := by
  have hclaimed : ∀ sa, SaysWhen (verifyClaimedId hd.saIdStr sa) := by
    intro sa
    unfold verifyClaimedId
    split_ifs <;> simp [authDenied]
  refine tells_orAnswer ?_ h fun _ ↦ not_or.mpr ⟨h, Bool.false_ne_true⟩
  exact (saysWhen_verifyServiceAccount _ _).bind fun sa ↦ (hclaimed sa).bind fun _ ↦
    saysWhen_checkSignature P _ _ _ _ _

theorem tells_nonceChecked (v : Verified) {checked : Except GatewayError Unit}
    (hchecked : SaysWhen checked) (h : ¬handled) :
    (nonceChecked plane v checked).TellsOn handled := by
  refine tells_orAnswer ?_ h fun _ ↦ not_or.mpr ⟨h, Bool.false_ne_true⟩
  exact hchecked.bind fun _ ↦ (saysWhen_requireComponent _ _).bind fun _ ↦
    (saysWhen_requireRateLimitEvaluator plane).bind fun _ ↦
      (saysWhen_requireComponent _ _).bind fun _ ↦
        (saysWhen_requireComponent _ _).bind fun _ ↦ trivial

theorem tells_policyFound (auth : AuthContext) (evaluator : RateLimitEvaluator)
    (answer : Except GatewayError EvaluatedPolicy) (h : ¬handled) :
    (policyFound auth evaluator answer).TellsOn handled := by
  cases answer with
  | error e => exact tells_error (saysWhen_policy _ _) h
  | ok evaluated =>
      refine ⟨not_or.mpr ⟨h, Bool.false_ne_true⟩, fun e he ↦ ?_⟩
      cases hlimit : evaluated.rpmLimit <;> simp [EvaluateCall.start, hlimit] at he

theorem tells_policyStep {job : Job} {i : ℕ} {c : Circumstances} {s s' : Shared}
    {auth : AuthContext} {evaluator : RateLimitEvaluator} {phase : PolicyPhase}
    {next : DataPhase} (h : ¬handled)
    (hstep : policyStep plane job i c s auth evaluator phase = some (next, s')) :
    next.TellsOn handled := by
  have hwaits : ∀ phase, (DataPhase.policy auth evaluator phase).TellsOn handled :=
    fun _ ↦ not_or.mpr ⟨h, Bool.false_ne_true⟩
  cases policyMove_policyStep hstep with
  | hit _ | settle _ | share _ => exact tells_policyFound auth evaluator _ h
  | join _ | lead _ | readBound _ | readDefault _ _ | startOver _ => exact hwaits _

theorem tells_afterEvaluation {call : EvaluateCall} (hcall : call.SaysWhen)
    (evaluator : RateLimitEvaluator) (evaluated : EvaluatedPolicy) (h : ¬handled) :
    (afterEvaluation plane evaluator evaluated call).TellsOn handled := by
  unfold afterEvaluation
  split
  · next hphase => exact tells_error (hcall _ hphase) h
  · split
    · exact Or.inr rfl
    · exact tells_orAnswer (saysWhen_requireComponent _ _) h fun _ ↦
        not_or.mpr ⟨h, Bool.false_ne_true⟩
  · exact ⟨not_or.mpr ⟨h, Bool.false_ne_true⟩, hcall⟩

theorem DataPhase.Tells.advance {job : Job} {i : ℕ} {c : Circumstances} {s s' : Shared}
    {phase next : DataPhase} (h : phase.Tells handled)
    (hstep : advance P plane job i c s phase = some (next, s')) : next.TellsOn handled := by
  cases phase with
  | received =>
      cases hstep
      exact tells_receive P job c.now h
  | lookingUp hd l => exact tells_lookupKey h hstep
  | findingAccount hd key =>
      cases hstep
      exact tells_accountFound P job hd key _ h
  | recording v =>
      cases hstep
      exact tells_nonceChecked v (saysWhen_checkNonce _ _ _ _ _ _) h
  | policy auth evaluator phase => exact tells_policyStep h hstep
  | evaluating evaluator evaluated call =>
      cases hstep
      exact tells_afterEvaluation (saysWhen_evaluateStep h.2 _ _ _ _ _ _) evaluator evaluated h.1
  | acquiring saId outcome limit =>
      cases hstep
      exact tells_orAnswer (saysWhen_acquire _ _ _ _ _) h fun _ ↦ Or.inr rfl
  | handling saId outcome permit =>
      cases hstep
      cases permit with
      | true => exact Or.inl h
      | false => exact tells_injected _ _ h
  | releasing saId outcome =>
      cases hstep
      exact tells_injected _ _ h
  | releaseTask saId =>
      cases hstep
      trivial
  | answered response | dropped => cases hstep

theorem DataPhase.tells_of_abandon {phase next : DataPhase} (h : abandon phase = some next)
    (handled : Prop) : next.Tells handled := by
  rcases abandon_eq_some h with rfl | ⟨_, _, _, rfl⟩ <;> trivial

end Tells

theorem isHandling_iff {phase : DataPhase} :
    phase.isHandling = true ↔ ∃ saId outcome permit, phase = .handling saId outcome permit := by
  cases phase <;> simp [DataPhase.isHandling]

theorem handled_append (past : List DataState) (t : DataState) (i : ℕ) :
    Handled (past ++ [t]) i ↔ Handled past i ∨ (t.phase i).isHandling = true := by
  simp only [Handled, List.mem_append, List.mem_singleton, isHandling_iff]
  constructor
  · rintro ⟨v, hv | rfl, h⟩
    · exact Or.inl ⟨v, hv, h⟩
    · exact Or.inr h
  · rintro (⟨v, hv, h⟩ | h)
    · exact ⟨v, Or.inl hv, h⟩
    · exact ⟨t, Or.inr rfl, h⟩

/-- The current state is the last one of the past, and every phase tells of it. -/
def PhasesTell (past : List DataState) (s : DataState) : Prop :=
  s ∈ past ∧ ∀ i, (s.phase i).Tells (Handled past i)

theorem PhasesTell.unmoved {past : List DataState} {s t : DataState} (h : PhasesTell past s)
    {i : ℕ} (hsame : t.phase i = s.phase i) : (t.phase i).Tells (Handled (past ++ [t]) i) := by
  rw [handled_append, hsame, or_iff_left_of_imp fun hhandling ↦ ?_]
  · exact h.2 i
  · exact ⟨s, h.1, isHandling_iff.mp hhandling⟩

theorem PhasesTell.move {past : List DataState} {s : DataState} (h : PhasesTell past s) {i : ℕ}
    {next : DataPhase} {shared : Shared} (hnext : next.TellsOn (Handled past i)) :
    PhasesTell (past ++ [s.move i (next, shared)]) (s.move i (next, shared)) := by
  refine ⟨by simp, fun j ↦ ?_⟩
  by_cases hj : j = i
  · subst hj
    rw [handled_append]
    simpa [DataState.move, DataPhase.TellsOn] using hnext
  · exact h.unmoved (Function.update_of_ne hj _ _)

theorem PhasesTell.step {plane : DataPlane} {jobs : ℕ → Job} {past : List DataState}
    {s t : DataState} {a : DataStep} (h : PhasesTell past s)
    (hstep : dataStep P plane jobs s a = some t) : PhasesTell (past ++ [t]) t := by
  cases a with
  | advance i c =>
      obtain ⟨_, ⟨next, shared⟩, hnext, rfl⟩ := (dataStep_advance_eq_some P).mp hstep
      exact h.move ((h.2 i).advance P hnext)
  | lookup i c =>
      obtain ⟨_, ⟨next, shared⟩, hnext, rfl⟩ := (dataStep_lookup_eq_some P).mp hstep
      exact h.move ((h.2 i).advance P hnext)
  | drop i c executed =>
      obtain ⟨next, hnext, rfl⟩ := Option.map_eq_some_iff.mp hstep
      exact h.move (DataPhase.tells_of_abandon hnext _)
  | invalidateL1 _ _ | invalidateL2 _ | evictPolicy _ _ | write _ =>
      cases hstep
      exact ⟨by simp, fun i ↦ h.unmoved rfl⟩

/-- A response carries the rate limit headers exactly if the request has reached its handler.
One that has not is told when to retry exactly if a limit has rejected it, but not what the
limit is. -/
theorem rate_limit_headers_iff_handled {plane : DataPlane} {jobs : ℕ → Job} {s u : DataState}
    {steps : List DataStep} (hs : ∀ i, s.phase i = .received)
    (hrun : run (dataStep P plane jobs) s steps = some u) {i : ℕ} {response : Response}
    (hanswered : u.phase i = .answered response) :
    (∀ name ∈ rateLimitHeaders, (response.header name).isSome = true ↔
      Handled (visited (dataStep P plane jobs) s steps) i) ∧
      (¬Handled (visited (dataStep P plane jobs) s steps) i →
        ((response.header "retry-after").isSome = true ↔ response.status = 429)) := by
  have hstart : PhasesTell ([] ++ [s]) s := by
    refine ⟨by simp, fun j ↦ ?_⟩
    rw [hs j]
    rintro ⟨t, ht, saId, outcome, permit, hphase⟩
    rw [List.mem_singleton.mp ht, hs j] at hphase
    cases hphase
  have hfree : Guarded (dataStep P plane jobs) (fun _ _ ↦ True) s steps :=
    guarded_of_forall s fun _ _ ↦ trivial
  have htell : PhasesTell ([] ++ visited (dataStep P plane jobs) s steps) u :=
    run_invariant_visited (fun _ _ _ _ h _ hstep ↦ h.step P hstep) hfree hrun hstart
  have hi := htell.2 i
  rw [hanswered] at hi
  exact hi

/-- The response, if there is one, with its status and whether it tells the limit. -/
def DataPhase.summary : DataPhase → Option (ℕ × Bool)
  | .answered response => some (response.status, (response.header "x-ratelimit-limit").isSome)
  | .received | .lookingUp _ _ | .findingAccount _ _ | .recording _ | .policy _ _ _
  | .evaluating _ _ _ | .acquiring _ _ _ | .handling _ _ _ | .releasing _ _ | .releaseTask _
  | .dropped => none

theorem answered_of_summary {phase : DataPhase} {status : ℕ} {limit : Bool}
    (h : phase.summary = some (status, limit)) :
    ∃ response, phase = .answered response ∧ response.status = status ∧
      (response.header "x-ratelimit-limit").isSome = limit := by
  cases phase with
  | answered response =>
      obtain ⟨hstatus, hlimit⟩ := Prod.mk.inj (Option.some.inj h)
      exact ⟨response, rfl, hstatus, hlimit⟩
  | received | lookingUp _ _ | findingAccount _ _ | recording _ | policy _ _ _
  | evaluating _ _ _ | acquiring _ _ _ | handling _ _ _ | releasing _ _ | releaseTask _
  | dropped => cases h

/-- The request of one account uses the global limit up, and that of the other is rejected. -/
theorem rate_limit_headers_iff_handled_rejected :
    ∃ u served rejected,
      run (dataStep .sample { samplePlane with evaluator := some ⟨60, 1⟩ } sampleJobs)
        (.start sampleDatabase) (takesSteps 0 10 ++ takesSteps 1 8) = some u ∧
      u.phase 0 = .answered served ∧ served.status = 200 ∧
      (served.header "x-ratelimit-remaining").isSome = true ∧
      u.phase 1 = .answered rejected ∧ rejected.status = 429 ∧
      (rejected.header "x-ratelimit-remaining").isSome = false ∧
      (rejected.header "retry-after").isSome = true := by
  have hrun : ((run (dataStep .sample { samplePlane with evaluator := some ⟨60, 1⟩ } sampleJobs)
      (.start sampleDatabase) (takesSteps 0 10 ++ takesSteps 1 8)).map
        fun u ↦ ((u.phase 0).summary, (u.phase 1).summary)) =
      some (some (200, true), some (429, false)) := by
    decide +kernel
  obtain ⟨u, hu, hsummary⟩ := Option.map_eq_some_iff.mp hrun
  obtain ⟨hserved, hrejected⟩ := Prod.mk.inj hsummary
  obtain ⟨served, hserved, hok, hlimit⟩ := answered_of_summary hserved
  obtain ⟨rejected, hrejected, hstatus, hnone⟩ := answered_of_summary hrejected
  obtain ⟨hheaders, _⟩ := rate_limit_headers_iff_handled .sample (fun _ ↦ rfl) hu hserved
  obtain ⟨hunserved, hretry⟩ := rate_limit_headers_iff_handled .sample (fun _ ↦ rfl) hu hrejected
  have hunhandled := mt (hunserved "x-ratelimit-limit" (by decide)).mpr (by simp [hnone])
  refine ⟨u, served, rejected, hu, hserved, hok, ?_, hrejected, hstatus, ?_, ?_⟩
  · exact (hheaders _ (by decide)).mpr ((hheaders "x-ratelimit-limit" (by decide)).mp hlimit)
  · exact Bool.eq_false_iff.mpr (mt (hunserved _ (by decide)).mp hunhandled)
  · exact (hretry hunhandled).mpr hstatus

end SmartGate
