import SmartGate.Policy.SlotRecovery
import SmartGate.Gateway.Counters

/-!
# What stays in Redis

A request deletes nothing of what it writes to Redis.  The gateway relies on the time to live of
every key.  Nonces, cached keys and counters do get one, but a `DECR` that finds no counter
creates one without it.  So Redis forgets everything some time after the last request, except
the counters that a decrement has missed: these are negative and stay for ever.
-/

namespace SmartGate

open ExpiringStore Transition

/-! ## One command -/

namespace CounterCommand

/-- The time to live that the command gives to its counter. -/
def lifetime : CounterCommand → ℕ
  | .check _ windowSecs => 1000 * (windowSecs * 2)
  | .acquire _ _ => slotLifetime
  | .rollback _ _ | .release _ => 0

/-- The command is a decrement of the counter under `key` and finds none. -/
def misses (now : ℕ) (counters : Store String ℤ) (key : String) : CounterCommand → Bool
  | .rollback saId windowSecs =>
      decide (((rollback saId windowSecs).key now).render = key) &&
        (lookup counters now key).isNone
  | .release saId =>
      decide (((release saId).key now).render = key) && (lookup counters now key).isNone
  | .check _ _ | .acquire _ _ => false

variable {command : CounterCommand} {now d : ℕ} {counters : Store String ℤ} {missed : Prop}

theorem runsOut_check (scope : RateScope) (windowSecs : ℕ)
    (hd : now + 1000 * (windowSecs * 2) ≤ d) :
    RunsOut missed ((check scope windowSecs).execute now counters)
      ((check scope windowSecs).key now).render d := by
  have hrefreshed : ∀ key : String, RunsOut missed
      (expire (incrBy counters now key 1).2 now key (1000 * (windowSecs * 2))) key d := fun key ↦
    (runsOut_of_deadline (expire_same _ (lookup_incrBy counters now key 1))).mono id hd
  match scope with
  | .serviceAccount saId => exact hrefreshed _
  | .global => exact hrefreshed _

theorem runsOut_decrement {key : String} (h : RunsOut missed counters key d) :
    RunsOut (missed ∨ (lookup counters now key).isNone = true) (incrBy counters now key (-1)).2
      key d :=
  (h.decrBy now (by decide)).mono (fun hor ↦ hor.imp_right Option.isNone_iff_eq_none.mpr) le_rfl

theorem runsOut_execute {key : String} (h : RunsOut missed counters key d)
    (hd : now + command.lifetime ≤ d) :
    RunsOut (missed ∨ command.misses now counters key = true) (command.execute now counters) key
      d := by
  by_cases hkey : (command.key now).render = key
  · subst hkey
    cases command with
    | check scope windowSecs => exact runsOut_check scope windowSecs hd
    | acquire saId limit => exact (runsOut_luaConcurrencyAcquire _ _ _ _).mono id hd
    | rollback saId windowSecs | release saId =>
        simp only [misses, decide_true, Bool.true_and]
        exact runsOut_decrement h
  · exact (h.congr (execute_other (Ne.symm hkey))).mono Or.inl le_rfl

theorem Uses.lifetime_le {windowSecs : ℕ} (h : command.Uses windowSecs) :
    command.lifetime ≤ max (2000 * windowSecs) slotLifetime := by
  cases command with
  | check scope secs =>
      cases h
      exact le_max_of_le_left (by simp only [lifetime]; omega)
  | acquire saId limit => exact le_max_right _ _
  | rollback saId secs | release saId => exact Nat.zero_le _

end CounterCommand

/-! ## One step -/

/-- The request whose command is executed in the step, and what it meets. -/
def DataStep.executes : DataStep → Option (ℕ × Circumstances)
  | .advance i c | .lookup i c | .drop i c true => some (i, c)
  | .drop _ _ false | .invalidateL1 _ _ | .invalidateL2 _ | .evictPolicy _ _ | .write _ => none

/-- The command reaches Redis, whether or not the gateway hears of it. -/
def RedisConnection.isReached : RedisConnection → Bool
  | .failing executed => executed
  | .working => true

theorem isReached_of_ne {redis : RedisConnection} (h : redis ≠ .failing false) :
    redis.isReached = true := by
  match redis with
  | .failing false => exact absurd rfl h
  | .failing true | .working => rfl

/-- The step decrements the counter under `key` and finds none. -/
def missesCounter (key : String) (s : DataState) (a : DataStep) : Bool :=
  a.executes.any fun (i, c) ↦ c.redis.isReached && (s.phase i).command.any fun command ↦
    command.misses c.now s.shared.redis.counters key

/-- Every clock that the step reads is at most `last`. -/
def ClocksUntil (jobs : ℕ → Job) (last : ℕ) (a : DataStep) : Prop :=
  ∀ i c, a.executes = some (i, c) → c.now ≤ last ∧ (jobs i).clock.nonce.ms ≤ last

section Steps

variable (P : Primitives) {plane : DataPlane} {jobs : ℕ → Job} {s t : DataState} {a : DataStep}

/-- A step does to Redis what the next step of a request does, or nothing but to delete a key. -/
theorem redis_dataStep (hstep : dataStep P plane jobs s a = some t) :
    (∃ i c answer, a.executes = some (i, c) ∧
        advance P plane (jobs i) i c s.shared (s.phase i) = some answer ∧
        t.shared.redis = answer.2.redis) ∨
      ∃ keys, t.shared.redis = { s.shared.redis with keys } ∧
        (keys = s.shared.redis.keys ∨ ∃ key, keys = put s.shared.redis.keys key none) := by
  have hsame : t.shared.redis = s.shared.redis →
      ∃ keys, t.shared.redis = { s.shared.redis with keys } ∧
        (keys = s.shared.redis.keys ∨ ∃ key, keys = put s.shared.redis.keys key none) :=
    fun h ↦ ⟨_, h, Or.inl rfl⟩
  cases a with
  | advance i c =>
      obtain ⟨_, answer, hnext, rfl⟩ := (dataStep_advance_eq_some P).mp hstep
      exact Or.inl ⟨i, c, answer, rfl, hnext, rfl⟩
  | lookup i c =>
      obtain ⟨_, answer, hnext, rfl⟩ := (dataStep_lookup_eq_some P).mp hstep
      exact Or.inl ⟨i, c, answer, rfl, hnext, rfl⟩
  | drop i c executed =>
      obtain ⟨next, _, rfl⟩ := Option.map_eq_some_iff.mp hstep
      cases executed with
      | false => exact Or.inr (hsame rfl)
      | true =>
          cases hnext : advance P plane (jobs i) i c s.shared (s.phase i) with
          | none => exact Or.inr (hsame (by simp [DataState.move, interrupt, hnext]))
          | some answer =>
              exact Or.inl ⟨i, c, answer, rfl, hnext, by simp [DataState.move, interrupt, hnext]⟩
  | invalidateL2 keyId =>
      cases hstep
      exact Or.inr ⟨_, rfl, Or.inr ⟨_, rfl⟩⟩
  | invalidateL1 _ _ | evictPolicy _ _ | write _ =>
      cases hstep
      exact Or.inr (hsame rfl)

theorem nonces_advance {job : Job} {i : ℕ} {c : Circumstances} {r r' : Shared}
    {phase next : DataPhase} (hstep : advance P plane job i c r phase = some (next, r')) :
    r'.redis.nonces = r.redis.nonces ∨ ∃ key, r'.redis.nonces =
      (setNxEx r.redis.nonces job.clock.nonce.ms key "1" (1000 * plane.skewSecs)).2 := by
  cases phase with
  | recording v =>
      cases hstep
      exact (checkNonce_store _ _ _ _ _ _).imp_right fun h ↦ ⟨_, h⟩
  | lookingUp hd l =>
      obtain ⟨_, _, _, rfl, _⟩ := lookupKey_eq_some.mp hstep
      exact Or.inl rfl
  | policy auth evaluator policy =>
      exact Or.inl (congrArg RedisState.nonces (policyStep_frame hstep).1)
  | received | findingAccount _ _ | evaluating _ _ _ | acquiring _ _ _ | handling _ _ _
  | releasing _ _ | releaseTask _ =>
      cases hstep
      exact Or.inl rfl
  | answered _ | dropped => cases hstep

theorem keys_advance {job : Job} {i : ℕ} {c : Circumstances} {r r' : Shared}
    {phase next : DataPhase} (hstep : advance P plane job i c r phase = some (next, r')) :
    r'.redis.keys = r.redis.keys ∨ ∃ keyId key, r'.redis.keys =
      setEx r.redis.keys c.now (keyCacheKey keyId) key (1000 * l2TtlSecs) := by
  cases phase with
  | lookingUp hd l =>
      obtain ⟨fleet, l', hlookup, rfl, _⟩ := lookupKey_eq_some.mp hstep
      exact (l2_fleetLookupStep hlookup).imp_right fun h ↦ ⟨l.keyId, h⟩
  | policy auth evaluator policy =>
      exact Or.inl (congrArg RedisState.keys (policyStep_frame hstep).1)
  | received | findingAccount _ _ | recording _ | evaluating _ _ _ | acquiring _ _ _
  | handling _ _ _ | releasing _ _ | releaseTask _ =>
      cases hstep
      exact Or.inl rfl
  | answered _ | dropped => cases hstep

/-- The nonces and the cached keys are gone at these instants. -/
structure Forgotten (plane : DataPlane) (last : ℕ) (s : DataState) : Prop where
  nonces : Lapses s.shared.redis.nonces (last + 1000 * plane.skewSecs)
  keys : Lapses s.shared.redis.keys (last + 1000 * l2TtlSecs)

theorem Forgotten.step {last : ℕ} (h : Forgotten plane last s)
    (huntil : ClocksUntil jobs last a) (hstep : dataStep P plane jobs s a = some t) :
    Forgotten plane last t := by
  rcases redis_dataStep P hstep with
    ⟨i, c, answer, hexecutes, hnext, hredis⟩ | ⟨keys, hredis, hkeys⟩
  · obtain ⟨hnow, hnonce⟩ := huntil i c hexecutes
    constructor <;> rw [hredis]
    · rcases nonces_advance P hnext with hsame | ⟨key, hset⟩
      · exact hsame ▸ h.nonces
      · exact hset ▸ h.nonces.setNxEx _ _ (Nat.add_le_add_right hnonce _)
    · rcases keys_advance P hnext with hsame | ⟨keyId, key, hset⟩
      · exact hsame ▸ h.keys
      · exact hset ▸ h.keys.setEx _ _ (Nat.add_le_add_right hnow _)
  · constructor <;> rw [hredis]
    · exact h.nonces
    · rcases hkeys with rfl | ⟨key, rfl⟩
      · exact h.keys
      · exact h.keys.put key nofun

/-- The counter under `key` runs out, unless one of `n` decrements has missed it. -/
structure KeyRunsOut (plane : DataPlane) (key : String) (d n : ℕ) (s : DataState) : Prop where
  configured : ∀ i, (s.phase i).Configured plane
  runsOut : RunsOut (0 < n) s.shared.redis.counters key d

theorem KeyRunsOut.step {key : String} {last n : ℕ}
    (h : KeyRunsOut plane key (last + max (2000 * plane.windowSecs) slotLifetime) n s)
    (huntil : ClocksUntil jobs last a) (hstep : dataStep P plane jobs s a = some t) :
    KeyRunsOut plane key (last + max (2000 * plane.windowSecs) slotLifetime)
      (n + if missesCounter key s a then 1 else 0) t := by
  refine ⟨configured_dataStep P h.configured hstep, ?_⟩
  have hkept : t.shared.redis.counters = s.shared.redis.counters →
      RunsOut (0 < n + if missesCounter key s a then 1 else 0) t.shared.redis.counters key
        (last + max (2000 * plane.windowSecs) slotLifetime) := fun hsame ↦
    (h.runsOut.congr (congrFun hsame key)).mono (fun hpos ↦ Nat.add_pos_left hpos _) le_rfl
  rcases redis_dataStep P hstep with ⟨i, c, answer, hexecutes, hnext, hredis⟩ | ⟨keys, hredis, _⟩
  · rcases counters_advance P hnext with hsame | ⟨hreached, command, hcommand, hcounters⟩
    · exact hkept ((congrArg RedisState.counters hredis).trans hsame)
    · have hd : c.now + command.lifetime ≤ last + max (2000 * plane.windowSecs) slotLifetime :=
        Nat.add_le_add (huntil i c hexecutes).1 ((h.configured i).uses hcommand).lifetime_le
      rw [hredis, hcounters]
      refine (CounterCommand.runsOut_execute h.runsOut hd).mono (fun hor ↦ ?_) le_rfl
      rcases hor with hpos | hmisses
      · exact Nat.add_pos_left hpos _
      · have hcounted : missesCounter key s a = true := by
          simp [missesCounter, hexecutes, isReached_of_ne hreached, Option.mem_def.mp hcommand,
            hmisses]
        rw [if_pos hcounted]
        exact Nat.succ_pos n
  · exact hkept (by rw [hredis])

end Steps

/-! ## Runs -/

/-- Some time after the last request there is no nonce, no cached key and no counter in Redis,
whatever the requests were and however they were interleaved, dropped or cut off from Redis.
The exception are counters that a decrement has missed; they are negative and never expire. -/
theorem redis_forgets (P : Primitives) {plane : DataPlane} {jobs : ℕ → Job} {db : Database}
    {u : DataState} {steps : List DataStep} {last : ℕ}
    (huntil : ∀ a ∈ steps, ClocksUntil jobs last a)
    (hrun : run (dataStep P plane jobs) (.start db) steps = some u) (key : String) {later : ℕ} :
    (last + 1000 * plane.skewSecs ≤ later → lookup u.shared.redis.nonces later key = none) ∧
      (last + 1000 * l2TtlSecs ≤ later → lookup u.shared.redis.keys later key = none) ∧
      ∀ e, last + max (2000 * plane.windowSecs) slotLifetime ≤ later →
        lookup u.shared.redis.counters later key = some e → e.deadline = none ∧ e.value < 0 ∧
          0 < countAlong (dataStep P plane jobs) (missesCounter key) (.start db) steps := by
  have hguard : Guarded (dataStep P plane jobs) (fun _ a ↦ ClocksUntil jobs last a) (.start db)
      steps := guarded_of_forall _ huntil
  have hforgotten : Forgotten plane last u :=
    run_invariant (fun s a t h hg hstep ↦ h.step P hg hstep) hguard hrun
      ⟨fun _ _ ↦ nofun, fun _ _ ↦ nofun⟩
  refine ⟨fun hlater ↦ hforgotten.nonces.lookup_eq_none hlater key,
    fun hlater ↦ hforgotten.keys.lookup_eq_none hlater key, fun e hlater hl ↦ ?_⟩
  have hinv : KeyRunsOut plane key (last + max (2000 * plane.windowSecs) slotLifetime)
      (0 + countAlong (dataStep P plane jobs) (missesCounter key) (.start db) steps) u :=
    run_invariant_count (fun n s a t h hg hstep ↦ h.step P hg hstep) hguard hrun
      ⟨fun _ ↦ trivial, fun _ ↦ nofun⟩
  obtain ⟨hmissed, hnone, hneg⟩ := hinv.runsOut.of_lookup hlater hl
  rw [Nat.zero_add] at hmissed
  exact ⟨hnone, hneg, hmissed⟩

/-- A request whose handler takes two minutes gives its slot back after the counter has
expired. -/
def slowRequest : List DataStep :=
  takesSteps 0 9 ++ [.advance 0 { sampleCircumstances with now := 1120000 }]

theorem redis_forgets_slow_request :
    ∃ u e, run (dataStep .sample samplePlane sampleJobs) (.start sampleDatabase) slowRequest =
        some u ∧
      lookup u.shared.redis.keys 2000000 (keyCacheKey "key-1") = none ∧
      lookup u.shared.redis.counters 2000000 (concurrencyKey ⟨⟨2⟩⟩) = some e ∧
      e.deadline = none ∧ e.value < 0 ∧
      0 < countAlong (dataStep .sample samplePlane sampleJobs)
        (missesCounter (concurrencyKey ⟨⟨2⟩⟩)) (.start sampleDatabase) slowRequest := by
  have hrun : ((run (dataStep .sample samplePlane sampleJobs) (.start sampleDatabase)
      slowRequest).bind fun u ↦
        lookup u.shared.redis.counters 2000000 (concurrencyKey ⟨⟨2⟩⟩)) = some ⟨-1, none⟩ := by
    decide +kernel
  have hclock : (sampleJobs 0).clock.nonce.ms ≤ 1120000 := by decide
  have huntil : ∀ a ∈ slowRequest, ClocksUntil sampleJobs 1120000 a := by
    intro a ha i c hexecutes
    simp only [slowRequest, takesSteps, List.mem_append, List.mem_cons, List.mem_replicate,
      List.not_mem_nil, or_false] at ha
    rcases ha with ((rfl | ⟨_, rfl⟩) | ⟨_, rfl⟩) | rfl
    all_goals
      obtain ⟨rfl, rfl⟩ := Prod.mk.inj (Option.some.inj hexecutes)
      exact ⟨by decide, hclock⟩
  obtain ⟨u, hu, hl⟩ := Option.bind_eq_some_iff.mp hrun
  have hkeys : lookup u.shared.redis.keys 2000000 (keyCacheKey "key-1") = none :=
    (redis_forgets .sample huntil hu _).2.1 (by decide)
  exact ⟨u, _, hu, hkeys, hl, (redis_forgets .sample huntil hu _).2.2 _ (by decide) hl⟩

end SmartGate
