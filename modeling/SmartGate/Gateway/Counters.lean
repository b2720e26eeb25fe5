import SmartGate.Gateway.Pipeline
import SmartGate.Policy.RateLimitHistory

/-!
# The commands on the counters

A request sends one command on the counters at a time.  Each command writes one key, and what
it does there depends on no other key but that of the window before.  So an account cannot tell
two stores apart that agree on its own keys, except by the global limit, and a store in which
less is counted globally is not stricter there.
-/

namespace SmartGate

open ExpiringStore Transition

/-! ## Commands on the counters -/

def RedisKey.account : RedisKey → Option ServiceAccountId
  | .nonce saId _ | .saWindow saId _ | .concurrency saId => some saId
  | .globalWindow _ | .keyCache _ => none

inductive CounterCommand where
  | check (scope : RateScope) (windowSecs : ℕ)
  | rollback (saId : ServiceAccountId) (windowSecs : ℕ)
  | acquire (saId : ServiceAccountId) (limit : ℕ)
  | release (saId : ServiceAccountId)

namespace CounterCommand

def execute (now : ℕ) (counters : Store String ℤ) : CounterCommand → Store String ℤ
  | .check scope windowSecs => (slidingWindow windowSecs counters now scope.keyPrefix).2
  | .rollback saId windowSecs => rollbackSaCounter windowSecs counters now saId
  | .acquire saId limit => (luaConcurrencyAcquire counters now (concurrencyKey saId) limit).2
  | .release saId => decrPermit counters now (concurrencyKey saId)

/-- The only key that the command writes. -/
def key (now : ℕ) : CounterCommand → RedisKey
  | .check (.serviceAccount saId) windowSecs | .rollback saId windowSecs =>
      .saWindow saId (windowOf windowSecs now)
  | .check .global windowSecs => .globalWindow (windowOf windowSecs now)
  | .acquire saId _ | .release saId => .concurrency saId

theorem execute_other {now : ℕ} {counters : Store String ℤ} {command : CounterCommand}
    {key : String} (h : key ≠ (command.key now).render) :
    command.execute now counters key = counters key := by
  match command with
  | .check (.serviceAccount _) _ | .check .global _ => exact slidingWindow_ne counters h
  | .rollback saId windowSecs => exact rollbackSaCounter_ne windowSecs counters now saId h
  | .acquire _ limit => exact luaConcurrencyAcquire_ne counters now h limit
  | .release _ => exact decrPermit_ne counters now h

theorem execute_ne {now : ℕ} {counters : Store String ℤ} {command : CounterCommand}
    {key : RedisKey} (h : key ≠ command.key now) :
    command.execute now counters key.render = counters key.render :=
  execute_other fun heq ↦ h (RedisKey.render_injective heq)

theorem execute_congr {now : ℕ} {counters counters' : Store String ℤ} {command : CounterCommand}
    (h : counters' (command.key now).render = counters (command.key now).render) :
    command.execute now counters' (command.key now).render =
      command.execute now counters (command.key now).render := by
  match command with
  | .check (.serviceAccount _) _ | .check .global _ =>
      exact expire_congr (incrBy_congr h now 1).2 now _
  | .rollback _ _ | .release _ => exact (incrBy_congr h now (-1)).2
  | .acquire saId limit =>
      have hrefreshed : refreshed counters' now (concurrencyKey saId) (concurrencyKey saId) =
          refreshed counters now (concurrencyKey saId) (concurrencyKey saId) :=
        expire_congr (incrBy_congr h now 1).2 now _
      have hcount : count counters' now (concurrencyKey saId) =
          count counters now (concurrencyKey saId) := count_congr h now
      rcases lt_or_ge (count counters now (concurrencyKey saId)) limit with hlt | hge
      · simp only [execute, key, luaConcurrencyAcquire_below hlt,
          luaConcurrencyAcquire_below (hcount ▸ hlt)]
        exact hrefreshed
      · simp only [execute, key, luaConcurrencyAcquire_above hge,
          luaConcurrencyAcquire_above (hcount ▸ hge)]
        exact (incrBy_congr hrefreshed now (-1)).2

end CounterCommand

theorem checkAndIncrement_snd (conv : ReplyConversion) (windowSecs : ℕ) (redis : RedisConnection)
    (counters : Store String ℤ) (now : ℕ) (keyPrefix : String) (limit : ℕ) :
    (checkAndIncrement conv windowSecs redis counters now keyPrefix limit).2 =
      redis.effect counters (slidingWindow windowSecs counters now keyPrefix).2 := by
  match redis with
  | .working | .failing true | .failing false => rfl

theorem acquire_snd (redis : RedisConnection) (counters : Store String ℤ) (now : ℕ)
    (saId : ServiceAccountId) (limit : ℕ) :
    (acquire redis counters now saId limit).2 = redis.effect counters
      (luaConcurrencyAcquire counters now (concurrencyKey saId) limit).2 := by
  match redis with
  | .failing true | .failing false => rfl
  | .working =>
      simp only [acquire]
      split_ifs <;> rfl

def EvaluateCall.command (call : EvaluateCall) (windowSecs : ℕ) : Option CounterCommand :=
  match call.phase with
  | .saCheck _ => some (.check (.serviceAccount call.saId) windowSecs)
  | .globalCheck => some (.check .global windowSecs)
  | .rollback _ => some (.rollback call.saId windowSecs)
  | .returned _ => none

theorem evaluateStep_snd (conv : ReplyConversion) (evaluator : RateLimitEvaluator)
    (redis : RedisConnection) (counters : Store String ℤ) (now after : ℕ) (call : EvaluateCall) :
    (evaluateStep conv evaluator redis counters now after call).2 =
      (call.command evaluator.windowSecs).elim counters fun command ↦
        redis.effect counters (command.execute now counters) := by
  unfold evaluateStep EvaluateCall.command
  cases call.phase with
  | saCheck saRpm => exact checkAndIncrement_snd _ _ _ _ _ _ _
  | globalCheck => exact checkAndIncrement_snd _ _ _ _ _ _ _
  | rollback resetAt => rfl
  | returned result => rfl

/-! ## The command of a request -/

/-- The command on the counters that a request waits for. -/
def DataPhase.command : DataPhase → Option CounterCommand
  | .evaluating evaluator _ call => call.command evaluator.windowSecs
  | .acquiring saId _ limit => some (.acquire saId limit)
  | .releasing saId _ | .releaseTask saId => some (.release saId)
  | .received | .lookingUp _ _ | .findingAccount _ _ | .recording _ | .policy _ _ _
  | .handling _ _ _ | .answered _ | .dropped => none

section Advance

variable (P : Primitives) {plane : DataPlane} {job : Job} {i : ℕ} {c : Circumstances}
  {s s' : Shared} {phase next : DataPhase}

/-- A request runs its command, or it leaves the counters alone. -/
theorem counters_advance (hstep : advance P plane job i c s phase = some (next, s')) :
    s'.redis.counters = s.redis.counters ∨ c.redis ≠ .failing false ∧
      ∃ command ∈ phase.command,
        s'.redis.counters = command.execute c.now s.redis.counters := by
  have heffect : ∀ command ∈ phase.command,
      s'.redis.counters = c.redis.effect s.redis.counters
        (command.execute c.now s.redis.counters) →
      s'.redis.counters = s.redis.counters ∨ c.redis ≠ .failing false ∧
        ∃ command ∈ phase.command,
          s'.redis.counters = command.execute c.now s.redis.counters := by
    intro command hcommand hcounters
    cases hredis : c.redis with
    | working =>
        rw [hredis] at hcounters
        exact Or.inr ⟨nofun, command, hcommand, hcounters⟩
    | failing executed =>
        rw [hredis] at hcounters
        cases executed with
        | false => exact Or.inl hcounters
        | true => exact Or.inr ⟨nofun, command, hcommand, hcounters⟩
  cases phase with
  | evaluating evaluator evaluated call =>
      cases hstep
      have hcounters := evaluateStep_snd plane.conversion evaluator c.redis s.redis.counters c.now
        c.after call
      cases hcommand : call.command evaluator.windowSecs with
      | none =>
          rw [hcommand] at hcounters
          exact Or.inl hcounters
      | some command =>
          rw [hcommand] at hcounters
          exact heffect command hcommand hcounters
  | acquiring saId outcome limit =>
      cases hstep
      exact heffect (.acquire saId limit) rfl (acquire_snd _ _ _ _ _)
  | releasing saId outcome | releaseTask saId =>
      cases hstep
      exact heffect (.release saId) rfl rfl
  | lookingUp hd l =>
      obtain ⟨_, _, _, rfl, _⟩ := lookupKey_eq_some.mp hstep
      exact Or.inl rfl
  | policy auth evaluator policy =>
      exact Or.inl (congrArg RedisState.counters (policyStep_frame hstep).1)
  | received | findingAccount _ _ | recording _ | handling _ _ _ =>
      cases hstep
      exact Or.inl rfl
  | answered _ | dropped => cases hstep

/-- The request uses the evaluator of the gateways. -/
def DataPhase.Configured (plane : DataPlane) : DataPhase → Prop
  | .policy _ evaluator _ | .evaluating evaluator _ _ => plane.evaluator = some evaluator
  | .received | .lookingUp _ _ | .findingAccount _ _ | .recording _ | .acquiring _ _ _
  | .handling _ _ _ | .releasing _ _ | .answered _ | .releaseTask _ | .dropped => True

theorem DataPhase.Configured.advance (h : phase.Configured plane)
    (hstep : advance P plane job i c s phase = some (next, s')) : next.Configured plane := by
  cases phaseStep_advance P hstep with
  | recorded hevaluator => exact hevaluator
  | policy _ | policyFound _ _ _ _ | evaluating _ => exact h
  | answered _ _ | received _ _ | lookingUp _ _ | keyFound _ _ _ _ | accountFound _ _ _
  | limited _ _ _ _ _ | unlimited _ _ _ _ | acquired _ _ _ | handled _ _ | released _ => trivial

theorem DataPhase.Configured.abandon (h : abandon phase = some next) : next.Configured plane := by
  rcases abandon_eq_some h with rfl | ⟨_, _, _, rfl⟩ <;> trivial

theorem configured_dataStep {jobs : ℕ → Job} {s t : DataState} {a : DataStep}
    (h : ∀ i, (s.phase i).Configured plane) (hstep : dataStep P plane jobs s a = some t) (i : ℕ) :
    (t.phase i).Configured plane := by
  have hmove : ∀ {j answer}, answer.1.Configured plane →
      ((s.move j answer).phase i).Configured plane :=
    fun hnext ↦ Function.forall_update_iff s.phase (fun _ phase ↦ phase.Configured plane) |>.mpr
      ⟨hnext, fun j _ ↦ h j⟩ i
  cases a with
  | advance j c =>
      obtain ⟨_, answer, hnext, rfl⟩ := (dataStep_advance_eq_some P).mp hstep
      exact hmove ((h j).advance P hnext)
  | lookup j c =>
      obtain ⟨_, answer, hnext, rfl⟩ := (dataStep_lookup_eq_some P).mp hstep
      exact hmove ((h j).advance P hnext)
  | drop j c executed =>
      obtain ⟨next, hnext, rfl⟩ := Option.map_eq_some_iff.mp hstep
      exact hmove (.abandon hnext)
  | invalidateL1 _ _ | invalidateL2 _ | evictPolicy _ _ | write _ =>
      cases hstep
      exact h i

end Advance

namespace CounterCommand

/-- The windows of the command are of this size. -/
def Uses (windowSecs : ℕ) : CounterCommand → Prop
  | .check _ secs | .rollback _ secs => secs = windowSecs
  | .acquire _ _ | .release _ => True

def globalCalls (now k : ℕ) : CounterCommand → ℕ
  | .check .global secs => if windowOf secs now = k then 1 else 0
  | .check (.serviceAccount _) _ | .rollback _ _ | .acquire _ _ | .release _ => 0

variable {windowSecs : ℕ} {command : CounterCommand} {counters : Store String ℤ}

theorem global_cases (command : CounterCommand) (now : ℕ) :
    (∃ secs, command = .check .global secs) ∨
      (∀ k, RedisKey.globalWindow k ≠ command.key now) ∧ ∀ k, command.globalCalls now k = 0 := by
  match command with
  | .check .global secs => exact Or.inl ⟨secs, rfl⟩
  | .check (.serviceAccount _) _ | .rollback _ _ | .acquire _ _ | .release _ =>
      exact Or.inr ⟨fun k ↦ RedisKey.noConfusion, fun k ↦ rfl⟩

theorem kept_execute (huses : command.Uses windowSecs)
    (hkept : WindowsKept windowSecs globalKeyPrefix counters) (now : ℕ) :
    WindowsKept windowSecs globalKeyPrefix (command.execute now counters) := by
  rcases command.global_cases now with ⟨secs, rfl⟩ | ⟨hne, _⟩
  · cases huses
    exact hkept.slidingWindow now
  · intro k e he
    have hsame : command.execute now counters (windowKey globalKeyPrefix k) =
        counters (windowKey globalKeyPrefix k) := execute_ne (hne k)
    exact hkept k e (hsame ▸ he)

theorem stored_execute (hw : 0 < windowSecs) (huses : command.Uses windowSecs)
    (hkept : WindowsKept windowSecs globalKeyPrefix counters) (now k : ℕ) :
    stored (command.execute now counters) (RedisKey.globalWindow k).render =
      stored counters (RedisKey.globalWindow k).render + command.globalCalls now k := by
  rcases command.global_cases now with ⟨secs, rfl⟩ | ⟨hne, hnone⟩
  · cases huses
    have hstored := stored_slidingWindow hw hkept now k
    simp only [globalCalls]
    exact_mod_cast hstored
  · rw [hnone k, stored_congr (execute_ne (hne k))]
    simp

end CounterCommand

def DataPlane.windowSecs (plane : DataPlane) : ℕ :=
  plane.evaluator.elim 1 RateLimitEvaluator.windowSecs

section Windows

variable {plane : DataPlane}

theorem windowSecs_eq {evaluator : RateLimitEvaluator} (h : plane.evaluator = some evaluator) :
    evaluator.windowSecs = plane.windowSecs := by
  rw [DataPlane.windowSecs, h, Option.elim_some]

theorem EvaluateCall.uses_command {call : EvaluateCall} {windowSecs : ℕ}
    {command : CounterCommand} (h : call.command windowSecs = some command) :
    command.Uses windowSecs ∧
      ∀ now, (command.key now).account = none ∨ (command.key now).account = some call.saId := by
  unfold EvaluateCall.command at h
  cases hphase : call.phase <;> rw [hphase] at h <;> cases h
  · exact ⟨rfl, fun _ ↦ Or.inr rfl⟩
  · exact ⟨rfl, fun _ ↦ Or.inl rfl⟩
  · exact ⟨rfl, fun _ ↦ Or.inr rfl⟩

theorem DataPhase.Configured.uses {phase : DataPhase} {command : CounterCommand}
    (h : phase.Configured plane) (hcommand : command ∈ phase.command) :
    command.Uses plane.windowSecs := by
  cases phase with
  | evaluating evaluator evaluated call =>
      exact windowSecs_eq h ▸ (EvaluateCall.uses_command hcommand).1
  | acquiring _ _ _ | releasing _ _ | releaseTask _ =>
      cases hcommand
      trivial
  | received | lookingUp _ _ | findingAccount _ _ | recording _ | policy _ _ _ | handling _ _ _
  | answered _ | dropped => cases hcommand

end Windows

/-! ## Counters that one account cannot tell apart -/

/-- The counters of the account alone, next to all of them: those of the account are the same,
and less is counted globally. -/
structure CountersAlike (windowSecs : ℕ) (saId : ServiceAccountId)
    (alone full : Store String ℤ) : Prop where
  account : ∀ key : RedisKey, key.account = some saId → alone key.render = full key.render
  aloneKept : WindowsKept windowSecs globalKeyPrefix alone
  fullKept : WindowsKept windowSecs globalKeyPrefix full
  nonneg : ∀ k, 0 ≤ stored alone (RedisKey.globalWindow k).render
  fewer : ∀ k, stored alone (RedisKey.globalWindow k).render ≤
    stored full (RedisKey.globalWindow k).render

section CountersAlike

variable {windowSecs : ℕ} {saId : ServiceAccountId} {alone full : Store String ℤ}
  {command : CounterCommand}

theorem CountersAlike.execute_both (h : CountersAlike windowSecs saId alone full)
    (hw : 0 < windowSecs) (huses : command.Uses windowSecs) (now : ℕ) :
    CountersAlike windowSecs saId (command.execute now alone) (command.execute now full) where
  account key hkey := by
    by_cases hk : key = command.key now
    · rw [hk]
      exact CounterCommand.execute_congr (hk ▸ h.account key hkey)
    · exact (CounterCommand.execute_ne hk).trans
        ((h.account key hkey).trans (CounterCommand.execute_ne hk).symm)
  aloneKept := CounterCommand.kept_execute huses h.aloneKept now
  fullKept := CounterCommand.kept_execute huses h.fullKept now
  nonneg k := by
    rw [CounterCommand.stored_execute hw huses h.aloneKept]
    have hnonneg := h.nonneg k
    omega
  fewer k := by
    rw [CounterCommand.stored_execute hw huses h.aloneKept,
      CounterCommand.stored_execute hw huses h.fullKept]
    have hfewer := h.fewer k
    omega

theorem CountersAlike.execute_full (h : CountersAlike windowSecs saId alone full)
    (hw : 0 < windowSecs) (huses : command.Uses windowSecs) {now : ℕ}
    (hother : (command.key now).account ≠ some saId) :
    CountersAlike windowSecs saId alone (command.execute now full) where
  account key hkey := by
    have hk : key ≠ command.key now := by
      rintro rfl
      exact hother hkey
    exact (h.account key hkey).trans (CounterCommand.execute_ne hk).symm
  aloneKept := h.aloneKept
  fullKept := CounterCommand.kept_execute huses h.fullKept now
  nonneg := h.nonneg
  fewer k := by
    rw [CounterCommand.stored_execute hw huses h.fullKept]
    have hfewer := h.fewer k
    omega

theorem CountersAlike.effect_both (h : CountersAlike windowSecs saId alone full)
    (hw : 0 < windowSecs) (huses : command.Uses windowSecs) (redis : RedisConnection) (now : ℕ) :
    CountersAlike windowSecs saId (redis.effect alone (command.execute now alone))
      (redis.effect full (command.execute now full)) := by
  match redis with
  | .failing false => exact h
  | .failing true | .working => exact h.execute_both hw huses now

theorem CountersAlike.effect_full (h : CountersAlike windowSecs saId alone full)
    (hw : 0 < windowSecs) (huses : command.Uses windowSecs) (redis : RedisConnection) {now : ℕ}
    (hother : (command.key now).account ≠ some saId) :
    CountersAlike windowSecs saId alone (redis.effect full (command.execute now full)) := by
  match redis with
  | .failing false => exact h
  | .failing true | .working => exact h.execute_full hw huses hother

end CountersAlike

/-! ## The global limit -/

theorem overlapping_mono (windowSecs nowSecs : ℕ) {previous previous' : ℕ}
    (h : previous' ≤ previous) :
    overlapping windowSecs previous' nowSecs ≤ overlapping windowSecs previous nowSecs := by
  refine Int.ceil_mono ?_
  have hmul : previous' * (windowSecs - nowSecs % windowSecs) ≤
      previous * (windowSecs - nowSecs % windowSecs) := Nat.mul_le_mul_right _ h
  gcongr

/-- A check that counts less is not stricter. -/
theorem buildCheckResult_allowed_mono {windowSecs : ℕ} (hw : 0 < windowSecs)
    {current current' previous previous' : ℕ} (hcurrent : current' ≤ current)
    (hprevious : previous' ≤ previous) {nowSecs limit : ℕ}
    (h : (buildCheckResult current previous nowSecs windowSecs limit).allowed = true) :
    (buildCheckResult current' previous' nowSecs windowSecs limit).allowed = true := by
  rw [buildCheckResult_allowed, ceil_weightedCount hw] at h ⊢
  have hoverlapping := overlapping_mono windowSecs nowSecs hprevious
  exact (asU32_mono (by omega)).trans h

theorem CountersAlike.globalCheck {windowSecs : ℕ} {saId : ServiceAccountId}
    {alone full : Store String ℤ} (conv : ReplyConversion)
    (h : CountersAlike windowSecs saId alone full) (hw : 0 < windowSecs) (now globalRpm : ℕ) :
    ∃ result result',
      (checkAndIncrement conv windowSecs .working full now globalKeyPrefix globalRpm).1 =
        .ok result ∧
      (checkAndIncrement conv windowSecs .working alone now globalKeyPrefix globalRpm).1 =
        .ok result' ∧ (result.allowed = true → result'.allowed = true) := by
  have huses : CounterCommand.Uses windowSecs (.check .global windowSecs) := rfl
  have hboth := h.execute_both hw huses now
  have hcurrent : stored alone (windowKey globalKeyPrefix (windowOf windowSecs now)) ≤
      stored full (windowKey globalKeyPrefix (windowOf windowSecs now)) := h.fewer _
  have hcurrent' : 0 ≤ stored alone (windowKey globalKeyPrefix (windowOf windowSecs now)) :=
    h.nonneg _
  have hprevious : stored (slidingWindow windowSecs alone now globalKeyPrefix).2
      (windowKey globalKeyPrefix (windowOf windowSecs now - 1)) ≤
      stored (slidingWindow windowSecs full now globalKeyPrefix).2
        (windowKey globalKeyPrefix (windowOf windowSecs now - 1)) := hboth.fewer _
  have hprevious' : 0 ≤ stored (slidingWindow windowSecs alone now globalKeyPrefix).2
      (windowKey globalKeyPrefix (windowOf windowSecs now - 1)) := hboth.nonneg _
  rw [checkAndIncrement_working, checkAndIncrement_working, slidingWindow_fst hw h.fullKept,
    slidingWindow_fst hw h.aloneKept, conv.read_nonneg (by omega) (by omega),
    conv.read_nonneg (by omega) (by omega)]
  exact ⟨_, _, rfl, rfl, buildCheckResult_allowed_mono hw (by omega) (by omega)⟩

/-! ## Answers -/

theorem checkAndIncrement_congr {conv : ReplyConversion} {windowSecs : ℕ} {keyPrefix : String}
    {counters counters' : Store String ℤ}
    (h : ∀ k, counters' (windowKey keyPrefix k) = counters (windowKey keyPrefix k))
    (redis : RedisConnection) (now limit : ℕ) :
    (checkAndIncrement conv windowSecs redis counters' now keyPrefix limit).1 =
      (checkAndIncrement conv windowSecs redis counters now keyPrefix limit).1 := by
  match redis with
  | .failing _ => rfl
  | .working =>
      obtain ⟨hcurrent, hentry⟩ := incrBy_congr (h (windowOf windowSecs now)) now 1
      have hrefreshed := expire_congr hentry now (1000 * (windowSecs * 2))
      have hprevious : count (slidingWindow windowSecs counters' now keyPrefix).2 now
          (windowKey keyPrefix (windowOf windowSecs now - 1)) =
          count (slidingWindow windowSecs counters now keyPrefix).2 now
            (windowKey keyPrefix (windowOf windowSecs now - 1)) := by
        refine count_congr ?_ now
        by_cases hk : windowKey keyPrefix (windowOf windowSecs now - 1) =
            windowKey keyPrefix (windowOf windowSecs now)
        · rw [hk]
          exact hrefreshed
        · rw [slidingWindow_ne counters' hk, slidingWindow_ne counters hk, h]
      have hcounts : (slidingWindow windowSecs counters' now keyPrefix).1 =
          (slidingWindow windowSecs counters now keyPrefix).1 := Prod.ext hcurrent hprevious
      rw [checkAndIncrement_working, checkAndIncrement_working, hcounts]

theorem acquire_congr {counters counters' : Store String ℤ} {saId : ServiceAccountId}
    (h : counters' (concurrencyKey saId) = counters (concurrencyKey saId))
    (redis : RedisConnection) (now limit : ℕ) :
    (acquire redis counters' now saId limit).1 = (acquire redis counters now saId limit).1 := by
  match redis with
  | .failing _ => rfl
  | .working =>
      have hcount : count counters' now (concurrencyKey saId) =
          count counters now (concurrencyKey saId) := count_congr h now
      rcases lt_or_ge (count counters now (concurrencyKey saId)) limit with hlt | hge
      · simp only [acquire, luaConcurrencyAcquire_below hlt,
          luaConcurrencyAcquire_below (hcount ▸ hlt), if_true]
      · simp only [acquire, luaConcurrencyAcquire_above hge,
          luaConcurrencyAcquire_above (hcount ▸ hge), Bool.false_eq_true, if_false]

end SmartGate
