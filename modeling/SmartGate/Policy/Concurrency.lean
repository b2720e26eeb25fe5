import SmartGate.Lib.ExpiringStore
import SmartGate.Lib.Transition
import SmartGate.Storage.Redis

/-!
# The concurrency limiter

Every service account has a counter in Redis.  `acquire` increments it with a Lua
script, which also gives the key a fresh time to live of 120 seconds and takes the
increment back when the limit is exceeded.  A permit is given back by a `DECR`, which
the permit's owner or, after a drop, a spawned task executes some time later.
-/

namespace SmartGate

open ExpiringStore Transition

/-! ## The script -/

def concurrencyKeyTtlSecs : ℕ := 120

/-- `LUA_CONCURRENCY_ACQUIRE`: whether a slot was granted, and the value that the
increment produced. -/
def luaConcurrencyAcquire (store : Store String ℤ) (now : ℕ) (key : String) (limit : ℕ) :
    (Bool × ℤ) × Store String ℤ :=
  let incremented := incrBy store now key 1
  let current := incremented.1
  let refreshed := expire incremented.2 now key (1000 * concurrencyKeyTtlSecs)
  if (limit : ℤ) < current then ((false, current), (incrBy refreshed now key (-1)).2)
  else ((true, current), refreshed)

def decrPermit (store : Store String ℤ) (now : ℕ) (key : String) : Store String ℤ :=
  (incrBy store now key (-1)).2

def refreshed (store : Store String ℤ) (now : ℕ) (key : String) : Store String ℤ :=
  expire (incrBy store now key 1).2 now key (1000 * concurrencyKeyTtlSecs)

theorem luaConcurrencyAcquire_below {store : Store String ℤ} {now : ℕ} {key : String} {limit : ℕ}
    (h : count store now key < limit) : luaConcurrencyAcquire store now key limit =
      ((true, count store now key + 1), refreshed store now key) := by
  have hle : ¬(limit : ℤ) < count store now key + 1 := by omega
  simp only [luaConcurrencyAcquire, incrBy_fst, if_neg hle, refreshed]

theorem luaConcurrencyAcquire_above {store : Store String ℤ} {now : ℕ} {key : String} {limit : ℕ}
    (h : limit ≤ count store now key) : luaConcurrencyAcquire store now key limit =
      ((false, count store now key + 1), decrPermit (refreshed store now key) now key) := by
  have hlt : (limit : ℤ) < count store now key + 1 := by omega
  simp only [luaConcurrencyAcquire, incrBy_fst, if_pos hlt, refreshed, decrPermit]

theorem count_refreshed (store : Store String ℤ) (now : ℕ) (key : String) :
    count (refreshed store now key) now key = count store now key + 1 :=
  count_eq_of_lookup (lookup_expire (lookup_incrBy store now key 1) (by decide))

theorem refreshed_ne (store : Store String ℤ) (now : ℕ) {key key' : String} (h : key' ≠ key) :
    refreshed store now key key' = store key' :=
  (expire_ne _ now h _).trans (incrBy_ne store now h 1)

theorem decrPermit_ne (store : Store String ℤ) (now : ℕ) {key key' : String} (h : key' ≠ key) :
    decrPermit store now key key' = store key' := incrBy_ne store now h (-1)

theorem count_decrPermit (store : Store String ℤ) (now : ℕ) (key : String) :
    count (decrPermit store now key) now key = count store now key - 1 :=
  count_incrBy store now key (-1)

theorem luaConcurrencyAcquire_ne (store : Store String ℤ) (now : ℕ) {key key' : String}
    (h : key' ≠ key) (limit : ℕ) :
    (luaConcurrencyAcquire store now key limit).2 key' = store key' := by
  rcases lt_or_ge (count store now key) limit with hlt | hge
  · rw [luaConcurrencyAcquire_below hlt]
    exact refreshed_ne store now h
  · rw [luaConcurrencyAcquire_above hge]
    exact (decrPermit_ne _ now h).trans (refreshed_ne store now h)

theorem le_count_luaConcurrencyAcquire (store : Store String ℤ) (now : ℕ) (key : String)
    (limit : ℕ) :
    count store now key ≤ count (luaConcurrencyAcquire store now key limit).2 now key := by
  rcases lt_or_ge (count store now key) limit with hlt | hge
  · rw [luaConcurrencyAcquire_below hlt, count_refreshed]
    omega
  · rw [luaConcurrencyAcquire_above hge, count_decrPermit, count_refreshed]
    omega

/-- A command on the counter of one account changes no other counter. -/
theorem count_other {store store' : Store String ℤ} {a b : ServiceAccountId} (hab : b ≠ a)
    (h : ∀ {key}, key ≠ concurrencyKey a → store' key = store key) (now : ℕ) :
    count store' now (concurrencyKey b) = count store now (concurrencyKey b) :=
  count_congr (h fun heq ↦ hab (concurrencyKey_injective heq)) now

/-! ## Acquiring a permit -/

structure ConcurrencyPermit where
  key : String
  deriving DecidableEq

def limiterUnavailable : GatewayError :=
  .config "concurrency_limiter_unavailable" "concurrency limiter temporarily unavailable"

def concurrencyExceeded (limit : ℕ) : GatewayError :=
  .rateLimit "concurrency_limit_exceeded" s!"concurrent request limit ({limit}) exceeded" (some 1)

def acquire (redis : RedisConnection) (store : Store String ℤ) (now : ℕ)
    (saId : ServiceAccountId) (limit : ℕ) :
    Except GatewayError ConcurrencyPermit × Store String ℤ :=
  let key := concurrencyKey saId
  let script := luaConcurrencyAcquire store now key limit
  match redis with
  | .failing executed =>
      (.error limiterUnavailable, if executed then script.2 else store)
  | .working =>
      if script.1.1 then (.ok ⟨key⟩, script.2)
      else (.error (concurrencyExceeded limit), script.2)

/-- What one call of `acquire` can do: grant a permit below the limit and count it,
or leave the counter as it is, or fail with a slot counted that nobody holds. -/
theorem acquire_cases (redis : RedisConnection) (store : Store String ℤ) (now : ℕ)
    (saId : ServiceAccountId) (limit : ℕ) :
    ((acquire redis store now saId limit).1 = .ok ⟨concurrencyKey saId⟩ ∧
        count store now (concurrencyKey saId) < limit ∧
        count (acquire redis store now saId limit).2 now (concurrencyKey saId) =
          count store now (concurrencyKey saId) + 1) ∨
      (∃ e, (acquire redis store now saId limit).1 = .error e) ∧
        count store now (concurrencyKey saId) ≤
          count (acquire redis store now saId limit).2 now (concurrencyKey saId) := by
  have hle := le_count_luaConcurrencyAcquire store now (concurrencyKey saId) limit
  cases redis with
  | failing executed =>
      refine Or.inr ⟨⟨_, rfl⟩, ?_⟩
      cases executed
      · exact le_rfl
      · exact hle
  | working =>
      rcases lt_or_ge (count store now (concurrencyKey saId)) limit with hlt | hge
      · left
        simp only [acquire, luaConcurrencyAcquire_below hlt, if_true]
        exact ⟨trivial, hlt, count_refreshed store now (concurrencyKey saId)⟩
      · right
        rw [luaConcurrencyAcquire_above hge] at hle
        simp only [acquire, luaConcurrencyAcquire_above hge]
        exact ⟨⟨_, rfl⟩, hle⟩

theorem acquire_ne (redis : RedisConnection) (store : Store String ℤ) (now : ℕ)
    (saId : ServiceAccountId) (limit : ℕ) {key : String} (h : key ≠ concurrencyKey saId) :
    (acquire redis store now saId limit).2 key = store key := by
  have hscript := luaConcurrencyAcquire_ne store now h limit
  cases redis with
  | failing executed => cases executed <;> simp [acquire, hscript]
  | working =>
      simp only [acquire]
      split_ifs <;> exact hscript

/-! ## Permits over time -/

/-- The counters, the clock, the live permits and those whose `DECR` is still to be
executed; a permit is represented by the account it belongs to. -/
structure LimiterState where
  store : Store String ℤ
  clock : ℕ
  live : List ServiceAccountId
  pending : List ServiceAccountId

inductive LimiterStep where
  | acquire (redis : RedisConnection) (saId : ServiceAccountId)
  /-- A permit is released or dropped; its `DECR` is issued but not executed yet. -/
  | giveBack (saId : ServiceAccountId)
  | decr (saId : ServiceAccountId)
  /-- An issued `DECR` fails without any effect. -/
  | loseDecr (saId : ServiceAccountId)
  | tick (ms : ℕ)
  deriving DecidableEq

def limiterStep (limit : ServiceAccountId → ℕ) (s : LimiterState) :
    LimiterStep → Option LimiterState
  | .acquire redis saId =>
      let answer := acquire redis s.store s.clock saId (limit saId)
      some { s with
        store := answer.2
        live := match answer.1 with
          | .ok _ => saId :: s.live
          | .error _ => s.live }
  | .giveBack saId =>
      if saId ∈ s.live then
        some { s with live := s.live.erase saId, pending := saId :: s.pending }
      else none
  | .decr saId =>
      if saId ∈ s.pending then
        some { s with
          store := decrPermit s.store s.clock (concurrencyKey saId)
          pending := s.pending.erase saId }
      else none
  | .loseDecr saId =>
      if saId ∈ s.pending then some { s with pending := s.pending.erase saId } else none
  | .tick ms => some { s with clock := s.clock + ms }

def LimiterState.outstanding (s : LimiterState) (saId : ServiceAccountId) : ℕ :=
  s.live.count saId + s.pending.count saId

def LimiterState.counter (s : LimiterState) (saId : ServiceAccountId) : ℤ :=
  count s.store s.clock (concurrencyKey saId)

/-- Time does not reach the end of life of a counter while permits of its account are
outstanding. -/
def KeysOutlivePermits (s : LimiterState) : LimiterStep → Prop
  | .tick ms => ∀ saId, 0 < s.outstanding saId →
      ∀ e, s.store (concurrencyKey saId) = some e → e.live (s.clock + ms) = true
  | _ => True

def LimiterState.Fresh (s : LimiterState) : Prop :=
  s.live = [] ∧ s.pending = [] ∧ ∀ saId, s.store (concurrencyKey saId) = none

/-- The counter covers the outstanding permits, and these respect the limit. -/
structure LimiterState.Bounded (limit : ServiceAccountId → ℕ) (s : LimiterState) : Prop where
  covered : ∀ saId, (s.outstanding saId : ℤ) ≤ s.counter saId
  within : ∀ saId, s.outstanding saId ≤ limit saId

theorem LimiterState.Fresh.bounded (limit : ServiceAccountId → ℕ) {s : LimiterState}
    (h : s.Fresh) : s.Bounded limit := by
  obtain ⟨hlive, hpending, hstore⟩ := h
  have hzero : ∀ saId, s.outstanding saId = 0 := fun saId ↦ by
    simp [LimiterState.outstanding, hlive, hpending]
  refine ⟨fun saId ↦ ?_, fun saId ↦ by simp [hzero saId]⟩
  have hcounter : s.counter saId = 0 := by
    refine count_eq_zero_of_lookup (lookup_eq_none.mpr fun e he ↦ ?_)
    rw [hstore saId] at he
    cases he
  simp [hzero saId, hcounter]

/-- What a step does to the account it concerns: it grants a permit below the limit,
or it gives back no more on the counter than it takes from the outstanding permits. -/
def LimiterEffect (limit : ServiceAccountId → ℕ) (s t : LimiterState) (a : ServiceAccountId) :
    Prop :=
  (s.counter a < limit a ∧ t.outstanding a = s.outstanding a + 1 ∧
      t.counter a = s.counter a + 1) ∨
    (t.outstanding a ≤ s.outstanding a ∧
      (t.outstanding a : ℤ) + s.counter a ≤ t.counter a + s.outstanding a)

def SameAccount (s t : LimiterState) (b : ServiceAccountId) : Prop :=
  t.outstanding b = s.outstanding b ∧ t.counter b = s.counter b

theorem acquire_effect {limit : ServiceAccountId → ℕ} {s t : LimiterState}
    {redis : RedisConnection} {a : ServiceAccountId}
    (hstep : limiterStep limit s (.acquire redis a) = some t) :
    LimiterEffect limit s t a ∧ ∀ b ≠ a, SameAccount s t b := by
  simp only [limiterStep, Option.some.injEq] at hstep
  subst hstep
  have hother : ∀ b ≠ a, count (acquire redis s.store s.clock a (limit a)).2 s.clock
      (concurrencyKey b) = s.counter b := fun b hb ↦
    count_other hb (acquire_ne redis s.store s.clock a (limit a)) s.clock
  rcases acquire_cases redis s.store s.clock a (limit a) with ⟨hok, hlt, hcount⟩ |
    ⟨⟨e, herr⟩, hle⟩
  · simp only [hok]
    refine ⟨Or.inl ⟨hlt, ?_, hcount⟩, fun b hb ↦ ⟨?_, hother b hb⟩⟩
    · simp only [LimiterState.outstanding, List.count_cons_self]
      omega
    · simp [LimiterState.outstanding, List.count_cons_of_ne hb.symm]
  · simp only [herr]
    refine ⟨Or.inr ⟨le_rfl, ?_⟩, fun b hb ↦ ⟨rfl, hother b hb⟩⟩
    have hle' : s.counter a ≤ LimiterState.counter { s with
      store := (acquire redis s.store s.clock a (limit a)).2 } a := hle
    simp only [LimiterState.outstanding, LimiterState.counter] at hle' ⊢
    omega

theorem giveBack_effect {limit : ServiceAccountId → ℕ} {s t : LimiterState}
    {a : ServiceAccountId} (hstep : limiterStep limit s (.giveBack a) = some t) :
    LimiterEffect limit s t a ∧ ∀ b ≠ a, SameAccount s t b := by
  simp only [limiterStep, Option.ite_none_right_eq_some, Option.some.injEq] at hstep
  obtain ⟨hmem, rfl⟩ := hstep
  have hpos : 0 < s.live.count a := List.count_pos_iff.mpr hmem
  refine ⟨Or.inr ⟨?_, ?_⟩, fun b hb ↦ ⟨?_, rfl⟩⟩
  · simp only [LimiterState.outstanding, List.count_erase_self, List.count_cons_self]
    omega
  · simp only [LimiterState.outstanding, LimiterState.counter, List.count_erase_self,
      List.count_cons_self]
    omega
  · simp [LimiterState.outstanding, List.count_erase_of_ne hb, List.count_cons_of_ne hb.symm]

theorem decr_effect {limit : ServiceAccountId → ℕ} {s t : LimiterState} {a : ServiceAccountId}
    (hstep : limiterStep limit s (.decr a) = some t) :
    LimiterEffect limit s t a ∧ ∀ b ≠ a, SameAccount s t b := by
  simp only [limiterStep, Option.ite_none_right_eq_some, Option.some.injEq] at hstep
  obtain ⟨hmem, rfl⟩ := hstep
  have hpos : 0 < s.pending.count a := List.count_pos_iff.mpr hmem
  have hcount := count_decrPermit s.store s.clock (concurrencyKey a)
  refine ⟨Or.inr ⟨?_, ?_⟩, fun b hb ↦ ⟨?_, ?_⟩⟩
  · simp only [LimiterState.outstanding, List.count_erase_self]
    omega
  · simp only [LimiterState.outstanding, LimiterState.counter, List.count_erase_self]
    omega
  · simp [LimiterState.outstanding, List.count_erase_of_ne hb]
  · exact count_other hb (decrPermit_ne s.store s.clock) s.clock

theorem loseDecr_effect {limit : ServiceAccountId → ℕ} {s t : LimiterState}
    {a : ServiceAccountId} (hstep : limiterStep limit s (.loseDecr a) = some t) :
    LimiterEffect limit s t a ∧ ∀ b ≠ a, SameAccount s t b := by
  simp only [limiterStep, Option.ite_none_right_eq_some, Option.some.injEq] at hstep
  obtain ⟨hmem, rfl⟩ := hstep
  refine ⟨Or.inr ⟨?_, ?_⟩, fun b hb ↦ ⟨?_, rfl⟩⟩
  · simp only [LimiterState.outstanding, List.count_erase_self]
    omega
  · simp only [LimiterState.outstanding, LimiterState.counter, List.count_erase_self]
    omega
  · simp [LimiterState.outstanding, List.count_erase_of_ne hb]

theorem LimiterState.Bounded.of_effect {limit : ServiceAccountId → ℕ} {s t : LimiterState}
    (h : s.Bounded limit) {a : ServiceAccountId}
    (heffect : LimiterEffect limit s t a ∧ ∀ b ≠ a, SameAccount s t b) : t.Bounded limit := by
  obtain ⟨heff, hother⟩ := heffect
  have hcov := h.covered a
  have hwithin := h.within a
  refine ⟨fun b ↦ ?_, fun b ↦ ?_⟩
  · by_cases hb : b = a
    · subst hb
      rcases heff with ⟨_, hout, hcount⟩ | ⟨_, hsum⟩ <;> omega
    · obtain ⟨hout, hcount⟩ := hother b hb
      rw [hout, hcount]
      exact h.covered b
  · by_cases hb : b = a
    · subst hb
      rcases heff with ⟨hlt, hout, _⟩ | ⟨hle, _⟩ <;> omega
    · rw [(hother b hb).1]
      exact h.within b

/-- A counter whose account has outstanding permits survives the tick, and the others
are allowed to disappear. -/
theorem LimiterState.Bounded.tick {limit : ServiceAccountId → ℕ} {s t : LimiterState}
    (h : s.Bounded limit) {ms : ℕ} (hguard : KeysOutlivePermits s (.tick ms))
    (hstep : limiterStep limit s (.tick ms) = some t) : t.Bounded limit := by
  simp only [limiterStep, Option.some.injEq] at hstep
  subst hstep
  refine ⟨fun a ↦ ?_, h.within⟩
  have hcov := h.covered a
  rcases count_later s.store (Nat.le_add_right s.clock ms) (concurrencyKey a) with
    hsame | ⟨hzero, e, he, hdead⟩
  · exact hcov.trans (le_of_eq hsame.symm)
  · have hnone : s.outstanding a = 0 := by
      by_contra hpos
      have hlive := hguard a (Nat.pos_of_ne_zero hpos) e he
      rw [hdead] at hlive
      cases hlive
    have hout : LimiterState.outstanding { s with clock := s.clock + ms } a = 0 := hnone
    rw [hout]
    exact le_of_eq hzero.symm

theorem LimiterState.Bounded.step (limit : ServiceAccountId → ℕ) (s : LimiterState)
    (l : LimiterStep) (t : LimiterState) (h : s.Bounded limit) (hguard : KeysOutlivePermits s l)
    (hstep : limiterStep limit s l = some t) : t.Bounded limit := by
  cases l with
  | acquire redis a => exact h.of_effect (acquire_effect hstep)
  | giveBack a => exact h.of_effect (giveBack_effect hstep)
  | decr a => exact h.of_effect (decr_effect hstep)
  | loseDecr a => exact h.of_effect (loseDecr_effect hstep)
  | tick ms => exact h.tick hguard hstep

/-- The live permits of every account stay within its limit, in every run in which no
counter reaches the end of its life while permits of its account are outstanding. -/
theorem live_permits_le_limit (limit : ServiceAccountId → ℕ) {s u : LimiterState}
    {ls : List LimiterStep} (hs : s.Fresh)
    (hguard : Guarded (limiterStep limit) KeysOutlivePermits s ls)
    (hrun : run (limiterStep limit) s ls = some u) (saId : ServiceAccountId) :
    u.live.count saId ≤ limit saId := by
  have hbounded := run_invariant (LimiterState.Bounded.step limit) hguard hrun (hs.bounded limit)
  exact (Nat.le_add_right _ _).trans (hbounded.within saId)

/-- Below the limit every attempt is granted. -/
theorem run_acquire {limit : ServiceAccountId → ℕ} {a : ServiceAccountId} (n : ℕ)
    {s : LimiterState} (h : s.counter a + n ≤ limit a) :
    ∃ u, run (limiterStep limit) s (List.replicate n (.acquire .working a)) = some u ∧
      u.live.count a = s.live.count a + n := by
  induction n generalizing s with
  | zero => exact ⟨s, rfl, rfl⟩
  | succ n ih =>
      push_cast at h
      have hbelow : count s.store s.clock (concurrencyKey a) < (limit a : ℤ) := by
        rw [LimiterState.counter] at h
        omega
      have hgranted : acquire .working s.store s.clock a (limit a) =
          (.ok ⟨concurrencyKey a⟩, refreshed s.store s.clock (concurrencyKey a)) := by
        simp only [acquire, luaConcurrencyAcquire_below hbelow, if_true]
      obtain ⟨u, hrun, hlive⟩ := @ih { s with
          store := refreshed s.store s.clock (concurrencyKey a)
          live := a :: s.live } <| by
        have hcounter := count_refreshed s.store s.clock (concurrencyKey a)
        simp only [LimiterState.counter] at h hcounter ⊢
        omega
      refine ⟨u, run_cons_eq_some.mpr ⟨_, ?_, hrun⟩, ?_⟩
      · simp only [limiterStep, hgranted]
      · rw [hlive, List.count_cons_self]
        omega

/-- The condition is sharp: time that it does not admit can be followed by attempts that
exceed the limit, whatever the state before. -/
theorem limit_exceeded_of_expiry {limit : ServiceAccountId → ℕ} {s : LimiterState} {ms : ℕ}
    (h : ¬KeysOutlivePermits s (.tick ms)) :
    ∃ ls u, run (limiterStep limit) s (.tick ms :: ls) = some u ∧
      ∃ saId, limit saId < u.live.count saId := by
  simp only [KeysOutlivePermits, not_forall] at h
  obtain ⟨a, hout, e, he, hdead⟩ := h
  have hzero : count s.store (s.clock + ms) (concurrencyKey a) = 0 := by
    refine count_eq_zero_of_lookup (lookup_eq_none.mpr fun e' he' ↦ ?_)
    cases he.symm.trans he'
    exact Bool.eq_false_of_not_eq_true hdead
  rcases Nat.eq_zero_or_pos (s.live.count a) with hnone | hlive
  · -- a `DECR` that comes after the end of the counter makes room for one permit too many
    have hmem : a ∈ s.pending := by
      rw [LimiterState.outstanding, hnone, Nat.zero_add] at hout
      exact List.count_pos_iff.mp hout
    obtain ⟨u, hrun, hcount⟩ := @run_acquire limit a (limit a + 1) ⟨decrPermit s.store
        (s.clock + ms) (concurrencyKey a), s.clock + ms, s.live, s.pending.erase a⟩ <| by
      rw [LimiterState.counter, count_decrPermit, hzero]
      push_cast
      omega
    refine ⟨.decr a :: List.replicate (limit a + 1) (.acquire .working a), u, ?_, a, by omega⟩
    refine run_cons_eq_some.mpr ⟨_, rfl, run_cons_eq_some.mpr ⟨_, ?_, hrun⟩⟩
    simp only [limiterStep, if_pos hmem]
  · obtain ⟨u, hrun, hcount⟩ := @run_acquire limit a (limit a)
        { s with clock := s.clock + ms } (by rw [LimiterState.counter, hzero, zero_add])
    refine ⟨List.replicate (limit a) (.acquire .working a), u,
      run_cons_eq_some.mpr ⟨_, rfl, hrun⟩, a, ?_⟩
    rw [hcount]
    exact Nat.lt_add_of_pos_left hlive

def LimiterState.initial : LimiterState := ⟨empty, 0, [], []⟩

/-- A permit held for two minutes while the account is idle: the counter expires and a
second permit is granted under a limit of one. -/
theorem idle_account_exceeds_limit :
    ∃ u, run (limiterStep fun _ ↦ 1) .initial
        [.acquire .working ⟨⟨1⟩⟩, .tick 120000, .acquire .working ⟨⟨1⟩⟩] = some u ∧
      ¬u.live.count ⟨⟨1⟩⟩ ≤ 1 := by
  have hrun : (run (limiterStep fun _ ↦ 1) .initial
      [.acquire .working ⟨⟨1⟩⟩, .tick 120000, .acquire .working ⟨⟨1⟩⟩]).map LimiterState.live =
      some [⟨⟨1⟩⟩, ⟨⟨1⟩⟩] := by
    decide +kernel
  obtain ⟨u, hu, hlive⟩ := Option.map_eq_some_iff.mp hrun
  exact ⟨u, hu, by rw [hlive]; decide⟩

theorem live_permits_le_limit_busy :
    ∃ u, run (limiterStep fun _ ↦ 1) .initial
        [.acquire .working ⟨⟨1⟩⟩, .tick 119999, .acquire .working ⟨⟨1⟩⟩] = some u ∧
      u.live.length = 1 ∧ u.live.count ⟨⟨1⟩⟩ ≤ 1 := by
  have hrun : (run (limiterStep fun _ ↦ 1) .initial
      [.acquire .working ⟨⟨1⟩⟩, .tick 119999, .acquire .working ⟨⟨1⟩⟩]).map LimiterState.live =
      some [⟨⟨1⟩⟩] := by
    decide +kernel
  obtain ⟨u, hu, hlive⟩ := Option.map_eq_some_iff.mp hrun
  refine ⟨u, hu, by rw [hlive]; rfl,
    live_permits_le_limit (fun _ ↦ 1) ⟨rfl, rfl, fun _ ↦ rfl⟩ ?_ hu ⟨⟨1⟩⟩⟩
  refine ⟨trivial, fun t ht ↦ ⟨?_, fun _ _ ↦ ⟨trivial, fun _ _ ↦ trivial⟩⟩⟩
  intro saId hpos e he
  have hpermits : (limiterStep (fun _ ↦ 1) .initial (.acquire .working ⟨⟨1⟩⟩)).map
      (fun t ↦ (t.clock, t.live, t.pending)) = some (0, [⟨⟨1⟩⟩], []) := by decide +kernel
  have hentry : (limiterStep (fun _ ↦ 1) .initial (.acquire .working ⟨⟨1⟩⟩)).map
      (fun t ↦ t.store (concurrencyKey ⟨⟨1⟩⟩)) = some (some ⟨1, some 120000⟩) := by decide +kernel
  rw [ht] at hpermits hentry
  simp only [Option.map_some, Option.some.injEq, Prod.mk.injEq] at hpermits hentry
  obtain ⟨hclock, hlive, hpending⟩ := hpermits
  have hsa : saId = ⟨⟨1⟩⟩ := by
    simpa [LimiterState.outstanding, hlive, hpending] using hpos
  rw [hsa, hentry] at he
  cases he
  rw [hclock]
  decide

end SmartGate
