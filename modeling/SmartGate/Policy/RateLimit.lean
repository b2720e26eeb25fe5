import Mathlib.Algebra.Order.Floor.Ring
import Mathlib.Data.Rat.Floor
import Mathlib.Tactic.FieldSimp
import Mathlib.Tactic.Ring
import SmartGate.Lib.ExpiringStore
import SmartGate.Policy.Engine
import SmartGate.Storage.Redis

/-!
# The sliding-window limiter

A key prefix has one counter per window.  A Lua script increments the counter of the
current window, gives it a time to live of two windows, and reads the counter of the
previous window.  The decision compares the limit with the current count plus the
part of the previous count that still overlaps.  The weight is computed with exact
rational numbers where the source uses `f64`.  How the client of Redis reads the reply of the
script is not part of the source, and is a parameter.  Redis time is in milliseconds, window
arithmetic in seconds.
-/

namespace SmartGate

open ExpiringStore

/-! ## The decision -/

structure WindowCheckResult where
  allowed : Bool
  limit : ℕ
  remaining : ℕ
  resetAt : ℕ
  deriving DecidableEq

/-- Rational numbers stand for the `f64` of the source, so that nothing is rounded. -/
def weightedCount (currentCount previousCount elapsedSecs windowSecs : ℕ) : ℚ :=
  if windowSecs = 0 then currentCount
  else previousCount * (1 - elapsedSecs / windowSecs) + currentCount

/-- The saturating cast `as u32`. -/
def asU32 (n : ℤ) : ℕ := min n.toNat (2 ^ 32 - 1)

def buildCheckResult (currentCount previousCount nowSecs windowSecs limit : ℕ) :
    WindowCheckResult :=
  let elapsed := nowSecs % windowSecs
  let count := asU32 ⌈weightedCount currentCount previousCount elapsed windowSecs⌉
  { allowed := decide (count ≤ limit)
    limit
    remaining := limit - count
    resetAt := (nowSecs / windowSecs + 1) * windowSecs }

/-! ## The script -/

/-- `LUA_SLIDING_WINDOW`: the counts of the current and of the previous window. -/
def luaSlidingWindow (store : Store String ℤ) (now : ℕ) (currentKey prevKey : String) (ttl : ℕ) :
    (ℤ × ℤ) × Store String ℤ :=
  let incremented := incrBy store now currentKey 1
  let refreshed := expire incremented.2 now currentKey (1000 * ttl)
  ((incremented.1, count refreshed now prevKey), refreshed)

/-- The cast `as u64` of an `i64`. -/
def asU64 (n : ℤ) : ℕ := (if n < 0 then 2 ^ 64 + n else n).toNat

theorem asU64_natCast (n : ℕ) : asU64 n = n := by
  rw [asU64, if_neg (Int.natCast_nonneg n).not_gt, Int.toNat_natCast]

/-- How the client of Redis reads the two integers of the reply as `u64`.  What it makes of a
negative number is left open. -/
structure ReplyConversion where
  read : ℤ × ℤ → Except StorageError (ℕ × ℕ)
  read_natCast : ∀ current previous : ℕ, read (current, previous) = .ok (current, previous)

/-- Every number is cast, so that a negative one wraps around. -/
def ReplyConversion.wrapping : ReplyConversion where
  read counts := .ok (asU64 counts.1, asU64 counts.2)
  read_natCast current previous := by rw [asU64_natCast, asU64_natCast]

theorem ReplyConversion.read_nonneg (conv : ReplyConversion) {current previous : ℤ}
    (hcurrent : 0 ≤ current) (hprevious : 0 ≤ previous) :
    conv.read (current, previous) = .ok (current.toNat, previous.toNat) := by
  have hread := conv.read_natCast current.toNat previous.toNat
  rwa [Int.toNat_of_nonneg hcurrent, Int.toNat_of_nonneg hprevious] at hread

/-- `SlidingWindowLimiter::check_and_increment` at the instant `now`. -/
def checkAndIncrement (conv : ReplyConversion) (windowSecs : ℕ) (redis : RedisConnection)
    (store : Store String ℤ) (now : ℕ) (keyPrefix : String) (limit : ℕ) :
    Except StorageError WindowCheckResult × Store String ℤ :=
  let nowSecs := now / 1000
  let currentWindow := nowSecs / windowSecs
  let prevWindow := currentWindow - 1
  let script := luaSlidingWindow store now (windowKey keyPrefix currentWindow)
    (windowKey keyPrefix prevWindow) (windowSecs * 2)
  match redis with
  | .failing executed => (.error (.redis "connection failed"), if executed then script.2 else store)
  | .working =>
      ((conv.read script.1).map fun counts ↦
        buildCheckResult counts.1 counts.2 nowSecs windowSecs limit, script.2)

def windowOf (windowSecs now : ℕ) : ℕ := now / 1000 / windowSecs

theorem lt_end_of_window {windowSecs : ℕ} (hw : 0 < windowSecs) (now : ℕ) :
    now < 1000 * (windowSecs * (windowOf windowSecs now + 1)) := by
  have hsecs : now / 1000 < windowSecs * (windowOf windowSecs now + 1) :=
    Nat.lt_mul_div_succ _ hw
  omega

theorem start_of_window_le (windowSecs now : ℕ) :
    1000 * (windowSecs * windowOf windowSecs now) ≤ now := by
  have hsecs : windowSecs * windowOf windowSecs now ≤ now / 1000 := Nat.mul_div_le _ _
  omega

/-! ## What the script leaves in Redis -/

/-- Every counter of the prefix lives until the end of the window after its own, or
has no end of life. -/
def WindowsKept (windowSecs : ℕ) (keyPrefix : String) (store : Store String ℤ) : Prop :=
  ∀ k e, store (windowKey keyPrefix k) = some e →
    ∀ d ∈ e.deadline, 1000 * (windowSecs * (k + 2)) ≤ d

theorem WindowsKept.live {windowSecs : ℕ} (hw : 0 < windowSecs) {keyPrefix : String}
    {store : Store String ℤ} (h : WindowsKept windowSecs keyPrefix store) {now k : ℕ}
    (hk : windowOf windowSecs now ≤ k + 1) :
    ∀ e, store (windowKey keyPrefix k) = some e → e.live now = true := by
  intro e he
  refine Entry.live_iff.mpr fun d hd ↦ ?_
  have hend := lt_end_of_window hw now
  have hmul : windowSecs * (windowOf windowSecs now + 1) ≤ windowSecs * (k + 2) :=
    Nat.mul_le_mul_left _ (by omega)
  have hkept := h k e he d hd
  omega

/-- In its own window and in the next one, a counter is read as it was written. -/
theorem WindowsKept.count_eq {windowSecs : ℕ} (hw : 0 < windowSecs) {keyPrefix : String}
    {store : Store String ℤ} (h : WindowsKept windowSecs keyPrefix store) {now k : ℕ}
    (hk : windowOf windowSecs now ≤ k + 1) :
    count store now (windowKey keyPrefix k) = stored store (windowKey keyPrefix k) :=
  count_eq_stored (h.live hw hk)

theorem luaSlidingWindow_ne (store : Store String ℤ) (now : ℕ) {currentKey key : String}
    (h : key ≠ currentKey) (prevKey : String) (ttl : ℕ) :
    (luaSlidingWindow store now currentKey prevKey ttl).2 key = store key :=
  (expire_ne _ now h _).trans (incrBy_ne store now h 1)

theorem luaSlidingWindow_same (store : Store String ℤ) (now : ℕ) (currentKey prevKey : String)
    (ttl : ℕ) : (luaSlidingWindow store now currentKey prevKey ttl).2 currentKey =
      some ⟨count store now currentKey + 1, some (now + 1000 * ttl)⟩ :=
  expire_same (1000 * ttl) (lookup_incrBy store now currentKey 1)

/-- The script of `check_and_increment` on the windows of a prefix. -/
def slidingWindow (windowSecs : ℕ) (store : Store String ℤ) (now : ℕ) (keyPrefix : String) :
    (ℤ × ℤ) × Store String ℤ :=
  luaSlidingWindow store now (windowKey keyPrefix (windowOf windowSecs now))
    (windowKey keyPrefix (windowOf windowSecs now - 1)) (windowSecs * 2)

theorem checkAndIncrement_working (conv : ReplyConversion) (windowSecs : ℕ)
    (store : Store String ℤ) (now : ℕ) (keyPrefix : String) (limit : ℕ) :
    checkAndIncrement conv windowSecs .working store now keyPrefix limit =
      ((conv.read (slidingWindow windowSecs store now keyPrefix).1).map fun counts ↦
          buildCheckResult counts.1 counts.2 (now / 1000) windowSecs limit,
        (slidingWindow windowSecs store now keyPrefix).2) := rfl

section Script

variable {windowSecs : ℕ} {keyPrefix : String} {store : Store String ℤ} {now : ℕ}

theorem slidingWindow_ne (store : Store String ℤ) {key : String}
    (h : key ≠ windowKey keyPrefix (windowOf windowSecs now)) :
    (slidingWindow windowSecs store now keyPrefix).2 key = store key :=
  luaSlidingWindow_ne store now h _ _

theorem WindowsKept.slidingWindow (h : WindowsKept windowSecs keyPrefix store) (now : ℕ) :
    WindowsKept windowSecs keyPrefix (slidingWindow windowSecs store now keyPrefix).2 := by
  intro k e he d hd
  by_cases hk : k = windowOf windowSecs now
  · subst hk
    have hsame := luaSlidingWindow_same store now
      (windowKey keyPrefix (windowOf windowSecs now))
      (windowKey keyPrefix (windowOf windowSecs now - 1)) (windowSecs * 2)
    rw [SmartGate.slidingWindow, hsame] at he
    cases he
    cases hd
    have hstart := start_of_window_le windowSecs now
    rw [Nat.mul_add]
    omega
  · have hne : windowKey keyPrefix k ≠ windowKey keyPrefix (windowOf windowSecs now) :=
      fun heq ↦ hk (windowKey_injective heq)
    rw [slidingWindow_ne store hne] at he
    exact h k e he d hd

theorem stored_slidingWindow (hw : 0 < windowSecs) (h : WindowsKept windowSecs keyPrefix store)
    (now k : ℕ) : stored (slidingWindow windowSecs store now keyPrefix).2 (windowKey keyPrefix k) =
      stored store (windowKey keyPrefix k) + if windowOf windowSecs now = k then 1 else 0 := by
  by_cases hk : windowOf windowSecs now = k
  · subst hk
    rw [if_pos rfl, ← h.count_eq hw (Nat.le_succ _), SmartGate.slidingWindow, stored,
      luaSlidingWindow_same]
    rfl
  · have hne : windowKey keyPrefix k ≠ windowKey keyPrefix (windowOf windowSecs now) :=
      fun heq ↦ hk (windowKey_injective heq).symm
    rw [if_neg hk, stored_congr (slidingWindow_ne store hne), add_zero]

theorem slidingWindow_fst (hw : 0 < windowSecs) (h : WindowsKept windowSecs keyPrefix store)
    (now : ℕ) : (slidingWindow windowSecs store now keyPrefix).1 =
      (stored store (windowKey keyPrefix (windowOf windowSecs now)) + 1,
        stored (slidingWindow windowSecs store now keyPrefix).2
          (windowKey keyPrefix (windowOf windowSecs now - 1))) := by
  refine Prod.ext ?_ ?_
  · rw [← h.count_eq hw (Nat.le_succ _)]
    exact incrBy_fst store now _ 1
  · exact (h.slidingWindow now).count_eq hw (by omega)

end Script

/-! ## A history of calls -/

def afterCalls (windowSecs : ℕ) (keyPrefix : String) (store : Store String ℤ)
    (times : List ℕ) : Store String ℤ :=
  times.foldl (fun s now ↦ (slidingWindow windowSecs s now keyPrefix).2) store

def callsIn (windowSecs : ℕ) (times : List ℕ) (k : ℕ) : ℕ :=
  times.countP fun now ↦ windowOf windowSecs now = k

section History

variable {conv : ReplyConversion} {windowSecs : ℕ} {keyPrefix : String} {store : Store String ℤ}

theorem WindowsKept.afterCalls (h : WindowsKept windowSecs keyPrefix store) (times : List ℕ) :
    WindowsKept windowSecs keyPrefix (afterCalls windowSecs keyPrefix store times) := by
  induction times generalizing store with
  | nil => exact h
  | cons now times ih => exact ih (h.slidingWindow now)

theorem stored_afterCalls (hw : 0 < windowSecs) (h : WindowsKept windowSecs keyPrefix store)
    (times : List ℕ) (k : ℕ) :
    stored (afterCalls windowSecs keyPrefix store times) (windowKey keyPrefix k) =
      stored store (windowKey keyPrefix k) + callsIn windowSecs times k := by
  induction times generalizing store with
  | nil => simp [afterCalls, callsIn]
  | cons now times ih =>
      have hrest := ih (h.slidingWindow now)
      rw [stored_slidingWindow hw h] at hrest
      rw [show afterCalls windowSecs keyPrefix store (now :: times) =
        afterCalls windowSecs keyPrefix (slidingWindow windowSecs store now keyPrefix).2 times
        from rfl, hrest, callsIn, callsIn, List.countP_cons]
      by_cases hk : windowOf windowSecs now = k
      · simp only [hk, if_true, decide_true, Nat.cast_add, Nat.cast_one]
        omega
      · simp [hk]

def Unused (keyPrefix : String) (store : Store String ℤ) : Prop :=
  ∀ k, store (windowKey keyPrefix k) = none

theorem Unused.windowsKept (windowSecs : ℕ) (h : Unused keyPrefix store) :
    WindowsKept windowSecs keyPrefix store := by
  intro k e he
  rw [h k] at he
  cases he

/-- From the second window on, the script answers the number of calls in the current
window, the new one included, and in the previous one. -/
theorem slidingWindow_afterCalls (hw : 0 < windowSecs) (h : Unused keyPrefix store)
    (times : List ℕ) {now : ℕ} (hnow : 1 ≤ windowOf windowSecs now) :
    (slidingWindow windowSecs (afterCalls windowSecs keyPrefix store times) now keyPrefix).1 =
      ((callsIn windowSecs times (windowOf windowSecs now) : ℤ) + 1,
        (callsIn windowSecs times (windowOf windowSecs now - 1) : ℤ)) := by
  have hkept := (h.windowsKept windowSecs).afterCalls times
  have hstored : ∀ k, stored (afterCalls windowSecs keyPrefix store times)
      (windowKey keyPrefix k) = callsIn windowSecs times k := by
    intro k
    rw [stored_afterCalls hw (h.windowsKept windowSecs) times k, stored, h k]
    simp
  have hprev : windowOf windowSecs now ≠ windowOf windowSecs now - 1 := by omega
  rw [slidingWindow_fst hw hkept, stored_slidingWindow hw hkept, if_neg hprev, hstored, hstored,
    add_zero]

/-- From the second window on, a call compares the limit with the number of calls in
its own window, itself included, and in the previous one. -/
theorem checkAndIncrement_afterCalls (hw : 0 < windowSecs) (h : Unused keyPrefix store)
    (times : List ℕ) {now : ℕ} (hnow : 1 ≤ windowOf windowSecs now) (limit : ℕ) :
    (checkAndIncrement conv windowSecs .working (afterCalls windowSecs keyPrefix store times) now
        keyPrefix limit).1 =
      .ok (buildCheckResult (callsIn windowSecs times (windowOf windowSecs now) + 1)
        (callsIn windowSecs times (windowOf windowSecs now - 1)) (now / 1000) windowSecs
        limit) := by
  have hread := conv.read_natCast (callsIn windowSecs times (windowOf windowSecs now) + 1)
    (callsIn windowSecs times (windowOf windowSecs now - 1))
  rw [Nat.cast_add_one] at hread
  rw [checkAndIncrement_working, slidingWindow_afterCalls hw h times hnow, hread]
  rfl

end History

/-! ## A client that paces itself at its limit -/

theorem countP_range_div (n l q : ℕ) (hl : 0 < l) :
    (List.range n).countP (fun i ↦ decide (i / l = q)) = min l (n - l * q) := by
  induction n with
  | zero => simp
  | succ n ih =>
      have hdiv : n / l = q ↔ l * q ≤ n ∧ n < l * q + l := by
        rw [Nat.div_eq_iff hl, Nat.mul_comm q l]
        omega
      rw [List.range_succ, List.countP_append, ih, List.countP_singleton]
      by_cases hq : n / l = q
      · have hbounds := hdiv.mp hq
        simp only [hq, decide_true, if_true]
        omega
      · have hout := mt hdiv.mpr hq
        simp only [hq, decide_false, Bool.false_eq_true, if_false]
        omega

section Paced

variable {limit step firstWindow : ℕ} {arrival : ℕ → ℕ}

/-- One call every `step` seconds, `limit` calls in each window of `limit * step`
seconds, from the start of a window on. -/
def Paced (limit step firstWindow : ℕ) (arrival : ℕ → ℕ) : Prop :=
  ∀ n, arrival n / 1000 = firstWindow * (limit * step) + n * step

theorem Paced.window_eq (h : Paced limit step firstWindow arrival) (hstep : 0 < step)
    (hlimit : 0 < limit) (n : ℕ) :
    windowOf (limit * step) (arrival n) = firstWindow + n / limit := by
  rw [windowOf, h n, ← Nat.mul_assoc, ← Nat.add_mul, Nat.mul_div_mul_right _ _ hstep,
    Nat.add_comm, Nat.add_mul_div_right _ _ hlimit, Nat.add_comm]

theorem Paced.elapsed (h : Paced limit step firstWindow arrival) (n : ℕ) :
    arrival n / 1000 % (limit * step) = n % limit * step := by
  rw [h n, Nat.add_comm, Nat.add_mul_mod_self_right, Nat.mul_mod_mul_right]

theorem Paced.calls_eq (h : Paced limit step firstWindow arrival) (hstep : 0 < step)
    (hlimit : 0 < limit) (n q : ℕ) :
    callsIn (limit * step) ((List.range n).map arrival) (firstWindow + q) =
      min limit (n - limit * q) := by
  rw [callsIn, List.countP_map, ← countP_range_div n limit q hlimit]
  refine List.countP_congr fun i _ ↦ ?_
  simp [h.window_eq hstep hlimit]

theorem Paced.calls_before (h : Paced limit step firstWindow arrival) (hstep : 0 < step)
    (hlimit : 0 < limit) (n : ℕ) {k : ℕ} (hk : k < firstWindow) :
    callsIn (limit * step) ((List.range n).map arrival) k = 0 := by
  rw [callsIn, List.countP_eq_zero]
  intro t ht
  obtain ⟨i, _, rfl⟩ := List.mem_map.mp ht
  have hle : firstWindow ≤ windowOf (limit * step) (arrival i) := by
    rw [h.window_eq hstep hlimit]
    exact Nat.le_add_right _ _
  simp only [decide_eq_true_eq]
  omega

theorem weightedCount_first (elapsed windowSecs current : ℕ) :
    weightedCount current 0 elapsed windowSecs = current := by
  unfold weightedCount
  split_ifs <;> simp

/-- In every later window the overlap of the previous one makes up exactly for the
calls still to come, and the call itself is one too many. -/
theorem weightedCount_later (hstep : 0 < step) (hlimit : 0 < limit) (j : ℕ) :
    weightedCount (j + 1) limit (j * step) (limit * step) = (limit + 1 : ℕ) := by
  have hs : (step : ℚ) ≠ 0 := Nat.cast_ne_zero.mpr hstep.ne'
  have hl : (limit : ℚ) ≠ 0 := Nat.cast_ne_zero.mpr hlimit.ne'
  rw [weightedCount, if_neg (Nat.mul_pos hlimit hstep).ne']
  push_cast
  field_simp
  ring

theorem buildCheckResult_allowed (current previous nowSecs windowSecs limit : ℕ) :
    (buildCheckResult current previous nowSecs windowSecs limit).allowed = true ↔
      asU32 ⌈weightedCount current previous (nowSecs % windowSecs) windowSecs⌉ ≤ limit := by
  simp [buildCheckResult]

theorem asU32_mono {m n : ℤ} (h : m ≤ n) : asU32 m ≤ asU32 n :=
  min_le_min_right _ (Int.toNat_le_toNat h)

theorem asU32_natCast_le (n limit : ℕ) : asU32 n ≤ limit ↔ n ≤ limit ∨ 2 ^ 32 - 1 ≤ limit := by
  simp [asU32]

end Paced

/-- A client that makes one call every `windowSecs / limit` seconds, from the start of a
window on, is allowed in its first window and throttled from then on, unless the limit
is the largest number that the cast to `u32` can produce. -/
theorem paced_client_allowed_iff {conv : ReplyConversion} {windowSecs limit firstWindow : ℕ}
    (hw : 1 ≤ windowSecs) (hlimit : 1 ≤ limit) (hdvd : limit ∣ windowSecs)
    (hfirst : 1 ≤ firstWindow) {keyPrefix : String} {store : Store String ℤ}
    (hunused : Unused keyPrefix store) (arrival : ℕ → ℕ)
    (harrival : ∀ n, arrival n / 1000 = firstWindow * windowSecs + n * (windowSecs / limit))
    (n : ℕ) :
    ∃ result,
      (checkAndIncrement conv windowSecs .working
        (afterCalls windowSecs keyPrefix store ((List.range n).map arrival)) (arrival n)
        keyPrefix limit).1 = .ok result ∧
      (result.allowed = true ↔ n < limit ∨ 2 ^ 32 - 1 ≤ limit) := by
  obtain ⟨step, rfl⟩ := hdvd
  have hstep : 0 < step := Nat.pos_of_mul_pos_left hw
  have hpaced : Paced limit step firstWindow arrival := by
    intro i
    rw [harrival i, Nat.mul_div_cancel_left step hlimit]
  have hwindow := hpaced.window_eq hstep hlimit n
  have hlater : 1 ≤ windowOf (limit * step) (arrival n) := by
    rw [hwindow]
    exact Nat.le_add_right_of_le hfirst
  refine ⟨_, checkAndIncrement_afterCalls hw hunused _ hlater limit, ?_⟩
  have hdiv := Nat.div_add_mod n limit
  have hmod := Nat.mod_lt n hlimit
  have hcurrent := hpaced.calls_eq hstep hlimit n (n / limit)
  have hcount : min limit (n - limit * (n / limit)) = n % limit := by omega
  rw [hcount] at hcurrent
  rw [buildCheckResult_allowed, hpaced.elapsed, hwindow, hcurrent]
  cases hq : n / limit with
  | zero =>
      have hlt : n < limit := (Nat.div_eq_zero_iff_lt hlimit).mp hq
      have hprev := hpaced.calls_before hstep hlimit n (k := firstWindow + 0 - 1) (by omega)
      rw [hprev, weightedCount_first, Int.ceil_natCast, asU32_natCast_le]
      exact iff_of_true (Or.inl hmod) (Or.inl hlt)
  | succ q =>
      rw [hq, Nat.mul_succ] at hdiv
      have hprev := hpaced.calls_eq hstep hlimit n q
      have hfull : min limit (n - limit * q) = limit := by omega
      rw [hfull] at hprev
      rw [← Nat.add_assoc, Nat.add_sub_cancel, hprev, weightedCount_later hstep hlimit,
        Int.ceil_natCast, asU32_natCast_le]
      omega

theorem paced_client_allowed_iff_two :
    ∃ result,
      (checkAndIncrement .wrapping 60 .working
        (afterCalls 60 "rl:global" empty ((List.range 2).map fun n ↦ 1000 * (60 + n * 30)))
        (1000 * (60 + 2 * 30)) "rl:global" 2).1 = .ok result ∧
      (result.allowed = true ↔ 2 < 2 ∨ 2 ^ 32 - 1 ≤ 2) :=
  paced_client_allowed_iff (by decide) (by decide) (by decide) (le_refl 1) (fun _ ↦ rfl)
    (fun n ↦ 1000 * (60 + n * 30)) (fun n ↦ by omega) 2

/-- With a limit of one call a minute, the second of two calls one minute apart is
rejected. -/
theorem paced_client_throttled :
    ∃ result,
      (checkAndIncrement .wrapping 60 .working (afterCalls 60 "rl:global" empty [60000]) 120000
        "rl:global" 1).1 = .ok result ∧ result.allowed = false := by
  refine ⟨_, checkAndIncrement_afterCalls (by decide) (fun _ ↦ rfl) [60000] (by decide) 1, ?_⟩
  have hcurrent : callsIn 60 [60000] (windowOf 60 120000) = 0 := by decide
  have hprevious : callsIn 60 [60000] (windowOf 60 120000 - 1) = 1 := by decide
  rw [hcurrent, hprevious]
  norm_num [buildCheckResult, weightedCount, asU32]

end SmartGate
