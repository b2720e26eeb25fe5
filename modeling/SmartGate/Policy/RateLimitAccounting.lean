import SmartGate.Lib.Processes
import SmartGate.Lib.Transition
import SmartGate.Policy.RateLimit

/-!
# Accounting of concurrent evaluations

`RateLimitEvaluator::evaluate` counts a call under its service account, then under the
global key, and takes the first count back when the global limit rejects the call.
These are separate commands, each with its own reading of the clock, and the commands
of several calls interleave.
-/

namespace SmartGate

open ExpiringStore Transition

/-! ## One call -/

structure RateLimitOutcome where
  limit : ℕ
  remaining : ℕ
  resetAt : ℕ
  deriving DecidableEq

def mostRestrictive (current : RateLimitOutcome) (check : WindowCheckResult) : RateLimitOutcome :=
  if check.remaining < current.remaining then ⟨check.limit, check.remaining, check.resetAt⟩
  else current

def rateLimiterUnavailable : GatewayError :=
  .config "rate_limiter_unavailable" "rate limiter temporarily unavailable"

/-- The rejection, with the seconds left until the window ends as seen at `after`. -/
def rateLimitExceeded (message : String) (resetAt after : ℕ) : GatewayError :=
  .rateLimit "rate_limit_exceeded" message (some (resetAt - after / 1000))

inductive EvaluatePhase where
  | saCheck (saRpm : ℕ)
  | globalCheck
  | rollback (resetAt : ℕ)
  | returned (result : Except GatewayError RateLimitOutcome)
  deriving DecidableEq

def EvaluatePhase.isReturned : EvaluatePhase → Bool
  | .returned _ => true
  | _ => false

/-- A call of `evaluate`, with the windows in which its checks were made. -/
structure EvaluateCall where
  saId : ServiceAccountId
  rpmLimit : Option ℕ
  phase : EvaluatePhase
  saResult : Option WindowCheckResult
  saWindow : Option ℕ
  globalWindow : Option ℕ
  rejectedByGlobal : Bool
  deriving DecidableEq

def EvaluateCall.start (saId : ServiceAccountId) (rpmLimit : Option ℕ) : EvaluateCall where
  saId
  rpmLimit
  phase := rpmLimit.elim .globalCheck .saCheck
  saResult := none
  saWindow := none
  globalWindow := none
  rejectedByGlobal := false

def EvaluateCall.afterSaCheck (c : EvaluateCall) (window after : ℕ)
    (answer : Except StorageError WindowCheckResult) : EvaluateCall :=
  match answer with
  | .error _ => { c with
      saWindow := some window
      phase := .returned (.error rateLimiterUnavailable) }
  | .ok result =>
      if result.allowed then { c with
        saWindow := some window
        saResult := some result
        phase := .globalCheck }
      else { c with
        saWindow := some window
        phase := .returned (.error
          (rateLimitExceeded "service account rate limit exceeded" result.resetAt after)) }

def EvaluateCall.afterGlobalCheck (c : EvaluateCall) (window after : ℕ)
    (answer : Except StorageError WindowCheckResult) : EvaluateCall :=
  match answer with
  | .error _ => { c with
      globalWindow := some window
      phase := .returned (.error rateLimiterUnavailable) }
  | .ok global =>
      if global.allowed then
        let outcome := ⟨global.limit, global.remaining, global.resetAt⟩
        { c with
          globalWindow := some window
          phase := .returned (.ok (c.saResult.elim outcome (mostRestrictive outcome))) }
      else { c with
        globalWindow := some window
        rejectedByGlobal := true
        phase := if c.rpmLimit.isSome then .rollback global.resetAt
          else .returned (.error
            (rateLimitExceeded "global rate limit exceeded" global.resetAt after)) }

def EvaluateCall.afterRollback (c : EvaluateCall) (resetAt after : ℕ) : EvaluateCall :=
  { c with phase := .returned (.error
    (rateLimitExceeded "global rate limit exceeded" resetAt after)) }

/-- `rollback_sa_counter`: a `DECR` in the window of a fresh reading of the clock. -/
def rollbackSaCounter (windowSecs : ℕ) (store : Store String ℤ) (now : ℕ)
    (saId : ServiceAccountId) : Store String ℤ :=
  (incrBy store now (windowKey (saKeyPrefix saId) (windowOf windowSecs now)) (-1)).2

/-! ## All calls together -/

structure AccountingState where
  store : Store String ℤ
  clock : ℕ
  calls : List EvaluateCall

/-- A step of call `i` reads the clock at `now`, and once more at `after` for the answer
of a rejected call. -/
inductive AccountingStep where
  | start (saId : ServiceAccountId) (rpmLimit : Option ℕ)
  | saCheck (i now after : ℕ)
  | globalCheck (i now after : ℕ)
  | rollback (i now after : ℕ)
  deriving DecidableEq

def moveCall (s : AccountingState) (i now : ℕ)
    (move : EvaluateCall → Option (EvaluateCall × Store String ℤ)) : Option AccountingState :=
  if now < s.clock then none
  else s.calls[i]?.bind fun c ↦ (move c).map fun (c', store) ↦
    { store, clock := now, calls := s.calls.set i c' }

def accountingStep (conv : ReplyConversion) (windowSecs globalRpm : ℕ) (s : AccountingState) :
    AccountingStep → Option AccountingState
  | .start saId rpmLimit => some { s with calls := s.calls ++ [.start saId rpmLimit] }
  | .saCheck i now after => moveCall s i now fun c ↦
      match c.phase with
      | .saCheck saRpm =>
          let answer := checkAndIncrement conv windowSecs .working s.store now (saKeyPrefix c.saId)
            saRpm
          some (c.afterSaCheck (windowOf windowSecs now) after answer.1, answer.2)
      | _ => none
  | .globalCheck i now after => moveCall s i now fun c ↦
      match c.phase with
      | .globalCheck =>
          let answer := checkAndIncrement conv windowSecs .working s.store now globalKeyPrefix
            globalRpm
          some (c.afterGlobalCheck (windowOf windowSecs now) after answer.1, answer.2)
      | _ => none
  | .rollback i now after => moveCall s i now fun c ↦
      match c.phase with
      | .rollback resetAt =>
          some (c.afterRollback resetAt after, rollbackSaCounter windowSecs s.store now c.saId)
      | _ => none

/-! ## The counters of the two levels -/

/-- The two levels at which calls are counted. -/
inductive RateScope where
  | serviceAccount (saId : ServiceAccountId)
  | global
  deriving DecidableEq

def RateScope.keyPrefix : RateScope → String
  | .serviceAccount saId => saKeyPrefix saId
  | .global => globalKeyPrefix

def RateScope.key (scope : RateScope) (window : ℕ) : String := windowKey scope.keyPrefix window

theorem RateScope.key_injective {a b : RateScope} {v w : ℕ} (h : a.key v = b.key w) :
    a = b ∧ v = w := by
  cases a with
  | serviceAccount x =>
      cases b with
      | serviceAccount y =>
          obtain ⟨rfl, rfl⟩ := saWindowKey_injective h
          exact ⟨rfl, rfl⟩
      | global => exact absurd h (saWindowKey_ne_global x v w)
  | global =>
      cases b with
      | serviceAccount y => exact absurd h.symm (saWindowKey_ne_global y w v)
      | global => exact ⟨rfl, windowKey_injective h⟩

/-- The call counts at this level in this window: its check was made there, and it has
not been taken back. -/
def EvaluateCall.counts (scope : RateScope) (window : ℕ) (c : EvaluateCall) : Bool :=
  match scope with
  | .serviceAccount saId => decide (c.saId = saId) && decide (c.saWindow = some window) &&
      !(c.rejectedByGlobal && c.phase.isReturned)
  | .global => decide (c.globalWindow = some window)

/-- The call passed the check of its service account, or has none. -/
def EvaluateCall.passedSaCheck (c : EvaluateCall) : Bool :=
  c.rpmLimit.isNone || c.saResult.any (·.allowed)

def EvaluateCall.WellFormed (c : EvaluateCall) : Prop :=
  match c.phase with
  | .saCheck _ => c.saWindow = none ∧ c.globalWindow = none ∧ c.rejectedByGlobal = false ∧
      c.rpmLimit ≠ none
  | .globalCheck => c.globalWindow = none ∧ c.rejectedByGlobal = false ∧
      (c.rpmLimit = none → c.saWindow = none) ∧ c.passedSaCheck = true
  | .rollback _ => c.rejectedByGlobal = true ∧ c.passedSaCheck = true
  | .returned _ => c.globalWindow ≠ none → c.passedSaCheck = true

theorem EvaluateCall.WellFormed.passed {c : EvaluateCall} (h : c.WellFormed)
    (hreturned : c.phase.isReturned = true) : c.globalWindow ≠ none → c.passedSaCheck = true := by
  unfold EvaluateCall.WellFormed at h
  split at h <;> simp_all [EvaluatePhase.isReturned]

structure AccountingState.Exact (windowSecs : ℕ) (s : AccountingState) : Prop where
  kept : ∀ scope : RateScope, WindowsKept windowSecs scope.keyPrefix s.store
  counted : ∀ (scope : RateScope) k,
    stored s.store (scope.key k) = s.calls.countP (·.counts scope k)
  wellFormed : ∀ c ∈ s.calls, c.WellFormed

/-- A rollback reads the clock in the window in which the call was counted. -/
def RollbackInWindow (windowSecs : ℕ) (s : AccountingState) : AccountingStep → Prop
  | .rollback i now _ => ∀ c, s.calls[i]? = some c → c.saWindow = some (windowOf windowSecs now)
  | _ => True

instance (windowSecs : ℕ) (s : AccountingState) (a : AccountingStep) :
    Decidable (RollbackInWindow windowSecs s a) :=
  match a with
  | .rollback i now _ => inferInstanceAs (Decidable
      (∀ c ∈ s.calls[i]?, c.saWindow = some (windowOf windowSecs now)))
  | .start _ _ | .saCheck _ _ _ | .globalCheck _ _ _ => inferInstanceAs (Decidable True)

/-! ## What the commands do to the counters -/

section Commands

variable {windowSecs : ℕ} {store store' : Store String ℤ} {scope : RateScope} {now : ℕ}

/-- A command that touches one counter of one level keeps the life of all the others. -/
theorem kept_of_frame (scope : RateScope) {w : ℕ}
    (hkept : ∀ scope : RateScope, WindowsKept windowSecs scope.keyPrefix store)
    (hself : WindowsKept windowSecs scope.keyPrefix store')
    (hframe : ∀ key, key ≠ scope.key w → store' key = store key) (scope' : RateScope) :
    WindowsKept windowSecs scope'.keyPrefix store' := by
  intro k e he
  by_cases hs : scope' = scope
  · subst hs
    exact hself k e he
  · have hne : scope'.key k ≠ scope.key w := fun heq ↦ hs (RateScope.key_injective heq).1
    have hsame : store' (windowKey scope'.keyPrefix k) = store (windowKey scope'.keyPrefix k) :=
      hframe _ hne
    rw [hsame] at he
    exact hkept scope' k e he

theorem stored_check (hw : 0 < windowSecs) (hkept : WindowsKept windowSecs scope.keyPrefix store)
    (now : ℕ) (scope' : RateScope) (k : ℕ) :
    stored (slidingWindow windowSecs store now scope.keyPrefix).2 (scope'.key k) =
      stored store (scope'.key k) +
        if scope = scope' ∧ windowOf windowSecs now = k then 1 else 0 := by
  by_cases hs : scope = scope'
  · subst hs
    rw [RateScope.key, stored_slidingWindow hw hkept]
    simp
  · have hne : scope'.key k ≠ windowKey scope.keyPrefix (windowOf windowSecs now) :=
      fun heq ↦ hs (RateScope.key_injective heq).1.symm
    rw [stored_congr (slidingWindow_ne store hne), if_neg fun h ↦ hs h.1, add_zero]

theorem rollbackSaCounter_ne (windowSecs : ℕ) (store : Store String ℤ) (now : ℕ)
    (saId : ServiceAccountId) {key : String}
    (h : key ≠ (RateScope.serviceAccount saId).key (windowOf windowSecs now)) :
    rollbackSaCounter windowSecs store now saId key = store key :=
  incrBy_ne store now h (-1)

theorem stored_rollback (hw : 0 < windowSecs) {saId : ServiceAccountId}
    (hkept : WindowsKept windowSecs (saKeyPrefix saId) store) (now : ℕ) (scope : RateScope)
    (k : ℕ) : stored (rollbackSaCounter windowSecs store now saId) (scope.key k) =
      stored store (scope.key k) -
        if .serviceAccount saId = scope ∧ windowOf windowSecs now = k then 1 else 0 := by
  by_cases hs : .serviceAccount saId = scope ∧ windowOf windowSecs now = k
  · obtain ⟨rfl, rfl⟩ := hs
    have hcount : count store now (windowKey (saKeyPrefix saId) (windowOf windowSecs now)) =
        stored store (windowKey (saKeyPrefix saId) (windowOf windowSecs now)) :=
      hkept.count_eq hw (Nat.le_succ _)
    rw [if_pos ⟨rfl, rfl⟩, RateScope.key, RateScope.keyPrefix, ← hcount, rollbackSaCounter, stored,
      incrBy_same]
    rfl
  · have hne : scope.key k ≠ (RateScope.serviceAccount saId).key (windowOf windowSecs now) :=
      fun heq ↦ hs ⟨(RateScope.key_injective heq).1.symm, (RateScope.key_injective heq).2.symm⟩
    rw [stored_congr (rollbackSaCounter_ne windowSecs store now saId hne), if_neg hs, sub_zero]

theorem WindowsKept.rollback {saId : ServiceAccountId}
    (hkept : WindowsKept windowSecs (saKeyPrefix saId) store) (now : ℕ) :
    WindowsKept windowSecs (saKeyPrefix saId) (rollbackSaCounter windowSecs store now saId) := by
  intro k e he d hd
  by_cases hk : windowKey (saKeyPrefix saId) k =
      windowKey (saKeyPrefix saId) (windowOf windowSecs now)
  · rw [hk, rollbackSaCounter, incrBy_same] at he
    cases he
    obtain ⟨e, hlookup, hd⟩ := Option.bind_eq_some_iff.mp hd
    exact hkept k e (hk ▸ (lookup_eq_some.mp hlookup).1) d hd
  · rw [rollbackSaCounter, incrBy_ne store now hk] at he
    exact hkept k e he d hd

end Commands

/-! ## Exact accounting -/

theorem AccountingState.Exact.move {windowSecs : ℕ} {s : AccountingState} (h : s.Exact windowSecs)
    {i now : ℕ} {c c' : EvaluateCall} {store : Store String ℤ} (hi : s.calls[i]? = some c)
    (hkept : ∀ scope : RateScope, WindowsKept windowSecs scope.keyPrefix store)
    (hcounted : ∀ (scope : RateScope) k, stored store (scope.key k) =
      stored s.store (scope.key k) - (if c.counts scope k then 1 else 0) +
        if c'.counts scope k then 1 else 0)
    (hwf : c'.WellFormed) :
    AccountingState.Exact windowSecs { store, clock := now, calls := s.calls.set i c' } where
  kept := hkept
  counted scope k := by
    rw [hcounted, h.counted, Processes.countP_set _ hi]
  wellFormed q hq := by
    rcases List.mem_or_eq_of_mem_set hq with hold | rfl
    · exact h.wellFormed q hold
    · exact hwf

theorem AccountingState.Exact.start {windowSecs : ℕ} {s : AccountingState}
    (h : s.Exact windowSecs) (saId : ServiceAccountId) (rpmLimit : Option ℕ) :
    AccountingState.Exact windowSecs { s with calls := s.calls ++ [.start saId rpmLimit] } where
  kept := h.kept
  counted scope k := by
    have hzero : (EvaluateCall.start saId rpmLimit).counts scope k = false := by
      cases scope <;> simp [EvaluateCall.counts, EvaluateCall.start]
    simpa [List.countP_append, hzero] using h.counted scope k
  wellFormed c hc := by
    rcases List.mem_append.mp hc with hold | hnew
    · exact h.wellFormed c hold
    · rw [List.mem_singleton.mp hnew]
      cases rpmLimit <;>
        simp [EvaluateCall.WellFormed, EvaluateCall.start, EvaluateCall.passedSaCheck]

theorem afterSaCheck_counts {c : EvaluateCall} (hrejected : c.rejectedByGlobal = false)
    (window after : ℕ) (answer : Except StorageError WindowCheckResult) (scope : RateScope)
    (k : ℕ) : (c.afterSaCheck window after answer).counts scope k =
      match scope with
      | .serviceAccount saId => decide (c.saId = saId) && decide (window = k)
      | .global => c.counts .global k := by
  cases scope <;> unfold EvaluateCall.afterSaCheck <;> split <;> try split_ifs
  all_goals simp [EvaluateCall.counts, hrejected]

theorem afterSaCheck_wellFormed {c : EvaluateCall} (hglobal : c.globalWindow = none)
    (hrejected : c.rejectedByGlobal = false) (hrpm : c.rpmLimit ≠ none) (window after : ℕ)
    (answer : Except StorageError WindowCheckResult) :
    (c.afterSaCheck window after answer).WellFormed := by
  unfold EvaluateCall.afterSaCheck
  split
  · simp [EvaluateCall.WellFormed, hglobal]
  · split_ifs with hallowed
    · simp [EvaluateCall.WellFormed, EvaluateCall.passedSaCheck, hglobal, hrejected, hrpm, hallowed]
    · simp [EvaluateCall.WellFormed, hglobal]

theorem afterGlobalCheck_counts {c : EvaluateCall} (hrejected : c.rejectedByGlobal = false)
    (hrpm : c.rpmLimit = none → c.saWindow = none) (window after : ℕ)
    (answer : Except StorageError WindowCheckResult) (scope : RateScope)
    (k : ℕ) : (c.afterGlobalCheck window after answer).counts scope k =
      match scope with
      | .serviceAccount saId => c.counts (.serviceAccount saId) k
      | .global => decide (window = k) := by
  cases scope with
  | global =>
      unfold EvaluateCall.afterGlobalCheck
      split <;> try split_ifs
      all_goals simp [EvaluateCall.counts]
  | serviceAccount saId =>
      unfold EvaluateCall.afterGlobalCheck
      split
      · simp [EvaluateCall.counts, hrejected]
      · split_ifs with hallowed hsome
        · simp [EvaluateCall.counts, hrejected]
        · simp [EvaluateCall.counts, hrejected, EvaluatePhase.isReturned]
        · have hnone : c.rpmLimit = none := by simpa using hsome
          simp [EvaluateCall.counts, hrpm hnone]

theorem afterGlobalCheck_wellFormed {c : EvaluateCall} (hpassed : c.passedSaCheck = true)
    (window after : ℕ) (answer : Except StorageError WindowCheckResult) :
    (c.afterGlobalCheck window after answer).WellFormed := by
  unfold EvaluateCall.afterGlobalCheck
  split
  · exact fun _ ↦ hpassed
  · split_ifs
    · exact fun _ ↦ hpassed
    · exact ⟨rfl, hpassed⟩
    · exact fun _ ↦ hpassed

theorem moveCall_eq_some {s t : AccountingState} {i now : ℕ}
    {move : EvaluateCall → Option (EvaluateCall × Store String ℤ)}
    (h : moveCall s i now move = some t) :
    ∃ c c' store, s.calls[i]? = some c ∧ move c = some (c', store) ∧
      t = { store, clock := now, calls := s.calls.set i c' } := by
  simp only [moveCall, Option.ite_none_left_eq_some, Option.bind_eq_some_iff,
    Option.map_eq_some_iff] at h
  obtain ⟨_, c, hi, ⟨c', store⟩, hmove, rfl⟩ := h
  exact ⟨c, c', store, hi, hmove, rfl⟩

theorem kept_check {windowSecs : ℕ} {store : Store String ℤ}
    (hkept : ∀ scope : RateScope, WindowsKept windowSecs scope.keyPrefix store) (now : ℕ)
    (scope : RateScope) (scope' : RateScope) : WindowsKept windowSecs scope'.keyPrefix
      (slidingWindow windowSecs store now scope.keyPrefix).2 :=
  kept_of_frame scope hkept ((hkept scope).slidingWindow now)
    (fun _ h ↦ slidingWindow_ne store h) scope'

theorem AccountingState.Exact.saCheck {conv : ReplyConversion} {windowSecs globalRpm : ℕ}
    (hw : 0 < windowSecs)
    {s t : AccountingState} (h : s.Exact windowSecs) {i now after : ℕ}
    (hstep : accountingStep conv windowSecs globalRpm s (.saCheck i now after) = some t) :
    t.Exact windowSecs := by
  obtain ⟨c, c', store, hi, hmove, rfl⟩ := moveCall_eq_some hstep
  have hwf := h.wellFormed c (List.mem_of_getElem? hi)
  split at hmove
  · next saRpm hphase =>
    simp only [EvaluateCall.WellFormed, hphase] at hwf
    obtain ⟨hsa, hglobal, hrejected, hrpm⟩ := hwf
    cases hmove
    refine h.move hi (kept_check h.kept now (.serviceAccount c.saId)) (fun scope k ↦ ?_)
      (afterSaCheck_wellFormed hglobal hrejected hrpm _ _ _)
    have hstored := stored_check hw (h.kept (.serviceAccount c.saId)) now scope k
    rw [afterSaCheck_counts hrejected]
    refine hstored.trans ?_
    cases scope with
    | global => simp
    | serviceAccount saId => simp [EvaluateCall.counts, hsa]
  · cases hmove

theorem AccountingState.Exact.globalCheck {conv : ReplyConversion} {windowSecs globalRpm : ℕ}
    (hw : 0 < windowSecs)
    {s t : AccountingState} (h : s.Exact windowSecs) {i now after : ℕ}
    (hstep : accountingStep conv windowSecs globalRpm s (.globalCheck i now after) = some t) :
    t.Exact windowSecs := by
  obtain ⟨c, c', store, hi, hmove, rfl⟩ := moveCall_eq_some hstep
  have hwf := h.wellFormed c (List.mem_of_getElem? hi)
  split at hmove
  · next hphase =>
    simp only [EvaluateCall.WellFormed, hphase] at hwf
    obtain ⟨hglobal, hrejected, hrpm, hpassed⟩ := hwf
    cases hmove
    refine h.move hi (kept_check h.kept now .global) (fun scope k ↦ ?_)
      (afterGlobalCheck_wellFormed hpassed _ _ _)
    have hstored := stored_check hw (h.kept .global) now scope k
    rw [afterGlobalCheck_counts hrejected hrpm]
    refine hstored.trans ?_
    cases scope with
    | global => simp [EvaluateCall.counts, hglobal]
    | serviceAccount saId => simp
  · cases hmove

theorem AccountingState.Exact.rollback {conv : ReplyConversion} {windowSecs globalRpm : ℕ}
    (hw : 0 < windowSecs)
    {s t : AccountingState} (h : s.Exact windowSecs) {i now after : ℕ}
    (hguard : RollbackInWindow windowSecs s (.rollback i now after))
    (hstep : accountingStep conv windowSecs globalRpm s (.rollback i now after) = some t) :
    t.Exact windowSecs := by
  obtain ⟨c, c', store, hi, hmove, rfl⟩ := moveCall_eq_some hstep
  have hwf := h.wellFormed c (List.mem_of_getElem? hi)
  have hwindow := hguard c hi
  split at hmove
  · next resetAt hphase =>
    simp only [EvaluateCall.WellFormed, hphase] at hwf
    obtain ⟨hrejected, hpassed⟩ := hwf
    cases hmove
    have hkept := kept_of_frame (.serviceAccount c.saId) h.kept
      ((h.kept (.serviceAccount c.saId)).rollback now)
      fun _ hne ↦ rollbackSaCounter_ne windowSecs s.store now c.saId hne
    refine h.move hi hkept (fun scope k ↦ ?_) fun _ ↦ hpassed
    rw [stored_rollback hw (h.kept (.serviceAccount c.saId))]
    cases scope with
    | global =>
        have hsame : (c.afterRollback resetAt after).counts .global k = c.counts .global k := rfl
        rw [hsame]
        simp
    | serviceAccount saId =>
        simp [EvaluateCall.counts, EvaluateCall.afterRollback, hrejected, hphase, hwindow,
          EvaluatePhase.isReturned]
  · cases hmove

theorem AccountingState.Exact.step {conv : ReplyConversion} {windowSecs : ℕ}
    (hw : 0 < windowSecs) (globalRpm : ℕ)
    (s : AccountingState) (a : AccountingStep) (t : AccountingState) (h : s.Exact windowSecs)
    (hguard : RollbackInWindow windowSecs s a)
    (hstep : accountingStep conv windowSecs globalRpm s a = some t) : t.Exact windowSecs := by
  cases a with
  | start saId rpmLimit =>
      cases hstep
      exact h.start saId rpmLimit
  | saCheck i now after => exact h.saCheck hw hstep
  | globalCheck i now after => exact h.globalCheck hw hstep
  | rollback i now after => exact h.rollback hw hguard hstep

def AccountingState.Quiescent (s : AccountingState) : Prop :=
  ∀ c ∈ s.calls, c.phase.isReturned = true

def AccountingState.Fresh (s : AccountingState) : Prop :=
  s.calls = [] ∧ ∀ (scope : RateScope) k, s.store (scope.key k) = none

theorem AccountingState.Fresh.exact (windowSecs : ℕ) {s : AccountingState} (h : s.Fresh) :
    s.Exact windowSecs where
  kept scope := (show Unused scope.keyPrefix s.store from h.2 scope).windowsKept windowSecs
  counted scope k := by simp [stored, h.2 scope k, h.1]
  wellFormed := by simp [h.1]

/-- When no call is in flight, an account's counter of a window is the number of its calls
whose check was made there and that the global limit did not reject, and the global
counter is the number of calls that passed the check of their account and made their
global check there, in every run in which each rollback reads the clock in the window of
the check that it undoes. -/
theorem accounting_exact {conv : ReplyConversion} {windowSecs : ℕ} (hw : 1 ≤ windowSecs)
    (globalRpm : ℕ)
    {s u : AccountingState} {steps : List AccountingStep} (hs : s.Fresh)
    (hguard : Guarded (accountingStep conv windowSecs globalRpm) (RollbackInWindow windowSecs) s
      steps)
    (hrun : run (accountingStep conv windowSecs globalRpm) s steps = some u)
    (hquiet : u.Quiescent) :
    (∀ saId k, stored u.store (windowKey (saKeyPrefix saId) k) =
        u.calls.countP fun c ↦
          decide (c.saId = saId ∧ c.saWindow = some k) && !c.rejectedByGlobal) ∧
      ∀ k, stored u.store (windowKey globalKeyPrefix k) =
        u.calls.countP fun c ↦ c.passedSaCheck && decide (c.globalWindow = some k) := by
  have hexact := run_invariant (AccountingState.Exact.step hw globalRpm) hguard hrun
    (hs.exact windowSecs)
  refine ⟨fun saId k ↦ ?_, fun k ↦ ?_⟩
  · refine (hexact.counted (.serviceAccount saId) k).trans (congrArg Nat.cast ?_)
    refine List.countP_congr fun c hc ↦ ?_
    simp [EvaluateCall.counts, hquiet c hc]
  · refine (hexact.counted .global k).trans (congrArg Nat.cast ?_)
    refine List.countP_congr fun c hc ↦ ?_
    have hpassed := (hexact.wellFormed c hc).passed (hquiet c hc)
    simp only [EvaluateCall.counts, Bool.and_eq_true, decide_eq_true_eq]
    exact ⟨fun hk ↦ ⟨hpassed (by simp [hk]), hk⟩, And.right⟩

def AccountingState.initial : AccountingState := ⟨empty, 0, []⟩

/-- Windows of a minute and a global limit of one: the second call is rejected by the
global limit and rolled back within the minute. -/
def rejectedInWindow : List AccountingStep :=
  [.start ⟨⟨1⟩⟩ (some 10), .saCheck 0 90000 90000, .globalCheck 0 90000 90000,
    .start ⟨⟨1⟩⟩ (some 10), .saCheck 1 119000 119000, .globalCheck 1 119000 119000,
    .rollback 1 119000 119000]

theorem accounting_exact_rejected_in_window :
    ∃ u, run (accountingStep .wrapping 60 1) .initial rejectedInWindow = some u ∧
      u.calls.length = 2 ∧
      (stored u.store (windowKey (saKeyPrefix ⟨⟨1⟩⟩) 1) =
        u.calls.countP fun c ↦
          decide (c.saId = ⟨⟨1⟩⟩ ∧ c.saWindow = some 1) && !c.rejectedByGlobal) := by
  have hrun : (run (accountingStep .wrapping 60 1) .initial rejectedInWindow).map
      (fun u ↦ u.calls.map fun c ↦ c.phase.isReturned) = some [true, true] := by
    decide +kernel
  obtain ⟨u, hu, hcalls⟩ := Option.map_eq_some_iff.mp hrun
  have hguard : Guarded (accountingStep .wrapping 60 1) (RollbackInWindow 60) .initial
      rejectedInWindow := by
    decide +kernel
  have hquiet : u.Quiescent := by
    intro c hc
    have hmem : c.phase.isReturned ∈ u.calls.map fun c ↦ c.phase.isReturned :=
      List.mem_map_of_mem hc
    simpa [hcalls] using hmem
  have hlength : u.calls.length = 2 := by simpa using congrArg List.length hcalls
  exact ⟨u, hu, hlength,
    (accounting_exact (by decide) 1 ⟨rfl, fun _ _ ↦ rfl⟩ hguard hu hquiet).1 ⟨⟨1⟩⟩ 1⟩

/-- The rollback of a call that is counted at the end of one minute is executed at the
start of the next: the first minute keeps the call, the second goes below zero. -/
theorem rollback_in_next_window :
    ∃ u, run (accountingStep .wrapping 60 1) .initial
        [.start ⟨⟨1⟩⟩ (some 10), .saCheck 0 90000 90000, .globalCheck 0 90000 90000,
          .start ⟨⟨1⟩⟩ (some 10), .saCheck 1 119000 119000, .globalCheck 1 119000 119000,
          .rollback 1 120000 120000] = some u ∧ u.Quiescent ∧
      stored u.store (windowKey (saKeyPrefix ⟨⟨1⟩⟩) 1) = 2 ∧
      u.calls.countP (fun c ↦
        decide (c.saId = ⟨⟨1⟩⟩ ∧ c.saWindow = some 1) && !c.rejectedByGlobal) = 1 ∧
      stored u.store (windowKey (saKeyPrefix ⟨⟨1⟩⟩) 2) = -1 := by
  have hrun : (run (accountingStep .wrapping 60 1) .initial
      [.start ⟨⟨1⟩⟩ (some 10), .saCheck 0 90000 90000, .globalCheck 0 90000 90000,
        .start ⟨⟨1⟩⟩ (some 10), .saCheck 1 119000 119000, .globalCheck 1 119000 119000,
        .rollback 1 120000 120000]).map (fun u ↦
      (u.calls.all fun c ↦ c.phase.isReturned,
        stored u.store (windowKey (saKeyPrefix ⟨⟨1⟩⟩) 1),
        u.calls.countP (fun c ↦
          decide (c.saId = ⟨⟨1⟩⟩ ∧ c.saWindow = some 1) && !c.rejectedByGlobal),
        stored u.store (windowKey (saKeyPrefix ⟨⟨1⟩⟩) 2))) = some (true, 2, 1, -1) := by
    decide +kernel
  obtain ⟨u, hu, hstate⟩ := Option.map_eq_some_iff.mp hrun
  simp only [Prod.mk.injEq, List.all_eq_true] at hstate
  exact ⟨u, hu, hstate⟩

end SmartGate
