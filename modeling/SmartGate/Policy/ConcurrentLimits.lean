import SmartGate.Policy.RateLimitAccounting
import SmartGate.Policy.RateLimitHistory

/-!
# Limits under concurrent evaluation

However the checks, the rollbacks and the answers of many calls of `evaluate` interleave, no
more calls are let through in a window than the limit of their account, and no more than the
global limit.  The first needs that no rollback lands in another window than the check that
it undoes.
-/

namespace SmartGate

open ExpiringStore Transition

/-! ## Calls that are let through -/

namespace EvaluateCall

def letThrough (c : EvaluateCall) : Bool :=
  match c.phase with
  | .returned (.ok _) => true
  | _ => false

/-- The call is counted in the window, has passed its check there, and its limit is at most
`limit`. -/
def admitted (saId : ServiceAccountId) (k limit : ℕ) (c : EvaluateCall) : Bool :=
  c.counts (.serviceAccount saId) k && c.saResult.isSome && c.rpmLimit.any (· ≤ limit)

def letThroughIn (k : ℕ) (c : EvaluateCall) : Bool :=
  c.letThrough && decide (c.globalWindow = some k)

/-- What the phase of a call says about its limit and its checks. -/
structure Sound (c : EvaluateCall) : Prop where
  limit : ∀ saRpm, c.phase = .saCheck saRpm → c.rpmLimit = some saRpm ∧ c.saResult = none
  letThrough : c.letThrough = true → c.rejectedByGlobal = false ∧ c.passedSaCheck = true

theorem sound_start (saId : ServiceAccountId) (rpmLimit : Option ℕ) :
    (start saId rpmLimit).Sound := by
  cases rpmLimit with
  | none => exact ⟨fun _ h ↦ EvaluatePhase.noConfusion h, fun h ↦ Bool.noConfusion h⟩
  | some limit =>
      refine ⟨fun saRpm h ↦ ?_, fun h ↦ Bool.noConfusion h⟩
      cases h
      exact ⟨rfl, rfl⟩

end EvaluateCall

/-! ## One step -/

/-- A check that allows a call has counted it within the limit, if no count was negative. -/
theorem counted_of_allowed {conv : ReplyConversion} {windowSecs : ℕ} (hw : 0 < windowSecs)
    {store : Store String ℤ} {now : ℕ} {keyPrefix : String}
    (hkept : WindowsKept windowSecs keyPrefix store)
    (hnonneg : ∀ k, 0 ≤ stored store (windowKey keyPrefix k)) {limit : ℕ}
    (hlimit : limit < 2 ^ 32 - 1) {result : WindowCheckResult}
    (hcheck : (checkAndIncrement conv windowSecs .working store now keyPrefix limit).1 = .ok result)
    (hallowed : result.allowed = true) :
    stored store (windowKey keyPrefix (windowOf windowSecs now)) + 1 ≤ limit := by
  have hcurrent := hnonneg (windowOf windowSecs now)
  have hprevious : 0 ≤ stored (slidingWindow windowSecs store now keyPrefix).2
      (windowKey keyPrefix (windowOf windowSecs now - 1)) := by
    have hstored := hnonneg (windowOf windowSecs now - 1)
    rw [stored_slidingWindow hw hkept]
    split_ifs <;> omega
  rw [checkAndIncrement_working, slidingWindow_fst hw hkept,
    conv.read_nonneg (by omega) hprevious] at hcheck
  obtain rfl : buildCheckResult _ _ _ _ _ = result := Except.ok.inj hcheck
  have hwithin := (buildCheckResult_allowed_iff hw hlimit _ _ _).mp hallowed
  have hoverlapping := overlapping_nonneg windowSecs
    (stored (slidingWindow windowSecs store now keyPrefix).2
      (windowKey keyPrefix (windowOf windowSecs now - 1))).toNat (now / 1000)
  dsimp only at hwithin
  omega

theorem AccountingState.Exact.stored_nonneg {windowSecs : ℕ} {s : AccountingState}
    (h : s.Exact windowSecs) (scope : RateScope) (k : ℕ) :
    0 ≤ stored s.store (windowKey scope.keyPrefix k) :=
  (Int.natCast_nonneg _).trans_eq (h.counted scope k).symm

/-- The limits hold, and the counters say how far they are used up. -/
structure AccountingState.Within (windowSecs globalRpm : ℕ) (s : AccountingState) : Prop where
  exact : s.Exact windowSecs
  sound : ∀ c ∈ s.calls, c.Sound
  account : ∀ saId k limit, limit < 2 ^ 32 - 1 →
    s.calls.countP (·.admitted saId k limit) ≤ limit
  global : ∀ k, s.calls.countP (·.letThroughIn k) ≤ globalRpm

section Within

variable {conv : ReplyConversion} {windowSecs globalRpm : ℕ} {s t : AccountingState}

theorem AccountingState.Within.start (h : s.Within windowSecs globalRpm) (saId : ServiceAccountId)
    (rpmLimit : Option ℕ) : AccountingState.Within windowSecs globalRpm
      { s with calls := s.calls ++ [.start saId rpmLimit] } where
  exact := h.exact.start saId rpmLimit
  sound c hc := by
    rcases List.mem_append.mp hc with hold | hnew
    · exact h.sound c hold
    · rw [List.mem_singleton.mp hnew]
      exact EvaluateCall.sound_start saId rpmLimit
  account sa k limit hlimit := by
    simpa [List.countP_append, EvaluateCall.admitted, EvaluateCall.start] using
      h.account sa k limit hlimit
  global k := by
    simpa [List.countP_append, EvaluateCall.letThroughIn, EvaluateCall.start] using h.global k

theorem AccountingState.Within.sound_set (h : s.Within windowSecs globalRpm) {i : ℕ}
    {c : EvaluateCall} (hc : c.Sound) : ∀ d ∈ s.calls.set i c, d.Sound := by
  intro d hd
  rcases List.mem_or_eq_of_mem_set hd with hold | rfl
  · exact h.sound d hold
  · exact hc

theorem countP_admitted_le (h : s.Exact windowSecs) (saId : ServiceAccountId) (k limit : ℕ) :
    (s.calls.countP (·.admitted saId k limit) : ℤ) ≤
      stored s.store (windowKey (saKeyPrefix saId) k) := by
  refine le_of_le_of_eq ?_ (h.counted (.serviceAccount saId) k).symm
  refine Nat.cast_le.mpr (List.countP_mono_left fun c _ hc ↦ ?_)
  simp only [EvaluateCall.admitted, Bool.and_eq_true] at hc
  exact hc.1.1

theorem countP_letThroughIn_le (h : s.Exact windowSecs) (k : ℕ) :
    (s.calls.countP (·.letThroughIn k) : ℤ) ≤ stored s.store (windowKey globalKeyPrefix k) := by
  refine le_of_le_of_eq ?_ (h.counted .global k).symm
  refine Nat.cast_le.mpr (List.countP_mono_left fun c _ hc ↦ ?_)
  exact (Bool.and_eq_true_iff.mp hc).2

/-- A call that becomes admitted has just been allowed by the check of its account. -/
theorem allowed_of_admitted {c : EvaluateCall} {saRpm window after : ℕ}
    {answer : Except StorageError WindowCheckResult} (hlimit : c.rpmLimit = some saRpm)
    (hresult : c.saResult = none) {saId : ServiceAccountId} {k limit : ℕ}
    (h : (c.afterSaCheck window after answer).admitted saId k limit = true) :
    c.saId = saId ∧ window = k ∧ saRpm ≤ limit ∧
      ∃ result, answer = .ok result ∧ result.allowed = true := by
  unfold EvaluateCall.afterSaCheck at h
  split at h
  · simp [EvaluateCall.admitted, hresult] at h
  · next result =>
    split_ifs at h with hallowed
    · simp only [EvaluateCall.admitted, EvaluateCall.counts, hlimit, Option.any_some,
        Bool.and_eq_true, decide_eq_true_eq, Option.some.injEq] at h
      exact ⟨h.1.1.1.1, h.1.1.1.2, h.2, result, rfl, hallowed⟩
    · simp [EvaluateCall.admitted, hresult] at h

theorem AccountingState.Within.saCheck (hw : 0 < windowSecs) (h : s.Within windowSecs globalRpm)
    {i now after : ℕ}
    (hstep : accountingStep conv windowSecs globalRpm s (.saCheck i now after) = some t) :
    t.Within windowSecs globalRpm := by
  have hexact := h.exact.saCheck hw hstep
  obtain ⟨c, c', store, hi, hmove, rfl⟩ := moveCall_eq_some hstep
  have hsound := h.sound c (List.mem_of_getElem? hi)
  have hwf := h.exact.wellFormed c (List.mem_of_getElem? hi)
  split at hmove
  · next saRpm hphase =>
    obtain ⟨hlimit, hresult⟩ := hsound.limit saRpm hphase
    simp only [EvaluateCall.WellFormed, hphase] at hwf
    obtain ⟨_, _, hrejected, _⟩ := hwf
    cases hmove
    have hnot : (c.afterSaCheck (windowOf windowSecs now) after (checkAndIncrement conv windowSecs
        .working s.store now (saKeyPrefix c.saId) saRpm).1).letThrough = false := by
      unfold EvaluateCall.afterSaCheck
      split
      · rfl
      · split_ifs <;> rfl
    refine ⟨hexact, h.sound_set ⟨fun r hr ↦ ?_, fun hlet ↦ ?_⟩, fun saId k limit hle ↦ ?_,
      fun k ↦ ?_⟩
    · unfold EvaluateCall.afterSaCheck at hr
      split at hr
      · cases hr
      · split_ifs at hr
    · rw [hnot] at hlet
      cases hlet
    · by_cases hadmitted : EvaluateCall.admitted saId k limit (c.afterSaCheck
          (windowOf windowSecs now) after (checkAndIncrement conv windowSecs .working s.store now
            (saKeyPrefix c.saId) saRpm).1) = true
      · obtain ⟨rfl, rfl, hrpm, result, hcheck, hallowed⟩ :=
          allowed_of_admitted hlimit hresult hadmitted
        have hcounted := counted_of_allowed hw (h.exact.kept (.serviceAccount c.saId))
          (h.exact.stored_nonneg (.serviceAccount c.saId)) (hrpm.trans_lt hle) hcheck hallowed
        have hbefore := countP_admitted_le h.exact c.saId (windowOf windowSecs now) limit
        refine (Processes.countP_set_le_add_one _ hi _).trans ?_
        simp only [RateScope.keyPrefix] at hcounted
        omega
      · exact (Processes.countP_set_le hi fun h ↦ absurd h hadmitted).trans
          (h.account saId k limit hle)
    · refine (Processes.countP_set_le hi fun hlet ↦ ?_).trans (h.global k)
      simp [EvaluateCall.letThroughIn, hnot] at hlet
  · cases hmove

theorem afterGlobalCheck_admitted {c : EvaluateCall} (hrejected : c.rejectedByGlobal = false)
    (hrpm : c.rpmLimit = none → c.saWindow = none) (window after : ℕ)
    (answer : Except StorageError WindowCheckResult) (saId : ServiceAccountId) (k limit : ℕ) :
    (c.afterGlobalCheck window after answer).admitted saId k limit = c.admitted saId k limit := by
  have hcounts := afterGlobalCheck_counts hrejected hrpm window after answer
    (.serviceAccount saId) k
  have hsame : (c.afterGlobalCheck window after answer).saResult = c.saResult ∧
      (c.afterGlobalCheck window after answer).rpmLimit = c.rpmLimit := by
    unfold EvaluateCall.afterGlobalCheck
    split
    · exact ⟨rfl, rfl⟩
    · split_ifs <;> exact ⟨rfl, rfl⟩
  simp only [EvaluateCall.admitted, hcounts, hsame.1, hsame.2]

/-- A call that is let through has just been allowed by the global check. -/
theorem allowed_of_letThrough {c : EvaluateCall} {window after : ℕ}
    {answer : Except StorageError WindowCheckResult}
    (h : (c.afterGlobalCheck window after answer).letThrough = true) :
    (c.afterGlobalCheck window after answer).rejectedByGlobal = c.rejectedByGlobal ∧
      (c.afterGlobalCheck window after answer).passedSaCheck = c.passedSaCheck ∧
      ∃ result, answer = .ok result ∧ result.allowed = true := by
  unfold EvaluateCall.afterGlobalCheck at h ⊢
  split at h
  · cases h
  · next result =>
    split_ifs at h with hallowed hsome
    · simp only [hallowed, if_true]
      exact ⟨trivial, rfl, result, rfl, hallowed⟩
    · cases h
    · cases h

theorem AccountingState.Within.globalCheck (hw : 0 < windowSecs)
    (hglobal : globalRpm < 2 ^ 32 - 1) (h : s.Within windowSecs globalRpm) {i now after : ℕ}
    (hstep : accountingStep conv windowSecs globalRpm s (.globalCheck i now after) = some t) :
    t.Within windowSecs globalRpm := by
  have hexact := h.exact.globalCheck hw hstep
  obtain ⟨c, c', store, hi, hmove, rfl⟩ := moveCall_eq_some hstep
  have hwf := h.exact.wellFormed c (List.mem_of_getElem? hi)
  split at hmove
  · next hphase =>
    simp only [EvaluateCall.WellFormed, hphase] at hwf
    obtain ⟨_, hrejected, hrpm, hpassed⟩ := hwf
    cases hmove
    refine ⟨hexact, h.sound_set ⟨fun r hr ↦ ?_, fun hlet ↦ ?_⟩, fun saId k limit hle ↦ ?_,
      fun k ↦ ?_⟩
    · unfold EvaluateCall.afterGlobalCheck at hr
      split at hr
      · cases hr
      · split_ifs at hr
    · obtain ⟨hsame, hsame', _⟩ := allowed_of_letThrough hlet
      exact ⟨hsame.trans hrejected, hsame'.trans hpassed⟩
    · refine (Processes.countP_set_le hi fun hadmitted ↦ ?_).trans (h.account saId k limit hle)
      rwa [afterGlobalCheck_admitted hrejected hrpm] at hadmitted
    · by_cases hlet : EvaluateCall.letThroughIn k (c.afterGlobalCheck (windowOf windowSecs now)
          after (checkAndIncrement conv windowSecs .working s.store now globalKeyPrefix
            globalRpm).1) = true
      · obtain ⟨hthrough, hwindow⟩ := Bool.and_eq_true_iff.mp hlet
        obtain ⟨_, _, result, hcheck, hallowed⟩ := allowed_of_letThrough hthrough
        have hcount := afterGlobalCheck_counts hrejected hrpm (windowOf windowSecs now) after
          (checkAndIncrement conv windowSecs .working s.store now globalKeyPrefix globalRpm).1
          .global k
        have hk : windowOf windowSecs now = k := of_decide_eq_true (hcount.symm.trans hwindow)
        have hcounted := counted_of_allowed hw (h.exact.kept .global)
          (h.exact.stored_nonneg .global) hglobal hcheck hallowed
        have hbefore := countP_letThroughIn_le h.exact k
        refine (Processes.countP_set_le_add_one _ hi _).trans ?_
        simp only [RateScope.keyPrefix, hk] at hcounted
        omega
      · exact (Processes.countP_set_le hi fun h ↦ absurd h hlet).trans (h.global k)
  · cases hmove

theorem AccountingState.Within.rollback (hw : 0 < windowSecs) (h : s.Within windowSecs globalRpm)
    {i now after : ℕ} (hguard : RollbackInWindow windowSecs s (.rollback i now after))
    (hstep : accountingStep conv windowSecs globalRpm s (.rollback i now after) = some t) :
    t.Within windowSecs globalRpm := by
  have hexact := h.exact.rollback hw hguard hstep
  obtain ⟨c, c', store, hi, hmove, rfl⟩ := moveCall_eq_some hstep
  have hwf := h.exact.wellFormed c (List.mem_of_getElem? hi)
  split at hmove
  · next resetAt hphase =>
    simp only [EvaluateCall.WellFormed, hphase] at hwf
    cases hmove
    refine ⟨hexact, h.sound_set ⟨fun r hr ↦ EvaluatePhase.noConfusion hr,
      fun hlet ↦ Bool.noConfusion hlet⟩, fun saId k limit hle ↦ ?_, fun k ↦ ?_⟩
    · refine (Processes.countP_set_le hi fun hadmitted ↦ ?_).trans (h.account saId k limit hle)
      simp [EvaluateCall.admitted, EvaluateCall.counts, EvaluateCall.afterRollback, hwf.1,
        EvaluatePhase.isReturned] at hadmitted
    · exact (Processes.countP_set_le hi fun hlet ↦ Bool.noConfusion hlet).trans (h.global k)
  · cases hmove

end Within

theorem AccountingState.Within.step {conv : ReplyConversion} {windowSecs globalRpm : ℕ}
    (hw : 0 < windowSecs)
    (hglobal : globalRpm < 2 ^ 32 - 1) (s : AccountingState) (a : AccountingStep)
    (t : AccountingState) (h : s.Within windowSecs globalRpm)
    (hguard : RollbackInWindow windowSecs s a)
    (hstep : accountingStep conv windowSecs globalRpm s a = some t) :
    t.Within windowSecs globalRpm := by
  cases a with
  | start saId rpmLimit =>
      cases hstep
      exact h.start saId rpmLimit
  | saCheck i now after => exact h.saCheck hw hstep
  | globalCheck i now after => exact h.globalCheck hw hglobal hstep
  | rollback i now after => exact h.rollback hw hguard hstep

/-! ## Whole runs -/

end SmartGate
