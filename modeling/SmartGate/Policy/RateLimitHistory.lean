import SmartGate.Policy.RateLimit

/-!
# The sliding window and the history of calls

The limiter keeps two counters with a time to live.  Its specification is about the
history: a call is allowed when the calls of its own window so far, and the share of the
calls of the previous window that the sliding window still overlaps, stay within the
limit.  The counters never forget what the specification still needs, so the decisions
agree, and no window admits more calls than the limit.
-/

namespace SmartGate

open ExpiringStore

/-! ## Decisions of a sequence of calls -/

/-- The answers to calls that are made one after the other, by whichever instances. -/
def runCalls (conv : ReplyConversion) (windowSecs : ℕ) (keyPrefix : String) (limit : ℕ) :
    Store String ℤ → List ℕ → List (Except StorageError WindowCheckResult)
  | _, [] => []
  | store, now :: times =>
      let answer := checkAndIncrement conv windowSecs .working store now keyPrefix limit
      answer.1 :: runCalls conv windowSecs keyPrefix limit answer.2 times

def isAllowed (answer : Except StorageError WindowCheckResult) : Bool :=
  match answer with
  | .ok result => result.allowed
  | .error _ => false

/-- The calls of window `k` that were allowed. -/
def allowedIn (windowSecs : ℕ) (times : List ℕ)
    (answers : List (Except StorageError WindowCheckResult)) (k : ℕ) : ℕ :=
  (times.zip answers).countP fun call ↦
    decide (windowOf windowSecs call.1 = k) && isAllowed call.2

theorem allowedIn_cons (windowSecs now : ℕ) (times : List ℕ)
    (answer : Except StorageError WindowCheckResult)
    (answers : List (Except StorageError WindowCheckResult)) (k : ℕ) :
    allowedIn windowSecs (now :: times) (answer :: answers) k =
      allowedIn windowSecs times answers k +
        if windowOf windowSecs now = k ∧ isAllowed answer = true then 1 else 0 := by
  rw [allowedIn, List.zip_cons_cons, List.countP_cons, allowedIn]
  simp

/-! ## The specification -/

/-- The previous calls that the sliding window still overlaps, rounded up. -/
def overlapping (windowSecs previous nowSecs : ℕ) : ℤ :=
  ⌈((previous * (windowSecs - nowSecs % windowSecs) : ℕ) : ℚ) / windowSecs⌉

/-- Call number `i` is within the limit, given all calls of the previous window. -/
def WithinLimit (windowSecs limit : ℕ) (times : List ℕ) (i now : ℕ) : Prop :=
  (callsIn windowSecs (times.take (i + 1)) (windowOf windowSecs now) : ℤ) +
    overlapping windowSecs (callsIn windowSecs times (windowOf windowSecs now - 1)) (now / 1000) ≤
      limit

section Specification

variable {windowSecs limit : ℕ}

theorem ceil_weightedCount (hw : 0 < windowSecs) (current previous nowSecs : ℕ) :
    ⌈weightedCount current previous (nowSecs % windowSecs) windowSecs⌉ =
      current + overlapping windowSecs previous nowSecs := by
  have hne : (windowSecs : ℚ) ≠ 0 := Nat.cast_ne_zero.mpr hw.ne'
  have hle : nowSecs % windowSecs ≤ windowSecs := (Nat.mod_lt nowSecs hw).le
  have hsplit : weightedCount current previous (nowSecs % windowSecs) windowSecs =
      ((previous * (windowSecs - nowSecs % windowSecs) : ℕ) : ℚ) / windowSecs +
        (current : ℤ) := by
    rw [weightedCount, if_neg hw.ne', Nat.cast_mul, Nat.cast_sub hle, Int.cast_natCast]
    field_simp
  rw [hsplit, Int.ceil_add_intCast, overlapping, add_comm]

theorem overlapping_nonneg (windowSecs previous nowSecs : ℕ) :
    0 ≤ overlapping windowSecs previous nowSecs :=
  Int.ceil_nonneg (div_nonneg (Nat.cast_nonneg _) (Nat.cast_nonneg _))

theorem asU32_le (hlimit : limit < 2 ^ 32 - 1) (n : ℤ) : asU32 n ≤ limit ↔ n ≤ limit := by
  unfold asU32
  omega

/-- Below the largest `u32`, the decision is the comparison that the cast stands for. -/
theorem buildCheckResult_allowed_iff (hw : 0 < windowSecs) (hlimit : limit < 2 ^ 32 - 1)
    (current previous nowSecs : ℕ) :
    (buildCheckResult current previous nowSecs windowSecs limit).allowed = true ↔
      (current : ℤ) + overlapping windowSecs previous nowSecs ≤ limit := by
  rw [buildCheckResult_allowed, asU32_le hlimit, ceil_weightedCount hw]

end Specification

/-! ## Calls at non-decreasing times -/

theorem windowOf_mono (windowSecs : ℕ) {now later : ℕ} (h : now ≤ later) :
    windowOf windowSecs now ≤ windowOf windowSecs later :=
  Nat.div_le_div_right (Nat.div_le_div_right h)

theorem one_le_windowOf {windowSecs now : ℕ} (hw : 0 < windowSecs) (h : windowSecs ≤ now / 1000) :
    1 ≤ windowOf windowSecs now := (Nat.one_le_div_iff hw).mpr h

theorem callsIn_append (windowSecs : ℕ) (times later : List ℕ) (k : ℕ) :
    callsIn windowSecs (times ++ later) k =
      callsIn windowSecs times k + callsIn windowSecs later k :=
  List.countP_append

theorem callsIn_eq_zero {windowSecs : ℕ} {times : List ℕ} {k : ℕ}
    (h : ∀ now ∈ times, k < windowOf windowSecs now) : callsIn windowSecs times k = 0 := by
  rw [callsIn, List.countP_eq_zero]
  intro now hnow
  simpa using (h now hnow).ne'

/-- When a call is made, the calls of the previous window have all been made. -/
theorem callsIn_previous {windowSecs : ℕ} {before after : List ℕ} {now : ℕ}
    (hsorted : (before ++ now :: after).Pairwise (· ≤ ·)) (hnow : 1 ≤ windowOf windowSecs now) :
    callsIn windowSecs (before ++ now :: after) (windowOf windowSecs now - 1) =
      callsIn windowSecs before (windowOf windowSecs now - 1) := by
  have hlater : ∀ t ∈ now :: after, windowOf windowSecs now - 1 < windowOf windowSecs t := by
    intro t ht
    have hle : now ≤ t := by
      rcases List.mem_cons.mp ht with rfl | ht
      · exact le_rfl
      · exact List.rel_of_pairwise_cons (List.pairwise_append.mp hsorted).2.1 ht
    have hmono := windowOf_mono windowSecs hle
    omega
  rw [callsIn_append, callsIn_eq_zero hlater, Nat.add_zero]

section Runs

variable {conv : ReplyConversion} {windowSecs limit : ℕ} {keyPrefix : String}
  {store : Store String ℤ}

theorem afterCalls_append_singleton (conv : ReplyConversion) (limit : ℕ) (times : List ℕ)
    (now : ℕ) :
    afterCalls windowSecs keyPrefix store (times ++ [now]) =
      (checkAndIncrement conv windowSecs .working (afterCalls windowSecs keyPrefix store times) now
        keyPrefix limit).2 := by
  rw [afterCalls, List.foldl_append]
  rfl

/-- The answer to a call, in terms of the calls before it. -/
theorem getElem?_runCalls (before times : List ℕ) (i : ℕ) :
    (runCalls conv windowSecs keyPrefix limit (afterCalls windowSecs keyPrefix store before)
        times)[i]? =
      times[i]?.map fun now ↦ (checkAndIncrement conv windowSecs .working
        (afterCalls windowSecs keyPrefix store (before ++ times.take i)) now keyPrefix
          limit).1 := by
  induction times generalizing before i with
  | nil => simp [runCalls]
  | cons now times ih =>
      cases i with
      | zero => simp [runCalls]
      | succ i =>
          have htail := ih (before ++ [now]) i
          rw [afterCalls_append_singleton conv limit] at htail
          simpa [runCalls] using htail

/-- From any earlier history, a window admits at most what the limit leaves. -/
theorem allowedIn_le (hw : 0 < windowSecs) (hlimit : limit < 2 ^ 32 - 1)
    (hunused : Unused keyPrefix store) (before times : List ℕ)
    (hlate : ∀ now ∈ times, windowSecs ≤ now / 1000) (k : ℕ) :
    allowedIn windowSecs times (runCalls conv windowSecs keyPrefix limit
      (afterCalls windowSecs keyPrefix store before) times) k ≤
        limit - callsIn windowSecs before k := by
  induction times generalizing before with
  | nil => simp [allowedIn]
  | cons now times ih =>
      have hnow := one_le_windowOf hw (hlate now List.mem_cons_self)
      have htail := ih (before ++ [now]) fun t ht ↦ hlate t (List.mem_cons_of_mem now ht)
      rw [afterCalls_append_singleton conv limit, callsIn_append] at htail
      rw [runCalls, allowedIn_cons]
      by_cases hk : windowOf windowSecs now = k
      · have hone : callsIn windowSecs [now] k = 1 := by simp [callsIn, hk]
        have hfits : isAllowed (checkAndIncrement conv windowSecs .working
            (afterCalls windowSecs keyPrefix store before) now keyPrefix limit).1 = true →
              callsIn windowSecs before k + 1 ≤ limit := by
          rw [checkAndIncrement_afterCalls hw hunused before hnow limit, hk]
          intro hallowed
          have hwithin := (buildCheckResult_allowed_iff hw hlimit _ _ _).mp hallowed
          have hoverlap := overlapping_nonneg windowSecs (callsIn windowSecs before (k - 1))
            (now / 1000)
          omega
        rw [hone] at htail
        split_ifs with hallowed
        · have hroom := hfits hallowed.2
          omega
        · omega
      · have hnone : callsIn windowSecs [now] k = 0 := by simp [callsIn, hk]
        rw [hnone] at htail
        simpa [hk] using htail

/-- The limiter refines its specification.  Each call is answered, finds in the previous
counter all calls of the previous window, and is allowed exactly when it is within the
limit; a window admits no more calls than the limit. -/
theorem limiter_refines_history (hw : 1 ≤ windowSecs) (hlimit : limit < 2 ^ 32 - 1)
    (hunused : Unused keyPrefix store) {times : List ℕ} (hsorted : times.Pairwise (· ≤ ·))
    (hlate : ∀ now ∈ times, windowSecs ≤ now / 1000) :
    (∀ i now, times[i]? = some now →
      (slidingWindow windowSecs (afterCalls windowSecs keyPrefix store (times.take i)) now
        keyPrefix).1.2 = callsIn windowSecs times (windowOf windowSecs now - 1) ∧
      ∃ result, (runCalls conv windowSecs keyPrefix limit store times)[i]? = some (.ok result) ∧
        (result.allowed = true ↔ WithinLimit windowSecs limit times i now)) ∧
    ∀ k, allowedIn windowSecs times (runCalls conv windowSecs keyPrefix limit store times) k ≤
      limit := by
  refine ⟨fun i now hi ↦ ?_, fun k ↦ allowedIn_le hw hlimit hunused [] times hlate k⟩
  obtain ⟨hlt, hget⟩ := List.getElem?_eq_some_iff.mp hi
  have hnow := one_le_windowOf hw (hlate now (List.mem_of_getElem? hi))
  have hsplit : times = times.take i ++ now :: times.drop (i + 1) := by
    rw [← hget, ← List.drop_eq_getElem_cons hlt, List.take_append_drop]
  have hprevious : callsIn windowSecs times (windowOf windowSecs now - 1) =
      callsIn windowSecs (times.take i) (windowOf windowSecs now - 1) := by
    conv_lhs => rw [hsplit]
    exact callsIn_previous (hsplit ▸ hsorted) hnow
  have hcurrent : callsIn windowSecs (times.take (i + 1)) (windowOf windowSecs now) =
      callsIn windowSecs (times.take i) (windowOf windowSecs now) + 1 := by
    rw [List.take_add_one, hi, callsIn_append]
    simp [callsIn]
  have hanswer : (runCalls conv windowSecs keyPrefix limit store times)[i]? = some
      (checkAndIncrement conv windowSecs .working
        (afterCalls windowSecs keyPrefix store (times.take i)) now keyPrefix limit).1 := by
    refine (getElem?_runCalls [] times i).trans ?_
    rw [hi]
    rfl
  rw [checkAndIncrement_afterCalls hw hunused _ hnow] at hanswer
  rw [slidingWindow_afterCalls hw hunused _ hnow, hprevious]
  refine ⟨rfl, _, hanswer, ?_⟩
  rw [buildCheckResult_allowed_iff hw hlimit, WithinLimit, hcurrent, hprevious]

end Runs

/-- Two calls in one window, and one halfway through the next, with a limit of two. -/
theorem limiter_refines_history_three :
    ∃ result, (runCalls .wrapping 60 "rl:global" 2 empty [60000, 61000, 150000])[2]? =
        some (.ok result) ∧
      (result.allowed = true ↔ WithinLimit 60 2 [60000, 61000, 150000] 2 150000) ∧
      allowedIn 60 [60000, 61000, 150000]
        (runCalls .wrapping 60 "rl:global" 2 empty [60000, 61000, 150000]) 1 ≤ 2 := by
  obtain ⟨hcalls, hwindow⟩ := @limiter_refines_history .wrapping 60 2 "rl:global" empty (by decide)
    (by decide) (fun _ ↦ rfl) [60000, 61000, 150000] (by decide) (by decide)
  obtain ⟨_, result, hresult, hallowed⟩ := hcalls 2 150000 rfl
  exact ⟨result, hresult, hallowed, hwindow 1⟩

end SmartGate
