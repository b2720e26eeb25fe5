import SmartGate.Policy.RateLimitAccounting
import SmartGate.Policy.RateLimitHistory

/-!
# Waiting as long as the limiter asks

A rejected caller is told how many seconds are left until its window ends.  At that instant
the window that has ended still counts in full, with all its calls, the rejected ones
included.  Waiting is therefore enough for a caller whose window had room.
-/

namespace SmartGate

open ExpiringStore

section Boundary

variable {windowSecs : ℕ}

theorem windowOf_boundary (hw : 0 < windowSecs) {now later : ℕ}
    (hlater : later / 1000 = (now / 1000 / windowSecs + 1) * windowSecs) :
    windowOf windowSecs later = windowOf windowSecs now + 1 := by
  rw [windowOf, hlater, Nat.mul_div_cancel _ hw, windowOf]

/-- At the start of a window, all calls of the previous one overlap. -/
theorem overlapping_boundary (hw : 0 < windowSecs) (previous k : ℕ) :
    overlapping windowSecs previous (k * windowSecs) = previous := by
  have hne : (windowSecs : ℚ) ≠ 0 := Nat.cast_ne_zero.mpr hw.ne'
  rw [overlapping, Nat.mul_mod_left, Nat.sub_zero, Nat.cast_mul, mul_div_assoc, div_self hne,
    mul_one, Int.ceil_natCast]

/-- Earlier calls are in earlier windows or in the same one. -/
theorem callsIn_next {times : List ℕ} {now : ℕ} (h : ∀ t ∈ times, t ≤ now) :
    callsIn windowSecs times (windowOf windowSecs now + 1) = 0 := by
  rw [callsIn, List.countP_eq_zero]
  intro t ht
  have hmono := windowOf_mono windowSecs (h t ht)
  simp only [decide_eq_true_eq]
  omega

/-- Only a limit below the largest `u32` can be exceeded. -/
theorem limit_lt_of_rejected {current previous nowSecs limit : ℕ}
    (h : (buildCheckResult current previous nowSecs windowSecs limit).allowed = false) :
    limit < 2 ^ 32 - 1 := by
  have hnot : ¬ asU32 ⌈weightedCount current previous (nowSecs % windowSecs) windowSecs⌉ ≤ limit :=
    fun hle ↦ by simp [(buildCheckResult_allowed ..).mpr hle] at h
  have hcast : asU32 ⌈weightedCount current previous (nowSecs % windowSecs) windowSecs⌉ ≤
      2 ^ 32 - 1 := min_le_right _ _
  omega

end Boundary

/-- A call is rejected, the caller waits for the seconds it is told, and nobody else calls
in the meantime.  The next call is then allowed exactly when fewer calls than the limit were
made in the window of the rejected one, which is among them. -/
theorem retry_allowed_iff {conv : ReplyConversion} {windowSecs limit : ℕ} (hw : 1 ≤ windowSecs)
    {keyPrefix : String} {store : Store String ℤ} (hunused : Unused keyPrefix store)
    {before : List ℕ} {now : ℕ} (hbefore : ∀ t ∈ before, t ≤ now)
    (hnow : windowSecs ≤ now / 1000) {rejected : WindowCheckResult}
    {store' : Store String ℤ}
    (hcall : checkAndIncrement conv windowSecs .working
      (afterCalls windowSecs keyPrefix store before) now keyPrefix limit = (.ok rejected, store'))
    (hrejected : rejected.allowed = false) (message : String) {seconds later : ℕ}
    (hreported : (rateLimitExceeded message rejected.resetAt now).retryAfter = some seconds)
    (hlater : later / 1000 = now / 1000 + seconds) :
    ∃ retried,
      (checkAndIncrement conv windowSecs .working store' later keyPrefix limit).1 = .ok retried ∧
        (retried.allowed = true ↔
          callsIn windowSecs (before ++ [now]) (windowOf windowSecs now) < limit) := by
  have hanswer := congrArg Prod.fst hcall
  have hstore : store' = afterCalls windowSecs keyPrefix store (before ++ [now]) := by
    rw [afterCalls_append_singleton conv limit, hcall]
  rw [checkAndIncrement_afterCalls hw hunused before (one_le_windowOf hw hnow)] at hanswer
  cases hanswer
  have hlimit := limit_lt_of_rejected hrejected
  have hend : later / 1000 = (now / 1000 / windowSecs + 1) * windowSecs := by
    have hlt := Nat.lt_div_mul_add hw (a := now / 1000)
    have hseconds : (now / 1000 / windowSecs + 1) * windowSecs - now / 1000 = seconds :=
      Option.some.inj hreported
    rw [Nat.succ_mul] at hseconds ⊢
    omega
  have hwindow := windowOf_boundary hw hend
  have hnext : callsIn windowSecs (before ++ [now]) (windowOf windowSecs later) = 0 := by
    rw [hwindow]
    apply callsIn_next
    intro t ht
    rcases List.mem_append.mp ht with ht | ht
    · exact hbefore t ht
    · exact (List.mem_singleton.mp ht).le
  have hlate : 1 ≤ windowOf windowSecs later := by omega
  rw [hstore]
  refine ⟨_, checkAndIncrement_afterCalls hw hunused (before ++ [now]) hlate limit, ?_⟩
  rw [buildCheckResult_allowed_iff hw hlimit, hnext, hwindow, Nat.add_sub_cancel, hend,
    overlapping_boundary hw]
  omega

/-- Two calls fill a window.  A third one at the start of the next window is rejected, and
is allowed a minute later. -/
theorem retry_allowed_iff_one_call :
    ∃ rejected store' retried,
      checkAndIncrement .wrapping 60 .working (afterCalls 60 "rl:global" empty [60000, 61000])
        120000 "rl:global" 2 = (.ok rejected, store') ∧
      rejected.allowed = false ∧
      (checkAndIncrement .wrapping 60 .working store' 180000 "rl:global" 2).1 = .ok retried ∧
      retried.allowed = true := by
  have hanswer := @checkAndIncrement_afterCalls .wrapping 60 "rl:global" empty (by decide)
    (fun _ ↦ rfl) [60000, 61000] 120000 (by decide) 2
  have hrejected : (buildCheckResult 1 2 120 60 2).allowed = false := by
    norm_num [buildCheckResult, weightedCount, asU32]
  obtain ⟨retried, hretry, hallowed⟩ := @retry_allowed_iff .wrapping 60 2 (by decide)
    "rl:global" empty (fun _ ↦ rfl) [60000, 61000] 120000 (by decide) (by decide) _ _
    (Prod.ext hanswer rfl) hrejected "global rate limit exceeded" 60 180000 rfl rfl
  exact ⟨_, _, retried, Prod.ext hanswer rfl, hrejected, hretry, hallowed.mpr (by decide)⟩

/-- With a limit of one call a minute, the second call of a window is rejected with 59
seconds to wait, and is rejected again after them. -/
theorem retry_rejected_again :
    ∃ rejected store' retried,
      checkAndIncrement .wrapping 60 .working (afterCalls 60 "rl:global" empty [60000]) 61000
        "rl:global" 1 = (.ok rejected, store') ∧
      rejected.allowed = false ∧
      (rateLimitExceeded "global rate limit exceeded" rejected.resetAt 61000).retryAfter =
        some 59 ∧
      (checkAndIncrement .wrapping 60 .working store' 120000 "rl:global" 1).1 = .ok retried ∧
      retried.allowed = false := by
  have hanswer := @checkAndIncrement_afterCalls .wrapping 60 "rl:global" empty (by decide)
    (fun _ ↦ rfl) [60000] 61000 (by decide) 1
  have hrejected : (buildCheckResult 2 0 61 60 1).allowed = false := by
    norm_num [buildCheckResult, weightedCount, asU32]
  have hretry := @checkAndIncrement_afterCalls .wrapping 60 "rl:global" empty (by decide)
    (fun _ ↦ rfl) [60000, 61000] 120000 (by decide) 1
  have hagain : (buildCheckResult 1 2 120 60 1).allowed = false := by
    norm_num [buildCheckResult, weightedCount, asU32]
  exact ⟨_, _, _, Prod.ext hanswer rfl, hrejected, rfl, hretry, hagain⟩

end SmartGate
