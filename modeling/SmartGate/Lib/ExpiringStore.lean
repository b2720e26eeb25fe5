import Mathlib.Algebra.Order.Ring.Int
import Mathlib.Data.Option.Basic
import Mathlib.Tactic.Common

/-!
# A key-value store whose entries expire

Every entry may carry a deadline.  An entry is absent from the moment its
deadline is reached, whether or not it has been removed.  Commands are atomic and
take the instant at which they are executed.
-/

namespace ExpiringStore

variable {κ ν : Type*}

structure Entry (ν : Type*) where
  value : ν
  deadline : Option ℕ
  deriving DecidableEq

/-- The deadline, if there is one, has not been reached. -/
def Entry.live (e : Entry ν) (now : ℕ) : Bool :=
  match e.deadline with
  | none => true
  | some d => decide (now < d)

theorem Entry.live_iff {e : Entry ν} {now : ℕ} :
    e.live now = true ↔ ∀ d ∈ e.deadline, now < d := by
  cases h : e.deadline with
  | none => simp [Entry.live, h]
  | some d => simp [Entry.live, h]

theorem Entry.live_of_le {e : Entry ν} {now later : ℕ} (hle : now ≤ later)
    (h : e.live later = true) : e.live now = true :=
  Entry.live_iff.mpr fun d hd ↦ hle.trans_lt (Entry.live_iff.mp h d hd)

abbrev Store (κ ν : Type*) := κ → Option (Entry ν)

def empty : Store κ ν := fun _ ↦ none

/-- The entry a command at `now` finds under `k`. -/
def lookup (s : Store κ ν) (now : ℕ) (k : κ) : Option (Entry ν) :=
  (s k).filter fun e ↦ e.live now

def get (s : Store κ ν) (now : ℕ) (k : κ) : Option ν := (lookup s now k).map Entry.value

def count (s : Store κ ℤ) (now : ℕ) (k : κ) : ℤ := (get s now k).getD 0

theorem lookup_eq_some {s : Store κ ν} {now : ℕ} {k : κ} {e : Entry ν} :
    lookup s now k = some e ↔ s k = some e ∧ e.live now = true := by
  simp [lookup, Option.filter_eq_some_iff]

theorem lookup_eq_none {s : Store κ ν} {now : ℕ} {k : κ} :
    lookup s now k = none ↔ ∀ e, s k = some e → e.live now = false := by
  simp [lookup, Option.filter_eq_none_iff]

theorem lookup_congr {s t : Store κ ν} {k : κ} (h : s k = t k) (now : ℕ) :
    lookup s now k = lookup t now k := by
  simp [lookup, h]

theorem get_congr {s t : Store κ ν} {k : κ} (h : s k = t k) (now : ℕ) :
    get s now k = get t now k := by
  rw [get, get, lookup_congr h now]

theorem exists_entry_of_get {s : Store κ ν} {now : ℕ} {k : κ} {v : ν}
    (h : get s now k = some v) : ∃ e, s k = some e ∧ e.value = v := by
  obtain ⟨e, he, hvalue⟩ := Option.map_eq_some_iff.mp h
  exact ⟨e, (lookup_eq_some.mp he).1, hvalue⟩

theorem count_congr {s t : Store κ ℤ} {k : κ} (h : s k = t k) (now : ℕ) :
    count s now k = count t now k := by
  simp [count, get, lookup_congr h]

theorem count_eq_of_lookup {s : Store κ ℤ} {now : ℕ} {k : κ} {e : Entry ℤ}
    (h : lookup s now k = some e) : count s now k = e.value := by
  simp [count, get, h]

theorem count_eq_zero_of_lookup {s : Store κ ℤ} {now : ℕ} {k : κ}
    (h : lookup s now k = none) : count s now k = 0 := by
  simp [count, get, h]

theorem count_of_deadline {s : Store κ ℤ} {now : ℕ} {k : κ} {v : ℤ} {d : ℕ}
    (h : s k = some ⟨v, some d⟩) (hnow : now < d) : count s now k = v := by
  have hlive : (⟨v, some d⟩ : Entry ℤ).live now = true := decide_eq_true hnow
  exact count_eq_of_lookup (lookup_eq_some.mpr ⟨h, hlive⟩)

/-- Time alone either leaves a counter alone or makes it disappear. -/
theorem count_later (s : Store κ ℤ) {now later : ℕ} (hle : now ≤ later) (k : κ) :
    count s later k = count s now k ∨
      count s later k = 0 ∧ ∃ e, s k = some e ∧ e.live later = false := by
  cases h : lookup s later k with
  | some e =>
      obtain ⟨hk, hlive⟩ := lookup_eq_some.mp h
      have hnow : lookup s now k = some e :=
        lookup_eq_some.mpr ⟨hk, Entry.live_of_le hle hlive⟩
      exact Or.inl ((count_eq_of_lookup h).trans (count_eq_of_lookup hnow).symm)
  | none =>
      cases hk : s k with
      | none =>
          have hnow : lookup s now k = none := by simp [lookup, hk]
          exact Or.inl ((count_eq_zero_of_lookup h).trans (count_eq_zero_of_lookup hnow).symm)
      | some e =>
          exact Or.inr ⟨count_eq_zero_of_lookup h, e, rfl, lookup_eq_none.mp h e hk⟩

/-- The value last written to a counter, whether or not it has expired since. -/
def stored (s : Store κ ℤ) (k : κ) : ℤ := (s k).elim 0 Entry.value

theorem stored_congr {s t : Store κ ℤ} {k : κ} (h : s k = t k) : stored s k = stored t k := by
  simp [stored, h]

theorem count_eq_stored {s : Store κ ℤ} {now : ℕ} {k : κ}
    (h : ∀ e, s k = some e → e.live now = true) : count s now k = stored s k := by
  cases hk : s k with
  | none => simp [count, get, lookup, stored, hk]
  | some e => simp [count, get, lookup, stored, hk, Option.filter, h e hk]

/-! ## Commands -/

variable [DecidableEq κ]

def put (s : Store κ ν) (k : κ) (e : Option (Entry ν)) : Store κ ν :=
  fun k' ↦ if k' = k then e else s k'

/-- Store `v` under `k` for `ttl`, in the place of any entry that is there. -/
def setEx (s : Store κ ν) (now : ℕ) (k : κ) (v : ν) (ttl : ℕ) : Store κ ν :=
  put s k (some ⟨v, some (now + ttl)⟩)

/-- Store `v` under `k` for `ttl` unless a live entry is there already; the answer
says whether it was stored. -/
def setNxEx (s : Store κ ν) (now : ℕ) (k : κ) (v : ν) (ttl : ℕ) : Bool × Store κ ν :=
  match lookup s now k with
  | some _ => (false, s)
  | none => (true, put s k (some ⟨v, some (now + ttl)⟩))

/-- Give a live entry a new deadline; nothing happens when the key is absent. -/
def expire (s : Store κ ν) (now : ℕ) (k : κ) (ttl : ℕ) : Store κ ν :=
  match lookup s now k with
  | some e => put s k (some { e with deadline := some (now + ttl) })
  | none => s

/-- Add `d` to a counter and answer its new value.  A missing counter starts at
zero and is created without a deadline; a live one keeps its deadline. -/
def incrBy (s : Store κ ℤ) (now : ℕ) (k : κ) (d : ℤ) : ℤ × Store κ ℤ :=
  match lookup s now k with
  | some e => (e.value + d, put s k (some { e with value := e.value + d }))
  | none => (d, put s k (some ⟨d, none⟩))

@[simp] theorem put_same (s : Store κ ν) (k : κ) (e : Option (Entry ν)) : put s k e k = e := by
  simp [put]

theorem put_ne (s : Store κ ν) {k k' : κ} (h : k' ≠ k) (e : Option (Entry ν)) :
    put s k e k' = s k' := by
  simp [put, h]

theorem put_congr {s t : Store κ ν} {k' : κ} (h : s k' = t k') (k : κ)
    (e : Option (Entry ν)) : put s k e k' = put t k e k' := by
  simp [put, h]

theorem lookup_put_same {s : Store κ ν} {now : ℕ} {k : κ} {e : Entry ν}
    (h : e.live now = true) : lookup (put s k (some e)) now k = some e :=
  lookup_eq_some.mpr ⟨put_same s k _, h⟩

theorem setNxEx_ne (s : Store κ ν) (now : ℕ) {k k' : κ} (h : k' ≠ k) (v : ν) (ttl : ℕ) :
    (setNxEx s now k v ttl).2 k' = s k' := by
  unfold setNxEx
  cases lookup s now k with
  | some e => rfl
  | none => exact put_ne s h _

theorem expire_ne (s : Store κ ν) (now : ℕ) {k k' : κ} (h : k' ≠ k) (ttl : ℕ) :
    expire s now k ttl k' = s k' := by
  unfold expire
  cases lookup s now k with
  | some e => exact put_ne s h _
  | none => rfl

theorem incrBy_ne (s : Store κ ℤ) (now : ℕ) {k k' : κ} (h : k' ≠ k) (d : ℤ) :
    (incrBy s now k d).2 k' = s k' := by
  unfold incrBy
  cases lookup s now k with
  | some e => exact put_ne s h _
  | none => exact put_ne s h _

/-- The entry a counter command leaves behind: the value moves by `d` and the
deadline of a live counter is kept. -/
theorem lookup_incrBy (s : Store κ ℤ) (now : ℕ) (k : κ) (d : ℤ) :
    lookup (incrBy s now k d).2 now k =
      some ⟨count s now k + d, (lookup s now k).bind Entry.deadline⟩ := by
  unfold incrBy
  cases h : lookup s now k with
  | some e =>
      have hlive := (lookup_eq_some.mp h).2
      rw [count_eq_of_lookup h]
      exact lookup_put_same hlive
  | none =>
      rw [count_eq_zero_of_lookup h, Int.zero_add]
      exact lookup_put_same rfl

theorem incrBy_fst (s : Store κ ℤ) (now : ℕ) (k : κ) (d : ℤ) :
    (incrBy s now k d).1 = count s now k + d := by
  unfold incrBy
  cases h : lookup s now k with
  | some e => rw [count_eq_of_lookup h]
  | none => rw [count_eq_zero_of_lookup h, Int.zero_add]

theorem count_incrBy (s : Store κ ℤ) (now : ℕ) (k : κ) (d : ℤ) :
    count (incrBy s now k d).2 now k = count s now k + d :=
  count_eq_of_lookup (lookup_incrBy s now k d)

theorem lookup_expire {s : Store κ ν} {now : ℕ} {k : κ} {e : Entry ν} {ttl : ℕ}
    (h : lookup s now k = some e) (httl : 0 < ttl) :
    lookup (expire s now k ttl) now k = some { e with deadline := some (now + ttl) } := by
  unfold expire
  rw [h]
  apply lookup_put_same
  simpa [Entry.live] using httl

theorem incrBy_same (s : Store κ ℤ) (now : ℕ) (k : κ) (d : ℤ) :
    (incrBy s now k d).2 k =
      some ⟨count s now k + d, (lookup s now k).bind Entry.deadline⟩ :=
  (lookup_eq_some.mp (lookup_incrBy s now k d)).1

theorem expire_same {s : Store κ ν} {now : ℕ} {k : κ} {e : Entry ν} (ttl : ℕ)
    (h : lookup s now k = some e) :
    expire s now k ttl k = some { e with deadline := some (now + ttl) } := by
  unfold expire
  rw [h]
  exact put_same s k _

/-! ## A command depends on its own key only -/

section Locality

variable {k : κ}

theorem setNxEx_congr {s t : Store κ ν} (h : s k = t k) (now : ℕ) (v : ν) (ttl : ℕ) :
    (setNxEx s now k v ttl).1 = (setNxEx t now k v ttl).1 ∧
      (setNxEx s now k v ttl).2 k = (setNxEx t now k v ttl).2 k := by
  unfold setNxEx
  rw [lookup_congr h now]
  cases lookup t now k with
  | some e => exact ⟨rfl, h⟩
  | none => exact ⟨rfl, (put_same s k _).trans (put_same t k _).symm⟩

theorem incrBy_congr {s t : Store κ ℤ} (h : s k = t k) (now : ℕ) (d : ℤ) :
    (incrBy s now k d).1 = (incrBy t now k d).1 ∧
      (incrBy s now k d).2 k = (incrBy t now k d).2 k := by
  rw [incrBy_fst, incrBy_fst, incrBy_same, incrBy_same, count_congr h, lookup_congr h]
  exact ⟨rfl, rfl⟩

theorem expire_congr {s t : Store κ ν} (h : s k = t k) (now ttl : ℕ) :
    expire s now k ttl k = expire t now k ttl k := by
  unfold expire
  rw [lookup_congr h now]
  cases lookup t now k with
  | some e => exact (put_same s k _).trans (put_same t k _).symm
  | none => exact h

end Locality

/-! ## Keys that are held for a while -/

/-- The key is present up to the instant `d`, whatever happens to other keys. -/
def HeldUntil (s : Store κ ν) (k : κ) (d : ℕ) : Prop :=
  ∃ e, s k = some e ∧ ∀ x ∈ e.deadline, d ≤ x

omit [DecidableEq κ] in
theorem HeldUntil.lookup_ne_none {s : Store κ ν} {k : κ} {d now : ℕ} (h : HeldUntil s k d)
    (hnow : now < d) : lookup s now k ≠ none := by
  obtain ⟨e, hk, hd⟩ := h
  have hlive : e.live now = true :=
    Entry.live_iff.mpr fun x hx ↦ hnow.trans_le (hd x hx)
  rw [lookup_eq_some.mpr ⟨hk, hlive⟩]
  exact Option.some_ne_none e

theorem setNxEx_fst_iff {s : Store κ ν} {now : ℕ} {k : κ} (v : ν) (ttl : ℕ) :
    (setNxEx s now k v ttl).1 = true ↔ lookup s now k = none := by
  unfold setNxEx
  cases lookup s now k <;> simp

theorem heldUntil_setNxEx {s : Store κ ν} {now : ℕ} {k : κ} (v : ν) (ttl : ℕ)
    (h : lookup s now k = none) : HeldUntil (setNxEx s now k v ttl).2 k (now + ttl) := by
  refine ⟨⟨v, some (now + ttl)⟩, ?_, ?_⟩
  · simp [setNxEx, h]
  · intro x hx
    cases hx
    exact le_rfl

theorem lookup_setNxEx_expired {s : Store κ ν} {now later : ℕ} {k : κ} (v : ν) {ttl : ℕ}
    (h : lookup s now k = none) (hlater : now + ttl ≤ later) :
    lookup (setNxEx s now k v ttl).2 later k = none := by
  rw [lookup_eq_none]
  intro e he
  simp only [setNxEx, h, put_same, Option.some.injEq] at he
  subst he
  simpa [Entry.live] using hlater

/-- Setting keys never shortens the time another key, or the key itself, is held. -/
theorem HeldUntil.setNxEx {s : Store κ ν} {k : κ} {d : ℕ} (h : HeldUntil s k d) (now : ℕ)
    (k' : κ) (v : ν) (ttl : ℕ) : HeldUntil (setNxEx s now k' v ttl).2 k d := by
  by_cases hk : k = k'
  · subst hk
    cases hl : lookup s now k with
    | some e => simpa [ExpiringStore.setNxEx, hl] using h
    | none =>
        obtain ⟨e, hke, hd⟩ := h
        obtain ⟨x, hx, hxnow⟩ : ∃ x ∈ e.deadline, x ≤ now := by
          have hdead := lookup_eq_none.mp hl e hke
          by_contra hno
          have hlive : e.live now = true := Entry.live_iff.mpr fun x hx ↦
            Nat.lt_of_not_le fun hle ↦ hno ⟨x, hx, hle⟩
          simp [hdead] at hlive
        obtain ⟨e', he', hd'⟩ := heldUntil_setNxEx v ttl hl
        exact ⟨e', he', fun y hy ↦
          (hd x hx).trans (hxnow.trans ((Nat.le_add_right now ttl).trans (hd' y hy)))⟩
  · obtain ⟨e, hke, hd⟩ := h
    exact ⟨e, (setNxEx_ne s now hk v ttl).trans hke, hd⟩

/-! ## Stores that run empty -/

/-- Once `d` is reached, the store is empty, unless something is added. -/
def Lapses (s : Store κ ν) (d : ℕ) : Prop := ∀ k e, s k = some e → ∃ x ∈ e.deadline, x ≤ d

omit [DecidableEq κ] in
theorem Lapses.lookup_eq_none {s : Store κ ν} {d now : ℕ} (h : Lapses s d) (hnow : d ≤ now)
    (k : κ) : lookup s now k = none := by
  rw [ExpiringStore.lookup_eq_none]
  intro e he
  obtain ⟨x, hx, hxd⟩ := h k e he
  by_contra hlive
  have hlt := Entry.live_iff.mp (Bool.eq_true_of_not_eq_false hlive) x hx
  omega

theorem Lapses.put {s : Store κ ν} {d : ℕ} (h : Lapses s d) (k : κ) {entry : Option (Entry ν)}
    (hentry : ∀ e ∈ entry, ∃ x ∈ e.deadline, x ≤ d) : Lapses (put s k entry) d := by
  intro k' e he
  by_cases hk : k' = k
  · subst hk
    rw [put_same] at he
    exact hentry e he
  · rw [put_ne s hk] at he
    exact h k' e he

theorem Lapses.setEx {s : Store κ ν} {d : ℕ} (h : Lapses s d) {now : ℕ} (k : κ) (v : ν)
    {ttl : ℕ} (hle : now + ttl ≤ d) : Lapses (setEx s now k v ttl) d := by
  refine h.put k fun e he ↦ ?_
  obtain rfl := Option.some.inj he
  exact ⟨now + ttl, rfl, hle⟩

theorem Lapses.setNxEx {s : Store κ ν} {d : ℕ} (h : Lapses s d) {now : ℕ} (k : κ) (v : ν)
    {ttl : ℕ} (hle : now + ttl ≤ d) : Lapses (setNxEx s now k v ttl).2 d := by
  intro k' e he
  by_cases hk : k' = k
  · subst hk
    cases hl : lookup s now k' with
    | some e' =>
        simp only [ExpiringStore.setNxEx, hl] at he
        exact h k' e he
    | none =>
        simp only [ExpiringStore.setNxEx, hl, put_same, Option.some.injEq] at he
        subst he
        exact ⟨now + ttl, rfl, hle⟩
  · rw [setNxEx_ne s now hk] at he
    exact h k' e he

/-! ## Counters that run out -/

/-- Once `d` is reached, the counter is gone, unless it is incremented.  It may have come back
if a decrement has `missed` it, but then it is below zero and stays for good. -/
def RunsOut (missed : Prop) (s : Store κ ℤ) (k : κ) (d : ℕ) : Prop :=
  ∀ e, s k = some e → (∃ x ∈ e.deadline, x ≤ d) ∨ missed ∧ e.deadline = none ∧ e.value < 0

section RunsOut

variable {missed : Prop} {s t : Store κ ℤ} {k : κ} {d : ℕ}

omit [DecidableEq κ] in
theorem RunsOut.mono (h : RunsOut missed s k d) {missed' : Prop} (himp : missed → missed')
    {d' : ℕ} (hle : d ≤ d') : RunsOut missed' s k d' := by
  intro e he
  rcases h e he with ⟨x, hx, hxd⟩ | ⟨hmissed, hrest⟩
  · exact Or.inl ⟨x, hx, hxd.trans hle⟩
  · exact Or.inr ⟨himp hmissed, hrest⟩

omit [DecidableEq κ] in
theorem RunsOut.congr (h : RunsOut missed s k d) (heq : t k = s k) : RunsOut missed t k d := by
  intro e he
  exact h e (heq ▸ he)

omit [DecidableEq κ] in
theorem runsOut_of_deadline {v : ℤ} (h : s k = some ⟨v, some d⟩) : RunsOut missed s k d := by
  intro e he
  cases h.symm.trans he
  exact Or.inl ⟨d, rfl, le_rfl⟩

omit [DecidableEq κ] in
theorem RunsOut.of_lookup (h : RunsOut missed s k d) {now : ℕ} (hnow : d ≤ now) {e : Entry ℤ}
    (hl : lookup s now k = some e) : missed ∧ e.deadline = none ∧ e.value < 0 := by
  obtain ⟨hk, hlive⟩ := lookup_eq_some.mp hl
  rcases h e hk with ⟨x, hx, hxd⟩ | hrest
  · have hlt := Entry.live_iff.mp hlive x hx
    omega
  · exact hrest

omit [DecidableEq κ] in
theorem RunsOut.count_le (h : RunsOut missed s k d) {now : ℕ} (hnow : d ≤ now) :
    count s now k ≤ 0 := by
  cases hl : lookup s now k with
  | none => rw [count_eq_zero_of_lookup hl]
  | some e =>
      rw [count_eq_of_lookup hl]
      exact (h.of_lookup hnow hl).2.2.le

theorem RunsOut.decrBy (h : RunsOut missed s k d) (now : ℕ) {n : ℤ} (hn : n < 0) :
    RunsOut (missed ∨ lookup s now k = none) (incrBy s now k n).2 k d := by
  intro e he
  rw [incrBy_same] at he
  cases he
  cases hl : lookup s now k with
  | none =>
      refine Or.inr ⟨Or.inr rfl, rfl, ?_⟩
      simpa only [count_eq_zero_of_lookup hl, zero_add] using hn
  | some e' =>
      rcases h e' (lookup_eq_some.mp hl).1 with hdeadline | ⟨hmissed, hnone, hneg⟩
      · exact Or.inl hdeadline
      · refine Or.inr ⟨Or.inl hmissed, hnone, ?_⟩
        simp only [count_eq_of_lookup hl]
        omega

end RunsOut

/-! ## Copies of a source

A store may hold copies of values that are taken from somewhere else, where they change
in the course of time.  `source k v t` says that the source had the value `v` under `k`
at the instant `t`.
-/

/-- Every entry is a copy that is gone `age` after the source had its value. -/
def BoundedAge (source : κ → ν → ℕ → Prop) (age : ℕ) (s : Store κ ν) : Prop :=
  ∀ k e, s k = some e → ∃ d ∈ e.deadline, ∃ t, source k e.value t ∧ d ≤ t + age

section BoundedAge

variable {source source' : κ → ν → ℕ → Prop} {age : ℕ} {s : Store κ ν}

omit [DecidableEq κ] in
theorem boundedAge_empty (source : κ → ν → ℕ → Prop) (age : ℕ) :
    BoundedAge source age (empty : Store κ ν) := by
  intro k e he
  cases he

omit [DecidableEq κ] in
theorem BoundedAge.mono (h : BoundedAge source age s)
    (hsource : ∀ k v t, source k v t → source' k v t) : BoundedAge source' age s := by
  intro k e he
  obtain ⟨d, hd, t, ht, hle⟩ := h k e he
  exact ⟨d, hd, t, hsource k e.value t ht, hle⟩

omit [DecidableEq κ] in
theorem BoundedAge.get (h : BoundedAge source age s) {now : ℕ} {k : κ} {v : ν}
    (hget : get s now k = some v) : ∃ t, source k v t ∧ now ≤ t + age := by
  obtain ⟨e, he, rfl⟩ := Option.map_eq_some_iff.mp hget
  obtain ⟨hk, hlive⟩ := lookup_eq_some.mp he
  obtain ⟨d, hd, t, ht, hle⟩ := h k e hk
  exact ⟨t, ht, (Entry.live_iff.mp hlive d hd).le.trans hle⟩

theorem BoundedAge.put_none (h : BoundedAge source age s) (k : κ) :
    BoundedAge source age (put s k none) := by
  intro k' e he
  by_cases hk : k' = k
  · rw [hk, put_same] at he
    cases he
  · rw [put_ne s hk] at he
    exact h k' e he

/-- A copy that is stored `lag` after the source had its value may live for the rest of
the age. -/
theorem BoundedAge.setEx (h : BoundedAge source age s) {now t lag ttl : ℕ} {k : κ} {v : ν}
    (hsource : source k v t) (hlag : now ≤ t + lag) (hage : lag + ttl ≤ age) :
    BoundedAge source age (setEx s now k v ttl) := by
  intro k' e he
  by_cases hk : k' = k
  · rw [hk, ExpiringStore.setEx, put_same] at he
    cases he
    rw [hk]
    exact ⟨now + ttl, rfl, t, hsource, by omega⟩
  · rw [ExpiringStore.setEx, put_ne s hk] at he
    exact h k' e he

end BoundedAge

end ExpiringStore
