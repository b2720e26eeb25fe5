import Mathlib.Algebra.Order.Ring.Int
import Mathlib.Data.List.Basic
import Mathlib.Tactic.Common

/-!
# Lists of processes

The local states of concurrently running processes are kept in a list, and a step of
process `i` replaces the entry at `i`.  These lemmas say what such a replacement does
to membership, to the number of processes with a property and to the sum of a measure.
-/

namespace Processes

variable {α : Type*} {xs : List α} {i : ℕ} {x y z : α}

/-- A process that has not moved is still there. -/
theorem mem_set_of_ne (hi : xs[i]? = some x) (hz : z ∈ xs) (hne : z ≠ x) : z ∈ xs.set i y := by
  obtain ⟨j, hj, rfl⟩ := List.mem_iff_getElem.mp hz
  have hij : i ≠ j := by
    rintro rfl
    rw [List.getElem?_eq_getElem hj] at hi
    exact hne (Option.some.inj hi)
  refine List.mem_iff_getElem.mpr ⟨j, by simpa using hj, ?_⟩
  simp [List.getElem_set_ne hij]

/-- The processes with a property, after process `i` has moved from `x` to `y`. -/
theorem countP_set (p : α → Bool) (hi : xs[i]? = some x) (y : α) :
    ((xs.set i y).countP p : ℤ) =
      xs.countP p - (if p x then 1 else 0) + if p y then 1 else 0 := by
  obtain ⟨hlt, rfl⟩ := List.getElem?_eq_some_iff.mp hi
  have hcount := List.countP_set (p := p) (a := y) hlt
  have hle : (if p xs[i] then 1 else 0) ≤ xs.countP p := by
    split_ifs with h
    · exact List.countP_pos_iff.mpr ⟨xs[i], List.getElem_mem hlt, h⟩
    · exact Nat.zero_le _
  rw [hcount]
  split_ifs at hle ⊢ <;> omega

theorem countP_set_le_add_one (p : α → Bool) (hi : xs[i]? = some x) (y : α) :
    (xs.set i y).countP p ≤ xs.countP p + 1 := by
  have hset := countP_set p hi y
  split_ifs at hset <;> omega

theorem countP_set_le {p : α → Bool} (hi : xs[i]? = some x) (h : p y = true → p x = true) :
    (xs.set i y).countP p ≤ xs.countP p := by
  have hset := countP_set p hi y
  by_cases hy : p y = true
  · rw [if_pos hy, if_pos (h hy)] at hset
    omega
  · rw [if_neg hy] at hset
    split_ifs at hset <;> omega

/-- What all processes together have to do, after process `i` has moved from `x` to `y`. -/
theorem sum_map_set (f : α → ℕ) (hi : xs[i]? = some x) (y : α) :
    ((xs.set i y).map f).sum + f x = (xs.map f).sum + f y := by
  induction xs generalizing i with
  | nil => cases hi
  | cons z xs ih =>
      cases i with
      | zero =>
          cases hi
          simp only [List.set_cons_zero, List.map_cons, List.sum_cons]
          omega
      | succ i =>
          have hrest := ih (i := i) hi
          simp only [List.set_cons_succ, List.map_cons, List.sum_cons]
          omega

end Processes
