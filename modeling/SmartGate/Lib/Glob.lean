import Mathlib.Data.List.Infix
import Mathlib.Tactic.Common

/-!
# Glob patterns

A pattern is a list of symbols, one of which is the star.  The star stands for any list, at
whatever position, and every other symbol stands for itself.  Two shapes of patterns need no
search: one without a star matches itself only, and one whose only star comes last matches
the lists that extend the rest.
-/

namespace Glob

variable {α : Type*} {star : α} {p q m : List α}

inductive Matches (star : α) : List α → List α → Prop
  | nil : Matches star [] []
  | literal {a : α} {p m : List α} (ha : a ≠ star) (h : Matches star p m) :
      Matches star (a :: p) (a :: m)
  | wildcard (s : List α) {p m : List α} (h : Matches star p m) :
      Matches star (star :: p) (s ++ m)

theorem matches_self (hp : star ∉ p) : Matches star p p := by
  induction p with
  | nil => exact .nil
  | cons a p ih =>
      rw [List.mem_cons, not_or] at hp
      exact .literal (Ne.symm hp.1) (ih hp.2)

theorem Matches.eq_of_notMem (h : Matches star p m) (hp : star ∉ p) : m = p := by
  induction h with
  | nil => rfl
  | literal ha h ih => rw [ih fun hmem ↦ hp (List.mem_cons_of_mem _ hmem)]
  | wildcard s h ih => exact absurd List.mem_cons_self hp

theorem matches_wildcard (m : List α) : Matches star [star] m := by
  have h : Matches star [star] (m ++ []) := .wildcard m .nil
  rwa [List.append_nil] at h

theorem Matches.append {n : List α} (h : Matches star p m) (h' : Matches star q n) :
    Matches star (p ++ q) (m ++ n) := by
  induction h with
  | nil => exact h'
  | literal ha h ih => exact .literal ha ih
  | wildcard s h ih =>
      rw [List.append_assoc]
      exact .wildcard s ih

theorem Matches.exists_append (h : Matches star (p ++ q) m) :
    ∃ m₁ m₂, m = m₁ ++ m₂ ∧ Matches star p m₁ ∧ Matches star q m₂ := by
  induction p generalizing m with
  | nil => exact ⟨[], m, rfl, .nil, h⟩
  | cons a p ih =>
      cases h with
      | literal ha h =>
          obtain ⟨m₁, m₂, rfl, hp, hq⟩ := ih h
          exact ⟨a :: m₁, m₂, rfl, .literal ha hp, hq⟩
      | wildcard s h =>
          obtain ⟨m₁, m₂, rfl, hp, hq⟩ := ih h
          exact ⟨s ++ m₁, m₂, (List.append_assoc _ _ _).symm, .wildcard s hp, hq⟩

theorem matches_iff_eq (hp : star ∉ p) : Matches star p m ↔ m = p := by
  constructor
  · intro h
    exact h.eq_of_notMem hp
  · rintro rfl
    exact matches_self hp

theorem matches_append_wildcard_iff (hp : star ∉ p) :
    Matches star (p ++ [star]) m ↔ p <+: m := by
  constructor
  · intro h
    obtain ⟨m₁, m₂, rfl, hm₁, _⟩ := h.exists_append
    rw [hm₁.eq_of_notMem hp]
    exact List.prefix_append p m₂
  · rintro ⟨rest, rfl⟩
    exact (matches_self hp).append (matches_wildcard rest)

/-- The stars may all stand for nothing. -/
theorem matches_filter [DecidableEq α] (p : List α) :
    Matches star p (p.filter fun a ↦ decide (a ≠ star)) := by
  induction p with
  | nil => exact .nil
  | cons a p ih =>
      by_cases ha : a = star
      · subst ha
        rw [List.filter_cons_of_neg (by simp)]
        exact .wildcard [] ih
      · rw [List.filter_cons_of_pos (by simpa using ha)]
        exact .literal ha ih

theorem length_filter_lt [DecidableEq α] (hp : star ∈ p) :
    (p.filter fun a ↦ decide (a ≠ star)).length < p.length := by
  rw [List.length_filter_lt_length_iff_exists]
  exact ⟨star, hp, by simp⟩

end Glob
