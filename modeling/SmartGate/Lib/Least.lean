import Mathlib.Order.Bounds.Basic

/-!
# Optional least elements

The least element of a set that may be empty.  `none` stands for the empty set, so
that the minimum of the limits that are present, with no limit at all as the
neutral value, is determined by the set of limits alone.
-/

namespace Least

variable {α : Type*}

/-- `r` is the least element of `S`, or `none` when there is none to choose from. -/
def LeastOf [Preorder α] (S : Set α) : Option α → Prop
  | none => S = ∅
  | some a => IsLeast S a

theorem LeastOf.unique [PartialOrder α] {S : Set α} {r r' : Option α} (h : LeastOf S r)
    (h' : LeastOf S r') : r = r' := by
  cases r with
  | none =>
      cases r' with
      | none => rfl
      | some b =>
          have hb : b ∈ S := h'.1
          rw [show S = ∅ from h] at hb
          exact hb.elim
  | some a =>
      cases r' with
      | none =>
          have ha : a ∈ S := h.1
          rw [show S = ∅ from h'] at ha
          exact ha.elim
      | some b => rw [IsLeast.unique h h']

/-- Take one more candidate into account. -/
def insertMin [LinearOrder α] (r : Option α) (a : α) : Option α :=
  some (match r with
    | none => a
    | some b => min b a)

theorem LeastOf.insertMin [LinearOrder α] {S : Set α} {r : Option α} (h : LeastOf S r) (a : α) :
    LeastOf (insert a S) (Least.insertMin r a) := by
  cases r with
  | none =>
      have hS : insert a S = {a} := by rw [show S = ∅ from h, insert_empty_eq]
      rw [hS]
      exact isLeast_singleton
  | some b =>
      have hb : IsLeast S b := h
      change IsLeast (insert a S) (min b a)
      rw [min_comm]
      exact hb.insert a

theorem LeastOf.mem [Preorder α] {S : Set α} {a : α} (h : LeastOf S (some a)) : a ∈ S := h.1

/-- A bound on what is least bounds everything. -/
theorem LeastOf.forall_le_iff [Preorder α] {S : Set α} {r : Option α} (h : LeastOf S r) (b : α) :
    (∀ a ∈ r, b ≤ a) ↔ ∀ a ∈ S, b ≤ a := by
  cases r with
  | none =>
      rw [show S = ∅ from h]
      exact ⟨fun _ a ha ↦ ha.elim, fun _ a ha ↦ by cases ha⟩
  | some c =>
      constructor
      · intro hb a ha
        exact (hb c rfl).trans (h.2 ha)
      · intro hb a ha
        cases ha
        exact hb c h.mem

/-- What is least in a union is the least of what is least in its members. -/
theorem LeastOf.least_of_least [PartialOrder α] {ι : Type*} {I : Set ι} {S : ι → Set α}
    {r : Option α} {f : ι → Option α} (h : LeastOf {a | ∃ i ∈ I, a ∈ S i} r)
    (hf : ∀ i ∈ I, LeastOf (S i) (f i)) : LeastOf {a | ∃ i ∈ I, f i = some a} r := by
  have hmem : ∀ {a i}, i ∈ I → f i = some a → ∃ i ∈ I, a ∈ S i := by
    intro a i hi ha
    have hleast := hf i hi
    rw [ha] at hleast
    exact ⟨i, hi, hleast.mem⟩
  cases r with
  | none =>
      rw [LeastOf, Set.eq_empty_iff_forall_notMem] at h ⊢
      rintro a ⟨i, hi, ha⟩
      exact h a (hmem hi ha)
  | some a =>
      obtain ⟨i, hi, ha⟩ := h.mem
      constructor
      · have hleast := hf i hi
        cases hb : f i with
        | none =>
            rw [hb] at hleast
            rw [show S i = ∅ from hleast] at ha
            exact ha.elim
        | some b =>
            rw [hb] at hleast
            have hab : a = b := le_antisymm (h.2 (hmem hi hb)) (hleast.2 ha)
            exact ⟨i, hi, hab ▸ hb⟩
      · rintro b ⟨j, hj, hb⟩
        exact h.2 (hmem hj hb)

end Least
