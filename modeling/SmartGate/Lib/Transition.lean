import Mathlib.Data.Int.Notation
import Mathlib.Data.List.Pairwise
import Mathlib.Tactic.Common

/-!
# Runs of a partial step function

A system is given by a step function that either moves to a successor state or
is not enabled.  A run is the list of labels it takes.  A guard restricts the
labels that may be taken in a state, so that assumptions on an environment, or
the absence of one kind of schedule, are statements about the run and not about
the step function.
-/

namespace Transition

variable {σ ℓ : Type*}

/-- Take the labels of a run in order.  The result is `none` as soon as one of
them is not enabled. -/
def run (step : σ → ℓ → Option σ) : σ → List ℓ → Option σ
  | s, [] => some s
  | s, l :: ls => (step s l).bind fun t ↦ run step t ls

/-- Every label of the run meets `guard` in the state in which it is taken. -/
def Guarded (step : σ → ℓ → Option σ) (guard : σ → ℓ → Prop) : σ → List ℓ → Prop
  | _, [] => True
  | s, l :: ls => guard s l ∧ ∀ t, step s l = some t → Guarded step guard t ls

instance decidableGuarded (step : σ → ℓ → Option σ) (guard : σ → ℓ → Prop)
    [∀ s l, Decidable (guard s l)] : ∀ s ls, Decidable (Guarded step guard s ls)
  | _, [] => inferInstanceAs (Decidable True)
  | s, l :: ls =>
      have := fun t ↦ decidableGuarded step guard t ls
      inferInstanceAs (Decidable (guard s l ∧ ∀ t ∈ step s l, Guarded step guard t ls))

variable {step : σ → ℓ → Option σ} {guard : σ → ℓ → Prop}

@[simp] theorem run_nil (s : σ) : run step s [] = some s := rfl

theorem run_cons (s : σ) (l : ℓ) (ls : List ℓ) :
    run step s (l :: ls) = (step s l).bind fun t ↦ run step t ls := rfl

theorem run_cons_eq_some {s u : σ} {l : ℓ} {ls : List ℓ} :
    run step s (l :: ls) = some u ↔ ∃ t, step s l = some t ∧ run step t ls = some u := by
  rw [run_cons, Option.bind_eq_some_iff]

theorem run_append_eq_some {s u : σ} {ls ms : List ℓ} :
    run step s (ls ++ ms) = some u ↔ ∃ t, run step s ls = some t ∧ run step t ms = some u := by
  induction ls generalizing s with
  | nil => simp
  | cons l ls ih =>
      rw [List.cons_append, run_cons_eq_some]
      simp only [ih, run_cons_eq_some]
      constructor
      · rintro ⟨t, ht, v, hv, hu⟩
        exact ⟨v, ⟨t, ht, hv⟩, hu⟩
      · rintro ⟨v, ⟨t, ht, hv⟩, hu⟩
        exact ⟨t, ht, v, hv, hu⟩

theorem Guarded.head {s : σ} {l : ℓ} {ls : List ℓ} (h : Guarded step guard s (l :: ls)) :
    guard s l := h.1

theorem Guarded.tail {s t : σ} {l : ℓ} {ls : List ℓ} (h : Guarded step guard s (l :: ls))
    (hstep : step s l = some t) : Guarded step guard t ls := h.2 t hstep

theorem guarded_of_forall {ok : ℓ → Prop} (s : σ) {ls : List ℓ} (h : ∀ l ∈ ls, ok l) :
    Guarded step (fun _ l ↦ ok l) s ls := by
  induction ls generalizing s with
  | nil => trivial
  | cons l ls ih =>
      exact ⟨h l List.mem_cons_self, fun t _ ↦ ih t fun m hm ↦ h m (List.mem_cons_of_mem l hm)⟩

/-- The induction rule for guarded runs: what every guarded step preserves, every
guarded run preserves. -/
theorem run_invariant {inv : σ → Prop}
    (hstep : ∀ s l t, inv s → guard s l → step s l = some t → inv t)
    {s u : σ} {ls : List ℓ} (hguard : Guarded step guard s ls)
    (hrun : run step s ls = some u) (hs : inv s) : inv u := by
  induction ls generalizing s with
  | nil =>
      cases hrun
      exact hs
  | cons l ls ih =>
      obtain ⟨t, ht, hrest⟩ := run_cons_eq_some.mp hrun
      exact ih (hguard.tail ht) hrest (hstep s l t hs hguard.head ht)

theorem run_preserves {inv : σ → Prop} (hstep : ∀ s l t, inv s → step s l = some t → inv t)
    {s u : σ} {ls : List ℓ} (hrun : run step s ls = some u) (hs : inv s) : inv u := by
  have hfree : Guarded step (fun _ _ ↦ True) s ls := guarded_of_forall s fun _ _ ↦ trivial
  exact run_invariant (fun s l t hs _ ht ↦ hstep s l t hs ht) hfree hrun hs

/-- If the labels that are left out cannot be told from doing nothing, and the others are
taken alike in related states, then the run without them ends in a related state. -/
theorem run_filter {R : σ → σ → Prop} {keep : ℓ → Bool}
    (hkeep : ∀ s s' l t, R s s' → guard s l → keep l = true → step s l = some t →
      ∃ t', step s' l = some t' ∧ R t t')
    (hleave : ∀ s s' l t, R s s' → guard s l → keep l = false → step s l = some t → R t s')
    {s s' u : σ} {ls : List ℓ} (hguard : Guarded step guard s ls)
    (hrun : run step s ls = some u) (hs : R s s') :
    ∃ u', run step s' (ls.filter keep) = some u' ∧ R u u' := by
  induction ls generalizing s s' with
  | nil =>
      cases hrun
      exact ⟨s', rfl, hs⟩
  | cons l ls ih =>
      obtain ⟨t, ht, hrest⟩ := run_cons_eq_some.mp hrun
      cases hl : keep l with
      | true =>
          obtain ⟨t', ht', hR⟩ := hkeep s s' l t hs hguard.head hl ht
          obtain ⟨u', hu', hRu⟩ := ih (hguard.tail ht) hrest hR
          rw [List.filter_cons_of_pos hl]
          exact ⟨u', run_cons_eq_some.mpr ⟨t', ht', hu'⟩, hRu⟩
      | false =>
          rw [List.filter_cons_of_neg (by simp [hl])]
          exact ih (hguard.tail ht) hrest (hleave s s' l t hs hguard.head hl ht)

theorem rel_map {α β γ δ : Type*} {r : α → β → Prop} {q : γ → δ → Prop} {f : α → γ} {g : β → δ}
    {a : Option α} {b : Option β} (h : Option.Rel r a b) (hq : ∀ x y, r x y → q (f x) (g y)) :
    Option.Rel q (a.map f) (b.map g) := by
  cases h with
  | some hr => exact .some (hq _ _ hr)
  | none => exact .none

theorem rel_elim {α β γ δ : Type*} {r : α → β → Prop} {q : γ → δ → Prop} {f : α → γ} {g : β → δ}
    {c : γ} {d : δ} {a : Option α} {b : Option β} (h : Option.Rel r a b) (hnone : q c d)
    (hsome : ∀ x y, r x y → q (f x) (g y)) : q (a.elim c f) (b.elim d g) := by
  cases h with
  | some hr => exact hsome _ _ hr
  | none => exact hnone

theorem exists_of_rel_some {α β : Type*} {r : α → β → Prop} {a : α} {o : Option β}
    (h : Option.Rel r (some a) o) : ∃ b, o = some b ∧ r a b := by
  cases h with
  | some hr => exact ⟨_, rfl, hr⟩

/-- A run takes no more steps of the kind `p` than a rank allows that each of them lowers, and
that no step raises but those of the kind `q`, by at most `k` each. -/
theorem run_countP_le {p q : ℓ → Bool} {k : ℕ} {rank : σ → ℕ} {inv : σ → Prop}
    (hinv : ∀ s l t, inv s → step s l = some t → inv t)
    (hstep : ∀ s l t, inv s → step s l = some t →
      rank t + (if p l then 1 else 0) ≤ rank s + (if q l then k else 0))
    {s u : σ} {ls : List ℓ} (hrun : run step s ls = some u) (hs : inv s) :
    rank u + ls.countP p ≤ rank s + k * ls.countP q := by
  induction ls generalizing s with
  | nil =>
      cases hrun
      simp
  | cons l ls ih =>
      obtain ⟨t, ht, hrest⟩ := run_cons_eq_some.mp hrun
      have hhead := hstep s l t hs ht
      have htail := ih hrest (hinv s l t hs ht)
      rw [List.countP_cons, List.countP_cons]
      cases hq : q l with
      | false =>
          simp only [hq, Bool.false_eq_true, if_false, Nat.add_zero] at hhead ⊢
          omega
      | true =>
          simp only [hq, if_true, Nat.mul_add, Nat.mul_one] at hhead ⊢
          omega

/-! ## Counting steps -/

/-- The number of steps of a run that satisfy `p` in the state in which they are taken. -/
def countAlong (step : σ → ℓ → Option σ) (p : σ → ℓ → Bool) : σ → List ℓ → ℕ
  | _, [] => 0
  | s, l :: ls => (if p s l then 1 else 0) + (step s l).elim 0 fun t ↦ countAlong step p t ls

theorem countAlong_cons {p : σ → ℓ → Bool} {s t : σ} {l : ℓ} (h : step s l = some t)
    (ls : List ℓ) : countAlong step p s (l :: ls) =
      (if p s l then 1 else 0) + countAlong step p t ls := by
  rw [countAlong, h, Option.elim_some]

/-- The induction rule for invariants that depend on the number of such steps so far. -/
theorem run_invariant_count {p : σ → ℓ → Bool} {inv : ℕ → σ → Prop}
    (hstep : ∀ n s l t, inv n s → guard s l → step s l = some t →
      inv (n + if p s l then 1 else 0) t)
    {n : ℕ} {s u : σ} {ls : List ℓ} (hguard : Guarded step guard s ls)
    (hrun : run step s ls = some u) (hs : inv n s) : inv (n + countAlong step p s ls) u := by
  induction ls generalizing n s with
  | nil =>
      cases hrun
      exact hs
  | cons l ls ih =>
      obtain ⟨t, ht, hrest⟩ := run_cons_eq_some.mp hrun
      rw [countAlong_cons ht, ← Nat.add_assoc]
      exact ih (hguard.tail ht) hrest (hstep n s l t hs hguard.head ht)

/-- The states that a run goes through, from the first to the last. -/
def visited (step : σ → ℓ → Option σ) : σ → List ℓ → List σ
  | s, [] => [s]
  | s, l :: ls => s :: (step s l).elim [] fun t ↦ visited step t ls

theorem visited_cons {s t : σ} {l : ℓ} (h : step s l = some t) (ls : List ℓ) :
    visited step s (l :: ls) = s :: visited step t ls := by
  simp [visited, h]

theorem visited_eq_cons (s : σ) (ls : List ℓ) : ∃ rest, visited step s ls = s :: rest := by
  cases ls with
  | nil => exact ⟨[], rfl⟩
  | cons l ls => exact ⟨_, rfl⟩

/-- The induction rule for invariants that speak of the states visited so far. -/
theorem run_invariant_visited {inv : List σ → σ → Prop}
    (hstep : ∀ past s l t, inv past s → guard s l → step s l = some t → inv (past ++ [t]) t)
    {past : List σ} {s u : σ} {ls : List ℓ} (hguard : Guarded step guard s ls)
    (hrun : run step s ls = some u) (hs : inv (past ++ [s]) s) :
    inv (past ++ visited step s ls) u := by
  induction ls generalizing past s with
  | nil =>
      cases hrun
      exact hs
  | cons l ls ih =>
      obtain ⟨t, ht, hrest⟩ := run_cons_eq_some.mp hrun
      have htail := ih (hguard.tail ht) hrest (hstep (past ++ [s]) s l t hs hguard.head ht)
      rwa [visited_cons ht, ← List.singleton_append, ← List.append_assoc]

section Ordered

variable {R : σ → σ → Prop}

theorem pairwise_visited (htrans : ∀ a b c, R a b → R b c → R a c)
    (hstep : ∀ s l t, step s l = some t → R s t) (s : σ) (ls : List ℓ) :
    (visited step s ls).Pairwise R := by
  induction ls generalizing s with
  | nil => exact List.pairwise_singleton R s
  | cons l ls ih =>
      cases ht : step s l with
      | none => simp [visited, ht]
      | some t =>
          obtain ⟨rest, hrest⟩ : ∃ rest, visited step t ls = t :: rest := visited_eq_cons t ls
          have htail := ih t
          rw [visited_cons ht, hrest]
          rw [hrest] at htail
          refine List.pairwise_cons.mpr ⟨fun v hv ↦ ?_, htail⟩
          rcases List.mem_cons.mp hv with rfl | hv
          · exact hstep s l v ht
          · exact htrans s t v (hstep s l t ht) (List.rel_of_pairwise_cons htail hv)

/-- Two states of one run are comparable by any preorder along which the system
moves. -/
theorem rel_or_rel_of_visited (hrefl : ∀ a, R a a) (htrans : ∀ a b c, R a b → R b c → R a c)
    (hstep : ∀ s l t, step s l = some t → R s t) {s : σ} {ls : List ℓ} {v w : σ}
    (hv : v ∈ visited step s ls) (hw : w ∈ visited step s ls) : R v w ∨ R w v := by
  let S : σ → σ → Prop := fun a b ↦ R a b ∨ R b a
  have hsymm : Std.Symm S := ⟨fun _ _ h ↦ h.symm⟩
  have hpairwise : (visited step s ls).Pairwise S :=
    (pairwise_visited htrans hstep s ls).imp Or.inl
  exact hpairwise.forall_of_forall (R := S) (fun a _ ↦ Or.inl (hrefl a)) hv hw

end Ordered

end Transition
