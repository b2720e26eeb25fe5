import Mathlib.Tactic.Common

/-!
# Caches

A cache is a partial map that may lose entries at any time.  It is fresh when every
entry agrees with what its key currently stands for.  When the meaning of the keys
changes, the entries of all keys whose meaning changed have to go; the others may stay.
-/

namespace Cache

variable {κ ν : Type*}

def setEntry [DecidableEq κ] (cache : κ → Option ν) (k : κ) (entry : Option ν) : κ → Option ν :=
  fun k' ↦ if k' = k then entry else cache k'

@[simp] theorem setEntry_same [DecidableEq κ] (cache : κ → Option ν) (k : κ) (entry : Option ν) :
    setEntry cache k entry k = entry := if_pos rfl

theorem setEntry_ne [DecidableEq κ] (cache : κ → Option ν) {k k' : κ} (h : k' ≠ k)
    (entry : Option ν) : setEntry cache k entry k' = cache k' := if_neg h

/-- Every entry agrees with its key. -/
def Fresh (agrees : κ → ν → Prop) (cache : κ → Option ν) : Prop :=
  ∀ k v, cache k = some v → agrees k v

variable {agrees agrees' : κ → ν → Prop} {cache : κ → Option ν}

/-- Entries that are kept must still agree under the new meaning of their keys. -/
theorem Fresh.update {cache' : κ → Option ν} (h : Fresh agrees cache)
    (hkept : ∀ k v, cache' k = some v → cache k = some v ∧ (agrees k v → agrees' k v)) :
    Fresh agrees' cache' := by
  intro k v hk
  obtain ⟨hold, himp⟩ := hkept k v hk
  exact himp (h k v hold)

theorem Fresh.fill [DecidableEq κ] (h : Fresh agrees cache) {k : κ} {v : ν} (hv : agrees k v) :
    Fresh agrees (setEntry cache k (some v)) := by
  intro k' v' hk'
  by_cases hk : k' = k
  · rw [hk, setEntry_same] at hk'
    rw [hk, ← Option.some.inj hk']
    exact hv
  · rw [setEntry_ne cache hk] at hk'
    exact h k' v' hk'

theorem Fresh.evict [DecidableEq κ] (h : Fresh agrees cache) (k : κ) :
    Fresh agrees (setEntry cache k none) := by
  intro k' v hv
  by_cases hk : k' = k
  · rw [hk, setEntry_same] at hv
    cases hv
  · rw [setEntry_ne cache hk] at hv
    exact h k' v hv

end Cache
