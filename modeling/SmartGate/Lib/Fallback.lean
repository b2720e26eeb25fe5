import Mathlib.Data.List.Basic
import Mathlib.Data.List.Induction
import Mathlib.Data.List.Pairwise
import Mathlib.Tactic.Common

/-!
# Chains of fallbacks with retries

Candidates are tried in order.  A candidate is called until a call succeeds, until a
call fails fatally, or until its budget of calls is used up by failures that may be
retried; after a failure the next candidate is tried.  `Executes` says which sequences
of calls this gives, without saying how the outcomes come about.
-/

namespace Fallback

inductive Outcome (τ ε : Type*) where
  | success (result : τ)
  | retryable (error : ε)
  | fatal (error : ε)
  deriving DecidableEq

structure Call (ρ τ ε : Type*) where
  target : ρ
  outcome : Outcome τ ε

section Outcomes

variable {τ ε : Type*}

/-- The outcomes of calls that end with a success, within a budget of calls. -/
inductive Succeeds (result : τ) : ℕ → List (Outcome τ ε) → Prop
  | success (budget : ℕ) : Succeeds result (budget + 1) [.success result]
  | retry {budget : ℕ} {outcomes : List (Outcome τ ε)} (error : ε)
      (h : Succeeds result budget outcomes) :
      Succeeds result (budget + 1) (.retryable error :: outcomes)

/-- The outcomes of calls after which a candidate is given up. -/
inductive Fails : ℕ → List (Outcome τ ε) → Prop
  | exhausted : Fails 0 []
  | fatal (budget : ℕ) (error : ε) : Fails (budget + 1) [.fatal error]
  | retry {budget : ℕ} {outcomes : List (Outcome τ ε)} (error : ε) (h : Fails budget outcomes) :
      Fails (budget + 1) (.retryable error :: outcomes)

def Outcome.IsRetryable : Outcome τ ε → Prop
  | .retryable _ => True
  | .success _ | .fatal _ => False

def Outcome.toError : Outcome τ ε → Option ε
  | .success _ => none
  | .retryable error | .fatal error => some error

/-- The error of the last outcome; without an outcome, the error from before. -/
def lastError (before : Option ε) (outcomes : List (Outcome τ ε)) : Option ε :=
  outcomes.foldl (fun _ o ↦ o.toError) before

theorem lastError_append (before : Option ε) (outcomes later : List (Outcome τ ε)) :
    lastError before (outcomes ++ later) = lastError (lastError before outcomes) later :=
  List.foldl_append

theorem lastError_none (outcomes : List (Outcome τ ε)) :
    lastError none outcomes = outcomes.getLast?.bind Outcome.toError := by
  induction outcomes using List.reverseRecOn with
  | nil => rfl
  | append_singleton outcomes o ih =>
      rw [lastError_append, List.getLast?_concat]
      rfl

theorem lastError_of_ne_nil {outcomes : List (Outcome τ ε)} (h : outcomes ≠ [])
    (before : Option ε) : lastError before outcomes = lastError none outcomes := by
  cases outcomes with
  | nil => exact absurd rfl h
  | cons o outcomes => rfl

theorem Succeeds.mem {result : τ} {budget : ℕ} {outcomes : List (Outcome τ ε)}
    (h : Succeeds result budget outcomes) : .success result ∈ outcomes := by
  induction h with
  | success budget => exact List.mem_cons_self
  | retry error h ih => exact List.mem_cons_of_mem _ ih

theorem Succeeds.getLast {result : τ} {budget : ℕ} {outcomes : List (Outcome τ ε)}
    (h : Succeeds result budget outcomes) : outcomes.getLast? = some (.success result) := by
  induction h with
  | success budget => rfl
  | retry error h ih => rw [List.getLast?_cons, ih, Option.getD_some]

theorem Succeeds.length_eq_one {result : τ} {budget : ℕ} {outcomes : List (Outcome τ ε)}
    (h : Succeeds result budget outcomes) (hnone : ∀ o ∈ outcomes, ¬ o.IsRetryable) :
    outcomes.length = 1 := by
  cases h with
  | success budget => rfl
  | retry error h => exact absurd trivial (hnone _ List.mem_cons_self)

theorem Succeeds.success_last {result other : τ} {budget : ℕ} {outcomes : List (Outcome τ ε)}
    (h : Succeeds result budget outcomes) {before after : List (Outcome τ ε)}
    (hsplit : outcomes = before ++ .success other :: after) : after = [] := by
  induction h generalizing before with
  | success budget =>
      cases before with
      | nil => exact (List.cons_eq_cons.mp hsplit).2.symm
      | cons o before => exact absurd (List.cons_eq_cons.mp hsplit).2 (by simp)
  | retry error h ih =>
      cases before with
      | nil => cases (List.cons_eq_cons.mp hsplit).1
      | cons o before => exact ih (List.cons_eq_cons.mp hsplit).2

theorem Fails.no_success {budget : ℕ} {outcomes : List (Outcome τ ε)} (h : Fails budget outcomes)
    (result : τ) : .success result ∉ outcomes := by
  induction h with
  | exhausted => exact List.not_mem_nil
  | fatal budget error => simp
  | retry error h ih => simpa using ih

/-- A candidate that was called is given up with an error. -/
theorem Fails.isSome_lastError {budget : ℕ} {outcomes : List (Outcome τ ε)}
    (h : Fails budget outcomes) {before : Option ε} (hbefore : 0 < budget ∨ before.isSome) :
    (lastError before outcomes).isSome := by
  induction h generalizing before with
  | exhausted => exact hbefore.resolve_left (Nat.lt_irrefl 0)
  | fatal budget error => rfl
  | retry error h ih => exact ih (Or.inr rfl)

theorem Fails.eq_nil {budget : ℕ} {outcomes : List (Outcome τ ε)} (h : Fails budget outcomes)
    (hbudget : budget = 0) : outcomes = [] := by
  cases h with
  | exhausted => rfl
  | fatal budget error => cases hbudget
  | retry error h => cases hbudget

theorem Fails.length_eq_one {budget : ℕ} {outcomes : List (Outcome τ ε)}
    (h : Fails budget outcomes) (hbudget : 0 < budget)
    (hnone : ∀ o ∈ outcomes, ¬ o.IsRetryable) : outcomes.length = 1 := by
  cases h with
  | exhausted => exact absurd hbudget (Nat.lt_irrefl 0)
  | fatal budget error => rfl
  | retry error h => exact absurd trivial (hnone _ List.mem_cons_self)

theorem Fails.ne_nil {budget : ℕ} {outcomes : List (Outcome τ ε)} (h : Fails budget outcomes)
    (hbudget : 0 < budget) : outcomes ≠ [] := by
  cases h with
  | exhausted => exact absurd hbudget (Nat.lt_irrefl 0)
  | fatal budget error => exact List.cons_ne_nil _ _
  | retry error h => exact List.cons_ne_nil _ _

/-- A candidate is given up after a fatal failure, or after failures that use up its
budget. -/
theorem Fails.fatal_or_exhausted {budget : ℕ} {outcomes : List (Outcome τ ε)}
    (h : Fails budget outcomes) :
    (∃ earlier error, outcomes = earlier ++ [.fatal error] ∧ ∀ o ∈ earlier, o.IsRetryable) ∨
      outcomes.length = budget ∧ ∀ o ∈ outcomes, o.IsRetryable := by
  induction h with
  | exhausted => exact Or.inr ⟨rfl, fun o ho ↦ absurd ho List.not_mem_nil⟩
  | fatal budget error =>
      exact Or.inl ⟨[], error, rfl, fun o ho ↦ absurd ho List.not_mem_nil⟩
  | retry first h ih =>
      rcases ih with ⟨earlier, error, rfl, hearlier⟩ | ⟨hlength, hall⟩
      · refine Or.inl ⟨.retryable first :: earlier, error, rfl, ?_⟩
        exact List.forall_mem_cons.mpr ⟨trivial, hearlier⟩
      · refine Or.inr ⟨by rw [List.length_cons, hlength], ?_⟩
        exact List.forall_mem_cons.mpr ⟨trivial, hall⟩

end Outcomes

section Chains

variable {α ρ κ τ ε : Type*} {target : α → ρ} {budget : α → ℕ}

/-- The calls of a chain of candidates. -/
inductive Executes (target : α → ρ) (budget : α → ℕ) : List α → List (Call ρ τ ε) → Prop
  | exhausted : Executes target budget [] []
  | succeeds {a : α} {result : τ} {outcomes : List (Outcome τ ε)} (rest : List α)
      (h : Succeeds result (budget a) outcomes) :
      Executes target budget (a :: rest) (outcomes.map (Call.mk (target a)))
  | fails {a : α} {outcomes : List (Outcome τ ε)} {rest : List α} {calls : List (Call ρ τ ε)}
      (h : Fails (budget a) outcomes) (hrest : Executes target budget rest calls) :
      Executes target budget (a :: rest) (outcomes.map (Call.mk (target a)) ++ calls)

/-- The calls of candidates that are all given up. -/
inductive Exhausts (target : α → ρ) (budget : α → ℕ) : List α → List (Call ρ τ ε) → Prop
  | nil : Exhausts target budget [] []
  | cons {a : α} {outcomes : List (Outcome τ ε)} {rest : List α} {calls : List (Call ρ τ ε)}
      (h : Fails (budget a) outcomes) (hrest : Exhausts target budget rest calls) :
      Exhausts target budget (a :: rest) (outcomes.map (Call.mk (target a)) ++ calls)

/-- The calls of a chain that ends with the success of the candidate at a position, which
is counted from 1. -/
inductive SucceedsAt (target : α → ρ) (budget : α → ℕ) (t : ρ) (result : τ) :
    ℕ → List α → List (Call ρ τ ε) → Prop
  | here {a : α} {outcomes : List (Outcome τ ε)} (rest : List α) (ht : t = target a)
      (h : Succeeds result (budget a) outcomes) :
      SucceedsAt target budget t result 1 (a :: rest) (outcomes.map (Call.mk (target a)))
  | later {a : α} {outcomes : List (Outcome τ ε)} {position : ℕ} {rest : List α}
      {calls : List (Call ρ τ ε)} (h : Fails (budget a) outcomes)
      (hrest : SucceedsAt target budget t result position rest calls) :
      SucceedsAt target budget t result (position + 1) (a :: rest)
        (outcomes.map (Call.mk (target a)) ++ calls)

variable {candidates : List α} {calls : List (Call ρ τ ε)}

theorem Exhausts.executes (h : Exhausts target budget candidates calls) :
    Executes target budget candidates calls := by
  induction h with
  | nil => exact Executes.exhausted
  | cons h hrest ih => exact Executes.fails h ih

theorem SucceedsAt.executes {t : ρ} {result : τ} {position : ℕ}
    (h : SucceedsAt target budget t result position candidates calls) :
    Executes target budget candidates calls := by
  induction h with
  | here rest ht h => exact Executes.succeeds rest h
  | later h hrest ih => exact Executes.fails h ih

theorem Executes.congr {budget' : α → ℕ} (h : Executes target budget candidates calls)
    (hbudget : ∀ a ∈ candidates, budget a = budget' a) :
    Executes target budget' candidates calls := by
  induction h with
  | exhausted => exact Executes.exhausted
  | succeeds rest h => exact Executes.succeeds rest (hbudget _ List.mem_cons_self ▸ h)
  | fails h hrest ih =>
      exact Executes.fails (hbudget _ List.mem_cons_self ▸ h)
        (ih fun b hb ↦ hbudget b (List.mem_cons_of_mem _ hb))

theorem SucceedsAt.congr {budget' : α → ℕ} {t : ρ} {result : τ} {position : ℕ}
    (h : SucceedsAt target budget t result position candidates calls)
    (hbudget : ∀ a ∈ candidates, budget a = budget' a) :
    SucceedsAt target budget' t result position candidates calls := by
  induction h with
  | here rest ht h => exact SucceedsAt.here rest ht (hbudget _ List.mem_cons_self ▸ h)
  | later h hrest ih =>
      exact SucceedsAt.later (hbudget _ List.mem_cons_self ▸ h)
        (ih fun b hb ↦ hbudget b (List.mem_cons_of_mem _ hb))

theorem SucceedsAt.position_le {t : ρ} {result : τ} {position : ℕ}
    (h : SucceedsAt target budget t result position candidates calls) :
    position ≤ candidates.length := by
  induction h with
  | here rest ht h => exact Nat.succ_le_succ (Nat.zero_le _)
  | later h hrest ih => exact Nat.succ_le_succ ih

/-- The last call is the one that succeeded. -/
theorem SucceedsAt.getLast {t : ρ} {result : τ} {position : ℕ}
    (h : SucceedsAt target budget t result position candidates calls) :
    calls.getLast? = some ⟨t, .success result⟩ := by
  induction h with
  | here rest ht h => rw [List.getLast?_map, h.getLast, ht, Option.map_some]
  | later h hrest ih => rw [List.getLast?_append, ih, Option.some_or]

theorem target_of_mem_map {t : ρ} {outcomes : List (Outcome τ ε)} {c : Call ρ τ ε}
    (h : c ∈ outcomes.map (Call.mk t)) : c.target = t := by
  obtain ⟨o, _, rfl⟩ := List.mem_map.mp h
  rfl

theorem Executes.target_mem (h : Executes target budget candidates calls) {c : Call ρ τ ε}
    (hc : c ∈ calls) : ∃ a ∈ candidates, c.target = target a := by
  induction h with
  | exhausted => exact absurd hc List.not_mem_nil
  | @succeeds a _ _ rest h => exact ⟨a, List.mem_cons_self, target_of_mem_map hc⟩
  | @fails a _ rest _ h hrest ih =>
      rcases List.mem_append.mp hc with hc | hc
      · exact ⟨a, List.mem_cons_self, target_of_mem_map hc⟩
      · obtain ⟨b, hb, htarget⟩ := ih hc
        exact ⟨b, List.mem_cons_of_mem a hb, htarget⟩

theorem pairwise_map_same {r : ρ → ρ → Prop} (hrefl : ∀ t, r t t) (t : ρ)
    (outcomes : List (Outcome τ ε)) :
    (outcomes.map (Call.mk t)).Pairwise fun c d ↦ r c.target d.target := by
  exact List.pairwise_map.mpr (List.pairwise_of_forall fun _ _ ↦ hrefl t)

/-- Calls are made in any order in which the candidates are listed. -/
theorem Executes.pairwise {r : ρ → ρ → Prop} (hrefl : ∀ t, r t t)
    (h : Executes target budget candidates calls)
    (hsorted : candidates.Pairwise fun a b ↦ r (target a) (target b)) :
    calls.Pairwise fun c d ↦ r c.target d.target := by
  induction h with
  | exhausted => exact List.Pairwise.nil
  | succeeds rest h => exact pairwise_map_same hrefl _ _
  | fails h hrest ih =>
      obtain ⟨hfirst, hrest'⟩ := List.pairwise_cons.mp hsorted
      refine List.pairwise_append.mpr ⟨pairwise_map_same hrefl _ _, ih hrest', ?_⟩
      intro c hc d hd
      obtain ⟨b, hb, htarget⟩ := hrest.target_mem hd
      rw [target_of_mem_map hc, htarget]
      exact hfirst b hb

/-- Without a success, every candidate is called. -/
theorem Executes.called (h : Executes target budget candidates calls)
    (hbudget : ∀ a ∈ candidates, 0 < budget a)
    (hnone : ∀ c ∈ calls, ∀ result, c.outcome ≠ .success result) {a : α} (ha : a ∈ candidates) :
    ∃ c ∈ calls, c.target = target a := by
  induction h with
  | exhausted => exact absurd ha List.not_mem_nil
  | @succeeds b result _ rest h =>
      exact absurd rfl (hnone ⟨target b, .success result⟩ (List.mem_map_of_mem h.mem) result)
  | @fails b outcomes rest _ h hrest ih =>
      rcases List.mem_cons.mp ha with rfl | ha
      · obtain ⟨o, ho⟩ := List.exists_mem_of_ne_nil _
          (h.ne_nil (hbudget a List.mem_cons_self))
        exact ⟨⟨target a, o⟩, List.mem_append_left _ (List.mem_map_of_mem ho), rfl⟩
      · obtain ⟨c, hc, htarget⟩ := ih (fun b hb ↦ hbudget b (List.mem_cons_of_mem _ hb))
          (fun c hc ↦ hnone c (List.mem_append_right _ hc)) ha
        exact ⟨c, List.mem_append_right _ hc, htarget⟩

/-- A call of a concatenation is one of the first part, or it comes after all of them. -/
theorem mem_or_split {xs ys before after : List α} {c : α}
    (h : xs ++ ys = before ++ c :: after) :
    c ∈ xs ∨ ∃ earlier, before = xs ++ earlier ∧ ys = earlier ++ c :: after := by
  rcases List.append_eq_append_iff.mp h with ⟨earlier, hbefore, hys⟩ | ⟨block, hxs, hrest⟩
  · exact Or.inr ⟨earlier, hbefore, hys⟩
  · cases block with
    | nil => exact Or.inr ⟨[], by simpa using hxs.symm, by simpa using hrest.symm⟩
    | cons d block =>
        obtain ⟨rfl, _⟩ := List.cons_eq_cons.mp hrest
        exact Or.inl (hxs ▸ List.mem_append_right _ List.mem_cons_self)

/-- When no failure may be retried, one call is made for each candidate up to the
position. -/
theorem SucceedsAt.position_eq {t : ρ} {result : τ} {position : ℕ}
    (h : SucceedsAt target budget t result position candidates calls)
    (hbudget : ∀ a ∈ candidates, 0 < budget a) (hnone : ∀ c ∈ calls, ¬ c.outcome.IsRetryable) :
    position = calls.length := by
  induction h with
  | @here a outcomes rest ht h =>
      rw [List.length_map, h.length_eq_one fun o ho ↦
        hnone ⟨target a, o⟩ (List.mem_map_of_mem ho)]
  | @later a outcomes position rest calls h hrest ih =>
      have hlater := ih (fun b hb ↦ hbudget b (List.mem_cons_of_mem a hb))
        fun c hc ↦ hnone c (List.mem_append_right _ hc)
      rw [List.length_append, List.length_map, hlater, Nat.add_comm,
        h.length_eq_one (hbudget a List.mem_cons_self) fun o ho ↦
          hnone ⟨target a, o⟩ (List.mem_append_left _ (List.mem_map_of_mem ho))]

/-- When every failure is fatal, one call is made for each candidate that may be called. -/
theorem Executes.length_of_fatal (h : Executes target budget candidates calls)
    (hfatal : ∀ c ∈ calls, ∃ error, c.outcome = .fatal error) :
    calls.length = candidates.countP fun a ↦ 0 < budget a := by
  induction h with
  | exhausted => rfl
  | @succeeds a result _ rest h =>
      obtain ⟨error, herror⟩ := hfatal ⟨target a, .success result⟩ (List.mem_map_of_mem h.mem)
      cases herror
  | @fails a outcomes rest calls h hrest ih =>
      have hlater := ih fun c hc ↦ hfatal c (List.mem_append_right _ hc)
      have hnone : ∀ o ∈ outcomes, ¬ o.IsRetryable := fun o ho ↦ by
        obtain ⟨error, rfl⟩ := hfatal ⟨target a, o⟩
          (List.mem_append_left _ (List.mem_map_of_mem ho))
        exact id
      rw [List.length_append, List.length_map, hlater, List.countP_cons, Nat.add_comm]
      by_cases hbudget : 0 < budget a
      · rw [h.length_eq_one hbudget hnone, if_pos (by simpa using hbudget)]
      · rw [h.eq_nil (by omega), if_neg (by simpa using hbudget)]
        rfl

/-- Nothing is called after a success. -/
theorem Executes.success_last (h : Executes target budget candidates calls) {t : ρ} {result : τ}
    {before after : List (Call ρ τ ε)} (hcalls : calls = before ++ ⟨t, .success result⟩ :: after) :
    after = [] := by
  induction h generalizing before with
  | exhausted => exact absurd hcalls (by simp)
  | @succeeds a _ outcomes rest h =>
      have houtcomes : outcomes =
          before.map Call.outcome ++ .success result :: after.map Call.outcome := by
        have := congrArg (List.map Call.outcome) hcalls
        simpa [Function.comp_def] using this
      exact List.map_eq_nil_iff.mp (h.success_last houtcomes)
  | @fails a outcomes rest calls' h hrest ih =>
      rcases mem_or_split hcalls with hmem | ⟨earlier, _, htail⟩
      · obtain ⟨o, ho, hcall⟩ := List.mem_map.mp hmem
        obtain ⟨_, rfl⟩ := Call.mk.inj hcall
        exact absurd ho (h.no_success result)
      · exact ih htail

/-! ## What happened to a target before a call -/

variable [DecidableEq κ] {key : ρ → κ}

/-- The outcomes of the calls to one target, which `key` tells apart from the others. -/
def outcomesOf (key : ρ → κ) (k : κ) (calls : List (Call ρ τ ε)) : List (Outcome τ ε) :=
  (calls.filter fun c ↦ decide (key c.target = k)).map Call.outcome

theorem outcomesOf_append (k : κ) (calls later : List (Call ρ τ ε)) :
    outcomesOf key k (calls ++ later) = outcomesOf key k calls ++ outcomesOf key k later := by
  rw [outcomesOf, List.filter_append, List.map_append, outcomesOf, outcomesOf]

theorem outcomesOf_map_same (t : ρ) (outcomes : List (Outcome τ ε)) :
    outcomesOf key (key t) (outcomes.map (Call.mk t)) = outcomes := by
  simp [outcomesOf, List.filter_map, Function.comp_def]

theorem outcomesOf_eq_nil {k : κ} (h : ∀ c ∈ calls, key c.target ≠ k) :
    outcomesOf key k calls = [] := by
  rw [outcomesOf, List.map_eq_nil_iff, List.filter_eq_nil_iff]
  exact fun c hc ↦ by simpa using h c hc

omit [DecidableEq κ] in
theorem property_of_head {p : ρ → Prop} {b : α} {rest : List α}
    (hfirst : (b :: rest).Pairwise fun a b ↦ p (target b) → p (target a)) {a : α}
    (ha : a ∈ b :: rest) (hpa : p (target a)) : p (target b) := by
  rcases List.mem_cons.mp ha with rfl | ha
  · exact hpa
  · exact List.rel_of_pairwise_cons hfirst ha hpa

/-- When the candidates with a property come first and a candidate without it is called,
those with it have all failed. -/
theorem Executes.failed_before {p : ρ → Prop} (h : Executes target budget candidates calls)
    (hfirst : candidates.Pairwise fun a b ↦ p (target b) → p (target a))
    (hdistinct : (candidates.map fun a ↦ key (target a)).Nodup)
    {before after : List (Call ρ τ ε)} {c : Call ρ τ ε} (hcalls : calls = before ++ c :: after)
    (hc : ¬ p c.target) {a : α} (ha : a ∈ candidates) (hpa : p (target a)) :
    Fails (budget a) (outcomesOf key (key (target a)) before) := by
  induction h generalizing before with
  | exhausted => exact absurd ha List.not_mem_nil
  | @succeeds b _ outcomes rest h =>
      have hmem : c ∈ outcomes.map (Call.mk (target b)) := by
        rw [hcalls]
        exact List.mem_append_right _ List.mem_cons_self
      exact absurd (target_of_mem_map hmem ▸ property_of_head hfirst ha hpa) hc
  | @fails b outcomes rest calls' h hrest ih =>
      obtain ⟨earlier, rfl, htail⟩ := (mem_or_split hcalls).resolve_left fun hmem ↦
        hc (target_of_mem_map hmem ▸ property_of_head hfirst ha hpa)
      rw [List.map_cons, List.nodup_cons] at hdistinct
      rw [outcomesOf_append]
      rcases List.mem_cons.mp ha with rfl | ha
      · have hnone : outcomesOf key (key (target a)) earlier = [] := by
          refine outcomesOf_eq_nil fun d hd hkey ↦ hdistinct.1 ?_
          have hmem : d ∈ calls' := htail ▸ List.mem_append_left _ hd
          obtain ⟨b, hb, htarget⟩ := hrest.target_mem hmem
          exact List.mem_map.mpr ⟨b, hb, by rw [← htarget, hkey]⟩
        rw [outcomesOf_map_same, hnone, List.append_nil]
        exact h
      · have hnone : outcomesOf key (key (target a)) (outcomes.map (Call.mk (target b))) = [] := by
          refine outcomesOf_eq_nil fun d hd hkey ↦ hdistinct.1 ?_
          rw [← target_of_mem_map hd, hkey]
          exact List.mem_map.mpr ⟨a, ha, rfl⟩
        rw [hnone, List.nil_append]
        exact ih (List.pairwise_cons.mp hfirst).2 hdistinct.2 htail ha

end Chains

end Fallback
