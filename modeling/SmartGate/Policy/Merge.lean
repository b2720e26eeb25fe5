import SmartGate.Policy.Engine

/-!
# What a merge decides

A list of policies merges exactly when each of its policies is well formed, and
the result is then described by the set of its policies alone: a pattern is on the
merged allowlist when it is on every non-empty allowlist, on the merged denylist
when it is on some denylist, a limit is the least one present, and a feature is
allowed when every policy allows it.
-/

namespace SmartGate

open Least

/-! ## Which policies merge -/

def Policy.allowedModels (p : Policy) : List String := p.allowedModelsJson.toStrings.getD []

def Policy.deniedModels (p : Policy) : List String := p.deniedModelsJson.toStrings.getD []

def PositiveLimit (value : Option ℤ) : Prop := ∀ n ∈ value, 0 < n

structure Policy.Mergeable (p : Policy) : Prop where
  allowed : p.allowedModelsJson.toStrings.isSome
  denied : p.deniedModelsJson.toStrings.isSome
  maxInputTokens : PositiveLimit p.maxInputTokens
  maxOutputTokens : PositiveLimit p.maxOutputTokens
  rpmLimit : PositiveLimit p.rpmLimit
  concurrencyLimit : PositiveLimit p.concurrencyLimit

/-- The computation `x` answers `a` when `valid` holds, and otherwise rejects the
configuration under the name of some field. -/
structure Validates {α : Type*} (x : Except GatewayError α) (valid : Prop) (a : α) : Prop where
  ok : valid → x = .ok a
  error : ¬valid → ∃ field, x = .error (configInvalid field)

namespace Validates

variable {α β : Type} {x : Except GatewayError α} {valid valid' : Prop} {a : α}

theorem bind {f : α → Except GatewayError β} {b : β} (hx : Validates x valid a)
    (hf : Validates (f a) valid' b) : Validates (x >>= f) (valid ∧ valid') b where
  ok h := by
    rw [hx.ok h.1]
    exact hf.ok h.2
  error h := by
    by_cases hv : valid
    · rw [hx.ok hv]
      exact hf.error fun hv' ↦ h ⟨hv, hv'⟩
    · obtain ⟨field, hfield⟩ := hx.error hv
      rw [hfield]
      exact ⟨field, rfl⟩

theorem pure (a : α) : Validates (Pure.pure a : Except GatewayError α) True a :=
  ⟨fun _ ↦ rfl, fun h ↦ absurd trivial h⟩

theorem map (f : α → β) (hx : Validates x valid a) : Validates (x.map f) valid (f a) where
  ok h := by rw [hx.ok h, Except.map]
  error h := by
    obtain ⟨field, hfield⟩ := hx.error h
    exact ⟨field, by rw [hfield, Except.map]⟩

theorem of_iff (hx : Validates x valid a) (h : valid ↔ valid') : Validates x valid' a :=
  ⟨fun h' ↦ hx.ok (h.mpr h'), fun h' ↦ hx.error fun hv ↦ h' (h.mp hv)⟩

theorem valid_of_ok (hx : Validates x valid a) {b : α} (h : x = .ok b) : valid ∧ b = a := by
  by_cases hv : valid
  · rw [hx.ok hv] at h
    cases h
    exact ⟨hv, rfl⟩
  · obtain ⟨field, hfield⟩ := hx.error hv
    rw [hfield] at h
    cases h

end Validates

theorem decodeModels_validates (v : Json) (field : String) :
    Validates (decodeModels v field) v.toStrings.isSome (v.toStrings.getD []) := by
  unfold decodeModels
  cases v.toStrings with
  | none => exact ⟨fun h ↦ absurd h (by simp), fun _ ↦ ⟨field, rfl⟩⟩
  | some models => exact ⟨fun _ ↦ rfl, fun h ↦ absurd rfl h⟩

def restrictLimit (current : Option ℕ) : Option ℤ → Option ℕ
  | none => current
  | some limit => insertMin current limit.toNat

theorem mergePositiveLimit_validates (current : Option ℕ) (value : Option ℤ) (field : String) :
    Validates (mergePositiveLimit current value field) (PositiveLimit value)
      (restrictLimit current value) := by
  cases value with
  | none =>
      refine ⟨fun _ ↦ rfl, fun h ↦ absurd ?_ h⟩
      intro n hn
      cases hn
  | some limit =>
      have hiff : PositiveLimit (some limit) ↔ ¬limit ≤ 0 := by simp [PositiveLimit]
      refine ⟨fun h ↦ ?_, fun h ↦ ⟨field, ?_⟩⟩
      · simp only [mergePositiveLimit, if_neg (hiff.mp h), restrictLimit]
      · simp only [mergePositiveLimit, if_pos (not_not.mp (mt hiff.mpr h))]

def MergeState.restrict (acc : MergeState) (p : Policy) : MergeState where
  allowedModels := (mergeAllowed acc.allowedModels acc.firstAllowlist p.allowedModels).1
  firstAllowlist := (mergeAllowed acc.allowedModels acc.firstAllowlist p.allowedModels).2
  deniedModelsSet := acc.deniedModelsSet ∪ p.deniedModels
  maxInputTokens := restrictLimit acc.maxInputTokens p.maxInputTokens
  maxOutputTokens := restrictLimit acc.maxOutputTokens p.maxOutputTokens
  rpmLimit := restrictLimit acc.rpmLimit p.rpmLimit
  concurrencyLimit := restrictLimit acc.concurrencyLimit p.concurrencyLimit
  allowStreaming := acc.allowStreaming && p.allowStreaming
  allowTools := acc.allowTools && p.allowTools
  allowFiles := acc.allowFiles && p.allowFiles

theorem mergePolicy_validates (acc : MergeState) (p : Policy) :
    Validates (mergePolicy acc p) p.Mergeable (acc.restrict p) := by
  have hiff : (p.allowedModelsJson.toStrings.isSome ∧ p.deniedModelsJson.toStrings.isSome ∧
      PositiveLimit p.maxInputTokens ∧ PositiveLimit p.maxOutputTokens ∧
      PositiveLimit p.rpmLimit ∧ PositiveLimit p.concurrencyLimit ∧ True) ↔ p.Mergeable :=
    ⟨fun ⟨ha, hd, hi, ho, hr, hc, _⟩ ↦ ⟨ha, hd, hi, ho, hr, hc⟩,
      fun h ↦ ⟨h.allowed, h.denied, h.maxInputTokens, h.maxOutputTokens, h.rpmLimit,
        h.concurrencyLimit, trivial⟩⟩
  refine Validates.of_iff ?_ hiff
  refine (decodeModels_validates p.allowedModelsJson _).bind ?_
  refine (decodeModels_validates p.deniedModelsJson _).bind ?_
  refine (mergePositiveLimit_validates acc.maxInputTokens p.maxInputTokens _).bind ?_
  refine (mergePositiveLimit_validates acc.maxOutputTokens p.maxOutputTokens _).bind ?_
  refine (mergePositiveLimit_validates acc.rpmLimit p.rpmLimit _).bind ?_
  refine (mergePositiveLimit_validates acc.concurrencyLimit p.concurrencyLimit _).bind ?_
  exact Validates.pure (acc.restrict p)

theorem foldlM_mergePolicy_validates (ps : List Policy) (acc : MergeState) :
    Validates (ps.foldlM mergePolicy acc) (∀ p ∈ ps, p.Mergeable)
      (ps.foldl MergeState.restrict acc) := by
  induction ps generalizing acc with
  | nil => exact (Validates.pure acc).of_iff (by simp)
  | cons p ps ih =>
      rw [List.foldlM_cons, List.foldl_cons]
      exact ((mergePolicy_validates acc p).bind (ih _)).of_iff List.forall_mem_cons.symm

def mergedPolicy (hash : Enumeration String) (ps : List Policy) : EvaluatedPolicy :=
  if ps.isEmpty then EvaluatedPolicy.default
  else (ps.foldl MergeState.restrict MergeState.initial).finish hash

/-- A list merges exactly when each of its policies is well formed. -/
theorem mergePolicies_validates (hash : Enumeration String) (ps : List Policy) :
    Validates (mergePolicies hash ps) (∀ p ∈ ps, p.Mergeable) (mergedPolicy hash ps) := by
  cases ps with
  | nil => exact (Validates.pure EvaluatedPolicy.default).of_iff (by simp)
  | cons p ps => exact (foldlM_mergePolicy_validates (p :: ps) MergeState.initial).map _

/-! ## What the merged policy contains -/

def limitsOf (column : Policy → Option ℤ) (ps : List Policy) : Set ℕ :=
  {n | ∃ p ∈ ps, (column p).map Int.toNat = some n}

theorem leastOf_restrictLimit {column : Policy → Option ℤ} {ps : List Policy} {r : Option ℕ}
    (h : LeastOf (limitsOf column ps) r) (p : Policy) :
    LeastOf (limitsOf column (ps ++ [p])) (restrictLimit r (column p)) := by
  cases hp : column p with
  | none =>
      have hset : limitsOf column (ps ++ [p]) = limitsOf column ps := by
        ext n
        simp [limitsOf, or_and_right, exists_or, hp]
      rw [hset]
      exact h
  | some limit =>
      have hset : limitsOf column (ps ++ [p]) = insert limit.toNat (limitsOf column ps) := by
        ext n
        simp [limitsOf, or_and_right, exists_or, hp, eq_comm, or_comm]
      rw [hset]
      exact h.insertMin limit.toNat

/-- A pattern is on every non-empty allowlist, and there is one. -/
def CommonlyAllowed (ps : List Policy) (m : String) : Prop :=
  (∃ p ∈ ps, p.allowedModels ≠ []) ∧ ∀ p ∈ ps, p.allowedModels ≠ [] → m ∈ p.allowedModels

/-- The local variables of the loop after the policies `ps`. -/
structure MergeState.Represents (acc : MergeState) (ps : List Policy) : Prop where
  first : acc.firstAllowlist = true ↔ ∀ p ∈ ps, p.allowedModels = []
  allowed : ∀ m, m ∈ acc.allowedModels ↔ CommonlyAllowed ps m
  denied : ∀ m, m ∈ acc.deniedModelsSet ↔ ∃ p ∈ ps, m ∈ p.deniedModels
  maxInputTokens : LeastOf (limitsOf Policy.maxInputTokens ps) acc.maxInputTokens
  maxOutputTokens : LeastOf (limitsOf Policy.maxOutputTokens ps) acc.maxOutputTokens
  rpmLimit : LeastOf (limitsOf Policy.rpmLimit ps) acc.rpmLimit
  concurrencyLimit : LeastOf (limitsOf Policy.concurrencyLimit ps) acc.concurrencyLimit
  allowStreaming : acc.allowStreaming = true ↔ ∀ p ∈ ps, p.allowStreaming = true
  allowTools : acc.allowTools = true ↔ ∀ p ∈ ps, p.allowTools = true
  allowFiles : acc.allowFiles = true ↔ ∀ p ∈ ps, p.allowFiles = true

theorem limitsOf_nil (column : Policy → Option ℤ) : limitsOf column [] = ∅ := by
  simp [limitsOf]

theorem MergeState.represents_initial : MergeState.initial.Represents [] where
  first := by simp [MergeState.initial]
  allowed := by simp [MergeState.initial, CommonlyAllowed]
  denied := by simp [MergeState.initial]
  maxInputTokens := limitsOf_nil _
  maxOutputTokens := limitsOf_nil _
  rpmLimit := limitsOf_nil _
  concurrencyLimit := limitsOf_nil _
  allowStreaming := by simp [MergeState.initial]
  allowTools := by simp [MergeState.initial]
  allowFiles := by simp [MergeState.initial]

theorem commonlyAllowed_append_nil {ps : List Policy} {p : Policy} (hp : p.allowedModels = [])
    (m : String) : CommonlyAllowed (ps ++ [p]) m ↔ CommonlyAllowed ps m := by
  simp [CommonlyAllowed, hp, or_imp, forall_and, or_and_right, exists_or]

theorem commonlyAllowed_append {ps : List Policy} {p : Policy} (hp : p.allowedModels ≠ [])
    (m : String) : CommonlyAllowed (ps ++ [p]) m ↔
      m ∈ p.allowedModels ∧ ∀ q ∈ ps, q.allowedModels ≠ [] → m ∈ q.allowedModels := by
  constructor
  · intro h
    exact ⟨h.2 p (by simp) hp, fun q hq ↦ h.2 q (by simp [hq])⟩
  · rintro ⟨hm, hall⟩
    refine ⟨⟨p, by simp, hp⟩, fun q hq hne ↦ ?_⟩
    rcases List.mem_append.mp hq with hq | hq
    · exact hall q hq hne
    · rw [List.mem_singleton.mp hq]
      exact hm

theorem mergeAllowed_represents {allowed : List String} {first : Bool} {ps : List Policy}
    (hfirst : first = true ↔ ∀ p ∈ ps, p.allowedModels = [])
    (hallowed : ∀ m, m ∈ allowed ↔ CommonlyAllowed ps m) (p : Policy) :
    ((mergeAllowed allowed first p.allowedModels).2 = true ↔
        ∀ q ∈ ps ++ [p], q.allowedModels = []) ∧
      ∀ m, m ∈ (mergeAllowed allowed first p.allowedModels).1 ↔
        CommonlyAllowed (ps ++ [p]) m := by
  by_cases hp : p.allowedModels = []
  · simp [mergeAllowed, hp, hfirst, hallowed, commonlyAllowed_append_nil hp, or_imp, forall_and]
  · have hne : p.allowedModels.isEmpty = false := by simpa using hp
    cases first with
    | true =>
        have hnone : ∀ q ∈ ps, q.allowedModels = [] := hfirst.mp rfl
        refine ⟨by simp [mergeAllowed, hne, hp], fun m ↦ ?_⟩
        rw [commonlyAllowed_append hp]
        simp only [mergeAllowed, hne, Bool.false_eq_true, if_false, if_true, iff_self_and]
        exact fun _ q hq hq' ↦ absurd (hnone q hq) hq'
    | false =>
        obtain ⟨q₀, hq₀, hne₀⟩ : ∃ q ∈ ps, q.allowedModels ≠ [] := by
          simpa using mt hfirst.mpr Bool.false_ne_true
        refine ⟨by simp [mergeAllowed, hne, hp], fun m ↦ ?_⟩
        rw [commonlyAllowed_append hp]
        simp only [mergeAllowed, hne, Bool.false_eq_true, if_false, List.mem_filter,
          decide_eq_true_eq, hallowed, CommonlyAllowed]
        exact ⟨fun h ↦ ⟨h.2, h.1.2⟩, fun h ↦ ⟨⟨⟨q₀, hq₀, hne₀⟩, h.2⟩, h.1⟩⟩

theorem MergeState.Represents.restrict {acc : MergeState} {ps : List Policy}
    (h : acc.Represents ps) (p : Policy) : (acc.restrict p).Represents (ps ++ [p]) where
  first := (mergeAllowed_represents h.first h.allowed p).1
  allowed := (mergeAllowed_represents h.first h.allowed p).2
  denied m := by
    simp [MergeState.restrict, h.denied, or_and_right, exists_or]
  maxInputTokens := leastOf_restrictLimit h.maxInputTokens p
  maxOutputTokens := leastOf_restrictLimit h.maxOutputTokens p
  rpmLimit := leastOf_restrictLimit h.rpmLimit p
  concurrencyLimit := leastOf_restrictLimit h.concurrencyLimit p
  allowStreaming := by simp [MergeState.restrict, h.allowStreaming, or_imp, forall_and]
  allowTools := by simp [MergeState.restrict, h.allowTools, or_imp, forall_and]
  allowFiles := by simp [MergeState.restrict, h.allowFiles, or_imp, forall_and]

theorem MergeState.Represents.foldl {acc : MergeState} {ps : List Policy}
    (h : acc.Represents ps) (qs : List Policy) :
    (qs.foldl MergeState.restrict acc).Represents (ps ++ qs) := by
  induction qs generalizing acc ps with
  | nil => simpa using h
  | cons q qs ih => simpa using ih (h.restrict q)

/-- The merged policy of a non-empty list, up to the order of its patterns. -/
structure EvaluatedPolicy.IsMergeOf (e : EvaluatedPolicy) (ps : List Policy) : Prop where
  allowed : ∀ m, m ∈ e.modelAccess.allowedModels ↔ CommonlyAllowed ps m
  denied : ∀ m, m ∈ e.modelAccess.deniedModels ↔ ∃ p ∈ ps, m ∈ p.deniedModels
  maxInputTokens : LeastOf (limitsOf Policy.maxInputTokens ps) e.tokenLimits.maxInputTokens
  maxOutputTokens : LeastOf (limitsOf Policy.maxOutputTokens ps) e.tokenLimits.maxOutputTokens
  rpmLimit : LeastOf (limitsOf Policy.rpmLimit ps) e.rpmLimit
  concurrencyLimit : LeastOf (limitsOf Policy.concurrencyLimit ps) e.concurrencyLimit
  allowStreaming : e.featureFlags.allowStreaming = true ↔ ∀ p ∈ ps, p.allowStreaming = true
  allowTools : e.featureFlags.allowTools = true ↔ ∀ p ∈ ps, p.allowTools = true
  allowFiles : e.featureFlags.allowFiles = true ↔ ∀ p ∈ ps, p.allowFiles = true

theorem mergedPolicy_isMergeOf (hash : Enumeration String) {ps : List Policy} (hne : ps ≠ []) :
    (mergedPolicy hash ps).IsMergeOf ps := by
  have hrep : (ps.foldl MergeState.restrict MergeState.initial).Represents ps :=
    MergeState.represents_initial.foldl ps
  have heq : mergedPolicy hash ps =
      (ps.foldl MergeState.restrict MergeState.initial).finish hash := by
    simp [mergedPolicy, hne]
  rw [heq]
  exact {
    allowed := hrep.allowed
    denied := fun m ↦ by rw [← hrep.denied m]; exact hash.mem_list
    maxInputTokens := hrep.maxInputTokens
    maxOutputTokens := hrep.maxOutputTokens
    rpmLimit := hrep.rpmLimit
    concurrencyLimit := hrep.concurrencyLimit
    allowStreaming := hrep.allowStreaming
    allowTools := hrep.allowTools
    allowFiles := hrep.allowFiles }

theorem isMergeOf_of_mergePolicies {hash : Enumeration String} {ps : List Policy}
    {e : EvaluatedPolicy} (hne : ps ≠ []) (h : mergePolicies hash ps = .ok e) : e.IsMergeOf ps := by
  rw [((mergePolicies_validates hash ps).valid_of_ok h).2]
  exact mergedPolicy_isMergeOf hash hne

/-! ## Model access under the merged rules -/

def Policy.AllowsModel (p : Policy) (model : String) : Prop :=
  p.allowedModels = [] ∨ ∃ pattern ∈ p.allowedModels, matchesGlob pattern model = true

def Policy.DeniesModel (p : Policy) (model : String) : Prop :=
  ∃ pattern ∈ p.deniedModels, matchesGlob pattern model = true

def AllowlistsOverlap (ps : List Policy) : Prop :=
  ∃ pattern, ∀ p ∈ ps, p.allowedModels ≠ [] → pattern ∈ p.allowedModels

/-- The merged rules let a model through that no policy denies, if a pattern common
to the non-empty allowlists matches it or there is no such pattern at all. -/
theorem EvaluatedPolicy.IsMergeOf.accepts_iff {e : EvaluatedPolicy} {ps : List Policy}
    (h : e.IsMergeOf ps) (model : String) :
    e.modelAccess.Accepts model ↔ (∀ p ∈ ps, ¬p.DeniesModel model) ∧
      ((∀ m, ¬CommonlyAllowed ps m) ∨
        ∃ m, CommonlyAllowed ps m ∧ matchesGlob m model = true) := by
  rw [ModelAccessRules.accepts_iff]
  refine and_congr ?_ (or_congr ?_ ?_)
  · constructor
    · rintro hno p hp ⟨pattern, hpat, hmatch⟩
      have hfalse := hno pattern ((h.denied pattern).mpr ⟨p, hp, hpat⟩)
      simp [hfalse] at hmatch
    · intro hno pattern hpat
      obtain ⟨p, hp, hmem⟩ := (h.denied pattern).mp hpat
      exact Bool.eq_false_iff.mpr fun hmatch ↦ hno p hp ⟨pattern, hmem, hmatch⟩
  · rw [List.eq_nil_iff_forall_not_mem]
    exact forall_congr' fun m ↦ not_congr (h.allowed m)
  · exact exists_congr fun m ↦ and_congr_left fun _ ↦ h.allowed m

theorem EvaluatedPolicy.IsMergeOf.accepts_singleton_iff {e : EvaluatedPolicy} {p : Policy}
    (h : e.IsMergeOf [p]) (model : String) :
    e.modelAccess.Accepts model ↔ ¬p.DeniesModel model ∧ p.AllowsModel model := by
  rw [h.accepts_iff]
  by_cases hp : p.allowedModels = []
  · simp [CommonlyAllowed, Policy.AllowsModel, hp]
  · have hex : ∃ m, m ∈ p.allowedModels := List.exists_mem_of_ne_nil _ hp
    have hnot : ¬∀ m, m ∉ p.allowedModels := not_forall_not.mpr hex
    simp [CommonlyAllowed, Policy.AllowsModel, hp, hnot]

/-- Merging keeps a restriction of one of the policies exactly when the non-empty
allowlists have a pattern in common, or the restriction does not concern the model:
the policy itself allows it, or some policy of the list denies it.  Otherwise the
intersection is empty and is read as the absence of any allowlist. -/
theorem merge_never_widens_iff {hash hash' : Enumeration String} {ps : List Policy}
    {merged : EvaluatedPolicy} (hne : ps ≠ []) (hmerge : mergePolicies hash ps = .ok merged)
    {p : Policy} (hp : p ∈ ps) (model : String) :
    ∃ single, mergePolicies hash' [p] = .ok single ∧
      ((merged.modelAccess.Accepts model → single.modelAccess.Accepts model) ↔
        AllowlistsOverlap ps ∨ p.AllowsModel model ∨ ∃ q ∈ ps, q.DeniesModel model) := by
  have hvalid := ((mergePolicies_validates hash ps).valid_of_ok hmerge).1
  have hsingle : mergePolicies hash' [p] = .ok (mergedPolicy hash' [p]) :=
    (mergePolicies_validates hash' [p]).ok (by simpa using hvalid p hp)
  refine ⟨_, hsingle, ?_⟩
  have hm : merged.IsMergeOf ps := isMergeOf_of_mergePolicies hne hmerge
  have hs : (mergedPolicy hash' [p]).IsMergeOf [p] := mergedPolicy_isMergeOf hash' (by simp)
  rw [hm.accepts_iff, hs.accepts_singleton_iff]
  constructor
  · intro himp
    by_contra hnone
    obtain ⟨hoverlap, hrest⟩ := not_or.mp hnone
    obtain ⟨hallows, hdenies⟩ := not_or.mp hrest
    have hempty : ∀ m, ¬CommonlyAllowed ps m := fun m hm ↦ hoverlap ⟨m, hm.2⟩
    have hpass : ∀ q ∈ ps, ¬q.DeniesModel model := fun q hq hdeny ↦ hdenies ⟨q, hq, hdeny⟩
    exact hallows (himp ⟨hpass, Or.inl hempty⟩).2
  · rintro hcond ⟨hdenies, haccept⟩
    refine ⟨hdenies p hp, ?_⟩
    rcases hcond with ⟨pattern, hpattern⟩ | hallows | ⟨q, hq, hdeny⟩
    · by_cases hempty : p.allowedModels = []
      · exact Or.inl hempty
      · have hcommon : CommonlyAllowed ps pattern := ⟨⟨p, hp, hempty⟩, hpattern⟩
        rcases haccept with hnone | ⟨m, hm, hmatch⟩
        · exact absurd hcommon (hnone pattern)
        · exact Or.inr ⟨m, hm.2 p hp hempty, hmatch⟩
    · exact hallows
    · exact absurd hdeny (hdenies q hq)

def Policy.allowing (patterns : List String) : Policy where
  id := ⟨⟨1⟩⟩
  tenantId := ⟨⟨1⟩⟩
  name := "models"
  description := none
  allowedModelsJson := Json.ofStrings patterns
  deniedModelsJson := Json.ofStrings []
  maxInputTokens := none
  maxOutputTokens := none
  allowStreaming := true
  allowTools := true
  allowFiles := true
  rpmLimit := none
  concurrencyLimit := none
  createdAt := 0

theorem merge_never_widens_shared_pattern :
    ∃ merged single,
      mergePolicies Enumeration.stored [.allowing ["gpt-4*", "o1"], .allowing ["gpt-4*"]] =
          .ok merged ∧
        mergePolicies Enumeration.stored [.allowing ["gpt-4*"]] = .ok single ∧
        merged.modelAccess.Accepts "gpt-4o" ∧ single.modelAccess.Accepts "gpt-4o" := by
  have hmerge : mergePolicies Enumeration.stored
      [.allowing ["gpt-4*", "o1"], .allowing ["gpt-4*"]] = .ok _ := rfl
  obtain ⟨single, hsingle, hiff⟩ := merge_never_widens_iff (List.cons_ne_nil _ _) hmerge
    (List.mem_cons_of_mem _ (List.mem_singleton_self _)) "gpt-4o"
  refine ⟨_, single, hmerge, hsingle, by decide, hiff.mpr (Or.inl ⟨"gpt-4*", ?_⟩) (by decide)⟩
  intro p hp _
  rcases List.mem_cons.mp hp with rfl | hp
  · simp [Policy.allowedModels, Policy.allowing]
  · rw [List.mem_singleton.mp hp]
    simp [Policy.allowedModels, Policy.allowing]

/-- Two disjoint allowlists merge to no allowlist: a model that both forbid passes. -/
theorem disjoint_allowlists_widen :
    ∃ merged single,
      mergePolicies Enumeration.stored [.allowing ["gpt-4*"], .allowing ["claude-3*"]] =
          .ok merged ∧
        mergePolicies Enumeration.stored [.allowing ["gpt-4*"]] = .ok single ∧
        merged.modelAccess.Accepts "o1" ∧ ¬single.modelAccess.Accepts "o1" :=
  ⟨_, _, rfl, rfl, by decide, by decide⟩

/-! ## The decision depends on the set of policies -/

/-- Two merged policies decide alike on every request. -/
structure EvaluatedPolicy.SameDecision (e e' : EvaluatedPolicy) : Prop where
  checks : applyPolicyChecks e = applyPolicyChecks e'
  rpmLimit : e.rpmLimit = e'.rpmLimit
  concurrencyLimit : e.concurrencyLimit = e'.concurrencyLimit

theorem EvaluatedPolicy.SameDecision.refl (e : EvaluatedPolicy) : e.SameDecision e :=
  ⟨rfl, rfl, rfl⟩

theorem limitsOf_congr {ps qs : List Policy} (h : ∀ p, p ∈ ps ↔ p ∈ qs)
    (column : Policy → Option ℤ) : limitsOf column ps = limitsOf column qs := by
  ext n
  exact exists_congr fun p ↦ and_congr_left fun _ ↦ h p

theorem commonlyAllowed_congr {ps qs : List Policy} (h : ∀ p, p ∈ ps ↔ p ∈ qs) (m : String) :
    CommonlyAllowed ps m ↔ CommonlyAllowed qs m := by
  simp only [CommonlyAllowed, h]

theorem EvaluatedPolicy.IsMergeOf.sameDecision {e e' : EvaluatedPolicy} {ps qs : List Policy}
    (he : e.IsMergeOf ps) (he' : e'.IsMergeOf qs) (h : ∀ p, p ∈ ps ↔ p ∈ qs) :
    e.SameDecision e' := by
  have hmodels : ∀ model,
      checkModelAccess e.modelAccess model = checkModelAccess e'.modelAccess model := by
    apply checkModelAccess_congr
    · intro m
      rw [he.allowed, he'.allowed, commonlyAllowed_congr h]
    · intro m
      simp only [he.denied, he'.denied, h]
  have hflags : e.featureFlags = e'.featureFlags := by
    have hs : e.featureFlags.allowStreaming = e'.featureFlags.allowStreaming := by
      rw [Bool.eq_iff_iff, he.allowStreaming, he'.allowStreaming]
      simp only [h]
    have ht : e.featureFlags.allowTools = e'.featureFlags.allowTools := by
      rw [Bool.eq_iff_iff, he.allowTools, he'.allowTools]
      simp only [h]
    have hf : e.featureFlags.allowFiles = e'.featureFlags.allowFiles := by
      rw [Bool.eq_iff_iff, he.allowFiles, he'.allowFiles]
      simp only [h]
    exact FeatureFlags.ext hs ht hf
  have hlimit : ∀ {column r r'}, LeastOf (limitsOf column ps) r →
      LeastOf (limitsOf column qs) r' → r = r' := by
    intro column r r' hr hr'
    rw [limitsOf_congr h column] at hr
    exact hr.unique hr'
  have htokens : e.tokenLimits = e'.tokenLimits :=
    TokenLimits.ext (hlimit he.maxInputTokens he'.maxInputTokens)
      (hlimit he.maxOutputTokens he'.maxOutputTokens)
  refine ⟨?_, hlimit he.rpmLimit he'.rpmLimit, hlimit he.concurrencyLimit he'.concurrencyLimit⟩
  funext model features estimated requested
  simp only [applyPolicyChecks, hmodels, hflags, htokens]

theorem mergedPolicy_sameDecision (hash hash' : Enumeration String) {ps qs : List Policy}
    (h : ∀ p, p ∈ ps ↔ p ∈ qs) :
    (mergedPolicy hash ps).SameDecision (mergedPolicy hash' qs) := by
  by_cases hps : ps = []
  · have hqs : qs = [] :=
      List.eq_nil_iff_forall_not_mem.mpr fun q hq ↦ by simpa [hps] using (h q).mpr hq
    rw [hps, hqs]
    exact EvaluatedPolicy.SameDecision.refl _
  · have hqs : qs ≠ [] := by
      obtain ⟨p, hp⟩ := List.exists_mem_of_ne_nil ps hps
      exact List.ne_nil_of_mem ((h p).mp hp)
    exact (mergedPolicy_isMergeOf hash hps).sameDecision (mergedPolicy_isMergeOf hash' hqs) h

/-- Two lists with the same policies, in any order and with any repetitions, fail
alike or decide every request alike. -/
theorem mergePolicies_depends_on_members (hash hash' : Enumeration String) {ps qs : List Policy}
    (h : ∀ p, p ∈ ps ↔ p ∈ qs) :
    (∃ err err', mergePolicies hash ps = .error err ∧ mergePolicies hash' qs = .error err' ∧
        err.code = err'.code) ∨
      ∃ e e', mergePolicies hash ps = .ok e ∧ mergePolicies hash' qs = .ok e' ∧
        e.rpmLimit = e'.rpmLimit ∧ e.concurrencyLimit = e'.concurrencyLimit ∧
        ∀ model features estimated requested,
          SameOutcome (applyPolicyChecks e model features estimated requested)
            (applyPolicyChecks e' model features estimated requested) := by
  have hps := mergePolicies_validates hash ps
  have hqs := (mergePolicies_validates hash' qs).of_iff
    (show _ ↔ ∀ p ∈ ps, p.Mergeable by simp only [h])
  by_cases hvalid : ∀ p ∈ ps, p.Mergeable
  · have hsame := mergedPolicy_sameDecision hash hash' h
    refine Or.inr ⟨_, _, hps.ok hvalid, hqs.ok hvalid, hsame.rpmLimit, hsame.concurrencyLimit, ?_⟩
    intro model features estimated requested
    rw [hsame.checks]
    exact SameOutcome.refl _
  · obtain ⟨field, hfield⟩ := hps.error hvalid
    obtain ⟨field', hfield'⟩ := hqs.error hvalid
    exact Or.inl ⟨_, _, hfield, hfield', rfl⟩

theorem mergePolicies_depends_on_members_swap :
    ∃ e e', mergePolicies Enumeration.stored [.allowing ["gpt-4*", "o1"], .allowing ["o1"]] =
        .ok e ∧
      mergePolicies Enumeration.stored
        [.allowing ["o1"], .allowing ["gpt-4*", "o1"], .allowing ["o1"]] = .ok e' ∧
      e.rpmLimit = e'.rpmLimit := by
  have hmem : ∀ p, p ∈ [Policy.allowing ["gpt-4*", "o1"], .allowing ["o1"]] ↔
      p ∈ [Policy.allowing ["o1"], .allowing ["gpt-4*", "o1"], .allowing ["o1"]] := by
    intro p
    simp only [List.mem_cons, List.not_mem_nil, or_false]
    tauto
  rcases mergePolicies_depends_on_members Enumeration.stored Enumeration.stored hmem with
    ⟨err, _, herr, _⟩ | ⟨e, e', he, he', hrpm, _⟩
  · cases herr
  · exact ⟨e, e', he, he', hrpm⟩

end SmartGate
