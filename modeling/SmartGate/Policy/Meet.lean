import SmartGate.Policy.Merge

/-!
# The merged policy as the meet of its policies

Limits and flags of a merged policy decide as all its policies together do: what one of
them refuses is refused, and the least limit applies.  For models this is so only as far
as the patterns of the allowlists agree as texts.  Two patterns may match the same model
and still not survive the intersection.
-/

namespace SmartGate

open Least

/-! ## Single policies -/

section Singles

variable {hash : Enumeration String} {ps : List Policy} {merged : EvaluatedPolicy}

/-- The policies of a list that merges can be merged one by one. -/
theorem mergePolicies_single (hmerge : mergePolicies hash ps = .ok merged)
    (hash' : Policy → Enumeration String) {p : Policy} (hp : p ∈ ps) :
    mergePolicies (hash' p) [p] = .ok (mergedPolicy (hash' p) [p]) := by
  have hvalid := ((mergePolicies_validates hash ps).valid_of_ok hmerge).1
  exact (mergePolicies_validates (hash' p) [p]).ok (by simpa using hvalid p hp)

theorem mergedPolicy_single_isMergeOf (hash : Enumeration String) (p : Policy) :
    (mergedPolicy hash [p]).IsMergeOf [p] :=
  mergedPolicy_isMergeOf hash (List.cons_ne_nil p [])

/-- The limits of a list are those of its policies. -/
theorem limitsOf_eq (column : Policy → Option ℤ) (ps : List Policy) :
    limitsOf column ps = {n | ∃ p ∈ {p | p ∈ ps}, n ∈ limitsOf column [p]} := by
  ext n
  simp [limitsOf]

/-- Limits that were checked are unsigned numbers. -/
theorem limitsOf_eq_natCast {column : Policy → Option ℤ}
    (h : ∀ p ∈ ps, PositiveLimit (column p)) :
    limitsOf column ps = {n : ℕ | ∃ p ∈ ps, column p = some (n : ℤ)} := by
  ext n
  refine exists_congr fun p ↦ and_congr_right fun hp ↦ ?_
  cases hlimit : column p with
  | none => simp
  | some limit =>
      have hpos := h p hp limit hlimit
      rw [Option.map_some, Option.some_inj, Option.some_inj]
      omega

end Singles

/-! ## Token limits -/

/-- The effective limit is the least of the requested one and those of the policies. -/
theorem leastOf_clampOutputTokens {S : Set ℕ} {limit : Option ℕ} (h : LeastOf S limit)
    (requested : Option ℕ) :
    LeastOf {n | n ∈ S ∨ requested = some n} (clampOutputTokens requested limit).1 := by
  cases requested with
  | none =>
      have hset : {n | n ∈ S ∨ none = some n} = S := by
        ext n
        simp
      rw [hset]
      cases limit with
      | none => exact h
      | some limit => exact h
  | some requested =>
      have hset : {n | n ∈ S ∨ some requested = some n} = insert requested S := by
        ext n
        simp [or_comm, eq_comm]
      have hmin : (clampOutputTokens (some requested) limit).1 = insertMin limit requested := by
        cases limit with
        | none => rfl
        | some limit =>
            rw [clampOutputTokens, insertMin]
            split_ifs with hlt
            · rw [min_eq_left hlt.le]
            · rw [min_eq_right (not_lt.mp hlt)]
      rw [hset, hmin]
      exact h.insertMin requested

theorem clampOutputTokens_clamped_iff {S : Set ℕ} {limit : Option ℕ} (h : LeastOf S limit)
    (requested : Option ℕ) :
    (clampOutputTokens requested limit).2 = true ↔ ∃ n ∈ requested, ¬ ∀ l ∈ S, n ≤ l := by
  cases requested with
  | none => cases limit <;> simp [clampOutputTokens]
  | some requested =>
      simp only [Option.mem_some_iff, exists_eq_left', ← h.forall_le_iff requested]
      cases limit with
      | none => simp [clampOutputTokens]
      | some limit =>
          by_cases hlt : limit < requested
          · simp [clampOutputTokens, hlt]
          · simp [clampOutputTokens, hlt, Nat.le_of_not_lt hlt]

/-! ## The meet -/

/-- The limits and flags of a merged policy, compared with those of policies that were
merged on their own. -/
structure EvaluatedPolicy.IsMeetOf (merged : EvaluatedPolicy) (ps : List Policy)
    (single : Policy → EvaluatedPolicy) : Prop where
  features : ∀ request, checkFeatures merged.featureFlags request = .ok () ↔
    ∀ p ∈ ps, checkFeatures (single p).featureFlags request = .ok ()
  inputTokens : ∀ estimated requested,
    (∃ result, checkTokenLimits merged.tokenLimits estimated requested = .ok result) ↔
      ∀ p ∈ ps, ∃ result,
        checkTokenLimits (single p).tokenLimits estimated requested = .ok result
  outputTokens : ∀ estimated requested result,
    checkTokenLimits merged.tokenLimits estimated requested = .ok result →
      LeastOf {n | ∃ p ∈ ps, ∃ r,
        checkTokenLimits (single p).tokenLimits estimated requested = .ok r ∧
          r.effectiveMaxOutputTokens = some n} result.effectiveMaxOutputTokens
  clamped : ∀ estimated requested result,
    checkTokenLimits merged.tokenLimits estimated requested = .ok result →
      (result.outputTokensClamped = true ↔ ∃ p ∈ ps, ∃ r,
        checkTokenLimits (single p).tokenLimits estimated requested = .ok r ∧
          r.outputTokensClamped = true)
  rpmLimit : LeastOf {n : ℕ | ∃ p ∈ ps, p.rpmLimit = some (n : ℤ)} merged.rpmLimit
  concurrencyLimit :
    LeastOf {n : ℕ | ∃ p ∈ ps, p.concurrencyLimit = some (n : ℤ)} merged.concurrencyLimit

namespace EvaluatedPolicy.IsMergeOf

variable {merged : EvaluatedPolicy} {ps : List Policy} {single : Policy → EvaluatedPolicy}

theorem checkFeatures_iff (h : merged.IsMergeOf ps)
    (hsingle : ∀ p ∈ ps, (single p).IsMergeOf [p]) (request : RequestFeatures) :
    checkFeatures merged.featureFlags request = .ok () ↔
      ∀ p ∈ ps, checkFeatures (single p).featureFlags request = .ok () := by
  have heach : ∀ p ∈ ps, checkFeatures (single p).featureFlags request = .ok () ↔
      (request.stream = true → p.allowStreaming = true) ∧
        (request.hasTools = true → p.allowTools = true) ∧
        (request.hasFiles = true → p.allowFiles = true) := by
    intro p hp
    rw [checkFeatures_eq_ok, (hsingle p hp).allowStreaming, (hsingle p hp).allowTools,
      (hsingle p hp).allowFiles]
    simp only [List.mem_singleton, forall_eq]
  rw [checkFeatures_eq_ok, h.allowStreaming, h.allowTools, h.allowFiles,
    forall₂_congr heach]
  constructor
  · rintro ⟨hs, ht, hf⟩ p hp
    exact ⟨fun r ↦ hs r p hp, fun r ↦ ht r p hp, fun r ↦ hf r p hp⟩
  · intro hall
    exact ⟨fun r p hp ↦ (hall p hp).1 r, fun r p hp ↦ (hall p hp).2.1 r,
      fun r p hp ↦ (hall p hp).2.2 r⟩

/-- An estimate passes when it is within every limit. -/
theorem checkTokenLimits_iff (h : merged.IsMergeOf ps) (estimated requested : Option ℕ) :
    (∃ result, checkTokenLimits merged.tokenLimits estimated requested = .ok result) ↔
      ∀ estimate ∈ estimated, ∀ limit ∈ limitsOf Policy.maxInputTokens ps, estimate ≤ limit := by
  simp only [checkTokenLimits_eq_ok, exists_and_left, exists_eq, and_true]
  exact forall₂_congr fun estimate _ ↦ h.maxInputTokens.forall_le_iff estimate

theorem checkTokenLimits_all_iff (h : merged.IsMergeOf ps)
    (hsingle : ∀ p ∈ ps, (single p).IsMergeOf [p]) (estimated requested : Option ℕ) :
    (∃ result, checkTokenLimits merged.tokenLimits estimated requested = .ok result) ↔
      ∀ p ∈ ps, ∃ result,
        checkTokenLimits (single p).tokenLimits estimated requested = .ok result := by
  rw [h.checkTokenLimits_iff, forall₂_congr fun p hp ↦
    (hsingle p hp).checkTokenLimits_iff estimated requested, limitsOf_eq]
  constructor
  · intro hall p hp estimate he limit hlimit
    exact hall estimate he limit ⟨p, hp, hlimit⟩
  · rintro hall estimate he limit ⟨p, hp, hlimit⟩
    exact hall p hp estimate he limit hlimit

/-- Once the input check has passed, single policies answer with their clamped limits. -/
theorem single_result (h : merged.IsMergeOf ps) (hsingle : ∀ p ∈ ps, (single p).IsMergeOf [p])
    {estimated requested : Option ℕ} {result : TokenCheckResult}
    (hresult : checkTokenLimits merged.tokenLimits estimated requested = .ok result)
    {p : Policy} (hp : p ∈ ps) {r : TokenCheckResult} :
    checkTokenLimits (single p).tokenLimits estimated requested = .ok r ↔
      r = ⟨(clampOutputTokens requested (single p).tokenLimits.maxOutputTokens).1,
        (clampOutputTokens requested (single p).tokenLimits.maxOutputTokens).2⟩ := by
  obtain ⟨r', hr'⟩ :=
    (h.checkTokenLimits_all_iff hsingle estimated requested).mp ⟨result, hresult⟩ p hp
  rw [checkTokenLimits_eq_ok]
  exact and_iff_right (checkTokenLimits_eq_ok.mp hr').1

theorem effective_leastOf (h : merged.IsMergeOf ps) (hne : ps ≠ [])
    (hsingle : ∀ p ∈ ps, (single p).IsMergeOf [p]) (requested : Option ℕ) :
    LeastOf {n | ∃ p ∈ {p | p ∈ ps},
        (clampOutputTokens requested (single p).tokenLimits.maxOutputTokens).1 = some n}
      (clampOutputTokens requested merged.tokenLimits.maxOutputTokens).1 := by
  have hleast := leastOf_clampOutputTokens h.maxOutputTokens requested
  have hset : {n | n ∈ limitsOf Policy.maxOutputTokens ps ∨ requested = some n} =
      {n | ∃ p ∈ {p | p ∈ ps},
        n ∈ {n | n ∈ limitsOf Policy.maxOutputTokens [p] ∨ requested = some n}} := by
    obtain ⟨p₀, hp₀⟩ := List.exists_mem_of_ne_nil ps hne
    ext n
    rw [limitsOf_eq]
    constructor
    · rintro (⟨p, hp, hn⟩ | hn)
      · exact ⟨p, hp, Or.inl hn⟩
      · exact ⟨p₀, hp₀, Or.inr hn⟩
    · rintro ⟨p, hp, hn | hn⟩
      · exact Or.inl ⟨p, hp, hn⟩
      · exact Or.inr hn
  rw [hset] at hleast
  exact hleast.least_of_least fun p hp ↦
    leastOf_clampOutputTokens (hsingle p hp).maxOutputTokens requested

theorem clamped_iff (h : merged.IsMergeOf ps) (hsingle : ∀ p ∈ ps, (single p).IsMergeOf [p])
    (requested : Option ℕ) :
    (clampOutputTokens requested merged.tokenLimits.maxOutputTokens).2 = true ↔
      ∃ p ∈ ps, (clampOutputTokens requested (single p).tokenLimits.maxOutputTokens).2 = true := by
  rw [clampOutputTokens_clamped_iff h.maxOutputTokens, limitsOf_eq]
  constructor
  · rintro ⟨n, hn, hexceeds⟩
    obtain ⟨limit, hlimit⟩ := not_forall.mp hexceeds
    obtain ⟨⟨p, hp, hmem⟩, hlt⟩ := Classical.not_imp.mp hlimit
    exact ⟨p, hp, (clampOutputTokens_clamped_iff (hsingle p hp).maxOutputTokens requested).mpr
      ⟨n, hn, fun hall ↦ hlt (hall limit hmem)⟩⟩
  · rintro ⟨p, hp, hclamped⟩
    obtain ⟨n, hn, hexceeds⟩ :=
      (clampOutputTokens_clamped_iff (hsingle p hp).maxOutputTokens requested).mp hclamped
    exact ⟨n, hn, fun hall ↦ hexceeds fun limit hlimit ↦ hall limit ⟨p, hp, hlimit⟩⟩

theorem isMeetOf (h : merged.IsMergeOf ps) (hne : ps ≠ [])
    (hvalid : ∀ p ∈ ps, p.Mergeable) (hsingle : ∀ p ∈ ps, (single p).IsMergeOf [p]) :
    merged.IsMeetOf ps single where
  features := h.checkFeatures_iff hsingle
  inputTokens := h.checkTokenLimits_all_iff hsingle
  outputTokens estimated requested result hresult := by
    rw [(checkTokenLimits_eq_ok.mp hresult).2]
    convert h.effective_leastOf hne hsingle requested using 3 with n
    refine exists_congr fun p ↦ and_congr_right fun hp ↦ ?_
    simp only [h.single_result hsingle hresult hp, exists_eq_left]
  clamped estimated requested result hresult := by
    rw [(checkTokenLimits_eq_ok.mp hresult).2]
    refine (h.clamped_iff hsingle requested).trans ?_
    refine exists_congr fun p ↦ and_congr_right fun hp ↦ ?_
    simp only [h.single_result hsingle hresult hp, exists_eq_left]
  rpmLimit := limitsOf_eq_natCast (fun p hp ↦ (hvalid p hp).rpmLimit) ▸ h.rpmLimit
  concurrencyLimit :=
    limitsOf_eq_natCast (fun p hp ↦ (hvalid p hp).concurrencyLimit) ▸ h.concurrencyLimit

end EvaluatedPolicy.IsMergeOf

/-- A non-empty list merges exactly when each of its policies is well formed, and its limits
and flags are then the meet of theirs. -/
theorem mergePolicies_is_meet (hash : Enumeration String) (hash' : Policy → Enumeration String)
    {ps : List Policy} (hne : ps ≠ []) :
    ((∃ merged, mergePolicies hash ps = .ok merged) ↔ ∀ p ∈ ps, p.Mergeable) ∧
      ∀ merged, mergePolicies hash ps = .ok merged →
        ∃ single : Policy → EvaluatedPolicy,
          (∀ p ∈ ps, mergePolicies (hash' p) [p] = .ok (single p)) ∧
            merged.IsMeetOf ps single := by
  have hvalidates := mergePolicies_validates hash ps
  constructor
  · constructor
    · rintro ⟨merged, hmerge⟩
      exact (hvalidates.valid_of_ok hmerge).1
    · intro hvalid
      exact ⟨_, hvalidates.ok hvalid⟩
  · intro merged hmerge
    refine ⟨fun p ↦ mergedPolicy (hash' p) [p],
      fun p hp ↦ mergePolicies_single hmerge hash' hp, ?_⟩
    exact (isMergeOf_of_mergePolicies hne hmerge).isMeetOf hne
      (hvalidates.valid_of_ok hmerge).1 fun p _ ↦ mergedPolicy_single_isMergeOf (hash' p) p

def Policy.limiting (maxOutputTokens : ℤ) : Policy :=
  { Policy.allowing [] with maxOutputTokens := some maxOutputTokens }

theorem mergePolicies_is_meet_two_limits :
    ∃ merged, mergePolicies Enumeration.stored [.limiting 100, .limiting 50] = .ok merged ∧
      merged.tokenLimits.maxOutputTokens = some 50 ∧
      ∃ single, merged.IsMeetOf [.limiting 100, .limiting 50] single := by
  obtain ⟨_, hmeet⟩ := mergePolicies_is_meet Enumeration.stored (fun _ ↦ Enumeration.stored)
    (List.cons_ne_nil (Policy.limiting 100) [.limiting 50])
  obtain ⟨single, _, h⟩ := hmeet _ rfl
  exact ⟨_, rfl, rfl, single, h⟩

/-! ## Models -/

/-- A model that every policy lets through passes the merged rules exactly when a pattern
that matches it stands on every non-empty allowlist, or no pattern does so. -/
theorem merge_denies_no_more_iff {hash : Enumeration String}
    (hash' : Policy → Enumeration String) {ps : List Policy} {merged : EvaluatedPolicy}
    (hne : ps ≠ []) (hmerge : mergePolicies hash ps = .ok merged) (model : String) :
    ∃ single : Policy → EvaluatedPolicy,
      (∀ p ∈ ps, mergePolicies (hash' p) [p] = .ok (single p)) ∧
        (((∀ p ∈ ps, (single p).modelAccess.Accepts model) → merged.modelAccess.Accepts model) ↔
          (∃ p ∈ ps, p.DeniesModel model ∨ ¬ p.AllowsModel model) ∨
            (∀ pattern, ¬ CommonlyAllowed ps pattern) ∨
            ∃ pattern, CommonlyAllowed ps pattern ∧ matchesGlob pattern model = true) := by
  refine ⟨fun p ↦ mergedPolicy (hash' p) [p],
    fun p hp ↦ mergePolicies_single hmerge hash' hp, ?_⟩
  have hsingle : ∀ p ∈ ps, (mergedPolicy (hash' p) [p]).modelAccess.Accepts model ↔
      ¬ p.DeniesModel model ∧ p.AllowsModel model := fun p _ ↦
    (mergedPolicy_single_isMergeOf (hash' p) p).accepts_singleton_iff model
  rw [forall₂_congr hsingle, (isMergeOf_of_mergePolicies hne hmerge).accepts_iff]
  constructor
  · intro h
    by_cases hrefused : ∃ p ∈ ps, p.DeniesModel model ∨ ¬ p.AllowsModel model
    · exact Or.inl hrefused
    · refine Or.inr (h fun p hp ↦ ?_).2
      have hpasses := fun hrefuses ↦ hrefused ⟨p, hp, hrefuses⟩
      exact ⟨fun hdenies ↦ hpasses (Or.inl hdenies),
        not_not.mp fun hallows ↦ hpasses (Or.inr hallows)⟩
  · intro h hall
    refine ⟨fun p hp ↦ (hall p hp).1, h.resolve_left ?_⟩
    rintro ⟨p, hp, hdenies | hallows⟩
    · exact (hall p hp).1 hdenies
    · exact hallows (hall p hp).2

theorem merge_denies_no_more_shared_pattern :
    ∃ (merged : EvaluatedPolicy) (single : Policy → EvaluatedPolicy),
      mergePolicies Enumeration.stored [.allowing ["gpt-4*", "o1"], .allowing ["gpt-4*"]] =
          .ok merged ∧
        ((∀ p ∈ [Policy.allowing ["gpt-4*", "o1"], .allowing ["gpt-4*"]],
          (single p).modelAccess.Accepts "gpt-4o") → merged.modelAccess.Accepts "gpt-4o") := by
  have hmerge : mergePolicies Enumeration.stored
      [.allowing ["gpt-4*", "o1"], .allowing ["gpt-4*"]] = .ok _ := rfl
  obtain ⟨single, _, hiff⟩ := merge_denies_no_more_iff (fun _ ↦ Enumeration.stored)
    (List.cons_ne_nil _ _) hmerge "gpt-4o"
  refine ⟨_, single, hmerge, hiff.mpr (Or.inr (Or.inr ⟨"gpt-4*", ⟨?_, ?_⟩, by decide⟩))⟩
  · exact ⟨_, List.mem_cons_self, by decide⟩
  · intro p hp _
    rcases List.mem_cons.mp hp with rfl | hp
    · decide
    · rw [List.mem_singleton.mp hp]
      decide

/-- A star and a name it covers have no pattern in common, so that only the pattern both
lists spell alike is left. -/
theorem overlapping_patterns_deny :
    ∃ merged first second,
      mergePolicies Enumeration.stored [.allowing ["gpt-4*", "o1"], .allowing ["gpt-4o", "o1"]] =
          .ok merged ∧
        mergePolicies Enumeration.stored [.allowing ["gpt-4*", "o1"]] = .ok first ∧
        mergePolicies Enumeration.stored [.allowing ["gpt-4o", "o1"]] = .ok second ∧
        first.modelAccess.Accepts "gpt-4o" ∧ second.modelAccess.Accepts "gpt-4o" ∧
        ¬ merged.modelAccess.Accepts "gpt-4o" :=
  ⟨_, _, _, rfl, rfl, rfl, by decide, by decide, by decide⟩

end SmartGate
