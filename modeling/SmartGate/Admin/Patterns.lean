import SmartGate.Lib.Glob
import SmartGate.Admin.Validation

/-!
# Model patterns as globs

The matcher of the policy engine knows one star, at the end of a pattern, and reads every
other star as a character.  It is a glob matcher on the patterns whose stem, what is left
without a final star, has no star in it; these include all that the admin API admits.
-/

namespace SmartGate

/-! ## The two shapes of a pattern -/

theorem stripSuffix_eq_some {s : String} {c : Char} {stem : List Char} :
    stripSuffix s c = some stem ↔ s.toList = stem ++ [c] := by
  unfold stripSuffix
  constructor
  · intro h
    split_ifs at h with hlast
    rw [← Option.some.inj h]
    exact (List.dropLast_append_getLast? c hlast).symm
  · intro h
    rw [h, List.getLast?_concat, if_pos rfl, List.dropLast_concat]

theorem matchesGlob_of_eq_append {p : String} {stem : List Char} (hp : p.toList = stem ++ ['*'])
    (m : String) : matchesGlob p m = true ↔ stem <+: m.toList := by
  rw [matchesGlob, stripSuffix_eq_some.mpr hp, List.isPrefixOf_iff_prefix]

theorem matchesGlob_of_stripSuffix_eq_none {p : String} (hp : stripSuffix p '*' = none)
    (m : String) : matchesGlob p m = true ↔ m.toList = p.toList := by
  rw [matchesGlob, hp, beq_iff_eq, String.toList_inj]
  exact eq_comm

theorem toList_globBase_of_eq_append {p : String} {stem : List Char}
    (hp : p.toList = stem ++ ['*']) : (globBase p).toList = stem := by
  rw [globBase, stripSuffix_eq_some.mpr hp, String.toList_ofList]

theorem globBase_of_stripSuffix_eq_none {p : String} (hp : stripSuffix p '*' = none) :
    globBase p = p := by
  rw [globBase, hp]

/-! ## Agreement with glob matching -/

def GlobMatches (p m : String) : Prop := Glob.Matches '*' p.toList m.toList

/-- The model whose name is the pattern without its stars. -/
def withoutStars (p : String) : String :=
  String.ofList (p.toList.filter fun c ↦ decide (c ≠ '*'))

theorem globMatches_withoutStars (p : String) : GlobMatches p (withoutStars p) := by
  rw [GlobMatches, withoutStars, String.toList_ofList]
  exact Glob.matches_filter p.toList

theorem matchesGlob_iff_globMatches {p : String} (hp : '*' ∉ (globBase p).toList) (m : String) :
    matchesGlob p m = true ↔ GlobMatches p m := by
  cases hs : stripSuffix p '*' with
  | some stem =>
      have happ := stripSuffix_eq_some.mp hs
      rw [toList_globBase_of_eq_append happ] at hp
      rw [matchesGlob_of_eq_append happ, GlobMatches, happ, Glob.matches_append_wildcard_iff hp]
  | none =>
      rw [globBase_of_stripSuffix_eq_none hs] at hp
      rw [matchesGlob_of_stripSuffix_eq_none hs, GlobMatches, Glob.matches_iff_eq hp]

/-- A star inside the stem is where the two part: the pattern without its stars matches as a
glob and is too short for the matcher. -/
theorem not_matchesGlob_withoutStars {p : String} (hp : '*' ∈ (globBase p).toList) :
    ¬ matchesGlob p (withoutStars p) = true := by
  cases hs : stripSuffix p '*' with
  | some stem =>
      have happ := stripSuffix_eq_some.mp hs
      rw [toList_globBase_of_eq_append happ] at hp
      have hshort := Glob.length_filter_lt hp
      rw [matchesGlob_of_eq_append happ, withoutStars, String.toList_ofList, happ,
        List.filter_append]
      intro hpre
      have hle := hpre.length_le
      simp only [ne_eq, not_true_eq_false, decide_false, Bool.false_eq_true, not_false_eq_true,
        List.filter_cons_of_neg, List.filter_nil, List.append_nil] at hle hshort
      omega
  | none =>
      rw [globBase_of_stripSuffix_eq_none hs] at hp
      have hshort := Glob.length_filter_lt hp
      rw [matchesGlob_of_stripSuffix_eq_none hs, withoutStars, String.toList_ofList]
      intro heq
      rw [heq] at hshort
      exact absurd hshort (lt_irrefl _)

theorem matchesGlob_agrees_iff (p : String) :
    (∀ m, matchesGlob p m = true ↔ GlobMatches p m) ↔ '*' ∉ (globBase p).toList := by
  constructor
  · intro h hp
    exact not_matchesGlob_withoutStars hp ((h _).mpr (globMatches_withoutStars p))
  · exact matchesGlob_iff_globMatches

/-! ## What validation admits -/

theorem star_notMem_of_validateModelIdentifier {value field : String}
    (h : validateModelIdentifier value field = .ok ()) : '*' ∉ value.toList := by
  intro hmem
  exact absurd (permitted_of_validateText h '*' hmem) (by decide)

theorem star_notMem_globBase_of_validateModelItem {field p : String} {i : ℕ}
    (h : validateModelItem field (.str p) i = .ok ()) : '*' ∉ (globBase p).toList := by
  simp only [validateModelItem, Json.asStr] at h
  split_ifs at h with hempty
  · rw [String.isEmpty_iff.mp hempty]
    exact List.not_mem_nil
  · exact star_notMem_of_validateModelIdentifier h

theorem validated_patterns_match_as_globs {value : Json} {field : String}
    (h : validateModelsJson value field = .ok ()) :
    ∃ patterns, value.toStrings = some patterns ∧
      ∀ p ∈ patterns, ∀ m, matchesGlob p m = true ↔ GlobMatches p m := by
  obtain ⟨patterns, hpatterns⟩ :=
    Option.isSome_iff_exists.mp (toStrings_isSome_of_validateModelsJson h)
  refine ⟨patterns, hpatterns, fun p hp ↦ matchesGlob_iff_globMatches ?_⟩
  obtain ⟨items, hitems, hmapM⟩ := Option.bind_eq_some_iff.mp hpatterns
  rw [validateModelsJson, hitems] at h
  obtain ⟨i, hi⟩ := exists_validateModelItem_of_mem h (Json.str_mem_of_mapM_asStr hmapM hp)
  exact star_notMem_globBase_of_validateModelItem hi

theorem family_patterns_match_as_globs :
    ∃ patterns, (Json.ofStrings ["gpt-4*", "o1", "*"]).toStrings = some patterns ∧
      ∀ p ∈ patterns, ∀ m, matchesGlob p m = true ↔ GlobMatches p m :=
  validated_patterns_match_as_globs (eq_ok_of_toOption
    (by decide +kernel : (validateModelsJson (Json.ofStrings ["gpt-4*", "o1", "*"])
      "allowed_models").toOption = some ()))

end SmartGate
