import SmartGate.Auth.KeyStaleness

/-!
# One lookup on a gateway

What a step of a lookup reads and writes in the tiers of the key store: the entries of the key
that it looks up, and no others.  It comes to its end in at most five steps.
-/

namespace SmartGate

open ExpiringStore

variable {ι : Type} [DecidableEq ι]

/-! ## Progress -/

section Progress

variable {s s' : Fleet ι} {redis : RedisConnection} {dbAnswers : Bool} {l l' : FleetLookup ι}

theorem isSome_fleetLookupStep (s : Fleet ι) (redis : RedisConnection) (dbAnswers : Bool)
    (h : ∀ found, l.phase ≠ .returned found) :
    (fleetLookupStep s redis dbAnswers l).isSome = true := by
  unfold fleetLookupStep
  cases hphase : l.phase with
  | l1Get =>
      dsimp only
      split <;> rfl
  | l2Get =>
      dsimp only
      split <;> rfl
  | dbRead =>
      dsimp only
      split <;> rfl
  | l1Fill key | l1Insert key | l2Set key => rfl
  | returned found => exact absurd hphase (h found)

theorem remaining_fleetLookupStep_lt
    (hstep : fleetLookupStep s redis dbAnswers l = some (s', l')) :
    l'.phase.remaining < l.phase.remaining := by
  unfold fleetLookupStep at hstep
  cases hphase : l.phase <;> rw [hphase] at hstep
  case returned => cases hstep
  all_goals
    dsimp only at hstep
    repeat' split at hstep
    all_goals
      obtain ⟨rfl, rfl⟩ := Prod.mk.inj (Option.some.inj hstep)
      simp [LookupPhase.remaining]

end Progress

/-! ## What the tiers hold -/

/-- The record that a lookup has in hand. -/
def LookupPhase.Carries (p : ServiceAccountKey → Prop) : LookupPhase → Prop
  | .l1Fill key | .l1Insert key | .l2Set key | .returned (.ok key) => p key
  | .l1Get | .l2Get | .dbRead | .returned (.error _) => True

/-- All records that are stored under a key identifier, in whichever tier. -/
structure TiersHold (p : String → ServiceAccountKey → Prop)
    (l1 : ι → Store String ServiceAccountKey) (l2 : Store String ServiceAccountKey)
    (db : KeyTable) : Prop where
  l1 : ∀ gateway keyId e, l1 gateway keyId = some e → p keyId e.value
  l2 : ∀ keyId e, l2 (keyCacheKey keyId) = some e → p keyId e.value
  db : ∀ keyId key, db.get keyId = some key → p keyId key

section Hold

variable {p : String → ServiceAccountKey → Prop} {s s' : Fleet ι}
  {l1 : ι → Store String ServiceAccountKey} {l2 : Store String ServiceAccountKey} {db : KeyTable}

theorem TiersHold.putL1 (h : TiersHold p l1 l2 db) (gateway : ι) {keyId : String}
    {entry : Option (Entry ServiceAccountKey)} (hentry : ∀ e ∈ entry, p keyId e.value) :
    TiersHold p (Function.update l1 gateway (put (l1 gateway) keyId entry)) l2 db where
  l1 g k e he := by
    by_cases hg : g = gateway
    · subst hg
      rw [Function.update_self] at he
      by_cases hk : k = keyId
      · subst hk
        rw [put_same] at he
        exact hentry e he
      · rw [put_ne _ hk] at he
        exact h.l1 g k e he
    · rw [Function.update_of_ne hg] at he
      exact h.l1 g k e he
  l2 := h.l2
  db := h.db

omit [DecidableEq ι] in
theorem TiersHold.putL2 (h : TiersHold p l1 l2 db) {keyId : String}
    {entry : Option (Entry ServiceAccountKey)} (hentry : ∀ e ∈ entry, p keyId e.value) :
    TiersHold p l1 (put l2 (keyCacheKey keyId) entry) db where
  l1 := h.l1
  l2 k e he := by
    by_cases hk : k = keyId
    · subst hk
      rw [put_same] at he
      exact hentry e he
    · rw [put_ne _ (mt keyCacheKey_injective hk)] at he
      exact h.l2 k e he
  db := h.db

theorem TiersHold.insertL1 (h : TiersHold p s.l1 s.l2 s.db) (gateway : ι) {keyId : String}
    {key : ServiceAccountKey} (hkey : p keyId key) :
    TiersHold p (s.insertL1 gateway keyId key).l1 (s.insertL1 gateway keyId key).l2
      (s.insertL1 gateway keyId key).db :=
  h.putL1 gateway fun _ he ↦ Option.some.inj he ▸ hkey

omit [DecidableEq ι] in
theorem TiersHold.setInRedis (h : TiersHold p s.l1 s.l2 s.db) (redis : RedisConnection)
    {keyId : String} {key : ServiceAccountKey} (hkey : p keyId key) :
    TiersHold p (s.setInRedis redis keyId key).l1 (s.setInRedis redis keyId key).l2
      (s.setInRedis redis keyId key).db := by
  match redis with
  | .failing false => exact h
  | .failing true | .working => exact h.putL2 fun _ he ↦ Option.some.inj he ▸ hkey

/-- What holds of everything that is stored under an identifier also holds of what a lookup
finds, stores and returns. -/
theorem TiersHold.lookupStep (h : TiersHold p s.l1 s.l2 s.db) {redis : RedisConnection}
    {dbAnswers : Bool} {l l' : FleetLookup ι} (hl : l.phase.Carries (p l.keyId))
    (hstep : fleetLookupStep s redis dbAnswers l = some (s', l')) :
    TiersHold p s'.l1 s'.l2 s'.db ∧ l'.keyId = l.keyId ∧ l'.phase.Carries (p l.keyId) := by
  unfold fleetLookupStep at hstep
  cases hphase : l.phase with
  | l1Get =>
      simp only [hphase] at hstep
      split at hstep
      all_goals cases hstep
      · next key hkey =>
        obtain ⟨e, he, rfl⟩ := exists_entry_of_get hkey
        exact ⟨h, rfl, h.l1 _ _ e he⟩
      · exact ⟨h, rfl, trivial⟩
  | l2Get =>
      simp only [hphase] at hstep
      split at hstep
      all_goals cases hstep
      · next key hkey =>
        match redis with
        | .failing _ => cases hkey
        | .working =>
            obtain ⟨e, he, rfl⟩ := exists_entry_of_get hkey
            exact ⟨h, rfl, h.l2 _ e he⟩
      · exact ⟨h, rfl, trivial⟩
  | dbRead =>
      simp only [hphase] at hstep
      split at hstep
      all_goals cases hstep
      · next key hkey =>
        split_ifs at hkey
        exact ⟨h, rfl, h.db _ key hkey⟩
      · exact ⟨h, rfl, trivial⟩
  | l1Fill key | l1Insert key =>
      simp only [hphase] at hstep
      cases hstep
      rw [hphase] at hl
      exact ⟨h.insertL1 l.gateway hl, rfl, hl⟩
  | l2Set key =>
      simp only [hphase] at hstep
      cases hstep
      rw [hphase] at hl
      exact ⟨h.setInRedis redis hl, rfl, hl⟩
  | returned found =>
      simp only [hphase] at hstep
      cases hstep

/-- A key that has a row is found if the database answers. -/
theorem returned_ok_of_row {redis : RedisConnection} {l l' : FleetLookup ι}
    {row : ServiceAccountKey} {found : Except GatewayError ServiceAccountKey}
    (hrow : s.db.get l.keyId = some row)
    (hstep : fleetLookupStep s redis true l = some (s', l'))
    (hreturned : l'.phase = .returned found) : ∃ key, found = .ok key := by
  unfold fleetLookupStep at hstep
  cases hphase : l.phase <;> simp only [hphase, hrow, if_true] at hstep
  case l1Fill key | l2Set key =>
    cases hstep
    exact ⟨key, (LookupPhase.returned.inj hreturned).symm⟩
  case l1Get =>
    split at hstep
    all_goals cases hstep
    · next key _ => exact ⟨key, (LookupPhase.returned.inj hreturned).symm⟩
    · cases hreturned
  case l2Get =>
    split at hstep
    all_goals
      cases hstep
      cases hreturned
  all_goals
    cases hstep
    try cases hreturned

end Hold

/-! ## What a lookup depends on -/

section Locality

variable {s s' t : Fleet ι} {redis : RedisConnection} {dbAnswers : Bool} {l l' : FleetLookup ι}

/-- The entries of other keys stay as they are. -/
theorem fleetLookupStep_ne (hstep : fleetLookupStep s redis dbAnswers l = some (t, l')) :
    (∀ gateway keyId, keyId ≠ l.keyId → t.l1 gateway keyId = s.l1 gateway keyId) ∧
      ∀ keyId, keyId ≠ l.keyId → t.l2 (keyCacheKey keyId) = s.l2 (keyCacheKey keyId) := by
  have hinsert : ∀ key gateway keyId, keyId ≠ l.keyId →
      (s.insertL1 l.gateway l.keyId key).l1 gateway keyId = s.l1 gateway keyId := by
    intro key gateway keyId hk
    by_cases hg : gateway = l.gateway
    · subst hg
      exact (congrFun (Function.update_self _ _ _) keyId).trans (put_ne _ hk _)
    · exact congrFun (Function.update_of_ne hg _ _) keyId
  have hset : ∀ key keyId, keyId ≠ l.keyId →
      (s.setInRedis redis l.keyId key).l2 (keyCacheKey keyId) = s.l2 (keyCacheKey keyId) := by
    intro key keyId hk
    match redis with
    | .failing false => rfl
    | .failing true | .working => exact put_ne _ (mt keyCacheKey_injective hk) _
  have hset₁ : ∀ key, (s.setInRedis redis l.keyId key).l1 = s.l1 := by
    intro key
    match redis with
    | .failing false | .failing true | .working => rfl
  unfold fleetLookupStep at hstep
  cases hphase : l.phase <;> simp only [hphase] at hstep
  case l1Fill key | l1Insert key =>
    cases hstep
    exact ⟨hinsert key, fun _ _ ↦ rfl⟩
  case l2Set key =>
    cases hstep
    exact ⟨fun _ _ _ ↦ by rw [hset₁ key], hset key⟩
  case returned => cases hstep
  all_goals
    split at hstep
    all_goals
      cases hstep
      exact ⟨fun _ _ _ ↦ rfl, fun _ _ ↦ rfl⟩

theorem l2_fleetLookupStep (hstep : fleetLookupStep s redis dbAnswers l = some (t, l')) :
    t.l2 = s.l2 ∨ ∃ key,
      t.l2 = setEx s.l2 s.now (keyCacheKey l.keyId) key (1000 * l2TtlSecs) := by
  unfold fleetLookupStep at hstep
  cases hphase : l.phase <;> simp only [hphase] at hstep
  case l1Fill key | l1Insert key =>
    cases hstep
    exact Or.inl rfl
  case l2Set key =>
    cases hstep
    cases redis with
    | working => exact Or.inr ⟨key, rfl⟩
    | failing executed =>
        cases executed with
        | false => exact Or.inl rfl
        | true => exact Or.inr ⟨key, rfl⟩
  case returned => cases hstep
  all_goals
    split at hstep
    all_goals
      cases hstep
      exact Or.inl rfl

/-- Two fleets that agree on the key that is looked up answer alike, and what they agree on
stays so. -/
theorem fleetLookupStep_congr (hnow : s'.now = s.now)
    (hl1 : s'.l1 l.gateway l.keyId = s.l1 l.gateway l.keyId)
    (hl2 : s'.l2 (keyCacheKey l.keyId) = s.l2 (keyCacheKey l.keyId)) (hdb : s'.db = s.db)
    (redis : RedisConnection) (dbAnswers : Bool) :
    Option.Rel (fun answer answer' ↦ answer'.2 = answer.2 ∧
        (∀ gateway keyId, s'.l1 gateway keyId = s.l1 gateway keyId →
          answer'.1.l1 gateway keyId = answer.1.l1 gateway keyId) ∧
        ∀ redisKey, s'.l2 redisKey = s.l2 redisKey →
          answer'.1.l2 redisKey = answer.1.l2 redisKey)
      (fleetLookupStep s redis dbAnswers l) (fleetLookupStep s' redis dbAnswers l) := by
  have hinsert : ∀ key gateway keyId, s'.l1 gateway keyId = s.l1 gateway keyId →
      (s'.insertL1 l.gateway l.keyId key).l1 gateway keyId =
        (s.insertL1 l.gateway l.keyId key).l1 gateway keyId := by
    intro key gateway keyId hsame
    simp only [Fleet.insertL1, hnow]
    by_cases hg : gateway = l.gateway
    · subst hg
      rw [Function.update_self, Function.update_self]
      exact put_congr hsame _ _
    · rw [Function.update_of_ne hg, Function.update_of_ne hg, hsame]
  have hset : ∀ key, (s'.setInRedis redis l.keyId key).l1 = s'.l1 ∧
      (s.setInRedis redis l.keyId key).l1 = s.l1 ∧
      ∀ redisKey, s'.l2 redisKey = s.l2 redisKey →
        (s'.setInRedis redis l.keyId key).l2 redisKey =
          (s.setInRedis redis l.keyId key).l2 redisKey := by
    have hput : ∀ key redisKey, s'.l2 redisKey = s.l2 redisKey →
        setEx s'.l2 s'.now (keyCacheKey l.keyId) key (1000 * l2TtlSecs) redisKey =
          setEx s.l2 s.now (keyCacheKey l.keyId) key (1000 * l2TtlSecs) redisKey := by
      intro key redisKey hsame
      rw [hnow]
      exact put_congr hsame _ _
    intro key
    cases redis with
    | working => exact ⟨rfl, rfl, hput key⟩
    | failing executed =>
        cases executed with
        | false => exact ⟨rfl, rfl, fun _ hsame ↦ hsame⟩
        | true => exact ⟨rfl, rfl, hput key⟩
  have hget : s'.getFromRedis redis l.keyId = s.getFromRedis redis l.keyId := by
    cases redis with
    | failing _ => rfl
    | working =>
        simp only [Fleet.getFromRedis, hnow]
        exact get_congr hl2 _
  unfold fleetLookupStep
  cases l.phase with
  | l1Get =>
      simp only [hnow, get_congr hl1]
      split
      all_goals exact .some ⟨rfl, fun _ _ h ↦ h, fun _ h ↦ h⟩
  | l2Get =>
      simp only [hnow, hget]
      split
      all_goals exact .some ⟨rfl, fun _ _ h ↦ h, fun _ h ↦ h⟩
  | dbRead =>
      simp only [hnow, hdb]
      split
      all_goals exact .some ⟨rfl, fun _ _ h ↦ h, fun _ h ↦ h⟩
  | l1Fill key | l1Insert key =>
      simp only [hnow]
      exact .some ⟨rfl, hinsert key, fun _ h ↦ h⟩
  | l2Set key =>
      obtain ⟨hl1', hl1, hredis⟩ := hset key
      simp only [hnow]
      exact .some ⟨rfl, fun gateway keyId h ↦ by rw [hl1', hl1, h], hredis⟩
  | returned found => exact .none

end Locality

end SmartGate
