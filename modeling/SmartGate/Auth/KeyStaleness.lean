import Mathlib.Logic.Function.Basic
import SmartGate.Auth.KeyStore

/-!
# The age of cached keys

Any number of gateways look up keys, each with an in-process cache of its own; Redis and
the database are shared.  Time is in milliseconds.  An entry lives for its time to live
from the moment it is stored, and a lookup that finds its key in Redis stores it anew in
the cache of its gateway.  A record that is returned was the row of its key not longer
ago than both lifetimes and two delays, where a delay is the time from a read to the
writes that come from it.

Redis commands may fail; a gateway without Redis is one for which they always do.
Invalidations, evictions and the statements of the key repository happen at any time.
-/

namespace SmartGate

open ExpiringStore Transition

def l1TtlSecs : ℕ := 60

def l2TtlSecs : ℕ := 300

/-! ## The statements that write keys -/

/-- A statement of `KeyRepo`, with the time that `NOW()` gives. -/
inductive KeyWrite where
  | register (input : RegisterKey) (id : KeyId) (now : ℕ)
  | revoke (id : KeyId) (now : ℕ)
  | revokeScoped (id : KeyId) (serviceAccountId : ServiceAccountId) (now : ℕ)
  | updateLastUsed (id : KeyId) (now : ℕ)

/-- The table after the statement; one that fails leaves it alone. -/
def KeyWrite.apply (db : KeyTable) : KeyWrite → KeyTable
  | .register input id now =>
      if db.rows.all (fun k ↦ k.id ≠ id) then (db.insert? (input.row id now)).getD db else db
  | .revoke id now => (SmartGate.revoke db id now).toOption.elim db Prod.snd
  | .revokeScoped id serviceAccountId now =>
      (SmartGate.revokeScoped db id serviceAccountId now).toOption.elim db Prod.snd
  | .updateLastUsed id now => SmartGate.updateLastUsed db id now

theorem RevokedRow.revoke {db db' : KeyTable} {k : String} (h : RevokedRow db k)
    {p : ServiceAccountKey → Bool} {now : ℕ} {missing : StorageError} {key : ServiceAccountKey}
    (hrevoke : returning db.rows p (ServiceAccountKey.revoke now)
      (db.updateWhere p (ServiceAccountKey.revoke now) (ServiceAccountKey.revoke_keyId now))
      missing = .ok (key, db')) : RevokedRow db' k := by
  obtain ⟨_, rfl⟩ := returning_eq_ok hrevoke
  exact h.updateWhere fun _ _ ↦ rfl

theorem RevokedRow.answer {db : KeyTable} {k : String} (h : RevokedRow db k)
    {answer : Except StorageError (ServiceAccountKey × KeyTable)}
    (hok : ∀ key db', answer = .ok (key, db') → RevokedRow db' k) :
    RevokedRow (answer.toOption.elim db Prod.snd) k := by
  cases answer with
  | error e => exact h
  | ok pair => exact hok pair.1 pair.2 rfl

/-- No statement takes a revocation back. -/
theorem RevokedRow.apply {db : KeyTable} {k : String} (h : RevokedRow db k) (write : KeyWrite) :
    RevokedRow (write.apply db) k := by
  cases write with
  | register input id now =>
      simp only [KeyWrite.apply]
      split_ifs
      · cases hins : db.insert? (input.row id now) with
        | none => exact h
        | some db' => exact h.insert hins
      · exact h
  | revoke id now => exact h.answer fun _ _ hrevoke ↦ h.revoke hrevoke
  | revokeScoped id serviceAccountId now => exact h.answer fun _ _ hrevoke ↦ h.revoke hrevoke
  | updateLastUsed id now =>
      rw [KeyWrite.apply, SmartGate.updateLastUsed]
      exact h.updateWhere fun _ hrevoked ↦ hrevoked

/-! ## The gateways -/

variable {ι : Type}

/-- A lookup on one gateway.  `since` is when the record it has in hand was read, or when
it returned. -/
structure FleetLookup (ι : Type) where
  gateway : ι
  keyId : String
  phase : LookupPhase
  since : ℕ
  deriving DecidableEq

structure Fleet (ι : Type) where
  now : ℕ
  l1 : ι → Store String ServiceAccountKey
  l2 : Store String ServiceAccountKey
  db : KeyTable
  lookups : List (FleetLookup ι)

inductive FleetStep (ι : Type) where
  | wait (elapsed : ℕ)
  | startLookup (gateway : ι) (keyId : String)
  | stepLookup (i : ℕ) (redis : RedisConnection) (dbAnswers : Bool)
  | write (write : KeyWrite)
  | invalidateL1 (gateway : ι) (keyId : String)
  | invalidateL2 (keyId : String)

section Step

variable [DecidableEq ι]

/-- `l1.insert` -/
def Fleet.insertL1 (s : Fleet ι) (gateway : ι) (keyId : String) (key : ServiceAccountKey) :
    Fleet ι :=
  { s with
    l1 := Function.update s.l1 gateway
      (setEx (s.l1 gateway) s.now keyId key (1000 * l1TtlSecs)) }

omit [DecidableEq ι] in
def Fleet.setInRedis (s : Fleet ι) (redis : RedisConnection) (keyId : String)
    (key : ServiceAccountKey) : Fleet ι :=
  match redis with
  | .failing false => s
  | .failing true | .working =>
      { s with l2 := setEx s.l2 s.now (keyCacheKey keyId) key (1000 * l2TtlSecs) }

omit [DecidableEq ι] in
def Fleet.getFromRedis (s : Fleet ι) (redis : RedisConnection) (keyId : String) :
    Option ServiceAccountKey :=
  match redis with
  | .failing _ => none
  | .working => get s.l2 s.now (keyCacheKey keyId)

/-- One step of `KeyStore::get_by_key_id` on a gateway. -/
def fleetLookupStep (s : Fleet ι) (redis : RedisConnection) (dbAnswers : Bool)
    (l : FleetLookup ι) : Option (Fleet ι × FleetLookup ι) :=
  match l.phase with
  | .l1Get =>
      match get (s.l1 l.gateway) s.now l.keyId with
      | some key => some (s, { l with phase := .returned (.ok key), since := s.now })
      | none => some (s, { l with phase := .l2Get })
  | .l2Get =>
      match s.getFromRedis redis l.keyId with
      | some key => some (s, { l with phase := .l1Fill key, since := s.now })
      | none => some (s, { l with phase := .dbRead })
  | .l1Fill key =>
      some (s.insertL1 l.gateway l.keyId key,
        { l with phase := .returned (.ok key), since := s.now })
  | .dbRead =>
      match if dbAnswers then s.db.get l.keyId else none with
      | some key => some (s, { l with phase := .l1Insert key, since := s.now })
      | none => some (s, { l with
          phase := .returned (.error (.auth "unknown_key" s!"key '{l.keyId}' not found"))
          since := s.now })
  | .l1Insert key => some (s.insertL1 l.gateway l.keyId key, { l with phase := .l2Set key })
  | .l2Set key =>
      some (s.setInRedis redis l.keyId key,
        { l with phase := .returned (.ok key), since := s.now })
  | .returned _ => none

def fleetStep (s : Fleet ι) : FleetStep ι → Option (Fleet ι)
  | .wait elapsed => some { s with now := s.now + elapsed }
  | .startLookup gateway keyId =>
      some { s with lookups := ⟨gateway, keyId, .l1Get, s.now⟩ :: s.lookups }
  | .stepLookup i redis dbAnswers =>
      s.lookups[i]?.bind fun l ↦ (fleetLookupStep s redis dbAnswers l).map fun (s', l') ↦
        { s' with lookups := s.lookups.set i l' }
  | .write write => some { s with db := write.apply s.db }
  | .invalidateL1 gateway keyId =>
      some { s with l1 := Function.update s.l1 gateway (put (s.l1 gateway) keyId none) }
  | .invalidateL2 keyId => some { s with l2 := put s.l2 (keyCacheKey keyId) none }

end Step

def LookupPhase.writes : LookupPhase → Bool
  | .l1Fill _ | .l1Insert _ | .l2Set _ => true
  | .l1Get | .l2Get | .dbRead | .returned _ => false

/-- A lookup writes to the caches within `d` of the read that its record comes from. -/
def TimelyWrites (d : ℕ) (s : Fleet ι) : FleetStep ι → Prop
  | .stepLookup i _ _ => ∀ l ∈ s.lookups[i]?, l.phase.writes = true → s.now ≤ l.since + d
  | _ => True

instance (d : ℕ) (s : Fleet ι) (a : FleetStep ι) : Decidable (TimelyWrites d s a) :=
  match a with
  | .stepLookup i _ _ => inferInstanceAs (Decidable
      (∀ l ∈ s.lookups[i]?, l.phase.writes = true → s.now ≤ l.since + d))
  | .wait _ | .startLookup _ _ | .write _ | .invalidateL1 _ _ | .invalidateL2 _ =>
      inferInstanceAs (Decidable True)

/-! ## Every copy has a bounded age -/

/-- In one of the states the row of the key was `key`, and the time was `t`. -/
def RowAt (past : List (Fleet ι)) (keyId : String) (key : ServiceAccountKey) (t : ℕ) : Prop :=
  ∃ v ∈ past, v.db.get keyId = some key ∧ v.now = t

theorem RowAt.mono {past later : List (Fleet ι)} {keyId : String} {key : ServiceAccountKey}
    {t : ℕ} (h : RowAt past keyId key t) (hsub : past ⊆ later) : RowAt later keyId key t := by
  obtain ⟨v, hv, hrow⟩ := h
  exact ⟨v, hsub hv, hrow⟩

/-- The row of a key, under the key that Redis has for it. -/
def RedisRowAt (past : List (Fleet ι)) (redisKey : String) (key : ServiceAccountKey) (t : ℕ) :
    Prop :=
  ∀ keyId, keyCacheKey keyId = redisKey → RowAt past keyId key t

theorem RowAt.redis {past : List (Fleet ι)} {keyId : String} {key : ServiceAccountKey} {t : ℕ}
    (h : RowAt past keyId key t) : RedisRowAt past (keyCacheKey keyId) key t := by
  intro keyId' hkey
  exact keyCacheKey_injective hkey ▸ h

/-- How long a record may be returned after it was the row. -/
def staleness (d : ℕ) : ℕ := 1000 * (l1TtlSecs + l2TtlSecs) + 2 * d

def LookupPhase.Bounded (past : List (Fleet ι)) (d : ℕ) (keyId : String) (since : ℕ) :
    LookupPhase → Prop
  | .l1Get | .l2Get | .dbRead | .returned (.error _) => True
  | .l1Fill key => ∃ t, RowAt past keyId key t ∧ since ≤ t + (1000 * l2TtlSecs + d)
  | .l1Insert key | .l2Set key => RowAt past keyId key since
  | .returned (.ok key) => ∃ t, RowAt past keyId key t ∧ t ≤ since ∧ since ≤ t + staleness d

theorem LookupPhase.Bounded.mono {past later : List (Fleet ι)} {d : ℕ} {keyId : String}
    {since : ℕ} {phase : LookupPhase} (h : phase.Bounded past d keyId since)
    (hsub : past ⊆ later) : phase.Bounded later d keyId since := by
  cases phase with
  | l1Get | l2Get | dbRead => trivial
  | l1Fill key =>
      obtain ⟨t, hrow, hle⟩ := h
      exact ⟨t, hrow.mono hsub, hle⟩
  | l1Insert key | l2Set key => exact RowAt.mono h hsub
  | returned result =>
      cases result with
      | error e => trivial
      | ok key =>
          obtain ⟨t, hrow, hle⟩ := h
          exact ⟨t, hrow.mono hsub, hle⟩

/-- Every copy of a row that is in a cache or in the hands of a lookup is bounded in age. -/
structure Fleet.Copies (past : List (Fleet ι)) (d : ℕ) (s : Fleet ι) : Prop where
  l1 : ∀ gateway, BoundedAge (RowAt past) (staleness d) (s.l1 gateway)
  l2 : BoundedAge (RedisRowAt past) (1000 * l2TtlSecs + d) s.l2
  lookups : ∀ l ∈ s.lookups, l.phase.Bounded past d l.keyId l.since

structure Fleet.Bounded (d : ℕ) (past : List (Fleet ι)) (s : Fleet ι) : Prop
    extends s.Copies past d where
  current : s ∈ past
  clock : ∀ v ∈ past, v.now ≤ s.now

theorem Fleet.Copies.mono {past later : List (Fleet ι)} {d : ℕ} {s : Fleet ι}
    (h : s.Copies past d) (hsub : past ⊆ later) : s.Copies later d where
  l1 gateway := (h.l1 gateway).mono fun _ _ _ hrow ↦ hrow.mono hsub
  l2 := h.l2.mono fun _ _ _ hrow keyId hkey ↦ (hrow keyId hkey).mono hsub
  lookups l hl := (h.lookups l hl).mono hsub

theorem Fleet.Bounded.next {d : ℕ} {past : List (Fleet ι)} {s t : Fleet ι}
    (h : s.Bounded d past) (hnow : s.now ≤ t.now) (ht : t.Copies past d) :
    t.Bounded d (past ++ [t]) where
  toCopies := ht.mono (List.subset_append_left past [t])
  current := List.mem_append_right past List.mem_cons_self
  clock v hv := by
    rcases List.mem_append.mp hv with hv | hv
    · exact (h.clock v hv).trans hnow
    · exact (List.mem_singleton.mp hv ▸ le_rfl)

section Steps

variable [DecidableEq ι] {d : ℕ} {past : List (Fleet ι)} {s : Fleet ι}

theorem Fleet.Copies.insertL1 (h : s.Copies past d) {keyId : String} {key : ServiceAccountKey}
    {t lag : ℕ} (hrow : RowAt past keyId key t) (hlag : s.now ≤ t + lag)
    (hage : lag + 1000 * l1TtlSecs ≤ staleness d) (gateway : ι) :
    (s.insertL1 gateway keyId key).Copies past d where
  l1 gateway' := by
    by_cases hg : gateway' = gateway
    · subst hg
      simpa [Fleet.insertL1] using (h.l1 gateway').setEx hrow hlag hage
    · simpa [Fleet.insertL1, hg] using h.l1 gateway'
  l2 := h.l2
  lookups := h.lookups

omit [DecidableEq ι] in
theorem Fleet.Copies.setInRedis (h : s.Copies past d) {keyId : String} {key : ServiceAccountKey}
    {t : ℕ} (hrow : RowAt past keyId key t) (hlag : s.now ≤ t + d) (redis : RedisConnection) :
    (s.setInRedis redis keyId key).Copies past d := by
  have hset : BoundedAge (RedisRowAt past) (1000 * l2TtlSecs + d)
      (setEx s.l2 s.now (keyCacheKey keyId) key (1000 * l2TtlSecs)) :=
    h.l2.setEx hrow.redis hlag (by omega)
  match redis with
  | .failing false => exact h
  | .failing true | .working => exact ⟨h.l1, hset, h.lookups⟩

theorem fleetLookupStep_frame {redis : RedisConnection} {dbAnswers : Bool}
    {l l' : FleetLookup ι} {s' : Fleet ι}
    (hstep : fleetLookupStep s redis dbAnswers l = some (s', l')) :
    s'.now = s.now ∧ s'.db = s.db := by
  have hredis : ∀ keyId key, (s.setInRedis redis keyId key).now = s.now ∧
      (s.setInRedis redis keyId key).db = s.db := by
    intro keyId key
    match redis with
    | .failing false | .failing true | .working => exact ⟨rfl, rfl⟩
  unfold fleetLookupStep at hstep
  split at hstep
  case h_6 =>
      cases hstep
      exact hredis _ _
  case h_7 => cases hstep
  all_goals first
    | (split at hstep <;> cases hstep <;> exact ⟨rfl, rfl⟩)
    | (cases hstep; exact ⟨rfl, rfl⟩)

/-- What a step of a lookup leaves in the caches and in the hands of the lookup. -/
theorem Fleet.Bounded.lookupStep (h : s.Bounded d past) {redis : RedisConnection}
    {dbAnswers : Bool} {l l' : FleetLookup ι} {s' : Fleet ι} (hmem : l ∈ s.lookups)
    (htimely : l.phase.writes = true → s.now ≤ l.since + d)
    (hstep : fleetLookupStep s redis dbAnswers l = some (s', l')) :
    s'.Copies past d ∧ l'.phase.Bounded past d l'.keyId l'.since := by
  have hl := h.lookups l hmem
  have hpast : ∀ {keyId key t}, RowAt past keyId key t → t ≤ s.now := by
    rintro keyId key t ⟨v, hv, _, rfl⟩
    exact h.clock v hv
  unfold fleetLookupStep at hstep
  cases hphase : l.phase with
  | l1Get =>
      simp only [hphase] at hstep
      split at hstep <;> cases hstep
      · next key hkey =>
        obtain ⟨t, hrow, hle⟩ := (h.l1 l.gateway).get hkey
        exact ⟨h.toCopies, t, hrow, hpast hrow, hle⟩
      · exact ⟨h.toCopies, trivial⟩
  | l2Get =>
      simp only [hphase] at hstep
      split at hstep <;> cases hstep
      · next key hkey =>
        have hget : get s.l2 s.now (keyCacheKey l.keyId) = some key := by
          cases redis with
          | failing executed => cases hkey
          | working => exact hkey
        obtain ⟨t, hrow, hle⟩ := h.l2.get hget
        exact ⟨h.toCopies, t, hrow l.keyId rfl, hle⟩
      · exact ⟨h.toCopies, trivial⟩
  | dbRead =>
      simp only [hphase] at hstep
      split at hstep <;> cases hstep
      · next key hkey =>
        have hget : s.db.get l.keyId = some key := by
          split_ifs at hkey
          exact hkey
        exact ⟨h.toCopies, s, h.current, hget, rfl⟩
      · exact ⟨h.toCopies, trivial⟩
  | l1Fill key =>
      rw [hphase] at hl htimely
      simp only [hphase] at hstep
      cases hstep
      obtain ⟨t, hrow, hle⟩ := hl
      have hnow := htimely rfl
      have hlag : s.now ≤ t + (1000 * l2TtlSecs + d + d) := by omega
      refine ⟨h.insertL1 hrow hlag ?_ l.gateway, t, hrow, hpast hrow, ?_⟩
      · simp only [staleness]
        omega
      · simp only [staleness]
        omega
  | l1Insert key =>
      rw [hphase] at hl htimely
      simp only [hphase] at hstep
      cases hstep
      refine ⟨h.insertL1 hl (htimely rfl) ?_ l.gateway, hl⟩
      simp only [staleness]
      omega
  | l2Set key =>
      rw [hphase] at hl htimely
      simp only [hphase] at hstep
      cases hstep
      have hnow := htimely rfl
      refine ⟨h.setInRedis hl hnow redis, l.since, hl, hpast hl, ?_⟩
      simp only [staleness]
      omega
  | returned result =>
      simp only [hphase] at hstep
      cases hstep

theorem Fleet.Bounded.step (past : List (Fleet ι)) (s : Fleet ι) (a : FleetStep ι) (t : Fleet ι)
    (h : s.Bounded d past) (hguard : TimelyWrites d s a) (hstep : fleetStep s a = some t) :
    t.Bounded d (past ++ [t]) := by
  cases a with
  | wait elapsed =>
      cases hstep
      exact h.next (Nat.le_add_right _ _) ⟨h.l1, h.l2, h.lookups⟩
  | startLookup gateway keyId =>
      cases hstep
      refine h.next le_rfl ⟨h.l1, h.l2, fun l hl ↦ ?_⟩
      rcases List.mem_cons.mp hl with rfl | hold
      · trivial
      · exact h.lookups l hold
  | stepLookup i redis dbAnswers =>
      simp only [fleetStep, Option.bind_eq_some_iff, Option.map_eq_some_iff] at hstep
      obtain ⟨l, hl, ⟨s', l'⟩, hlookup, rfl⟩ := hstep
      obtain ⟨hcopies, hbounded⟩ :=
        h.lookupStep (List.mem_of_getElem? hl) (hguard l hl) hlookup
      refine h.next (fleetLookupStep_frame hlookup).1.ge ⟨hcopies.l1, hcopies.l2, fun q hq ↦ ?_⟩
      rcases List.mem_or_eq_of_mem_set hq with hold | rfl
      · exact h.lookups q hold
      · exact hbounded
  | write write =>
      cases hstep
      exact h.next le_rfl ⟨h.l1, h.l2, h.lookups⟩
  | invalidateL1 gateway keyId =>
      cases hstep
      refine h.next le_rfl ⟨fun gateway' ↦ ?_, h.l2, h.lookups⟩
      by_cases hg : gateway' = gateway
      · subst hg
        simpa using (h.l1 gateway').put_none keyId
      · simpa [hg] using h.l1 gateway'
  | invalidateL2 keyId =>
      cases hstep
      exact h.next le_rfl ⟨h.l1, h.l2.put_none _, h.lookups⟩

/-! ## Runs -/

/-- Time does not go back, and a revoked row stays revoked. -/
def Fleet.Before (s t : Fleet ι) : Prop :=
  s.now ≤ t.now ∧ ∀ k, RevokedRow s.db k → RevokedRow t.db k

theorem fleetStep_before (s : Fleet ι) (a : FleetStep ι) (t : Fleet ι)
    (hstep : fleetStep s a = some t) : s.Before t := by
  cases a with
  | wait elapsed =>
      cases hstep
      exact ⟨Nat.le_add_right _ _, fun _ h ↦ h⟩
  | stepLookup i redis dbAnswers =>
      simp only [fleetStep, Option.bind_eq_some_iff, Option.map_eq_some_iff] at hstep
      obtain ⟨l, _, ⟨s', l'⟩, hlookup, rfl⟩ := hstep
      obtain ⟨hnow, hdb⟩ := fleetLookupStep_frame hlookup
      exact ⟨hnow.ge, fun k h ↦ hdb ▸ h⟩
  | write write =>
      cases hstep
      exact ⟨le_rfl, fun _ h ↦ h.apply write⟩
  | startLookup gateway keyId | invalidateL1 gateway keyId | invalidateL2 keyId =>
      cases hstep
      exact ⟨le_rfl, fun _ h ↦ h⟩

omit [DecidableEq ι] in
/-- The gateways start with empty caches, at any time and with any keys. -/
def Fleet.start (now : ℕ) (db : KeyTable) : Fleet ι where
  now
  l1 _ := empty
  l2 := empty
  db
  lookups := []

omit [DecidableEq ι] in
theorem Fleet.bounded_start (d now : ℕ) (db : KeyTable) :
    (Fleet.start now db : Fleet ι).Bounded d [Fleet.start now db] where
  l1 _ := boundedAge_empty _ _
  l2 := boundedAge_empty _ _
  lookups l hl := by cases hl
  current := List.mem_singleton_self _
  clock v hv := (List.mem_singleton.mp hv ▸ le_rfl)

/-- A lookup that returns a record at the instant `l.since` returns what was the row of its
key at most 360 seconds and two delays before.  A key that was revoked before that is
returned as revoked. -/
theorem returned_record_age {d now : ℕ} {db : KeyTable} {steps : List (FleetStep ι)}
    {u : Fleet ι} (htimely : Guarded fleetStep (TimelyWrites d) (Fleet.start now db) steps)
    (hrun : run fleetStep (Fleet.start now db) steps = some u) {l : FleetLookup ι}
    {key : ServiceAccountKey} (hl : l ∈ u.lookups) (hreturned : l.phase = .returned (.ok key)) :
    (∃ v ∈ visited fleetStep (Fleet.start now db) steps, v.db.get l.keyId = some key ∧
        v.now ≤ l.since ∧ l.since ≤ v.now + (1000 * (60 + 300) + 2 * d)) ∧
      ∀ v ∈ visited fleetStep (Fleet.start now db) steps, RevokedRow v.db l.keyId →
        v.now + (1000 * (60 + 300) + 2 * d) < l.since → key.status = .revoked := by
  have hbounded : u.Bounded d ([] ++ visited fleetStep (Fleet.start now db) steps) :=
    run_invariant_visited Fleet.Bounded.step htimely hrun (Fleet.bounded_start d now db)
  have hphase := hbounded.lookups l hl
  rw [hreturned] at hphase
  obtain ⟨_, ⟨v, hv, hrow, rfl⟩, hafter, hage⟩ := hphase
  refine ⟨⟨v, hv, hrow, hafter, hage⟩, fun w hw hrevoked hlate ↦ ?_⟩
  have horder : w.Before v ∨ v.Before w :=
    rel_or_rel_of_visited (fun _ ↦ ⟨le_rfl, fun _ h ↦ h⟩)
      (fun _ _ _ hab hbc ↦ ⟨hab.1.trans hbc.1, fun k h ↦ hbc.2 k (hab.2 k h)⟩)
      fleetStep_before hw hv
  have hbefore : w.Before v := by
    refine horder.resolve_right fun hvw ↦ ?_
    have hle := hvw.1
    have hage' : l.since ≤ v.now + (1000 * (60 + 300) + 2 * d) := hage
    omega
  obtain ⟨row, hget, hstatus⟩ := hbefore.2 _ hrevoked
  cases hget.symm.trans hrow
  exact hstatus

end Steps

/-- One gateway fills Redis, the key is revoked, and almost five minutes later another
gateway takes the old record from Redis. -/
def lookupThroughRedis : List (FleetStep Bool) :=
  [.startLookup false "key-1", .stepLookup 0 .working true, .stepLookup 0 .working true,
    .stepLookup 0 .working true, .wait 10, .stepLookup 0 .working true,
    .stepLookup 0 .working true, .write (.revokeScoped ⟨⟨3⟩⟩ ⟨⟨1⟩⟩ 5), .wait 299000,
    .startLookup true "key-1", .stepLookup 0 .working true, .stepLookup 0 .working true,
    .stepLookup 0 .working true]

theorem returned_record_age_redis :
    ∃ u l, run fleetStep (Fleet.start 0 ⟨[sampleKey], by decide⟩) lookupThroughRedis = some u ∧
      l ∈ u.lookups ∧ l.phase = .returned (.ok sampleKey) ∧ l.since = 299010 ∧
      ∃ v ∈ visited fleetStep (Fleet.start 0 ⟨[sampleKey], by decide⟩) lookupThroughRedis,
        v.db.get "key-1" = some sampleKey ∧ v.now ≤ 299010 ∧
          299010 ≤ v.now + (1000 * (60 + 300) + 2 * 10) := by
  have hlookups : (run fleetStep (Fleet.start 0 ⟨[sampleKey], by decide⟩)
      lookupThroughRedis).map Fleet.lookups =
        some [⟨true, "key-1", .returned (.ok sampleKey), 299010⟩,
          ⟨false, "key-1", .returned (.ok sampleKey), 10⟩] := by
    decide +kernel
  have htimely : Guarded fleetStep (TimelyWrites 10)
      (Fleet.start 0 ⟨[sampleKey], by decide⟩) lookupThroughRedis := by
    decide +kernel
  obtain ⟨u, hu, hlist⟩ := Option.map_eq_some_iff.mp hlookups
  have hmem : ⟨true, "key-1", .returned (.ok sampleKey), 299010⟩ ∈ u.lookups := by
    simp [hlist]
  exact ⟨u, _, hu, hmem, rfl, rfl, (returned_record_age htimely hu hmem rfl).1⟩

end SmartGate
