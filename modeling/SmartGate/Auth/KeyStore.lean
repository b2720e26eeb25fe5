import SmartGate.Auth.Middleware
import SmartGate.Lib.Cache
import SmartGate.Lib.Processes
import SmartGate.Lib.Transition
import SmartGate.Storage.Repositories

/-!
# The three-tier key cache

A lookup asks the in-process cache (L1), then Redis (L2), then the database, and fills
the faster tiers on its way back.  `revoke_key` updates the database and then removes
the key from both caches.  Each of these is a sequence of separate steps, so that the
steps of several lookups and revocations on one instance interleave.  Commands
succeed; entries may disappear from either cache at any time.
-/

namespace SmartGate

open Cache Transition

inductive LookupPhase where
  | l1Get
  | l2Get
  | l1Fill (key : ServiceAccountKey)
  | dbRead
  | l1Insert (key : ServiceAccountKey)
  | l2Set (key : ServiceAccountKey)
  | returned (result : Except GatewayError ServiceAccountKey)
  deriving DecidableEq

/-- A lookup in progress.  `late` records that a revocation of the same key had
returned when the lookup started. -/
structure Lookup where
  keyId : String
  late : Bool
  phase : LookupPhase
  deriving DecidableEq

inductive RevokePhase where
  | dbUpdate
  | l1Invalidate (key : ServiceAccountKey)
  | l2Delete (key : ServiceAccountKey)
  | returned (result : Except StorageError ServiceAccountKey)
  deriving DecidableEq

structure Revocation where
  id : KeyId
  serviceAccountId : ServiceAccountId
  phase : RevokePhase
  deriving DecidableEq

structure KeyStoreState where
  l1 : String → Option ServiceAccountKey
  l2 : String → Option ServiceAccountKey
  db : KeyTable
  lookups : List Lookup
  revocations : List Revocation

inductive KeyStoreStep where
  | startLookup (keyId : String)
  | stepLookup (i : ℕ)
  | startRevoke (id : KeyId) (serviceAccountId : ServiceAccountId)
  | stepRevoke (i : ℕ) (now : ℕ)
  | evictL1 (keyId : String)
  | expireL2 (keyId : String)
  | registerKey (key : ServiceAccountKey)
  | updateLastUsed (id : KeyId) (now : ℕ)

/-- One step of `KeyStore::get_by_key_id`: the new caches and the next phase. -/
def lookupStep (s : KeyStoreState) (l : Lookup) :
    Option (KeyStoreState × LookupPhase) :=
  match l.phase with
  | .l1Get =>
      match s.l1 l.keyId with
      | some key => some (s, .returned (.ok key))
      | none => some (s, .l2Get)
  | .l2Get =>
      match s.l2 l.keyId with
      | some key => some (s, .l1Fill key)
      | none => some (s, .dbRead)
  | .l1Fill key => some ({ s with l1 := setEntry s.l1 l.keyId (some key) }, .returned (.ok key))
  | .dbRead =>
      match s.db.get l.keyId with
      | some key => some (s, .l1Insert key)
      | none => some (s, .returned
          (.error (.auth "unknown_key" s!"key '{l.keyId}' not found")))
  | .l1Insert key => some ({ s with l1 := setEntry s.l1 l.keyId (some key) }, .l2Set key)
  | .l2Set key =>
      some ({ s with l2 := setEntry s.l2 l.keyId (some key) }, .returned (.ok key))
  | .returned _ => none

/-- One step of `revoke_key`, with `KeyStore::invalidate` in its two steps. -/
def revokeStep (s : KeyStoreState) (r : Revocation) (now : ℕ) :
    Option (KeyStoreState × RevokePhase) :=
  match r.phase with
  | .dbUpdate =>
      match revokeScoped s.db r.id r.serviceAccountId now with
      | .error e => some (s, .returned (.error e))
      | .ok (key, db) => some ({ s with db }, .l1Invalidate key)
  | .l1Invalidate key => some ({ s with l1 := setEntry s.l1 key.keyId none }, .l2Delete key)
  | .l2Delete key =>
      some ({ s with l2 := setEntry s.l2 key.keyId none }, .returned (.ok key))
  | .returned _ => none

def Revocation.updated (r : Revocation) (keyId : String) : Bool :=
  match r.phase with
  | .l1Invalidate key | .l2Delete key | .returned (.ok key) => decide (key.keyId = keyId)
  | _ => false

def Revocation.l1Cleared (r : Revocation) (keyId : String) : Bool :=
  match r.phase with
  | .l2Delete key | .returned (.ok key) => decide (key.keyId = keyId)
  | _ => false

def Revocation.finished (r : Revocation) (keyId : String) : Bool :=
  match r.phase with
  | .returned (.ok key) => decide (key.keyId = keyId)
  | _ => false

def keyStoreStep (s : KeyStoreState) : KeyStoreStep → Option KeyStoreState
  | .startLookup keyId =>
      let late := s.revocations.any fun r ↦ r.finished keyId
      some { s with lookups := ⟨keyId, late, .l1Get⟩ :: s.lookups }
  | .stepLookup i =>
      s.lookups[i]?.bind fun l ↦ (lookupStep s l).map fun (s', phase) ↦
        { s' with lookups := s.lookups.set i { l with phase } }
  | .startRevoke id serviceAccountId =>
      some { s with revocations := ⟨id, serviceAccountId, .dbUpdate⟩ :: s.revocations }
  | .stepRevoke i now =>
      s.revocations[i]?.bind fun r ↦ (revokeStep s r now).map fun (s', phase) ↦
        { s' with revocations := s.revocations.set i { r with phase } }
  | .evictL1 keyId => some { s with l1 := setEntry s.l1 keyId none }
  | .expireL2 keyId => some { s with l2 := setEntry s.l2 keyId none }
  | .registerKey key =>
      if s.db.rows.all (fun r ↦ r.id ≠ key.id) then
        (s.db.insert? key).map fun db ↦ { s with db }
      else none
  | .updateLastUsed id now => some { s with db := updateLastUsed s.db id now }

/-! ## Revocation without stale writes -/

/-- What a lookup is about to write is revoked, if it writes to L1 after a revocation
of the key has cleared L1, or to L2 after such a revocation has returned. -/
def LookupPhase.WritesOnlyRevoked (keyId : String) (revocations : List Revocation) :
    LookupPhase → Prop
  | .l1Fill key | .l1Insert key =>
      ∀ r ∈ revocations, r.l1Cleared keyId = true → key.status = .revoked
  | .l2Set key => ∀ r ∈ revocations, r.finished keyId = true → key.status = .revoked
  | .l1Get | .l2Get | .dbRead | .returned _ => True

/-- No lookup puts a record back that a revocation has removed. -/
def NoStaleWrite (s : KeyStoreState) : KeyStoreStep → Prop
  | .stepLookup i => ∀ l, s.lookups[i]? = some l →
      l.phase.WritesOnlyRevoked l.keyId s.revocations
  | _ => True

instance (keyId : String) (revocations : List Revocation) (phase : LookupPhase) :
    Decidable (phase.WritesOnlyRevoked keyId revocations) :=
  match phase with
  | .l1Fill key | .l1Insert key => inferInstanceAs (Decidable
      (∀ r ∈ revocations, r.l1Cleared keyId = true → key.status = .revoked))
  | .l2Set key => inferInstanceAs (Decidable
      (∀ r ∈ revocations, r.finished keyId = true → key.status = .revoked))
  | .l1Get | .l2Get | .dbRead | .returned _ => inferInstanceAs (Decidable True)

instance (s : KeyStoreState) (a : KeyStoreStep) : Decidable (NoStaleWrite s a) :=
  match a with
  | .stepLookup i =>
      inferInstanceAs (Decidable
        (∀ l ∈ s.lookups[i]?, l.phase.WritesOnlyRevoked l.keyId s.revocations))
  | .startLookup _ | .startRevoke _ _ | .stepRevoke _ _ | .evictL1 _ | .expireL2 _
  | .registerKey _ | .updateLastUsed _ _ => inferInstanceAs (Decidable True)

def RevokedEntry (entry : Option ServiceAccountKey) : Prop := ∀ key ∈ entry, key.status = .revoked

def RevokedRow (db : KeyTable) (keyId : String) : Prop :=
  ∃ key, db.get keyId = some key ∧ key.status = .revoked

def LookupPhase.CarriesRevoked : LookupPhase → Prop
  | .l1Get | .l2Get | .dbRead => True
  | .l1Fill key | .l1Insert key | .l2Set key => key.status = .revoked
  | .returned result => ∃ key, result = .ok key ∧ key.status = .revoked

structure KeyStoreState.Coherent (s : KeyStoreState) : Prop where
  db : ∀ r ∈ s.revocations, ∀ k, r.updated k = true → RevokedRow s.db k
  l1 : ∀ r ∈ s.revocations, ∀ k, r.l1Cleared k = true → RevokedEntry (s.l1 k)
  l2 : ∀ r ∈ s.revocations, ∀ k, r.finished k = true → RevokedEntry (s.l2 k)
  late : ∀ l ∈ s.lookups, l.late = true →
    (∃ r ∈ s.revocations, r.finished l.keyId = true) ∧ l.phase.CarriesRevoked

theorem Revocation.l1Cleared_of_finished {r : Revocation} {k : String}
    (h : r.finished k = true) : r.l1Cleared k = true := by
  unfold Revocation.finished at h
  unfold Revocation.l1Cleared
  split at h <;> simp_all

theorem Revocation.updated_of_finished {r : Revocation} {k : String}
    (h : r.finished k = true) : r.updated k = true := by
  unfold Revocation.finished at h
  unfold Revocation.updated
  split at h <;> simp_all

theorem RevokedEntry.none : RevokedEntry none := by
  intro key hkey
  cases hkey

theorem RevokedEntry.some {key : ServiceAccountKey} (h : key.status = .revoked) :
    RevokedEntry (some key) := by
  intro key' hkey
  cases hkey
  exact h

theorem RevokedEntry.setEntry {cache : String → Option ServiceAccountKey} {keyId k : String}
    {entry : Option ServiceAccountKey} (h : RevokedEntry (cache k))
    (hentry : k = keyId → RevokedEntry entry) : RevokedEntry (setEntry cache keyId entry k) := by
  unfold Cache.setEntry
  split_ifs with hk
  · exact hentry hk
  · exact h

theorem RevokedRow.updateWhere {db : KeyTable} {k : String} (h : RevokedRow db k)
    {p : ServiceAccountKey → Bool} {f : ServiceAccountKey → ServiceAccountKey}
    {hf : ∀ r, (f r).keyId = r.keyId}
    (hstatus : ∀ r, r.status = .revoked → (f r).status = .revoked) :
    RevokedRow (db.updateWhere p f hf) k := by
  obtain ⟨key, hget, hrevoked⟩ := h
  refine ⟨if p key then f key else key, ?_, ?_⟩
  · rw [Table.get_updateWhere, hget]
    rfl
  · split_ifs
    · exact hstatus key hrevoked
    · exact hrevoked

theorem RevokedRow.insert {db db' : KeyTable} {k : String} (h : RevokedRow db k)
    {row : ServiceAccountKey} (hins : db.insert? row = some db') : RevokedRow db' k := by
  obtain ⟨key, hget, hrevoked⟩ := h
  obtain ⟨hmem, hk⟩ := Table.get_eq_some.mp hget
  refine ⟨key, Table.get_eq_some.mpr ⟨?_, hk⟩, hrevoked⟩
  rw [(Table.insert?_eq_some hins).2]
  exact List.mem_cons_of_mem _ hmem

theorem revokedRow_revokeScoped {db db' : KeyTable} {id : KeyId} {sa : ServiceAccountId} {now : ℕ}
    {key : ServiceAccountKey} (h : revokeScoped db id sa now = .ok (key, db')) :
    RevokedRow db' key.keyId ∧ ∀ k, RevokedRow db k → RevokedRow db' k := by
  obtain ⟨⟨row, hmem, hp, rfl⟩, rfl⟩ := returning_eq_ok h
  refine ⟨⟨row.revoke now, ?_, rfl⟩, fun k hk ↦ hk.updateWhere fun _ _ ↦ rfl⟩
  have hget : db.get row.keyId = some row := Table.get_eq_some.mpr ⟨hmem, rfl⟩
  rw [Table.get_updateWhere, ServiceAccountKey.revoke_keyId, hget, Option.map_some, if_pos hp]

/-- Whatever tier a late lookup reads, it finds no record of its key but a revoked one. -/
theorem KeyStoreState.Coherent.late_reads {s : KeyStoreState} (h : s.Coherent) {l : Lookup}
    (hmem : l ∈ s.lookups) (hlate : l.late = true) :
    RevokedEntry (s.l1 l.keyId) ∧ RevokedEntry (s.l2 l.keyId) ∧ RevokedRow s.db l.keyId := by
  obtain ⟨⟨r, hr, hfin⟩, _⟩ := h.late l hmem hlate
  exact ⟨h.l1 r hr _ (Revocation.l1Cleared_of_finished hfin), h.l2 r hr _ hfin,
    h.db r hr _ (Revocation.updated_of_finished hfin)⟩

/-- The part of a step of lookup `l` that concerns the caches: the two caches stay
clear of the revoked keys, and a late lookup has only revoked records in hand. -/
theorem lookupStep_coherent {s s' : KeyStoreState} {l : Lookup} {phase : LookupPhase}
    (h : s.Coherent) (hmem : l ∈ s.lookups)
    (hguard : l.phase.WritesOnlyRevoked l.keyId s.revocations)
    (hstep : lookupStep s l = some (s', phase)) :
    (∀ r ∈ s.revocations, ∀ k, r.l1Cleared k = true → RevokedEntry (s'.l1 k)) ∧
      (∀ r ∈ s.revocations, ∀ k, r.finished k = true → RevokedEntry (s'.l2 k)) ∧
      (l.late = true → phase.CarriesRevoked) := by
  have hcarry : l.late = true → l.phase.CarriesRevoked := fun hl ↦ (h.late l hmem hl).2
  unfold lookupStep at hstep
  cases hphase : l.phase with
  | l1Get =>
      simp only [hphase] at hstep
      split at hstep <;> cases hstep
      · next key hkey =>
        exact ⟨h.l1, h.l2, fun hl ↦ ⟨key, rfl, (h.late_reads hmem hl).1 key hkey⟩⟩
      · exact ⟨h.l1, h.l2, fun _ ↦ trivial⟩
  | l2Get =>
      simp only [hphase] at hstep
      split at hstep <;> cases hstep
      · next key hkey => exact ⟨h.l1, h.l2, fun hl ↦ (h.late_reads hmem hl).2.1 key hkey⟩
      · exact ⟨h.l1, h.l2, fun _ ↦ trivial⟩
  | dbRead =>
      simp only [hphase] at hstep
      split at hstep <;> cases hstep
      · next key hkey =>
        refine ⟨h.l1, h.l2, fun hl ↦ ?_⟩
        obtain ⟨row, hrow, hrevoked⟩ := (h.late_reads hmem hl).2.2
        cases hkey.symm.trans hrow
        exact hrevoked
      · next hnone =>
        refine ⟨h.l1, h.l2, fun hl ↦ ?_⟩
        obtain ⟨row, hrow, _⟩ := (h.late_reads hmem hl).2.2
        cases hnone.symm.trans hrow
  | l1Fill key =>
      simp only [hphase] at hstep hguard hcarry
      cases hstep
      refine ⟨fun r hr k hk ↦ (h.l1 r hr k hk).setEntry ?_, h.l2, fun hl ↦ ⟨key, rfl, hcarry hl⟩⟩
      rintro rfl
      exact RevokedEntry.some (hguard r hr hk)
  | l1Insert key =>
      simp only [hphase] at hstep hguard hcarry
      cases hstep
      refine ⟨fun r hr k hk ↦ (h.l1 r hr k hk).setEntry ?_, h.l2, hcarry⟩
      rintro rfl
      exact RevokedEntry.some (hguard r hr hk)
  | l2Set key =>
      simp only [hphase] at hstep hguard hcarry
      cases hstep
      refine ⟨h.l1, fun r hr k hk ↦ (h.l2 r hr k hk).setEntry ?_, fun hl ↦ ⟨key, rfl, hcarry hl⟩⟩
      rintro rfl
      exact RevokedEntry.some (hguard r hr hk)
  | returned result =>
      simp only [hphase] at hstep
      cases hstep

theorem keyStoreStep_lookup {s s' : KeyStoreState} {i : ℕ} {l : Lookup} {phase : LookupPhase}
    (hl : s.lookups[i]? = some l) (hlookup : lookupStep s l = some (s', phase)) :
    keyStoreStep s (.stepLookup i) =
      some { s' with lookups := s.lookups.set i { l with phase } } := by
  simp [keyStoreStep, hl, hlookup]

theorem lookupStep_frame {s s' : KeyStoreState} {l : Lookup} {phase : LookupPhase}
    (hstep : lookupStep s l = some (s', phase)) :
    s'.db = s.db ∧ s'.revocations = s.revocations := by
  unfold lookupStep at hstep
  split at hstep
  all_goals first
    | (split at hstep <;> cases hstep <;> exact ⟨rfl, rfl⟩)
    | (cases hstep; exact ⟨rfl, rfl⟩)
    | cases hstep

theorem KeyStoreState.Coherent.stepLookup {s t : KeyStoreState} {i : ℕ} (h : s.Coherent)
    (hguard : NoStaleWrite s (.stepLookup i)) (hstep : keyStoreStep s (.stepLookup i) = some t) :
    t.Coherent := by
  simp only [keyStoreStep, Option.bind_eq_some_iff, Option.map_eq_some_iff] at hstep
  obtain ⟨l, hl, ⟨s', phase⟩, hlookup, rfl⟩ := hstep
  have hmem : l ∈ s.lookups := List.mem_of_getElem? hl
  obtain ⟨hdb, hrev⟩ := lookupStep_frame hlookup
  obtain ⟨hl1, hl2, hcarry⟩ := lookupStep_coherent h hmem (hguard l hl) hlookup
  refine ⟨?_, ?_, ?_, fun l' hl' hlate ↦ ?_⟩
  · simpa only [hdb, hrev] using h.db
  · simpa only [hrev] using hl1
  · simpa only [hrev] using hl2
  · simp only [hrev]
    rcases List.mem_or_eq_of_mem_set hl' with hold | rfl
    · exact h.late l' hold hlate
    · exact ⟨(h.late l hmem hlate).1, hcarry hlate⟩

theorem KeyStoreState.Coherent.startLookup {s t : KeyStoreState} {keyId : String}
    (h : s.Coherent) (hstep : keyStoreStep s (.startLookup keyId) = some t) : t.Coherent := by
  simp only [keyStoreStep, Option.some.injEq] at hstep
  subst hstep
  refine ⟨h.db, h.l1, h.l2, fun l hl hlate ↦ ?_⟩
  rcases List.mem_cons.mp hl with rfl | hold
  · exact ⟨List.any_eq_true.mp hlate, trivial⟩
  · exact h.late l hold hlate

theorem KeyStoreState.Coherent.evict {s : KeyStoreState} (h : s.Coherent) (keyId : String) :
    KeyStoreState.Coherent { s with l1 := setEntry s.l1 keyId none } ∧
      KeyStoreState.Coherent { s with l2 := setEntry s.l2 keyId none } :=
  ⟨⟨h.db, fun r hr k hk ↦ (h.l1 r hr k hk).setEntry fun _ ↦ RevokedEntry.none, h.l2, h.late⟩,
    ⟨h.db, h.l1, fun r hr k hk ↦ (h.l2 r hr k hk).setEntry fun _ ↦ RevokedEntry.none, h.late⟩⟩

theorem KeyStoreState.Coherent.withDb {s : KeyStoreState} (h : s.Coherent) {db : KeyTable}
    (hdb : ∀ k, RevokedRow s.db k → RevokedRow db k) :
    KeyStoreState.Coherent { s with db } :=
  ⟨fun r hr k hk ↦ hdb k (h.db r hr k hk), h.l1, h.l2, h.late⟩

theorem KeyStoreState.Coherent.startRevoke {s : KeyStoreState} (h : s.Coherent) (id : KeyId)
    (sa : ServiceAccountId) :
    KeyStoreState.Coherent { s with revocations := ⟨id, sa, .dbUpdate⟩ :: s.revocations } := by
  refine ⟨fun r hr k hk ↦ ?_, fun r hr k hk ↦ ?_, fun r hr k hk ↦ ?_, fun l hl hlate ↦ ?_⟩
  · rcases List.mem_cons.mp hr with rfl | hold
    · cases hk
    · exact h.db r hold k hk
  · rcases List.mem_cons.mp hr with rfl | hold
    · cases hk
    · exact h.l1 r hold k hk
  · rcases List.mem_cons.mp hr with rfl | hold
    · cases hk
    · exact h.l2 r hold k hk
  · obtain ⟨⟨r, hr, hfin⟩, hcarry⟩ := h.late l hl hlate
    exact ⟨⟨r, List.mem_cons_of_mem _ hr, hfin⟩, hcarry⟩

theorem KeyStoreState.Coherent.advance {s : KeyStoreState} (h : s.Coherent) {i : ℕ}
    {r r' : Revocation} (hi : s.revocations[i]? = some r) (hnot : ∀ k, r.finished k = false)
    (hdb : ∀ k, r'.updated k = true → RevokedRow s.db k)
    (hl1 : ∀ k, r'.l1Cleared k = true → RevokedEntry (s.l1 k))
    (hl2 : ∀ k, r'.finished k = true → RevokedEntry (s.l2 k)) :
    KeyStoreState.Coherent { s with revocations := s.revocations.set i r' } := by
  refine ⟨fun q hq k hk ↦ ?_, fun q hq k hk ↦ ?_, fun q hq k hk ↦ ?_, fun l hl hlate ↦ ?_⟩
  · rcases List.mem_or_eq_of_mem_set hq with hold | rfl
    · exact h.db q hold k hk
    · exact hdb k hk
  · rcases List.mem_or_eq_of_mem_set hq with hold | rfl
    · exact h.l1 q hold k hk
    · exact hl1 k hk
  · rcases List.mem_or_eq_of_mem_set hq with hold | rfl
    · exact h.l2 q hold k hk
    · exact hl2 k hk
  · obtain ⟨⟨q, hq, hfin⟩, hcarry⟩ := h.late l hl hlate
    have hne : q ≠ r := by
      rintro rfl
      simp [hnot] at hfin
    exact ⟨⟨q, Processes.mem_set_of_ne hi hq hne, hfin⟩, hcarry⟩

theorem KeyStoreState.Coherent.stepRevoke {s t : KeyStoreState} {i now : ℕ} (h : s.Coherent)
    (hstep : keyStoreStep s (.stepRevoke i now) = some t) : t.Coherent := by
  simp only [keyStoreStep, Option.bind_eq_some_iff, Option.map_eq_some_iff] at hstep
  obtain ⟨r, hr, ⟨s', phase⟩, hrevoke, rfl⟩ := hstep
  have hmem : r ∈ s.revocations := List.mem_of_getElem? hr
  unfold revokeStep at hrevoke
  cases hphase : r.phase with
  | dbUpdate =>
      have hnot : ∀ k, r.finished k = false := fun k ↦ by simp [Revocation.finished, hphase]
      simp only [hphase] at hrevoke
      split at hrevoke <;> cases hrevoke
      · exact h.advance hr hnot (fun k hk ↦ by cases hk) (fun k hk ↦ by cases hk)
          fun k hk ↦ by cases hk
      · next key db hscoped =>
        obtain ⟨hrow, hkeep⟩ := revokedRow_revokeScoped hscoped
        refine (h.withDb hkeep).advance hr hnot (fun k hk ↦ ?_) (fun k hk ↦ by cases hk)
          fun k hk ↦ by cases hk
        have hk' : key.keyId = k := of_decide_eq_true hk
        exact hk' ▸ hrow
  | l1Invalidate key =>
      have hnot : ∀ k, r.finished k = false := fun k ↦ by simp [Revocation.finished, hphase]
      have hupdated : ∀ k, key.keyId = k → r.updated k = true := fun k hk ↦ by
        simp [Revocation.updated, hphase, hk]
      simp only [hphase] at hrevoke
      cases hrevoke
      refine (h.evict key.keyId).1.advance hr hnot (fun k hk ↦ ?_) (fun k hk ↦ ?_)
        fun k hk ↦ by cases hk
      · exact h.db r hmem k (hupdated k (of_decide_eq_true hk))
      · have hk' : key.keyId = k := of_decide_eq_true hk
        simp [hk', setEntry, RevokedEntry.none]
  | l2Delete key =>
      have hnot : ∀ k, r.finished k = false := fun k ↦ by simp [Revocation.finished, hphase]
      have hupdated : ∀ k, key.keyId = k → r.updated k = true := fun k hk ↦ by
        simp [Revocation.updated, hphase, hk]
      have hcleared : ∀ k, key.keyId = k → r.l1Cleared k = true := fun k hk ↦ by
        simp [Revocation.l1Cleared, hphase, hk]
      simp only [hphase] at hrevoke
      cases hrevoke
      refine (h.evict key.keyId).2.advance hr hnot (fun k hk ↦ ?_) (fun k hk ↦ ?_) fun k hk ↦ ?_
      · exact h.db r hmem k (hupdated k (of_decide_eq_true hk))
      · exact h.l1 r hmem k (hcleared k (of_decide_eq_true hk))
      · have hk' : key.keyId = k := of_decide_eq_true hk
        simp [hk', setEntry, RevokedEntry.none]
  | returned result =>
      simp only [hphase] at hrevoke
      cases hrevoke

theorem KeyStoreState.Coherent.step (s : KeyStoreState) (a : KeyStoreStep) (t : KeyStoreState)
    (h : s.Coherent) (hguard : NoStaleWrite s a) (hstep : keyStoreStep s a = some t) :
    t.Coherent := by
  cases a with
  | startLookup keyId => exact h.startLookup hstep
  | stepLookup i => exact h.stepLookup hguard hstep
  | startRevoke id sa =>
      cases hstep
      exact h.startRevoke id sa
  | stepRevoke i now => exact h.stepRevoke hstep
  | evictL1 keyId =>
      cases hstep
      exact (h.evict keyId).1
  | expireL2 keyId =>
      cases hstep
      exact (h.evict keyId).2
  | registerKey key =>
      simp only [keyStoreStep, Option.ite_none_right_eq_some, Option.map_eq_some_iff] at hstep
      obtain ⟨_, db, hins, rfl⟩ := hstep
      exact h.withDb fun k hk ↦ hk.insert hins
  | updateLastUsed id now =>
      cases hstep
      exact h.withDb fun k hk ↦ hk.updateWhere fun _ hrevoked ↦ hrevoked

/-! ## Lookups after a revocation -/

/-- A bound on the steps that a lookup still has to take. -/
def LookupPhase.remaining : LookupPhase → ℕ
  | .l1Get => 5
  | .l2Get => 4
  | .dbRead => 3
  | .l1Insert _ => 2
  | .l1Fill _ | .l2Set _ => 1
  | .returned _ => 0

theorem LookupPhase.remaining_le (phase : LookupPhase) : phase.remaining ≤ 5 := by
  cases phase <;> simp [LookupPhase.remaining]

theorem lookupStep_progress (s : KeyStoreState) {l : Lookup} (h : l.phase.remaining ≠ 0) :
    ∃ s' phase, lookupStep s l = some (s', phase) ∧ phase.remaining < l.phase.remaining := by
  unfold lookupStep
  cases hphase : l.phase with
  | l1Get => cases s.l1 l.keyId <;> exact ⟨_, _, rfl, by simp [LookupPhase.remaining]⟩
  | l2Get => cases s.l2 l.keyId <;> exact ⟨_, _, rfl, by simp [LookupPhase.remaining]⟩
  | dbRead => cases s.db.get l.keyId <;> exact ⟨_, _, rfl, by simp [LookupPhase.remaining]⟩
  | l1Fill key => exact ⟨_, _, rfl, by simp [LookupPhase.remaining]⟩
  | l1Insert key => exact ⟨_, _, rfl, by simp [LookupPhase.remaining]⟩
  | l2Set key => exact ⟨_, _, rfl, by simp [LookupPhase.remaining]⟩
  | returned result =>
      rw [hphase] at h
      exact absurd rfl h

theorem LookupPhase.CarriesRevoked.writesOnlyRevoked {phase : LookupPhase}
    (h : phase.CarriesRevoked) (keyId : String) (revocations : List Revocation) :
    phase.WritesOnlyRevoked keyId revocations := by
  cases phase with
  | l1Fill key | l1Insert key | l2Set key => exact fun _ _ _ ↦ h
  | l1Get | l2Get | dbRead | returned result => trivial

theorem LookupPhase.CarriesRevoked.of_returned {phase : LookupPhase} (h : phase.CarriesRevoked)
    (hdone : phase.remaining = 0) :
    ∃ key, phase = .returned (.ok key) ∧ key.status = .revoked := by
  cases phase with
  | returned result =>
      obtain ⟨key, rfl, hrevoked⟩ := h
      exact ⟨key, rfl, hrevoked⟩
  | l1Get | l2Get | dbRead | l1Fill key | l1Insert key | l2Set key => cases hdone

/-- Left to itself, a lookup that started after the revocation returns a revoked
record. -/
theorem KeyStoreState.Coherent.late_returns {s : KeyStoreState} (h : s.Coherent) {i m : ℕ}
    {l : Lookup} (hi : s.lookups[i]? = some l) (hlate : l.late = true)
    (hm : l.phase.remaining ≤ m) :
    ∃ n t key, n ≤ m ∧ run keyStoreStep s (List.replicate n (.stepLookup i)) = some t ∧
      t.lookups[i]? = some { l with phase := .returned (.ok key) } ∧ key.status = .revoked := by
  induction m generalizing s l with
  | zero =>
      obtain ⟨key, hphase, hrevoked⟩ := (h.late l (List.mem_of_getElem? hi) hlate).2.of_returned
        (Nat.le_zero.mp hm)
      exact ⟨0, s, key, le_rfl, rfl, hphase ▸ hi, hrevoked⟩
  | succ m ih =>
      have hcarry := (h.late l (List.mem_of_getElem? hi) hlate).2
      by_cases hdone : l.phase.remaining = 0
      · obtain ⟨key, hphase, hrevoked⟩ := hcarry.of_returned hdone
        exact ⟨0, s, key, Nat.zero_le _, rfl, hphase ▸ hi, hrevoked⟩
      · obtain ⟨s', phase, hlookup, hlt⟩ := lookupStep_progress s hdone
        have hstep := keyStoreStep_lookup hi hlookup
        have hguard : NoStaleWrite s (.stepLookup i) := by
          intro q hq
          cases hi.symm.trans hq
          exact hcarry.writesOnlyRevoked _ _
        have hi' : (s.lookups.set i { l with phase })[i]? = some { l with phase } :=
          List.getElem?_set_self (List.getElem?_eq_some_iff.mp hi).1
        obtain ⟨n, t, key, hn, hrun, ht, hrevoked⟩ :=
          ih (h.stepLookup hguard hstep) hi' hlate (by simp only; omega)
        refine ⟨n + 1, t, key, Nat.succ_le_succ hn, ?_, ht, hrevoked⟩
        exact run_cons_eq_some.mpr ⟨_, hstep, hrun⟩

/-- Every lookup that starts after a revocation of its key has returned yields a revoked
record, which `verifyKey` rejects, in every run without stale writes and from any
contents of the caches and the database.  It returns after at most five of its steps. -/
theorem late_lookup_revoked {s u : KeyStoreState} {steps : List KeyStoreStep}
    (hlookups : s.lookups = []) (hrevocations : s.revocations = [])
    (hguard : Guarded keyStoreStep NoStaleWrite s steps)
    (hrun : run keyStoreStep s steps = some u) {i : ℕ} {l : Lookup}
    (hl : u.lookups[i]? = some l) (hlate : l.late = true) :
    (∀ result, l.phase = .returned result →
        (∃ key, result = .ok key ∧ key.status = .revoked) ∧
          ∀ now, verifyKey (fun _ ↦ result) l.keyId now = .error authDenied) ∧
      ∃ n t key, n ≤ 5 ∧ run keyStoreStep u (List.replicate n (.stepLookup i)) = some t ∧
        t.lookups[i]? = some { l with phase := .returned (.ok key) } ∧
        key.status = .revoked := by
  have hinit : s.Coherent := by
    constructor <;> simp [hlookups, hrevocations]
  have hcoherent := run_invariant KeyStoreState.Coherent.step hguard hrun hinit
  refine ⟨fun result hresult ↦ ?_, hcoherent.late_returns hl hlate l.phase.remaining_le⟩
  have hcarry := (hcoherent.late l (List.mem_of_getElem? hl) hlate).2
  rw [hresult] at hcarry
  obtain ⟨key, rfl, hrevoked⟩ := hcarry
  refine ⟨⟨key, rfl, hrevoked⟩, fun now ↦ ?_⟩
  simp [verifyKey, hrevoked]

/-! ## Stale writes -/

/-- A lookup that started after a revocation of its key was answered as if there had been
none. -/
def KeyStoreState.AnsweredStale (s : KeyStoreState) : Prop :=
  ∃ l ∈ s.lookups, l.late = true ∧ ∃ key, l.phase = .returned (.ok key) ∧ key.status ≠ .revoked

/-- A record in L1 answers the next lookup at once. -/
theorem answeredStale_l1 {s : KeyStoreState} {keyId : String} {key : ServiceAccountKey}
    (hentry : s.l1 keyId = some key) (hkey : key.status ≠ .revoked)
    (hfinished : (s.revocations.any fun r ↦ r.finished keyId) = true) :
    ∃ u, run keyStoreStep s [.startLookup keyId, .stepLookup 0] = some u ∧ u.AnsweredStale := by
  refine ⟨{ s with lookups := ⟨keyId, true, .returned (.ok key)⟩ :: s.lookups }, ?_,
    _, List.mem_cons_self, rfl, key, rfl, hkey⟩
  simp [run, keyStoreStep, lookupStep, hentry, hfinished]

/-- A record in L2 answers the next lookup once L1 has lost its entry. -/
theorem answeredStale_l2 {s : KeyStoreState} {keyId : String} {key : ServiceAccountKey}
    (hentry : s.l2 keyId = some key) (hkey : key.status ≠ .revoked)
    (hfinished : (s.revocations.any fun r ↦ r.finished keyId) = true) :
    ∃ u, run keyStoreStep s [.evictL1 keyId, .startLookup keyId, .stepLookup 0, .stepLookup 0,
      .stepLookup 0] = some u ∧ u.AnsweredStale := by
  refine ⟨{ s with
      l1 := setEntry (setEntry s.l1 keyId none) keyId (some key)
      lookups := ⟨keyId, true, .returned (.ok key)⟩ :: s.lookups }, ?_,
    _, List.mem_cons_self, rfl, key, rfl, hkey⟩
  simp [run, keyStoreStep, lookupStep, setEntry, hentry, hfinished]

/-- What a revocation that has cleared L1 still has to do leaves L1 alone. -/
theorem exists_run_finished {s : KeyStoreState} {keyId : String} {r : Revocation}
    (hr : r ∈ s.revocations) (hcleared : r.l1Cleared keyId = true) :
    ∃ steps t, run keyStoreStep s steps = some t ∧ t.l1 = s.l1 ∧
      (t.revocations.any fun r ↦ r.finished keyId) = true := by
  obtain ⟨id, sa, phase⟩ := r
  obtain ⟨j, hj⟩ := List.getElem?_of_mem hr
  match phase with
  | .l2Delete key =>
      refine ⟨[.stepRevoke j 0], { s with
          l2 := setEntry s.l2 key.keyId none
          revocations := s.revocations.set j ⟨id, sa, .returned (.ok key)⟩ }, ?_, rfl, ?_⟩
      · simp [run, keyStoreStep, hj, revokeStep]
      · exact List.any_eq_true.mpr
          ⟨_, List.mem_set (List.getElem?_eq_some_iff.mp hj).1 _, hcleared⟩
  | .returned (.ok key) => exact ⟨[], s, rfl, rfl, List.any_eq_true.mpr ⟨_, hr, hcleared⟩⟩

/-- The condition is sharp: after a write that it does not admit, a lookup that starts after
the revocation has returned can be answered with a record that is not revoked. -/
theorem stale_answer_of_stale_write {s : KeyStoreState} {i : ℕ}
    (h : ¬NoStaleWrite s (.stepLookup i)) :
    ∃ steps u, run keyStoreStep s (.stepLookup i :: steps) = some u ∧ u.AnsweredStale := by
  simp only [NoStaleWrite, not_forall] at h
  obtain ⟨l, hl, hwrites⟩ := h
  have hfill : ∀ t key, keyStoreStep s (.stepLookup i) = some t → t.l1 l.keyId = some key →
      t.revocations = s.revocations →
      (¬∀ r ∈ s.revocations, r.l1Cleared l.keyId = true → key.status = .revoked) →
      ∃ steps u, run keyStoreStep s (.stepLookup i :: steps) = some u ∧ u.AnsweredStale := by
    intro t key hstep hentry hrevocations hstale
    simp only [not_forall] at hstale
    obtain ⟨r, hr, hcleared, hkey⟩ := hstale
    obtain ⟨steps, v, hv, hl1, hfinished⟩ := exists_run_finished (hrevocations ▸ hr) hcleared
    obtain ⟨u, hu, hanswered⟩ := answeredStale_l1 (hl1 ▸ hentry) hkey hfinished
    exact ⟨_, u, run_cons_eq_some.mpr ⟨t, hstep, run_append_eq_some.mpr ⟨v, hv, hu⟩⟩, hanswered⟩
  cases hphase : l.phase with
  | l1Get | l2Get | dbRead | returned result =>
      rw [hphase] at hwrites
      exact absurd trivial hwrites
  | l1Fill key =>
      rw [hphase] at hwrites
      have hlookup : lookupStep s l = some ({ s with l1 := setEntry s.l1 l.keyId (some key) },
          .returned (.ok key)) := by
        rw [lookupStep, hphase]
      exact hfill _ key (keyStoreStep_lookup hl hlookup) (by simp [setEntry]) rfl hwrites
  | l1Insert key =>
      rw [hphase] at hwrites
      have hlookup : lookupStep s l = some ({ s with l1 := setEntry s.l1 l.keyId (some key) },
          .l2Set key) := by
        rw [lookupStep, hphase]
      exact hfill _ key (keyStoreStep_lookup hl hlookup) (by simp [setEntry]) rfl hwrites
  | l2Set key =>
      rw [hphase] at hwrites
      simp only [LookupPhase.WritesOnlyRevoked, not_forall] at hwrites
      obtain ⟨r, hr, hfinished, hkey⟩ := hwrites
      have hlookup : lookupStep s l = some ({ s with l2 := setEntry s.l2 l.keyId (some key) },
          .returned (.ok key)) := by
        rw [lookupStep, hphase]
      obtain ⟨u, hu, hanswered⟩ := answeredStale_l2 (s := { s with
          l2 := setEntry s.l2 l.keyId (some key)
          lookups := s.lookups.set i { l with phase := .returned (.ok key) } })
        (by simp [setEntry]) hkey (List.any_eq_true.mpr ⟨r, hr, hfinished⟩)
      exact ⟨_, u, run_cons_eq_some.mpr ⟨_, keyStoreStep_lookup hl hlookup, hu⟩, hanswered⟩

def KeyStoreState.sample : KeyStoreState where
  l1 _ := none
  l2 _ := none
  db := ⟨[sampleKey], by decide⟩
  lookups := []
  revocations := []

/-- A lookup that starts after the revocation and goes to the database. -/
def lookupAfterRevoke : List KeyStoreStep :=
  [.startRevoke ⟨⟨3⟩⟩ ⟨⟨1⟩⟩, .stepRevoke 0 5, .stepRevoke 0 5, .stepRevoke 0 5,
    .startLookup "key-1", .stepLookup 0, .stepLookup 0, .stepLookup 0, .stepLookup 0,
    .stepLookup 0]

theorem late_lookup_revoked_database :
    ∃ u l result, run keyStoreStep .sample lookupAfterRevoke = some u ∧
      u.lookups[0]? = some l ∧ l.late = true ∧ l.phase = .returned result ∧
      (∃ key, result = .ok key ∧ key.status = .revoked) := by
  have hrun : (run keyStoreStep .sample lookupAfterRevoke).map KeyStoreState.lookups =
      some [⟨"key-1", true, .returned (.ok (sampleKey.revoke 5))⟩] := by
    decide +kernel
  obtain ⟨u, hu, hlookups⟩ := Option.map_eq_some_iff.mp hrun
  have hl : u.lookups[0]? = some ⟨"key-1", true, .returned (.ok (sampleKey.revoke 5))⟩ := by
    simp [hlookups]
  have hguard : Guarded keyStoreStep NoStaleWrite .sample lookupAfterRevoke := by
    decide +kernel
  exact ⟨u, _, _, hu, hl, rfl, rfl, ((late_lookup_revoked rfl rfl hguard hu hl rfl).1 _ rfl).1⟩

/-- A lookup that has read the active record before the revocation puts it into L1
after the revocation has returned; the next lookup is answered from there. -/
theorem stale_record_after_revoke :
    ∃ u l key, run keyStoreStep .sample
        [.startLookup "key-1", .stepLookup 0, .stepLookup 0, .stepLookup 0,
          .startRevoke ⟨⟨3⟩⟩ ⟨⟨1⟩⟩, .stepRevoke 0 5, .stepRevoke 0 5, .stepRevoke 0 5,
          .stepLookup 0, .startLookup "key-1", .stepLookup 0] = some u ∧
      l ∈ u.lookups ∧ l.late = true ∧ l.phase = .returned (.ok key) ∧
      key.status = .active := by
  have hrun : (run keyStoreStep .sample
      [.startLookup "key-1", .stepLookup 0, .stepLookup 0, .stepLookup 0,
        .startRevoke ⟨⟨3⟩⟩ ⟨⟨1⟩⟩, .stepRevoke 0 5, .stepRevoke 0 5, .stepRevoke 0 5,
        .stepLookup 0, .startLookup "key-1", .stepLookup 0]).map KeyStoreState.lookups =
      some [⟨"key-1", true, .returned (.ok sampleKey)⟩, ⟨"key-1", false, .l2Set sampleKey⟩] := by
    decide +kernel
  obtain ⟨u, hu, hlookups⟩ := Option.map_eq_some_iff.mp hrun
  exact ⟨u, ⟨"key-1", true, .returned (.ok sampleKey)⟩, sampleKey, hu, by simp [hlookups], rfl,
    rfl, rfl⟩

end SmartGate
