import SmartGate.Gateway.Pipeline

/-!
# Requests that are not authentic

Before its signature is checked, a forged request looks up the key that it names, and what it
finds is cached.  That is all it leaves behind.  Without the forged requests, every authentic
request goes through the same phases, and the nonces, the counters and the cached policies are
the same; only the lookups may take more or fewer steps, because the caches are filled by others
or not.

This holds as long as the keys and the accounts stay as they are: a cached key outlives its row,
and a forged request that names a key renews what one tier holds from another.
-/

namespace SmartGate

open ExpiringStore Transition

variable (P : Primitives)

/-! ## Authentic requests -/

/-- What a request is checked against when nothing is cached. -/
def DataPlane.backend (plane : DataPlane) (db : Database) : Backend where
  keyStore := if plane.keyStore then some db.keyLookup else none
  db := if plane.db then some (accountLookup none db) else none
  redis := plane.redisPool

def Job.isAuthentic (plane : DataPlane) (db : Database) (job : Job) : Bool :=
  (verifyRequest P plane.skewSecs (plane.backend db) job.clock job.request).toOption.isSome

/-- The request is in order and names a key that is in use. -/
structure Job.Presents (plane : DataPlane) (db : Database) (job : Job) (hd : AuthHeaders)
    (key : ServiceAccountKey) : Prop where
  format : checkFormat P plane.skewSecs job.clock job.request = .ok hd
  keyStore : plane.keyStore = true
  row : db.keys.get hd.keyId = some key
  live : verifyKey (fun _ ↦ .ok key) hd.keyId job.clock.keyExpiry.ms = .ok key
  connected : plane.db = true

section Authentic

variable {plane : DataPlane} {db : Database} {job : Job} {hd : AuthHeaders}
  {key : ServiceAccountKey} {v : Verified}

theorem verifyKey_keyLookup (hrow : db.keys.get hd.keyId = some key) (now : ℕ) :
    verifyKey db.keyLookup hd.keyId now = verifyKey (fun _ ↦ .ok key) hd.keyId now := by
  unfold verifyKey
  rw [keyLookup_eq_ok.mpr hrow]

theorem Job.Presents.isAuthentic (h : job.Presents P plane db hd key)
    {sa : ServiceAccountWithTenantStatus}
    (hsa : verifyServiceAccount (accountLookup none db) key = .ok sa)
    (hclaimed : verifyClaimedId hd.saIdStr sa = .ok ())
    (hsigned : checkSignature P plane.redisPool job.request hd key sa = .ok v) :
    job.isAuthentic P plane db = true := by
  have hbackend : plane.backend db = ⟨some db.keyLookup, some (accountLookup none db),
      plane.redisPool⟩ := by
    rw [DataPlane.backend, h.keyStore, h.connected]
    rfl
  have hclaim : liveClaim db.keyLookup (accountLookup none db) job.clock.keyExpiry.ms hd =
      some (key, sa) := by
    unfold verifyClaimedId at hclaimed
    split_ifs at hclaimed with hid
    simp [liveClaim, verifyKey_keyLookup h.row, h.live, hsa, not_not.mp hid]
  have hverified : verifyRequest P plane.skewSecs (plane.backend db) job.clock job.request =
      .ok v := by
    rw [hbackend, verifyRequest_eq]
    refine bind_eq_ok.mpr ⟨hd, h.format, ?_⟩
    simp only [hclaim]
    exact hsigned
  simp [Job.isAuthentic, hverified, Except.toOption]

theorem Job.exists_row_of_isAuthentic (h : job.isAuthentic P plane db = true)
    (hformat : checkFormat P plane.skewSecs job.clock job.request = .ok hd) :
    ∃ row, db.keys.get hd.keyId = some row := by
  obtain ⟨v, hv⟩ := Option.isSome_iff_exists.mp h
  obtain ⟨key, publicKey, hpassed⟩ := Verified.passed_of_verifyRequest P (eq_ok_of_toOption hv)
  obtain ⟨hd', hextract, hformat⟩ := bind_eq_ok.mp hformat
  obtain ⟨_, _, hformat⟩ := bind_eq_ok.mp hformat
  obtain ⟨_, _, hformat⟩ := bind_eq_ok.mp hformat
  obtain ⟨_, _, hformat⟩ := bind_eq_ok.mp hformat
  obtain ⟨_, _, hformat⟩ := bind_eq_ok.mp hformat
  cases hformat
  obtain rfl := Except.ok.inj (hpassed.extracted.symm.trans hextract)
  obtain ⟨keyStore, hstore, hkey⟩ := hpassed.keyFound
  unfold Backend.requireKeyStore DataPlane.backend at hstore
  split at hstore
  · next keyStore' hsome =>
    cases hstore
    dsimp only at hsome
    split_ifs at hsome
    obtain rfl := Option.some.inj hsome
    exact ⟨key, keyLookup_eq_ok.mp (verifyKey_eq_ok hkey).1⟩
  · cases hstore

end Authentic

/-! ## How far a forged request gets -/

/-- The keys and the accounts with their tenants are the same. -/
structure Database.SameIdentities (db db' : Database) : Prop where
  keys : db'.keys = db.keys
  serviceAccounts : db'.serviceAccounts = db.serviceAccounts
  tenants : db'.tenants = db.tenants

theorem Database.SameIdentities.accountLookup {db db' : Database} (h : db.SameIdentities db')
    (failure : Option StorageError) : accountLookup failure db' = accountLookup failure db := by
  funext saId
  unfold SmartGate.accountLookup ServiceAccountRepo.getWithTenantStatus
  rw [h.serviceAccounts, h.tenants]

/-- A record is what the table has under the identifier. -/
def Database.IsRow (db : Database) (keyId : String) (key : ServiceAccountKey) : Prop :=
  db.keys.get keyId = some key

section Checked

variable (plane : DataPlane) (db : Database) (job : Job)

/-- What has been checked when a request has come this far. -/
def DataPhase.Checked : DataPhase → Prop
  | .received | .answered _ | .dropped => True
  | .lookingUp hd l => (checkFormat P plane.skewSecs job.clock job.request = .ok hd ∧
      plane.keyStore = true) ∧ l.keyId = hd.keyId ∧ l.phase.Carries (db.IsRow l.keyId)
  | .findingAccount hd key => job.Presents P plane db hd key
  | .recording _ | .policy _ _ _ | .evaluating _ _ _ | .acquiring _ _ _ | .handling _ _ _
  | .releasing _ _ | .releaseTask _ => job.isAuthentic P plane db = true

end Checked

section Checked

variable {plane : DataPlane} {db : Database} {job : Job} {i : ℕ} {c : Circumstances}
  {s s' : Shared} {phase next : DataPhase}

theorem DataPhase.Checked.advance (h : phase.Checked P plane db job)
    (hdb : db.SameIdentities s.db)
    (htiers : TiersHold db.IsRow s.l1 s.redis.keys s.db.keys)
    (hstep : advance P plane job i c s phase = some (next, s')) :
    next.Checked P plane db job := by
  cases phaseStep_advance P hstep with
  | received hstore hformat => exact ⟨⟨hformat, hstore⟩, rfl, trivial⟩
  | lookingUp hlookup _ =>
      obtain ⟨hformat, hl, hcarries⟩ := h
      obtain ⟨_, hkeyId, hcarries'⟩ := htiers.lookupStep hcarries hlookup
      exact ⟨hformat, hkeyId.trans hl, hkeyId.symm ▸ hcarries'⟩
  | keyFound hlookup hfound hlive hconnected =>
      obtain ⟨⟨hformat, hstore⟩, hl, hcarries⟩ := h
      obtain ⟨_, _, hcarries'⟩ := htiers.lookupStep hcarries hlookup
      rw [hfound, hl] at hcarries'
      exact ⟨hformat, hstore, hcarries', hlive, hconnected⟩
  | accountFound hsa hclaimed hsigned =>
      rw [hdb.accountLookup] at hsa
      refine Job.Presents.isAuthentic P h ?_ hclaimed hsigned
      cases hfailure : c.load.failure with
      | none =>
          rw [hfailure] at hsa
          exact hsa
      | some e =>
          rw [hfailure] at hsa
          cases hsa
  | recorded _ | policy _ | policyFound _ _ _ _ | evaluating _ | limited _ _ _ _ _
  | unlimited _ _ _ _ | acquired _ _ _ | handled _ _ => exact h
  | answered _ _ | released _ => trivial

theorem DataPhase.Checked.abandon (h : phase.Checked P plane db job)
    (hstep : abandon phase = some next) : next.Checked P plane db job := by
  rcases abandon_eq_some hstep with rfl | ⟨_, _, rfl, rfl⟩
  · trivial
  · exact h

end Checked

/-! ## All but the tiers of the key store -/

/-- The shared state with nothing in the caches of keys. -/
def Shared.forgetTiers (s : Shared) : Shared :=
  { s with l1 := fun _ ↦ empty, redis := { s.redis with keys := empty } }

section ForgetTiers

variable {plane : DataPlane} {job : Job} {i : ℕ} {c : Circumstances} {s s' q : Shared}
  {phase next : DataPhase}

theorem policyStep_forgetTiers (s : Shared) (auth : AuthContext) (evaluator : RateLimitEvaluator)
    (policy : PolicyPhase) :
    policyStep plane job i c s.forgetTiers auth evaluator policy =
      (policyStep plane job i c s auth evaluator policy).map
        (Prod.map id Shared.forgetTiers) := by
  cases policy with
  | cacheGet =>
      simp only [policyStep, Shared.forgetTiers]
      repeat' split
      all_goals rfl
  | boundRead | defaultRead policies | cacheInsert answer => rfl
  | waiting leader =>
      simp only [policyStep, Shared.forgetTiers]
      split
      all_goals rfl

/-- Nothing but a lookup of a key depends on the tiers. -/
theorem advance_forgetTiers (h : phase.isLookingUp = false) (s : Shared) :
    advance P plane job i c s.forgetTiers phase =
      (advance P plane job i c s phase).map (Prod.map id Shared.forgetTiers) := by
  cases phase with
  | lookingUp hd l => cases h
  | policy auth evaluator policy => exact policyStep_forgetTiers s auth evaluator policy
  | received | findingAccount _ _ | recording _ | evaluating _ _ _ | acquiring _ _ _
  | handling _ _ _ | releasing _ _ | answered _ | releaseTask _ | dropped => rfl

theorem forgetTiers_lookupKey {hd : AuthHeaders} {l : FleetLookup ℕ}
    (hstep : lookupKey plane job c s hd l = some (next, s')) : s'.forgetTiers = s.forgetTiers := by
  obtain ⟨_, _, _, rfl, _⟩ := lookupKey_eq_some.mp hstep
  rfl

/-- States that differ in the tiers only are left so by a step that is not a lookup. -/
theorem advance_of_forgetTiers (hq : q.forgetTiers = s.forgetTiers)
    (h : phase.isLookingUp = false)
    (hstep : advance P plane job i c s phase = some (next, s')) :
    ∃ q', advance P plane job i c q phase = some (next, q') ∧
      q'.forgetTiers = s'.forgetTiers := by
  have hforget : advance P plane job i c q.forgetTiers phase =
      (advance P plane job i c q phase).map (Prod.map id Shared.forgetTiers) :=
    advance_forgetTiers P h q
  rw [hq, advance_forgetTiers P h, hstep] at hforget
  obtain ⟨⟨next', q'⟩, hadvance, heq⟩ := Option.map_eq_some_iff.mp hforget.symm
  obtain ⟨rfl, hforgot⟩ := Prod.mk.inj heq
  exact ⟨q', hadvance, hforgot⟩

theorem forgetTiers_interrupt (hq : q.forgetTiers = s.forgetTiers)
    (h : phase.isLookingUp = false) (executed : Bool) :
    (interrupt P plane job i c executed q phase).forgetTiers =
      (interrupt P plane job i c executed s phase).forgetTiers := by
  have hloads : q.forgetTiers.loads = s.forgetTiers.loads := congrArg Shared.loads hq
  change q.loads = s.loads at hloads
  have hleft : (if executed then (advance P plane job i c q phase).elim q Prod.snd
        else q).forgetTiers =
      (if executed then (advance P plane job i c s phase).elim s Prod.snd
        else s).forgetTiers := by
    cases executed with
    | false => exact hq
    | true =>
        cases hstep : advance P plane job i c s phase with
        | none =>
            cases hstep' : advance P plane job i c q phase with
            | none => exact hq
            | some answer =>
                obtain ⟨_, hstep'', _⟩ := advance_of_forgetTiers P hq.symm h hstep'
                cases hstep.symm.trans hstep''
        | some answer =>
            obtain ⟨q', hstep', hforgot⟩ := advance_of_forgetTiers P hq h hstep
            rw [hstep']
            exact hforgot
  simp only [interrupt, hloads]
  exact congrArg (fun r : Shared ↦ { r with loads := abandonLoad job i s.loads phase }) hleft

/-- A request that takes no part in a load, and whose next step changes nothing but the tiers,
changes nothing else when it is interrupted. -/
theorem forgetTiers_interrupt_of
    (hadvance : ∀ answer, advance P plane job i c s phase = some answer →
      answer.2.forgetTiers = s.forgetTiers)
    (hloads : abandonLoad job i s.loads phase = s.loads) (executed : Bool) :
    (interrupt P plane job i c executed s phase).forgetTiers = s.forgetTiers := by
  obtain ⟨left, hleft, heq⟩ :=
    exists_interrupt P (q := fun r ↦ r.forgetTiers = s.forgetTiers) rfl hadvance executed
  have hsame : left.forgetTiers.loads = s.forgetTiers.loads := congrArg Shared.loads hleft
  change left.loads = s.loads at hsame
  rw [heq, hloads, ← hsame]
  exact hleft

theorem forgetTiers_interrupt_lookup (s : Shared) (hd : AuthHeaders) (l : FleetLookup ℕ)
    (executed : Bool) :
    (interrupt P plane job i c executed s (.lookingUp hd l)).forgetTiers = s.forgetTiers := by
  have hadvance : ∀ answer, advance P plane job i c s (.lookingUp hd l) = some answer →
      answer.2.forgetTiers = s.forgetTiers := fun _ hstep ↦ forgetTiers_lookupKey hstep
  exact forgetTiers_interrupt_of P hadvance rfl executed

/-- A forged request changes nothing but the tiers. -/
theorem DataPhase.Checked.forgetTiers {db : Database} (h : phase.Checked P plane db job)
    (hforged : ¬job.isAuthentic P plane db = true)
    (hstep : SmartGate.advance P plane job i c s phase = some (next, s')) :
    s'.forgetTiers = s.forgetTiers := by
  cases phase with
  | received | findingAccount hd key =>
      cases hstep
      rfl
  | lookingUp hd l => exact forgetTiers_lookupKey hstep
  | recording _ | policy _ _ _ | evaluating _ _ _ | acquiring _ _ _ | handling _ _ _
  | releasing _ _ | releaseTask _ => exact absurd h hforged
  | answered _ | dropped => cases hstep

theorem DataPhase.Checked.forgetTiers_interrupt {db : Database} (h : phase.Checked P plane db job)
    (hforged : ¬job.isAuthentic P plane db = true) (executed : Bool) :
    (interrupt P plane job i c executed s phase).forgetTiers = s.forgetTiers := by
  have hloads : abandonLoad job i s.loads phase = s.loads := by
    cases phase with
    | policy auth evaluator policy => exact absurd h hforged
    | received | lookingUp _ _ | findingAccount _ _ | recording _ | evaluating _ _ _
    | acquiring _ _ _ | handling _ _ _ | releasing _ _ | answered _ | releaseTask _
    | dropped => rfl
  exact forgetTiers_interrupt_of P (fun _ hstep ↦ h.forgetTiers P hforged hstep) hloads executed

end ForgetTiers

/-! ## Phases of authentic requests -/

/-- The phase of a request with and without the forged requests.  Without them it begins its
lookup when the other one is done. -/
inductive SamePhase (job : Job) : DataPhase → DataPhase → Prop
  | lookingUp (hd : AuthHeaders) (l : FleetLookup ℕ) (since : ℕ) :
      SamePhase job (.lookingUp hd l) (.lookingUp hd ⟨job.gateway, hd.keyId, .l1Get, since⟩)
  | same {phase : DataPhase} (h : phase.isLookingUp = false) : SamePhase job phase phase

section SamePhase

variable {plane : DataPlane} {job : Job} {i : ℕ} {c : Circumstances} {s s' : Shared}
  {phase phase' next : DataPhase}

theorem samePhase_advance (h : phase.isLookingUp = false)
    (hstep : advance P plane job i c s phase = some (next, s')) : SamePhase job next next := by
  cases phaseStep_advance P hstep with
  | received _ _ => exact .lookingUp _ _ c.now
  | lookingUp _ _ | keyFound _ _ _ _ => cases h
  | answered _ _ | accountFound _ _ _ | recorded _ | policy _ | policyFound _ _ _ _
  | evaluating _ | limited _ _ _ _ _ | unlimited _ _ _ _ | acquired _ _ _ | handled _ _
  | released _ => exact .same rfl

theorem samePhase_keyFound (hd : AuthHeaders) (found : Except GatewayError ServiceAccountKey) :
    SamePhase job (keyFound plane job hd found) (keyFound plane job hd found) := by
  refine .same ?_
  unfold keyFound DataPhase.orAnswer
  split <;> rfl

theorem samePhase_abandon (h : abandon phase = some next) : SamePhase job next next := by
  rcases abandon_eq_some h with rfl | ⟨_, _, _, rfl⟩ <;> exact .same rfl

theorem SamePhase.eq (h : SamePhase job phase phase') (hlooking : phase.isLookingUp = false) :
    phase' = phase := by
  cases h with
  | lookingUp hd l since => cases hlooking
  | same _ => rfl

theorem SamePhase.exists_since {hd : AuthHeaders} {l : FleetLookup ℕ}
    (h : SamePhase job (.lookingUp hd l) phase') :
    ∃ since, phase' = .lookingUp hd ⟨job.gateway, hd.keyId, .l1Get, since⟩ := by
  cases h with
  | lookingUp _ _ since => exact ⟨since, rfl⟩
  | same hlooking => cases hlooking

theorem DataPhase.exists_lookingUp (h : phase.isLookingUp = true) :
    ∃ hd l, phase = .lookingUp hd l := by
  cases phase with
  | lookingUp hd l => exact ⟨hd, l, rfl⟩
  | received | findingAccount _ _ | recording _ | policy _ _ _ | evaluating _ _ _
  | acquiring _ _ _ | handling _ _ _ | releasing _ _ | answered _ | releaseTask _
  | dropped => cases h

theorem SamePhase.abandon (h : SamePhase job phase phase') :
    abandon phase' = abandon phase := by
  cases h <;> rfl

end SamePhase

/-! ## A whole lookup -/

section Lookups

variable {plane : DataPlane} {db : Database} {jobs : ℕ → Job} {i : ℕ} {c : Circumstances}

/-- A key that has a row is found in some steps, whatever is cached, if the database answers. -/
theorem exists_lookups {hd : AuthHeaders} {row : ServiceAccountKey}
    (hrow : db.IsRow hd.keyId row) (hanswers : c.load.failure = none) {s : DataState}
    {l : FleetLookup ℕ} (hphase : s.phase i = .lookingUp hd l) (hl : l.keyId = hd.keyId)
    (hcarries : l.phase.Carries (db.IsRow l.keyId))
    (hpending : ∀ found, l.phase ≠ .returned found) (hdb : s.shared.db.keys = db.keys)
    (htiers : TiersHold db.IsRow s.shared.l1 s.shared.redis.keys s.shared.db.keys) :
    ∃ n shared, run (dataStep P plane jobs) s (List.replicate n (.lookup i c)) =
        some (s.move i (keyFound plane (jobs i) hd (.ok row), shared)) ∧
      shared.forgetTiers = s.shared.forgetTiers ∧
      TiersHold db.IsRow shared.l1 shared.redis.keys shared.db.keys := by
  -- induction on the steps that the lookup has left
  generalize hn : l.phase.remaining = n
  induction n using Nat.strong_induction_on generalizing s l with
  | h n ih =>
      subst hn
      obtain ⟨⟨fleet, l'⟩, hlookup⟩ := Option.isSome_iff_exists.mp
        (isSome_fleetLookupStep (s.shared.fleet c.now) c.redis true hpending)
      obtain ⟨hhold, hkeyId, hcarries'⟩ := htiers.lookupStep hcarries hlookup
      have hsame : (s.shared.withTiers fleet).forgetTiers = s.shared.forgetTiers := rfl
      have hhold' : TiersHold db.IsRow (s.shared.withTiers fleet).l1
          (s.shared.withTiers fleet).redis.keys (s.shared.withTiers fleet).db.keys := by
        rwa [(fleetLookupStep_frame hlookup).2] at hhold
      have hlooking : (s.phase i).isLookingUp = true := congrArg DataPhase.isLookingUp hphase
      have hlookup' : fleetLookupStep (s.shared.fleet c.now) c.redis c.load.failure.isNone l =
          some (fleet, l') := by rwa [hanswers]
      have hstep : ∀ next,
          ((∃ found, l'.phase = .returned found ∧ keyFound plane (jobs i) hd found = next) ∨
            (∀ found, l'.phase ≠ .returned found) ∧ .lookingUp hd l' = next) →
          dataStep P plane jobs s (.lookup i c) =
            some (s.move i (next, s.shared.withTiers fleet)) := by
        intro next hnext
        refine (dataStep_lookup_eq_some P).mpr ⟨hlooking, _, ?_, rfl⟩
        rw [hphase]
        exact lookupKey_eq_some.mpr ⟨fleet, l', hlookup', rfl, hnext⟩
      by_cases hreturned : ∃ found, l'.phase = .returned found
      · obtain ⟨found, hfound⟩ := hreturned
        have hget : (s.shared.fleet c.now).db.get l.keyId = some row := by
          change s.shared.db.keys.get l.keyId = some row
          rw [hl, hdb]
          exact hrow
        obtain ⟨key, rfl⟩ := returned_ok_of_row hget hlookup hfound
        rw [hfound, hl] at hcarries'
        obtain rfl : row = key := Option.some.inj (hrow.symm.trans hcarries')
        have hnext := hstep _ (Or.inl ⟨_, hfound, rfl⟩)
        exact ⟨1, _, run_cons_eq_some.mpr ⟨_, hnext, rfl⟩, hsame, hhold'⟩
      · have hpending' := not_exists.mp hreturned
        have hnext := hstep _ (Or.inr ⟨hpending', rfl⟩)
        have hmoved : (s.move i (.lookingUp hd l', s.shared.withTiers fleet)).phase i =
            .lookingUp hd l' := Function.update_self i _ s.phase
        obtain ⟨n, shared, hrun, hforgot, hheld⟩ := ih l'.phase.remaining
          (remaining_fleetLookupStep_lt hlookup) hmoved (hkeyId.trans hl) (hkeyId ▸ hcarries')
          hpending' hdb hhold' rfl
        refine ⟨n + 1, shared, run_cons_eq_some.mpr ⟨_, hnext, ?_⟩, hforgot, hheld⟩
        rw [hrun]
        simp only [DataState.move, Function.update_idem]

end Lookups

/-! ## Whole runs -/

def DataStep.isLookup : DataStep → Bool
  | .lookup _ _ => true
  | .advance _ _ | .drop _ _ _ | .invalidateL1 _ _ | .invalidateL2 _ | .evictPolicy _ _
  | .write _ => false

/-- The step is not one of a forged request. -/
def isGenuine (plane : DataPlane) (jobs : ℕ → Job) (db : Database) (a : DataStep) : Bool :=
  a.request.all fun i ↦ (jobs i).isAuthentic P plane db

/-- The database answers when an authentic request looks its key up there, and no write changes
a key or an account. -/
def Steady (plane : DataPlane) (jobs : ℕ → Job) (db : Database) : DataStep → Prop
  | .lookup i c => (jobs i).isAuthentic P plane db = true → c.load.failure = none
  | .write db' => db.SameIdentities db'
  | .advance _ _ | .drop _ _ _ | .invalidateL1 _ _ | .invalidateL2 _ | .evictPolicy _ _ => True

/-- The steps of a run without the forged requests: the same ones in the same order, but for the
lookups, of which there may be more or fewer. -/
structure WithoutForged (plane : DataPlane) (jobs : ℕ → Job) (db : Database)
    (steps quiet : List DataStep) : Prop where
  genuine : ∀ a ∈ quiet, isGenuine P plane jobs db a = true
  taken : ∀ a ∈ quiet, a ∈ steps
  same : (quiet.filter fun a ↦ !a.isLookup) =
    steps.filter fun a ↦ isGenuine P plane jobs db a && !a.isLookup

/-- The run with the forged requests and the one without them, side by side. -/
structure SameForAuthentic (plane : DataPlane) (jobs : ℕ → Job) (db : Database)
    (full quiet : DataState) : Prop where
  identities : db.SameIdentities full.shared.db
  checked : ∀ i, (full.phase i).Checked P plane db (jobs i)
  fullTiers : TiersHold db.IsRow full.shared.l1 full.shared.redis.keys full.shared.db.keys
  quietTiers : TiersHold db.IsRow quiet.shared.l1 quiet.shared.redis.keys quiet.shared.db.keys
  rest : quiet.shared.forgetTiers = full.shared.forgetTiers
  phase : ∀ i, (jobs i).isAuthentic P plane db = true →
    SamePhase (jobs i) (full.phase i) (quiet.phase i)

section Runs

variable {plane : DataPlane} {jobs : ℕ → Job} {db : Database}

theorem withoutForged_kept {a : DataStep} (ha : isGenuine P plane jobs db a = true) :
    WithoutForged P plane jobs db [a] [a] where
  genuine b hb := List.mem_singleton.mp hb ▸ ha
  taken b hb := hb
  same := by simp [List.filter_cons, ha]

theorem withoutForged_lookups {i : ℕ} {c : Circumstances}
    (hi : (jobs i).isAuthentic P plane db = true) (n : ℕ) :
    WithoutForged P plane jobs db [.lookup i c] (List.replicate n (.lookup i c)) where
  genuine b hb := List.eq_of_mem_replicate hb ▸ hi
  taken b hb := List.mem_singleton.mpr (List.eq_of_mem_replicate hb)
  same := by
    rw [List.filter_replicate_of_neg (by simp [DataStep.isLookup])]
    simp [DataStep.isLookup]

theorem withoutForged_left_out {a : DataStep} (ha : isGenuine P plane jobs db a = false) :
    WithoutForged P plane jobs db [a] [] where
  genuine b hb := by cases hb
  taken b hb := by cases hb
  same := by simp [ha]

variable {full quiet t : DataState} {i : ℕ} {c : Circumstances} {next next' : DataPhase}
  {shared shared' : Shared}

theorem SameForAuthentic.move_both (h : SameForAuthentic P plane jobs db full quiet)
    (hdb : shared.db = full.shared.db) (hchecked : next.Checked P plane db (jobs i))
    (hfull : TiersHold db.IsRow shared.l1 shared.redis.keys shared.db.keys)
    (hquiet : TiersHold db.IsRow shared'.l1 shared'.redis.keys shared'.db.keys)
    (hrest : shared'.forgetTiers = shared.forgetTiers)
    (hphase : SamePhase (jobs i) next next') :
    SameForAuthentic P plane jobs db (full.move i (next, shared))
      (quiet.move i (next', shared')) where
  identities := hdb ▸ h.identities
  checked := Function.forall_update_iff full.phase _ |>.mpr ⟨hchecked, fun j _ ↦ h.checked j⟩
  fullTiers := hfull
  quietTiers := hquiet
  rest := hrest
  phase j hj := by
    by_cases hji : j = i
    · subst hji
      simpa [DataState.move] using hphase
    · simpa [DataState.move, Function.update_of_ne hji] using h.phase j hj

theorem SameForAuthentic.move_full (h : SameForAuthentic P plane jobs db full quiet)
    (hi : ¬(jobs i).isAuthentic P plane db = true) (hdb : shared.db = full.shared.db)
    (hchecked : next.Checked P plane db (jobs i))
    (hfull : TiersHold db.IsRow shared.l1 shared.redis.keys shared.db.keys)
    (hrest : shared.forgetTiers = full.shared.forgetTiers) :
    SameForAuthentic P plane jobs db (full.move i (next, shared)) quiet where
  identities := hdb ▸ h.identities
  checked := Function.forall_update_iff full.phase _ |>.mpr ⟨hchecked, fun j _ ↦ h.checked j⟩
  fullTiers := hfull
  quietTiers := h.quietTiers
  rest := h.rest.trans hrest.symm
  phase j hj := by
    have hji : j ≠ i := fun heq ↦ hi (heq ▸ hj)
    simpa [DataState.move, Function.update_of_ne hji] using h.phase j hj

theorem DataPhase.Checked.carries {phase : DataPhase} {job : Job}
    (h : phase.Checked P plane db job) (hd : AuthHeaders) (l : FleetLookup ℕ)
    (hphase : phase = .lookingUp hd l) : l.phase.Carries (db.IsRow l.keyId) := by
  subst hphase
  exact h.2.2

/-- What a phase without forged requests looks up has only just begun. -/
theorem SamePhase.carries {phase phase' : DataPhase} {job : Job} (h : SamePhase job phase phase')
    (hd : AuthHeaders) (l : FleetLookup ℕ) (hphase : phase' = .lookingUp hd l) :
    l.phase.Carries (db.IsRow l.keyId) := by
  cases h with
  | lookingUp hd' l' since =>
      cases hphase
      trivial
  | same hlooking =>
      subst hphase
      cases hlooking

theorem tiersHold_interrupt {job : Job} {s : Shared} {phase : DataPhase}
    (h : TiersHold db.IsRow s.l1 s.redis.keys s.db.keys)
    (hcarries : ∀ hd l, phase = .lookingUp hd l → l.phase.Carries (db.IsRow l.keyId))
    (executed : Bool) :
    TiersHold db.IsRow (interrupt P plane job i c executed s phase).l1
      (interrupt P plane job i c executed s phase).redis.keys
      (interrupt P plane job i c executed s phase).db.keys ∧
      (interrupt P plane job i c executed s phase).db = s.db := by
  have hadvance : ∀ answer, advance P plane job i c s phase = some answer →
      TiersHold db.IsRow answer.2.l1 answer.2.redis.keys answer.2.db.keys ∧
        answer.2.db = s.db :=
    fun _ hstep ↦ ⟨tiersHold_advance P h hcarries hstep, db_advance P hstep⟩
  obtain ⟨left, hleft, heq⟩ := exists_interrupt P
    (q := fun r ↦ TiersHold db.IsRow r.l1 r.redis.keys r.db.keys ∧ r.db = s.db)
    ⟨h, rfl⟩ hadvance executed
  rw [heq]
  exact hleft

/-- An authentic request takes a step that is not a lookup. -/
theorem SameForAuthentic.advance (h : SameForAuthentic P plane jobs db full quiet)
    (hi : (jobs i).isAuthentic P plane db = true)
    (hstep : dataStep P plane jobs full (.advance i c) = some t) :
    ∃ t', dataStep P plane jobs quiet (.advance i c) = some t' ∧
      SameForAuthentic P plane jobs db t t' := by
  obtain ⟨hlooking, ⟨next, shared⟩, hnext, rfl⟩ := (dataStep_advance_eq_some P).mp hstep
  have hphase : quiet.phase i = full.phase i := (h.phase i hi).eq hlooking
  obtain ⟨shared', hnext', hrest⟩ := advance_of_forgetTiers P h.rest hlooking hnext
  have hquiet : SmartGate.advance P plane (jobs i) i c quiet.shared (quiet.phase i) =
      some (next, shared') := hphase ▸ hnext'
  refine ⟨_, (dataStep_advance_eq_some P).mpr ⟨hphase ▸ hlooking, _, hquiet, rfl⟩, ?_⟩
  exact h.move_both P (db_advance P hnext)
    ((h.checked i).advance P h.identities h.fullTiers hnext)
    (tiersHold_advance P h.fullTiers (h.checked i).carries hnext)
    (tiersHold_advance P h.quietTiers (h.phase i hi).carries hquiet) hrest
    (samePhase_advance P hlooking hnext)

/-- An authentic request takes a step of its lookup.  When that is the last one, the whole lookup
is made up for in the other run. -/
theorem SameForAuthentic.lookup (h : SameForAuthentic P plane jobs db full quiet)
    (hi : (jobs i).isAuthentic P plane db = true) (hanswers : c.load.failure = none)
    (hstep : dataStep P plane jobs full (.lookup i c) = some t) :
    ∃ n t', run (dataStep P plane jobs) quiet (List.replicate n (.lookup i c)) = some t' ∧
      SameForAuthentic P plane jobs db t t' := by
  obtain ⟨hlooking, ⟨next, shared⟩, hnext, rfl⟩ := (dataStep_lookup_eq_some P).mp hstep
  have hchecked := (h.checked i).advance P h.identities h.fullTiers hnext
  have htiers := tiersHold_advance P h.fullTiers ((h.checked i).carries P) hnext
  have hdb := db_advance P hnext
  obtain ⟨hd, l, hphase⟩ := DataPhase.exists_lookingUp hlooking
  have hbefore := h.checked i
  have hsame := h.phase i hi
  rw [hphase] at hbefore hsame hnext
  obtain ⟨⟨hformat, _⟩, hl, hcarries⟩ := hbefore
  obtain ⟨since, hphase'⟩ := hsame.exists_since
  have hforgot : shared.forgetTiers = full.shared.forgetTiers := forgetTiers_lookupKey hnext
  obtain ⟨fleet, l', hlookup, rfl, hend⟩ := lookupKey_eq_some.mp hnext
  rcases hend with ⟨found, hfound, rfl⟩ | ⟨_, rfl⟩
  -- both tiers and the table hold the same row, so both lookups end with it
  · obtain ⟨row, hrow⟩ := Job.exists_row_of_isAuthentic P hi hformat
    have hget : (full.shared.fleet c.now).db.get l.keyId = some row := by
      change full.shared.db.keys.get l.keyId = some row
      rw [hl, h.identities.keys]
      exact hrow
    rw [hanswers] at hlookup
    obtain ⟨key, rfl⟩ := returned_ok_of_row hget hlookup hfound
    have hkey := (h.fullTiers.lookupStep hcarries hlookup).2.2
    rw [hfound, hl] at hkey
    obtain rfl : row = key := Option.some.inj (hrow.symm.trans hkey)
    have hquietDb : quiet.shared.forgetTiers.db = full.shared.forgetTiers.db :=
      congrArg Shared.db h.rest
    obtain ⟨n, shared', hrun, hforgot', htiers'⟩ := exists_lookups P hrow hanswers hphase' rfl
      trivial nofun ((congrArg Database.keys hquietDb).trans h.identities.keys) h.quietTiers
    refine ⟨n, _, hrun, h.move_both P hdb hchecked htiers htiers' ?_ ?_⟩
    · exact hforgot'.trans (h.rest.trans hforgot.symm)
    · exact samePhase_keyFound hd _
  · refine ⟨0, quiet, rfl, ?_⟩
    have hquiet : quiet = quiet.move i (quiet.phase i, quiet.shared) := by
      simp [DataState.move]
    rw [hquiet]
    refine h.move_both P hdb hchecked htiers h.quietTiers (h.rest.trans hforgot.symm) ?_
    rw [hphase']
    exact .lookingUp hd l' since

theorem SameForAuthentic.drop (h : SameForAuthentic P plane jobs db full quiet)
    (hi : (jobs i).isAuthentic P plane db = true) {executed : Bool}
    (hstep : dataStep P plane jobs full (.drop i c executed) = some t) :
    ∃ t', dataStep P plane jobs quiet (.drop i c executed) = some t' ∧
      SameForAuthentic P plane jobs db t t' := by
  obtain ⟨next, hnext, rfl⟩ := Option.map_eq_some_iff.mp hstep
  have hsame := h.phase i hi
  refine ⟨_, Option.map_eq_some_iff.mpr ⟨next, hsame.abandon.trans hnext, rfl⟩, ?_⟩
  obtain ⟨htiers, hdb⟩ := tiersHold_interrupt P h.fullTiers ((h.checked i).carries P) executed
  obtain ⟨htiers', _⟩ := tiersHold_interrupt P h.quietTiers hsame.carries executed
  refine h.move_both P hdb ((h.checked i).abandon P hnext) htiers htiers' ?_
    (samePhase_abandon hnext)
  cases hlooking : (full.phase i).isLookingUp with
  | false =>
      rw [hsame.eq hlooking]
      exact forgetTiers_interrupt P h.rest hlooking executed
  | true =>
      obtain ⟨hd, l, hphase⟩ := DataPhase.exists_lookingUp hlooking
      rw [hphase] at hsame ⊢
      obtain ⟨since, hphase'⟩ := hsame.exists_since
      rw [hphase', forgetTiers_interrupt_lookup, forgetTiers_interrupt_lookup, h.rest]

/-- What happens besides the requests happens in both runs. -/
theorem SameForAuthentic.environment (h : SameForAuthentic P plane jobs db full quiet)
    {a : DataStep} (ha : a.request = none) (hsteady : Steady P plane jobs db a)
    (hstep : dataStep P plane jobs full a = some t) :
    ∃ t', dataStep P plane jobs quiet a = some t' ∧ SameForAuthentic P plane jobs db t t' := by
  cases a with
  | advance i c | lookup i c | drop i c executed => cases ha
  | invalidateL1 gateway keyId =>
      cases hstep
      exact ⟨_, rfl, { h with
        fullTiers := h.fullTiers.putL1 gateway nofun
        quietTiers := h.quietTiers.putL1 gateway nofun }⟩
  | invalidateL2 keyId =>
      cases hstep
      exact ⟨_, rfl, { h with
        fullTiers := h.fullTiers.putL2 nofun
        quietTiers := h.quietTiers.putL2 nofun }⟩
  | evictPolicy gateway saId =>
      cases hstep
      refine ⟨_, rfl, { h with rest := ?_ }⟩
      exact congrArg (fun r : Shared ↦ { r with policies := put r.policies (gateway, saId) none })
        h.rest
  | write db' =>
      cases hstep
      have hkeys : ∀ keyId key, db'.keys.get keyId = some key → db.IsRow keyId key := by
        intro keyId key hkey
        rwa [hsteady.keys] at hkey
      refine ⟨_, rfl, { h with
        identities := hsteady
        fullTiers := ⟨h.fullTiers.l1, h.fullTiers.l2, hkeys⟩
        quietTiers := ⟨h.quietTiers.l1, h.quietTiers.l2, hkeys⟩
        rest := ?_ }⟩
      exact congrArg (fun r : Shared ↦ { r with db := db' }) h.rest

theorem SameForAuthentic.forged_step (h : SameForAuthentic P plane jobs db full quiet)
    {a : DataStep} (ha : isGenuine P plane jobs db a = false)
    (hstep : dataStep P plane jobs full a = some t) :
    SameForAuthentic P plane jobs db t quiet := by
  have hadvance : ∀ {i c answer}, ¬(jobs i).isAuthentic P plane db = true →
      SmartGate.advance P plane (jobs i) i c full.shared (full.phase i) = some answer →
      SameForAuthentic P plane jobs db (full.move i answer) quiet := by
    intro i c answer hi hnext
    exact h.move_full P hi (db_advance P hnext)
      ((h.checked i).advance P h.identities h.fullTiers hnext)
      (tiersHold_advance P h.fullTiers ((h.checked i).carries P) hnext)
      ((h.checked i).forgetTiers P hi hnext)
  cases a with
  | advance i c =>
      obtain ⟨_, answer, hnext, rfl⟩ := (dataStep_advance_eq_some P).mp hstep
      exact hadvance (ne_true_of_eq_false ha) hnext
  | lookup i c =>
      obtain ⟨_, answer, hnext, rfl⟩ := (dataStep_lookup_eq_some P).mp hstep
      exact hadvance (ne_true_of_eq_false ha) hnext
  | drop i c executed =>
      obtain ⟨next, hnext, rfl⟩ := Option.map_eq_some_iff.mp hstep
      have hi : ¬(jobs i).isAuthentic P plane db = true := ne_true_of_eq_false ha
      obtain ⟨htiers, hdb⟩ := tiersHold_interrupt P h.fullTiers ((h.checked i).carries P) executed
      exact h.move_full P hi hdb ((h.checked i).abandon P hnext) htiers
        ((h.checked i).forgetTiers_interrupt P hi executed)
  | invalidateL1 _ _ | invalidateL2 _ | evictPolicy _ _ | write _ => cases ha

/-- Each step is matched by none, by itself, or by a whole lookup. -/
theorem SameForAuthentic.step (h : SameForAuthentic P plane jobs db full quiet) {a : DataStep}
    (hsteady : Steady P plane jobs db a) (hstep : dataStep P plane jobs full a = some t) :
    ∃ ms t', WithoutForged P plane jobs db [a] ms ∧
      run (dataStep P plane jobs) quiet ms = some t' ∧ SameForAuthentic P plane jobs db t t' := by
  have hkept : isGenuine P plane jobs db a = true →
      (∃ t', dataStep P plane jobs quiet a = some t' ∧ SameForAuthentic P plane jobs db t t') →
      ∃ ms t', WithoutForged P plane jobs db [a] ms ∧
        run (dataStep P plane jobs) quiet ms = some t' ∧
          SameForAuthentic P plane jobs db t t' :=
    fun ha ⟨t', hquiet, hnext⟩ ↦
      ⟨[a], t', withoutForged_kept P ha, run_cons_eq_some.mpr ⟨t', hquiet, rfl⟩, hnext⟩
  cases ha : isGenuine P plane jobs db a with
  | false => exact ⟨[], quiet, withoutForged_left_out P ha, rfl, h.forged_step P ha hstep⟩
  | true =>
      cases a with
      | advance i c => exact hkept ha (h.advance P ha hstep)
      | lookup i c =>
          obtain ⟨n, t', hrun, hnext⟩ := h.lookup P ha (hsteady ha) hstep
          exact ⟨_, t', withoutForged_lookups P ha n, hrun, hnext⟩
      | drop i c executed => exact hkept ha (h.drop P ha hstep)
      | invalidateL1 _ _ | invalidateL2 _ | evictPolicy _ _ | write _ =>
          exact hkept ha (h.environment P rfl hsteady hstep)

end Runs

end SmartGate
