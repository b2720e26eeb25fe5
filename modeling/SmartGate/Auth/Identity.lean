import SmartGate.Auth.Integrity

/-!
# Whom a signature identifies

The canonical string names neither the service account nor the key.  The account that a
request is attributed to is the owner of the record that its key identifier leads to, and
the table of keys may hold one public key several times, for different accounts.  A
signature identifies one account exactly as long as no public key is registered for a
second one.
-/

namespace SmartGate

open Transition

/-! ## Signed messages -/

/-- What a signature covers, and the signature. -/
structure SignedMessage where
  method : String
  path : String
  timestamp : String
  nonce : String
  bodyHash : String
  signature : String
  deriving DecidableEq

def Request.message (request : Request) : Except GatewayError SignedMessage :=
  (extractAuthHeaders request.headers).map fun h ↦
    ⟨request.method, request.pathAndQuery.getD request.path, h.timestamp, h.nonce, h.bodyHash,
      h.signature⟩

variable {P : Primitives}

def SignedMessage.VerifiesUnder (P : Primitives) (m : SignedMessage) (publicKey : P.VerifyingKey) :
    Prop :=
  verifySignature P publicKey
    (buildCanonicalString m.method m.path m.timestamp m.nonce m.bodyHash) m.signature = .ok ()

/-- A signature verifies only under the public key of the private key that made it. -/
def Primitives.SignerUnique (P : Primitives) : Prop :=
  ∀ publicKey publicKey' canonical signature, P.verify publicKey canonical signature = true →
    P.verify publicKey' canonical signature = true → publicKey = publicKey'

theorem SignedMessage.VerifiesUnder.unique (hP : P.SignerUnique) {m : SignedMessage}
    {publicKey publicKey' : P.VerifyingKey} (h : m.VerifiesUnder P publicKey)
    (h' : m.VerifiesUnder P publicKey') : publicKey = publicKey' := by
  obtain ⟨bytes, signature, hbytes, hsignature, hverify⟩ := verify_of_verifySignature h
  obtain ⟨_, _, hbytes', hsignature', hverify'⟩ := verify_of_verifySignature h'
  cases hbytes.symm.trans hbytes'
  cases hsignature.symm.trans hsignature'
  exact hP _ _ _ _ hverify hverify'

/-! ## One owner for each public key -/

def SharePublicKey (P : Primitives) (pem pem' : String) : Prop :=
  ∃ publicKey, parsePublicKey P pem = .ok publicKey ∧ parsePublicKey P pem' = .ok publicKey

instance [DecidableEq P.VerifyingKey] (pem pem' : String) : Decidable (SharePublicKey P pem pem') :=
  match h : parsePublicKey P pem, h' : parsePublicKey P pem' with
  | .ok key, .ok key' =>
      decidable_of_iff (key = key') (by simp [SharePublicKey, h, h', eq_comm])
  | .error _, _ => isFalse (by simp [SharePublicKey, h])
  | .ok _, .error _ => isFalse (by simp [SharePublicKey, h'])

/-- The key that is being registered is not in the table for another account. -/
def RegistersOwnKey (P : Primitives) (s : PlaneState) : PlaneOp → Prop
  | .gateway (.admin _ _ (.registerKey sa body _)) => ∀ k ∈ s.app.keyRows,
      SharePublicKey P k.publicKeyPem body.publicKeyPem → k.serviceAccountId = sa
  | _ => True

instance [DecidableEq P.VerifyingKey] (s : PlaneState) (op : PlaneOp) :
    Decidable (RegistersOwnKey P s op) := by
  unfold RegistersOwnKey
  split <;> infer_instance

def OneOwner (P : Primitives) (rows : List ServiceAccountKey) : Prop :=
  ∀ k ∈ rows, ∀ k' ∈ rows, SharePublicKey P k.publicKeyPem k'.publicKeyPem →
    k.serviceAccountId = k'.serviceAccountId

theorem SharePublicKey.symm {pem pem' : String} (h : SharePublicKey P pem pem') :
    SharePublicKey P pem' pem := by
  obtain ⟨publicKey, hpem, hpem'⟩ := h
  exact ⟨publicKey, hpem', hpem⟩

/-- A table whose rows were there before, or belong to one account that shares no public
key with another, has one owner for each public key. -/
theorem OneOwner.of_origin {rows rows' : List ServiceAccountKey} (h : OneOwner P rows)
    {sa : ServiceAccountId} {pem : String}
    (hfresh : ∀ k ∈ rows, SharePublicKey P k.publicKeyPem pem → k.serviceAccountId = sa)
    (horigin : ∀ k' ∈ rows', (∃ k ∈ rows, k.SameCredential k') ∨
      (k'.serviceAccountId = sa ∧ k'.publicKeyPem = pem)) : OneOwner P rows' := by
  intro k hk k' hk' hshare
  rcases horigin k hk with ⟨k₀, hk₀, hsame⟩ | ⟨hsa, hpem⟩
  · rw [hsame.publicKeyPem] at hshare
    rw [hsame.serviceAccountId]
    rcases horigin k' hk' with ⟨k₁, hk₁, hsame'⟩ | ⟨hsa', hpem'⟩
    · rw [hsame'.serviceAccountId]
      exact h k₀ hk₀ k₁ hk₁ (hsame'.publicKeyPem ▸ hshare)
    · rw [hsa']
      exact hfresh k₀ hk₀ (hpem' ▸ hshare)
  · rw [hsa]
    rcases horigin k' hk' with ⟨k₁, hk₁, hsame'⟩ | ⟨hsa', _⟩
    · rw [hsame'.serviceAccountId]
      rw [hpem, hsame'.publicKeyPem] at hshare
      exact (hfresh k₁ hk₁ hshare.symm).symm
    · exact hsa'.symm

theorem OneOwner.of_sameCredential {rows rows' : List ServiceAccountKey} (h : OneOwner P rows)
    (horigin : ∀ k' ∈ rows', ∃ k ∈ rows, k.SameCredential k') : OneOwner P rows' := by
  intro k hk k' hk' hshare
  obtain ⟨k₀, hk₀, hsame⟩ := horigin k hk
  obtain ⟨k₁, hk₁, hsame'⟩ := horigin k' hk'
  rw [hsame.serviceAccountId, hsame'.serviceAccountId]
  rw [hsame.publicKeyPem, hsame'.publicKeyPem] at hshare
  exact h k₀ hk₀ k₁ hk₁ hshare

variable {skewSecs : ℕ}

theorem OneOwner.committed {now : ℕ} {db db' : Database} {request : AdminRequest}
    (h : OneOwner P db.keys.rows) (hc : Committed P now db request db')
    (hown : ∀ sa body id, request = .registerKey sa body id → ∀ k ∈ db.keys.rows,
      SharePublicKey P k.publicKeyPem body.publicKeyPem → k.serviceAccountId = sa) :
    OneOwner P db'.keys.rows := by
  by_cases hregister : ∃ sa body id, request = .registerKey sa body id
  · obtain ⟨sa, body, id, rfl⟩ := hregister
    refine h.of_origin (hown sa body id rfl) fun k' hk' ↦ ?_
    rcases hc.key_origin hk' with hold | ⟨_, _, _, _, hrequest, hsa, hpem, _⟩
    · exact Or.inl hold
    · cases hrequest
      exact Or.inr ⟨hsa, hpem⟩
  · refine h.of_sameCredential fun k' hk' ↦ ?_
    rcases hc.key_origin hk' with hold | ⟨sa, body, id, _, hrequest, _⟩
    · exact hold
    · exact absurd ⟨sa, body, id, hrequest⟩ hregister

theorem OneOwner.step {s t : PlaneState} {op : PlaneOp}
    (hs : s.app.Satisfies fun db ↦ OneOwner P db.keys.rows) (hop : RegistersOwnKey P s op)
    (hstep : planeStep P skewSecs s op = some t) :
    t.app.Satisfies fun db ↦ OneOwner P db.keys.rows := by
  refine hs.planeStep hstep ?_ ?_
  · rintro ctx now request db db' rfl hdb hone hc
    refine hone.committed hc ?_
    rintro sa body id rfl
    rw [← AppState.keyRows_eq hdb]
    exact hop
  · intro db id now hone
    exact hone.of_sameCredential fun k' hk' ↦
      Table.origin_map_ite .refl (fun _ ↦ ⟨rfl, rfl, rfl⟩) hk'

/-! ## Attribution -/

/-- The request is attributed to the owner of a record whose key verifies its signature. -/
def Acceptance.Attributed (P : Primitives) (a : Acceptance) (records : List ServiceAccountKey) :
    Prop :=
  ∃ m key publicKey, a.request.message = .ok m ∧ key ∈ records ∧
    parsePublicKey P key.publicKeyPem = .ok publicKey ∧ m.VerifiesUnder P publicKey ∧
    a.context.serviceAccountId = key.serviceAccountId

theorem Acceptance.Attributed.mono {a : Acceptance} {records records' : List ServiceAccountKey}
    (h : a.Attributed P records) (hsub : records ⊆ records') : a.Attributed P records' := by
  obtain ⟨m, key, publicKey, hm, hkey, hrest⟩ := h
  exact ⟨m, key, publicKey, hm, hsub hkey, hrest⟩

theorem PlaneState.attributed_of_authenticate {s : PlaneState} {r : DataRequest}
    {ctx : AuthContext} (h : (s.authenticate P skewSecs r).1 = .ok ctx) :
    Acceptance.Attributed P ⟨r.request, ctx⟩ s.records := by
  obtain ⟨v, key, publicKey, db, hpassed, rfl, _, hmem, _, hlookup⟩ :=
    PlaneState.authenticate_eq_ok h
  have hid := (ServiceAccountRepo.getWithTenantStatus_eq_ok hlookup).1.2
  let m : SignedMessage := ⟨r.request.method, r.request.pathAndQuery.getD r.request.path,
    v.headers.timestamp, v.headers.nonce, v.headers.bodyHash, v.headers.signature⟩
  have hm : r.request.message = .ok m := by
    rw [Request.message, hpassed.extracted]
    rfl
  exact ⟨m, key, publicKey, hm, hmem, hpassed.parsed, hpassed.signed, hid⟩

def PlaneState.AllAttributed (P : Primitives) (s : PlaneState) : Prop :=
  ∀ a ∈ s.accepted, a.Attributed P s.records

theorem PlaneState.AllAttributed.step {s t : PlaneState} {op : PlaneOp} (hs : s.AllAttributed P)
    (hstep : planeStep P skewSecs s op = some t) : t.AllAttributed P := by
  cases op with
  | gateway op =>
      obtain ⟨app, _, rfl⟩ := Option.map_eq_some_iff.mp hstep
      exact fun a ha ↦ (hs a ha).mono (List.subset_append_right _ _)
  | authenticate r =>
      cases hstep
      intro a ha
      cases hok : (s.authenticate P skewSecs r).1 with
      | error e =>
          simp only [hok] at ha
          exact hs a ha
      | ok ctx =>
          simp only [hok] at ha
          have hattributed := PlaneState.attributed_of_authenticate hok
          rcases List.mem_cons.mp ha with rfl | ha
          · exact hattributed
          · exact hs a ha
  | updateLastUsed id now =>
      cases hstep
      exact fun a ha ↦ (hs a ha).mono (List.subset_append_right _ _)

/-- As long as no public key is registered for a second account, requests that carry the
same signed message are attributed to the same account, whatever they claim in the
headers that are not signed. -/
theorem signature_identifies_account (hP : P.SignerUnique) {app : AppState}
    {nonces : ExpiringStore.Store String String} {ops : List PlaneOp} {u : PlaneState}
    (hempty : app.keyRows = [])
    (hguard : Guarded (planeStep P skewSecs) (RegistersOwnKey P) (.start app nonces) ops)
    (hrun : run (planeStep P skewSecs) (.start app nonces) ops = some u) :
    ∀ a ∈ u.accepted, ∀ b ∈ u.accepted, a.request.message = b.request.message →
      a.context.serviceAccountId = b.context.serviceAccountId := by
  let inv : PlaneState → Prop := fun s ↦ s.Recorded ∧ s.AllAttributed P ∧
    s.app.Satisfies fun db ↦ OneOwner P db.keys.rows
  have hinit : inv (.start app nonces) := by
    refine ⟨PlaneState.recorded_start app nonces, ?_, ?_⟩
    · intro a ha
      cases ha
    · intro db hdb k hk
      rw [← AppState.keyRows_eq (Option.mem_def.mp hdb)] at hk
      exact absurd (hempty ▸ hk) List.not_mem_nil
  have hstep : ∀ s op t, inv s → RegistersOwnKey P s op → planeStep P skewSecs s op = some t →
      inv t := fun s op t hs hop ht ↦
    ⟨hs.1.step ht, hs.2.1.step ht, OneOwner.step hs.2.2 hop ht⟩
  obtain ⟨hrecorded, hattributed, hone⟩ := run_invariant hstep hguard hrun hinit
  intro a ha b hb hmessage
  obtain ⟨m, key, publicKey, hm, hkey, hparsed, hverifies, howner⟩ := hattributed a ha
  obtain ⟨m', key', publicKey', hm', hkey', hparsed', hverifies', howner'⟩ := hattributed b hb
  cases (hm.symm.trans hmessage).trans hm'
  cases hverifies.unique hP hverifies'
  obtain ⟨row, hrow, hsame⟩ := hrecorded key hkey
  obtain ⟨row', hrow', hsame'⟩ := hrecorded key' hkey'
  cases hdb : u.app.db with
  | none => simp [AppState.keyRows, hdb] at hrow
  | some db =>
      rw [AppState.keyRows_eq hdb] at hrow hrow'
      have hshare : SharePublicKey P row.publicKeyPem row'.publicKeyPem := by
        rw [hsame.publicKeyPem, hsame'.publicKeyPem]
        exact ⟨publicKey, hparsed, hparsed'⟩
      have hsa := hone db hdb row hrow row' hrow' hshare
      rw [howner, howner', ← hsame.serviceAccountId, ← hsame'.serviceAccountId, hsa]

/-! ## One key for two accounts -/

/-- The same request under other headers for account and key; the first value of a name
counts. -/
def Request.presentedAs (request : Request) (saId keyId : List UInt8) : Request :=
  { request with
    headers := ("x-service-account-id", saId) :: ("x-key-id", keyId) :: request.headers }

theorem extractAuthHeaders_presentedAs {request : Request} {h : AuthHeaders}
    (hextracted : extractAuthHeaders request.headers = .ok h) {saId keyId : List UInt8}
    {saIdStr keyIdStr : String} (hsaId : headerToStr saId = some saIdStr)
    (hkeyId : headerToStr keyId = some keyIdStr) :
    extractAuthHeaders (request.presentedAs saId keyId).headers =
      .ok { h with saIdStr, keyId := keyIdStr } := by
  have hother : ∀ name, name ≠ "x-service-account-id" → name ≠ "x-key-id" →
      extractHeader (request.presentedAs saId keyId).headers name =
        extractHeader request.headers name := by
    intro name hsa hkey
    simp [extractHeader, HeaderMap.get, Request.presentedAs, hsa.symm, hkey.symm]
  obtain ⟨_, _, h₁⟩ := bind_eq_ok.mp hextracted
  obtain ⟨_, _, h₂⟩ := bind_eq_ok.mp h₁
  obtain ⟨timestamp, htimestamp, h₃⟩ := bind_eq_ok.mp h₂
  obtain ⟨nonce, hnonce, h₄⟩ := bind_eq_ok.mp h₃
  obtain ⟨bodyHash, hbodyHash, h₅⟩ := bind_eq_ok.mp h₄
  obtain ⟨signature, hsignature, h₆⟩ := bind_eq_ok.mp h₅
  cases h₆
  refine bind_eq_ok.mpr ⟨saIdStr, ?_, bind_eq_ok.mpr ⟨keyIdStr, ?_, ?_⟩⟩
  · simp [extractHeader, HeaderMap.get, Request.presentedAs, hsaId]
  · simp [extractHeader, HeaderMap.get, Request.presentedAs, hkeyId]
  · refine bind_eq_ok.mpr ⟨timestamp, (hother _ (by decide) (by decide)).trans htimestamp,
      bind_eq_ok.mpr ⟨nonce, (hother _ (by decide) (by decide)).trans hnonce,
        bind_eq_ok.mpr ⟨bodyHash, (hother _ (by decide) (by decide)).trans hbodyHash,
          bind_eq_ok.mpr ⟨signature, (hother _ (by decide) (by decide)).trans hsignature, rfl⟩⟩⟩⟩

/-- The record can be used for a request that reads the clock at `now`, for this account. -/
structure ServiceAccountKey.Usable (key : ServiceAccountKey) (db : Database) (now : ℕ)
    (sa : ServiceAccountWithTenantStatus) : Prop where
  live : key.status = .active ∨ key.status = .rotating
  unexpired : ∀ expiresAt ∈ key.expiresAt, now ≤ expiresAt
  owner : ServiceAccountRepo.getWithTenantStatus db key.serviceAccountId = .ok sa
  active : sa.status = .active ∧ sa.tenantStatus = .active

theorem ServiceAccountKey.Usable.verifyKey {key : ServiceAccountKey} {db : Database} {now : ℕ}
    {sa : ServiceAccountWithTenantStatus} (h : key.Usable db now sa)
    {keyStore : String → Except GatewayError ServiceAccountKey} {keyId : String}
    (hstore : keyStore keyId = .ok key) : verifyKey keyStore keyId now = .ok key := by
  have hexpired : (key.expiresAt.any fun expiresAt ↦ decide (expiresAt < now)) = false := by
    cases hexpires : key.expiresAt with
    | none => rfl
    | some expiresAt => simpa using h.unexpired expiresAt hexpires
  rcases h.live with hactive | hrotating
  · simp [SmartGate.verifyKey, hstore, hactive, hexpired]
  · simp [SmartGate.verifyKey, hstore, hrotating, hexpired]

/-- A request that passes was checked against the record that the key store has found, and
against the row of its owner. -/
theorem Verified.Passed.found_owner {s : PlaneState} {r : DataRequest} {v : Verified}
    {key₀ key : ServiceAccountKey} {publicKey : P.VerifyingKey}
    (h : v.Passed P skewSecs (s.backend r) r.clock r.request key₀ publicKey)
    (hfound : r.found = some key) {db : Database} (hdb : s.app.db = some db) :
    key₀ = key ∧ r.databaseFailure = none ∧
      ServiceAccountRepo.getWithTenantStatus db key₀.serviceAccountId = .ok v.serviceAccount := by
  obtain ⟨keyStore, hstore, hkey⟩ := h.keyFound
  cases hstore
  have hkey' := (verifyKey_eq_ok hkey).1
  obtain ⟨lookup, hlookup, hsa⟩ := h.owned
  simp only [Backend.requireDb, PlaneState.backend, hdb, Option.map_some,
    Except.ok.injEq] at hlookup
  subst hlookup
  have hsa' := (verifyServiceAccount_eq_ok hsa).1
  refine ⟨?_, ?_, accountLookup_eq_ok hsa'⟩
  · simp only [PlaneState.keyStore, hfound] at hkey'
    split at hkey'
    · next found hfilter =>
      cases hkey'
      exact (Option.some.inj (Option.filter_eq_some_iff.mp hfilter).1).symm
    · cases hkey'
  · cases hfailure : r.databaseFailure with
    | none => rfl
    | some e =>
        rw [hfailure] at hsa'
        cases hsa'

/-- What the same message passes with when it is presented under another record of its public
key. -/
theorem Verified.Passed.presentedAs {s : PlaneState} {r : DataRequest} {v : Verified}
    {key key' : ServiceAccountKey} {publicKey : P.VerifyingKey}
    (h : v.Passed P skewSecs (s.backend r) r.clock r.request key publicKey)
    (hfailure : r.databaseFailure = none) (hrecord : key' ∈ s.records)
    (hshare : SharePublicKey P key.publicKeyPem key'.publicKeyPem) {db : Database}
    (hdb : s.app.db = some db) {sa : ServiceAccountWithTenantStatus}
    (husable : key'.Usable db r.clock.keyExpiry.ms sa) {saId keyId : List UInt8}
    (hsaId : headerToStr saId = some sa.id.display)
    (hkeyId : headerToStr keyId = some key'.keyId) :
    Verified.Passed P ⟨{ v.headers with saIdStr := sa.id.display, keyId := key'.keyId }, sa,
      v.redis⟩ skewSecs (s.backend { r with found := some key' }) r.clock
      (r.request.presentedAs saId keyId) key' publicKey where
  extracted := extractAuthHeaders_presentedAs h.extracted hsaId hkeyId
  hashed := h.hashed
  inWindow := h.inWindow
  nonceLength := h.nonceLength
  keyFound := by
    refine ⟨s.keyStore (some key'), rfl, husable.verifyKey ?_⟩
    simp [PlaneState.keyStore, Option.filter, hrecord]
  owned := by
    refine ⟨accountLookup r.databaseFailure db, ?_, ?_⟩
    · simp [Backend.requireDb, PlaneState.backend, hdb]
    · simp [verifyServiceAccount, accountLookup, hfailure, husable.owner, husable.active]
  claimed := by simp [verifyClaimedId]
  parsed := by
    obtain ⟨publicKey', hparsed, hparsed'⟩ := hshare
    cases h.parsed.symm.trans hparsed
    exact hparsed'
  signed := h.signed
  connected := h.connected

/-- The condition is sharp: when the public key of a request that is let through is on record
for a second account, one more presentation of the signed message is let through for that
account, as soon as its record can be used and the nonce is free there. -/
theorem accepted_for_second_owner {s : PlaneState} {r : DataRequest} {ctx : AuthContext}
    (hok : (s.authenticate P skewSecs r).1 = .ok ctx) {key key' : ServiceAccountKey}
    (hfound : r.found = some key) (hrecord : key' ∈ s.records)
    (hshare : SharePublicKey P key.publicKeyPem key'.publicKeyPem)
    (hother : key'.serviceAccountId ≠ key.serviceAccountId) {db : Database}
    (hdb : s.app.db = some db) {sa : ServiceAccountWithTenantStatus}
    (husable : key'.Usable db r.clock.keyExpiry.ms sa) {saId keyId : List UInt8}
    (hsaId : headerToStr saId = some sa.id.display) (hkeyId : headerToStr keyId = some key'.keyId)
    (hfree : ∀ h, extractAuthHeaders r.request.headers = .ok h →
      ExpiringStore.lookup s.nonces r.clock.nonce.ms (nonceKey sa.id.display h.nonce) = none) :
    ∃ u, run (planeStep P skewSecs) s [.authenticate r, .authenticate
        { r with request := r.request.presentedAs saId keyId, found := some key' }] = some u ∧
      ∃ a ∈ u.accepted, ∃ b ∈ u.accepted, a.request.message = b.request.message ∧
        a.context.serviceAccountId ≠ b.context.serviceAccountId := by
  obtain ⟨v, hv, hredis, hnonce, rfl⟩ := authMiddleware_eq_ok P hok
  obtain ⟨key₀, publicKey, hpassed⟩ := Verified.passed_of_verifyRequest P hv
  obtain ⟨rfl, hfailure, hlookup⟩ := hpassed.found_owner hfound hdb
  have hpassed' := hpassed.presentedAs hfailure hrecord hshare hdb husable hsaId hkeyId
  have hne : sa.id ≠ v.serviceAccount.id := by
    rw [(ServiceAccountRepo.getWithTenantStatus_eq_ok husable.owner).1.2,
      (ServiceAccountRepo.getWithTenantStatus_eq_ok hlookup).1.2]
    exact hother
  -- the first presentation has recorded the nonce of its own account only
  let nonces := (ExpiringStore.setNxEx s.nonces r.clock.nonce.ms v.nonceKey "1"
    (1000 * skewSecs)).2
  let t : PlaneState := { s with nonces, accepted := ⟨r.request, v.authContext⟩ :: s.accepted }
  have hstep : planeStep P skewSecs s (.authenticate r) = some t := by
    simp only [planeStep, PlaneState.authenticate, authMiddleware_of_free P hv hredis hnonce, t,
      nonces]
  let v' : Verified :=
    ⟨{ v.headers with saIdStr := sa.id.display, keyId := key'.keyId }, sa, v.redis⟩
  have hfree' : ExpiringStore.lookup t.nonces r.clock.nonce.ms v'.nonceKey = none := by
    have hkey : v'.nonceKey ≠ v.nonceKey := fun heq ↦ hne (nonceKey_injective heq).1
    rw [ExpiringStore.lookup_congr (ExpiringStore.setNxEx_ne s.nonces _ hkey "1" _)]
    exact hfree v.headers hpassed.extracted
  have haccepted : (t.authenticate P skewSecs
      { r with request := r.request.presentedAs saId keyId, found := some key' }).1 =
        .ok v'.authContext :=
    congrArg Prod.fst (authMiddleware_of_free P hpassed'.verifyRequest hredis hfree')
  refine ⟨_, run_cons_eq_some.mpr ⟨t, hstep, run_cons_eq_some.mpr ⟨_, rfl, rfl⟩⟩,
    ⟨r.request, v.authContext⟩, ?_, ⟨r.request.presentedAs saId keyId, v'.authContext⟩, ?_, ?_,
    hne.symm⟩
  · simp only [haccepted]
    exact List.mem_cons_of_mem _ List.mem_cons_self
  · simp only [haccepted]
    exact List.mem_cons_self
  · simp only [Request.message, hpassed.extracted, hpassed'.extracted]
    rfl

theorem signerUnique_sample : Primitives.sample.SignerUnique := by
  intro (publicKey : List UInt8) (publicKey' : List UInt8) canonical (signature : List UInt8) h h'
  have hsample : decide (publicKey = samplePublicKeyDer.drop 12 ∧ canonical = sampleCanonical ∧
    signature = sampleSignature) = true := h
  have hsample' : decide (publicKey' = samplePublicKeyDer.drop 12 ∧ canonical = sampleCanonical ∧
    signature = sampleSignature) = true := h'
  exact (of_decide_eq_true hsample).1.trans (of_decide_eq_true hsample').1.symm

instance : DecidableEq Primitives.sample.VerifyingKey :=
  inferInstanceAs (DecidableEq (List UInt8))

def sampleMessage : SignedMessage :=
  ⟨"POST", "/v1/chat/completions?stream=true", "1300", "0123456789abcdef", sampleBodyHash,
    sampleSignatureBase64⟩

def PlaneState.attributions (s : PlaneState) : List (Option SignedMessage × ServiceAccountId) :=
  s.accepted.map fun a ↦ (a.request.message.toOption, a.context.serviceAccountId)

/-- The key is registered once, and its request is presented twice. -/
def sampleOneOwner : List PlaneOp :=
  sampleAccounts ++ [registerSampleKey ⟨⟨2⟩⟩ "key-1" ⟨⟨4⟩⟩,
    .authenticate (sampleDataRequest ⟨⟨2⟩⟩ "key-1" ⟨⟨4⟩⟩ sampleInstant),
    .authenticate (sampleDataRequest ⟨⟨2⟩⟩ "key-1" ⟨⟨4⟩⟩ ⟨1300000, by decide⟩)]

theorem signature_identifies_account_sample :
    ∃ u, run (planeStep .sample 300) (.start .initial ExpiringStore.empty) sampleOneOwner =
        some u ∧ u.accepted.length = 2 ∧
      ∀ a ∈ u.accepted, ∀ b ∈ u.accepted, a.request.message = b.request.message →
        a.context.serviceAccountId = b.context.serviceAccountId := by
  have heval : (run (planeStep .sample 300) (.start .initial ExpiringStore.empty)
      sampleOneOwner).map (fun u ↦ u.accepted.length) = some 2 := by
    decide +kernel
  obtain ⟨u, hrun, hlength⟩ := Option.map_eq_some_iff.mp heval
  exact ⟨u, hrun, hlength,
    signature_identifies_account signerUnique_sample rfl (by decide +kernel) hrun⟩

/-- The key is registered for two accounts, and its request is presented under both. -/
def sampleTwoOwners : List PlaneOp :=
  sampleAccounts ++ [registerSampleKey ⟨⟨2⟩⟩ "key-1" ⟨⟨4⟩⟩, registerSampleKey ⟨⟨3⟩⟩ "key-2" ⟨⟨5⟩⟩,
    .authenticate (sampleDataRequest ⟨⟨2⟩⟩ "key-1" ⟨⟨4⟩⟩ sampleInstant),
    .authenticate (sampleDataRequest ⟨⟨3⟩⟩ "key-2" ⟨⟨5⟩⟩ sampleInstant)]

/-- One signature is accepted for two accounts, at the same time and with one nonce. -/
theorem signature_accepted_for_two_accounts :
    Primitives.sample.SignerUnique ∧
    ∃ u, run (planeStep .sample 300) (.start .initial ExpiringStore.empty) sampleTwoOwners =
        some u ∧ ∃ a ∈ u.accepted, ∃ b ∈ u.accepted, a.request.message = b.request.message ∧
      a.context.serviceAccountId ≠ b.context.serviceAccountId := by
  have heval : (run (planeStep .sample 300) (.start .initial ExpiringStore.empty)
      sampleTwoOwners).map PlaneState.attributions =
        some [(some sampleMessage, ⟨⟨3⟩⟩), (some sampleMessage, ⟨⟨2⟩⟩)] := by
    decide +kernel
  obtain ⟨u, hrun, hattributions⟩ := Option.map_eq_some_iff.mp heval
  have hfound : ∀ sa, (some sampleMessage, sa) ∈ u.attributions →
      ∃ a ∈ u.accepted, a.request.message = .ok sampleMessage ∧
        a.context.serviceAccountId = sa := by
    intro sa hsa
    obtain ⟨a, ha, heq⟩ := List.mem_map.mp hsa
    obtain ⟨hmessage, hsa⟩ := Prod.mk.inj heq
    exact ⟨a, ha, eq_ok_of_toOption hmessage, hsa⟩
  rw [hattributions] at hfound
  obtain ⟨a, ha, hma, hsa⟩ := hfound ⟨⟨3⟩⟩ (by simp)
  obtain ⟨b, hb, hmb, hsb⟩ := hfound ⟨⟨2⟩⟩ (by simp)
  refine ⟨signerUnique_sample, u, hrun, a, ha, b, hb, hma.trans hmb.symm, ?_⟩
  rw [hsa, hsb]
  decide

end SmartGate
