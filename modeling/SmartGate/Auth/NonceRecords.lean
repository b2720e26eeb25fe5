import SmartGate.Auth.DataPlane

/-!
# Who can use up a nonce

A nonce is recorded in the name of the account that owns the verified key, and only after
every other check.  Whatever requests arrive, a record for an account and a nonce is
therefore the trace of a request that was signed with a valid key of that account.  The
key store and the database behind each request are arbitrary: nothing is assumed about
what happens to them in between.
-/

namespace SmartGate

open ExpiringStore Transition

/-! ## Arbitrary requests -/

/-- A request and everything it meets. -/
structure Arrival where
  request : Request
  clock : ClockReadings
  keyStore : Option (String → Except GatewayError ServiceAccountKey)
  database : Option Database
  databaseFailure : Option StorageError
  redis : Option RedisConnection

def Arrival.backend (a : Arrival) : Backend where
  keyStore := a.keyStore
  db := a.database.map (accountLookup a.databaseFailure)
  redis := a.redis

/-- Redis, and the requests so far, the latest first. -/
structure NonceState where
  store : Store String String
  seen : List Arrival

def arrive (P : Primitives) (skewSecs : ℕ) (s : NonceState) (a : Arrival) : Option NonceState :=
  some ⟨(authMiddleware P skewSecs a.backend a.clock s.store a.request).2, a :: s.seen⟩

/-! ## Vouching for a nonce -/

/-- The request with the headers `h` was signed for the nonce with a valid key of the
account. -/
structure Arrival.Vouches (P : Primitives) (skewSecs : ℕ) (a : Arrival) (sa : ServiceAccountId)
    (nonce : String) (h : AuthHeaders) (key : ServiceAccountKey) (publicKey : P.VerifyingKey) :
    Prop where
  extracted : extractAuthHeaders a.request.headers = .ok h
  found : ∃ keyStore, a.keyStore = some keyStore ∧ keyStore h.keyId = .ok key
  owner : key.serviceAccountId = sa
  status : key.status = .active ∨ key.status = .rotating
  unexpired : ∀ expiresAt ∈ key.expiresAt, a.clock.keyExpiry.ms ≤ expiresAt
  parsed : parsePublicKey P key.publicKeyPem = .ok publicKey
  signed : verifySignature P publicKey
    (buildCanonicalString a.request.method (a.request.pathAndQuery.getD a.request.path)
      h.timestamp nonce h.bodyHash) h.signature = .ok ()
  inWindow : validateTimestamp h.timestamp skewSecs a.clock.timestamp.timestamp = .ok ()
  withinSkew : skewSecs ≤ maxTimestamp → ∃ timestamp, parseI64 h.timestamp = some timestamp ∧
    (a.clock.timestamp.timestamp - timestamp).natAbs ≤ skewSecs

variable {P : Primitives} {skewSecs : ℕ}

theorem Arrival.vouches_of_verifyRequest {a : Arrival} {v : Verified}
    (hv : verifyRequest P skewSecs a.backend a.clock a.request = .ok v) :
    ∃ key publicKey, a.Vouches P skewSecs v.serviceAccount.id v.headers.nonce v.headers key
      publicKey := by
  obtain ⟨key, publicKey, hpassed⟩ := Verified.passed_of_verifyRequest P hv
  obtain ⟨keyStore, hstore, hkey⟩ := hpassed.keyFound
  obtain ⟨hfound, hstatus, hexpiry⟩ := verifyKey_eq_ok hkey
  obtain ⟨lookup, hlookup, hsa⟩ := hpassed.owned
  have hconfigured : a.keyStore = some keyStore := by
    unfold Backend.requireKeyStore at hstore
    split at hstore
    · next heq =>
      cases hstore
      exact heq
    · cases hstore
  have howner : v.serviceAccount.id = key.serviceAccountId := by
    cases hdb : a.database with
    | none => simp [Backend.requireDb, Arrival.backend, hdb] at hlookup
    | some db =>
        simp only [Backend.requireDb, Arrival.backend, hdb, Option.map_some,
          Except.ok.injEq] at hlookup
        subst hlookup
        have hrow := accountLookup_eq_ok (verifyServiceAccount_eq_ok hsa).1
        exact (ServiceAccountRepo.getWithTenantStatus_eq_ok hrow).1.2
  refine ⟨key, publicKey, {
    extracted := hpassed.extracted
    found := ⟨keyStore, hconfigured, hfound⟩
    owner := howner.symm
    status := hstatus
    unexpired := hexpiry
    parsed := hpassed.parsed
    signed := hpassed.signed
    inWindow := hpassed.inWindow
    withinSkew := fun hskew ↦ ?_ }⟩
  obtain ⟨timestamp, hparse, _⟩ := validateTimestamp_eq_ok.mp hpassed.inWindow
  exact ⟨timestamp, hparse, timestamp_within_skew hpassed.inWindow hparse hskew⟩

/-! ## Runs -/

/-- Every nonce record goes back to a request that vouches for it. -/
def NonceState.Vouched (P : Primitives) (skewSecs : ℕ) (s : NonceState) : Prop :=
  ∀ (sa : ServiceAccountId) nonce, s.store (nonceKey sa.display nonce) ≠ none →
    ∃ a ∈ s.seen, ∃ h key publicKey, a.Vouches P skewSecs sa nonce h key publicKey

theorem NonceState.Vouched.step {s t : NonceState} {a : Arrival} (hs : s.Vouched P skewSecs)
    (hstep : arrive P skewSecs s a = some t) : t.Vouched P skewSecs := by
  cases hstep
  intro sa nonce hpresent
  have hearlier : s.store (nonceKey sa.display nonce) ≠ none → ∃ b ∈ a :: s.seen,
      ∃ h key publicKey, b.Vouches P skewSecs sa nonce h key publicKey := by
    intro hold
    obtain ⟨b, hb, hvouches⟩ := hs sa nonce hold
    exact ⟨b, List.mem_cons_of_mem a hb, hvouches⟩
  rcases authMiddleware_store P skewSecs a.backend a.clock s.store a.request with
    hsame | ⟨v, hv, hset⟩
  · exact hearlier (hsame ▸ hpresent)
  · by_cases hkey : nonceKey sa.display nonce = v.nonceKey
    · obtain ⟨rfl, rfl⟩ := nonceKey_injective hkey
      obtain ⟨key, publicKey, hvouches⟩ := Arrival.vouches_of_verifyRequest hv
      exact ⟨a, List.mem_cons_self, v.headers, key, publicKey, hvouches⟩
    · apply hearlier
      rw [← setNxEx_ne s.store a.clock.nonce.ms hkey "1" (1000 * skewSecs), ← hset]
      exact hpresent

/-- Nonces cannot be used up by outsiders: a record for an account and a nonce is the trace
of a request that a valid key of the account has signed for the nonce, and a request that
fails any other check leaves Redis as it was. -/
theorem nonce_recorded_only_for_owner {store : Store String String} {arrivals : List Arrival}
    {u : NonceState}
    (hfree : ∀ (sa : ServiceAccountId) nonce, store (nonceKey sa.display nonce) = none)
    (hrun : run (arrive P skewSecs) ⟨store, []⟩ arrivals = some u) :
    (∀ (sa : ServiceAccountId) nonce now, lookup u.store now (nonceKey sa.display nonce) ≠ none →
      ∃ a ∈ u.seen, ∃ h key publicKey, a.Vouches P skewSecs sa nonce h key publicKey) ∧
    ∀ (a : Arrival) e, verifyRequest P skewSecs a.backend a.clock a.request = .error e →
      authMiddleware P skewSecs a.backend a.clock u.store a.request = (.error e, u.store) := by
  have hinit : NonceState.Vouched P skewSecs ⟨store, []⟩ := fun sa nonce hpresent ↦
    absurd (hfree sa nonce) hpresent
  have hvouched : u.Vouched P skewSecs :=
    run_preserves (fun _ _ _ hs hstep ↦ hs.step hstep) hrun hinit
  refine ⟨fun sa nonce now hlive ↦ hvouched sa nonce fun hnone ↦ hlive ?_, ?_⟩
  · simp [lookup, hnone]
  · exact fun a e he ↦ authMiddleware_of_error P he u.store

/-- The sample request, at an instance that finds its key and its account. -/
def sampleArrival : Arrival where
  request := sampleSignedRequest ⟨⟨2⟩⟩ "key-1"
  clock := .at sampleInstant
  keyStore := some fun _ ↦ .ok (sampleRecord ⟨⟨2⟩⟩ "key-1" ⟨⟨4⟩⟩)
  database := (run (planeStep .sample 300) (.start .initial empty) sampleAccounts).bind
    fun s ↦ s.app.db
  databaseFailure := none
  redis := some .working

theorem nonce_recorded_only_for_owner_sample :
    ∃ u, run (arrive .sample 300) ⟨empty, []⟩ [sampleArrival] = some u ∧
      lookup u.store 1000000 (nonceKey (ServiceAccountId.display ⟨⟨2⟩⟩) "0123456789abcdef") ≠
        none ∧
      ∃ a ∈ u.seen, ∃ h key publicKey,
        a.Vouches .sample 300 ⟨⟨2⟩⟩ "0123456789abcdef" h key publicKey := by
  have heval : (run (arrive .sample 300) ⟨empty, []⟩ [sampleArrival]).map (fun u ↦
      lookup u.store 1000000 (nonceKey (ServiceAccountId.display ⟨⟨2⟩⟩) "0123456789abcdef")) =
        some (some ⟨"1", some 1300000⟩) := by
    decide +kernel
  obtain ⟨u, hrun, hlookup⟩ := Option.map_eq_some_iff.mp heval
  have hlive : lookup u.store 1000000
      (nonceKey (ServiceAccountId.display ⟨⟨2⟩⟩) "0123456789abcdef") ≠ none := by
    rw [hlookup]
    exact Option.some_ne_none _
  exact ⟨u, hrun, hlive,
    (nonce_recorded_only_for_owner (fun _ _ ↦ rfl) hrun).1 ⟨⟨2⟩⟩ _ 1000000 hlive⟩

end SmartGate
