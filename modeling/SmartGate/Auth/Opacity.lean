import SmartGate.Auth.Middleware

/-!
# What a denied request learns

Every failure that concerns a key or an account is answered by the same opaque error.  So
the answer of the middleware depends on the key store and on the database only through the
live claim of the request: the key and the account that its headers name, if both are in
use and belong together.  Whether there is one can be told from the answer, though, because
a request that fails later is answered differently.
-/

namespace SmartGate

open ExpiringStore

variable (P : Primitives)

/-! ## The parts of the pipeline -/

/-- The checks that look at nothing but the request and the clock. -/
def checkFormat (skewSecs : ℕ) (clock : ClockReadings) (request : Request) :
    Except GatewayError AuthHeaders := do
  let h ← extractAuthHeaders request.headers
  let bodyBytes ← readBody request
  verifyBodyHash P bodyBytes h.bodyHash
  validateTimestamp h.timestamp skewSecs clock.timestamp.timestamp
  validateNonceLength h.nonce
  return h

abbrev KeyLookup := String → Except GatewayError ServiceAccountKey

abbrev AccountLookup := ServiceAccountId → Except StorageError ServiceAccountWithTenantStatus

/-- The key and the account that the headers name, if both are in use and belong together. -/
def liveClaim (keyStore : KeyLookup) (db : AccountLookup) (now : ℕ) (h : AuthHeaders) :
    Option (ServiceAccountKey × ServiceAccountWithTenantStatus) :=
  match verifyKey keyStore h.keyId now with
  | .error _ => none
  | .ok key =>
      match verifyServiceAccount db key with
      | .error _ => none
      | .ok sa => if h.saIdStr = sa.id.display then some (key, sa) else none

/-- What remains to be checked once there is a live claim. -/
def checkSignature (redis : Option RedisConnection) (request : Request) (h : AuthHeaders)
    (key : ServiceAccountKey) (sa : ServiceAccountWithTenantStatus) :
    Except GatewayError Verified := do
  let publicKey ← parsePublicKey P key.publicKeyPem
  let path := request.pathAndQuery.getD request.path
  verifySignature P publicKey
    (buildCanonicalString request.method path h.timestamp h.nonce h.bodyHash) h.signature
  let redis ← Backend.requireRedis ⟨none, none, redis⟩
  return { headers := h, serviceAccount := sa, redis }

theorem verifyKey_error {keyStore : KeyLookup} {keyId : String} {now : ℕ} {e : GatewayError}
    (h : verifyKey keyStore keyId now = .error e) : e = authDenied := by
  unfold verifyKey at h
  split at h
  · cases h
    rfl
  · split at h
    · cases h
      rfl
    · cases h
      rfl
    all_goals
      split_ifs at h
      cases h
      rfl

theorem verifyServiceAccount_error {db : AccountLookup} {key : ServiceAccountKey}
    {e : GatewayError} (h : verifyServiceAccount db key = .error e) : e = authDenied := by
  unfold verifyServiceAccount at h
  split at h
  · cases h
    rfl
  · split_ifs at h
    · cases h
      rfl
    · cases h
      rfl

theorem liveClaim_eq_some {keyStore : KeyLookup} {db : AccountLookup} {now : ℕ} {h : AuthHeaders}
    {key : ServiceAccountKey} {sa : ServiceAccountWithTenantStatus}
    (hclaim : liveClaim keyStore db now h = some (key, sa)) :
    verifyKey keyStore h.keyId now = .ok key ∧ verifyServiceAccount db key = .ok sa ∧
      h.saIdStr = sa.id.display := by
  unfold liveClaim at hclaim
  split at hclaim
  · cases hclaim
  · next key₀ hkey =>
    split at hclaim
    · cases hclaim
    · next sa₀ hsa =>
      split_ifs at hclaim with hid
      cases hclaim
      exact ⟨hkey, hsa, hid⟩

/-- The pipeline, cut where the key store and the database have answered. -/
theorem verifyRequest_eq (skewSecs : ℕ) (keyStore : KeyLookup) (db : AccountLookup)
    (redis : Option RedisConnection) (clock : ClockReadings) (request : Request) :
    verifyRequest P skewSecs ⟨some keyStore, some db, redis⟩ clock request =
      checkFormat P skewSecs clock request >>= fun h ↦
        match liveClaim keyStore db clock.keyExpiry.ms h with
        | none => .error authDenied
        | some (key, sa) => checkSignature P redis request h key sa := by
  unfold verifyRequest checkFormat
  simp only [bind_assoc, pure_bind, Backend.requireKeyStore, Backend.requireDb]
  refine bind_congr fun h ↦ bind_congr fun body ↦ bind_congr fun _ ↦ bind_congr fun _ ↦
    bind_congr fun _ ↦ ?_
  change (verifyKey keyStore h.keyId clock.keyExpiry.ms >>= fun key ↦
    verifyServiceAccount db key >>= fun sa ↦
      verifyClaimedId h.saIdStr sa >>= fun _ ↦ checkSignature P redis request h key sa) = _
  unfold liveClaim verifyClaimedId
  cases hkey : verifyKey keyStore h.keyId clock.keyExpiry.ms with
  | error e =>
      cases verifyKey_error hkey
      rfl
  | ok key =>
      change (verifyServiceAccount db key >>= _) = _
      cases hsa : verifyServiceAccount db key with
      | error e =>
          cases verifyServiceAccount_error hsa
          simp only [hsa]
          rfl
      | ok sa =>
          simp only [hsa]
          change ((if h.saIdStr ≠ sa.id.display then .error authDenied else .ok ()) >>= fun _ ↦
            checkSignature P redis request h key sa) = _
          by_cases hclaim : h.saIdStr = sa.id.display
          · rw [if_neg (not_not.mpr hclaim), if_pos hclaim]
            rfl
          · rw [if_pos hclaim, if_neg hclaim]
            rfl

/-! ## What the answer depends on -/

end SmartGate
