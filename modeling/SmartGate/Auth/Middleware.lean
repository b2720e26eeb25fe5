import SmartGate.Auth.Nonce
import SmartGate.Auth.Verifier

/-!
# The authentication pipeline of the data plane

`authMiddleware` takes a request through header extraction, body hash, timestamp and
nonce format, key lookup, service account lookup, signature, and last the nonce
record in Redis.  Everything but the last step only reads.  What the key store and
the database answer is given by a `Backend`, one per request, so that nothing is
assumed about what happens to them between requests.
-/

namespace SmartGate

open ExpiringStore

variable (P : Primitives)

/-! ## Headers -/

/-- `HeaderMap`: names in lower case, raw values, the first value of a name wins. -/
abbrev HeaderMap := List (String × List UInt8)

def HeaderMap.get (headers : HeaderMap) (name : String) : Option (List UInt8) :=
  (headers.find? fun h ↦ h.1 == name).map Prod.snd

/-- `HeaderValue::to_str`: visible ASCII, blanks and tabs only. -/
def headerToStr (value : List UInt8) : Option String :=
  if value.all (fun b ↦ b == 9 || (32 ≤ b && b < 127)) then
    some (String.ofList (value.map fun b ↦ Char.ofNat b.toNat))
  else none

def extractHeader (headers : HeaderMap) (name : String) : Except GatewayError String :=
  match headers.get name with
  | none => .error (.auth "missing_auth_header" s!"missing required header: {name}")
  | some value =>
      match headerToStr value with
      | none => .error (.auth "invalid_header" s!"header '{name}' contains non-ASCII characters")
      | some s => .ok s

structure AuthHeaders where
  saIdStr : String
  keyId : String
  timestamp : String
  nonce : String
  bodyHash : String
  signature : String
  deriving DecidableEq

def extractAuthHeaders (headers : HeaderMap) : Except GatewayError AuthHeaders := do
  let saIdStr ← extractHeader headers "x-service-account-id"
  let keyId ← extractHeader headers "x-key-id"
  let timestamp ← extractHeader headers "x-timestamp"
  let nonce ← extractHeader headers "x-nonce"
  let bodyHash ← extractHeader headers "x-body-sha256"
  let signature ← extractHeader headers "x-signature"
  return { saIdStr, keyId, timestamp, nonce, bodyHash, signature }

/-! ## Key and service account -/

structure ServiceAccountWithTenantStatus extends ServiceAccount where
  tenantStatus : TenantStatus
  deriving DecidableEq

/-- What one request finds behind the application state.  A component that is not
configured is absent. -/
structure Backend where
  keyStore : Option (String → Except GatewayError ServiceAccountKey)
  db : Option (ServiceAccountId → Except StorageError ServiceAccountWithTenantStatus)
  redis : Option RedisConnection

namespace Backend

def requireKeyStore (backend : Backend) :
    Except GatewayError (String → Except GatewayError ServiceAccountKey) :=
  match backend.keyStore with
  | some keyStore => .ok keyStore
  | none => .error (.config "internal_error" "key store not available")

def requireDb (backend : Backend) :
    Except GatewayError (ServiceAccountId → Except StorageError ServiceAccountWithTenantStatus) :=
  match backend.db with
  | some db => .ok db
  | none => .error (.config "internal_error" "database not available")

def requireRedis (backend : Backend) : Except GatewayError RedisConnection :=
  match backend.redis with
  | some redis => .ok redis
  | none => .error (.config "internal_error" "redis not available")

end Backend

/-- The single opaque answer to every failure that concerns a key or an account. -/
def authDenied : GatewayError := .auth "authentication_failed" "authentication denied"

def verifyKey (keyStore : String → Except GatewayError ServiceAccountKey) (keyId : String)
    (now : ℕ) : Except GatewayError ServiceAccountKey :=
  match keyStore keyId with
  | .error _ => .error authDenied
  | .ok key =>
      match key.status with
      | .revoked | .expired => .error authDenied
      | .active | .rotating =>
          if key.expiresAt.any (fun expiresAt ↦ decide (expiresAt < now)) then .error authDenied
          else .ok key

def verifyServiceAccount
    (db : ServiceAccountId → Except StorageError ServiceAccountWithTenantStatus)
    (key : ServiceAccountKey) : Except GatewayError ServiceAccountWithTenantStatus :=
  match db key.serviceAccountId with
  | .error _ => .error authDenied
  | .ok sa =>
      if sa.status ≠ .active then .error authDenied
      else if sa.tenantStatus ≠ .active then .error authDenied
      else .ok sa

def verifyClaimedId (saIdStr : String) (sa : ServiceAccountWithTenantStatus) :
    Except GatewayError Unit :=
  if saIdStr ≠ sa.id.display then .error authDenied else .ok ()

/-! ## The middleware -/

structure Request where
  method : String
  path : String
  pathAndQuery : Option String
  headers : HeaderMap
  body : Except String (List UInt8)

def readBody (request : Request) : Except GatewayError (List UInt8) :=
  match request.body with
  | .ok bytes => .ok bytes
  | .error e => .error (.auth "body_read_error" s!"failed to read body: {e}")

structure ClockReadings where
  timestamp : Instant
  keyExpiry : Instant
  nonce : Instant

def ClockReadings.at (now : Instant) : ClockReadings := ⟨now, now, now⟩

structure Verified where
  headers : AuthHeaders
  serviceAccount : ServiceAccountWithTenantStatus
  redis : RedisConnection

/-- The steps of the middleware that only read. -/
def verifyRequest (skewSecs : ℕ) (backend : Backend) (clock : ClockReadings) (request : Request) :
    Except GatewayError Verified := do
  let h ← extractAuthHeaders request.headers
  let bodyBytes ← readBody request
  verifyBodyHash P bodyBytes h.bodyHash
  validateTimestamp h.timestamp skewSecs clock.timestamp.timestamp
  validateNonceLength h.nonce
  let keyStore ← backend.requireKeyStore
  let key ← verifyKey keyStore h.keyId clock.keyExpiry.ms
  let db ← backend.requireDb
  let sa ← verifyServiceAccount db key
  verifyClaimedId h.saIdStr sa
  let publicKey ← parsePublicKey P key.publicKeyPem
  let path := request.pathAndQuery.getD request.path
  verifySignature P publicKey
    (buildCanonicalString request.method path h.timestamp h.nonce h.bodyHash) h.signature
  let redis ← backend.requireRedis
  return { headers := h, serviceAccount := sa, redis }

structure Verified.Passed (v : Verified) (skewSecs : ℕ) (backend : Backend)
    (clock : ClockReadings) (request : Request) (key : ServiceAccountKey)
    (publicKey : P.VerifyingKey) : Prop where
  extracted : extractAuthHeaders request.headers = .ok v.headers
  hashed : ∃ body, readBody request = .ok body ∧ verifyBodyHash P body v.headers.bodyHash = .ok ()
  inWindow : validateTimestamp v.headers.timestamp skewSecs clock.timestamp.timestamp = .ok ()
  nonceLength : validateNonceLength v.headers.nonce = .ok ()
  keyFound : ∃ keyStore, backend.requireKeyStore = .ok keyStore ∧
    verifyKey keyStore v.headers.keyId clock.keyExpiry.ms = .ok key
  owned : ∃ db, backend.requireDb = .ok db ∧ verifyServiceAccount db key = .ok v.serviceAccount
  claimed : verifyClaimedId v.headers.saIdStr v.serviceAccount = .ok ()
  parsed : parsePublicKey P key.publicKeyPem = .ok publicKey
  signed : verifySignature P publicKey
    (buildCanonicalString request.method (request.pathAndQuery.getD request.path)
      v.headers.timestamp v.headers.nonce v.headers.bodyHash) v.headers.signature = .ok ()
  connected : backend.requireRedis = .ok v.redis

theorem Verified.passed_of_verifyRequest {skewSecs : ℕ} {backend : Backend}
    {clock : ClockReadings} {request : Request} {v : Verified}
    (h : verifyRequest P skewSecs backend clock request = .ok v) :
    ∃ key publicKey, v.Passed P skewSecs backend clock request key publicKey := by
  obtain ⟨hd, hheaders, h⟩ := bind_eq_ok.mp h
  obtain ⟨body, hbody, h⟩ := bind_eq_ok.mp h
  obtain ⟨_, hhash, h⟩ := bind_eq_ok.mp h
  obtain ⟨_, htime, h⟩ := bind_eq_ok.mp h
  obtain ⟨_, hlen, h⟩ := bind_eq_ok.mp h
  obtain ⟨keyStore, hstore, h⟩ := bind_eq_ok.mp h
  obtain ⟨key, hkey, h⟩ := bind_eq_ok.mp h
  obtain ⟨db, hdb, h⟩ := bind_eq_ok.mp h
  obtain ⟨sa, hsa, h⟩ := bind_eq_ok.mp h
  obtain ⟨_, hclaim, h⟩ := bind_eq_ok.mp h
  obtain ⟨publicKey, hpem, h⟩ := bind_eq_ok.mp h
  obtain ⟨_, hsig, h⟩ := bind_eq_ok.mp h
  obtain ⟨redis, hredis, h⟩ := bind_eq_ok.mp h
  cases h
  exact ⟨key, publicKey, {
    extracted := hheaders
    hashed := ⟨body, hbody, hhash⟩
    inWindow := htime
    nonceLength := hlen
    keyFound := ⟨keyStore, hstore, hkey⟩
    owned := ⟨db, hdb, hsa⟩
    claimed := hclaim
    parsed := hpem
    signed := hsig
    connected := hredis }⟩

theorem Verified.Passed.verifyRequest {skewSecs : ℕ} {backend : Backend} {clock : ClockReadings}
    {request : Request} {v : Verified} {key : ServiceAccountKey} {publicKey : P.VerifyingKey}
    (h : v.Passed P skewSecs backend clock request key publicKey) :
    verifyRequest P skewSecs backend clock request = .ok v := by
  obtain ⟨body, hbody, hhash⟩ := h.hashed
  obtain ⟨keyStore, hstore, hkey⟩ := h.keyFound
  obtain ⟨db, hdb, hsa⟩ := h.owned
  refine bind_eq_ok.mpr ⟨_, h.extracted, bind_eq_ok.mpr ⟨body, hbody, ?_⟩⟩
  refine bind_eq_ok.mpr ⟨(), hhash, bind_eq_ok.mpr ⟨(), h.inWindow, ?_⟩⟩
  refine bind_eq_ok.mpr ⟨(), h.nonceLength, bind_eq_ok.mpr ⟨keyStore, hstore, ?_⟩⟩
  refine bind_eq_ok.mpr ⟨key, hkey, bind_eq_ok.mpr ⟨db, hdb, ?_⟩⟩
  refine bind_eq_ok.mpr ⟨_, hsa, bind_eq_ok.mpr ⟨(), h.claimed, ?_⟩⟩
  refine bind_eq_ok.mpr ⟨publicKey, h.parsed, bind_eq_ok.mpr ⟨(), h.signed, ?_⟩⟩
  exact bind_eq_ok.mpr ⟨_, h.connected, rfl⟩

def Verified.authContext (v : Verified) : AuthContext where
  tenantId := v.serviceAccount.tenantId
  serviceAccountId := v.serviceAccount.id
  keyId := v.headers.keyId
  serviceAccountName := v.serviceAccount.name
  environment := v.serviceAccount.environment
  defaultPolicyId := v.serviceAccount.defaultPolicyId

def authMiddleware (skewSecs : ℕ) (backend : Backend) (clock : ClockReadings)
    (store : Store String String) (request : Request) :
    Except GatewayError AuthContext × Store String String :=
  match verifyRequest P skewSecs backend clock request with
  | .error e => (.error e, store)
  | .ok v =>
      let checked := checkNonce v.redis store clock.nonce.ms v.serviceAccount.id.display
        v.headers.nonce skewSecs
      (checked.1.map fun _ ↦ v.authContext, checked.2)

def Verified.nonceKey (v : Verified) : String :=
  SmartGate.nonceKey v.serviceAccount.id.display v.headers.nonce

theorem authMiddleware_of_free {skewSecs : ℕ} {backend : Backend} {clock : ClockReadings}
    {store : Store String String} {request : Request} {v : Verified}
    (hv : verifyRequest P skewSecs backend clock request = .ok v) (hredis : v.redis = .working)
    (hfree : lookup store clock.nonce.ms v.nonceKey = none) :
    authMiddleware P skewSecs backend clock store request =
      (.ok v.authContext, (setNxEx store clock.nonce.ms v.nonceKey "1" (1000 * skewSecs)).2) := by
  simp only [authMiddleware, hv, hredis]
  rw [checkNonce_of_free skewSecs hfree]
  rfl

theorem authMiddleware_eq_ok {skewSecs : ℕ} {backend : Backend} {clock : ClockReadings}
    {store : Store String String} {request : Request} {ctx : AuthContext}
    (h : (authMiddleware P skewSecs backend clock store request).1 = .ok ctx) :
    ∃ v, verifyRequest P skewSecs backend clock request = .ok v ∧ v.redis = .working ∧
      lookup store clock.nonce.ms v.nonceKey = none ∧ ctx = v.authContext := by
  unfold authMiddleware at h
  cases hv : verifyRequest P skewSecs backend clock request with
  | error e =>
      rw [hv] at h
      cases h
  | ok v =>
      rw [hv] at h
      cases hn : (checkNonce v.redis store clock.nonce.ms v.serviceAccount.id.display
          v.headers.nonce skewSecs).1 with
      | error e =>
          simp only [hn] at h
          cases h
      | ok u =>
          simp only [hn] at h
          cases h
          obtain ⟨hredis, hfree⟩ := checkNonce_eq_ok hn
          exact ⟨v, rfl, hredis, hfree, rfl⟩

/-- A request, accepted or not, changes Redis by at most one `SET NX EX`, after it has
passed every other check. -/
theorem authMiddleware_store (skewSecs : ℕ) (backend : Backend) (clock : ClockReadings)
    (store : Store String String) (request : Request) :
    (authMiddleware P skewSecs backend clock store request).2 = store ∨
      ∃ v, verifyRequest P skewSecs backend clock request = .ok v ∧
        (authMiddleware P skewSecs backend clock store request).2 =
          (setNxEx store clock.nonce.ms v.nonceKey "1" (1000 * skewSecs)).2 := by
  unfold authMiddleware
  cases verifyRequest P skewSecs backend clock request with
  | error e => exact Or.inl rfl
  | ok v => exact (checkNonce_store _ _ _ _ _ _).imp id fun h ↦ ⟨v, rfl, h⟩

theorem authMiddleware_of_error {skewSecs : ℕ} {backend : Backend} {clock : ClockReadings}
    {request : Request} {e : GatewayError}
    (h : verifyRequest P skewSecs backend clock request = .error e) (store : Store String String) :
    authMiddleware P skewSecs backend clock store request = (.error e, store) := by
  simp only [authMiddleware, h]

/-! ## An account, its key and a request that it has signed, for concrete runs -/

def sampleAccount : ServiceAccountWithTenantStatus where
  id := ⟨⟨1⟩⟩
  tenantId := ⟨⟨2⟩⟩
  name := "batch"
  slug := "batch"
  environment := .prod
  description := none
  status := .active
  defaultPolicyId := none
  createdAt := 0
  tenantStatus := .active

/-- The sample key pair, registered for an account. -/
def sampleRecord (sa : ServiceAccountId) (keyId : String) (id : KeyId) : ServiceAccountKey where
  id := id
  serviceAccountId := sa
  keyId := keyId
  algorithm := "ed25519"
  publicKeyPem := samplePublicKeyPem
  fingerprint := "21fe31dfa154a261626bf854046fd2271b7bed4b6abe45aa58877ef47f9721b9"
  status := .active
  expiresAt := none
  createdAt := 3
  revokedAt := none
  lastUsedAt := none

/-- The signed request, presented under an account and a key identifier. -/
def sampleSignedRequest (sa : ServiceAccountId) (keyId : String) : Request where
  method := "POST"
  path := "/v1/chat/completions"
  pathAndQuery := some "/v1/chat/completions?stream=true"
  headers := [("x-service-account-id", sa.display), ("x-key-id", keyId), ("x-timestamp", "1300"),
    ("x-nonce", "0123456789abcdef"), ("x-body-sha256", sampleBodyHash),
    ("x-signature", sampleSignatureBase64)].map fun h ↦
      (h.1, h.2.toList.map fun c ↦ c.toNat.toUInt8)
  body := .ok sampleBody

/-- Five minutes before the timestamp of the sample request. -/
def sampleInstant : Instant := ⟨1000000, by decide⟩

def sampleKey : ServiceAccountKey := sampleRecord sampleAccount.id "key-1" ⟨⟨3⟩⟩

def sampleBackend : Backend :=
  ⟨some fun _ ↦ .ok sampleKey, some fun _ ↦ .ok sampleAccount, some .working⟩

end SmartGate
