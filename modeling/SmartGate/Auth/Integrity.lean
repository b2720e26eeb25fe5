import SmartGate.Auth.DataPlane

/-!
# What a signature covers

The canonical string joins five fields with line feeds.  None of the fields contains a
line feed, so the string can be read back, and the hash in it stands for the body that
is handed on.  With signatures that only the holder of the private key can make, a
request that is let through is the request that the holder has signed.
-/

namespace SmartGate

open Transition

/-! ## Reading the canonical string back -/

def SingleLine (field : String) : Prop := '\n' ∉ field.toList

instance (field : String) : Decidable (SingleLine field) :=
  inferInstanceAs (Decidable ('\n' ∉ field.toList))

theorem toList_buildCanonicalString (method path timestamp nonce bodySha256 : String) :
    (buildCanonicalString method path timestamp nonce bodySha256).toList =
      ['\n'].intercalate
        ([method, path, timestamp, nonce, bodySha256].map String.toList) := by
  simp [buildCanonicalString, List.intercalate, List.intersperse]

theorem splitOn_buildCanonicalString {method path timestamp nonce bodySha256 : String}
    (h : ∀ field ∈ [method, path, timestamp, nonce, bodySha256], SingleLine field) :
    (buildCanonicalString method path timestamp nonce bodySha256).toList.splitOn '\n' =
      [method, path, timestamp, nonce, bodySha256].map String.toList := by
  rw [toList_buildCanonicalString]
  refine List.splitOn_intercalate _ (fun chars hchars ↦ ?_) (by simp)
  obtain ⟨field, hfield, rfl⟩ := List.mem_map.mp hchars
  exact h field hfield

/-! ## The hash of the body -/

theorem hexDigit_ne_newline {n : ℕ} (hn : n < 16) : Uuid.hexDigit n ≠ '\n' := by
  have hall : ∀ a : Fin 16, Uuid.hexDigit a ≠ '\n' := by decide
  exact hall ⟨n, hn⟩

/-- The two hexadecimal digits of a byte. -/
def hexByte (byte : UInt8) : List Char :=
  [Uuid.hexDigit (byte.toNat / 16), Uuid.hexDigit (byte.toNat % 16)]

theorem hexByte_injective {a b : UInt8} (h : hexByte a = hexByte b) : a = b := by
  have ha := a.toNat_lt
  have hb := b.toNat_lt
  obtain ⟨hhigh, hrest⟩ := List.cons.inj h
  have hlow := (List.cons.inj hrest).1
  have hdiv := Uuid.hexDigit_injective (by omega) (by omega) hhigh
  have hmod := Uuid.hexDigit_injective (Nat.mod_lt _ (by decide)) (Nat.mod_lt _ (by decide)) hlow
  exact UInt8.toNat_inj.mp (by omega)

theorem flatMap_hexByte_injective {xs ys : List UInt8}
    (h : xs.flatMap hexByte = ys.flatMap hexByte) : xs = ys := by
  induction xs generalizing ys with
  | nil =>
      cases ys with
      | nil => rfl
      | cons y ys => simp [hexByte] at h
  | cons x xs ih =>
      cases ys with
      | nil => simp [hexByte] at h
      | cons y ys =>
          rw [List.flatMap_cons, List.flatMap_cons] at h
          obtain ⟨hhead, htail⟩ := List.append_inj h rfl
          rw [hexByte_injective hhead, ih htail]

variable {P : Primitives}

theorem computeBodyHash_injective (hP : Function.Injective P.sha256) :
    Function.Injective (computeBodyHash P) := by
  intro body body' h
  exact hP (flatMap_hexByte_injective (String.ofList_injective h))

theorem singleLine_computeBodyHash (body : List UInt8) : SingleLine (computeBodyHash P body) := by
  intro hmem
  simp only [computeBodyHash, String.toList_ofList] at hmem
  obtain ⟨byte, _, hdigit⟩ := List.mem_flatMap.mp hmem
  have hbyte := byte.toNat_lt
  rcases List.mem_cons.mp hdigit with hhigh | hlow
  · exact hexDigit_ne_newline (by omega) hhigh.symm
  · exact hexDigit_ne_newline (Nat.mod_lt _ (by decide)) (List.mem_singleton.mp hlow).symm

theorem verifyBodyHash_eq_ok {body : List UInt8} {expectedHash : String}
    (h : verifyBodyHash P body expectedHash = .ok ()) : computeBodyHash P body = expectedHash := by
  unfold verifyBodyHash at h
  split_ifs at h with hne
  exact not_not.mp hne

/-! ## Header texts -/

theorem ofNat_ne_newline {n : ℕ} (hn : n < 256) (hten : n ≠ 10) : Char.ofNat n ≠ '\n' := by
  have hvalid : n.isValidChar := Or.inl (by omega)
  rw [Char.ofNat, dif_pos hvalid]
  intro h
  exact hten (congrArg Char.toNat h)

theorem singleLine_of_headerToStr {value : List UInt8} {text : String}
    (h : headerToStr value = some text) : SingleLine text := by
  unfold headerToStr at h
  split_ifs at h with hall
  cases h
  intro hmem
  simp only [String.toList_ofList] at hmem
  obtain ⟨b, hb, hnewline⟩ := List.mem_map.mp hmem
  refine ofNat_ne_newline b.toNat_lt (fun hten ↦ ?_) hnewline
  have hvisible := List.all_eq_true.mp hall b hb
  rw [show b = 10 from UInt8.toNat_inj.mp hten] at hvisible
  cases hvisible

theorem singleLine_of_extractHeader {headers : HeaderMap} {name text : String}
    (h : extractHeader headers name = .ok text) : SingleLine text := by
  unfold extractHeader at h
  split at h
  · cases h
  · split at h
    · cases h
    · next hvalue =>
      cases h
      exact singleLine_of_headerToStr hvalue

theorem singleLine_of_extractAuthHeaders {headers : HeaderMap} {h : AuthHeaders}
    (hok : extractAuthHeaders headers = .ok h) :
    SingleLine h.timestamp ∧ SingleLine h.nonce ∧ SingleLine h.bodyHash := by
  obtain ⟨_, _, hok⟩ := bind_eq_ok.mp hok
  obtain ⟨_, _, hok⟩ := bind_eq_ok.mp hok
  obtain ⟨_, htimestamp, hok⟩ := bind_eq_ok.mp hok
  obtain ⟨_, hnonce, hok⟩ := bind_eq_ok.mp hok
  obtain ⟨_, hbodyHash, hok⟩ := bind_eq_ok.mp hok
  obtain ⟨_, _, hok⟩ := bind_eq_ok.mp hok
  cases hok
  exact ⟨singleLine_of_extractHeader htimestamp, singleLine_of_extractHeader hnonce,
    singleLine_of_extractHeader hbodyHash⟩

/-! ## Signed requests -/

/-- A request as its author signs it. -/
structure SignedRequest where
  method : String
  path : String
  timestamp : String
  nonce : String
  body : List UInt8
  singleLine : ∀ field ∈ [method, path, timestamp, nonce], SingleLine field

def SignedRequest.canonical (P : Primitives) (m : SignedRequest) : String :=
  buildCanonicalString m.method m.path m.timestamp m.nonce (computeBodyHash P m.body)

/-- The canonical string determines the request. -/
theorem SignedRequest.canonical_injective (hP : Function.Injective P.sha256) {m m' : SignedRequest}
    (h : m.canonical P = m'.canonical P) : m = m' := by
  have hfields : ∀ m : SignedRequest, (m.canonical P).toList.splitOn '\n' =
      [m.method, m.path, m.timestamp, m.nonce, computeBodyHash P m.body].map String.toList := by
    intro m
    refine splitOn_buildCanonicalString ?_
    have hline := m.singleLine
    simp only [List.forall_mem_cons] at hline ⊢
    exact ⟨hline.1, hline.2.1, hline.2.2.1, hline.2.2.2.1, singleLine_computeBodyHash m.body,
      hline.2.2.2.2⟩
  have hlists := (hfields m).symm.trans ((congrArg (fun s ↦ s.toList.splitOn '\n') h).trans
    (hfields m'))
  have hsame := List.map_injective_iff.mpr (fun _ _ ↦ String.toList_injective) hlists
  obtain ⟨method, path, timestamp, nonce, body, _⟩ := m
  obtain ⟨method', path', timestamp', nonce', body', _⟩ := m'
  simp only [List.cons.injEq, and_true] at hsame
  obtain ⟨rfl, rfl, rfl, rfl, hhash⟩ := hsame
  cases computeBodyHash_injective hP hhash
  rfl

/-- What is assumed of the primitives: SHA-256 does not collide, and a signature is
accepted only on the canonical string of a request that the holder of the private key
has signed. -/
structure Primitives.Unforgeable (P : Primitives)
    (Signed : P.VerifyingKey → SignedRequest → Prop) : Prop where
  sha256_injective : Function.Injective P.sha256
  signed_of_verify : ∀ publicKey canonical signature,
    P.verify publicKey canonical signature = true →
      ∃ m, Signed publicKey m ∧ m.canonical P = canonical

theorem verify_of_verifySignature {publicKey : P.VerifyingKey} {canonical signatureB64 : String}
    (h : verifySignature P publicKey canonical signatureB64 = .ok ()) :
    ∃ bytes signature, P.decodeBase64 signatureB64 = .ok bytes ∧
      P.signatureFromSlice bytes = .ok signature ∧
      P.verify publicKey canonical signature = true := by
  unfold verifySignature at h
  split at h
  · cases h
  · next bytes hbytes =>
    split at h
    · cases h
    · next signature hsignature =>
      split_ifs at h with hverify
      exact ⟨bytes, signature, hbytes, hsignature, hverify⟩

/-! ## Accepted requests -/

/-- The method and the URI of a request, which the HTTP layer parses, are single lines. -/
structure Request.SingleLine (request : Request) : Prop where
  method : SmartGate.SingleLine request.method
  path : SmartGate.SingleLine (request.pathAndQuery.getD request.path)

/-- The request that the middleware hands on: the parts it was taken apart into, with the
bytes that were hashed as its body. -/
def forwarded (request : Request) : Except GatewayError Request := do
  let bodyBytes ← readBody request
  return { request with body := .ok bodyBytes }

/-- The request with headers `h` that is handed on is the signed one. -/
structure SignedRequest.Covers (m : SignedRequest) (request : Request) (h : AuthHeaders) :
    Prop where
  method : m.method = request.method
  path : m.path = request.pathAndQuery.getD request.path
  timestamp : m.timestamp = h.timestamp
  nonce : m.nonce = h.nonce
  body : forwarded request = .ok { request with body := .ok m.body }

theorem Verified.Passed.signedRequest {Signed : P.VerifyingKey → SignedRequest → Prop}
    (hP : P.Unforgeable Signed) {v : Verified} {skewSecs : ℕ} {backend : Backend}
    {clock : ClockReadings} {request : Request} {key : ServiceAccountKey}
    {publicKey : P.VerifyingKey} (hline : request.SingleLine)
    (h : v.Passed P skewSecs backend clock request key publicKey) :
    ∃ m, Signed publicKey m ∧ m.Covers request v.headers := by
  obtain ⟨body, hbody, hhash⟩ := h.hashed
  obtain ⟨_, signature, _, _, hverify⟩ := verify_of_verifySignature h.signed
  obtain ⟨htimestamp, hnonce, _⟩ := singleLine_of_extractAuthHeaders h.extracted
  have hfields : ∀ field ∈ [request.method, request.pathAndQuery.getD request.path,
      v.headers.timestamp, v.headers.nonce], SingleLine field := by
    simp only [List.forall_mem_cons, List.not_mem_nil, false_imp_iff, implies_true, and_true]
    exact ⟨hline.method, hline.path, htimestamp, hnonce⟩
  let sent : SignedRequest := ⟨request.method, request.pathAndQuery.getD request.path,
    v.headers.timestamp, v.headers.nonce, body, hfields⟩
  obtain ⟨m, hsigned, hcanonical⟩ := hP.signed_of_verify _ _ _ hverify
  have hsent : sent.canonical P = m.canonical P := by
    rw [hcanonical, ← verifyBodyHash_eq_ok hhash]
    rfl
  cases SignedRequest.canonical_injective hP.sha256_injective hsent
  refine ⟨sent, hsigned, rfl, rfl, rfl, rfl, ?_⟩
  rw [forwarded, hbody]
  rfl

/-- A request that is let through was signed, exactly as it is handed on, by the holder of
the private key to the public key that is stored under the request's key identifier. -/
theorem accepted_request_signed {skewSecs : ℕ} {Signed : P.VerifyingKey → SignedRequest → Prop}
    (hP : P.Unforgeable Signed) {app : AppState} {nonces : ExpiringStore.Store String String}
    {ops : List PlaneOp} {s : PlaneState}
    (hrun : run (planeStep P skewSecs) (.start app nonces) ops = some s) {r : DataRequest}
    (hline : r.request.SingleLine) {ctx : AuthContext}
    (hok : (s.authenticate P skewSecs r).1 = .ok ctx) :
    ∃ h db key publicKey m, extractAuthHeaders r.request.headers = .ok h ∧ s.app.db = some db ∧
      db.keys.get h.keyId = some key ∧ parsePublicKey P key.publicKeyPem = .ok publicKey ∧
      Signed publicKey m ∧ m.Covers r.request h := by
  have hrecorded : s.Recorded := run_preserves
    (fun _ _ _ hs hstep ↦ PlaneState.Recorded.step hs hstep) hrun
    (PlaneState.recorded_start app nonces)
  obtain ⟨v, key, publicKey, db, hpassed, rfl, hdb, hmem, hkeyId, _⟩ :=
    PlaneState.authenticate_eq_ok hok
  obtain ⟨row, hrow, hsame⟩ := hrecorded key hmem
  rw [AppState.keyRows_eq hdb] at hrow
  have hget : db.keys.get v.headers.keyId = some row :=
    Table.get_eq_some.mpr ⟨hrow, hsame.keyId.trans hkeyId⟩
  have hparsed : parsePublicKey P row.publicKeyPem = .ok publicKey := by
    rw [hsame.publicKeyPem]
    exact hpassed.parsed
  obtain ⟨m, hsigned, hcovers⟩ := hpassed.signedRequest hP hline
  exact ⟨v.headers, db, row, publicKey, m, hpassed.extracted, hdb, hget, hparsed, hsigned, hcovers⟩

/-! ## The sample request -/

def sampleSigned (publicKey : List UInt8) (m : SignedRequest) : Prop :=
  publicKey = samplePublicKeyDer.drop 12 ∧ m.method = "POST" ∧
    m.path = "/v1/chat/completions?stream=true" ∧ m.timestamp = "1300" ∧
    m.nonce = "0123456789abcdef" ∧ m.body = sampleBody

theorem sampleDigest_injective : Function.Injective sampleDigest := by
  intro text text' h
  unfold sampleDigest at h
  split_ifs at h <;> simp_all

theorem unforgeable_sample : Primitives.sample.Unforgeable sampleSigned where
  sha256_injective := sampleDigest_injective
  signed_of_verify := by
    intro (publicKey : List UInt8) canonical (signature : List UInt8) h
    have hsample : decide (publicKey = samplePublicKeyDer.drop 12 ∧ canonical = sampleCanonical ∧
      signature = sampleSignature) = true := h
    obtain ⟨rfl, rfl, _⟩ := of_decide_eq_true hsample
    refine ⟨⟨"POST", "/v1/chat/completions?stream=true", "1300", "0123456789abcdef", sampleBody,
      by decide⟩, ⟨rfl, rfl, rfl, rfl, rfl, rfl⟩, ?_⟩
    decide +kernel

theorem accepted_request_signed_sample :
    ∃ s ctx, run (planeStep .sample 300) (.start .initial ExpiringStore.empty)
        (sampleAccounts ++ [registerSampleKey ⟨⟨2⟩⟩ "key-1" ⟨⟨4⟩⟩]) = some s ∧
      (s.authenticate .sample 300
        (sampleDataRequest ⟨⟨2⟩⟩ "key-1" ⟨⟨4⟩⟩ sampleInstant)).1 = .ok ctx ∧
      ∃ h db key publicKey m, extractAuthHeaders (sampleSignedRequest ⟨⟨2⟩⟩ "key-1").headers =
        .ok h ∧ s.app.db = some db ∧ db.keys.get h.keyId = some key ∧
        parsePublicKey .sample key.publicKeyPem = .ok publicKey ∧ sampleSigned publicKey m ∧
        m.Covers (sampleSignedRequest ⟨⟨2⟩⟩ "key-1") h := by
  have heval : ((run (planeStep .sample 300) (.start .initial ExpiringStore.empty)
      (sampleAccounts ++ [registerSampleKey ⟨⟨2⟩⟩ "key-1" ⟨⟨4⟩⟩])).bind fun s ↦
      (s.authenticate .sample 300
        (sampleDataRequest ⟨⟨2⟩⟩ "key-1" ⟨⟨4⟩⟩ sampleInstant)).1.toOption).map
          AuthContext.serviceAccountId = some ⟨⟨2⟩⟩ := by
    decide +kernel
  obtain ⟨ctx, heval, _⟩ := Option.map_eq_some_iff.mp heval
  obtain ⟨s, hrun, heval⟩ := Option.bind_eq_some_iff.mp heval
  have hok := eq_ok_of_toOption heval
  exact ⟨s, ctx, hrun, hok, accepted_request_signed unforgeable_sample hrun
    ⟨by decide, by decide⟩ hok⟩

end SmartGate
