import SmartGate.Models

/-!
# The signed message and its verification

The canonical signing string, the body hash, PEM parsing and signature checking.
SHA-256, base64 and Ed25519 are external: they are parameters, collected in
`Primitives`, about which nothing is assumed here.
-/

namespace SmartGate

/-- The cryptographic and decoding primitives that the gateway imports. -/
structure Primitives where
  VerifyingKey : Type
  Signature : Type
  sha256 : List UInt8 → List UInt8
  decodeBase64 : String → Except String (List UInt8)
  verifyingKeyFromBytes : List UInt8 → Except String VerifyingKey
  verifyingKeyAsBytes : VerifyingKey → List UInt8
  signatureFromSlice : List UInt8 → Except String Signature
  verify : VerifyingKey → String → Signature → Bool

def Primitives.trusting : Primitives where
  VerifyingKey := Unit
  Signature := Unit
  sha256 _ := []
  decodeBase64 _ := .ok (List.replicate 32 0)
  verifyingKeyFromBytes _ := .ok ()
  verifyingKeyAsBytes _ := []
  signatureFromSlice _ := .ok ()
  verify _ _ _ := true

variable (P : Primitives)

/-! ## Canonical string and body hash -/

/-- `METHOD\nPATH\nTIMESTAMP\nNONCE\nBODY_SHA256` -/
def buildCanonicalString (method path timestamp nonce bodySha256 : String) : String :=
  method ++ "\n" ++ path ++ "\n" ++ timestamp ++ "\n" ++ nonce ++ "\n" ++ bodySha256

def computeBodyHash (body : List UInt8) : String :=
  String.ofList ((P.sha256 body).flatMap fun byte ↦
    [Uuid.hexDigit (byte.toNat / 16), Uuid.hexDigit (byte.toNat % 16)])

def verifyBodyHash (body : List UInt8) (expectedHash : String) : Except GatewayError Unit :=
  if computeBodyHash P body ≠ expectedHash then
    .error (.auth "body_hash_mismatch"
      "request body SHA-256 hash does not match X-Body-SHA256 header")
  else .ok ()

/-! ## Public keys -/

/-- The lines of a text.  A line feed ends a line, together with a carriage return
right before it; `cur` is the line read so far, reversed. -/
def linesFrom (cur : List Char) : List Char → List (List Char)
  | [] => if cur.isEmpty then [] else [cur.reverse]
  | '\n' :: cs =>
      (match cur with
        | '\r' :: line => line.reverse
        | line => line.reverse) :: linesFrom [] cs
  | c :: cs => linesFrom (c :: cur) cs

/-- `str::lines` -/
def lines (s : String) : List (List Char) := linesFrom [] s.toList

def pemPayload (pem : String) : String :=
  String.ofList ((lines pem).filter fun line ↦ !"-----".toList.isPrefixOf line).flatten

def parsePublicKey (pem : String) : Except GatewayError P.VerifyingKey :=
  match P.decodeBase64 (pemPayload pem) with
  | .error e => .error (.auth "invalid_key_format" s!"base64 decode failed: {e}")
  | .ok der =>
      let keyBytes :=
        if der.length = 44 then some (der.drop 12)
        else if der.length = 32 then some der
        else none
      match keyBytes with
      | none => .error (.auth "invalid_key_format"
          s!"unexpected key length: {der.length} bytes (expected 32 or 44)")
      | some keyBytes =>
          if keyBytes.length ≠ 32 then
            .error (.auth "invalid_key_format" "key bytes conversion failed")
          else match P.verifyingKeyFromBytes keyBytes with
            | .error e => .error (.auth "invalid_key_format" s!"invalid Ed25519 public key: {e}")
            | .ok key => .ok key

/-! ## Signatures -/

def verifySignature (publicKey : P.VerifyingKey) (canonical signatureB64 : String) :
    Except GatewayError Unit :=
  match P.decodeBase64 signatureB64 with
  | .error e => .error (.auth "invalid_signature" s!"signature base64 decode failed: {e}")
  | .ok sigBytes =>
      match P.signatureFromSlice sigBytes with
      | .error e => .error (.auth "invalid_signature" s!"invalid signature format: {e}")
      | .ok signature =>
          if P.verify publicKey canonical signature then .ok ()
          else .error (.auth "invalid_signature" "Ed25519 signature verification failed")

/-! ## One key pair and one signed request -/

def samplePublicKeyBase64 : String := "MCowBQYDK2VwAyEA11qYAYKxCrfVS/7TyWQHOg7hcvPapiMlrwIaaPcHURo="

/-- The SubjectPublicKeyInfo: twelve bytes of header and the key. -/
def samplePublicKeyDer : List UInt8 :=
  [48, 42, 48, 5, 6, 3, 43, 101, 112, 3, 33, 0, 215, 90, 152, 1, 130, 177, 10, 183, 213, 75, 254,
    211, 201, 100, 7, 58, 14, 225, 114, 243, 218, 166, 35, 37, 175, 2, 26, 104, 247, 7, 81, 26]

def samplePublicKeyPem : String :=
  "-----BEGIN PUBLIC KEY-----\n" ++ samplePublicKeyBase64 ++ "\n-----END PUBLIC KEY-----\n"

def sampleSignatureBase64 : String :=
  "xoywUrkCyWVWVBKD0qdD1VQGUFf6aH003VILh4Dse7+n" ++
    "sNgPXAVLqMMU0Q1zm+/VqxAHyUL4W5Dez/CtYVRFBw=="

def sampleSignature : List UInt8 :=
  [198, 140, 176, 82, 185, 2, 201, 101, 86, 84, 18, 131, 210, 167, 67, 213, 84, 6, 80, 87, 250,
    104, 125, 52, 221, 82, 11, 135, 128, 236, 123, 191, 167, 176, 216, 15, 92, 5, 75, 168, 195,
    20, 209, 13, 115, 155, 239, 213, 171, 16, 7, 201, 66, 248, 91, 144, 222, 207, 240, 173, 97,
    84, 69, 7]

/-- An empty JSON object. -/
def sampleBody : List UInt8 := [123, 125]

def sampleBodyHash : String := "44136fa355b3678a1146ad16f7e8649e94fb4fc21fe77e8310c060f61caaff8a"

def sampleCanonical : String :=
  buildCanonicalString "POST" "/v1/chat/completions?stream=true" "1300" "0123456789abcdef"
    sampleBodyHash

/-- The SHA-256 digests of the body and of the key; any other text is tagged with a zero. -/
def sampleDigest (text : List UInt8) : List UInt8 :=
  if text = sampleBody then
    [68, 19, 111, 163, 85, 179, 103, 138, 17, 70, 173, 22, 247, 232, 100, 158, 148, 251, 79, 194,
      31, 231, 126, 131, 16, 192, 96, 246, 28, 170, 255, 138]
  else if text = samplePublicKeyDer.drop 12 then
    [33, 254, 49, 223, 161, 84, 162, 97, 98, 107, 248, 84, 4, 111, 210, 39, 27, 123, 237, 75, 106,
      190, 69, 170, 88, 135, 126, 244, 127, 151, 33, 185]
  else 0 :: text

/-- The primitives as they answer for a key pair whose holder has signed one request. -/
def Primitives.sample : Primitives where
  VerifyingKey := List UInt8
  Signature := List UInt8
  sha256 := sampleDigest
  decodeBase64 text :=
    if text = samplePublicKeyBase64 then .ok samplePublicKeyDer
    else if text = sampleSignatureBase64 then .ok sampleSignature
    else .error "Invalid padding"
  verifyingKeyFromBytes bytes := .ok bytes
  verifyingKeyAsBytes key := key
  signatureFromSlice bytes :=
    if bytes.length = 64 then .ok bytes else .error "signature error"
  verify key canonical signature :=
    decide (key = samplePublicKeyDer.drop 12 ∧ canonical = sampleCanonical ∧
      signature = sampleSignature)

end SmartGate
