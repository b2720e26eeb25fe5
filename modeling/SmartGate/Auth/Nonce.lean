import SmartGate.Lib.ExpiringStore
import SmartGate.Storage.Redis

/-!
# Timestamps and nonces

`validateTimestamp` accepts a request whose `X-Timestamp` is at most `skew` seconds
away from the server time, in either direction.  The difference of the two is computed in
64 bits, which is too narrow for the headers that name a time before the reach of an `i64`
from now.  `checkNonce` records the nonce in
Redis with `SET NX EX`, so that a second request with the same nonce fails while the
record lives.  Redis counts in milliseconds, the timestamp in whole seconds.
-/

namespace SmartGate

open ExpiringStore

/-! ## The clock -/

/-- The last second that a `chrono::DateTime<Utc>` can represent. -/
def maxTimestamp : ℕ := 8210266876799

/-- A reading of the server clock, in milliseconds since the Unix epoch. -/
structure Instant where
  ms : ℕ
  bounded : ms / 1000 ≤ maxTimestamp
  deriving DecidableEq

/-- `Utc::now().timestamp()`: the clock floored to seconds. -/
def Instant.timestamp (t : Instant) : ℤ := (t.ms / 1000 : ℕ)

/-! ## Parsing an `i64` -/

def parseDigits (cs : List Char) : Option ℕ :=
  if cs ≠ [] ∧ cs.all Char.isDigit then some (Nat.ofDigitChars 10 cs 0) else none

def parseSigned : List Char → Option ℤ
  | '-' :: cs => (parseDigits cs).map fun n ↦ -(n : ℤ)
  | '+' :: cs => (parseDigits cs).map fun n ↦ (n : ℤ)
  | cs => (parseDigits cs).map fun n ↦ (n : ℤ)

/-- `str::parse::<i64>`: an optional sign, at least one digit, and no overflow. -/
def parseI64 (s : String) : Option ℤ :=
  (parseSigned s.toList).filter fun n ↦ decide (-2 ^ 63 ≤ n ∧ n < 2 ^ 63)

theorem parseI64_bounds {s : String} {n : ℤ} (h : parseI64 s = some n) :
    -2 ^ 63 ≤ n ∧ n < 2 ^ 63 := by
  have hfilter := (Option.filter_eq_some_iff.mp h).2
  simpa using hfilter

def wrapI64 (n : ℤ) : ℤ := n.bmod (2 ^ 64)

def FitsI64 (n : ℤ) : Prop := -2 ^ 63 ≤ n ∧ n < 2 ^ 63

theorem wrapI64_of_fits {n : ℤ} (h : FitsI64 n) : wrapI64 n = n := by
  obtain ⟨hlow, hhigh⟩ := h
  rw [wrapI64, Int.bmod_def]
  split_ifs <;> omega

theorem wrapI64_of_le {n : ℤ} (hle : 2 ^ 63 ≤ n) (hlt : n < 2 ^ 64) : wrapI64 n = n - 2 ^ 64 := by
  rw [wrapI64, Int.bmod_def]
  split_ifs <;> omega

/-! ## The two checks of the request alone -/

def validateTimestamp (timestampStr : String) (skewSecs : ℕ) (now : ℤ) :
    Except GatewayError Unit :=
  match parseI64 timestampStr with
  | none => .error (.auth "invalid_timestamp" "X-Timestamp is not a valid integer")
  | some timestamp =>
      let diff := (wrapI64 (now - timestamp)).natAbs
      if skewSecs < diff then
        .error (.auth "timestamp_expired"
          s!"request timestamp is {diff}s from server time (max {skewSecs}s)")
      else .ok ()

def validateNonceLength (nonce : String) : Except GatewayError Unit :=
  let len := nonce.utf8ByteSize
  if 16 ≤ len ∧ len ≤ 64 then .ok ()
  else .error (.auth "invalid_nonce" s!"nonce must be 16-64 characters, got {len}")

theorem validateTimestamp_eq_ok {timestampStr : String} {skewSecs : ℕ} {now : ℤ} :
    validateTimestamp timestampStr skewSecs now = .ok () ↔
      ∃ timestamp, parseI64 timestampStr = some timestamp ∧
        (wrapI64 (now - timestamp)).natAbs ≤ skewSecs := by
  unfold validateTimestamp
  cases hparse : parseI64 timestampStr with
  | none =>
      constructor
      · intro h
        cases h
      · rintro ⟨_, h, _⟩
        cases h
  | some timestamp =>
      by_cases hskew : skewSecs < (wrapI64 (now - timestamp)).natAbs
      · simp [hskew]
      · simp [hskew, Nat.le_of_not_lt hskew]

/-! ## Exactness of the timestamp check -/

/-- The header names a time further in the past than an `i64` of seconds reaches. -/
def AncientTimestamp (timestampStr : String) (now : ℤ) : Prop :=
  ∃ timestamp, parseI64 timestampStr = some timestamp ∧ timestamp < now - (2 ^ 63 - 1)

/-- The check accepts what is within the skew over the integers. -/
def TimestampExact (timestampStr : String) (skewSecs : ℕ) (now : ℤ) : Prop :=
  validateTimestamp timestampStr skewSecs now = .ok () ↔
    ∃ timestamp, parseI64 timestampStr = some timestamp ∧ (now - timestamp).natAbs ≤ skewSecs

/-- The subtraction of the check, if it is reached, does not overflow. -/
def SubtractionFits (timestampStr : String) (now : ℤ) : Prop :=
  ∀ timestamp, parseI64 timestampStr = some timestamp → FitsI64 (now - timestamp)

theorem timestampExact_of_wrapI64 {timestampStr : String} {skewSecs : ℕ} {now : ℤ}
    (h : ∀ timestamp, parseI64 timestampStr = some timestamp →
      ((wrapI64 (now - timestamp)).natAbs ≤ skewSecs ↔ (now - timestamp).natAbs ≤ skewSecs)) :
    TimestampExact timestampStr skewSecs now := by
  rw [TimestampExact, validateTimestamp_eq_ok]
  exact exists_congr fun timestamp ↦ and_congr_right fun hparse ↦ h timestamp hparse

theorem SubtractionFits.timestampExact {timestampStr : String} {now : ℤ}
    (h : SubtractionFits timestampStr now) (skewSecs : ℕ) :
    TimestampExact timestampStr skewSecs now := by
  refine timestampExact_of_wrapI64 fun timestamp hparse ↦ ?_
  rw [wrapI64_of_fits (h timestamp hparse)]

theorem subtractionFits_iff {timestampStr : String} {now : ℤ} (hnow : 0 ≤ now) :
    SubtractionFits timestampStr now ↔ ¬ AncientTimestamp timestampStr now := by
  constructor
  · rintro hfits ⟨timestamp, hparse, hlt⟩
    obtain ⟨_, hhigh⟩ := hfits timestamp hparse
    omega
  · intro hrecent timestamp hparse
    have hbounds := parseI64_bounds hparse
    refine ⟨by omega, ?_⟩
    by_contra hge
    exact hrecent ⟨timestamp, hparse, by omega⟩

/-- Where the sum wraps it comes out far from zero, so that a moderate skew is still checked
exactly. -/
theorem timestampExact_of_skew {timestampStr : String} {skewSecs : ℕ} {now : ℤ} (hnow : 0 ≤ now)
    (hskew : skewSecs < 2 ^ 63 - now) : TimestampExact timestampStr skewSecs now := by
  refine timestampExact_of_wrapI64 fun timestamp hparse ↦ ?_
  obtain ⟨hlow, hhigh⟩ := parseI64_bounds hparse
  by_cases hle : 2 ^ 63 ≤ now - timestamp
  · rw [wrapI64_of_le hle (by omega)]
    exact iff_of_false (by omega) (by omega)
  · rw [wrapI64_of_fits ⟨by omega, by omega⟩]

theorem timestamp_check_exact_iff (timestampStr : String) (skewSecs : ℕ) {now : ℤ}
    (hnow : 0 ≤ now) :
    (TimestampExact timestampStr skewSecs now ∧ SubtractionFits timestampStr now) ↔
      ¬ AncientTimestamp timestampStr now := by
  rw [← subtractionFits_iff hnow]
  constructor
  · rintro ⟨_, hfits⟩
    exact hfits
  · intro hfits
    exact ⟨hfits.timestampExact skewSecs, hfits⟩

theorem timestamp_check_exact_recent :
    (TimestampExact "1700000300" 300 1700000000 ∧ SubtractionFits "1700000300" 1700000000) ↔
      ¬ AncientTimestamp "1700000300" 1700000000 :=
  timestamp_check_exact_iff "1700000300" 300 (by decide)

/-- The least `i64` overflows the subtraction, and under a skew of half the range it is
accepted although the difference is larger. -/
theorem ancient_timestamp_accepted :
    parseI64 "-9223372036854775808" = some (-2 ^ 63) ∧ ¬ FitsI64 (1700000000 - -2 ^ 63) ∧
      validateTimestamp "-9223372036854775808" (2 ^ 63) 1700000000 = .ok () ∧
      ¬ (1700000000 - -2 ^ 63 : ℤ).natAbs ≤ 2 ^ 63 := by
  have hparse : parseI64 "-9223372036854775808" = some (-2 ^ 63) := by decide +kernel
  have hwrap : wrapI64 (1700000000 - -2 ^ 63) = 1700000000 - 2 ^ 63 := by decide +kernel
  refine ⟨hparse, fun h ↦ absurd h.2 (by decide), ?_, by decide⟩
  refine validateTimestamp_eq_ok.mpr ⟨-2 ^ 63, hparse, ?_⟩
  rw [hwrap]
  decide

/-! ## The window of accepted timestamps -/

theorem timestamp_within_skew {timestampStr : String} {skewSecs : ℕ} {now : Instant}
    {timestamp : ℤ} (hok : validateTimestamp timestampStr skewSecs now.timestamp = .ok ())
    (hparse : parseI64 timestampStr = some timestamp) (hskew : skewSecs ≤ maxTimestamp) :
    (now.timestamp - timestamp).natAbs ≤ skewSecs := by
  have hnow : now.timestamp ≤ maxTimestamp := Int.ofNat_le.mpr now.bounded
  have hnonneg : 0 ≤ now.timestamp := Int.natCast_nonneg _
  unfold maxTimestamp at hskew hnow
  obtain ⟨timestamp', hparse', hdiff⟩ :=
    (timestampExact_of_skew hnonneg (by omega)).mp hok
  rwa [Option.some.inj (hparse.symm.trans hparse')]

/-- A timestamp is accepted until `skewSecs` seconds after it. -/
theorem timestamp_still_valid {timestampStr : String} {skewSecs : ℕ} {now later : Instant}
    {timestamp : ℤ} (hok : validateTimestamp timestampStr skewSecs now.timestamp = .ok ())
    (hparse : parseI64 timestampStr = some timestamp) (hnow : now.timestamp ≤ later.timestamp)
    (hlater : later.timestamp ≤ timestamp + skewSecs) :
    validateTimestamp timestampStr skewSecs later.timestamp = .ok () := by
  obtain ⟨timestamp', hparse', hdiff⟩ := validateTimestamp_eq_ok.mp hok
  rw [hparse] at hparse'
  cases hparse'
  have hbounds := parseI64_bounds hparse
  have hmax : later.timestamp ≤ maxTimestamp := Int.ofNat_le.mpr later.bounded
  have hnonneg : 0 ≤ now.timestamp := Int.natCast_nonneg _
  unfold maxTimestamp at hmax
  refine validateTimestamp_eq_ok.mpr ⟨timestamp, hparse, ?_⟩
  rw [wrapI64, Int.bmod_def] at hdiff ⊢
  split_ifs at hdiff ⊢ <;> omega

/-- An accepted timestamp of the past was accepted before, back to its own second. -/
theorem timestamp_valid_before {timestampStr : String} {skewSecs : ℕ} {now earlier : Instant}
    {timestamp : ℤ} (hok : validateTimestamp timestampStr skewSecs now.timestamp = .ok ())
    (hparse : parseI64 timestampStr = some timestamp) (hskew : skewSecs ≤ maxTimestamp)
    (hle : earlier.timestamp ≤ now.timestamp) (hearlier : timestamp ≤ earlier.timestamp) :
    validateTimestamp timestampStr skewSecs earlier.timestamp = .ok () := by
  have hage := timestamp_within_skew hok hparse hskew
  have hmax : earlier.timestamp ≤ maxTimestamp := Int.ofNat_le.mpr earlier.bounded
  have hnonneg : 0 ≤ earlier.timestamp := Int.natCast_nonneg _
  unfold maxTimestamp at hskew hmax
  refine (timestampExact_of_skew hnonneg (by omega)).mpr ⟨timestamp, hparse, ?_⟩
  omega

/-! ## The nonce record -/

/-- Record the nonce for `ttlSecs`; the request is a replay if it is recorded
already.  A Redis error rejects the request. -/
def checkNonce (redis : RedisConnection) (store : Store String String) (now : ℕ)
    (serviceAccountId nonce : String) (ttlSecs : ℕ) :
    Except GatewayError Unit × Store String String :=
  let set := setNxEx store now (nonceKey serviceAccountId nonce) "1" (1000 * ttlSecs)
  match redis with
  | .working =>
      if set.1 then (.ok (), set.2)
      else (.error (.auth "nonce_replay"
        "this nonce has already been used within the timestamp window"), set.2)
  | .failing executed =>
      (.error (.auth "nonce_check_failed" "unable to verify nonce uniqueness"),
        if executed then set.2 else store)

theorem checkNonce_store (redis : RedisConnection) (store : Store String String) (now : ℕ)
    (serviceAccountId nonce : String) (ttlSecs : ℕ) :
    (checkNonce redis store now serviceAccountId nonce ttlSecs).2 = store ∨
      (checkNonce redis store now serviceAccountId nonce ttlSecs).2 =
        (setNxEx store now (nonceKey serviceAccountId nonce) "1" (1000 * ttlSecs)).2 := by
  cases redis with
  | failing executed => cases executed <;> simp [checkNonce]
  | working =>
      right
      simp only [checkNonce]
      split_ifs <;> rfl

theorem checkNonce_of_free {store : Store String String} {now : ℕ}
    {serviceAccountId nonce : String} (ttlSecs : ℕ)
    (h : lookup store now (nonceKey serviceAccountId nonce) = none) :
    checkNonce .working store now serviceAccountId nonce ttlSecs =
      (.ok (), (setNxEx store now (nonceKey serviceAccountId nonce) "1" (1000 * ttlSecs)).2) := by
  have hset := (setNxEx_fst_iff "1" (1000 * ttlSecs)).mpr h
  simp only [checkNonce, hset, if_true]

theorem checkNonce_eq_ok {redis : RedisConnection} {store : Store String String} {now : ℕ}
    {serviceAccountId nonce : String} {ttlSecs : ℕ}
    (h : (checkNonce redis store now serviceAccountId nonce ttlSecs).1 = .ok ()) :
    redis = .working ∧ lookup store now (nonceKey serviceAccountId nonce) = none := by
  cases redis with
  | failing executed => cases h
  | working =>
      rw [← setNxEx_fst_iff "1" (1000 * ttlSecs)]
      simp only [checkNonce] at h
      split_ifs at h with hset
      · exact ⟨rfl, hset⟩

end SmartGate
