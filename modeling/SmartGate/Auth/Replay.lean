import SmartGate.Auth.Middleware
import SmartGate.Lib.Transition

/-!
# Replay of signed requests

A request reads the clock when its timestamp is checked, awaits its key and its account, and
then records its nonce.  Requests meet in the `SET NX EX` of their nonces, so a run is ordered
by these instants, and they do not decrease; how long a request takes to get there is left
open.  The nonce of an accepted request is recorded for `skew` seconds from there, whereas its
timestamp passes the check until `skew` seconds after the timestamp.  The record outlives the
timestamp exactly for requests that are dated in the past when their nonce is recorded, and not
further than `skew`.
-/

namespace SmartGate

open ExpiringStore Transition

variable (P : Primitives)

/-- A request with the readings of the clock that it makes, one after the other. -/
structure Presented where
  backend : Backend
  clock : ClockReadings
  request : Request
  ordered : clock.timestamp.ms ≤ clock.keyExpiry.ms ∧ clock.keyExpiry.ms ≤ clock.nonce.ms

/-- What identifies a signed message: the account, the nonce and `X-Timestamp`. -/
structure Accepted where
  serviceAccountId : ServiceAccountId
  nonce : String
  timestamp : String
  deriving DecidableEq

/-- Redis, the server clock, and the requests accepted so far, the latest first. -/
structure ReplayState where
  store : Store String String
  clock : ℕ
  accepted : List Accepted

def acceptedOf (request : Request) (result : Except GatewayError AuthContext) : Option Accepted :=
  match result, extractAuthHeaders request.headers with
  | .ok ctx, .ok h => some ⟨ctx.serviceAccountId, h.nonce, h.timestamp⟩
  | _, _ => none

/-- Present one request; its nonce is not recorded before those of its predecessors. -/
def present (skewSecs : ℕ) (s : ReplayState) (p : Presented) : Option ReplayState :=
  if p.clock.nonce.ms < s.clock then none
  else
    let answer := authMiddleware P skewSecs p.backend p.clock s.store p.request
    some {
      store := answer.2
      clock := p.clock.nonce.ms
      accepted := (acceptedOf p.request answer.1).toList ++ s.accepted }

def Verified.accepted (v : Verified) : Accepted :=
  ⟨v.serviceAccount.id, v.headers.nonce, v.headers.timestamp⟩

def Accepted.key (a : Accepted) : String := nonceKey a.serviceAccountId.display a.nonce

/-- A request is either turned away, with at most one record set on the way, or it
passes every check, finds its nonce free and is recorded. -/
theorem present_cases {skewSecs : ℕ} {s t : ReplayState} {p : Presented}
    (h : present P skewSecs s p = some t) :
    (t.accepted = s.accepted ∧ (t.store = s.store ∨
      ∃ key, t.store = (setNxEx s.store p.clock.nonce.ms key "1" (1000 * skewSecs)).2)) ∨
    ∃ v key publicKey, Verified.Passed P v skewSecs p.backend p.clock p.request key publicKey ∧
      lookup s.store p.clock.nonce.ms v.accepted.key = none ∧
      t.store = (setNxEx s.store p.clock.nonce.ms v.accepted.key "1" (1000 * skewSecs)).2 ∧
      t.accepted = v.accepted :: s.accepted := by
  unfold present at h
  split_ifs at h with hclock
  cases h
  cases hres : (authMiddleware P skewSecs p.backend p.clock s.store p.request).1 with
  | error e =>
      refine Or.inl ⟨by simp [acceptedOf], ?_⟩
      refine (authMiddleware_store P skewSecs p.backend p.clock s.store p.request).imp id ?_
      rintro ⟨v, _, hset⟩
      exact ⟨v.nonceKey, hset⟩
  | ok ctx =>
      obtain ⟨v, hv, hredis, hfree, _⟩ := authMiddleware_eq_ok P hres
      obtain ⟨key, publicKey, hpassed⟩ := Verified.passed_of_verifyRequest P hv
      refine Or.inr ⟨v, key, publicKey, hpassed, hfree, ?_⟩
      rw [authMiddleware_of_free P hv hredis hfree] at hres ⊢
      cases hres
      refine ⟨rfl, ?_⟩
      simp [acceptedOf, hpassed.extracted, Verified.accepted, Verified.authContext]

/-! ## A concrete gateway -/

def ReplayState.initial : ReplayState := ⟨empty, 0, []⟩

/-- The sample request, whose timestamp is checked at `start` and whose nonce is recorded after
another `delay`. -/
def samplePresented (start : Instant) (delay : ℕ)
    (h : (start.ms + delay) / 1000 ≤ maxTimestamp) : Presented where
  backend := sampleBackend
  clock := ⟨start, start, ⟨start.ms + delay, h⟩⟩
  request := sampleSignedRequest sampleAccount.id "key-1"
  ordered := ⟨le_rfl, Nat.le_add_right _ _⟩

theorem accepted_of_run {skewSecs : ℕ} {ps : List Presented} {as : List Accepted}
    (h : (run (present P skewSecs) .initial ps).map ReplayState.accepted = some as) :
    ∃ u, run (present P skewSecs) .initial ps = some u ∧ u.accepted = as :=
  Option.map_eq_some_iff.mp h

/-! ## Requests dated in the past -/

/-- If the request passes the check of its timestamp, then its nonce is recorded in a second
after `X-Timestamp`, and at most `skewSecs` after it. -/
def Presented.PastDated (skewSecs : ℕ) (p : Presented) : Prop :=
  ∀ h timestamp, extractAuthHeaders p.request.headers = .ok h →
    parseI64 h.timestamp = some timestamp →
    validateTimestamp h.timestamp skewSecs p.clock.timestamp.timestamp = .ok () →
    timestamp < p.clock.nonce.timestamp ∧ p.clock.nonce.timestamp ≤ timestamp + skewSecs

/-- Where no second passes between the two, the check leaves only the past to ask for. -/
theorem pastDated_of_same_second {skewSecs : ℕ} {p : Presented} (hskew : skewSecs ≤ maxTimestamp)
    (hsame : p.clock.nonce.timestamp = p.clock.timestamp.timestamp)
    (hpast : ∀ h timestamp, extractAuthHeaders p.request.headers = .ok h →
      parseI64 h.timestamp = some timestamp → timestamp < p.clock.timestamp.timestamp) :
    p.PastDated skewSecs := by
  intro h timestamp hheaders hparse hok
  have hage := timestamp_within_skew hok hparse hskew
  have hlt := hpast h timestamp hheaders hparse
  rw [hsame]
  exact ⟨hlt, by omega⟩

/-- The nonce of an accepted request is recorded for as long as its timestamp can
still be accepted. -/
def ReplayState.Covers (skewSecs : ℕ) (s : ReplayState) (a : Accepted) : Prop :=
  ∃ timestamp d, parseI64 a.timestamp = some timestamp ∧ HeldUntil s.store a.key d ∧
    1000 * (timestamp + skewSecs + 1) ≤ d

structure ReplayState.Safe (skewSecs : ℕ) (s : ReplayState) : Prop where
  nodup : s.accepted.Nodup
  covered : ∀ a ∈ s.accepted, s.Covers skewSecs a

theorem ReplayState.Covers.setNxEx {skewSecs : ℕ} {s t : ReplayState} {a : Accepted}
    (h : s.Covers skewSecs a) {now : ℕ} {key : String} {ttl : ℕ}
    (ht : t.store = (setNxEx s.store now key "1" ttl).2) : t.Covers skewSecs a := by
  obtain ⟨timestamp, d, hparse, hheld, hd⟩ := h
  refine ⟨timestamp, d, hparse, ?_, hd⟩
  rw [ht]
  exact hheld.setNxEx now key "1" ttl

section PastDated

variable {skewSecs : ℕ} {s t : ReplayState} {p : Presented} {v : Verified}
  {key : ServiceAccountKey} {publicKey : P.VerifyingKey}

theorem Presented.PastDated.timestamp (hpast : p.PastDated skewSecs)
    (hpassed : Verified.Passed P v skewSecs p.backend p.clock p.request key publicKey) :
    ∃ timestamp, parseI64 v.accepted.timestamp = some timestamp ∧
      timestamp < p.clock.nonce.timestamp ∧ p.clock.nonce.timestamp ≤ timestamp + skewSecs := by
  obtain ⟨timestamp, hparse, _⟩ := validateTimestamp_eq_ok.mp hpassed.inWindow
  exact ⟨timestamp, hparse, hpast _ _ hpassed.extracted hparse hpassed.inWindow⟩

/-- While the nonce record of an accepted request is still due, its message does not come
through again. -/
theorem ReplayState.Covers.not_free (h : s.Covers skewSecs v.accepted)
    (hpast : p.PastDated skewSecs)
    (hpassed : Verified.Passed P v skewSecs p.backend p.clock p.request key publicKey) :
    lookup s.store p.clock.nonce.ms v.accepted.key ≠ none := by
  obtain ⟨timestamp, d, hparse, hheld, hd⟩ := h
  obtain ⟨timestamp', hparse', _, hle⟩ := hpast.timestamp P hpassed
  cases hparse.symm.trans hparse'
  have hnow : p.clock.nonce.timestamp = (p.clock.nonce.ms / 1000 : ℕ) := rfl
  exact hheld.lookup_ne_none (by omega)

theorem covers_of_accepted (hpast : p.PastDated skewSecs)
    (hpassed : Verified.Passed P v skewSecs p.backend p.clock p.request key publicKey)
    (hfree : lookup s.store p.clock.nonce.ms v.accepted.key = none)
    (ht : t.store = (setNxEx s.store p.clock.nonce.ms v.accepted.key "1" (1000 * skewSecs)).2) :
    t.Covers skewSecs v.accepted := by
  obtain ⟨timestamp, hparse, hlt, _⟩ := hpast.timestamp P hpassed
  have hnow : p.clock.nonce.timestamp = (p.clock.nonce.ms / 1000 : ℕ) := rfl
  refine ⟨timestamp, p.clock.nonce.ms + 1000 * skewSecs, hparse, ?_, by omega⟩
  rw [ht]
  exact heldUntil_setNxEx "1" _ hfree

end PastDated

theorem ReplayState.Safe.step {skewSecs : ℕ} (s : ReplayState) (p : Presented) (t : ReplayState)
    (hs : s.Safe skewSecs) (hpast : p.PastDated skewSecs)
    (hstep : present P skewSecs s p = some t) : t.Safe skewSecs := by
  rcases present_cases P hstep with ⟨hacc, hstore⟩ |
    ⟨v, key, publicKey, hpassed, hfree, hstore, hacc⟩
  · refine ⟨hacc ▸ hs.nodup, fun a ha ↦ ?_⟩
    have hcov := hs.covered a (hacc ▸ ha)
    rcases hstore with hsame | ⟨k, hset⟩
    · obtain ⟨timestamp, d, hparse, hheld, hd⟩ := hcov
      exact ⟨timestamp, d, hparse, hsame ▸ hheld, hd⟩
    · exact hcov.setNxEx hset
  · have hnew : v.accepted ∉ s.accepted := fun hmem ↦
      (hs.covered _ hmem).not_free P hpast hpassed hfree
    refine ⟨hacc ▸ List.nodup_cons.mpr ⟨hnew, hs.nodup⟩, fun a ha ↦ ?_⟩
    rw [hacc] at ha
    rcases List.mem_cons.mp ha with rfl | hold
    · exact covers_of_accepted P hpast hpassed hfree hstore
    · exact (hs.covered a hold).setNxEx hstore

/-- Requests that are all dated in the past when their nonces are recorded are accepted at
most once each, in every run that starts with any contents of Redis. -/
theorem no_replay_of_pastDated (skewSecs : ℕ) {s u : ReplayState} {ps : List Presented}
    (hs : s.accepted = []) (hrun : run (present P skewSecs) s ps = some u)
    (hpast : ∀ p ∈ ps, p.PastDated skewSecs) : u.accepted.Nodup := by
  have hinit : s.Safe skewSecs := ⟨by simp [hs], by simp [hs]⟩
  exact (run_invariant (fun s p t ↦ ReplayState.Safe.step P s p t) (guarded_of_forall s hpast)
    hrun hinit).nodup

/-- The sample request is presented after its timestamp, first with a delay of two seconds on
its way to Redis, and is accepted once. -/
theorem no_replay_of_pastDated_sample :
    ∃ u, run (present .sample 300) .initial
        [samplePresented ⟨1400000, by decide⟩ 2000 (by decide),
          samplePresented ⟨1500000, by decide⟩ 0 (by decide)] = some u ∧ u.accepted.length = 1 ∧
      u.accepted.Nodup := by
  have hrun : (run (present .sample 300) .initial
      [samplePresented ⟨1400000, by decide⟩ 2000 (by decide),
        samplePresented ⟨1500000, by decide⟩ 0 (by decide)]).map ReplayState.accepted =
      some [⟨⟨⟨1⟩⟩, "0123456789abcdef", "1300"⟩] := by
    decide +kernel
  obtain ⟨u, hu, hacc⟩ := accepted_of_run _ hrun
  refine ⟨u, hu, by rw [hacc]; rfl, no_replay_of_pastDated .sample 300 rfl hu ?_⟩
  have hpast : ∀ start delay hbound, 1300 < (start.ms + delay) / 1000 →
      (start.ms + delay) / 1000 ≤ 1600 → (samplePresented start delay hbound).PastDated 300 := by
    intro start delay hbound hlow hhigh h timestamp hheaders hparse _
    have hextract : (extractAuthHeaders (sampleSignedRequest sampleAccount.id "key-1").headers).map
        AuthHeaders.timestamp = .ok "1300" := by
      decide +kernel
    obtain ⟨h', hh', htimestamp⟩ := map_eq_ok.mp hextract
    cases hh'.symm.trans hheaders
    have hvalue : parseI64 "1300" = some 1300 := by decide +kernel
    rw [htimestamp, hvalue] at hparse
    cases hparse
    exact ⟨Int.ofNat_lt.mpr hlow, Int.ofNat_le.mpr hhigh⟩
  intro p hp
  rcases List.mem_cons.mp hp with rfl | hp
  · exact hpast _ _ _ (by decide) (by decide)
  · rw [List.mem_singleton.mp hp]
    exact hpast _ _ _ (by decide) (by decide)

/-- With a skew of 300 seconds, a request dated 300 seconds ahead of the clock is
accepted, and accepted again 300 seconds later when its nonce has expired. -/
theorem future_dated_request_replayed :
    ∃ u, run (present .sample 300) .initial
        [samplePresented ⟨1000000, by decide⟩ 0 (by decide),
          samplePresented ⟨1300000, by decide⟩ 0 (by decide)] = some u ∧ ¬u.accepted.Nodup := by
  have hrun : (run (present .sample 300) .initial
      [samplePresented ⟨1000000, by decide⟩ 0 (by decide),
        samplePresented ⟨1300000, by decide⟩ 0 (by decide)]).map ReplayState.accepted =
      some [⟨⟨⟨1⟩⟩, "0123456789abcdef", "1300"⟩, ⟨⟨⟨1⟩⟩, "0123456789abcdef", "1300"⟩] := by
    decide +kernel
  obtain ⟨u, hu, hacc⟩ := accepted_of_run _ hrun
  exact ⟨u, hu, by simp [hacc]⟩

/-! ## Requests dated otherwise -/

section Replayed

variable {skewSecs : ℕ} {s : ReplayState} {p q : Presented} {v : Verified}
  {key : ServiceAccountKey} {publicKey : P.VerifyingKey}

theorem present_of_free
    (hpassed : Verified.Passed P v skewSecs p.backend p.clock p.request key publicKey)
    (hredis : v.redis = .working) (hclock : s.clock ≤ p.clock.nonce.ms)
    (hfree : lookup s.store p.clock.nonce.ms v.nonceKey = none) :
    present P skewSecs s p = some {
      store := (setNxEx s.store p.clock.nonce.ms v.nonceKey "1" (1000 * skewSecs)).2
      clock := p.clock.nonce.ms
      accepted := v.accepted :: s.accepted } := by
  have hanswer := authMiddleware_of_free P hpassed.verifyRequest hredis hfree
  simp only [present, if_neg (Nat.not_lt.mpr hclock), hanswer, acceptedOf, hpassed.extracted]
  rfl

/-- A message that passes the checks twice, and whose nonce record runs out in between, is
accepted twice. -/
theorem replayed_of_passed
    (hp : Verified.Passed P v skewSecs p.backend p.clock p.request key publicKey)
    (hq : Verified.Passed P v skewSecs q.backend q.clock q.request key publicKey)
    (hredis : v.redis = .working)
    (hle : p.clock.nonce.ms + 1000 * skewSecs ≤ q.clock.nonce.ms) :
    ∃ u, run (present P skewSecs) .initial [p, q] = some u ∧ ¬u.accepted.Nodup := by
  have hfirst := present_of_free P hp hredis (Nat.zero_le _) (s := .initial) rfl
  have hfree := lookup_setNxEx_expired (s := empty) "1" (k := v.nonceKey) rfl hle
  have hsecond := present_of_free P hq hredis ((Nat.le_add_right _ _).trans hle)
    (s := ⟨_, p.clock.nonce.ms, [v.accepted]⟩) hfree
  have hrun := run_cons_eq_some.mpr ⟨_, hfirst, run_cons_eq_some.mpr ⟨_, hsecond, run_nil _⟩⟩
  exact ⟨_, hrun, by simp⟩

theorem verifyKey_of_le {keyStore : String → Except GatewayError ServiceAccountKey}
    {keyId : String} {now earlier : ℕ} (h : verifyKey keyStore keyId now = .ok key)
    (hle : earlier ≤ now) : verifyKey keyStore keyId earlier = .ok key := by
  have hexpires : ∀ expiresAt : Option ℕ,
      expiresAt.any (fun expiresAt ↦ decide (expiresAt < earlier)) = true →
        expiresAt.any (fun expiresAt ↦ decide (expiresAt < now)) = true := by
    simp only [Option.any_eq_true, decide_eq_true_eq]
    rintro _ ⟨expiresAt, hmem, hlt⟩
    exact ⟨expiresAt, hmem, hlt.trans_le hle⟩
  unfold verifyKey at h ⊢
  cases hfound : keyStore keyId with
  | error e => simp [hfound] at h
  | ok found =>
      simp only [hfound] at h ⊢
      cases hstatus : found.status with
      | revoked | expired => simp [hstatus] at h
      | active | rotating =>
          simp only [hstatus] at h ⊢
          split_ifs at h with hnow
          rw [if_neg (mt (hexpires _) hnow), h]

/-- A request whose timestamp is not past when its nonce is recorded passes again at the
instant at which the record runs out. -/
theorem replayed_later {timestamp : ℤ} {later : Instant}
    (hpassed : Verified.Passed P v skewSecs p.backend p.clock p.request key publicKey)
    (hredis : v.redis = .working) (hparse : parseI64 v.headers.timestamp = some timestamp)
    (hfuture : p.clock.nonce.timestamp ≤ timestamp)
    (hlater : later.ms = p.clock.nonce.ms + 1000 * skewSecs)
    (hexpiry : ∀ keyStore, p.backend.requireKeyStore = .ok keyStore →
      verifyKey keyStore v.headers.keyId p.clock.keyExpiry.ms = .ok key →
        verifyKey keyStore v.headers.keyId later.ms = .ok key) :
    ∃ q u, q.request = p.request ∧ ¬u.accepted.Nodup ∧
      run (present P skewSecs) .initial [p, q] = some u := by
  obtain ⟨keyStore, hstore, hkey⟩ := hpassed.keyFound
  have hwindow : validateTimestamp v.headers.timestamp skewSecs later.timestamp = .ok () := by
    have hordered := p.ordered
    have hcheck : p.clock.timestamp.timestamp = (p.clock.timestamp.ms / 1000 : ℕ) := rfl
    have hnonce : p.clock.nonce.timestamp = (p.clock.nonce.ms / 1000 : ℕ) := rfl
    have hnow : later.timestamp = (later.ms / 1000 : ℕ) := rfl
    exact timestamp_still_valid hpassed.inWindow hparse (by omega) (by omega)
  have hagain : Verified.Passed P v skewSecs p.backend (.at later) p.request key publicKey :=
    { hpassed with
      inWindow := hwindow
      keyFound := ⟨keyStore, hstore, hexpiry keyStore hstore hkey⟩ }
  let again : Presented := ⟨p.backend, .at later, p.request, le_rfl, le_rfl⟩
  obtain ⟨u, hrun, htwice⟩ := replayed_of_passed P (q := again) hpassed hagain hredis hlater.ge
  exact ⟨again, u, rfl, htwice, hrun⟩

/-- A request whose nonce is recorded when its timestamp has run out could have been accepted
so long before that its record has run out too. -/
theorem replayed_earlier {timestamp : ℤ}
    (hpassed : Verified.Passed P v skewSecs p.backend p.clock p.request key publicKey)
    (hredis : v.redis = .working) (hparse : parseI64 v.headers.timestamp = some timestamp)
    (hlate : timestamp + skewSecs < p.clock.nonce.timestamp)
    (hepoch : 1000 * skewSecs ≤ p.clock.nonce.ms) :
    ∃ q u, q.request = p.request ∧ ¬u.accepted.Nodup ∧
      run (present P skewSecs) .initial [q, p] = some u := by
  obtain ⟨keyStore, hstore, hkey⟩ := hpassed.keyFound
  have hbound := p.clock.nonce.bounded
  let before (t : Instant) : Instant :=
    ⟨min t.ms (p.clock.nonce.ms - 1000 * skewSecs), by have := t.bounded; omega⟩
  have hwindow : validateTimestamp v.headers.timestamp skewSecs
      (before p.clock.timestamp).timestamp = .ok () := by
    have hcheck : p.clock.timestamp.timestamp = (p.clock.timestamp.ms / 1000 : ℕ) := rfl
    have hnonce : p.clock.nonce.timestamp = (p.clock.nonce.ms / 1000 : ℕ) := rfl
    have hnow : (before p.clock.timestamp).timestamp =
        (min p.clock.timestamp.ms (p.clock.nonce.ms - 1000 * skewSecs) / 1000 : ℕ) := rfl
    rcases le_total p.clock.timestamp.ms (p.clock.nonce.ms - 1000 * skewSecs) with hle | hle
    · rw [hnow, min_eq_left hle]
      exact hpassed.inWindow
    · rw [min_eq_right hle] at hnow
      exact timestamp_valid_before hpassed.inWindow hparse (by omega) (by omega) (by omega)
  have hbefore : Verified.Passed P v skewSecs p.backend
      ⟨before p.clock.timestamp, before p.clock.keyExpiry, before p.clock.nonce⟩ p.request key
        publicKey :=
    { hpassed with
      inWindow := hwindow
      keyFound := ⟨keyStore, hstore, verifyKey_of_le hkey (min_le_left _ _)⟩ }
  let first : Presented :=
    ⟨p.backend, ⟨before p.clock.timestamp, before p.clock.keyExpiry, before p.clock.nonce⟩,
      p.request, min_le_min_right _ p.ordered.1, min_le_min_right _ p.ordered.2⟩
  have hle : first.clock.nonce.ms + 1000 * skewSecs ≤ p.clock.nonce.ms := by
    change min _ _ + _ ≤ _
    omega
  obtain ⟨u, hrun, htwice⟩ := replayed_of_passed P (p := first) hbefore hpassed hredis hle
  exact ⟨first, u, rfl, htwice, hrun⟩

/-- The condition is sharp.  For every request that is accepted although it does not meet it
there is a second presentation, later or earlier, such that both are accepted; a later one
needs the key not to expire meanwhile, and an earlier one a clock that is `skew` seconds past
its origin. -/
theorem replay_of_not_pastDated {ctx : AuthContext} {later : Instant}
    (hctx : (authMiddleware P skewSecs p.backend p.clock empty p.request).1 = .ok ctx)
    (hnot : ¬p.PastDated skewSecs) (hepoch : 1000 * skewSecs ≤ p.clock.nonce.ms)
    (hlater : later.ms = p.clock.nonce.ms + 1000 * skewSecs)
    (hexpiry : ∀ keyStore keyId key, p.backend.requireKeyStore = .ok keyStore →
      verifyKey keyStore keyId p.clock.keyExpiry.ms = .ok key →
        verifyKey keyStore keyId later.ms = .ok key) :
    ∃ q u, q.request = p.request ∧ ¬u.accepted.Nodup ∧
      (run (present P skewSecs) .initial [p, q] = some u ∨
        run (present P skewSecs) .initial [q, p] = some u) := by
  obtain ⟨v, hv, hredis, _⟩ := authMiddleware_eq_ok P hctx
  obtain ⟨key, publicKey, hpassed⟩ := Verified.passed_of_verifyRequest P hv
  obtain ⟨timestamp, hparse, _⟩ := validateTimestamp_eq_ok.mp hpassed.inWindow
  have hmiss : p.clock.nonce.timestamp ≤ timestamp ∨
      timestamp + skewSecs < p.clock.nonce.timestamp := by
    by_contra hmeets
    refine hnot fun h timestamp' hheaders hparse' _ ↦ ?_
    cases hpassed.extracted.symm.trans hheaders
    cases hparse.symm.trans hparse'
    omega
  rcases hmiss with hfuture | hlate
  · obtain ⟨q, u, hsame, htwice, hrun⟩ := replayed_later P hpassed hredis hparse hfuture hlater
      fun keyStore hstore ↦ hexpiry keyStore _ key hstore
    exact ⟨q, u, hsame, htwice, Or.inl hrun⟩
  · obtain ⟨q, u, hsame, htwice, hrun⟩ := replayed_earlier P hpassed hredis hparse hlate hepoch
    exact ⟨q, u, hsame, htwice, Or.inr hrun⟩

end Replayed

end SmartGate
