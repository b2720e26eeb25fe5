import Mathlib.Data.List.Sort
import SmartGate.Admin.Validation
import SmartGate.Lib.Data
import SmartGate.Lib.Table

/-!
# Authentication of administrators

The middleware verifies a bearer token against the hashes of all active keys, in parallel,
and takes the results in the order in which the tasks complete.  The hash function is a
parameter.  Of several keys that match, the first to complete decides who the caller is.
-/

namespace SmartGate

/-! ## The repository -/

abbrev AdminKeyTable := Table AdminApiKey.id

namespace AdminApiKeyRepo

/-- `list_active`.  Rows that `ORDER BY created_at` does not separate come in any order. -/
def listActive (order : Enumeration AdminApiKey) (table : AdminKeyTable) : List AdminApiKey :=
  (order.list (table.rows.filter AdminApiKey.isActive)).insertionSort fun a b ↦
    a.createdAt ≤ b.createdAt

def touchLastUsed (table : AdminKeyTable) (id : Uuid) (now : ℕ) : AdminKeyTable :=
  table.updateWhere (fun key ↦ decide (key.id = id))
    (fun key ↦ { key with lastUsedAt := some now }) fun _ ↦ rfl

end AdminApiKeyRepo

/-! ## The middleware -/

def AdminRole.fromDbStr (s : String) : Except GatewayError AdminRole :=
  match s with
  | "admin" => .ok .admin
  | "viewer" => .ok .viewer
  | _ => .error (.auth "invalid_role" "unrecognized admin role")

/-- The bytes of a header. -/
abbrev HeaderValue := List UInt8

/-- `HeaderValue::to_str`, which admits visible ASCII characters, blanks and tabs. -/
def HeaderValue.toStr (value : HeaderValue) : Option String :=
  if value.all fun b ↦ (32 ≤ b && b < 127) || b == 9 then
    some (String.ofList (value.map fun b ↦ Char.ofNat b.toNat))
  else none

/-- `str::strip_prefix` for the scheme. -/
def stripBearer (value : String) : Option String :=
  if "Bearer ".toList.isPrefixOf value.toList then
    some (String.ofList (value.toList.drop "Bearer ".length))
  else none

def extractBearerToken (header : Option HeaderValue) : Except GatewayError String := do
  let value ← header.elim
    (.error (.auth "missing_authorization" "Authorization header is required")) .ok
  let text ← value.toStr.elim
    (.error (.auth "invalid_authorization" "Authorization header is not valid UTF-8")) .ok
  let token ← (stripBearer text).elim
    (.error (.auth "invalid_authorization" "Authorization header must use Bearer scheme")) .ok
  if token.isEmpty then .error (.auth "missing_token" "Bearer token must not be empty")
  else .ok token

/-- Why a verification has no answer: `bcrypt::verify` returned an error, or its task
panicked. -/
inductive VerificationFailure where
  | bcrypt | panicked
  deriving DecidableEq

abbrev Verification := Except VerificationFailure Bool

instance : DecidableEq Verification
  | .ok a, .ok b => decidable_of_iff (a = b) (by simp)
  | .error a, .error b => decidable_of_iff (a = b) (by simp)
  | .ok _, .error _ => isFalse (by simp)
  | .error _, .ok _ => isFalse (by simp)

/-- `bcrypt::verify`, of a token and a hash. -/
abbrev Bcrypt := String → String → Verification

/-- The local variables of the loop that drains the tasks. -/
structure Drained where
  matchedIdx : Option ℕ
  authError : Option GatewayError

def verificationFailed : GatewayError :=
  .auth "internal_error" "authentication verification failed"

def Drained.joinNext (d : Drained) : ℕ × Verification → Drained
  | (_, .error _) => { d with authError := d.authError.or (some verificationFailed) }
  | (idx, .ok isMatch) => { d with
      matchedIdx := if isMatch then d.matchedIdx.or (some idx) else d.matchedIdx }

def drain (completed : List (ℕ × Verification)) : Drained :=
  completed.foldl Drained.joinNext ⟨none, none⟩

def verificationTasks (bcrypt : Bcrypt) (token : String) (keys : List AdminApiKey) :
    List (ℕ × Verification) :=
  keys.zipIdx.map fun key ↦ (key.2, bcrypt token key.1.keyHash)

def AdminApiKey.context (key : AdminApiKey) : Except GatewayError AdminContext := do
  let role ← AdminRole.fromDbStr key.role
  return ⟨key.id, key.name, role⟩

/-- The caller, when the tasks complete in the given order. -/
def identify (bcrypt : Bcrypt) (order : Enumeration (ℕ × Verification)) (token : String)
    (keys : List AdminApiKey) : Except GatewayError AdminContext :=
  let drained := drain (order.list (verificationTasks bcrypt token keys))
  match drained.authError with
  | some e => .error e
  | none =>
      match drained.matchedIdx.bind fun idx ↦ keys[idx]? with
      | none => .error (.auth "invalid_api_key" "invalid admin API key")
      | some key => key.context

/-- What the middleware reads: the database, which may be absent or fail, and the cache of
keys, which may be absent or not yet loaded. -/
structure AdminAuthState where
  db : Option AdminKeyTable
  failure : Option StorageError
  keyCache : Option (Option (List AdminApiKey))

/-- The keys, and the cache after they have been asked for. -/
def AdminAuthState.loadKeys (s : AdminAuthState) (ties : Enumeration AdminApiKey)
    (table : AdminKeyTable) :
    Except GatewayError (List AdminApiKey × Option (Option (List AdminApiKey))) :=
  match s.keyCache with
  | some (some keys) => .ok (keys, s.keyCache)
  | cache =>
      match s.failure with
      | some _ => .error (.auth "internal_error" "failed to load admin keys")
      | none =>
          let keys := AdminApiKeyRepo.listActive ties table
          .ok (keys, cache.map fun _ ↦ some keys)

def adminAuthMiddleware (bcrypt : Bcrypt) (ties : Enumeration AdminApiKey)
    (order : Enumeration (ℕ × Verification)) (now : ℕ) (header : Option HeaderValue)
    (s : AdminAuthState) : Except GatewayError AdminContext × AdminAuthState :=
  match extractBearerToken header with
  | .error e => (.error e, s)
  | .ok token =>
      match s.db with
      | none => (.error (.config "internal_error" "database not available"), s)
      | some table =>
          match s.loadKeys ties table with
          | .error e => (.error e, s)
          | .ok (keys, keyCache) =>
              if keys.isEmpty then
                (.error (.auth "no_admin_keys" "no active admin API keys configured"),
                  { s with keyCache })
              else
                match identify bcrypt order token keys with
                | .error e => (.error e, { s with keyCache })
                | .ok ctx => (.ok ctx, { s with
                    keyCache
                    db := some (AdminApiKeyRepo.touchLastUsed table ctx.adminId now) })

/-! ## What the order of completion decides -/

/-- The same error, or the same caller in the same role. -/
def SameIdentity : Except GatewayError AdminContext → Except GatewayError AdminContext → Prop
  | .error e, .error e' => e = e'
  | .ok ctx, .ok ctx' => ctx.adminId = ctx'.adminId ∧ ctx.role = ctx'.role
  | .error _, .ok _ | .ok _, .error _ => False

theorem SameIdentity.refl (result : Except GatewayError AdminContext) :
    SameIdentity result result := by
  cases result with
  | error e => rfl
  | ok ctx => exact ⟨rfl, rfl⟩

def AdminApiKey.Matches (bcrypt : Bcrypt) (token : String) (key : AdminApiKey) : Prop :=
  bcrypt token key.keyHash = .ok true

/-- The verification of some key has no answer. -/
def VerificationFails (bcrypt : Bcrypt) (token : String) (keys : List AdminApiKey) : Prop :=
  ∃ key ∈ keys, ∃ failure, bcrypt token key.keyHash = .error failure

def isMatch (completed : ℕ × Verification) : Bool := decide (completed.2 = .ok true)

def hasFailed : ℕ × Verification → Bool
  | (_, .error _) => true
  | (_, .ok _) => false

theorem drain_matchedIdx (completed : List (ℕ × Verification)) :
    (drain completed).matchedIdx = (completed.find? isMatch).map Prod.fst := by
  have hfold : ∀ d : Drained, (completed.foldl Drained.joinNext d).matchedIdx =
      d.matchedIdx.or ((completed.find? isMatch).map Prod.fst) := by
    induction completed with
    | nil => exact fun d ↦ (Option.or_none).symm
    | cons c completed ih =>
        intro d
        rw [List.foldl_cons, ih]
        rcases c with ⟨idx, failure | _ | _⟩
        · simp [Drained.joinNext, isMatch]
        · simp [Drained.joinNext, isMatch]
        · simp [Drained.joinNext, isMatch]
  exact (hfold ⟨none, none⟩).trans Option.none_or

theorem drain_authError (completed : List (ℕ × Verification)) :
    (drain completed).authError =
      if completed.any hasFailed then some verificationFailed else none := by
  have hfold : ∀ d : Drained, (completed.foldl Drained.joinNext d).authError =
      d.authError.or (if completed.any hasFailed then some verificationFailed else none) := by
    induction completed with
    | nil => exact fun d ↦ (Option.or_none).symm
    | cons c completed ih =>
        intro d
        rw [List.foldl_cons, ih]
        rcases c with ⟨idx, failure | answer⟩
        · rw [List.any_cons, hasFailed, Bool.true_or, if_pos rfl, Drained.joinNext]
          split_ifs
          · rw [Option.or_assoc, Option.some_or]
          · rw [Option.or_none]
        · rw [List.any_cons, hasFailed, Bool.false_or, Drained.joinNext]
  exact (hfold ⟨none, none⟩).trans Option.none_or

section Identify

variable {bcrypt : Bcrypt} {token : String} {keys : List AdminApiKey}

theorem mem_verificationTasks {idx : ℕ} {answer : Verification} :
    (idx, answer) ∈ verificationTasks bcrypt token keys ↔
      ∃ key, keys[idx]? = some key ∧ bcrypt token key.keyHash = answer := by
  rw [verificationTasks, List.mem_map]
  constructor
  · rintro ⟨⟨key, i⟩, hmem, hpair⟩
    cases hpair
    exact ⟨key, List.mk_mem_zipIdx_iff_getElem?.mp hmem, rfl⟩
  · rintro ⟨key, hkey, rfl⟩
    exact ⟨(key, idx), List.mk_mem_zipIdx_iff_getElem?.mpr hkey, rfl⟩

theorem any_hasFailed_iff (order : Enumeration (ℕ × Verification)) :
    (order.list (verificationTasks bcrypt token keys)).any hasFailed = true ↔
      VerificationFails bcrypt token keys := by
  rw [List.any_eq_true]
  constructor
  · rintro ⟨⟨idx, failure | answer⟩, hmem, hfailed⟩
    · obtain ⟨key, hkey, hverify⟩ := mem_verificationTasks.mp (order.mem_list.mp hmem)
      exact ⟨key, List.mem_of_getElem? hkey, failure, hverify⟩
    · cases hfailed
  · rintro ⟨key, hkey, failure, hverify⟩
    obtain ⟨idx, hidx⟩ := List.mem_iff_getElem?.mp hkey
    exact ⟨(idx, .error failure),
      order.mem_list.mpr (mem_verificationTasks.mpr ⟨key, hidx, hverify⟩), rfl⟩

/-- A verification without an answer fails the request, in every order. -/
theorem identify_of_failure (order : Enumeration (ℕ × Verification))
    (h : VerificationFails bcrypt token keys) :
    identify bcrypt order token keys = .error verificationFailed := by
  have herror := drain_authError (order.list (verificationTasks bcrypt token keys))
  rw [if_pos ((any_hasFailed_iff order).mpr h)] at herror
  rw [identify, herror]

/-- Otherwise the answer is that of a key that matches, or that there is none. -/
theorem identify_of_no_failure (order : Enumeration (ℕ × Verification))
    (h : ¬ VerificationFails bcrypt token keys) :
    (∃ key ∈ keys, key.Matches bcrypt token ∧
        identify bcrypt order token keys = key.context) ∨
      (∀ key ∈ keys, ¬ key.Matches bcrypt token) ∧
        identify bcrypt order token keys =
          .error (.auth "invalid_api_key" "invalid admin API key") := by
  have herror := drain_authError (order.list (verificationTasks bcrypt token keys))
  have hmatched := drain_matchedIdx (order.list (verificationTasks bcrypt token keys))
  rw [if_neg (mt (any_hasFailed_iff order).mp h)] at herror
  rw [identify, herror, hmatched]
  cases hfind : (order.list (verificationTasks bcrypt token keys)).find? isMatch with
  | none =>
      refine Or.inr ⟨fun key hkey hmatches ↦ ?_, rfl⟩
      obtain ⟨idx, hidx⟩ := List.mem_iff_getElem?.mp hkey
      have hmem : (idx, .ok true) ∈ order.list (verificationTasks bcrypt token keys) :=
        order.mem_list.mpr (mem_verificationTasks.mpr ⟨key, hidx, hmatches⟩)
      exact List.find?_eq_none.mp hfind _ hmem rfl
  | some c =>
      obtain ⟨idx, answer⟩ := c
      have hmatch : isMatch (idx, answer) = true := List.find?_some hfind
      have hanswer : answer = .ok true := of_decide_eq_true hmatch
      obtain ⟨key, hkey, hverify⟩ :=
        mem_verificationTasks.mp (order.mem_list.mp (List.mem_of_find?_eq_some hfind))
      refine Or.inl ⟨key, List.mem_of_getElem? hkey, hverify.trans hanswer, ?_⟩
      simp [hkey]

/-- Any key that matches can be the first to complete. -/
theorem exists_order (h : ¬ VerificationFails bcrypt token keys) {key : AdminApiKey}
    (hkey : key ∈ keys) (hmatches : key.Matches bcrypt token) :
    ∃ order, identify bcrypt order token keys = key.context := by
  obtain ⟨idx, hidx⟩ := List.mem_iff_getElem?.mp hkey
  have hmem : (idx, .ok true) ∈ verificationTasks bcrypt token keys :=
    mem_verificationTasks.mpr ⟨key, hidx, hmatches⟩
  refine ⟨.startingWith (idx, .ok true), ?_⟩
  have herror := drain_authError
    ((Enumeration.startingWith (idx, .ok true)).list (verificationTasks bcrypt token keys))
  rw [if_neg (mt (any_hasFailed_iff _).mp h)] at herror
  rw [identify, herror, drain_matchedIdx, Enumeration.list_startingWith hmem]
  simp [isMatch, hidx]

/-- The order of completion does not matter exactly when a verification fails anyway, or all
keys that match stand for the same caller. -/
theorem identify_same_iff :
    (∀ order order' : Enumeration (ℕ × Verification),
      SameIdentity (identify bcrypt order token keys) (identify bcrypt order' token keys)) ↔
      VerificationFails bcrypt token keys ∨
        ∀ key ∈ keys, ∀ key' ∈ keys, key.Matches bcrypt token → key'.Matches bcrypt token →
          SameIdentity key.context key'.context := by
  constructor
  · intro h
    by_cases hfails : VerificationFails bcrypt token keys
    · exact Or.inl hfails
    · refine Or.inr fun key hkey key' hkey' hmatches hmatches' ↦ ?_
      obtain ⟨order, horder⟩ := exists_order hfails hkey hmatches
      obtain ⟨order', horder'⟩ := exists_order hfails hkey' hmatches'
      have hsame := h order order'
      rwa [horder, horder'] at hsame
  · intro h order order'
    by_cases hfails : VerificationFails bcrypt token keys
    · rw [identify_of_failure order hfails, identify_of_failure order' hfails]
      exact SameIdentity.refl _
    · have hagree := h.resolve_left hfails
      rcases identify_of_no_failure order hfails with
        ⟨key, hkey, hmatches, hresult⟩ | ⟨hnone, hresult⟩
      · rcases identify_of_no_failure order' hfails with
          ⟨key', hkey', hmatches', hresult'⟩ | ⟨hnone', _⟩
        · rw [hresult, hresult']
          exact hagree key hkey key' hkey' hmatches hmatches'
        · exact absurd hmatches (hnone' key hkey)
      · rcases identify_of_no_failure order' hfails with
          ⟨key', hkey', hmatches', _⟩ | ⟨_, hresult'⟩
        · exact absurd hmatches' (hnone key' hkey')
        · rw [hresult, hresult']
          exact SameIdentity.refl _

end Identify

/-! ## The identity of the caller -/

def AdminApiKey.RoleRecognized (key : AdminApiKey) : Prop :=
  key.role = "admin" ∨ key.role = "viewer"

/-- The two keys are one key of one role, or neither has a role that is known. -/
def AdminApiKey.SameCaller (key key' : AdminApiKey) : Prop :=
  key.RoleRecognized ∧ key'.RoleRecognized ∧ key.id = key'.id ∧ key.role = key'.role ∨
    ¬ key.RoleRecognized ∧ ¬ key'.RoleRecognized

/-- The role of a key is read as its text says, or is refused. -/
theorem AdminApiKey.context_cases (key : AdminApiKey) :
    (key.role = "admin" ∧ key.context = .ok ⟨key.id, key.name, .admin⟩) ∨
    (key.role = "viewer" ∧ key.context = .ok ⟨key.id, key.name, .viewer⟩) ∨
    (¬ key.RoleRecognized ∧
      key.context = .error (.auth "invalid_role" "unrecognized admin role")) := by
  unfold AdminApiKey.context AdminRole.fromDbStr AdminApiKey.RoleRecognized
  split
  · next hrole => exact Or.inl ⟨hrole, rfl⟩
  · next hrole => exact Or.inr (Or.inl ⟨hrole, rfl⟩)
  · next hadmin hviewer => exact Or.inr (Or.inr ⟨not_or.mpr ⟨hadmin, hviewer⟩, rfl⟩)

theorem AdminApiKey.sameIdentity_context_iff (key key' : AdminApiKey) :
    SameIdentity key.context key'.context ↔ key.SameCaller key' := by
  rcases key.context_cases with ⟨hrole, hcontext⟩ | ⟨hrole, hcontext⟩ | ⟨hrole, hcontext⟩ <;>
    rcases key'.context_cases with
      ⟨hrole', hcontext'⟩ | ⟨hrole', hcontext'⟩ | ⟨hrole', hcontext'⟩ <;>
    simp_all [SameIdentity, AdminApiKey.SameCaller, AdminApiKey.RoleRecognized]

section Middleware

variable {bcrypt : Bcrypt} {ties : Enumeration AdminApiKey} {now : ℕ}
  {header : Option HeaderValue} {s : AdminAuthState}

/-- The request reaches the verification of a token against the keys. -/
structure Reaches (ties : Enumeration AdminApiKey) (header : Option HeaderValue)
    (s : AdminAuthState) (token : String) (keys : List AdminApiKey) : Prop where
  extracted : extractBearerToken header = .ok token
  loaded : ∃ table keyCache, s.db = some table ∧ s.loadKeys ties table = .ok (keys, keyCache)
  nonempty : keys ≠ []

/-- A request is refused before the verification, or is answered by it. -/
theorem adminAuthMiddleware_cases (bcrypt : Bcrypt) (ties : Enumeration AdminApiKey) (now : ℕ)
    (header : Option HeaderValue) (s : AdminAuthState) :
    (∃ token keys, Reaches ties header s token keys ∧ ∀ order,
        (adminAuthMiddleware bcrypt ties order now header s).1 =
          identify bcrypt order token keys) ∨
      (∃ e, ∀ order, (adminAuthMiddleware bcrypt ties order now header s).1 = .error e) ∧
        ∀ token keys, ¬ Reaches ties header s token keys := by
  cases htoken : extractBearerToken header with
  | error e =>
      refine Or.inr ⟨⟨e, fun _ ↦ by simp only [adminAuthMiddleware, htoken]⟩,
        fun token keys h ↦ ?_⟩
      cases htoken.symm.trans h.extracted
  | ok token =>
      cases htable : s.db with
      | none =>
          refine Or.inr ⟨⟨_, fun _ ↦ by simp only [adminAuthMiddleware, htoken, htable]; rfl⟩,
            fun token keys h ↦ ?_⟩
          obtain ⟨_, _, hdb, _⟩ := h.loaded
          cases htable.symm.trans hdb
      | some table =>
          cases hload : s.loadKeys ties table with
          | error e =>
              refine Or.inr ⟨⟨e, fun _ ↦ by simp only [adminAuthMiddleware, htoken, htable, hload]⟩,
                fun token keys h ↦ ?_⟩
              obtain ⟨_, _, hdb, hkeys⟩ := h.loaded
              cases htable.symm.trans hdb
              cases hload.symm.trans hkeys
          | ok loaded =>
              obtain ⟨keys, keyCache⟩ := loaded
              rcases eq_or_ne keys [] with rfl | hne
              · have hrefused : ∀ order, (adminAuthMiddleware bcrypt ties order now header s).1 =
                    .error (.auth "no_admin_keys" "no active admin API keys configured") := by
                  intro order
                  simp only [adminAuthMiddleware, htoken, htable, hload, List.isEmpty_nil, if_true]
                refine Or.inr ⟨⟨_, hrefused⟩, fun token keys h ↦ h.nonempty ?_⟩
                obtain ⟨_, _, hdb, hkeys⟩ := h.loaded
                cases htable.symm.trans hdb
                cases hload.symm.trans hkeys
                rfl
              · refine Or.inl ⟨token, keys, ⟨htoken, ⟨table, keyCache, htable, hload⟩, hne⟩, ?_⟩
                intro order
                simp only [adminAuthMiddleware, htoken, htable, hload, List.isEmpty_iff, hne,
                  if_false]
                cases identify bcrypt order token keys <;> rfl

theorem Reaches.unique {token token' : String} {keys keys' : List AdminApiKey}
    (h : Reaches ties header s token keys) (h' : Reaches ties header s token' keys') :
    token = token' ∧ keys = keys' := by
  obtain ⟨_, _, hdb, hkeys⟩ := h.loaded
  obtain ⟨_, _, hdb', hkeys'⟩ := h'.loaded
  cases h.extracted.symm.trans h'.extracted
  cases hdb.symm.trans hdb'
  cases hkeys.symm.trans hkeys'
  exact ⟨rfl, rfl⟩

/-- The middleware identifies the caller independently of the order in which the
verifications complete exactly when one of them fails, or the keys that match the token all
stand for the same caller. -/
theorem admin_identity_independent_iff :
    (∀ order order' : Enumeration (ℕ × Verification),
      SameIdentity (adminAuthMiddleware bcrypt ties order now header s).1
        (adminAuthMiddleware bcrypt ties order' now header s).1) ↔
      ∀ token keys, Reaches ties header s token keys →
        VerificationFails bcrypt token keys ∨
          ∀ key ∈ keys, ∀ key' ∈ keys, key.Matches bcrypt token → key'.Matches bcrypt token →
            key.SameCaller key' := by
  simp only [← AdminApiKey.sameIdentity_context_iff]
  rcases adminAuthMiddleware_cases bcrypt ties now header s with
    ⟨token, keys, hreaches, hanswer⟩ | ⟨⟨e, herror⟩, hnone⟩
  · simp only [hanswer, identify_same_iff]
    constructor
    · intro h token' keys' hreaches'
      obtain ⟨rfl, rfl⟩ := hreaches.unique hreaches'
      exact h
    · intro h
      exact h token keys hreaches
  · simp only [herror]
    exact iff_of_true (fun _ _ ↦ SameIdentity.refl _)
      fun token keys hreaches ↦ absurd hreaches (hnone token keys)

end Middleware

/-- A hash of the token `secret`. -/
def sampleHash : String := "$2b$04$CCCCCCCCCCCCCCCCCCCCC.4K7lyz.nKATbsiu/RcZjqWyDNnj87qG"

/-- A hash of the same token with another salt. -/
def resaltedHash : String := "$2b$04$abcdefghijklmnopqrstuu2r9OfJnfCsdneAXAGHnS4UpFFP8WIrW"

/-- `bcrypt::verify` at the two hashes. -/
def sampleBcrypt : Bcrypt := fun token hash ↦
  if hash = sampleHash ∨ hash = resaltedHash then .ok (token == "secret") else .error .bcrypt

def sampleAdminKey (id : BitVec 128) (role hash : String) : AdminApiKey :=
  ⟨⟨id⟩, "ops", hash, role, true, 0, none⟩

/-- Two active keys with hashes that match the same token. -/
def sharedTokenKeys : AdminAuthState where
  db := some ⟨[sampleAdminKey 1 "admin" sampleHash, sampleAdminKey 2 "viewer" resaltedHash],
    by decide⟩
  failure := none
  keyCache := none

/-- The bearer of the token is an administrator or a viewer, as the tasks complete. -/
theorem admin_identity_depends_on_order :
    let header : HeaderValue := "Bearer secret".toList.map fun c ↦ UInt8.ofNat c.toNat
    let caller := fun order ↦ (adminAuthMiddleware sampleBcrypt .stored order 0 (some header)
      sharedTokenKeys).1
    caller (.startingWith (0, .ok true)) = .ok ⟨⟨1⟩, "ops", .admin⟩ ∧
      caller (.startingWith (1, .ok true)) = .ok ⟨⟨2⟩, "ops", .viewer⟩ := by
  decide +kernel

end SmartGate
