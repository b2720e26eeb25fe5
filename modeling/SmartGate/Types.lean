import SmartGate.Lib.Data

/-!
# Identifiers, status enumerations and errors

The newtypes over UUIDs, the status enumerations of `types.rs`, and the two error
types: `GatewayError` is what a caller of the gateway sees, `StorageError` what a
repository or the Redis client answers.
-/

namespace SmartGate

structure Uuid where
  bits : BitVec 128
  deriving DecidableEq

namespace Uuid

/-- The lowercase hexadecimal digit of a nibble, as `HEX_TABLE` and the `uuid` crate
write it. -/
def hexDigit (n : ℕ) : Char :=
  "0123456789abcdef".toList.getD n '0'

def hexDigits (u : Uuid) : List Char :=
  (List.range 32).map fun i ↦ hexDigit (u.bits.toNat / 16 ^ (31 - i) % 16)

/-- The 8-4-4-4-12 layout. -/
def hyphenate (h : List Char) : List Char :=
  h.take 8 ++ '-' :: ((h.drop 8).take 4 ++ '-' :: ((h.drop 12).take 4 ++
    '-' :: ((h.drop 16).take 4 ++ '-' :: h.drop 20)))

def display (u : Uuid) : String := String.ofList (hyphenate u.hexDigits)

end Uuid

structure TenantId where
  uuid : Uuid
  deriving DecidableEq

structure ServiceAccountId where
  uuid : Uuid
  deriving DecidableEq

structure KeyId where
  uuid : Uuid
  deriving DecidableEq

structure PolicyId where
  uuid : Uuid
  deriving DecidableEq

structure RouteId where
  uuid : Uuid
  deriving DecidableEq

def TenantId.display (id : TenantId) : String := id.uuid.display

def ServiceAccountId.display (id : ServiceAccountId) : String := id.uuid.display

def KeyId.display (id : KeyId) : String := id.uuid.display

def PolicyId.display (id : PolicyId) : String := id.uuid.display

def RouteId.display (id : RouteId) : String := id.uuid.display

inductive Environment where
  | dev | staging | prod
  deriving DecidableEq

inductive ServiceAccountStatus where
  | active | suspended | deleted
  deriving DecidableEq

inductive KeyStatus where
  | active | rotating | revoked | expired
  deriving DecidableEq

inductive TenantStatus where
  | active | suspended | deleted
  deriving DecidableEq

inductive Provider where
  | openai | anthropic | gemini | azureOpenai | vllm
  deriving DecidableEq

/-- The text of the column and of the JSON field. -/
def Provider.text : Provider → String
  | .openai => "openai"
  | .anthropic => "anthropic"
  | .gemini => "gemini"
  | .azureOpenai => "azure_openai"
  | .vllm => "vllm"

def Provider.decode : String → Option Provider
  | "openai" => some .openai
  | "anthropic" => some .anthropic
  | "gemini" => some .gemini
  | "azure_openai" => some .azureOpenai
  | "vllm" => some .vllm
  | _ => none

theorem Provider.text_of_decode {s : String} {p : Provider} (h : Provider.decode s = some p) :
    p.text = s := by
  unfold Provider.decode at h
  split at h <;> cases h <;> rfl

/-! ## Errors -/

inductive GatewayError where
  | auth (code message : String)
  | policy (code message : String)
  | rateLimit (code message : String) (retryAfter : Option ℕ)
  | budget (code message : String)
  | provider (code message : String) (status : ℕ)
  | routing (code message : String)
  | storage (code message : String)
  | config (code message : String)
  | validation (code message : String)
  | notFound (code message : String)
  | conflict (code message : String)
  deriving DecidableEq

namespace GatewayError

def code : GatewayError → String
  | .auth c _ | .policy c _ | .rateLimit c _ _ | .budget c _ | .provider c _ _ | .routing c _
  | .storage c _ | .config c _ | .validation c _ | .notFound c _ | .conflict c _ => c

def statusCode : GatewayError → ℕ
  | .auth _ _ => 401
  | .policy _ _ | .budget _ _ => 403
  | .rateLimit _ _ _ => 429
  | .provider _ _ status => status
  | .routing _ _ => 502
  | .storage _ _ | .config _ _ => 500
  | .validation _ _ => 422
  | .notFound _ _ => 404
  | .conflict _ _ => 409

/-- The seconds of the header `retry-after`, which only a rejection by the rate limiter
carries. -/
def retryAfter : GatewayError → Option ℕ
  | .rateLimit _ _ seconds => seconds
  | _ => none

def display : GatewayError → String
  | .auth _ m => s!"authentication failed: {m}"
  | .policy _ m => s!"policy denied: {m}"
  | .rateLimit _ m _ => s!"rate limit exceeded: {m}"
  | .budget _ m => s!"budget exhausted: {m}"
  | .provider _ m _ => s!"provider error: {m}"
  | .routing _ m => s!"routing error: {m}"
  | .storage _ m => s!"storage error: {m}"
  | .config _ m => s!"configuration error: {m}"
  | .validation _ m => s!"validation error: {m}"
  | .notFound _ m => m
  | .conflict _ m => m

end GatewayError

inductive StorageError where
  | notFound (entity field value : String)
  | conflict (entity detail : String)
  | referenceError (detail : String)
  | invalidCursor (detail : String)
  | database (detail : String)
  | redis (detail : String)
  | internal (detail : String)
  deriving DecidableEq

namespace StorageError

def display : StorageError → String
  | .notFound entity field value => s!"{entity} not found by {field} = {value}"
  | .conflict entity detail => s!"duplicate {entity}: {detail}"
  | .referenceError detail => s!"referenced entity does not exist: {detail}"
  | .invalidCursor detail => s!"invalid cursor: {detail}"
  | .database detail => s!"database error: {detail}"
  | .redis detail => s!"redis error: {detail}"
  | .internal detail => s!"internal error: {detail}"

end StorageError

theorem bind_eq_ok {ε α β : Type} {x : Except ε α} {f : α → Except ε β} {b : β} :
    (x >>= f) = .ok b ↔ ∃ a, x = .ok a ∧ f a = .ok b := by
  cases x with
  | error e =>
      constructor
      · intro h
        cases h
      · rintro ⟨a, h, _⟩
        cases h
  | ok a => exact ⟨fun h ↦ ⟨a, rfl, h⟩, fun ⟨_, ha, h⟩ ↦ by cases ha; exact h⟩

theorem map_eq_ok {ε α β : Type} {x : Except ε α} {f : α → β} {b : β} :
    x.map f = .ok b ↔ ∃ a, x = .ok a ∧ f a = b := by
  cases x with
  | error e =>
      constructor
      · intro h
        cases h
      · rintro ⟨a, h, _⟩
        cases h
  | ok a => exact ⟨fun h ↦ ⟨a, rfl, by cases h; rfl⟩, fun ⟨_, ha, h⟩ ↦ by cases ha; cases h; rfl⟩

theorem eq_ok_of_mapError {ε ε' α : Type} {x : Except ε α} {f : ε → ε'} {a : α}
    (h : x.mapError f = .ok a) : x = .ok a := by
  cases x with
  | error e => cases h
  | ok b =>
      cases h
      rfl

theorem eq_ok_of_toOption {ε α : Type} {x : Except ε α} {a : α} (h : x.toOption = some a) :
    x = .ok a := by
  cases x with
  | error e => cases h
  | ok b =>
      cases h
      rfl

/-- Two fallible computations answer alike: both succeed with the same value, or
both fail with the same error code. -/
def SameOutcome {α : Type*} (x y : Except GatewayError α) : Prop :=
  match x, y with
  | .ok a, .ok b => a = b
  | .error e, .error e' => e.code = e'.code
  | _, _ => False

theorem SameOutcome.refl {α : Type*} (x : Except GatewayError α) : SameOutcome x x := by
  cases x <;> rfl

end SmartGate
