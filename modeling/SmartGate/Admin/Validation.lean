import SmartGate.Policy.Checks

/-!
# Checks of the admin API

The role check, the validation of request fields, and the translation of storage errors
into the answers of the API.  Lengths are counted in bytes of UTF-8, as `str::len` does.
The main result is about policies: a model list that passes its check decodes to a list
of patterns, and a limit that passes its check is positive, so that a policy of checked
fields can always be merged.
-/

namespace SmartGate

/-! ## Roles -/

inductive AdminRole where
  | admin | viewer
  deriving DecidableEq

structure AdminContext where
  adminId : Uuid
  adminName : String
  role : AdminRole
  deriving DecidableEq

def requireAdminRole (ctx : AdminContext) : Except GatewayError Unit :=
  if ctx.role ≠ .admin then
    .error (.policy "insufficient_permissions" "this operation requires admin role")
  else .ok ()

/-! ## Storage errors -/

def mapStorageError : StorageError → GatewayError
  | .notFound entity field value =>
      .notFound "not_found" s!"{entity} not found by {field} = {value}"
  | .conflict entity detail => .conflict "conflict" s!"duplicate {entity}: {detail}"
  | .referenceError detail => .conflict "reference_error" detail
  | .invalidCursor detail => .validation "invalid_cursor" detail
  | other => .storage "database_error" other.display

/-! ## Fields -/

def invalidField (field message : String) : GatewayError :=
  .validation s!"invalid_{field}" message

/-- `serde_json::from_value` of a string into an enumeration, by the names `decode`
knows. -/
def parseEnumStr {α : Type} (decode : String → Option α) (s field validValues : String) :
    Except GatewayError α :=
  match decode s with
  | some a => .ok a
  | none => .error (invalidField field s!"{field} must be one of: {validValues}; got: {s}")

def Environment.decode : String → Option Environment
  | "dev" => some .dev
  | "staging" => some .staging
  | "prod" => some .prod
  | _ => none

def parseEnvironment (env : String) : Except GatewayError Environment :=
  parseEnumStr Environment.decode env "environment" "dev, staging, prod"

/-- A text of 1 to 128 bytes all of whose characters are `permitted`. -/
def validateText (field requirement : String) (permitted : Char → Bool) (value : String) :
    Except GatewayError Unit :=
  if value.isEmpty then .error (invalidField field s!"{field} must not be empty")
  else if 128 < value.utf8ByteSize then
    .error (invalidField field
      s!"{field} must be 128 characters or fewer, got {value.utf8ByteSize}")
  else if !value.toList.all permitted then .error (invalidField field s!"{field} {requirement}")
  else .ok ()

theorem permitted_of_validateText {field requirement : String} {permitted : Char → Bool}
    {value : String} (h : validateText field requirement permitted value = .ok ()) :
    ∀ c ∈ value.toList, permitted c = true := by
  unfold validateText at h
  split_ifs at h with hempty hlong hall
  rw [Bool.not_eq_true', Bool.not_eq_false] at hall
  exact List.all_eq_true.mp hall

/-- `char::is_control`: the Unicode category Cc. -/
def isControl (c : Char) : Bool := c.toNat < 32 || (127 ≤ c.toNat && c.toNat < 160)

def validateName (name : String) : Except GatewayError Unit :=
  validateText "name" "must not contain control characters" (fun c ↦ !isControl c) name

def validateModelIdentifier (value field : String) : Except GatewayError Unit :=
  validateText field
    ("must contain only alphanumeric characters, hyphens, underscores, dots, colons, " ++
      "and slashes")
    (fun c ↦ c.isAlphanum || c == '-' || c == '_' || c == '.' || c == ':' || c == '/') value

def validateKeyId (keyId : String) : Except GatewayError Unit :=
  validateText "key_id" "must contain only alphanumeric characters, hyphens, and underscores"
    (fun c ↦ c.isAlphanum || c == '-' || c == '_') keyId

def validateSlug (slug : String) : Except GatewayError Unit :=
  if slug.utf8ByteSize < 3 || 63 < slug.utf8ByteSize then
    .error (invalidField "slug" s!"slug must be 3-63 characters, got {slug.utf8ByteSize}")
  else if !slug.toList.all (fun c ↦ c.isLower || c.isDigit || c == '-') then
    .error (invalidField "slug" "slug must contain only lowercase letters, digits, and hyphens")
  else if !slug.toList.head?.any Char.isLower then
    .error (invalidField "slug" "slug must start with a lowercase letter")
  else if slug.toList.getLast? = some '-' then
    .error (invalidField "slug" "slug must not end with a hyphen")
  else .ok ()

/-! ## Limits -/

def maxTokenLimit : ℤ := 1000000

def maxRpmLimit : ℤ := 100000

def maxConcurrencyLimit : ℤ := 10000

def validateUpTo (max value : ℤ) (field : String) : Except GatewayError Unit :=
  if value ≤ 0 then
    .error (invalidField field s!"{field} must be a positive integer, got {value}")
  else if max < value then
    .error (invalidField field s!"{field} must not exceed {max}, got {value}")
  else .ok ()

def validateTokenLimit (value : ℤ) (field : String) : Except GatewayError Unit :=
  validateUpTo maxTokenLimit value field

/-- `str::contains` -/
def containsText (s text : String) : Bool :=
  s.toList.tails.any fun rest ↦ text.toList.isPrefixOf rest

def validatePositiveLimit (value : ℤ) (field : String) : Except GatewayError Unit :=
  validateUpTo (if containsText field "concurrency" then maxConcurrencyLimit else maxRpmLimit)
    value field

theorem validateUpTo_eq_ok {max value : ℤ} {field : String} :
    validateUpTo max value field = .ok () ↔ 0 < value ∧ value ≤ max := by
  unfold validateUpTo
  split_ifs with hpos hmax
  · exact iff_of_false (fun h ↦ by cases h) (by omega)
  · exact iff_of_false (fun h ↦ by cases h) (by omega)
  · exact iff_of_true rfl (by omega)

/-! ## Model lists -/

def globBase (pattern : String) : String :=
  match stripSuffix pattern '*' with
  | some base => String.ofList base
  | none => pattern

def validateModelItem (field : String) (item : Json) (i : ℕ) : Except GatewayError Unit :=
  match item.asStr with
  | none => .error (invalidField field s!"{field}[{i}] must be a string")
  | some s =>
      if (globBase s).isEmpty then .ok ()
      else validateModelIdentifier (globBase s) s!"{field}[{i}]"

/-- The loop over the items, which stops at the first that is rejected. -/
def validateModelItems (field : String) : List Json → ℕ → Except GatewayError Unit
  | [], _ => .ok ()
  | item :: items, i => do
      validateModelItem field item i
      validateModelItems field items (i + 1)

def validateModelsJson (value : Json) (field : String) : Except GatewayError Unit :=
  match value.asArray with
  | none => .error (invalidField field s!"{field} must be a JSON array of strings")
  | some items => validateModelItems field items 0

theorem asStr_isSome_of_validateModelItem {field : String} {item : Json} {i : ℕ}
    (h : validateModelItem field item i = .ok ()) : item.asStr.isSome := by
  unfold validateModelItem at h
  split at h
  · cases h
  · next s hs => rw [hs, Option.isSome_some]

theorem exists_validateModelItem_of_mem {field : String} {items : List Json} {i : ℕ}
    (h : validateModelItems field items i = .ok ()) {item : Json} (hitem : item ∈ items) :
    ∃ j, validateModelItem field item j = .ok () := by
  induction items generalizing i with
  | nil => cases hitem
  | cons first items ih =>
      obtain ⟨_, hfirst, hrest⟩ := bind_eq_ok.mp h
      rcases List.mem_cons.mp hitem with rfl | hitem
      · exact ⟨i, hfirst⟩
      · exact ih hrest hitem

theorem toStrings_isSome_of_validateModelsJson {value : Json} {field : String}
    (h : validateModelsJson value field = .ok ()) : value.toStrings.isSome := by
  unfold validateModelsJson at h
  split at h
  · cases h
  · next items hitems =>
    rw [Json.toStrings, hitems, Option.bind_some]
    refine Json.isSome_mapM_asStr fun item hitem ↦ ?_
    obtain ⟨i, hi⟩ := exists_validateModelItem_of_mem h hitem
    exact asStr_isSome_of_validateModelItem hi

/-! ## Optional fields -/

def checkSome {α : Type} (field : Option α) (check : α → Except GatewayError Unit) :
    Except GatewayError Unit :=
  match field with
  | none => .ok ()
  | some v => check v

theorem checkSome_eq_ok {α : Type} {field : Option α} {check : α → Except GatewayError Unit} :
    checkSome field check = .ok () ↔ ∀ v ∈ field, check v = .ok () := by
  cases field <;> simp [checkSome]

end SmartGate
