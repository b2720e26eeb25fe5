import Mathlib.Algebra.BigOperators.Group.List.Basic
import Mathlib.Data.String.Basic
import SmartGate.Policy.Checks

/-!
# The estimate of input tokens

The estimate is a quarter of the length of all texts in the messages.  The length is taken
in bytes of UTF-8, so it is a quarter of the number of characters only as long as the bytes
that characters need beyond their first do not reach the next multiple of four.
-/

namespace SmartGate

/-- The largest request body, 10 MiB. -/
def maxBodySize : ℕ := 10 * 1024 * 1024

/-! ## The code -/

/-- The length of the content of a message, a string or an array of parts. -/
def contentLength (len : String → ℕ) (msg : Json) : Option ℕ :=
  (msg.get "content").bind fun content ↦
    match content.asStr with
    | some s => some (len s)
    | none => content.asArray.map fun parts ↦
        (parts.filterMap fun part ↦ ((part.get "text").bind Json.asStr).map len).sum

/-- The sum is a `usize` that is cast to a `u32`. -/
def estimateInputTokens (messages : Json) : Option ℕ :=
  messages.asArray.bind fun arr ↦
    if arr.isEmpty then none
    else
      let totalChars := (arr.filterMap (contentLength String.utf8ByteSize)).sum
      some (max (totalChars / 4) 1 % 2 ^ 32)

/-! ## The texts of the messages -/

/-- The texts that a message shows to the model. -/
def textsOf (msg : Json) : List String :=
  match msg.get "content" with
  | some (.str s) => [s]
  | some (.arr parts) => parts.filterMap fun part ↦ (part.get "text").bind Json.asStr
  | _ => []

def totalOf (len : String → ℕ) (messages : List Json) : ℕ :=
  ((messages.flatMap textsOf).map len).sum

def characterCount (messages : List Json) : ℕ := totalOf String.length messages

def byteCount (messages : List Json) : ℕ := totalOf String.utf8ByteSize messages

/-- The bytes of the characters after their first. -/
def continuationBytes (s : String) : ℕ := (s.toList.map fun c ↦ c.utf8Size - 1).sum

def continuationCount (messages : List Json) : ℕ := totalOf continuationBytes messages

theorem sum_filterMap {α : Type} (f : α → Option ℕ) (xs : List α) :
    (xs.filterMap f).sum = (xs.map fun x ↦ (f x).getD 0).sum := by
  induction xs with
  | nil => rfl
  | cons x xs ih =>
      rw [List.map_cons, List.sum_cons, ← ih]
      cases hx : f x with
      | none => rw [List.filterMap_cons_none hx, Option.getD_none, Nat.zero_add]
      | some n => rw [List.filterMap_cons_some hx, List.sum_cons, Option.getD_some]

theorem totalOf_eq (len : String → ℕ) (messages : List Json) :
    totalOf len messages = (messages.map fun msg ↦ ((textsOf msg).map len).sum).sum := by
  induction messages with
  | nil => rfl
  | cons msg messages ih =>
      rw [List.map_cons, List.sum_cons, ← ih, totalOf, List.flatMap_cons, List.map_append,
        List.sum_append, totalOf]

theorem contentLength_getD (len : String → ℕ) (msg : Json) :
    (contentLength len msg).getD 0 = ((textsOf msg).map len).sum := by
  rw [contentLength, textsOf]
  cases msg.get "content" with
  | none => rfl
  | some content =>
      cases content with
      | str s => rfl
      | arr parts =>
          rw [List.map_filterMap]
          rfl
      | _ => rfl

theorem sum_contentLength (len : String → ℕ) (messages : List Json) :
    (messages.filterMap (contentLength len)).sum = totalOf len messages := by
  rw [sum_filterMap, totalOf_eq]
  exact congrArg List.sum (List.map_congr_left fun msg _ ↦ contentLength_getD len msg)

/-! ## Bytes and characters -/

theorem utf8Len_eq (cs : List Char) :
    String.utf8Len cs = cs.length + (cs.map fun c ↦ c.utf8Size - 1).sum := by
  induction cs with
  | nil => rfl
  | cons c cs ih =>
      have hpos := c.utf8Size_pos
      rw [String.utf8Len, ih, List.length_cons, List.map_cons, List.sum_cons]
      omega

theorem utf8ByteSize_eq (s : String) : s.utf8ByteSize = s.length + continuationBytes s := by
  rw [← String.utf8Len_toList, utf8Len_eq, String.length_toList, continuationBytes]

theorem byteCount_eq (messages : List Json) :
    byteCount messages = characterCount messages + continuationCount messages := by
  rw [byteCount, characterCount, continuationCount, totalOf, totalOf, totalOf,
    ← List.sum_map_add]
  exact congrArg List.sum (List.map_congr_left fun s _ ↦ utf8ByteSize_eq s)

theorem sum_textsOf_parts_le (parts : List Json) :
    ((parts.filterMap fun part ↦ (part.get "text").bind Json.asStr).map String.utf8ByteSize).sum ≤
      Json.itemsSize parts := by
  rw [List.map_filterMap, sum_filterMap]
  refine Json.sum_map_le_itemsSize (fun part ↦ ?_) parts
  cases htext : part.get "text" with
  | none => exact Nat.zero_le _
  | some text =>
      have hle := Json.textSize_le_of_get htext
      cases text with
      | str s =>
          rw [Json.textSize] at hle
          exact (Nat.le_add_right _ 2).trans hle
      | _ => exact Nat.zero_le _

theorem sum_textsOf_le (msg : Json) :
    ((textsOf msg).map String.utf8ByteSize).sum ≤ msg.textSize := by
  rw [textsOf]
  cases hcontent : msg.get "content" with
  | none => exact Nat.zero_le _
  | some content =>
      have hle := Json.textSize_le_of_get hcontent
      cases content with
      | str s =>
          rw [Json.textSize] at hle
          rw [List.map_singleton, List.sum_singleton]
          omega
      | arr parts =>
          rw [Json.textSize] at hle
          exact ((sum_textsOf_parts_le parts).trans (Nat.le_add_right _ 2)).trans hle
      | _ => exact Nat.zero_le _

theorem byteCount_le (messages : List Json) :
    byteCount messages ≤ (Json.arr messages).textSize := by
  rw [byteCount, totalOf_eq, Json.textSize]
  exact (Json.sum_map_le_itemsSize sum_textsOf_le messages).trans (Nat.le_add_right _ 2)

/-! ## What the estimate is -/

/-- The cast does not truncate. -/
theorem estimateInputTokens_eq {messages : List Json} (hne : messages ≠ [])
    (hsize : (Json.arr messages).textSize ≤ maxBodySize) :
    estimateInputTokens (.arr messages) = some (max 1 (byteCount messages / 4)) := by
  have hle := (byteCount_le messages).trans hsize
  have hlt : max 1 (byteCount messages / 4) < 2 ^ 32 := by
    rw [maxBodySize] at hle
    omega
  have htotal : (messages.filterMap (contentLength String.utf8ByteSize)).sum =
      byteCount messages := sum_contentLength String.utf8ByteSize messages
  rw [estimateInputTokens, Json.asArray, Option.bind_some, if_neg (by simpa using hne)]
  simp only [htotal, Nat.max_comm _ 1, Nat.mod_eq_of_lt hlt]

theorem estimate_is_quarter_of_characters_iff {messages : List Json} (hne : messages ≠ [])
    (hsize : (Json.arr messages).textSize ≤ maxBodySize) :
    estimateInputTokens (.arr messages) = some (max 1 (characterCount messages / 4)) ↔
      continuationCount messages < 4 - characterCount messages % 4 ∨ byteCount messages < 8 := by
  have hbytes := byteCount_eq messages
  rw [estimateInputTokens_eq hne hsize, Option.some.injEq]
  omega

def userMessage (content : String) : Json :=
  .obj [("role", .str "user"), ("content", .str content)]

theorem estimate_is_quarter_of_characters_ascii :
    estimateInputTokens (.arr [userMessage "Hello, world!"]) =
        some (max 1 (characterCount [userMessage "Hello, world!"] / 4)) ↔
      continuationCount [userMessage "Hello, world!"] <
          4 - characterCount [userMessage "Hello, world!"] % 4 ∨
        byteCount [userMessage "Hello, world!"] < 8 :=
  estimate_is_quarter_of_characters_iff (List.cons_ne_nil _ []) (by decide +kernel)

/-- Four characters of three bytes each are taken for three tokens, and rejected under a
limit of two. -/
theorem estimate_counts_bytes :
    characterCount [userMessage "日本語で"] = 4 ∧
      (Json.arr [userMessage "日本語で"]).textSize ≤ maxBodySize ∧
      estimateInputTokens (.arr [userMessage "日本語で"]) = some 3 ∧
      (checkTokenLimits ⟨some 2, none⟩ (some 1) none).toOption.isSome ∧
      (checkTokenLimits ⟨some 2, none⟩ (estimateInputTokens (.arr [userMessage "日本語で"]))
        none).toOption = none := by
  decide +kernel

end SmartGate
