import Mathlib.Tactic.Common

/-!
# Base64

The standard alphabet with padding.  Three bytes become four characters; a group of one or
two bytes at the end is padded.  The decoder is strict: it wants the padding, and the bits
that the padding leaves over must be zero.  It inverts the encoder.
-/

namespace Base64

def alphabet : List Char :=
  ['A', 'B', 'C', 'D', 'E', 'F', 'G', 'H', 'I', 'J', 'K', 'L', 'M', 'N', 'O', 'P', 'Q', 'R', 'S',
    'T', 'U', 'V', 'W', 'X', 'Y', 'Z', 'a', 'b', 'c', 'd', 'e', 'f', 'g', 'h', 'i', 'j', 'k', 'l',
    'm', 'n', 'o', 'p', 'q', 'r', 's', 't', 'u', 'v', 'w', 'x', 'y', 'z', '0', '1', '2', '3', '4',
    '5', '6', '7', '8', '9', '+', '/']

/-! ## Digits -/

def digit (n : ℕ) : Char := alphabet.getD n '='

def value (c : Char) : Option ℕ :=
  if alphabet.idxOf c < 64 then some (alphabet.idxOf c) else none

theorem value_digit {n : ℕ} (hn : n < 64) : value (digit n) = some n := by
  have hall : ∀ i : Fin 64, value (digit i) = some i.val := by decide +kernel
  exact hall ⟨n, hn⟩

theorem digit_ne_padding {n : ℕ} (hn : n < 64) : digit n ≠ '=' := by
  have hall : ∀ i : Fin 64, digit i ≠ '=' := by decide +kernel
  exact hall ⟨n, hn⟩

theorem digit_mem (n : ℕ) : digit n ∈ '=' :: alphabet := by
  rw [digit, List.getD_eq_getElem?_getD]
  cases h : alphabet[n]? with
  | none => exact List.mem_cons_self
  | some c => exact List.mem_cons_of_mem _ (List.mem_of_getElem? h)

/-! ## Groups -/

/-- The bytes of four characters, the last two of which may be padding. -/
def decodeGroup (w x y z : Char) : Option (List UInt8) := do
  let i ← value w
  let j ← value x
  if y = '=' ∧ z = '=' then
    if j % 16 = 0 then some [.ofNat (i * 4 + j / 16)] else none
  else
    let k ← value y
    if z = '=' then
      if k % 4 = 0 then some [.ofNat (i * 4 + j / 16), .ofNat (j % 16 * 16 + k / 4)] else none
    else
      let l ← value z
      some [.ofNat (i * 4 + j / 16), .ofNat (j % 16 * 16 + k / 4), .ofNat (k % 4 * 64 + l)]

def encodeOne (a : ℕ) : List Char := [digit (a / 4), digit (a % 4 * 16), '=', '=']

def encodeTwo (a b : ℕ) : List Char :=
  [digit (a / 4), digit (a % 4 * 16 + b / 16), digit (b % 16 * 4), '=']

def encodeThree (a b c : ℕ) : List Char :=
  [digit (a / 4), digit (a % 4 * 16 + b / 16), digit (b % 16 * 4 + c / 64), digit (c % 64)]

theorem ofNat_eq (a : UInt8) {n : ℕ} (h : n = a.toNat) : UInt8.ofNat n = a := by
  rw [h, UInt8.ofNat_toNat]

theorem decodeGroup_one (a : UInt8) :
    decodeGroup (digit (a.toNat / 4)) (digit (a.toNat % 4 * 16)) '=' '=' = some [a] := by
  have ha := a.toNat_lt
  rw [decodeGroup, value_digit (by omega), value_digit (by omega)]
  have hlow : a.toNat % 4 * 16 % 16 = 0 := by omega
  simp only [Option.bind_eq_bind, Option.bind_some, and_self, if_true, hlow]
  rw [ofNat_eq a (by omega)]

theorem decodeGroup_two (a b : UInt8) :
    decodeGroup (digit (a.toNat / 4)) (digit (a.toNat % 4 * 16 + b.toNat / 16))
      (digit (b.toNat % 16 * 4)) '=' = some [a, b] := by
  have ha := a.toNat_lt
  have hb := b.toNat_lt
  have hpad : digit (b.toNat % 16 * 4) ≠ '=' := digit_ne_padding (by omega)
  have hlow : b.toNat % 16 * 4 % 4 = 0 := by omega
  rw [decodeGroup, value_digit (by omega), value_digit (by omega), value_digit (by omega)]
  simp only [Option.bind_eq_bind, Option.bind_some, hpad, false_and, if_false, if_true, hlow]
  rw [ofNat_eq a (by omega), ofNat_eq b (by omega)]

theorem decodeGroup_three (a b c : UInt8) :
    decodeGroup (digit (a.toNat / 4)) (digit (a.toNat % 4 * 16 + b.toNat / 16))
      (digit (b.toNat % 16 * 4 + c.toNat / 64)) (digit (c.toNat % 64)) = some [a, b, c] := by
  have ha := a.toNat_lt
  have hb := b.toNat_lt
  have hc := c.toNat_lt
  have hpad : digit (b.toNat % 16 * 4 + c.toNat / 64) ≠ '=' := digit_ne_padding (by omega)
  have hpad' : digit (c.toNat % 64) ≠ '=' := digit_ne_padding (by omega)
  rw [decodeGroup, value_digit (by omega), value_digit (by omega), value_digit (by omega),
    value_digit (by omega)]
  simp only [Option.bind_eq_bind, Option.bind_some, hpad, hpad', false_and, if_false]
  rw [ofNat_eq a (by omega), ofNat_eq b (by omega), ofNat_eq c (by omega)]

/-! ## Texts -/

def encode : List UInt8 → List Char
  | [] => []
  | [a] => encodeOne a.toNat
  | [a, b] => encodeTwo a.toNat b.toNat
  | a :: b :: c :: bytes => encodeThree a.toNat b.toNat c.toNat ++ encode bytes

/-- A group that is not full ends the text. -/
def decode : List Char → Option (List UInt8)
  | [] => some []
  | w :: x :: y :: z :: text => do
      let bytes ← decodeGroup w x y z
      if bytes.length < 3 ∧ text ≠ [] then none
      else (decode text).map (bytes ++ ·)
  | _ => none

theorem decode_encode (bytes : List UInt8) : decode (encode bytes) = some bytes := by
  induction bytes using encode.induct with
  | case1 => rfl
  | case2 a => simp [encode, encodeOne, decode, decodeGroup_one]
  | case3 a b => simp [encode, encodeTwo, decode, decodeGroup_two]
  | case4 a b c bytes ih => simp [encode, encodeThree, decode, decodeGroup_three, ih]

theorem mem_of_mem_encode {bytes : List UInt8} {c : Char} (hc : c ∈ encode bytes) :
    c ∈ '=' :: alphabet := by
  induction bytes using encode.induct with
  | case1 => cases hc
  | case2 a =>
      simp only [encode, encodeOne, List.mem_cons, List.not_mem_nil, or_false] at hc
      rcases hc with rfl | rfl | rfl | rfl
      · exact digit_mem _
      · exact digit_mem _
      · exact List.mem_cons_self
      · exact List.mem_cons_self
  | case3 a b =>
      simp only [encode, encodeTwo, List.mem_cons, List.not_mem_nil, or_false] at hc
      rcases hc with rfl | rfl | rfl | rfl
      · exact digit_mem _
      · exact digit_mem _
      · exact digit_mem _
      · exact List.mem_cons_self
  | case4 a b c bytes ih =>
      rcases List.mem_append.mp hc with hc | hc
      · simp only [encodeThree, List.mem_cons, List.not_mem_nil, or_false] at hc
        rcases hc with rfl | rfl | rfl | rfl <;> exact digit_mem _
      · exact ih hc

end Base64
