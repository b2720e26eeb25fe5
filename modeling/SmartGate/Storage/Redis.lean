import SmartGate.Lib.ExpiringStore
import SmartGate.Types

/-!
# The keys under which the gateway stores data in Redis

All users of Redis share one key space.  The key formats are the `format!` strings
of the source.  A UUID is displayed with a fixed number of characters and a window
number in decimal, so the formats can be read back.  The main result is that a key tells
which subsystem and which account it belongs to, whatever text a client puts into it.
-/

namespace SmartGate

/-- The Redis connection as one request finds it: a command fails, before or after
it took effect, or succeeds. -/
inductive RedisConnection where
  | failing (executed : Bool)
  | working
  deriving DecidableEq

/-! ## UUIDs are determined by their text -/

namespace Uuid

theorem hexDigit_injective {m n : ℕ} (hm : m < 16) (hn : n < 16)
    (h : hexDigit m = hexDigit n) : m = n := by
  have hall : ∀ a : Fin 16, ∀ b : Fin 16, hexDigit a = hexDigit b → a = b := by decide
  exact congrArg Fin.val (hall ⟨m, hm⟩ ⟨n, hn⟩ h)

theorem mod_eq_of_nibbles {m n : ℕ} (k : ℕ)
    (h : ∀ i < k, m / 16 ^ i % 16 = n / 16 ^ i % 16) : m % 16 ^ k = n % 16 ^ k := by
  induction k with
  | zero => simp [Nat.mod_one]
  | succ k ih =>
      have hlow : m % 16 ^ k = n % 16 ^ k := ih fun i hi ↦ h i (Nat.lt_succ_of_lt hi)
      rw [Nat.mod_pow_succ, Nat.mod_pow_succ, hlow, h k (Nat.lt_succ_self k)]

@[simp] theorem length_hexDigits (u : Uuid) : u.hexDigits.length = 32 := by
  simp [hexDigits]

theorem hexDigits_injective {u v : Uuid} (h : u.hexDigits = v.hexDigits) : u = v := by
  have hdigit : ∀ i < 32, u.bits.toNat / 16 ^ i % 16 = v.bits.toNat / 16 ^ i % 16 := by
    intro i hi
    have hmap := List.map_inj_left.mp h (31 - i) (by simp; omega)
    have hback : 31 - (31 - i) = i := by omega
    rw [hback] at hmap
    exact hexDigit_injective (Nat.mod_lt _ (by decide)) (Nat.mod_lt _ (by decide)) hmap
  have hmod := mod_eq_of_nibbles 32 hdigit
  have hu : u.bits.toNat < 16 ^ 32 := u.bits.isLt
  have hv : v.bits.toNat < 16 ^ 32 := v.bits.isLt
  rw [Nat.mod_eq_of_lt hu, Nat.mod_eq_of_lt hv] at hmod
  have hbits : u.bits = v.bits := BitVec.eq_of_toNat_eq hmod
  cases u
  cases v
  exact congrArg Uuid.mk hbits

theorem hexDigit_ne_hyphen (n : ℕ) (hn : n < 16) : hexDigit n ≠ '-' := by
  have hall : ∀ a : Fin 16, hexDigit a ≠ '-' := by decide
  exact hall ⟨n, hn⟩

theorem filter_hyphenate {h : List Char} (hd : ∀ c ∈ h, c ≠ '-') :
    (hyphenate h).filter (fun c ↦ c != '-') = h := by
  have hself : ∀ l : List Char, l ⊆ h → l.filter (fun c ↦ c != '-') = l := by
    intro l hl
    rw [List.filter_eq_self]
    intro c hc
    simpa using hd c (hl hc)
  have htake : ∀ k n, (h.drop k).take n ⊆ h := fun k n ↦
    List.Subset.trans (List.take_subset _ _) (List.drop_subset _ _)
  have hsplit : ∀ k n, (h.drop k).take n ++ h.drop (k + n) = h.drop k := by
    intro k n
    rw [← List.drop_drop]
    exact List.take_append_drop n (h.drop k)
  simp only [hyphenate, List.filter_append, List.filter_cons, bne_self_eq_false,
    Bool.false_eq_true, if_false]
  rw [hself _ (List.take_subset 8 h), hself _ (htake 8 4), hself _ (htake 12 4),
    hself _ (htake 16 4), hself _ (List.drop_subset 20 h), hsplit 16 4, hsplit 12 4, hsplit 8 4,
    List.take_append_drop]

theorem display_injective {u v : Uuid} (h : u.display = v.display) : u = v := by
  have hchars : ∀ w : Uuid, ∀ c ∈ w.hexDigits, c ≠ '-' := by
    intro w c hc
    obtain ⟨i, _, rfl⟩ := List.mem_map.mp hc
    exact hexDigit_ne_hyphen _ (Nat.mod_lt _ (by decide))
  have hlist : hyphenate u.hexDigits = hyphenate v.hexDigits := String.ofList_injective h
  apply hexDigits_injective
  rw [← filter_hyphenate (hchars u), ← filter_hyphenate (hchars v), hlist]

theorem length_toList_display (u : Uuid) : u.display.toList.length = 36 := by
  simp [display, hyphenate]

end Uuid

theorem ServiceAccountId.display_injective {a b : ServiceAccountId}
    (h : a.display = b.display) : a = b := by
  cases a
  cases b
  exact congrArg ServiceAccountId.mk (Uuid.display_injective h)

/-- The display of an identifier has a fixed length, so that what follows it is read back
as well. -/
theorem Uuid.display_append_inj {a b : Uuid} {xs ys : List Char}
    (h : a.display.toList ++ xs = b.display.toList ++ ys) : a = b ∧ xs = ys := by
  have hlen : a.display.toList.length = b.display.toList.length := by
    rw [Uuid.length_toList_display, Uuid.length_toList_display]
  obtain ⟨hid, hrest⟩ := List.append_inj h hlen
  exact ⟨Uuid.display_injective (String.toList_inj.mp hid), hrest⟩

theorem ServiceAccountId.display_append_inj {a b : ServiceAccountId} {xs ys : List Char}
    (h : a.display.toList ++ xs = b.display.toList ++ ys) : a = b ∧ xs = ys := by
  obtain ⟨hid, hrest⟩ := Uuid.display_append_inj h
  cases a
  cases b
  exact ⟨congrArg ServiceAccountId.mk hid, hrest⟩

/-! ## Key formats -/

def nonceKey (serviceAccountId nonce : String) : String :=
  "nonce:" ++ serviceAccountId ++ ":" ++ nonce

def concurrencyKey (saId : ServiceAccountId) : String := "concurrency:" ++ saId.display

def windowKey (keyPrefix : String) (window : ℕ) : String := keyPrefix ++ ":" ++ toString window

def saKeyPrefix (saId : ServiceAccountId) : String := "rl:sa:" ++ saId.display

def globalKeyPrefix : String := "rl:global"

def keyCacheKey (keyId : String) : String := "keycache:" ++ keyId

theorem nonceKey_injective {a b : ServiceAccountId} {m n : String}
    (h : nonceKey a.display m = nonceKey b.display n) : a = b ∧ m = n := by
  have hlist := congrArg String.toList h
  simp only [nonceKey, String.toList_append, List.append_assoc,
    List.append_cancel_left_eq] at hlist
  obtain ⟨hid, hrest⟩ := ServiceAccountId.display_append_inj hlist
  exact ⟨hid, String.toList_inj.mp (List.append_cancel_left hrest)⟩

theorem concurrencyKey_injective {a b : ServiceAccountId}
    (h : concurrencyKey a = concurrencyKey b) : a = b :=
  ServiceAccountId.display_injective (String.append_right_inj _ |>.mp h)

theorem keyCacheKey_injective {a b : String} (h : keyCacheKey a = keyCacheKey b) : a = b :=
  String.append_right_inj _ |>.mp h

theorem windowKey_injective {keyPrefix : String} {v w : ℕ}
    (h : windowKey keyPrefix v = windowKey keyPrefix w) : v = w := by
  have hrepr : v.repr = w.repr := String.append_right_inj _ |>.mp h
  rw [Nat.repr_eq_ofList_toDigits, Nat.repr_eq_ofList_toDigits] at hrepr
  have hdigits := congrArg (fun ds ↦ Nat.ofDigitChars 10 ds 0) (String.ofList_injective hrepr)
  simpa only [Nat.ofDigitChars_ten_toDigits] using hdigits

theorem saWindowKey_injective {a b : ServiceAccountId} {v w : ℕ}
    (h : windowKey (saKeyPrefix a) v = windowKey (saKeyPrefix b) w) : a = b ∧ v = w := by
  have hlist := congrArg String.toList h
  simp only [windowKey, saKeyPrefix, String.toList_append, List.append_assoc,
    List.append_cancel_left_eq] at hlist
  obtain ⟨rfl, _⟩ := ServiceAccountId.display_append_inj hlist
  exact ⟨rfl, windowKey_injective h⟩

theorem saWindowKey_ne_global (a : ServiceAccountId) (v w : ℕ) :
    windowKey (saKeyPrefix a) v ≠ windowKey globalKeyPrefix w := by
  intro h
  have hlist := congrArg (fun s ↦ s.toList.take 4) h
  simp [windowKey, saKeyPrefix, globalKeyPrefix] at hlist

/-! ## The key space -/

/-- A key by the subsystem that uses it and by what it is about. -/
inductive RedisKey where
  | nonce (saId : ServiceAccountId) (text : String)
  | saWindow (saId : ServiceAccountId) (window : ℕ)
  | globalWindow (window : ℕ)
  | concurrency (saId : ServiceAccountId)
  | keyCache (keyId : String)
  deriving DecidableEq

namespace RedisKey

def render : RedisKey → String
  | .nonce saId text => nonceKey saId.display text
  | .saWindow saId window => windowKey (saKeyPrefix saId) window
  | .globalWindow window => windowKey globalKeyPrefix window
  | .concurrency saId => concurrencyKey saId
  | .keyCache keyId => keyCacheKey keyId

/-- The first four characters, which are enough to tell the subsystems apart. -/
def tag : RedisKey → List Char
  | .nonce _ _ => ['n', 'o', 'n', 'c']
  | .saWindow _ _ => ['r', 'l', ':', 's']
  | .globalWindow _ => ['r', 'l', ':', 'g']
  | .concurrency _ => ['c', 'o', 'n', 'c']
  | .keyCache _ => ['k', 'e', 'y', 'c']

theorem take_render (k : RedisKey) : k.render.toList.take 4 = k.tag := by
  cases k <;>
    simp [render, tag, nonceKey, windowKey, saKeyPrefix, globalKeyPrefix, concurrencyKey,
      keyCacheKey]

theorem tag_eq_of_render_eq {k k' : RedisKey} (h : k.render = k'.render) : k.tag = k'.tag := by
  rw [← take_render, h, take_render]

theorem render_injective : Function.Injective render := by
  intro k k' h
  have htag := tag_eq_of_render_eq h
  cases k with
  | nonce saId text =>
      cases k' with
      | nonce saId' text' =>
          obtain ⟨rfl, rfl⟩ := nonceKey_injective h
          rfl
      | _ => simp [tag] at htag
  | saWindow saId window =>
      cases k' with
      | saWindow saId' window' =>
          obtain ⟨rfl, rfl⟩ := saWindowKey_injective h
          rfl
      | _ => simp [tag] at htag
  | globalWindow window =>
      cases k' with
      | globalWindow window' => rw [windowKey_injective h]
      | _ => simp [tag] at htag
  | concurrency saId =>
      cases k' with
      | concurrency saId' => rw [concurrencyKey_injective h]
      | _ => simp [tag] at htag
  | keyCache keyId =>
      cases k' with
      | keyCache keyId' => rw [keyCacheKey_injective h]
      | _ => simp [tag] at htag

end RedisKey

/-- Distinct keys have distinct texts, so what is written under one is never seen under
another. -/
theorem redis_keys_never_collide :
    Function.Injective RedisKey.render ∧
      ∀ {ν : Type} (store : ExpiringStore.Store String ν) (k k' : RedisKey), k' ≠ k →
        ∀ entry now, ExpiringStore.lookup (ExpiringStore.put store k.render entry) now k'.render =
          ExpiringStore.lookup store now k'.render := by
  refine ⟨RedisKey.render_injective, fun store k k' hne entry now ↦ ?_⟩
  apply ExpiringStore.lookup_congr
  apply ExpiringStore.put_ne
  exact fun h ↦ hne (RedisKey.render_injective h)

end SmartGate
