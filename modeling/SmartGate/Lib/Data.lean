import Mathlib.Algebra.Order.Ring.Int
import Mathlib.Data.List.Perm.Basic
import Mathlib.Tactic.Common

/-!
# Unordered collections and JSON values

An `Enumeration` is the order in which a hash set is iterated, or in which a
query without an `ORDER BY` returns its rows: some permutation of the contents,
about which nothing else is known.  JSON numbers are kept as their literal text.
-/

/-- An unspecified order in which a collection lists its contents. -/
structure Enumeration (α : Type*) where
  list : List α → List α
  perm : ∀ xs, (list xs).Perm xs

namespace Enumeration

variable {α : Type*}

/-- The order in which the contents happen to be stored. -/
def stored : Enumeration α := ⟨id, fun xs ↦ List.Perm.refl xs⟩

/-- An order in which `x`, if it is there, comes first. -/
def startingWith [DecidableEq α] (x : α) : Enumeration α where
  list xs := if x ∈ xs then x :: xs.erase x else xs
  perm xs := by
    by_cases hx : x ∈ xs
    · rw [if_pos hx]
      exact (List.perm_cons_erase hx).symm
    · rw [if_neg hx]

theorem list_startingWith [DecidableEq α] {x : α} {xs : List α} (hx : x ∈ xs) :
    (startingWith x).list xs = x :: xs.erase x := if_pos hx

@[simp] theorem mem_list (o : Enumeration α) {xs : List α} {x : α} :
    x ∈ o.list xs ↔ x ∈ xs := (o.perm xs).mem_iff

end Enumeration

inductive Json where
  | null
  | bool (b : Bool)
  | num (literal : String)
  | str (s : String)
  | arr (items : List Json)
  | obj (fields : List (String × Json))

namespace Json

def asArray : Json → Option (List Json)
  | .arr items => some items
  | _ => none

def asStr : Json → Option String
  | .str s => some s
  | _ => none

theorem eq_str_of_asStr {v : Json} {s : String} (h : v.asStr = some s) : v = .str s := by
  cases v with
  | str s' => rw [Option.some.inj h]
  | _ => cases h

def toStrings (v : Json) : Option (List String) :=
  v.asArray.bind fun items ↦ items.mapM asStr

theorem isSome_mapM_asStr {items : List Json} (h : ∀ item ∈ items, item.asStr.isSome) :
    (items.mapM asStr).isSome := by
  induction items with
  | nil => rfl
  | cons item items ih =>
      obtain ⟨s, hs⟩ := Option.isSome_iff_exists.mp (h item List.mem_cons_self)
      obtain ⟨ss, hss⟩ := Option.isSome_iff_exists.mp
        (ih fun item' hitem' ↦ h item' (List.mem_cons_of_mem _ hitem'))
      simp [hs, hss]

theorem str_mem_of_mapM_asStr {items : List Json} {ss : List String}
    (h : items.mapM asStr = some ss) {s : String} (hs : s ∈ ss) : .str s ∈ items := by
  induction items generalizing ss with
  | nil =>
      obtain rfl : [] = ss := Option.some.inj h
      cases hs
  | cons item items ih =>
      simp only [List.mapM_cons, Option.bind_eq_bind, Option.bind_eq_some_iff] at h
      obtain ⟨first, hfirst, rest, hrest, hss⟩ := h
      obtain rfl : first :: rest = ss := Option.some.inj hss
      rcases List.mem_cons.mp hs with rfl | hs
      · rw [eq_str_of_asStr hfirst]
        exact List.mem_cons_self
      · exact List.mem_cons_of_mem _ (ih hrest hs)

def ofStrings (xs : List String) : Json := .arr (xs.map .str)

@[simp] theorem toStrings_ofStrings (xs : List String) : (ofStrings xs).toStrings = some xs := by
  simp only [toStrings, ofStrings, asArray, Option.bind_some]
  induction xs with
  | nil => rfl
  | cons x xs ih => simp [asStr, ih]

/-- The value of a field of an object. -/
def get (v : Json) (key : String) : Option Json :=
  match v with
  | .obj fields => fields.lookup key
  | _ => none

/-! ## The size of a text -/

mutual

/-- A number of bytes that every JSON text of the value has: what stands for a character is
never shorter than its UTF-8. -/
def textSize : Json → ℕ
  | .null => 4
  | .bool _ => 4
  | .num literal => literal.utf8ByteSize
  | .str s => s.utf8ByteSize + 2
  | .arr items => itemsSize items + 2
  | .obj fields => fieldsSize fields + 2

def itemsSize : List Json → ℕ
  | [] => 0
  | item :: items => item.textSize + itemsSize items

def fieldsSize : List (String × Json) → ℕ
  | [] => 0
  | (key, value) :: fields => key.utf8ByteSize + 3 + value.textSize + fieldsSize fields

end

theorem textSize_le_of_lookup {fields : List (String × Json)} {key : String} {value : Json}
    (h : fields.lookup key = some value) : value.textSize ≤ fieldsSize fields := by
  induction fields with
  | nil => cases h
  | cons field fields ih =>
      obtain ⟨name, first⟩ := field
      rw [fieldsSize]
      by_cases hname : key = name
      · rw [List.lookup_cons, beq_iff_eq.mpr hname] at h
        obtain rfl : first = value := Option.some.inj h
        omega
      · rw [List.lookup_cons, beq_eq_false_iff_ne.mpr hname] at h
        have hle := ih h
        omega

theorem textSize_le_of_get {v value : Json} {key : String} (h : v.get key = some value) :
    value.textSize ≤ v.textSize := by
  cases v with
  | obj fields =>
      rw [textSize]
      exact Nat.le_add_right_of_le (textSize_le_of_lookup h)
  | _ => cases h

/-- What is at most the size of each item sums up to at most the size of all. -/
theorem sum_map_le_itemsSize {measure : Json → ℕ} (h : ∀ item, measure item ≤ item.textSize)
    (items : List Json) : (items.map measure).sum ≤ itemsSize items := by
  induction items with
  | nil => exact Nat.le_refl 0
  | cons item items ih =>
      rw [List.map_cons, List.sum_cons, itemsSize]
      exact Nat.add_le_add (h item) ih

end Json
