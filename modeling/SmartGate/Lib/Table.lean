import Mathlib.Data.List.Basic
import Mathlib.Data.List.Nodup
import Mathlib.Data.Option.Basic
import Mathlib.Tactic.Common

/-!
# Tables with a unique column

A table is a list of rows whose values in one column are distinct, such as a primary
key.  The statements of a database keep it that way: an insert is refused when the
value is taken, an update does not touch the column, and a delete only removes rows.

Two further kinds of constraint are statements about tables: a second column (or a
tuple of columns) is `Distinct`, and a nullable column of one table `References` the
key of another.  Each statement comes with the rule by which it keeps them; deleting
a referenced row keeps a reference when the action declared for it is carried out.
-/

/-- Rows with distinct values of `key`. -/
structure Table {ρ κ : Type*} (key : ρ → κ) where
  rows : List ρ
  unique : (rows.map key).Nodup

namespace Table

variable {ρ κ : Type*} {key : ρ → κ}

def empty : Table key := ⟨[], List.nodup_nil⟩

theorem eq_of_key_eq (t : Table key) {r r' : ρ} (hr : r ∈ t.rows) (hr' : r' ∈ t.rows)
    (h : key r = key r') : r = r' :=
  List.inj_on_of_nodup_map t.unique hr hr' h

theorem map_column_ite {γ : Type*} {column : ρ → γ} (p : ρ → Bool) {f : ρ → ρ}
    (hf : ∀ r, column (f r) = column r) (rows : List ρ) :
    (rows.map fun r ↦ if p r then f r else r).map column = rows.map column := by
  rw [List.map_map]
  refine List.map_congr_left fun r _ ↦ ?_
  by_cases h : p r = true <;> simp [h, hf]

/-- `UPDATE … WHERE`, for an assignment that leaves the column alone. -/
def updateWhere (t : Table key) (p : ρ → Bool) (f : ρ → ρ) (hf : ∀ r, key (f r) = key r) :
    Table key where
  rows := t.rows.map fun r ↦ if p r then f r else r
  unique := by
    rw [map_column_ite p hf]
    exact t.unique

/-- `DELETE … WHERE` -/
def deleteWhere (t : Table key) (p : ρ → Bool) : Table key where
  rows := t.rows.filter fun r ↦ !p r
  unique := t.unique.sublist (List.filter_sublist.map key)

/-- A row after an update is an old row that was not selected, or the image of one that
was. -/
theorem mem_map_ite {rows : List ρ} {p : ρ → Bool} {f : ρ → ρ} {r : ρ} :
    (r ∈ rows.map fun r ↦ if p r then f r else r) ↔
      (r ∈ rows ∧ p r = false) ∨ ∃ r₀ ∈ rows, p r₀ = true ∧ f r₀ = r := by
  rw [List.mem_map]
  constructor
  · rintro ⟨r₀, hr₀, rfl⟩
    by_cases h : p r₀ = true
    · exact Or.inr ⟨r₀, hr₀, h, by simp [h]⟩
    · exact Or.inl (by simp [h, hr₀])
  · rintro (⟨hr, hp⟩ | ⟨r₀, hr₀, hp, rfl⟩)
    · exact ⟨r, hr, by simp [hp]⟩
    · exact ⟨r₀, hr₀, by simp [hp]⟩

/-- What an update keeps true of every row, it keeps true of some row. -/
theorem exists_map_ite {rows : List ρ} {p : ρ → Bool} {f : ρ → ρ} {q : ρ → Prop}
    (hq : ∀ r, q r → q (f r)) (h : ∃ r ∈ rows, q r) :
    ∃ r ∈ rows.map fun r ↦ if p r then f r else r, q r := by
  obtain ⟨r, hr, hqr⟩ := h
  by_cases hp : p r = true
  · exact ⟨f r, mem_map_ite.mpr (Or.inr ⟨r, hr, hp, rfl⟩), hq r hqr⟩
  · exact ⟨r, mem_map_ite.mpr (Or.inl ⟨hr, by simpa using hp⟩), hqr⟩

/-- A row that an update does not select stays. -/
theorem exists_map_ite_of_not {rows : List ρ} {p : ρ → Bool} {f : ρ → ρ} {q : ρ → Prop}
    (hp : ∀ r, q r → p r = false) (h : ∃ r ∈ rows, q r) :
    ∃ r ∈ rows.map fun r ↦ if p r then f r else r, q r := by
  obtain ⟨r, hr, hqr⟩ := h
  exact ⟨r, mem_map_ite.mpr (Or.inl ⟨hr, hp r hqr⟩), hqr⟩

/-- A row after an update comes from a row before it. -/
theorem origin_map_ite {rows : List ρ} {p : ρ → Bool} {f : ρ → ρ} {q : ρ → ρ → Prop}
    (hsame : ∀ r, q r r) (hq : ∀ r, q r (f r)) {r' : ρ}
    (h : r' ∈ rows.map fun r ↦ if p r then f r else r) : ∃ r ∈ rows, q r r' := by
  rcases mem_map_ite.mp h with ⟨hr', _⟩ | ⟨r, hr, _, rfl⟩
  · exact ⟨r', hr', hsame r'⟩
  · exact ⟨r, hr, hq r⟩

@[simp] theorem mem_deleteWhere {t : Table key} {p : ρ → Bool} {r : ρ} :
    r ∈ (t.deleteWhere p).rows ↔ r ∈ t.rows ∧ p r = false := by
  simp [deleteWhere]

variable [DecidableEq κ]

/-- `SELECT … WHERE key = k` -/
def get (t : Table key) (k : κ) : Option ρ := t.rows.find? fun r ↦ decide (key r = k)

theorem get_eq_some {t : Table key} {k : κ} {r : ρ} :
    t.get k = some r ↔ r ∈ t.rows ∧ key r = k := by
  constructor
  · intro h
    exact ⟨List.mem_of_find?_eq_some h, by simpa using List.find?_some h⟩
  · rintro ⟨hr, rfl⟩
    cases hget : t.get (key r) with
    | none =>
        have hno := List.find?_eq_none.mp hget r hr
        simp at hno
    | some r' =>
        have hkey : key r' = key r := by simpa using List.find?_some hget
        rw [t.eq_of_key_eq (List.mem_of_find?_eq_some hget) hr hkey]

theorem get_eq_none {t : Table key} {k : κ} : t.get k = none ↔ ∀ r ∈ t.rows, key r ≠ k := by
  simp [get]

/-- `INSERT` of a row whose key is free. -/
def insert (t : Table key) (r : ρ) (h : t.get (key r) = none) : Table key where
  rows := r :: t.rows
  unique := by
    rw [List.map_cons, List.nodup_cons]
    refine ⟨fun hmem ↦ ?_, t.unique⟩
    obtain ⟨r', hr', hkey⟩ := List.mem_map.mp hmem
    exact get_eq_none.mp h r' hr' hkey

/-- `INSERT`, refused when the key is taken. -/
def insert? (t : Table key) (r : ρ) : Option (Table key) :=
  if h : t.get (key r) = none then some (t.insert r h) else none

theorem insert?_eq_some {t u : Table key} {r : ρ} (h : t.insert? r = some u) :
    t.get (key r) = none ∧ u.rows = r :: t.rows := by
  unfold insert? at h
  split_ifs at h with hnone
  cases h
  exact ⟨hnone, rfl⟩

theorem get_updateWhere (t : Table key) (p : ρ → Bool) (f : ρ → ρ)
    (hf : ∀ r, key (f r) = key r) (k : κ) :
    (t.updateWhere p f hf).get k = (t.get k).map fun r ↦ if p r then f r else r := by
  have hkey : ∀ r, key (if p r then f r else r) = key r := fun r ↦ by
    by_cases h : p r = true <;> simp [h, hf]
  cases hget : t.get k with
  | none =>
      rw [Option.map_none, get_eq_none]
      intro r hr
      obtain ⟨r₀, hr₀, rfl⟩ := List.mem_map.mp hr
      rw [hkey]
      exact get_eq_none.mp hget r₀ hr₀
  | some r =>
      obtain ⟨hr, hk⟩ := get_eq_some.mp hget
      exact get_eq_some.mpr ⟨List.mem_map.mpr ⟨r, hr, rfl⟩, (hkey r).trans hk⟩

theorem get_deleteWhere_of_not (t : Table key) {p : ρ → Bool} {k : κ}
    (h : ∀ r, key r = k → p r = false) : (t.deleteWhere p).get k = t.get k := by
  cases hget : t.get k with
  | none =>
      rw [get_eq_none] at hget ⊢
      exact fun r hr ↦ hget r (mem_deleteWhere.mp hr).1
  | some r =>
      obtain ⟨hr, hk⟩ := get_eq_some.mp hget
      exact get_eq_some.mpr ⟨mem_deleteWhere.mpr ⟨hr, h r hk⟩, hk⟩

/-! ## Unique columns besides the key -/

/-- `UNIQUE (column)` -/
def Distinct {γ : Type*} (t : Table key) (column : ρ → γ) : Prop := (t.rows.map column).Nodup

section Distinct

variable {γ : Type*} {column : ρ → γ} {t : Table key}

theorem Distinct.insert (ht : t.Distinct column) {r : ρ} {h : t.get (key r) = none}
    (hr : ∀ r' ∈ t.rows, column r' ≠ column r) : (t.insert r h).Distinct column := by
  refine List.nodup_cons.mpr ⟨fun hmem ↦ ?_, ht⟩
  obtain ⟨r', hr', hcol⟩ := List.mem_map.mp hmem
  exact hr r' hr' hcol

omit [DecidableEq κ] in
theorem Distinct.updateWhere (ht : t.Distinct column) {p : ρ → Bool} {f : ρ → ρ}
    {hf : ∀ r, key (f r) = key r} (hcol : ∀ r, column (f r) = column r) :
    (t.updateWhere p f hf).Distinct column := by
  unfold Distinct Table.updateWhere
  rw [map_column_ite p hcol]
  exact ht

omit [DecidableEq κ] in
theorem Distinct.deleteWhere (ht : t.Distinct column) (p : ρ → Bool) :
    (t.deleteWhere p).Distinct column :=
  List.Nodup.sublist (List.filter_sublist.map column) ht

end Distinct

/-! ## Foreign keys -/

/-- `FOREIGN KEY (column) REFERENCES u`, for a column that may be null. -/
def References {ρ' κ' : Type*} {key' : ρ' → κ'} (t : Table key) (column : ρ → Option κ')
    (u : Table key') : Prop :=
  ∀ r ∈ t.rows, ∀ k ∈ column r, ∃ r' ∈ u.rows, key' r' = k

/-- `ON DELETE CASCADE`: the rows that refer to `k` are deleted with it. -/
def cascade {κ' : Type*} [DecidableEq κ'] (t : Table key) (column : ρ → Option κ') (k : κ') :
    Table key :=
  t.deleteWhere fun r ↦ decide (column r = some k)

/-- `ON DELETE SET NULL`: the column is cleared in the rows that refer to `k`. -/
def setNull {κ' : Type*} [DecidableEq κ'] (t : Table key) (column : ρ → Option κ') (k : κ')
    (clear : ρ → ρ) (hclear : ∀ r, key (clear r) = key r) : Table key :=
  t.updateWhere (fun r ↦ decide (column r = some k)) clear hclear

namespace References

variable {ρ' κ' : Type*} {key' : ρ' → κ'} {column : ρ → Option κ'} {t : Table key}
  {u : Table key'}

theorem insert (h : t.References column u) {r : ρ} {hr : t.get (key r) = none}
    (hcol : ∀ k ∈ column r, ∃ r' ∈ u.rows, key' r' = k) : (t.insert r hr).References column u := by
  intro r₀ hr₀
  rcases List.mem_cons.mp hr₀ with rfl | hr₀
  · exact hcol
  · exact h r₀ hr₀

omit [DecidableEq κ] in
theorem insert_parent [DecidableEq κ'] (h : t.References column u) {r' : ρ'}
    {hr' : u.get (key' r') = none} : t.References column (u.insert r' hr') := by
  intro r hr k hk
  obtain ⟨r₀, hr₀, hkey⟩ := h r hr k hk
  exact ⟨r₀, List.mem_cons_of_mem _ hr₀, hkey⟩

omit [DecidableEq κ] in
theorem updateWhere (h : t.References column u) {p : ρ → Bool} {f : ρ → ρ}
    {hf : ∀ r, key (f r) = key r} (hcol : ∀ r, ∀ k ∈ column (f r), k ∈ column r) :
    (t.updateWhere p f hf).References column u := by
  intro r hr k hk
  rcases mem_map_ite.mp hr with ⟨hr, _⟩ | ⟨r₀, hr₀, _, rfl⟩
  · exact h r hr k hk
  · exact h r₀ hr₀ k (hcol r₀ k hk)

omit [DecidableEq κ] in
theorem updateWhere_parent (h : t.References column u) {p : ρ' → Bool} {f : ρ' → ρ'}
    {hf : ∀ r, key' (f r) = key' r} : t.References column (u.updateWhere p f hf) := by
  intro r hr k hk
  exact exists_map_ite (fun r' hkey ↦ (hf r').trans hkey) (h r hr k hk)

omit [DecidableEq κ] in
theorem deleteWhere (h : t.References column u) (p : ρ → Bool) :
    (t.deleteWhere p).References column u :=
  fun r hr ↦ h r (mem_deleteWhere.mp hr).1

variable [DecidableEq κ'] {k : κ'}

omit [DecidableEq κ] in
/-- A reference survives the deletion of the row with key `k` when no row refers to
`k` any more. -/
theorem delete_parent (h : t.References column u) (hk : ∀ r ∈ t.rows, column r ≠ some k) :
    t.References column (u.deleteWhere fun r' ↦ decide (key' r' = k)) := by
  intro r hr k' hk'
  obtain ⟨r', hr', rfl⟩ := h r hr k' hk'
  refine ⟨r', mem_deleteWhere.mpr ⟨hr', decide_eq_false ?_⟩, rfl⟩
  rintro rfl
  exact hk r hr hk'

omit [DecidableEq κ] in
theorem cascade (h : t.References column u) :
    (t.cascade column k).References column (u.deleteWhere fun r' ↦ decide (key' r' = k)) := by
  refine (h.deleteWhere _).delete_parent fun r hr ↦ ?_
  exact of_decide_eq_false (mem_deleteWhere.mp hr).2

omit [DecidableEq κ] in
theorem setNull (h : t.References column u) {clear : ρ → ρ}
    {hclear : ∀ r, key (clear r) = key r} (hnull : ∀ r, column (clear r) = none) :
    (t.setNull column k clear hclear).References column
      (u.deleteWhere fun r' ↦ decide (key' r' = k)) := by
  have href : (t.setNull column k clear hclear).References column u :=
    h.updateWhere fun r k' hk' ↦ by simp [hnull] at hk'
  refine href.delete_parent fun r hr ↦ ?_
  rcases mem_map_ite.mp hr with ⟨_, hp⟩ | ⟨r₀, _, _, rfl⟩
  · exact of_decide_eq_false hp
  · simp [hnull]

end References

end Table
