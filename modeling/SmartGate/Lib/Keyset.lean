import Mathlib.Data.Finset.Card
import Mathlib.Data.List.Sort
import Mathlib.Tactic.Common

/-!
# Listing a table in pages by a key

The rows of a table are listed in descending order of a key.  A fetch takes the rows after a
bound, one more than the page has, so that it can tell whether there are others.  The bound
of the next fetch is the key of the last row of the page.  The table may change between two
fetches.
-/

namespace Keyset

variable {α κ : Type*} [LinearOrder κ] (key : α → κ)

/-- The row comes after the bound in a descending list. -/
def after (bound : Option κ) (row : α) : Bool := bound.all fun k ↦ decide (key row < k)

instance total_key : Std.Total fun a b : α ↦ key b ≤ key a where
  total a b := le_total (key b) (key a)

instance isTrans_key : IsTrans α fun a b : α ↦ key b ≤ key a where
  trans _ _ _ hab hbc := le_trans hbc hab

/-- The selected rows after the bound, in descending order. -/
def select (selected : α → Bool) (rows : List α) (bound : Option κ) : List α :=
  (rows.filter fun row ↦ selected row && after key bound row).insertionSort
    fun a b ↦ key b ≤ key a

variable {key} {selected : α → Bool} {rows : List α} {bound : Option κ}

theorem after_some {k : κ} {row : α} : after key (some k) row = true ↔ key row < k := by
  rw [after, Option.all_some, decide_eq_true_iff]

theorem mem_select {row : α} : row ∈ select key selected rows bound ↔
    row ∈ rows ∧ selected row = true ∧ after key bound row = true := by
  rw [select, List.mem_insertionSort, List.mem_filter, Bool.and_eq_true]

theorem pairwise_select (hrows : (rows.map key).Nodup) :
    (select key selected rows bound).Pairwise fun a b ↦ key b < key a := by
  have hsorted := List.pairwise_insertionSort (fun a b : α ↦ key b ≤ key a)
    (rows.filter fun row ↦ selected row && after key bound row)
  have hnodup : ((select key selected rows bound).map key).Nodup := by
    rw [select, ((List.perm_insertionSort _ _).map key).nodup_iff]
    exact hrows.sublist (List.filter_sublist.map key)
  rw [List.Nodup, List.pairwise_map] at hnodup
  refine (hsorted.and hnodup).imp fun {a b} h ↦ ?_
  exact lt_of_le_of_ne h.1 fun heq ↦ h.2 heq.symm

/-! ## One page -/

section Page

variable (key selected)

def fetch (rows : List α) (bound : Option κ) (n : ℕ) : List α :=
  (select key selected rows bound).take n

/-- A page is the first part of what is selected, and the extra row shows whether there is a
second part. -/
theorem fetch_split (rows : List α) (bound : Option κ) (limit : ℕ) :
    ∃ rest, select key selected rows bound =
        (fetch key selected rows bound (limit + 1)).take limit ++ rest ∧
      (limit < (fetch key selected rows bound (limit + 1)).length ↔ rest ≠ []) := by
  have htake : (fetch key selected rows bound (limit + 1)).take limit =
      (select key selected rows bound).take limit := by
    rw [fetch, List.take_take, Nat.min_eq_left (Nat.le_succ limit)]
  refine ⟨(select key selected rows bound).drop limit, ?_, ?_⟩
  · rw [htake, List.take_append_drop]
  · rw [fetch, List.length_take, ne_eq, List.drop_eq_nil_iff]
    omega

/-- The pages for fetches from the given tables with the given limits, and for each page
whether there are others.  The last page is one without others, or the fetches run out. -/
def pages : Option κ → List (List α × ℕ) → List (List α × Bool)
  | _, [] => []
  | bound, (rows, limit) :: later =>
      let found := fetch key selected rows bound (limit + 1)
      let items := found.take limit
      if limit < found.length then (items, true) :: pages (items.getLast?.map key) later
      else [(items, false)]

end Page

def Complete (ps : List (List α × Bool)) : Prop := ∃ items, ps.getLast? = some (items, false)

/-- Every table has distinct keys, and every page has room for a row. -/
def Proper (key : α → κ) (fetches : List (List α × ℕ)) : Prop :=
  ∀ f ∈ fetches, (f.1.map key).Nodup ∧ 0 < f.2

omit [LinearOrder κ] in
theorem Proper.tail {f : List α × ℕ} {later : List (List α × ℕ)}
    (h : Proper key (f :: later)) : Proper key later :=
  fun g hg ↦ h g (List.mem_cons_of_mem f hg)

/-! ## Following the bounds -/

variable {fetches later : List (List α × ℕ)} {limit : ℕ}

/-- What the first fetch selects is cut into the page and the rest.  If there is a rest, the
last row of the page is the next bound. -/
theorem pages_cons (selected : α → Bool) (bound : Option κ)
    (h : Proper key ((rows, limit) :: later)) :
    ∃ items rest, select key selected rows bound = items ++ rest ∧
      (items ++ rest).Pairwise (fun a b ↦ key b < key a) ∧
      ((rest = [] ∧ pages key selected bound ((rows, limit) :: later) = [(items, false)]) ∨
        ∃ last, rest ≠ [] ∧ items.getLast? = some last ∧
          pages key selected bound ((rows, limit) :: later) =
            (items, true) :: pages key selected (some (key last)) later) := by
  obtain ⟨hnodup, hlimit⟩ := h (rows, limit) List.mem_cons_self
  obtain ⟨rest, hsplit, hmore⟩ := fetch_split key selected rows bound limit
  refine ⟨_, rest, hsplit, hsplit ▸ pairwise_select hnodup, ?_⟩
  rw [pages]
  by_cases hrest : rest = []
  · rw [if_neg fun hlt ↦ hmore.mp hlt hrest]
    exact Or.inl ⟨hrest, rfl⟩
  · have hlt := hmore.mpr hrest
    have hitems : ((fetch key selected rows bound (limit + 1)).take limit).length = limit :=
      List.length_take_of_le hlt.le
    have hlast := List.getLast?_eq_some_getLast (List.ne_nil_of_length_pos (hitems.symm ▸ hlimit))
    rw [if_pos hlt, hlast]
    exact Or.inr ⟨_, hrest, rfl, rfl⟩

theorem le_of_getLast? {items : List α} {last row : α}
    (hsorted : items.Pairwise fun a b ↦ key b < key a) (hlast : items.getLast? = some last)
    (hrow : row ∈ items) : key last ≤ key row := by
  obtain ⟨init, rfl⟩ := List.getLast?_eq_some_iff.mp hlast
  rcases List.mem_append.mp hrow with hinit | hlast
  · exact ((List.pairwise_append.mp hsorted).2.2 row hinit last List.mem_cons_self).le
  · rw [List.mem_singleton.mp hlast]

theorem after_of_lt {row last : α} (hlast : after key bound last = true)
    (h : key row < key last) : after key bound row = true := by
  cases bound with
  | none => rfl
  | some k => exact after_some.mpr (h.trans (after_some.mp hlast))

/-- All rows of all pages come after the bound of the first one. -/
theorem after_of_mem_pages (h : Proper key fetches) {item : α}
    (hitem : item ∈ (pages key selected bound fetches).flatMap Prod.fst) :
    after key bound item = true := by
  induction fetches generalizing bound with
  | nil => exact absurd hitem List.not_mem_nil
  | cons f later ih =>
      obtain ⟨rows, limit⟩ := f
      obtain ⟨items, rest, hsplit, _, hcases⟩ := pages_cons selected bound h
      have hitems : ∀ row ∈ items, after key bound row = true := fun row hrow ↦
        (mem_select.mp (hsplit ▸ List.mem_append_left rest hrow)).2.2
      rcases hcases with ⟨_, hpages⟩ | ⟨last, _, hlast, hpages⟩
      · rw [hpages, List.flatMap_singleton] at hitem
        exact hitems item hitem
      · rw [hpages, List.flatMap_cons, List.mem_append] at hitem
        rcases hitem with hitem | hitem
        · exact hitems item hitem
        · have hlt := after_some.mp (ih h.tail hitem)
          exact after_of_lt (hitems last (List.mem_of_getLast? hlast)) hlt

theorem pairwise_pages (h : Proper key fetches) :
    ((pages key selected bound fetches).flatMap Prod.fst).Pairwise
      fun a b ↦ key b < key a := by
  induction fetches generalizing bound with
  | nil => exact List.Pairwise.nil
  | cons f later ih =>
      obtain ⟨rows, limit⟩ := f
      obtain ⟨items, rest, _, hsorted, hcases⟩ := pages_cons selected bound h
      have hitems := (List.pairwise_append.mp hsorted).1
      rcases hcases with ⟨_, hpages⟩ | ⟨last, _, hlast, hpages⟩
      · rw [hpages, List.flatMap_singleton]
        exact hitems
      · rw [hpages, List.flatMap_cons]
        refine List.pairwise_append.mpr ⟨hitems, ih h.tail, fun a ha b hb ↦ ?_⟩
        exact (after_some.mp (after_of_mem_pages h.tail hb)).trans_le
          (le_of_getLast? hitems hlast ha)

/-- A page has rows of its table, and it says that there are others exactly when the table
has a selected row after all rows that have been listed so far. -/
theorem pages_getElem? (h : Proper key fetches) {i : ℕ} {page : List α × Bool}
    (hpage : (pages key selected bound fetches)[i]? = some page) :
    ∃ f, fetches[i]? = some f ∧
      (∀ item ∈ page.1, item ∈ f.1 ∧ selected item = true) ∧
      (page.2 = true ↔ ∃ row ∈ f.1, selected row = true ∧ after key bound row = true ∧
        ∀ item ∈ ((pages key selected bound fetches).take (i + 1)).flatMap Prod.fst,
          key row < key item) := by
  induction fetches generalizing bound i with
  | nil => cases hpage
  | cons f later ih =>
      obtain ⟨rows, limit⟩ := f
      obtain ⟨items, rest, hsplit, hsorted, hcases⟩ := pages_cons selected bound h
      obtain ⟨hitems, _, hbetween⟩ := List.pairwise_append.mp hsorted
      have hmem : ∀ {row}, row ∈ items ++ rest ↔ row ∈ rows ∧ selected row = true ∧
          after key bound row = true := by
        intro row
        rw [← hsplit, mem_select]
      have hfirst : ∀ item ∈ items, item ∈ rows ∧ selected item = true := fun item hitem ↦
        ⟨(hmem.mp (List.mem_append_left rest hitem)).1,
          (hmem.mp (List.mem_append_left rest hitem)).2.1⟩
      rcases hcases with ⟨rfl, hpages⟩ | ⟨last, hrest, hlast, hpages⟩
      · rw [hpages] at hpage ⊢
        cases i with
        | zero =>
            cases hpage
            refine ⟨_, rfl, hfirst, iff_of_false Bool.false_ne_true ?_⟩
            rintro ⟨row, hrow, hselected, hafter, hbelow⟩
            have hitem := hmem.mpr ⟨hrow, hselected, hafter⟩
            rw [List.append_nil] at hitem
            exact lt_irrefl _ (hbelow row (by simpa using hitem))
        | succ i => cases hpage
      · rw [hpages] at hpage ⊢
        cases i with
        | zero =>
            cases hpage
            refine ⟨_, rfl, hfirst, iff_of_true rfl ?_⟩
            obtain ⟨row, hrow⟩ := List.exists_mem_of_ne_nil rest hrest
            obtain ⟨hrows, hselected, hafter⟩ := hmem.mp (List.mem_append_right items hrow)
            refine ⟨row, hrows, hselected, hafter, fun item hitem ↦ hbetween item ?_ row hrow⟩
            simpa using hitem
        | succ i =>
            obtain ⟨f, hf, hpageitems, hmore⟩ := ih h.tail hpage
            refine ⟨f, hf, hpageitems, hmore.trans ?_⟩
            have hlastitem := List.mem_of_getLast? hlast
            have hlastafter := (hmem.mp (List.mem_append_left rest hlastitem)).2.2
            refine exists_congr fun row ↦ and_congr_right fun _ ↦ and_congr_right fun _ ↦ ?_
            rw [List.take_succ_cons, List.flatMap_cons]
            constructor
            · rintro ⟨hafter, hbelow⟩
              have hlt := after_some.mp hafter
              refine ⟨after_of_lt hlastafter hlt, fun item hitem ↦ ?_⟩
              rcases List.mem_append.mp hitem with hitem | hitem
              · exact hlt.trans_le (le_of_getLast? hitems hlast hitem)
              · exact hbelow item hitem
            · rintro ⟨_, hbelow⟩
              exact ⟨after_some.mpr (hbelow last (List.mem_append_left _ hlastitem)),
                fun item hitem ↦ hbelow item (List.mem_append_right _ hitem)⟩

theorem Complete.tail {items : List α} {ps : List (List α × Bool)}
    (h : Complete ((items, true) :: ps)) : Complete ps := by
  obtain ⟨items', hlast⟩ := h
  cases ps with
  | nil => cases hlast
  | cons p ps => exact ⟨items', by rwa [List.getLast?_cons_cons] at hlast⟩

/-- A key that every table has on a selected row is listed. -/
theorem exists_mem_pages (h : Proper key fetches)
    (hcomplete : Complete (pages key selected bound fetches)) {k : κ}
    (hbound : ∀ b ∈ bound, k < b)
    (hthroughout : ∀ f ∈ fetches.take (pages key selected bound fetches).length,
      ∃ row ∈ f.1, selected row = true ∧ key row = k) :
    ∃ item ∈ (pages key selected bound fetches).flatMap Prod.fst, key item = k := by
  induction fetches generalizing bound with
  | nil =>
      obtain ⟨items, hlast⟩ := hcomplete
      cases hlast
  | cons f later ih =>
      obtain ⟨rows, limit⟩ := f
      obtain ⟨items, rest, hsplit, hsorted, hcases⟩ := pages_cons selected bound h
      have hbetween := (List.pairwise_append.mp hsorted).2.2
      have hpos : 0 < (pages key selected bound ((rows, limit) :: later)).length := by
        rcases hcases with ⟨_, hpages⟩ | ⟨_, _, _, hpages⟩
        · rw [hpages]
          exact Nat.succ_pos _
        · rw [hpages]
          exact Nat.succ_pos _
      obtain ⟨n, hn⟩ := Nat.exists_eq_succ_of_ne_zero hpos.ne'
      rw [hn, List.take_succ_cons] at hthroughout
      obtain ⟨row, hrow, hselected, rfl⟩ := hthroughout _ List.mem_cons_self
      have hafter : after key bound row = true := by
        cases bound with
        | none => rfl
        | some b => exact after_some.mpr (hbound b rfl)
      have hfound : row ∈ items ++ rest := hsplit ▸ mem_select.mpr ⟨hrow, hselected, hafter⟩
      rcases hcases with ⟨rfl, hpages⟩ | ⟨last, _, hlast, hpages⟩
      · rw [List.append_nil] at hfound
        exact ⟨row, by rwa [hpages, List.flatMap_singleton], rfl⟩
      · rw [hpages, List.flatMap_cons]
        rcases List.mem_append.mp hfound with hitem | hrest
        · exact ⟨row, List.mem_append_left _ hitem, rfl⟩
        · rw [hpages] at hcomplete hn
          rw [← Nat.succ.inj hn] at hthroughout
          have hlt := hbetween last (List.mem_of_getLast? hlast) row hrest
          obtain ⟨item, hitem, hkey⟩ := ih h.tail hcomplete.tail
            (fun b hb ↦ by cases hb; exact hlt) (List.forall_mem_cons.mp hthroughout).2
          exact ⟨item, List.mem_append_right _ hitem, hkey⟩

/-- More fetches than keys list everything: a page that has others takes a key with it. -/
theorem complete_of_card_lt (h : Proper key fetches) {keys : Finset κ}
    (hkeys : ∀ f ∈ fetches, ∀ row ∈ f.1, selected row = true → after key bound row = true →
      key row ∈ keys)
    (hcard : keys.card < fetches.length) : Complete (pages key selected bound fetches) := by
  induction fetches generalizing bound keys with
  | nil => exact absurd hcard (Nat.not_lt_zero _)
  | cons f later ih =>
      obtain ⟨rows, limit⟩ := f
      obtain ⟨items, rest, hsplit, _, hcases⟩ := pages_cons selected bound h
      rcases hcases with ⟨_, hpages⟩ | ⟨last, _, hlast, hpages⟩
      · rw [hpages]
        exact ⟨items, rfl⟩
      · have hlastitem := List.mem_append_left rest (List.mem_of_getLast? hlast)
        obtain ⟨hlastrows, hlastselected, hlastafter⟩ := mem_select.mp (hsplit ▸ hlastitem)
        have hmem := hkeys _ List.mem_cons_self last hlastrows hlastselected hlastafter
        have hkeys' : ∀ f ∈ later, ∀ row ∈ f.1, selected row = true →
            after key (some (key last)) row = true → key row ∈ keys.erase (key last) := by
          intro f hf row hrow hselected hafter
          have hlt := after_some.mp hafter
          exact Finset.mem_erase.mpr ⟨hlt.ne, hkeys f (List.mem_cons_of_mem _ hf) row hrow
            hselected (after_of_lt hlastafter hlt)⟩
        have hcard' : (keys.erase (key last)).card < later.length := by
          have hpos := Finset.card_pos.mpr ⟨_, hmem⟩
          rw [List.length_cons] at hcard
          rw [Finset.card_erase_of_mem hmem]
          omega
        obtain ⟨final, hfinal⟩ := ih h.tail hkeys' hcard'
        rw [hpages]
        exact ⟨final, by rw [List.getLast?_cons, hfinal, Option.getD_some]⟩

end Keyset
