import Mathlib.Data.Prod.Lex
import SmartGate.Lib.Keyset
import SmartGate.Storage.Audit

/-!
# Lists in pages

Every list operation answers a page of rows, newest first, and a cursor for the next page.
The cursor has the creation time and the identifier of the last row of the page.  The text
of a cursor is not looked into: encoding and decoding are given, and are assumed to undo
each other.
-/

namespace SmartGate

theorem Uuid.toNat_injective : Function.Injective fun u : Uuid ↦ u.bits.toNat := by
  intro a b h
  cases a
  cases b
  exact congrArg Uuid.mk (BitVec.eq_of_toNat_eq h)

/-- Identifiers are compared byte by byte. -/
instance : LinearOrder Uuid := LinearOrder.lift' (fun u ↦ u.bits.toNat) Uuid.toNat_injective

/-- The columns `created_at` and `id`, compared as a tuple. -/
abbrev RowKey := ℕ ×ₗ Uuid

structure Cursor where
  text : String

structure CursorCodec where
  encode : RowKey → Cursor
  decode : Cursor → Except String RowKey
  decode_encode : ∀ key, decode (encode key) = .ok key

structure Page (β : Type) where
  items : List β
  nextCursor : Option Cursor
  hasMore : Bool

def Page.fromRows {β : Type} (codec : CursorCodec) (rows : List β) (limit : ℕ)
    (cursorFn : β → RowKey) : Page β :=
  let hasMore := decide (limit < rows.length)
  let items := rows.take limit
  let nextCursor :=
    if hasMore then items.getLast?.map fun item ↦ codec.encode (cursorFn item) else none
  { items, nextCursor, hasMore }

/-- The page size and the number of rows to fetch. -/
def clampLimit (limit : ℤ) : ℕ × ℤ :=
  let clamped := max 1 (min limit 200)
  (clamped.toNat, clamped + 1)

theorem clampLimit_pos (limit : ℤ) : 0 < (clampLimit limit).1 := by
  unfold clampLimit
  dsimp only
  omega

theorem clampLimit_fetch (limit : ℤ) :
    (clampLimit limit).2.toNat = (clampLimit limit).1 + 1 := by
  unfold clampLimit
  dsimp only
  omega

/-! ## The statements -/

/-- What a list statement says about its table: the columns that order it, the condition,
and how its rows are read. -/
structure Listing (ρ β : Type) where
  key : ρ → RowKey
  selected : ρ → Bool
  encode : β → ρ
  decode : List ρ → Except StorageError (List β)
  Readable : ρ → Prop
  decode_eq_ok : ∀ {rows items}, decode rows = .ok items → rows = items.map encode
  decode_of_readable : ∀ {rows}, (∀ row ∈ rows, Readable row) → ∃ items, decode rows = .ok items

/-- A list of rows that can always be read. -/
def Listing.plain {ρ : Type} (key : ρ → RowKey) (selected : ρ → Bool) : Listing ρ ρ where
  key := key
  selected := selected
  encode := id
  decode := .ok
  Readable := fun _ ↦ True
  decode_eq_ok := by
    intro rows items h
    cases h
    rw [List.map_id]
  decode_of_readable := fun {rows} _ ↦ ⟨rows, rfl⟩

def CursorCodec.bound (codec : CursorCodec) : Option Cursor → Except StorageError (Option RowKey)
  | none => .ok none
  | some cursor => ((codec.decode cursor).mapError StorageError.invalidCursor).map some

variable {ρ β : Type}

/-- What the list operations of all repositories do. -/
def Listing.page (L : Listing ρ β) (codec : CursorCodec) (rows : List ρ)
    (cursor : Option Cursor) (limit : ℤ) : Except StorageError (Page β) := do
  let bound ← codec.bound cursor
  let (limit, fetchLimit) := clampLimit limit
  let items ← L.decode (Keyset.fetch L.key L.selected rows bound fetchLimit.toNat)
  return Page.fromRows codec items limit fun item ↦ L.key (L.encode item)

def tenantListing (status : Option TenantStatus) : Listing Tenant Tenant :=
  .plain (fun t ↦ toLex (t.createdAt, t.id.uuid))
    fun t ↦ status.all fun status ↦ decide (t.status = status)

def serviceAccountListing (tenantId : TenantId) : Listing ServiceAccount ServiceAccount :=
  .plain (fun a ↦ toLex (a.createdAt, a.id.uuid)) fun a ↦ decide (a.tenantId = tenantId)

def keyListing (sa : ServiceAccountId) : Listing ServiceAccountKey ServiceAccountKey :=
  .plain (fun k ↦ toLex (k.createdAt, k.id.uuid)) fun k ↦ decide (k.serviceAccountId = sa)

def policyListing (tenantId : TenantId) : Listing Policy Policy :=
  .plain (fun p ↦ toLex (p.createdAt, p.id.uuid)) fun p ↦ decide (p.tenantId = tenantId)

/-- The routes of a tenant, or those without one. -/
def routeListing (tenantId : Option TenantId) : Listing RouteRow ProviderRoute where
  key r := toLex (r.createdAt, r.id.uuid)
  selected r := decide (r.tenantId = tenantId)
  encode := Route.encode
  decode := decodeRows
  Readable r := (Provider.decode r.provider).isSome
  decode_eq_ok := decodeRows_eq_ok
  decode_of_readable := decodeRows_of_isSome

def auditListing (filter : AuditFilter) : Listing AuditEvent AuditEvent :=
  .plain (fun e ↦ toLex (e.createdAt, e.id.uuid)) filter.selects

def TenantRepo.list (codec : CursorCodec) (db : Database) (cursor : Option Cursor) (limit : ℤ)
    (status : Option TenantStatus) : Except StorageError (Page Tenant) :=
  (tenantListing status).page codec db.tenants.rows cursor limit

def ServiceAccountRepo.listByTenant (codec : CursorCodec) (db : Database) (tenantId : TenantId)
    (cursor : Option Cursor) (limit : ℤ) : Except StorageError (Page ServiceAccount) :=
  (serviceAccountListing tenantId).page codec db.serviceAccounts.rows cursor limit

def KeyRepo.listByServiceAccount (codec : CursorCodec) (db : Database) (sa : ServiceAccountId)
    (cursor : Option Cursor) (limit : ℤ) : Except StorageError (Page ServiceAccountKey) :=
  (keyListing sa).page codec db.keys.rows cursor limit

def PolicyRepo.listByTenant (codec : CursorCodec) (db : Database) (tenantId : TenantId)
    (cursor : Option Cursor) (limit : ℤ) : Except StorageError (Page Policy) :=
  (policyListing tenantId).page codec db.policies.rows cursor limit

def RouteRepo.listByTenant (codec : CursorCodec) (db : RouteDatabase) (tenantId : TenantId)
    (cursor : Option Cursor) (limit : ℤ) : Except StorageError (Page ProviderRoute) :=
  (routeListing (some tenantId)).page codec db.routes.rows cursor limit

def RouteRepo.listGlobal (codec : CursorCodec) (db : RouteDatabase) (cursor : Option Cursor)
    (limit : ℤ) : Except StorageError (Page ProviderRoute) :=
  (routeListing none).page codec db.routes.rows cursor limit

def AuditRepo.list (codec : CursorCodec) (db : GatewayDatabase) (filter : AuditFilter)
    (cursor : Option Cursor) (limit : ℤ) : Except StorageError (Page AuditEvent) :=
  (auditListing filter).page codec db.auditEvents.rows cursor limit

/-! ## Following the cursors -/

/-- The pages that a client gets which asks for a page, and for the next one as long as it
is told that there are more.  Each fetch has the state of the database and the limit at the
time. -/
def follow {σ : Type} (list : σ → Option Cursor → ℤ → Except StorageError (Page β)) :
    Option Cursor → List (σ × ℤ) → Except StorageError (List (Page β))
  | _, [] => .ok []
  | cursor, (s, limit) :: later => do
      let page ← list s cursor limit
      if page.hasMore then
        let pages ← follow list page.nextCursor later
        return page :: pages
      else return [page]

/-! ## A listing goes through its table in pages -/

theorem CursorCodec.bound_map (codec : CursorCodec) (bound : Option RowKey) :
    codec.bound (bound.map codec.encode) = .ok bound := by
  cases bound with
  | none => rfl
  | some key =>
      rw [Option.map_some, CursorCodec.bound, codec.decode_encode]
      rfl

namespace Listing

variable {L : Listing ρ β} {codec : CursorCodec} {rows : List ρ} {bound : Option RowKey}
  {limit : ℤ}

/-- A page has the rows of a fetch, and its cursor is the key of the last one. -/
theorem page_eq_ok {page : Page β}
    (h : L.page codec rows (bound.map codec.encode) limit = .ok page) :
    let found := Keyset.fetch L.key L.selected rows bound ((clampLimit limit).1 + 1)
    page.items.map L.encode = found.take (clampLimit limit).1 ∧
      page.hasMore = decide ((clampLimit limit).1 < found.length) ∧
      page.nextCursor = if page.hasMore then
        ((found.take (clampLimit limit).1).getLast?.map L.key).map codec.encode else none := by
  obtain ⟨_, hbound, hrest⟩ := bind_eq_ok.mp h
  rw [codec.bound_map] at hbound
  cases hbound
  obtain ⟨items, hdecode, hreturn⟩ := bind_eq_ok.mp hrest
  have hfetched : L.decode (Keyset.fetch L.key L.selected rows bound
      (clampLimit limit).2.toNat) = .ok items := hdecode
  have hpage : page = Page.fromRows codec items (clampLimit limit).1
      fun item ↦ L.key (L.encode item) := (Except.ok.inj hreturn).symm
  rw [clampLimit_fetch] at hfetched
  subst hpage
  dsimp only
  rw [L.decode_eq_ok hfetched, ← List.map_take, List.length_map, List.getLast?_map]
  refine ⟨rfl, rfl, ?_⟩
  rw [Option.map_map, Option.map_map]
  rfl

theorem page_of_readable (h : ∀ row ∈ rows, L.selected row = true → L.Readable row)
    (codec : CursorCodec) (bound : Option RowKey) (limit : ℤ) :
    ∃ page, L.page codec rows (bound.map codec.encode) limit = .ok page := by
  have hfetched : ∀ row ∈ Keyset.fetch L.key L.selected rows bound (clampLimit limit).2.toNat,
      L.Readable row := by
    intro row hrow
    obtain ⟨hmem, hselected, _⟩ := Keyset.mem_select.mp (List.mem_of_mem_take hrow)
    exact h row hmem hselected
  obtain ⟨items, hitems⟩ := L.decode_of_readable hfetched
  refine ⟨Page.fromRows codec items (clampLimit limit).1 fun item ↦ L.key (L.encode item), ?_⟩
  exact bind_eq_ok.mpr ⟨bound, codec.bound_map bound, bind_eq_ok.mpr ⟨items, hitems, rfl⟩⟩

/-- What a client has been told, as pages of stored rows. -/
def stored (L : Listing ρ β) (pages : List (Page β)) : List (List ρ × Bool) :=
  pages.map fun page ↦ (page.items.map L.encode, page.hasMore)

variable {σ : Type} {table : σ → List ρ} {fetches : List (σ × ℤ)} {pages : List (Page β)}

/-- Each fetch as one of a table with a page size. -/
def tables (table : σ → List ρ) (fetches : List (σ × ℤ)) : List (List ρ × ℕ) :=
  fetches.map fun f ↦ (table f.1, (clampLimit f.2).1)

/-- Following the cursors is following the bounds that they encode. -/
theorem follow_eq_ok (h : follow (fun s ↦ L.page codec (table s)) (bound.map codec.encode)
      fetches = .ok pages) :
    L.stored pages = Keyset.pages L.key L.selected bound (tables table fetches) ∧
      ∀ page ∈ pages, page.hasMore = true → page.nextCursor.isSome := by
  induction fetches generalizing bound pages with
  | nil =>
      cases h
      exact ⟨rfl, fun _ hpage ↦ absurd hpage List.not_mem_nil⟩
  | cons f later ih =>
      obtain ⟨s, limit⟩ := f
      rw [follow] at h
      obtain ⟨page, hpage, hrest⟩ := bind_eq_ok.mp h
      obtain ⟨hitems, hmore, hcursor⟩ := page_eq_ok hpage
      rw [tables, List.map_cons, Keyset.pages]
      by_cases hlt : (clampLimit limit).1 <
          (Keyset.fetch L.key L.selected (table s) bound ((clampLimit limit).1 + 1)).length
      · have htrue : page.hasMore = true := hmore.trans (decide_eq_true hlt)
        rw [htrue, if_pos rfl] at hrest hcursor
        obtain ⟨later', hlater, hreturn⟩ := bind_eq_ok.mp hrest
        cases hreturn
        rw [hcursor] at hlater
        obtain ⟨hstored, hcursors⟩ := ih hlater
        refine ⟨?_, List.forall_mem_cons.mpr ⟨fun _ ↦ ?_, hcursors⟩⟩
        · rw [if_pos hlt, ← hitems, stored, List.map_cons, htrue]
          rw [← hitems] at hstored
          exact congrArg _ hstored
        · have hlength := List.length_take_of_le hlt.le
          have hne := List.ne_nil_of_length_pos (hlength.symm ▸ clampLimit_pos limit)
          rw [hcursor, List.getLast?_eq_some_getLast hne]
          rfl
      · have hfalse : page.hasMore = false := hmore.trans (decide_eq_false hlt)
        rw [hfalse] at hrest
        cases hrest
        refine ⟨?_, List.forall_mem_cons.mpr ⟨fun htrue ↦ ?_, fun _ h ↦ absurd h List.not_mem_nil⟩⟩
        · rw [if_neg hlt, ← hitems, stored, List.map_singleton, hfalse]
        · rw [hfalse] at htrue
          cases htrue

theorem follow_of_readable (codec : CursorCodec) (bound : Option RowKey)
    (h : ∀ f ∈ fetches, ∀ row ∈ table f.1, L.selected row = true → L.Readable row) :
    ∃ pages, follow (fun s ↦ L.page codec (table s)) (bound.map codec.encode) fetches =
      .ok pages := by
  induction fetches generalizing bound with
  | nil => exact ⟨[], rfl⟩
  | cons f later ih =>
      obtain ⟨hfirst, hlater⟩ := List.forall_mem_cons.mp h
      obtain ⟨page, hpage⟩ := page_of_readable hfirst codec bound f.2
      obtain ⟨_, _, hcursor⟩ := page_eq_ok hpage
      cases hmore : page.hasMore with
      | false =>
          refine ⟨[page], bind_eq_ok.mpr ⟨page, hpage, ?_⟩⟩
          rw [hmore]
          rfl
      | true =>
          rw [hmore, if_pos rfl] at hcursor
          obtain ⟨pages, hpages⟩ := ih _ hlater
          refine ⟨page :: pages, bind_eq_ok.mpr ⟨page, hpage, ?_⟩⟩
          rw [hmore, if_pos rfl, hcursor]
          exact bind_eq_ok.mpr ⟨pages, hpages, rfl⟩

def id (L : Listing ρ β) (row : ρ) : Uuid := (ofLex (L.key row)).2

def createdAt (L : Listing ρ β) (row : ρ) : ℕ := (ofLex (L.key row)).1

theorem key_ext {row row' : ρ} (hid : L.id row = L.id row')
    (hcreated : L.createdAt row = L.createdAt row') : L.key row = L.key row' :=
  ofLex.injective (Prod.ext hcreated hid)

theorem flatMap_stored (pages : List (Page β)) :
    (L.stored pages).flatMap Prod.fst = (pages.flatMap Page.items).map L.encode := by
  induction pages with
  | nil => rfl
  | cons page pages ih =>
      rw [stored, List.map_cons, List.flatMap_cons, List.flatMap_cons, List.map_append]
      exact congrArg _ ih

theorem proper_tables (hunique : ∀ s, ((table s).map L.id).Nodup) :
    Keyset.Proper L.key (tables table fetches) := by
  intro f hf
  obtain ⟨⟨s, limit⟩, _, rfl⟩ := List.mem_map.mp hf
  refine ⟨List.Nodup.of_map (fun key ↦ (ofLex key).2) ?_, clampLimit_pos limit⟩
  rw [List.map_map]
  exact hunique s

theorem follow_none (h : follow (fun s ↦ L.page codec (table s)) none fetches = .ok pages) :
    L.stored pages = Keyset.pages L.key L.selected none (tables table fetches) ∧
      ∀ page ∈ pages, page.hasMore = true → page.nextCursor.isSome := by
  have hnone : follow (fun s ↦ L.page codec (table s)) ((none : Option RowKey).map codec.encode)
      fetches = .ok pages := h
  exact follow_eq_ok hnone

theorem pairwise_items (hunique : ∀ s, ((table s).map L.id).Nodup)
    (h : follow (fun s ↦ L.page codec (table s)) none fetches = .ok pages) :
    (pages.flatMap Page.items).Pairwise
      fun a b ↦ L.key (L.encode b) < L.key (L.encode a) := by
  have hsorted : ((pages.flatMap Page.items).map L.encode).Pairwise
      fun a b ↦ L.key b < L.key a := by
    rw [← L.flatMap_stored, (follow_none h).1]
    exact Keyset.pairwise_pages (proper_tables hunique)
  exact List.pairwise_map.mp hsorted

theorem getElem?_pages (hunique : ∀ s, ((table s).map L.id).Nodup)
    (h : follow (fun s ↦ L.page codec (table s)) none fetches = .ok pages) {i : ℕ}
    {page : Page β} (hpage : pages[i]? = some page) :
    ∃ f, fetches[i]? = some f ∧
      (∀ item ∈ page.items, L.encode item ∈ (table f.1).filter L.selected) ∧
      (page.hasMore = true ↔ ∃ row ∈ (table f.1).filter L.selected,
        ∀ item ∈ (pages.take (i + 1)).flatMap Page.items,
          L.key row < L.key (L.encode item)) := by
  have hstored := (follow_none h).1
  have hpage' : (Keyset.pages L.key L.selected none (tables table fetches))[i]? =
      some (page.items.map L.encode, page.hasMore) := by
    rw [← hstored, stored, List.getElem?_map, hpage]
    rfl
  obtain ⟨f, hf, hitems, hmore⟩ := Keyset.pages_getElem? (proper_tables hunique) hpage'
  rw [tables, List.getElem?_map, Option.map_eq_some_iff] at hf
  obtain ⟨f, hf, rfl⟩ := hf
  refine ⟨f, hf, fun item hitem ↦ ?_, hmore.trans (exists_congr fun row ↦ ?_)⟩
  · exact List.mem_filter.mpr (hitems _ (List.mem_map_of_mem hitem))
  · rw [← hstored, stored, ← List.map_take, ← stored, flatMap_stored, List.forall_mem_map,
      List.mem_filter, and_assoc]
    exact and_congr_right fun _ ↦ and_congr_right fun _ ↦ ⟨fun h ↦ h.2, fun h ↦ ⟨rfl, h⟩⟩

theorem mem_table_of_mem_items (hunique : ∀ s, ((table s).map L.id).Nodup)
    (h : follow (fun s ↦ L.page codec (table s)) none fetches = .ok pages) {item : β}
    (hitem : item ∈ pages.flatMap Page.items) :
    ∃ f ∈ fetches, L.encode item ∈ (table f.1).filter L.selected := by
  obtain ⟨page, hpage, hitem⟩ := List.mem_flatMap.mp hitem
  obtain ⟨i, hi⟩ := List.mem_iff_getElem?.mp hpage
  obtain ⟨f, hf, hitems, _⟩ := getElem?_pages hunique h hi
  exact ⟨f, List.mem_of_getElem? hf, hitems item hitem⟩

end Listing

/-- The last page says that there are no more. -/
def Finished (pages : List (Page β)) : Prop :=
  ∃ page, pages.getLast? = some page ∧ page.hasMore = false

theorem Listing.complete_stored (L : Listing ρ β) {pages : List (Page β)} :
    Keyset.Complete (L.stored pages) ↔ Finished pages := by
  unfold Keyset.Complete Finished Listing.stored
  rw [List.getLast?_map]
  constructor
  · rintro ⟨items, h⟩
    obtain ⟨page, hlast, heq⟩ := Option.map_eq_some_iff.mp h
    exact ⟨page, hlast, (Prod.mk.inj heq).2⟩
  · rintro ⟨page, hlast, hmore⟩
    exact ⟨page.items.map L.encode, by rw [hlast, Option.map_some, hmore]⟩

namespace Listing

variable {L : Listing ρ β} {codec : CursorCodec} {σ : Type} {table : σ → List ρ}
  {fetches : List (σ × ℤ)} {pages : List (Page β)}

theorem exists_mem_take (hunique : ∀ s, ((table s).map L.id).Nodup)
    (h : follow (fun s ↦ L.page codec (table s)) none fetches = .ok pages)
    (hfinished : Finished pages) : ∃ f, f ∈ fetches.take pages.length := by
  obtain ⟨last, hlast, _⟩ := hfinished
  cases pages with
  | nil => cases hlast
  | cons page pages =>
      obtain ⟨f, hf, _⟩ := getElem?_pages hunique h (i := 0) rfl
      cases fetches with
      | nil => cases hf
      | cons g later =>
          rw [List.length_cons, List.take_succ_cons]
          exact ⟨g, List.mem_cons_self⟩

theorem exists_mem_items (hunique : ∀ s, ((table s).map L.id).Nodup)
    (h : follow (fun s ↦ L.page codec (table s)) none fetches = .ok pages)
    (hfinished : Finished pages) {key : RowKey}
    (hthroughout : ∀ f ∈ fetches.take pages.length,
      ∃ row ∈ (table f.1).filter L.selected, L.key row = key) :
    ∃ item ∈ pages.flatMap Page.items, L.key (L.encode item) = key := by
  have hcomplete := L.complete_stored.mpr hfinished
  have hlength : (L.stored pages).length = pages.length := List.length_map _
  rw [(follow_none h).1] at hcomplete hlength
  obtain ⟨row, hrow, hkey⟩ := Keyset.exists_mem_pages (proper_tables hunique) hcomplete
    (fun b hb ↦ by cases hb) (fun f hf ↦ by
      rw [hlength, tables, ← List.map_take] at hf
      obtain ⟨f, hmem, rfl⟩ := List.mem_map.mp hf
      obtain ⟨row, hrow, hkey⟩ := hthroughout f hmem
      exact ⟨row, (List.mem_filter.mp hrow).1, (List.mem_filter.mp hrow).2, hkey⟩)
  rw [← (follow_none h).1, L.flatMap_stored] at hrow
  obtain ⟨item, hitem, rfl⟩ := List.mem_map.mp hrow
  exact ⟨item, hitem, hkey⟩

theorem finished_of_card_lt (hunique : ∀ s, ((table s).map L.id).Nodup)
    (h : follow (fun s ↦ L.page codec (table s)) none fetches = .ok pages)
    {keys : Finset RowKey}
    (hkeys : ∀ f ∈ fetches, ∀ row ∈ (table f.1).filter L.selected, L.key row ∈ keys)
    (hcard : keys.card < fetches.length) : Finished pages := by
  rw [← L.complete_stored, (follow_none h).1]
  refine Keyset.complete_of_card_lt (proper_tables hunique) (fun f hf row hrow hselected _ ↦ ?_)
    (hcard.trans_eq (List.length_map _).symm)
  obtain ⟨f, hmem, rfl⟩ := List.mem_map.mp hf
  exact hkeys f hmem row (List.mem_filter.mpr ⟨hrow, hselected⟩)

/-- A table that does not change between the fetches is listed as it is. -/
theorem perm_items (hunique : ∀ s, ((table s).map L.id).Nodup) {s : σ} {limits : List ℤ}
    (h : follow (fun s ↦ L.page codec (table s)) none (limits.map fun limit ↦ (s, limit)) =
      .ok pages) (hfinished : Finished pages) :
    ((pages.flatMap Page.items).map L.encode).Perm ((table s).filter L.selected) := by
  have hsorted := pairwise_items hunique h
  have hitems : ((pages.flatMap Page.items).map L.encode).Nodup :=
    List.pairwise_map.mpr (hsorted.imp fun hlt heq ↦ hlt.ne' (congrArg L.key heq))
  have hrows : ((table s).filter L.selected).Nodup := (hunique s).of_map.filter _
  refine (List.perm_ext_iff_of_nodup hitems hrows).mpr fun row ↦ ⟨fun hrow ↦ ?_, fun hrow ↦ ?_⟩
  · obtain ⟨item, hitem, rfl⟩ := List.mem_map.mp hrow
    obtain ⟨f, hf, hmem⟩ := mem_table_of_mem_items hunique h hitem
    obtain ⟨limit, _, rfl⟩ := List.mem_map.mp hf
    exact hmem
  · have hthroughout : ∀ f ∈ (limits.map fun limit ↦ (s, limit)).take pages.length,
        ∃ row' ∈ (table f.1).filter L.selected, L.key row' = L.key row := by
      intro f hf
      obtain ⟨limit, _, rfl⟩ := List.mem_map.mp (List.mem_of_mem_take hf)
      exact ⟨row, hrow, rfl⟩
    obtain ⟨item, hitem, hkey⟩ := exists_mem_items hunique h hfinished hthroughout
    obtain ⟨f, hf, hmem⟩ := mem_table_of_mem_items hunique h hitem
    obtain ⟨limit, _, rfl⟩ := List.mem_map.mp hf
    have hid : L.id (L.encode item) = L.id row := congrArg (fun key ↦ (ofLex key).2) hkey
    have heq := List.inj_on_of_nodup_map (hunique s) (List.mem_filter.mp hmem).1
      (List.mem_filter.mp hrow).1 hid
    exact List.mem_map.mpr ⟨item, hitem, heq⟩

theorem lists_table (L : Listing ρ β) (codec : CursorCodec) (table : σ → List ρ)
    (hunique : ∀ s, ((table s).map L.id).Nodup) {s : σ} {limits : List ℤ}
    (hreadable : ∀ row ∈ table s, L.Readable row) (hlimits : (table s).length < limits.length) :
    ∃ pages, follow (fun s ↦ L.page codec (table s)) none (limits.map fun limit ↦ (s, limit)) =
        .ok pages ∧ Finished pages ∧
      ((pages.flatMap Page.items).map L.encode).Perm ((table s).filter L.selected) := by
  have hsame : ∀ f ∈ limits.map fun limit ↦ (s, limit), f.1 = s := by
    intro f hf
    obtain ⟨limit, _, rfl⟩ := List.mem_map.mp hf
    rfl
  have hread : ∀ f ∈ limits.map fun limit ↦ (s, limit), ∀ row ∈ table f.1,
      L.selected row = true → L.Readable row :=
    fun f hf row hrow _ ↦ hreadable row (hsame f hf ▸ hrow)
  obtain ⟨pages, hpages⟩ := follow_of_readable codec none hread
  have hkeys : ∀ f ∈ limits.map fun limit ↦ (s, limit), ∀ row ∈ (table f.1).filter L.selected,
      L.key row ∈ ((table s).map L.key).toFinset := by
    intro f hf row hrow
    rw [hsame f hf] at hrow
    exact List.mem_toFinset.mpr (List.mem_map_of_mem (List.mem_filter.mp hrow).1)
  have hcard : ((table s).map L.key).toFinset.card <
      (limits.map fun limit ↦ (s, limit)).length := by
    refine (List.toFinset_card_le _).trans_lt ?_
    rwa [List.length_map, List.length_map]
  have hfinished := finished_of_card_lt hunique hpages hkeys hcard
  exact ⟨pages, hpages, hfinished, perm_items hunique hpages hfinished⟩

end Listing

/-! ## The list operations -/

inductive ListQuery where
  | tenants (status : Option TenantStatus)
  | serviceAccounts (tenantId : TenantId)
  | keys (sa : ServiceAccountId)
  | policies (tenantId : TenantId)
  | routes (tenantId : TenantId)
  | globalRoutes
  | auditEvents (filter : AuditFilter)

namespace ListQuery

def Stored : ListQuery → Type
  | .tenants _ => Tenant
  | .serviceAccounts _ => ServiceAccount
  | .keys _ => ServiceAccountKey
  | .policies _ => Policy
  | .routes _ | .globalRoutes => RouteRow
  | .auditEvents _ => AuditEvent

def Row : ListQuery → Type
  | .tenants _ => Tenant
  | .serviceAccounts _ => ServiceAccount
  | .keys _ => ServiceAccountKey
  | .policies _ => Policy
  | .routes _ | .globalRoutes => ProviderRoute
  | .auditEvents _ => AuditEvent

def listing : (q : ListQuery) → Listing q.Stored q.Row
  | .tenants status => tenantListing status
  | .serviceAccounts tenantId => serviceAccountListing tenantId
  | .keys sa => keyListing sa
  | .policies tenantId => policyListing tenantId
  | .routes tenantId => routeListing (some tenantId)
  | .globalRoutes => routeListing none
  | .auditEvents filter => auditListing filter

def table : (q : ListQuery) → GatewayDatabase → List q.Stored
  | .tenants _ => fun db ↦ db.tenants.rows
  | .serviceAccounts _ => fun db ↦ db.serviceAccounts.rows
  | .keys _ => fun db ↦ db.keys.rows
  | .policies _ => fun db ↦ db.policies.rows
  | .routes _ | .globalRoutes => fun db ↦ db.routes.rows
  | .auditEvents _ => fun db ↦ db.auditEvents.rows

def list (codec : CursorCodec) : (q : ListQuery) → GatewayDatabase → Option Cursor → ℤ →
    Except StorageError (Page q.Row)
  | .tenants status => fun db cursor limit ↦ TenantRepo.list codec db.toDatabase cursor limit status
  | .serviceAccounts tenantId => fun db ↦
      ServiceAccountRepo.listByTenant codec db.toDatabase tenantId
  | .keys sa => fun db ↦ KeyRepo.listByServiceAccount codec db.toDatabase sa
  | .policies tenantId => fun db ↦ PolicyRepo.listByTenant codec db.toDatabase tenantId
  | .routes tenantId => fun db ↦ RouteRepo.listByTenant codec db.toRouteDatabase tenantId
  | .globalRoutes => fun db ↦ RouteRepo.listGlobal codec db.toRouteDatabase
  | .auditEvents filter => fun db ↦ AuditRepo.list codec db filter

theorem list_eq (codec : CursorCodec) (q : ListQuery) :
    q.list codec = fun db ↦ q.listing.page codec (q.table db) := by
  cases q <;> rfl

/-- The rows that exist and match the filter. -/
def matching (q : ListQuery) (db : GatewayDatabase) : List q.Stored :=
  (q.table db).filter q.listing.selected

theorem nodup_uuid {α ι : Type} {rows : List α} {id : α → ι} {uuid : ι → Uuid}
    (huuid : Function.Injective uuid) (h : (rows.map id).Nodup) :
    (rows.map (uuid ∘ id)).Nodup := by
  rw [← List.map_map]
  exact h.map huuid

theorem nodup_id (q : ListQuery) (db : GatewayDatabase) :
    ((q.table db).map q.listing.id).Nodup := by
  have hroute : Function.Injective RouteId.uuid := fun _ _ ↦ congrArg RouteId.mk
  cases q with
  | tenants status =>
      have htenant : Function.Injective TenantId.uuid := fun _ _ ↦ congrArg TenantId.mk
      exact (nodup_uuid htenant db.tenants.unique :)
  | serviceAccounts tenantId =>
      have haccount : Function.Injective ServiceAccountId.uuid :=
        fun _ _ ↦ congrArg ServiceAccountId.mk
      exact (nodup_uuid haccount db.serviceAccounts.unique :)
  | keys sa =>
      have hkey : Function.Injective KeyId.uuid := fun _ _ ↦ congrArg KeyId.mk
      exact (nodup_uuid hkey db.keyPrimary :)
  | policies tenantId =>
      have hpolicy : Function.Injective PolicyId.uuid := fun _ _ ↦ congrArg PolicyId.mk
      exact (nodup_uuid hpolicy db.policies.unique :)
  | routes tenantId =>
      exact (nodup_uuid hroute db.routes.unique :)
  | globalRoutes =>
      exact (nodup_uuid hroute db.routes.unique :)
  | auditEvents filter =>
      have hevent : Function.Injective AuditEventId.uuid := fun _ _ ↦ congrArg AuditEventId.mk
      exact (nodup_uuid hevent db.auditEvents.unique :)

/-- Rows keep their creation time, and no identifier is given to a second row. -/
def CreatedOnce (q : ListQuery) (dbs : List GatewayDatabase) : Prop :=
  ∀ db ∈ dbs, ∀ db' ∈ dbs, ∀ row ∈ q.table db, ∀ row' ∈ q.table db',
    q.listing.id row = q.listing.id row' → q.listing.createdAt row = q.listing.createdAt row'

instance (q : ListQuery) (dbs : List GatewayDatabase) : Decidable (q.CreatedOnce dbs) :=
  inferInstanceAs (Decidable (∀ db ∈ dbs, ∀ db' ∈ dbs, ∀ row ∈ q.table db, ∀ row' ∈ q.table db',
    q.listing.id row = q.listing.id row' → q.listing.createdAt row = q.listing.createdAt row'))

def rowKey (q : ListQuery) (item : q.Row) : RowKey := q.listing.key (q.listing.encode item)

def rowId (q : ListQuery) (item : q.Row) : Uuid := q.listing.id (q.listing.encode item)

end ListQuery

/-- Following the cursors from the first page lists rows in strictly descending order and none
of them twice, whatever is written between the fetches.  A page says that there are more
exactly when a further row matches, and then has a cursor.  Once a page says that there are no
more, every row that matched at every fetch has been listed. -/
theorem follow_lists_each_row_once (codec : CursorCodec) (q : ListQuery)
    {fetches : List (GatewayDatabase × ℤ)} (hcreated : q.CreatedOnce (fetches.map Prod.fst)) :
    ((∀ f ∈ fetches, ∀ row ∈ q.matching f.1, q.listing.Readable row) →
      ∃ pages, follow (q.list codec) none fetches = .ok pages ∧
        ∀ keys : Finset RowKey, (∀ f ∈ fetches, ∀ row ∈ q.matching f.1, q.listing.key row ∈ keys) →
          keys.card < fetches.length → Finished pages) ∧
    ∀ pages, follow (q.list codec) none fetches = .ok pages →
      (pages.flatMap Page.items).Pairwise (fun a b ↦ q.rowKey b < q.rowKey a) ∧
      ((pages.flatMap Page.items).map q.rowId).Nodup ∧
      (∀ i page, pages[i]? = some page → ∃ f, fetches[i]? = some f ∧
        (∀ item ∈ page.items, q.listing.encode item ∈ q.matching f.1) ∧
        (page.hasMore = true ↔ ∃ row ∈ q.matching f.1,
          ∀ item ∈ (pages.take (i + 1)).flatMap Page.items, q.listing.key row < q.rowKey item) ∧
        (page.hasMore = true → page.nextCursor.isSome)) ∧
      (Finished pages → ∀ id,
        (∀ f ∈ fetches.take pages.length, ∃ row ∈ q.matching f.1, q.listing.id row = id) →
          ((pages.flatMap Page.items).map q.rowId).count id = 1) := by
  have hunique := q.nodup_id
  rw [q.list_eq codec]
  constructor
  · intro hreadable
    have hread : ∀ f ∈ fetches, ∀ row ∈ q.table f.1, q.listing.selected row = true →
        q.listing.Readable row := fun f hf row hrow hselected ↦
      hreadable f hf row (List.mem_filter.mpr ⟨hrow, hselected⟩)
    obtain ⟨pages, hpages⟩ := Listing.follow_of_readable codec none hread
    exact ⟨pages, hpages, fun keys hkeys hcard ↦
      Listing.finished_of_card_lt hunique hpages hkeys hcard⟩
  · intro pages hpages
    have hsorted := Listing.pairwise_items hunique hpages
    have hnodup : ((pages.flatMap Page.items).map q.rowId).Nodup := by
      refine List.pairwise_map.mpr (hsorted.imp_of_mem fun {a b} ha hb hlt hid ↦ ?_)
      obtain ⟨f, hf, hrow⟩ := Listing.mem_table_of_mem_items hunique hpages ha
      obtain ⟨f', hf', hrow'⟩ := Listing.mem_table_of_mem_items hunique hpages hb
      have hcreatedAt := hcreated f.1 (List.mem_map_of_mem hf) f'.1 (List.mem_map_of_mem hf')
        _ (List.mem_filter.mp hrow).1 _ (List.mem_filter.mp hrow').1 hid
      exact hlt.ne' (Listing.key_ext hid hcreatedAt)
    refine ⟨hsorted, hnodup, fun i page hi ↦ ?_, fun hfinished id hthroughout ↦ ?_⟩
    · obtain ⟨f, hf, hitems, hmore⟩ := Listing.getElem?_pages hunique hpages hi
      exact ⟨f, hf, hitems, hmore, (Listing.follow_none hpages).2 page (List.mem_of_getElem? hi)⟩
    · obtain ⟨f, hf⟩ := Listing.exists_mem_take hunique hpages hfinished
      obtain ⟨row, hrow, rfl⟩ := hthroughout f hf
      have hkey : ∀ g ∈ fetches.take pages.length,
          ∃ row' ∈ q.matching g.1, q.listing.key row' = q.listing.key row := by
        intro g hg
        obtain ⟨row', hrow', hid⟩ := hthroughout g hg
        have hcreatedAt := hcreated g.1 (List.mem_map_of_mem (List.mem_of_mem_take hg)) f.1
          (List.mem_map_of_mem (List.mem_of_mem_take hf)) row' (List.mem_filter.mp hrow').1 row
          (List.mem_filter.mp hrow).1 hid
        exact ⟨row', hrow', Listing.key_ext hid hcreatedAt⟩
      obtain ⟨item, hitem, heq⟩ := Listing.exists_mem_items hunique hpages hfinished hkey
      refine List.count_eq_one_of_mem hnodup (List.mem_map.mpr ⟨item, hitem, ?_⟩)
      exact congrArg (fun key ↦ (ofLex key).2) heq

/-! ## A sample list -/

/-- Cursors with one letter for each unit of time and of the identifier. -/
def unaryCodec : CursorCodec where
  encode key := ⟨String.ofList
    (List.replicate (ofLex key).1 't' ++ List.replicate (ofLex key).2.bits.toNat 'i')⟩
  decode cursor := .ok (toLex (cursor.text.toList.count 't',
    ⟨BitVec.ofNat 128 (cursor.text.toList.count 'i')⟩))
  decode_encode := by
    intro key
    have htime : (List.replicate (ofLex key).1 't' ++
        List.replicate (ofLex key).2.bits.toNat 'i').count 't' = (ofLex key).1 := by
      simp [List.count_replicate]
    have hid : (List.replicate (ofLex key).1 't' ++
        List.replicate (ofLex key).2.bits.toNat 'i').count 'i' = (ofLex key).2.bits.toNat := by
      simp [List.count_replicate]
    rw [String.toList_ofList, htime, hid, BitVec.ofNat_toNat, BitVec.setWidth_eq]
    rfl

def sampleTenant (id : BitVec 128) (name slug : String) (createdAt : ℕ) : Tenant :=
  ⟨⟨⟨id⟩⟩, name, slug, .active, .obj [], createdAt⟩

def tenantsOnly (tenants : Table Tenant.id) (h : (tenants.rows.map Tenant.slug).Nodup) :
    GatewayDatabase where
  tenants := tenants
  serviceAccounts := Table.empty
  keys := Table.empty
  policies := Table.empty
  bindings := Table.empty
  tenantSlug := h
  accountSlug := Database.empty.accountSlug
  accountTenant := fun _ h ↦ absurd h List.not_mem_nil
  accountDefaultPolicy := Database.empty.accountDefaultPolicy
  keyPrimary := Database.empty.keyPrimary
  keyAccount := Database.empty.keyAccount
  policyTenant := fun _ h ↦ absurd h List.not_mem_nil
  bindingPair := Database.empty.bindingPair
  bindingAccount := Database.empty.bindingAccount
  bindingPolicy := Database.empty.bindingPolicy
  routes := Table.empty
  routeTenant := fun _ h ↦ absurd h List.not_mem_nil
  auditEvents := Table.empty
  auditTenant := fun _ h ↦ absurd h List.not_mem_nil

/-- Two of three tenants have been created at the same time. -/
def threeTenants : GatewayDatabase :=
  tenantsOnly ⟨[sampleTenant 1 "Acme" "acme" 4, sampleTenant 2 "Beta" "beta" 5,
    sampleTenant 3 "Core" "core" 5], by decide⟩ (by decide)

/-- Afterwards one is renamed and a fourth one is created. -/
def fourTenants : GatewayDatabase :=
  tenantsOnly ⟨[sampleTenant 4 "Data" "data" 9, sampleTenant 1 "Acme" "acme" 4,
    sampleTenant 2 "Beta Ltd" "beta" 5, sampleTenant 3 "Core" "core" 5], by decide⟩ (by decide)

def samplePages : List (GatewayDatabase × ℤ) :=
  [(threeTenants, 1), (fourTenants, 0), (fourTenants, 7)]

theorem follow_lists_each_row_once_tenants :
    ∃ pages, follow (ListQuery.list unaryCodec (.tenants none)) none samplePages = .ok pages ∧
      pages.map (fun page ↦ (page.items.map Tenant.name, page.hasMore)) =
        [(["Core"], true), (["Beta Ltd"], true), (["Acme"], false)] ∧
      ((pages.flatMap Page.items).map (ListQuery.rowId (.tenants none))).count ⟨2⟩ = 1 := by
  have hcreated : ListQuery.CreatedOnce (.tenants none) (samplePages.map Prod.fst) := by
    decide +kernel
  have hnames : (follow (ListQuery.list unaryCodec (.tenants none)) none samplePages).toOption.map
      (fun pages ↦ pages.map fun page ↦ (page.items.map Tenant.name, page.hasMore)) =
        some [(["Core"], true), (["Beta Ltd"], true), (["Acme"], false)] := by decide +kernel
  have hthroughout : ∀ f ∈ samplePages, ∃ row ∈ ListQuery.matching (.tenants none) f.1,
      Listing.id (ListQuery.listing (.tenants none)) row = ⟨2⟩ := by decide +kernel
  obtain ⟨pages, hpages, heq⟩ := Option.map_eq_some_iff.mp hnames
  have hok := eq_ok_of_toOption hpages
  have hfinished : Finished pages := by
    have hlast := congrArg List.getLast? heq
    rw [List.getLast?_map] at hlast
    obtain ⟨page, hpage, hmore⟩ := Option.map_eq_some_iff.mp hlast
    exact ⟨page, hpage, (Prod.mk.inj hmore).2⟩
  obtain ⟨_, _, _, hcount⟩ := (follow_lists_each_row_once unaryCodec (.tenants none) hcreated).2
    pages hok
  exact ⟨pages, hok, heq, hcount hfinished ⟨2⟩ fun f hf ↦
    hthroughout f (List.mem_of_mem_take hf)⟩

end SmartGate
