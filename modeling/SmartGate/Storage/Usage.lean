import SmartGate.Storage.Repositories

/-!
# Usage events

The table `usage_events` and the two ways to add to it, one row or many rows at a time.
An `INSERT` names its columns and binds a parameter to each column of each row; PostgreSQL
matches the two, fills in the defaults, and refuses a statement with more parameters than
it can number.  The two ways agree as long as no batch comes to that number.  Times are in
microseconds since the Unix epoch.
-/

namespace SmartGate

structure UsageEventId where
  uuid : Uuid
  deriving DecidableEq

/-- `rust_decimal::Decimal`: `mantissa / 10 ^ scale` -/
structure Decimal where
  mantissa : ℤ
  scale : ℕ
  deriving DecidableEq

/-- A row.  The cost is a `NUMERIC(18,6)`, counted in millionths. -/
structure UsageEvent where
  id : UsageEventId
  requestId : String
  tenantId : TenantId
  serviceAccountId : ServiceAccountId
  providerRouteId : Option Uuid
  provider : String
  modelAlias : String
  providerModelName : String
  promptTokens : Int32
  completionTokens : Int32
  totalTokens : Int32
  estimatedCost : ℤ
  currency : String
  latencyMs : Int32
  retryCount : Int32
  finalStatus : String
  isStreaming : Bool
  createdAt : ℕ
  deriving DecidableEq

structure CreateUsageEvent where
  requestId : String
  tenantId : TenantId
  serviceAccountId : ServiceAccountId
  providerRouteId : Option Uuid
  provider : String
  modelAlias : String
  providerModelName : String
  promptTokens : Int32
  completionTokens : Int32
  totalTokens : Int32
  estimatedCost : Decimal
  currency : String
  latencyMs : Int32
  retryCount : Int32
  finalStatus : String
  isStreaming : Bool

/-! ## Columns -/

inductive SqlValue where
  | null
  | uuid (u : Uuid)
  | text (s : String)
  | integer (n : Int32)
  | numeric (d : Decimal)
  | boolean (b : Bool)

/-- A text column does not take a zero character. -/
def toText (s : String) : Option String := if '\x00' ∈ s.toList then none else some s

theorem eq_of_toText {s text : String} (h : toText s = some text) : text = s := by
  unfold toText at h
  split_ifs at h
  exact (Option.some.inj h).symm

/-- Division with halves rounded away from zero. -/
def roundDiv (n : ℤ) (d : ℕ) : ℤ := n.sign * ((2 * n.natAbs + d) / (2 * d) : ℕ)

/-- The value in millionths, which has at most 18 digits. -/
def Decimal.toNumeric (d : Decimal) : Option ℤ :=
  let millionths :=
    if d.scale ≤ 6 then d.mantissa * 10 ^ (6 - d.scale)
    else roundDiv d.mantissa (10 ^ (d.scale - 6))
  if millionths.natAbs < 10 ^ 18 then some millionths else none

/-- A column of the table: its default, if it has one, and the values it takes. -/
structure Column (α : Type) where
  name : String
  default : Option α
  decode : SqlValue → Option α

namespace Column

variable {α : Type}

/-- The value of the column in a row to which these columns are assigned. -/
def read (c : Column α) (assigned : List (String × SqlValue)) : Option α :=
  match assigned.lookup c.name with
  | none => c.default
  | some v => c.decode v

def uuid (name : String) : Column Uuid where
  name := name
  default := none
  decode
    | .uuid u => some u
    | _ => none

def nullableUuid (name : String) : Column (Option Uuid) where
  name := name
  default := some none
  decode
    | .null => some none
    | .uuid u => some (some u)
    | _ => none

def text (name : String) (default : Option String) : Column String where
  name := name
  default := default
  decode
    | .text s => toText s
    | _ => none

def integer (name : String) : Column Int32 where
  name := name
  default := some 0
  decode
    | .integer n => some n
    | _ => none

def numeric (name : String) : Column ℤ where
  name := name
  default := some 0
  decode
    | .numeric d => d.toNumeric
    | _ => none

def boolean (name : String) : Column Bool where
  name := name
  default := some false
  decode
    | .boolean b => some b
    | _ => none

end Column

/-- The row of the table definition, with the generated `id` and `created_at`. -/
def usageRow (assigned : List (String × SqlValue)) (id : UsageEventId) (now : ℕ) :
    Option UsageEvent := do
  let requestId ← (Column.text "request_id" none).read assigned
  let tenantId ← (Column.uuid "tenant_id").read assigned
  let serviceAccountId ← (Column.uuid "service_account_id").read assigned
  let providerRouteId ← (Column.nullableUuid "provider_route_id").read assigned
  let provider ← (Column.text "provider" none).read assigned
  let modelAlias ← (Column.text "model_alias" none).read assigned
  let providerModelName ← (Column.text "provider_model_name" none).read assigned
  let promptTokens ← (Column.integer "prompt_tokens").read assigned
  let completionTokens ← (Column.integer "completion_tokens").read assigned
  let totalTokens ← (Column.integer "total_tokens").read assigned
  let estimatedCost ← (Column.numeric "estimated_cost").read assigned
  let currency ← (Column.text "currency" (some "USD")).read assigned
  let latencyMs ← (Column.integer "latency_ms").read assigned
  let retryCount ← (Column.integer "retry_count").read assigned
  let finalStatus ← (Column.text "final_status" none).read assigned
  let isStreaming ← (Column.boolean "is_streaming").read assigned
  return {
    id, requestId, tenantId := ⟨tenantId⟩, serviceAccountId := ⟨serviceAccountId⟩
    providerRouteId, provider, modelAlias, providerModelName, promptTokens, completionTokens
    totalTokens, estimatedCost, currency, latencyMs, retryCount, finalStatus, isStreaming
    createdAt := now }

/-! ## The table -/

def UsageEvent.primaryKey (r : UsageEvent) : UsageEventId × ℕ := (r.id, r.createdAt)

def UsageEvent.requestKey (r : UsageEvent) : String × ℕ := (r.requestId, r.createdAt)

structure UsageTable where
  events : Table UsageEvent.primaryKey
  requests : events.Distinct UsageEvent.requestKey

def UsageTable.empty : UsageTable := ⟨Table.empty, List.nodup_nil⟩

/-- The partitions reach from April to July 2026. -/
def InPartition (createdAt : ℕ) : Prop :=
  1775001600000000 ≤ createdAt ∧ createdAt < 1785542400000000

instance (createdAt : ℕ) : Decidable (InPartition createdAt) :=
  inferInstanceAs (Decidable (_ ∧ _))

namespace UsageTable

def insertRow (t : UsageTable) (r : UsageEvent) : Except StorageError UsageTable :=
  if InPartition r.createdAt then
    if hid : t.events.get r.primaryKey = none then
      if hrequest : ∀ r' ∈ t.events.rows, r'.requestKey ≠ r.requestKey then
        .ok ⟨t.events.insert r hid, t.requests.insert hrequest⟩
      else .error (uniqueViolation "usage_events" "idx_usage_events_request_id")
    else .error (uniqueViolation "usage_events" "usage_events_pkey")
  else .error (.database "no partition of relation \"usage_events\" found for row")

/-- The rows of one statement, all or none. -/
def insertRows : UsageTable → List UsageEvent → Except StorageError UsageTable
  | t, [] => .ok t
  | t, r :: rows => do
      let t ← t.insertRow r
      t.insertRows rows

end UsageTable

/-! ## Statements -/

/-- The parameters of a statement are numbered in 16 bits. -/
def maxBindParameters : ℕ := 65535

structure InsertStatement where
  columns : List String
  values : List (List SqlValue)

namespace InsertStatement

def parameters (stmt : InsertStatement) : ℕ := (stmt.values.map List.length).sum

/-- The rows of the statement, the n-th with the n-th id that is generated. -/
def rowsOf (columns : List String) (now : ℕ) :
    List (List SqlValue) → (ℕ → UsageEventId) → Option (List UsageEvent)
  | [], _ => some []
  | values :: rest, ids => do
      let r ← usageRow (columns.zip values) (ids 0) now
      let rows ← rowsOf columns now rest fun n ↦ ids (n + 1)
      return r :: rows

def execute (stmt : InsertStatement) (t : UsageTable) (ids : ℕ → UsageEventId) (now : ℕ) :
    Except StorageError (List UsageEvent × UsageTable) :=
  if maxBindParameters < stmt.parameters then .error (.database "too many bind parameters")
  else
    match rowsOf stmt.columns now stmt.values ids with
    | none => .error (.database "a value is out of the range of its column")
    | some rows => (t.insertRows rows).map fun t' ↦ (rows, t')

end InsertStatement

/-! ## The repository -/

namespace UsageRepo

def insertOneStatement (input : CreateUsageEvent) : InsertStatement where
  columns :=
    ["request_id", "tenant_id", "service_account_id", "provider_route_id",
      "provider", "model_alias", "provider_model_name",
      "prompt_tokens", "completion_tokens", "total_tokens",
      "estimated_cost", "currency", "latency_ms", "retry_count",
      "final_status", "is_streaming"]
  values :=
    [[.text input.requestId, .uuid input.tenantId.uuid, .uuid input.serviceAccountId.uuid,
      input.providerRouteId.elim .null .uuid, .text input.provider, .text input.modelAlias,
      .text input.providerModelName, .integer input.promptTokens, .integer input.completionTokens,
      .integer input.totalTokens, .numeric input.estimatedCost, .text input.currency,
      .integer input.latencyMs, .integer input.retryCount, .text input.finalStatus,
      .boolean input.isStreaming]]

/-- `INSERT … RETURNING *`, of which one row is fetched. -/
def insertOne (t : UsageTable) (input : CreateUsageEvent) (id : UsageEventId) (now : ℕ) :
    Except StorageError (UsageEvent × UsageTable) := do
  let (rows, t') ← (insertOneStatement input).execute t (fun _ ↦ id) now
  match rows with
  | row :: _ => .ok (row, t')
  | [] => .error (.database "no rows returned by a query that expected to return at least one row")

def batchInsertColumns : List String :=
  ["request_id", "tenant_id", "service_account_id", "provider_route_id",
    "provider", "model_alias", "provider_model_name",
    "prompt_tokens", "completion_tokens", "total_tokens",
    "estimated_cost", "currency", "latency_ms", "retry_count",
    "final_status", "is_streaming"]

/-- What `push_values` binds for an event. -/
def batchInsertValues (e : CreateUsageEvent) : List SqlValue :=
  [.text e.requestId, .uuid e.tenantId.uuid, .uuid e.serviceAccountId.uuid,
    e.providerRouteId.elim .null .uuid, .text e.provider, .text e.modelAlias,
    .text e.providerModelName, .integer e.promptTokens, .integer e.completionTokens,
    .integer e.totalTokens, .numeric e.estimatedCost, .text e.currency, .integer e.latencyMs,
    .integer e.retryCount, .text e.finalStatus, .boolean e.isStreaming]

def batchInsertStatement (events : List CreateUsageEvent) : InsertStatement where
  columns := batchInsertColumns
  values := events.map batchInsertValues

/-- The number of rows that were inserted. -/
def batchInsert (t : UsageTable) (events : List CreateUsageEvent) (ids : ℕ → UsageEventId)
    (now : ℕ) : Except StorageError (ℕ × UsageTable) :=
  if events.isEmpty then .ok (0, t)
  else do
    let (rows, t') ← (batchInsertStatement events).execute t ids now
    return (rows.length, t')

end UsageRepo

/-! ## What a row holds -/

/-- The row for an event: every field in the column of its name. -/
def CreateUsageEvent.row (e : CreateUsageEvent) (id : UsageEventId) (now : ℕ) :
    Option UsageEvent := do
  let requestId ← toText e.requestId
  let provider ← toText e.provider
  let modelAlias ← toText e.modelAlias
  let providerModelName ← toText e.providerModelName
  let estimatedCost ← e.estimatedCost.toNumeric
  let currency ← toText e.currency
  let finalStatus ← toText e.finalStatus
  return {
    id, requestId, provider, modelAlias, providerModelName, estimatedCost, currency, finalStatus
    tenantId := e.tenantId, serviceAccountId := e.serviceAccountId
    providerRouteId := e.providerRouteId, promptTokens := e.promptTokens
    completionTokens := e.completionTokens, totalTokens := e.totalTokens
    latencyMs := e.latencyMs, retryCount := e.retryCount, isStreaming := e.isStreaming
    createdAt := now }

/-- A row without what the database generates. -/
def UsageEvent.anonymous (r : UsageEvent) : UsageEvent := { r with id := ⟨⟨0⟩⟩, createdAt := 0 }

theorem usageRow_batchInsert (e : CreateUsageEvent) (id : UsageEventId) (now : ℕ) :
    usageRow (UsageRepo.batchInsertColumns.zip (UsageRepo.batchInsertValues e)) id now =
      e.row id now := by
  cases hroute : e.providerRouteId <;>
    simp [usageRow, UsageRepo.batchInsertColumns, UsageRepo.batchInsertValues, Column.read,
      List.lookup_cons, hroute, CreateUsageEvent.row, Column.text, Column.uuid, Column.nullableUuid,
      Column.integer, Column.numeric, Column.boolean]

namespace CreateUsageEvent

variable {e : CreateUsageEvent} {id : UsageEventId} {now : ℕ} {r : UsageEvent}

/-- What a row has of the statement, besides the texts and the cost. -/
theorem row_eq_some (h : e.row id now = some r) :
    r.id = id ∧ r.createdAt = now ∧ r.requestId = e.requestId := by
  obtain ⟨requestId, hrequest, h⟩ := Option.bind_eq_some_iff.mp h
  obtain ⟨_, _, h⟩ := Option.bind_eq_some_iff.mp h
  obtain ⟨_, _, h⟩ := Option.bind_eq_some_iff.mp h
  obtain ⟨_, _, h⟩ := Option.bind_eq_some_iff.mp h
  obtain ⟨_, _, h⟩ := Option.bind_eq_some_iff.mp h
  obtain ⟨_, _, h⟩ := Option.bind_eq_some_iff.mp h
  obtain ⟨_, _, h⟩ := Option.bind_eq_some_iff.mp h
  obtain rfl := Option.some.inj h
  exact ⟨rfl, rfl, eq_of_toText hrequest⟩

/-- The generated columns are all that depends on when and how a row is inserted. -/
theorem map_anonymous_row (e : CreateUsageEvent) (id : UsageEventId) (now : ℕ) :
    (e.row id now).map UsageEvent.anonymous = e.row ⟨⟨0⟩⟩ 0 := by
  simp [row, Option.map_bind, Function.comp_def, UsageEvent.anonymous]

end CreateUsageEvent

/-! ## Inserting rows -/

namespace UsageTable

variable {t t' : UsageTable} {r : UsageEvent}

structure Insertable (t : UsageTable) (r : UsageEvent) : Prop where
  inPartition : InPartition r.createdAt
  primaryFree : ∀ r' ∈ t.events.rows, r'.primaryKey ≠ r.primaryKey
  requestFree : ∀ r' ∈ t.events.rows, r'.requestKey ≠ r.requestKey

theorem Insertable.insertRow (h : t.Insertable r) :
    ∃ t', t.insertRow r = .ok t' ∧ t'.events.rows = r :: t.events.rows := by
  have hid : t.events.get r.primaryKey = none := Table.get_eq_none.mpr h.primaryFree
  rw [UsageTable.insertRow, if_pos h.inPartition, dif_pos hid, dif_pos h.requestFree]
  exact ⟨_, rfl, rfl⟩

theorem insertRow_eq_ok (h : t.insertRow r = .ok t') :
    t.Insertable r ∧ t'.events.rows = r :: t.events.rows := by
  unfold insertRow at h
  split_ifs at h with hpartition hid hrequest
  obtain rfl := Except.ok.inj h
  exact ⟨⟨hpartition, Table.get_eq_none.mp hid, hrequest⟩, rfl⟩

theorem insertRows_eq_ok {rows : List UsageEvent} (h : t.insertRows rows = .ok t') :
    t'.events.rows = rows.reverse ++ t.events.rows := by
  induction rows generalizing t with
  | nil =>
      obtain rfl := Except.ok.inj h
      rfl
  | cons r rows ih =>
      obtain ⟨t₁, hrow, hrest⟩ := bind_eq_ok.mp h
      rw [ih hrest, (insertRow_eq_ok hrow).2, List.reverse_cons, List.append_assoc,
        List.singleton_append]

def Apart (r r' : UsageEvent) : Prop :=
  r.primaryKey ≠ r'.primaryKey ∧ r.requestKey ≠ r'.requestKey

/-- Rows that can be inserted one at a time can be inserted together. -/
theorem insertRows_of_insertable {rows : List UsageEvent} (hall : ∀ r ∈ rows, t.Insertable r)
    (hapart : rows.Pairwise Apart) : ∃ t', t.insertRows rows = .ok t' := by
  induction rows generalizing t with
  | nil => exact ⟨t, rfl⟩
  | cons r rows ih =>
      rw [List.pairwise_cons] at hapart
      obtain ⟨t₁, hrow, hrows⟩ := (hall r List.mem_cons_self).insertRow
      have hrest : ∀ r' ∈ rows, t₁.Insertable r' := by
        intro r' hr'
        have hold := hall r' (List.mem_cons_of_mem r hr')
        have hnew := hapart.1 r' hr'
        refine ⟨hold.inPartition, ?_, ?_⟩
        · rw [hrows, List.forall_mem_cons]
          exact ⟨hnew.1, hold.primaryFree⟩
        · rw [hrows, List.forall_mem_cons]
          exact ⟨hnew.2, hold.requestFree⟩
      obtain ⟨t', ht'⟩ := ih hrest hapart.2
      exact ⟨t', by rw [insertRows, hrow]; exact ht'⟩

end UsageTable

/-! ## One event -/

namespace UsageRepo

variable {t t' : UsageTable} {e : CreateUsageEvent} {id : UsageEventId} {now : ℕ}
  {r : UsageEvent}

/-- Both statements name the same columns and bind the same values to them. -/
theorem insertOneStatement_eq (e : CreateUsageEvent) :
    insertOneStatement e = batchInsertStatement [e] := rfl

theorem rowsOf_insertOne (e : CreateUsageEvent) (id : UsageEventId) (now : ℕ) :
    InsertStatement.rowsOf (insertOneStatement e).columns now (insertOneStatement e).values
      (fun _ ↦ id) = (e.row id now).map fun r ↦ [r] := by
  rw [insertOneStatement_eq, batchInsertStatement, List.map_singleton, InsertStatement.rowsOf,
    usageRow_batchInsert]
  cases e.row id now <;> rfl

theorem execute_insertOne (t : UsageTable) (e : CreateUsageEvent) (id : UsageEventId) (now : ℕ) :
    (insertOneStatement e).execute t (fun _ ↦ id) now =
      match e.row id now with
      | none => .error (.database "a value is out of the range of its column")
      | some r => (t.insertRow r).map fun t' ↦ ([r], t') := by
  have hcount : ¬ maxBindParameters < (insertOneStatement e).parameters := by
    change ¬ 65535 < 16
    decide
  rw [InsertStatement.execute, if_neg hcount, rowsOf_insertOne]
  cases e.row id now with
  | none => rfl
  | some r =>
      simp only [Option.map_some, UsageTable.insertRows]
      cases t.insertRow r <;> rfl

theorem insertOne_of_row (hrow : e.row id now = some r) (hinsert : t.insertRow r = .ok t') :
    insertOne t e id now = .ok (r, t') := by
  rw [insertOne, execute_insertOne, hrow]
  simp only [hinsert]
  rfl

theorem insertOne_eq_ok (h : insertOne t e id now = .ok (r, t')) :
    e.row id now = some r ∧ t.insertRow r = .ok t' := by
  obtain ⟨⟨rows, t₁⟩, hexecute, hrows⟩ := bind_eq_ok.mp h
  rw [execute_insertOne] at hexecute
  cases hrow : e.row id now with
  | none =>
      rw [hrow] at hexecute
      cases hexecute
  | some r' =>
      rw [hrow] at hexecute
      obtain ⟨t₂, hinsert, heq⟩ := map_eq_ok.mp hexecute
      obtain ⟨rfl, rfl⟩ := Prod.mk.inj heq
      obtain ⟨rfl, rfl⟩ := Prod.mk.inj (Except.ok.inj hrows)
      exact ⟨rfl, hinsert⟩

/-! ## One event after the other -/

/-- A call of `insert_one`, with what the database generates for it. -/
structure InsertCall where
  event : CreateUsageEvent
  id : UsageEventId
  now : ℕ

def insertEach : UsageTable → List InsertCall → Except StorageError UsageTable
  | t, [] => .ok t
  | t, c :: calls => do
      let (_, t) ← insertOne t c.event c.id c.now
      insertEach t calls

/-- The rows of these events, up to what is generated, have been added. -/
def Adds (events : List CreateUsageEvent) (t t' : UsageTable) : Prop :=
  ∃ rows : List UsageEvent, t'.events.rows = rows.reverse ++ t.events.rows ∧
    (rows.map UsageEvent.anonymous).map some = events.map fun e ↦ e.row ⟨⟨0⟩⟩ 0

theorem Adds.same_rows {events : List CreateUsageEvent} {u : UsageTable} (h : Adds events t t')
    (hu : Adds events t u) :
    t'.events.rows.map UsageEvent.anonymous = u.events.rows.map UsageEvent.anonymous := by
  obtain ⟨rows, hrows, hcontent⟩ := h
  obtain ⟨rows', hrows', hcontent'⟩ := hu
  have hsame : rows.map UsageEvent.anonymous = rows'.map UsageEvent.anonymous := by
    exact List.map_injective_iff.mpr (Option.some_injective _) (hcontent.trans hcontent'.symm)
  rw [hrows, hrows', List.map_append, List.map_append, List.map_reverse, List.map_reverse, hsame]

theorem adds_of_insertEach {calls : List InsertCall} (h : insertEach t calls = .ok t') :
    Adds (calls.map InsertCall.event) t t' := by
  induction calls generalizing t with
  | nil =>
      obtain rfl := Except.ok.inj h
      exact ⟨[], rfl, rfl⟩
  | cons c calls ih =>
      obtain ⟨⟨r, t₁⟩, hone, hrest⟩ := bind_eq_ok.mp h
      obtain ⟨hrow, hinsert⟩ := insertOne_eq_ok hone
      obtain ⟨rows, hrows, hcontent⟩ := ih hrest
      refine ⟨r :: rows, ?_, ?_⟩
      · rw [hrows, (UsageTable.insertRow_eq_ok hinsert).2, List.reverse_cons, List.append_assoc,
          List.singleton_append]
      · rw [List.map_cons, List.map_cons, hcontent, List.map_cons, List.map_cons,
          ← CreateUsageEvent.map_anonymous_row c.event c.id c.now, hrow, Option.map_some]

/-! ## A batch -/

/-- The rows of a batch, the n-th with the n-th id. -/
inductive BatchRows (now : ℕ) :
    List CreateUsageEvent → (ℕ → UsageEventId) → List UsageEvent → Prop
  | nil (ids : ℕ → UsageEventId) : BatchRows now [] ids []
  | cons {e : CreateUsageEvent} {events : List CreateUsageEvent} {ids : ℕ → UsageEventId}
      {r : UsageEvent} {rows : List UsageEvent} (hrow : e.row (ids 0) now = some r)
      (hrest : BatchRows now events (fun n ↦ ids (n + 1)) rows) :
      BatchRows now (e :: events) ids (r :: rows)

variable {events : List CreateUsageEvent} {ids : ℕ → UsageEventId} {rows : List UsageEvent}

theorem exists_batchRows
    (h : ∀ i (hi : i < events.length), ∃ r, events[i].row (ids i) now = some r) :
    ∃ rows, BatchRows now events ids rows := by
  induction events generalizing ids with
  | nil => exact ⟨[], .nil ids⟩
  | cons e events ih =>
      obtain ⟨r, hr⟩ := h 0 (Nat.succ_pos _)
      obtain ⟨rows, hrows⟩ := ih fun i hi ↦ h (i + 1) (Nat.succ_lt_succ hi)
      exact ⟨r :: rows, .cons hr hrows⟩

theorem BatchRows.rowsOf (h : BatchRows now events ids rows) :
    InsertStatement.rowsOf batchInsertColumns now (events.map batchInsertValues) ids =
      some rows := by
  induction h with
  | nil ids => rfl
  | cons hrow hrest ih =>
      rw [List.map_cons, InsertStatement.rowsOf, usageRow_batchInsert, hrow, ih]
      rfl

theorem BatchRows.length_eq (h : BatchRows now events ids rows) : rows.length = events.length := by
  induction h with
  | nil ids => rfl
  | cons hrow hrest ih => rw [List.length_cons, List.length_cons, ih]

theorem BatchRows.origin (h : BatchRows now events ids rows) {r : UsageEvent} (hr : r ∈ rows) :
    ∃ i, ∃ hi : i < events.length, events[i].row (ids i) now = some r := by
  induction h with
  | nil ids => cases hr
  | cons hrow hrest ih =>
      rcases List.mem_cons.mp hr with rfl | hr
      · exact ⟨0, Nat.succ_pos _, hrow⟩
      · obtain ⟨i, hi, hrow'⟩ := ih hr
        exact ⟨i + 1, Nat.succ_lt_succ hi, hrow'⟩

theorem BatchRows.content (h : BatchRows now events ids rows) :
    (rows.map UsageEvent.anonymous).map some = events.map fun e ↦ e.row ⟨⟨0⟩⟩ 0 := by
  induction h with
  | nil ids => rfl
  | cons hrow hrest ih =>
      rw [List.map_cons, List.map_cons, List.map_cons, ih,
        ← CreateUsageEvent.map_anonymous_row _ _ now, hrow, Option.map_some]

/-- Distinct ids and distinct requests keep the rows of a batch apart. -/
theorem BatchRows.apart (h : BatchRows now events ids rows)
    (hids : ∀ i < events.length, ∀ j < events.length, ids i = ids j → i = j)
    (hrequests : (events.map CreateUsageEvent.requestId).Nodup) :
    rows.Pairwise UsageTable.Apart := by
  induction h with
  | nil ids => exact List.Pairwise.nil
  | @cons e events ids r rows hrow hrest ih =>
      rw [List.map_cons, List.nodup_cons] at hrequests
      rw [List.pairwise_cons]
      constructor
      · intro r' hr'
        obtain ⟨i, hi, hrow'⟩ := hrest.origin hr'
        obtain ⟨hid, _, hrequest⟩ := CreateUsageEvent.row_eq_some hrow
        obtain ⟨hid', _, hrequest'⟩ := CreateUsageEvent.row_eq_some hrow'
        constructor
        · intro heq
          have hsame : ids 0 = ids (i + 1) := by rw [← hid, ← hid', (Prod.mk.inj heq).1]
          exact absurd (hids 0 (Nat.succ_pos _) (i + 1) (Nat.succ_lt_succ hi) hsame) (by omega)
        · intro heq
          apply hrequests.1
          rw [← hrequest, (Prod.mk.inj heq).1, hrequest']
          exact List.mem_map_of_mem (List.getElem_mem hi)
      · refine ih (fun i hi j hj hij ↦ ?_) hrequests.2
        have hsucc := hids (i + 1) (Nat.succ_lt_succ hi) (j + 1) (Nat.succ_lt_succ hj) hij
        omega

/-- A batch takes sixteen parameters for each event. -/
theorem parameters_batchInsert (events : List CreateUsageEvent) :
    (batchInsertStatement events).parameters = 16 * events.length := by
  rw [InsertStatement.parameters, batchInsertStatement]
  induction events with
  | nil => rfl
  | cons e events ih =>
      rw [List.map_cons, List.map_cons, List.sum_cons, ih, List.length_cons, Nat.mul_succ,
        Nat.add_comm]
      rfl

theorem exceeds_iff (events : List CreateUsageEvent) :
    maxBindParameters < (batchInsertStatement events).parameters ↔ 4095 < events.length := by
  rw [parameters_batchInsert, maxBindParameters]
  omega

theorem batchInsert_of_exceeds (h : 4095 < events.length) (t : UsageTable)
    (ids : ℕ → UsageEventId) (now : ℕ) :
    batchInsert t events ids now = .error (.database "too many bind parameters") := by
  cases events with
  | nil => exact absurd h (by decide)
  | cons e events =>
      rw [batchInsert, if_neg (by simp), InsertStatement.execute, if_pos ((exceeds_iff _).mpr h)]
      rfl

theorem BatchRows.batchInsert (h : BatchRows now events ids rows)
    (hcount : events.length ≤ 4095) (hinsert : t.insertRows rows = .ok t') :
    batchInsert t events ids now = .ok (events.length, t') := by
  cases events with
  | nil =>
      cases h
      obtain rfl := Except.ok.inj hinsert
      rfl
  | cons e events =>
      have hbound := mt (exceeds_iff (e :: events)).mp (Nat.not_lt.mpr hcount)
      have hexecute : (batchInsertStatement (e :: events)).execute t ids now = .ok (rows, t') := by
        rw [InsertStatement.execute, if_neg hbound, batchInsertStatement, h.rowsOf]
        simp only [hinsert]
        rfl
      rw [UsageRepo.batchInsert, if_neg (by simp), hexecute, ← h.length_eq]
      rfl

/-! ## Agreement -/

/-- The events one after the other, at one time and with the ids of the batch. -/
def callsAt (now : ℕ) : List CreateUsageEvent → (ℕ → UsageEventId) → List InsertCall
  | [], _ => []
  | e :: events, ids => ⟨e, ids 0, now⟩ :: callsAt now events fun n ↦ ids (n + 1)

theorem map_event_callsAt (now : ℕ) (events : List CreateUsageEvent) (ids : ℕ → UsageEventId) :
    (callsAt now events ids).map InsertCall.event = events := by
  induction events generalizing ids with
  | nil => rfl
  | cons e events ih => rw [callsAt, List.map_cons, ih]

theorem BatchRows.insertEach (h : BatchRows now events ids rows)
    (hinsert : t.insertRows rows = .ok t') : insertEach t (callsAt now events ids) = .ok t' := by
  induction h generalizing t with
  | nil ids => exact hinsert
  | cons hrow hrest ih =>
      obtain ⟨t₁, hfirst, hrows⟩ := bind_eq_ok.mp hinsert
      rw [callsAt, UsageRepo.insertEach, insertOne_of_row hrow hfirst]
      exact ih hrows

/-- The batch inserts its events, and so do calls of `insert_one`; whatever the calls
generate, the rows are the same. -/
structure BatchAgrees (t : UsageTable) (events : List CreateUsageEvent) (ids : ℕ → UsageEventId)
    (now : ℕ) : Prop where
  oneByOne : ∃ calls t', calls.map InsertCall.event = events ∧ insertEach t calls = .ok t'
  batch : ∃ t', batchInsert t events ids now = .ok (events.length, t') ∧
    ∀ calls u, calls.map InsertCall.event = events → insertEach t calls = .ok u →
      t'.events.rows.map UsageEvent.anonymous = u.events.rows.map UsageEvent.anonymous

theorem batch_agrees_iff
    (haccepted : ∀ i (hi : i < events.length), ∃ answer,
      insertOne t events[i] (ids i) now = .ok answer)
    (hids : ∀ i < events.length, ∀ j < events.length, ids i = ids j → i = j)
    (hrequests : (events.map CreateUsageEvent.requestId).Nodup) :
    BatchAgrees t events ids now ↔ events.length ≤ 4095 := by
  constructor
  · rintro ⟨_, t', hbatch, _⟩
    by_contra hlong
    rw [batchInsert_of_exceeds (Nat.lt_of_not_le hlong)] at hbatch
    cases hbatch
  · intro hcount
    have hrow : ∀ i (hi : i < events.length), ∃ r,
        events[i].row (ids i) now = some r ∧ t.Insertable r := by
      intro i hi
      obtain ⟨⟨r, u⟩, hone⟩ := haccepted i hi
      obtain ⟨hr, hinsert⟩ := insertOne_eq_ok hone
      exact ⟨r, hr, (UsageTable.insertRow_eq_ok hinsert).1⟩
    obtain ⟨rows, hrows⟩ := exists_batchRows fun i hi ↦ (hrow i hi).imp fun r hr ↦ hr.1
    have hall : ∀ r ∈ rows, t.Insertable r := by
      intro r hr
      obtain ⟨i, hi, heq⟩ := hrows.origin hr
      obtain ⟨r', hr', hinsertable⟩ := hrow i hi
      rwa [Option.some.inj (heq.symm.trans hr')]
    obtain ⟨t', hinsert⟩ :=
      UsageTable.insertRows_of_insertable hall (hrows.apart hids hrequests)
    have hadds : Adds events t t' := ⟨rows, UsageTable.insertRows_eq_ok hinsert, hrows.content⟩
    refine ⟨⟨_, t', map_event_callsAt now events ids, hrows.insertEach hinsert⟩,
      t', hrows.batchInsert hcount hinsert, ?_⟩
    rintro calls u rfl heach
    exact hadds.same_rows (adds_of_insertEach heach)

/-! ## Batches of every length -/

def sampleUsage (requestId : String) : CreateUsageEvent where
  requestId := requestId
  tenantId := ⟨⟨1⟩⟩
  serviceAccountId := ⟨⟨2⟩⟩
  providerRouteId := none
  provider := "openai"
  modelAlias := "gpt-4"
  providerModelName := "gpt-4-turbo"
  promptTokens := 100
  completionTokens := 50
  totalTokens := 150
  estimatedCost := ⟨15, 3⟩
  currency := "USD"
  latencyMs := 200
  retryCount := 0
  finalStatus := "success"
  isStreaming := false

def sampleRequestId (i : ℕ) : String := String.ofList (List.replicate (i + 1) 'r')

def sampleEvents (n : ℕ) : List CreateUsageEvent :=
  (List.range n).map fun i ↦ sampleUsage (sampleRequestId i)

def sampleIds (i : ℕ) : UsageEventId := ⟨⟨BitVec.ofNat 128 i⟩⟩

/-- The first of May 2026. -/
def sampleTime : ℕ := 1777593600000000

theorem zero_notMem_sampleRequestId (i : ℕ) : '\x00' ∉ (sampleRequestId i).toList := by
  rw [sampleRequestId, String.toList_ofList, List.mem_replicate]
  exact fun h ↦ absurd h.2 (by decide)

theorem insertOne_sampleUsage (i : ℕ) (id : UsageEventId) :
    ∃ answer, insertOne .empty (sampleUsage (sampleRequestId i)) id sampleTime = .ok answer := by
  have hcost : Decimal.toNumeric ⟨15, 3⟩ = some 15000 := by decide
  have hrow : ∃ r, (sampleUsage (sampleRequestId i)).row id sampleTime = some r := by
    simp [CreateUsageEvent.row, sampleUsage, toText, zero_notMem_sampleRequestId, hcost]
  obtain ⟨r, hr⟩ := hrow
  obtain ⟨_, hcreated, _⟩ := CreateUsageEvent.row_eq_some hr
  have hinsertable : UsageTable.empty.Insertable r :=
    ⟨by rw [hcreated]; decide, fun _ h ↦ absurd h List.not_mem_nil,
      fun _ h ↦ absurd h List.not_mem_nil⟩
  obtain ⟨t', hinsert, _⟩ := hinsertable.insertRow
  exact ⟨(r, t'), insertOne_of_row hr hinsert⟩

theorem sampleEvents_accepted (n i : ℕ) (hi : i < (sampleEvents n).length) :
    ∃ answer, insertOne .empty (sampleEvents n)[i] (sampleIds i) sampleTime = .ok answer := by
  simp only [sampleEvents, List.getElem_map, List.getElem_range]
  exact insertOne_sampleUsage i (sampleIds i)

theorem sampleEvents_requests (n : ℕ) :
    ((sampleEvents n).map CreateUsageEvent.requestId).Nodup := by
  rw [sampleEvents, List.map_map]
  refine List.nodup_range.map fun i j hij ↦ ?_
  have hlength := congrArg List.length (String.ofList_injective hij)
  simpa using hlength

theorem sampleIds_distinct {n : ℕ} (hn : n ≤ 2 ^ 128) :
    ∀ i < n, ∀ j < n, sampleIds i = sampleIds j → i = j := by
  intro i hi j hj hij
  have hbits := congrArg (fun id ↦ id.uuid.bits.toNat) hij
  simp only [sampleIds, BitVec.toNat_ofNat] at hbits
  rwa [Nat.mod_eq_of_lt (by omega), Nat.mod_eq_of_lt (by omega)] at hbits

theorem length_sampleEvents (n : ℕ) : (sampleEvents n).length = n := by
  rw [sampleEvents, List.length_map, List.length_range]

theorem batch_agrees_five_events :
    BatchAgrees .empty (sampleEvents 5) sampleIds sampleTime ↔ (sampleEvents 5).length ≤ 4095 :=
  batch_agrees_iff (sampleEvents_accepted 5) (sampleIds_distinct (by decide))
    (sampleEvents_requests 5)

/-- Each of 4096 events would be inserted on its own, and the batch of all is refused. -/
theorem large_batch_refused :
    (∀ i (hi : i < (sampleEvents 4096).length), ∃ answer,
        insertOne .empty (sampleEvents 4096)[i] (sampleIds i) sampleTime = .ok answer) ∧
      ((sampleEvents 4096).map CreateUsageEvent.requestId).Nodup ∧
      (∀ i < 4096, ∀ j < 4096, sampleIds i = sampleIds j → i = j) ∧
      batchInsert .empty (sampleEvents 4096) sampleIds sampleTime =
        .error (.database "too many bind parameters") := by
  refine ⟨sampleEvents_accepted 4096, sampleEvents_requests 4096,
    sampleIds_distinct (by decide), batchInsert_of_exceeds ?_ _ _ _⟩
  rw [length_sampleEvents]
  decide

end UsageRepo

end SmartGate
