import Mathlib.Algebra.BigOperators.Group.List.Basic
import Mathlib.Algebra.Order.Field.Rat
import SmartGate.Storage.Usage

/-!
# Summaries of usage

What `query_summary` reports after any mixture of single inserts and batches, accepted or not,
is what the accepted events add up to.  Both ends of a range of dates belong to it, so that
the reports of two ranges which share an end count the events of that instant twice.
-/

namespace SmartGate

structure UsageFilter where
  tenantId : Option TenantId
  serviceAccountId : Option ServiceAccountId
  modelAlias : Option String
  provider : Option String
  startDate : Option ℕ
  endDate : Option ℕ

namespace UsageFilter

/-- The `WHERE` clause: a parameter that is `NULL` selects every row. -/
def selects (f : UsageFilter) (r : UsageEvent) : Bool :=
  f.tenantId.all (fun id ↦ r.tenantId = id) &&
    f.serviceAccountId.all (fun id ↦ r.serviceAccountId = id) &&
    f.modelAlias.all (fun model ↦ r.modelAlias = model) &&
    f.provider.all (fun provider ↦ r.provider = provider) &&
    f.startDate.all (fun start ↦ start ≤ r.createdAt) &&
    f.endDate.all (fun finish ↦ r.createdAt ≤ finish)

/-- The texts of the filter can be sent as parameters. -/
def Sendable (f : UsageFilter) : Prop :=
  ∀ text ∈ f.modelAlias.toList ++ f.provider.toList, toText text ≠ none

instance (f : UsageFilter) : Decidable f.Sendable := inferInstanceAs (Decidable (∀ _ ∈ _, _))

def between (f : UsageFilter) (start finish : ℕ) : UsageFilter :=
  { f with startDate := some start, endDate := some finish }

end UsageFilter

/-- The cost is counted in millionths.  The average, which the query casts to `FLOAT8`, is kept
as the exact quotient. -/
structure UsageSummary where
  totalRequests : ℤ
  totalPromptTokens : ℤ
  totalCompletionTokens : ℤ
  totalTokens : ℤ
  totalCost : ℤ
  avgLatencyMs : ℚ
  errorCount : ℤ
  deriving DecidableEq

/-- The `SELECT` list over the selected rows. -/
def summarize (rows : List UsageEvent) : UsageSummary where
  totalRequests := rows.length
  totalPromptTokens := (rows.map fun r ↦ r.promptTokens.toInt).sum
  totalCompletionTokens := (rows.map fun r ↦ r.completionTokens.toInt).sum
  totalTokens := (rows.map fun r ↦ r.totalTokens.toInt).sum
  totalCost := (rows.map UsageEvent.estimatedCost).sum
  avgLatencyMs :=
    if rows.isEmpty then 0 else (rows.map fun r ↦ r.latencyMs.toInt).sum / rows.length
  errorCount := rows.countP fun r ↦ r.finalStatus ≠ "success"

def UsageRepo.querySummary (t : UsageTable) (f : UsageFilter) : Except StorageError UsageSummary :=
  if f.Sendable then .ok (summarize (t.events.rows.filter f.selects))
  else .error (.database "invalid byte sequence for encoding \"UTF8\": 0x00")

theorem summarize_perm {rows rows' : List UsageEvent} (h : rows.Perm rows') :
    summarize rows = summarize rows' := by
  have hempty : rows.isEmpty = rows'.isEmpty := by
    rw [Bool.eq_iff_iff, List.isEmpty_iff, List.isEmpty_iff]
    exact ⟨fun hnil ↦ (hnil ▸ h).nil_eq.symm, fun hnil ↦ (hnil ▸ h).eq_nil⟩
  simp only [summarize, h.length_eq, (h.map _).sum_eq, h.countP_eq, hempty]

/-! ## Runs of inserts -/

namespace UsageRepo

inductive UsageOp where
  | insertOne (call : InsertCall)
  | batchInsert (events : List CreateUsageEvent) (ids : ℕ → UsageEventId) (now : ℕ)

/-- The table after a statement; one that fails leaves it alone. -/
def UsageOp.apply (t : UsageTable) : UsageOp → UsageTable
  | .insertOne call => (UsageRepo.insertOne t call.event call.id call.now).toOption.elim t Prod.snd
  | .batchInsert events ids now =>
      (UsageRepo.batchInsert t events ids now).toOption.elim t Prod.snd

/-- The events of a statement, if it succeeds. -/
def UsageOp.accepted (t : UsageTable) : UsageOp → List InsertCall
  | .insertOne call =>
      if (UsageRepo.insertOne t call.event call.id call.now).isOk then [call] else []
  | .batchInsert events ids now =>
      if (UsageRepo.batchInsert t events ids now).isOk then callsAt now events ids else []

def applyAll (t : UsageTable) (ops : List UsageOp) : UsageTable := ops.foldl UsageOp.apply t

def acceptedAll : UsageTable → List UsageOp → List InsertCall
  | _, [] => []
  | t, op :: ops => op.accepted t ++ acceptedAll (op.apply t) ops

/-- The row of a call: every field in the column of its name. -/
def InsertCall.row (c : InsertCall) : Option UsageEvent := c.event.row c.id c.now

theorem rows_callsAt {now : ℕ} {events : List CreateUsageEvent} {ids : ℕ → UsageEventId}
    {rows : List UsageEvent} (h : InsertStatement.rowsOf batchInsertColumns now
      (events.map batchInsertValues) ids = some rows) :
    (callsAt now events ids).filterMap InsertCall.row = rows := by
  induction events generalizing ids rows with
  | nil =>
      cases h
      rfl
  | cons e events ih =>
      rw [List.map_cons, InsertStatement.rowsOf, usageRow_batchInsert] at h
      obtain ⟨r, hrow, h⟩ := Option.bind_eq_some_iff.mp h
      obtain ⟨rest, hrest, h⟩ := Option.bind_eq_some_iff.mp h
      cases h
      have hcall : InsertCall.row ⟨e, ids 0, now⟩ = some r := hrow
      rw [callsAt, List.filterMap_cons_some hcall, ih hrest]

theorem rows_batchInsert {t t' : UsageTable} {events : List CreateUsageEvent}
    {ids : ℕ → UsageEventId} {now n : ℕ} (h : batchInsert t events ids now = .ok (n, t')) :
    t'.events.rows =
      ((callsAt now events ids).filterMap InsertCall.row).reverse ++ t.events.rows := by
  unfold batchInsert at h
  split_ifs at h with hempty
  · cases h
    rw [List.isEmpty_iff.mp hempty]
    rfl
  · obtain ⟨⟨rows, t₁⟩, hexecute, h⟩ := bind_eq_ok.mp h
    cases h
    unfold InsertStatement.execute at hexecute
    split_ifs at hexecute
    split at hexecute
    · cases hexecute
    · next hrows =>
      obtain ⟨t₂, hinsert, heq⟩ := map_eq_ok.mp hexecute
      obtain ⟨rfl, rfl⟩ := Prod.mk.inj heq
      rw [rows_callsAt hrows]
      exact UsageTable.insertRows_eq_ok hinsert

theorem rows_apply (t : UsageTable) (op : UsageOp) :
    (op.apply t).events.rows =
      ((op.accepted t).filterMap InsertCall.row).reverse ++ t.events.rows := by
  cases op with
  | insertOne call =>
      simp only [UsageOp.apply, UsageOp.accepted]
      cases h : insertOne t call.event call.id call.now with
      | error e => rfl
      | ok answer =>
          obtain ⟨hrow, hinsert⟩ := insertOne_eq_ok h
          have hcall : InsertCall.row call = some answer.1 := hrow
          simpa [Except.toOption, Except.isOk, Except.toBool, hcall] using
            (UsageTable.insertRow_eq_ok hinsert).2
  | batchInsert events ids now =>
      simp only [UsageOp.apply, UsageOp.accepted]
      cases h : batchInsert t events ids now with
      | error e => rfl
      | ok answer => exact rows_batchInsert h

theorem rows_applyAll_perm (t : UsageTable) (ops : List UsageOp) :
    (applyAll t ops).events.rows.Perm
      ((acceptedAll t ops).filterMap InsertCall.row ++ t.events.rows) := by
  induction ops generalizing t with
  | nil => exact List.Perm.refl _
  | cons op ops ih =>
      rw [acceptedAll, List.filterMap_append, List.append_assoc]
      refine (ih (op.apply t)).trans ?_
      rw [rows_apply]
      refine List.perm_append_comm_assoc _ _ _ |>.trans ?_
      exact List.Perm.append_right _ (List.reverse_perm _)

/-- A summary adds up exactly the accepted events that the filter selects, each once and with
the figures that were passed in, after any run of single inserts and batches from an empty
table; a statement that fails leaves nothing behind. -/
theorem summary_of_accepted_events {f : UsageFilter} (hf : f.Sendable) (ops : List UsageOp) :
    querySummary (applyAll .empty ops) f =
      .ok (summarize (((acceptedAll .empty ops).filterMap InsertCall.row).filter f.selects)) := by
  have hperm := rows_applyAll_perm .empty ops
  rw [show UsageTable.empty.events.rows = [] from rfl, List.append_nil] at hperm
  rw [querySummary, if_pos hf, summarize_perm (hperm.filter f.selects)]

/-- Two events are recorded, and a batch that repeats the request of the first is refused. -/
def repeatedRequest : List UsageOp :=
  [.insertOne ⟨sampleUsage "a", sampleIds 0, sampleTime⟩,
    .insertOne ⟨sampleUsage "b", sampleIds 1, sampleTime⟩,
    .batchInsert [sampleUsage "c", sampleUsage "a"] (fun n ↦ sampleIds (n + 2)) sampleTime]

def everything : UsageFilter := ⟨none, none, none, none, none, none⟩

theorem summary_of_accepted_events_repeated :
    everything.Sendable ∧ (acceptedAll .empty repeatedRequest).length = 2 ∧
      querySummary (applyAll .empty repeatedRequest) everything =
        .ok (summarize (((acceptedAll .empty repeatedRequest).filterMap InsertCall.row).filter
          everything.selects)) :=
  ⟨by decide, by decide +kernel, summary_of_accepted_events (by decide) repeatedRequest⟩

/-! ## Ranges of dates -/

/-- All figures but the average. -/
def totals : List (UsageSummary → ℤ) :=
  [UsageSummary.totalRequests, UsageSummary.totalPromptTokens, UsageSummary.totalCompletionTokens,
    UsageSummary.totalTokens, UsageSummary.totalCost, UsageSummary.errorCount]

/-- A total is a sum over the rows. -/
theorem exists_weight {total : UsageSummary → ℤ} (h : total ∈ totals) :
    ∃ weight : UsageEvent → ℤ, ∀ rows, total (summarize rows) = (rows.map weight).sum := by
  simp only [totals, List.mem_cons, List.not_mem_nil, or_false] at h
  rcases h with rfl | rfl | rfl | rfl | rfl | rfl
  · exact ⟨fun _ ↦ 1, fun rows ↦ by simp [summarize]⟩
  · exact ⟨fun r ↦ r.promptTokens.toInt, fun _ ↦ rfl⟩
  · exact ⟨fun r ↦ r.completionTokens.toInt, fun _ ↦ rfl⟩
  · exact ⟨fun r ↦ r.totalTokens.toInt, fun _ ↦ rfl⟩
  · exact ⟨UsageEvent.estimatedCost, fun _ ↦ rfl⟩
  · refine ⟨fun r ↦ if r.finalStatus ≠ "success" then 1 else 0, fun rows ↦ ?_⟩
    induction rows with
    | nil => rfl
    | cons r rows ih =>
        simp only [summarize, List.countP_cons, List.map_cons, List.sum_cons] at ih ⊢
        rw [← ih]
        by_cases hstatus : r.finalStatus = "success" <;> simp [hstatus, add_comm]

theorem sum_filter_add_sum_filter (weight : UsageEvent → ℤ) (p q : UsageEvent → Bool)
    (rows : List UsageEvent) :
    ((rows.filter p).map weight).sum + ((rows.filter q).map weight).sum =
      ((rows.filter fun r ↦ p r || q r).map weight).sum +
        ((rows.filter fun r ↦ p r && q r).map weight).sum := by
  induction rows with
  | nil => rfl
  | cons r rows ih =>
      cases hp : p r <;> cases hq : q r <;> simp [hp, hq] <;> omega

theorem selects_between (f : UsageFilter) (start finish : ℕ) (r : UsageEvent) :
    (f.between start finish).selects r =
      (({ f with startDate := none, endDate := none } : UsageFilter).selects r &&
        (decide (start ≤ r.createdAt) && decide (r.createdAt ≤ finish))) := by
  simp [UsageFilter.selects, UsageFilter.between, Bool.and_assoc]

/-- The reports of two ranges that meet or overlap add up to the report of their union and,
once more, that of what they share.  Ranges that have an end in common share that instant;
a range that starts a microsecond after the other ends shares nothing. -/
theorem ranges_add_up {f : UsageFilter} (hf : f.Sendable) (t : UsageTable)
    {start middle finish last : ℕ} (hstart : start ≤ middle) (hmeet : middle ≤ finish + 1)
    (hlast : finish ≤ last) :
    ∃ first second union shared,
      querySummary t (f.between start finish) = .ok first ∧
      querySummary t (f.between middle last) = .ok second ∧
      querySummary t (f.between start last) = .ok union ∧
      querySummary t (f.between middle finish) = .ok shared ∧
      ∀ total ∈ totals, total first + total second = total union + total shared := by
  have hanswer : ∀ a b, querySummary t (f.between a b) =
      .ok (summarize (t.events.rows.filter (f.between a b).selects)) := fun a b ↦ if_pos hf
  refine ⟨_, _, _, _, hanswer _ _, hanswer _ _, hanswer _ _, hanswer _ _, fun total htotal ↦ ?_⟩
  obtain ⟨weight, hweight⟩ := exists_weight htotal
  rw [hweight, hweight, hweight, hweight, sum_filter_add_sum_filter]
  have hunion : ∀ r, ((f.between start finish).selects r || (f.between middle last).selects r) =
      (f.between start last).selects r := by
    intro r
    simp only [selects_between, ← Bool.and_or_distrib_left]
    congr 1
    rw [Bool.eq_iff_iff]
    simp only [Bool.or_eq_true, Bool.and_eq_true, decide_eq_true_eq]
    omega
  have hshared : ∀ r, ((f.between start finish).selects r && (f.between middle last).selects r) =
      (f.between middle finish).selects r := by
    intro r
    simp only [selects_between]
    rw [Bool.eq_iff_iff]
    simp only [Bool.and_eq_true, decide_eq_true_eq]
    constructor
    · rintro ⟨⟨hselected, -, hle⟩, -, hge, -⟩
      exact ⟨hselected, hge, hle⟩
    · rintro ⟨hselected, hge, hle⟩
      exact ⟨⟨hselected, by omega, hle⟩, hselected, hge, by omega⟩
  simp only [hunion, hshared]

theorem ranges_add_up_same_instant :
    ∃ first second union shared,
      querySummary (applyAll .empty repeatedRequest) (everything.between 0 sampleTime) =
        .ok first ∧
      querySummary (applyAll .empty repeatedRequest)
        (everything.between sampleTime (2 * sampleTime)) = .ok second ∧
      querySummary (applyAll .empty repeatedRequest) (everything.between 0 (2 * sampleTime)) =
        .ok union ∧
      querySummary (applyAll .empty repeatedRequest) (everything.between sampleTime sampleTime) =
        .ok shared ∧
      ∀ total ∈ totals, total first + total second = total union + total shared :=
  ranges_add_up (by decide) _ (Nat.zero_le _) (Nat.le_succ _) (by decide)

end UsageRepo

end SmartGate
