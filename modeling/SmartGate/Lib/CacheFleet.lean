import SmartGate.Lib.ExpiringStore
import SmartGate.Lib.Transition

/-!
# A fleet of caches in front of one source

Any number of gateways read one source, each through a cache of its own.  An entry lives for
a fixed time from the moment it is stored.  A lookup that misses joins the load of its key
that is in flight on its gateway, or starts one; if the task that drives the load goes away,
the lookups that wait for it start over.  The source changes in any way at any time, and
entries may be dropped at any time.

A load reads the source once, or a second time when what it has read first calls for it, and
the source may have changed in between.  What a lookup answers is attributed to the states of
the past in which some load has read it: the first of them is not longer before the start of
the lookup than an entry lives, plus the time from the first read of a load to its store.
-/

namespace CacheFleet

open ExpiringStore Transition

variable {ι σ κ q π ν ε c : Type*}

/-- What is cached, under which key and for how long, and how the source is read: what the
first read gives is the answer, or is left to a second read to complete.  A read may be
resolved by a choice of the environment. -/
structure Service (σ κ q π ν ε c : Type*) where
  key : q → κ
  first : c → σ → q → π ⊕ Except ε ν
  second : c → σ → q → π → Except ε ν
  ttl : ℕ

/-- The answer of a load whose reads meet the source in two states. -/
def Service.answer (svc : Service σ κ q π ν ε c) (c₁ : c) (source₁ : σ) (c₂ : c) (source₂ : σ)
    (query : q) : Except ε ν :=
  (svc.first c₁ source₁ query).elim (svc.second c₂ source₂ query) id

/-- A service whose loads read the source once. -/
def Service.ofRead (key : q → κ) (read : c → σ → q → Except ε ν) (ttl : ℕ) :
    Service σ κ q Empty ν ε c where
  key
  first choice source query := .inr (read choice source query)
  second _ _ _ part := part.elim
  ttl

/-- A load, with the time of its first read once it has read. -/
inductive LoadPhase (π ν ε : Type*) where
  | reading
  | halfway (part : π) (time : ℕ)
  | read (answer : Except ε ν) (time : ℕ)
  | finished (answer : Except ε ν) (time : ℕ)
  | abandoned

structure Load (ι q π ν ε : Type*) where
  gateway : ι
  query : q
  phase : LoadPhase π ν ε

/-- A lookup, with the time of its answer once it has one. -/
inductive LookupPhase (ν ε : Type*) where
  | start
  | waiting (load : ℕ)
  | returned (answer : Except ε ν) (time : ℕ)

structure Lookup (ι q ν ε : Type*) where
  gateway : ι
  query : q
  started : ℕ
  phase : LookupPhase ν ε

structure Fleet (ι σ κ q π ν ε : Type*) where
  now : ℕ
  source : σ
  cache : ι → Store κ ν
  loads : List (Load ι q π ν ε)
  lookups : List (Lookup ι q ν ε)

namespace Fleet

/-- Empty caches, at any time and over any source. -/
def start (now : ℕ) (source : σ) : Fleet ι σ κ q π ν ε := ⟨now, source, fun _ ↦ empty, [], []⟩

def asked (s : Fleet ι σ κ q π ν ε) : List q := s.lookups.map Lookup.query

end Fleet

inductive Step (ι σ κ q c : Type*) where
  | wait (elapsed : ℕ)
  | write (source : σ)
  | startLookup (gateway : ι) (query : q)
  | stepLookup (i : ℕ)
  | stepLoad (i : ℕ) (choice : c)
  | abandonLoad (i : ℕ)
  | evict (gateway : ι) (k : κ)
  | clear (gateway : ι)

def LoadPhase.inFlight : LoadPhase π ν ε → Bool
  | .reading | .halfway _ _ | .read _ _ => true
  | .finished _ _ | .abandoned => false

/-- When the load has begun to read what it is about to store. -/
def LoadPhase.pending : LoadPhase π ν ε → Option ℕ
  | .read _ time => some time
  | .reading | .halfway _ _ | .finished _ _ | .abandoned => none

/-! ## Steps -/

section Steps

variable (svc : Service σ κ q π ν ε c) [DecidableEq ι] [DecidableEq κ]

def Service.joins (gateway : ι) (k : κ) (l : Load ι q π ν ε) : Bool :=
  decide (l.gateway = gateway) && decide (svc.key l.query = k) && l.phase.inFlight

def Service.lookupStep (s : Fleet ι σ κ q π ν ε) (l : Lookup ι q ν ε) :
    Option (List (Load ι q π ν ε) × LookupPhase ν ε) :=
  match l.phase with
  | .start =>
      match get (s.cache l.gateway) s.now (svc.key l.query) with
      | some value => some ([], .returned (.ok value) s.now)
      | none =>
          match s.loads.findIdx? (svc.joins l.gateway (svc.key l.query)) with
          | some j => some ([], .waiting j)
          | none => some ([⟨l.gateway, l.query, .reading⟩], .waiting s.loads.length)
  | .waiting j =>
      match s.loads[j]?.map Load.phase with
      | some (.finished answer _) => some ([], .returned answer s.now)
      | some .abandoned => some ([], .start)
      | _ => none
  | .returned _ _ => none

/-- The cache of one gateway, and what becomes of the load.  An error is not stored. -/
def Service.loadStep (s : Fleet ι σ κ q π ν ε) (choice : c) (l : Load ι q π ν ε) :
    Option (Store κ ν × LoadPhase π ν ε) :=
  match l.phase with
  | .reading => some (s.cache l.gateway,
      (svc.first choice s.source l.query).elim (.halfway · s.now) (.read · s.now))
  | .halfway part time => some
      (s.cache l.gateway, .read (svc.second choice s.source l.query part) time)
  | .read (.ok value) time => some
      (setEx (s.cache l.gateway) s.now (svc.key l.query) value svc.ttl,
        .finished (.ok value) time)
  | .read (.error e) time => some (s.cache l.gateway, .finished (.error e) time)
  | .finished _ _ | .abandoned => none

def Service.step (s : Fleet ι σ κ q π ν ε) : Step ι σ κ q c → Option (Fleet ι σ κ q π ν ε)
  | .wait elapsed => some { s with now := s.now + elapsed }
  | .write source => some { s with source }
  | .startLookup gateway query =>
      some { s with lookups := s.lookups ++ [⟨gateway, query, s.now, .start⟩] }
  | .stepLookup i => s.lookups[i]?.bind fun l ↦
      (svc.lookupStep s l).map fun (loads, phase) ↦ { s with
        loads := s.loads ++ loads
        lookups := s.lookups.set i { l with phase } }
  | .stepLoad i choice => s.loads[i]?.bind fun l ↦
      (svc.loadStep s choice l).map fun (store, phase) ↦ { s with
        cache := Function.update s.cache l.gateway store
        loads := s.loads.set i { l with phase } }
  | .abandonLoad i => s.loads[i]?.bind fun l ↦
      if l.phase.inFlight then
        some { s with loads := s.loads.set i { l with phase := .abandoned } }
      else none
  | .evict gateway k =>
      some { s with cache := Function.update s.cache gateway (put (s.cache gateway) k none) }
  | .clear gateway => some { s with cache := Function.update s.cache gateway empty }

end Steps

/-- A load stores within `d` of its first read. -/
def TimelyLoads (d : ℕ) (s : Fleet ι σ κ q π ν ε) : Step ι σ κ q c → Prop
  | .stepLoad i _ => ∀ l ∈ s.loads[i]?, ∀ time ∈ l.phase.pending, s.now ≤ time + d
  | _ => True

instance decidableTimelyLoads (d : ℕ) (s : Fleet ι σ κ q π ν ε) :
    (a : Step ι σ κ q c) → Decidable (TimelyLoads d s a)
  | .stepLoad i _ => inferInstanceAs (Decidable
      (∀ l ∈ s.loads[i]?, ∀ time ∈ l.phase.pending, s.now ≤ time + d))
  | .wait _ | .write _ | .startLookup _ _ | .stepLookup _ | .abandonLoad _ | .evict _ _
  | .clear _ => inferInstanceAs (Decidable True)

/-! ## Where answers come from -/

section Attribution

variable (svc : Service σ κ q π ν ε c)

/-- A load for the key, which somebody had asked for in the state `v`, gave the answer, with
its first read in `v` and its last one in `w`. -/
def Service.ReadFrom (v w : Fleet ι σ κ q π ν ε) (k : κ) (answer : Except ε ν) : Prop :=
  v.now ≤ w.now ∧ ∃ query ∈ v.asked, svc.key query = k ∧
    ∃ c₁ c₂, svc.answer c₁ v.source c₂ w.source query = answer

/-- The same for states of the past, the first of them at the time `t`. -/
def Service.ReadAt (past : List (Fleet ι σ κ q π ν ε)) (k : κ) (answer : Except ε ν) (t : ℕ) :
    Prop :=
  ∃ v ∈ past, v.now = t ∧ ∃ w ∈ past, svc.ReadFrom v w k answer

variable {svc} in
theorem Service.ReadAt.mono {past later : List (Fleet ι σ κ q π ν ε)} {k : κ}
    {answer : Except ε ν} {t : ℕ} (h : svc.ReadAt past k answer t) (hsub : past ⊆ later) :
    svc.ReadAt later k answer t := by
  obtain ⟨v, hv, hnow, w, hw, hread⟩ := h
  exact ⟨v, hsub hv, hnow, w, hsub hw, hread⟩

/-- A load for the query has read a part of its answer at the time `t`. -/
def Service.BegunAt (past : List (Fleet ι σ κ q π ν ε)) (query : q) (part : π) (t : ℕ) : Prop :=
  ∃ v ∈ past, v.now = t ∧ query ∈ v.asked ∧ ∃ choice, svc.first choice v.source query = .inl part

variable {svc} in
theorem Service.BegunAt.mono {past later : List (Fleet ι σ κ q π ν ε)} {query : q} {part : π}
    {t : ℕ} (h : svc.BegunAt past query part t) (hsub : past ⊆ later) :
    svc.BegunAt later query part t := by
  obtain ⟨v, hv, hread⟩ := h
  exact ⟨v, hsub hv, hread⟩

variable {svc} in
theorem Service.BegunAt.readAt {past : List (Fleet ι σ κ q π ν ε)} {query : q} {part : π}
    {t : ℕ} (h : svc.BegunAt past query part t) {w : Fleet ι σ κ q π ν ε} (hw : w ∈ past)
    (hle : t ≤ w.now) (choice : c) :
    svc.ReadAt past (svc.key query) (svc.second choice w.source query part) t := by
  obtain ⟨v, hv, hnow, hasked, choice', hfirst⟩ := h
  refine ⟨v, hv, hnow, w, hw, hnow.trans_le hle, query, hasked, rfl, choice', choice, ?_⟩
  rw [Service.answer, hfirst]
  rfl

def Load.Attributed (past : List (Fleet ι σ κ q π ν ε)) (asked : List q) (l : Load ι q π ν ε) :
    Prop :=
  l.query ∈ asked ∧
    match l.phase with
    | .reading | .abandoned => True
    | .halfway part t => svc.BegunAt past l.query part t
    | .read answer t | .finished answer t => svc.ReadAt past (svc.key l.query) answer t

def Lookup.Attributed (past : List (Fleet ι σ κ q π ν ε)) (d : ℕ) (loads : List (Load ι q π ν ε))
    (l : Lookup ι q ν ε) : Prop :=
  match l.phase with
  | .start => True
  | .waiting j => ∃ load, loads[j]? = some load ∧ svc.key load.query = svc.key l.query ∧
      ∀ answer t, load.phase = .finished answer t → l.started ≤ t + d
  | .returned answer time => ∃ v ∈ past, ∃ w ∈ past, w.now ≤ time ∧
      l.started ≤ v.now + (svc.ttl + d) ∧ svc.ReadFrom v w (svc.key l.query) answer

/-- Every value in a cache, in the hands of a load or in an answer is attributed. -/
structure Attributed (past : List (Fleet ι σ κ q π ν ε)) (d : ℕ) (s : Fleet ι σ κ q π ν ε) :
    Prop where
  cache : ∀ gateway, BoundedAge (fun k v t ↦ svc.ReadAt past k (.ok v) t) (svc.ttl + d)
    (s.cache gateway)
  loads : ∀ l ∈ s.loads, l.Attributed svc past s.asked
  lookups : ∀ l ∈ s.lookups, l.started ≤ s.now ∧ l.Attributed svc past d s.loads

/-- The same, with the state itself part of the past. -/
structure Traced (d : ℕ) (past : List (Fleet ι σ κ q π ν ε)) (s : Fleet ι σ κ q π ν ε) : Prop
    extends Attributed svc past d s where
  current : s ∈ past
  clock : ∀ v ∈ past, v.now ≤ s.now

variable {svc} {d : ℕ} {past later : List (Fleet ι σ κ q π ν ε)}

theorem Load.Attributed.mono {asked : List q} {l : Load ι q π ν ε} (h : l.Attributed svc past asked)
    (hsub : past ⊆ later) : l.Attributed svc later asked := by
  refine ⟨h.1, ?_⟩
  have hphase := h.2
  split
  · trivial
  · trivial
  · next hbegun =>
    rw [hbegun] at hphase
    exact hphase.mono hsub
  · next hread =>
    rw [hread] at hphase
    exact hphase.mono hsub
  · next hfinished =>
    rw [hfinished] at hphase
    exact hphase.mono hsub

theorem Lookup.Attributed.mono {loads : List (Load ι q π ν ε)} {l : Lookup ι q ν ε}
    (h : l.Attributed svc past d loads) (hsub : past ⊆ later) :
    l.Attributed svc later d loads := by
  obtain ⟨gateway, query, started, phase⟩ := l
  cases phase with
  | start => trivial
  | waiting j => exact h
  | returned answer time =>
      obtain ⟨v, hv, w, hw, hread⟩ := h
      exact ⟨v, hsub hv, w, hsub hw, hread⟩

/-- The loads may go on, as long as one that finishes does so in time for the lookup. -/
theorem Lookup.Attributed.of_loads {loads loads' : List (Load ι q π ν ε)} {l : Lookup ι q ν ε}
    (h : l.Attributed svc past d loads)
    (hloads : ∀ (j : ℕ) (load : Load ι q π ν ε), loads[j]? = some load →
      ∃ load' : Load ι q π ν ε, loads'[j]? = some load' ∧ load'.query = load.query ∧
        ∀ answer t, load'.phase = .finished answer t →
          load.phase = .finished answer t ∨ l.started ≤ t + d) :
    l.Attributed svc past d loads' := by
  obtain ⟨gateway, query, started, phase⟩ := l
  cases phase with
  | start => trivial
  | waiting j =>
      obtain ⟨load, hload, hkey, hfinished⟩ := h
      obtain ⟨load', hload', hquery, hfinished'⟩ := hloads j load hload
      refine ⟨load', hload', by rw [hquery, hkey], fun answer t hphase ↦ ?_⟩
      exact (hfinished' answer t hphase).elim (hfinished answer t) id
  | returned answer time => exact h

theorem Attributed.mono {s : Fleet ι σ κ q π ν ε} (h : Attributed svc past d s)
    (hsub : past ⊆ later) : Attributed svc later d s where
  cache gateway := (h.cache gateway).mono fun _ _ _ hread ↦ hread.mono hsub
  loads l hl := (h.loads l hl).mono hsub
  lookups l hl := ⟨(h.lookups l hl).1, (h.lookups l hl).2.mono hsub⟩

theorem Traced.next {s t : Fleet ι σ κ q π ν ε} (h : Traced svc d past s) (hnow : s.now ≤ t.now)
    (ht : Attributed svc past d t) : Traced svc d (past ++ [t]) t where
  toAttributed := ht.mono (List.subset_append_left past [t])
  current := List.mem_append_right past List.mem_cons_self
  clock v hv := by
    rcases List.mem_append.mp hv with hv | hv
    · exact (h.clock v hv).trans hnow
    · exact (List.mem_singleton.mp hv ▸ le_rfl)

theorem traced_start (svc : Service σ κ q π ν ε c) (d now : ℕ) (source : σ) :
    Traced svc d [Fleet.start now source] (Fleet.start now source : Fleet ι σ κ q π ν ε) where
  cache _ := boundedAge_empty _ _
  loads l hl := by cases hl
  lookups l hl := by cases hl
  current := List.mem_singleton_self _
  clock v hv := (List.mem_singleton.mp hv ▸ le_rfl)

end Attribution

/-! ## Every step attributes what it answers -/

section Runs

variable {svc : Service σ κ q π ν ε c} [DecidableEq ι] [DecidableEq κ] {d : ℕ}
  {past : List (Fleet ι σ κ q π ν ε)} {s : Fleet ι σ κ q π ν ε}

omit [DecidableEq ι] [DecidableEq κ] in
theorem asked_set {lookups : List (Lookup ι q ν ε)} {i : ℕ} {l : Lookup ι q ν ε}
    (hl : lookups[i]? = some l) (phase : LookupPhase ν ε) :
    (lookups.set i { l with phase }).map Lookup.query = lookups.map Lookup.query := by
  rw [List.map_set]
  apply List.ext_getElem?
  intro j
  rw [List.getElem?_set]
  split_ifs with hij hlt
  · rw [← hij, List.getElem?_map, hl, Option.map_some]
  · rw [← hij, List.getElem?_eq_none (by omega)]
  · rfl

omit [DecidableEq ι] [DecidableEq κ] in
/-- A lookup that returns now what was read at the time `t` is attributed. -/
theorem Traced.returned (h : Traced svc d past s) {l : Lookup ι q ν ε} {answer : Except ε ν}
    {t : ℕ} (hread : svc.ReadAt past (svc.key l.query) answer t)
    (hage : l.started ≤ t + (svc.ttl + d)) (loads : List (Load ι q π ν ε)) :
    ({ l with phase := .returned answer s.now } : Lookup ι q ν ε).Attributed svc past d loads := by
  obtain ⟨v, hv, rfl, w, hw, hread⟩ := hread
  exact ⟨v, hv, w, hw, h.clock w hw, hage, hread⟩

/-- What a step of a lookup starts, and what it leaves in the hands of the lookup. -/
theorem Traced.lookupStep (h : Traced svc d past s) {l : Lookup ι q ν ε} (hmem : l ∈ s.lookups)
    {loads : List (Load ι q π ν ε)} {phase : LookupPhase ν ε}
    (hstep : svc.lookupStep s l = some (loads, phase)) :
    (∀ load ∈ loads, load.query = l.query ∧ load.phase = .reading) ∧
      ({ l with phase } : Lookup ι q ν ε).Attributed svc past d (s.loads ++ loads) := by
  obtain ⟨hstarted, hl⟩ := h.lookups l hmem
  unfold Service.lookupStep at hstep
  cases hphase : l.phase with
  | start =>
      simp only [hphase] at hstep
      split at hstep
      · next value hget =>
        cases hstep
        obtain ⟨t, hread, hle⟩ := (h.cache l.gateway).get hget
        exact ⟨by simp, h.returned hread (hstarted.trans hle) _⟩
      · split at hstep
        · next j hj =>
          cases hstep
          obtain ⟨hlt, hjoins, _⟩ := List.findIdx?_eq_some_iff_getElem.mp hj
          simp only [Service.joins, Bool.and_eq_true, decide_eq_true_eq] at hjoins
          refine ⟨by simp, s.loads[j], by simp [hlt], hjoins.1.2, fun answer t hfinished ↦ ?_⟩
          rw [hfinished] at hjoins
          exact absurd hjoins.2 (by simp [LoadPhase.inFlight])
        · cases hstep
          exact ⟨by simp, ⟨l.gateway, l.query, .reading⟩, by simp, rfl,
            fun answer t hfinished ↦ by cases hfinished⟩
  | waiting j =>
      rw [Lookup.Attributed, hphase] at hl
      obtain ⟨load, hload, hkey, hfinished⟩ := hl
      simp only [hphase, hload, Option.map_some] at hstep
      split at hstep <;> cases hstep
      · next answer t hanswer =>
        have hanswer' : load.phase = .finished answer t := Option.some.inj hanswer
        have hload' := (h.loads load (List.mem_of_getElem? hload)).2
        rw [hanswer'] at hload'
        have hread : svc.ReadAt past (svc.key l.query) answer t := hkey ▸ hload'
        have hle := hfinished answer t hanswer'
        exact ⟨by simp, h.returned hread (by omega) _⟩
      · exact ⟨by simp, trivial⟩
  | returned answer time =>
      simp only [hphase] at hstep
      cases hstep

theorem Traced.stepLookup (h : Traced svc d past s) {i : ℕ} {t : Fleet ι σ κ q π ν ε}
    (hstep : svc.step s (.stepLookup i : Step ι σ κ q c) = some t) :
    Attributed svc past d t ∧ t.now = s.now := by
  simp only [Service.step, Option.bind_eq_some_iff, Option.map_eq_some_iff] at hstep
  obtain ⟨l, hl, ⟨loads, phase⟩, hlookup, rfl⟩ := hstep
  have hmem := List.mem_of_getElem? hl
  obtain ⟨hnew, hphase⟩ := h.lookupStep hmem hlookup
  refine ⟨⟨h.cache, fun load hload ↦ ?_, fun l' hl' ↦ ?_⟩, rfl⟩
  · rw [Fleet.asked, asked_set hl phase]
    rcases List.mem_append.mp hload with hold | hload
    · exact h.loads load hold
    · obtain ⟨hquery, hreading⟩ := hnew load hload
      refine ⟨hquery ▸ List.mem_map_of_mem hmem, ?_⟩
      rw [hreading]
      trivial
  · rcases List.mem_or_eq_of_mem_set hl' with hold | rfl
    · obtain ⟨hstarted, hold⟩ := h.lookups l' hold
      refine ⟨hstarted, Lookup.Attributed.of_loads hold fun j load hload ↦ ?_⟩
      refine ⟨load, ?_, rfl, fun answer t hfinished ↦ Or.inl hfinished⟩
      rw [List.getElem?_append_left (List.getElem?_eq_some_iff.mp hload).1, hload]
    · exact ⟨(h.lookups l hmem).1, hphase⟩

omit [DecidableEq ι] in
/-- What a step of a load stores, and what it leaves in the hands of the load. -/
theorem Traced.loadStep (h : Traced svc d past s) {choice : c} {l : Load ι q π ν ε}
    (hmem : l ∈ s.loads) (htimely : ∀ time ∈ l.phase.pending, s.now ≤ time + d)
    {store : Store κ ν} {phase : LoadPhase π ν ε}
    (hstep : svc.loadStep s choice l = some (store, phase)) :
    BoundedAge (fun k v t ↦ svc.ReadAt past k (.ok v) t) (svc.ttl + d) store ∧
      ({ l with phase } : Load ι q π ν ε).Attributed svc past s.asked ∧
      ∀ answer t, phase = .finished answer t → s.now ≤ t + d := by
  obtain ⟨hasked, hl⟩ := h.loads l hmem
  unfold Service.loadStep at hstep
  split at hstep
  · next hphase =>
    cases hstep
    refine ⟨h.cache l.gateway, ⟨hasked, ?_⟩, fun answer t hfinished ↦ ?_⟩
    · cases hfirst : svc.first choice s.source l.query with
      | inl part => exact ⟨s, h.current, rfl, hasked, choice, hfirst⟩
      | inr answer =>
          refine ⟨s, h.current, rfl, s, h.current, le_rfl, l.query, hasked, rfl, choice,
            choice, ?_⟩
          rw [Service.answer, hfirst]
          rfl
    · cases hfirst : svc.first choice s.source l.query <;> rw [hfirst] at hfinished <;>
        cases hfinished
  · next part time hphase =>
    cases hstep
    rw [hphase] at hl
    have hle : time ≤ s.now := by
      obtain ⟨v, hv, rfl, _⟩ := hl
      exact h.clock v hv
    refine ⟨h.cache l.gateway, ⟨hasked, Service.BegunAt.readAt hl h.current hle choice⟩, ?_⟩
    intro answer t hfinished
    cases hfinished
  · next value time hphase =>
    cases hstep
    rw [hphase] at hl htimely
    have hnow : s.now ≤ time + d := htimely time rfl
    refine ⟨(h.cache l.gateway).setEx hl hnow (by omega), ⟨hasked, hl⟩, ?_⟩
    intro answer t hfinished
    cases hfinished
    exact hnow
  · next e time hphase =>
    cases hstep
    rw [hphase] at hl htimely
    refine ⟨h.cache l.gateway, ⟨hasked, hl⟩, fun answer t hfinished ↦ ?_⟩
    cases hfinished
    exact htimely time rfl
  · cases hstep
  · cases hstep

omit [DecidableEq ι] [DecidableEq κ] in
/-- A load that is replaced by one of the same query keeps what lookups rely on, unless it
finishes too late. -/
theorem Attributed.setLoad (h : Attributed svc past d s) {i : ℕ} {l : Load ι q π ν ε}
    (hl : s.loads[i]? = some l) {phase : LoadPhase π ν ε} {cache : ι → Store κ ν}
    (hcache : ∀ gateway, BoundedAge (fun k v t ↦ svc.ReadAt past k (.ok v) t) (svc.ttl + d)
      (cache gateway))
    (hload : ({ l with phase } : Load ι q π ν ε).Attributed svc past s.asked)
    (hfinished : ∀ answer t, phase = .finished answer t → s.now ≤ t + d) :
    Attributed svc past d { s with cache, loads := s.loads.set i { l with phase } } := by
  refine ⟨hcache, fun load hmem ↦ ?_, fun l' hl' ↦ ?_⟩
  · rcases List.mem_or_eq_of_mem_set hmem with hold | rfl
    · exact h.loads load hold
    · exact hload
  · obtain ⟨hstarted, hold⟩ := h.lookups l' hl'
    refine ⟨hstarted, Lookup.Attributed.of_loads hold fun j load hj ↦ ?_⟩
    by_cases hij : i = j
    · subst hij
      cases hl.symm.trans hj
      have hlt := (List.getElem?_eq_some_iff.mp hl).1
      refine ⟨{ l with phase }, by simp [hlt], rfl, fun answer t hphase ↦ Or.inr ?_⟩
      exact hstarted.trans (hfinished answer t hphase)
    · exact ⟨load, by rw [List.getElem?_set_ne hij, hj], rfl, fun _ _ hphase ↦ Or.inl hphase⟩

omit [DecidableEq κ] in
theorem Attributed.setCache (h : Attributed svc past d s) {gateway : ι} {store : Store κ ν}
    (hstore : BoundedAge (fun k v t ↦ svc.ReadAt past k (.ok v) t) (svc.ttl + d) store)
    (gateway' : ι) : BoundedAge (fun k v t ↦ svc.ReadAt past k (.ok v) t) (svc.ttl + d)
      (Function.update s.cache gateway store gateway') := by
  by_cases hg : gateway' = gateway
  · rw [hg, Function.update_self]
    exact hstore
  · rw [Function.update_of_ne hg]
    exact h.cache gateway'

theorem Traced.step (past : List (Fleet ι σ κ q π ν ε)) (s : Fleet ι σ κ q π ν ε)
    (a : Step ι σ κ q c) (t : Fleet ι σ κ q π ν ε) (h : Traced svc d past s)
    (hguard : TimelyLoads d s a) (hstep : svc.step s a = some t) :
    Traced svc d (past ++ [t]) t := by
  cases a with
  | wait elapsed =>
      cases hstep
      refine h.next (Nat.le_add_right _ _) ⟨h.cache, h.loads, fun l hl ↦ ?_⟩
      exact ⟨(h.lookups l hl).1.trans (Nat.le_add_right _ _), (h.lookups l hl).2⟩
  | write source =>
      cases hstep
      exact h.next le_rfl ⟨h.cache, h.loads, h.lookups⟩
  | startLookup gateway query =>
      cases hstep
      refine h.next le_rfl ⟨h.cache, fun load hload ↦ ?_, fun l hl ↦ ?_⟩
      · obtain ⟨hasked, hphase⟩ := h.loads load hload
        refine ⟨?_, hphase⟩
        rw [Fleet.asked, List.map_append]
        exact List.mem_append_left _ hasked
      · rcases List.mem_append.mp hl with hold | hnew
        · exact h.lookups l hold
        · cases List.mem_singleton.mp hnew
          exact ⟨le_rfl, trivial⟩
  | stepLookup i =>
      obtain ⟨hattributed, hnow⟩ := h.stepLookup hstep
      exact h.next hnow.ge hattributed
  | stepLoad i choice =>
      simp only [Service.step, Option.bind_eq_some_iff, Option.map_eq_some_iff] at hstep
      obtain ⟨l, hl, ⟨store, phase⟩, hload, rfl⟩ := hstep
      obtain ⟨hstore, hattributed, hfinished⟩ :=
        h.loadStep (List.mem_of_getElem? hl) (hguard l hl) hload
      exact h.next le_rfl (h.setLoad hl (h.setCache hstore) hattributed hfinished)
  | abandonLoad i =>
      simp only [Service.step, Option.bind_eq_some_iff, Option.ite_none_right_eq_some,
        Option.some.injEq] at hstep
      obtain ⟨l, hl, _, rfl⟩ := hstep
      refine h.next le_rfl (h.setLoad hl h.cache ⟨?_, trivial⟩ fun answer t hphase ↦ ?_)
      · exact (h.loads l (List.mem_of_getElem? hl)).1
      · cases hphase
  | evict gateway k =>
      cases hstep
      exact h.next le_rfl ⟨h.setCache ((h.cache gateway).put_none k), h.loads, h.lookups⟩
  | clear gateway =>
      cases hstep
      exact h.next le_rfl ⟨h.setCache (boundedAge_empty _ _), h.loads, h.lookups⟩

/-- An answer was read from states of the run of which the first is not older than the lookup
by more than the time to live and the delay of a load. -/
theorem returned_age {now : ℕ} {source : σ} {steps : List (Step ι σ κ q c)}
    {u : Fleet ι σ κ q π ν ε}
    (htimely : Guarded svc.step (TimelyLoads d) (.start now source) steps)
    (hrun : run svc.step (.start now source) steps = some u) {l : Lookup ι q ν ε}
    (hl : l ∈ u.lookups) {answer : Except ε ν} {time : ℕ}
    (hreturned : l.phase = .returned answer time) :
    ∃ v ∈ visited svc.step (.start now source) steps,
      ∃ w ∈ visited svc.step (.start now source) steps, w.now ≤ time ∧
        l.started ≤ v.now + (svc.ttl + d) ∧ svc.ReadFrom v w (svc.key l.query) answer := by
  have htraced : Traced svc d ([] ++ visited svc.step (.start now source) steps) u :=
    run_invariant_visited Traced.step htimely hrun (traced_start svc d now source)
  have hphase := (htraced.lookups l hl).2
  rwa [Lookup.Attributed, hreturned] at hphase

/-- With loads that read once, an answer was read from one state. -/
theorem returned_age_ofRead {key : q → κ} {read : c → σ → q → Except ε ν} {ttl : ℕ} {now : ℕ}
    {source : σ} {steps : List (Step ι σ κ q c)} {u : Fleet ι σ κ q Empty ν ε}
    (htimely : Guarded (Service.ofRead key read ttl).step (TimelyLoads d) (.start now source)
      steps)
    (hrun : run (Service.ofRead key read ttl).step (.start now source) steps = some u)
    {l : Lookup ι q ν ε} (hl : l ∈ u.lookups) {answer : Except ε ν} {time : ℕ}
    (hreturned : l.phase = .returned answer time) :
    ∃ v ∈ visited (Service.ofRead key read ttl).step (.start now source) steps, v.now ≤ time ∧
      l.started ≤ v.now + (ttl + d) ∧ ∃ query ∈ v.asked, ∃ choice,
        key query = key l.query ∧ read choice v.source query = answer := by
  obtain ⟨v, hv, w, _, hle, hage, hvw, query, hasked, hkey, choice, _, hread⟩ :=
    returned_age htimely hrun hl hreturned
  exact ⟨v, hv, hvw.trans hle, hage, query, hasked, choice, hkey, hread⟩

end Runs

end CacheFleet
