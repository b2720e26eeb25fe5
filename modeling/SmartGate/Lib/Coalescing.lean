import Mathlib.Data.List.Basic
import Mathlib.Logic.Function.Basic
import Mathlib.Tactic.Common
import SmartGate.Lib.Processes
import SmartGate.Lib.Transition

/-!
# A cache that coalesces loads

Lookups go through a cache in front of a source that is written to.  A lookup that misses
joins the load of its key that is in flight, or starts one.  A load reads the source, and in
a later step stores what it has read, whatever has happened in between.  A write changes the
source, then clears the whole cache, and then responds.

Versions count the states of the source.  They are carried along with answers and with
cached values, so that it can be said which state an answer has been read from.
-/

namespace Coalescing

open Transition

variable {σ κ q ν ε w c : Type*}

/-- What is cached, under which key, and how the source is read and written.  A read may be
resolved by a choice of the environment.  A write answers whether it succeeded. -/
structure Service (σ κ q ν ε w c : Type*) where
  key : q → κ
  read : c → σ → q → Except ε ν
  write : w → σ → Bool × σ

inductive LoadPhase (ν ε : Type*) where
  | reading
  | read (answer : Except ε ν) (version : ℕ)
  | finished (answer : Except ε ν) (version : ℕ)

structure Load (q ν ε : Type*) where
  query : q
  phase : LoadPhase ν ε

inductive LookupPhase (ν ε : Type*) where
  | start
  | waiting (load : ℕ)
  | returned (answer : Except ε ν) (version : ℕ)

/-- A lookup, with the latest version that a response had been sent for when it started. -/
structure Lookup (q ν ε : Type*) where
  query : q
  since : ℕ
  phase : LookupPhase ν ε

inductive WritePhase where
  | statement
  | invalidate (version : ℕ)
  | respond (version : ℕ)
  | returned (succeeded : Bool)

structure Write (w : Type*) where
  request : w
  phase : WritePhase

/-- `history` has all states of the source, the current one last.  `invalidated` and
`acknowledged` are the latest versions for which the cache has been cleared and a response
has been sent. -/
structure State (σ κ q ν ε w : Type*) where
  source : σ
  history : List σ
  cache : κ → Option (ν × ℕ)
  loads : List (Load q ν ε)
  lookups : List (Lookup q ν ε)
  writes : List (Write w)
  invalidated : ℕ
  acknowledged : ℕ

def State.initial (source : σ) : State σ κ q ν ε w where
  source := source
  history := [source]
  cache := fun _ ↦ none
  loads := []
  lookups := []
  writes := []
  invalidated := 0
  acknowledged := 0

inductive Step (κ q w c : Type*) where
  | startLookup (query : q)
  | stepLookup (i : ℕ)
  | stepLoad (i : ℕ) (choice : c)
  | startWrite (request : w)
  | stepWrite (i : ℕ)
  | evict (k : κ)

def LoadPhase.isFinished : LoadPhase ν ε → Bool
  | .finished _ _ => true
  | .reading | .read _ _ => false

/-- The version from which the load is about to finish. -/
def LoadPhase.pending : LoadPhase ν ε → Option ℕ
  | .read _ version => some version
  | .reading | .finished _ _ => none

variable (svc : Service σ κ q ν ε w c)

section Steps

variable [DecidableEq κ]

def Service.inFlight (k : κ) (l : Load q ν ε) : Bool :=
  decide (svc.key l.query = k) && !l.phase.isFinished

def Service.lookupStep (s : State σ κ q ν ε w) (l : Lookup q ν ε) :
    Option (State σ κ q ν ε w × Lookup q ν ε) :=
  match l.phase with
  | .start =>
      match s.cache (svc.key l.query) with
      | some (value, version) => some (s, { l with phase := .returned (.ok value) version })
      | none =>
          match s.loads.findIdx? (svc.inFlight (svc.key l.query)) with
          | some j => some (s, { l with phase := .waiting j })
          | none => some ({ s with loads := s.loads ++ [⟨l.query, .reading⟩] },
              { l with phase := .waiting s.loads.length })
  | .waiting j =>
      match s.loads[j]?.map Load.phase with
      | some (.finished answer version) =>
          some (s, { l with phase := .returned answer version })
      | _ => none
  | .returned _ _ => none

/-- A load that failed is over; one that succeeded stores its value. -/
def Service.loadStep (s : State σ κ q ν ε w) (choice : c) (l : Load q ν ε) :
    Option (State σ κ q ν ε w × Load q ν ε) :=
  match l.phase with
  | .reading => some (s,
      { l with phase := .read (svc.read choice s.source l.query) (s.history.length - 1) })
  | .read (.ok value) version => some
      ({ s with cache := Function.update s.cache (svc.key l.query) (some (value, version)) },
        { l with phase := .finished (.ok value) version })
  | .read (.error e) version => some (s, { l with phase := .finished (.error e) version })
  | .finished _ _ => none

def Service.writeStep (s : State σ κ q ν ε w) (x : Write w) :
    Option (State σ κ q ν ε w × Write w) :=
  match x.phase with
  | .statement =>
      let (succeeded, source) := svc.write x.request s.source
      some ({ s with source, history := s.history ++ [source] },
        { x with phase := if succeeded then .invalidate s.history.length else .returned false })
  | .invalidate version => some
      ({ s with cache := fun _ ↦ none, invalidated := max s.invalidated version },
        { x with phase := .respond version })
  | .respond version => some ({ s with acknowledged := max s.acknowledged version },
      { x with phase := .returned true })
  | .returned _ => none

def Service.step (s : State σ κ q ν ε w) : Step κ q w c → Option (State σ κ q ν ε w)
  | .startLookup query =>
      some { s with lookups := s.lookups ++ [⟨query, s.acknowledged, .start⟩] }
  | .stepLookup i => s.lookups[i]?.bind fun l ↦ (svc.lookupStep s l).map fun (s', l') ↦
      { s' with lookups := s.lookups.set i l' }
  | .stepLoad i choice => s.loads[i]?.bind fun l ↦ (svc.loadStep s choice l).map fun (s', l') ↦
      { s' with loads := s.loads.set i l' }
  | .startWrite request => some { s with writes := s.writes ++ [⟨request, .statement⟩] }
  | .stepWrite i => s.writes[i]?.bind fun x ↦ (svc.writeStep s x).map fun (s', x') ↦
      { s' with writes := s.writes.set i x' }
  | .evict k => some { s with cache := Function.update s.cache k none }

end Steps

/-- A load that has read before a write does not finish after the write has cleared the
cache. -/
def FinishesInTime (s : State σ κ q ν ε w) : Step κ q w c → Prop
  | .stepLoad i _ => ∀ l ∈ s.loads[i]?, ∀ version ∈ l.phase.pending, s.invalidated ≤ version
  | .startLookup _ | .stepLookup _ | .startWrite _ | .stepWrite _ | .evict _ => True

instance (s : State σ κ q ν ε w) : (a : Step κ q w c) → Decidable (FinishesInTime s a)
  | .stepLoad i _ => inferInstanceAs (Decidable
      (∀ l ∈ s.loads[i]?, ∀ version ∈ l.phase.pending, s.invalidated ≤ version))
  | .startLookup _ | .stepLookup _ | .startWrite _ | .stepWrite _ | .evict _ =>
      inferInstanceAs (Decidable True)

/-! ## Where answers come from -/

/-- The answer has been read from the given version of the source. -/
def Service.ReadAt (history : List σ) (version : ℕ) (query : q) (answer : Except ε ν) : Prop :=
  ∃ source choice, history[version]? = some source ∧ svc.read choice source query = answer

def Load.Valid (history : List σ) (l : Load q ν ε) : Prop :=
  match l.phase with
  | .reading => True
  | .read answer version | .finished answer version => svc.ReadAt history version l.query answer

def Lookup.Valid (history : List σ) (loads : List (Load q ν ε)) (l : Lookup q ν ε) : Prop :=
  match l.phase with
  | .start => True
  | .waiting j => ∃ load, loads[j]? = some load ∧ load.query = l.query ∧
      ∀ answer version, load.phase = .finished answer version → l.since ≤ version
  | .returned answer version => l.since ≤ version ∧ svc.ReadAt history version l.query answer

structure Coherent (s : State σ κ q ν ε w) : Prop where
  current : s.history.getLast? = some s.source
  cache : ∀ k value version, s.cache k = some (value, version) → s.invalidated ≤ version ∧
    ∀ query, svc.key query = k → svc.ReadAt s.history version query (.ok value)
  loads : ∀ l ∈ s.loads, l.Valid svc s.history
  lookups : ∀ l ∈ s.lookups, l.since ≤ s.acknowledged ∧ l.Valid svc s.history s.loads
  acknowledged : s.acknowledged ≤ s.invalidated
  writes : ∀ x ∈ s.writes, ∀ version, x.phase = .respond version → version ≤ s.invalidated

section Growth

variable {svc}

theorem Service.ReadAt.append {history : List σ} {version : ℕ} {query : q} {answer : Except ε ν}
    (h : svc.ReadAt history version query answer) (source : σ) :
    svc.ReadAt (history ++ [source]) version query answer := by
  obtain ⟨old, choice, hold, hread⟩ := h
  have hlt := (List.getElem?_eq_some_iff.mp hold).1
  exact ⟨old, choice, (List.getElem?_append_left hlt).trans hold, hread⟩

theorem Load.Valid.append {history : List σ} {l : Load q ν ε} (h : l.Valid svc history)
    (source : σ) : l.Valid svc (history ++ [source]) := by
  rcases l with ⟨query, _ | ⟨answer, version⟩ | ⟨answer, version⟩⟩
  · trivial
  · exact Service.ReadAt.append h source
  · exact Service.ReadAt.append h source

theorem Lookup.Valid.append {history : List σ} {loads : List (Load q ν ε)} {l : Lookup q ν ε}
    (h : l.Valid svc history loads) (source : σ) : l.Valid svc (history ++ [source]) loads := by
  rcases l with ⟨query, since, _ | j | ⟨answer, version⟩⟩
  · trivial
  · exact h
  · exact ⟨h.1, h.2.append source⟩

/-- A load that is only waited for changes in place, and others are added at the end. -/
theorem Lookup.Valid.loads {history : List σ} {loads loads' : List (Load q ν ε)}
    {l : Lookup q ν ε} (h : l.Valid svc history loads)
    (hloads : ∀ (j : ℕ) load, loads[j]? = some load → ∃ load', loads'[j]? = some load' ∧
      load'.query = load.query ∧ ∀ answer version, load'.phase = .finished answer version →
        load.phase = .finished answer version ∨ l.since ≤ version) :
    l.Valid svc history loads' := by
  rcases l with ⟨query, since, _ | j | ⟨answer, version⟩⟩
  · trivial
  · obtain ⟨load, hload, hquery, hfinished⟩ := h
    obtain ⟨load', hload', hquery', hphase⟩ := hloads j load hload
    refine ⟨load', hload', hquery'.trans hquery, fun answer version heq ↦ ?_⟩
    rcases hphase answer version heq with hold | hsince
    · exact hfinished answer version hold
    · exact hsince
  · exact h

end Growth

/-! ## Every step keeps the cache coherent -/

variable {svc} {s t : State σ κ q ν ε w}

theorem Coherent.initial (source : σ) : Coherent svc (.initial source : State σ κ q ν ε w) where
  current := rfl
  cache := by
    intro k value version h
    cases h
  loads := fun _ h ↦ absurd h List.not_mem_nil
  lookups := fun _ h ↦ absurd h List.not_mem_nil
  acknowledged := Nat.le_refl 0
  writes := fun _ h ↦ absurd h List.not_mem_nil

theorem forall_mem_set {α : Type*} {xs : List α} {p : α → Prop} (h : ∀ x ∈ xs, p x) (i : ℕ)
    {y : α} (hy : p y) : ∀ x ∈ xs.set i y, p x := by
  intro x hx
  rcases List.mem_or_eq_of_mem_set hx with hx | rfl
  · exact h x hx
  · exact hy

section Lookups

variable [DecidableEq κ]

/-- A step of a lookup at most adds a load that has not read anything yet. -/
theorem Coherent.lookupStep (hinj : Function.Injective svc.key) (h : Coherent svc s)
    {l l' : Lookup q ν ε} {s' : State σ κ q ν ε w} (hl : l ∈ s.lookups)
    (hstep : svc.lookupStep s l = some (s', l')) :
    (∃ more : List (Load q ν ε), s' = { s with loads := s.loads ++ more } ∧
        ∀ load ∈ more, load.phase = .reading) ∧
      l'.since = l.since ∧ l'.Valid svc s.history s'.loads := by
  obtain ⟨hsince, hvalid⟩ := h.lookups l hl
  have hsame : ∃ more : List (Load q ν ε), s = { s with loads := s.loads ++ more } ∧
      ∀ load ∈ more, load.phase = .reading :=
    ⟨[], by rw [List.append_nil], fun _ hload ↦ absurd hload List.not_mem_nil⟩
  unfold Service.lookupStep at hstep
  rcases l with ⟨query, since, _ | j | ⟨answer, version⟩⟩
  · dsimp only at hstep
    cases hcache : s.cache (svc.key query) with
    | some entry =>
        obtain ⟨value, version⟩ := entry
        rw [hcache] at hstep
        cases hstep
        obtain ⟨hfresh, hread⟩ := h.cache _ value version hcache
        have hversion := Nat.le_trans (Nat.le_trans hsince h.acknowledged) hfresh
        exact ⟨hsame, rfl, hversion, hread query rfl⟩
    | none =>
        rw [hcache] at hstep
        cases hfind : s.loads.findIdx? (svc.inFlight (svc.key query)) with
        | some j =>
            rw [hfind] at hstep
            cases hstep
            obtain ⟨hlt, hflight, _⟩ := List.findIdx?_eq_some_iff_getElem.mp hfind
            obtain ⟨hkey, hrunning⟩ := Bool.and_eq_true_iff.mp hflight
            refine ⟨hsame, rfl, s.loads[j], List.getElem?_eq_getElem hlt,
              hinj (of_decide_eq_true hkey), fun answer version hfinished ↦ ?_⟩
            rw [hfinished] at hrunning
            cases hrunning
        | none =>
            rw [hfind] at hstep
            cases hstep
            refine ⟨⟨[⟨query, .reading⟩], rfl, ?_⟩, rfl, ⟨query, .reading⟩,
              List.getElem?_concat_length, rfl, fun answer version hfinished ↦ ?_⟩
            · intro load hload
              rw [List.mem_singleton.mp hload]
            · cases hfinished
  · obtain ⟨load, hload, hquery, hfinished⟩ := hvalid
    dsimp only at hstep
    rw [hload] at hstep
    rcases hphase : load.phase with _ | ⟨answer, version⟩ | ⟨answer, version⟩
    · simp [hphase] at hstep
    · simp [hphase] at hstep
    · simp only [Option.map_some, hphase, Option.some.injEq, Prod.mk.injEq] at hstep
      obtain ⟨rfl, rfl⟩ := hstep
      have hread := h.loads load (List.mem_of_getElem? hload)
      rw [Load.Valid, hphase] at hread
      exact ⟨hsame, rfl, hfinished answer version hphase, hquery ▸ hread⟩
  · cases hstep

theorem Coherent.stepLookup (hinj : Function.Injective svc.key) (h : Coherent svc s) {i : ℕ}
    (hstep : svc.step s (.stepLookup i) = some t) : Coherent svc t := by
  obtain ⟨l, hl, hstep⟩ := Option.bind_eq_some_iff.mp hstep
  obtain ⟨⟨s', l'⟩, hlookup, rfl⟩ := Option.map_eq_some_iff.mp hstep
  have hmem := List.mem_of_getElem? hl
  obtain ⟨⟨more, rfl, hmore⟩, hsince, hvalid⟩ := h.lookupStep hinj hmem hlookup
  exact {
    current := h.current
    cache := h.cache
    loads := by
      intro load hload
      rcases List.mem_append.mp hload with hload | hload
      · exact h.loads load hload
      · rw [Load.Valid, hmore load hload]
        trivial
    lookups := by
      refine forall_mem_set (fun x hx ↦ ⟨(h.lookups x hx).1, ?_⟩) i
        ⟨hsince ▸ (h.lookups l hmem).1, hvalid⟩
      refine (h.lookups x hx).2.loads fun j load hload ↦ ⟨load, ?_, rfl, fun _ _ hf ↦ Or.inl hf⟩
      exact (List.getElem?_append_left (List.getElem?_eq_some_iff.mp hload).1).trans hload
    acknowledged := h.acknowledged
    writes := h.writes }

/-- What a load has read is what it hands on and stores. -/
theorem Coherent.loadStep (hinj : Function.Injective svc.key) (h : Coherent svc s) {choice : c}
    {l l' : Load q ν ε} {s' : State σ κ q ν ε w} (hl : l ∈ s.loads)
    (hintime : ∀ version ∈ l.phase.pending, s.invalidated ≤ version)
    (hstep : svc.loadStep s choice l = some (s', l')) :
    (∃ cache, s' = { s with cache } ∧ ∀ k value version, cache k = some (value, version) →
        s.invalidated ≤ version ∧
          ∀ query, svc.key query = k → svc.ReadAt s.history version query (.ok value)) ∧
      l'.query = l.query ∧ l'.Valid svc s.history ∧
      ∀ answer version, l'.phase = .finished answer version → s.invalidated ≤ version := by
  have hvalid := h.loads l hl
  have hsame : ∃ cache, s = { s with cache } ∧ ∀ k value version,
      cache k = some (value, version) → s.invalidated ≤ version ∧
        ∀ query, svc.key query = k → svc.ReadAt s.history version query (.ok value) :=
    ⟨s.cache, rfl, h.cache⟩
  unfold Service.loadStep at hstep
  rcases l with ⟨query, _ | ⟨answer, version⟩ | ⟨answer, version⟩⟩
  · cases hstep
    have hcurrent : s.history[s.history.length - 1]? = some s.source := by
      rw [← List.getLast?_eq_getElem?]
      exact h.current
    refine ⟨hsame, rfl, ⟨s.source, choice, hcurrent, rfl⟩, fun answer version hf ↦ ?_⟩
    cases hf
  · have hfresh := hintime version rfl
    cases answer with
    | error e =>
        cases hstep
        refine ⟨hsame, rfl, hvalid, fun answer version hf ↦ ?_⟩
        cases hf
        exact hfresh
    | ok value =>
        cases hstep
        refine ⟨⟨_, rfl, fun k value' version' hk ↦ ?_⟩, rfl, hvalid, fun answer version hf ↦ ?_⟩
        · by_cases hkey : k = svc.key query
          · subst hkey
            rw [Function.update_self] at hk
            cases hk
            exact ⟨hfresh, fun query' hquery ↦ hinj hquery ▸ hvalid⟩
          · rw [Function.update_of_ne hkey] at hk
            exact h.cache k value' version' hk
        · cases hf
          exact hfresh
  · cases hstep

theorem Coherent.stepLoad (hinj : Function.Injective svc.key) (h : Coherent svc s) {i : ℕ}
    {choice : c} (hintime : FinishesInTime s (.stepLoad i choice : Step κ q w c))
    (hstep : svc.step s (.stepLoad i choice) = some t) : Coherent svc t := by
  obtain ⟨l, hl, hstep⟩ := Option.bind_eq_some_iff.mp hstep
  obtain ⟨⟨s', l'⟩, hload, rfl⟩ := Option.map_eq_some_iff.mp hstep
  have hmem := List.mem_of_getElem? hl
  obtain ⟨⟨cache, rfl, hcache⟩, hquery, hvalid, hfinished⟩ :=
    h.loadStep hinj hmem (hintime l hl) hload
  exact {
    current := h.current
    cache := hcache
    loads := forall_mem_set h.loads i hvalid
    lookups := by
      intro x hx
      refine ⟨(h.lookups x hx).1, (h.lookups x hx).2.loads fun j load hj ↦ ?_⟩
      by_cases hij : i = j
      · subst hij
        cases hl.symm.trans hj
        refine ⟨l', ?_, hquery, fun answer version hf ↦ Or.inr ?_⟩
        · rw [List.getElem?_set_self (List.getElem?_eq_some_iff.mp hl).1]
        · exact Nat.le_trans (Nat.le_trans (h.lookups x hx).1 h.acknowledged)
            (hfinished answer version hf)
      · exact ⟨load, (List.getElem?_set_ne hij).trans hj, rfl, fun _ _ hf ↦ Or.inl hf⟩
    acknowledged := h.acknowledged
    writes := h.writes }

end Lookups

theorem Coherent.write {source : σ} (h : Coherent svc s) :
    Coherent svc { s with source, history := s.history ++ [source] } where
  current := List.getLast?_concat
  cache k value version hk :=
    ⟨(h.cache k value version hk).1, fun query hquery ↦
      ((h.cache k value version hk).2 query hquery).append source⟩
  loads l hl := (h.loads l hl).append source
  lookups l hl := ⟨(h.lookups l hl).1, (h.lookups l hl).2.append source⟩
  acknowledged := h.acknowledged
  writes := h.writes

theorem Coherent.invalidate (h : Coherent svc s) (version : ℕ) :
    Coherent svc { s with
      cache := fun _ ↦ none, invalidated := max s.invalidated version } where
  current := h.current
  cache := by
    intro k value version hk
    cases hk
  loads := h.loads
  lookups := h.lookups
  acknowledged := Nat.le_trans h.acknowledged (Nat.le_max_left _ _)
  writes x hx n hn := Nat.le_trans (h.writes x hx n hn) (Nat.le_max_left _ _)

theorem Coherent.acknowledge (h : Coherent svc s) {version : ℕ} (hle : version ≤ s.invalidated) :
    Coherent svc { s with acknowledged := max s.acknowledged version } where
  current := h.current
  cache := h.cache
  loads := h.loads
  lookups l hl := ⟨Nat.le_trans (h.lookups l hl).1 (Nat.le_max_left _ _), (h.lookups l hl).2⟩
  acknowledged := Nat.max_le.mpr ⟨h.acknowledged, hle⟩
  writes := h.writes

theorem Coherent.setWrite (h : Coherent svc s) (i : ℕ) {x : Write w}
    (hx : ∀ version, x.phase = .respond version → version ≤ s.invalidated) :
    Coherent svc { s with writes := s.writes.set i x } where
  current := h.current
  cache := h.cache
  loads := h.loads
  lookups := h.lookups
  acknowledged := h.acknowledged
  writes := forall_mem_set h.writes i hx

theorem Coherent.stepWrite [DecidableEq κ] (h : Coherent svc s) {i : ℕ}
    (hstep : svc.step s (.stepWrite i) = some t) : Coherent svc t := by
  obtain ⟨x, hx, hstep⟩ := Option.bind_eq_some_iff.mp hstep
  obtain ⟨⟨s', x'⟩, hwrite, rfl⟩ := Option.map_eq_some_iff.mp hstep
  have hmem := List.mem_of_getElem? hx
  unfold Service.writeStep at hwrite
  rcases x with ⟨request, _ | version | version | succeeded⟩
  · cases hwrite
    refine h.write.setWrite i fun version hphase ↦ ?_
    dsimp only at hphase
    split_ifs at hphase
  · cases hwrite
    refine (h.invalidate version).setWrite i fun n hphase ↦ ?_
    cases hphase
    exact Nat.le_max_right _ _
  · cases hwrite
    refine (h.acknowledge (h.writes _ hmem version rfl)).setWrite i fun n hphase ↦ ?_
    cases hphase
  · cases hwrite

theorem Coherent.step [DecidableEq κ] (hinj : Function.Injective svc.key) (s : State σ κ q ν ε w)
    (a : Step κ q w c) (t : State σ κ q ν ε w) (h : Coherent svc s) (hintime : FinishesInTime s a)
    (hstep : svc.step s a = some t) : Coherent svc t := by
  cases a with
  | startLookup query =>
      cases hstep
      exact {
        current := h.current
        cache := h.cache
        loads := h.loads
        lookups := by
          intro l hl
          rcases List.mem_append.mp hl with hl | hl
          · exact h.lookups l hl
          · rw [List.mem_singleton.mp hl]
            exact ⟨Nat.le_refl _, trivial⟩
        acknowledged := h.acknowledged
        writes := h.writes }
  | stepLookup i => exact h.stepLookup hinj hstep
  | stepLoad i choice => exact h.stepLoad hinj hintime hstep
  | startWrite request =>
      cases hstep
      exact {
        current := h.current
        cache := h.cache
        loads := h.loads
        lookups := h.lookups
        acknowledged := h.acknowledged
        writes := by
          intro x hx version hphase
          rcases List.mem_append.mp hx with hx | hx
          · exact h.writes x hx version hphase
          · rw [List.mem_singleton.mp hx] at hphase
            cases hphase }
  | stepWrite i => exact h.stepWrite hstep
  | evict k =>
      cases hstep
      exact {
        current := h.current
        cache := by
          intro k' value version hk
          change Function.update s.cache k none k' = some (value, version) at hk
          by_cases hkey : k' = k
          · rw [hkey, Function.update_self] at hk
            cases hk
          · rw [Function.update_of_ne hkey] at hk
            exact h.cache k' value version hk
        loads := h.loads
        lookups := h.lookups
        acknowledged := h.acknowledged
        writes := h.writes }

/-- An answer comes from a state of the source that is no older than the writes whose
responses had been sent when the lookup started. -/
theorem Coherent.returned (h : Coherent svc s) {l : Lookup q ν ε} (hl : l ∈ s.lookups)
    {answer : Except ε ν} {version : ℕ} (hreturned : l.phase = .returned answer version) :
    l.since ≤ version ∧ svc.ReadAt s.history version l.query answer := by
  have hvalid := (h.lookups l hl).2
  rwa [Lookup.Valid, hreturned] at hvalid

/-- A lookup that has not returned can go on, or the load that it waits for can. -/
theorem Coherent.progress [DecidableEq κ] [Inhabited c] (h : Coherent svc s) {i : ℕ}
    {l : Lookup q ν ε} (hi : s.lookups[i]? = some l)
    (hpending : ∀ answer version, l.phase ≠ .returned answer version) :
    ∃ a, (a = .stepLookup i ∨ ∃ j choice, l.phase = .waiting j ∧ a = .stepLoad j choice) ∧
      (svc.step s a).isSome := by
  have hvalid := (h.lookups l (List.mem_of_getElem? hi)).2
  rcases l with ⟨query, since, _ | j | ⟨answer, version⟩⟩
  · refine ⟨.stepLookup i, Or.inl rfl, ?_⟩
    simp only [Service.step, hi, Option.bind_some, Option.isSome_map, Service.lookupStep]
    split
    · rfl
    · split <;> rfl
  · obtain ⟨load, hload, _, _⟩ := hvalid
    have hrunning : load.phase.isFinished = false → (svc.step s (.stepLoad j default)).isSome := by
      intro hphase
      simp only [Service.step, hload, Option.bind_some, Option.isSome_map]
      rcases load with ⟨query, _ | ⟨_ | _, version⟩ | ⟨answer, version⟩⟩
      · rfl
      · rfl
      · rfl
      · cases hphase
    rcases hphase : load.phase with _ | ⟨answer, version⟩ | ⟨answer, version⟩
    · exact ⟨.stepLoad j default, Or.inr ⟨j, default, rfl, rfl⟩, hrunning (by rw [hphase]; rfl)⟩
    · exact ⟨.stepLoad j default, Or.inr ⟨j, default, rfl, rfl⟩, hrunning (by rw [hphase]; rfl)⟩
    · refine ⟨.stepLookup i, Or.inl rfl, ?_⟩
      simp [Service.step, hi, Service.lookupStep, hload, hphase]
  · exact absurd rfl (hpending answer version)

/-! ## Loads that finish too late -/

/-- The latest write that has cleared the cache has responded, or is about to. -/
def State.Responding (s : State σ κ q ν ε w) : Prop :=
  s.invalidated ≤ s.acknowledged ∨ ∃ x ∈ s.writes, x.phase = .respond s.invalidated

theorem State.Responding.stepWrite [DecidableEq κ] (h : s.Responding) {i : ℕ}
    (hstep : svc.step s (.stepWrite i) = some t) : t.Responding := by
  obtain ⟨x, hx, hstep⟩ := Option.bind_eq_some_iff.mp hstep
  obtain ⟨⟨s', x'⟩, hwrite, rfl⟩ := Option.map_eq_some_iff.mp hstep
  -- a write that is about to respond stays so while another one moves
  have hkeep : ∀ y ∈ s.writes, y.phase = .respond s.invalidated →
      x.phase ≠ .respond s.invalidated → y ∈ s.writes.set i x' := fun y hy hphase hne ↦
    Processes.mem_set_of_ne hx hy fun heq ↦ hne (heq ▸ hphase)
  have hnew : x' ∈ s.writes.set i x' := List.mem_set (List.getElem?_eq_some_iff.mp hx).1 x'
  unfold Service.writeStep at hwrite
  rcases x with ⟨request, _ | version | version | succeeded⟩
  · cases hwrite
    exact h.imp_right fun ⟨y, hy, hphase⟩ ↦ ⟨y, hkeep y hy hphase nofun, hphase⟩
  · cases hwrite
    rcases Nat.le_total s.invalidated version with hle | hle
    · refine Or.inr ⟨_, hnew, ?_⟩
      rw [Nat.max_eq_right hle]
    · refine h.imp (fun hack ↦ (Nat.max_eq_left hle).trans_le hack) fun ⟨y, hy, hphase⟩ ↦
        ⟨y, hkeep y hy hphase nofun, ?_⟩
      rw [Nat.max_eq_left hle, hphase]
  · cases hwrite
    rcases h with hack | ⟨y, hy, hphase⟩
    · exact Or.inl (hack.trans (Nat.le_max_left _ _))
    · by_cases hversion : version = s.invalidated
      · exact Or.inl (hversion ▸ Nat.le_max_right _ _)
      · refine Or.inr ⟨y, hkeep y hy hphase fun heq ↦ hversion ?_, hphase⟩
        cases heq
        rfl
  · cases hwrite

theorem State.Responding.congr (h : s.Responding) (hwrites : t.writes = s.writes)
    (hinvalidated : t.invalidated = s.invalidated)
    (hacknowledged : t.acknowledged = s.acknowledged) : t.Responding := by
  rwa [State.Responding, hwrites, hinvalidated, hacknowledged]

theorem State.Responding.step [DecidableEq κ] (s : State σ κ q ν ε w) (a : Step κ q w c)
    (t : State σ κ q ν ε w) (h : s.Responding) (hstep : svc.step s a = some t) :
    t.Responding := by
  cases a with
  | startLookup query | evict k =>
      cases hstep
      exact h
  | stepLookup i =>
      obtain ⟨l, _, hstep⟩ := Option.bind_eq_some_iff.mp hstep
      obtain ⟨⟨s', l'⟩, hlookup, rfl⟩ := Option.map_eq_some_iff.mp hstep
      unfold Service.lookupStep at hlookup
      split at hlookup
      · split at hlookup
        · cases hlookup
          exact h.congr rfl rfl rfl
        · split at hlookup <;> cases hlookup <;> exact h.congr rfl rfl rfl
      · split at hlookup <;> cases hlookup
        exact h.congr rfl rfl rfl
      · cases hlookup
  | stepLoad i choice =>
      obtain ⟨l, _, hstep⟩ := Option.bind_eq_some_iff.mp hstep
      obtain ⟨⟨s', l'⟩, hload, rfl⟩ := Option.map_eq_some_iff.mp hstep
      unfold Service.loadStep at hload
      split at hload <;> cases hload <;> exact h.congr rfl rfl rfl
  | startWrite request =>
      cases hstep
      exact h.imp_right fun ⟨x, hx, hphase⟩ ↦ ⟨x, List.mem_append_left _ hx, hphase⟩
  | stepWrite i => exact h.stepWrite hstep

/-- A load that has read before a write and stores its value after the write has cleared the
cache answers a lookup that starts after the response. -/
theorem stale_answer_of_late_load [DecidableEq κ] {source : σ} {ls : List (Step κ q w c)}
    (hrun : run svc.step (.initial source) ls = some s) {i : ℕ} {l : Load q ν ε}
    (hl : s.loads[i]? = some l) {value : ν} {version : ℕ}
    (hphase : l.phase = .read (.ok value) version) (hlate : version < s.invalidated) (choice : c) :
    ∃ ls' u, run svc.step s (.stepLoad i choice :: ls') = some u ∧ ∃ r ∈ u.lookups,
      r.query = l.query ∧ r.phase = .returned (.ok value) version ∧ version < r.since := by
  have hresponding : s.Responding :=
    run_preserves State.Responding.step hrun (Or.inl (Nat.le_refl 0))
  let t := { s with
    cache := Function.update s.cache (svc.key l.query) (some (value, version))
    loads := s.loads.set i { l with phase := .finished (.ok value) version } }
  have hload : svc.step s (.stepLoad i choice) = some t := by
    simp [Service.step, hl, Service.loadStep, hphase, t]
  -- the response of the write that has cleared the cache is sent, if it is still to come
  obtain ⟨responds, v, hv, hcache, hacknowledged⟩ : ∃ responds v,
      run svc.step t responds = some v ∧ v.cache = t.cache ∧ version < v.acknowledged := by
    rcases hresponding with hack | ⟨x, hx, hrespond⟩
    · exact ⟨[], t, rfl, rfl, hlate.trans_le hack⟩
    · obtain ⟨j, hj⟩ := List.getElem?_of_mem hx
      refine ⟨[.stepWrite j], { t with
        acknowledged := max s.acknowledged s.invalidated
        writes := s.writes.set j { x with phase := .returned true } }, ?_, rfl,
        hlate.trans_le (Nat.le_max_right _ _)⟩
      simp [run, Service.step, hj, Service.writeStep, hrespond, t]
  have hhit : v.cache (svc.key l.query) = some (value, version) := by
    rw [hcache]
    exact Function.update_self _ _ _
  refine ⟨responds ++ [.startLookup l.query, .stepLookup v.lookups.length], { v with
    lookups := v.lookups ++ [⟨l.query, v.acknowledged, .returned (.ok value) version⟩] },
    run_cons_eq_some.mpr ⟨t, hload, run_append_eq_some.mpr ⟨v, hv, ?_⟩⟩,
    _, List.mem_append_right _ (List.mem_singleton_self _), rfl, rfl, hacknowledged⟩
  simp [run, Service.step, Service.lookupStep, hhit]

end Coalescing
