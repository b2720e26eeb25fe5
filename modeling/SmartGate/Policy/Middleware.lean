import SmartGate.Lib.Processes
import SmartGate.Policy.Concurrency

/-!
# Requests in the rate limit middleware

Every request runs `rate_limit_middleware` as a future that is suspended at its await
points and may be dropped at any of them, when the client disconnects.  A command that
has been sent to Redis is executed even if nobody waits for its reply any more, or it
is lost.  Commands succeed and no key expires: the clock stands still.
-/

namespace SmartGate

open ExpiringStore Transition

/-! ## The states of one request -/

/-- The await points of the middleware. -/
inductive RequestPhase where
  /-- Loading the policy and evaluating the rate limits. -/
  | admitting
  /-- In `acquire`, waiting for a connection. -/
  | connecting (limit : ℕ)
  /-- In `acquire`, the script has been sent. -/
  | scriptSent (limit : ℕ)
  /-- In `acquire`, the script has been executed and its reply is under way. -/
  | scriptDone (limit : ℕ) (granted : Bool)
  /-- In the downstream handler, with or without a permit. -/
  | running (permit : Bool)
  /-- In `release`, with `released` set, waiting for a connection. -/
  | releasing
  /-- In `release`, the `DECR` has been sent. -/
  | decrSent
  /-- In `release`, the `DECR` has been executed and its reply is under way. -/
  | decrDone
  | finished (result : Except GatewayError Unit)
  | dropped
  deriving DecidableEq

def RequestPhase.holdsSlot : RequestPhase → Bool
  | .scriptDone _ granted => granted
  | .running permit => permit
  | .releasing | .decrSent => true
  | .admitting | .connecting _ | .scriptSent _ | .decrDone | .finished _ | .dropped => false

def RequestPhase.ended : RequestPhase → Bool
  | .finished _ | .dropped => true
  | _ => false

/-- A drop here neither forgets a slot that is taken nor leaves a command behind: the
request is not waiting for a script that grants a slot, nor inside `release` with its
`DECR` still to be executed. -/
def RequestPhase.dropSafe : RequestPhase → Bool
  | .scriptSent _ | .releasing | .decrSent => false
  | .scriptDone _ granted => !granted
  | _ => true

structure MiddlewareRequest where
  saId : ServiceAccountId
  phase : RequestPhase
  deriving DecidableEq

inductive Orphan where
  | acquire (saId : ServiceAccountId) (limit : ℕ)
  | decr (saId : ServiceAccountId)
  deriving DecidableEq

def Orphan.execute (store : Store String ℤ) (now : ℕ) : Orphan → Store String ℤ
  | .acquire saId limit => (luaConcurrencyAcquire store now (concurrencyKey saId) limit).2
  | .decr saId => decrPermit store now (concurrencyKey saId)

/-! ## All requests together -/

/-- The counters, the requests, the release tasks that dropped permits have spawned, and
the commands that nobody waits for. -/
structure SlotState where
  store : Store String ℤ
  clock : ℕ
  requests : List MiddlewareRequest
  tasks : List ServiceAccountId
  orphans : List Orphan

inductive SlotStep where
  | arrive (saId : ServiceAccountId)
  | allow (i : ℕ) (concurrencyLimit : Option ℕ)
  | reject (i : ℕ) (e : GatewayError)
  | connect (i : ℕ)
  | execute (i : ℕ)
  | reply (i : ℕ)
  | respond (i : ℕ)
  | drop (i : ℕ)
  | runTask (saId : ServiceAccountId)
  | runOrphan (orphan : Orphan)
  | loseOrphan (orphan : Orphan)
  deriving DecidableEq

def moveRequest (s : SlotState) (i : ℕ) (move : RequestPhase → Option RequestPhase) :
    Option SlotState :=
  s.requests[i]?.bind fun r ↦ (move r.phase).map fun phase ↦
    { s with requests := s.requests.set i { r with phase } }

def allowPhase (concurrencyLimit : Option ℕ) : RequestPhase → Option RequestPhase
  | .admitting => some (concurrencyLimit.elim (.running false) .connecting)
  | _ => none

def rejectPhase (e : GatewayError) : RequestPhase → Option RequestPhase
  | .admitting => some (.finished (.error e))
  | _ => none

def connectPhase : RequestPhase → Option RequestPhase
  | .connecting limit => some (.scriptSent limit)
  | .releasing => some .decrSent
  | _ => none

def replyPhase : RequestPhase → Option RequestPhase
  | .scriptDone _ true => some (.running true)
  | .scriptDone limit false => some (.finished (.error (concurrencyExceeded limit)))
  | .decrDone => some (.finished (.ok ()))
  | _ => none

def respondPhase : RequestPhase → Option RequestPhase
  | .running true => some .releasing
  | .running false => some (.finished (.ok ()))
  | _ => none

def executeRequest (s : SlotState) (i : ℕ) (r : MiddlewareRequest) : Option SlotState :=
  let key := concurrencyKey r.saId
  match r.phase with
  | .scriptSent limit =>
      let script := luaConcurrencyAcquire s.store s.clock key limit
      some { s with
        store := script.2
        requests := s.requests.set i { r with phase := .scriptDone limit script.1.1 } }
  | .decrSent => some { s with
      store := decrPermit s.store s.clock key
      requests := s.requests.set i { r with phase := .decrDone } }
  | _ => none

/-- The future of request `r` is dropped: a permit it holds spawns a release task unless
`released` is set, and a command it has sent is left behind. -/
def dropRequest (s : SlotState) (i : ℕ) (r : MiddlewareRequest) : Option SlotState :=
  let gone := { s with requests := s.requests.set i { r with phase := .dropped } }
  match r.phase with
  | .scriptSent limit => some { gone with orphans := .acquire r.saId limit :: s.orphans }
  | .running true => some { gone with tasks := r.saId :: s.tasks }
  | .decrSent => some { gone with orphans := .decr r.saId :: s.orphans }
  | .finished _ | .dropped => none
  | _ => some gone

def slotStep (s : SlotState) : SlotStep → Option SlotState
  | .arrive saId => some { s with requests := s.requests ++ [⟨saId, .admitting⟩] }
  | .allow i concurrencyLimit => moveRequest s i (allowPhase concurrencyLimit)
  | .reject i e => moveRequest s i (rejectPhase e)
  | .connect i => moveRequest s i connectPhase
  | .execute i => s.requests[i]?.bind (executeRequest s i)
  | .reply i => moveRequest s i replyPhase
  | .respond i => moveRequest s i respondPhase
  | .drop i => s.requests[i]?.bind (dropRequest s i)
  | .runTask saId =>
      if saId ∈ s.tasks then some { s with
        store := decrPermit s.store s.clock (concurrencyKey saId)
        tasks := s.tasks.erase saId }
      else none
  | .runOrphan orphan =>
      if orphan ∈ s.orphans then some { s with
        store := orphan.execute s.store s.clock
        orphans := s.orphans.erase orphan }
      else none
  | .loseOrphan orphan =>
      if orphan ∈ s.orphans then some { s with orphans := s.orphans.erase orphan } else none

/-! ## Slots and counters -/

def SlotState.slots (s : SlotState) (saId : ServiceAccountId) : ℤ :=
  s.requests.countP (fun r ↦ decide (r.saId = saId) && r.phase.holdsSlot) + s.tasks.count saId

def SlotState.counter (s : SlotState) (saId : ServiceAccountId) : ℤ :=
  count s.store s.clock (concurrencyKey saId)

/-- The slots that are counted and that nobody gives back. -/
def SlotState.unclaimed (s : SlotState) (saId : ServiceAccountId) : ℤ :=
  s.counter saId - s.slots saId

/-- Every slot that is counted has somebody who gives it back. -/
structure SlotState.Balanced (s : SlotState) : Prop where
  orphans : s.orphans = []
  counted : ∀ saId, s.unclaimed saId = 0

/-- No request is dropped at an await point where its slot would be forgotten. -/
def SafeDrops (s : SlotState) : SlotStep → Prop
  | .drop i => ∀ r, s.requests[i]? = some r → r.phase.dropSafe = true
  | _ => True

instance (s : SlotState) (a : SlotStep) : Decidable (SafeDrops s a) :=
  match a with
  | .drop i => inferInstanceAs (Decidable (∀ r ∈ s.requests[i]?, r.phase.dropSafe = true))
  | .arrive _ | .allow _ _ | .reject _ _ | .connect _ | .execute _ | .reply _ | .respond _
  | .runTask _ | .runOrphan _ | .loseOrphan _ => inferInstanceAs (Decidable True)

def slotOf (owner : ServiceAccountId) (phase : RequestPhase) (saId : ServiceAccountId) : ℤ :=
  if decide (owner = saId) && phase.holdsSlot then 1 else 0

theorem slotOf_free {phase : RequestPhase} (h : phase.holdsSlot = false)
    (owner saId : ServiceAccountId) : slotOf owner phase saId = 0 := by
  simp [slotOf, h]

theorem slotOf_held {phase : RequestPhase} (h : phase.holdsSlot = true)
    (owner saId : ServiceAccountId) : slotOf owner phase saId = if owner = saId then 1 else 0 := by
  simp [slotOf, h]

theorem slots_set {s t : SlotState} {i : ℕ} {r : MiddlewareRequest}
    (hi : s.requests[i]? = some r) {phase : RequestPhase}
    (ht : t.requests = s.requests.set i { r with phase }) (saId : ServiceAccountId) :
    t.slots saId = s.slots saId - slotOf r.saId r.phase saId + slotOf r.saId phase saId +
      t.tasks.count saId - s.tasks.count saId := by
  have hcount := Processes.countP_set
    (fun r : MiddlewareRequest ↦ decide (r.saId = saId) && r.phase.holdsSlot) hi { r with phase }
  simp only [SlotState.slots, ht, hcount, slotOf]
  omega

/-- The same commands are left behind, and the same slots. -/
def SameUnclaimed (s t : SlotState) : Prop :=
  t.orphans = s.orphans ∧ ∀ saId, t.unclaimed saId = s.unclaimed saId

theorem sameUnclaimed_moveRequest {s t : SlotState} {i : ℕ}
    {move : RequestPhase → Option RequestPhase}
    (hmove : ∀ phase phase', move phase = some phase' → phase'.holdsSlot = phase.holdsSlot)
    (hstep : moveRequest s i move = some t) : SameUnclaimed s t := by
  simp only [moveRequest, Option.bind_eq_some_iff, Option.map_eq_some_iff] at hstep
  obtain ⟨r, hi, phase, hphase, rfl⟩ := hstep
  refine ⟨rfl, fun saId ↦ ?_⟩
  have hslots := slots_set (t := { s with requests := s.requests.set i { r with phase } }) hi rfl
    saId
  have hsame : slotOf r.saId phase saId = slotOf r.saId r.phase saId := by
    rw [slotOf, slotOf, hmove _ _ hphase]
  rw [SlotState.unclaimed, hslots, hsame, SlotState.unclaimed]
  simp only [SlotState.counter]
  omega

theorem count_decrPermit_all (store : Store String ℤ) (now : ℕ) (a b : ServiceAccountId) :
    count (decrPermit store now (concurrencyKey a)) now (concurrencyKey b) =
      count store now (concurrencyKey b) - if a = b then 1 else 0 := by
  by_cases hab : a = b
  · subst hab
    rw [if_pos rfl, count_decrPermit]
  · rw [if_neg hab, count_other (Ne.symm hab) (decrPermit_ne store now), sub_zero]

theorem count_luaConcurrencyAcquire_all (store : Store String ℤ) (now limit : ℕ)
    (a b : ServiceAccountId) :
    count (luaConcurrencyAcquire store now (concurrencyKey a) limit).2 now (concurrencyKey b) =
      count store now (concurrencyKey b) + if a = b ∧
        (luaConcurrencyAcquire store now (concurrencyKey a) limit).1.1 = true then 1 else 0 := by
  by_cases hab : a = b
  · subst hab
    rcases lt_or_ge (count store now (concurrencyKey a)) limit with hlt | hge
    · simp [luaConcurrencyAcquire_below hlt, count_refreshed]
    · simp [luaConcurrencyAcquire_above hge, count_refreshed, count_decrPermit]
  · rw [if_neg fun h ↦ hab h.1, add_zero]
    exact count_other (Ne.symm hab) (fun h ↦ luaConcurrencyAcquire_ne store now h limit) now

theorem sameUnclaimed_execute {s t : SlotState} {i : ℕ}
    (hstep : slotStep s (.execute i) = some t) : SameUnclaimed s t := by
  simp only [slotStep, Option.bind_eq_some_iff] at hstep
  obtain ⟨r, hi, hexec⟩ := hstep
  unfold executeRequest at hexec
  split at hexec
  · next limit hphase =>
    cases hexec
    refine ⟨rfl, fun saId ↦ ?_⟩
    rw [SlotState.unclaimed, slots_set hi rfl, slotOf_free (by rw [hphase]; rfl)]
    have hcount := count_luaConcurrencyAcquire_all s.store s.clock limit r.saId saId
    simp only [SlotState.unclaimed, SlotState.counter, slotOf, RequestPhase.holdsSlot]
    rw [hcount]
    simp
  · next hphase =>
    cases hexec
    refine ⟨rfl, fun saId ↦ ?_⟩
    rw [SlotState.unclaimed, slots_set hi rfl, slotOf_held (by rw [hphase]; rfl), slotOf_free rfl]
    have hcount := count_decrPermit_all s.store s.clock r.saId saId
    simp only [SlotState.unclaimed, SlotState.counter]
    rw [hcount]
    omega
  · cases hexec

/-- A safe drop leaves no command behind; a permit that it takes away becomes a task. -/
theorem dropRequest_safe {s t : SlotState} {i : ℕ} {r : MiddlewareRequest}
    (hsafe : r.phase.dropSafe = true) (hdrop : dropRequest s i r = some t) :
    t.store = s.store ∧ t.clock = s.clock ∧ t.orphans = s.orphans ∧
      t.requests = s.requests.set i { r with phase := .dropped } ∧
      ∀ saId, (t.tasks.count saId : ℤ) = s.tasks.count saId + slotOf r.saId r.phase saId := by
  unfold dropRequest at hdrop
  cases hphase : r.phase with
  | running permit =>
      cases permit with
      | true =>
          simp only [hphase] at hdrop
          cases hdrop
          refine ⟨rfl, rfl, rfl, rfl, fun saId ↦ ?_⟩
          rw [slotOf_held rfl]
          by_cases hsa : r.saId = saId
          · simp [hsa]
          · simp [hsa, List.count_cons_of_ne hsa]
      | false =>
          simp only [hphase] at hdrop
          cases hdrop
          exact ⟨rfl, rfl, rfl, rfl, fun saId ↦ by rw [slotOf_free rfl, add_zero]⟩
  | scriptDone limit granted =>
      have hgranted : granted = false := by simpa [RequestPhase.dropSafe, hphase] using hsafe
      subst hgranted
      simp only [hphase] at hdrop
      cases hdrop
      exact ⟨rfl, rfl, rfl, rfl, fun saId ↦ by rw [slotOf_free rfl, add_zero]⟩
  | admitting | connecting _ | decrDone =>
      simp only [hphase] at hdrop
      cases hdrop
      exact ⟨rfl, rfl, rfl, rfl, fun saId ↦ by rw [slotOf_free rfl, add_zero]⟩
  | scriptSent _ | releasing | decrSent =>
      simp [RequestPhase.dropSafe, hphase] at hsafe
  | finished _ | dropped =>
      simp only [hphase] at hdrop
      cases hdrop

theorem sameUnclaimed_drop {s t : SlotState} {i : ℕ} (hguard : SafeDrops s (.drop i))
    (hstep : slotStep s (.drop i) = some t) : SameUnclaimed s t := by
  simp only [slotStep, Option.bind_eq_some_iff] at hstep
  obtain ⟨r, hi, hdrop⟩ := hstep
  obtain ⟨hstore, hclock, horphans, hrequests, htasks⟩ := dropRequest_safe (hguard r hi) hdrop
  refine ⟨horphans, fun saId ↦ ?_⟩
  have hgone : slotOf r.saId .dropped saId = 0 := slotOf_free rfl _ _
  rw [SlotState.unclaimed, slots_set hi hrequests, htasks saId, hgone]
  simp only [SlotState.unclaimed, SlotState.counter, hstore, hclock]
  omega

theorem sameUnclaimed_runTask {s t : SlotState} {a : ServiceAccountId}
    (hstep : slotStep s (.runTask a) = some t) : SameUnclaimed s t := by
  simp only [slotStep, Option.ite_none_right_eq_some, Option.some.injEq] at hstep
  obtain ⟨hmem, rfl⟩ := hstep
  have hpos : 0 < s.tasks.count a := List.count_pos_iff.mpr hmem
  refine ⟨rfl, fun saId ↦ ?_⟩
  have hcount := count_decrPermit_all s.store s.clock a saId
  simp only [SlotState.unclaimed, SlotState.counter, SlotState.slots]
  rw [hcount]
  by_cases hsa : a = saId
  · subst hsa
    simp only [if_true, List.count_erase_self]
    omega
  · simp [hsa, List.count_erase_of_ne (Ne.symm hsa)]

/-- A step of a request or of a release task, as opposed to a command that nobody waits
for. -/
def SlotStep.owned : SlotStep → Bool
  | .runOrphan _ | .loseOrphan _ => false
  | .arrive _ | .allow _ _ | .reject _ _ | .connect _ | .execute _ | .reply _ | .respond _
  | .drop _ | .runTask _ => true

theorem sameUnclaimed_step {s t : SlotState} {a : SlotStep} (howned : a.owned = true)
    (hguard : SafeDrops s a) (hstep : slotStep s a = some t) : SameUnclaimed s t := by
  cases a with
  | arrive saId =>
      cases hstep
      refine ⟨rfl, fun sa ↦ ?_⟩
      simp [SlotState.unclaimed, SlotState.slots, SlotState.counter, List.countP_append,
        RequestPhase.holdsSlot]
  | allow i concurrencyLimit =>
      refine sameUnclaimed_moveRequest (fun phase phase' hmove ↦ ?_) hstep
      unfold allowPhase at hmove
      split at hmove <;> cases hmove
      cases concurrencyLimit <;> rfl
  | reject i e =>
      refine sameUnclaimed_moveRequest (fun phase phase' hmove ↦ ?_) hstep
      unfold rejectPhase at hmove
      split at hmove <;> cases hmove
      rfl
  | connect i =>
      refine sameUnclaimed_moveRequest (fun phase phase' hmove ↦ ?_) hstep
      unfold connectPhase at hmove
      split at hmove <;> cases hmove <;> rfl
  | execute i => exact sameUnclaimed_execute hstep
  | reply i =>
      refine sameUnclaimed_moveRequest (fun phase phase' hmove ↦ ?_) hstep
      unfold replyPhase at hmove
      split at hmove <;> cases hmove <;> rfl
  | respond i =>
      refine sameUnclaimed_moveRequest (fun phase phase' hmove ↦ ?_) hstep
      unfold respondPhase at hmove
      split at hmove <;> cases hmove <;> rfl
  | drop i => exact sameUnclaimed_drop hguard hstep
  | runTask saId => exact sameUnclaimed_runTask hstep
  | runOrphan orphan | loseOrphan orphan => cases howned

theorem SlotState.Balanced.step (s : SlotState) (a : SlotStep) (t : SlotState) (h : s.Balanced)
    (hguard : SafeDrops s a) (hstep : slotStep s a = some t) : t.Balanced := by
  cases howned : a.owned with
  | true =>
      obtain ⟨horphans, hsame⟩ := sameUnclaimed_step howned hguard hstep
      exact ⟨horphans.trans h.orphans, fun saId ↦ (hsame saId).trans (h.counted saId)⟩
  | false =>
      cases a with
      | runOrphan orphan | loseOrphan orphan => simp [slotStep, h.orphans] at hstep
      | arrive _ | allow _ _ | reject _ _ | connect _ | execute _ | reply _ | respond _ | drop _
      | runTask _ => cases howned

/-! ## Leaked slots -/

def SlotState.Quiescent (s : SlotState) : Prop :=
  (∀ r ∈ s.requests, r.phase.ended = true) ∧ s.tasks = []

def SlotState.Fresh (s : SlotState) : Prop :=
  s.requests = [] ∧ s.tasks = [] ∧ s.orphans = [] ∧ ∀ saId, s.counter saId = 0

theorem SlotState.slots_of_quiescent {s : SlotState} (h : s.Quiescent) (saId : ServiceAccountId) :
    s.slots saId = 0 := by
  have hnone : s.requests.countP
      (fun r ↦ decide (r.saId = saId) && r.phase.holdsSlot) = 0 := by
    rw [List.countP_eq_zero]
    intro r hr
    have hended := h.1 r hr
    cases hphase : r.phase <;> simp [hphase, RequestPhase.ended, RequestPhase.holdsSlot] at hended ⊢
  simp [SlotState.slots, hnone, h.2]

theorem SlotState.Quiescent.unclaimed {s : SlotState} (h : s.Quiescent)
    (saId : ServiceAccountId) : s.unclaimed saId = s.counter saId := by
  rw [SlotState.unclaimed, SlotState.slots_of_quiescent h, sub_zero]

/-- When all requests are over, every counter is back at zero, in every run in which no
request is dropped while it waits for a script that grants it a slot, or inside
`release` before its `DECR` has been executed. -/
theorem no_leaked_slot {s u : SlotState} {steps : List SlotStep} (hs : s.Fresh)
    (hguard : Guarded slotStep SafeDrops s steps) (hrun : run slotStep s steps = some u)
    (hquiet : u.Quiescent) (saId : ServiceAccountId) : u.counter saId = 0 := by
  obtain ⟨hrequests, htasks, horphans, hzero⟩ := hs
  have hinit : s.Balanced := ⟨horphans, fun sa ↦ by
    simp [SlotState.unclaimed, SlotState.slots, hrequests, htasks, hzero sa]⟩
  have hbalanced := run_invariant SlotState.Balanced.step hguard hrun hinit
  rw [← hquiet.unclaimed saId, hbalanced.counted saId]

/-! ## Drops that leak a slot -/

/-- A bound on the steps that bring the request to its end, with the task that its drop may
leave. -/
def RequestPhase.work : RequestPhase → ℕ
  | .scriptSent _ | .releasing => 4
  | .scriptDone _ true | .decrSent => 3
  | .running true => 2
  | .admitting | .connecting _ | .scriptDone _ false | .running false | .decrDone => 1
  | .finished _ | .dropped => 0

def SlotState.work (s : SlotState) : ℕ :=
  (s.requests.map fun r ↦ r.phase.work).sum + s.tasks.length

theorem work_set {s t : SlotState} {i : ℕ} {r : MiddlewareRequest}
    (hi : s.requests[i]? = some r) {phase : RequestPhase}
    (ht : t.requests = s.requests.set i { r with phase })
    (hwork : phase.work + t.tasks.length < r.phase.work + s.tasks.length) : t.work < s.work := by
  have hsum : ((s.requests.set i { r with phase }).map fun r ↦ r.phase.work).sum + r.phase.work =
      (s.requests.map fun r ↦ r.phase.work).sum + phase.work :=
    Processes.sum_map_set (fun r : MiddlewareRequest ↦ r.phase.work) hi { r with phase }
  rw [SlotState.work, ht, SlotState.work]
  omega

/-- A step that loses nothing and leaves less to do. -/
def SlotState.Progresses (s : SlotState) : Prop :=
  ∃ a t, a.owned = true ∧ SafeDrops s a ∧ slotStep s a = some t ∧ t.work < s.work

theorem progresses_moveRequest {s : SlotState} {i : ℕ} {r : MiddlewareRequest}
    (hi : s.requests[i]? = some r) {a : SlotStep} {move : RequestPhase → Option RequestPhase}
    {phase : RequestPhase} (howned : a.owned = true) (hguard : SafeDrops s a)
    (hstep : slotStep s a = moveRequest s i move) (hmove : move r.phase = some phase)
    (hwork : phase.work < r.phase.work) : s.Progresses := by
  refine ⟨a, { s with requests := s.requests.set i { r with phase } }, howned, hguard, ?_,
    work_set hi rfl (Nat.add_lt_add_right hwork _)⟩
  simp [hstep, moveRequest, hi, hmove]

theorem progresses_drop {s : SlotState} {i : ℕ} {r : MiddlewareRequest}
    (hi : s.requests[i]? = some r) (hsafe : r.phase.dropSafe = true)
    (hended : r.phase.ended = false) : s.Progresses := by
  have hguard : SafeDrops s (.drop i) := by
    intro r' hr'
    cases hi.symm.trans hr'
    exact hsafe
  cases hphase : r.phase with
  | admitting | connecting limit | decrDone =>
      refine ⟨.drop i, { s with requests := s.requests.set i { r with phase := .dropped } }, rfl,
        hguard, by simp [slotStep, hi, dropRequest, hphase], work_set hi rfl ?_⟩
      simp [hphase, RequestPhase.work]
  | running permit =>
      refine ⟨.drop i, { s with
        requests := s.requests.set i { r with phase := .dropped }
        tasks := if permit then r.saId :: s.tasks else s.tasks }, rfl, hguard, ?_,
        work_set hi rfl ?_⟩
      · cases permit <;> simp [slotStep, hi, dropRequest, hphase]
      · cases permit
        · simp [hphase, RequestPhase.work]
        · simp only [hphase, RequestPhase.work, if_true, List.length_cons]
          omega
  | scriptDone limit granted =>
      have hgranted : granted = false := by simpa [hphase, RequestPhase.dropSafe] using hsafe
      subst hgranted
      refine ⟨.drop i, { s with requests := s.requests.set i { r with phase := .dropped } }, rfl,
        hguard, by simp [slotStep, hi, dropRequest, hphase], work_set hi rfl ?_⟩
      simp [hphase, RequestPhase.work]
  | scriptSent limit | releasing | decrSent =>
      rw [hphase] at hsafe
      cases hsafe
  | finished result | dropped =>
      rw [hphase] at hended
      cases hended

theorem progresses_request {s : SlotState} {i : ℕ} {r : MiddlewareRequest}
    (hi : s.requests[i]? = some r) (hended : r.phase.ended = false) : s.Progresses := by
  by_cases hsafe : r.phase.dropSafe = true
  · exact progresses_drop hi hsafe hended
  cases hphase : r.phase with
  | scriptSent limit =>
      let script := luaConcurrencyAcquire s.store s.clock (concurrencyKey r.saId) limit
      refine ⟨.execute i, { s with
        store := script.2
        requests := s.requests.set i { r with phase := .scriptDone limit script.1.1 } }, rfl,
        trivial, by simp [slotStep, hi, executeRequest, hphase, script], work_set hi rfl ?_⟩
      cases hgranted : script.1.1 <;> simp [hphase, RequestPhase.work]
  | decrSent =>
      refine ⟨.execute i, { s with
        store := decrPermit s.store s.clock (concurrencyKey r.saId)
        requests := s.requests.set i { r with phase := .decrDone } }, rfl, trivial,
        by simp [slotStep, hi, executeRequest, hphase], work_set hi rfl ?_⟩
      simp [hphase, RequestPhase.work]
  | scriptDone limit granted =>
      have hgranted : granted = true := by simpa [hphase, RequestPhase.dropSafe] using hsafe
      subst hgranted
      exact progresses_moveRequest (a := .reply i) hi rfl trivial rfl (by rw [hphase]; rfl)
        (by simp [hphase, RequestPhase.work])
  | releasing =>
      exact progresses_moveRequest (a := .connect i) hi rfl trivial rfl (by rw [hphase]; rfl)
        (by rw [hphase]; decide)
  | admitting | connecting limit | running permit | decrDone | finished result | dropped =>
      simp [hphase, RequestPhase.dropSafe] at hsafe

theorem progresses_of_not_quiescent {s : SlotState} (h : ¬s.Quiescent) : s.Progresses := by
  cases htasks : s.tasks with
  | cons a tasks =>
      refine ⟨.runTask a, { s with
        store := decrPermit s.store s.clock (concurrencyKey a)
        tasks := tasks }, rfl, trivial, ?_, ?_⟩
      · simp [slotStep, htasks]
      · simp [SlotState.work, htasks]
  | nil =>
      have hrequest : ∃ r ∈ s.requests, r.phase.ended = false := by
        by_contra hnone
        refine h ⟨fun r hr ↦ ?_, htasks⟩
        simpa using fun hended ↦ hnone ⟨r, hr, hended⟩
      obtain ⟨r, hr, hended⟩ := hrequest
      obtain ⟨i, hi⟩ := List.getElem?_of_mem hr
      exact progresses_request hi hended

/-- All requests can be brought to their end without losing anything more. -/
theorem exists_run_quiescent (s : SlotState) :
    ∃ steps u, run slotStep s steps = some u ∧ u.Quiescent ∧ SameUnclaimed s u := by
  induction hwork : s.work using Nat.strong_induction_on generalizing s with
  | _ n ih =>
      by_cases hquiet : s.Quiescent
      · exact ⟨[], s, rfl, hquiet, rfl, fun _ ↦ rfl⟩
      · obtain ⟨a, t, howned, hguard, hstep, hlt⟩ := progresses_of_not_quiescent hquiet
        obtain ⟨steps, u, hrun, hu, horphans, hsame⟩ := ih t.work (hwork ▸ hlt) t rfl
        obtain ⟨horphans', hsame'⟩ := sameUnclaimed_step howned hguard hstep
        exact ⟨a :: steps, u, run_cons_eq_some.mpr ⟨t, hstep, hrun⟩, hu,
          horphans.trans horphans', fun saId ↦ (hsame saId).trans (hsame' saId)⟩

/-- A request that is gone without a task leaves its slot unclaimed. -/
theorem unclaimed_dropped {s t : SlotState} {i : ℕ} {r : MiddlewareRequest}
    (hi : s.requests[i]? = some r)
    (hrequests : t.requests = s.requests.set i { r with phase := .dropped })
    (hsame : t.store = s.store ∧ t.clock = s.clock ∧ t.tasks = s.tasks)
    (saId : ServiceAccountId) :
    t.unclaimed saId = s.unclaimed saId + slotOf r.saId r.phase saId := by
  obtain ⟨hstore, hclock, htasks⟩ := hsame
  have hgone : slotOf r.saId .dropped saId = 0 := slotOf_free rfl _ _
  rw [SlotState.unclaimed, slots_set hi hrequests, hgone, htasks]
  simp only [SlotState.unclaimed, SlotState.counter, hstore, hclock]
  omega

/-- When all others are gone too, the slot is still taken. -/
theorem exists_run_leaked {s t : SlotState} (hs : s.Balanced) {i : ℕ} {r : MiddlewareRequest}
    (hi : s.requests[i]? = some r) (hheld : r.phase.holdsSlot = true)
    (hrequests : t.requests = s.requests.set i { r with phase := .dropped })
    (hsame : t.store = s.store ∧ t.clock = s.clock ∧ t.tasks = s.tasks) :
    ∃ steps u, run slotStep t steps = some u ∧ u.Quiescent ∧ u.orphans = t.orphans ∧
      u.counter r.saId = 1 := by
  obtain ⟨steps, u, hrun, hquiet, horphans, hunclaimed⟩ := exists_run_quiescent t
  refine ⟨steps, u, hrun, hquiet, horphans, ?_⟩
  rw [← hquiet.unclaimed, hunclaimed, unclaimed_dropped hi hrequests hsame, hs.counted,
    slotOf_held hheld, if_pos rfl, zero_add]

/-- The condition is sharp: after any drop that it does not admit, all requests and commands
can come to their end with a slot still taken.  A limit of zero grants no slot to lose. -/
theorem slot_leaked_of_unsafe_drop {s : SlotState} (hs : s.Balanced) {i : ℕ}
    {r : MiddlewareRequest} (hi : s.requests[i]? = some r) (hrisky : r.phase.dropSafe = false)
    (hlimit : r.phase ≠ .scriptSent 0) :
    ∃ steps u, run slotStep s (.drop i :: steps) = some u ∧ u.Quiescent ∧ u.orphans = [] ∧
      u.counter r.saId = 1 := by
  let gone := { s with requests := s.requests.set i { r with phase := .dropped } }
  cases hphase : r.phase with
  | scriptSent limit =>
      -- the script is executed when all others are gone, and is granted the slot
      let t := { gone with orphans := .acquire r.saId limit :: s.orphans }
      have hstep : slotStep s (.drop i) = some t := by
        simp [slotStep, hi, dropRequest, hphase, t, gone]
      obtain ⟨steps, u, hrun, hquiet, horphans, hsame⟩ := exists_run_quiescent t
      have hcounter : u.counter r.saId = 0 := by
        rw [← hquiet.unclaimed, hsame, unclaimed_dropped (t := t) hi rfl ⟨rfl, rfl, rfl⟩,
          hs.counted, slotOf_free (by rw [hphase]; rfl), zero_add]
      have hbelow : count u.store u.clock (concurrencyKey r.saId) < (limit : ℤ) := by
        have hpos : limit ≠ 0 := fun hzero ↦ hlimit (hzero ▸ hphase)
        rw [SlotState.counter] at hcounter
        omega
      refine ⟨steps ++ [.runOrphan (.acquire r.saId limit)], { u with
        store := (Orphan.acquire r.saId limit).execute u.store u.clock
        orphans := [] }, ?_, hquiet, rfl, ?_⟩
      · refine run_cons_eq_some.mpr ⟨t, hstep, run_append_eq_some.mpr ⟨u, hrun, ?_⟩⟩
        have horphan : u.orphans = [.acquire r.saId limit] :=
          horphans.trans (congrArg _ hs.orphans)
        simp [run, slotStep, horphan]
      · simp only [SlotState.counter, Orphan.execute, luaConcurrencyAcquire_below hbelow,
          count_refreshed]
        rw [SlotState.counter] at hcounter
        omega
  | scriptDone limit granted =>
      have hgranted : granted = true := by simpa [hphase, RequestPhase.dropSafe] using hrisky
      obtain ⟨steps, u, hrun, hquiet, horphans, hcounter⟩ := exists_run_leaked (t := gone) hs hi
        (by rw [hphase]; exact hgranted) rfl ⟨rfl, rfl, rfl⟩
      refine ⟨steps, u, run_cons_eq_some.mpr ⟨gone, ?_, hrun⟩, hquiet,
        horphans.trans hs.orphans, hcounter⟩
      simp [slotStep, hi, dropRequest, hphase, gone]
  | releasing =>
      obtain ⟨steps, u, hrun, hquiet, horphans, hcounter⟩ := exists_run_leaked (t := gone) hs hi
        (by rw [hphase]; rfl) rfl ⟨rfl, rfl, rfl⟩
      refine ⟨steps, u, run_cons_eq_some.mpr ⟨gone, ?_, hrun⟩, hquiet,
        horphans.trans hs.orphans, hcounter⟩
      simp [slotStep, hi, dropRequest, hphase, gone]
  | decrSent =>
      -- the `DECR` that nobody waits for any more is lost
      let t := { gone with orphans := .decr r.saId :: s.orphans }
      have hstep : slotStep s (.drop i) = some t := by
        simp [slotStep, hi, dropRequest, hphase, t, gone]
      obtain ⟨steps, u, hrun, hquiet, horphans, hcounter⟩ := exists_run_leaked (t := t) hs hi
        (by rw [hphase]; rfl) rfl ⟨rfl, rfl, rfl⟩
      have horphan : u.orphans = [.decr r.saId] := horphans.trans (congrArg _ hs.orphans)
      refine ⟨steps ++ [.loseOrphan (.decr r.saId)], { u with orphans := [] }, ?_, hquiet, rfl,
        hcounter⟩
      refine run_cons_eq_some.mpr ⟨t, hstep, run_append_eq_some.mpr ⟨u, hrun, ?_⟩⟩
      simp [run, slotStep, horphan]
  | admitting | connecting limit | running permit | decrDone | finished result | dropped =>
      rw [hphase] at hrisky
      cases hrisky

def SlotState.initial : SlotState := ⟨empty, 0, [], [], []⟩

def dropInHandler : List SlotStep :=
  [.arrive ⟨⟨1⟩⟩, .allow 0 (some 5), .connect 0, .execute 0, .reply 0,
    .arrive ⟨⟨1⟩⟩, .allow 1 (some 5), .connect 1, .execute 1, .reply 1,
    .drop 0, .respond 1, .connect 1, .execute 1, .runTask ⟨⟨1⟩⟩, .reply 1]

theorem no_leaked_slot_drop_in_handler :
    ∃ u, run slotStep .initial dropInHandler = some u ∧ u.requests.length = 2 ∧
      u.counter ⟨⟨1⟩⟩ = 0 := by
  have hrun : (run slotStep .initial dropInHandler).map (fun u ↦ (u.requests, u.tasks)) =
      some ([⟨⟨⟨1⟩⟩, .dropped⟩, ⟨⟨⟨1⟩⟩, .finished (.ok ())⟩], []) := by
    decide +kernel
  obtain ⟨u, hu, hstate⟩ := Option.map_eq_some_iff.mp hrun
  obtain ⟨hrequests, htasks⟩ := Prod.mk.inj hstate
  have hguard : Guarded slotStep SafeDrops .initial dropInHandler := by decide +kernel
  have hquiet : u.Quiescent := ⟨by simp [hrequests, RequestPhase.ended], htasks⟩
  exact ⟨u, hu, by simp [hrequests],
    no_leaked_slot ⟨rfl, rfl, rfl, fun _ ↦ rfl⟩ hguard hu hquiet ⟨⟨1⟩⟩⟩

/-- A client that disconnects while the reply to its acquire script is under way leaves
the slot taken with nobody to give it back. -/
theorem slot_leaked_by_drop_in_acquire :
    ∃ u, run slotStep .initial
        [.arrive ⟨⟨1⟩⟩, .allow 0 (some 5), .connect 0, .execute 0, .drop 0] = some u ∧
      u.Quiescent ∧ u.orphans = [] ∧ u.counter ⟨⟨1⟩⟩ = 1 := by
  have hrun : (run slotStep .initial
      [.arrive ⟨⟨1⟩⟩, .allow 0 (some 5), .connect 0, .execute 0, .drop 0]).map
      (fun u ↦ (u.requests, u.tasks, u.orphans, u.counter ⟨⟨1⟩⟩)) =
      some ([⟨⟨⟨1⟩⟩, .dropped⟩], [], [], 1) := by
    decide +kernel
  obtain ⟨u, hu, hstate⟩ := Option.map_eq_some_iff.mp hrun
  simp only [Prod.mk.injEq] at hstate
  obtain ⟨hrequests, htasks, horphans, hcounter⟩ := hstate
  exact ⟨u, hu, ⟨by simp [hrequests, RequestPhase.ended], htasks⟩, horphans, hcounter⟩

end SmartGate
