import SmartGate.Gateway.Pipeline

/-!
# Every request comes to an end

The only thing that a request ever waits for is the load of the policies of its account, when
another request on the same gateway leads it.  The leader can go on, whatever it meets, so
nothing gets stuck.  The number of steps of a request is bounded, but for one thing: when the
client of a leader disconnects, those that wait for it start over.
-/

namespace SmartGate

open ExpiringStore Transition

variable (P : Primitives)

/-! ## What a step does to the loads -/

/-- The request has not been through its policy yet. -/
def DataPhase.isBeforePolicy : DataPhase → Bool
  | .received | .lookingUp _ _ | .findingAccount _ _ | .recording _ | .policy _ _ _ => true
  | .evaluating _ _ _ | .acquiring _ _ _ | .handling _ _ _ | .releasing _ _ | .answered _
  | .releaseTask _ | .dropped => false

/-- The request takes no part in a load. -/
def DataPhase.IsIdle : DataPhase → Prop
  | .policy _ _ phase => phase = .cacheGet
  | .received | .lookingUp _ _ | .findingAccount _ _ | .recording _ | .evaluating _ _ _
  | .acquiring _ _ _ | .handling _ _ _ | .releasing _ _ | .answered _ | .releaseTask _
  | .dropped => True

theorem DataPhase.IsIdle.leadsAt {phase : DataPhase} (h : phase.IsIdle) (job : Job) :
    phase.leadsAt job = none := by
  cases phase with
  | policy auth evaluator policy =>
      cases h
      rfl
  | received | lookingUp _ _ | findingAccount _ _ | recording _ | evaluating _ _ _
  | acquiring _ _ _ | handling _ _ _ | releasing _ _ | answered _ | releaseTask _
  | dropped => rfl

/-- What a step of request `i` does to the loads.  It passes by, joins a load, becomes the
leader of a load that nobody leads, reads as the leader, or settles the load that it leads. -/
inductive LoadMove (job : Job) (i : ℕ) (loads : PolicyLoads) :
    DataPhase → DataPhase → PolicyLoads → Prop
  | pass {phase next : DataPhase} (hphase : phase.leadsAt job = none) (hnext : next.IsIdle)
      (hbefore : next.isBeforePolicy = true → phase.isBeforePolicy = true) :
      LoadMove job i loads phase next loads
  | join {auth : AuthContext} {evaluator : RateLimitEvaluator} {leader : ℕ}
      (hleader : loads.leader (job.gateway, auth.serviceAccountId) = some leader) :
      LoadMove job i loads (.policy auth evaluator .cacheGet)
        (.policy auth evaluator (.waiting leader)) loads
  | lead {auth : AuthContext} {evaluator : RateLimitEvaluator}
      (hfree : loads.leader (job.gateway, auth.serviceAccountId) = none) :
      LoadMove job i loads (.policy auth evaluator .cacheGet) (.policy auth evaluator .boundRead)
        (loads.lead (job.gateway, auth.serviceAccountId) i)
  | read {auth : AuthContext} {evaluator : RateLimitEvaluator} {policy policy' : PolicyPhase}
      (hleads : policy.leads = true) (hleads' : policy'.leads = true) :
      LoadMove job i loads (.policy auth evaluator policy) (.policy auth evaluator policy') loads
  | settle {auth : AuthContext} {evaluator : RateLimitEvaluator} {policy : PolicyPhase}
      {next : DataPhase} {outcome : LoadOutcome} (hleads : policy.leads = true)
      (hnext : next.isBeforePolicy = false) :
      LoadMove job i loads (.policy auth evaluator policy) next
        (loads.settle (job.gateway, auth.serviceAccountId) i outcome)

section Advance

variable {plane : DataPlane} {job : Job} {i : ℕ} {c : Circumstances} {s s' : Shared}
  {phase next : DataPhase}

theorem isIdle_of_isBeforePolicy (h : phase.isBeforePolicy = false) : phase.IsIdle := by
  cases phase <;> trivial

theorem isIdle_orAnswer {α : Type} {result : Except GatewayError α} {next : α → DataPhase}
    (hnext : ∀ a, (next a).IsIdle) : (DataPhase.orAnswer result next).IsIdle := by
  cases result with
  | error e => trivial
  | ok a => exact hnext a

theorem isBeforePolicy_orAnswer {α : Type} {result : Except GatewayError α}
    {next : α → DataPhase} (hnext : ∀ a, (next a).isBeforePolicy = false) :
    (DataPhase.orAnswer result next).isBeforePolicy = false := by
  cases result with
  | error e => rfl
  | ok a => exact hnext a

theorem isBeforePolicy_policyFound (auth : AuthContext) (evaluator : RateLimitEvaluator)
    (answer : Except GatewayError EvaluatedPolicy) :
    (policyFound auth evaluator answer).isBeforePolicy = false := by
  cases answer <;> rfl

theorem isBeforePolicy_afterEvaluation (evaluator : RateLimitEvaluator)
    (evaluated : EvaluatedPolicy) (call : EvaluateCall) :
    (afterEvaluation plane evaluator evaluated call).isBeforePolicy = false := by
  unfold afterEvaluation
  split
  · rfl
  · split
    · rfl
    · exact isBeforePolicy_orAnswer fun _ ↦ rfl
  · rfl

/-- A request that is past its policy, or drops out, passes by. -/
theorem LoadMove.past (hphase : phase.leadsAt job = none) (hnext : next.isBeforePolicy = false)
    (loads : PolicyLoads) : LoadMove job i loads phase next loads :=
  .pass hphase (isIdle_of_isBeforePolicy hnext) fun h ↦ absurd (hnext.symm.trans h) nofun

theorem loadMove_lookupKey {hd : AuthHeaders} {l : FleetLookup ℕ}
    (hstep : lookupKey plane job c s hd l = some (next, s')) :
    LoadMove job i s.loads (.lookingUp hd l) next s'.loads := by
  obtain ⟨_, _, _, rfl, hnext⟩ := lookupKey_eq_some.mp hstep
  refine .pass rfl ?_ fun _ ↦ rfl
  rcases hnext with ⟨_, _, rfl⟩ | ⟨_, rfl⟩
  · exact isIdle_orAnswer fun _ ↦ trivial
  · trivial

theorem loadMove_policyStep {auth : AuthContext} {evaluator : RateLimitEvaluator}
    {policy : PolicyPhase}
    (hstep : policyStep plane job i c s auth evaluator policy = some (next, s')) :
    LoadMove job i s.loads (.policy auth evaluator policy) next s'.loads := by
  have hfound := isBeforePolicy_policyFound auth evaluator
  cases policyMove_policyStep hstep with
  | hit _ | share _ => exact .past rfl (hfound _) _
  | join hleader => exact .join hleader
  | lead hfree => exact .lead hfree
  | readBound read => exact .read rfl (by cases read <;> rfl)
  | readDefault _ _ => exact .read rfl rfl
  | settle answer => exact .settle rfl (hfound answer)
  | startOver _ => exact .pass rfl rfl fun _ ↦ rfl

theorem loadMove_advance (hstep : advance P plane job i c s phase = some (next, s')) :
    LoadMove job i s.loads phase next s'.loads := by
  cases phase with
  | received | findingAccount hd key =>
      cases hstep
      exact .pass rfl (isIdle_orAnswer fun _ ↦ trivial) fun _ ↦ rfl
  | lookingUp hd l => exact loadMove_lookupKey hstep
  | recording v =>
      cases hstep
      rw [Shared.loads_withNonces]
      exact .pass rfl (isIdle_orAnswer fun _ ↦ rfl) fun _ ↦ rfl
  | policy auth evaluator policy => exact loadMove_policyStep hstep
  | evaluating evaluator evaluated call =>
      cases hstep
      rw [Shared.loads_withCounters]
      exact .past rfl (isBeforePolicy_afterEvaluation evaluator evaluated _) _
  | acquiring saId outcome limit =>
      cases hstep
      rw [Shared.loads_withCounters]
      exact .past rfl (isBeforePolicy_orAnswer fun _ ↦ rfl) _
  | handling saId outcome permit =>
      cases hstep
      cases permit <;> exact .past rfl rfl _
  | releasing saId outcome | releaseTask saId =>
      cases hstep
      rw [Shared.loads_withCounters]
      exact .past rfl rfl _
  | answered response | dropped => cases hstep

theorem loadMove_abandon (i : ℕ) (loads : PolicyLoads) (h : abandon phase = some next) :
    LoadMove job i loads phase next (abandonLoad job i loads phase) := by
  cases phase with
  | policy auth evaluator policy =>
      cases h
      unfold abandonLoad
      cases hleads : policy.leads with
      | true =>
          simp only [DataPhase.leadsAt, hleads, if_true, Option.elim_some]
          exact .settle hleads rfl
      | false =>
          have hnone : (DataPhase.policy auth evaluator policy).leadsAt job = none := by
            simp [DataPhase.leadsAt, hleads]
          rw [hnone]
          exact .past hnone rfl loads
  | handling saId outcome permit =>
      cases h
      cases permit <;> exact .past rfl rfl loads
  | received | lookingUp _ _ | findingAccount _ _ | recording _ | evaluating _ _ _
  | acquiring _ _ _ | releasing _ _ =>
      cases h
      exact .past rfl rfl loads
  | answered _ | releaseTask _ | dropped => cases h

end Advance

/-! ## Who leads which load -/

/-- The loads in flight are those that some request leads, and who waits does so for one of
them, or for one that has been settled. -/
structure LoadsKept (jobs : ℕ → Job) (s : DataState) : Prop where
  leader : ∀ place i, s.shared.loads.leader place = some i ↔
    (s.phase i).leadsAt (jobs i) = some place
  awaited : ∀ i auth evaluator leader, s.phase i = .policy auth evaluator (.waiting leader) →
    s.shared.loads.outcome leader = none →
      s.shared.loads.leader ((jobs i).gateway, auth.serviceAccountId) = some leader
  unsettled : ∀ i, (s.phase i).isBeforePolicy = true → s.shared.loads.outcome i = none

section LoadsKept

variable {jobs : ℕ → Job} {s : DataState} {i : ℕ} {next : DataPhase} {shared : Shared}

theorem LoadsKept.outcome_leader (h : LoadsKept jobs s) {place : ℕ × ServiceAccountId} {j : ℕ}
    (hleader : s.shared.loads.leader place = some j) : s.shared.loads.outcome j = none := by
  have hleads := (h.leader place j).mp hleader
  refine h.unsettled j ?_
  cases hphase : s.phase j with
  | policy auth evaluator policy => rfl
  | received | lookingUp _ _ | findingAccount _ _ | recording _ => rfl
  | evaluating _ _ _ | acquiring _ _ _ | handling _ _ _ | releasing _ _ | answered _
  | releaseTask _ | dropped =>
      rw [hphase] at hleads
      cases hleads

theorem leadsAt_policy (job : Job) (auth : AuthContext) (evaluator : RateLimitEvaluator)
    {policy : PolicyPhase} (h : policy.leads = true) :
    (DataPhase.policy auth evaluator policy).leadsAt job =
      some (job.gateway, auth.serviceAccountId) := by
  simp [DataPhase.leadsAt, h]

/-- After the move the request is registered where it leads now, and nobody else's
registration has changed. -/
theorem LoadsKept.leader_move (h : LoadsKept jobs s) {loads : PolicyLoads}
    (hmove : LoadMove (jobs i) i s.shared.loads (s.phase i) next loads)
    (place : ℕ × ServiceAccountId) :
    (loads.leader place = some i ↔ next.leadsAt (jobs i) = some place) ∧
      ∀ j ≠ i, loads.leader place = some j ↔ s.shared.loads.leader place = some j := by
  have hown := h.leader place i
  generalize hphase : s.phase i = phase at hmove hown
  cases hmove with
  | pass hleads hnext _ =>
      rw [hown, hleads, hnext.leadsAt]
      exact ⟨Iff.rfl, fun _ _ ↦ Iff.rfl⟩
  | join hleader => exact ⟨hown, fun _ _ ↦ Iff.rfl⟩
  | read hleads hleads' =>
      rw [leadsAt_policy _ _ _ hleads'] at ⊢
      rw [leadsAt_policy _ _ _ hleads] at hown
      exact ⟨hown, fun _ _ ↦ Iff.rfl⟩
  | @lead auth evaluator hfree =>
      -- the place was free, so nobody else is displaced
      rw [leadsAt_policy _ _ _ rfl]
      by_cases hplace : place = ((jobs i).gateway, auth.serviceAccountId)
      · subst hplace
        simp only [PolicyLoads.lead, Function.update_self, Option.some.injEq, hfree, reduceCtorEq,
          iff_false, true_and]
        exact fun j hj heq ↦ hj heq.symm
      · simp only [PolicyLoads.lead, Function.update_of_ne hplace, hown, DataPhase.leadsAt,
          PolicyPhase.leads, Bool.false_eq_true, if_false, reduceCtorEq, Option.some.injEq,
          false_iff]
        exact ⟨fun heq ↦ hplace heq.symm, fun _ _ ↦ trivial⟩
  | @settle auth evaluator policy next outcome hleads hnext =>
      have hled := (h.leader ((jobs i).gateway, auth.serviceAccountId) i).mpr
        ((congrArg _ hphase).trans (leadsAt_policy _ _ _ hleads))
      rw [(isIdle_of_isBeforePolicy hnext).leadsAt]
      by_cases hplace : place = ((jobs i).gateway, auth.serviceAccountId)
      · subst hplace
        simp only [PolicyLoads.settle, Function.update_self, reduceCtorEq, hled, Option.some.injEq,
          false_iff, true_and]
        exact fun j hj heq ↦ hj heq.symm
      · simp only [PolicyLoads.settle, Function.update_of_ne hplace, hown, reduceCtorEq, iff_false,
          leadsAt_policy _ _ _ hleads, Option.some.injEq]
        exact ⟨fun heq ↦ hplace heq.symm, fun _ _ ↦ trivial⟩

theorem LoadMove.outcome_ne {job : Job} {loads loads' : PolicyLoads} {phase : DataPhase}
    (h : LoadMove job i loads phase next loads') {j : ℕ} (hj : j ≠ i) :
    loads'.outcome j = loads.outcome j := by
  cases h with
  | pass _ _ _ | join _ | lead _ | read _ _ => rfl
  | settle _ _ => exact Function.update_of_ne hj _ _

theorem LoadMove.outcome_of_isBeforePolicy {job : Job} {loads loads' : PolicyLoads}
    {phase : DataPhase} (h : LoadMove job i loads phase next loads')
    (hnext : next.isBeforePolicy = true) :
    phase.isBeforePolicy = true ∧ loads'.outcome = loads.outcome := by
  cases h with
  | pass _ _ hbefore => exact ⟨hbefore hnext, rfl⟩
  | join _ | lead _ | read _ _ => exact ⟨rfl, rfl⟩
  | settle _ hpast =>
      rw [hpast] at hnext
      cases hnext

theorem LoadMove.leader_of_waiting {job : Job} {loads loads' : PolicyLoads} {phase : DataPhase}
    {auth : AuthContext} {evaluator : RateLimitEvaluator} {leader : ℕ}
    (h : LoadMove job i loads phase (.policy auth evaluator (.waiting leader)) loads') :
    loads'.leader (job.gateway, auth.serviceAccountId) = some leader := by
  cases h with
  | pass _ hnext _ => cases hnext
  | join hleader => exact hleader
  | read _ hleads' => cases hleads'
  | settle _ hnext => cases hnext

/-- Who waits for a load that is not settled by the move still waits for its leader. -/
theorem LoadsKept.leader_of_unsettled (h : LoadsKept jobs s) {loads : PolicyLoads}
    (hmove : LoadMove (jobs i) i s.shared.loads (s.phase i) next loads)
    {place : ℕ × ServiceAccountId} {leader : ℕ}
    (hold : s.shared.loads.outcome leader = none → s.shared.loads.leader place = some leader)
    (houtcome : loads.outcome leader = none) : loads.leader place = some leader := by
  generalize hphase : s.phase i = phase at hmove
  cases hmove with
  | pass _ _ _ | join _ | read _ _ => exact hold houtcome
  | @lead auth evaluator hfree =>
      have hled := hold houtcome
      refine (Function.update_of_ne ?_ _ _).trans hled
      rintro rfl
      cases hfree.symm.trans hled
  | @settle auth evaluator policy next outcome hleads hnext =>
      have hne : leader ≠ i := by
        rintro rfl
        simp [PolicyLoads.settle] at houtcome
      have hled := hold ((Function.update_of_ne hne _ _).symm.trans houtcome)
      have hown := (h.leader ((jobs i).gateway, auth.serviceAccountId) i).mpr
        ((congrArg _ hphase).trans (leadsAt_policy _ _ _ hleads))
      refine (Function.update_of_ne ?_ _ _).trans hled
      rintro rfl
      exact hne (Option.some.inj (hled.symm.trans hown))

theorem LoadsKept.move (h : LoadsKept jobs s)
    (hmove : LoadMove (jobs i) i s.shared.loads (s.phase i) next shared.loads) :
    LoadsKept jobs (s.move i (next, shared)) where
  leader place j := by
    by_cases hj : j = i
    · subst hj
      simpa [DataState.move] using (h.leader_move hmove place).1
    · simp only [DataState.move, Function.update_of_ne hj]
      rw [(h.leader_move hmove place).2 j hj, h.leader]
  awaited j auth evaluator leader hphase houtcome := by
    by_cases hj : j = i
    · subst hj
      simp only [DataState.move, Function.update_self] at hphase ⊢
      subst hphase
      exact hmove.leader_of_waiting
    · simp only [DataState.move, Function.update_of_ne hj] at hphase
      exact h.leader_of_unsettled hmove (h.awaited j auth evaluator leader hphase) houtcome
  unsettled j hphase := by
    by_cases hj : j = i
    · subst hj
      simp only [DataState.move, Function.update_self] at hphase ⊢
      obtain ⟨hbefore, houtcome⟩ := hmove.outcome_of_isBeforePolicy hphase
      rw [houtcome]
      exact h.unsettled j hbefore
    · simp only [DataState.move, Function.update_of_ne hj] at hphase ⊢
      rw [hmove.outcome_ne hj]
      exact h.unsettled j hphase

end LoadsKept

/-! ## Lookups -/

/-- The lookup of a key has not returned as long as its request is busy with it. -/
def DataPhase.Pending : DataPhase → Prop
  | .lookingUp _ l => ∀ found, l.phase ≠ .returned found
  | .received | .findingAccount _ _ | .recording _ | .policy _ _ _ | .evaluating _ _ _
  | .acquiring _ _ _ | .handling _ _ _ | .releasing _ _ | .answered _ | .releaseTask _
  | .dropped => True

section Pending

variable {plane : DataPlane} {job : Job} {i : ℕ} {c : Circumstances} {s s' : Shared}
  {phase next : DataPhase}

theorem pending_advance (hstep : advance P plane job i c s phase = some (next, s')) :
    next.Pending := by
  cases phaseStep_advance P hstep with
  | received _ _ => exact fun _ hreturned ↦ by cases hreturned
  | lookingUp _ hpending => exact hpending
  | answered _ _ | keyFound _ _ _ _ | accountFound _ _ _ | recorded _ | policy _
  | policyFound _ _ _ _ | evaluating _ | limited _ _ _ _ _ | unlimited _ _ _ _ | acquired _ _ _
  | handled _ _ | released _ => trivial

theorem pending_abandon (h : abandon phase = some next) : next.Pending := by
  rcases abandon_eq_some h with rfl | ⟨_, _, _, rfl⟩ <;> trivial

end Pending

/-! ## No request is stuck -/

def DataPhase.isFinal : DataPhase → Bool
  | .answered _ | .dropped => true
  | .received | .lookingUp _ _ | .findingAccount _ _ | .recording _ | .policy _ _ _
  | .evaluating _ _ _ | .acquiring _ _ _ | .handling _ _ _ | .releasing _ _
  | .releaseTask _ => false

def DataPhase.isWaiting : DataPhase → Bool
  | .policy _ _ (.waiting _) => true
  | _ => false

/-- Only who waits may have to wait. -/
theorem isSome_advance {plane : DataPlane} {job : Job} (i : ℕ) (c : Circumstances) (s : Shared)
    {phase : DataPhase} (hpending : phase.Pending) (hfinal : phase.isFinal = false)
    (hwaiting : phase.isWaiting = false) :
    (advance P plane job i c s phase).isSome = true := by
  cases phase with
  | lookingUp hd l =>
      simp only [advance, lookupKey, Option.isSome_map]
      exact isSome_fleetLookupStep _ _ _ hpending
  | policy auth evaluator policy =>
      cases policy with
      | cacheGet =>
          simp only [advance, policyStep]
          repeat' split
          all_goals rfl
      | boundRead | defaultRead _ | cacheInsert _ => rfl
      | waiting leader => cases hwaiting
  | received | findingAccount _ _ | recording _ | evaluating _ _ _ | acquiring _ _ _
  | handling _ _ _ | releasing _ _ | releaseTask _ => rfl
  | answered _ | dropped => cases hfinal

/-- What holds of the loads and of the lookups in every state of a run. -/
structure Ordered (jobs : ℕ → Job) (s : DataState) : Prop where
  loads : LoadsKept jobs s
  pending : ∀ i, (s.phase i).Pending

theorem Ordered.move {jobs : ℕ → Job} {s : DataState} (h : Ordered jobs s) {i : ℕ}
    {next : DataPhase} {shared : Shared}
    (hmove : LoadMove (jobs i) i s.shared.loads (s.phase i) next shared.loads)
    (hnext : next.Pending) : Ordered jobs (s.move i (next, shared)) := by
  refine ⟨h.loads.move hmove, fun j ↦ ?_⟩
  by_cases hj : j = i
  · subst hj
    simpa [DataState.move] using hnext
  · simpa [DataState.move, Function.update_of_ne hj] using h.pending j

theorem Ordered.step {plane : DataPlane} {jobs : ℕ → Job} {s t : DataState} {a : DataStep}
    (h : Ordered jobs s) (hstep : dataStep P plane jobs s a = some t) : Ordered jobs t := by
  cases a with
  | advance i c =>
      obtain ⟨_, ⟨next, shared⟩, hnext, rfl⟩ := (dataStep_advance_eq_some P).mp hstep
      exact h.move (loadMove_advance P hnext) (pending_advance P hnext)
  | lookup i c =>
      obtain ⟨_, ⟨next, shared⟩, hnext, rfl⟩ := (dataStep_lookup_eq_some P).mp hstep
      exact h.move (loadMove_advance P hnext) (pending_advance P hnext)
  | drop i c executed =>
      obtain ⟨next, hnext, rfl⟩ := Option.map_eq_some_iff.mp hstep
      exact h.move (loadMove_abandon i _ hnext) (pending_abandon hnext)
  | invalidateL1 _ _ | invalidateL2 _ | evictPolicy _ _ | write _ =>
      cases hstep
      exact ⟨⟨h.loads.leader, h.loads.awaited, h.loads.unsettled⟩, h.pending⟩

/-! ## The steps that are left -/

/-- The steps that a request has left in this phase of its load, at most. -/
def PolicyPhase.stepsLeft (outcome : ℕ → Option LoadOutcome) : PolicyPhase → ℕ
  | .cacheGet => 9
  | .boundRead => 8
  | .defaultRead _ => 7
  | .cacheInsert _ => 6
  | .waiting leader =>
      match outcome leader with
      | some .abandoned => 10
      | some (.finished _) | none => 8

def EvaluatePhase.stepsLeft : EvaluatePhase → ℕ
  | .saCheck _ => 5
  | .globalCheck | .returned _ => 4
  | .rollback _ => 1

def DataPhase.stepsLeft (outcome : ℕ → Option LoadOutcome) : DataPhase → ℕ
  | .received => 17
  | .lookingUp _ l => 11 + l.phase.remaining
  | .findingAccount _ _ => 11
  | .recording _ => 10
  | .policy _ _ phase => phase.stepsLeft outcome
  | .evaluating _ _ call => call.phase.stepsLeft
  | .acquiring _ _ _ => 3
  | .handling _ _ _ => 2
  | .releasing _ _ | .releaseTask _ => 1
  | .answered _ | .dropped => 0

section StepsLeft

variable {plane : DataPlane} {job : Job} {evaluator : RateLimitEvaluator}
  {evaluated : EvaluatedPolicy} {call : EvaluateCall} {outcome : ℕ → Option LoadOutcome}

theorem stepsLeft_orAnswer_le {α : Type} {result : Except GatewayError α} {next : α → DataPhase}
    {n : ℕ} (hnext : ∀ a, (next a).stepsLeft outcome ≤ n) :
    (DataPhase.orAnswer result next).stepsLeft outcome ≤ n := by
  cases result with
  | error e => exact Nat.zero_le n
  | ok a => exact hnext a

theorem stepsLeft_policyFound_le (auth : AuthContext)
    (answer : Except GatewayError EvaluatedPolicy) :
    (policyFound auth evaluator answer).stepsLeft outcome ≤ 5 := by
  cases answer with
  | error e => exact Nat.zero_le 5
  | ok evaluated =>
      cases hlimit : evaluated.rpmLimit <;>
        simp [policyFound, EvaluateCall.start, hlimit, DataPhase.stepsLeft,
          EvaluatePhase.stepsLeft]

theorem stepsLeft_afterEvaluation_error {e : GatewayError} (h : call.phase = .returned (.error e)) :
    (afterEvaluation plane evaluator evaluated call).stepsLeft outcome = 0 := by
  simp only [afterEvaluation, h]
  rfl

theorem stepsLeft_afterEvaluation_lt {result : Except GatewayError RateLimitOutcome}
    (h : call.phase = .returned result) :
    (afterEvaluation plane evaluator evaluated call).stepsLeft outcome < 4 := by
  cases result with
  | error e =>
      rw [stepsLeft_afterEvaluation_error h]
      exact Nat.succ_pos 3
  | ok rate =>
      simp only [afterEvaluation, h]
      split
      · simp [DataPhase.stepsLeft]
      · exact Nat.lt_succ_of_le (stepsLeft_orAnswer_le fun _ ↦ le_rfl)

theorem stepsLeft_afterEvaluation_le :
    (afterEvaluation plane evaluator evaluated call).stepsLeft outcome ≤
      call.phase.stepsLeft := by
  cases hphase : call.phase with
  | returned result => exact (stepsLeft_afterEvaluation_lt hphase).le
  | saCheck _ | globalCheck | rollback _ =>
      simp [afterEvaluation, DataPhase.stepsLeft, hphase]

theorem stepsLeft_evaluateStep_lt (conv : ReplyConversion) (redis : RedisConnection)
    (counters : Store String ℤ) (now after : ℕ) : (afterEvaluation plane evaluator evaluated
      (evaluateStep conv evaluator redis counters now after call).1).stepsLeft outcome <
        call.phase.stepsLeft := by
  cases hphase : call.phase with
  | saCheck saRpm =>
      refine stepsLeft_afterEvaluation_le.trans_lt ?_
      simp only [evaluateStep, hphase, EvaluateCall.afterSaCheck]
      split
      · exact Nat.lt_succ_self 4
      · split_ifs <;> exact Nat.lt_succ_self 4
  | globalCheck =>
      simp only [evaluateStep, hphase, EvaluateCall.afterGlobalCheck]
      split
      · exact stepsLeft_afterEvaluation_lt rfl
      · split_ifs
        · exact stepsLeft_afterEvaluation_lt rfl
        · exact stepsLeft_afterEvaluation_le.trans_lt (by simp [EvaluatePhase.stepsLeft])
        · exact stepsLeft_afterEvaluation_lt rfl
  | rollback resetAt =>
      simp only [evaluateStep, hphase, EvaluateCall.afterRollback]
      rw [stepsLeft_afterEvaluation_error rfl]
      exact Nat.one_pos
  | returned result =>
      simp only [evaluateStep, hphase]
      exact stepsLeft_afterEvaluation_lt hphase

variable {i : ℕ} {c : Circumstances} {s s' : Shared} {phase next : DataPhase}

theorem stepsLeft_policyStep_lt {auth : AuthContext} {policy : PolicyPhase}
    (hled : ∀ place j, s.loads.leader place = some j → s.loads.outcome j = none)
    (hstep : policyStep plane job i c s auth evaluator policy = some (next, s')) :
    next.stepsLeft s'.loads.outcome < policy.stepsLeft s.loads.outcome := by
  cases policyMove_policyStep hstep with
  | hit evaluated =>
      exact (stepsLeft_policyFound_le auth _).trans_lt (by simp [PolicyPhase.stepsLeft])
  | join hleader => simp [DataPhase.stepsLeft, PolicyPhase.stepsLeft, hled _ _ hleader]
  | lead _ => exact Nat.lt_succ_self 8
  | readBound read => cases read <;> simp [DataPhase.stepsLeft, PolicyPhase.stepsLeft]
  | readDefault _ _ => exact Nat.lt_succ_self 6
  | settle answer => exact Nat.lt_succ_of_le (stepsLeft_policyFound_le auth answer)
  | share houtcome =>
      simp only [PolicyPhase.stepsLeft, houtcome]
      exact (stepsLeft_policyFound_le auth _).trans_lt (by decide)
  | startOver houtcome => simp [DataPhase.stepsLeft, PolicyPhase.stepsLeft, houtcome]

theorem stepsLeft_lookupKey_lt {hd : AuthHeaders} {l : FleetLookup ℕ}
    (hstep : lookupKey plane job c s hd l = some (next, s')) :
    next.stepsLeft outcome < 11 + l.phase.remaining := by
  obtain ⟨_, _, hlookup, _, hnext⟩ := lookupKey_eq_some.mp hstep
  have hlt := remaining_fleetLookupStep_lt hlookup
  rcases hnext with ⟨found, _, rfl⟩ | ⟨_, rfl⟩
  · have hfound : (keyFound plane job hd found).stepsLeft outcome ≤ 11 :=
      stepsLeft_orAnswer_le fun _ ↦ le_rfl
    exact hfound.trans_lt (by omega)
  · simpa [DataPhase.stepsLeft] using hlt

theorem stepsLeft_advance_lt
    (hled : ∀ place j, s.loads.leader place = some j → s.loads.outcome j = none)
    (hstep : advance P plane job i c s phase = some (next, s')) :
    next.stepsLeft s'.loads.outcome < phase.stepsLeft s.loads.outcome := by
  cases phase with
  | received =>
      cases hstep
      exact Nat.lt_succ_of_le (stepsLeft_orAnswer_le fun _ ↦ le_rfl)
  | lookingUp hd l => exact stepsLeft_lookupKey_lt hstep
  | findingAccount hd key | recording v | acquiring saId rate limit =>
      cases hstep
      exact Nat.lt_succ_of_le (stepsLeft_orAnswer_le fun _ ↦ le_rfl)
  | policy auth evaluator policy => exact stepsLeft_policyStep_lt hled hstep
  | evaluating evaluator evaluated call =>
      cases hstep
      exact stepsLeft_evaluateStep_lt plane.conversion c.redis s.redis.counters c.now c.after
  | handling saId rate permit =>
      cases hstep
      cases permit with
      | true => exact Nat.lt_succ_self 1
      | false => exact Nat.succ_pos 1
  | releasing saId rate | releaseTask saId =>
      cases hstep
      exact Nat.one_pos
  | answered response | dropped => cases hstep

theorem stepsLeft_abandon_lt (h : abandon phase = some next) (outcome' : ℕ → Option LoadOutcome) :
    next.stepsLeft outcome' < phase.stepsLeft outcome := by
  cases phase with
  | handling saId rate permit =>
      cases h
      cases permit with
      | true => exact Nat.lt_succ_self 1
      | false => exact Nat.succ_pos 1
  | evaluating evaluator evaluated call =>
      cases h
      change 0 < call.phase.stepsLeft
      cases call.phase <;> exact Nat.succ_pos _
  | policy auth evaluator policy =>
      cases h
      change 0 < policy.stepsLeft outcome
      cases policy with
      | waiting leader =>
          simp only [PolicyPhase.stepsLeft]
          split <;> exact Nat.succ_pos _
      | cacheGet | boundRead | defaultRead _ | cacheInsert _ => exact Nat.succ_pos _
  | lookingUp hd l =>
      cases h
      exact Nat.lt_of_lt_of_le (Nat.succ_pos 10) (Nat.le_add_right _ _)
  | received | findingAccount _ _ | recording _ | acquiring _ _ _ | releasing _ _ =>
      cases h
      exact Nat.succ_pos _
  | answered _ | releaseTask _ | dropped => cases h

/-! What a request does to the loads, seen from another one. -/

theorem stepsLeft_finished_le (phase : DataPhase) (i : ℕ)
    (answer : Except GatewayError EvaluatedPolicy) :
    phase.stepsLeft (Function.update outcome i (some (.finished answer))) ≤
      phase.stepsLeft outcome := by
  cases phase with
  | policy auth evaluator policy =>
      cases policy with
      | waiting leader =>
          simp only [DataPhase.stepsLeft, PolicyPhase.stepsLeft]
          by_cases hi : leader = i
          · subst hi
            rw [Function.update_self]
            change 8 ≤ _
            split <;> omega
          · rw [Function.update_of_ne hi]
      | cacheGet | boundRead | defaultRead _ | cacheInsert _ => exact le_rfl
  | received | lookingUp _ _ | findingAccount _ _ | recording _ | evaluating _ _ _
  | acquiring _ _ _ | handling _ _ _ | releasing _ _ | answered _ | releaseTask _
  | dropped => exact le_rfl

/-- Whatever becomes of a load, who waits for it has at most two steps more. -/
theorem stepsLeft_le_add_two (phase : DataPhase) (outcome' : ℕ → Option LoadOutcome) :
    phase.stepsLeft outcome' ≤ phase.stepsLeft outcome + 2 := by
  cases phase with
  | policy auth evaluator policy =>
      cases policy with
      | waiting leader =>
          simp only [DataPhase.stepsLeft, PolicyPhase.stepsLeft]
          repeat' split
          all_goals omega
      | cacheGet | boundRead | defaultRead _ | cacheInsert _ => exact Nat.le_add_right _ _
  | received | lookingUp _ _ | findingAccount _ _ | recording _ | evaluating _ _ _
  | acquiring _ _ _ | handling _ _ _ | releasing _ _ | answered _ | releaseTask _
  | dropped => exact Nat.le_add_right _ _

theorem outcome_advance (hstep : advance P plane job i c s phase = some (next, s')) :
    s'.loads.outcome = s.loads.outcome ∨
      ∃ answer, s'.loads.outcome = Function.update s.loads.outcome i (some (.finished answer)) := by
  cases phase with
  | policy auth evaluator policy =>
      cases policyMove_policyStep hstep with
      | settle answer => exact Or.inr ⟨answer, rfl⟩
      | hit _ | join _ | lead _ | readBound _ | readDefault _ _ | share _ | startOver _ =>
          exact Or.inl rfl
  | lookingUp hd l =>
      obtain ⟨_, _, _, rfl, _⟩ := lookupKey_eq_some.mp hstep
      exact Or.inl rfl
  | received | findingAccount _ _ | recording _ | evaluating _ _ _ | acquiring _ _ _
  | handling _ _ _ | releasing _ _ | releaseTask _ =>
      cases hstep
      exact Or.inl rfl
  | answered _ | dropped => cases hstep

end StepsLeft

def DataStep.isDrop : DataStep → Bool
  | .drop _ _ _ => true
  | .advance _ _ | .lookup _ _ | .invalidateL1 _ _ | .invalidateL2 _ | .evictPolicy _ _
  | .write _ => false

def DataState.stepsLeft (s : DataState) (i : ℕ) : ℕ :=
  (s.phase i).stepsLeft s.shared.loads.outcome

section Run

variable {plane : DataPlane} {jobs : ℕ → Job} {s t u : DataState} {a : DataStep}

theorem stepsLeft_move_advance {j : ℕ} {c : Circumstances} {answer : DataPhase × Shared}
    (h : Ordered jobs s) (hnext : advance P plane (jobs j) j c s.shared (s.phase j) = some answer)
    (i : ℕ) : (s.move j answer).stepsLeft i + (if j = i then 1 else 0) ≤ s.stepsLeft i := by
  obtain ⟨next, shared⟩ := answer
  simp only [DataState.stepsLeft, DataState.move]
  by_cases hi : j = i
  · subst hi
    rw [Function.update_self, if_pos rfl]
    exact stepsLeft_advance_lt P (fun _ _ ↦ h.loads.outcome_leader) hnext
  · rw [Function.update_of_ne (Ne.symm hi), if_neg hi]
    rcases outcome_advance P hnext with houtcome | ⟨result, houtcome⟩
    · rw [houtcome]
      exact le_rfl
    · rw [houtcome]
      exact stepsLeft_finished_le (s.phase i) j result

theorem stepsLeft_dataStep (h : Ordered jobs s) (hstep : dataStep P plane jobs s a = some t)
    (i : ℕ) : t.stepsLeft i + (if decide (a.request = some i) then 1 else 0) ≤
      s.stepsLeft i + (if a.isDrop then 2 else 0) := by
  cases a with
  | advance j c =>
      obtain ⟨_, answer, hnext, rfl⟩ := (dataStep_advance_eq_some P).mp hstep
      simpa [DataStep.request, DataStep.isDrop] using stepsLeft_move_advance P h hnext i
  | lookup j c =>
      obtain ⟨_, answer, hnext, rfl⟩ := (dataStep_lookup_eq_some P).mp hstep
      simpa [DataStep.request, DataStep.isDrop] using stepsLeft_move_advance P h hnext i
  | drop j c executed =>
      obtain ⟨next, hnext, rfl⟩ := Option.map_eq_some_iff.mp hstep
      simp only [DataState.stepsLeft, DataState.move, DataStep.request, DataStep.isDrop, if_true,
        Option.some.injEq, decide_eq_true_eq]
      by_cases hi : j = i
      · subst hi
        rw [Function.update_self, if_pos rfl]
        exact (stepsLeft_abandon_lt hnext _).trans_le (Nat.le_add_right _ _)
      · rw [Function.update_of_ne (Ne.symm hi), if_neg hi]
        exact stepsLeft_le_add_two _ _
  | invalidateL1 _ _ | invalidateL2 _ | evictPolicy _ _ | write _ =>
      cases hstep
      exact le_rfl

/-- Request `i` can take its next step, whatever it meets. -/
def CanGoOn (plane : DataPlane) (jobs : ℕ → Job) (s : DataState) (i : ℕ) : Prop :=
  ∀ c, (dataStep P plane jobs s (.advance i c)).isSome = true ∨
    (dataStep P plane jobs s (.lookup i c)).isSome = true

theorem Ordered.canGoOn (h : Ordered jobs s) {i : ℕ} (hfinal : (s.phase i).isFinal = false)
    (hwaiting : (s.phase i).isWaiting = false) : CanGoOn P plane jobs s i := by
  intro c
  have hsome : (advance P plane (jobs i) i c s.shared (s.phase i)).isSome = true :=
    isSome_advance P i c s.shared (h.pending i) hfinal hwaiting
  cases hlookup : (s.phase i).isLookingUp with
  | true => exact Or.inr (by simpa [dataStep, hlookup] using hsome)
  | false => exact Or.inl (by simpa [dataStep, hlookup] using hsome)

/-- Who leads a load is neither waiting nor done. -/
theorem canGoOn_of_leadsAt (h : Ordered jobs s) {j : ℕ} {place : ℕ × ServiceAccountId}
    (hleads : (s.phase j).leadsAt (jobs j) = some place) : CanGoOn P plane jobs s j := by
  cases hphase : s.phase j with
  | policy auth evaluator policy =>
      refine h.canGoOn P (congrArg DataPhase.isFinal hphase) ?_
      rw [hphase] at hleads ⊢
      cases policy with
      | cacheGet | boundRead | defaultRead _ | cacheInsert _ => rfl
      | waiting leader => cases hleads
  | received | lookingUp _ _ | findingAccount _ _ | recording _ | evaluating _ _ _
  | acquiring _ _ _ | handling _ _ _ | releasing _ _ | answered _ | releaseTask _
  | dropped =>
      rw [hphase] at hleads
      cases hleads

theorem DataPhase.exists_waiting {phase : DataPhase} (h : phase.isWaiting = true) :
    ∃ auth evaluator leader, phase = .policy auth evaluator (.waiting leader) := by
  unfold DataPhase.isWaiting at h
  split at h
  · exact ⟨_, _, _, rfl⟩
  · cases h

theorem Ordered.start (jobs : ℕ → Job) (db : Database) : Ordered jobs (.start db) where
  loads := ⟨fun _ _ ↦ ⟨nofun, nofun⟩, fun _ _ _ _ ↦ nofun, fun _ _ ↦ rfl⟩
  pending _ := trivial

end Run

/-- A request takes at most seventeen steps, and two more for each client that disconnects.
As long as it is neither answered nor dropped it can go on, whatever it meets, unless it waits
for the load of its policies on its gateway.  Another request leads that one, and it can go on,
whatever it meets. -/
theorem requests_come_to_an_end {plane : DataPlane} {jobs : ℕ → Job} {db : Database}
    {u : DataState} {steps : List DataStep}
    (hrun : run (dataStep P plane jobs) (.start db) steps = some u) (i : ℕ) :
    (steps.countP fun a ↦ a.request = some i) ≤ 17 + 2 * steps.countP DataStep.isDrop ∧
      ((u.phase i).isFinal = false → CanGoOn P plane jobs u i ∨
        ∃ auth evaluator leader, u.phase i = .policy auth evaluator (.waiting leader) ∧
          (u.phase leader).leadsAt (jobs leader) =
            some ((jobs i).gateway, auth.serviceAccountId) ∧
          CanGoOn P plane jobs u leader) := by
  have hstart := Ordered.start jobs db
  have hinv : ∀ s a t, Ordered jobs s → dataStep P plane jobs s a = some t → Ordered jobs t :=
    fun s a t hs hstep ↦ hs.step P hstep
  have hu : Ordered jobs u := run_preserves hinv hrun hstart
  refine ⟨?_, fun hfinal ↦ ?_⟩
  · have hcount := run_countP_le hinv (fun s a t hs hstep ↦ stepsLeft_dataStep P hs hstep i) hrun
      hstart
    exact (Nat.le_add_left _ _).trans hcount
  · cases hwaiting : (u.phase i).isWaiting with
    | false => exact Or.inl (hu.canGoOn P hfinal hwaiting)
    | true =>
        obtain ⟨auth, evaluator, leader, hphase⟩ := DataPhase.exists_waiting hwaiting
        cases houtcome : u.shared.loads.outcome leader with
        | none =>
            have hleads := (hu.loads.leader _ _).mp
              (hu.loads.awaited i auth evaluator leader hphase houtcome)
            exact Or.inr ⟨auth, evaluator, leader, hphase, hleads, canGoOn_of_leadsAt P hu hleads⟩
        | some outcome =>
            refine Or.inl fun c ↦ Or.inl ?_
            rw [dataStep, hphase]
            simp only [DataPhase.isLookingUp, Bool.false_eq_true, if_false, advance, policyStep,
              houtcome, Option.isSome_map]
            cases outcome <;> rfl

/-- Two requests of one account.  The second one is so slow that its nonce is new again. -/
def jobsOfOneAccount : ℕ → Job
  | 0 => sampleJob ⟨⟨3⟩⟩ "key-2"
  | _ + 1 => { sampleJob ⟨⟨3⟩⟩ "key-2" with
      clock := ⟨sampleInstant, sampleInstant, ⟨2000000, by decide⟩⟩ }

/-- The first request leads the load of the policies when the second one finds its key in L1
and comes to wait. -/
def sharedLoad : List DataStep :=
  takesSteps 0 3 ++ [.advance 1 sampleCircumstances, .lookup 1 sampleCircumstances] ++
    List.replicate 3 (.advance 1 sampleCircumstances)

theorem requests_come_to_an_end_waiting :
    ∃ u, run (dataStep .sample samplePlane jobsOfOneAccount) (.start sampleDatabase) sharedLoad =
        some u ∧ (u.phase 1).isWaiting = true ∧
      ((sharedLoad.countP fun a ↦ a.request = some 1) ≤
          17 + 2 * sharedLoad.countP DataStep.isDrop ∧
        ((u.phase 1).isFinal = false → CanGoOn .sample samplePlane jobsOfOneAccount u 1 ∨
          ∃ auth evaluator leader, u.phase 1 = .policy auth evaluator (.waiting leader) ∧
            (u.phase leader).leadsAt (jobsOfOneAccount leader) =
              some ((jobsOfOneAccount 1).gateway, auth.serviceAccountId) ∧
            CanGoOn .sample samplePlane jobsOfOneAccount u leader)) := by
  have hrun : ((run (dataStep .sample samplePlane jobsOfOneAccount) (.start sampleDatabase)
      sharedLoad).map fun u ↦ (u.phase 1).isWaiting) = some true := by
    decide +kernel
  obtain ⟨u, hu, hwaiting⟩ := Option.map_eq_some_iff.mp hrun
  exact ⟨u, hu, hwaiting, requests_come_to_an_end .sample hu 1⟩

end SmartGate
