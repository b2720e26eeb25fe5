import SmartGate.Policy.Concurrency

/-!
# Slots that nobody gives back

A slot whose `DECR` is lost stays counted.  The time to live of the counter is the safety net
for that: an account that leaves the limiter alone for two minutes finds it empty.  But every
attempt to acquire a slot renews the time to live, also one that is refused.  An account that
keeps trying keeps the lost slots alive.  The price of the safety net is that the counter also
forgets permits that are still held: each end of life lets in at most the limit once more.
-/

namespace SmartGate

open ExpiringStore Transition

/-- Two minutes, in the unit of the clock. -/
def slotLifetime : ℕ := 1000 * concurrencyKeyTtlSecs

/-! ## The safety net -/

theorem refreshed_same (store : Store String ℤ) (now : ℕ) (key : String) :
    refreshed store now key key = some ⟨count store now key + 1, some (now + slotLifetime)⟩ :=
  expire_same _ (lookup_incrBy store now key 1)

theorem runsOut_luaConcurrencyAcquire (store : Store String ℤ) (now : ℕ) (key : String)
    (limit : ℕ) {missed : Prop} :
    RunsOut missed (luaConcurrencyAcquire store now key limit).2 key (now + slotLifetime) := by
  have hrefreshed : RunsOut missed (refreshed store now key) key (now + slotLifetime) :=
    runsOut_of_deadline (refreshed_same store now key)
  rcases lt_or_ge (count store now key) limit with hlt | hge
  · rw [luaConcurrencyAcquire_below hlt]
    exact hrefreshed
  · rw [luaConcurrencyAcquire_above hge]
    have hlive : (⟨count store now key + 1, some (now + slotLifetime)⟩ : Entry ℤ).live now =
        true := by
      simp [Entry.live, slotLifetime, concurrencyKeyTtlSecs]
    have hpresent : lookup (refreshed store now key) now key ≠ none := by
      rw [lookup_eq_some.mpr ⟨refreshed_same store now key, hlive⟩]
      exact Option.some_ne_none _
    exact (hrefreshed.decrBy now (by decide)).mono (fun h ↦ h.resolve_right hpresent) le_rfl

/-- A call of `acquire` runs its script on the store or leaves it alone. -/
theorem acquire_store (redis : RedisConnection) (store : Store String ℤ) (now : ℕ)
    (saId : ServiceAccountId) (limit : ℕ) :
    (acquire redis store now saId limit).2 = store ∨
      (acquire redis store now saId limit).2 =
        (luaConcurrencyAcquire store now (concurrencyKey saId) limit).2 := by
  match redis with
  | .failing false => exact Or.inl rfl
  | .failing true => exact Or.inr rfl
  | .working =>
      simp only [acquire]
      split_ifs
      · exact Or.inr rfl
      · exact Or.inr rfl

theorem runsOut_acquire {store : Store String ℤ} {now : ℕ} {saId : ServiceAccountId}
    (h : RunsOut True store (concurrencyKey saId) (now + slotLifetime)) (redis : RedisConnection)
    (limit : ℕ) :
    RunsOut True (acquire redis store now saId limit).2 (concurrencyKey saId)
      (now + slotLifetime) := by
  rcases acquire_store redis store now saId limit with hsame | hscript
  · rw [hsame]
    exact h
  · rw [hscript]
    exact runsOut_luaConcurrencyAcquire store now (concurrencyKey saId) limit

/-- A step that is not an attempt of the account leaves the end of life of its counter. -/
theorem runsOut_limiterStep {limit : ServiceAccountId → ℕ} {s t : LimiterState}
    {saId : ServiceAccountId} {d : ℕ} (h : RunsOut True s.store (concurrencyKey saId) d)
    {a : LimiterStep} (hother : ∀ redis, a ≠ .acquire redis saId)
    (hstep : limiterStep limit s a = some t) : RunsOut True t.store (concurrencyKey saId) d := by
  cases a with
  | acquire redis b =>
      cases hstep
      have hne : concurrencyKey saId ≠ concurrencyKey b := by
        intro heq
        cases concurrencyKey_injective heq
        exact hother redis rfl
      exact h.congr (acquire_ne redis s.store s.clock b (limit b) hne)
  | decr b =>
      simp only [limiterStep, Option.ite_none_right_eq_some, Option.some.injEq] at hstep
      obtain ⟨_, rfl⟩ := hstep
      by_cases hb : saId = b
      · subst hb
        exact (h.decrBy s.clock (by decide)).mono (fun _ ↦ trivial) le_rfl
      · exact h.congr (decrPermit_ne s.store s.clock fun heq ↦ hb (concurrencyKey_injective heq))
  | giveBack b | loseDecr b =>
      simp only [limiterStep, Option.ite_none_right_eq_some, Option.some.injEq] at hstep
      obtain ⟨_, rfl⟩ := hstep
      exact h
  | tick ms =>
      cases hstep
      exact h

/-- No counter is positive for longer than two minutes from now on. -/
def LimiterState.Recovers (s : LimiterState) : Prop :=
  ∀ saId, RunsOut True s.store (concurrencyKey saId) (s.clock + slotLifetime)

theorem clock_le_of_limiterStep {limit : ServiceAccountId → ℕ} {s t : LimiterState}
    {a : LimiterStep} (hstep : limiterStep limit s a = some t) : s.clock ≤ t.clock := by
  cases a with
  | acquire redis b =>
      cases hstep
      exact le_rfl
  | tick ms =>
      cases hstep
      exact Nat.le_add_right _ _
  | giveBack b | decr b | loseDecr b =>
      simp only [limiterStep, Option.ite_none_right_eq_some, Option.some.injEq] at hstep
      obtain ⟨_, rfl⟩ := hstep
      exact le_rfl

theorem LimiterState.Recovers.step {limit : ServiceAccountId → ℕ} (s : LimiterState)
    (a : LimiterStep) (t : LimiterState) (h : s.Recovers) (hstep : limiterStep limit s a = some t) :
    t.Recovers := by
  intro saId
  by_cases hacquire : ∃ redis, a = .acquire redis saId
  · obtain ⟨redis, rfl⟩ := hacquire
    cases hstep
    exact runsOut_acquire (h saId) redis (limit saId)
  · have hkept := runsOut_limiterStep (h saId) (not_exists.mp hacquire) hstep
    exact hkept.mono id (Nat.add_le_add_right (clock_le_of_limiterStep hstep) _)

/-- Whatever permits were lost, and however: an account that has made no attempt for two
minutes has no slot taken, and is granted a permit again. -/
theorem lost_slots_recovered {limit : ServiceAccountId → ℕ} {s t u : LimiterState}
    {steps idle : List LimiterStep} (hs : s.Fresh) (hrun : run (limiterStep limit) s steps = some t)
    {saId : ServiceAccountId} (hidle : ∀ a ∈ idle, ∀ redis, a ≠ .acquire redis saId)
    (hrest : run (limiterStep limit) t idle = some u) (hclock : t.clock + slotLifetime ≤ u.clock) :
    u.counter saId ≤ 0 ∧ (1 ≤ limit saId →
      (acquire .working u.store u.clock saId (limit saId)).1 = .ok ⟨concurrencyKey saId⟩) := by
  have hstart : s.Recovers := fun sa e he ↦ by
    rw [hs.2.2 sa] at he
    cases he
  have hrecovers : t.Recovers := run_preserves LimiterState.Recovers.step hrun hstart
  have hkept : ∀ v a w, RunsOut True v.store (concurrencyKey saId) (t.clock + slotLifetime) →
      (∀ redis, a ≠ .acquire redis saId) → limiterStep limit v a = some w →
      RunsOut True w.store (concurrencyKey saId) (t.clock + slotLifetime) :=
    fun _ _ _ h hother hstep ↦ runsOut_limiterStep h hother hstep
  have hrunsOut := run_invariant hkept (guarded_of_forall t hidle) hrest (hrecovers saId)
  have hcount : u.counter saId ≤ 0 := hrunsOut.count_le hclock
  refine ⟨hcount, fun hlimit ↦ ?_⟩
  have hbelow : count u.store u.clock (concurrencyKey saId) < (limit saId : ℤ) :=
    hcount.trans_lt (by exact_mod_cast hlimit)
  simp only [acquire, luaConcurrencyAcquire_below hbelow, if_true]

/-- The owner of the only permit disappears without a trace.  Two minutes later the account
has its slot again. -/
theorem lost_slots_recovered_one :
    ∃ t u, run (limiterStep fun _ ↦ 1) .initial
        [.acquire .working ⟨⟨1⟩⟩, .giveBack ⟨⟨1⟩⟩, .loseDecr ⟨⟨1⟩⟩] = some t ∧
      run (limiterStep fun _ ↦ 1) t [.tick 60000, .tick 60000] = some u ∧
      t.counter ⟨⟨1⟩⟩ = 1 ∧ (u.counter ⟨⟨1⟩⟩ ≤ 0 ∧ (1 ≤ 1 →
        (acquire .working u.store u.clock ⟨⟨1⟩⟩ 1).1 = .ok ⟨concurrencyKey ⟨⟨1⟩⟩⟩)) := by
  have hlost : (run (limiterStep fun _ ↦ 1) .initial
      [.acquire .working ⟨⟨1⟩⟩, .giveBack ⟨⟨1⟩⟩, .loseDecr ⟨⟨1⟩⟩]).map
        (fun t ↦ (t.clock, t.counter ⟨⟨1⟩⟩)) = some (0, 1) := by decide +kernel
  obtain ⟨t, ht, hstate⟩ := Option.map_eq_some_iff.mp hlost
  obtain ⟨hclock, hcounter⟩ := Prod.mk.inj hstate
  have hidle : ∀ a ∈ [LimiterStep.tick 60000, .tick 60000],
      ∀ redis, a ≠ .acquire redis ⟨⟨1⟩⟩ := by
    intro a ha redis hacquire
    rw [hacquire] at ha
    simp at ha
  refine ⟨t, _, ht, rfl, hcounter, ?_⟩
  refine @lost_slots_recovered (fun _ ↦ 1) _ t _ _ _ ⟨rfl, rfl, fun _ ↦ rfl⟩ ht _ hidle rfl ?_
  simp only [hclock]
  decide

/-! ## Attempts that keep lost slots -/

/-- The account makes an attempt in every two minutes, the last one `idle` before the first
step, and nothing is given back for it.  What its attempts are answered, and what happens to
other accounts, is left open. -/
def keepsTrying (saId : ServiceAccountId) : ℕ → List LimiterStep → Bool
  | _, [] => true
  | idle, .acquire .working b :: rest => keepsTrying saId (if b = saId then 0 else idle) rest
  | idle, .tick ms :: rest =>
      decide (idle + ms < slotLifetime) && keepsTrying saId (idle + ms) rest
  | idle, .decr b :: rest => decide (b ≠ saId) && keepsTrying saId idle rest
  | idle, .acquire (.failing _) _ :: rest | idle, .giveBack _ :: rest
  | idle, .loseDecr _ :: rest => keepsTrying saId idle rest

theorem decrPermit_refreshed_same (store : Store String ℤ) (now : ℕ) (key : String) :
    decrPermit (refreshed store now key) now key key =
      some ⟨count store now key, some (now + slotLifetime)⟩ := by
  have hlookup := lookup_expire (lookup_incrBy store now key 1)
    (show 0 < 1000 * concurrencyKeyTtlSecs by decide)
  have hsame := incrBy_same (refreshed store now key) now key (-1)
  rw [count_refreshed, refreshed, hlookup, Int.add_neg_cancel_right] at hsame
  exact hsame

/-- The counter stands at `taken`, and was renewed `idle` ago or later. -/
def LimiterState.Renewed (saId : ServiceAccountId) (taken : ℤ) (idle : ℕ) (s : LimiterState) :
    Prop :=
  ∃ d, s.store (concurrencyKey saId) = some ⟨taken, some d⟩ ∧
    s.clock + slotLifetime ≤ d + idle

theorem LimiterState.Renewed.counter {saId : ServiceAccountId} {taken : ℤ} {idle : ℕ}
    {s : LimiterState} (h : s.Renewed saId taken idle) (hidle : idle < slotLifetime) :
    s.counter saId = taken := by
  obtain ⟨d, hentry, hd⟩ := h
  exact count_of_deadline hentry (by omega)

/-- An attempt at the limit is refused, and renews the counter if it reaches Redis. -/
theorem LimiterState.Renewed.acquire {limit : ServiceAccountId → ℕ} {s t : LimiterState}
    {saId : ServiceAccountId} (hfull : (limit saId : ℤ) ≤ s.counter saId) {redis : RedisConnection}
    (hstep : limiterStep limit s (.acquire redis saId) = some t) :
    t.live = s.live ∧ (t.store = s.store ∧ redis ≠ .working ∨
      t.Renewed saId (s.counter saId) 0) ∧ t.clock = s.clock := by
  have hscript := luaConcurrencyAcquire_above hfull
  have hrenewed := decrPermit_refreshed_same s.store s.clock (concurrencyKey saId)
  have hle : s.clock + slotLifetime ≤ s.clock + slotLifetime + 0 := Nat.le_add_right _ _
  cases hstep
  match redis with
  | .failing false => exact ⟨rfl, Or.inl ⟨rfl, nofun⟩, rfl⟩
  | .failing true =>
      refine ⟨rfl, Or.inr ⟨s.clock + slotLifetime, ?_, hle⟩, rfl⟩
      simp only [SmartGate.acquire, hscript, if_true]
      exact hrenewed
  | .working =>
      simp only [SmartGate.acquire, hscript, Bool.false_eq_true, if_false]
      exact ⟨trivial, Or.inr ⟨s.clock + slotLifetime, hrenewed, hle⟩, trivial⟩

theorem LimiterState.Renewed.mono {saId : ServiceAccountId} {taken : ℤ} {idle idle' : ℕ}
    {s t : LimiterState} (h : s.Renewed saId taken idle)
    (hstore : t.store (concurrencyKey saId) = s.store (concurrencyKey saId))
    (hclock : t.clock + idle ≤ s.clock + idle') : t.Renewed saId taken idle' := by
  obtain ⟨d, hentry, hd⟩ := h
  exact ⟨d, hstore.trans hentry, by omega⟩

/-- One step of an account that keeps trying, with the time that has passed since its last
attempt. -/
theorem LimiterState.Renewed.step {limit : ServiceAccountId → ℕ} {saId : ServiceAccountId}
    {taken : ℤ} (hfull : (limit saId : ℤ) ≤ taken) {idle : ℕ} (hidle : idle < slotLifetime)
    {s t : LimiterState} (h : s.Renewed saId taken idle) {a : LimiterStep}
    {rest : List LimiterStep} (htrying : keepsTrying saId idle (a :: rest) = true)
    (hstep : limiterStep limit s a = some t) :
    t.live.count saId + [a].count (.giveBack saId) = s.live.count saId ∧
      ∃ idle', idle' < slotLifetime ∧ keepsTrying saId idle' rest = true ∧
        t.Renewed saId taken idle' := by
  have hcounter := h.counter hidle
  cases a with
  | acquire redis b =>
      by_cases hb : b = saId
      · subst hb
        obtain ⟨hlive, hstore, hclock⟩ := LimiterState.Renewed.acquire (hcounter ▸ hfull) hstep
        refine ⟨by simp [hlive], ?_⟩
        rcases hstore with ⟨hstore, hredis⟩ | hrenewed
        · cases redis with
          | working => exact absurd rfl hredis
          | failing executed =>
              exact ⟨idle, hidle, htrying, h.mono (congrFun hstore _) (by omega)⟩
        · rw [hcounter] at hrenewed
          cases redis with
          | working => exact ⟨0, by decide, by simpa [keepsTrying] using htrying, hrenewed⟩
          | failing executed => exact ⟨idle, hidle, htrying, hrenewed.mono rfl (by omega)⟩
      · have hne : concurrencyKey saId ≠ concurrencyKey b := fun heq ↦
          hb (concurrencyKey_injective heq).symm
        have hstore := acquire_ne redis s.store s.clock b (limit b) hne
        have hlive := ((acquire_effect hstep).2 saId (Ne.symm hb))
        cases hstep
        refine ⟨?_, idle, hidle, ?_, h.mono hstore le_rfl⟩
        · have hcount := hlive.1
          simp only [LimiterState.outstanding, Nat.add_right_cancel_iff] at hcount
          simpa using hcount
        · cases redis with
          | working => simpa [keepsTrying, hb] using htrying
          | failing executed => exact htrying
  | giveBack b =>
      simp only [limiterStep, Option.ite_none_right_eq_some, Option.some.injEq] at hstep
      obtain ⟨hmem, rfl⟩ := hstep
      refine ⟨?_, idle, hidle, htrying, h.mono rfl le_rfl⟩
      by_cases hb : b = saId
      · subst hb
        have hpos : 0 < s.live.count b := List.count_pos_iff.mpr hmem
        simp only [List.count_erase_self, List.count_singleton_self]
        omega
      · simp [List.count_erase_of_ne (Ne.symm hb), hb]
  | decr b =>
      simp only [limiterStep, Option.ite_none_right_eq_some, Option.some.injEq] at hstep
      obtain ⟨_, rfl⟩ := hstep
      simp only [keepsTrying, Bool.and_eq_true, decide_eq_true_eq] at htrying
      have hne : concurrencyKey saId ≠ concurrencyKey b := fun heq ↦
        htrying.1 (concurrencyKey_injective heq).symm
      exact ⟨by simp, idle, hidle, htrying.2, h.mono (decrPermit_ne s.store s.clock hne) le_rfl⟩
  | loseDecr b =>
      simp only [limiterStep, Option.ite_none_right_eq_some, Option.some.injEq] at hstep
      obtain ⟨_, rfl⟩ := hstep
      exact ⟨by simp, idle, hidle, htrying, h.mono rfl le_rfl⟩
  | tick ms =>
      cases hstep
      simp only [keepsTrying, Bool.and_eq_true, decide_eq_true_eq] at htrying
      exact ⟨by simp, idle + ms, htrying.1, htrying.2, h.mono rfl (by dsimp only; omega)⟩

theorem LimiterState.Renewed.run {limit : ServiceAccountId → ℕ} {saId : ServiceAccountId}
    {taken : ℤ} (hfull : (limit saId : ℤ) ≤ taken) {steps : List LimiterStep} {idle : ℕ}
    (hidle : idle < slotLifetime) {s u : LimiterState} (h : s.Renewed saId taken idle)
    (htrying : keepsTrying saId idle steps = true)
    (hrun : run (limiterStep limit) s steps = some u) :
    u.live.count saId + steps.count (.giveBack saId) = s.live.count saId ∧
      u.counter saId = taken := by
  induction steps generalizing s idle with
  | nil =>
      cases hrun
      exact ⟨rfl, h.counter hidle⟩
  | cons a rest ih =>
      obtain ⟨t, hstep, hrest⟩ := run_cons_eq_some.mp hrun
      obtain ⟨hlive, idle', hidle', htrying', h'⟩ := h.step hfull hidle htrying hstep
      obtain ⟨hulive, hucounter⟩ := ih hidle' h' htrying' hrest
      have hcount : (a :: rest).count (.giveBack saId) =
          [a].count (.giveBack saId) + rest.count (.giveBack saId) := by
        rw [← List.singleton_append, List.count_append]
      exact ⟨by omega, hucounter⟩

/-- Once the counter is at the limit, an account that tries again at least every two minutes
is refused for ever, even if it holds no permit at all, as long as nothing is given back.
Steps of other accounts and attempts that Redis does not answer may come in between. -/
theorem retries_keep_lost_slots {limit : ServiceAccountId → ℕ} {s u : LimiterState}
    {saId : ServiceAccountId} (hfull : (limit saId : ℤ) ≤ s.counter saId)
    {steps : List LimiterStep} (htrying : keepsTrying saId 0 steps = true)
    (hrun : run (limiterStep limit) s (.acquire .working saId :: steps) = some u) :
    u.live.count saId + steps.count (.giveBack saId) = s.live.count saId ∧
      u.counter saId = s.counter saId := by
  obtain ⟨t, hstep, hrest⟩ := run_cons_eq_some.mp hrun
  obtain ⟨hlive, hstore, _⟩ := LimiterState.Renewed.acquire hfull hstep
  rw [← hlive]
  have hrenewed := hstore.resolve_left fun h ↦ h.2 rfl
  exact hrenewed.run hfull (by decide) htrying hrest

/-- One lost permit, and four attempts in five minutes, while another account is served. -/
theorem retries_keep_lost_slots_three :
    ∃ s u, run (limiterStep fun _ ↦ 1) .initial
        [.acquire .working ⟨⟨1⟩⟩, .giveBack ⟨⟨1⟩⟩, .loseDecr ⟨⟨1⟩⟩] = some s ∧ s.live = [] ∧
      run (limiterStep fun _ ↦ 1) s [.acquire .working ⟨⟨1⟩⟩, .tick 100000,
        .acquire .working ⟨⟨1⟩⟩, .acquire .working ⟨⟨2⟩⟩, .tick 100000, .giveBack ⟨⟨2⟩⟩,
        .decr ⟨⟨2⟩⟩, .acquire (.failing false) ⟨⟨1⟩⟩, .acquire .working ⟨⟨1⟩⟩, .tick 100000,
        .acquire .working ⟨⟨1⟩⟩] = some u ∧
      u.live.count ⟨⟨1⟩⟩ + 0 = s.live.count ⟨⟨1⟩⟩ ∧ u.counter ⟨⟨1⟩⟩ = s.counter ⟨⟨1⟩⟩ := by
  have hlost : ((run (limiterStep fun _ ↦ 1) .initial
      [.acquire .working ⟨⟨1⟩⟩, .giveBack ⟨⟨1⟩⟩, .loseDecr ⟨⟨1⟩⟩]).bind fun s ↦
        (run (limiterStep fun _ ↦ 1) s [.acquire .working ⟨⟨1⟩⟩, .tick 100000,
          .acquire .working ⟨⟨1⟩⟩, .acquire .working ⟨⟨2⟩⟩, .tick 100000, .giveBack ⟨⟨2⟩⟩,
          .decr ⟨⟨2⟩⟩, .acquire (.failing false) ⟨⟨1⟩⟩, .acquire .working ⟨⟨1⟩⟩, .tick 100000,
          .acquire .working ⟨⟨1⟩⟩]).map
        fun _ ↦ (s.live, s.counter ⟨⟨1⟩⟩)) = some ([], 1) := by decide +kernel
  obtain ⟨s, hs, hrest⟩ := Option.bind_eq_some_iff.mp hlost
  obtain ⟨u, hu, hstate⟩ := Option.map_eq_some_iff.mp hrest
  obtain ⟨hlive, hcounter⟩ := Prod.mk.inj hstate
  have hfull : ((1 : ℕ) : ℤ) ≤ s.counter ⟨⟨1⟩⟩ := by
    rw [hcounter]
    decide
  exact ⟨s, u, hs, hlive, hu,
    @retries_keep_lost_slots (fun _ ↦ 1) s u ⟨⟨1⟩⟩ hfull _ (by decide) hu⟩

/-! ## Permits that outlive their counter -/

/-- The counter of the account reaches the end of its life. -/
def counterExpires (saId : ServiceAccountId) (s : LimiterState) : LimiterStep → Bool
  | .tick ms => (s.store (concurrencyKey saId)).any fun e ↦
      e.live s.clock && !e.live (s.clock + ms)
  | .acquire _ _ | .giveBack _ | .decr _ | .loseDecr _ => false

theorem count_acquire_le (redis : RedisConnection) (store : Store String ℤ) (now : ℕ)
    (saId : ServiceAccountId) (limit : ℕ) :
    count (acquire redis store now saId limit).2 now (concurrencyKey saId) ≤
      max (count store now (concurrencyKey saId)) limit := by
  rcases acquire_store redis store now saId limit with hsame | hscript
  · rw [hsame]
    exact le_max_left _ _
  · rw [hscript]
    rcases lt_or_ge (count store now (concurrencyKey saId)) limit with hlt | hge
    · rw [luaConcurrencyAcquire_below hlt, count_refreshed]
      omega
    · rw [luaConcurrencyAcquire_above hge, count_decrPermit, count_refreshed]
      omega

/-- No step but a tick raises a counter above the limit. -/
theorem counter_le_max {limit : ServiceAccountId → ℕ} {s t : LimiterState} {a : LimiterStep}
    (hstep : limiterStep limit s a = some t) (htick : ∀ ms, a ≠ .tick ms)
    (saId : ServiceAccountId) : t.counter saId ≤ max (s.counter saId) (limit saId) := by
  cases a with
  | acquire redis b =>
      by_cases hb : saId = b
      · subst hb
        cases hstep
        exact count_acquire_le redis s.store s.clock saId (limit saId)
      · rw [((acquire_effect hstep).2 saId hb).2]
        exact le_max_left _ _
  | decr b =>
      by_cases hb : saId = b
      · subst hb
        simp only [limiterStep, Option.ite_none_right_eq_some, Option.some.injEq] at hstep
        obtain ⟨_, rfl⟩ := hstep
        have hcount := count_decrPermit s.store s.clock (concurrencyKey saId)
        simp only [LimiterState.counter] at hcount ⊢
        omega
      · rw [((decr_effect hstep).2 saId hb).2]
        exact le_max_left _ _
  | giveBack b | loseDecr b =>
      simp only [limiterStep, Option.ite_none_right_eq_some, Option.some.injEq] at hstep
      obtain ⟨_, rfl⟩ := hstep
      exact le_max_left _ _
  | tick ms => exact absurd rfl (htick ms)

/-- After `n` ends of life, the counter has lost sight of at most `n` times the limit. -/
structure LimiterState.Overlooks (limit : ServiceAccountId → ℕ) (saId : ServiceAccountId) (n : ℕ)
    (s : LimiterState) : Prop where
  covered : (s.outstanding saId : ℤ) ≤ s.counter saId + limit saId * n
  within : s.outstanding saId ≤ limit saId * (n + 1)
  counter : s.counter saId ≤ limit saId

theorem LimiterState.Overlooks.of_effect {limit : ServiceAccountId → ℕ} {saId b : ServiceAccountId}
    {n : ℕ} {s t : LimiterState} (h : s.Overlooks limit saId n)
    (heffect : LimiterEffect limit s t b ∧ ∀ c ≠ b, SameAccount s t c)
    (hcounter : t.counter saId ≤ max (s.counter saId) (limit saId)) :
    t.Overlooks limit saId n := by
  obtain ⟨hcovered, hwithin, hle⟩ := h
  have hcounter' : t.counter saId ≤ limit saId := hcounter.trans (max_le hle le_rfl)
  by_cases hb : saId = b
  · subst hb
    rcases heffect.1 with ⟨hlt, hout, hcount⟩ | ⟨hout, hsum⟩
    · have hmul : limit saId * (n + 1) = limit saId * n + limit saId := Nat.mul_succ _ _
      have hcast : ((limit saId * n : ℕ) : ℤ) = limit saId * n := Nat.cast_mul _ _
      exact ⟨by omega, by omega, hcounter'⟩
    · exact ⟨by omega, hout.trans hwithin, hcounter'⟩
  · obtain ⟨hout, hcount⟩ := heffect.2 saId hb
    exact ⟨by rw [hout, hcount]; exact hcovered, hout ▸ hwithin, hcounter'⟩

theorem counter_tick (s : LimiterState) (ms : ℕ) (saId : ServiceAccountId) :
    LimiterState.counter { s with clock := s.clock + ms } saId = s.counter saId ∨
      LimiterState.counter { s with clock := s.clock + ms } saId = 0 ∧
        counterExpires saId s (.tick ms) = true := by
  rcases count_later s.store (Nat.le_add_right s.clock ms) (concurrencyKey saId) with
    hsame | ⟨hzero, e, he, hdead⟩
  · exact Or.inl hsame
  · cases hlive : e.live s.clock with
    | true => exact Or.inr ⟨hzero, by simp [counterExpires, he, hlive, hdead]⟩
    | false =>
        have hnone : count s.store s.clock (concurrencyKey saId) = 0 :=
          count_eq_zero_of_lookup (lookup_eq_none.mpr fun e' he' ↦ by
            rw [he, Option.some.injEq] at he'
            exact he' ▸ hlive)
        exact Or.inl (hzero.trans hnone.symm)

theorem LimiterState.Overlooks.tick {limit : ServiceAccountId → ℕ} {saId : ServiceAccountId}
    {n : ℕ} {s : LimiterState} (h : s.Overlooks limit saId n) (ms : ℕ) :
    LimiterState.Overlooks limit saId (n + if counterExpires saId s (.tick ms) then 1 else 0)
      { s with clock := s.clock + ms } := by
  obtain ⟨hcovered, hwithin, hle⟩ := h
  rcases counter_tick s ms saId with hsame | ⟨hzero, hexpires⟩
  · have hmono : n ≤ n + if counterExpires saId s (.tick ms) then 1 else 0 := Nat.le_add_right _ _
    have hmul : ((limit saId * n : ℕ) : ℤ) ≤
        (limit saId * (n + if counterExpires saId s (.tick ms) then 1 else 0) : ℕ) :=
      Int.ofNat_le.mpr (Nat.mul_le_mul_left _ hmono)
    refine ⟨?_, hwithin.trans (Nat.mul_le_mul_left _ (Nat.succ_le_succ hmono)), hsame ▸ hle⟩
    rw [hsame]
    rw [Nat.cast_mul, Nat.cast_mul] at hmul
    exact hcovered.trans (Int.add_le_add_left hmul _)
  · rw [hexpires, if_pos rfl]
    have hcast : ((limit saId * (n + 1) : ℕ) : ℤ) = limit saId * (n + 1 : ℕ) := Nat.cast_mul _ _
    refine ⟨?_, hwithin.trans (Nat.mul_le_mul_left _ (Nat.le_succ _)), ?_⟩
    · rw [hzero, zero_add, ← hcast]
      exact Int.ofNat_le.mpr hwithin
    · rw [hzero]
      exact Int.natCast_nonneg _

theorem LimiterState.Overlooks.step {limit : ServiceAccountId → ℕ} {saId : ServiceAccountId}
    (n : ℕ) (s : LimiterState) (l : LimiterStep) (t : LimiterState)
    (h : s.Overlooks limit saId n) (hstep : limiterStep limit s l = some t) :
    t.Overlooks limit saId (n + if counterExpires saId s l then 1 else 0) := by
  cases l with
  | acquire redis b =>
      exact h.of_effect (acquire_effect hstep) (counter_le_max hstep (fun _ ↦ nofun) saId)
  | giveBack b =>
      exact h.of_effect (giveBack_effect hstep) (counter_le_max hstep (fun _ ↦ nofun) saId)
  | decr b =>
      exact h.of_effect (decr_effect hstep) (counter_le_max hstep (fun _ ↦ nofun) saId)
  | loseDecr b =>
      exact h.of_effect (loseDecr_effect hstep) (counter_le_max hstep (fun _ ↦ nofun) saId)
  | tick ms =>
      cases hstep
      exact h.tick ms

theorem LimiterState.Fresh.overlooks {s : LimiterState} (hs : s.Fresh)
    (limit : ServiceAccountId → ℕ) (saId : ServiceAccountId) : s.Overlooks limit saId 0 := by
  have hbounded := hs.bounded limit
  have hcounter : s.counter saId = 0 := by
    refine count_eq_zero_of_lookup (lookup_eq_none.mpr fun e he ↦ ?_)
    rw [hs.2.2 saId] at he
    cases he
  refine ⟨?_, ?_, ?_⟩
  · simpa using hbounded.covered saId
  · simpa using hbounded.within saId
  · rw [hcounter]
    exact Int.natCast_nonneg _

/-- Without any assumption on time: an account holds at most its limit once more than its
counter reached the end of its life. -/
theorem live_permits_le_limit_times_expiries (limit : ServiceAccountId → ℕ) {s u : LimiterState}
    {ls : List LimiterStep} (hs : s.Fresh) (hrun : run (limiterStep limit) s ls = some u)
    (saId : ServiceAccountId) :
    u.live.count saId ≤
      limit saId * (countAlong (limiterStep limit) (counterExpires saId) s ls + 1) := by
  have hfree : Guarded (limiterStep limit) (fun _ _ ↦ True) s ls :=
    guarded_of_forall s fun _ _ ↦ trivial
  have hinv := run_invariant_count (fun n v l w h _ ↦ LimiterState.Overlooks.step n v l w h) hfree
    hrun (hs.overlooks limit saId)
  rw [Nat.zero_add] at hinv
  exact (Nat.le_add_right _ _).trans hinv.within

/-- The bound is reached: two permits under a limit of one, after one end of life. -/
theorem live_permits_le_limit_times_expiries_idle :
    ∃ u, run (limiterStep fun _ ↦ 1) .initial
        [.acquire .working ⟨⟨1⟩⟩, .tick 120000, .acquire .working ⟨⟨1⟩⟩] = some u ∧
      countAlong (limiterStep fun _ ↦ 1) (counterExpires ⟨⟨1⟩⟩) .initial
        [.acquire .working ⟨⟨1⟩⟩, .tick 120000, .acquire .working ⟨⟨1⟩⟩] = 1 ∧
      u.live.count ⟨⟨1⟩⟩ ≤ 1 * (1 + 1) ∧ u.live.count ⟨⟨1⟩⟩ = 2 := by
  have hrun : (run (limiterStep fun _ ↦ 1) .initial
      [.acquire .working ⟨⟨1⟩⟩, .tick 120000, .acquire .working ⟨⟨1⟩⟩]).map LimiterState.live =
      some [⟨⟨1⟩⟩, ⟨⟨1⟩⟩] := by
    decide +kernel
  have hexpired : countAlong (limiterStep fun _ ↦ 1) (counterExpires ⟨⟨1⟩⟩) .initial
      [.acquire .working ⟨⟨1⟩⟩, .tick 120000, .acquire .working ⟨⟨1⟩⟩] = 1 := by
    decide +kernel
  obtain ⟨u, hu, hlive⟩ := Option.map_eq_some_iff.mp hrun
  refine ⟨u, hu, hexpired, ?_, by rw [hlive]; decide⟩
  have hle := live_permits_le_limit_times_expiries (fun _ ↦ 1) ⟨rfl, rfl, fun _ ↦ rfl⟩ hu ⟨⟨1⟩⟩
  rwa [hexpired] at hle

end SmartGate
