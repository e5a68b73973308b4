import ChromiumAdblock.Cosmetic.NamesQueried

/-! The throttle of the queries.  Seen from its variables and its timer, the script is the limiter
of the library: it keeps the distance between queries exactly when no batch comes too soon after a
firing of the timer, which does not move the next allowed time. -/

namespace ChromiumAdblock

open EventMachine Throttle

namespace SelectorQueries

variable {ν : Type} {config : SelectorsConfig} {dom : Dom ν} {s t u : SelectorQueries ν}

/-- The variables of the throttle and its timers are the same. -/
structure SameThrottle (s t : SelectorQueries ν) : Prop where
  next : t.nextFetchNewClassIdRulesCall = s.nextFetchNewClassIdRulesCall
  timeoutId : t.fetchNewClassIdRulesTimeoutId = s.fetchNewClassIdRulesTimeoutId
  timeouts : t.timeouts = s.timeouts
  executions : t.executions = s.executions
  clock : t.clock = s.clock

theorem SameThrottle.refl (s : SelectorQueries ν) : SameThrottle s s := ⟨rfl, rfl, rfl, rfl, rfl⟩

theorem SameThrottle.trans (h : SameThrottle s t) (h' : SameThrottle t u) : SameThrottle s u where
  next := h'.next.trans h.next
  timeoutId := h'.timeoutId.trans h.timeoutId
  timeouts := h'.timeouts.trans h.timeouts
  executions := h'.executions.trans h.executions
  clock := h'.clock.trans h.clock

theorem SameThrottle.of_steering (h : t.steering = s.steering) : SameThrottle s t where
  next := (congrArg nextFetchNewClassIdRulesCall h :)
  timeoutId := (congrArg fetchNewClassIdRulesTimeoutId h :)
  timeouts := (congrArg SelectorQueries.timeouts h :)
  executions := (congrArg SelectorQueries.executions h :)
  clock := (congrArg SelectorQueries.clock h :)

theorem checkMutationScore_same (m : Moment ν) (observer mutationScore : Nat) :
    SameThrottle s (s.checkMutationScore config m observer mutationScore) := by
  have hscore : SameThrottle s (s.addMutationScore m.performanceNow mutationScore) :=
    .of_steering (addMutationScore_steering _ _)
  unfold checkMutationScore
  split
  · exact .refl s
  · simp only
    split
    · exact hscore.trans ⟨rfl, rfl, rfl, rfl, rfl⟩
    · exact hscore

theorem queryAttrsFromDocument_same (m : Moment ν) (time : Option ℚ) :
    SameThrottle s (s.queryAttrsFromDocument m time) := by
  have hqueried := SameThrottle.of_steering (queryDocument_steering (s := s) m)
  unfold queryAttrsFromDocument
  cases time with
  | none => exact hqueried
  | some time =>
    simp only
    split
    · exact hqueried.trans ⟨rfl, rfl, rfl, rfl, rfl⟩
    · exact hqueried

/-! The throttle as a limiter. -/

/-- What an event is to the limiter. -/
def throttleCall : SelectorEvent ν → Call ℚ
  | .onMutations m _ _ => if m.generichide then .pass m.performanceNow else .batch m.performanceNow
  | .timeout m _ => .fires m.performanceNow
  | .startObserving m | .pollingTick m _ => .pass m.performanceNow

def limiter (s : SelectorQueries ν) : Limiter ℚ where
  next := s.nextFetchNewClassIdRulesCall
  timer := s.timeouts.head?.map Timeout.due
  executions := s.executions
  clock := s.clock

/-- No timer is set and none is known, or one is set and known. -/
def OneTimer (s : SelectorQueries ν) : Prop :=
  (s.timeouts = [] ∧ s.fetchNewClassIdRulesTimeoutId = none) ∨
    ∃ timeout, s.timeouts = [timeout] ∧ s.fetchNewClassIdRulesTimeoutId = some timeout.id

theorem OneTimer.of_same (h : OneTimer s) (hsame : SameThrottle s t) : OneTimer t := by
  unfold OneTimer
  rw [hsame.timeouts, hsame.timeoutId]
  exact h

/-- The limiter of a state does not see what does not concern the throttle. -/
theorem limiter_of_same (hsame : SameThrottle s t) : t.limiter = s.limiter := by
  unfold limiter
  simp only [hsame.next, hsame.timeouts, hsame.executions, hsame.clock]

theorem limiter_later (hsame : SameThrottle s t) (now : ℚ) :
    limiter { t with clock := now } = { limiter s with clock := now } := by
  rw [← limiter_of_same hsame]
  rfl

variable {wait : ℚ}

/-! What a batch does, by the state that it finds. -/

section Batch

variable {m : Moment ν}

theorem throttled_of_timer (hwait : config.fetchNewClassIdRulesThrottlingMs = some wait)
    (hgeneric : m.generichide = false) (htimer : s.fetchNewClassIdRulesTimeoutId.isSome = true) :
    s.fetchUnlessThrottled config m = s := by
  unfold fetchUnlessThrottled shouldThrottleFetchNewClassIdsRules
  simp only [hgeneric, hwait, if_pos htimer]
  rfl

theorem throttled_until (hwait : config.fetchNewClassIdRulesThrottlingMs = some wait)
    (hgeneric : m.generichide = false) (htimer : s.fetchNewClassIdRulesTimeoutId = none)
    (hnext : m.performanceNow < s.nextFetchNewClassIdRulesCall) :
    s.fetchUnlessThrottled config m =
      { s with
        lastHandle := s.lastHandle + 1
        timeouts := s.timeouts ++ [⟨s.lastHandle + 1, s.nextFetchNewClassIdRulesCall⟩]
        fetchNewClassIdRulesTimeoutId := some (s.lastHandle + 1) } := by
  have hdue : m.performanceNow + (s.nextFetchNewClassIdRulesCall - m.performanceNow) =
      s.nextFetchNewClassIdRulesCall := add_sub_cancel _ _
  unfold fetchUnlessThrottled shouldThrottleFetchNewClassIdsRules
  simp only [hgeneric, hwait, htimer, gt_iff_lt, sub_pos, if_pos hnext, hdue]
  rfl

theorem not_throttled (hwait : config.fetchNewClassIdRulesThrottlingMs = some wait)
    (hgeneric : m.generichide = false) (htimer : s.fetchNewClassIdRulesTimeoutId = none)
    (hnext : ¬m.performanceNow < s.nextFetchNewClassIdRulesCall) :
    s.fetchUnlessThrottled config m =
      ({ s with nextFetchNewClassIdRulesCall := m.performanceNow + wait }.logExecution
        m.performanceNow false).fetchNewClassIdRules m.dom := by
  unfold fetchUnlessThrottled shouldThrottleFetchNewClassIdsRules
  simp only [hgeneric, hwait, htimer, gt_iff_lt, sub_pos, if_neg hnext]
  rfl

end Batch

theorem fetched_oneTimer (hnone : s.timeouts = []) (hid : s.fetchNewClassIdRulesTimeoutId = none) :
    OneTimer (s.fetchNewClassIdRules dom) :=
  OneTimer.of_same (.inl ⟨hnone, hid⟩) (.of_steering fetchNewClassIdRules_steering)

theorem fetchUnlessThrottled_limiter (hwait : config.fetchNewClassIdRulesThrottlingMs = some wait)
    (h : OneTimer s) {m : Moment ν} (hgeneric : m.generichide = false) :
    OneTimer (s.fetchUnlessThrottled config m) ∧
      limiter { s.fetchUnlessThrottled config m with clock := m.performanceNow } =
        s.limiter.step wait (.batch m.performanceNow) := by
  rcases h with ⟨hnone, hid⟩ | ⟨timeout, hone, hid⟩
  · have htimer : s.limiter.timer = none := by simp [limiter, hnone]
    by_cases hnext : m.performanceNow < s.nextFetchNewClassIdRulesCall
    · rw [throttled_until hwait hgeneric hid hnext, step_schedules htimer hnext]
      refine ⟨.inr ⟨_, by rw [hnone]; rfl, rfl⟩, ?_⟩
      simp [limiter, hnone]
    · rw [not_throttled hwait hgeneric hid hnext, step_runs htimer (not_lt.mp hnext)]
      refine ⟨fetched_oneTimer hnone hid, ?_⟩
      rw [limiter_later (.of_steering fetchNewClassIdRules_steering)]
      rfl
  · rw [throttled_of_timer hwait hgeneric (by simp [hid]), step_waits (by simp [limiter, hone])]
    exact ⟨.inr ⟨timeout, hone, hid⟩, rfl⟩

theorem onTimeout_limiter (wait : ℚ) (h : OneTimer s) {m : Moment ν} {id : Nat}
    (htimer : ∃ timeout ∈ s.timeouts, timeout.id = id ∧ timeout.due ≤ m.performanceNow) :
    OneTimer (s.onTimeout m id) ∧
      limiter { s.onTimeout m id with clock := m.performanceNow } =
        s.limiter.step wait (.fires m.performanceNow) ∧
      ∃ due, s.limiter.timer = some due ∧ due ≤ m.performanceNow := by
  obtain ⟨timeout, hmem, rfl, hdue⟩ := htimer
  rcases h with ⟨hnone, -⟩ | ⟨timeout', hone, -⟩
  · rw [hnone] at hmem
    contradiction
  · rw [hone] at hmem
    obtain rfl := List.mem_singleton.mp hmem
    have hleft : s.timeouts.filter (·.id ≠ timeout.id) = [] := by simp [hone]
    refine ⟨fetched_oneTimer hleft rfl, ?_, timeout.due, by simp [limiter, hone], hdue⟩
    unfold onTimeout
    rw [limiter_later (.of_steering fetchNewClassIdRules_steering)]
    simp only [limiter, logExecution, hleft]
    rfl

theorem step_limiter (hwait : config.fetchNewClassIdRulesThrottlingMs = some wait) (h : OneTimer s)
    {e : SelectorEvent ν} (enabled : s.Enabled e) :
    OneTimer (s.step config e) ∧ s.limiter.Enabled (throttleCall e) ∧
      (s.step config e).limiter = s.limiter.step wait (throttleCall e) := by
  obtain ⟨hclock, henabled⟩ := enabled
  cases e with
  | startObserving m =>
    have hsame : SameThrottle s (s.startObserving m) :=
      (queryAttrsFromDocument_same m none).trans ⟨rfl, rfl, rfl, rfl, rfl⟩
    exact ⟨(h.of_same hsame :),
      ⟨hclock, trivial⟩, limiter_later hsame _⟩
  | onMutations m mutations observer =>
    have hsame : SameThrottle s ((s.queueAttrsFromMutations m.dom mutations).1.checkMutationScore
        config m observer (s.queueAttrsFromMutations m.dom mutations).2) :=
      (SameThrottle.of_steering (queueAttrsFromMutations_steering m.dom (s, 0) mutations)).trans
        (checkMutationScore_same m observer _)
    cases hgeneric : m.generichide with
    | true =>
      have hignored : s.onMutations config m mutations observer =
          (s.queueAttrsFromMutations m.dom mutations).1.checkMutationScore config m observer
            (s.queueAttrsFromMutations m.dom mutations).2 := if_pos hgeneric
      have hcall : throttleCall (.onMutations m mutations observer) = .pass m.performanceNow :=
        if_pos hgeneric
      rw [hcall, step, handle, hignored]
      exact ⟨(h.of_same hsame :),
        ⟨hclock, trivial⟩, limiter_later hsame _⟩
    | false =>
      have hcall : throttleCall (.onMutations m mutations observer) = .batch m.performanceNow :=
        if_neg (by simp [hgeneric])
      rw [hcall]
      obtain ⟨hone, hstep⟩ := fetchUnlessThrottled_limiter hwait (h.of_same hsame) hgeneric
      rw [limiter_of_same hsame] at hstep
      exact ⟨hone, ⟨hclock, trivial⟩, hstep⟩
  | timeout m id =>
    obtain ⟨hone, hstep, hdue⟩ := onTimeout_limiter wait h henabled
    exact ⟨hone, ⟨hclock, hdue⟩, hstep⟩
  | pollingTick m interval =>
    have hsame := queryAttrsFromDocument_same (s := s) m (some interval.futureTimeMs)
    exact ⟨(h.of_same hsame :),
      ⟨hclock, trivial⟩, limiter_later hsame _⟩

theorem run_limiter (hwait : config.fetchNewClassIdRulesThrottlingMs = some wait)
    {es : List (SelectorEvent ν)} (run : Run (machine config) s es t) (h : OneTimer s) :
    OneTimer t ∧ Run (Limiter.machine wait) s.limiter (es.map throttleCall) t.limiter := by
  induction run with
  | nil s => exact ⟨h, .nil _⟩
  | cons enabled step _ ih =>
    obtain rfl := Except.ok.inj step
    obtain ⟨hone, hcall, hstep⟩ := step_limiter hwait h enabled
    obtain ⟨hlast, hrest⟩ := ih hone
    exact ⟨hlast, .cons hcall (congrArg Except.ok hstep.symm) hrest⟩

theorem loaded_oneTimer (loadTime : ℚ) : OneTimer (loaded loadTime : SelectorQueries ν) :=
  .inl ⟨rfl, rfl⟩

/-- The law of the throttle over a run: executions are apart, there is never more than one timer,
and each batch is followed by an execution at its time or leaves a timer set. -/
structure ThrottleLaw (config : SelectorsConfig) (wait loadTime : ℚ) (es : List (SelectorEvent ν))
    (s : SelectorQueries ν) : Prop where
  spaced : Spaced wait s.executions
  oneTimer : ∀ before after u, es = before ++ after →
    Run (machine config) (loaded loadTime) before u → u.timeouts.length ≤ 1
  served : ∀ before m mutations observer after u,
    es = before ++ .onMutations m mutations observer :: after →
    Run (machine config) (loaded loadTime) before u → m.generichide = false →
    ⟨m.performanceNow, false⟩ ∈ (u.onMutations config m mutations observer).executions ∨
      (u.onMutations config m mutations observer).timeouts ≠ []

theorem OneTimer.length_le (h : OneTimer s) : s.timeouts.length ≤ 1 := by
  rcases h with ⟨hnone, -⟩ | ⟨timeout, hone, -⟩
  · simp [hnone]
  · simp [hone]

/-- A batch is followed by an execution at its time, or leaves a timer set. -/
theorem batch_served (hwait : config.fetchNewClassIdRulesThrottlingMs = some wait) (h : OneTimer s)
    {m : Moment ν} (hgeneric : m.generichide = false) :
    ⟨m.performanceNow, false⟩ ∈ (s.fetchUnlessThrottled config m).executions ∨
      (s.fetchUnlessThrottled config m).timeouts ≠ [] := by
  rcases h with ⟨-, hid⟩ | ⟨timeout, hone, hid⟩
  · by_cases hnext : m.performanceNow < s.nextFetchNewClassIdRulesCall
    · rw [throttled_until hwait hgeneric hid hnext]
      exact .inr (by simp)
    · have hsame (u : SelectorQueries ν) :
          (u.fetchNewClassIdRules m.dom).executions = u.executions :=
        (SameThrottle.of_steering fetchNewClassIdRules_steering).executions
      rw [not_throttled hwait hgeneric hid hnext, hsame]
      exact .inl (by simp [logExecution])
  · rw [throttled_of_timer hwait hgeneric (by simp [hid]), hone]
    exact .inr (by simp)

theorem onMutations_served (hwait : config.fetchNewClassIdRulesThrottlingMs = some wait)
    (h : OneTimer s) {m : Moment ν} (hgeneric : m.generichide = false)
    (mutations : List (MutationRecord ν)) (observer : Nat) :
    ⟨m.performanceNow, false⟩ ∈ (s.onMutations config m mutations observer).executions ∨
      (s.onMutations config m mutations observer).timeouts ≠ [] := by
  have hsame : SameThrottle s ((s.queueAttrsFromMutations m.dom mutations).1.checkMutationScore
      config m observer (s.queueAttrsFromMutations m.dom mutations).2) :=
    (SameThrottle.of_steering (queueAttrsFromMutations_steering m.dom (s, 0) mutations)).trans
      (checkMutationScore_same m observer _)
  exact batch_served hwait (h.of_same hsame) hgeneric

/-- The law holds of a run exactly when the first batch after each firing of the timer comes late
enough. -/
theorem throttleLaw_iff (hwait : config.fetchNewClassIdRulesThrottlingMs = some wait)
    {loadTime : ℚ} {es : List (SelectorEvent ν)}
    (run : Run (machine config) (loaded loadTime) es s) :
    ThrottleLaw config wait loadTime es s ↔ OnTime wait none (es.map throttleCall) := by
  obtain ⟨-, hrun⟩ := run_limiter hwait run (loaded_oneTimer loadTime)
  have hstart : Throttle.Inv wait none (loaded loadTime : SelectorQueries ν).limiter := by
    refine ⟨fun x hx => ?_, fun _ => ⟨fun x hx => ?_, fun due hdue => ?_⟩, nofun⟩
    · exact absurd hx List.not_mem_nil
    · exact absurd hx List.not_mem_nil
    · exact absurd hdue nofun
  rw [← spaced_iff_onTime hrun hstart List.Pairwise.nil]
  constructor
  · intro h
    exact h.spaced
  · intro h
    refine ⟨h, ?_, ?_⟩
    · intro before after u _ first
      exact (run_limiter hwait first (loaded_oneTimer loadTime)).1.length_le
    · intro before m mutations observer after u _ first hgeneric
      exact onMutations_served hwait (run_limiter hwait first (loaded_oneTimer loadTime)).1 hgeneric
        mutations observer

section Runs

def throttled : SelectorsConfig where
  fetchNewClassIdRulesThrottlingMs := some 1000

def batchAt (time : ℚ) : SelectorEvent Nat := .onMutations (smallPageAt time) [.childList [2]] 1

/-- The timer fires at 1000, and its function runs; a batch a millisecond later runs it again. -/
theorem batch_after_timer_runs : ∃ s : SelectorQueries Nat,
    Run (machine throttled) (loaded 0) [.startObserving (smallPageAt 0), batchAt 0, batchAt 500,
      .timeout (smallPageAt 1000) 2, batchAt 1001] s ∧ ¬Spaced 1000 s.executions := by
  obtain ⟨s, run, hs⟩ := Machine.exists_run (machine throttled) (loaded 0)
    [.startObserving (smallPageAt 0), batchAt 0, batchAt 500, .timeout (smallPageAt 1000) 2,
      batchAt 1001] (fun s => s.executions = [⟨0, false⟩, ⟨1000, true⟩, ⟨1001, false⟩])
    (by decide +kernel)
  refine ⟨s, run, ?_⟩
  rw [of_decide_eq_true hs]
  unfold Spaced
  decide +kernel

/-- A batch a second after the firing keeps the law. -/
theorem late_batch_keeps_law : ∃ s : SelectorQueries Nat,
    Run (machine throttled) (loaded 0) [.startObserving (smallPageAt 0), batchAt 0, batchAt 500,
      .timeout (smallPageAt 1000) 2, batchAt 2000] s ∧
    ThrottleLaw throttled 1000 0 [.startObserving (smallPageAt 0), batchAt 0, batchAt 500,
      .timeout (smallPageAt 1000) 2, batchAt 2000] s := by
  obtain ⟨s, run, -⟩ := Machine.exists_run (machine throttled) (loaded 0)
    [.startObserving (smallPageAt 0), batchAt 0, batchAt 500, .timeout (smallPageAt 1000) 2,
      batchAt 2000] (fun _ => true) (by decide +kernel)
  refine ⟨s, run, (throttleLaw_iff rfl run).mpr ?_⟩
  have hlate : (1000 : ℚ) + 1000 ≤ 2000 := by decide +kernel
  simp [throttleCall, batchAt, smallPageAt, OnTime, hlate]

end Runs

end SelectorQueries

end ChromiumAdblock
