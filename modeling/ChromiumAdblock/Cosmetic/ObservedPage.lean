import ChromiumAdblock.Cosmetic.FetchThrottle

/-! When a document is observed.  `content_cosmetic.ts` schedules the start once, whoever calls it:
when the page is idle, and in a sub-frame some time after that.  A page with `generichide` is
observed only for its procedural actions.  Once it is observed, a document has one watcher, which is
an observer or a polling interval. -/

namespace ChromiumAdblock

open EventMachine SendOnce

/-- The values of `window.content_cosmetic` that the init script sets, with the delay of the first
query, which only sub-frames have. -/
structure ObservingConfig extends SelectorsConfig where
  firstSelectorsPollingDelayMs : Option ℚ := none

/-- The values of `window.content_cosmetic` that say whether observing starts. -/
structure ContentCosmetic where
  generichide : Option Bool := none
  hasProceduralActions : Bool := false
  observingHasStarted : Bool := false
  hasDelayOcurred : Bool := false
  startCheckingId : Option Nat := none
deriving DecidableEq

/-- A callback that was given to `requestIdleCallback`, with the `genericHide` that it keeps. -/
structure IdleCallback where
  id : Nat
  genericHide : Bool
deriving DecidableEq

/-- A document in the isolated world: the callbacks and the timers that will start observing, how
often `startObserving` ran, and the variables of the script, once the bundle ran. -/
structure ObservedPage (ν : Type) where
  contentCosmetic : ContentCosmetic := {}
  lastIdleId : Nat := 0
  idleCallbacks : List IdleCallback := []
  startTimers : List ℚ := []
  starts : Nat := 0
  queries : Option (SelectorQueries ν) := none

/-- What happens to the document: the four scripts that `ApplyRules` may run, a callback or a timer
that starts observing, and what the script hears while it observes. -/
inductive PageEvent (ν : Type)
  | init (generichide : Bool)
  | proceduralActions (hasProceduralActions : Bool)
  | bundle (performanceNow : ℚ)
  | entryPoint
  | idle (m : Moment ν)
  | startTimer (m : Moment ν) (due : ℚ)
  | script (e : SelectorEvent ν)

/-- Whether an event is the start of observing. -/
def SelectorEvent.isStart {ν : Type} : SelectorEvent ν → Bool
  | .startObserving _ => true
  | _ => false

namespace ObservedPage

variable {ν : Type} (config : ObservingConfig)

def scheduleQueuePump (genericHide : Bool) (s : ObservedPage ν) : ObservedPage ν :=
  if s.contentCosmetic.hasDelayOcurred then s
  else if s.contentCosmetic.startCheckingId.isSome then s
  else
    { s with
      contentCosmetic.startCheckingId := some (s.lastIdleId + 1)
      lastIdleId := s.lastIdleId + 1
      idleCallbacks := s.idleCallbacks ++ [⟨s.lastIdleId + 1, genericHide⟩] }

def tryScheduleQueuePump (s : ObservedPage ν) : ObservedPage ν :=
  if !s.contentCosmetic.observingHasStarted then
    scheduleQueuePump (s.contentCosmetic.generichide.getD false)
      { s with contentCosmetic.observingHasStarted := true }
  else s.scheduleQueuePump false

/-- The init script sets `generichide` where it is undefined. -/
def runInitScript (generichide : Bool) (s : ObservedPage ν) : ObservedPage ν :=
  if s.contentCosmetic.generichide.isNone then
    { s with contentCosmetic.generichide := some generichide }
  else s

/-- The bundle sets its variables up and schedules the start. -/
def runBundle (performanceNow : ℚ) (s : ObservedPage ν) : ObservedPage ν :=
  tryScheduleQueuePump { s with queries := some (.loaded performanceNow) }

def startObserving (m : Moment ν) (s : ObservedPage ν) : ObservedPage ν :=
  { s with
    starts := s.starts + 1
    queries := s.queries.map fun q => q.step config.toSelectorsConfig (.startObserving m) }

/-- The callback of `scheduleQueuePump`. -/
def runIdleCallback (m : Moment ν) (s : ObservedPage ν) : ObservedPage ν :=
  match s.idleCallbacks with
  | [] => s
  | callback :: rest =>
    let s := { s with
      idleCallbacks := rest
      contentCosmetic.hasDelayOcurred := true }
    if !callback.genericHide || s.contentCosmetic.hasProceduralActions then
      match config.firstSelectorsPollingDelayMs with
      | none => s.startObserving config m
      | some delay => { s with startTimers := s.startTimers ++ [m.performanceNow + delay] }
    else s

def step (s : ObservedPage ν) : PageEvent ν → ObservedPage ν
  | .init generichide => s.runInitScript generichide
  | .proceduralActions hasProceduralActions =>
    { s with contentCosmetic.hasProceduralActions := hasProceduralActions }
  | .bundle performanceNow => s.runBundle performanceNow
  | .entryPoint => s.tryScheduleQueuePump
  | .idle m => s.runIdleCallback config m
  | .startTimer m due =>
    startObserving config m { s with startTimers := s.startTimers.erase due }
  | .script e => { s with queries := s.queries.map fun q => q.step config.toSelectorsConfig e }

/-- What the script reads at a moment is what `window.content_cosmetic` says, and time goes on. -/
def Reads (s : ObservedPage ν) (m : Moment ν) : Prop :=
  m.generichide = s.contentCosmetic.generichide.getD false ∧
    ∀ q ∈ s.queries, q.clock ≤ m.performanceNow

/-- The handler runs the init script before the others, and the bundle once in a document; only the
callback and the timer start observing. -/
def Enabled (s : ObservedPage ν) : PageEvent ν → Prop
  | .init _ => True
  | .proceduralActions _ => s.contentCosmetic.generichide.isSome = true
  | .bundle _ => s.contentCosmetic.generichide.isSome = true ∧ s.queries.isNone = true
  | .entryPoint => s.queries.isSome = true
  | .idle m => s.idleCallbacks ≠ [] ∧ s.Reads m
  | .startTimer m due => due ∈ s.startTimers ∧ due ≤ m.performanceNow ∧ s.Reads m
  | .script e => e.isStart = false ∧ s.Reads e.moment ∧ ∃ q ∈ s.queries, q.Enabled e

instance (s : ObservedPage ν) (m : Moment ν) : Decidable (s.Reads m) := by
  unfold Reads; infer_instance

instance (s : ObservedPage ν) (e : PageEvent ν) : Decidable (s.Enabled e) := by
  cases e <;> unfold Enabled <;> infer_instance

def machine : Machine (ObservedPage ν) (PageEvent ν) Empty where
  enabled := Enabled
  step s e := .ok (s.step config e)

instance (s : ObservedPage ν) (e : PageEvent ν) : Decidable ((machine config).enabled s e) :=
  inferInstanceAs (Decidable (s.Enabled e))

/-- How many observers and polling intervals the document has. -/
def watchers (s : ObservedPage ν) : Nat :=
  s.queries.elim 0 fun q => q.observers.length + q.intervals.length

end ObservedPage

/-! The watchers of a document, for the proofs about runs. -/

namespace SelectorQueries

variable {ν : Type} {config : SelectorsConfig} {dom : Dom ν} {s t u : SelectorQueries ν}

/-- The observers and the intervals are the same. -/
structure SameWatchers (s t : SelectorQueries ν) : Prop where
  observers : t.observers = s.observers
  intervals : t.intervals = s.intervals
  intervalId : t.selectorsPollingIntervalId = s.selectorsPollingIntervalId

theorem SameWatchers.refl (s : SelectorQueries ν) : SameWatchers s s := ⟨rfl, rfl, rfl⟩

theorem SameWatchers.trans (h : SameWatchers s t) (h' : SameWatchers t u) : SameWatchers s u where
  observers := h'.observers.trans h.observers
  intervals := h'.intervals.trans h.intervals
  intervalId := h'.intervalId.trans h.intervalId

theorem SameWatchers.of_steering (h : t.steering = s.steering) : SameWatchers s t where
  observers := (congrArg SelectorQueries.observers h :)
  intervals := (congrArg SelectorQueries.intervals h :)
  intervalId := (congrArg selectorsPollingIntervalId h :)

theorem fetchUnlessThrottled_watchers (m : Moment ν) :
    SameWatchers s (s.fetchUnlessThrottled config m) := by
  have hthrottle : SameWatchers s
      (s.shouldThrottleFetchNewClassIdsRules config m.performanceNow).1 := by
    unfold shouldThrottleFetchNewClassIdsRules
    split
    · exact .refl s
    · split
      · exact .refl s
      · simp only
        split <;> exact ⟨rfl, rfl, rfl⟩
  unfold fetchUnlessThrottled
  split
  · exact .refl s
  · split
    · rename_i s' hthrottled
      rw [hthrottled] at hthrottle
      exact hthrottle
    · rename_i s' hthrottled
      rw [hthrottled] at hthrottle
      have hlogged : SameWatchers s (s'.logExecution m.performanceNow false) :=
        hthrottle.trans ⟨rfl, rfl, rfl⟩
      exact hlogged.trans (.of_steering fetchNewClassIdRules_steering)

/-- The document has one watcher, and an interval that watches is the one that will be cleared. -/
inductive Watched (s : SelectorQueries ν) : Prop
  | observer (id : Nat) (observers : s.observers = [id]) (intervals : s.intervals = [])
  | interval (interval : PollingInterval) (observers : s.observers = [])
      (intervals : s.intervals = [interval])
      (intervalId : s.selectorsPollingIntervalId = some interval.id)

/-- Nothing watches the document, and no timer of the script is set. -/
structure Unwatched (s : SelectorQueries ν) : Prop where
  observers : s.observers = []
  intervals : s.intervals = []
  timeouts : s.timeouts = []

theorem Watched.of_same (h : Watched s) (hsame : SameWatchers s t) : Watched t := by
  cases h with
  | observer id observers intervals =>
    exact .observer id (hsame.observers.trans observers) (hsame.intervals.trans intervals)
  | interval interval observers intervals intervalId =>
    exact .interval interval (hsame.observers.trans observers) (hsame.intervals.trans intervals)
      (hsame.intervalId.trans intervalId)

/-- A watched document that turns to an observer has no interval left. -/
theorem Watched.useMutationObserver (h : Watched s) {interval : PollingInterval}
    (hticks : interval ∈ s.intervals) : Watched s.useMutationObserver := by
  cases h with
  | observer id observers intervals => simp [intervals] at hticks
  | interval interval observers intervals intervalId =>
    apply Watched.observer (s.lastHandle + 1)
    · simp [SelectorQueries.useMutationObserver, observers]
    · simp [SelectorQueries.useMutationObserver, intervals, intervalId]

theorem Watched.usePolling (h : Watched s) (m : Moment ν) {observer : Nat}
    (hreports : observer ∈ s.observers) : Watched (s.usePolling m observer) := by
  cases h with
  | observer id observers intervals =>
    obtain rfl : observer = id := by simpa [observers] using hreports
    refine .interval ⟨s.lastHandle + 1, m.dateNow + returnToMutationObserverIntervalMs⟩ ?_ ?_ rfl
    · simp [SelectorQueries.usePolling, observers]
    · simp [SelectorQueries.usePolling, intervals]
  | interval interval observers intervals intervalId => simp [observers] at hreports

theorem Watched.checkMutationScore (h : Watched s) (m : Moment ν) {observer : Nat}
    (config : SelectorsConfig) (mutationScore : Nat) (hreports : observer ∈ s.observers) :
    Watched (s.checkMutationScore config m observer mutationScore) := by
  have hscore : SameWatchers s (s.addMutationScore m.performanceNow mutationScore) :=
    .of_steering (addMutationScore_steering _ _)
  unfold SelectorQueries.checkMutationScore
  split
  · exact h
  · simp only
    split
    · exact (h.of_same hscore).usePolling m (by rwa [hscore.observers])
    · exact h.of_same hscore

/-- One watcher is kept by whatever the script hears after the start. -/
theorem Watched.step (h : Watched s) {e : SelectorEvent ν} (henabled : s.Enabled e)
    (hstart : e.isStart = false) : Watched (s.step config e) := by
  suffices hhandled : Watched (s.handle config e) from hhandled.of_same ⟨rfl, rfl, rfl⟩
  cases e with
  | startObserving m => simp [SelectorEvent.isStart] at hstart
  | onMutations m mutations observer =>
    have hqueued := SameWatchers.of_steering
      (queueAttrsFromMutations_steering m.dom (s, 0) mutations)
    have hchecked := (h.of_same hqueued).checkMutationScore m config
      (mutations.foldl (queueAttrsFromMutation m.dom) (s, 0)).2
      (by rw [hqueued.observers]; exact henabled.2)
    exact hchecked.of_same (fetchUnlessThrottled_watchers m)
  | timeout m id =>
    have hfired : Watched ({ s with
        timeouts := s.timeouts.filter (·.id ≠ id)
        fetchNewClassIdRulesTimeoutId := none }.logExecution m.performanceNow true) :=
      h.of_same ⟨rfl, rfl, rfl⟩
    exact hfired.of_same (.of_steering fetchNewClassIdRules_steering)
  | pollingTick m interval =>
    have hqueried := SameWatchers.of_steering (queryDocument_steering (s := s) m)
    have hwatched := h.of_same hqueried
    simp only [handle, queryAttrsFromDocument]
    split
    · exact hwatched.useMutationObserver (by rw [hqueried.intervals]; exact henabled.2)
    · exact hwatched

/-- The start makes the first observer the watcher. -/
theorem Unwatched.startObserving (h : Unwatched s) (m : Moment ν) :
    Watched (s.step config (.startObserving m)) := by
  have hqueried : SameWatchers s (s.queryAttrsFromDocument m none) :=
    .of_steering (queryDocument_steering m)
  apply Watched.observer ((s.queryAttrsFromDocument m none).lastHandle + 1)
  · show (s.queryAttrsFromDocument m none).observers ++ [_] = _
    rw [hqueried.observers, h.observers]
    rfl
  · show (s.queryAttrsFromDocument m none).intervals.filter _ = _
    rw [hqueried.intervals, h.intervals]
    rfl

/-- An unwatched document hears nothing until the start. -/
theorem Unwatched.not_enabled (h : Unwatched s) {e : SelectorEvent ν} (hstart : e.isStart = false) :
    ¬s.Enabled e := by
  intro henabled
  cases e with
  | startObserving m => simp [SelectorEvent.isStart] at hstart
  | onMutations m mutations observer => simp [Enabled, h.observers] at henabled
  | timeout m id => simp [Enabled, h.timeouts] at henabled
  | pollingTick m interval => simp [Enabled, h.intervals] at henabled

/-- Nothing was passed on, and no timer will pass anything on. -/
structure Silent (s : SelectorQueries ν) : Prop where
  ids : s.ids.sent = []
  classes : s.classes.sent = []
  timeouts : s.timeouts = []

theorem queueAttrsFromMutation_sent (dom : Dom ν) (s : SelectorQueries ν × Nat)
    (mutation : MutationRecord ν) :
    (queueAttrsFromMutation dom s mutation).1.ids.sent = s.1.ids.sent ∧
      (queueAttrsFromMutation dom s mutation).1.classes.sent = s.1.classes.sent := by
  unfold queueAttrsFromMutation
  split
  · exact ⟨rfl, Ledger.noteAll_sent _ _⟩
  · exact ⟨Ledger.note_sent _ _, rfl⟩
  · exact ⟨rfl, rfl⟩
  · rename_i addedNodes
    induction addedNodes generalizing s with
    | nil => exact ⟨rfl, rfl⟩
    | cons node addedNodes ih =>
      obtain ⟨hids, hclasses⟩ := queueAddedNode_names dom s node
      obtain ⟨hidsRest, hclassesRest⟩ := ih (queueAddedNode dom s node)
      exact ⟨hidsRest.trans (by rw [hids]), hclassesRest.trans (by rw [hclasses])⟩

theorem queueAttrsFromMutations_sent (dom : Dom ν) (s : SelectorQueries ν × Nat)
    (mutations : List (MutationRecord ν)) :
    (mutations.foldl (queueAttrsFromMutation dom) s).1.ids.sent = s.1.ids.sent ∧
      (mutations.foldl (queueAttrsFromMutation dom) s).1.classes.sent = s.1.classes.sent := by
  induction mutations generalizing s with
  | nil => exact ⟨rfl, rfl⟩
  | cons mutation mutations ih =>
    obtain ⟨hids, hclasses⟩ := queueAttrsFromMutation_sent dom s mutation
    obtain ⟨hidsRest, hclassesRest⟩ := ih (queueAttrsFromMutation dom s mutation)
    exact ⟨hidsRest.trans hids, hclassesRest.trans hclasses⟩

/-- Where `generichide` is set, the script stays silent. -/
theorem Silent.step (h : Silent s) {e : SelectorEvent ν} (henabled : s.Enabled e)
    (hgeneric : e.moment.generichide = true) : Silent (s.step config e) := by
  suffices hhandled : Silent (s.handle config e) from
    ⟨hhandled.ids, hhandled.classes, hhandled.timeouts⟩
  cases e with
  | startObserving m =>
    have hm : m.generichide = true := hgeneric
    simp only [handle, startObserving, queryAttrsFromDocument, if_pos hm]
    exact ⟨h.ids, h.classes, h.timeouts⟩
  | onMutations m mutations observer =>
    have hm : m.generichide = true := hgeneric
    obtain ⟨hids, hclasses⟩ := queueAttrsFromMutations_sent m.dom (s, 0) mutations
    have hqueued := SameThrottle.of_steering
      (queueAttrsFromMutations_steering m.dom (s, 0) mutations)
    obtain ⟨hidsChecked, hclassesChecked⟩ := checkMutationScore_names
      (s := (mutations.foldl (queueAttrsFromMutation m.dom) (s, 0)).1) config m observer
      (mutations.foldl (queueAttrsFromMutation m.dom) (s, 0)).2
    have hchecked := @checkMutationScore_same _ config
      (mutations.foldl (queueAttrsFromMutation m.dom) (s, 0)).1 m observer
      (mutations.foldl (queueAttrsFromMutation m.dom) (s, 0)).2
    simp only [handle, onMutations, fetchUnlessThrottled, queueAttrsFromMutations, if_pos hm]
    refine ⟨?_, ?_, ?_⟩
    · rw [hidsChecked, hids, h.ids]
    · rw [hclassesChecked, hclasses, h.classes]
    · rw [hchecked.timeouts, hqueued.timeouts, h.timeouts]
  | timeout m id => simp [Enabled, h.timeouts] at henabled
  | pollingTick m interval =>
    have hm : m.generichide = true := hgeneric
    simp only [handle, queryAttrsFromDocument, if_pos hm]
    split
    · exact ⟨h.ids, h.classes, h.timeouts⟩
    · exact h

end SelectorQueries

namespace ObservedPage

variable {ν : Type} {config : ObservingConfig} {s t : ObservedPage ν}

/-- How far a document has got.  The bundle did not run; the start is scheduled, with a callback and
then with a timer; the start was left out; or the document is observed. -/
inductive Phase (s : ObservedPage ν) : Prop
  | unloaded (queries : s.queries = none) (idle : s.idleCallbacks = [])
      (timers : s.startTimers = [])
      (starts : s.starts = 0) (cc : s.contentCosmetic.observingHasStarted = false ∧
        s.contentCosmetic.hasDelayOcurred = false ∧ s.contentCosmetic.startCheckingId = none)
  | scheduled (q : SelectorQueries ν) (callback : IdleCallback) (queries : s.queries = some q)
      (unwatched : q.Unwatched) (idle : s.idleCallbacks = [callback]) (timers : s.startTimers = [])
      (starts : s.starts = 0) (set : s.contentCosmetic.startCheckingId.isSome = true)
      (generic : callback.genericHide = s.contentCosmetic.generichide.getD false)
  | delayed (q : SelectorQueries ν) (due : ℚ) (queries : s.queries = some q)
      (unwatched : q.Unwatched) (idle : s.idleCallbacks = []) (timers : s.startTimers = [due])
      (starts : s.starts = 0) (set : s.contentCosmetic.startCheckingId.isSome = true)
  | leftOut (q : SelectorQueries ν) (queries : s.queries = some q) (unwatched : q.Unwatched)
      (idle : s.idleCallbacks = []) (timers : s.startTimers = []) (starts : s.starts = 0)
      (set : s.contentCosmetic.startCheckingId.isSome = true)
      (generic : s.contentCosmetic.generichide = some true)
  | observed (q : SelectorQueries ν) (queries : s.queries = some q) (watched : q.Watched)
      (idle : s.idleCallbacks = []) (timers : s.startTimers = []) (starts : s.starts = 1)
      (set : s.contentCosmetic.startCheckingId.isSome = true)

/-- The state that every step keeps. -/
structure Kept (s : ObservedPage ν) : Prop where
  phase : s.Phase
  silent : s.contentCosmetic.generichide = some true → ∀ q ∈ s.queries, q.Silent
  initialised : s.queries.isSome = true → s.contentCosmetic.generichide.isSome = true

/-- Once a start was scheduled, nothing schedules another. -/
theorem scheduleQueuePump_of_set (h : s.contentCosmetic.startCheckingId.isSome = true)
    (genericHide : Bool) : s.scheduleQueuePump genericHide = s := by
  simp [scheduleQueuePump, h]

theorem kept_init : Kept ({} : ObservedPage ν) where
  phase := .unloaded rfl rfl rfl rfl ⟨rfl, rfl, rfl⟩
  silent := nofun
  initialised := nofun

/-- A document whose start was scheduled, in whatever phase, is not changed by the entry point but
for `observingHasStarted`. -/
theorem tryScheduleQueuePump_of_set (h : s.contentCosmetic.startCheckingId.isSome = true) :
    ∃ started, s.tryScheduleQueuePump =
      { s with contentCosmetic.observingHasStarted := started } := by
  unfold tryScheduleQueuePump
  split
  · exact ⟨true, scheduleQueuePump_of_set (s := { s with
      contentCosmetic.observingHasStarted := true }) h _⟩
  · exact ⟨s.contentCosmetic.observingHasStarted, scheduleQueuePump_of_set h _⟩

/-- What the phases depend on: all but the values that the first two scripts set. -/
structure SamePhase (s t : ObservedPage ν) : Prop where
  queries : t.queries = s.queries
  idle : t.idleCallbacks = s.idleCallbacks
  timers : t.startTimers = s.startTimers
  starts : t.starts = s.starts
  started : t.contentCosmetic.observingHasStarted = s.contentCosmetic.observingHasStarted
  delay : t.contentCosmetic.hasDelayOcurred = s.contentCosmetic.hasDelayOcurred
  id : t.contentCosmetic.startCheckingId = s.contentCosmetic.startCheckingId

theorem Phase.of_same (h : s.Phase) (hsame : SamePhase s t)
    (hgeneric : s.queries.isSome = true →
      t.contentCosmetic.generichide = s.contentCosmetic.generichide) : t.Phase := by
  cases h with
  | unloaded queries idle timers starts cc =>
    refine .unloaded (hsame.queries.trans queries) (hsame.idle.trans idle)
      (hsame.timers.trans timers) (hsame.starts.trans starts) ⟨?_, ?_, ?_⟩
    · exact hsame.started.trans cc.1
    · exact hsame.delay.trans cc.2.1
    · exact hsame.id.trans cc.2.2
  | scheduled q callback queries unwatched idle timers starts set generic =>
    refine .scheduled q callback (hsame.queries.trans queries) unwatched (hsame.idle.trans idle)
      (hsame.timers.trans timers) (hsame.starts.trans starts) (by rwa [hsame.id]) ?_
    rw [hgeneric (by simp [queries])]
    exact generic
  | delayed q due queries unwatched idle timers starts set =>
    exact .delayed q due (hsame.queries.trans queries) unwatched (hsame.idle.trans idle)
      (hsame.timers.trans timers) (hsame.starts.trans starts) (by rwa [hsame.id])
  | leftOut q queries unwatched idle timers starts set generic =>
    exact .leftOut q (hsame.queries.trans queries) unwatched (hsame.idle.trans idle)
      (hsame.timers.trans timers) (hsame.starts.trans starts) (by rwa [hsame.id])
      ((hgeneric (by simp [queries])).trans generic)
  | observed q queries watched idle timers starts set =>
    exact .observed q (hsame.queries.trans queries) watched (hsame.idle.trans idle)
      (hsame.timers.trans timers) (hsame.starts.trans starts) (by rwa [hsame.id])

/-- After the bundle ran, the start has been scheduled. -/
theorem Phase.set_of_loaded (h : s.Phase) (hloaded : s.queries.isSome = true) :
    s.contentCosmetic.startCheckingId.isSome = true := by
  cases h with
  | unloaded queries => simp [queries] at hloaded
  | scheduled _ _ _ _ _ _ _ set => exact set
  | delayed _ _ _ _ _ _ _ set => exact set
  | leftOut _ _ _ _ _ _ set => exact set
  | observed _ _ _ _ _ _ set => exact set

theorem Kept.runInitScript (h : Kept s) (generichide : Bool) :
    Kept (s.runInitScript generichide) := by
  unfold ObservedPage.runInitScript
  split
  · rename_i hnone
    have hunloaded : s.queries = none := by
      by_contra hloaded
      have hset := h.initialised (Option.isSome_iff_ne_none.mpr hloaded)
      simp [Option.isNone_iff_eq_none.mp hnone] at hset
    refine ⟨h.phase.of_same ⟨rfl, rfl, rfl, rfl, rfl, rfl, rfl⟩ (by simp [hunloaded]), ?_, ?_⟩
    · simp [hunloaded]
    · simp
  · exact h

theorem loaded_unwatched (performanceNow : ℚ) :
    (SelectorQueries.loaded performanceNow : SelectorQueries ν).Unwatched := ⟨rfl, rfl, rfl⟩

theorem Kept.runBundle (h : Kept s) (performanceNow : ℚ)
    (hset : s.contentCosmetic.generichide.isSome = true) (hnone : s.queries = none) :
    Kept (s.runBundle performanceNow) := by
  cases h.phase with
  | unloaded queries idle timers starts cc =>
    obtain ⟨started, delay, id⟩ := cc
    have hbundle : s.runBundle performanceNow =
        { s with
          queries := some (.loaded performanceNow)
          contentCosmetic.observingHasStarted := true
          contentCosmetic.startCheckingId := some (s.lastIdleId + 1)
          lastIdleId := s.lastIdleId + 1
          idleCallbacks := [⟨s.lastIdleId + 1, s.contentCosmetic.generichide.getD false⟩] } := by
      simp [ObservedPage.runBundle, tryScheduleQueuePump, scheduleQueuePump, started, delay, id,
        idle]
    rw [hbundle]
    refine ⟨.scheduled _ _ rfl (loaded_unwatched _) rfl timers starts rfl rfl, ?_, fun _ => hset⟩
    intro _ q hq
    obtain rfl := Option.some.inj hq
    exact ⟨rfl, rfl, rfl⟩
  | scheduled q _ queries => simp [queries] at hnone
  | delayed q _ queries => simp [queries] at hnone
  | leftOut q queries => simp [queries] at hnone
  | observed q queries => simp [queries] at hnone

theorem Kept.tryScheduleQueuePump (h : Kept s) (hloaded : s.queries.isSome = true) :
    Kept s.tryScheduleQueuePump := by
  obtain ⟨started, hsame⟩ := tryScheduleQueuePump_of_set (h.phase.set_of_loaded hloaded)
  rw [hsame]
  refine ⟨?_, h.silent, h.initialised⟩
  cases h.phase with
  | unloaded queries => simp [queries] at hloaded
  | scheduled q callback queries unwatched idle timers starts set generic =>
    exact .scheduled q callback queries unwatched idle timers starts set generic
  | delayed q due queries unwatched idle timers starts set =>
    exact .delayed q due queries unwatched idle timers starts set
  | leftOut q queries unwatched idle timers starts set generic =>
    exact .leftOut q queries unwatched idle timers starts set generic
  | observed q queries watched idle timers starts set =>
    exact .observed q queries watched idle timers starts set

/-- The start turns an unwatched document into an observed one. -/
theorem kept_startObserving {m : Moment ν} {q : SelectorQueries ν}
    (silent : s.contentCosmetic.generichide = some true → q.Silent)
    (initialised : s.contentCosmetic.generichide.isSome = true) (reads : s.Reads m)
    (queries : s.queries = some q) (unwatched : q.Unwatched) (idle : s.idleCallbacks = [])
    (timers : s.startTimers = []) (starts : s.starts = 0)
    (set : s.contentCosmetic.startCheckingId.isSome = true) :
    Kept (s.startObserving config m) := by
  have hqueries : (s.startObserving config m).queries =
      some (q.step config.toSelectorsConfig (.startObserving m)) := by
    simp [ObservedPage.startObserving, queries]
  refine ⟨.observed _ hqueries (unwatched.startObserving m) idle timers ?_ set, ?_,
    fun _ => initialised⟩
  · simp [ObservedPage.startObserving, starts]
  · intro hgeneric q' hq'
    obtain rfl : _ = q' := Option.some.inj (hqueries.symm.trans hq')
    have hcc : s.contentCosmetic.generichide = some true := hgeneric
    apply (silent hcc).step
    · exact ⟨reads.2 q queries, trivial⟩
    · show m.generichide = true
      rw [reads.1, hcc]
      rfl

theorem Kept.runIdleCallback (h : Kept s) {m : Moment ν} (hidle : s.idleCallbacks ≠ [])
    (hreads : s.Reads m) : Kept (s.runIdleCallback config m) := by
  cases h.phase with
  | unloaded _ idle => exact absurd idle hidle
  | delayed _ _ _ _ idle => exact absurd idle hidle
  | leftOut _ _ _ idle => exact absurd idle hidle
  | observed _ _ _ idle => exact absurd idle hidle
  | scheduled q callback queries unwatched idle timers starts set generic =>
    have hinitialised := h.initialised (by simp [queries])
    have hsilent := fun hgeneric => h.silent hgeneric q queries
    unfold ObservedPage.runIdleCallback
    rw [idle]
    dsimp only
    split
    · split
      · exact kept_startObserving hsilent hinitialised hreads queries unwatched rfl timers starts
          set
      · rename_i delay _
        refine ⟨.delayed q (m.performanceNow + delay) queries unwatched rfl ?_ starts set, h.silent,
          h.initialised⟩
        rw [timers]
        rfl
    · rename_i hskip
      have hgeneric : s.contentCosmetic.generichide.getD false = true := by
        rw [← generic]
        simpa using (Bool.or_eq_false_iff.mp (Bool.eq_false_iff.mpr hskip)).1
      have hset : s.contentCosmetic.generichide = some true := by
        obtain ⟨generichide, hsome⟩ := Option.isSome_iff_exists.mp hinitialised
        rw [hsome] at hgeneric ⊢
        exact congrArg some hgeneric
      exact ⟨.leftOut q queries unwatched rfl timers starts set hset, h.silent, h.initialised⟩

theorem Kept.runStartTimer (h : Kept s) {m : Moment ν} {due : ℚ} (hdue : due ∈ s.startTimers)
    (hreads : s.Reads m) :
    Kept (startObserving config m { s with startTimers := s.startTimers.erase due }) := by
  cases h.phase with
  | unloaded _ _ timers => simp [timers] at hdue
  | scheduled _ _ _ _ _ timers => simp [timers] at hdue
  | leftOut _ _ _ _ timers => simp [timers] at hdue
  | observed _ _ _ _ timers => simp [timers] at hdue
  | delayed q other queries unwatched idle timers starts set =>
    obtain rfl : due = other := by simpa [timers] using hdue
    have hinitialised := h.initialised (by simp [queries])
    have hgone : s.startTimers.erase due = [] := by simp [timers]
    exact kept_startObserving (s := { s with startTimers := s.startTimers.erase due })
      (fun hgeneric => h.silent hgeneric q queries) hinitialised hreads queries unwatched idle hgone
      starts set

theorem Kept.script (h : Kept s) {e : SelectorEvent ν} (hstart : e.isStart = false)
    (hreads : s.Reads e.moment) {q : SelectorQueries ν} (hq : s.queries = some q)
    (henabled : q.Enabled e) :
    Kept { s with queries := s.queries.map fun q => q.step config.toSelectorsConfig e } := by
  have hunwatched : ∀ p, s.queries = some p → ¬p.Unwatched := by
    intro p hp hunwatched
    obtain rfl : q = p := Option.some.inj (hq.symm.trans hp)
    exact hunwatched.not_enabled hstart henabled
  cases h.phase with
  | unloaded queries => simp [queries] at hq
  | scheduled p _ queries unwatched => exact absurd unwatched (hunwatched p queries)
  | delayed p _ queries unwatched => exact absurd unwatched (hunwatched p queries)
  | leftOut p queries unwatched => exact absurd unwatched (hunwatched p queries)
  | observed p queries watched idle timers starts set =>
    obtain rfl : q = p := Option.some.inj (hq.symm.trans queries)
    have hinitialised := h.initialised (by simp [queries])
    rw [queries]
    refine ⟨.observed _ rfl (watched.step henabled hstart) idle timers starts set, ?_,
      fun _ => hinitialised⟩
    intro hgeneric q' hq'
    obtain rfl := Option.some.inj hq'
    apply (h.silent hgeneric q queries).step henabled
    have hcc : s.contentCosmetic.generichide = some true := hgeneric
    rw [hreads.1, hcc]
    rfl

/-- One event keeps the state. -/
theorem Kept.step (h : Kept s) {e : PageEvent ν} (henabled : s.Enabled e) :
    Kept (s.step config e) := by
  cases e with
  | init generichide => exact h.runInitScript generichide
  | proceduralActions hasProceduralActions =>
    exact ⟨h.phase.of_same ⟨rfl, rfl, rfl, rfl, rfl, rfl, rfl⟩ fun _ => rfl, h.silent,
      h.initialised⟩
  | bundle performanceNow =>
    exact h.runBundle performanceNow henabled.1 (Option.isNone_iff_eq_none.mp henabled.2)
  | entryPoint => exact h.tryScheduleQueuePump henabled
  | idle m => exact h.runIdleCallback henabled.1 henabled.2
  | startTimer m due => exact h.runStartTimer henabled.1 henabled.2.2
  | script e =>
    obtain ⟨hstart, hreads, q, hq, hlistens⟩ := henabled
    exact h.script hstart hreads hq hlistens

/-- A document never observed has no watcher, and one that is observed has one. -/
theorem Phase.watchers_eq (h : s.Phase) : s.starts ≤ 1 ∧ s.watchers = s.starts := by
  unfold watchers
  cases h with
  | unloaded queries idle timers starts => simp [queries, starts]
  | scheduled q _ queries unwatched _ _ starts =>
    simp [queries, starts, unwatched.observers, unwatched.intervals]
  | delayed q _ queries unwatched _ _ starts =>
    simp [queries, starts, unwatched.observers, unwatched.intervals]
  | leftOut q queries unwatched _ _ starts =>
    simp [queries, starts, unwatched.observers, unwatched.intervals]
  | observed q queries watched _ _ starts =>
    cases watched with
    | observer id observers intervals => simp [queries, starts, observers, intervals]
    | interval interval observers intervals => simp [queries, starts, observers, intervals]

/-- Where no start is under way, the document is observed, or its generic rules are turned off. -/
theorem Phase.observed_of_idle (h : s.Phase) (hloaded : s.queries.isSome = true)
    (hidle : s.idleCallbacks = []) (htimers : s.startTimers = []) :
    s.starts = 1 ∨ s.contentCosmetic.generichide = some true := by
  cases h with
  | unloaded queries => simp [queries] at hloaded
  | scheduled _ _ _ _ idle => simp [idle] at hidle
  | delayed _ _ _ _ _ timers => simp [timers] at htimers
  | leftOut _ _ _ _ _ _ _ generic => exact .inr generic
  | observed _ _ _ _ _ starts => exact .inl starts

/-- A page with `generichide` and without procedural actions is left alone. -/
structure LeftAlone (s : ObservedPage ν) : Prop where
  actions : s.contentCosmetic.hasProceduralActions = false
  timers : s.contentCosmetic.generichide = some true → s.startTimers = []
  starts : s.contentCosmetic.generichide = some true → s.starts = 0

theorem LeftAlone.scheduleQueuePump (h : LeftAlone s) (genericHide : Bool) :
    LeftAlone (s.scheduleQueuePump genericHide) := by
  unfold ObservedPage.scheduleQueuePump
  split
  · exact h
  · split
    · exact h
    · exact ⟨h.actions, h.timers, h.starts⟩

theorem LeftAlone.tryScheduleQueuePump (h : LeftAlone s) : LeftAlone s.tryScheduleQueuePump := by
  unfold ObservedPage.tryScheduleQueuePump
  split
  · exact LeftAlone.scheduleQueuePump (s := { s with contentCosmetic.observingHasStarted := true })
      ⟨h.actions, h.timers, h.starts⟩ _
  · exact h.scheduleQueuePump false

theorem LeftAlone.step (h : LeftAlone s) (hkept : Kept s) {e : PageEvent ν} (henabled : s.Enabled e)
    (he : e ≠ .proceduralActions true) : LeftAlone (s.step config e) := by
  cases e with
  | init generichide =>
    simp only [ObservedPage.step, runInitScript]
    split
    · rename_i hnone
      have hunloaded : s.queries = none := by
        by_contra hloaded
        have hset := hkept.initialised (Option.isSome_iff_ne_none.mpr hloaded)
        simp [Option.isNone_iff_eq_none.mp hnone] at hset
      cases hkept.phase with
      | unloaded _ _ timers starts => exact ⟨h.actions, fun _ => timers, fun _ => starts⟩
      | scheduled _ _ queries => simp [queries] at hunloaded
      | delayed _ _ queries => simp [queries] at hunloaded
      | leftOut _ queries => simp [queries] at hunloaded
      | observed _ queries => simp [queries] at hunloaded
    · exact h
  | proceduralActions hasProceduralActions =>
    refine ⟨?_, h.timers, h.starts⟩
    show hasProceduralActions = false
    exact Bool.eq_false_iff.mpr fun htrue => he (by rw [htrue])
  | bundle performanceNow => exact LeftAlone.tryScheduleQueuePump ⟨h.actions, h.timers, h.starts⟩
  | entryPoint => exact h.tryScheduleQueuePump
  | idle m =>
    cases hkept.phase with
    | unloaded _ idle => exact absurd idle henabled.1
    | delayed _ _ _ _ idle => exact absurd idle henabled.1
    | leftOut _ _ _ idle => exact absurd idle henabled.1
    | observed _ _ _ idle => exact absurd idle henabled.1
    | scheduled q callback queries unwatched idle timers starts set generic =>
      simp only [ObservedPage.step, runIdleCallback, idle, h.actions, Bool.or_false]
      split
      · -- the callback was given `false`, so `generichide` is not set
        rename_i hplain
        have hunset : s.contentCosmetic.generichide ≠ some true := by
          intro hset
          rw [generic, hset] at hplain
          contradiction
        split
        · exact ⟨rfl, fun hset => absurd hset hunset, fun hset => absurd hset hunset⟩
        · exact ⟨rfl, fun hset => absurd hset hunset, fun hset => absurd hset hunset⟩
      · exact ⟨rfl, h.timers, h.starts⟩
  | startTimer m due =>
    have hunset : s.contentCosmetic.generichide ≠ some true := by
      intro hset
      have hdue := henabled.1
      simp [h.timers hset] at hdue
    exact ⟨h.actions, fun hset => absurd hset hunset, fun hset => absurd hset hunset⟩
  | script e => exact ⟨h.actions, h.timers, h.starts⟩

/-- In every run of a document, whatever scripts `ApplyRules` runs in it and however often, it is
observed at most once, and then by one watcher at a time.  Where no start is under way, it is
observed, or it has `generichide`; such a document asks about no class or id, and is not observed at
all unless it has procedural actions. -/
theorem observed_once {es : List (PageEvent ν)} (run : Run (machine config) {} es s) :
    s.starts ≤ 1 ∧ s.watchers = s.starts ∧
    (s.queries.isSome = true → s.idleCallbacks = [] → s.startTimers = [] →
      s.starts = 1 ∨ s.contentCosmetic.generichide = some true) ∧
    (s.contentCosmetic.generichide = some true →
      (∀ q ∈ s.queries, q.ids.sent = [] ∧ q.classes.sent = []) ∧
      (.proceduralActions true ∉ es → s.starts = 0)) := by
  have hinit : ({} : ObservedPage ν).Kept ∧
      (.proceduralActions true ∉ ([] : List (PageEvent ν)) → ({} : ObservedPage ν).LeftAlone) :=
    ⟨kept_init, fun _ => ⟨rfl, nofun, nofun⟩⟩
  have hkept : s.Kept ∧ (.proceduralActions true ∉ es → s.LeftAlone) := by
    refine run.preserves_past
      (P := fun past s => s.Kept ∧ (.proceduralActions true ∉ past → s.LeftAlone)) ?_ hinit
    intro past s e s' henabled hstep ⟨hkept, halone⟩
    obtain rfl := Except.ok.inj hstep
    refine ⟨hkept.step henabled, fun hnone => ?_⟩
    obtain ⟨hpast, he⟩ : .proceduralActions true ∉ past ∧ e ≠ .proceduralActions true := by
      simpa [eq_comm] using hnone
    exact (halone hpast).step hkept henabled he
  obtain ⟨hphase, hsilent, -⟩ := hkept.1
  obtain ⟨hstarts, hwatchers⟩ := hphase.watchers_eq
  refine ⟨hstarts, hwatchers, hphase.observed_of_idle, fun hgeneric => ⟨?_, ?_⟩⟩
  · intro q hq
    exact ⟨(hsilent hgeneric q hq).ids, (hsilent hgeneric q hq).classes⟩
  · intro hnone
    exact (hkept.2 hnone).starts hgeneric

/-- A sub-frame whose document is polled after one change. -/
def pollingConfig : ObservingConfig where
  firstSelectorsPollingDelayMs := some 1000
  switchToSelectorsPollingThreshold := some 0

def changingDocument : List (PageEvent Nat) :=
  [.init false, .bundle 0, .entryPoint, .idle (SelectorQueries.smallPageAt 5),
    .startTimer (SelectorQueries.smallPageAt 1006) 1005,
    .script (.onMutations (SelectorQueries.smallPageAt 1007) [.childList [2]] 1)]

theorem observed_once_polled : ∃ s : ObservedPage Nat,
    Run (machine pollingConfig) {} changingDocument s ∧ s.starts = 1 ∧
      (∃ q ∈ s.queries, q.intervals ≠ []) ∧ s.watchers = s.starts := by
  obtain ⟨s, run, hs⟩ := Machine.exists_run (machine pollingConfig) {} changingDocument
    (fun s => s.starts = 1 && s.queries.any fun q => !q.intervals.isEmpty) (by decide +kernel)
  obtain ⟨hstarts, hpolled⟩ := (Bool.and_eq_true _ _).mp hs
  obtain ⟨q, hq, hintervals⟩ := (Option.any_eq_true _ _).mp hpolled
  refine ⟨s, run, of_decide_eq_true hstarts, ⟨q, hq, ?_⟩, (observed_once run).2.1⟩
  rintro hnone
  simp [hnone] at hintervals

end ObservedPage

end ChromiumAdblock
