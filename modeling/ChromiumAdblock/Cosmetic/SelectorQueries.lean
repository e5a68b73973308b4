import ChromiumAdblock.Cosmetic.Dom
import ChromiumAdblock.Lib.Machine
import ChromiumAdblock.Lib.SendOnce
import ChromiumAdblock.Lib.Throttle
import Mathlib.Algebra.Order.Ring.Rat

/-! The observing half of `content_cosmetic.ts`: the ids and classes of a document are collected and
passed to the browser, which answers with rules for them.  A document that changes much is polled
instead of observed, and the queries that changes cause are throttled. -/

namespace ChromiumAdblock

open EventMachine SendOnce

/-- The values of `window.content_cosmetic` that steer the queries, in milliseconds where they are
times. -/
structure SelectorsConfig where
  switchToSelectorsPollingThreshold : Option ℚ := none
  fetchNewClassIdRulesThrottlingMs : Option ℚ := none

abbrev returnToMutationObserverIntervalMs : ℚ := 10000
abbrev scoreCalcIntervalMs : ℚ := 1000

/-- What the script reads when it runs: the document, the two clocks, and `generichide`. -/
structure Moment (ν : Type) where
  dom : Dom ν
  performanceNow : ℚ
  dateNow : ℚ
  generichide : Bool := false

/-- The observer reports the attributes `id` and `class` only. -/
inductive MutationRecord (ν : Type)
  | attributes (target : ν) (attributeName : String)
  | childList (addedNodes : List ν)

/-- A timer of the page, with the time at which it is due. -/
structure Timeout where
  id : Nat
  due : ℚ
deriving DecidableEq

/-- A call of the polling function, with the time at which it returns to observing. -/
structure PollingInterval where
  id : Nat
  futureTimeMs : ℚ
deriving DecidableEq

/-- The variables of the script.  A ledger holds the names that are queried, those that are not yet,
and those that were passed to `cf_worker.hiddenClassIdSelectors`.  The rest are the timers,
intervals, and observers of the page, the last time that the script ran, and the calls of
`fetchNewClassIdRules` that `onMutations` caused, directly or through a timer. -/
structure SelectorQueries (ν : Type) where
  selectorsPollingIntervalId : Option Nat := none
  currentMutationScore : Nat := 0
  currentMutationStartTime : ℚ := 0
  nextFetchNewClassIdRulesCall : ℚ := 0
  fetchNewClassIdRulesTimeoutId : Option Nat := none
  ids : Ledger String := {}
  classes : Ledger String := {}
  notYetQueriedElements : List (List ν) := []
  lastHandle : Nat := 0
  timeouts : List Timeout := []
  intervals : List PollingInterval := []
  observers : List Nat := []
  clock : ℚ := 0
  executions : List (Throttle.Execution ℚ) := []

/-- What happens to the page. -/
inductive SelectorEvent (ν : Type)
  | startObserving (m : Moment ν)
  | onMutations (m : Moment ν) (mutations : List (MutationRecord ν)) (observer : Nat)
  | timeout (m : Moment ν) (id : Nat)
  | pollingTick (m : Moment ν) (interval : PollingInterval)

/-- When an event happens. -/
def SelectorEvent.moment {ν : Type} : SelectorEvent ν → Moment ν
  | .startObserving m | .onMutations m _ _ | .timeout m _ | .pollingTick m _ => m

namespace SelectorQueries

variable {ν : Type} (config : SelectorsConfig)

/-- The variables when the script is loaded. -/
def loaded (performanceNow : ℚ) : SelectorQueries ν where
  currentMutationStartTime := performanceNow
  clock := performanceNow

def queueElementIdAndClasses (dom : Dom ν) (s : SelectorQueries ν) (element : ν) :
    SelectorQueries ν :=
  { s with
    ids := if dom.id element = "" then s.ids else s.ids.note (dom.id element)
    classes := s.classes.noteAll ((dom.classList element).filter (· ≠ "")) }

/-- The elements are read as they are now. -/
def queueElements (dom : Dom ν) (elements : List ν) (s : SelectorQueries ν) : SelectorQueries ν :=
  elements.foldl (queueElementIdAndClasses dom) s

def fetchNewClassIdRules (dom : Dom ν) (s : SelectorQueries ν) : SelectorQueries ν :=
  let s := { s.queueElements dom s.notYetQueriedElements.flatten with notYetQueriedElements := [] }
  if s.classes.waiting = [] ∧ s.ids.waiting = [] then s
  else
    { s with
      classes := s.classes.send
      ids := s.ids.send }

/-- `ShouldThrottleFetchNewClassIdsRules`, at a time. -/
def shouldThrottleFetchNewClassIdsRules (now : ℚ) (s : SelectorQueries ν) :
    SelectorQueries ν × Bool :=
  match config.fetchNewClassIdRulesThrottlingMs with
  | none => (s, false)
  | some throttlingMs =>
    if s.fetchNewClassIdRulesTimeoutId.isSome then (s, true)
    else
      let msToWait := s.nextFetchNewClassIdRulesCall - now
      if msToWait > 0 then
        ({ s with
          lastHandle := s.lastHandle + 1
          timeouts := s.timeouts ++ [⟨s.lastHandle + 1, now + msToWait⟩]
          fetchNewClassIdRulesTimeoutId := some (s.lastHandle + 1) }, true)
      else ({ s with nextFetchNewClassIdRulesCall := now + throttlingMs }, false)

def useMutationObserver (s : SelectorQueries ν) : SelectorQueries ν :=
  { s with
    intervals := s.intervals.filter fun interval =>
      s.selectorsPollingIntervalId ≠ some interval.id
    selectorsPollingIntervalId := none
    lastHandle := s.lastHandle + 1
    observers := s.observers ++ [s.lastHandle + 1] }

def usePolling (m : Moment ν) (observer : Nat) (s : SelectorQueries ν) : SelectorQueries ν :=
  { s with
    observers := s.observers.erase observer
    notYetQueriedElements := []
    lastHandle := s.lastHandle + 1
    intervals := s.intervals ++
      [⟨s.lastHandle + 1, m.dateNow + returnToMutationObserverIntervalMs⟩]
    selectorsPollingIntervalId := some (s.lastHandle + 1) }

/-- The element and those below it with an id or a class, and how many they are. -/
def queueAddedNode (dom : Dom ν) (s : SelectorQueries ν × Nat) (node : ν) :
    SelectorQueries ν × Nat :=
  if !dom.isElement node then s
  else
    let below := (dom.descendants node).filter dom.classIdWithoutHtmlOrBody
    if dom.children node = [] then
      ({ s.1 with notYetQueriedElements := s.1.notYetQueriedElements ++ [[node]] }, s.2 + 1)
    else
      ({ s.1 with notYetQueriedElements := s.1.notYetQueriedElements ++ [[node], below] },
        s.2 + 1 + below.length)

/-- The names that one record brings, and its part of the score. -/
def queueAttrsFromMutation (dom : Dom ν) (s : SelectorQueries ν × Nat) :
    MutationRecord ν → SelectorQueries ν × Nat
  | .attributes target "class" =>
    ({ s.1 with classes := s.1.classes.noteAll (dom.classList target) },
      s.2 + (dom.classList target).length)
  | .attributes target "id" => ({ s.1 with ids := s.1.ids.note (dom.id target) }, s.2 + 1)
  | .attributes _ _ => s
  | .childList addedNodes => addedNodes.foldl (queueAddedNode dom) s

def queueAttrsFromMutations (dom : Dom ν) (mutations : List (MutationRecord ν))
    (s : SelectorQueries ν) : SelectorQueries ν × Nat :=
  mutations.foldl (queueAttrsFromMutation dom) (s, 0)

/-- The score of the time frame, which may start now. -/
def addMutationScore (now : ℚ) (mutationScore : Nat) (s : SelectorQueries ν) : SelectorQueries ν :=
  if now > s.currentMutationStartTime + scoreCalcIntervalMs then
    { s with
      currentMutationStartTime := now
      currentMutationScore := mutationScore }
  else { s with currentMutationScore := s.currentMutationScore + mutationScore }

/-- The switch to polling. -/
def checkMutationScore (m : Moment ν) (observer mutationScore : Nat) (s : SelectorQueries ν) :
    SelectorQueries ν :=
  match config.switchToSelectorsPollingThreshold with
  | none => s
  | some threshold =>
    let s := s.addMutationScore m.performanceNow mutationScore
    if (s.currentMutationScore : ℚ) > threshold then s.usePolling m observer else s

/-- An execution that `onMutations` caused begins. -/
def logExecution (time : ℚ) (byTimer : Bool) (s : SelectorQueries ν) : SelectorQueries ν :=
  { s with executions := s.executions ++ [⟨time, byTimer⟩] }

/-- The end of `onMutations`, without the procedural actions. -/
def fetchUnlessThrottled (m : Moment ν) (s : SelectorQueries ν) : SelectorQueries ν :=
  if m.generichide then s
  else
    match s.shouldThrottleFetchNewClassIdsRules config m.performanceNow with
    | (s, true) => s
    | (s, false) => (s.logExecution m.performanceNow false).fetchNewClassIdRules m.dom

def onMutations (m : Moment ν) (mutations : List (MutationRecord ν)) (observer : Nat)
    (s : SelectorQueries ν) : SelectorQueries ν :=
  let (s, mutationScore) := s.queueAttrsFromMutations m.dom mutations
  (s.checkMutationScore config m observer mutationScore).fetchUnlessThrottled config m

/-- `queryAttrsFromDocument`, without the procedural actions. -/
def queryAttrsFromDocument (m : Moment ν) (switchToMutationObserverAtTime : Option ℚ)
    (s : SelectorQueries ν) : SelectorQueries ν :=
  let s :=
    if m.generichide then s
    else
      (s.queueElements m.dom (m.dom.all.filter m.dom.classIdWithoutHtmlOrBody)).fetchNewClassIdRules
        m.dom
  match switchToMutationObserverAtTime with
  | none => s
  | some time => if m.dateNow ≥ time then s.useMutationObserver else s

def startObserving (m : Moment ν) (s : SelectorQueries ν) : SelectorQueries ν :=
  (s.queryAttrsFromDocument m none).useMutationObserver

/-- The function that the throttle gave to a timer. -/
def onTimeout (m : Moment ν) (id : Nat) (s : SelectorQueries ν) : SelectorQueries ν :=
  let s := { s with
    timeouts := s.timeouts.filter (·.id ≠ id)
    fetchNewClassIdRulesTimeoutId := none }
  (s.logExecution m.performanceNow true).fetchNewClassIdRules m.dom

def handle (s : SelectorQueries ν) : SelectorEvent ν → SelectorQueries ν
  | .startObserving m => s.startObserving m
  | .onMutations m mutations observer => s.onMutations config m mutations observer
  | .timeout m id => s.onTimeout m id
  | .pollingTick m interval => s.queryAttrsFromDocument m (some interval.futureTimeMs)

def step (s : SelectorQueries ν) (e : SelectorEvent ν) : SelectorQueries ν :=
  { s.handle config e with clock := e.moment.performanceNow }

/-- Time goes on, only connected observers report, a timer fires when it is due or later, and only
an interval that is not cleared ticks. -/
def Enabled (s : SelectorQueries ν) (e : SelectorEvent ν) : Prop :=
  s.clock ≤ e.moment.performanceNow ∧
    match e with
    | .startObserving _ => True
    | .onMutations _ _ observer => observer ∈ s.observers
    | .timeout m id => ∃ timeout ∈ s.timeouts, timeout.id = id ∧ timeout.due ≤ m.performanceNow
    | .pollingTick _ interval => interval ∈ s.intervals

instance (s : SelectorQueries ν) (e : SelectorEvent ν) : Decidable (s.Enabled e) := by
  cases e <;> unfold Enabled <;> infer_instance

def machine : Machine (SelectorQueries ν) (SelectorEvent ν) Empty where
  enabled := Enabled
  step s e := .ok (s.step config e)

instance (s : SelectorQueries ν) (e : SelectorEvent ν) :
    Decidable ((machine config).enabled s e) :=
  inferInstanceAs (Decidable (s.Enabled e))

section Steering

variable {config : SelectorsConfig} {dom : Dom ν} {s : SelectorQueries ν}

/-- The variables that steer the queries, which are neither the names nor the score. -/
def steering (s : SelectorQueries ν) : SelectorQueries ν :=
  { s with
    currentMutationScore := 0
    currentMutationStartTime := 0
    ids := {}
    classes := {}
    notYetQueriedElements := [] }

theorem queueElements_steering (dom : Dom ν) (s : SelectorQueries ν) (elements : List ν) :
    (s.queueElements dom elements).steering = s.steering := by
  induction elements generalizing s with
  | nil => rfl
  | cons element elements ih => exact ih (s.queueElementIdAndClasses dom element)

theorem fetchNewClassIdRules_steering : (s.fetchNewClassIdRules dom).steering = s.steering := by
  have hqueued := s.queueElements_steering dom s.notYetQueriedElements.flatten
  unfold fetchNewClassIdRules
  simp only
  split <;> exact hqueued

theorem queueAddedNode_steering (s : SelectorQueries ν × Nat) (node : ν) :
    (queueAddedNode dom s node).1.steering = s.1.steering := by
  unfold queueAddedNode
  split
  · rfl
  · simp only
    split <;> rfl

theorem queueAttrsFromMutation_steering (s : SelectorQueries ν × Nat)
    (mutation : MutationRecord ν) :
    (queueAttrsFromMutation dom s mutation).1.steering = s.1.steering := by
  unfold queueAttrsFromMutation
  split
  · rfl
  · rfl
  · rfl
  · rename_i addedNodes
    induction addedNodes generalizing s with
    | nil => rfl
    | cons node addedNodes ih => exact (ih _).trans (queueAddedNode_steering s node)

theorem queueAttrsFromMutations_steering (dom : Dom ν) (s : SelectorQueries ν × Nat)
    (mutations : List (MutationRecord ν)) :
    (mutations.foldl (queueAttrsFromMutation dom) s).1.steering = s.1.steering := by
  induction mutations generalizing s with
  | nil => rfl
  | cons mutation mutations ih => exact (ih _).trans (queueAttrsFromMutation_steering s mutation)

theorem addMutationScore_steering (now : ℚ) (mutationScore : Nat) :
    (s.addMutationScore now mutationScore).steering = s.steering := by
  unfold addMutationScore
  split <;> rfl

/-- The query of the document, before the switch to observing. -/
theorem queryDocument_steering (m : Moment ν) : SelectorQueries.steering (if m.generichide then s
    else (s.queueElements m.dom
      (m.dom.all.filter m.dom.classIdWithoutHtmlOrBody)).fetchNewClassIdRules m.dom) =
      s.steering := by
  split
  · rfl
  · exact fetchNewClassIdRules_steering.trans (queueElements_steering _ _ _)

end Steering

end SelectorQueries

end ChromiumAdblock
