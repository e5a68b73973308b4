import Mathlib.Data.List.Basic
import Mathlib.Logic.Function.Basic
import ChromiumAdblock.Lib.Machine

/-! `AdBlockFiltersProviderManager` with its providers and the observers of the two engines.  With
the feature `kAdblockDATCache` the first notification of each engine is swallowed, since the cached
rules make it redundant; where there are none, `ForceNotifyObserver` brings it back.  It is not
lost, in whatever order the providers, the observer, and the failed cache come. -/

namespace ChromiumAdblock

open EventMachine

/-- An `AdBlockFiltersProvider` that the manager holds.  `announced` says that it has called
`OnChanged` of the manager while it was initialized. -/
structure ManagedProvider where
  id : Nat
  initialized : Bool
  announced : Bool := false
deriving DecidableEq, Repr

namespace ManagedProvider

/-- The provider, if it has this identifier, becomes initialized. -/
def setInitialized (id : Nat) (p : ManagedProvider) : ManagedProvider :=
  if p.id = id then { p with initialized := true } else p

/-- The provider, if it has this identifier, calls `OnChanged`. -/
def announce (id : Nat) (p : ManagedProvider) : ManagedProvider :=
  if p.id = id then { p with announced := p.announced || p.initialized } else p

end ManagedProvider

/-- What the manager keeps for one of the engines.  `observed` says that the observer of the engine
was added. -/
structure EngineProviders where
  filtersProviders : List ManagedProvider := []
  suppressStartupChangeNotification : Bool
  observed : Bool := false
deriving DecidableEq, Repr

/-- The manager, by `is_for_default_engine`. -/
abbrev AdBlockFiltersProviderManager := Bool → EngineProviders

/-! Each function below gives the new state, and whether the observer of the engine is told. -/

namespace EngineProviders

def areAllProvidersInitialized (m : EngineProviders) : Bool :=
  !m.filtersProviders.isEmpty && m.filtersProviders.all (·.initialized)

/-- The set of the providers is ordered by their addresses, so `place` may be any. -/
def addProvider (m : EngineProviders) (place : Nat) (p : ManagedProvider) : EngineProviders :=
  { m with
    filtersProviders := m.filtersProviders.take place ++ p :: m.filtersProviders.drop place }

def notifyObservers (m : EngineProviders) : EngineProviders × Bool := (m, m.observed)

def removeProvider (m : EngineProviders) (id : Nat) : EngineProviders × Bool :=
  { m with filtersProviders := m.filtersProviders.filter fun p => p.id ≠ id }.notifyObservers

def maybeNotifyObserver (m : EngineProviders) : EngineProviders × Bool :=
  (m, m.areAllProvidersInitialized)

def maybeConsumeEngineStartupChangeNotification (m : EngineProviders) : EngineProviders × Bool :=
  if m.suppressStartupChangeNotification then
    ({ m with suppressStartupChangeNotification := false }, true)
  else (m, false)

def forceNotifyObserver (m : EngineProviders) : EngineProviders × Bool :=
  match m.maybeConsumeEngineStartupChangeNotification with
  | (m, true) => (m, false)
  | (m, false) => (m, m.areAllProvidersInitialized)

def onChanged (m : EngineProviders) : EngineProviders × Bool :=
  if m.areAllProvidersInitialized = false then (m, false)
  else
    match m.maybeConsumeEngineStartupChangeNotification with
    | (m, true) => (m, false)
    | (m, false) => m.notifyObservers

/-- `NotifyObservers` of a provider. -/
def providerChanged (m : EngineProviders) (id : Nat) : EngineProviders × Bool :=
  { m with filtersProviders := m.filtersProviders.map (.announce id) }.onChanged

def providerInitialized (m : EngineProviders) (id : Nat) : EngineProviders :=
  { m with filtersProviders := m.filtersProviders.map (.setInitialized id) }

/-- The constructor of `SourceProviderObserver`. -/
def addObserver (m : EngineProviders) : EngineProviders × Bool :=
  { m with observed := true }.maybeNotifyObserver

/-- There are providers, and each of them is initialized and has called `OnChanged`. -/
def Settled (m : EngineProviders) : Prop :=
  m.filtersProviders ≠ [] ∧ ∀ p ∈ m.filtersProviders, p.initialized = true ∧ p.announced = true

instance (m : EngineProviders) : Decidable m.Settled :=
  inferInstanceAs (Decidable (¬m.filtersProviders = [] ∧ _))

section Outcomes

variable {m : EngineProviders}

theorem Settled.initialized (h : m.Settled) : m.areAllProvidersInitialized = true := by
  obtain ⟨hne, hall⟩ := h
  simp only [areAllProvidersInitialized, Bool.and_eq_true, List.all_eq_true]
  exact ⟨by simpa using hne, fun p hp => (hall p hp).1⟩

theorem onChanged_of_not_initialized (h : m.areAllProvidersInitialized = false) :
    m.onChanged = (m, false) := by
  rw [onChanged, if_pos h]

theorem onChanged_of_suppressed (h : m.areAllProvidersInitialized = true)
    (hsuppress : m.suppressStartupChangeNotification = true) :
    m.onChanged = ({ m with suppressStartupChangeNotification := false }, false) := by
  simp [onChanged, h, maybeConsumeEngineStartupChangeNotification, hsuppress]

theorem onChanged_of_passed (h : m.areAllProvidersInitialized = true)
    (hsuppress : m.suppressStartupChangeNotification = false) :
    m.onChanged = (m, m.observed) := by
  simp [onChanged, h, maybeConsumeEngineStartupChangeNotification, hsuppress, notifyObservers]

/-- The startup notification is still to come, and is not going to be swallowed. -/
theorem forceNotifyObserver_of_suppressed (hsuppress : m.suppressStartupChangeNotification = true) :
    m.forceNotifyObserver = ({ m with suppressStartupChangeNotification := false }, false) := by
  simp [forceNotifyObserver, maybeConsumeEngineStartupChangeNotification, hsuppress]

theorem forceNotifyObserver_of_passed (hsuppress : m.suppressStartupChangeNotification = false) :
    m.forceNotifyObserver = (m, m.areAllProvidersInitialized) := by
  simp [forceNotifyObserver, maybeConsumeEngineStartupChangeNotification, hsuppress]

end Outcomes

end EngineProviders

/-- One engine at startup: its providers, whether `ForceNotifyObserver` was called for it, and how
often its observer was told since it was added. -/
structure EngineStartup extends EngineProviders where
  forced : Bool := false
  received : Nat := 0
deriving DecidableEq, Repr

inductive StartupEvent
  | addProvider (place : Nat) (id : Nat) (initialized : Bool)
  | removeProvider (id : Nat)
  | providerInitialized (id : Nat)
  | onChanged (id : Nat)
  | addObserver
  | forceNotifyObserver
deriving DecidableEq, Repr

namespace EngineStartup

/-- The outcome of a function of the manager.  There is no observer to be told before it was added.
-/
def tell (s : EngineStartup) (outcome : EngineProviders × Bool) : EngineStartup :=
  { s with
    toEngineProviders := outcome.1
    received := if outcome.2 && outcome.1.observed then s.received + 1 else s.received }

def step (s : EngineStartup) : StartupEvent → EngineStartup
  | .addProvider place id initialized =>
    { s with toEngineProviders := s.addProvider place ⟨id, initialized, false⟩ }
  | .removeProvider id => s.tell (s.removeProvider id)
  | .providerInitialized id => { s with toEngineProviders := s.providerInitialized id }
  | .onChanged id => s.tell (s.providerChanged id)
  | .addObserver => s.tell s.addObserver
  | .forceNotifyObserver => { s with forced := true }.tell s.forceNotifyObserver

/-- A provider is added and removed once, and tells the manager only while it is there. -/
def enabled (s : EngineStartup) : StartupEvent → Prop
  | .addProvider _ id _ => ∀ p ∈ s.filtersProviders, p.id ≠ id
  | .removeProvider id | .providerInitialized id | .onChanged id =>
    ∃ p ∈ s.filtersProviders, p.id = id
  | .addObserver => s.observed = false
  | .forceNotifyObserver => True

instance (s : EngineStartup) : ∀ e, Decidable (s.enabled e)
  | .addProvider _ id _ => inferInstanceAs (Decidable (∀ p ∈ s.filtersProviders, ¬p.id = id))
  | .removeProvider id | .providerInitialized id | .onChanged id =>
    inferInstanceAs (Decidable (∃ p ∈ s.filtersProviders, p.id = id))
  | .addObserver => inferInstanceAs (Decidable (s.observed = false))
  | .forceNotifyObserver => inferInstanceAs (Decidable True)

end EngineStartup

/-- Both engines. -/
abbrev ManagerStartup := Bool → EngineStartup

namespace ManagerStartup

def step (s : ManagerStartup) (e : Bool × StartupEvent) : ManagerStartup :=
  Function.update s e.1 ((s e.1).step e.2)

/-- An event of one of the engines. -/
def machine : Machine ManagerStartup (Bool × StartupEvent) Empty where
  enabled s e := (s e.1).enabled e.2
  step s e := .ok (s.step e)

/-- The state after the constructor of the manager, with the feature. -/
def init : ManagerStartup := fun _ => { suppressStartupChangeNotification := true }

end ManagerStartup

namespace EngineStartup

/-- What is known of an engine: the notification that was swallowed is not the one that
`ForceNotifyObserver` was to bring back. -/
structure Remembered (s : EngineStartup) : Prop where
  announced : ∀ p ∈ s.filtersProviders, p.announced = true → p.initialized = true
  consumed : s.forced = true → s.suppressStartupChangeNotification = false
  swallowed : s.observed = true → s.Settled → s.received = 0 →
    s.suppressStartupChangeNotification = false ∧ s.forced = false

section Steps

variable {s : EngineStartup}

theorem Remembered.addProvider (h : s.Remembered) (place id : Nat) (initialized : Bool) :
    (s.step (.addProvider place id initialized)).Remembered := by
  have hnew : (⟨id, initialized, false⟩ : ManagedProvider) ∈
      (s.step (.addProvider place id initialized)).filtersProviders := by
    simp [step, EngineProviders.addProvider]
  refine ⟨fun p hp => ?_, h.consumed, fun _ hsettled _ => ?_⟩
  · have hmem : p = ⟨id, initialized, false⟩ ∨ p ∈ s.filtersProviders := by
      have hp' : p ∈ s.filtersProviders.take place ++
          ⟨id, initialized, false⟩ :: s.filtersProviders.drop place := hp
      rcases List.mem_append.mp hp' with hold | hrest
      · exact .inr (List.mem_of_mem_take hold)
      · exact (List.mem_cons.mp hrest).imp_right List.mem_of_mem_drop
    rcases hmem with rfl | hold
    · simp
    · exact h.announced p hold
  · -- The new provider has not called `OnChanged`.
    have := (hsettled.2 _ hnew).2
    contradiction

theorem Remembered.removeProvider (h : s.Remembered) (id : Nat) :
    (s.step (.removeProvider id)).Remembered := by
  refine ⟨fun p hp => h.announced p (List.mem_of_mem_filter hp), h.consumed, ?_⟩
  intro hobserved _ hreceived
  have hobserved' : s.observed = true := hobserved
  simp [step, tell, EngineProviders.removeProvider, EngineProviders.notifyObservers,
    hobserved'] at hreceived

theorem Remembered.providerInitialized (h : s.Remembered) (id : Nat) :
    (s.step (.providerInitialized id)).Remembered := by
  have hsame : ∀ p ∈ s.filtersProviders, (p.setInitialized id).announced = p.announced ∧
      (p.initialized = true → (p.setInitialized id).initialized = true) := by
    intro p _
    unfold ManagedProvider.setInitialized
    split <;> simp
  refine ⟨?_, h.consumed, fun hobserved hsettled hreceived => ?_⟩
  · intro p hp hannounced
    obtain ⟨q, hq, rfl⟩ := List.mem_map.mp hp
    obtain ⟨hq', hinit⟩ := hsame q hq
    exact hinit (h.announced q hq (hq' ▸ hannounced))
  · refine h.swallowed hobserved ⟨?_, fun p hp => ?_⟩ hreceived
    · simpa [step, EngineProviders.providerInitialized] using hsettled.1
    · have hannounced := (hsettled.2 _ (List.mem_map_of_mem hp)).2
      rw [(hsame p hp).1] at hannounced
      exact ⟨h.announced p hp hannounced, hannounced⟩

theorem Remembered.onChanged (h : s.Remembered) (id : Nat) :
    (s.step (.onChanged id)).Remembered := by
  let told : EngineProviders :=
    { s.toEngineProviders with filtersProviders := s.filtersProviders.map (.announce id) }
  have hannounced : ∀ p ∈ told.filtersProviders, p.announced = true → p.initialized = true := by
    intro p hp
    obtain ⟨q, hq, rfl⟩ := List.mem_map.mp hp
    have hq' := h.announced q hq
    unfold ManagedProvider.announce
    split
    · simpa [or_imp] using hq'
    · exact hq'
  have hstep : s.step (.onChanged id) = s.tell told.onChanged := rfl
  rw [hstep]
  cases hall : told.areAllProvidersInitialized with
  | false =>
    -- Nobody is told, and the providers are not settled.
    rw [EngineProviders.onChanged_of_not_initialized hall]
    refine ⟨hannounced, h.consumed, fun _ hsettled _ => ?_⟩
    have hinit := EngineProviders.Settled.initialized hsettled
    exact absurd (hinit.symm.trans hall) (by simp)
  | true =>
    cases hsuppress : s.suppressStartupChangeNotification with
    | true =>
      have hforced : s.forced = false := by
        by_contra hforced
        simp [h.consumed (by simpa using hforced)] at hsuppress
      rw [EngineProviders.onChanged_of_suppressed hall hsuppress]
      exact ⟨hannounced, fun _ => rfl, fun _ _ _ => ⟨rfl, hforced⟩⟩
    | false =>
      rw [EngineProviders.onChanged_of_passed hall hsuppress]
      refine ⟨hannounced, fun _ => hsuppress, fun hobserved _ hreceived => ?_⟩
      have hobserved' : told.observed = true := hobserved
      simp [tell, hobserved'] at hreceived

theorem Remembered.addObserver (h : s.Remembered) : (s.step .addObserver).Remembered := by
  refine ⟨h.announced, h.consumed, fun _ hsettled hreceived => ?_⟩
  have hinit : ({ s.toEngineProviders with observed := true } :
      EngineProviders).areAllProvidersInitialized = true :=
    EngineProviders.Settled.initialized hsettled
  simp [step, tell, EngineProviders.addObserver, EngineProviders.maybeNotifyObserver,
    hinit] at hreceived

theorem Remembered.forceNotifyObserver (h : s.Remembered) :
    (s.step .forceNotifyObserver).Remembered := by
  cases hsuppress : s.suppressStartupChangeNotification with
  | true =>
    rw [step, EngineProviders.forceNotifyObserver_of_suppressed hsuppress]
    refine ⟨h.announced, fun _ => rfl, fun hobserved hsettled hreceived => ?_⟩
    have hpassed := (h.swallowed hobserved hsettled (by simpa [tell] using hreceived)).1
    exact absurd (hsuppress.symm.trans hpassed) (by simp)
  | false =>
    rw [step, EngineProviders.forceNotifyObserver_of_passed hsuppress]
    refine ⟨h.announced, fun _ => hsuppress, fun hobserved hsettled hreceived => ?_⟩
    have hobserved' : s.observed = true := hobserved
    have hinit : s.areAllProvidersInitialized = true :=
      EngineProviders.Settled.initialized hsettled
    simp [tell, hobserved', hinit] at hreceived

theorem Remembered.step (h : s.Remembered) (e : StartupEvent) : (s.step e).Remembered := by
  cases e with
  | addProvider place id initialized => exact h.addProvider place id initialized
  | removeProvider id => exact h.removeProvider id
  | providerInitialized id => exact h.providerInitialized id
  | onChanged id => exact h.onChanged id
  | addObserver => exact h.addObserver
  | forceNotifyObserver => exact h.forceNotifyObserver

end Steps

end EngineStartup

namespace ManagerStartup

/-- In every state in which the observer of an engine is there, `ForceNotifyObserver` was called for
it, and its providers are settled, the observer was told since it was added. -/
theorem notification_kept {es : List (Bool × StartupEvent)} {s : ManagerStartup}
    (run : Run machine init es s) (isForDefaultEngine : Bool)
    (hobserved : (s isForDefaultEngine).observed = true)
    (hforced : (s isForDefaultEngine).forced = true) (hsettled : (s isForDefaultEngine).Settled) :
    1 ≤ (s isForDefaultEngine).received := by
  have hremembered : ∀ engine, (s engine).Remembered := by
    refine run.preserves (P := fun s => ∀ engine, (s engine).Remembered) ?_ ?_
    · intro s e s' _ hstep h engine
      obtain rfl := Except.ok.inj hstep
      by_cases hengine : engine = e.1
      · subst hengine
        simpa [ManagerStartup.step] using (h e.1).step e.2
      · simpa [ManagerStartup.step, hengine] using h engine
    · intro engine
      exact ⟨by simp [init], by simp [init], by simp [init]⟩
  by_contra hnone
  have hunforced := ((hremembered isForDefaultEngine).swallowed hobserved hsettled (by omega)).2
  simp [hforced] at hunforced

instance (s : ManagerStartup) (e : Bool × StartupEvent) : Decidable (machine.enabled s e) :=
  inferInstanceAs (Decidable ((s e.1).enabled e.2))

/-- The custom filters are ready before the cache is found to be missing. -/
def missingCache : List (Bool × StartupEvent) :=
  [(false, .addProvider 0 0 true), (true, .addProvider 0 1 false), (false, .onChanged 0),
    (true, .addObserver), (false, .addObserver), (true, .forceNotifyObserver),
    (false, .forceNotifyObserver), (true, .providerInitialized 1), (true, .onChanged 1)]

theorem notification_kept_missing_cache :
    ∃ s, Run machine init missingCache s ∧ 1 ≤ (s true).received ∧ 1 ≤ (s false).received := by
  obtain ⟨s, run, hs⟩ := Machine.exists_run machine init missingCache
    (fun s => decide (∀ engine, (s engine).observed = true ∧ (s engine).forced = true ∧
      (s engine).Settled)) (by decide)
  have hready := of_decide_eq_true hs
  refine ⟨s, run, ?_, ?_⟩
  · exact notification_kept run true (hready true).1 (hready true).2.1 (hready true).2.2
  · exact notification_kept run false (hready false).1 (hready false).2.1 (hready false).2.2

end ManagerStartup

end ChromiumAdblock
