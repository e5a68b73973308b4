import Mathlib.Logic.Function.Basic
import ChromiumAdblock.Lib.Machine

/-! How the additional engine gets its rules.  Its providers are the custom filters and the
subscribed lists; whenever one changes, `AdBlockFiltersProviderManager` starts a load, which
collects what each provider adds to a filter set, has the filter set created on the ad-block task
runner, waits for the resources, and then replaces the engine on the ad-block task runner.  Loads
are not cancelled.  The feature `kAdblockDATCache` is off here, as it is by default. -/

namespace ChromiumAdblock

open EventMachine

abbrev DATFileDataBuffer := List UInt8

/-- `AdBlockCustomFiltersProvider`, or `AdBlockSubscriptionFiltersProvider` with the URL of its
list. -/
inductive ProviderSource
  | custom
  | subscription (url : String)
deriving DecidableEq, Repr

/-- A provider that is there.  `announced` says that it has called `NotifyObservers`. -/
structure FiltersProvider where
  id : Nat
  source : ProviderSource
  announced : Bool
deriving DecidableEq, Repr

/-- The provider after the one with this identifier has called `NotifyObservers`. -/
def FiltersProvider.announce (id : Nat) (p : FiltersProvider) : FiltersProvider :=
  if p.id = id then { p with announced := true } else p

/-- What the callback of a provider adds to a filter set: a list, with its permissions. -/
structure FilterList where
  provider : Nat
  buffer : DATFileDataBuffer
  permissionMask : Nat
deriving DecidableEq, Repr

/-- `adblock::FilterSet`: the lists that were added. -/
abbrev FilterSet := List FilterList

def kCustomFiltersPermissionLevel : Nat := 255

/-- A call of `LoadFilterSetForEngine`: the providers that its barrier waits for, and the callbacks
that were collected. -/
structure FilterSetLoad where
  providers : List Nat := []
  results : List FilterList := []
deriving DecidableEq, Repr

/-- Tasks on the UI thread. -/
inductive UiTask
  | loadFilterSet (load provider : Nat)
  /-- The callback that the custom filters provider posted. -/
  | runCallback (load : Nat) (list : FilterList)
  /-- The reply to the read of a list. -/
  | onDATFileDataReady (load provider : Nat) (buffer : DATFileDataBuffer)
  | onFilterSetCreated (load : Nat) (filterSet : FilterSet)
  /-- The list of a subscription was replaced. -/
  | onListAvailable (url : String)
deriving DecidableEq, Repr

/-- Tasks on the ad-block task runner. -/
inductive RunnerTask
  | createFilterSet (load : Nat) (results : List FilterList)
  | loadEngine (filterSet : FilterSet)
deriving DecidableEq, Repr

/-- A read of a list on the thread pool. -/
structure FileRead where
  load : Nat
  provider : Nat
  url : String
deriving DecidableEq, Repr

/-- A load that waits for the resources. -/
structure ResourceWait where
  load : Nat
  filterSet : FilterSet
deriving DecidableEq, Repr

/-- The additional engine with everything that fills it.  `engine` is the filter set that its rules
were made from, and `answered` are the loads that got their resources. -/
structure AdditionalFilters where
  customFilters : DATFileDataBuffer
  listFiles : String → DATFileDataBuffer
  providers : List FiltersProvider
  nextProvider : Nat
  suppressStartupNotification : Bool := false
  loads : Nat → FilterSetLoad := fun _ => {}
  nextLoad : Nat := 0
  ui : List UiTask := []
  runner : List RunnerTask := []
  reads : List FileRead := []
  resourceWaits : List ResourceWait := []
  answered : List Nat := []
  engine : FilterSet := []

namespace AdditionalFilters

def provider? (s : AdditionalFilters) (id : Nat) : Option FiltersProvider :=
  s.providers.find? fun p => p.id == id

/-- `FinishCombinating` and `OnFilterSetLoaded`. -/
def finishCombinating (s : AdditionalFilters) (load : Nat) (results : List FilterList) :
    AdditionalFilters :=
  { s with runner := s.runner ++ [.createFilterSet load results] }

/-- `LoadFilterSetForEngine`.  A barrier that waits for nothing is done at once. -/
def loadFilterSetForEngine (s : AdditionalFilters) : AdditionalFilters :=
  let load := s.nextLoad
  let providers := s.providers.map (·.id)
  let s := { s with
    loads := Function.update s.loads load { providers := providers }
    nextLoad := load + 1
    ui := s.ui ++ providers.map (.loadFilterSet load) }
  if providers = [] then s.finishCombinating load [] else s

/-- The barrier callback of a load. -/
def collect (s : AdditionalFilters) (load : Nat) (list : FilterList) : AdditionalFilters :=
  let results := (s.loads load).results ++ [list]
  let s := { s with loads := Function.update s.loads load { s.loads load with results := results } }
  if results.length = (s.loads load).providers.length then s.finishCombinating load results else s

/-- No provider of this engine overrides `IsInitialized`. -/
def areAllProvidersInitialized (s : AdditionalFilters) : Bool := !s.providers.isEmpty

/-- `OnChanged` of the manager. -/
def onChanged (s : AdditionalFilters) : AdditionalFilters :=
  if s.areAllProvidersInitialized = false then s
  else if s.suppressStartupNotification then { s with suppressStartupNotification := false }
  else s.loadFilterSetForEngine

/-- `NotifyObservers` of a provider. -/
def notifyObservers (s : AdditionalFilters) (id : Nat) : AdditionalFilters :=
  { s with providers := s.providers.map (.announce id) }.onChanged

/-- `UpdateCustomFilters`; the custom filters provider is the first one that was made. -/
def updateCustomFilters (s : AdditionalFilters) (text : DATFileDataBuffer) : AdditionalFilters :=
  { s with customFilters := text }.notifyObservers 0

/-- The constructor of a subscription's provider, and `OnListAvailable` where it is called next.
The set of the providers is ordered by their addresses, so `place` may be any. -/
def createProvider (s : AdditionalFilters) (place : Nat) (url : String) (available : Bool) :
    AdditionalFilters :=
  let provider : FiltersProvider := ⟨s.nextProvider, .subscription url, false⟩
  let s := { s with
    providers := s.providers.take place ++ provider :: s.providers.drop place
    nextProvider := s.nextProvider + 1 }
  if available then s.notifyObservers provider.id else s

/-- The destructor of a provider, with `RemoveProvider`. -/
def destroyProvider (s : AdditionalFilters) (id : Nat) : AdditionalFilters :=
  { s with providers := s.providers.filter fun p => p.id ≠ id }.loadFilterSetForEngine

/-- The list of a subscription is replaced, which is going to be told to its provider. -/
def replaceList (s : AdditionalFilters) (url : String) (buffer : DATFileDataBuffer) :
    AdditionalFilters :=
  { s with
    listFiles := Function.update s.listFiles url buffer
    ui := s.ui ++ [.onListAvailable url] }

/-- `LoadFilterSet` of a provider, which is held weakly. -/
def loadFilterSet (s : AdditionalFilters) (load id : Nat) : AdditionalFilters :=
  match s.provider? id with
  | none => s
  | some p =>
    match p.source with
    | .custom =>
      { s with
        ui := s.ui ++ [.runCallback load ⟨id, s.customFilters, kCustomFiltersPermissionLevel⟩] }
    | .subscription url => { s with reads := s.reads ++ [⟨load, id, url⟩] }

/-- `OnDATFileDataReady`, which is bound weakly. -/
def onDATFileDataReady (s : AdditionalFilters) (load id : Nat) (buffer : DATFileDataBuffer) :
    AdditionalFilters :=
  match s.provider? id with
  | none => s
  | some _ => s.collect load ⟨id, buffer, 0⟩

/-- `OnListAvailable` of the provider of a subscription, if there is one. -/
def onListAvailable (s : AdditionalFilters) (url : String) : AdditionalFilters :=
  match s.providers.find? fun p => p.source = .subscription url with
  | none => s
  | some p => s.notifyObservers p.id

def runUiTask (s : AdditionalFilters) : UiTask → AdditionalFilters
  | .loadFilterSet load id => s.loadFilterSet load id
  | .runCallback load list => s.collect load list
  | .onDATFileDataReady load id buffer => s.onDATFileDataReady load id buffer
  | .onFilterSetCreated load filterSet =>
    { s with resourceWaits := s.resourceWaits ++ [⟨load, filterSet⟩] }
  | .onListAvailable url => s.onListAvailable url

def runUi (s : AdditionalFilters) : AdditionalFilters :=
  match s.ui with
  | [] => s
  | task :: rest => { s with ui := rest }.runUiTask task

def runRunner (s : AdditionalFilters) : AdditionalFilters :=
  match s.runner with
  | [] => s
  | .createFilterSet load results :: rest =>
    { s with runner := rest, ui := s.ui ++ [.onFilterSetCreated load results] }
  | .loadEngine filterSet :: rest => { s with runner := rest, engine := filterSet }

/-- The thread pool has done one of the reads. -/
def finishRead (s : AdditionalFilters) (i : Nat) : AdditionalFilters :=
  match s.reads[i]? with
  | none => s
  | some read =>
    { s with
      reads := s.reads.eraseIdx i
      ui := s.ui ++ [.onDATFileDataReady read.load read.provider (s.listFiles read.url)] }

/-- The resources arrive for one of the loads that wait for them: `OnAllLoaded`. -/
def resourcesLoaded (s : AdditionalFilters) (i : Nat) : AdditionalFilters :=
  match s.resourceWaits[i]? with
  | none => s
  | some wait =>
    { s with
      resourceWaits := s.resourceWaits.eraseIdx i
      answered := s.answered ++ [wait.load]
      runner := s.runner ++ [.loadEngine wait.filterSet] }

/-- The state after the constructor of `AdBlockService`: the custom filters provider is there, and
the observer of the engine was told once. -/
def init (customFilters : DATFileDataBuffer) (listFiles : String → DATFileDataBuffer) :
    AdditionalFilters :=
  { customFilters := customFilters
    listFiles := listFiles
    providers := [⟨0, .custom, true⟩]
    nextProvider := 1 : AdditionalFilters }.loadFilterSetForEngine

end AdditionalFilters

inductive FilterEvent
  | updateCustomFilters (text : DATFileDataBuffer)
  | createProvider (place : Nat) (url : String) (available : Bool)
  | destroyProvider (id : Nat)
  | replaceList (url : String) (buffer : DATFileDataBuffer)
  | runUi
  | runRunner
  | finishRead (i : Nat)
  | resourcesLoaded (i : Nat)
deriving DecidableEq, Repr

namespace AdditionalFilters

def step (s : AdditionalFilters) : FilterEvent → AdditionalFilters
  | .updateCustomFilters text => s.updateCustomFilters text
  | .createProvider place url available => s.createProvider place url available
  | .destroyProvider id => s.destroyProvider id
  | .replaceList url buffer => s.replaceList url buffer
  | .runUi => s.runUi
  | .runRunner => s.runRunner
  | .finishRead i => s.finishRead i
  | .resourcesLoaded i => s.resourcesLoaded i

/-- Only providers of subscriptions are destroyed; the custom filters provider lives as long as the
service. -/
def enabled (s : AdditionalFilters) : FilterEvent → Prop
  | .updateCustomFilters _ | .createProvider _ _ _ | .replaceList _ _ => True
  | .destroyProvider id => ∃ p ∈ s.provider? id, p.source ≠ .custom
  | .runUi => s.ui ≠ []
  | .runRunner => s.runner ≠ []
  | .finishRead i => i < s.reads.length
  | .resourcesLoaded i => i < s.resourceWaits.length

instance (s : AdditionalFilters) : ∀ e, Decidable (s.enabled e)
  | .updateCustomFilters _ | .createProvider _ _ _ | .replaceList _ _ =>
    inferInstanceAs (Decidable True)
  | .destroyProvider id =>
    inferInstanceAs (Decidable (∃ p ∈ s.provider? id, ¬p.source = .custom))
  | .runUi => inferInstanceAs (Decidable (¬s.ui = []))
  | .runRunner => inferInstanceAs (Decidable (¬s.runner = []))
  | .finishRead i => inferInstanceAs (Decidable (i < s.reads.length))
  | .resourcesLoaded i => inferInstanceAs (Decidable (i < s.resourceWaits.length))

def machine : Machine AdditionalFilters FilterEvent Empty where
  enabled := enabled
  step s e := .ok (s.step e)

instance (s : AdditionalFilters) (e : FilterEvent) : Decidable (machine.enabled s e) :=
  inferInstanceAs (Decidable (s.enabled e))

/-- Nothing is in flight. -/
def Idle (s : AdditionalFilters) : Prop :=
  s.ui = [] ∧ s.runner = [] ∧ s.reads = [] ∧ s.resourceWaits = []

instance (s : AdditionalFilters) : Decidable s.Idle :=
  inferInstanceAs (Decidable (_ ∧ _ ∧ _ ∧ _))

/-- The list that a provider would add now. -/
def currentList (s : AdditionalFilters) (p : FiltersProvider) : FilterList :=
  match p.source with
  | .custom => ⟨p.id, s.customFilters, kCustomFiltersPermissionLevel⟩
  | .subscription url => ⟨p.id, s.listFiles url, 0⟩

/-- The filter set of the current lists of all providers that have announced a change. -/
def currentFilterSet (s : AdditionalFilters) : FilterSet :=
  (s.providers.filter (·.announced)).map s.currentList

end AdditionalFilters

end ChromiumAdblock
