import ChromiumAdblock.Shields.FilterLoads
import ChromiumAdblock.Shields.ProvidersManager

/-! `AdBlockService` as far as it fills the two engines.  With the feature `kAdblockDATCache` the
rules of the last session are read from disk at startup; on their own way the lists of all providers
are collected into a filter set, and the filter set is made into rules once the resources are there.
Both kinds of rules replace those of the engine on the ad-block task runner. -/

namespace ChromiumAdblock

open EventMachine

/-- What the engines use of adblock-rust: rules `ρ`, and resource storages `σ`.  An empty buffer
does not load. -/
structure AdblockRust (ρ σ : Type) where
  newEngine : ρ
  deserialize : DATFileDataBuffer → Option ρ
  deserialize_nil : deserialize [] = none
  serialize : ρ → DATFileDataBuffer
  engineFromFilterSet : FilterSet → Option ρ
  newEmptyResourceStorage : σ

/-- `AdBlockEngine`, with the rules of its client. -/
structure LoadedEngine (ρ σ : Type) where
  rules : ρ
  resources : σ

namespace LoadedEngine

variable {ρ σ : Type} (lib : AdblockRust ρ σ) (engine : LoadedEngine ρ σ)

def useResources (storage : σ) : LoadedEngine ρ σ := { engine with resources := storage }

def updateAdBlockClient (client : ρ) (storage : σ) : LoadedEngine ρ σ :=
  { engine with rules := client }.useResources storage

def onFilterSetLoaded (filterSet : FilterSet) (storage : σ) : LoadedEngine ρ σ × Bool :=
  match lib.engineFromFilterSet filterSet with
  | none => (engine, false)
  | some client => (engine.updateAdBlockClient client storage, true)

def onDATLoaded (dat : DATFileDataBuffer) (storage : σ) : LoadedEngine ρ σ × Bool :=
  if dat = [] then (engine, false)
  else
    match lib.deserialize dat with
    | none => (engine, false)
    | some client => (engine.updateAdBlockClient client storage, true)

/-- `AdBlockEngineWrapper::Load`, for the engine that it is about. -/
def load (filterSet : Option FilterSet) (storage : σ) : LoadedEngine ρ σ × Bool :=
  match filterSet with
  | some filterSet => engine.onFilterSetLoaded lib filterSet storage
  | none => (engine.useResources storage, true)

/-- `AdBlockEngineWrapper::LoadDAT`, for the engine that it is about. -/
def loadDAT (dat : DATFileDataBuffer) (storage : σ) : LoadedEngine ρ σ × Bool :=
  if dat ≠ [] then engine.onDATLoaded lib dat storage else (engine.useResources storage, true)

end LoadedEngine

/-- Where a provider has its list: in memory, or in a file. -/
inductive ListOrigin
  | memory (buffer : DATFileDataBuffer) (permissionMask : Nat)
  | file
deriving DecidableEq, Repr

/-- A call of `LoadFilterSetForEngine`: the providers that its barrier waits for, and the callbacks
that were collected. -/
structure EngineFilterSetLoad where
  isForDefaultEngine : Bool := true
  providers : List Nat := []
  results : FilterSet := []
deriving DecidableEq, Repr

inductive FilterListLoadResult
  | kFailed
  | kResourcesOnly
  | kLoaded
deriving DecidableEq, Repr

/-- Tasks on the UI thread. -/
inductive ServiceTask
  | loadFilterSet (load provider : Nat)
  /-- The callback that a provider with its list in memory posted. -/
  | runCallback (load : Nat) (list : FilterList)
  /-- The reply to the read of a list. -/
  | onDATFileDataReady (load provider : Nat) (buffer : DATFileDataBuffer)
  | onFilterSetCreated (isDefaultEngine : Bool) (filterSet : FilterSet)
  | onReadCachedDATFiles (defaultDat additionalDat : Option DATFileDataBuffer)
  | onDATLoaded (isDefaultEngine : Bool) (success : Bool)
  | onEngineLoaded (isDefaultEngine : Bool) (result : FilterListLoadResult)
    (serializedDat : Option DATFileDataBuffer)
deriving DecidableEq, Repr

/-- Tasks on the ad-block task runner. -/
inductive EngineTask (σ : Type)
  | createFilterSet (isDefaultEngine : Bool) (results : FilterSet)
  | load (isDefaultEngine : Bool) (filterSet : Option FilterSet) (storage : σ)
  | loadDAT (isDefaultEngine : Bool) (dat : DATFileDataBuffer) (storage : σ)
deriving DecidableEq, Repr

/-- Tasks of `AdBlockDATCacheManager`. -/
inductive DATCacheTask
  | readCachedDATFilesFromDisk
  | writeDATFile (isDefaultEngine : Bool) (dat : DATFileDataBuffer)
deriving DecidableEq, Repr

/-- A read of the list of a provider on the thread pool. -/
structure ListRead where
  load : Nat
  provider : Nat
deriving DecidableEq, Repr

/-- A call of `LoadResources` that is not answered. -/
structure ResourceLoad where
  isDefaultEngine : Bool
  filterSet : Option FilterSet
deriving DecidableEq, Repr

/-- What a `LoadDAT` did to the rules of its engine. -/
structure DATRun (ρ : Type) where
  isDefaultEngine : Bool
  dat : DATFileDataBuffer
  before : ρ
  after : ρ
deriving DecidableEq, Repr

/-- `AdBlockService`.  `delivered` are the filter sets that the loads ended with, `listLoaded` says
whether a filter set was made into the rules of an engine; `datRuns`, `datLoaded`, and `forced` are
the calls of `LoadDAT`, of `OnDATLoaded`, and of `ForceNotifyObserver`. -/
structure AdBlockService (ρ σ : Type) where
  kAdblockDATCache : Bool
  manager : AdBlockFiltersProviderManager
  lists : Nat → ListOrigin := fun _ => .file
  nextProvider : Nat := 0
  loads : Nat → EngineFilterSetLoad := fun _ => {}
  nextLoad : Nat := 0
  ui : List ServiceTask := []
  runner : List (EngineTask σ) := []
  datRunner : List DATCacheTask := []
  datFiles : Bool → Option DATFileDataBuffer
  reads : List ListRead := []
  resourceLoads : List ResourceLoad := []
  resourceObservers : List Bool := []
  engines : Bool → LoadedEngine ρ σ
  delivered : List (Nat × FilterSet) := []
  listLoaded : Bool → Bool := fun _ => false
  datRuns : List (DATRun ρ) := []
  datLoaded : List (Bool × Bool) := []
  forced : List Bool := []

namespace AdBlockService

variable {ρ σ : Type} (lib : AdblockRust ρ σ) (s : AdBlockService ρ σ)

def provider? (isForDefaultEngine : Bool) (id : Nat) : Option ManagedProvider :=
  (s.manager isForDefaultEngine).filtersProviders.find? fun p => p.id == id

/-- The providers that are registered for an engine. -/
def providerIds (isForDefaultEngine : Bool) : List Nat :=
  (s.manager isForDefaultEngine).filtersProviders.map (·.id)

def postUi (task : ServiceTask) : AdBlockService ρ σ := { s with ui := s.ui ++ [task] }

def postRunner (task : EngineTask σ) : AdBlockService ρ σ := { s with runner := s.runner ++ [task] }

/-- `FinishCombinating` and `OnFilterSetLoaded`. -/
def finishCombinating (load : Nat) (results : FilterSet) : AdBlockService ρ σ :=
  { s with delivered := s.delivered ++ [(load, results)] }.postRunner
    (.createFilterSet (s.loads load).isForDefaultEngine results)

/-- The barrier of a call of `LoadFilterSetForEngine` is made, and the providers are asked. -/
def askProviders (isForDefaultEngine : Bool) : AdBlockService ρ σ :=
  { s with
    loads := Function.update s.loads s.nextLoad
      ⟨isForDefaultEngine, s.providerIds isForDefaultEngine, []⟩
    nextLoad := s.nextLoad + 1
    ui := s.ui ++ (s.providerIds isForDefaultEngine).map (.loadFilterSet s.nextLoad) }

/-- `LoadFilterSetForEngine`, as `OnChanged` of the observer calls it.  A barrier that waits for
nothing is done at once. -/
def loadFilterSetForEngine (isForDefaultEngine : Bool) : AdBlockService ρ σ :=
  if s.providerIds isForDefaultEngine = [] then
    (s.askProviders isForDefaultEngine).finishCombinating s.nextLoad []
  else s.askProviders isForDefaultEngine

/-- A callback is collected by the barrier of a load. -/
def addResult (load : Nat) (list : FilterList) : AdBlockService ρ σ :=
  { s with
    loads := Function.update s.loads load
      { s.loads load with results := (s.loads load).results ++ [list] } }

/-- The barrier callback of a load. -/
def collect (load : Nat) (list : FilterList) : AdBlockService ρ σ :=
  if (s.loads load).results.length + 1 = (s.loads load).providers.length then
    (s.addResult load list).finishCombinating load ((s.loads load).results ++ [list])
  else s.addResult load list

def withProviders (isForDefaultEngine : Bool) (m : EngineProviders) : AdBlockService ρ σ :=
  { s with manager := Function.update s.manager isForDefaultEngine m }

/-- The outcome of a function of the manager: the observer of the engine is told, or is not. -/
def tell (isForDefaultEngine : Bool) (outcome : EngineProviders × Bool) : AdBlockService ρ σ :=
  if outcome.2 then
    (s.withProviders isForDefaultEngine outcome.1).loadFilterSetForEngine isForDefaultEngine
  else s.withProviders isForDefaultEngine outcome.1

/-- The constructor of a provider. -/
def createProvider (isForDefaultEngine : Bool) (place : Nat) (list : ListOrigin)
    (initialized : Bool) : AdBlockService ρ σ :=
  { s with
    lists := Function.update s.lists s.nextProvider list
    nextProvider := s.nextProvider + 1 }.withProviders isForDefaultEngine
    ((s.manager isForDefaultEngine).addProvider place ⟨s.nextProvider, initialized, false⟩)

/-- The destructor of a provider. -/
def destroyProvider (isForDefaultEngine : Bool) (id : Nat) : AdBlockService ρ σ :=
  s.tell isForDefaultEngine ((s.manager isForDefaultEngine).removeProvider id)

def providerInitialized (isForDefaultEngine : Bool) (id : Nat) : AdBlockService ρ σ :=
  s.withProviders isForDefaultEngine ((s.manager isForDefaultEngine).providerInitialized id)

/-- `NotifyObservers` of a provider. -/
def providerChanged (isForDefaultEngine : Bool) (id : Nat) : AdBlockService ρ σ :=
  s.tell isForDefaultEngine ((s.manager isForDefaultEngine).providerChanged id)

/-- `UpdateCustomFilters`. -/
def updateList (isForDefaultEngine : Bool) (id : Nat) (buffer : DATFileDataBuffer)
    (permissionMask : Nat) : AdBlockService ρ σ :=
  { s with lists := Function.update s.lists id (.memory buffer permissionMask) }.providerChanged
    isForDefaultEngine id

/-- The constructor of `SourceProviderObserver`. -/
def addObserver (isForDefaultEngine : Bool) : AdBlockService ρ σ :=
  s.tell isForDefaultEngine (s.manager isForDefaultEngine).addObserver

def forceNotifyObserver (isForDefaultEngine : Bool) : AdBlockService ρ σ :=
  { s with forced := s.forced ++ [isForDefaultEngine] }.tell isForDefaultEngine
    (s.manager isForDefaultEngine).forceNotifyObserver

/-- `LoadFilterSet` of a provider, which is held weakly. -/
def loadFilterSet (load id : Nat) : AdBlockService ρ σ :=
  match s.provider? (s.loads load).isForDefaultEngine id with
  | none => s
  | some _ =>
    match s.lists id with
    | .memory buffer permissionMask => s.postUi (.runCallback load ⟨id, buffer, permissionMask⟩)
    | .file => { s with reads := s.reads ++ [⟨load, id⟩] }

/-- `OnDATFileDataReady`, which is bound weakly. -/
def onDATFileDataReady (load id : Nat) (buffer : DATFileDataBuffer) : AdBlockService ρ σ :=
  match s.provider? (s.loads load).isForDefaultEngine id with
  | none => s
  | some _ => s.collect load ⟨id, buffer, 0⟩

/-- `LoadResources` of `SourceProviderObserver`. -/
def loadResources (isDefaultEngine : Bool) (filterSet : Option FilterSet) : AdBlockService ρ σ :=
  { s with
    resourceObservers :=
      if isDefaultEngine ∈ s.resourceObservers then s.resourceObservers
      else s.resourceObservers ++ [isDefaultEngine]
    resourceLoads := s.resourceLoads ++ [⟨isDefaultEngine, filterSet⟩] }

/-- `AdBlockService::OnResourcesLoaded`. -/
def onResourcesLoaded (isDefaultEngine : Bool) (dat : Option DATFileDataBuffer)
    (filterSet : Option FilterSet) (storage : σ) : AdBlockService ρ σ :=
  match dat with
  | some dat => s.postRunner (.loadDAT isDefaultEngine dat storage)
  | none => s.postRunner (.load isDefaultEngine filterSet storage)

/-- `OnDATFileRead` of `SourceProviderObserver`. -/
def onDATFileRead (isDefaultEngine : Bool) (dat : DATFileDataBuffer) : AdBlockService ρ σ :=
  (s.onResourcesLoaded isDefaultEngine (some dat) none lib.newEmptyResourceStorage).loadResources
    isDefaultEngine none

/-- The observers of the service are told of `OnDATLoaded`. -/
def notifyDATLoaded (isDefaultEngine : Bool) (success : Bool) : AdBlockService ρ σ :=
  { s with datLoaded := s.datLoaded ++ [(isDefaultEngine, success)] }

/-- `AdBlockService::OnDATLoaded`. -/
def onDATLoaded (isDefaultEngine : Bool) (success : Bool) : AdBlockService ρ σ :=
  if success then s.notifyDATLoaded isDefaultEngine true
  else (s.forceNotifyObserver isDefaultEngine).notifyDATLoaded isDefaultEngine false

/-- What `OnReadCachedDATFiles` does for one of the engines. -/
def onReadCachedDATFile (isDefaultEngine : Bool) : Option DATFileDataBuffer → AdBlockService ρ σ
  | some dat => s.onDATFileRead lib isDefaultEngine dat
  | none => s.onDATLoaded isDefaultEngine false

def onReadCachedDATFiles (defaultDat additionalDat : Option DATFileDataBuffer) :
    AdBlockService ρ σ :=
  (s.onReadCachedDATFile lib true defaultDat).onReadCachedDATFile lib false additionalDat

def onEngineLoaded (isDefaultEngine : Bool) (_result : FilterListLoadResult)
    (serializedDat : Option DATFileDataBuffer) : AdBlockService ρ σ :=
  match serializedDat with
  | none => s
  | some dat =>
    if dat = [] then s
    else { s with datRunner := s.datRunner ++ [.writeDATFile isDefaultEngine dat] }

def runUiTask : ServiceTask → AdBlockService ρ σ
  | .loadFilterSet load id => s.loadFilterSet load id
  | .runCallback load list => s.collect load list
  | .onDATFileDataReady load id buffer => s.onDATFileDataReady load id buffer
  | .onFilterSetCreated isDefaultEngine filterSet =>
    s.loadResources isDefaultEngine (some filterSet)
  | .onReadCachedDATFiles defaultDat additionalDat =>
    s.onReadCachedDATFiles lib defaultDat additionalDat
  | .onDATLoaded isDefaultEngine success => s.onDATLoaded isDefaultEngine success
  | .onEngineLoaded isDefaultEngine result serializedDat =>
    s.onEngineLoaded isDefaultEngine result serializedDat

def runUi : AdBlockService ρ σ :=
  match s.ui with
  | [] => s
  | task :: rest => { s with ui := rest }.runUiTask lib task

/-- What the task of a `Load` that did not fail replies. -/
def loadReply (isDefaultEngine : Bool) (filterSet : Option FilterSet) (rules : ρ) : ServiceTask :=
  if filterSet.isNone then .onEngineLoaded isDefaultEngine .kResourcesOnly none
  else if s.kAdblockDATCache = false then .onEngineLoaded isDefaultEngine .kLoaded none
  else .onEngineLoaded isDefaultEngine .kLoaded (some (lib.serialize rules))

/-- The task of a `Load`, with its reply. -/
def runLoad (isDefaultEngine : Bool) (filterSet : Option FilterSet) (storage : σ) :
    AdBlockService ρ σ :=
  match (s.engines isDefaultEngine).load lib filterSet storage with
  | (engine, false) =>
    { s with
      engines := Function.update s.engines isDefaultEngine engine
      ui := s.ui ++ [.onEngineLoaded isDefaultEngine .kFailed none] }
  | (engine, true) =>
    { s with
      engines := Function.update s.engines isDefaultEngine engine
      listLoaded :=
        if filterSet.isNone then s.listLoaded else Function.update s.listLoaded isDefaultEngine true
      ui := s.ui ++ [s.loadReply lib isDefaultEngine filterSet engine.rules] }

/-- The task of a `LoadDAT`, with its reply. -/
def runLoadDAT (isDefaultEngine : Bool) (dat : DATFileDataBuffer) (storage : σ) :
    AdBlockService ρ σ :=
  match (s.engines isDefaultEngine).loadDAT lib dat storage with
  | (engine, success) =>
    { s with
      engines := Function.update s.engines isDefaultEngine engine
      datRuns := s.datRuns ++ [⟨isDefaultEngine, dat, (s.engines isDefaultEngine).rules,
        engine.rules⟩]
      ui := s.ui ++ [.onDATLoaded isDefaultEngine success] }

def runEngineTask : EngineTask σ → AdBlockService ρ σ
  | .createFilterSet isDefaultEngine results =>
    s.postUi (.onFilterSetCreated isDefaultEngine results)
  | .load isDefaultEngine filterSet storage => s.runLoad lib isDefaultEngine filterSet storage
  | .loadDAT isDefaultEngine dat storage => s.runLoadDAT lib isDefaultEngine dat storage

def runRunner : AdBlockService ρ σ :=
  match s.runner with
  | [] => s
  | task :: rest => { s with runner := rest }.runEngineTask lib task

/-- The runner of the cache runs its next task.  A write fails where the directory cannot be made or
the file cannot be replaced, and nobody is told. -/
def runDATRunner (ok : Bool) : AdBlockService ρ σ :=
  match s.datRunner with
  | [] => s
  | .readCachedDATFilesFromDisk :: rest =>
    { s with datRunner := rest }.postUi (.onReadCachedDATFiles (s.datFiles true) (s.datFiles false))
  | .writeDATFile isDefaultEngine dat :: rest =>
    { s with
      datRunner := rest
      datFiles := if ok then Function.update s.datFiles isDefaultEngine (some dat) else s.datFiles }

/-- The thread pool has done one of the reads. -/
def finishRead (i : Nat) (buffer : DATFileDataBuffer) : AdBlockService ρ σ :=
  match s.reads[i]? with
  | none => s
  | some read =>
    { s with reads := s.reads.eraseIdx i }.postUi
      (.onDATFileDataReady read.load read.provider buffer)

/-- One of the calls of `LoadResources` is answered: `OnAllLoaded`. -/
def onAllLoaded (i : Nat) (storage : σ) : AdBlockService ρ σ :=
  match s.resourceLoads[i]? with
  | none => s
  | some load =>
    { s with resourceLoads := s.resourceLoads.eraseIdx i }.onResourcesLoaded load.isDefaultEngine
      none load.filterSet storage

/-- The resource provider has new resources, and tells its observers. -/
def notifyResourcesLoaded (storage : σ) : AdBlockService ρ σ :=
  s.resourceObservers.foldl
    (fun s isDefaultEngine => s.onResourcesLoaded isDefaultEngine none none storage) s

/-- The state in the constructor, where the cache is asked for and the manager is made. -/
def init (kAdblockDATCache : Bool) (datFiles : Bool → Option DATFileDataBuffer) :
    AdBlockService ρ σ where
  kAdblockDATCache := kAdblockDATCache
  manager := fun _ => { suppressStartupChangeNotification := kAdblockDATCache }
  datRunner := if kAdblockDATCache then [.readCachedDATFilesFromDisk] else []
  datFiles := datFiles
  engines := fun _ => ⟨lib.newEngine, lib.newEmptyResourceStorage⟩

end AdBlockService

inductive LoadEvent (σ : Type)
  | createProvider (isForDefaultEngine : Bool) (place : Nat) (list : ListOrigin)
    (initialized : Bool)
  | destroyProvider (isForDefaultEngine : Bool) (id : Nat)
  | providerInitialized (isForDefaultEngine : Bool) (id : Nat)
  | providerChanged (isForDefaultEngine : Bool) (id : Nat)
  | updateList (isForDefaultEngine : Bool) (id : Nat) (buffer : DATFileDataBuffer)
    (permissionMask : Nat)
  | addObserver (isForDefaultEngine : Bool)
  | loadFilterSetForEngine (isForDefaultEngine : Bool)
  | runUi
  | runRunner
  | runDATRunner (ok : Bool)
  | finishRead (i : Nat) (buffer : DATFileDataBuffer)
  | resourcesLoaded (i : Nat) (storage : σ)
  | resourcesChanged (storage : σ)
deriving DecidableEq, Repr

namespace AdBlockService

variable {ρ σ : Type} (lib : AdblockRust ρ σ)

def step (s : AdBlockService ρ σ) : LoadEvent σ → AdBlockService ρ σ
  | .createProvider isForDefaultEngine place list initialized =>
    s.createProvider isForDefaultEngine place list initialized
  | .destroyProvider isForDefaultEngine id => s.destroyProvider isForDefaultEngine id
  | .providerInitialized isForDefaultEngine id => s.providerInitialized isForDefaultEngine id
  | .providerChanged isForDefaultEngine id => s.providerChanged isForDefaultEngine id
  | .updateList isForDefaultEngine id buffer permissionMask =>
    s.updateList isForDefaultEngine id buffer permissionMask
  | .addObserver isForDefaultEngine => s.addObserver isForDefaultEngine
  | .loadFilterSetForEngine isForDefaultEngine => s.loadFilterSetForEngine isForDefaultEngine
  | .runUi => s.runUi lib
  | .runRunner => s.runRunner lib
  | .runDATRunner ok => s.runDATRunner ok
  | .finishRead i buffer => s.finishRead i buffer
  | .resourcesLoaded i storage => s.onAllLoaded i storage
  | .resourcesChanged storage => s.notifyResourcesLoaded storage

/-- The UI thread runs its tasks when the constructor is done, so when both observers are there. -/
def enabled (s : AdBlockService ρ σ) : LoadEvent σ → Prop
  | .createProvider _ _ _ _ | .resourcesChanged _ => True
  | .destroyProvider isForDefaultEngine id | .providerInitialized isForDefaultEngine id
  | .providerChanged isForDefaultEngine id | .updateList isForDefaultEngine id _ _ =>
    id ∈ s.providerIds isForDefaultEngine
  | .addObserver isForDefaultEngine => (s.manager isForDefaultEngine).observed = false
  | .loadFilterSetForEngine isForDefaultEngine => (s.manager isForDefaultEngine).observed = true
  | .runUi => s.ui ≠ [] ∧ ∀ engine, (s.manager engine).observed = true
  | .runRunner => s.runner ≠ []
  | .runDATRunner _ => s.datRunner ≠ []
  | .finishRead i _ => i < s.reads.length
  | .resourcesLoaded i _ => i < s.resourceLoads.length

instance (s : AdBlockService ρ σ) : ∀ e, Decidable (s.enabled e)
  | .createProvider _ _ _ _ | .resourcesChanged _ => inferInstanceAs (Decidable True)
  | .destroyProvider isForDefaultEngine id | .providerInitialized isForDefaultEngine id
  | .providerChanged isForDefaultEngine id | .updateList isForDefaultEngine id _ _ =>
    inferInstanceAs (Decidable (id ∈ s.providerIds isForDefaultEngine))
  | .addObserver isForDefaultEngine =>
    inferInstanceAs (Decidable ((s.manager isForDefaultEngine).observed = false))
  | .loadFilterSetForEngine isForDefaultEngine =>
    inferInstanceAs (Decidable ((s.manager isForDefaultEngine).observed = true))
  | .runUi =>
    inferInstanceAs (Decidable (¬s.ui = [] ∧ ∀ engine, (s.manager engine).observed = true))
  | .runRunner => inferInstanceAs (Decidable (¬s.runner = []))
  | .runDATRunner _ => inferInstanceAs (Decidable (¬s.datRunner = []))
  | .finishRead i _ => inferInstanceAs (Decidable (i < s.reads.length))
  | .resourcesLoaded i _ => inferInstanceAs (Decidable (i < s.resourceLoads.length))

def machine : Machine (AdBlockService ρ σ) (LoadEvent σ) Empty where
  enabled := enabled
  step s e := .ok (s.step lib e)

instance (s : AdBlockService ρ σ) (e : LoadEvent σ) : Decidable ((machine lib).enabled s e) :=
  inferInstanceAs (Decidable (s.enabled e))

end AdBlockService

/-- Engines whose rules are the bytes of their lists; what is serialized starts with a mark. -/
def bytesEngine : AdblockRust DATFileDataBuffer Unit where
  newEngine := []
  deserialize dat := if dat.head? = some 0xd1 then some dat.tail else none
  deserialize_nil := rfl
  serialize rules := 0xd1 :: rules
  engineFromFilterSet filterSet := some (filterSet.flatMap (·.buffer))
  newEmptyResourceStorage := ()

end ChromiumAdblock
