import ChromiumAdblock.Shields.ResourceStorage

/-! The two resource providers, with the value store, the reads of the resources file, and the
engines that use the merged resources.  The merged resources are cached; a change of the store or
of the component drops the cache, and loads them anew.  The tasks of the UI thread, the requests of
the store, and the tasks of the ad-block task runner come in the order in which they were posted;
reads of files end in any order. -/

namespace ChromiumAdblock

open EventMachine

/-- Where loaded resources go: to all observers, or to the engine that asked, whose filter set may
fail to load.  `OnAllLoaded` then leaves the resources of the engine alone. -/
inductive OnLoad
  | notifyResourcesLoaded
  | onAllLoaded (isDefaultEngine : Bool) (filterSetLoads : Bool)
deriving DecidableEq, Repr

/-- A read of the resources file of a component, for a call of `LoadResources`, or else for
`OnComponentReady`. -/
structure ResourcesRead where
  path : String
  onLoad : Option OnLoad
deriving DecidableEq, Repr

/-- A task on the task runner of the value store. -/
inductive StoreTask (σ : Type)
  | get (id : Nat) (call : ResourceCall)
  | set (key : String) (resources : List Value)
  | remove (key : String)
  | getKeys (onLoad : OnLoad) (defaultStorage : σ)
deriving DecidableEq

/-- A task on the UI thread. -/
inductive ResourcesTask (σ : Type)
  /-- The reply to the `Get` of a call. -/
  | onResources (id : Nat) (call : ResourceCall) (value : Option Value)
  | onCustomResourcesLoaded (onLoad : OnLoad) (defaultStorage : σ) (customResources : DictValue)
  /-- The resources were cached. -/
  | runOnLoad (onLoad : OnLoad) (storage : σ)
  | onResourcesRead (read : ResourcesRead)
deriving DecidableEq

/-- A task on the ad-block task runner, which gives an engine its resources. -/
structure ResourcesLoad (σ : Type) where
  isDefaultEngine : Bool
  filterSetLoads : Bool
  storage : σ
deriving DecidableEq, Repr

/-- What a call on a custom resource sets off. -/
inductive CallEffect
  | write
  | customResourcesChanged
  | reloadResources
deriving DecidableEq, Repr

/-- `AdBlockCustomResourceProvider` and `AdBlockDefaultResourceProvider`.  `observers` are the
engines whose observers are registered, `loaded` those that asked for resources with a filter set
that loads; `reported` are the statuses of the calls, and `effects` what the calls set off. -/
structure ResourceProviders (σ : Type) where
  store : DictValue := []
  requests : List (StoreTask σ) := []
  ui : List (ResourcesTask σ) := []
  reads : List ResourcesRead := []
  runner : List (ResourcesLoad σ) := []
  componentPath : String := ""
  cachedStorage : Option σ := none
  observers : List Bool := []
  loaded : Bool → Bool := fun _ => false
  engines : Bool → σ
  nextCall : Nat := 0
  reported : List (Nat × ErrorCode) := []
  effects : List (Nat × CallEffect) := []

namespace ResourceProviders

variable {σ : Type} (lib : ResourceLibrary σ) (s : ResourceProviders σ)

def postUi (task : ResourcesTask σ) : ResourceProviders σ := { s with ui := s.ui ++ [task] }

def postRequest (task : StoreTask σ) : ResourceProviders σ :=
  { s with requests := s.requests ++ [task] }

def onDefaultResourcesLoaded (onLoad : OnLoad) (storage : σ) : ResourceProviders σ :=
  s.postRequest (.getKeys onLoad storage)

/-- `LoadResources` of the default provider. -/
def loadDefaultResources (onLoad : OnLoad) : ResourceProviders σ :=
  if s.componentPath = "" then s.onDefaultResourcesLoaded onLoad lib.newEmptyResourceStorage
  else { s with reads := s.reads ++ [⟨s.componentPath, some onLoad⟩] }

/-- `LoadResources` of the custom provider. -/
def loadResources (onLoad : OnLoad) : ResourceProviders σ :=
  match s.cachedStorage with
  | some storage => s.postUi (.runOnLoad onLoad storage)
  | none => s.loadDefaultResources lib onLoad

def reloadResourcesAndNotify : ResourceProviders σ :=
  { s with cachedStorage := none }.loadResources lib .notifyResourcesLoaded

/-- `OnResourcesLoaded`, as the default provider calls it. -/
def onResourcesLoaded (storage : σ) : ResourceProviders σ :=
  { s with cachedStorage := none }.onDefaultResourcesLoaded .notifyResourcesLoaded storage

def onComponentReady (path : String) : ResourceProviders σ :=
  { s with componentPath := path, reads := s.reads ++ [⟨path, none⟩] }

/-- The reply to a read of the resources file. -/
def onResourcesRead (read : ResourcesRead) : ResourceProviders σ :=
  match read.onLoad with
  | some onLoad => s.onDefaultResourcesLoaded onLoad (lib.newResourceStorage read.path)
  | none => s.onResourcesLoaded (lib.newResourceStorage read.path)

/-- The observers, or the one of an engine, hand the resources to the engines. -/
def runOnLoad (storage : σ) : OnLoad → ResourceProviders σ
  | .notifyResourcesLoaded =>
    { s with runner := s.runner ++ s.observers.map fun engine => ⟨engine, true, storage⟩ }
  | .onAllLoaded isDefaultEngine filterSetLoads =>
    { s with runner := s.runner ++ [⟨isDefaultEngine, filterSetLoads, storage⟩] }

def onCustomResourcesLoaded (onLoad : OnLoad) (defaultStorage : σ) (customResources : DictValue) :
    Except CheckFailure (ResourceProviders σ) :=
  match lib.onCustomResourcesLoaded defaultStorage customResources with
  | .error check => .error check
  | .ok merged => .ok ({ s with cachedStorage := some merged }.runOnLoad merged onLoad)

def report (id : Nat) (status : ErrorCode) : ResourceProviders σ :=
  { s with reported := s.reported ++ [(id, status)] }

/-- A write is posted, the observers of the provider are told, and the resources are reloaded. -/
def write (id : Nat) (task : StoreTask σ) : ResourceProviders σ :=
  { s with
    requests := s.requests ++ [task]
    effects := s.effects ++ [CallEffect.write, .customResourcesChanged, .reloadResources].map
      (Prod.mk id) }.reloadResourcesAndNotify lib

/-- The outcome of `AddResourceInternal`, or of its like. -/
def finishCall (id : Nat) (key : String) : ListOutcome → ResourceProviders σ
  | (some resources, status) => (s.write lib id (.set key resources)).report id status
  | (none, status) => s.report id status

/-- `AddResource`, `UpdateResource`, `RemoveResource`, or `RemoveKey`. -/
def startCall (id : Nat) (call : ResourceCall) : ResourceProviders σ :=
  if call.invalid then s.report id .kInvalid
  else
    match call with
    | .removeKey key => (s.write lib id (.remove key)).report id .kOk
    | _ => s.postRequest (.get id call)

def call (call : ResourceCall) : ResourceProviders σ :=
  { s with nextCall := s.nextCall + 1 }.startCall lib s.nextCall call

/-- What `GetCustomResources` makes of a reply. -/
def customResourcesOf : Option Value → Value
  | some (.list resources) => .list resources
  | _ => .list []

/-- `AddResourceInternal`, or its like, with its `CHECK`. -/
def onResources (id : Nat) (call : ResourceCall) : Value →
    Except CheckFailure (ResourceProviders σ)
  | .list resources => .ok (s.finishCall lib id call.key (call.onResources resources))
  | _ => .error .isList

/-- `LoadResources` of `SourceProviderObserver`. -/
def loadFilterSet (isDefaultEngine filterSetLoads : Bool) : ResourceProviders σ :=
  { s with
    observers :=
      if isDefaultEngine ∈ s.observers then s.observers else s.observers ++ [isDefaultEngine]
    loaded :=
      if filterSetLoads then Function.update s.loaded isDefaultEngine true
      else s.loaded }.loadResources lib (.onAllLoaded isDefaultEngine filterSetLoads)

def runStore : ResourceProviders σ :=
  match s.requests with
  | [] => s
  | .get id call :: rest =>
    { s with requests := rest }.postUi (.onResources id call (DictValue.find s.store call.key))
  | .set key resources :: rest =>
    { s with requests := rest, store := DictValue.set s.store key (.list resources) }
  | .remove key :: rest => { s with requests := rest, store := DictValue.remove s.store key }
  | .getKeys onLoad defaultStorage :: rest =>
    { s with requests := rest }.postUi (.onCustomResourcesLoaded onLoad defaultStorage s.store)

def runUiTask : ResourcesTask σ → Except CheckFailure (ResourceProviders σ)
  | .onResources id call value => s.onResources lib id call (customResourcesOf value)
  | .onCustomResourcesLoaded onLoad defaultStorage customResources =>
    s.onCustomResourcesLoaded lib onLoad defaultStorage customResources
  | .runOnLoad onLoad storage => .ok (s.runOnLoad storage onLoad)
  | .onResourcesRead read => .ok (s.onResourcesRead lib read)

def runUi : Except CheckFailure (ResourceProviders σ) :=
  match s.ui with
  | [] => .ok s
  | task :: rest => { s with ui := rest }.runUiTask lib task

/-- The thread pool has done one of the reads. -/
def finishRead (i : Nat) : ResourceProviders σ :=
  match s.reads[i]? with
  | none => s
  | some read => { s with reads := s.reads.eraseIdx i }.postUi (.onResourcesRead read)

/-- `Load` of the engine. -/
def runRunner : ResourceProviders σ :=
  match s.runner with
  | [] => s
  | load :: rest =>
    { s with
      runner := rest
      engines :=
        if load.filterSetLoads then Function.update s.engines load.isDefaultEngine load.storage
        else s.engines }

def init : ResourceProviders σ where
  engines := fun _ => lib.newEmptyResourceStorage

end ResourceProviders

inductive ProviderEvent
  | call (call : ResourceCall)
  | loadFilterSet (isDefaultEngine filterSetLoads : Bool)
  | componentReady (path : String)
  | runStore
  | runUi
  | runRunner
  | finishRead (i : Nat)
deriving DecidableEq, Repr

namespace ResourceProviders

variable {σ : Type} (lib : ResourceLibrary σ)

def step (s : ResourceProviders σ) : ProviderEvent → Except CheckFailure (ResourceProviders σ)
  | .call call => .ok (s.call lib call)
  | .loadFilterSet isDefaultEngine filterSetLoads =>
    .ok (s.loadFilterSet lib isDefaultEngine filterSetLoads)
  | .componentReady path => .ok (s.onComponentReady path)
  | .runStore => .ok s.runStore
  | .runUi => s.runUi lib
  | .runRunner => .ok s.runRunner
  | .finishRead i => .ok (s.finishRead i)

/-- A component is ready with a path. -/
def enabled (s : ResourceProviders σ) : ProviderEvent → Prop
  | .call _ | .loadFilterSet _ _ => True
  | .componentReady path => path ≠ ""
  | .runStore => s.requests ≠ []
  | .runUi => s.ui ≠ []
  | .runRunner => s.runner ≠ []
  | .finishRead i => i < s.reads.length

instance (s : ResourceProviders σ) : ∀ e, Decidable (s.enabled e)
  | .call _ | .loadFilterSet _ _ => inferInstanceAs (Decidable True)
  | .componentReady path => inferInstanceAs (Decidable (¬path = ""))
  | .runStore => decidable_of_iff (s.requests.isEmpty = false) (by simp [enabled])
  | .runUi => decidable_of_iff (s.ui.isEmpty = false) (by simp [enabled])
  | .runRunner => decidable_of_iff (s.runner.isEmpty = false) (by simp [enabled])
  | .finishRead i => inferInstanceAs (Decidable (i < s.reads.length))

def machine : Machine (ResourceProviders σ) ProviderEvent CheckFailure where
  enabled := enabled
  step := step lib

instance (s : ResourceProviders σ) (e : ProviderEvent) : Decidable ((machine lib).enabled s e) :=
  inferInstanceAs (Decidable (s.enabled e))

end ResourceProviders

end ChromiumAdblock
