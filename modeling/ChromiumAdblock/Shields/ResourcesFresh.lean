import ChromiumAdblock.Lib.Queue
import ChromiumAdblock.Shields.ResourceReloads

/-! When the engines end with the latest resources.  Each delivery of resources to an engine
overwrites what the engine had, so that the last one under way decides.  A reload gets its place by
the store's reply; an answer from the cache may come after it with older resources, and so may the
read of an older component. -/

namespace ChromiumAdblock

open EventMachine Queue

/-- The read that a task is the reply to. -/
def ResourcesTask.read {σ : Type} : ResourcesTask σ → Option ResourcesRead
  | onResourcesRead read => some read
  | onResources _ _ _ | onCustomResourcesLoaded _ _ _ | runOnLoad _ _ => none

/-- Whether resources that go there are used by an engine. -/
def OnLoad.Reaches (engine : Bool) : OnLoad → Bool
  | notifyResourcesLoaded => true
  | onAllLoaded e filterSetLoads => e == engine && filterSetLoads

def ResourcesRead.Reaches (engine : Bool) (read : ResourcesRead) : Bool :=
  read.onLoad.all (·.Reaches engine)

/-- What a task does to the store. -/
def StoreTask.apply {σ : Type} (store : DictValue) : StoreTask σ → DictValue
  | get _ _ | getKeys _ _ => store
  | set key resources => DictValue.set store key (.list resources)
  | remove key => DictValue.remove store key

/-- Resources on their way to an engine: merged ones, or ones that are to be merged. -/
inductive Delivery (σ : Type)
  | ready (storage : σ)
  | merge (defaultStorage : σ) (customResources : DictValue)
deriving DecidableEq

def ResourcesLoad.delivery {σ : Type} (engine : Bool) (load : ResourcesLoad σ) :
    Option (Delivery σ) :=
  if load.isDefaultEngine = engine ∧ load.filterSetLoads = true then some (.ready load.storage)
  else none

def ResourcesTask.delivery {σ : Type} (engine : Bool) : ResourcesTask σ → Option (Delivery σ)
  | onCustomResourcesLoaded onLoad defaultStorage customResources =>
    if onLoad.Reaches engine then some (.merge defaultStorage customResources) else none
  | runOnLoad onLoad storage => if onLoad.Reaches engine then some (.ready storage) else none
  | onResources _ _ _ | onResourcesRead _ => none

def StoreTask.delivery {σ : Type} (engine : Bool) (store : DictValue) :
    StoreTask σ → Option (Delivery σ)
  | getKeys onLoad defaultStorage =>
    if onLoad.Reaches engine then some (.merge defaultStorage store) else none
  | get _ _ | set _ _ | remove _ => none

/-- The deliveries that the requests of the store end in. -/
def requestDeliveries {σ : Type} (engine : Bool) : DictValue → List (StoreTask σ) →
    List (Delivery σ)
  | _, [] => []
  | store, task :: tasks =>
    (task.delivery engine store).toList ++ requestDeliveries engine (task.apply store) tasks

namespace ResourceProviders

variable {σ : Type} (lib : ResourceLibrary σ)

/-- The default resources of the component that came last. -/
def latestDefault (s : ResourceProviders σ) : σ :=
  if s.componentPath = "" then lib.newEmptyResourceStorage
  else lib.newResourceStorage s.componentPath

/-- The store after the requests that are under way. -/
def settledStore (s : ResourceProviders σ) : DictValue := s.requests.foldl StoreTask.apply s.store

def Fresh (s : ResourceProviders σ) : Delivery σ → Prop
  | .ready storage => lib.onCustomResourcesLoaded (s.latestDefault lib) s.settledStore = .ok storage
  | .merge defaultStorage customResources =>
    defaultStorage = s.latestDefault lib ∧ customResources = s.settledStore

/-- The storage that an engine has, and those that it gets from the ad-block task runner, once it is
loaded. -/
def held (s : ResourceProviders σ) (engine : Bool) : List (Delivery σ) :=
  if s.loaded engine then
    .ready (s.engines engine) :: s.runner.filterMap (ResourcesLoad.delivery engine)
  else []

/-- The deliveries to an engine, in the order in which they come. -/
def deliveries (s : ResourceProviders σ) (engine : Bool) : List (Delivery σ) :=
  s.held engine ++ (s.ui.filterMap (ResourcesTask.delivery engine) ++
    requestDeliveries engine s.store s.requests)

/-- The reads of which the reply was not handled. -/
def openReads (s : ResourceProviders σ) : List ResourcesRead :=
  s.reads ++ s.ui.filterMap ResourcesTask.read

/-- The resources of the newest component are being read, for an engine. -/
def Upcoming (s : ResourceProviders σ) (engine : Bool) : Prop :=
  s.componentPath ≠ "" ∧
    ∃ read ∈ s.openReads, read.path = s.componentPath ∧ read.Reaches engine = true

/-- A filter set is given resources from the cache only if they are the latest ones, or if newer
ones come to its engine later; and the resources of an older component are used only while those of
the newest component are being read. -/
def latestFirst (s : ResourceProviders σ) : ProviderEvent → Prop
  | .loadFilterSet engine filterSetLoads => ∀ storage ∈ s.cachedStorage, filterSetLoads = true →
    s.Fresh lib (.ready storage) ∨ s.Upcoming engine ∨
      requestDeliveries engine s.store s.requests ≠ []
  | .runUi => ∀ task ∈ s.ui.head?, ∀ read ∈ task.read,
    lib.newResourceStorage read.path = s.latestDefault lib ∨
      ∀ engine, read.Reaches engine = true → { s with ui := s.ui.tail }.Upcoming engine
  | .call _ | .componentReady _ | .runStore | .runRunner | .finishRead _ => True

variable {lib} {s s' : ResourceProviders σ} {engine : Bool}

theorem requestDeliveries_append (engine : Bool) (store : DictValue)
    (tasks more : List (StoreTask σ)) :
    requestDeliveries engine store (tasks ++ more) = requestDeliveries engine store tasks ++
      requestDeliveries engine (tasks.foldl StoreTask.apply store) more := by
  induction tasks generalizing store with
  | nil => rfl
  | cons task tasks ih =>
    simp only [List.cons_append, requestDeliveries, ih, List.foldl_cons, List.append_assoc]

/-- The newest resources are being read for an engine, or the last delivery to it is fresh. -/
def Ends (lib : ResourceLibrary σ) (s : ResourceProviders σ) (engine : Bool) : Prop :=
  s.Upcoming engine ∨ LastHolds (s.Fresh lib) (s.deliveries engine)

/-- A step, or a part of one, that changes nothing about the deliveries to an engine. -/
structure SameDeliveries (engine : Bool) (s s' : ResourceProviders σ) : Prop where
  deliveries : s'.deliveries engine = s.deliveries engine
  openReads : ∀ read ∈ s.openReads, read.Reaches engine = true → read ∈ s'.openReads
  componentPath : s'.componentPath = s.componentPath
  settledStore : s'.settledStore = s.settledStore

theorem fresh_eq (hpath : s'.componentPath = s.componentPath)
    (hsettled : s'.settledStore = s.settledStore) : s'.Fresh lib = s.Fresh lib := by
  funext delivery
  cases delivery <;> simp only [Fresh, latestDefault, hpath, hsettled]

theorem Upcoming.mono (h : s.Upcoming engine) (hpath : s'.componentPath = s.componentPath)
    (hreads : ∀ read ∈ s.openReads, read.Reaches engine = true → read ∈ s'.openReads) :
    s'.Upcoming engine := by
  obtain ⟨hne, read, hread, hnewest, hreaches⟩ := h
  exact ⟨hpath ▸ hne, read, hreads read hread hreaches, hnewest.trans hpath.symm, hreaches⟩

theorem SameDeliveries.ends (same : SameDeliveries engine s s') (h : Ends lib s engine) :
    Ends lib s' engine := by
  rcases h with hupcoming | hlast
  · exact .inl (hupcoming.mono same.componentPath same.openReads)
  · refine .inr ?_
    rw [fresh_eq same.componentPath same.settledStore, same.deliveries]
    exact hlast

theorem ends_onDefaultResourcesLoaded {onLoad : OnLoad} {storage : σ}
    (hreaches : onLoad.Reaches engine = true) (hlatest : storage = s.latestDefault lib) :
    Ends lib (s.onDefaultResourcesLoaded onLoad storage) engine := by
  have hsettled : (s.onDefaultResourcesLoaded onLoad storage).settledStore = s.settledStore := by
    simp [settledStore, onDefaultResourcesLoaded, postRequest, StoreTask.apply]
  have hlast : (s.onDefaultResourcesLoaded onLoad storage).deliveries engine =
      s.deliveries engine ++ [.merge storage s.settledStore] := by
    simp only [deliveries, onDefaultResourcesLoaded, postRequest, requestDeliveries_append,
      requestDeliveries, StoreTask.delivery, hreaches, if_true, Option.toList_some,
      List.append_assoc, List.append_nil, settledStore]
    rfl
  have hfresh : (s.onDefaultResourcesLoaded onLoad storage).Fresh lib = s.Fresh lib :=
    fresh_eq rfl hsettled
  refine .inr ?_
  rw [hlast, hfresh]
  exact .concat _ ⟨hlatest, rfl⟩

theorem same_onDefaultResourcesLoaded {onLoad : OnLoad} {storage : σ}
    (hreaches : onLoad.Reaches engine = false) :
    SameDeliveries engine s (s.onDefaultResourcesLoaded onLoad storage) where
  deliveries := by
    simp [deliveries, onDefaultResourcesLoaded, postRequest, requestDeliveries_append,
      requestDeliveries, StoreTask.delivery, hreaches]
    rfl
  openReads _ hread _ := hread
  componentPath := rfl
  settledStore := by simp [settledStore, onDefaultResourcesLoaded, postRequest, StoreTask.apply]

theorem ends_loadDefaultResources {onLoad : OnLoad} (hreaches : onLoad.Reaches engine = true) :
    Ends lib (s.loadDefaultResources lib onLoad) engine := by
  unfold loadDefaultResources
  split
  · rename_i hpath
    exact ends_onDefaultResourcesLoaded hreaches (by rw [latestDefault, if_pos hpath])
  · rename_i hpath
    refine .inl ⟨hpath, ⟨s.componentPath, some onLoad⟩, ?_, rfl, hreaches⟩
    simp [openReads]

theorem same_loadDefaultResources {onLoad : OnLoad} (hreaches : onLoad.Reaches engine = false) :
    SameDeliveries engine s (s.loadDefaultResources lib onLoad) := by
  unfold loadDefaultResources
  split
  · exact same_onDefaultResourcesLoaded hreaches
  · refine ⟨rfl, fun read hread _ => ?_, rfl, rfl⟩
    exact (List.mem_append.mp hread).elim
      (fun h => List.mem_append_left _ (List.mem_append_left _ h)) (List.mem_append_right _)

theorem ends_write (id : Nat) (task : StoreTask σ) : Ends lib (s.write lib id task) engine := by
  rw [write, reloadResourcesAndNotify, loadResources]
  exact ends_loadDefaultResources rfl

theorem same_runStore : SameDeliveries engine s s.runStore := by
  cases hrequests : s.requests with
  | nil =>
    rw [runStore, hrequests]
    exact ⟨rfl, fun _ hread _ => hread, rfl, rfl⟩
  | cons task tasks =>
    rw [runStore, hrequests]
    cases task with
    | get id call =>
      refine ⟨?_, fun read hread _ => ?_, rfl, ?_⟩
      · simp [deliveries, postUi, hrequests, requestDeliveries, StoreTask.delivery, StoreTask.apply,
          ResourcesTask.delivery]
        rfl
      · simpa [openReads, postUi, ResourcesTask.read] using hread
      · simp [settledStore, postUi, hrequests, StoreTask.apply]
    | set key resources =>
      refine ⟨?_, fun read hread _ => hread, rfl, ?_⟩
      · simp [deliveries, hrequests, requestDeliveries, StoreTask.delivery, StoreTask.apply]
        rfl
      · simp [settledStore, hrequests, StoreTask.apply]
    | remove key =>
      refine ⟨?_, fun read hread _ => hread, rfl, ?_⟩
      · simp [deliveries, hrequests, requestDeliveries, StoreTask.delivery, StoreTask.apply]
        rfl
      · simp [settledStore, hrequests, StoreTask.apply]
    | getKeys onLoad defaultStorage =>
      refine ⟨?_, fun read hread _ => ?_, rfl, ?_⟩
      · by_cases hreaches : onLoad.Reaches engine = true
        · simp [deliveries, postUi, hrequests, requestDeliveries, StoreTask.delivery,
            StoreTask.apply, ResourcesTask.delivery, hreaches]
          rfl
        · simp [deliveries, postUi, hrequests, requestDeliveries, StoreTask.delivery,
            StoreTask.apply, ResourcesTask.delivery, hreaches]
          rfl
      · simpa [openReads, postUi, ResourcesTask.read] using hread
      · simp [settledStore, postUi, hrequests, StoreTask.apply]

theorem same_finishRead (i : Nat) : SameDeliveries engine s (s.finishRead i) := by
  unfold finishRead
  split
  · exact ⟨rfl, fun _ hread _ => hread, rfl, rfl⟩
  · rename_i read hread
    refine ⟨?_, fun other hother _ => ?_, rfl, rfl⟩
    · simp [deliveries, postUi, ResourcesTask.delivery]
      rfl
    · have hperm := List.getElem_cons_eraseIdx_perm (List.getElem?_eq_some_iff.mp hread).1
      rcases List.mem_append.mp hother with hmem | hmem
      · rcases List.mem_cons.mp (hperm.mem_iff.mpr hmem) with rfl | hmem
        · have hsame := (List.getElem?_eq_some_iff.mp hread).2
          simp [openReads, postUi, ResourcesTask.read, hsame]
        · exact List.mem_append_left _ hmem
      · refine List.mem_append_right _ ?_
        simp [postUi, hmem]

theorem held_runRunner (engine : Bool) :
    s.runRunner.held engine = s.held engine ∨
      ∃ storage, s.held engine = .ready storage :: s.runRunner.held engine := by
  cases hrunner : s.runner with
  | nil => exact .inl (by rw [runRunner, hrunner])
  | cons load rest =>
    rw [runRunner, hrunner]
    by_cases hloaded : s.loaded engine = true
    · by_cases hload : load.isDefaultEngine = engine ∧ load.filterSetLoads = true
      · obtain ⟨rfl, hloads⟩ := hload
        exact .inr ⟨s.engines load.isDefaultEngine,
          by simp [held, hloaded, hrunner, ResourcesLoad.delivery, hloads]⟩
      · refine .inl ?_
        have hkept : (if load.filterSetLoads then
            Function.update s.engines load.isDefaultEngine load.storage else s.engines) engine =
              s.engines engine := by
          split
          · rename_i hloads
            exact Function.update_of_ne (fun heq => hload ⟨heq.symm, hloads⟩) _ _
          · rfl
        simp [held, hloaded, hrunner, ResourcesLoad.delivery, hload, hkept]
    · exact .inl (by simp [held, hloaded])

theorem runRunner_frame : s.runRunner.ui = s.ui ∧ s.runRunner.requests = s.requests ∧
    s.runRunner.store = s.store ∧ s.runRunner.reads = s.reads ∧
    s.runRunner.componentPath = s.componentPath := by
  unfold runRunner
  split <;> exact ⟨rfl, rfl, rfl, rfl, rfl⟩

theorem ends_runRunner (h : Ends lib s engine) : Ends lib s.runRunner engine := by
  obtain ⟨hui, hrequests, hstore, hreads, hpath⟩ := runRunner_frame (s := s)
  have hsettled : s.runRunner.settledStore = s.settledStore := by
    simp only [settledStore, hrequests, hstore]
  rcases h with hupcoming | hlast
  · refine .inl (hupcoming.mono hpath fun read hread _ => ?_)
    simpa only [openReads, hui, hreads] using hread
  · refine .inr ?_
    rw [fresh_eq hpath hsettled]
    rw [deliveries] at hlast
    rw [deliveries, hui, hrequests, hstore]
    rcases held_runRunner (s := s) engine with hheld | ⟨storage, hheld⟩
    · rwa [hheld]
    · rw [hheld] at hlast
      exact LastHolds.drop [.ready storage] hlast

theorem ends_componentReady {path : String} (hpath : path ≠ "") :
    Ends lib (s.onComponentReady path) engine :=
  .inl ⟨hpath, ⟨path, none⟩, by simp [openReads, onComponentReady], rfl, rfl⟩

/-- A task that is no delivery to an engine is taken from the UI thread's queue. -/
theorem same_popUi {task : ResourcesTask σ} {tasks : List (ResourcesTask σ)}
    (hui : s.ui = task :: tasks) (hdelivery : task.delivery engine = none)
    (hread : ∀ read, task.read = some read → read.Reaches engine = false) :
    SameDeliveries engine s { s with ui := tasks } := by
  refine ⟨?_, fun read hmem hreaches => ?_, rfl, rfl⟩
  · simp [deliveries, hui, hdelivery]
    rfl
  · rw [openReads, hui, Queue.filterMap_head, List.mem_append, List.mem_append] at hmem
    rcases hmem with hmem | hmem | hmem
    · exact List.mem_append_left _ hmem
    · have hhead : task.read = some read := by simpa using hmem
      exact absurd (hreaches.symm.trans (hread read hhead)) (by simp)
    · exact List.mem_append_right _ hmem

theorem held_runOnLoad (engine : Bool) (storage : σ) (onLoad : OnLoad) :
    ∃ new, (s.runOnLoad storage onLoad).held engine =
        (if s.loaded engine then s.held engine ++ new else []) ∧
      (∀ delivery ∈ new, delivery = .ready storage) ∧
      (onLoad.Reaches engine = false → new = []) ∧
      (onLoad.Reaches engine = true → engine ∈ s.observers → new ≠ []) := by
  cases onLoad with
  | notifyResourcesLoaded =>
    refine ⟨(s.observers.map fun e => ⟨e, true, storage⟩).filterMap
      (ResourcesLoad.delivery engine), ?_, fun delivery hmem => ?_, by simp [OnLoad.Reaches],
      fun _ hmem hnil => ?_⟩
    · by_cases hloaded : s.loaded engine = true <;> simp [runOnLoad, held, hloaded]
    · obtain ⟨load, hload, hdelivery⟩ := List.mem_filterMap.mp hmem
      obtain ⟨e, -, rfl⟩ := List.mem_map.mp hload
      by_cases he : e = engine <;> simp [ResourcesLoad.delivery, he] at hdelivery
      exact hdelivery.symm
    · have hnone := List.filterMap_eq_nil_iff.mp hnil ⟨engine, true, storage⟩
        (List.mem_map.mpr ⟨engine, hmem, rfl⟩)
      simp [ResourcesLoad.delivery] at hnone
  | onAllLoaded e filterSetLoads =>
    refine ⟨(ResourcesLoad.delivery engine ⟨e, filterSetLoads, storage⟩).toList, ?_, ?_, ?_, ?_⟩
    · by_cases hloaded : s.loaded engine = true
      · simp [runOnLoad, held, hloaded, List.filterMap_append, Queue.filterMap_head]
      · simp [runOnLoad, held, hloaded]
    · intro delivery hmem
      by_cases hreaches : e = engine ∧ filterSetLoads = true <;>
        simp [ResourcesLoad.delivery, hreaches] at hmem
      exact hmem
    · intro hreaches
      have hnot : ¬(e = engine ∧ filterSetLoads = true) := by simpa [OnLoad.Reaches] using hreaches
      simp [ResourcesLoad.delivery, hnot]
    · intro hreaches _
      have hyes : e = engine ∧ filterSetLoads = true := by simpa [OnLoad.Reaches] using hreaches
      simp [ResourcesLoad.delivery, hyes]

/-- The storage at the head of the UI thread's queue is handed on. -/
theorem ends_runOnLoad {task : ResourcesTask σ} {tasks : List (ResourcesTask σ)} {onLoad : OnLoad}
    {storage : σ} (cached : Option σ) (h : Ends lib s engine) (hui : s.ui = task :: tasks)
    (hobserved : s.loaded engine = true → engine ∈ s.observers) (hread : task.read = none)
    (hdelivery : onLoad.Reaches engine = false ∧ task.delivery engine = none ∨
      onLoad.Reaches engine = true ∧ ∃ delivery, task.delivery engine = some delivery ∧
        (s.Fresh lib delivery → s.Fresh lib (.ready storage))) :
    Ends lib ({ s with ui := tasks, cachedStorage := cached }.runOnLoad storage onLoad) engine := by
  have hframe : ∀ u : ResourceProviders σ, (u.runOnLoad storage onLoad).ui = u.ui ∧
      (u.runOnLoad storage onLoad).requests = u.requests ∧
      (u.runOnLoad storage onLoad).store = u.store ∧
      (u.runOnLoad storage onLoad).reads = u.reads ∧
      (u.runOnLoad storage onLoad).componentPath = u.componentPath := by
    intro u
    cases onLoad <;> exact ⟨rfl, rfl, rfl, rfl, rfl⟩
  obtain ⟨hui', hrequests, hstore, hreads, hpath⟩ :=
    hframe { s with ui := tasks, cachedStorage := cached }
  obtain ⟨new, hheld, hnew, hnone, hsome⟩ :=
    held_runOnLoad (s := { s with ui := tasks, cachedStorage := cached }) engine storage onLoad
  have hsettled : ({ s with ui := tasks, cachedStorage := cached }.runOnLoad storage
      onLoad).settledStore = s.settledStore := by
    simp only [settledStore, hrequests, hstore]
  rcases h with hupcoming | hlast
  · refine .inl (hupcoming.mono hpath fun read hmem _ => ?_)
    rw [openReads, hui, Queue.filterMap_head, hread] at hmem
    rw [openReads, hreads, hui']
    exact hmem
  · refine .inr ?_
    rw [fresh_eq hpath hsettled]
    rw [deliveries, hheld, hui', hrequests, hstore]
    rw [deliveries, hui, Queue.filterMap_head, List.append_assoc] at hlast
    show LastHolds _ ((if s.loaded engine then s.held engine ++ new else []) ++ _)
    by_cases hloaded : s.loaded engine = true
    · rw [if_pos hloaded, List.append_assoc]
      rcases hdelivery with ⟨hreaches, hdelivery⟩ | ⟨hreaches, delivery, hdelivery, hfresh⟩
      · rw [hnone hreaches]
        rwa [hdelivery] at hlast
      · rw [hdelivery] at hlast
        exact LastHolds.replace hlast (hsome hreaches (hobserved hloaded)) fun h y hy =>
          hnew y hy ▸ hfresh h
    · rw [if_neg hloaded, List.nil_append]
      exact LastHolds.drop _ (LastHolds.drop _ hlast)

/-- Engines that are loaded have their observers registered, and end with the latest resources. -/
structure EndsAll (lib : ResourceLibrary σ) (s : ResourceProviders σ) : Prop where
  observed : ∀ engine, s.loaded engine = true → engine ∈ s.observers
  ends : ∀ engine, Ends lib s engine

/-- The state in which `LoadResources` is called for a filter set. -/
def register (s : ResourceProviders σ) (e filterSetLoads : Bool) : ResourceProviders σ :=
  { s with
    observers := if e ∈ s.observers then s.observers else s.observers ++ [e]
    loaded := if filterSetLoads then Function.update s.loaded e true else s.loaded }

theorem loadFilterSet_eq (e filterSetLoads : Bool) : s.loadFilterSet lib e filterSetLoads =
    (s.register e filterSetLoads).loadResources lib (.onAllLoaded e filterSetLoads) :=
  rfl

theorem loaded_register (h : EndsAll lib s) {e filterSetLoads : Bool}
    (hloaded : (s.register e filterSetLoads).loaded engine = true) :
    engine ∈ (s.register e filterSetLoads).observers := by
  have hmem : ∀ engine, engine = e ∨ engine ∈ s.observers →
      engine ∈ (s.register e filterSetLoads).observers := by
    intro engine hengine
    simp only [register]
    split
    · rename_i he
      exact hengine.elim (fun heq => heq ▸ he) id
    · exact hengine.elim (fun heq => by simp [heq]) (List.mem_append_left _)
  refine hmem engine ?_
  by_cases heq : engine = e
  · exact .inl heq
  · refine .inr (h.observed engine ?_)
    cases filterSetLoads
    · exact hloaded
    · simpa [register, heq] using hloaded

theorem same_postUi {task : ResourcesTask σ} (htask : task.delivery engine = none) :
    SameDeliveries engine s (s.postUi task) := by
  refine ⟨?_, fun read hread _ => ?_, rfl, rfl⟩
  · simp [deliveries, postUi, htask]
    rfl
  · rw [openReads, postUi, Queue.filterMap_post, ← List.append_assoc]
    exact List.mem_append_left _ hread

theorem same_loadFilterSet {e filterSetLoads : Bool}
    (hreaches : (OnLoad.onAllLoaded e filterSetLoads).Reaches engine = false) :
    SameDeliveries engine s (s.loadFilterSet lib e filterSetLoads) := by
  have hkept : (s.register e filterSetLoads).loaded engine = s.loaded engine := by
    cases filterSetLoads
    · rfl
    · have hne : engine ≠ e := fun heq => by simp [OnLoad.Reaches, heq] at hreaches
      simp [register, hne]
  have hheld : (s.register e filterSetLoads).held engine = s.held engine := by
    simp only [held, hkept]
    rfl
  have hregister : SameDeliveries engine s (s.register e filterSetLoads) :=
    ⟨by rw [deliveries, hheld]; rfl, fun _ hread _ => hread, rfl, rfl⟩
  have hload : SameDeliveries engine (s.register e filterSetLoads)
      ((s.register e filterSetLoads).loadResources lib (.onAllLoaded e filterSetLoads)) := by
    unfold loadResources
    split
    · exact same_postUi (by simp [ResourcesTask.delivery, hreaches])
    · exact same_loadDefaultResources hreaches
  rw [loadFilterSet_eq]
  exact ⟨hload.deliveries.trans hregister.deliveries,
    fun read hread hr => hload.openReads read (hregister.openReads read hread hr) hr,
    hload.componentPath.trans hregister.componentPath,
    hload.settledStore.trans hregister.settledStore⟩

theorem ends_cached (h : Ends lib s engine) {storage : σ} (hcached : s.cachedStorage = some storage)
    (hfirst : s.Fresh lib (.ready storage) ∨ s.Upcoming engine ∨
      requestDeliveries engine s.store s.requests ≠ []) :
    Ends lib (s.loadFilterSet lib engine true) engine := by
  have hposted : s.loadFilterSet lib engine true =
      (s.register engine true).postUi (.runOnLoad (.onAllLoaded engine true) storage) := by
    rw [loadFilterSet_eq]
    simp [loadResources, register, hcached]
  rw [hposted]
  have hreads : ∀ read ∈ s.openReads, read.Reaches engine = true → read ∈ ((s.register engine
      true).postUi (.runOnLoad (.onAllLoaded engine true) storage)).openReads := by
    intro read hread _
    rw [openReads, postUi, Queue.filterMap_post, ← List.append_assoc]
    exact List.mem_append_left _ hread
  have hfresh : ((s.register engine true).postUi (.runOnLoad (.onAllLoaded engine true)
      storage)).Fresh lib = s.Fresh lib := fresh_eq rfl rfl
  rcases h with hupcoming | hlast
  · exact .inl (hupcoming.mono rfl hreads)
  · by_cases hupcoming : s.Upcoming engine
    · exact .inl (hupcoming.mono rfl hreads)
    · refine .inr ?_
      have hdelivery : (ResourcesTask.runOnLoad (.onAllLoaded engine true) storage).delivery
          engine = some (.ready storage) := by simp [ResourcesTask.delivery, OnLoad.Reaches]
      rw [hfresh, deliveries, postUi, Queue.filterMap_post, hdelivery, List.append_assoc]
      refine LastHolds.append _ (LastHolds.insert (LastHolds.drop _ hlast) ?_) (by simp)
      intro hnone
      exact hfirst.resolve_right fun h => h.elim hupcoming fun hne => hne hnone

theorem ends_loadFilterSet (h : Ends lib s engine) {e filterSetLoads : Bool}
    (hfirst : s.latestFirst lib (.loadFilterSet e filterSetLoads)) :
    Ends lib (s.loadFilterSet lib e filterSetLoads) engine := by
  by_cases hreaches : (OnLoad.onAllLoaded e filterSetLoads).Reaches engine = true
  · obtain ⟨rfl, rfl⟩ : e = engine ∧ filterSetLoads = true := by
      simpa [OnLoad.Reaches] using hreaches
    cases hcached : s.cachedStorage with
    | some storage => exact ends_cached h hcached (hfirst storage hcached rfl)
    | none =>
      have hload : s.loadFilterSet lib e true =
          (s.register e true).loadDefaultResources lib (.onAllLoaded e true) := by
        rw [loadFilterSet_eq]
        simp [loadResources, register, hcached]
      rw [hload]
      exact ends_loadDefaultResources hreaches
  · exact (same_loadFilterSet (Bool.eq_false_of_not_eq_true hreaches)).ends h

theorem ends_report (h : Ends lib s engine) (id : Nat) (status : ErrorCode) :
    Ends lib (s.report id status) engine :=
  SameDeliveries.ends ⟨rfl, fun _ hread _ => hread, rfl, rfl⟩ h

theorem ends_startCall (h : Ends lib s engine) (id : Nat) (call : ResourceCall) :
    Ends lib (s.startCall lib id call) engine := by
  have hget : SameDeliveries engine s (s.postRequest (.get id call)) := by
    refine ⟨?_, fun _ hread _ => hread, rfl, ?_⟩
    · simp [deliveries, postRequest, requestDeliveries_append, requestDeliveries,
        StoreTask.delivery]
      rfl
    · simp [settledStore, postRequest, StoreTask.apply]
  unfold startCall
  split
  · exact ends_report h _ _
  · split
    · exact ends_report (ends_write _ _) _ _
    · exact hget.ends h

theorem ends_finishCall (h : Ends lib s engine) (id : Nat) (key : String) (outcome : ListOutcome) :
    Ends lib (s.finishCall lib id key outcome) engine := by
  obtain ⟨_ | resources, status⟩ := outcome
  · exact ends_report h _ _
  · exact ends_report (ends_write _ _) _ _

theorem ends_onResourcesRead (h : Ends lib s engine) (hfirst : s.latestFirst lib .runUi)
    {read : ResourcesRead} {tasks : List (ResourcesTask σ)}
    (hui : s.ui = .onResourcesRead read :: tasks) :
    Ends lib ({ s with ui := tasks }.onResourcesRead lib read) engine := by
  obtain ⟨onLoad, cached, hstep, hsame⟩ : ∃ onLoad cached,
      { s with ui := tasks }.onResourcesRead lib read =
        { s with ui := tasks, cachedStorage := cached }.onDefaultResourcesLoaded onLoad
          (lib.newResourceStorage read.path) ∧
      onLoad.Reaches engine = read.Reaches engine := by
    obtain ⟨path, _ | onLoad⟩ := read
    · exact ⟨.notifyResourcesLoaded, none, rfl, rfl⟩
    · exact ⟨onLoad, s.cachedStorage, rfl, rfl⟩
  rw [hstep]
  cases hreaches : read.Reaches engine with
  | false =>
    have hpopped : SameDeliveries engine s { s with ui := tasks } := by
      refine same_popUi hui rfl fun other hother => ?_
      obtain rfl : read = other := Option.some.inj hother
      exact hreaches
    have hcached : SameDeliveries engine { s with ui := tasks }
        { s with ui := tasks, cachedStorage := cached } :=
      ⟨rfl, fun _ hread _ => hread, rfl, rfl⟩
    exact (same_onDefaultResourcesLoaded (hsame.trans hreaches)).ends
      (hcached.ends (hpopped.ends h))
  | true =>
    have hhead : s.ui.head? = some (.onResourcesRead read) := by rw [hui]; rfl
    have htail : s.ui.tail = tasks := by rw [hui]; rfl
    rcases hfirst _ hhead read rfl with hlatest | hupcoming
    · exact ends_onDefaultResourcesLoaded (hsame.trans hreaches) hlatest
    · rw [htail] at hupcoming
      exact .inl ((hupcoming engine hreaches).mono rfl fun _ hread _ => hread)

theorem ends_runUi (h : EndsAll lib s) (hfirst : s.latestFirst lib .runUi)
    (hstep : s.runUi lib = .ok s') : Ends lib s' engine := by
  cases hui : s.ui with
  | nil =>
    rw [runUi, hui] at hstep
    exact Except.ok.inj hstep ▸ h.ends engine
  | cons task tasks =>
    rw [runUi, hui] at hstep
    cases task with
    | onResources id call value =>
      have hsame : SameDeliveries engine s { s with ui := tasks } :=
        same_popUi hui rfl (by simp [ResourcesTask.read])
      have hpopped := hsame.ends (h.ends engine)
      have hlist : ∀ list, { s with ui := tasks }.onResources lib id call list = .ok s' →
          Ends lib s' engine := by
        intro list hlist
        cases list with
        | list resources =>
          obtain rfl := Except.ok.inj hlist
          exact ends_finishCall hpopped _ _ _
        | _ => contradiction
      exact hlist _ hstep
    | onCustomResourcesLoaded onLoad defaultStorage customResources =>
      simp only [runUiTask, onCustomResourcesLoaded] at hstep
      split at hstep
      · contradiction
      · rename_i merged hmerged
        obtain rfl := Except.ok.inj hstep
        refine ends_runOnLoad _ (h.ends engine) hui (h.observed engine) rfl ?_
        cases hreaches : onLoad.Reaches engine with
        | false => exact .inl ⟨rfl, by simp [ResourcesTask.delivery, hreaches]⟩
        | true =>
          refine .inr ⟨rfl, _, if_pos hreaches, ?_⟩
          rintro ⟨rfl, rfl⟩
          exact hmerged
    | runOnLoad onLoad storage =>
      obtain rfl := Except.ok.inj hstep
      refine ends_runOnLoad s.cachedStorage (h.ends engine) hui (h.observed engine) rfl ?_
      cases hreaches : onLoad.Reaches engine with
      | false => exact .inl ⟨rfl, by simp [ResourcesTask.delivery, hreaches]⟩
      | true => exact .inr ⟨rfl, _, if_pos hreaches, id⟩
    | onResourcesRead read =>
      obtain rfl := Except.ok.inj hstep
      exact ends_onResourcesRead (h.ends engine) hfirst hui

/-- No engine registers. -/
def SameObservers (s s' : ResourceProviders σ) : Prop :=
  s'.loaded = s.loaded ∧ s'.observers = s.observers

theorem sameObservers_loadResources (lib : ResourceLibrary σ) (onLoad : OnLoad) :
    SameObservers s (s.loadResources lib onLoad) := by
  unfold loadResources
  split
  · exact ⟨rfl, rfl⟩
  · unfold loadDefaultResources
    split <;> exact ⟨rfl, rfl⟩

theorem sameObservers_write (id : Nat) (task : StoreTask σ) :
    SameObservers s (s.write lib id task) := by
  obtain ⟨hloaded, hobservers⟩ := sameObservers_loadResources lib
    (s := { s with
      requests := s.requests ++ [task]
      effects := s.effects ++ [CallEffect.write, .customResourcesChanged, .reloadResources].map
        (Prod.mk id)
      cachedStorage := none }) .notifyResourcesLoaded
  exact ⟨hloaded, hobservers⟩

theorem sameObservers_runOnLoad (storage : σ) (onLoad : OnLoad) :
    SameObservers s (s.runOnLoad storage onLoad) := by
  cases onLoad <;> exact ⟨rfl, rfl⟩

theorem sameObservers_runUi (hstep : s.runUi lib = .ok s') : SameObservers s s' := by
  cases hui : s.ui with
  | nil =>
    rw [runUi, hui] at hstep
    exact Except.ok.inj hstep ▸ ⟨rfl, rfl⟩
  | cons task tasks =>
    rw [runUi, hui] at hstep
    cases task with
    | onResources id call value =>
      have hlist : ∀ list, { s with ui := tasks }.onResources lib id call list = .ok s' →
          SameObservers s s' := by
        intro list hlist
        cases list with
        | list resources =>
          obtain rfl := Except.ok.inj hlist
          obtain ⟨_ | saved, status⟩ := call.onResources resources
          · exact ⟨rfl, rfl⟩
          · exact sameObservers_write (s := { s with ui := tasks }) id (.set call.key saved)
        | _ => contradiction
      exact hlist _ hstep
    | onCustomResourcesLoaded onLoad defaultStorage customResources =>
      simp only [runUiTask, onCustomResourcesLoaded] at hstep
      split at hstep
      · contradiction
      · rename_i merged hmerged
        obtain rfl := Except.ok.inj hstep
        exact sameObservers_runOnLoad
          (s := { s with ui := tasks, cachedStorage := some merged }) merged onLoad
    | runOnLoad onLoad storage =>
      obtain rfl := Except.ok.inj hstep
      exact sameObservers_runOnLoad (s := { s with ui := tasks }) storage onLoad
    | onResourcesRead read =>
      obtain rfl := Except.ok.inj hstep
      obtain ⟨path, _ | onLoad⟩ := read <;> exact ⟨rfl, rfl⟩

theorem EndsAll.observed_step (h : EndsAll lib s) {e : ProviderEvent}
    (hstep : s.step lib e = .ok s') (hloaded : s'.loaded engine = true) :
    engine ∈ s'.observers := by
  have hsame : SameObservers s s' → engine ∈ s'.observers := by
    rintro ⟨hkept, hobservers⟩
    rw [hobservers]
    exact h.observed engine (hkept ▸ hloaded)
  cases e with
  | loadFilterSet e filterSetLoads =>
    obtain rfl := Except.ok.inj hstep
    obtain ⟨hkept, hobservers⟩ := sameObservers_loadResources lib
      (s := s.register e filterSetLoads) (.onAllLoaded e filterSetLoads)
    rw [loadFilterSet_eq, hkept] at hloaded
    rw [loadFilterSet_eq, hobservers]
    exact loaded_register h hloaded
  | call call =>
    obtain rfl := Except.ok.inj hstep
    refine hsame ?_
    unfold ResourceProviders.call startCall
    split
    · exact ⟨rfl, rfl⟩
    · split
      · exact sameObservers_write (s := { s with nextCall := s.nextCall + 1 }) _ (.remove _)
      · exact ⟨rfl, rfl⟩
  | componentReady path =>
    obtain rfl := Except.ok.inj hstep
    exact hsame ⟨rfl, rfl⟩
  | runStore =>
    obtain rfl := Except.ok.inj hstep
    refine hsame ?_
    unfold runStore
    split <;> exact ⟨rfl, rfl⟩
  | runUi => exact hsame (sameObservers_runUi hstep)
  | runRunner =>
    obtain rfl := Except.ok.inj hstep
    refine hsame ?_
    unfold runRunner
    split <;> exact ⟨rfl, rfl⟩
  | finishRead i =>
    obtain rfl := Except.ok.inj hstep
    refine hsame ?_
    unfold finishRead
    split <;> exact ⟨rfl, rfl⟩

theorem EndsAll.step (h : EndsAll lib s) {e : ProviderEvent} (henabled : s.enabled e)
    (hfirst : s.latestFirst lib e) (hstep : s.step lib e = .ok s') : EndsAll lib s' := by
  refine ⟨fun engine => h.observed_step hstep, fun engine => ?_⟩
  cases e with
  | call call =>
    obtain rfl := Except.ok.inj hstep
    have hnext : SameDeliveries engine s { s with nextCall := s.nextCall + 1 } :=
      ⟨rfl, fun _ hread _ => hread, rfl, rfl⟩
    exact ends_startCall (hnext.ends (h.ends engine)) _ _
  | loadFilterSet e filterSetLoads =>
    obtain rfl := Except.ok.inj hstep
    exact ends_loadFilterSet (h.ends engine) hfirst
  | componentReady path =>
    obtain rfl := Except.ok.inj hstep
    exact ends_componentReady henabled
  | runStore =>
    obtain rfl := Except.ok.inj hstep
    exact same_runStore.ends (h.ends engine)
  | runUi => exact ends_runUi h hfirst hstep
  | runRunner =>
    obtain rfl := Except.ok.inj hstep
    exact ends_runRunner (h.ends engine)
  | finishRead i =>
    obtain rfl := Except.ok.inj hstep
    exact (same_finishRead i).ends (h.ends engine)

/-- Nothing is under way. -/
def Idle (s : ResourceProviders σ) : Prop :=
  s.requests = [] ∧ s.ui = [] ∧ s.reads = [] ∧ s.runner = []

/-- Where resources are used in the order in which they became the latest ones, loaded engines end
with the latest default resources, extended by the custom store. -/
theorem resources_current (lib : ResourceLibrary σ) {es : List ProviderEvent}
    (run : Run ((machine lib).restrict (latestFirst lib)) (init lib) es s) (hidle : s.Idle)
    (hloaded : s.loaded engine = true) :
    lib.onCustomResourcesLoaded (s.latestDefault lib) s.store = .ok (s.engines engine) := by
  have hends : EndsAll lib s := by
    refine run.preserves (P := EndsAll lib) ?_ ⟨by simp [init], fun engine => .inr ?_⟩
    · rintro s e s' ⟨henabled, hfirst⟩ hstep h
      exact h.step henabled hfirst hstep
    · simp [deliveries, held, init, requestDeliveries, LastHolds]
  obtain ⟨hrequests, hui, hreads, hrunner⟩ := hidle
  rcases hends.ends engine with ⟨-, read, hread, -⟩ | hlast
  · simp [openReads, hreads, hui] at hread
  · have hfresh := hlast (.ready (s.engines engine))
      (by simp [deliveries, held, hloaded, hrunner, hui, hrequests, requestDeliveries])
    have hsettled : s.settledStore = s.store := by simp [settledStore, hrequests]
    exact hsettled ▸ hfresh

section Replay

variable [DecidableEq σ]

instance (s : ResourceProviders σ) : ∀ delivery, Decidable (s.Fresh lib delivery)
  | .ready storage => inferInstanceAs (Decidable
      (lib.onCustomResourcesLoaded (s.latestDefault lib) s.settledStore = .ok storage))
  | .merge defaultStorage customResources => inferInstanceAs (Decidable
      (defaultStorage = s.latestDefault lib ∧ customResources = s.settledStore))

instance (s : ResourceProviders σ) (engine : Bool) : Decidable (s.Upcoming engine) :=
  inferInstanceAs (Decidable (¬s.componentPath = "" ∧
    ∃ read ∈ s.openReads, read.path = s.componentPath ∧ read.Reaches engine = true))

instance (s : ResourceProviders σ) : ∀ e, Decidable (s.latestFirst lib e)
  | .loadFilterSet engine filterSetLoads => inferInstanceAs (Decidable
      (∀ storage ∈ s.cachedStorage, filterSetLoads = true → s.Fresh lib (.ready storage) ∨
        s.Upcoming engine ∨ ¬requestDeliveries engine s.store s.requests = []))
  | .runUi => inferInstanceAs (Decidable (∀ task ∈ s.ui.head?, ∀ read ∈ task.read,
      lib.newResourceStorage read.path = s.latestDefault lib ∨
        ∀ engine, read.Reaches engine = true → { s with ui := s.ui.tail }.Upcoming engine))
  | .call _ | .componentReady _ | .runStore | .runRunner | .finishRead _ =>
    inferInstanceAs (Decidable True)

end Replay

/-- Both engines are loaded, before the component is there. -/
def loadBoth : List ProviderEvent :=
  [.loadFilterSet true true, .loadFilterSet false true, .runStore, .runStore, .runUi, .runUi,
    .runRunner, .runRunner]

/-- The scriptlet `a.js` is added, and stored. -/
def addScriptlet : List ProviderEvent :=
  [.call (.addResource kStorageScriptletsKey (CustomStore.scriptlet "a.js" CustomStore.plainKind)),
    .runStore, .runUi, .runStore]

theorem resources_current_added :
    ∃ s, Run ((machine CustomStore.plainAdblock.library).restrict
        (latestFirst CustomStore.plainAdblock.library)) (init CustomStore.plainAdblock.library)
        (loadBoth ++ addScriptlet ++ [.runStore, .runUi, .loadFilterSet true true, .runUi,
          .runRunner, .runRunner, .runRunner]) s ∧
      (s.engines true).resources.map (·.name) = ["a.js"] ∧
      CustomStore.plainAdblock.library.onCustomResourcesLoaded
        (s.latestDefault CustomStore.plainAdblock.library) s.store = .ok (s.engines true) := by
  obtain ⟨s, run, hs⟩ := Machine.exists_run ((machine CustomStore.plainAdblock.library).restrict
    (latestFirst CustomStore.plainAdblock.library)) (init CustomStore.plainAdblock.library)
    (loadBoth ++ addScriptlet ++ [.runStore, .runUi, .loadFilterSet true true, .runUi,
      .runRunner, .runRunner, .runRunner])
    (fun s => decide (s.requests = [] ∧ s.ui = [] ∧ s.reads = [] ∧ s.runner = [] ∧
      s.loaded true = true ∧ (s.engines true).resources.map (·.name) = ["a.js"])) (by decide)
  obtain ⟨hrequests, hui, hreads, hrunner, hloaded, hnames⟩ := of_decide_eq_true hs
  exact ⟨s, run, hnames, resources_current CustomStore.plainAdblock.library run
    ⟨hrequests, hui, hreads, hrunner⟩ hloaded⟩

/-- The reply to the reload of an addition is handled after that of a later removal was posted, and
a filter set is loaded with the old resources in between: the engine ends with them. -/
theorem removed_resource_kept :
    ∃ s, Run (machine CustomStore.plainAdblock.library) (init CustomStore.plainAdblock.library)
        (loadBoth ++ addScriptlet ++ [.runStore, .call (.removeKey kStorageScriptletsKey),
          .runStore, .runStore, .runUi, .loadFilterSet true true, .runUi, .runUi,
          .runRunner, .runRunner, .runRunner, .runRunner, .runRunner]) s ∧
      s.Idle ∧ (∀ engine, s.loaded engine = true) ∧ s.store = [] ∧
      (s.engines true).resources.map (·.name) = ["a.js"] ∧
      CustomStore.plainAdblock.library.onCustomResourcesLoaded
        (s.latestDefault CustomStore.plainAdblock.library) s.store ≠ .ok (s.engines true) := by
  obtain ⟨s, run, hs⟩ := Machine.exists_run (machine CustomStore.plainAdblock.library)
    (init CustomStore.plainAdblock.library)
    (loadBoth ++ addScriptlet ++ [.runStore, .call (.removeKey kStorageScriptletsKey),
      .runStore, .runStore, .runUi, .loadFilterSet true true, .runUi, .runUi,
      .runRunner, .runRunner, .runRunner, .runRunner, .runRunner])
    (fun s => decide (s.requests = [] ∧ s.ui = [] ∧ s.reads = [] ∧ s.runner = [] ∧
      (∀ engine, s.loaded engine = true) ∧ s.store = [] ∧
      (s.engines true).resources.map (·.name) = ["a.js"] ∧
      CustomStore.plainAdblock.library.onCustomResourcesLoaded
        (s.latestDefault CustomStore.plainAdblock.library) s.store ≠ .ok (s.engines true)))
    (by decide)
  obtain ⟨hrequests, hui, hreads, hrunner, hloaded, hstore, hnames, hstale⟩ := of_decide_eq_true hs
  exact ⟨s, run, ⟨hrequests, hui, hreads, hrunner⟩, hloaded, hstore, hnames, hstale⟩

end ResourceProviders

end ChromiumAdblock
