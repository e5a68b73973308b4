import Mathlib.Data.List.Nodup
import ChromiumAdblock.Lib.Queue
import ChromiumAdblock.Shields.ResourceReloads

/-! The lists of the custom store, and those that are under way to it or from it: their resources
are valid for their key, and have names of their own. -/

namespace ChromiumAdblock

open EventMachine

/-- A list that the store may hold for a key. -/
structure ListFits (key : String) (resources : List Value) : Prop where
  valid : ∀ resource ∈ resources, isValidResource resource (key == kStorageScriptletsKey) = true
  names : (resources.map getResourceName).Nodup

theorem ListFits.nil (key : String) : ListFits key [] := ⟨by simp, .nil⟩

theorem findResource_eq_none {resources : List Value} {name : String}
    (h : findResource resources name = none) : name ∉ resources.map getResourceName := by
  rintro hmem
  obtain ⟨resource, hresource, hname⟩ := List.mem_map.mp hmem
  have hother := List.findIdx?_eq_none_iff.mp h resource hresource
  simp [hname] at hother

theorem getElem?_of_findResource {resources : List Value} {name : String} {i : Nat}
    (h : findResource resources name = some i) :
    (resources.map getResourceName)[i]? = some name := by
  obtain ⟨hi, hname, -⟩ := List.findIdx?_eq_some_iff_getElem.mp h
  rw [List.getElem?_map, List.getElem?_eq_getElem hi]
  exact congrArg some (by simpa using hname)

theorem ListFits.onResources {call : ResourceCall} {resources saved : List Value}
    (h : ListFits call.key resources) (hvalid : call.invalid = false)
    (hsaved : (call.onResources resources).1 = some saved) : ListFits call.key saved := by
  cases call with
  | addResource key new =>
    cases hfind : findResource resources (getResourceName new) with
    | some i => simp [ResourceCall.onResources, addResourceInternal, hfind] at hsaved
    | none =>
      obtain rfl : resources ++ [new] = saved := by
        simpa [ResourceCall.onResources, addResourceInternal, hfind] using hsaved
      refine ⟨fun resource hresource => ?_, ?_⟩
      · rcases List.mem_append.mp hresource with hresource | hresource
        · exact h.valid resource hresource
        · obtain rfl := List.mem_singleton.mp hresource
          simpa [ResourceCall.invalid, ResourceCall.key] using hvalid
      · rw [List.map_append]
        exact List.nodup_append_comm.mp
          (List.nodup_cons.mpr ⟨findResource_eq_none hfind, h.names⟩)
  | updateResource key oldName new =>
    cases hfind : findResource resources oldName with
    | none => simp [ResourceCall.onResources, updateResourceInternal, hfind] at hsaved
    | some i =>
      simp only [ResourceCall.onResources, updateResourceInternal, hfind] at hsaved
      split at hsaved
      · contradiction
      · rename_i hfree
        obtain rfl := Option.some.inj hsaved
        refine ⟨fun resource hresource => ?_, ?_⟩
        · rcases List.mem_or_eq_of_mem_set hresource with hresource | rfl
          · exact h.valid resource hresource
          · simpa [ResourceCall.invalid, ResourceCall.key] using hvalid
        · rw [List.map_set]
          by_cases hname : oldName = getResourceName new
          · have hsame := getElem?_of_findResource hfind
            rw [hname] at hsame
            obtain ⟨hi, hget⟩ := List.getElem?_eq_some_iff.mp hsame
            rw [← hget, List.set_getElem_self]
            exact h.names
          · refine h.names.set (findResource_eq_none ?_)
            simpa [hname] using hfree
  | removeResource key name =>
    cases hfind : findResource resources name with
    | none => simp [ResourceCall.onResources, removeResourceInternal, hfind] at hsaved
    | some i =>
      obtain rfl : resources.eraseIdx i = saved := by
        simpa [ResourceCall.onResources, removeResourceInternal, hfind] using hsaved
      refine ⟨fun resource hresource => h.valid resource (List.mem_of_mem_eraseIdx hresource), ?_⟩
      exact h.names.sublist ((List.eraseIdx_sublist _ _).map _)
  | removeKey key => contradiction

/-- A value that the store may hold for a key. -/
def EntryFits (key : String) (value : Value) : Prop :=
  ∃ resources, value = .list resources ∧ ListFits key resources

def StoreFits (store : DictValue) : Prop := ∀ entry ∈ store, EntryFits entry.1 entry.2

theorem StoreFits.set {store : DictValue} (h : StoreFits store) {key : String}
    {resources : List Value} (hfits : ListFits key resources) :
    StoreFits (DictValue.set store key (.list resources)) := by
  intro entry hentry
  rcases DictValue.mem_set hentry with rfl | hentry
  · exact ⟨resources, rfl, hfits⟩
  · exact h entry hentry

theorem StoreFits.remove {store : DictValue} (h : StoreFits store) (key : String) :
    StoreFits (DictValue.remove store key) :=
  fun entry hentry => h entry (List.mem_of_mem_filter hentry)

theorem StoreFits.find {store : DictValue} (h : StoreFits store) {key : String} {value : Value}
    (hvalue : DictValue.find store key = some value) : EntryFits key value :=
  h (key, value) (DictValue.mem_of_find hvalue)

def StoreTask.Fits {σ : Type} : StoreTask σ → Prop
  | get _ call => call.invalid = false
  | set key resources => ListFits key resources
  | remove _ | getKeys _ _ => True

def ResourcesTask.Fits {σ : Type} : ResourcesTask σ → Prop
  | onResources _ call value =>
    call.invalid = false ∧ ∀ list, value = some list → EntryFits call.key list
  | onCustomResourcesLoaded _ _ customResources => StoreFits customResources
  | runOnLoad _ _ | onResourcesRead _ => True

namespace ResourceProviders

variable {σ : Type}

/-- The lists that the store holds, that are to be saved, and that the store replied. -/
structure ListsFit (s : ResourceProviders σ) : Prop where
  store : StoreFits s.store
  requests : ∀ task ∈ s.requests, task.Fits
  ui : ∀ task ∈ s.ui, task.Fits

variable {lib : ResourceLibrary σ} {s s' : ResourceProviders σ}

theorem ListsFit.post (h : s.ListsFit) (hstore : s'.store = s.store)
    (hrequests : ∃ tasks, s'.requests = s.requests ++ tasks ∧ ∀ task ∈ tasks, task.Fits)
    (hui : ∃ tasks, s'.ui = s.ui ++ tasks ∧ ∀ task ∈ tasks, task.Fits) : s'.ListsFit where
  store := hstore ▸ h.store
  requests := by
    obtain ⟨tasks, hrequests, hfits⟩ := hrequests
    rw [hrequests]
    exact fun task htask => (List.mem_append.mp htask).elim (h.requests task) (hfits task)
  ui := by
    obtain ⟨tasks, hui, hfits⟩ := hui
    rw [hui]
    exact fun task htask => (List.mem_append.mp htask).elim (h.ui task) (hfits task)

theorem ListsFit.postRequest (h : s.ListsFit) {task : StoreTask σ} (hfits : task.Fits) :
    (s.postRequest task).ListsFit :=
  h.post rfl ⟨[task], rfl, by simpa using hfits⟩ ⟨[], (List.append_nil _).symm, by simp⟩

theorem ListsFit.postUi (h : s.ListsFit) {task : ResourcesTask σ} (hfits : task.Fits) :
    (s.postUi task).ListsFit :=
  h.post rfl ⟨[], (List.append_nil _).symm, by simp⟩ ⟨[task], rfl, by simpa using hfits⟩

theorem ListsFit.of_eq (h : s.ListsFit) (hstore : s'.store = s.store)
    (hrequests : s'.requests = s.requests) (hui : s'.ui = s.ui) : s'.ListsFit :=
  ⟨hstore ▸ h.store, hrequests ▸ h.requests, hui ▸ h.ui⟩

theorem ListsFit.loadDefaultResources (h : s.ListsFit) (onLoad : OnLoad) :
    (s.loadDefaultResources lib onLoad).ListsFit := by
  unfold ResourceProviders.loadDefaultResources
  split
  · exact h.postRequest trivial
  · exact h.of_eq rfl rfl rfl

theorem ListsFit.loadResources (h : s.ListsFit) (onLoad : OnLoad) :
    (s.loadResources lib onLoad).ListsFit := by
  unfold ResourceProviders.loadResources
  split
  · exact h.postUi trivial
  · exact h.loadDefaultResources onLoad

theorem ListsFit.write (h : s.ListsFit) (id : Nat) (task : StoreTask σ) (hfits : task.Fits) :
    (s.write lib id task).ListsFit := by
  rw [ResourceProviders.write, reloadResourcesAndNotify]
  refine ListsFit.loadResources ?_ _
  exact h.post rfl ⟨[task], rfl, by simpa using hfits⟩ ⟨[], (List.append_nil _).symm, by simp⟩

theorem ListsFit.startCall (h : s.ListsFit) (id : Nat) (call : ResourceCall) :
    (s.startCall lib id call).ListsFit := by
  unfold ResourceProviders.startCall
  split
  · exact h.of_eq rfl rfl rfl
  · rename_i hvalid
    have hget : (s.postRequest (.get id call)).ListsFit :=
      h.postRequest (Bool.eq_false_of_not_eq_true hvalid)
    split
    · exact (h.write id (.remove _) trivial).of_eq rfl rfl rfl
    · exact hget

theorem ListsFit.runOnLoad (h : s.ListsFit) (storage : σ) (onLoad : OnLoad) :
    (s.runOnLoad storage onLoad).ListsFit := by
  cases onLoad <;> exact h.of_eq rfl rfl rfl

/-- The list that `GetCustomResources` hands on. -/
theorem customResourcesOf_fits {key : String} {value : Option Value}
    (h : ∀ list, value = some list → EntryFits key list) :
    ∃ resources, customResourcesOf value = .list resources ∧ ListFits key resources := by
  cases value with
  | none => exact ⟨[], rfl, .nil key⟩
  | some list =>
    obtain ⟨resources, rfl, hfits⟩ := h list rfl
    exact ⟨resources, rfl, hfits⟩

theorem ListsFit.onResources (h : s.ListsFit) (id : Nat) {call : ResourceCall}
    {value : Option Value} (hvalid : call.invalid = false)
    (hvalue : ∀ list, value = some list → EntryFits call.key list) :
    ∃ s', s.onResources lib id call (customResourcesOf value) = .ok s' ∧ s'.ListsFit := by
  obtain ⟨resources, hresources, hfits⟩ := customResourcesOf_fits hvalue
  refine ⟨_, by rw [hresources]; rfl, ?_⟩
  cases houtcome : call.onResources resources with
  | mk saved status =>
    cases saved with
    | none => exact h.of_eq rfl rfl rfl
    | some saved =>
      have hsaved : ListFits call.key saved := hfits.onResources hvalid (by rw [houtcome])
      exact (h.write id (.set call.key saved) hsaved).of_eq rfl rfl rfl

theorem StoreFits.lists {store : DictValue} (h : StoreFits store) :
    ∀ entry ∈ store, entry.2.isList = true := by
  intro entry hentry
  obtain ⟨resources, hresources, -⟩ := h entry hentry
  rw [hresources]
  rfl

/-- A task of the UI thread: no `CHECK` fails. -/
theorem ListsFit.runUiTask (h : s.ListsFit) {task : ResourcesTask σ} (hfits : task.Fits) :
    ∃ s', s.runUiTask lib task = .ok s' ∧ s'.ListsFit := by
  cases task with
  | onResources id call value => exact h.onResources id hfits.1 hfits.2
  | onCustomResourcesLoaded onLoad defaultStorage customResources =>
    have hmerged : lib.onCustomResourcesLoaded defaultStorage customResources =
        .ok (lib.merge defaultStorage customResources) :=
      ResourceLibrary.onCustomResourcesLoaded_lists (StoreFits.lists hfits) defaultStorage
    have hrun : s.runUiTask lib
        (.onCustomResourcesLoaded onLoad defaultStorage customResources) =
          .ok ({ s with cachedStorage := some (lib.merge defaultStorage customResources) }.runOnLoad
            (lib.merge defaultStorage customResources) onLoad) := by
      simp only [ResourceProviders.runUiTask, onCustomResourcesLoaded, hmerged]
    refine ⟨_, hrun, ?_⟩
    refine ListsFit.runOnLoad ?_ _ onLoad
    exact h.of_eq rfl rfl rfl
  | runOnLoad onLoad storage => exact ⟨_, rfl, h.runOnLoad storage onLoad⟩
  | onResourcesRead read =>
    refine ⟨_, rfl, ?_⟩
    unfold ResourceProviders.onResourcesRead
    split
    · exact h.postRequest trivial
    · exact ListsFit.postRequest (s := { s with cachedStorage := none }) (h.of_eq rfl rfl rfl)
        trivial

theorem ListsFit.popRequest (h : s.ListsFit) {task : StoreTask σ} {tasks : List (StoreTask σ)}
    (hrequests : s.requests = task :: tasks) :
    task.Fits ∧ { s with requests := tasks }.ListsFit := by
  have hall := h.requests
  rw [hrequests] at hall
  exact ⟨hall task List.mem_cons_self, h.store, fun t ht => hall t (.tail _ ht), h.ui⟩

theorem ListsFit.runStore (h : s.ListsFit) : s.runStore.ListsFit := by
  cases hrequests : s.requests with
  | nil =>
    rw [ResourceProviders.runStore, hrequests]
    exact h
  | cons task tasks =>
    obtain ⟨hfits, hpopped⟩ := h.popRequest hrequests
    rw [ResourceProviders.runStore, hrequests]
    cases task with
    | get id call => exact hpopped.postUi ⟨hfits, fun list hlist => h.store.find hlist⟩
    | set key resources => exact ⟨h.store.set hfits, hpopped.requests, hpopped.ui⟩
    | remove key => exact ⟨h.store.remove key, hpopped.requests, hpopped.ui⟩
    | getKeys onLoad defaultStorage => exact hpopped.postUi h.store

theorem ListsFit.runUi (h : s.ListsFit) : ∃ s', s.runUi lib = .ok s' ∧ s'.ListsFit := by
  cases hui : s.ui with
  | nil => exact ⟨s, by rw [ResourceProviders.runUi, hui], h⟩
  | cons task tasks =>
    have hall := h.ui
    rw [hui] at hall
    have hpopped : { s with ui := tasks }.ListsFit :=
      ⟨h.store, h.requests, fun t ht => hall t (.tail _ ht)⟩
    rw [ResourceProviders.runUi, hui]
    exact hpopped.runUiTask (hall task List.mem_cons_self)

theorem ListsFit.step (h : s.ListsFit) (lib : ResourceLibrary σ) (e : ProviderEvent) :
    ∃ s', s.step lib e = .ok s' ∧ s'.ListsFit := by
  cases e with
  | call call =>
    exact ⟨_, rfl, ListsFit.startCall (s := { s with nextCall := s.nextCall + 1 })
      (h.of_eq rfl rfl rfl) s.nextCall call⟩
  | loadFilterSet isDefaultEngine filterSetLoads =>
    refine ⟨_, rfl, ?_⟩
    rw [loadFilterSet]
    refine ListsFit.loadResources ?_ _
    exact h.of_eq rfl rfl rfl
  | componentReady path => exact ⟨_, rfl, h.of_eq rfl rfl rfl⟩
  | runStore => exact ⟨_, rfl, h.runStore⟩
  | runUi => exact h.runUi
  | runRunner =>
    refine ⟨_, rfl, ?_⟩
    unfold runRunner
    split
    · exact h
    · exact h.of_eq rfl rfl rfl
  | finishRead i =>
    refine ⟨_, rfl, ?_⟩
    unfold finishRead
    split
    · exact h
    · exact ListsFit.postUi (s := { s with reads := s.reads.eraseIdx i }) (h.of_eq rfl rfl rfl)
        trivial

theorem listsFit_init : (init lib).ListsFit := ⟨by simp [StoreFits, init], by simp [init],
  by simp [init]⟩

theorem listsFit_of_run {es : List ProviderEvent} (run : Run (machine lib) (init lib) es s) :
    s.ListsFit := by
  refine run.preserves ?_ listsFit_init
  intro s e s' _ hstep h
  obtain ⟨t, ht, hfits⟩ := h.step lib e
  obtain rfl := Except.ok.inj (ht.symm.trans hstep)
  exact hfits

end ResourceProviders

theorem onResources_status {call : ResourceCall} {resources saved : List Value} {status : ErrorCode}
    (h : call.onResources resources = (some saved, status)) : status = .kOk := by
  cases call with
  | addResource key new =>
    cases hfind : findResource resources (getResourceName new) <;>
      simp [ResourceCall.onResources, addResourceInternal, hfind] at h
    exact h.2.symm
  | updateResource key oldName new =>
    cases hfind : findResource resources oldName <;>
      simp only [ResourceCall.onResources, updateResourceInternal, hfind] at h
    · simp at h
    · split at h
      · simp at h
      · exact (Prod.mk.inj h).2.symm
  | removeResource key name =>
    cases hfind : findResource resources name <;>
      simp [ResourceCall.onResources, removeResourceInternal, hfind] at h
    exact h.2.symm
  | removeKey key => simp [ResourceCall.onResources] at h

/-- The call that a task is a part of. -/
def StoreTask.callId {σ : Type} : StoreTask σ → Option Nat
  | get id _ => some id
  | set _ _ | remove _ | getKeys _ _ => none

def ResourcesTask.callId {σ : Type} : ResourcesTask σ → Option Nat
  | onResources id _ _ => some id
  | onCustomResourcesLoaded _ _ _ | runOnLoad _ _ | onResourcesRead _ => none

namespace ResourceProviders

variable {σ : Type}

/-- The calls that have not reported a status. -/
def pendingCalls (s : ResourceProviders σ) : List Nat :=
  s.requests.filterMap StoreTask.callId ++ s.ui.filterMap ResourcesTask.callId

/-- A call that did nothing yet. -/
def Untouched (s : ResourceProviders σ) (id : Nat) : Prop :=
  (∀ status, (id, status) ∉ s.reported) ∧ ∀ effect, (id, effect) ∉ s.effects

/-- Pending calls did nothing yet, and calls that were refused had no effect. -/
structure CallsSettled (s : ResourceProviders σ) : Prop where
  distinct : s.pendingCalls.Nodup
  below : ∀ id ∈ s.pendingCalls, id < s.nextCall
  pending : ∀ id ∈ s.pendingCalls, s.Untouched id
  future : ∀ id, s.nextCall ≤ id → s.Untouched id
  refused : ∀ id status, (id, status) ∈ s.reported → status ≠ .kOk →
    ∀ effect, (id, effect) ∉ s.effects

/-- No call is started or gets on. -/
structure SameCalls (s s' : ResourceProviders σ) : Prop where
  pending : s'.pendingCalls.Perm s.pendingCalls
  nextCall : s'.nextCall = s.nextCall
  reported : s'.reported = s.reported
  effects : s'.effects = s.effects

variable {lib : ResourceLibrary σ} {s s' s'' : ResourceProviders σ} {id : Nat}

theorem SameCalls.trans (first : SameCalls s s') (second : SameCalls s' s'') : SameCalls s s'' :=
  ⟨second.pending.trans first.pending, second.nextCall.trans first.nextCall,
    second.reported.trans first.reported, second.effects.trans first.effects⟩

theorem SameCalls.untouched (same : SameCalls s s') (h : s.Untouched id) : s'.Untouched id :=
  ⟨same.reported ▸ h.1, same.effects ▸ h.2⟩

theorem CallsSettled.same (h : s.CallsSettled) (same : SameCalls s s') : s'.CallsSettled where
  distinct := same.pending.nodup_iff.mpr h.distinct
  below id hid := same.nextCall ▸ h.below id (same.pending.mem_iff.mp hid)
  pending id hid := same.untouched (h.pending id (same.pending.mem_iff.mp hid))
  future id hid := same.untouched (h.future id (same.nextCall ▸ hid))
  refused := by
    rw [same.reported, same.effects]
    exact h.refused

theorem sameCalls_postRequest (task : StoreTask σ) (htask : task.callId = none) :
    SameCalls s (s.postRequest task) :=
  ⟨by simp [pendingCalls, postRequest, htask], rfl, rfl, rfl⟩

theorem sameCalls_postUi (task : ResourcesTask σ) (htask : task.callId = none) :
    SameCalls s (s.postUi task) :=
  ⟨by simp [pendingCalls, postUi, htask], rfl, rfl, rfl⟩

theorem sameCalls_cache (cached : Option σ) : SameCalls s { s with cachedStorage := cached } :=
  ⟨.refl _, rfl, rfl, rfl⟩

theorem sameCalls_reads (reads : List ResourcesRead) : SameCalls s { s with reads := reads } :=
  ⟨.refl _, rfl, rfl, rfl⟩

theorem sameCalls_loadResources (lib : ResourceLibrary σ) (onLoad : OnLoad) :
    SameCalls s (s.loadResources lib onLoad) := by
  unfold loadResources
  split
  · exact sameCalls_postUi _ rfl
  · unfold loadDefaultResources
    split
    · exact sameCalls_postRequest _ rfl
    · exact ⟨.refl _, rfl, rfl, rfl⟩

/-- A call ends: it reports a status, and only where it is done it has effects. -/
theorem CallsSettled.finish (h : s.CallsSettled) (hid : id < s.nextCall)
    (hpending : id ∉ s.pendingCalls) (hfresh : s.Untouched id) {status : ErrorCode}
    {effects : List CallEffect} (hsame : s'.pendingCalls.Perm s.pendingCalls)
    (hnext : s'.nextCall = s.nextCall) (hreported : s'.reported = s.reported ++ [(id, status)])
    (heffects : s'.effects = s.effects ++ effects.map (Prod.mk id))
    (hrefused : status ≠ .kOk → effects = []) : s'.CallsSettled := by
  have hkept : ∀ other, other ≠ id → s.Untouched other → s'.Untouched other := by
    intro other hne huntouched
    refine ⟨fun status hmem => ?_, fun effect hmem => ?_⟩
    · rw [hreported] at hmem
      rcases List.mem_append.mp hmem with hmem | hmem
      · exact huntouched.1 _ hmem
      · exact hne (Prod.mk.inj (List.mem_singleton.mp hmem)).1
    · rw [heffects] at hmem
      rcases List.mem_append.mp hmem with hmem | hmem
      · exact huntouched.2 _ hmem
      · obtain ⟨e, -, he⟩ := List.mem_map.mp hmem
        exact hne (Prod.mk.inj he).1.symm
  refine ⟨hsame.nodup_iff.mpr h.distinct, fun other hother => ?_, fun other hother => ?_,
    fun other hother => ?_, fun other status' hmem hstatus effect heffect => ?_⟩
  · exact hnext ▸ h.below other (hsame.mem_iff.mp hother)
  · have hmem := hsame.mem_iff.mp hother
    exact hkept other (fun heq => hpending (heq ▸ hmem)) (h.pending other hmem)
  · rw [hnext] at hother
    exact hkept other (by omega) (h.future other hother)
  · rw [hreported] at hmem
    rw [heffects] at heffect
    rcases List.mem_append.mp hmem with hmem | hmem
    · rcases List.mem_append.mp heffect with heffect | heffect
      · exact h.refused other status' hmem hstatus effect heffect
      · obtain ⟨e, -, he⟩ := List.mem_map.mp heffect
        obtain rfl := (Prod.mk.inj he).1
        exact hfresh.1 _ hmem
    · obtain ⟨rfl, rfl⟩ := Prod.mk.inj (List.mem_singleton.mp hmem)
      rcases List.mem_append.mp heffect with heffect | heffect
      · exact hfresh.2 _ heffect
      · simp [hrefused hstatus] at heffect

theorem CallsSettled.report (h : s.CallsSettled) (hid : id < s.nextCall)
    (hpending : id ∉ s.pendingCalls) (hfresh : s.Untouched id) (status : ErrorCode) :
    (s.report id status).CallsSettled := by
  have heffects : s.effects = s.effects ++ ([] : List CallEffect).map (Prod.mk id) :=
    (List.append_nil _).symm
  exact h.finish hid hpending hfresh (.refl _) rfl rfl heffects fun _ => rfl

theorem CallsSettled.writeReport (h : s.CallsSettled) (hid : id < s.nextCall)
    (hpending : id ∉ s.pendingCalls) (hfresh : s.Untouched id) {task : StoreTask σ}
    (htask : task.callId = none) : ((s.write lib id task).report id .kOk).CallsSettled := by
  obtain ⟨hsame, hnext, hreported, heffects⟩ := sameCalls_loadResources lib
    (s := { s with
      requests := s.requests ++ [task]
      effects := s.effects ++ [CallEffect.write, .customResourcesChanged, .reloadResources].map
        (Prod.mk id)
      cachedStorage := none }) .notifyResourcesLoaded
  refine h.finish hid hpending hfresh (hsame.trans ?_) hnext
    (congrArg (· ++ [(id, ErrorCode.kOk)]) hreported) heffects fun hne => absurd rfl hne
  simp [pendingCalls, htask]

theorem CallsSettled.finishCall (h : s.CallsSettled) (hid : id < s.nextCall)
    (hpending : id ∉ s.pendingCalls) (hfresh : s.Untouched id) {call : ResourceCall}
    (resources : List Value) :
    (s.finishCall lib id call.key (call.onResources resources)).CallsSettled := by
  cases houtcome : call.onResources resources with
  | mk saved status =>
    cases saved with
    | none => exact h.report hid hpending hfresh status
    | some saved =>
      obtain rfl := onResources_status houtcome
      exact h.writeReport hid hpending hfresh rfl

theorem CallsSettled.call (h : s.CallsSettled) (call : ResourceCall) :
    (s.call lib call).CallsSettled := by
  have hfresh := h.future s.nextCall le_rfl
  have hpending : s.nextCall ∉ s.pendingCalls := fun hmem =>
    absurd (h.below s.nextCall hmem) (lt_irrefl _)
  have hnext : { s with nextCall := s.nextCall + 1 }.CallsSettled :=
    ⟨h.distinct, fun id hid => (h.below id hid).trans (Nat.lt_succ_self _), h.pending,
      fun id hid => h.future id (Nat.le_of_succ_le hid), h.refused⟩
  have hid : s.nextCall < { s with nextCall := s.nextCall + 1 }.nextCall := Nat.lt_succ_self _
  have hget : ({ s with nextCall := s.nextCall + 1 }.postRequest
      (.get s.nextCall call)).CallsSettled := by
    have hposted : ({ s with nextCall := s.nextCall + 1 }.postRequest
        (.get s.nextCall call)).pendingCalls.Perm (s.nextCall :: s.pendingCalls) := by
      simp only [pendingCalls, postRequest, Queue.filterMap_post, StoreTask.callId,
        Option.toList_some, List.append_assoc]
      exact List.perm_middle
    refine ⟨hposted.nodup_iff.mpr (List.nodup_cons.mpr ⟨hpending, h.distinct⟩), fun id hmem => ?_,
      fun id hmem => ?_, hnext.future, h.refused⟩
    · rcases List.mem_cons.mp (hposted.mem_iff.mp hmem) with rfl | hmem
      · exact hid
      · exact hnext.below id hmem
    · rcases List.mem_cons.mp (hposted.mem_iff.mp hmem) with rfl | hmem
      · exact hfresh
      · exact h.pending id hmem
  unfold ResourceProviders.call startCall
  split
  · exact hnext.report hid hpending hfresh _
  · split
    · exact hnext.writeReport hid hpending hfresh rfl
    · exact hget

theorem CallsSettled.runStore (h : s.CallsSettled) : s.runStore.CallsSettled := by
  cases hrequests : s.requests with
  | nil =>
    rw [ResourceProviders.runStore, hrequests]
    exact h
  | cons task tasks =>
    refine h.same ?_
    rw [ResourceProviders.runStore, hrequests]
    cases task with
    | get id call =>
      refine ⟨?_, rfl, rfl, rfl⟩
      simp only [pendingCalls, ResourceProviders.postUi, hrequests, Queue.filterMap_post,
        Queue.filterMap_head, StoreTask.callId, ResourcesTask.callId]
      rw [← List.append_assoc, List.append_assoc (some id).toList]
      exact List.perm_append_comm
    | set key resources =>
      refine ⟨.of_eq ?_, rfl, rfl, rfl⟩
      simp [pendingCalls, hrequests, Queue.filterMap_head, StoreTask.callId]
    | remove key =>
      refine ⟨.of_eq ?_, rfl, rfl, rfl⟩
      simp [pendingCalls, hrequests, Queue.filterMap_head, StoreTask.callId]
    | getKeys onLoad defaultStorage =>
      refine ⟨.of_eq ?_, rfl, rfl, rfl⟩
      simp [pendingCalls, ResourceProviders.postUi, hrequests, Queue.filterMap_head,
        StoreTask.callId, ResourcesTask.callId]

theorem sameCalls_runOnLoad (storage : σ) (onLoad : OnLoad) :
    SameCalls s (s.runOnLoad storage onLoad) := by
  cases onLoad <;> exact ⟨.refl _, rfl, rfl, rfl⟩

theorem sameCalls_popUi {task : ResourcesTask σ} {tasks : List (ResourcesTask σ)}
    (hui : s.ui = task :: tasks) (htask : task.callId = none) :
    SameCalls s { s with ui := tasks } :=
  ⟨.of_eq (by simp [pendingCalls, hui, htask]), rfl, rfl, rfl⟩

theorem CallsSettled.runUi (h : s.CallsSettled) (hstep : s.runUi lib = .ok s') :
    s'.CallsSettled := by
  cases hui : s.ui with
  | nil =>
    rw [ResourceProviders.runUi, hui] at hstep
    exact Except.ok.inj hstep ▸ h
  | cons task tasks =>
    rw [ResourceProviders.runUi, hui] at hstep
    cases task with
    | onResources id call value =>
      have hpopped : s.pendingCalls.Perm (id :: { s with ui := tasks }.pendingCalls) := by
        simp only [pendingCalls, hui, Queue.filterMap_head, ResourcesTask.callId]
        exact List.perm_middle
      obtain ⟨hpending, hdistinct⟩ := List.nodup_cons.mp (hpopped.nodup_iff.mp h.distinct)
      have hmem : id ∈ s.pendingCalls := hpopped.mem_iff.mpr List.mem_cons_self
      have hrest : { s with ui := tasks }.CallsSettled :=
        ⟨hdistinct, fun other hother => h.below other (hpopped.mem_iff.mpr (.tail _ hother)),
          fun other hother => h.pending other (hpopped.mem_iff.mpr (.tail _ hother)), h.future,
          h.refused⟩
      have hlist : ∀ list, { s with ui := tasks }.onResources lib id call list = .ok s' →
          s'.CallsSettled := by
        intro list hlist
        cases list with
        | list resources =>
          obtain rfl := Except.ok.inj hlist
          exact hrest.finishCall (h.below id hmem) hpending (h.pending id hmem) resources
        | _ => contradiction
      exact hlist _ hstep
    | onCustomResourcesLoaded onLoad defaultStorage customResources =>
      simp only [runUiTask, onCustomResourcesLoaded] at hstep
      split at hstep
      · contradiction
      · obtain rfl := Except.ok.inj hstep
        exact h.same (((sameCalls_popUi hui rfl).trans (sameCalls_cache _)).trans
          (sameCalls_runOnLoad _ onLoad))
    | runOnLoad onLoad storage =>
      obtain rfl := Except.ok.inj hstep
      exact h.same ((sameCalls_popUi hui rfl).trans (sameCalls_runOnLoad storage onLoad))
    | onResourcesRead read =>
      obtain rfl := Except.ok.inj hstep
      refine h.same ((sameCalls_popUi hui rfl).trans ?_)
      unfold onResourcesRead
      split
      · exact sameCalls_postRequest _ rfl
      · refine (sameCalls_cache none).trans ?_
        exact sameCalls_postRequest (.getKeys _ _) rfl

theorem CallsSettled.step (h : s.CallsSettled) {e : ProviderEvent}
    (hstep : s.step lib e = .ok s') : s'.CallsSettled := by
  cases e with
  | call call =>
    obtain rfl := Except.ok.inj hstep
    exact h.call call
  | loadFilterSet isDefaultEngine filterSetLoads =>
    obtain rfl := Except.ok.inj hstep
    rw [loadFilterSet]
    refine CallsSettled.same ?_ (sameCalls_loadResources _ _)
    exact h.same ⟨.refl _, rfl, rfl, rfl⟩
  | componentReady path =>
    obtain rfl := Except.ok.inj hstep
    exact h.same ⟨.refl _, rfl, rfl, rfl⟩
  | runStore =>
    obtain rfl := Except.ok.inj hstep
    exact h.runStore
  | runUi => exact h.runUi hstep
  | runRunner =>
    obtain rfl := Except.ok.inj hstep
    unfold runRunner
    split
    · exact h
    · exact h.same ⟨.refl _, rfl, rfl, rfl⟩
  | finishRead i =>
    obtain rfl := Except.ok.inj hstep
    unfold finishRead
    split
    · exact h
    · refine h.same ((sameCalls_reads (s.reads.eraseIdx i)).trans ?_)
      exact sameCalls_postUi (.onResourcesRead _) rfl

theorem callsSettled_of_run {es : List ProviderEvent} (run : Run (machine lib) (init lib) es s) :
    s.CallsSettled := by
  refine run.preserves (fun s e s' _ hstep h => h.step hstep) ?_
  exact ⟨.nil, by simp [pendingCalls, init], by simp [pendingCalls, init],
    fun id _ => ⟨by simp [init], by simp [init]⟩, by simp [init]⟩

/-- The lists of the store are valid with distinct names, no `CHECK` fails, and calls that are
refused have no effect. -/
theorem store_lists_fit (lib : ResourceLibrary σ) {es : List ProviderEvent}
    (run : Run (machine lib) (init lib) es s) :
    StoreFits s.store ∧ (∀ e, ∃ s', s.step lib e = .ok s') ∧
      ∀ id status, (id, status) ∈ s.reported → status ≠ .kOk →
        ∀ effect, (id, effect) ∉ s.effects := by
  refine ⟨(listsFit_of_run run).store, fun e => ?_, (callsSettled_of_run run).refused⟩
  obtain ⟨s', hstep, -⟩ := (listsFit_of_run run).step lib e
  exact ⟨s', hstep⟩

def addOfKind (kind : DictValue) : ProviderEvent :=
  .call (.addResource kStorageScriptletsKey (CustomStore.scriptlet "a.js" kind))

/-- Two additions of one name, the second of which gets its list before the first one is saved, and
an addition of that name afterwards. -/
def sameNameTwice : List ProviderEvent :=
  [addOfKind CustomStore.plainKind, addOfKind CustomStore.plainKind,
    .runStore, .runStore, .runUi, .runUi, .runStore, .runStore, .runStore, .runStore,
    addOfKind CustomStore.taggedKind, .runStore, .runUi, .runUi, .runUi]

theorem store_lists_fit_same_name :
    ∃ s, Run (machine CustomStore.plainAdblock.library) (init CustomStore.plainAdblock.library)
        sameNameTwice s ∧
      s.reported = [(0, .kOk), (1, .kOk), (2, .kAlreadyExists)] ∧ StoreFits s.store := by
  obtain ⟨s, run, hs⟩ := Machine.exists_run (machine CustomStore.plainAdblock.library)
    (init CustomStore.plainAdblock.library) sameNameTwice
    (fun s => decide (s.reported = [(0, .kOk), (1, .kOk), (2, .kAlreadyExists)])) (by decide)
  exact ⟨s, run, of_decide_eq_true hs, (store_lists_fit CustomStore.plainAdblock.library run).1⟩

end ResourceProviders

end ChromiumAdblock
