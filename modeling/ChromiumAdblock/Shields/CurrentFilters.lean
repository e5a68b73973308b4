import Mathlib.Data.List.Nodup
import Mathlib.Data.List.Perm.Basic
import ChromiumAdblock.Lib.Queue
import ChromiumAdblock.Shields.FilterLoads

/-! Which rules the additional engine ends up with.  The load that was started last captures the
current lists; but an older one that gets its resources later replaces the engine once more.  Where
that does not happen, and no list is read for a provider that has not announced it, the rules are
the current ones whenever nothing is in flight. -/

namespace ChromiumAdblock

open EventMachine

/-- What is under way for a load: a provider to ask, a list to read, a callback to collect, or the
whole filter set. -/
inductive LoadItem
  | ask (provider : Nat)
  | reading (provider : Nat) (url : String)
  | got (list : FilterList)
  | whole (filterSet : FilterSet)
deriving DecidableEq

/-- The provider whose callback the load still waits for. -/
def LoadItem.provider? : LoadItem → Option Nat
  | ask provider | reading provider _ => some provider
  | got list => some list.provider
  | whole _ => none

def UiTask.item (load : Nat) : UiTask → Option LoadItem
  | loadFilterSet l provider => if l = load then some (.ask provider) else none
  | runCallback l list => if l = load then some (.got list) else none
  | onDATFileDataReady l provider buffer =>
    if l = load then some (.got ⟨provider, buffer, 0⟩) else none
  | onFilterSetCreated l filterSet => if l = load then some (.whole filterSet) else none
  | onListAvailable _ => none

def FileRead.item (load : Nat) (read : FileRead) : Option LoadItem :=
  if read.load = load then some (.reading read.provider read.url) else none

def RunnerTask.item (load : Nat) : RunnerTask → Option LoadItem
  | createFilterSet l results => if l = load then some (.whole results) else none
  | loadEngine _ => none

def ResourceWait.item (load : Nat) (wait : ResourceWait) : Option LoadItem :=
  if wait.load = load then some (.whole wait.filterSet) else none

namespace AdditionalFilters

/-- Everything that is under way for a load. -/
def items (s : AdditionalFilters) (load : Nat) : List LoadItem :=
  s.ui.filterMap (UiTask.item load) ++ s.reads.filterMap (FileRead.item load) ++
    s.runner.filterMap (RunnerTask.item load) ++ s.resourceWaits.filterMap (ResourceWait.item load)

/-- The engine once the ad-block task runner has done its tasks. -/
def settledEngine (s : AdditionalFilters) : FilterSet :=
  s.runner.foldl (fun engine task =>
    match task with
    | .createFilterSet _ _ => engine
    | .loadEngine filterSet => filterSet) s.engine

/-- A step that leaves the providers and what they provide as they are, and starts no load. -/
structure SameRegistry (s s' : AdditionalFilters) : Prop where
  customFilters : s'.customFilters = s.customFilters
  listFiles : s'.listFiles = s.listFiles
  providers : s'.providers = s.providers
  nextProvider : s'.nextProvider = s.nextProvider
  suppress : s'.suppressStartupNotification = s.suppressStartupNotification
  nextLoad : s'.nextLoad = s.nextLoad
  changed : ∀ url, .onListAvailable url ∈ s.ui → .onListAvailable url ∈ s'.ui

/-- The providers, what they provide, and the number of loads. -/
def registryParts (s : AdditionalFilters) :=
  (s.customFilters, s.listFiles, s.providers, s.nextProvider, s.suppressStartupNotification,
    s.nextLoad)

theorem sameRegistry_of_parts {s s' : AdditionalFilters}
    (hparts : s'.registryParts = s.registryParts)
    (hchanged : ∀ url, .onListAvailable url ∈ s.ui → .onListAvailable url ∈ s'.ui) :
    SameRegistry s s' := by
  simp only [registryParts, Prod.mk.injEq] at hparts
  obtain ⟨hcustom, hlists, hproviders, hnextProvider, hsuppress, hnextLoad⟩ := hparts
  exact ⟨hcustom, hlists, hproviders, hnextProvider, hsuppress, hnextLoad, hchanged⟩

section Moves

variable {ρ : Type} (rulesOf : FilterList → List ρ)

/-- A list has no rules where its provider has not announced it. -/
def SilentEmpty (s : AdditionalFilters) (provider : Nat) (url : String) : Prop :=
  ∀ p ∈ s.provider? provider, p.announced = false → rulesOf ⟨p.id, s.listFiles url, 0⟩ = []

/-- What can become of one item of a load. -/
inductive ItemStep (s : AdditionalFilters) : LoadItem → List LoadItem → Prop
  | custom {p : FiltersProvider} (mem : p ∈ s.providers) (source : p.source = .custom) :
    ItemStep s (.ask p.id) [.got (s.currentList p)]
  | read {p : FiltersProvider} {url : String} (mem : p ∈ s.providers)
    (source : p.source = .subscription url) : ItemStep s (.ask p.id) [.reading p.id url]
  | finish (provider : Nat) (url : String) (silent : s.SilentEmpty rulesOf provider url) :
    ItemStep s (.reading provider url) [.got ⟨provider, s.listFiles url, 0⟩]
  | gone {item : LoadItem} {provider : Nat} (waits : item.provider? = some provider)
    (gone : s.provider? provider = none) : ItemStep s item []
  | carry (filterSet : FilterSet) : ItemStep s (.whole filterSet) [.whole filterSet]

/-- A step that moves at most one item of a load on. -/
structure Moves (s s' : AdditionalFilters) : Prop extends SameRegistry s s' where
  loads : s'.loads = s.loads
  answered : s'.answered = s.answered
  settled : s'.settledEngine = s.settledEngine
  items : ∀ load, (s'.items load).Perm (s.items load) ∨
    ∃ item new rest, (s.items load).Perm (item :: rest) ∧ (s'.items load).Perm (new ++ rest) ∧
      ItemStep rulesOf s item new

theorem provider?_mem {s : AdditionalFilters} {id : Nat} {p : FiltersProvider}
    (h : s.provider? id = some p) : p ∈ s.providers ∧ p.id = id := by
  refine ⟨List.mem_of_find?_eq_some h, ?_⟩
  simpa using List.find?_some h

variable {rulesOf} {s : AdditionalFilters} {rest : List UiTask}

theorem items_ui {task : UiTask} (hui : s.ui = task :: rest) (load : Nat) :
    s.items load = (task.item load).toList ++ { s with ui := rest }.items load := by
  simp [items, hui, Queue.filterMap_head]

theorem items_postUi (s : AdditionalFilters) (task : UiTask) (load : Nat) :
    ({ s with ui := s.ui ++ [task] }.items load).Perm
      ((task.item load).toList ++ s.items load) := by
  have hperm := Queue.filterMap_post_between (UiTask.item load) []
    (s.reads.filterMap (FileRead.item load) ++ (s.runner.filterMap (RunnerTask.item load) ++
      s.resourceWaits.filterMap (ResourceWait.item load))) s.ui task
  simpa only [items, List.append_assoc, List.nil_append] using hperm

theorem items_postRead (s : AdditionalFilters) (read : FileRead) (load : Nat) :
    ({ s with reads := s.reads ++ [read] }.items load).Perm
      ((read.item load).toList ++ s.items load) := by
  have hperm := Queue.filterMap_post_between (FileRead.item load)
    (s.ui.filterMap (UiTask.item load)) (s.runner.filterMap (RunnerTask.item load) ++
      s.resourceWaits.filterMap (ResourceWait.item load)) s.reads read
  simpa only [items, List.append_assoc] using hperm

theorem items_postRunner (s : AdditionalFilters) (task : RunnerTask) (load : Nat) :
    ({ s with runner := s.runner ++ [task] }.items load).Perm
      ((task.item load).toList ++ s.items load) :=
  Queue.filterMap_post_between (RunnerTask.item load) _ _ s.runner task

theorem items_postWait (s : AdditionalFilters) (wait : ResourceWait) (load : Nat) :
    ({ s with resourceWaits := s.resourceWaits ++ [wait] }.items load).Perm
      ((wait.item load).toList ++ s.items load) := by
  have hperm := Queue.filterMap_post_between (ResourceWait.item load)
    (s.ui.filterMap (UiTask.item load) ++ (s.reads.filterMap (FileRead.item load) ++
      s.runner.filterMap (RunnerTask.item load))) [] s.resourceWaits wait
  simpa only [items, List.append_assoc, List.append_nil] using hperm

theorem items_read {read : FileRead} {i : Nat} (hread : s.reads[i]? = some read) (load : Nat) :
    (s.items load).Perm
      ((read.item load).toList ++ { s with reads := s.reads.eraseIdx i }.items load) := by
  have hperm := Queue.filterMap_eraseIdx_between (FileRead.item load)
    (s.ui.filterMap (UiTask.item load)) (s.runner.filterMap (RunnerTask.item load) ++
      s.resourceWaits.filterMap (ResourceWait.item load)) hread
  simpa only [items, List.append_assoc] using hperm

theorem items_wait {wait : ResourceWait} {i : Nat} (hwait : s.resourceWaits[i]? = some wait)
    (load : Nat) : (s.items load).Perm ((wait.item load).toList ++
      { s with resourceWaits := s.resourceWaits.eraseIdx i }.items load) := by
  have hperm := Queue.filterMap_eraseIdx_between (ResourceWait.item load)
    (s.ui.filterMap (UiTask.item load) ++ (s.reads.filterMap (FileRead.item load) ++
      s.runner.filterMap (RunnerTask.item load))) [] hwait
  simpa only [items, List.append_assoc, List.append_nil] using hperm

theorem items_runner {task : RunnerTask} {rest : List RunnerTask}
    (hrunner : s.runner = task :: rest) (load : Nat) :
    (s.items load).Perm ((task.item load).toList ++ { s with runner := rest }.items load) := by
  have hfirst : s.runner[0]? = some task := by rw [hrunner]; rfl
  have hperm := Queue.filterMap_eraseIdx_between (RunnerTask.item load)
    (s.ui.filterMap (UiTask.item load) ++ s.reads.filterMap (FileRead.item load))
    (s.resourceWaits.filterMap (ResourceWait.item load)) hfirst
  rwa [hrunner, List.eraseIdx_cons_zero, ← hrunner] at hperm

theorem itemStep_of_items {s' : AdditionalFilters} {l : Nat} (item : LoadItem)
    (new : Option LoadItem) {base : Nat → List LoadItem}
    (hold : ∀ load,
      (s.items load).Perm ((if l = load then some item else none).toList ++ base load))
    (hnew : ∀ load, (s'.items load).Perm ((if l = load then new else none).toList ++ base load))
    (hstep : ItemStep rulesOf s item new.toList) (load : Nat) :
    (s'.items load).Perm (s.items load) ∨
      ∃ item new rest, (s.items load).Perm (item :: rest) ∧ (s'.items load).Perm (new ++ rest) ∧
        ItemStep rulesOf s item new := by
  have hold := hold load
  have hnew := hnew load
  by_cases hload : l = load
  · rw [if_pos hload] at hold hnew
    exact .inr ⟨item, new.toList, base load, hold, hnew, hstep⟩
  · rw [if_neg hload] at hold hnew
    exact .inl (hnew.trans hold.symm)

theorem moves_loadFilterSet {l id : Nat} (hui : s.ui = .loadFilterSet l id :: rest) :
    Moves rulesOf s ({ s with ui := rest }.loadFilterSet l id) := by
  have hold : ∀ load, (s.items load).Perm ((if l = load then some (.ask id) else none).toList ++
      { s with ui := rest }.items load) := fun load => by rw [items_ui hui]; rfl
  have hchanged : ∀ url, .onListAvailable url ∈ s.ui → .onListAvailable url ∈ rest := by
    simp [hui]
  unfold loadFilterSet
  split
  · rename_i hgone
    refine ⟨sameRegistry_of_parts rfl hchanged, rfl, rfl, rfl, ?_⟩
    exact itemStep_of_items (.ask id) none hold (fun load => by simp) (.gone rfl hgone)
  · rename_i p hp
    obtain ⟨hmem, rfl⟩ := provider?_mem hp
    split
    · rename_i hsource
      refine ⟨sameRegistry_of_parts rfl fun url h => ?_, rfl, rfl, rfl, ?_⟩
      · exact List.mem_append_left _ (hchanged url h)
      · have hlist : s.currentList p = ⟨p.id, s.customFilters, kCustomFiltersPermissionLevel⟩ := by
          simp [currentList, hsource]
        refine itemStep_of_items (.ask p.id)
          (some (.got ⟨p.id, s.customFilters, kCustomFiltersPermissionLevel⟩)) hold
          (fun load => items_postUi { s with ui := rest } _ load) ?_
        rw [← hlist]
        exact .custom hmem hsource
    · rename_i url hsource
      refine ⟨sameRegistry_of_parts rfl hchanged, rfl, rfl, rfl, ?_⟩
      exact itemStep_of_items (.ask p.id) (some (.reading p.id url)) hold
        (fun load => items_postRead { s with ui := rest } _ load) (.read hmem hsource)

theorem moves_onFilterSetCreated {l : Nat} {filterSet : FilterSet}
    (hui : s.ui = .onFilterSetCreated l filterSet :: rest) :
    Moves rulesOf s
      { s with
        ui := rest
        resourceWaits := s.resourceWaits ++ [⟨l, filterSet⟩] } := by
  refine ⟨sameRegistry_of_parts rfl (by simp [hui]), rfl, rfl, rfl, ?_⟩
  exact itemStep_of_items (.whole filterSet) (some (.whole filterSet))
    (fun load => by rw [items_ui hui]; rfl)
    (fun load => items_postWait { s with ui := rest } ⟨l, filterSet⟩ load) (.carry filterSet)

theorem moves_createFilterSet {l : Nat} {results : List FilterList} {tasks : List RunnerTask}
    (hrunner : s.runner = .createFilterSet l results :: tasks) :
    Moves rulesOf s { s with runner := tasks, ui := s.ui ++ [.onFilterSetCreated l results] } := by
  refine ⟨sameRegistry_of_parts rfl fun url h => List.mem_append_left _ h, rfl, rfl, ?_, ?_⟩
  · simp [settledEngine, hrunner]
  · exact itemStep_of_items (.whole results) (some (.whole results))
      (fun load => items_runner hrunner load)
      (fun load => items_postUi { s with runner := tasks } (.onFilterSetCreated l results) load)
      (.carry results)

theorem moves_loadEngine {filterSet : FilterSet} {tasks : List RunnerTask}
    (hrunner : s.runner = .loadEngine filterSet :: tasks) :
    Moves rulesOf s { s with runner := tasks, engine := filterSet } := by
  refine ⟨sameRegistry_of_parts rfl fun url h => h, rfl, rfl, ?_, fun load => .inl ?_⟩
  · simp [settledEngine, hrunner]
  · exact (items_runner hrunner load).symm

theorem moves_finishRead {read : FileRead} {i : Nat} (hread : s.reads[i]? = some read)
    (hsilent : s.SilentEmpty rulesOf read.provider read.url) :
    Moves rulesOf s (s.finishRead i) := by
  simp only [finishRead, hread]
  refine ⟨sameRegistry_of_parts rfl fun url h => List.mem_append_left _ h, rfl, rfl, rfl, ?_⟩
  exact itemStep_of_items (.reading read.provider read.url)
    (some (.got ⟨read.provider, s.listFiles read.url, 0⟩))
    (fun load => items_read hread load)
    (fun load => items_postUi { s with reads := s.reads.eraseIdx i }
      (.onDATFileDataReady read.load read.provider (s.listFiles read.url)) load)
    (.finish read.provider read.url hsilent)

theorem moves_dropReply {l id : Nat} {buffer : DATFileDataBuffer}
    (hui : s.ui = .onDATFileDataReady l id buffer :: rest) (hgone : s.provider? id = none) :
    Moves rulesOf s { s with ui := rest } := by
  refine ⟨sameRegistry_of_parts rfl (by simp [hui]), rfl, rfl, rfl, ?_⟩
  exact itemStep_of_items (.got ⟨id, buffer, 0⟩) none
    (fun load => by rw [items_ui hui]; rfl) (fun load => by simp) (.gone rfl hgone)

end Moves

/-- The providers, and that nothing is known of loads that were not started. -/
structure Registered (s : AdditionalFilters) : Prop where
  ids : (s.providers.map (·.id)).Nodup
  bound : ∀ p ∈ s.providers, p.id < s.nextProvider
  custom : ∃ p ∈ s.providers, p.id = 0 ∧ p.source = .custom
  announced : ∀ p ∈ s.providers, p.source = .custom → p.announced = true
  notSuppressed : s.suppressStartupNotification = false
  unused : ∀ load, s.nextLoad ≤ load → s.items load = [] ∧ load ∉ s.answered

section Newest

variable {ρ : Type} (rulesOf : FilterList → List ρ)

/-- A list that was collected from a provider that is there: its current one, unless the provider is
going to be told of a change, and without rules if the provider has not announced one. -/
def Good (s : AdditionalFilters) (list : FilterList) : Prop :=
  ∃ p ∈ s.providers, p.id = list.provider ∧
    (p.announced = true → rulesOf list = rulesOf (s.currentList p) ∨
      ∃ url, p.source = .subscription url ∧ .onListAvailable url ∈ s.ui) ∧
    (p.announced = false → rulesOf list = [])

/-- A filter set with a good list of each provider that the load asked. -/
structure Whole (s : AdditionalFilters) (load : Nat) (filterSet : FilterSet) : Prop where
  providers : (filterSet.map (·.provider)).Perm (s.loads load).providers
  good : ∀ list ∈ filterSet, s.Good rulesOf list

def ItemOk (s : AdditionalFilters) (load : Nat) : LoadItem → Prop
  | .ask _ => True
  | .reading provider url => ∃ p ∈ s.providers, p.id = provider ∧ p.source = .subscription url
  | .got list => s.Good rulesOf list
  | .whole filterSet => s.Whole rulesOf load filterSet

/-- The load that was started last: it asked all providers but some that have announced nothing
since they were made, and it has got or is going to get a good list of each. -/
structure Newest (s : AdditionalFilters) (load : Nat) : Prop where
  number : s.nextLoad = load + 1
  nodup : (s.loads load).providers.Nodup
  registered : ∀ id ∈ (s.loads load).providers, ∃ p ∈ s.providers, p.id = id
  unasked : ∀ p ∈ s.providers, p.id ∉ (s.loads load).providers → p.announced = false
  accounted : ((s.items load).filterMap LoadItem.provider? ++
    (s.loads load).results.map (·.provider)).Perm (s.loads load).providers
  items : ∀ item ∈ s.items load, s.ItemOk rulesOf load item
  results : ∀ list ∈ (s.loads load).results, s.Good rulesOf list
  complete : (s.items load).filterMap LoadItem.provider? = [] →
    (∃ filterSet, .whole filterSet ∈ s.items load) ∨ load ∈ s.answered
  settled : load ∈ s.answered → s.Whole rulesOf load s.settledEngine

variable {rulesOf} {s s' : AdditionalFilters} {load : Nat}

theorem SameRegistry.trans {s'' : AdditionalFilters} (first : SameRegistry s s')
    (second : SameRegistry s' s'') : SameRegistry s s'' where
  customFilters := second.customFilters.trans first.customFilters
  listFiles := second.listFiles.trans first.listFiles
  providers := second.providers.trans first.providers
  nextProvider := second.nextProvider.trans first.nextProvider
  suppress := second.suppress.trans first.suppress
  nextLoad := second.nextLoad.trans first.nextLoad
  changed url h := second.changed url (first.changed url h)

theorem SameRegistry.good (same : SameRegistry s s') {list : FilterList}
    (h : s.Good rulesOf list) : s'.Good rulesOf list := by
  obtain ⟨p, hmem, hid, hannounced, hsilent⟩ := h
  refine ⟨p, by rwa [same.providers], hid, fun ha => ?_, hsilent⟩
  have hcurrent : s'.currentList p = s.currentList p := by
    simp only [currentList, same.customFilters, same.listFiles]
  rw [hcurrent]
  exact (hannounced ha).imp_right fun ⟨url, hsource, hchanged⟩ =>
    ⟨url, hsource, same.changed url hchanged⟩

theorem SameRegistry.whole (same : SameRegistry s s')
    (hloads : (s'.loads load).providers = (s.loads load).providers) {filterSet : FilterSet}
    (h : s.Whole rulesOf load filterSet) : s'.Whole rulesOf load filterSet :=
  ⟨by rw [hloads]; exact h.providers, fun list hlist => same.good (h.good list hlist)⟩

theorem SameRegistry.itemOk (same : SameRegistry s s')
    (hloads : (s'.loads load).providers = (s.loads load).providers) {item : LoadItem}
    (h : s.ItemOk rulesOf load item) : s'.ItemOk rulesOf load item := by
  cases item with
  | ask provider => trivial
  | reading provider url =>
    rw [ItemOk, same.providers]
    exact h
  | got list => exact same.good h
  | whole filterSet => exact same.whole hloads h

theorem provider?_of_mem (h : s.Registered) {p : FiltersProvider} (hmem : p ∈ s.providers) :
    s.provider? p.id = some p := by
  cases hfind : s.provider? p.id with
  | none =>
    have hnone := List.find?_eq_none.mp hfind p hmem
    simp at hnone
  | some q =>
    obtain ⟨hq, hid⟩ := provider?_mem hfind
    rw [List.inj_on_of_nodup_map h.ids hq hmem hid]

/-- What an item of the newest load becomes waits for the same provider, and is good. -/
theorem Newest.itemStep (h : s.Newest rulesOf load) (hs : s.Registered) {item : LoadItem}
    {new : List LoadItem} (hmem : item ∈ s.items load) (hstep : ItemStep rulesOf s item new) :
    new.filterMap LoadItem.provider? = item.provider?.toList ∧
      (item.provider? = none → ∃ filterSet, .whole filterSet ∈ new) ∧
      ∀ i ∈ new, s.ItemOk rulesOf load i := by
  have hok := h.items item hmem
  cases hstep with
  | @custom p hp hsource =>
    have hprovider : (s.currentList p).provider = p.id := by simp [currentList, hsource]
    refine ⟨by simp [LoadItem.provider?, hprovider], by simp [LoadItem.provider?], ?_⟩
    simp only [List.mem_singleton, forall_eq]
    refine ⟨p, hp, hprovider.symm, fun _ => .inl rfl, fun hsilent => ?_⟩
    simp [hs.announced p hp hsource] at hsilent
  | @read p url hp hsource =>
    refine ⟨rfl, by simp [LoadItem.provider?], ?_⟩
    simp only [List.mem_singleton, forall_eq]
    exact ⟨p, hp, rfl, hsource⟩
  | finish provider url hsilent =>
    obtain ⟨p, hp, rfl, hsource⟩ := hok
    refine ⟨rfl, by simp [LoadItem.provider?], ?_⟩
    simp only [List.mem_singleton, forall_eq]
    refine ⟨p, hp, rfl, fun _ => .inl ?_, hsilent p (provider?_of_mem hs hp)⟩
    simp [currentList, hsource]
  | @gone _ provider hwaits hgone =>
    have hasked : provider ∈ (s.loads load).providers := by
      refine h.accounted.mem_iff.mp (List.mem_append_left _ ?_)
      exact List.mem_filterMap.mpr ⟨item, hmem, hwaits⟩
    obtain ⟨p, hp, rfl⟩ := h.registered provider hasked
    simp [provider?_of_mem hs hp] at hgone
  | carry filterSet =>
    refine ⟨rfl, fun _ => ⟨filterSet, .head _⟩, ?_⟩
    simp only [List.mem_singleton, forall_eq]
    exact hok

theorem Newest.moves (h : s.Newest rulesOf load) (hs : s.Registered) (hm : Moves rulesOf s s') :
    s'.Newest rulesOf load := by
  have hloads : s'.loads load = s.loads load := by rw [hm.loads]
  have hproviders : (s'.loads load).providers = (s.loads load).providers := by rw [hloads]
  have hitems : ((s'.items load).filterMap LoadItem.provider?).Perm
        ((s.items load).filterMap LoadItem.provider?) ∧
      ((∃ filterSet, .whole filterSet ∈ s.items load) →
        ∃ filterSet, .whole filterSet ∈ s'.items load) ∧
      ∀ item ∈ s'.items load, s.ItemOk rulesOf load item := by
    rcases hm.items load with hperm | ⟨item, new, rest, hold, hnew, hstep⟩
    · refine ⟨hperm.filterMap _, fun ⟨filterSet, hwhole⟩ => ⟨filterSet, ?_⟩, fun item hitem => ?_⟩
      · exact hperm.mem_iff.mpr hwhole
      · exact h.items item (hperm.mem_iff.mp hitem)
    · obtain ⟨hwaits, hwhole, hok⟩ := h.itemStep hs (hold.mem_iff.mpr (.head _)) hstep
      refine ⟨?_, fun ⟨filterSet, hmem⟩ => ?_, fun i hi => ?_⟩
      · refine (hnew.filterMap _).trans (List.Perm.trans ?_ (hold.filterMap _).symm)
        rw [List.filterMap_append, hwaits, Queue.filterMap_head]
      · rcases List.mem_cons.mp (hold.mem_iff.mp hmem) with rfl | hrest
        · obtain ⟨filterSet', hnew'⟩ := hwhole rfl
          exact ⟨filterSet', hnew.mem_iff.mpr (List.mem_append_left _ hnew')⟩
        · exact ⟨filterSet, hnew.mem_iff.mpr (List.mem_append_right _ hrest)⟩
      · rcases List.mem_append.mp (hnew.mem_iff.mp hi) with hi' | hi'
        · exact hok i hi'
        · exact h.items i (hold.mem_iff.mpr (List.mem_cons_of_mem _ hi'))
  obtain ⟨hwaits, hwhole, hok⟩ := hitems
  constructor
  · rw [hm.nextLoad]
    exact h.number
  · rw [hproviders]
    exact h.nodup
  · rw [hproviders, hm.providers]
    exact h.registered
  · rw [hproviders, hm.providers]
    exact h.unasked
  · rw [hloads]
    exact (hwaits.append_right _).trans h.accounted
  · exact fun item hitem => hm.itemOk hproviders (hok item hitem)
  · rw [hloads]
    exact fun list hlist => hm.good (h.results list hlist)
  · intro hnone
    rw [hm.answered]
    rw [hnone] at hwaits
    exact (h.complete hwaits.symm.eq_nil).imp_left hwhole
  · rw [hm.answered, hm.settled]
    exact fun hanswered => hm.whole hproviders (h.settled hanswered)

theorem Registered.frame (hs : s.Registered) (same : SameRegistry s s')
    (hunused : ∀ l, s.items l = [] → l ∉ s.answered → s'.items l = [] ∧ l ∉ s'.answered) :
    s'.Registered where
  ids := by rw [same.providers]; exact hs.ids
  bound := by rw [same.providers, same.nextProvider]; exact hs.bound
  custom := by rw [same.providers]; exact hs.custom
  announced := by rw [same.providers]; exact hs.announced
  notSuppressed := same.suppress.trans hs.notSuppressed
  unused l hl := by
    rw [same.nextLoad] at hl
    exact hunused l (hs.unused l hl).1 (hs.unused l hl).2

theorem Registered.moves (hs : s.Registered) (hm : Moves rulesOf s s') : s'.Registered := by
  refine hs.frame hm.toSameRegistry fun l hitems hanswered => ?_
  rw [hm.answered]
  refine ⟨?_, hanswered⟩
  rcases hm.items l with hperm | ⟨item, new, rest, hold, -, -⟩
  · rw [hitems] at hperm
    exact hperm.eq_nil
  · rw [hitems] at hold
    exact absurd hold.symm.eq_nil (by simp)

/-- The newest load through a step that is not about it.  Providers may come that have announced
nothing, and good lists stay good. -/
theorem Newest.frame (h : s.Newest rulesOf load) (hnext : s'.nextLoad = s.nextLoad)
    (hloads : s'.loads load = s.loads load) (hanswered : load ∈ s'.answered ↔ load ∈ s.answered)
    (hsettled : load ∈ s.answered → s'.settledEngine = s.settledEngine)
    (hitems : (s'.items load).Perm (s.items load)) (hstay : ∀ p ∈ s.providers, p ∈ s'.providers)
    (hnew : ∀ p ∈ s'.providers, p ∉ s.providers → p.announced = false)
    (hgood : ∀ list, s.Good rulesOf list → s'.Good rulesOf list) : s'.Newest rulesOf load := by
  have hwaits := hitems.filterMap LoadItem.provider?
  have hwhole : ∀ filterSet, s.Whole rulesOf load filterSet → s'.Whole rulesOf load filterSet :=
    fun filterSet hw => ⟨by rw [hloads]; exact hw.providers,
      fun list hlist => hgood list (hw.good list hlist)⟩
  constructor
  · rw [hnext]
    exact h.number
  · rw [hloads]
    exact h.nodup
  · rw [hloads]
    intro id hid
    obtain ⟨p, hp, hpid⟩ := h.registered id hid
    exact ⟨p, hstay p hp, hpid⟩
  · rw [hloads]
    intro p hp hid
    by_cases hold : p ∈ s.providers
    · exact h.unasked p hold hid
    · exact hnew p hp hold
  · rw [hloads]
    exact (hwaits.append_right _).trans h.accounted
  · intro item hitem
    have hok := h.items item (hitems.mem_iff.mp hitem)
    cases item with
    | ask provider => trivial
    | reading provider url =>
      obtain ⟨p, hp, hid, hsource⟩ := hok
      exact ⟨p, hstay p hp, hid, hsource⟩
    | got list => exact hgood list hok
    | whole filterSet => exact hwhole filterSet hok
  · rw [hloads]
    exact fun list hlist => hgood list (h.results list hlist)
  · intro hnone
    rw [hnone] at hwaits
    rcases h.complete hwaits.symm.eq_nil with ⟨filterSet, hmem⟩ | hmem
    · exact .inl ⟨filterSet, hitems.mem_iff.mpr hmem⟩
    · exact .inr (hanswered.mpr hmem)
  · intro hmem
    rw [hsettled (hanswered.mp hmem)]
    exact hwhole _ (h.settled (hanswered.mp hmem))

theorem Newest.frame_same (h : s.Newest rulesOf load) (same : SameRegistry s s')
    (hloads : s'.loads load = s.loads load) (hanswered : load ∈ s'.answered ↔ load ∈ s.answered)
    (hsettled : load ∈ s.answered → s'.settledEngine = s.settledEngine)
    (hitems : (s'.items load).Perm (s.items load)) : s'.Newest rulesOf load := by
  refine h.frame same.nextLoad hloads hanswered hsettled hitems ?_ ?_ fun list => same.good
  · rw [same.providers]
    exact fun p hp => hp
  · rw [same.providers]
    exact fun p hp hnot => absurd hp hnot

/-- The identifiers of the providers, which a load that is started asks. -/
def providerIds (s : AdditionalFilters) : List Nat := s.providers.map (·.id)

theorem Registered.loadFilterSetForEngine_eq (hs : s.Registered) :
    s.loadFilterSetForEngine = { s with
      loads := Function.update s.loads s.nextLoad { providers := s.providerIds }
      nextLoad := s.nextLoad + 1
      ui := s.ui ++ s.providerIds.map (.loadFilterSet s.nextLoad) } := by
  obtain ⟨p, hp, -⟩ := hs.custom
  have hne : s.providers.map (·.id) ≠ [] := by
    simpa using List.ne_nil_of_mem hp
  simp only [loadFilterSetForEngine, if_neg hne]
  rfl

theorem filterMap_asks (n l : Nat) (ids : List Nat) :
    (ids.map (UiTask.loadFilterSet n)).filterMap (UiTask.item l) =
      if n = l then ids.map .ask else [] := by
  by_cases h : n = l <;> simp [List.filterMap_map, UiTask.item, h, Function.comp_def]

theorem Registered.items_loadFilterSetForEngine (hs : s.Registered) (l : Nat) :
    (s.loadFilterSetForEngine.items l).Perm
      ((if s.nextLoad = l then s.providerIds.map .ask else []) ++ s.items l) := by
  rw [hs.loadFilterSetForEngine_eq, ← filterMap_asks]
  refine List.perm_iff_count.mpr fun item => ?_
  simp only [items, List.filterMap_append, List.count_append]
  omega

theorem Registered.loadFilterSetForEngine (hs : s.Registered) :
    s.loadFilterSetForEngine.Registered := by
  have hitems := hs.items_loadFilterSetForEngine
  have heq := hs.loadFilterSetForEngine_eq
  have hproviders : s.loadFilterSetForEngine.providers = s.providers := by rw [heq]
  refine ⟨?_, ?_, ?_, ?_, ?_, fun l hl => ?_⟩
  · rw [hproviders]
    exact hs.ids
  · rw [hproviders, heq]
    exact hs.bound
  · rw [hproviders]
    exact hs.custom
  · rw [hproviders]
    exact hs.announced
  · rw [heq]
    exact hs.notSuppressed
  · have hlater : s.nextLoad + 1 ≤ l := by rwa [heq] at hl
    obtain ⟨hnone, hanswered⟩ := hs.unused l (by omega)
    have hperm := hitems l
    rw [if_neg (by omega), hnone] at hperm
    rw [heq] at hperm ⊢
    exact ⟨hperm.eq_nil, hanswered⟩

theorem Registered.newest (hs : s.Registered) :
    s.loadFilterSetForEngine.Newest rulesOf s.nextLoad := by
  have heq := hs.loadFilterSetForEngine_eq
  have hproviders : s.loadFilterSetForEngine.providers = s.providers := by rw [heq]
  have hasked : s.loadFilterSetForEngine.loads s.nextLoad = { providers := s.providerIds } := by
    rw [heq]
    exact Function.update_self ..
  obtain ⟨hnone, hanswered⟩ := hs.unused s.nextLoad (Nat.le_refl _)
  have hanswered' : s.nextLoad ∉ s.loadFilterSetForEngine.answered := by rwa [heq]
  have hitems : (s.loadFilterSetForEngine.items s.nextLoad).Perm (s.providerIds.map .ask) := by
    simpa [hnone] using hs.items_loadFilterSetForEngine s.nextLoad
  have hwaits : ((s.loadFilterSetForEngine.items s.nextLoad).filterMap LoadItem.provider?).Perm
      s.providerIds := by
    refine (hitems.filterMap _).trans ?_
    simp [List.filterMap_map, Function.comp_def, LoadItem.provider?]
  constructor
  · rw [heq]
  · rw [hasked]
    exact hs.ids
  · rw [hasked, hproviders]
    exact fun id hid => List.mem_map.mp hid
  · rw [hasked, hproviders]
    exact fun p hp hnot => absurd (List.mem_map_of_mem hp) hnot
  · rw [hasked]
    simpa using hwaits
  · intro item hitem
    obtain ⟨id, -, rfl⟩ := List.mem_map.mp (hitems.mem_iff.mp hitem)
    trivial
  · simp [hasked]
  · intro hempty
    obtain ⟨p, hp, -⟩ := hs.custom
    rw [hempty] at hwaits
    exact absurd (hwaits.mem_iff.mpr (List.mem_map_of_mem hp)) List.not_mem_nil
  · exact fun h => absurd h hanswered'

theorem collect_same (s : AdditionalFilters) (l : Nat) (list : FilterList) :
    SameRegistry s (s.collect l list) ∧ (s.collect l list).answered = s.answered ∧
      (s.collect l list).settledEngine = s.settledEngine := by
  unfold collect
  dsimp only
  split
  · exact ⟨sameRegistry_of_parts rfl fun _ h => h, rfl,
      by simp [finishCombinating, settledEngine]⟩
  · exact ⟨sameRegistry_of_parts rfl fun _ h => h, rfl, rfl⟩

theorem collect_other (s : AdditionalFilters) {l load : Nat} (list : FilterList) (hne : load ≠ l) :
    (s.collect l list).loads load = s.loads load ∧
      ((s.collect l list).items load).Perm (s.items load) := by
  unfold collect
  dsimp only
  split
  · refine ⟨by simp [finishCombinating, hne], ?_⟩
    refine (items_postRunner _ _ load).trans ?_
    simp [RunnerTask.item, hne.symm, items]
  · exact ⟨by simp [hne], .refl _⟩

theorem collect_self (s : AdditionalFilters) (l : Nat) (list : FilterList) :
    let results := (s.loads l).results ++ [list]
    (s.collect l list).loads l = { s.loads l with results := results } ∧
      ((s.collect l list).items l).Perm
        ((if results.length = (s.loads l).providers.length then [.whole results] else []) ++
          s.items l) := by
  dsimp only
  by_cases hdone : ((s.loads l).results ++ [list]).length = (s.loads l).providers.length
  · simp only [collect, Function.update_self, if_pos hdone]
    refine ⟨Function.update_self .., ?_⟩
    refine (items_postRunner _ _ l).trans ?_
    simp [RunnerTask.item, items]
  · simp only [collect, Function.update_self, if_neg hdone]
    exact ⟨trivial, .refl _⟩

/-- The callback of a provider of the newest load is collected; the last one makes the filter set.
-/
theorem Newest.collect (h : s.Newest rulesOf load) {popped : AdditionalFilters}
    (same : SameRegistry s popped) (hloads : popped.loads = s.loads)
    (hanswered : popped.answered = s.answered) (hsettled : popped.settledEngine = s.settledEngine)
    {list : FilterList} (hitems : (s.items load).Perm (.got list :: popped.items load)) :
    (popped.collect load list).Newest rulesOf load := by
  obtain ⟨same', hanswered', hsettled'⟩ := collect_same popped load list
  have hsame : SameRegistry s (popped.collect load list) := same.trans same'
  obtain ⟨hself, hperm⟩ := collect_self popped load list
  rw [hloads] at hself hperm
  have hproviders :
      ((popped.collect load list).loads load).providers = (s.loads load).providers := by
    rw [hself]
  have hgood : s.Good rulesOf list := h.items _ (hitems.mem_iff.mpr (.head _))
  have hresults : ∀ l ∈ (s.loads load).results ++ [list], s.Good rulesOf l := by
    intro l hl
    rcases List.mem_append.mp hl with hold | hnew
    · exact h.results l hold
    · rw [List.mem_singleton.mp hnew]
      exact hgood
  -- The callbacks that are left, and those that were collected.
  have haccounted : ((popped.items load).filterMap LoadItem.provider? ++
      ((s.loads load).results ++ [list]).map (·.provider)).Perm (s.loads load).providers := by
    refine List.Perm.trans ?_ h.accounted
    refine List.Perm.trans ?_ ((hitems.filterMap LoadItem.provider?).append_right _).symm
    refine List.perm_iff_count.mpr fun id => ?_
    simp only [List.map_append, List.count_append, Queue.filterMap_head, LoadItem.provider?,
      Option.toList_some, List.map_cons, List.map_nil]
    omega
  have hwaits : ((popped.collect load list).items load).filterMap LoadItem.provider? |>.Perm
      ((popped.items load).filterMap LoadItem.provider?) := by
    refine (hperm.filterMap _).trans ?_
    split <;> exact .refl _
  have hlength := haccounted.length_eq
  simp only [List.length_append, List.length_map] at hlength
  constructor
  · rw [hsame.nextLoad]
    exact h.number
  · rw [hproviders]
    exact h.nodup
  · rw [hproviders, hsame.providers]
    exact h.registered
  · rw [hproviders, hsame.providers]
    exact h.unasked
  · rw [hself]
    exact (hwaits.append_right _).trans haccounted
  · intro item hitem
    rcases List.mem_append.mp (hperm.mem_iff.mp hitem) with hwhole | hold
    · split at hwhole
      · rename_i hdone
        rw [List.mem_singleton.mp hwhole]
        have hnone : (popped.items load).filterMap LoadItem.provider? = [] := by
          refine List.eq_nil_of_length_eq_zero ?_
          simp only [List.length_append] at hdone
          omega
        rw [hnone, List.nil_append] at haccounted
        exact hsame.whole hproviders ⟨haccounted, hresults⟩
      · exact absurd hwhole List.not_mem_nil
    · exact hsame.itemOk hproviders
        (h.items item (hitems.mem_iff.mpr (List.mem_cons_of_mem _ hold)))
  · rw [hself]
    exact fun l hl => hsame.good (hresults l hl)
  · intro hempty
    rw [hempty] at hwaits
    rw [hwaits.symm.eq_nil] at hlength
    refine .inl ⟨(s.loads load).results ++ [list], hperm.mem_iff.mpr (List.mem_append_left _ ?_)⟩
    rw [if_pos (by simpa using hlength)]
    exact .head _
  · rw [hanswered', hanswered, hsettled', hsettled]
    exact fun hmem => hsame.whole hproviders (h.settled hmem)

theorem collect_task (hs : s.Registered) (h : s.Newest rulesOf load) {l : Nat} {list : FilterList}
    {task : UiTask} {rest : List UiTask} (hui : s.ui = task :: rest)
    (htask : ∀ n, task.item n = if l = n then some (.got list) else none)
    (hother : ∀ url, task ≠ .onListAvailable url) :
    ({ s with ui := rest }.collect l list).Registered ∧
      ({ s with ui := rest }.collect l list).Newest rulesOf load := by
  have same : SameRegistry s { s with ui := rest } := by
    refine sameRegistry_of_parts rfl ?_
    intro url hurl
    rw [hui] at hurl
    exact (List.mem_cons.mp hurl).resolve_left fun heq => hother url heq.symm
  obtain ⟨same', hanswered, hsettled⟩ := collect_same { s with ui := rest } l list
  have hitems : ∀ n, s.items n =
      (if l = n then some (.got list) else none).toList ++ { s with ui := rest }.items n := by
    intro n
    rw [items_ui hui, htask]
  have hother : ∀ n, n ≠ l → ({ s with ui := rest }.collect l list).loads n = s.loads n ∧
      (({ s with ui := rest }.collect l list).items n).Perm (s.items n) := by
    intro n hn
    obtain ⟨hloads, hperm⟩ := collect_other { s with ui := rest } list hn
    refine ⟨hloads, hperm.trans ?_⟩
    rw [hitems n, if_neg hn.symm]
    exact .refl _
  refine ⟨hs.frame (same.trans same') fun n hnone hnot => ⟨?_, by rwa [hanswered]⟩, ?_⟩
  · have hn : n ≠ l := by
      rintro rfl
      rw [hitems n, if_pos rfl] at hnone
      simp at hnone
    have hperm := (hother n hn).2
    rw [hnone] at hperm
    exact hperm.eq_nil
  · by_cases hl : load = l
    · subst hl
      refine h.collect same rfl rfl rfl ?_
      rw [hitems load, if_pos rfl]
      exact .refl _
    · obtain ⟨hloads, hperm⟩ := hother load hl
      exact h.frame_same (same.trans same') hloads (by rw [hanswered]) (fun _ => hsettled) hperm

section ResourcesLoaded

variable {i : Nat} {wait : ResourceWait} (hwait : s.resourceWaits[i]? = some wait)
include hwait

theorem resourcesLoaded_eq : s.resourcesLoaded i = { s with
    resourceWaits := s.resourceWaits.eraseIdx i
    answered := s.answered ++ [wait.load]
    runner := s.runner ++ [.loadEngine wait.filterSet] } := by
  simp [resourcesLoaded, hwait]

theorem same_resourcesLoaded : SameRegistry s (s.resourcesLoaded i) := by
  rw [resourcesLoaded_eq hwait]
  exact sameRegistry_of_parts rfl fun _ hurl => hurl

/-- The filter set that waited for the resources is an item no more. -/
theorem items_resourcesLoaded (n : Nat) : (s.items n).Perm
    ((if wait.load = n then some (.whole wait.filterSet) else none).toList ++
      (s.resourcesLoaded i).items n) := by
  refine (items_wait hwait n).trans (List.Perm.append_left _ ?_)
  rw [resourcesLoaded_eq hwait]
  exact (items_postRunner { s with resourceWaits := s.resourceWaits.eraseIdx i }
    (.loadEngine wait.filterSet) n).symm

theorem answered_resourcesLoaded : (s.resourcesLoaded i).answered = s.answered ++ [wait.load] := by
  rw [resourcesLoaded_eq hwait]

/-- The newest load is answered with its filter set. -/
theorem Newest.resourcesLoaded (h : s.Newest rulesOf wait.load) :
    (s.resourcesLoaded i).Newest rulesOf wait.load := by
  have same := same_resourcesLoaded hwait
  have hperm : (s.items wait.load).Perm
      (.whole wait.filterSet :: (s.resourcesLoaded i).items wait.load) := by
    simpa using items_resourcesLoaded hwait wait.load
  have hloads : (s.resourcesLoaded i).loads = s.loads := by rw [resourcesLoaded_eq hwait]
  have hproviders : ((s.resourcesLoaded i).loads wait.load).providers =
      (s.loads wait.load).providers := by rw [hloads]
  have hwhole : s.Whole rulesOf wait.load wait.filterSet :=
    h.items _ (hperm.mem_iff.mpr (.head _))
  have hmem : wait.load ∈ (s.resourcesLoaded i).answered := by
    simp [answered_resourcesLoaded hwait]
  have hsettled : (s.resourcesLoaded i).settledEngine = wait.filterSet := by
    rw [resourcesLoaded_eq hwait]
    simp [settledEngine]
  have hwaits := (hperm.filterMap LoadItem.provider?).symm
  constructor
  · rw [same.nextLoad]
    exact h.number
  · rw [hproviders]
    exact h.nodup
  · rw [hproviders, same.providers]
    exact h.registered
  · rw [hproviders, same.providers]
    exact h.unasked
  · rw [hloads]
    exact (hwaits.append_right _).trans h.accounted
  · intro item hitem
    exact same.itemOk hproviders (h.items item (hperm.mem_iff.mpr (List.mem_cons_of_mem _ hitem)))
  · rw [hloads]
    exact fun list hlist => same.good (h.results list hlist)
  · exact fun _ => .inr hmem
  · rw [hsettled]
    exact fun _ => same.whole hproviders hwhole

/-- A load gets its resources while the newest one has not got them. -/
theorem resourcesLoaded_spec (hs : s.Registered) (h : s.Newest rulesOf load)
    (hnot : load ∉ s.answered) :
    (s.resourcesLoaded i).Registered ∧ (s.resourcesLoaded i).Newest rulesOf load := by
  have same := same_resourcesLoaded hwait
  have hanswered := answered_resourcesLoaded hwait
  refine ⟨hs.frame same fun n hnone hn => ?_, ?_⟩
  · have hperm := items_resourcesLoaded hwait n
    rw [hnone] at hperm
    obtain ⟨hload, hrest⟩ := List.append_eq_nil_iff.mp hperm.symm.eq_nil
    refine ⟨hrest, ?_⟩
    rw [hanswered, List.mem_append, List.mem_singleton]
    rintro (hold | rfl)
    · exact hn hold
    · simp at hload
  · by_cases hload : wait.load = load
    · subst hload
      exact h.resourcesLoaded hwait
    · have hperm := items_resourcesLoaded hwait load
      rw [if_neg hload] at hperm
      have hloads : (s.resourcesLoaded i).loads = s.loads := by rw [resourcesLoaded_eq hwait]
      refine h.frame_same same (by rw [hloads]) ?_ (fun hmem => absurd hmem hnot) hperm.symm
      rw [hanswered, List.mem_append, List.mem_singleton]
      exact or_iff_left fun heq => hload heq.symm

end ResourcesLoaded

theorem Registered.onChanged_eq (hs : s.Registered) : s.onChanged = s.loadFilterSetForEngine := by
  obtain ⟨p, hp, -⟩ := hs.custom
  have hinitialized : s.areAllProvidersInitialized = true := by
    cases hproviders : s.providers with
    | nil => simp [hproviders] at hp
    | cons => simp [areAllProvidersInitialized, hproviders]
  rw [onChanged, if_neg (by simp [hinitialized]), if_neg (by simp [hs.notSuppressed])]

@[simp] theorem announce_id (id : Nat) (p : FiltersProvider) : (p.announce id).id = p.id := by
  unfold FiltersProvider.announce
  split <;> rfl

@[simp] theorem announce_source (id : Nat) (p : FiltersProvider) :
    (p.announce id).source = p.source := by
  unfold FiltersProvider.announce
  split <;> rfl

theorem announce_announced (id : Nat) {p : FiltersProvider} (h : p.announced = true) :
    (p.announce id).announced = true := by
  unfold FiltersProvider.announce
  split
  · rfl
  · exact h

theorem Registered.announce (hs : s.Registered) (id : Nat) :
    { s with providers := s.providers.map (.announce id) }.Registered where
  ids := by simpa [List.map_map, Function.comp_def] using hs.ids
  bound := by simpa using hs.bound
  custom := by simpa using hs.custom
  announced := by
    intro p hp hsource
    obtain ⟨q, hq, rfl⟩ := List.mem_map.mp hp
    exact announce_announced id (hs.announced q hq (by simpa using hsource))
  notSuppressed := hs.notSuppressed
  unused := hs.unused

theorem Registered.notifyObservers (hs : s.Registered) (id : Nat) :
    (s.notifyObservers id).Registered := by
  have hannounced := hs.announce id
  rw [AdditionalFilters.notifyObservers, hannounced.onChanged_eq]
  exact hannounced.loadFilterSetForEngine

theorem Registered.newest_notifyObservers (hs : s.Registered) (id : Nat) :
    (s.notifyObservers id).Newest rulesOf s.nextLoad := by
  have hannounced := hs.announce id
  rw [AdditionalFilters.notifyObservers, hannounced.onChanged_eq]
  exact hannounced.newest

theorem createProvider_spec (hs : s.Registered) (place : Nat) (url : String) :
    (s.createProvider place url false).Registered ∧
      (s.Newest rulesOf load → (s.createProvider place url false).Newest rulesOf load) := by
  let provider : FiltersProvider := ⟨s.nextProvider, .subscription url, false⟩
  have hproviders :
      (s.createProvider place url false).providers.Perm (provider :: s.providers) := by
    have hmiddle : (s.providers.take place ++ provider :: s.providers.drop place).Perm
        (provider :: (s.providers.take place ++ s.providers.drop place)) := List.perm_middle
    rwa [List.take_append_drop] at hmiddle
  have hmem : ∀ p, p ∈ (s.createProvider place url false).providers ↔
      p = provider ∨ p ∈ s.providers := fun p => by rw [hproviders.mem_iff, List.mem_cons]
  constructor
  · constructor
    · refine (hproviders.map _).nodup_iff.mpr (List.nodup_cons.mpr ⟨?_, hs.ids⟩)
      intro hid
      obtain ⟨p, hp, hpid⟩ := List.mem_map.mp hid
      have hbound := hs.bound p hp
      have hfresh : p.id = s.nextProvider := hpid
      omega
    · intro p hp
      show p.id < s.nextProvider + 1
      rcases (hmem p).mp hp with rfl | hold
      · exact Nat.lt_succ_self _
      · exact Nat.lt_succ_of_lt (hs.bound p hold)
    · obtain ⟨p, hp, hcustom⟩ := hs.custom
      exact ⟨p, (hmem p).mpr (.inr hp), hcustom⟩
    · intro p hp hsource
      rcases (hmem p).mp hp with rfl | hold
      · contradiction
      · exact hs.announced p hold hsource
    · exact hs.notSuppressed
    · exact hs.unused
  · intro h
    refine h.frame rfl rfl .rfl (fun _ => rfl) (.refl _) (fun p hp => (hmem p).mpr (.inr hp)) ?_ ?_
    · intro p hp hnot
      rcases (hmem p).mp hp with rfl | hold
      · rfl
      · exact absurd hold hnot
    · rintro list ⟨p, hp, hgood⟩
      exact ⟨p, (hmem p).mpr (.inr hp), hgood⟩

theorem replaceList_spec (hs : s.Registered) (url : String) (buffer : DATFileDataBuffer) :
    (s.replaceList url buffer).Registered ∧
      (s.Newest rulesOf load → (s.replaceList url buffer).Newest rulesOf load) := by
  have hitems : ∀ n, ((s.replaceList url buffer).items n).Perm (s.items n) :=
    fun n => items_postUi s (.onListAvailable url) n
  constructor
  · refine ⟨hs.ids, hs.bound, hs.custom, hs.announced, hs.notSuppressed, fun l hl => ?_⟩
    have hperm := hitems l
    rw [(hs.unused l hl).1] at hperm
    exact ⟨hperm.eq_nil, (hs.unused l hl).2⟩
  · intro h
    refine h.frame rfl rfl .rfl (fun _ => rfl) (hitems load) (fun p hp => hp)
      (fun p hp hnot => absurd hp hnot) ?_
    rintro list ⟨p, hp, hid, hannounced, hsilent⟩
    refine ⟨p, hp, hid, fun ha => ?_, hsilent⟩
    by_cases hsource : p.source = .subscription url
    · exact .inr ⟨url, hsource, by simp [replaceList]⟩
    · have hcurrent : (s.replaceList url buffer).currentList p = s.currentList p := by
        cases hp : p.source with
        | custom => simp [currentList, hp, replaceList]
        | subscription other =>
          have hne : other ≠ url := fun heq => hsource (heq ▸ hp)
          simp [currentList, hp, replaceList, hne]
      rw [hcurrent]
      exact (hannounced ha).imp_right fun ⟨other, hother, hpending⟩ =>
        ⟨other, hother, List.mem_append_left _ hpending⟩

/-- The provider of a list is told of the change, if there is one. -/
theorem onListAvailable_spec (hs : s.Registered) (h : s.Newest rulesOf load) {url : String}
    {rest : List UiTask} (hui : s.ui = .onListAvailable url :: rest) :
    ({ s with ui := rest }.onListAvailable url).Registered ∧
      ∃ n, ({ s with ui := rest }.onListAvailable url).Newest rulesOf n := by
  have hitems : ∀ n, { s with ui := rest }.items n = s.items n := fun n => by
    rw [items_ui hui]
    rfl
  have hpopped : { s with ui := rest }.Registered :=
    ⟨hs.ids, hs.bound, hs.custom, hs.announced, hs.notSuppressed, fun l hl => by
      rw [hitems]
      exact hs.unused l hl⟩
  unfold onListAvailable
  split
  · rename_i hnone
    refine ⟨hpopped, load, ?_⟩
    refine h.frame rfl rfl .rfl (fun _ => rfl) (by rw [hitems]) (fun p hp => hp)
      (fun p hp hnot => absurd hp hnot) ?_
    rintro list ⟨p, hp, hid, hannounced, hsilent⟩
    refine ⟨p, hp, hid, fun ha => (hannounced ha).imp_right ?_, hsilent⟩
    rintro ⟨other, hsource, hpending⟩
    refine ⟨other, hsource, ?_⟩
    rw [hui] at hpending
    refine (List.mem_cons.mp hpending).resolve_left fun heq => ?_
    obtain rfl := UiTask.onListAvailable.inj heq
    simpa [hsource] using List.find?_eq_none.mp hnone p hp
  · rename_i p hfound
    exact ⟨hpopped.notifyObservers p.id, _, hpopped.newest_notifyObservers p.id⟩

/-- A provider of a subscription is destroyed, which starts a load. -/
theorem destroyProvider_spec (hs : s.Registered) {id : Nat}
    (henabled : s.enabled (.destroyProvider id)) :
    (s.destroyProvider id).Registered ∧ (s.destroyProvider id).Newest rulesOf s.nextLoad := by
  obtain ⟨p, hfound, hsource⟩ := henabled
  have hremoved : { s with providers := s.providers.filter fun p => p.id ≠ id }.Registered := by
    refine ⟨?_, fun q hq => hs.bound q (List.mem_of_mem_filter hq), ?_,
      fun q hq => hs.announced q (List.mem_of_mem_filter hq), hs.notSuppressed, hs.unused⟩
    · exact hs.ids.sublist (List.filter_sublist.map _)
    · obtain ⟨q, hq, hid, hcustom⟩ := hs.custom
      refine ⟨q, List.mem_filter.mpr ⟨hq, ?_⟩, hid, hcustom⟩
      have hne : q.id ≠ id := by
        rintro rfl
        have hq' := provider?_of_mem hs hq
        rw [hq'] at hfound
        exact hsource (Option.some.inj hfound ▸ hcustom)
      simpa using hne
  exact ⟨hremoved.loadFilterSetForEngine, hremoved.newest⟩

theorem registered_init (customFilters : DATFileDataBuffer)
    (listFiles : String → DATFileDataBuffer) :
    { customFilters := customFilters
      listFiles := listFiles
      providers := [⟨0, .custom, true⟩]
      nextProvider := 1 : AdditionalFilters }.Registered where
  ids := by simp
  bound := by simp
  custom := by simp
  announced := by simp
  notSuppressed := rfl
  unused := by simp [AdditionalFilters.items]

variable (rulesOf) in
/-- No load gets its resources after the one that was started last, and no list that is read for a
provider that has not announced it has rules. -/
def inOrder (s : AdditionalFilters) : FilterEvent → Prop
  | .resourcesLoaded _ => s.nextLoad - 1 ∉ s.answered
  | .finishRead i => ∀ read ∈ s.reads[i]?, s.SilentEmpty rulesOf read.provider read.url
  | _ => True

/-- One event: there is always a newest load, and it is all right. -/
theorem step_newest (hs : s.Registered) (h : s.Newest rulesOf load) {e : FilterEvent}
    (henabled : s.enabled e) (hok : s.inOrder rulesOf e) :
    (s.step e).Registered ∧ ∃ n, (s.step e).Newest rulesOf n := by
  have hmoves : ∀ s', Moves rulesOf s s' → s'.Registered ∧ ∃ n, s'.Newest rulesOf n :=
    fun s' hm => ⟨hs.moves hm, load, h.moves hs hm⟩
  cases e with
  | updateCustomFilters text =>
    have hedited : { s with customFilters := text }.Registered :=
      ⟨hs.ids, hs.bound, hs.custom, hs.announced, hs.notSuppressed, hs.unused⟩
    exact ⟨hedited.notifyObservers 0, _, hedited.newest_notifyObservers 0⟩
  | createProvider place url available =>
    obtain ⟨hregistered, hnewest⟩ := createProvider_spec hs place url
    cases available with
    | false => exact ⟨hregistered, load, hnewest h⟩
    | true =>
      exact ⟨hregistered.notifyObservers s.nextProvider, _,
        hregistered.newest_notifyObservers s.nextProvider⟩
  | destroyProvider id =>
    obtain ⟨hregistered, hnewest⟩ := destroyProvider_spec hs henabled
    exact ⟨hregistered, _, hnewest⟩
  | replaceList url buffer =>
    obtain ⟨hregistered, hnewest⟩ := replaceList_spec hs url buffer
    exact ⟨hregistered, load, hnewest h⟩
  | runUi =>
    obtain ⟨task, rest, hui⟩ := List.exists_cons_of_ne_nil henabled
    have hstep : s.step .runUi = { s with ui := rest }.runUiTask task := by
      simp [step, runUi, hui]
    rw [hstep]
    cases task with
    | loadFilterSet l id => exact hmoves _ (moves_loadFilterSet hui)
    | runCallback l list =>
      obtain ⟨hregistered, hnewest⟩ := collect_task hs h hui (fun _ => rfl) (by simp)
      exact ⟨hregistered, load, hnewest⟩
    | onDATFileDataReady l id buffer =>
      simp only [runUiTask, onDATFileDataReady]
      split
      · rename_i hgone
        exact hmoves _ (moves_dropReply hui hgone)
      · obtain ⟨hregistered, hnewest⟩ := collect_task hs h hui (fun _ => rfl) (by simp)
        exact ⟨hregistered, load, hnewest⟩
    | onFilterSetCreated l filterSet => exact hmoves _ (moves_onFilterSetCreated hui)
    | onListAvailable url => exact onListAvailable_spec hs h hui
  | runRunner =>
    obtain ⟨task, rest, hrunner⟩ := List.exists_cons_of_ne_nil henabled
    cases task with
    | createFilterSet l results =>
      have hstep : s.step .runRunner =
          { s with runner := rest, ui := s.ui ++ [.onFilterSetCreated l results] } := by
        simp [step, runRunner, hrunner]
      rw [hstep]
      exact hmoves _ (moves_createFilterSet hrunner)
    | loadEngine filterSet =>
      have hstep : s.step .runRunner = { s with runner := rest, engine := filterSet } := by
        simp [step, runRunner, hrunner]
      rw [hstep]
      exact hmoves _ (moves_loadEngine hrunner)
  | finishRead i =>
    have hread : s.reads[i]? = some s.reads[i] := List.getElem?_eq_getElem henabled
    exact hmoves _ (moves_finishRead hread (hok _ hread))
  | resourcesLoaded i =>
    have hwait : s.resourceWaits[i]? = some s.resourceWaits[i] := List.getElem?_eq_getElem henabled
    have hnot : load ∉ s.answered := by
      have := h.number
      rwa [inOrder, show s.nextLoad - 1 = load by omega] at hok
    obtain ⟨hregistered, hnewest⟩ := resourcesLoaded_spec hwait hs h hnot
    exact ⟨hregistered, load, hnewest⟩

theorem flatMap_filter_perm {α β : Type} (l : List α) (p : α → Bool) {f : α → List β}
    (h : ∀ a ∈ l, p a = false → f a = []) : ((l.filter p).flatMap f).Perm (l.flatMap f) := by
  have hrest : (l.filter fun a => !p a).flatMap f = [] := by
    rw [List.flatMap_eq_nil_iff]
    intro a ha
    obtain ⟨hmem, hnot⟩ := List.mem_filter.mp ha
    exact h a hmem (by simpa using hnot)
  have hsplit := (List.filter_append_perm p l).flatMap_right f
  rwa [List.flatMap_append, hrest, List.append_nil] at hsplit

variable (rulesOf) in
/-- The rules that a provider should add now. -/
def dueRules (s : AdditionalFilters) (p : FiltersProvider) : List ρ :=
  if p.announced then rulesOf (s.currentList p) else []

theorem currentFilterSet_perm :
    (s.currentFilterSet.flatMap rulesOf).Perm (s.providers.flatMap (s.dueRules rulesOf)) := by
  have hdue : (s.providers.filter (·.announced)).flatMap (s.dueRules rulesOf) =
      s.currentFilterSet.flatMap rulesOf := by
    rw [currentFilterSet, List.flatMap_map]
    refine List.flatMap_congr fun p hp => ?_
    rw [dueRules, if_pos (List.mem_filter.mp hp).2]
  rw [← hdue]
  refine flatMap_filter_perm s.providers _ fun p _ hsilent => ?_
  rw [dueRules, if_neg (by simpa using hsilent)]

/-- When nothing is in flight, the newest load has filled the engine. -/
theorem Newest.engine_holds_current (h : s.Newest rulesOf load) (hs : s.Registered)
    (hidle : s.Idle) : (s.engine.flatMap rulesOf).Perm (s.currentFilterSet.flatMap rulesOf) := by
  obtain ⟨hui, hrunner, hreads, hwaits⟩ := hidle
  have hitems : s.items load = [] := by simp [AdditionalFilters.items, hui, hrunner, hreads, hwaits]
  have hwhole : s.Whole rulesOf load s.engine := by
    have hanswered : load ∈ s.answered := by
      rcases h.complete (by rw [hitems]; rfl) with ⟨filterSet, hmem⟩ | hanswered
      · simp [hitems] at hmem
      · exact hanswered
    have hsettled : s.settledEngine = s.engine := by simp [settledEngine, hrunner]
    rw [← hsettled]
    exact h.settled hanswered
  let due : Nat → List ρ := fun id => ((s.provider? id).map (s.dueRules rulesOf)).getD []
  have hdue : ∀ p ∈ s.providers, due p.id = s.dueRules rulesOf p := fun p hp => by
    simp [due, provider?_of_mem hs hp]
  -- Each list of the engine gives the rules that are due.
  have hengine : s.engine.flatMap rulesOf = (s.engine.map (·.provider)).flatMap due := by
    rw [List.flatMap_map]
    refine List.flatMap_congr fun list hlist => ?_
    obtain ⟨p, hp, hid, hannounced, hsilent⟩ := hwhole.good list hlist
    rw [← hid, hdue p hp, dueRules]
    split
    · rename_i ha
      exact (hannounced ha).resolve_right (by simp [hui])
    · rename_i hnot
      exact hsilent (by simpa using hnot)
  -- The providers that the load did not ask are to give none.
  have hasked : ((s.loads load).providers.flatMap due).Perm (s.providerIds.flatMap due) := by
    have hfilter : (s.loads load).providers.Perm
        (s.providerIds.filter fun id => decide (id ∈ (s.loads load).providers)) := by
      refine (List.perm_ext_iff_of_nodup h.nodup (hs.ids.filter _)).mpr fun id => ?_
      rw [List.mem_filter, decide_eq_true_iff]
      refine ⟨fun hid => ⟨?_, hid⟩, And.right⟩
      obtain ⟨p, hp, rfl⟩ := h.registered id hid
      exact List.mem_map_of_mem hp
    refine (hfilter.flatMap_right due).trans (flatMap_filter_perm _ _ fun id hid hnot => ?_)
    obtain ⟨p, hp, rfl⟩ := List.mem_map.mp hid
    have hsilent := h.unasked p hp (by simpa using hnot)
    rw [hdue p hp, dueRules, if_neg (by simp [hsilent])]
  have hproviders : s.providerIds.flatMap due = s.providers.flatMap (s.dueRules rulesOf) := by
    rw [providerIds, List.flatMap_map]
    exact List.flatMap_congr hdue
  rw [hengine]
  refine (hwhole.providers.flatMap_right due).trans (hasked.trans ?_)
  rw [hproviders]
  exact currentFilterSet_perm.symm

end Newest

/-- Where no load gets its resources after the one that was started last, and no list that is read
for a provider that has not announced it has rules, the rules of the engine are those of the current
lists of all providers that have announced a change whenever nothing is in flight. -/
theorem engine_current {ρ : Type} (rulesOf : FilterList → List ρ)
    {customFilters : DATFileDataBuffer} {listFiles : String → DATFileDataBuffer}
    {es : List FilterEvent} {s : AdditionalFilters}
    (run : Run (machine.restrict (inOrder rulesOf)) (init customFilters listFiles) es s)
    (hidle : s.Idle) :
    (s.engine.flatMap rulesOf).Perm (s.currentFilterSet.flatMap rulesOf) := by
  have hinit := registered_init customFilters listFiles
  have hnewest : s.Registered ∧ ∃ load, s.Newest rulesOf load := by
    refine run.preserves (P := fun s => s.Registered ∧ ∃ load, s.Newest rulesOf load) ?_
      ⟨hinit.loadFilterSetForEngine, 0, hinit.newest⟩
    rintro s e s' ⟨henabled, hok⟩ hstep ⟨hs, load, h⟩
    obtain rfl := Except.ok.inj hstep
    exact step_newest hs h henabled hok
  obtain ⟨hs, load, h⟩ := hnewest
  exact h.engine_holds_current hs hidle

instance {ρ : Type} (rulesOf : FilterList → List ρ) (s : AdditionalFilters) :
    ∀ e, Decidable (s.inOrder rulesOf e)
  | .resourcesLoaded _ => inferInstanceAs (Decidable (s.nextLoad - 1 ∉ s.answered))
  | .finishRead i => inferInstanceAs (Decidable (∀ read ∈ s.reads[i]?,
      ∀ p ∈ s.provider? read.provider, p.announced = false →
        rulesOf ⟨p.id, s.listFiles read.url, 0⟩ = []))
  | .updateCustomFilters _ | .createProvider _ _ _ | .destroyProvider _ | .replaceList _ _ | .runUi
  | .runRunner => inferInstanceAs (Decidable True)

/-- The lines of a list, each of which is a rule in the simplest lists. -/
def linesOf (list : FilterList) : List DATFileDataBuffer :=
  (list.buffer.splitOn 10).filter (· ≠ [])

/-- No custom filters, and one list on disk. -/
def oneList : AdditionalFilters :=
  init [] fun url => if url = "https://a.com/list.txt" then [97] else []

/-- The list is enabled, and then the custom filters are edited: two loads read the list. -/
def enableAndEdit : List FilterEvent :=
  [.runUi, .runUi, .runRunner, .runUi, .resourcesLoaded 0, .runRunner,
    .createProvider 1 "https://a.com/list.txt" true, .runUi, .runUi, .runUi,
    .updateCustomFilters [98], .runUi, .runUi, .runUi]

/-- The rest of a load after the given read of the list. -/
def finishLoad (read : Nat) : List FilterEvent :=
  [.finishRead read, .runUi, .runRunner, .runUi, .resourcesLoaded 0, .runRunner]

theorem engine_current_in_turn :
    ∃ s, Run (machine.restrict (inOrder linesOf)) oneList
        (enableAndEdit ++ finishLoad 0 ++ finishLoad 0) s ∧
      s.currentFilterSet.flatMap linesOf = [[98], [97]] ∧
      (s.engine.flatMap linesOf).Perm (s.currentFilterSet.flatMap linesOf) := by
  obtain ⟨s, run, hs⟩ := Machine.exists_run (machine.restrict (inOrder linesOf)) oneList
    (enableAndEdit ++ finishLoad 0 ++ finishLoad 0)
    (fun s => decide (s.Idle ∧ s.currentFilterSet.flatMap linesOf = [[98], [97]])) (by decide)
  obtain ⟨hidle, hcurrent⟩ := of_decide_eq_true hs
  exact ⟨s, run, hcurrent, engine_current linesOf run hidle⟩

/-- The older load reads the list last, and the engine keeps the custom filters from before the
edit. -/
theorem edit_lost :
    ∃ s, Run machine oneList (enableAndEdit ++ finishLoad 1 ++ finishLoad 0) s ∧ s.Idle ∧
      s.engine.flatMap linesOf = [[97]] ∧ s.currentFilterSet.flatMap linesOf = [[98], [97]] ∧
      ¬(s.engine.flatMap linesOf).Perm (s.currentFilterSet.flatMap linesOf) := by
  obtain ⟨s, run, hs⟩ := Machine.exists_run machine oneList
    (enableAndEdit ++ finishLoad 1 ++ finishLoad 0)
    (fun s => decide (s.Idle ∧ s.engine.flatMap linesOf = [[97]] ∧
      s.currentFilterSet.flatMap linesOf = [[98], [97]])) (by decide)
  obtain ⟨hidle, hengine, hcurrent⟩ := of_decide_eq_true hs
  refine ⟨s, run, hidle, hengine, hcurrent, ?_⟩
  rw [hengine, hcurrent]
  decide

end AdditionalFilters

end ChromiumAdblock
