import ChromiumAdblock.Shields.EngineLoads

/-! What one event does to the service.  The providers and the loads of their lists only post tasks
about the lists; besides them, an event runs one task. -/

namespace ChromiumAdblock

/-- A task of a load of filter lists. -/
def ServiceTask.OfLists : ServiceTask → Prop
  | loadFilterSet _ _ | runCallback _ _ | onDATFileDataReady _ _ _ | onFilterSetCreated _ _ => True
  | onReadCachedDATFiles _ _ | onDATLoaded _ _ | onEngineLoaded _ _ _ => False

def EngineTask.OfLists {σ : Type} : EngineTask σ → Prop
  | createFilterSet _ _ | load _ _ _ => True
  | loadDAT _ _ _ => False

namespace AdBlockService

variable {ρ σ : Type}

/-- The engines and their files, and what became of the cached rules. -/
def cacheParts (s : AdBlockService ρ σ) :=
  (s.kAdblockDATCache, s.datRunner, s.datFiles, s.engines, s.datRuns, s.listLoaded, s.datLoaded,
    s.forced)

/-- A step, or a part of one, that at most posts tasks about the lists. -/
structure ListFrame (s s' : AdBlockService ρ σ) : Prop where
  ui : ∃ tasks, s'.ui = s.ui ++ tasks ∧ ∀ task ∈ tasks, task.OfLists
  runner : ∃ tasks, s'.runner = s.runner ++ tasks ∧ ∀ task ∈ tasks, task.OfLists
  parts : s'.cacheParts = s.cacheParts

variable {s s' s'' : AdBlockService ρ σ}

theorem ListFrame.trans (first : ListFrame s s') (second : ListFrame s' s'') : ListFrame s s'' := by
  obtain ⟨tasks, hui, htasks⟩ := first.ui
  obtain ⟨tasks', hui', htasks'⟩ := second.ui
  obtain ⟨posted, hrunner, hposted⟩ := first.runner
  obtain ⟨posted', hrunner', hposted'⟩ := second.runner
  refine ⟨⟨tasks ++ tasks', by rw [hui', hui, List.append_assoc], fun task hmem => ?_⟩,
    ⟨posted ++ posted', by rw [hrunner', hrunner, List.append_assoc], fun task hmem => ?_⟩,
    second.parts.trans first.parts⟩
  · exact (List.mem_append.mp hmem).elim (htasks task) (htasks' task)
  · exact (List.mem_append.mp hmem).elim (hposted task) (hposted' task)

theorem ListFrame.of_ui (tasks : List ServiceTask) (hui : s'.ui = s.ui ++ tasks)
    (htasks : ∀ task ∈ tasks, task.OfLists) (hrunner : s'.runner = s.runner)
    (hparts : s'.cacheParts = s.cacheParts) : ListFrame s s' :=
  ⟨⟨tasks, hui, htasks⟩, ⟨[], by rw [hrunner, List.append_nil], by simp⟩, hparts⟩

theorem ListFrame.of_runner (tasks : List (EngineTask σ)) (hrunner : s'.runner = s.runner ++ tasks)
    (htasks : ∀ task ∈ tasks, task.OfLists) (hui : s'.ui = s.ui)
    (hparts : s'.cacheParts = s.cacheParts) : ListFrame s s' :=
  ⟨⟨[], by rw [hui, List.append_nil], by simp⟩, ⟨tasks, hrunner, htasks⟩, hparts⟩

theorem ListFrame.of_same (hui : s'.ui = s.ui) (hrunner : s'.runner = s.runner)
    (hparts : s'.cacheParts = s.cacheParts) : ListFrame s s' :=
  .of_ui [] (by rw [hui, List.append_nil]) (by simp) hrunner hparts

theorem ListFrame.refl (s : AdBlockService ρ σ) : ListFrame s s := .of_same rfl rfl rfl

theorem listFrame_finishCombinating (load : Nat) (results : FilterSet) :
    ListFrame s (s.finishCombinating load results) :=
  .of_runner [.createFilterSet (s.loads load).isForDefaultEngine results] rfl
    (by simp [EngineTask.OfLists]) rfl rfl

theorem listFrame_loadFilterSetForEngine (engine : Bool) :
    ListFrame s (s.loadFilterSetForEngine engine) := by
  have hasks : ListFrame s (s.askProviders engine) :=
    .of_ui _ rfl (by simp [ServiceTask.OfLists]) rfl rfl
  unfold loadFilterSetForEngine
  split
  · exact hasks.trans (listFrame_finishCombinating _ _)
  · exact hasks

theorem listFrame_collect (load : Nat) (list : FilterList) : ListFrame s (s.collect load list) := by
  have hadd : ListFrame s (s.addResult load list) := .of_same rfl rfl rfl
  unfold collect
  split
  · exact hadd.trans (listFrame_finishCombinating _ _)
  · exact hadd

theorem listFrame_tell (engine : Bool) (outcome : EngineProviders × Bool) :
    ListFrame s (s.tell engine outcome) := by
  have hwith : ListFrame s (s.withProviders engine outcome.1) := .of_same rfl rfl rfl
  unfold tell
  split
  · exact hwith.trans (listFrame_loadFilterSetForEngine engine)
  · exact hwith

theorem listFrame_loadFilterSet (load id : Nat) : ListFrame s (s.loadFilterSet load id) := by
  unfold loadFilterSet
  split
  · exact .refl s
  · split
    · exact .of_ui _ rfl (by simp [ServiceTask.OfLists]) rfl rfl
    · exact .of_same rfl rfl rfl

theorem listFrame_onDATFileDataReady (load id : Nat) (buffer : DATFileDataBuffer) :
    ListFrame s (s.onDATFileDataReady load id buffer) := by
  unfold onDATFileDataReady
  split
  · exact .refl s
  · exact listFrame_collect load _

theorem listFrame_finishRead (i : Nat) (buffer : DATFileDataBuffer) :
    ListFrame s (s.finishRead i buffer) := by
  unfold finishRead
  split
  · exact .refl s
  · exact .of_ui _ rfl (by simp [ServiceTask.OfLists]) rfl rfl

theorem listFrame_onAllLoaded (i : Nat) (storage : σ) : ListFrame s (s.onAllLoaded i storage) := by
  unfold onAllLoaded
  split
  · exact .refl s
  · exact .of_runner _ rfl (by simp [EngineTask.OfLists]) rfl rfl

theorem notifyResourcesLoaded_eq (s : AdBlockService ρ σ) (storage : σ) :
    s.notifyResourcesLoaded storage =
      { s with runner := s.runner ++ s.resourceObservers.map (.load · none storage) } := by
  have hposts : ∀ (observers : List Bool) (t : AdBlockService ρ σ),
      observers.foldl (fun t engine => t.onResourcesLoaded engine none none storage) t =
        { t with runner := t.runner ++ observers.map (.load · none storage) } := by
    intro observers
    induction observers with
    | nil => simp
    | cons engine observers ih =>
      intro t
      rw [List.foldl_cons, ih]
      simp [onResourcesLoaded, postRunner]
  exact hposts s.resourceObservers s

theorem listFrame_notifyResourcesLoaded (storage : σ) :
    ListFrame s (s.notifyResourcesLoaded storage) := by
  rw [notifyResourcesLoaded_eq]
  refine .of_runner _ rfl (fun task hmem => ?_) rfl rfl
  obtain ⟨engine, -, rfl⟩ := List.mem_map.mp hmem
  trivial

theorem listFrame_runUiTask (lib : AdblockRust ρ σ) {task : ServiceTask} (htask : task.OfLists) :
    ListFrame s (s.runUiTask lib task) := by
  cases task with
  | loadFilterSet load id => exact listFrame_loadFilterSet load id
  | runCallback load list => exact listFrame_collect load list
  | onDATFileDataReady load id buffer => exact listFrame_onDATFileDataReady load id buffer
  | onFilterSetCreated engine filterSet => exact .of_same rfl rfl rfl
  | onReadCachedDATFiles defaultDat additionalDat => exact htask.elim
  | onDATLoaded engine success => exact htask.elim
  | onEngineLoaded engine result serializedDat => exact htask.elim

/-- What an event does: something about the lists, or one task of a thread. -/
inductive ServiceStep (lib : AdblockRust ρ σ) (s : AdBlockService ρ σ) (e : LoadEvent σ) : Prop
  | lists (frame : ListFrame s (s.step lib e))
  | listTask {task : ServiceTask} {tasks : List ServiceTask} (ui : s.ui = task :: tasks)
    (ofLists : task.OfLists) (frame : ListFrame { s with ui := tasks } (s.step lib e))
  | cachedFiles {defaultDat additionalDat : Option DATFileDataBuffer} {tasks : List ServiceTask}
    (event : e = .runUi) (ui : s.ui = .onReadCachedDATFiles defaultDat additionalDat :: tasks)
    (step : s.step lib e =
      { s with ui := tasks }.onReadCachedDATFiles lib defaultDat additionalDat)
  | datLoaded {engine success : Bool} {tasks : List ServiceTask}
    (ui : s.ui = .onDATLoaded engine success :: tasks)
    (step : s.step lib e = { s with ui := tasks }.onDATLoaded engine success)
  | engineLoaded {engine : Bool} {result : FilterListLoadResult}
    {serializedDat : Option DATFileDataBuffer} {tasks : List ServiceTask}
    (ui : s.ui = .onEngineLoaded engine result serializedDat :: tasks)
    (step : s.step lib e = { s with ui := tasks }.onEngineLoaded engine result serializedDat)
  | readFiles {tasks : List DATCacheTask}
    (datRunner : s.datRunner = .readCachedDATFilesFromDisk :: tasks)
    (step : s.step lib e = { s with datRunner := tasks }.postUi
      (.onReadCachedDATFiles (s.datFiles true) (s.datFiles false)))
  | writeFile {ok engine : Bool} {dat : DATFileDataBuffer} {tasks : List DATCacheTask}
    (event : e = .runDATRunner ok) (datRunner : s.datRunner = .writeDATFile engine dat :: tasks)
    (step : s.step lib e =
      { s with
        datRunner := tasks
        datFiles := if ok then Function.update s.datFiles engine (some dat) else s.datFiles })
  | engineTask {task : EngineTask σ} {tasks : List (EngineTask σ)} (event : e = .runRunner)
    (runner : s.runner = task :: tasks)
    (step : s.step lib e = { s with runner := tasks }.runEngineTask lib task)

theorem serviceStep_cases (lib : AdblockRust ρ σ) {e : LoadEvent σ} (henabled : s.enabled e) :
    ServiceStep lib s e := by
  cases e with
  | createProvider engine place list initialized => exact .lists (.of_same rfl rfl rfl)
  | destroyProvider engine id => exact .lists (listFrame_tell _ _)
  | providerInitialized engine id => exact .lists (.of_same rfl rfl rfl)
  | providerChanged engine id => exact .lists (listFrame_tell _ _)
  | updateList engine id buffer permissionMask =>
    have hlists : ListFrame s
        { s with lists := Function.update s.lists id (.memory buffer permissionMask) } :=
      .of_same rfl rfl rfl
    exact .lists (hlists.trans (listFrame_tell _ _))
  | addObserver engine => exact .lists (listFrame_tell _ _)
  | loadFilterSetForEngine engine => exact .lists (listFrame_loadFilterSetForEngine engine)
  | runUi =>
    obtain ⟨task, tasks, hui⟩ := List.exists_cons_of_ne_nil henabled.1
    have hstep : s.step lib .runUi = { s with ui := tasks }.runUiTask lib task := by
      simp [step, runUi, hui]
    have hlistTask : task.OfLists → ServiceStep lib s .runUi := fun htask =>
      .listTask hui htask (hstep ▸ listFrame_runUiTask lib htask)
    cases task with
    | loadFilterSet load id => exact hlistTask trivial
    | runCallback load list => exact hlistTask trivial
    | onDATFileDataReady load id buffer => exact hlistTask trivial
    | onFilterSetCreated engine filterSet => exact hlistTask trivial
    | onReadCachedDATFiles defaultDat additionalDat => exact .cachedFiles rfl hui hstep
    | onDATLoaded engine success => exact .datLoaded hui hstep
    | onEngineLoaded engine result serializedDat => exact .engineLoaded hui hstep
  | runRunner =>
    obtain ⟨task, tasks, hrunner⟩ := List.exists_cons_of_ne_nil henabled
    exact .engineTask rfl hrunner (by simp [step, runRunner, hrunner])
  | runDATRunner ok =>
    obtain ⟨task, tasks, hdatRunner⟩ := List.exists_cons_of_ne_nil henabled
    cases task with
    | readCachedDATFilesFromDisk =>
      exact .readFiles hdatRunner (by simp [step, runDATRunner, hdatRunner])
    | writeDATFile engine dat =>
      exact .writeFile rfl hdatRunner (by simp [step, runDATRunner, hdatRunner])
  | finishRead i buffer => exact .lists (listFrame_finishRead i buffer)
  | resourcesLoaded i storage => exact .lists (listFrame_onAllLoaded i storage)
  | resourcesChanged storage => exact .lists (listFrame_notifyResourcesLoaded storage)

end AdBlockService

end ChromiumAdblock
