import ChromiumAdblock.Lib.Queue
import ChromiumAdblock.Shields.ServiceSteps

/-! The cached rules at startup.  They are read from disk once, and for each engine they are handed
to the ad-block task runner, whose outcome is told to `OnDATLoaded`.  An empty file counts as loaded
there, though no rules came of it.  The reads of the filter lists are on their own way, so the
cached rules replace those of the lists where the file is read late. -/

namespace ChromiumAdblock

open EventMachine

/-- How far the cached rules of an engine have come. -/
inductive CacheStage
  | reading
  | read (file : Option DATFileDataBuffer)
  | loading (dat : DATFileDataBuffer)
  | loaded (success : Bool)
deriving DecidableEq, Repr

def DATCacheTask.stage : DATCacheTask → Option CacheStage
  | readCachedDATFilesFromDisk => some .reading
  | writeDATFile _ _ => none

def ServiceTask.stage (engine : Bool) : ServiceTask → Option CacheStage
  | onReadCachedDATFiles defaultDat additionalDat =>
    some (.read (if engine then defaultDat else additionalDat))
  | onDATLoaded e success => if e = engine then some (.loaded success) else none
  | loadFilterSet _ _ | runCallback _ _ | onDATFileDataReady _ _ _ | onFilterSetCreated _ _
  | onEngineLoaded _ _ _ => none

def EngineTask.stage {σ : Type} (engine : Bool) : EngineTask σ → Option CacheStage
  | loadDAT e dat _ => if e = engine then some (.loading dat) else none
  | createFilterSet _ _ | load _ _ _ => none

theorem ServiceTask.OfLists.stage {task : ServiceTask} (h : task.OfLists) (engine : Bool) :
    task.stage engine = none := by
  cases task <;> first | rfl | exact h.elim

theorem EngineTask.OfLists.stage {σ : Type} {task : EngineTask σ} (h : task.OfLists)
    (engine : Bool) : task.stage engine = none := by
  cases task <;> first | rfl | exact h.elim

namespace AdBlockService

variable {ρ σ : Type}

/-- The tasks that carry the cached rules of an engine. -/
def stages (s : AdBlockService ρ σ) (engine : Bool) : List CacheStage :=
  s.datRunner.filterMap DATCacheTask.stage ++ s.ui.filterMap (ServiceTask.stage engine) ++
    s.runner.filterMap (EngineTask.stage engine)

/-- A step, or a part of one, that has nothing to do with the cached rules: at most it posts tasks.
-/
structure CacheFrame (s s' : AdBlockService ρ σ) : Prop where
  ui : ∀ engine, s'.ui.filterMap (ServiceTask.stage engine) =
    s.ui.filterMap (ServiceTask.stage engine)
  runner : ∃ tasks, s'.runner = s.runner ++ tasks ∧ ∀ task ∈ tasks, ∀ engine,
    task.stage engine = none
  datRunner : ∃ tasks, s'.datRunner = s.datRunner ++ tasks ∧ ∀ task ∈ tasks, task.stage = none
  datFiles : s'.datFiles = s.datFiles
  datRuns : s'.datRuns = s.datRuns
  datLoaded : s'.datLoaded = s.datLoaded
  forced : s'.forced = s.forced
  listLoaded : s'.listLoaded = s.listLoaded

variable {s s' s'' : AdBlockService ρ σ}

theorem CacheFrame.trans (first : CacheFrame s s') (second : CacheFrame s' s'') :
    CacheFrame s s'' where
  ui engine := (second.ui engine).trans (first.ui engine)
  runner := by
    obtain ⟨tasks, htasks, hstage⟩ := first.runner
    obtain ⟨tasks', htasks', hstage'⟩ := second.runner
    refine ⟨tasks ++ tasks', by rw [htasks', htasks, List.append_assoc], fun task hmem => ?_⟩
    exact (List.mem_append.mp hmem).elim (hstage task) (hstage' task)
  datRunner := by
    obtain ⟨tasks, htasks, hstage⟩ := first.datRunner
    obtain ⟨tasks', htasks', hstage'⟩ := second.datRunner
    refine ⟨tasks ++ tasks', by rw [htasks', htasks, List.append_assoc], fun task hmem => ?_⟩
    exact (List.mem_append.mp hmem).elim (hstage task) (hstage' task)
  datFiles := second.datFiles.trans first.datFiles
  datRuns := second.datRuns.trans first.datRuns
  datLoaded := second.datLoaded.trans first.datLoaded
  forced := second.forced.trans first.forced
  listLoaded := second.listLoaded.trans first.listLoaded

theorem ListFrame.cacheFrame (h : ListFrame s s') : CacheFrame s s' := by
  obtain ⟨tasks, hui, htasks⟩ := h.ui
  obtain ⟨posted, hrunner, hposted⟩ := h.runner
  have hparts := h.parts
  simp only [cacheParts, Prod.mk.injEq] at hparts
  obtain ⟨-, hdatRunner, hdatFiles, -, hdatRuns, hlistLoaded, hdatLoaded, hforced⟩ := hparts
  refine ⟨fun engine => ?_, ⟨posted, hrunner, fun task hmem => (hposted task hmem).stage⟩,
    ⟨[], by rw [hdatRunner, List.append_nil], by simp⟩, hdatFiles, hdatRuns, hdatLoaded, hforced,
    hlistLoaded⟩
  have hnone : tasks.filterMap (ServiceTask.stage engine) = [] :=
    List.filterMap_eq_nil_iff.mpr fun task hmem => (htasks task hmem).stage engine
  rw [hui, List.filterMap_append, hnone, List.append_nil]

/-- The UI thread takes a task that has nothing to do with the cached rules. -/
theorem cacheFrame_popUi {task : ServiceTask} {tasks : List ServiceTask}
    (hui : s.ui = task :: tasks) (hstage : ∀ engine, task.stage engine = none) :
    CacheFrame s { s with ui := tasks } where
  ui engine := by
    rw [hui, Queue.filterMap_head, hstage]
    rfl
  runner := ⟨[], (List.append_nil _).symm, by simp⟩
  datRunner := ⟨[], (List.append_nil _).symm, by simp⟩
  datFiles := rfl
  datRuns := rfl
  datLoaded := rfl
  forced := rfl
  listLoaded := rfl

theorem cacheFrame_onEngineLoaded (engine : Bool) (result : FilterListLoadResult)
    (serializedDat : Option DATFileDataBuffer) :
    CacheFrame s (s.onEngineLoaded engine result serializedDat) := by
  unfold onEngineLoaded
  split
  · exact (ListFrame.refl s).cacheFrame
  · split
    · exact (ListFrame.refl s).cacheFrame
    · rename_i dat _
      exact ⟨fun _ => rfl, ⟨[], by simp, by simp⟩, ⟨[.writeDATFile engine dat], rfl, by simp
        [DATCacheTask.stage]⟩, rfl, rfl, rfl, rfl, rfl⟩

/-- The log of a call of `OnDATLoaded`, and of the call of `ForceNotifyObserver`, if it makes one.
-/
def logDATLoaded (s : AdBlockService ρ σ) (engine success : Bool) : AdBlockService ρ σ :=
  { s with
    datLoaded := s.datLoaded ++ [(engine, success)]
    forced := s.forced ++ if success then [] else [engine] }

theorem cacheFrame_onDATLoaded (engine success : Bool) :
    CacheFrame (s.logDATLoaded engine success) (s.onDATLoaded engine success) := by
  cases success with
  | true =>
    have hsame : ListFrame (s.logDATLoaded engine true) (s.onDATLoaded engine true) :=
      .of_same rfl rfl (by simp [cacheParts, logDATLoaded, onDATLoaded, notifyDATLoaded])
    exact hsame.cacheFrame
  | false =>
    have htell : CacheFrame { s with forced := s.forced ++ [engine] }
        (s.forceNotifyObserver engine) := (listFrame_tell _ _).cacheFrame
    exact ⟨htell.ui, htell.runner, htell.datRunner, htell.datFiles, htell.datRuns,
      congrArg (· ++ [(engine, false)]) htell.datLoaded, htell.forced, htell.listLoaded⟩

end AdBlockService

section Order

variable {ρ σ : Type} (lib : AdblockRust ρ σ)

/-- A task that makes a filter set into the rules of an engine. -/
def EngineTask.LoadsList (engine : Bool) : EngineTask σ → Prop
  | load e (some filterSet) _ => e = engine ∧ (lib.engineFromFilterSet filterSet).isSome = true
  | load _ none _ | createFilterSet _ _ | loadDAT _ _ _ => False

/-- The file of an engine that the reply to the read of the cache brings. -/
def ServiceTask.cachedDAT (engine : Bool) : ServiceTask → Option DATFileDataBuffer
  | onReadCachedDATFiles defaultDat additionalDat => if engine then defaultDat else additionalDat
  | loadFilterSet _ _ | runCallback _ _ | onDATFileDataReady _ _ _ | onFilterSetCreated _ _
  | onDATLoaded _ _ | onEngineLoaded _ _ _ => none

instance (engine : Bool) : ∀ task : EngineTask σ, Decidable (task.LoadsList lib engine)
  | .load e (some filterSet) _ =>
    inferInstanceAs (Decidable (e = engine ∧ (lib.engineFromFilterSet filterSet).isSome = true))
  | .load _ none _ | .createFilterSet _ _ | .loadDAT _ _ _ => inferInstanceAs (Decidable False)

namespace AdBlockService

/-- No filter set was made into the rules of an engine, and no task is to do that. -/
def NoList (s : AdBlockService ρ σ) (engine : Bool) : Prop :=
  s.listLoaded engine = false ∧ ∀ task ∈ s.runner, ¬task.LoadsList lib engine

/-- The reply to the read of the cache comes, for an engine whose file can be used, before the first
load of its filter lists is posted. -/
def cacheFirst (s : AdBlockService ρ σ) : LoadEvent σ → Prop
  | .runUi => ∀ task ∈ s.ui.head?, ∀ engine, ∀ dat ∈ task.cachedDAT engine,
    (lib.deserialize dat).isSome = true → s.NoList lib engine
  | _ => True

/-- Cached rules that can be used are loaded before all lists. -/
def CacheAhead (s : AdBlockService ρ σ) : Prop :=
  ∀ engine before dat storage after, s.runner = before ++ .loadDAT engine dat storage :: after →
    (lib.deserialize dat).isSome = true →
    s.listLoaded engine = false ∧ ∀ task ∈ before, ¬task.LoadsList lib engine

variable {lib} {s s' : AdBlockService ρ σ}

theorem mem_of_append_eq {α : Type} {l tasks before after : List α} {x : α}
    (h : l ++ tasks = before ++ x :: after) (hx : x ∉ tasks) :
    ∃ rest, l = before ++ x :: rest := by
  rcases List.append_eq_append_iff.mp h with ⟨mid, -, htasks⟩ | ⟨mid, rfl, hmid⟩
  · exact absurd (htasks ▸ List.mem_append_right _ List.mem_cons_self) hx
  · cases mid with
    | nil =>
      have htasks : x :: after = tasks := hmid
      exact absurd (htasks ▸ List.mem_cons_self) hx
    | cons y rest =>
      obtain ⟨rfl, -⟩ := List.cons.inj hmid
      exact ⟨rest, rfl⟩

theorem CacheAhead.post (h : s.CacheAhead lib) {tasks : List (EngineTask σ)}
    (hrunner : s'.runner = s.runner ++ tasks)
    (htasks : ∀ task ∈ tasks, ∀ engine, task.stage engine = none)
    (hlisted : s'.listLoaded = s.listLoaded) : s'.CacheAhead lib := by
  intro engine before dat storage after hsplit husable
  rw [hrunner] at hsplit
  have hnot : EngineTask.loadDAT engine dat storage ∉ tasks := fun hmem => by
    simpa [EngineTask.stage] using htasks _ hmem engine
  obtain ⟨rest, hrest⟩ := mem_of_append_eq hsplit hnot
  rw [hlisted]
  exact h engine before dat storage rest hrest husable

theorem CacheAhead.frame (h : s.CacheAhead lib) (hframe : CacheFrame s s') : s'.CacheAhead lib := by
  obtain ⟨tasks, hrunner, htasks⟩ := hframe.runner
  exact h.post hrunner htasks hframe.listLoaded

theorem tell_runner (lib : AdblockRust ρ σ) (engine : Bool) (outcome : EngineProviders × Bool) :
    ∃ tasks, (s.tell engine outcome).runner = s.runner ++ tasks ∧
      ∀ task ∈ tasks, ∀ e, ¬task.LoadsList lib e := by
  unfold tell
  split
  · unfold loadFilterSetForEngine
    split
    · exact ⟨_, rfl, by simp [EngineTask.LoadsList]⟩
    · exact ⟨[], (List.append_nil _).symm, by simp⟩
  · exact ⟨[], (List.append_nil _).symm, by simp⟩

/-- The file of an engine is handled, before the first of its lists if it can be used. -/
theorem CacheAhead.onReadCachedDATFile (h : s.CacheAhead lib) {engine : Bool}
    {file : Option DATFileDataBuffer}
    (hfirst : ∀ dat, file = some dat → (lib.deserialize dat).isSome = true →
      s.NoList lib engine) : (s.onReadCachedDATFile lib engine file).CacheAhead lib := by
  cases file with
  | none =>
    exact CacheAhead.frame (s := s.logDATLoaded engine false) h
      (cacheFrame_onDATLoaded engine false)
  | some dat =>
    intro e before d storage after hsplit husable
    have hsplit' : s.runner ++ [.loadDAT engine dat lib.newEmptyResourceStorage] =
        before ++ .loadDAT e d storage :: after := hsplit
    show s.listLoaded e = false ∧ _
    rcases List.eq_nil_or_concat after with rfl | ⟨rest, last, rfl⟩
    · obtain ⟨rfl, hlast⟩ := List.append_inj' hsplit' rfl
      obtain ⟨rfl, rfl, rfl⟩ : engine = e ∧ dat = d ∧ lib.newEmptyResourceStorage = storage := by
        simpa using hlast
      exact hfirst dat rfl husable
    · rw [List.concat_eq_append, ← List.cons_append, ← List.append_assoc] at hsplit'
      exact h e before d storage rest (List.append_inj' hsplit' rfl).1 husable

theorem NoList.onReadCachedDATFile {engine other : Bool} {file : Option DATFileDataBuffer}
    (h : s.NoList lib engine) : (s.onReadCachedDATFile lib other file).NoList lib engine := by
  obtain ⟨hloaded, htasks⟩ := h
  have hposted : ∀ tasks, (s.onReadCachedDATFile lib other file).runner = s.runner ++ tasks →
      (∀ task ∈ tasks, ¬task.LoadsList lib engine) →
      ∀ task ∈ (s.onReadCachedDATFile lib other file).runner, ¬task.LoadsList lib engine := by
    intro tasks hrunner hnew task hmem
    rw [hrunner] at hmem
    exact (List.mem_append.mp hmem).elim (htasks task) (hnew task)
  cases file with
  | none =>
    obtain ⟨tasks, hrunner, hnew⟩ := tell_runner lib
      (s := { s with forced := s.forced ++ [other] }) other (s.manager other).forceNotifyObserver
    have hlisted := (cacheFrame_onDATLoaded (s := s) other false).listLoaded
    exact ⟨(congrFun hlisted engine).trans hloaded, hposted tasks hrunner fun t ht => hnew t ht _⟩
  | some dat =>
    exact ⟨hloaded, hposted [.loadDAT other dat lib.newEmptyResourceStorage] rfl
      (by simp [EngineTask.LoadsList])⟩

/-- The ad-block task runner runs a task: the tasks behind it stay in order. -/
theorem CacheAhead.engineTask (h : s.CacheAhead lib) {task : EngineTask σ}
    {tasks : List (EngineTask σ)} (hrunner : s.runner = task :: tasks) :
    ({ s with runner := tasks }.runEngineTask lib task).CacheAhead lib := by
  have htail : ∀ engine before dat storage after,
      tasks = before ++ .loadDAT engine dat storage :: after →
      (lib.deserialize dat).isSome = true → s.listLoaded engine = false ∧
        ¬task.LoadsList lib engine ∧ ∀ t ∈ before, ¬t.LoadsList lib engine := by
    intro engine before dat storage after hsplit husable
    obtain ⟨hlisted, hbefore⟩ := h engine (task :: before) dat storage after
      (by rw [hrunner, hsplit, List.cons_append]) husable
    exact ⟨hlisted, hbefore task List.mem_cons_self, fun t ht => hbefore t (.tail _ ht)⟩
  have hsame : ∀ s' : AdBlockService ρ σ, s'.runner = tasks → s'.listLoaded = s.listLoaded →
      s'.CacheAhead lib := by
    intro s' htasks hlisted engine before dat storage after hsplit husable
    rw [htasks] at hsplit
    obtain ⟨hnone, -, hbefore⟩ := htail engine before dat storage after hsplit husable
    exact ⟨by rw [hlisted, hnone], hbefore⟩
  cases task with
  | createFilterSet engine results => exact hsame _ rfl rfl
  | loadDAT engine dat storage => exact hsame _ rfl rfl
  | load engine filterSet storage =>
    cases filterSet with
    | none => exact hsame _ rfl rfl
    | some filterSet =>
      cases hclient : lib.engineFromFilterSet filterSet with
      | none =>
        refine hsame _ ?_ ?_ <;>
          simp [runEngineTask, runLoad, LoadedEngine.load, LoadedEngine.onFilterSetLoaded, hclient]
      | some client =>
        have hafter : ({ s with runner := tasks }.runLoad lib engine (some filterSet)
            storage).runner = tasks ∧ ({ s with runner := tasks }.runLoad lib engine
              (some filterSet) storage).listLoaded = Function.update s.listLoaded engine true := by
          simp [runLoad, LoadedEngine.load, LoadedEngine.onFilterSetLoaded, hclient]
        intro e before dat storage' after hsplit husable
        have hsplit' := hafter.1.symm.trans hsplit
        obtain ⟨hnone, hhead, hbefore⟩ := htail e before dat storage' after hsplit' husable
        have hne : e ≠ engine := by
          rintro rfl
          exact hhead ⟨rfl, by simp [hclient]⟩
        refine ⟨?_, hbefore⟩
        show ({ s with runner := tasks }.runLoad lib engine (some filterSet)
          storage).listLoaded e = false
        rw [hafter.2, Function.update_of_ne hne, hnone]

theorem CacheAhead.step (h : s.CacheAhead lib) {e : LoadEvent σ} (henabled : s.enabled e)
    (hfirst : s.cacheFirst lib e) : (s.step lib e).CacheAhead lib := by
  cases serviceStep_cases lib henabled with
  | lists hframe => exact h.frame hframe.cacheFrame
  | listTask hui hlists hframe =>
    exact h.frame ((cacheFrame_popUi hui hlists.stage).trans hframe.cacheFrame)
  | engineLoaded hui hstep =>
    rw [hstep]
    exact h.frame ((cacheFrame_popUi hui fun _ => rfl).trans (cacheFrame_onEngineLoaded _ _ _))
  | readFiles hdatRunner hstep =>
    rw [hstep]
    exact h
  | writeFile hevent hdatRunner hstep =>
    rw [hstep]
    exact h
  | @cachedFiles defaultDat additionalDat tasks hevent hui hstep =>
    subst hevent
    rw [hstep]
    have hlists : ∀ engine dat, (if engine then defaultDat else additionalDat) = some dat →
        (lib.deserialize dat).isSome = true → s.NoList lib engine := by
      intro engine dat hdat husable
      exact hfirst (.onReadCachedDATFiles defaultDat additionalDat) (by simp [hui]) engine dat hdat
        husable
    have hpopped : { s with ui := tasks }.CacheAhead lib := h
    have hdefault :
        ({ s with ui := tasks }.onReadCachedDATFile lib true defaultDat).CacheAhead lib :=
      hpopped.onReadCachedDATFile (hlists true)
    refine hdefault.onReadCachedDATFile fun dat hdat husable => ?_
    exact NoList.onReadCachedDATFile (hlists false dat hdat husable)
  | @datLoaded engine success tasks hui hstep =>
    rw [hstep]
    exact CacheAhead.frame (s := { s with ui := tasks }.logDATLoaded engine success) h
      (cacheFrame_onDATLoaded engine success)
  | engineTask hevent hrunner hstep =>
    rw [hstep]
    exact h.engineTask hrunner

/-- `LoadDAT` replaces the rules by those that the file holds, if it holds any. -/
theorem loadDAT_rules (engine : LoadedEngine ρ σ) (dat : DATFileDataBuffer) (storage : σ) :
    (engine.loadDAT lib dat storage).1.rules = (lib.deserialize dat).getD engine.rules := by
  by_cases hdat : dat = []
  · simp [LoadedEngine.loadDAT, hdat, lib.deserialize_nil, LoadedEngine.useResources]
  · cases hclient : lib.deserialize dat with
    | none => simp [LoadedEngine.loadDAT, LoadedEngine.onDATLoaded, hdat, hclient]
    | some client =>
      simp [LoadedEngine.loadDAT, LoadedEngine.onDATLoaded, hdat, hclient,
        LoadedEngine.updateAdBlockClient, LoadedEngine.useResources]

/-- Where the cache is read before a load of the filter lists is posted, `LoadDAT` does not replace
the rules of an engine that its filter lists were loaded into. -/
theorem list_load_kept (lib : AdblockRust ρ σ) {datFiles : Bool → Option DATFileDataBuffer}
    {es : List (LoadEvent σ)} {s : AdBlockService ρ σ}
    (run : Run ((machine lib).restrict (cacheFirst lib)) (init lib true datFiles) es s)
    {engine : Bool} (hlisted : s.listLoaded engine = true) {dat : DATFileDataBuffer} {storage : σ}
    {tasks : List (EngineTask σ)} (hrunner : s.runner = .loadDAT engine dat storage :: tasks) :
    ((s.step lib .runRunner).engines engine).rules = (s.engines engine).rules := by
  have hahead : s.CacheAhead lib := by
    refine run.preserves (P := CacheAhead lib) ?_ ?_
    · rintro s e s' ⟨henabled, hfirst⟩ hstep h
      obtain rfl := Except.ok.inj hstep
      exact h.step henabled hfirst
    · intro engine before dat storage after hsplit
      exact absurd (congrArg List.length hsplit) (by simp [init])
  have huseless : lib.deserialize dat = none := by
    by_contra husable
    have hnone := (hahead engine [] dat storage tasks hrunner
      (Option.isSome_iff_ne_none.mpr husable)).1
    exact absurd (hlisted.symm.trans hnone) (by simp)
  have hrules : ((s.engines engine).loadDAT lib dat storage).1.rules =
      (lib.deserialize dat).getD (s.engines engine).rules := loadDAT_rules _ _ _
  rw [huseless, Option.getD_none] at hrules
  simpa [step, runRunner, hrunner, runEngineTask, runLoadDAT] using hrules

instance (s : AdBlockService ρ σ) : ∀ e, Decidable (s.cacheFirst lib e)
  | .runUi => inferInstanceAs (Decidable (∀ task ∈ s.ui.head?, ∀ engine,
      ∀ dat ∈ task.cachedDAT engine, (lib.deserialize dat).isSome = true →
        s.listLoaded engine = false ∧ ∀ task ∈ s.runner, ¬task.LoadsList lib engine))
  | .createProvider _ _ _ _ | .destroyProvider _ _ | .providerInitialized _ _
  | .providerChanged _ _ | .updateList _ _ _ _ | .addObserver _ | .loadFilterSetForEngine _
  | .runRunner | .runDATRunner _ | .finishRead _ _ | .resourcesLoaded _ _ | .resourcesChanged _ =>
    inferInstanceAs (Decidable True)

/-- The constructor: the custom filters announce themselves, which consumes the one notification,
and then the observers are made. -/
def startService : List (LoadEvent Unit) :=
  [.createProvider false 0 (.memory [97] 255) true, .providerChanged false 0, .addObserver true,
    .addObserver false]

/-- The custom filters are loaded. -/
def loadCustomFilters : List (LoadEvent Unit) :=
  [.runUi, .runUi, .runRunner, .runUi, .resourcesLoaded 0 (), .runRunner]

/-- A cache that is of no use for the additional engine. -/
def brokenCache : Bool → Option DATFileDataBuffer := fun _ => some [0]

theorem list_load_kept_broken_cache :
    ∃ s tasks, Run ((machine bytesEngine).restrict (cacheFirst bytesEngine))
        (init bytesEngine true brokenCache)
        (startService ++ loadCustomFilters ++ [.runDATRunner true, .runUi, .runUi, .runRunner]) s ∧
      s.listLoaded false = true ∧ s.runner = .loadDAT false [0] () :: tasks ∧
      ((s.step bytesEngine .runRunner).engines false).rules = (s.engines false).rules := by
  obtain ⟨s, run, hs⟩ := Machine.exists_run
    ((machine bytesEngine).restrict (cacheFirst bytesEngine)) (init bytesEngine true brokenCache)
    (startService ++ loadCustomFilters ++ [.runDATRunner true, .runUi, .runUi, .runRunner])
    (fun s => decide (s.listLoaded false = true ∧ s.runner = [.loadDAT false [0] ()])) (by decide)
  obtain ⟨hlisted, hrunner⟩ := of_decide_eq_true hs
  exact ⟨s, [], run, hlisted, hrunner, list_load_kept bytesEngine run hlisted hrunner⟩

/-- The rules of the last session are in the cache of the additional engine. -/
def staleCache : Bool → Option DATFileDataBuffer := fun engine =>
  if engine then none else some [0xd1, 120]

/-- The cache is read late, and its rules replace those of the custom filters. -/
theorem list_load_overwritten :
    ∃ s, Run (machine bytesEngine) (init bytesEngine true staleCache)
        (startService ++ loadCustomFilters ++ [.runDATRunner true, .runUi, .runUi]) s ∧
      s.listLoaded false = true ∧ s.runner = [.loadDAT false [0xd1, 120] ()] ∧
      (s.engines false).rules = [97] ∧
      ((s.step bytesEngine .runRunner).engines false).rules = [120] := by
  obtain ⟨s, run, hs⟩ := Machine.exists_run (machine bytesEngine)
    (init bytesEngine true staleCache)
    (startService ++ loadCustomFilters ++ [.runDATRunner true, .runUi, .runUi])
    (fun s => decide (s.listLoaded false = true ∧ s.runner = [.loadDAT false [0xd1, 120] ()] ∧
      (s.engines false).rules = [97] ∧
      ((s.step bytesEngine .runRunner).engines false).rules = [120])) (by decide)
  exact ⟨s, run, of_decide_eq_true hs⟩

end AdBlockService

end Order

end ChromiumAdblock
