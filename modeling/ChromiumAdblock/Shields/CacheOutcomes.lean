import ChromiumAdblock.Shields.StartupCache

/-! What is told of the cached rules of an engine.  The tasks that carry them come one at a time:
the read of the files, its reply, the load, and the reply of the load. -/

namespace ChromiumAdblock

open EventMachine

/-- What a `LoadDAT` came to: rules that the bytes hold replace those of the engine, and an empty
buffer counts as a success. -/
structure DATRun.EndsIn {ρ σ : Type} (lib : AdblockRust ρ σ) (run : DATRun ρ) (success : Bool) :
    Prop where
  success : success = decide (run.dat = [] ∨ (lib.deserialize run.dat).isSome = true)
  after : run.after = (lib.deserialize run.dat).getD run.before

theorem DATRun.EndsIn.replaced {ρ σ : Type} {lib : AdblockRust ρ σ} {run : DATRun ρ}
    (h : run.EndsIn lib true) (hdat : run.dat ≠ []) : lib.deserialize run.dat = some run.after := by
  have husable : (lib.deserialize run.dat).isSome = true := by simpa [hdat] using h.success
  obtain ⟨client, hclient⟩ := Option.isSome_iff_exists.mp husable
  rw [h.after, hclient, Option.getD_some]

theorem DATRun.EndsIn.kept {ρ σ : Type} {lib : AdblockRust ρ σ} {run : DATRun ρ}
    (h : run.EndsIn lib false) : run.after = run.before := by
  have huseless : run.dat ≠ [] ∧ lib.deserialize run.dat = none := by
    simpa using of_decide_eq_false h.success.symm
  rw [h.after, huseless.2, Option.getD_none]

/-- A stage is that of the file that was there at startup. -/
def CacheStage.Fits {ρ σ : Type} (lib : AdblockRust ρ σ) (file : Option DATFileDataBuffer)
    (runs : List (DATRun ρ)) : CacheStage → Prop
  | reading => runs = []
  | read f => f = file ∧ runs = []
  | loading dat => file = some dat ∧ runs = []
  | loaded success => ∃ run, runs = [run] ∧ file = some run.dat ∧ run.EndsIn lib success

/-- The tasks, the calls of `LoadDAT`, and the outcomes that were told, for an engine and its file.
-/
inductive CacheProgress {ρ σ : Type} (lib : AdblockRust ρ σ) (file : Option DATFileDataBuffer) :
    List CacheStage → List (DATRun ρ) → List Bool → Prop
  | underway {stage : CacheStage} {runs : List (DATRun ρ)} (fits : stage.Fits lib file runs) :
    CacheProgress lib file [stage] runs []
  | missing (none : file = none) : CacheProgress lib file [] [] [false]
  | told {run : DATRun ρ} {success : Bool} (dat : file = some run.dat)
    (ends : run.EndsIn lib success) : CacheProgress lib file [] [run] [success]

theorem CacheProgress.take {ρ σ : Type} {lib : AdblockRust ρ σ} {file : Option DATFileDataBuffer}
    {stage : CacheStage} {stages rest : List CacheStage} {runs : List (DATRun ρ)}
    {outcomes : List Bool} (h : CacheProgress lib file stages runs outcomes)
    (hperm : stages.Perm (stage :: rest)) :
    rest = [] ∧ outcomes = [] ∧ stage.Fits lib file runs := by
  cases h with
  | underway fits =>
    obtain ⟨rfl, rfl⟩ := List.cons.inj (List.singleton_perm.mp hperm)
    exact ⟨rfl, rfl, fits⟩
  | missing none => exact absurd hperm.length_eq (by simp)
  | told dat ends => exact absurd hperm.length_eq (by simp)

namespace AdBlockService

variable {ρ σ : Type}

def runsOf (s : AdBlockService ρ σ) (engine : Bool) : List (DATRun ρ) :=
  s.datRuns.filter (·.isDefaultEngine == engine)

def outcomesOf (s : AdBlockService ρ σ) (engine : Bool) : List Bool :=
  (s.datLoaded.filter (·.1 == engine)).map (·.2)

/-- The read of the cache is the first task of its runner, and finds the files as they were. -/
def ReadsFirst (files : Bool → Option DATFileDataBuffer) (s : AdBlockService ρ σ) : Prop :=
  s.datRunner.filterMap DATCacheTask.stage = [] ∨
    s.datFiles = files ∧ ∃ tasks, s.datRunner = .readCachedDATFilesFromDisk :: tasks ∧
      tasks.filterMap DATCacheTask.stage = []

/-- The observers of which `ForceNotifyObserver` was called are those of a failure that was told. -/
def ForcesFailed (s : AdBlockService ρ σ) : Prop :=
  s.forced = (s.datLoaded.filter (!·.2)).map (·.1)

structure CacheInv (lib : AdblockRust ρ σ) (files : Bool → Option DATFileDataBuffer)
    (s : AdBlockService ρ σ) : Prop where
  readsFirst : s.ReadsFirst files
  progress : ∀ engine, CacheProgress lib (files engine) (s.stages engine) (s.runsOf engine)
    (s.outcomesOf engine)
  forces : s.ForcesFailed

/-- The cached rules of an engine are where they were. -/
structure SameCache (engine : Bool) (s s' : AdBlockService ρ σ) : Prop where
  stages : s'.stages engine = s.stages engine
  runs : s'.runsOf engine = s.runsOf engine
  outcomes : s'.outcomesOf engine = s.outcomesOf engine

variable {lib : AdblockRust ρ σ} {files : Bool → Option DATFileDataBuffer} {engine : Bool}
  {s s' s'' : AdBlockService ρ σ}

theorem SameCache.trans (first : SameCache engine s s') (second : SameCache engine s' s'') :
    SameCache engine s s'' :=
  ⟨second.stages.trans first.stages, second.runs.trans first.runs,
    second.outcomes.trans first.outcomes⟩

theorem SameCache.progress {file : Option DATFileDataBuffer} (same : SameCache engine s s')
    (h : CacheProgress lib file (s.stages engine) (s.runsOf engine) (s.outcomesOf engine)) :
    CacheProgress lib file (s'.stages engine) (s'.runsOf engine) (s'.outcomesOf engine) := by
  rw [same.stages, same.runs, same.outcomes]
  exact h

theorem filterMap_nil_of {α β : Type} {f : α → Option β} {l : List α} (h : ∀ a ∈ l, f a = none) :
    l.filterMap f = [] :=
  List.filterMap_eq_nil_iff.mpr h

theorem CacheFrame.sameCache (h : CacheFrame s s') : SameCache engine s s' where
  stages := by
    obtain ⟨tasks, hrunner, htasks⟩ := h.runner
    obtain ⟨datTasks, hdatRunner, hdatTasks⟩ := h.datRunner
    simp only [AdBlockService.stages, hrunner, hdatRunner, h.ui, List.filterMap_append,
      filterMap_nil_of hdatTasks, filterMap_nil_of fun task ht => htasks task ht engine,
      List.append_nil]
  runs := by rw [runsOf, h.datRuns, runsOf]
  outcomes := by rw [outcomesOf, h.datLoaded, outcomesOf]

theorem CacheFrame.readsFirst (h : CacheFrame s s') (hreads : s.ReadsFirst files) :
    s'.ReadsFirst files := by
  obtain ⟨tasks, hdatRunner, htasks⟩ := h.datRunner
  have hnone := filterMap_nil_of htasks
  rcases hreads with hdone | ⟨hfiles, rest, hread, hrest⟩
  · exact .inl (by rw [hdatRunner, List.filterMap_append, hdone, hnone, List.append_nil])
  · refine .inr ⟨h.datFiles.trans hfiles, rest ++ tasks, by rw [hdatRunner, hread]; rfl, ?_⟩
    rw [List.filterMap_append, hrest, hnone, List.append_nil]

theorem CacheFrame.forcesFailed (h : CacheFrame s s') (hforces : s.ForcesFailed) :
    s'.ForcesFailed := by
  rw [ForcesFailed, h.forced, h.datLoaded]
  exact hforces

theorem CacheInv.frame (h : CacheInv lib files s) (hframe : CacheFrame s s') :
    CacheInv lib files s' :=
  ⟨hframe.readsFirst h.readsFirst, fun engine => hframe.sameCache.progress (h.progress engine),
    hframe.forcesFailed h.forces⟩

theorem logDATLoaded_forcesFailed (success : Bool) (h : s.ForcesFailed) :
    (s.logDATLoaded engine success).ForcesFailed := by
  have hforced : s.forced = (s.datLoaded.filter (!·.2)).map (·.1) := h
  cases success <;> simp [ForcesFailed, logDATLoaded, hforced]

theorem logDATLoaded_outcomes (success : Bool) :
    (s.logDATLoaded engine success).outcomesOf engine = s.outcomesOf engine ++ [success] := by
  simp [outcomesOf, logDATLoaded]

theorem logDATLoaded_sameCache {other : Bool} (success : Bool) (h : other ≠ engine) :
    SameCache engine s (s.logDATLoaded other success) :=
  ⟨rfl, rfl, by simp [outcomesOf, logDATLoaded, h]⟩

theorem logDATLoaded_readsFirst (success : Bool) (h : s.ReadsFirst files) :
    (s.logDATLoaded engine success).ReadsFirst files :=
  h

theorem onReadCachedDATFile_sameCache {other : Bool} (file : Option DATFileDataBuffer)
    (h : other ≠ engine) : SameCache engine s (s.onReadCachedDATFile lib other file) := by
  cases file with
  | none =>
    exact (logDATLoaded_sameCache false h).trans (cacheFrame_onDATLoaded other false).sameCache
  | some dat =>
    refine ⟨?_, rfl, rfl⟩
    simp [stages, onReadCachedDATFile, onDATFileRead, onResourcesLoaded, postRunner, loadResources,
      EngineTask.stage, h]

theorem onReadCachedDATFile_progress (lib : AdblockRust ρ σ) (engine : Bool)
    (file : Option DATFileDataBuffer)
    (hstages : s.stages engine = []) (hruns : s.runsOf engine = [])
    (houtcomes : s.outcomesOf engine = []) :
    CacheProgress lib file ((s.onReadCachedDATFile lib engine file).stages engine)
      ((s.onReadCachedDATFile lib engine file).runsOf engine)
      ((s.onReadCachedDATFile lib engine file).outcomesOf engine) := by
  cases file with
  | none =>
    refine (cacheFrame_onDATLoaded engine false).sameCache.progress ?_
    have hlogged : (s.logDATLoaded engine false).stages engine = [] := hstages
    rw [hlogged, logDATLoaded_outcomes, houtcomes]
    exact hruns ▸ .missing rfl
  | some dat =>
    have hposted : (s.onReadCachedDATFile lib engine (some dat)).stages engine =
        s.stages engine ++ [.loading dat] := by
      simp [stages, onReadCachedDATFile, onDATFileRead, onResourcesLoaded, postRunner,
        loadResources, EngineTask.stage]
    show CacheProgress lib _ _ (s.runsOf engine) (s.outcomesOf engine)
    rw [hposted, hstages, hruns, houtcomes]
    exact .underway ⟨rfl, rfl⟩

theorem onReadCachedDATFile_readsFirst (other : Bool) (file : Option DATFileDataBuffer)
    (h : s.ReadsFirst files) : (s.onReadCachedDATFile lib other file).ReadsFirst files := by
  cases file with
  | none =>
    have hlogged : (s.logDATLoaded other false).ReadsFirst files := logDATLoaded_readsFirst false h
    exact (cacheFrame_onDATLoaded other false).readsFirst hlogged
  | some dat => exact h

theorem onReadCachedDATFile_forcesFailed (other : Bool) (file : Option DATFileDataBuffer)
    (h : s.ForcesFailed) : (s.onReadCachedDATFile lib other file).ForcesFailed := by
  cases file with
  | none =>
    exact (cacheFrame_onDATLoaded other false).forcesFailed (logDATLoaded_forcesFailed false h)
  | some dat => exact h

/-- A task at the head of the UI thread's queue that carries the cached rules of an engine. -/
theorem CacheInv.takeUi (h : CacheInv lib files s) {task : ServiceTask} {tasks : List ServiceTask}
    {stage : CacheStage} (hui : s.ui = task :: tasks) (hstage : task.stage engine = some stage) :
    { s with ui := tasks }.stages engine = [] ∧ s.outcomesOf engine = [] ∧
      stage.Fits lib (files engine) (s.runsOf engine) := by
  have hperm : (s.stages engine).Perm (stage :: { s with ui := tasks }.stages engine) := by
    simp only [stages, hui, Queue.filterMap_head, hstage, List.append_assoc]
    exact List.perm_append_comm_assoc _ _ _
  exact (h.progress engine).take hperm

theorem CacheInv.takeRunner (h : CacheInv lib files s) {task : EngineTask σ}
    {tasks : List (EngineTask σ)} {stage : CacheStage} (hrunner : s.runner = task :: tasks)
    (hstage : task.stage engine = some stage) :
    { s with runner := tasks }.stages engine = [] ∧ s.outcomesOf engine = [] ∧
      stage.Fits lib (files engine) (s.runsOf engine) := by
  have hperm : (s.stages engine).Perm (stage :: { s with runner := tasks }.stages engine) := by
    simp only [stages, hrunner, Queue.filterMap_head, hstage]
    exact List.perm_append_comm_assoc _ _ _
  exact (h.progress engine).take hperm

theorem sameCache_popUi {task : ServiceTask} {tasks : List ServiceTask} (hui : s.ui = task :: tasks)
    (hstage : task.stage engine = none) : SameCache engine s { s with ui := tasks } :=
  ⟨by simp [stages, hui, hstage], rfl, rfl⟩

theorem CacheInv.read (h : CacheInv lib files s) {tasks : List DATCacheTask}
    (hdatRunner : s.datRunner = .readCachedDATFilesFromDisk :: tasks) :
    CacheInv lib files ({ s with datRunner := tasks }.postUi
      (.onReadCachedDATFiles (s.datFiles true) (s.datFiles false))) := by
  obtain ⟨hfiles, hnone⟩ : s.datFiles = files ∧ tasks.filterMap DATCacheTask.stage = [] := by
    rcases h.readsFirst with hdone | ⟨hfiles, rest, hread, hrest⟩
    · simp [hdatRunner, DATCacheTask.stage] at hdone
    · obtain rfl := (List.cons.inj (hdatRunner.symm.trans hread)).2
      exact ⟨hfiles, hrest⟩
  refine ⟨.inl hnone, fun engine => ?_, h.forces⟩
  have hread : s.stages engine = .reading :: { s with datRunner := tasks }.stages engine := by
    simp [stages, hdatRunner, DATCacheTask.stage]
  obtain ⟨hrest, houtcomes, hruns⟩ := (h.progress engine).take (.of_eq hread)
  obtain ⟨hui, hrunner⟩ : s.ui.filterMap (ServiceTask.stage engine) = [] ∧
      s.runner.filterMap (EngineTask.stage engine) = [] := by
    simpa [stages, hnone] using hrest
  have hposted : ({ s with datRunner := tasks }.postUi
      (.onReadCachedDATFiles (s.datFiles true) (s.datFiles false))).stages engine =
        [.read (files engine)] := by
    cases engine <;> simp [stages, postUi, hnone, hui, hrunner, ServiceTask.stage, hfiles]
  rw [hposted]
  show CacheProgress lib _ _ (s.runsOf engine) (s.outcomesOf engine)
  rw [houtcomes]
  exact .underway ⟨rfl, hruns⟩

theorem CacheInv.write (h : CacheInv lib files s) {dat : DATFileDataBuffer}
    {tasks : List DATCacheTask} (hdatRunner : s.datRunner = .writeDATFile engine dat :: tasks)
    (datFiles : Bool → Option DATFileDataBuffer) :
    CacheInv lib files { s with datRunner := tasks, datFiles := datFiles } := by
  have hstages : s.datRunner.filterMap DATCacheTask.stage =
      tasks.filterMap DATCacheTask.stage := by
    simp [hdatRunner, Queue.filterMap_head, DATCacheTask.stage]
  refine ⟨.inl ?_, fun e => SameCache.progress (s := s) ⟨?_, rfl, rfl⟩ (h.progress e),
    h.forces⟩
  · rcases h.readsFirst with hdone | ⟨-, rest, hread, -⟩
    · exact hstages.symm.trans hdone
    · exact absurd (hdatRunner.symm.trans hread) (by simp)
  · simp only [stages, hstages]

theorem CacheInv.reply (h : CacheInv lib files s)
    {defaultDat additionalDat : Option DATFileDataBuffer} {tasks : List ServiceTask}
    (hui : s.ui = .onReadCachedDATFiles defaultDat additionalDat :: tasks) :
    CacheInv lib files
      ({ s with ui := tasks }.onReadCachedDATFiles lib defaultDat additionalDat) := by
  have htaken : ∀ engine, { s with ui := tasks }.stages engine = [] ∧ s.outcomesOf engine = [] ∧
      (if engine then defaultDat else additionalDat) = files engine ∧ s.runsOf engine = [] :=
    fun engine => h.takeUi hui rfl
  have hdefault := onReadCachedDATFile_progress (s := { s with ui := tasks }) lib true defaultDat
    (htaken true).1 (htaken true).2.2.2 (htaken true).2.1
  have hother : SameCache false { s with ui := tasks }
      ({ s with ui := tasks }.onReadCachedDATFile lib true defaultDat) :=
    onReadCachedDATFile_sameCache defaultDat (by simp)
  refine ⟨?_, fun engine => ?_, ?_⟩
  · exact onReadCachedDATFile_readsFirst _ _ (onReadCachedDATFile_readsFirst _ _ h.readsFirst)
  · cases engine with
    | true =>
      rw [← (htaken true).2.2.1]
      exact (onReadCachedDATFile_sameCache additionalDat (by simp)).progress hdefault
    | false =>
      rw [← (htaken false).2.2.1]
      exact onReadCachedDATFile_progress lib false additionalDat
        (hother.stages.trans (htaken false).1) (hother.runs.trans (htaken false).2.2.2)
        (hother.outcomes.trans (htaken false).2.1)
  · exact onReadCachedDATFile_forcesFailed _ _ (onReadCachedDATFile_forcesFailed _ _ h.forces)

theorem CacheInv.loaded (h : CacheInv lib files s) {success : Bool} {tasks : List ServiceTask}
    (hui : s.ui = .onDATLoaded engine success :: tasks) :
    CacheInv lib files ({ s with ui := tasks }.onDATLoaded engine success) := by
  refine CacheInv.frame (s := { s with ui := tasks }.logDATLoaded engine success) ?_
    (cacheFrame_onDATLoaded engine success)
  refine ⟨logDATLoaded_readsFirst (s := { s with ui := tasks }) success h.readsFirst, fun e => ?_,
    logDATLoaded_forcesFailed (s := { s with ui := tasks }) success h.forces⟩
  by_cases he : engine = e
  · subst he
    obtain ⟨hrest, houtcomes, run, hruns, hdat, hends⟩ := h.takeUi hui (if_pos rfl)
    have htold : ({ s with ui := tasks }.logDATLoaded engine success).outcomesOf engine =
        [success] := by
      refine logDATLoaded_outcomes (s := { s with ui := tasks }) success |>.trans ?_
      exact congrArg (· ++ [success]) houtcomes
    show CacheProgress lib _ ({ s with ui := tasks }.stages engine) (s.runsOf engine) _
    rw [hrest, hruns, htold]
    exact .told hdat hends
  · exact ((sameCache_popUi hui (if_neg he)).trans (logDATLoaded_sameCache success he)).progress
      (h.progress e)

theorem loadDAT_success (loaded : LoadedEngine ρ σ) (dat : DATFileDataBuffer) (storage : σ) :
    (loaded.loadDAT lib dat storage).2 =
      decide (dat = [] ∨ (lib.deserialize dat).isSome = true) := by
  by_cases hdat : dat = []
  · simp [LoadedEngine.loadDAT, hdat]
  · cases hclient : lib.deserialize dat <;>
      simp [LoadedEngine.loadDAT, LoadedEngine.onDATLoaded, hdat, hclient]

theorem CacheInv.load (h : CacheInv lib files s) {filterSet : Option FilterSet} {storage : σ}
    {tasks : List (EngineTask σ)} (hrunner : s.runner = .load engine filterSet storage :: tasks) :
    CacheInv lib files ({ s with runner := tasks }.runLoad lib engine filterSet storage) := by
  have hreplied : ∀ (engines : Bool → LoadedEngine ρ σ) (listLoaded : Bool → Bool)
      (task : ServiceTask), (∀ e, task.stage e = none) → CacheInv lib files
        { s with
          runner := tasks
          engines := engines
          listLoaded := listLoaded
          ui := s.ui ++ [task] } := by
    intro engines listLoaded task htask
    refine ⟨h.readsFirst, fun e => ?_, h.forces⟩
    refine SameCache.progress (s := s) ⟨?_, rfl, rfl⟩ (h.progress e)
    simp [stages, hrunner, Queue.filterMap_head, EngineTask.stage, htask]
  unfold runLoad
  split
  · exact hreplied _ _ _ fun _ => rfl
  · refine hreplied _ _ _ fun _ => ?_
    unfold loadReply
    split_ifs <;> rfl

theorem CacheInv.loadDAT (h : CacheInv lib files s) {dat : DATFileDataBuffer} {storage : σ}
    {tasks : List (EngineTask σ)} (hrunner : s.runner = .loadDAT engine dat storage :: tasks) :
    CacheInv lib files ({ s with runner := tasks }.runLoadDAT lib engine dat storage) := by
  refine ⟨h.readsFirst, fun e => ?_, h.forces⟩
  by_cases he : engine = e
  · subst he
    obtain ⟨hrest, houtcomes, hdat, hruns⟩ := h.takeRunner hrunner (if_pos rfl)
    have hposted : ({ s with runner := tasks }.runLoadDAT lib engine dat storage).stages engine =
        [.loaded ((s.engines engine).loadDAT lib dat storage).2] := by
      simp only [stages, List.append_eq_nil_iff] at hrest
      simp [stages, runLoadDAT, ServiceTask.stage, hrest]
    have hrun : ({ s with runner := tasks }.runLoadDAT lib engine dat storage).runsOf engine =
        [⟨engine, dat, (s.engines engine).rules,
          ((s.engines engine).loadDAT lib dat storage).1.rules⟩] := by
      simpa [runsOf, runLoadDAT] using hruns
    show CacheProgress lib _ _ _ (s.outcomesOf engine)
    rw [hposted, hrun, houtcomes]
    exact .underway ⟨_, rfl, hdat, loadDAT_success _ _ _, loadDAT_rules _ _ _⟩
  · refine SameCache.progress (s := s) ⟨?_, ?_, rfl⟩ (h.progress e)
    · simp [stages, runLoadDAT, hrunner, ServiceTask.stage, EngineTask.stage, he]
    · simp [runsOf, runLoadDAT, he]

theorem CacheInv.step (h : CacheInv lib files s) {e : LoadEvent σ} (henabled : s.enabled e) :
    CacheInv lib files (s.step lib e) := by
  cases serviceStep_cases lib henabled with
  | lists hframe => exact h.frame hframe.cacheFrame
  | listTask hui hlists hframe =>
    exact h.frame ((cacheFrame_popUi hui hlists.stage).trans hframe.cacheFrame)
  | engineLoaded hui hstep =>
    rw [hstep]
    exact h.frame ((cacheFrame_popUi hui fun _ => rfl).trans (cacheFrame_onEngineLoaded _ _ _))
  | readFiles hdatRunner hstep => exact hstep ▸ h.read hdatRunner
  | writeFile hevent hdatRunner hstep => exact hstep ▸ h.write hdatRunner _
  | cachedFiles hevent hui hstep => exact hstep ▸ h.reply hui
  | datLoaded hui hstep => exact hstep ▸ h.loaded hui
  | @engineTask task tasks hevent hrunner hstep =>
    rw [hstep]
    cases task with
    | createFilterSet engine results =>
      refine ⟨h.readsFirst, fun e => ?_, h.forces⟩
      refine SameCache.progress (s := s) ⟨?_, rfl, rfl⟩ (h.progress e)
      simp [stages, runEngineTask, postUi, hrunner, Queue.filterMap_head, EngineTask.stage,
        ServiceTask.stage]
    | load engine filterSet storage => exact h.load hrunner
    | loadDAT engine dat storage => exact h.loadDAT hrunner

theorem cacheInv_init (files : Bool → Option DATFileDataBuffer) :
    CacheInv lib files (init lib true files) where
  readsFirst := .inr ⟨rfl, [], rfl, rfl⟩
  progress _ := .underway rfl
  forces := rfl

theorem cacheInv_of_run {es : List (LoadEvent σ)}
    (run : Run (machine lib) (init lib true files) es s) : CacheInv lib files s := by
  refine run.preserves ?_ (cacheInv_init files)
  intro s e s' henabled hstep h
  obtain rfl := Except.ok.inj hstep
  exact h.step henabled

/-- What is told of the cached rules of an engine, in a state of a run. -/
structure CacheHandled (lib : AdblockRust ρ σ) (files : Bool → Option DATFileDataBuffer)
    (s : AdBlockService ρ σ) (engine : Bool) : Prop where
  /-- A success that is told is that of rules from the file. -/
  replaced : (engine, true) ∈ s.datLoaded → ∃ run ∈ s.datRuns, run.isDefaultEngine = engine ∧
    files engine = some run.dat ∧ lib.deserialize run.dat = some run.after
  /-- Else the engine keeps its rules, and its filter lists are asked for. -/
  kept : (engine, false) ∈ s.datLoaded → s.forced.count engine = 1 ∧
    ∀ run ∈ s.datRuns, run.isDefaultEngine = engine → run.after = run.before
  /-- The filter lists are asked for on no other ground. -/
  forced : engine ∈ s.forced → (engine, false) ∈ s.datLoaded
  /-- Once nothing is under way, an outcome was told. -/
  told : s.stages engine = [] → (s.outcomesOf engine).length = 1

theorem mem_datLoaded {success : Bool} :
    (engine, success) ∈ s.datLoaded ↔ success ∈ s.outcomesOf engine := by
  simp [outcomesOf]

theorem mem_datRuns {run : DATRun ρ} :
    run ∈ s.datRuns ∧ run.isDefaultEngine = engine ↔ run ∈ s.runsOf engine := by
  simp [runsOf]

theorem ForcesFailed.count (h : s.ForcesFailed) :
    s.forced.count engine = (s.outcomesOf engine).count false := by
  have hforced : s.forced = (s.datLoaded.filter (!·.2)).map (·.1) := h
  rw [hforced, outcomesOf]
  induction s.datLoaded with
  | nil => rfl
  | cons outcome outcomes ih =>
    obtain ⟨e, success⟩ := outcome
    cases success <;> by_cases he : e = engine <;> simp [he, ih]

theorem CacheInv.handled (h : CacheInv lib files s) (hfile : files engine ≠ some []) :
    CacheHandled lib files s engine := by
  have hprogress := h.progress engine
  have hcount : s.forced.count engine = (s.outcomesOf engine).count false := h.forces.count
  have hforced : engine ∈ s.forced ↔ false ∈ s.outcomesOf engine := by
    rw [← List.count_pos_iff, hcount, List.count_pos_iff]
  generalize hstages : s.stages engine = stages at hprogress
  generalize hruns : s.runsOf engine = runs at hprogress
  generalize houtcomes : s.outcomesOf engine = outcomes at hprogress hcount hforced
  have hkept : (∀ run ∈ runs, run.after = run.before) →
      ∀ run ∈ s.datRuns, run.isDefaultEngine = engine → run.after = run.before := by
    intro hkept run hrun hengine
    exact hkept run (hruns ▸ mem_datRuns.mp ⟨hrun, hengine⟩)
  cases hprogress with
  | underway fits =>
    exact ⟨by simp [mem_datLoaded, houtcomes], by simp [mem_datLoaded, houtcomes],
      by simp [hforced], by simp [hstages]⟩
  | missing none =>
    exact ⟨by simp [mem_datLoaded, houtcomes], fun _ => ⟨hcount, hkept (by simp)⟩,
      by simp [mem_datLoaded, houtcomes], by simp [houtcomes]⟩
  | @told run success hdat ends =>
    have hrun := mem_datRuns.mpr (hruns ▸ List.mem_singleton_self run)
    refine ⟨fun hsuccess => ?_, fun hfailure => ?_, ?_, by simp [houtcomes]⟩
    · obtain rfl : true = success := by simpa [mem_datLoaded, houtcomes] using hsuccess
      refine ⟨run, hrun.1, hrun.2, hdat, ends.replaced fun hnil => hfile ?_⟩
      rw [hdat, hnil]
    · obtain rfl : false = success := by simpa [mem_datLoaded, houtcomes] using hfailure
      exact ⟨hcount, hkept (by simpa using ends.kept)⟩
    · simp [hforced, mem_datLoaded, houtcomes]

theorem runner_run (hrunner : s.runner ≠ []) :
    Run (machine lib) s [.runRunner] (s.runRunner lib) :=
  .single hrunner rfl

theorem ui_run (hui : s.ui ≠ []) (hobserved : ∀ engine, (s.manager engine).observed = true) :
    Run (machine lib) s [.runUi] (s.runUi lib) :=
  .single ⟨hui, hobserved⟩ rfl

/-- The state after the observers are made, and the cache is read. -/
def cacheRead (lib : AdblockRust ρ σ) (files : Bool → Option DATFileDataBuffer) :
    AdBlockService ρ σ :=
  ((((init lib true files).addObserver true).addObserver false).runDATRunner true).runUi lib

theorem cacheRead_run (lib : AdblockRust ρ σ) (files : Bool → Option DATFileDataBuffer) :
    Run (machine lib) (init lib true files)
      [.addObserver true, .addObserver false, .runDATRunner true, .runUi] (cacheRead lib files) :=
  .cons rfl rfl (.cons rfl rfl (.cons (List.cons_ne_nil _ _) rfl
    (ui_run (List.cons_ne_nil _ _) (Bool.rec rfl rfl))))

/-- A success is told of an empty file of the default engine, which is loaded first. -/
theorem empty_default_told (lib : AdblockRust ρ σ) (other : Option DATFileDataBuffer) :
    ∃ es s, Run (machine lib) (init lib true fun engine => if engine then some [] else other) es s ∧
      (true, true) ∈ s.datLoaded := by
  cases other with
  | none =>
    have hloaded := (cacheRead_run lib fun engine => if engine then some [] else none).append
      ((runner_run (List.cons_ne_nil _ _)).append
        (ui_run (List.cons_ne_nil _ _) (Bool.rec rfl rfl)))
    exact ⟨_, _, hloaded, .tail _ (.head _)⟩
  | some dat =>
    have hloaded := (cacheRead_run lib fun engine => if engine then some [] else some dat).append
      ((runner_run (List.cons_ne_nil _ _)).append
        (ui_run (List.cons_ne_nil _ _) (Bool.rec rfl rfl)))
    exact ⟨_, _, hloaded, .head _⟩

theorem told_behind (lib : AdblockRust ρ σ) (engine other : Bool) {success : Bool}
    {tasks : List ServiceTask}
    (hui : s.ui = .onDATLoaded other success :: .onDATLoaded engine true :: tasks)
    (hobserved : ∀ engine, (s.manager engine).observed = true)
    (hsuppress : (s.manager other).suppressStartupChangeNotification = true) :
    ∃ es s', Run (machine lib) s es s' ∧ (engine, true) ∈ s'.datLoaded := by
  have hnext : (s.runUi lib).ui = .onDATLoaded engine true :: tasks ∧
      ∀ engine, ((s.runUi lib).manager engine).observed = true := by
    cases success with
    | true => simpa [runUi, hui, runUiTask, onDATLoaded, notifyDATLoaded] using hobserved
    | false =>
      have hforce := EngineProviders.forceNotifyObserver_of_suppressed hsuppress
      have hnext : s.runUi lib = { s with
          ui := .onDATLoaded engine true :: tasks
          forced := s.forced ++ [other]
          datLoaded := s.datLoaded ++ [(other, false)] }.withProviders other
            { s.manager other with suppressStartupChangeNotification := false } := by
        simp [runUi, hui, runUiTask, onDATLoaded, forceNotifyObserver, tell, hforce, withProviders,
          notifyDATLoaded]
      rw [hnext]
      refine ⟨rfl, fun e => ?_⟩
      by_cases he : e = other
      · subst he
        simpa [withProviders] using hobserved e
      · simpa [withProviders, he] using hobserved e
  refine ⟨_, _, (ui_run (by simp [hui]) hobserved).append (ui_run (by simp [hnext.1]) hnext.2), ?_⟩
  rw [runUi]
  simp [hnext.1, runUiTask, onDATLoaded, notifyDATLoaded]

theorem empty_additional_told (lib : AdblockRust ρ σ) (other : Option DATFileDataBuffer) :
    ∃ es s, Run (machine lib) (init lib true fun engine => if engine then other else some []) es s ∧
      (false, true) ∈ s.datLoaded := by
  cases other with
  | none =>
    have hloaded := (cacheRead_run lib fun engine => if engine then none else some []).append
      ((runner_run (List.cons_ne_nil _ _)).append
        (ui_run (List.cons_ne_nil _ _) (Bool.rec rfl rfl)))
    exact ⟨_, _, hloaded, .tail _ (.head _)⟩
  | some dat =>
    have hloaded := (cacheRead_run lib fun engine => if engine then some dat else some []).append
      ((runner_run (List.cons_ne_nil _ _)).append (runner_run (List.cons_ne_nil _ _)))
    obtain ⟨es, s, htold, hmem⟩ := told_behind lib false true
      (s := ((cacheRead lib fun engine => if engine then some dat else some []).runRunner
        lib).runRunner lib) rfl (Bool.rec rfl rfl) rfl
    exact ⟨_, s, hloaded.append htold, hmem⟩

theorem empty_told (lib : AdblockRust ρ σ) (hfile : files engine = some []) :
    ∃ es s, Run (machine lib) (init lib true files) es s ∧ (engine, true) ∈ s.datLoaded := by
  cases engine with
  | true =>
    have hfiles : (fun engine => if engine then some [] else files false) = files := by
      ext1 (_ | _) <;> simp [hfile]
    exact hfiles ▸ empty_default_told lib (files false)
  | false =>
    have hfiles : (fun engine => if engine then files true else some []) = files := by
      ext1 (_ | _) <;> simp [hfile]
    exact hfiles ▸ empty_additional_told lib (files true)

/-- What is told of the cached rules of an engine is right if its file is not an empty one. -/
theorem cache_handled_iff (lib : AdblockRust ρ σ) (files : Bool → Option DATFileDataBuffer)
    (engine : Bool) :
    (∀ es s, Run (machine lib) (init lib true files) es s → CacheHandled lib files s engine) ↔
      files engine ≠ some [] := by
  constructor
  · intro hhandled hempty
    obtain ⟨es, s, run, htold⟩ := empty_told lib hempty
    obtain ⟨datRun, -, -, hdat, hclient⟩ := (hhandled es s run).replaced htold
    have hnil : datRun.dat = [] := by simpa [hempty] using hdat.symm
    rw [hnil, lib.deserialize_nil] at hclient
    contradiction
  · intro hfile es s run
    exact (cacheInv_of_run run).handled hfile

/-- The file of the default engine is empty, and that of the additional engine is missing. -/
def emptyCache : Bool → Option DATFileDataBuffer := fun engine => if engine then some [] else none

/-- The empty file is told as a success, and the first change of the default lists is swallowed:
no filter set is asked for. -/
theorem empty_cache_counted :
    ∃ s, Run (machine bytesEngine) (init bytesEngine true emptyCache)
        [.createProvider true 0 .file false, .addObserver true, .addObserver false,
          .runDATRunner true, .runUi, .runRunner, .runUi, .providerInitialized true 0,
          .providerChanged true 0] s ∧
      (true, true) ∈ s.datLoaded ∧ (∀ run ∈ s.datRuns, run.after = run.before) ∧
      true ∉ s.forced ∧ s.nextLoad = 0 ∧ ¬CacheHandled bytesEngine emptyCache s true := by
  obtain ⟨s, run, hs⟩ := Machine.exists_run (machine bytesEngine)
    (init bytesEngine true emptyCache)
    [.createProvider true 0 .file false, .addObserver true, .addObserver false,
      .runDATRunner true, .runUi, .runRunner, .runUi, .providerInitialized true 0,
      .providerChanged true 0]
    (fun s => decide ((true, true) ∈ s.datLoaded ∧ (∀ run ∈ s.datRuns, run.after = run.before) ∧
      true ∉ s.forced ∧ s.nextLoad = 0)) (by decide)
  obtain ⟨htold, hkept, hforced, hnone⟩ := of_decide_eq_true hs
  refine ⟨s, run, htold, hkept, hforced, hnone, fun hhandled => ?_⟩
  obtain ⟨datRun, -, -, hdat, hclient⟩ := hhandled.replaced htold
  rw [← Option.some.inj hdat] at hclient
  contradiction

end AdBlockService

end ChromiumAdblock
