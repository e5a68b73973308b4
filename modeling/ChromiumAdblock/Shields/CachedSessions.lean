import ChromiumAdblock.Shields.CacheOutcomes

/-! The cached rules over sessions.  What the last filter set of an engine was made into is
serialized and written to its file, and the next session starts with it.  A session may end at any
time, and then what its runners had to do is lost. -/

namespace ChromiumAdblock

open EventMachine

/-- The rules of an engine that a task is about to have written to disk. -/
def ServiceTask.carried (engine : Bool) : ServiceTask → Option DATFileDataBuffer
  | onEngineLoaded e _ (some dat) => if e = engine ∧ dat ≠ [] then some dat else none
  | onEngineLoaded _ _ none | loadFilterSet _ _ | runCallback _ _ | onDATFileDataReady _ _ _
  | onFilterSetCreated _ _ | onReadCachedDATFiles _ _ | onDATLoaded _ _ => none

def DATCacheTask.written (engine : Bool) : DATCacheTask → Option DATFileDataBuffer
  | writeDATFile e dat => if e = engine then some dat else none
  | readCachedDATFilesFromDisk => none

theorem ServiceTask.OfLists.carried {task : ServiceTask} (h : task.OfLists) (engine : Bool) :
    task.carried engine = none := by
  cases task <;> first | rfl | exact h.elim

namespace AdBlockService

variable {ρ σ : Type}

/-- The rules of an engine on their way to its file, from the next that is written. -/
def pipeline (s : AdBlockService ρ σ) (engine : Bool) : List DATFileDataBuffer :=
  s.datRunner.filterMap (DATCacheTask.written engine) ++ s.ui.filterMap (ServiceTask.carried engine)

theorem getLast?_cons_or {α : Type} (x : α) (rest : List α) (other : Option α) :
    (x :: rest).getLast?.or other = rest.getLast?.or (some x) := by
  rw [List.getLast?_cons]
  cases rest.getLast? <;> rfl

/-- What the file of an engine holds once all of them are written. -/
def newestDat (s : AdBlockService ρ σ) (engine : Bool) : Option DATFileDataBuffer :=
  (s.pipeline engine).getLast?.or (s.datFiles engine)

/-- The files and the rules of the engines, and how the engines got them. -/
def datParts (s : AdBlockService ρ σ) :=
  (s.kAdblockDATCache, s.datFiles, s.engines, s.listLoaded, s.datRuns)

/-- A step, or a part of one, that neither loads rules nor writes them. -/
structure KeepsDats (s s' : AdBlockService ρ σ) : Prop where
  pipeline : ∀ engine, s'.pipeline engine = s.pipeline engine
  parts : s'.datParts = s.datParts

variable {lib : AdblockRust ρ σ} {engine : Bool} {s s' s'' : AdBlockService ρ σ}

theorem KeepsDats.refl (s : AdBlockService ρ σ) : KeepsDats s s := ⟨fun _ => rfl, rfl⟩

theorem KeepsDats.trans (first : KeepsDats s s') (second : KeepsDats s' s'') : KeepsDats s s'' :=
  ⟨fun engine => (second.pipeline engine).trans (first.pipeline engine),
    second.parts.trans first.parts⟩

theorem ListFrame.keepsDats (h : ListFrame s s') : KeepsDats s s' := by
  obtain ⟨tasks, hui, htasks⟩ := h.ui
  have hparts := h.parts
  simp only [cacheParts, Prod.mk.injEq] at hparts
  obtain ⟨hcache, hdatRunner, hdatFiles, hengines, hdatRuns, hlistLoaded, -⟩ := hparts
  refine ⟨fun engine => ?_, by simp only [datParts, *]⟩
  have hnone : tasks.filterMap (ServiceTask.carried engine) = [] :=
    filterMap_nil_of fun task hmem => (htasks task hmem).carried engine
  rw [AdBlockService.pipeline, hui, hdatRunner, List.filterMap_append, hnone, List.append_nil,
    AdBlockService.pipeline]

/-- The UI thread takes a task that carries no rules. -/
theorem keepsDats_popUi {task : ServiceTask} {tasks : List ServiceTask} (hui : s.ui = task :: tasks)
    (hnone : ∀ engine, task.carried engine = none) : KeepsDats s { s with ui := tasks } :=
  ⟨fun engine => by simp [AdBlockService.pipeline, hui, hnone], rfl⟩

theorem keepsDats_onDATLoaded (engine success : Bool) :
    KeepsDats s (s.onDATLoaded engine success) := by
  have hnotify : ∀ t : AdBlockService ρ σ, KeepsDats t (t.notifyDATLoaded engine success) :=
    fun _ => ⟨fun _ => rfl, rfl⟩
  cases success with
  | true => exact hnotify s
  | false =>
    have hforced : KeepsDats s { s with forced := s.forced ++ [engine] } := ⟨fun _ => rfl, rfl⟩
    exact (hforced.trans (listFrame_tell engine _).keepsDats).trans (hnotify _)

theorem keepsDats_onReadCachedDATFile (lib : AdblockRust ρ σ) (engine : Bool)
    (file : Option DATFileDataBuffer) : KeepsDats s (s.onReadCachedDATFile lib engine file) := by
  cases file with
  | none => exact keepsDats_onDATLoaded engine false
  | some dat => exact ⟨fun _ => rfl, rfl⟩

/-- `OnEngineLoaded` hands rules on to the runner of the cache. -/
theorem keepsDats_onEngineLoaded {result : FilterListLoadResult}
    {serializedDat : Option DATFileDataBuffer} {tasks : List ServiceTask}
    (hui : s.ui = .onEngineLoaded engine result serializedDat :: tasks) :
    KeepsDats s ({ s with ui := tasks }.onEngineLoaded engine result serializedDat) := by
  unfold onEngineLoaded
  split
  · exact ⟨fun e => by simp [AdBlockService.pipeline, hui, ServiceTask.carried,
      List.filterMap_cons], rfl⟩
  · rename_i dat
    split
    · rename_i hdat
      exact ⟨fun e => by simp [AdBlockService.pipeline, hui, ServiceTask.carried, hdat], rfl⟩
    · rename_i hdat
      refine ⟨fun e => ?_, rfl⟩
      by_cases he : engine = e <;>
        simp [AdBlockService.pipeline, hui, ServiceTask.carried, DATCacheTask.written, he, hdat]

/-- What an event does with the rules of the engines and their files. -/
inductive DatStep (lib : AdblockRust ρ σ) (s : AdBlockService ρ σ) (e : LoadEvent σ) : Prop
  | keeps (keeps : KeepsDats s (s.step lib e))
  | write {ok engine : Bool} {dat : DATFileDataBuffer} {tasks : List DATCacheTask}
    (event : e = .runDATRunner ok) (datRunner : s.datRunner = .writeDATFile engine dat :: tasks)
    (step : s.step lib e =
      { s with
        datRunner := tasks
        datFiles := if ok then Function.update s.datFiles engine (some dat) else s.datFiles })
  | load {engine : Bool} {filterSet : Option FilterSet} {storage : σ} {tasks : List (EngineTask σ)}
    (event : e = .runRunner) (runner : s.runner = .load engine filterSet storage :: tasks)
    (step : s.step lib e = { s with runner := tasks }.runLoad lib engine filterSet storage)
  | loadDAT {engine : Bool} {dat : DATFileDataBuffer} {storage : σ} {tasks : List (EngineTask σ)}
    (runner : s.runner = .loadDAT engine dat storage :: tasks)
    (step : s.step lib e = { s with runner := tasks }.runLoadDAT lib engine dat storage)

theorem datStep_cases (lib : AdblockRust ρ σ) {e : LoadEvent σ} (henabled : s.enabled e) :
    DatStep lib s e := by
  cases serviceStep_cases lib henabled with
  | lists hframe => exact .keeps hframe.keepsDats
  | listTask hui hlists hframe =>
    exact .keeps ((keepsDats_popUi hui hlists.carried).trans hframe.keepsDats)
  | @cachedFiles defaultDat additionalDat tasks hevent hui hstep =>
    refine .keeps (hstep ▸ (keepsDats_popUi hui fun _ => rfl).trans ?_)
    exact (keepsDats_onReadCachedDATFile lib true defaultDat).trans
      (keepsDats_onReadCachedDATFile lib false additionalDat)
  | @datLoaded engine success tasks hui hstep =>
    exact .keeps (hstep ▸ (keepsDats_popUi hui fun _ => rfl).trans
      (keepsDats_onDATLoaded engine success))
  | engineLoaded hui hstep => exact .keeps (hstep ▸ keepsDats_onEngineLoaded hui)
  | readFiles hdatRunner hstep =>
    refine .keeps ⟨fun engine => ?_, ?_⟩ <;>
      simp [hstep, hdatRunner, AdBlockService.pipeline, postUi, ServiceTask.carried,
        DATCacheTask.written, datParts, List.filterMap_cons]
  | writeFile hevent hdatRunner hstep => exact .write hevent hdatRunner hstep
  | @engineTask task tasks hevent hrunner hstep =>
    cases task with
    | createFilterSet engine results =>
      have hposted : ListFrame { s with runner := tasks }
          ({ s with runner := tasks }.postUi (.onFilterSetCreated engine results)) :=
        .of_ui _ rfl (by simp [ServiceTask.OfLists]) rfl rfl
      exact .keeps ⟨hstep ▸ hposted.keepsDats.pipeline, hstep ▸ hposted.keepsDats.parts⟩
    | load engine filterSet storage => exact .load hevent hrunner hstep
    | loadDAT engine dat storage => exact .loadDAT hrunner hstep

theorem KeepsDats.datFiles (h : KeepsDats s s') : s'.datFiles = s.datFiles :=
  congrArg (·.2.1) h.parts

theorem KeepsDats.engines (h : KeepsDats s s') : s'.engines = s.engines :=
  congrArg (·.2.2.1) h.parts

theorem KeepsDats.listLoaded (h : KeepsDats s s') : s'.listLoaded = s.listLoaded :=
  congrArg (·.2.2.2.1) h.parts

theorem KeepsDats.runsOf (h : KeepsDats s s') (engine : Bool) :
    s'.runsOf engine = s.runsOf engine :=
  congrArg (fun parts => parts.2.2.2.2.filter (·.isDefaultEngine == engine)) h.parts

section Write

/-- The last filter set of an engine that was loaded stays the last one, and the last of the rules
that are to be written is written with success. -/
def keepsNewest (lib : AdblockRust ρ σ) (engine : Bool) (s : AdBlockService ρ σ) :
    LoadEvent σ → Prop
  | .runRunner => ∀ task ∈ s.runner.head?, ¬task.LoadsList lib engine
  | .runDATRunner ok => ok = true ∨ ∀ task ∈ s.datRunner.head?,
    (task.written engine).isSome = true → (s.pipeline engine).length ≠ 1
  | _ => True

theorem kAdblockDATCache_step (lib : AdblockRust ρ σ) {e : LoadEvent σ} (henabled : s.enabled e) :
    (s.step lib e).kAdblockDATCache = s.kAdblockDATCache := by
  cases datStep_cases lib henabled with
  | keeps hkeeps => exact congrArg (·.1) hkeeps.parts
  | write hevent hdatRunner hstep => rw [hstep]
  | load hevent hrunner hstep =>
    rw [hstep, runLoad]
    split <;> rfl
  | loadDAT hrunner hstep => rw [hstep, runLoadDAT]

/-- The task of a `Load` that makes nothing into the rules of an engine. -/
theorem runLoad_quiet {other : Bool} {filterSet : Option FilterSet} {storage : σ}
    (h : ¬(EngineTask.load other filterSet storage).LoadsList lib engine) :
    (s.runLoad lib other filterSet storage).pipeline engine = s.pipeline engine ∧
      (s.runLoad lib other filterSet storage).datFiles = s.datFiles ∧
      ((s.runLoad lib other filterSet storage).engines engine).rules =
        (s.engines engine).rules ∧
      (s.runLoad lib other filterSet storage).datRuns = s.datRuns := by
  cases filterSet with
  | none =>
    refine ⟨?_, rfl, ?_, rfl⟩
    · simp [runLoad, LoadedEngine.load, loadReply, AdBlockService.pipeline, ServiceTask.carried]
    · by_cases hother : engine = other <;>
        simp [runLoad, LoadedEngine.load, LoadedEngine.useResources, hother]
  | some filterSet =>
    cases hclient : lib.engineFromFilterSet filterSet with
    | none =>
      have hload : (s.engines other).load lib (some filterSet) storage =
          (s.engines other, false) := by
        simp [LoadedEngine.load, LoadedEngine.onFilterSetLoaded, hclient]
      simp [runLoad, hload, AdBlockService.pipeline, ServiceTask.carried]
    | some client =>
      have hne : other ≠ engine := fun heq => h ⟨heq, by simp [hclient]⟩
      have hload : (s.engines other).load lib (some filterSet) storage =
          ((s.engines other).updateAdBlockClient client storage, true) := by
        simp [LoadedEngine.load, LoadedEngine.onFilterSetLoaded, hclient]
      have hreply : ∀ rules, (s.loadReply lib other (some filterSet) rules).carried engine =
          none := by
        intro rules
        unfold loadReply
        split
        · rfl
        · split <;> simp [ServiceTask.carried, hne]
      simp [runLoad, hload, AdBlockService.pipeline, hreply, hne.symm]

/-- One of the rules of an engine is written, or not. -/
theorem newestDat_write {other ok : Bool} {dat : DATFileDataBuffer} {tasks : List DATCacheTask}
    (hdatRunner : s.datRunner = .writeDATFile other dat :: tasks)
    (hok : ok = true ∨ (other = engine → (s.pipeline engine).length ≠ 1)) :
    ({ s with
        datRunner := tasks
        datFiles := if ok then Function.update s.datFiles other (some dat) else
          s.datFiles } : AdBlockService ρ σ).newestDat engine = s.newestDat engine := by
  by_cases hother : other = engine
  · subst hother
    have hwritten : (DATCacheTask.writeDATFile other dat).written other = some dat := by
      simp [DATCacheTask.written]
    have hpipeline : s.pipeline other = dat :: { s with datRunner := tasks }.pipeline other := by
      rw [AdBlockService.pipeline, hdatRunner, List.filterMap_cons_some hwritten]
      rfl
    rw [newestDat, newestDat, hpipeline, getLast?_cons_or]
    cases ok with
    | true => simp [AdBlockService.pipeline]
    | false =>
      -- The file keeps what it held, and what is written after this replaces it.
      have hlast : (s.pipeline other).length ≠ 1 := hok.resolve_left (by simp) rfl
      obtain ⟨next, rest, hrest⟩ : ∃ next rest,
          { s with datRunner := tasks }.pipeline other = next :: rest := by
        refine List.exists_cons_of_ne_nil fun hnil => hlast ?_
        rw [hpipeline, hnil, List.length_singleton]
      have hsame : ({ s with
          datRunner := tasks
          datFiles := if false then Function.update s.datFiles other (some dat) else
            s.datFiles } : AdBlockService ρ σ).pipeline other = next :: rest := hrest
      rw [hsame, hrest, List.getLast?_cons, Option.some_or, Option.some_or]
  · have hne : engine ≠ other := fun heq => hother heq.symm
    cases ok <;>
      simp [newestDat, AdBlockService.pipeline, hdatRunner, DATCacheTask.written, hother, hne]

theorem newestDat_step {e : LoadEvent σ} (henabled : s.enabled e)
    (hkeepsNewest : s.keepsNewest lib engine e) :
    (s.step lib e).newestDat engine = s.newestDat engine := by
  cases datStep_cases lib henabled with
  | keeps hkeeps => rw [newestDat, hkeeps.pipeline, hkeeps.datFiles, newestDat]
  | @write ok other dat tasks hevent hdatRunner hstep =>
    subst hevent
    rw [hstep]
    refine newestDat_write hdatRunner (hkeepsNewest.imp_right fun hlast hother => ?_)
    exact hlast (.writeDATFile other dat) (by simp [hdatRunner]) (by
      simp [DATCacheTask.written, hother])
  | @load other filterSet storage tasks hevent hrunner hstep =>
    subst hevent
    obtain ⟨hpipeline, hdatFiles, -⟩ := runLoad_quiet (s := { s with runner := tasks })
      (hkeepsNewest (.load other filterSet storage) (by simp [hrunner]))
    rw [hstep, newestDat, hpipeline, hdatFiles]
    rfl
  | loadDAT hrunner hstep =>
    rw [hstep]
    simp [runLoadDAT, newestDat, AdBlockService.pipeline, List.filterMap_append,
      ServiceTask.carried]

/-- What a filter set is made into is the next that is written. -/
theorem newestDat_load {filterSet : FilterSet} {storage : σ} {rules : ρ}
    {tasks : List (EngineTask σ)} (hcache : s.kAdblockDATCache = true)
    (hclient : lib.engineFromFilterSet filterSet = some rules) (hdat : lib.serialize rules ≠ [])
    (hrunner : s.runner = .load engine (some filterSet) storage :: tasks) :
    (s.step lib .runRunner).newestDat engine = some (lib.serialize rules) := by
  simp [step, runRunner, hrunner, runEngineTask, runLoad, LoadedEngine.load,
    LoadedEngine.onFilterSetLoaded, hclient, LoadedEngine.updateAdBlockClient,
    LoadedEngine.useResources, loadReply, hcache, newestDat, AdBlockService.pipeline,
    List.filterMap_append, ServiceTask.carried, hdat]

end Write

section Read

/-- The rules of an engine that no filter set was made into came from its file, if they came. -/
structure FromCache (lib : AdblockRust ρ σ) (file : Option DATFileDataBuffer) (engine : Bool)
    (s : AdBlockService ρ σ) : Prop where
  pipeline : s.pipeline engine = []
  datFiles : s.datFiles engine = file
  rules : (s.engines engine).rules =
    ((s.runsOf engine).getLast?.map (·.after)).getD lib.newEngine

variable {file : Option DATFileDataBuffer}

theorem FromCache.keeps (h : FromCache lib file engine s) (hkeeps : KeepsDats s s') :
    FromCache lib file engine s' where
  pipeline := by rw [hkeeps.pipeline, h.pipeline]
  datFiles := by rw [hkeeps.datFiles, h.datFiles]
  rules := by rw [hkeeps.engines, hkeeps.runsOf, h.rules]

theorem FromCache.runLoad (h : FromCache lib file engine s) {other : Bool}
    {filterSet : Option FilterSet} {storage : σ}
    (hunlisted : (s.runLoad lib other filterSet storage).listLoaded engine = false) :
    FromCache lib file engine (s.runLoad lib other filterSet storage) := by
  have hquiet : ¬(EngineTask.load other filterSet storage).LoadsList lib engine := by
    cases filterSet with
    | none => exact id
    | some filterSet =>
      rintro ⟨rfl, husable⟩
      obtain ⟨client, hclient⟩ := Option.isSome_iff_exists.mp husable
      simp [AdBlockService.runLoad, LoadedEngine.load, LoadedEngine.onFilterSetLoaded,
        hclient] at hunlisted
  obtain ⟨hpipeline, hdatFiles, hrules, hdatRuns⟩ := runLoad_quiet (s := s) hquiet
  refine ⟨by rw [hpipeline, h.pipeline], by rw [hdatFiles, h.datFiles], ?_⟩
  rw [hrules, h.rules, AdBlockService.runsOf, AdBlockService.runsOf, hdatRuns]

theorem FromCache.runLoadDAT (h : FromCache lib file engine s) (other : Bool)
    (dat : DATFileDataBuffer) (storage : σ) :
    FromCache lib file engine (s.runLoadDAT lib other dat storage) where
  pipeline := by
    simpa [AdBlockService.runLoadDAT, AdBlockService.pipeline, ServiceTask.carried] using h.pipeline
  datFiles := h.datFiles
  rules := by
    by_cases hother : other = engine
    · subst hother
      simp [AdBlockService.runLoadDAT, AdBlockService.runsOf]
    · have hne : engine ≠ other := fun heq => hother heq.symm
      simpa [AdBlockService.runLoadDAT, AdBlockService.runsOf, hother, hne] using h.rules

theorem listLoaded_step {e : LoadEvent σ} (henabled : s.enabled e)
    (hunlisted : (s.step lib e).listLoaded engine = false) : s.listLoaded engine = false := by
  cases datStep_cases lib henabled with
  | keeps hkeeps => rwa [hkeeps.listLoaded] at hunlisted
  | write hevent hdatRunner hstep => rwa [hstep] at hunlisted
  | @load other filterSet storage tasks hevent hrunner hstep =>
    rw [hstep, AdBlockService.runLoad] at hunlisted
    split at hunlisted
    · exact hunlisted
    · dsimp only at hunlisted
      split at hunlisted
      · exact hunlisted
      · by_cases hother : engine = other
        · simp [hother] at hunlisted
        · rwa [Function.update_of_ne hother] at hunlisted
  | loadDAT hrunner hstep => rwa [hstep] at hunlisted

theorem FromCache.step (h : s.listLoaded engine = false → FromCache lib file engine s)
    {e : LoadEvent σ} (henabled : s.enabled e)
    (hunlisted : (s.step lib e).listLoaded engine = false) :
    FromCache lib file engine (s.step lib e) := by
  have hbefore := h (listLoaded_step henabled hunlisted)
  have htaken : ∀ tasks, FromCache lib file engine { s with runner := tasks } := fun _ =>
    hbefore.keeps ⟨fun _ => rfl, rfl⟩
  cases datStep_cases lib henabled with
  | keeps hkeeps => exact hbefore.keeps hkeeps
  | @write ok other dat tasks hevent hdatRunner hstep =>
    have hpipeline := hbefore.pipeline
    rw [AdBlockService.pipeline, hdatRunner, List.append_eq_nil_iff] at hpipeline
    have hother : other ≠ engine := by
      rintro rfl
      simp [DATCacheTask.written] at hpipeline
    rw [hstep]
    refine ⟨?_, ?_, hbefore.rules⟩
    · simpa [AdBlockService.pipeline, DATCacheTask.written, hother] using hpipeline
    · cases ok <;> simpa [hother.symm] using hbefore.datFiles
  | load hevent hrunner hstep =>
    rw [hstep] at hunlisted ⊢
    exact (htaken _).runLoad hunlisted
  | loadDAT hrunner hstep =>
    rw [hstep]
    exact (htaken _).runLoadDAT _ _ _

theorem fromCache_of_run {files : Bool → Option DATFileDataBuffer} {es : List (LoadEvent σ)}
    (run : Run (machine lib) (init lib true files) es s)
    (hunlisted : s.listLoaded engine = false) : FromCache lib (files engine) engine s := by
  have hkept : s.listLoaded engine = false → FromCache lib (files engine) engine s := by
    refine run.preserves (P := fun t => t.listLoaded engine = false →
      FromCache lib (files engine) engine t) ?_ ?_
    · intro t e t' henabled hstep h hnow
      obtain rfl := Except.ok.inj hstep
      exact FromCache.step h henabled hnow
    · intro _
      exact ⟨rfl, rfl, rfl⟩
  exact hkept hunlisted

end Read

/-- Sessions one after the other, up to a state of the last one.  The first finds the file of an
engine, and each of the others can read what the one before it left in that file.  Those before the
last one load no filter set of the engine. -/
inductive Sessions (lib : AdblockRust ρ σ) (engine : Bool) (file : Option DATFileDataBuffer) :
    AdBlockService ρ σ → Prop
  | first {files : Bool → Option DATFileDataBuffer} {es : List (LoadEvent σ)}
    {s : AdBlockService ρ σ} (read : files engine = file)
    (run : Run (machine lib) (init lib true files) es s) : Sessions lib engine file s
  | next {files : Bool → Option DATFileDataBuffer} {es : List (LoadEvent σ)}
    {s t : AdBlockService ρ σ} (before : Sessions lib engine file s)
    (unlisted : s.listLoaded engine = false) (read : files engine = s.datFiles engine)
    (run : Run (machine lib) (init lib true files) es t) : Sessions lib engine file t

theorem Sessions.last (h : Sessions lib engine file s) :
    ∃ files es, files engine = file ∧ Run (machine lib) (init lib true files) es s := by
  induction h with
  | first hread run => exact ⟨_, _, hread, run⟩
  | next before hunlisted hread run ih =>
    obtain ⟨files, es, hfiles, hrun⟩ := ih
    have hkept := (fromCache_of_run hrun hunlisted).datFiles
    exact ⟨_, _, (hread.trans hkept).trans hfiles, run⟩

/-- Where a file holds what was serialized, its `LoadDAT` gives the engine those rules. -/
theorem rules_of_progress {rules : ρ} {stages : List CacheStage} {runs : List (DATRun ρ)}
    {outcomes : List Bool}
    (h : CacheProgress lib (some (lib.serialize rules)) stages runs outcomes)
    (hreads : lib.deserialize (lib.serialize rules) = some rules) :
    runs = [] ∧ stages ≠ [] ∨ runs.getLast?.map (·.after) = some rules := by
  have hafter : ∀ {run : DATRun ρ} {success : Bool}, some (lib.serialize rules) = some run.dat →
      run.EndsIn lib success → [run].getLast?.map (·.after) = some rules := by
    intro run success hsame hends
    simp [hends.after, ← Option.some.inj hsame, hreads]
  cases h with
  | missing hnone => contradiction
  | told hdat hends => exact .inr (hafter hdat hends)
  | @underway stage runs hfits =>
    cases stage with
    | reading => exact .inl ⟨hfits, by simp⟩
    | read file => exact .inl ⟨hfits.2, by simp⟩
    | loading dat => exact .inl ⟨hfits.2, by simp⟩
    | loaded success =>
      obtain ⟨run, rfl, hdat, hends⟩ := hfits
      exact .inr (hafter hdat hends)

/-- What the last filter set of an engine was made into in one session is what the engine starts
with in each session after it, until one loads a filter set.  The first session has to live until
the rules of the engine are written; the others may end at any time. -/
theorem last_list_returns (lib : AdblockRust ρ σ)
    (hreads : ∀ rules, lib.deserialize (lib.serialize rules) = some rules)
    {files : Bool → Option DATFileDataBuffer} {es fs : List (LoadEvent σ)}
    {s t u : AdBlockService ρ σ} {engine : Bool} {filterSet : FilterSet} {storage : σ} {rules : ρ}
    {tasks : List (EngineTask σ)} (first : Run (machine lib) (init lib true files) es s)
    (hrunner : s.runner = .load engine (some filterSet) storage :: tasks)
    (hclient : lib.engineFromFilterSet filterSet = some rules)
    (rest : Run ((machine lib).restrict (keepsNewest lib engine)) (s.step lib .runRunner) fs t)
    (hwritten : t.pipeline engine = []) (later : Sessions lib engine (t.datFiles engine) u)
    (hunlisted : u.listLoaded engine = false) :
    u.datFiles engine = some (lib.serialize rules) ∧
      ((u.engines engine).rules = lib.newEngine ∨ (u.engines engine).rules = rules) ∧
      (u.stages engine = [] → (u.engines engine).rules = rules) := by
  have hcache : s.kAdblockDATCache = true := by
    refine first.preserves (P := fun v => v.kAdblockDATCache = true) ?_ rfl
    intro v e v' henabled hstep hv
    obtain rfl := Except.ok.inj hstep
    exact (kAdblockDATCache_step lib henabled).trans hv
  have hdat : lib.serialize rules ≠ [] := by
    intro hnil
    have hread := hreads rules
    rw [hnil, lib.deserialize_nil] at hread
    contradiction
  have hnewest : t.newestDat engine = some (lib.serialize rules) := by
    refine rest.preserves (P := fun v => v.newestDat engine = some (lib.serialize rules)) ?_
      (newestDat_load hcache hclient hdat hrunner)
    rintro v e v' ⟨henabled, hkeepsNewest⟩ hstep hv
    obtain rfl := Except.ok.inj hstep
    exact (newestDat_step henabled hkeepsNewest).trans hv
  have hfile : t.datFiles engine = some (lib.serialize rules) := by
    simpa [newestDat, hwritten] using hnewest
  obtain ⟨files', es', hfiles, run⟩ := later.last
  rw [hfile] at hfiles
  have hcached := fromCache_of_run run hunlisted
  refine ⟨hcached.datFiles.trans hfiles, ?_⟩
  have hprogress := (cacheInv_of_run run).progress engine
  rw [hfiles] at hprogress
  rw [hcached.rules]
  rcases rules_of_progress hprogress (hreads rules) with ⟨hruns, hstages⟩ | hafter
  · rw [hruns]
    exact ⟨.inl rfl, fun hnone => absurd hnone hstages⟩
  · rw [hafter]
    exact ⟨.inr rfl, fun _ => rfl⟩

instance (engine : Bool) (s : AdBlockService ρ σ) : ∀ e, Decidable (s.keepsNewest lib engine e)
  | .runRunner => inferInstanceAs (Decidable (∀ task ∈ s.runner.head?, ¬task.LoadsList lib engine))
  | .runDATRunner ok => inferInstanceAs (Decidable (ok = true ∨ ∀ task ∈ s.datRunner.head?,
      (task.written engine).isSome = true → ¬(s.pipeline engine).length = 1))
  | .createProvider _ _ _ _ | .destroyProvider _ _ | .providerInitialized _ _
  | .providerChanged _ _ | .updateList _ _ _ _ | .addObserver _ | .loadFilterSetForEngine _
  | .runUi | .finishRead _ _ | .resourcesLoaded _ _ | .resourcesChanged _ =>
    inferInstanceAs (Decidable True)

/-- No session was before. -/
def noCache : Bool → Option DATFileDataBuffer := fun _ => none

/-- The custom filters are collected, and their load is posted. -/
def collectCustomFilters : List (LoadEvent Unit) :=
  startService ++ [.runUi, .runUi, .runRunner, .runUi, .resourcesLoaded 0 ()]

/-- The rules of the custom filters are written, and the files that were missing are told. -/
def writeCustomFilters : List (LoadEvent Unit) :=
  [.runUi, .runDATRunner true, .runDATRunner true, .runUi, .runUi, .runUi]

/-- The cached rules are loaded. -/
def loadCache : List (LoadEvent Unit) :=
  [.addObserver true, .addObserver false, .runDATRunner true, .runUi, .runRunner, .runUi]

/-- The third session loads the rules, when the files are those of the first. -/
def thirdLoads (t : AdBlockService DATFileDataBuffer Unit) : Bool :=
  ((machine bytesEngine).replay (init bytesEngine true t.datFiles) [.addObserver true]).any
    fun v : AdBlockService DATFileDataBuffer Unit => decide (v.listLoaded false = false) &&
      ((machine bytesEngine).replay (init bytesEngine true v.datFiles) loadCache).any
        fun u : AdBlockService DATFileDataBuffer Unit =>
          decide (u.listLoaded false = false ∧ u.stages false = [])

/-- The second session ends before it reads the files, and the third one finds the rules of the
first. -/
theorem last_list_returns_third : ∃ t v u : AdBlockService DATFileDataBuffer Unit,
    Run (machine bytesEngine) (init bytesEngine true t.datFiles) [.addObserver true] v ∧
      Run (machine bytesEngine) (init bytesEngine true v.datFiles) loadCache u ∧
      t.datFiles false = some [0xd1, 97] ∧ (u.engines false).rules = [97] := by
  obtain ⟨s, first, hs⟩ := Machine.exists_run (machine bytesEngine)
    (init bytesEngine true noCache) collectCustomFilters
    (fun s => decide (s.runner = [.load false (some [⟨0, [97], 255⟩]) ()]) &&
      (((machine bytesEngine).restrict (keepsNewest bytesEngine false)).replay
        (s.step bytesEngine .runRunner) writeCustomFilters).any
          fun t : AdBlockService DATFileDataBuffer Unit => decide
            (t.datFiles false = some [0xd1, 97] ∧ t.pipeline false = []) && thirdLoads t)
    (by decide)
  obtain ⟨hrunner, hs⟩ := Bool.and_eq_true_iff.mp hs
  obtain ⟨t, rest, ht⟩ := Machine.exists_run
    ((machine bytesEngine).restrict (keepsNewest bytesEngine false)) _ _ _ hs
  obtain ⟨hwritten, ht⟩ := Bool.and_eq_true_iff.mp ht
  obtain ⟨v, second, hv⟩ := Machine.exists_run (machine bytesEngine) _ _ _ ht
  obtain ⟨hunlisted, hv⟩ := Bool.and_eq_true_iff.mp hv
  obtain ⟨u, third, hu⟩ := Machine.exists_run (machine bytesEngine) _ _ _ hv
  obtain ⟨hfile, hdone⟩ := of_decide_eq_true hwritten
  obtain ⟨hunlisted', hstages⟩ := of_decide_eq_true hu
  obtain ⟨-, -, hrules⟩ := last_list_returns bytesEngine (fun _ => rfl) first
    (of_decide_eq_true hrunner) rfl rest hdone
    (.next (.first rfl second) (of_decide_eq_true hunlisted) rfl third) hunlisted'
  exact ⟨t, v, u, second, third, hfile, hrules hstages⟩

end AdBlockService

end ChromiumAdblock
