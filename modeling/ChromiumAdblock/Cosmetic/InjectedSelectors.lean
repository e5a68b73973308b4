import ChromiumAdblock.Cosmetic.GenericHiding

/-! No name is lost between the document and the engines, and no selector on the way back.  What the
script passed on in a document is what was answered and then what is under way, name by name; and
each selector of an answer is in a stylesheet of the document. -/

namespace ChromiumAdblock

open EventMachine SendOnce

namespace SelectorQueries

variable {ν : Type} {config : SelectorsConfig} {dom : Dom ν} {s t u : SelectorQueries ν}

/-- Only more was passed on. -/
structure SentMore (s t : SelectorQueries ν) : Prop where
  ids : s.ids.sent <+: t.ids.sent
  classes : s.classes.sent <+: t.classes.sent

theorem SentMore.trans (h : SentMore s t) (h' : SentMore t u) : SentMore s u :=
  ⟨h.ids.trans h'.ids, h.classes.trans h'.classes⟩

theorem sentMore_of_eq (hids : t.ids.sent = s.ids.sent)
    (hclasses : t.classes.sent = s.classes.sent) :
    SentMore s t := ⟨by rw [hids], by rw [hclasses]⟩

theorem queueElements_sent (dom : Dom ν) (elements : List ν) (s : SelectorQueries ν) :
    (s.queueElements dom elements).ids.sent = s.ids.sent ∧
      (s.queueElements dom elements).classes.sent = s.classes.sent := by
  induction elements generalizing s with
  | nil => exact ⟨rfl, rfl⟩
  | cons element elements ih =>
    obtain ⟨hids, hclasses⟩ := ih (s.queueElementIdAndClasses dom element)
    refine ⟨hids.trans ?_, hclasses.trans (Ledger.noteAll_sent _ _)⟩
    show (if dom.id element = "" then s.ids else s.ids.note (dom.id element)).sent = _
    split
    · rfl
    · exact Ledger.note_sent _ _

theorem fetchNewClassIdRules_sentMore : SentMore s (s.fetchNewClassIdRules dom) := by
  obtain ⟨hids, hclasses⟩ := queueElements_sent dom s.notYetQueriedElements.flatten s
  unfold fetchNewClassIdRules
  simp only
  split
  · exact sentMore_of_eq hids hclasses
  · refine ⟨?_, ?_⟩
    · rw [← hids]
      exact List.prefix_append _ _
    · rw [← hclasses]
      exact List.prefix_append _ _

theorem queryAttrsFromDocument_sentMore (m : Moment ν) (time : Option ℚ) :
    SentMore s (s.queryAttrsFromDocument m time) := by
  have hqueried : SentMore s (if m.generichide then s
      else (s.queueElements m.dom
        (m.dom.all.filter m.dom.classIdWithoutHtmlOrBody)).fetchNewClassIdRules m.dom) := by
    split
    · exact sentMore_of_eq rfl rfl
    · obtain ⟨hids, hclasses⟩ := queueElements_sent m.dom
        (m.dom.all.filter m.dom.classIdWithoutHtmlOrBody) s
      exact (sentMore_of_eq hids hclasses).trans fetchNewClassIdRules_sentMore
  unfold queryAttrsFromDocument
  cases time with
  | none => exact hqueried
  | some time =>
    simp only
    split <;> exact ⟨hqueried.ids, hqueried.classes⟩

theorem fetchUnlessThrottled_sentMore (m : Moment ν) :
    SentMore s (s.fetchUnlessThrottled config m) := by
  obtain ⟨hids, hclasses⟩ := shouldThrottle_names config s m.performanceNow
  unfold fetchUnlessThrottled
  split
  · exact sentMore_of_eq rfl rfl
  · split
    · rename_i s' hthrottle
      rw [hthrottle] at hids hclasses
      exact sentMore_of_eq (by rw [hids]) (by rw [hclasses])
    · rename_i s' hthrottle
      rw [hthrottle] at hids hclasses
      have hlogged : SentMore s (s'.logExecution m.performanceNow false) :=
        sentMore_of_eq (congrArg Ledger.sent hids) (congrArg Ledger.sent hclasses)
      exact hlogged.trans fetchNewClassIdRules_sentMore

/-- Whatever the script hears, it takes back nothing that it passed on. -/
theorem step_sentMore (config : SelectorsConfig) (s : SelectorQueries ν) (e : SelectorEvent ν) :
    SentMore s (s.step config e) := by
  suffices hhandled : SentMore s (s.handle config e) from ⟨hhandled.ids, hhandled.classes⟩
  cases e with
  | startObserving m =>
    have hqueried := queryAttrsFromDocument_sentMore (s := s) m none
    exact ⟨hqueried.ids, hqueried.classes⟩
  | onMutations m mutations observer =>
    obtain ⟨hids, hclasses⟩ := queueAttrsFromMutations_sent m.dom (s, 0) mutations
    obtain ⟨hidsChecked, hclassesChecked⟩ := checkMutationScore_names
      (s := (mutations.foldl (queueAttrsFromMutation m.dom) (s, 0)).1) config m observer
      (mutations.foldl (queueAttrsFromMutation m.dom) (s, 0)).2
    refine SentMore.trans ?_ (fetchUnlessThrottled_sentMore m)
    exact sentMore_of_eq ((congrArg Ledger.sent hidsChecked).trans hids)
      ((congrArg Ledger.sent hclassesChecked).trans hclasses)
  | timeout m id =>
    apply SentMore.trans _ fetchNewClassIdRules_sentMore
    exact sentMore_of_eq rfl rfl
  | pollingTick m interval =>
    exact queryAttrsFromDocument_sentMore m (some interval.futureTimeMs)

end SelectorQueries

namespace ObservedPage

variable {ν : Type} {config : ObservingConfig} {s : ObservedPage ν}

theorem tryScheduleQueuePump_queries (s : ObservedPage ν) :
    s.tryScheduleQueuePump.queries = s.queries := by
  have hschedule : ∀ (genericHide : Bool) (t : ObservedPage ν),
      (t.scheduleQueuePump genericHide).queries = t.queries := by
    intro genericHide t
    unfold scheduleQueuePump
    split
    · rfl
    · split <;> rfl
  unfold tryScheduleQueuePump
  split <;> exact hschedule _ _

theorem tryScheduleQueuePump_generichide (s : ObservedPage ν) :
    s.tryScheduleQueuePump.contentCosmetic.generichide = s.contentCosmetic.generichide := by
  have hschedule : ∀ (genericHide : Bool) (t : ObservedPage ν),
      (t.scheduleQueuePump genericHide).contentCosmetic.generichide =
        t.contentCosmetic.generichide := by
    intro genericHide t
    unfold scheduleQueuePump
    split
    · rfl
    · split <;> rfl
  unfold tryScheduleQueuePump
  split <;> exact hschedule _ _

/-- The variables of the script after a callback, a timer or what the script hears: as they were, or
after one event. -/
theorem step_queries (s : ObservedPage ν) (config : ObservingConfig) {e : PageEvent ν}
    (happlied : e.isApplied = false) :
    (s.step config e).queries = s.queries ∨ ∃ event,
      (s.step config e).queries = s.queries.map fun q => q.step config.toSelectorsConfig event := by
  cases e with
  | init _ | proceduralActions _ | bundle _ | entryPoint =>
    simp [PageEvent.isApplied] at happlied
  | idle m =>
    simp only [step, runIdleCallback]
    split
    · exact .inl rfl
    · split
      · split
        · exact .inr ⟨.startObserving m, rfl⟩
        · exact .inl rfl
      · exact .inl rfl
  | startTimer m due => exact .inr ⟨.startObserving m, rfl⟩
  | script event => exact .inr ⟨event, rfl⟩

theorem step_generichide (s : ObservedPage ν) (config : ObservingConfig) {e : PageEvent ν}
    (happlied : e.isApplied = false) :
    (s.step config e).contentCosmetic.generichide = s.contentCosmetic.generichide := by
  cases e with
  | init _ | proceduralActions _ | bundle _ | entryPoint =>
    simp [PageEvent.isApplied] at happlied
  | idle m =>
    simp only [step, runIdleCallback]
    split
    · rfl
    · split
      · split <;> rfl
      · rfl
  | startTimer m due => rfl
  | script event => rfl

/-- The script knows each name once, in whatever state it is. -/
def Accounted (s : ObservedPage ν) : Prop := ∀ q ∈ s.queries, q.NamesKept

theorem Accounted.step (config : ObservingConfig) (h : s.Accounted) {e : PageEvent ν}
    (happlied : e.isApplied = false) :
    (s.step config e).Accounted := by
  rcases s.step_queries config happlied with hsame | ⟨event, hstep⟩
  · unfold Accounted
    rwa [hsame]
  · intro q' hq'
    rw [hstep] at hq'
    obtain ⟨q, hq, rfl⟩ := Option.map_eq_some_iff.mp hq'
    exact (h q hq).step event

/-- Nothing is taken back that was passed on. -/
theorem step_sent (s : ObservedPage ν) (config : ObservingConfig) {e : PageEvent ν}
    (happlied : e.isApplied = false) :
    s.sentClasses <+: (s.step config e).sentClasses ∧ s.sentIds <+: (s.step config e).sentIds := by
  unfold sentClasses sentIds
  rcases s.step_queries config happlied with hsame | ⟨event, hstep⟩
  · rw [hsame]
    exact ⟨List.prefix_rfl, List.prefix_rfl⟩
  · rw [hstep]
    cases s.queries with
    | none => exact ⟨List.prefix_rfl, List.prefix_rfl⟩
    | some q =>
      have hmore := q.step_sentMore config.toSelectorsConfig event
      exact ⟨hmore.classes, hmore.ids⟩

/-! What the scripts of `ApplyRules` do. -/

theorem applyRules_init (s : ObservedPage ν) (generichide : Bool) :
    (s.runInitScript generichide).contentCosmetic.generichide =
      s.contentCosmetic.generichide.or (some generichide) ∧
    (s.runInitScript generichide).queries = s.queries := by
  unfold runInitScript
  cases hset : s.contentCosmetic.generichide <;> simp [hset]

variable {dict : DictValue} {performanceNow : ℚ} {hasProceduralActions : Bool}

/-- The document before the last script. -/
def prepared (config : ObservingConfig) (dict : DictValue) (hasProceduralActions : Bool)
    (s : ObservedPage ν) : ObservedPage ν :=
  let s := s.step config (.init ((dict.findBool "generichide").getD false))
  if (dict.findString "procedural_actions_script").isSome then
    s.step config (.proceduralActions hasProceduralActions)
  else s

theorem applyRules_eq : s.applyRules config dict performanceNow hasProceduralActions =
    (s.prepared config dict hasProceduralActions).step config
      (if s.queries.isNone then .bundle performanceNow else .entryPoint) := by
  have hqueries : (s.prepared config dict hasProceduralActions).queries = s.queries := by
    have hinit := (s.applyRules_init ((dict.findBool "generichide").getD false)).2
    unfold prepared
    dsimp only
    split <;> exact hinit
  rw [← hqueries]
  rfl

theorem prepared_spec (s : ObservedPage ν) (config : ObservingConfig) (dict : DictValue)
    (hasProceduralActions : Bool) :
    (s.prepared config dict hasProceduralActions).queries = s.queries ∧
    (s.prepared config dict hasProceduralActions).contentCosmetic.generichide =
      s.contentCosmetic.generichide.or (some ((dict.findBool "generichide").getD false)) := by
  obtain ⟨hgeneric, hqueries⟩ := s.applyRules_init ((dict.findBool "generichide").getD false)
  unfold prepared
  dsimp only
  split
  · exact ⟨hqueries, hgeneric⟩
  · exact ⟨hqueries, hgeneric⟩

theorem Kept.prepared (h : s.Kept) : (s.prepared config dict hasProceduralActions).Kept := by
  have hinit : (s.step config (.init ((dict.findBool "generichide").getD false))).Kept :=
    h.step trivial
  unfold ObservedPage.prepared
  dsimp only
  split
  · apply hinit.step
    show (s.runInitScript _).contentCosmetic.generichide.isSome = true
    rw [(s.applyRules_init _).1]
    simp
  · exact hinit

/-- Rules are applied in a document whose start was scheduled, or which is new. -/
theorem Kept.applyRules (h : s.Kept) :
    (s.applyRules config dict performanceNow hasProceduralActions).Kept := by
  obtain ⟨hqueries, hgeneric⟩ := prepared_spec s config dict hasProceduralActions
  have hset : (s.prepared config dict hasProceduralActions).contentCosmetic.generichide.isSome =
      true := by
    rw [hgeneric]
    simp
  rw [applyRules_eq]
  apply h.prepared.step
  cases hloaded : s.queries with
  | none => exact ⟨hset, by rw [hqueries, hloaded]; rfl⟩
  | some q =>
    show (s.prepared config dict hasProceduralActions).queries.isSome = true
    rw [hqueries, hloaded]
    rfl

/-- The variables of the script and `generichide` after rules were applied. -/
theorem applyRules_spec :
    (s.applyRules config dict performanceNow hasProceduralActions).queries =
      s.queries.or (some (.loaded performanceNow)) ∧
    (s.applyRules config dict performanceNow hasProceduralActions).contentCosmetic.generichide =
      s.contentCosmetic.generichide.or (some ((dict.findBool "generichide").getD false)) := by
  obtain ⟨hqueries, hgeneric⟩ := prepared_spec s config dict hasProceduralActions
  rw [applyRules_eq]
  cases hloaded : s.queries with
  | none =>
    simp only [Option.isNone_none, if_true, step, runBundle]
    rw [tryScheduleQueuePump_queries, tryScheduleQueuePump_generichide]
    exact ⟨rfl, hgeneric⟩
  | some q =>
    simp only [Option.isNone_some, Bool.false_eq_true, if_false, step]
    rw [tryScheduleQueuePump_queries, tryScheduleQueuePump_generichide]
    exact ⟨hqueries.trans hloaded, hgeneric⟩

theorem Accounted.applyRules (h : s.Accounted) :
    (s.applyRules config dict performanceNow hasProceduralActions).Accounted := by
  intro q hq
  rw [applyRules_spec.1] at hq
  cases hloaded : s.queries with
  | none =>
    rw [hloaded] at hq
    obtain rfl := Option.some.inj hq
    exact ⟨Ledger.kept_empty, Ledger.kept_empty⟩
  | some p =>
    rw [hloaded] at hq
    obtain rfl := Option.some.inj hq
    exact h p hloaded

theorem applyRules_sent (s : ObservedPage ν) (config : ObservingConfig) (dict : DictValue)
    (performanceNow : ℚ) (hasProceduralActions : Bool) :
    (s.applyRules config dict performanceNow hasProceduralActions).sentClasses = s.sentClasses ∧
    (s.applyRules config dict performanceNow hasProceduralActions).sentIds = s.sentIds := by
  unfold sentClasses sentIds
  rw [applyRules_spec.1]
  cases s.queries <;> exact ⟨rfl, rfl⟩

end ObservedPage

/-! What the browser answers, and what the handler does with it. -/

theorem convertCxxStringVector_utf8 (texts : List String) :
    convertCxxStringVector (texts.map utf8) = .ok texts := by
  induction texts with
  | nil => rfl
  | cons text texts ih =>
    rw [List.map_cons, convertCxxStringVector, toStr_utf8]
    simp only [ih]
    rfl

theorem CosmeticRules.hiddenClassIdSelectorsList_utf8 (engine : CosmeticRules)
    (classes ids exceptions : List String) :
    engine.hiddenClassIdSelectorsList (classes.map utf8) (ids.map utf8) (exceptions.map utf8) =
      stringValues (engine.hiddenClassIdSelectors classes ids exceptions.toFinset) := by
  have hresult : engine.hiddenClassIdSelectorsResult (classes.map utf8) (ids.map utf8)
      (exceptions.map utf8) =
      .ok (engine.hiddenClassIdSelectors classes ids exceptions.toFinset) := by
    unfold hiddenClassIdSelectorsResult
    rw [convertCxxStringVector_utf8, convertCxxStringVector_utf8, convertCxxStringVector_utf8]
    rfl
  rw [hiddenClassIdSelectorsList, hresult]

theorem stringsOf_stringValues {dict : DictValue} {key : String} {texts : List String}
    (h : dict.findList key = some (stringValues texts)) : stringsOf dict key = texts.map utf8 := by
  unfold stringsOf
  rw [h, Option.getD_some, stringValues, List.filterMap_map]
  exact congrFun List.filterMap_eq_map' texts

namespace AnsweredQuery

/-- The selectors that the two engines have for the names of a query. -/
def defaultSelectors (a : AnsweredQuery) : List String :=
  a.resources.engineWrapper.defaultEngine.hiddenClassIdSelectors a.query.classes a.query.ids
    a.query.exceptions.toFinset

def additionalSelectors (a : AnsweredQuery) : List String :=
  a.resources.engineWrapper.additionalFiltersEngine.hiddenClassIdSelectors a.query.classes
    a.query.ids a.query.exceptions.toFinset

/-- The answer is the selectors of both engines, those of the additional one to be forced. -/
theorem hiddenClassIdSelectors_eq (a : AnsweredQuery) {json : JsonLibrary} {input : List UInt8}
    (hread : json.readDictReplacing input = some a.query.toDict) :
    a.resources.hiddenClassIdSelectors json input (a.query.exceptions.map utf8) =
      .ok [("force_hide_selectors", .list (stringValues a.additionalSelectors)),
        ("hide_selectors", .list (stringValues a.defaultSelectors))] := by
  have hclasses : stringsOf a.query.toDict "classes" = a.query.classes.map utf8 :=
    stringsOf_stringValues rfl
  have hids : stringsOf a.query.toDict "ids" = a.query.ids.map utf8 := stringsOf_stringValues rfl
  rw [CosmeticFiltersResources.hiddenClassIdSelectors, hread]
  simp only [hclasses, hids, CosmeticEngineWrapper.hiddenClassIdSelectors,
    CosmeticRules.hiddenClassIdSelectorsList_utf8]
  rfl

end AnsweredQuery

namespace CosmeticFrame

variable {s t : CosmeticFrame}

theorem hides_injectStylesheet {selectors : List String} {selector : String}
    (h : selector ∈ selectors) :
    (s.injectStylesheet (hidingRules (stringValues selectors))).Hides selector :=
  ⟨stringValues selectors, List.mem_append_right _ (List.mem_singleton.mpr rfl),
    List.mem_map_of_mem h⟩

/-- All selectors of an answer are injected. -/
theorem hideSelected_hides (forced hidden : List String) {selector : String}
    (h : selector ∈ forced ++ hidden) :
    (s.hideSelected [("force_hide_selectors", .list (stringValues forced)),
      ("hide_selectors", .list (stringValues hidden))]).Hides selector := by
  cases forced with
  | nil => exact hides_injectStylesheet h
  | cons first rest =>
    show ((s.injectStylesheet (hidingRules (stringValues (first :: rest)))).injectStylesheet
      (hidingRules (stringValues hidden))).Hides selector
    rcases List.mem_append.mp h with hforced | hhidden
    · exact (hides_injectStylesheet hforced).of_more (List.prefix_append _ _)
    · exact hides_injectStylesheet hhidden

variable {setup : CosmeticSetup} {e : FrameEvent}

/-- The exceptions in rules, as `CSSRulesRoutine` takes them. -/
def exceptionsOf (dict : DictValue) : List String :=
  stringItems ((dict.findList "exceptions").getD [])

/-- The exceptions in the rules of the document. -/
def documentExceptions (s : CosmeticFrame) : List String := s.resourcesDict.elim [] exceptionsOf

/-- A query has the exceptions of its document, and no other than the handler has. -/
structure Carries (s : CosmeticFrame) (query : SelectorQuery) : Prop where
  taken : query.exceptions <+: s.exceptions
  own : s.documentExceptions ⊆ query.exceptions

theorem Continues.documentExceptions (h : Continues s t) :
    t.documentExceptions = s.documentExceptions := by
  rw [CosmeticFrame.documentExceptions, h.resourcesDict, CosmeticFrame.documentExceptions]

theorem Carries.of_continues {query : SelectorQuery} (h : s.Carries query)
    (hrules : t.resourcesDict = s.resourcesDict) (hexceptions : s.exceptions <+: t.exceptions) :
    t.Carries query := by
  refine ⟨h.taken.trans hexceptions, ?_⟩
  rw [CosmeticFrame.documentExceptions, hrules]
  exact h.own

/-- Whether an event starts a new document or closes the pipe to the browser. -/
def breaksOff : FrameEvent → Bool
  | .readyToCommitNavigation .. | .onRemoteDisconnect => true
  | _ => false

/-- Within a document, with no request for its rules under way, an event that is not about queries
goes on with the document. -/
theorem continues_step (setup : CosmeticSetup) (hquery : e.isQuery = false)
    (hbreaks : breaksOff e = false)
    (hrequests : s.urlRequests = []) : Continues s (s.step setup e) := by
  cases e with
  | didStartNavigation url => exact ⟨rfl, rfl, rfl, List.prefix_rfl, List.prefix_rfl⟩
  | readyToCommitNavigation originUrl result => simp [breaksOff] at hbreaks
  | runScriptsAtDocumentStart isProvisional v8Stylesheet =>
    simp only [step, runScriptsAtDocumentStart]
    split
    · exact continues_applyRules isProvisional v8Stylesheet
    · exact ⟨rfl, rfl, rfl, List.prefix_rfl, List.prefix_rfl⟩
  | runPostedApplyRules isProvisional v8Stylesheet =>
    simp only [step, runPostedApplyRules]
    split
    · exact .refl s
    · rename_i task rest _
      have hpopped : Continues s { s with applyTasks := rest } :=
        ⟨rfl, rfl, rfl, List.prefix_rfl, List.prefix_rfl⟩
      split
      · exact hpopped.trans (continues_applyRules isProvisional v8Stylesheet)
      · exact hpopped
  | onUrlCosmeticResources result =>
    simp only [step, onUrlCosmeticResources, hrequests]
    exact .refl s
  | hiddenClassIdSelectors input => simp [FrameEvent.isQuery] at hquery
  | onHiddenClassIdSelectors result => simp [FrameEvent.isQuery] at hquery
  | launchContentPicker isProvisional =>
    simp only [step, launchContentPicker]
    split
    · exact .refl s
    · exact continues_script s _
  | onRemoteDisconnect => simp [breaksOff] at hbreaks

theorem applyRules_none (h : s.resourcesDict = none) (isProvisional : Bool)
    (v8Stylesheet : Option String) : s.applyRules setup isProvisional v8Stylesheet = s := by
  unfold applyRules
  rw [h]

theorem applyRules_provisional (v8Stylesheet : Option String) :
    s.applyRules setup true v8Stylesheet = s := by
  unfold applyRules
  split <;> rfl

/-- What rules that are applied say about the frame, and what stays as it is where none are. -/
structure Applies (s t : CosmeticFrame) (rules : Option DictValue) : Prop where
  generichide : t.generichide = match rules with
    | some dict => (dict.findBool "generichide").getD false
    | none => s.generichide
  knowsBundle : s.KnowsBundle → t.KnowsBundle
  isObserving : s.KnowsBundle → t.isObserving = (s.isObserving || rules.isSome)
  exceptions : ∀ dict ∈ rules, exceptionsOf dict ⊆ t.exceptions

theorem applies_none (hgeneric : t.generichide = s.generichide)
    (hbundle : t.bundleInjected = s.bundleInjected)
    (hworld : t.hasIsolatedWorld = s.hasIsolatedWorld)
    (hobserving : t.isObserving = s.isObserving) : Applies s t none where
  generichide := hgeneric
  knowsBundle h := by
    rw [KnowsBundle, hbundle, hworld, hobserving]
    exact h
  isObserving _ := by rw [hobserving, Option.isSome_none, Bool.or_false]
  exceptions := nofun

theorem cssRulesRoutine_exceptions (dict : DictValue) :
    (s.cssRulesRoutine dict).exceptions = s.exceptions ++ exceptionsOf dict := by
  unfold cssRulesRoutine
  simp only
  split <;> rfl

theorem applyRules_exceptions {dict : DictValue} (hdict : s.resourcesDict = some dict)
    (v8Stylesheet : Option String) :
    exceptionsOf dict ⊆ (s.applyRules setup false v8Stylesheet).exceptions := by
  unfold applyRules
  rw [hdict]
  show exceptionsOf dict ⊆ (cssRulesRoutine dict _).exceptions
  rw [cssRulesRoutine_exceptions]
  exact List.subset_append_right _ _

theorem applies_applyRules (setup : CosmeticSetup) (s : CosmeticFrame) (isProvisional : Bool)
    (v8Stylesheet : Option String) :
    Applies s (s.applyRules setup isProvisional v8Stylesheet)
      (if !isProvisional then s.resourcesDict else none) := by
  cases isProvisional with
  | true =>
    rw [applyRules_provisional]
    exact applies_none rfl rfl rfl rfl
  | false =>
    cases hdict : s.resourcesDict with
    | none =>
      rw [applyRules_none hdict]
      exact applies_none rfl rfl rfl rfl
    | some dict =>
      refine ⟨applyRules_generichide hdict v8Stylesheet, fun h => ?_, fun h => ?_, ?_⟩
      · exact (h.applyRules hdict v8Stylesheet).1
      · rw [(h.applyRules hdict v8Stylesheet).2]
        simp
      · rintro _ ⟨⟩
        exact applyRules_exceptions hdict v8Stylesheet

/-- Within a document, `generichide_` is that of the rules that were applied, and the script runs
from then on. -/
theorem applies_step (setup : CosmeticSetup) (hquery : e.isQuery = false)
    (hbreaks : breaksOff e = false)
    (hrequests : s.urlRequests = []) : Applies s (s.step setup e) (s.appliedRules e) := by
  cases e with
  | didStartNavigation url => exact applies_none rfl rfl rfl rfl
  | readyToCommitNavigation originUrl result => simp [breaksOff] at hbreaks
  | runScriptsAtDocumentStart isProvisional v8Stylesheet =>
    simp only [step, runScriptsAtDocumentStart, appliedRules]
    cases hsignaled : s.isSignaled with
    | true => simpa using applies_applyRules setup s isProvisional v8Stylesheet
    | false => exact applies_none rfl rfl rfl rfl
  | runPostedApplyRules isProvisional v8Stylesheet =>
    simp only [step, runPostedApplyRules, appliedRules]
    cases htasks : s.applyTasks with
    | nil => exact applies_none rfl rfl rfl rfl
    | cons task rest =>
      by_cases hcurrent : task = s.document
      · have happlies := applies_applyRules setup { s with applyTasks := rest } isProvisional
          v8Stylesheet
        simpa [hcurrent] using
          (⟨happlies.generichide, happlies.knowsBundle, happlies.isObserving,
            happlies.exceptions⟩ : Applies s _ _)
      · simp only [List.head?_cons, hcurrent]
        simpa [hcurrent] using
          (applies_none rfl rfl rfl rfl : Applies s { s with applyTasks := rest } none)
  | onUrlCosmeticResources result =>
    simp only [step, onUrlCosmeticResources, hrequests]
    exact applies_none rfl rfl rfl rfl
  | hiddenClassIdSelectors input => simp [FrameEvent.isQuery] at hquery
  | onHiddenClassIdSelectors result => simp [FrameEvent.isQuery] at hquery
  | launchContentPicker isProvisional =>
    simp only [step, launchContentPicker]
    split
    · exact applies_none rfl rfl rfl rfl
    · refine ⟨rfl, fun h => h.script _, fun _ => ?_, fun _ hrules => ?_⟩
      · exact (Bool.or_false _).symm
      · exact absurd hrules (Option.not_mem_none _)
  | onRemoteDisconnect => simp [breaksOff] at hbreaks

/-- The rules that an event applies are those of the document. -/
theorem appliedRules_mem {dict : DictValue} (h : s.appliedRules e = some dict) :
    s.resourcesDict = some dict := by
  cases e with
  | runScriptsAtDocumentStart _ _ | runPostedApplyRules _ _ =>
    simp only [appliedRules] at h
    split at h
    · exact h
    · contradiction
  | _ => simp [appliedRules] at h

end CosmeticFrame

namespace HidingFrame

variable {ν : Type} {setup : HidingSetup} {s s' : HidingFrame ν}

/-- The queries of the document that the frame shows. -/
def ownAsked (s : HidingFrame ν) : List SelectorQuery :=
  s.asked.filter fun query => query.document = s.frame.document

/-- The state that every step keeps.  What the script passed on is what was answered, then what is
under way, with the exceptions of the document; and what was answered is hidden. -/
structure Kept (s : HidingFrame ν) : Prop where
  page : s.page.Kept
  accounted : s.page.Accounted
  noRequests : s.frame.urlRequests = []
  knowsBundle : s.frame.KnowsBundle
  isObserving : s.frame.isObserving = s.page.queries.isSome
  queue : s.asked.map (·.document) = s.frame.selectorQueries
  current : ∀ query ∈ s.asked, query.document ≤ s.frame.document
  named : ∀ query ∈ s.asked, query.classes ≠ [] ∨ query.ids ≠ []
  generichide : ∀ g, s.page.contentCosmetic.generichide = some g → s.frame.generichide = g ∧
    ∀ dict ∈ s.frame.resourcesDict, (dict.findBool "generichide").getD false = g
  classes : s.answered.flatMap (·.query.classes) ++ s.ownAsked.flatMap (·.classes) =
    s.page.sentClasses
  ids : s.answered.flatMap (·.query.ids) ++ s.ownAsked.flatMap (·.ids) = s.page.sentIds
  exempted : s.page.queries.isSome = true → s.frame.documentExceptions ⊆ s.frame.exceptions
  exceptions : (∀ query ∈ s.ownAsked, s.frame.Carries query) ∧
    ∀ a ∈ s.answered, s.frame.Carries a.query
  hidden : ∀ a ∈ s.answered, ∀ selector ∈ a.additionalSelectors ++ a.defaultSelectors,
    s.frame.Hides selector

theorem kept_init : Kept ({} : HidingFrame ν) where
  page := ObservedPage.kept_init
  accounted := nofun
  noRequests := rfl
  knowsBundle := rfl
  isObserving := rfl
  queue := rfl
  current := nofun
  named := nofun
  generichide := nofun
  classes := rfl
  ids := rfl
  exempted := nofun
  exceptions := ⟨nofun, nofun⟩
  hidden := nofun

/-- A document that asked has no `generichide`. -/
theorem Kept.asking (h : Kept s) {query : SelectorQuery} (hquery : query ∈ s.ownAsked) :
    s.page.contentCosmetic.generichide = some false := by
  have hnamed := h.named query (List.mem_of_mem_filter hquery)
  have hsent : s.page.sentClasses ≠ [] ∨ s.page.sentIds ≠ [] := by
    rw [← h.classes, ← h.ids]
    refine hnamed.imp (fun hclasses hnil => hclasses ?_) (fun hids hnil => hids ?_)
    · have hall := (List.append_eq_nil_iff.mp hnil).2
      exact List.flatMap_eq_nil_iff.mp hall query hquery
    · have hall := (List.append_eq_nil_iff.mp hnil).2
      exact List.flatMap_eq_nil_iff.mp hall query hquery
  cases hqueries : s.page.queries with
  | none =>
    unfold ObservedPage.sentClasses ObservedPage.sentIds at hsent
    simp [hqueries] at hsent
  | some q =>
    have hset := h.page.initialised (by rw [hqueries]; rfl)
    obtain ⟨g, hg⟩ := Option.isSome_iff_exists.mp hset
    cases g with
    | false => exact hg
    | true =>
      have hsilent := h.page.silent hg q hqueries
      unfold ObservedPage.sentClasses ObservedPage.sentIds at hsent
      simp [hqueries, hsilent.ids, hsilent.classes] at hsent

/-- A frame that goes on with its document keeps the state, where the document and `generichide` fit
the rules. -/
theorem Kept.of_continues (h : Kept s) {frame : CosmeticFrame} {page : ObservedPage ν}
    (hcont : s.frame.Continues frame) (hrequests : frame.urlRequests = []) (hpage : page.Kept)
    (haccounted : page.Accounted) (hknows : frame.KnowsBundle)
    (hobserving : frame.isObserving = page.queries.isSome)
    (hclasses : page.sentClasses = s.page.sentClasses) (hids : page.sentIds = s.page.sentIds)
    (hexempted : page.queries.isSome = true → frame.documentExceptions ⊆ frame.exceptions)
    (hgeneric : ∀ g, page.contentCosmetic.generichide = some g → frame.generichide = g ∧
      ∀ dict ∈ frame.resourcesDict, (dict.findBool "generichide").getD false = g) :
    Kept { s with
      frame := frame
      page := page } where
  page := hpage
  accounted := haccounted
  noRequests := hrequests
  knowsBundle := hknows
  isObserving := hobserving
  queue := h.queue.trans hcont.selectorQueries.symm
  current query hquery := by
    show query.document ≤ frame.document
    rw [hcont.document]
    exact h.current query hquery
  named := h.named
  generichide := hgeneric
  classes := by
    simp only [ownAsked, hcont.document]
    exact h.classes.trans hclasses.symm
  ids := by
    simp only [ownAsked, hcont.document]
    exact h.ids.trans hids.symm
  exempted := hexempted
  exceptions := by
    simp only [ownAsked, hcont.document]
    exact ⟨fun query hquery => (h.exceptions.1 query hquery).of_continues hcont.resourcesDict
        hcont.exceptions,
      fun a ha => (h.exceptions.2 a ha).of_continues hcont.resourcesDict hcont.exceptions⟩
  hidden a ha selector hselector := (h.hidden a ha selector hselector).of_more hcont.effects

/-- What a new document leaves as it is, and what it starts with. -/
structure StartsAnew (frame frame' : CosmeticFrame) : Prop where
  selectorQueries : frame'.selectorQueries = frame.selectorQueries
  document : frame'.document = frame.document + 1
  hasIsolatedWorld : frame'.hasIsolatedWorld = false
  isObserving : frame'.isObserving = false

theorem startsAnew_readyToCommit (frame : CosmeticFrame) (cosmetic : CosmeticSetup)
    (originUrl : GURL) (result : Value) :
    StartsAnew frame (frame.step cosmetic (.readyToCommitNavigation originUrl result)) := by
  simp only [CosmeticFrame.step, CosmeticFrame.readyToCommitNavigation,
    CosmeticFrame.loadResources, CosmeticFrame.processURLSync, CosmeticFrame.processURL]
  split
  · exact ⟨rfl, rfl, rfl, rfl⟩
  · split
    · split
      · rename_i s t heq
        split at heq
        · simp at heq
        · obtain rfl := (Prod.mk.inj heq).1
          exact ⟨rfl, rfl, rfl, rfl⟩
      · rename_i s t heq
        split at heq
        · obtain rfl := (Prod.mk.inj heq).1
          exact ⟨rfl, rfl, rfl, rfl⟩
        · simp at heq
    · split <;> exact ⟨rfl, rfl, rfl, rfl⟩

/-- A new document starts with nothing, whatever is under way for the earlier ones. -/
theorem Kept.newDocument (h : Kept s) {frame : CosmeticFrame} (hrequests : frame.urlRequests = [])
    (hnew : StartsAnew s.frame frame) :
    Kept ({ frame := frame, asked := s.asked } : HidingFrame ν) := by
  have hdocument := hnew.document
  have hnone : (s.asked.filter fun query => query.document = frame.document) = [] := by
    rw [List.filter_eq_nil_iff]
    intro query hquery
    have hcurrent := h.current query hquery
    simp only [decide_eq_true_eq]
    omega
  constructor
  · exact ObservedPage.kept_init
  · exact nofun
  · exact hrequests
  · show (frame.bundleInjected && frame.hasIsolatedWorld) = frame.isObserving
    rw [hnew.hasIsolatedWorld, hnew.isObserving, Bool.and_false]
  · exact hnew.isObserving
  · exact h.queue.trans hnew.selectorQueries.symm
  · intro query hquery
    have hcurrent := h.current query hquery
    show query.document ≤ frame.document
    omega
  · exact h.named
  · exact nofun
  · simp only [ownAsked, hnone]
    rfl
  · simp only [ownAsked, hnone]
    rfl
  · exact nofun
  · simp only [ownAsked, hnone]
    exact ⟨nofun, nofun⟩
  · exact nofun

theorem Kept.stepFrame (h : Kept s) (hsync : setup.cosmetic.kCosmeticFilteringSyncLoad = true)
    {e : FrameEvent} (hquery : e.isQuery = false) (hconnected : e ≠ .onRemoteDisconnect)
    (performanceNow : ℚ) (hasProceduralActions : Bool) :
    Kept (s.stepFrame setup e performanceNow hasProceduralActions) := by
  have hrequests := CosmeticFrame.no_requests_of_sync hsync h.noRequests e
  have hgoes : CosmeticFrame.breaksOff e = false →
      (s.frame.appliedRules e = none →
        s.stepFrame setup e performanceNow hasProceduralActions =
          { s with frame := s.frame.step setup.cosmetic e }) →
      (∀ dict, s.frame.appliedRules e = some dict →
        s.stepFrame setup e performanceNow hasProceduralActions = { s with
          frame := s.frame.step setup.cosmetic e
          page := s.page.applyRules setup.config dict performanceNow hasProceduralActions }) →
      Kept (s.stepFrame setup e performanceNow hasProceduralActions) := by
    intro hbreaks hleft happly
    have hcont := CosmeticFrame.continues_step setup.cosmetic hquery hbreaks
      h.noRequests
    have happlies := CosmeticFrame.applies_step setup.cosmetic hquery hbreaks
      h.noRequests
    have hknows := happlies.knowsBundle h.knowsBundle
    have hobserving := happlies.isObserving h.knowsBundle
    cases happlied : s.frame.appliedRules e with
    | none =>
      rw [hleft happlied]
      rw [happlied] at happlies hobserving
      refine h.of_continues hcont hrequests h.page h.accounted hknows ?_ rfl rfl (fun hloaded => ?_)
        fun g hg => ?_
      · rw [hobserving, h.isObserving, Option.isSome_none, Bool.or_false]
      · rw [hcont.documentExceptions]
        exact List.Subset.trans (h.exempted hloaded) hcont.exceptions.subset
      · rw [happlies.generichide, hcont.resourcesDict]
        exact h.generichide g hg
    | some dict =>
      rw [happly dict happlied]
      rw [happlied] at happlies hobserving
      obtain ⟨hclasses, hids⟩ := s.page.applyRules_sent setup.config dict performanceNow
        hasProceduralActions
      have hloaded : (s.frame.step setup.cosmetic e).isObserving = (s.page.applyRules setup.config
          dict performanceNow hasProceduralActions).queries.isSome := by
        rw [hobserving, ObservedPage.applyRules_spec.1]
        simp
      have hrules := CosmeticFrame.appliedRules_mem happlied
      have hexempted : (s.frame.step setup.cosmetic e).documentExceptions ⊆
          (s.frame.step setup.cosmetic e).exceptions := by
        rw [hcont.documentExceptions, CosmeticFrame.documentExceptions, hrules]
        exact happlies.exceptions dict rfl
      refine h.of_continues hcont hrequests h.page.applyRules h.accounted.applyRules hknows hloaded
        hclasses hids (fun _ => hexempted) fun g hg => ?_
      rw [ObservedPage.applyRules_spec.2] at hg
      have hdict : (dict.findBool "generichide").getD false = g := by
        cases hset : s.page.contentCosmetic.generichide with
        | none =>
          rw [hset] at hg
          exact Option.some.inj hg
        | some g' =>
          rw [hset] at hg
          obtain rfl : g' = g := Option.some.inj hg
          exact (h.generichide g' hset).2 dict hrules
      refine ⟨happlies.generichide.trans hdict, ?_⟩
      rw [hcont.resourcesDict, hrules]
      intro other hother
      obtain rfl := Option.some.inj hother
      exact hdict
  cases e with
  | readyToCommitNavigation originUrl result =>
    exact h.newDocument hrequests (startsAnew_readyToCommit s.frame setup.cosmetic originUrl result)
  | onRemoteDisconnect => exact absurd rfl hconnected
  | hiddenClassIdSelectors input => simp [FrameEvent.isQuery] at hquery
  | onHiddenClassIdSelectors result => simp [FrameEvent.isQuery] at hquery
  | didStartNavigation _ | runScriptsAtDocumentStart _ _ | runPostedApplyRules _ _
  | onUrlCosmeticResources _ | launchContentPicker _ =>
    refine hgoes rfl (fun hnone => ?_) (fun dict hdict => ?_)
    · simp only [HidingFrame.stepFrame, hnone]
    · simp only [HidingFrame.stepFrame, hdict]

/-- A list with what was added to it later. -/
theorem append_drop_of_grows {l more : List String} (h : l <+: more) :
    l ++ more.drop l.length = more := by
  obtain ⟨rest, rfl⟩ := h
  simp

theorem Kept.stepPage (h : Kept s) {e : PageEvent ν} (henabled : s.page.Enabled e)
    (happlied : e.isApplied = false) : Kept (s.stepPage setup e) := by
  have hpage : (s.page.step setup.config e).Kept := h.page.step henabled
  have haccounted := h.accounted.step setup.config happlied
  have hgeneric := s.page.step_generichide setup.config happlied
  obtain ⟨hmoreClasses, hmoreIds⟩ := s.page.step_sent setup.config happlied
  have hclasses := append_drop_of_grows hmoreClasses
  have hids := append_drop_of_grows hmoreIds
  have hrules : ∀ g, (s.page.step setup.config e).contentCosmetic.generichide = some g →
      s.frame.generichide = g ∧
        ∀ dict ∈ s.frame.resourcesDict, (dict.findBool "generichide").getD false = g := by
    intro g hg
    exact h.generichide g (hgeneric.symm.trans hg)
  have hloaded : (s.page.step setup.config e).queries.isSome = s.page.queries.isSome := by
    rcases s.page.step_queries setup.config happlied with
      hsame | ⟨event, hstep⟩
    · rw [hsame]
    · rw [hstep, Option.isSome_map]
  have hobserving : s.frame.isObserving = (s.page.step setup.config e).queries.isSome :=
    h.isObserving.trans hloaded.symm
  unfold HidingFrame.stepPage
  dsimp only
  split
  · rename_i hsilent
    obtain ⟨hnoClasses, hnoIds⟩ := hsilent
    refine h.of_continues (.refl s.frame) h.noRequests hpage haccounted h.knowsBundle hobserving ?_
      ?_ (hloaded ▸ h.exempted) hrules
    · rw [← hclasses]
      simpa [askedBy] using hnoClasses
    · rw [← hids]
      simpa [askedBy] using hnoIds
  · rename_i hspeaks
    let query := s.askedBy (s.page.step setup.config e)
    have hasks : s.page.queries.isSome = true := by
      rw [← hloaded]
      cases hqueries : (s.page.step setup.config e).queries with
      | none => simp [askedBy, ObservedPage.sentClasses, ObservedPage.sentIds, hqueries] at hspeaks
      | some q => rfl
    have hown : (s.asked ++ [query]).filter (fun query => query.document = s.frame.document) =
        s.ownAsked ++ [query] := by
      rw [List.filter_append, List.filter_cons_of_pos (by simp [query, askedBy])]
      rfl
    have hboth : ∀ {P : SelectorQuery → Prop} {queries : List SelectorQuery},
        (∀ other ∈ queries, P other) → P query → ∀ other ∈ queries ++ [query], P other := by
      intro P queries hold hnew other hother
      rcases List.mem_append.mp hother with hmem | hmem
      · exact hold other hmem
      · rwa [List.mem_singleton.mp hmem]
    have hcarries : ∀ other, s.frame.Carries other → (s.frame.hiddenClassIdSelectors
        (setup.stringify query.classes query.ids)).Carries other :=
      fun other h => h.of_continues rfl List.prefix_rfl
    have hqueue : (s.asked ++ [query]).map (·.document) =
        s.frame.selectorQueries ++ [s.frame.document] := by
      rw [List.map_append, h.queue]
      rfl
    refine
      { page := hpage
        accounted := haccounted
        noRequests := h.noRequests
        knowsBundle := h.knowsBundle
        isObserving := hobserving
        queue := hqueue
        current := hboth h.current (Nat.le_refl _)
        named := hboth h.named (not_and_or.mp hspeaks)
        generichide := hrules
        classes := ?_
        ids := ?_
        exempted := hloaded ▸ h.exempted
        exceptions := ⟨?_, fun a ha => hcarries a.query (h.exceptions.2 a ha)⟩
        hidden := ?_ }
    · show s.answered.flatMap (·.query.classes) ++ List.flatMap (·.classes)
        ((s.asked ++ [query]).filter fun query => query.document = s.frame.document) = _
      rw [hown, List.flatMap_append, ← List.append_assoc, h.classes]
      simpa [query, askedBy] using hclasses
    · show s.answered.flatMap (·.query.ids) ++ List.flatMap (·.ids)
        ((s.asked ++ [query]).filter fun query => query.document = s.frame.document) = _
      rw [hown, List.flatMap_append, ← List.append_assoc, h.ids]
      simpa [query, askedBy] using hids
    · intro other hother
      have hmem : other ∈ s.ownAsked ++ [query] := hown ▸ hother
      have hnew : s.frame.Carries query := ⟨List.prefix_rfl, h.exempted hasks⟩
      exact hcarries other (hboth (P := s.frame.Carries) h.exceptions.1 hnew other hmem)
    · intro a ha selector hselector
      exact (h.hidden a ha selector hselector).of_more (List.prefix_append _ _)

/-- What an answer leaves of the frame as it is. -/
structure Hears (frame frame' : CosmeticFrame) (rest : List Nat) : Prop where
  document : frame'.document = frame.document
  knowsBundle : frame.KnowsBundle → frame'.KnowsBundle
  isObserving : frame'.isObserving = frame.isObserving
  resourcesDict : frame'.resourcesDict = frame.resourcesDict
  generichide : frame'.generichide = frame.generichide
  urlRequests : frame'.urlRequests = frame.urlRequests
  selectorQueries : frame'.selectorQueries = rest
  exceptions : frame.exceptions <+: frame'.exceptions
  effects : frame.effects <+: frame'.effects

theorem hears_answer {frame : CosmeticFrame} {document : Nat} {rest : List Nat}
    (h : frame.selectorQueries = document :: rest) (result : DictValue) :
    Hears frame (frame.onHiddenClassIdSelectors result) rest := by
  have hpopped : Hears frame ({ frame with selectorQueries := rest }.perform
      (.consultGenerichide frame.generichide)) rest :=
    ⟨rfl, id, rfl, rfl, rfl, rfl, rfl, List.prefix_rfl, List.prefix_append _ _⟩
  rw [CosmeticFrame.onHiddenClassIdSelectors_eq h]
  split
  · exact hpopped
  · have hcont := CosmeticFrame.continues_hideSelected (s := { frame with
      selectorQueries := rest }.perform (.consultGenerichide frame.generichide)) result
    obtain ⟨hknows, hobserving⟩ := CosmeticFrame.hideSelected_observing (s := { frame with
      selectorQueries := rest }.perform (.consultGenerichide frame.generichide)) result
    exact ⟨hcont.document.trans hpopped.document, fun hknown => hknows (hpopped.knowsBundle hknown),
      hobserving.trans hpopped.isObserving, hcont.resourcesDict.trans hpopped.resourcesDict,
      (CosmeticFrame.hideSelected_generichide result).trans hpopped.generichide,
      (CosmeticFrame.hideSelected_urlRequests result).trans hpopped.urlRequests,
      hcont.selectorQueries.trans hpopped.selectorQueries,
      hpopped.exceptions.trans hcont.exceptions, hpopped.effects.trans hcont.effects⟩

/-- An answer to a query of the document is injected, whichever engine has the selector. -/
theorem Kept.injected (h : Kept s) {query : SelectorQuery} {rest : List SelectorQuery}
    (hasked : s.asked = query :: rest) (hown : query.document = s.frame.document)
    (resources : CosmeticFiltersResources) {selector : String}
    (hselector : selector ∈ (AnsweredQuery.mk query resources).additionalSelectors ++
      (AnsweredQuery.mk query resources).defaultSelectors) :
    (s.frame.onHiddenClassIdSelectors [("force_hide_selectors",
      .list (stringValues (AnsweredQuery.mk query resources).additionalSelectors)),
      ("hide_selectors", .list (stringValues
        (AnsweredQuery.mk query resources).defaultSelectors))]).Hides selector := by
  have hqueries : s.frame.selectorQueries = query.document :: rest.map (·.document) := by
    rw [← h.queue, hasked]
    rfl
  have hmem : query ∈ s.ownAsked := by
    unfold ownAsked
    rw [hasked, List.filter_cons_of_pos (by simpa using hown)]
    exact List.mem_cons_self
  have hplain : s.frame.generichide = false := (h.generichide false (h.asking hmem)).1
  rw [CosmeticFrame.onHiddenClassIdSelectors_eq hqueries, hplain, if_neg (by decide)]
  exact CosmeticFrame.hideSelected_hides _ _ hselector

/-- The first query leaves those under way, and its answer is hidden if it is for the document. -/
theorem Kept.answer (h : Kept s) {a : AnsweredQuery} {rest : List SelectorQuery}
    (hasked : s.asked = a.query :: rest) {frame : CosmeticFrame}
    (hears : Hears s.frame frame (rest.map (·.document)))
    (hinjected : a.query.document = s.frame.document →
      ∀ selector ∈ a.additionalSelectors ++ a.defaultSelectors, frame.Hides selector) :
    Kept { s with
      frame := frame
      asked := rest
      answered :=
        if a.query.document = s.frame.document then s.answered ++ [a] else s.answered } := by
  have hrest : ∀ other ∈ rest, other ∈ s.asked := by
    intro other hother
    rw [hasked]
    exact List.mem_cons_of_mem _ hother
  -- the names of the answer move from those under way to those that were answered
  have hmoved : ∀ names : SelectorQuery → List String,
      (if a.query.document = s.frame.document then s.answered ++ [a] else s.answered).flatMap
          (fun a => names a.query) ++
        (rest.filter fun query => query.document = s.frame.document).flatMap names =
      s.answered.flatMap (fun a => names a.query) ++ s.ownAsked.flatMap names := by
    intro names
    unfold ownAsked
    rw [hasked]
    by_cases hown : a.query.document = s.frame.document
    · rw [if_pos hown, List.filter_cons_of_pos (by simpa using hown), List.flatMap_append]
      simp
    · rw [if_neg hown, List.filter_cons_of_neg (by simpa using hown)]
  have hanswered : ∀ b ∈ (if a.query.document = s.frame.document then s.answered ++ [a]
      else s.answered), b ∈ s.answered ∨ b = a ∧ a.query.document = s.frame.document := by
    intro b hb
    split at hb
    · rename_i hown
      rcases List.mem_append.mp hb with hold | hnew
      · exact .inl hold
      · exact .inr ⟨List.mem_singleton.mp hnew, hown⟩
    · exact .inl hb
  refine
    { page := h.page
      accounted := h.accounted
      noRequests := hears.urlRequests.trans h.noRequests
      knowsBundle := hears.knowsBundle h.knowsBundle
      isObserving := hears.isObserving.trans h.isObserving
      queue := hears.selectorQueries.symm
      current := fun other hother => ?_
      named := fun other hother => h.named other (hrest other hother)
      generichide := fun g hg => ?_
      classes := ?_
      ids := ?_
      exempted := fun hloaded => ?_
      exceptions := ?_
      hidden := ?_ }
  · show other.document ≤ frame.document
    rw [hears.document]
    exact h.current other (hrest other hother)
  · obtain ⟨hframe, hrules⟩ := h.generichide g hg
    refine ⟨hears.generichide.trans hframe, ?_⟩
    rw [hears.resourcesDict]
    exact hrules
  · simp only [ownAsked, hears.document]
    exact (hmoved SelectorQuery.classes).trans h.classes
  · simp only [ownAsked, hears.document]
    exact (hmoved SelectorQuery.ids).trans h.ids
  · rw [CosmeticFrame.documentExceptions, hears.resourcesDict]
    exact List.Subset.trans (h.exempted hloaded) hears.exceptions.subset
  · simp only [ownAsked, hears.document]
    constructor
    · intro other hother
      obtain ⟨hin, hown⟩ := List.mem_filter.mp hother
      have hmem : other ∈ s.ownAsked := List.mem_filter.mpr ⟨hrest other hin, hown⟩
      exact (h.exceptions.1 other hmem).of_continues hears.resourcesDict hears.exceptions
    · intro b hb
      rcases hanswered b hb with hold | ⟨rfl, hown⟩
      · exact (h.exceptions.2 b hold).of_continues hears.resourcesDict hears.exceptions
      · have hmem : b.query ∈ s.ownAsked := by
          refine List.mem_filter.mpr ⟨?_, by simpa using hown⟩
          rw [hasked]
          exact List.mem_cons_self
        exact (h.exceptions.1 b.query hmem).of_continues hears.resourcesDict hears.exceptions
  · intro b hb selector hselector
    rcases hanswered b hb with hold | ⟨rfl, hown⟩
    · exact (h.hidden b hold selector hselector).of_more hears.effects
    · exact hinjected hown selector hselector

theorem Kept.stepAnswer (h : Kept s) {resources : CosmeticFiltersResources}
    (hread : s.undisturbed setup (.answer resources))
    (hrun : s.stepAnswer setup resources = .ok s') : Kept s' := by
  unfold HidingFrame.stepAnswer at hrun
  cases hasked : s.asked with
  | nil =>
    rw [hasked] at hrun
    obtain rfl := Except.ok.inj hrun
    exact h
  | cons query rest =>
    have hanswer := (AnsweredQuery.mk query resources).hiddenClassIdSelectors_eq
      (hread query (by rw [hasked]; rfl))
    have hqueries : s.frame.selectorQueries = query.document :: rest.map (·.document) := by
      rw [← h.queue, hasked]
      rfl
    rw [hasked] at hrun
    dsimp only at hrun hanswer
    rw [hanswer] at hrun
    obtain rfl := Except.ok.inj hrun
    exact h.answer (a := ⟨query, resources⟩) hasked (hears_answer hqueries _)
      fun hown selector hselector => h.injected hasked hown resources hselector

theorem Kept.step (h : Kept s) (hsync : setup.cosmetic.kCosmeticFilteringSyncLoad = true)
    {e : HidingEvent ν} (henabled : s.Enabled e) (hok : s.undisturbed setup e)
    (hrun : s.step setup e = .ok s') : Kept s' := by
  cases e with
  | frame e performanceNow hasProceduralActions =>
    obtain rfl := Except.ok.inj hrun
    exact h.stepFrame hsync henabled.2 hok performanceNow hasProceduralActions
  | page e =>
    obtain rfl := Except.ok.inj hrun
    exact h.stepPage henabled.1 henabled.2
  | answer resources => exact h.stepAnswer hok hrun

/-- In every run of a frame that loads its rules before its documents, whatever documents it shows
and whatever is under way for earlier ones: where nothing waits in the script of the document and
none of its queries is under way, each class and id that the script saw was in one query, each query
had the exceptions of the document, and each selector that either engine answered to it is in a
stylesheet of the document. -/
theorem generic_rules_injected (hsync : setup.cosmetic.kCosmeticFilteringSyncLoad = true)
    {es : List (HidingEvent ν)}
    (run : Run ((machine setup).restrict (undisturbed setup)) {} es s) {q : SelectorQueries ν}
    (hq : s.page.queries = some q) (hids : q.ids.waiting = []) (hclasses : q.classes.waiting = [])
    (hnone : ∀ query ∈ s.asked, query.document ≠ s.frame.document) :
    s.answered.flatMap (·.query.classes) = q.classes.noted ∧ q.classes.noted.Nodup ∧
    s.answered.flatMap (·.query.ids) = q.ids.noted ∧ q.ids.noted.Nodup ∧
    ∀ a ∈ s.answered, s.frame.documentExceptions ⊆ a.query.exceptions ∧
      a.query.exceptions <+: s.frame.exceptions ∧
      ∀ selector ∈ a.additionalSelectors ++ a.defaultSelectors, s.frame.Hides selector := by
  have h : s.Kept := by
    refine run.preserves (P := Kept) ?_ kept_init
    intro s e s' henabled hstep h
    exact h.step hsync henabled.1 henabled.2 hstep
  have hown : s.ownAsked = [] := by
    unfold ownAsked
    rw [List.filter_eq_nil_iff]
    intro query hquery
    simpa using hnone query hquery
  have hnames := h.accounted q hq
  have hsentClasses : s.page.sentClasses = q.classes.noted := by
    unfold ObservedPage.sentClasses
    rw [hq, ← hnames.classes.accounted, hclasses, List.append_nil]
    rfl
  have hsentIds : s.page.sentIds = q.ids.noted := by
    unfold ObservedPage.sentIds
    rw [hq, ← hnames.ids.accounted, hids, List.append_nil]
    rfl
  refine ⟨?_, hnames.classes.nodup, ?_, hnames.ids.nodup, ?_⟩
  · rw [← hsentClasses, ← h.classes, hown]
    simp
  · rw [← hsentIds, ← h.ids, hown]
    simp
  · intro a ha
    obtain ⟨htaken, hown⟩ := h.exceptions.2 a ha
    exact ⟨hown, htaken, h.hidden a ha⟩

section Runs

/-- A rule of the default lists for the class `top`. -/
def topRules : CosmeticRules where
  urlCosmeticResources _ := {}
  hiddenClassIdSelectors classes _ exceptions :=
    if "top" ∈ classes ∧ ".top" ∉ exceptions then [".top"] else []

/-- A rule of the user for the id `ad`. -/
def adRules : CosmeticRules where
  urlCosmeticResources _ := {}
  hiddenClassIdSelectors _ ids _ := if "ad" ∈ ids then ["#ad"] else []

def smallPageResources : CosmeticFiltersResources := ⟨⟨topRules, adRules⟩, true⟩

/-- The names that need no escapes, as JSON. -/
def plainJson (classes ids : List String) : String :=
  let array := fun names =>
    "[" ++ ",".intercalate (names.map fun name => "\"" ++ name ++ "\"") ++ "]"
  "\x7b\"classes\":" ++ array classes ++ ",\"ids\":" ++ array ids ++ "\x7d"

def smallPageSetup : HidingSetup where
  cosmetic := TracedFrame.mainFrame true
  config := {}
  json :=
    { toString _ := some "\x7b\x7d"
      readDict _ := some []
      readDictReplacing text :=
        if text = utf8 "\x7b\"classes\":[\"wide\",\"top\"],\"ids\":[\"ad\"]\x7d" then
          some [("classes", .list (stringValues ["wide", "top"])),
            ("ids", .list (stringValues ["ad"]))]
        else none
      escapeJSONString text := text }
  stringify := plainJson

/-- The small page is loaded and observed, and its query is answered. -/
def smallPageRun : List (HidingEvent Nat) :=
  [.frame (.didStartNavigation (.https "a.test" "/")) 0 false,
    .frame (.readyToCommitNavigation .empty
      (.dict [("exceptions", .list [.string ".wide"])])) 0 false,
    .frame (.runScriptsAtDocumentStart false none) 0 false,
    .page (.idle (SelectorQueries.smallPageAt 1)), .answer smallPageResources]

/-- Whether the script of the document has nothing left to do, and one query was answered. -/
def isDone (s : HidingFrame Nat) : Bool :=
  s.asked.isEmpty && s.answered.length == 1 && s.frame.documentExceptions == [".wide"] &&
    match s.page.queries with
    | none => false
    | some q => q.ids.waiting.isEmpty && q.classes.waiting.isEmpty && q.ids.noted == ["ad"]

theorem generic_rules_injected_smallPage : ∃ s : HidingFrame Nat,
    Run ((machine smallPageSetup).restrict (undisturbed smallPageSetup)) {} smallPageRun s ∧
      s.answered.flatMap (·.query.ids) = ["ad"] ∧
      ∀ a ∈ s.answered, ".wide" ∈ a.query.exceptions ∧
        ∀ selector ∈ a.additionalSelectors ++ a.defaultSelectors, s.frame.Hides selector := by
  obtain ⟨s, run, hs⟩ := Machine.exists_run
    ((machine smallPageSetup).restrict (undisturbed smallPageSetup)) {} smallPageRun isDone
    (by decide +kernel)
  unfold isDone at hs
  obtain ⟨⟨⟨hasked, -⟩, hown⟩, hscript⟩ : ((s.asked = [] ∧ s.answered.length = 1) ∧
      s.frame.documentExceptions = [".wide"]) ∧ _ := by
    simpa using hs
  cases hq : s.page.queries with
  | none => simp [hq] at hscript
  | some q =>
    obtain ⟨⟨hids, hclasses⟩, hnoted⟩ : (q.ids.waiting = [] ∧ q.classes.waiting = []) ∧
        q.ids.noted = ["ad"] := by
      simpa [hq] using hscript
    obtain ⟨-, -, hall, -, hqueries⟩ := generic_rules_injected rfl run hq hids hclasses
      (by simp [hasked])
    refine ⟨s, run, hall.trans hnoted, fun a ha => ?_⟩
    obtain ⟨hcarried, -, hhidden⟩ := hqueries a ha
    exact ⟨hcarried (by simp [hown]), hhidden⟩

end Runs

end HidingFrame

end ChromiumAdblock
