import ChromiumAdblock.Cosmetic.DocumentIsolation
import ChromiumAdblock.Cosmetic.ObservedPage
import ChromiumAdblock.Engine.RendererInput

/-! Generic hiding, from the names in a document to the rules that hide its elements.  The observing
script passes each class and id on, the handler sends them to the browser with its exceptions, both
engines answer with selectors, and the handler injects what they answer. -/

namespace ChromiumAdblock

open EventMachine

/-- A call of `HiddenClassIdSelectors`: the document that made it, and what it asks about. -/
structure SelectorQuery where
  document : Nat
  classes : List String
  ids : List String
  exceptions : List String
deriving DecidableEq

/-- The dictionary that the script writes as JSON. -/
def SelectorQuery.toDict (query : SelectorQuery) : DictValue :=
  [("classes", .list (stringValues query.classes)), ("ids", .list (stringValues query.ids))]

/-- A query that was answered, and the state of the browser that answered it. -/
structure AnsweredQuery where
  query : SelectorQuery
  resources : CosmeticFiltersResources

/-- A frame with the document that it shows, the queries under way in the order in which they were
sent, and those of the document that were answered. -/
structure HidingFrame (ν : Type) where
  frame : CosmeticFrame := {}
  page : ObservedPage ν := {}
  asked : List SelectorQuery := []
  answered : List AnsweredQuery := []

/-- What happens to a frame, with the time and whether there are procedural actions, where an event
applies rules; to the document; and that the browser answers the first query. -/
inductive HidingEvent (ν : Type)
  | frame (e : FrameEvent) (performanceNow : ℚ) (hasProceduralActions : Bool)
  | page (e : PageEvent ν)
  | answer (resources : CosmeticFiltersResources)

/-- What a renderer is given, and the libraries: `JSON.stringify` of classes and ids, and the
browser's reader. -/
structure HidingSetup where
  cosmetic : CosmeticSetup
  config : ObservingConfig
  json : JsonLibrary
  stringify : (classes ids : List String) → String

namespace CosmeticFrame

/-- The rules that an event applies, if it applies rules. -/
def appliedRules (s : CosmeticFrame) : FrameEvent → Option DictValue
  | .runScriptsAtDocumentStart isProvisional _ =>
    if s.isSignaled && !isProvisional then s.resourcesDict else none
  | .runPostedApplyRules isProvisional _ =>
    if s.applyTasks.head? == some s.document && !isProvisional then s.resourcesDict else none
  | _ => none

/-- The elements of a selector are hidden by a stylesheet of the document. -/
def Hides (s : CosmeticFrame) (selector : String) : Prop :=
  ∃ selectors, .insertStyleSheet (hidingRules selectors) ∈ s.effects ∧
    .string selector ∈ selectors

end CosmeticFrame

namespace ObservedPage

variable {ν : Type}

/-- The classes that were passed to `hiddenClassIdSelectors` so far. -/
def sentClasses (s : ObservedPage ν) : List String := s.queries.elim [] (·.classes.sent)
def sentIds (s : ObservedPage ν) : List String := s.queries.elim [] (·.ids.sent)

/-- What the scripts that `ApplyRules` runs do to the document. -/
def applyRules (config : ObservingConfig) (dict : DictValue) (performanceNow : ℚ)
    (hasProceduralActions : Bool) (s : ObservedPage ν) : ObservedPage ν :=
  let s := s.step config (.init ((dict.findBool "generichide").getD false))
  let s :=
    if (dict.findString "procedural_actions_script").isSome then
      s.step config (.proceduralActions hasProceduralActions)
    else s
  s.step config (if s.queries.isNone then .bundle performanceNow else .entryPoint)

end ObservedPage

/-- Whether an event is a script that `ApplyRules` runs. -/
def PageEvent.isApplied {ν : Type} : PageEvent ν → Bool
  | .init _ | .proceduralActions _ | .bundle _ | .entryPoint => true
  | _ => false

/-- Whether an event is a query or the answer to one. -/
def FrameEvent.isQuery : FrameEvent → Bool
  | .hiddenClassIdSelectors _ | .onHiddenClassIdSelectors _ => true
  | _ => false

namespace HidingFrame

variable {ν : Type} (setup : HidingSetup)

/-- The classes and ids that the script passes on while the document turns into `page`. -/
def askedBy (page : ObservedPage ν) (s : HidingFrame ν) : SelectorQuery where
  document := s.frame.document
  classes := page.sentClasses.drop s.page.sentClasses.length
  ids := page.sentIds.drop s.page.sentIds.length
  exceptions := s.frame.exceptions

/-- The document hears an event; the script makes at most one call meanwhile. -/
def stepPage (e : PageEvent ν) (s : HidingFrame ν) : HidingFrame ν :=
  let page := s.page.step setup.config e
  let query := s.askedBy page
  if query.classes = [] ∧ query.ids = [] then { s with page := page }
  else
    { s with
      page := page
      frame := s.frame.hiddenClassIdSelectors (setup.stringify query.classes query.ids)
      asked := s.asked ++ [query] }

/-- The frame hears an event: a new document starts anew, and rules are applied in the document. -/
def stepFrame (e : FrameEvent) (performanceNow : ℚ) (hasProceduralActions : Bool)
    (s : HidingFrame ν) : HidingFrame ν :=
  let frame := s.frame.step setup.cosmetic e
  match e with
  | .readyToCommitNavigation .. =>
    { s with
      frame := frame
      page := {}
      answered := [] }
  | .onRemoteDisconnect =>
    { s with
      frame := frame
      asked := [] }
  | e =>
    match s.frame.appliedRules e with
    | none => { s with frame := frame }
    | some dict =>
      { s with
        frame := frame
        page := s.page.applyRules setup.config dict performanceNow hasProceduralActions }

/-- The browser answers the first query, and the handler takes the answer. -/
def stepAnswer (resources : CosmeticFiltersResources) (s : HidingFrame ν) :
    Except Crash (HidingFrame ν) :=
  match s.asked with
  | [] => .ok s
  | query :: rest => do
    let result ← resources.hiddenClassIdSelectors setup.json
      (utf8 (setup.stringify query.classes query.ids)) (query.exceptions.map utf8)
    return { s with
      frame := s.frame.onHiddenClassIdSelectors result
      asked := rest
      answered :=
        if query.document = s.frame.document then s.answered ++ [⟨query, resources⟩]
        else s.answered }

def step (s : HidingFrame ν) : HidingEvent ν → Except Crash (HidingFrame ν)
  | .frame e performanceNow hasProceduralActions =>
    .ok (s.stepFrame setup e performanceNow hasProceduralActions)
  | .page e => .ok (s.stepPage setup e)
  | .answer resources => s.stepAnswer setup resources

/-- Queries come from the document and are answered by the browser, and the scripts of `ApplyRules`
come from the frame. -/
def Enabled (s : HidingFrame ν) : HidingEvent ν → Prop
  | .frame e _ _ => s.frame.Enabled e ∧ e.isQuery = false
  | .page e => s.page.Enabled e ∧ e.isApplied = false
  | .answer _ => s.asked ≠ []

instance (s : HidingFrame ν) (e : HidingEvent ν) : Decidable (s.Enabled e) := by
  cases e <;> unfold Enabled <;> infer_instance

def machine : Machine (HidingFrame ν) (HidingEvent ν) Crash where
  enabled := Enabled
  step := step setup

/-- The pipe to the browser is not closed, and the browser reads what the script wrote. -/
def undisturbed (s : HidingFrame ν) : HidingEvent ν → Prop
  | .frame e _ _ => e ≠ .onRemoteDisconnect
  | .page _ => True
  | .answer _ => ∀ query ∈ s.asked.head?,
    setup.json.readDictReplacing (utf8 (setup.stringify query.classes query.ids)) =
      some query.toDict

instance (s : HidingFrame ν) (e : HidingEvent ν) : Decidable (s.undisturbed setup e) := by
  cases e <;> unfold undisturbed <;> infer_instance

instance (s : HidingFrame ν) (e : HidingEvent ν) :
    Decidable (((machine setup).restrict (undisturbed setup)).enabled s e) :=
  inferInstanceAs (Decidable (s.Enabled e ∧ s.undisturbed setup e))

end HidingFrame

/-! What a frame keeps within a document. -/

namespace CosmeticFrame

variable {setup : CosmeticSetup} {s t u : CosmeticFrame}

/-- The same document with more effects, with the same rules and queries. -/
structure Continues (s t : CosmeticFrame) : Prop where
  document : t.document = s.document
  resourcesDict : t.resourcesDict = s.resourcesDict
  selectorQueries : t.selectorQueries = s.selectorQueries
  exceptions : s.exceptions <+: t.exceptions
  effects : s.effects <+: t.effects

theorem Continues.refl (s : CosmeticFrame) : Continues s s :=
  ⟨rfl, rfl, rfl, List.prefix_rfl, List.prefix_rfl⟩

theorem Continues.trans (h : Continues s t) (h' : Continues t u) : Continues s u where
  document := h'.document.trans h.document
  resourcesDict := h'.resourcesDict.trans h.resourcesDict
  selectorQueries := h'.selectorQueries.trans h.selectorQueries
  exceptions := h.exceptions.trans h'.exceptions
  effects := h.effects.trans h'.effects

theorem continues_perform (s : CosmeticFrame) (effect : FrameEffect) :
    Continues s (s.perform effect) :=
  ⟨rfl, rfl, rfl, List.prefix_rfl, List.prefix_append _ _⟩

theorem continues_script (s : CosmeticFrame) (script : String) :
    Continues s (s.executeScriptInIsolatedWorld script) :=
  ⟨rfl, rfl, rfl, List.prefix_rfl, List.prefix_append _ _⟩

theorem continues_executeScriptlets (dict : DictValue) :
    Continues s (s.executeScriptlets setup dict) := by
  unfold executeScriptlets
  split
  · exact .refl s
  · exact continues_script s _

theorem continues_procedural (dict : DictValue) (v8Stylesheet : Option String) :
    Continues s (s.executeProceduralActions dict v8Stylesheet) := by
  unfold executeProceduralActions
  split
  · exact .refl s
  · rename_i script _
    simp only
    split
    · exact continues_script s script
    · exact continues_script s script
    · exact (continues_script s script).trans (continues_perform _ _)

theorem continues_entryPoint : Continues s (s.executeObservingBundleEntryPoint setup) := by
  unfold executeObservingBundleEntryPoint
  split <;> exact ⟨rfl, rfl, rfl, List.prefix_rfl, List.prefix_append _ _⟩

theorem continues_cssRulesRoutine (dict : DictValue) : Continues s (s.cssRulesRoutine dict) := by
  unfold cssRulesRoutine
  simp only
  split
  · exact ⟨rfl, rfl, rfl, List.prefix_append _ _, List.prefix_rfl⟩
  · exact ⟨rfl, rfl, rfl, List.prefix_append _ _, List.prefix_append _ _⟩

theorem continues_applyRules (isProvisional : Bool) (v8Stylesheet : Option String) :
    Continues s (s.applyRules setup isProvisional v8Stylesheet) := by
  unfold applyRules
  split
  · exact .refl s
  · rename_i dict _
    split
    · exact .refl s
    · have hinit : Continues (s.executeScriptlets setup dict)
          ((s.executeScriptlets setup dict).preInit setup dict) :=
        ⟨rfl, rfl, rfl, List.prefix_rfl, List.prefix_append _ _⟩
      exact ((((continues_executeScriptlets dict).trans hinit).trans
        (continues_procedural dict v8Stylesheet)).trans continues_entryPoint).trans
        (continues_cssRulesRoutine dict)

theorem continues_hideSelected (result : DictValue) : Continues s (s.hideSelected result) := by
  unfold hideSelected
  split
  · exact .refl s
  · simp only
    split
    · exact continues_perform _ _
    · exact continues_perform _ _
    · exact (continues_perform s _).trans (continues_perform _ _)

theorem Hides.of_more {selector : String} (h : s.Hides selector) (hmore : s.effects <+: t.effects) :
    t.Hides selector := by
  obtain ⟨selectors, hmem, hselector⟩ := h
  exact ⟨selectors, hmore.subset hmem, hselector⟩

/-- A part of `ApplyRules` that leaves `generichide_` alone. -/
theorem procedural_generichide (dict : DictValue) (v8Stylesheet : Option String) :
    (s.executeProceduralActions dict v8Stylesheet).generichide = s.generichide := by
  unfold executeProceduralActions
  split
  · rfl
  · simp only
    split <;> rfl

theorem entryPoint_generichide :
    (s.executeObservingBundleEntryPoint setup).generichide = s.generichide := by
  unfold executeObservingBundleEntryPoint
  split <;> rfl

theorem cssRulesRoutine_generichide (dict : DictValue) :
    (s.cssRulesRoutine dict).generichide = s.generichide := by
  unfold cssRulesRoutine
  simp only
  split <;> rfl

theorem hideSelected_generichide (result : DictValue) :
    (s.hideSelected result).generichide = s.generichide := by
  unfold hideSelected
  split
  · rfl
  · simp only
    split <;> rfl

theorem applyRules_generichide {dict : DictValue} (hdict : s.resourcesDict = some dict)
    (v8Stylesheet : Option String) : (s.applyRules setup false v8Stylesheet).generichide =
      (dict.findBool "generichide").getD false := by
  unfold applyRules
  rw [hdict]
  show (cssRulesRoutine _ _).generichide = _
  rw [cssRulesRoutine_generichide, entryPoint_generichide, procedural_generichide]
  rfl

/-- The handler knows whether the observing script ran in the document, once the document has a
context for it. -/
def KnowsBundle (s : CosmeticFrame) : Prop :=
  (s.bundleInjected && s.hasIsolatedWorld) = s.isObserving

theorem KnowsBundle.script (h : s.KnowsBundle) (script : String) :
    (s.executeScriptInIsolatedWorld script).KnowsBundle := by
  show ((s.bundleInjected && s.hasIsolatedWorld) && true) = s.isObserving
  rw [Bool.and_true]
  exact h

theorem KnowsBundle.procedural (h : s.KnowsBundle) (dict : DictValue)
    (v8Stylesheet : Option String) : (s.executeProceduralActions dict v8Stylesheet).KnowsBundle ∧
      (s.executeProceduralActions dict v8Stylesheet).isObserving = s.isObserving ∧
      (s.hasIsolatedWorld = true →
        (s.executeProceduralActions dict v8Stylesheet).hasIsolatedWorld = true) := by
  unfold executeProceduralActions
  split
  · exact ⟨h, rfl, id⟩
  · rename_i script _
    have hscript := h.script script
    simp only
    split
    · exact ⟨hscript, rfl, fun _ => rfl⟩
    · exact ⟨hscript, rfl, fun _ => rfl⟩
    · exact ⟨hscript, rfl, fun _ => rfl⟩

/-- The bundle runs where the script of the document did not, and afterwards it did. -/
theorem KnowsBundle.entryPoint (setup : CosmeticSetup) (h : s.KnowsBundle)
    (hworld : s.hasIsolatedWorld = true) :
    (s.executeObservingBundleEntryPoint setup).KnowsBundle ∧
      (s.executeObservingBundleEntryPoint setup).isObserving = true := by
  unfold executeObservingBundleEntryPoint
  split
  · rename_i hinjected
    refine ⟨h.script _, ?_⟩
    rw [KnowsBundle, hinjected, hworld] at h
    exact h.symm
  · refine ⟨KnowsBundle.script (s := { s with
      bundleInjected := true
      isObserving := true }) ?_ _, rfl⟩
    show (true && s.hasIsolatedWorld) = true
    rw [hworld]
    rfl

theorem KnowsBundle.cssRulesRoutine (h : s.KnowsBundle) (dict : DictValue) :
    (s.cssRulesRoutine dict).KnowsBundle ∧
      (s.cssRulesRoutine dict).isObserving = s.isObserving := by
  unfold CosmeticFrame.cssRulesRoutine
  simp only
  split <;> exact ⟨h, rfl⟩

theorem hideSelected_observing (result : DictValue) :
    (s.KnowsBundle → (s.hideSelected result).KnowsBundle) ∧
      (s.hideSelected result).isObserving = s.isObserving := by
  unfold hideSelected
  split
  · exact ⟨id, rfl⟩
  · simp only
    split <;> exact ⟨id, rfl⟩

/-- Rules are applied with the script of the document running afterwards. -/
theorem KnowsBundle.applyRules (h : s.KnowsBundle) {dict : DictValue}
    (hdict : s.resourcesDict = some dict) (v8Stylesheet : Option String) :
    (s.applyRules setup false v8Stylesheet).KnowsBundle ∧
      (s.applyRules setup false v8Stylesheet).isObserving = true := by
  have hscriptlets : (s.executeScriptlets setup dict).KnowsBundle := by
    unfold CosmeticFrame.executeScriptlets
    split
    · exact h
    · exact h.script _
  have hinit : ((s.executeScriptlets setup dict).preInit setup dict).KnowsBundle :=
    KnowsBundle.script (s := { s.executeScriptlets setup dict with
      generichide := (dict.findBool "generichide").getD false }) hscriptlets _
  obtain ⟨hprocedural, -, hworld⟩ := hinit.procedural dict v8Stylesheet
  obtain ⟨hentry, hobserving⟩ := hprocedural.entryPoint setup (hworld rfl)
  obtain ⟨hrules, hsame⟩ := hentry.cssRulesRoutine dict
  unfold CosmeticFrame.applyRules
  rw [hdict]
  exact ⟨hrules, hsame.trans hobserving⟩

end CosmeticFrame

end ChromiumAdblock
