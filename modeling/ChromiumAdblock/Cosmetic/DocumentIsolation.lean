import ChromiumAdblock.Cosmetic.JSHandler
import ChromiumAdblock.Lib.Epochs

/-! What one document of a frame sees of the documents before it.  A frame is compared with one that
saw nothing but the events of the current document.  They do the same as long as no query is sent
with exceptions of earlier documents, no answer about selectors comes for an earlier document, and
the resources of the current document, when they come without rules, do not leave the rules of an
earlier document in place. -/

namespace ChromiumAdblock

open EventMachine Epochs

/-- A frame with the events of its current document, and the exceptions that the handler held when
the document was committed. -/
structure TracedFrame where
  frame : CosmeticFrame := {}
  own : List FrameEvent := []
  inherited : List String := []

namespace CosmeticFrame

/-- Whether an event is the current document's own: the start of a navigation is for the next
document, and answers and tasks may be left from an earlier one. -/
def isOwn (s : CosmeticFrame) : FrameEvent → Bool
  | .didStartNavigation _ => false
  | .runPostedApplyRules .. => s.applyTasks.head? == some s.document
  | .onUrlCosmeticResources _ => s.urlRequests.head? == some s.document
  | .onHiddenClassIdSelectors _ => s.selectorQueries.head? == some s.document
  | .readyToCommitNavigation .. | .runScriptsAtDocumentStart .. | .hiddenClassIdSelectors _
  | .launchContentPicker _ | .onRemoteDisconnect => true

theorem onHiddenClassIdSelectors_eq {s : CosmeticFrame} {query : Nat} {rest : List Nat}
    (h : s.selectorQueries = query :: rest) (result : DictValue) :
    s.onHiddenClassIdSelectors result =
      if s.generichide then
        { s with selectorQueries := rest }.perform (.consultGenerichide s.generichide)
      else
        ({ s with selectorQueries := rest }.perform
          (.consultGenerichide s.generichide)).hideSelected result := by
  unfold onHiddenClassIdSelectors
  rw [h]
  rfl

end CosmeticFrame

namespace TracedFrame

variable (setup : CosmeticSetup)

def step (t : TracedFrame) (e : FrameEvent) : TracedFrame :=
  match e with
  | .readyToCommitNavigation .. =>
    { frame := t.frame.step setup e
      own := [.didStartNavigation t.frame.navigationUrl, e]
      inherited := t.frame.exceptions }
  | _ =>
    { t with
      frame := t.frame.step setup e
      own := if t.frame.isOwn e then t.own ++ [e] else t.own }

def machine : Machine TracedFrame FrameEvent Empty where
  enabled t e := t.frame.Enabled e
  step t e := .ok (t.step setup e)

/-- No query is sent with exceptions of earlier documents, no answer about selectors comes for an
earlier document, and resources without rules come only where no rules are left from one. -/
def Isolated (t : TracedFrame) : FrameEvent → Prop
  | .hiddenClassIdSelectors _ => t.inherited = []
  | .onHiddenClassIdSelectors _ => t.frame.selectorQueries.head? = some t.frame.document
  | .onUrlCosmeticResources result => t.frame.urlRequests.head? = some t.frame.document →
      result.isDict = true ∨ t.frame.resourcesDict = none
  | _ => True

instance (t : TracedFrame) : (e : FrameEvent) → Decidable (t.Isolated e)
  | .hiddenClassIdSelectors _ => inferInstanceAs (Decidable (t.inherited = []))
  | .onHiddenClassIdSelectors _ =>
    inferInstanceAs (Decidable (t.frame.selectorQueries.head? = some t.frame.document))
  | .onUrlCosmeticResources result =>
    inferInstanceAs (Decidable (t.frame.urlRequests.head? = some t.frame.document →
      result.isDict = true ∨ t.frame.resourcesDict = none))
  | .didStartNavigation _ | .readyToCommitNavigation .. | .runScriptsAtDocumentStart ..
  | .runPostedApplyRules .. | .launchContentPicker _ | .onRemoteDisconnect =>
    inferInstanceAs (Decidable True)

instance (t : TracedFrame) (e : FrameEvent) : Decidable ((machine setup).enabled t e) :=
  inferInstanceAs (Decidable (t.frame.Enabled e))

/-- The runs in which every event is isolated. -/
def isolating : Machine TracedFrame FrameEvent Empty := (machine setup).restrict Isolated

instance (t : TracedFrame) (e : FrameEvent) : Decidable ((isolating setup).enabled t e) :=
  inferInstanceAs (Decidable (((machine setup).restrict Isolated).enabled t e))

/-- The frame that saw nothing but the events of the current document. -/
def alone (own : List FrameEvent) : CosmeticFrame := own.foldl (CosmeticFrame.step setup) {}

end TracedFrame

/-- A frame `s` does in its current document what the frame `c` did, which never had another, with
`inherited` the exceptions of the documents before. -/
structure Shadows (inherited : List String) (s c : CosmeticFrame) : Prop where
  isSignaled : s.isSignaled = c.isSignaled
  waiting : s.waiting = c.waiting
  hasIsolatedWorld : s.hasIsolatedWorld = c.hasIsolatedWorld
  isObserving : s.isObserving = c.isObserving
  effects : s.effects = c.effects
  exceptions : s.exceptions = inherited ++ c.exceptions
  /-- The members that a new document does not reset are set before they are used. -/
  generichide : c.isObserving = true → s.generichide = c.generichide
  bundleInjected : c.hasIsolatedWorld = true → s.bundleInjected = c.bundleInjected
  loaded : c.isSignaled = true → s.resourcesDict = c.resourcesDict
  unloaded : c.isSignaled = false → c.resourcesDict = none
  /-- Answers come in order, so none is left from before the one that signaled. -/
  current : c.isSignaled = true → ∀ request ∈ s.urlRequests, request = s.document
  posted : c.applyTasks ≠ [] → c.isSignaled = true
  asked : c.selectorQueries ≠ [] → c.isObserving = true
  urlRequests : Mirrors s.urlRequests s.document c.urlRequests c.document
  selectorQueries : Mirrors s.selectorQueries s.document c.selectorQueries c.document
  applyTasks : Mirrors s.applyTasks s.document c.applyTasks c.document

namespace Shadows

variable {setup : CosmeticSetup} {inherited : List String} {s c : CosmeticFrame}

theorem start : Shadows [] {} {} where
  isSignaled := rfl
  waiting := rfl
  hasIsolatedWorld := rfl
  isObserving := rfl
  effects := rfl
  exceptions := rfl
  generichide _ := rfl
  bundleInjected _ := rfl
  loaded _ := rfl
  unloaded _ := rfl
  current := by simp
  posted h := absurd rfl h
  asked h := absurd rfl h
  urlRequests := .nil 0 0
  selectorQueries := .nil 0 0
  applyTasks := .nil 0 0

theorem perform (h : Shadows inherited s c) (effect : FrameEffect) :
    Shadows inherited (s.perform effect) (c.perform effect) :=
  { h with effects := congrArg (· ++ [effect]) h.effects }

theorem executeScriptInIsolatedWorld (h : Shadows inherited s c) (script : String) :
    Shadows inherited (s.executeScriptInIsolatedWorld script)
      (c.executeScriptInIsolatedWorld script) := by
  apply perform
  exact { h with
    hasIsolatedWorld := rfl
    bundleInjected := by
      intro _
      show (s.bundleInjected && s.hasIsolatedWorld) = (c.bundleInjected && c.hasIsolatedWorld)
      rw [h.hasIsolatedWorld]
      cases hworld : c.hasIsolatedWorld with
      | false => simp
      | true => rw [h.bundleInjected hworld] }

theorem injectStylesheet (h : Shadows inherited s c) (stylesheet : String) :
    Shadows inherited (s.injectStylesheet stylesheet) (c.injectStylesheet stylesheet) :=
  h.perform _

theorem launchContentPicker (h : Shadows inherited s c) (isProvisional : Bool) :
    Shadows inherited (s.launchContentPicker setup isProvisional)
      (c.launchContentPicker setup isProvisional) := by
  unfold CosmeticFrame.launchContentPicker
  split
  · exact h
  · exact h.executeScriptInIsolatedWorld _

/-! The rules of a dictionary. -/

theorem executeScriptlets (h : Shadows inherited s c) (dict : DictValue) :
    Shadows inherited (s.executeScriptlets setup dict) (c.executeScriptlets setup dict) := by
  unfold CosmeticFrame.executeScriptlets
  split
  · exact h
  · exact h.executeScriptInIsolatedWorld _

/-- From here on `generichide_` is that of the document. -/
theorem preInit (h : Shadows inherited s c) (dict : DictValue) :
    Shadows inherited (s.preInit setup dict) (c.preInit setup dict) := by
  apply executeScriptInIsolatedWorld
  exact { h with generichide := fun _ => rfl }

theorem executeProceduralActions (h : Shadows inherited s c) (dict : DictValue)
    (v8Stylesheet : Option String) :
    Shadows inherited (s.executeProceduralActions dict v8Stylesheet)
      (c.executeProceduralActions dict v8Stylesheet) := by
  unfold CosmeticFrame.executeProceduralActions
  cases dict.findString "procedural_actions_script" with
  | none => exact h
  | some script =>
    have hscript := h.executeScriptInIsolatedWorld script
    simp only
    split
    · exact hscript
    · exact hscript
    · exact hscript.injectStylesheet _

theorem cssRulesRoutine (h : Shadows inherited s c) (dict : DictValue) :
    Shadows inherited (s.cssRulesRoutine dict) (c.cssRulesRoutine dict) := by
  let added := stringItems ((dict.findList "exceptions").getD [])
  have hadded : Shadows inherited { s with exceptions := s.exceptions ++ added }
      { c with exceptions := c.exceptions ++ added } :=
    { h with exceptions := by rw [h.exceptions, List.append_assoc] }
  unfold CosmeticFrame.cssRulesRoutine
  simp only
  split
  · exact hadded
  · exact hadded.injectStylesheet _

theorem procedural_keeps (s : CosmeticFrame) (dict : DictValue) (v8Stylesheet : Option String) :
    (s.executeProceduralActions dict v8Stylesheet).generichide = s.generichide ∧
      (s.hasIsolatedWorld = true →
        (s.executeProceduralActions dict v8Stylesheet).hasIsolatedWorld = true) := by
  unfold CosmeticFrame.executeProceduralActions
  cases dict.findString "procedural_actions_script" with
  | none => exact ⟨rfl, id⟩
  | some script =>
    simp only
    split <;> exact ⟨rfl, fun _ => rfl⟩

/-- The observing script starts after `generichide_` is set. -/
theorem executeObservingBundleEntryPoint (h : Shadows inherited s c)
    (hgeneric : s.generichide = c.generichide) (hworld : c.hasIsolatedWorld = true) :
    Shadows inherited (s.executeObservingBundleEntryPoint setup)
      (c.executeObservingBundleEntryPoint setup) := by
  unfold CosmeticFrame.executeObservingBundleEntryPoint
  rw [h.bundleInjected hworld]
  split
  · exact h.executeScriptInIsolatedWorld _
  · apply Shadows.executeScriptInIsolatedWorld
    exact { h with
      isObserving := rfl
      generichide := fun _ => hgeneric
      bundleInjected := fun _ => rfl
      asked := fun _ => rfl }

theorem applyRules (h : Shadows inherited s c) (hloaded : c.isSignaled = true)
    (isProvisional : Bool) (v8Stylesheet : Option String) :
    Shadows inherited (s.applyRules setup isProvisional v8Stylesheet)
      (c.applyRules setup isProvisional v8Stylesheet) := by
  unfold CosmeticFrame.applyRules
  rw [h.loaded hloaded]
  cases c.resourcesDict with
  | none => exact h
  | some dict =>
    simp only
    split
    · exact h
    · apply cssRulesRoutine
      have hinit : Shadows inherited ((s.executeScriptlets setup dict).preInit setup dict)
          ((c.executeScriptlets setup dict).preInit setup dict) :=
        (h.executeScriptlets dict).preInit dict
      have hkeeps (s : CosmeticFrame) :=
        procedural_keeps ((s.executeScriptlets setup dict).preInit setup dict) dict v8Stylesheet
      refine (hinit.executeProceduralActions dict v8Stylesheet).executeObservingBundleEntryPoint ?_
        ((hkeeps c).2 rfl)
      rw [(hkeeps s).1, (hkeeps c).1]
      rfl

/-! The steps of a document. -/

theorem signal (h : Shadows inherited s c) (dict : Option DictValue) {requests requests' : List Nat}
    (hcurrent : ∀ request ∈ requests, request = s.document)
    (hrequests : Mirrors requests s.document requests' c.document) :
    Shadows inherited
      { s with
        urlRequests := requests
        resourcesDict := dict }.signal
      { c with
        urlRequests := requests'
        resourcesDict := dict }.signal :=
  { h with
    isSignaled := rfl
    waiting := rfl
    loaded := fun _ => rfl
    unloaded := fun hfalse => absurd hfalse (by simp [CosmeticFrame.signal])
    current := fun _ => hcurrent
    posted := fun _ => rfl
    urlRequests := hrequests
    applyTasks := by
      show Mirrors (s.applyTasks ++ List.replicate s.waiting s.document) s.document
        (c.applyTasks ++ List.replicate c.waiting c.document) c.document
      rw [h.waiting]
      exact h.applyTasks.pushes c.waiting }

theorem runScriptsAtDocumentStart (h : Shadows inherited s c) (isProvisional : Bool)
    (v8Stylesheet : Option String) :
    Shadows inherited (s.runScriptsAtDocumentStart setup isProvisional v8Stylesheet)
      (c.runScriptsAtDocumentStart setup isProvisional v8Stylesheet) := by
  unfold CosmeticFrame.runScriptsAtDocumentStart
  by_cases hsignaled : c.isSignaled = true
  · rw [if_pos (h.isSignaled.trans hsignaled), if_pos hsignaled]
    exact h.applyRules hsignaled isProvisional v8Stylesheet
  · rw [if_neg (fun hs => hsignaled (h.isSignaled.symm.trans hs)), if_neg hsignaled]
    exact { h with waiting := congrArg (· + 1) h.waiting }

theorem runPostedApplyRules (h : Shadows inherited s c)
    (hown : s.applyTasks.head? = some s.document) (isProvisional : Bool)
    (v8Stylesheet : Option String) :
    Shadows inherited (s.runPostedApplyRules setup isProvisional v8Stylesheet)
      (c.runPostedApplyRules setup isProvisional v8Stylesheet) := by
  obtain ⟨rest, htasks⟩ := List.head?_eq_some_iff.mp hown
  have hmirrors := h.applyTasks
  rw [htasks] at hmirrors
  obtain ⟨rest', htasks', hrest⟩ := hmirrors.pop
  have hsignaled : c.isSignaled = true := h.posted (by simp [htasks'])
  have hpopped : Shadows inherited { s with applyTasks := rest } { c with applyTasks := rest' } :=
    { h with
      posted := fun _ => hsignaled
      applyTasks := hrest }
  unfold CosmeticFrame.runPostedApplyRules
  simp only [htasks, htasks', if_true]
  exact hpopped.applyRules hsignaled isProvisional v8Stylesheet

theorem runStaleApplyRules (h : Shadows inherited s c) {task : Nat}
    (hhead : s.applyTasks.head? = some task) (hstale : task ≠ s.document) (isProvisional : Bool)
    (v8Stylesheet : Option String) :
    Shadows inherited (s.runPostedApplyRules setup isProvisional v8Stylesheet) c := by
  obtain ⟨rest, htasks⟩ := List.head?_eq_some_iff.mp hhead
  have hmirrors := h.applyTasks
  rw [htasks] at hmirrors
  unfold CosmeticFrame.runPostedApplyRules
  simp only [htasks, if_neg hstale]
  exact { h with applyTasks := hmirrors.drop hstale }

theorem onUrlCosmeticResources (h : Shadows inherited s c)
    (hown : s.urlRequests.head? = some s.document) {result : Value}
    (hresult : result.isDict = true ∨ s.resourcesDict = none) :
    Shadows inherited (s.onUrlCosmeticResources result) (c.onUrlCosmeticResources result) := by
  obtain ⟨rest, hrequests⟩ := List.head?_eq_some_iff.mp hown
  have hmirrors := h.urlRequests
  rw [hrequests] at hmirrors
  obtain ⟨rest', hrequests', hrest⟩ := hmirrors.pop
  have hcurrent : ∀ request ∈ rest, request = s.document := by
    intro request hrequest
    have hall := h.urlRequests.after_own hown
    exact hall request (by simp [hrequests, hrequest])
  have hdict : result.getIfDict.or s.resourcesDict = result.getIfDict.or c.resourcesDict := by
    cases hsignaled : c.isSignaled with
    | true => rw [h.loaded hsignaled]
    | false =>
      rw [h.unloaded hsignaled]
      rcases hresult with hdict | hnone
      · cases result <;> simp_all [Value.isDict, Value.getIfDict]
      · rw [hnone]
  unfold CosmeticFrame.onUrlCosmeticResources
  simp only [hrequests, hrequests', if_true, hdict]
  exact h.signal _ hcurrent hrest

/-- Resources for an earlier document change nothing that is looked at before those of the document
come. -/
theorem onStaleResources (h : Shadows inherited s c) {request : Nat}
    (hhead : s.urlRequests.head? = some request) (hstale : request ≠ s.document) (result : Value) :
    Shadows inherited (s.onUrlCosmeticResources result) c := by
  obtain ⟨rest, hrequests⟩ := List.head?_eq_some_iff.mp hhead
  have hmirrors := h.urlRequests
  rw [hrequests] at hmirrors
  have hunsignaled : ¬c.isSignaled = true := fun hsignaled =>
    hstale (h.current hsignaled request (by simp [hrequests]))
  unfold CosmeticFrame.onUrlCosmeticResources
  simp only [hrequests, if_neg hstale]
  exact { h with
    loaded := fun hsignaled => absurd hsignaled hunsignaled
    current := fun hsignaled => absurd hsignaled hunsignaled
    urlRequests := hmirrors.drop hstale }

theorem hiddenClassIdSelectors (h : Shadows inherited s c) (hnone : inherited = [])
    (hobserving : s.isObserving = true) (input : String) :
    Shadows inherited (s.hiddenClassIdSelectors input) (c.hiddenClassIdSelectors input) := by
  have hexceptions : s.exceptions = c.exceptions := by simpa [hnone] using h.exceptions
  have hquery : FrameEffect.hiddenClassIdSelectors input s.exceptions =
      .hiddenClassIdSelectors input c.exceptions := congrArg _ hexceptions
  unfold CosmeticFrame.hiddenClassIdSelectors
  rw [hquery]
  apply perform
  exact { h with
    asked := fun _ => h.isObserving ▸ hobserving
    selectorQueries := h.selectorQueries.push }

theorem hideSelected (h : Shadows inherited s c) (result : DictValue) :
    Shadows inherited (s.hideSelected result) (c.hideSelected result) := by
  unfold CosmeticFrame.hideSelected
  cases result.findList "hide_selectors" with
  | none => exact h
  | some hideSelectors =>
    apply injectStylesheet
    split
    · exact h
    · exact h
    · exact h.injectStylesheet _

/-- An answer about selectors of the document comes to both frames. -/
theorem onHiddenClassIdSelectors (h : Shadows inherited s c)
    (hown : s.selectorQueries.head? = some s.document) (result : DictValue) :
    Shadows inherited (s.onHiddenClassIdSelectors result) (c.onHiddenClassIdSelectors result) := by
  obtain ⟨rest, hqueries⟩ := List.head?_eq_some_iff.mp hown
  have hmirrors := h.selectorQueries
  rw [hqueries] at hmirrors
  obtain ⟨rest', hqueries', hrest⟩ := hmirrors.pop
  have hobserving : c.isObserving = true := h.asked (by simp [hqueries'])
  have hpopped : Shadows inherited { s with selectorQueries := rest }
      { c with selectorQueries := rest' } :=
    { h with
      asked := fun _ => hobserving
      selectorQueries := hrest }
  have hgeneric := h.generichide hobserving
  have hconsult : FrameEffect.consultGenerichide s.generichide =
      .consultGenerichide c.generichide := congrArg _ hgeneric
  have hconsulted := hpopped.perform (.consultGenerichide c.generichide)
  rw [CosmeticFrame.onHiddenClassIdSelectors_eq hqueries,
    CosmeticFrame.onHiddenClassIdSelectors_eq hqueries', hconsult]
  by_cases hhide : c.generichide = true
  · rw [if_pos (hgeneric.trans hhide), if_pos hhide]
    exact hconsulted
  · rw [if_neg (fun hs => hhide (hgeneric.symm.trans hs)), if_neg hhide]
    exact hconsulted.hideSelected result

theorem onRemoteDisconnect (h : Shadows inherited s c) :
    Shadows inherited s.onRemoteDisconnect c.onRemoteDisconnect :=
  { h with
    current := fun _ => by simp [CosmeticFrame.onRemoteDisconnect]
    asked := fun hne => absurd rfl hne
    urlRequests := .nil _ _
    selectorQueries := .nil _ _ }

/-! A new document. -/

/-- The frame that saw nothing but the start of a navigation. -/
def started (setup : CosmeticSetup) (url : GURL) : CosmeticFrame :=
  CosmeticFrame.step setup {} (.didStartNavigation url)

theorem commit (h : Shadows inherited s c) (url url' : GURL) :
    Shadows s.exceptions (s.commit url) ((started setup url').commit url) where
  isSignaled := rfl
  waiting := rfl
  hasIsolatedWorld := rfl
  isObserving := rfl
  effects := rfl
  exceptions := by simp [CosmeticFrame.commit, started, CosmeticFrame.step]
  generichide := nofun
  bundleInjected := nofun
  loaded := nofun
  unloaded _ := rfl
  current := nofun
  posted hne := absurd rfl hne
  asked hne := absurd rfl hne
  urlRequests := h.urlRequests.advance _
  selectorQueries := h.selectorQueries.advance _
  applyTasks := h.applyTasks.advance _

theorem loadResources (h : Shadows inherited s c) (hnew : c.isSignaled = false)
    (hsync : setup.kCosmeticFilteringSyncLoad = true → s.urlRequests = []) (url : GURL)
    (result : Value) :
    Shadows inherited (s.loadResources setup url result) (c.loadResources setup url result) := by
  have hurl : Shadows inherited
      { s with
        resourcesDict := none
        url := url }
      { c with
        resourcesDict := none
        url := url } :=
    { h with
      loaded := fun _ => rfl
      unloaded := fun _ => rfl }
  unfold CosmeticFrame.loadResources
  split
  · exact h
  · split
    · rename_i hsyncLoad
      unfold CosmeticFrame.processURLSync
      by_cases hbad : (url.isEmpty || !url.isValid) = true
      · simp only [if_pos hbad]
        exact hurl
      · simp only [if_neg hbad]
        have hnone := hsync hsyncLoad
        have hperformed := hurl.perform (.urlCosmeticResources url.spec)
        exact hperformed.signal _ (by simp [CosmeticFrame.perform, hnone]) hperformed.urlRequests
    · unfold CosmeticFrame.processURL
      split
      · exact hurl
      · apply perform
        exact { hurl with
          current := fun hsignaled => absurd (hnew.symm.trans hsignaled) nofun
          urlRequests := hurl.urlRequests.push }

theorem readyToCommitNavigation (h : Shadows inherited s c)
    (hsync : setup.kCosmeticFilteringSyncLoad = true → s.urlRequests = []) (originUrl : GURL)
    (result : Value) :
    Shadows s.exceptions (s.readyToCommitNavigation setup originUrl result)
      ((started setup s.navigationUrl).readyToCommitNavigation setup originUrl result) :=
  (h.commit _ _).loadResources rfl hsync _ result

end Shadows

namespace CosmeticFrame

variable {setup : CosmeticSetup} {s : CosmeticFrame}

theorem executeScriptlets_urlRequests (dict : DictValue) :
    (s.executeScriptlets setup dict).urlRequests = s.urlRequests := by
  unfold executeScriptlets
  split <;> rfl

theorem procedural_urlRequests (dict : DictValue) (v8Stylesheet : Option String) :
    (s.executeProceduralActions dict v8Stylesheet).urlRequests = s.urlRequests := by
  unfold executeProceduralActions
  split
  · rfl
  · simp only
    split <;> rfl

theorem entryPoint_urlRequests :
    (s.executeObservingBundleEntryPoint setup).urlRequests = s.urlRequests := by
  unfold executeObservingBundleEntryPoint
  split <;> rfl

theorem cssRulesRoutine_urlRequests (dict : DictValue) :
    (s.cssRulesRoutine dict).urlRequests = s.urlRequests := by
  unfold cssRulesRoutine
  simp only
  split <;> rfl

theorem applyRules_urlRequests (isProvisional : Bool) (v8Stylesheet : Option String) :
    (s.applyRules setup isProvisional v8Stylesheet).urlRequests = s.urlRequests := by
  unfold applyRules
  split
  · rfl
  · rename_i dict _
    split
    · rfl
    · rw [cssRulesRoutine_urlRequests, entryPoint_urlRequests, procedural_urlRequests]
      exact executeScriptlets_urlRequests dict

theorem hideSelected_urlRequests (result : DictValue) :
    (s.hideSelected result).urlRequests = s.urlRequests := by
  unfold hideSelected
  split
  · rfl
  · simp only
    split <;> rfl

theorem loadResources_urlRequests (hsync : setup.kCosmeticFilteringSyncLoad = true) (url : GURL)
    (result : Value) : (s.loadResources setup url result).urlRequests = s.urlRequests := by
  unfold loadResources processURLSync
  rw [if_pos hsync]
  split
  · rfl
  · by_cases hbad : (url.isEmpty || !url.isValid) = true
    · simp only [if_pos hbad]
    · simp only [if_neg hbad]
      rfl

theorem no_requests_of_sync (hsync : setup.kCosmeticFilteringSyncLoad = true)
    (h : s.urlRequests = []) (e : FrameEvent) : (s.step setup e).urlRequests = [] := by
  cases e with
  | didStartNavigation url => exact h
  | readyToCommitNavigation originUrl result => exact (loadResources_urlRequests hsync _ _).trans h
  | runScriptsAtDocumentStart isProvisional v8Stylesheet =>
    show (s.runScriptsAtDocumentStart setup isProvisional v8Stylesheet).urlRequests = []
    unfold runScriptsAtDocumentStart
    split
    · exact (applyRules_urlRequests _ _).trans h
    · exact h
  | runPostedApplyRules isProvisional v8Stylesheet =>
    show (s.runPostedApplyRules setup isProvisional v8Stylesheet).urlRequests = []
    unfold runPostedApplyRules
    split
    · exact h
    · simp only
      split
      · exact (applyRules_urlRequests _ _).trans h
      · exact h
  | onUrlCosmeticResources result =>
    show (s.onUrlCosmeticResources result).urlRequests = []
    unfold onUrlCosmeticResources
    rw [h]
    exact h
  | hiddenClassIdSelectors input => exact h
  | onHiddenClassIdSelectors result =>
    cases hqueries : s.selectorQueries with
    | nil =>
      show (s.onHiddenClassIdSelectors result).urlRequests = []
      unfold onHiddenClassIdSelectors
      rw [hqueries]
      exact h
    | cons query rest =>
      show (s.onHiddenClassIdSelectors result).urlRequests = []
      rw [onHiddenClassIdSelectors_eq hqueries]
      split
      · exact h
      · exact (hideSelected_urlRequests result).trans h
  | launchContentPicker isProvisional =>
    show (s.launchContentPicker setup isProvisional).urlRequests = []
    unfold launchContentPicker
    split <;> exact h
  | onRemoteDisconnect => rfl

end CosmeticFrame

namespace TracedFrame

variable {setup : CosmeticSetup}

/-- The frame does what it would do alone. -/
structure Inv (setup : CosmeticSetup) (t : TracedFrame) : Prop where
  shadows : Shadows t.inherited t.frame (alone setup t.own)
  noRequests : setup.kCosmeticFilteringSyncLoad = true → t.frame.urlRequests = []

theorem alone_snoc (own : List FrameEvent) (e : FrameEvent) :
    alone setup (own ++ [e]) = (alone setup own).step setup e := by
  simp [alone]

/-- A commit begins a new list of events. -/
def isCommit : FrameEvent → Bool
  | .readyToCommitNavigation .. => true
  | _ => false

theorem step_own_of {t : TracedFrame} {e : FrameEvent} (hcommit : isCommit e = false)
    (hown : t.frame.isOwn e = true) : (t.step setup e).own = t.own ++ [e] := by
  cases e <;> simp_all [step, isCommit]

theorem step_own_of_not {t : TracedFrame} {e : FrameEvent} (hown : t.frame.isOwn e = false) :
    (t.step setup e).own = t.own := by
  cases e <;> simp_all [step, CosmeticFrame.isOwn]

theorem step_shadows {t : TracedFrame} {e : FrameEvent}
    (enabled : (isolating setup).enabled t e) (h : Inv setup t) :
    Shadows (t.step setup e).inherited (t.step setup e).frame
      (alone setup (t.step setup e).own) := by
  obtain ⟨henabled, hisolated⟩ := enabled
  have hs := h.shadows
  cases e with
  | didStartNavigation url => exact { hs with }
  | readyToCommitNavigation originUrl result =>
    exact hs.readyToCommitNavigation h.noRequests originUrl result
  | runScriptsAtDocumentStart isProvisional v8Stylesheet =>
    rw [step_own_of rfl rfl, alone_snoc]
    exact hs.runScriptsAtDocumentStart isProvisional v8Stylesheet
  | runPostedApplyRules isProvisional v8Stylesheet =>
    by_cases hown : t.frame.applyTasks.head? = some t.frame.document
    · rw [step_own_of rfl (by simp [CosmeticFrame.isOwn, hown]), alone_snoc]
      exact hs.runPostedApplyRules hown isProvisional v8Stylesheet
    · have hhead := List.head?_eq_some_head henabled
      rw [step_own_of_not (by simp [CosmeticFrame.isOwn, hown])]
      apply hs.runStaleApplyRules hhead
      intro heq
      exact hown (heq ▸ hhead)
  | onUrlCosmeticResources result =>
    by_cases hown : t.frame.urlRequests.head? = some t.frame.document
    · rw [step_own_of rfl (by simp [CosmeticFrame.isOwn, hown]), alone_snoc]
      exact hs.onUrlCosmeticResources hown (hisolated hown)
    · have hhead := List.head?_eq_some_head henabled
      rw [step_own_of_not (by simp [CosmeticFrame.isOwn, hown])]
      apply hs.onStaleResources hhead
      intro heq
      exact hown (heq ▸ hhead)
  | hiddenClassIdSelectors input =>
    rw [step_own_of rfl rfl, alone_snoc]
    exact hs.hiddenClassIdSelectors hisolated henabled input
  | onHiddenClassIdSelectors result =>
    have hown : t.frame.selectorQueries.head? = some t.frame.document := hisolated
    rw [step_own_of rfl (by simp [CosmeticFrame.isOwn, hown]), alone_snoc]
    exact hs.onHiddenClassIdSelectors hown result
  | launchContentPicker isProvisional =>
    rw [step_own_of rfl rfl, alone_snoc]
    exact hs.launchContentPicker isProvisional
  | onRemoteDisconnect =>
    rw [step_own_of rfl rfl, alone_snoc]
    exact hs.onRemoteDisconnect

theorem step_inv {t : TracedFrame} {e : FrameEvent} (enabled : (isolating setup).enabled t e)
    (h : Inv setup t) : Inv setup (t.step setup e) where
  shadows := step_shadows enabled h
  noRequests hsync := by
    have hframe : (t.step setup e).frame = t.frame.step setup e := by cases e <;> rfl
    rw [hframe]
    exact CosmeticFrame.no_requests_of_sync hsync (h.noRequests hsync) e

theorem run_inv {t : TracedFrame} {es : List FrameEvent} (run : Run (isolating setup) {} es t) :
    Inv setup t := by
  refine run.preserves ?_ ⟨Shadows.start, fun _ => rfl⟩
  intro t e t' enabled step h
  obtain rfl := Except.ok.inj step
  exact step_inv enabled h

/-- What is done in a document follows from the events of the document. -/
theorem effects_alone {t : TracedFrame} {es : List FrameEvent}
    (run : Run (isolating setup) {} es t) : t.frame.effects = (alone setup t.own).effects :=
  (run_inv run).shadows.effects

/-- Runs that differ in earlier documents only do the same in the current one, when their events are
isolated. -/
theorem document_isolated {t₁ t₂ : TracedFrame} {es₁ es₂ : List FrameEvent}
    (run₁ : Run (isolating setup) {} es₁ t₁) (run₂ : Run (isolating setup) {} es₂ t₂)
    (hown : t₁.own = t₂.own) : t₁.frame.effects = t₂.frame.effects := by
  rw [effects_alone run₁, effects_alone run₂, hown]

section Runs

/-- A page whose resources are loaded, whose rules are applied. -/
def visit (host : String) (resources : DictValue) : List FrameEvent :=
  [.didStartNavigation (.https host "/"), .readyToCommitNavigation .empty (.dict resources),
    .runScriptsAtDocumentStart false none]

/-- A page that asks for its resources. -/
def request (host : String) : List FrameEvent :=
  [.didStartNavigation (.https host "/"), .readyToCommitNavigation .empty .none]

def hides (selector : String) : DictValue := [("hide_selectors", .list [.string selector])]

def excepts (selector : String) : DictValue := [("exceptions", .list [.string selector])]

def mainFrame (sync : Bool) : CosmeticSetup where
  jsonWrite _ := ("\"\"", true)
  cosmeticFiltersBundle := "window.content_cosmetic.tryScheduleQueuePump()"
  elementPickerBundle := ""
  isMainFrame := true
  kCosmeticFilteringSyncLoad := sync

/-- A page with a rule, which asks about its classes and gets another rule. -/
def secondPage : List FrameEvent :=
  visit "b.test" (hides ".ad") ++
    [.hiddenClassIdSelectors "\x7b\x7d", .onHiddenClassIdSelectors (hides ".post")]

/-- The page hides the same after a first page as on its own. -/
theorem secondPage_isolated : ∃ t₁ t₂ : TracedFrame,
    Run (isolating (mainFrame true)) {} (visit "a.test" (hides ".banner") ++ secondPage) t₁ ∧
      Run (isolating (mainFrame true)) {} secondPage t₂ ∧ t₁.own = secondPage ∧
      t₁.frame.effects = t₂.frame.effects := by
  obtain ⟨t₁, run₁, hown₁⟩ := Machine.exists_run (isolating (mainFrame true)) {}
    (visit "a.test" (hides ".banner") ++ secondPage) (fun t => t.own = secondPage)
    (by decide +kernel)
  obtain ⟨t₂, run₂, hown₂⟩ := Machine.exists_run (isolating (mainFrame true)) {} secondPage
    (fun t => t.own = secondPage) (by decide +kernel)
  have hown₁ := of_decide_eq_true hown₁
  have hown₂ := of_decide_eq_true hown₂
  exact ⟨t₁, t₂, run₁, run₂, hown₁, document_isolated run₁ run₂ (hown₁.trans hown₂.symm)⟩

/-- Whether two runs have the same events in their current documents, and do different things. -/
def tellsApart (setup : CosmeticSetup) (es₁ es₂ : List FrameEvent) : Bool :=
  match (machine setup).replay {} es₁, (machine setup).replay {} es₂ with
  | some t₁, some t₂ => t₁.own = t₂.own && t₁.frame.effects ≠ t₂.frame.effects
  | _, _ => false

theorem tellsApart_runs {setup : CosmeticSetup} {es₁ es₂ : List FrameEvent}
    (h : tellsApart setup es₁ es₂ = true) : ∃ t₁ t₂, Run (machine setup) {} es₁ t₁ ∧
      Run (machine setup) {} es₂ t₂ ∧ t₁.own = t₂.own ∧ t₁.frame.effects ≠ t₂.frame.effects := by
  unfold tellsApart at h
  split at h
  · rename_i t₁ t₂ hreplay₁ hreplay₂
    obtain ⟨hown, heffects⟩ := (Bool.and_eq_true _ _).mp h
    exact ⟨t₁, t₂, Machine.replay_run hreplay₁, Machine.replay_run hreplay₂,
      of_decide_eq_true hown, of_decide_eq_true heffects⟩
  · contradiction

/-- The second page is told from one that had none before it: by the exceptions that its query
carries, by a stylesheet that the first page asked for, and by rules of the first page that it
applies. -/
theorem second_page_told_apart :
    (∃ t₁ t₂ : TracedFrame,
      Run (machine (mainFrame true)) {} (visit "a.test" (excepts ".ad") ++
        (visit "b.test" [] ++ [.hiddenClassIdSelectors "{}"])) t₁ ∧
      Run (machine (mainFrame true)) {} (visit "b.test" [] ++
        [.hiddenClassIdSelectors "{}"]) t₂ ∧
      t₁.own = t₂.own ∧ t₁.frame.effects ≠ t₂.frame.effects) ∧
    (∃ t₁ t₂ : TracedFrame,
      Run (machine (mainFrame true)) {} (visit "a.test" [] ++
        [.hiddenClassIdSelectors "{}"] ++ visit "b.test" [] ++
        [.onHiddenClassIdSelectors (hides ".ad")]) t₁ ∧
      Run (machine (mainFrame true)) {} (visit "b.test" []) t₂ ∧
      t₁.own = t₂.own ∧ t₁.frame.effects ≠ t₂.frame.effects) ∧
    ∃ t₁ t₂ : TracedFrame,
      Run (machine (mainFrame false)) {} (request "a.test" ++ request "b.test" ++
        [.onUrlCosmeticResources (.dict (hides ".ad")), .onUrlCosmeticResources .none,
          .runScriptsAtDocumentStart false none]) t₁ ∧
      Run (machine (mainFrame false)) {} (request "b.test" ++
        [.onUrlCosmeticResources .none, .runScriptsAtDocumentStart false none]) t₂ ∧
      t₁.own = t₂.own ∧ t₁.frame.effects ≠ t₂.frame.effects :=
  ⟨tellsApart_runs (by decide +kernel), tellsApart_runs (by decide +kernel),
    tellsApart_runs (by decide +kernel)⟩

end Runs

end TracedFrame

end ChromiumAdblock
