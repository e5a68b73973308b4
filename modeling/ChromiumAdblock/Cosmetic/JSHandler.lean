import ChromiumAdblock.Base.Value
import ChromiumAdblock.Lib.Machine
import ChromiumAdblock.Net.Url

/-! Cosmetic filtering in one frame of a renderer: `CosmeticFiltersJsRenderFrameObserver` and the
`CosmeticFiltersJSHandler` that it owns.  Both live as long as the frame and see one document after
the other.  Requests to the browser are answered in the order in which they were sent, at any later
time, and the handler takes each answer in whatever document the frame then shows. -/

namespace ChromiumAdblock

open EventMachine

/-- What a renderer process is given: the features and their parameters, the scripts that the build
makes, the writer of JSON (the text that it wrote, and whether it is all), and the frame's kind. -/
structure CosmeticSetup where
  jsonWrite : Value → String × Bool
  cosmeticFiltersBundle : String
  elementPickerBundle : String
  isMainFrame : Bool
  kCosmeticFilteringSyncLoad : Bool := true
  subFrameFirstSelectorsPollingDelayMs : String := "1000"
  switchToSelectorsPollingThreshold : String := "1000"
  fetchNewClassIdRulesThrottlingMs : String := "100"

def kObservingScriptletEntryPoint : String := "window.content_cosmetic.tryScheduleQueuePump()"

/-- `kScriptletInitScript` with the script, as JSON. -/
def scriptletInitScript (script : String) : String :=
  "(function() \x7b
          let text = '(function() \x7b\\nconst scriptletGlobals = (() => \x7b\\n" ++
    "const forwardedMapMethods = [\"has\", \"get\", \"set\"];\\nconst handler = \x7b\\n" ++
    "get(target, prop) \x7b if (forwardedMapMethods.includes(prop)) " ++
    "\x7b return Map.prototype[prop].bind(target) \x7d return target.get(prop); \x7d,\\n" ++
    "set(target, prop, value) \x7b if (!forwardedMapMethods.includes(prop)) " ++
    "\x7b target.set(prop, value); \x7d \x7d\\n\x7d;\\n" ++
    "return new Proxy(new Map(), handler);\\n\x7d)();\\n' + " ++ script ++ " + '\x7d)()';
          let script;
          try \x7b
            script = document.createElement('script');
            const textNode = document.createTextNode(text);
            script.appendChild(textNode);
            (document.head || document.documentElement).appendChild(script);
          \x7d catch (ex) \x7b
            /* Unused catch */
          \x7d
          if (script) \x7b
            if (script.parentNode) \x7b
              script.parentNode.removeChild(script);
            \x7d
            script.textContent = '';
          \x7d
        \x7d)();"

/-- `kPreInitScript` with a script. -/
def preInitScript (script : String) : String :=
  "(function() \x7b
          if (window.content_cosmetic == undefined) \x7b
            window.content_cosmetic = \x7b\x7d;
          \x7d
          " ++ script ++ "
        \x7d)();"

/-- `kCosmeticFilteringInitScript` with its four values. -/
def cosmeticFilteringInitScript (generichide delay threshold throttling : String) : String :=
  "\x7b
        const CC = window.content_cosmetic
        if (CC.generichide === undefined)
          CC.generichide = " ++ generichide ++ ";
        if (CC.firstSelectorsPollingDelayMs === undefined)
          CC.firstSelectorsPollingDelayMs = " ++ delay ++ ";
        if (CC.switchToSelectorsPollingThreshold === undefined)
          CC.switchToSelectorsPollingThreshold = " ++ threshold ++ ";
        if (CC.fetchNewClassIdRulesThrottlingMs === undefined)
          CC.fetchNewClassIdRulesThrottlingMs = " ++ throttling ++ ";
       \x7d"

/-- What cosmetic filtering does in a document. -/
inductive FrameEffect
  | executeScriptInIsolatedWorld (script : String)
  | insertStyleSheet (stylesheet : String)
  | urlCosmeticResources (url : String)
  | hiddenClassIdSelectors (input : String) (exceptions : List String)
  /-- `generichide_` was consulted, and had this value. -/
  | consultGenerichide (value : Bool)
deriving DecidableEq, Repr

/-- A frame: the observer's members, the handler's members, the calls and tasks under way, each with
the number of the document that it is for, and the document that the frame shows. -/
structure CosmeticFrame where
  /-- `url_` of the observer. -/
  navigationUrl : GURL := .empty
  /-- Whether `ready_` is signaled. -/
  isSignaled : Bool := false
  /-- How many calls of `ApplyRules` wait for `ready_`. -/
  waiting : Nat := 0
  url : GURL := .empty
  resourcesDict : Option DictValue := none
  exceptions : List String := []
  generichide : Bool := false
  bundleInjected : Bool := false
  urlRequests : List Nat := []
  selectorQueries : List Nat := []
  applyTasks : List Nat := []
  document : Nat := 0
  /-- Whether a navigation has started that is not committed yet. -/
  isNavigating : Bool := false
  /-- Whether the document has a context for the isolated world. -/
  hasIsolatedWorld : Bool := false
  /-- Whether the observing script ran in the document. -/
  isObserving : Bool := false
  /-- What was done in the document so far. -/
  effects : List FrameEffect := []

/-- What happens to a frame. -/
inductive FrameEvent
  | didStartNavigation (url : GURL)
  /-- With the URL of the frame's origin, and the answer to a synchronous request. -/
  | readyToCommitNavigation (originUrl : GURL) (result : Value)
  /-- With what the script of procedural actions returns, if that is a string. -/
  | runScriptsAtDocumentStart (isProvisional : Bool) (v8Stylesheet : Option String)
  /-- A task that `ready_` posted runs. -/
  | runPostedApplyRules (isProvisional : Bool) (v8Stylesheet : Option String)
  | onUrlCosmeticResources (result : Value)
  /-- The observing script calls `cf_worker.hiddenClassIdSelectors`. -/
  | hiddenClassIdSelectors (input : String)
  | onHiddenClassIdSelectors (result : DictValue)
  | launchContentPicker (isProvisional : Bool)
  | onRemoteDisconnect
deriving DecidableEq

/-- The rules that hide the elements of selectors. -/
def hidingRules (selectors : List Value) : String :=
  String.join (selectors.filterMap fun item =>
    item.getIfString.map fun selector => selector ++ "\x7bdisplay:none !important\x7d")

/-- The strings of a list of values. -/
def stringItems (items : List Value) : List String := items.filterMap Value.getIfString

namespace CosmeticFrame

variable (setup : CosmeticSetup)

/-- Something is done in the document. -/
def perform (s : CosmeticFrame) (effect : FrameEffect) : CosmeticFrame :=
  { s with effects := s.effects ++ [effect] }

/-- `ExecuteScriptInIsolatedWorld`.  The first script of a document makes the context, and
`DidCreateScriptContext` calls `AddJavaScriptObjectToFrame`. -/
def executeScriptInIsolatedWorld (s : CosmeticFrame) (script : String) : CosmeticFrame :=
  { s with
    bundleInjected := s.bundleInjected && s.hasIsolatedWorld
    hasIsolatedWorld := true }.perform (.executeScriptInIsolatedWorld script)

def injectStylesheet (s : CosmeticFrame) (stylesheet : String) : CosmeticFrame :=
  s.perform (.insertStyleSheet stylesheet)

def launchContentPicker (isProvisional : Bool) (s : CosmeticFrame) : CosmeticFrame :=
  if isProvisional then s
  else s.executeScriptInIsolatedWorld setup.elementPickerBundle

/-- The script for the scriptlets, or nothing. -/
def scriptletScript (dict : DictValue) : String :=
  match dict.find "injected_script" with
  | none => ""
  | some injectedScript =>
    match setup.jsonWrite injectedScript with
    | (text, true) => scriptletInitScript text
    | (text, false) => text

def initScript (generichide : Bool) : String :=
  preInitScript (cosmeticFilteringInitScript (if generichide then "true" else "false")
    (if setup.isMainFrame then "undefined" else setup.subFrameFirstSelectorsPollingDelayMs)
    setup.switchToSelectorsPollingThreshold setup.fetchNewClassIdRulesThrottlingMs)

def executeScriptlets (dict : DictValue) (s : CosmeticFrame) : CosmeticFrame :=
  if scriptletScript setup dict = "" then s
  else s.executeScriptInIsolatedWorld (scriptletScript setup dict)

def preInit (dict : DictValue) (s : CosmeticFrame) : CosmeticFrame :=
  { s with
    generichide := (dict.findBool "generichide").getD false }.executeScriptInIsolatedWorld
      (initScript setup ((dict.findBool "generichide").getD false))

def executeProceduralActions (dict : DictValue) (v8Stylesheet : Option String)
    (s : CosmeticFrame) : CosmeticFrame :=
  match dict.findString "procedural_actions_script" with
  | none => s
  | some script =>
    let s := s.executeScriptInIsolatedWorld script
    match v8Stylesheet with
    | none | some "" => s
    | some stylesheet => s.injectStylesheet stylesheet

def executeObservingBundleEntryPoint (s : CosmeticFrame) : CosmeticFrame :=
  if s.bundleInjected then s.executeScriptInIsolatedWorld kObservingScriptletEntryPoint
  else
    { s with
      bundleInjected := true
      isObserving := true }.executeScriptInIsolatedWorld setup.cosmeticFiltersBundle

def cssRulesRoutine (dict : DictValue) (s : CosmeticFrame) : CosmeticFrame :=
  let s := { s with
    exceptions := s.exceptions ++ stringItems ((dict.findList "exceptions").getD []) }
  let stylesheet := hidingRules ((dict.findList "hide_selectors").getD []) ++
    hidingRules ((dict.findList "force_hide_selectors").getD [])
  if stylesheet = "" then s else s.injectStylesheet stylesheet

def applyRules (isProvisional : Bool) (v8Stylesheet : Option String) (s : CosmeticFrame) :
    CosmeticFrame :=
  match s.resourcesDict with
  | none => s
  | some dict =>
    if isProvisional then s
    else
      let s := s.executeScriptlets setup dict
      let s := s.preInit setup dict
      let s := s.executeProceduralActions dict v8Stylesheet
      let s := s.executeObservingBundleEntryPoint setup
      s.cssRulesRoutine dict

/-- `Signal` of `ready_` posts the calls that wait for it. -/
def signal (s : CosmeticFrame) : CosmeticFrame :=
  { s with
    isSignaled := true
    waiting := 0
    applyTasks := s.applyTasks ++ List.replicate s.waiting s.document }

/-- `ProcessURL` without a callback; whether it returns true. -/
def processURLSync (result : Value) (url : GURL) (s : CosmeticFrame) : CosmeticFrame × Bool :=
  let s := { s with
    resourcesDict := none
    url := url }
  if url.isEmpty || !url.isValid then (s, false)
  else
    ({ s with resourcesDict := result.getIfDict }.perform (.urlCosmeticResources url.spec), true)

/-- `ProcessURL` with a callback. -/
def processURL (url : GURL) (s : CosmeticFrame) : CosmeticFrame :=
  let s := { s with
    resourcesDict := none
    url := url }
  if url.isEmpty || !url.isValid then s
  else
    { s with urlRequests := s.urlRequests ++ [s.document] }.perform (.urlCosmeticResources url.spec)

/-- A new document, with a new `ready_`. -/
def commit (url : GURL) (s : CosmeticFrame) : CosmeticFrame :=
  { s with
    navigationUrl := url
    isSignaled := false
    waiting := 0
    document := s.document + 1
    isNavigating := false
    hasIsolatedWorld := false
    isObserving := false
    effects := [] }

/-- The URL that the rules of a document are for. -/
def effectiveUrl (url originUrl : GURL) : GURL :=
  if url.isEmpty || !url.isValid || url.spec == "about:blank" then originUrl else url

/-- The part of `ReadyToCommitNavigation` after the new `ready_`. -/
def loadResources (url : GURL) (result : Value) (s : CosmeticFrame) : CosmeticFrame :=
  if !url.schemeIsHTTPOrHTTPS then s
  else if setup.kCosmeticFilteringSyncLoad then
    match s.processURLSync result url with
    | (s, true) => s.signal
    | (s, false) => s
  else s.processURL url

def readyToCommitNavigation (originUrl : GURL) (result : Value) (s : CosmeticFrame) :
    CosmeticFrame :=
  let url := effectiveUrl s.navigationUrl originUrl
  (s.commit url).loadResources setup url result

def runScriptsAtDocumentStart (isProvisional : Bool) (v8Stylesheet : Option String)
    (s : CosmeticFrame) : CosmeticFrame :=
  if s.isSignaled then s.applyRules setup isProvisional v8Stylesheet
  else { s with waiting := s.waiting + 1 }

/-- A task for an earlier document has lost its weak pointer to the observer. -/
def runPostedApplyRules (isProvisional : Bool) (v8Stylesheet : Option String)
    (s : CosmeticFrame) : CosmeticFrame :=
  match s.applyTasks with
  | [] => s
  | task :: rest =>
    let s := { s with applyTasks := rest }
    if task = s.document then s.applyRules setup isProvisional v8Stylesheet else s

/-- The answer is taken whatever document it is for.  `OnProcessURL` is bound to a weak pointer,
which the request of an earlier document has lost. -/
def onUrlCosmeticResources (result : Value) (s : CosmeticFrame) : CosmeticFrame :=
  match s.urlRequests with
  | [] => s
  | request :: rest =>
    let s := { s with
      urlRequests := rest
      resourcesDict := result.getIfDict.or s.resourcesDict }
    if request = s.document then s.signal else s

def hiddenClassIdSelectors (input : String) (s : CosmeticFrame) : CosmeticFrame :=
  { s with selectorQueries := s.selectorQueries ++ [s.document] }.perform
    (.hiddenClassIdSelectors input s.exceptions)

/-- The part of `OnHiddenClassIdSelectors` after the check of `generichide_`. -/
def hideSelected (result : DictValue) (s : CosmeticFrame) : CosmeticFrame :=
  match result.findList "hide_selectors" with
  | none => s
  | some hideSelectors =>
    let s := match result.findList "force_hide_selectors" with
      | none | some [] => s
      | some forceHideSelectors => s.injectStylesheet (hidingRules forceHideSelectors)
    s.injectStylesheet (hidingRules hideSelectors)

def onHiddenClassIdSelectors (result : DictValue) (s : CosmeticFrame) : CosmeticFrame :=
  match s.selectorQueries with
  | [] => s
  | _ :: rest =>
    let s := { s with selectorQueries := rest }.perform (.consultGenerichide s.generichide)
    if s.generichide then s else s.hideSelected result

/-- The pipe is closed, and with it go the calls that it did not answer. -/
def onRemoteDisconnect (s : CosmeticFrame) : CosmeticFrame :=
  { s with
    urlRequests := []
    selectorQueries := [] }

def step (s : CosmeticFrame) : FrameEvent → CosmeticFrame
  | .didStartNavigation url =>
    { s with
      navigationUrl := url
      isNavigating := true }
  | .readyToCommitNavigation originUrl result => s.readyToCommitNavigation setup originUrl result
  | .runScriptsAtDocumentStart isProvisional v8Stylesheet =>
    s.runScriptsAtDocumentStart setup isProvisional v8Stylesheet
  | .runPostedApplyRules isProvisional v8Stylesheet =>
    s.runPostedApplyRules setup isProvisional v8Stylesheet
  | .onUrlCosmeticResources result => s.onUrlCosmeticResources result
  | .hiddenClassIdSelectors input => s.hiddenClassIdSelectors input
  | .onHiddenClassIdSelectors result => s.onHiddenClassIdSelectors result
  | .launchContentPicker isProvisional => s.launchContentPicker setup isProvisional
  | .onRemoteDisconnect => s.onRemoteDisconnect

/-- A navigation commits after it started, answers come to calls under way, and only the observing
script of the document asks about classes and ids. -/
def Enabled (s : CosmeticFrame) : FrameEvent → Prop
  | .readyToCommitNavigation .. => s.isNavigating = true
  | .runPostedApplyRules .. => s.applyTasks ≠ []
  | .onUrlCosmeticResources _ => s.urlRequests ≠ []
  | .onHiddenClassIdSelectors _ => s.selectorQueries ≠ []
  | .hiddenClassIdSelectors _ => s.isObserving = true
  | .didStartNavigation _ | .runScriptsAtDocumentStart .. | .launchContentPicker _
  | .onRemoteDisconnect => True

instance (s : CosmeticFrame) (e : FrameEvent) : Decidable (s.Enabled e) := by
  cases e <;> unfold Enabled <;> infer_instance

end CosmeticFrame

end ChromiumAdblock
