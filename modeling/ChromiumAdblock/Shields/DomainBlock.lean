import ChromiumAdblock.Engine.EngineWrapper
import ChromiumAdblock.Lib.Machine

/-! Domain blocking in one tab.  The throttle of a main-frame navigation defers each request until
the ad-block engines were asked about its URL; then the navigation is resumed, or it is cancelled,
for an interstitial or for a new navigation with a rewritten URL.  A click on "Proceed" sets a flag
of the tab, with which the throttle asks no engine. -/

namespace ChromiumAdblock

open EventMachine

inductive DomainBlockingType
  | kNone
  | kAggressive
deriving DecidableEq, Repr

def getDomainBlockingType (kBraveDomainBlock : Bool) (_url : GURL) : DomainBlockingType :=
  if kBraveDomainBlock = false then .kNone else .kAggressive

/-- `DomainBlockNavigationThrottle::BlockResult`. -/
structure BlockResult where
  shouldBlock : Bool := false
  newUrl : String := ""
deriving DecidableEq, Repr

def shouldBlockDomainOnTaskRunner (lib : UrlLibrary) (url : GURL) (wrapper : AdBlockEngineWrapper) :
    BlockResult :=
  let result := wrapper.shouldStartRequest lib url .kMainFrame url.host false false false
  { shouldBlock := result.important || (result.matched && !result.hasException)
    newUrl := if result.rewrittenUrl.hasValue then result.rewrittenUrl.value else "" }

/-- What the throttle does about a deferred navigation. -/
inductive ThrottleAction
  | resume
  | associateBlockingPage (url : GURL)
  /-- `CANCEL`, with an error if there is one. -/
  | cancelDeferredNavigation (error : Option Int)
  /-- `OpenURL` is posted. -/
  | openUrl (url : GURL)
deriving DecidableEq, Repr

inductive ThrottleFault
  | notReached
deriving DecidableEq, Repr

def showInterstitial (url : GURL) : List ThrottleAction :=
  [.associateBlockingPage url, .cancelDeferredNavigation (some Net.ERR_BLOCKED_BY_CLIENT)]

def restartNavigation (url : GURL) : List ThrottleAction :=
  [.cancelDeferredNavigation none, .openUrl url]

def onShouldBlockDomain (lib : UrlLibrary) (domainBlockingType : DomainBlockingType) (url : GURL)
    (result : BlockResult) : Except ThrottleFault (List ThrottleAction) :=
  if !result.shouldBlock && !(lib.parse result.newUrl).isValid then .ok [.resume]
  else if (lib.parse result.newUrl).isValid then .ok (restartNavigation (lib.parse result.newUrl))
  else
    match domainBlockingType with
    | .kAggressive => .ok (showInterstitial url)
    | .kNone => .error .notReached

/-- How far the current request of a navigation is.  While the navigation is deferred, the engines
are to be asked, or were asked. -/
inductive RequestPhase
  | created
  | deferred (deferral : Nat) (domainBlockingType : DomainBlockingType)
  | checked (deferral : Nat) (domainBlockingType : DomainBlockingType)
      (wrapper : AdBlockEngineWrapper)
  | requesting

/-- A navigation of the main frame, with the click on "Proceed" that it is the reload of. -/
structure TabNavigation where
  url : GURL
  click : Option Nat := none
  phase : RequestPhase := .created

/-- A call of `WillStartRequest` or `WillRedirectRequest`, with the number of events before it. -/
structure RequestCheck where
  time : Nat
  url : GURL
  click : Option Nat
  latestClick : Nat
  domainBlockingType : DomainBlockingType
  isProceeding : Bool
deriving DecidableEq, Repr

namespace RequestCheck

/-- The throttle asked no engine because the tab is proceeding. -/
def skipped (c : RequestCheck) : Bool := c.domainBlockingType != .kNone && c.isProceeding

/-- The navigation is the reload of the latest click on "Proceed". -/
def ofLatestReload (c : RequestCheck) : Bool := c.click == some c.latestClick

end RequestCheck

/-- The answer to a deferred navigation, with the engines that were asked. -/
structure DeferralAnswer where
  deferral : Nat
  url : GURL
  wrapper : AdBlockEngineWrapper
  actions : List ThrottleAction

/-- A tab.  `posted` are the URLs of the posted calls of `OpenURL`, `opened` those of the calls that
ran.  The deferrals are numbered in order; `dropped` are those whose navigation went away. -/
structure Tab where
  kBraveDomainBlock : Bool
  time : Nat := 0
  isProceeding : Bool := false
  clicks : Nat := 0
  navigation : Option TabNavigation := none
  interstitial : Option GURL := none
  posted : List GURL := []
  opened : List GURL := []
  checks : List RequestCheck := []
  deferrals : Nat := 0
  dropped : List Nat := []
  answers : List DeferralAnswer := []

def ThrottleAction.opens : ThrottleAction → Option GURL
  | openUrl url => some url
  | resume | associateBlockingPage _ | cancelDeferredNavigation _ => none

def DeferralAnswer.opens (a : DeferralAnswer) : List GURL := a.actions.filterMap (·.opens)

/-- The deferral of a deferred navigation. -/
def RequestPhase.deferral? : RequestPhase → Option Nat
  | deferred deferral _ | checked deferral _ _ => some deferral
  | created | requesting => none

namespace Tab

variable (lib : UrlLibrary) (s : Tab)

/-- The deferral of the navigation of the tab, while it is deferred. -/
def openDeferrals : List Nat := (s.navigation.bind (·.phase.deferral?)).toList

/-- The navigation of the tab goes away, if there is one. -/
def endNavigation : Tab :=
  { s with navigation := none, dropped := s.dropped ++ s.openDeferrals }

/-- A navigation begins, in place of the one before it. -/
def beginNavigation (url : GURL) (click : Option Nat) : Tab :=
  { s.endNavigation with navigation := some { url, click } }

/-- `Proceed`, with `ReloadPage`. -/
def proceed (url : GURL) : Tab :=
  { s with isProceeding := true, clicks := s.clicks + 1 }.beginNavigation url (some (s.clicks + 1))

def requestCheck (navigation : TabNavigation) : RequestCheck where
  time := s.time
  url := navigation.url
  click := navigation.click
  latestClick := s.clicks
  domainBlockingType := getDomainBlockingType s.kBraveDomainBlock navigation.url
  isProceeding := s.isProceeding

/-- `WillStartRequest`.  There is a throttle where the feature is on. -/
def willStartRequest (navigation : TabNavigation) : Tab :=
  if s.kBraveDomainBlock = false then
    { s with navigation := some { navigation with phase := .requesting } }
  else if (s.requestCheck navigation).domainBlockingType = .kNone ∨ s.isProceeding = true then
    { s with
      checks := s.checks ++ [s.requestCheck navigation]
      navigation := some { navigation with phase := .requesting } }
  else
    { s with
      checks := s.checks ++ [s.requestCheck navigation]
      deferrals := s.deferrals + 1
      navigation := some
        { navigation with
          phase := .deferred s.deferrals (s.requestCheck navigation).domainBlockingType } }

def willProcessResponse (commits : Bool) : Tab :=
  { s with
    isProceeding := if s.kBraveDomainBlock then false else s.isProceeding
    navigation := none
    interstitial := if commits then none else s.interstitial }

/-- The actions of the throttle of a navigation. -/
def act (navigation : TabNavigation) : ThrottleAction → Tab
  | .resume => { s with navigation := some { navigation with phase := .requesting } }
  | .associateBlockingPage url => { s with interstitial := some url }
  | .cancelDeferredNavigation _ => { s with navigation := none }
  | .openUrl url => { s with posted := s.posted ++ [url] }

/-- The reply of the task runner comes. -/
def answer (navigation : TabNavigation) (deferral : Nat) (domainBlockingType : DomainBlockingType)
    (wrapper : AdBlockEngineWrapper) : Except ThrottleFault Tab :=
  match onShouldBlockDomain lib domainBlockingType navigation.url
    (shouldBlockDomainOnTaskRunner lib navigation.url wrapper) with
  | .error fault => .error fault
  | .ok actions =>
    .ok (actions.foldl (fun s action => s.act navigation action)
      { s with answers := s.answers ++ [⟨deferral, navigation.url, wrapper, actions⟩] })

end Tab

inductive TabEvent
  | navigate (url : GURL)
  | proceed
  | willStartRequest
  | willRedirectRequest (url : GURL)
  /-- The task runner asks the engines, as they are then. -/
  | runCheck (wrapper : AdBlockEngineWrapper)
  | onShouldBlockDomain
  | willProcessResponse (commits : Bool)
  /-- The navigation ends without a response: with an error page, or without one. -/
  | fail
  | abort
  | openUrl

namespace Tab

variable (lib : UrlLibrary)

/-- Whether the phase of the navigation, or what else it needs, allows an event. -/
def awaits (s : Tab) : TabEvent → Bool
  | .navigate _ => true
  | .proceed => s.interstitial.isSome
  | .willStartRequest =>
    match s.navigation with
    | some ⟨_, _, .created⟩ => true
    | _ => false
  | .willRedirectRequest _ | .willProcessResponse _ =>
    match s.navigation with
    | some ⟨_, _, .requesting⟩ => true
    | _ => false
  | .runCheck _ =>
    match s.navigation with
    | some ⟨_, _, .deferred _ _⟩ => true
    | _ => false
  | .onShouldBlockDomain =>
    match s.navigation with
    | some ⟨_, _, .checked _ _ _⟩ => true
    | _ => false
  | .fail | .abort => s.navigation.isSome
  | .openUrl => !s.posted.isEmpty

def event (s : Tab) : TabEvent → Except ThrottleFault Tab
  | .navigate url => .ok (s.beginNavigation url none)
  | .proceed =>
    match s.interstitial with
    | some url => .ok (s.proceed url)
    | none => .ok s
  | .willStartRequest =>
    match s.navigation with
    | some navigation => .ok (s.willStartRequest navigation)
    | none => .ok s
  | .willRedirectRequest url =>
    match s.navigation with
    | some navigation => .ok (s.willStartRequest { navigation with url := url })
    | none => .ok s
  | .runCheck wrapper =>
    match s.navigation with
    | some ⟨url, click, .deferred deferral domainBlockingType⟩ =>
      .ok { s with
            navigation := some ⟨url, click, .checked deferral domainBlockingType wrapper⟩ }
    | _ => .ok s
  | .onShouldBlockDomain =>
    match s.navigation with
    | some ⟨url, click, .checked deferral domainBlockingType wrapper⟩ =>
      s.answer lib ⟨url, click, .checked deferral domainBlockingType wrapper⟩ deferral
        domainBlockingType wrapper
    | _ => .ok s
  | .willProcessResponse commits => .ok (s.willProcessResponse commits)
  | .fail => .ok { s.endNavigation with interstitial := none }
  | .abort => .ok s.endNavigation
  | .openUrl =>
    match s.posted with
    | [] => .ok s
    | url :: rest =>
      .ok ({ s with posted := rest, opened := s.opened ++ [url] }.beginNavigation url none)

def step (s : Tab) (e : TabEvent) : Except ThrottleFault Tab :=
  match s.event lib e with
  | .ok s' => .ok { s' with time := s'.time + 1 }
  | .error fault => .error fault

def machine : Machine Tab TabEvent ThrottleFault where
  enabled s e := s.awaits e = true
  step := step lib

instance (s : Tab) (e : TabEvent) : Decidable ((machine lib).enabled s e) :=
  inferInstanceAs (Decidable (s.awaits e = true))

def init (kBraveDomainBlock : Bool) : Tab := { kBraveDomainBlock }

end Tab

/-- Whether a response was processed since the latest click on "Proceed", from whether one was
before the event. -/
def TabEvent.clickAnswered (answered : Bool) : TabEvent → Bool
  | proceed => false
  | willProcessResponse _ => true
  | _ => answered

def lastClickAnswered (es : List TabEvent) : Bool := es.foldl TabEvent.clickAnswered true

/-- The actions by which blocking comes before the rewriting of the URL. -/
def blockingFirst (lib : UrlLibrary) (url : GURL) (result : BlockResult) : List ThrottleAction :=
  if result.shouldBlock then showInterstitial url
  else if (lib.parse result.newUrl).isValid then restartNavigation (lib.parse result.newUrl)
  else [.resume]

section Answers

variable {lib : UrlLibrary} {url : GURL} {result : BlockResult} {actions : List ThrottleAction}

theorem onShouldBlockDomain_cases (lib : UrlLibrary) (url : GURL) (result : BlockResult) :
    onShouldBlockDomain lib .kAggressive url result = .ok [.resume] ∨
    onShouldBlockDomain lib .kAggressive url result =
      .ok (restartNavigation (lib.parse result.newUrl)) ∨
    onShouldBlockDomain lib .kAggressive url result = .ok (showInterstitial url) := by
  unfold onShouldBlockDomain
  split_ifs
  · exact .inl rfl
  · exact .inr (.inl rfl)
  · exact .inr (.inr rfl)

theorem actions_blockingFirst_iff
    (h : onShouldBlockDomain lib .kAggressive url result = .ok actions) :
    actions = blockingFirst lib url result ↔
      ¬(result.shouldBlock = true ∧ (lib.parse result.newUrl).isValid = true) := by
  unfold onShouldBlockDomain at h
  cases hblock : result.shouldBlock <;> cases hvalid : (lib.parse result.newUrl).isValid <;>
    simp [hblock, hvalid] at h <;> subst h <;>
    simp [blockingFirst, hblock, hvalid, showInterstitial, restartNavigation]

end Answers

end ChromiumAdblock
