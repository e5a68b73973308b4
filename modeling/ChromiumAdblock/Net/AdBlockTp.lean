import ChromiumAdblock.Engine.EngineWrapper
import ChromiumAdblock.Net.RequestInfo

/-! The filter that asks the ad blocker before a request: `OnBeforeURLRequest_AdBlockTPPreWork` and
what follows it.  The check of the request URL runs on the ad-block task runner; if it does not
block, the host may be resolved, and the URL with the canonical name is checked with what the first
check found. -/

namespace ChromiumAdblock

/-- The state between the query for a request and the one after CNAME uncloaking. -/
structure EngineFlags where
  didMatchRule : Bool := false
  didMatchException : Bool := false
  didMatchImportant : Bool := false
deriving DecidableEq, Repr

structure ShouldBlockRequestParams where
  initiatorUrl : GURL
  requestUrl : GURL
  resourceType : ResourceType := .kInvalidResourceType
  method : String
  devtoolsRequestId : Option String
deriving DecidableEq, Repr

structure ShouldBlockRequestResult where
  engineFlags : EngineFlags := {}
  newUrlSpec : String := ""
  mockDataUrl : String := ""
  blockedBy : BlockedBy := .kNotBlocked
deriving DecidableEq, Repr

/-- What a check reports to the developer tools. -/
structure AdblockInfo where
  requestUrl : GURL
  checkedUrl : GURL
  sourceHost : String
  resourceType : ResourceType
  blocked : Bool
  didMatchImportantRule : Bool
  didMatchRule : Bool
  didMatchException : Bool
  hasMockData : Bool
  rewrittenUrl : Option String
deriving DecidableEq, Repr

def EngineFlags.add (flags : EngineFlags) (result : BlockerResult) : EngineFlags where
  didMatchRule := flags.didMatchRule || result.matched
  didMatchImportant := flags.didMatchImportant || result.important
  didMatchException := flags.didMatchException || result.hasException

def EngineFlags.blocks (flags : EngineFlags) : Bool :=
  flags.didMatchImportant || flags.didMatchRule && !flags.didMatchException

/-- The methods whose requests a rewritten URL may be applied to. -/
def allowsRewrittenUrl (method : String) : Bool :=
  method == "GET" || method == "HEAD" || method == "OPTIONS"

/-- Whether the answer about the request URL itself carries a rewritten URL that is used. -/
def hasValidRewrittenUrl (lib : UrlLibrary) (input : ShouldBlockRequestParams)
    (canonicalUrl : Option GURL) (adblockResult : BlockerResult) : Bool :=
  canonicalUrl.isNone && adblockResult.rewrittenUrl.hasValue &&
    (lib.parse adblockResult.rewrittenUrl.value).isValid && allowsRewrittenUrl input.method

/-- Checks the canonical URL if there is one, else the request URL. -/
def shouldBlockRequestOnTaskRunner (lib : UrlLibrary) (engineWrapper : AdBlockEngineWrapper)
    (input : ShouldBlockRequestParams) (previousResult : EngineFlags) (canonicalUrl : Option GURL) :
    ShouldBlockRequestResult × Option AdblockInfo :=
  if !input.initiatorUrl.isValid then ({ engineFlags := previousResult }, none)
  else
    let sourceHost := input.initiatorUrl.host
    let urlToCheck := canonicalUrl.getD input.requestUrl
    let adblockResult := engineWrapper.shouldStartRequest lib urlToCheck input.resourceType
      sourceHost previousResult.didMatchRule previousResult.didMatchException
      previousResult.didMatchImportant
    let rewritten := hasValidRewrittenUrl lib input canonicalUrl adblockResult
    let flags := previousResult.add adblockResult
    let result : ShouldBlockRequestResult :=
      { engineFlags := flags
        newUrlSpec := if rewritten then adblockResult.rewrittenUrl.value else ""
        mockDataUrl := adblockResult.redirect.value
        blockedBy := if flags.blocks then .kAdBlocked else .kNotBlocked }
    let info : AdblockInfo :=
      { requestUrl := input.requestUrl
        checkedUrl := urlToCheck
        sourceHost := sourceHost
        resourceType := input.resourceType
        blocked := result.blockedBy == .kAdBlocked
        didMatchImportantRule := flags.didMatchImportant
        didMatchRule := flags.didMatchRule
        didMatchException := flags.didMatchException
        hasMockData := result.mockDataUrl != ""
        rewrittenUrl := if rewritten then some result.newUrlSpec else none }
    (result,
      if input.devtoolsRequestId.isSome &&
          (result.blockedBy == .kAdBlocked || flags.didMatchException) then some info else none)

/-- What happens to a request's filter after a reply on the UI thread. -/
inductive AfterResult
  /-- `next_callback.Run()`. -/
  | next
  /-- A host resolution is started, with the flags that its answer is used with. -/
  | resolveHost (previousResult : EngineFlags)
deriving DecidableEq, Repr

/-- What a reply leaves in the context; only a rewritten URL of an earlier query may stay. -/
def BraveRequestInfo.record (ctx : BraveRequestInfo) (result : ShouldBlockRequestResult) :
    BraveRequestInfo :=
  { ctx with
    blockedBy := result.blockedBy
    mockDataUrl := result.mockDataUrl
    newUrlSpec := if result.newUrlSpec ≠ "" then result.newUrlSpec else ctx.newUrlSpec }

/-- `OnShouldBlockRequestResult` for a context that is alive. -/
def onShouldBlockRequestResult (thenCheckUncloaked : Bool) (ctx : BraveRequestInfo)
    (result : ShouldBlockRequestResult) : BraveRequestInfo × AfterResult :=
  let ctx := ctx.record result
  if ctx.blockedBy ≠ .kAdBlocked ∧ thenCheckUncloaked then (ctx, .resolveHost result.engineFlags)
  else (ctx, .next)

def getCanonicalName (dnsAliases : List String) : String :=
  if dnsAliases.length ≥ 1 then dnsAliases.headD "" else ""

/-- The end of a host resolution: an error, or the aliases that it found. -/
inductive HostResolution
  | failed (error : Int)
  | resolved (dnsAliases : List String)
deriving DecidableEq, Repr

/-- `AdblockCnameResolveHostClient::OnComplete`. -/
def HostResolution.cname : HostResolution → Option String
  | .failed _ => none
  | .resolved dnsAliases => some (getCanonicalName dnsAliases)

/-- The parameters of a check, taken from the context. -/
def paramsOf (ctx : BraveRequestInfo) : ShouldBlockRequestParams where
  initiatorUrl := ctx.initiatorUrl
  requestUrl := ctx.requestUrl
  resourceType := ctx.resourceType
  method := ctx.method
  devtoolsRequestId := ctx.devtoolsRequestId

/-- `UseCnameResult` for a context that is alive: the URL to check next, if there is one. -/
def useCnameResult (lib : UrlLibrary) (ctx : BraveRequestInfo) (cname : Option String) :
    Option GURL :=
  match cname with
  | some cname =>
    if ctx.requestUrl.host ≠ cname ∧ cname ≠ "" then some (lib.replaceHost ctx.requestUrl cname)
    else none
  | none => none

/-- The part of the filter from a reply of the ad-block task runner on: the reply is recorded, and
the host is resolved and checked where that is still due. -/
def afterFirstCheck (lib : UrlLibrary) (engineWrapper : AdBlockEngineWrapper)
    (shouldCheckUncloaked : Bool) (resolution : HostResolution) (ctx : BraveRequestInfo)
    (result : ShouldBlockRequestResult) : BraveRequestInfo × List AdblockInfo :=
  match onShouldBlockRequestResult shouldCheckUncloaked ctx result with
  | (ctx, .next) => (ctx, [])
  | (ctx, .resolveHost previousResult) =>
    match useCnameResult lib ctx resolution.cname with
    | none => (ctx, [])
    | some canonicalUrl =>
      let second := shouldBlockRequestOnTaskRunner lib engineWrapper (paramsOf ctx)
        previousResult (some canonicalUrl)
      ((onShouldBlockRequestResult false ctx second.1).1, second.2.toList)

/-- The checks of a request, from the first query to the run of `next_callback`. -/
def adBlockTPCheck (lib : UrlLibrary) (engineWrapper : AdBlockEngineWrapper)
    (shouldCheckUncloaked : Bool) (resolution : HostResolution) (ctx : BraveRequestInfo) :
    BraveRequestInfo × List AdblockInfo :=
  let first := shouldBlockRequestOnTaskRunner lib engineWrapper (paramsOf ctx) {} none
  let checked :=
    afterFirstCheck lib engineWrapper shouldCheckUncloaked resolution ctx first.1
  (checked.1, first.2.toList ++ checked.2)

def proxySettingsAllowUncloaking (browserContext : BrowserContext) : Bool :=
  match browserContext.latestProxyConfig with
  | none => true
  | some config =>
    let singleProxy := config.type == .PROXY_LIST ||
      config.type == .PROXY_LIST_PER_SCHEME && !config.fallbackProxiesEmpty
    let httpsProxy := config.type == .PROXY_LIST_PER_SCHEME && !config.proxiesForHttpsEmpty
    !singleProxy && !httpsProxy && !config.hasPacUrl

/-- Whether `OnBeforeURLRequestAdBlockTP` lets the host be resolved after the first check. -/
def shouldCheckUncloaked (features : Features) (ctx : BraveRequestInfo) : Bool :=
  features.kBraveAdblockCnameUncloaking &&
    match ctx.browserContext with
    | some browserContext => proxySettingsAllowUncloaking browserContext
    | none => false

/-- `OnBeforeURLRequestAdBlockTP`, with the end of the host resolution that it may start: the
context when `next_callback` runs, and what was reported to the developer tools. -/
def onBeforeURLRequestAdBlockTP (lib : UrlLibrary) (features : Features)
    (engineWrapper : AdBlockEngineWrapper) (resolution : HostResolution) (ctx : BraveRequestInfo) :
    BraveRequestInfo × List AdblockInfo :=
  adBlockTPCheck lib engineWrapper (shouldCheckUncloaked features ctx) resolution ctx

/-- Whether the filter passes a request on without asking the ad blocker. -/
def skipsAdBlock (features : Features) (ctx : BraveRequestInfo) : Bool :=
  (ctx.requestUrl.isEmpty || ctx.initiatorUrl.isEmpty || !ctx.initiatorUrl.hasHost ||
      !ctx.allowBraveShields || ctx.resourceType == .kInvalidResourceType) ||
    (!ctx.requestUrl.schemeIsHTTPOrHTTPS && !ctx.requestUrl.schemeIsWSOrWSS) ||
    (ctx.initiatorUrl.schemeIs "chrome-extension" && !features.kBraveExtensionNetworkBlocking) ||
    (ctx.resourceType == .kMainFrame && !ctx.requestUrl.schemeIsWSOrWSS)

/-- What the filter returns at once: `OK`, or `ERR_IO_PENDING` while the checks run. -/
def onBeforeURLRequest_AdBlockTPPreWork (features : Features) (ctx : BraveRequestInfo) : Int :=
  if skipsAdBlock features ctx then Net.OK else Net.ERR_IO_PENDING

section Record

variable (ctx : BraveRequestInfo) (result : ShouldBlockRequestResult)

@[simp] theorem BraveRequestInfo.record_blockedBy :
    (ctx.record result).blockedBy = result.blockedBy := rfl

@[simp] theorem BraveRequestInfo.record_mockDataUrl :
    (ctx.record result).mockDataUrl = result.mockDataUrl := rfl

@[simp] theorem BraveRequestInfo.record_requestUrl :
    (ctx.record result).requestUrl = ctx.requestUrl := rfl

@[simp] theorem paramsOf_record : paramsOf (ctx.record result) = paramsOf ctx := rfl

@[simp] theorem onShouldBlockRequestResult_false :
    onShouldBlockRequestResult false ctx result = (ctx.record result, .next) := by
  simp [onShouldBlockRequestResult]

variable (lib : UrlLibrary) (engineWrapper : AdBlockEngineWrapper) (resolution : HostResolution)

@[simp] theorem useCnameResult_record (cname : Option String) :
    useCnameResult lib (ctx.record result) cname = useCnameResult lib ctx cname := rfl

/-- A reply that blocks is the last one, and so is every reply where uncloaking is not allowed. -/
theorem afterFirstCheck_final {uncloak : Bool} {result : ShouldBlockRequestResult}
    (h : result.blockedBy = .kAdBlocked ∨ uncloak = false) :
    afterFirstCheck lib engineWrapper uncloak resolution ctx result = (ctx.record result, []) := by
  have hnext : onShouldBlockRequestResult uncloak ctx result = (ctx.record result, .next) := by
    rw [onShouldBlockRequestResult, if_neg]
    rintro ⟨hne, huncloak⟩
    rcases h with hblocked | hfalse
    · exact hne hblocked
    · simp [hfalse] at huncloak
  rw [afterFirstCheck, hnext]

/-- After a reply that does not block, the canonical URL is checked, if there is one. -/
theorem afterFirstCheck_resolve {result : ShouldBlockRequestResult}
    (h : result.blockedBy ≠ .kAdBlocked) :
    afterFirstCheck lib engineWrapper true resolution ctx result =
      match useCnameResult lib ctx resolution.cname with
      | none => (ctx.record result, [])
      | some canonicalUrl =>
        let second := shouldBlockRequestOnTaskRunner lib engineWrapper (paramsOf ctx)
          result.engineFlags (some canonicalUrl)
        ((ctx.record result).record second.1, second.2.toList) := by
  have hresolve : onShouldBlockRequestResult true ctx result =
      (ctx.record result, .resolveHost result.engineFlags) := by
    rw [onShouldBlockRequestResult, if_pos ⟨h, rfl⟩]
  rw [afterFirstCheck, hresolve]
  simp only [useCnameResult_record, paramsOf_record, onShouldBlockRequestResult_false]

end Record

end ChromiumAdblock
