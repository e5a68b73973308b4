import ChromiumAdblock.Net.Url

/-! The context of a request: what the request handler and its filters know of the request and what
they decide about it.  `makeCTX` builds a new context for each phase of a request. -/

namespace ChromiumAdblock

inductive BraveNetworkDelegateEventType
  | kOnBeforeRequest
  | kOnBeforeStartTransaction
  | kOnHeadersReceived
  | kOnCanGetCookies
  | kOnCanSetCookies
  | kUnknownEventType
deriving DecidableEq, Repr

inductive BlockedBy
  | kNotBlocked
  | kAdBlocked
  | kOtherBlocked
deriving DecidableEq, Repr

/-- `ProxyRules::Type`. -/
inductive ProxyRulesType
  | EMPTY
  | PROXY_LIST
  | PROXY_LIST_PER_SCHEME
deriving DecidableEq, Repr

/-- What the code reads of a proxy configuration. -/
structure ProxyConfig where
  type : ProxyRulesType := .EMPTY
  fallbackProxiesEmpty : Bool := true
  proxiesForHttpsEmpty : Bool := true
  hasPacUrl : Bool := false
deriving DecidableEq, Repr

/-- A browser context, with its latest proxy configuration if that one is valid. -/
structure BrowserContext where
  latestProxyConfig : Option ProxyConfig := none
deriving DecidableEq, Repr

/-- The features that the request code asks for, with their defaults. -/
structure Features where
  kBraveAdblockCnameUncloaking : Bool := true
  kBraveAdblockCspRules : Bool := true
  kBraveAdblockCollapseBlockedElements : Bool := true
  kBraveExtensionNetworkBlocking : Bool := false
deriving DecidableEq, Repr

/-- What the code reads of a `network::ResourceRequest`. -/
structure ResourceRequest where
  url : GURL
  method : String := "GET"
  requestInitiator : Option GURL := none
  resourceType : ResourceType := .kMainFrame
  referrer : GURL := .empty
  /-- The top frame origin of the trusted parameters, empty if it is opaque. -/
  trustedTopFrameOrigin : Option GURL := none
  devtoolsRequestId : Option String := none
deriving DecidableEq, Repr

structure BraveRequestInfo where
  method : String := ""
  requestUrl : GURL := .empty
  tabOrigin : GURL := .empty
  initiatorUrl : GURL := .empty
  internalRedirect : Bool := false
  redirectSource : GURL := .empty
  newReferrer : Option GURL := none
  pendingError : Option Int := none
  newUrlSpec : String := ""
  allowBraveShields : Bool := true
  requestIdentifier : Nat := 0
  nextUrlRequestIndex : Nat := 0
  browserContext : Option BrowserContext := none
  eventType : BraveNetworkDelegateEventType := .kUnknownEventType
  blockedBy : BlockedBy := .kNotBlocked
  mockDataUrl : String := ""
  resourceType : ResourceType := .kInvalidResourceType
  devtoolsRequestId : Option String := none
deriving DecidableEq, Repr

namespace BraveRequestInfo

def shouldMockRequest (ctx : BraveRequestInfo) : Bool :=
  ctx.blockedBy == .kAdBlocked && ctx.mockDataUrl != ""

/-- `MakeCTX`: a new context, which takes from the old one only where an internal redirect led.
`lastCommittedOrigin` is the origin of the page that the frame of the request belongs to. -/
def makeCTX (request : ResourceRequest) (lastCommittedOrigin : Option GURL)
    (requestIdentifier : Nat) (browserContext : Option BrowserContext)
    (oldCtx : Option BraveRequestInfo) : BraveRequestInfo :=
  let trustedOrigin := request.trustedTopFrameOrigin.getD .empty
  let tabOrigin :=
    if trustedOrigin.isEmpty then lastCommittedOrigin.getD trustedOrigin else trustedOrigin
  { requestIdentifier := requestIdentifier
    method := request.method
    requestUrl := request.url
    initiatorUrl := request.requestInitiator.getD .empty
    resourceType := request.resourceType
    tabOrigin := tabOrigin
    internalRedirect := (oldCtx.map (·.internalRedirect)).getD false
    redirectSource := (oldCtx.map (·.redirectSource)).getD .empty
    allowBraveShields := !tabOrigin.isValid || tabOrigin.schemeIsHTTPOrHTTPS
    browserContext := browserContext
    devtoolsRequestId := request.devtoolsRequestId }

/-- A context that no phase has touched: no verdict, no rewritten URL, and no filter asked. -/
structure Fresh (ctx : BraveRequestInfo) : Prop where
  notBlocked : ctx.blockedBy = .kNotBlocked
  noMock : ctx.mockDataUrl = ""
  noNewUrl : ctx.newUrlSpec = ""
  noError : ctx.pendingError = none
  noReferrer : ctx.newReferrer = none
  atStart : ctx.nextUrlRequestIndex = 0

instance (ctx : BraveRequestInfo) : Decidable ctx.Fresh :=
  decidable_of_iff
    (ctx.blockedBy = .kNotBlocked ∧ ctx.mockDataUrl = "" ∧ ctx.newUrlSpec = "" ∧
      ctx.pendingError = none ∧ ctx.newReferrer = none ∧ ctx.nextUrlRequestIndex = 0)
    ⟨fun ⟨a, b, c, d, e, f⟩ => ⟨a, b, c, d, e, f⟩, fun ⟨a, b, c, d, e, f⟩ => ⟨a, b, c, d, e, f⟩⟩

theorem makeCTX_fresh (request : ResourceRequest) (origin : Option GURL) (id : Nat)
    (browserContext : Option BrowserContext) (oldCtx : Option BraveRequestInfo) :
    (makeCTX request origin id browserContext oldCtx).Fresh :=
  ⟨rfl, rfl, rfl, rfl, rfl, rfl⟩

@[simp] theorem makeCTX_requestUrl (request : ResourceRequest) (origin : Option GURL) (id : Nat)
    (browserContext : Option BrowserContext) (oldCtx : Option BraveRequestInfo) :
    (makeCTX request origin id browserContext oldCtx).requestUrl = request.url := rfl

@[simp] theorem makeCTX_requestIdentifier (request : ResourceRequest) (origin : Option GURL)
    (id : Nat) (browserContext : Option BrowserContext) (oldCtx : Option BraveRequestInfo) :
    (makeCTX request origin id browserContext oldCtx).requestIdentifier = id := rfl

theorem shouldMockRequest_iff {ctx : BraveRequestInfo} :
    ctx.shouldMockRequest = true ↔ ctx.blockedBy = .kAdBlocked ∧ ctx.mockDataUrl ≠ "" := by
  simp [shouldMockRequest]

end BraveRequestInfo

end ChromiumAdblock
