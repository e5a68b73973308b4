import ChromiumAdblock.Lib.Machine
import ChromiumAdblock.Net.RequestHandler

/-! `BraveProxyingURLLoaderFactory`: the proxy between a client that loads URLs and the network.
Each request in progress is checked before it goes to the network, may be redirected or answered
with a stub, and is checked again where it is redirected.  The machine at the end takes the messages
of the client and of the network, the replies of the ad blocker, posted completions, and
disconnects. -/

namespace ChromiumAdblock

/-- What the code reads of a `net::RedirectInfo`. -/
structure RedirectInfo where
  newUrl : GURL
  newMethod : String
  newReferrer : GURL := .empty
deriving DecidableEq, Repr

/-- The continuations of a request that are handed to the request handler. -/
inductive Continuation
  | beforeSendHeaders
  | sendHeaders
  | responseStarted
  | beforeRedirect (redirectInfo : RedirectInfo)
deriving DecidableEq, Repr

/-- A continuation bound to a weak pointer to a request. -/
structure BoundContinuation where
  requestId : Nat
  continuation : Continuation
deriving DecidableEq, Repr

/-- The response headers that filters put in place of the received ones. -/
structure OverrideHeaders where
  /-- The location, if the headers are those of a redirect. -/
  redirectLocation : Option String := none
  responseCode : Int := 200
deriving DecidableEq, Repr

structure FollowRedirectParams where
  newUrl : Option GURL
deriving DecidableEq, Repr

/-- `InProgressRequest`, with two counts of what others still owe it: the redirects that were sent
to the client and not followed yet, and the writes of stub bodies under way.  `checkedCtx` is the
context of the last check, which `RestartInternal` made. -/
structure InProgressRequest where
  request : ResourceRequest
  ctx : Option Nat := none
  targetLoaderBound : Bool := false
  clientReceiverBound : Bool := false
  clientReceiverPaused : Bool := false
  overrideHeaders : Option OverrideHeaders := none
  redirectUrl : GURL := .empty
  requestCompleted : Bool := false
  pendingFollowRedirectParams : Option FollowRedirectParams := none
  redirectsAwaited : Nat := 0
  stubWrites : Nat := 0
  checkedCtx : Option Nat := none
deriving DecidableEq, Repr

/-- What the proxy knows of a request when it goes to the network: its URL, the context of the last
check, and the redirect that this check asked for. -/
structure Leg where
  url : GURL
  checked : Option Cell
  redirectUrl : GURL
deriving DecidableEq, Repr

/-- The messages that a request sends. -/
inductive Message
  /-- `target_factory_->CreateLoaderAndStart`. -/
  | createLoaderAndStart (leg : Leg)
  /-- `target_loader_->FollowRedirect`. -/
  | followRedirect (leg : Leg) (newUrl : Option GURL)
  /-- `target_client_->OnReceiveRedirect`. -/
  | onReceiveRedirect (redirectInfo : RedirectInfo)
  /-- `target_client_->OnReceiveResponse`, with the data URL of a stub. -/
  | onReceiveResponse (mockDataUrl : Option String)
  /-- `target_client_->OnComplete`. -/
  | onComplete (errorCode : Int) (shouldCollapseInitiator : Bool)
deriving DecidableEq, Repr

/-- What stays the same: the instantiation, the features, the libraries, and the browser context. -/
structure ProxySetup where
  kind : PointerKind
  lib : UrlLibrary
  features : Features := {}
  browserContext : Option BrowserContext := some {}
  /-- `ComputeRedirectInfo`, of a request, the new URL, and the response code. -/
  computeRedirectInfo : ResourceRequest → GURL → Int → RedirectInfo

/-- A setup whose library knows the given URLs, and whose redirects keep the method. -/
def ProxySetup.ofUrls (kind : PointerKind) (urls : List GURL) : ProxySetup where
  kind := kind
  lib := .ofUrls urls
  computeRedirectInfo request url _ := ⟨url, request.method, .empty⟩

def ProxySetup.filters (setup : ProxySetup) : FilterLists := setupCallbacks setup.features

/-- What the filters, the system, and the page answer while an event is handled. -/
structure ProxyEnv where
  beforeRequest : Nat → FilterAnswer := fun _ => ⟨Net.ERR_IO_PENDING, none⟩
  startTransaction : Nat → FilterAnswer := fun _ => ⟨Net.ERR_IO_PENDING, none⟩
  headersReceived : Nat → FilterAnswer := fun _ => ⟨Net.ERR_IO_PENDING, none⟩
  /-- What the filters write to `override_response_headers`. -/
  overrideHeaders : Option OverrideHeaders := none
  dataPipeCreated : Bool := true
  lastCommittedOrigin : Option GURL := none

/-- The answers of the filters that a context is run through. -/
def ProxyEnv.answersFor (env : ProxyEnv) (cell : Option Cell) : Nat → FilterAnswer :=
  match cell.map fun cell => cell.info.eventType with
  | some BraveNetworkDelegateEventType.kOnHeadersReceived => env.headersReceived
  | some BraveNetworkDelegateEventType.kOnBeforeStartTransaction => env.startTransaction
  | _ => env.beforeRequest

/-- What would be undefined behaviour or a crash in the proxy. -/
inductive ProxyFault
  | handler (fault : HandlerFault)
  /-- `Resume` of a receiver that is not bound. -/
  | unboundReceiver
deriving DecidableEq, Repr

/-- A request while one of its methods runs: the handler, the request itself, and what it sent. -/
structure Turn where
  id : Nat
  handler : RequestHandler BoundContinuation
  r : InProgressRequest
  sent : List Message := []
  destroyed : Bool := false

namespace Turn

def send (t : Turn) (message : Message) : Turn := { t with sent := t.sent ++ [message] }

/-- The context that the request holds. -/
def info (t : Turn) : BraveRequestInfo := ((t.r.ctx.bind t.handler.ctxs).map (·.info)).getD {}

/-- Changes the context that the request holds. -/
def modifyCtx (t : Turn) (f : BraveRequestInfo → BraveRequestInfo) : Turn :=
  match t.r.ctx with
  | none => t
  | some a =>
    match t.handler.ctxs a with
    | none => t
    | some cell => { t with handler := t.handler.setCell a { cell with info := f cell.info } }

def leg (t : Turn) : Leg where
  url := t.r.request.url
  checked := t.r.checkedCtx.bind t.handler.ctxs
  redirectUrl := t.r.redirectUrl

/-- `Pause` and `Resume` of the client receiver if it is bound. -/
def setPaused (t : Turn) (paused : Bool) : Turn :=
  if t.r.clientReceiverBound then { t with r := { t.r with clientReceiverPaused := paused } } else t

/-- Both ends towards the network are reset. -/
def resetLoader (t : Turn) : Turn :=
  { t with r := { t.r with
      clientReceiverBound := false, clientReceiverPaused := false, targetLoaderBound := false } }

/-- The destructor of the request. -/
def destroy (setup : ProxySetup) (t : Turn) : Turn :=
  match t.r.ctx with
  | none => { t with destroyed := true }
  | some a =>
    let h := t.handler.onURLRequestDestroyed a
    { t with
      handler := if setup.kind = .weakPtr then h.killCtx a else h
      destroyed := true }

/-- The client is told of the error, unless its request was completed by a redirect, and the request
is removed. -/
def onRequestError (setup : ProxySetup) (t : Turn) (errorCode : Int) : Turn :=
  let collapse := setup.features.kBraveAdblockCollapseBlockedElements &&
    t.info.blockedBy == .kAdBlocked
  destroy setup (if t.r.requestCompleted then t else t.send (.onComplete errorCode collapse))

/-- The handler after the request let go of its context. -/
def releaseCtx (setup : ProxySetup) (t : Turn) : RequestHandler BoundContinuation :=
  t.handler.releaseCtx setup.kind t.r.ctx

/-- The context that a request gets next. -/
def makeCTX (setup : ProxySetup) (env : ProxyEnv) (t : Turn) : BraveRequestInfo :=
  .makeCTX t.r.request env.lastCommittedOrigin t.id setup.browserContext
    ((t.r.ctx.bind t.handler.ctxs).map (·.info))

def createBraveRequestInfo (setup : ProxySetup) (env : ProxyEnv) (t : Turn) : Turn :=
  { t with
    handler := (t.releaseCtx setup).newCtx (t.makeCTX setup env)
    r := { t.r with ctx := some (t.releaseCtx setup).nextCtx } }

def createRedirectInfo (setup : ProxySetup) (t : Turn) (newUrl : GURL) (responseCode : Int) :
    RedirectInfo := setup.computeRedirectInfo t.r.request newUrl responseCode

def continueToBeforeRedirect (setup : ProxySetup) (redirectInfo : RedirectInfo) (errorCode : Int)
    (t : Turn) : Turn :=
  if errorCode ≠ Net.OK then onRequestError setup t errorCode
  else
    let t := t.setPaused false
    let t := t.modifyCtx fun ctx =>
      { ctx with redirectSource := if ctx.internalRedirect then .empty else t.r.request.url }
    let t := t.send (.onReceiveRedirect redirectInfo)
    { t with r := { t.r with
        request := { t.r.request with
          url := redirectInfo.newUrl
          method := redirectInfo.newMethod
          referrer := redirectInfo.newReferrer }
        requestCompleted := true
        redirectsAwaited := t.r.redirectsAwaited + 1 } }

/-- The initiator is reset where the redirect leaves an origin that is not the initiator's. -/
def taintInitiator (setup : ProxySetup) (t : Turn) : Turn :=
  match t.r.request.requestInitiator with
  | some initiator =>
    if !setup.lib.isSameOriginWith t.r.redirectUrl t.r.request.url &&
        !setup.lib.isSameOriginWith initiator t.r.request.url then
      { t with r := { t.r with request := { t.r.request with requestInitiator := some .empty } } }
    else t
  | none => t

/-- The check asked for a redirect, which the client is told of as if the server had sent it. -/
def handleBeforeRequestRedirect (setup : ProxySetup) (t : Turn) : Turn :=
  let t := t.resetLoader
  let redirectInfo := t.createRedirectInfo setup t.r.redirectUrl 307
  let t := t.taintInitiator setup
  let t := t.modifyCtx fun ctx => { ctx with internalRedirect := true }
  t.continueToBeforeRedirect setup redirectInfo Net.OK

/-- The network request is started, unless a loader runs or the target factory has gone away. -/
def continueToStartRequest (setup : ProxySetup) (targetFactoryBound : Bool) (errorCode : Int)
    (t : Turn) : Turn :=
  if errorCode ≠ Net.OK then onRequestError setup t errorCode
  else
    let t := t.setPaused false
    if !t.r.targetLoaderBound && targetFactoryBound then
      let t := t.send (.createLoaderAndStart t.leg)
      { t with r := { t.r with
          targetLoaderBound := true, clientReceiverBound := true, clientReceiverPaused := false } }
    else t

/-- A redirect that the client followed is followed on the loader that runs, if one does. -/
def sendFollowRedirect (t : Turn) : Turn :=
  match t.r.pendingFollowRedirectParams with
  | none => t
  | some params =>
    let t := if t.r.targetLoaderBound then t.send (.followRedirect t.leg params.newUrl) else t
    { t with r := { t.r with pendingFollowRedirectParams := none } }

def continueToSendHeaders (setup : ProxySetup) (targetFactoryBound : Bool) (errorCode : Int)
    (t : Turn) : Turn :=
  if errorCode ≠ Net.OK then onRequestError setup t errorCode
  else (t.sendFollowRedirect.setPaused false).continueToStartRequest setup targetFactoryBound Net.OK

/-- The filters may have set a referrer for the request. -/
def useNewReferrer (t : Turn) : Turn :=
  match t.info.newReferrer with
  | some referrer =>
    { t with r := { t.r with request := { t.r.request with referrer := referrer } } }
  | none => t

/-- The request is blocked: with an error, or with a stub in place of the response. -/
def refuse (setup : ProxySetup) (env : ProxyEnv) (t : Turn) : Turn :=
  if t.info.shouldMockRequest = false then onRequestError setup t Net.ERR_BLOCKED_BY_CLIENT
  else if env.dataPipeCreated = false then onRequestError setup t Net.ERR_INSUFFICIENT_RESOURCES
  else
    let t := t.send (.onReceiveResponse (some t.info.mockDataUrl))
    { t with r := { t.r with stubWrites := t.r.stubWrites + 1 } }

def continueToBeforeSendHeaders (setup : ProxySetup) (env : ProxyEnv) (targetFactoryBound : Bool)
    (errorCode : Int) (t : Turn) : Except ProxyFault Turn :=
  if errorCode ≠ Net.OK then .ok (onRequestError setup t errorCode)
  else if t.r.redirectUrl.isEmpty = false then .ok (t.handleBeforeRequestRedirect setup)
  else
    let t := t.useNewReferrer.setPaused false
    if t.info.blockedBy ≠ .kNotBlocked then .ok (t.refuse setup env)
    else if t.r.request.url.schemeIsHTTPOrHTTPS then
      let t := t.createBraveRequestInfo setup env
      match t.handler.onBeforeStartTransaction setup.lib setup.filters env.startTransaction
          (t.r.ctx.getD 0) ⟨t.id, .sendHeaders⟩ with
      | .error fault => .error (.handler fault)
      | .ok reply =>
        let t := { t with handler := reply.handler }
        if reply.result = Net.ERR_BLOCKED_BY_CLIENT then
          .ok (onRequestError setup t reply.result)
        else if reply.result = Net.ERR_IO_PENDING then .ok (t.setPaused true)
        else .ok (t.continueToSendHeaders setup targetFactoryBound Net.OK)
    else .ok (t.continueToSendHeaders setup targetFactoryBound Net.OK)

def continueToResponseStarted (setup : ProxySetup) (errorCode : Int) (t : Turn) :
    Except ProxyFault Turn :=
  if errorCode ≠ Net.OK then .ok (onRequestError setup t errorCode)
  else
    match t.r.overrideHeaders with
    | some { redirectLocation := some location, responseCode } =>
      let redirectInfo := t.createRedirectInfo setup (setup.lib.parse location) responseCode
      let t := t.resetLoader
      let t := t.modifyCtx fun ctx => { ctx with internalRedirect := true }
      .ok (t.continueToBeforeRedirect setup redirectInfo Net.OK)
    | _ =>
      if t.r.clientReceiverBound = false then .error .unboundReceiver
      else .ok ((t.setPaused false).send (.onReceiveResponse none))

/-- Runs a continuation that was handed to the request handler. -/
def runContinuation (setup : ProxySetup) (env : ProxyEnv) (targetFactoryBound : Bool)
    (continuation : Continuation) (errorCode : Int) (t : Turn) : Except ProxyFault Turn :=
  match continuation with
  | .beforeSendHeaders => t.continueToBeforeSendHeaders setup env targetFactoryBound errorCode
  | .sendHeaders => .ok (t.continueToSendHeaders setup targetFactoryBound errorCode)
  | .responseStarted => t.continueToResponseStarted setup errorCode
  | .beforeRedirect redirectInfo => .ok (t.continueToBeforeRedirect setup redirectInfo errorCode)

/-- What `OnBeforeURLRequest` wrote through its pointer to `redirect_url_`. -/
def writeRedirectUrl (r : InProgressRequest) : Option GURL → InProgressRequest
  | some url => { r with redirectUrl := url }
  | none => r

/-- The start of a check: the request gets a fresh context, and no redirect is asked for yet. -/
def beginCheck (setup : ProxySetup) (env : ProxyEnv) (t : Turn) : Turn :=
  let t := { t with r := { t.r with requestCompleted := false, redirectUrl := .empty } }
  let t := t.createBraveRequestInfo setup env
  { t with r := { t.r with checkedCtx := t.r.ctx } }

/-- A request after a call of the request handler that started a phase. -/
def withReply (t : Turn) (reply : RequestHandler.Reply BoundContinuation) : Turn :=
  { t with handler := reply.handler, r := writeRedirectUrl t.r reply.newUrl }

def restartInternal (setup : ProxySetup) (env : ProxyEnv) (targetFactoryBound : Bool) (t : Turn) :
    Except ProxyFault Turn :=
  let t := t.beginCheck setup env
  match t.handler.onBeforeURLRequest setup.lib setup.filters env.beforeRequest (t.r.ctx.getD 0)
      ⟨t.id, .beforeSendHeaders⟩ with
  | .error fault => .error (.handler fault)
  | .ok reply =>
    let t := t.withReply reply
    if reply.result = Net.ERR_BLOCKED_BY_CLIENT then .ok (onRequestError setup t reply.result)
    else if reply.result = Net.ERR_IO_PENDING then .ok (t.setPaused true)
    else t.continueToBeforeSendHeaders setup env targetFactoryBound Net.OK

/-- The client follows a redirect, to another URL if it says so; where a loader runs, it is told
once the URL was checked. -/
def takeFollowRedirect (newUrl : Option GURL) (t : Turn) : Turn :=
  { t with r := { t.r with
      request := { t.r.request with url := newUrl.getD t.r.request.url }
      redirectsAwaited := t.r.redirectsAwaited - 1
      pendingFollowRedirectParams :=
        if t.r.targetLoaderBound then some ⟨newUrl⟩ else t.r.pendingFollowRedirectParams } }

def followRedirect (setup : ProxySetup) (env : ProxyEnv) (targetFactoryBound : Bool)
    (newUrl : Option GURL) (t : Turn) : Except ProxyFault Turn :=
  (t.takeFollowRedirect newUrl).restartInternal setup env targetFactoryBound

/-- The start of the phase of response headers. -/
def beginHeaders (t : Turn) : Turn :=
  { t with r := { t.r with overrideHeaders := none, redirectUrl := .empty } }

/-- What the filters of response headers left in `override_headers_`. -/
def withOverrideHeaders (t : Turn) (overrideHeaders : Option OverrideHeaders) : Turn :=
  { t with r := { t.r with overrideHeaders := overrideHeaders } }

def handleResponseOrRedirectHeaders (setup : ProxySetup) (env : ProxyEnv)
    (targetFactoryBound : Bool) (continuation : Continuation) (t : Turn) : Except ProxyFault Turn :=
  let t := t.beginHeaders
  if t.r.request.url.schemeIsHTTPOrHTTPS then
    let t := t.createBraveRequestInfo setup env
    match t.handler.onHeadersReceived setup.lib setup.filters env.headersReceived (t.r.ctx.getD 0)
        ⟨t.id, continuation⟩ with
    | .error fault => .error (.handler fault)
    | .ok reply =>
      let t := { t with handler := reply.handler }
      if reply.result = Net.ERR_BLOCKED_BY_CLIENT then .ok (onRequestError setup t reply.result)
      else if reply.result = Net.ERR_IO_PENDING then
        -- the filters ran, and may have put other headers in place
        .ok ((t.withOverrideHeaders env.overrideHeaders).setPaused true)
      else t.runContinuation setup env targetFactoryBound continuation Net.OK
  else t.runContinuation setup env targetFactoryBound continuation Net.OK

def onReceiveResponse (setup : ProxySetup) (env : ProxyEnv) (targetFactoryBound : Bool) (t : Turn) :
    Except ProxyFault Turn :=
  (t.modifyCtx fun ctx => { ctx with internalRedirect := false }).handleResponseOrRedirectHeaders
    setup env targetFactoryBound .responseStarted

def onReceiveRedirect (setup : ProxySetup) (env : ProxyEnv) (targetFactoryBound : Bool)
    (redirectInfo : RedirectInfo) (t : Turn) : Except ProxyFault Turn :=
  (t.modifyCtx fun ctx => { ctx with internalRedirect := false }).handleResponseOrRedirectHeaders
    setup env targetFactoryBound (.beforeRedirect redirectInfo)

def onComplete (setup : ProxySetup) (errorCode : Int) (t : Turn) : Turn :=
  if errorCode ≠ Net.OK then onRequestError setup t errorCode
  else destroy setup (t.send (.onComplete errorCode false))

def onLoaderDisconnected (setup : ProxySetup) (followRedirectReason : Bool) (t : Turn) : Turn :=
  if followRedirectReason then destroy setup t else onRequestError setup t Net.ERR_ABORTED

/-- `OnWrite`, once the body of a stub was written or could not be. -/
def onWrite (setup : ProxySetup) (written : Bool) (t : Turn) : Turn :=
  let t := { t with r := { t.r with stubWrites := t.r.stubWrites - 1 } }
  if written = false then t else onComplete setup Net.OK t

end Turn

/-- The factory with the handler that it shares, and what it has sent for which request. -/
structure ProxyFactory where
  handler : RequestHandler BoundContinuation
  requests : Nat → Option InProgressRequest
  lastRequestId : Nat
  targetFactoryBound : Bool
  proxyReceivers : Nat
  removed : Bool
  sent : List (Nat × Message)

/-- The messages of the client and the network, the replies and tasks, and the disconnects. -/
inductive ProxyEvent
  | createLoaderAndStart (request : ResourceRequest) (env : ProxyEnv)
  | clone
  | followRedirect (id : Nat) (newUrl : Option GURL) (env : ProxyEnv)
  | loaderDisconnected (id : Nat) (followRedirectReason : Bool)
  | clientDisconnected (id : Nat)
  | receiveResponse (id : Nat) (env : ProxyEnv)
  | receiveRedirect (id : Nat) (redirectInfo : RedirectInfo) (env : ProxyEnv)
  | complete (id : Nat) (errorCode : Int)
  /-- A filter runs the `next_callback` that it holds for a context. -/
  | resume (a : Nat) (decision : Option Decision) (env : ProxyEnv)
  /-- The next posted completion runs. -/
  | runPosted (env : ProxyEnv)
  | stubWritten (id : Nat) (written : Bool)
  | targetFactoryError
  | proxyBindingError

namespace ProxyFactory

def init : ProxyFactory where
  handler := .init
  requests _ := none
  lastRequestId := 0
  targetFactoryBound := true
  proxyReceivers := 1
  removed := false
  sent := []

def hasRequests (s : ProxyFactory) : Bool :=
  (List.range (s.lastRequestId + 1)).any fun id => (s.requests id).isSome

def maybeRemoveProxy (s : ProxyFactory) : ProxyFactory :=
  if s.targetFactoryBound || s.hasRequests then s else { s with removed := true }

/-- The factory after a turn of a request. -/
def endTurn (s : ProxyFactory) (t : Turn) : ProxyFactory :=
  let s := { s with
    handler := t.handler
    requests := Function.update s.requests t.id (if t.destroyed then none else some t.r)
    sent := s.sent ++ t.sent.map (t.id, ·) }
  if t.destroyed then s.maybeRemoveProxy else s

/-- A method of a request runs, if the request is still there. -/
def turn (s : ProxyFactory) (id : Nat) (f : Turn → Except ProxyFault Turn) :
    Except ProxyFault ProxyFactory :=
  match s.requests id with
  | none => .ok s
  | some r =>
    match f { id := id, handler := s.handler, r := r } with
    | .error fault => .error fault
    | .ok t => .ok (s.endTurn t)

/-- The proxy with a new request under the next identifier. -/
def withNewRequest (s : ProxyFactory) (request : ResourceRequest) : ProxyFactory :=
  { s with
    lastRequestId := s.lastRequestId + 1
    requests := Function.update s.requests (s.lastRequestId + 1) (some { request := request }) }

/-- The proxy after the first posted task was taken off the queue. -/
def withPosted (s : ProxyFactory) (posted : List (Completion BoundContinuation)) : ProxyFactory :=
  { s with handler := { s.handler with posted := posted } }

/-- The redirect that a filter run writes to the request of its context, if it is still there. -/
def writeNewUrl (s : ProxyFactory) (a : Nat) (newUrl : Option GURL) : ProxyFactory :=
  match s.handler.ctxs a with
  | none => s
  | some cell =>
    { s with requests := fun id =>
        if id = cell.info.requestIdentifier then
          (s.requests id).map fun r => Turn.writeRedirectUrl r newUrl
        else s.requests id }

def step (setup : ProxySetup) (s : ProxyFactory) : ProxyEvent → Except ProxyFault ProxyFactory
  | .createLoaderAndStart request env =>
    (s.withNewRequest request).turn (s.lastRequestId + 1)
      (Turn.restartInternal setup env s.targetFactoryBound)
  | .clone => .ok { s with proxyReceivers := s.proxyReceivers + 1 }
  | .followRedirect id newUrl env =>
    s.turn id (Turn.followRedirect setup env s.targetFactoryBound newUrl)
  | .loaderDisconnected id followRedirectReason =>
    s.turn id fun t => .ok (t.onLoaderDisconnected setup followRedirectReason)
  | .clientDisconnected id => s.turn id fun t => .ok (t.onRequestError setup Net.ERR_ABORTED)
  | .receiveResponse id env => s.turn id (Turn.onReceiveResponse setup env s.targetFactoryBound)
  | .receiveRedirect id redirectInfo env =>
    s.turn id (Turn.onReceiveRedirect setup env s.targetFactoryBound redirectInfo)
  | .complete id errorCode => s.turn id fun t => .ok (t.onComplete setup errorCode)
  | .resume a decision env =>
    match s.handler.resume setup.lib setup.filters (env.answersFor (s.handler.ctxs a)) a
        decision with
    | .error fault => .error (.handler fault)
    | .ok (handler, newUrl) => .ok ({ s with handler := handler }.writeNewUrl a newUrl)
  | .runPosted env =>
    match s.handler.posted with
    | [] => .ok s
    | completion :: rest =>
      (s.withPosted rest).turn completion.callback.requestId
        (Turn.runContinuation setup env s.targetFactoryBound completion.callback.continuation
          completion.rv)
  | .stubWritten id written => s.turn id fun t => .ok (t.onWrite setup written)
  | .targetFactoryError =>
    .ok { s with targetFactoryBound := false, proxyReceivers := 0 }.maybeRemoveProxy
  | .proxyBindingError =>
    let s := { s with proxyReceivers := s.proxyReceivers - 1 }
    .ok
      { s with
        targetFactoryBound := s.targetFactoryBound && s.proxyReceivers != 0 }.maybeRemoveProxy

/-- Whether the network can deliver a message to a request. -/
def listens (s : ProxyFactory) (id : Nat) : Bool :=
  match s.requests id with
  | some r => r.clientReceiverBound && !r.clientReceiverPaused
  | none => false

/-- A client follows a redirect that it was sent and has not followed; the network is heard where
the receiver is bound and not paused; a filter resumes what it holds; and so on. -/
def enabled (s : ProxyFactory) : ProxyEvent → Prop
  | .createLoaderAndStart _ _ => 0 < s.proxyReceivers
  | .clone => 0 < s.proxyReceivers
  | .followRedirect id _ _ => ∃ r, s.requests id = some r ∧ 0 < r.redirectsAwaited
  | .loaderDisconnected id _ => (s.requests id).isSome = true
  | .clientDisconnected id => (s.requests id).isSome = true
  | .receiveResponse id _ => s.listens id = true
  | .receiveRedirect id _ _ => s.listens id = true
  | .complete id _ => s.listens id = true
  | .resume a _ _ => ∃ cell, s.handler.ctxs a = some cell ∧ cell.waiting = true
  | .runPosted _ => s.handler.posted ≠ []
  | .stubWritten id _ => ∃ r, s.requests id = some r ∧ 0 < r.stubWrites
  | .targetFactoryError => s.targetFactoryBound = true
  | .proxyBindingError => 0 < s.proxyReceivers

instance (s : ProxyFactory) : ∀ e, Decidable (s.enabled e)
  | .createLoaderAndStart _ _ | .clone | .proxyBindingError =>
    inferInstanceAs (Decidable (0 < s.proxyReceivers))
  | .followRedirect id _ _ =>
    inferInstanceAs (Decidable (∃ r ∈ s.requests id, 0 < r.redirectsAwaited))
  | .loaderDisconnected id _ | .clientDisconnected id =>
    inferInstanceAs (Decidable ((s.requests id).isSome = true))
  | .receiveResponse id _ | .receiveRedirect id _ _ | .complete id _ =>
    inferInstanceAs (Decidable (s.listens id = true))
  | .resume a _ _ => inferInstanceAs (Decidable (∃ cell ∈ s.handler.ctxs a, cell.waiting = true))
  | .runPosted _ => inferInstanceAs (Decidable (¬s.handler.posted = []))
  | .stubWritten id _ => inferInstanceAs (Decidable (∃ r ∈ s.requests id, 0 < r.stubWrites))
  | .targetFactoryError => inferInstanceAs (Decidable (s.targetFactoryBound = true))

def machine (setup : ProxySetup) : EventMachine.Machine ProxyFactory ProxyEvent ProxyFault where
  enabled := enabled
  step := step setup

instance (setup : ProxySetup) (s : ProxyFactory) (e : ProxyEvent) :
    Decidable ((machine setup).enabled s e) := inferInstanceAs (Decidable (s.enabled e))

end ProxyFactory

end ChromiumAdblock
