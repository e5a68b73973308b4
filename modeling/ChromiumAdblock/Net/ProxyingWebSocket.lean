import ChromiumAdblock.Lib.Machine
import ChromiumAdblock.Net.AdBlockTp
import ChromiumAdblock.Net.RequestHandler

/-! `BraveProxyingWebSocket`: the proxy of one WebSocket.  Its URL is checked with the same request
handler as those of the URL loaders, and then the factory that opens the connection is run.  With a
header client, the factory runs right after the check and the headers are handled while it connects;
without one, they are handled before. -/

namespace ChromiumAdblock

/-- The continuations of a WebSocket that are handed to the request handler. -/
inductive SocketContinuation
  | beforeRequestComplete
  | startRequest
  | beforeSendHeadersComplete
  | headersReceivedComplete
deriving DecidableEq, Repr

/-- `BraveProxyingWebSocket`.  `headersAwaited` and `receivedAwaited` count the replies that the
header client of the page still owes, and `checkedCtx` is the context of the check. -/
structure ProxyingWebSocket where
  request : ResourceRequest
  ctx : Option Nat := none
  started : Bool := false
  hasExtraHeaders : Bool := false
  redirectUrl : GURL := .empty
  handshakeReceiverBound : Bool := false
  headerReceiverBound : Bool := false
  receiversPaused : Bool := false
  beforeSendHeadersCallback : Bool := false
  headersReceivedCallback : Bool := false
  headersAwaited : Nat := 0
  receivedAwaited : Nat := 0
  checkedCtx : Option Nat := none
deriving DecidableEq, Repr

/-- What stays the same: the instantiation, the features, the libraries, the browser context, and
the identifier that the generator gives the socket. -/
structure SocketSetup where
  kind : PointerKind
  lib : UrlLibrary
  features : Features := {}
  browserContext : Option BrowserContext := some {}
  requestId : Nat := 1

def SocketSetup.filters (setup : SocketSetup) : FilterLists := setupCallbacks setup.features

/-- What the filters of headers return, and the origin of the page. -/
structure SocketEnv where
  headersFilter : Int := Net.ERR_IO_PENDING
  lastCommittedOrigin : Option GURL := none
deriving DecidableEq, Repr

inductive SocketFault
  | handler (fault : HandlerFault)
  /-- `factory_` is run after it was moved out. -/
  | factoryMoved
deriving DecidableEq, Repr

/-- The socket with its request handler.  `opened` holds, for each run of `factory_`, the context of
the check as it was then. -/
structure SocketProxy where
  handler : RequestHandler SocketContinuation
  w : ProxyingWebSocket
  opened : List (Option Cell) := []
  destroyed : Bool := false

namespace SocketProxy

def checked (s : SocketProxy) : Option Cell := s.w.checkedCtx.bind s.handler.ctxs

/-- `OnError`, which deletes the socket. -/
def onError (setup : SocketSetup) (s : SocketProxy) : SocketProxy :=
  match s.w.ctx with
  | none => { s with destroyed := true }
  | some a =>
    let h := s.handler.onURLRequestDestroyed a
    { s with
      handler := if setup.kind = .weakPtr then h.killCtx a else h
      destroyed := true }

/-- The handler after the socket let go of its context. -/
def releaseCtx (setup : SocketSetup) (s : SocketProxy) : RequestHandler SocketContinuation :=
  s.handler.releaseCtx setup.kind s.w.ctx

/-- The context that a socket gets next. -/
def makeCTX (setup : SocketSetup) (env : SocketEnv) (s : SocketProxy) : BraveRequestInfo :=
  .makeCTX s.w.request env.lastCommittedOrigin setup.requestId setup.browserContext
    ((s.w.ctx.bind s.handler.ctxs).map (·.info))

def createBraveRequestInfo (setup : SocketSetup) (env : SocketEnv) (s : SocketProxy) :
    SocketProxy :=
  { s with
    handler := (s.releaseCtx setup).newCtx (s.makeCTX setup env)
    w := { s.w with ctx := some (s.releaseCtx setup).nextCtx } }

/-- Runs `factory_`. -/
def continueToStartRequest (setup : SocketSetup) (errorCode : Int) (s : SocketProxy) :
    Except SocketFault SocketProxy :=
  if errorCode ≠ Net.OK then .ok (s.onError setup)
  else if s.opened ≠ [] then .error .factoryMoved
  else .ok { s with
    opened := s.opened ++ [s.checked]
    w := { s.w with
      handshakeReceiverBound := true
      headerReceiverBound := s.w.hasExtraHeaders } }

def onBeforeSendHeadersComplete (setup : SocketSetup) (errorCode : Int) (s : SocketProxy) :
    Except SocketFault SocketProxy :=
  if errorCode ≠ Net.OK then .ok (s.onError setup)
  else
    let s := { s with w := { s.w with beforeSendHeadersCallback := false } }
    if s.w.hasExtraHeaders = false then s.continueToStartRequest setup errorCode else .ok s

def onBeforeSendHeadersCompleteFromProxy (setup : SocketSetup) (env : SocketEnv) (errorCode : Int)
    (s : SocketProxy) : Except SocketFault SocketProxy :=
  if errorCode ≠ Net.OK then .ok (s.onError setup)
  else
    let s := s.createBraveRequestInfo setup env
    match s.handler.onBeforeStartTransaction setup.lib setup.filters
        (fun _ => ⟨env.headersFilter, none⟩) (s.w.ctx.getD 0) .beforeSendHeadersComplete with
    | .error fault => .error (.handler fault)
    | .ok reply =>
      let s := { s with handler := reply.handler }
      if reply.result = Net.ERR_BLOCKED_BY_CLIENT then .ok (s.onError setup)
      else if reply.result = Net.ERR_IO_PENDING then .ok s
      else s.onBeforeSendHeadersComplete setup Net.OK

/-- The check is over; with a header client, this is where its headers are asked for. -/
def onBeforeRequestComplete (setup : SocketSetup) (env : SocketEnv) (errorCode : Int)
    (s : SocketProxy) : Except SocketFault SocketProxy :=
  if errorCode ≠ Net.OK then .ok (s.onError setup)
  else if s.w.hasExtraHeaders then
    .ok { s with w := { s.w with headersAwaited := s.w.headersAwaited + 1 } }
  else s.onBeforeSendHeadersCompleteFromProxy setup env Net.OK

def onHeadersReceivedCompleteFromProxy (s : SocketProxy) : SocketProxy :=
  { s with w := { s.w with headersReceivedCallback := false, receiversPaused := false } }

def onHeadersReceivedComplete (setup : SocketSetup) (errorCode : Int) (s : SocketProxy) :
    SocketProxy :=
  if errorCode ≠ Net.OK then s.onError setup
  else if s.w.hasExtraHeaders then
    { s with w := { s.w with receivedAwaited := s.w.receivedAwaited + 1 } }
  else s.onHeadersReceivedCompleteFromProxy

def kEmptyDataURI : String := "data:text/plain,"

def continueToHeadersReceived (setup : SocketSetup) (env : SocketEnv) (s : SocketProxy) :
    Except SocketFault SocketProxy :=
  let s := s.createBraveRequestInfo setup env
  match s.handler.onHeadersReceived setup.lib setup.filters (fun _ => ⟨env.headersFilter, none⟩)
      (s.w.ctx.getD 0) .headersReceivedComplete with
  | .error fault => .error (.handler fault)
  | .ok reply =>
    let s := { s with handler := reply.handler }
    if reply.result = Net.ERR_BLOCKED_BY_CLIENT ∨ s.w.redirectUrl.spec = kEmptyDataURI then
      .ok (s.onError setup)
    else
      let s := { s with w := { s.w with receiversPaused := true } }
      if reply.result = Net.ERR_IO_PENDING then .ok s
      else .ok (s.onHeadersReceivedComplete setup Net.OK)

/-- Runs a continuation that was handed to the request handler. -/
def runContinuation (setup : SocketSetup) (env : SocketEnv) (continuation : SocketContinuation)
    (errorCode : Int) (s : SocketProxy) : Except SocketFault SocketProxy :=
  match continuation with
  | .beforeRequestComplete => s.onBeforeRequestComplete setup env errorCode
  | .startRequest => s.continueToStartRequest setup errorCode
  | .beforeSendHeadersComplete => s.onBeforeSendHeadersComplete setup errorCode
  | .headersReceivedComplete => .ok (s.onHeadersReceivedComplete setup errorCode)

/-- The continuation that the check is started with. -/
def checkContinuation (hasExtraHeaders : Bool) : SocketContinuation :=
  if hasExtraHeaders then .startRequest else .beforeRequestComplete

/-- The socket gets the context of its check. -/
def beginCheck (setup : SocketSetup) (env : SocketEnv) (s : SocketProxy) : SocketProxy :=
  let s := s.createBraveRequestInfo setup env
  { s with w := { s.w with started := true, checkedCtx := s.w.ctx } }

/-- What `OnBeforeURLRequest` wrote through its pointer to `redirect_url_`. -/
def writeRedirectUrl (s : SocketProxy) : Option GURL → SocketProxy
  | some url => { s with w := { s.w with redirectUrl := url } }
  | none => s

/-- The first filter of the check, which asks the ad blocker. -/
def checkFilter (setup : SocketSetup) (info : BraveRequestInfo) : Nat → FilterAnswer :=
  fun _ => ⟨onBeforeURLRequest_AdBlockTPPreWork setup.features info, none⟩

def start (setup : SocketSetup) (env : SocketEnv) (s : SocketProxy) :
    Except SocketFault SocketProxy :=
  let filter := checkFilter setup (s.makeCTX setup env)
  let s := s.beginCheck setup env
  match s.handler.onBeforeURLRequest setup.lib setup.filters filter (s.w.ctx.getD 0)
      (checkContinuation s.w.hasExtraHeaders) with
  | .error fault => .error (.handler fault)
  | .ok reply =>
    let s := { s with handler := reply.handler }.writeRedirectUrl reply.newUrl
    if reply.result = Net.ERR_BLOCKED_BY_CLIENT ∨ s.w.redirectUrl.spec = kEmptyDataURI then
      .ok (s.onError setup)
    else if reply.result = Net.ERR_IO_PENDING then .ok s
    else s.runContinuation setup env (checkContinuation s.w.hasExtraHeaders) Net.OK

def webSocketFactoryRun (setup : SocketSetup) (env : SocketEnv) (trustedHeaderClient : Bool)
    (s : SocketProxy) : Except SocketFault SocketProxy :=
  { s with w := { s.w with hasExtraHeaders := trustedHeaderClient } }.start setup env

/-- `OnBeforeSendHeaders` of the header client of the connection. -/
def onBeforeSendHeaders (setup : SocketSetup) (env : SocketEnv) (s : SocketProxy) :
    Except SocketFault SocketProxy :=
  { s with w := { s.w with beforeSendHeadersCallback := true } }.onBeforeRequestComplete setup env
    Net.OK

/-- `OnHeadersReceived` of the header client of the connection. -/
def onHeadersReceived (setup : SocketSetup) (env : SocketEnv) (s : SocketProxy) :
    Except SocketFault SocketProxy :=
  { s with w := { s.w with headersReceivedCallback := true } }.continueToHeadersReceived setup env

/-- A filter runs the `next_callback` that it holds for the context at `a`, with a result of the ad
blocker if it is the one that asked it. -/
def resume (setup : SocketSetup) (env : SocketEnv) (a : Nat)
    (result : Option ShouldBlockRequestResult) (s : SocketProxy) :
    Except SocketFault SocketProxy :=
  let decision := (s.handler.ctxs a).bind fun cell =>
    result.map fun result => (cell.info.record result).decision
  match s.handler.resume setup.lib setup.filters (fun _ => ⟨env.headersFilter, none⟩) a
      decision with
  | .error fault => .error (.handler fault)
  | .ok (h, newUrl) => .ok ({ s with handler := h }.writeRedirectUrl newUrl)

/-- The next posted completion runs. -/
def runPosted (setup : SocketSetup) (env : SocketEnv) (s : SocketProxy) :
    Except SocketFault SocketProxy :=
  match s.handler.posted with
  | [] => .ok s
  | completion :: rest =>
    let s := { s with handler := { s.handler with posted := rest } }
    if s.destroyed then .ok s
    else s.runContinuation setup env completion.callback completion.rv

def init (request : ResourceRequest) : SocketProxy where
  handler := .init
  w := { request := request }

end SocketProxy

/-- The messages of the page and of the connection, and the replies and tasks. -/
inductive SocketEvent
  | webSocketFactoryRun (trustedHeaderClient : Bool) (env : SocketEnv)
  | resume (a : Nat) (result : Option ShouldBlockRequestResult) (env : SocketEnv)
  | runPosted (env : SocketEnv)
  /-- The header client of the page replies about the headers to send. -/
  | headersFromProxy (errorCode : Int) (env : SocketEnv)
  /-- The header client of the page replies about the received headers. -/
  | receivedFromProxy
  | beforeSendHeaders (env : SocketEnv)
  | headersReceived (env : SocketEnv)
  | connectionEstablished
  | connectionError
deriving DecidableEq, Repr

namespace SocketProxy

def step (setup : SocketSetup) (s : SocketProxy) : SocketEvent → Except SocketFault SocketProxy
  | .webSocketFactoryRun trustedHeaderClient env =>
    s.webSocketFactoryRun setup env trustedHeaderClient
  | .resume a result env => s.resume setup env a result
  | .runPosted env => s.runPosted setup env
  | .headersFromProxy errorCode env =>
    { s with w := { s.w with headersAwaited := s.w.headersAwaited - 1 }
      }.onBeforeSendHeadersCompleteFromProxy setup env errorCode
  | .receivedFromProxy =>
    .ok { s with w := { s.w with receivedAwaited := s.w.receivedAwaited - 1 }
      }.onHeadersReceivedCompleteFromProxy
  | .beforeSendHeaders env => s.onBeforeSendHeaders setup env
  | .headersReceived env => s.onHeadersReceived setup env
  | .connectionEstablished => .ok (s.onError setup)
  | .connectionError => .ok (s.onError setup)

/-- Filters and tasks may come at any time; the page and the connection are heard while the socket
is there, and the connection only once it was opened. -/
def enabled (s : SocketProxy) : SocketEvent → Prop
  | .webSocketFactoryRun _ _ => s.destroyed = false ∧ s.w.started = false
  | .resume a _ _ => ∃ cell, s.handler.ctxs a = some cell ∧ cell.waiting = true
  | .runPosted _ => s.handler.posted ≠ []
  | .headersFromProxy _ _ => s.destroyed = false ∧ 0 < s.w.headersAwaited
  | .receivedFromProxy => s.destroyed = false ∧ 0 < s.w.receivedAwaited
  | .beforeSendHeaders _ | .headersReceived _ =>
    s.destroyed = false ∧ s.w.headerReceiverBound = true ∧ s.w.receiversPaused = false
  | .connectionEstablished =>
    s.destroyed = false ∧ s.w.handshakeReceiverBound = true ∧ s.w.receiversPaused = false
  | .connectionError => s.destroyed = false ∧ s.w.started = true

instance (s : SocketProxy) : ∀ e, Decidable (s.enabled e)
  | .webSocketFactoryRun _ _ =>
    inferInstanceAs (Decidable (s.destroyed = false ∧ s.w.started = false))
  | .resume a _ _ => inferInstanceAs (Decidable (∃ cell ∈ s.handler.ctxs a, cell.waiting = true))
  | .runPosted _ => inferInstanceAs (Decidable (¬s.handler.posted = []))
  | .headersFromProxy _ _ =>
    inferInstanceAs (Decidable (s.destroyed = false ∧ 0 < s.w.headersAwaited))
  | .receivedFromProxy =>
    inferInstanceAs (Decidable (s.destroyed = false ∧ 0 < s.w.receivedAwaited))
  | .beforeSendHeaders _ | .headersReceived _ => inferInstanceAs (Decidable
    (s.destroyed = false ∧ s.w.headerReceiverBound = true ∧ s.w.receiversPaused = false))
  | .connectionEstablished => inferInstanceAs (Decidable
    (s.destroyed = false ∧ s.w.handshakeReceiverBound = true ∧ s.w.receiversPaused = false))
  | .connectionError => inferInstanceAs (Decidable (s.destroyed = false ∧ s.w.started = true))

def machine (setup : SocketSetup) : EventMachine.Machine SocketProxy SocketEvent SocketFault where
  enabled := enabled
  step := step setup

instance (setup : SocketSetup) (s : SocketProxy) (e : SocketEvent) :
    Decidable ((machine setup).enabled s e) := inferInstanceAs (Decidable (s.enabled e))

end SocketProxy

end ChromiumAdblock
