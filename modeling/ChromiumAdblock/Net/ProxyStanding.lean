import ChromiumAdblock.Lib.LoadProtocol
import ChromiumAdblock.Net.ProxyLegs

/-! What the turns of the proxy tell clients and loaders.  A request stands in a phase of the load
that its client waits for and in one of the load that it has started; a turn of a request that
stands leaves it standing, and goes on with both traces as the protocol of a load allows. -/

namespace ChromiumAdblock

open LoadProtocol

namespace RequestHandler

variable {id : Nat} {h h' : RequestHandler BoundContinuation}

/-- The continuations of a request that are still to run: the one entered for it, and those that are
posted. -/
def outstanding (id : Nat) (h : RequestHandler BoundContinuation) : List Continuation :=
  ((h.callbacks id).join.toList ++ (h.postedFor id).map (·.callback)).map (·.continuation)

theorem SameFor.outstanding (hsame : SameFor id h h') : h'.outstanding id = h.outstanding id := by
  have hposted : h'.postedFor id = h.postedFor id := hsame.posted
  rw [RequestHandler.outstanding, hsame.callbacks, hposted, RequestHandler.outstanding]

theorem outstanding_eq_nil :
    h.outstanding id = [] ↔ (h.callbacks id).join = none ∧ h.postedFor id = [] := by
  cases hentry : (h.callbacks id).join <;> simp [outstanding, hentry]

theorem outstanding_of_new {last : Nat} (hb : h.Bounded last) (hid : last < id) :
    h.outstanding id = [] := by
  refine outstanding_eq_nil.mpr ⟨by simp [hb.unknown id hid], ?_⟩
  refine List.filter_eq_nil_iff.mpr fun p hp => ?_
  have hle := hb.posted p hp
  have hne : p.callback.requestId ≠ id := by omega
  simpa using hne

@[simp] theorem outstanding_newCtx (info : BraveRequestInfo) :
    (h.newCtx info).outstanding id = h.outstanding id := rfl
@[simp] theorem outstanding_setCell (a : Nat) (cell : Cell) :
    (h.setCell a cell).outstanding id = h.outstanding id := rfl
@[simp] theorem outstanding_replyOK (a : Nat) :
    (h.replyOK a).handler.outstanding id = h.outstanding id := by
  unfold RequestHandler.replyOK; split <;> rfl

theorem outstanding_releaseCtx (kind : PointerKind) (ctx : Option Nat)
    (hnone : h.outstanding id = []) : (h.releaseCtx kind ctx).outstanding id = [] := by
  unfold RequestHandler.releaseCtx
  split
  · rename_i a
    obtain ⟨hentry, hposted⟩ := outstanding_eq_nil.mp hnone
    refine outstanding_eq_nil.mpr ⟨?_, by simpa [postedFor] using hposted⟩
    rw [killCtx_callbacks]
    unfold RequestHandler.onURLRequestDestroyed
    split
    · rename_i cell _
      by_cases hid : id = cell.info.requestIdentifier
      · rw [hid, setEntry_callbacks_self]
        rfl
      · rw [setEntry_callbacks_of_ne _ _ hid]
        exact hentry
    · exact hentry
  · exact hnone

/-- A phase that was started is the one continuation that is still to run. -/
theorem outstanding_startPhase {lib : UrlLibrary} {filters : FilterLists}
    {answers : Nat → FilterAnswer} {eventType : BraveNetworkDelegateEventType} {a : Nat}
    {cell : Cell} {c : Continuation} {reply : Reply BoundContinuation}
    (hnone : h.outstanding id = [])
    (hstart : startPhase lib filters answers eventType h a cell ⟨id, c⟩ = .ok reply)
    (halive : cell.alive = true) (hid : cell.info.requestIdentifier = id) :
    reply.handler.outstanding id = [c] := by
  obtain ⟨-, hposted⟩ := outstanding_eq_nil.mp hnone
  obtain ⟨-, progress, hadvance, hcase⟩ := startPhase_cases halive hstart
  have hinfo := (advance_same hadvance).requestIdentifier.trans hid
  cases progress with
  | pending info =>
    rw [hcase.2, outstanding_setCell]
    have hkept : (h.entered a cell eventType ⟨id, c⟩).postedFor id = [] := hposted
    have hentry : (h.entered a cell eventType ⟨id, c⟩).callbacks id = some (some ⟨id, c⟩) := by
      simp [RequestHandler.entered, hid]
    simp [outstanding, hentry, hkept]
  | complete info rv newUrl =>
    obtain rfl : info.requestIdentifier = id := hinfo
    have hlast : reply.handler.postedFor info.requestIdentifier =
        [⟨⟨info.requestIdentifier, c⟩, rv, a⟩] := by
      rw [hcase.2]
      simpa [RequestHandler.completed, RequestHandler.entered, postedFor, List.filter_append]
        using hposted
    have hentry : reply.handler.callbacks info.requestIdentifier = some none := by
      rw [hcase.2]
      simp [RequestHandler.completed]
    simp [outstanding, hentry, hlast]

/-- A filter that resumes moves at most the entered continuation to the posted ones. -/
theorem outstanding_resume {last a : Nat} {lib : UrlLibrary} {filters : FilterLists}
    {answers : Nat → FilterAnswer} {decision : Option Decision} {newUrl : Option GURL} {cell : Cell}
    (hb : h.Bounded last) (hcell : h.ctxs a = some cell)
    (hresume : h.resume lib filters answers a decision = .ok (h', newUrl))
    (hone : (h.outstanding cell.info.requestIdentifier).length ≤ 1) :
    h'.outstanding cell.info.requestIdentifier = h.outstanding cell.info.requestIdentifier := by
  simp only [RequestHandler.resume, hcell] at hresume
  generalize hinfo : (if cell.alive = true then cell.info.decide decision else cell.info) = info
    at hresume
  have hid : info.requestIdentifier = cell.info.requestIdentifier := by
    rw [← hinfo]
    split
    · exact (SameRequest.decide cell.info decision).requestIdentifier
    · rfl
  rcases runNextCallback_cases hresume with ⟨rfl, -, -⟩ | ⟨c, progress, hc, -, -, hadvance, hcase⟩
  · rfl
  · obtain rfl : { cell with info := info, waiting := false } = c := by simpa using hc
    have hsame := (advance_same hadvance).requestIdentifier.trans hid
    cases progress with
    | pending info' =>
      rw [hcase.1]
      rfl
    | complete info' rv url =>
      obtain ⟨-, callback, hcallback, rfl⟩ := hcase
      replace hcallback : h.callbacks cell.info.requestIdentifier = some (some callback) := by
        simpa [hid] using hcallback
      have hown : callback.requestId = cell.info.requestIdentifier := hb.entries _ _ hcallback
      have hposted : h.postedFor cell.info.requestIdentifier = [] := by
        simpa [outstanding, hcallback] using hone
      have hsame' : info'.requestIdentifier = cell.info.requestIdentifier := hsame
      have hlast : h.posted.filter (·.callback.requestId == cell.info.requestIdentifier) = [] :=
        hposted
      simp [outstanding, RequestHandler.completed, postedFor, List.filter_append, hsame', hcallback,
        hown, hlast]

end RequestHandler

/-- What a request and its client told each other, and the request and the loader that it started
last. -/
structure Traces where
  client : List Signal := []
  loader : List Signal := []
deriving DecidableEq, Repr

def Traces.toClient (tr : Traces) (x : Signal) : Traces := { tr with client := tr.client ++ [x] }
def Traces.toLoader (tr : Traces) (x : Signal) : Traces := { tr with loader := tr.loader ++ [x] }

/-- The traces after a message of the request. -/
def Traces.sent (tr : Traces) : Message → Traces
  | .createLoaderAndStart _ => { tr with loader := [] }
  | .followRedirect _ _ => tr.toLoader .follow
  | .onReceiveRedirect _ => tr.toClient (.report .redirect)
  | .onReceiveResponse _ => tr.toClient (.report .response)
  | .onComplete errorCode _ => tr.toClient (.report (.complete (errorCode == Net.OK)))

/-- A request that waits for nothing of its client, and has told it of no end. -/
structure InProgressRequest.Open (r : InProgressRequest) : Prop where
  completed : r.requestCompleted = false
  awaited : r.redirectsAwaited = 0
  writes : r.stubWrites = 0

/-- The network is not heard by the request. -/
def InProgressRequest.Unheard (r : InProgressRequest) : Prop :=
  r.clientReceiverBound = true → r.clientReceiverPaused = true

/-- A request whose client is in the given phase and which has the given continuations still to run,
with the phase of the loader that it started last. -/
inductive Standing (loader : LoadPhase) (r : InProgressRequest) :
    LoadPhase → List Continuation → Prop
  | checking (isOpen : r.Open) (unheard : r.Unheard)
      (bound : r.targetLoaderBound = true → loader = .redirected) :
      Standing loader r .loading [.beforeSendHeaders]
  | answering (isOpen : r.Open) (unheard : r.Unheard) (responded : loader = .responded) :
      Standing loader r .loading [.responseStarted]
  | redirecting (redirectInfo : RedirectInfo) (isOpen : r.Open) (unheard : r.Unheard)
      (redirected : loader = .redirected) :
      Standing loader r .loading [.beforeRedirect redirectInfo]
  | loading (isOpen : r.Open)
      (bound : r.targetLoaderBound = true → loader = .loading ∨ loader = .redirected) :
      Standing loader r .loading []
  | redirected (completed : r.requestCompleted = true) (awaited : r.redirectsAwaited = 1)
      (writes : r.stubWrites = 0) (bound : r.targetLoaderBound = true → loader = .redirected) :
      Standing loader r .redirected []
  | responded (completed : r.requestCompleted = false) (awaited : r.redirectsAwaited = 0)
      (bound : r.targetLoaderBound = true → loader = .responded ∨ loader = .redirected) :
      Standing loader r .responded []

namespace InProgressRequest

variable {r r' : InProgressRequest}

/-- What the protocol depends on is the same of two requests. -/
structure SameStanding (r r' : InProgressRequest) : Prop where
  completed : r'.requestCompleted = r.requestCompleted
  awaited : r'.redirectsAwaited = r.redirectsAwaited
  writes : r'.stubWrites = r.stubWrites
  bound : r'.targetLoaderBound = r.targetLoaderBound

theorem SameStanding.refl (r : InProgressRequest) : r.SameStanding r := ⟨rfl, rfl, rfl, rfl⟩

theorem SameStanding.trans {r'' : InProgressRequest} (first : r.SameStanding r')
    (second : r'.SameStanding r'') : r.SameStanding r'' :=
  ⟨second.completed.trans first.completed, second.awaited.trans first.awaited,
    second.writes.trans first.writes, second.bound.trans first.bound⟩

theorem SameStanding.isOpen (h : r.SameStanding r') (hr : r.Open) : r'.Open :=
  ⟨h.completed.trans hr.completed, h.awaited.trans hr.awaited, h.writes.trans hr.writes⟩

end InProgressRequest

namespace Standing

variable {loader client : LoadPhase} {r : InProgressRequest} {pending : List Continuation}

theorem length_le (h : Standing loader r client pending) : pending.length ≤ 1 := by
  cases h <;> simp

/-- The redirect that a filter asks for is no matter of the protocol. -/
theorem writeRedirectUrl (h : Standing loader r client pending) (newUrl : Option GURL) :
    Standing loader (Turn.writeRedirectUrl r newUrl) client pending := by
  cases newUrl with
  | none => exact h
  | some url =>
    cases h with
    | checking isOpen unheard bound => exact .checking ⟨isOpen.1, isOpen.2, isOpen.3⟩ unheard bound
    | answering isOpen unheard responded =>
      exact .answering ⟨isOpen.1, isOpen.2, isOpen.3⟩ unheard responded
    | redirecting redirectInfo isOpen unheard redirected =>
      exact .redirecting redirectInfo ⟨isOpen.1, isOpen.2, isOpen.3⟩ unheard redirected
    | loading isOpen bound => exact .loading ⟨isOpen.1, isOpen.2, isOpen.3⟩ bound
    | redirected completed awaited writes bound => exact .redirected completed awaited writes bound
    | responded completed awaited bound => exact .responded completed awaited bound

/-- A request that hears the network has nothing to run. -/
theorem pending_of_heard (h : Standing loader r client pending)
    (hbound : r.clientReceiverBound = true) (hheard : r.clientReceiverPaused = false) :
    pending = [] := by
  have habsurd : ¬r.Unheard := fun hunheard => by simp [hunheard hbound] at hheard
  cases h with
  | checking _ unheard | answering _ unheard | redirecting _ _ unheard =>
    exact absurd unheard habsurd
  | loading | redirected | responded => rfl

end Standing

namespace Turn

variable {tr : Traces} {loader client : LoadPhase} {t t' : Turn} {setup : ProxySetup}
  {env : ProxyEnv}

/-- The traces after the messages that the turn has sent. -/
def traces (tr : Traces) (t : Turn) : Traces := t.sent.foldl Traces.sent tr

/-- The phases that the traces of a turn have led to. -/
structure At (tr : Traces) (loader client : LoadPhase) (t : Turn) : Prop where
  loader : after (t.traces tr).loader .loading = some loader
  client : after (t.traces tr).client .loading = some client

/-- A turn of a request that has nothing to run, with its phases. -/
structure Settled (tr : Traces) (loader client : LoadPhase) (t : Turn) : Prop
    extends t.At tr loader client where
  idle : t.handler.outstanding t.id = []

/-- A turn that keeps the protocol, and leaves its request standing if it does not destroy it. -/
def Served (tr : Traces) (t : Turn) : Prop :=
  ∃ loader client, t.At tr loader client ∧
    (t.destroyed = false → Standing loader t.r client (t.handler.outstanding t.id))

theorem At.ofSent (h : t.At tr loader client) (hsent : t'.sent = t.sent) :
    t'.At tr loader client := by
  have htraces : t'.traces tr = t.traces tr := by rw [traces, hsent, traces]
  exact ⟨htraces ▸ h.loader, htraces ▸ h.client⟩

@[simp] theorem traces_send (t : Turn) (message : Message) :
    (t.send message).traces tr = (t.traces tr).sent message := by
  simp [traces, Turn.send]

theorem At.toClient {x : Signal} {m : Message} {p : LoadPhase} (h : t.At tr loader client)
    (hnext : client.next x = some p)
    (hsent : ∀ traces : Traces, traces.sent m = traces.toClient x) :
    (t.send m).At tr loader p := by
  constructor
  · rw [traces_send, hsent]
    exact h.loader
  · rw [traces_send, hsent]
    exact (after_concat h.client).trans hnext

namespace Settled

theorem ofHandler (h : t.Settled tr loader client) (hsent : t'.sent = t.sent)
    (hidle : t'.handler.outstanding t'.id = []) : t'.Settled tr loader client :=
  ⟨h.toAt.ofSent hsent, hidle⟩

theorem setPaused (h : t.Settled tr loader client) (paused : Bool) :
    (t.setPaused paused).Settled tr loader client :=
  h.ofHandler (setPaused_sent t paused) (by simpa using h.idle)

theorem modifyCtx (h : t.Settled tr loader client) (f : BraveRequestInfo → BraveRequestInfo) :
    (t.modifyCtx f).Settled tr loader client := by
  unfold Turn.modifyCtx
  split
  · exact h
  · split
    · exact h
    · exact h.ofHandler rfl h.idle

theorem createBraveRequestInfo (setup : ProxySetup) (env : ProxyEnv)
    (h : t.Settled tr loader client) :
    (t.createBraveRequestInfo setup env).Settled tr loader client :=
  h.ofHandler rfl (RequestHandler.outstanding_releaseCtx _ _ h.idle)

theorem passTransaction (h : t.Settled tr loader client) :
    (t.passTransaction setup env).Settled tr loader client := by
  unfold Turn.passTransaction
  split
  · have hnew := h.createBraveRequestInfo setup env
    exact hnew.ofHandler rfl (by simpa using hnew.idle)
  · exact h

theorem taintInitiator (h : t.Settled tr loader client) :
    (t.taintInitiator setup).Settled tr loader client := by
  unfold Turn.taintInitiator
  split
  · split
    · exact h.ofHandler rfl h.idle
    · exact h
  · exact h

theorem useNewReferrer (h : t.Settled tr loader client) :
    t.useNewReferrer.Settled tr loader client := by
  unfold Turn.useNewReferrer
  split
  · exact h.ofHandler rfl h.idle
  · exact h

end Settled

theorem setPaused_same (t : Turn) (paused : Bool) : t.r.SameStanding (t.setPaused paused).r := by
  unfold Turn.setPaused; split <;> exact ⟨rfl, rfl, rfl, rfl⟩

theorem useNewReferrer_same (t : Turn) : t.r.SameStanding t.useNewReferrer.r := by
  unfold Turn.useNewReferrer; split <;> exact ⟨rfl, rfl, rfl, rfl⟩

theorem passTransaction_same (setup : ProxySetup) (env : ProxyEnv) (t : Turn) :
    t.r.SameStanding (t.passTransaction setup env).r := by
  unfold Turn.passTransaction; split <;> exact ⟨rfl, rfl, rfl, rfl⟩

theorem taintInitiator_same (setup : ProxySetup) (t : Turn) :
    t.r.SameStanding (t.taintInitiator setup).r := by
  unfold Turn.taintInitiator
  split
  · split <;> exact ⟨rfl, rfl, rfl, rfl⟩
  · exact .refl _

theorem modifyCtx_r (t : Turn) (f : BraveRequestInfo → BraveRequestInfo) :
    (t.modifyCtx f).r = t.r := by
  unfold Turn.modifyCtx
  split
  · rfl
  · split <;> rfl

@[simp] theorem sent_destroy (setup : ProxySetup) (t : Turn) : (t.destroy setup).sent = t.sent := by
  unfold Turn.destroy; split <;> rfl

@[simp] theorem destroy_destroyed (setup : ProxySetup) (t : Turn) :
    (t.destroy setup).destroyed = true := by
  unfold Turn.destroy; split <;> rfl

theorem served_destroy (h : t.At tr loader client) : (t.destroy setup).Served tr :=
  ⟨loader, client, h.ofSent (sent_destroy setup t), by simp⟩

/-- An error is reported unless the client has a redirect to follow, and then nothing is. -/
theorem served_onRequestError {errorCode : Int} (h : t.At tr loader client)
    (herror : errorCode ≠ Net.OK)
    (hclient : t.r.requestCompleted = false → client = .loading ∨ client = .responded) :
    (t.onRequestError setup errorCode).Served tr := by
  unfold Turn.onRequestError
  dsimp only
  split
  · exact served_destroy h
  · rename_i hopen
    have hfailed : (errorCode == Net.OK) = false := by simpa using herror
    refine served_destroy (h.toClient (x := .report (.complete false)) (p := .completed) ?_ ?_)
    · rcases hclient (by simpa using hopen) with rfl | rfl <;> rfl
    · intro traces
      simp [Traces.sent, hfailed]

theorem served_continueToBeforeRedirect {redirectInfo : RedirectInfo} {errorCode : Int}
    (h : t.Settled tr loader .loading) (hopen : t.r.Open)
    (hbound : t.r.targetLoaderBound = true → loader = .redirected) :
    (t.continueToBeforeRedirect setup redirectInfo errorCode).Served tr := by
  unfold Turn.continueToBeforeRedirect
  split
  · rename_i herror
    exact served_onRequestError h.toAt herror fun _ => .inl rfl
  · have hsame := setPaused_same t false
    have hmodified := (h.setPaused false).modifyCtx fun ctx => { ctx with redirectSource :=
      if ctx.internalRedirect then .empty else (t.setPaused false).r.request.url }
    have hsent := hmodified.toAt.toClient (x := .report .redirect) (p := .redirected)
      (m := .onReceiveRedirect redirectInfo) rfl fun _ => rfl
    refine ⟨loader, .redirected, hsent.ofSent rfl, fun _ => ?_⟩
    have hidle := hmodified.idle
    simp only [Turn.send] at hidle ⊢
    rw [hidle, modifyCtx_r]
    exact .redirected rfl (by simp [hsame.awaited, hopen.awaited])
      (hsame.writes.trans hopen.writes) fun hb => hbound (hsame.bound.symm.trans hb)

theorem served_handleBeforeRequestRedirect (h : t.Settled tr loader .loading)
    (hopen : t.r.Open) : (t.handleBeforeRequestRedirect setup).Served tr := by
  have hreset : t.resetLoader.Settled tr loader .loading := h.ofHandler rfl h.idle
  have hsame := taintInitiator_same setup t.resetLoader
  refine served_continueToBeforeRedirect (hreset.taintInitiator.modifyCtx _) ?_ ?_
  · rw [modifyCtx_r]
    exact hsame.isOpen ⟨hopen.completed, hopen.awaited, hopen.writes⟩
  · rw [modifyCtx_r, hsame.bound]
    simp [Turn.resetLoader]

/-- A redirect is followed on the loader that runs, which has reported one. -/
theorem Settled.sendFollowRedirect (h : t.Settled tr loader client)
    (hbound : t.r.targetLoaderBound = true → loader = .redirected) :
    ∃ next, t.sendFollowRedirect.Settled tr next client ∧
      (t.r.targetLoaderBound = true → next = .loading ∨ next = .redirected) := by
  unfold Turn.sendFollowRedirect
  split
  · exact ⟨loader, h, fun hb => .inr (hbound hb)⟩
  · rename_i params _
    dsimp only
    split
    · rename_i hb
      obtain rfl := hbound hb
      refine ⟨.loading, ⟨⟨?_, ?_⟩, h.idle⟩, fun _ => .inl rfl⟩
      · show after (((t.send (.followRedirect t.leg params.newUrl)).traces tr).loader) .loading = _
        rw [traces_send]
        exact after_concat h.loader
      · show after (((t.send (.followRedirect t.leg params.newUrl)).traces tr).client) .loading = _
        rw [traces_send]
        exact h.client
    · exact ⟨loader, h.ofHandler rfl h.idle, fun hb => .inr (hbound hb)⟩

theorem sendFollowRedirect_same (t : Turn) : t.r.SameStanding t.sendFollowRedirect.r := by
  unfold Turn.sendFollowRedirect
  split
  · exact .refl _
  · dsimp only
    split <;> exact ⟨rfl, rfl, rfl, rfl⟩

theorem served_continueToStartRequest {targetFactoryBound : Bool} (h : t.Settled tr loader .loading)
    (hopen : t.r.Open)
    (hbound : t.r.targetLoaderBound = true → loader = .loading ∨ loader = .redirected) :
    (t.continueToStartRequest setup targetFactoryBound Net.OK).Served tr := by
  unfold Turn.continueToStartRequest
  rw [if_neg (by simp)]
  have hsame := setPaused_same t false
  have hresumed := h.setPaused false
  dsimp only
  split
  · refine ⟨.loading, .loading, ⟨?_, ?_⟩, fun _ => ?_⟩
    · show after ((((t.setPaused false).send (.createLoaderAndStart
        (t.setPaused false).leg)).traces tr).loader) .loading = _
      rw [traces_send]
      rfl
    · show after ((((t.setPaused false).send (.createLoaderAndStart
        (t.setPaused false).leg)).traces tr).client) .loading = _
      rw [traces_send]
      exact hresumed.client
    · have hidle := hresumed.idle
      simp only [Turn.send] at hidle ⊢
      rw [hidle]
      have hopen' := hsame.isOpen hopen
      exact .loading ⟨hopen'.completed, hopen'.awaited, hopen'.writes⟩ fun _ => .inl rfl
  · refine ⟨loader, .loading, hresumed.toAt, fun _ => ?_⟩
    rw [hresumed.idle]
    exact .loading (hsame.isOpen hopen) fun hb => hbound (hsame.bound.symm.trans hb)

theorem served_continueToSendHeaders {targetFactoryBound : Bool}
    (h : t.Settled tr loader .loading) (hopen : t.r.Open)
    (hbound : t.r.targetLoaderBound = true → loader = .redirected) :
    (t.continueToSendHeaders setup targetFactoryBound Net.OK).Served tr := by
  unfold Turn.continueToSendHeaders
  rw [if_neg (by simp)]
  obtain ⟨next, hsent, hnext⟩ := h.sendFollowRedirect hbound
  have hsame := (sendFollowRedirect_same t).trans (setPaused_same _ false)
  exact served_continueToStartRequest (hsent.setPaused false) (hsame.isOpen hopen)
    fun hb => hnext (hsame.bound.symm.trans hb)

theorem served_refuse (h : t.Settled tr loader .loading) (hopen : t.r.Open)
    (hbound : t.r.targetLoaderBound = true → loader = .redirected) :
    (t.refuse setup env).Served tr := by
  unfold Turn.refuse
  split
  · exact served_onRequestError h.toAt (by decide) fun _ => .inl rfl
  · split
    · exact served_onRequestError h.toAt (by decide) fun _ => .inl rfl
    · have hsent := h.toAt.toClient (x := .report .response) (p := .responded)
        (m := .onReceiveResponse (some t.info.mockDataUrl)) rfl fun _ => rfl
      refine ⟨loader, .responded, hsent.ofSent rfl, fun _ => ?_⟩
      have hidle := h.idle
      simp only [Turn.send] at hidle ⊢
      rw [hidle]
      exact .responded hopen.completed hopen.awaited fun hb => .inr (hbound hb)

/-- A check that is handled while the client waits keeps the protocol. -/
theorem served_continueToBeforeSendHeaders {targetFactoryBound : Bool} {errorCode : Int}
    (h : t.Settled tr loader .loading) (hopen : t.r.Open)
    (hbound : t.r.targetLoaderBound = true → loader = .redirected)
    (hrun : t.continueToBeforeSendHeaders setup env targetFactoryBound errorCode = .ok t') :
    t'.Served tr := by
  rw [continueToBeforeSendHeaders_eq] at hrun
  obtain rfl := Except.ok.inj hrun
  split
  · rename_i herror
    exact served_onRequestError h.toAt herror fun _ => .inl rfl
  · split
    · exact served_handleBeforeRequestRedirect h hopen
    · have hresumed := h.useNewReferrer.setPaused false
      have hsame := (useNewReferrer_same t).trans (setPaused_same _ false)
      split
      · exact served_refuse hresumed (hsame.isOpen hopen)
          fun hb => hbound (hsame.bound.symm.trans hb)
      · have hpassed := hsame.trans (passTransaction_same setup env _)
        exact served_continueToSendHeaders hresumed.passTransaction (hpassed.isOpen hopen)
          fun hb => hbound (hpassed.bound.symm.trans hb)

/-- A response that the loader reported is passed on, or turned into a redirect. -/
theorem served_continueToResponseStarted {errorCode : Int} (h : t.Settled tr .responded .loading)
    (hopen : t.r.Open) (hrun : t.continueToResponseStarted setup errorCode = .ok t') :
    t'.Served tr := by
  unfold Turn.continueToResponseStarted at hrun
  split at hrun
  · rename_i herror
    obtain rfl := Except.ok.inj hrun
    exact served_onRequestError h.toAt herror fun _ => .inl rfl
  · split at hrun
    · obtain rfl := Except.ok.inj hrun
      have hreset : t.resetLoader.Settled tr .responded .loading := h.ofHandler rfl h.idle
      refine served_continueToBeforeRedirect (hreset.modifyCtx _) ?_ ?_
      · rw [modifyCtx_r]
        exact ⟨hopen.completed, hopen.awaited, hopen.writes⟩
      · rw [modifyCtx_r]
        simp [Turn.resetLoader]
    · split at hrun
      · contradiction
      · obtain rfl := Except.ok.inj hrun
        have hresumed := h.setPaused false
        have hsame := setPaused_same t false
        have hsent := hresumed.toAt.toClient (x := .report .response) (p := .responded)
          (m := .onReceiveResponse none) rfl fun _ => rfl
        refine ⟨.responded, .responded, hsent, fun _ => ?_⟩
        have hidle := hresumed.idle
        simp only [Turn.send] at hidle ⊢
        rw [hidle]
        exact .responded (hsame.completed.trans hopen.completed)
          (hsame.awaited.trans hopen.awaited) fun _ => .inl rfl

/-- The one continuation that a request had still to run is run. -/
theorem served_runContinuation {targetFactoryBound : Bool} {c : Continuation} {errorCode : Int}
    (h : t.Settled tr loader client) (hstanding : Standing loader t.r client [c])
    (hrun : t.runContinuation setup env targetFactoryBound c errorCode = .ok t') :
    t'.Served tr := by
  cases hstanding with
  | checking isOpen _ bound => exact served_continueToBeforeSendHeaders h isOpen bound hrun
  | answering isOpen _ responded =>
    subst responded
    exact served_continueToResponseStarted h isOpen hrun
  | redirecting redirectInfo isOpen _ redirected =>
    obtain rfl := Except.ok.inj hrun
    exact served_continueToBeforeRedirect h isOpen fun _ => redirected

theorem Settled.beginCheck (setup : ProxySetup) (env : ProxyEnv)
    (h : t.Settled tr loader client) :
    (t.beginCheck setup env).Settled tr loader client :=
  h.ofHandler rfl (RequestHandler.outstanding_releaseCtx _ _ h.idle)

/-- A check of a request whose client waits for its load is under way, or has passed at once. -/
theorem served_restartInternal (loader : LoadPhase) {targetFactoryBound : Bool}
    (h : t.Settled tr loader .loading)
    (hawaited : t.r.redirectsAwaited = 0) (hwrites : t.r.stubWrites = 0)
    (hbound : t.r.targetLoaderBound = true → loader = .redirected)
    (hrun : t.restartInternal setup env targetFactoryBound = .ok t') : t'.Served tr := by
  have hbegun := h.beginCheck setup env
  rcases restartInternal_cases hrun with ⟨reply, hstart, rfl⟩ | ⟨-, hnext⟩
  · let u := (t.beginCheck setup env).withReply reply
    have hu : u.r.Open ∧ u.r.targetLoaderBound = t.r.targetLoaderBound := by
      cases hurl : reply.newUrl <;> simp only [u, Turn.withReply, hurl] <;>
        exact ⟨⟨rfl, hawaited, hwrites⟩, rfl⟩
    have hsame := setPaused_same u true
    refine ⟨loader, .loading, hbegun.toAt.ofSent (setPaused_sent u true), fun _ => ?_⟩
    have hone : reply.handler.outstanding t.id = [.beforeSendHeaders] :=
      RequestHandler.outstanding_startPhase hbegun.idle hstart rfl rfl
    rw [setPaused_handler, setPaused_id]
    show Standing loader (u.setPaused true).r .loading (reply.handler.outstanding t.id)
    rw [hone]
    exact .checking (hsame.isOpen hu.1) (setPaused_unheard u)
      fun hb => hbound (hu.2.symm.trans (hsame.bound.symm.trans hb))
  · let u := (t.beginCheck setup env).withReply ((t.beginCheck setup env).handler.replyOK
      (t.reset.nextAddress setup))
    have hr : u.r = (t.beginCheck setup env).r := by
      simp only [u, Turn.withReply, RequestHandler.replyOK_newUrl]
      rfl
    have hu : u.Settled tr loader .loading :=
      hbegun.ofHandler rfl ((RequestHandler.outstanding_replyOK _).trans hbegun.idle)
    refine served_continueToBeforeSendHeaders hu ?_ ?_ hnext
    · rw [hr]
      exact ⟨rfl, hawaited, hwrites⟩
    · rw [hr]
      exact hbound

/-- The continuation of the headers of what the loader has reported. -/
inductive ContinuesReport : LoadPhase → Continuation → Prop
  | response : ContinuesReport .responded .responseStarted
  | redirect (redirectInfo : RedirectInfo) :
      ContinuesReport .redirected (.beforeRedirect redirectInfo)

theorem ContinuesReport.standing {c : Continuation} {r : InProgressRequest}
    (hc : ContinuesReport loader c) (hopen : r.Open) (hunheard : r.Unheard) :
    Standing loader r .loading [c] := by
  cases hc with
  | response => exact .answering hopen hunheard rfl
  | redirect redirectInfo => exact .redirecting redirectInfo hopen hunheard rfl

theorem served_report {targetFactoryBound : Bool} {c : Continuation} {errorCode : Int}
    (hc : ContinuesReport loader c) (h : t.Settled tr loader .loading) (hopen : t.r.Open)
    (hrun : t.runContinuation setup env targetFactoryBound c errorCode = .ok t') :
    t'.Served tr := by
  cases hc with
  | response => exact served_continueToResponseStarted h hopen hrun
  | redirect redirectInfo =>
    obtain rfl := Except.ok.inj hrun
    exact served_continueToBeforeRedirect h hopen fun _ => rfl

theorem served_handleResponseOrRedirectHeaders {targetFactoryBound : Bool} {c : Continuation}
    (hc : ContinuesReport loader c) (h : t.Settled tr loader .loading) (hopen : t.r.Open)
    (hrun : t.handleResponseOrRedirectHeaders setup env targetFactoryBound c = .ok t') :
    t'.Served tr := by
  have hbegun : t.beginHeaders.Settled tr loader .loading := h.ofHandler rfl h.idle
  have hopened : t.beginHeaders.r.Open := ⟨hopen.completed, hopen.awaited, hopen.writes⟩
  have hnew := hbegun.createBraveRequestInfo setup env
  rcases handleResponseOrRedirectHeaders_cases hrun with hnext | ⟨reply, hstart, rfl⟩ | hnext
  · exact served_report hc hbegun hopened hnext
  · let u := Turn.withOverrideHeaders
      { t.beginHeaders.createBraveRequestInfo setup env with handler := reply.handler }
      env.overrideHeaders
    have hone : reply.handler.outstanding t.id = [c] :=
      RequestHandler.outstanding_startPhase hnew.idle hstart rfl rfl
    refine ⟨loader, .loading, hnew.toAt.ofSent (setPaused_sent u true), fun _ => ?_⟩
    rw [setPaused_handler, setPaused_id]
    show Standing loader (u.setPaused true).r .loading (reply.handler.outstanding t.id)
    rw [hone]
    exact hc.standing ((setPaused_same u true).isOpen
      ⟨hopen.completed, hopen.awaited, hopen.writes⟩) (setPaused_unheard u)
  · let u := t.beginHeaders.createBraveRequestInfo setup env
    have hu : Settled tr loader .loading { u with
        handler := (u.handler.replyOK (t.beginHeaders.nextAddress setup)).handler } :=
      hnew.ofHandler rfl ((RequestHandler.outstanding_replyOK _).trans hnew.idle)
    exact served_report hc hu ⟨hopen.completed, hopen.awaited, hopen.writes⟩ hnext

/-- A completion is passed on, if the client was sent a response where it is a good one. -/
theorem served_onComplete (loader client : LoadPhase) {errorCode : Int} (h : t.At tr loader client)
    (hopen : t.r.requestCompleted = false → client = .loading ∨ client = .responded)
    (hgood : errorCode = Net.OK → client = .responded) :
    (t.onComplete setup errorCode).Served tr := by
  unfold Turn.onComplete
  split
  · rename_i herror
    exact served_onRequestError h herror hopen
  · rename_i hok
    have hok : errorCode = Net.OK := by simpa using hok
    obtain rfl := hgood hok
    refine served_destroy (h.toClient (x := .report (.complete true)) (p := .completed) rfl ?_)
    intro traces
    simp [Traces.sent, hok]

end Turn

namespace Standing

variable {loader client : LoadPhase} {r : InProgressRequest} {pending : List Continuation}

/-- Unless its client has a redirect to follow, a request can tell it of an error. -/
theorem reports (h : Standing loader r client pending) (hopen : r.requestCompleted = false) :
    client = .loading ∨ client = .responded := by
  cases h with
  | checking | answering | redirecting | loading => exact .inl rfl
  | redirected completed => simp [completed] at hopen
  | responded => exact .inr rfl

/-- Where the loader reports a response or a redirect, the client still waits for one. -/
theorem loading_of_heard {report : Report} {next : LoadPhase}
    (h : Standing loader r client pending) (hr : r.clientReceiverBound = r.targetLoaderBound)
    (hbound : r.clientReceiverBound = true) (hheard : r.clientReceiverPaused = false)
    (hnext : loader.next (.report report) = some next) (hreport : ∀ ok, report ≠ .complete ok) :
    client = .loading ∧ pending = [] ∧ r.Open ∧ loader = .loading := by
  have hloader : loader = .loading := by
    cases report with
    | complete ok => exact absurd rfl (hreport ok)
    | redirect | response =>
      cases loader with
      | loading => rfl
      | redirected | responded | completed => simp [LoadPhase.next] at hnext
  subst hloader
  obtain rfl := h.pending_of_heard hbound hheard
  have hb := hr.symm.trans hbound
  cases h with
  | loading isOpen bound => exact ⟨rfl, rfl, isOpen, rfl⟩
  | redirected _ _ _ bound => simpa using bound hb
  | responded _ _ bound => simpa using bound hb

/-- Where the loader reports a good completion, the client was sent the response. -/
theorem responded_of_heard {next : LoadPhase} (h : Standing loader r client pending)
    (hr : r.clientReceiverBound = r.targetLoaderBound)
    (hbound : r.clientReceiverBound = true) (hheard : r.clientReceiverPaused = false)
    (hnext : loader.next (.report (.complete true)) = some next) : client = .responded := by
  have hloader : loader = .responded := by
    cases loader with
    | responded => rfl
    | loading | redirected | completed => simp [LoadPhase.next] at hnext
  subst hloader
  obtain rfl := h.pending_of_heard hbound hheard
  have hb := hr.symm.trans hbound
  cases h with
  | loading _ bound => simpa using bound hb
  | redirected _ _ _ bound => simpa using bound hb
  | responded => rfl

/-- A client that is to follow a redirect has the loader of the request, if one runs, waiting for
this too. -/
theorem redirected_of_awaited (h : Standing loader r client pending)
    (hawaited : 0 < r.redirectsAwaited) :
    client = .redirected ∧ pending = [] ∧ r.redirectsAwaited = 1 ∧ r.stubWrites = 0 ∧
      (r.targetLoaderBound = true → loader = .redirected) := by
  cases h with
  | checking isOpen | answering isOpen | redirecting _ isOpen | loading isOpen =>
    simp [isOpen.awaited] at hawaited
  | redirected completed awaited writes bound => exact ⟨rfl, rfl, awaited, writes, bound⟩
  | responded _ awaited => simp [awaited] at hawaited

/-- A request that writes the body of a stub has sent the response of it. -/
theorem responded_of_writes (h : Standing loader r client pending) (hwrites : 0 < r.stubWrites) :
    client = .responded := by
  cases h with
  | checking isOpen | answering isOpen | redirecting _ isOpen | loading isOpen =>
    simp [isOpen.writes] at hwrites
  | redirected _ _ writes => simp [writes] at hwrites
  | responded => rfl

end Standing

end ChromiumAdblock
