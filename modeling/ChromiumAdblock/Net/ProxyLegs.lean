import ChromiumAdblock.Net.ProxyFrame

/-! The legs of the proxy's requests: each time a request goes to the network, its URL has been
checked and passed.  A request is idle, or a filter holds its context, or a completion of it is
posted; where it is not idle the network is not heard.  A redirect that the client follows while the
request is not idle breaks this, and with it the link between the URL that was checked and the one
that is sent. -/

namespace ChromiumAdblock

/-- The leg goes to the URL that the last check was made for, and this check passed without a block
or a redirect. -/
def Leg.Checked (leg : Leg) : Prop :=
  ∃ cell, leg.checked = some cell ∧ cell.info.requestUrl = leg.url ∧ cell.result = some Net.OK ∧
    cell.info.blockedBy = .kNotBlocked ∧ leg.redirectUrl.isEmpty = true

/-- The leg that a message starts or continues, if it is one to the network. -/
def Message.leg? : Message → Option Leg
  | .createLoaderAndStart leg => some leg
  | .followRedirect leg _ => some leg
  | .onReceiveRedirect _ | .onReceiveResponse _ | .onComplete _ _ => none

def Message.Checked (message : Message) : Prop := ∀ leg, message.leg? = some leg → leg.Checked

namespace RequestHandler

variable {id : Nat} {h h' : RequestHandler BoundContinuation}

/-- No filter holds a live context of the request. -/
def Unheld (id : Nat) (h : RequestHandler BoundContinuation) : Prop :=
  ∀ a cell, h.ctxs a = some cell → cell.info.requestIdentifier = id → cell.alive = true →
    cell.waiting = false

/-- The completions of the request that are posted. -/
def postedFor (id : Nat) (h : RequestHandler BoundContinuation) :
    List (Completion BoundContinuation) := h.posted.filter (·.callback.requestId == id)

/-- Nothing of the request is under way. -/
structure Quiet (id : Nat) (h : RequestHandler BoundContinuation) : Prop where
  unheld : h.Unheld id
  unposted : h.postedFor id = []

theorem Unheld.sameFor (hsame : SameFor id h h') (hu : h.Unheld id) : h'.Unheld id :=
  fun a cell hcell hid => hu a cell ((hsame.ctxs a cell hid).mp hcell) hid

theorem Unheld.setCell (hu : h.Unheld id) {a : Nat} {cell : Cell}
    (hcell : cell.info.requestIdentifier = id → cell.alive = true → cell.waiting = false) :
    (h.setCell a cell).Unheld id := by
  intro b c hc
  rcases setCell_cases _ _ _ _ hc with ⟨-, rfl⟩ | ⟨-, hold⟩
  · exact hcell
  · exact hu b c hold

/-- A context that is let go of is held by no filter that counts. -/
theorem Unheld.killCtx (hu : h.Unheld id) (a : Nat) : (h.killCtx a).Unheld id := by
  unfold RequestHandler.killCtx
  split
  · exact hu.setCell fun _ halive => by simp at halive
  · exact hu

namespace Quiet

theorem sameFor (hsame : SameFor id h h') (hq : h.Quiet id) : h'.Quiet id :=
  ⟨hq.unheld.sameFor hsame, hsame.posted.trans hq.unposted⟩

theorem setCell (hq : h.Quiet id) (a : Nat) {cell : Cell}
    (hcell : cell.info.requestIdentifier = id → cell.alive = true → cell.waiting = false) :
    (h.setCell a cell).Quiet id := ⟨hq.unheld.setCell hcell, hq.unposted⟩

theorem newCtx (hq : h.Quiet id) (info : BraveRequestInfo) : (h.newCtx info).Quiet id :=
  ⟨hq.unheld.setCell fun _ _ => rfl, hq.unposted⟩

theorem killCtx (hq : h.Quiet id) (a : Nat) : (h.killCtx a).Quiet id :=
  ⟨hq.unheld.killCtx a, by simpa [postedFor] using hq.unposted⟩

theorem onURLRequestDestroyed (hq : h.Quiet id) (a : Nat) :
    (h.onURLRequestDestroyed a).Quiet id := by
  unfold RequestHandler.onURLRequestDestroyed
  split
  · exact ⟨hq.unheld, hq.unposted⟩
  · exact hq

theorem replyOK (hq : h.Quiet id) (a : Nat) : (h.replyOK a).handler.Quiet id := by
  unfold RequestHandler.replyOK
  split
  · rename_i cell hcell
    exact hq.setCell a fun hid halive => hq.unheld a cell hcell hid halive
  · exact hq

end Quiet

end RequestHandler

/-- The request holds the context of its last check, which was made for its URL. -/
structure InProgressRequest.ChecksUrl (r : InProgressRequest) (a : Nat) (cell : Cell) : Prop where
  checkedCtx : r.checkedCtx = some a
  url : cell.info.requestUrl = r.request.url

/-- A continuation that is under way with the context `a`: that of a check goes with the URL of the
request, and none goes with `OnBeforeStartTransaction`, which has no filters. -/
def Continuation.Fits (r : InProgressRequest) (a : Nat) (cell : Cell) : Continuation → Prop
  | .beforeSendHeaders => r.ChecksUrl a cell
  | .sendHeaders => False
  | .responseStarted | .beforeRedirect _ => True

/-- The continuations of the phase of response headers. -/
def Continuation.ofHeaders : Continuation → Bool
  | .responseStarted | .beforeRedirect _ => true
  | .beforeSendHeaders | .sendHeaders => false

theorem Continuation.fits_of_headers {c : Continuation} (hc : c.ofHeaders = true)
    (r : InProgressRequest) (a : Nat) (cell : Cell) : c.Fits r a cell := by
  cases c with
  | beforeSendHeaders | sendHeaders => contradiction
  | responseStarted | beforeRedirect => trivial

theorem Continuation.Fits.of_url {c : Continuation} {r : InProgressRequest} {a : Nat}
    {cell cell' : Cell} (hfits : c.Fits r a cell)
    (hurl : cell'.info.requestUrl = cell.info.requestUrl) : c.Fits r a cell' := by
  cases c with
  | beforeSendHeaders => exact ⟨hfits.checkedCtx, hurl.trans hfits.url⟩
  | sendHeaders => exact hfits
  | responseStarted | beforeRedirect => trivial

/-- How far a request has got: nothing of it is under way, or a filter holds the context of a phase
of it, or the completion of a phase is posted. -/
inductive Stage (id : Nat) (h : RequestHandler BoundContinuation) (r : InProgressRequest) : Prop
  | idle (quiet : h.Quiet id)
  | waiting (c : Continuation) (a : Nat) (cell : Cell) (ctx : r.ctx = some a)
      (atCell : h.ctxs a = some cell) (own : cell.info.requestIdentifier = id)
      (entry : h.callbacks id = some (some ⟨id, c⟩))
      (only : ∀ b other, h.ctxs b = some other → other.info.requestIdentifier = id →
        other.alive = true → other.waiting = true → b = a)
      (unposted : h.postedFor id = [])
      (unheard : r.clientReceiverBound = true → r.clientReceiverPaused = true)
      (fits : c.Fits r a cell)
  | posted (c : Continuation) (rv : Int) (a : Nat) (cell : Cell) (ctx : r.ctx = some a)
      (atCell : h.ctxs a = some cell) (own : cell.info.requestIdentifier = id)
      (unheld : h.Unheld id) (completion : h.postedFor id = [⟨⟨id, c⟩, rv, a⟩])
      (unheard : r.clientReceiverBound = true → r.clientReceiverPaused = true)
      (fits : c.Fits r a cell) (result : cell.result = some rv)

namespace Stage

variable {id : Nat} {h h' : RequestHandler BoundContinuation} {r r' : InProgressRequest}

theorem sameFor (hsame : RequestHandler.SameFor id h h') (hstage : Stage id h r) :
    Stage id h' r := by
  cases hstage with
  | idle quiet => exact .idle (quiet.sameFor hsame)
  | waiting c a cell ctx atCell own entry only unposted unheard fits =>
    exact .waiting c a cell ctx ((hsame.ctxs a cell own).mpr atCell) own
      (hsame.callbacks.trans entry)
      (fun b other hother hid => only b other ((hsame.ctxs b other hid).mp hother) hid)
      (hsame.posted.trans unposted) unheard fits
  | posted c rv a cell ctx atCell own unheld completion unheard fits result =>
    exact .posted c rv a cell ctx ((hsame.ctxs a cell own).mpr atCell) own
      (unheld.sameFor hsame) (hsame.posted.trans completion) unheard fits result

theorem ofRequest (hstage : Stage id h r) (hctx : r'.ctx = r.ctx)
    (hchecked : r'.checkedCtx = r.checkedCtx) (hurl : r'.request.url = r.request.url)
    (hbound : r'.clientReceiverBound = r.clientReceiverBound)
    (hpaused : r'.clientReceiverPaused = r.clientReceiverPaused) : Stage id h r' := by
  have hfits : ∀ {c : Continuation} {a cell}, c.Fits r a cell → c.Fits r' a cell := by
    intro c a cell hfits
    cases c with
    | beforeSendHeaders => exact ⟨hchecked.trans hfits.checkedCtx, hfits.url.trans hurl.symm⟩
    | sendHeaders => exact hfits
    | responseStarted | beforeRedirect => trivial
  cases hstage with
  | idle quiet => exact .idle quiet
  | waiting c a cell ctx atCell own entry only unposted unheard fits =>
    exact .waiting c a cell (hctx.trans ctx) atCell own entry only unposted
      (by rwa [hbound, hpaused]) (hfits fits)
  | posted c rv a cell ctx atCell own unheld completion unheard fits result =>
    exact .posted c rv a cell (hctx.trans ctx) atCell own unheld completion
      (by rwa [hbound, hpaused]) (hfits fits) result

/-- The network is heard only where nothing of the request is under way. -/
theorem quiet_of_heard (hstage : Stage id h r) (hbound : r.clientReceiverBound = true)
    (hheard : r.clientReceiverPaused = false) : h.Quiet id := by
  cases hstage with
  | idle quiet => exact quiet
  | waiting _ _ _ _ _ _ _ _ _ unheard => simp [unheard hbound] at hheard
  | posted _ _ _ _ _ _ _ _ _ unheard => simp [unheard hbound] at hheard

/-- A phase that nobody held waits at a context that takes it. -/
theorem waits {c : Continuation} {a : Nat} {cell : Cell} (hq : h.Quiet id)
    (hentry : h.callbacks id = some (some ⟨id, c⟩)) (hid : cell.info.requestIdentifier = id)
    (hctx : r.ctx = some a)
    (hunheard : r.clientReceiverBound = true → r.clientReceiverPaused = true)
    (hfits : c.Fits r a cell) : Stage id (h.setCell a cell) r := by
  refine .waiting c a cell hctx (RequestHandler.setCell_ctxs_self _ _ _) hid hentry ?_ hq.unposted
    hunheard hfits
  intro b other hother hotherId halive hwaiting
  rcases RequestHandler.setCell_cases _ _ _ _ hother with ⟨hba, -⟩ | ⟨-, hold⟩
  · exact hba
  · simp [hq.unheld b other hold hotherId halive] at hwaiting

/-- A phase that nobody held and that is complete is posted. -/
theorem posts {c : Continuation} {a : Nat} {cell : Cell} {info : BraveRequestInfo} {rv : Int}
    (hq : h.Quiet id) (hwaiting : cell.waiting = false) (hid : info.requestIdentifier = id)
    (hctx : r.ctx = some a)
    (hunheard : r.clientReceiverBound = true → r.clientReceiverPaused = true)
    (hfits : c.Fits r a { cell with info := info, result := some rv }) :
    Stage id (h.completed a cell info rv ⟨id, c⟩) r := by
  have hdone : (h.setCell a { cell with info := info, result := some rv }).Quiet id :=
    hq.setCell a fun _ _ => hwaiting
  refine .posted c rv a { cell with info := info, result := some rv } hctx
    (RequestHandler.setCell_ctxs_self _ _ _) hid hdone.unheld ?_ hunheard hfits rfl
  simpa [RequestHandler.completed, RequestHandler.postedFor, List.filter_append] using hq.unposted

/-- A phase that was started with a fresh context is held by a filter, or its completion is posted.
-/
theorem ofStartPhase {lib : UrlLibrary} {filters : FilterLists} {answers : Nat → FilterAnswer}
    {eventType : BraveNetworkDelegateEventType} {a : Nat} {cell : Cell} {c : Continuation}
    {reply : RequestHandler.Reply BoundContinuation} (hq : h.Quiet id)
    (hstart : RequestHandler.startPhase lib filters answers eventType h a cell ⟨id, c⟩ = .ok reply)
    (halive : cell.alive = true) (hwaiting : cell.waiting = false)
    (hid : cell.info.requestIdentifier = id) (hctx : r.ctx = some a)
    (hunheard : r.clientReceiverBound = true → r.clientReceiverPaused = true)
    (hfits : ∀ cell' : Cell, cell'.info.requestUrl = cell.info.requestUrl → c.Fits r a cell') :
    Stage id reply.handler r := by
  obtain ⟨-, progress, hadvance, hcase⟩ := RequestHandler.startPhase_cases halive hstart
  have hsame := RequestHandler.advance_same hadvance
  have hinfo : progress.info.requestIdentifier = id := hsame.requestIdentifier.trans hid
  have hentered : (h.entered a cell eventType ⟨id, c⟩).Quiet id := by
    have hset : (h.setCell a
        { cell with info := { cell.info with eventType := eventType } }).Quiet id :=
      hq.setCell a fun _ _ => hwaiting
    exact ⟨hset.unheld, hset.unposted⟩
  have hentry : (h.entered a cell eventType ⟨id, c⟩).callbacks id = some (some ⟨id, c⟩) := by
    simp [RequestHandler.entered, hid]
  cases progress with
  | pending info =>
    rw [hcase.2]
    exact waits hentered hentry hinfo hctx hunheard (hfits _ hsame.requestUrl)
  | complete info rv newUrl =>
    rw [hcase.2]
    exact posts hentered hwaiting hinfo hctx hunheard (hfits _ hsame.requestUrl)

theorem letGo (hstage : Stage id h r) {a : Nat} {cell : Cell} (hcell : h.ctxs a = some cell) :
    Stage id (h.setCell a { cell with waiting := false }) r := by
  have hset : ∀ b old, h.ctxs b = some old →
      ∃ new, (h.setCell a { cell with waiting := false }).ctxs b = some new ∧
        new.info = old.info ∧ new.result = old.result := by
    intro b old hold
    by_cases hba : b = a
    · subst hba
      obtain rfl : cell = old := Option.some.inj (hcell.symm.trans hold)
      exact ⟨_, RequestHandler.setCell_ctxs_self _ _ _, rfl, rfl⟩
    · exact ⟨old, by rwa [RequestHandler.setCell_ctxs_of_ne _ _ _ _ hba], rfl, rfl⟩
  cases hstage with
  | idle quiet => exact .idle (quiet.setCell a fun _ _ => rfl)
  | waiting c b old ctx atCell own entry only unposted unheard fits =>
    obtain ⟨new, hnew, hinfo, -⟩ := hset b old atCell
    refine .waiting c b new ctx hnew (by rwa [hinfo]) entry ?_ unposted unheard
      (fits.of_url (by rw [hinfo]))
    intro i other hother hid halive hwaiting
    rcases RequestHandler.setCell_cases _ _ _ _ hother with ⟨-, rfl⟩ | ⟨-, hold⟩
    · simp at hwaiting
    · exact only i other hold hid halive hwaiting
  | posted c rv b old ctx atCell own unheld completion unheard fits result =>
    obtain ⟨new, hnew, hinfo, hresult⟩ := hset b old atCell
    exact .posted c rv b new ctx hnew (by rwa [hinfo]) (unheld.setCell fun _ _ => rfl) completion
      unheard (fits.of_url (by rw [hinfo])) (by rwa [hresult])

/-- A filter that resumes a context leaves the phase held, or its completion posted. -/
theorem resume {lib : UrlLibrary} {filters : FilterLists} {answers : Nat → FilterAnswer} {a : Nat}
    {decision : Option Decision} {newUrl : Option GURL} {cell : Cell}
    (hcell : h.ctxs a = some cell) (hwaiting : cell.waiting = true)
    (hresume : h.resume lib filters answers a decision = .ok (h', newUrl))
    (hstage : Stage cell.info.requestIdentifier h r) :
    Stage cell.info.requestIdentifier h' r := by
  simp only [RequestHandler.resume, hcell] at hresume
  cases halive : cell.alive with
  | false =>
    rw [if_neg (by simp [halive])] at hresume
    rcases RequestHandler.runNextCallback_cases hresume with ⟨rfl, -, -⟩ | ⟨c, -, hc, hlive, -⟩
    · exact hstage.letGo hcell
    · obtain rfl : { cell with waiting := false } = c := by simpa using hc
      simp [halive] at hlive
  | true =>
    rw [if_pos halive] at hresume
    have hdecided := SameRequest.decide cell.info decision
    cases hstage with
    | idle quiet => simp [quiet.unheld a cell hcell rfl halive] at hwaiting
    | posted _ _ _ _ _ _ _ unheld => simp [unheld a cell hcell rfl halive] at hwaiting
    | waiting c b old ctx atCell own entry only unposted unheard fits =>
      obtain rfl := only a cell hcell rfl halive hwaiting
      obtain rfl : cell = old := Option.some.inj (hcell.symm.trans atCell)
      have hset := RequestHandler.setCell_ctxs_self h a
        { cell with info := cell.info.decide decision, waiting := false }
      rcases RequestHandler.runNextCallback_cases hresume with
        ⟨-, -, hskip⟩ | ⟨d, progress, hd, -, -, hadvance, hcase⟩
      · have hnone := hskip _ hset halive
        simp [hdecided.requestIdentifier, entry] at hnone
      · obtain rfl : { cell with info := cell.info.decide decision, waiting := false } = d := by
          simpa using hd
        have hsame := hdecided.trans (RequestHandler.advance_same hadvance)
        have hinfo := hsame.requestIdentifier
        have hquiet : (h.setCell a
            { cell with info := cell.info.decide decision, waiting := false }).Quiet
            cell.info.requestIdentifier := by
          refine ⟨fun i other hother hid hlive => ?_, unposted⟩
          rcases RequestHandler.setCell_cases _ _ _ _ hother with ⟨-, rfl⟩ | ⟨hia, hold⟩
          · rfl
          · by_contra hwaits
            exact hia (only i other hold hid hlive (by simpa using hwaits))
        cases progress with
        | pending info =>
          rw [hcase.1]
          exact waits hquiet entry hinfo ctx unheard (fits.of_url hsame.requestUrl)
        | complete info rv url =>
          obtain ⟨-, callback, hcallback, rfl⟩ := hcase
          obtain rfl : ⟨cell.info.requestIdentifier, c⟩ = callback := by
            simpa [hdecided.requestIdentifier, entry] using hcallback
          exact posts hquiet rfl hinfo ctx unheard (fits.of_url hsame.requestUrl)

end Stage

namespace Turn

variable {t t' : Turn} {last : Nat}

/-- A turn that has sent checked legs only, of a request that nothing is under way of. -/
structure Calm (t : Turn) : Prop where
  legs : ∀ message ∈ t.sent, message.Checked
  quiet : t.handler.Quiet t.id

/-- A turn that has sent checked legs only, and left its request at a stage or destroyed it. -/
structure Staged (t : Turn) : Prop where
  legs : ∀ message ∈ t.sent, message.Checked
  stage : t.destroyed = false → Stage t.id t.handler t.r

/-- The check of the request that passed last is the one of the context it holds, for its URL. -/
def ChecksOut (t : Turn) : Prop :=
  ∃ a cell, t.r.ctx = some a ∧ t.handler.ctxs a = some cell ∧ t.r.ChecksUrl a cell ∧
    cell.result = some Net.OK

namespace Calm

theorem staged (h : t.Calm) : t.Staged := ⟨h.legs, fun _ => .idle h.quiet⟩

/-- The request changes, and the messages that are sent are checked. -/
theorem request (h : t.Calm) (r : InProgressRequest) : Calm { t with r := r } := ⟨h.legs, h.quiet⟩

theorem send (h : t.Calm) {message : Message} (hmessage : message.Checked) :
    (t.send message).Calm := by
  refine ⟨fun m hm => ?_, h.quiet⟩
  rcases List.mem_append.mp hm with hold | hlast
  · exact h.legs m hold
  · obtain rfl := List.mem_singleton.mp hlast
    exact hmessage

theorem setPaused (h : t.Calm) (paused : Bool) : (t.setPaused paused).Calm := by
  unfold Turn.setPaused
  split
  · exact h.request _
  · exact h

theorem modifyCtx (h : t.Calm) {f : BraveRequestInfo → BraveRequestInfo}
    (hf : ∀ info, (f info).requestIdentifier = info.requestIdentifier) : (t.modifyCtx f).Calm := by
  unfold Turn.modifyCtx
  split
  · exact h
  · rename_i a _
    split
    · exact h
    · rename_i cell hcell
      refine ⟨h.legs, h.quiet.setCell a fun hid halive => ?_⟩
      exact h.quiet.unheld a cell hcell ((hf cell.info).symm.trans hid) halive

theorem releaseCtx (setup : ProxySetup) (h : t.Calm) : (t.releaseCtx setup).Quiet t.id := by
  unfold Turn.releaseCtx RequestHandler.releaseCtx
  split
  · exact (h.quiet.onURLRequestDestroyed _).killCtx _
  · exact h.quiet

theorem createBraveRequestInfo (setup : ProxySetup) (env : ProxyEnv) (h : t.Calm) :
    (t.createBraveRequestInfo setup env).Calm :=
  ⟨h.legs, (h.releaseCtx setup).newCtx _⟩

theorem beginCheck (setup : ProxySetup) (env : ProxyEnv) (h : t.Calm) :
    (t.beginCheck setup env).Calm :=
  ((h.request { t.r with requestCompleted := false, redirectUrl := .empty }).createBraveRequestInfo
    setup env).request _

theorem taintInitiator (setup : ProxySetup) (h : t.Calm) : (t.taintInitiator setup).Calm := by
  unfold Turn.taintInitiator
  split
  · split
    · exact h.request _
    · exact h
  · exact h

theorem useNewReferrer (h : t.Calm) : t.useNewReferrer.Calm := by
  unfold Turn.useNewReferrer
  split
  · exact h.request _
  · exact h

theorem passTransaction (setup : ProxySetup) (env : ProxyEnv) (h : t.Calm) :
    (t.passTransaction setup env).Calm := by
  unfold Turn.passTransaction
  split
  · have hnew := h.createBraveRequestInfo setup env
    exact ⟨hnew.legs, hnew.quiet.replyOK _⟩
  · exact h

end Calm

theorem checked_of_none {message : Message} (h : message.leg? = none) : message.Checked :=
  fun leg hleg => by simp [h] at hleg

theorem checked_of_leg {message : Message} {leg : Leg} (h : message.leg? = some leg)
    (hleg : leg.Checked) : message.Checked := by
  intro other hother
  obtain rfl := Option.some.inj (h.symm.trans hother)
  exact hleg

theorem staged_destroy (setup : ProxySetup) (h : ∀ message ∈ t.sent, message.Checked) :
    (t.destroy setup).Staged := by
  unfold Turn.destroy
  split <;> exact ⟨h, fun hdestroyed => by simp at hdestroyed⟩

theorem staged_onRequestError (setup : ProxySetup) (errorCode : Int)
    (h : ∀ message ∈ t.sent, message.Checked) : (t.onRequestError setup errorCode).Staged := by
  unfold Turn.onRequestError
  dsimp only
  split
  · exact staged_destroy setup h
  · refine staged_destroy setup fun message hmessage => ?_
    rcases List.mem_append.mp hmessage with hold | hlast
    · exact h message hold
    · obtain rfl := List.mem_singleton.mp hlast
      exact checked_of_none rfl

theorem staged_continueToBeforeRedirect (setup : ProxySetup) (redirectInfo : RedirectInfo)
    (errorCode : Int) (h : t.Calm) :
    (t.continueToBeforeRedirect setup redirectInfo errorCode).Staged := by
  unfold Turn.continueToBeforeRedirect
  split
  · exact staged_onRequestError setup errorCode h.legs
  · have hmodified := (h.setPaused false).modifyCtx (f := fun ctx => { ctx with redirectSource :=
      if ctx.internalRedirect then .empty else (t.setPaused false).r.request.url }) fun _ => rfl
    exact ((hmodified.send (checked_of_none rfl)).request _).staged

theorem staged_handleBeforeRequestRedirect (setup : ProxySetup) (h : t.Calm) :
    (t.handleBeforeRequestRedirect setup).Staged := by
  have htainted : (t.resetLoader.taintInitiator setup).Calm := (h.request _).taintInitiator setup
  exact staged_continueToBeforeRedirect setup _ _
    (htainted.modifyCtx (f := fun ctx => { ctx with internalRedirect := true }) fun _ => rfl)

@[simp] theorem setPaused_leg (t : Turn) (paused : Bool) : (t.setPaused paused).leg = t.leg := by
  unfold Turn.setPaused; split <;> rfl

@[simp] theorem sendFollowRedirect_leg (t : Turn) : t.sendFollowRedirect.leg = t.leg := by
  unfold Turn.sendFollowRedirect
  split
  · rfl
  · dsimp only
    split <;> rfl

theorem staged_continueToStartRequest (setup : ProxySetup) (targetFactoryBound : Bool)
    (errorCode : Int) (h : t.Calm) (hleg : t.leg.Checked) :
    (t.continueToStartRequest setup targetFactoryBound errorCode).Staged := by
  unfold Turn.continueToStartRequest
  split
  · exact staged_onRequestError setup errorCode h.legs
  · have hresumed := h.setPaused false
    dsimp only
    split
    · have hmessage : Message.Checked (.createLoaderAndStart (t.setPaused false).leg) :=
        checked_of_leg rfl (by rwa [setPaused_leg])
      have hsent := hresumed.send hmessage
      exact (hsent.request _).staged
    · exact hresumed.staged

theorem Calm.sendFollowRedirect (h : t.Calm) (hleg : t.leg.Checked) :
    t.sendFollowRedirect.Calm := by
  unfold Turn.sendFollowRedirect
  split
  · exact h
  · rename_i params _
    dsimp only
    split
    · have hmessage : Message.Checked (.followRedirect t.leg params.newUrl) :=
        checked_of_leg rfl hleg
      exact (h.send hmessage).request _
    · exact h.request _

theorem staged_continueToSendHeaders (setup : ProxySetup) (targetFactoryBound : Bool)
    (errorCode : Int) (h : t.Calm) (hleg : t.leg.Checked) :
    (t.continueToSendHeaders setup targetFactoryBound errorCode).Staged := by
  unfold Turn.continueToSendHeaders
  split
  · exact staged_onRequestError setup errorCode h.legs
  · exact staged_continueToStartRequest setup _ _ ((h.sendFollowRedirect hleg).setPaused false)
      (by simpa using hleg)

theorem staged_refuse (setup : ProxySetup) (env : ProxyEnv) (h : t.Calm) :
    (t.refuse setup env).Staged := by
  unfold Turn.refuse
  split
  · exact staged_onRequestError setup _ h.legs
  · split
    · exact staged_onRequestError setup _ h.legs
    · exact ((h.send (checked_of_none rfl)).request _).staged

@[simp] theorem useNewReferrer_leg (t : Turn) : t.useNewReferrer.leg = t.leg := by
  unfold Turn.useNewReferrer; split <;> rfl

/-- The check that came out well and asks for no redirect lets its leg go. -/
theorem ChecksOut.leg (h : t.ChecksOut) (hblocked : t.info.blockedBy = .kNotBlocked)
    (hredirect : t.r.redirectUrl.isEmpty = true) : t.leg.Checked := by
  obtain ⟨a, cell, hctx, hcell, hchecks, hresult⟩ := h
  refine ⟨cell, by simp [Turn.leg, hchecks.checkedCtx, hcell], hchecks.url, hresult, ?_, hredirect⟩
  simpa [Turn.info, hctx, hcell] using hblocked

/-- `OnBeforeStartTransaction` gets a new context, and leaves what is known of the last check. -/
theorem passTransaction_leg (setup : ProxySetup) (env : ProxyEnv) (ht : t.Sound last)
    (hleg : t.leg.Checked) : (t.passTransaction setup env).leg.Checked := by
  obtain ⟨cell, hchecked, hurl, hresult, hblocked, hredirect⟩ := hleg
  obtain ⟨a, ha, hcell⟩ := Option.bind_eq_some_iff.mp hchecked
  unfold Turn.passTransaction
  split
  · have hlt : a < t.handler.nextCtx := by
      by_contra hge
      simp [ht.bounded.fresh a (by omega)] at hcell
    obtain ⟨cell', hcell', hinfo, hresult'⟩ :=
      RequestHandler.releaseCtx_ctxs _ _ _ setup.kind t.r.ctx hcell
    have hne : a ≠ t.nextAddress setup := by
      rw [Turn.nextAddress, Turn.releaseCtx, RequestHandler.releaseCtx_nextCtx]
      omega
    have hkept : (t.createBraveRequestInfo setup env).handler.ctxs a = some cell' := by
      rw [← hcell']
      exact RequestHandler.newCtx_ctxs_of_ne _ _ _ hne
    have hreply : ((t.createBraveRequestInfo setup env).handler.replyOK
        (t.nextAddress setup)).handler.ctxs a = some cell' := by
      rw [RequestHandler.replyOK, createBraveRequestInfo_cell setup env t]
      exact (RequestHandler.setCell_ctxs_of_ne _ _ _ _ hne).trans hkept
    refine ⟨cell', ?_, by rw [hinfo]; exact hurl, by rw [hresult']; exact hresult,
      by rw [hinfo]; exact hblocked, hredirect⟩
    exact (congrArg (fun checked => Option.bind checked _) ha).trans hreply
  · exact ⟨cell, hchecked, hurl, hresult, hblocked, hredirect⟩

/-- A check that is handled sends its request to the network only where it came out well. -/
theorem staged_continueToBeforeSendHeaders {setup : ProxySetup} {env : ProxyEnv}
    {targetFactoryBound : Bool} {errorCode : Int} (ht : t.Sound last) (h : t.Calm)
    (hchecks : errorCode = Net.OK → t.ChecksOut)
    (hrun : t.continueToBeforeSendHeaders setup env targetFactoryBound errorCode = .ok t') :
    t'.Staged := by
  rw [continueToBeforeSendHeaders_eq] at hrun
  obtain rfl := Except.ok.inj hrun
  split
  · exact staged_onRequestError setup errorCode h.legs
  · rename_i herror
    split
    · exact staged_handleBeforeRequestRedirect setup h
    · rename_i hredirect
      have hresumed := h.useNewReferrer.setPaused false
      have hsound :=
        (Keeps.useNewReferrer ht).trans (.setPaused (Keeps.useNewReferrer ht).sound false)
      split
      · exact staged_refuse setup env hresumed
      · rename_i hblocked
        have hleg : (t.useNewReferrer.setPaused false).leg.Checked := by
          rw [setPaused_leg, useNewReferrer_leg]
          exact (hchecks (by simpa using herror)).leg (by simpa using hblocked)
            (by simpa using hredirect)
        exact staged_continueToSendHeaders setup _ _ (hresumed.passTransaction setup env)
          (passTransaction_leg setup env hsound.sound hleg)

theorem staged_continueToResponseStarted {setup : ProxySetup} {errorCode : Int} (h : t.Calm)
    (hrun : t.continueToResponseStarted setup errorCode = .ok t') : t'.Staged := by
  unfold Turn.continueToResponseStarted at hrun
  split at hrun
  · obtain rfl := Except.ok.inj hrun
    exact staged_onRequestError setup errorCode h.legs
  · split at hrun
    · obtain rfl := Except.ok.inj hrun
      have hreset : t.resetLoader.Calm := h.request _
      exact staged_continueToBeforeRedirect setup _ _
        (hreset.modifyCtx (f := fun ctx => { ctx with internalRedirect := true }) fun _ => rfl)
    · split at hrun
      · contradiction
      · obtain rfl := Except.ok.inj hrun
        exact ((h.setPaused false).send (checked_of_none rfl)).staged

/-- A continuation that is run sends its request to the network only after a check that came out
well. -/
theorem staged_runContinuation {setup : ProxySetup} {env : ProxyEnv} {targetFactoryBound : Bool}
    {continuation : Continuation} {errorCode : Int} (ht : t.Sound last) (h : t.Calm)
    (hsend : continuation ≠ .sendHeaders)
    (hchecks : continuation = .beforeSendHeaders → errorCode = Net.OK → t.ChecksOut)
    (hrun : t.runContinuation setup env targetFactoryBound continuation errorCode = .ok t') :
    t'.Staged := by
  cases continuation with
  | beforeSendHeaders => exact staged_continueToBeforeSendHeaders ht h (hchecks rfl) hrun
  | sendHeaders => contradiction
  | responseStarted => exact staged_continueToResponseStarted h hrun
  | beforeRedirect redirectInfo =>
    obtain rfl := Except.ok.inj hrun
    exact staged_continueToBeforeRedirect setup _ _ h

/-- A check that is begun is under way with the URL of the request, or has passed at once. -/
theorem staged_restartInternal {setup : ProxySetup} {env : ProxyEnv} {targetFactoryBound : Bool}
    (ht : t.Sound last) (h : t.Calm)
    (hrun : t.restartInternal setup env targetFactoryBound = .ok t') : t'.Staged := by
  have hbegun := h.beginCheck setup env
  have hkept := Keeps.beginCheck setup env ht
  have hcell := beginCheck_cell setup env t
  rcases restartInternal_cases hrun with ⟨reply, hstart, rfl⟩ | ⟨-, hnext⟩
  · let u := (t.beginCheck setup env).withReply reply
    have hu : u.r.ctx = some (t.reset.nextAddress setup) ∧
        u.r.checkedCtx = some (t.reset.nextAddress setup) ∧ u.r.request = t.r.request := by
      cases hurl : reply.newUrl <;> simp only [u, Turn.withReply, hurl] <;> exact ⟨rfl, rfl, rfl⟩
    refine ⟨by rw [setPaused_sent]; exact h.legs, fun _ => ?_⟩
    rw [setPaused_id, setPaused_handler]
    refine .ofStartPhase hbegun.quiet hstart rfl rfl rfl (by simpa using hu.1)
      (setPaused_unheard u) fun cell' hcell' => ⟨by simpa using hu.2.1, hcell'.trans ?_⟩
    rw [setPaused_request, hu.2.2]
    rfl
  · let a := t.reset.nextAddress setup
    let u := (t.beginCheck setup env).withReply ((t.beginCheck setup env).handler.replyOK a)
    have hr : u.r = (t.beginCheck setup env).r := by
      simp only [u, Turn.withReply, RequestHandler.replyOK_newUrl]
      rfl
    have hreplied := hkept.trans (.ofTouches hkept.sound (.replyOK hcell rfl))
    have hsound : u.Sound last :=
      (Keeps.writeRedirectUrl hreplied.sound
        ((t.beginCheck setup env).handler.replyOK a).newUrl).sound
    have hcalm : u.Calm := ⟨hbegun.legs, hbegun.quiet.replyOK a⟩
    refine staged_continueToBeforeSendHeaders hsound hcalm (fun _ => ?_) hnext
    refine ⟨a, { info := t.reset.makeCTX setup env, result := some Net.OK }, by rw [hr]; rfl, ?_,
      ⟨by rw [hr]; rfl, by rw [hr]; rfl⟩, rfl⟩
    show ((t.beginCheck setup env).handler.replyOK a).handler.ctxs a = _
    rw [RequestHandler.replyOK, hcell]
    exact RequestHandler.setCell_ctxs_self _ _ _

/-- The phase of response headers is under way, or its continuation has run. -/
theorem staged_handleResponseOrRedirectHeaders {setup : ProxySetup} {env : ProxyEnv}
    {targetFactoryBound : Bool} {continuation : Continuation} (ht : t.Sound last) (h : t.Calm)
    (hheaders : continuation.ofHeaders = true)
    (hrun : t.handleResponseOrRedirectHeaders setup env targetFactoryBound continuation = .ok t') :
    t'.Staged := by
  have hbegun : t.beginHeaders.Calm := h.request _
  have hkept : Keeps last t t.beginHeaders := .request ht _ _ rfl ht.bound
  have hnew := hbegun.createBraveRequestInfo setup env
  have hcell := createBraveRequestInfo_cell setup env t.beginHeaders
  have hsend : continuation ≠ .sendHeaders := by
    rintro rfl
    simp [Continuation.ofHeaders] at hheaders
  have hchecks : ∀ {u : Turn} {errorCode : Int}, continuation = .beforeSendHeaders →
      errorCode = Net.OK → u.ChecksOut := by
    rintro u errorCode rfl
    simp [Continuation.ofHeaders] at hheaders
  rcases handleResponseOrRedirectHeaders_cases hrun with hnext | ⟨reply, hstart, rfl⟩ | hnext
  · exact staged_runContinuation hkept.sound hbegun hsend hchecks hnext
  · have hstage : ∀ r : InProgressRequest, r.ctx = some (t.beginHeaders.nextAddress setup) →
        (r.clientReceiverBound = true → r.clientReceiverPaused = true) →
        Stage t.id reply.handler r := fun r hctx hunheard =>
      .ofStartPhase hnew.quiet hstart rfl rfl rfl hctx hunheard
        fun cell' _ => Continuation.fits_of_headers hheaders _ _ _
    refine ⟨by rw [setPaused_sent]; exact h.legs, fun _ => ?_⟩
    rw [setPaused_id, setPaused_handler]
    exact hstage _ (by rw [setPaused_ctx]; rfl) (setPaused_unheard _)
  · have hcreated := hkept.trans (.createBraveRequestInfo setup env hkept.sound)
    have hreplied := hcreated.trans (.ofTouches hcreated.sound (.replyOK hcell rfl))
    exact staged_runContinuation hreplied.sound ⟨hnew.legs, hnew.quiet.replyOK _⟩ hsend hchecks
      hnext

theorem staged_onComplete (setup : ProxySetup) (errorCode : Int)
    (h : ∀ message ∈ t.sent, message.Checked) : (t.onComplete setup errorCode).Staged := by
  unfold Turn.onComplete
  split
  · exact staged_onRequestError setup errorCode h
  · refine staged_destroy setup fun message hmessage => ?_
    rcases List.mem_append.mp hmessage with hold | hlast
    · exact h message hold
    · obtain rfl := List.mem_singleton.mp hlast
      exact checked_of_none rfl

end Turn

namespace ProxyFactory

open EventMachine

variable {setup : ProxySetup} {s s' : ProxyFactory} {e : ProxyEvent}

/-- How far each request has got, as a property of it. -/
def staged : LocalProperty := ⟨Stage, Stage.sameFor⟩

/-- Whether a filter holds a live context of the request, or a completion of it is posted. -/
def busy (s : ProxyFactory) (id : Nat) : Bool :=
  s.handler.posted.any (·.callback.requestId == id) ||
    (List.range s.handler.nextCtx).any fun a =>
      match s.handler.ctxs a with
      | some cell => cell.info.requestIdentifier == id && cell.alive && cell.waiting
      | none => false

/-- The client follows redirects of a request only while nothing of the request is under way. -/
def followsWhenIdle (s : ProxyFactory) : ProxyEvent → Prop
  | .followRedirect id _ _ => s.busy id = false
  | _ => True

theorem quiet_of_not_busy (hs : s.WellFormed) {id : Nat} (h : s.busy id = false) :
    s.handler.Quiet id := by
  simp only [busy, Bool.or_eq_false_iff, List.any_eq_false, List.mem_range] at h
  refine ⟨fun a cell hcell hid halive => ?_, List.filter_eq_nil_iff.mpr h.1⟩
  have hlt : a < s.handler.nextCtx := by
    by_contra hge
    simp [hs.bounded.fresh a (by omega)] at hcell
  simpa [hcell, hid, halive] using h.2 a hlt

theorem quiet_of_new (hs : s.WellFormed) {id : Nat} (h : s.lastRequestId < id) :
    s.handler.Quiet id := by
  refine ⟨fun a cell hcell hid _ => ?_, List.filter_eq_nil_iff.mpr fun p hp => ?_⟩
  · have hle := hs.bounded.cells a cell hcell
    omega
  · have hle := hs.bounded.posted p hp
    have hne : p.callback.requestId ≠ id := by omega
    simpa using hne

theorem quiet_of_listens (hall : s.All staged) {id : Nat} {r : InProgressRequest}
    (hr : s.requests id = some r) (h : s.listens id = true) : s.handler.Quiet id := by
  simp only [listens, hr, Bool.and_eq_true, Bool.not_eq_true'] at h
  exact Stage.quiet_of_heard (hall id r hr) h.1 h.2

/-- The method that an event runs sends checked legs only, and leaves its request at a stage. -/
theorem method_staged {id : Nat} {f : Turn → Except ProxyFault Turn} {r : InProgressRequest}
    {t : Turn} (hs : s.WellFormed) (hall : s.All staged) (henabled : s.enabled e)
    (hidle : s.followsWhenIdle e) (hf : method setup s e = some (id, f))
    (hr : (s.prepare e).requests id = some r)
    (ht : f { id := id, handler := (s.prepare e).handler, r := r } = .ok t) : t.Staged := by
  have hsound := (hs.prepare e).sound hr
  have hlegs : ∀ message ∈ ([] : List Message), message.Checked := by simp
  cases e with
  | createLoaderAndStart request env =>
    obtain ⟨rfl, rfl⟩ := Prod.mk.inj (Option.some.inj hf)
    exact Turn.staged_restartInternal hsound ⟨hlegs, quiet_of_new hs (Nat.lt_succ_self _)⟩ ht
  | followRedirect i newUrl env =>
    obtain ⟨rfl, rfl⟩ := Prod.mk.inj (Option.some.inj hf)
    have htaken := Turn.Keeps.request hsound (r := (Turn.takeFollowRedirect newUrl
      { id := i, handler := s.handler, r := r }).r) [] false rfl hsound.bound
    exact Turn.staged_restartInternal htaken.sound ⟨hlegs, quiet_of_not_busy hs hidle⟩ ht
  | loaderDisconnected _ followRedirectReason =>
    obtain ⟨rfl, rfl⟩ := Prod.mk.inj (Option.some.inj hf)
    obtain rfl := Except.ok.inj ht
    unfold Turn.onLoaderDisconnected
    split
    · exact Turn.staged_destroy setup hlegs
    · exact Turn.staged_onRequestError setup _ hlegs
  | clientDisconnected =>
    obtain ⟨rfl, rfl⟩ := Prod.mk.inj (Option.some.inj hf)
    obtain rfl := Except.ok.inj ht
    exact Turn.staged_onRequestError setup _ hlegs
  | receiveResponse i env =>
    obtain ⟨rfl, rfl⟩ := Prod.mk.inj (Option.some.inj hf)
    have hcalm : Turn.Calm { id := i, handler := s.handler, r := r } :=
      ⟨hlegs, quiet_of_listens hall hr henabled⟩
    exact Turn.staged_handleResponseOrRedirectHeaders (Turn.Keeps.external hsound).sound
      (hcalm.modifyCtx fun _ => rfl) rfl ht
  | receiveRedirect i redirectInfo env =>
    obtain ⟨rfl, rfl⟩ := Prod.mk.inj (Option.some.inj hf)
    have hcalm : Turn.Calm { id := i, handler := s.handler, r := r } :=
      ⟨hlegs, quiet_of_listens hall hr henabled⟩
    exact Turn.staged_handleResponseOrRedirectHeaders (Turn.Keeps.external hsound).sound
      (hcalm.modifyCtx fun _ => rfl) rfl ht
  | complete _ errorCode =>
    obtain ⟨rfl, rfl⟩ := Prod.mk.inj (Option.some.inj hf)
    obtain rfl := Except.ok.inj ht
    exact Turn.staged_onComplete setup errorCode hlegs
  | runPosted env =>
    simp only [method, Option.map_eq_some_iff] at hf
    obtain ⟨⟨⟨i, c⟩, rv, a⟩, hhead, hf⟩ := hf
    obtain ⟨rest, hposted⟩ := List.head?_eq_some_iff.mp hhead
    obtain ⟨rfl, rfl⟩ := Prod.mk.inj hf
    have hfirst : s.handler.postedFor i =
        ⟨⟨i, c⟩, rv, a⟩ :: rest.filter (·.callback.requestId == i) := by
      simp [RequestHandler.postedFor, hposted]
    cases hall i r hr with
    | idle quiet => exact absurd (hfirst.symm.trans quiet.unposted) (by simp)
    | waiting _ _ _ _ _ _ _ _ unposted => exact absurd (hfirst.symm.trans unposted) (by simp)
    | posted c' rv' a' cell ctx atCell own unheld only unheard fits result =>
      obtain ⟨hcompletion, hrest⟩ := List.cons.inj (hfirst.symm.trans only)
      obtain ⟨rfl, rfl, rfl⟩ : c = c' ∧ rv = rv' ∧ a = a' := by simpa using hcompletion
      have hquiet : (s.prepare (.runPosted env)).handler.Quiet i :=
        ⟨unheld, by simpa [prepare, withPosted, RequestHandler.postedFor, hposted] using hrest⟩
      refine Turn.staged_runContinuation hsound ⟨hlegs, hquiet⟩ ?_ ?_ ht
      · rintro rfl
        exact fits
      · rintro rfl rfl
        exact ⟨a, cell, ctx, atCell, fits, result⟩
  | stubWritten i written =>
    obtain ⟨rfl, rfl⟩ := Prod.mk.inj (Option.some.inj hf)
    obtain rfl := Except.ok.inj ht
    unfold Turn.onWrite
    dsimp only
    split
    · exact ⟨hlegs, fun _ => Stage.ofRequest (hall i r hr) rfl rfl rfl rfl rfl⟩
    · exact Turn.staged_onComplete setup _ hlegs
  | clone | resume | targetFactoryError | proxyBindingError => contradiction

/-- A step keeps every request at a stage, and sends checked legs only. -/
theorem step_staged (henabled : s.enabled e) (hidle : s.followsWhenIdle e)
    (hstep : step setup s e = .ok s') (hs : s.WellFormed) (hall : s.All staged)
    (hlegs : ∀ sent ∈ s.sent, sent.2.Checked) :
    (s'.WellFormed ∧ s'.All staged) ∧ ∀ sent ∈ s'.sent, sent.2.Checked := by
  constructor
  · refine hs.step hall henabled hstep (fun id f r t hf hr ht => ?_) ?_
    · have hkept := method_keeps hf ((hs.prepare e).sound hr) ht
      have hid : t.id = id := hkept.id_eq
      exact hid ▸ (method_staged hs hall henabled hidle hf hr ht).stage
    · rintro a decision env cell h newUrl r rfl hcell hresume - hstage
      obtain ⟨c, hc, hwaiting⟩ := henabled
      obtain rfl : cell = c := Option.some.inj (hcell.symm.trans hc)
      have hresumed : Stage cell.info.requestIdentifier h r :=
        Stage.resume hcell hwaiting hresume hstage
      cases newUrl with
      | none => exact hresumed
      | some url => exact hresumed.ofRequest rfl rfl rfl rfl rfl
  · rcases step_sent henabled hstep with hsent | ⟨id, f, r, t, hf, hr, ht, hsent⟩
    · rwa [hsent]
    · rw [hsent]
      intro message hmessage
      rcases List.mem_append.mp hmessage with hold | hnew
      · exact hlegs message hold
      · obtain ⟨m, hm, rfl⟩ := List.mem_map.mp hnew
        exact (method_staged hs hall henabled hidle hf hr ht).legs m hm

/-- In a run whose redirects are followed only while nothing of their request is under way, each leg
goes to the URL of the last check, which passed without a block or a redirect. -/
theorem legs_checked (setup : ProxySetup) {es : List ProxyEvent} {s : ProxyFactory}
    (run : Run ((machine setup).restrict followsWhenIdle) init es s) :
    ∀ id message leg, (id, message) ∈ s.sent → message.leg? = some leg → leg.Checked := by
  have hinit : (init.WellFormed ∧ init.All staged) ∧ ∀ sent ∈ init.sent, sent.2.Checked :=
    ⟨⟨wellFormed_init, fun id r hr => by simp [init] at hr⟩, by simp [init]⟩
  have hlegs := (run.preserves (P := fun s => (s.WellFormed ∧ s.All staged) ∧
    ∀ sent ∈ s.sent, sent.2.Checked) ?_ hinit).2
  · intro id message leg hsent hleg
    exact hlegs _ hsent leg hleg
  · rintro s e s' ⟨henabled, hidle⟩ hstep ⟨⟨hs, hall⟩, hlegs⟩
    exact step_staged henabled hidle hstep hs hall hlegs

instance (s : ProxyFactory) : ∀ e, Decidable (s.followsWhenIdle e)
  | .followRedirect id _ _ => inferInstanceAs (Decidable (s.busy id = false))
  | .createLoaderAndStart _ _ | .clone | .loaderDisconnected _ _ | .clientDisconnected _
  | .receiveResponse _ _ | .receiveRedirect _ _ _ | .complete _ _ | .resume _ _ _ | .runPosted _
  | .stubWritten _ _ | .targetFactoryError | .proxyBindingError => inferInstanceAs (Decidable True)

/-- A page that is loaded, and redirected by its server once it was. -/
def loadRedirected : List ProxyEvent :=
  [.createLoaderAndStart { url := .https "a.com" "/" } {}, .resume 0 none {}, .runPosted {},
    .receiveRedirect 1 ⟨.https "b.com" "/", "GET", .empty⟩ {}, .resume 2 none {}, .runPosted {}]

/-- The legs that were sent, with the URLs that they were checked for. -/
def legUrls (s : ProxyFactory) : List (GURL × Option GURL) :=
  (s.sent.filterMap (·.2.leg?)).map fun leg =>
    (leg.url, leg.checked.map fun cell => cell.info.requestUrl)

/-- A redirect that is followed gives a second leg. -/
theorem legs_checked_followed :
    ∃ s, Run ((machine (.ofUrls .weakPtr [])).restrict followsWhenIdle) init
        (loadRedirected ++ [.followRedirect 1 none {}, .resume 3 none {}, .runPosted {}]) s ∧
      s.legUrls = [(.https "a.com" "/", some (.https "a.com" "/")),
        (.https "b.com" "/", some (.https "b.com" "/"))] ∧
      ∀ id message leg, (id, message) ∈ s.sent → message.leg? = some leg → leg.Checked := by
  obtain ⟨s, run, hs⟩ := Machine.exists_run
    ((machine (.ofUrls .weakPtr [])).restrict followsWhenIdle) init
    (loadRedirected ++ [.followRedirect 1 none {}, .resume 3 none {}, .runPosted {}])
    (fun s => s.legUrls == [(.https "a.com" "/", some (.https "a.com" "/")),
      (.https "b.com" "/", some (.https "b.com" "/"))]) (by decide)
  exact ⟨s, run, by simpa using hs, legs_checked _ run⟩

/-- A redirect that is followed while the headers of the next one are under way: the check is made
for the first redirect, and then the leg goes to the second one. -/
theorem leg_not_checked :
    ∃ s, Run (machine (.ofUrls .weakPtr [])) init
        (loadRedirected ++ [.receiveRedirect 1 ⟨.https "c.com" "/", "GET", .empty⟩ {},
          .resume 3 none {}, .followRedirect 1 none {}, .runPosted {}, .resume 4 none {},
          .runPosted {}]) s ∧
      s.legUrls = [(.https "a.com" "/", some (.https "a.com" "/")),
        (.https "c.com" "/", some (.https "b.com" "/"))] := by
  obtain ⟨s, run, hs⟩ := Machine.exists_run (machine (.ofUrls .weakPtr [])) init
    (loadRedirected ++ [.receiveRedirect 1 ⟨.https "c.com" "/", "GET", .empty⟩ {},
      .resume 3 none {}, .followRedirect 1 none {}, .runPosted {}, .resume 4 none {},
      .runPosted {}])
    (fun s => s.legUrls == [(.https "a.com" "/", some (.https "a.com" "/")),
      (.https "c.com" "/", some (.https "b.com" "/"))]) (by decide)
  exact ⟨s, run, by simpa using hs⟩

end ProxyFactory

end ChromiumAdblock
