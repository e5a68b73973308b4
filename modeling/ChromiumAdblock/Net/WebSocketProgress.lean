import ChromiumAdblock.Net.WebSocketBlocking

/-! How a WebSocket settles.  The network waits for the reply to each of its calls of the header
client before it makes the next one.  Then the proxy never runs its factory twice, and the filters,
tasks and replies that it waits for come to an end after three steps at most: it is gone then, or it
listens to its connection and owes it no reply. -/

namespace ChromiumAdblock

open EventMachine

/-- A pending filter has been asked, so the index has passed it. -/
theorem runFilters_pending {answers : Nat → FilterAnswer} {remaining : Nat}
    {info : BraveRequestInfo} (h : (runFilters answers remaining info).2 = Net.ERR_IO_PENDING) :
    info.nextUrlRequestIndex < (runFilters answers remaining info).1.nextUrlRequestIndex := by
  induction remaining generalizing info with
  | zero => exact absurd (show Net.OK = Net.ERR_IO_PENDING from h) (by decide)
  | succ remaining ih =>
    have hasked := (askFilter_spec answers info).2
    by_cases hpending : (askFilter answers info).2 = Net.ERR_IO_PENDING
    · rw [runFilters, if_pos hpending]
      omega
    · by_cases hok : (askFilter answers info).2 ≠ Net.OK
      · rw [runFilters, if_neg hpending, if_pos hok]
        omega
      · rw [runFilters, if_neg hpending, if_neg hok] at h ⊢
        have := ih h
        omega

theorem advance_pending_index {lib : UrlLibrary} {filters : FilterLists}
    {answers : Nat → FilterAnswer} {info info' : BraveRequestInfo}
    (h : advance lib filters answers info = .ok (.pending info')) :
    info.nextUrlRequestIndex < info'.nextUrlRequestIndex := by
  unfold advance at h
  split at h
  · simp at h
  · dsimp only at h
    split at h
    · contradiction
    · split at h
      · rename_i hpending
        obtain rfl : _ = info' := Progress.pending.inj (Except.ok.inj h)
        exact runFilters_pending hpending
      · exact absurd (Except.ok.inj h) (finishFilters_ne_pending _ _)

namespace RequestHandler

variable {κ : Type}

/-- No filter holds a `next_callback`, and no completion is on its way. -/
structure Idle (h : RequestHandler κ) : Prop where
  waiting : ∀ a cell, h.ctxs a = some cell → cell.waiting = false
  posted : h.posted = []

/-- The phase of the context at `a` is the only one under way, and `n` filters and tasks of it
are left at most. -/
inductive UnderWay (filters : FilterLists) (h : RequestHandler κ) (a : Nat) (callback : κ)
    (n : Nat) : Prop
  | filtering (cell : Cell) (cell_eq : h.ctxs a = some cell) (alive : cell.alive = true)
      (waiting : cell.waiting = true)
      (entry : h.callbacks cell.info.requestIdentifier = some (some callback))
      (index : cell.info.nextUrlRequestIndex ≤ filters.count cell.info.eventType)
      (others : ∀ b c, h.ctxs b = some c → c.waiting = true → b = a) (posted : h.posted = [])
      (left : filters.count cell.info.eventType - cell.info.nextUrlRequestIndex + 2 ≤ n)
  | posted (rv : Int) (waiting : ∀ b c, h.ctxs b = some c → c.waiting = false)
      (posted : h.posted = [⟨callback, rv, a⟩]) (left : 0 < n)

/-- Nothing that is left of the phases calls anything. -/
inductive Leftover (h : RequestHandler κ) (n : Nat) : Prop
  | idle (idle : h.Idle)
  | filter (a : Nat) (others : ∀ b c, h.ctxs b = some c → c.waiting = true → b = a)
      (skipped : ∀ cell, h.ctxs a = some cell → cell.alive = true →
        h.callbacks cell.info.requestIdentifier = none) (posted : h.posted = []) (left : 0 < n)
  | task (waiting : ∀ b c, h.ctxs b = some c → c.waiting = false) (completion : Completion κ)
      (posted : h.posted = [completion]) (left : 0 < n)

section Phases

variable {lib : UrlLibrary} {filters : FilterLists} {answers : Nat → FilterAnswer}
  {h h' : RequestHandler κ} {a : Nat} {callback : κ} {n : Nat}

theorem UnderWay.mono (hw : h.UnderWay filters a callback n) {m : Nat} (hnm : n ≤ m) :
    h.UnderWay filters a callback m := by
  cases hw with
  | filtering cell hcell halive hwaits hentry hindex hothers hposted hleft =>
    exact .filtering cell hcell halive hwaits hentry hindex hothers hposted (by omega)
  | posted rv hwaiting hposted hleft => exact .posted rv hwaiting hposted (by omega)

theorem Leftover.mono (hl : h.Leftover n) {m : Nat} (hnm : n ≤ m) : h.Leftover m := by
  cases hl with
  | idle hidle => exact .idle hidle
  | filter a hothers hskipped hposted hleft => exact .filter a hothers hskipped hposted (by omega)
  | task hwaiting completion hposted hleft => exact .task hwaiting completion hposted (by omega)

theorem Idle.setCell (hh : h.Idle) (a : Nat) {cell : Cell} (hcell : cell.waiting = false) :
    (h.setCell a cell).Idle where
  waiting b c hc := by
    rcases setCell_cases _ _ _ _ hc with ⟨-, rfl⟩ | ⟨-, hold⟩
    · exact hcell
    · exact hh.waiting b c hold
  posted := hh.posted

theorem Idle.newCtx (hh : h.Idle) (info : BraveRequestInfo) : (h.newCtx info).Idle :=
  have hset : (h.setCell h.nextCtx { info := info }).Idle := hh.setCell _ rfl
  ⟨hset.waiting, hset.posted⟩

theorem Idle.onURLRequestDestroyed (hh : h.Idle) (a : Nat) : (h.onURLRequestDestroyed a).Idle :=
  ⟨by simpa using hh.waiting, by simpa using hh.posted⟩

theorem killCtx_waiting {b : Nat} {c : Cell} (hc : (h.killCtx a).ctxs b = some c) :
    ∃ cell, h.ctxs b = some cell ∧ c.waiting = cell.waiting ∧ c.info = cell.info ∧
      (c.alive = true → cell.alive = true) := by
  rw [killCtx_ctxs] at hc
  split at hc
  · rename_i hb
    obtain ⟨cell, hcell, rfl⟩ := Option.map_eq_some_iff.mp hc
    exact ⟨cell, by rwa [hb], rfl, rfl, by simp⟩
  · exact ⟨c, hc, rfl, rfl, id⟩

theorem Idle.killCtx (hh : h.Idle) (a : Nat) : (h.killCtx a).Idle := by
  refine ⟨fun b c hc => ?_, (killCtx_posted _ _).trans hh.posted⟩
  obtain ⟨cell, hcell, hwaiting, -, -⟩ := killCtx_waiting hc
  exact hwaiting.trans (hh.waiting b cell hcell)

theorem Idle.releaseCtx (hh : h.Idle) (kind : PointerKind) (ctx : Option Nat) :
    (h.releaseCtx kind ctx).Idle := by
  unfold RequestHandler.releaseCtx
  split
  · exact (hh.onURLRequestDestroyed _).killCtx _
  · exact hh

/-- The request of the phase that is under way is gone. -/
theorem UnderWay.onURLRequestDestroyed (hw : h.UnderWay filters a callback n) :
    (h.onURLRequestDestroyed a).Leftover 1 := by
  cases hw with
  | filtering cell hcell halive hwaits hentry hindex hothers hposted hleft =>
    refine .filter a (by simpa using hothers) (fun c hc _ => ?_) (by simpa using hposted)
      Nat.one_pos
    obtain rfl : cell = c := by simpa [hcell] using hc
    rw [onURLRequestDestroyed_eq _ _ _ hcell, setEntry_callbacks_self]
  | posted rv hwaiting hposted hleft =>
    exact .task (by simpa using hwaiting) _ (by simpa using hposted) Nat.one_pos

theorem Leftover.killCtx (hl : h.Leftover n) (a : Nat) : (h.killCtx a).Leftover n := by
  cases hl with
  | idle hidle => exact .idle (hidle.killCtx a)
  | filter b hothers hskipped hposted hleft =>
    refine .filter b (fun d c hc hwaiting => ?_) (fun c hc halive => ?_)
      ((killCtx_posted _ _).trans hposted) hleft
    · obtain ⟨cell, hcell, hwaits, -, -⟩ := killCtx_waiting hc
      exact hothers d cell hcell (hwaits.symm.trans hwaiting)
    · obtain ⟨cell, hcell, -, hinfo, hold⟩ := killCtx_waiting hc
      rw [killCtx_callbacks, hinfo]
      exact hskipped cell hcell (hold halive)
  | task hwaiting completion hposted hleft =>
    refine .task (fun b c hc => ?_) completion ((killCtx_posted _ _).trans hposted) hleft
    obtain ⟨cell, hcell, hwaits, -, -⟩ := killCtx_waiting hc
    exact hwaits.trans (hwaiting b cell hcell)

theorem Idle.replyOK (hh : h.Idle) (a : Nat) : (h.replyOK a).handler.Idle := by
  unfold RequestHandler.replyOK
  split
  · rename_i cell hcell
    exact hh.setCell a (hh.waiting a cell hcell)
  · exact hh

variable (lib answers) in
/-- The filters of a context run: one of them waits, or the completion of the phase is posted. -/
theorem underWay_runNextCallback (hh : h.Idle) {cell : Cell} (hcell : h.ctxs a = some cell)
    (halive : cell.alive = true)
    (hentry : h.callbacks cell.info.requestIdentifier = some (some callback))
    (hindex : cell.info.nextUrlRequestIndex ≤ filters.count cell.info.eventType)
    (hleft : filters.count cell.info.eventType - cell.info.nextUrlRequestIndex + 1 ≤ n) :
    ∃ h' newUrl, h.runNextCallback lib filters answers a = .ok (h', newUrl) ∧
      h'.UnderWay filters a callback n := by
  obtain ⟨progress, hadvance, hsame, hle, hrun⟩ :=
    runNextCallback_live lib answers hcell halive hentry hindex
  have hidle := hh.waiting a cell hcell
  cases progress with
  | pending info =>
    have hlt := advance_pending_index hadvance
    have hevent : info.eventType = cell.info.eventType := hsame.eventType
    have hid : info.requestIdentifier = cell.info.requestIdentifier := hsame.requestIdentifier
    have hbound : info.nextUrlRequestIndex ≤ filters.count cell.info.eventType := hle
    refine ⟨_, _, hrun, .filtering { cell with info := info, waiting := true }
      (setCell_ctxs_self _ _ _) halive rfl ?_ ?_ (fun b c hc hwaiting => ?_) hh.posted ?_⟩
    · simpa [hid] using hentry
    · simpa only [hevent] using hbound
    · rcases setCell_cases _ _ _ _ hc with ⟨hb, -⟩ | ⟨-, hold⟩
      · exact hb
      · simp [hh.waiting b c hold] at hwaiting
    · simp only [hevent]
      omega
  | complete info rv newUrl =>
    have hset : (h.setCell a { cell with info := info, result := some rv }).Idle :=
      hh.setCell a hidle
    refine ⟨_, _, hrun, .posted rv hset.waiting ?_ (by omega)⟩
    simp [completed, hh.posted]

variable (lib answers) in
/-- A phase that is started with a fresh context. -/
theorem Idle.startPhase (hh : h.Idle) (eventType : BraveNetworkDelegateEventType) {cell : Cell}
    (hcell : h.ctxs a = some cell) (halive : cell.alive = true)
    (hindex : cell.info.nextUrlRequestIndex = 0) (callback : κ)
    (hleft : filters.count eventType + 1 ≤ n) :
    ∃ reply, RequestHandler.startPhase lib filters answers eventType h a cell callback =
        .ok reply ∧
      reply.result = Net.ERR_IO_PENDING ∧ reply.handler.UnderWay filters a callback n := by
  have hset : (h.setCell a
      { cell with info := { cell.info with eventType := eventType } }).Idle :=
    hh.setCell a (hh.waiting a cell hcell)
  have hentered : (h.entered a cell eventType callback).Idle := ⟨hset.waiting, hset.posted⟩
  obtain ⟨h', newUrl, hrun, hunder⟩ := underWay_runNextCallback lib answers (n := n) hentered
    (setCell_ctxs_self _ _ _) halive (setEntry_callbacks_self _ _ _) (by simp [hindex])
    (by simp only [hindex]; omega)
  refine ⟨⟨h', newUrl, Net.ERR_IO_PENDING⟩, ?_, rfl, hunder⟩
  unfold RequestHandler.startPhase
  dsimp only
  rw [entered] at hrun
  rw [hrun]

variable (lib answers) in
/-- `OnBeforeURLRequest` with a fresh context returns `OK` at once, or its phase is under way. -/
theorem Idle.onBeforeURLRequest (hh : h.Idle) {cell : Cell} (hcell : h.ctxs a = some cell)
    (halive : cell.alive = true) (hindex : cell.info.nextUrlRequestIndex = 0) (callback : κ)
    (hleft : filters.beforeUrlRequest + 1 ≤ n) :
    ∃ reply, h.onBeforeURLRequest lib filters answers a callback = .ok reply ∧
      (reply = h.replyOK a ∨
        (reply.result = Net.ERR_IO_PENDING ∧ reply.handler.UnderWay filters a callback n)) := by
  by_cases hat : cell.alive = false ∨ filters.beforeUrlRequest = 0 ∨
      isInternalScheme cell.info.requestUrl = true
  · refine ⟨h.replyOK a, ?_, .inl rfl⟩
    simp only [RequestHandler.onBeforeURLRequest, hcell, if_pos hat]
  · obtain ⟨reply, hstart, hreply⟩ := hh.startPhase lib answers .kOnBeforeRequest hcell halive
      hindex callback hleft
    refine ⟨reply, ?_, .inr hreply⟩
    simpa only [RequestHandler.onBeforeURLRequest, hcell, if_neg hat] using hstart

variable (lib answers) in
/-- `OnHeadersReceived` with a fresh context returns `OK` at once, or its phase is under way. -/
theorem Idle.onHeadersReceived (hh : h.Idle) {cell : Cell} (hcell : h.ctxs a = some cell)
    (halive : cell.alive = true) (hindex : cell.info.nextUrlRequestIndex = 0) (callback : κ)
    (hleft : filters.headersReceived + 1 ≤ n) :
    ∃ reply, h.onHeadersReceived lib filters answers a callback = .ok reply ∧
      (reply = h.replyOK a ∨
        (reply.result = Net.ERR_IO_PENDING ∧ reply.handler.UnderWay filters a callback n)) := by
  by_cases hat : cell.alive = false ∨
      (filters.headersReceived = 0 ∧ cell.info.requestUrl.schemeIs "chrome" = false)
  · refine ⟨h.replyOK a, ?_, .inl rfl⟩
    simp only [RequestHandler.onHeadersReceived, hcell, if_pos hat]
  · obtain ⟨reply, hstart, hreply⟩ := hh.startPhase lib answers .kOnHeadersReceived hcell
      halive hindex callback hleft
    refine ⟨reply, ?_, .inr hreply⟩
    simpa only [RequestHandler.onHeadersReceived, hcell, if_neg hat] using hstart

/-- A filter that resumes brings the phase that is under way forward. -/
theorem UnderWay.resume (hw : h.UnderWay filters a callback n) {b : Nat} {cell : Cell}
    (hcell : h.ctxs b = some cell) (hwaiting : cell.waiting = true) (decision : Option Decision) :
    ∃ h' newUrl m, h.resume lib filters answers b decision = .ok (h', newUrl) ∧ m < n ∧
      h'.UnderWay filters a callback m := by
  cases hw with
  | filtering held hheld halive hwaits hentry hindex hothers hposted hleft =>
    obtain rfl : b = a := hothers b cell hcell hwaiting
    obtain rfl : cell = held := by simpa [hcell] using hheld
    have hsame : SameRequest cell.info (cell.info.decide decision) := .decide _ _
    let resumed : Cell := { cell with info := cell.info.decide decision, waiting := false }
    have hidle : (h.setCell b resumed).Idle := by
      refine ⟨fun c d hd => ?_, hposted⟩
      rcases setCell_cases _ _ _ _ hd with ⟨-, rfl⟩ | ⟨hne, hold⟩
      · rfl
      · by_contra hw
        exact hne (hothers c d hold (by simpa using hw))
    obtain ⟨h', newUrl, hrun, hunder⟩ := underWay_runNextCallback lib answers (n := n - 1) hidle
      (setCell_ctxs_self _ _ _) halive (by simpa [resumed, hsame.requestIdentifier] using hentry)
      (by simpa [resumed, hsame.eventType] using hindex)
      (by simp only [resumed, hsame.eventType, BraveRequestInfo.decide_nextUrlRequestIndex]; omega)
    refine ⟨h', newUrl, n - 1, ?_, by omega, hunder⟩
    simp only [RequestHandler.resume, hcell, if_pos halive]
    exact hrun
  | posted rv hwaits hposted hleft => simp [hwaits b cell hcell] at hwaiting

/-- A filter that resumes when its request is gone does nothing. -/
theorem Leftover.resume (hl : h.Leftover n) {b : Nat} {cell : Cell} (hcell : h.ctxs b = some cell)
    (hwaiting : cell.waiting = true) (decision : Option Decision) :
    ∃ h' m, h.resume lib filters answers b decision = .ok (h', none) ∧ m < n ∧ h'.Leftover m := by
  cases hl with
  | idle hidle => simp [hidle.waiting b cell hcell] at hwaiting
  | task hwaits completion hposted hleft => simp [hwaits b cell hcell] at hwaiting
  | filter a hothers hskipped hposted hleft =>
    obtain rfl : b = a := hothers b cell hcell hwaiting
    let info := if cell.alive then cell.info.decide decision else cell.info
    let resumed : Cell := { cell with info := info, waiting := false }
    have hid : info.requestIdentifier = cell.info.requestIdentifier := by
      simp only [info]
      split
      · exact (SameRequest.decide cell.info decision).requestIdentifier
      · rfl
    refine ⟨h.setCell b resumed, 0, ?_, hleft, .idle ⟨fun c d hd => ?_, hposted⟩⟩
    · simp only [RequestHandler.resume, hcell]
      refine runNextCallback_skip fun d hd halive => ?_
      obtain rfl : resumed = d := by simpa [resumed] using hd
      simpa [resumed, hid] using hskipped cell hcell halive
    · rcases setCell_cases _ _ _ _ hd with ⟨-, rfl⟩ | ⟨hne, hold⟩
      · rfl
      · by_contra hw
        exact hne (hothers c d hold (by simpa using hw))

end Phases

end RequestHandler

/-- The events that the browser owes a socket: its filters and tasks, and the replies of the page's
header client. -/
def SocketEvent.ofBrowser : SocketEvent → Bool
  | .resume _ _ _ | .runPosted _ | .headersFromProxy _ _ | .receivedFromProxy => true
  | .webSocketFactoryRun _ _ | .beforeSendHeaders _ | .headersReceived _ | .connectionEstablished
  | .connectionError => false

namespace SocketProxy

/-- The network calls the header client of the connection when it waits for no reply of it. -/
def inOrder (s : SocketProxy) : SocketEvent → Prop
  | .beforeSendHeaders _ | .headersReceived _ =>
    s.w.beforeSendHeadersCallback = false ∧ s.w.headersReceivedCallback = false
  | _ => True

/-- The socket hears its connection, and owes it no reply. -/
def listens (s : SocketProxy) : Bool :=
  s.w.handshakeReceiverBound && !s.w.receiversPaused && !s.w.beforeSendHeadersCallback &&
    !s.w.headersReceivedCallback

/-- The connection is not there, and has asked nothing. -/
structure NotOpened (s : SocketProxy) : Prop extends s.Unopened where
  live : s.destroyed = false
  notPaused : s.w.receiversPaused = false
  noSending : s.w.beforeSendHeadersCallback = false
  noReceived : s.w.headersReceivedCallback = false

/-- The factory has run once. -/
structure Connected (s : SocketProxy) : Prop where
  live : s.destroyed = false
  started : s.w.started = true
  once : s.opened.length = 1
  bound : s.w.handshakeReceiverBound = true
  header : s.w.headerReceiverBound = s.w.hasExtraHeaders

/-- What the socket waits for, where `n` events of the browser are left at most. -/
inductive Settling (setup : SocketSetup) (s : SocketProxy) (n : Nat) : Prop
  | unstarted (notOpened : s.NotOpened) (notStarted : s.w.started = false)
      (idle : s.handler.Idle)
  | checking (a : Nat) (notOpened : s.NotOpened) (started : s.w.started = true)
      (ctx : s.w.ctx = some a) (underWay : s.handler.UnderWay setup.filters a
        (checkContinuation s.w.hasExtraHeaders) n)
  | listening (connected : s.Connected) (idle : s.handler.Idle)
      (headersAwaited : s.w.headersAwaited = 0) (receivedAwaited : s.w.receivedAwaited = 0)
      (listens : s.listens = true)
  | sendingHeaders (connected : s.Connected) (extra : s.w.hasExtraHeaders = true)
      (idle : s.handler.Idle) (headersAwaited : s.w.headersAwaited = 1)
      (receivedAwaited : s.w.receivedAwaited = 0) (held : s.w.beforeSendHeadersCallback = true)
      (noReceived : s.w.headersReceivedCallback = false) (notPaused : s.w.receiversPaused = false)
      (left : 0 < n)
  | filteringHeaders (a m : Nat) (connected : s.Connected) (extra : s.w.hasExtraHeaders = true)
      (ctx : s.w.ctx = some a)
      (underWay : s.handler.UnderWay setup.filters a .headersReceivedComplete m)
      (headersAwaited : s.w.headersAwaited = 0) (receivedAwaited : s.w.receivedAwaited = 0)
      (noSending : s.w.beforeSendHeadersCallback = false) (paused : s.w.receiversPaused = true)
      (left : m < n)
  | answering (connected : s.Connected) (extra : s.w.hasExtraHeaders = true)
      (idle : s.handler.Idle) (headersAwaited : s.w.headersAwaited = 0)
      (receivedAwaited : s.w.receivedAwaited = 1)
      (noSending : s.w.beforeSendHeadersCallback = false) (paused : s.w.receiversPaused = true)
      (left : 0 < n)
  | destroyed (gone : s.destroyed = true) (once : s.opened.length ≤ 1)
      (leftover : s.handler.Leftover n)

section Moves

variable {setup : SocketSetup} {env : SocketEnv} {s : SocketProxy} {n : Nat}

theorem Settling.mono (hs : s.Settling setup n) {m : Nat} (hnm : n ≤ m) : s.Settling setup m := by
  cases hs with
  | unstarted hclosed hstarted hidle => exact .unstarted hclosed hstarted hidle
  | checking a hclosed hstarted hctx hunder =>
    exact .checking a hclosed hstarted hctx (hunder.mono hnm)
  | listening hconnected hidle hheaders hreceived hlistens =>
    exact .listening hconnected hidle hheaders hreceived hlistens
  | sendingHeaders hconnected hextra hidle hheaders hreceived hheld hnone hpaused hleft =>
    exact .sendingHeaders hconnected hextra hidle hheaders hreceived hheld hnone hpaused (by omega)
  | filteringHeaders a k hconnected hextra hctx hunder hheaders hreceived hnone hpaused hleft =>
    exact .filteringHeaders a k hconnected hextra hctx hunder hheaders hreceived hnone hpaused
      (by omega)
  | answering hconnected hextra hidle hheaders hreceived hnone hpaused hleft =>
    exact .answering hconnected hextra hidle hheaders hreceived hnone hpaused (by omega)
  | destroyed hgone honce hleft => exact .destroyed hgone honce (hleft.mono hnm)

theorem settling_init (setup : SocketSetup) (request : ResourceRequest) (n : Nat) :
    (init request).Settling setup n :=
  .unstarted ⟨⟨rfl, rfl, rfl, rfl⟩, rfl, rfl, rfl, rfl⟩ rfl
    ⟨fun a cell hcell => absurd hcell (by simp [init, RequestHandler.init]), rfl⟩

theorem settling_onError_idle (hidle : s.handler.Idle) (honce : s.opened.length ≤ 1) (n : Nat) :
    (s.onError setup).Settling setup n := by
  refine .destroyed onError_destroyed (by simpa using honce) ?_
  unfold onError
  split
  · exact .idle hidle
  · dsimp only
    split
    · exact .idle ((hidle.onURLRequestDestroyed _).killCtx _)
    · exact .idle (hidle.onURLRequestDestroyed _)

theorem settling_onError_underWay {a : Nat} {callback : SocketContinuation}
    (hctx : s.w.ctx = some a) (hunder : s.handler.UnderWay setup.filters a callback n)
    (honce : s.opened.length ≤ 1) : (s.onError setup).Settling setup 1 := by
  refine .destroyed onError_destroyed (by simpa using honce) ?_
  unfold onError
  rw [hctx]
  dsimp only
  split
  · exact hunder.onURLRequestDestroyed.killCtx a
  · exact hunder.onURLRequestDestroyed

/-- A socket that is there can be told at any time that its connection is gone. -/
theorem Settling.onError (hs : s.Settling setup n) (hlive : s.destroyed = false) :
    (s.onError setup).Settling setup 3 := by
  cases hs with
  | unstarted hclosed hstarted hidle =>
    exact settling_onError_idle hidle (by simp [hclosed.opened]) 3
  | checking a hclosed hstarted hctx hunder =>
    exact (settling_onError_underWay hctx hunder (by simp [hclosed.opened])).mono (by omega)
  | listening hconnected hidle hheaders hreceived hlistens =>
    exact settling_onError_idle hidle (Nat.le_of_eq hconnected.once) 3
  | sendingHeaders hconnected hextra hidle hheaders hreceived hheld hnone hpaused hleft =>
    exact settling_onError_idle hidle (Nat.le_of_eq hconnected.once) 3
  | filteringHeaders a k hconnected hextra hctx hunder hheaders hreceived hnone hpaused hleft =>
    exact (settling_onError_underWay hctx hunder (Nat.le_of_eq hconnected.once)).mono (by omega)
  | answering hconnected hextra hidle hheaders hreceived hnone hpaused hleft =>
    exact settling_onError_idle hidle (Nat.le_of_eq hconnected.once) 3
  | destroyed hgone honce hleft => simp [hlive] at hgone

variable (setup) in
/-- The factory runs, and the socket listens to its connection. -/
theorem settling_continueToStartRequest (hclosed : s.NotOpened) (hstarted : s.w.started = true)
    (hidle : s.handler.Idle) (n : Nat) :
    ∃ s', s.continueToStartRequest setup Net.OK = .ok s' ∧ s'.Settling setup n := by
  refine ⟨_, by rw [continueToStartRequest, if_neg (by decide),
    if_neg (by simp [hclosed.opened])], ?_⟩
  refine .listening ⟨hclosed.live, hstarted, by simp [hclosed.opened], rfl, rfl⟩ hidle
    hclosed.headersAwaited hclosed.receivedAwaited ?_
  simp [listens, hclosed.notPaused, hclosed.noSending, hclosed.noReceived]

theorem idle_createBraveRequestInfo (hidle : s.handler.Idle) :
    (s.createBraveRequestInfo setup env).handler.Idle :=
  (hidle.releaseCtx setup.kind s.w.ctx).newCtx _

theorem idle_passHeaders (hidle : s.handler.Idle) : (s.passHeaders setup env).handler.Idle :=
  (idle_createBraveRequestInfo hidle).replyOK _

variable (setup env) in
/-- The continuation of the check. -/
theorem settling_checkContinuation (hclosed : s.NotOpened) (hstarted : s.w.started = true)
    (hidle : s.handler.Idle) (rv : Int) (n : Nat) :
    ∃ s', s.runContinuation setup env (checkContinuation s.w.hasExtraHeaders) rv = .ok s' ∧
      s'.Settling setup n := by
  by_cases hrv : rv = Net.OK
  · subst hrv
    cases hextra : s.w.hasExtraHeaders with
    | true => exact settling_continueToStartRequest setup hclosed hstarted hidle n
    | false =>
      have hpassed : (s.passHeaders setup env).NotOpened :=
        ⟨⟨hclosed.opened, hclosed.headersAwaited, hclosed.receivedAwaited,
          hclosed.headerReceiverBound⟩, hclosed.live, hclosed.notPaused, rfl, hclosed.noReceived⟩
      obtain ⟨s', hrun, hs'⟩ := settling_continueToStartRequest setup hpassed hstarted
        (idle_passHeaders hidle) n
      refine ⟨s', ?_, hs'⟩
      rwa [checkContinuation, if_neg (by decide), runContinuation, onBeforeRequestComplete,
        if_neg (by decide), if_neg (by simp [hextra]), onBeforeSendHeadersCompleteFromProxy_eq,
        if_pos hextra]
  · refine ⟨s.onError setup, ?_, settling_onError_idle hidle (by simp [hclosed.opened]) n⟩
    cases hextra : s.w.hasExtraHeaders <;>
      simp [checkContinuation, runContinuation, continueToStartRequest, onBeforeRequestComplete,
        hrv]

theorem NotOpened.writeRedirectUrl (h : s.NotOpened) (handler : RequestHandler SocketContinuation)
    (newUrl : Option GURL) : ({ s with handler := handler }.writeRedirectUrl newUrl).NotOpened := by
  cases newUrl <;> exact ⟨⟨h.opened, h.headersAwaited, h.receivedAwaited, h.headerReceiverBound⟩,
    h.live, h.notPaused, h.noSending, h.noReceived⟩

@[simp] theorem writeRedirectUrl_started (newUrl : Option GURL) :
    (s.writeRedirectUrl newUrl).w.started = s.w.started := by
  cases newUrl <;> rfl

@[simp] theorem writeRedirectUrl_ctx (newUrl : Option GURL) :
    (s.writeRedirectUrl newUrl).w.ctx = s.w.ctx := by
  cases newUrl <;> rfl

theorem createBraveRequestInfo_cell : (s.createBraveRequestInfo setup env).handler.ctxs
    (s.releaseCtx setup).nextCtx = some { info := s.makeCTX setup env } :=
  RequestHandler.newCtx_ctxs_self _ _

/-- The page runs the factory, and the check is passed, or refused, or under way. -/
theorem settling_start (hclosed : s.NotOpened) (hidle : s.handler.Idle) :
    ∃ s', s.start setup env = .ok s' ∧ s'.Settling setup 3 := by
  let begun := s.beginCheck setup env
  have hbegun : begun.NotOpened :=
    ⟨⟨hclosed.opened, hclosed.headersAwaited, hclosed.receivedAwaited,
      hclosed.headerReceiverBound⟩, hclosed.live, hclosed.notPaused, hclosed.noSending,
      hclosed.noReceived⟩
  have hhandler : begun.handler.Idle := idle_createBraveRequestInfo hidle
  have hctx : begun.w.ctx = some (s.releaseCtx setup).nextCtx := rfl
  have hfilters : setup.filters.beforeUrlRequest + 1 ≤ 2 := Nat.le_refl 2
  obtain ⟨reply, hreply, hcase⟩ := hhandler.onBeforeURLRequest setup.lib
    (checkFilter setup (s.makeCTX setup env)) createBraveRequestInfo_cell rfl rfl
    (checkContinuation begun.w.hasExtraHeaders) hfilters
  let replied := { begun with handler := reply.handler }.writeRedirectUrl reply.newUrl
  have hreplied : replied.NotOpened := hbegun.writeRedirectUrl _ _
  have hstarted : replied.w.started = true := by simp [replied, begun, beginCheck]
  have hextra : replied.w.hasExtraHeaders = begun.w.hasExtraHeaders := by simp [replied]
  have hopened : replied.opened.length ≤ 1 := by simp [hreplied.opened]
  have hrun : s.start setup env =
      if reply.result = Net.ERR_BLOCKED_BY_CLIENT ∨ replied.w.redirectUrl.spec = kEmptyDataURI then
        .ok (replied.onError setup)
      else if reply.result = Net.ERR_IO_PENDING then .ok replied
      else replied.runContinuation setup env (checkContinuation replied.w.hasExtraHeaders)
        Net.OK := by
    unfold start
    dsimp only
    rw [show s.beginCheck setup env = begun from rfl, hctx, Option.getD_some, hreply]
  rw [hrun]
  rcases hcase with rfl | ⟨hresult, hunder⟩
  · have hidle' : replied.handler.Idle := by simpa [replied] using hhandler.replyOK _
    split
    · exact ⟨_, rfl, settling_onError_idle hidle' hopened 3⟩
    · rw [if_neg (by rw [RequestHandler.replyOK_result]; decide)]
      exact settling_checkContinuation setup env hreplied hstarted hidle' Net.OK 3
  · have hunder' : replied.handler.UnderWay setup.filters (s.releaseCtx setup).nextCtx
        (checkContinuation replied.w.hasExtraHeaders) 2 := by
      rw [hextra]
      simpa [replied] using hunder
    have hctx' : replied.w.ctx = some (s.releaseCtx setup).nextCtx := by simpa [replied] using hctx
    rw [if_pos hresult]
    split
    · exact ⟨_, rfl, (settling_onError_underWay hctx' hunder' hopened).mono (by omega)⟩
    · exact ⟨_, rfl, (Settling.checking _ hreplied hstarted hctx' hunder').mono (by omega)⟩

theorem onHeadersReceivedComplete_extra (hextra : s.w.hasExtraHeaders = true) :
    s.onHeadersReceivedComplete setup Net.OK =
      { s with w := { s.w with receivedAwaited := s.w.receivedAwaited + 1 } } := by
  rw [onHeadersReceivedComplete, if_neg (by decide), if_pos hextra]

/-- The filters of received headers are run with a new context. -/
theorem settling_continueToHeadersReceived (hconnected : s.Connected)
    (hextra : s.w.hasExtraHeaders = true) (hidle : s.handler.Idle)
    (hheaders : s.w.headersAwaited = 0) (hreceived : s.w.receivedAwaited = 0)
    (hnone : s.w.beforeSendHeadersCallback = false) :
    ∃ s', s.continueToHeadersReceived setup env = .ok s' ∧ s'.Settling setup 3 := by
  let created := s.createBraveRequestInfo setup env
  have hhandler : created.handler.Idle := idle_createBraveRequestInfo hidle
  have hctx : created.w.ctx = some (s.releaseCtx setup).nextCtx := rfl
  have hfilters : setup.filters.headersReceived + 1 ≤ 2 := by
    simp only [SocketSetup.filters, setupCallbacks]
    split <;> omega
  obtain ⟨reply, hreply, hcase⟩ := hhandler.onHeadersReceived setup.lib
    (fun _ => ⟨env.headersFilter, none⟩) createBraveRequestInfo_cell rfl rfl
    .headersReceivedComplete hfilters
  let replied : SocketProxy := { created with handler := reply.handler }
  have hrun : s.continueToHeadersReceived setup env =
      if reply.result = Net.ERR_BLOCKED_BY_CLIENT ∨ replied.w.redirectUrl.spec = kEmptyDataURI then
        .ok (replied.onError setup)
      else if reply.result = Net.ERR_IO_PENDING then
        .ok { replied with w := { replied.w with receiversPaused := true } }
      else
        .ok ({ replied with w := { replied.w with receiversPaused := true }
          }.onHeadersReceivedComplete setup Net.OK) := by
    unfold continueToHeadersReceived
    dsimp only
    rw [show s.createBraveRequestInfo setup env = created from rfl, hctx, Option.getD_some, hreply]
  let paused : SocketProxy := { replied with w := { replied.w with receiversPaused := true } }
  have hpaused : paused.Connected :=
    ⟨hconnected.live, hconnected.started, hconnected.once, hconnected.bound, hconnected.header⟩
  rw [hrun]
  rcases hcase with rfl | ⟨hresult, hunder⟩
  · have hidle' : replied.handler.Idle := hhandler.replyOK _
    split
    · exact ⟨_, rfl, settling_onError_idle hidle' (Nat.le_of_eq hconnected.once) 3⟩
    · rw [if_neg (by rw [RequestHandler.replyOK_result]; decide),
        onHeadersReceivedComplete_extra (s := paused) hextra]
      exact ⟨_, rfl, .answering ⟨hconnected.live, hconnected.started, hconnected.once,
        hconnected.bound, hconnected.header⟩ hextra hidle' hheaders (congrArg (· + 1) hreceived)
        hnone rfl (by omega)⟩
  · rw [if_pos hresult]
    split
    · have herror : (replied.onError setup).Settling setup 1 :=
        settling_onError_underWay hctx hunder (Nat.le_of_eq hconnected.once)
      exact ⟨_, rfl, herror.mono (by omega)⟩
    · exact ⟨_, rfl, .filteringHeaders _ 2 hpaused hextra hctx hunder hheaders hreceived hnone rfl
        (by omega)⟩

theorem Connected.writeRedirectUrl (h : s.Connected) (handler : RequestHandler SocketContinuation)
    (newUrl : Option GURL) : ({ s with handler := handler }.writeRedirectUrl newUrl).Connected := by
  cases newUrl <;> exact ⟨h.live, h.started, h.once, h.bound, h.header⟩

/-- A filter resumes. -/
theorem Settling.resume (hs : s.Settling setup n) {a : Nat} {cell : Cell}
    (hcell : s.handler.ctxs a = some cell) (hwaiting : cell.waiting = true)
    (result : Option ShouldBlockRequestResult) :
    ∃ s' m, s.resume setup env a result = .ok s' ∧ m < n ∧ s'.Settling setup m := by
  let decision := result.map fun r => (cell.info.record r).decision
  have hrun : ∀ h newUrl, s.handler.resume setup.lib setup.filters
      (fun _ => ⟨env.headersFilter, none⟩) a decision = .ok (h, newUrl) →
      s.resume setup env a result = .ok ({ s with handler := h }.writeRedirectUrl newUrl) := by
    intro h newUrl hresume
    simp only [SocketProxy.resume, hcell, Option.bind_some]
    rw [hresume]
  cases hs with
  | unstarted hclosed hstarted hidle => simp [hidle.waiting a cell hcell] at hwaiting
  | checking b hclosed hstarted hctx hunder =>
    obtain ⟨h, newUrl, m, hresume, hlt, hunder'⟩ := hunder.resume hcell hwaiting decision
    refine ⟨_, m, hrun h newUrl hresume, hlt, .checking b (hclosed.writeRedirectUrl h newUrl) ?_
      ?_ ?_⟩
    · simpa using hstarted
    · simpa using hctx
    · simpa using hunder'
  | listening hconnected hidle hheaders hreceived hlistens =>
    simp [hidle.waiting a cell hcell] at hwaiting
  | sendingHeaders hconnected hextra hidle hheaders hreceived hheld hnone hpaused hleft =>
    simp [hidle.waiting a cell hcell] at hwaiting
  | filteringHeaders b k hconnected hextra hctx hunder hheaders hreceived hnone hpaused hleft =>
    obtain ⟨h, newUrl, m, hresume, hlt, hunder'⟩ := hunder.resume hcell hwaiting decision
    refine ⟨_, k, hrun h newUrl hresume, hleft, .filteringHeaders b m
      (hconnected.writeRedirectUrl h newUrl) ?_ ?_ ?_ ?_ ?_ ?_ ?_ hlt⟩
    · simpa using hextra
    · simpa using hctx
    · simpa using hunder'
    all_goals cases newUrl <;> assumption
  | answering hconnected hextra hidle hheaders hreceived hnone hpaused hleft =>
    simp [hidle.waiting a cell hcell] at hwaiting
  | destroyed hgone honce hleft =>
    obtain ⟨h, m, hresume, hlt, hleft'⟩ := hleft.resume hcell hwaiting decision
    exact ⟨_, m, hrun h none hresume, hlt, .destroyed hgone honce hleft'⟩

/-- A posted completion runs. -/
theorem Settling.runPosted (hs : s.Settling setup n) (hposted : s.handler.posted ≠ []) :
    ∃ s' m, s.runPosted setup env = .ok s' ∧ m < n ∧ s'.Settling setup m := by
  cases hs with
  | unstarted hclosed hstarted hidle => exact absurd hidle.posted hposted
  | checking a hclosed hstarted hctx hunder =>
    cases hunder with
    | filtering cell hcell halive hwaits hentry hindex hothers hnone hleft =>
      exact absurd hnone hposted
    | posted rv hwaiting hone hleft =>
      let popped : SocketProxy := { s with handler := { s.handler with posted := [] } }
      have hpopped : popped.NotOpened :=
        ⟨⟨hclosed.opened, hclosed.headersAwaited, hclosed.receivedAwaited,
          hclosed.headerReceiverBound⟩, hclosed.live, hclosed.notPaused, hclosed.noSending,
          hclosed.noReceived⟩
      obtain ⟨s', hrun, hs'⟩ := settling_checkContinuation setup env hpopped hstarted
        ⟨hwaiting, rfl⟩ rv 0
      refine ⟨s', 0, ?_, hleft, hs'⟩
      unfold SocketProxy.runPosted
      rw [hone]
      dsimp only
      rw [if_neg (by simp [hclosed.live])]
      exact hrun
  | listening hconnected hidle hheaders hreceived hlistens => exact absurd hidle.posted hposted
  | sendingHeaders hconnected hextra hidle hheaders hreceived hheld hnone hpaused hleft =>
    exact absurd hidle.posted hposted
  | filteringHeaders a k hconnected hextra hctx hunder hheaders hreceived hnone hpaused hleft =>
    cases hunder with
    | filtering cell hcell halive hwaits hentry hindex hothers hnone hleft =>
      exact absurd hnone hposted
    | posted rv hwaiting hone hpos =>
      let popped : SocketProxy := { s with handler := { s.handler with posted := [] } }
      have hidle : popped.handler.Idle := ⟨hwaiting, rfl⟩
      have hrun : s.runPosted setup env = .ok (popped.onHeadersReceivedComplete setup rv) := by
        unfold SocketProxy.runPosted
        rw [hone]
        simp [hconnected.live, runContinuation, popped]
      refine ⟨_, k, hrun, hleft, ?_⟩
      by_cases hrv : rv = Net.OK
      · subst hrv
        rw [onHeadersReceivedComplete_extra (s := popped) hextra]
        exact .answering ⟨hconnected.live, hconnected.started, hconnected.once, hconnected.bound,
          hconnected.header⟩ hextra hidle hheaders (congrArg (· + 1) hreceived) hnone hpaused hpos
      · rw [onHeadersReceivedComplete, if_pos hrv]
        exact settling_onError_idle hidle (Nat.le_of_eq hconnected.once) k
  | answering hconnected hextra hidle hheaders hreceived hnone hpaused hleft =>
    exact absurd hidle.posted hposted
  | destroyed hgone honce hleft =>
    cases hleft with
    | idle hidle => exact absurd hidle.posted hposted
    | filter b hothers hskipped hnone hleft => exact absurd hnone hposted
    | task hwaiting completion hone hleft =>
      refine ⟨{ s with handler := { s.handler with posted := [] } }, 0, ?_, hleft,
        .destroyed hgone honce (.idle ⟨hwaiting, rfl⟩)⟩
      unfold SocketProxy.runPosted
      rw [hone]
      simp [hgone]

/-- The header client of the page replies about the headers to send. -/
theorem Settling.headersFromProxy (hs : s.Settling setup n) (hlive : s.destroyed = false)
    (hawaited : 0 < s.w.headersAwaited) (errorCode : Int) :
    ∃ s', { s with w := { s.w with headersAwaited := s.w.headersAwaited - 1 }
      }.onBeforeSendHeadersCompleteFromProxy setup env errorCode = .ok s' ∧ 0 < n ∧
        s'.Settling setup 0 := by
  cases hs with
  | unstarted hclosed hstarted hidle => simp [hclosed.headersAwaited] at hawaited
  | checking a hclosed hstarted hctx hunder => simp [hclosed.headersAwaited] at hawaited
  | listening hconnected hidle hheaders hreceived hlistens => omega
  | sendingHeaders hconnected hextra hidle hheaders hreceived hheld hnone hpaused hleft =>
    let heard : SocketProxy :=
      { s with w := { s.w with headersAwaited := s.w.headersAwaited - 1 } }
    by_cases hcode : errorCode = Net.OK
    · subst hcode
      refine ⟨heard.passHeaders setup env, ?_, hleft, ?_⟩
      · rw [onBeforeSendHeadersCompleteFromProxy_eq, if_neg (by simp [hextra])]
      · refine .listening ⟨hconnected.live, hconnected.started, hconnected.once, hconnected.bound,
          hconnected.header⟩ (idle_passHeaders (s := heard) hidle) ?_ hreceived ?_
        · exact Nat.sub_eq_zero_of_le (Nat.le_of_eq hheaders)
        · simp [listens, passHeaders, createBraveRequestInfo, heard, hconnected.bound, hpaused,
            hnone]
    · refine ⟨heard.onError setup, ?_, hleft, ?_⟩
      · rw [onBeforeSendHeadersCompleteFromProxy, if_pos hcode]
      · exact settling_onError_idle (s := heard) hidle (Nat.le_of_eq hconnected.once) 0
  | filteringHeaders a k hconnected hextra hctx hunder hheaders hreceived hnone hpaused hleft =>
    omega
  | answering hconnected hextra hidle hheaders hreceived hnone hpaused hleft => omega
  | destroyed hgone honce hleft => simp [hlive] at hgone

/-- The header client of the page replies about the received headers. -/
theorem Settling.receivedFromProxy (hs : s.Settling setup n) (hlive : s.destroyed = false)
    (hawaited : 0 < s.w.receivedAwaited) : 0 < n ∧
      ({ s with w := { s.w with receivedAwaited := s.w.receivedAwaited - 1 }
        }.onHeadersReceivedCompleteFromProxy).Settling setup 0 := by
  cases hs with
  | unstarted hclosed hstarted hidle => simp [hclosed.receivedAwaited] at hawaited
  | checking a hclosed hstarted hctx hunder => simp [hclosed.receivedAwaited] at hawaited
  | listening hconnected hidle hheaders hreceived hlistens => omega
  | sendingHeaders hconnected hextra hidle hheaders hreceived hheld hnone hpaused hleft => omega
  | filteringHeaders a k hconnected hextra hctx hunder hheaders hreceived hnone hpaused hleft =>
    omega
  | answering hconnected hextra hidle hheaders hreceived hnone hpaused hleft =>
    refine ⟨hleft, .listening ⟨hconnected.live, hconnected.started, hconnected.once,
      hconnected.bound, hconnected.header⟩ hidle hheaders ?_ ?_⟩
    · exact Nat.sub_eq_zero_of_le (Nat.le_of_eq hreceived)
    · simp [listens, onHeadersReceivedCompleteFromProxy, hconnected.bound, hnone]
  | destroyed hgone honce hleft => simp [hlive] at hgone

/-- What the browser owes a socket does not fail, and there is less of it left. -/
theorem Settling.step_browser (hs : s.Settling setup n) {e : SocketEvent} (henabled : s.enabled e)
    (hbrowser : e.ofBrowser = true) :
    ∃ s' m, SocketProxy.step setup s e = .ok s' ∧ m < n ∧ s'.Settling setup m := by
  cases e with
  | resume a result env =>
    obtain ⟨cell, hcell, hwaiting⟩ := henabled
    exact hs.resume hcell hwaiting result
  | runPosted env => exact hs.runPosted henabled
  | headersFromProxy errorCode env =>
    obtain ⟨s', hrun, hpos, hs'⟩ := hs.headersFromProxy henabled.1 henabled.2 errorCode
    exact ⟨s', 0, hrun, hpos, hs'⟩
  | receivedFromProxy =>
    obtain ⟨hpos, hs'⟩ := hs.receivedFromProxy henabled.1 henabled.2
    exact ⟨_, 0, rfl, hpos, hs'⟩
  | webSocketFactoryRun trustedHeaderClient env => simp [SocketEvent.ofBrowser] at hbrowser
  | beforeSendHeaders env => simp [SocketEvent.ofBrowser] at hbrowser
  | headersReceived env => simp [SocketEvent.ofBrowser] at hbrowser
  | connectionEstablished => simp [SocketEvent.ofBrowser] at hbrowser
  | connectionError => simp [SocketEvent.ofBrowser] at hbrowser

/-- The connection calls the header client only where the socket listens. -/
theorem Settling.listening_of_heard (hs : s.Settling setup n) (hlive : s.destroyed = false)
    (hbound : s.w.headerReceiverBound = true) (hresumed : s.w.receiversPaused = false)
    (hfree : s.w.beforeSendHeadersCallback = false) :
    s.Connected ∧ s.w.hasExtraHeaders = true ∧ s.handler.Idle ∧ s.w.headersAwaited = 0 ∧
      s.w.receivedAwaited = 0 := by
  cases hs with
  | unstarted hclosed hstarted hidle => simp [hclosed.headerReceiverBound] at hbound
  | checking a hclosed hstarted hctx hunder => simp [hclosed.headerReceiverBound] at hbound
  | listening hconnected hidle hheaders hreceived hlistens =>
    exact ⟨hconnected, hconnected.header.symm.trans hbound, hidle, hheaders, hreceived⟩
  | sendingHeaders hconnected hextra hidle hheaders hreceived hheld hnone hpaused hleft =>
    simp [hheld] at hfree
  | filteringHeaders a k hconnected hextra hctx hunder hheaders hreceived hnone hpaused hleft =>
    simp [hpaused] at hresumed
  | answering hconnected hextra hidle hheaders hreceived hnone hpaused hleft =>
    simp [hpaused] at hresumed
  | destroyed hgone honce hleft => simp [hlive] at hgone

/-- What comes from the page and the connection does not fail, and three events of the browser are
left after it at most. -/
theorem Settling.step_outside (hs : s.Settling setup n) {e : SocketEvent} (henabled : s.enabled e)
    (horder : s.inOrder e) (houtside : e.ofBrowser = false) :
    ∃ s', SocketProxy.step setup s e = .ok s' ∧ s'.Settling setup 3 := by
  cases e with
  | webSocketFactoryRun trustedHeaderClient env =>
    obtain ⟨hlive, hunstarted⟩ := henabled
    let asked : SocketProxy := { s with w := { s.w with hasExtraHeaders := trustedHeaderClient } }
    cases hs with
    | unstarted hclosed hstarted hidle =>
      have hasked : asked.NotOpened :=
        ⟨⟨hclosed.opened, hclosed.headersAwaited, hclosed.receivedAwaited,
          hclosed.headerReceiverBound⟩, hclosed.live, hclosed.notPaused, hclosed.noSending,
          hclosed.noReceived⟩
      exact settling_start hasked hidle
    | checking a hclosed hstarted hctx hunder => simp [hstarted] at hunstarted
    | listening hconnected hidle hheaders hreceived hlistens =>
      simp [hconnected.started] at hunstarted
    | sendingHeaders hconnected hextra hidle hheaders hreceived hheld hnone hpaused hleft =>
      simp [hconnected.started] at hunstarted
    | filteringHeaders a k hconnected hextra hctx hunder hheaders hreceived hnone hpaused hleft =>
      simp [hconnected.started] at hunstarted
    | answering hconnected hextra hidle hheaders hreceived hnone hpaused hleft =>
      simp [hconnected.started] at hunstarted
    | destroyed hgone honce hleft => simp [hlive] at hgone
  | beforeSendHeaders env =>
    obtain ⟨hlive, hbound, hresumed⟩ := henabled
    obtain ⟨hfree, hnone⟩ := horder
    obtain ⟨hconnected, hextra, hidle, hheaders, hreceived⟩ :=
      hs.listening_of_heard hlive hbound hresumed hfree
    refine ⟨_, by rw [SocketProxy.step, onBeforeSendHeaders, onBeforeRequestComplete,
      if_neg (by decide), if_pos hextra], ?_⟩
    exact .sendingHeaders ⟨hconnected.live, hconnected.started, hconnected.once, hconnected.bound,
      hconnected.header⟩ hextra hidle (congrArg (· + 1) hheaders) hreceived rfl hnone hresumed
      (by omega)
  | headersReceived env =>
    obtain ⟨hlive, hbound, hresumed⟩ := henabled
    obtain ⟨hfree, hnone⟩ := horder
    obtain ⟨hconnected, hextra, hidle, hheaders, hreceived⟩ :=
      hs.listening_of_heard hlive hbound hresumed hfree
    let heard : SocketProxy := { s with w := { s.w with headersReceivedCallback := true } }
    have hheard : heard.Connected :=
      ⟨hconnected.live, hconnected.started, hconnected.once, hconnected.bound, hconnected.header⟩
    exact settling_continueToHeadersReceived hheard hextra hidle hheaders hreceived hfree
  | connectionEstablished => exact ⟨_, rfl, hs.onError henabled.1⟩
  | connectionError => exact ⟨_, rfl, hs.onError henabled.1⟩
  | resume a result env => simp [SocketEvent.ofBrowser] at houtside
  | runPosted env => simp [SocketEvent.ofBrowser] at houtside
  | headersFromProxy errorCode env => simp [SocketEvent.ofBrowser] at houtside
  | receivedFromProxy => simp [SocketEvent.ofBrowser] at houtside

/-- Where the browser owes nothing to a socket that was started, it is gone or it listens. -/
theorem Settling.settled (hs : s.Settling setup n)
    (hnone : ∀ e, s.enabled e → e.ofBrowser = false) (hstarted : s.w.started = true) :
    s.destroyed = true ∨ s.listens = true := by
  have hwaits : ∀ a cell, s.handler.ctxs a = some cell → cell.waiting = false := by
    intro a cell hcell
    by_contra hwaiting
    have := hnone (.resume a none {}) ⟨cell, hcell, by simpa using hwaiting⟩
    simp [SocketEvent.ofBrowser] at this
  have hposted : s.handler.posted = [] := by
    by_contra hposted
    have := hnone (.runPosted {}) hposted
    simp [SocketEvent.ofBrowser] at this
  have hnotUnderWay : ∀ a callback m, ¬s.handler.UnderWay setup.filters a callback m := by
    intro a callback m hunder
    cases hunder with
    | filtering cell hcell halive hwaiting hentry hindex hothers hnone hleft =>
      simp [hwaits a cell hcell] at hwaiting
    | posted rv hwaiting hone hleft => simp [hposted] at hone
  cases hs with
  | unstarted hclosed hnotStarted hidle => simp [hstarted] at hnotStarted
  | checking a hclosed hstarted hctx hunder => exact absurd hunder (hnotUnderWay _ _ _)
  | listening hconnected hidle hheaders hreceived hlistens => exact .inr hlistens
  | sendingHeaders hconnected hextra hidle hheaders hreceived hheld hnone' hpaused hleft =>
    have := hnone (.headersFromProxy Net.OK {}) ⟨hconnected.live, by omega⟩
    simp [SocketEvent.ofBrowser] at this
  | filteringHeaders a k hconnected hextra hctx hunder hheaders hreceived hnone' hpaused hleft =>
    exact absurd hunder (hnotUnderWay _ _ _)
  | answering hconnected hextra hidle hheaders hreceived hnone' hpaused hleft =>
    have := hnone .receivedFromProxy ⟨hconnected.live, by omega⟩
    simp [SocketEvent.ofBrowser] at this
  | destroyed hgone honce hleft => exact .inl hgone

theorem Settling.opened_le (hs : s.Settling setup n) : s.opened.length ≤ 1 := by
  cases hs with
  | unstarted hclosed hstarted hidle => simp [hclosed.opened]
  | checking a hclosed hstarted hctx hunder => simp [hclosed.opened]
  | listening hconnected hidle hheaders hreceived hlistens => exact Nat.le_of_eq hconnected.once
  | sendingHeaders hconnected hextra hidle hheaders hreceived hheld hnone hpaused hleft =>
    exact Nat.le_of_eq hconnected.once
  | filteringHeaders a k hconnected hextra hctx hunder hheaders hreceived hnone hpaused hleft =>
    exact Nat.le_of_eq hconnected.once
  | answering hconnected hextra hidle hheaders hreceived hnone hpaused hleft =>
    exact Nat.le_of_eq hconnected.once
  | destroyed hgone honce hleft => exact honce

end Moves

section Runs

variable {setup : SocketSetup} {s : SocketProxy}

/-- What the network and the page do in order, and all that the browser owes, does not fail, and
three events of the browser are left after it at most. -/
theorem Settling.step (hs : s.Settling setup 3) {e : SocketEvent} (henabled : s.enabled e)
    (horder : s.inOrder e) :
    ∃ s', SocketProxy.step setup s e = .ok s' ∧ s'.Settling setup 3 := by
  by_cases hbrowser : e.ofBrowser = true
  · obtain ⟨s', m, hstep, hlt, hs'⟩ := hs.step_browser henabled hbrowser
    exact ⟨s', hstep, hs'.mono (by omega)⟩
  · exact hs.step_outside henabled horder (by simpa using hbrowser)

theorem settling_of_run {request : ResourceRequest} {es : List SocketEvent}
    (run : Run ((machine setup).restrict inOrder) (init request) es s) : s.Settling setup 3 := by
  refine run.preserves (P := fun s => s.Settling setup 3) ?_ (settling_init setup request 3)
  intro s e s' henabled hstep hs
  obtain ⟨t, ht, hsettling⟩ := hs.step henabled.1 henabled.2
  obtain rfl := Except.ok.inj (ht.symm.trans hstep)
  exact hsettling

/-- Where the network keeps to its order, no event of a WebSocket fails and its factory runs once at
most.  From any state the filters, tasks and replies that the browser owes it come to an end after
three at most, and where none is left, a socket that was started is gone, or it hears its connection
and owes it no reply. -/
theorem socket_settles (setup : SocketSetup) (request : ResourceRequest) {es : List SocketEvent}
    (run : Run ((machine setup).restrict inOrder) (init request) es s) :
    (∀ e, s.enabled e → s.inOrder e → ∃ s', SocketProxy.step setup s e = .ok s') ∧
    s.opened.length ≤ 1 ∧
    ∀ fs t, Run ((machine setup).restrict fun _ e => e.ofBrowser = true) s fs t →
      fs.length ≤ 3 ∧ ((∀ e, t.enabled e → e.ofBrowser = false) → t.w.started = true →
        t.destroyed = true ∨ t.listens = true) := by
  have hs := settling_of_run run
  refine ⟨fun e henabled horder => ?_, hs.opened_le, fun fs t rest => ?_⟩
  · obtain ⟨s', hstep, -⟩ := hs.step henabled horder
    exact ⟨s', hstep⟩
  · obtain ⟨k, hle, ht⟩ := rest.bounded (P := fun n s => s.Settling setup n) (n := 3)
      (fun n s e s' henabled hstep hsettling => by
        obtain ⟨u, m, hu, hlt, hm⟩ := hsettling.step_browser henabled.1 henabled.2
        obtain rfl := Except.ok.inj (hu.symm.trans hstep)
        exact ⟨m, hlt, hm⟩) hs
    exact ⟨by omega, fun hnone hstarted => ht.settled hnone hstarted⟩

instance (s : SocketProxy) : ∀ e, Decidable (s.inOrder e)
  | .beforeSendHeaders _ | .headersReceived _ => inferInstanceAs (Decidable
    (s.w.beforeSendHeadersCallback = false ∧ s.w.headersReceivedCallback = false))
  | .webSocketFactoryRun _ _ | .resume _ _ _ | .runPosted _ | .headersFromProxy _ _
  | .receivedFromProxy | .connectionEstablished | .connectionError =>
    inferInstanceAs (Decidable True)

/-- A page with a header client opens a WebSocket, whose headers are received. -/
def openWithHeaders : List SocketEvent :=
  [.webSocketFactoryRun true {}, .resume 0 (some {}) {}, .runPosted {}, .beforeSendHeaders {},
    .headersFromProxy Net.OK {}, .headersReceived {}]

theorem socket_settles_openWithHeaders :
    ∃ s t, Run ((machine chatSetup).restrict inOrder) (init chatRequest) openWithHeaders s ∧
      Run ((machine chatSetup).restrict fun _ e => e.ofBrowser = true) s
        [.resume 2 none {}, .runPosted {}, .receivedFromProxy] t ∧
      s.listens = false ∧ t.listens = true ∧ s.opened.length ≤ 1 ∧
      [SocketEvent.resume 2 none {}, .runPosted {}, .receivedFromProxy].length ≤ 3 := by
  obtain ⟨s, run, hs⟩ := Machine.exists_run ((machine chatSetup).restrict inOrder)
    (init chatRequest) openWithHeaders (fun s => !s.listens &&
      ((((machine chatSetup).restrict fun _ e => e.ofBrowser = true).replay s
        [.resume 2 none {}, .runPosted {}, .receivedFromProxy]).any listens)) (by decide)
  simp only [Bool.and_eq_true, Bool.not_eq_true'] at hs
  obtain ⟨t, rest, ht⟩ := Machine.exists_run
    ((machine chatSetup).restrict fun _ e => e.ofBrowser = true) s _ listens hs.2
  have hsettles := socket_settles chatSetup chatRequest run
  exact ⟨s, t, run, rest, hs.1, ht, hsettles.2.1, (hsettles.2.2 _ t rest).1⟩

end Runs

end SocketProxy

end ChromiumAdblock
