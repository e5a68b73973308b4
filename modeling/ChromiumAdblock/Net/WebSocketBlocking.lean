import ChromiumAdblock.Net.ProxyingWebSocket

/-! When a WebSocket is opened.  A blocked check ends with an error unless the blocking rule has a
redirect resource; then it ends with `OK`, for the proxy to look at the verdict, which the proxy of
WebSockets never does.  Without such a reply, only a check that did not block opens the connection.
-/

namespace ChromiumAdblock

open EventMachine

section Verdict

variable {lib : UrlLibrary} {filters : FilterLists} {answers : Nat → FilterAnswer}

/-- Filters that decide nothing when they are run leave the decision of a context. -/
theorem runFilters_decision (h : ∀ i, (answers i).decision = none) (remaining : Nat)
    (info : BraveRequestInfo) : (runFilters answers remaining info).1.decision = info.decision := by
  have hasked : ∀ info, (askFilter answers info).1.decision = info.decision := by
    intro info
    simp only [askFilter, h]
    rfl
  induction remaining generalizing info with
  | zero => rfl
  | succ remaining ih =>
    rw [runFilters]
    split
    · exact hasked info
    · split
      · exact hasked info
      · exact (ih _).trans (hasked info)

/-- A check that completes with `OK` did not block, or has a redirect resource. -/
theorem finishFilters_ok {info : BraveRequestInfo} {rv : Int} {info' : BraveRequestInfo}
    {newUrl : Option GURL} (hevent : info.eventType = .kOnBeforeRequest)
    (h : finishFilters lib info rv = .complete info' Net.OK newUrl) :
    info' = info ∧ (info.blockedBy = .kNotBlocked ∨ info.shouldMockRequest = true) := by
  rw [finishFilters] at h
  by_cases hrv : rv ≠ Net.OK
  · rw [if_pos hrv] at h
    cases h
    contradiction
  · rw [if_neg hrv, if_pos hevent] at h
    by_cases hrefused : (info.blockedBy = .kAdBlocked ∨ info.blockedBy = .kOtherBlocked) ∧
        info.shouldMockRequest = false
    · rw [if_pos hrefused] at h
      cases h
    · rw [if_neg hrefused] at h
      cases h
      refine ⟨rfl, ?_⟩
      cases hblocked : info.blockedBy with
      | kNotBlocked => exact .inl rfl
      | kAdBlocked | kOtherBlocked => simpa [hblocked] using hrefused

theorem finishFilters_ne_pending (rv : Int) (info' : BraveRequestInfo) {info : BraveRequestInfo} :
    finishFilters lib info rv ≠ .pending info' := by
  unfold finishFilters
  split
  · exact Progress.noConfusion
  · split
    · dsimp only
      split <;> exact Progress.noConfusion
    · exact Progress.noConfusion

/-- A context that would complete the check with `OK` only where it did not block. -/
structure Honest (info : BraveRequestInfo) : Prop where
  noError : info.pendingError = none
  noMock : info.shouldMockRequest = false

theorem Honest.of_decision {info info' : BraveRequestInfo} (h : Honest info)
    (hdecision : info'.decision = info.decision) : Honest info' := by
  obtain ⟨hblocked, hmock, -, -, herror⟩ := Decision.mk.inj hdecision
  refine ⟨herror.trans h.noError, ?_⟩
  rw [BraveRequestInfo.shouldMockRequest, hblocked, hmock]
  exact h.noMock

/-- The filters of the check leave an honest context honest, and it passes only if it is not
blocked. -/
theorem advance_honest {info : BraveRequestInfo} {progress : Progress}
    (hanswers : ∀ i, (answers i).decision = none) (hinfo : Honest info)
    (hevent : info.eventType = .kOnBeforeRequest)
    (hadvance : advance lib filters answers info = .ok progress) :
    match progress with
    | .pending info' => Honest info'
    | .complete info' rv _ => rv = Net.OK → info'.blockedBy = .kNotBlocked := by
  have hsame := RequestHandler.advance_same hadvance
  simp only [advance, hinfo.noError] at hadvance
  split at hadvance
  · contradiction
  · have hrun := runFilters_decision hanswers
      (filters.count info.eventType - info.nextUrlRequestIndex) info
    split at hadvance
    · obtain rfl := Except.ok.inj hadvance
      exact hinfo.of_decision hrun
    · have hprogress := Except.ok.inj hadvance
      cases progress with
      | pending info' => exact absurd hprogress (finishFilters_ne_pending _ _)
      | complete info' rv newUrl =>
        rintro rfl
        have hrunEvent := (runFilters_spec answers
          (filters.count info.eventType - info.nextUrlRequestIndex) info).1.eventType
        obtain ⟨rfl, hverdict⟩ := finishFilters_ok (hrunEvent.trans hevent) hprogress
        exact hverdict.resolve_right (by simp [(hinfo.of_decision hrun).noMock])

end Verdict

namespace RequestHandler

/-- Of the continuations that were handed to the handler, only that of received headers is left. -/
structure OnlyReceived (h : RequestHandler SocketContinuation) : Prop where
  entries : ∀ id continuation, h.callbacks id = some (some continuation) →
    continuation = .headersReceivedComplete
  posted : ∀ completion ∈ h.posted, completion.callback = .headersReceivedComplete

namespace OnlyReceived

variable {h h' : RequestHandler SocketContinuation}

theorem of_same (hh : h.OnlyReceived) (hcallbacks : h'.callbacks = h.callbacks)
    (hposted : h'.posted = h.posted) : h'.OnlyReceived :=
  ⟨by rw [hcallbacks]; exact hh.entries, by rw [hposted]; exact hh.posted⟩

theorem setEntry (hh : h.OnlyReceived) (id : Nat) {entry : Option (Option SocketContinuation)}
    (hentry : ∀ continuation, entry = some (some continuation) →
      continuation = .headersReceivedComplete) : (h.setEntry id entry).OnlyReceived where
  entries other continuation hother := by
    by_cases hid : other = id
    · subst hid
      exact hentry continuation (by simpa using hother)
    · rw [setEntry_callbacks_of_ne _ _ hid] at hother
      exact hh.entries other continuation hother
  posted := hh.posted

theorem onURLRequestDestroyed (hh : h.OnlyReceived) (a : Nat) :
    (h.onURLRequestDestroyed a).OnlyReceived := by
  unfold RequestHandler.onURLRequestDestroyed
  split
  · exact hh.setEntry _ (by simp)
  · exact hh

theorem releaseCtx (hh : h.OnlyReceived) (kind : PointerKind) (ctx : Option Nat) :
    (h.releaseCtx kind ctx).OnlyReceived := by
  unfold RequestHandler.releaseCtx
  split
  · rename_i a
    exact (hh.onURLRequestDestroyed a).of_same (killCtx_callbacks _ _) (killCtx_posted _ _)
  · exact hh

theorem setCell (hh : h.OnlyReceived) (a : Nat) (cell : Cell) : (h.setCell a cell).OnlyReceived :=
  hh.of_same rfl rfl

theorem completed (hh : h.OnlyReceived) (a : Nat) (cell : Cell) (info : BraveRequestInfo)
    (rv : Int) :
    (h.completed a cell info rv .headersReceivedComplete).OnlyReceived where
  entries id continuation hentry :=
    ((hh.setCell a { cell with info := info, result := some rv }).setEntry info.requestIdentifier
      (by simp)).entries id continuation hentry
  posted completion hmem := by
    rcases List.mem_append.mp hmem with hold | hnew
    · exact hh.posted completion hold
    · rw [List.mem_singleton.mp hnew]

theorem replyOK (hh : h.OnlyReceived) (a : Nat) : (h.replyOK a).handler.OnlyReceived := by
  unfold RequestHandler.replyOK
  split
  · exact hh.setCell _ _
  · exact hh

theorem resume (hh : h.OnlyReceived) {lib : UrlLibrary} {filters : FilterLists}
    {answers : Nat → FilterAnswer} {a : Nat} {decision : Option Decision} {newUrl : Option GURL}
    (hrun : h.resume lib filters answers a decision = .ok (h', newUrl)) : h'.OnlyReceived := by
  unfold RequestHandler.resume at hrun
  split at hrun
  · obtain ⟨rfl, -⟩ := Prod.mk.inj (Except.ok.inj hrun)
    exact hh
  · dsimp only at hrun
    rcases runNextCallback_cases hrun with ⟨rfl, -, -⟩ | ⟨cell, progress, -, -, -, -, hcase⟩
    · exact hh.setCell _ _
    · cases progress with
      | pending info =>
        obtain ⟨rfl, -⟩ := hcase
        exact hh.of_same rfl rfl
      | complete info rv url =>
        obtain ⟨-, continuation, hentry, rfl⟩ := hcase
        obtain rfl := hh.entries _ continuation hentry
        exact (hh.setCell _ _).completed a cell info rv

/-- The phase of received headers leaves its own continuation only. -/
theorem onHeadersReceived (hh : h.OnlyReceived) {lib : UrlLibrary} {filters : FilterLists}
    {answers : Nat → FilterAnswer} {a : Nat} {reply : Reply SocketContinuation}
    (hreply : h.onHeadersReceived lib filters answers a .headersReceivedComplete = .ok reply) :
    reply.handler.OnlyReceived := by
  rcases onHeadersReceived_cases hreply with rfl | ⟨cell, -, halive, hstart⟩
  · exact hh.replyOK a
  · obtain ⟨-, progress, -, hcase⟩ := startPhase_cases halive hstart
    have hentered : (h.entered a cell .kOnHeadersReceived .headersReceivedComplete).OnlyReceived :=
      (hh.setCell _ _).setEntry _ (by simp)
    cases progress with
    | pending info =>
      rw [hcase.2]
      exact hentered.setCell _ _
    | complete info rv newUrl =>
      rw [hcase.2]
      exact hentered.completed _ _ _ _

end OnlyReceived

/-- The handler holds the continuation of the phase of the context at `a`, and nothing else. -/
structure Holds (h : RequestHandler SocketContinuation) (a id : Nat)
    (continuation : SocketContinuation) : Prop where
  bound : a < h.nextCtx
  unused : ∀ b, b ≠ a → h.ctxs b = none
  entry : h.callbacks id = some (some continuation)
  entries : ∀ other, other ≠ id → h.callbacks other = none
  posted : h.posted = []

theorem Holds.setCell {h : RequestHandler SocketContinuation} {a id : Nat}
    {continuation : SocketContinuation} (hh : h.Holds a id continuation) (cell : Cell) :
    (h.setCell a cell).Holds a id continuation :=
  ⟨hh.bound, fun b hb => (setCell_ctxs_of_ne _ _ _ _ hb).trans (hh.unused b hb), hh.entry,
    hh.entries, hh.posted⟩

theorem holds_entered {h : RequestHandler SocketContinuation} (hunused : ∀ a, h.ctxs a = none)
    (hentries : ∀ id, h.callbacks id = none) (hposted : h.posted = []) (info : BraveRequestInfo)
    (eventType : BraveNetworkDelegateEventType) (continuation : SocketContinuation) :
    ((h.newCtx info).entered h.nextCtx { info := info } eventType continuation).Holds h.nextCtx
      info.requestIdentifier continuation where
  bound := Nat.lt_succ_self _
  unused b hb :=
    (setCell_ctxs_of_ne _ _ _ _ hb).trans ((newCtx_ctxs_of_ne _ _ _ hb).trans (hunused b))
  entry := setEntry_callbacks_self _ _ _
  entries other hother := (setEntry_callbacks_of_ne _ _ hother).trans (hentries other)
  posted := hposted

end RequestHandler

namespace SocketProxy

/-- The check ended with `OK`, and it did not block. -/
def Passed (checked : Option Cell) : Prop :=
  ∃ cell, checked = some cell ∧ cell.result = some Net.OK ∧ cell.info.blockedBy = .kNotBlocked

/-- Nothing of the socket but its check can be under way. -/
structure Unopened (s : SocketProxy) : Prop where
  opened : s.opened = []
  headersAwaited : s.w.headersAwaited = 0
  receivedAwaited : s.w.receivedAwaited = 0
  headerReceiverBound : s.w.headerReceiverBound = false

/-- The page has not run the factory. -/
structure Unstarted (s : SocketProxy) : Prop extends s.Unopened where
  started : s.w.started = false
  ctx : s.w.ctx = none
  posted : s.handler.posted = []
  entries : ∀ id, s.handler.callbacks id = none
  unused : ∀ a, s.handler.ctxs a = none

/-- The check of the socket is that of the context at `a`. -/
structure Checking (s : SocketProxy) (a : Nat) : Prop extends s.Unopened where
  started : s.w.started = true
  checkedCtx : s.w.checkedCtx = some a

/-- A filter holds the check back. -/
structure Waiting (s : SocketProxy) (a : Nat) (cell : Cell) : Prop extends s.Checking a where
  cell_eq : s.handler.ctxs a = some cell
  alive : cell.alive = true
  honest : Honest cell.info
  eventType : cell.info.eventType = .kOnBeforeRequest
  handler : s.handler.Holds a cell.info.requestIdentifier (checkContinuation s.w.hasExtraHeaders)

/-- The check is over, and its continuation is on its way. -/
structure Decided (s : SocketProxy) (a : Nat) (cell : Cell) (rv : Int) : Prop extends
    s.Checking a where
  cell_eq : s.handler.ctxs a = some cell
  idle : cell.waiting = false
  result : cell.result = some rv
  verdict : rv = Net.OK → cell.info.blockedBy = .kNotBlocked
  bound : a < s.handler.nextCtx
  unused : ∀ b, b ≠ a → s.handler.ctxs b = none
  entries : ∀ id continuation, s.handler.callbacks id ≠ some (some continuation)
  posted : s.handler.posted = [⟨checkContinuation s.w.hasExtraHeaders, rv, a⟩]

/-- The factory has run, and no continuation that runs it again is left. -/
structure Opened (s : SocketProxy) : Prop where
  started : s.w.started = true
  handler : s.handler.OnlyReceived
  headers : s.w.hasExtraHeaders = false →
    s.w.headersAwaited = 0 ∧ s.w.headerReceiverBound = false

inductive Stage (s : SocketProxy) : Prop
  | unstarted (h : s.Unstarted)
  | waiting (a : Nat) (cell : Cell) (h : s.Waiting a cell)
  | decided (a : Nat) (cell : Cell) (rv : Int) (h : s.Decided a cell rv)
  | opened (h : s.Opened)
  | destroyed (h : s.destroyed = true)

/-- Each run of the factory was after a check that passed. -/
structure Safe (s : SocketProxy) : Prop where
  passed : ∀ checked ∈ s.opened, Passed checked
  stage : s.Stage

theorem safe_init (request : ResourceRequest) : (init request).Safe where
  passed _ hchecked := absurd hchecked List.not_mem_nil
  stage := .unstarted ⟨⟨rfl, rfl, rfl, rfl⟩, rfl, rfl, rfl, fun _ => rfl, fun _ => rfl⟩

section Moves

variable {setup : SocketSetup} {env : SocketEnv} {s s' : SocketProxy}

theorem onError_destroyed : (s.onError setup).destroyed = true := by
  unfold onError
  split <;> rfl

@[simp] theorem onError_opened : (s.onError setup).opened = s.opened := by
  unfold onError
  split <;> rfl

theorem safe_onError (h : ∀ checked ∈ s.opened, Passed checked) : (s.onError setup).Safe where
  passed := by simpa using h
  stage := .destroyed onError_destroyed

theorem safe_continueToStartRequest (hstarted : s.w.started = true) (hunopened : s.Unopened)
    (hpassed : Passed s.checked) (hhandler : s.handler.OnlyReceived)
    (hrun : s.continueToStartRequest setup Net.OK = .ok s') : s'.Safe := by
  unfold continueToStartRequest at hrun
  rw [if_neg (by decide), if_neg (by simp [hunopened.opened])] at hrun
  obtain rfl := Except.ok.inj hrun
  refine ⟨fun checked hchecked => ?_, .opened ⟨hstarted, hhandler, fun hextra => ?_⟩⟩
  · rw [hunopened.opened] at hchecked
    rwa [List.mem_singleton.mp hchecked]
  · exact ⟨hunopened.headersAwaited, hextra⟩

/-- The socket after the phase of the headers to send, which no filter delays. -/
def passHeaders (setup : SocketSetup) (env : SocketEnv) (s : SocketProxy) : SocketProxy :=
  let created := s.createBraveRequestInfo setup env
  { created with
    handler := (created.handler.replyOK (created.w.ctx.getD 0)).handler
    w := { created.w with beforeSendHeadersCallback := false } }

theorem onBeforeSendHeadersCompleteFromProxy_eq :
    s.onBeforeSendHeadersCompleteFromProxy setup env Net.OK =
      if s.w.hasExtraHeaders = false then
        (s.passHeaders setup env).continueToStartRequest setup Net.OK
      else .ok (s.passHeaders setup env) := by
  rw [onBeforeSendHeadersCompleteFromProxy, if_neg (by decide)]
  dsimp only
  rw [RequestHandler.onBeforeStartTransaction_none rfl]
  dsimp only
  rw [RequestHandler.replyOK_result, if_neg (by decide), if_neg (by decide),
    onBeforeSendHeadersComplete, if_neg (by decide)]
  rfl

theorem passHeaders_onlyReceived (h : s.handler.OnlyReceived) :
    (s.passHeaders setup env).handler.OnlyReceived := by
  have hcreated : (s.createBraveRequestInfo setup env).handler.OnlyReceived :=
    (h.releaseCtx setup.kind s.w.ctx).of_same rfl rfl
  exact hcreated.replyOK _

/-- The phase of the headers to send leaves what the check has found. -/
theorem passHeaders_checked (h : Passed s.checked)
    (hbound : ∀ a, s.w.checkedCtx = some a → a < s.handler.nextCtx) :
    Passed (s.passHeaders setup env).checked := by
  obtain ⟨cell, hchecked, hresult, hblocked⟩ := h
  obtain ⟨a, ha, hcell⟩ := Option.bind_eq_some_iff.mp hchecked
  obtain ⟨cell', hcell', hinfo, hresult'⟩ :=
    RequestHandler.releaseCtx_ctxs s.handler a cell setup.kind s.w.ctx hcell
  have hne : a ≠ (s.releaseCtx setup).nextCtx := by
    have := hbound a ha
    rw [releaseCtx, RequestHandler.releaseCtx_nextCtx]
    omega
  have hcreated : (s.createBraveRequestInfo setup env).handler.ctxs a = some cell' := by
    rw [createBraveRequestInfo, RequestHandler.newCtx_ctxs_of_ne _ _ _ hne]
    exact hcell'
  refine ⟨cell', ?_, hresult'.trans hresult, by rw [hinfo]; exact hblocked⟩
  have hreply : (s.passHeaders setup env).handler.ctxs a = some cell' :=
    (RequestHandler.replyOK_ctxs_of_ne _ _ _ hne).trans hcreated
  simp only [checked]
  rw [show (s.passHeaders setup env).w.checkedCtx = some a from ha]
  exact hreply

theorem safe_checkContinuation {a : Nat} (hchecking : s.Checking a) (hpassed : Passed s.checked)
    (hbound : a < s.handler.nextCtx) (hhandler : s.handler.OnlyReceived)
    (hrun : s.runContinuation setup env (checkContinuation s.w.hasExtraHeaders) Net.OK = .ok s') :
    s'.Safe := by
  cases hextra : s.w.hasExtraHeaders with
  | true =>
    rw [hextra] at hrun
    exact safe_continueToStartRequest hchecking.started hchecking.toUnopened hpassed hhandler hrun
  | false =>
    rw [hextra] at hrun
    have hpass : (s.passHeaders setup env).continueToStartRequest setup Net.OK = .ok s' := by
      rwa [checkContinuation, if_neg (by decide), runContinuation, onBeforeRequestComplete,
        if_neg (by decide), if_neg (by simp [hextra]), onBeforeSendHeadersCompleteFromProxy_eq,
        if_pos hextra] at hrun
    have hstarted : (s.passHeaders setup env).w.started = true := hchecking.started
    have hunopened : (s.passHeaders setup env).Unopened :=
      ⟨hchecking.opened, hchecking.headersAwaited, hchecking.receivedAwaited,
        hchecking.headerReceiverBound⟩
    refine safe_continueToStartRequest hstarted hunopened (passHeaders_checked hpassed ?_)
      (passHeaders_onlyReceived hhandler) hpass
    intro b hb
    obtain rfl : a = b := by simpa [hchecking.checkedCtx] using hb
    exact hbound

theorem checking_writeRedirectUrl {a : Nat} (h : s.Checking a)
    (handler : RequestHandler SocketContinuation) (newUrl : Option GURL) :
    ({ s with handler := handler }.writeRedirectUrl newUrl).Checking a := by
  cases newUrl <;> exact ⟨⟨h.opened, h.headersAwaited, h.receivedAwaited, h.headerReceiverBound⟩,
    h.started, h.checkedCtx⟩

@[simp] theorem writeRedirectUrl_handler (newUrl : Option GURL) :
    (s.writeRedirectUrl newUrl).handler = s.handler := by
  cases newUrl <;> rfl

@[simp] theorem writeRedirectUrl_opened (newUrl : Option GURL) :
    (s.writeRedirectUrl newUrl).opened = s.opened := by
  cases newUrl <;> rfl

@[simp] theorem writeRedirectUrl_destroyed (newUrl : Option GURL) :
    (s.writeRedirectUrl newUrl).destroyed = s.destroyed := by
  cases newUrl <;> rfl

@[simp] theorem writeRedirectUrl_hasExtraHeaders (newUrl : Option GURL) :
    (s.writeRedirectUrl newUrl).w.hasExtraHeaders = s.w.hasExtraHeaders := by
  cases newUrl <;> rfl

/-- The filters of the check go on: it waits for the next one, or its continuation is posted. -/
theorem stage_advance {a : Nat} (cell : Cell) {h : RequestHandler SocketContinuation}
    {lib : UrlLibrary} {filters : FilterLists} {answers : Nat → FilterAnswer} {progress : Progress}
    (hs : s.Checking a) (halive : cell.alive = true) (hidle : cell.waiting = false)
    (hhonest : Honest cell.info) (hevent : cell.info.eventType = .kOnBeforeRequest)
    (hh : h.Holds a cell.info.requestIdentifier (checkContinuation s.w.hasExtraHeaders))
    (hanswers : ∀ i, (answers i).decision = none)
    (hadvance : advance lib filters answers cell.info = .ok progress) (newUrl : Option GURL) :
    Stage ({ s with
      handler := match progress with
        | .pending info => h.setCell a { cell with info := info, waiting := true }
        | .complete info rv _ =>
          h.completed a cell info rv (checkContinuation s.w.hasExtraHeaders)
      }.writeRedirectUrl newUrl) := by
  have hsame := RequestHandler.advance_same hadvance
  have hverdict := advance_honest hanswers hhonest hevent hadvance
  cases progress with
  | pending info =>
    have hid : info.requestIdentifier = cell.info.requestIdentifier := hsame.requestIdentifier
    refine .waiting a { cell with info := info, waiting := true }
      ⟨checking_writeRedirectUrl hs _ _, ?_, halive, hverdict, hsame.eventType.trans hevent, ?_⟩
    · simp
    · simpa [hid] using hh.setCell { cell with info := info, waiting := true }
  | complete info rv url =>
    have hid : info.requestIdentifier = cell.info.requestIdentifier := hsame.requestIdentifier
    refine .decided a { cell with info := info, result := some rv } rv
      ⟨checking_writeRedirectUrl hs _ _, ?_, hidle, rfl, hverdict, ?_, ?_, ?_, ?_⟩
    · simp [RequestHandler.completed]
    · simpa [RequestHandler.completed] using hh.bound
    · intro b hb
      rw [writeRedirectUrl_handler]
      exact (RequestHandler.setCell_ctxs_of_ne _ _ _ _ hb).trans (hh.unused b hb)
    · intro id continuation hentry
      rw [writeRedirectUrl_handler] at hentry
      by_cases hother : id = info.requestIdentifier
      · simp [RequestHandler.completed, hother] at hentry
      · have hnone : h.callbacks id = none := hh.entries id (by rwa [← hid])
        simp [RequestHandler.completed, RequestHandler.setEntry_callbacks_of_ne _ _ hother,
          hnone] at hentry
    · simp [RequestHandler.completed, hh.posted]

theorem safe_start (hs : s.Unstarted) (hrun : s.start setup env = .ok s') : s'.Safe := by
  let info := s.makeCTX setup env
  let a := s.handler.nextCtx
  let begun := s.beginCheck setup env
  have hrelease : s.releaseCtx setup = s.handler := by
    simp [releaseCtx, RequestHandler.releaseCtx, hs.ctx]
  have hbegun : begun.handler = s.handler.newCtx info := by
    simp [begun, beginCheck, createBraveRequestInfo, hrelease, info]
  have hctx : begun.w.ctx = some a := by
    simp [begun, beginCheck, createBraveRequestInfo, hrelease, a]
  have hchecking : begun.Checking a :=
    ⟨⟨hs.opened, hs.headersAwaited, hs.receivedAwaited, hs.headerReceiverBound⟩, rfl, hctx⟩
  have hcell : (s.handler.newCtx info).ctxs a = some { info := info } :=
    RequestHandler.newCtx_ctxs_self _ _
  unfold start at hrun
  dsimp only at hrun
  split at hrun
  · contradiction
  · rename_i reply hreply
    rw [show s.beginCheck setup env = begun from rfl, hctx, hbegun, Option.getD_some] at hreply
    split at hrun
    · obtain rfl := Except.ok.inj hrun
      exact safe_onError (by simp [show s.beginCheck setup env = begun from rfl, hchecking.opened])
    · rcases RequestHandler.onBeforeURLRequest_cases hreply with
        rfl | ⟨cell, hcell', halive, hstart⟩
      · -- A URL of an internal scheme passes at once.
        have hreplied : ((s.handler.newCtx info).replyOK a).handler.ctxs a =
            some { info := info, result := some Net.OK } := by
          simp [RequestHandler.replyOK, hcell]
        rw [RequestHandler.replyOK_newUrl, RequestHandler.replyOK_result,
          if_neg (by decide)] at hrun
        refine safe_checkContinuation (a := a) (checking_writeRedirectUrl hchecking _ none)
          ⟨{ info := info, result := some Net.OK }, ?_, rfl, rfl⟩ ?_ ?_ hrun
        · rw [checked, (checking_writeRedirectUrl hchecking _ none).checkedCtx]
          exact hreplied
        · simp [RequestHandler.replyOK, hcell, a]
        · have hnew : (s.handler.newCtx info).OnlyReceived :=
            ⟨by simp [hs.entries], by simp [hs.posted]⟩
          exact hnew.replyOK a
      · obtain rfl := Option.some.inj (hcell.symm.trans hcell')
        obtain ⟨hresult, progress, hadvance, hcase⟩ :=
          RequestHandler.startPhase_cases halive hstart
        rw [hresult, if_pos rfl] at hrun
        obtain rfl := Except.ok.inj hrun
        have hstage := stage_advance { info := { info with eventType := .kOnBeforeRequest } }
          (h := (s.handler.newCtx info).entered a { info := info } .kOnBeforeRequest
            (checkContinuation begun.w.hasExtraHeaders)) hchecking rfl rfl ⟨rfl, rfl⟩ rfl
          (RequestHandler.holds_entered hs.unused hs.entries hs.posted info _ _) (fun _ => rfl)
          hadvance reply.newUrl
        refine ⟨by simp [show s.beginCheck setup env = begun from rfl, hchecking.opened], ?_⟩
        cases progress with
        | pending info' =>
          rw [hcase.2]
          exact hstage
        | complete info' rv newUrl =>
          rw [hcase.2]
          exact hstage

/-- What the ad blocker leaves in an honest context, unless it blocks with a redirect resource. -/
theorem honest_decide {info : BraveRequestInfo} (h : Honest info)
    (result : Option ShouldBlockRequestResult)
    (hresult : ∀ r, result = some r → r.blockedBy = .kAdBlocked → r.mockDataUrl = "") :
    Honest (info.decide (result.map fun r => (info.record r).decision)) := by
  cases result with
  | none => exact h
  | some r =>
    refine ⟨h.noError, ?_⟩
    by_cases hblocked : r.blockedBy = .kAdBlocked
    · simp [BraveRequestInfo.shouldMockRequest, BraveRequestInfo.decide, BraveRequestInfo.decision,
        hresult r rfl hblocked]
    · simp [BraveRequestInfo.shouldMockRequest, BraveRequestInfo.decide, BraveRequestInfo.decision,
        hblocked]

theorem resume_spec {a : Nat} {result : Option ShouldBlockRequestResult} {cell : Cell}
    (hcell : s.handler.ctxs a = some cell) (hrun : s.resume setup env a result = .ok s') :
    ∃ h newUrl, s.handler.resume setup.lib setup.filters (fun _ => ⟨env.headersFilter, none⟩) a
        (result.map fun r => (cell.info.record r).decision) = .ok (h, newUrl) ∧
      s' = { s with handler := h }.writeRedirectUrl newUrl := by
  unfold resume at hrun
  simp only [hcell, Option.bind_some] at hrun
  split at hrun
  · contradiction
  · rename_i h newUrl hresume
    exact ⟨h, newUrl, hresume, (Except.ok.inj hrun).symm⟩

theorem stage_resume {a : Nat} {cell : Cell} (hs : s.Waiting a cell)
    {result : Option ShouldBlockRequestResult}
    (hresult : ∀ r, result = some r → r.blockedBy = .kAdBlocked → r.mockDataUrl = "")
    {h : RequestHandler SocketContinuation} {newUrl : Option GURL}
    (hrun : s.handler.resume setup.lib setup.filters (fun _ => ⟨env.headersFilter, none⟩) a
      (result.map fun r => (cell.info.record r).decision) = .ok (h, newUrl)) :
    ({ s with handler := h }.writeRedirectUrl newUrl).Stage := by
  let info := cell.info.decide (result.map fun r => (cell.info.record r).decision)
  let resumed : Cell := { cell with info := info, waiting := false }
  have hsame : SameRequest cell.info info := .decide _ _
  have hholds := (hs.handler.setCell resumed)
  have hset : (s.handler.setCell a resumed).ctxs a = some resumed :=
    RequestHandler.setCell_ctxs_self _ _ _
  have hnext : (s.handler.setCell a resumed).runNextCallback setup.lib setup.filters
      (fun _ => ⟨env.headersFilter, none⟩) a = .ok (h, newUrl) := by
    simpa only [RequestHandler.resume, hs.cell_eq, if_pos hs.alive] using hrun
  rcases RequestHandler.runNextCallback_cases hnext with
    ⟨-, -, hskip⟩ | ⟨cell', progress, hcell', -, -, hadvance, hcase⟩
  · have hentry : s.handler.callbacks info.requestIdentifier = none :=
      hskip resumed hset hs.alive
    rw [hsame.requestIdentifier, hs.handler.entry] at hentry
    contradiction
  · obtain rfl : resumed = cell' := Option.some.inj (hset.symm.trans hcell')
    rw [← hsame.requestIdentifier] at hholds
    have hstage := stage_advance resumed hs.toChecking hs.alive rfl
      (honest_decide hs.honest result hresult) (hsame.eventType.trans hs.eventType) hholds
      (fun _ => rfl) hadvance newUrl
    cases progress with
    | pending info' =>
      rw [hcase.1]
      exact hstage
    | complete info' rv url =>
      obtain ⟨-, continuation, hentry, rfl⟩ := hcase
      have hcontinuation : s.handler.callbacks info.requestIdentifier = some (some continuation) :=
        hentry
      rw [hsame.requestIdentifier, hs.handler.entry] at hcontinuation
      obtain rfl := Option.some.inj (Option.some.inj hcontinuation)
      exact hstage

end Moves

/-- The check of a socket that is there does not end with a redirect resource. -/
def noRedirectResource (s : SocketProxy) : SocketEvent → Prop
  | .resume a result _ => s.destroyed = false → s.w.checkedCtx = some a →
    ∀ r ∈ result, r.blockedBy = .kAdBlocked → r.mockDataUrl = ""
  | _ => True

section Step

variable {setup : SocketSetup} {s s' : SocketProxy}

theorem safe_resume (hs : s.Safe) {a : Nat} {result : Option ShouldBlockRequestResult}
    {env : SocketEnv} (henabled : s.enabled (.resume a result env))
    (hok : s.noRedirectResource (.resume a result env))
    (hrun : s.resume setup env a result = .ok s') : s'.Safe := by
  obtain ⟨cell, hcell, hwaiting⟩ := henabled
  obtain ⟨h, newUrl, hresume, rfl⟩ := resume_spec hcell hrun
  refine ⟨by simpa using hs.passed, ?_⟩
  by_cases hdestroyed : s.destroyed = true
  · exact .destroyed (by simpa using hdestroyed)
  · rw [Bool.not_eq_true] at hdestroyed
    cases hs.stage with
    | unstarted hstage => simp [hstage.unused] at hcell
    | waiting b checked hstage =>
      obtain rfl : a = b := by
        by_contra hne
        simp [hstage.handler.unused a hne] at hcell
      obtain rfl : cell = checked := by simpa [hcell] using hstage.cell_eq
      exact stage_resume hstage (hok hdestroyed hstage.checkedCtx) hresume
    | decided b checked rv hstage =>
      obtain rfl : a = b := by
        by_contra hne
        simp [hstage.unused a hne] at hcell
      obtain rfl : cell = checked := by simpa [hcell] using hstage.cell_eq
      simp [hstage.idle] at hwaiting
    | opened hstage =>
      refine .opened ⟨?_, ?_, ?_⟩
      · cases newUrl <;> exact hstage.started
      · simpa using hstage.handler.resume hresume
      · cases newUrl <;> exact hstage.headers
    | destroyed hstage => simp [hdestroyed] at hstage

theorem safe_runContinuation_error {env : SocketEnv} (hs : s.opened = []) {rv : Int}
    (hrv : rv ≠ Net.OK)
    (hrun : s.runContinuation setup env (checkContinuation s.w.hasExtraHeaders) rv = .ok s') :
    s'.Safe := by
  have herror : s.onError setup = s' := by
    cases hextra : s.w.hasExtraHeaders <;>
      simpa [hextra, checkContinuation, runContinuation, continueToStartRequest,
        onBeforeRequestComplete, hrv] using hrun
  rw [← herror]
  exact safe_onError (by simp [hs])

theorem safe_onHeadersReceivedComplete (hpassed : ∀ checked ∈ s.opened, Passed checked)
    (hs : s.Opened) (errorCode : Int) : (s.onHeadersReceivedComplete setup errorCode).Safe := by
  unfold onHeadersReceivedComplete
  split
  · exact safe_onError hpassed
  · split
    · exact ⟨hpassed, .opened ⟨hs.started, hs.handler, hs.headers⟩⟩
    · exact ⟨hpassed, .opened ⟨hs.started, hs.handler, hs.headers⟩⟩

theorem safe_runPosted (hs : s.Safe) {env : SocketEnv} (hrun : s.runPosted setup env = .ok s') :
    s'.Safe := by
  unfold runPosted at hrun
  split at hrun
  · obtain rfl := Except.ok.inj hrun
    exact hs
  · rename_i completion rest hposted
    dsimp only at hrun
    split at hrun
    · rename_i hdestroyed
      obtain rfl := Except.ok.inj hrun
      exact ⟨hs.passed, .destroyed hdestroyed⟩
    · rename_i hlive
      cases hs.stage with
      | unstarted hstage => simp [hstage.posted] at hposted
      | waiting a cell hstage => simp [hstage.handler.posted] at hposted
      | decided a cell rv hstage =>
        obtain ⟨rfl, rfl⟩ : _ = completion ∧ _ = rest :=
          List.cons.inj (hstage.posted.symm.trans hposted)
        let popped : SocketProxy := { s with handler := { s.handler with posted := [] } }
        have hchecking : popped.Checking a :=
          ⟨⟨hstage.opened, hstage.headersAwaited, hstage.receivedAwaited,
            hstage.headerReceiverBound⟩, hstage.started, hstage.checkedCtx⟩
        have hcontinue : popped.runContinuation setup env
            (checkContinuation popped.w.hasExtraHeaders) rv = .ok s' := hrun
        by_cases hrv : rv = Net.OK
        · subst hrv
          have hpassed : Passed popped.checked :=
            ⟨cell, by simp [checked, popped, hstage.checkedCtx, hstage.cell_eq], hstage.result,
              hstage.verdict rfl⟩
          have hhandler : popped.handler.OnlyReceived :=
            ⟨fun id continuation hentry => absurd hentry (hstage.entries id continuation),
              by simp [popped]⟩
          exact safe_checkContinuation hchecking hpassed hstage.bound hhandler hcontinue
        · exact safe_runContinuation_error hchecking.opened hrv hcontinue
      | opened hstage =>
        have hcompletion := hstage.handler.posted completion (by simp [hposted])
        rw [hcompletion, runContinuation] at hrun
        obtain rfl := Except.ok.inj hrun
        let popped : SocketProxy := { s with handler := { s.handler with posted := rest } }
        have hpopped : popped.Opened :=
          ⟨hstage.started, ⟨hstage.handler.entries, fun c hc =>
            hstage.handler.posted c (by rw [hposted]; exact .tail _ hc)⟩, hstage.headers⟩
        exact safe_onHeadersReceivedComplete (s := popped) hs.passed hpopped completion.rv
      | destroyed hstage => exact absurd hstage hlive

/-- A socket that is there and hears from a header client, or the page's, has been opened. -/
theorem Stage.opened_of_heard (hs : s.Stage) (hlive : s.destroyed = false)
    (hheard : 0 < s.w.headersAwaited ∨ 0 < s.w.receivedAwaited ∨ s.w.headerReceiverBound = true) :
    s.Opened := by
  have hunopened : ¬s.Unopened := by
    intro h
    simp [h.headersAwaited, h.receivedAwaited, h.headerReceiverBound] at hheard
  cases hs with
  | unstarted h => exact absurd h.toUnopened hunopened
  | waiting a cell h => exact absurd h.toUnopened hunopened
  | decided a cell rv h => exact absurd h.toUnopened hunopened
  | opened h => exact h
  | destroyed h => simp [hlive] at h

theorem safe_continueToHeadersReceived (hpassed : ∀ checked ∈ s.opened, Passed checked)
    (hs : s.Opened) {env : SocketEnv} (hrun : s.continueToHeadersReceived setup env = .ok s') :
    s'.Safe := by
  unfold continueToHeadersReceived at hrun
  dsimp only at hrun
  split at hrun
  · contradiction
  · rename_i reply hreply
    have hcreated : (s.createBraveRequestInfo setup env).handler.OnlyReceived :=
      (hs.handler.releaseCtx setup.kind s.w.ctx).of_same rfl rfl
    let replied : SocketProxy :=
      { s.createBraveRequestInfo setup env with
        handler := reply.handler
        w := { (s.createBraveRequestInfo setup env).w with receiversPaused := true } }
    have hreplied : replied.Opened :=
      ⟨hs.started, hcreated.onHeadersReceived hreply, hs.headers⟩
    split at hrun
    · obtain rfl := Except.ok.inj hrun
      exact safe_onError hpassed
    · split at hrun
      · obtain rfl := Except.ok.inj hrun
        exact ⟨hpassed, .opened hreplied⟩
      · obtain rfl := Except.ok.inj hrun
        exact safe_onHeadersReceivedComplete (s := replied) hpassed hreplied Net.OK

/-- One event keeps it so that the factory runs only after a check that passed. -/
theorem Safe.step (hs : s.Safe) {e : SocketEvent} (henabled : s.enabled e)
    (hok : s.noRedirectResource e) (hrun : SocketProxy.step setup s e = .ok s') : s'.Safe := by
  cases e with
  | webSocketFactoryRun trustedHeaderClient env =>
    obtain ⟨hlive, hunstarted⟩ := henabled
    cases hs.stage with
    | unstarted h =>
      let asked : SocketProxy := { s with w := { s.w with hasExtraHeaders := trustedHeaderClient } }
      have hasked : asked.Unstarted :=
        ⟨⟨h.opened, h.headersAwaited, h.receivedAwaited, h.headerReceiverBound⟩, h.started, h.ctx,
          h.posted, h.entries, h.unused⟩
      exact safe_start hasked hrun
    | waiting a cell h => simp [h.started] at hunstarted
    | decided a cell rv h => simp [h.started] at hunstarted
    | opened h => simp [h.started] at hunstarted
    | destroyed h => simp [hlive] at h
  | resume a result env => exact safe_resume hs henabled hok hrun
  | runPosted env => exact safe_runPosted hs hrun
  | headersFromProxy errorCode env =>
    obtain ⟨hlive, hawaited⟩ := henabled
    have hopened := hs.stage.opened_of_heard hlive (.inl hawaited)
    simp only [SocketProxy.step] at hrun
    by_cases hcode : errorCode = Net.OK
    · subst hcode
      have hextra : s.w.hasExtraHeaders = true := by
        by_contra hnone
        have := (hopened.headers (by simpa using hnone)).1
        omega
      rw [onBeforeSendHeadersCompleteFromProxy_eq, if_neg (by simp [hextra])] at hrun
      obtain rfl := Except.ok.inj hrun
      refine ⟨hs.passed, .opened ⟨hopened.started, passHeaders_onlyReceived hopened.handler, ?_⟩⟩
      intro hnone
      exact absurd (hextra.symm.trans hnone) (by decide)
    · rw [onBeforeSendHeadersCompleteFromProxy, if_pos hcode] at hrun
      obtain rfl := Except.ok.inj hrun
      exact safe_onError hs.passed
  | receivedFromProxy =>
    obtain ⟨hlive, hawaited⟩ := henabled
    have hopened := hs.stage.opened_of_heard hlive (.inr (.inl hawaited))
    obtain rfl := Except.ok.inj hrun
    exact ⟨hs.passed, .opened ⟨hopened.started, hopened.handler, hopened.headers⟩⟩
  | beforeSendHeaders env =>
    obtain ⟨hlive, hbound, -⟩ := henabled
    have hopened := hs.stage.opened_of_heard hlive (.inr (.inr hbound))
    have hextra : s.w.hasExtraHeaders = true := by
      by_contra hnone
      exact absurd (hbound.symm.trans (hopened.headers (by simpa using hnone)).2) (by decide)
    simp only [SocketProxy.step, onBeforeSendHeaders, onBeforeRequestComplete] at hrun
    rw [if_neg (by decide), if_pos hextra] at hrun
    obtain rfl := Except.ok.inj hrun
    refine ⟨hs.passed, .opened ⟨hopened.started, hopened.handler, fun hnone => ?_⟩⟩
    exact absurd (hextra.symm.trans hnone) (by decide)
  | headersReceived env =>
    obtain ⟨hlive, hbound, -⟩ := henabled
    have hopened := hs.stage.opened_of_heard hlive (.inr (.inr hbound))
    let heard : SocketProxy := { s with w := { s.w with headersReceivedCallback := true } }
    have hheard : heard.Opened := ⟨hopened.started, hopened.handler, hopened.headers⟩
    exact safe_continueToHeadersReceived (s := heard) hs.passed hheard hrun
  | connectionEstablished =>
    obtain rfl := Except.ok.inj hrun
    exact safe_onError hs.passed
  | connectionError =>
    obtain rfl := Except.ok.inj hrun
    exact safe_onError hs.passed

end Step

/-- Where no check that blocks has a redirect resource, the factory of a WebSocket is run only after
a check that ended with `OK` and did not block. -/
theorem opened_not_blocked (setup : SocketSetup) (request : ResourceRequest)
    {es : List SocketEvent} {s : SocketProxy}
    (hrun : Run ((machine setup).restrict noRedirectResource) (init request) es s) :
    ∀ checked ∈ s.opened, Passed checked := by
  have hsafe : s.Safe := by
    refine hrun.preserves (P := Safe) ?_ (safe_init request)
    intro s e s' henabled hstep hs
    exact hs.step henabled.1 henabled.2 hstep
  exact hsafe.passed

instance (s : SocketProxy) : ∀ e, Decidable (s.noRedirectResource e)
  | .resume a result _ =>
    inferInstanceAs (Decidable (s.destroyed = false → s.w.checkedCtx = some a →
      ∀ r ∈ result, r.blockedBy = .kAdBlocked → r.mockDataUrl = ""))
  | .webSocketFactoryRun _ _ | .runPosted _ | .headersFromProxy _ _ | .receivedFromProxy
  | .beforeSendHeaders _ | .headersReceived _ | .connectionEstablished | .connectionError =>
    inferInstanceAs (Decidable True)

/-- A page opens a WebSocket, and the ad blocker gives its verdict. -/
def openChecked (result : ShouldBlockRequestResult) : List SocketEvent :=
  [.webSocketFactoryRun false {}, .resume 0 (some result) {}, .runPosted {}]

def chatRequest : ResourceRequest where
  url := .wss "ads.com" "/chat"
  requestInitiator := some (.https "a.com" "/")

def chatSetup : SocketSetup where
  kind := .weakPtr
  lib := .ofUrls []

/-- The verdicts of the checks that the factory was run after. -/
def verdicts (s : SocketProxy) : List (Option BlockedBy) :=
  s.opened.map fun checked => checked.map fun cell => cell.info.blockedBy

theorem opened_not_blocked_allowed :
    ∃ s, Run ((machine chatSetup).restrict noRedirectResource) (init chatRequest)
        (openChecked {}) s ∧
      s.verdicts = [some .kNotBlocked] ∧ ∀ checked ∈ s.opened, Passed checked := by
  obtain ⟨s, run, hs⟩ := Machine.exists_run ((machine chatSetup).restrict noRedirectResource)
    (init chatRequest) (openChecked {}) (fun s => s.verdicts == [some .kNotBlocked]) (by decide)
  exact ⟨s, run, by simpa using hs, opened_not_blocked chatSetup chatRequest run⟩

/-- A rule with a redirect resource blocks the WebSocket, and the connection is opened. -/
theorem blocked_socket_opened :
    ∃ s, Run (machine chatSetup) (init chatRequest)
        (openChecked { blockedBy := .kAdBlocked, mockDataUrl := "data:text/plain;base64,IA==" }) s ∧
      s.verdicts = [some .kAdBlocked] := by
  obtain ⟨s, run, hs⟩ := Machine.exists_run (machine chatSetup) (init chatRequest)
    (openChecked { blockedBy := .kAdBlocked, mockDataUrl := "data:text/plain;base64,IA==" })
    (fun s => s.verdicts == [some .kAdBlocked]) (by decide)
  exact ⟨s, run, by simpa using hs⟩

end SocketProxy

end ChromiumAdblock
