import ChromiumAdblock.Net.AdBlockTp
import ChromiumAdblock.Net.ProxyFrame

/-! What the client gets for a request that the ad blocker blocks.  `RunNextCallback` writes the
rewritten URL before it looks at the verdict, and where the verdict comes with a redirect resource
it leaves the blocking to the proxy, which looks at the rewritten URL first: such a request is
redirected, not blocked. -/

namespace ChromiumAdblock

section Answers

variable (lib : UrlLibrary) (engineWrapper : AdBlockEngineWrapper) (uncloak : Bool)
  (resolution : HostResolution) (ctx : BraveRequestInfo)

/-- The answer about the request URL. -/
def firstAnswer : BlockerResult :=
  engineWrapper.shouldStartRequest lib ctx.requestUrl ctx.resourceType ctx.initiatorUrl.host
    false false false

/-- The answer of the last query: that about the canonical URL where it is asked for. -/
def lastAnswer : BlockerResult :=
  let first := firstAnswer lib engineWrapper ctx
  let flags := EngineFlags.add {} first
  if flags.blocks || !uncloak then first
  else
    match useCnameResult lib ctx resolution.cname with
    | none => first
    | some canonicalUrl =>
      engineWrapper.shouldStartRequest lib canonicalUrl ctx.resourceType ctx.initiatorUrl.host
        flags.didMatchRule flags.didMatchException flags.didMatchImportant

/-- Whether the answer about the request URL rewrites it to another one. -/
def rewrites : Bool :=
  let first := firstAnswer lib engineWrapper ctx
  hasValidRewrittenUrl lib (paramsOf ctx) none first && first.rewrittenUrl.value != "" &&
    first.rewrittenUrl.value != ctx.requestUrl.spec

/-- The reply of the task runner to an answer that it got. -/
def replyTo (previous : EngineFlags) (canonicalUrl : Option GURL) (answer : BlockerResult) :
    ShouldBlockRequestResult where
  engineFlags := previous.add answer
  newUrlSpec :=
    if hasValidRewrittenUrl lib (paramsOf ctx) canonicalUrl answer then answer.rewrittenUrl.value
    else ""
  mockDataUrl := answer.redirect.value
  blockedBy := if (previous.add answer).blocks then .kAdBlocked else .kNotBlocked

theorem shouldBlockRequestOnTaskRunner_eq (hinit : ctx.initiatorUrl.isValid = true)
    (previous : EngineFlags) (canonicalUrl : Option GURL) :
    (shouldBlockRequestOnTaskRunner lib engineWrapper (paramsOf ctx) previous canonicalUrl).1 =
      replyTo lib ctx previous canonicalUrl (engineWrapper.shouldStartRequest lib
        (canonicalUrl.getD ctx.requestUrl) ctx.resourceType ctx.initiatorUrl.host
        previous.didMatchRule previous.didMatchException previous.didMatchImportant) := by
  have hvalid : ¬(!(paramsOf ctx).initiatorUrl.isValid) = true := by simpa [paramsOf] using hinit
  rw [shouldBlockRequestOnTaskRunner, if_neg hvalid]
  rfl

theorem adBlockTPCheck_invalid (hinit : ctx.initiatorUrl.isValid = false) :
    (adBlockTPCheck lib engineWrapper uncloak resolution ctx).1.blockedBy = .kNotBlocked := by
  have hreply : ∀ flags url,
      shouldBlockRequestOnTaskRunner lib engineWrapper (paramsOf ctx) flags url =
        ({ engineFlags := flags }, none) := by
    intro flags url
    rw [shouldBlockRequestOnTaskRunner, if_pos (by simpa [paramsOf] using hinit)]
  simp only [adBlockTPCheck, hreply]
  cases uncloak with
  | false => rw [afterFirstCheck_final ctx lib engineWrapper resolution (.inr rfl)]; rfl
  | true =>
    rw [afterFirstCheck_resolve ctx lib engineWrapper resolution (by simp)]
    split
    · rfl
    · simp only [hreply]
      rfl

/-- What a check leaves in a fresh context: the redirect resource of the last answer, and the URL
that the first one rewrites the request to. -/
theorem adBlockTPCheck_decided (hinit : ctx.initiatorUrl.isValid = true)
    (hnew : ctx.newUrlSpec = "") :
    let decided := (adBlockTPCheck lib engineWrapper uncloak resolution ctx).1
    let first := firstAnswer lib engineWrapper ctx
    decided.mockDataUrl = (lastAnswer lib engineWrapper uncloak resolution ctx).redirect.value ∧
      decided.newUrlSpec = if hasValidRewrittenUrl lib (paramsOf ctx) none first then
        first.rewrittenUrl.value else "" := by
  intro decided first
  have hfirst : (shouldBlockRequestOnTaskRunner lib engineWrapper (paramsOf ctx) {} none).1 =
      replyTo lib ctx {} none first :=
    shouldBlockRequestOnTaskRunner_eq lib engineWrapper ctx hinit {} none
  have hrecord : ∀ result : ShouldBlockRequestResult,
      (ctx.record result).newUrlSpec = result.newUrlSpec := by
    intro result
    simp only [BraveRequestInfo.record, hnew]
    split
    · rfl
    · rename_i hempty
      exact (not_not.mp hempty).symm
  by_cases hfinal : (EngineFlags.add {} first).blocks = true ∨ uncloak = false
  · have hlast : lastAnswer lib engineWrapper uncloak resolution ctx = first := by
      rw [lastAnswer, if_pos (by simpa using hfinal)]
    have hdecided : decided = ctx.record (replyTo lib ctx {} none first) := by
      simp only [decided, adBlockTPCheck]
      rw [afterFirstCheck_final ctx lib engineWrapper resolution, hfirst]
      exact hfinal.imp_left fun hblocks => by rw [hfirst]; exact if_pos hblocks
    rw [hdecided, hlast, hrecord]
    exact ⟨rfl, rfl⟩
  · obtain ⟨hblocks, huncloak⟩ := not_or.mp hfinal
    obtain rfl : uncloak = true := by simpa using huncloak
    have hresolve : (replyTo lib ctx {} none first).blockedBy ≠ .kAdBlocked := by
      simp [replyTo, hblocks]
    simp only [decided, adBlockTPCheck, hfirst,
      afterFirstCheck_resolve ctx lib engineWrapper resolution hresolve]
    rw [lastAnswer, if_neg (by simpa using hblocks)]
    cases useCnameResult lib ctx resolution.cname with
    | none =>
      rw [hrecord]
      exact ⟨rfl, rfl⟩
    | some canonicalUrl =>
      -- the second reply carries no rewritten URL, so that of the first one stays
      have hsecond := shouldBlockRequestOnTaskRunner_eq lib engineWrapper ctx hinit
        (EngineFlags.add {} first) (some canonicalUrl)
      simp only [replyTo] at hsecond ⊢
      rw [hsecond]
      refine ⟨rfl, ?_⟩
      simp only [BraveRequestInfo.record, hasValidRewrittenUrl, Option.isNone_some, Bool.false_and]
      exact hrecord (replyTo lib ctx {} none first)

end Answers

/-- The check writes the verdict, the redirect resource, and the rewritten URL, and nothing else. -/
theorem adBlockTPCheck_writes (lib : UrlLibrary) (engineWrapper : AdBlockEngineWrapper)
    (uncloak : Bool) (resolution : HostResolution) (ctx : BraveRequestInfo) :
    ∃ blockedBy mockDataUrl newUrlSpec,
      (adBlockTPCheck lib engineWrapper uncloak resolution ctx).1 =
        { ctx with
          blockedBy := blockedBy
          mockDataUrl := mockDataUrl
          newUrlSpec := newUrlSpec } := by
  simp only [adBlockTPCheck]
  generalize (shouldBlockRequestOnTaskRunner lib engineWrapper (paramsOf ctx) {} none).1 = first
  by_cases hfinal : first.blockedBy = .kAdBlocked ∨ uncloak = false
  · rw [afterFirstCheck_final ctx lib engineWrapper resolution hfinal]
    exact ⟨_, _, _, rfl⟩
  · obtain ⟨hblocked, huncloak⟩ := not_or.mp hfinal
    obtain rfl : uncloak = true := by simpa using huncloak
    rw [afterFirstCheck_resolve ctx lib engineWrapper resolution hblocked]
    split <;> exact ⟨_, _, _, rfl⟩

/-- The URL that `RunNextCallback` writes to `new_url`. -/
def BraveRequestInfo.newUrl (lib : UrlLibrary) (info : BraveRequestInfo) : Option GURL :=
  if info.newUrlSpec ≠ "" ∧ info.newUrlSpec ≠ info.requestUrl.spec then
    some (lib.parse info.newUrlSpec)
  else none

/-- A redirect is written exactly where the answer about the request URL rewrites it. -/
theorem newUrl_isEmpty {lib : UrlLibrary} {engineWrapper : AdBlockEngineWrapper}
    {ctx decided : BraveRequestInfo} (hurl : decided.requestUrl = ctx.requestUrl)
    (hspec : decided.newUrlSpec =
      if hasValidRewrittenUrl lib (paramsOf ctx) none (firstAnswer lib engineWrapper ctx) then
        (firstAnswer lib engineWrapper ctx).rewrittenUrl.value else "") :
    ((decided.newUrl lib).getD .empty).isEmpty = true ↔ rewrites lib engineWrapper ctx = false := by
  simp only [BraveRequestInfo.newUrl, rewrites, hspec, hurl]
  cases hvalid :
      hasValidRewrittenUrl lib (paramsOf ctx) none (firstAnswer lib engineWrapper ctx) with
  | false => simp
  | true =>
    have hparsed : (lib.parse (firstAnswer lib engineWrapper ctx).rewrittenUrl.value).isEmpty =
        false := by
      simp only [hasValidRewrittenUrl, Bool.and_eq_true] at hvalid
      exact GURL.isEmpty_of_isValid hvalid.1.2
    by_cases hwritten : (firstAnswer lib engineWrapper ctx).rewrittenUrl.value ≠ "" ∧
        (firstAnswer lib engineWrapper ctx).rewrittenUrl.value ≠ ctx.requestUrl.spec
    · simp [hwritten, hparsed]
    · rw [if_pos rfl, if_neg hwritten]
      simpa [Decidable.not_and_iff_not_or_not] using hwritten

/-- The end of the phase of a request that the ad blocker blocks: an error, unless there is a
redirect resource. -/
theorem finishFilters_blocked (lib : UrlLibrary) {info : BraveRequestInfo}
    (hevent : info.eventType = .kOnBeforeRequest) (hblocked : info.blockedBy = .kAdBlocked) :
    finishFilters lib info Net.OK = .complete info
      (if info.mockDataUrl = "" then Net.ERR_BLOCKED_BY_CLIENT else Net.OK) (info.newUrl lib) := by
  unfold finishFilters
  rw [if_neg (by simp), if_pos hevent]
  by_cases hmock : info.mockDataUrl = ""
  · simp [hblocked, hmock, BraveRequestInfo.shouldMockRequest, BraveRequestInfo.newUrl]
  · simp [hblocked, hmock, BraveRequestInfo.shouldMockRequest, BraveRequestInfo.newUrl]

namespace Turn

variable (setup : ProxySetup) (env : ProxyEnv) (targetFactoryBound : Bool)
  (engineWrapper : AdBlockEngineWrapper) (resolution : HostResolution) (t : Turn)

/-- The context of a check, while the ad blocker is asked. -/
def askedInfo : BraveRequestInfo :=
  { t.reset.makeCTX setup env with eventType := .kOnBeforeRequest, nextUrlRequestIndex := 1 }

/-- A check of a request by the ad blocker, with nothing in between: the filter is pending, the ad
blocker decides, and the completion that is posted runs. -/
def runCheck : Except ProxyFault Turn :=
  let filter := fun _ =>
    ⟨onBeforeURLRequest_AdBlockTPPreWork setup.features (t.reset.makeCTX setup env), none⟩
  match t.restartInternal setup { env with beforeRequest := filter } targetFactoryBound with
  | .error fault => .error fault
  | .ok t =>
    let decided :=
      onBeforeURLRequestAdBlockTP setup.lib setup.features engineWrapper resolution t.info
    match t.handler.resume setup.lib setup.filters filter (t.r.ctx.getD 0)
        (some decided.1.decision) with
    | .error fault => .error (.handler fault)
    | .ok (h, newUrl) =>
      match h.posted.getLast? with
      | none => .ok t
      | some completion =>
        runContinuation setup env targetFactoryBound completion.callback.continuation completion.rv
          { t with
            handler := { h with posted := h.posted.dropLast }
            r := writeRedirectUrl t.r newUrl }

/-- The client got the error for a blocked request, or a stub. -/
def Refused (t t' : Turn) : Prop :=
  ∃ message, t'.sent = t.sent ++ [message] ∧
    ((∃ collapse, message = .onComplete Net.ERR_BLOCKED_BY_CLIENT collapse) ∨
      ∃ mockDataUrl, message = .onReceiveResponse (some mockDataUrl))

variable {setup env targetFactoryBound engineWrapper resolution t}

theorem isInternalScheme_of_asked {features : Features} {ctx : BraveRequestInfo}
    (h : skipsAdBlock features ctx = false) : isInternalScheme ctx.requestUrl = false := by
  simp only [skipsAdBlock, Bool.or_eq_false_iff, Bool.and_eq_false_iff, Bool.not_eq_false',
    GURL.schemeIsHTTPOrHTTPS, GURL.schemeIsWSOrWSS, GURL.schemeIs, Bool.or_eq_true,
    beq_iff_eq] at h
  simp only [isInternalScheme, GURL.schemeIs, Bool.or_eq_false_iff, beq_eq_false_iff_ne]
  rcases h.1.1.2 with (hscheme | hscheme) | (hscheme | hscheme) <;> simp [hscheme]

variable (setup env targetFactoryBound) in
/-- A check that the filter is asked for leaves the request waiting, with nothing sent. -/
theorem restartInternal_asked
    (hasked : skipsAdBlock setup.features (t.reset.makeCTX setup env) = false)
    (hfilter : env.beforeRequest 0 = ⟨Net.ERR_IO_PENDING, none⟩) :
    ∃ t₁, t.restartInternal setup env targetFactoryBound = .ok t₁ ∧ t₁.id = t.id ∧
      t₁.sent = t.sent ∧ t₁.r.ctx = some (t.reset.nextAddress setup) ∧
      t₁.r.redirectUrl = .empty ∧ t₁.r.requestCompleted = false ∧
      t₁.handler.ctxs (t.reset.nextAddress setup) =
        some { info := t.askedInfo setup env, waiting := true } ∧
      t₁.handler.callbacks t.id = some (some ⟨t.id, .beforeSendHeaders⟩) := by
  let u := t.beginCheck setup env
  let a := t.reset.nextAddress setup
  let ctx := t.reset.makeCTX setup env
  let entered := u.handler.entered a { info := ctx } .kOnBeforeRequest ⟨t.id, .beforeSendHeaders⟩
  let h := entered.setCell a
    { info := t.askedInfo setup env
      waiting := true }
  have hcell : u.handler.ctxs a = some { info := ctx } := beginCheck_cell setup env t
  have hctx : u.r.ctx.getD 0 = a := rfl
  have hstart : RequestHandler.startPhase setup.lib setup.filters env.beforeRequest
      .kOnBeforeRequest u.handler a { info := ctx } ⟨u.id, .beforeSendHeaders⟩ =
      .ok ⟨h, none, Net.ERR_IO_PENDING⟩ :=
    RequestHandler.startPhase_pending _ rfl rfl Nat.one_pos hfilter
  refine ⟨({ u with handler := h }).setPaused true, ?_, setPaused_id _ _, setPaused_sent _ _,
    setPaused_ctx _ _, setPaused_redirectUrl _ _, setPaused_requestCompleted _ _, ?_, ?_⟩
  · simp only [restartInternal, u, a] at hctx ⊢
    rw [hctx, RequestHandler.onBeforeURLRequest_live _ hcell rfl (by simp [ProxySetup.filters,
      setupCallbacks]) (isInternalScheme_of_asked hasked), hstart]
    simp only
    rw [if_neg (by decide), if_pos trivial]
    rfl
  · rw [setPaused_handler]
    exact RequestHandler.setCell_ctxs_self _ _ _
  · rw [setPaused_handler]
    exact RequestHandler.setEntry_callbacks_self _ _ _

section Sent

variable (setup : ProxySetup) (t : Turn)

@[simp] theorem destroy_sent : (t.destroy setup).sent = t.sent := by
  unfold Turn.destroy; split <;> rfl

@[simp] theorem modifyCtx_sent (f : BraveRequestInfo → BraveRequestInfo) :
    (t.modifyCtx f).sent = t.sent := by
  unfold Turn.modifyCtx
  split
  · rfl
  · split <;> rfl

@[simp] theorem taintInitiator_sent : (t.taintInitiator setup).sent = t.sent := by
  unfold Turn.taintInitiator
  split
  · split <;> rfl
  · rfl

@[simp] theorem useNewReferrer_sent : t.useNewReferrer.sent = t.sent := by
  unfold Turn.useNewReferrer; split <;> rfl

@[simp] theorem useNewReferrer_requestCompleted :
    t.useNewReferrer.r.requestCompleted = t.r.requestCompleted := by
  unfold Turn.useNewReferrer; split <;> rfl

theorem onRequestError_sent (errorCode : Int) (h : t.r.requestCompleted = false) :
    ∃ collapse,
      (t.onRequestError setup errorCode).sent = t.sent ++ [.onComplete errorCode collapse] := by
  unfold Turn.onRequestError
  simp only [destroy_sent]
  exact ⟨_, by rw [if_neg (by simp [h])]; rfl⟩

theorem continueToBeforeRedirect_sent (redirectInfo : RedirectInfo) :
    (t.continueToBeforeRedirect setup redirectInfo Net.OK).sent =
      t.sent ++ [.onReceiveRedirect redirectInfo] := by
  unfold Turn.continueToBeforeRedirect
  rw [if_neg (by simp)]
  simp only [Turn.send, modifyCtx_sent, setPaused_sent]

theorem handleBeforeRequestRedirect_sent : ∃ redirectInfo,
    (t.handleBeforeRequestRedirect setup).sent = t.sent ++ [.onReceiveRedirect redirectInfo] := by
  refine ⟨t.resetLoader.createRedirectInfo setup t.r.redirectUrl 307, ?_⟩
  unfold Turn.handleBeforeRequestRedirect
  rw [continueToBeforeRedirect_sent, modifyCtx_sent, taintInitiator_sent]
  rfl

/-- A blocked request with a redirect resource is answered with the stub if it can be sent. -/
theorem refuse_sent_stub {env : ProxyEnv} (hmock : t.info.shouldMockRequest = true)
    (hpipe : env.dataPipeCreated = true) :
    (t.refuse setup env).sent = t.sent ++ [.onReceiveResponse (some t.info.mockDataUrl)] := by
  unfold Turn.refuse
  rw [if_neg (by simp [hmock]), if_neg (by simp [hpipe])]
  rfl

theorem refuse_sent_error {env : ProxyEnv} (hmock : t.info.shouldMockRequest = true)
    (hpipe : env.dataPipeCreated = false) (h : t.r.requestCompleted = false) :
    ∃ collapse, (t.refuse setup env).sent =
      t.sent ++ [.onComplete Net.ERR_INSUFFICIENT_RESOURCES collapse] := by
  unfold Turn.refuse
  rw [if_neg (by simp [hmock]), if_pos hpipe]
  exact onRequestError_sent setup t _ h

end Sent

/-- The client got the error or a stub if this is the one message that was sent. -/
theorem refused_of_sent {t' : Turn} {message : Message} (h : t'.sent = t.sent ++ [message]) :
    t.Refused t' ↔ (∃ collapse, message = .onComplete Net.ERR_BLOCKED_BY_CLIENT collapse) ∨
      ∃ mockDataUrl, message = .onReceiveResponse (some mockDataUrl) := by
  constructor
  · rintro ⟨other, hother, hcase⟩
    obtain rfl : message = other := by simpa using h.symm.trans hother
    exact hcase
  · exact fun hcase => ⟨message, h, hcase⟩

/-- What a blocked request comes to: the redirect that was written comes first, and then the stub if
there is a redirect resource. -/
theorem continueToBeforeSendHeaders_blocked (hblocked : t.info.blockedBy = .kAdBlocked)
    (hopen : t.r.requestCompleted = false) :
    ∃ t', t.continueToBeforeSendHeaders setup env targetFactoryBound
        (if t.info.mockDataUrl = "" then Net.ERR_BLOCKED_BY_CLIENT else Net.OK) = .ok t' ∧
      (t.Refused t' ↔ t.info.mockDataUrl = "" ∨
        (t.r.redirectUrl.isEmpty = true ∧ env.dataPipeCreated = true)) := by
  rw [continueToBeforeSendHeaders_eq]
  refine ⟨_, rfl, ?_⟩
  by_cases hmock : t.info.mockDataUrl = ""
  · rw [if_pos hmock, if_pos (by decide)]
    obtain ⟨collapse, hsent⟩ := onRequestError_sent setup t Net.ERR_BLOCKED_BY_CLIENT hopen
    rw [refused_of_sent hsent]
    exact ⟨fun _ => .inl hmock, fun _ => .inl ⟨collapse, rfl⟩⟩
  · rw [if_neg hmock, if_neg (by decide)]
    cases hredirect : t.r.redirectUrl.isEmpty with
    | false =>
      rw [if_pos rfl]
      obtain ⟨redirectInfo, hsent⟩ := handleBeforeRequestRedirect_sent setup t
      rw [refused_of_sent hsent]
      simp [hmock]
    | true =>
      let u := t.useNewReferrer.setPaused false
      have hu : u.info = t.info ∧ u.sent = t.sent ∧ u.r.requestCompleted = false := by
        simp [u, hopen]
      have hshould : u.info.shouldMockRequest = true := by
        rw [hu.1]
        exact BraveRequestInfo.shouldMockRequest_iff.mpr ⟨hblocked, hmock⟩
      rw [if_neg (by simp), if_pos (by simp [hblocked])]
      cases hpipe : env.dataPipeCreated with
      | false =>
        obtain ⟨collapse, hsent⟩ := refuse_sent_error setup u hshould hpipe hu.2.2
        rw [hu.2.1] at hsent
        rw [refused_of_sent hsent]
        simp [hmock]
      | true =>
        have hsent := refuse_sent_stub setup u hshould hpipe
        rw [hu.2.1] at hsent
        rw [refused_of_sent hsent]
        simp

/-- A blocked check runs the continuation with the verdict in the context, and with the rewritten
URL as the redirect. -/
theorem runCheck_eq (hasked : skipsAdBlock setup.features (t.reset.makeCTX setup env) = false)
    {decided : BraveRequestInfo}
    (hdecided : (onBeforeURLRequestAdBlockTP setup.lib setup.features engineWrapper resolution
      (t.askedInfo setup env)).1 = decided)
    (hblocked : decided.blockedBy = .kAdBlocked) :
    ∃ u : Turn, t.runCheck setup env targetFactoryBound engineWrapper resolution =
        u.continueToBeforeSendHeaders setup env targetFactoryBound
          (if decided.mockDataUrl = "" then Net.ERR_BLOCKED_BY_CLIENT else Net.OK) ∧
      u.sent = t.sent ∧ u.info = decided ∧ u.r.requestCompleted = false ∧
      u.r.redirectUrl = (decided.newUrl setup.lib).getD .empty := by
  let ctx := t.askedInfo setup env
  let a := t.reset.nextAddress setup
  let filter : Nat → FilterAnswer := fun _ =>
    ⟨onBeforeURLRequest_AdBlockTPPreWork setup.features (t.reset.makeCTX setup env), none⟩
  have hpending : filter 0 = ⟨Net.ERR_IO_PENDING, none⟩ := by
    simp only [filter, onBeforeURLRequest_AdBlockTPPreWork]
    rw [if_neg (by rw [hasked]; simp)]
  obtain ⟨t₁, hstart, hid, hsent, hctx, hredirect, hopen, hcell, hentry⟩ :=
    restartInternal_asked setup { env with beforeRequest := filter } targetFactoryBound hasked
      hpending
  replace hctx : t₁.r.ctx = some a := hctx
  replace hcell : t₁.handler.ctxs a = some { info := ctx, waiting := true } := hcell
  have hinfo : t₁.info = ctx := by simp [Turn.info, hctx, hcell]
  obtain ⟨_, _, _, hwrites⟩ := adBlockTPCheck_writes setup.lib engineWrapper
    (shouldCheckUncloaked setup.features ctx) resolution ctx
  replace hdecided : (onBeforeURLRequestAdBlockTP setup.lib setup.features engineWrapper resolution
    ctx).1 = decided := hdecided
  replace hwrites := hdecided.symm.trans hwrites
  have hdecide : ctx.decide (some decided.decision) = decided := by rw [hwrites]; rfl
  have hevent : decided.eventType = .kOnBeforeRequest := by rw [hwrites]; rfl
  have hresume : t₁.handler.resume setup.lib setup.filters filter a (some decided.decision) = _ :=
    RequestHandler.resume_end filter hcell rfl hentry
      (by show (ctx.decide _).pendingError = none; rw [hdecide, hwrites]; rfl) rfl
      (by show finishFilters _ (ctx.decide _) _ = _; rw [hdecide]
          exact finishFilters_blocked setup.lib hevent hblocked)
  obtain ⟨h, hresume, hposted, hcell'⟩ : ∃ h : RequestHandler BoundContinuation,
      t₁.handler.resume setup.lib setup.filters filter a (some decided.decision) =
        .ok (h, decided.newUrl setup.lib) ∧
      h.posted = t₁.handler.posted ++ [⟨⟨t.id, .beforeSendHeaders⟩,
        if decided.mockDataUrl = "" then Net.ERR_BLOCKED_BY_CLIENT else Net.OK, a⟩] ∧
      ∃ cell, h.ctxs a = some cell ∧ cell.info = decided :=
    ⟨_, hresume, rfl, _, RequestHandler.setCell_ctxs_self _ _ _, rfl⟩
  obtain ⟨cell, hcell', hcellInfo⟩ := hcell'
  let u : Turn := { t₁ with
    handler := { h with posted := h.posted.dropLast }
    r := writeRedirectUrl t₁.r (decided.newUrl setup.lib) }
  have hu : u.r.ctx = some a ∧ u.r.requestCompleted = false ∧
      u.r.redirectUrl = (decided.newUrl setup.lib).getD .empty := by
    simp only [u]
    cases decided.newUrl setup.lib with
    | none => exact ⟨hctx, hopen, hredirect⟩
    | some url => exact ⟨hctx, hopen, rfl⟩
  refine ⟨u, ?_, hsent, ?_, hu.2.1, hu.2.2⟩
  · simp only [runCheck, filter] at hstart hresume ⊢
    rw [hstart]
    simp only [hinfo, hdecided, hctx, Option.getD_some]
    rw [hresume]
    simp only [hposted, List.getLast?_concat]
    simp only [u, hposted]
    rfl
  · have hctxs : u.handler.ctxs a = some cell := hcell'
    simp [Turn.info, hu.1, hctxs, hcellInfo]

/-- A blocked request is refused exactly where there is no redirect resource, or its URL is not
rewritten and the stub can be sent; otherwise it is redirected to the rewritten URL, or fails for
want of a data pipe. -/
theorem runCheck_blocked (setup : ProxySetup) (env : ProxyEnv) (targetFactoryBound : Bool)
    (engineWrapper : AdBlockEngineWrapper) (resolution : HostResolution) (t : Turn)
    (hasked : skipsAdBlock setup.features (t.reset.makeCTX setup env) = false)
    (hblocked : (onBeforeURLRequestAdBlockTP setup.lib setup.features engineWrapper resolution
      (t.askedInfo setup env)).1.blockedBy = .kAdBlocked) :
    ∃ t', t.runCheck setup env targetFactoryBound engineWrapper resolution = .ok t' ∧
      (t.Refused t' ↔
        (lastAnswer setup.lib engineWrapper
          (shouldCheckUncloaked setup.features (t.askedInfo setup env)) resolution
          (t.askedInfo setup env)).redirect.value = "" ∨
        (rewrites setup.lib engineWrapper (t.askedInfo setup env) = false ∧
          env.dataPipeCreated = true)) := by
  let ctx := t.askedInfo setup env
  have hvalid : ctx.initiatorUrl.isValid = true := by
    by_contra hinvalid
    have hno := adBlockTPCheck_invalid setup.lib engineWrapper
      (shouldCheckUncloaked setup.features ctx) resolution ctx (by simpa using hinvalid)
    simp only [onBeforeURLRequestAdBlockTP] at hblocked
    rw [hno] at hblocked
    contradiction
  obtain ⟨u, hrun, hsent, hinfo, hopen, hredirect⟩ := runCheck_eq hasked rfl hblocked
  have hublocked : u.info.blockedBy = .kAdBlocked := by rw [hinfo]; exact hblocked
  obtain ⟨t', hnext, hrefused⟩ := continueToBeforeSendHeaders_blocked hublocked hopen
  refine ⟨t', ?_, ?_⟩
  · rw [hrun, ← hnext, hinfo]
  · obtain ⟨hmock, hspec⟩ := adBlockTPCheck_decided setup.lib engineWrapper
      (shouldCheckUncloaked setup.features ctx) resolution ctx hvalid rfl
    have hurl : u.info.requestUrl = ctx.requestUrl := by
      obtain ⟨_, _, _, hwrites⟩ := adBlockTPCheck_writes setup.lib engineWrapper
        (shouldCheckUncloaked setup.features ctx) resolution ctx
      rw [hinfo, onBeforeURLRequestAdBlockTP, hwrites]
    have hsame : t.Refused t' ↔ u.Refused t' := by simp only [Refused, hsent]
    rw [hsame, hrefused, hredirect, ← newUrl_isEmpty hurl (by rw [hinfo]; exact hspec), hinfo,
      ← hmock]
    rfl

/-- A request for a script with a parameter, at its first check. -/
def scriptTurn : Turn where
  id := 1
  handler := .init
  r := { request := {
    url := .https "example.com" "/ad.js?utm=1"
    resourceType := .kScript
    requestInitiator := some (.https "a.com" "/") } }

def scriptSetup : ProxySetup := .ofUrls .weakPtr [.https "example.com" "/ad.js"]

/-- Engines of which the additional one blocks everything, with a redirect resource, and removes the
parameters of URLs if `removes`. -/
def blockingEngines (removes : Bool) : AdBlockEngineWrapper where
  defaultEngine := MatchRules.engine ⟨fun _ => false, fun _ => false, fun _ => false⟩
    (fun _ => {}) (fun _ => {})
  additionalFiltersEngine := MatchRules.engine ⟨fun _ => false, fun _ => true, fun _ => false⟩
    (fun _ => ⟨true, "data:text/plain,stub"⟩) (fun _ => ⟨removes, "https://example.com/ad.js"⟩)

/-- Without a rewritten URL, the blocked script is answered with the stub. -/
theorem runCheck_blocked_stub : ∃ t', scriptTurn.runCheck scriptSetup {} true
      (blockingEngines false) (.failed Net.ERR_FAILED) = .ok t' ∧ scriptTurn.Refused t' := by
  obtain ⟨t', hrun, hrefused⟩ := runCheck_blocked scriptSetup {} true (blockingEngines false)
    (.failed Net.ERR_FAILED) scriptTurn (by decide) (by decide)
  exact ⟨t', hrun, hrefused.mpr (by decide)⟩

/-- With one, the blocked script is redirected to it. -/
theorem blocked_script_redirected :
    (onBeforeURLRequestAdBlockTP scriptSetup.lib scriptSetup.features (blockingEngines true)
      (.failed Net.ERR_FAILED) (scriptTurn.askedInfo scriptSetup {})).1.blockedBy = .kAdBlocked ∧
    ∃ t', scriptTurn.runCheck scriptSetup {} true (blockingEngines true)
        (.failed Net.ERR_FAILED) = .ok t' ∧
      t'.sent = [.onReceiveRedirect ⟨.https "example.com" "/ad.js", "GET", .empty⟩] ∧
      ¬scriptTurn.Refused t' := by
  refine ⟨by decide, ?_⟩
  let message : Message := .onReceiveRedirect ⟨.https "example.com" "/ad.js", "GET", .empty⟩
  obtain ⟨t', hrun, hsent⟩ := EventMachine.exists_of_okAnd (e := scriptTurn.runCheck scriptSetup {}
    true (blockingEngines true) (.failed Net.ERR_FAILED)) (p := fun t' => t'.sent == [message])
    (by decide)
  replace hsent : t'.sent = scriptTurn.sent ++ [message] := eq_of_beq hsent
  exact ⟨t', hrun, hsent, by rw [refused_of_sent hsent]; simp [message]⟩

end Turn

end ChromiumAdblock
