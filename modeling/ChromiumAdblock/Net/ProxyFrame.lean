import ChromiumAdblock.Net.ProxyingLoader

/-! What the turns of the proxy leave alone.  A turn of a request changes the request handler only
under the identifier of that request, so what holds of another request stays true; and the state of
the proxy stays well formed. -/

namespace ChromiumAdblock

namespace RequestHandler

/-- A handler whose identifiers are at most `last`, and whose callbacks are entered under the
request that they are bound to. -/
structure Bounded (last : Nat) (h : RequestHandler BoundContinuation) : Prop where
  fresh : ∀ a, h.nextCtx ≤ a → h.ctxs a = none
  cells : ∀ a cell, h.ctxs a = some cell → cell.info.requestIdentifier ≤ last
  entries : ∀ id k, h.callbacks id = some (some k) → k.requestId = id
  unknown : ∀ id, last < id → h.callbacks id = none
  posted : ∀ p ∈ h.posted, p.callback.requestId ≤ last

/-- Changes of the handler under one identifier. -/
inductive Touches (id : Nat) :
    RequestHandler BoundContinuation → RequestHandler BoundContinuation → Prop
  | refl (h : RequestHandler BoundContinuation) : Touches id h h
  | trans {h₁ h₂ h₃ : RequestHandler BoundContinuation} (first : Touches id h₁ h₂)
      (second : Touches id h₂ h₃) : Touches id h₁ h₃
  | newCtx (h : RequestHandler BoundContinuation) {info : BraveRequestInfo}
      (hid : info.requestIdentifier = id) : Touches id h (h.newCtx info)
  | setCell {h : RequestHandler BoundContinuation} {a : Nat} {cell cell' : Cell}
      (hcell : h.ctxs a = some cell) (hid : cell.info.requestIdentifier = id)
      (hid' : cell'.info.requestIdentifier = id) : Touches id h (h.setCell a cell')
  | setEntry (h : RequestHandler BoundContinuation) {entry : Option (Option BoundContinuation)}
      (hentry : ∀ k, entry = some (some k) → k.requestId = id) :
      Touches id h (h.setEntry id entry)
  | post (h : RequestHandler BoundContinuation) {p : Completion BoundContinuation}
      (hp : p.callback.requestId = id) : Touches id h (h.post p)

/-- What a handler holds for one request stays the same. -/
structure SameFor (id : Nat) (h h' : RequestHandler BoundContinuation) : Prop where
  callbacks : h'.callbacks id = h.callbacks id
  ctxs : ∀ a cell, cell.info.requestIdentifier = id →
    (h'.ctxs a = some cell ↔ h.ctxs a = some cell)
  posted : h'.posted.filter (·.callback.requestId == id) =
    h.posted.filter (·.callback.requestId == id)

namespace SameFor

theorem refl (id : Nat) (h : RequestHandler BoundContinuation) : SameFor id h h :=
  ⟨rfl, fun _ _ _ => Iff.rfl, rfl⟩

theorem trans {id : Nat} {h₁ h₂ h₃ : RequestHandler BoundContinuation} (first : SameFor id h₁ h₂)
    (second : SameFor id h₂ h₃) : SameFor id h₁ h₃ where
  callbacks := second.callbacks.trans first.callbacks
  ctxs a cell hid := (second.ctxs a cell hid).trans (first.ctxs a cell hid)
  posted := second.posted.trans first.posted

end SameFor

namespace Touches

variable {id : Nat} {h h' : RequestHandler BoundContinuation}

/-- Changes under one identifier keep the handler well formed, and every other request's part. -/
theorem spec {last : Nat} (ht : Touches id h h') (hid : id ≤ last) (hb : h.Bounded last) :
    h'.Bounded last ∧ ∀ other, other ≠ id → SameFor other h h' := by
  induction ht with
  | refl h => exact ⟨hb, fun other _ => .refl other h⟩
  | trans _ _ ih₁ ih₂ =>
    obtain ⟨hb₂, hsame₁⟩ := ih₁ hb
    obtain ⟨hb₃, hsame₂⟩ := ih₂ hb₂
    exact ⟨hb₃, fun other hne => (hsame₁ other hne).trans (hsame₂ other hne)⟩
  | @newCtx h info hinfo =>
    have hfree := hb.fresh h.nextCtx (Nat.le_refl _)
    refine ⟨⟨fun a ha => ?_, fun a cell hcell => ?_, hb.entries, hb.unknown, hb.posted⟩,
      fun other hne => ⟨rfl, fun a cell hother => ?_, rfl⟩⟩
    · have hlt : h.nextCtx + 1 ≤ a := ha
      rw [newCtx_ctxs_of_ne _ _ _ (by omega)]
      exact hb.fresh a (by omega)
    · by_cases ha : a = h.nextCtx
      · subst ha
        obtain rfl : { info := info } = cell := by simpa using hcell
        exact hinfo ▸ hid
      · exact hb.cells a cell (by rwa [newCtx_ctxs_of_ne _ _ _ ha] at hcell)
    · by_cases ha : a = h.nextCtx
      · subst ha
        simp only [newCtx_ctxs_self, hfree, reduceCtorEq, iff_false]
        rintro ⟨⟩
        exact hne (hother.symm.trans hinfo)
      · rw [newCtx_ctxs_of_ne _ _ _ ha]
  | @setCell h a cell cell' hcell hold hnew =>
    refine ⟨⟨fun b hba => ?_, fun b c hc => ?_, hb.entries, hb.unknown, hb.posted⟩,
      fun other hne => ⟨rfl, fun b c hother => ?_, rfl⟩⟩
    · have hne : b ≠ a := by
        rintro rfl
        simp [hb.fresh b hba] at hcell
      rw [setCell_ctxs_of_ne _ _ _ _ hne]
      exact hb.fresh b hba
    · rcases setCell_cases _ _ _ _ hc with ⟨-, rfl⟩ | ⟨-, hkept⟩
      · exact hnew ▸ hid
      · exact hb.cells b c hkept
    · by_cases hba : b = a
      · subst hba
        have hold' : cell ≠ c := by
          rintro rfl
          exact hne (hother.symm.trans hold)
        have hnew' : cell' ≠ c := by
          rintro rfl
          exact hne (hother.symm.trans hnew)
        simp [hcell, hold', hnew']
      · rw [setCell_ctxs_of_ne _ _ _ _ hba]
  | @setEntry h entry hentry =>
    refine ⟨⟨hb.fresh, hb.cells, fun i k hk => ?_, fun i hi => ?_, hb.posted⟩,
      fun other hne => ⟨setEntry_callbacks_of_ne _ _ hne, fun _ _ _ => Iff.rfl, rfl⟩⟩
    · by_cases hi : i = id
      · subst hi
        exact hentry k (by simpa using hk)
      · exact hb.entries i k (by rwa [setEntry_callbacks_of_ne _ _ hi] at hk)
    · rw [setEntry_callbacks_of_ne _ _ (by omega)]
      exact hb.unknown i hi
  | @post h p hp =>
    refine ⟨⟨hb.fresh, hb.cells, hb.entries, hb.unknown, fun q hq => ?_⟩,
      fun other hne => ⟨rfl, fun _ _ _ => Iff.rfl, ?_⟩⟩
    · rcases List.mem_append.mp hq with hold | hlast
      · exact hb.posted q hold
      · obtain rfl := List.mem_singleton.mp hlast
        exact hp ▸ hid
    · have hpo : (p.callback.requestId == other) = false := by simp [hp, Ne.symm hne]
      simp [List.filter_append, hpo]

/-- A context under the identifier stays there, under the identifier. -/
theorem owned {last : Nat} (ht : Touches id h h') (hid : id ≤ last) (hb : h.Bounded last) {a : Nat}
    {cell : Cell} (hcell : h.ctxs a = some cell) (hcellId : cell.info.requestIdentifier = id) :
    ∃ cell', h'.ctxs a = some cell' ∧ cell'.info.requestIdentifier = id := by
  induction ht generalizing cell with
  | refl h => exact ⟨cell, hcell, hcellId⟩
  | trans first _ ih₁ ih₂ =>
    obtain ⟨cell₂, hcell₂, hid₂⟩ := ih₁ hb hcell hcellId
    exact ih₂ (first.spec hid hb).1 hcell₂ hid₂
  | newCtx h hinfo =>
    have hne : a ≠ h.nextCtx := by
      rintro rfl
      simp [hb.fresh h.nextCtx (Nat.le_refl _)] at hcell
    exact ⟨cell, by rwa [newCtx_ctxs_of_ne _ _ _ hne], hcellId⟩
  | @setCell h b old new hold _ hnew =>
    by_cases hab : a = b
    · exact ⟨new, by simp [hab], hnew⟩
    · exact ⟨cell, by rwa [setCell_ctxs_of_ne _ _ _ _ hab], hcellId⟩
  | setEntry h hentry => exact ⟨cell, hcell, hcellId⟩
  | post h hp => exact ⟨cell, hcell, hcellId⟩

theorem killCtx {a : Nat} {cell : Cell} (hcell : h.ctxs a = some cell)
    (hid : cell.info.requestIdentifier = id) : Touches id h (h.killCtx a) := by
  simp only [RequestHandler.killCtx, hcell]
  exact .setCell hcell hid hid

theorem onURLRequestDestroyed {a : Nat} {cell : Cell} (hcell : h.ctxs a = some cell)
    (hid : cell.info.requestIdentifier = id) : Touches id h (h.onURLRequestDestroyed a) := by
  rw [onURLRequestDestroyed_eq h a cell hcell, hid]
  exact .setEntry h (by simp)

theorem completed {a : Nat} {cell : Cell} {info : BraveRequestInfo} {rv : Int}
    {callback : BoundContinuation} (hcell : h.ctxs a = some cell)
    (hid : cell.info.requestIdentifier = id) (hinfo : info.requestIdentifier = id)
    (hcallback : callback.requestId = id) : Touches id h (h.completed a cell info rv callback) := by
  rw [RequestHandler.completed, hinfo]
  refine .trans (.setCell hcell hid hinfo) (.trans (.setEntry _ (by simp)) (.post _ hcallback))

theorem replyOK {a : Nat} {cell : Cell} (hcell : h.ctxs a = some cell)
    (hid : cell.info.requestIdentifier = id) : Touches id h (h.replyOK a).handler := by
  simp only [RequestHandler.replyOK, hcell]
  exact .setCell hcell hid hid

variable {lib : UrlLibrary} {filters : FilterLists} {answers : Nat → FilterAnswer}

theorem startPhase {eventType : BraveNetworkDelegateEventType} {a : Nat} {cell : Cell}
    {callback : BoundContinuation} {reply : Reply BoundContinuation}
    (hstart : RequestHandler.startPhase lib filters answers eventType h a cell callback = .ok reply)
    (hcell : h.ctxs a = some cell) (halive : cell.alive = true)
    (hid : cell.info.requestIdentifier = id) (hcallback : callback.requestId = id) :
    Touches id h reply.handler := by
  obtain ⟨-, progress, hadvance, hcase⟩ := startPhase_cases halive hstart
  have hsame := advance_same hadvance
  have hinfo : progress.info.requestIdentifier = id := hsame.requestIdentifier.trans hid
  have hentered : Touches id h (h.entered a cell eventType callback) := by
    rw [RequestHandler.entered, hid]
    have hset : Touches id h
        (h.setCell a { cell with info := { cell.info with eventType := eventType } }) :=
      .setCell hcell hid hid
    refine hset.trans (.setEntry _ fun k hk => ?_)
    obtain rfl : callback = k := by simpa using hk
    exact hcallback
  have hcell' : (h.entered a cell eventType callback).ctxs a =
      some { cell with info := { cell.info with eventType := eventType } } :=
    setCell_ctxs_self _ _ _
  refine hentered.trans ?_
  cases progress with
  | pending info =>
    rw [hcase.2]
    exact .setCell hcell' hid hinfo
  | complete info rv newUrl =>
    rw [hcase.2]
    exact .completed hcell' hid hinfo hcallback

/-- A filter that resumes touches the handler under the identifier of its context. -/
theorem resume {last a : Nat} {cell : Cell} {decision : Option Decision} {newUrl : Option GURL}
    (hb : h.Bounded last) (hcell : h.ctxs a = some cell)
    (hresume : h.resume lib filters answers a decision = .ok (h', newUrl)) :
    Touches cell.info.requestIdentifier h h' := by
  simp only [RequestHandler.resume, hcell] at hresume
  generalize hinfo : (if cell.alive = true then cell.info.decide decision else cell.info) = info
    at hresume
  have hid : info.requestIdentifier = cell.info.requestIdentifier := by
    rw [← hinfo]
    split
    · exact (SameRequest.decide cell.info decision).requestIdentifier
    · rfl
  have hset : Touches cell.info.requestIdentifier h
      (h.setCell a { cell with info := info, waiting := false }) := .setCell hcell rfl hid
  refine hset.trans ?_
  rcases runNextCallback_cases hresume with ⟨rfl, -, -⟩ | ⟨c, progress, hc, -, -, hadvance, hcase⟩
  · exact .refl _
  · obtain rfl : { cell with info := info, waiting := false } = c := by simpa using hc
    have hsame := (advance_same hadvance).requestIdentifier.trans hid
    cases progress with
    | pending info' =>
      rw [hcase.1]
      exact .setCell hc hid hsame
    | complete info' rv url =>
      obtain ⟨-, callback, hcallback, rfl⟩ := hcase
      refine .completed hc hid hsame ?_
      exact (hb.entries _ _ (by simpa using hcallback)).trans hid

end Touches

end RequestHandler

namespace Turn

/-- The request after `OnBeforeStartTransaction`, for which there are no filters. -/
def passTransaction (setup : ProxySetup) (env : ProxyEnv) (t : Turn) : Turn :=
  if t.r.request.url.schemeIsHTTPOrHTTPS then
    let t := t.createBraveRequestInfo setup env
    { t with handler := (t.handler.replyOK (t.r.ctx.getD 0)).handler }
  else t

theorem continueToBeforeSendHeaders_eq (setup : ProxySetup) (env : ProxyEnv)
    (targetFactoryBound : Bool) (errorCode : Int) (t : Turn) :
    t.continueToBeforeSendHeaders setup env targetFactoryBound errorCode =
      .ok (if errorCode ≠ Net.OK then t.onRequestError setup errorCode
        else if t.r.redirectUrl.isEmpty = false then t.handleBeforeRequestRedirect setup
        else if (t.useNewReferrer.setPaused false).info.blockedBy ≠ .kNotBlocked then
          (t.useNewReferrer.setPaused false).refuse setup env
        else ((t.useNewReferrer.setPaused false).passTransaction setup env).continueToSendHeaders
          setup targetFactoryBound Net.OK) := by
  unfold continueToBeforeSendHeaders
  split
  · rfl
  · split
    · rfl
    · dsimp only
      split
      · rfl
      · unfold passTransaction
        split
        · rw [RequestHandler.onBeforeStartTransaction_none rfl]
          simp only [RequestHandler.replyOK_result]
          rw [if_neg (by decide), if_neg (by decide)]
        · rfl

section SetPaused

variable (t : Turn) (paused : Bool)

@[simp] theorem setPaused_id : (t.setPaused paused).id = t.id := by
  unfold Turn.setPaused; split <;> rfl
@[simp] theorem setPaused_info : (t.setPaused paused).info = t.info := by
  unfold Turn.setPaused; split <;> rfl
@[simp] theorem setPaused_handler : (t.setPaused paused).handler = t.handler := by
  unfold Turn.setPaused; split <;> rfl
@[simp] theorem setPaused_sent : (t.setPaused paused).sent = t.sent := by
  unfold Turn.setPaused; split <;> rfl
@[simp] theorem setPaused_ctx : (t.setPaused paused).r.ctx = t.r.ctx := by
  unfold Turn.setPaused; split <;> rfl
@[simp] theorem setPaused_checkedCtx : (t.setPaused paused).r.checkedCtx = t.r.checkedCtx := by
  unfold Turn.setPaused; split <;> rfl
@[simp] theorem setPaused_requestCompleted :
    (t.setPaused paused).r.requestCompleted = t.r.requestCompleted := by
  unfold Turn.setPaused; split <;> rfl
@[simp] theorem setPaused_redirectUrl : (t.setPaused paused).r.redirectUrl = t.r.redirectUrl := by
  unfold Turn.setPaused; split <;> rfl
@[simp] theorem setPaused_request : (t.setPaused paused).r.request = t.r.request := by
  unfold Turn.setPaused; split <;> rfl

theorem setPaused_unheard (h : (t.setPaused true).r.clientReceiverBound = true) :
    (t.setPaused true).r.clientReceiverPaused = true := by
  unfold Turn.setPaused at h ⊢
  split
  · rfl
  · rename_i hunbound
    rw [if_neg hunbound] at h
    contradiction

end SetPaused

@[simp] theorem useNewReferrer_info (t : Turn) : t.useNewReferrer.info = t.info := by
  unfold Turn.useNewReferrer; split <;> rfl

section Phases

variable {setup : ProxySetup} {env : ProxyEnv} {targetFactoryBound : Bool} {t t' : Turn}

/-- The address of the context that a request gets next. -/
def nextAddress (setup : ProxySetup) (t : Turn) : Nat := (t.releaseCtx setup).nextCtx

variable (setup env t) in
theorem createBraveRequestInfo_cell :
    (t.createBraveRequestInfo setup env).handler.ctxs (t.nextAddress setup) =
      some { info := t.makeCTX setup env } := RequestHandler.newCtx_ctxs_self _ _

/-- The request when a check of it begins, before it gets the context. -/
def reset (t : Turn) : Turn :=
  { t with r := { t.r with requestCompleted := false, redirectUrl := .empty } }

variable (setup env t) in
theorem beginCheck_cell :
    (t.beginCheck setup env).handler.ctxs (t.reset.nextAddress setup) =
      some { info := t.reset.makeCTX setup env } := RequestHandler.newCtx_ctxs_self _ _

/-- A check that was begun is put to the filters, or passes at once for an internal URL. -/
theorem restartInternal_cases (hrun : t.restartInternal setup env targetFactoryBound = .ok t') :
    (∃ reply, RequestHandler.startPhase setup.lib setup.filters env.beforeRequest .kOnBeforeRequest
        (t.beginCheck setup env).handler (t.reset.nextAddress setup)
        { info := t.reset.makeCTX setup env } ⟨t.id, .beforeSendHeaders⟩ = .ok reply ∧
      t' = ((t.beginCheck setup env).withReply reply).setPaused true) ∨
    (isInternalScheme t.r.request.url = true ∧
      ((t.beginCheck setup env).withReply ((t.beginCheck setup env).handler.replyOK
        (t.reset.nextAddress setup))).continueToBeforeSendHeaders setup env targetFactoryBound
          Net.OK = .ok t') := by
  have hcell := beginCheck_cell setup env t
  have hctx : (t.beginCheck setup env).r.ctx.getD 0 = t.reset.nextAddress setup := rfl
  simp only [restartInternal, hctx] at hrun
  cases hscheme : isInternalScheme t.r.request.url with
  | false =>
    rw [RequestHandler.onBeforeURLRequest_live _ hcell rfl (by simp [ProxySetup.filters,
      setupCallbacks]) hscheme] at hrun
    split at hrun
    · contradiction
    · rename_i reply hstart
      rw [(RequestHandler.startPhase_cases rfl hstart).1, if_neg (by decide), if_pos rfl] at hrun
      exact .inl ⟨reply, hstart, (Except.ok.inj hrun).symm⟩
  | true =>
    rw [RequestHandler.onBeforeURLRequest_internal _ hcell hscheme] at hrun
    simp only [RequestHandler.replyOK_result] at hrun
    rw [if_neg (by decide), if_neg (by decide)] at hrun
    exact .inr ⟨rfl, hrun⟩

/-- The phase of response headers is put to the filters, or passes at once. -/
theorem handleResponseOrRedirectHeaders_cases {continuation : Continuation}
    (hrun : t.handleResponseOrRedirectHeaders setup env targetFactoryBound continuation = .ok t') :
    let u := t.beginHeaders.createBraveRequestInfo setup env
    let a := t.beginHeaders.nextAddress setup
    t.beginHeaders.runContinuation setup env targetFactoryBound continuation Net.OK = .ok t' ∨
    (∃ reply, RequestHandler.startPhase setup.lib setup.filters env.headersReceived
        .kOnHeadersReceived u.handler a { info := t.beginHeaders.makeCTX setup env }
        ⟨t.id, continuation⟩ = .ok reply ∧
      t' = ({ u with handler := reply.handler }.withOverrideHeaders env.overrideHeaders).setPaused
        true) ∨
    { u with handler := (u.handler.replyOK a).handler }.runContinuation setup env targetFactoryBound
      continuation Net.OK = .ok t' := by
  have hcell := createBraveRequestInfo_cell setup env t.beginHeaders
  have hctx : (t.beginHeaders.createBraveRequestInfo setup env).r.ctx.getD 0 =
      t.beginHeaders.nextAddress setup := rfl
  simp only [handleResponseOrRedirectHeaders, hctx] at hrun
  split at hrun
  · split at hrun
    · contradiction
    · rename_i reply hreply
      rcases RequestHandler.onHeadersReceived_cases hreply with rfl | ⟨cell, hc, halive, hstart⟩
      · simp only [RequestHandler.replyOK_result] at hrun
        rw [if_neg (by decide), if_neg (by decide)] at hrun
        exact .inr (.inr hrun)
      · obtain rfl : { info := t.beginHeaders.makeCTX setup env } = cell :=
          Option.some.inj (hcell.symm.trans hc)
        rw [(RequestHandler.startPhase_cases rfl hstart).1, if_neg (by decide), if_pos rfl] at hrun
        exact .inr (.inl ⟨reply, hstart, (Except.ok.inj hrun).symm⟩)
  · exact .inl hrun

end Phases

/-- A turn whose handler is well formed, whose request owns a context under its own identifier, and
whose two ends towards the network are bound together. -/
structure Sound (last : Nat) (t : Turn) : Prop where
  bounded : t.handler.Bounded last
  inRange : t.id ≤ last
  owned : ∀ a, t.r.ctx = some a →
    ∃ cell, t.handler.ctxs a = some cell ∧ cell.info.requestIdentifier = t.id
  bound : t.r.clientReceiverBound = t.r.targetLoaderBound

/-- A turn stays sound, and changes the handler under its own identifier only. -/
structure Keeps (last : Nat) (t t' : Turn) : Prop where
  sound : t'.Sound last
  id_eq : t'.id = t.id
  touches : RequestHandler.Touches t.id t.handler t'.handler

namespace Keeps

variable {last : Nat} {t t' t'' : Turn}

theorem refl (ht : t.Sound last) : Keeps last t t := ⟨ht, rfl, .refl _⟩

theorem trans (first : Keeps last t t') (second : Keeps last t' t'') : Keeps last t t'' where
  sound := second.sound
  id_eq := second.id_eq.trans first.id_eq
  touches := first.touches.trans (first.id_eq ▸ second.touches)

/-- The request changes where it keeps its context, and both ends stay bound together. -/
theorem request (ht : t.Sound last) {r : InProgressRequest} (sent : List Message)
    (destroyed : Bool) (hctx : r.ctx = t.r.ctx)
    (hbound : r.clientReceiverBound = r.targetLoaderBound) :
    Keeps last t { t with r := r, sent := sent, destroyed := destroyed } where
  sound := ⟨ht.bounded, ht.inRange, fun a ha => ht.owned a (hctx ▸ ha), hbound⟩
  id_eq := rfl
  touches := .refl _

/-- The handler changes under the identifier of the request, which keeps its context. -/
theorem ofTouches (ht : t.Sound last) {h : RequestHandler BoundContinuation}
    (htouches : RequestHandler.Touches t.id t.handler h) :
    Keeps last t { t with handler := h } where
  sound := {
    bounded := (htouches.spec ht.inRange ht.bounded).1
    inRange := ht.inRange
    owned := fun a ha => by
      obtain ⟨cell, hcell, hid⟩ := ht.owned a ha
      exact htouches.owned ht.inRange ht.bounded hcell hid
    bound := ht.bound }
  id_eq := rfl
  touches := htouches

theorem send (ht : t.Sound last) (message : Message) : Keeps last t (t.send message) :=
  request ht (t.sent ++ [message]) t.destroyed rfl ht.bound

theorem setPaused (ht : t.Sound last) (paused : Bool) : Keeps last t (t.setPaused paused) := by
  unfold Turn.setPaused
  split
  · exact request ht t.sent t.destroyed rfl ht.bound
  · exact refl ht

theorem resetLoader (ht : t.Sound last) : Keeps last t t.resetLoader :=
  request ht t.sent t.destroyed rfl rfl

theorem modifyCtx (ht : t.Sound last) {f : BraveRequestInfo → BraveRequestInfo}
    (hf : ∀ info, (f info).requestIdentifier = info.requestIdentifier) :
    Keeps last t (t.modifyCtx f) := by
  unfold Turn.modifyCtx
  split
  · exact refl ht
  · rename_i a ha
    obtain ⟨cell, hcell, hid⟩ := ht.owned a ha
    simp only [hcell]
    exact ofTouches ht (.setCell hcell hid ((hf cell.info).trans hid))

theorem destroy (setup : ProxySetup) (ht : t.Sound last) : Keeps last t (t.destroy setup) := by
  unfold Turn.destroy
  split
  · exact request ht t.sent true rfl ht.bound
  · rename_i a ha
    obtain ⟨cell, hcell, hid⟩ := ht.owned a ha
    have herased : RequestHandler.Touches t.id t.handler (t.handler.onURLRequestDestroyed a) :=
      .onURLRequestDestroyed hcell hid
    have hcell' : (t.handler.onURLRequestDestroyed a).ctxs a = some cell := by simpa using hcell
    split
    · have hkilled := ofTouches ht (herased.trans (.killCtx hcell' hid))
      exact hkilled.trans (request hkilled.sound t.sent true rfl hkilled.sound.bound)
    · have hkept := ofTouches ht herased
      exact hkept.trans (request hkept.sound t.sent true rfl hkept.sound.bound)

theorem onRequestError (setup : ProxySetup) (ht : t.Sound last) (errorCode : Int) :
    Keeps last t (t.onRequestError setup errorCode) := by
  unfold Turn.onRequestError
  dsimp only
  split
  · exact destroy setup ht
  · have hsent := send ht (.onComplete errorCode
      (setup.features.kBraveAdblockCollapseBlockedElements && t.info.blockedBy == .kAdBlocked))
    exact hsent.trans (destroy setup hsent.sound)

theorem releaseCtx_touches (setup : ProxySetup) (ht : t.Sound last) :
    RequestHandler.Touches t.id t.handler (t.releaseCtx setup) := by
  unfold Turn.releaseCtx RequestHandler.releaseCtx
  split
  · rename_i a _ ha
    obtain ⟨cell, hcell, hid⟩ := ht.owned a ha
    exact (RequestHandler.Touches.onURLRequestDestroyed hcell hid).trans
      (.killCtx (by simpa using hcell) hid)
  · exact .refl _

/-- A request gets a new context, after it let go of the one it had. -/
theorem createBraveRequestInfo (setup : ProxySetup) (env : ProxyEnv) (ht : t.Sound last) :
    Keeps last t (t.createBraveRequestInfo setup env) := by
  have hnew : RequestHandler.Touches t.id t.handler
      ((t.releaseCtx setup).newCtx (t.makeCTX setup env)) :=
    (releaseCtx_touches setup ht).trans (.newCtx _ rfl)
  refine ⟨⟨(hnew.spec ht.inRange ht.bounded).1, ht.inRange, fun a ha => ?_, ht.bound⟩, rfl, hnew⟩
  obtain rfl : (t.releaseCtx setup).nextCtx = a := Option.some.inj ha
  exact ⟨_, RequestHandler.newCtx_ctxs_self _ _, rfl⟩

theorem continueToBeforeRedirect (setup : ProxySetup) (redirectInfo : RedirectInfo)
    (errorCode : Int) (ht : t.Sound last) :
    Keeps last t (t.continueToBeforeRedirect setup redirectInfo errorCode) := by
  unfold Turn.continueToBeforeRedirect
  split
  · exact onRequestError setup ht errorCode
  · have hresumed := setPaused ht false
    have hmodified := hresumed.trans (modifyCtx hresumed.sound (f := fun ctx => { ctx with
      redirectSource := if ctx.internalRedirect then .empty else
        (t.setPaused false).r.request.url }) fun _ => rfl)
    have hsent := hmodified.trans (send hmodified.sound (.onReceiveRedirect redirectInfo))
    exact hsent.trans (request hsent.sound _ _ rfl hsent.sound.bound)

theorem taintInitiator (setup : ProxySetup) (ht : t.Sound last) :
    Keeps last t (t.taintInitiator setup) := by
  unfold Turn.taintInitiator
  split
  · split
    · exact request ht _ _ rfl ht.bound
    · exact refl ht
  · exact refl ht

theorem handleBeforeRequestRedirect (setup : ProxySetup) (ht : t.Sound last) :
    Keeps last t (t.handleBeforeRequestRedirect setup) := by
  have hreset := resetLoader ht
  have htainted := hreset.trans (taintInitiator setup hreset.sound)
  have hinternal := htainted.trans (modifyCtx htainted.sound
    (f := fun ctx => { ctx with internalRedirect := true }) fun _ => rfl)
  exact hinternal.trans (continueToBeforeRedirect setup _ Net.OK hinternal.sound)

theorem continueToStartRequest (setup : ProxySetup) (targetFactoryBound : Bool) (errorCode : Int)
    (ht : t.Sound last) :
    Keeps last t (t.continueToStartRequest setup targetFactoryBound errorCode) := by
  unfold Turn.continueToStartRequest
  split
  · exact onRequestError setup ht errorCode
  · have hresumed := setPaused ht false
    dsimp only
    split
    · exact hresumed.trans (request hresumed.sound _ _ rfl rfl)
    · exact hresumed

theorem sendFollowRedirect (ht : t.Sound last) : Keeps last t t.sendFollowRedirect := by
  unfold Turn.sendFollowRedirect
  split
  · exact refl ht
  · rename_i params _
    dsimp only
    split
    · have hsent := send ht (.followRedirect t.leg params.newUrl)
      exact hsent.trans (request hsent.sound _ _ rfl hsent.sound.bound)
    · exact request ht _ _ rfl ht.bound

theorem continueToSendHeaders (setup : ProxySetup) (targetFactoryBound : Bool) (errorCode : Int)
    (ht : t.Sound last) :
    Keeps last t (t.continueToSendHeaders setup targetFactoryBound errorCode) := by
  unfold Turn.continueToSendHeaders
  split
  · exact onRequestError setup ht errorCode
  · have hfollowed := sendFollowRedirect ht
    have hresumed := hfollowed.trans (setPaused hfollowed.sound false)
    exact hresumed.trans (continueToStartRequest setup targetFactoryBound Net.OK hresumed.sound)

theorem useNewReferrer (ht : t.Sound last) : Keeps last t t.useNewReferrer := by
  unfold Turn.useNewReferrer
  split
  · exact request ht _ _ rfl ht.bound
  · exact refl ht

theorem refuse (setup : ProxySetup) (env : ProxyEnv) (ht : t.Sound last) :
    Keeps last t (t.refuse setup env) := by
  unfold Turn.refuse
  split
  · exact onRequestError setup ht _
  · split
    · exact onRequestError setup ht _
    · have hsent := send ht (.onReceiveResponse (some t.info.mockDataUrl))
      exact hsent.trans (request hsent.sound _ _ rfl hsent.sound.bound)

theorem passTransaction (setup : ProxySetup) (env : ProxyEnv) (ht : t.Sound last) :
    Keeps last t (t.passTransaction setup env) := by
  unfold Turn.passTransaction
  split
  · have hnew := createBraveRequestInfo setup env ht
    obtain ⟨cell, hcell, hid⟩ := hnew.sound.owned _ rfl
    exact hnew.trans (ofTouches hnew.sound (.replyOK hcell hid))
  · exact refl ht

theorem continueToBeforeSendHeaders {setup : ProxySetup} {env : ProxyEnv}
    {targetFactoryBound : Bool} {errorCode : Int} (ht : t.Sound last)
    (hrun : t.continueToBeforeSendHeaders setup env targetFactoryBound errorCode = .ok t') :
    Keeps last t t' := by
  rw [continueToBeforeSendHeaders_eq] at hrun
  obtain rfl := Except.ok.inj hrun
  split
  · exact onRequestError setup ht errorCode
  · split
    · exact handleBeforeRequestRedirect setup ht
    · have hreferrer := useNewReferrer ht
      have hresumed := hreferrer.trans (setPaused hreferrer.sound false)
      split
      · exact hresumed.trans (refuse setup env hresumed.sound)
      · have hpassed := hresumed.trans (passTransaction setup env hresumed.sound)
        exact hpassed.trans (continueToSendHeaders setup _ _ hpassed.sound)

theorem continueToResponseStarted {setup : ProxySetup} {errorCode : Int} (ht : t.Sound last)
    (hrun : t.continueToResponseStarted setup errorCode = .ok t') : Keeps last t t' := by
  unfold Turn.continueToResponseStarted at hrun
  split at hrun
  · obtain rfl := Except.ok.inj hrun
    exact onRequestError setup ht errorCode
  · split at hrun
    · obtain rfl := Except.ok.inj hrun
      have hreset := resetLoader ht
      have hinternal := hreset.trans (modifyCtx hreset.sound
        (f := fun ctx => { ctx with internalRedirect := true }) fun _ => rfl)
      exact hinternal.trans (continueToBeforeRedirect setup _ Net.OK hinternal.sound)
    · split at hrun
      · contradiction
      · obtain rfl := Except.ok.inj hrun
        have hresumed := setPaused ht false
        exact hresumed.trans (send hresumed.sound _)

theorem runContinuation {setup : ProxySetup} {env : ProxyEnv} {targetFactoryBound : Bool}
    {continuation : Continuation} {errorCode : Int} (ht : t.Sound last)
    (hrun : t.runContinuation setup env targetFactoryBound continuation errorCode = .ok t') :
    Keeps last t t' := by
  cases continuation with
  | beforeSendHeaders => exact continueToBeforeSendHeaders ht hrun
  | sendHeaders =>
    obtain rfl := Except.ok.inj hrun
    exact continueToSendHeaders setup _ _ ht
  | responseStarted => exact continueToResponseStarted ht hrun
  | beforeRedirect redirectInfo =>
    obtain rfl := Except.ok.inj hrun
    exact continueToBeforeRedirect setup _ _ ht

theorem beginCheck (setup : ProxySetup) (env : ProxyEnv) (ht : t.Sound last) :
    Keeps last t (t.beginCheck setup env) := by
  have hreset := request ht (r := { t.r with requestCompleted := false, redirectUrl := .empty })
    t.sent t.destroyed rfl ht.bound
  have hnew := hreset.trans (createBraveRequestInfo setup env hreset.sound)
  exact hnew.trans (request hnew.sound _ _ rfl hnew.sound.bound)

theorem writeRedirectUrl (ht : t.Sound last) (newUrl : Option GURL) :
    Keeps last t { t with r := Turn.writeRedirectUrl t.r newUrl } := by
  cases newUrl
  · exact refl ht
  · exact request ht _ _ rfl ht.bound

theorem restartInternal {setup : ProxySetup} {env : ProxyEnv} {targetFactoryBound : Bool}
    (ht : t.Sound last) (hrun : t.restartInternal setup env targetFactoryBound = .ok t') :
    Keeps last t t' := by
  have hbegun := beginCheck setup env ht
  have hcell := beginCheck_cell setup env t
  rcases restartInternal_cases hrun with ⟨reply, hstart, rfl⟩ | ⟨-, hnext⟩
  · have hphase := hbegun.trans (ofTouches hbegun.sound (.startPhase hstart hcell rfl rfl rfl))
    have hwritten := hphase.trans (writeRedirectUrl hphase.sound reply.newUrl)
    exact hwritten.trans (setPaused hwritten.sound true)
  · have hphase := hbegun.trans (ofTouches hbegun.sound (.replyOK hcell rfl))
    have hwritten := hphase.trans (writeRedirectUrl hphase.sound
      ((t.beginCheck setup env).handler.replyOK ((t.beginCheck setup env).r.ctx.getD 0)).newUrl)
    exact hwritten.trans (continueToBeforeSendHeaders hwritten.sound hnext)

theorem followRedirect {setup : ProxySetup} {env : ProxyEnv} {targetFactoryBound : Bool}
    {newUrl : Option GURL} (ht : t.Sound last)
    (hrun : t.followRedirect setup env targetFactoryBound newUrl = .ok t') : Keeps last t t' := by
  have htaken : Keeps last t (t.takeFollowRedirect newUrl) := request ht _ _ rfl ht.bound
  exact htaken.trans (restartInternal htaken.sound hrun)

theorem withOverrideHeaders (ht : t.Sound last) (overrideHeaders : Option OverrideHeaders) :
    Keeps last t (t.withOverrideHeaders overrideHeaders) := request ht _ _ rfl ht.bound

theorem handleResponseOrRedirectHeaders {setup : ProxySetup} {env : ProxyEnv}
    {targetFactoryBound : Bool} {continuation : Continuation} (ht : t.Sound last)
    (hrun : t.handleResponseOrRedirectHeaders setup env targetFactoryBound continuation = .ok t') :
    Keeps last t t' := by
  have hbegun : Keeps last t t.beginHeaders := request ht _ _ rfl ht.bound
  have hnew := hbegun.trans (createBraveRequestInfo setup env hbegun.sound)
  have hcell := createBraveRequestInfo_cell setup env t.beginHeaders
  rcases handleResponseOrRedirectHeaders_cases hrun with hnext | ⟨reply, hstart, rfl⟩ | hnext
  · exact hbegun.trans (runContinuation hbegun.sound hnext)
  · have hphase := hnew.trans (ofTouches hnew.sound (.startPhase hstart hcell rfl rfl rfl))
    have hoverride := hphase.trans (withOverrideHeaders hphase.sound env.overrideHeaders)
    exact hoverride.trans (setPaused hoverride.sound true)
  · have hphase := hnew.trans (ofTouches hnew.sound (.replyOK hcell rfl))
    exact hphase.trans (runContinuation hphase.sound hnext)

theorem external (ht : t.Sound last) :
    Keeps last t (t.modifyCtx fun ctx => { ctx with internalRedirect := false }) :=
  modifyCtx ht fun _ => rfl

theorem onReceiveResponse {setup : ProxySetup} {env : ProxyEnv} {targetFactoryBound : Bool}
    (ht : t.Sound last) (hrun : t.onReceiveResponse setup env targetFactoryBound = .ok t') :
    Keeps last t t' := by
  have hexternal := external ht
  exact hexternal.trans (handleResponseOrRedirectHeaders hexternal.sound hrun)

theorem onReceiveRedirect {setup : ProxySetup} {env : ProxyEnv} {targetFactoryBound : Bool}
    {redirectInfo : RedirectInfo} (ht : t.Sound last)
    (hrun : t.onReceiveRedirect setup env targetFactoryBound redirectInfo = .ok t') :
    Keeps last t t' := by
  have hexternal := external ht
  exact hexternal.trans (handleResponseOrRedirectHeaders hexternal.sound hrun)

theorem onComplete (setup : ProxySetup) (errorCode : Int) (ht : t.Sound last) :
    Keeps last t (t.onComplete setup errorCode) := by
  unfold Turn.onComplete
  split
  · exact onRequestError setup ht errorCode
  · have hsent := send ht (.onComplete errorCode false)
    exact hsent.trans (destroy setup hsent.sound)

theorem onLoaderDisconnected (setup : ProxySetup) (followRedirectReason : Bool)
    (ht : t.Sound last) : Keeps last t (t.onLoaderDisconnected setup followRedirectReason) := by
  unfold Turn.onLoaderDisconnected
  split
  · exact destroy setup ht
  · exact onRequestError setup ht _

theorem onWrite (setup : ProxySetup) (written : Bool) (ht : t.Sound last) :
    Keeps last t (t.onWrite setup written) := by
  unfold Turn.onWrite
  have hwritten : Keeps last t { t with r := { t.r with stubWrites := t.r.stubWrites - 1 } } :=
    request ht _ _ rfl ht.bound
  split
  · exact hwritten
  · exact hwritten.trans (onComplete setup Net.OK hwritten.sound)

end Keeps

end Turn

namespace ProxyFactory

/-- A proxy whose handler is well formed, and whose requests own contexts under their identifiers
and have both ends towards the network bound together. -/
structure WellFormed (s : ProxyFactory) : Prop where
  bounded : s.handler.Bounded s.lastRequestId
  inRange : ∀ id r, s.requests id = some r → id ≤ s.lastRequestId
  owned : ∀ id r, s.requests id = some r → ∀ a, r.ctx = some a →
    ∃ cell, s.handler.ctxs a = some cell ∧ cell.info.requestIdentifier = id
  bound : ∀ id r, s.requests id = some r → r.clientReceiverBound = r.targetLoaderBound
  receivers : 0 < s.proxyReceivers → s.targetFactoryBound = true

/-- A property of a request and of what the handler holds for it. -/
structure LocalProperty where
  holds : Nat → RequestHandler BoundContinuation → InProgressRequest → Prop
  sameFor : ∀ {id h h' r}, RequestHandler.SameFor id h h' → holds id h r → holds id h' r

/-- The property of every request of the proxy but perhaps one. -/
def Others (P : LocalProperty) (id : Nat) (s : ProxyFactory) : Prop :=
  ∀ other r, other ≠ id → s.requests other = some r → P.holds other s.handler r

/-- The property of every request of the proxy. -/
def All (P : LocalProperty) (s : ProxyFactory) : Prop :=
  ∀ id r, s.requests id = some r → P.holds id s.handler r

variable {s s' : ProxyFactory} {P : LocalProperty}

theorem All.others (h : s.All P) (id : Nat) : s.Others P id := fun other r _ hr => h other r hr

theorem wellFormed_init : WellFormed init where
  bounded := by constructor <;> simp [init, RequestHandler.init]
  inRange := by simp [init]
  owned := by simp [init]
  bound := by simp [init]
  receivers := fun _ => rfl

@[simp] theorem maybeRemoveProxy_handler (s : ProxyFactory) :
    s.maybeRemoveProxy.handler = s.handler := by unfold maybeRemoveProxy; split <;> rfl
@[simp] theorem maybeRemoveProxy_requests (s : ProxyFactory) :
    s.maybeRemoveProxy.requests = s.requests := by unfold maybeRemoveProxy; split <;> rfl
@[simp] theorem maybeRemoveProxy_lastRequestId (s : ProxyFactory) :
    s.maybeRemoveProxy.lastRequestId = s.lastRequestId := by unfold maybeRemoveProxy; split <;> rfl
@[simp] theorem maybeRemoveProxy_proxyReceivers (s : ProxyFactory) :
    s.maybeRemoveProxy.proxyReceivers = s.proxyReceivers := by
  unfold maybeRemoveProxy; split <;> rfl
@[simp] theorem maybeRemoveProxy_targetFactoryBound (s : ProxyFactory) :
    s.maybeRemoveProxy.targetFactoryBound = s.targetFactoryBound := by
  unfold maybeRemoveProxy; split <;> rfl
@[simp] theorem maybeRemoveProxy_sent (s : ProxyFactory) :
    s.maybeRemoveProxy.sent = s.sent := by unfold maybeRemoveProxy; split <;> rfl

theorem WellFormed.maybeRemoveProxy (hs : s.WellFormed) : s.maybeRemoveProxy.WellFormed where
  bounded := by simpa using hs.bounded
  inRange := by simpa using hs.inRange
  owned := by simpa using hs.owned
  bound := by simpa using hs.bound
  receivers := by simpa using hs.receivers

section EndTurn

variable (s) (t : Turn)

@[simp] theorem endTurn_handler : (s.endTurn t).handler = t.handler := by
  unfold endTurn; dsimp only; split <;> simp
@[simp] theorem endTurn_lastRequestId : (s.endTurn t).lastRequestId = s.lastRequestId := by
  unfold endTurn; dsimp only; split <;> simp
@[simp] theorem endTurn_proxyReceivers : (s.endTurn t).proxyReceivers = s.proxyReceivers := by
  unfold endTurn; dsimp only; split <;> simp
@[simp] theorem endTurn_targetFactoryBound :
    (s.endTurn t).targetFactoryBound = s.targetFactoryBound := by
  unfold endTurn; dsimp only; split <;> simp
@[simp] theorem endTurn_sent : (s.endTurn t).sent = s.sent ++ t.sent.map (t.id, ·) := by
  unfold endTurn; dsimp only; split <;> simp
theorem endTurn_requests : (s.endTurn t).requests =
    Function.update s.requests t.id (if t.destroyed then none else some t.r) := by
  unfold endTurn; dsimp only; split <;> simp [*]

end EndTurn

theorem WellFormed.sound (hs : s.WellFormed) {id : Nat} {r : InProgressRequest}
    (hr : s.requests id = some r) :
    Turn.Sound s.lastRequestId { id := id, handler := s.handler, r := r } where
  bounded := hs.bounded
  inRange := hs.inRange id r hr
  owned := hs.owned id r hr
  bound := hs.bound id r hr

/-- After a turn that keeps sound, the proxy is well formed, and a local property holds of every
request if it held of the others before and holds of the request of the turn, if that is still
there. -/
theorem WellFormed.endTurn (hs : s.WellFormed) {id : Nat} {r : InProgressRequest} {t : Turn}
    (hr : s.requests id = some r)
    (hkeeps : Turn.Keeps s.lastRequestId { id := id, handler := s.handler, r := r } t) :
    (s.endTurn t).WellFormed ∧
      (s.Others P id → (t.destroyed = false → P.holds id t.handler t.r) →
        (s.endTurn t).All P) := by
  obtain ⟨hsound, hid, htouches⟩ := hkeeps
  replace hid : t.id = id := hid
  obtain ⟨-, hsame⟩ := htouches.spec (hs.inRange id r hr) hs.bounded
  have hrequests : ∀ other q, (s.endTurn t).requests other = some q →
      (other = id ∧ t.destroyed = false ∧ q = t.r) ∨ (other ≠ id ∧ s.requests other = some q) := by
    intro other q hq
    rw [endTurn_requests, hid] at hq
    by_cases hother : other = id
    · subst hother
      cases hdestroyed : t.destroyed with
      | true => simp [hdestroyed] at hq
      | false => exact .inl ⟨rfl, rfl, by simpa [hdestroyed] using hq.symm⟩
    · exact .inr ⟨hother, by simpa [hother] using hq⟩
  refine ⟨⟨by simpa using hsound.bounded, fun other q hq => ?_, fun other q hq a ha => ?_,
    fun other q hq => ?_, by simpa using hs.receivers⟩, fun hothers hown other q hq => ?_⟩
  · rcases hrequests other q hq with ⟨rfl, -, -⟩ | ⟨-, hold⟩
    · simpa using hs.inRange other r hr
    · simpa using hs.inRange other q hold
  · rcases hrequests other q hq with ⟨rfl, -, rfl⟩ | ⟨hne, hold⟩
    · simpa [hid] using hsound.owned a ha
    · obtain ⟨cell, hcell, hcellId⟩ := hs.owned other q hold a ha
      refine ⟨cell, ?_, hcellId⟩
      rw [endTurn_handler]
      exact ((hsame other hne).ctxs a cell hcellId).mpr hcell
  · rcases hrequests other q hq with ⟨rfl, -, rfl⟩ | ⟨-, hold⟩
    · exact hsound.bound
    · exact hs.bound other q hold
  · rw [endTurn_handler]
    rcases hrequests other q hq with ⟨rfl, hdestroyed, rfl⟩ | ⟨hne, hold⟩
    · exact hown hdestroyed
    · exact P.sameFor (hsame other hne) (hothers other q hne hold)

theorem turn_cases {id : Nat} {f : Turn → Except ProxyFault Turn} (hturn : s.turn id f = .ok s') :
    (s.requests id = none ∧ s' = s) ∨ ∃ r t, s.requests id = some r ∧
      f { id := id, handler := s.handler, r := r } = .ok t ∧ s' = s.endTurn t := by
  unfold ProxyFactory.turn at hturn
  split at hturn
  · rename_i hnone
    exact .inl ⟨hnone, (Except.ok.inj hturn).symm⟩
  · rename_i r hr
    split at hturn
    · contradiction
    · rename_i t ht
      exact .inr ⟨r, t, hr, ht, (Except.ok.inj hturn).symm⟩

/-- A turn of a request keeps the proxy well formed and a local property of all requests, if it
keeps its own request sound and gives it the property. -/
theorem WellFormed.turn (hs : s.WellFormed) {id : Nat} {f : Turn → Except ProxyFault Turn}
    (hothers : s.Others P id) (hturn : s.turn id f = .ok s')
    (hf : ∀ r t, s.requests id = some r →
      f { id := id, handler := s.handler, r := r } = .ok t →
      Turn.Keeps s.lastRequestId { id := id, handler := s.handler, r := r } t ∧
        (t.destroyed = false → P.holds id t.handler t.r)) :
    s'.WellFormed ∧ s'.All P := by
  rcases turn_cases hturn with ⟨hnone, rfl⟩ | ⟨r, t, hr, ht, rfl⟩
  · refine ⟨hs, fun other r hr => hothers other r ?_ hr⟩
    rintro rfl
    simp [hnone] at hr
  · obtain ⟨hkeeps, hown⟩ := hf r t hr ht
    obtain ⟨hwell, hall⟩ := hs.endTurn (P := P) hr hkeeps
    exact ⟨hwell, hall hothers hown⟩

theorem WellFormed.withNewRequest (hs : s.WellFormed) (request : ResourceRequest) :
    (s.withNewRequest request).WellFormed := by
  have hcase : ∀ id r, (s.withNewRequest request).requests id = some r →
      (id = s.lastRequestId + 1 ∧ r = { request := request }) ∨ s.requests id = some r := by
    intro id r hr
    by_cases hid : id = s.lastRequestId + 1
    · subst hid
      exact .inl ⟨rfl, by simpa [ProxyFactory.withNewRequest] using hr.symm⟩
    · exact .inr (by simpa [ProxyFactory.withNewRequest, hid] using hr)
  refine ⟨⟨hs.bounded.fresh, fun a cell hcell => ?_, hs.bounded.entries, fun id hid => ?_,
    fun p hp => ?_⟩, fun id r hr => ?_, fun id r hr a ha => ?_, fun id r hr => ?_, hs.receivers⟩
  · have hle := hs.bounded.cells a cell hcell
    show _ ≤ s.lastRequestId + 1
    omega
  · have hlt : s.lastRequestId + 1 < id := hid
    exact hs.bounded.unknown id (by omega)
  · have hle := hs.bounded.posted p hp
    show _ ≤ s.lastRequestId + 1
    omega
  · show id ≤ s.lastRequestId + 1
    rcases hcase id r hr with ⟨rfl, -⟩ | hold
    · exact Nat.le_refl _
    · have hle := hs.inRange id r hold
      omega
  · rcases hcase id r hr with ⟨-, rfl⟩ | hold
    · simp at ha
    · exact hs.owned id r hold a ha
  · rcases hcase id r hr with ⟨-, rfl⟩ | hold
    · rfl
    · exact hs.bound id r hold

theorem Others.withNewRequest (h : s.All P) (request : ResourceRequest) :
    (s.withNewRequest request).Others P (s.lastRequestId + 1) := by
  intro other r hne hr
  exact h other r (by simpa [ProxyFactory.withNewRequest, hne] using hr)

theorem WellFormed.withPosted (hs : s.WellFormed) (posted : List (Completion BoundContinuation))
    (hsub : ∀ p ∈ posted, p ∈ s.handler.posted) : (s.withPosted posted).WellFormed where
  bounded := {
    fresh := hs.bounded.fresh
    cells := hs.bounded.cells
    entries := hs.bounded.entries
    unknown := hs.bounded.unknown
    posted := fun p hp => hs.bounded.posted p (hsub p hp) }
  inRange := hs.inRange
  owned := hs.owned
  bound := hs.bound
  receivers := hs.receivers

theorem Others.withPosted {completion : Completion BoundContinuation}
    {rest : List (Completion BoundContinuation)} (h : s.All P)
    (hposted : s.handler.posted = completion :: rest) :
    (s.withPosted rest).Others P completion.callback.requestId := by
  intro other r hne hr
  have hno : (completion.callback.requestId == other) = false := by simp [Ne.symm hne]
  have hsame : RequestHandler.SameFor other s.handler (s.withPosted rest).handler :=
    ⟨rfl, fun _ _ _ => Iff.rfl, by simp [ProxyFactory.withPosted, hposted, hno]⟩
  exact P.sameFor hsame (h other r hr)

@[simp] theorem writeNewUrl_handler (s : ProxyFactory) (a : Nat) (newUrl : Option GURL) :
    (s.writeNewUrl a newUrl).handler = s.handler := by unfold writeNewUrl; split <;> rfl

theorem writeNewUrl_requests {a : Nat} {cell : Cell} (hcell : s.handler.ctxs a = some cell)
    (newUrl : Option GURL) (id : Nat) :
    (s.writeNewUrl a newUrl).requests id =
      if id = cell.info.requestIdentifier then
        (s.requests id).map fun r => Turn.writeRedirectUrl r newUrl
      else s.requests id := by
  simp [writeNewUrl, hcell]

theorem writeRedirectUrl_ctx (r : InProgressRequest) (newUrl : Option GURL) :
    (Turn.writeRedirectUrl r newUrl).ctx = r.ctx ∧
      (Turn.writeRedirectUrl r newUrl).clientReceiverBound = r.clientReceiverBound ∧
      (Turn.writeRedirectUrl r newUrl).targetLoaderBound = r.targetLoaderBound := by
  cases newUrl <;> exact ⟨rfl, rfl, rfl⟩

/-- A filter that resumes keeps the proxy well formed, and a local property of all requests if it
keeps that of the request of its context. -/
theorem WellFormed.resume (hs : s.WellFormed) (hall : s.All P) {lib : UrlLibrary}
    {filters : FilterLists} {answers : Nat → FilterAnswer} {a : Nat} {decision : Option Decision}
    {h : RequestHandler BoundContinuation} {newUrl : Option GURL} {cell : Cell}
    (hcell : s.handler.ctxs a = some cell)
    (hresume : s.handler.resume lib filters answers a decision = .ok (h, newUrl))
    (hown : ∀ r, s.requests cell.info.requestIdentifier = some r →
      P.holds cell.info.requestIdentifier s.handler r →
      P.holds cell.info.requestIdentifier h (Turn.writeRedirectUrl r newUrl)) :
    ({ s with handler := h }.writeNewUrl a newUrl).WellFormed ∧
      ({ s with handler := h }.writeNewUrl a newUrl).All P := by
  have htouches := RequestHandler.Touches.resume hs.bounded hcell hresume
  have hid := hs.bounded.cells a cell hcell
  obtain ⟨hbounded, hsame⟩ := htouches.spec hid hs.bounded
  obtain ⟨cell', hcell', hid'⟩ := htouches.owned hid hs.bounded hcell rfl
  have hrequests := writeNewUrl_requests (s := { s with handler := h }) hcell' newUrl
  simp only [hid'] at hrequests
  have hcase : ∀ id r, ({ s with handler := h }.writeNewUrl a newUrl).requests id = some r →
      (id = cell.info.requestIdentifier ∧
        ∃ q, s.requests id = some q ∧ r = Turn.writeRedirectUrl q newUrl) ∨
      (id ≠ cell.info.requestIdentifier ∧ s.requests id = some r) := by
    intro id r hr
    rw [hrequests] at hr
    split at hr
    · rename_i heq
      obtain ⟨q, hq, rfl⟩ := Option.map_eq_some_iff.mp hr
      exact .inl ⟨heq, q, hq, rfl⟩
    · rename_i hne
      exact .inr ⟨hne, hr⟩
  have hlast : ({ s with handler := h }.writeNewUrl a newUrl).lastRequestId = s.lastRequestId ∧
      ({ s with handler := h }.writeNewUrl a newUrl).proxyReceivers = s.proxyReceivers ∧
      ({ s with handler := h }.writeNewUrl a newUrl).targetFactoryBound = s.targetFactoryBound := by
    unfold writeNewUrl
    split <;> exact ⟨rfl, rfl, rfl⟩
  refine ⟨⟨by rw [writeNewUrl_handler, hlast.1]; exact hbounded, fun id r hr => ?_,
    fun id r hr b hb => ?_, fun id r hr => ?_, by rw [hlast.2.1, hlast.2.2]; exact hs.receivers⟩,
    fun id r hr => ?_⟩
  · rw [hlast.1]
    rcases hcase id r hr with ⟨-, q, hq, -⟩ | ⟨-, hq⟩
    · exact hs.inRange id q hq
    · exact hs.inRange id r hq
  · rw [writeNewUrl_handler]
    rcases hcase id r hr with ⟨rfl, q, hq, rfl⟩ | ⟨hne, hq⟩
    · rw [(writeRedirectUrl_ctx q newUrl).1] at hb
      obtain ⟨c, hc, hcid⟩ := hs.owned _ q hq b hb
      exact htouches.owned hid hs.bounded hc hcid
    · obtain ⟨c, hc, hcid⟩ := hs.owned id r hq b hb
      exact ⟨c, ((hsame id hne).ctxs b c hcid).mpr hc, hcid⟩
  · rcases hcase id r hr with ⟨-, q, hq, rfl⟩ | ⟨-, hq⟩
    · obtain ⟨-, hreceiver, hloader⟩ := writeRedirectUrl_ctx q newUrl
      rw [hreceiver, hloader]
      exact hs.bound id q hq
    · exact hs.bound id r hq
  · rw [writeNewUrl_handler]
    rcases hcase id r hr with ⟨rfl, q, hq, rfl⟩ | ⟨hne, hq⟩
    · exact hown q hq (hall _ q hq)
    · exact P.sameFor (hsame id hne) (hall id r hq)

section Step

variable {setup : ProxySetup} {e : ProxyEvent} {id : Nat} {f : Turn → Except ProxyFault Turn}

/-- The request that an event is for, and the method of it that runs. -/
def method (setup : ProxySetup) (s : ProxyFactory) :
    ProxyEvent → Option (Nat × (Turn → Except ProxyFault Turn))
  | .createLoaderAndStart _ env =>
    some (s.lastRequestId + 1, Turn.restartInternal setup env s.targetFactoryBound)
  | .followRedirect id newUrl env =>
    some (id, Turn.followRedirect setup env s.targetFactoryBound newUrl)
  | .loaderDisconnected id reason => some (id, fun t => .ok (t.onLoaderDisconnected setup reason))
  | .clientDisconnected id => some (id, fun t => .ok (t.onRequestError setup Net.ERR_ABORTED))
  | .receiveResponse id env => some (id, Turn.onReceiveResponse setup env s.targetFactoryBound)
  | .receiveRedirect id redirectInfo env =>
    some (id, Turn.onReceiveRedirect setup env s.targetFactoryBound redirectInfo)
  | .complete id errorCode => some (id, fun t => .ok (t.onComplete setup errorCode))
  | .runPosted env => s.handler.posted.head?.map fun completion =>
    (completion.callback.requestId, Turn.runContinuation setup env s.targetFactoryBound
      completion.callback.continuation completion.rv)
  | .stubWritten id written => some (id, fun t => .ok (t.onWrite setup written))
  | .clone | .resume _ _ _ | .targetFactoryError | .proxyBindingError => none

/-- The proxy when the method runs: a new request is there, and a posted task was taken. -/
def prepare (s : ProxyFactory) : ProxyEvent → ProxyFactory
  | .createLoaderAndStart request _ => s.withNewRequest request
  | .runPosted _ => s.withPosted s.handler.posted.tail
  | _ => s

theorem step_method (hf : method setup s e = some (id, f)) :
    step setup s e = (s.prepare e).turn id f := by
  cases e
  case runPosted env =>
    simp only [method, Option.map_eq_some_iff] at hf
    obtain ⟨completion, hhead, hf⟩ := hf
    obtain ⟨rest, hposted⟩ := List.head?_eq_some_iff.mp hhead
    obtain ⟨rfl, rfl⟩ := Prod.mk.inj hf
    simp [step, prepare, hposted]
  all_goals
    first
    | contradiction
    | obtain ⟨rfl, rfl⟩ := Prod.mk.inj (Option.some.inj hf)
      rfl

theorem method_keeps (hf : method setup s e = some (id, f)) {last : Nat} {t t' : Turn}
    (ht : t.Sound last) (hrun : f t = .ok t') : Turn.Keeps last t t' := by
  cases e with
  | runPosted env =>
    simp only [method, Option.map_eq_some_iff] at hf
    obtain ⟨completion, -, hf⟩ := hf
    obtain ⟨rfl, rfl⟩ := Prod.mk.inj hf
    exact .runContinuation ht hrun
  | createLoaderAndStart request env =>
    obtain ⟨rfl, rfl⟩ := Prod.mk.inj (Option.some.inj hf)
    exact .restartInternal ht hrun
  | followRedirect _ newUrl env =>
    obtain ⟨rfl, rfl⟩ := Prod.mk.inj (Option.some.inj hf)
    exact .followRedirect ht hrun
  | loaderDisconnected _ reason =>
    obtain ⟨rfl, rfl⟩ := Prod.mk.inj (Option.some.inj hf)
    obtain rfl := Except.ok.inj hrun
    exact .onLoaderDisconnected setup reason ht
  | clientDisconnected =>
    obtain ⟨rfl, rfl⟩ := Prod.mk.inj (Option.some.inj hf)
    obtain rfl := Except.ok.inj hrun
    exact .onRequestError setup ht _
  | receiveResponse _ env =>
    obtain ⟨rfl, rfl⟩ := Prod.mk.inj (Option.some.inj hf)
    exact .onReceiveResponse ht hrun
  | receiveRedirect _ redirectInfo env =>
    obtain ⟨rfl, rfl⟩ := Prod.mk.inj (Option.some.inj hf)
    exact .onReceiveRedirect ht hrun
  | complete _ errorCode =>
    obtain ⟨rfl, rfl⟩ := Prod.mk.inj (Option.some.inj hf)
    obtain rfl := Except.ok.inj hrun
    exact .onComplete setup errorCode ht
  | stubWritten _ written =>
    obtain ⟨rfl, rfl⟩ := Prod.mk.inj (Option.some.inj hf)
    obtain rfl := Except.ok.inj hrun
    exact .onWrite setup written ht
  | clone | resume | targetFactoryError | proxyBindingError => contradiction

theorem WellFormed.prepare (hs : s.WellFormed) (e : ProxyEvent) : (s.prepare e).WellFormed := by
  cases e
  case createLoaderAndStart request env => exact hs.withNewRequest request
  case runPosted env => exact hs.withPosted _ fun p hp => List.mem_of_mem_tail hp
  all_goals exact hs

theorem All.prepare (hall : s.All P) (hf : method setup s e = some (id, f)) :
    (s.prepare e).Others P id := by
  cases e
  case createLoaderAndStart request env =>
    obtain ⟨rfl, rfl⟩ := Prod.mk.inj (Option.some.inj hf)
    exact .withNewRequest hall request
  case runPosted env =>
    simp only [method, Option.map_eq_some_iff] at hf
    obtain ⟨completion, hhead, hf⟩ := hf
    obtain ⟨rest, hposted⟩ := List.head?_eq_some_iff.mp hhead
    obtain ⟨rfl, rfl⟩ := Prod.mk.inj hf
    simpa [ProxyFactory.prepare, hposted] using Others.withPosted hall hposted
  all_goals exact hall.others _

/-- A step keeps the proxy well formed, and a local property of all requests if the method that runs
gives it to its request, or the filter that resumes keeps it for the request of its context. -/
theorem WellFormed.step (hs : s.WellFormed) (hall : s.All P) (henabled : s.enabled e)
    (hstep : ProxyFactory.step setup s e = .ok s')
    (hmethod : ∀ id f r t, method setup s e = some (id, f) → (s.prepare e).requests id = some r →
      f { id := id, handler := (s.prepare e).handler, r := r } = .ok t → t.destroyed = false →
      P.holds id t.handler t.r)
    (hresume : ∀ a decision env cell h newUrl r, e = .resume a decision env →
      s.handler.ctxs a = some cell →
      s.handler.resume setup.lib setup.filters (env.answersFor (some cell)) a decision =
        .ok (h, newUrl) →
      s.requests cell.info.requestIdentifier = some r →
      P.holds cell.info.requestIdentifier s.handler r →
      P.holds cell.info.requestIdentifier h (Turn.writeRedirectUrl r newUrl)) :
    s'.WellFormed ∧ s'.All P := by
  cases hf : method setup s e with
  | some method =>
    rw [step_method hf] at hstep
    refine (hs.prepare e).turn (hall.prepare hf) hstep fun r t hr ht => ?_
    exact ⟨method_keeps hf ((hs.prepare e).sound hr) ht, hmethod _ _ r t hf hr ht⟩
  | none =>
    cases e with
    | resume a decision env =>
      obtain ⟨cell, hcell, -⟩ := henabled
      simp only [ProxyFactory.step, hcell] at hstep
      split at hstep
      · contradiction
      · rename_i h newUrl hrun
        obtain rfl := Except.ok.inj hstep
        exact hs.resume hall hcell hrun fun r hr =>
          hresume a decision env cell h newUrl r rfl hcell hrun hr
    | runPosted env =>
      rcases hposted : s.handler.posted with _ | ⟨completion, rest⟩
      · exact absurd hposted henabled
      · simp [ProxyFactory.method, hposted] at hf
    | clone =>
      obtain rfl := Except.ok.inj hstep
      exact ⟨{ hs with receivers := fun _ => hs.receivers henabled }, hall⟩
    | targetFactoryError =>
      obtain rfl := Except.ok.inj hstep
      have hgone : WellFormed { s with targetFactoryBound := false, proxyReceivers := 0 } :=
        { hs with receivers := fun h => absurd h (Nat.lt_irrefl 0) }
      exact ⟨hgone.maybeRemoveProxy, by simpa [All] using hall⟩
    | proxyBindingError =>
      obtain rfl := Except.ok.inj hstep
      have hreceivers : 0 < s.proxyReceivers - 1 →
          (s.targetFactoryBound && s.proxyReceivers - 1 != 0) = true := by
        intro hleft
        simp [hs.receivers henabled, Nat.pos_iff_ne_zero.mp hleft]
      have hgone : WellFormed { s with
          targetFactoryBound := s.targetFactoryBound && s.proxyReceivers - 1 != 0
          proxyReceivers := s.proxyReceivers - 1 } := { hs with receivers := hreceivers }
      exact ⟨hgone.maybeRemoveProxy, by simpa [All] using hall⟩
    | _ => contradiction

@[simp] theorem prepare_sent (s : ProxyFactory) (e : ProxyEvent) : (s.prepare e).sent = s.sent := by
  cases e <;> rfl

theorem step_sent (henabled : s.enabled e) (hstep : ProxyFactory.step setup s e = .ok s') :
    s'.sent = s.sent ∨ ∃ id f r t, method setup s e = some (id, f) ∧
      (s.prepare e).requests id = some r ∧
      f { id := id, handler := (s.prepare e).handler, r := r } = .ok t ∧
      s'.sent = s.sent ++ t.sent.map (t.id, ·) := by
  cases hf : method setup s e with
  | some method =>
    rw [step_method hf] at hstep
    rcases turn_cases hstep with ⟨-, rfl⟩ | ⟨r, t, hr, ht, rfl⟩
    · exact .inl (prepare_sent s e)
    · exact .inr ⟨_, _, r, t, rfl, hr, ht, by simp⟩
  | none =>
    left
    cases e with
    | resume a decision env =>
      simp only [ProxyFactory.step] at hstep
      split at hstep
      · contradiction
      · obtain rfl := Except.ok.inj hstep
        unfold writeNewUrl
        split <;> rfl
    | runPosted env =>
      rcases hposted : s.handler.posted with _ | ⟨completion, rest⟩
      · exact absurd hposted henabled
      · simp [ProxyFactory.method, hposted] at hf
    | clone | targetFactoryError | proxyBindingError =>
      obtain rfl := Except.ok.inj hstep
      simp
    | _ => contradiction

end Step

end ProxyFactory

end ChromiumAdblock
