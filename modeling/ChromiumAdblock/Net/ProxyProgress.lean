import ChromiumAdblock.Net.ProxyFrame

/-! What can still drive a request of the proxy.  A request is driven by a check that is outstanding
or whose completion is posted, by its loader, by a redirect that the client is to follow, or by a
write of a stub body.  Two steps can leave a request with none of these: a check that passes when
neither a loader nor the target factory is there, and a write of a stub body that fails. -/

namespace ChromiumAdblock

/-- Something can still drive the request `id`. -/
inductive Driven (id : Nat) (h : RequestHandler BoundContinuation) (r : InProgressRequest) : Prop
  | loader (bound : r.targetLoaderBound = true)
  | redirect (awaited : 0 < r.redirectsAwaited)
  | stub (outstanding : 0 < r.stubWrites)
  | posted (p : Completion BoundContinuation) (mem : p ∈ h.posted) (own : p.callback.requestId = id)
  | check (k : BoundContinuation) (a : Nat) (cell : Cell)
      (entry : h.callbacks id = some (some k)) (atCell : h.ctxs a = some cell)
      (alive : cell.alive = true) (waiting : cell.waiting = true)
      (own : cell.info.requestIdentifier = id)

namespace Driven

variable {id : Nat} {h h' : RequestHandler BoundContinuation} {r r' : InProgressRequest}

theorem sameFor (hsame : RequestHandler.SameFor id h h') (hd : Driven id h r) : Driven id h' r := by
  cases hd with
  | loader bound => exact .loader bound
  | redirect awaited => exact .redirect awaited
  | stub outstanding => exact .stub outstanding
  | posted p mem own =>
    have hmem : p ∈ h'.posted.filter (·.callback.requestId == id) := by
      rw [hsame.posted]
      exact List.mem_filter.mpr ⟨mem, by simp [own]⟩
    exact .posted p (List.mem_filter.mp hmem).1 own
  | check k a cell entry atCell alive waiting own =>
    exact .check k a cell (hsame.callbacks.trans entry) ((hsame.ctxs a cell own).mpr atCell) alive
      waiting own

theorem ofRequest (hd : Driven id h r) (hloader : r.targetLoaderBound = true →
    r'.targetLoaderBound = true) (hredirects : r.redirectsAwaited ≤ r'.redirectsAwaited)
    (hwrites : r.stubWrites ≤ r'.stubWrites) : Driven id h r' := by
  cases hd with
  | loader bound => exact .loader (hloader bound)
  | redirect awaited => exact .redirect (by omega)
  | stub outstanding => exact .stub (by omega)
  | posted p mem own => exact .posted p mem own
  | check k a cell entry atCell alive waiting own =>
    exact .check k a cell entry atCell alive waiting own

/-- A phase that was started drives its request: a filter holds it, or its completion is posted. -/
theorem ofStartPhase {lib : UrlLibrary} {filters : FilterLists} {answers : Nat → FilterAnswer}
    {eventType : BraveNetworkDelegateEventType} {a : Nat} {cell : Cell}
    {continuation : Continuation} {reply : RequestHandler.Reply BoundContinuation}
    (hstart : RequestHandler.startPhase lib filters answers eventType h a cell ⟨id, continuation⟩ =
      .ok reply) (halive : cell.alive = true) (hid : cell.info.requestIdentifier = id) :
    Driven id reply.handler r := by
  obtain ⟨-, progress, hadvance, hcase⟩ := RequestHandler.startPhase_cases halive hstart
  have hsame := RequestHandler.advance_same hadvance
  cases progress with
  | pending info =>
    rw [hcase.2]
    refine .check ⟨id, continuation⟩ a { cell with info := info, waiting := true } ?_
      (RequestHandler.setCell_ctxs_self _ _ _) halive rfl (hsame.requestIdentifier.trans hid)
    simp [RequestHandler.entered, hid]
  | complete info rv newUrl =>
    rw [hcase.2]
    exact .posted ⟨⟨id, continuation⟩, rv, a⟩ (by simp [RequestHandler.completed]) rfl

theorem resume {last a : Nat} {lib : UrlLibrary} {filters : FilterLists}
    {answers : Nat → FilterAnswer} {decision : Option Decision} {newUrl : Option GURL} {cell : Cell}
    (hb : h.Bounded last) (hcell : h.ctxs a = some cell)
    (hresume : h.resume lib filters answers a decision = .ok (h', newUrl))
    (hd : Driven cell.info.requestIdentifier h r) : Driven cell.info.requestIdentifier h' r := by
  simp only [RequestHandler.resume, hcell] at hresume
  generalize hinfo : (if cell.alive = true then cell.info.decide decision else cell.info) = info
    at hresume
  have hid : info.requestIdentifier = cell.info.requestIdentifier := by
    rw [← hinfo]
    split
    · exact (SameRequest.decide cell.info decision).requestIdentifier
    · rfl
  have hset := RequestHandler.setCell_ctxs_self h a { cell with info := info, waiting := false }
  cases hd with
  | loader bound => exact .loader bound
  | redirect awaited => exact .redirect awaited
  | stub outstanding => exact .stub outstanding
  | posted p mem own =>
    rcases RequestHandler.runNextCallback_cases hresume with
      ⟨rfl, -, -⟩ | ⟨c, progress, -, -, -, -, hcase⟩
    · exact .posted p mem own
    · cases progress with
      | pending info' => exact .posted p (by rw [hcase.1]; exact mem) own
      | complete info' rv url =>
        obtain ⟨-, callback, -, rfl⟩ := hcase
        exact .posted p (List.mem_append_left _ mem) own
  | check k b c entry atCell alive waiting own =>
    rcases RequestHandler.runNextCallback_cases hresume with
      ⟨rfl, -, hskip⟩ | ⟨c', progress, hc', halive', -, hadvance, hcase⟩
    · by_cases hba : b = a
      · -- the context of the check itself is alive and has its entry, so it is not passed over
        subst hba
        obtain rfl : cell = c := Option.some.inj (hcell.symm.trans atCell)
        have hnone := hskip _ hset alive
        simp [hid, entry] at hnone
      · exact .check k b c entry (by rwa [RequestHandler.setCell_ctxs_of_ne _ _ _ _ hba]) alive
          waiting own
    · obtain rfl : { cell with info := info, waiting := false } = c' :=
        Option.some.inj (hset.symm.trans hc')
      have hsame := (RequestHandler.advance_same hadvance).requestIdentifier.trans hid
      cases progress with
      | pending info' =>
        rw [hcase.1]
        exact .check k a { cell with info := info', waiting := true } entry
          (RequestHandler.setCell_ctxs_self _ _ _) halive' rfl hsame
      | complete info' rv url =>
        obtain ⟨-, callback, hcallback, rfl⟩ := hcase
        have hown : callback.requestId = cell.info.requestIdentifier :=
          (hb.entries _ _ hcallback).trans hid
        exact .posted ⟨callback, rv, a⟩ (by simp [RequestHandler.completed]) hown

end Driven

namespace Turn

/-- The request of a turn is driven, or has been destroyed. -/
def Drives (t : Turn) : Prop := t.destroyed = false → Driven t.id t.handler t.r

/-- A check that passes lets the request go on to the network. -/
def goesOn (t : Turn) : Prop := t.r.redirectUrl.isEmpty = true ∧ t.info.blockedBy = .kNotBlocked

variable {t t' : Turn} {last : Nat}

theorem drives_destroy (setup : ProxySetup) (t : Turn) : (t.destroy setup).Drives := by
  unfold Turn.destroy
  split <;> exact fun h => by simp at h

theorem drives_onRequestError (setup : ProxySetup) (t : Turn) (errorCode : Int) :
    (t.onRequestError setup errorCode).Drives := drives_destroy setup _

theorem drives_continueToBeforeRedirect (setup : ProxySetup) (redirectInfo : RedirectInfo)
    (errorCode : Int) (t : Turn) :
    (t.continueToBeforeRedirect setup redirectInfo errorCode).Drives := by
  unfold Turn.continueToBeforeRedirect
  split
  · exact drives_onRequestError setup t errorCode
  · exact fun _ => .redirect (Nat.succ_pos _)

theorem drives_continueToStartRequest (setup : ProxySetup) {targetFactoryBound : Bool}
    (errorCode : Int) (hbound : t.r.targetLoaderBound = true ∨ targetFactoryBound = true) :
    (t.continueToStartRequest setup targetFactoryBound errorCode).Drives := by
  unfold Turn.continueToStartRequest
  split
  · exact drives_onRequestError setup t errorCode
  · dsimp only
    split
    · exact fun _ => .loader rfl
    · rename_i hno
      refine fun _ => .loader ?_
      rcases hbound with hloader | hfactory
      · unfold Turn.setPaused
        split <;> exact hloader
      · simpa [hfactory] using hno

@[simp] theorem setPaused_targetLoaderBound (t : Turn) (paused : Bool) :
    (t.setPaused paused).r.targetLoaderBound = t.r.targetLoaderBound := by
  unfold Turn.setPaused; split <;> rfl

@[simp] theorem sendFollowRedirect_targetLoaderBound (t : Turn) :
    t.sendFollowRedirect.r.targetLoaderBound = t.r.targetLoaderBound := by
  unfold Turn.sendFollowRedirect
  split
  · rfl
  · dsimp only
    split <;> rfl

@[simp] theorem useNewReferrer_targetLoaderBound (t : Turn) :
    t.useNewReferrer.r.targetLoaderBound = t.r.targetLoaderBound := by
  unfold Turn.useNewReferrer; split <;> rfl

@[simp] theorem passTransaction_targetLoaderBound (setup : ProxySetup) (env : ProxyEnv) (t : Turn) :
    (t.passTransaction setup env).r.targetLoaderBound = t.r.targetLoaderBound := by
  unfold Turn.passTransaction; split <;> rfl

theorem drives_continueToSendHeaders (setup : ProxySetup) {targetFactoryBound : Bool}
    (errorCode : Int) (hbound : t.r.targetLoaderBound = true ∨ targetFactoryBound = true) :
    (t.continueToSendHeaders setup targetFactoryBound errorCode).Drives := by
  unfold Turn.continueToSendHeaders
  split
  · exact drives_onRequestError setup t errorCode
  · exact drives_continueToStartRequest setup Net.OK (by simpa using hbound)

theorem drives_refuse (setup : ProxySetup) (env : ProxyEnv) (t : Turn) :
    (t.refuse setup env).Drives := by
  unfold Turn.refuse
  split
  · exact drives_onRequestError setup t _
  · split
    · exact drives_onRequestError setup t _
    · exact fun _ => .stub (Nat.succ_pos _)

/-- A check that was handled leaves the request driven, unless it goes on to the network where there
is neither a loader nor a factory. -/
theorem drives_continueToBeforeSendHeaders {setup : ProxySetup} {env : ProxyEnv}
    {targetFactoryBound : Bool} {errorCode : Int}
    (hbound : errorCode = Net.OK → t.goesOn →
      t.r.targetLoaderBound = true ∨ targetFactoryBound = true)
    (hrun : t.continueToBeforeSendHeaders setup env targetFactoryBound errorCode = .ok t') :
    t'.Drives := by
  rw [continueToBeforeSendHeaders_eq] at hrun
  obtain rfl := Except.ok.inj hrun
  split
  · exact drives_onRequestError setup t errorCode
  · rename_i herror
    split
    · exact drives_continueToBeforeRedirect setup _ _ _
    · rename_i hempty
      split
      · exact drives_refuse setup env _
      · rename_i hblocked
        refine drives_continueToSendHeaders setup Net.OK ?_
        simp only [passTransaction_targetLoaderBound, setPaused_targetLoaderBound,
          useNewReferrer_targetLoaderBound]
        exact hbound (by simpa using herror) ⟨by simpa using hempty, by simpa using hblocked⟩

theorem drives_continueToResponseStarted {setup : ProxySetup} {errorCode : Int}
    (ht : t.Sound last) (hrun : t.continueToResponseStarted setup errorCode = .ok t') :
    t'.Drives := by
  unfold Turn.continueToResponseStarted at hrun
  split at hrun
  · obtain rfl := Except.ok.inj hrun
    exact drives_onRequestError setup t errorCode
  · split at hrun
    · obtain rfl := Except.ok.inj hrun
      exact drives_continueToBeforeRedirect setup _ _ _
    · split at hrun
      · contradiction
      · rename_i hreceiver
        obtain rfl := Except.ok.inj hrun
        refine fun _ => .loader ?_
        have hloader : t.r.targetLoaderBound = true := ht.bound ▸ (by simpa using hreceiver)
        exact (setPaused_targetLoaderBound t false).trans hloader

/-- The condition under which a continuation leaves its request driven. -/
def passesWhere (t : Turn) (targetFactoryBound : Bool) (continuation : Continuation)
    (errorCode : Int) : Prop :=
  match continuation with
  | .beforeSendHeaders => errorCode = Net.OK → t.goesOn →
      t.r.targetLoaderBound = true ∨ targetFactoryBound = true
  | .sendHeaders => errorCode = Net.OK →
      t.r.targetLoaderBound = true ∨ targetFactoryBound = true
  | _ => True

theorem drives_runContinuation {setup : ProxySetup} {env : ProxyEnv} {targetFactoryBound : Bool}
    {continuation : Continuation} {errorCode : Int} (ht : t.Sound last)
    (hpass : t.passesWhere targetFactoryBound continuation errorCode)
    (hrun : t.runContinuation setup env targetFactoryBound continuation errorCode = .ok t') :
    t'.Drives := by
  cases continuation with
  | beforeSendHeaders => exact drives_continueToBeforeSendHeaders hpass hrun
  | sendHeaders =>
    obtain rfl := Except.ok.inj hrun
    by_cases herror : errorCode = Net.OK
    · exact drives_continueToSendHeaders setup errorCode (hpass herror)
    · rw [Turn.continueToSendHeaders, if_pos herror]
      exact drives_onRequestError setup t errorCode
  | responseStarted => exact drives_continueToResponseStarted ht hrun
  | beforeRedirect redirectInfo =>
    obtain rfl := Except.ok.inj hrun
    exact drives_continueToBeforeRedirect setup _ _ _

/-- A check that was begun leaves the request driven, unless its URL passes at once and there is
neither a loader nor a factory. -/
theorem drives_restartInternal {setup : ProxySetup} {env : ProxyEnv} {targetFactoryBound : Bool}
    (hbound : isInternalScheme t.r.request.url = true →
      t.r.targetLoaderBound = true ∨ targetFactoryBound = true)
    (hrun : t.restartInternal setup env targetFactoryBound = .ok t') : t'.Drives := by
  rcases restartInternal_cases hrun with ⟨reply, hstart, rfl⟩ | ⟨hscheme, hnext⟩
  · intro _
    unfold Turn.setPaused
    split <;> exact .ofStartPhase hstart rfl rfl
  · refine drives_continueToBeforeSendHeaders (fun _ _ => ?_) hnext
    rw [Turn.withReply, RequestHandler.replyOK_newUrl]
    exact hbound hscheme

theorem drives_handleResponseOrRedirectHeaders {setup : ProxySetup} {env : ProxyEnv}
    {targetFactoryBound : Bool} {continuation : Continuation} (ht : t.Sound last)
    (hpass : ∀ (u : Turn) errorCode, u.passesWhere targetFactoryBound continuation errorCode)
    (hrun : t.handleResponseOrRedirectHeaders setup env targetFactoryBound continuation = .ok t') :
    t'.Drives := by
  have hbegun : Keeps last t t.beginHeaders := .request ht _ _ rfl ht.bound
  rcases handleResponseOrRedirectHeaders_cases hrun with hnext | ⟨reply, hstart, rfl⟩ | hnext
  · exact drives_runContinuation hbegun.sound (hpass _ _) hnext
  · intro _
    unfold Turn.setPaused
    split <;> exact .ofStartPhase hstart rfl rfl
  · have hnew := hbegun.trans (.createBraveRequestInfo setup env hbegun.sound)
    have hphase := hnew.trans
      (.ofTouches hnew.sound (.replyOK (createBraveRequestInfo_cell setup env _) rfl))
    exact drives_runContinuation hphase.sound (hpass _ _) hnext

theorem drives_onComplete (setup : ProxySetup) (errorCode : Int) (t : Turn) :
    (t.onComplete setup errorCode).Drives := by
  unfold Turn.onComplete
  split
  · exact drives_onRequestError setup t errorCode
  · exact drives_destroy setup _

theorem drives_onLoaderDisconnected (setup : ProxySetup) (followRedirectReason : Bool) (t : Turn) :
    (t.onLoaderDisconnected setup followRedirectReason).Drives := by
  unfold Turn.onLoaderDisconnected
  split
  · exact drives_destroy setup t
  · exact drives_onRequestError setup t _

theorem drives_onWrite (setup : ProxySetup) {written : Bool}
    (hloader : written = false → t.r.targetLoaderBound = true) :
    (t.onWrite setup written).Drives := by
  unfold Turn.onWrite
  dsimp only
  split
  · rename_i hfailed
    exact fun _ => .loader (hloader hfailed)
  · exact drives_onComplete setup _ _

end Turn

namespace ProxyFactory

open EventMachine

/-- Being driven, as a property of a request. -/
def driven : LocalProperty := ⟨Driven, Driven.sameFor⟩

/-- A check that passes finds a loader or the target factory, and a write of a stub body fails only
where a loader is there. -/
def keepsDriver (s : ProxyFactory) : ProxyEvent → Prop
  | .followRedirect id newUrl _ => ∀ r, s.requests id = some r →
      isInternalScheme (newUrl.getD r.request.url) = true →
      r.targetLoaderBound = true ∨ s.targetFactoryBound = true
  | .runPosted _ => ∀ completion, s.handler.posted.head? = some completion →
      ∀ r, s.requests completion.callback.requestId = some r →
      Turn.passesWhere { id := completion.callback.requestId, handler := s.handler, r := r }
        s.targetFactoryBound completion.callback.continuation completion.rv
  | .stubWritten id written => ∀ r, s.requests id = some r → written = false →
      r.targetLoaderBound = true
  | _ => True

theorem method_drives {setup : ProxySetup} {s : ProxyFactory} {e : ProxyEvent} {id : Nat}
    {f : Turn → Except ProxyFault Turn} {r : InProgressRequest} {t : Turn} (hs : s.WellFormed)
    (henabled : s.enabled e) (hkeeps : s.keepsDriver e) (hf : method setup s e = some (id, f))
    (hr : (s.prepare e).requests id = some r)
    (ht : f { id := id, handler := (s.prepare e).handler, r := r } = .ok t) : t.Drives := by
  have hsound := (hs.prepare e).sound hr
  cases e with
  | createLoaderAndStart request env =>
    obtain ⟨rfl, rfl⟩ := Prod.mk.inj (Option.some.inj hf)
    exact Turn.drives_restartInternal (fun _ => .inr (hs.receivers henabled)) ht
  | followRedirect _ newUrl env =>
    obtain ⟨rfl, rfl⟩ := Prod.mk.inj (Option.some.inj hf)
    exact Turn.drives_restartInternal (hkeeps r hr) ht
  | loaderDisconnected _ followRedirectReason =>
    obtain ⟨rfl, rfl⟩ := Prod.mk.inj (Option.some.inj hf)
    obtain rfl := Except.ok.inj ht
    exact Turn.drives_onLoaderDisconnected setup followRedirectReason _
  | clientDisconnected =>
    obtain ⟨rfl, rfl⟩ := Prod.mk.inj (Option.some.inj hf)
    obtain rfl := Except.ok.inj ht
    exact Turn.drives_onRequestError setup _ _
  | receiveResponse _ env =>
    obtain ⟨rfl, rfl⟩ := Prod.mk.inj (Option.some.inj hf)
    have hexternal := Turn.Keeps.external hsound
    exact Turn.drives_handleResponseOrRedirectHeaders hexternal.sound (fun _ _ => by trivial) ht
  | receiveRedirect _ redirectInfo env =>
    obtain ⟨rfl, rfl⟩ := Prod.mk.inj (Option.some.inj hf)
    have hexternal := Turn.Keeps.external hsound
    exact Turn.drives_handleResponseOrRedirectHeaders hexternal.sound (fun _ _ => by trivial) ht
  | complete _ errorCode =>
    obtain ⟨rfl, rfl⟩ := Prod.mk.inj (Option.some.inj hf)
    obtain rfl := Except.ok.inj ht
    exact Turn.drives_onComplete setup errorCode _
  | runPosted env =>
    simp only [method, Option.map_eq_some_iff] at hf
    obtain ⟨completion, hhead, hf⟩ := hf
    obtain ⟨rfl, rfl⟩ := Prod.mk.inj hf
    exact Turn.drives_runContinuation hsound (hkeeps completion hhead r hr) ht
  | stubWritten _ written =>
    obtain ⟨rfl, rfl⟩ := Prod.mk.inj (Option.some.inj hf)
    obtain rfl := Except.ok.inj ht
    exact Turn.drives_onWrite setup (hkeeps r hr)
  | clone | resume | targetFactoryError | proxyBindingError => contradiction

theorem step_driven {setup : ProxySetup} {s s' : ProxyFactory} {e : ProxyEvent}
    (henabled : s.enabled e) (hkeeps : s.keepsDriver e) (hstep : step setup s e = .ok s')
    (hs : s.WellFormed) (hall : s.All driven) : s'.WellFormed ∧ s'.All driven := by
  refine hs.step hall henabled hstep (fun id f r t hf hr ht => ?_) ?_
  · have hkept := method_keeps hf ((hs.prepare e).sound hr) ht
    have hid : t.id = id := hkept.id_eq
    exact hid ▸ method_drives hs henabled hkeeps hf hr ht
  · intro a decision env cell h newUrl r _ hcell hresume _ hd
    exact (Driven.resume hs.bounded hcell hresume hd).ofRequest
      (by cases newUrl <;> exact id) (by cases newUrl <;> exact Nat.le_refl _)
      (by cases newUrl <;> exact Nat.le_refl _)

/-- In a run whose events keep drivers, every request can still be driven. -/
theorem requests_driven (setup : ProxySetup) {es : List ProxyEvent} {s : ProxyFactory}
    (run : Run ((machine setup).restrict keepsDriver) init es s) :
    ∀ id r, s.requests id = some r → Driven id s.handler r := by
  have hinit : init.WellFormed ∧ init.All driven :=
    ⟨wellFormed_init, fun id r hr => by simp [init] at hr⟩
  refine (run.preserves (P := fun s => s.WellFormed ∧ s.All driven) ?_ hinit).2
  rintro s e s' ⟨henabled, hkeeps⟩ hstep ⟨hs, hall⟩
  exact step_driven henabled hkeeps hstep hs hall

instance (t : Turn) (targetFactoryBound : Bool) (errorCode : Int) :
    ∀ continuation, Decidable (t.passesWhere targetFactoryBound continuation errorCode)
  | .beforeSendHeaders => inferInstanceAs (Decidable (errorCode = Net.OK →
      t.r.redirectUrl.isEmpty = true ∧ t.info.blockedBy = .kNotBlocked →
      t.r.targetLoaderBound = true ∨ targetFactoryBound = true))
  | .sendHeaders => inferInstanceAs (Decidable (errorCode = Net.OK →
      t.r.targetLoaderBound = true ∨ targetFactoryBound = true))
  | .responseStarted | .beforeRedirect _ => inferInstanceAs (Decidable True)

instance (s : ProxyFactory) : ∀ e, Decidable (s.keepsDriver e)
  | .followRedirect id newUrl _ => inferInstanceAs (Decidable (∀ r ∈ s.requests id,
      isInternalScheme (newUrl.getD r.request.url) = true →
      r.targetLoaderBound = true ∨ s.targetFactoryBound = true))
  | .runPosted _ => inferInstanceAs (Decidable (∀ completion ∈ s.handler.posted.head?,
      ∀ r ∈ s.requests completion.callback.requestId,
      Turn.passesWhere { id := completion.callback.requestId, handler := s.handler, r := r }
        s.targetFactoryBound completion.callback.continuation completion.rv))
  | .stubWritten id written => inferInstanceAs (Decidable (∀ r ∈ s.requests id,
      written = false → r.targetLoaderBound = true))
  | .createLoaderAndStart _ _ | .clone | .loaderDisconnected _ _ | .clientDisconnected _
  | .receiveResponse _ _ | .receiveRedirect _ _ _ | .complete _ _ | .resume _ _ _
  | .targetFactoryError | .proxyBindingError => inferInstanceAs (Decidable True)

/-- A request that loads a script, and filters that answer it later. -/
def loadScript : ProxyEvent :=
  .createLoaderAndStart
    { url := .https "example.com" "/ad.js", requestInitiator := some (.https "a.com" "/"),
      resourceType := .kScript } {}

/-- A request that passed its check is driven by its loader. -/
theorem requests_driven_passed :
    ∃ s, Run ((machine (.ofUrls .weakPtr [])).restrict keepsDriver) init
        [loadScript, .resume 0 none {}, .runPosted {}] s ∧
      (∃ r, s.requests 1 = some r) ∧ ∀ id r, s.requests id = some r → Driven id s.handler r := by
  obtain ⟨s, run, hs⟩ := Machine.exists_run
    ((machine (.ofUrls .weakPtr [])).restrict keepsDriver) init
    [loadScript, .resume 0 none {}, .runPosted {}] (fun s => (s.requests 1).isSome) (by decide)
  exact ⟨s, run, Option.isSome_iff_exists.mp hs, requests_driven _ run⟩

/-- What a request without a driver looks like: nothing of it is under way. -/
def stuck (s : ProxyFactory) (id : Nat) : Bool :=
  match s.requests id with
  | some r =>
    !r.targetLoaderBound && r.redirectsAwaited == 0 && r.stubWrites == 0 &&
      s.handler.posted.isEmpty && (s.handler.callbacks id).join == none
  | none => false

theorem not_driven_of_stuck {s : ProxyFactory} {id : Nat} (h : s.stuck id = true) :
    ∃ r, s.requests id = some r ∧ ¬Driven id s.handler r := by
  unfold stuck at h
  split at h
  · rename_i r hr
    simp only [Bool.and_eq_true, Bool.not_eq_true', beq_iff_eq, List.isEmpty_iff] at h
    obtain ⟨⟨⟨⟨hloader, hredirects⟩, hwrites⟩, hposted⟩, hentry⟩ := h
    refine ⟨r, hr, fun hd => ?_⟩
    cases hd with
    | loader bound => simp [hloader] at bound
    | redirect awaited => omega
    | stub outstanding => omega
    | posted p mem own => simp [hposted] at mem
    | check k a cell entry atCell alive waiting own =>
      rw [entry] at hentry
      simp at hentry
  · contradiction

/-- Without `keepsDriver`, requests get stuck: where the target factory went away while the check
was under way, and where the body of a stub cannot be written. -/
theorem requests_stuck :
    (∃ s, Run (machine (.ofUrls .weakPtr [])) init
        [loadScript, .targetFactoryError, .resume 0 none {}, .runPosted {}] s ∧
      s.sent = [] ∧ ∃ r, s.requests 1 = some r ∧ ¬Driven 1 s.handler r) ∧
    ∃ s, Run (machine (.ofUrls .weakPtr [])) init
        [loadScript,
          .resume 0 (some { blockedBy := .kAdBlocked, mockDataUrl := "data:text/plain,stub" }) {},
          .runPosted {}, .stubWritten 1 false] s ∧
      s.sent = [(1, .onReceiveResponse (some "data:text/plain,stub"))] ∧
      ∃ r, s.requests 1 = some r ∧ ¬Driven 1 s.handler r := by
  constructor
  · obtain ⟨s, run, hs⟩ := Machine.exists_run (machine (.ofUrls .weakPtr [])) init
      [loadScript, .targetFactoryError, .resume 0 none {}, .runPosted {}]
      (fun s => s.sent == [] && s.stuck 1) (by decide)
    simp only [Bool.and_eq_true, beq_iff_eq] at hs
    exact ⟨s, run, hs.1, not_driven_of_stuck hs.2⟩
  · obtain ⟨s, run, hs⟩ := Machine.exists_run (machine (.ofUrls .weakPtr [])) init
      [loadScript,
        .resume 0 (some { blockedBy := .kAdBlocked, mockDataUrl := "data:text/plain,stub" }) {},
        .runPosted {}, .stubWritten 1 false]
      (fun s => s.sent == [(1, .onReceiveResponse (some "data:text/plain,stub"))] && s.stuck 1)
      (by decide)
    simp only [Bool.and_eq_true, beq_iff_eq] at hs
    exact ⟨s, run, hs.1, not_driven_of_stuck hs.2⟩

end ProxyFactory

end ChromiumAdblock
