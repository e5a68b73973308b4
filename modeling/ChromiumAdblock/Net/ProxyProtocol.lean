import ChromiumAdblock.Net.ProxyStanding

/-! The proxy between two loads.  To its client it is a loader, and to the network a client; if the
network keeps the protocol of a load, so does the proxy, on both sides.  Then a client never follows
a redirect while something of its request is under way, and every leg was checked. -/

namespace ChromiumAdblock

open LoadProtocol

/-- What the loader of a request reports with an event. -/
def ProxyEvent.report : ProxyEvent → Option (Nat × Report)
  | .receiveResponse id _ => some (id, .response)
  | .receiveRedirect id _ _ => some (id, .redirect)
  | .complete id errorCode => some (id, .complete (errorCode == Net.OK))
  | _ => none

/-- The traces of the request `id` after an event reached it, before it runs. -/
def Traces.received (id : Nat) (tr : Traces) (e : ProxyEvent) : Traces :=
  match e with
  | .followRedirect i _ _ => if i = id then tr.toClient .follow else tr
  | e =>
    match e.report with
    | some (i, report) => if i = id then tr.toLoader (.report report) else tr
    | none => tr

/-- The proxy with the traces of its requests. -/
structure WatchedProxy where
  proxy : ProxyFactory
  traces : Nat → Traces

namespace WatchedProxy

open EventMachine

def init : WatchedProxy := ⟨.init, fun _ => {}⟩

/-- The messages that a step sent for the request `id`. -/
def sentFor (id : Nat) (s s' : ProxyFactory) : List Message :=
  ((s'.sent.drop s.sent.length).filter (·.1 == id)).map (·.2)

def step (setup : ProxySetup) (w : WatchedProxy) (e : ProxyEvent) :
    Except ProxyFault WatchedProxy :=
  match w.proxy.step setup e with
  | .error fault => .error fault
  | .ok s => .ok ⟨s, fun id =>
      (sentFor id w.proxy s).foldl Traces.sent ((w.traces id).received id e)⟩

/-- The network reports nothing that the protocol does not allow. -/
def inProtocol (w : WatchedProxy) (e : ProxyEvent) : Prop :=
  ∀ reported ∈ e.report, Conforms ((w.traces reported.1).loader ++ [.report reported.2])

instance (w : WatchedProxy) (e : ProxyEvent) : Decidable (w.inProtocol e) :=
  inferInstanceAs (Decidable (∀ reported ∈ e.report, _))

def machine (setup : ProxySetup) : Machine WatchedProxy ProxyEvent ProxyFault where
  enabled w e := w.proxy.enabled e ∧ w.inProtocol e
  step := step setup

instance (setup : ProxySetup) (w : WatchedProxy) (e : ProxyEvent) :
    Decidable ((machine setup).enabled w e) :=
  inferInstanceAs (Decidable (w.proxy.enabled e ∧ w.inProtocol e))

variable {setup : ProxySetup} {w w' : WatchedProxy} {e : ProxyEvent}

/-- A request stands where the traces say. -/
structure StandsAt (tr : Traces) (id : Nat) (h : RequestHandler BoundContinuation)
    (r : InProgressRequest) (loader client : LoadPhase) : Prop where
  atLoader : after tr.loader .loading = some loader
  atClient : after tr.client .loading = some client
  standing : Standing loader r client (h.outstanding id)

/-- Standing where the traces say, as a property of a request. -/
def standingAt (traces : Nat → Traces) : ProxyFactory.LocalProperty where
  holds id h r := ∃ loader client, StandsAt (traces id) id h r loader client
  sameFor := by
    rintro id h h' r hsame ⟨loader, client, hloader, hclient, hstanding⟩
    exact ⟨loader, client, hloader, hclient, by rwa [hsame.outstanding]⟩

/-- The state that every step keeps. -/
structure Kept (w : WatchedProxy) : Prop where
  wellFormed : w.proxy.WellFormed
  staged : w.proxy.All ProxyFactory.staged
  legs : ∀ sent ∈ w.proxy.sent, sent.2.Checked
  standing : w.proxy.All (standingAt w.traces)
  unused : ∀ id, w.proxy.lastRequestId < id → w.traces id = {}
  loader : ∀ id, Conforms (w.traces id).loader
  client : ∀ id, Conforms (w.traces id).client

/-- Where nothing of a request is to be run, nothing of it is under way. -/
theorem quiet_of_nothing {id : Nat} {h : RequestHandler BoundContinuation} {r : InProgressRequest}
    (hstage : Stage id h r) (hnone : h.outstanding id = []) : h.Quiet id := by
  obtain ⟨hentry, hposted⟩ := RequestHandler.outstanding_eq_nil.mp hnone
  cases hstage with
  | idle quiet => exact quiet
  | waiting _ _ _ _ _ _ entry => simp [entry] at hentry
  | posted _ _ _ _ _ _ _ _ completion => simp [hposted] at completion

theorem not_busy_of_quiet {s : ProxyFactory} {id : Nat} (h : s.handler.Quiet id) :
    s.busy id = false := by
  simp only [ProxyFactory.busy, Bool.or_eq_false_iff, List.any_eq_false, List.mem_range]
  refine ⟨fun p hp => ?_, fun a _ => ?_⟩
  · exact List.filter_eq_nil_iff.mp h.unposted p hp
  · cases hcell : s.handler.ctxs a with
    | none => simp
    | some cell =>
      have hunheld := h.unheld a cell hcell
      simpa [and_assoc] using hunheld

/-- A client that keeps the protocol follows a redirect only while its request is idle. -/
theorem Kept.followsWhenIdle (hw : w.Kept) (henabled : w.proxy.enabled e) :
    w.proxy.followsWhenIdle e := by
  cases e with
  | followRedirect id newUrl env =>
    obtain ⟨r, hr, hawaited⟩ := henabled
    obtain ⟨loader, client, -, -, hstanding⟩ := hw.standing id r hr
    obtain ⟨-, hnone, -⟩ := hstanding.redirected_of_awaited hawaited
    exact not_busy_of_quiet (quiet_of_nothing (hw.staged id r hr) hnone)
  | _ => trivial

theorem received_of_ne {id other : Nat} {f : Turn → Except ProxyFault Turn} {s : ProxyFactory}
    (hf : ProxyFactory.method setup s e = some (id, f)) (hne : other ≠ id) (tr : Traces) :
    tr.received other e = tr := by
  cases e <;> simp [ProxyFactory.method] at hf <;>
    simp [Traces.received, ProxyEvent.report, *, Ne.symm hne]

theorem listens_eq {s : ProxyFactory} {id : Nat} {r : InProgressRequest}
    (hr : s.requests id = some r) (h : s.listens id = true) :
    r.clientReceiverBound = true ∧ r.clientReceiverPaused = false := by
  simpa [ProxyFactory.listens, hr] using h

/-- The continuation that is posted first is the one that its request has still to run. -/
theorem outstanding_of_posted {h : RequestHandler BoundContinuation} {id a : Nat} {rv : Int}
    {c : Continuation} {rest : List (Completion BoundContinuation)}
    (hposted : h.posted = ⟨⟨id, c⟩, rv, a⟩ :: rest) (hone : (h.outstanding id).length ≤ 1) :
    h.outstanding id = [c] ∧ RequestHandler.outstanding id { h with posted := rest } = [] := by
  have hfirst : h.postedFor id = ⟨⟨id, c⟩, rv, a⟩ :: rest.filter (·.callback.requestId == id) := by
    simp [RequestHandler.postedFor, hposted]
  cases hentry : (h.callbacks id).join with
  | some k =>
    simp [RequestHandler.outstanding, hentry, hfirst] at hone
  | none =>
    have hrest : rest.filter (·.callback.requestId == id) = [] := by
      simpa [RequestHandler.outstanding, hentry, hfirst] using hone
    refine ⟨by simp [RequestHandler.outstanding, hentry, hfirst, hrest], ?_⟩
    exact RequestHandler.outstanding_eq_nil.mpr ⟨hentry, hrest⟩

/-- The turn that an event runs keeps the protocol. -/
theorem Kept.served {id : Nat} {f : Turn → Except ProxyFault Turn} {r : InProgressRequest}
    {t : Turn} (hw : w.Kept) (henabled : w.proxy.enabled e) (hprotocol : w.inProtocol e)
    (hf : ProxyFactory.method setup w.proxy e = some (id, f))
    (hr : (w.proxy.prepare e).requests id = some r)
    (ht : f { id := id, handler := (w.proxy.prepare e).handler, r := r } = .ok t) :
    t.Served ((w.traces id).received id e) := by
  have hb := hw.wellFormed.bounded
  cases e with
  | createLoaderAndStart request env =>
    obtain ⟨rfl, rfl⟩ := Prod.mk.inj (Option.some.inj hf)
    obtain rfl : { request := request } = r := by
      simpa [ProxyFactory.prepare, ProxyFactory.withNewRequest] using hr
    have htr : (w.traces (w.proxy.lastRequestId + 1)).received (w.proxy.lastRequestId + 1)
        (.createLoaderAndStart request env) = {} := hw.unused _ (Nat.lt_succ_self _)
    rw [htr]
    refine Turn.served_restartInternal .loading ⟨⟨rfl, rfl⟩, ?_⟩ rfl rfl (by simp) ht
    exact RequestHandler.outstanding_of_new hb (Nat.lt_succ_self _)
  | followRedirect i newUrl env =>
    obtain ⟨rfl, rfl⟩ := Prod.mk.inj (Option.some.inj hf)
    obtain ⟨q, hq, hawaited⟩ := henabled
    obtain rfl : q = r := Option.some.inj (hq.symm.trans hr)
    obtain ⟨loader, client, hloader, hclient, hstanding⟩ := hw.standing i q hr
    obtain ⟨rfl, hnone, hone, hwrites, hbound⟩ := hstanding.redirected_of_awaited hawaited
    refine Turn.served_restartInternal loader ⟨⟨?_, ?_⟩, hnone⟩ ?_ hwrites hbound ht
    · simpa [Turn.traces, Traces.received, Traces.toClient, Turn.takeFollowRedirect] using hloader
    · simpa [Turn.traces, Traces.received, Traces.toClient, Turn.takeFollowRedirect, LoadPhase.next]
        using after_concat (x := .follow) hclient
    · simp [Turn.takeFollowRedirect, hone]
  | loaderDisconnected i followRedirectReason =>
    obtain ⟨rfl, rfl⟩ := Prod.mk.inj (Option.some.inj hf)
    obtain rfl := Except.ok.inj ht
    obtain ⟨loader, client, hloader, hclient, hstanding⟩ := hw.standing i r hr
    unfold Turn.onLoaderDisconnected
    split
    · exact Turn.served_destroy ⟨hloader, hclient⟩
    · exact Turn.served_onRequestError ⟨hloader, hclient⟩ (by decide) hstanding.reports
  | clientDisconnected i =>
    obtain ⟨rfl, rfl⟩ := Prod.mk.inj (Option.some.inj hf)
    obtain rfl := Except.ok.inj ht
    obtain ⟨loader, client, hloader, hclient, hstanding⟩ := hw.standing i r hr
    exact Turn.served_onRequestError ⟨hloader, hclient⟩ (by decide) hstanding.reports
  | receiveResponse i env =>
    obtain ⟨rfl, rfl⟩ := Prod.mk.inj (Option.some.inj hf)
    obtain ⟨loader, client, hloader, hclient, hstanding⟩ := hw.standing i r hr
    obtain ⟨hbound, hheard⟩ := listens_eq hr henabled
    obtain ⟨next, hnext, hafter⟩ := (hprotocol (i, .response) rfl).next hloader
    obtain ⟨rfl, hnone, hopen, rfl⟩ := hstanding.loading_of_heard
      (hw.wellFormed.bound i r hr) hbound hheard hnext (by simp)
    obtain rfl : LoadPhase.responded = next := by simpa [LoadPhase.next] using hnext
    have hsettled : Turn.Settled ((w.traces i).received i (.receiveResponse i env)) .responded
        .loading { id := i, handler := w.proxy.handler, r := r } := by
      refine ⟨⟨?_, ?_⟩, hnone⟩
      · simpa [Turn.traces, Traces.received, ProxyEvent.report, Traces.toLoader] using hafter
      · simpa [Turn.traces, Traces.received, ProxyEvent.report, Traces.toLoader] using hclient
    refine Turn.served_handleResponseOrRedirectHeaders .response (hsettled.modifyCtx _) ?_ ht
    rwa [Turn.modifyCtx_r]
  | receiveRedirect i redirectInfo env =>
    obtain ⟨rfl, rfl⟩ := Prod.mk.inj (Option.some.inj hf)
    obtain ⟨loader, client, hloader, hclient, hstanding⟩ := hw.standing i r hr
    obtain ⟨hbound, hheard⟩ := listens_eq hr henabled
    obtain ⟨next, hnext, hafter⟩ := (hprotocol (i, .redirect) rfl).next hloader
    obtain ⟨rfl, hnone, hopen, rfl⟩ := hstanding.loading_of_heard
      (hw.wellFormed.bound i r hr) hbound hheard hnext (by simp)
    obtain rfl : LoadPhase.redirected = next := by simpa [LoadPhase.next] using hnext
    have hsettled : Turn.Settled ((w.traces i).received i (.receiveRedirect i redirectInfo env))
        .redirected .loading { id := i, handler := w.proxy.handler, r := r } := by
      refine ⟨⟨?_, ?_⟩, hnone⟩
      · simpa [Turn.traces, Traces.received, ProxyEvent.report, Traces.toLoader] using hafter
      · simpa [Turn.traces, Traces.received, ProxyEvent.report, Traces.toLoader] using hclient
    refine Turn.served_handleResponseOrRedirectHeaders (.redirect redirectInfo)
      (hsettled.modifyCtx _) ?_ ht
    rwa [Turn.modifyCtx_r]
  | complete i errorCode =>
    obtain ⟨rfl, rfl⟩ := Prod.mk.inj (Option.some.inj hf)
    obtain rfl := Except.ok.inj ht
    obtain ⟨loader, client, hloader, hclient, hstanding⟩ := hw.standing i r hr
    obtain ⟨hbound, hheard⟩ := listens_eq hr henabled
    obtain ⟨next, hnext, hafter⟩ :=
      (hprotocol (i, .complete (errorCode == Net.OK)) rfl).next hloader
    refine Turn.served_onComplete next client ⟨?_, ?_⟩ hstanding.reports
      fun hok => ?_
    · simpa [Turn.traces, Traces.received, ProxyEvent.report, Traces.toLoader] using hafter
    · simpa [Turn.traces, Traces.received, ProxyEvent.report, Traces.toLoader] using hclient
    · rw [show (errorCode == Net.OK) = true by simpa using hok] at hnext
      exact hstanding.responded_of_heard (hw.wellFormed.bound i r hr) hbound hheard hnext
  | runPosted env =>
    simp only [ProxyFactory.method, Option.map_eq_some_iff] at hf
    obtain ⟨⟨⟨i, c⟩, rv, a⟩, hhead, hf⟩ := hf
    obtain ⟨rest, hposted⟩ := List.head?_eq_some_iff.mp hhead
    obtain ⟨rfl, rfl⟩ := Prod.mk.inj hf
    obtain ⟨loader, client, hloader, hclient, hstanding⟩ := hw.standing i r hr
    obtain ⟨hone, hrest⟩ := outstanding_of_posted hposted hstanding.length_le
    rw [hone] at hstanding
    have hidle : (w.proxy.prepare (.runPosted env)).handler.outstanding i = [] := by
      simpa [ProxyFactory.prepare, ProxyFactory.withPosted, hposted] using hrest
    have hsettled : Turn.Settled (w.traces i) loader client
        { id := i, handler := (w.proxy.prepare (.runPosted env)).handler, r := r } :=
      ⟨⟨hloader, hclient⟩, hidle⟩
    exact Turn.served_runContinuation hsettled hstanding ht
  | stubWritten i written =>
    obtain ⟨rfl, rfl⟩ := Prod.mk.inj (Option.some.inj hf)
    obtain rfl := Except.ok.inj ht
    obtain ⟨q, hq, hwrites⟩ := henabled
    obtain rfl : q = r := Option.some.inj (hq.symm.trans hr)
    obtain ⟨loader, client, hloader, hclient, hstanding⟩ := hw.standing i q hr
    obtain rfl := hstanding.responded_of_writes hwrites
    unfold Turn.onWrite
    dsimp only
    split
    · refine ⟨loader, .responded, ⟨hloader, hclient⟩, fun _ => ?_⟩
      show Standing loader { q with stubWrites := q.stubWrites - 1 } .responded
        (w.proxy.handler.outstanding i)
      generalize w.proxy.handler.outstanding i = pending at hstanding
      cases hstanding with
      | responded completed awaited bound => exact .responded completed awaited bound
    · exact Turn.served_onComplete _ _ ⟨hloader, hclient⟩ (fun _ => .inr rfl) fun _ => rfl
  | clone | resume | targetFactoryError | proxyBindingError => contradiction

theorem sentFor_none {id : Nat} {s s' : ProxyFactory} (h : s'.sent = s.sent) :
    sentFor id s s' = [] := by
  simp [sentFor, h]

theorem sentFor_turn {s s' : ProxyFactory} {t : Turn}
    (h : s'.sent = s.sent ++ t.sent.map (t.id, ·)) (id : Nat) :
    sentFor id s s' = if id = t.id then t.sent else [] := by
  rw [sentFor, h, List.drop_left]
  split
  · rename_i heq
    subst heq
    simp [List.filter_map, Function.comp_def]
  · rename_i hne
    simp [List.filter_map, Function.comp_def, Ne.symm hne]

theorem step_eq {w : WatchedProxy} (hstep : step setup w e = .ok w') :
    w.proxy.step setup e = .ok w'.proxy ∧ ∀ id, w'.traces id =
      (sentFor id w.proxy w'.proxy).foldl Traces.sent ((w.traces id).received id e) := by
  unfold step at hstep
  split at hstep
  · contradiction
  · rename_i s hs
    obtain rfl := Except.ok.inj hstep
    exact ⟨hs, fun _ => rfl⟩

theorem lastRequestId_step {s s' : ProxyFactory} (h : s.step setup e = .ok s') :
    s.lastRequestId ≤ s'.lastRequestId := by
  cases hf : ProxyFactory.method setup s e with
  | some method =>
    rw [ProxyFactory.step_method hf] at h
    have hprepare : s.lastRequestId ≤ (s.prepare e).lastRequestId := by
      cases e <;> first | exact Nat.le_refl _ | exact Nat.le_succ _
    rcases ProxyFactory.turn_cases h with ⟨-, rfl⟩ | ⟨r, t, -, -, rfl⟩
    · exact hprepare
    · simpa using hprepare
  | none =>
    cases e with
    | resume a decision env =>
      simp only [ProxyFactory.step] at h
      split at h
      · contradiction
      · obtain rfl := Except.ok.inj h
        unfold ProxyFactory.writeNewUrl
        split <;> exact Nat.le_refl _
    | runPosted env =>
      simp only [ProxyFactory.step] at h
      split at h
      · obtain rfl := Except.ok.inj h
        exact Nat.le_refl _
      · rename_i hposted
        simp [ProxyFactory.method, hposted] at hf
    | clone | targetFactoryError | proxyBindingError =>
      obtain rfl := Except.ok.inj h
      simp
    | _ => contradiction

/-- An event that runs no request leaves the traces alone. -/
theorem traces_of_no_method (henabled : w.proxy.enabled e)
    (hf : ProxyFactory.method setup w.proxy e = none) (hstep : step setup w e = .ok w') :
    w'.traces = w.traces := by
  obtain ⟨hproxy, htraces⟩ := step_eq hstep
  have hsent : w'.proxy.sent = w.proxy.sent := by
    rcases ProxyFactory.step_sent henabled hproxy with hsent | ⟨id, f, r, t, hmethod, -⟩
    · exact hsent
    · simp [hf] at hmethod
  funext id
  rw [htraces, sentFor_none hsent]
  cases e <;> first | rfl | simp [ProxyFactory.method] at hf

/-- What an event that runs a request does to the traces. -/
theorem traces_of_method {id : Nat} {f : Turn → Except ProxyFault Turn} (hw : w.Kept)
    (henabled : w.proxy.enabled e) (hprotocol : w.inProtocol e)
    (hf : ProxyFactory.method setup w.proxy e = some (id, f)) (hstep : step setup w e = .ok w') :
    ((w.proxy.prepare e).requests id = none ∧ w'.proxy = w.proxy.prepare e ∧
        w'.traces = w.traces) ∨
      ∃ r t, (w.proxy.prepare e).requests id = some r ∧
        f { id := id, handler := (w.proxy.prepare e).handler, r := r } = .ok t ∧
        w'.proxy = (w.proxy.prepare e).endTurn t ∧ t.id = id ∧
        t.Served ((w.traces id).received id e) ∧
        w'.traces id = t.traces ((w.traces id).received id e) ∧
        (∀ other, other ≠ id → w'.traces other = w.traces other) := by
  obtain ⟨hproxy, htraces⟩ := step_eq hstep
  rw [ProxyFactory.step_method hf] at hproxy
  rcases ProxyFactory.turn_cases hproxy with ⟨hnone, hs⟩ | ⟨r, t, hr, ht, hs⟩
  · refine .inl ⟨hnone, hs, ?_⟩
    funext i
    rw [htraces, sentFor_none (by rw [hs, ProxyFactory.prepare_sent])]
    cases e with
    | createLoaderAndStart request env =>
      obtain ⟨rfl, -⟩ := Prod.mk.inj (Option.some.inj hf)
      simp [ProxyFactory.prepare, ProxyFactory.withNewRequest] at hnone
    | followRedirect j newUrl env =>
      obtain ⟨rfl, -⟩ := Prod.mk.inj (Option.some.inj hf)
      obtain ⟨r, hr, -⟩ := henabled
      exact absurd (hr.symm.trans hnone) (by simp)
    | receiveResponse j env | receiveRedirect j redirectInfo env | complete j errorCode =>
      obtain ⟨rfl, -⟩ := Prod.mk.inj (Option.some.inj hf)
      replace hnone : w.proxy.requests j = none := hnone
      simp [ProxyFactory.enabled, ProxyFactory.listens, hnone] at henabled
    | _ => rfl
  · have hkept := ProxyFactory.method_keeps hf ((hw.wellFormed.prepare e).sound hr) ht
    have hid : t.id = id := hkept.id_eq
    have hsent : w'.proxy.sent = w.proxy.sent ++ t.sent.map (t.id, ·) := by
      rw [hs, ProxyFactory.endTurn_sent, ProxyFactory.prepare_sent]
    refine .inr ⟨r, t, hr, ht, hs, hid, hw.served henabled hprotocol hf hr ht, ?_,
      fun other hne => ?_⟩
    · rw [htraces, sentFor_turn hsent, if_pos hid.symm, Turn.traces]
    · rw [htraces, sentFor_turn hsent, if_neg (hid ▸ hne), received_of_ne hf hne]
      rfl

theorem Kept.step (hw : w.Kept) (henabled : w.proxy.enabled e) (hprotocol : w.inProtocol e)
    (hstep : step setup w e = .ok w') : w'.Kept := by
  have hproxy := (step_eq hstep).1
  obtain ⟨⟨hwell, hstaged⟩, hlegs⟩ := ProxyFactory.step_staged henabled
    (hw.followsWhenIdle henabled) hproxy hw.wellFormed hw.staged hw.legs
  have hlast := lastRequestId_step hproxy
  cases hf : ProxyFactory.method setup w.proxy e with
  | none =>
    have htraces := traces_of_no_method henabled hf hstep
    have hstanding : w'.proxy.All (standingAt w.traces) := by
      refine (hw.wellFormed.step hw.standing henabled hproxy ?_ ?_).2
      · intro id f r t hmethod
        simp [hf] at hmethod
      · rintro a decision env cell h newUrl r - hcell hresume - ⟨loader, client, hstands⟩
        refine ⟨loader, client, hstands.atLoader, hstands.atClient, ?_⟩
        rw [RequestHandler.outstanding_resume hw.wellFormed.bounded hcell hresume
          hstands.standing.length_le]
        exact hstands.standing.writeRedirectUrl newUrl
    exact ⟨hwell, hstaged, hlegs, htraces ▸ hstanding,
      fun id hid => by rw [htraces]; exact hw.unused id (by omega),
      fun id => by rw [htraces]; exact hw.loader id, fun id => by rw [htraces]; exact hw.client id⟩
  | some method =>
    obtain ⟨id, f⟩ := method
    rcases traces_of_method hw henabled hprotocol hf hstep with
      ⟨hnone, hs, htraces⟩ | ⟨r, t, hr, ht, hs, hid, hserved, hown, hothers⟩
    · have hstanding : w'.proxy.All (standingAt w.traces) := by
        intro i r hr
        have hne : i ≠ id := by
          rintro rfl
          simp [← hs, hr] at hnone
        rw [hs] at hr ⊢
        exact hw.standing.prepare hf i r hne hr
      exact ⟨hwell, hstaged, hlegs, htraces ▸ hstanding,
        fun i hi => by rw [htraces]; exact hw.unused i (by omega),
        fun i => by rw [htraces]; exact hw.loader i, fun i => by rw [htraces]; exact hw.client i⟩
    · obtain ⟨loader, client, hat, hstanding⟩ := hserved
      have hkept := ProxyFactory.method_keeps hf ((hw.wellFormed.prepare e).sound hr) ht
      have hrange : id ≤ w'.proxy.lastRequestId := by
        rw [hs, ProxyFactory.endTurn_lastRequestId]
        exact (hw.wellFormed.prepare e).inRange id r hr
      have hbefore : (w.proxy.prepare e).Others (standingAt w'.traces) id := by
        intro i q hne hq
        obtain ⟨loader, client, hstands⟩ := hw.standing.prepare hf i q hne hq
        exact ⟨loader, client, by rwa [hothers i hne]⟩
      have hall : w'.proxy.All (standingAt w'.traces) := by
        rw [hs]
        refine ((hw.wellFormed.prepare e).endTurn hr hkept).2 hbefore fun hlive => ?_
        refine ⟨loader, client, ?_, ?_, hid ▸ hstanding hlive⟩
        · rw [hown]
          exact hat.loader
        · rw [hown]
          exact hat.client
      refine ⟨hwell, hstaged, hlegs, hall, fun i hi => ?_, fun i => ?_, fun i => ?_⟩
      · rw [hothers i (by omega)]
        exact hw.unused i (by omega)
      · by_cases hi : i = id
        · rw [hi, hown]
          exact conforms_of_after hat.loader
        · rw [hothers i hi]
          exact hw.loader i
      · by_cases hi : i = id
        · rw [hi, hown]
          exact conforms_of_after hat.client
        · rw [hothers i hi]
          exact hw.client i

theorem kept_init : init.Kept where
  wellFormed := ProxyFactory.wellFormed_init
  staged id r hr := by simp [init, ProxyFactory.init] at hr
  legs := by simp [init, ProxyFactory.init]
  standing id r hr := by simp [init, ProxyFactory.init] at hr
  unused _ _ := rfl
  loader _ := rfl
  client _ := rfl

theorem kept_of_run {es : List ProxyEvent} (run : Run (machine setup) init es w) : w.Kept := by
  refine run.preserves (P := Kept) ?_ kept_init
  rintro w e w' ⟨henabled, hprotocol⟩ hstep hw
  exact hw.step henabled hprotocol hstep

/-- If the network keeps the protocol of a load, so does the proxy: towards each client, and towards
each loader that it started. -/
theorem protocol_kept (setup : ProxySetup) {es : List ProxyEvent} {w : WatchedProxy}
    (run : Run (machine setup) init es w) (id : Nat) :
    Conforms (w.traces id).client ∧ Conforms (w.traces id).loader :=
  ⟨(kept_of_run run).client id, (kept_of_run run).loader id⟩

/-- A page that is loaded after a redirect, with a response that completes. -/
def loadAfterRedirect : List ProxyEvent :=
  ProxyFactory.loadRedirected ++ [.followRedirect 1 none {}, .resume 3 none {}, .runPosted {},
    .receiveResponse 1 {}, .resume 5 none {}, .runPosted {}, .complete 1 Net.OK]

theorem protocol_kept_redirected :
    ∃ w, Run (machine (.ofUrls .weakPtr [])) init loadAfterRedirect w ∧
      (w.traces 1).client = [.report .redirect, .follow, .report .response,
        .report (.complete true)] ∧
      (w.traces 1).loader = (w.traces 1).client ∧
      Conforms (w.traces 1).client ∧ Conforms (w.traces 1).loader := by
  obtain ⟨w, run, hw⟩ := Machine.exists_run (machine (.ofUrls .weakPtr [])) init loadAfterRedirect
    (fun w => (w.traces 1).client == [.report .redirect, .follow, .report .response,
      .report (.complete true)] && (w.traces 1).loader == (w.traces 1).client) (by decide)
  simp only [Bool.and_eq_true, beq_iff_eq] at hw
  exact ⟨w, run, hw.1, hw.2, protocol_kept _ run 1⟩

/-- If the network keeps the protocol of a load, each leg goes to the URL of the last check, which
passed without a block or a redirect. -/
theorem legs_checked_in_protocol (setup : ProxySetup) {es : List ProxyEvent} {w : WatchedProxy}
    (run : Run (machine setup) init es w) :
    ∀ id message leg, (id, message) ∈ w.proxy.sent → message.leg? = some leg → leg.Checked :=
  fun _ _ leg hsent hleg => (kept_of_run run).legs _ hsent leg hleg

theorem legs_checked_in_protocol_redirected :
    ∃ w, Run (machine (.ofUrls .weakPtr [])) init loadAfterRedirect w ∧
      w.proxy.legUrls = [(.https "a.com" "/", some (.https "a.com" "/")),
        (.https "b.com" "/", some (.https "b.com" "/"))] ∧
      ∀ id message leg, (id, message) ∈ w.proxy.sent → message.leg? = some leg → leg.Checked := by
  obtain ⟨w, run, hw⟩ := Machine.exists_run (machine (.ofUrls .weakPtr [])) init loadAfterRedirect
    (fun w => w.proxy.legUrls == [(.https "a.com" "/", some (.https "a.com" "/")),
      (.https "b.com" "/", some (.https "b.com" "/"))]) (by decide)
  exact ⟨w, run, by simpa using hw, legs_checked_in_protocol _ run⟩

end WatchedProxy

namespace ProxyFactory

open EventMachine

variable {setup : ProxySetup} {s s' : ProxyFactory} {e : ProxyEvent}

theorem hasRequests_eq_false
    (hrange : ∀ id r, s.requests id = some r → id ≤ s.lastRequestId) :
    s.hasRequests = false ↔ ∀ id, s.requests id = none := by
  simp only [hasRequests, List.any_eq_false, List.mem_range, Option.not_isSome_iff_eq_none]
  constructor
  · intro hnone id
    cases hr : s.requests id with
    | none => rfl
    | some r =>
      have hle := hrange id r hr
      simp [hnone id (by omega)] at hr
  · intro hnone id _
    exact hnone id

/-- Nothing keeps the proxy: the target factory has gone, and no request is left. -/
def Unneeded (s : ProxyFactory) : Prop :=
  s.targetFactoryBound = false ∧ ∀ id, s.requests id = none

theorem maybeRemoveProxy_removed
    (hrange : ∀ id r, s.requests id = some r → id ≤ s.lastRequestId)
    (hremoved : s.removed = true → s.Unneeded) :
    s.maybeRemoveProxy.removed = true ↔ s.maybeRemoveProxy.Unneeded := by
  simp only [Unneeded, maybeRemoveProxy_targetFactoryBound, maybeRemoveProxy_requests]
  unfold maybeRemoveProxy
  split
  · rename_i hkept
    refine ⟨hremoved, fun ⟨hbound, hnone⟩ => ?_⟩
    simp [hbound, (hasRequests_eq_false hrange).mpr hnone] at hkept
  · rename_i hgone
    simp only [Bool.or_eq_true, not_or, Bool.not_eq_true] at hgone
    exact ⟨fun _ => ⟨hgone.1, (hasRequests_eq_false hrange).mp hgone.2⟩, fun _ => rfl⟩

theorem prepare_flags (s : ProxyFactory) (e : ProxyEvent) :
    (s.prepare e).removed = s.removed ∧
      (s.prepare e).targetFactoryBound = s.targetFactoryBound := by
  cases e <;> exact ⟨rfl, rfl⟩

/-- The turn of a request of a proxy that is there deletes the proxy if nothing keeps it. -/
theorem endTurn_removed {t : Turn} (hs : s.WellFormed) (hthere : s.removed = false) :
    (s.endTurn t).removed = true ↔ (s.endTurn t).Unneeded := by
  cases hdestroyed : t.destroyed with
  | false =>
    have hremoved : (s.endTurn t).removed = false := by
      simp [endTurn, hdestroyed, hthere]
    have hleft : (s.endTurn t).requests t.id = some t.r := by
      simp [endTurn_requests, hdestroyed]
    refine ⟨fun h => by simp [hremoved] at h, fun ⟨_, hnone⟩ => ?_⟩
    simp [hnone] at hleft
  | true =>
    obtain ⟨u, hu⟩ : ∃ u : ProxyFactory, u = { s with
        handler := t.handler
        requests := Function.update s.requests t.id none
        sent := s.sent ++ t.sent.map (t.id, ·) } := ⟨_, rfl⟩
    have hend : s.endTurn t = u.maybeRemoveProxy := by
      simp [endTurn, hdestroyed, hu]
    rw [hend]
    refine maybeRemoveProxy_removed (fun i q hq => ?_) fun h => ?_
    · subst hu
      by_cases hi : i = t.id
      · simp [hi] at hq
      · exact hs.inRange i q (by simpa [hi] using hq)
    · subst hu
      simp [hthere] at h

/-- A step keeps a proxy deleted exactly if nothing keeps it. -/
theorem step_removed (hs : s.WellFormed) (hremoved : s.removed = true ↔ s.Unneeded)
    (henabled : s.enabled e) (hstep : step setup s e = .ok s') :
    s'.removed = true ↔ s'.Unneeded := by
  cases hf : method setup s e with
  | some method =>
    obtain ⟨id, f⟩ := method
    rw [step_method hf] at hstep
    rcases turn_cases hstep with ⟨hnone, rfl⟩ | ⟨r, t, hr, -, rfl⟩
    · cases e with
      | createLoaderAndStart request env =>
        obtain ⟨rfl, -⟩ := Prod.mk.inj (Option.some.inj hf)
        simp [prepare, withNewRequest] at hnone
      | _ => exact hremoved
    · refine endTurn_removed (hs.prepare e) ?_
      rw [(prepare_flags s e).1]
      by_contra hgone
      obtain ⟨hbound, hnone⟩ := hremoved.mp (by simpa using hgone)
      cases e with
      | createLoaderAndStart request env =>
        simp [hs.receivers henabled] at hbound
      | clone | resume | targetFactoryError | proxyBindingError => contradiction
      | _ =>
        have hr' : s.requests id = some r := hr
        simp [hnone id] at hr'
  | none =>
    cases e with
    | resume a decision env =>
      obtain ⟨cell, hcell, -⟩ := henabled
      simp only [step] at hstep
      split at hstep
      · contradiction
      · rename_i h newUrl hresume
        obtain rfl := Except.ok.inj hstep
        have hflags : ({ s with handler := h }.writeNewUrl a newUrl).removed = s.removed ∧
            ({ s with handler := h }.writeNewUrl a newUrl).targetFactoryBound =
              s.targetFactoryBound ∧
            ∀ i, ({ s with handler := h }.writeNewUrl a newUrl).requests i = none ↔
              s.requests i = none := by
          unfold writeNewUrl
          split
          · exact ⟨rfl, rfl, fun _ => Iff.rfl⟩
          · refine ⟨rfl, rfl, fun i => ?_⟩
            dsimp only
            split <;> simp
        simp only [Unneeded, hflags.1, hflags.2.1, hflags.2.2]
        exact hremoved
    | runPosted env =>
      rcases hposted : s.handler.posted with _ | ⟨completion, rest⟩
      · exact absurd hposted henabled
      · simp [ProxyFactory.method, hposted] at hf
    | clone =>
      obtain rfl := Except.ok.inj hstep
      exact hremoved
    | targetFactoryError =>
      obtain rfl := Except.ok.inj hstep
      refine maybeRemoveProxy_removed hs.inRange fun h => ?_
      exact ⟨rfl, (hremoved.mp h).2⟩
    | proxyBindingError =>
      obtain rfl := Except.ok.inj hstep
      refine maybeRemoveProxy_removed hs.inRange fun h => ?_
      exact ⟨by simp [(hremoved.mp h).1], (hremoved.mp h).2⟩
    | _ => contradiction

theorem wellFormed_step (hs : s.WellFormed) (henabled : s.enabled e)
    (hstep : step setup s e = .ok s') : s'.WellFormed := by
  have hnothing : s.All ⟨fun _ _ _ => True, fun _ h => h⟩ := fun _ _ _ => trivial
  exact (hs.step hnothing henabled hstep (fun _ _ _ _ _ _ _ _ => trivial)
    fun _ _ _ _ _ _ _ _ _ _ _ _ => trivial).1

/-- Nothing is left of the proxy to run, and it has told nobody anything since it sent `past`. -/
structure Gone (past : List (Nat × Message)) (s : ProxyFactory) : Prop where
  removed : s.removed = true
  unneeded : s.Unneeded
  receivers : s.proxyReceivers = 0
  silent : s.sent = past

/-- The events of the request handler, which all proxies of a profile share. -/
def ofHandler : ProxyEvent → Bool
  | .resume _ _ _ | .runPosted _ => true
  | _ => false

theorem Gone.step {past : List (Nat × Message)} (hs : s.Gone past) (henabled : s.enabled e)
    (hstep : step setup s e = .ok s') : ofHandler e = true ∧ s'.Gone past := by
  obtain ⟨hremoved, ⟨hbound, hnone⟩, hreceivers, hsilent⟩ := hs
  cases e with
  | createLoaderAndStart | clone | proxyBindingError =>
    simp [enabled, hreceivers] at henabled
  | targetFactoryError => simp [enabled, hbound] at henabled
  | loaderDisconnected id _ | clientDisconnected id => simp [enabled, hnone] at henabled
  | followRedirect id _ _ | stubWritten id _ => simp [enabled, hnone] at henabled
  | receiveResponse id _ | receiveRedirect id _ _ | complete id _ =>
    simp [enabled, listens, hnone] at henabled
  | resume a decision env =>
    simp only [ProxyFactory.step] at hstep
    split at hstep
    · contradiction
    · obtain rfl := Except.ok.inj hstep
      unfold writeNewUrl
      split
      · exact ⟨rfl, hremoved, ⟨hbound, hnone⟩, hreceivers, hsilent⟩
      · refine ⟨rfl, hremoved, ⟨hbound, fun id => ?_⟩, hreceivers, hsilent⟩
        simp [hnone]
  | runPosted env =>
    simp only [ProxyFactory.step] at hstep
    split at hstep
    · obtain rfl := Except.ok.inj hstep
      exact ⟨rfl, hremoved, ⟨hbound, hnone⟩, hreceivers, hsilent⟩
    · simp only [turn, withPosted, hnone] at hstep
      obtain rfl := Except.ok.inj hstep
      exact ⟨rfl, hremoved, ⟨hbound, hnone⟩, hreceivers, hsilent⟩

/-- The proxy has deleted itself exactly if its target factory has gone and no request is left; and
from then on nothing reaches it, the events of the shared handler find no request, and it sends
nothing. -/
theorem removed_iff_unneeded (setup : ProxySetup) {es : List ProxyEvent} {s : ProxyFactory}
    (run : Run (machine setup) init es s) :
    (s.removed = true ↔ s.targetFactoryBound = false ∧ ∀ id, s.requests id = none) ∧
      ∀ later s', s.removed = true → Run (machine setup) s later s' →
        (∀ e ∈ later, ofHandler e = true) ∧ s'.removed = true ∧ s'.sent = s.sent := by
  have hinit : init.WellFormed ∧ (init.removed = true ↔ init.Unneeded) :=
    ⟨wellFormed_init, by simp [init, Unneeded]⟩
  obtain ⟨hs, hremoved⟩ := run.preserves
    (P := fun s => s.WellFormed ∧ (s.removed = true ↔ s.Unneeded)) (by
      rintro s e s' henabled hstep ⟨hs, hremoved⟩
      exact ⟨wellFormed_step hs henabled hstep, step_removed hs hremoved henabled hstep⟩) hinit
  refine ⟨hremoved, fun later s' hgone hlater => ?_⟩
  have hreceivers : s.proxyReceivers = 0 := by
    by_contra hleft
    have hbound := hs.receivers (Nat.pos_of_ne_zero hleft)
    simp [(hremoved.mp hgone).1] at hbound
  have hend := hlater.preserves_past
    (P := fun past s' => (∀ e ∈ past, ofHandler e = true) ∧ s'.Gone s.sent) (by
      rintro past u e u' henabled hstep ⟨hpast, hu⟩
      obtain ⟨he, hu'⟩ := hu.step henabled hstep
      refine ⟨fun x hx => ?_, hu'⟩
      rcases List.mem_append.mp hx with hold | hlast
      · exact hpast x hold
      · obtain rfl := List.mem_singleton.mp hlast
        exact he) ⟨List.forall_mem_nil _, hgone, hremoved.mp hgone, hreceivers, rfl⟩
  exact ⟨by simpa using hend.1, hend.2.removed, hend.2.silent⟩

/-- The factory of the network goes away while a check is under way, and then the client. -/
theorem removed_iff_unneeded_abandoned :
    ∃ s, Run (machine (.ofUrls .weakPtr [])) init
        [.createLoaderAndStart { url := .https "a.com" "/" } {}, .targetFactoryError,
          .clientDisconnected 1] s ∧
      (s.removed = true ∧ s.targetFactoryBound = false ∧ ∀ id, s.requests id = none) ∧
      ∀ later s', Run (machine (.ofUrls .weakPtr [])) s later s' →
        (∀ e ∈ later, ofHandler e = true) ∧ s'.removed = true ∧ s'.sent = s.sent := by
  obtain ⟨s, run, hs⟩ := Machine.exists_run (machine (.ofUrls .weakPtr [])) init
    [.createLoaderAndStart { url := .https "a.com" "/" } {}, .targetFactoryError,
      .clientDisconnected 1] (fun s => s.removed) (by decide)
  obtain ⟨hremoved, hlater⟩ := removed_iff_unneeded _ run
  exact ⟨s, run, ⟨hs, hremoved.mp hs⟩, fun later s' => hlater later s' hs⟩

end ProxyFactory

end ChromiumAdblock
