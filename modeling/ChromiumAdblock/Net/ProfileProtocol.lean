import ChromiumAdblock.Net.ResourceContextData

/-! The protocol of loads in a profile: as long as the network keeps it, every proxy of the profile
does, however many there are and in whatever order they run. -/

namespace ChromiumAdblock

open LoadProtocol EventMachine

namespace WatchedProxy

variable {setup : ProxySetup} {w w' : WatchedProxy} {e : ProxyEvent}

/-- The traces of a request stay the same, unless the event is about it. -/
theorem traces_of_step (hw : w.Kept) (henabled : w.proxy.enabled e) (hprotocol : w.inProtocol e)
    (hstep : step setup w e = .ok w') {id : Nat} (hid : w.proxy.subject setup e ≠ some id) :
    w'.traces id = w.traces id := by
  cases hf : ProxyFactory.method setup w.proxy e with
  | none => rw [traces_of_no_method henabled hf hstep]
  | some method =>
    obtain ⟨i, f⟩ := method
    have hne : id ≠ i := by
      rintro rfl
      exact hid (ProxyFactory.subject_of_method hf)
    rcases traces_of_method hw henabled hprotocol hf hstep with
      ⟨-, -, htraces⟩ | ⟨-, -, -, -, -, -, -, -, hothers⟩
    · rw [htraces]
    · exact hothers id hne

end WatchedProxy

/-- A profile with the traces of the requests of all its proxies. -/
structure WatchedProfile where
  data : ResourceContextData := {}
  traces : Nat → Traces := fun _ => {}

namespace WatchedProfile

variable {setup : ProxySetup} {w w' : WatchedProfile} {e : ProfileEvent}

/-- The proxy that runs, with the traces. -/
def watched (w : WatchedProfile) (i : Option Nat) : WatchedProxy := ⟨w.data.running i, w.traces⟩

def step (setup : ProxySetup) (w : WatchedProfile) (e : ProfileEvent) :
    Except ProxyFault WatchedProfile :=
  match w.data.target e with
  | none => .ok { w with data := w.data.startProxying }
  | some (i, e) =>
    match (w.watched i).step setup e with
    | .error fault => .error fault
    | .ok v => .ok ⟨w.data.afterRun i v.proxy, v.traces⟩

/-- The network reports nothing that the protocol does not allow. -/
def inProtocol (w : WatchedProfile) (e : ProfileEvent) : Prop :=
  ∀ run ∈ w.data.target e, (w.watched run.1).inProtocol run.2

instance (w : WatchedProfile) (e : ProfileEvent) : Decidable (w.inProtocol e) :=
  inferInstanceAs (Decidable (∀ run ∈ w.data.target e, _))

def machine (setup : ProxySetup) : Machine WatchedProfile ProfileEvent ProxyFault where
  enabled w e := w.data.enabled e ∧ w.inProtocol e
  step := step setup

instance (setup : ProxySetup) (w : WatchedProfile) (e : ProfileEvent) :
    Decidable ((machine setup).enabled w e) :=
  inferInstanceAs (Decidable (w.data.enabled e ∧ w.inProtocol e))

theorem step_cases (hstep : step setup w e = .ok w') :
    (w.data.target e = none ∧ w' = { w with data := w.data.startProxying }) ∨
    ∃ i pe v, w.data.target e = some (i, pe) ∧ (w.watched i).step setup pe = .ok v ∧
      w' = ⟨w.data.afterRun i v.proxy, v.traces⟩ := by
  unfold step at hstep
  cases htarget : w.data.target e with
  | none =>
    rw [htarget] at hstep
    exact .inl ⟨rfl, (Except.ok.inj hstep).symm⟩
  | some run =>
    obtain ⟨i, pe⟩ := run
    simp only [htarget] at hstep
    split at hstep
    · contradiction
    · rename_i v hv
      exact .inr ⟨i, pe, v, rfl, hv, (Except.ok.inj hstep).symm⟩

/-- Watching the traces changes nothing of what the profile does. -/
theorem step_data (hstep : step setup w e = .ok w') : w.data.step setup e = .ok w'.data := by
  unfold ResourceContextData.step
  rcases step_cases hstep with ⟨htarget, rfl⟩ | ⟨i, pe, v, htarget, hv, rfl⟩
  · rw [htarget]
  · have hp : (w.data.running i).step setup pe = .ok v.proxy := (WatchedProxy.step_eq hv).1
    simp only [htarget, hp]

/-- The state that every step keeps: each proxy stands, with the handler that all share, where the
traces say. -/
structure Kept (w : WatchedProfile) : Prop where
  wellFormed : w.data.WellFormed
  proxies : ∀ i p, w.data.proxies i = some p → WatchedProxy.Kept ⟨w.data.view p, w.traces⟩
  legs : ∀ sent ∈ w.data.sent, sent.2.Checked
  unused : ∀ id, w.data.lastRequestId < id → w.traces id = {}
  loader : ∀ id, Conforms (w.traces id).loader
  client : ∀ id, Conforms (w.traces id).client

/-- A proxy without a request is where it should be. -/
theorem Kept.of_no_requests (hw : w.Kept) {p : ProxyFactory}
    (hwell : (w.data.view p).WellFormed) (hnone : ∀ id, p.requests id = none)
    (hsent : p.sent = []) : WatchedProxy.Kept ⟨w.data.view p, w.traces⟩ where
  wellFormed := hwell
  staged id r hr := by simp [ResourceContextData.view, hnone] at hr
  legs := by simp [ResourceContextData.view, hsent]
  standing id r hr := by simp [ResourceContextData.view, hnone] at hr
  unused := hw.unused
  loader := hw.loader
  client := hw.client

theorem Kept.watched (hw : w.Kept) (i : Option Nat) : (w.watched i).Kept := by
  have hdeleted : (w.data.view ResourceContextData.deletedProxy).WellFormed := by
    refine ⟨hw.wellFormed.bounded, ?_, ?_, ?_, ?_⟩ <;>
      simp [ResourceContextData.view, ResourceContextData.deletedProxy]
  unfold WatchedProfile.watched ResourceContextData.running
  cases hp : i.bind w.data.proxies with
  | none => exact hw.of_no_requests hdeleted (fun _ => rfl) rfl
  | some p =>
    obtain ⟨j, -, hj⟩ := Option.bind_eq_some_iff.mp hp
    exact hw.proxies j p hj

/-- A proxy that does not run keeps what it has, if its requests find what they found. -/
theorem kept_other {v : WatchedProxy} (hv : v.Kept) {q : ProxyFactory}
    (hq : WatchedProxy.Kept ⟨w.data.view q, w.traces⟩)
    (hwell : ProxyFactory.WellFormed
      { q with handler := v.proxy.handler, lastRequestId := v.proxy.lastRequestId })
    (hsame : ∀ id, (q.requests id).isSome = true →
      RequestHandler.SameFor id w.data.requestHandler v.proxy.handler)
    (htraces : ∀ id, (q.requests id).isSome = true → v.traces id = w.traces id) :
    WatchedProxy.Kept
      ⟨{ q with
          handler := v.proxy.handler
          lastRequestId := v.proxy.lastRequestId }, v.traces⟩ where
  wellFormed := hwell
  staged id r hr := ProxyFactory.staged.sameFor (hsame id (Option.isSome_iff_exists.mpr ⟨r, hr⟩))
    (hq.staged id r hr)
  legs := hq.legs
  standing id r hr := by
    have hrequest : (q.requests id).isSome = true := Option.isSome_iff_exists.mpr ⟨r, hr⟩
    obtain ⟨loader, client, hstands⟩ := (WatchedProxy.standingAt w.traces).sameFor
      (hsame id hrequest) (hq.standing id r hr)
    exact ⟨loader, client, by rwa [htraces id hrequest]⟩
  unused := hv.unused
  loader := hv.loader
  client := hv.client

theorem Kept.step (hw : w.Kept) (henabled : w.data.enabled e) (hprotocol : w.inProtocol e)
    (hstep : step setup w e = .ok w') : w'.Kept := by
  have hwell := hw.wellFormed.step henabled (step_data hstep)
  rcases step_cases hstep with ⟨-, rfl⟩ | ⟨i, pe, v, htarget, hv, rfl⟩
  · refine ⟨hwell, fun j p hp => ?_, hw.legs, hw.unused, hw.loader, hw.client⟩
    by_cases hj : j = w.data.nextProxy
    · subst hj
      obtain rfl : .init = p := by simpa [ResourceContextData.startProxying] using hp
      exact hw.of_no_requests (hwell.proxies _ _ hp) (fun _ => rfl) rfl
    · exact hw.proxies j p (by simpa [ResourceContextData.startProxying, hj] using hp)
  · have hrunning := ResourceContextData.enabled_running henabled htarget
    have hproxy : (w.data.running i).step setup pe = .ok v.proxy := (WatchedProxy.step_eq hv).1
    have hkept := (hw.watched i).step hrunning (hprotocol _ htarget) hv
    refine ⟨hwell, fun j q hq => ?_, fun sent hsent => ?_, hkept.unused, hkept.loader,
      hkept.client⟩
    · rcases ResourceContextData.afterRun_proxies hq with ⟨-, rfl⟩ | ⟨hother, hold⟩
      · exact hkept
      · refine kept_other hkept (hw.proxies j q hold) (hwell.proxies j q hq) (fun id hrequest => ?_)
          fun id hrequest => ?_
        · exact hw.wellFormed.sameFor henabled htarget hproxy hold hother hrequest
        · exact WatchedProxy.traces_of_step (hw.watched i) hrunning (hprotocol _ htarget) hv
            (hw.wellFormed.subject_ne henabled htarget hold hother hrequest)
    · rcases List.mem_append.mp hsent with hold | hnew
      · exact hw.legs sent hold
      · exact hkept.legs sent (List.mem_of_mem_drop hnew)

theorem kept_init : Kept {} where
  wellFormed := ResourceContextData.wellFormed_init
  proxies i p hp := by simp at hp
  legs sent hsent := by simp at hsent
  unused _ _ := rfl
  loader _ := rfl
  client _ := rfl

/-- If the network keeps the protocol of a load, so does every proxy of a profile, towards each
client and each loader; and each leg of each load goes to the URL of the last check of its request,
which passed without a block or a redirect. -/
theorem profile_protocol_kept (setup : ProxySetup) {es : List ProfileEvent} {w : WatchedProfile}
    (run : Run (machine setup) {} es w) :
    (∀ id, Conforms (w.traces id).client ∧ Conforms (w.traces id).loader) ∧
    ∀ id message leg, (id, message) ∈ w.data.sent → message.leg? = some leg → leg.Checked := by
  have hkept : w.Kept := by
    refine run.preserves (P := Kept) ?_ kept_init
    rintro w e w' ⟨henabled, hprotocol⟩ hstep hw
    exact hw.step henabled hprotocol hstep
  refine ⟨fun id => ⟨hkept.client id, hkept.loader id⟩, fun id message leg hsent hleg => ?_⟩
  exact hkept.legs _ hsent leg hleg

/-- One proxy loads what fails, while another one loads what is redirected. -/
def loadTwice : List ProfileEvent :=
  ResourceContextData.checkTwice ++
    [.resume 1 none {}, .resume 0 none {}, .runPosted {}, .runPosted {},
      .proxy 1 (.receiveRedirect 2 ⟨.https "c.com" "/", "GET", .empty⟩ {}), .resume 4 none {},
      .runPosted {}, .proxy 1 (.followRedirect 2 none {}), .proxy 0 (.complete 1 (-2)),
      .resume 5 none {}, .runPosted {}]

theorem profile_protocol_kept_loadTwice :
    ∃ w, Run (machine (.ofUrls .weakPtr [])) {} loadTwice w ∧
      (w.traces 1).client = [.report (.complete false)] ∧
      (w.traces 2).client = [.report .redirect, .follow] ∧
      (w.data.sent.filterMap fun sent => sent.2.leg?.map (·.url)) =
        [.https "b.com" "/", .https "a.com" "/", .https "c.com" "/"] ∧
      (∀ id, Conforms (w.traces id).client ∧ Conforms (w.traces id).loader) ∧
      ∀ id message leg, (id, message) ∈ w.data.sent → message.leg? = some leg → leg.Checked := by
  obtain ⟨w, run, hw⟩ := Machine.exists_run (machine (.ofUrls .weakPtr [])) {} loadTwice
    (fun w => (w.traces 1).client == [.report (.complete false)] &&
      (w.traces 2).client == [.report .redirect, .follow] &&
      (w.data.sent.filterMap fun sent => sent.2.leg?.map (·.url)) ==
        [.https "b.com" "/", .https "a.com" "/", .https "c.com" "/"]) (by decide)
  simp only [Bool.and_eq_true, beq_iff_eq] at hw
  obtain ⟨⟨hfailed, hredirected⟩, hlegs⟩ := hw
  obtain ⟨hconforms, hchecked⟩ := profile_protocol_kept _ run
  exact ⟨w, run, hfailed, hredirected, hlegs, hconforms, hchecked⟩

end WatchedProfile

end ChromiumAdblock
