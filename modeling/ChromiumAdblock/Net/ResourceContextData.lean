import ChromiumAdblock.Net.ProxyProtocol

/-! `ResourceContextData`: the URL loader proxies of a profile.  They come and go, and share one
request handler and one generator of request identifiers.  What one of them does leaves the
requests of the others alone, so what holds of one proxy alone holds of all proxies of a profile. -/

namespace ChromiumAdblock

open LoadProtocol EventMachine

namespace ProxyFactory

variable {setup : ProxySetup} {s s' : ProxyFactory} {e : ProxyEvent}

/-- The request that an event is about. -/
def subject (setup : ProxySetup) (s : ProxyFactory) (e : ProxyEvent) : Option Nat :=
  match e with
  | .resume a _ _ => (s.handler.ctxs a).map fun cell => cell.info.requestIdentifier
  | e => (s.method setup e).map Prod.fst

theorem subject_of_method {id : Nat} {f : Turn → Except ProxyFault Turn}
    (hf : s.method setup e = some (id, f)) : s.subject setup e = some id := by
  cases e with
  | resume a decision env => simp [method] at hf
  | _ => simp [subject, hf]

/-- The handler holds for a request what it held, unless the event is about it. -/
theorem sameFor_of_step (hs : s.WellFormed) (henabled : s.enabled e)
    (hstep : step setup s e = .ok s') {id : Nat} (hid : s.subject setup e ≠ some id) :
    RequestHandler.SameFor id s.handler s'.handler := by
  cases hf : s.method setup e with
  | some method =>
    obtain ⟨i, f⟩ := method
    have hne : id ≠ i := by
      rintro rfl
      exact hid (subject_of_method hf)
    have hprepare : RequestHandler.SameFor id s.handler (s.prepare e).handler := by
      cases e with
      | runPosted env =>
        simp only [method, Option.map_eq_some_iff] at hf
        obtain ⟨completion, hhead, hf⟩ := hf
        obtain ⟨rest, hposted⟩ := List.head?_eq_some_iff.mp hhead
        obtain ⟨rfl, rfl⟩ := Prod.mk.inj hf
        have hother : (completion.callback.requestId == id) = false := by simp [Ne.symm hne]
        exact ⟨rfl, fun _ _ _ => Iff.rfl,
          by simp [ProxyFactory.prepare, withPosted, hposted, hother]⟩
      | _ => exact .refl id s.handler
    rw [step_method hf] at hstep
    rcases turn_cases hstep with ⟨-, rfl⟩ | ⟨r, t, hr, ht, rfl⟩
    · exact hprepare
    · have hkeeps := method_keeps hf ((hs.prepare e).sound hr) ht
      have hle := (hs.prepare e).inRange i r hr
      have hsame := (hkeeps.touches.spec hle (hs.prepare e).bounded).2 id hne
      rw [endTurn_handler]
      exact hprepare.trans hsame
  | none =>
    cases e with
    | resume a decision env =>
      obtain ⟨cell, hcell, -⟩ := henabled
      have hne : id ≠ cell.info.requestIdentifier := by
        rintro rfl
        exact hid (by simp [subject, hcell])
      simp only [step] at hstep
      split at hstep
      · contradiction
      · rename_i h newUrl hresume
        obtain rfl := Except.ok.inj hstep
        have htouches := RequestHandler.Touches.resume hs.bounded hcell hresume
        rw [writeNewUrl_handler]
        exact (htouches.spec (hs.bounded.cells a cell hcell) hs.bounded).2 id hne
    | runPosted env =>
      rcases hposted : s.handler.posted with _ | ⟨completion, rest⟩
      · exact absurd hposted henabled
      · simp [method, hposted] at hf
    | clone | targetFactoryError | proxyBindingError =>
      obtain rfl := Except.ok.inj hstep
      simpa using RequestHandler.SameFor.refl id s.handler
    | _ => contradiction

/-- A request that is there after a step was there before, or has a new identifier. -/
theorem requests_of_step (hs : s.WellFormed) (hstep : step setup s e = .ok s') {id : Nat}
    (hrequest : (s'.requests id).isSome = true) :
    (s.requests id).isSome = true ∨ s.lastRequestId < id := by
  cases hf : s.method setup e with
  | some method =>
    obtain ⟨i, f⟩ := method
    have hprepare : ((s.prepare e).requests id).isSome = true →
        (s.requests id).isSome = true ∨ s.lastRequestId < id := by
      intro hrequest
      cases e with
      | createLoaderAndStart request env =>
        by_cases hnew : id = s.lastRequestId + 1
        · right
          omega
        · left
          simpa [ProxyFactory.prepare, withNewRequest, hnew] using hrequest
      | _ => exact .inl hrequest
    rw [step_method hf] at hstep
    rcases turn_cases hstep with ⟨-, rfl⟩ | ⟨r, t, hr, ht, rfl⟩
    · exact hprepare hrequest
    · have hkeeps := method_keeps hf ((hs.prepare e).sound hr) ht
      have hid : t.id = i := hkeeps.id_eq
      rw [endTurn_requests, hid] at hrequest
      by_cases hown : id = i
      · subst hown
        exact hprepare (by rw [hr]; rfl)
      · exact hprepare (by simpa [hown] using hrequest)
  | none =>
    left
    cases e with
    | resume a decision env =>
      simp only [step] at hstep
      split at hstep
      · contradiction
      · obtain rfl := Except.ok.inj hstep
        unfold writeNewUrl at hrequest
        split at hrequest
        · exact hrequest
        · dsimp only at hrequest
          split at hrequest <;> simpa using hrequest
    | runPosted env =>
      simp only [step] at hstep
      split at hstep
      · obtain rfl := Except.ok.inj hstep
        exact hrequest
      · rename_i hposted
        simp [method, hposted] at hf
    | clone | targetFactoryError | proxyBindingError =>
      obtain rfl := Except.ok.inj hstep
      simpa using hrequest
    | _ => contradiction

end ProxyFactory

/-- The proxies of a profile.  `proxies` are those that are in `proxies_`, by where they live, and
`sent` is what they have sent for which request.  The handler and the identifier that a proxy holds
of its own are not used. -/
structure ResourceContextData where
  requestHandler : RequestHandler BoundContinuation := .init
  lastRequestId : Nat := 0
  proxies : Nat → Option ProxyFactory := fun _ => none
  nextProxy : Nat := 0
  sent : List (Nat × Message) := []

/-- What reaches one proxy, and the events of the shared request handler. -/
inductive ProfileEvent
  | startProxying
  | proxy (i : Nat) (e : ProxyEvent)
  | resume (a : Nat) (decision : Option Decision) (env : ProxyEnv)
  | runPosted (env : ProxyEnv)

namespace ResourceContextData

variable (s : ResourceContextData)

/-- A proxy with the handler and the generator that it refers to. -/
def view (p : ProxyFactory) : ProxyFactory :=
  { p with
    handler := s.requestHandler
    lastRequestId := s.lastRequestId }

/-- A proxy that has been deleted. -/
def deletedProxy : ProxyFactory where
  handler := .init
  requests _ := none
  lastRequestId := 0
  targetFactoryBound := false
  proxyReceivers := 0
  removed := true
  sent := []

/-- The proxy that runs; one that is not there has been deleted. -/
def running (i : Option Nat) : ProxyFactory :=
  s.view ((i.bind s.proxies).getD deletedProxy)

/-- The proxy that a request belongs to. -/
def owner (id : Nat) : Option Nat :=
  (List.range s.nextProxy).find? fun i => (s.proxies i).any fun p => (p.requests id).isSome

/-- The proxy that an event runs, and the event that it is there.  The callbacks that the handler
holds are bound to a request. -/
def target : ProfileEvent → Option (Option Nat × ProxyEvent)
  | .startProxying => none
  | .proxy i e => some (some i, e)
  | .resume a decision env =>
    some ((s.requestHandler.ctxs a).bind fun cell => s.owner cell.info.requestIdentifier,
      .resume a decision env)
  | .runPosted env =>
    some (s.requestHandler.posted.head?.bind fun completion =>
      s.owner completion.callback.requestId, .runPosted env)

def startProxying : ResourceContextData :=
  { s with
    proxies := Function.update s.proxies s.nextProxy (some .init)
    nextProxy := s.nextProxy + 1 }

/-- The profile after a proxy ran, which `RemoveProxy` takes out if it has nothing left to do. -/
def afterRun (i : Option Nat) (p : ProxyFactory) : ResourceContextData where
  requestHandler := p.handler
  lastRequestId := p.lastRequestId
  proxies :=
    match i with
    | none => s.proxies
    | some i => Function.update s.proxies i (if p.removed then none else some p)
  nextProxy := s.nextProxy
  sent := s.sent ++ p.sent.drop (s.running i).sent.length

def step (setup : ProxySetup) (e : ProfileEvent) : Except ProxyFault ResourceContextData :=
  match s.target e with
  | none => .ok s.startProxying
  | some (i, e) =>
    match (s.running i).step setup e with
    | .error fault => .error fault
    | .ok p => .ok (s.afterRun i p)

def enabled : ProfileEvent → Prop
  | .startProxying => True
  | .proxy i e => ProxyFactory.ofHandler e = false ∧ (s.running (some i)).enabled e
  | .resume a _ _ => ∃ cell, s.requestHandler.ctxs a = some cell ∧ cell.waiting = true
  | .runPosted _ => s.requestHandler.posted ≠ []

instance : ∀ e, Decidable (s.enabled e)
  | .startProxying => inferInstanceAs (Decidable True)
  | .proxy i e => inferInstanceAs
    (Decidable (ProxyFactory.ofHandler e = false ∧ (s.running (some i)).enabled e))
  | .resume a _ _ =>
    inferInstanceAs (Decidable (∃ cell ∈ s.requestHandler.ctxs a, cell.waiting = true))
  | .runPosted _ => inferInstanceAs (Decidable (¬s.requestHandler.posted = []))

def machine (setup : ProxySetup) : Machine ResourceContextData ProfileEvent ProxyFault where
  enabled := enabled
  step s := s.step setup

instance (setup : ProxySetup) (e : ProfileEvent) : Decidable ((machine setup).enabled s e) :=
  inferInstanceAs (Decidable (s.enabled e))

/-- The proxies are well formed with the handler that they share, and no request belongs to two of
them. -/
structure WellFormed : Prop where
  bounded : s.requestHandler.Bounded s.lastRequestId
  proxies : ∀ i p, s.proxies i = some p → (s.view p).WellFormed
  apart : ∀ i j p q id, s.proxies i = some p → s.proxies j = some q →
    (p.requests id).isSome = true → (q.requests id).isSome = true → i = j
  range : ∀ i p, s.proxies i = some p → i < s.nextProxy

variable {s} {s' : ResourceContextData} {setup : ProxySetup} {e : ProfileEvent}

theorem running_some {i : Nat} {p : ProxyFactory} (hp : s.proxies i = some p) :
    s.running (some i) = s.view p := by
  simp [running, hp]

theorem WellFormed.running (hs : s.WellFormed) (i : Option Nat) : (s.running i).WellFormed := by
  have hdeleted : (s.view deletedProxy).WellFormed := by
    refine ⟨hs.bounded, ?_, ?_, ?_, ?_⟩ <;> simp [view, deletedProxy]
  unfold ResourceContextData.running
  cases hp : i.bind s.proxies with
  | none => exact hdeleted
  | some p =>
    obtain ⟨j, -, hj⟩ := Option.bind_eq_some_iff.mp hp
    exact hs.proxies j p hj

theorem WellFormed.owner (hs : s.WellFormed) {j id : Nat} {q : ProxyFactory}
    (hq : s.proxies j = some q) (hrequest : (q.requests id).isSome = true) :
    s.owner id = some j := by
  have hholds : (s.proxies j).any (fun p => (p.requests id).isSome) = true := by
    simpa [hq] using hrequest
  cases hfound : s.owner id with
  | none =>
    have hnone := List.find?_eq_none.mp hfound j (List.mem_range.mpr (hs.range j q hq))
    exact absurd hholds (by simpa using hnone)
  | some i =>
    have hi := List.find?_some hfound
    obtain ⟨p, hp, hown⟩ := (Option.any_eq_true _ _).mp hi
    rw [hs.apart i j p q id hp hq hown hrequest]

/-- What reaches a proxy by itself is about a request of it, or about a new one. -/
theorem subject_own {p : ProxyFactory} {pe : ProxyEvent} (hown : ProxyFactory.ofHandler pe = false)
    (henabled : p.enabled pe) {id : Nat} (hid : p.subject setup pe = some id) :
    (p.requests id).isSome = true ∨ p.lastRequestId < id := by
  cases pe with
  | createLoaderAndStart request env =>
    obtain rfl : p.lastRequestId + 1 = id := by
      simpa [ProxyFactory.subject, ProxyFactory.method] using hid
    exact .inr (Nat.lt_succ_self _)
  | followRedirect i newUrl env =>
    obtain rfl : i = id := by simpa [ProxyFactory.subject, ProxyFactory.method] using hid
    obtain ⟨r, hr, -⟩ := henabled
    exact .inl (by simp [hr])
  | loaderDisconnected i reason =>
    obtain rfl : i = id := by simpa [ProxyFactory.subject, ProxyFactory.method] using hid
    exact .inl henabled
  | clientDisconnected i =>
    obtain rfl : i = id := by simpa [ProxyFactory.subject, ProxyFactory.method] using hid
    exact .inl henabled
  | receiveResponse i env | receiveRedirect i redirectInfo env | complete i errorCode =>
    obtain rfl : i = id := by simpa [ProxyFactory.subject, ProxyFactory.method] using hid
    cases hr : p.requests i with
    | none => simp [ProxyFactory.enabled, ProxyFactory.listens, hr] at henabled
    | some r => simp
  | stubWritten i written =>
    obtain rfl : i = id := by simpa [ProxyFactory.subject, ProxyFactory.method] using hid
    obtain ⟨r, hr, -⟩ := henabled
    exact .inl (by simp [hr])
  | clone | targetFactoryError | proxyBindingError =>
    simp [ProxyFactory.subject, ProxyFactory.method] at hid
  | resume | runPosted => simp [ProxyFactory.ofHandler] at hown

theorem enabled_running {i : Option Nat} {pe : ProxyEvent} (henabled : s.enabled e)
    (htarget : s.target e = some (i, pe)) : (s.running i).enabled pe := by
  cases e with
  | startProxying => simp [target] at htarget
  | proxy j pe' =>
    obtain ⟨rfl, rfl⟩ := Prod.mk.inj (Option.some.inj htarget)
    exact henabled.2
  | resume a decision env =>
    obtain ⟨-, rfl⟩ := Prod.mk.inj (Option.some.inj htarget)
    exact henabled
  | runPosted env =>
    obtain ⟨-, rfl⟩ := Prod.mk.inj (Option.some.inj htarget)
    exact henabled

/-- An event is not about a request of another proxy than the one that it runs. -/
theorem WellFormed.subject_ne (hs : s.WellFormed) (henabled : s.enabled e) {i : Option Nat}
    {pe : ProxyEvent} (htarget : s.target e = some (i, pe)) {j id : Nat} {q : ProxyFactory}
    (hq : s.proxies j = some q) (hother : i ≠ some j) (hrequest : (q.requests id).isSome = true) :
    (s.running i).subject setup pe ≠ some id := by
  intro hsubject
  have hrunning := enabled_running henabled htarget
  have howner := hs.owner hq hrequest
  have hrange : id ≤ s.lastRequestId := by
    obtain ⟨r, hr⟩ := Option.isSome_iff_exists.mp hrequest
    exact (hs.proxies j q hq).inRange id r hr
  cases e with
  | startProxying => simp [target] at htarget
  | proxy k pe' =>
    obtain ⟨rfl, rfl⟩ := Prod.mk.inj (Option.some.inj htarget)
    rcases subject_own henabled.1 hrunning hsubject with hown | hnew
    · cases hp : s.proxies k with
      | none => simp [ResourceContextData.running, hp, view, deletedProxy] at hown
      | some p =>
        rw [running_some hp] at hown
        exact hother (congrArg some (hs.apart k j p q id hp hq hown hrequest))
    · have hlast : (s.running (some k)).lastRequestId = s.lastRequestId := rfl
      omega
  | resume a decision env =>
    obtain ⟨rfl, rfl⟩ := Prod.mk.inj (Option.some.inj htarget)
    obtain ⟨cell, hcell, hid⟩ : ∃ cell, s.requestHandler.ctxs a = some cell ∧
        cell.info.requestIdentifier = id := by
      simpa [ProxyFactory.subject, ResourceContextData.running, view] using hsubject
    exact hother (by simp [hcell, hid, howner])
  | runPosted env =>
    obtain ⟨rfl, rfl⟩ := Prod.mk.inj (Option.some.inj htarget)
    obtain ⟨completion, hhead, hid⟩ : ∃ completion, s.requestHandler.posted.head? =
        some completion ∧ completion.callback.requestId = id := by
      simpa [ProxyFactory.subject, ProxyFactory.method, ResourceContextData.running, view]
        using hsubject
    exact hother (by simp [hhead, hid, howner])

theorem step_cases (hstep : s.step setup e = .ok s') :
    (s.target e = none ∧ s' = s.startProxying) ∨ ∃ i pe p, s.target e = some (i, pe) ∧
      (s.running i).step setup pe = .ok p ∧ s' = s.afterRun i p := by
  unfold step at hstep
  cases htarget : s.target e with
  | none =>
    rw [htarget] at hstep
    exact .inl ⟨rfl, (Except.ok.inj hstep).symm⟩
  | some run =>
    obtain ⟨i, pe⟩ := run
    simp only [htarget] at hstep
    split at hstep
    · contradiction
    · rename_i p hp
      exact .inr ⟨i, pe, p, rfl, hp, (Except.ok.inj hstep).symm⟩

theorem owner_there {id i : Nat} (h : s.owner id = some i) : ∃ p, s.proxies i = some p := by
  have hfound := List.find?_some (show List.find? _ _ = some i from h)
  obtain ⟨p, hp, -⟩ := (Option.any_eq_true _ _).mp hfound
  exact ⟨p, hp⟩

/-- Only the events of the request handler run without a proxy. -/
theorem running_there {i : Nat} {pe : ProxyEvent} {p : ProxyFactory} (henabled : s.enabled e)
    (htarget : s.target e = some (some i, pe)) (hp : (s.running (some i)).step setup pe = .ok p) :
    ∃ q, s.proxies i = some q := by
  cases e with
  | startProxying => simp [target] at htarget
  | proxy j pe' =>
    obtain ⟨hi, rfl⟩ := Prod.mk.inj (Option.some.inj htarget)
    obtain rfl := Option.some.inj hi
    cases hj : s.proxies j with
    | some q => exact ⟨q, rfl⟩
    | none =>
      have hgone : (s.running (some j)).Gone [] := by
        rw [running, Option.bind_some, hj]
        exact ⟨rfl, ⟨rfl, fun _ => rfl⟩, rfl, rfl⟩
      have hhandler := (hgone.step henabled.2 hp).1
      rw [henabled.1] at hhandler
      contradiction
  | resume a decision env =>
    obtain ⟨hi, -⟩ := Prod.mk.inj (Option.some.inj htarget)
    obtain ⟨cell, -, howner⟩ := Option.bind_eq_some_iff.mp hi
    exact owner_there howner
  | runPosted env =>
    obtain ⟨hi, -⟩ := Prod.mk.inj (Option.some.inj htarget)
    obtain ⟨completion, -, howner⟩ := Option.bind_eq_some_iff.mp hi
    exact owner_there howner

/-- What a proxy that does not run finds after a step: all that concerns its requests is the same.
-/
theorem WellFormed.sameFor (hs : s.WellFormed) (henabled : s.enabled e) {i : Option Nat}
    {pe : ProxyEvent} {p : ProxyFactory} (htarget : s.target e = some (i, pe))
    (hp : (s.running i).step setup pe = .ok p) {j id : Nat} {q : ProxyFactory}
    (hq : s.proxies j = some q) (hother : i ≠ some j) (hrequest : (q.requests id).isSome = true) :
    RequestHandler.SameFor id s.requestHandler p.handler :=
  ProxyFactory.sameFor_of_step (hs.running i) (enabled_running henabled htarget) hp
    (hs.subject_ne henabled htarget hq hother hrequest)

/-- A proxy whose requests find what they found stays well formed. -/
theorem view_wellFormed {p q : ProxyFactory} (hq : (s.view q).WellFormed)
    (hbounded : p.handler.Bounded p.lastRequestId) (hlast : s.lastRequestId ≤ p.lastRequestId)
    (hsame : ∀ id, (q.requests id).isSome = true →
      RequestHandler.SameFor id s.requestHandler p.handler) :
    ProxyFactory.WellFormed { q with handler := p.handler, lastRequestId := p.lastRequestId } where
  bounded := hbounded
  inRange id r hr := Nat.le_trans (hq.inRange id r hr) hlast
  owned id r hr a ha := by
    obtain ⟨cell, hcell, hid⟩ := hq.owned id r hr a ha
    exact ⟨cell, ((hsame id (Option.isSome_iff_exists.mpr ⟨r, hr⟩)).ctxs a cell hid).mpr hcell, hid⟩
  bound := hq.bound
  receivers := hq.receivers

theorem afterRun_proxies {i : Option Nat} {p : ProxyFactory} {j : Nat} {q : ProxyFactory}
    (hq : (s.afterRun i p).proxies j = some q) :
    (i = some j ∧ q = p) ∨ (i ≠ some j ∧ s.proxies j = some q) := by
  cases i with
  | none => exact .inr ⟨by simp, hq⟩
  | some i =>
    by_cases hj : j = i
    · subst hj
      have hp : (if p.removed = true then none else some p) = some q := by
        simpa [afterRun] using hq
      split at hp
      · contradiction
      · exact .inl ⟨rfl, (Option.some.inj hp).symm⟩
    · refine .inr ⟨fun h => hj (Option.some.inj h).symm, ?_⟩
      simpa [afterRun, hj] using hq

theorem WellFormed.startProxying (hs : s.WellFormed) : s.startProxying.WellFormed := by
  have hcase : ∀ i p, s.startProxying.proxies i = some p →
      (i = s.nextProxy ∧ p = .init) ∨ s.proxies i = some p := by
    intro i p hp
    by_cases hi : i = s.nextProxy
    · subst hi
      exact .inl ⟨rfl, by simpa [ResourceContextData.startProxying] using hp.symm⟩
    · exact .inr (by simpa [ResourceContextData.startProxying, hi] using hp)
  refine ⟨hs.bounded, fun i p hp => ?_, fun i j p q id hp hq hown hown' => ?_, fun i p hp => ?_⟩
  · rcases hcase i p hp with ⟨-, rfl⟩ | hold
    · exact ⟨hs.bounded, by simp [view, ProxyFactory.init], by simp [view, ProxyFactory.init],
        by simp [view, ProxyFactory.init], fun _ => rfl⟩
    · exact hs.proxies i p hold
  · rcases hcase i p hp with ⟨-, rfl⟩ | hold
    · simp [ProxyFactory.init] at hown
    · rcases hcase j q hq with ⟨-, rfl⟩ | hold'
      · simp [ProxyFactory.init] at hown'
      · exact hs.apart i j p q id hold hold' hown hown'
  · show i < s.nextProxy + 1
    rcases hcase i p hp with ⟨rfl, -⟩ | hold
    · omega
    · have hlt := hs.range i p hold
      omega

theorem WellFormed.step (hs : s.WellFormed) (henabled : s.enabled e)
    (hstep : s.step setup e = .ok s') : s'.WellFormed := by
  rcases step_cases hstep with ⟨-, rfl⟩ | ⟨i, pe, p, htarget, hp, rfl⟩
  · exact hs.startProxying
  have hrunning := enabled_running henabled htarget
  have hwell := ProxyFactory.wellFormed_step (hs.running i) hrunning hp
  have hlast : s.lastRequestId ≤ p.lastRequestId := WatchedProxy.lastRequestId_step hp
  -- A request of another proxy is not one of the proxy that ran.
  have hnew : ∀ j q id, i ≠ some j → s.proxies j = some q → (q.requests id).isSome = true →
      (p.requests id).isSome = false := by
    intro j q id hother hq hown
    by_contra hrequest
    obtain ⟨r, hr⟩ := Option.isSome_iff_exists.mp hown
    have hle : id ≤ s.lastRequestId := (hs.proxies j q hq).inRange id r hr
    rcases ProxyFactory.requests_of_step (hs.running i) hp (Bool.of_not_eq_false hrequest) with
      hold | hnew
    · cases hi : i.bind s.proxies with
      | none => simp [ResourceContextData.running, hi, view, deletedProxy] at hold
      | some p' =>
        obtain ⟨k, rfl, hk⟩ := Option.bind_eq_some_iff.mp hi
        rw [running_some hk] at hold
        exact hother (congrArg some (hs.apart k j p' q id hk hq hold hown))
    · have hid : (s.running i).lastRequestId = s.lastRequestId := rfl
      omega
  refine ⟨hwell.bounded, fun j q hq => ?_, fun j k q q' id hq hq' hown hown' => ?_,
    fun j q hq => ?_⟩
  · rcases afterRun_proxies hq with ⟨-, rfl⟩ | ⟨hother, hold⟩
    · exact hwell
    · exact view_wellFormed (hs.proxies j q hold) hwell.bounded hlast fun id hrequest =>
        hs.sameFor henabled htarget hp hold hother hrequest
  · rcases afterRun_proxies hq with ⟨hj, rfl⟩ | ⟨hother, hold⟩
    · rcases afterRun_proxies hq' with ⟨hk, -⟩ | ⟨hother', hold'⟩
      · exact Option.some.inj (hj.symm.trans hk)
      · simp [hnew k q' id hother' hold' hown'] at hown
    · rcases afterRun_proxies hq' with ⟨-, rfl⟩ | ⟨-, hold'⟩
      · simp [hnew j q id hother hold hown] at hown'
      · exact hs.apart j k q q' id hold hold' hown hown'
  · rcases afterRun_proxies hq with ⟨rfl, -⟩ | ⟨-, hold⟩
    · obtain ⟨q', hq'⟩ := running_there henabled htarget hp
      exact hs.range j q' hq'
    · exact hs.range j q hold

theorem wellFormed_init : WellFormed {} := by
  refine ⟨ProxyFactory.wellFormed_init.bounded, ?_, ?_, ?_⟩ <;> simp

theorem wellFormed_of_run {es : List ProfileEvent} (run : Run (machine setup) {} es s) :
    s.WellFormed := by
  refine run.preserves (P := WellFormed) ?_ wellFormed_init
  intro s e s' henabled hstep hs
  exact hs.step henabled hstep

/-- In every state that a profile reaches, a request belongs to one proxy at most, and whatever
happens to one proxy leaves every other as it was, with all that the shared handler holds for its
requests: their callbacks, their contexts, and the completions that are posted. -/
theorem proxies_isolated (setup : ProxySetup) {es : List ProfileEvent}
    (run : Run (machine setup) {} es s) :
    (∀ i j p q id, s.proxies i = some p → s.proxies j = some q →
      (p.requests id).isSome = true → (q.requests id).isSome = true → i = j) ∧
    ∀ e s' j q, s.enabled e → s.step setup e = .ok s' → s.proxies j = some q →
      (∀ i pe, s.target e = some (i, pe) → i ≠ some j) →
      s'.proxies j = some q ∧ ∀ id, (q.requests id).isSome = true →
        RequestHandler.SameFor id s.requestHandler s'.requestHandler := by
  have hs := wellFormed_of_run run
  refine ⟨hs.apart, fun e s' j q henabled hstep hq hother => ?_⟩
  rcases step_cases hstep with ⟨-, rfl⟩ | ⟨i, pe, p, htarget, hp, rfl⟩
  · have hlt := hs.range j q hq
    refine ⟨?_, fun id _ => .refl id _⟩
    simpa [ResourceContextData.startProxying, (show j ≠ s.nextProxy by omega)] using hq
  · have hne := hother i pe htarget
    refine ⟨?_, fun id hrequest => hs.sameFor henabled htarget hp hq hne hrequest⟩
    cases i with
    | none => exact hq
    | some i =>
      have hji : j ≠ i := fun h => hne (congrArg some h.symm)
      simpa [afterRun, hji] using hq

/-- Two proxies check a request each. -/
def checkTwice : List ProfileEvent :=
  [.startProxying, .startProxying,
    .proxy 0 (.createLoaderAndStart { url := .https "a.com" "/" } {}),
    .proxy 1 (.createLoaderAndStart { url := .https "b.com" "/" } {})]

/-- The first check is answered, and the second goes on. -/
theorem proxies_isolated_checkTwice :
    ∃ s s' q, Run (machine (.ofUrls .weakPtr [])) {} checkTwice s ∧
      s.step (.ofUrls .weakPtr []) (.resume 0 none {}) = .ok s' ∧
      s.proxies 1 = some q ∧ (q.requests 2).isSome = true ∧
      s'.requestHandler.posted.length = 1 ∧
      s'.proxies 1 = some q ∧ RequestHandler.SameFor 2 s.requestHandler s'.requestHandler := by
  obtain ⟨s, run, hs⟩ := Machine.exists_run (machine (.ofUrls .weakPtr [])) {} checkTwice
    (fun s : ResourceContextData => s.enabled (.resume 0 none {}) &&
      okAnd (fun s' : ResourceContextData => s'.requestHandler.posted.length == 1)
        (s.step (.ofUrls .weakPtr []) (.resume 0 none {})) &&
      (s.target (.resume 0 none {})).any (fun run => run.1 == some 0) &&
      (s.proxies 1).any fun q => (q.requests 2).isSome) (by decide)
  simp only [Bool.and_eq_true, decide_eq_true_eq] at hs
  obtain ⟨⟨⟨henabled, hok⟩, htarget⟩, hproxy⟩ := hs
  obtain ⟨s', hstep, hposted⟩ := exists_of_okAnd hok
  obtain ⟨q, hq, hrequest⟩ := (Option.any_eq_true _ _).mp hproxy
  obtain ⟨hsame, hfor⟩ := (proxies_isolated _ run).2 (.resume 0 none {}) s' 1 q henabled hstep hq
    (by
      rintro i pe hrun rfl
      rw [hrun] at htarget
      simp at htarget)
  exact ⟨s, s', q, run, hstep, hq, hrequest, by simpa using hposted, hsame, hfor 2 hrequest⟩

end ResourceContextData

end ChromiumAdblock
