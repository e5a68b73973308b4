import ChromiumAdblock.Shields.CachedLists

/-! The accounts of the downloads.  The service manager under the download manager goes through a
run of its own, of the calls of others and of the reports that the download manager makes to it.
Each download that it asks for in that run is refused by the download service, or reported to it
once, or it is still under way: none is lost, and none is reported twice. -/

namespace ChromiumAdblock

open EventMachine

namespace SubscriptionServiceManager

/-- The manager with something that it asked for before. -/
def after (effects : List ServiceEffect) (s : SubscriptionServiceManager) :
    SubscriptionServiceManager :=
  { s with effects := effects ++ s.effects }

/-- What was asked for before makes no difference. -/
def OnlyAdds (f : SubscriptionServiceManager → SubscriptionServiceManager) : Prop :=
  ∀ effects s, f (s.after effects) = (f s).after effects

theorem OnlyAdds.comp {f g : SubscriptionServiceManager → SubscriptionServiceManager}
    (hg : OnlyAdds g) (hf : OnlyAdds f) : OnlyAdds fun s => g (f s) :=
  fun effects s => (congrArg g (hf effects s)).trans (hg effects (f s))

theorem onlyAdds_ask (effect : ServiceEffect) : OnlyAdds fun s => s.ask effect := by
  intro effects s
  simp [after, ask]

theorem onlyAdds_startDownload (url : String) (fromUi : Bool) :
    OnlyAdds fun s => s.startDownload url fromUi := by
  intro effects s
  simp only [startDownload]
  show (if s.downloadsAvailable = true then _ else _) = _
  split
  · exact onlyAdds_ask _ effects s
  · rfl

theorem onlyAdds_destroyProvider (p : SubscriptionFiltersProvider) :
    OnlyAdds fun s => s.destroyProvider p := by
  intro effects s
  exact onlyAdds_ask (.providerRemoved p.id) effects
    { s with registered := s.registered.filter fun q => q.id ≠ p.id }

theorem onlyAdds_insertProvider (p : SubscriptionFiltersProvider) :
    OnlyAdds fun s => s.insertProvider p := by
  intro effects s
  cases hp : s.providers p.url with
  | none => simp [insertProvider, after, hp]
  | some q =>
    have hdestroy := onlyAdds_destroyProvider p effects s
    simpa [insertProvider, after, hp] using hdestroy

theorem onlyAdds_eraseProvider (url : String) : OnlyAdds fun s => s.eraseProvider url := by
  intro effects s
  cases hp : s.providers url with
  | none => simp [eraseProvider, after, hp]
  | some q =>
    have hdestroy := onlyAdds_destroyProvider q effects
      { s with providers := Function.update s.providers url none }
    simpa [eraseProvider, after, hp] using hdestroy

theorem onlyAdds_startProvider (url : String) : OnlyAdds fun s => s.startProvider url := by
  intro effects s
  have hask := onlyAdds_ask (.listAvailable s.nextProvider) effects (s.constructProvider url)
  have hinsert := onlyAdds_insertProvider (s.newProvider url) effects
    ((s.constructProvider url).ask (.listAvailable s.nextProvider))
  exact (congrArg (fun s' => insertProvider s' (s.newProvider url)) hask).trans hinsert

theorem onlyAdds_announceList (url : String) : OnlyAdds fun s => s.announceList url := by
  intro effects s
  cases hp : s.providers url with
  | none => simp [announceList, after, hp]
  | some p =>
    have hask := onlyAdds_ask (.listAvailable p.id) effects s
    simpa [announceList, after, hp] using hask

theorem onlyAdds_foldl {f : SubscriptionServiceManager → String → SubscriptionServiceManager}
    (hf : ∀ key, OnlyAdds fun s => f s key) (keys : List String) :
    OnlyAdds fun s => keys.foldl f s := by
  induction keys with
  | nil => exact fun _ _ => rfl
  | cons key keys ih => exact ih.comp (hf key)

theorem onlyAdds_updateEntry (now : Time) (key : String) :
    OnlyAdds fun s => updateEntry now s key := by
  intro effects s
  cases hinfo : s.getInfo key with
  | none =>
    have hsame : (s.after effects).getInfo key = none := hinfo
    simp [updateEntry, hinfo, hsame]
  | some info =>
    have hsame : (s.after effects).getInfo key = some info := hinfo
    simp only [updateEntry, hinfo, hsame]
    split
    · exact onlyAdds_startDownload key false effects s
    · rfl

theorem onlyAdds_loadEntry (key : String) : OnlyAdds fun s => loadEntry s key := by
  intro effects s
  cases hinfo : s.getInfo key with
  | none =>
    have hsame : (s.after effects).getInfo key = none := hinfo
    simp [loadEntry, hinfo, hsame]
  | some info =>
    have hsame : (s.after effects).getInfo key = some info := hinfo
    simp only [loadEntry, hinfo, hsame]
    split
    · exact onlyAdds_startProvider key effects s
    · rfl

theorem onlyAdds_createSubscription (url : String) :
    OnlyAdds fun s => s.createSubscription url := by
  intro effects s
  by_cases htaken : (s.providers url).isSome = true
  · have hsame : ((s.after effects).providers url).isSome = true := htaken
    exact (createSubscription_taken hsame).trans
      (congrArg (after effects) (createSubscription_taken htaken).symm)
  · have hsame : ¬((s.after effects).providers url).isSome = true := htaken
    let info : SubscriptionInfo :=
      { subscriptionUrl := url
        lastUpdateAttempt := .null
        lastSuccessfulUpdateAttempt := .null
        enabled := true }
    simp only [createSubscription, if_neg htaken, if_neg hsame]
    have hinsert := onlyAdds_insertProvider ((s.updateSubscriptionPrefs url info).newProvider url)
      effects ((s.updateSubscriptionPrefs url info).constructProvider url)
    exact (congrArg (fun s' => startDownload s' url true) hinsert).trans
      (onlyAdds_startDownload url true effects _)

theorem onlyAdds_enableSubscription (url : String) (enabled : Bool) :
    OnlyAdds fun s => s.enableSubscription url enabled := by
  intro effects s
  cases hinfo : s.getInfo url with
  | none =>
    have hsame : (s.after effects).getInfo url = none := hinfo
    simp [enableSubscription, hinfo, hsame]
  | some info =>
    have hsame : (s.after effects).getInfo url = some info := hinfo
    simp only [enableSubscription, hinfo, hsame]
    cases enabled with
    | true =>
      exact congrArg (fun s' => updateSubscriptionPrefs s' url { info with enabled := true })
        (onlyAdds_startProvider url effects s)
    | false =>
      exact congrArg (fun s' => updateSubscriptionPrefs s' url { info with enabled := false })
        (onlyAdds_eraseProvider url effects s)

/-- A step of the service manager adds to what it asks for, and looks at nothing that it asked for
before. -/
theorem onlyAdds_step (e : ServiceEvent) : OnlyAdds fun s => s.step e := by
  cases e with
  | onGetDownloadManager available =>
    intro effects s
    have hask := onlyAdds_ask .cancelAllPendingDownloads effects
      { s with downloadsAvailable := available }
    let ready : SubscriptionServiceManager :=
      { s with
        downloadsAvailable := available
        effects := s.effects ++ [.cancelAllPendingDownloads]
        subscriptions := s.prefs }
    exact (congrArg loadSubscriptionServices hask).trans
      (onlyAdds_foldl onlyAdds_loadEntry (s.prefs.map Prod.fst) effects ready)
  | onDownloadServiceUnavailable => exact fun _ _ => rfl
  | createSubscription url => exact onlyAdds_createSubscription url
  | enableSubscription url enabled => exact onlyAdds_enableSubscription url enabled
  | deleteSubscription url =>
    intro effects s
    have herase := onlyAdds_eraseProvider url effects s
    exact (congrArg (fun s' => (clearSubscriptionPrefs s' url).ask (.deletePathRecursively url))
      herase).trans (onlyAdds_ask (.deletePathRecursively url) effects
        ((s.eraseProvider url).clearSubscriptionPrefs url))
  | refreshSubscription url fromUi => exact onlyAdds_startDownload url true
  | onUpdateTimer now =>
    intro effects s
    exact onlyAdds_foldl (onlyAdds_updateEntry now) (s.prefs.map Prod.fst) effects
      { s with subscriptions := s.prefs }
  | onListMetadata url metadata =>
    intro effects s
    cases hinfo : s.getInfo url with
    | none =>
      have hsame : (s.after effects).getInfo url = none := hinfo
      simp [step, onListMetadata, hinfo, hsame]
    | some info =>
      have hsame : (s.after effects).getInfo url = some info := hinfo
      simp only [step, onListMetadata, hinfo, hsame]
      exact onlyAdds_ask .serviceUpdateEvent effects (s.updateSubscriptionPrefs url _)
  | onSubscriptionDownloaded url now =>
    intro effects s
    cases hinfo : s.getInfo url with
    | none =>
      have hsame : (s.after effects).getInfo url = none := hinfo
      simp [step, onSubscriptionDownloaded, hinfo, hsame]
    | some info =>
      have hsame : (s.after effects).getInfo url = some info := hinfo
      simp only [step, onSubscriptionDownloaded, hinfo, hsame]
      have hlist := onlyAdds_announceList url effects (s.updateSubscriptionPrefs url
        { info with
          lastUpdateAttempt := now
          lastSuccessfulUpdateAttempt := now })
      exact (congrArg (fun s' => ask s' .serviceUpdateEvent) hlist).trans
        (onlyAdds_ask .serviceUpdateEvent effects _)
  | onSubscriptionDownloadFailure url now =>
    intro effects s
    cases hinfo : s.getInfo url with
    | none =>
      have hsame : (s.after effects).getInfo url = none := hinfo
      simp [step, onSubscriptionDownloadFailure, hinfo, hsame]
    | some info =>
      have hsame : (s.after effects).getInfo url = some info := hinfo
      simp only [step, onSubscriptionDownloadFailure, hinfo, hsame]
      exact onlyAdds_ask .serviceUpdateEvent effects (s.updateSubscriptionPrefs url _)

/-- The URL of a download that is asked for. -/
def downloadUrl : ServiceEffect → Option String
  | .startDownload url _ => some url
  | _ => none

/-- The URL of a download that is reported. -/
def reportedUrl : ServiceEvent → Option String
  | .onSubscriptionDownloaded url _ | .onSubscriptionDownloadFailure url _ => some url
  | _ => none

theorem reportedUrl_of_called {e : ServiceEvent} (h : ListCache.called e = true) :
    reportedUrl e = none := by
  cases e <;> first | rfl | simp [ListCache.called] at h

end SubscriptionServiceManager

def BackgroundTask.url : BackgroundTask → String
  | .ensureDirExists url _ | .replaceFile url _ => url

def UiReply.url : UiReply → String
  | .onDirCreated url _ _ | .replaceFileCallback url _ _ => url

namespace ListCache

open SubscriptionServiceManager

variable {π : Type} [DecidableEq π] (path : String → π)

/-- The downloads that are under way: asked for, accepted, or on their way into the cache. -/
def inFlight (s : ListCache π) : List String :=
  s.started.map Prod.snd ++ s.pending.map Prod.snd ++ s.background.map (·.url) ++ s.ui.map (·.url)

/-- What a reply tells the service manager. -/
def told (now : Time) : UiReply → Option ServiceEvent
  | .onDirCreated url _ created =>
    if created then none else some (.onSubscriptionDownloadFailure url now)
  | .replaceFileCallback url _ success =>
    some (if success then .onSubscriptionDownloaded url now
      else .onSubscriptionDownloadFailure url now)

/-- The call of the service manager that comes with an event. -/
def served (s : ListCache π) : CacheEvent → Option ServiceEvent
  | .call e => some e
  | .onDownloadFailed guid now =>
    (s.pending.lookup guid).map fun url => .onSubscriptionDownloadFailure url now
  | .runUi now => s.ui.head?.bind (told now)
  | _ => none

/-- The download that the download service refuses. -/
def refusedBy (s : ListCache π) : CacheEvent → Option String
  | .onDownloadStarted guid accepted => if accepted then none else s.started.lookup guid
  | _ => none

end ListCache

/-- The cache with what the service manager was called with, and the downloads that were refused. -/
structure DownloadBooks (π : Type) where
  cache : ListCache π
  calls : List ServiceEvent := []
  refused : List String := []

namespace DownloadBooks

open SubscriptionServiceManager

variable {π : Type} [DecidableEq π] (path : String → π)

def step (w : DownloadBooks π) (e : CacheEvent) : DownloadBooks π where
  cache := w.cache.step path e
  calls := w.calls ++ (w.cache.served e).toList
  refused := w.refused ++ (w.cache.refusedBy e).toList

def machine : Machine (DownloadBooks π) CacheEvent Empty where
  enabled w e := w.cache.enabled e
  step w e := .ok (w.step path e)

instance (w : DownloadBooks π) (e : CacheEvent) : Decidable ((machine path).enabled w e) :=
  inferInstanceAs (Decidable (w.cache.enabled e))

end DownloadBooks

/-- An entry that is looked up is the only one that its key takes out. -/
theorem lookup_split {entries : List (Nat × String)} {key : Nat} {url : String}
    (hkeys : (entries.map Prod.fst).Nodup) (h : entries.lookup key = some url) :
    ∃ before after, entries = before ++ (key, url) :: after ∧
      (entries.filter fun entry => entry.1 ≠ key) = before ++ after := by
  obtain ⟨before, after, rfl, -⟩ := List.lookup_eq_some_iff.mp h
  refine ⟨before, after, rfl, ?_⟩
  have hothers : ∀ entry ∈ before ++ after, entry.1 ≠ key := by
    intro entry hentry heq
    have hperm : ((before ++ (key, url) :: after).map Prod.fst).Perm
        (key :: (before ++ after).map Prod.fst) := by
      simp
    have hnew := (List.nodup_cons.mp (hperm.nodup_iff.mp hkeys)).1
    exact hnew (heq ▸ List.mem_map_of_mem hentry)
  rw [List.filter_append, List.filter_cons_of_neg (by simp), ← List.filter_append]
  exact List.filter_eq_self.mpr fun entry hentry => by simpa using hothers entry hentry

namespace ListCache

open SubscriptionServiceManager

variable {π : Type}

/-- The downloads that are asked for are started under new identifiers. -/
theorem carryOut_started (s : ListCache π) (effects : List ServiceEffect) :
    ∃ new : List (Nat × String), (effects.foldl carryOut s).started = s.started ++ new ∧
      new.map Prod.snd = effects.filterMap downloadUrl ∧
      new.map Prod.fst = List.range' s.nextGuid new.length ∧
      (effects.foldl carryOut s).nextGuid = s.nextGuid + new.length := by
  induction effects generalizing s with
  | nil => exact ⟨[], by simp, rfl, rfl, rfl⟩
  | cons effect effects ih =>
    obtain ⟨new, hstarted, hurls, hguids, hnext⟩ := ih (s.carryOut effect)
    rw [List.foldl_cons]
    by_cases hdownload : ∃ url fromUi, effect = .startDownload url fromUi
    · obtain ⟨url, fromUi, rfl⟩ := hdownload
      refine ⟨(s.nextGuid, url) :: new, ?_, ?_, ?_, ?_⟩
      · simpa [carryOut] using hstarted
      · simpa [downloadUrl] using hurls
      · simpa [carryOut, List.range'_succ] using hguids
      · rw [hnext]
        simp only [carryOut, List.length_cons]
        omega
    · have hsame : (s.carryOut effect).started = s.started ∧
          (s.carryOut effect).nextGuid = s.nextGuid ∧ downloadUrl effect = none := by
        cases effect <;> simp_all [carryOut, downloadUrl]
      refine ⟨new, ?_, ?_, ?_, ?_⟩
      · rw [hstarted, hsame.1]
      · rw [List.filterMap_cons, hsame.2.2]
        exact hurls
      · rw [hguids, hsame.2.1]
      · rw [hnext, hsame.2.1]

/-- A call of a service manager that has gone through a run of its own. -/
theorem perform_run {t : ListCache π} {v : SubscriptionServiceManager}
    (hservice : t.service = { v with effects := [] }) (e : ServiceEvent) :
    ∃ new : List (Nat × String), t.perform e =
        { t with
          service := { v.step e with effects := [] }
          started := t.started ++ new
          nextGuid := t.nextGuid + new.length
          deletes := t.deletes ++ deletedBy e } ∧
      (v.step e).effects.filterMap downloadUrl =
        v.effects.filterMap downloadUrl ++ new.map Prod.snd ∧
      new.map Prod.fst = List.range' t.nextGuid new.length := by
  have hadds : v.step e = (t.service.step e).after v.effects := by
    have hstep := onlyAdds_step e v.effects t.service
    rw [← hstep, hservice]
    simp [after]
  obtain ⟨new, hstarted, hurls, hguids, hnext⟩ := carryOut_started
    { t with service := { t.service.step e with effects := [] } } (t.service.step e).effects
  obtain ⟨started, nextGuid, hperform⟩ := perform_eq (s := t) (by rw [hservice]) e
  have hstarted' : started = t.started ++ new := by
    have := congrArg ListCache.started hperform
    exact this.symm.trans hstarted
  have hnext' : nextGuid = t.nextGuid + new.length := by
    have := congrArg ListCache.nextGuid hperform
    exact this.symm.trans hnext
  refine ⟨new, ?_, ?_, hguids⟩
  · rw [hperform, hstarted', hnext', hadds]
    rfl
  · rw [hurls, hadds]
    exact List.filterMap_append

/-- The accounts of the downloads, where `owed` were taken out of what is under way. -/
structure Balanced (prefs : DictValue) (t : ListCache π) (calls : List ServiceEvent)
    (refused owed : List String) : Prop where
  service : ∃ v, Run SubscriptionServiceManager.machine { prefs := prefs } calls v ∧
    t.service = { v with effects := [] } ∧
    ∀ url, (v.effects.filterMap downloadUrl).count url =
      refused.count url + (calls.filterMap reportedUrl).count url + t.inFlight.count url +
        owed.count url
  guids : ((t.started ++ t.pending).map Prod.fst).Nodup
  range : ∀ guid ∈ (t.started ++ t.pending).map Prod.fst, guid < t.nextGuid

section Balance

variable {prefs : DictValue} {t : ListCache π} {calls : List ServiceEvent}
  {refused owed : List String}

/-- Accounts that balance still do where the same downloads are under way and owed. -/
theorem Balanced.congr (h : Balanced prefs t calls refused owed) {t' : ListCache π}
    {refused' owed' : List String} (hservice : t'.service = t.service)
    (hguids : ((t'.started ++ t'.pending).map Prod.fst).Nodup)
    (hkeys : ∀ guid, guid ∈ (t'.started ++ t'.pending).map Prod.fst →
      guid ∈ (t.started ++ t.pending).map Prod.fst)
    (hnext : t'.nextGuid = t.nextGuid)
    (hcount : ∀ url, refused'.count url + t'.inFlight.count url + owed'.count url =
      refused.count url + t.inFlight.count url + owed.count url) :
    Balanced prefs t' calls refused' owed' := by
  obtain ⟨v, hrun, hv, hasked⟩ := h.service
  refine ⟨⟨v, hrun, hservice.trans hv, fun url => ?_⟩, hguids, fun guid hguid => ?_⟩
  · have := hasked url
    have := hcount url
    omega
  · rw [hnext]
    exact h.range guid (hkeys guid hguid)

/-- A call settles what it reports, and what it asks for is under way. -/
theorem Balanced.perform {e : ServiceEvent}
    (h : Balanced prefs t calls refused (reportedUrl e).toList) (hok : t.service.checked e) :
    Balanced prefs (t.perform e) (calls ++ [e]) refused [] := by
  obtain ⟨v, hrun, hv, hasked⟩ := h.service
  obtain ⟨new, hperform, hmore, hguids⟩ := perform_run hv e
  have hchecked : v.checked e := by
    rw [hv] at hok
    cases e <;> exact hok
  rw [hperform]
  refine ⟨⟨v.step e, hrun.append (.single hchecked rfl), rfl, fun url => ?_⟩, ?_, ?_⟩
  · have := hasked url
    rw [hmore, List.filterMap_append, List.count_append, List.count_append]
    cases hreported : reportedUrl e with
    | none =>
      simp only [inFlight, List.count_append, List.map_append, List.filterMap_cons, hreported,
        List.filterMap_nil, List.count_nil, Option.toList_none] at this ⊢
      omega
    | some reported =>
      simp only [inFlight, List.count_append, List.map_append, List.filterMap_cons, hreported,
        List.filterMap_nil, List.count_nil, Option.toList_some] at this ⊢
      omega
  · have hnodup : (new.map Prod.fst).Nodup := by
      rw [hguids]
      exact List.nodup_range'
    have hapart : ∀ guid ∈ new.map Prod.fst, guid ∉ (t.started ++ t.pending).map Prod.fst := by
      intro guid hguid hold
      rw [hguids] at hguid
      have := List.left_le_of_mem_range' hguid
      have := h.range guid hold
      omega
    have hperm : ((t.started ++ new ++ t.pending).map Prod.fst).Perm
        (new.map Prod.fst ++ (t.started ++ t.pending).map Prod.fst) := by
      simp only [List.map_append]
      rw [← List.append_assoc]
      exact List.perm_append_comm.append_right _
    refine hperm.nodup_iff.mpr (List.nodup_append.mpr ⟨hnodup, h.guids, fun a ha b hb hab => ?_⟩)
    exact hapart a ha (hab ▸ hb)
  · intro guid hguid
    simp only [List.map_append, List.mem_append] at hguid
    rcases hguid with (hold | hnew) | hold
    · have := h.range guid (by simp only [List.map_append, List.mem_append]; exact .inl hold)
      show guid < t.nextGuid + new.length
      omega
    · rw [hguids] at hnew
      have := (List.mem_range'_1.mp hnew).2
      exact this
    · have := h.range guid (by simp only [List.map_append, List.mem_append]; exact .inr hold)
      show guid < t.nextGuid + new.length
      omega

/-- The download service has an answer to a download that was asked for. -/
theorem Balanced.onDownloadStarted (h : Balanced prefs t calls refused []) (guid : Nat)
    (accepted : Bool) : Balanced prefs (t.onDownloadStarted guid accepted) calls
      (refused ++ (t.refusedBy (.onDownloadStarted guid accepted)).toList) [] := by
  cases hlookup : t.started.lookup guid with
  | none =>
    have hsame : t.onDownloadStarted guid accepted = t := by
      simp [ListCache.onDownloadStarted, hlookup]
    have hnone : t.refusedBy (.onDownloadStarted guid accepted) = none := by
      cases accepted <;> simp [refusedBy, hlookup]
    simpa [hsame, hnone] using h
  | some url =>
    obtain ⟨before, after, hstarted, hfilter⟩ := lookup_split
      ((List.nodup_append.mp (by simpa using h.guids)).1) hlookup
    have hmoved : t.onDownloadStarted guid accepted =
        { t with
          started := before ++ after
          pending := if accepted then t.pending ++ [(guid, url)] else t.pending } := by
      simp only [ListCache.onDownloadStarted, hlookup, hfilter]
    have hguids := h.guids
    rw [hmoved]
    cases accepted with
    | true =>
      have hperm : (before ++ after ++ (t.pending ++ [(guid, url)])).Perm
          (t.started ++ t.pending) := by
        rw [hstarted]
        refine List.perm_iff_count.mpr fun entry => ?_
        simp only [List.count_append, List.count_cons, List.count_nil]
        omega
      refine h.congr rfl ((hperm.map Prod.fst).nodup_iff.mpr hguids)
        (fun a ha => (hperm.map Prod.fst).subset ha) rfl fun v => ?_
      simp only [inFlight, hstarted, refusedBy, if_true, Option.toList_none, List.map_append,
        List.map_cons, List.map_nil, List.count_append, List.count_cons, List.count_nil]
      omega
    | false =>
      have hsub : (before ++ after ++ t.pending).Sublist (t.started ++ t.pending) := by
        rw [hstarted]
        exact ((List.Sublist.refl before).append (List.sublist_cons_self _ _)).append
          (List.Sublist.refl _)
      have hrefused : t.refusedBy (.onDownloadStarted guid false) = some url := by
        simp [refusedBy, hlookup]
      rw [hrefused]
      refine h.congr rfl ((hsub.map Prod.fst).nodup hguids)
        (fun a ha => (hsub.map Prod.fst).subset ha) rfl fun v => ?_
      simp only [inFlight, hstarted, Bool.false_eq_true, if_false, Option.toList_some,
        List.map_append, List.map_cons, List.count_append, List.count_cons, List.count_nil]
      omega

/-- A download that was accepted leaves the list of those. -/
theorem Balanced.take (h : Balanced prefs t calls refused []) {guid : Nat} {url : String}
    (hlookup : t.pending.lookup guid = some url) :
    Balanced prefs { t with pending := t.pending.filter fun download => download.1 ≠ guid } calls
      refused [url] := by
  obtain ⟨before, after, hpending, hfilter⟩ := lookup_split
    ((List.nodup_append.mp (by simpa using h.guids)).2.1) hlookup
  have hsub : (t.started ++ (before ++ after)).Sublist (t.started ++ t.pending) := by
    rw [hpending]
    exact (List.Sublist.refl _).append
      ((List.Sublist.refl before).append (List.sublist_cons_self _ _))
  rw [hfilter]
  refine h.congr rfl ((hsub.map Prod.fst).nodup h.guids)
    (fun a ha => (hsub.map Prod.fst).subset ha) rfl fun v => ?_
  simp only [inFlight, hpending, List.map_append, List.map_cons, List.count_append,
    List.count_cons, List.count_nil]
  omega

theorem Balanced.onDownloadFailed (h : Balanced prefs t calls refused []) (guid : Nat)
    (now : Time) : Balanced prefs (t.onDownloadFailed guid now)
      (calls ++ (t.served (.onDownloadFailed guid now)).toList) refused [] := by
  cases hlookup : t.pending.lookup guid with
  | none => simpa [ListCache.onDownloadFailed, served, hlookup] using h
  | some url =>
    simp only [ListCache.onDownloadFailed, served, hlookup, Option.map_some, Option.toList_some]
    exact (h.take hlookup).perform (e := .onSubscriptionDownloadFailure url now) trivial

theorem Balanced.onDownloadSucceeded (h : Balanced prefs t calls refused []) (guid : Nat)
    (body : DATFileDataBuffer) :
    Balanced prefs (t.onDownloadSucceeded guid body) calls refused [] := by
  cases hlookup : t.pending.lookup guid with
  | none => simpa [ListCache.onDownloadSucceeded, hlookup] using h
  | some url =>
    have htaken := h.take hlookup
    simp only [ListCache.onDownloadSucceeded, hlookup]
    refine htaken.congr rfl htaken.guids (fun _ => id) rfl fun v => ?_
    simp only [inFlight, List.map_append, List.map_cons, List.map_nil, BackgroundTask.url,
      List.count_append, List.count_cons, List.count_nil]
    omega

/-- A reply leaves the queue of the UI thread. -/
theorem Balanced.pop (h : Balanced prefs t calls refused []) {reply : UiReply}
    {rest : List UiReply} (hui : t.ui = reply :: rest) :
    Balanced prefs { t with ui := rest } calls refused [reply.url] := by
  refine h.congr rfl h.guids (fun _ => id) rfl fun v => ?_
  simp only [inFlight, hui, List.map_cons, List.count_append, List.count_cons, List.count_nil]
  omega

theorem Balanced.runUi (h : Balanced prefs t calls refused []) (now : Time) :
    Balanced prefs (t.runUi now) (calls ++ (t.served (.runUi now)).toList) refused [] := by
  cases hui : t.ui with
  | nil => simpa [ListCache.runUi, served, hui] using h
  | cons reply rest =>
    have hpopped := h.pop hui
    simp only [ListCache.runUi, served, hui, List.head?_cons, Option.bind_some]
    cases reply with
    | onDirCreated url body created =>
      cases created with
      | true =>
        simp only [told, if_true, Option.toList_none, List.append_nil]
        refine hpopped.congr rfl hpopped.guids (fun _ => id) rfl fun v => ?_
        simp only [inFlight, List.map_append, List.map_cons, List.map_nil, BackgroundTask.url,
          UiReply.url, List.count_append, List.count_cons, List.count_nil]
        omega
      | false => exact hpopped.perform (e := .onSubscriptionDownloadFailure url now) trivial
    | replaceFileCallback url body success =>
      cases success with
      | true =>
        have htold : Balanced prefs
            { t with
              ui := rest
              lastBody := Function.update t.lastBody url (some body) } calls refused [url] :=
          hpopped.congr rfl hpopped.guids (fun _ => id) rfl fun _ => rfl
        exact htold.perform (e := .onSubscriptionDownloaded url now) trivial
      | false => exact hpopped.perform (e := .onSubscriptionDownloadFailure url now) trivial

end Balance

section Files

variable [DecidableEq π] {path : String → π} {prefs : DictValue} {t : ListCache π}
  {calls : List ServiceEvent} {refused : List String}

/-- What happens to files moves downloads on at most. -/
theorem Balanced.runBackground (h : Balanced prefs t calls refused []) (ok : Bool) :
    Balanced prefs (t.runBackground path ok) calls refused [] := by
  unfold ListCache.runBackground
  split
  · exact h
  · rename_i url body rest hbackground
    cases ok <;>
    · refine h.congr rfl h.guids (fun _ => id) rfl fun v => ?_
      simp only [inFlight, hbackground, createDirectory, List.map_append, List.map_cons,
        List.map_nil, BackgroundTask.url, UiReply.url, List.count_append, List.count_cons,
        List.count_nil, Bool.false_eq_true, if_true, if_false]
      omega
  · rename_i url body rest hbackground
    dsimp only
    split <;>
    · refine h.congr rfl h.guids (fun _ => id) rfl fun v => ?_
      simp only [inFlight, hbackground, ListCache.replaceFile, List.map_append, List.map_cons,
        List.map_nil, BackgroundTask.url, UiReply.url, List.count_append, List.count_cons,
        List.count_nil]
      omega

theorem Balanced.runDelete (h : Balanced prefs t calls refused []) (i : Nat) :
    Balanced prefs (t.runDelete path i) calls refused [] := by
  unfold ListCache.runDelete
  split
  · exact h
  · exact h.congr rfl h.guids (fun _ => id) rfl fun _ => rfl

/-- Each event of the cache keeps the accounts balanced. -/
theorem Balanced.step (h : Balanced prefs t calls refused []) {e : CacheEvent}
    (henabled : t.enabled e) :
    Balanced prefs (t.step path e) (calls ++ (t.served e).toList)
      (refused ++ (t.refusedBy e).toList) [] := by
  cases e with
  | call e =>
    obtain ⟨hchecked, hcalled⟩ := henabled
    have hnone := reportedUrl_of_called hcalled
    simp only [served, refusedBy, Option.toList_some, Option.toList_none, List.append_nil]
    exact Balanced.perform (by simpa [hnone] using h) hchecked
  | onDownloadStarted guid accepted =>
    simp only [served, Option.toList_none, List.append_nil]
    exact h.onDownloadStarted guid accepted
  | onDownloadFailed guid now =>
    simp only [refusedBy, Option.toList_none, List.append_nil]
    exact h.onDownloadFailed guid now
  | onDownloadSucceeded guid body =>
    simp only [served, refusedBy, Option.toList_none, List.append_nil]
    exact h.onDownloadSucceeded guid body
  | runBackground ok =>
    simp only [served, refusedBy, Option.toList_none, List.append_nil]
    exact h.runBackground ok
  | runDelete i =>
    simp only [served, refusedBy, Option.toList_none, List.append_nil]
    exact h.runDelete i
  | runUi now =>
    simp only [refusedBy, Option.toList_none, List.append_nil]
    exact h.runUi now

end Files

end ListCache

namespace DownloadBooks

open SubscriptionServiceManager

variable {π : Type} [DecidableEq π]

/-- In every run of the download manager with the service manager, the service manager has gone
through a run of its own, of what it was called with.  Of each list, the downloads that it asked for
in that run are as many as those that the download service refused, those that were reported to it,
and those that are under way. -/
theorem downloads_accounted (path : String → π) (prefs : DictValue)
    (directories : π → Option (Option DATFileDataBuffer)) {es : List CacheEvent}
    {w : DownloadBooks π}
    (run : Run (machine path) { cache := .init path prefs directories } es w) :
    ∃ v, Run SubscriptionServiceManager.machine { prefs := prefs } w.calls v ∧
      w.cache.service = { v with effects := [] } ∧
      ∀ url, (v.effects.filterMap downloadUrl).count url =
        w.refused.count url + (w.calls.filterMap reportedUrl).count url +
          w.cache.inFlight.count url := by
  have hbalanced : ListCache.Balanced prefs w.cache w.calls w.refused [] := by
    refine run.preserves (P := fun w => ListCache.Balanced prefs w.cache w.calls w.refused []) ?_ ?_
    · intro w e _ henabled hstep hw
      cases hstep
      exact hw.step henabled
    · exact ⟨⟨_, .nil _, rfl, fun url => by simp [ListCache.inFlight, ListCache.init]⟩,
        by simp [ListCache.init], by simp [ListCache.init]⟩
  simpa using hbalanced.service

/-- Three downloads of a list, of which one is refused, one succeeds, and one is under way. -/
def threeDownloads : List CacheEvent :=
  [.call (.onGetDownloadManager true), .call (.createSubscription ListCache.listUrl),
    .call (.refreshSubscription ListCache.listUrl true),
    .call (.refreshSubscription ListCache.listUrl true), .onDownloadStarted 0 false,
    .onDownloadStarted 1 true, .onDownloadStarted 2 true, .onDownloadSucceeded 1 [],
    .runBackground true, .runUi .null, .runBackground true, .runUi .null]

theorem downloads_accounted_threeDownloads :
    ∃ w, Run (machine ListCache.subscriptionDir) { cache := ListCache.newProfile } threeDownloads
        w ∧
      w.refused = [ListCache.listUrl] ∧
      w.calls.filterMap reportedUrl = [ListCache.listUrl] ∧
      w.cache.inFlight = [ListCache.listUrl] ∧
      ∃ v : SubscriptionServiceManager, w.cache.service = { v with effects := [] } ∧
        (v.effects.filterMap downloadUrl).count ListCache.listUrl = 3 := by
  obtain ⟨w, run, hw⟩ := Machine.exists_run (machine ListCache.subscriptionDir)
    { cache := ListCache.newProfile } threeDownloads
    (fun w => w.refused == [ListCache.listUrl] &&
      w.calls.filterMap reportedUrl == [ListCache.listUrl] &&
      w.cache.inFlight == [ListCache.listUrl]) (by decide +kernel)
  simp only [Bool.and_eq_true, beq_iff_eq] at hw
  obtain ⟨⟨hrefused, hreported⟩, hflight⟩ := hw
  obtain ⟨v, -, hservice, hcount⟩ :=
    downloads_accounted ListCache.subscriptionDir [] (fun _ => none) run
  refine ⟨w, run, hrefused, hreported, hflight, v, hservice, ?_⟩
  rw [hcount, hrefused, hreported, hflight]
  rfl

end DownloadBooks

end ChromiumAdblock
