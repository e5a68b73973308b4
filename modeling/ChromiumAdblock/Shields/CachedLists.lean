import ChromiumAdblock.Shields.ListCache

/-! When the cached lists agree with the subscriptions.  A run keeps them in agreement as long as no
list file is put in place for a URL that is not subscribed to, no directory is deleted that holds
the list of a subscription, and no download is recorded whose file is gone. -/

namespace ChromiumAdblock

open EventMachine

namespace SubscriptionServiceManager

variable {s : SubscriptionServiceManager}

/-- The URL whose directory an effect deletes. -/
def deletedUrl : ServiceEffect → Option String
  | .deletePathRecursively url => some url
  | _ => none

/-- The URLs whose directories an entry point has deleted. -/
def deletedBy : ServiceEvent → List String
  | .deleteSubscription url => [url]
  | _ => []

/-- `t` asks for the deletions that `s` asks for. -/
def SameDeletes (s t : SubscriptionServiceManager) : Prop :=
  t.effects.filterMap deletedUrl = s.effects.filterMap deletedUrl

theorem SameDeletes.trans {t u : SubscriptionServiceManager} (h : SameDeletes s t)
    (h' : SameDeletes t u) : SameDeletes s u :=
  Eq.trans h' h

theorem sameDeletes_ask (s : SubscriptionServiceManager) {effect : ServiceEffect}
    (h : deletedUrl effect = none) : SameDeletes s (s.ask effect) := by
  show (s.effects ++ [effect]).filterMap deletedUrl = s.effects.filterMap deletedUrl
  rw [List.filterMap_append]
  simp [h]

theorem sameDeletes_startDownload (s : SubscriptionServiceManager) (url : String) (fromUi : Bool) :
    SameDeletes s (s.startDownload url fromUi) := by
  unfold startDownload
  split
  · exact sameDeletes_ask s rfl
  · rfl

theorem sameDeletes_destroyProvider (s : SubscriptionServiceManager)
    (p : SubscriptionFiltersProvider) : SameDeletes s (s.destroyProvider p) :=
  sameDeletes_ask { s with registered := s.registered.filter fun q => q.id ≠ p.id } rfl

theorem sameDeletes_insertProvider (s : SubscriptionServiceManager)
    (p : SubscriptionFiltersProvider) : SameDeletes s (s.insertProvider p) := by
  unfold insertProvider
  split
  · rfl
  · exact sameDeletes_destroyProvider s p

theorem sameDeletes_eraseProvider (s : SubscriptionServiceManager) (url : String) :
    SameDeletes s (s.eraseProvider url) := by
  unfold eraseProvider
  split
  · rfl
  · exact sameDeletes_destroyProvider { s with providers := Function.update s.providers url none } _

theorem sameDeletes_startProvider (s : SubscriptionServiceManager) (url : String) :
    SameDeletes s (s.startProvider url) :=
  (sameDeletes_ask (s.constructProvider url) rfl).trans (sameDeletes_insertProvider _ _)

theorem sameDeletes_announceList (s : SubscriptionServiceManager) (url : String) :
    SameDeletes s (s.announceList url) := by
  unfold announceList
  split
  · rfl
  · exact sameDeletes_ask s rfl

theorem sameDeletes_foldl {f : SubscriptionServiceManager → String → SubscriptionServiceManager}
    (hf : ∀ s key, SameDeletes s (f s key)) (s : SubscriptionServiceManager) (keys : List String) :
    SameDeletes s (keys.foldl f s) := by
  induction keys generalizing s with
  | nil => rfl
  | cons key keys ih => exact (hf s key).trans (ih (f s key))

theorem sameDeletes_updateEntry (now : Time) (s : SubscriptionServiceManager) (key : String) :
    SameDeletes s (updateEntry now s key) := by
  unfold updateEntry
  split
  · rfl
  · split
    · exact sameDeletes_startDownload s key false
    · rfl

theorem sameDeletes_loadEntry (s : SubscriptionServiceManager) (key : String) :
    SameDeletes s (s.loadEntry key) := by
  unfold loadEntry
  split
  · rfl
  · split
    · exact sameDeletes_startProvider s key
    · rfl

theorem sameDeletes_createSubscription (s : SubscriptionServiceManager) (url : String) :
    SameDeletes s (s.createSubscription url) := by
  unfold createSubscription
  split
  · rfl
  · let t := s.updateSubscriptionPrefs url
      { subscriptionUrl := url
        enabled := true }
    exact SameDeletes.trans
      (sameDeletes_insertProvider (t.constructProvider url) (t.newProvider url))
      (sameDeletes_startDownload _ url true)

theorem sameDeletes_enableSubscription (s : SubscriptionServiceManager) (url : String)
    (enabled : Bool) : SameDeletes s (s.enableSubscription url enabled) := by
  unfold enableSubscription
  split
  · rfl
  · cases enabled with
    | true => exact sameDeletes_startProvider s url
    | false => exact sameDeletes_eraseProvider s url

/-- Only `DeleteSubscription` asks for a deletion, of the directory of its URL. -/
theorem step_deletes (s : SubscriptionServiceManager) (e : ServiceEvent) :
    (s.step e).effects.filterMap deletedUrl =
      s.effects.filterMap deletedUrl ++ deletedBy e := by
  have hmore : ∀ {t}, SameDeletes s t → t.effects.filterMap deletedUrl =
      s.effects.filterMap deletedUrl ++ [] := fun h => Eq.trans h (List.append_nil _).symm
  cases e with
  | deleteSubscription url =>
    show (((s.eraseProvider url).clearSubscriptionPrefs url).effects ++
      [ServiceEffect.deletePathRecursively url]).filterMap deletedUrl = _
    rw [List.filterMap_append]
    exact congrArg (· ++ [url]) (sameDeletes_eraseProvider s url)
  | onGetDownloadManager available =>
    apply hmore
    exact (sameDeletes_ask { s with downloadsAvailable := available } rfl).trans
      (sameDeletes_foldl sameDeletes_loadEntry _ _)
  | onDownloadServiceUnavailable => exact hmore rfl
  | createSubscription url => exact hmore (sameDeletes_createSubscription s url)
  | enableSubscription url enabled => exact hmore (sameDeletes_enableSubscription s url enabled)
  | refreshSubscription url fromUi => exact hmore (sameDeletes_startDownload s url true)
  | onUpdateTimer now =>
    apply hmore
    exact sameDeletes_foldl (sameDeletes_updateEntry now) { s with subscriptions := s.prefs } _
  | onListMetadata url metadata =>
    apply hmore
    simp only [step, onListMetadata]
    split
    · rfl
    · exact sameDeletes_ask (s.updateSubscriptionPrefs url _) rfl
  | onSubscriptionDownloaded url now =>
    apply hmore
    simp only [step, onSubscriptionDownloaded]
    split
    · rfl
    · exact (sameDeletes_announceList (s.updateSubscriptionPrefs url _) url).trans
        (sameDeletes_ask _ rfl)
  | onSubscriptionDownloadFailure url now =>
    apply hmore
    simp only [step, onSubscriptionDownloadFailure]
    split
    · rfl
    · exact sameDeletes_ask (s.updateSubscriptionPrefs url _) rfl

/-- Only `DeleteSubscription` takes a URL out of preferences. -/
theorem find_of_find {e : ServiceEvent} {url : String} (h : (s.prefs.find url).isSome = true) :
    ((s.step e).prefs.find url).isSome = true ∨ e = .deleteSubscription url := by
  have hput : ∀ u info, (((PrefsChange.put u info).apply s.prefs).find url).isSome = true := by
    intro u info
    by_cases hu : url = u
    · simp [PrefsChange.apply, hu]
    · rw [PrefsChange.apply, DictValue.find_set_ne _ _ hu]
      exact h
  have hrewrite : ∀ u f, (((s.rewrite u f).apply s.prefs).find url).isSome = true := by
    intro u f
    unfold rewrite
    split
    · exact h
    · exact hput u _
  rw [(step_does s e).prefs]
  cases e with
  | createSubscription u =>
    simp only [prefsChange]
    split
    · exact .inl h
    · exact .inl (hput u _)
  | deleteSubscription u =>
    by_cases hu : url = u
    · exact .inr (by rw [hu])
    · refine .inl ?_
      rw [prefsChange, PrefsChange.apply, DictValue.find_remove_ne _ hu]
      exact h
  | enableSubscription u enabled => exact .inl (hrewrite u _)
  | onListMetadata u metadata => exact .inl (hrewrite u _)
  | onSubscriptionDownloaded u now => exact .inl (hrewrite u _)
  | onSubscriptionDownloadFailure u now => exact .inl (hrewrite u _)
  | _ => exact .inl h

/-- A download of the list was recorded in a record. -/
def everSucceeded (info : SubscriptionInfo) : Bool := !info.lastSuccessfulUpdateAttempt.isNull

/-- A download of the list was recorded since the subscription was made. -/
def downloaded (s : SubscriptionServiceManager) (url : String) : Bool :=
  recordMeets s.prefs url everSucceeded

theorem everSucceeded_stored (url : String) (info : SubscriptionInfo) :
    everSucceeded (stored url info) = everSucceeded info := rfl

/-- Only `OnSubscriptionDownloaded` records a download, for a URL that has a record. -/
theorem Sound.downloaded_of_step (h : Sound s) {e : ServiceEvent} {url : String}
    (hdown : (s.step e).downloaded url = true) :
    s.downloaded url = true ∨
      (s.getInfo url).isSome = true ∧ ∃ now, e = .onSubscriptionDownloaded url now := by
  unfold downloaded at hdown ⊢
  rw [(step_does s e).prefs] at hdown
  cases e with
  | createSubscription u =>
    simp only [prefsChange] at hdown
    split at hdown
    · exact .inl hdown
    · rw [recordMeets_put everSucceeded_stored] at hdown
      split at hdown
      · contradiction
      · exact .inl hdown
  | deleteSubscription u =>
    rw [prefsChange, recordMeets_drop, Bool.and_eq_true] at hdown
    exact .inl hdown.2
  | onSubscriptionDownloaded u now =>
    by_cases hu : url = u
    · subst hu
      cases hinfo : s.getInfo url with
      | none =>
        refine .inl ?_
        simpa [prefsChange, rewrite, hinfo, PrefsChange.apply] using hdown
      | some info => exact .inr ⟨rfl, now, rfl⟩
    · refine .inl ?_
      simp only [prefsChange, rewrite] at hdown
      split at hdown
      · exact hdown
      · rwa [recordMeets_put everSucceeded_stored, if_neg hu] at hdown
  | enableSubscription u enabled =>
    refine .inl (Eq.trans (Eq.symm ?_) hdown)
    exact h.recordMeets_rewrite everSucceeded_stored u url fun _ => rfl
  | onListMetadata u metadata =>
    refine .inl (Eq.trans (Eq.symm ?_) hdown)
    exact h.recordMeets_rewrite everSucceeded_stored u url fun _ => rfl
  | onSubscriptionDownloadFailure u now =>
    refine .inl (Eq.trans (Eq.symm ?_) hdown)
    exact h.recordMeets_rewrite everSucceeded_stored u url fun _ => rfl
  | _ => exact .inl hdown

end SubscriptionServiceManager

namespace ListCache

open SubscriptionServiceManager

variable {π : Type} {path : String → π} {s : ListCache π}

/-- What is asked for changes only the downloads that are asked for and the deletions. -/
theorem foldl_carryOut (s : ListCache π) (effects : List ServiceEffect) :
    ∃ started nextGuid, effects.foldl carryOut s =
      { s with
        started := started
        nextGuid := nextGuid
        deletes := s.deletes ++ effects.filterMap deletedUrl } := by
  induction effects generalizing s with
  | nil => exact ⟨s.started, s.nextGuid, by simp⟩
  | cons effect effects ih =>
    obtain ⟨started, nextGuid, hrest⟩ := ih (s.carryOut effect)
    refine ⟨started, nextGuid, ?_⟩
    rw [List.foldl_cons, hrest]
    cases effect <;> simp [carryOut, deletedUrl, List.filterMap_cons]

/-- A call of the service manager, which has asked for nothing that is not under way. -/
theorem perform_eq (hasked : s.service.effects = []) (e : ServiceEvent) :
    ∃ started nextGuid, s.perform e =
      { s with
        service := { s.service.step e with effects := [] }
        started := started
        nextGuid := nextGuid
        deletes := s.deletes ++ deletedBy e } := by
  obtain ⟨started, nextGuid, hfold⟩ := foldl_carryOut
    { s with service := { s.service.step e with effects := [] } } (s.service.step e).effects
  refine ⟨started, nextGuid, ?_⟩
  rw [perform, hfold, step_deletes, hasked]
  rfl

/-- The body of a download of a URL whose success a reply tells of. -/
def tiding (url : String) : UiReply → Option DATFileDataBuffer
  | .replaceFileCallback u body true => if u = url then some body else none
  | _ => none

/-- The bodies of the downloads of a URL whose success is still to be told. -/
def tidings (s : ListCache π) (url : String) : List DATFileDataBuffer := s.ui.filterMap (tiding url)

/-- The body of the last download of a URL that put its list file in place. -/
def newestBody (s : ListCache π) (url : String) : Option DATFileDataBuffer :=
  (s.tidings url).getLast?.or (s.lastBody url)

variable (path) in
/-- The list files are those of subscriptions or about to be deleted, a recorded download left its
list file, and a list file holds what the last download of its URL brought. -/
structure Stocked (s : ListCache π) : Prop where
  sound : Sound s.service
  asked : s.service.effects = []
  kept : ∀ p body, s.listFile p = some body →
    ∃ url, path url = p ∧ ((s.service.prefs.find url).isSome = true ∨ url ∈ s.deletes)
  present : ∀ url, s.service.downloaded url = true → (s.listFile (path url)).isSome = true
  bodies : ∀ url body, s.listFile (path url) = some body → s.newestBody url = some body

/-- A call of the service manager that records no download of a list that is gone. -/
theorem Stocked.perform (h : Stocked path s) {e : ServiceEvent} (hok : s.service.checked e)
    (hfile : ∀ url now, e = .onSubscriptionDownloaded url now →
      (s.service.getInfo url).isSome = true → (s.listFile (path url)).isSome = true) :
    Stocked path (s.perform e) := by
  obtain ⟨started, nextGuid, hperform⟩ := perform_eq h.asked e
  have hsound := h.sound.step hok
  rw [hperform]
  refine ⟨⟨hsound.written, hsound.copied, hsound.held.congr rfl rfl rfl, hsound.enabled⟩, rfl,
    ?_, ?_, h.bodies⟩
  · intro p body hp
    obtain ⟨url, hurl, hin⟩ := h.kept p body hp
    refine ⟨url, hurl, ?_⟩
    rcases hin with hin | hin
    · rcases find_of_find (e := e) hin with hin | rfl
      · exact .inl hin
      · exact .inr (List.mem_append_right _ (List.mem_singleton_self url))
    · exact .inr (List.mem_append_left _ hin)
  · intro url hdown
    rcases h.sound.downloaded_of_step hdown with hold | ⟨hinfo, now, he⟩
    · exact h.present url hold
    · exact hfile url now he hinfo

theorem Stocked.congr {t : ListCache π} (h : Stocked path s) (hservice : t.service = s.service)
    (hfiles : t.listFile = s.listFile) (hdeletes : t.deletes = s.deletes)
    (hnewest : t.newestBody = s.newestBody) : Stocked path t := by
  refine ⟨?_, ?_, ?_, ?_, ?_⟩
  · rw [hservice]
    exact h.sound
  · rw [hservice]
    exact h.asked
  · rw [hfiles, hservice, hdeletes]
    exact h.kept
  · rw [hfiles, hservice]
    exact h.present
  · rw [hfiles, hnewest]
    exact h.bodies

theorem Stocked.fails (h : Stocked path s) (url : String) (now : Time) :
    Stocked path (s.perform (.onSubscriptionDownloadFailure url now)) :=
  h.perform trivial (by simp)

theorem newestBody_post {t : ListCache π} (reply : UiReply) (hui : t.ui = s.ui ++ [reply])
    (hlast : t.lastBody = s.lastBody) (hreply : ∀ url, tiding url reply = none) :
    t.newestBody = s.newestBody := by
  funext url
  simp [newestBody, tidings, hui, hlast, hreply, List.filterMap_append]

theorem newestBody_handle {t : ListCache π} {reply : UiReply} (hui : s.ui = reply :: t.ui)
    (hlast : t.lastBody = s.lastBody) (hreply : ∀ url, tiding url reply = none) :
    t.newestBody = s.newestBody := by
  funext url
  simp [newestBody, tidings, hui, hlast, hreply]

/-- With nothing in flight, a cache that is stocked agrees with the subscriptions. -/
theorem Stocked.agrees (h : Stocked path s) (hidle : s.Idle) : Agrees path s := by
  obtain ⟨-, -, -, hui, hdeletes⟩ := hidle
  refine ⟨?_, ?_⟩
  · intro p body hp
    obtain ⟨url, hurl, hin⟩ := h.kept p body hp
    rw [hdeletes] at hin
    exact ⟨url, hurl, hin.resolve_right List.not_mem_nil⟩
  · intro url info hinfo hlast
    have hdown : s.service.downloaded url = true := by
      rw [lastSucceeded, Bool.and_eq_true, beq_iff_eq] at hlast
      rw [downloaded, recordMeets, hinfo]
      show (!info.lastSuccessfulUpdateAttempt.isNull) = true
      rw [← hlast.1]
      exact hlast.2
    obtain ⟨body, hbody⟩ := Option.isSome_iff_exists.mp (h.present url hdown)
    refine ⟨body, hbody, ?_⟩
    have hnewest := h.bodies url body hbody
    rw [newestBody, tidings, hui] at hnewest
    exact hnewest

theorem Stocked.told (h : Stocked path s) {url : String} {body : DATFileDataBuffer}
    {rest : List UiReply} (hui : s.ui = .replaceFileCallback url body true :: rest) :
    Stocked path
      { s with
        ui := rest
        lastBody := Function.update s.lastBody url (some body) } := by
  refine ⟨h.sound, h.asked, h.kept, h.present, ?_⟩
  intro v b hb
  have hnewest := h.bodies v b hb
  rw [newestBody, tidings, hui, List.filterMap_cons] at hnewest
  show ((rest.filterMap (tiding v)).getLast?.or (Function.update s.lastBody url (some body) v)) =
    some b
  by_cases hv : v = url
  · subst hv
    simp only [tiding, if_true] at hnewest
    rw [Function.update_self, ← hnewest]
    cases hrest : rest.filterMap (tiding v) with
    | nil => rfl
    | cons c cs => simp [List.getLast?_cons]
  · have hskip : tiding v (.replaceFileCallback url body true) = none := if_neg (Ne.symm hv)
    rw [hskip] at hnewest
    rw [Function.update_of_ne hv]
    exact hnewest

section InTime

variable (path)

/-- A list file is put into place only for a URL that is in preferences, or whose directory is about
to be deleted. -/
def ReplacesInTime (s : ListCache π) (ok : Bool) : List BackgroundTask → Prop
  | .replaceFile url _ :: _ =>
    ok = true → (s.directories (path url)).isSome = true →
      (s.service.prefs.find url).isSome = true ∨ url ∈ s.deletes
  | _ => True

/-- A download is recorded only while its list file is there. -/
def ToldInTime (s : ListCache π) : List UiReply → Prop
  | .replaceFileCallback url _ true :: _ =>
    (s.service.getInfo url).isSome = true → (s.listFile (path url)).isSome = true
  | _ => True

/-- Lists are put into place and recorded in time, and a directory is deleted only while its URL has
no recorded download. -/
def InTime (s : ListCache π) : CacheEvent → Prop
  | .runBackground ok => ReplacesInTime path s ok s.background
  | .runDelete i => ∀ url ∈ s.deletes[i]?, s.service.downloaded url = false
  | .runUi _ => ToldInTime path s s.ui
  | _ => True

instance (s : ListCache π) (ok : Bool) : ∀ tasks, Decidable (ReplacesInTime path s ok tasks)
  | .replaceFile url _ :: _ =>
    inferInstanceAs (Decidable (ok = true → (s.directories (path url)).isSome = true →
      (s.service.prefs.find url).isSome = true ∨ url ∈ s.deletes))
  | [] | .ensureDirExists _ _ :: _ => inferInstanceAs (Decidable True)

instance (s : ListCache π) : ∀ replies, Decidable (ToldInTime path s replies)
  | .replaceFileCallback url _ true :: _ =>
    inferInstanceAs (Decidable ((s.service.getInfo url).isSome = true →
      (s.listFile (path url)).isSome = true))
  | [] | .replaceFileCallback _ _ false :: _ | .onDirCreated _ _ _ :: _ =>
    inferInstanceAs (Decidable True)

instance (s : ListCache π) : ∀ e, Decidable (InTime path s e)
  | .runBackground ok => inferInstanceAs (Decidable (ReplacesInTime path s ok s.background))
  | .runDelete i =>
    inferInstanceAs (Decidable (∀ url ∈ s.deletes[i]?, s.service.downloaded url = false))
  | .runUi _ => inferInstanceAs (Decidable (ToldInTime path s s.ui))
  | .call _ | .onDownloadStarted _ _ | .onDownloadFailed _ _ | .onDownloadSucceeded _ _ =>
    inferInstanceAs (Decidable True)

end InTime

theorem Stocked.runUi (h : Stocked path s) {now : Time} (hok : InTime path s (.runUi now)) :
    Stocked path (s.runUi now) := by
  unfold ListCache.runUi
  replace hok : ToldInTime path s s.ui := hok
  split
  · exact h
  · rename_i url body created rest hui
    have hrest : Stocked path { s with ui := rest } :=
      h.congr rfl rfl rfl (newestBody_handle hui rfl fun _ => rfl)
    cases created with
    | false => exact hrest.fails url now
    | true => exact hrest.congr rfl rfl rfl rfl
  · rename_i url body success rest hui
    cases success with
    | false =>
      have hrest : Stocked path { s with ui := rest } :=
        h.congr rfl rfl rfl (newestBody_handle hui rfl fun _ => rfl)
      exact hrest.fails url now
    | true =>
      rw [hui] at hok
      refine (h.told hui).perform trivial ?_
      rintro v at' he
      cases he
      exact hok

/-- What the manager finds when it is made is in order: it wrote the preferences, list files are
there for subscriptions only, and for each with a recorded download. -/
structure InOrder (path : String → π) (prefs : DictValue)
    (directories : π → Option (Option DATFileDataBuffer)) : Prop where
  written : Written prefs
  kept : ∀ p body, (directories p).join = some body →
    ∃ url, path url = p ∧ (prefs.find url).isSome = true
  present : ∀ url, recordMeets prefs url everSucceeded = true →
    (directories (path url)).join.isSome = true

theorem InOrder.stocked {prefs : DictValue} {directories : π → Option (Option DATFileDataBuffer)}
    (h : InOrder path prefs directories) : Stocked path (init path prefs directories) := by
  refine ⟨Sound.initial h.written, rfl, ?_, h.present, fun _ _ hbody => hbody⟩
  intro p body hp
  obtain ⟨url, hurl, hin⟩ := h.kept p body hp
  exact ⟨url, hurl, .inl hin⟩

variable [DecidableEq π]

@[simp] theorem listFile_createDirectory (s : ListCache π) (p : π) :
    (s.createDirectory p).listFile = s.listFile := by
  funext q
  by_cases hq : q = p
  · subst hq
    simp [listFile, createDirectory]
  · simp [listFile, createDirectory, hq]

theorem listFile_replaceFile (s : ListCache π) (p : π) (body : DATFileDataBuffer) :
    (s.replaceFile p body).listFile = Function.update s.listFile p (some body) := by
  funext q
  by_cases hq : q = p
  · subst hq
    simp [listFile, replaceFile]
  · simp [listFile, replaceFile, hq]

/-- A list file is put into place for a URL that is subscribed to, or whose directory is about to be
deleted. -/
theorem Stocked.replace (hpath : Function.Injective path) (h : Stocked path s) {t : ListCache π}
    {url : String} {body : DATFileDataBuffer} (hservice : t.service = s.service)
    (hdeletes : t.deletes = s.deletes) (hlast : t.lastBody = s.lastBody)
    (hfiles : t.listFile = Function.update s.listFile (path url) (some body))
    (hui : t.ui = s.ui ++ [.replaceFileCallback url body true])
    (hin : (s.service.prefs.find url).isSome = true ∨ url ∈ s.deletes) : Stocked path t := by
  refine ⟨?_, ?_, ?_, ?_, ?_⟩
  · rw [hservice]
    exact h.sound
  · rw [hservice]
    exact h.asked
  · intro p b hp
    rw [hservice, hdeletes]
    by_cases hpu : p = path url
    · exact ⟨url, hpu.symm, hin⟩
    · rw [hfiles, Function.update_of_ne hpu] at hp
      exact h.kept p b hp
  · intro v hdown
    rw [hservice] at hdown
    rw [hfiles]
    by_cases hv : path v = path url
    · simp [hv]
    · rw [Function.update_of_ne hv]
      exact h.present v hdown
  · intro v b hb
    have htidings : t.tidings v = s.tidings v ++ if url = v then [body] else [] := by
      by_cases hv : url = v <;> simp [tidings, hui, tiding, hv, List.filterMap_append]
    rw [newestBody, htidings, hlast]
    by_cases hv : url = v
    · subst hv
      rw [hfiles, Function.update_self] at hb
      simpa using hb
    · rw [hfiles, Function.update_of_ne fun hpaths => hv (hpath hpaths).symm] at hb
      rw [if_neg hv, List.append_nil]
      exact h.bodies v b hb

theorem Stocked.runBackground (hpath : Function.Injective path) (h : Stocked path s) {ok : Bool}
    (hok : InTime path s (.runBackground ok)) : Stocked path (s.runBackground path ok) := by
  unfold ListCache.runBackground
  replace hok : ReplacesInTime path s ok s.background := hok
  split
  · exact h
  · rename_i url body rest hbackground
    refine h.congr ?_ ?_ ?_ (newestBody_post (.onDirCreated url body ok) ?_ ?_ fun _ => rfl)
    · cases ok <;> rfl
    · cases ok with
      | false => rfl
      | true => exact listFile_createDirectory _ _
    · cases ok <;> rfl
    · cases ok <;> rfl
    · cases ok <;> rfl
  · rename_i url body rest hbackground
    rw [hbackground] at hok
    by_cases hreplaced : (ok && (s.directories (path url)).isSome) = true
    · rw [Bool.and_eq_true] at hreplaced
      simp only [hreplaced.1, hreplaced.2, Bool.true_and, if_true]
      exact h.replace hpath rfl rfl rfl (listFile_replaceFile _ _ _) rfl
        (hok hreplaced.1 hreplaced.2)
    · simp only [hreplaced]
      exact h.congr rfl rfl rfl (newestBody_post _ rfl rfl fun _ => rfl)

theorem Stocked.runDelete (hpath : Function.Injective path) (h : Stocked path s) {i : Nat}
    (hok : InTime path s (.runDelete i)) : Stocked path (s.runDelete path i) := by
  unfold ListCache.runDelete
  split
  · exact h
  · rename_i url hurl
    have hfiles : ∀ p, p ≠ path url →
        (Function.update s.directories (path url) none p).join = s.listFile p := by
      intro p hp
      rw [Function.update_of_ne hp]
      rfl
    have hgone : (Function.update s.directories (path url) none (path url)).join = none := by
      rw [Function.update_self]
      rfl
    refine ⟨h.sound, h.asked, ?_, ?_, ?_⟩
    · intro p body hp
      have hne : p ≠ path url := by
        rintro rfl
        exact absurd (hgone.symm.trans hp) (by simp)
      obtain ⟨v, hv, hin⟩ := h.kept p body ((hfiles p hne).symm.trans hp)
      refine ⟨v, hv, ?_⟩
      rcases hin with hin | hin
      · exact .inl hin
      · refine .inr ((List.mem_eraseIdx_iff_getElem?).mpr ?_)
        obtain ⟨j, hj⟩ := List.mem_iff_getElem?.mp hin
        refine ⟨j, ?_, hj⟩
        rintro rfl
        exact hne (hv.symm.trans (congrArg path (Option.some.inj (hj.symm.trans hurl))))
    · intro v hdown
      have hne : path v ≠ path url := by
        intro hpaths
        have := hok url hurl
        rw [← hpath hpaths] at this
        exact absurd (hdown.symm.trans this) (by simp)
      show ((Function.update s.directories (path url) none (path v)).join).isSome = true
      rw [hfiles _ hne]
      exact h.present v hdown
    · intro v body hb
      have hne : path v ≠ path url := by
        intro hpaths
        have hfile : (Function.update s.directories (path url) none (path v)).join = some body := hb
        rw [hpaths, hgone] at hfile
        contradiction
      exact h.bodies v body ((hfiles _ hne).symm.trans hb)

theorem Stocked.step (hpath : Function.Injective path) (h : Stocked path s) {e : CacheEvent}
    (henabled : s.enabled e) (hok : InTime path s e) : Stocked path (s.step path e) := by
  cases e with
  | call e =>
    refine h.perform henabled.1 ?_
    rintro url now rfl
    exact absurd henabled.2 (by simp [called])
  | onDownloadStarted guid accepted =>
    unfold ListCache.step onDownloadStarted
    simp only
    split
    · exact h
    · exact h.congr rfl rfl rfl rfl
  | onDownloadFailed guid now =>
    unfold ListCache.step onDownloadFailed
    simp only
    split
    · exact h
    · have hrest : Stocked path
          { s with pending := s.pending.filter fun download => download.1 ≠ guid } :=
        h.congr rfl rfl rfl rfl
      exact hrest.fails _ now
  | onDownloadSucceeded guid body =>
    unfold ListCache.step onDownloadSucceeded
    simp only
    split
    · exact h
    · exact h.congr rfl rfl rfl rfl
  | runBackground ok => exact h.runBackground hpath hok
  | runDelete i => exact h.runDelete hpath hok
  | runUi now => exact h.runUi hok

/-- A run in which lists are put into place, recorded, and deleted in time ends, once nothing is in
flight, with a cache that agrees with the subscriptions. -/
theorem cache_agrees (hpath : Function.Injective path) {prefs : DictValue}
    {directories : π → Option (Option DATFileDataBuffer)} (hstart : InOrder path prefs directories)
    {es : List CacheEvent} {t : ListCache π}
    (run : Run ((machine path).restrict (InTime path)) (init path prefs directories) es t)
    (hidle : t.Idle) : Agrees path t := by
  have hstocked : Stocked path t := by
    refine run.preserves (P := Stocked path) ?_ hstart.stocked
    intro s e s' henabled hstep h
    cases hstep
    exact h.step hpath henabled.1 henabled.2
  exact hstocked.agrees hidle

/-- The directory of a subscription, by its URL in place of the hash of the URL. -/
def subscriptionDir (url : String) : String := "FilterListSubscriptionCache/" ++ url

theorem subscriptionDir_injective : Function.Injective subscriptionDir := by
  intro a b h
  exact (String.append_right_inj "FilterListSubscriptionCache/").mp h

/-- The list of the runs below. -/
def listUrl : String := "https://lists.example/a.txt"

/-- A download that comes through while nothing else happens. -/
def download (guid : Nat) (body : DATFileDataBuffer) (now : Time) : List CacheEvent :=
  [.onDownloadStarted guid true, .onDownloadSucceeded guid body, .runBackground true, .runUi now,
    .runBackground true, .runUi now]

/-- The list is subscribed to, and its download is recorded. -/
def subscribe : List CacheEvent :=
  [.call (.onGetDownloadManager true), .call (.createSubscription listUrl)] ++
    download 0 [97] ⟨5, by decide, by decide⟩

/-- The subscription is deleted, with its directory, and made again. -/
def deleteAndSubscribe : List CacheEvent :=
  subscribe ++
    [.call (.deleteSubscription listUrl), .runDelete 0, .call (.createSubscription listUrl)] ++
    download 1 [98] ⟨7, by decide, by decide⟩

/-- The subscription is made again before its directory is deleted. -/
def subscribeBeforeDelete : List CacheEvent :=
  subscribe ++
    [.call (.deleteSubscription listUrl), .call (.createSubscription listUrl)] ++
    download 1 [98] ⟨7, by decide, by decide⟩ ++ [.runDelete 0]

/-- The subscription and its directory are deleted before the download ends. -/
def deleteBeforeDownload : List CacheEvent :=
  [.call (.onGetDownloadManager true), .call (.createSubscription listUrl),
    .onDownloadStarted 0 true, .call (.deleteSubscription listUrl), .runDelete 0,
    .onDownloadSucceeded 0 [97], .runBackground true, .runUi ⟨5, by decide, by decide⟩,
    .runBackground true, .runUi ⟨5, by decide, by decide⟩]

/-- The cache of a new profile. -/
def newProfile : ListCache String := init subscriptionDir [] fun _ => none

theorem newProfile_inOrder : InOrder subscriptionDir [] fun _ => none :=
  ⟨by simp [Written], by simp, by simp [recordMeets, prefsRecord, DictValue.findDict]⟩

/-- A subscription that is deleted and made again, each step in time, has the list of its second
download. -/
theorem cache_agrees_in_turn :
    ∃ t, Run ((machine subscriptionDir).restrict (InTime subscriptionDir)) newProfile
        deleteAndSubscribe t ∧
      (t.Idle ∧ t.listFile (subscriptionDir listUrl) = some [98]) ∧ Agrees subscriptionDir t := by
  obtain ⟨t, run, ht⟩ := Machine.exists_run
    ((machine subscriptionDir).restrict (InTime subscriptionDir)) newProfile deleteAndSubscribe
    (fun t => decide (t.Idle ∧ t.listFile (subscriptionDir listUrl) = some [98]))
    (by decide +kernel)
  have hfile := of_decide_eq_true ht
  exact ⟨t, run, hfile, cache_agrees subscriptionDir_injective newProfile_inOrder run hfile.1⟩

/-- A download that ends after its subscription was deleted leaves a list file that no subscription
has; and a deletion that runs after the subscription was made again takes the list of the new one.
-/
theorem late_steps_break_cache :
    (∃ t, Run (machine subscriptionDir) newProfile deleteBeforeDownload t ∧ t.Idle ∧
      ¬Agrees subscriptionDir t) ∧
    ∃ t, Run (machine subscriptionDir) newProfile subscribeBeforeDelete t ∧ t.Idle ∧
      ¬Agrees subscriptionDir t := by
  constructor
  · obtain ⟨t, run, ht⟩ := Machine.exists_run (machine subscriptionDir) newProfile
      deleteBeforeDownload
      (fun t => decide (t.Idle ∧ t.service.prefs = [] ∧
        t.listFile (subscriptionDir listUrl) = some [97])) (by decide +kernel)
    obtain ⟨hidle, hprefs, hfile⟩ := of_decide_eq_true ht
    refine ⟨t, run, hidle, fun hagrees => ?_⟩
    obtain ⟨url, -, hin⟩ := hagrees.subscribed _ _ hfile
    rw [hprefs] at hin
    contradiction
  · obtain ⟨t, run, ht⟩ := Machine.exists_run (machine subscriptionDir) newProfile
      subscribeBeforeDelete
      (fun t => decide (t.Idle ∧ (prefsRecord t.service.prefs listUrl).any lastSucceeded = true ∧
        t.listFile (subscriptionDir listUrl) = none)) (by decide +kernel)
    obtain ⟨hidle, hrecord, hfile⟩ := of_decide_eq_true ht
    obtain ⟨info, hinfo, hlast⟩ := (Option.any_eq_true _ _).mp hrecord
    refine ⟨t, run, hidle, fun hagrees => ?_⟩
    obtain ⟨body, hbody, -⟩ := hagrees.cached _ info hinfo hlast
    rw [hfile] at hbody
    contradiction

end ListCache

end ChromiumAdblock
