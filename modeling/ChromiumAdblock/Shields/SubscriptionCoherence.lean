import Mathlib.Data.List.Nodup
import ChromiumAdblock.Shields.Subscriptions

/-! The preferences, their copy in memory, the map of providers, and the providers that the manager
of filters knows tell one story, whatever calls and callbacks come in whatever order. -/

namespace ChromiumAdblock

open EventMachine

/-- Every entry was written by `UpdateSubscriptionPrefs`. -/
def Written (prefs : DictValue) : Prop :=
  ∀ url value, prefs.find url = some value → ∃ info, value = .dict (subscriptionDict info)

/-- The record of a URL in preferences. -/
def prefsRecord (prefs : DictValue) (url : String) : Option SubscriptionInfo :=
  (prefs.findDict url).map (buildInfoFromDict url)

/-- What is left of a record that is stored for a URL. -/
def stored (url : String) (info : SubscriptionInfo) : SubscriptionInfo :=
  { info with
    subscriptionUrl := url
    expires := readableExpires info.expires }

theorem Written.set {prefs : DictValue} (h : Written prefs) (url : String)
    (info : SubscriptionInfo) : Written (prefs.set url (.dict (subscriptionDict info))) := by
  intro v value hfind
  by_cases hv : v = url
  · subst hv
    rw [DictValue.find_set_self] at hfind
    exact ⟨info, (Option.some.inj hfind).symm⟩
  · rw [DictValue.find_set_ne _ _ hv] at hfind
    exact h v value hfind

theorem Written.remove {prefs : DictValue} (h : Written prefs) (url : String) :
    Written (prefs.remove url) := by
  intro v value hfind
  by_cases hv : v = url
  · subst hv
    rw [DictValue.find_remove_self] at hfind
    contradiction
  · rw [DictValue.find_remove_ne _ hv] at hfind
    exact h v value hfind

theorem prefsRecord_set_self (prefs : DictValue) (url : String) (info : SubscriptionInfo) :
    prefsRecord (prefs.set url (.dict (subscriptionDict info))) url = some (stored url info) := by
  rw [prefsRecord, DictValue.findDict, DictValue.find_set_self]
  exact congrArg some (buildInfoFromDict_subscriptionDict url info)

theorem prefsRecord_set_ne (prefs : DictValue) {url v : String} (value : Value) (h : v ≠ url) :
    prefsRecord (prefs.set url value) v = prefsRecord prefs v := by
  rw [prefsRecord, prefsRecord, DictValue.findDict, DictValue.findDict, DictValue.find_set_ne _ _ h]

theorem prefsRecord_remove_self (prefs : DictValue) (url : String) :
    prefsRecord (prefs.remove url) url = none := by
  rw [prefsRecord, DictValue.findDict, DictValue.find_remove_self]
  rfl

theorem prefsRecord_remove_ne (prefs : DictValue) {url v : String} (h : v ≠ url) :
    prefsRecord (prefs.remove url) v = prefsRecord prefs v := by
  rw [prefsRecord, prefsRecord, DictValue.findDict, DictValue.findDict,
    DictValue.find_remove_ne _ h]

theorem find_isSome_of_prefsRecord {prefs : DictValue} {url : String} {info : SubscriptionInfo}
    (h : prefsRecord prefs url = some info) : (prefs.find url).isSome = true := by
  rw [prefsRecord, DictValue.findDict] at h
  cases hfind : prefs.find url with
  | none => simp [hfind] at h
  | some value => rfl

/-- The `enabled` of the entry of a URL. -/
def enabledPref (prefs : DictValue) (url : String) : Option Bool :=
  (prefs.findDict url).bind fun dict => dict.findBool "enabled"

theorem Written.enabledPref_eq {prefs : DictValue} (h : Written prefs) (url : String) :
    enabledPref prefs url = (prefsRecord prefs url).map (·.enabled) := by
  cases hfind : prefs.find url with
  | none => simp [enabledPref, prefsRecord, DictValue.findDict, hfind]
  | some value =>
    obtain ⟨info, rfl⟩ := h url value hfind
    simp only [enabledPref, prefsRecord, DictValue.findDict, hfind, Option.bind_some,
      Value.getIfDict, Option.map_some, buildInfoFromDict_subscriptionDict]
    rw [DictValue.findBool, subscriptionDict_enabled]
    rfl

namespace SubscriptionServiceManager

variable {s : SubscriptionServiceManager}

/-- The registered providers are those in the map, each under its own URL. -/
structure Held (s : SubscriptionServiceManager) : Prop where
  mem_iff : ∀ p, p ∈ s.registered ↔ s.providers p.url = some p
  key : ∀ url p, s.providers url = some p → p.url = url
  ids : (s.registered.map (·.id)).Nodup
  fresh : ∀ p ∈ s.registered, p.id < s.nextProvider

theorem Held.ne_newProvider (h : Held s) (url : String) {p : SubscriptionFiltersProvider}
    (hp : p ∈ s.registered) : p.id ≠ (s.newProvider url).id := by
  have := h.fresh p hp
  simp only [newProvider]
  omega

theorem Held.id_inj (h : Held s) {p q : SubscriptionFiltersProvider} (hp : p ∈ s.registered)
    (hq : q ∈ s.registered) (hid : p.id = q.id) : p = q :=
  List.inj_on_of_nodup_map h.ids hp hq hid

/-- A provider that is made and finds its key taken leaves no trace but its number. -/
theorem Held.insert_taken (h : Held s) {url : String} {q : SubscriptionFiltersProvider}
    (hq : s.providers url = some q) :
    Held ((s.constructProvider url).insertProvider (s.newProvider url)) ∧
      ((s.constructProvider url).insertProvider (s.newProvider url)).providers = s.providers := by
  have hfilter : (s.registered ++ [s.newProvider url]).filter
      (fun r => r.id ≠ (s.newProvider url).id) = s.registered := by
    rw [List.filter_append, List.filter_eq_self.mpr, List.filter_cons_of_neg (by simp)]
    · exact List.append_nil _
    · intro r hr
      simpa using h.ne_newProvider url hr
  have hinsert : (s.constructProvider url).insertProvider (s.newProvider url) =
      { s with
        nextProvider := s.nextProvider + 1
        effects := s.effects ++ [.providerRemoved s.nextProvider] } := by
    unfold insertProvider
    simp only [constructProvider, newProvider, hq, destroyProvider, ask]
    congr 1
  rw [hinsert]
  exact ⟨⟨h.mem_iff, h.key, h.ids, fun p hp => Nat.lt_succ_of_lt (h.fresh p hp)⟩, rfl⟩

/-- A provider that is made and finds its key free goes into the map. -/
theorem Held.insert_free (h : Held s) {url : String} (hfree : s.providers url = none) :
    Held ((s.constructProvider url).insertProvider (s.newProvider url)) ∧
      ((s.constructProvider url).insertProvider (s.newProvider url)).providers =
        Function.update s.providers url (some (s.newProvider url)) := by
  have hinsert : (s.constructProvider url).insertProvider (s.newProvider url) =
      { s.constructProvider url with
        providers := Function.update s.providers url (some (s.newProvider url)) } := by
    unfold insertProvider
    simp only [constructProvider, newProvider, hfree]
  rw [hinsert]
  refine ⟨⟨?_, ?_, ?_, ?_⟩, rfl⟩
  · intro p
    show p ∈ s.registered ++ [s.newProvider url] ↔ _
    rw [List.mem_append, List.mem_singleton]
    by_cases hp : p.url = url
    · rw [hp]
      show _ ↔ Function.update s.providers url (some (s.newProvider url)) url = some p
      rw [Function.update_self, Option.some.injEq, h.mem_iff, hp, hfree]
      constructor
      · rintro (hnone | rfl)
        · contradiction
        · rfl
      · rintro rfl
        exact .inr rfl
    · show _ ↔ Function.update s.providers url (some (s.newProvider url)) p.url = some p
      rw [Function.update_of_ne hp, h.mem_iff]
      constructor
      · rintro (hmem | rfl)
        · exact hmem
        · exact absurd rfl hp
      · exact .inl
  · intro v p hp
    by_cases hv : v = url
    · subst hv
      have hnew : some (s.newProvider v) = some p := by
        simpa [Function.update_self] using hp
      cases hnew
      rfl
    · exact h.key v p (by simpa [Function.update_of_ne hv] using hp)
  · show ((s.registered ++ [s.newProvider url]).map (·.id)).Nodup
    rw [List.map_append, List.nodup_append]
    refine ⟨h.ids, by simp, ?_⟩
    rintro _ hid _ hnew rfl
    obtain ⟨p, hp, rfl⟩ := List.mem_map.mp hid
    rw [List.map_singleton, List.mem_singleton] at hnew
    exact h.ne_newProvider url hp hnew
  · intro p hp
    show p.id < s.nextProvider + 1
    rcases List.mem_append.mp hp with hp | hp
    · exact Nat.lt_succ_of_lt (h.fresh p hp)
    · rw [List.mem_singleton.mp hp]
      exact Nat.lt_succ_self _

/-- Either way the key is in the map afterwards, and the other keys are as they were. -/
theorem Held.insert (h : Held s) (url : String) :
    Held ((s.constructProvider url).insertProvider (s.newProvider url)) ∧
      ∀ v, (((s.constructProvider url).insertProvider (s.newProvider url)).providers v).isSome =
        (decide (v = url) || (s.providers v).isSome) := by
  cases hq : s.providers url with
  | none =>
    obtain ⟨hheld, hproviders⟩ := h.insert_free hq
    refine ⟨hheld, fun v => ?_⟩
    rw [hproviders]
    by_cases hv : v = url
    · simp [hv]
    · simp [hv]
  | some q =>
    obtain ⟨hheld, hproviders⟩ := h.insert_taken hq
    refine ⟨hheld, fun v => ?_⟩
    rw [hproviders]
    by_cases hv : v = url
    · simp [hv, hq]
    · simp [hv]

theorem Held.erase (h : Held s) (url : String) :
    Held (s.eraseProvider url) ∧
      ∀ v, ((s.eraseProvider url).providers v).isSome =
        (!decide (v = url) && (s.providers v).isSome) := by
  cases hq : s.providers url with
  | none =>
    have herase : s.eraseProvider url = s := by
      unfold eraseProvider
      rw [hq]
    rw [herase]
    refine ⟨h, fun v => ?_⟩
    by_cases hv : v = url
    · simp [hv, hq]
    · simp [hv]
  | some q =>
    have hurl : q.url = url := h.key url q hq
    have hmem : q ∈ s.registered := by
      rw [h.mem_iff, hurl]
      exact hq
    have herase : s.eraseProvider url =
        { s with
          providers := Function.update s.providers url none
          registered := s.registered.filter fun r => r.id ≠ q.id
          effects := s.effects ++ [.providerRemoved q.id] } := by
      unfold eraseProvider
      rw [hq]
      rfl
    rw [herase]
    refine ⟨⟨?_, ?_, ?_, ?_⟩, ?_⟩
    · intro p
      show p ∈ s.registered.filter (fun r => r.id ≠ q.id) ↔
        Function.update s.providers url none p.url = some p
      rw [List.mem_filter]
      by_cases hp : p.url = url
      · rw [hp, Function.update_self]
        constructor
        · rintro ⟨hpmem, hne⟩
          have hpq : some q = some p := by rw [← hq, ← hp]; exact (h.mem_iff p).mp hpmem
          cases hpq
          simp at hne
        · intro hnone
          contradiction
      · rw [Function.update_of_ne hp, ← h.mem_iff]
        constructor
        · exact fun hpmem => hpmem.1
        · intro hpmem
          refine ⟨hpmem, ?_⟩
          rw [decide_eq_true_eq]
          intro hid
          exact hp (by rw [h.id_inj hpmem hmem hid, hurl])
    · intro v p hp
      by_cases hv : v = url
      · simp [hv] at hp
      · exact h.key v p (by simpa [hv] using hp)
    · exact h.ids.sublist (List.filter_sublist.map _)
    · intro p hp
      exact h.fresh p (List.mem_filter.mp hp).1
    · intro v
      by_cases hv : v = url
      · simp [hv]
      · simp [hv]

theorem Held.ask (h : Held s) (effect : ServiceEffect) : Held (s.ask effect) :=
  ⟨h.mem_iff, h.key, h.ids, h.fresh⟩

theorem Held.start (h : Held s) (url : String) :
    Held (s.startProvider url) ∧
      ∀ v, ((s.startProvider url).providers v).isSome =
        (decide (v = url) || (s.providers v).isSome) :=
  (h.ask (.listAvailable s.nextProvider)).insert url

section Records

variable (s)

@[simp] theorem insertProvider_prefs (p : SubscriptionFiltersProvider) :
    (s.insertProvider p).prefs = s.prefs := by
  unfold insertProvider
  split <;> rfl

@[simp] theorem insertProvider_subscriptions (p : SubscriptionFiltersProvider) :
    (s.insertProvider p).subscriptions = s.subscriptions := by
  unfold insertProvider
  split <;> rfl

@[simp] theorem startProvider_prefs (url : String) : (s.startProvider url).prefs = s.prefs :=
  insertProvider_prefs _ _

@[simp] theorem startProvider_subscriptions (url : String) :
    (s.startProvider url).subscriptions = s.subscriptions :=
  insertProvider_subscriptions _ _

@[simp] theorem eraseProvider_prefs (url : String) : (s.eraseProvider url).prefs = s.prefs := by
  unfold eraseProvider
  split <;> rfl

theorem startDownload_eq (url : String) (fromUi : Bool) :
    ∃ effects, s.startDownload url fromUi = { s with effects := effects } := by
  unfold startDownload
  split
  · exact ⟨_, rfl⟩
  · exact ⟨s.effects, rfl⟩

theorem announceList_eq (url : String) :
    ∃ effects, s.announceList url = { s with effects := effects } := by
  unfold announceList
  split
  · exact ⟨s.effects, rfl⟩
  · exact ⟨_, rfl⟩

theorem updateEntries_eq (now : Time) (keys : List String) :
    ∃ effects, keys.foldl (updateEntry now) s = { s with effects := effects } := by
  induction keys generalizing s with
  | nil => exact ⟨s.effects, rfl⟩
  | cons key keys ih =>
    have hentry : ∃ effects, updateEntry now s key = { s with effects := effects } := by
      unfold updateEntry
      split
      · exact ⟨s.effects, rfl⟩
      · split
        · exact startDownload_eq s key false
        · exact ⟨s.effects, rfl⟩
    obtain ⟨effects, heffects⟩ := hentry
    rw [List.foldl_cons, heffects]
    exact ih { s with effects := effects }

theorem loadEntry_records (key : String) :
    (s.loadEntry key).prefs = s.prefs ∧ (s.loadEntry key).subscriptions = s.subscriptions := by
  unfold loadEntry
  split
  · exact ⟨rfl, rfl⟩
  · split
    · exact ⟨startProvider_prefs s key, startProvider_subscriptions s key⟩
    · exact ⟨rfl, rfl⟩

theorem loadEntries_records (keys : List String) :
    (keys.foldl loadEntry s).prefs = s.prefs ∧
      (keys.foldl loadEntry s).subscriptions = s.subscriptions := by
  induction keys generalizing s with
  | nil => exact ⟨rfl, rfl⟩
  | cons key keys ih =>
    obtain ⟨hprefs, hsubs⟩ := loadEntry_records s key
    obtain ⟨hprefs', hsubs'⟩ := ih (s.loadEntry key)
    exact ⟨hprefs'.trans hprefs, hsubs'.trans hsubs⟩

end Records

/-- One round of loading: the provider of the key is started if its record is enabled. -/
theorem Held.loadEntry (h : Held s) (key : String) :
    Held (s.loadEntry key) ∧
      ∀ v, ((s.loadEntry key).providers v).isSome =
        ((s.providers v).isSome || (decide (v = key) && (s.getInfo v).any (·.enabled))) := by
  by_cases hen : (s.getInfo key).any (·.enabled) = true
  · have hstart : s.loadEntry key = s.startProvider key := by
      obtain ⟨info, hinfo, hinfoEn⟩ := (Option.any_eq_true _ _).mp hen
      unfold SubscriptionServiceManager.loadEntry
      rw [hinfo]
      exact if_pos hinfoEn
    rw [hstart]
    obtain ⟨hheld, hkeys⟩ := h.start key
    refine ⟨hheld, fun v => ?_⟩
    rw [hkeys]
    by_cases hv : v = key
    · simp [hv, hen]
    · simp [hv]
  · have hsame : s.loadEntry key = s := by
      unfold SubscriptionServiceManager.loadEntry
      split
      · rfl
      · rename_i info hinfo
        rw [hinfo] at hen
        exact if_neg hen
    rw [hsame]
    refine ⟨h, fun v => ?_⟩
    by_cases hv : v = key
    · simp [hv, hen]
    · simp [hv]

/-- The loading of some keys starts a provider for each enabled one that has none. -/
theorem Held.loadEntries (h : Held s) (keys : List String) :
    Held (keys.foldl SubscriptionServiceManager.loadEntry s) ∧
      ∀ v, ((keys.foldl SubscriptionServiceManager.loadEntry s).providers v).isSome =
        ((s.providers v).isSome ||
          (decide (v ∈ keys) && (s.getInfo v).any (·.enabled))) := by
  induction keys generalizing s with
  | nil => exact ⟨h, fun v => by simp⟩
  | cons key keys ih =>
    obtain ⟨hheld, hkeys⟩ := h.loadEntry key
    obtain ⟨hheld', hkeys'⟩ := ih hheld
    refine ⟨hheld', fun v => ?_⟩
    have hinfo : (s.loadEntry key).getInfo v = s.getInfo v := by
      unfold getInfo
      rw [(loadEntry_records s key).2]
    rw [List.foldl_cons, hkeys', hkeys, hinfo]
    by_cases hv : v = key
    · subst hv
      cases (s.getInfo v).any (·.enabled) <;> simp
    · simp [hv]

end SubscriptionServiceManager

/-- What an entry point does to preferences. -/
inductive PrefsChange
  | keep
  | put (url : String) (info : SubscriptionInfo)
  | drop (url : String)

def PrefsChange.apply (prefs : DictValue) : PrefsChange → DictValue
  | .keep => prefs
  | .put url info => prefs.set url (.dict (subscriptionDict info))
  | .drop url => prefs.remove url

theorem PrefsChange.written {prefs : DictValue} (h : Written prefs) (change : PrefsChange) :
    Written (change.apply prefs) := by
  cases change with
  | keep => exact h
  | put url info => exact h.set url info
  | drop url => exact h.remove url

/-- A URL that is in preferences after a change was there before, or was put there. -/
theorem PrefsChange.find_of_apply {prefs : DictValue} {change : PrefsChange} {url : String}
    (h : ((change.apply prefs).find url).isSome = true) :
    (prefs.find url).isSome = true ∨ ∃ info, change = .put url info := by
  cases change with
  | keep => exact .inl h
  | put u info =>
    by_cases hu : url = u
    · exact .inr ⟨info, by rw [hu]⟩
    · rw [PrefsChange.apply, DictValue.find_set_ne _ _ hu] at h
      exact .inl h
  | drop u =>
    by_cases hu : url = u
    · simp [PrefsChange.apply, hu] at h
    · rw [PrefsChange.apply, DictValue.find_remove_ne _ hu] at h
      exact .inl h

namespace SubscriptionServiceManager

variable {s : SubscriptionServiceManager}

/-- The record of a URL, changed by `f`, goes back to preferences, if there is one. -/
def rewrite (s : SubscriptionServiceManager) (url : String)
    (f : SubscriptionInfo → SubscriptionInfo) : PrefsChange :=
  match s.getInfo url with
  | none => .keep
  | some info => .put url (f info)

def prefsChange (s : SubscriptionServiceManager) : ServiceEvent → PrefsChange
  | .createSubscription url =>
    if (s.providers url).isSome then .keep
    else .put url { subscriptionUrl := url, enabled := true }
  | .enableSubscription url enabled => s.rewrite url fun info => { info with enabled := enabled }
  | .deleteSubscription url => .drop url
  | .onListMetadata url metadata => s.rewrite url fun info => withMetadata info metadata
  | .onSubscriptionDownloaded url now =>
    s.rewrite url fun info =>
      { info with
        lastUpdateAttempt := now
        lastSuccessfulUpdateAttempt := now }
  | .onSubscriptionDownloadFailure url now =>
    s.rewrite url fun info => { info with lastUpdateAttempt := now }
  | _ => .keep

/-- The step to `t` changes preferences so, and the copy is made anew or left alone. -/
structure Does (s t : SubscriptionServiceManager) (change : PrefsChange) : Prop where
  prefs : t.prefs = change.apply s.prefs
  copy : t.subscriptions = t.prefs ∨ change = .keep ∧ t.subscriptions = s.subscriptions

theorem Does.refl (s : SubscriptionServiceManager) : Does s s .keep := ⟨rfl, .inr ⟨rfl, rfl⟩⟩

theorem Does.rewrite {t : SubscriptionServiceManager} {url : String}
    {f : SubscriptionInfo → SubscriptionInfo} (hnone : s.getInfo url = none → t = s)
    (hsome : ∀ info, s.getInfo url = some info → Does s t (.put url (f info))) :
    Does s t (s.rewrite url f) := by
  unfold SubscriptionServiceManager.rewrite
  cases hinfo : s.getInfo url with
  | none =>
    rw [hnone hinfo]
    exact .refl s
  | some info => exact hsome info hinfo

theorem createSubscription_taken {url : String} (h : (s.providers url).isSome = true) :
    s.createSubscription url = s :=
  if_pos h

/-- A subscription that is made anew, up to the download that is asked for. -/
theorem createSubscription_free {url : String} (h : (s.providers url).isSome ≠ true) :
    ∃ effects, s.createSubscription url =
      { ((s.updateSubscriptionPrefs url
          { subscriptionUrl := url
            enabled := true }).constructProvider url).insertProvider (s.newProvider url) with
        effects := effects } := by
  unfold createSubscription
  rw [if_neg h]
  exact startDownload_eq _ url true

theorem createSubscription_does (s : SubscriptionServiceManager) (url : String) :
    Does s (s.createSubscription url) (s.prefsChange (.createSubscription url)) := by
  simp only [prefsChange]
  by_cases htaken : (s.providers url).isSome = true
  · rw [if_pos htaken, createSubscription_taken htaken]
    exact .refl s
  · rw [if_neg htaken]
    obtain ⟨effects, heffects⟩ := createSubscription_free htaken
    rw [heffects]
    refine ⟨insertProvider_prefs _ _, .inl ?_⟩
    simp only [insertProvider_subscriptions, insertProvider_prefs]
    rfl

theorem enableSubscription_does (s : SubscriptionServiceManager) (url : String) (enabled : Bool) :
    Does s (s.enableSubscription url enabled)
      (s.prefsChange (.enableSubscription url enabled)) := by
  refine Does.rewrite (fun hinfo => ?_) fun info hinfo => ?_
  · simp only [enableSubscription, hinfo]
  · simp only [enableSubscription, hinfo]
    refine ⟨congrArg (fun prefs : DictValue => prefs.set url _) ?_, .inl rfl⟩
    cases enabled with
    | true => exact startProvider_prefs s url
    | false => exact eraseProvider_prefs s url

theorem step_does (s : SubscriptionServiceManager) (e : ServiceEvent) :
    Does s (s.step e) (s.prefsChange e) := by
  cases e with
  | onGetDownloadManager available =>
    obtain ⟨hprefs, hsubs⟩ := loadEntries_records
      { s with
        downloadsAvailable := available
        effects := s.effects ++ [.cancelAllPendingDownloads]
        subscriptions := s.prefs } (s.prefs.map Prod.fst)
    exact ⟨hprefs, .inl (hsubs.trans hprefs.symm)⟩
  | onDownloadServiceUnavailable => exact ⟨rfl, .inr ⟨rfl, rfl⟩⟩
  | createSubscription url => exact createSubscription_does s url
  | enableSubscription url enabled => exact enableSubscription_does s url enabled
  | deleteSubscription url =>
    exact ⟨congrArg (fun prefs : DictValue => prefs.remove url) (eraseProvider_prefs s url),
      .inl rfl⟩
  | refreshSubscription url fromUi =>
    obtain ⟨effects, heffects⟩ := startDownload_eq s url true
    simp only [step, refreshSubscription, heffects]
    exact ⟨rfl, .inr ⟨rfl, rfl⟩⟩
  | onUpdateTimer now =>
    obtain ⟨effects, heffects⟩ := updateEntries_eq
      { s with subscriptions := s.prefs } now (s.prefs.map Prod.fst)
    simp only [step, onUpdateTimer, heffects]
    exact ⟨rfl, .inl rfl⟩
  | onListMetadata url metadata =>
    refine Does.rewrite (fun hinfo => ?_) fun info hinfo => ?_
    · simp only [step, onListMetadata, hinfo]
    · simp only [step, onListMetadata, hinfo]
      exact ⟨rfl, .inl rfl⟩
  | onSubscriptionDownloaded url now =>
    refine Does.rewrite (fun hinfo => ?_) fun info hinfo => ?_
    · simp only [step, onSubscriptionDownloaded, hinfo]
    · simp only [step, onSubscriptionDownloaded, hinfo]
      obtain ⟨effects, heffects⟩ := announceList_eq
        (s.updateSubscriptionPrefs url
          { info with
            lastUpdateAttempt := now
            lastSuccessfulUpdateAttempt := now }) url
      rw [heffects]
      exact ⟨rfl, .inl rfl⟩
  | onSubscriptionDownloadFailure url now =>
    refine Does.rewrite (fun hinfo => ?_) fun info hinfo => ?_
    · simp only [step, onSubscriptionDownloadFailure, hinfo]
    · simp only [step, onSubscriptionDownloadFailure, hinfo]
      exact ⟨rfl, .inl rfl⟩

/-- What an entry point makes of whether a subscription is enabled, in preferences and in the map
alike. -/
def switched (e : ServiceEvent) (url : String) (enabled : Bool) : Bool :=
  match e with
  | .createSubscription u => decide (url = u) || enabled
  | .enableSubscription u true => decide (url = u) || enabled
  | .enableSubscription u false => !decide (url = u) && enabled
  | .deleteSubscription u => !decide (url = u) && enabled
  | _ => enabled

theorem switched_mono (e : ServiceEvent) (url : String) {a b : Bool} (h : a = true → b = true) :
    switched e url a = true → switched e url b = true := by
  revert h
  unfold switched
  split <;> cases a <;> cases b <;> simp

/-- Whether there is a record of a URL that meets a condition. -/
def recordMeets (prefs : DictValue) (url : String) (p : SubscriptionInfo → Bool) : Bool :=
  (prefsRecord prefs url).any p

/-- Whether the record of a URL is enabled. -/
def enabledRecord (prefs : DictValue) (url : String) : Bool := recordMeets prefs url (·.enabled)

/-- What holds from the start on: preferences are as written, the copy was not made yet or is exact,
the registered providers are those in the map, and only enabled subscriptions have one. -/
structure Sound (s : SubscriptionServiceManager) : Prop where
  written : Written s.prefs
  copied : s.subscriptions = [] ∨ s.subscriptions = s.prefs
  held : Held s
  enabled : ∀ url, (s.providers url).isSome = true → enabledRecord s.prefs url = true

theorem Sound.getInfo_eq (h : Sound s) {url : String} {info : SubscriptionInfo}
    (hinfo : s.getInfo url = some info) :
    s.subscriptions = s.prefs ∧ prefsRecord s.prefs url = some info := by
  rcases h.copied with hnil | hcopy
  · simp [getInfo, hnil, DictValue.findDict] at hinfo
  · refine ⟨hcopy, ?_⟩
    rw [← hinfo, getInfo, hcopy]
    rfl

section Records

variable {p : SubscriptionInfo → Bool} (hp : ∀ url info, p (stored url info) = p info)

include hp in
theorem recordMeets_put (prefs : DictValue) (url v : String) (info : SubscriptionInfo) :
    recordMeets ((PrefsChange.put url info).apply prefs) v p =
      if v = url then p info else recordMeets prefs v p := by
  unfold recordMeets PrefsChange.apply
  by_cases hv : v = url
  · subst hv
    rw [prefsRecord_set_self, if_pos rfl]
    exact hp v info
  · rw [prefsRecord_set_ne _ _ hv, if_neg hv]

theorem recordMeets_drop (prefs : DictValue) (url v : String) :
    recordMeets ((PrefsChange.drop url).apply prefs) v p =
      (!decide (v = url) && recordMeets prefs v p) := by
  unfold recordMeets PrefsChange.apply
  by_cases hv : v = url
  · subst hv
    simp [prefsRecord_remove_self]
  · simp [prefsRecord_remove_ne _ hv, hv]

include hp in
/-- A record that goes back as it came, as far as a condition looks, still meets it or does not. -/
theorem Sound.recordMeets_rewrite (h : Sound s) (url v : String)
    {f : SubscriptionInfo → SubscriptionInfo} (hf : ∀ info, p (f info) = p info) :
    recordMeets ((s.rewrite url f).apply s.prefs) v p = recordMeets s.prefs v p := by
  unfold SubscriptionServiceManager.rewrite
  cases hinfo : s.getInfo url with
  | none => rfl
  | some info =>
    simp only [recordMeets_put hp]
    split
    · rename_i hv
      rw [hf, hv, recordMeets, (h.getInfo_eq hinfo).2]
      rfl
    · rfl

end Records

theorem enabled_stored (url : String) (info : SubscriptionInfo) :
    (stored url info).enabled = info.enabled := rfl

theorem Sound.step_enabled (h : Sound s) {e : ServiceEvent} (hok : s.checked e) (v : String) :
    enabledRecord (s.step e).prefs v = switched e v (enabledRecord s.prefs v) := by
  rw [(step_does s e).prefs]
  unfold enabledRecord
  cases e with
  | createSubscription url =>
    simp only [prefsChange, switched]
    split
    · rename_i htaken
      by_cases hv : v = url
      · subst hv
        have hen : recordMeets s.prefs v (·.enabled) = true := h.enabled v htaken
        simp [PrefsChange.apply, hen]
      · simp [PrefsChange.apply, hv]
    · rw [recordMeets_put enabled_stored]
      by_cases hv : v = url <;> simp [hv]
  | enableSubscription url enabled =>
    obtain ⟨info, hinfo⟩ := Option.isSome_iff_exists.mp hok.1
    simp only [prefsChange, SubscriptionServiceManager.rewrite, hinfo,
      recordMeets_put enabled_stored]
    cases enabled <;> by_cases hv : v = url <;> simp [switched, hv]
  | deleteSubscription url => exact recordMeets_drop s.prefs url v
  | onListMetadata url metadata => exact h.recordMeets_rewrite enabled_stored url v fun _ => rfl
  | onSubscriptionDownloaded url now =>
    exact h.recordMeets_rewrite enabled_stored url v fun _ => rfl
  | onSubscriptionDownloadFailure url now =>
    exact h.recordMeets_rewrite enabled_stored url v fun _ => rfl
  | _ => rfl

/-- Managers with the same map, registered providers, and number of the next provider. -/
theorem Held.congr {t : SubscriptionServiceManager} (h : Held s)
    (hproviders : t.providers = s.providers) (hregistered : t.registered = s.registered)
    (hnext : t.nextProvider = s.nextProvider) : Held t := by
  refine ⟨fun p => ?_, ?_, ?_, ?_⟩
  · rw [hregistered, hproviders]
    exact h.mem_iff p
  · rw [hproviders]
    exact h.key
  · rw [hregistered]
    exact h.ids
  · rw [hregistered, hnext]
    exact h.fresh

theorem Held.step (h : Held s) {e : ServiceEvent} (hok : s.checked e)
    (hload : ∀ available, e ≠ .onGetDownloadManager available) :
    Held (s.step e) ∧
      ∀ v, ((s.step e).providers v).isSome = switched e v (s.providers v).isSome := by
  cases e with
  | onGetDownloadManager available => exact absurd rfl (hload available)
  | onDownloadServiceUnavailable => exact ⟨h.congr rfl rfl rfl, fun _ => rfl⟩
  | createSubscription url =>
    simp only [SubscriptionServiceManager.step, switched]
    by_cases htaken : (s.providers url).isSome = true
    · rw [createSubscription_taken htaken]
      refine ⟨h, fun v => ?_⟩
      by_cases hv : v = url
      · subst hv
        simp [htaken]
      · simp [hv]
    · obtain ⟨effects, heffects⟩ := createSubscription_free htaken
      have hput : Held (s.updateSubscriptionPrefs url
          { subscriptionUrl := url
            enabled := true }) := h.congr rfl rfl rfl
      rw [heffects]
      exact ⟨(hput.insert url).1.congr rfl rfl rfl, (hput.insert url).2⟩
  | enableSubscription url enabled =>
    obtain ⟨info, hinfo⟩ := Option.isSome_iff_exists.mp hok.1
    simp only [SubscriptionServiceManager.step, enableSubscription, hinfo]
    cases enabled with
    | true => exact ⟨(h.start url).1.congr rfl rfl rfl, (h.start url).2⟩
    | false => exact ⟨(h.erase url).1.congr rfl rfl rfl, (h.erase url).2⟩
  | deleteSubscription url => exact ⟨(h.erase url).1.congr rfl rfl rfl, (h.erase url).2⟩
  | refreshSubscription url fromUi =>
    obtain ⟨effects, heffects⟩ := startDownload_eq s url true
    simp only [SubscriptionServiceManager.step, refreshSubscription, heffects]
    exact ⟨h.congr rfl rfl rfl, fun _ => rfl⟩
  | onUpdateTimer now =>
    obtain ⟨effects, heffects⟩ := updateEntries_eq
      { s with subscriptions := s.prefs } now (s.prefs.map Prod.fst)
    simp only [SubscriptionServiceManager.step, onUpdateTimer, heffects]
    exact ⟨h.congr rfl rfl rfl, fun _ => rfl⟩
  | onListMetadata url metadata =>
    simp only [SubscriptionServiceManager.step, onListMetadata]
    split
    · exact ⟨h, fun _ => rfl⟩
    · exact ⟨h.congr rfl rfl rfl, fun _ => rfl⟩
  | onSubscriptionDownloaded url now =>
    simp only [SubscriptionServiceManager.step, onSubscriptionDownloaded]
    split
    · exact ⟨h, fun _ => rfl⟩
    · rename_i info hinfo
      obtain ⟨effects, heffects⟩ := announceList_eq
        (s.updateSubscriptionPrefs url
          { info with
            lastUpdateAttempt := now
            lastSuccessfulUpdateAttempt := now }) url
      rw [heffects]
      exact ⟨h.congr rfl rfl rfl, fun _ => rfl⟩
  | onSubscriptionDownloadFailure url now =>
    simp only [SubscriptionServiceManager.step, onSubscriptionDownloadFailure]
    split
    · exact ⟨h, fun _ => rfl⟩
    · exact ⟨h.congr rfl rfl rfl, fun _ => rfl⟩

theorem mem_keys_of_enabledRecord {prefs : DictValue} {url : String}
    (h : enabledRecord prefs url = true) : url ∈ prefs.map Prod.fst := by
  obtain ⟨info, hinfo, _⟩ := (Option.any_eq_true _ _).mp h
  exact (DictValue.find_isSome_iff prefs url).mp (find_isSome_of_prefsRecord hinfo)

theorem Held.load (h : Held s) (available : Bool) :
    Held (s.onGetDownloadManager available) ∧
      ∀ v, ((s.onGetDownloadManager available).providers v).isSome =
        ((s.providers v).isSome || enabledRecord s.prefs v) := by
  have hready : Held
      { s with
        downloadsAvailable := available
        effects := s.effects ++ [.cancelAllPendingDownloads]
        subscriptions := s.prefs } := h.congr rfl rfl rfl
  obtain ⟨hheld, hkeys⟩ := hready.loadEntries (s.prefs.map Prod.fst)
  refine ⟨hheld, fun v => ?_⟩
  have hrecord : (decide (v ∈ s.prefs.map Prod.fst) && enabledRecord s.prefs v) =
      enabledRecord s.prefs v := by
    cases hen : enabledRecord s.prefs v with
    | false => simp
    | true => simp [mem_keys_of_enabledRecord hen]
  rw [← hrecord]
  exact hkeys v

/-- What holds once the services were loaded: the copy is exact, and each enabled subscription has
its provider. -/
structure Loaded (s : SubscriptionServiceManager) : Prop where
  copy : s.subscriptions = s.prefs
  complete : ∀ url, enabledRecord s.prefs url = true → (s.providers url).isSome = true

theorem Sound.step (h : Sound s) {e : ServiceEvent} (hok : s.checked e) : Sound (s.step e) := by
  have hdoes := step_does s e
  have hwritten : Written (s.step e).prefs := by
    rw [hdoes.prefs]
    exact PrefsChange.written h.written _
  have hcopied : (s.step e).subscriptions = [] ∨ (s.step e).subscriptions = (s.step e).prefs := by
    rcases hdoes.copy with hcopy | ⟨hkeep, hsame⟩
    · exact .inr hcopy
    · rw [hsame, hdoes.prefs, hkeep]
      exact h.copied
  by_cases hload : ∃ available, e = .onGetDownloadManager available
  · obtain ⟨available, rfl⟩ := hload
    obtain ⟨hheld, hkeys⟩ := h.held.load available
    refine ⟨hwritten, hcopied, hheld, fun v hv => ?_⟩
    rw [h.step_enabled hok]
    rcases Bool.or_eq_true_iff.mp ((hkeys v).symm.trans hv) with hv | hv
    · exact h.enabled v hv
    · exact hv
  · obtain ⟨hheld, hkeys⟩ := h.held.step hok fun available he => hload ⟨available, he⟩
    refine ⟨hwritten, hcopied, hheld, fun v hv => ?_⟩
    rw [h.step_enabled hok]
    exact switched_mono e v (h.enabled v) ((hkeys v).symm.trans hv)

theorem Sound.load (h : Sound s) (available : Bool) :
    Loaded (s.step (.onGetDownloadManager available)) := by
  obtain ⟨hprefs, hsubs⟩ := loadEntries_records
    { s with
      downloadsAvailable := available
      effects := s.effects ++ [.cancelAllPendingDownloads]
      subscriptions := s.prefs } (s.prefs.map Prod.fst)
  refine ⟨hsubs.trans hprefs.symm, fun v hv => ?_⟩
  rw [h.step_enabled (e := .onGetDownloadManager available) trivial] at hv
  exact ((h.held.load available).2 v).trans (Bool.or_eq_true_iff.mpr (.inr hv))

theorem Loaded.step (hloaded : Loaded s) (h : Sound s) {e : ServiceEvent} (hok : s.checked e) :
    Loaded (s.step e) := by
  by_cases hload : ∃ available, e = .onGetDownloadManager available
  · obtain ⟨available, rfl⟩ := hload
    exact h.load available
  · have hdoes := step_does s e
    refine ⟨?_, fun v hv => ?_⟩
    · rcases hdoes.copy with hcopy | ⟨hkeep, hsame⟩
      · exact hcopy
      · rw [hsame, hdoes.prefs, hkeep]
        exact hloaded.copy
    · rw [h.step_enabled hok] at hv
      rw [(h.held.step hok fun available he => hload ⟨available, he⟩).2]
      exact switched_mono e v (hloaded.complete v) hv

theorem Sound.find_of_rewrite (h : Sound s) {u url : String} {info : SubscriptionInfo}
    {f : SubscriptionInfo → SubscriptionInfo} (hput : s.rewrite u f = .put url info) :
    (s.prefs.find url).isSome = true := by
  unfold SubscriptionServiceManager.rewrite at hput
  cases hinfo : s.getInfo u with
  | none => simp [hinfo] at hput
  | some before =>
    simp only [hinfo, PrefsChange.put.injEq] at hput
    rw [← hput.1]
    exact find_isSome_of_prefsRecord (h.getInfo_eq hinfo).2

/-- No step but the making of a subscription puts its URL into preferences. -/
theorem Sound.prefs_of_step (h : Sound s) {e : ServiceEvent} {url : String}
    (hin : ((s.step e).prefs.find url).isSome = true) :
    (s.prefs.find url).isSome = true ∨ e = .createSubscription url := by
  rw [(step_does s e).prefs] at hin
  rcases PrefsChange.find_of_apply hin with hold | ⟨info, hput⟩
  · exact .inl hold
  · cases e with
    | createSubscription u =>
      simp only [prefsChange] at hput
      split at hput
      · contradiction
      · cases hput
        exact .inr rfl
    | enableSubscription u enabled => exact .inl (h.find_of_rewrite hput)
    | onListMetadata u metadata => exact .inl (h.find_of_rewrite hput)
    | onSubscriptionDownloaded u now => exact .inl (h.find_of_rewrite hput)
    | onSubscriptionDownloadFailure u now => exact .inl (h.find_of_rewrite hput)
    | _ => contradiction

/-- The four copies of the state of a subscription agree. -/
structure Coherent (s : SubscriptionServiceManager) : Prop where
  keys : ∀ url, (s.providers url).isSome = true ↔ enabledPref s.prefs url = some true
  copy : s.subscriptions = s.prefs
  registered : ∀ p, p ∈ s.registered ↔ s.providers p.url = some p
  perKey : ∀ url p, s.providers url = some p → p.url = url
  distinct : (s.registered.map (·.id)).Nodup

theorem Sound.coherent (h : Sound s) (hloaded : Loaded s) : Coherent s := by
  refine ⟨fun url => ?_, hloaded.copy, h.held.mem_iff, h.held.key, h.held.ids⟩
  have hpref : enabledPref s.prefs url = some true ↔ enabledRecord s.prefs url = true := by
    rw [h.written.enabledPref_eq, enabledRecord, recordMeets]
    cases prefsRecord s.prefs url <;> simp
  rw [hpref]
  exact ⟨h.enabled url, hloaded.complete url⟩

theorem Sound.initial {prefs : DictValue} (h : Written prefs) : Sound { prefs := prefs } :=
  ⟨h, .inl rfl, ⟨by simp, by simp, by simp, by simp⟩, by simp⟩

/-- From preferences that the manager wrote, every run keeps the state sound, and once the services
were loaded, complete. -/
theorem run_sound {prefs : DictValue} (hprefs : Written prefs) {es : List ServiceEvent}
    (run : Run machine { prefs := prefs } es s) :
    Sound s ∧ ((∃ available, .onGetDownloadManager available ∈ es) → Loaded s) := by
  have hstart : Sound { prefs := prefs } ∧
      ((∃ available, ServiceEvent.onGetDownloadManager available ∈ []) →
        Loaded { prefs := prefs }) := ⟨.initial hprefs, by simp⟩
  have hrun := run.preserves_past
    (P := fun past s => Sound s ∧
      ((∃ available, .onGetDownloadManager available ∈ past) → Loaded s)) ?_ hstart
  · simpa using hrun
  · rintro past s e _ hok hstep ⟨hsound, hloaded⟩
    cases hstep
    refine ⟨hsound.step hok, ?_⟩
    rintro ⟨available, hmem⟩
    rcases List.mem_append.mp hmem with hpast | hlast
    · exact (hloaded ⟨available, hpast⟩).step hsound hok
    · obtain rfl := List.mem_singleton.mp hlast
      exact hsound.load available

/-- After the services were loaded, the state of the subscriptions is coherent whatever calls and
callbacks came before and since; and at no time does any of them but `CreateSubscription` put a URL
into preferences. -/
theorem subscriptions_coherent {prefs : DictValue} (hprefs : Written prefs) {es : List ServiceEvent}
    (run : Run machine { prefs := prefs } es s) :
    ((∃ available, .onGetDownloadManager available ∈ es) → Coherent s) ∧
      ∀ e, s.checked e → ∀ url, ((s.step e).prefs.find url).isSome = true →
        (s.prefs.find url).isSome = true ∨ e = .createSubscription url := by
  obtain ⟨hsound, hloaded⟩ := run_sound hprefs run
  exact ⟨fun hload => hsound.coherent (hloaded hload), fun _ _ _ hin => hsound.prefs_of_step hin⟩

/-- Preferences with one enabled subscription. -/
def onePref : DictValue :=
  DictValue.set [] "https://lists.example/b.txt" (.dict (subscriptionDict { enabled := true }))

theorem onePref_written : Written onePref :=
  have hnil : Written [] := by simp [Written]
  hnil.set _ _

/-- A list that was subscribed to before the load, disabled, and deleted stays deleted when a
download of it ends late; the list that was there at the start has the one provider. -/
theorem subscriptions_coherent_late :
    ∃ s, Run machine { prefs := onePref }
      [.createSubscription "https://lists.example/a.txt", .onGetDownloadManager true,
        .enableSubscription "https://lists.example/a.txt" false,
        .deleteSubscription "https://lists.example/a.txt",
        .onSubscriptionDownloaded "https://lists.example/a.txt" ⟨5, by decide, by decide⟩] s ∧
      (s.prefs.map Prod.fst = ["https://lists.example/b.txt"] ∧ s.registered.length = 1) ∧
      Coherent s := by
  obtain ⟨s, run, hs⟩ := Machine.exists_run machine { prefs := onePref }
    [.createSubscription "https://lists.example/a.txt", .onGetDownloadManager true,
      .enableSubscription "https://lists.example/a.txt" false,
      .deleteSubscription "https://lists.example/a.txt",
      .onSubscriptionDownloaded "https://lists.example/a.txt" ⟨5, by decide, by decide⟩]
    (fun s => decide (s.prefs.map Prod.fst = ["https://lists.example/b.txt"] ∧
      s.registered.length = 1)) (by decide +kernel)
  exact ⟨s, run, of_decide_eq_true hs,
    (subscriptions_coherent onePref_written run).1 ⟨true, by simp⟩⟩

end SubscriptionServiceManager

end ChromiumAdblock
