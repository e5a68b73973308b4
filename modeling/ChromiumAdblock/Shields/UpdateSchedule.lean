import ChromiumAdblock.Shields.SubscriptionUpdates

/-! Which lists the update timer downloads.  A ledger has for each subscription only what its
updates depend on, and each call of the manager is one entry in it.  The dictionaries that the
manager keeps in preferences say what the ledger says, so each tick of the timer asks for the lists
that are due by the ledger: once each, in the order of their URLs. -/

namespace ChromiumAdblock

open EventMachine

/-- What the updates of a list depend on. -/
structure ListStanding where
  enabled : Bool := true
  lastAttempt : Time := .null
  lastSuccess : Time := .null
  expires : UInt16 := kSubscriptionDefaultExpiresHours
deriving DecidableEq, Repr

/-- A list is due when its last download failed, and when it has expired: one that was not tried has
the null time, which is long ago. -/
def ListStanding.due (now : Time) (standing : ListStanding) : Bool :=
  standing.enabled && (standing.lastAttempt != standing.lastSuccess ||
    decide (Time.hours standing.expires.toNat ≤ now.since standing.lastAttempt))

/-- The ledger after a call. -/
def ServiceEvent.record (ledger : String → Option ListStanding) :
    ServiceEvent → String → Option ListStanding
  | .createSubscription url =>
    if (ledger url).any (·.enabled) then ledger else Function.update ledger url (some {})
  | .deleteSubscription url => Function.update ledger url none
  | .enableSubscription url enabled =>
    Function.update ledger url ((ledger url).map fun standing =>
      { standing with enabled := enabled })
  | .onListMetadata url metadata =>
    Function.update ledger url ((ledger url).map fun standing =>
      { standing with
        expires := readableExpires
          (metadata.expiresHours.getD kSubscriptionDefaultExpiresHours) })
  | .onSubscriptionDownloaded url now =>
    Function.update ledger url ((ledger url).map fun standing =>
      { standing with
        lastAttempt := now
        lastSuccess := now })
  | .onSubscriptionDownloadFailure url now =>
    Function.update ledger url ((ledger url).map fun standing =>
      { standing with lastAttempt := now })
  | _ => ledger

def SubscriptionInfo.standing (info : SubscriptionInfo) : ListStanding where
  enabled := info.enabled
  lastAttempt := info.lastUpdateAttempt
  lastSuccess := info.lastSuccessfulUpdateAttempt
  expires := info.expires

/-- What preferences say of the lists. -/
def standings (prefs : DictValue) (url : String) : Option ListStanding :=
  (prefsRecord prefs url).map (·.standing)

theorem prefsRecord_readable {prefs : DictValue} {url : String} {info : SubscriptionInfo}
    (h : prefsRecord prefs url = some info) : Readable info.expires := by
  obtain ⟨dict, -, rfl⟩ := Option.map_eq_some_iff.mp h
  exact buildInfoFromDict_readable url dict

theorem standings_put (prefs : DictValue) (url : String) (info : SubscriptionInfo) :
    standings ((PrefsChange.put url info).apply prefs) =
      Function.update (standings prefs) url (some (stored url info).standing) := by
  funext v
  by_cases hv : v = url
  · subst hv
    simp [standings, PrefsChange.apply, prefsRecord_set_self]
  · simp [standings, PrefsChange.apply, prefsRecord_set_ne _ _ hv, hv]

theorem standings_drop (prefs : DictValue) (url : String) :
    standings ((PrefsChange.drop url).apply prefs) =
      Function.update (standings prefs) url none := by
  funext v
  by_cases hv : v = url
  · subst hv
    simp [standings, PrefsChange.apply, prefsRecord_remove_self]
  · simp [standings, PrefsChange.apply, prefsRecord_remove_ne _ hv, hv]

theorem updateDue_eq (now : Time) (info : SubscriptionInfo) :
    SubscriptionServiceManager.updateDue now info = info.standing.due now := by
  have hexpired : Time.saturate (Time.hours info.expires.toNat - now.since info.lastUpdateAttempt)
      ≤ 0 ↔ Time.hours info.expires.toNat ≤ now.since info.lastUpdateAttempt := by
    simp only [Time.saturate, int64Min, int64Max]
    omega
  exact congrArg (fun expired => info.enabled &&
    (info.lastUpdateAttempt != info.lastSuccessfulUpdateAttempt || expired))
    (decide_eq_decide.mpr hexpired)

theorem PrefsChange.sorted {prefs : DictValue} (h : prefs.Sorted) (change : PrefsChange) :
    (change.apply prefs).Sorted := by
  cases change with
  | keep => exact h
  | put url info => exact h.set url _
  | drop url => exact h.remove url

namespace SubscriptionServiceManager

variable {s : SubscriptionServiceManager}

/-- A record that is rewritten changes the standing of its list. -/
theorem standings_rewrite (hcopied : Copied s) {url : String}
    {f : SubscriptionInfo → SubscriptionInfo} {g : ListStanding → ListStanding}
    (hfg : ∀ info, Readable info.expires → (stored url (f info)).standing = g info.standing) :
    standings ((s.rewrite url f).apply s.prefs) =
      Function.update (standings s.prefs) url ((standings s.prefs url).map g) := by
  unfold SubscriptionServiceManager.rewrite
  rw [getInfo_of_copied hcopied]
  cases hrecord : prefsRecord s.prefs url with
  | none =>
    have hnone : standings s.prefs url = none := by simp [standings, hrecord]
    simp only [PrefsChange.apply, hnone, Option.map_none]
    exact (Function.update_eq_self_iff.mpr hnone.symm).symm
  | some info =>
    rw [standings_put, hfg info (prefsRecord_readable hrecord)]
    simp [standings, hrecord]

theorem stored_standing {url : String} {info : SubscriptionInfo} (h : Readable info.expires) :
    (stored url info).standing = info.standing := by
  simp [stored, SubscriptionInfo.standing, readableExpires_of_readable h]

/-- Each call of the manager is one entry in the ledger. -/
theorem Loaded.standings_step (hloaded : Loaded s) (h : Sound s) (e : ServiceEvent) :
    standings (s.step e).prefs = e.record (standings s.prefs) := by
  have hcopied : Copied s := hloaded.copy
  rw [(step_does s e).prefs]
  cases e with
  | createSubscription url =>
    have htaken : (s.providers url).isSome = (standings s.prefs url).any (·.enabled) := by
      have hrecord : enabledRecord s.prefs url = (standings s.prefs url).any (·.enabled) := by
        rw [standings, Option.any_map]
        rfl
      rw [← hrecord]
      exact Bool.eq_iff_iff.mpr ⟨h.enabled url, hloaded.complete url⟩
    simp only [prefsChange, ServiceEvent.record, htaken]
    split
    · rfl
    · rw [standings_put, stored_standing readable_default]
      rfl
  | deleteSubscription url => exact standings_drop s.prefs url
  | enableSubscription url enabled =>
    exact standings_rewrite hcopied fun info hinfo => stored_standing hinfo
  | onListMetadata url metadata => exact standings_rewrite hcopied fun info hinfo => rfl
  | onSubscriptionDownloaded url now =>
    exact standings_rewrite hcopied fun info hinfo => stored_standing hinfo
  | onSubscriptionDownloadFailure url now =>
    exact standings_rewrite hcopied fun info hinfo => stored_standing hinfo
  | onGetDownloadManager available => rfl
  | onDownloadServiceUnavailable => rfl
  | refreshSubscription url fromUi => rfl
  | onUpdateTimer now => rfl

/-- The lists that the timer downloads: the keys of preferences that are due. -/
def dueKeys (s : SubscriptionServiceManager) (now : Time) : List String :=
  (s.prefs.map Prod.fst).filter fun key => (standings s.prefs key).any (·.due now)

theorem updateEntry_effects (hcopied : Copied s) (now : Time) (key : String) :
    updateEntry now s key = { s with
      effects := s.effects ++
        if s.downloadsAvailable && (standings s.prefs key).any (·.due now) then
          [.startDownload key false]
        else [] } := by
  unfold updateEntry
  rw [getInfo_of_copied hcopied, standings, Option.any_map]
  cases hrecord : prefsRecord s.prefs key with
  | none => simp
  | some info =>
    simp only [updateDue_eq, startDownload, ask, Option.any_some]
    by_cases hdue : info.standing.due now = true
    · by_cases havailable : s.downloadsAvailable = true
      · simp [hdue, havailable]
      · rw [if_pos hdue, if_neg havailable, if_neg (by simp [havailable]), List.append_nil]
    · simp [hdue]

theorem updateEntries_effects (hcopied : Copied s) (now : Time) (keys : List String) :
    (keys.foldl (updateEntry now) s).effects = s.effects ++
      if s.downloadsAvailable then
        (keys.filter fun key => (standings s.prefs key).any (·.due now)).map fun key =>
          .startDownload key false
      else [] := by
  induction keys generalizing s with
  | nil => simp
  | cons key keys ih =>
    have hentry := updateEntry_effects hcopied now key
    have hcopied' : Copied (updateEntry now s key) := by
      rw [hentry]
      exact hcopied
    rw [List.foldl_cons, ih hcopied', hentry, List.filter_cons]
    cases havailable : s.downloadsAvailable <;>
      cases hdue : (standings s.prefs key).any (·.due now) <;> simp

/-- The timer asks for the lists that are due, in the order of their URLs. -/
theorem onUpdateTimer_effects (s : SubscriptionServiceManager) (now : Time) :
    (s.onUpdateTimer now).effects = s.effects ++
      if s.downloadsAvailable then (s.dueKeys now).map fun key => .startDownload key false
      else [] := by
  have hcopied : Copied { s with subscriptions := s.prefs } := rfl
  exact updateEntries_effects hcopied now (s.prefs.map Prod.fst)

theorem mem_dueKeys (now : Time) (url : String) :
    url ∈ s.dueKeys now ↔ (standings s.prefs url).any (·.due now) = true := by
  simp only [dueKeys, List.mem_filter]
  refine ⟨And.right, fun hdue => ⟨?_, hdue⟩⟩
  obtain ⟨standing, hstanding, -⟩ := (Option.any_eq_true _ _).mp hdue
  obtain ⟨info, hinfo, -⟩ := Option.map_eq_some_iff.mp hstanding
  exact (DictValue.find_isSome_iff s.prefs url).mp (find_isSome_of_prefsRecord hinfo)

theorem dueKeys_sorted (h : s.prefs.Sorted) (now : Time) :
    (s.dueKeys now).Pairwise (· < ·) :=
  (List.pairwise_map.mpr h).filter _

/-- What holds of a manager that was loaded: the ledger of the calls since says what preferences
say. -/
structure Kept (ledger : String → Option ListStanding) (s : SubscriptionServiceManager) : Prop where
  sound : Sound s
  loaded : Loaded s
  sorted : s.prefs.Sorted
  ledger : standings s.prefs = ledger

theorem Kept.step {ledger : String → Option ListStanding} (h : Kept ledger s) {e : ServiceEvent}
    (hok : s.checked e) : Kept (e.record ledger) (s.step e) where
  sound := h.sound.step hok
  loaded := h.loaded.step h.sound hok
  sorted := by
    rw [(step_does s e).prefs]
    exact PrefsChange.sorted h.sorted _
  ledger := by rw [h.loaded.standings_step h.sound e, h.ledger]

theorem kept_of_run {ledger : String → Option ListStanding} {t : SubscriptionServiceManager}
    {es : List ServiceEvent} (run : Run machine s es t) (h : Kept ledger s) :
    Kept (es.foldl ServiceEvent.record ledger) t := by
  induction run generalizing ledger with
  | nil => exact h
  | cons enabled step _ ih =>
    cases step
    exact ih (h.step enabled)

theorem sorted_of_run {prefs : DictValue} (hsorted : prefs.Sorted) {es : List ServiceEvent}
    (run : Run machine { prefs := prefs } es s) : s.prefs.Sorted := by
  refine run.preserves (P := fun s => s.prefs.Sorted) ?_ hsorted
  intro s e _ _ hstep h
  cases hstep
  rw [(step_does s e).prefs]
  exact PrefsChange.sorted h _

/-- Once the services were loaded, the calls and callbacks since, in whatever order, are entries of
a ledger, which says what preferences say of each list.  The update timer then asks for the lists
that are due by the ledger, each of them once and in the order of their URLs, if downloads are
available, and otherwise for none. -/
theorem updates_when_due {prefs : DictValue} (hwritten : Written prefs) (hsorted : prefs.Sorted)
    {before es : List ServiceEvent} {t : SubscriptionServiceManager}
    (first : Run machine { prefs := prefs } before t)
    (hload : ∃ available, .onGetDownloadManager available ∈ before) (run : Run machine t es s) :
    standings s.prefs = es.foldl ServiceEvent.record (standings t.prefs) ∧
    ∀ now, ∃ urls : List String,
      (s.step (.onUpdateTimer now)).effects = s.effects ++
        (if s.downloadsAvailable then urls.map fun url => .startDownload url false else []) ∧
      urls.Pairwise (· < ·) ∧
      ∀ url, url ∈ urls ↔ ∃ standing,
        es.foldl ServiceEvent.record (standings t.prefs) url = some standing ∧
          standing.due now = true := by
  obtain ⟨hsound, hloaded⟩ := run_sound hwritten first
  have hkept := kept_of_run run
    ⟨hsound, hloaded hload, sorted_of_run hsorted first, rfl⟩
  refine ⟨hkept.ledger, fun now => ⟨s.dueKeys now, onUpdateTimer_effects s now,
    dueKeys_sorted hkept.sorted now, fun url => ?_⟩⟩
  rw [mem_dueKeys, hkept.ledger, Option.any_eq_true]

/-- Two lists are subscribed to, of which one cannot be downloaded. -/
def twoLists (now : Time) : List ServiceEvent :=
  [.createSubscription "https://lists.example/b.txt",
    .createSubscription "https://lists.example/a.txt",
    .onSubscriptionDownloaded "https://lists.example/a.txt" now,
    .onSubscriptionDownloadFailure "https://lists.example/b.txt" now]

def firstHour : Time := ⟨3600000000, by decide, by decide⟩
def secondHour : Time := ⟨7200000000, by decide, by decide⟩
def weekLater : Time := ⟨608400000000, by decide, by decide⟩

/-- What the timer asks for next. -/
def askedAt (s : SubscriptionServiceManager) (now : Time) : List ServiceEffect :=
  (s.step (.onUpdateTimer now)).effects.drop s.effects.length

/-- An hour later only the list that failed is due, and after a week both are. -/
theorem updates_when_due_twoLists :
    ∃ s t : SubscriptionServiceManager,
      Run machine { prefs := [] } [.onGetDownloadManager true] t ∧
      Run machine t (twoLists firstHour) s ∧
      s.askedAt secondHour = [.startDownload "https://lists.example/b.txt" false] ∧
      s.askedAt weekLater = [.startDownload "https://lists.example/a.txt" false,
        .startDownload "https://lists.example/b.txt" false] ∧
      standings s.prefs = (twoLists firstHour).foldl ServiceEvent.record (standings t.prefs) := by
  obtain ⟨t, first, ht⟩ := Machine.exists_run machine { prefs := [] } [.onGetDownloadManager true]
    (fun t => (machine.replay t (twoLists firstHour)).any fun s : SubscriptionServiceManager =>
      s.askedAt secondHour == [.startDownload "https://lists.example/b.txt" false] &&
        s.askedAt weekLater == [.startDownload "https://lists.example/a.txt" false,
          .startDownload "https://lists.example/b.txt" false]) (by decide +kernel)
  obtain ⟨s, run, hs⟩ := Machine.exists_run machine t _ _ ht
  obtain ⟨hhour, hweek⟩ := Bool.and_eq_true_iff.mp hs
  have hnil : Written [] := by simp [Written]
  have hdue := updates_when_due hnil List.Pairwise.nil first ⟨true, by simp⟩ run
  exact ⟨s, t, first, run, eq_of_beq hhour, eq_of_beq hweek, hdue.1⟩

end SubscriptionServiceManager

end ChromiumAdblock
