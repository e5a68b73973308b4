import ChromiumAdblock.Base.Utf8
import ChromiumAdblock.Shields.SubscriptionCoherence

/-! The records of subscriptions under the handlers that rewrite them.  A handler reads a record
back from the dictionary that it was kept in, changes some fields, and keeps it again; a record
whose number of hours is one that adblock-rust makes comes back as it was. -/

namespace ChromiumAdblock

open EventMachine

/-- `ExpiresInterval` of adblock-rust: up to two weeks. -/
inductive ExpiresInterval
  | hours (hours : UInt16) (lower : 1 ≤ hours) (upper : hours ≤ 336)
  | days (days : UInt8) (lower : 1 ≤ days) (upper : days ≤ 14)
deriving DecidableEq, Repr

/-- The metadata of a list as adblock-rust has it. -/
structure InnerFilterListMetadata where
  homepage : Option String := none
  title : Option String := none
  expires : Option ExpiresInterval := none
deriving DecidableEq, Repr

def ExpiresInterval.toHours (expires : ExpiresInterval) : UInt16 :=
  match expires with
  | .hours n _ _ => n
  | .days n _ _ => n.toUInt16 * 24

/-- `From<InnerFilterListMetadata> for FilterListMetadata`. -/
def FilterListMetadata.ofInner (metadata : InnerFilterListMetadata) : FilterListMetadata where
  homepage := metadata.homepage
  title := metadata.title
  expiresHours := metadata.expires.map ExpiresInterval.toHours

/-- `read_list_metadata`, with adblock-rust's own. -/
def readListMetadata (inner : String → InnerFilterListMetadata) (list : List UInt8) :
    FilterListMetadata :=
  ((toStr list).map fun text => .ofInner (inner text)).getD {}

theorem ExpiresInterval.toHours_le (expires : ExpiresInterval) :
    (expires.toHours.toNat : Int) ≤ kSubscriptionMaxExpiresHours := by
  cases expires with
  | hours hours lower upper =>
    have hupper : hours.toNat ≤ 336 := UInt16.le_iff_toNat_le.mp upper
    simp only [toHours, kSubscriptionMaxExpiresHours]
    omega
  | days days lower upper =>
    have hupper : days.toNat ≤ 14 := UInt8.le_iff_toNat_le.mp upper
    have hhours : (days.toUInt16 * 24).toNat = days.toNat * 24 := by
      rw [UInt16.toNat_mul, UInt8.toNat_toUInt16]
      exact Nat.mod_eq_of_lt (by show days.toNat * 24 < 2 ^ 16; omega)
    simp only [toHours, kSubscriptionMaxExpiresHours, hhours]
    omega

/-- A number of hours that is read back. -/
def Readable (expires : UInt16) : Prop := (expires.toNat : Int) ≤ kSubscriptionMaxExpiresHours

theorem readableExpires_of_readable {expires : UInt16} (h : Readable expires) :
    readableExpires expires = expires :=
  if_neg (not_lt.mpr h)

theorem readable_default : Readable kSubscriptionDefaultExpiresHours := by
  unfold Readable
  decide

/-- The hours that `OnListMetadata` takes from the metadata of a list. -/
theorem readListMetadata_readable (inner : String → InnerFilterListMetadata) (list : List UInt8) :
    Readable
      ((readListMetadata inner list).expiresHours.getD kSubscriptionDefaultExpiresHours) := by
  unfold readListMetadata
  cases toStr list with
  | none => exact readable_default
  | some text =>
    show Readable (((inner text).expires.map ExpiresInterval.toHours).getD _)
    cases (inner text).expires with
    | none => exact readable_default
    | some expires => exact expires.toHours_le

theorem stored_of_readable {url : String} {info : SubscriptionInfo}
    (hurl : info.subscriptionUrl = url) (hexpires : Readable info.expires) :
    stored url info = info := by
  rw [stored, readableExpires_of_readable hexpires, ← hurl]

theorem record_round_trip {info : SubscriptionInfo} (h : Readable info.expires) :
    buildInfoFromDict info.subscriptionUrl (subscriptionDict info) = info := by
  rw [buildInfoFromDict_subscriptionDict]
  exact stored_of_readable rfl h

theorem convert_preserves {σ : Type} {P : σ → Prop} {dict : DictValue}
    {fields : List (FieldConverter σ)}
    (hfields : ∀ field ∈ fields, ∀ value output output',
      field.convertField value output = some output' → P output → P output')
    {output : σ} (h : P output) : P (convert dict fields output) := by
  induction fields generalizing output with
  | nil => exact h
  | cons field fields ih =>
    have hrest := fun field hfield => hfields field (List.mem_cons_of_mem _ hfield)
    rw [convert]
    split
    · exact ih hrest h
    · split
      · rename_i value _ _ output' hconvert
        exact ih hrest (hfields field List.mem_cons_self value output output' hconvert h)
      · exact h

theorem parseExpiresWithFallback_readable {value : Option Value} {expires : UInt16}
    (h : parseExpiresWithFallback value = some expires) : Readable expires := by
  match value with
  | none => exact Option.some.inj h ▸ readable_default
  | some (.int i) =>
    rw [parseExpiresWithFallback] at h
    split at h
    · contradiction
    · rename_i hbounds
      obtain ⟨hlower, hupper⟩ := not_or.mp hbounds
      obtain rfl := Option.some.inj h
      simp only [kSubscriptionMaxExpiresHours] at hupper
      have hfits : i.toNat < 2 ^ 16 := by omega
      show ((UInt16.ofNat i.toNat).toNat : Int) ≤ kSubscriptionMaxExpiresHours
      rw [UInt16.toNat_ofNat', Nat.mod_eq_of_lt hfits, kSubscriptionMaxExpiresHours]
      omega

/-- Whatever a dictionary holds, the hours that are read from it can be read back. -/
theorem buildInfoFromDict_readable (url : String) (dict : DictValue) :
    Readable (buildInfoFromDict url dict).expires := by
  show Readable (convert dict subscriptionFields {}).expires
  refine convert_preserves (P := fun info : SubscriptionInfo => Readable info.expires) ?_
    readable_default
  intro field hfield value info info' hconvert h
  simp only [subscriptionFields, List.mem_cons, List.not_mem_nil, or_false] at hfield
  rcases hfield with rfl | rfl | rfl | rfl | rfl | rfl | rfl
  · exact Option.some.inj hconvert ▸ h
  -- The fields but the last leave the hours as they are.
  iterate 5
    obtain ⟨_, _, rfl⟩ := Option.map_eq_some_iff.mp hconvert
    exact h
  obtain ⟨expires, hparse, rfl⟩ := Option.map_eq_some_iff.mp hconvert
  exact parseExpiresWithFallback_readable hparse

/-! What the handlers assign. -/

/-- The URL of the record that a handler rewrites. -/
def ServiceEvent.target : ServiceEvent → Option String
  | .onListMetadata url _ | .onSubscriptionDownloaded url _ | .onSubscriptionDownloadFailure url _
  | .enableSubscription url _ => some url
  | _ => none

/-- A record with the fields that a handler assigns. -/
def ServiceEvent.assigned (e : ServiceEvent) (info : SubscriptionInfo) : SubscriptionInfo :=
  match e with
  | .onListMetadata _ metadata =>
    { info with
      title := info.title.or metadata.title
      homepage := metadata.homepage
      expires := metadata.expiresHours.getD kSubscriptionDefaultExpiresHours }
  | .onSubscriptionDownloaded _ now =>
    { info with
      lastUpdateAttempt := now
      lastSuccessfulUpdateAttempt := now }
  | .onSubscriptionDownloadFailure _ now => { info with lastUpdateAttempt := now }
  | .enableSubscription _ enabled => { info with enabled := enabled }
  | _ => info

/-- What a handler makes of the record of a URL. -/
def ServiceEvent.assign (url : String) (e : ServiceEvent) (info : SubscriptionInfo) :
    SubscriptionInfo :=
  if e.target = some url then e.assigned info else info

namespace SubscriptionServiceManager

/-- The handlers that rewrite records, with metadata that Rust read from some list. -/
def Rewrites (inner : String → InnerFilterListMetadata) : ServiceEvent → Prop
  | .onListMetadata _ metadata => ∃ list, metadata = readListMetadata inner list
  | .onSubscriptionDownloaded _ _ | .onSubscriptionDownloadFailure _ _
  | .enableSubscription _ _ => True
  | _ => False

/-- The copy in memory is that of preferences. -/
def Copied (s : SubscriptionServiceManager) : Prop := s.subscriptions = s.prefs

variable {s : SubscriptionServiceManager}

theorem getInfo_of_copied (h : Copied s) (url : String) :
    s.getInfo url = prefsRecord s.prefs url := by
  rw [getInfo, h]
  rfl

/-- The record of a URL is changed by `f`, and those of other URLs are not. -/
theorem rewrite_record (h : Copied s) {u : String} {f : SubscriptionInfo → SubscriptionInfo}
    (hf : ∀ info, Readable info.expires → Readable (f info).expires ∧
      (f info).subscriptionUrl = info.subscriptionUrl) (url : String) :
    prefsRecord ((s.rewrite u f).apply s.prefs) url =
      (s.getInfo url).map fun info => if u = url then f info else info := by
  rw [getInfo_of_copied h, rewrite, getInfo_of_copied h]
  by_cases hu : url = u
  · subst hu
    cases hrecord : prefsRecord s.prefs url with
    | none => exact hrecord
    | some info =>
      obtain ⟨dict, -, rfl⟩ := Option.map_eq_some_iff.mp hrecord
      obtain ⟨hexpires, hurl⟩ := hf _ (buildInfoFromDict_readable url dict)
      have hstored : stored url (f (buildInfoFromDict url dict)) = f (buildInfoFromDict url dict) :=
        stored_of_readable hurl hexpires
      rw [PrefsChange.apply, prefsRecord_set_self, hstored]
      simp
  · have hne : ¬u = url := fun e => hu e.symm
    cases hrecord : prefsRecord s.prefs u with
    | none => simp [PrefsChange.apply, hne]
    | some info => simp [PrefsChange.apply, hne, prefsRecord_set_ne _ _ hu]

theorem withMetadata_eq (u : String) (metadata : FilterListMetadata) (info : SubscriptionInfo) :
    withMetadata info metadata = (ServiceEvent.onListMetadata u metadata).assigned info := by
  have htitle : (if info.title.isNone && metadata.title.isSome then metadata.title
      else info.title) = info.title.or metadata.title := by
    cases info.title <;> cases metadata.title <;> rfl
  simp only [withMetadata, ServiceEvent.assigned, htitle]

/-- A handler rewrites the record of its URL with the fields that it assigns. -/
theorem prefsChange_eq {inner : String → InnerFilterListMetadata} {e : ServiceEvent}
    (he : Rewrites inner e) :
    ∃ u, e.target = some u ∧ s.prefsChange e = s.rewrite u e.assigned := by
  cases e with
  | onListMetadata u metadata =>
    refine ⟨u, rfl, ?_⟩
    simp only [prefsChange, withMetadata_eq u]
  | onSubscriptionDownloaded u now => exact ⟨u, rfl, rfl⟩
  | onSubscriptionDownloadFailure u now => exact ⟨u, rfl, rfl⟩
  | enableSubscription u enabled => exact ⟨u, rfl, rfl⟩
  | onGetDownloadManager | onDownloadServiceUnavailable | createSubscription | deleteSubscription
  | refreshSubscription | onUpdateTimer => exact he.elim

theorem assigned_readable {inner : String → InnerFilterListMetadata} {e : ServiceEvent}
    (he : Rewrites inner e) {info : SubscriptionInfo} (h : Readable info.expires) :
    Readable (e.assigned info).expires ∧
      (e.assigned info).subscriptionUrl = info.subscriptionUrl := by
  cases e with
  | onListMetadata u metadata =>
    obtain ⟨list, rfl⟩ := he
    exact ⟨readListMetadata_readable inner list, rfl⟩
  | onSubscriptionDownloaded | onSubscriptionDownloadFailure | enableSubscription => exact ⟨h, rfl⟩
  | onGetDownloadManager | onDownloadServiceUnavailable | createSubscription | deleteSubscription
  | refreshSubscription | onUpdateTimer => exact he.elim

/-- A handler assigns its fields in the record of its URL, and leaves all else. -/
theorem step_assigns {inner : String → InnerFilterListMetadata} {e : ServiceEvent}
    (he : Rewrites inner e) (h : Copied s) :
    Copied (s.step e) ∧ ∀ url, (s.step e).getInfo url = (s.getInfo url).map (e.assign url) := by
  obtain ⟨hprefs, hcopy⟩ := step_does s e
  have hcopied : Copied (s.step e) := by
    rcases hcopy with hcopy | ⟨hkeep, hsame⟩
    · exact hcopy
    · rw [Copied, hsame, hprefs, hkeep]
      exact h
  refine ⟨hcopied, fun url => ?_⟩
  obtain ⟨u, htarget, hchange⟩ := prefsChange_eq (s := s) he
  rw [getInfo_of_copied hcopied, hprefs, hchange,
    rewrite_record h (fun info hinfo => assigned_readable he hinfo)]
  refine congrArg (fun f => (s.getInfo url).map f) (funext fun info => ?_)
  simp only [ServiceEvent.assign, htarget, Option.some.injEq]

/-- The handlers on their own, with metadata that Rust read. -/
def rewriting (inner : String → InnerFilterListMetadata) :
    Machine SubscriptionServiceManager ServiceEvent Empty :=
  machine.restrict fun _ e => Rewrites inner e

/-- After any handlers, a record is the record before with what the handlers assigned, one after
the other. -/
theorem run_assigns {inner : String → InnerFilterListMetadata} {t : SubscriptionServiceManager}
    {es : List ServiceEvent} (run : Run (rewriting inner) s es t) (h : Copied s) :
    Copied t ∧ ∀ url, t.getInfo url =
      (s.getInfo url).map fun info => es.foldl (fun info e => e.assign url info) info := by
  induction run with
  | nil s => exact ⟨h, fun url => by simp⟩
  | cons enabled step rest ih =>
    obtain rfl := Except.ok.inj step
    obtain ⟨hcopied, hstep⟩ := step_assigns enabled.2 h
    obtain ⟨hlast, hrest⟩ := ih hcopied
    refine ⟨hlast, fun url => ?_⟩
    rw [hrest, hstep, Option.map_map]
    rfl

theorem title_foldl (url : String) (es : List ServiceEvent) {info : SubscriptionInfo}
    {title : String} (h : info.title = some title) :
    (es.foldl (fun info e => e.assign url info) info).title = some title := by
  induction es generalizing info with
  | nil => exact h
  | cons e es ih =>
    apply ih
    show (e.assign url info).title = some title
    unfold ServiceEvent.assign
    split
    · cases e <;> simp [ServiceEvent.assigned, h]
    · exact h

/-- Records survive the preferences: each comes back from its dictionary as it was, each handler
changes the fields that it assigns in the record of its URL and no others, and a title that is there
stays. -/
theorem records_survive (inner : String → InnerFilterListMetadata) :
    (∀ info : SubscriptionInfo, Readable info.expires →
      buildInfoFromDict info.subscriptionUrl (subscriptionDict info) = info) ∧
    (∀ list, Readable ((readListMetadata inner list).expiresHours.getD
      kSubscriptionDefaultExpiresHours)) ∧
    ∀ (s t : SubscriptionServiceManager) (es : List ServiceEvent), Copied s →
      Run (rewriting inner) s es t → ∀ url,
      t.getInfo url =
        ((s.getInfo url).map fun info => es.foldl (fun info e => e.assign url info) info) ∧
      ∀ title, (s.getInfo url).bind (·.title) = some title →
        (t.getInfo url).bind (·.title) = some title := by
  refine ⟨fun info => record_round_trip, readListMetadata_readable inner, ?_⟩
  intro s t es hcopied run url
  have hrecord := (run_assigns run hcopied).2 url
  refine ⟨hrecord, fun title htitle => ?_⟩
  rw [hrecord]
  obtain ⟨info, hinfo, htitle⟩ := Option.bind_eq_some_iff.mp htitle
  rw [hinfo]
  exact title_foldl url es htitle

/-- Lists whose texts are their titles, and which expire after three days. -/
def titledByText (text : String) : InnerFilterListMetadata where
  title := some text
  expires := some (.days 3 (by decide) (by decide))

theorem readListMetadata_titledByText (text : String) :
    readListMetadata titledByText (utf8 text) = ⟨none, some text, some 72⟩ := by
  rw [readListMetadata, toStr_utf8]
  rfl

def sixthMicrosecond : Time := ⟨6, by decide, by decide⟩
def ninthMicrosecond : Time := ⟨9, by decide, by decide⟩

/-- A list tells its title, is downloaded, tells another title, fails to be downloaded, and is
disabled. -/
def listHandled : List ServiceEvent :=
  [.onListMetadata "u" ⟨none, some "A", some 72⟩,
    .onSubscriptionDownloaded "u" sixthMicrosecond,
    .onListMetadata "u" ⟨none, some "B", some 72⟩,
    .onSubscriptionDownloadFailure "u" ninthMicrosecond, .enableSubscription "u" false]

theorem listHandled_run :
    ∃ t, Run (rewriting titledByText) (createSubscription { prefs := [] } "u") listHandled t := by
  have hread : ∀ text, Rewrites titledByText (.onListMetadata "u" ⟨none, some text, some 72⟩) :=
    fun text => ⟨utf8 text, (readListMetadata_titledByText text).symm⟩
  refine ⟨_, .cons ⟨trivial, hread "A"⟩ rfl (.cons ⟨trivial, trivial⟩ rfl
    (.cons ⟨trivial, hread "B"⟩ rfl (.cons ⟨trivial, trivial⟩ rfl
      (.cons ⟨⟨?_, ?_⟩, trivial⟩ rfl (.nil _)))))⟩ <;> decide +kernel

/-- The list keeps its first title, and both times. -/
theorem records_survive_titled : ∃ t : SubscriptionServiceManager,
    Run (rewriting titledByText) (createSubscription { prefs := [] } "u") listHandled t ∧
      t.getInfo "u" =
        some ⟨"u", ninthMicrosecond, sixthMicrosecond, false, none, some "A", 72⟩ := by
  obtain ⟨t, run⟩ := listHandled_run
  have hcopied : Copied (createSubscription { prefs := [] } "u") := rfl
  obtain ⟨hrecord, -⟩ := (records_survive titledByText).2.2 _ t _ hcopied run "u"
  refine ⟨t, run, hrecord.trans ?_⟩
  decide +kernel

end SubscriptionServiceManager

end ChromiumAdblock
