import Mathlib.Logic.Function.Basic
import ChromiumAdblock.Lib.Machine
import ChromiumAdblock.Shields.SubscriptionInfo

/-! `AdBlockSubscriptionServiceManager`: the subscriptions in preferences, the copy of them in
memory, and the providers of their lists, which `AdBlockFiltersProviderManager` knows from their
constructors and destructors.  A URL is known by its specification: the callers pass valid URLs
only.  What the manager asks of others is kept in the order it was asked in. -/

namespace ChromiumAdblock

open EventMachine

/-- `AdBlockSubscriptionFiltersProvider`. -/
structure SubscriptionFiltersProvider where
  id : Nat
  url : String
deriving DecidableEq, Repr

/-- What the manager asks of others. -/
inductive ServiceEffect
  | startDownload (url : String) (fromUi : Bool)
  | cancelAllPendingDownloads
  /-- `OnListAvailable` of a provider. -/
  | listAvailable (provider : Nat)
  /-- What `RemoveProvider` notifies of. -/
  | providerRemoved (provider : Nat)
  | deletePathRecursively (url : String)
  | serviceUpdateEvent
deriving DecidableEq, Repr

/-- `prefs` is `kAdBlockListSubscriptions`, `providers` is `subscription_filters_providers_`, and
`registered` are the subscription providers among `additional_engine_filters_providers_`. -/
structure SubscriptionServiceManager where
  prefs : DictValue
  subscriptions : DictValue := []
  providers : String → Option SubscriptionFiltersProvider := fun _ => none
  registered : List SubscriptionFiltersProvider := []
  nextProvider : Nat := 0
  downloadsAvailable : Bool := false
  effects : List ServiceEffect := []

namespace SubscriptionServiceManager

def ask (s : SubscriptionServiceManager) (effect : ServiceEffect) : SubscriptionServiceManager :=
  { s with effects := s.effects ++ [effect] }

/-- The provider that is made next for a URL. -/
def newProvider (s : SubscriptionServiceManager) (url : String) : SubscriptionFiltersProvider :=
  ⟨s.nextProvider, url⟩

/-- The constructor of a provider, which calls `AddProvider`. -/
def constructProvider (s : SubscriptionServiceManager) (url : String) :
    SubscriptionServiceManager :=
  { s with
    nextProvider := s.nextProvider + 1
    registered := s.registered ++ [s.newProvider url] }

/-- The destructor of a provider, which calls `RemoveProvider`. -/
def destroyProvider (s : SubscriptionServiceManager) (p : SubscriptionFiltersProvider) :
    SubscriptionServiceManager :=
  { s with registered := s.registered.filter fun q => q.id ≠ p.id }.ask (.providerRemoved p.id)

/-- `insert` of the map: a provider that finds its key taken is destroyed. -/
def insertProvider (s : SubscriptionServiceManager) (p : SubscriptionFiltersProvider) :
    SubscriptionServiceManager :=
  match s.providers p.url with
  | none => { s with providers := Function.update s.providers p.url (some p) }
  | some _ => s.destroyProvider p

/-- `erase` of the map. -/
def eraseProvider (s : SubscriptionServiceManager) (url : String) : SubscriptionServiceManager :=
  match s.providers url with
  | none => s
  | some p => { s with providers := Function.update s.providers url none }.destroyProvider p

/-- A provider is made, announces its list, and goes into the map. -/
def startProvider (s : SubscriptionServiceManager) (url : String) : SubscriptionServiceManager :=
  ((s.constructProvider url).ask (.listAvailable s.nextProvider)).insertProvider (s.newProvider url)

def getInfo (s : SubscriptionServiceManager) (url : String) : Option SubscriptionInfo :=
  (s.subscriptions.findDict url).map (buildInfoFromDict url)

def updateSubscriptionPrefs (s : SubscriptionServiceManager) (url : String)
    (info : SubscriptionInfo) : SubscriptionServiceManager :=
  let prefs := s.prefs.set url (.dict (subscriptionDict info))
  { s with
    prefs := prefs
    subscriptions := prefs }

def clearSubscriptionPrefs (s : SubscriptionServiceManager) (url : String) :
    SubscriptionServiceManager :=
  let prefs := s.prefs.remove url
  { s with
    prefs := prefs
    subscriptions := prefs }

def startDownload (s : SubscriptionServiceManager) (url : String) (fromUi : Bool) :
    SubscriptionServiceManager :=
  if s.downloadsAvailable then s.ask (.startDownload url fromUi) else s

def createSubscription (s : SubscriptionServiceManager) (url : String) :
    SubscriptionServiceManager :=
  if (s.providers url).isSome then s
  else
    let s := s.updateSubscriptionPrefs url
      { subscriptionUrl := url
        lastUpdateAttempt := .null
        lastSuccessfulUpdateAttempt := .null
        enabled := true }
    ((s.constructProvider url).insertProvider (s.newProvider url)).startDownload url true

/-- `EnableSubscription`; that there is a record is a `DCHECK`. -/
def enableSubscription (s : SubscriptionServiceManager) (url : String) (enabled : Bool) :
    SubscriptionServiceManager :=
  match s.getInfo url with
  | none => s
  | some info =>
    (if enabled then s.startProvider url else s.eraseProvider url).updateSubscriptionPrefs url
      { info with enabled := enabled }

def deleteSubscription (s : SubscriptionServiceManager) (url : String) :
    SubscriptionServiceManager :=
  ((s.eraseProvider url).clearSubscriptionPrefs url).ask (.deletePathRecursively url)

def refreshSubscription (s : SubscriptionServiceManager) (url : String) (_fromUi : Bool) :
    SubscriptionServiceManager :=
  s.startDownload url true

/-- Whether the update timer downloads a list. -/
def updateDue (now : Time) (info : SubscriptionInfo) : Bool :=
  let untilNextRefresh :=
    Time.saturate (Time.hours info.expires.toNat - now.since info.lastUpdateAttempt)
  info.enabled && (info.lastUpdateAttempt != info.lastSuccessfulUpdateAttempt ||
    decide (untilNextRefresh ≤ 0))

/-- One round of the loop of `OnUpdateTimer`. -/
def updateEntry (now : Time) (s : SubscriptionServiceManager) (key : String) :
    SubscriptionServiceManager :=
  match s.getInfo key with
  | none => s
  | some info => if updateDue now info then s.startDownload key false else s

def onUpdateTimer (s : SubscriptionServiceManager) (now : Time) : SubscriptionServiceManager :=
  (s.prefs.map Prod.fst).foldl (updateEntry now) { s with subscriptions := s.prefs }

/-- One round of the loop of `LoadSubscriptionServices`. -/
def loadEntry (s : SubscriptionServiceManager) (key : String) : SubscriptionServiceManager :=
  match s.getInfo key with
  | none => s
  | some info => if info.enabled then s.startProvider key else s

def loadSubscriptionServices (s : SubscriptionServiceManager) : SubscriptionServiceManager :=
  (s.prefs.map Prod.fst).foldl loadEntry { s with subscriptions := s.prefs }

/-- `OnGetDownloadManager`, with whether the download service can be used. -/
def onGetDownloadManager (s : SubscriptionServiceManager) (available : Bool) :
    SubscriptionServiceManager :=
  let s := { s with downloadsAvailable := available }.ask .cancelAllPendingDownloads
  s.loadSubscriptionServices

/-- The record that the metadata of a list makes of a record. -/
def withMetadata (info : SubscriptionInfo) (metadata : FilterListMetadata) : SubscriptionInfo :=
  { info with
    -- A title that is there stays.
    title := if info.title.isNone && metadata.title.isSome then metadata.title else info.title
    homepage := metadata.homepage
    expires := metadata.expiresHours.getD kSubscriptionDefaultExpiresHours }

def onListMetadata (s : SubscriptionServiceManager) (url : String) (metadata : FilterListMetadata) :
    SubscriptionServiceManager :=
  match s.getInfo url with
  | none => s
  | some info =>
    (s.updateSubscriptionPrefs url (withMetadata info metadata)).ask .serviceUpdateEvent

/-- `OnListAvailable` of the provider of a URL, if the map has one. -/
def announceList (s : SubscriptionServiceManager) (url : String) : SubscriptionServiceManager :=
  match s.providers url with
  | none => s
  | some p => s.ask (.listAvailable p.id)

def onSubscriptionDownloaded (s : SubscriptionServiceManager) (url : String) (now : Time) :
    SubscriptionServiceManager :=
  match s.getInfo url with
  | none => s
  | some info =>
    ((s.updateSubscriptionPrefs url
      { info with
        lastUpdateAttempt := now
        lastSuccessfulUpdateAttempt := now }).announceList url).ask .serviceUpdateEvent

def onSubscriptionDownloadFailure (s : SubscriptionServiceManager) (url : String) (now : Time) :
    SubscriptionServiceManager :=
  match s.getInfo url with
  | none => s
  | some info =>
    (s.updateSubscriptionPrefs url { info with lastUpdateAttempt := now }).ask .serviceUpdateEvent

end SubscriptionServiceManager

/-- The entry points of the manager, with the times that `base::Time::Now` gives. -/
inductive ServiceEvent
  | onGetDownloadManager (available : Bool)
  | onDownloadServiceUnavailable
  | createSubscription (url : String)
  | enableSubscription (url : String) (enabled : Bool)
  | deleteSubscription (url : String)
  | refreshSubscription (url : String) (fromUi : Bool)
  | onUpdateTimer (now : Time)
  | onListMetadata (url : String) (metadata : FilterListMetadata)
  | onSubscriptionDownloaded (url : String) (now : Time)
  | onSubscriptionDownloadFailure (url : String) (now : Time)
deriving DecidableEq, Repr

namespace SubscriptionServiceManager

def step (s : SubscriptionServiceManager) : ServiceEvent → SubscriptionServiceManager
  | .onGetDownloadManager available => s.onGetDownloadManager available
  | .onDownloadServiceUnavailable => { s with downloadsAvailable := false }
  | .createSubscription url => s.createSubscription url
  | .enableSubscription url enabled => s.enableSubscription url enabled
  | .deleteSubscription url => s.deleteSubscription url
  | .refreshSubscription url fromUi => s.refreshSubscription url fromUi
  | .onUpdateTimer now => s.onUpdateTimer now
  | .onListMetadata url metadata => s.onListMetadata url metadata
  | .onSubscriptionDownloaded url now => s.onSubscriptionDownloaded url now
  | .onSubscriptionDownloadFailure url now => s.onSubscriptionDownloadFailure url now

/-- The `DCHECK`s of an entry point: only `EnableSubscription` has some. -/
def checked (s : SubscriptionServiceManager) : ServiceEvent → Prop
  | .enableSubscription url enabled =>
    (s.getInfo url).isSome = true ∧ (s.providers url).isSome = !enabled
  | _ => True

instance (s : SubscriptionServiceManager) (e : ServiceEvent) : Decidable (s.checked e) := by
  cases e <;> unfold checked <;> infer_instance

/-- The manager under calls that meet the `DCHECK`s, in any order. -/
def machine : Machine SubscriptionServiceManager ServiceEvent Empty where
  enabled s e := s.checked e
  step s e := .ok (s.step e)

instance (s : SubscriptionServiceManager) (e : ServiceEvent) : Decidable (machine.enabled s e) :=
  inferInstanceAs (Decidable (s.checked e))

end SubscriptionServiceManager

end ChromiumAdblock
