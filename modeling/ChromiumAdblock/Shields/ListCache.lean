import ChromiumAdblock.Shields.FilterLoads
import ChromiumAdblock.Shields.SubscriptionCoherence

/-! The cached lists of subscriptions: `AdBlockSubscriptionDownloadManager` between the download
service, its background task runner, and the service manager, and the thread pool that deletes the
directories of deleted subscriptions.  The path of a directory is a function of the URL. -/

namespace ChromiumAdblock

open EventMachine

/-- Tasks on the background task runner, with the URL and the body of their download. -/
inductive BackgroundTask
  | ensureDirExists (url : String) (body : DATFileDataBuffer)
  | replaceFile (url : String) (body : DATFileDataBuffer)
deriving DecidableEq, Repr

/-- Their replies on the UI thread.  The code hands no body to `ReplaceFileCallback`; it tells here
which download succeeded. -/
inductive UiReply
  | onDirCreated (url : String) (body : DATFileDataBuffer) (created : Bool)
  | replaceFileCallback (url : String) (body : DATFileDataBuffer) (success : Bool)
deriving DecidableEq, Repr

/-- The service manager with the downloads and tasks in flight, and the directories: each holds a
list file or none.  `started` are the downloads that the download service was asked for and has not
answered for, `pending` is `pending_download_guids_`, `deletes` are the URLs whose directories the
thread pool is to delete, and `lastBody` is the body of the last download of a URL that succeeded.
-/
structure ListCache (π : Type) where
  service : SubscriptionServiceManager
  started : List (Nat × String) := []
  pending : List (Nat × String) := []
  nextGuid : Nat := 0
  background : List BackgroundTask := []
  ui : List UiReply := []
  deletes : List String := []
  directories : π → Option (Option DATFileDataBuffer)
  lastBody : String → Option DATFileDataBuffer

inductive CacheEvent
  /-- A call of the service manager that does not come from the download manager. -/
  | call (e : ServiceEvent)
  | onDownloadStarted (guid : Nat) (accepted : Bool)
  | onDownloadFailed (guid : Nat) (now : Time)
  | onDownloadSucceeded (guid : Nat) (body : DATFileDataBuffer)
  /-- The next task of the background task runner, with what the file system says. -/
  | runBackground (ok : Bool)
  /-- A task of the thread pool. -/
  | runDelete (i : Nat)
  /-- The next reply on the UI thread. -/
  | runUi (now : Time)
deriving DecidableEq, Repr

namespace ListCache

variable {π : Type} [DecidableEq π] (path : String → π)

/-- The list file in a directory. -/
def listFile (s : ListCache π) (p : π) : Option DATFileDataBuffer := (s.directories p).join

/-- What the service manager asked for is under way. -/
def carryOut (s : ListCache π) : ServiceEffect → ListCache π
  | .startDownload url _ =>
    { s with
      started := s.started ++ [(s.nextGuid, url)]
      nextGuid := s.nextGuid + 1 }
  | .deletePathRecursively url => { s with deletes := s.deletes ++ [url] }
  | _ => s

/-- The service manager is called. -/
def perform (s : ListCache π) (e : ServiceEvent) : ListCache π :=
  let service := s.service.step e
  service.effects.foldl carryOut { s with service := { service with effects := [] } }

def onDownloadStarted (s : ListCache π) (guid : Nat) (accepted : Bool) : ListCache π :=
  match s.started.lookup guid with
  | none => s
  | some url =>
    { s with
      started := s.started.filter fun download => download.1 ≠ guid
      pending := if accepted then s.pending ++ [(guid, url)] else s.pending }

def onDownloadFailed (s : ListCache π) (guid : Nat) (now : Time) : ListCache π :=
  match s.pending.lookup guid with
  | none => s
  | some url =>
    { s with pending := s.pending.filter fun download => download.1 ≠ guid }.perform
      (.onSubscriptionDownloadFailure url now)

def onDownloadSucceeded (s : ListCache π) (guid : Nat) (body : DATFileDataBuffer) : ListCache π :=
  match s.pending.lookup guid with
  | none => s
  | some url =>
    { s with
      pending := s.pending.filter fun download => download.1 ≠ guid
      background := s.background ++ [.ensureDirExists url body] }

/-- `CreateDirectory`, which leaves a directory that is there alone. -/
def createDirectory (s : ListCache π) (p : π) : ListCache π :=
  { s with directories := Function.update s.directories p (some (s.listFile p)) }

/-- `ReplaceFile` of the list file in a directory, which has to be there. -/
def replaceFile (s : ListCache π) (p : π) (body : DATFileDataBuffer) : ListCache π :=
  { s with directories := Function.update s.directories p (some (some body)) }

def runBackground (s : ListCache π) (ok : Bool) : ListCache π :=
  match s.background with
  | [] => s
  | .ensureDirExists url body :: rest =>
    let s := { s with background := rest }
    let s := if ok then s.createDirectory (path url) else s
    { s with ui := s.ui ++ [.onDirCreated url body ok] }
  | .replaceFile url body :: rest =>
    let s := { s with background := rest }
    let replaced := ok && (s.directories (path url)).isSome
    let s := if replaced then s.replaceFile (path url) body else s
    { s with ui := s.ui ++ [.replaceFileCallback url body replaced] }

/-- `DeletePathRecursively`. -/
def runDelete (s : ListCache π) (i : Nat) : ListCache π :=
  match s.deletes[i]? with
  | none => s
  | some url =>
    { s with
      directories := Function.update s.directories (path url) none
      deletes := s.deletes.eraseIdx i }

def runUi (s : ListCache π) (now : Time) : ListCache π :=
  match s.ui with
  | [] => s
  | .onDirCreated url body created :: rest =>
    let s := { s with ui := rest }
    if created then { s with background := s.background ++ [.replaceFile url body] }
    else s.perform (.onSubscriptionDownloadFailure url now)
  | .replaceFileCallback url body success :: rest =>
    let s := { s with ui := rest }
    if success then
      { s with lastBody := Function.update s.lastBody url (some body) }.perform
        (.onSubscriptionDownloaded url now)
    else s.perform (.onSubscriptionDownloadFailure url now)

def step (s : ListCache π) : CacheEvent → ListCache π
  | .call e => s.perform e
  | .onDownloadStarted guid accepted => s.onDownloadStarted guid accepted
  | .onDownloadFailed guid now => s.onDownloadFailed guid now
  | .onDownloadSucceeded guid body => s.onDownloadSucceeded guid body
  | .runBackground ok => s.runBackground path ok
  | .runDelete i => s.runDelete path i
  | .runUi now => s.runUi now

/-- Whether an entry point is called by others than the download manager. -/
def called : ServiceEvent → Bool
  | .onSubscriptionDownloaded _ _ | .onSubscriptionDownloadFailure _ _ => false
  | _ => true

def enabled (s : ListCache π) : CacheEvent → Prop
  | .call e => s.service.checked e ∧ called e = true
  | .onDownloadStarted _ _ | .onDownloadFailed _ _ | .onDownloadSucceeded _ _ => True
  | .runBackground _ => s.background ≠ []
  | .runDelete i => i < s.deletes.length
  | .runUi _ => s.ui ≠ []

instance (s : ListCache π) : ∀ e, Decidable (s.enabled e)
  | .call e => inferInstanceAs (Decidable (s.service.checked e ∧ called e = true))
  | .onDownloadStarted _ _ | .onDownloadFailed _ _ | .onDownloadSucceeded _ _ =>
    inferInstanceAs (Decidable True)
  | .runBackground _ => inferInstanceAs (Decidable (¬s.background = []))
  | .runDelete i => inferInstanceAs (Decidable (i < s.deletes.length))
  | .runUi _ => inferInstanceAs (Decidable (¬s.ui = []))

def machine : Machine (ListCache π) CacheEvent Empty where
  enabled := enabled
  step s e := .ok (s.step path e)

instance (s : ListCache π) (e : CacheEvent) : Decidable ((machine path).enabled s e) :=
  inferInstanceAs (Decidable (s.enabled e))

/-- The cache as the manager finds it when it is made: `lastBody` is what the files hold. -/
def init (prefs : DictValue) (directories : π → Option (Option DATFileDataBuffer)) :
    ListCache π where
  service := { prefs := prefs }
  directories := directories
  lastBody url := (directories (path url)).join

/-- Nothing is in flight. -/
def Idle (s : ListCache π) : Prop :=
  s.started = [] ∧ s.pending = [] ∧ s.background = [] ∧ s.ui = [] ∧ s.deletes = []

instance (s : ListCache π) : Decidable s.Idle :=
  inferInstanceAs (Decidable (_ ∧ _ ∧ _ ∧ _ ∧ _))

/-- The last recorded attempt of a subscription was successful. -/
def lastSucceeded (info : SubscriptionInfo) : Bool :=
  info.lastUpdateAttempt == info.lastSuccessfulUpdateAttempt && !info.lastUpdateAttempt.isNull

/-- The cached lists agree with the subscriptions. -/
structure Agrees (s : ListCache π) : Prop where
  subscribed : ∀ p body, s.listFile p = some body →
    ∃ url, path url = p ∧ (s.service.prefs.find url).isSome = true
  cached : ∀ url info, prefsRecord s.service.prefs url = some info → lastSucceeded info = true →
    ∃ body, s.listFile (path url) = some body ∧ s.lastBody url = some body

end ListCache

end ChromiumAdblock
