import ChromiumAdblock.Shields.SubscriptionCoherence

/-! The pages that list the subscriptions.  `AdblockDOMHandler` is the part of a page that is in the
browser, and `brave_adblock.js` the script of its document.  What one of the two sends the other is
taken up later, in the order it was sent in.  A page is one load of the document: when it closes,
its handler may not call the script anymore, and what is under way between them is dropped.  `GURL`
is a parameter, which gives the specification of a URL that is valid. -/

namespace ChromiumAdblock

open EventMachine

/-- What `RefreshSubscriptionsList` says of a subscription. -/
structure ListedSubscription where
  subscriptionUrl : String
  enabled : Bool
  lastUpdateAttempt : Time
  lastSuccessfulUpdateAttempt : Time
  homepage : Option String
  title : Option String
deriving DecidableEq, Repr

def SubscriptionInfo.listed (info : SubscriptionInfo) : ListedSubscription where
  subscriptionUrl := info.subscriptionUrl
  enabled := info.enabled
  lastUpdateAttempt := info.lastUpdateAttempt
  lastSuccessfulUpdateAttempt := info.lastSuccessfulUpdateAttempt
  homepage := info.homepage
  title := info.title

/-- The values of the text areas in a row of the table. -/
structure SubscriptionRow where
  url : String
  attUpd : Time
  updated : Time
deriving DecidableEq, Repr

def ListedSubscription.row (subscription : ListedSubscription) : SubscriptionRow where
  url := subscription.subscriptionUrl
  attUpd := subscription.lastUpdateAttempt
  updated := subscription.lastSuccessfulUpdateAttempt

/-- A child of the body of the table: the white space of the markup, the row of the headings, or the
row of a subscription. -/
inductive TableNode
  | text
  | headings
  | row (values : SubscriptionRow)
deriving DecidableEq, Repr

namespace TableNode

def isElement : TableNode → Bool
  | .text => false
  | _ => true

def subscription? : TableNode → Option SubscriptionRow
  | .row values => some values
  | _ => none

def childElementCount (nodes : List TableNode) : Nat := nodes.countP isElement

/-- The loop that removes the last child while there is more than one element, with the number of
children that it can remove. -/
def clearRows : Nat → List TableNode → List TableNode
  | 0, nodes => nodes
  | n + 1, nodes => if 1 < childElementCount nodes then clearRows n nodes.dropLast else nodes

/-- `insertBefore` of what follows the last element; there is none when there is no element. -/
def insertAfterLastElement (node : TableNode) : List TableNode → Option (List TableNode)
  | [] => none
  | first :: rest =>
    match insertAfterLastElement node rest with
    | some rest => some (first :: rest)
    | none => if first.isElement then some (first :: node :: rest) else none

def onGetListSubscriptions (nodes : List TableNode) (listSubscriptions : List ListedSubscription) :
    Option (List TableNode) :=
  listSubscriptions.foldlM (fun nodes subscription =>
    insertAfterLastElement (.row subscription.row) nodes) (clearRows nodes.length nodes)

/-- The rows of subscriptions, from the first. -/
def shown (nodes : List TableNode) : List SubscriptionRow := nodes.filterMap subscription?

end TableNode

/-- What the script sends with `chrome.send`, and the browser has a handler for. -/
inductive PageMessage
  | getCustomFilters
  | getListSubscriptions
  | submitNewSubscription (url : Value)
  | setSubscriptionEnabled (url enabled : Value)
  | deleteSubscription (url : Value)
  | refreshSubscription (url : Value)
deriving DecidableEq

/-- A page: whether its script was run, and what is under way from it and to it. -/
structure AdblockPage where
  started : Bool := false
  closed : Bool := false
  javascriptAllowed : Bool := false
  messages : List PageMessage := []
  calls : List (List ListedSubscription) := []
  subscriptions : List TableNode := [.headings, .text]

def AdblockPage.live (page : AdblockPage) : Prop := page.started = true ∧ page.closed = false

instance (page : AdblockPage) : Decidable page.live := inferInstanceAs (Decidable (_ ∧ _))

def AdblockPage.send (page : AdblockPage) (message : PageMessage) : AdblockPage :=
  { page with messages := page.messages ++ [message] }

/-- `observers` are the pages that observe the service, and `loaded` is whether the download manager
was there, and the services were loaded. -/
structure AdblockPages where
  service : SubscriptionServiceManager
  loaded : Bool := false
  observers : List Nat := []
  pages : Nat → AdblockPage := fun _ => {}

/-- The checks that the code makes, and the element that the script looks for. -/
inductive PagesFault
  | alreadyObserving
  | javascriptDisallowed
  | noInfo
  | enabledAgain
  | noElement
deriving DecidableEq, Repr

/-- `GetSubscriptions`. -/
def SubscriptionServiceManager.getSubscriptions (gurl : String → Option String)
    (s : SubscriptionServiceManager) : Except PagesFault (List SubscriptionInfo) :=
  s.subscriptions.mapM fun subscription =>
    match (gurl subscription.1).bind s.getInfo with
    | some info => .ok info
    | none => .error .noInfo

/-- Whether an entry point of the service loads the subscriptions. -/
def ServiceEvent.loads : ServiceEvent → Bool
  | .onGetDownloadManager _ => true
  | _ => false

/-- Whether an entry point of the service is the update timer. -/
def ServiceEvent.ofTimer : ServiceEvent → Bool
  | .onUpdateTimer _ => true
  | _ => false

/-- The entry points of the service that are no calls of the pages. -/
def ServiceEvent.fromOthers : ServiceEvent → Bool
  | .createSubscription _ | .enableSubscription _ _ | .deleteSubscription _
  | .refreshSubscription _ _ => false
  | _ => true

namespace AdblockPages

variable (gurl : String → Option String)

def setPage (s : AdblockPages) (p : Nat) (page : AdblockPage) : AdblockPages :=
  { s with pages := Function.update s.pages p page }

/-- `AllowJavascript`, and `OnJavascriptAllowed` when it was not allowed. -/
def allowJavascript (s : AdblockPages) (p : Nat) : Except PagesFault AdblockPages :=
  if (s.pages p).javascriptAllowed then .ok s
  else if p ∈ s.observers then .error .alreadyObserving
  else .ok { s.setPage p { s.pages p with javascriptAllowed := true } with
    observers := s.observers ++ [p] }

/-- `CallJavascriptFunction` of `onGetListSubscriptions`. -/
def callPage (s : AdblockPages) (p : Nat) (subscriptions : List ListedSubscription) :
    AdblockPages :=
  s.setPage p { s.pages p with calls := (s.pages p).calls ++ [subscriptions] }

def refreshSubscriptionsList (s : AdblockPages) (p : Nat) : Except PagesFault AdblockPages := do
  if (s.pages p).javascriptAllowed = false then throw .javascriptDisallowed
  let infos ← s.service.getSubscriptions gurl
  return s.callPage p (infos.map (·.listed))

/-- The URL that a handler is given, if it is a string and valid. -/
def givenUrl (url : Value) : Option String := url.getIfString.bind gurl

/-- The call of the service that a message leads to. -/
def serviceCall : PageMessage → Option ServiceEvent
  | .submitNewSubscription url => (givenUrl gurl url).map .createSubscription
  | .setSubscriptionEnabled url enabled =>
    match givenUrl gurl url, enabled.getIfBool with
    | some url, some enabled => some (.enableSubscription url enabled)
    | _, _ => none
  | .deleteSubscription url => (givenUrl gurl url).map .deleteSubscription
  | .refreshSubscription url => (givenUrl gurl url).map fun url => .refreshSubscription url true
  | _ => none

/-- Whether the handler of a message, once it has called the service, refreshes the list. -/
def refreshes : PageMessage → Bool
  | .getCustomFilters | .refreshSubscription _ => false
  | .getListSubscriptions => true
  | message => (serviceCall gurl message).isSome

/-- The service is called; `EnableSubscription` checks what it is called with. -/
def callService (s : AdblockPages) : Option ServiceEvent → Except PagesFault AdblockPages
  | none => .ok s
  | some e =>
    if s.service.checked e then .ok { s with service := s.service.step e } else .error .enabledAgain

/-- The handlers of the messages. -/
def handle (s : AdblockPages) (p : Nat) (message : PageMessage) :
    Except PagesFault AdblockPages := do
  let s ← s.allowJavascript p
  let s ← s.callService (serviceCall gurl message)
  if refreshes gurl message then s.refreshSubscriptionsList gurl p else return s

/-- `OnServiceUpdateEvent` of a page. -/
def onServiceUpdateEvent (s : AdblockPages) (p : Nat) : Except PagesFault AdblockPages :=
  if (s.pages p).javascriptAllowed then s.refreshSubscriptionsList gurl p else .ok s

/-- Whether an entry point of the service notifies its observers. -/
def notifies (service : SubscriptionServiceManager) (e : ServiceEvent) : Bool :=
  ((service.step e).effects.drop service.effects.length).contains .serviceUpdateEvent

/-- An entry point of the service that others than the pages call. -/
def runService (s : AdblockPages) (e : ServiceEvent) : Except PagesFault AdblockPages :=
  let next := { s with
    service := s.service.step e
    loaded := s.loaded || e.loads }
  if notifies s.service e then next.observers.foldlM (onServiceUpdateEvent gurl) next else .ok next

/-- The page runs the call that was made first. -/
def runCall (s : AdblockPages) (p : Nat) : Except PagesFault AdblockPages :=
  match (s.pages p).calls with
  | [] => .ok s
  | listSubscriptions :: calls =>
    match TableNode.onGetListSubscriptions (s.pages p).subscriptions listSubscriptions with
    | none => .error .noElement
    | some subscriptions =>
      .ok (s.setPage p { s.pages p with
        calls := calls
        subscriptions := subscriptions })

/-- The page is closed, and `OnJavascriptDisallowed` is called if it was allowed. -/
def close (s : AdblockPages) (p : Nat) : AdblockPages :=
  { s.setPage p { s.pages p with
      closed := true
      javascriptAllowed := false
      messages := []
      calls := [] } with
    observers := s.observers.erase p }

end AdblockPages

/-- What happens to the pages and the service.  The user clicks on the buttons of a page, of which
those of a row send the URL that stands there. -/
inductive PagesEvent
  | start (p : Nat)
  | addSubscription (p : Nat) (newSubscription : String)
  | removeSubscription (p : Nat) (row : SubscriptionRow)
  | updateSubscription (p : Nat) (row : SubscriptionRow)
  | handle (p : Nat) (message : PageMessage)
  | runCall (p : Nat)
  | close (p : Nat)
  | service (e : ServiceEvent)

namespace AdblockPages

variable (gurl : String → Option String)

/-- What can happen.  Only the loading of the services starts the update timer. -/
def offered (s : AdblockPages) : PagesEvent → Prop
  | .start p => (s.pages p).started = false
  | .addSubscription p _ => (s.pages p).live
  | .removeSubscription p row | .updateSubscription p row =>
    (s.pages p).live ∧ row ∈ TableNode.shown (s.pages p).subscriptions
  | .handle p message => (s.pages p).live ∧ (s.pages p).messages.head? = some message
  | .runCall p => (s.pages p).live ∧ (s.pages p).calls ≠ []
  | .close p => (s.pages p).live
  | .service e => e.fromOthers = true ∧ (e.ofTimer = true → s.loaded = true)

instance (s : AdblockPages) : (e : PagesEvent) → Decidable (s.offered e)
  | .start p => inferInstanceAs (Decidable ((s.pages p).started = false))
  | .addSubscription p _ | .close p => inferInstanceAs (Decidable (s.pages p).live)
  | .removeSubscription p row | .updateSubscription p row =>
    inferInstanceAs (Decidable
      ((s.pages p).live ∧ row ∈ TableNode.shown (s.pages p).subscriptions))
  | .handle p message =>
    inferInstanceAs (Decidable
      ((s.pages p).live ∧ (s.pages p).messages.head? = some message))
  | .runCall p => inferInstanceAs (Decidable ((s.pages p).live ∧ (s.pages p).calls ≠ []))
  | .service e =>
    inferInstanceAs (Decidable (e.fromOthers = true ∧ (e.ofTimer = true → s.loaded = true)))

/-- The script of a page, run from its first line to its last, sends two messages. -/
def startPage (page : AdblockPage) : AdblockPage :=
  ({ page with started := true }.send .getCustomFilters).send .getListSubscriptions

def step (s : AdblockPages) : PagesEvent → Except PagesFault AdblockPages
  | .start p => .ok (s.setPage p (startPage (s.pages p)))
  | .addSubscription p newSubscription =>
    .ok (s.setPage p ((s.pages p).send (.submitNewSubscription (.string newSubscription))))
  | .removeSubscription p row =>
    .ok (s.setPage p ((s.pages p).send (.deleteSubscription (.string row.url))))
  | .updateSubscription p row =>
    .ok (s.setPage p ((s.pages p).send (.refreshSubscription (.string row.url))))
  | .handle p message =>
    (s.setPage p { s.pages p with messages := (s.pages p).messages.tail }).handle gurl p message
  | .runCall p => s.runCall p
  | .close p => .ok (s.close p)
  | .service e => s.runService gurl e

/-- The pages and the service, whatever happens in whatever order. -/
def machine : Machine AdblockPages PagesEvent PagesFault where
  enabled s e := s.offered e
  step s e := s.step gurl e

instance (s : AdblockPages) (e : PagesEvent) : Decidable ((machine gurl).enabled s e) :=
  inferInstanceAs (Decidable (s.offered e))

end AdblockPages

end ChromiumAdblock
