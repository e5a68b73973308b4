import ChromiumAdblock.Lib.Pipeline
import ChromiumAdblock.Shields.SubscriptionPages
import ChromiumAdblock.Shields.UpdateSchedule

/-! What the pages show.  A page is told of the subscriptions when it asks for them, when it changes
them, and when the service notifies it.  From then on the newest list that it was sent is the list
of the records that the service has, until another page changes them: all other changes come with a
notification. -/

namespace ChromiumAdblock

open EventMachine

namespace TableNode

variable {nodes texts : List TableNode} {node : TableNode}

theorem childElementCount_eq_zero :
    childElementCount nodes = 0 ↔ ∀ node ∈ nodes, node.isElement = false := by
  simp [childElementCount, List.countP_eq_zero]

/-- The loop ends with the headings, and white space at most. -/
theorem clearRows_headings {n : Nat} (hn : nodes.length ≤ n) :
    ∃ texts, clearRows n (.headings :: nodes) = .headings :: texts ∧
      ∀ node ∈ texts, node.isElement = false := by
  induction n generalizing nodes with
  | zero =>
    obtain rfl := List.length_eq_zero_iff.mp (Nat.le_zero.mp hn)
    exact ⟨[], rfl, by simp⟩
  | succ n ih =>
    have hcount : childElementCount (.headings :: nodes) = childElementCount nodes + 1 :=
      List.countP_cons_of_pos rfl
    rw [clearRows, hcount]
    split
    · have hne : nodes ≠ [] := by
        rintro rfl
        simp [childElementCount] at *
      rw [List.dropLast_cons_of_ne_nil hne]
      apply ih
      rw [List.length_dropLast]
      omega
    · refine ⟨nodes, rfl, childElementCount_eq_zero.mp ?_⟩
      omega

theorem insertAfterLastElement_texts (htexts : ∀ node ∈ texts, node.isElement = false) :
    insertAfterLastElement node texts = none := by
  induction texts with
  | nil => rfl
  | cons first texts ih =>
    obtain ⟨hfirst, hrest⟩ := List.forall_mem_cons.mp htexts
    rw [insertAfterLastElement, ih hrest]
    simp [hfirst]

/-- A node goes behind the elements, and before the white space that follows them. -/
theorem insertAfterLastElement_append (htexts : ∀ node ∈ texts, node.isElement = false)
    (hnodes : ∀ node ∈ nodes, node.isElement = true) (hne : nodes ≠ []) :
    insertAfterLastElement node (nodes ++ texts) = some (nodes ++ node :: texts) := by
  induction nodes with
  | nil => contradiction
  | cons first nodes ih =>
    obtain ⟨hfirst, hrest⟩ := List.forall_mem_cons.mp hnodes
    rw [List.cons_append, insertAfterLastElement]
    cases nodes with
    | nil =>
      rw [List.nil_append, insertAfterLastElement_texts htexts]
      simp [hfirst]
    | cons second nodes =>
      rw [ih hrest (by simp)]
      rfl

/-- The body of a table with these rows. -/
def body (rows : List SubscriptionRow) (texts : List TableNode) : List TableNode :=
  (.headings :: rows.map .row) ++ texts

theorem shown_body {rows : List SubscriptionRow}
    (htexts : ∀ node ∈ texts, node.isElement = false) : shown (body rows texts) = rows := by
  have hnone : texts.filterMap subscription? = [] := by
    rw [List.filterMap_eq_nil_iff]
    intro node hnode
    have htext := htexts node hnode
    cases node with
    | row values => simp [isElement] at htext
    | _ => rfl
  have hrows : (rows.map TableNode.row).filterMap subscription? = rows := by
    rw [List.filterMap_map]
    exact List.filterMap_some
  rw [shown, body, List.filterMap_append, hnone, List.append_nil]
  exact hrows

theorem insert_body {rows : List SubscriptionRow}
    (htexts : ∀ node ∈ texts, node.isElement = false) (values : SubscriptionRow) :
    insertAfterLastElement (.row values) (body rows texts) =
      some (body (rows ++ [values]) texts) := by
  have helements : ∀ node ∈ TableNode.headings :: rows.map .row, node.isElement = true := by
    intro node hnode
    rcases List.mem_cons.mp hnode with rfl | hnode
    · rfl
    · obtain ⟨values, -, rfl⟩ := List.mem_map.mp hnode
      rfl
  rw [body, insertAfterLastElement_append htexts helements (by simp), body]
  simp

/-- The script shows the list that it is called with, whatever it showed before. -/
theorem onGetListSubscriptions_ok (nodes : List TableNode)
    (listSubscriptions : List ListedSubscription) :
    ∃ rest, onGetListSubscriptions (.headings :: nodes) listSubscriptions =
        some (.headings :: rest) ∧
      shown (.headings :: rest) = listSubscriptions.map (·.row) := by
  obtain ⟨texts, hclear, htexts⟩ :=
    clearRows_headings (n := (TableNode.headings :: nodes).length) (by simp : nodes.length ≤ _)
  have hfold : ∀ rows : List SubscriptionRow,
      listSubscriptions.foldlM (fun nodes subscription =>
        insertAfterLastElement (.row subscription.row) nodes) (body rows texts) =
          some (body (rows ++ listSubscriptions.map (·.row)) texts) := by
    clear hclear
    induction listSubscriptions with
    | nil => simp
    | cons subscription listSubscriptions ih =>
      intro rows
      rw [List.foldlM_cons, insert_body htexts]
      show listSubscriptions.foldlM _ (body (rows ++ [subscription.row]) texts) = _
      rw [ih]
      simp
  refine ⟨(listSubscriptions.map (·.row)).map TableNode.row ++ texts, ?_, ?_⟩
  · rw [onGetListSubscriptions, hclear]
    exact hfold []
  · exact shown_body htexts

end TableNode

/-- The rows for the records of some subscriptions, in the order of their dictionary. -/
def listedRows (subscriptions : DictValue) : List SubscriptionRow :=
  subscriptions.filterMap fun subscription =>
    (prefsRecord subscriptions subscription.1).map (·.listed.row)

/-- The rows of the newest list that a page was sent. -/
def AdblockPage.newest (page : AdblockPage) : List SubscriptionRow :=
  match page.calls.getLast? with
  | some listSubscriptions => listSubscriptions.map (·.row)
  | none => TableNode.shown page.subscriptions

/-- The messages that the script sends. -/
def PageMessage.fromScript : PageMessage → Bool
  | .setSubscriptionEnabled _ _ => false
  | _ => true

/-- The messages that change the records. -/
def PageMessage.writes : PageMessage → Bool
  | .submitNewSubscription _ | .setSubscriptionEnabled _ _ | .deleteSubscription _ => true
  | _ => false

/-- What holds of a page: it may be called only while it is there, its messages are those of the
script, and its table begins with the headings. -/
structure AdblockPage.Ok (page : AdblockPage) : Prop where
  live : page.javascriptAllowed = true → page.live
  messages : ∀ message ∈ page.messages, message.fromScript = true
  table : ∃ rest, page.subscriptions = .headings :: rest

/-- The page was sent no list, and was not closed. -/
structure AdblockPage.Unmoved (page page' : AdblockPage) : Prop where
  newest : page'.newest = page.newest
  allowed : page.javascriptAllowed = true → page'.javascriptAllowed = true

theorem AdblockPage.Unmoved.refl (page : AdblockPage) : page.Unmoved page := ⟨rfl, id⟩

theorem AdblockPage.Ok.send {page : AdblockPage} (h : page.Ok) {message : PageMessage}
    (hmessage : message.fromScript = true) : (page.send message).Ok where
  live := h.live
  messages m hm := by
    rcases List.mem_append.mp hm with hm | hm
    · exact h.messages m hm
    · rwa [List.mem_singleton.mp hm]
  table := h.table

namespace AdblockPages

variable {gurl : String → Option String} {service : SubscriptionServiceManager}

/-- What holds of the service: its URLs are valid, and their records are in order. -/
structure Listed (gurl : String → Option String) (service : SubscriptionServiceManager)
    (loaded : Bool) : Prop where
  sound : service.Sound
  sorted : service.prefs.Sorted
  keys : ∀ key, (service.prefs.find key).isSome = true → gurl key = some key
  loaded : loaded = true → service.Loaded

theorem Listed.step {loaded : Bool} (h : Listed gurl service loaded) {e : ServiceEvent}
    (hok : service.checked e)
    (hcreate : ∀ url, e = .createSubscription url → gurl url = some url) :
    Listed gurl (service.step e) (loaded || e.loads) where
  sound := h.sound.step hok
  sorted := by
    rw [(SubscriptionServiceManager.step_does service e).prefs]
    exact PrefsChange.sorted h.sorted _
  keys key hkey := by
    rcases h.sound.prefs_of_step hkey with hold | hnew
    · exact h.keys key hold
    · exact hcreate key hnew
  loaded hloaded := by
    rcases Bool.or_eq_true_iff.mp hloaded with hbefore | hnow
    · exact (h.loaded hbefore).step h.sound hok
    · cases e with
      | onGetDownloadManager available => exact h.sound.load available
      | _ => simp [ServiceEvent.loads] at hnow

/-- The list that the pages are sent has the records of all subscriptions. -/
theorem Listed.getSubscriptions {loaded : Bool} (h : Listed gurl service loaded) :
    ∃ infos, service.getSubscriptions gurl = .ok infos ∧
      (infos.map (·.listed)).map (·.row) = listedRows service.subscriptions := by
  have hrecord : ∀ subscription ∈ service.subscriptions, ∃ info,
      (gurl subscription.1).bind service.getInfo = some info ∧
        prefsRecord service.subscriptions subscription.1 = some info := by
    intro subscription hmem
    have hcopy : service.subscriptions = service.prefs := by
      rcases h.sound.copied with hnil | hcopy
      · simp [hnil] at hmem
      · exact hcopy
    have hfind : (service.prefs.find subscription.1).isSome = true := by
      rw [DictValue.find_isSome_iff, ← hcopy]
      exact List.mem_map_of_mem hmem
    obtain ⟨value, hvalue⟩ := Option.isSome_iff_exists.mp hfind
    obtain ⟨info, rfl⟩ := h.sound.written _ _ hvalue
    rw [h.keys _ hfind]
    refine ⟨buildInfoFromDict subscription.1 (subscriptionDict info), ?_, ?_⟩
    · simp [SubscriptionServiceManager.getInfo, DictValue.findDict, hcopy, hvalue, Value.getIfDict]
    · simp [prefsRecord, DictValue.findDict, hcopy, hvalue, Value.getIfDict]
  let value := fun subscription : String × Value =>
    (prefsRecord service.subscriptions subscription.1).getD {}
  refine ⟨service.subscriptions.map value, Pipeline.mapM_ok fun subscription hmem => ?_, ?_⟩
  · obtain ⟨info, hget, hprefs⟩ := hrecord subscription hmem
    simp [hget, value, hprefs]
  · rw [listedRows, List.map_map, List.map_map, ← List.filterMap_eq_map]
    refine List.filterMap_congr fun subscription hmem => ?_
    obtain ⟨info, -, hprefs⟩ := hrecord subscription hmem
    simp [value, hprefs]

/-- What holds from the start on. -/
structure Orderly (gurl : String → Option String) (s : AdblockPages) : Prop where
  listed : Listed gurl s.service s.loaded
  observers : ∀ p, p ∈ s.observers ↔ (s.pages p).javascriptAllowed = true
  nodup : s.observers.Nodup
  pages : ∀ p, (s.pages p).Ok

/-- The newest list that a page was sent has the records that the service has. -/
structure Current (p : Nat) (s : AdblockPages) : Prop where
  allowed : (s.pages p).javascriptAllowed = true
  newest : (s.pages p).newest = listedRows s.service.subscriptions

variable {s s' : AdblockPages} {p q : Nat} {page : AdblockPage}

theorem Current.unmoved (h : Current p s) (hpage : (s.pages p).Unmoved (s'.pages p))
    (hservice : s'.service.subscriptions = s.service.subscriptions) : Current p s' where
  allowed := hpage.allowed h.allowed
  newest := by rw [hpage.newest, h.newest, hservice]

@[simp] theorem setPage_self : (s.setPage p page).pages p = page := Function.update_self ..

@[simp] theorem setPage_service : (s.setPage p page).service = s.service := rfl

theorem setPage_ne (h : q ≠ p) : (s.setPage p page).pages q = s.pages q :=
  Function.update_of_ne h ..

theorem unmoved_setPage (h : (s.pages p).Unmoved page) (q : Nat) :
    (s.pages q).Unmoved ((s.setPage p page).pages q) := by
  by_cases hq : q = p
  · rw [hq, setPage_self]
    exact h
  · rw [setPage_ne hq]
    exact .refl _

theorem Current.setPage (h : Current q s) (hpage : (s.pages p).Unmoved page) :
    Current q (s.setPage p page) :=
  h.unmoved (unmoved_setPage hpage q) rfl

theorem pages_setPage (h : ∀ q, (s.pages q).Ok) (hpage : page.Ok) (q : Nat) :
    ((s.setPage p page).pages q).Ok := by
  by_cases hq : q = p
  · rw [hq, setPage_self]
    exact hpage
  · rw [setPage_ne hq]
    exact h q

/-- A page changes, but for whether it may be called. -/
theorem Orderly.setPage (h : Orderly gurl s) (hpage : page.Ok)
    (hallowed : page.javascriptAllowed = (s.pages p).javascriptAllowed) :
    Orderly gurl (s.setPage p page) where
  listed := h.listed
  observers q := by
    show q ∈ s.observers ↔ _
    rw [h.observers]
    by_cases hq : q = p
    · rw [hq, setPage_self, hallowed]
    · rw [setPage_ne hq]
  nodup := h.nodup
  pages := pages_setPage h.pages hpage

theorem Orderly.allowJavascript (h : Orderly gurl s) (hlive : (s.pages p).live) :
    ∃ s', s.allowJavascript p = .ok s' ∧ Orderly gurl s' ∧ s'.service = s.service ∧
      (s'.pages p).javascriptAllowed = true ∧ ∀ q, (s.pages q).Unmoved (s'.pages q) := by
  unfold AdblockPages.allowJavascript
  by_cases hallowed : (s.pages p).javascriptAllowed = true
  · rw [if_pos hallowed]
    exact ⟨s, rfl, h, rfl, hallowed, fun q => .refl _⟩
  · have hnot : p ∉ s.observers := fun hmem => hallowed ((h.observers p).mp hmem)
    rw [if_neg hallowed, if_neg hnot]
    refine ⟨_, rfl, ⟨h.listed, fun q => ?_, ?_, ?_⟩, rfl, ?_, ?_⟩
    · show q ∈ s.observers ++ [p] ↔ _
      rw [List.mem_append, List.mem_singleton, h.observers]
      by_cases hq : q = p
      · simp [hq]
      · simp [hq, setPage_ne hq]
    · show (s.observers ++ [p]).Nodup
      exact List.nodup_append_comm.mp (List.nodup_cons.mpr ⟨hnot, h.nodup⟩)
    · have hpage := h.pages p
      exact pages_setPage h.pages ⟨fun _ => hlive, hpage.messages, hpage.table⟩
    · simp
    · exact unmoved_setPage ⟨rfl, fun _ => rfl⟩

/-- Some pages are sent the list of all records, and nothing else happens. -/
structure Sent (gurl : String → Option String) (ps : List Nat) (s s' : AdblockPages) : Prop where
  orderly : Orderly gurl s'
  service : s'.service = s.service
  told : ∀ p ∈ ps, Current p s'
  others : ∀ p, p ∉ ps → (s.pages p).Unmoved (s'.pages p)

theorem Orderly.refreshSubscriptionsList (h : Orderly gurl s)
    (hallowed : (s.pages p).javascriptAllowed = true) :
    ∃ s', s.refreshSubscriptionsList gurl p = .ok s' ∧ Sent gurl [p] s s' := by
  obtain ⟨infos, hinfos, hrows⟩ := h.listed.getSubscriptions
  refine ⟨s.callPage p (infos.map (·.listed)), ?_, ?_, rfl, ?_, ?_⟩
  · simp [AdblockPages.refreshSubscriptionsList, hallowed, hinfos, bind, Except.bind, pure,
      Except.pure]
  · have hpage := h.pages p
    exact h.setPage ⟨hpage.live, hpage.messages, hpage.table⟩ rfl
  · intro q hq
    rw [List.mem_singleton.mp hq]
    refine ⟨by simpa [callPage] using hallowed, ?_⟩
    simpa [callPage, AdblockPage.newest] using hrows
  · intro q hq
    rw [callPage, setPage_ne fun hqp => hq (List.mem_singleton.mpr hqp)]
    exact .refl _

/-- The loop that notifies the observers. -/
theorem Orderly.notify {ps : List Nat} (h : Orderly gurl s)
    (hallowed : ∀ p ∈ ps, (s.pages p).javascriptAllowed = true) :
    ∃ s', ps.foldlM (onServiceUpdateEvent gurl) s = .ok s' ∧ Sent gurl ps s s' := by
  induction ps generalizing s with
  | nil => exact ⟨s, rfl, h, rfl, by simp, fun p _ => .refl _⟩
  | cons p ps ih =>
    obtain ⟨hp, hps⟩ := List.forall_mem_cons.mp hallowed
    obtain ⟨t, ht, hsent⟩ := h.refreshSubscriptionsList hp
    have htold : Current p t := hsent.told p (List.mem_singleton.mpr rfl)
    have hallowed' : ∀ q ∈ ps, (t.pages q).javascriptAllowed = true := by
      intro q hq
      by_cases hqp : q = p
      · rw [hqp]
        exact htold.allowed
      · exact (hsent.others q (by simpa using hqp)).allowed (hps q hq)
    obtain ⟨s', hs', hrest⟩ := ih hsent.orderly hallowed'
    refine ⟨s', ?_, hrest.orderly, hrest.service.trans hsent.service, ?_, ?_⟩
    · rw [List.foldlM_cons, onServiceUpdateEvent, if_pos hp, ht]
      exact hs'
    · intro q hq
      by_cases hmem : q ∈ ps
      · exact hrest.told q hmem
      · obtain rfl : q = p := (List.mem_cons.mp hq).resolve_right hmem
        exact htold.unmoved (hrest.others q hmem) (by rw [hrest.service])
    · intro q hq
      obtain ⟨hqp, hmem⟩ := not_or.mp fun hor => hq (List.mem_cons.mpr hor)
      have hfirst := hsent.others q (by simpa using hqp)
      have hsecond := hrest.others q hmem
      exact ⟨hsecond.newest.trans hfirst.newest,
        fun hallowed => hsecond.allowed (hfirst.allowed hallowed)⟩

theorem givenUrl_valid {url : String} {value : Value} (h : givenUrl gurl value = some url) :
    ∃ text, gurl text = some url := by
  obtain ⟨text, -, htext⟩ := Option.bind_eq_some_iff.mp h
  exact ⟨text, htext⟩

/-- The calls of the service that the messages of the script lead to. -/
theorem serviceCall_cases {message : PageMessage} (hscript : message.fromScript = true)
    {e : ServiceEvent} (hcall : serviceCall gurl message = some e) :
    ∃ text url, gurl text = some url ∧
      (message.writes = true ∧ refreshes gurl message = true ∧
          (e = .createSubscription url ∨ e = .deleteSubscription url) ∨
        e = .refreshSubscription url true) := by
  cases message with
  | submitNewSubscription value =>
    obtain ⟨url, hurl, rfl⟩ := Option.map_eq_some_iff.mp hcall
    obtain ⟨text, htext⟩ := givenUrl_valid hurl
    exact ⟨text, url, htext, .inl ⟨rfl, by simp [refreshes, hcall], .inl rfl⟩⟩
  | deleteSubscription value =>
    obtain ⟨url, hurl, rfl⟩ := Option.map_eq_some_iff.mp hcall
    obtain ⟨text, htext⟩ := givenUrl_valid hurl
    exact ⟨text, url, htext, .inl ⟨rfl, by simp [refreshes, hcall], .inr rfl⟩⟩
  | refreshSubscription value =>
    obtain ⟨url, hurl, rfl⟩ := Option.map_eq_some_iff.mp hcall
    obtain ⟨text, htext⟩ := givenUrl_valid hurl
    exact ⟨text, url, htext, .inr rfl⟩
  | setSubscriptionEnabled value enabled => simp [PageMessage.fromScript] at hscript
  | getCustomFilters => simp [serviceCall] at hcall
  | getListSubscriptions => simp [serviceCall] at hcall

theorem refreshSubscription_subscriptions (url : String) :
    (service.step (.refreshSubscription url true)).subscriptions = service.subscriptions := by
  obtain ⟨effects, heffects⟩ := SubscriptionServiceManager.startDownload_eq service url true
  simp only [SubscriptionServiceManager.step, SubscriptionServiceManager.refreshSubscription,
    heffects]

/-- No message of the script runs into a check of the service, and one that does not write, or is
not answered with the list, leaves the records. -/
theorem Orderly.callService (hgurl : ∀ text url, gurl text = some url → gurl url = some url)
    (h : Orderly gurl s) {message : PageMessage} (hscript : message.fromScript = true) :
    ∃ s', s.callService (serviceCall gurl message) = .ok s' ∧ Orderly gurl s' ∧
      s'.pages = s.pages ∧ (message.writes = false ∨ refreshes gurl message = false →
        s'.service.subscriptions = s.service.subscriptions) := by
  cases hcall : serviceCall gurl message with
  | none => exact ⟨s, rfl, h, rfl, fun _ => rfl⟩
  | some e =>
    obtain ⟨text, url, htext, hcases⟩ := serviceCall_cases hscript hcall
    have hvalid : gurl url = some url := hgurl text url htext
    have hstep : s.service.checked e → e.loads = false →
        (∀ u, e = .createSubscription u → u = url) →
        ∃ s', s.callService (some e) = .ok s' ∧ Orderly gurl s' ∧ s'.pages = s.pages ∧
          s'.service = s.service.step e := by
      intro hok hloads hcreate
      have hlisted := h.listed.step hok fun u hu => by rw [hcreate u hu, hvalid]
      rw [hloads, Bool.or_false] at hlisted
      rw [AdblockPages.callService, if_pos hok]
      exact ⟨_, rfl, ⟨hlisted, h.observers, h.nodup, h.pages⟩, rfl, rfl⟩
    rcases hcases with ⟨hwrites, hrefreshes, rfl | rfl⟩ | rfl
    · obtain ⟨s', hs', horderly, hpages, -⟩ := hstep trivial rfl (by simp)
      exact ⟨s', hs', horderly, hpages, by simp [hwrites, hrefreshes]⟩
    · obtain ⟨s', hs', horderly, hpages, -⟩ := hstep trivial rfl (by simp)
      exact ⟨s', hs', horderly, hpages, by simp [hwrites, hrefreshes]⟩
    · obtain ⟨s', hs', horderly, hpages, hservice⟩ := hstep trivial rfl (by simp)
      refine ⟨s', hs', horderly, hpages, fun _ => ?_⟩
      rw [hservice]
      exact refreshSubscription_subscriptions url

/-- The handlers of the messages. -/
theorem Orderly.handle (hgurl : ∀ text url, gurl text = some url → gurl url = some url)
    (h : Orderly gurl s) (hlive : (s.pages p).live) {message : PageMessage}
    (hscript : message.fromScript = true) :
    ∃ s', s.handle gurl p message = .ok s' ∧ Orderly gurl s' ∧
      (refreshes gurl message = true → Current p s') ∧
      ∀ q, (q ≠ p → message.writes = false) → Current q s → Current q s' := by
  obtain ⟨t, ht, htorderly, htservice, hallowed, hunmoved⟩ := h.allowJavascript hlive
  obtain ⟨u, hu, huorderly, hupages, hreads⟩ := htorderly.callService hgurl hscript
  rw [htservice] at hreads
  have hkept : ∀ q, u.service.subscriptions = s.service.subscriptions → Current q s →
      Current q u := fun q hsub hcurrent => hcurrent.unmoved (hupages ▸ hunmoved q) hsub
  by_cases hrefreshes : refreshes gurl message = true
  · obtain ⟨s', hs', hsent⟩ := huorderly.refreshSubscriptionsList (p := p) (hupages ▸ hallowed)
    have htold : Current p s' := hsent.told p (List.mem_singleton.mpr rfl)
    refine ⟨s', ?_, hsent.orderly, fun _ => htold, fun q hwrites hcurrent => ?_⟩
    · simpa [AdblockPages.handle, ht, hu, hrefreshes, bind, Except.bind] using hs'
    · by_cases hq : q = p
      · rw [hq]
        exact htold
      · have hq' : Current q u := hkept q (hreads (.inl (hwrites hq))) hcurrent
        exact hq'.unmoved (hsent.others q (by simpa using hq)) (by rw [hsent.service])
  · refine ⟨u, ?_, huorderly, fun hyes => absurd hyes hrefreshes, fun q _ hcurrent => ?_⟩
    · simp [AdblockPages.handle, ht, hu, hrefreshes, bind, Except.bind, pure, Except.pure]
    · exact hkept q (hreads (.inr (Bool.eq_false_iff.mpr hrefreshes))) hcurrent

theorem notifies_of_effects {e : ServiceEvent} {more : List ServiceEffect}
    (heffects : (service.step e).effects = service.effects ++ more ++ [.serviceUpdateEvent]) :
    notifies service e = true := by
  rw [notifies, heffects, List.append_assoc, List.drop_left]
  simp

/-- An entry point that notifies nobody leaves the records, but when it loads them. -/
theorem subscriptions_of_quiet {e : ServiceEvent} (hothers : e.fromOthers = true)
    (hloads : e.loads = false) (htimer : e.ofTimer = true → service.Loaded)
    (hquiet : notifies service e = false) :
    (service.step e).subscriptions = service.subscriptions := by
  have hnever : ∀ more,
      (service.step e).effects ≠ service.effects ++ more ++ [.serviceUpdateEvent] :=
    fun more heffects => by simp [notifies_of_effects heffects] at hquiet
  cases e with
  | onGetDownloadManager available => simp [ServiceEvent.loads] at hloads
  | onDownloadServiceUnavailable => rfl
  | onUpdateTimer now =>
    obtain ⟨effects, heffects⟩ := SubscriptionServiceManager.updateEntries_eq
      { service with subscriptions := service.prefs } now (service.prefs.map Prod.fst)
    simp only [SubscriptionServiceManager.step, SubscriptionServiceManager.onUpdateTimer, heffects]
    exact (htimer rfl).copy.symm
  | onListMetadata url metadata =>
    cases hinfo : service.getInfo url with
    | none =>
      simp only [SubscriptionServiceManager.step, SubscriptionServiceManager.onListMetadata, hinfo]
    | some info =>
      refine absurd ?_ (hnever [])
      simp only [SubscriptionServiceManager.step, SubscriptionServiceManager.onListMetadata, hinfo]
      rw [List.append_nil]
      rfl
  | onSubscriptionDownloaded url now =>
    cases hinfo : service.getInfo url with
    | none =>
      simp only [SubscriptionServiceManager.step,
        SubscriptionServiceManager.onSubscriptionDownloaded, hinfo]
    | some info =>
      cases hprovider : service.providers url with
      | none =>
        refine absurd ?_ (hnever [])
        simp [SubscriptionServiceManager.step,
          SubscriptionServiceManager.onSubscriptionDownloaded, hinfo,
          SubscriptionServiceManager.announceList, SubscriptionServiceManager.ask,
          SubscriptionServiceManager.updateSubscriptionPrefs, hprovider]
      | some provider =>
        refine absurd ?_ (hnever [.listAvailable provider.id])
        simp [SubscriptionServiceManager.step,
          SubscriptionServiceManager.onSubscriptionDownloaded, hinfo,
          SubscriptionServiceManager.announceList, SubscriptionServiceManager.ask,
          SubscriptionServiceManager.updateSubscriptionPrefs, hprovider]
  | onSubscriptionDownloadFailure url now =>
    cases hinfo : service.getInfo url with
    | none =>
      simp only [SubscriptionServiceManager.step,
        SubscriptionServiceManager.onSubscriptionDownloadFailure, hinfo]
    | some info =>
      refine absurd ?_ (hnever [])
      simp only [SubscriptionServiceManager.step,
        SubscriptionServiceManager.onSubscriptionDownloadFailure, hinfo]
      rw [List.append_nil]
      rfl
  | _ => simp [ServiceEvent.fromOthers] at hothers

/-- The entry points that others call. -/
theorem Orderly.runService (h : Orderly gurl s) {e : ServiceEvent} (hothers : e.fromOthers = true)
    (htimer : e.ofTimer = true → s.loaded = true) :
    ∃ s', s.runService gurl e = .ok s' ∧ Orderly gurl s' ∧
      (∀ p ∈ s.observers, notifies s.service e = true → Current p s') ∧
      ∀ p, e.loads = false → Current p s → Current p s' := by
  have hok : s.service.checked e := by
    cases e with
    | enableSubscription url enabled => simp [ServiceEvent.fromOthers] at hothers
    | _ => trivial
  have hlisted := h.listed.step hok fun url he => by simp [he, ServiceEvent.fromOthers] at hothers
  have hnext : Orderly gurl { s with
      service := s.service.step e
      loaded := s.loaded || e.loads } := ⟨hlisted, h.observers, h.nodup, h.pages⟩
  by_cases hnotifies : notifies s.service e = true
  · obtain ⟨s', hs', hsent⟩ := hnext.notify fun p hp => (h.observers p).mp hp
    refine ⟨s', ?_, hsent.orderly, fun p hp _ => hsent.told p hp, fun p _ hcurrent => ?_⟩
    · rw [AdblockPages.runService, if_pos hnotifies]
      exact hs'
    · exact hsent.told p ((h.observers p).mpr hcurrent.allowed)
  · refine ⟨_, ?_, hnext, fun p _ hyes => absurd hyes hnotifies, fun p hloads hcurrent => ?_⟩
    · rw [AdblockPages.runService, if_neg hnotifies]
    · exact hcurrent.unmoved (.refl _) (subscriptions_of_quiet hothers hloads
        (fun hnow => h.listed.loaded (htimer hnow)) (Bool.eq_false_iff.mpr hnotifies))

/-- A page that runs a call shows its list, and the newest list stays the same. -/
theorem Orderly.runCall (h : Orderly gurl s) (hcalls : (s.pages p).calls ≠ []) :
    ∃ s', s.runCall p = .ok s' ∧ Orderly gurl s' ∧ s'.service = s.service ∧
      (s'.pages p).calls = (s.pages p).calls.tail ∧ ((s.pages p).live → (s'.pages p).live) ∧
      ∀ q, (s.pages q).Unmoved (s'.pages q) := by
  obtain ⟨listSubscriptions, calls, hcons⟩ := List.exists_cons_of_ne_nil hcalls
  have hpage := h.pages p
  obtain ⟨nodes, hnodes⟩ := hpage.table
  obtain ⟨rest, hrest, hshown⟩ := TableNode.onGetListSubscriptions_ok nodes listSubscriptions
  rw [← hnodes] at hrest
  unfold AdblockPages.runCall
  rw [hcons]
  simp only [hrest]
  refine ⟨_, rfl, h.setPage ⟨hpage.live, hpage.messages, rest, rfl⟩ rfl, rfl, by simp,
    fun hlive => by rwa [setPage_self], unmoved_setPage ⟨?_, id⟩⟩
  unfold AdblockPage.newest
  rw [hcons, List.getLast?_cons]
  cases calls.getLast? with
  | none => exact hshown
  | some last => rfl

/-- The event sends the list to a page. -/
def informs (gurl : String → Option String) (s : AdblockPages) (p : Nat) : PagesEvent → Prop
  | .handle q message => q = p ∧ refreshes gurl message = true
  | .service e => p ∈ s.observers ∧ notifies s.service e = true
  | _ => False

/-- Another page may change the records, or the services are loaded, or the page is closed. -/
def leavesBehind (p : Nat) : PagesEvent → Bool
  | .handle q message => q ≠ p && message.writes
  | .service e => e.loads
  | .close q => q = p
  | _ => false

/-- A user clicks on a page. -/
theorem Orderly.send (h : Orderly gurl s) (p : Nat) (message : PageMessage)
    (hscript : message.fromScript = true) :
    Orderly gurl (s.setPage p ((s.pages p).send message)) ∧
      ∀ q, Current q s → Current q (s.setPage p ((s.pages p).send message)) :=
  ⟨h.setPage ((h.pages p).send hscript) rfl,
    fun _ hcurrent => hcurrent.setPage ⟨rfl, id⟩⟩

theorem Orderly.start (h : Orderly gurl s) (hnew : (s.pages p).started = false) :
    Orderly gurl (s.setPage p (startPage (s.pages p))) ∧
      ∀ q, Current q s → Current q (s.setPage p (startPage (s.pages p))) := by
  have hpage := h.pages p
  have hallowed : (s.pages p).javascriptAllowed = false := by
    cases hallowed : (s.pages p).javascriptAllowed with
    | false => rfl
    | true => simp [(hpage.live hallowed).1] at hnew
  have hstarted : AdblockPage.Ok { s.pages p with started := true } :=
    ⟨fun hyes => by simp [hallowed] at hyes, hpage.messages, hpage.table⟩
  exact ⟨h.setPage ((hstarted.send rfl).send rfl) rfl,
    fun _ hcurrent => hcurrent.setPage ⟨rfl, id⟩⟩

theorem Orderly.close (h : Orderly gurl s) (p : Nat) :
    Orderly gurl (s.close p) ∧ ∀ q, p ≠ q → Current q s → Current q (s.close p) := by
  have hpages : (s.close p).pages = Function.update s.pages p { s.pages p with
      closed := true
      javascriptAllowed := false
      messages := []
      calls := [] } := rfl
  refine ⟨⟨h.listed, fun q => ?_, h.nodup.erase p, fun q => ?_⟩, fun q hq hcurrent => ?_⟩
  · show q ∈ s.observers.erase p ↔ _
    rw [h.nodup.mem_erase_iff, hpages, h.observers]
    by_cases hq : q = p
    · simp [hq]
    · simp [hq]
  · rw [hpages]
    by_cases hq : q = p
    · rw [hq, Function.update_self]
      exact ⟨by simp, by simp, (h.pages p).table⟩
    · rw [Function.update_of_ne hq]
      exact h.pages q
  · refine hcurrent.unmoved ?_ rfl
    rw [hpages, Function.update_of_ne (Ne.symm hq)]
    exact .refl _

/-- Nothing that can happen runs into a check.  A page that is sent the list has the current one,
and has it still after an event that does not leave it behind. -/
theorem Orderly.step (hgurl : ∀ text url, gurl text = some url → gurl url = some url)
    (h : Orderly gurl s) {e : PagesEvent} (hoffered : s.offered e) :
    ∃ s', s.step gurl e = .ok s' ∧ Orderly gurl s' ∧
      ∀ p, (s.informs gurl p e → Current p s') ∧
        (leavesBehind p e = false → Current p s → Current p s') := by
  cases e with
  | start q =>
    obtain ⟨horderly, hkept⟩ := h.start hoffered
    exact ⟨_, rfl, horderly, fun p => ⟨False.elim, fun _ => hkept p⟩⟩
  | addSubscription q newSubscription =>
    obtain ⟨horderly, hkept⟩ :=
      h.send q (.submitNewSubscription (.string newSubscription)) rfl
    exact ⟨_, rfl, horderly, fun p => ⟨False.elim, fun _ => hkept p⟩⟩
  | removeSubscription q row =>
    obtain ⟨horderly, hkept⟩ := h.send q (.deleteSubscription (.string row.url)) rfl
    exact ⟨_, rfl, horderly, fun p => ⟨False.elim, fun _ => hkept p⟩⟩
  | updateSubscription q row =>
    obtain ⟨horderly, hkept⟩ := h.send q (.refreshSubscription (.string row.url)) rfl
    exact ⟨_, rfl, horderly, fun p => ⟨False.elim, fun _ => hkept p⟩⟩
  | handle q message =>
    obtain ⟨hlive, hhead⟩ := hoffered
    have hpage := h.pages q
    have hscript : message.fromScript = true :=
      hpage.messages message (List.mem_of_mem_head? (by rw [hhead]; rfl))
    have htaken : Orderly gurl
        (s.setPage q { s.pages q with messages := (s.pages q).messages.tail }) :=
      h.setPage ⟨hpage.live, fun m hm => hpage.messages m (List.mem_of_mem_tail hm), hpage.table⟩
        rfl
    obtain ⟨s', hs', horderly, htold, hkept⟩ :=
      htaken.handle hgurl (p := q) (by rwa [setPage_self]) hscript
    refine ⟨s', hs', horderly, fun p => ⟨?_, fun hbehind hcurrent => ?_⟩⟩
    · rintro ⟨rfl, hrefreshes⟩
      exact htold hrefreshes
    · refine hkept p (fun hne => ?_) (hcurrent.setPage ⟨rfl, id⟩)
      simpa [leavesBehind, Ne.symm hne] using hbehind
  | runCall q =>
    obtain ⟨s', hs', horderly, hservice, -, -, hunmoved⟩ := h.runCall hoffered.2
    exact ⟨s', hs', horderly, fun p => ⟨False.elim,
      fun _ hcurrent => hcurrent.unmoved (hunmoved p) (by rw [hservice])⟩⟩
  | close q =>
    obtain ⟨horderly, hkept⟩ := h.close q
    refine ⟨_, rfl, horderly, fun p => ⟨False.elim, fun hbehind => hkept p ?_⟩⟩
    simpa [leavesBehind] using hbehind
  | service e =>
    obtain ⟨s', hs', horderly, htold, hkept⟩ := h.runService hoffered.1 hoffered.2
    exact ⟨s', hs', horderly, fun p => ⟨fun hinforms => htold p hinforms.1 hinforms.2, hkept p⟩⟩

theorem orderly_initial {prefs : DictValue} (hwritten : Written prefs) (hsorted : prefs.Sorted)
    (hkeys : ∀ key ∈ prefs.map Prod.fst, gurl key = some key) :
    Orderly gurl { service := { prefs := prefs } } where
  listed := ⟨.initial hwritten, hsorted,
    fun key hkey => hkeys key ((DictValue.find_isSome_iff prefs key).mp hkey), by simp⟩
  observers p := by simp
  nodup := List.nodup_nil
  pages p := ⟨by simp, by simp, [.text], rfl⟩

section Runs

variable (hgurl : ∀ text url, gurl text = some url → gurl url = some url) {es : List PagesEvent}

include hgurl in
theorem Orderly.run (h : Orderly gurl s) (run : Run (machine gurl) s es s') : Orderly gurl s' := by
  refine run.preserves (P := Orderly gurl) ?_ h
  intro s e s' hoffered hstep h
  obtain ⟨t, ht, horderly, -⟩ := h.step hgurl hoffered
  obtain rfl : t = s' := Except.ok.inj (ht.symm.trans hstep)
  exact horderly

include hgurl in
theorem Current.run (hcurrent : Current p s) (h : Orderly gurl s)
    (run : Run (machine gurl) s es s') (hes : ∀ e ∈ es, leavesBehind p e = false) :
    Current p s' := by
  induction run with
  | nil => exact hcurrent
  | @cons s t s' e es hoffered hstep rest ih =>
    obtain ⟨he, hes⟩ := List.forall_mem_cons.mp hes
    obtain ⟨u, hu, horderly, hpages⟩ := h.step hgurl hoffered
    obtain rfl : u = t := Except.ok.inj (hu.symm.trans hstep)
    exact ih ((hpages p).2 he hcurrent) horderly hes

end Runs

/-- A page can run all its calls, and shows the newest list then. -/
theorem Orderly.settle (h : Orderly gurl s) (hlive : (s.pages p).live) :
    ∃ s', Run (machine gurl) s (List.replicate (s.pages p).calls.length (.runCall p)) s' ∧
      s'.service = s.service ∧
      TableNode.shown (s'.pages p).subscriptions = (s.pages p).newest := by
  generalize hn : (s.pages p).calls.length = n
  induction n generalizing s with
  | zero =>
    refine ⟨s, .nil s, rfl, ?_⟩
    rw [AdblockPage.newest, List.length_eq_zero_iff.mp hn]
    rfl
  | succ n ih =>
    have hcalls : (s.pages p).calls ≠ [] := by
      rintro hnil
      simp [hnil] at hn
    obtain ⟨t, ht, horderly, hservice, htail, hlive', hunmoved⟩ := h.runCall hcalls
    obtain ⟨s', rest, hservice', hshown⟩ := ih horderly (hlive' hlive) (by
      rw [htail, List.length_tail]
      omega)
    exact ⟨s', .cons ⟨hlive, hcalls⟩ ht rest, hservice'.trans hservice,
      hshown.trans (hunmoved p).newest⟩

/-- The rows for the records are in the order of their URLs, one for each. -/
theorem Listed.rows {loaded : Bool} (h : Listed gurl service loaded) :
    (listedRows service.subscriptions).Pairwise (fun a b => a.url < b.url) ∧
      ∀ row, row ∈ listedRows service.subscriptions ↔
        ∃ info, service.getInfo row.url = some info ∧ info.listed.row = row := by
  have hurl : ∀ {url row}, (prefsRecord service.subscriptions url).map (·.listed.row) = some row →
      row.url = url := by
    intro url row hrow
    obtain ⟨info, hinfo, rfl⟩ := Option.map_eq_some_iff.mp hrow
    obtain ⟨dict, -, rfl⟩ := Option.map_eq_some_iff.mp hinfo
    rfl
  have hsorted : service.subscriptions.Sorted := by
    rcases h.sound.copied with hnil | hcopy
    · rw [hnil]
      exact List.Pairwise.nil
    · rw [hcopy]
      exact h.sorted
  constructor
  · refine List.pairwise_filterMap.mpr (List.Pairwise.imp ?_ hsorted)
    intro a b hab row hrow row' hrow'
    rwa [hurl hrow, hurl hrow']
  · intro row
    rw [listedRows, List.mem_filterMap]
    constructor
    · rintro ⟨subscription, -, hrow⟩
      obtain ⟨info, hinfo, hlisted⟩ := Option.map_eq_some_iff.mp hrow
      rw [← hurl hrow] at hinfo
      exact ⟨info, hinfo, hlisted⟩
    · rintro ⟨info, hinfo, hlisted⟩
      have hfind := find_isSome_of_prefsRecord hinfo
      obtain ⟨subscription, hmem, hkey⟩ :=
        List.mem_map.mp ((DictValue.find_isSome_iff _ _).mp hfind)
      refine ⟨subscription, hmem, ?_⟩
      rw [hkey]
      exact Option.map_eq_some_iff.mpr ⟨info, hinfo, hlisted⟩

/-- Whatever the pages and the service do from the start on, nothing that can happen next runs into
a check.  And where a page is sent the list next, then, until another page changes the records, the
services are loaded, or the page closes, its calls bring it to show the records that the service
has: one row for each, in the order of their URLs.  After the load these are the records in
preferences. -/
theorem listing_current {gurl : String → Option String}
    (hgurl : ∀ text url, gurl text = some url → gurl url = some url) {prefs : DictValue}
    (hwritten : Written prefs) (hsorted : prefs.Sorted)
    (hkeys : ∀ key ∈ prefs.map Prod.fst, gurl key = some key) {before : List PagesEvent}
    {s : AdblockPages} (first : Run (machine gurl) { service := { prefs := prefs } } before s) :
    (∀ e, s.offered e → ∃ t, s.step gurl e = .ok t) ∧
    ∀ {e p t u} {after : List PagesEvent}, s.offered e → s.step gurl e = .ok t →
      s.informs gurl p e → Run (machine gurl) t after u →
      (∀ e ∈ after, leavesBehind p e = false) →
      (∃ v, Run (machine gurl) u (List.replicate (u.pages p).calls.length (.runCall p)) v ∧
        v.service = u.service ∧
        (TableNode.shown (v.pages p).subscriptions).Pairwise (fun a b => a.url < b.url) ∧
        ∀ row, row ∈ TableNode.shown (v.pages p).subscriptions ↔
          ∃ info, v.service.getInfo row.url = some info ∧ info.listed.row = row) ∧
      (u.loaded = true → u.service.subscriptions = u.service.prefs) := by
  have hs : Orderly gurl s := (orderly_initial hwritten hsorted hkeys).run hgurl first
  refine ⟨fun e he => ?_, ?_⟩
  · obtain ⟨t, ht, -⟩ := hs.step hgurl he
    exact ⟨t, ht⟩
  · intro e p t u after hoffered hstep hinforms rest hafter
    obtain ⟨t', ht, horderly, hpages⟩ := hs.step hgurl hoffered
    obtain rfl : t' = t := Except.ok.inj (ht.symm.trans hstep)
    have htold : Current p t' := (hpages p).1 hinforms
    have hu : Orderly gurl u := horderly.run hgurl rest
    have hcurrent : Current p u := htold.run hgurl horderly rest hafter
    refine ⟨?_, fun hloaded => (hu.listed.loaded hloaded).copy⟩
    obtain ⟨v, run, hservice, hshown⟩ := hu.settle ((hu.pages p).live hcurrent.allowed)
    obtain ⟨hordered, hrows⟩ := hu.listed.rows
    refine ⟨v, run, hservice, ?_, fun row => ?_⟩
    · rw [hshown, hcurrent.newest]
      exact hordered
    · rw [hshown, hcurrent.newest, hservice]
      exact hrows row

/-- Two lists with valid URLs. -/
def exampleGurl (text : String) : Option String :=
  if text ∈ ["https://lists.example/a.txt", "https://lists.example/b.txt"] then some text else none

theorem exampleGurl_valid (text url : String) (h : exampleGurl text = some url) :
    exampleGurl url = some url := by
  unfold exampleGurl at h ⊢
  split at h
  · rename_i hmem
    cases h
    rw [if_pos hmem]
  · contradiction

/-- A page is opened before the services are loaded, and another one after that, which subscribes to
a list. -/
def twoPages : List PagesEvent :=
  [.start 0, .handle 0 .getCustomFilters, .handle 0 .getListSubscriptions, .runCall 0,
    .service (.onGetDownloadManager true), .start 1, .handle 1 .getCustomFilters,
    .handle 1 .getListSubscriptions, .addSubscription 1 "https://lists.example/a.txt",
    .handle 1 (.submitNewSubscription (.string "https://lists.example/a.txt"))]

/-- The list of the second page is downloaded. -/
def firstDownload : ServiceEvent :=
  .onSubscriptionDownloaded "https://lists.example/a.txt" SubscriptionServiceManager.firstHour

/-- When the list was downloaded, the first page is notified of both, and everything that can happen
before is handled. -/
theorem listing_current_twoPages :
    ∃ s u, Run (machine exampleGurl)
        { service := { prefs := SubscriptionServiceManager.onePref } } twoPages s ∧
      (∀ e, s.offered e → ∃ t, s.step exampleGurl e = .ok t) ∧
      Run (machine exampleGurl)
        { service := { prefs := SubscriptionServiceManager.onePref } }
        (twoPages ++ [.service firstDownload]) u ∧
      (u.pages 0).calls.length = 1 ∧
      u.service.prefs.map Prod.fst =
        ["https://lists.example/a.txt", "https://lists.example/b.txt"] ∧
      ∃ v, Run (machine exampleGurl) u [.runCall 0] v ∧
        ∀ row, row ∈ TableNode.shown (v.pages 0).subscriptions ↔
          ∃ info, v.service.getInfo row.url = some info ∧ info.listed.row = row := by
  obtain ⟨s, first, hs⟩ := Machine.exists_run (machine exampleGurl)
    { service := { prefs := SubscriptionServiceManager.onePref } } twoPages
    (fun s => decide (0 ∈ s.observers) && notifies s.service firstDownload &&
      ((machine exampleGurl).replay s [.service firstDownload]).any fun u : AdblockPages =>
        decide ((u.pages 0).calls.length = 1 ∧ u.service.prefs.map Prod.fst =
          ["https://lists.example/a.txt", "https://lists.example/b.txt"])) (by decide +kernel)
  obtain ⟨hinforms, hreplay⟩ := Bool.and_eq_true_iff.mp hs
  obtain ⟨hobserves, hnotifies⟩ := Bool.and_eq_true_iff.mp hinforms
  obtain ⟨u, run, hu⟩ := Machine.exists_run (machine exampleGurl) s _ _ hreplay
  obtain ⟨hlength, hlists⟩ := of_decide_eq_true hu
  obtain ⟨hhandled, hlisted⟩ := listing_current exampleGurl_valid
    SubscriptionServiceManager.onePref_written (List.pairwise_singleton _ _) (by decide) first
  refine ⟨s, u, first, hhandled, first.append run, hlength, hlists, ?_⟩
  cases run with
  | cons hoffered hstep rest =>
    obtain ⟨⟨v, hv, -, -, hrows⟩, -⟩ := hlisted (p := 0) (e := .service firstDownload) hoffered
      hstep ⟨of_decide_eq_true hobserves, hnotifies⟩ rest (by simp)
    rw [hlength] at hv
    exact ⟨v, hv, hrows⟩

end AdblockPages

end ChromiumAdblock
