import ChromiumAdblock.Shields.ResourceRuns
import ChromiumAdblock.Shields.StoreLists

/-! The scriptlets on the page of the custom resources: `importScriptlet` and `removeScriptlet` of
`brave_adblock.js`, over the provider that stores them.  An import adds its files one after the
other, each once the status of the one before it is there; but the buttons of the page stay active
meanwhile, so that imports and removals may overlap.  Where the user clicks only when the page waits
for nothing, the table shows the stored scriptlets, and the files of an import are stored up to the
first one that is refused.  Other calls of the provider, on other keys, come at any time.  A message
of the page reaches the provider when it is sent, and its status comes later. -/

namespace ChromiumAdblock

open EventMachine

/-- A file that the user chose, with what `btoa` makes of it. -/
structure ScriptletFile where
  name : String
  content : String
deriving DecidableEq, Repr

/-- The resource that `importScriptlet` makes of a file. -/
def ScriptletFile.dict (file : ScriptletFile) : Value :=
  .dict [(kContentField, .string file.content), ("kind", .dict [("mime", .string kAppJs)]),
    (kNameField, .string file.name)]

def ScriptletFile.add (file : ScriptletFile) : ResourceCall :=
  .addResource kStorageScriptletsKey file.dict

/-- The values of the text areas in a row of the table. -/
structure ScriptletRow where
  name : String
  base64 : String
deriving DecidableEq, Repr

/-- The row that `addScriptletToTable` makes of a scriptlet. -/
def scriptletRow (scriptlet : Value) : ScriptletRow where
  name := getResourceName scriptlet
  base64 := (scriptlet.getIfDict.bind fun dict => DictValue.findString dict kContentField).getD ""

/-- A row of the table: the element, as the number of the elements that were made before it, and
what it shows. -/
structure TableRow where
  element : Nat
  values : ScriptletRow
deriving DecidableEq, Repr

/-- What a function of the page still has to do: a file is read, or it waits for the status of a
call. -/
inductive ScriptletTask
  | reading (index : Nat) (file : ScriptletFile)
  | adding (index : Nat) (file : ScriptletFile)
  | removing (element : Nat) (name : String)
deriving DecidableEq, Repr

/-- The call whose status a task waits for. -/
def ScriptletTask.call? : ScriptletTask → Option ResourceCall
  | .reading .. => none
  | .adding _ file => some file.add
  | .removing _ name => some (.removeResource kStorageScriptletsKey name)

def ScriptletTask.waitsFor (call : ResourceCall) (task : ScriptletTask) : Bool :=
  decide (task.call? = some call)

/-- `rows` is the table, and `created` how many rows were made.  `files` is what is chosen in
`#files` now.  `statuses` are those of the page's calls that are on their way to it. -/
structure ScriptletPage where
  provider : CustomResourceProvider
  rows : List TableRow := []
  created : Nat := 0
  files : List ScriptletFile := []
  tasks : List ScriptletTask := []
  statuses : List (ResourceCall × ErrorCode) := []

namespace ScriptletPage

/-- What the table shows. -/
def table (s : ScriptletPage) : List ScriptletRow := s.rows.map (·.values)

def addScriptletToTable (s : ScriptletPage) (scriptlet : Value) : ScriptletPage :=
  { s with
    rows := s.rows ++ [⟨s.created, scriptletRow scriptlet⟩]
    created := s.created + 1 }

def importScriptlet (s : ScriptletPage) (index : Nat) : ScriptletPage :=
  match s.files[index]? with
  | none => s
  | some file => { s with tasks := s.tasks ++ [.reading index file] }

/-- The provider goes on, and reports the statuses of the calls for scriptlets to the page. -/
def hear (s : ScriptletPage) (next : CustomResourceProvider) : ScriptletPage :=
  { s with
    provider := next
    statuses := s.statuses ++ (next.reported.drop s.provider.reported.length).filter
      fun entry => entry.1.key = kStorageScriptletsKey }

/-- The file of a task was read. -/
def onload (s : ScriptletPage) (position : Nat) : ScriptletPage :=
  match s.tasks[position]? with
  | some (.reading index file) =>
    hear { s with tasks := s.tasks.eraseIdx position ++ [.adding index file] }
      (s.provider.call file.add)
  | _ => s

def removeScriptlet (s : ScriptletPage) (position : Nat) : ScriptletPage :=
  match s.rows[position]? with
  | some row =>
    hear { s with tasks := s.tasks ++ [.removing row.element row.values.name] }
      (s.provider.call (.removeResource kStorageScriptletsKey row.values.name))
  | none => s

/-- A task goes on with the status that it waited for.  An element that was removed before is not
in the table anymore. -/
def settle (s : ScriptletPage) (task : ScriptletTask) (code : ErrorCode) : ScriptletPage :=
  match task with
  | .reading .. => s
  | .adding index file =>
    if code ≠ .kOk then s else (s.addScriptletToTable file.dict).importScriptlet (index + 1)
  | .removing element _ =>
    if code = .kOk then { s with rows := s.rows.filter fun row => row.element ≠ element } else s

/-- The next status is there.  Calls that are equal are answered in the order in which they were
made, so that it is for the first task that waits for it. -/
def onStatus (s : ScriptletPage) : ScriptletPage :=
  match s.statuses with
  | [] => s
  | (call, code) :: statuses =>
    let s := { s with statuses := statuses }
    match s.tasks.find? (·.waitsFor call) with
    | none => s
    | some task => { s with tasks := s.tasks.eraseP (·.waitsFor call) }.settle task code

end ScriptletPage

inductive ScriptletEvent
  | chooseFiles (files : List ScriptletFile)
  | clickImport
  | clickRemove (position : Nat)
  | onload (position : Nat)
  | onStatus
  | call (call : ResourceCall)
  | execute
  | handleReply

namespace ScriptletPage

def step (s : ScriptletPage) : ScriptletEvent → ScriptletPage
  | .chooseFiles files => { s with files := files }
  | .clickImport => s.importScriptlet 0
  | .clickRemove position => s.removeScriptlet position
  | .onload position => s.onload position
  | .onStatus => s.onStatus
  | .call call => s.hear (s.provider.call call)
  | .execute => s.hear s.provider.execute
  | .handleReply => s.hear s.provider.handleReply

/-- Whether the file of a task is being read. -/
def isReading : Option ScriptletTask → Bool
  | some (.reading ..) => true
  | _ => false

def enabled (s : ScriptletPage) : ScriptletEvent → Prop
  | .chooseFiles _ | .clickImport => True
  | .clickRemove position => position < s.rows.length
  | .onload position => isReading s.tasks[position]? = true
  | .onStatus => s.statuses ≠ []
  | .call call => call.key ≠ kStorageScriptletsKey
  | .execute => s.provider.requests ≠ []
  | .handleReply => s.provider.replies ≠ []

instance (s : ScriptletPage) : ∀ e, Decidable (s.enabled e)
  | .chooseFiles _ | .clickImport => isTrue trivial
  | .clickRemove position => inferInstanceAs (Decidable (position < s.rows.length))
  | .onload position => inferInstanceAs (Decidable (isReading s.tasks[position]? = true))
  | .onStatus => inferInstanceAs (Decidable (¬s.statuses = []))
  | .call call => inferInstanceAs (Decidable (¬call.key = kStorageScriptletsKey))
  | .execute => inferInstanceAs (Decidable (¬s.provider.requests = []))
  | .handleReply => inferInstanceAs (Decidable (¬s.provider.replies = []))

def machine : Machine ScriptletPage ScriptletEvent Empty where
  enabled := enabled
  step s e := .ok (s.step e)

instance (s : ScriptletPage) (e : ScriptletEvent) : Decidable (machine.enabled s e) :=
  inferInstanceAs (Decidable (s.enabled e))

/-- The user imports or removes scriptlets only when the page waits for nothing. -/
def inTurn (s : ScriptletPage) : ScriptletEvent → Prop
  | .clickImport | .clickRemove _ => s.tasks = []
  | _ => True

instance (s : ScriptletPage) : ∀ e, Decidable (s.inTurn e)
  | .clickImport | .clickRemove _ => inferInstanceAs (Decidable (s.tasks = []))
  | .chooseFiles _ | .onload _ | .onStatus | .call _ | .execute | .handleReply => isTrue trivial

/-- The page as it is loaded when the provider has nothing to do. -/
def init (store : ValueStore) : ScriptletPage :=
  (listOf (store kStorageScriptletsKey)).foldl addScriptletToTable { provider := .init store }

/-- Three scriptlets, and the removals of the first two of them, the second one before the first one
is done: both are reported as done, and the second one undoes the first one. -/
example : (machine.replay (init fun _ => some (.list
      [.dict [(kNameField, .string "a.js")], .dict [(kNameField, .string "b.js")],
        .dict [(kNameField, .string "c.js")]]))
    [.clickRemove 0, .clickRemove 1, .execute, .execute, .handleReply, .onStatus, .handleReply,
      .onStatus, .execute, .execute]).any (fun s : ScriptletPage => decide
        (s.table.map (·.name) = ["c.js"] ∧
          (listOf (s.provider.store kStorageScriptletsKey)).map getResourceName =
            ["a.js", "c.js"])) = true := by decide

end ScriptletPage

/-- What a call does with a list, and its status. -/
def ResourceCall.outcome (call : ResourceCall) (resources : List Value) : ListOutcome :=
  if call.invalid then (none, .kInvalid) else call.onResources resources

/-- An import refuses a file that is no valid scriptlet, or whose name is taken. -/
def ScriptletFile.Refused (file : ScriptletFile) (rows : List ScriptletRow) : Prop :=
  isValidResource file.dict true = false ∨ file.name ∈ rows.map (·.name)

section Outcomes

variable {scriptlets : List Value} {file : ScriptletFile}

theorem getResourceName_dict (file : ScriptletFile) : getResourceName file.dict = file.name := rfl

theorem names_rows (scriptlets : List Value) :
    (scriptlets.map scriptletRow).map (·.name) = scriptlets.map getResourceName := by
  rw [List.map_map]
  rfl

/-- In a list without duplicates, the first resource of a name is the one. -/
theorem findResource_getElem (h : (scriptlets.map getResourceName).Nodup) {i : Nat}
    {scriptlet : Value} (hi : scriptlets[i]? = some scriptlet) :
    findResource scriptlets (getResourceName scriptlet) = some i := by
  cases hfind : findResource scriptlets (getResourceName scriptlet) with
  | none =>
    exact absurd (List.mem_map_of_mem (List.mem_of_getElem? hi)) (findResource_eq_none hfind)
  | some j =>
    obtain ⟨other, hj, hname⟩ := findResource_name hfind
    have hnames : (scriptlets.map getResourceName)[j]? = (scriptlets.map getResourceName)[i]? := by
      simp [hi, hj, hname]
    have hlength : j < (scriptlets.map getResourceName).length := by
      obtain ⟨hlt, -⟩ := List.getElem?_eq_some_iff.mp hj
      simpa using hlt
    rw [(List.getElem?_inj hlength h).mp hnames]

/-- A file that is added, or refused. -/
theorem add_outcome (h : ListFits kStorageScriptletsKey scriptlets) (file : ScriptletFile) :
    file.add.outcome scriptlets = (some (scriptlets ++ [file.dict]), .kOk) ∧
        ListFits kStorageScriptletsKey (scriptlets ++ [file.dict]) ∨
      ∃ status, file.add.outcome scriptlets = (none, status) ∧ status ≠ .kOk ∧
        file.Refused (scriptlets.map scriptletRow) := by
  have hinvalid : file.add.invalid = !isValidResource file.dict true := rfl
  cases hvalid : isValidResource file.dict true with
  | false =>
    refine .inr ⟨.kInvalid, ?_, by simp, .inl hvalid⟩
    simp [ResourceCall.outcome, hinvalid, hvalid]
  | true =>
    have houtcome : file.add.outcome scriptlets = addResourceInternal file.dict scriptlets := by
      simp only [ResourceCall.outcome, hinvalid, hvalid, Bool.not_true, Bool.false_eq_true,
        if_false]
      rfl
    rw [houtcome, addResourceInternal, getResourceName_dict]
    cases hfind : findResource scriptlets file.name with
    | some i =>
      obtain ⟨scriptlet, hi, hname⟩ := findResource_name hfind
      refine .inr ⟨.kAlreadyExists, rfl, by simp, .inr ?_⟩
      rw [names_rows, ← hname]
      exact List.mem_map_of_mem (List.mem_of_getElem? hi)
    | none =>
      have hfits : ListFits file.add.key scriptlets := h
      have hsaved : (file.add.onResources scriptlets).1 = some (scriptlets ++ [file.dict]) := by
        show (addResourceInternal file.dict scriptlets).1 = _
        rw [addResourceInternal, getResourceName_dict, hfind]
      exact .inl ⟨rfl, hfits.onResources (by simp [hinvalid, hvalid]) hsaved⟩

/-- A scriptlet of the table that is removed. -/
theorem remove_outcome (h : ListFits kStorageScriptletsKey scriptlets) {row : Nat}
    {values : ScriptletRow} (hrow : (scriptlets.map scriptletRow)[row]? = some values) :
    (ResourceCall.removeResource kStorageScriptletsKey values.name).outcome scriptlets =
        (some (scriptlets.eraseIdx row), .kOk) ∧
      ListFits kStorageScriptletsKey (scriptlets.eraseIdx row) := by
  rw [List.getElem?_map] at hrow
  obtain ⟨scriptlet, hscriptlet, rfl⟩ := Option.map_eq_some_iff.mp hrow
  have hfind := findResource_getElem h.names hscriptlet
  have houtcome : (ResourceCall.removeResource kStorageScriptletsKey
      (getResourceName scriptlet)).onResources scriptlets =
        (some (scriptlets.eraseIdx row), .kOk) := by
    show removeResourceInternal (getResourceName scriptlet) scriptlets = _
    rw [removeResourceInternal, hfind]
  have hfits : ListFits (ResourceCall.removeResource kStorageScriptletsKey
      (getResourceName scriptlet)).key scriptlets := h
  exact ⟨houtcome, hfits.onResources rfl (by rw [houtcome])⟩

end Outcomes

namespace CustomResourceProvider

variable {s t : CustomResourceProvider} {call : ResourceCall}

/-- The list of scriptlets, once the tasks under way are done. -/
def scriptlets (s : CustomResourceProvider) : List Value :=
  listOf (s.settled kStorageScriptletsKey)

/-- The replies with a list of scriptlets that are to be handled. -/
def ours (s : CustomResourceProvider) : List StoreReply :=
  s.pending.filter fun reply => reply.call.key = kStorageScriptletsKey

/-- What happened has nothing to do with the scriptlets. -/
structure Aside (s t : CustomResourceProvider) : Prop where
  settled : t.settled kStorageScriptletsKey = s.settled kStorageScriptletsKey
  ours : t.ours = s.ours
  reported : ∃ more, t.reported = s.reported ++ more ∧
    ∀ entry ∈ more, entry.1.key ≠ kStorageScriptletsKey

theorem aside_execute (s : CustomResourceProvider) : Aside s s.execute := by
  obtain ⟨hsettled, hpending, hreported⟩ := s.execute_spec
  exact ⟨by rw [hsettled], by rw [ours, hpending]; rfl, [], by simp [hreported], by simp⟩

/-- A call on another key. -/
theorem aside_call (hkey : call.key ≠ kStorageScriptletsKey) : Aside s (s.call call) := by
  have hfirst : ∀ status : ErrorCode,
      ∀ entry ∈ [(call, status)], entry.1.key ≠ kStorageScriptletsKey := by
    intro status entry hentry
    rwa [List.mem_singleton.mp hentry]
  by_cases hinvalid : call.invalid = true
  · have hcall : s.call call = s.report call .kInvalid := by
      simp [CustomResourceProvider.call, hinvalid]
    rw [hcall]
    exact ⟨rfl, rfl, _, rfl, hfirst _⟩
  · by_cases hremove : ∃ key, call = .removeKey key
    · obtain ⟨key, rfl⟩ := hremove
      have hcall : s.call (.removeKey key) =
          (s.write (.remove key)).report (.removeKey key) .kOk := rfl
      rw [hcall]
      refine ⟨?_, ?_, _, rfl, hfirst _⟩
      · rw [report_settled, write_settled]
        exact Function.update_of_ne (Ne.symm hkey) ..
      · simp [ours, upcoming]
    · have hasks : call.AsksStore := ⟨by simpa using hinvalid, fun key hc => hremove ⟨key, hc⟩⟩
      obtain ⟨hsettled, hpending, hreported⟩ := call_of_asks s hasks
      refine ⟨by rw [hsettled], ?_, [], by simp [hreported], by simp⟩
      rw [ours, hpending, List.filter_append, List.filter_cons_of_neg (by simpa using hkey)]
      exact List.append_nil _

/-- A reply that is handled: its list is saved, or not, and its status is reported. -/
theorem handleReply_of {reply : StoreReply} {rest : List StoreReply}
    (hreplies : s.replies = reply :: rest) :
    s.pending = reply :: s.handleReply.pending ∧
      s.handleReply.reported = s.reported ++
        [(reply.call, (reply.call.onResources (listOf reply.value)).2)] ∧
      s.handleReply.settled =
        match (reply.call.onResources (listOf reply.value)).1 with
        | some saved => Function.update s.settled reply.call.key (some (.list saved))
        | none => s.settled := by
  let popped : CustomResourceProvider := { s with replies := rest }
  have hpending : s.pending = reply :: popped.pending := by simp [pending, hreplies, popped]
  cases houtcome : reply.call.onResources (listOf reply.value) with
  | mk saved status =>
    cases saved with
    | some saved =>
      have hhandle : s.handleReply =
          (popped.write (.set reply.call.key saved)).report reply.call status := by
        simp [CustomResourceProvider.handleReply, hreplies, houtcome, popped]
      rw [hhandle]
      refine ⟨?_, rfl, ?_⟩
      · simpa [upcoming] using hpending
      · rw [report_settled, write_settled]
        rfl
    | none =>
      have hhandle : s.handleReply = popped.report reply.call status := by
        simp [CustomResourceProvider.handleReply, hreplies, houtcome, popped]
      rw [hhandle]
      exact ⟨hpending, rfl, rfl⟩

end CustomResourceProvider

namespace ScriptletPage

open CustomResourceProvider

variable {s : ScriptletPage} {next : CustomResourceProvider} {call : ResourceCall}
  {scriptlets : List Value}

/-- The page has no call under way. -/
structure Resting (s : ScriptletPage) (scriptlets : List Value) : Prop where
  ours : s.provider.ours = []
  statuses : s.statuses = []
  scriptlets : s.provider.scriptlets = scriptlets

/-- The page waits for the status of a call, which is the only one under way. -/
inductive Waiting (s : ScriptletPage) (call : ResourceCall) (scriptlets : List Value) : Prop
  | asked (valid : call.invalid = false)
      (ours : s.provider.ours = [⟨call, s.provider.settled kStorageScriptletsKey⟩])
      (statuses : s.statuses = []) (scriptlets : s.provider.scriptlets = scriptlets)
  | answered (ours : s.provider.ours = [])
      (statuses : s.statuses = [(call, (call.outcome scriptlets).2)])
      (scriptlets : s.provider.scriptlets = (call.outcome scriptlets).1.getD scriptlets)

/-- The task of the page, where there is one at most. -/
def task (s : ScriptletPage) : Option ScriptletTask := s.tasks.head?

/-- The call whose status the page waits for. -/
def awaits (s : ScriptletPage) : Option ResourceCall := s.task.bind (·.call?)

def Going (s : ScriptletPage) (scriptlets : List Value) : Prop :=
  match s.awaits with
  | none => s.Resting scriptlets
  | some call => s.Waiting call scriptlets

/-- The rows of the table are different elements. -/
structure Distinct (s : ScriptletPage) : Prop where
  nodup : (s.rows.map (·.element)).Nodup
  created : ∀ row ∈ s.rows, row.element < s.created

/-- The table shows the scriptlets, as they were before a call that is under way. -/
structure Mirrors (s : ScriptletPage) (scriptlets : List Value) : Prop where
  stored : ListFits kStorageScriptletsKey scriptlets
  table : s.table = scriptlets.map scriptletRow
  distinct : s.Distinct
  tasks : s.tasks = s.task.toList
  removing : ∀ element name, s.task = some (.removing element name) →
    ∃ row ∈ s.rows, row.element = element ∧ row.values.name = name
  going : s.Going scriptlets

theorem going_of_none (h : s.awaits = none) : s.Going scriptlets ↔ s.Resting scriptlets := by
  rw [Going, h]

theorem going_of_some (h : s.awaits = some call) :
    s.Going scriptlets ↔ s.Waiting call scriptlets := by
  rw [Going, h]

theorem hear_statuses {more : List (ResourceCall × ErrorCode)}
    (h : next.reported = s.provider.reported ++ more) :
    (s.hear next).statuses = s.statuses ++
      more.filter fun entry => entry.1.key = kStorageScriptletsKey := by
  rw [hear, h, List.drop_left]

theorem hear_aside (haside : Aside s.provider next) : (s.hear next).statuses = s.statuses := by
  obtain ⟨more, hmore, hothers⟩ := haside.reported
  rw [hear_statuses hmore, List.filter_eq_nil_iff.mpr]
  · exact List.append_nil _
  · intro entry hentry
    simpa using hothers entry hentry

theorem scriptlets_aside (haside : Aside s.provider next) :
    next.scriptlets = s.provider.scriptlets := by
  rw [CustomResourceProvider.scriptlets, haside.settled, CustomResourceProvider.scriptlets]

/-- What has nothing to do with the scriptlets leaves the page as it is. -/
theorem Mirrors.aside (h : s.Mirrors scriptlets) (haside : Aside s.provider next) :
    (s.hear next).Mirrors scriptlets := by
  refine ⟨h.stored, h.table, ⟨h.distinct.nodup, h.distinct.created⟩, h.tasks, h.removing, ?_⟩
  have hgoing := h.going
  have hours : (s.hear next).provider.ours = s.provider.ours := haside.ours
  have hscriptlets := scriptlets_aside haside
  cases hawaits : s.awaits with
  | none =>
    have hresting := (going_of_none hawaits).mp hgoing
    exact (going_of_none (s := s.hear next) hawaits).mpr ⟨hours.trans hresting.ours,
      (hear_aside haside).trans hresting.statuses, hscriptlets.trans hresting.scriptlets⟩
  | some call =>
    refine (going_of_some (s := s.hear next) hawaits).mpr ?_
    cases (going_of_some hawaits).mp hgoing with
    | asked hvalid hasked hstatuses hlist =>
      refine .asked hvalid ?_ ((hear_aside haside).trans hstatuses) (hscriptlets.trans hlist)
      rw [hours, hasked]
      exact congrArg (fun value => [StoreReply.mk call value]) haside.settled.symm
    | answered hnone hstatuses hlist =>
      exact .answered (hours.trans hnone) ((hear_aside haside).trans hstatuses)
        (hscriptlets.trans hlist)

/-- The page makes a call. -/
theorem Resting.ask (h : s.Resting scriptlets) (hkey : call.key = kStorageScriptletsKey)
    (hremove : ∀ key, call ≠ .removeKey key) :
    (s.hear (s.provider.call call)).Waiting call scriptlets := by
  by_cases hinvalid : call.invalid = true
  · have hcall : s.provider.call call = s.provider.report call .kInvalid := by
      simp [CustomResourceProvider.call, hinvalid]
    have houtcome : call.outcome scriptlets = (none, .kInvalid) := by
      simp [ResourceCall.outcome, hinvalid]
    rw [hcall]
    refine .answered h.ours ?_ ?_
    · rw [hear_statuses rfl, h.statuses, houtcome]
      simp [hkey]
    · rw [houtcome]
      exact h.scriptlets
  · have hvalid : call.invalid = false := by simpa using hinvalid
    obtain ⟨hsettled, hpending, hreported⟩ := call_of_asks s.provider ⟨hvalid, hremove⟩
    refine .asked hvalid ?_ ?_ ?_
    · show (s.provider.call call).ours = [⟨call, (s.provider.call call).settled _⟩]
      have hours := h.ours
      rw [CustomResourceProvider.ours] at hours
      rw [CustomResourceProvider.ours, hpending, List.filter_append, hours, hsettled]
      simp [hkey]
    · rw [hear_statuses (hreported.trans (List.append_nil _).symm), h.statuses]
      rfl
    · rw [← h.scriptlets]
      exact congrArg (fun settled : ValueStore => listOf (settled kStorageScriptletsKey)) hsettled

/-- A reply is handled that has a list of scriptlets: it is that of the page's call. -/
theorem Mirrors.handleReply (h : s.Mirrors scriptlets) (hreplies : s.provider.replies ≠ []) :
    (s.hear s.provider.handleReply).Mirrors scriptlets := by
  obtain ⟨reply, rest, hcons⟩ := List.exists_cons_of_ne_nil hreplies
  obtain ⟨hpending, hreported, hsettled⟩ := handleReply_of hcons
  by_cases hkey : reply.call.key = kStorageScriptletsKey
  · have hours : s.provider.ours = reply :: s.provider.handleReply.ours := by
      rw [CustomResourceProvider.ours, hpending, List.filter_cons_of_pos (by simpa using hkey)]
      rfl
    refine ⟨h.stored, h.table, ⟨h.distinct.nodup, h.distinct.created⟩, h.tasks, h.removing, ?_⟩
    have hgoing := h.going
    cases hawaits : s.awaits with
    | none =>
      have hnone := ((going_of_none hawaits).mp hgoing).ours
      simp [hours] at hnone
    | some call =>
      refine (going_of_some (s := s.hear s.provider.handleReply) hawaits).mpr ?_
      cases (going_of_some hawaits).mp hgoing with
      | asked hvalid hasked hstatuses hlist =>
        rw [hours] at hasked
        obtain ⟨rfl, hrest⟩ := List.cons.inj hasked
        have hvalue : listOf (s.provider.settled kStorageScriptletsKey) = scriptlets := hlist
        have houtcome : call.outcome scriptlets = call.onResources scriptlets := by
          simp [ResourceCall.outcome, hvalid]
        rw [hvalue] at hreported hsettled
        refine .answered hrest ?_ ?_
        · rw [hear_statuses hreported, hstatuses, houtcome]
          simp [show call.key = kStorageScriptletsKey from hkey]
        · show listOf (s.provider.handleReply.settled kStorageScriptletsKey) = _
          rw [hsettled, houtcome]
          cases (call.onResources scriptlets).1 with
          | none => exact hvalue
          | some saved => simp [show call.key = kStorageScriptletsKey from hkey]
      | answered hnone => simp [hours] at hnone
  · refine h.aside ⟨?_, ?_, _, hreported, ?_⟩
    · rw [hsettled]
      split
      · exact Function.update_of_ne (Ne.symm hkey) ..
      · rfl
    · rw [CustomResourceProvider.ours, CustomResourceProvider.ours, hpending,
        List.filter_cons_of_neg (by simpa using hkey)]
    · intro entry hentry
      rwa [List.mem_singleton.mp hentry]

/-! The rows of the table. -/

theorem Distinct.addScriptletToTable (h : s.Distinct) (scriptlet : Value) :
    (s.addScriptletToTable scriptlet).Distinct where
  nodup := by
    show (List.map TableRow.element (s.rows ++ [⟨s.created, scriptletRow scriptlet⟩])).Nodup
    rw [List.map_append, List.nodup_append]
    refine ⟨h.nodup, List.nodup_singleton _, ?_⟩
    rintro element helement _ hcreated rfl
    obtain ⟨row, hrow, rfl⟩ := List.mem_map.mp helement
    have hlt := h.created row hrow
    have heq : row.element = s.created := by simpa using hcreated
    omega
  created row hrow := by
    show row.element < s.created + 1
    rcases List.mem_append.mp hrow with hold | hnew
    · exact Nat.lt_succ_of_lt (h.created row hold)
    · rw [List.mem_singleton.mp hnew]
      exact Nat.lt_succ_self _

theorem table_addScriptletToTable (s : ScriptletPage) (scriptlet : Value) :
    (s.addScriptletToTable scriptlet).table = s.table ++ [scriptletRow scriptlet] := by
  simp [table, addScriptletToTable]

/-- The row that has an element is taken out. -/
theorem filter_element {rows : List TableRow} (hnodup : (rows.map (·.element)).Nodup)
    {position : Nat} {row : TableRow} (hrow : rows[position]? = some row) :
    (rows.filter fun other => other.element ≠ row.element) = rows.eraseIdx position := by
  induction rows generalizing position with
  | nil => rfl
  | cons first rest ih =>
    obtain ⟨hfirst, hrest⟩ := List.nodup_cons.mp hnodup
    cases position with
    | zero =>
      obtain rfl : first = row := Option.some.inj hrow
      rw [List.filter_cons_of_neg (by simp), List.eraseIdx_cons_zero, List.filter_eq_self]
      intro other hother
      rw [decide_eq_true_eq]
      exact fun heq => hfirst (List.mem_map.mpr ⟨other, hother, heq⟩)
    | succ position =>
      have hmem : row ∈ rest := List.mem_of_getElem? hrow
      have hne : first.element ≠ row.element := fun heq =>
        hfirst (List.mem_map.mpr ⟨row, hmem, heq.symm⟩)
      rw [List.filter_cons_of_pos (by simpa using hne), ih hrest hrow, List.eraseIdx_cons_succ]

/-! The page goes on. -/

theorem Mirrors.resting (h : s.Mirrors scriptlets) (hnone : s.awaits = none) :
    s.Resting scriptlets :=
  (going_of_none hnone).mp h.going

/-- An import goes on with the file of an index, or ends. -/
theorem mirrors_importScriptlet (hstored : ListFits kStorageScriptletsKey scriptlets)
    (htable : s.table = scriptlets.map scriptletRow) (hdistinct : s.Distinct)
    (hnone : s.tasks = []) (h : s.Resting scriptlets) (index : Nat) :
    (s.importScriptlet index).Mirrors scriptlets := by
  unfold importScriptlet
  split
  · have htask : s.task = none := by rw [task, hnone]; rfl
    refine ⟨hstored, htable, hdistinct, by rw [htask, hnone]; rfl, by simp [htask], ?_⟩
    exact (going_of_none (by rw [awaits, htask]; rfl)).mpr h
  · rename_i file _
    rw [hnone]
    exact ⟨hstored, htable, ⟨hdistinct.nodup, hdistinct.created⟩, rfl, by simp [task],
      (going_of_none rfl).mpr ⟨h.ours, h.statuses, h.scriptlets⟩⟩

theorem Mirrors.clickRemove (h : s.Mirrors scriptlets) (hnone : s.tasks = []) {position : Nat}
    (hposition : position < s.rows.length) : (s.removeScriptlet position).Mirrors scriptlets := by
  have hresting := h.resting (by simp [awaits, task, hnone])
  obtain ⟨row, hrow⟩ : ∃ row, s.rows[position]? = some row :=
    ⟨_, List.getElem?_eq_getElem hposition⟩
  let ready : ScriptletPage := { s with tasks := [.removing row.element row.values.name] }
  have hready : ready.Resting scriptlets :=
    ⟨hresting.ours, hresting.statuses, hresting.scriptlets⟩
  unfold removeScriptlet
  rw [hrow, hnone]
  refine ⟨h.stored, h.table, ⟨h.distinct.nodup, h.distinct.created⟩, rfl, ?_, ?_⟩
  · rintro _ _ ⟨⟩
    exact ⟨row, List.mem_of_getElem? hrow, rfl, rfl⟩
  · exact (going_of_some (s := ready.hear _) rfl).mpr (hready.ask rfl (by simp))

theorem Mirrors.onload (h : s.Mirrors scriptlets) {position : Nat}
    (hreading : isReading s.tasks[position]? = true) :
    ∃ index file, s.task = some (.reading index file) ∧
      (s.onload position).Mirrors scriptlets ∧
      (s.onload position).task = some (.adding index file) ∧
      (s.onload position).table = s.table ∧ (s.onload position).files = s.files := by
  obtain ⟨index, file, hat⟩ : ∃ index file, s.tasks[position]? = some (.reading index file) := by
    cases hat : s.tasks[position]? with
    | none => simp [hat, isReading] at hreading
    | some task =>
      cases task with
      | reading index file => exact ⟨index, file, rfl⟩
      | adding _ _ | removing _ _ => simp [hat, isReading] at hreading
  have htasks := h.tasks
  cases htask : s.task with
  | none => simp [htasks, htask] at hat
  | some task =>
    rw [htask] at htasks
    obtain ⟨rfl, rfl⟩ : position = 0 ∧ task = .reading index file := by
      rw [htasks] at hat
      cases position with
      | zero => exact ⟨rfl, Option.some.inj hat⟩
      | succ position => simp at hat
    have hresting := h.resting (by simp [awaits, htask, ScriptletTask.call?])
    let ready : ScriptletPage := { s with tasks := [.adding index file] }
    have hready : ready.Resting scriptlets :=
      ⟨hresting.ours, hresting.statuses, hresting.scriptlets⟩
    refine ⟨index, file, rfl, ?_⟩
    unfold ScriptletPage.onload
    rw [hat, htasks]
    refine ⟨⟨h.stored, h.table, ⟨h.distinct.nodup, h.distinct.created⟩, rfl, ?_, ?_⟩, rfl, rfl, rfl⟩
    · rintro _ _ ⟨⟩
    · exact (going_of_some (s := ready.hear _) rfl).mpr
        (hready.ask rfl (by simp [ScriptletFile.add]))

/-- The status is there that the only task waits for. -/
theorem onStatus_of {task : ScriptletTask} (htasks : s.tasks = [task])
    (hcall : task.call? = some call) {code : ErrorCode} (hstatuses : s.statuses = [(call, code)]) :
    s.onStatus = { s with
      tasks := []
      statuses := [] }.settle task code := by
  have hwaits : task.waitsFor call = true := by simp [ScriptletTask.waitsFor, hcall]
  simp [ScriptletPage.onStatus, hstatuses, htasks, hwaits]

/-- The status that the page waits for is there: the file was added or refused, or the scriptlet
removed. -/
theorem Mirrors.onStatus (h : s.Mirrors scriptlets) (hne : s.statuses ≠ []) :
    (∃ index file, s.task = some (.adding index file) ∧
      (s.onStatus = ({ s with
          tasks := []
          statuses := [] }.addScriptletToTable file.dict).importScriptlet (index + 1) ∧
        s.onStatus.Mirrors (scriptlets ++ [file.dict]) ∨
      s.onStatus = { s with
          tasks := []
          statuses := [] } ∧ file.Refused s.table ∧ s.onStatus.Mirrors scriptlets)) ∨
    ∃ element name position, s.task = some (.removing element name) ∧
      s.onStatus.Mirrors (scriptlets.eraseIdx position) := by
  have hanswered : ∀ call, s.awaits = some call → s.provider.ours = [] ∧
      s.statuses = [(call, (call.outcome scriptlets).2)] ∧
      s.provider.scriptlets = (call.outcome scriptlets).1.getD scriptlets := by
    intro call hawaits
    cases (going_of_some hawaits).mp h.going with
    | asked _ _ hstatuses => exact absurd hstatuses hne
    | answered hours hstatuses hlist => exact ⟨hours, hstatuses, hlist⟩
  have htasks := h.tasks
  cases htask : s.task with
  | none => exact absurd (h.resting (by simp [awaits, htask])).statuses hne
  | some task =>
    rw [htask] at htasks
    cases task with
    | reading index file =>
      exact absurd (h.resting (by simp [awaits, htask, ScriptletTask.call?])).statuses hne
    | adding index file =>
      refine .inl ⟨index, file, rfl, ?_⟩
      obtain ⟨hours, hstatuses, hlist⟩ :=
        hanswered file.add (by simp [awaits, htask, ScriptletTask.call?])
      have hstatus := onStatus_of htasks rfl hstatuses
      rcases add_outcome h.stored file with ⟨hadded, hstored⟩ | ⟨status, hfails, hcode, hrefused⟩
      · have hgoes : s.onStatus = ({ s with
            tasks := []
            statuses := [] }.addScriptletToTable file.dict).importScriptlet (index + 1) := by
          rw [hstatus, hadded]
          rfl
        refine .inl ⟨hgoes, ?_⟩
        rw [hgoes]
        have hdistinct : Distinct { s with
            tasks := []
            statuses := [] } := ⟨h.distinct.nodup, h.distinct.created⟩
        refine mirrors_importScriptlet hstored ?_ (hdistinct.addScriptletToTable file.dict) rfl
          ⟨hours, ?_, ?_⟩ (index + 1)
        · rw [table_addScriptletToTable, List.map_append]
          exact congrArg (· ++ _) h.table
        · rfl
        · exact hlist.trans (by rw [hadded]; rfl)
      · have hends : s.onStatus = { s with
            tasks := []
            statuses := [] } := by
          rw [hstatus, hfails]
          exact if_pos hcode
        refine .inr ⟨hends, h.table ▸ hrefused, ?_⟩
        rw [hends]
        refine ⟨h.stored, h.table, ⟨h.distinct.nodup, h.distinct.created⟩, rfl, by simp [task],
          (going_of_none rfl).mpr ⟨hours, rfl, ?_⟩⟩
        exact hlist.trans (by rw [hfails]; rfl)
    | removing element name =>
      obtain ⟨row, hmem, rfl, rfl⟩ := h.removing element name htask
      obtain ⟨position, hrow⟩ := List.getElem?_of_mem hmem
      refine .inr ⟨row.element, row.values.name, position, rfl, ?_⟩
      obtain ⟨hours, hstatuses, hlist⟩ :=
        hanswered (.removeResource kStorageScriptletsKey row.values.name)
          (by simp [awaits, htask, ScriptletTask.call?])
      have hshown : (scriptlets.map scriptletRow)[position]? = some row.values := by
        rw [← h.table, ScriptletPage.table, List.getElem?_map, hrow]
        rfl
      obtain ⟨hremoved, hstored⟩ := remove_outcome h.stored hshown
      have hstatus : s.onStatus = { s with
          tasks := []
          statuses := []
          rows := s.rows.eraseIdx position } := by
        rw [onStatus_of htasks rfl hstatuses, hremoved, ← filter_element h.distinct.nodup hrow]
        rfl
      rw [hstatus]
      refine ⟨hstored, ?_, ⟨?_, ?_⟩, rfl, by simp [task], (going_of_none rfl).mpr ⟨hours, rfl, ?_⟩⟩
      · rw [ScriptletPage.table, ← List.eraseIdx_map, ← List.eraseIdx_map]
        exact congrArg (·.eraseIdx position) h.table
      · exact h.distinct.nodup.sublist ((List.eraseIdx_sublist _ _).map _)
      · exact fun other hother => h.distinct.created other (List.mem_of_mem_eraseIdx hother)
      · exact hlist.trans (by rw [hremoved]; rfl)

theorem Mirrors.step (h : s.Mirrors scriptlets) {e : ScriptletEvent} (henabled : s.enabled e)
    (hturn : s.inTurn e) : ∃ scriptlets', (s.step e).Mirrors scriptlets' := by
  cases e with
  | chooseFiles files =>
    refine ⟨scriptlets, h.stored, h.table, ⟨h.distinct.nodup, h.distinct.created⟩, h.tasks,
      h.removing, ?_⟩
    have hgoing := h.going
    cases hawaits : s.awaits with
    | none =>
      obtain ⟨hours, hstatuses, hlist⟩ := h.resting hawaits
      exact (going_of_none (s := { s with files := files }) hawaits).mpr ⟨hours, hstatuses, hlist⟩
    | some call =>
      refine (going_of_some (s := { s with files := files }) hawaits).mpr ?_
      cases (going_of_some hawaits).mp hgoing with
      | asked hvalid hours hstatuses hlist => exact .asked hvalid hours hstatuses hlist
      | answered hours hstatuses hlist => exact .answered hours hstatuses hlist
  | clickImport =>
    have hnone : s.tasks = [] := hturn
    exact ⟨scriptlets, mirrors_importScriptlet h.stored h.table h.distinct hnone
      (h.resting (by simp [awaits, task, hnone])) 0⟩
  | clickRemove position => exact ⟨scriptlets, h.clickRemove hturn henabled⟩
  | onload position =>
    obtain ⟨-, -, -, hmirrors, -⟩ := h.onload henabled
    exact ⟨scriptlets, hmirrors⟩
  | onStatus =>
    rcases h.onStatus henabled with ⟨index, file, -, hadding⟩ | ⟨_, _, position, -, hremoved⟩
    · rcases hadding with ⟨-, hadded⟩ | ⟨-, -, hrefused⟩
      · exact ⟨_, hadded⟩
      · exact ⟨_, hrefused⟩
    · exact ⟨_, hremoved⟩
  | call call => exact ⟨scriptlets, h.aside (aside_call henabled)⟩
  | execute => exact ⟨scriptlets, h.aside (aside_execute s.provider)⟩
  | handleReply => exact ⟨scriptlets, h.handleReply henabled⟩

/-- What an import has done so far: it is at a file, and the files before it are in the table; or it
has ended, because there is no further file or the next one is refused. -/
inductive Importing (start : List ScriptletRow) (files : List ScriptletFile) (s : ScriptletPage) :
    Prop
  | atFile (index : Nat) (file : ScriptletFile)
      (task : s.task = some (.reading index file) ∨ s.task = some (.adding index file))
      (chosen : s.files = files) (file_eq : files[index]? = some file)
      (table : s.table = start ++ (files.take index).map fun file => scriptletRow file.dict)
  | ended (count : Nat) (task : s.task = none) (count_le : count ≤ files.length)
      (table : s.table = start ++ (files.take count).map fun file => scriptletRow file.dict)
      (refused : ∀ file, files[count]? = some file → file.Refused s.table)

/-- The events that are no clicks, and leave what is chosen. -/
def ofItself : ScriptletEvent → Bool
  | .chooseFiles _ | .clickImport | .clickRemove _ => false
  | _ => true

variable {start : List ScriptletRow} {files : List ScriptletFile}

theorem importing_importScriptlet {index : Nat} (hindex : index ≤ files.length)
    (hnone : s.tasks = []) (hfiles : s.files = files)
    (htable : s.table = start ++ (files.take index).map fun file => scriptletRow file.dict) :
    Importing start files (s.importScriptlet index) := by
  unfold importScriptlet
  rw [hfiles]
  cases hfile : files[index]? with
  | none => exact .ended index (by simp [task, hnone]) hindex htable (by simp [hfile])
  | some file => exact .atFile index file (.inl (by simp [task, hnone])) rfl hfile htable

/-- The provider goes on. -/
theorem Importing.hear (h : Importing start files s) (next : CustomResourceProvider) :
    Importing start files (s.hear next) := by
  cases h with
  | atFile index file htask hfiles hfile htable =>
    exact .atFile index file htask hfiles hfile htable
  | ended count htask hcount htable hrefused => exact .ended count htask hcount htable hrefused

theorem Importing.step (h : Importing start files s) (hmirrors : s.Mirrors scriptlets)
    {e : ScriptletEvent} (hitself : ofItself e = true) (henabled : s.enabled e) :
    Importing start files (s.step e) := by
  cases e with
  | chooseFiles files => simp [ofItself] at hitself
  | clickImport => simp [ofItself] at hitself
  | clickRemove position => simp [ofItself] at hitself
  | onload position =>
    obtain ⟨index, file, htask, -, hnext, htable', hfiles'⟩ := hmirrors.onload henabled
    cases h with
    | atFile i other hat hfiles hfile htable =>
      obtain ⟨rfl, rfl⟩ : index = i ∧ file = other := by simpa [htask] using hat
      exact .atFile index file (.inr hnext) (hfiles'.trans hfiles) hfile (htable'.trans htable)
    | ended count hnone => simp [htask] at hnone
  | onStatus =>
    rcases hmirrors.onStatus henabled with ⟨index, file, htask, hadding⟩ | ⟨_, _, _, htask, -⟩
    · cases h with
      | atFile i other hat hfiles hfile htable =>
        obtain ⟨rfl, rfl⟩ : index = i ∧ file = other := by simpa [htask] using hat
        obtain ⟨hlt, -⟩ := List.getElem?_eq_some_iff.mp hfile
        show Importing start files s.onStatus
        rcases hadding with ⟨hadded, -⟩ | ⟨hended, hrefused, -⟩
        · rw [hadded]
          refine importing_importScriptlet hlt rfl hfiles ?_
          rw [table_addScriptletToTable, List.take_add_one, hfile]
          show s.table ++ _ = _
          simp [htable]
        · rw [hended]
          refine .ended index rfl (by omega) htable fun other hother => ?_
          obtain rfl : file = other := Option.some.inj (hfile.symm.trans hother)
          exact hrefused
      | ended count hnone => simp [htask] at hnone
    · cases h with
      | atFile i other hat => simp [htask] at hat
      | ended count hnone => simp [htask] at hnone
  | call call => exact h.hear (s.provider.call call)
  | execute => exact h.hear s.provider.execute
  | handleReply => exact h.hear s.provider.handleReply

variable {es fs : List ScriptletEvent} {t : ScriptletPage}

theorem Mirrors.run (run : Run (machine.restrict inTurn) s es t) (h : s.Mirrors scriptlets) :
    ∃ scriptlets', t.Mirrors scriptlets' := by
  refine run.preserves (P := fun s => ∃ scriptlets, s.Mirrors scriptlets) ?_ ⟨scriptlets, h⟩
  rintro s e s' ⟨henabled, hturn⟩ hstep ⟨scriptlets, h⟩
  cases hstep
  exact h.step henabled hturn

theorem Importing.run (run : Run (machine.restrict inTurn) s es t) (h : Importing start files s)
    (hmirrors : s.Mirrors scriptlets) (hes : ∀ e ∈ es, ofItself e = true) :
    Importing start files t := by
  induction run generalizing scriptlets with
  | nil => exact h
  | @cons s s' t e es henabled hstep _ ih =>
    obtain ⟨he, hes⟩ := List.forall_mem_cons.mp hes
    cases hstep
    obtain ⟨scriptlets', hmirrors'⟩ := hmirrors.step henabled.1 henabled.2
    exact ih (h.step hmirrors he henabled.1) hmirrors' hes

end ScriptletPage

end ChromiumAdblock
