import Mathlib.Logic.Function.Basic
import ChromiumAdblock.Net.RequestInfo

/-! `BraveRequestHandler`: the filters of a phase of a request are run one after the other, where
each may answer at once or later through `next_callback`, and then the completion callback of the
phase is posted.  Contexts live at addresses here, so that a context can outlive its phase or die
before the reply that a filter waits for. -/

namespace ChromiumAdblock

/-- How the handler holds a context: shared with everyone who uses it, or weakly, in which case it
dies with the request that owns it or when that request gets a new one. -/
inductive PointerKind
  | sharedPtr
  | weakPtr
deriving DecidableEq, Repr

/-- The number of filters of each kind. -/
structure FilterLists where
  beforeUrlRequest : Nat
  beforeStartTransaction : Nat
  headersReceived : Nat
deriving DecidableEq, Repr

def setupCallbacks (features : Features) : FilterLists where
  beforeUrlRequest := 1
  beforeStartTransaction := 0
  headersReceived := if features.kBraveAdblockCspRules then 1 else 0

/-- The number of filters for an event; only three events have filters. -/
def FilterLists.count (filters : FilterLists) : BraveNetworkDelegateEventType → Nat
  | .kOnBeforeRequest => filters.beforeUrlRequest
  | .kOnBeforeStartTransaction => filters.beforeStartTransaction
  | .kOnHeadersReceived => filters.headersReceived
  | _ => 0

/-- What a filter decides about a request. -/
structure Decision where
  blockedBy : BlockedBy := .kNotBlocked
  mockDataUrl : String := ""
  newUrlSpec : String := ""
  newReferrer : Option GURL := none
  pendingError : Option Int := none
deriving DecidableEq, Repr

/-- The decision that a context holds. -/
def BraveRequestInfo.decision (ctx : BraveRequestInfo) : Decision where
  blockedBy := ctx.blockedBy
  mockDataUrl := ctx.mockDataUrl
  newUrlSpec := ctx.newUrlSpec
  newReferrer := ctx.newReferrer
  pendingError := ctx.pendingError

/-- The context after a filter has left its decision there, if it made one. -/
def BraveRequestInfo.decide (ctx : BraveRequestInfo) : Option Decision → BraveRequestInfo
  | none => ctx
  | some d =>
    { ctx with
      blockedBy := d.blockedBy
      mockDataUrl := d.mockDataUrl
      newUrlSpec := d.newUrlSpec
      newReferrer := d.newReferrer
      pendingError := d.pendingError }

/-- What a filter returns when it is run, and the decision it leaves in the context. -/
structure FilterAnswer where
  rv : Int
  decision : Option Decision := none
deriving DecidableEq, Repr

/-- A context at an address.  `waiting` says that a filter holds a `next_callback` for it that has
not run, and `result` is what its phase completed with. -/
structure Cell where
  info : BraveRequestInfo
  alive : Bool := true
  waiting : Bool := false
  result : Option Int := none
deriving DecidableEq, Repr

/-- A completion that was posted: the callback, its argument, and the context that decided it. -/
structure Completion (κ : Type) where
  callback : κ
  rv : Int
  ctx : Nat
deriving DecidableEq, Repr

/-- The handler with the contexts it is called with.  An entry `some none` of `callbacks` is one
whose callback was moved out.  `posted` are the tasks on the UI thread's queue. -/
structure RequestHandler (κ : Type) where
  callbacks : Nat → Option (Option κ)
  ctxs : Nat → Option Cell
  nextCtx : Nat
  posted : List (Completion κ)

/-- What would be undefined behaviour or a crash in the handler. -/
inductive HandlerFault
  | missingEntry
  | movedOutCallback
  | indexOverrun
deriving DecidableEq, Repr

/-- The next filter is run: the context with its decision and the advanced index, and what it
returned. -/
def askFilter (answers : Nat → FilterAnswer) (ctx : BraveRequestInfo) : BraveRequestInfo × Int :=
  let index := ctx.nextUrlRequestIndex
  let answer := answers index
  ({ ctx with nextUrlRequestIndex := index + 1 }.decide answer.decision, answer.rv)

/-- The rest of the filter loop, with `remaining` filters to run: up to one that is pending or does
not return `OK`. -/
def runFilters (answers : Nat → FilterAnswer) : Nat → BraveRequestInfo → BraveRequestInfo × Int
  | 0, ctx => (ctx, Net.OK)
  | remaining + 1, ctx =>
    let asked := askFilter answers ctx
    if asked.2 = Net.ERR_IO_PENDING then asked
    else if asked.2 ≠ Net.OK then asked
    else runFilters answers remaining asked.1

/-- Where the filters of a context have got to. -/
inductive Progress
  | pending (info : BraveRequestInfo)
  | complete (info : BraveRequestInfo) (rv : Int) (newUrl : Option GURL)
deriving DecidableEq, Repr

/-- The end of `RunNextCallback`, after the filters returned `rv`: the URL that is written to
`new_url`, and the argument of the completion callback. -/
def finishFilters (lib : UrlLibrary) (info : BraveRequestInfo) (rv : Int) : Progress :=
  if rv ≠ Net.OK then .complete info rv none
  else if info.eventType = .kOnBeforeRequest then
    let newUrl :=
      if info.newUrlSpec ≠ "" ∧ info.newUrlSpec ≠ info.requestUrl.spec then
        some (lib.parse info.newUrlSpec)
      else none
    if (info.blockedBy = .kAdBlocked ∨ info.blockedBy = .kOtherBlocked) ∧
        info.shouldMockRequest = false then
      .complete info Net.ERR_BLOCKED_BY_CLIENT newUrl
    else .complete info rv newUrl
  else .complete info rv none

/-- What `RunNextCallback` does with a context whose identifier has an entry.  The loop `while (size
!= index)` runs past the end of the filters where the index is larger than their number. -/
def advance (lib : UrlLibrary) (filters : FilterLists) (answers : Nat → FilterAnswer)
    (info : BraveRequestInfo) : Except HandlerFault Progress :=
  match info.pendingError with
  | some error => .ok (.complete info error none)
  | none =>
    let size := filters.count info.eventType
    if size < info.nextUrlRequestIndex then .error .indexOverrun
    else
      let (info, rv) := runFilters answers (size - info.nextUrlRequestIndex) info
      if rv = Net.ERR_IO_PENDING then .ok (.pending info) else .ok (finishFilters lib info rv)

def isInternalScheme (url : GURL) : Bool := url.schemeIs "chrome-extension" || url.schemeIs "chrome"

namespace RequestHandler

variable {κ : Type}

def init : RequestHandler κ := ⟨fun _ => none, fun _ => none, 0, []⟩

def setCell (h : RequestHandler κ) (a : Nat) (cell : Cell) : RequestHandler κ :=
  { h with ctxs := Function.update h.ctxs a (some cell) }

def setEntry (h : RequestHandler κ) (id : Nat) (entry : Option (Option κ)) : RequestHandler κ :=
  { h with callbacks := Function.update h.callbacks id entry }

def post (h : RequestHandler κ) (completion : Completion κ) : RequestHandler κ :=
  { h with posted := h.posted ++ [completion] }

/-- A new context is put at the next address. -/
def newCtx (h : RequestHandler κ) (info : BraveRequestInfo) : RequestHandler κ :=
  { h.setCell h.nextCtx { info := info } with nextCtx := h.nextCtx + 1 }

/-- The owner of a context that is held weakly lets go of it. -/
def killCtx (h : RequestHandler κ) (a : Nat) : RequestHandler κ :=
  match h.ctxs a with
  | some cell => h.setCell a { cell with alive := false }
  | none => h

def isRequestIdentifierValid (h : RequestHandler κ) (id : Nat) : Bool := (h.callbacks id).isSome

/-- `RunCallbackForRequestIdentifier`, for the phase of the context at `a`: the callback is moved
out of the entry, which stays, and posted. -/
def runCallbackForRequestIdentifier (h : RequestHandler κ) (id : Nat) (rv : Int) (a : Nat) :
    Except HandlerFault (RequestHandler κ) :=
  match h.callbacks id with
  | none => .error .missingEntry
  | some none => .error .movedOutCallback
  | some (some callback) => .ok ((h.setEntry id (some none)).post ⟨callback, rv, a⟩)

/-- `RunNextCallback`, with the URL that it writes to `new_url` of the request of the context. -/
def runNextCallback (lib : UrlLibrary) (filters : FilterLists) (answers : Nat → FilterAnswer)
    (h : RequestHandler κ) (a : Nat) : Except HandlerFault (RequestHandler κ × Option GURL) :=
  match h.ctxs a with
  | none => .ok (h, none)
  | some cell =>
    if cell.alive = false then .ok (h, none)
    else if h.isRequestIdentifierValid cell.info.requestIdentifier = false then .ok (h, none)
    else
      match advance lib filters answers cell.info with
      | .error fault => .error fault
      | .ok (.pending info) => .ok (h.setCell a { cell with info := info, waiting := true }, none)
      | .ok (.complete info rv newUrl) =>
        match runCallbackForRequestIdentifier
            (h.setCell a { cell with info := info, result := some rv })
            info.requestIdentifier rv a with
        | .error fault => .error fault
        | .ok h => .ok (h, newUrl)

/-- What a call that starts a phase returns, and what it writes to `new_url` meanwhile. -/
structure Reply (κ : Type) where
  handler : RequestHandler κ
  newUrl : Option GURL
  result : Int

/-- A phase that no filter delays. -/
def replyOK (h : RequestHandler κ) (a : Nat) : Reply κ :=
  match h.ctxs a with
  | some cell => ⟨h.setCell a { cell with result := some Net.OK }, none, Net.OK⟩
  | none => ⟨h, none, Net.OK⟩

/-- The common part of the three phases: the callback is entered and the filters are run. -/
def startPhase (lib : UrlLibrary) (filters : FilterLists) (answers : Nat → FilterAnswer)
    (eventType : BraveNetworkDelegateEventType) (h : RequestHandler κ) (a : Nat) (cell : Cell)
    (callback : κ) : Except HandlerFault (Reply κ) :=
  let info := { cell.info with eventType := eventType }
  let h := (h.setCell a { cell with info := info }).setEntry info.requestIdentifier
    (some (some callback))
  match h.runNextCallback lib filters answers a with
  | .error fault => .error fault
  | .ok (h, newUrl) => .ok ⟨h, newUrl, Net.ERR_IO_PENDING⟩

def onBeforeURLRequest (lib : UrlLibrary) (filters : FilterLists) (answers : Nat → FilterAnswer)
    (h : RequestHandler κ) (a : Nat) (callback : κ) : Except HandlerFault (Reply κ) :=
  match h.ctxs a with
  | none => .ok (h.replyOK a)
  | some cell =>
    if cell.alive = false ∨ filters.beforeUrlRequest = 0 ∨
        isInternalScheme cell.info.requestUrl then
      .ok (h.replyOK a)
    else startPhase lib filters answers .kOnBeforeRequest h a cell callback

def onBeforeStartTransaction (lib : UrlLibrary) (filters : FilterLists)
    (answers : Nat → FilterAnswer) (h : RequestHandler κ) (a : Nat) (callback : κ) :
    Except HandlerFault (Reply κ) :=
  match h.ctxs a with
  | none => .ok (h.replyOK a)
  | some cell =>
    if cell.alive = false ∨ filters.beforeStartTransaction = 0 ∨
        isInternalScheme cell.info.requestUrl then
      .ok (h.replyOK a)
    else startPhase lib filters answers .kOnBeforeStartTransaction h a cell callback

def onHeadersReceived (lib : UrlLibrary) (filters : FilterLists) (answers : Nat → FilterAnswer)
    (h : RequestHandler κ) (a : Nat) (callback : κ) : Except HandlerFault (Reply κ) :=
  match h.ctxs a with
  | none => .ok (h.replyOK a)
  | some cell =>
    if cell.alive = false ∨
        (filters.headersReceived = 0 ∧ cell.info.requestUrl.schemeIs "chrome" = false) then
      .ok (h.replyOK a)
    else startPhase lib filters answers .kOnHeadersReceived h a cell callback

def onURLRequestDestroyed (h : RequestHandler κ) (a : Nat) : RequestHandler κ :=
  match h.ctxs a with
  | some cell => h.setEntry cell.info.requestIdentifier none
  | none => h

/-- The owner of a context replaces it: one that is held weakly dies, after the handler was told. -/
def releaseCtx (h : RequestHandler κ) (kind : PointerKind) (ctx : Option Nat) : RequestHandler κ :=
  match kind, ctx with
  | .weakPtr, some a => (h.onURLRequestDestroyed a).killCtx a
  | _, _ => h

/-- A filter runs the `next_callback` that it held for the context at `a`.  If the context is alive,
the filter has left its decision there before. -/
def resume (lib : UrlLibrary) (filters : FilterLists) (answers : Nat → FilterAnswer)
    (h : RequestHandler κ) (a : Nat) (decision : Option Decision) :
    Except HandlerFault (RequestHandler κ × Option GURL) :=
  match h.ctxs a with
  | none => .ok (h, none)
  | some cell =>
    let info := if cell.alive then cell.info.decide decision else cell.info
    (h.setCell a { cell with info := info, waiting := false }).runNextCallback lib filters answers a

/-! What the operations do, for the proofs about runs. -/

section Cells

variable (h : RequestHandler κ) (a b : Nat) (cell : Cell)

@[simp] theorem setCell_ctxs_self : (h.setCell a cell).ctxs a = some cell := by
  simp [setCell]

theorem setCell_ctxs_of_ne (hne : b ≠ a) : (h.setCell a cell).ctxs b = h.ctxs b := by
  simp [setCell, hne]

/-- A context is the one that was set, or another, which was there before. -/
theorem setCell_cases {c : Cell} (hc : (h.setCell a cell).ctxs b = some c) :
    (b = a ∧ c = cell) ∨ (b ≠ a ∧ h.ctxs b = some c) := by
  by_cases hba : b = a
  · subst hba
    exact .inl ⟨rfl, (Option.some.inj ((setCell_ctxs_self h b cell).symm.trans hc)).symm⟩
  · exact .inr ⟨hba, by rwa [setCell_ctxs_of_ne _ _ _ _ hba] at hc⟩

@[simp] theorem setCell_callbacks : (h.setCell a cell).callbacks = h.callbacks := rfl
@[simp] theorem setCell_nextCtx : (h.setCell a cell).nextCtx = h.nextCtx := rfl
@[simp] theorem setCell_posted : (h.setCell a cell).posted = h.posted := rfl

@[simp] theorem setEntry_ctxs (id : Nat) (entry : Option (Option κ)) :
    (h.setEntry id entry).ctxs = h.ctxs := rfl
@[simp] theorem setEntry_nextCtx (id : Nat) (entry : Option (Option κ)) :
    (h.setEntry id entry).nextCtx = h.nextCtx := rfl
@[simp] theorem setEntry_posted (id : Nat) (entry : Option (Option κ)) :
    (h.setEntry id entry).posted = h.posted := rfl
@[simp] theorem setEntry_callbacks_self (id : Nat) (entry : Option (Option κ)) :
    (h.setEntry id entry).callbacks id = entry := by simp [setEntry]

theorem setEntry_callbacks_of_ne {id other : Nat} (entry : Option (Option κ)) (hne : other ≠ id) :
    (h.setEntry id entry).callbacks other = h.callbacks other := by simp [setEntry, hne]

@[simp] theorem post_callbacks (p : Completion κ) : (h.post p).callbacks = h.callbacks := rfl
@[simp] theorem post_ctxs (p : Completion κ) : (h.post p).ctxs = h.ctxs := rfl
@[simp] theorem post_nextCtx (p : Completion κ) : (h.post p).nextCtx = h.nextCtx := rfl
@[simp] theorem post_posted (p : Completion κ) : (h.post p).posted = h.posted ++ [p] := rfl

@[simp] theorem newCtx_callbacks (info : BraveRequestInfo) :
    (h.newCtx info).callbacks = h.callbacks := rfl
@[simp] theorem newCtx_nextCtx (info : BraveRequestInfo) :
    (h.newCtx info).nextCtx = h.nextCtx + 1 := rfl
@[simp] theorem newCtx_posted (info : BraveRequestInfo) : (h.newCtx info).posted = h.posted := rfl

@[simp] theorem newCtx_ctxs_self (info : BraveRequestInfo) :
    (h.newCtx info).ctxs h.nextCtx = some { info := info } := setCell_ctxs_self _ _ _

theorem newCtx_ctxs_of_ne (info : BraveRequestInfo) (hne : b ≠ h.nextCtx) :
    (h.newCtx info).ctxs b = h.ctxs b := setCell_ctxs_of_ne _ _ _ _ hne

@[simp] theorem killCtx_callbacks : (h.killCtx a).callbacks = h.callbacks := by
  unfold killCtx; split <;> rfl
@[simp] theorem killCtx_nextCtx : (h.killCtx a).nextCtx = h.nextCtx := by
  unfold killCtx; split <;> rfl
@[simp] theorem killCtx_posted : (h.killCtx a).posted = h.posted := by
  unfold killCtx; split <;> rfl

/-- A context after its owner let go of one at `a`. -/
theorem killCtx_ctxs : (h.killCtx a).ctxs b =
    if b = a then (h.ctxs a).map fun cell => { cell with alive := false } else h.ctxs b := by
  unfold killCtx
  cases ha : h.ctxs a with
  | none =>
    by_cases hb : b = a
    · simp [hb, ha]
    · simp [hb]
  | some cell =>
    by_cases hb : b = a
    · simp [hb]
    · simp [hb, setCell_ctxs_of_ne]

@[simp] theorem replyOK_result : (h.replyOK a).result = Net.OK := by
  unfold replyOK; split <;> rfl
@[simp] theorem replyOK_newUrl : (h.replyOK a).newUrl = none := by
  unfold replyOK; split <;> rfl

theorem replyOK_ctxs_of_ne (hne : b ≠ a) : (h.replyOK a).handler.ctxs b = h.ctxs b := by
  unfold replyOK
  split
  · exact setCell_ctxs_of_ne _ _ _ _ hne
  · rfl

@[simp] theorem onURLRequestDestroyed_ctxs : (h.onURLRequestDestroyed a).ctxs = h.ctxs := by
  unfold onURLRequestDestroyed; split <;> rfl
@[simp] theorem onURLRequestDestroyed_nextCtx :
    (h.onURLRequestDestroyed a).nextCtx = h.nextCtx := by
  unfold onURLRequestDestroyed; split <;> rfl
@[simp] theorem onURLRequestDestroyed_posted :
    (h.onURLRequestDestroyed a).posted = h.posted := by
  unfold onURLRequestDestroyed; split <;> rfl

theorem onURLRequestDestroyed_eq (ha : h.ctxs a = some cell) :
    h.onURLRequestDestroyed a = h.setEntry cell.info.requestIdentifier none := by
  simp [onURLRequestDestroyed, ha]

@[simp] theorem releaseCtx_nextCtx (kind : PointerKind) (ctx : Option Nat) :
    (h.releaseCtx kind ctx).nextCtx = h.nextCtx := by
  unfold releaseCtx; split <;> simp
@[simp] theorem releaseCtx_posted (kind : PointerKind) (ctx : Option Nat) :
    (h.releaseCtx kind ctx).posted = h.posted := by
  unfold releaseCtx; split <;> simp

theorem releaseCtx_ctxs (kind : PointerKind) (ctx : Option Nat) (ha : h.ctxs a = some cell) :
    ∃ cell', (h.releaseCtx kind ctx).ctxs a = some cell' ∧ cell'.info = cell.info ∧
      cell'.result = cell.result := by
  unfold releaseCtx
  split
  · rename_i b
    rw [killCtx_ctxs, onURLRequestDestroyed_ctxs]
    by_cases hab : a = b
    · exact ⟨{ cell with alive := false }, by simp [← hab, ha], rfl, rfl⟩
    · exact ⟨cell, by simpa [hab] using ha, rfl, rfl⟩
  · exact ⟨cell, ha, rfl, rfl⟩

end Cells

end RequestHandler

/-- The parts of a context that no filter changes. -/
structure SameRequest (info info' : BraveRequestInfo) : Prop where
  requestIdentifier : info'.requestIdentifier = info.requestIdentifier
  requestUrl : info'.requestUrl = info.requestUrl
  eventType : info'.eventType = info.eventType

namespace SameRequest

theorem refl (info : BraveRequestInfo) : SameRequest info info := ⟨rfl, rfl, rfl⟩

theorem trans {a b c : BraveRequestInfo} (hab : SameRequest a b) (hbc : SameRequest b c) :
    SameRequest a c where
  requestIdentifier := hbc.requestIdentifier.trans hab.requestIdentifier
  requestUrl := hbc.requestUrl.trans hab.requestUrl
  eventType := hbc.eventType.trans hab.eventType

theorem decide (info : BraveRequestInfo) (decision : Option Decision) :
    SameRequest info (info.decide decision) := by
  cases decision <;> exact ⟨rfl, rfl, rfl⟩

end SameRequest

@[simp] theorem BraveRequestInfo.decide_nextUrlRequestIndex (info : BraveRequestInfo)
    (decision : Option Decision) :
    (info.decide decision).nextUrlRequestIndex = info.nextUrlRequestIndex := by
  cases decision <;> rfl

theorem askFilter_spec (answers : Nat → FilterAnswer) (info : BraveRequestInfo) :
    SameRequest info (askFilter answers info).1 ∧
      (askFilter answers info).1.nextUrlRequestIndex = info.nextUrlRequestIndex + 1 := by
  let next := { info with nextUrlRequestIndex := info.nextUrlRequestIndex + 1 }
  have hnext : SameRequest info next := ⟨rfl, rfl, rfl⟩
  exact ⟨hnext.trans (.decide next _), BraveRequestInfo.decide_nextUrlRequestIndex next _⟩

theorem runFilters_spec (answers : Nat → FilterAnswer) (remaining : Nat) (info : BraveRequestInfo) :
    SameRequest info (runFilters answers remaining info).1 ∧
      (runFilters answers remaining info).1.nextUrlRequestIndex ≤
        info.nextUrlRequestIndex + remaining := by
  induction remaining generalizing info with
  | zero => exact ⟨.refl _, Nat.le_refl _⟩
  | succ remaining ih =>
    obtain ⟨hasked, hindex⟩ := askFilter_spec answers info
    rw [runFilters]
    split
    · exact ⟨hasked, by omega⟩
    · split
      · exact ⟨hasked, by omega⟩
      · obtain ⟨hsame, hle⟩ := ih (askFilter answers info).1
        exact ⟨hasked.trans hsame, by omega⟩

/-- The context that the filters leave. -/
def Progress.info : Progress → BraveRequestInfo
  | .pending info => info
  | .complete info _ _ => info

@[simp] theorem finishFilters_info (lib : UrlLibrary) (info : BraveRequestInfo) (rv : Int) :
    (finishFilters lib info rv).info = info := by
  unfold finishFilters
  split
  · rfl
  · split
    · dsimp only
      split <;> rfl
    · rfl

/-- With the index within the list, the filters run to the end of the list at most. -/
theorem advance_ok (lib : UrlLibrary) {filters : FilterLists} (answers : Nat → FilterAnswer)
    {info : BraveRequestInfo} (h : info.nextUrlRequestIndex ≤ filters.count info.eventType) :
    ∃ progress, advance lib filters answers info = .ok progress ∧
      SameRequest info progress.info ∧
      progress.info.nextUrlRequestIndex ≤ filters.count info.eventType := by
  cases herror : info.pendingError with
  | some error => exact ⟨.complete info error none, by simp [advance, herror], .refl _, h⟩
  | none =>
    obtain ⟨hsame, hle⟩ :=
      runFilters_spec answers (filters.count info.eventType - info.nextUrlRequestIndex) info
    have hsize : ¬filters.count info.eventType < info.nextUrlRequestIndex := by omega
    simp only [advance, herror, if_neg hsize]
    split
    · exact ⟨_, rfl, hsame, by simp only [Progress.info]; omega⟩
    · exact ⟨_, rfl, by simpa using hsame, by simp only [finishFilters_info]; omega⟩

namespace RequestHandler

variable {κ : Type} {lib : UrlLibrary} {filters : FilterLists} {answers : Nat → FilterAnswer}
  {h h' : RequestHandler κ} {a : Nat} {newUrl : Option GURL}

/-- The handler after the filters of the context at `a` completed its phase. -/
def completed (h : RequestHandler κ) (a : Nat) (cell : Cell) (info : BraveRequestInfo) (rv : Int)
    (callback : κ) : RequestHandler κ :=
  ((h.setCell a { cell with info := info, result := some rv }).setEntry info.requestIdentifier
    (some none)).post ⟨callback, rv, a⟩

variable (lib answers) in
/-- `runNextCallback` for a live context whose identifier has its callback: it runs the filters, and
either one is pending or the callback is posted. -/
theorem runNextCallback_live {cell : Cell} {callback : κ} (hcell : h.ctxs a = some cell)
    (halive : cell.alive = true)
    (hentry : h.callbacks cell.info.requestIdentifier = some (some callback))
    (hindex : cell.info.nextUrlRequestIndex ≤ filters.count cell.info.eventType) :
    ∃ progress, advance lib filters answers cell.info = .ok progress ∧
      SameRequest cell.info progress.info ∧
      progress.info.nextUrlRequestIndex ≤ filters.count cell.info.eventType ∧
      h.runNextCallback lib filters answers a =
        match progress with
        | .pending info => .ok (h.setCell a { cell with info := info, waiting := true }, none)
        | .complete info rv newUrl => .ok (h.completed a cell info rv callback, newUrl) := by
  obtain ⟨progress, hadvance, hsame, hle⟩ := advance_ok lib answers hindex
  refine ⟨progress, hadvance, hsame, hle, ?_⟩
  have hvalid : h.isRequestIdentifierValid cell.info.requestIdentifier = true := by
    simp [isRequestIdentifierValid, hentry]
  simp only [runNextCallback, hcell]
  rw [if_neg (by simp [halive]), if_neg (by simp [hvalid]), hadvance]
  cases progress with
  | pending info => rfl
  | complete info rv newUrl =>
    have hid : info.requestIdentifier = cell.info.requestIdentifier := hsame.requestIdentifier
    simp [runCallbackForRequestIdentifier, hid, hentry, completed]

/-- `runNextCallback` does nothing for a context that is dead, or whose identifier was destroyed. -/
theorem runNextCallback_skip
    (hskip : ∀ cell, h.ctxs a = some cell → cell.alive = true →
      h.callbacks cell.info.requestIdentifier = none) :
    h.runNextCallback lib filters answers a = .ok (h, none) := by
  cases hcell : h.ctxs a with
  | none => simp [runNextCallback, hcell]
  | some cell =>
    cases halive : cell.alive with
    | false => simp [runNextCallback, hcell, halive]
    | true =>
      simp [runNextCallback, hcell, halive, isRequestIdentifierValid, hskip cell hcell halive]

theorem advance_same {info : BraveRequestInfo} {progress : Progress}
    (hadvance : advance lib filters answers info = .ok progress) :
    SameRequest info progress.info := by
  unfold advance at hadvance
  split at hadvance
  · obtain rfl := Except.ok.inj hadvance
    exact .refl _
  · dsimp only at hadvance
    split at hadvance
    · contradiction
    · have hsame := (runFilters_spec answers
        (filters.count info.eventType - info.nextUrlRequestIndex) info).1
      split at hadvance
      · obtain rfl := Except.ok.inj hadvance
        exact hsame
      · obtain rfl := Except.ok.inj hadvance
        simpa using hsame

theorem advance_pending (info : BraveRequestInfo) (herror : info.pendingError = none)
    (hindex : info.nextUrlRequestIndex < filters.count info.eventType)
    (hanswer : answers info.nextUrlRequestIndex = ⟨Net.ERR_IO_PENDING, none⟩) :
    advance lib filters answers info =
      .ok (.pending { info with nextUrlRequestIndex := info.nextUrlRequestIndex + 1 }) := by
  obtain ⟨remaining, hremaining⟩ :
      ∃ n, filters.count info.eventType - info.nextUrlRequestIndex = n + 1 :=
    ⟨filters.count info.eventType - info.nextUrlRequestIndex - 1, by omega⟩
  have hsize : ¬filters.count info.eventType < info.nextUrlRequestIndex := by omega
  simp only [advance, herror, if_neg hsize, hremaining, runFilters, askFilter, hanswer]
  rfl

theorem advance_end {info : BraveRequestInfo} (herror : info.pendingError = none)
    (hindex : info.nextUrlRequestIndex = filters.count info.eventType) :
    advance lib filters answers info = .ok (finishFilters lib info Net.OK) := by
  simp only [advance, herror, hindex, Nat.sub_self, runFilters]
  rw [if_neg (Nat.lt_irrefl _), if_neg (by decide)]

/-- What a run of `runNextCallback` that does not fault can have done. -/
theorem runNextCallback_cases (hrun : h.runNextCallback lib filters answers a = .ok (h', newUrl)) :
    (h' = h ∧ newUrl = none ∧ ∀ cell, h.ctxs a = some cell → cell.alive = true →
      h.callbacks cell.info.requestIdentifier = none) ∨
    ∃ cell progress, h.ctxs a = some cell ∧ cell.alive = true ∧
      (h.callbacks cell.info.requestIdentifier).isSome = true ∧
      advance lib filters answers cell.info = .ok progress ∧
      match progress with
      | .pending info =>
        h' = h.setCell a { cell with info := info, waiting := true } ∧ newUrl = none
      | .complete info rv url => newUrl = url ∧
        ∃ callback, h.callbacks cell.info.requestIdentifier = some (some callback) ∧
          h' = h.completed a cell info rv callback := by
  unfold runNextCallback at hrun
  split at hrun
  · rename_i hnone
    obtain ⟨rfl, rfl⟩ := Prod.mk.inj (Except.ok.inj hrun)
    exact .inl ⟨rfl, rfl, fun cell hcell => by simp [hnone] at hcell⟩
  · rename_i cell hcell
    split at hrun
    · rename_i hdead
      obtain ⟨rfl, rfl⟩ := Prod.mk.inj (Except.ok.inj hrun)
      refine .inl ⟨rfl, rfl, fun c hc halive => ?_⟩
      obtain rfl : cell = c := by simpa [hcell] using hc
      simp [hdead] at halive
    · rename_i halive
      split at hrun
      · rename_i hinvalid
        obtain ⟨rfl, rfl⟩ := Prod.mk.inj (Except.ok.inj hrun)
        refine .inl ⟨rfl, rfl, fun c hc _ => ?_⟩
        obtain rfl : cell = c := by simpa [hcell] using hc
        simpa [isRequestIdentifierValid] using hinvalid
      · rename_i hvalid
        have hvalid' : (h.callbacks cell.info.requestIdentifier).isSome = true := by
          simpa only [isRequestIdentifierValid, Bool.not_eq_false] using hvalid
        refine .inr ?_
        split at hrun
        · contradiction
        · rename_i info hadvance
          obtain ⟨rfl, rfl⟩ := Prod.mk.inj (Except.ok.inj hrun)
          exact ⟨cell, _, hcell, by simpa using halive, hvalid', hadvance, rfl, rfl⟩
        · rename_i info rv url hadvance
          have hid : info.requestIdentifier = cell.info.requestIdentifier :=
            (advance_same hadvance).requestIdentifier
          refine ⟨cell, _, hcell, by simpa using halive, hvalid', hadvance, ?_⟩
          unfold runCallbackForRequestIdentifier at hrun
          rw [setCell_callbacks, hid] at hrun
          cases hentry : h.callbacks cell.info.requestIdentifier with
          | none => simp [hentry] at hrun
          | some entry =>
            cases entry with
            | none => simp [hentry] at hrun
            | some callback =>
              simp only [hentry] at hrun
              obtain ⟨rfl, rfl⟩ := Prod.mk.inj (Except.ok.inj hrun)
              exact ⟨rfl, callback, rfl, by rw [completed, hid]⟩

/-- The handler when a phase has entered its callback and no filter has run. -/
def entered (h : RequestHandler κ) (a : Nat) (cell : Cell)
    (eventType : BraveNetworkDelegateEventType) (callback : κ) : RequestHandler κ :=
  (h.setCell a { cell with info := { cell.info with eventType := eventType } }).setEntry
    cell.info.requestIdentifier (some (some callback))

/-- A phase that was started for a live context waits for a filter or has posted its completion. -/
theorem startPhase_cases {eventType : BraveNetworkDelegateEventType} {cell : Cell} {callback : κ}
    {reply : Reply κ} (halive : cell.alive = true)
    (hstart : startPhase lib filters answers eventType h a cell callback = .ok reply) :
    reply.result = Net.ERR_IO_PENDING ∧
    ∃ progress : Progress,
      advance lib filters answers { cell.info with eventType := eventType } = .ok progress ∧
      match progress with
      | .pending info => reply.newUrl = none ∧
        reply.handler = (h.entered a cell eventType callback).setCell a
          { cell with info := info, waiting := true }
      | .complete info rv newUrl => reply.newUrl = newUrl ∧
        reply.handler = (h.entered a cell eventType callback).completed a
          { cell with info := { cell.info with eventType := eventType } } info rv callback := by
  unfold startPhase at hstart
  dsimp only at hstart
  split at hstart
  · contradiction
  · rename_i h' newUrl hrun
    obtain rfl := Except.ok.inj hstart
    refine ⟨rfl, ?_⟩
    have hentry : (h.entered a cell eventType callback).callbacks cell.info.requestIdentifier =
        some (some callback) := setEntry_callbacks_self _ _ _
    have hcell : (h.entered a cell eventType callback).ctxs a =
        some { cell with info := { cell.info with eventType := eventType } } :=
      setCell_ctxs_self _ _ _
    rcases runNextCallback_cases hrun with ⟨-, -, hskip⟩ | ⟨c, progress, hc, -, -, hadvance, hcase⟩
    · exact absurd ((hskip _ hcell halive).symm.trans hentry) (by simp)
    · obtain rfl : { cell with info := { cell.info with eventType := eventType } } = c :=
        Option.some.inj (hcell.symm.trans hc)
      refine ⟨progress, hadvance, ?_⟩
      cases progress with
      | pending info => exact ⟨hcase.2, hcase.1⟩
      | complete info rv url =>
        obtain ⟨hurl, cb, hcb, hh⟩ := hcase
        obtain rfl : callback = cb := by simpa using hcb
        exact ⟨hurl, hh⟩

theorem startPhase_pending {eventType : BraveNetworkDelegateEventType} {cell : Cell} (callback : κ)
    (halive : cell.alive = true) (herror : cell.info.pendingError = none)
    (hindex : cell.info.nextUrlRequestIndex < filters.count eventType)
    (hanswer : answers cell.info.nextUrlRequestIndex = ⟨Net.ERR_IO_PENDING, none⟩) :
    startPhase lib filters answers eventType h a cell callback =
      .ok ⟨(h.entered a cell eventType callback).setCell a { cell with
        info := { cell.info with
          eventType := eventType, nextUrlRequestIndex := cell.info.nextUrlRequestIndex + 1 }
        waiting := true }, none, Net.ERR_IO_PENDING⟩ := by
  let info := { cell.info with eventType := eventType }
  have hcell : (h.entered a cell eventType callback).ctxs a = some { cell with info := info } :=
    setCell_ctxs_self _ _ _
  have hentry : (h.entered a cell eventType callback).callbacks info.requestIdentifier =
      some (some callback) := setEntry_callbacks_self _ _ _
  obtain ⟨progress, hadvance, -, -, hrun⟩ :=
    runNextCallback_live lib answers hcell halive hentry (Nat.le_of_lt hindex)
  obtain rfl := Except.ok.inj (hadvance.symm.trans (advance_pending info herror hindex
    hanswer))
  simp only [entered] at hrun
  simp only [startPhase, hrun]
  rfl

/-- The last filter resumes: the phase is finished, and its completion is posted. -/
theorem resume_end {cell : Cell} {decision : Option Decision} {callback : κ}
    (answers : Nat → FilterAnswer) (hcell : h.ctxs a = some cell) (halive : cell.alive = true)
    (hentry : h.callbacks cell.info.requestIdentifier = some (some callback))
    (herror : (cell.info.decide decision).pendingError = none)
    (hindex : cell.info.nextUrlRequestIndex = filters.count cell.info.eventType)
    {info : BraveRequestInfo} {rv : Int}
    (hfinish : finishFilters lib (cell.info.decide decision) Net.OK = .complete info rv newUrl) :
    h.resume lib filters answers a decision =
      .ok ((h.setCell a { cell with info := cell.info.decide decision, waiting := false }).completed
        a { cell with info := cell.info.decide decision, waiting := false } info rv callback,
        newUrl) := by
  have hsame := SameRequest.decide cell.info decision
  have hset := setCell_ctxs_self h a
    { cell with info := cell.info.decide decision, waiting := false }
  have hend : (cell.info.decide decision).nextUrlRequestIndex =
      filters.count (cell.info.decide decision).eventType := by
    simp [hindex, hsame.eventType]
  obtain ⟨progress, hadvance, -, -, hrun⟩ := runNextCallback_live lib answers hset halive
    (by simpa [hsame.requestIdentifier] using hentry) (Nat.le_of_eq hend)
  obtain rfl := Except.ok.inj (hadvance.symm.trans (advance_end herror hend))
  simp only [resume, hcell]
  rw [if_pos halive, hrun, hfinish]

/-- A live context with a URL of another scheme than the internal ones is put to the filters. -/
theorem onBeforeURLRequest_live {cell : Cell} (callback : κ) (hcell : h.ctxs a = some cell)
    (halive : cell.alive = true) (hfilters : filters.beforeUrlRequest ≠ 0)
    (hscheme : isInternalScheme cell.info.requestUrl = false) :
    h.onBeforeURLRequest lib filters answers a callback =
      startPhase lib filters answers .kOnBeforeRequest h a cell callback := by
  simp [onBeforeURLRequest, hcell, halive, hfilters, hscheme]

theorem onBeforeURLRequest_internal {cell : Cell} (callback : κ) (hcell : h.ctxs a = some cell)
    (hscheme : isInternalScheme cell.info.requestUrl = true) :
    h.onBeforeURLRequest lib filters answers a callback = .ok (h.replyOK a) := by
  simp [onBeforeURLRequest, hcell, hscheme]

/-- `OnBeforeURLRequest` returns `OK` at once, or starts its phase. -/
theorem onBeforeURLRequest_cases {callback : κ} {reply : Reply κ}
    (hreply : h.onBeforeURLRequest lib filters answers a callback = .ok reply) :
    reply = h.replyOK a ∨ ∃ cell, h.ctxs a = some cell ∧ cell.alive = true ∧
      startPhase lib filters answers .kOnBeforeRequest h a cell callback = .ok reply := by
  unfold onBeforeURLRequest at hreply
  split at hreply
  · exact .inl (Except.ok.inj hreply).symm
  · rename_i cell hcell
    split at hreply
    · exact .inl (Except.ok.inj hreply).symm
    · rename_i hgo
      simp only [not_or, Bool.not_eq_false] at hgo
      exact .inr ⟨cell, hcell, hgo.1, hreply⟩

/-- `OnHeadersReceived` returns `OK` at once, or starts its phase. -/
theorem onHeadersReceived_cases {callback : κ} {reply : Reply κ}
    (hreply : h.onHeadersReceived lib filters answers a callback = .ok reply) :
    reply = h.replyOK a ∨ ∃ cell, h.ctxs a = some cell ∧ cell.alive = true ∧
      startPhase lib filters answers .kOnHeadersReceived h a cell callback = .ok reply := by
  unfold onHeadersReceived at hreply
  split at hreply
  · exact .inl (Except.ok.inj hreply).symm
  · rename_i cell hcell
    split at hreply
    · exact .inl (Except.ok.inj hreply).symm
    · rename_i hgo
      simp only [not_or, Bool.not_eq_false] at hgo
      exact .inr ⟨cell, hcell, hgo.1, hreply⟩

/-- Without filters, `OnBeforeStartTransaction` returns `OK` at once. -/
theorem onBeforeStartTransaction_none {callback : κ} (hnone : filters.beforeStartTransaction = 0) :
    h.onBeforeStartTransaction lib filters answers a callback = .ok (h.replyOK a) := by
  unfold onBeforeStartTransaction
  split
  · rfl
  · rw [if_pos (.inr (.inl hnone))]

end RequestHandler

end ChromiumAdblock
