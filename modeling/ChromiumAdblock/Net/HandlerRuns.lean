import ChromiumAdblock.Lib.Machine
import ChromiumAdblock.Net.RequestHandler

/-! Runs of `BraveRequestHandler` over any number of requests: phases start with fresh contexts,
filters resume, and requests are destroyed, in any order.  The callback of a phase is here the
address of the context that the phase was started with, so a completion shows which phase it
completes and which context decided it. -/

namespace ChromiumAdblock

open EventMachine

/-- The three phases. -/
inductive Phase
  | beforeUrlRequest
  | beforeStartTransaction
  | headersReceived
deriving DecidableEq, Repr

def Phase.start {κ : Type} (lib : UrlLibrary) (filters : FilterLists)
    (answers : Nat → FilterAnswer) (h : RequestHandler κ) (a : Nat) (callback : κ) :
    Phase → Except HandlerFault (RequestHandler.Reply κ)
  | .beforeUrlRequest => h.onBeforeURLRequest lib filters answers a callback
  | .beforeStartTransaction => h.onBeforeStartTransaction lib filters answers a callback
  | .headersReceived => h.onHeadersReceived lib filters answers a callback

/-- The handler, and the context that each request holds now. -/
structure HandlerState where
  handler : RequestHandler Nat
  current : Nat → Option Nat

/-- What may happen to the handler.  `answers` are the answers of the filters that run meanwhile. -/
inductive HandlerEvent
  /-- A request gets the fresh context `info`, and a phase is started with it. -/
  | start (phase : Phase) (info : BraveRequestInfo) (answers : Nat → FilterAnswer)
  /-- The filter that holds `next_callback` for a context runs it. -/
  | resume (a : Nat) (decision : Option Decision) (answers : Nat → FilterAnswer)
  /-- A request is destroyed. -/
  | destroy (id : Nat)

namespace HandlerState

def init : HandlerState := ⟨.init, fun _ => none⟩

/-- Whether the last phase of a request posted its completion, or returned at once, or the request
was destroyed since. -/
def ended (s : HandlerState) (id : Nat) : Bool :=
  match s.current id with
  | none => true
  | some a => ((s.handler.ctxs a).bind (·.result)).isSome

/-- Whether a filter holds `next_callback` for a context. -/
def waits (s : HandlerState) (a : Nat) : Bool := ((s.handler.ctxs a).map (·.waiting)).getD false

/-- Whether a filter holds `next_callback` for a context of an identifier. -/
def outstanding (s : HandlerState) (id : Nat) : Bool :=
  (List.range s.handler.nextCtx).any fun a =>
    match s.handler.ctxs a with
    | some cell => cell.waiting && cell.info.requestIdentifier == id
    | none => false

/-- The owner replaces the context of a request: `CreateBraveRequestInfo`. -/
def release (kind : PointerKind) (s : HandlerState) (id : Nat) : RequestHandler Nat :=
  match kind, s.current id with
  | .weakPtr, some a => (s.handler.onURLRequestDestroyed a).killCtx a
  | _, _ => s.handler

/-- The state with a new context for a request, at the address `nextCtx` of the released handler. -/
def withCtx (kind : PointerKind) (s : HandlerState) (info : BraveRequestInfo) : HandlerState where
  handler := (s.release kind info.requestIdentifier).newCtx info
  current := Function.update s.current info.requestIdentifier (some s.handler.nextCtx)

def step (lib : UrlLibrary) (filters : FilterLists) (kind : PointerKind) (s : HandlerState) :
    HandlerEvent → Except HandlerFault HandlerState
  | .start phase info answers =>
    let t := s.withCtx kind info
    match phase.start lib filters answers t.handler s.handler.nextCtx s.handler.nextCtx with
    | .error fault => .error fault
    | .ok reply => .ok { t with handler := reply.handler }
  | .resume a decision answers =>
    match s.handler.resume lib filters answers a decision with
    | .error fault => .error fault
    | .ok (h, _) => .ok { s with handler := h }
  | .destroy id =>
    match s.current id with
    | none => .ok s
    | some a =>
      let h := s.handler.onURLRequestDestroyed a
      .ok
        { handler := if kind = .weakPtr then h.killCtx a else h
          current := Function.update s.current id none }

/-- A phase starts with a fresh context, after the last one of its identifier ended (the weak
instantiation ends it itself); a pending filter resumes once; a destroyed request had a context. -/
def enabled (kind : PointerKind) (s : HandlerState) : HandlerEvent → Prop
  | .start _ info _ => info.Fresh ∧ (kind = .sharedPtr → s.ended info.requestIdentifier = true)
  | .resume a _ _ => s.waits a = true
  | .destroy id => (s.current id).isSome = true

/-- With shared contexts, an identifier is not used again after its request was destroyed while a
filter holds `next_callback` for it. -/
def noReuse (kind : PointerKind) (s : HandlerState) : HandlerEvent → Prop
  | .start _ info _ => kind = .sharedPtr → s.current info.requestIdentifier = none →
      s.outstanding info.requestIdentifier = false
  | _ => True

def machine (lib : UrlLibrary) (filters : FilterLists) (kind : PointerKind) :
    Machine HandlerState HandlerEvent HandlerFault where
  enabled := enabled kind
  step := step lib filters kind

/-- What holds between the map of callbacks, the contexts, and the outstanding resumptions. -/
structure Consistent (filters : FilterLists) (kind : PointerKind) (s : HandlerState) : Prop where
  fresh : ∀ a, s.handler.nextCtx ≤ a → s.handler.ctxs a = none
  index : ∀ a cell, s.handler.ctxs a = some cell →
    cell.info.nextUrlRequestIndex ≤ filters.count cell.info.eventType
  undecided : ∀ a cell, s.handler.ctxs a = some cell → cell.waiting = true → cell.result = none
  /-- The entry of a context that waits is its own callback, or was erased. -/
  entry : ∀ a cell, s.handler.ctxs a = some cell → cell.waiting = true → cell.alive = true →
    s.handler.callbacks cell.info.requestIdentifier = none ∨
      s.handler.callbacks cell.info.requestIdentifier = some (some a)
  current : ∀ id a, s.current id = some a →
    ∃ cell, s.handler.ctxs a = some cell ∧ cell.info.requestIdentifier = id ∧ cell.alive = true
  waitsCurrent : ∀ a cell, s.handler.ctxs a = some cell → cell.waiting = true →
    cell.alive = true → ∀ b, s.current cell.info.requestIdentifier = some b → b = a
  aliveCurrent : kind = .weakPtr → ∀ a cell, s.handler.ctxs a = some cell → cell.alive = true →
    s.current cell.info.requestIdentifier = some a
  posted : ∀ p ∈ s.handler.posted, p.callback = p.ctx ∧
    ∃ cell, s.handler.ctxs p.ctx = some cell ∧ cell.result = some p.rv
  nodup : (s.handler.posted.map (·.callback)).Nodup

namespace Consistent

variable {lib : UrlLibrary} {filters : FilterLists} {kind : PointerKind} {s : HandlerState}

theorem init (filters : FilterLists) (kind : PointerKind) :
    Consistent filters kind HandlerState.init := by
  constructor <;> simp [HandlerState.init, RequestHandler.init]

/-- A context may change where its identifier stays, its index stays in range, and its result stays
or is first set when it does not wait. -/
theorem setCell (hs : Consistent filters kind s) {a : Nat} {cell cell' : Cell}
    (hcell : s.handler.ctxs a = some cell)
    (hid : cell'.info.requestIdentifier = cell.info.requestIdentifier)
    (halive : cell'.alive = cell.alive)
    (hindex : cell'.info.nextUrlRequestIndex ≤ filters.count cell'.info.eventType)
    (hresult : cell.result = none ∨ cell'.result = cell.result)
    (hundecided : cell'.waiting = true → cell'.result = none)
    (hentry : cell'.waiting = true → cell.alive = true →
      s.handler.callbacks cell.info.requestIdentifier = none ∨
        s.handler.callbacks cell.info.requestIdentifier = some (some a))
    (hcurrent : cell'.waiting = true → cell.alive = true →
      ∀ b, s.current cell.info.requestIdentifier = some b → b = a) :
    Consistent filters kind { s with handler := s.handler.setCell a cell' } := by
  have hctxs : ∀ b c, (s.handler.setCell a cell').ctxs b = some c →
      (b = a ∧ c = cell') ∨ (b ≠ a ∧ s.handler.ctxs b = some c) :=
    fun b c hc => RequestHandler.setCell_cases _ _ _ _ hc
  constructor
  · intro b hb
    have hne : b ≠ a := by
      rintro rfl
      simp [hs.fresh b hb] at hcell
    simpa [RequestHandler.setCell_ctxs_of_ne _ _ _ _ hne] using hs.fresh b hb
  · intro b c hc
    rcases hctxs b c hc with ⟨rfl, rfl⟩ | ⟨-, hold⟩
    · exact hindex
    · exact hs.index b c hold
  · intro b c hc hwaiting
    rcases hctxs b c hc with ⟨rfl, rfl⟩ | ⟨-, hold⟩
    · exact hundecided hwaiting
    · exact hs.undecided b c hold hwaiting
  · intro b c hc hwaiting halive'
    rcases hctxs b c hc with ⟨rfl, rfl⟩ | ⟨-, hold⟩
    · simpa [hid] using hentry hwaiting (halive ▸ halive')
    · exact hs.entry b c hold hwaiting halive'
  · intro id b hb
    obtain ⟨c, hc, hcid, hcalive⟩ := hs.current id b hb
    by_cases hba : b = a
    · subst hba
      obtain rfl : cell = c := by simpa [hcell] using hc
      exact ⟨cell', by simp, hid.trans hcid, halive.trans hcalive⟩
    · exact ⟨c, by simpa [RequestHandler.setCell_ctxs_of_ne _ _ _ _ hba] using hc, hcid, hcalive⟩
  · intro b c hc hwaiting halive'
    rcases hctxs b c hc with ⟨rfl, rfl⟩ | ⟨-, hold⟩
    · simpa [hid] using hcurrent hwaiting (halive ▸ halive')
    · exact hs.waitsCurrent b c hold hwaiting halive'
  · intro hkind b c hc halive'
    rcases hctxs b c hc with ⟨rfl, rfl⟩ | ⟨-, hold⟩
    · simpa [hid] using hs.aliveCurrent hkind b cell hcell (halive ▸ halive')
    · exact hs.aliveCurrent hkind b c hold halive'
  · intro p hp
    obtain ⟨hcallback, c, hc, hrv⟩ := hs.posted p hp
    refine ⟨hcallback, ?_⟩
    by_cases hpa : p.ctx = a
    · obtain rfl : cell = c := by
        rw [hpa, hcell] at hc
        exact Option.some.inj hc
      have hsame : cell'.result = cell.result :=
        hresult.resolve_left (by simp [hrv])
      exact ⟨cell', by simp [hpa], hsame.trans hrv⟩
    · exact ⟨c, by simpa [RequestHandler.setCell_ctxs_of_ne _ _ _ _ hpa] using hc, hrv⟩
  · exact hs.nodup

/-- An entry may change to one that fits all contexts of its identifier that wait. -/
theorem setEntry (hs : Consistent filters kind s) (id : Nat) (entry : Option (Option Nat))
    (hentry : ∀ a cell, s.handler.ctxs a = some cell → cell.waiting = true → cell.alive = true →
      cell.info.requestIdentifier = id → entry = none ∨ entry = some (some a)) :
    Consistent filters kind { s with handler := s.handler.setEntry id entry } where
  __ := hs
  entry a cell hcell hwaiting halive := by
    by_cases hid : cell.info.requestIdentifier = id
    · simpa [hid] using hentry a cell hcell hwaiting halive hid
    · simpa [RequestHandler.setEntry_callbacks_of_ne _ _ hid] using
        hs.entry a cell hcell hwaiting halive

/-- The completion of a context that just got its result is posted. -/
theorem post (hs : Consistent filters kind s) {a : Nat} {rv : Int} {cell : Cell}
    (hcell : s.handler.ctxs a = some cell) (hresult : cell.result = some rv)
    (hnew : ∀ p ∈ s.handler.posted, p.ctx ≠ a) :
    Consistent filters kind { s with handler := s.handler.post ⟨a, rv, a⟩ } where
  __ := hs
  posted p hp := by
    rcases List.mem_append.mp hp with hold | hlast
    · exact hs.posted p hold
    · obtain rfl := List.mem_singleton.mp hlast
      exact ⟨rfl, cell, hcell, hresult⟩
  nodup := by
    simp only [RequestHandler.post_posted, List.map_append, List.map_cons, List.map_nil]
    refine List.nodup_append.mpr ⟨hs.nodup, by simp, ?_⟩
    intro b hb c hc
    obtain ⟨p, hp, rfl⟩ := List.mem_map.mp hb
    obtain rfl := List.mem_singleton.mp hc
    rw [(hs.posted p hp).1]
    exact hnew p hp

variable (lib) in
/-- `runNextCallback` for a live context with its own entry, which no filter delays any more: no
fault occurs, and the phase waits again or posts its own completion. -/
theorem runNextCallback (hs : Consistent filters kind s) {a : Nat} {cell : Cell}
    (answers : Nat → FilterAnswer) (hcell : s.handler.ctxs a = some cell)
    (halive : cell.alive = true) (hwaiting : cell.waiting = false) (hresult : cell.result = none)
    (hentry : s.handler.callbacks cell.info.requestIdentifier = some (some a))
    (hcurrent : ∀ b, s.current cell.info.requestIdentifier = some b → b = a) :
    ∃ h newUrl, s.handler.runNextCallback lib filters answers a = .ok (h, newUrl) ∧
      Consistent filters kind { s with handler := h } := by
  obtain ⟨progress, -, hsame, hindex, hrun⟩ := RequestHandler.runNextCallback_live lib
    answers hcell halive hentry (hs.index a cell hcell)
  have hinfo : progress.info.nextUrlRequestIndex ≤ filters.count progress.info.eventType :=
    hsame.eventType ▸ hindex
  have hnot {P : Prop} (h : cell.waiting = true) : P := absurd (hwaiting.symm.trans h) (by simp)
  rw [hrun]
  cases progress with
  | pending info =>
    exact ⟨_, _, rfl, hs.setCell hcell hsame.requestIdentifier rfl hinfo (.inl hresult)
      (fun _ => hresult) (fun _ _ => .inr hentry) (fun _ _ => hcurrent)⟩
  | complete info rv newUrl =>
    have hcomplete : Consistent filters kind
        { s with handler := s.handler.setCell a { cell with info := info, result := some rv } } :=
      hs.setCell hcell hsame.requestIdentifier rfl hinfo (.inl hresult) hnot hnot hnot
    have hnew : ∀ p ∈ s.handler.posted, p.ctx ≠ a := by
      rintro p hp rfl
      obtain ⟨-, c, hc, hrv⟩ := hs.posted p hp
      obtain rfl : cell = c := by simpa [hcell] using hc
      simp [hresult] at hrv
    refine ⟨_, _, rfl, (hcomplete.setEntry info.requestIdentifier (some none) ?_).post
      (RequestHandler.setCell_ctxs_self _ _ _) rfl hnew⟩
    -- another context that waits has no entry, or its own; this entry is that of `a`
    intro b c hc hcwaiting hcalive hcid
    exfalso
    have hid : c.info.requestIdentifier = cell.info.requestIdentifier :=
      hcid.trans hsame.requestIdentifier
    by_cases hba : b = a
    · subst hba
      obtain rfl : { cell with info := info, result := some rv } = c := by simpa using hc
      simp [hwaiting] at hcwaiting
    · rcases hcomplete.entry b c hc hcwaiting hcalive with hnone | hown
      · simp [hid, hentry] at hnone
      · simp only [RequestHandler.setCell_callbacks, hid, hentry] at hown
        exact hba (by simpa using hown.symm)

variable (lib) in
/-- A filter that held `next_callback` runs it. -/
theorem resume (hs : Consistent filters kind s) {a : Nat} (hwaits : s.waits a = true)
    (decision : Option Decision) (answers : Nat → FilterAnswer) :
    ∃ h newUrl, s.handler.resume lib filters answers a decision = .ok (h, newUrl) ∧
      Consistent filters kind { s with handler := h } := by
  obtain ⟨cell, hcell, hwaiting⟩ : ∃ cell, s.handler.ctxs a = some cell ∧ cell.waiting = true := by
    cases hcell : s.handler.ctxs a with
    | none => simp [waits, hcell] at hwaits
    | some cell => exact ⟨cell, rfl, by simpa [waits, hcell] using hwaits⟩
  let info := if cell.alive then cell.info.decide decision else cell.info
  have hsame : SameRequest cell.info info := by
    cases halive : cell.alive with
    | true => simpa [info, halive] using SameRequest.decide cell.info decision
    | false => simpa [info, halive] using SameRequest.refl cell.info
  have hindex : info.nextUrlRequestIndex = cell.info.nextUrlRequestIndex := by
    cases halive : cell.alive <;> simp [info, halive]
  have hnext : Consistent filters kind
      { s with handler := s.handler.setCell a { cell with info := info, waiting := false } } :=
    hs.setCell hcell hsame.requestIdentifier rfl
      (by simpa [hindex, hsame.eventType] using hs.index a cell hcell) (.inr rfl) (by simp)
      (by simp) (by simp)
  simp only [RequestHandler.resume, hcell]
  cases halive : cell.alive with
  | false =>
    refine ⟨_, _, RequestHandler.runNextCallback_skip ?_, by simpa [info, halive] using hnext⟩
    intro c hc hcalive
    obtain rfl : { cell with waiting := false } = c := by simpa [halive] using hc
    simp [halive] at hcalive
  | true =>
    rcases hs.entry a cell hcell hwaiting halive with hnone | hown
    · refine ⟨_, _, RequestHandler.runNextCallback_skip ?_, by simpa [info, halive] using hnext⟩
      intro c hc _
      obtain rfl : { cell with info := info, waiting := false } = c := by
        simpa [info, halive] using hc
      simpa [hsame.requestIdentifier] using hnone
    · have hcurrent := hs.waitsCurrent a cell hcell hwaiting halive
      have hown' : s.handler.callbacks info.requestIdentifier = some (some a) := by
        rw [hsame.requestIdentifier]
        exact hown
      simpa [info, halive] using hnext.runNextCallback lib answers
        (RequestHandler.setCell_ctxs_self _ _ _) halive rfl (hs.undecided a cell hcell hwaiting)
        hown' (by simpa [hsame.requestIdentifier] using hcurrent)

theorem forget (hs : Consistent filters .sharedPtr s) (id : Nat) :
    Consistent filters .sharedPtr { s with current := Function.update s.current id none } where
  __ := hs
  current i a ha := by
    by_cases hi : i = id
    · simp [hi] at ha
    · exact hs.current i a (by simpa [hi] using ha)
  waitsCurrent a cell hcell hwaiting halive b hb := by
    by_cases hi : cell.info.requestIdentifier = id
    · simp [hi] at hb
    · exact hs.waitsCurrent a cell hcell hwaiting halive b (by simpa [hi] using hb)
  aliveCurrent := by simp

theorem kill (hs : Consistent filters .weakPtr s) {id a : Nat} (ha : s.current id = some a) :
    Consistent filters .weakPtr
      { handler := s.handler.killCtx a, current := Function.update s.current id none } := by
  obtain ⟨cell, hcell, hid, halive⟩ := hs.current id a ha
  have hctxs : ∀ b c, (s.handler.killCtx a).ctxs b = some c →
      (b = a ∧ c = { cell with alive := false }) ∨ (b ≠ a ∧ s.handler.ctxs b = some c) := by
    intro b c hc
    rw [RequestHandler.killCtx_ctxs] at hc
    split at hc
    · rename_i hb
      exact .inl ⟨hb, by simpa [hcell] using hc.symm⟩
    · rename_i hb
      exact .inr ⟨hb, hc⟩
  have hkeep : ∀ b c, s.handler.ctxs b = some c → b ≠ a →
      (s.handler.killCtx a).ctxs b = some c := by
    intro b c hc hb
    rw [RequestHandler.killCtx_ctxs, if_neg hb]
    exact hc
  constructor
  · intro b hb
    rw [RequestHandler.killCtx_ctxs, if_neg]
    · exact hs.fresh b (by simpa using hb)
    · rintro rfl
      simp [hs.fresh b (by simpa using hb)] at hcell
  · intro b c hc
    rcases hctxs b c hc with ⟨rfl, rfl⟩ | ⟨-, hold⟩
    · exact hs.index b cell hcell
    · exact hs.index b c hold
  · intro b c hc hwaiting
    rcases hctxs b c hc with ⟨rfl, rfl⟩ | ⟨-, hold⟩
    · exact hs.undecided b cell hcell hwaiting
    · exact hs.undecided b c hold hwaiting
  · intro b c hc hwaiting hcalive
    rcases hctxs b c hc with ⟨rfl, rfl⟩ | ⟨-, hold⟩
    · simp at hcalive
    · simpa using hs.entry b c hold hwaiting hcalive
  · intro i b hb
    by_cases hi : i = id
    · simp [hi] at hb
    · obtain ⟨c, hc, hcid, hcalive⟩ := hs.current i b (by simpa [hi] using hb)
      refine ⟨c, hkeep b c hc ?_, hcid, hcalive⟩
      rintro rfl
      obtain rfl : cell = c := by simpa [hcell] using hc
      exact hi (hcid.symm.trans hid)
  · intro b c hc hwaiting hcalive d hd
    rcases hctxs b c hc with ⟨rfl, rfl⟩ | ⟨-, hold⟩
    · simp at hcalive
    · by_cases hi : c.info.requestIdentifier = id
      · simp [hi] at hd
      · exact hs.waitsCurrent b c hold hwaiting hcalive d (by simpa [hi] using hd)
  · intro _ b c hc hcalive
    rcases hctxs b c hc with ⟨rfl, rfl⟩ | ⟨hne, hold⟩
    · simp at hcalive
    · have hown := hs.aliveCurrent rfl b c hold hcalive
      by_cases hi : c.info.requestIdentifier = id
      · rw [hi, ha] at hown
        exact absurd (Option.some.inj hown).symm hne
      · simpa [hi] using hown
  · intro p hp
    obtain ⟨hcallback, c, hc, hrv⟩ := hs.posted p (by simpa using hp)
    by_cases hpa : p.ctx = a
    · obtain rfl : cell = c := by
        rw [hpa, hcell] at hc
        exact Option.some.inj hc
      refine ⟨hcallback, { cell with alive := false }, ?_, hrv⟩
      rw [RequestHandler.killCtx_ctxs, if_pos hpa, hcell]
      rfl
    · exact ⟨hcallback, c, hkeep _ c hc hpa, hrv⟩
  · simpa using hs.nodup

theorem erase (hs : Consistent filters kind s) (a : Nat) :
    Consistent filters kind { s with handler := s.handler.onURLRequestDestroyed a } := by
  unfold RequestHandler.onURLRequestDestroyed
  split
  · exact hs.setEntry _ _ fun _ _ _ _ _ _ => .inl rfl
  · exact hs

theorem destroy (hs : Consistent filters kind s) {id a : Nat} (ha : s.current id = some a) :
    Consistent filters kind
      { handler := if kind = .weakPtr then (s.handler.onURLRequestDestroyed a).killCtx a
          else s.handler.onURLRequestDestroyed a
        current := Function.update s.current id none } := by
  cases kind with
  | sharedPtr => simpa using (hs.erase a).forget id
  | weakPtr => simpa using (hs.erase a).kill ha

/-- A request lets go of its context, if it has one, before it gets a new one. -/
theorem release (hs : Consistent filters kind s) (id : Nat) :
    Consistent filters kind
      { handler := s.release kind id, current := Function.update s.current id none } := by
  cases kind with
  | sharedPtr => exact hs.forget id
  | weakPtr =>
    cases ha : s.current id with
    | none =>
      have hsame : Function.update s.current id none = s.current := by
        rw [← ha, Function.update_eq_self]
      simpa [HandlerState.release, ha, hsame] using hs
    | some a => simpa [HandlerState.release, ha] using (hs.erase a).kill ha

/-- A new context is entered for an identifier that has none, and for which nothing is waited. -/
theorem newCtx (hs : Consistent filters kind s) {info : BraveRequestInfo} (hfresh : info.Fresh)
    (hnone : s.current info.requestIdentifier = none)
    (hquiet : ∀ a cell, s.handler.ctxs a = some cell → cell.waiting = true → cell.alive = true →
      cell.info.requestIdentifier ≠ info.requestIdentifier) :
    Consistent filters kind
      { handler := s.handler.newCtx info
        current := Function.update s.current info.requestIdentifier (some s.handler.nextCtx) } := by
  have hfree : s.handler.ctxs s.handler.nextCtx = none := hs.fresh _ (Nat.le_refl _)
  have hctxs : ∀ b c, (s.handler.newCtx info).ctxs b = some c →
      (b = s.handler.nextCtx ∧ c = { info := info }) ∨ s.handler.ctxs b = some c := by
    intro b c hc
    by_cases hb : b = s.handler.nextCtx
    · subst hb
      exact .inl ⟨rfl, by simpa using hc.symm⟩
    · exact .inr (by rwa [RequestHandler.newCtx_ctxs_of_ne _ _ _ hb] at hc)
  have hkeep : ∀ b c, s.handler.ctxs b = some c → (s.handler.newCtx info).ctxs b = some c := by
    intro b c hc
    rw [RequestHandler.newCtx_ctxs_of_ne _ _ _ (by rintro rfl; simp [hfree] at hc)]
    exact hc
  constructor
  · intro b hb
    have hlt : s.handler.nextCtx + 1 ≤ b := by simpa using hb
    rw [RequestHandler.newCtx_ctxs_of_ne _ _ _ (by omega)]
    exact hs.fresh b (by omega)
  · intro b c hc
    rcases hctxs b c hc with ⟨-, rfl⟩ | hold
    · simp [hfresh.atStart]
    · exact hs.index b c hold
  · intro b c hc hwaiting
    rcases hctxs b c hc with ⟨-, rfl⟩ | hold
    · rfl
    · exact hs.undecided b c hold hwaiting
  · intro b c hc hwaiting halive
    rcases hctxs b c hc with ⟨-, rfl⟩ | hold
    · simp at hwaiting
    · exact hs.entry b c hold hwaiting halive
  · intro i b hb
    by_cases hi : i = info.requestIdentifier
    · subst hi
      obtain rfl : s.handler.nextCtx = b := by simpa using hb
      exact ⟨_, RequestHandler.newCtx_ctxs_self _ _, rfl, rfl⟩
    · obtain ⟨c, hc, hcid, halive⟩ := hs.current i b (by simpa [hi] using hb)
      exact ⟨c, hkeep b c hc, hcid, halive⟩
  · intro b c hc hwaiting halive d hd
    rcases hctxs b c hc with ⟨-, rfl⟩ | hold
    · simp at hwaiting
    · have hi := hquiet b c hold hwaiting halive
      exact hs.waitsCurrent b c hold hwaiting halive d (by simpa [hi] using hd)
  · intro hkind b c hc halive
    rcases hctxs b c hc with ⟨rfl, rfl⟩ | hold
    · simp
    · have hown := hs.aliveCurrent hkind b c hold halive
      have hi : c.info.requestIdentifier ≠ info.requestIdentifier := by
        intro hi
        simp [hi, hnone] at hown
      simpa [hi] using hown
  · intro p hp
    obtain ⟨hcallback, c, hc, hrv⟩ := hs.posted p (by simpa using hp)
    exact ⟨hcallback, c, hkeep _ c hc, hrv⟩
  · simpa using hs.nodup

section Start

variable {a : Nat} {info : BraveRequestInfo} (hs : Consistent filters kind s)
  (hcell : s.handler.ctxs a = some { info := info }) (hfresh : info.Fresh)
  (hcurrent : s.current info.requestIdentifier = some a)
  (hquiet : ∀ b cell, s.handler.ctxs b = some cell → cell.waiting = true → cell.alive = true →
    cell.info.requestIdentifier ≠ info.requestIdentifier)

include hs hcell

theorem replyOK : Consistent filters kind { s with handler := (s.handler.replyOK a).handler } := by
  simp only [RequestHandler.replyOK, hcell]
  have hindex := hs.index a _ hcell
  exact hs.setCell hcell rfl rfl hindex (.inl rfl) (by simp) (by simp) (by simp)

include hfresh hcurrent hquiet

variable (lib) in
theorem startPhase (answers : Nat → FilterAnswer) (eventType : BraveNetworkDelegateEventType) :
    ∃ reply,
      RequestHandler.startPhase lib filters answers eventType s.handler a { info := info } a =
        .ok reply ∧
      Consistent filters kind { s with handler := reply.handler } := by
  let next : BraveRequestInfo := { info with eventType := eventType }
  have hset : Consistent filters kind
      { s with handler := s.handler.setCell a { info := next } } :=
    hs.setCell hcell rfl rfl (by simp [next, hfresh.atStart]) (.inl rfl) (by simp) (by simp)
      (by simp)
  have hentered := hset.setEntry next.requestIdentifier (some (some a)) (by
    intro b cell hb hwaiting halive hid
    rcases RequestHandler.setCell_cases _ _ _ _ hb with ⟨rfl, -⟩ | ⟨-, hold⟩
    · exact .inr rfl
    · exact absurd hid (hquiet b cell hold hwaiting halive))
  obtain ⟨h, newUrl, hrun, hnext⟩ := hentered.runNextCallback lib answers
    (RequestHandler.setCell_ctxs_self _ a { info := next }) rfl rfl rfl
    (by simp) (by
      intro b hb
      exact (Option.some.inj (hcurrent.symm.trans hb)).symm)
  refine ⟨⟨h, newUrl, Net.ERR_IO_PENDING⟩, ?_, hnext⟩
  simp only [RequestHandler.startPhase]
  simp only [next] at hrun
  rw [hrun]

variable (lib) in
theorem phase (answers : Nat → FilterAnswer) (phase : Phase) :
    ∃ reply, phase.start lib filters answers s.handler a a = .ok reply ∧
      Consistent filters kind { s with handler := reply.handler } := by
  have hok := hs.replyOK hcell
  have hstart := hs.startPhase lib hcell hfresh hcurrent hquiet answers
  cases phase with
  | beforeUrlRequest =>
    simp only [Phase.start, RequestHandler.onBeforeURLRequest, hcell]
    split
    · exact ⟨_, rfl, hok⟩
    · exact hstart .kOnBeforeRequest
  | beforeStartTransaction =>
    simp only [Phase.start, RequestHandler.onBeforeStartTransaction, hcell]
    split
    · exact ⟨_, rfl, hok⟩
    · exact hstart .kOnBeforeStartTransaction
  | headersReceived =>
    simp only [Phase.start, RequestHandler.onHeadersReceived, hcell]
    split
    · exact ⟨_, rfl, hok⟩
    · exact hstart .kOnHeadersReceived

end Start

/-- Where a phase may start, nothing is waited for under its identifier once the last context is
released. -/
theorem release_quiet (hs : Consistent filters kind s) {id : Nat}
    (hended : kind = .sharedPtr → s.ended id = true)
    (hreuse : kind = .sharedPtr → s.current id = none → s.outstanding id = false)
    {a : Nat} {cell : Cell} (hcell : (s.release kind id).ctxs a = some cell)
    (hwaiting : cell.waiting = true) (halive : cell.alive = true) :
    cell.info.requestIdentifier ≠ id := by
  intro hid
  cases kind with
  | sharedPtr =>
    replace hcell : s.handler.ctxs a = some cell := hcell
    cases hcurrent : s.current id with
    | none =>
      have hlt : a < s.handler.nextCtx := by
        by_contra hge
        simp [hs.fresh a (by omega)] at hcell
      have hout : s.outstanding id = true :=
        List.any_eq_true.mpr ⟨a, List.mem_range.mpr hlt, by simp [hcell, hwaiting, hid]⟩
      simp [hreuse rfl hcurrent] at hout
    | some b =>
      -- the phase of `b` has ended, so `b` does not wait, but it is the only one that may
      obtain rfl := hs.waitsCurrent a cell hcell hwaiting halive b (by rw [hid, hcurrent])
      have hdone := hended rfl
      simp [ended, hcurrent, hcell, hs.undecided b cell hcell hwaiting] at hdone
  | weakPtr =>
    have hold : s.handler.ctxs a = some cell ∧ s.current id ≠ some a := by
      cases hcurrent : s.current id with
      | none => exact ⟨by simpa [HandlerState.release, hcurrent] using hcell, by simp⟩
      | some b =>
        simp only [HandlerState.release, hcurrent, RequestHandler.killCtx_ctxs,
          RequestHandler.onURLRequestDestroyed_ctxs] at hcell
        split at hcell
        · obtain ⟨c, -, rfl⟩ := Option.map_eq_some_iff.mp hcell
          simp at halive
        · rename_i hne
          exact ⟨hcell, fun h => hne (Option.some.inj h).symm⟩
    exact hold.2 (hid ▸ hs.aliveCurrent rfl a cell hold.1 halive)

end Consistent

theorem release_nextCtx (s : HandlerState) (kind : PointerKind) (id : Nat) :
    (s.release kind id).nextCtx = s.handler.nextCtx := by
  unfold release
  split <;> simp

namespace Consistent

variable {lib : UrlLibrary} {filters : FilterLists} {kind : PointerKind} {s : HandlerState}

variable (lib) in
/-- No event of the machine runs into a fault, and each keeps the invariant. -/
theorem step (hs : Consistent filters kind s) {e : HandlerEvent} (henabled : enabled kind s e)
    (hreuse : noReuse kind s e) :
    ∃ t, HandlerState.step lib filters kind s e = .ok t ∧ Consistent filters kind t := by
  cases e with
  | start phase info answers =>
    obtain ⟨hfresh, hended⟩ := henabled
    have hreleased := hs.release info.requestIdentifier
    have hquiet := fun a cell
        (hcell : (s.release kind info.requestIdentifier).ctxs a = some cell) =>
      hs.release_quiet hended hreuse hcell
    have hnew := hreleased.newCtx hfresh (by simp) hquiet
    simp only [release_nextCtx, Function.update_idem] at hnew
    have hcell := RequestHandler.newCtx_ctxs_self (s.release kind info.requestIdentifier) info
    rw [release_nextCtx] at hcell
    have hothers : ∀ b cell,
        ((s.release kind info.requestIdentifier).newCtx info).ctxs b = some cell →
        cell.waiting = true → cell.alive = true →
        cell.info.requestIdentifier ≠ info.requestIdentifier := by
      intro b cell hb hwaiting halive
      by_cases hbn : b = (s.release kind info.requestIdentifier).nextCtx
      · subst hbn
        obtain rfl : { info := info } = cell := by simpa using hb
        simp at hwaiting
      · rw [RequestHandler.newCtx_ctxs_of_ne _ _ _ hbn] at hb
        exact hquiet b cell hb hwaiting halive
    obtain ⟨reply, hstart, hnext⟩ :=
      hnew.phase lib hcell hfresh (by simp) hothers answers phase
    exact ⟨_, by simp only [HandlerState.step, withCtx, hstart], hnext⟩
  | resume a decision answers =>
    obtain ⟨h, newUrl, hresume, hnext⟩ := hs.resume lib henabled decision answers
    exact ⟨_, by simp only [HandlerState.step, hresume], hnext⟩
  | destroy id =>
    obtain ⟨a, ha⟩ := Option.isSome_iff_exists.mp henabled
    exact ⟨_, by simp only [HandlerState.step, ha], hs.destroy ha⟩

end Consistent

instance (kind : PointerKind) (s : HandlerState) : ∀ e, Decidable (enabled kind s e)
  | .start _ info _ =>
    inferInstanceAs (Decidable (info.Fresh ∧
      (kind = .sharedPtr → s.ended info.requestIdentifier = true)))
  | .resume a _ _ => inferInstanceAs (Decidable (s.waits a = true))
  | .destroy id => inferInstanceAs (Decidable ((s.current id).isSome = true))

instance (kind : PointerKind) (s : HandlerState) : ∀ e, Decidable (noReuse kind s e)
  | .start _ info _ =>
    inferInstanceAs (Decidable (kind = .sharedPtr → s.current info.requestIdentifier = none →
      s.outstanding info.requestIdentifier = false))
  | .resume _ _ _ => inferInstanceAs (Decidable True)
  | .destroy _ => inferInstanceAs (Decidable True)

instance (lib : UrlLibrary) (filters : FilterLists) (kind : PointerKind) (s : HandlerState)
    (e : HandlerEvent) : Decidable ((machine lib filters kind).enabled s e) :=
  inferInstanceAs (Decidable (enabled kind s e))

section Runs

variable (lib : UrlLibrary) (filters : FilterLists) (kind : PointerKind)

theorem consistent_of_run {es : List HandlerEvent} {s : HandlerState}
    (run : Run ((machine lib filters kind).restrict (noReuse kind)) init es s) :
    Consistent filters kind s := by
  refine run.preserves ?_ (Consistent.init filters kind)
  rintro t e t' ⟨henabled, hreuse⟩ hstep ht
  obtain ⟨u, hu, hnext⟩ := ht.step lib henabled hreuse
  obtain rfl : u = t' := by
    replace hstep : HandlerState.step lib filters kind t e = .ok t' := hstep
    rw [hu] at hstep
    exact Except.ok.inj hstep
  exact hnext

/-- Each completion is posted once, with the result of its own context; no event faults; and no
index passes the end of its filters. -/
theorem completions_of_run {es : List HandlerEvent} {s : HandlerState}
    (run : Run ((machine lib filters kind).restrict (noReuse kind)) init es s) :
    (s.handler.posted.map (·.callback)).Nodup ∧
      (∀ p ∈ s.handler.posted, p.callback = p.ctx ∧
        ∃ cell, s.handler.ctxs p.ctx = some cell ∧ cell.result = some p.rv) ∧
      (∀ e, enabled kind s e → noReuse kind s e → (machine lib filters kind).faultOf s e = none) ∧
      ∀ a cell, s.handler.ctxs a = some cell →
        cell.info.nextUrlRequestIndex ≤ filters.count cell.info.eventType := by
  have hs := consistent_of_run lib filters kind run
  refine ⟨hs.nodup, hs.posted, fun e henabled hreuse => ?_, hs.index⟩
  obtain ⟨t, ht, -⟩ := hs.step lib henabled hreuse
  have hstep : (machine lib filters kind).step s e = .ok t := ht
  rw [Machine.faultOf, hstep]

end Runs

/-- A context of request 1 as it is created. -/
def firstRequest : BraveRequestInfo :=
  { requestIdentifier := 1
    requestUrl := .https "example.com" "/"
    initiatorUrl := .https "a.com" "/" }

/-- One filter for requests and one for response headers, which both wait. -/
def waitingFilter : Nat → FilterAnswer := fun _ => ⟨Net.ERR_IO_PENDING, none⟩

/-- A blocked check and a second phase of one request, in the weak instantiation. -/
theorem completions_of_run_blocked :
    ∃ s, Run ((machine (.ofUrls []) ⟨1, 0, 1⟩ .weakPtr).restrict (noReuse .weakPtr)) init
        [.start .beforeUrlRequest firstRequest waitingFilter,
          .resume 0 (some { blockedBy := .kAdBlocked }) waitingFilter,
          .start .headersReceived firstRequest waitingFilter] s ∧
      s.handler.posted = [⟨0, Net.ERR_BLOCKED_BY_CLIENT, 0⟩] ∧
      (s.handler.posted.map (·.callback)).Nodup := by
  obtain ⟨s, run, hposted⟩ := Machine.exists_run
    ((machine (.ofUrls []) ⟨1, 0, 1⟩ .weakPtr).restrict (noReuse .weakPtr)) init
    [.start .beforeUrlRequest firstRequest waitingFilter,
      .resume 0 (some { blockedBy := .kAdBlocked }) waitingFilter,
      .start .headersReceived firstRequest waitingFilter]
    (fun s => s.handler.posted == [⟨0, Net.ERR_BLOCKED_BY_CLIENT, 0⟩]) (by decide)
  exact ⟨s, run, by simpa using hposted, (completions_of_run _ _ _ run).1⟩

/-- Without `noReuse`, shared contexts mix two phases: a context of a destroyed request completes
the phase that its identifier started afterwards, and that phase then has no callback left. -/
theorem reused_identifier_mixes_phases :
    ∃ s, Run (machine (.ofUrls []) ⟨1, 0, 1⟩ .sharedPtr) init
        [.start .beforeUrlRequest firstRequest waitingFilter, .destroy 1,
          .start .beforeUrlRequest firstRequest waitingFilter,
          .resume 0 none waitingFilter] s ∧
      s.handler.posted = [⟨1, Net.OK, 0⟩] ∧
      enabled .sharedPtr s (.resume 1 none waitingFilter) ∧
      (machine (.ofUrls []) ⟨1, 0, 1⟩ .sharedPtr).faultOf s (.resume 1 none waitingFilter) =
        some .movedOutCallback := by
  obtain ⟨s, run, hs⟩ := Machine.exists_run
    (machine (.ofUrls []) ⟨1, 0, 1⟩ .sharedPtr) init
    [.start .beforeUrlRequest firstRequest waitingFilter, .destroy 1,
      .start .beforeUrlRequest firstRequest waitingFilter, .resume 0 none waitingFilter]
    (fun s => s.handler.posted == [⟨1, Net.OK, 0⟩] && s.waits 1 &&
      (machine (.ofUrls []) ⟨1, 0, 1⟩ .sharedPtr).faultOf s (.resume 1 none waitingFilter) ==
        some .movedOutCallback) (by decide)
  simp only [Bool.and_eq_true, beq_iff_eq] at hs
  exact ⟨s, run, hs.1.1, hs.1.2, hs.2⟩

end HandlerState

end ChromiumAdblock
