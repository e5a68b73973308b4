import ChromiumAdblock.Lib.Serial
import ChromiumAdblock.Shields.CustomResources

/-! Overlapping calls of the custom resource provider.  An operation saves the whole list that it
got, so a list that another call saved meanwhile is lost.  Where each list that is saved was made
from the list that the store holds, or will hold when the writes under way are done, the calls are
serial. -/

namespace ChromiumAdblock

open EventMachine Serial

namespace ResourceCall

/-- A call executed alone: the store after it, and its status. -/
def execute (call : ResourceCall) (store : ValueStore) : ValueStore × ErrorCode :=
  if call.invalid then (store, .kInvalid)
  else
    match call with
    | .removeKey key => (Function.update store key none, .kOk)
    | call =>
      match call.onResources (listOf (store call.key)) with
      | (some resources, status) =>
        (Function.update store call.key (some (.list resources)), status)
      | (none, status) => (store, status)

/-- Whether a call saves a list when it got this one. -/
def Saves : ResourceCall → List Value → Prop
  | .addResource _ resource, resources =>
    findResource resources (getResourceName resource) = none
  | .updateResource _ oldName resource, resources =>
    (findResource resources oldName).isSome ∧
      (oldName = getResourceName resource ∨
        findResource resources (getResourceName resource) = none)
  | .removeResource _ name, resources => (findResource resources name).isSome
  | .removeKey _, _ => False

instance (resources : List Value) : ∀ call : ResourceCall, Decidable (call.Saves resources)
  | .addResource _ resource =>
    inferInstanceAs (Decidable (findResource resources (getResourceName resource) = none))
  | .updateResource _ oldName resource =>
    inferInstanceAs (Decidable ((findResource resources oldName).isSome ∧
      (oldName = getResourceName resource ∨
        findResource resources (getResourceName resource) = none)))
  | .removeResource _ name => inferInstanceAs (Decidable ((findResource resources name).isSome))
  | .removeKey _ => inferInstanceAs (Decidable False)

theorem onResources_eq_none {call : ResourceCall} {resources : List Value}
    (h : ¬call.Saves resources) : (call.onResources resources).1 = none := by
  cases call with
  | addResource key resource =>
    cases hfind : findResource resources (getResourceName resource) with
    | none => exact absurd hfind h
    | some i => simp [onResources, addResourceInternal, hfind]
  | updateResource key oldName resource =>
    cases hfind : findResource resources oldName with
    | none => simp [onResources, updateResourceInternal, hfind]
    | some i =>
      have hrefused : oldName ≠ getResourceName resource ∧
          (findResource resources (getResourceName resource)).isSome := by
        simpa [Saves, hfind, Option.isSome_iff_ne_none] using h
      simp only [onResources, updateResourceInternal, hfind, if_pos hrefused]
  | removeResource key name =>
    cases hfind : findResource resources name with
    | none => simp [onResources, removeResourceInternal, hfind]
    | some i => exact absurd (by simp [Saves, hfind]) h
  | removeKey key => rfl

/-- Whether the store is asked for the list of a call. -/
def AsksStore (call : ResourceCall) : Prop := call.invalid = false ∧ ∀ key, call ≠ .removeKey key

/-- A call that got its list, executed where the list is the one in the store. -/
theorem execute_of_asks {call : ResourceCall} (hcall : call.AsksStore) {store : ValueStore}
    {resources : List Value} (hlist : listOf (store call.key) = resources) :
    call.execute store =
      match call.onResources resources with
      | (some saved, status) => (Function.update store call.key (some (.list saved)), status)
      | (none, status) => (store, status) := by
  obtain ⟨hvalid, hkey⟩ := hcall
  subst hlist
  cases call with
  | removeKey key => exact absurd rfl (hkey key)
  | addResource key resource => simp only [execute, hvalid, Bool.false_eq_true, if_false]
  | updateResource key oldName resource => simp only [execute, hvalid, Bool.false_eq_true, if_false]
  | removeResource key name => simp only [execute, hvalid, Bool.false_eq_true, if_false]

theorem execute_of_ne {call : ResourceCall} {store : ValueStore} {key : String}
    (hne : key ≠ call.key) : (call.execute store).1 key = store key := by
  by_cases hinvalid : call.invalid = true
  · simp [execute, hinvalid]
  · by_cases hremove : ∃ k, call = .removeKey k
    · obtain ⟨k, rfl⟩ := hremove
      have hk : key ≠ k := hne
      simp [execute, invalid, hk]
    · have hasks : call.AsksStore := ⟨by simpa using hinvalid, fun k hk => hremove ⟨k, hk⟩⟩
      rw [execute_of_asks hasks rfl]
      split
      · simp [hne]
      · rfl

end ResourceCall

namespace CustomResourceProvider

/-- The store once the tasks under way are done. -/
def settled (s : CustomResourceProvider) : ValueStore := s.requests.foldl StoreRequest.apply s.store

/-- The replies that the tasks of the store lead to. -/
def upcoming : ValueStore → List StoreRequest → List StoreReply
  | _, [] => []
  | store, .get call :: rest => ⟨call, store call.key⟩ :: upcoming store rest
  | store, .set key resources :: rest =>
    upcoming (StoreRequest.apply store (.set key resources)) rest
  | store, .remove key :: rest => upcoming (StoreRequest.apply store (.remove key)) rest

/-- The replies that are still to be handled. -/
def pending (s : CustomResourceProvider) : List StoreReply :=
  s.replies ++ upcoming s.store s.requests

theorem upcoming_append (store : ValueStore) (requests more : List StoreRequest) :
    upcoming store (requests ++ more) =
      upcoming store requests ++ upcoming (requests.foldl StoreRequest.apply store) more := by
  induction requests generalizing store with
  | nil => rfl
  | cons request rest ih =>
    cases request with
    | get call => simp [upcoming, ih, StoreRequest.apply]
    | set key resources => simp [upcoming, ih]
    | remove key => simp [upcoming, ih]

/-- The store runs a task: what is settled and what is pending stays the same. -/
theorem execute_spec (s : CustomResourceProvider) :
    s.execute.settled = s.settled ∧ s.execute.pending = s.pending ∧
      s.execute.reported = s.reported := by
  cases hrequests : s.requests with
  | nil => simp [execute, hrequests]
  | cons request rest =>
    cases request with
    | get call => simp [execute, hrequests, settled, pending, upcoming, StoreRequest.apply]
    | set key resources => simp [execute, hrequests, settled, pending, upcoming]
    | remove key => simp [execute, hrequests, settled, pending, upcoming]

section Write

variable (s : CustomResourceProvider) (call : ResourceCall) (status : ErrorCode)
  (request : StoreRequest)

@[simp] theorem report_settled : (s.report call status).settled = s.settled := rfl
@[simp] theorem report_pending : (s.report call status).pending = s.pending := rfl
@[simp] theorem report_reported :
    (s.report call status).reported = s.reported ++ [(call, status)] := rfl
@[simp] theorem write_reported : (s.write request).reported = s.reported := rfl

@[simp] theorem write_settled : (s.write request).settled = request.apply s.settled := by
  simp [write, settled]

@[simp] theorem write_pending :
    (s.write request).pending = s.pending ++ upcoming s.settled [request] := by
  simp [write, pending, upcoming_append, settled]

end Write

/-- The calls of a run. -/
def callsOf (es : List ResourceEvent) : List ResourceCall :=
  es.filterMap fun
    | .call c => some c
    | _ => none

theorem callsOf_append (es fs : List ResourceEvent) :
    callsOf (es ++ fs) = callsOf es ++ callsOf fs := List.filterMap_append

/-- The calls that are completed are serial, and each reply was the current list at some point. -/
structure SerialSoFar (store : ValueStore) (past : List ResourceEvent)
    (s : CustomResourceProvider) : Prop where
  calls : (s.reported.map Prod.fst ++ s.pending.map StoreReply.call).Perm (callsOf past)
  asked : ∀ reply ∈ s.pending, reply.call.AsksStore
  serial : ∃ log, log.Perm s.reported ∧
    Execution ResourceCall.execute store log s.settled ∧
    ∀ reply ∈ s.pending, ∃ seen, Through ResourceCall.execute store log seen ∧
      seen reply.call.key = reply.value

/-- A reply that is saved is handled only while its list is the one that is settled. -/
def savesCurrent (s : CustomResourceProvider) : ResourceEvent → Prop
  | .handleReply => ∀ reply ∈ s.replies.head?, reply.call.Saves (listOf reply.value) →
    listOf reply.value = listOf (s.settled reply.call.key)
  | _ => True

theorem serialSoFar_init (store : ValueStore) : SerialSoFar store [] (init store) where
  calls := by simp [init, pending, upcoming, callsOf]
  asked := by simp [init, pending, upcoming]
  serial := ⟨[], .refl _, .nil store, by simp [init, pending, upcoming]⟩

section Step

variable {store : ValueStore} {past : List ResourceEvent} {s s' : CustomResourceProvider}

/-- A call that is completed where it is executed on what is settled. -/
theorem SerialSoFar.commit (h : SerialSoFar store past s) (call : ResourceCall)
    {past' : List ResourceEvent} (hsettled : s'.settled = (call.execute s.settled).1)
    (hreported : s'.reported = s.reported ++ [(call, (call.execute s.settled).2)])
    (hcalls : (s'.reported.map Prod.fst ++ s'.pending.map StoreReply.call).Perm (callsOf past'))
    (hpending : ∀ reply ∈ s'.pending, reply ∈ s.pending) : SerialSoFar store past' s' := by
  obtain ⟨log, hperm, hlog, hreplies⟩ := h.serial
  refine ⟨hcalls, fun reply hreply => h.asked reply (hpending reply hreply),
    log ++ [(call, (call.execute s.settled).2)], ?_, ?_, fun reply hreply => ?_⟩
  · rw [hreported]
    exact hperm.append_right _
  · rw [hsettled]
    exact hlog.snoc call
  · obtain ⟨seen, hthrough, hvalue⟩ := hreplies reply (hpending reply hreply)
    exact ⟨seen, hthrough.append _, hvalue⟩

theorem perm_completed {α : Type} (done waiting : List α) (a : α) :
    (done ++ [a] ++ waiting).Perm (done ++ waiting ++ [a]) := by
  rw [List.append_assoc, List.append_assoc]
  exact List.perm_append_comm.append_left done

/-- A call that asks the store: its reply will be what is settled now. -/
theorem call_of_asks (s : CustomResourceProvider) {c : ResourceCall} (hasks : c.AsksStore) :
    (s.call c).settled = s.settled ∧
      (s.call c).pending = s.pending ++ [⟨c, s.settled c.key⟩] ∧
      (s.call c).reported = s.reported := by
  have hcall : s.call c = { s with requests := s.requests ++ [.get c] } := by
    cases c with
    | removeKey key => exact absurd rfl (hasks.2 key)
    | addResource | updateResource | removeResource =>
      simp [CustomResourceProvider.call, hasks.1]
  rw [hcall]
  refine ⟨?_, ?_, rfl⟩
  · simp [settled, StoreRequest.apply]
  · simp [pending, upcoming_append, upcoming, settled]

theorem SerialSoFar.call (h : SerialSoFar store past s) (c : ResourceCall) :
    SerialSoFar store (past ++ [.call c]) (s.call c) := by
  have hcalls : (s.reported.map Prod.fst ++ [c] ++ s.pending.map StoreReply.call).Perm
      (callsOf (past ++ [.call c])) := by
    rw [callsOf_append]
    exact (perm_completed _ _ c).trans (h.calls.append_right [c])
  by_cases hinvalid : c.invalid = true
  · have hexecute : c.execute s.settled = (s.settled, .kInvalid) := by
      simp [ResourceCall.execute, hinvalid]
    have hcall : s.call c = s.report c .kInvalid := by simp [CustomResourceProvider.call, hinvalid]
    rw [hcall]
    refine h.commit c (by simp [hexecute]) (by simp [hexecute]) (by simpa using hcalls) ?_
    exact fun reply hreply => hreply
  · by_cases hkey : ∃ key, c = .removeKey key
    · obtain ⟨key, rfl⟩ := hkey
      have hcall : s.call (.removeKey key) =
          (s.write (.remove key)).report (.removeKey key) .kOk := rfl
      rw [hcall]
      refine h.commit (.removeKey key) (by simp; rfl) rfl ?_ ?_
      · simpa [upcoming] using hcalls
      · intro reply hreply
        simpa [upcoming] using hreply
    · -- The list is asked for, and what is settled now will be the reply.
      have hasks : c.AsksStore := ⟨by simpa using hinvalid, fun key hc => hkey ⟨key, hc⟩⟩
      obtain ⟨hcallSettled, hcallPending, hcallReported⟩ := call_of_asks s hasks
      obtain ⟨log, hperm, hlog, hreplies⟩ := h.serial
      refine ⟨?_, ?_, log, ?_, ?_, ?_⟩
      · rw [hcallReported, hcallPending]
        refine List.Perm.trans ?_ hcalls
        rw [List.map_append, ← List.append_assoc]
        exact (perm_completed _ _ c).symm
      · intro reply hreply
        rw [hcallPending] at hreply
        rcases List.mem_append.mp hreply with hold | hnew
        · exact h.asked reply hold
        · rw [List.mem_singleton.mp hnew]
          exact hasks
      · rwa [hcallReported]
      · rwa [hcallSettled]
      · intro reply hreply
        rw [hcallPending] at hreply
        rcases List.mem_append.mp hreply with hold | hnew
        · exact hreplies reply hold
        · rw [List.mem_singleton.mp hnew]
          exact ⟨s.settled, .last hlog, rfl⟩

theorem SerialSoFar.execute (h : SerialSoFar store past s) :
    SerialSoFar store (past ++ [.execute]) s.execute := by
  obtain ⟨hsettled, hpending, hreported⟩ := s.execute_spec
  refine ⟨?_, ?_, ?_⟩
  · rw [hreported, hpending, callsOf_append]
    simpa [callsOf] using h.calls
  · rw [hpending]
    exact h.asked
  · rw [hsettled, hpending, hreported]
    exact h.serial

theorem SerialSoFar.handleReply (h : SerialSoFar store past s) (hne : s.replies ≠ [])
    (hcurrent : s.savesCurrent .handleReply) :
    SerialSoFar store (past ++ [.handleReply]) s.handleReply := by
  obtain ⟨reply, rest, hreplies⟩ := List.exists_cons_of_ne_nil hne
  let popped : CustomResourceProvider := { s with replies := rest }
  have hpending : s.pending = reply :: popped.pending := by simp [pending, hreplies, popped]
  have hasks : reply.call.AsksStore := h.asked reply (by simp [hpending])
  have hcalls : (s.reported.map Prod.fst ++ [reply.call] ++
      popped.pending.map StoreReply.call).Perm (callsOf (past ++ [.handleReply])) := by
    rw [callsOf_append]
    simpa [hpending, callsOf] using h.calls
  cases houtcome : reply.call.onResources (listOf reply.value) with
  | mk saved status =>
    cases saved with
    | some resources =>
      -- The list is saved: the call takes effect now.
      have hsaves : reply.call.Saves (listOf reply.value) := by
        by_contra hnot
        simpa [houtcome] using ResourceCall.onResources_eq_none hnot
      have hlist := hcurrent reply (by simp [hreplies]) hsaves
      have hexecute := ResourceCall.execute_of_asks hasks hlist.symm
      rw [houtcome] at hexecute
      have hhandle : s.handleReply =
          (popped.write (.set reply.call.key resources)).report reply.call status := by
        simp [CustomResourceProvider.handleReply, hreplies, houtcome, popped]
      rw [hhandle]
      refine h.commit reply.call ?_ ?_ ?_ ?_
      · rw [hexecute]
        exact write_settled popped (.set reply.call.key resources)
      · rw [hexecute]
        rfl
      · simpa [upcoming, popped] using hcalls
      · intro other hother
        rw [hpending]
        exact List.mem_cons_of_mem _ (by simpa [upcoming] using hother)
    | none =>
      -- Nothing is saved: the call takes effect where its reply was the current list.
      obtain ⟨log, hperm, hlog, hseen⟩ := h.serial
      obtain ⟨seen, hthrough, hvalue⟩ := hseen reply (by simp [hpending])
      have hexecute : reply.call.execute seen = (seen, status) := by
        rw [ResourceCall.execute_of_asks hasks rfl, hvalue, houtcome]
      obtain ⟨log', hperm', hlog', hkeep⟩ := hthrough.insert hlog hexecute
      have hhandle : s.handleReply = popped.report reply.call status := by
        simp [CustomResourceProvider.handleReply, hreplies, houtcome, popped]
      rw [hhandle]
      refine ⟨by simpa using hcalls, fun other hother => ?_, log', ?_, hlog',
        fun other hother => ?_⟩
      · exact h.asked other (by rw [hpending]; exact List.mem_cons_of_mem _ hother)
      · refine hperm'.trans ((hperm.cons _).trans ?_)
        exact (List.perm_append_singleton _ _).symm
      · obtain ⟨other_seen, hother_through, hother_value⟩ :=
          hseen other (by rw [hpending]; exact List.mem_cons_of_mem _ hother)
        exact ⟨other_seen, hkeep _ hother_through, hother_value⟩

theorem SerialSoFar.step (h : SerialSoFar store past s) {e : ResourceEvent} (henabled : s.enabled e)
    (hcurrent : s.savesCurrent e) : SerialSoFar store (past ++ [e]) (s.step e) := by
  cases e with
  | call c => exact h.call c
  | execute => exact h.execute
  | handleReply => exact h.handleReply henabled hcurrent

end Step

end CustomResourceProvider

section Kept

/-- The calls that may take a resource of a name away from a key. -/
def ResourceCall.Touches (key name : String) : ResourceCall → Prop
  | .addResource _ _ => False
  | .updateResource k oldName _ => k = key ∧ oldName = name
  | .removeResource k n => k = key ∧ n = name
  | .removeKey k => k = key

theorem findResource_name {resources : List Value} {name : String} {i : Nat}
    (h : findResource resources name = some i) :
    ∃ resource, resources[i]? = some resource ∧ getResourceName resource = name := by
  obtain ⟨hi, hname, -⟩ := List.findIdx?_eq_some_iff_getElem.mp h
  exact ⟨resources[i], List.getElem?_eq_getElem hi, by simpa using hname⟩

theorem exists_place {resources : List Value} {resource : Value} {name : String} {i : Nat}
    (hmem : resource ∈ resources) (hname : name ≠ getResourceName resource)
    (h : findResource resources name = some i) : ∃ j, j ≠ i ∧ resources[j]? = some resource := by
  obtain ⟨j, hj⟩ := List.mem_iff_getElem?.mp hmem
  obtain ⟨found, hfound, rfl⟩ := findResource_name h
  refine ⟨j, ?_, hj⟩
  rintro rfl
  obtain rfl : resource = found := Option.some.inj (hj.symm.trans hfound)
  exact hname rfl

/-- A resource that a call does not touch stays in the list that the call saves. -/
theorem mem_onResources {call : ResourceCall} {resources saved : List Value} {resource : Value}
    (hmem : resource ∈ resources) (htouch : ¬call.Touches call.key (getResourceName resource))
    (h : (call.onResources resources).1 = some saved) : resource ∈ saved := by
  cases call with
  | addResource key new =>
    cases hfind : findResource resources (getResourceName new) with
    | some i => simp [ResourceCall.onResources, addResourceInternal, hfind] at h
    | none =>
      obtain rfl : resources ++ [new] = saved := by
        simpa [ResourceCall.onResources, addResourceInternal, hfind] using h
      exact List.mem_append_left _ hmem
  | updateResource key oldName new =>
    have hname : oldName ≠ getResourceName resource := fun hold => htouch ⟨rfl, hold⟩
    cases hfind : findResource resources oldName with
    | none => simp [ResourceCall.onResources, updateResourceInternal, hfind] at h
    | some i =>
      obtain ⟨j, hne, hj⟩ := exists_place hmem hname hfind
      simp only [ResourceCall.onResources, updateResourceInternal, hfind] at h
      split at h
      · contradiction
      · obtain rfl := Option.some.inj h
        refine List.mem_iff_getElem?.mpr ⟨j, ?_⟩
        rw [List.getElem?_set_ne hne.symm]
        exact hj
  | removeResource key name =>
    have hname : name ≠ getResourceName resource := fun hold => htouch ⟨rfl, hold⟩
    cases hfind : findResource resources name with
    | none => simp [ResourceCall.onResources, removeResourceInternal, hfind] at h
    | some i =>
      obtain ⟨j, hne, hj⟩ := exists_place hmem hname hfind
      obtain rfl : resources.eraseIdx i = saved := by
        simpa [ResourceCall.onResources, removeResourceInternal, hfind] using h
      exact List.mem_eraseIdx_iff_getElem?.mpr ⟨j, hne, hj⟩
  | removeKey key => exact absurd rfl htouch

@[simp] theorem listOf_list (resources : List Value) :
    listOf (some (.list resources)) = resources :=
  rfl

theorem mem_execute {call : ResourceCall} {store : ValueStore} {key : String} {resource : Value}
    (hmem : resource ∈ listOf (store key)) (htouch : ¬call.Touches key (getResourceName resource)) :
    resource ∈ listOf ((call.execute store).1 key) := by
  by_cases hinvalid : call.invalid = true
  · simpa [ResourceCall.execute, hinvalid] using hmem
  · by_cases hkey : key = call.key
    · subst hkey
      by_cases hremove : ∃ k, call = .removeKey k
      · obtain ⟨k, rfl⟩ := hremove
        exact absurd rfl htouch
      · have hasks : call.AsksStore :=
          ⟨by simpa using hinvalid, fun k hk => hremove ⟨k, hk⟩⟩
        rw [ResourceCall.execute_of_asks hasks rfl]
        split
        · rename_i saved status houtcome
          simpa using mem_onResources hmem htouch (by rw [houtcome])
        · exact hmem
    · rw [ResourceCall.execute_of_ne hkey]
      exact hmem

/-- An addition that reports `kOk` stores the resource. -/
theorem mem_added {store : ValueStore} {key : String} {resource : Value}
    (h : ((ResourceCall.addResource key resource).execute store).2 = .kOk) :
    resource ∈ listOf (((ResourceCall.addResource key resource).execute store).1 key) := by
  by_cases hinvalid : (ResourceCall.addResource key resource).invalid = true
  · simp [ResourceCall.execute, hinvalid] at h
  · have hasks : (ResourceCall.addResource key resource).AsksStore :=
      ⟨by simpa using hinvalid, by simp⟩
    rw [ResourceCall.execute_of_asks hasks rfl] at h ⊢
    cases hfind : findResource (listOf (store key)) (getResourceName resource) with
    | some i =>
      simp [ResourceCall.onResources, ResourceCall.key, addResourceInternal, hfind] at h
    | none => simp [ResourceCall.onResources, ResourceCall.key, addResourceInternal, hfind]

/-- A resource that was added is found until a later call touches it. -/
theorem mem_of_added {store t : ValueStore} {key : String} {resource : Value}
    {before after : List (ResourceCall × ErrorCode)}
    (h : Execution ResourceCall.execute store
      (before ++ (.addResource key resource, .kOk) :: after) t)
    (htouch : ∀ entry ∈ after, ¬entry.1.Touches key (getResourceName resource)) :
    resource ∈ listOf (t key) := by
  obtain ⟨u, -, hrest⟩ := h.of_append
  obtain ⟨hstatus, hafter⟩ := hrest.of_cons
  refine hafter.preserves (P := fun v => resource ∈ listOf (v key)) ?_ (mem_added hstatus)
  intro entry hentry v hmem
  exact mem_execute hmem (htouch entry hentry)

end Kept

namespace CustomResourceProvider

/-- Where each reply that is saved is handled while its list is the current one, the calls are
serial: the statuses and the stored lists are those of some order of the calls.  A resource whose
addition was reported is stored unless a later call touched it. -/
theorem calls_serial {store : ValueStore} {es : List ResourceEvent} {s : CustomResourceProvider}
    (run : Run (machine.restrict savesCurrent) (init store) es s) (hidle : s.Idle) :
    ∃ order : List (ResourceCall × ErrorCode),
      (order.map Prod.fst).Perm (callsOf es) ∧ order.Perm s.reported ∧
      Execution ResourceCall.execute store order s.store ∧
      ∀ before key resource after,
        order = before ++ (.addResource key resource, .kOk) :: after →
        (∀ entry ∈ after, ¬entry.1.Touches key (getResourceName resource)) →
        resource ∈ listOf (s.store key) := by
  have hserial : SerialSoFar store ([] ++ es) s := by
    refine run.preserves_past (P := SerialSoFar store) ?_ (serialSoFar_init store)
    rintro past s e s' ⟨henabled, hcurrent⟩ hstep h
    obtain rfl := Except.ok.inj hstep
    exact h.step henabled hcurrent
  obtain ⟨hrequests, hreplies⟩ := hidle
  have hsettled : s.settled = s.store := by simp [settled, hrequests]
  have hpending : s.pending = [] := by simp [pending, hrequests, hreplies, upcoming]
  obtain ⟨order, hperm, hexec, -⟩ := hserial.serial
  rw [hsettled] at hexec
  refine ⟨order, ?_, hperm, hexec, ?_⟩
  · refine (hperm.map Prod.fst).trans ?_
    simpa [hpending] using hserial.calls
  · rintro before key resource after rfl htouch
    exact mem_of_added hexec htouch

instance (s : CustomResourceProvider) : ∀ e, Decidable (s.savesCurrent e)
  | .handleReply => inferInstanceAs (Decidable (∀ reply ∈ s.replies.head?,
      reply.call.Saves (listOf reply.value) →
        listOf reply.value = listOf (s.settled reply.call.key)))
  | .call _ | .execute => inferInstanceAs (Decidable True)

/-- A scriptlet as the import page makes it. -/
def scriptlet (name : String) : Value :=
  .dict [(kContentField, .string "dGVzdA=="), ("kind", .dict [("mime", .string kAppJs)]),
    (kNameField, .string name)]

def addScriptlet (name : String) : ResourceCall :=
  .addResource kStorageScriptletsKey (scriptlet name)

/-- The second scriptlet is added when the first one's list is saved. -/
def importInTurn : List ResourceEvent :=
  [.call (addScriptlet "user-1.js"), .execute, .handleReply, .call (addScriptlet "user-2.js"),
    .execute, .execute, .handleReply, .execute]

theorem calls_serial_in_turn :
    ∃ s, Run (machine.restrict savesCurrent) (init fun _ => none) importInTurn s ∧
      listOf (s.store kStorageScriptletsKey) = [scriptlet "user-1.js", scriptlet "user-2.js"] ∧
      ∃ order : List (ResourceCall × ErrorCode),
        (order.map Prod.fst).Perm (callsOf importInTurn) ∧ order.Perm s.reported ∧
        Execution ResourceCall.execute (fun _ => none) order s.store := by
  obtain ⟨s, run, hs⟩ := Machine.exists_run (machine.restrict savesCurrent) (init fun _ => none)
    importInTurn (fun s => decide (s.Idle ∧ listOf (s.store kStorageScriptletsKey) =
      [scriptlet "user-1.js", scriptlet "user-2.js"])) (by decide)
  obtain ⟨hidle, hlist⟩ := of_decide_eq_true hs
  obtain ⟨order, hcalls, hreported, hexec, -⟩ := calls_serial run hidle
  exact ⟨s, run, hlist, order, hcalls, hreported, hexec⟩

/-- Both scriptlets are added before the first list is saved. -/
def importAtOnce : List ResourceEvent :=
  [.call (addScriptlet "user-1.js"), .call (addScriptlet "user-2.js"), .execute, .execute,
    .handleReply, .handleReply, .execute, .execute]

/-- Both additions report `kOk`, but the first scriptlet is not stored, and no order of the calls
gives that. -/
theorem overlapping_addition_lost :
    ∃ s, Run machine (init fun _ => none) importAtOnce s ∧ s.Idle ∧
      s.reported = [(addScriptlet "user-1.js", .kOk), (addScriptlet "user-2.js", .kOk)] ∧
      listOf (s.store kStorageScriptletsKey) = [scriptlet "user-2.js"] ∧
      ∀ order : List (ResourceCall × ErrorCode), order.Perm s.reported →
        ¬Execution ResourceCall.execute (fun _ => none) order s.store := by
  obtain ⟨s, run, hs⟩ := Machine.exists_run machine (init fun _ => none) importAtOnce
    (fun s => decide (s.Idle ∧
      s.reported = [(addScriptlet "user-1.js", .kOk), (addScriptlet "user-2.js", .kOk)] ∧
      listOf (s.store kStorageScriptletsKey) = [scriptlet "user-2.js"])) (by decide)
  obtain ⟨hidle, hreported, hlist⟩ := of_decide_eq_true hs
  refine ⟨s, run, hidle, hreported, hlist, fun order hperm hexec => ?_⟩
  rw [hreported] at hperm
  obtain ⟨before, after, rfl⟩ := List.append_of_mem (hperm.mem_iff.mpr (.head _))
  have hmem := mem_of_added hexec fun entry hentry => by
    have : entry ∈ [(addScriptlet "user-1.js", ErrorCode.kOk), (addScriptlet "user-2.js", .kOk)] :=
      hperm.mem_iff.mp (by simp [hentry])
    rcases List.mem_pair.mp this with rfl | rfl <;> exact id
  rw [hlist] at hmem
  exact absurd hmem (by decide)

end CustomResourceProvider

end ChromiumAdblock
