import ChromiumAdblock.Lib.Barrier
import ChromiumAdblock.Lib.Queue
import ChromiumAdblock.Shields.ServiceSteps

/-! Filter sets are complete.  A load waits for one callback of each provider that was registered
when it was made, and a callback is lost only with its provider.  So a filter set that is delivered
has the list of each of them exactly once; a load that delivers none has lost a provider, whose
destruction has started a newer load. -/

namespace ChromiumAdblock

open EventMachine Barrier

/-- The provider whose callback a task brings to a load. -/
def ServiceTask.owes (load : Nat) : ServiceTask → Option Nat
  | loadFilterSet l provider => if l = load then some provider else none
  | runCallback l list => if l = load then some list.provider else none
  | onDATFileDataReady l provider _ => if l = load then some provider else none
  | onFilterSetCreated _ _ | onReadCachedDATFiles _ _ | onDATLoaded _ _ | onEngineLoaded _ _ _ =>
    none

def ListRead.owes (load : Nat) (read : ListRead) : Option Nat :=
  if read.load = load then some read.provider else none

namespace AdBlockService

variable {ρ σ : Type}

/-- The providers whose callbacks are under way to a load. -/
def owed (s : AdBlockService ρ σ) (load : Nat) : List Nat :=
  s.ui.filterMap (ServiceTask.owes load) ++ s.reads.filterMap (ListRead.owes load)

/-- The loads that were made, with the providers that may be lost to each. -/
structure Gathers (lost : Nat → Nat → Prop) (s : AdBlockService ρ σ) : Prop where
  ids : ∀ engine, (s.providerIds engine).Nodup
  fresh : ∀ engine, ∀ id ∈ s.providerIds engine, id < s.nextProvider
  observed : ∀ n < s.nextLoad, (s.manager (s.loads n).isForDefaultEngine).observed = true
  accounted : ∀ n < s.nextLoad, Accounted (s.loads n).providers (s.owed n)
    ((s.loads n).results.map (·.provider)) (lost n)
  registered : ∀ n < s.nextLoad, ∀ id ∈ (s.loads n).providers,
    id ∈ s.providerIds (s.loads n).isForDefaultEngine ∨ lost n id
  delivered : ∀ n < s.nextLoad, ∀ filterSet, (n, filterSet) ∈ s.delivered ↔
    filterSet = (s.loads n).results ∧
      (s.loads n).results.length = (s.loads n).providers.length
  once : (s.delivered.map Prod.fst).Nodup
  unused : ∀ n, s.nextLoad ≤ n → s.owed n = [] ∧ ∀ filterSet, (n, filterSet) ∉ s.delivered

/-- What a step does to the loads: it keeps those that were made, and each that it makes asks the
providers that are registered then. -/
structure Extends (s s' : AdBlockService ρ σ) : Prop where
  nextLoad : s.nextLoad ≤ s'.nextLoad
  engine : ∀ n < s.nextLoad, (s'.loads n).isForDefaultEngine = (s.loads n).isForDefaultEngine
  asked : ∀ n < s.nextLoad, (s'.loads n).providers = (s.loads n).providers
  started : ∀ n, s.nextLoad ≤ n → n < s'.nextLoad →
    (s'.loads n).providers = s'.providerIds (s'.loads n).isForDefaultEngine

/-- A step, or a part of one, that registers and destroys no provider. -/
structure Advances (lost : Nat → Nat → Prop) (s s' : AdBlockService ρ σ) : Prop
    extends Extends s s' where
  ids : ∀ engine, s'.providerIds engine = s.providerIds engine
  observed : ∀ engine, (s.manager engine).observed = true → (s'.manager engine).observed = true
  gathers : s.Gathers lost → s'.Gathers lost

variable {lost lost' : Nat → Nat → Prop} {s s' s'' : AdBlockService ρ σ}

theorem Advances.trans (first : Advances lost s s') (second : Advances lost s' s'') :
    Advances lost s s'' where
  nextLoad := Nat.le_trans first.nextLoad second.nextLoad
  engine n hn :=
    (second.engine n (Nat.lt_of_lt_of_le hn first.nextLoad)).trans (first.engine n hn)
  asked n hn := (second.asked n (Nat.lt_of_lt_of_le hn first.nextLoad)).trans (first.asked n hn)
  started n hn hlt := by
    by_cases hmade : n < s'.nextLoad
    · rw [second.asked n hmade, second.engine n hmade, second.ids]
      exact first.started n hn hmade
    · exact second.started n (Nat.le_of_not_lt hmade) hlt
  ids engine := (second.ids engine).trans (first.ids engine)
  observed engine h := second.observed engine (first.observed engine h)
  gathers h := second.gathers (first.gathers h)

theorem Gathers.mono (h : s.Gathers lost) (hlost : ∀ n id, lost n id → lost' n id) :
    s.Gathers lost' where
  ids := h.ids
  fresh := h.fresh
  observed := h.observed
  accounted n hn := (h.accounted n hn).mono (hlost n)
  registered n hn id hid := (h.registered n hn id hid).imp_right (hlost n id)
  delivered := h.delivered
  once := h.once
  unused := h.unused

/-- A part of a step that leaves the loads and the providers as they are. -/
structure SameLoads (s s' : AdBlockService ρ σ) : Prop where
  loads : s'.loads = s.loads
  nextLoad : s'.nextLoad = s.nextLoad
  delivered : s'.delivered = s.delivered
  nextProvider : s'.nextProvider = s.nextProvider
  ids : ∀ engine, s'.providerIds engine = s.providerIds engine
  observed : ∀ engine, (s.manager engine).observed = true → (s'.manager engine).observed = true
  owed : ∀ n, (s'.owed n).Perm (s.owed n)

theorem SameLoads.gathers (same : SameLoads s s') (h : s.Gathers lost) : s'.Gathers lost where
  ids engine := by
    rw [same.ids]
    exact h.ids engine
  fresh engine := by
    rw [same.ids, same.nextProvider]
    exact h.fresh engine
  observed := by
    rw [same.loads, same.nextLoad]
    exact fun n hn => same.observed _ (h.observed n hn)
  accounted := by
    rw [same.loads, same.nextLoad]
    exact fun n hn => (h.accounted n hn).perm (same.owed n)
  registered := by
    rw [same.loads, same.nextLoad]
    intro n hn id hid
    rw [same.ids]
    exact h.registered n hn id hid
  delivered := by
    rw [same.loads, same.nextLoad, same.delivered]
    exact h.delivered
  once := by
    rw [same.delivered]
    exact h.once
  unused := by
    rw [same.nextLoad, same.delivered]
    intro n hn
    obtain ⟨howed, hnot⟩ := h.unused n hn
    refine ⟨?_, hnot⟩
    have hperm := same.owed n
    rw [howed] at hperm
    exact hperm.eq_nil

theorem SameLoads.advances (same : SameLoads s s') : Advances lost s s' where
  nextLoad := Nat.le_of_eq same.nextLoad.symm
  engine n _ := by rw [same.loads]
  asked n _ := by rw [same.loads]
  started n hn hlt := by
    have := same.nextLoad
    omega
  ids := same.ids
  observed := same.observed
  gathers := same.gathers

section Delivered

variable {delivered : List (Nat × FilterSet)} {c : Prop} [Decidable c] {m n : Nat}
  {filterSet new : FilterSet}

theorem mem_deliver_other (hm : m ≠ n) :
    (m, filterSet) ∈ delivered ++ (if c then [(n, new)] else []) ↔ (m, filterSet) ∈ delivered := by
  by_cases hc : c <;> simp [hc, hm]

theorem mem_deliver_self (hnot : ∀ filterSet, (n, filterSet) ∉ delivered) :
    (n, filterSet) ∈ delivered ++ (if c then [(n, new)] else []) ↔ filterSet = new ∧ c := by
  by_cases hc : c <;> simp [hc, hnot]

theorem nodup_deliver (h : (delivered.map Prod.fst).Nodup)
    (hnot : ∀ filterSet, (n, filterSet) ∉ delivered) :
    ((delivered ++ (if c then [(n, new)] else [])).map Prod.fst).Nodup := by
  rw [List.map_append]
  split
  · refine List.nodup_append'.mpr ⟨h, by simp, ?_⟩
    intro m hm hmem
    obtain rfl : m = n := by simpa using hmem
    obtain ⟨entry, hentry, hfst⟩ := List.mem_map.mp hm
    exact hnot entry.2 (hfst ▸ hentry)
  · simpa using h

end Delivered

section Start

variable (s) (engine : Bool)

@[simp] theorem start_loads : (s.loadFilterSetForEngine engine).loads =
    Function.update s.loads s.nextLoad ⟨engine, s.providerIds engine, []⟩ := by
  unfold loadFilterSetForEngine
  split <;> rfl

@[simp] theorem start_nextLoad : (s.loadFilterSetForEngine engine).nextLoad = s.nextLoad + 1 := by
  unfold loadFilterSetForEngine
  split <;> rfl

@[simp] theorem start_manager : (s.loadFilterSetForEngine engine).manager = s.manager := by
  unfold loadFilterSetForEngine
  split <;> rfl

@[simp] theorem start_nextProvider :
    (s.loadFilterSetForEngine engine).nextProvider = s.nextProvider := by
  unfold loadFilterSetForEngine
  split <;> rfl

@[simp] theorem start_providerIds (e : Bool) :
    (s.loadFilterSetForEngine engine).providerIds e = s.providerIds e := by
  simp [providerIds]

theorem start_delivered : (s.loadFilterSetForEngine engine).delivered =
    s.delivered ++ if s.providerIds engine = [] then [(s.nextLoad, [])] else [] := by
  unfold loadFilterSetForEngine
  split
  · rfl
  · exact (List.append_nil _).symm

theorem start_owed (n : Nat) : ((s.loadFilterSetForEngine engine).owed n).Perm
    ((if s.nextLoad = n then s.providerIds engine else []) ++ s.owed n) := by
  have hui : (s.loadFilterSetForEngine engine).ui =
      s.ui ++ (s.providerIds engine).map (.loadFilterSet s.nextLoad) := by
    unfold loadFilterSetForEngine
    split <;> rfl
  have hreads : (s.loadFilterSetForEngine engine).reads = s.reads := by
    unfold loadFilterSetForEngine
    split <;> rfl
  have hasks : ((s.providerIds engine).map (ServiceTask.loadFilterSet s.nextLoad)).filterMap
      (ServiceTask.owes n) = if s.nextLoad = n then s.providerIds engine else [] := by
    by_cases hn : s.nextLoad = n <;>
      simp [List.filterMap_map, ServiceTask.owes, hn, Function.comp_def]
  rw [owed, owed, hui, hreads, List.filterMap_append, hasks]
  refine List.perm_iff_count.mpr fun id => ?_
  simp only [List.count_append]
  omega

end Start

theorem loadFilterSetForEngine_advances {engine : Bool}
    (hobserved : (s.manager engine).observed = true) :
    Advances lost s (s.loadFilterSetForEngine engine) := by
  have hold : ∀ n < s.nextLoad, (s.loadFilterSetForEngine engine).loads n = s.loads n := by
    intro n hn
    rw [start_loads, Function.update_of_ne (by omega)]
  have hnew : (s.loadFilterSetForEngine engine).loads s.nextLoad =
      ⟨engine, s.providerIds engine, []⟩ := by
    rw [start_loads, Function.update_self]
  have hlast : ∀ n, n < (s.loadFilterSetForEngine engine).nextLoad →
      n < s.nextLoad ∨ n = s.nextLoad := by
    intro n hn
    rw [start_nextLoad] at hn
    omega
  refine ⟨⟨by simp, fun n hn => by rw [hold n hn], fun n hn => by rw [hold n hn], ?_⟩,
    fun e => start_providerIds s engine e, fun e he => by rwa [start_manager], ?_⟩
  · intro n hn hlt
    obtain rfl : n = s.nextLoad := (hlast n hlt).resolve_left (by omega)
    rw [hnew, start_providerIds]
  intro h
  obtain ⟨hnone, hnot⟩ := h.unused s.nextLoad (Nat.le_refl _)
  constructor
  · simpa using h.ids
  · simpa using h.fresh
  · intro n hn
    rw [start_manager]
    rcases hlast n hn with hlt | rfl
    · rw [hold n hlt]
      exact h.observed n hlt
    · rw [hnew]
      exact hobserved
  · intro n hn
    have howed := s.start_owed engine n
    rcases hlast n hn with hlt | rfl
    · rw [if_neg (by omega)] at howed
      rw [hold n hlt]
      exact (h.accounted n hlt).perm howed
    · rw [if_pos rfl, hnone, List.append_nil] at howed
      rw [hnew]
      exact (Accounted.start (h.ids engine)).perm howed
  · intro n hn
    rcases hlast n hn with hlt | rfl
    · rw [hold n hlt]
      simpa using h.registered n hlt
    · rw [hnew]
      exact fun id hid => .inl (by simpa using hid)
  · intro n hn filterSet
    rw [start_delivered]
    rcases hlast n hn with hlt | rfl
    · rw [mem_deliver_other (by omega), hold n hlt]
      exact h.delivered n hlt filterSet
    · rw [mem_deliver_self hnot, hnew, List.length_nil, eq_comm (a := 0),
        List.length_eq_zero_iff]
  · rw [start_delivered]
    exact nodup_deliver h.once hnot
  · intro n hn
    rw [start_nextLoad] at hn
    obtain ⟨howed, hunused⟩ := h.unused n (by omega)
    have hperm := s.start_owed engine n
    rw [if_neg (by omega), howed] at hperm
    refine ⟨hperm.eq_nil, fun filterSet hmem => ?_⟩
    rw [start_delivered, mem_deliver_other (by omega)] at hmem
    exact hunused filterSet hmem

section Tasks

variable {task : ServiceTask} {rest : List ServiceTask} {n id : Nat} {list : FilterList}

theorem owed_ui (hui : s.ui = task :: rest) (m : Nat) :
    s.owed m = (task.owes m).toList ++ { s with ui := rest }.owed m := by
  rw [owed, owed, hui, Queue.filterMap_head, List.append_assoc]

/-- A task that brings a callback to a load: the load was made, and has not delivered. -/
theorem Gathers.owed (h : s.Gathers lost) (hmem : id ∈ s.owed n) :
    n < s.nextLoad ∧ id ∈ (s.loads n).providers ∧
      (s.loads n).results.length ≠ (s.loads n).providers.length ∧
      ∀ filterSet, (n, filterSet) ∉ s.delivered := by
  have hmade : n < s.nextLoad := by
    by_contra hlater
    rw [(h.unused n (Nat.le_of_not_lt hlater)).1] at hmem
    exact absurd hmem List.not_mem_nil
  have hacc := h.accounted n hmade
  have hlength : (s.loads n).results.length ≠ (s.loads n).providers.length := by
    intro hfull
    rw [(hacc.full (by simpa using hfull)).2] at hmem
    exact absurd hmem List.not_mem_nil
  refine ⟨hmade, hacc.known id (List.mem_append_left _ hmem), hlength, fun filterSet hdone => ?_⟩
  exact hlength ((h.delivered n hmade filterSet).mp hdone).2

theorem collect_loads (m : Nat) : (s.collect n list).loads m =
    if m = n then { s.loads n with results := (s.loads n).results ++ [list] } else s.loads m := by
  have hloads : (s.collect n list).loads = Function.update s.loads n
      { s.loads n with results := (s.loads n).results ++ [list] } := by
    unfold collect
    split <;> rfl
  rw [hloads, Function.update_apply]

/-- A list that arrives changes neither the engine of a load nor the providers that it asks. -/
theorem collect_asks (m : Nat) :
    ((s.collect n list).loads m).isForDefaultEngine = (s.loads m).isForDefaultEngine ∧
      ((s.collect n list).loads m).providers = (s.loads m).providers := by
  rw [collect_loads]
  split
  · rename_i hm
    rw [hm]
    exact ⟨rfl, rfl⟩
  · exact ⟨rfl, rfl⟩

theorem collect_delivered : (s.collect n list).delivered = s.delivered ++
    if (s.loads n).results.length + 1 = (s.loads n).providers.length then
      [(n, (s.loads n).results ++ [list])] else [] := by
  unfold collect
  split
  · rfl
  · exact (List.append_nil _).symm

theorem collect_frame (n : Nat) (list : FilterList) : (s.collect n list).nextLoad = s.nextLoad ∧
    (s.collect n list).manager = s.manager ∧
    (s.collect n list).nextProvider = s.nextProvider ∧
    (s.collect n list).owed = s.owed := by
  unfold collect
  split <;> exact ⟨rfl, rfl, rfl, rfl⟩

theorem Gathers.collect (h : s.Gathers lost) (hui : s.ui = task :: rest)
    (howes : ∀ m, task.owes m = if n = m then some list.provider else none) :
    ({ s with ui := rest }.collect n list).Gathers lost := by
  let popped : AdBlockService ρ σ := { s with ui := rest }
  obtain ⟨hnext, hmanager, hprovider, howed⟩ :
      (popped.collect n list).nextLoad = s.nextLoad ∧
        (popped.collect n list).manager = s.manager ∧
        (popped.collect n list).nextProvider = s.nextProvider ∧
        (popped.collect n list).owed = popped.owed := collect_frame n list
  have hids : ∀ e, (popped.collect n list).providerIds e = s.providerIds e := fun e => by
    rw [providerIds, hmanager, providerIds]
  have hdelivered : (popped.collect n list).delivered = s.delivered ++
      if (s.loads n).results.length + 1 = (s.loads n).providers.length then
        [(n, (s.loads n).results ++ [list])] else [] := collect_delivered
  have hself : (popped.collect n list).loads n =
      { s.loads n with results := (s.loads n).results ++ [list] } := by
    rw [collect_loads, if_pos rfl]
  have hother : ∀ m, m ≠ n → (popped.collect n list).loads m = s.loads m := fun m hm => by
    rw [collect_loads, if_neg hm]
  have hkept : ∀ m, ((popped.collect n list).loads m).isForDefaultEngine =
        (s.loads m).isForDefaultEngine ∧
      ((popped.collect n list).loads m).providers = (s.loads m).providers :=
    fun m => collect_asks m
  have howedSelf : s.owed n = list.provider :: popped.owed n := by
    rw [owed_ui hui, howes, if_pos rfl]
    rfl
  have howedOther : ∀ m, m ≠ n → s.owed m = popped.owed m := fun m hm => by
    rw [owed_ui hui, howes, if_neg (Ne.symm hm)]
    rfl
  have hwaits : list.provider ∈ s.owed n := by
    rw [howedSelf]
    exact List.mem_cons_self
  obtain ⟨hmade, hknown, hlength, hnot⟩ := h.owed hwaits
  show (popped.collect n list).Gathers lost
  constructor
  · intro engine
    rw [hids]
    exact h.ids engine
  · intro engine
    rw [hids, hprovider]
    exact h.fresh engine
  · intro m hm
    rw [hnext] at hm
    rw [hmanager, (hkept m).1]
    exact h.observed m hm
  · intro m hm
    rw [hnext] at hm
    rw [howed]
    by_cases hmn : m = n
    · subst hmn
      rw [hself, List.map_append]
      have hacc := h.accounted m hm
      rw [howedSelf] at hacc
      exact hacc.arrive
    · rw [hother m hmn, ← howedOther m hmn]
      exact h.accounted m hm
  · intro m hm
    rw [hnext] at hm
    rw [(hkept m).1, (hkept m).2, hids]
    exact h.registered m hm
  · intro m hm filterSet
    rw [hnext] at hm
    rw [hdelivered]
    by_cases hmn : m = n
    · subst hmn
      rw [mem_deliver_self hnot, hself, List.length_append, List.length_singleton]
    · rw [mem_deliver_other hmn, hother m hmn]
      exact h.delivered m hm filterSet
  · rw [hdelivered]
    exact nodup_deliver h.once hnot
  · intro m hm
    rw [hnext] at hm
    have hmn : m ≠ n := by omega
    obtain ⟨hnone, hunused⟩ := h.unused m hm
    rw [howed, ← howedOther m hmn]
    refine ⟨hnone, fun filterSet hmem => ?_⟩
    rw [hdelivered, mem_deliver_other hmn] at hmem
    exact hunused filterSet hmem

theorem Gathers.drop (h : s.Gathers lost) (hui : s.ui = task :: rest)
    (howes : ∀ m, task.owes m = if n = m then some id else none)
    (hgone : s.provider? (s.loads n).isForDefaultEngine id = none) :
    { s with ui := rest }.Gathers lost := by
  have howedSelf : s.owed n = id :: { s with ui := rest }.owed n := by
    rw [owed_ui hui, howes, if_pos rfl]
    rfl
  have howedOther : ∀ m, m ≠ n → s.owed m = { s with ui := rest }.owed m := fun m hm => by
    rw [owed_ui hui, howes, if_neg (Ne.symm hm)]
    rfl
  have hwaits : id ∈ s.owed n := by
    rw [howedSelf]
    exact List.mem_cons_self
  obtain ⟨hmade, hknown, -, -⟩ := h.owed hwaits
  have hlost : lost n id := by
    refine (h.registered n hmade id hknown).resolve_left fun hmem => ?_
    obtain ⟨p, hp, rfl⟩ := List.mem_map.mp hmem
    have hnone := List.find?_eq_none.mp hgone p hp
    simp at hnone
  refine ⟨h.ids, h.fresh, h.observed, fun m hm => ?_, h.registered, h.delivered, h.once, ?_⟩
  · by_cases hmn : m = n
    · subst hmn
      have hacc := h.accounted m hm
      rw [howedSelf] at hacc
      exact hacc.lose hlost
    · have hacc := h.accounted m hm
      rwa [howedOther m hmn] at hacc
  · intro m hm
    have hlater : s.nextLoad ≤ m := hm
    have hmn : m ≠ n := by omega
    rw [← howedOther m hmn]
    exact h.unused m hm

end Tasks

section Manager

/-- A function of the manager that neither adds nor removes a provider, and tells the observer only
where it is there. -/
structure KeepsProviders (m : EngineProviders) (outcome : EngineProviders × Bool) : Prop where
  ids : outcome.1.filtersProviders.map (·.id) = m.filtersProviders.map (·.id)
  observed : m.observed = true → outcome.1.observed = true
  told : outcome.2 = true → outcome.1.observed = true

variable {m : EngineProviders}

theorem keepsProviders_onChanged : KeepsProviders m m.onChanged := by
  cases hall : m.areAllProvidersInitialized with
  | false =>
    rw [EngineProviders.onChanged_of_not_initialized hall]
    exact ⟨rfl, id, by simp⟩
  | true =>
    cases hsuppress : m.suppressStartupChangeNotification with
    | true =>
      rw [EngineProviders.onChanged_of_suppressed hall hsuppress]
      exact ⟨rfl, id, by simp⟩
    | false =>
      rw [EngineProviders.onChanged_of_passed hall hsuppress]
      exact ⟨rfl, id, id⟩

theorem keepsProviders_providerChanged (id : Nat) : KeepsProviders m (m.providerChanged id) := by
  have honChanged : KeepsProviders
      { m with filtersProviders := m.filtersProviders.map (.announce id) } (m.providerChanged id) :=
    keepsProviders_onChanged
  refine ⟨honChanged.ids.trans ?_, honChanged.observed, honChanged.told⟩
  rw [List.map_map]
  refine List.map_congr_left fun p _ => ?_
  show (p.announce id).id = p.id
  unfold ManagedProvider.announce
  split <;> rfl

theorem keepsProviders_forceNotifyObserver (hobserved : m.observed = true) :
    KeepsProviders m m.forceNotifyObserver := by
  cases hsuppress : m.suppressStartupChangeNotification with
  | true =>
    rw [EngineProviders.forceNotifyObserver_of_suppressed hsuppress]
    exact ⟨rfl, id, by simp⟩
  | false =>
    rw [EngineProviders.forceNotifyObserver_of_passed hsuppress]
    exact ⟨rfl, id, fun _ => hobserved⟩

theorem keepsProviders_providerInitialized (id : Nat) :
    KeepsProviders m (m.providerInitialized id, false) := by
  refine ⟨?_, fun h => h, by simp⟩
  show (m.filtersProviders.map (ManagedProvider.setInitialized id)).map ManagedProvider.id = _
  rw [List.map_map]
  refine List.map_congr_left fun p _ => ?_
  show (p.setInitialized id).id = p.id
  unfold ManagedProvider.setInitialized
  split <;> rfl

theorem withProviders_ids (engine e : Bool) : (s.withProviders engine m).providerIds e =
    if e = engine then m.filtersProviders.map (·.id) else s.providerIds e := by
  by_cases he : e = engine <;> simp [withProviders, providerIds, he]

theorem withProviders_sameLoads {engine : Bool} {told : Bool}
    (h : KeepsProviders (s.manager engine) (m, told)) : SameLoads s (s.withProviders engine m) := by
  refine ⟨rfl, rfl, rfl, rfl, fun e => ?_, fun e he => ?_, fun n => .rfl⟩
  · rw [withProviders_ids]
    split
    · rename_i heq
      subst heq
      exact h.ids
    · rfl
  · by_cases heq : e = engine
    · subst heq
      simpa [withProviders] using h.observed he
    · simpa [withProviders, heq] using he

theorem tell_advances {engine : Bool} {outcome : EngineProviders × Bool}
    (h : KeepsProviders (s.manager engine) outcome) : Advances lost s (s.tell engine outcome) := by
  have hsame : SameLoads s (s.withProviders engine outcome.1) := withProviders_sameLoads h
  unfold tell
  split
  · rename_i htold
    refine hsame.advances.trans (loadFilterSetForEngine_advances ?_)
    simpa [withProviders] using h.told htold
  · exact hsame.advances

end Manager

section UiTasks

variable {lib : AdblockRust ρ σ} {task : ServiceTask} {rest : List ServiceTask} {n id : Nat}

/-- The loads and the providers. -/
def loadParts (s : AdBlockService ρ σ) :=
  (s.loads, s.nextLoad, s.delivered, s.nextProvider, s.manager)

/-- A part of a step that leaves the loads alone, and posts nothing to them. -/
theorem sameLoads_of_eq (hparts : s'.loadParts = s.loadParts)
    (howed : ∀ n, (s'.owed n).Perm (s.owed n)) : SameLoads s s' := by
  simp only [loadParts, Prod.mk.injEq] at hparts
  obtain ⟨hloads, hnext, hdelivered, hprovider, hmanager⟩ := hparts
  refine ⟨hloads, hnext, hdelivered, hprovider, fun engine => ?_, fun engine h => ?_, howed⟩
  · rw [providerIds, hmanager, providerIds]
  · rwa [hmanager]

theorem advances_of_parts (hparts : s'.loadParts = s.loadParts)
    (howed : ∀ n, (s'.owed n).Perm (s.owed n)) : Advances lost s s' :=
  (sameLoads_of_eq hparts howed).advances

theorem owed_postUi (task : ServiceTask) (m : Nat) :
    ((s.postUi task).owed m).Perm ((task.owes m).toList ++ s.owed m) := by
  rw [owed, owed, postUi, Queue.filterMap_post]
  refine List.perm_iff_count.mpr fun id => ?_
  simp only [List.count_append]
  omega

theorem sameLoads_pop (hui : s.ui = task :: rest) (howes : ∀ m, task.owes m = none) :
    SameLoads s { s with ui := rest } := by
  refine sameLoads_of_eq rfl fun m => ?_
  rw [owed_ui hui, howes]
  exact .rfl

/-- What a task does for a load: the load was made before, and is kept all right. -/
theorem advances_of_task (hnext : s'.nextLoad = s.nextLoad) (hmanager : s'.manager = s.manager)
    (hengine : ∀ m, (s'.loads m).isForDefaultEngine = (s.loads m).isForDefaultEngine)
    (hasked : ∀ m, (s'.loads m).providers = (s.loads m).providers)
    (hgathers : s.Gathers lost → s'.Gathers lost) : Advances lost s s' where
  nextLoad := Nat.le_of_eq hnext.symm
  engine m _ := hengine m
  asked m _ := hasked m
  started m hm hlt := by omega
  ids engine := by rw [providerIds, hmanager, providerIds]
  observed engine h := by rwa [hmanager]
  gathers := hgathers

theorem collect_advances {list : FilterList} (hui : s.ui = task :: rest)
    (howes : ∀ m, task.owes m = if n = m then some list.provider else none) :
    Advances lost s ({ s with ui := rest }.collect n list) := by
  have hframe := collect_frame (s := { s with ui := rest }) n list
  exact advances_of_task hframe.1 hframe.2.1 (fun m => (collect_asks m).1)
    (fun m => (collect_asks m).2) fun h => h.collect hui howes

theorem drop_advances (hui : s.ui = task :: rest)
    (howes : ∀ m, task.owes m = if n = m then some id else none)
    (hgone : s.provider? (s.loads n).isForDefaultEngine id = none) :
    Advances lost s { s with ui := rest } :=
  advances_of_task rfl rfl (fun _ => rfl) (fun _ => rfl) fun h => h.drop hui howes hgone

theorem loadFilterSet_advances (hui : s.ui = .loadFilterSet n id :: rest) :
    Advances lost s ({ s with ui := rest }.loadFilterSet n id) := by
  unfold loadFilterSet
  split
  · rename_i hgone
    exact drop_advances hui (fun _ => rfl) hgone
  · split
    · refine advances_of_parts rfl fun m => ?_
      rw [owed_ui hui]
      exact owed_postUi _ m
    · refine advances_of_parts rfl fun m => ?_
      rw [owed_ui hui, owed, owed, Queue.filterMap_post]
      refine List.perm_iff_count.mpr fun p => ?_
      have hsame : ServiceTask.owes m (.loadFilterSet n id) = ListRead.owes m ⟨n, id⟩ := rfl
      simp only [List.count_append, hsame]
      omega

theorem onDATLoaded_advances (engine success : Bool)
    (hobserved : (s.manager engine).observed = true) :
    Advances lost s (s.onDATLoaded engine success) := by
  have hnotify : ∀ t : AdBlockService ρ σ, SameLoads t (t.notifyDATLoaded engine success) :=
    fun t => sameLoads_of_eq rfl fun _ => .rfl
  unfold onDATLoaded
  split
  · rename_i hsuccess
    rw [← hsuccess]
    exact (hnotify s).advances
  · rename_i hfailed
    have hforced : SameLoads s { s with forced := s.forced ++ [engine] } :=
      sameLoads_of_eq rfl fun _ => .rfl
    rw [show false = success by simpa using hfailed]
    refine hforced.advances.trans (Advances.trans ?_ (hnotify _).advances)
    exact tell_advances (keepsProviders_forceNotifyObserver hobserved)

theorem onReadCachedDATFile_advances (engine : Bool) (dat : Option DATFileDataBuffer)
    (hobserved : (s.manager engine).observed = true) :
    Advances lost s (s.onReadCachedDATFile lib engine dat) := by
  cases dat with
  | none => exact onDATLoaded_advances engine false hobserved
  | some dat =>
    exact advances_of_parts rfl fun _ => .rfl

theorem runUiTask_advances (hui : s.ui = task :: rest)
    (hobserved : ∀ engine, (s.manager engine).observed = true) :
    Advances lost s ({ s with ui := rest }.runUiTask lib task) := by
  cases task with
  | loadFilterSet n id => exact loadFilterSet_advances hui
  | runCallback n list => exact collect_advances hui fun _ => rfl
  | onDATFileDataReady n id buffer =>
    simp only [runUiTask, onDATFileDataReady]
    split
    · rename_i hgone
      exact drop_advances hui (fun _ => rfl) hgone
    · exact collect_advances hui fun _ => rfl
  | onFilterSetCreated engine filterSet =>
    refine (sameLoads_pop hui fun _ => rfl).advances.trans ?_
    exact advances_of_parts rfl fun _ => .rfl
  | onReadCachedDATFiles defaultDat additionalDat =>
    refine (sameLoads_pop hui fun _ => rfl).advances.trans ?_
    have hfirst : Advances lost { s with ui := rest }
        ({ s with ui := rest }.onReadCachedDATFile lib true defaultDat) :=
      onReadCachedDATFile_advances true defaultDat (hobserved true)
    refine hfirst.trans (onReadCachedDATFile_advances false additionalDat ?_)
    exact hfirst.observed false (hobserved false)
  | onDATLoaded engine success =>
    refine (sameLoads_pop hui fun _ => rfl).advances.trans ?_
    exact onDATLoaded_advances engine success (hobserved engine)
  | onEngineLoaded engine result serializedDat =>
    refine (sameLoads_pop hui fun _ => rfl).advances.trans ?_
    simp only [runUiTask, onEngineLoaded]
    split
    · exact advances_of_parts rfl fun _ => .rfl
    · split
      · exact advances_of_parts rfl fun _ => .rfl
      · exact advances_of_parts rfl fun _ => .rfl

end UiTasks

section Steps

variable {lib : AdblockRust ρ σ}

theorem runEngineTask_sameLoads (task : EngineTask σ) :
    SameLoads s (s.runEngineTask lib task) := by
  have hpost : ∀ t : AdBlockService ρ σ, ∀ reply : ServiceTask, (∀ m, reply.owes m = none) →
      ∀ m, ((t.postUi reply).owed m).Perm (t.owed m) := by
    intro t reply hreply m
    have hperm := t.owed_postUi reply m
    rwa [hreply] at hperm
  cases task with
  | createFilterSet engine results =>
    exact sameLoads_of_eq rfl (hpost s _ fun _ => rfl)
  | load engine filterSet storage =>
    simp only [runEngineTask, runLoad]
    split
    · exact sameLoads_of_eq rfl (hpost s _ fun _ => rfl)
    · refine sameLoads_of_eq rfl (hpost s _ fun m => ?_)
      unfold loadReply
      split
      · rfl
      · split <;> rfl
  | loadDAT engine dat storage =>
    exact sameLoads_of_eq rfl (hpost s _ fun _ => rfl)

theorem runDATRunner_sameLoads (ok : Bool) : SameLoads s (s.runDATRunner ok) := by
  unfold runDATRunner
  split
  · exact sameLoads_of_eq rfl fun _ => .rfl
  · exact sameLoads_of_eq rfl fun m => owed_postUi _ m
  · exact sameLoads_of_eq rfl fun _ => .rfl

theorem finishRead_sameLoads (i : Nat) (buffer : DATFileDataBuffer) :
    SameLoads s (s.finishRead i buffer) := by
  unfold finishRead
  split
  · exact sameLoads_of_eq rfl fun _ => .rfl
  · rename_i read hread
    refine sameLoads_of_eq rfl fun m => ?_
    refine (owed_postUi _ m).trans ?_
    have herase := Queue.filterMap_eraseIdx (ListRead.owes m) hread
    have hsame : ServiceTask.owes m (.onDATFileDataReady read.load read.provider buffer) =
        ListRead.owes m read := rfl
    rw [owed, owed, hsame]
    refine List.perm_iff_count.mpr fun id => ?_
    have hcount := List.perm_iff_count.mp herase id
    simp only [List.count_append] at hcount ⊢
    omega

theorem onAllLoaded_sameLoads (i : Nat) (storage : σ) : SameLoads s (s.onAllLoaded i storage) := by
  unfold onAllLoaded
  split
  · exact sameLoads_of_eq rfl fun _ => .rfl
  · exact sameLoads_of_eq rfl fun _ => .rfl

theorem SameLoads.trans (first : SameLoads s s') (second : SameLoads s' s'') :
    SameLoads s s'' where
  loads := second.loads.trans first.loads
  nextLoad := second.nextLoad.trans first.nextLoad
  delivered := second.delivered.trans first.delivered
  nextProvider := second.nextProvider.trans first.nextProvider
  ids engine := (second.ids engine).trans (first.ids engine)
  observed engine h := second.observed engine (first.observed engine h)
  owed n := (second.owed n).trans (first.owed n)

theorem notifyResourcesLoaded_sameLoads (storage : σ) :
    SameLoads s (s.notifyResourcesLoaded storage) := by
  rw [notifyResourcesLoaded_eq]
  exact sameLoads_of_eq rfl fun _ => .rfl

theorem createProvider_gathers (h : s.Gathers lost) (engine : Bool) (place : Nat)
    (list : ListOrigin) (initialized : Bool) :
    (s.createProvider engine place list initialized).Gathers lost := by
  have hids : ∀ e, ((s.createProvider engine place list initialized).providerIds e).Perm
      (if e = engine then s.nextProvider :: s.providerIds e else s.providerIds e) := by
    intro e
    rw [createProvider, withProviders_ids]
    split
    · rename_i heq
      subst heq
      have hmiddle : ((s.manager e).addProvider place
          ⟨s.nextProvider, initialized, false⟩).filtersProviders.Perm
            (⟨s.nextProvider, initialized, false⟩ :: (s.manager e).filtersProviders) := by
        refine List.perm_middle.trans (.cons _ ?_)
        rw [List.take_append_drop]
      exact hmiddle.map _
    · exact .rfl
  refine ⟨fun e => ?_, fun e id hid => ?_, fun n hn => ?_, h.accounted, fun n hn id hid => ?_,
    h.delivered, h.once, h.unused⟩
  · rw [(hids e).nodup_iff]
    split
    · exact List.nodup_cons.mpr ⟨fun hmem => Nat.lt_irrefl _ (h.fresh e _ hmem), h.ids e⟩
    · exact h.ids e
  · have hmem := (hids e).mem_iff.mp hid
    have hlast : id = s.nextProvider ∨ id ∈ s.providerIds e := by
      split at hmem
      · exact List.mem_cons.mp hmem
      · exact .inr hmem
    show id < s.nextProvider + 1
    rcases hlast with rfl | hold
    · omega
    · have := h.fresh e id hold
      omega
  · have hobserved := h.observed n hn
    have hloads : (s.createProvider engine place list initialized).loads = s.loads := rfl
    rw [hloads]
    by_cases heq : (s.loads n).isForDefaultEngine = engine
    · rw [heq] at hobserved ⊢
      simpa [createProvider, withProviders, EngineProviders.addProvider] using hobserved
    · simpa [createProvider, withProviders, heq] using hobserved
  · refine (h.registered n hn id hid).imp_left fun hmem => (hids _).mem_iff.mpr ?_
    split
    · exact .tail _ hmem
    · exact hmem

/-- A provider is destroyed, and is lost to the loads that were made. -/
theorem withoutProvider_gathers (h : s.Gathers lost) {engine : Bool} {id : Nat}
    (hmono : ∀ n id, lost n id → lost' n id)
    (hdestroy : ∀ n < s.nextLoad, (s.loads n).isForDefaultEngine = engine → lost' n id) :
    (s.withProviders engine ((s.manager engine).removeProvider id).1).Gathers lost' := by
  have hids : ∀ e, (s.withProviders engine ((s.manager engine).removeProvider id).1).providerIds e =
      if e = engine then (s.providerIds e).filter (· ≠ id) else s.providerIds e := by
    intro e
    rw [withProviders_ids]
    split
    · rename_i heq
      subst heq
      rw [providerIds, List.filter_map]
      rfl
    · rfl
  refine ⟨fun e => ?_, fun e i hi => ?_, fun n hn => ?_,
    fun n hn => (h.accounted n hn).mono (hmono n), fun n hn i hi => ?_, h.delivered, h.once,
    h.unused⟩
  · rw [hids]
    split
    · exact (h.ids e).filter _
    · exact h.ids e
  · rw [hids] at hi
    split at hi
    · exact h.fresh e i (List.mem_of_mem_filter hi)
    · exact h.fresh e i hi
  · have hobserved := h.observed n hn
    show (Function.update s.manager engine _ (s.loads n).isForDefaultEngine).observed = true
    by_cases heq : (s.loads n).isForDefaultEngine = engine
    · rw [heq] at hobserved ⊢
      simpa [EngineProviders.removeProvider, EngineProviders.notifyObservers] using hobserved
    · simpa [heq] using hobserved
  · have hloads : (s.withProviders engine ((s.manager engine).removeProvider id).1).loads =
        s.loads := rfl
    rw [hloads, hids] at *
    rcases h.registered n hn i hi with hmem | hlost
    · split
      · rename_i heq
        by_cases hi' : i = id
        · exact .inr (hi' ▸ hdestroy n hn heq)
        · exact .inl (List.mem_filter.mpr ⟨hmem, by simpa using hi'⟩)
      · exact .inl hmem
    · exact .inr (hmono n i hlost)

theorem destroyProvider_spec {engine : Bool} {id : Nat}
    (hmono : ∀ n id, lost n id → lost' n id)
    (hdestroy : ∀ n < s.nextLoad, (s.loads n).isForDefaultEngine = engine → lost' n id) :
    Extends s (s.destroyProvider engine id) ∧
      (s.Gathers lost → (s.destroyProvider engine id).Gathers lost') := by
  let removed := s.withProviders engine ((s.manager engine).removeProvider id).1
  have hremoved : s.Gathers lost → removed.Gathers lost' := fun h =>
    withoutProvider_gathers h hmono hdestroy
  have hsame : Extends s removed :=
    ⟨Nat.le_refl _, fun _ _ => rfl, fun _ _ => rfl, fun n hn hlt => by
      have : n < s.nextLoad := hlt
      omega⟩
  cases hobserved : (s.manager engine).observed with
  | false =>
    have hdestroyed : s.destroyProvider engine id = removed := by
      simp [destroyProvider, tell, EngineProviders.removeProvider,
        EngineProviders.notifyObservers, hobserved, removed]
    rw [hdestroyed]
    exact ⟨hsame, hremoved⟩
  | true =>
    have hdestroyed : s.destroyProvider engine id = removed.loadFilterSetForEngine engine := by
      simp [destroyProvider, tell, EngineProviders.removeProvider,
        EngineProviders.notifyObservers, hobserved, removed]
    have hload : Advances lost' removed (removed.loadFilterSetForEngine engine) :=
      loadFilterSetForEngine_advances (by
        simpa [removed, withProviders, EngineProviders.removeProvider,
          EngineProviders.notifyObservers] using hobserved)
    rw [hdestroyed]
    exact ⟨⟨hload.nextLoad, hload.engine, hload.asked, hload.started⟩,
      fun h => hload.gathers (hremoved h)⟩

/-- One event: the loads that were made are kept, those that are made ask the registered providers,
and all are all right. -/
theorem step_spec {e : LoadEvent σ} (henabled : s.enabled e)
    (hmono : ∀ n id, lost n id → lost' n id)
    (hdestroy : ∀ engine id, e = .destroyProvider engine id →
      ∀ n < s.nextLoad, (s.loads n).isForDefaultEngine = engine → lost' n id) :
    Extends s (s.step lib e) ∧ (s.Gathers lost → (s.step lib e).Gathers lost') := by
  have hadvances : ∀ s', Advances lost s s' → Extends s s' ∧ (s.Gathers lost → s'.Gathers lost') :=
    fun s' ha => ⟨ha.toExtends, fun h => (ha.gathers h).mono hmono⟩
  cases e with
  | createProvider engine place list initialized =>
    refine ⟨⟨Nat.le_refl _, fun _ _ => rfl, fun _ _ => rfl, fun n hn hlt => ?_⟩,
      fun h => (createProvider_gathers h engine place list initialized).mono hmono⟩
    have : n < s.nextLoad := hlt
    omega
  | destroyProvider engine id => exact destroyProvider_spec hmono (hdestroy engine id rfl)
  | providerInitialized engine id =>
    refine hadvances _ (SameLoads.advances ?_)
    exact withProviders_sameLoads (keepsProviders_providerInitialized id)
  | providerChanged engine id =>
    exact hadvances _ (tell_advances (keepsProviders_providerChanged id))
  | updateList engine id buffer permissionMask =>
    have hsame : SameLoads s
        { s with lists := Function.update s.lists id (.memory buffer permissionMask) } :=
      sameLoads_of_eq rfl fun _ => .rfl
    refine hadvances _ (hsame.advances.trans ?_)
    exact tell_advances (keepsProviders_providerChanged id)
  | addObserver engine =>
    exact hadvances _ (tell_advances ⟨rfl, fun _ => rfl, fun _ => rfl⟩)
  | loadFilterSetForEngine engine => exact hadvances _ (loadFilterSetForEngine_advances henabled)
  | runUi =>
    obtain ⟨hne, hobserved⟩ := henabled
    obtain ⟨task, rest, hui⟩ := List.exists_cons_of_ne_nil hne
    have hstep : s.step lib .runUi = { s with ui := rest }.runUiTask lib task := by
      simp [step, runUi, hui]
    rw [hstep]
    exact hadvances _ (runUiTask_advances hui hobserved)
  | runRunner =>
    obtain ⟨task, rest, hrunner⟩ := List.exists_cons_of_ne_nil henabled
    have hstep : s.step lib .runRunner = { s with runner := rest }.runEngineTask lib task := by
      simp [step, runRunner, hrunner]
    have hpop : SameLoads s { s with runner := rest } :=
      sameLoads_of_eq rfl fun _ => .rfl
    rw [hstep]
    exact hadvances _ (hpop.trans (runEngineTask_sameLoads task)).advances
  | runDATRunner ok => exact hadvances _ (runDATRunner_sameLoads ok).advances
  | finishRead i buffer => exact hadvances _ (finishRead_sameLoads i buffer).advances
  | resourcesLoaded i storage => exact hadvances _ (onAllLoaded_sameLoads i storage).advances
  | resourcesChanged storage => exact hadvances _ (notifyResourcesLoaded_sameLoads storage).advances

end Steps

section Runs

variable (lib : AdblockRust ρ σ)

/-- The load `n` was made by an event of the run, and asks the providers that were registered for
its engine then. -/
def AsksRegistered (start : AdBlockService ρ σ) (es : List (LoadEvent σ)) (s : AdBlockService ρ σ)
    (n : Nat) : Prop :=
  ∃ before e after u, es = before ++ e :: after ∧ Run (machine lib) start before u ∧
    u.nextLoad ≤ n ∧ n < (u.step lib e).nextLoad ∧
    (s.loads n).providers = (u.step lib e).providerIds (s.loads n).isForDefaultEngine

/-- A provider that the load `n` asks was destroyed later, and a newer load was made then, which
asks the providers that were left. -/
def Replaced (start : AdBlockService ρ σ) (es : List (LoadEvent σ)) (s : AdBlockService ρ σ)
    (n : Nat) : Prop :=
  ∃ before engine id after u, es = before ++ .destroyProvider engine id :: after ∧
    Run (machine lib) start before u ∧ n < u.nextLoad ∧ u.nextLoad < s.nextLoad ∧
    (s.loads n).isForDefaultEngine = engine ∧ id ∈ (s.loads n).providers ∧
    (s.loads u.nextLoad).isForDefaultEngine = engine ∧
    (s.loads u.nextLoad).providers =
      (u.step lib (.destroyProvider engine id)).providerIds engine

/-- A provider was destroyed after the load `n` was made. -/
def DestroyedAfter (start : AdBlockService ρ σ) (past : List (LoadEvent σ))
    (s : AdBlockService ρ σ) (n id : Nat) : Prop :=
  ∃ before after u, past = before ++ .destroyProvider (u.loads n).isForDefaultEngine id :: after ∧
    Run (machine lib) start before u ∧ n < u.nextLoad ∧
    Run (machine lib) (u.step lib (.destroyProvider (u.loads n).isForDefaultEngine id)) after s

variable {lib} {start : AdBlockService ρ σ} {es : List (LoadEvent σ)}

theorem step_extends {e : LoadEvent σ} (henabled : s.enabled e) : Extends s (s.step lib e) := by
  have hmono : ∀ n id : Nat, False → True := fun _ _ _ => trivial
  exact (step_spec henabled hmono fun _ _ _ _ _ _ => trivial).1

theorem run_kept (run : Run (machine lib) s es s') :
    s.nextLoad ≤ s'.nextLoad ∧ ∀ n < s.nextLoad,
      (s'.loads n).isForDefaultEngine = (s.loads n).isForDefaultEngine ∧
        (s'.loads n).providers = (s.loads n).providers := by
  refine run.preserves (P := fun t => s.nextLoad ≤ t.nextLoad ∧ ∀ n < s.nextLoad,
    (t.loads n).isForDefaultEngine = (s.loads n).isForDefaultEngine ∧
      (t.loads n).providers = (s.loads n).providers) ?_ ⟨Nat.le_refl _, fun _ _ => ⟨rfl, rfl⟩⟩
  rintro t e t' henabled hstep ⟨hle, hkept⟩
  obtain rfl := Except.ok.inj hstep
  have hextends : Extends t (t.step lib e) := step_extends henabled
  refine ⟨Nat.le_trans hle hextends.nextLoad, fun n hn => ?_⟩
  have hlt := Nat.lt_of_lt_of_le hn hle
  exact ⟨(hextends.engine n hlt).trans (hkept n hn).1, (hextends.asked n hlt).trans (hkept n hn).2⟩

theorem asksRegistered (run : Run (machine lib) start es s) (hstart : start.nextLoad = 0) {n : Nat}
    (hn : n < s.nextLoad) : AsksRegistered lib start es s n := by
  obtain ⟨before, e, after, u, u', hes, first, henabled, hstep, hrest, hle, hlt⟩ :=
    run.crosses nextLoad (n := n) (by omega) hn
  obtain rfl := Except.ok.inj hstep
  obtain ⟨-, hkept⟩ := run_kept hrest
  refine ⟨before, e, after, u, hes, first, hle, hlt, ?_⟩
  rw [(hkept n hlt).1, (hkept n hlt).2]
  exact (step_extends henabled).started n hle hlt

/-- A provider that is destroyed while the observer is there is replaced by a newer load. -/
theorem DestroyedAfter.replaced (hobserved : ∀ past u, Run (machine lib) start past u →
      ∀ n < u.nextLoad, (u.manager (u.loads n).isForDefaultEngine).observed = true)
    {n id : Nat} (hid : id ∈ (s.loads n).providers) (h : DestroyedAfter lib start es s n id) :
    Replaced lib start es s n := by
  obtain ⟨before, after, u, hes, first, hn, hrest⟩ := h
  let engine := (u.loads n).isForDefaultEngine
  let removed := u.withProviders engine ((u.manager engine).removeProvider id).1
  have hstep : u.step lib (.destroyProvider engine id) = removed.loadFilterSetForEngine engine := by
    have hthere : (u.manager engine).observed = true := hobserved before u first n hn
    simp [step, destroyProvider, tell, EngineProviders.removeProvider,
      EngineProviders.notifyObservers, hthere, removed]
  have hnext : (u.step lib (.destroyProvider engine id)).nextLoad = u.nextLoad + 1 := by
    rw [hstep, start_nextLoad]
    rfl
  have hnewer : (u.step lib (.destroyProvider engine id)).loads u.nextLoad =
      ⟨engine, removed.providerIds engine, []⟩ := by
    rw [hstep, start_loads]
    exact Function.update_self ..
  obtain ⟨hle, hkept⟩ := run_kept hrest
  rw [hnext] at hle hkept
  have hold : (u.step lib (.destroyProvider engine id)).loads n = u.loads n := by
    rw [hstep, start_loads]
    exact Function.update_of_ne (by
      have : removed.nextLoad = u.nextLoad := rfl
      omega) ..
  refine ⟨before, engine, id, after, u, hes, first, hn, by omega, ?_, hid, ?_, ?_⟩
  · rw [(hkept n (by omega)).1, hold]
  · rw [(hkept u.nextLoad (by omega)).1, hnewer]
  · rw [(hkept u.nextLoad (by omega)).2, hnewer, hstep, start_providerIds]

/-- In every run the loads are all right; only destroyed providers are lost. -/
theorem run_gathers (hstart : start.Gathers fun _ _ => False)
    (run : Run (machine lib) start es s) : s.Gathers (DestroyedAfter lib start es s) := by
  have hgathers : Run (machine lib) start ([] ++ es) s ∧
      s.Gathers (DestroyedAfter lib start ([] ++ es) s) := by
    refine run.preserves_past (P := fun past s => Run (machine lib) start past s ∧
      s.Gathers (DestroyedAfter lib start past s)) ?_
      ⟨.nil start, hstart.mono fun _ _ h => h.elim⟩
    rintro past s e s' henabled hstep ⟨hpast, h⟩
    refine ⟨hpast.append (.single henabled hstep), ?_⟩
    obtain rfl := Except.ok.inj hstep
    refine (step_spec henabled ?_ ?_).2 h
    · rintro n id ⟨before, after, u, rfl, first, hn, hrest⟩
      refine ⟨before, after ++ [e], u, by simp, first, hn, ?_⟩
      exact hrest.append (.single henabled rfl)
    · rintro engine id rfl n hn rfl
      exact ⟨past, [], s, rfl, hpast, hn, .nil _⟩
  exact hgathers.2

theorem init_gathers (lib : AdblockRust ρ σ) (kAdblockDATCache : Bool)
    (datFiles : Bool → Option DATFileDataBuffer) :
    (init lib kAdblockDATCache datFiles).Gathers fun _ _ => False where
  ids _ := List.nodup_nil
  fresh _ _ hid := absurd hid List.not_mem_nil
  observed _ hn := absurd hn (Nat.not_lt_zero _)
  accounted _ hn := absurd hn (Nat.not_lt_zero _)
  registered _ hn := absurd hn (Nat.not_lt_zero _)
  delivered _ hn := absurd hn (Nat.not_lt_zero _)
  once := List.nodup_nil
  unused _ _ := ⟨rfl, fun _ => List.not_mem_nil⟩

/-- Filter sets are complete.  Each load asks the providers that were registered when it was made;
it delivers at most one filter set, with exactly one list of each of them; without providers it
delivers the empty one.  Once nothing is in flight, each load has delivered, or one of its providers
was destroyed, and a newer load was made for those that were left. -/
theorem filter_sets_complete (lib : AdblockRust ρ σ) {kAdblockDATCache : Bool}
    {datFiles : Bool → Option DATFileDataBuffer} {es : List (LoadEvent σ)} {s : AdBlockService ρ σ}
    (run : Run (machine lib) (init lib kAdblockDATCache datFiles) es s) :
    (∀ n < s.nextLoad, AsksRegistered lib (init lib kAdblockDATCache datFiles) es s n) ∧
      (s.delivered.map Prod.fst).Nodup ∧
      (∀ n filterSet, (n, filterSet) ∈ s.delivered → n < s.nextLoad ∧
        (filterSet.map (·.provider)).Nodup ∧
        (filterSet.map (·.provider)).Perm (s.loads n).providers) ∧
      (∀ n < s.nextLoad, (s.loads n).providers = [] → (n, []) ∈ s.delivered) ∧
      (s.ui = [] → s.reads = [] → ∀ n < s.nextLoad, (∃ filterSet, (n, filterSet) ∈ s.delivered) ∨
        Replaced lib (init lib kAdblockDATCache datFiles) es s n) := by
  have hinit := init_gathers lib kAdblockDATCache datFiles
  have h := run_gathers hinit run
  refine ⟨fun n hn => asksRegistered run rfl hn, h.once, ?_, fun n hn hnone => ?_, ?_⟩
  · intro n filterSet hmem
    have hmade : n < s.nextLoad := by
      by_contra hlater
      exact (h.unused n (Nat.le_of_not_lt hlater)).2 filterSet hmem
    obtain ⟨rfl, hlength⟩ := (h.delivered n hmade filterSet).mp hmem
    have hacc := h.accounted n hmade
    obtain ⟨hperm, -⟩ := hacc.full (by simpa using hlength)
    exact ⟨hmade, hperm.nodup_iff.mpr hacc.distinct, hperm⟩
  · have hacc := h.accounted n hn
    have hresults : (s.loads n).results = [] := by
      by_contra hsome
      obtain ⟨list, hlist⟩ := List.exists_mem_of_ne_nil _ hsome
      have hknown := hacc.known list.provider
        (List.mem_append_right _ (List.mem_map_of_mem hlist))
      rw [hnone] at hknown
      exact absurd hknown List.not_mem_nil
    exact (h.delivered n hn []).mpr ⟨hresults.symm, by simp [hresults, hnone]⟩
  · intro hui hreads n hn
    have hacc := h.accounted n hn
    have howed : s.owed n = [] := by simp [owed, hui, hreads]
    rw [howed] at hacc
    rcases hacc.settled with hfull | ⟨id, hid, hlost⟩
    · exact .inl ⟨_, (h.delivered n hn _).mpr ⟨rfl, by simpa using hfull⟩⟩
    · refine .inr (hlost.replaced (fun past u hpast => ?_) hid)
      exact (run_gathers hinit hpast).observed

end Runs

/-- The custom filters and a list; the list is destroyed while it is asked for. -/
def destroyedWhileAsked : List (LoadEvent Unit) :=
  [.createProvider false 0 (.memory [97] 255) true, .createProvider false 1 .file true,
    .addObserver true, .addObserver false, .destroyProvider false 1, .runUi, .runUi, .runUi,
    .runUi, .runUi]

theorem filter_sets_complete_destroyed :
    ∃ s, Run (machine bytesEngine) (init bytesEngine false fun _ => none) destroyedWhileAsked s ∧
      s.delivered = [(1, [⟨0, [97], 255⟩])] ∧
      Replaced bytesEngine (init bytesEngine false fun _ => none) destroyedWhileAsked s 0 := by
  obtain ⟨s, run, hs⟩ := Machine.exists_run (machine bytesEngine)
    (init bytesEngine false fun _ => none) destroyedWhileAsked
    (fun s => decide (s.ui = [] ∧ s.reads = [] ∧ s.nextLoad = 2 ∧
      s.delivered = [(1, [⟨0, [97], 255⟩])])) (by decide)
  obtain ⟨hui, hreads, hnext, hdelivered⟩ := of_decide_eq_true hs
  have hcomplete := (filter_sets_complete bytesEngine run).2.2.2.2 hui hreads 0 (by omega)
  refine ⟨s, run, hdelivered, hcomplete.resolve_left ?_⟩
  simp [hdelivered]

end AdBlockService

end ChromiumAdblock
