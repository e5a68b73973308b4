import ChromiumAdblock.Base.Utf8
import ChromiumAdblock.Lib.LastWrite
import ChromiumAdblock.Shields.EngineLoads

/-! The client objects of the two engines.  A load that succeeds puts a new client in the place of
the old one, with the regex discard policy of the engine and the resource storage of the load; the
storage and the policy can also be set by themselves, in both engines at once. -/

namespace ChromiumAdblock

open LastWrite

/-- `adblock::RegexManagerDiscardPolicy`. -/
structure RegexManagerDiscardPolicy where
  cleanupIntervalSecs : UInt64
  discardUnusedSecs : UInt64
deriving DecidableEq, Repr

/-- What the client objects add to `AdblockRust`: rules from a list, and the policy of a client that
was given none. -/
structure ClientLibrary (ρ σ : Type) extends AdblockRust ρ σ where
  rulesOfList : String → ρ
  defaultDiscardPolicy : RegexManagerDiscardPolicy

/-- `adblock::Engine`. -/
structure EngineClient (ρ σ : Type) where
  rules : ρ
  resources : σ
  discardPolicy : RegexManagerDiscardPolicy
deriving DecidableEq, Repr

namespace EngineClient

variable {ρ σ : Type} (lib : ClientLibrary ρ σ)

/-- `Engine` around rules, as adblock-rust makes it. -/
def ofRules (rules : ρ) : EngineClient ρ σ where
  rules := rules
  resources := lib.newEmptyResourceStorage
  discardPolicy := lib.defaultDiscardPolicy

def newEngine : EngineClient ρ σ := ofRules lib lib.newEngine

def engineWithRules (rules : List UInt8) : Option (EngineClient ρ σ) :=
  (toStr rules).map fun text => ofRules lib (lib.rulesOfList text)

def engineFromFilterSet (filterSet : FilterSet) : Option (EngineClient ρ σ) :=
  (lib.engineFromFilterSet filterSet).map (ofRules lib)

/-- `deserialize`, which changes only the rules of a client. -/
def deserialize (client : EngineClient ρ σ) (serialized : DATFileDataBuffer) :
    Option (EngineClient ρ σ) :=
  (lib.deserialize serialized).map fun rules => { client with rules := rules }

def useResourceStorage (client : EngineClient ρ σ) (storage : σ) : EngineClient ρ σ :=
  { client with resources := storage }

def setRegexDiscardPolicy (client : EngineClient ρ σ) (policy : RegexManagerDiscardPolicy) :
    EngineClient ρ σ :=
  { client with discardPolicy := policy }

end EngineClient

/-- `AdBlockEngine`, with its client. -/
structure SwappedEngine (ρ σ : Type) where
  adBlockClient : EngineClient ρ σ
  regexDiscardPolicy : Option RegexManagerDiscardPolicy := none
deriving DecidableEq, Repr

namespace SwappedEngine

variable {ρ σ : Type} (lib : ClientLibrary ρ σ) (engine : SwappedEngine ρ σ)

def useResources (storage : σ) : SwappedEngine ρ σ :=
  { engine with adBlockClient := engine.adBlockClient.useResourceStorage storage }

def setupDiscardPolicy (policy : RegexManagerDiscardPolicy) : SwappedEngine ρ σ where
  adBlockClient := engine.adBlockClient.setRegexDiscardPolicy policy
  regexDiscardPolicy := some policy

/-- The policy that was set goes to a new client. -/
def withClient (client : EngineClient ρ σ) : SwappedEngine ρ σ :=
  { engine with
    adBlockClient :=
      match engine.regexDiscardPolicy with
      | none => client
      | some policy => client.setRegexDiscardPolicy policy }

def updateAdBlockClient (client : EngineClient ρ σ) (storage : σ) : SwappedEngine ρ σ :=
  (engine.withClient client).useResources storage

/-- The end of a load, with the client that it made if it did. -/
def onClient (client : Option (EngineClient ρ σ)) (storage : σ) : SwappedEngine ρ σ × Bool :=
  match client with
  | none => (engine, false)
  | some client => (engine.updateAdBlockClient client storage, true)

def onFilterSetLoaded (filterSet : FilterSet) (storage : σ) : SwappedEngine ρ σ × Bool :=
  engine.onClient (EngineClient.engineFromFilterSet lib filterSet) storage

def onListSourceLoaded (filters : DATFileDataBuffer) (storage : σ) : SwappedEngine ρ σ × Bool :=
  engine.onClient (EngineClient.engineWithRules lib filters) storage

def onDATLoaded (dat : DATFileDataBuffer) (storage : σ) : SwappedEngine ρ σ × Bool :=
  if dat = [] then (engine, false)
  else engine.onClient ((EngineClient.newEngine lib).deserialize lib dat) storage

/-- `Load` of a buffer. -/
def loadBuffer (deserialize : Bool) (dat : DATFileDataBuffer) (storage : σ) :
    SwappedEngine ρ σ × Bool :=
  if deserialize then engine.onDATLoaded lib dat storage
  else engine.onListSourceLoaded lib dat storage

end SwappedEngine

/-- Calls that the two engines get: those of `AdBlockEngineWrapper`, and `Load` of a buffer, which
an engine also has for a list of rules. -/
inductive EngineCall (σ : Type)
  | load (isDefaultEngine : Bool) (filterSet : Option FilterSet) (storage : σ)
  | loadDAT (isDefaultEngine : Bool) (dat : DATFileDataBuffer) (storage : σ)
  | loadBuffer (isDefaultEngine deserialize : Bool) (dat : DATFileDataBuffer) (storage : σ)
  | useResources (storage : σ)
  | setupDiscardPolicy (policy : RegexManagerDiscardPolicy)
deriving DecidableEq, Repr

/-- `AdBlockEngineWrapper`: an engine for each value of `is_default_engine`. -/
abbrev SwappedEngines (ρ σ : Type) := Bool → SwappedEngine ρ σ

namespace SwappedEngines

variable {ρ σ : Type} (lib : ClientLibrary ρ σ)

def init : SwappedEngines ρ σ := fun _ => ⟨EngineClient.newEngine lib, none⟩

/-- The outcome of a load of one engine. -/
def update (s : SwappedEngines ρ σ) (isDefaultEngine : Bool) (outcome : SwappedEngine ρ σ × Bool) :
    SwappedEngines ρ σ × Bool :=
  (Function.update s isDefaultEngine outcome.1, outcome.2)

/-- A call, and whether it succeeds; calls that return nothing do. -/
def call (s : SwappedEngines ρ σ) : EngineCall σ → SwappedEngines ρ σ × Bool
  | .load isDefaultEngine (some filterSet) storage =>
    s.update isDefaultEngine ((s isDefaultEngine).onFilterSetLoaded lib filterSet storage)
  | .load isDefaultEngine none storage =>
    s.update isDefaultEngine ((s isDefaultEngine).useResources storage, true)
  | .loadDAT isDefaultEngine dat storage =>
    if dat ≠ [] then
      s.update isDefaultEngine ((s isDefaultEngine).loadBuffer lib true dat storage)
    else s.update isDefaultEngine ((s isDefaultEngine).useResources storage, true)
  | .loadBuffer isDefaultEngine deserialize dat storage =>
    s.update isDefaultEngine ((s isDefaultEngine).loadBuffer lib deserialize dat storage)
  | .useResources storage => (fun i => (s i).useResources storage, true)
  | .setupDiscardPolicy policy => (fun i => (s i).setupDiscardPolicy policy, true)

end SwappedEngines

namespace SwappedEngines

/-- The engines after a sequence of calls, and the calls with what they returned. -/
def run {ρ σ : Type} (lib : ClientLibrary ρ σ) (calls : List (EngineCall σ)) :
    SwappedEngines ρ σ × List (EngineCall σ × Bool) :=
  logged (call lib) (init lib) calls

end SwappedEngines

/-! What a call, with what it returned, writes to an engine. -/

section Writes

variable {ρ σ : Type} (lib : ClientLibrary ρ σ) (isDefaultEngine : Bool)

/-- The rules that a load makes out of what it is given. -/
def EngineCall.madeRules : EngineCall σ → Option ρ
  | .load _ filterSet _ => filterSet.bind lib.engineFromFilterSet
  | .loadDAT _ dat _ => lib.deserialize dat
  | .loadBuffer _ true dat _ => lib.deserialize dat
  | .loadBuffer _ false dat _ => (toStr dat).map lib.rulesOfList
  | .useResources _ | .setupDiscardPolicy _ => none

/-- Whether a call is addressed to an engine. -/
def EngineCall.isFor : EngineCall σ → Bool
  | .load target _ _ | .loadDAT target _ _ | .loadBuffer target _ _ _ => target == isDefaultEngine
  | .useResources _ | .setupDiscardPolicy _ => true

/-- The storage that a call is given. -/
def EngineCall.storage : EngineCall σ → Option σ
  | .load _ _ storage | .loadDAT _ _ storage | .loadBuffer _ _ _ storage => some storage
  | .useResources storage => some storage
  | .setupDiscardPolicy _ => none

/-- The rules of a successful load that is addressed to an engine. -/
def rulesWritten (entry : EngineCall σ × Bool) : Option ρ :=
  if entry.1.isFor isDefaultEngine && entry.2 then entry.1.madeRules lib else none

/-- The storage of a successful call that is addressed to an engine. -/
def storageWritten (entry : EngineCall σ × Bool) : Option σ :=
  if entry.1.isFor isDefaultEngine && entry.2 then entry.1.storage else none

def policyWritten (entry : EngineCall σ × Bool) : Option RegexManagerDiscardPolicy :=
  match entry.1 with
  | .setupDiscardPolicy policy => some policy
  | _ => none

end Writes

/-! One engine. -/

namespace SwappedEngine

variable {ρ σ : Type} {lib : ClientLibrary ρ σ} (engine : SwappedEngine ρ σ)

/-- The client of the engine has the policy of the engine. -/
def HasPolicy (lib : ClientLibrary ρ σ) (engine : SwappedEngine ρ σ) : Prop :=
  engine.adBlockClient.discardPolicy = engine.regexDiscardPolicy.getD lib.defaultDiscardPolicy

/-- What a call that is given a storage does to an engine: it brings the storage in, and the rules
that it made if it made some, or it fails and changes nothing. -/
structure Loads (lib : ClientLibrary ρ σ) (engine : SwappedEngine ρ σ) (made : Option ρ)
    (storage : σ) (outcome : SwappedEngine ρ σ × Bool) : Prop where
  failed : outcome.2 = false → outcome.1 = engine
  rules : outcome.2 = true →
    outcome.1.adBlockClient.rules = made.getD engine.adBlockClient.rules
  resources : outcome.2 = true → outcome.1.adBlockClient.resources = storage
  policy : outcome.1.regexDiscardPolicy = engine.regexDiscardPolicy
  hasPolicy : engine.HasPolicy lib → outcome.1.HasPolicy lib

theorem withClient_hasPolicy (rules : ρ) :
    (engine.withClient (EngineClient.ofRules lib rules)).HasPolicy lib := by
  unfold HasPolicy withClient
  cases hpolicy : engine.regexDiscardPolicy with
  | none => rfl
  | some policy => rfl

theorem withClient_rules (client : EngineClient ρ σ) :
    (engine.withClient client).adBlockClient.rules = client.rules := by
  unfold withClient
  cases engine.regexDiscardPolicy with
  | none => rfl
  | some policy => rfl

/-- A new client gets the storage of the load and the policy of the engine. -/
theorem onClient_loads (made : Option ρ) (storage : σ) :
    Loads lib engine made storage
      (engine.onClient (made.map (EngineClient.ofRules lib)) storage) := by
  cases made with
  | none => exact ⟨fun _ => rfl, nofun, nofun, rfl, id⟩
  | some rules =>
    refine ⟨nofun, fun _ => ?_, fun _ => rfl, rfl, fun _ => ?_⟩
    · exact engine.withClient_rules (EngineClient.ofRules lib rules)
    · exact engine.withClient_hasPolicy rules

theorem useResources_loads (storage : σ) :
    Loads lib engine none storage (engine.useResources storage, true) :=
  ⟨nofun, fun _ => rfl, fun _ => rfl, rfl, id⟩

theorem onFilterSetLoaded_loads (filterSet : FilterSet) (storage : σ) :
    Loads lib engine (lib.engineFromFilterSet filterSet) storage
      (engine.onFilterSetLoaded lib filterSet storage) :=
  engine.onClient_loads _ storage

theorem onListSourceLoaded_loads (filters : DATFileDataBuffer) (storage : σ) :
    Loads lib engine ((toStr filters).map lib.rulesOfList) storage
      (engine.onListSourceLoaded lib filters storage) := by
  have hclient : EngineClient.engineWithRules lib filters =
      ((toStr filters).map lib.rulesOfList).map (EngineClient.ofRules lib) := by
    rw [EngineClient.engineWithRules, Option.map_map]
    rfl
  rw [onListSourceLoaded, hclient]
  exact engine.onClient_loads _ storage

/-- The rules of a new client are replaced; an empty buffer has no rules. -/
theorem onDATLoaded_loads (dat : DATFileDataBuffer) (storage : σ) :
    Loads lib engine (lib.deserialize dat) storage (engine.onDATLoaded lib dat storage) := by
  unfold onDATLoaded
  split
  · rename_i hempty
    rw [hempty, lib.deserialize_nil]
    exact engine.onClient_loads none storage
  · exact engine.onClient_loads (lib.deserialize dat) storage

theorem loadBuffer_loads (isDefaultEngine deserialize : Bool) (dat : DATFileDataBuffer)
    (storage : σ) :
    Loads lib engine ((EngineCall.loadBuffer isDefaultEngine deserialize dat storage).madeRules lib)
      storage (engine.loadBuffer lib deserialize dat storage) := by
  cases deserialize with
  | true => exact engine.onDATLoaded_loads dat storage
  | false => exact engine.onListSourceLoaded_loads dat storage

/-- The engine without its policy, as the service sees it. -/
def loaded : LoadedEngine ρ σ := ⟨engine.adBlockClient.rules, engine.adBlockClient.resources⟩

theorem onClient_loaded (made : Option ρ) (storage : σ) :
    ((engine.onClient (made.map (EngineClient.ofRules lib)) storage).1.loaded,
        (engine.onClient (made.map (EngineClient.ofRules lib)) storage).2) =
      match made with
      | none => (engine.loaded, false)
      | some rules => (engine.loaded.updateAdBlockClient rules storage, true) := by
  cases made with
  | none => rfl
  | some rules =>
    have hrules := engine.withClient_rules (EngineClient.ofRules lib rules)
    exact congrArg (fun rules => (LoadedEngine.mk rules storage, true)) hrules

theorem onFilterSetLoaded_loaded (filterSet : FilterSet) (storage : σ) :
    ((engine.onFilterSetLoaded lib filterSet storage).1.loaded,
        (engine.onFilterSetLoaded lib filterSet storage).2) =
      engine.loaded.onFilterSetLoaded lib.toAdblockRust filterSet storage := by
  refine (engine.onClient_loaded (lib.engineFromFilterSet filterSet) storage).trans ?_
  unfold LoadedEngine.onFilterSetLoaded
  cases lib.engineFromFilterSet filterSet <;> rfl

/-- A load of a serialized engine is the one that the service knows. -/
theorem onDATLoaded_loaded (dat : DATFileDataBuffer) (storage : σ) :
    ((engine.onDATLoaded lib dat storage).1.loaded, (engine.onDATLoaded lib dat storage).2) =
      engine.loaded.onDATLoaded lib.toAdblockRust dat storage := by
  unfold onDATLoaded LoadedEngine.onDATLoaded
  split
  · rfl
  · refine (engine.onClient_loaded (lib.deserialize dat) storage).trans ?_
    cases lib.deserialize dat <;> rfl

end SwappedEngine

/-! A call, as each of the two engines sees it. -/

namespace SwappedEngines

variable {ρ σ : Type} {lib : ClientLibrary ρ σ} (s : SwappedEngines ρ σ)

/-- What a call makes of an engine, given what it returns. -/
structure Keeps (lib : ClientLibrary ρ σ) (entry : EngineCall σ × Bool) (isDefaultEngine : Bool)
    (before after : SwappedEngine ρ σ) : Prop where
  rules : after.adBlockClient.rules =
    (rulesWritten lib isDefaultEngine entry).getD before.adBlockClient.rules
  resources : after.adBlockClient.resources =
    (storageWritten isDefaultEngine entry).getD before.adBlockClient.resources
  policy : after.regexDiscardPolicy = (policyWritten entry).or before.regexDiscardPolicy
  hasPolicy : before.HasPolicy lib → after.HasPolicy lib
  failed : entry.2 = false → after = before
  other : entry.1.isFor isDefaultEngine = false → after = before

theorem keeps_update {c : EngineCall σ} {target : Bool} {storage : σ}
    {outcome : SwappedEngine ρ σ × Bool} (hpolicy : policyWritten (c, outcome.2) = none)
    (hfor : ∀ i, c.isFor i = (target == i)) (hstorage : c.storage = some storage)
    (h : (s target).Loads lib (c.madeRules lib) storage outcome) (i : Bool) :
    Keeps lib (c, outcome.2) i (s i) ((s.update target outcome).1 i) := by
  by_cases hi : target = i
  · subst hi
    have hself : (s.update target outcome).1 target = outcome.1 := Function.update_self ..
    have hfor : c.isFor target = true := by simp [hfor]
    rw [hself]
    cases hsuccess : outcome.2 with
    | false =>
      rw [h.failed hsuccess]
      refine ⟨?_, ?_, ?_, id, fun _ => rfl, fun _ => rfl⟩
      · simp [rulesWritten]
      · simp [storageWritten]
      · rw [hsuccess] at hpolicy
        simp [hpolicy]
    | true =>
      rw [hsuccess] at hpolicy
      refine ⟨?_, ?_, ?_, h.hasPolicy, nofun, fun hf => ?_⟩
      · simp [rulesWritten, hfor, h.rules hsuccess]
      · simp [storageWritten, hfor, hstorage, h.resources hsuccess]
      · simp [hpolicy, h.policy]
      · rw [hfor] at hf
        contradiction
  · have hother : (s.update target outcome).1 i = s i :=
      Function.update_of_ne (fun e => hi e.symm) ..
    have hfor : c.isFor i = false := by simp [hfor, hi]
    rw [hother]
    refine ⟨?_, ?_, ?_, id, fun _ => rfl, fun _ => rfl⟩
    · simp [rulesWritten, hfor]
    · simp [storageWritten, hfor]
    · simp [hpolicy]

theorem call_keeps (c : EngineCall σ) (i : Bool) :
    Keeps lib (c, (s.call lib c).2) i (s i) ((s.call lib c).1 i) := by
  cases c with
  | load target filterSet storage =>
    cases filterSet with
    | none =>
      exact s.keeps_update (c := .load target none storage) rfl (fun _ => rfl) rfl
        ((s target).useResources_loads storage) i
    | some filterSet =>
      exact s.keeps_update (c := .load target (some filterSet) storage) rfl (fun _ => rfl) rfl
        ((s target).onFilterSetLoaded_loads filterSet storage) i
  | loadDAT target dat storage =>
    rw [call]
    split
    · exact s.keeps_update (c := .loadDAT target dat storage) rfl (fun _ => rfl) rfl
        ((s target).onDATLoaded_loads dat storage) i
    · rename_i hempty
      have hnone : (EngineCall.loadDAT target dat storage).madeRules lib = none := by
        rw [EngineCall.madeRules, not_not.mp hempty, lib.deserialize_nil]
      have hloads : SwappedEngine.Loads lib (s target) none storage
          ((s target).useResources storage, true) :=
        (s target).useResources_loads storage
      rw [← hnone] at hloads
      exact s.keeps_update (c := .loadDAT target dat storage) rfl (fun _ => rfl) rfl hloads i
  | loadBuffer target deserialize dat storage =>
    refine s.keeps_update (c := .loadBuffer target deserialize dat storage) rfl (fun _ => rfl) rfl
      ?_ i
    exact (s target).loadBuffer_loads target deserialize dat storage
  | useResources storage =>
    exact ⟨rfl, rfl, rfl, id, nofun, nofun⟩
  | setupDiscardPolicy policy =>
    exact ⟨rfl, rfl, rfl, fun _ => rfl, nofun, nofun⟩

/-! All calls. -/

/-- Every engine has its policy, however its clients were swapped. -/
theorem run_hasPolicy (calls : List (EngineCall σ)) (i : Bool) :
    ((run lib calls).1 i).HasPolicy lib := by
  refine logged_preserves (P := fun s : SwappedEngines ρ σ => ∀ i, (s i).HasPolicy lib) ?_ ?_
    calls i
  · intro s c h i
    exact (s.call_keeps c i).hasPolicy (h i)
  · intro i
    rfl

theorem rules_eq_lastWrite (calls : List (EngineCall σ)) (i : Bool) :
    ((run lib calls).1 i).adBlockClient.rules =
      lastWrite (rulesWritten lib i) lib.newEngine (run lib calls).2 :=
  read_logged (fun s : SwappedEngines ρ σ => (s i).adBlockClient.rules)
    (fun s c => (call_keeps s c i).rules) (init lib) calls

theorem resources_eq_lastWrite (calls : List (EngineCall σ)) (i : Bool) :
    ((run lib calls).1 i).adBlockClient.resources =
      lastWrite (storageWritten i) lib.newEmptyResourceStorage (run lib calls).2 :=
  read_logged (fun s : SwappedEngines ρ σ => (s i).adBlockClient.resources)
    (fun s c => (call_keeps s c i : Keeps lib _ _ _ _).resources) (init lib) calls

theorem policy_eq_lastWrite (calls : List (EngineCall σ)) (i : Bool) :
    ((run lib calls).1 i).adBlockClient.discardPolicy =
      lastWrite policyWritten lib.defaultDiscardPolicy (run lib calls).2 := by
  rw [run_hasPolicy calls i]
  refine read_logged (fun s : SwappedEngines ρ σ =>
    (s i).regexDiscardPolicy.getD lib.defaultDiscardPolicy) ?_ (init lib) calls
  intro s c
  show ((s.call lib c).1 i).regexDiscardPolicy.getD _ = _
  rw [(s.call_keeps c i : Keeps lib _ _ _ _).policy]
  cases policyWritten (c, (s.call lib c).2) <;> rfl

/-- An engine keeps what the last successful calls to it brought: the rules of the last load, the
storage of the last load or `UseResources`, the policy that was set last.  A call that fails leaves
both engines as they are, and a call for one engine the other one. -/
theorem engine_keeps_last_writes (lib : ClientLibrary ρ σ) (calls : List (EngineCall σ))
    (i : Bool) :
    let engines := (run lib calls).1
    let log := (run lib calls).2
    (engines i).adBlockClient.rules = lastWrite (rulesWritten lib i) lib.newEngine log ∧
      (engines i).adBlockClient.resources =
        lastWrite (storageWritten i) lib.newEmptyResourceStorage log ∧
      (engines i).adBlockClient.discardPolicy =
        lastWrite policyWritten lib.defaultDiscardPolicy log ∧
      ∀ c, ((engines.call lib c).2 = false → (engines.call lib c).1 = engines) ∧
        (c.isFor i = false → (engines.call lib c).1 i = engines i) := by
  intro engines log
  refine ⟨rules_eq_lastWrite calls i, resources_eq_lastWrite calls i, policy_eq_lastWrite calls i,
    fun c => ⟨fun hfailed => ?_, (engines.call_keeps c i).other⟩⟩
  exact funext fun j => (engines.call_keeps c j).failed hfailed

end SwappedEngines

end ChromiumAdblock
