import ChromiumAdblock.Shields.CustomResources

/-! The merged resources: the default resources, extended by the lists of the custom store.  What
the store holds went through `IsValidResource`; adblock-rust parses each list as a whole, and adds
the resources one by one. -/

namespace ChromiumAdblock

/-- What the provider uses of adblock-rust and of the JSON writer, over resource storages `σ`.
`newResourceStorage` makes a storage of the resources file of a component. -/
structure ResourceLibrary (σ : Type) where
  newEmptyResourceStorage : σ
  newResourceStorage : String → σ
  extendResourceStorage : σ → List Value → σ
  writeJson : List Value → Bool

/-- A `CHECK` that failed. -/
inductive CheckFailure
  | isList
deriving DecidableEq, Repr

namespace ResourceLibrary

variable {σ : Type} (lib : ResourceLibrary σ)

/-- The merged storage is extended by one list, where it can be written as JSON. -/
def mergeList (merged : Bool × σ) (resources : List Value) : Bool × σ :=
  if resources = [] then merged
  else if lib.writeJson resources then (true, lib.extendResourceStorage merged.2 resources)
  else merged

def mergeEntry (merged : Bool × σ) : Value → Except CheckFailure (Bool × σ)
  | .list resources => .ok (lib.mergeList merged resources)
  | _ => .error .isList

def mergeEntries (merged : Bool × σ) : DictValue → Except CheckFailure (Bool × σ)
  | [] => .ok merged
  | entry :: rest =>
    match lib.mergeEntry merged entry.2 with
    | .ok merged => mergeEntries merged rest
    | .error check => .error check

/-- The storage that `OnCustomResourcesLoaded` caches and hands on. -/
def onCustomResourcesLoaded (defaultStorage : σ) (customResources : DictValue) :
    Except CheckFailure σ :=
  if customResources = [] then .ok defaultStorage
  else
    match lib.mergeEntries (false, defaultStorage) customResources with
    | .ok (true, merged) => .ok merged
    | .ok (false, _) => .ok defaultStorage
    | .error check => .error check

/-- The lists of a dictionary are merged into a storage. -/
def merge (storage : σ) (customResources : DictValue) : σ :=
  customResources.foldl (fun storage entry => (lib.mergeList (false, storage) (listOf entry.2)).2)
    storage

variable {lib}

theorem mergeList_storage (extended : Bool) (storage : σ) (resources : List Value) :
    (lib.mergeList (extended, storage) resources).2 =
      (lib.mergeList (false, storage) resources).2 := by
  unfold mergeList
  split_ifs <;> rfl

theorem mergeList_extended {merged : Bool × σ} {resources : List Value}
    (h : (lib.mergeList merged resources).1 = false) : lib.mergeList merged resources = merged := by
  unfold mergeList at h ⊢
  split_ifs at h ⊢ <;> rfl

theorem merge_cons (storage : σ) (key : String) (resources : List Value) (rest : DictValue) :
    lib.merge storage ((key, .list resources) :: rest) =
      lib.merge (lib.mergeList (false, storage) resources).2 rest :=
  rfl

theorem merge_append (storage : σ) (first second : DictValue) :
    lib.merge storage (first ++ second) = lib.merge (lib.merge storage first) second :=
  List.foldl_append

theorem mergeEntries_lists (lib : ResourceLibrary σ) {customResources : DictValue}
    (hlists : ∀ entry ∈ customResources, entry.2.isList = true) (merged : Bool × σ) :
    ∃ extended, lib.mergeEntries merged customResources =
        .ok (extended, lib.merge merged.2 customResources) ∧
      (extended = false → merged.1 = false ∧ lib.merge merged.2 customResources = merged.2) := by
  induction customResources generalizing merged with
  | nil => exact ⟨merged.1, rfl, fun h => ⟨h, rfl⟩⟩
  | cons entry rest ih =>
    obtain ⟨key, value⟩ := entry
    cases value with
    | list resources =>
      obtain ⟨extended, hrest, hkept⟩ := ih (fun e he => hlists e (.tail _ he))
        (lib.mergeList merged resources)
      have hmerge : lib.merge merged.2 ((key, .list resources) :: rest) =
          lib.merge (lib.mergeList merged resources).2 rest := by
        rw [merge_cons, ← mergeList_storage merged.1]
      refine ⟨extended, by rw [hmerge]; exact hrest, fun hextended => ?_⟩
      obtain ⟨hfalse, hsame⟩ := hkept hextended
      have hskipped := mergeList_extended hfalse
      rw [hmerge, hsame, hskipped]
      exact ⟨hskipped ▸ hfalse, rfl⟩
    | _ => exact absurd (hlists _ List.mem_cons_self) (by simp [Value.isList])

/-- Where all values are lists, no `CHECK` fails, and all lists are merged. -/
theorem onCustomResourcesLoaded_lists {customResources : DictValue}
    (hlists : ∀ entry ∈ customResources, entry.2.isList = true) (defaultStorage : σ) :
    lib.onCustomResourcesLoaded defaultStorage customResources =
      .ok (lib.merge defaultStorage customResources) := by
  unfold onCustomResourcesLoaded
  split_ifs with hempty
  · rw [hempty]
    rfl
  · obtain ⟨extended, hmerged, hkept⟩ := mergeEntries_lists lib hlists
      (false, defaultStorage)
    rw [hmerged]
    cases extended with
    | true => rfl
    | false => exact congrArg Except.ok (hkept rfl).2.symm

end ResourceLibrary

/-- The forms that the `kind` of a resource has. -/
inductive Resource.ResourceType
  | mime (mimeType : String)
  | template
deriving DecidableEq, Repr

/-- `Resource` of adblock-rust. -/
structure Resource where
  name : String
  aliases : List String
  kind : Resource.ResourceType
  content : String
  dependencies : List String
deriving DecidableEq, Repr

def Resource.idents (resource : Resource) : List String := resource.name :: resource.aliases

/-- A list of strings that may be left out. -/
def parseStrings (dict : DictValue) (key : String) : Option (List String) :=
  match DictValue.find dict key with
  | none => some []
  | some value => value.getIfList.bind fun items => items.mapM Value.getIfString

def parseResourceType : Value → Option Resource.ResourceType
  | .string "template" => some .template
  | .dict [("template", .none)] => some .template
  | .dict [("mime", .string mimeType)] => some (.mime mimeType)
  | _ => none

/-- A `Resource` is deserialized.  Members that it does not know are skipped. -/
def parseResource (value : Value) : Option Resource := do
  let dict ← value.getIfDict
  let name ← DictValue.findString dict kNameField
  let aliases ← parseStrings dict "aliases"
  let kind ← (DictValue.find dict "kind").bind parseResourceType
  let content ← DictValue.findString dict kContentField
  let dependencies ← parseStrings dict "dependencies"
  return ⟨name, aliases, kind, content, dependencies⟩

theorem mem_of_mapM {α β : Type} {f : α → Option β} {l : List α} {ys : List β}
    (h : l.mapM f = some ys) {y : β} (hy : y ∈ ys) : ∃ x ∈ l, f x = some y := by
  induction l generalizing ys with
  | nil =>
    obtain rfl : [] = ys := by simpa using h
    contradiction
  | cons x l ih =>
    obtain ⟨z, hz, zs, hzs, rfl⟩ : ∃ z, f x = some z ∧ ∃ zs, l.mapM f = some zs ∧ z :: zs = ys := by
      simpa [Option.bind_eq_some_iff] using h
    rcases List.mem_cons.mp hy with rfl | hy
    · exact ⟨x, List.mem_cons_self, hz⟩
    · obtain ⟨w, hw, hf⟩ := ih hzs hy
      exact ⟨w, .tail _ hw, hf⟩

/-- `InMemoryResourceStorage`: no two resources go by the same name or alias. -/
structure ResourceStorage where
  resources : List Resource
  distinct : resources.Pairwise fun a b => ∀ ident ∈ a.idents, ident ∉ b.idents
deriving DecidableEq

namespace ResourceStorage

def getResource (storage : ResourceStorage) (ident : String) : Option Resource :=
  storage.resources.find? fun resource => ident ∈ resource.idents

def clashes (storage : ResourceStorage) (resource : Resource) : Bool :=
  resource.idents.any fun ident => (storage.getResource ident).isSome

variable (storage : ResourceStorage)

/-- The storage with a resource whose names are not taken. -/
def insert (resource : Resource) (h : storage.clashes resource = false) : ResourceStorage where
  resources := storage.resources ++ [resource]
  distinct := by
    rw [List.pairwise_append]
    refine ⟨storage.distinct, List.pairwise_singleton _ _, ?_⟩
    rintro a ha b hb ident hident hother
    obtain rfl := List.mem_singleton.mp hb
    have hclash : storage.clashes b = true := by
      simp only [clashes, List.any_eq_true]
      exact ⟨ident, hother, by simpa [getResource] using ⟨a, ha, hident⟩⟩
    exact absurd (hclash.symm.trans h) (by simp)

/-- `add_resource`, where `decodes` says whether the content decodes. -/
def addResource (decodes : Resource → Bool) (resource : Resource) : ResourceStorage :=
  if decodes resource = false then storage
  else if h : storage.clashes resource = false then storage.insert resource h
  else storage

def addResources (decodes : Resource → Bool) (resources : List Resource) : ResourceStorage :=
  resources.foldl (fun storage resource => storage.addResource decodes resource) storage

/-- `extend_resource_storage`, of a list that is parsed as a whole. -/
def extend (decodes : Resource → Bool) (resources : List Value) : ResourceStorage :=
  match resources.mapM parseResource with
  | some parsed => storage.addResources decodes parsed
  | none => storage

/-- A resource is there under its names. -/
def Available (resource : Value) : Prop :=
  ∃ parsed, parseResource resource = some parsed ∧
    ∀ ident ∈ parsed.idents, storage.getResource ident = some parsed

variable {storage}

theorem getResource_eq_some {ident : String} {resource : Resource} :
    storage.getResource ident = some resource ↔
      resource ∈ storage.resources ∧ ident ∈ resource.idents := by
  constructor
  · intro h
    exact ⟨List.mem_of_find?_eq_some h, by simpa using List.find?_some h⟩
  · rintro ⟨hmem, hident⟩
    obtain ⟨found, hfound⟩ : ∃ found, storage.getResource ident = some found := by
      rw [← Option.isSome_iff_exists, getResource, List.find?_isSome]
      exact ⟨resource, hmem, by simpa using hident⟩
    have hfoundMem := List.mem_of_find?_eq_some hfound
    have hfoundIdent : ident ∈ found.idents := by simpa using List.find?_some hfound
    rw [hfound]
    by_contra hne
    have hsymm : Std.Symm fun a b : Resource => ∀ ident ∈ a.idents, ident ∉ b.idents :=
      ⟨fun _ _ h ident hb ha => h ident ha hb⟩
    exact storage.distinct.forall hfoundMem hmem (fun heq => hne (congrArg some heq)) ident
      hfoundIdent hident

theorem available_iff {resource : Value} :
    storage.Available resource ↔
      ∃ parsed, parseResource resource = some parsed ∧ parsed ∈ storage.resources := by
  refine exists_congr fun parsed => and_congr_right fun _ => ?_
  simp only [getResource_eq_some]
  exact ⟨fun h => (h parsed.name List.mem_cons_self).1, fun h ident hident => ⟨h, hident⟩⟩

theorem clashes_iff {resource : Resource} :
    storage.clashes resource = true ↔
      ∃ ident ∈ resource.idents, ∃ other ∈ storage.resources, ident ∈ other.idents := by
  simp [clashes, getResource, List.find?_isSome]

variable {decodes : Resource → Bool}

theorem mem_addResource {x resource : Resource} :
    x ∈ (storage.addResource decodes resource).resources ↔ x ∈ storage.resources ∨
      x = resource ∧ decodes resource = true ∧ storage.clashes resource = false := by
  unfold addResource
  split_ifs with hdecodes hclash
  · simp [hdecodes]
  · simp [insert, hdecodes, hclash]
  · simp [hclash]

/-- A storage that has one more resource, at most. -/
structure Widens (resource : Resource) (storage wider : ResourceStorage) : Prop where
  kept : ∀ x ∈ storage.resources, x ∈ wider.resources
  only : ∀ x ∈ wider.resources, x ∈ storage.resources ∨ x = resource

theorem Widens.refl (resource : Resource) (storage : ResourceStorage) :
    Widens resource storage storage :=
  ⟨fun _ => id, fun _ => .inl⟩

theorem widens_addResource (resource : Resource) :
    Widens resource storage (storage.addResource decodes resource) :=
  ⟨fun _ hx => mem_addResource.mpr (.inl hx),
    fun _ hx => (mem_addResource.mp hx).imp_right And.left⟩

variable {wider : ResourceStorage} {resource : Resource}

/-- A resource of other names is added to both, or to none of both. -/
theorem Widens.addResource (h : Widens resource storage wider) {other : Resource}
    (hother : ∀ ident ∈ resource.idents, ident ∉ other.idents) :
    Widens resource (storage.addResource decodes other) (wider.addResource decodes other) := by
  have hclash : wider.clashes other = storage.clashes other := by
    rw [Bool.eq_iff_iff, clashes_iff, clashes_iff]
    refine exists_congr fun ident => and_congr_right fun hident => ?_
    constructor
    · rintro ⟨x, hx, hxident⟩
      rcases h.only x hx with hmem | rfl
      · exact ⟨x, hmem, hxident⟩
      · exact absurd hident (hother ident hxident)
    · rintro ⟨x, hx, hxident⟩
      exact ⟨x, h.kept x hx, hxident⟩
  constructor
  · intro x hx
    rw [mem_addResource] at hx ⊢
    exact hx.imp (h.kept x) (hclash ▸ id)
  · intro x hx
    rw [mem_addResource] at hx ⊢
    rcases hx with hx | hx
    · exact (h.only x hx).imp_left .inl
    · exact .inl (.inr (hclash ▸ hx))

theorem Widens.addResources (h : Widens resource storage wider) {others : List Resource}
    (hothers : ∀ other ∈ others, ∀ ident ∈ resource.idents, ident ∉ other.idents) :
    Widens resource (storage.addResources decodes others) (wider.addResources decodes others) := by
  induction others generalizing storage wider with
  | nil => exact h
  | cons other others ih =>
    exact ih (h.addResource (hothers other List.mem_cons_self)) fun o ho => hothers o (.tail _ ho)

theorem Widens.extend (h : Widens resource storage wider) {others : List Value}
    (hothers : ∀ other ∈ others, ∀ parsed, parseResource other = some parsed →
      ∀ ident ∈ resource.idents, ident ∉ parsed.idents) :
    Widens resource (storage.extend decodes others) (wider.extend decodes others) := by
  unfold ResourceStorage.extend
  split
  · rename_i parsed hparsed
    refine h.addResources fun other hother => ?_
    obtain ⟨value, hvalue, hother⟩ := mem_of_mapM hparsed hother
    exact hothers value hvalue other hother
  · exact h

end ResourceStorage

/-- What adblock-rust and the JSON writer do with the lists: the contents that decode, the lists
that can be written as JSON, and the resources files of the components. -/
structure AdblockResources where
  decodes : Resource → Bool
  writeJson : List Value → Bool
  writeJson_of_append : ∀ resources last, writeJson (resources ++ last) = true →
    writeJson resources = true
  resourcesJson : String → List Value

def AdblockResources.emptyStorage : ResourceStorage := ⟨[], .nil⟩

def AdblockResources.library (adblock : AdblockResources) : ResourceLibrary ResourceStorage where
  newEmptyResourceStorage := emptyStorage
  newResourceStorage path := emptyStorage.extend adblock.decodes (adblock.resourcesJson path)
  extendResourceStorage storage resources := storage.extend adblock.decodes resources
  writeJson := adblock.writeJson

/-- The names and aliases that a resource asks for. -/
def identsOf (resource : Value) : List String :=
  getResourceName resource :: (((resource.getIfDict.bind fun dict =>
    DictValue.findList dict "aliases").getD []).filterMap Value.getIfString)

theorem mapM_getIfString {items : List Value} {texts : List String}
    (h : items.mapM Value.getIfString = some texts) :
    items.filterMap Value.getIfString = texts := by
  induction items generalizing texts with
  | nil =>
    obtain rfl : [] = texts := by simpa using h
    rfl
  | cons item items ih =>
    obtain ⟨text, htext, rest, hrest, rfl⟩ : ∃ text, item.getIfString = some text ∧
        ∃ rest, items.mapM Value.getIfString = some rest ∧ text :: rest = texts := by
      simpa [Option.bind_eq_some_iff] using h
    rw [List.filterMap_cons_some htext, ih hrest]

theorem idents_of_parse {resource : Value} {parsed : Resource}
    (h : parseResource resource = some parsed) : parsed.idents = identsOf resource := by
  simp only [parseResource, Option.bind_eq_bind, Option.bind_eq_some_iff, Option.pure_def,
    Option.some.injEq] at h
  obtain ⟨dict, hdict, name, hname, aliases, haliases, kind, -, content, -, dependencies, -, rfl⟩ :=
    h
  have hnamed : getResourceName resource = name := by
    simp [getResourceName, resourceName?, hdict, hname]
  have hstrings : ((DictValue.findList dict "aliases").getD []).filterMap Value.getIfString =
      aliases := by
    unfold parseStrings at haliases
    cases hfound : DictValue.find dict "aliases" with
    | none =>
      obtain rfl : [] = aliases := by simpa [hfound] using haliases
      simp [DictValue.findList, hfound]
    | some value =>
      obtain ⟨items, hitems, hmap⟩ : ∃ items, value.getIfList = some items ∧
          items.mapM Value.getIfString = some aliases := by
        simpa [hfound, Option.bind_eq_some_iff] using haliases
      simp [DictValue.findList, hfound, hitems, mapM_getIfString hmap]
  simp [identsOf, Resource.idents, hnamed, hdict, hstrings]

/-- A custom store whose resources were accepted for their keys. -/
structure CustomStore where
  entries : DictValue
  sorted : DictValue.Sorted entries
  accepted : ∀ entry ∈ entries, ∃ resources, entry.2 = .list resources ∧
    ∀ resource ∈ resources, isValidResource resource (entry.1 == kStorageScriptletsKey) = true

namespace CustomStore

variable (store : CustomStore)

/-- The list of a key. -/
def listAt (key : String) : List Value := listOf (DictValue.find store.entries key)

/-- The resources of all keys. -/
def resources : List Value := store.entries.flatMap fun entry => listOf (some entry.2)

theorem listAt_accepted {key : String} {resource : Value} (h : resource ∈ store.listAt key) :
    isValidResource resource (key == kStorageScriptletsKey) = true := by
  cases hvalue : DictValue.find store.entries key with
  | none => simp [listAt, hvalue, listOf] at h
  | some value =>
    obtain ⟨resources, rfl, hresources⟩ :=
      store.accepted (key, value) (DictValue.mem_of_find hvalue)
    exact hresources resource (by simpa [listAt, hvalue, listOf, Value.getIfList] using h)

/-- The store after an accepted resource was appended to the list of a key. -/
def append (key : String) (resource : Value)
    (h : isValidResource resource (key == kStorageScriptletsKey) = true) : CustomStore where
  entries := DictValue.set store.entries key (.list (store.listAt key ++ [resource]))
  sorted := store.sorted.set key _
  accepted := by
    intro entry hentry
    rcases DictValue.mem_set hentry with rfl | hentry
    · refine ⟨_, rfl, fun other hother => ?_⟩
      rcases List.mem_append.mp hother with hother | hother
      · exact store.listAt_accepted hother
      · exact List.mem_singleton.mp hother ▸ h
    · exact store.accepted entry hentry

/-- The store without the list of a key. -/
def without (key : String) : CustomStore where
  entries := DictValue.remove store.entries key
  sorted := store.sorted.remove key
  accepted entry hentry := store.accepted entry (List.mem_of_mem_filter hentry)

/-- A resource is there in the storage that `OnCustomResourcesLoaded` computes of a store. -/
def Offers (adblock : AdblockResources) (defaultStorage : ResourceStorage) (resource : Value) :
    Prop :=
  ∃ merged, adblock.library.onCustomResourcesLoaded defaultStorage store.entries = .ok merged ∧
    merged.Available resource

variable {store} {adblock : AdblockResources} {defaultStorage : ResourceStorage}

theorem offers_iff {resource : Value} :
    store.Offers adblock defaultStorage resource ↔
      (adblock.library.merge defaultStorage store.entries).Available resource := by
  have hlists : ∀ entry ∈ store.entries, entry.2.isList = true := by
    intro entry hentry
    obtain ⟨resources, hresources, -⟩ := store.accepted entry hentry
    rw [hresources]
    rfl
  rw [Offers, ResourceLibrary.onCustomResourcesLoaded_lists hlists]
  exact ⟨fun ⟨merged, hmerged, h⟩ => Except.ok.inj hmerged ▸ h, fun h => ⟨_, rfl, h⟩⟩

/-- No other resource of the store goes by a name or an alias of a resource. -/
def IsNew (store : CustomStore) (resource : Value) : Prop :=
  ∀ other ∈ store.resources, ∀ ident ∈ identsOf resource, ident ∉ identsOf other

theorem mergeList_skipped {storage : ResourceStorage} {resources : List Value}
    (h : ¬(adblock.writeJson resources = true ∧ (resources.mapM parseResource).isSome = true)) :
    (adblock.library.mergeList (false, storage) resources).2 = storage := by
  unfold ResourceLibrary.mergeList
  split_ifs with hempty hwritten
  · rfl
  · have hnone : resources.mapM parseResource = none := by
      simpa using fun hparsed => h ⟨hwritten, hparsed⟩
    show storage.extend adblock.decodes resources = storage
    rw [ResourceStorage.extend, hnone]
  · rfl

theorem mergeList_parsed {storage : ResourceStorage} {resources : List Value}
    {parsed : List Resource} (hwritten : adblock.writeJson resources = true)
    (hparsed : resources.mapM parseResource = some parsed) :
    (adblock.library.mergeList (false, storage) resources).2 =
      storage.addResources adblock.decodes parsed := by
  unfold ResourceLibrary.mergeList
  split_ifs with hempty hwritable
  · obtain rfl : [] = parsed := by simpa [hempty] using hparsed
    rfl
  · show storage.extend adblock.decodes resources = _
    rw [ResourceStorage.extend, hparsed]
  · exact absurd hwritten hwritable

theorem widens_mergeList {storage wider : ResourceStorage} {parsed : Resource}
    (h : ResourceStorage.Widens parsed storage wider) {others : List Value}
    (hothers : ∀ other ∈ others, ∀ p, parseResource other = some p →
      ∀ ident ∈ parsed.idents, ident ∉ p.idents) :
    ResourceStorage.Widens parsed (adblock.library.mergeList (false, storage) others).2
      (adblock.library.mergeList (false, wider) others).2 := by
  unfold ResourceLibrary.mergeList
  split_ifs
  · exact h
  · exact h.extend hothers
  · exact h

theorem widens_merge (adblock : AdblockResources) {storage wider : ResourceStorage}
    {parsed : Resource} (h : ResourceStorage.Widens parsed storage wider) {entries : DictValue}
    (hothers : ∀ entry ∈ entries, ∀ other ∈ listOf (some entry.2), ∀ p,
      parseResource other = some p → ∀ ident ∈ parsed.idents, ident ∉ p.idents) :
    ResourceStorage.Widens parsed (adblock.library.merge storage entries)
      (adblock.library.merge wider entries) := by
  induction entries generalizing storage wider with
  | nil => exact h
  | cons entry entries ih =>
    exact ih (widens_mergeList h (hothers entry List.mem_cons_self))
      fun e he => hothers e (.tail _ he)

theorem widens_append (adblock : AdblockResources) (storage : ResourceStorage)
    {resources : List Value} {resource : Value} {parsed : Resource}
    (hwritten : adblock.writeJson (resources ++ [resource]) = true)
    (hparsed : parseResource resource = some parsed) :
    ResourceStorage.Widens parsed (adblock.library.mergeList (false, storage) resources).2
      (adblock.library.mergeList (false, storage) (resources ++ [resource])).2 := by
  cases hall : resources.mapM parseResource with
  | none =>
    have hnone : (resources ++ [resource]).mapM parseResource = none := by simp [hall]
    rw [mergeList_skipped (by simp [hall]), mergeList_skipped (by simp [hnone])]
    exact .refl _ _
  | some all =>
    have happended : (resources ++ [resource]).mapM parseResource = some (all ++ [parsed]) := by
      simp [hall, hparsed]
    rw [mergeList_parsed (adblock.writeJson_of_append _ _ hwritten) hall,
      mergeList_parsed hwritten happended, ResourceStorage.addResources,
      ResourceStorage.addResources, List.foldl_append]
    exact ResourceStorage.widens_addResource parsed

/-- The merged storages with the list of a key as it is, with a resource appended, and without it:
what is merged before the list is the same, and what is merged after it. -/
theorem merge_around (adblock : AdblockResources) (defaultStorage : ResourceStorage)
    (store : CustomStore) {key : String} {resource : Value}
    (hvalid : isValidResource resource (key == kStorageScriptletsKey) = true) :
    ∃ base after,
      adblock.library.merge defaultStorage store.entries =
        adblock.library.merge
          (adblock.library.mergeList (false, base) (store.listAt key)).2 after ∧
      adblock.library.merge defaultStorage (store.append key resource hvalid).entries =
        adblock.library.merge
          (adblock.library.mergeList (false, base) (store.listAt key ++ [resource])).2 after ∧
      adblock.library.merge defaultStorage (store.without key).entries =
        adblock.library.merge base after ∧
      ∀ entry ∈ after, entry ∈ store.entries := by
  obtain ⟨before, after, hset, hremove, hold⟩ := store.sorted.set_split key
    (.list (store.listAt key ++ [resource]))
  have hmerge : ∀ resources, adblock.library.merge defaultStorage
      (before ++ (key, .list resources) :: after) =
        adblock.library.merge (adblock.library.mergeList
          (false, adblock.library.merge defaultStorage before) resources).2 after := by
    intro resources
    rw [ResourceLibrary.merge_append, ResourceLibrary.merge_cons]
  refine ⟨adblock.library.merge defaultStorage before, after, ?_,
    (congrArg _ hset).trans (hmerge _), ?_, ?_⟩
  · rcases hold with ⟨hnone, hentries⟩ | ⟨value, hvalue, hentries⟩
    · rw [listAt, hnone, hentries, ResourceLibrary.merge_append]
      rfl
    · obtain ⟨resources, rfl, -⟩ := store.accepted (key, value) (DictValue.mem_of_find hvalue)
      rw [listAt, hvalue, hentries]
      exact hmerge resources
  · rw [← ResourceLibrary.merge_append, ← hremove]
    rfl
  · intro entry hentry
    rcases hold with ⟨-, hentries⟩ | ⟨value, -, hentries⟩
    · simp [hentries, hentry]
    · simp [hentries, hentry]

/-- An accepted resource with new names takes nothing away if it can be written as JSON and parses,
and else only if the list of its key was of no use. -/
theorem append_keeps_iff (adblock : AdblockResources) (defaultStorage : ResourceStorage)
    (store : CustomStore) {key : String} {resource : Value}
    (hvalid : isValidResource resource (key == kStorageScriptletsKey) = true)
    (hnew : store.IsNew resource) :
    (∀ other ∈ store.resources, store.Offers adblock defaultStorage other →
      (store.append key resource hvalid).Offers adblock defaultStorage other) ↔
      adblock.writeJson (store.listAt key ++ [resource]) = true ∧
          (parseResource resource).isSome = true ∨
        ∀ other ∈ store.resources, store.Offers adblock defaultStorage other →
          (store.without key).Offers adblock defaultStorage other := by
  obtain ⟨base, after, hstore, happend, hwithout, hkept⟩ :=
    merge_around adblock defaultStorage store hvalid
  by_cases hgood : adblock.writeJson (store.listAt key ++ [resource]) = true ∧
      (parseResource resource).isSome = true
  · refine iff_of_true (fun other _ hoffers => ?_) (.inl hgood)
    obtain ⟨parsed, hparsed⟩ := Option.isSome_iff_exists.mp hgood.2
    have hafter : ∀ entry ∈ after, ∀ other ∈ listOf (some entry.2), ∀ p,
        parseResource other = some p → ∀ ident ∈ parsed.idents, ident ∉ p.idents := by
      intro entry hentry other hother p hp ident hident
      rw [idents_of_parse hparsed] at hident
      rw [idents_of_parse hp]
      exact hnew other (List.mem_flatMap.mpr ⟨entry, hkept entry hentry, hother⟩) ident hident
    have hwidens := widens_merge adblock (widens_append adblock base hgood.1 hparsed) hafter
    rw [offers_iff, hstore, ResourceStorage.available_iff] at hoffers
    rw [offers_iff, happend, ResourceStorage.available_iff]
    obtain ⟨p, hp, hmem⟩ := hoffers
    exact ⟨p, hp, hwidens.kept p hmem⟩
  · have hunparsed : ¬(adblock.writeJson (store.listAt key ++ [resource]) = true ∧
        ((store.listAt key ++ [resource]).mapM parseResource).isSome = true) := by
      rintro ⟨hwritten, hparsed⟩
      refine hgood ⟨hwritten, ?_⟩
      cases hresource : parseResource resource with
      | none => simp [hresource] at hparsed
      | some parsed => rfl
    have hdropped : adblock.library.merge defaultStorage
        (store.append key resource hvalid).entries =
          adblock.library.merge defaultStorage (store.without key).entries := by
      rw [happend, hwithout, mergeList_skipped hunparsed]
    simp only [offers_iff, hdropped, or_iff_right hgood]

/-- Every content decodes, and every list can be written. -/
def plainAdblock : AdblockResources := ⟨fun _ => true, fun _ => true, fun _ _ _ => rfl, fun _ => []⟩

/-- A scriptlet with an empty content. -/
def scriptlet (name : String) (kind : DictValue) : Value :=
  .dict [("content", .string ""), ("kind", .dict kind), ("name", .string name)]

def plainKind : DictValue := [("mime", .string "application/javascript")]

/-- A kind with one member more. -/
def taggedKind : DictValue := [("mime", .string "application/javascript"), ("tag", .int 1)]

/-- The scriptlet `a.js` is stored. -/
def oneScriptlet : CustomStore where
  entries := [("SCRIPTLETS", .list [scriptlet "a.js" plainKind])]
  sorted := List.pairwise_singleton _ _
  accepted := by
    intro entry hentry
    obtain rfl := List.mem_singleton.mp hentry
    exact ⟨_, rfl, by decide⟩

instance (store : CustomStore) (resource : Value) : Decidable (store.IsNew resource) :=
  inferInstanceAs (Decidable (∀ other ∈ store.resources, ∀ ident ∈ identsOf resource,
    ident ∉ identsOf other))

theorem oneScriptlet_offers :
    oneScriptlet.Offers plainAdblock AdblockResources.emptyStorage
      (scriptlet "a.js" plainKind) := by
  rw [offers_iff, ResourceStorage.available_iff]
  exact ⟨⟨"a.js", [], .mime "application/javascript", "", []⟩, by decide, by decide⟩

theorem append_keeps_iff_plain :
    (oneScriptlet.append kStorageScriptletsKey (scriptlet "b.js" plainKind)
      (by decide)).Offers plainAdblock AdblockResources.emptyStorage (scriptlet "a.js" plainKind) :=
  (append_keeps_iff plainAdblock AdblockResources.emptyStorage oneScriptlet (by decide)
    (by decide)).mpr (.inl (by decide)) _ (by decide) oneScriptlet_offers

/-- An accepted scriptlet with a second member in its kind takes `a.js` away. -/
theorem append_disables :
    ∃ hvalid : isValidResource (scriptlet "b.js" taggedKind)
        (kStorageScriptletsKey == kStorageScriptletsKey) = true,
      oneScriptlet.IsNew (scriptlet "b.js" taggedKind) ∧
      oneScriptlet.Offers plainAdblock AdblockResources.emptyStorage (scriptlet "a.js" plainKind) ∧
      ¬(oneScriptlet.append kStorageScriptletsKey (scriptlet "b.js" taggedKind) hvalid).Offers
        plainAdblock AdblockResources.emptyStorage (scriptlet "a.js" plainKind) := by
  refine ⟨by decide, by decide, oneScriptlet_offers, ?_⟩
  · rw [offers_iff, ResourceStorage.available_iff]
    have hnone : (plainAdblock.library.merge AdblockResources.emptyStorage
        (oneScriptlet.append kStorageScriptletsKey (scriptlet "b.js" taggedKind)
          (by decide)).entries).resources = [] := by decide
    rintro ⟨parsed, -, hparsed⟩
    rw [hnone] at hparsed
    contradiction

end CustomStore

end ChromiumAdblock
