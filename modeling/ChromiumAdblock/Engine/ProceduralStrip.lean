import ChromiumAdblock.Engine.CosmeticEngines
import ChromiumAdblock.Lib.Loop

/-! `StripProceduralFilters`, which takes the procedural filters out of the resources of a page.  It
walks over the list that it takes them from, so that each turn either erases the entry that the
iterator is at, moves the iterator on, or does neither. -/

namespace ChromiumAdblock

open TurnLoop

def kCosmeticResourcesProceduralActions : String := "procedural_actions"

/-- What ends the process while filters are taken out. -/
inductive StripFault
  /-- `DCHECK(it->is_string())`, in a build that has these checks. -/
  | entryNotString
  /-- `list->begin()` where `list` is null. -/
  | nullList
deriving DecidableEq, Repr

/-- The list of the filters, and where the iterator is in it. -/
structure StripWalk where
  proceduralActions : List Value
  it : Nat
deriving DecidableEq, Repr

/-- `it = procedural_actions->erase(it)`. -/
def StripWalk.erase (walk : StripWalk) : StripWalk :=
  { walk with proceduralActions := walk.proceduralActions.eraseIdx walk.it }

/-- `it++`. -/
def StripWalk.next (walk : StripWalk) : StripWalk := { walk with it := walk.it + 1 }

variable (json : JsonLibrary) (dcheckIsOn : Bool)

/-- The body of the loop, with the entry that the iterator is at. -/
def stripTurn (walk : StripWalk) (entry : Value) : Except StripFault StripWalk :=
  if dcheckIsOn && entry.getIfString.isNone then .error .entryNotString
  else
    match entry.getIfString with
    | none => .ok walk
    | some pfilterStr =>
      match json.readDict pfilterStr with
      | none => .ok walk.next
      | some val =>
        match val.findList "selector" with
        | none => .error .nullList
        | some [op] =>
          match op.getIfDict with
          | none => .ok walk.next
          | some dict =>
            match DictValue.findString dict "type" with
            | none => .ok walk.next
            | some str => if str ≠ "css-selector" then .ok walk.erase else .ok walk.next
        | some _ => .ok walk.erase

/-- A turn of the loop, which leaves when the iterator is at the end. -/
def stripLoop : Turn StripWalk StripFault := fun walk =>
  walk.proceduralActions[walk.it]?.map (stripTurn json dcheckIsOn walk)

/-- `StripProceduralFilters`, with at most `fuel` turns of its loop. -/
def stripProceduralFilters (fuel : Nat) (resources : DictValue) :
    Option (Except StripFault DictValue) :=
  match resources.findList kCosmeticResourcesProceduralActions with
  | none => some (.ok resources)
  | some proceduralActions =>
    (run (stripLoop json dcheckIsOn) fuel ⟨proceduralActions, 0⟩).map fun outcome =>
      outcome.map fun walk =>
        resources.set kCosmeticResourcesProceduralActions (.list walk.proceduralActions)

/-! What the entries are. -/

/-- The operators of a filter: the list `selector` of the dictionary that its text is. -/
def selectorOf (entry : Value) : Option (List Value) :=
  (entry.getIfString.bind json.readDict).bind fun val => val.findList "selector"

/-- The type of an operator. -/
def operatorType (op : Value) : Option String :=
  op.getIfDict.bind fun dict => DictValue.findString dict "type"

/-- A filter whose operators all say their type. -/
def IsFilter (entry : Value) : Prop :=
  ∃ ops, selectorOf json entry = some ops ∧ ∀ op ∈ ops, operatorType op ≠ none

/-- A filter with the one operator `css-selector`. -/
def IsPlainFilter (entry : Value) : Prop :=
  ∃ op, selectorOf json entry = some [op] ∧ operatorType op = some "css-selector"

/-- A filter with another number of operators than one, or with an operator of another type. -/
def isProcedural (entry : Value) : Bool :=
  match selectorOf json entry with
  | none => false
  | some ops => ops.length ≠ 1 || ops.any fun op => (operatorType op).any (· ≠ "css-selector")

theorem IsPlainFilter.not_procedural {json : JsonLibrary} {entry : Value}
    (h : IsPlainFilter json entry) : isProcedural json entry = false := by
  obtain ⟨op, hops, htype⟩ := h
  simp [isProcedural, hops, htype]

theorem IsFilter.plain_iff {json : JsonLibrary} {entry : Value} (h : IsFilter json entry) :
    IsPlainFilter json entry ↔ isProcedural json entry = false := by
  refine ⟨IsPlainFilter.not_procedural, fun hnot => ?_⟩
  obtain ⟨ops, hops, htypes⟩ := h
  simp only [isProcedural, hops, ne_eq, Bool.or_eq_false_iff, decide_eq_false_iff_not,
    not_not] at hnot
  obtain ⟨hlength, hany⟩ := hnot
  obtain ⟨op, rfl⟩ := List.length_eq_one_iff.mp hlength
  refine ⟨op, hops, ?_⟩
  cases htype : operatorType op with
  | none => exact absurd htype (htypes op List.mem_cons_self)
  | some type => simpa [htype] using hany

/-! What a turn does. -/

/-- An entry that a turn gets past: a string, which has a list `selector` if it is a dictionary. -/
def IsPassable (entry : Value) : Prop :=
  ∃ text, entry.getIfString = some text ∧
    ∀ val, json.readDict text = some val → val.findList "selector" ≠ none

/-- The walk when it has got past an entry: one that is procedural is erased. -/
def StripWalk.past (walk : StripWalk) (entry : Value) : StripWalk :=
  if isProcedural json entry then walk.erase else walk.next

variable {json dcheckIsOn}

theorem stripTurn_passable (walk : StripWalk) {entry : Value} (h : IsPassable json entry) :
    stripTurn json dcheckIsOn walk entry = .ok (walk.past json entry) := by
  obtain ⟨text, htext, hlist⟩ := h
  simp only [stripTurn, htext, StripWalk.past, isProcedural, selectorOf, operatorType,
    Option.isNone_some, Bool.and_false, Option.bind_some]
  cases hval : json.readDict text with
  | none => simp
  | some val =>
    cases hops : val.findList "selector" with
    | none => exact absurd hops (hlist val hval)
    | some ops =>
      match ops with
      | [] => simp [hops]
      | [op] =>
        cases hdict : op.getIfDict with
        | none => simp [hops, hdict]
        | some dict =>
          cases hstr : DictValue.findString dict "type" with
          | none => simp [hops, hdict, hstr]
          | some str => by_cases hcss : str = "css-selector" <;> simp [hops, hdict, hstr, hcss]
      | op :: op' :: rest => simp [hops]

/-- At any other entry a turn faults, or leaves the walk where it was. -/
theorem stripTurn_stuck (walk : StripWalk) {entry : Value} (h : ¬ IsPassable json entry) :
    stripTurn json dcheckIsOn walk entry = .ok walk ∧ entry.getIfString = none ∧
        dcheckIsOn = false ∨
      ∃ fault, stripTurn json dcheckIsOn walk entry = .error fault := by
  cases htext : entry.getIfString with
  | none => cases dcheckIsOn <;> simp [stripTurn, htext]
  | some text =>
    cases hval : json.readDict text with
    | none => exact absurd ⟨text, htext, by simp [hval]⟩ h
    | some val =>
      cases hops : val.findList "selector" with
      | none => exact .inr ⟨.nullList, by simp [stripTurn, htext, hval, hops]⟩
      | some ops =>
        refine absurd ⟨text, htext, fun val' hval' => ?_⟩ h
        rw [hval] at hval'
        cases hval'
        simp [hops]

/-- What is left of the list when the walk has gone to its end. -/
def StripWalk.kept (json : JsonLibrary) (walk : StripWalk) : List Value :=
  walk.proceduralActions.take walk.it ++
    (walk.proceduralActions.drop walk.it).filter (!isProcedural json ·)

theorem StripWalk.kept_erase {walk : StripWalk} {entry : Value}
    (hat : walk.proceduralActions[walk.it]? = some entry) (h : isProcedural json entry = true) :
    walk.erase.kept json = walk.kept json := by
  obtain ⟨list, it⟩ := walk
  obtain ⟨hlt, rfl⟩ := List.getElem?_eq_some_iff.mp hat
  replace hlt : it < list.length := hlt
  have htake : (list.eraseIdx it).take it = list.take it :=
    List.take_eraseIdx_eq_take_of_le list it it le_rfl
  have hdrop : (list.eraseIdx it).drop it = list.drop (it + 1) := by
    rw [List.eraseIdx_eq_take_drop_succ, List.drop_left' (by simp; omega)]
  show (list.eraseIdx it).take it ++ ((list.eraseIdx it).drop it).filter _ = _
  rw [htake, hdrop, StripWalk.kept, List.drop_eq_getElem_cons hlt, List.filter_cons_of_neg]
  simpa using h

theorem StripWalk.kept_next {walk : StripWalk} {entry : Value}
    (hat : walk.proceduralActions[walk.it]? = some entry) (h : isProcedural json entry = false) :
    walk.next.kept json = walk.kept json := by
  obtain ⟨list, it⟩ := walk
  obtain ⟨hlt, rfl⟩ := List.getElem?_eq_some_iff.mp hat
  replace hlt : it < list.length := hlt
  show list.take (it + 1) ++ (list.drop (it + 1)).filter _ = _
  rw [StripWalk.kept, List.drop_eq_getElem_cons hlt, List.filter_cons_of_pos (by simpa using h),
    List.take_succ_eq_append_getElem hlt, List.append_assoc]
  rfl

theorem StripWalk.kept_past {walk : StripWalk} {entry : Value}
    (hat : walk.proceduralActions[walk.it]? = some entry) :
    (walk.past json entry).kept json = walk.kept json := by
  cases h : isProcedural json entry with
  | true => simpa [StripWalk.past, h] using StripWalk.kept_erase hat h
  | false => simpa [StripWalk.past, h] using StripWalk.kept_next hat h

theorem StripWalk.kept_end {walk : StripWalk} (h : walk.proceduralActions[walk.it]? = none) :
    walk.kept json = walk.proceduralActions := by
  have hle : walk.proceduralActions.length ≤ walk.it := List.getElem?_eq_none_iff.mp h
  rw [StripWalk.kept, List.take_of_length_le hle, List.drop_eq_nil_of_le hle]
  simp

theorem stripLoop_some {walk : StripWalk} {entry : Value}
    (hat : walk.proceduralActions[walk.it]? = some entry) :
    stripLoop json dcheckIsOn walk = some (stripTurn json dcheckIsOn walk entry) := by
  rw [stripLoop, hat, Option.map_some]

theorem stripLoop_none {walk : StripWalk} (h : stripLoop json dcheckIsOn walk = none) :
    walk.proceduralActions[walk.it]? = none := Option.map_eq_none_iff.mp h

/-- The walk passes every entry from the iterator on. -/
def StripWalk.Passable (json : JsonLibrary) (walk : StripWalk) : Prop :=
  ∀ entry ∈ walk.proceduralActions.drop walk.it, IsPassable json entry

theorem StripWalk.drop_eq {walk : StripWalk} {entry : Value}
    (hat : walk.proceduralActions[walk.it]? = some entry) :
    walk.proceduralActions.drop walk.it =
      entry :: walk.proceduralActions.drop (walk.it + 1) := by
  obtain ⟨hlt, rfl⟩ := List.getElem?_eq_some_iff.mp hat
  exact List.drop_eq_getElem_cons hlt

/-- Past an entry, the entries from the iterator on are those behind it. -/
theorem StripWalk.drop_past {walk : StripWalk} {entry : Value}
    (hat : walk.proceduralActions[walk.it]? = some entry) :
    (walk.past json entry).proceduralActions.drop (walk.past json entry).it =
      walk.proceduralActions.drop (walk.it + 1) := by
  obtain ⟨hlt, -⟩ := List.getElem?_eq_some_iff.mp hat
  cases h : isProcedural json entry with
  | false => simp [StripWalk.past, h, StripWalk.next]
  | true =>
    simp only [StripWalk.past, h, StripWalk.erase, if_true]
    rw [List.eraseIdx_eq_take_drop_succ, List.drop_left' (by simp; omega)]

/-- A walk whose entries can be passed ends with the procedural ones taken out. -/
theorem stripLoop_ends (dcheckIsOn : Bool) (walk : StripWalk) (h : walk.Passable json) :
    ∃ walk', Ends (stripLoop json dcheckIsOn) walk (.ok walk') ∧
      walk'.proceduralActions = walk.kept json := by
  have hturn : ∀ w : StripWalk, w.Passable json ∧ w.kept json = walk.kept json →
      stripLoop json dcheckIsOn w = none ∨ ∃ w', stripLoop json dcheckIsOn w = some (.ok w') ∧
        (w'.Passable json ∧ w'.kept json = walk.kept json) ∧
        (w'.proceduralActions.drop w'.it).length < (w.proceduralActions.drop w.it).length := by
    rintro w ⟨hpass, hkept⟩
    cases hat : w.proceduralActions[w.it]? with
    | none => exact .inl (by rw [stripLoop, hat]; rfl)
    | some entry =>
      have hdrop := StripWalk.drop_eq hat
      have hentry := hpass entry (by rw [hdrop]; exact List.mem_cons_self)
      refine .inr ⟨w.past json entry, ?_, ⟨?_, ?_⟩, ?_⟩
      · rw [stripLoop_some hat, stripTurn_passable w hentry]
      · intro other hother
        rw [StripWalk.drop_past hat] at hother
        exact hpass other (by rw [hdrop]; exact List.mem_cons_of_mem _ hother)
      · rw [StripWalk.kept_past hat, hkept]
      · rw [StripWalk.drop_past hat, hdrop, List.length_cons]
        omega
  obtain ⟨walk', hends, ⟨-, hkept⟩, hleave⟩ := ends_of_measure _ _ hturn ⟨h, rfl⟩
  exact ⟨walk', hends, by rw [← hkept, StripWalk.kept_end (stripLoop_none hleave)]⟩

/-- A walk that ends well could pass its entries. -/
theorem Passable_of_ends {walk walk' : StripWalk}
    (h : Ends (stripLoop json dcheckIsOn) walk (.ok walk')) : walk.Passable json := by
  refine h.back (fun w hleave entry hentry => ?_) fun w w' hgo hw' entry hentry => ?_
  · rw [List.drop_eq_nil_of_le (List.getElem?_eq_none_iff.mp (stripLoop_none hleave))] at hentry
    simp at hentry
  · cases hat : w.proceduralActions[w.it]? with
    | none => simp [stripLoop, hat] at hgo
    | some first =>
      rw [stripLoop_some hat, Option.some_inj] at hgo
      by_cases hpass : IsPassable json first
      · rw [StripWalk.drop_eq hat] at hentry
        rcases List.mem_cons.mp hentry with rfl | hrest
        · exact hpass
        · rw [stripTurn_passable w hpass, Except.ok.injEq] at hgo
          subst hgo
          exact hw' entry (by rwa [StripWalk.drop_past hat])
      · -- The turn did not fault, so it left the walk where it was.
        rcases stripTurn_stuck w hpass with ⟨hsame, -, -⟩ | ⟨fault, hfault⟩
        · rw [hsame, Except.ok.injEq] at hgo
          exact hw' entry (hgo ▸ hentry)
        · rw [hfault] at hgo
          cases hgo

/-- At an entry that is no string the iterator stays for ever, where `DCHECK` is off. -/
theorem stripLoop_notString {walk : StripWalk} (entry : Value)
    {outcome : Except StripFault StripWalk} (hat : walk.proceduralActions[walk.it]? = some entry)
    (hnot : entry.getIfString = none) : ¬ Ends (stripLoop json false) walk outcome := by
  refine not_ends_of_stay (P := (· = walk)) ?_ rfl
  rintro _ rfl
  exact ⟨_, by simp [stripLoop_some hat, stripTurn, hnot], rfl⟩

/-- Exactly the procedural filters are gone, and the other entries are in their order: a filter that
remains is plain, and no plain filter was removed. -/
def OnlyProceduralRemoved (json : JsonLibrary) (before after : List Value) : Prop :=
  after = before.filter (!isProcedural json ·) ∧
    (∀ entry ∈ after, IsFilter json entry → IsPlainFilter json entry) ∧
    ∀ entry ∈ before, IsPlainFilter json entry → entry ∈ after

theorem onlyProceduralRemoved_filter (json : JsonLibrary) (before : List Value) :
    OnlyProceduralRemoved json before (before.filter (!isProcedural json ·)) := by
  refine ⟨rfl, fun entry hentry hfilter => ?_, fun entry hentry hplain => ?_⟩
  · exact hfilter.plain_iff.mpr (by simpa using (List.mem_filter.mp hentry).2)
  · exact List.mem_filter.mpr ⟨hentry, by simp [hplain.not_procedural]⟩

/-- With enough turns the function ends well.  It leaves the resources as they are if they have no
list of filters, and else takes exactly the procedural filters out of it. -/
def StripsProcedural (json : JsonLibrary) (dcheckIsOn : Bool) (resources : DictValue) : Prop :=
  ∃ fuel after, stripProceduralFilters json dcheckIsOn fuel resources = some (.ok after) ∧
    match resources.findList kCosmeticResourcesProceduralActions with
    | none => after = resources
    | some list =>
      (∃ list', after.findList kCosmeticResourcesProceduralActions = some list' ∧
        OnlyProceduralRemoved json list list') ∧
      ∀ key, key ≠ kCosmeticResourcesProceduralActions → after.find key = resources.find key

/-- Every entry is a string, and each that is a dictionary has a list `selector`. -/
def StrippableResources (json : JsonLibrary) (resources : DictValue) : Prop :=
  ∀ list, resources.findList kCosmeticResourcesProceduralActions = some list →
    ∀ entry ∈ list, IsPassable json entry

theorem strippable_of_ok {resources after : DictValue} {fuel : Nat}
    (h : stripProceduralFilters json dcheckIsOn fuel resources = some (.ok after)) :
    StrippableResources json resources := by
  intro list hlist
  simp only [stripProceduralFilters, hlist, Option.map_eq_some_iff] at h
  obtain ⟨outcome, hrun, houtcome⟩ := h
  cases outcome with
  | error fault => cases houtcome
  | ok walk => exact Passable_of_ends ⟨fuel, hrun⟩

/-- The filters are taken out as they should be exactly when every entry is a string and each one
that is a dictionary has a list `selector`. -/
theorem strips_procedural_iff (json : JsonLibrary) (dcheckIsOn : Bool) (resources : DictValue) :
    StripsProcedural json dcheckIsOn resources ↔ StrippableResources json resources := by
  refine ⟨fun ⟨fuel, after, hok, _⟩ => strippable_of_ok hok, fun h => ?_⟩
  cases hlist : resources.findList kCosmeticResourcesProceduralActions with
  | none => exact ⟨0, resources, by simp [stripProceduralFilters, hlist], by rw [hlist]⟩
  | some list =>
    obtain ⟨walk, ⟨fuel, hrun⟩, hwalk⟩ :=
      stripLoop_ends dcheckIsOn ⟨list, 0⟩ (h list hlist)
    refine ⟨fuel, resources.set kCosmeticResourcesProceduralActions
      (.list walk.proceduralActions), by simp [stripProceduralFilters, hlist, hrun, Except.map], ?_⟩
    rw [hlist]
    refine ⟨⟨walk.proceduralActions, ?_, ?_⟩, fun key hkey => DictValue.find_set_ne _ _ hkey⟩
    · simp [DictValue.findList, Value.getIfList]
    · rw [hwalk]
      exact onlyProceduralRemoved_filter json list

/-- A reader of JSON, as far as one text needs it. -/
def emptyDictReader : JsonLibrary where
  toString _ := none
  readDict text := if text = "\x7b\x7d" then some [] else none
  readDictReplacing _ := none
  escapeJSONString text := text

/-- Without `DCHECK` a number among the filters is never left, and with it it ends the process; a
dictionary without a list `selector` ends the process in any build. -/
theorem strip_fails :
    (∀ fuel, stripProceduralFilters emptyDictReader false fuel
      [("procedural_actions", .list [.int 5])] = none) ∧
    stripProceduralFilters emptyDictReader true 1
      [("procedural_actions", .list [.int 5])] = some (.error .entryNotString) ∧
    stripProceduralFilters emptyDictReader false 1
      [("procedural_actions", .list [.string "\x7b\x7d"])] = some (.error .nullList) ∧
    ¬ (∀ json dcheckIsOn resources, StripsProcedural json dcheckIsOn resources) := by
  have hnever : ∀ fuel, stripProceduralFilters emptyDictReader false fuel
      [("procedural_actions", .list [.int 5])] = none := by
    intro fuel
    have hlist : DictValue.findList [("procedural_actions", .list [.int 5])]
        kCosmeticResourcesProceduralActions = some [.int 5] := rfl
    rw [stripProceduralFilters, hlist]
    cases hrun : run (stripLoop emptyDictReader false) fuel ⟨[.int 5], 0⟩ with
    | none => simp only [hrun, Option.map_none]
    | some outcome => exact absurd ⟨fuel, hrun⟩ (stripLoop_notString (.int 5) rfl rfl)
  refine ⟨hnever, by decide, by decide, fun h => ?_⟩
  obtain ⟨fuel, after, hok, -⟩ := h emptyDictReader false [("procedural_actions", .list [.int 5])]
  rw [hnever] at hok
  cases hok

end ChromiumAdblock
