import ChromiumAdblock.Engine.CosmeticEngines

/-! What `MergeResourcesInto` makes of two dictionaries, field by field, and when the merge of what
the two engines answer loses nothing. -/

namespace ChromiumAdblock

/-- The list of a key; a key that is not there has the empty list. -/
def itemsOf (dict : DictValue) (key : String) : List Value := (dict.findList key).getD []

def scriptOf (dict : DictValue) : String := (dict.findString "injected_script").getD ""

def generichideOf (dict : DictValue) : Bool := (dict.findBool "generichide").getD false

section Parts

variable (fromDict into : DictValue)

theorem findList_set_self (dict : DictValue) (key : String) (items : List Value) :
    (dict.set key (.list items)).findList key = some items := by
  rw [DictValue.findList, DictValue.find_set_self]
  rfl

theorem find_withForceHide_ne (forceHide : Bool) {key : String} (h : key ≠ "force_hide_selectors") :
    (withForceHide into forceHide).find key = into.find key := by
  unfold withForceHide
  split
  · exact DictValue.find_set_ne _ _ h
  · rfl

theorem findList_withForceHide_ne (forceHide : Bool) {key : String}
    (h : key ≠ "force_hide_selectors") :
    (withForceHide into forceHide).findList key = into.findList key :=
  congrArg (Option.bind · Value.getIfList) (find_withForceHide_ne into forceHide h)

theorem findList_withForceHide :
    (withForceHide into true).findList "force_hide_selectors" =
      some (itemsOf into "force_hide_selectors") := by
  unfold withForceHide itemsOf
  cases hlist : into.findList "force_hide_selectors" with
  | none => exact findList_set_self into _ []
  | some items => simpa using hlist

theorem find_appendList_ne (fromKey : String) {key other : String} (h : other ≠ key) :
    (appendList fromDict fromKey into key).find other = into.find other := by
  unfold appendList
  split
  · exact DictValue.find_set_ne _ _ h
  · rfl

theorem findList_appendList_ne (fromKey : String) {key other : String} (h : other ≠ key) :
    (appendList fromDict fromKey into key).findList other = into.findList other :=
  congrArg (Option.bind · Value.getIfList) (find_appendList_ne fromDict into fromKey h)

theorem findList_appendList (fromKey key : String) :
    (appendList fromDict fromKey into key).findList key =
      (into.findList key).map (· ++ itemsOf fromDict fromKey) := by
  unfold appendList itemsOf
  cases hinto : into.findList key with
  | none => exact hinto
  | some resources =>
    cases hfrom : fromDict.findList fromKey with
    | none => simpa using hinto
    | some fromResources => exact findList_set_self into key _

theorem find_mergeInjectedScript_ne {key : String} (h : key ≠ "injected_script") :
    (mergeInjectedScript fromDict into).find key = into.find key := by
  unfold mergeInjectedScript
  split
  · exact DictValue.find_set_ne _ _ h
  · rfl

theorem findString_mergeInjectedScript :
    (mergeInjectedScript fromDict into).findString "injected_script" =
      (into.findString "injected_script").map fun script =>
        ((fromDict.findString "injected_script").map (scriptBlocks script)).getD script := by
  unfold mergeInjectedScript
  cases hinto : into.findString "injected_script" with
  | none => exact hinto
  | some script =>
    cases hfrom : fromDict.findString "injected_script" with
    | none => simpa using hinto
    | some fromScript =>
      show (into.set _ _).findString _ = _
      rw [DictValue.findString, DictValue.find_set_self]
      rfl

theorem find_mergeGenerichide_ne {key : String} (h : key ≠ "generichide") :
    (mergeGenerichide fromDict into).find key = into.find key := by
  unfold mergeGenerichide
  split
  · exact DictValue.find_set_ne _ _ h
  · rfl

theorem generichideOf_mergeGenerichide :
    generichideOf (mergeGenerichide fromDict into) =
      (generichideOf into || generichideOf fromDict) := by
  unfold mergeGenerichide
  split
  · rename_i hfrom
    simp only [generichideOf, hfrom, Option.getD_some, Bool.or_true]
    rw [DictValue.findBool, DictValue.find_set_self]
    rfl
  · rename_i hfrom
    have hnot : generichideOf fromDict = false := by
      unfold generichideOf
      cases hflag : fromDict.findBool "generichide" with
      | none => rfl
      | some flag =>
        cases flag with
        | true => exact absurd hflag hfrom
        | false => rfl
    rw [hnot, Bool.or_false]

end Parts

/-! The fields of the whole merge with forced hiding, for any two dictionaries. -/

section Merge

variable (fromDict into : DictValue)

theorem findList_mergeLists_exceptions :
    (mergeLists fromDict into true).findList "exceptions" =
      (into.findList "exceptions").map (· ++ itemsOf fromDict "exceptions") := by
  rw [mergeLists, findList_appendList_ne _ _ _ (by decide), findList_appendList,
    findList_appendList_ne _ _ _ (by decide), findList_withForceHide_ne _ _ (by decide)]

theorem findList_mergeLists_proceduralActions :
    (mergeLists fromDict into true).findList "procedural_actions" =
      (into.findList "procedural_actions").map (· ++ itemsOf fromDict "procedural_actions") := by
  rw [mergeLists, findList_appendList, findList_appendList_ne _ _ _ (by decide),
    findList_appendList_ne _ _ _ (by decide), findList_withForceHide_ne _ _ (by decide)]

theorem findList_mergeLists_forceHideSelectors :
    (mergeLists fromDict into true).findList "force_hide_selectors" =
      some (itemsOf into "force_hide_selectors" ++ itemsOf fromDict "hide_selectors") := by
  rw [mergeLists, findList_appendList_ne _ _ _ (by decide),
    findList_appendList_ne _ _ _ (by decide)]
  simp only [↓reduceIte]
  rw [findList_appendList, findList_withForceHide]
  rfl

theorem find_mergeLists_ne {key : String} (hforce : key ≠ "force_hide_selectors")
    (hexceptions : key ≠ "exceptions") (hactions : key ≠ "procedural_actions") :
    (mergeLists fromDict into true).find key = into.find key := by
  rw [mergeLists, find_appendList_ne _ _ _ hactions, find_appendList_ne _ _ _ hexceptions]
  simp only [↓reduceIte]
  rw [find_appendList_ne _ _ _ hforce, find_withForceHide_ne _ _ hforce]

/-- The merge of the script and the flag leaves the lists as they are. -/
theorem findList_mergeResourcesInto {key : String} (hscript : key ≠ "injected_script")
    (hflag : key ≠ "generichide") :
    (mergeResourcesInto fromDict into true).findList key =
      (mergeLists fromDict into true).findList key := by
  rw [mergeResourcesInto, DictValue.findList, find_mergeGenerichide_ne _ _ hflag,
    find_mergeInjectedScript_ne _ _ hscript, ← DictValue.findList]

theorem itemsOf_mergeResourcesInto_exceptions :
    itemsOf (mergeResourcesInto fromDict into true) "exceptions" =
      ((into.findList "exceptions").map (· ++ itemsOf fromDict "exceptions")).getD [] := by
  rw [itemsOf, findList_mergeResourcesInto _ _ (by decide) (by decide),
    findList_mergeLists_exceptions]

theorem itemsOf_mergeResourcesInto_proceduralActions :
    itemsOf (mergeResourcesInto fromDict into true) "procedural_actions" =
      ((into.findList "procedural_actions").map
        (· ++ itemsOf fromDict "procedural_actions")).getD [] := by
  rw [itemsOf, findList_mergeResourcesInto _ _ (by decide) (by decide),
    findList_mergeLists_proceduralActions]

theorem itemsOf_mergeResourcesInto_hideSelectors :
    itemsOf (mergeResourcesInto fromDict into true) "hide_selectors" =
      itemsOf into "hide_selectors" := by
  rw [itemsOf, findList_mergeResourcesInto _ _ (by decide) (by decide), DictValue.findList,
    find_mergeLists_ne _ _ (by decide) (by decide) (by decide), ← DictValue.findList, itemsOf]

theorem itemsOf_mergeResourcesInto_forceHideSelectors :
    itemsOf (mergeResourcesInto fromDict into true) "force_hide_selectors" =
      itemsOf into "force_hide_selectors" ++ itemsOf fromDict "hide_selectors" := by
  rw [itemsOf, findList_mergeResourcesInto _ _ (by decide) (by decide),
    findList_mergeLists_forceHideSelectors, Option.getD_some]

theorem findString_mergeResourcesInto :
    (mergeResourcesInto fromDict into true).findString "injected_script" =
      (into.findString "injected_script").map fun script =>
        ((fromDict.findString "injected_script").map (scriptBlocks script)).getD script := by
  have hlists : (mergeLists fromDict into true).findString "injected_script" =
      into.findString "injected_script" := by
    rw [DictValue.findString, find_mergeLists_ne _ _ (by decide) (by decide) (by decide),
      ← DictValue.findString]
  rw [mergeResourcesInto, DictValue.findString, find_mergeGenerichide_ne _ _ (by decide),
    ← DictValue.findString, findString_mergeInjectedScript, hlists]

theorem generichideOf_mergeResourcesInto :
    generichideOf (mergeResourcesInto fromDict into true) =
      (generichideOf into || generichideOf fromDict) := by
  have hlists : generichideOf (mergeInjectedScript fromDict (mergeLists fromDict into true)) =
      generichideOf into := by
    unfold generichideOf DictValue.findBool
    rw [find_mergeInjectedScript_ne _ _ (by decide),
      find_mergeLists_ne _ _ (by decide) (by decide) (by decide)]
  rw [mergeResourcesInto, generichideOf_mergeGenerichide, hlists]

end Merge

/-! What the two engines answer. -/

/-- The dictionary of an engine: all the fields, or none if its JSON does not parse. -/
def answeredDict : Option UrlSpecificResources → DictValue
  | none => []
  | some resources => resources.toDict

/-- The script that two scripts make: both where both are there. -/
def joinScripts : Option String → Option String → String
  | some script, some fromScript => scriptBlocks script fromScript
  | some script, none => script
  | none, fromScript => fromScript.getD ""

/-- A merge of two dictionaries that loses nothing of either. -/
structure LosesNothing (resources additionalResources merged : DictValue) : Prop where
  exceptions : itemsOf merged "exceptions" =
    itemsOf resources "exceptions" ++ itemsOf additionalResources "exceptions"
  proceduralActions : itemsOf merged "procedural_actions" =
    itemsOf resources "procedural_actions" ++ itemsOf additionalResources "procedural_actions"
  hideSelectors : itemsOf merged "hide_selectors" = itemsOf resources "hide_selectors"
  forceHideSelectors : itemsOf merged "force_hide_selectors" =
    itemsOf additionalResources "hide_selectors"
  injectedScript : scriptOf merged = joinScripts (resources.findString "injected_script")
    (additionalResources.findString "injected_script")
  generichide : generichideOf merged =
    (generichideOf resources || generichideOf additionalResources)

/-- Resources without exceptions, procedural actions, and a script. -/
def OnlyHides (resources : UrlSpecificResources) : Prop :=
  resources.exceptions = [] ∧ resources.proceduralActions = [] ∧ resources.injectedScript = ""

theorem itemsOf_answeredDict_forceHide (resources : Option UrlSpecificResources) :
    itemsOf (answeredDict resources) "force_hide_selectors" = [] := by
  cases resources <;> rfl

/-- Whatever the answers, the hidden selectors and the flag come through the merge. -/
theorem hiding_kept (resources additional : Option UrlSpecificResources) :
    itemsOf (mergeResourcesInto (answeredDict additional) (answeredDict resources) true)
        "hide_selectors" = itemsOf (answeredDict resources) "hide_selectors" ∧
      itemsOf (mergeResourcesInto (answeredDict additional) (answeredDict resources) true)
        "force_hide_selectors" = itemsOf (answeredDict additional) "hide_selectors" := by
  refine ⟨itemsOf_mergeResourcesInto_hideSelectors _ _, ?_⟩
  rw [itemsOf_mergeResourcesInto_forceHideSelectors, itemsOf_answeredDict_forceHide,
    List.nil_append]

theorem losesNothing_some (resources : UrlSpecificResources)
    (additional : Option UrlSpecificResources) :
    LosesNothing resources.toDict (answeredDict additional)
      (mergeResourcesInto (answeredDict additional) resources.toDict true) where
  exceptions := itemsOf_mergeResourcesInto_exceptions _ _
  proceduralActions := itemsOf_mergeResourcesInto_proceduralActions _ _
  hideSelectors := (hiding_kept (some resources) additional).1
  forceHideSelectors := (hiding_kept (some resources) additional).2
  injectedScript := by
    rw [scriptOf, findString_mergeResourcesInto]
    cases additional <;> rfl
  generichide := generichideOf_mergeResourcesInto _ _

/-- After a default engine whose answer does not parse, the hidden selectors and the flag of the
additional engine are all that is kept. -/
theorem losesNothing_none_iff (additional : UrlSpecificResources) :
    LosesNothing [] additional.toDict (mergeResourcesInto additional.toDict [] true) ↔
      OnlyHides additional := by
  have hexceptions : itemsOf (mergeResourcesInto additional.toDict [] true) "exceptions" = [] :=
    itemsOf_mergeResourcesInto_exceptions _ _
  have hactions :
      itemsOf (mergeResourcesInto additional.toDict [] true) "procedural_actions" = [] :=
    itemsOf_mergeResourcesInto_proceduralActions _ _
  have hscript : scriptOf (mergeResourcesInto additional.toDict [] true) = "" := by
    rw [scriptOf, findString_mergeResourcesInto]
    rfl
  constructor
  · intro h
    refine ⟨?_, ?_, ?_⟩
    · exact List.map_eq_nil_iff.mp (hexceptions.symm.trans h.exceptions).symm
    · exact List.map_eq_nil_iff.mp (hactions.symm.trans h.proceduralActions).symm
    · exact (hscript.symm.trans h.injectedScript).symm
  · rintro ⟨hnoExceptions, hnoActions, hnoScript⟩
    refine ⟨?_, ?_, (hiding_kept none (some additional)).1, (hiding_kept none (some additional)).2,
      hscript.trans hnoScript.symm, generichideOf_mergeResourcesInto _ _⟩
    · rw [hexceptions]
      exact (congrArg stringValues hnoExceptions).symm
    · rw [hactions]
      exact (congrArg stringValues hnoActions).symm

theorem losesNothing_none_none : LosesNothing [] [] (mergeResourcesInto [] [] true) :=
  ⟨rfl, rfl, rfl, rfl, rfl, rfl⟩

/-- The wrapper loses nothing exactly if the default engine's answer parses, or the additional
engine's, if it does, is about hiding only. -/
theorem urlCosmeticResources_losesNothing_iff (json : JsonLibrary)
    (wrapper : CosmeticEngineWrapper) (url : List UInt8)
    {resources additional : Option UrlSpecificResources}
    (hdefault : wrapper.defaultEngine.urlCosmeticResourcesDict json url =
      .ok (answeredDict resources))
    (hadditional : wrapper.additionalFiltersEngine.urlCosmeticResourcesDict json url =
      .ok (answeredDict additional)) :
    ∃ merged, wrapper.urlCosmeticResources json url = .ok merged ∧
      (LosesNothing (answeredDict resources) (answeredDict additional) merged ↔
        resources.isSome = true ∨ ∀ rules, additional = some rules → OnlyHides rules) := by
  refine ⟨mergeResourcesInto (answeredDict additional) (answeredDict resources) true, ?_, ?_⟩
  · rw [CosmeticEngineWrapper.urlCosmeticResources, hdefault, hadditional]
    rfl
  cases resources with
  | some resources => exact iff_of_true (losesNothing_some resources additional) (.inl rfl)
  | none =>
    cases additional with
    | none => exact iff_of_true losesNothing_none_none (.inr (by simp))
    | some additional =>
      refine (losesNothing_none_iff additional).trans ?_
      simp

/-- Rules of a user: a selector to hide, and an exception from generic hiding. -/
def userRules : UrlSpecificResources where
  hideSelectors := [".post"]
  exceptions := [".ad"]

def userRulesJson : String :=
  "\x7b\"hide_selectors\":[\".post\"],\"procedural_actions\":[],\"exceptions\":[\".ad\"]," ++
    "\"injected_script\":\"\",\"generichide\":false\x7d"

def noRulesJson : String :=
  "\x7b\"hide_selectors\":[],\"procedural_actions\":[],\"exceptions\":[]," ++
    "\"injected_script\":\"\",\"generichide\":false\x7d"

/-- JSON of `userRules` and of no rules, with readers that take the first text only, and the empty
object. -/
def userRulesLibrary : JsonLibrary where
  toString resources := some (if resources = userRules then userRulesJson else noRulesJson)
  readDict text := if text = userRulesJson then some userRules.toDict else none
  readDictReplacing input := if input = utf8 "\x7b\x7d" then some [] else none
  escapeJSONString text := text

/-- An engine with the same resources for every URL. -/
def constantRules (resources : UrlSpecificResources) : CosmeticRules where
  urlCosmeticResources _ := resources
  hiddenClassIdSelectors _ _ _ := []

def userRulesTwice : CosmeticEngineWrapper := ⟨constantRules userRules, constantRules userRules⟩

theorem userRulesTwice_losesNothing :
    ∃ merged, userRulesTwice.urlCosmeticResources userRulesLibrary (utf8 "https://a.com/") =
        .ok merged ∧
      (LosesNothing (answeredDict (some userRules)) (answeredDict (some userRules)) merged ↔
        (some userRules).isSome = true ∨
          ∀ rules, some userRules = some rules → OnlyHides rules) :=
  urlCosmeticResources_losesNothing_iff userRulesLibrary userRulesTwice (utf8 "https://a.com/")
    (by decide +kernel) (by decide +kernel)

/-- The exceptions of the user are dropped where the default engine's answer does not parse. -/
theorem user_exceptions_dropped :
    ∃ merged, CosmeticEngineWrapper.urlCosmeticResources userRulesLibrary
        ⟨constantRules {}, constantRules userRules⟩ (utf8 "https://a.com/") = .ok merged ∧
      (constantRules {}).urlCosmeticResourcesDict userRulesLibrary (utf8 "https://a.com/") =
        .ok [] ∧
      (constantRules userRules).urlCosmeticResourcesDict userRulesLibrary
        (utf8 "https://a.com/") = .ok userRules.toDict ∧
      ¬LosesNothing [] userRules.toDict merged := by
  refine ⟨mergeResourcesInto userRules.toDict [] true, by decide +kernel, by decide +kernel,
    by decide +kernel, ?_⟩
  rw [losesNothing_none_iff]
  rintro ⟨hnone, -, -⟩
  exact absurd hnone (by decide)

end ChromiumAdblock
