import ChromiumAdblock.Engine.MergedResources

/-! `CosmeticFiltersResources`, which answers a renderer about cosmetic rules.  Strings that come
from a renderer are any bytes.  The text of a JSON input is made valid while it is read; a URL and
exceptions reach Rust as they came. -/

namespace ChromiumAdblock

/-- The strings of a list of a dictionary. -/
def stringsOf (dict : DictValue) (key : String) : List (List UInt8) :=
  ((dict.findList key).getD []).filterMap fun item => item.getIfString.map utf8

def getString : Value → Except Crash String
  | .string text => .ok text
  | _ => .error .valueType

/-- `kProceduralActionsScript` with its two placeholders replaced. -/
def proceduralActionsScript (filteringEnabled escapedActions : String) : String :=
  "(function() \x7b
          const CC = window.content_cosmetic;
          let stylesheet = '';
          const takeStyleFilter = filter => \x7b
            if (filter.selector.length === 1 && filter.selector[0].type === 'css-selector' && " ++
    "filter.action && filter.action.type === 'style') \x7b
              stylesheet += filter.selector[0].arg + '\x7b' + filter.action.arg + '\x7d\\n';
              return false;
            \x7d
            return " ++ filteringEnabled ++ ";
          \x7d;
          CC.proceduralActionFilters = JSON.parse(" ++ escapedActions ++
    ").filter(f => takeStyleFilter(f));
          CC.hasProceduralActions = CC.proceduralActionFilters.length > 0;
          return stylesheet;
        \x7d)();"

/-- `CosmeticFiltersResources`, with the feature `kBraveAdblockProceduralFiltering`. -/
structure CosmeticFiltersResources where
  engineWrapper : CosmeticEngineWrapper
  kBraveAdblockProceduralFiltering : Bool := true

namespace CosmeticFiltersResources

variable (json : JsonLibrary) (s : CosmeticFiltersResources)

def hiddenClassIdSelectors (input : List UInt8) (exceptions : List (List UInt8)) :
    Except Crash DictValue :=
  match json.readDictReplacing input with
  | none => .ok []
  | some inputDict =>
    .ok (s.engineWrapper.hiddenClassIdSelectors (stringsOf inputDict "classes")
      (stringsOf inputDict "ids") exceptions)

/-- The script for a list of procedural actions, each of which is JSON already. -/
def actionsScript (actions : List Value) : Except Crash String := do
  let actions ← actions.mapM getString
  return proceduralActionsScript (if s.kBraveAdblockProceduralFiltering then "true" else "false")
    (json.escapeJSONString ("[" ++ ",".intercalate actions ++ "]"))

/-- The script takes the place of the procedural actions. -/
def withActionsScript (resources : DictValue) : Except Crash DictValue :=
  match resources.findList "procedural_actions" with
  | none | some [] => .ok (resources.remove "procedural_actions")
  | some actions => do
    let script ← s.actionsScript json actions
    return (resources.set "procedural_actions_script" (.string script)).remove "procedural_actions"

def urlCosmeticResources (url : List UInt8) : Except Crash DictValue := do
  let resources ← s.engineWrapper.urlCosmeticResources json url
  s.withActionsScript json resources

end CosmeticFiltersResources

/-- What serde and `base` document: the resources of a page can be written as JSON, and the JSON is
read back or refused. -/
structure JsonLibrary.RoundTrips (json : JsonLibrary) : Prop where
  writes : ∀ resources, ∃ text, json.toString resources = some text
  reads : ∀ resources text, json.toString resources = some text →
    json.readDict text = none ∨ json.readDict text = some resources.toDict

namespace CosmeticRules

variable {json : JsonLibrary} (engine : CosmeticRules) {url : List UInt8}

theorem urlCosmeticResourcesDict_of_malformed (hurl : toStr url = none) :
    engine.urlCosmeticResourcesDict json url = .error .utf8Error := by
  rw [urlCosmeticResourcesDict, urlCosmeticResourcesJson, hurl]
  rfl

theorem urlCosmeticResourcesDict_of_text (hjson : json.RoundTrips) {text : String}
    (hurl : toStr url = some text) :
    ∃ resources, engine.urlCosmeticResourcesDict json url = .ok (answeredDict resources) := by
  obtain ⟨written, hwritten⟩ := hjson.writes (engine.urlCosmeticResources text)
  have hresult : engine.urlCosmeticResourcesJson json url = .ok written := by
    rw [urlCosmeticResourcesJson, hurl]
    show unwrap .serdeError (json.toString (engine.urlCosmeticResources text)) = .ok written
    rw [hwritten]
    rfl
  have hdict : engine.urlCosmeticResourcesDict json url =
      .ok ((json.readDict written).getD []) := by
    rw [urlCosmeticResourcesDict, hresult]
    rfl
  rcases hjson.reads _ _ hwritten with hnone | hsome
  · exact ⟨none, by rw [hdict, hnone]; rfl⟩
  · exact ⟨some (engine.urlCosmeticResources text), by rw [hdict, hsome]; rfl⟩

theorem convertCxxStringVector_of_malformed {strings : List (List UInt8)}
    (h : ∃ bytes ∈ strings, toStr bytes = none) :
    convertCxxStringVector strings = .error .utf8 := by
  induction strings with
  | nil => simp at h
  | cons first rest ih =>
    rw [convertCxxStringVector]
    cases hfirst : toStr first with
    | none => rfl
    | some text =>
      obtain ⟨bytes, hmem, hbytes⟩ := h
      rcases List.mem_cons.mp hmem with rfl | hrest
      · rw [hfirst] at hbytes
        contradiction
      · simp only [ih ⟨bytes, hrest, hbytes⟩]
        rfl

/-- An exception that is not UTF-8 makes an error, which is an empty list. -/
theorem hiddenClassIdSelectorsList_of_malformed (classes ids : List (List UInt8))
    {exceptions : List (List UInt8)} (h : ∃ bytes ∈ exceptions, toStr bytes = none) :
    engine.hiddenClassIdSelectorsList classes ids exceptions = [] := by
  have herror : engine.hiddenClassIdSelectorsResult classes ids exceptions = .error .utf8 := by
    unfold hiddenClassIdSelectorsResult
    rw [convertCxxStringVector_of_malformed h]
    rcases convertCxxStringVector classes with ⟨⟨⟩⟩ | classes
    · rfl
    · rcases convertCxxStringVector ids with ⟨⟨⟩⟩ | ids
      · rfl
      · rfl
  rw [hiddenClassIdSelectorsList, herror]

end CosmeticRules

theorem mapM_getString (texts : List String) : (stringValues texts).mapM getString = .ok texts := by
  induction texts with
  | nil => rfl
  | cons text texts ih =>
    show ((.string text :: stringValues texts).mapM getString) = .ok (text :: texts)
    rw [List.mapM_cons, ih]
    rfl

theorem itemsOf_answeredDict_actions (resources : Option UrlSpecificResources) :
    itemsOf (answeredDict resources) "procedural_actions" =
      stringValues (resources.elim [] (·.proceduralActions)) := by
  cases resources <;> rfl

/-- The procedural actions that the two answers merge to are strings. -/
theorem findList_actions (resources additional : Option UrlSpecificResources) {items : List Value}
    (h : (mergeResourcesInto (answeredDict additional) (answeredDict resources) true).findList
      "procedural_actions" = some items) : ∃ actions, items = stringValues actions := by
  rw [findList_mergeResourcesInto _ _ (by decide) (by decide),
    findList_mergeLists_proceduralActions, itemsOf_answeredDict_actions] at h
  cases resources with
  | none => contradiction
  | some resources =>
    refine ⟨resources.proceduralActions ++ additional.elim [] (·.proceduralActions), ?_⟩
    rw [stringValues, List.map_append]
    exact (Option.some.inj h).symm

namespace CosmeticFiltersResources

variable {json : JsonLibrary} (s : CosmeticFiltersResources) {url : List UInt8}

theorem withActionsScript_ok {resources : DictValue}
    (h : ∀ items, resources.findList "procedural_actions" = some items →
      ∃ actions, items = stringValues actions) :
    ∃ dict, s.withActionsScript json resources = .ok dict := by
  unfold withActionsScript
  split
  · exact ⟨_, rfl⟩
  · exact ⟨_, rfl⟩
  · rename_i items _ hfind
    obtain ⟨actions, rfl⟩ := h _ hfind
    rw [actionsScript, mapM_getString]
    exact ⟨_, rfl⟩

theorem urlCosmeticResources_of_malformed (hurl : toStr url = none) :
    s.urlCosmeticResources json url = .error .utf8Error := by
  rw [urlCosmeticResources, CosmeticEngineWrapper.urlCosmeticResources,
    CosmeticRules.urlCosmeticResourcesDict_of_malformed _ hurl]
  rfl

theorem urlCosmeticResources_of_text (hjson : json.RoundTrips) {text : String}
    (hurl : toStr url = some text) : ∃ dict, s.urlCosmeticResources json url = .ok dict := by
  obtain ⟨resources, hdefault⟩ :=
    s.engineWrapper.defaultEngine.urlCosmeticResourcesDict_of_text hjson hurl
  obtain ⟨additional, hadditional⟩ :=
    s.engineWrapper.additionalFiltersEngine.urlCosmeticResourcesDict_of_text hjson hurl
  rw [urlCosmeticResources, CosmeticEngineWrapper.urlCosmeticResources, hdefault, hadditional]
  exact s.withActionsScript_ok fun items => findList_actions resources additional

/-- The answer about classes and ids when neither engine has selectors. -/
def noSelectors : DictValue := [("force_hide_selectors", .list []), ("hide_selectors", .list [])]

theorem hiddenClassIdSelectors_of_malformed {input : List UInt8} {inputDict : DictValue}
    (hinput : json.readDictReplacing input = some inputDict) {exceptions : List (List UInt8)}
    (h : ∃ bytes ∈ exceptions, toStr bytes = none) :
    s.hiddenClassIdSelectors json input exceptions = .ok noSelectors := by
  rw [hiddenClassIdSelectors, hinput]
  simp only [CosmeticEngineWrapper.hiddenClassIdSelectors,
    CosmeticRules.hiddenClassIdSelectorsList_of_malformed _ _ _ h]
  rfl

/-- No input of a renderer crashes the process: what is malformed has an empty answer. -/
structure RendererSafe (json : JsonLibrary) (s : CosmeticFiltersResources) (url input : List UInt8)
    (exceptions : List (List UInt8)) : Prop where
  resources : ∃ dict, s.urlCosmeticResources json url = .ok dict
  selectors : ∃ dict, s.hiddenClassIdSelectors json input exceptions = .ok dict
  malformedUrl : toStr url = none → s.urlCosmeticResources json url = .ok []
  malformedInput : json.readDictReplacing input = none →
    s.hiddenClassIdSelectors json input exceptions = .ok []
  malformedException : json.readDictReplacing input ≠ none →
    (∃ bytes ∈ exceptions, toStr bytes = none) →
    s.hiddenClassIdSelectors json input exceptions = .ok noSelectors

theorem hiddenClassIdSelectors_ok (input : List UInt8) (exceptions : List (List UInt8)) :
    ∃ dict, s.hiddenClassIdSelectors json input exceptions = .ok dict := by
  unfold hiddenClassIdSelectors
  split
  · exact ⟨_, rfl⟩
  · exact ⟨_, rfl⟩

/-- The process survives what a renderer sends exactly if the URL is UTF-8. -/
theorem rendererSafe_iff (hjson : json.RoundTrips) (url input : List UInt8)
    (exceptions : List (List UInt8)) :
    RendererSafe json s url input exceptions ↔ ∃ text, toStr url = some text := by
  constructor
  · intro h
    cases hurl : toStr url with
    | some text => exact ⟨text, rfl⟩
    | none =>
      obtain ⟨dict, hdict⟩ := h.resources
      rw [s.urlCosmeticResources_of_malformed hurl] at hdict
      contradiction
  · rintro ⟨text, hurl⟩
    refine ⟨s.urlCosmeticResources_of_text hjson hurl, s.hiddenClassIdSelectors_ok _ _,
      ?_, ?_, ?_⟩
    · intro hmalformed
      rw [hurl] at hmalformed
      contradiction
    · intro hinput
      rw [hiddenClassIdSelectors, hinput]
    · intro hinput hmalformed
      obtain ⟨inputDict, hdict⟩ := Option.ne_none_iff_exists'.mp hinput
      exact s.hiddenClassIdSelectors_of_malformed hdict hmalformed

theorem userRulesLibrary_roundTrips : userRulesLibrary.RoundTrips where
  writes _ := ⟨_, rfl⟩
  reads resources text htext := by
    obtain rfl := Option.some.inj htext
    by_cases h : resources = userRules
    · exact .inr (by simp [userRulesLibrary, h])
    · exact .inl (by simp only [userRulesLibrary, h, ↓reduceIte]; decide)

def userRulesResources : CosmeticFiltersResources := ⟨userRulesTwice, true⟩

theorem userRulesResources_safe :
    RendererSafe userRulesLibrary userRulesResources (utf8 "https://a.com/") (utf8 "\x7b\x7d")
        [utf8 ".ad"] ↔
      ∃ text, toStr (utf8 "https://a.com/") = some text :=
  userRulesResources.rendererSafe_iff userRulesLibrary_roundTrips (utf8 "https://a.com/")
    (utf8 "\x7b\x7d") [utf8 ".ad"]

/-- One byte that is not UTF-8 ends the process. -/
theorem invalid_url_panics :
    userRulesResources.urlCosmeticResources userRulesLibrary [0xff] = .error .utf8Error ∧
      ¬RendererSafe userRulesLibrary userRulesResources [0xff] (utf8 "\x7b\x7d") [] := by
  have hpanic : userRulesResources.urlCosmeticResources userRulesLibrary [0xff] =
      .error .utf8Error :=
    userRulesResources.urlCosmeticResources_of_malformed (by decide +kernel)
  refine ⟨hpanic, fun h => ?_⟩
  obtain ⟨dict, hdict⟩ := h.resources
  rw [hpanic] at hdict
  contradiction

end CosmeticFiltersResources

end ChromiumAdblock
