import Mathlib.Data.Finset.Image
import ChromiumAdblock.Base.Utf8
import ChromiumAdblock.Base.Value

/-! The two engines as they answer about cosmetic rules, and the wrapper that merges what they
answer.  The rules are adblock-rust's.  What an engine knows of a page crosses from Rust as JSON; a
text that does not parse counts as the empty dictionary. -/

namespace ChromiumAdblock

/-- `UrlSpecificResources` of adblock-rust, its sets in the order in which they are written. -/
structure UrlSpecificResources where
  hideSelectors : List String := []
  proceduralActions : List String := []
  exceptions : List String := []
  injectedScript : String := ""
  generichide : Bool := false
deriving DecidableEq, Repr

/-- The texts of a list of values. -/
def stringValues (texts : List String) : List Value := texts.map .string

/-- The dictionary that the resources of a page have as JSON. -/
def UrlSpecificResources.toDict (resources : UrlSpecificResources) : DictValue :=
  [("exceptions", .list (stringValues resources.exceptions)),
    ("generichide", .bool resources.generichide),
    ("hide_selectors", .list (stringValues resources.hideSelectors)),
    ("injected_script", .string resources.injectedScript),
    ("procedural_actions", .list (stringValues resources.proceduralActions))]

/-- An engine of adblock-rust: what it answers about a URL, and about classes and ids. -/
structure CosmeticRules where
  urlCosmeticResources : String → UrlSpecificResources
  hiddenClassIdSelectors : (classes ids : List String) → (exceptions : Finset String) → List String

/-- JSON as serde writes it, and as `base` reads it. -/
structure JsonLibrary where
  /-- `serde_json::to_string`. -/
  toString : UrlSpecificResources → Option String
  /-- `ReadDict` with `JSON_PARSE_RFC`. -/
  readDict : String → Option DictValue
  /-- `ReadDict` with `JSON_PARSE_CHROMIUM_EXTENSIONS` and `JSON_REPLACE_INVALID_CHARACTERS`. -/
  readDictReplacing : List UInt8 → Option DictValue
  escapeJSONString : String → String

/-- What ends the process. -/
inductive Crash
  /-- `unwrap` of an error of `to_str`. -/
  | utf8Error
  /-- `unwrap` of an error of `serde_json`. -/
  | serdeError
  /-- `GetString` of a value that is not a string. -/
  | valueType
deriving DecidableEq, Repr

def unwrap {α : Type} (crash : Crash) : Option α → Except Crash α
  | some a => .ok a
  | none => .error crash

/-- `InternalError`, as far as the answers about selectors use it. -/
inductive InternalError
  | utf8
deriving DecidableEq, Repr

/-- `convert_cxx_string_vector_to_string_collection`, before the collection. -/
def convertCxxStringVector : List (List UInt8) → Except InternalError (List String)
  | [] => .ok []
  | bytes :: rest =>
    match toStr bytes with
    | none => .error .utf8
    | some text => (convertCxxStringVector rest).map (text :: ·)

namespace CosmeticRules

variable (json : JsonLibrary) (engine : CosmeticRules)

/-- `Engine::url_cosmetic_resources` of the wrapper in Rust. -/
def urlCosmeticResourcesJson (url : List UInt8) : Except Crash String := do
  let url ← unwrap .utf8Error (toStr url)
  unwrap .serdeError (json.toString (engine.urlCosmeticResources url))

/-- `Engine::hidden_class_id_selectors` of the wrapper in Rust. -/
def hiddenClassIdSelectorsResult (classes ids exceptions : List (List UInt8)) :
    Except InternalError (List String) := do
  let classes ← convertCxxStringVector classes
  let ids ← convertCxxStringVector ids
  let exceptions ← convertCxxStringVector exceptions
  return engine.hiddenClassIdSelectors classes ids exceptions.toFinset

/-- `AdBlockEngine::UrlCosmeticResources`. -/
def urlCosmeticResourcesDict (url : List UInt8) : Except Crash DictValue := do
  let result ← engine.urlCosmeticResourcesJson json url
  return (json.readDict result).getD []

/-- `AdBlockEngine::HiddenClassIdSelectors`. -/
def hiddenClassIdSelectorsList (classes ids exceptions : List (List UInt8)) : List Value :=
  match engine.hiddenClassIdSelectorsResult classes ids exceptions with
  | .error _ => []
  | .ok selectors => stringValues selectors

end CosmeticRules

/-! `MergeResourcesInto`, one definition for each part. -/

/-- The list of hidden selectors that those of `fromDict` are put into is there. -/
def withForceHide (into : DictValue) (forceHide : Bool) : DictValue :=
  if forceHide && (into.findList "force_hide_selectors").isNone then
    into.set "force_hide_selectors" (.list [])
  else into

/-- A list of `fromDict` goes after a list of `into`, where both are there. -/
def appendList (fromDict : DictValue) (fromKey : String) (into : DictValue) (key : String) :
    DictValue :=
  match into.findList key, fromDict.findList fromKey with
  | some resources, some fromResources => into.set key (.list (resources ++ fromResources))
  | _, _ => into

/-- Two scripts, each in a block of its own. -/
def scriptBlocks (script fromScript : String) : String :=
  "\x7b\n" ++ script ++ "\n\x7d\n\x7b\n" ++ fromScript ++ "\n\x7d"

def mergeInjectedScript (fromDict into : DictValue) : DictValue :=
  match into.findString "injected_script", fromDict.findString "injected_script" with
  | some script, some fromScript =>
    into.set "injected_script" (.string (scriptBlocks script fromScript))
  | _, _ => into

def mergeGenerichide (fromDict into : DictValue) : DictValue :=
  if fromDict.findBool "generichide" = some true then into.set "generichide" (.bool true) else into

/-- The lists of `fromDict` go after those of `into`, and its hidden selectors to
`force_hide_selectors` when hiding is forced. -/
def mergeLists (fromDict into : DictValue) (forceHide : Bool) : DictValue :=
  let hideKey := if forceHide then "force_hide_selectors" else "hide_selectors"
  let into := appendList fromDict "hide_selectors" (withForceHide into forceHide) hideKey
  let into := appendList fromDict "exceptions" into "exceptions"
  appendList fromDict "procedural_actions" into "procedural_actions"

def mergeResourcesInto (fromDict into : DictValue) (forceHide : Bool) : DictValue :=
  mergeGenerichide fromDict (mergeInjectedScript fromDict (mergeLists fromDict into forceHide))

/-- `AdBlockEngineWrapper`, with the engines of its two engines in Rust. -/
structure CosmeticEngineWrapper where
  defaultEngine : CosmeticRules
  additionalFiltersEngine : CosmeticRules

namespace CosmeticEngineWrapper

variable (json : JsonLibrary) (wrapper : CosmeticEngineWrapper)

def urlCosmeticResources (url : List UInt8) : Except Crash DictValue := do
  let resources ← wrapper.defaultEngine.urlCosmeticResourcesDict json url
  let additionalResources ← wrapper.additionalFiltersEngine.urlCosmeticResourcesDict json url
  return mergeResourcesInto additionalResources resources true

def hiddenClassIdSelectors (classes ids exceptions : List (List UInt8)) : DictValue :=
  let result : DictValue := []
  let result := result.set "hide_selectors"
    (.list (wrapper.defaultEngine.hiddenClassIdSelectorsList classes ids exceptions))
  result.set "force_hide_selectors"
    (.list (wrapper.additionalFiltersEngine.hiddenClassIdSelectorsList classes ids exceptions))

end CosmeticEngineWrapper

end ChromiumAdblock
