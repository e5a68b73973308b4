import ChromiumAdblock.Net.Url

/-! The two ad-block engines and the wrapper that asks both about a network request.  The matching
itself is adblock-rust's, so an engine is here the function `matches` that the wrapper calls;
`MatchRules` states what adblock-rust documents about its answers in terms of the rules that match a
request. -/

namespace ChromiumAdblock

/-- An optional string as it crosses the foreign function interface. -/
structure OptionalString where
  hasValue : Bool := false
  value : String := ""
deriving DecidableEq, Repr

/-- The answer of an engine about a request. -/
structure BlockerResult where
  matched : Bool := false
  important : Bool := false
  hasException : Bool := false
  redirect : OptionalString := {}
  rewrittenUrl : OptionalString := {}
deriving DecidableEq, Repr

/-- A request as an engine gets it. -/
structure EngineRequest where
  url : String
  hostname : String
  sourceHostname : String
  requestType : String
  thirdPartyRequest : Bool
deriving DecidableEq, Repr

def resourceTypeToString : ResourceType → String
  | .kMainFrame => "main_frame"
  | .kSubFrame => "sub_frame"
  | .kStylesheet => "stylesheet"
  | .kScript => "script"
  | .kFavicon => "image"
  | .kImage => "image"
  | .kFontResource => "font"
  | .kSubResource => "other"
  | .kObject => "object"
  | .kMedia => "media"
  | .kXhr => "xhr"
  | .kPing => "ping"
  | _ => ""

/-- An engine: adblock-rust's `matches`, which takes a request, whether a rule was matched before,
and whether exceptions are checked in any case. -/
structure AdBlockEngine where
  «matches» : EngineRequest → (previouslyMatchedRule forceCheckExceptions : Bool) → BlockerResult

/-- The request that an engine gets for a URL, a type, and the host of the page. -/
def engineRequest (lib : UrlLibrary) (url : GURL) (resourceType : ResourceType)
    (tabHost : String) : EngineRequest where
  url := url.spec
  hostname := url.host
  sourceHostname := tabHost
  requestType := resourceTypeToString resourceType
  thirdPartyRequest := !lib.sameDomainOrHost url tabHost

/-- Normal rules are skipped after a rule or an exception, exceptions after an exception. -/
def AdBlockEngine.shouldStartRequest (engine : AdBlockEngine) (lib : UrlLibrary) (url : GURL)
    (resourceType : ResourceType) (tabHost : String)
    (previouslyMatchedRule previouslyMatchedException _previouslyMatchedImportant : Bool) :
    BlockerResult :=
  engine.matches (engineRequest lib url resourceType tabHost)
    (previouslyMatchedRule || previouslyMatchedException) (!previouslyMatchedException)

structure AdBlockEngineWrapper where
  defaultEngine : AdBlockEngine
  additionalFiltersEngine : AdBlockEngine

/-- The answer of the additional engine, with what the default engine answered before it. -/
def BlockerResult.merge (result fpResult : BlockerResult) : BlockerResult where
  matched := result.matched || fpResult.matched
  hasException := result.hasException || fpResult.hasException
  important := result.important || fpResult.important
  redirect :=
    if !result.redirect.hasValue && fpResult.redirect.hasValue then fpResult.redirect
    else result.redirect
  rewrittenUrl :=
    if !result.rewrittenUrl.hasValue && fpResult.rewrittenUrl.hasValue then fpResult.rewrittenUrl
    else result.rewrittenUrl

/-- The default engine answers first, and the additional one unless an important rule matched. -/
def AdBlockEngineWrapper.shouldStartRequest (wrapper : AdBlockEngineWrapper) (lib : UrlLibrary)
    (url : GURL) (resourceType : ResourceType) (tabHost : String)
    (previouslyMatchedRule previouslyMatchedException previouslyMatchedImportant : Bool) :
    BlockerResult :=
  let fpResult := wrapper.defaultEngine.shouldStartRequest lib url resourceType tabHost
    previouslyMatchedRule previouslyMatchedException previouslyMatchedImportant
  -- The default engine's removeparam results are always ignored.
  let fpResult := { fpResult with rewrittenUrl := { fpResult.rewrittenUrl with hasValue := false } }
  if fpResult.important then fpResult
  else
    let requestUrl :=
      if fpResult.rewrittenUrl.hasValue then lib.parse fpResult.rewrittenUrl.value else url
    let result := wrapper.additionalFiltersEngine.shouldStartRequest lib requestUrl resourceType
      tabHost (previouslyMatchedRule || fpResult.matched)
      (previouslyMatchedException || fpResult.hasException)
      (previouslyMatchedImportant || fpResult.important)
    result.merge fpResult

/-- Which kinds of rules of an engine match a request. -/
structure MatchRules where
  important : EngineRequest → Bool
  normal : EngineRequest → Bool
  exception : EngineRequest → Bool

/-- What adblock-rust documents of `matches`, for an engine with the given rules.  Important rules
are always checked.  Without one, a match that no exception lifts is reported if the normal rules
were checked, a reported match comes from a normal rule or from the caller, and an exception is
reported if it matches and is looked for: when a rule matched, now or before, or when the caller
forces it. -/
structure AdBlockEngine.Answers (engine : AdBlockEngine) (rules : MatchRules) : Prop where
  important : ∀ r prev force, (engine.matches r prev force).important = rules.important r
  reported : ∀ r prev force, rules.important r = false → rules.normal r = true →
    rules.exception r = false → prev = false → (engine.matches r prev force).matched = true
  matched : ∀ r prev force, rules.important r = false →
    (engine.matches r prev force).matched = true → prev = true ∨ rules.normal r = true
  looked : ∀ r prev force, rules.important r = false → rules.exception r = true →
    prev = true ∨ force = true ∨ rules.normal r = true →
    (engine.matches r prev force).hasException = true
  exception : ∀ r prev force, rules.important r = false →
    (engine.matches r prev force).hasException = true → rules.exception r = true

/-- The engine of adblock-rust over given rules: normal rules are looked up where none matched
before, and exceptions where a rule matched, or was matched before, or the caller forces it. -/
def MatchRules.engine (rules : MatchRules)
    (redirect rewrittenUrl : EngineRequest → OptionalString) : AdBlockEngine where
  «matches» r previouslyMatchedRule forceCheckExceptions :=
    let important := rules.important r
    let filter := important || !previouslyMatchedRule && rules.normal r
    let exception := !important && (filter || previouslyMatchedRule || forceCheckExceptions) &&
      rules.exception r
    { matched := !exception && (filter || previouslyMatchedRule)
      important := important
      hasException := exception
      redirect := redirect r
      rewrittenUrl := rewrittenUrl r }

theorem MatchRules.engine_answers (rules : MatchRules)
    (redirect rewrittenUrl : EngineRequest → OptionalString) :
    (rules.engine redirect rewrittenUrl).Answers rules where
  important _ _ _ := rfl
  reported r prev force himp hnormal hexc hprev := by simp [MatchRules.engine, himp, hnormal, hexc]
  matched r prev force himp hmatched := by
    have h : prev = false → rules.normal r = true := by
      simp only [MatchRules.engine, himp] at hmatched
      intro hprev
      simpa [hprev] using (Bool.and_eq_true_iff.mp hmatched).2
    cases prev with
    | true => exact .inl rfl
    | false => exact .inr (h rfl)
  looked r prev force himp hexc hlook := by
    rcases hlook with rfl | rfl | hnormal
    · simp [MatchRules.engine, himp, hexc]
    · simp [MatchRules.engine, himp, hexc]
    · cases prev <;> simp [MatchRules.engine, himp, hexc, hnormal]
  exception r prev force himp hexc := by
    simp only [MatchRules.engine] at hexc
    exact (Bool.and_eq_true_iff.mp hexc).2

end ChromiumAdblock
