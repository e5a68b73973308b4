import ChromiumAdblock.Engine.EngineWrapper
import ChromiumAdblock.Net.RequestInfo

/-! `OnHeadersReceived_AdBlockCspWork`: the Content-Security-Policy headers of the response for a
frame are taken out, the engines are asked on the ad-block task runner, and the policies of all
three are put back as one header. -/

namespace ChromiumAdblock

/-- `net::HttpResponseHeaders`: names and values in order, the values as they are read back, with a
space after each comma that separates two of them. -/
structure HttpResponseHeaders where
  lines : List (String × String)
deriving DecidableEq, Repr

namespace HttpResponseHeaders

variable (headers : HttpResponseHeaders) (name : String)

/-- Names of headers are compared without case. -/
def isNamed (line : String × String) : Bool :=
  line.1.toList.map Char.toLower == name.toList.map Char.toLower

/-- The values of the headers with a name, in order. -/
def values : List String := (headers.lines.filter (isNamed name)).map Prod.snd

/-- The headers with other names. -/
def others : List (String × String) := headers.lines.filter fun line => !isNamed name line

/-- Values as one: joined by commas, and none if there are none. -/
def join : List String → Option String
  | [] => none
  | value :: rest =>
    match join rest with
    | none => some value
    | some joined => some (value ++ ", " ++ joined)

def getNormalizedHeader : Option String := join (headers.values name)

def removeHeader : HttpResponseHeaders := ⟨headers.others name⟩

def addHeader (value : String) : HttpResponseHeaders := ⟨headers.lines ++ [(name, value)]⟩

@[simp] theorem values_removeHeader : (headers.removeHeader name).values name = [] := by
  simp only [values, removeHeader, others, List.filter_filter, List.map_eq_nil_iff]
  apply List.filter_eq_nil_iff.mpr
  intro line _
  simp

@[simp] theorem others_removeHeader :
    (headers.removeHeader name).others name = headers.others name := by
  simp [removeHeader, others, List.filter_filter]

theorem isNamed_self (value : String) : isNamed name (name, value) = true := by
  simp [isNamed]

@[simp] theorem values_addHeader (value : String) :
    (headers.addHeader name value).values name = headers.values name ++ [value] := by
  simp [values, addHeader, isNamed_self]

@[simp] theorem others_addHeader (value : String) :
    (headers.addHeader name value).others name = headers.others name := by
  simp [others, addHeader, isNamed_self]

end HttpResponseHeaders

def mergeCspDirectiveInto (fromCsp into : Option String) : Option String :=
  match fromCsp, into with
  | none, into => into
  | some fromStr, none => some fromStr
  | some fromStr, some intoStr => some (fromStr ++ ", " ++ intoStr)

/-- An engine, as it answers about the policies of a page: adblock-rust's `get_csp_directives`. -/
structure CspEngine where
  cspDirectives : EngineRequest → Option String

/-- `AdBlockEngine::GetCspDirectives`; Rust hands over an empty string where it has none. -/
def CspEngine.getCspDirectives (engine : CspEngine) (lib : UrlLibrary) (url : GURL)
    (resourceType : ResourceType) (tabHost : String) : Option String :=
  let result := (engine.cspDirectives (engineRequest lib url resourceType tabHost)).getD ""
  if result = "" then none else some result

structure CspEngineWrapper where
  defaultEngine : CspEngine
  additionalFiltersEngine : CspEngine

/-- `AdBlockEngineWrapper::GetCspDirectives`. -/
def CspEngineWrapper.getCspDirectives (wrapper : CspEngineWrapper) (lib : UrlLibrary) (url : GURL)
    (resourceType : ResourceType) (tabHost : String) : Option String :=
  mergeCspDirectiveInto
    (wrapper.additionalFiltersEngine.getCspDirectives lib url resourceType tabHost)
    (wrapper.defaultEngine.getCspDirectives lib url resourceType tabHost)

/-- The host that the engines get as that of the page. -/
def cspSourceHost (initiatorUrl requestUrl : GURL) : Option String :=
  if initiatorUrl.isValid && initiatorUrl.hasHost then some initiatorUrl.host
  else if requestUrl.isValid then some requestUrl.host
  else none

def getCspDirectivesOnTaskRunner (lib : UrlLibrary) (initiatorUrl requestUrl : GURL)
    (resourceType : ResourceType) (originalCsp : Option String) (wrapper : CspEngineWrapper) :
    Option String :=
  match cspSourceHost initiatorUrl requestUrl with
  | none => none
  | some sourceHost =>
    mergeCspDirectiveInto originalCsp
      (wrapper.getCspDirectives lib requestUrl resourceType sourceHost)

abbrev kContentSecurityPolicy : String := "Content-Security-Policy"

def onReceiveCspDirectives (overrideResponseHeaders : HttpResponseHeaders)
    (cspDirectives : Option String) : HttpResponseHeaders :=
  match cspDirectives with
  | none => overrideResponseHeaders
  | some csp => overrideResponseHeaders.addHeader kContentSecurityPolicy csp

/-- What `OnHeadersReceived_AdBlockCspWork` returns: the override headers as they were, or those
without policies, and the question that is posted to the ad-block task runner. -/
inductive CspWork
  | ok (overrideResponseHeaders : Option HttpResponseHeaders)
  | ioPending (overrideResponseHeaders : HttpResponseHeaders) (originalCsp : Option String)
deriving DecidableEq, Repr

def onHeadersReceivedAdBlockCspWork (responseHeaders : Option HttpResponseHeaders)
    (overrideResponseHeaders : Option HttpResponseHeaders) (ctx : BraveRequestInfo) : CspWork :=
  match responseHeaders with
  | none => .ok overrideResponseHeaders
  | some responseHeaders =>
    if ctx.allowBraveShields = false then .ok overrideResponseHeaders
    else if ctx.resourceType = .kMainFrame ∨ ctx.resourceType = .kSubFrame then
      -- headers that another callback has put in place are used directly
      let headers := overrideResponseHeaders.getD responseHeaders
      .ioPending (headers.removeHeader kContentSecurityPolicy)
        (headers.getNormalizedHeader kContentSecurityPolicy)
    else .ok overrideResponseHeaders

/-- The headers of the response that `ContinueToResponseStarted` hands to the client. -/
def clientHeaders (responseHeaders : HttpResponseHeaders)
    (overrideHeaders : Option HttpResponseHeaders) : HttpResponseHeaders :=
  overrideHeaders.getD responseHeaders

/-- The headers that the client of a response receives, after the engines of `wrapper` answered. -/
def receivedHeaders (lib : UrlLibrary) (wrapper : CspEngineWrapper)
    (responseHeaders : HttpResponseHeaders) (overrideResponseHeaders : Option HttpResponseHeaders)
    (ctx : BraveRequestInfo) : HttpResponseHeaders :=
  match onHeadersReceivedAdBlockCspWork (some responseHeaders) overrideResponseHeaders ctx with
  | .ok overrideHeaders => clientHeaders responseHeaders overrideHeaders
  | .ioPending headers originalCsp =>
    clientHeaders responseHeaders (some (onReceiveCspDirectives headers
      (getCspDirectivesOnTaskRunner lib ctx.initiatorUrl ctx.requestUrl ctx.resourceType
        originalCsp wrapper)))

namespace HttpResponseHeaders

theorem join_eq_none_iff (values : List String) : join values = none ↔ values = [] := by
  cases values with
  | nil => simp [join]
  | cons value rest =>
    rw [join]
    split <;> simp

@[simp] theorem join_toList (value : Option String) : join value.toList = value := by
  cases value <;> rfl

theorem merge_join (values intoValues : List String) :
    mergeCspDirectiveInto (join values) (join intoValues) = join (values ++ intoValues) := by
  induction values with
  | nil => rfl
  | cons value rest ih =>
    rw [List.cons_append, join, join, ← ih]
    cases hrest : join rest with
    | none => cases join intoValues <;> rfl
    | some joined =>
      cases hinto : join intoValues with
      | none => rfl
      | some intoJoined => simp [mergeCspDirectiveInto, String.append_assoc]

end HttpResponseHeaders

open HttpResponseHeaders

section Answers

variable (lib : UrlLibrary) (wrapper : CspEngineWrapper) (ctx : BraveRequestInfo)

/-- What the two engines answer about a request, the additional engine first. -/
def engineCsps : List String :=
  let ask (engine : CspEngine) := engine.getCspDirectives lib ctx.requestUrl ctx.resourceType
    ((cspSourceHost ctx.initiatorUrl ctx.requestUrl).getD "")
  (ask wrapper.additionalFiltersEngine).toList ++ (ask wrapper.defaultEngine).toList

/-- All policies of a response: its own, and those of the engines. -/
def allCsps (headers : HttpResponseHeaders) : List String :=
  headers.values kContentSecurityPolicy ++ engineCsps lib wrapper ctx

theorem cspSourceHost_of_isValid (initiatorUrl : GURL) {requestUrl : GURL}
    (h : requestUrl.isValid = true) :
    ∃ sourceHost, cspSourceHost initiatorUrl requestUrl = some sourceHost := by
  unfold cspSourceHost
  split
  · exact ⟨_, rfl⟩
  · exact ⟨_, rfl⟩

theorem getCspDirectivesOnTaskRunner_eq (headers : HttpResponseHeaders)
    (hurl : ctx.requestUrl.isValid = true) :
    getCspDirectivesOnTaskRunner lib ctx.initiatorUrl ctx.requestUrl ctx.resourceType
        (headers.getNormalizedHeader kContentSecurityPolicy) wrapper =
      join (allCsps lib wrapper ctx headers) := by
  obtain ⟨sourceHost, hhost⟩ := cspSourceHost_of_isValid ctx.initiatorUrl hurl
  have hengines : wrapper.getCspDirectives lib ctx.requestUrl ctx.resourceType sourceHost =
      join (engineCsps lib wrapper ctx) := by
    rw [engineCsps, hhost, ← merge_join, join_toList, join_toList]
    rfl
  rw [getCspDirectivesOnTaskRunner, hhost, allCsps, ← merge_join, ← hengines]
  rfl

theorem onReceiveCspDirectives_values {headers : HttpResponseHeaders}
    (h : headers.values kContentSecurityPolicy = []) (csp : Option String) :
    (onReceiveCspDirectives headers csp).values kContentSecurityPolicy = csp.toList := by
  cases csp with
  | none => exact h
  | some csp => simp [onReceiveCspDirectives, h]

theorem onReceiveCspDirectives_others (headers : HttpResponseHeaders) (csp : Option String) :
    (onReceiveCspDirectives headers csp).others kContentSecurityPolicy =
      headers.others kContentSecurityPolicy := by
  cases csp with
  | none => rfl
  | some csp => simp [onReceiveCspDirectives]

/-- The headers that a response has before the engines are asked. -/
abbrev currentHeaders (responseHeaders : HttpResponseHeaders)
    (overrideResponseHeaders : Option HttpResponseHeaders) : HttpResponseHeaders :=
  overrideResponseHeaders.getD responseHeaders

/-- Where the shields are on, the client of a frame receives all policies as one header. -/
theorem receivedHeaders_of_shields (responseHeaders : HttpResponseHeaders)
    (overrideResponseHeaders : Option HttpResponseHeaders)
    (hshields : ctx.allowBraveShields = true)
    (hframe : ctx.resourceType = .kMainFrame ∨ ctx.resourceType = .kSubFrame)
    (hurl : ctx.requestUrl.isValid = true) :
    receivedHeaders lib wrapper responseHeaders overrideResponseHeaders ctx =
      onReceiveCspDirectives
        ((currentHeaders responseHeaders overrideResponseHeaders).removeHeader
          kContentSecurityPolicy)
        (join (allCsps lib wrapper ctx
          (currentHeaders responseHeaders overrideResponseHeaders))) := by
  rw [receivedHeaders, onHeadersReceivedAdBlockCspWork]
  simp only [hshields, hframe, Bool.true_eq_false, ↓reduceIte]
  rw [getCspDirectivesOnTaskRunner_eq lib wrapper ctx _ hurl]
  rfl

/-- Where the shields are off, the client receives the headers as they are. -/
theorem receivedHeaders_of_no_shields (responseHeaders : HttpResponseHeaders)
    (overrideResponseHeaders : Option HttpResponseHeaders)
    (hshields : ctx.allowBraveShields = false) :
    receivedHeaders lib wrapper responseHeaders overrideResponseHeaders ctx =
      currentHeaders responseHeaders overrideResponseHeaders := by
  rw [receivedHeaders, onHeadersReceivedAdBlockCspWork]
  simp only [hshields, ↓reduceIte]
  rfl

/-- The headers `received` are `headers` with all policies as one header, its own before those of
the additional engine and those of the default engine. -/
structure PutsPoliciesTogether (headers received : HttpResponseHeaders) : Prop where
  policies :
    received.values kContentSecurityPolicy = (join (allCsps lib wrapper ctx headers)).toList
  absent : received.values kContentSecurityPolicy = [] ↔
    headers.values kContentSecurityPolicy = [] ∧ engineCsps lib wrapper ctx = []
  others : received.others kContentSecurityPolicy = headers.others kContentSecurityPolicy

/-- No policy of a frame is lost: where the shields are on, those of the engines are added, and
where they are off, the headers stay as they are. -/
theorem receivedHeaders_policies (responseHeaders : HttpResponseHeaders)
    (overrideResponseHeaders : Option HttpResponseHeaders)
    (hframe : ctx.resourceType = .kMainFrame ∨ ctx.resourceType = .kSubFrame)
    (hurl : ctx.requestUrl.isValid = true) :
    if ctx.allowBraveShields then
      PutsPoliciesTogether lib wrapper ctx (currentHeaders responseHeaders overrideResponseHeaders)
        (receivedHeaders lib wrapper responseHeaders overrideResponseHeaders ctx)
    else
      receivedHeaders lib wrapper responseHeaders overrideResponseHeaders ctx =
        currentHeaders responseHeaders overrideResponseHeaders := by
  split
  · rename_i hshields
    have hreceived := receivedHeaders_of_shields lib wrapper ctx responseHeaders
      overrideResponseHeaders hshields hframe hurl
    have hvalues : (receivedHeaders lib wrapper responseHeaders overrideResponseHeaders
        ctx).values kContentSecurityPolicy = (join (allCsps lib wrapper ctx
          (currentHeaders responseHeaders overrideResponseHeaders))).toList := by
      rw [hreceived]
      exact onReceiveCspDirectives_values (values_removeHeader _ _) _
    refine ⟨hvalues, ?_, ?_⟩
    · rw [hvalues, Option.toList_eq_nil_iff, join_eq_none_iff, allCsps, List.append_eq_nil_iff]
    · rw [hreceived, onReceiveCspDirectives_others, others_removeHeader]
  · rename_i hshields
    exact receivedHeaders_of_no_shields lib wrapper ctx responseHeaders overrideResponseHeaders
      (Bool.eq_false_iff.mpr hshields)

end Answers

/-- An engine with one policy for every page. -/
def strictEngine : CspEngine := ⟨fun _ => some "script-src 'none'"⟩

def strictEngines : CspEngineWrapper := ⟨⟨fun _ => none⟩, strictEngine⟩

/-- The context of a frame of a site in a tab of the given origin. -/
def frameOf (tabOrigin : GURL) : BraveRequestInfo :=
  .makeCTX
    { url := .https "a.com" "/"
      resourceType := .kSubFrame
      trustedTopFrameOrigin := some tabOrigin } none 0 none none

def siteHeaders : HttpResponseHeaders where
  lines := [("content-security-policy", "default-src 'self'"), ("Server", "a")]

/-- The origin of an extension's page. -/
def extensionOrigin : GURL where
  spec := "chrome-extension://a/"
  isValid := true
  scheme := "chrome-extension"
  host := "a"
  spec_ne := by decide

theorem siteHeaders_policies :
    if (frameOf (.https "b.com" "/")).allowBraveShields then
      PutsPoliciesTogether (.ofUrls []) strictEngines (frameOf (.https "b.com" "/"))
        (currentHeaders siteHeaders none)
        (receivedHeaders (.ofUrls []) strictEngines siteHeaders none (frameOf (.https "b.com" "/")))
    else
      receivedHeaders (.ofUrls []) strictEngines siteHeaders none (frameOf (.https "b.com" "/")) =
        currentHeaders siteHeaders none :=
  receivedHeaders_policies (.ofUrls []) strictEngines (frameOf (.https "b.com" "/")) siteHeaders
    none
    (.inr rfl) rfl

/-- In a tab of an extension the engines are not asked. -/
theorem extension_frame_not_asked :
    receivedHeaders (.ofUrls []) strictEngines siteHeaders none (frameOf extensionOrigin) =
        siteHeaders ∧
      ¬PutsPoliciesTogether (.ofUrls []) strictEngines (frameOf extensionOrigin) siteHeaders
        (receivedHeaders (.ofUrls []) strictEngines siteHeaders none
          (frameOf extensionOrigin)) := by
  have hasked : allCsps (.ofUrls []) strictEngines (frameOf extensionOrigin) siteHeaders =
      ["default-src 'self'", "script-src 'none'"] := by
    decide +kernel
  have hreceived : receivedHeaders (.ofUrls []) strictEngines siteHeaders none
      (frameOf extensionOrigin) = siteHeaders := by
    decide +kernel
  refine ⟨hreceived, fun h => ?_⟩
  have hpolicies := h.policies
  rw [hasked, hreceived] at hpolicies
  exact absurd hpolicies (by decide +kernel)

end ChromiumAdblock
