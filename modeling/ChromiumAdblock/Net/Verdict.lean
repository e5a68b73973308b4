import ChromiumAdblock.Lib.Evidence
import ChromiumAdblock.Net.AdBlockTp

/-! The verdict of the ad blocker about a request.  Up to four queries are chained through flags
that let later queries skip rules; the verdict they leave in the context is the one that all rules
of both engines give, in no order. -/

namespace ChromiumAdblock

open Evidence (Found Source ask joinAll)

/-- The evidence that flags, an answer, or the rules for a request stand for. -/
def EngineFlags.found (flags : EngineFlags) : Found :=
  ⟨flags.didMatchRule, flags.didMatchException, flags.didMatchImportant⟩

def BlockerResult.found (result : BlockerResult) : Found :=
  ⟨result.matched, result.hasException, result.important⟩

def MatchRules.found (rules : MatchRules) (request : EngineRequest) : Found :=
  ⟨rules.normal request, rules.exception request, rules.important request⟩

@[simp] theorem EngineFlags.found_add (flags : EngineFlags) (result : BlockerResult) :
    (flags.add result).found = flags.found.join result.found := rfl

@[simp] theorem EngineFlags.found_blocks (flags : EngineFlags) :
    flags.found.blocks = flags.blocks :=
  rfl

@[simp] theorem EngineFlags.found_empty : ({} : EngineFlags).found = Found.nothing := rfl

theorem BlockerResult.found_merge (result fpResult : BlockerResult) :
    (result.merge fpResult).found = result.found.join fpResult.found := rfl

/-- An engine as a source of evidence about a URL. -/
def AdBlockEngine.source (engine : AdBlockEngine) (lib : UrlLibrary) (url : GURL)
    (resourceType : ResourceType) (tabHost : String) : Source := fun past =>
  (engine.shouldStartRequest lib url resourceType tabHost past.rule past.exception
    past.important).found

/-- The flags make an engine leave out nothing that matters of its rules. -/
theorem AdBlockEngine.source_holds {engine : AdBlockEngine} {rules : MatchRules}
    (h : engine.Answers rules) (lib : UrlLibrary) (url : GURL) (resourceType : ResourceType)
    (tabHost : String) :
    (engine.source lib url resourceType tabHost).Holds
      (rules.found (engineRequest lib url resourceType tabHost)) := by
  intro past
  refine ⟨h.important _ _ _, fun himp hpast => ?_, fun himp hrule hexc hnone => ?_⟩
  · -- without a past exception the exceptions are always looked up
    have hforce : (!past.exception) = true := by simp [hpast]
    apply Bool.eq_iff_iff.mpr
    constructor
    · exact h.exception _ _ _ himp
    · intro hrules
      exact h.looked _ _ _ himp hrules (.inr (.inl hforce))
  · -- without a past rule or exception the normal rules are looked up
    have hprev : (past.rule || past.exception) = false := by simp [hrule, hexc]
    apply Bool.eq_iff_iff.mpr
    constructor
    · intro hmatched
      exact (h.matched _ _ _ himp hmatched).resolve_left (by simp [hprev])
    · intro hrules
      exact h.reported _ _ _ himp hrules hnone hprev

/-- The wrapper asks its two engines as sources, the default one first. -/
theorem AdBlockEngineWrapper.found_shouldStartRequest (wrapper : AdBlockEngineWrapper)
    (lib : UrlLibrary) (url : GURL) (resourceType : ResourceType) (tabHost : String)
    (flags : EngineFlags) :
    flags.found.join (wrapper.shouldStartRequest lib url resourceType tabHost flags.didMatchRule
        flags.didMatchException flags.didMatchImportant).found =
      ask [wrapper.defaultEngine.source lib url resourceType tabHost,
        wrapper.additionalFiltersEngine.source lib url resourceType tabHost] flags.found := by
  rw [AdBlockEngineWrapper.shouldStartRequest]
  have hfp : wrapper.defaultEngine.source lib url resourceType tabHost flags.found =
    (wrapper.defaultEngine.shouldStartRequest lib url resourceType tabHost flags.didMatchRule
      flags.didMatchException flags.didMatchImportant).found := rfl
  generalize wrapper.defaultEngine.shouldStartRequest lib url resourceType tabHost
    flags.didMatchRule flags.didMatchException flags.didMatchImportant = fpResult at hfp ⊢
  rw [ask, ask, ask, hfp]
  have himp : fpResult.found.important = fpResult.important := rfl
  rw [himp]
  split
  · rfl
  · rw [ite_self, BlockerResult.found_merge, Found.join_comm (BlockerResult.found _),
      ← Found.join_assoc]
    rfl

/-- The evidence of the rules of both engines for a request. -/
def bothFound (defaultRules additionalRules : MatchRules) (request : EngineRequest) : Found :=
  (defaultRules.found request).join (additionalRules.found request)

section BothFound

variable (defaultRules additionalRules : MatchRules) (request : EngineRequest)

theorem bothFound_important : (bothFound defaultRules additionalRules request).important =
    (defaultRules.important request || additionalRules.important request) := rfl

theorem bothFound_rule : (bothFound defaultRules additionalRules request).rule =
    (defaultRules.normal request || additionalRules.normal request) := rfl

theorem bothFound_exception : (bothFound defaultRules additionalRules request).exception =
    (defaultRules.exception request || additionalRules.exception request) := rfl

end BothFound

/-- The verdict as the rules of both engines give it, in no order: an important rule matches, or a
normal one that no exception lifts, or, where the host was resolved to another name, this holds of
the URL with that name, with the exceptions for the request URL counting too. -/
def referenceBlocks (defaultRules additionalRules : MatchRules) (lib : UrlLibrary) (uncloak : Bool)
    (cname : Option String) (ctx : BraveRequestInfo) : Bool :=
  let important request := defaultRules.important request || additionalRules.important request
  let normal request := defaultRules.normal request || additionalRules.normal request
  let exception request := defaultRules.exception request || additionalRules.exception request
  let requestFor url := engineRequest lib url ctx.resourceType ctx.initiatorUrl.host
  let request := requestFor ctx.requestUrl
  important request || (normal request && !exception request) ||
    match cname with
    | none => false
    | some name =>
      let canonical := requestFor (lib.replaceHost ctx.requestUrl name)
      uncloak && name != "" && name != ctx.requestUrl.host &&
        (important canonical || (normal canonical && !exception canonical && !exception request))

section Verdict

variable {wrapper : AdBlockEngineWrapper} {defaultRules additionalRules : MatchRules}
  (hdefault : wrapper.defaultEngine.Answers defaultRules)
  (hadditional : wrapper.additionalFiltersEngine.Answers additionalRules)

include hdefault hadditional

/-- A query adds to the flags, where it matters, what the rules of both engines say of the URL. -/
theorem EngineFlags.add_agrees (lib : UrlLibrary) (url : GURL) (resourceType : ResourceType)
    (tabHost : String) {flags : EngineFlags} {all : Found} (h : flags.found.Agrees all) :
    (flags.add (wrapper.shouldStartRequest lib url resourceType tabHost flags.didMatchRule
        flags.didMatchException flags.didMatchImportant)).found.Agrees
      (all.join (bothFound defaultRules additionalRules
        (engineRequest lib url resourceType tabHost))) := by
  have hsources : List.Forall₂ Source.Holds
      [wrapper.defaultEngine.source lib url resourceType tabHost,
        wrapper.additionalFiltersEngine.source lib url resourceType tabHost]
      [defaultRules.found (engineRequest lib url resourceType tabHost),
        additionalRules.found (engineRequest lib url resourceType tabHost)] :=
    .cons (AdBlockEngine.source_holds hdefault lib url resourceType tabHost)
      (.cons (AdBlockEngine.source_holds hadditional lib url resourceType tabHost) .nil)
  have hask := Evidence.ask_agrees hsources h
  rw [← wrapper.found_shouldStartRequest] at hask
  simpa [bothFound, Found.join_comm _ Found.nothing] using hask

/-- A check records flags that agree with all evidence, and blocks by them. -/
theorem shouldBlockRequestOnTaskRunner_agrees (lib : UrlLibrary)
    (input : ShouldBlockRequestParams) (previous : EngineFlags) (canonicalUrl : Option GURL)
    {all : Found} (hinit : input.initiatorUrl.isValid = true) (h : previous.found.Agrees all) :
    let result := (shouldBlockRequestOnTaskRunner lib wrapper input previous canonicalUrl).1
    result.engineFlags.found.Agrees
        (all.join (bothFound defaultRules additionalRules
          (engineRequest lib (canonicalUrl.getD input.requestUrl) input.resourceType
            input.initiatorUrl.host))) ∧
      result.blockedBy = if result.engineFlags.blocks then .kAdBlocked else .kNotBlocked := by
  have hvalid : ¬(!input.initiatorUrl.isValid) = true := by simp [hinit]
  rw [shouldBlockRequestOnTaskRunner, if_neg hvalid]
  exact ⟨EngineFlags.add_agrees hdefault hadditional lib _ _ _ h, rfl⟩

/-- The blocked state after all queries: that of the evidence for the request URL, or, where the
host is resolved to another name, of this and the evidence for the canonical URL. -/
theorem adBlockTPCheck_blockedBy (lib : UrlLibrary) (uncloak : Bool) (resolution : HostResolution)
    {ctx : BraveRequestInfo} (hinit : ctx.initiatorUrl.isValid = true) :
    let found url := bothFound defaultRules additionalRules
      (engineRequest lib url ctx.resourceType ctx.initiatorUrl.host)
    (adBlockTPCheck lib wrapper uncloak resolution ctx).1.blockedBy =
      if (found ctx.requestUrl).blocks ||
          match useCnameResult lib ctx resolution.cname with
          | some canonicalUrl =>
            uncloak && ((found ctx.requestUrl).join (found canonicalUrl)).blocks
          | none => false
      then .kAdBlocked else .kNotBlocked := by
  intro found
  obtain ⟨hfirst, hblocked⟩ := shouldBlockRequestOnTaskRunner_agrees hdefault hadditional lib
    (paramsOf ctx) {} none hinit (Found.Agrees.refl Found.nothing)
  simp only [adBlockTPCheck]
  generalize (shouldBlockRequestOnTaskRunner lib wrapper (paramsOf ctx) {} none).1 = first
    at hfirst hblocked ⊢
  rw [Found.nothing_join] at hfirst
  have hverdict : (found ctx.requestUrl).blocks = first.engineFlags.blocks := hfirst.blocks.symm
  rw [hverdict]
  cases hflags : first.engineFlags.blocks with
  | true =>
    have hfinal : first.blockedBy = .kAdBlocked := by simpa [hflags] using hblocked
    simp [afterFirstCheck_final ctx lib wrapper resolution (.inl hfinal), hfinal]
  | false =>
    have hfinal : first.blockedBy = .kNotBlocked := by simpa [hflags] using hblocked
    cases uncloak with
    | false =>
      rw [afterFirstCheck_final ctx lib wrapper resolution (.inr rfl)]
      cases useCnameResult lib ctx resolution.cname <;> simp [hfinal]
    | true =>
      rw [afterFirstCheck_resolve ctx lib wrapper resolution (by simp [hfinal])]
      cases hcname : useCnameResult lib ctx resolution.cname with
      | none => simp [hfinal]
      | some canonicalUrl =>
        obtain ⟨hsecond, hblocked⟩ := shouldBlockRequestOnTaskRunner_agrees hdefault hadditional lib
          (paramsOf ctx) first.engineFlags (some canonicalUrl) hinit hfirst
        have hboth : ((found ctx.requestUrl).join (found canonicalUrl)).blocks =
            (shouldBlockRequestOnTaskRunner lib wrapper (paramsOf ctx) first.engineFlags
              (some canonicalUrl)).1.engineFlags.blocks := hsecond.blocks.symm
        simp [hblocked, hboth]

/-- The flags, the early return on an important rule, and the second accumulation change nothing:
the filter blocks exactly the requests that the rules of both engines block. -/
theorem onBeforeURLRequestAdBlockTP_verdict (lib : UrlLibrary) (features : Features)
    (resolution : HostResolution) {ctx : BraveRequestInfo}
    (hinit : ctx.initiatorUrl.isValid = true) :
    (onBeforeURLRequestAdBlockTP lib features wrapper resolution ctx).1.blockedBy =
      if referenceBlocks defaultRules additionalRules lib (shouldCheckUncloaked features ctx)
        resolution.cname ctx then .kAdBlocked else .kNotBlocked := by
  rw [onBeforeURLRequestAdBlockTP, adBlockTPCheck_blockedBy hdefault hadditional lib _ resolution
    hinit]
  congr 2
  simp only [referenceBlocks, ← bothFound_important, ← bothFound_rule, ← bothFound_exception]
  generalize resolution.cname = cname
  generalize hfirst : bothFound defaultRules additionalRules
    (engineRequest lib ctx.requestUrl ctx.resourceType ctx.initiatorUrl.host) = first
  have hblocks : (first.important || first.rule && !first.exception) = first.blocks := rfl
  rw [hblocks]
  cases hb : first.blocks with
  | true => simp
  | false =>
    cases cname with
    | none => simp [useCnameResult]
    | some name =>
      by_cases hname : ctx.requestUrl.host ≠ name ∧ name ≠ ""
      · have hne : (name != "") = true := by simp [hname.2]
        have hhost : (name != ctx.requestUrl.host) = true := by simp [hname.1.symm]
        simp [useCnameResult, hname, hne, hhost, Found.join_blocks_of_not _ _ hb]
      · by_cases hempty : name = ""
        · simp [useCnameResult, hempty]
        · have hhost : ctx.requestUrl.host = name := by
            by_contra hne
            exact hname ⟨hne, hempty⟩
          simp [useCnameResult, hhost]

end Verdict

/-- A normal rule of the additional engine for a tracker's host, and none of the default engine. -/
def trackerRules : MatchRules where
  important _ := false
  normal r := r.hostname == "tracker.net"
  exception _ := false

def noRules : MatchRules := ⟨fun _ => false, fun _ => false, fun _ => false⟩

/-- A first-party name that is an alias of the tracker's is blocked on the canonical URL. -/
theorem onBeforeURLRequestAdBlockTP_verdict_cname :
    (onBeforeURLRequestAdBlockTP (.ofUrls []) {}
      ⟨noRules.engine (fun _ => {}) (fun _ => {}), trackerRules.engine (fun _ => {}) (fun _ => {})⟩
      (.resolved ["tracker.net"])
      { requestUrl := .https "metrics.shop.com" "/", initiatorUrl := .https "shop.com" "/"
        method := "GET", resourceType := .kScript, browserContext := some {} }).1.blockedBy =
      .kAdBlocked := by
  rw [onBeforeURLRequestAdBlockTP_verdict (noRules.engine_answers _ _)
    (trackerRules.engine_answers _ _) _ _ _ rfl]
  decide

end ChromiumAdblock
