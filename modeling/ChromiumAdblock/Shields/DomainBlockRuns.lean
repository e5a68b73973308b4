import Mathlib.Data.List.Range
import Mathlib.Data.List.Perm.Basic
import ChromiumAdblock.Shields.DomainBlock

/-! What holds of a tab over all its navigations: what a deferred navigation is answered with, and
whose requests pass unchecked after a click on "Proceed". -/

namespace ChromiumAdblock

open EventMachine

namespace RequestPhase

/-- Only the type `kAggressive` defers a navigation. -/
def Aggressive : RequestPhase → Prop
  | deferred _ domainBlockingType | checked _ domainBlockingType _ =>
    domainBlockingType = .kAggressive
  | created | requesting => True

end RequestPhase

namespace Tab

variable {lib : UrlLibrary} {s s' : Tab} {kBraveDomainBlock : Bool} {es : List TabEvent}

section Phases

variable {navigation : TabNavigation}

theorem openDeferrals_of_phase (hnavigation : s.navigation = some navigation)
    (hphase : navigation.phase.deferral? = none) : s.openDeferrals = [] := by
  simp [openDeferrals, hnavigation, hphase]

theorem created_of_awaits (h : s.awaits .willStartRequest = true) :
    ∃ url click, s.navigation = some ⟨url, click, .created⟩ := by
  simp only [awaits] at h
  split at h
  · rename_i url click hnavigation
    exact ⟨url, click, hnavigation⟩
  · contradiction

theorem requesting_of_redirect {url : GURL} (h : s.awaits (.willRedirectRequest url) = true) :
    ∃ url click, s.navigation = some ⟨url, click, .requesting⟩ := by
  simp only [awaits] at h
  split at h
  · rename_i url click hnavigation
    exact ⟨url, click, hnavigation⟩
  · contradiction

theorem requesting_of_response {commits : Bool}
    (h : s.awaits (.willProcessResponse commits) = true) :
    ∃ url click, s.navigation = some ⟨url, click, .requesting⟩ := by
  apply requesting_of_redirect
  show s.awaits (.willRedirectRequest .empty) = true
  exact h

theorem deferred_of_awaits {wrapper : AdBlockEngineWrapper}
    (h : s.awaits (.runCheck wrapper) = true) :
    ∃ url click deferral type, s.navigation = some ⟨url, click, .deferred deferral type⟩ := by
  simp only [awaits] at h
  split at h
  · rename_i url click deferral type hnavigation
    exact ⟨url, click, deferral, type, hnavigation⟩
  · contradiction

theorem checked_of_awaits (h : s.awaits .onShouldBlockDomain = true) :
    ∃ url click deferral type wrapper,
      s.navigation = some ⟨url, click, .checked deferral type wrapper⟩ := by
  simp only [awaits] at h
  split at h
  · rename_i url click deferral type wrapper hnavigation
    exact ⟨url, click, deferral, type, wrapper, hnavigation⟩
  · contradiction

/-- The three outcomes of the start, or a redirect, of a request. -/
theorem willStartRequest_cases (s : Tab) (navigation : TabNavigation) :
    (s.kBraveDomainBlock = false ∧ s.willStartRequest navigation =
      { s with navigation := some { navigation with phase := .requesting } }) ∨
    (s.kBraveDomainBlock = true ∧ s.isProceeding = true ∧ s.willStartRequest navigation =
      { s with
        checks := s.checks ++ [s.requestCheck navigation]
        navigation := some { navigation with phase := .requesting } }) ∨
    (s.kBraveDomainBlock = true ∧ s.isProceeding = false ∧ s.willStartRequest navigation =
      { s with
        checks := s.checks ++ [s.requestCheck navigation]
        deferrals := s.deferrals + 1
        navigation := some { navigation with phase := .deferred s.deferrals .kAggressive } }) := by
  cases hfeature : s.kBraveDomainBlock with
  | false => exact .inl ⟨rfl, by simp [willStartRequest, hfeature]⟩
  | true =>
    cases hproceeding : s.isProceeding with
    | true =>
      exact .inr (.inl ⟨rfl, rfl, by simp [willStartRequest, hfeature, hproceeding]⟩)
    | false =>
      refine .inr (.inr ⟨rfl, rfl, ?_⟩)
      simp [willStartRequest, requestCheck, getDomainBlockingType, hfeature, hproceeding]

/-- The answer to a deferred navigation resumes it or cancels it. -/
theorem answer_ok (lib : UrlLibrary) (s : Tab) (navigation : TabNavigation) (deferral : Nat)
    (wrapper : AdBlockEngineWrapper) :
    ∃ actions navigation' interstitial,
      onShouldBlockDomain lib .kAggressive navigation.url
        (shouldBlockDomainOnTaskRunner lib navigation.url wrapper) = .ok actions ∧
      s.answer lib navigation deferral .kAggressive wrapper =
        .ok { s with
              answers := s.answers ++ [⟨deferral, navigation.url, wrapper, actions⟩]
              posted := s.posted ++ actions.filterMap (·.opens)
              navigation := navigation'
              interstitial := interstitial } ∧
      ∀ n, navigation' = some n → n = { navigation with phase := .requesting } := by
  obtain hactions | hactions | hactions := onShouldBlockDomain_cases lib navigation.url
    (shouldBlockDomainOnTaskRunner lib navigation.url wrapper)
  · refine ⟨_, some { navigation with phase := .requesting }, s.interstitial, hactions, ?_, ?_⟩
    · rw [answer, hactions]
      simp [act, ThrottleAction.opens]
    · intro n hn
      exact (Option.some.inj hn).symm
  · refine ⟨_, none, s.interstitial, hactions, ?_, ?_⟩
    · rw [answer, hactions]
      simp [restartNavigation, act, ThrottleAction.opens]
    · intro n hn
      cases hn
  · refine ⟨_, none, some navigation.url, hactions, ?_, ?_⟩
    · rw [answer, hactions]
      simp [showInterstitial, act, ThrottleAction.opens]
    · intro n hn
      cases hn

end Phases

/-- The deferred navigations of a tab: what each was answered with, that each is answered once, or
went away, or is still deferred, and that the rewritten URLs are opened once each. -/
structure Deferrals (lib : UrlLibrary) (s : Tab) : Prop where
  aggressive : ∀ navigation, s.navigation = some navigation → navigation.phase.Aggressive
  answered : ∀ a ∈ s.answers, onShouldBlockDomain lib .kAggressive a.url
    (shouldBlockDomainOnTaskRunner lib a.url a.wrapper) = .ok a.actions
  numbered : (s.answers.map (·.deferral) ++ (s.dropped ++ s.openDeferrals)).Perm
    (List.range s.deferrals)
  restarts : s.opened ++ s.posted = s.answers.flatMap (·.opens)

namespace Deferrals

theorem init (lib : UrlLibrary) (kBraveDomainBlock : Bool) :
    Deferrals lib (init kBraveDomainBlock) where
  aggressive navigation hnavigation := by cases hnavigation
  answered a ha := by cases ha
  numbered := .refl []
  restarts := rfl

theorem of_eq (h : Deferrals lib s)
    (haggressive : ∀ navigation, s'.navigation = some navigation → navigation.phase.Aggressive)
    (hanswers : s'.answers = s.answers)
    (hopen : s'.dropped ++ s'.openDeferrals = s.dropped ++ s.openDeferrals)
    (hdeferrals : s'.deferrals = s.deferrals)
    (hopened : s'.opened ++ s'.posted = s.opened ++ s.posted) : Deferrals lib s' where
  aggressive := haggressive
  answered := by rw [hanswers]; exact h.answered
  numbered := by rw [hanswers, hopen, hdeferrals]; exact h.numbered
  restarts := by rw [hopened, hanswers]; exact h.restarts

theorem endNavigation (h : Deferrals lib s) : Deferrals lib s.endNavigation := by
  refine h.of_eq ?_ rfl ?_ rfl rfl
  · intro navigation hnavigation
    cases hnavigation
  · exact List.append_nil _

theorem beginNavigation (h : Deferrals lib s) (url : GURL) (click : Option Nat) :
    Deferrals lib (s.beginNavigation url click) := by
  refine h.of_eq ?_ rfl ?_ rfl rfl
  · intro navigation hnavigation
    cases hnavigation
    trivial
  · exact List.append_nil _

theorem willStartRequest (h : Deferrals lib s) (hopen : s.openDeferrals = [])
    (navigation : TabNavigation) : Deferrals lib (s.willStartRequest navigation) := by
  have hpassed : ∀ checks, Deferrals lib
      { s with
        checks := checks
        navigation := some { navigation with phase := .requesting } } := by
    intro checks
    refine h.of_eq ?_ rfl ?_ rfl rfl
    · intro _ hnavigation
      cases hnavigation
      trivial
    · rw [hopen]
      rfl
  obtain ⟨_, heq⟩ | ⟨_, _, heq⟩ | ⟨_, _, heq⟩ := willStartRequest_cases s navigation
  · rw [heq]
    exact hpassed s.checks
  · rw [heq]
    exact hpassed _
  · rw [heq]
    refine ⟨?_, h.answered, ?_, h.restarts⟩
    · intro _ hnavigation
      cases hnavigation
      rfl
    · -- The new deferral has the next number.
      have hperm := h.numbered
      rw [hopen, List.append_nil] at hperm
      show (s.answers.map (·.deferral) ++ (s.dropped ++ [s.deferrals])).Perm
        (List.range (s.deferrals + 1))
      rw [List.range_succ, ← List.append_assoc]
      exact hperm.append_right _

theorem answer {navigation : TabNavigation} {deferral : Nat} {wrapper : AdBlockEngineWrapper}
    (h : Deferrals lib s) (hopen : s.openDeferrals = [deferral]) :
    ∃ s', s.answer lib navigation deferral .kAggressive wrapper = .ok s' ∧ Deferrals lib s' := by
  obtain ⟨actions, navigation', interstitial, hactions, heq, hnavigation'⟩ :=
    answer_ok lib s navigation deferral wrapper
  refine ⟨_, heq, ?_, ?_, ?_, ?_⟩
  · intro n hn
    rw [hnavigation' n hn]
    trivial
  · intro a ha
    obtain ha | ha := List.mem_append.mp ha
    · exact h.answered a ha
    · obtain rfl := List.mem_singleton.mp ha
      exact hactions
  · -- The deferral moves from the open ones to the answered ones.
    have hclosed : (navigation'.bind (·.phase.deferral?)).toList = [] := by
      cases navigation' with
      | none => rfl
      | some n => rw [hnavigation' n rfl]; rfl
    have hperm := h.numbered
    rw [hopen] at hperm
    refine .trans ?_ hperm
    simp only [openDeferrals, hclosed, List.map_append, List.map_cons, List.map_nil,
      List.append_nil, List.append_assoc]
    exact List.perm_append_comm.append_left _
  · show s.opened ++ (s.posted ++ actions.filterMap (·.opens)) = _
    rw [← List.append_assoc, h.restarts]
    simp [DeferralAnswer.opens]

theorem event (h : Deferrals lib s) (e : TabEvent) (hawaits : s.awaits e = true) :
    ∃ s', s.event lib e = .ok s' ∧ Deferrals lib s' := by
  cases e with
  | navigate url => exact ⟨_, rfl, h.beginNavigation url none⟩
  | proceed =>
    obtain ⟨url, hinterstitial⟩ := Option.isSome_iff_exists.mp hawaits
    refine ⟨s.proceed url, by rw [Tab.event, hinterstitial], beginNavigation ?_ url _⟩
    exact h.of_eq h.aggressive rfl rfl rfl rfl
  | willStartRequest =>
    obtain ⟨url, click, hnavigation⟩ := created_of_awaits hawaits
    refine ⟨_, by rw [Tab.event, hnavigation], ?_⟩
    exact h.willStartRequest (openDeferrals_of_phase hnavigation rfl) _
  | willRedirectRequest url =>
    obtain ⟨url', click, hnavigation⟩ := requesting_of_redirect hawaits
    refine ⟨_, by rw [Tab.event, hnavigation], ?_⟩
    exact h.willStartRequest (openDeferrals_of_phase hnavigation rfl) _
  | runCheck wrapper =>
    obtain ⟨url, click, deferral, type, hnavigation⟩ := deferred_of_awaits hawaits
    refine ⟨{ s with navigation := some ⟨url, click, .checked deferral type wrapper⟩ },
      by rw [Tab.event, hnavigation], h.of_eq ?_ rfl ?_ rfl rfl⟩
    · intro _ heq
      cases heq
      have hdeferred := h.aggressive _ hnavigation
      exact hdeferred
    · simp [openDeferrals, hnavigation, RequestPhase.deferral?]
  | onShouldBlockDomain =>
    obtain ⟨url, click, deferral, type, wrapper, hnavigation⟩ := checked_of_awaits hawaits
    obtain rfl : type = .kAggressive := h.aggressive _ hnavigation
    rw [Tab.event, hnavigation]
    apply h.answer
    simp [openDeferrals, hnavigation, RequestPhase.deferral?]
  | willProcessResponse commits =>
    obtain ⟨url, click, hnavigation⟩ := requesting_of_response hawaits
    refine ⟨_, rfl, h.of_eq ?_ rfl ?_ rfl rfl⟩
    · intro _ heq
      cases heq
    · rw [openDeferrals_of_phase hnavigation rfl]
      rfl
  | fail =>
    refine ⟨_, rfl, h.endNavigation.of_eq ?_ rfl rfl rfl rfl⟩
    exact h.endNavigation.aggressive
  | abort => exact ⟨_, rfl, h.endNavigation⟩
  | openUrl =>
    cases hposted : s.posted with
    | nil => simp [awaits, hposted] at hawaits
    | cons url rest =>
      refine ⟨_, by rw [Tab.event, hposted], beginNavigation ?_ url none⟩
      refine h.of_eq h.aggressive rfl rfl rfl ?_
      rw [hposted]
      exact List.append_assoc ..

theorem step (h : Deferrals lib s) (e : TabEvent) (hawaits : s.awaits e = true) :
    ∃ s', step lib s e = .ok s' ∧ Deferrals lib s' := by
  obtain ⟨s', hevent, h'⟩ := h.event e hawaits
  refine ⟨{ s' with time := s'.time + 1 }, by rw [Tab.step, hevent], ?_⟩
  exact h'.of_eq h'.aggressive rfl rfl rfl rfl

theorem of_run (run : Run (machine lib) (Tab.init kBraveDomainBlock) es s) :
    Deferrals lib s := by
  refine run.preserves ?_ (init lib kBraveDomainBlock)
  intro s e s' henabled hstep h
  obtain ⟨t, ht, h'⟩ := h.step e henabled
  obtain rfl : t = s' := Except.ok.inj (ht.symm.trans hstep)
  exact h'

/-- A deferred navigation awaits the question to the engines, or its answer. -/
theorem awaits_answer (hopen : s.openDeferrals ≠ []) :
    s.awaits .onShouldBlockDomain = true ∨ ∀ wrapper, s.awaits (.runCheck wrapper) = true := by
  cases hnavigation : s.navigation with
  | none => simp [openDeferrals, hnavigation] at hopen
  | some navigation =>
    obtain ⟨url, click, phase⟩ := navigation
    cases phase with
    | created | requesting =>
      simp [openDeferrals, hnavigation, RequestPhase.deferral?] at hopen
    | deferred deferral type => exact .inr fun wrapper => by simp [awaits, hnavigation]
    | checked deferral type wrapper => exact .inl (by simp [awaits, hnavigation])

end Deferrals

/-- In every run, blocking comes first for a navigation exactly if its URL is not both blocked and
rewritten.  Each deferral is answered once, or its navigation went away, or it awaits its answer. -/
theorem deferrals_answered (run : Run (machine lib) (init kBraveDomainBlock) es s) :
    (∀ a ∈ s.answers,
      (a.actions =
          blockingFirst lib a.url (shouldBlockDomainOnTaskRunner lib a.url a.wrapper) ↔
        ¬((shouldBlockDomainOnTaskRunner lib a.url a.wrapper).shouldBlock = true ∧
          (lib.parse (shouldBlockDomainOnTaskRunner lib a.url a.wrapper).newUrl).isValid = true))) ∧
    (s.answers.map (·.deferral) ++ (s.dropped ++ s.openDeferrals)).Perm (List.range s.deferrals) ∧
    s.opened ++ s.posted = s.answers.flatMap (·.opens) ∧
    (s.openDeferrals ≠ [] →
      s.awaits .onShouldBlockDomain = true ∨ ∀ wrapper, s.awaits (.runCheck wrapper) = true) ∧
    ∀ e, s.awaits e = true → ∃ s', step lib s e = .ok s' := by
  have h := Deferrals.of_run run
  refine ⟨?_, h.numbered, h.restarts, Deferrals.awaits_answer, ?_⟩
  · intro a ha
    exact actions_blockingFirst_iff (h.answered a ha)
  · intro e hawaits
    obtain ⟨s', hs', _⟩ := h.step e hawaits
    exact ⟨s', hs'⟩

/-- Engines of which the default one blocks `ads.com`, and the additional one removes the parameters
of its URLs if `removes`. -/
def documentEngines (removes : Bool) : AdBlockEngineWrapper where
  defaultEngine := MatchRules.engine
    ⟨fun _ => false, fun request => request.hostname == "ads.com", fun _ => false⟩
    (fun _ => {}) (fun _ => {})
  additionalFiltersEngine := MatchRules.engine
    ⟨fun _ => false, fun _ => false, fun _ => false⟩
    (fun _ => {}) (fun _ => ⟨removes, "https://ads.com/page"⟩)

def adUrl : GURL := .https "ads.com" "/page?utm=1"

def adUrls : UrlLibrary := .ofUrls [.https "ads.com" "/page"]

/-- A navigation to `ads.com` that the engines are asked about. -/
def checkedNavigation (removes : Bool) : List TabEvent :=
  [.navigate adUrl, .willStartRequest, .runCheck (documentEngines removes), .onShouldBlockDomain]

/-- Without a rewritten URL, the blocked navigation ends with the interstitial. -/
theorem deferrals_answered_interstitial :
    ∃ s, Run (machine adUrls) (init true) (checkedNavigation false) s ∧
      (s.answers.map (·.actions) = [showInterstitial adUrl] ∧ s.interstitial = some adUrl) ∧
      (s.answers.map (·.deferral) ++ (s.dropped ++ s.openDeferrals)).Perm
        (List.range s.deferrals) := by
  obtain ⟨s, run, hs⟩ := Machine.exists_run (machine adUrls) (init true) (checkedNavigation false)
    (fun s => decide (s.answers.map (·.actions) = [showInterstitial adUrl] ∧
      s.interstitial = some adUrl)) (by decide +kernel)
  obtain ⟨-, hnumbered, -⟩ := deferrals_answered run
  exact ⟨s, run, of_decide_eq_true hs, hnumbered⟩

/-- With one, the navigation that is blocked just the same is restarted. -/
theorem blocked_navigation_restarted :
    (shouldBlockDomainOnTaskRunner adUrls adUrl (documentEngines true)).shouldBlock = true ∧
    ∃ s, Run (machine adUrls) (init true) (checkedNavigation true) s ∧
      s.answers.map (·.actions) = [restartNavigation (.https "ads.com" "/page")] ∧
      s.interstitial = none ∧ s.posted = [.https "ads.com" "/page"] := by
  refine ⟨by decide, ?_⟩
  obtain ⟨s, run, hs⟩ := Machine.exists_run (machine adUrls) (init true) (checkedNavigation true)
    (fun s => decide (s.answers.map (·.actions) = [restartNavigation (.https "ads.com" "/page")] ∧
      s.interstitial = none ∧ s.posted = [.https "ads.com" "/page"])) (by decide +kernel)
  exact ⟨s, run, of_decide_eq_true hs⟩

section Proceeding

variable {e : TabEvent} {past : List TabEvent}

/-- What an event does with the flag and the checks. -/
structure FlagStep (s : Tab) (e : TabEvent) (s' : Tab) : Prop where
  feature : s'.kBraveDomainBlock = s.kBraveDomainBlock
  time : s'.time = s.time
  flag : s.kBraveDomainBlock = true →
    s'.isProceeding = !TabEvent.clickAnswered (!s.isProceeding) e
  checks : s'.checks = s.checks ∨ s.kBraveDomainBlock = true ∧
    ∃ navigation, s'.checks = s.checks ++ [s.requestCheck navigation]

theorem willStartRequest_flagStep (s : Tab) (navigation : TabNavigation)
    (he : TabEvent.clickAnswered (!s.isProceeding) e = !s.isProceeding) :
    FlagStep s e (s.willStartRequest navigation) := by
  have hflag : s.isProceeding = !TabEvent.clickAnswered (!s.isProceeding) e := by
    rw [he, Bool.not_not]
  obtain ⟨_, heq⟩ | ⟨hfeature, _, heq⟩ | ⟨hfeature, _, heq⟩ := willStartRequest_cases s navigation
  · rw [heq]
    exact ⟨rfl, rfl, fun _ => hflag, .inl rfl⟩
  · rw [heq]
    exact ⟨rfl, rfl, fun _ => hflag, .inr ⟨hfeature, navigation, rfl⟩⟩
  · rw [heq]
    exact ⟨rfl, rfl, fun _ => hflag, .inr ⟨hfeature, navigation, rfl⟩⟩

theorem foldl_act (navigation : TabNavigation) (actions : List ThrottleAction) (s : Tab) :
    (actions.foldl (fun s action => s.act navigation action) s).kBraveDomainBlock =
        s.kBraveDomainBlock ∧
      (actions.foldl (fun s action => s.act navigation action) s).time = s.time ∧
      (actions.foldl (fun s action => s.act navigation action) s).isProceeding =
        s.isProceeding ∧
      (actions.foldl (fun s action => s.act navigation action) s).checks = s.checks := by
  induction actions generalizing s with
  | nil => exact ⟨rfl, rfl, rfl, rfl⟩
  | cons action rest ih =>
    obtain ⟨hfeature, htime, hflag, hchecks⟩ := ih (s.act navigation action)
    cases action <;> exact ⟨hfeature, htime, hflag, hchecks⟩

theorem answer_flagStep {navigation : TabNavigation} {deferral : Nat}
    {type : DomainBlockingType} {wrapper : AdBlockEngineWrapper}
    (h : s.answer lib navigation deferral type wrapper = .ok s') :
    FlagStep s .onShouldBlockDomain s' := by
  rw [answer] at h
  split at h
  · contradiction
  · rename_i actions hactions
    obtain rfl := Except.ok.inj h
    obtain ⟨hfeature, htime, hflag, hchecks⟩ := foldl_act navigation actions
      { s with answers := s.answers ++ [⟨deferral, navigation.url, wrapper, actions⟩] }
    exact ⟨hfeature, htime, fun _ => hflag.trans (Bool.not_not _).symm, .inl hchecks⟩

theorem event_flagStep (h : s.event lib e = .ok s') (hawaits : s.awaits e = true) :
    FlagStep s e s' := by
  have hsame : s.isProceeding = !!s.isProceeding := (Bool.not_not _).symm
  cases e with
  | navigate url =>
    obtain rfl := Except.ok.inj h
    exact ⟨rfl, rfl, fun _ => hsame, .inl rfl⟩
  | proceed =>
    obtain ⟨url, hinterstitial⟩ := Option.isSome_iff_exists.mp hawaits
    rw [event, hinterstitial] at h
    obtain rfl := Except.ok.inj h
    exact ⟨rfl, rfl, fun _ => rfl, .inl rfl⟩
  | willStartRequest =>
    obtain ⟨url, click, hnavigation⟩ := created_of_awaits hawaits
    rw [event, hnavigation] at h
    obtain rfl := Except.ok.inj h
    exact willStartRequest_flagStep s _ rfl
  | willRedirectRequest url =>
    obtain ⟨url', click, hnavigation⟩ := requesting_of_redirect hawaits
    rw [event, hnavigation] at h
    obtain rfl := Except.ok.inj h
    exact willStartRequest_flagStep s _ rfl
  | runCheck wrapper =>
    obtain ⟨url, click, deferral, type, hnavigation⟩ := deferred_of_awaits hawaits
    rw [event, hnavigation] at h
    obtain rfl := Except.ok.inj h
    exact ⟨rfl, rfl, fun _ => hsame, .inl rfl⟩
  | onShouldBlockDomain =>
    obtain ⟨url, click, deferral, type, wrapper, hnavigation⟩ := checked_of_awaits hawaits
    rw [event, hnavigation] at h
    exact answer_flagStep h
  | willProcessResponse commits =>
    obtain rfl := Except.ok.inj h
    refine ⟨rfl, rfl, fun hfeature => ?_, .inl rfl⟩
    simp [willProcessResponse, hfeature, TabEvent.clickAnswered]
  | fail =>
    obtain rfl := Except.ok.inj h
    exact ⟨rfl, rfl, fun _ => hsame, .inl rfl⟩
  | abort =>
    obtain rfl := Except.ok.inj h
    exact ⟨rfl, rfl, fun _ => hsame, .inl rfl⟩
  | openUrl =>
    cases hposted : s.posted with
    | nil => simp [awaits, hposted] at hawaits
    | cons url rest =>
      rw [event, hposted] at h
      obtain rfl := Except.ok.inj h
      exact ⟨rfl, rfl, fun _ => hsame, .inl rfl⟩

/-- The flag is set exactly from a click until a response is processed, and every check saw it. -/
structure FlagHistory (past : List TabEvent) (s : Tab) : Prop where
  time : s.time = past.length
  flag : s.kBraveDomainBlock = true → s.isProceeding = !lastClickAnswered past
  checks : ∀ c ∈ s.checks, c.time ≤ past.length ∧
    c.isProceeding = !lastClickAnswered (past.take c.time)

theorem lastClickAnswered_concat (past : List TabEvent) (e : TabEvent) :
    lastClickAnswered (past ++ [e]) = TabEvent.clickAnswered (lastClickAnswered past) e := by
  simp [lastClickAnswered]

theorem FlagHistory.step (h : FlagHistory past s) (hawaits : s.awaits e = true)
    (hstep : step lib s e = .ok s') : FlagHistory (past ++ [e]) s' := by
  rw [Tab.step] at hstep
  split at hstep
  · rename_i t hevent
    obtain rfl := Except.ok.inj hstep
    have hflags := event_flagStep hevent hawaits
    refine ⟨?_, ?_, ?_⟩
    · show t.time + 1 = (past ++ [e]).length
      rw [hflags.time, h.time, List.length_append]
      rfl
    · intro hfeature
      rw [hflags.feature] at hfeature
      rw [lastClickAnswered_concat, hflags.flag hfeature, h.flag hfeature, Bool.not_not]
    · -- A check of before sees the same past, and the new one sees all of it.
      have hold : ∀ c ∈ s.checks, c.time ≤ (past ++ [e]).length ∧
          c.isProceeding = !lastClickAnswered ((past ++ [e]).take c.time) := by
        intro c hc
        obtain ⟨htime, hproceeding⟩ := h.checks c hc
        rw [List.take_append_of_le_length htime, List.length_append]
        exact ⟨by omega, hproceeding⟩
      obtain hchecks | ⟨hfeature, navigation, hchecks⟩ := hflags.checks
      · show ∀ c ∈ t.checks, _
        rw [hchecks]
        exact hold
      · show ∀ c ∈ t.checks, _
        rw [hchecks]
        intro c hc
        obtain hc | hc := List.mem_append.mp hc
        · exact hold c hc
        · obtain rfl := List.mem_singleton.mp hc
          show s.time ≤ (past ++ [e]).length ∧
            s.isProceeding = !lastClickAnswered ((past ++ [e]).take s.time)
          rw [h.time, List.take_left, List.length_append]
          exact ⟨by omega, h.flag hfeature⟩
  · contradiction

theorem FlagHistory.of_run (run : Run (machine lib) (init kBraveDomainBlock) es s) :
    FlagHistory es s := by
  have hinit : FlagHistory [] (init kBraveDomainBlock) := by
    refine ⟨rfl, fun _ => rfl, ?_⟩
    intro c hc
    cases hc
  simpa using run.preserves_past (fun _ _ _ _ henabled hstep h => h.step henabled hstep) hinit

/-- In every run, only requests of the reload of the latest click pass unchecked, exactly if no
other navigation starts or is redirected between a click and the first response after it. -/
theorem only_reload_skipped_iff (run : Run (machine lib) (init kBraveDomainBlock) es s) :
    (∀ c ∈ s.checks, c.skipped = true → c.ofLatestReload = true) ↔
      ∀ c ∈ s.checks, c.domainBlockingType ≠ .kNone → c.ofLatestReload = false →
        lastClickAnswered (es.take c.time) = true := by
  have h := FlagHistory.of_run run
  refine forall₂_congr fun c hc => ?_
  obtain ⟨-, hproceeding⟩ := h.checks c hc
  have hskipped : c.skipped = true ↔
      c.domainBlockingType ≠ .kNone ∧ lastClickAnswered (es.take c.time) = false := by
    rw [RequestCheck.skipped, hproceeding]
    simp
  rw [hskipped]
  cases c.ofLatestReload <;> cases lastClickAnswered (es.take c.time) <;> simp

/-- A blocked navigation, a click on "Proceed", and the start of the reload. -/
def clickedReload : List TabEvent :=
  checkedNavigation false ++ [.proceed, .willStartRequest]

def otherUrl : GURL := .https "other.com" "/"

/-- The reload ends in some way, and another site is navigated to. -/
def reloadThenOther (ends : TabEvent) : List TabEvent :=
  clickedReload ++ [ends, .navigate otherUrl, .willStartRequest]

/-- When the reload gets its response, the next navigation is checked. -/
theorem only_reload_skipped_answered :
    ∃ s, Run (machine adUrls) (init true) (reloadThenOther (.willProcessResponse true)) s ∧
      s.checks.map (·.skipped) = [false, true, false] ∧
      ∀ c ∈ s.checks, c.skipped = true → c.ofLatestReload = true := by
  obtain ⟨s, run, hs⟩ := Machine.exists_run (machine adUrls) (init true)
    (reloadThenOther (.willProcessResponse true))
    (fun s => decide (s.checks.map (·.skipped) = [false, true, false] ∧
      ∀ c ∈ s.checks, c.domainBlockingType ≠ .kNone → c.ofLatestReload = false →
        lastClickAnswered ((reloadThenOther (.willProcessResponse true)).take c.time) = true))
    (by decide +kernel)
  obtain ⟨hskipped, hanswered⟩ := of_decide_eq_true hs
  exact ⟨s, run, hskipped, (only_reload_skipped_iff run).mpr hanswered⟩

/-- When the reload fails, the next navigation passes unchecked, to any other site. -/
theorem next_navigation_skipped :
    ∃ s, Run (machine adUrls) (init true) (reloadThenOther .fail) s ∧
      ∃ c ∈ s.checks, c.url = otherUrl ∧ c.skipped = true ∧ c.ofLatestReload = false := by
  obtain ⟨s, run, hs⟩ := Machine.exists_run (machine adUrls) (init true) (reloadThenOther .fail)
    (fun s => decide (∃ c ∈ s.checks, c.url = otherUrl ∧ c.skipped = true ∧
      c.ofLatestReload = false)) (by decide +kernel)
  exact ⟨s, run, of_decide_eq_true hs⟩

end Proceeding

end Tab

end ChromiumAdblock
