import ChromiumAdblock.Cosmetic.ProceduralActions
import ChromiumAdblock.Cosmetic.SelectorEvaluator

/-! What the procedural filters miss when they are applied to added elements only, and when they
miss nothing. -/

namespace ChromiumAdblock

open EventMachine Pipeline

section Kept

variable {ν : Type} {b : Browser ν} {dom : Dom ν}

/-- The result for an element has no other element. -/
def Keeps (element : ν) (result : Except JsError (List ν)) : Prop :=
  ∀ found, result = .ok found → ∀ other ∈ found, other = element

theorem keeps_error {element : ν} (failure : JsError) : Keeps element (.error failure) :=
  fun _ h => nomatch h

theorem keeps_ite {element : ν} (keep : Prop) [Decidable keep] :
    Keeps element (.ok (if keep then [element] else [])) := by
  intro found h other hmem
  obtain rfl := Except.ok.inj h
  split at hmem
  · exact List.mem_singleton.mp hmem
  · contradiction

theorem keeps_keepIf {element : ν} (test : Except JsError Bool) :
    Keeps element (keepIf test element) := by
  cases test with
  | error failure => exact keeps_error failure
  | ok keep => exact keeps_ite (keep = true)

theorem keeps_bind {α : Type} {element : ν} (value : Except JsError α)
    {rest : α → Except JsError (List ν)} (h : ∀ a, Keeps element (rest a)) :
    Keeps element (value >>= rest) := by
  cases value with
  | error failure => exact keeps_error failure
  | ok a => exact h a

theorem keeps_operatorMatchesCSS (beforeOrAfter : Option String) (cssInstruction : String)
    (element : ν) :
    Keeps element (operatorMatchesCSS b dom beforeOrAfter cssInstruction element) := by
  apply keeps_bind
  rintro ⟨cssKey, expectedVal⟩
  dsimp only
  split
  · exact keeps_ite False
  · split
    · exact keeps_keepIf _
    · exact keeps_keepIf _

theorem keeps_operatorMinTextLength (instruction : String) (element : ν) :
    Keeps element (operatorMinTextLength b dom instruction element) := by
  unfold operatorMinTextLength
  split
  · exact keeps_ite _
  · exact keeps_error _
  · exact keeps_error _

end Kept

section Evaluation

variable {ν : Type} [DecidableEq ν] (b : Browser ν) (dom : Dom ν)

/-- The whole document can be evaluated. -/
def Evaluates (selector : ProceduralSelector) : Prop :=
  ∃ full, matchingElements b dom selector none = .ok full

variable {b dom} {selector : ProceduralSelector} {full found : List ν}

theorem Evaluates.ne_nil (h : Evaluates b dom selector) : selector ≠ [] := by
  rintro rfl
  obtain ⟨full, hfull⟩ := h
  contradiction

theorem compiled_of_found {nodes : List ν}
    (h : compileAndApplyProceduralSelector b dom selector nodes = .ok found) :
    ∃ compiled, compileProceduralSelector b dom selector = .ok compiled := by
  cases hcompiled : compileProceduralSelector b dom selector with
  | ok compiled => exact ⟨compiled, rfl⟩
  | error failure =>
    simp [compileAndApplyProceduralSelector, hcompiled, bind, Except.bind] at h

/-- What the query of the document finds, the first operator does. -/
theorem each_of_querySelectorAll {arg : String} {operators : List ProceduralOperator}
    (hplain : StartsPlain b dom (.text .cssSelector arg :: operators))
    (h : b.querySelectorAll dom arg = .ok found) :
    each (operatorFunc b dom (.text .cssSelector arg)) dom.all = .ok found := by
  by_cases hall : dom.all = []
  · unfold Browser.querySelectorAll at h
    split at h
    · rw [← Except.ok.inj h, hall]
      rfl
    · contradiction
  · rw [each_cssSelector hplain hall, h]

/-- A whole document that can be evaluated goes through the operators. -/
theorem evaluates_through (hplain : StartsPlain b dom selector)
    (h : matchingElements b dom selector none = .ok full) :
    (∃ compiled, compileProceduralSelector b dom selector = .ok compiled) ∧
      through (selector.map (operatorFunc b dom)) dom.all = .ok full := by
  have hne : selector ≠ [] := Evaluates.ne_nil ⟨full, h⟩
  rcases matchingElements_cases b dom hne with ⟨arg, operators, rfl⟩ | hcompile
  · rw [matchingElements] at h
    cases hquery : b.querySelectorAll dom arg with
    | error failure => simp [hquery, bind, Except.bind] at h
    | ok elements =>
      have hfirst := each_of_querySelectorAll hplain hquery
      rw [hquery] at h
      cases operators with
      | nil =>
        obtain rfl : elements = full := Except.ok.inj h
        exact ⟨⟨_, rfl⟩, through_cons_ok.mpr ⟨elements, hfirst, rfl⟩⟩
      | cons operator operators =>
        obtain ⟨compiled, hcompiled⟩ := compiled_of_found h
        have hrest := compileAndApply_of_compiled (by simp) hcompiled elements
        have hcons : compileProceduralSelector b dom
            (.text .cssSelector arg :: operator :: operators) =
              .ok (⟨.text .cssSelector arg, operatorFunc b dom (.text .cssSelector arg)⟩ ::
                compiled) := by
          rw [compileProceduralSelector, hcompiled]
          rfl
        exact ⟨⟨_, hcons⟩, through_cons_ok.mpr ⟨elements, hfirst, hrest.symm.trans h⟩⟩
  · rw [hcompile] at h
    obtain ⟨compiled, hcompiled⟩ := compiled_of_found h
    exact ⟨⟨compiled, hcompiled⟩, (compileAndApply_of_compiled hne hcompiled dom.all).symm.trans h⟩

/-- An operator that says whether an element stays, and selects no other. -/
def KeepsOrDrops : ProceduralOperator → Prop
  | .text .cssSelector arg => isRelativeSelector arg = false
  | .text .upward _ | .text .xpath _ | .nested .upward _ => False
  | _ => True

/-- All operators but `upward`, `xpath` and the relative CSS selectors keep or drop an element. -/
theorem KeepsOrDrops.keeps {operator : ProceduralOperator} (h : KeepsOrDrops operator)
    (element : ν) : Keeps element (operatorFunc b dom operator element) := by
  cases operator with
  | text type arg =>
    cases type with
    | cssSelector =>
      show Keeps element (operatorCssSelector b dom arg element)
      rw [operatorCssSelector_plain h]
      exact keeps_keepIf _
    | matchesMedia => exact keeps_keepIf (.ok (b.matchMedia arg))
    | contains | hasText | has | matchesPath | not => exact keeps_keepIf _
    | matchesAttr | matchesProperty => exact keeps_bind _ fun rules => keeps_keepIf _
    | matchesCss => exact keeps_operatorMatchesCSS none arg element
    | matchesCssAfter => exact keeps_operatorMatchesCSS (some "::after") arg element
    | matchesCssBefore => exact keeps_operatorMatchesCSS (some "::before") arg element
    | minTextLength => exact keeps_operatorMinTextLength arg element
    | upward | xpath => exact h.elim
    | other name => exact keeps_error _
  | nested type arg =>
    cases type with
    | has | not => exact keeps_keepIf _
    | upward => exact h.elim
    | contains | cssSelector | hasText | matchesAttr | matchesCss | matchesCssAfter
    | matchesCssBefore | matchesMedia | matchesPath | matchesProperty | minTextLength | xpath
    | other _ => exact keeps_error _

/-- A selector of such operators is not disturbed where none of them lets an element pass that it
did not let pass before. -/
theorem narrows_of_keepsOrDrops {dom' : Dom ν} {element : ν}
    (hkeeps : ∀ operator ∈ selector, KeepsOrDrops operator)
    (hverdict : ∀ operator ∈ selector, ∀ found, operatorFunc b dom' operator element = .ok found →
      ∃ before, operatorFunc b dom operator element = .ok before ∧ ∀ x ∈ found, x ∈ before) :
    Narrows (operatorFunc b dom) (operatorFunc b dom') selector element := by
  apply narrows_of_self
  intro operator hoperator found hfound
  exact ⟨(hkeeps operator hoperator).keeps element found hfound,
    hverdict operator hoperator found hfound⟩

/-- An insertion does not change what these operators say of an element that was there. -/
theorem operatorFunc_of_inserts {e : Insertion ν} (h : Insertion.Inserts dom e) {element : ν}
    (hmem : element ∈ dom.all) {type : OperatorType} (arg : String)
    (htype : type = .matchesAttr ∨ type = .matchesMedia ∨ type = .matchesPath) :
    operatorFunc b e.dom (.text type arg) element =
      operatorFunc b dom (.text type arg) element := by
  rcases htype with rfl | rfl | rfl
  · show operatorMatchesAttr b e.dom arg element = operatorMatchesAttr b dom arg element
    unfold operatorMatchesAttr Dom.getAttribute
    rw [h.attributes element hmem]
  · rfl
  · rfl

end Evaluation

namespace FilteredPage

variable {ν : Type} [DecidableEq ν] (b : Browser ν) (randomAttr : Nat → String)
  (filters : List ProceduralActionFilter)

/-- A change of the document gives no operator, at an element reached from one that was there
before, anything to select that it did not select before; and a filter that threw an exception on
the whole document still does. -/
def Undisturbed (dom dom' : Dom ν) : Prop :=
  ∀ filter ∈ filters, Evaluates b dom' filter.selector → Evaluates b dom filter.selector ∧
    ∀ element ∈ dom.all, element ∈ dom'.all →
      Narrows (operatorFunc b dom) (operatorFunc b dom') filter.selector element

/-- The pages that a page can become by actions of the filters, each on an element that the filter
selects in the whole document, or from added elements, on one of these pages. -/
inductive Acted (added : Option (List ν)) (s : FilteredPage ν) : FilteredPage ν → Prop
  | refl : Acted added s s
  | act {t u : FilteredPage ν} {filter : ProceduralActionFilter} {position : Nat}
      {selected : List ν} {element : ν} : Acted added s t → Acted added s u →
      filter ∈ filters → matchingElements b t.dom filter.selector added = .ok selected →
      element ∈ selected → Acted added s (u.passToPerformAction randomAttr filter position element)

/-- The actions of the filters do not disturb the filters; and where the whole document can be
evaluated, each added element can, and a first CSS selector looks at the element itself. -/
structure Quiet (added : Option (List ν)) (s : FilteredPage ν) : Prop where
  undisturbed : ∀ t filter position element, Acted b randomAttr filters added s t →
    Acted b randomAttr filters added s (t.passToPerformAction randomAttr filter position element) →
    Undisturbed b filters t.dom (t.passToPerformAction randomAttr filter position element).dom
  plain : ∀ t, Acted b randomAttr filters added s t → ∀ filter ∈ filters,
    Evaluates b t.dom filter.selector → StartsPlain b t.dom filter.selector
  evaluates : ∀ t, Acted b randomAttr filters added s t → ∀ filter ∈ filters,
    Evaluates b t.dom filter.selector → ∀ elements, added = some elements →
      ∀ element ∈ elements, ∃ found,
        compileAndApplyProceduralSelector b t.dom filter.selector [element] = .ok found

/-- Neither the insertion nor the actions after it disturb the filters. -/
def QuietInsertion (s : FilteredPage ν) (e : Insertion ν) : Prop :=
  Undisturbed b filters s.dom e.dom ∧
    Quiet b randomAttr filters (some e.addedElements) { s with dom := e.dom }

/-- What a filter selects in the whole document, starting from elements with a property, has another
property. -/
def Covered (dom : Dom ν) (selector : ProceduralSelector) (Start Passed : ν → Prop) : Prop :=
  Evaluates b dom selector → ∀ x ∈ dom.all, Start x →
    ∀ y, Reaches (selector.map (operatorFunc b dom)) x y → Passed y

/-- Whatever was covered stays so. -/
structure Progress (s t : FilteredPage ν) : Prop where
  all : ∀ x ∈ t.dom.all, x ∈ s.dom.all
  passed : ∀ entry ∈ s.passed, entry ∈ t.passed
  covered : ∀ filter ∈ filters, ∀ Start Passed : ν → Prop,
    Covered b s.dom filter.selector Start Passed → Covered b t.dom filter.selector Start Passed

variable {b randomAttr filters} {s t u : FilteredPage ν} {added : Option (List ν)}

theorem Progress.refl (s : FilteredPage ν) : Progress b filters s s :=
  ⟨fun _ h => h, fun _ h => h, fun _ _ _ _ h => h⟩

theorem Progress.trans (h : Progress b filters s t) (h' : Progress b filters t u) :
    Progress b filters s u where
  all x hx := h.all x (h'.all x hx)
  passed entry hentry := h'.passed entry (h.passed entry hentry)
  covered filter hfilter Start Passed hcovered :=
    h'.covered filter hfilter Start Passed (h.covered filter hfilter Start Passed hcovered)

/-- A change that does not disturb the filters keeps what is covered from the elements that were
there. -/
theorem Undisturbed.covered {dom dom' : Dom ν} (h : Undisturbed b filters dom dom')
    {filter : ProceduralActionFilter} (hfilter : filter ∈ filters) {Start Start' Passed : ν → Prop}
    (hstart : ∀ x ∈ dom'.all, Start' x → x ∈ dom.all ∧ Start x)
    (hcovered : Covered b dom filter.selector Start Passed) :
    Covered b dom' filter.selector Start' Passed := by
  intro hevaluates x hx hStart y hreach
  obtain ⟨hbefore, hnarrows⟩ := h filter hfilter hevaluates
  obtain ⟨hold, hStart⟩ := hstart x hx hStart
  exact hcovered hbefore x hold hStart y ((hnarrows x hold hx).reaches hreach)

theorem Quiet.perform (hquiet : Quiet b randomAttr filters added s)
    (ht : Acted b randomAttr filters added s t) {filter : ProceduralActionFilter} {position : Nat}
    {element : ν}
    (hu : Acted b randomAttr filters added s
      (t.passToPerformAction randomAttr filter position element)) :
    Progress b filters t (t.passToPerformAction randomAttr filter position element) := by
  have hall : ∀ x ∈ (t.passToPerformAction randomAttr filter position element).dom.all,
      x ∈ t.dom.all :=
    fun x hx => StyledPage.mem_of_mem_performAction randomAttr hx
  refine ⟨hall, fun entry hentry => List.mem_append_left _ hentry, ?_⟩
  intro other hother Start Passed hcovered
  exact (hquiet.undisturbed t filter position element ht hu).covered hother
    (fun x hx hStart => ⟨hall x hx, hStart⟩) hcovered

theorem Quiet.performAll (hquiet : Quiet b randomAttr filters added s)
    {filter : ProceduralActionFilter} (hfilter : filter ∈ filters) (position : Nat)
    (ht : Acted b randomAttr filters added s t) {selected : List ν}
    (hselected : matchingElements b t.dom filter.selector added = .ok selected)
    (hu : Acted b randomAttr filters added s u) {elements : List ν}
    (hsub : ∀ x ∈ elements, x ∈ selected) :
    let v := elements.foldl (passToPerformAction randomAttr filter position) u
    Acted b randomAttr filters added s v ∧ Progress b filters u v ∧
      ∀ x ∈ elements, (position, x) ∈ v.passed := by
  induction elements generalizing u with
  | nil => exact ⟨hu, .refl u, fun _ h => absurd h List.not_mem_nil⟩
  | cons x elements ih =>
    obtain ⟨hx, hrest⟩ := List.forall_mem_cons.mp hsub
    have hv : Acted b randomAttr filters added s
        (u.passToPerformAction randomAttr filter position x) :=
      .act ht hu hfilter hselected hx
    obtain ⟨hacted, hprogress, hpassed⟩ := ih hv hrest
    refine ⟨hacted, (hquiet.perform hu hv).trans hprogress, List.forall_mem_cons.mpr ⟨?_, hpassed⟩⟩
    exact hprogress.passed _ (List.mem_append_right _ (List.mem_singleton.mpr rfl))

/-- The elements that a run starts from. -/
def StartOf (added : Option (List ν)) (x : ν) : Prop :=
  ∀ elements, added = some elements → x ∈ elements

/-- What a filter selects from the elements that a run starts from. -/
theorem Quiet.selected (hquiet : Quiet b randomAttr filters added s)
    (ht : Acted b randomAttr filters added s t) {filter : ProceduralActionFilter}
    (hfilter : filter ∈ filters) (hevaluates : Evaluates b t.dom filter.selector) :
    ∃ selected, matchingElements b t.dom filter.selector added = .ok selected ∧
      ∀ x ∈ t.dom.all, StartOf added x → ∀ y,
        Reaches (filter.selector.map (operatorFunc b t.dom)) x y → y ∈ selected := by
  have hne := hevaluates.ne_nil
  obtain ⟨full, hfull⟩ := hevaluates
  obtain ⟨⟨compiled, hcompiled⟩, hthrough⟩ :=
    evaluates_through (hquiet.plain t ht filter hfilter ⟨full, hfull⟩) hfull
  cases added with
  | none =>
    refine ⟨full, hfull, fun x hx _ y hreach => ?_⟩
    exact (mem_through hthrough).mpr ⟨x, hx, hreach⟩
  | some elements =>
    have heach : ∀ x ∈ elements, ∃ found,
        through (filter.selector.map (operatorFunc b t.dom)) [x] = .ok found := by
      intro x hx
      rw [← compileAndApply_of_compiled hne hcompiled [x]]
      exact hquiet.evaluates t ht filter hfilter ⟨full, hfull⟩ elements rfl x hx
    obtain ⟨selected, hselected⟩ := through_returns heach
    refine ⟨selected, ?_, fun x _ hStart y hreach => ?_⟩
    · rw [matchingElements_added hne, compileAndApply_of_compiled hne hcompiled, hselected]
    · exact (mem_through hselected).mpr ⟨x, hStart elements rfl, hreach⟩

theorem Quiet.applyFilter (hquiet : Quiet b randomAttr filters added s)
    {filter : ProceduralActionFilter} (hfilter : filter ∈ filters) (position : Nat)
    (ht : Acted b randomAttr filters added s t) :
    let u := t.applyFilter b randomAttr added (filter, position)
    Acted b randomAttr filters added s u ∧ Progress b filters t u ∧
      Covered b u.dom filter.selector (StartOf added) fun y => (position, y) ∈ u.passed := by
  unfold FilteredPage.applyFilter
  cases hselected : matchingElements b t.dom filter.selector added with
  | error failure =>
    refine ⟨ht, .refl t, fun hevaluates => ?_⟩
    obtain ⟨selected, hok, -⟩ := hquiet.selected ht hfilter hevaluates
    rw [hok] at hselected
    contradiction
  | ok selected =>
    obtain ⟨hacted, hprogress, hpassed⟩ :=
      hquiet.performAll hfilter position ht hselected ht fun _ h => h
    refine ⟨hacted, hprogress, hprogress.covered filter hfilter _ _ ?_⟩
    intro hevaluates x hx hStart y hreach
    obtain ⟨selected', hok, hall⟩ := hquiet.selected ht hfilter hevaluates
    obtain rfl : selected' = selected := Except.ok.inj (hok.symm.trans hselected)
    exact hpassed y (hall x hx hStart y hreach)

theorem Quiet.applyFilters (hquiet : Quiet b randomAttr filters added s)
    {entries : List (ProceduralActionFilter × Nat)}
    (hentries : ∀ entry ∈ entries, entry.1 ∈ filters) (ht : Acted b randomAttr filters added s t) :
    let u := entries.foldl (FilteredPage.applyFilter b randomAttr added) t
    Acted b randomAttr filters added s u ∧ Progress b filters t u ∧ ∀ entry ∈ entries,
      Covered b u.dom entry.1.selector (StartOf added) fun y => (entry.2, y) ∈ u.passed := by
  induction entries generalizing t with
  | nil => exact ⟨ht, .refl t, fun _ h => absurd h List.not_mem_nil⟩
  | cons entry entries ih =>
    obtain ⟨hfilter, hrest⟩ := List.forall_mem_cons.mp hentries
    obtain ⟨hacted, hfirst, hcovered⟩ := hquiet.applyFilter hfilter entry.2 ht
    obtain ⟨hacted, hprogress, hall⟩ := ih hrest hacted
    refine ⟨hacted, hfirst.trans hprogress, List.forall_mem_cons.mpr ⟨?_, hall⟩⟩
    intro hevaluates x hx hStart y hreach
    exact hprogress.passed _
      (hprogress.covered entry.1 hfilter _ _ hcovered hevaluates x hx hStart y hreach)

theorem mem_filters_of_zipIdx {entry : ProceduralActionFilter × Nat}
    (h : entry ∈ filters.zipIdx) : entry.1 ∈ filters := by
  obtain ⟨filter, position⟩ := entry
  exact List.mem_of_getElem? (List.mem_zipIdx_iff_getElem?.mp h)

theorem Quiet.execute (hquiet : Quiet b randomAttr filters added s) :
    let t := s.executeProceduralActions b randomAttr filters added
    Acted b randomAttr filters added s t ∧ Progress b filters s t ∧
      ∀ position filter, filters[position]? = some filter →
        Covered b t.dom filter.selector (StartOf added) fun y => (position, y) ∈ t.passed := by
  obtain ⟨hacted, hprogress, hall⟩ :=
    hquiet.applyFilters (fun _ => mem_filters_of_zipIdx) (Acted.refl (s := s))
  refine ⟨hacted, hprogress, fun position filter hfilter => ?_⟩
  exact hall (filter, position) (List.mem_zipIdx_iff_getElem?.mpr hfilter)

/-- Every filter has everything in the document that it selects, and starts plainly. -/
structure Complete (b : Browser ν) (filters : List ProceduralActionFilter) (s : FilteredPage ν) :
    Prop where
  covered : ∀ position filter, filters[position]? = some filter →
    Covered b s.dom filter.selector (fun _ => True) fun y => (position, y) ∈ s.passed
  plain : ∀ filter ∈ filters, Evaluates b s.dom filter.selector →
    StartsPlain b s.dom filter.selector

theorem Quiet.complete (hquiet : Quiet b randomAttr filters none s) :
    Complete b filters (s.executeProceduralActions b randomAttr filters none) := by
  obtain ⟨hacted, -, hcovered⟩ := hquiet.execute
  refine ⟨fun position filter hfilter hevaluates x hx _ y hreach => ?_, hquiet.plain _ hacted⟩
  exact hcovered position filter hfilter hevaluates x hx (fun _ h => nomatch h) y hreach

/-- An insertion keeps the page complete: elements that were there reach nothing new, and from the
others the filters are evaluated. -/
theorem Complete.onMutations (h : Complete b filters s) {e : Insertion ν}
    (hinserts : Insertion.Inserts s.dom e) (hquiet : QuietInsertion b randomAttr filters s e) :
    Complete b filters (s.onMutations b randomAttr filters e) := by
  obtain ⟨hundisturbed, hquiet⟩ := hquiet
  have hold : ∀ position filter, filters[position]? = some filter →
      Covered b e.dom filter.selector (· ∈ s.dom.all) fun y => (position, y) ∈ s.passed := by
    intro position filter hfilter
    apply hundisturbed.covered (List.mem_of_getElem? hfilter) _ (h.covered position filter hfilter)
    exact fun x _ hold => ⟨hold, trivial⟩
  unfold FilteredPage.onMutations
  dsimp only
  split
  · obtain ⟨hacted, hprogress, hcovered⟩ := hquiet.execute
    refine ⟨fun position filter hfilter hevaluates x hx _ y hreach => ?_, hquiet.plain _ hacted⟩
    rcases hinserts.reported x (hprogress.all x hx) with hthere | hadded
    · have hkept := hprogress.covered filter (List.mem_of_getElem? hfilter) _ _
        (hold position filter hfilter)
      exact hprogress.passed _ (hkept hevaluates x hx hthere y hreach)
    · refine hcovered position filter hfilter hevaluates x hx ?_ y hreach
      intro elements helements
      rwa [← Option.some.inj helements]
  · rename_i hnothing
    refine ⟨fun position filter hfilter hevaluates x hx _ y hreach => ?_, hquiet.plain _ .refl⟩
    rcases hinserts.reported x hx with hthere | hadded
    · exact hold position filter hfilter hevaluates x hx hthere y hreach
    · have hfilters := List.mem_of_getElem? hfilter
      simp [List.ne_nil_of_mem hadded, List.ne_nil_of_mem hfilters] at hnothing

/-- Where no insertion and no action disturbs the filters, everything that a filter selects in the
document has been passed to `performAction`. -/
theorem nothing_missed {page : FilteredPage ν} {es : List (Insertion ν)}
    (hstart : Quiet b randomAttr filters none page)
    (run : Run ((machine b randomAttr filters).restrict (QuietInsertion b randomAttr filters))
      (page.executeProceduralActions b randomAttr filters none) es s) :
    ∀ position filter, filters[position]? = some filter → ∀ full,
      matchingElements b s.dom filter.selector none = .ok full →
      ∀ element ∈ full, (position, element) ∈ s.passed := by
  have hcomplete : Complete b filters s := by
    refine run.preserves ?_ hstart.complete
    rintro s e s' ⟨hinserts, hquiet⟩ hstep h
    obtain rfl : s.onMutations b randomAttr filters e = s' := Except.ok.inj hstep
    exact h.onMutations hinserts hquiet
  intro position filter hfilter full hfull element hmem
  have hevaluates : Evaluates b s.dom filter.selector := ⟨full, hfull⟩
  have hplain := hcomplete.plain filter (List.mem_of_getElem? hfilter) hevaluates
  obtain ⟨x, hx, hreach⟩ := (mem_through (evaluates_through hplain hfull).2).mp hmem
  exact hcomplete.covered position filter hfilter hevaluates x hx trivial element hreach

section Pages

/-- The page before the div gets its span. -/
def emptyDiv : FilteredPage Nat where
  dom := pictureArea false

/-- The span comes into the div. -/
def spanInsertion : Insertion Nat where
  dom := pictureArea true
  mutations := [.childList [3]]

def attrOfLength (n : Nat) : String := String.ofList (List.replicate (n + 1) 'a')

/-- `div:has(span)`, with the action that there is by default. -/
def divWithSpanFilter : ProceduralActionFilter where
  selector := divWithSpan

/-- The div gets a span: the filter selects the div now, and it has not been passed. -/
theorem filled_div_missed : ∃ s : FilteredPage Nat,
    Run (machine smallBrowser attrOfLength [divWithSpanFilter])
      (emptyDiv.executeProceduralActions smallBrowser attrOfLength [divWithSpanFilter] none)
      [spanInsertion] s ∧
    (matchingElements smallBrowser s.dom divWithSpan none).toOption = some [2] ∧
    s.passed = [] := by
  obtain ⟨s, run, h⟩ := Machine.exists_run (machine smallBrowser attrOfLength [divWithSpanFilter])
    (emptyDiv.executeProceduralActions smallBrowser attrOfLength [divWithSpanFilter] none)
    [spanInsertion]
    (fun s => decide ((matchingElements smallBrowser s.dom divWithSpan none).toOption = some [2] ∧
      s.passed = []))
    (by decide +kernel)
  exact ⟨s, run, of_decide_eq_true h⟩

/-- `span`, as a procedural selector. -/
def anySpan : ProceduralActionFilter where
  selector := [.text .cssSelector "span"]

theorem operatorFunc_anySpan (dom : Dom Nat) (element : Nat) :
    operatorFunc smallBrowser dom (.text .cssSelector "span") element =
      keepIf (.ok ("span" == dom.localName element || "span" == ":scope " ++ dom.localName element))
        element := by
  have hplain : isRelativeSelector "span" = false := by decide
  show operatorCssSelector smallBrowser dom "span" element = _
  rw [operatorCssSelector_plain hplain]
  rfl

theorem compileAndApply_anySpan (dom : Dom Nat) (element : Nat) : ∃ found,
    compileAndApplyProceduralSelector smallBrowser dom anySpan.selector [element] = .ok found := by
  have hcompiled : compileProceduralSelector smallBrowser dom anySpan.selector =
      .ok (compiledOperators smallBrowser dom anySpan.selector) := rfl
  rw [compileAndApply_of_compiled (by simp [anySpan]) hcompiled]
  show ∃ found, through [operatorFunc smallBrowser dom (.text .cssSelector "span")] [element] =
    .ok found
  simp [through, each, operatorFunc_anySpan, keepIf, Except.map, bind, Except.bind, pure,
    Except.pure]

theorem undisturbed_anySpan {dom dom' : Dom Nat} (h : dom'.localName = dom.localName) :
    Undisturbed smallBrowser [anySpan] dom dom' := by
  intro filter hfilter _
  obtain rfl := List.mem_singleton.mp hfilter
  refine ⟨⟨_, rfl⟩, fun element _ _ => narrows_of_keepsOrDrops ?_ ?_⟩
  · intro operator hoperator
    obtain rfl := List.mem_singleton.mp hoperator
    show isRelativeSelector "span" = false
    decide
  · intro operator hoperator found hfound
    obtain rfl := List.mem_singleton.mp hoperator
    rw [operatorFunc_anySpan, h, ← operatorFunc_anySpan] at hfound
    exact ⟨found, hfound, fun _ hx => hx⟩

theorem acted_anySpan {added : Option (List Nat)} {s t : FilteredPage Nat}
    (h : Acted smallBrowser attrOfLength [anySpan] added s t) :
    t.dom.localName = s.dom.localName := by
  induction h with
  | refl => rfl
  | @act t u filter position selected element _ _ hfilter _ _ _ ih =>
    obtain rfl := List.mem_singleton.mp hfilter
    obtain ⟨attributes, stylesheets, hdom⟩ :=
      StyledPage.setStyle_dom attrOfLength "display: none !important" element u.toStyledPage
    have hkept := congrArg Dom.localName hdom
    exact Eq.trans hkept ih

theorem quiet_anySpan (added : Option (List Nat)) (s : FilteredPage Nat) :
    Quiet smallBrowser attrOfLength [anySpan] added s where
  undisturbed t filter position element ht hu :=
    undisturbed_anySpan ((acted_anySpan hu).trans (acted_anySpan ht).symm)
  plain t _ filter hfilter _ := by
    obtain rfl := List.mem_singleton.mp hfilter
    refine ⟨by decide, fun element _ => ?_⟩
    simp [smallBrowser]
  evaluates t _ filter hfilter _ elements _ element _ := by
    obtain rfl := List.mem_singleton.mp hfilter
    exact compileAndApply_anySpan t.dom element

theorem inserted_span_passed : ∃ s : FilteredPage Nat,
    Run ((machine smallBrowser attrOfLength [anySpan]).restrict
        (QuietInsertion smallBrowser attrOfLength [anySpan]))
      (emptyDiv.executeProceduralActions smallBrowser attrOfLength [anySpan] none)
      [spanInsertion] s ∧ (0, 3) ∈ s.passed := by
  have hinserts : (machine smallBrowser attrOfLength [anySpan]).enabled
      (emptyDiv.executeProceduralActions smallBrowser attrOfLength [anySpan] none)
      spanInsertion := by decide +kernel
  have hquiet : QuietInsertion smallBrowser attrOfLength [anySpan]
      (emptyDiv.executeProceduralActions smallBrowser attrOfLength [anySpan] none) spanInsertion :=
    ⟨undisturbed_anySpan rfl, quiet_anySpan _ _⟩
  have run := Run.single (m := (machine smallBrowser attrOfLength [anySpan]).restrict
    (QuietInsertion smallBrowser attrOfLength [anySpan])) ⟨hinserts, hquiet⟩ rfl
  refine ⟨_, run, ?_⟩
  apply nothing_missed (quiet_anySpan none _) run 0 anySpan rfl [3] rfl 3
  exact List.mem_singleton.mpr rfl

end Pages

end FilteredPage

end ChromiumAdblock
