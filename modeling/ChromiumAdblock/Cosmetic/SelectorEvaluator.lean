import ChromiumAdblock.Cosmetic.ProceduralSelectors

/-! The evaluator of procedural selectors against its plain definition, which takes the nodes
through the operators one after the other, without shortcuts. -/

namespace ChromiumAdblock

open Pipeline

mutual

/-- The type is supported, and a nested selector has operators, which are supported. -/
def ProceduralOperator.Supported : ProceduralOperator → Prop
  | .text type _ => ∀ name, type ≠ .other name
  | .nested type arg => (∀ name, type ≠ .other name) ∧ arg ≠ [] ∧ AllSupported arg

def AllSupported : List ProceduralOperator → Prop
  | [] => True
  | operator :: operators => operator.Supported ∧ AllSupported operators

end

section Plain

variable {ν : Type} [DecidableEq ν] (b : Browser ν) (dom : Dom ν)

mutual

/-- An operator, with a plain evaluation of its argument. -/
def plainFunc : ProceduralOperator → ν → Except JsError (List ν)
  | .text type arg, element => textOperatorFunc b dom type arg element
  | .nested .has arg, element => hasProceduralSelectorCase dom arg (plainSelector arg) element
  | .nested .not arg, element => notProceduralSelectorCase (plainSelector arg) element
  | .nested .upward arg, element => upwardProceduralSelectorCase dom (plainSelector arg) element
  | .nested _ _, _ => .error (.typeError "The argument of the operator is not a text.")

/-- Every operator in turn, on every node. -/
def plainSelector : List ProceduralOperator → List ν → Except JsError (List ν)
  | [], nodes => .ok nodes
  | operator :: operators, nodes => do
    let next ← each (plainFunc operator) nodes
    plainSelector operators next

end

theorem plainSelector_eq (selector : ProceduralSelector) (nodes : List ν) :
    plainSelector b dom selector nodes = through (selector.map (plainFunc b dom)) nodes := by
  induction selector generalizing nodes with
  | nil => rfl
  | cons operator operators ih =>
    rw [plainSelector, List.map_cons, through]
    exact congrArg (each (plainFunc b dom operator) nodes >>= ·) (funext ih)

end Plain

section Evaluator

variable {ν : Type} [DecidableEq ν] {b : Browser ν} {dom : Dom ν}

theorem uniform_of_fastPath {d : Dom ν} {operator : ProceduralOperator}
    (h : operator.type ∈ fastPathOperatorTypes) :
    ∃ verdict, Uniform (operatorFunc b d operator) verdict := by
  have htype : operator.type = .matchesMedia ∨ operator.type = .matchesPath := by
    simpa [fastPathOperatorTypes] using h
  cases operator with
  | text type arg =>
    rcases htype with rfl | rfl
    · exact ⟨.ok (b.matchMedia arg), fun _ => rfl⟩
    · exact ⟨matchesValueRule b arg true (.string (b.pathname ++ b.search)), fun _ => rfl⟩
  | nested type arg =>
    rcases htype with rfl | rfl
    · exact ⟨.error _, fun _ => rfl⟩
    · exact ⟨.error _, fun _ => rfl⟩

/-- The operators as they are compiled. -/
def compiledOperators (b : Browser ν) (dom : Dom ν) (selector : ProceduralSelector) :
    CompiledProceduralSelector ν :=
  selector.map fun operator =>
    { operator := operator
      func := operatorFunc b dom operator }

theorem compileProceduralSelector_ok {selector : ProceduralSelector} (h : AllSupported selector) :
    compileProceduralSelector b dom selector = .ok (compiledOperators b dom selector) := by
  induction selector with
  | nil => rfl
  | cons operator operators ih =>
    obtain ⟨hoperator, hoperators⟩ := h
    have htype : ∀ name, operator.type ≠ .other name := by
      cases operator with
      | text type arg => exact hoperator
      | nested type arg => exact hoperator.1
    rw [compileProceduralSelector]
    split
    · rename_i name hname
      exact absurd hname (htype name)
    · rw [ih hoperators]
      rfl

/-- The loop takes the nodes through the operators: an empty list stays empty, and where the first
node decides for all, it decides as each of them would. -/
theorem applyOperators_eq (selector : ProceduralSelector) (nodes : List ν) :
    applyOperators (compiledOperators b dom selector) nodes =
      through (selector.map (operatorFunc b dom)) nodes := by
  induction selector generalizing nodes with
  | nil => cases nodes <;> rfl
  | cons operator operators ih =>
    cases nodes with
    | nil => exact (through_nil _).symm
    | cons firstNode nodes =>
      show (if operator.type ∈ fastPathOperatorTypes then _ else _) = _
      split
      · rename_i hfast
        obtain ⟨verdict, huniform⟩ := uniform_of_fastPath (b := b) (d := dom) hfast
        show operatorFunc b dom operator firstNode >>= _ =
          each (operatorFunc b dom operator) (firstNode :: nodes) >>= _
        rw [each_of_uniform huniform, huniform firstNode]
        cases verdict with
        | error _ => rfl
        | ok keep =>
          cases keep with
          | false => exact ih []
          | true => exact ih (firstNode :: nodes)
      · exact congrArg (each (operatorFunc b dom operator) (firstNode :: nodes) >>= ·) (funext ih)

theorem eq_compiledOperators {selector : ProceduralSelector}
    {compiled : CompiledProceduralSelector ν}
    (h : compileProceduralSelector b dom selector = .ok compiled) :
    compiled = compiledOperators b dom selector := by
  induction selector generalizing compiled with
  | nil => exact (Except.ok.inj h).symm
  | cons operator operators ih =>
    rw [compileProceduralSelector] at h
    split at h
    · contradiction
    · cases hrest : compileProceduralSelector b dom operators with
      | error failure => simp [hrest, bind, Except.bind] at h
      | ok rest =>
        rw [hrest] at h
        rw [← Except.ok.inj h, ih hrest]
        rfl

theorem compileAndApply_of_compiled {selector : ProceduralSelector} (hne : selector ≠ [])
    {compiled : CompiledProceduralSelector ν}
    (h : compileProceduralSelector b dom selector = .ok compiled) (nodes : List ν) :
    compileAndApplyProceduralSelector b dom selector nodes =
      through (selector.map (operatorFunc b dom)) nodes := by
  unfold compileAndApplyProceduralSelector
  rw [h, eq_compiledOperators h]
  obtain ⟨operator, operators, rfl⟩ := List.exists_cons_of_ne_nil hne
  exact applyOperators_eq (operator :: operators) nodes

theorem compileAndApply_eq_through {selector : ProceduralSelector} (hne : selector ≠ [])
    (h : AllSupported selector) (nodes : List ν) :
    compileAndApplyProceduralSelector b dom selector nodes =
      through (selector.map (operatorFunc b dom)) nodes :=
  compileAndApply_of_compiled hne (compileProceduralSelector_ok h) nodes

mutual

theorem operatorFunc_eq_plain : ∀ {operator : ProceduralOperator}, operator.Supported →
    operatorFunc b dom operator = plainFunc b dom operator
  | .text _ _, _ => rfl
  | .nested type arg, h => by
    obtain ⟨-, hne, harg⟩ := h
    have hplain : ∀ nodes, compileAndApplyProceduralSelector b dom arg nodes =
        plainSelector b dom arg nodes := by
      intro nodes
      rw [compileAndApply_eq_through hne harg, plainSelector_eq, operatorFuncs_eq_plain harg]
    have hevaluate : compileAndApplyProceduralSelector b dom arg = plainSelector b dom arg :=
      funext hplain
    funext element
    cases type with
    | has =>
      exact congrArg (hasProceduralSelectorCase dom arg · element) hevaluate
    | not => exact congrArg (notProceduralSelectorCase · element) hevaluate
    | upward =>
      obtain ⟨operator, operators, rfl⟩ := List.exists_cons_of_ne_nil hne
      have hfilter : (fun nodes => applyCompiledSelector b dom
          (compiledOperators b dom (operator :: operators)) (some nodes)) =
          plainSelector b dom (operator :: operators) := by
        rw [← hevaluate]
        unfold compileAndApplyProceduralSelector
        rw [compileProceduralSelector_ok harg]
        rfl
      rw [operatorFunc, compileProceduralSelector_ok harg]
      exact congrArg (upwardProceduralSelectorCase dom · element) hfilter
    | contains | cssSelector | hasText | matchesAttr | matchesCss | matchesCssAfter
    | matchesCssBefore | matchesMedia | matchesPath | matchesProperty | minTextLength | xpath
    | other _ => rfl

theorem operatorFuncs_eq_plain : ∀ {operators : List ProceduralOperator}, AllSupported operators →
    operators.map (operatorFunc b dom) = operators.map (plainFunc b dom)
  | [], _ => rfl
  | operator :: operators, h => by
    rw [List.map_cons, List.map_cons, operatorFunc_eq_plain h.1, operatorFuncs_eq_plain h.2]

end

theorem compileAndApply_eq_plain {selector : ProceduralSelector} (hne : selector ≠ [])
    (h : AllSupported selector) (nodes : List ν) :
    compileAndApplyProceduralSelector b dom selector nodes =
      plainSelector b dom selector nodes := by
  rw [compileAndApply_eq_through hne h, plainSelector_eq, operatorFuncs_eq_plain h]

/-! The two modes of `executeProceduralActions`. -/

/-- Whether `operatorCssSelector` looks elsewhere than at the element itself. -/
def isRelativeSelector (selector : String) : Bool :=
  [some '+', some '~', some '>'].contains (JsText.trimStart selector.toList).head? ||
    selector.toList.head? == some ' '

/-- A first CSS selector looks at the element itself, and does not say `:scope`. -/
def StartsPlain (b : Browser ν) (dom : Dom ν) : ProceduralSelector → Prop
  | .text .cssSelector arg :: _ => isRelativeSelector arg = false ∧ ∀ element ∈ dom.all,
      b.matchesSelector dom arg (some element) element = b.matchesSelector dom arg none element
  | _ => True

theorem operatorCssSelector_plain {arg : String} (h : isRelativeSelector arg = false)
    (element : ν) : operatorCssSelector b dom arg element =
      keepIf (b.matchesElement dom arg element) element := by
  obtain ⟨hcombinator, hspace⟩ := Bool.or_eq_false_iff.mp h
  unfold operatorCssSelector
  generalize JsText.trimStart arg.toList = trimmed at hcombinator ⊢
  dsimp only
  split
  · simp at hcombinator
  · simp at hcombinator
  · simp at hcombinator
  · rw [if_neg (by simpa using hspace)]

/-- The first operator on all elements is the query of the document. -/
theorem each_cssSelector {arg : String} {operators : List ProceduralOperator}
    (hplain : StartsPlain b dom (.text .cssSelector arg :: operators)) (hall : dom.all ≠ []) :
    each (operatorFunc b dom (.text .cssSelector arg)) dom.all = b.querySelectorAll dom arg := by
  obtain ⟨hrelative, hscope⟩ := hplain
  have hfunc : ∀ element, operatorFunc b dom (.text .cssSelector arg) element =
      keepIf (b.matchesElement dom arg element) element :=
    fun element => operatorCssSelector_plain hrelative element
  unfold Browser.querySelectorAll
  by_cases hvalid : b.isValidSelector arg = true
  · rw [if_pos hvalid]
    apply each_filter
    intro element hmem
    rw [hfunc, Browser.matchesElement, if_pos hvalid, hscope element hmem]
    rfl
  · rw [if_neg hvalid]
    obtain ⟨element, rest, hcons⟩ := List.exists_cons_of_ne_nil hall
    rw [hcons]
    apply each_error
    rw [hfunc, Browser.matchesElement, if_neg hvalid]
    rfl

variable {selector : ProceduralSelector}

theorem matchingElements_added (hne : selector ≠ []) (added : List ν) :
    matchingElements b dom selector (some added) =
      compileAndApplyProceduralSelector b dom selector added := by
  obtain ⟨operator, operators, rfl⟩ := List.exists_cons_of_ne_nil hne
  rfl

/-- The shortcut for a first CSS selector leaves the remaining operators. -/
theorem matchingElements_shortcut {arg : String} {operators : List ProceduralOperator}
    (h : AllSupported operators) :
    matchingElements b dom (.text .cssSelector arg :: operators) none =
      b.querySelectorAll dom arg >>= plainSelector b dom operators := by
  refine congrArg (b.querySelectorAll dom arg >>= ·) (funext fun elements => ?_)
  cases operators with
  | nil => rfl
  | cons operator operators => exact compileAndApply_eq_plain (by simp) h elements

/-- Either the first operator is a CSS selector, or there is no shortcut. -/
theorem matchingElements_cases (b : Browser ν) (dom : Dom ν) (hne : selector ≠ []) :
    (∃ arg operators, selector = .text .cssSelector arg :: operators) ∨
      matchingElements b dom selector none =
        compileAndApplyProceduralSelector b dom selector dom.all := by
  obtain ⟨operator, operators, rfl⟩ := List.exists_cons_of_ne_nil hne
  cases operator with
  | nested type arg => exact .inr rfl
  | text type arg =>
    by_cases htype : type = .cssSelector
    · exact .inl ⟨arg, operators, by rw [htype]⟩
    · refine .inr ?_
      cases type <;> first | rfl | exact absurd rfl htype

/-- A first CSS selector on all elements is the shortcut and the remaining operators. -/
theorem plainSelector_cssSelector {arg : String} {operators : List ProceduralOperator}
    (hplain : StartsPlain b dom (.text .cssSelector arg :: operators)) (hall : dom.all ≠ []) :
    plainSelector b dom (.text .cssSelector arg :: operators) dom.all =
      b.querySelectorAll dom arg >>= plainSelector b dom operators := by
  rw [← each_cssSelector hplain hall]
  rfl

theorem matchingElements_document (hne : selector ≠ []) (h : AllSupported selector)
    (hplain : StartsPlain b dom selector) (hall : dom.all ≠ []) :
    matchingElements b dom selector none = plainSelector b dom selector dom.all := by
  rcases matchingElements_cases b dom hne with ⟨arg, operators, rfl⟩ | hcompile
  · rw [matchingElements_shortcut h.2, plainSelector_cssSelector hplain hall]
  · rw [hcompile, compileAndApply_eq_plain hne h]

/-- The mode of `applyCompiledSelector` without nodes has the same shortcut. -/
theorem applyCompiledSelector_document {arg : String} {operators : List ProceduralOperator}
    (h : AllSupported (.text .cssSelector arg :: operators))
    (hplain : StartsPlain b dom (.text .cssSelector arg :: operators)) (hall : dom.all ≠ []) :
    (compileProceduralSelector b dom (.text .cssSelector arg :: operators) >>=
        (applyCompiledSelector b dom · none)) =
      plainSelector b dom (.text .cssSelector arg :: operators) dom.all := by
  rw [compileProceduralSelector_ok h, plainSelector_cssSelector hplain hall]
  have hrest : applyOperators (compiledOperators b dom operators) =
      plainSelector b dom operators := by
    funext nodes
    rw [applyOperators_eq, plainSelector_eq, operatorFuncs_eq_plain h.2]
  rw [← hrest]
  show ((b.querySelectorAll dom arg).map fun nodes => (1, nodes)) >>= _ = _
  cases b.querySelectorAll dom arg <;> rfl

theorem matchingElements_added_iff (hne : selector ≠ []) (h : AllSupported selector)
    (hplain : StartsPlain b dom selector) {added full : List ν}
    (hadded : ∀ element ∈ added, element ∈ dom.all)
    (hfull : matchingElements b dom selector none = .ok full) :
    ∃ selected, matchingElements b dom selector (some added) = .ok selected ∧
      ∀ element, element ∈ selected ↔ element ∈ full ∧ ∃ start ∈ added, ∃ found,
        compileAndApplyProceduralSelector b dom selector [start] = .ok found ∧ element ∈ found := by
  simp only [matchingElements_added hne, compileAndApply_eq_plain hne h, plainSelector_eq]
  by_cases hall : dom.all = []
  · -- Without elements in the document there are none that were added.
    obtain rfl : added = [] := List.eq_nil_iff_forall_not_mem.mpr fun element hmem =>
      List.not_mem_nil (hall ▸ hadded element hmem)
    exact ⟨[], through_nil _, by simp⟩
  · rw [matchingElements_document hne h hplain hall, plainSelector_eq] at hfull
    obtain ⟨selected, hselected⟩ := through_returns_of_subset hfull hadded
    refine ⟨selected, hselected, fun element => ?_⟩
    rw [mem_through hselected, mem_through hfull]
    constructor
    · rintro ⟨start, hstart, hreach⟩
      obtain ⟨found, hfound⟩ := through_returns_of_subset hselected
        (fun x hx => List.mem_singleton.mp hx ▸ hstart : ∀ x ∈ [start], x ∈ added)
      refine ⟨⟨start, hadded start hstart, hreach⟩, start, hstart, found, hfound, ?_⟩
      exact (mem_through hfound).mpr ⟨start, by simp, hreach⟩
    · rintro ⟨-, start, hstart, found, hfound, hmem⟩
      obtain ⟨x, hx, hreach⟩ := (mem_through hfound).mp hmem
      exact ⟨x, List.mem_singleton.mp hx ▸ hstart, hreach⟩

/-- The evaluator of a selector, all of whose parts have operators that are supported: it equals the
plain evaluation; it is additive; added elements select what the whole document selects from them;
and the shortcuts for a first CSS selector are the plain evaluation from all elements. -/
theorem evaluator_refines_plain (hne : selector ≠ []) (h : AllSupported selector) :
    (∀ nodes, compileAndApplyProceduralSelector b dom selector nodes =
      plainSelector b dom selector nodes) ∧
    (∀ xs ys zs, compileAndApplyProceduralSelector b dom selector (xs ++ ys) = .ok zs ↔
      ∃ as bs, compileAndApplyProceduralSelector b dom selector xs = .ok as ∧
        compileAndApplyProceduralSelector b dom selector ys = .ok bs ∧ zs = as ++ bs) ∧
    (StartsPlain b dom selector → ∀ added full, (∀ element ∈ added, element ∈ dom.all) →
      matchingElements b dom selector none = .ok full →
      ∃ selected, matchingElements b dom selector (some added) = .ok selected ∧
        ∀ element, element ∈ selected ↔ element ∈ full ∧ ∃ start ∈ added, ∃ found,
          compileAndApplyProceduralSelector b dom selector [start] = .ok found ∧
            element ∈ found) ∧
    ∀ arg operators, selector = .text .cssSelector arg :: operators →
      StartsPlain b dom selector → dom.all ≠ [] →
      compileAndApplyProceduralSelector b dom selector dom.all =
        b.querySelectorAll dom arg >>= plainSelector b dom operators ∧
      matchingElements b dom selector none =
        compileAndApplyProceduralSelector b dom selector dom.all ∧
      (compileProceduralSelector b dom selector >>= (applyCompiledSelector b dom · none)) =
        compileAndApplyProceduralSelector b dom selector dom.all := by
  refine ⟨compileAndApply_eq_plain hne h, ?_, ?_, ?_⟩
  · intro xs ys zs
    simp only [compileAndApply_eq_plain hne h, plainSelector_eq]
    exact through_append_ok
  · intro hplain added full hadded hfull
    exact matchingElements_added_iff hne h hplain hadded hfull
  · rintro arg operators rfl hplain hall
    rw [compileAndApply_eq_plain hne h]
    exact ⟨plainSelector_cssSelector hplain hall, matchingElements_document hne h hplain hall,
      applyCompiledSelector_document h hplain hall⟩

end Evaluator

section Pages

/-- A page of the elements 1, html, with the children 2, a div, and 4, a picture that is no HTML
element; the div may have the child 3, a span. -/
def pictureArea (hasSpan : Bool) : Dom Nat where
  nodeType n := if n = 0 then 9 else 1
  localName
    | 1 => "html"
    | 2 => "div"
    | 3 => "span"
    | _ => "svg"
  isHTMLElement n := n == 1 || n == 2 || n == 3
  attributes _ := []
  parentNode
    | 1 => some 0
    | 2 => some 1
    | 4 => some 1
    | 3 => if hasSpan then some 2 else none
    | _ => none
  children
    | 1 => [2, 4]
    | 2 => if hasSpan then [3] else []
    | _ => []
  descendants
    | 1 => if hasSpan then [2, 3, 4] else [2, 4]
    | 2 => if hasSpan then [3] else []
    | _ => []
  all := if hasSpan then [1, 2, 3, 4] else [1, 2, 4]
  depth
    | 1 => 1
    | 2 => 2
    | 3 => 3
    | 4 => 2
    | _ => 0
  depth_parent := by
    intro node parent h
    split at h <;> cases hasSpan <;> simp at h <;> subst h <;> decide

/-- A browser that knows type selectors, `:scope`, and `:scope` before a type selector below it. -/
def smallBrowser : Browser Nat where
  isValidSelector selector := selector.toList.head? != some '>'
  matchesSelector dom selector scope n :=
    if selector = ":scope" then scope.getD 1 == n
    else selector == dom.localName n || selector == ":scope " ++ dom.localName n
  innerText dom n := if dom.isHTMLElement n then .string "Ad" else .undefined
  entries _ _ := []
  styleValue _ _ _ _ := none
  matchMedia _ := true
  pathname := "/"
  search := ""
  evaluate _ _ _ := .ok []
  regExp _ _ := .ok fun _ => false

/-- `div:has(span)`, as a procedural selector. -/
def divWithSpan : ProceduralSelector :=
  [.text .cssSelector "div", .nested .has [.text .cssSelector " span"]]

theorem divWithSpan_plain :
    compileAndApplyProceduralSelector smallBrowser (pictureArea true) divWithSpan [2, 4, 2] =
      plainSelector smallBrowser (pictureArea true) divWithSpan [2, 4, 2] ∧
    (compileAndApplyProceduralSelector smallBrowser (pictureArea true) divWithSpan
      [2, 4, 2]).toOption = some [2, 2] := by
  refine ⟨(evaluator_refines_plain (by simp [divWithSpan]) ?_).1 _, by decide +kernel⟩
  simp [divWithSpan, AllSupported, ProceduralOperator.Supported]

/-- Without operators there is an exception; the whole document may throw where added elements do
not, for an element without text or for a selector that starts with a combinator; and `:scope` is
another element in the document's query. -/
theorem shortcuts_differ :
    ((compileAndApplyProceduralSelector smallBrowser (pictureArea true) [] [1]).toOption = none ∧
      (plainSelector smallBrowser (pictureArea true) [] [1]).toOption = some [1]) ∧
    ((matchingElements smallBrowser (pictureArea true) [.text .hasText "Ad"] none).toOption = none ∧
      (matchingElements smallBrowser (pictureArea true) [.text .hasText "Ad"]
        (some [2])).toOption = some [2]) ∧
    ((matchingElements smallBrowser (pictureArea true) [.text .cssSelector "> span"]
        none).toOption = none ∧
      (matchingElements smallBrowser (pictureArea true) [.text .cssSelector "> span"]
        (some [2])).toOption = some [3]) ∧
    (matchingElements smallBrowser (pictureArea true) [.text .cssSelector ":scope"]
        none).toOption = some [1] ∧
      (compileAndApplyProceduralSelector smallBrowser (pictureArea true)
        [.text .cssSelector ":scope"] [1, 2, 3, 4]).toOption = some [1, 2, 3, 4] := by
  decide +kernel

end Pages

end ChromiumAdblock
