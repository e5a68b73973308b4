import ChromiumAdblock.Base.JsText
import ChromiumAdblock.Cosmetic.Dom
import ChromiumAdblock.Lib.Pipeline

/-! Procedural selectors: the operators of `content_cosmetic.ts`, their compilation, and the
evaluation of a compiled selector.  What the browser itself decides (CSS selectors, regular
expressions, XPath, styles, the rendered text) is a parameter; what the DOM standard says of the
functions that ask for it is defined here. -/

namespace ChromiumAdblock

/-- An exception. -/
structure JsError where
  name : String
  message : String
deriving DecidableEq, Repr

namespace JsError

def error (message : String) : JsError := ⟨"Error", message⟩
def typeError (message : String) : JsError := ⟨"TypeError", message⟩
def invalidSelector (selector : String) : JsError :=
  ⟨"SyntaxError", "'" ++ selector ++ "' is not a valid selector."⟩

/-- A property of `undefined` is read. -/
def readingUndefined (property : String) : JsError :=
  typeError ("Cannot read properties of undefined (reading '" ++ property ++ "')")

end JsError

/-- A value that a rule is matched against. -/
inductive JsValue
  | undefined
  | string (value : String)
  | other

/-- What the browser decides about the nodes of a document. -/
structure Browser (ν : Type) where
  /-- Whether a CSS selector can be parsed. -/
  isValidSelector : String → Bool
  /-- Whether an element matches a valid selector in which `:scope` is a given element, or the root
  of the document. -/
  matchesSelector : Dom ν → String → Option ν → ν → Bool
  innerText : Dom ν → ν → JsValue
  /-- `Object.entries`. -/
  entries : Dom ν → ν → List (String × JsValue)
  /-- `getComputedStyle(..).getPropertyValue(..)`. -/
  styleValue : Dom ν → ν → Option String → String → Option String
  matchMedia : String → Bool
  pathname : String
  search : String
  /-- The nodes that `document.evaluate` iterates over. -/
  evaluate : Dom ν → String → ν → Except JsError (List ν)
  /-- `new RegExp(..)`, and whether `match` with it finds anything. -/
  regExp : String → Option String → Except JsError (String → Bool)

namespace Browser

variable {ν : Type} (b : Browser ν) (dom : Dom ν)

/-- `Element.matches`. -/
def matchesElement (selector : String) (element : ν) : Except JsError Bool :=
  if b.isValidSelector selector then .ok (b.matchesSelector dom selector (some element) element)
  else .error (.invalidSelector selector)

/-- `Element.querySelectorAll`. -/
def querySelectorAllBelow (selector : String) (element : ν) : Except JsError (List ν) :=
  if b.isValidSelector selector then
    .ok ((dom.descendants element).filter (b.matchesSelector dom selector (some element)))
  else .error (.invalidSelector selector)

/-- `Document.querySelectorAll`. -/
def querySelectorAll (selector : String) : Except JsError (List ν) :=
  if b.isValidSelector selector then .ok (dom.all.filter (b.matchesSelector dom selector none))
  else .error (.invalidSelector selector)

end Browser

inductive OperatorType
  | contains
  | cssSelector
  | has
  | hasText
  | matchesAttr
  | matchesCss
  | matchesCssAfter
  | matchesCssBefore
  | matchesMedia
  | matchesPath
  | matchesProperty
  | minTextLength
  | not
  | upward
  | xpath
  /-- A type that `ruleTypeToFuncMap` lacks. -/
  | other (name : String)
deriving DecidableEq

/-- An operator whose argument is a text, or a selector. -/
inductive ProceduralOperator
  | text (type : OperatorType) (arg : String)
  | nested (type : OperatorType) (arg : List ProceduralOperator)

def ProceduralOperator.type : ProceduralOperator → OperatorType
  | .text type _ | .nested type _ => type

abbrev ProceduralSelector := List ProceduralOperator

section Texts

variable {ν : Type} (b : Browser ν)

def compileRegEx (regexText : String) : Except JsError (String → Bool) :=
  let regexParts := regexText.toList.splitOn '/'
  b.regExp (String.ofList (regexParts.getD 1 [])) (regexParts[2]?.map String.ofList)

def testMatches (test : String) (value : JsValue) (isExact : Bool) : Except JsError Bool :=
  match test.toList, value with
  | '/' :: _, .undefined => .error (.readingUndefined "match")
  | '/' :: _, .string value => do return (← compileRegEx b test) value
  | '/' :: _, .other => do
    let _ ← compileRegEx b test
    .error (.typeError "value.match is not a function")
  | [], .undefined => .error (.readingUndefined "trim")
  | [], .string value => .ok (JsText.trim value.toList).isEmpty
  | [], .other => .error (.typeError "value.trim is not a function")
  | needle, .string value =>
    .ok (if isExact then value == test else JsText.includes value.toList needle)
  | _, .undefined => if isExact then .ok false else .error (.readingUndefined "includes")
  | _, .other =>
    if isExact then .ok false else .error (.typeError "value.includes is not a function")

/-- `_extractKeyFromStr`: the key, and where the value starts. -/
def extractKeyFromStr (text : String) : Except JsError (String × Option Nat) :=
  let isQuotedCase := text.toList.head? == some '"'
  let terminator := if isQuotedCase then ['"', '='] else ['=']
  let needlePosition := if isQuotedCase then 1 else 0
  match JsText.indexOf terminator (text.toList.drop needlePosition) with
  | some index =>
    .ok (String.ofList ((text.toList.drop needlePosition).take index),
      some (needlePosition + index + terminator.length))
  | none =>
    if !isQuotedCase then .ok (text, none)
    else if text.toList.getLast? != some '"' then
      .error (.error ("Quoted value '" ++ text ++ "' does not terminate with quote"))
    else .ok (String.ofList (JsText.slice text.toList 1 (text.toList.length - 1)), none)

def extractValueFromStr (text : String) (uriEncode : Bool) (needlePosition : Nat) :
    Except JsError String :=
  let isQuotedCase := text.toList[needlePosition]? == some '"'
  let encode (value : List Char) : String :=
    String.ofList (if uriEncode then JsText.encodeNonAscii value else value)
  if !isQuotedCase then .ok (encode (text.toList.drop needlePosition))
  else if text.toList.getLast? != some '"' then
    .error (.error ("Unable to parse value rule from " ++ text ++
      ". Value rule starts with \" but doesn't end with \""))
  else .ok (encode (JsText.slice text.toList (needlePosition + 1) (text.toList.length - 1)))

/-- `_extractValueMatchRuleFromStr`, and the rule on a value. -/
def matchesValueRule (text : String) (uriEncode : Bool) (value : JsValue) :
    Except JsError Bool := do
  let testCaseStr ← extractValueFromStr text uriEncode 0
  testMatches b testCaseStr value false

/-- The two rules of `_parseKeyValueMatchRules`; the second may be undefined. -/
structure KeyValueMatchRules where
  key : String
  value : Option String

def parseKeyValueMatchRules (arg : String) : Except JsError KeyValueMatchRules := do
  let (key, needlePosition) ← extractKeyFromStr arg
  match needlePosition with
  | none => return { key := key, value := none }
  | some needlePosition =>
    let value ← extractValueFromStr arg false needlePosition
    return { key := key, value := some value }

/-- Whether the rules match a name and a value. -/
def KeyValueMatchRules.matchesPair (rules : KeyValueMatchRules) (name : String) (value : JsValue) :
    Except JsError Bool := do
  if ← testMatches b rules.key (.string name) true then
    match rules.value with
    | none => return true
    | some rule => testMatches b rule value true
  else return false

def parseCSSInstruction (arg : String) : Except JsError (String × String) :=
  match arg.toList.splitOn ':' with
  | [key, value] => .ok (String.ofList (JsText.trim key), String.ofList (JsText.trim value))
  | _ => .error (.error ("Unexpected format for a CSS rule: " ++ arg))

end Texts

section Operators

variable {ν : Type} [DecidableEq ν] (b : Browser ν) (dom : Dom ν)

/-- The element, if a test holds. -/
def keepIf (test : Except JsError Bool) (element : ν) : Except JsError (List ν) :=
  test.map fun keep => if keep then [element] else []

def allOtherSiblings (element : ν) : List ν :=
  match dom.parentNode element with
  | none => []
  | some parent =>
    (dom.children parent).filter fun sibling => sibling ≠ element && dom.isHTMLElement sibling

/-- `_nextSiblingElement`.  An element that its parent does not list has the position before the
first. -/
def nextSiblingElement (element : ν) : Option ν :=
  match dom.parentNode element with
  | none => none
  | some parent =>
    let siblings := dom.children parent
    let next := if element ∈ siblings then siblings[siblings.idxOf element + 1]? else siblings[0]?
    next.filter dom.isHTMLElement

def allChildren (element : ν) : List ν := (dom.children element).filter dom.isHTMLElement

def allChildrenRecursive (element : ν) : List ν :=
  (dom.descendants element).filter dom.isHTMLElement

/-- `_stripCssOperator` of a selector that starts with the operator. -/
def stripCssOperator (selector : List Char) : String :=
  String.ofList (JsText.trimStart selector.tail)

def operatorCssSelector (selector : String) (element : ν) : Except JsError (List ν) :=
  let trimmedSelector := JsText.trimStart selector.toList
  match trimmedSelector with
  | '+' :: _ =>
    match nextSiblingElement dom element with
    | none => .ok []
    | some sibling =>
      keepIf (b.matchesElement dom (stripCssOperator trimmedSelector) sibling) sibling
  | '~' :: _ =>
    (allOtherSiblings dom element).filterM
      (b.matchesElement dom (stripCssOperator trimmedSelector))
  | '>' :: _ =>
    (allChildren dom element).filterM (b.matchesElement dom (stripCssOperator trimmedSelector))
  | _ =>
    if selector.toList.head? = some ' ' then
      b.querySelectorAllBelow dom (":scope " ++ String.ofList trimmedSelector) element
    else keepIf (b.matchesElement dom selector element) element

def hasPlainSelectorCase (selector : String) (element : ν) : Except JsError (List ν) :=
  keepIf (b.matchesElement dom selector element) element

/-- `_hasProceduralSelectorCase`, with the evaluation of the selector. -/
def hasProceduralSelectorCase (selector : ProceduralSelector)
    (evaluate : List ν → Except JsError (List ν)) (element : ν) : Except JsError (List ν) :=
  let shouldBeGreedy := selector.head?.map ProceduralOperator.type ≠ some .cssSelector
  let initElements := if shouldBeGreedy then allChildrenRecursive dom element else [element]
  keepIf ((evaluate initElements).map fun found => !found.isEmpty) element

def operatorHasText (instruction : String) (element : ν) : Except JsError (List ν) :=
  keepIf (matchesValueRule b instruction false (b.innerText dom element)) element

def notPlainSelectorCase (selector : String) (element : ν) : Except JsError (List ν) :=
  keepIf ((b.matchesElement dom selector element).map not) element

/-- `_notProceduralSelectorCase`, with the evaluation of the selector. -/
def notProceduralSelectorCase (evaluate : List ν → Except JsError (List ν)) (element : ν) :
    Except JsError (List ν) :=
  keepIf ((evaluate [element]).map List.isEmpty) element

def operatorMatchesProperty (instruction : String) (element : ν) : Except JsError (List ν) := do
  let rules ← parseKeyValueMatchRules instruction
  keepIf ((b.entries dom element).anyM fun entry => rules.matchesPair b entry.1 entry.2) element

/-- A comparison with `NaN` never holds, so no argument is rejected. -/
def operatorMinTextLength (instruction : String) (element : ν) : Except JsError (List ν) :=
  match b.innerText dom element with
  | .string text =>
    .ok (if (JsNumber.ofString instruction).isAtMost (JsText.length (JsText.trim text.toList)) then
      [element] else [])
  | .undefined => .error (.readingUndefined "trim")
  | .other => .error (.typeError "element.innerText.trim is not a function")

def operatorMatchesAttr (instruction : String) (element : ν) : Except JsError (List ν) := do
  let rules ← parseKeyValueMatchRules instruction
  keepIf ((dom.attributes element).anyM fun entry =>
    rules.matchesPair b entry.1 (.string ((dom.getAttribute element entry.1).getD ""))) element

def operatorMatchesCSS (beforeOrAfter : Option String) (cssInstruction : String) (element : ν) :
    Except JsError (List ν) := do
  let (cssKey, expectedVal) ← parseCSSInstruction cssInstruction
  match b.styleValue dom element beforeOrAfter cssKey with
  | none => return []
  | some styleValue =>
    if expectedVal.toList.head? = some '/' ∧ expectedVal.toList.getLast? = some '/' then
      keepIf ((compileRegEx b expectedVal).map fun regex => regex styleValue) element
    else keepIf (.ok (expectedVal = styleValue)) element

def operatorMatchesMedia (instruction : String) (element : ν) : Except JsError (List ν) :=
  keepIf (.ok (b.matchMedia instruction)) element

def operatorMatchesPath (instruction : String) (element : ν) : Except JsError (List ν) :=
  keepIf (matchesValueRule b instruction true (.string (b.pathname ++ b.search))) element

def upwardIntCase (intNeedle : Int) (element : ν) : Except JsError (List ν) :=
  if intNeedle < 1 ∨ intNeedle ≥ 256 then
    .error (.error ("upward: invalid arg, " ++ toString intNeedle))
  else .ok ((dom.inclusiveAncestors element)[intNeedle.toNat]?.filter dom.isHTMLElement).toList

/-- The loop of the other two cases: the nearest element that a test holds of, up to the first node
that is no HTML element. -/
def nearestUpward (test : ν → Except JsError Bool) : List ν → Except JsError (List ν)
  | [] => .ok []
  | needle :: above =>
    if !dom.isHTMLElement needle then .ok []
    else do
      if ← test needle then return [needle]
      else nearestUpward test above

/-- `_upwardProceduralSelectorCase`, with the evaluation of the compiled selector. -/
def upwardProceduralSelectorCase (evaluate : List ν → Except JsError (List ν)) (element : ν) :
    Except JsError (List ν) :=
  nearestUpward dom (fun needle => (evaluate [needle]).map fun found => !found.isEmpty)
    (dom.inclusiveAncestors element)

def upwardPlainSelectorCase (selector : String) (element : ν) : Except JsError (List ν) :=
  nearestUpward dom (b.matchesElement dom selector) (dom.inclusiveAncestors element)

def operatorXPath (instruction : String) (element : ν) : Except JsError (List ν) :=
  (b.evaluate dom instruction element).map fun nodes => nodes.filter dom.isHTMLElement

/-- The function of an operator whose argument is a text. -/
def textOperatorFunc (type : OperatorType) (arg : String) (element : ν) :
    Except JsError (List ν) :=
  match type with
  | .contains | .hasText => operatorHasText b dom arg element
  | .cssSelector => operatorCssSelector b dom arg element
  | .has => hasPlainSelectorCase b dom arg element
  | .matchesAttr => operatorMatchesAttr b dom arg element
  | .matchesCss => operatorMatchesCSS b dom none arg element
  | .matchesCssAfter => operatorMatchesCSS b dom (some "::after") arg element
  | .matchesCssBefore => operatorMatchesCSS b dom (some "::before") arg element
  | .matchesMedia => operatorMatchesMedia b arg element
  | .matchesPath => operatorMatchesPath b arg element
  | .matchesProperty => operatorMatchesProperty b dom arg element
  | .minTextLength => operatorMinTextLength b dom arg element
  | .not => notPlainSelectorCase b dom arg element
  | .upward =>
    match (JsNumber.ofString arg).toInteger with
    | some intNeedle => upwardIntCase dom intNeedle element
    | none => upwardPlainSelectorCase b dom arg element
  | .xpath => operatorXPath b dom arg element
  | .other name => .error (.error ("Not sure what to do with operator of type " ++ name))

end Operators

/-- A compiled operator: the operator with its function. -/
structure CompiledProceduralOperator (ν : Type) where
  operator : ProceduralOperator
  func : ν → Except JsError (List ν)

abbrev CompiledProceduralSelector (ν : Type) := List (CompiledProceduralOperator ν)

def fastPathOperatorTypes : List OperatorType := [.matchesMedia, .matchesPath]

section Evaluation

variable {ν : Type} [DecidableEq ν] (b : Browser ν) (dom : Dom ν)

def determineInitNodesAndIndex (selector : CompiledProceduralSelector ν)
    (initNodes : Option (List ν)) : Except JsError (Nat × List ν) :=
  match selector with
  | [] => .error (.readingUndefined "type")
  | firstOperator :: _ =>
    match initNodes, firstOperator.operator with
    | some initNodes, _ => .ok (0, initNodes)
    | none, .text .cssSelector arg => (b.querySelectorAll dom arg).map fun nodes => (1, nodes)
    | none, .text .xpath arg =>
      -- `document.documentElement` is the first element of the document.
      match dom.all.head? with
      | none => .error (.typeError "parameter 2 is not of type 'Node'.")
      | some documentElement =>
        (operatorXPath b dom arg documentElement).map fun nodes => (1, nodes)
    | none, _ => .ok (0, dom.all.filter dom.isHTMLElement)

/-- The loop of `applyCompiledSelector`. -/
def applyOperators : CompiledProceduralSelector ν → List ν → Except JsError (List ν)
  | [], nodesToConsider => .ok nodesToConsider
  | _ :: _, [] => .ok []
  | operator :: operators, firstNode :: nodes =>
    if operator.operator.type ∈ fastPathOperatorTypes then do
      let result ← operator.func firstNode
      applyOperators operators (if result.isEmpty then [] else firstNode :: nodes)
    else do
      let newNodesToConsider ← Pipeline.each operator.func (firstNode :: nodes)
      applyOperators operators newNodesToConsider

def applyCompiledSelector (selector : CompiledProceduralSelector ν)
    (initNodes : Option (List ν)) : Except JsError (List ν) := do
  let (index, nodesToConsider) ← determineInitNodesAndIndex b dom selector initNodes
  applyOperators (selector.drop index) nodesToConsider

mutual

/-- The function that `compileProceduralSelector` binds for an operator. -/
def operatorFunc : ProceduralOperator → ν → Except JsError (List ν)
  | .text type arg, element => textOperatorFunc b dom type arg element
  | .nested .has arg, element =>
    hasProceduralSelectorCase dom arg (fun nodes => do
      applyCompiledSelector b dom (← compileProceduralSelector arg) (some nodes)) element
  | .nested .not arg, element =>
    notProceduralSelectorCase (fun nodes => do
      applyCompiledSelector b dom (← compileProceduralSelector arg) (some nodes)) element
  -- `+[]` is 0, which is an integer.
  | .nested .upward [], element => upwardIntCase dom 0 element
  | .nested .upward (operator :: operators), element => do
    let childFilter ← compileProceduralSelector (operator :: operators)
    upwardProceduralSelectorCase dom (fun nodes =>
      applyCompiledSelector b dom childFilter (some nodes)) element
  | .nested _ _, _ => .error (.typeError "The argument of the operator is not a text.")

def compileProceduralSelector :
    List ProceduralOperator → Except JsError (CompiledProceduralSelector ν)
  | [] => .ok []
  | operator :: operators =>
    match operator.type with
    | .other name => .error (.error ("Not sure what to do with operator of type " ++ name))
    | _ => do
      let compiled ← compileProceduralSelector operators
      return { operator := operator, func := operatorFunc operator } :: compiled

end

def compileAndApplyProceduralSelector (selector : ProceduralSelector) (initElements : List ν) :
    Except JsError (List ν) := do
  applyCompiledSelector b dom (← compileProceduralSelector b dom selector) (some initElements)

/-- The elements that `executeProceduralActions` acts on for a filter with a selector. -/
def matchingElements (selector : ProceduralSelector) (added : Option (List ν)) :
    Except JsError (List ν) :=
  match selector with
  | [] => .error (.readingUndefined "type")
  | firstOperator :: operators =>
    match added, firstOperator with
    | some added, _ => compileAndApplyProceduralSelector b dom selector added
    | none, .text .cssSelector arg => do
      let elements ← b.querySelectorAll dom arg
      if operators.isEmpty then .ok elements
      else compileAndApplyProceduralSelector b dom operators elements
    | none, _ => compileAndApplyProceduralSelector b dom selector dom.all

end Evaluation

end ChromiumAdblock
