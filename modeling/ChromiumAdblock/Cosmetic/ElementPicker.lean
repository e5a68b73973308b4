import ChromiumAdblock.Cosmetic.DomTree
import ChromiumAdblock.Cosmetic.ProceduralSelectors
import ChromiumAdblock.Lib.CssMatching

/-! The selectors that the element picker proposes for an element of a page: one builder for each
element up to the body, and the text of their rules that a slider position leaves. -/

namespace ChromiumAdblock

def htmlNamespace : String := "http://www.w3.org/1999/xhtml"

/-- The tree of a document, with what selectors ask about it beyond the DOM. -/
structure DocumentTree (ν : Type) extends Dom ν where
  tree : toDom.IsTree
  isHTMLDocument : Bool
  isQuirky : Bool
  namespaceURI : ν → String
  isHTMLElement_iff : ∀ x, toDom.isElement x = true →
    (isHTMLElement x = true ↔ namespaceURI x = htmlNamespace)
  document : ν
  isElement_document : toDom.isElement document = false
  mem_all : ∀ x, x ∈ all ↔ toDom.isElement x = true ∧ document ∈ toDom.above x
  all_nodup : all.Nodup
  body : Option ν
  localName_ne : ∀ x, toDom.isElement x = true → localName x ≠ ""
  /-- No name of an element has U+0000. -/
  localName_chars : ∀ x, toDom.isElement x = true → ∀ c ∈ (localName x).toList, c.toNat ≠ 0

namespace DocumentTree

variable {ν : Type} [DecidableEq ν] (doc : DocumentTree ν)

def parentElement (x : ν) : Option ν := (doc.parentNode x).filter doc.isElement

/-- The document that CSS selectors are matched in. -/
def css : Css.Document ν where
  isHTMLDocument := doc.isHTMLDocument
  isQuirky := doc.isQuirky
  isHTML := doc.isHTMLElement
  localName := doc.localName
  namespaceURI := doc.namespaceURI
  attr := doc.getAttribute
  classes := doc.classList
  parentElement := doc.parentElement
  before := doc.siblingsBefore

/-- The elements of a list that a selector matches. -/
def selectFrom (elements : List ν) (selector : String) : Except JsError (List ν) :=
  match Css.parse selector with
  | none => .error (.invalidSelector selector)
  | some chain => .ok (elements.filter (doc.css.matches chain))

/-- `document.querySelectorAll`. -/
def querySelectorAll (selector : String) : Except JsError (List ν) :=
  doc.selectFrom doc.all selector

end DocumentTree

/-- `CSS.escape`. -/
def cssEscape (text : String) : String := String.ofList (Css.escape text.toList)

/-- `join`. -/
def joinTexts (separator : String) : List String → String
  | [] => ""
  | [text] => text
  | text :: texts => text ++ separator ++ joinTexts separator texts

namespace SpecificityFlags

def id : Nat := 1 <<< 0
def hierarchy : Nat := 1 <<< 1
def attributes : Nat := 1 <<< 2
def classes : Nat := 1 <<< 3
def nthOfType : Nat := 1 <<< 4

end SpecificityFlags

def mostSpecificMask : Nat := 0b11111

/-- Whether a mask has a flag. -/
def hasFlag (mask flag : Nat) : Bool := mask &&& flag ≠ 0

structure AttributeRule where
  attr : String
  value : String
deriving DecidableEq, Repr

/-- A rule of a builder: the `Selector` that it is, with its value. -/
inductive PickerRule
  | id (value : String)
  | classes (value : List String)
  | attributes (value : List AttributeRule)
  | nthOfType (value : Nat)
deriving DecidableEq, Repr

namespace PickerRule

/-- The value is an empty array. -/
def isEmptyArray : PickerRule → Bool
  | .classes value => value.isEmpty
  | .attributes value => value.isEmpty
  | .id _ | .nthOfType _ => false

def isId : PickerRule → Bool
  | .id _ => true
  | _ => false

/-- The flag that lets a mask keep the rule. -/
def flag : PickerRule → Nat
  | .id _ => SpecificityFlags.id
  | .classes _ => SpecificityFlags.classes
  | .attributes _ => SpecificityFlags.attributes
  | .nthOfType _ => SpecificityFlags.nthOfType

end PickerRule

structure ElementSelectorBuilder (ν : Type) where
  hasId : Bool := false
  elem : ν
  rules : List PickerRule := []
  tag : String := ""

namespace ElementSelectorBuilder

variable {ν : Type} [DecidableEq ν] (doc : DocumentTree ν) (builder : ElementSelectorBuilder ν)

def addRule (rule : PickerRule) : ElementSelectorBuilder ν :=
  if rule.isEmptyArray then builder
  else { builder with
    hasId := builder.hasId || rule.isId
    rules := builder.rules ++ [rule] }

def addTag (tag : String) : ElementSelectorBuilder ν := { builder with tag := tag }

def size : Nat := builder.rules.length

/-- How an attribute is compared.  It is the name of the attribute, not the value of the rule, that
is held against the value of the attribute. -/
def attributeMatch (attr : String) : Css.AttributeMatch :=
  match doc.getAttribute builder.elem attr with
  | none => .contains
  | some sourceAttr =>
    if attr = sourceAttr then .equals
    else if sourceAttr.toList.isPrefixOf attr.toList then .startsWith
    else .contains

def attributeText (rule : AttributeRule) : String :=
  "[" ++ cssEscape rule.attr ++ String.ofList (attributeMatch doc builder rule.attr).print ++
    "\"" ++ cssEscape rule.value ++ "\"]"

/-- What a rule adds to a selector. -/
def ruleText : PickerRule → String
  | .id value => "#" ++ value
  | .classes value => "." ++ joinTexts "." value
  | .attributes value =>
    value.foldl (fun selector rule => selector ++ attributeText doc builder rule) ""
  | .nthOfType value => ":nth-of-type(" ++ toString value ++ ")"

/-- A rule that `toString` does not pass over. -/
def keeps (mask : Nat) (rule : PickerRule) : Bool :=
  hasFlag mask rule.flag &&
    !(builder.hasId && hasFlag mask SpecificityFlags.id && rule.flag = SpecificityFlags.classes)

/-- `toString`. -/
def text (mask : Nat) : String :=
  builder.rules.foldl (fun selector rule =>
    if builder.keeps mask rule then selector ++ ruleText doc builder rule else selector) builder.tag

end ElementSelectorBuilder

section Building

variable {ν : Type} [DecidableEq ν] (doc : DocumentTree ν)

/-- Half of the surrogate pair that `slice` cuts stays: CSS reads U+FFFD for it. -/
def sliceUnits : Nat → List Char → List Char
  | _, [] => []
  | limit, c :: rest =>
    let units := if c.toNat < 0x10000 then 1 else 2
    if limit = 0 then []
    else if units ≤ limit then c :: sliceUnits (limit - units) rest
    else [Css.replacement]

/-- `getAttribute(..)?.trim()`, without the empty string. -/
def trimmedAttribute (elem : ν) (name : String) : Option (List Char) :=
  ((doc.getAttribute elem name).map fun value => JsText.trim value.toList).filter (· ≠ [])

/-- The source of an image: of a data URL, what comes after the first comma. -/
def imageSource (source : List Char) : Except JsError (List Char) :=
  if "data:".toList.isPrefixOf source then
    match (source.splitOn ',')[1]? with
    | none => .error (.readingUndefined "slice")
    | some data => .ok (sliceUnits 256 data)
  else .ok source

/-- The rule for an attribute, unless its value is empty. -/
def attributeRule (attr : String) (value : Option (List Char)) : List AttributeRule :=
  match value with
  | none => []
  | some value => if value = [] then [] else [⟨attr, String.ofList value⟩]

/-- The attributes that describe an element with a tag. -/
def describingAttributes (elem : ν) (tag : String) : Except JsError (List AttributeRule) :=
  if tag = "a" then
    .ok (attributeRule "href" ((trimmedAttribute doc elem "href").map fun url =>
      url.takeWhile fun c => c ≠ '?' && c ≠ '#'))
  else if tag = "iframe" then
    .ok (attributeRule "src" ((trimmedAttribute doc elem "src").map (sliceUnits 256)))
  else if tag = "img" then
    match trimmedAttribute doc elem "src" with
    | none => .ok (attributeRule "alt" (trimmedAttribute doc elem "alt"))
    | some source => do
      let data ← imageSource source
      return if data = [] then attributeRule "alt" (trimmedAttribute doc elem "alt")
        else attributeRule "src" (some data)
  else .ok []

/-- An id that is the id of one element only is a rule. -/
def withId (builder : ElementSelectorBuilder ν) : Except JsError (ElementSelectorBuilder ν) :=
  if doc.id builder.elem = "" then .ok builder
  else do
    let named ← doc.querySelectorAll ("#" ++ cssEscape (doc.id builder.elem))
    return if named.length = 1 then builder.addRule (.id (cssEscape (doc.id builder.elem)))
      else builder

def withClasses (builder : ElementSelectorBuilder ν) : ElementSelectorBuilder ν :=
  builder.addRule (.classes ((doc.classList builder.elem).map cssEscape))

/-- Attributes are only tried without other rules. -/
def withAttributes (builder : ElementSelectorBuilder ν) (tag : String) :
    Except JsError (ElementSelectorBuilder ν) :=
  if builder.size = 0 then do
    let attributes ← describingAttributes doc builder.elem tag
    return builder.addRule (.attributes attributes)
  else .ok builder

/-- `querySelectorNoExcept`, on the parent of an element: how many elements are found. -/
def countBelowParent (elem : ν) (selector : String) : Nat :=
  match doc.parentElement elem with
  | none => 0
  | some parent =>
    match doc.selectFrom (doc.descendants parent) selector with
    | .ok found => found.length
    | .error _ => 0

/-- The index among the siblings, whose local names are compared with the escaped tag. -/
def siblingIndex (elem : ν) (tag : String) : Nat :=
  (doc.siblingsBefore elem).foldl (fun index sibling =>
    if doc.localName sibling = tag then index + 1 else index) 1

/-- The tag is added where the rules alone do not single the element out below its parent, and the
index where the tag does not help. -/
def withTag (builder : ElementSelectorBuilder ν) (tag : String) : ElementSelectorBuilder ν :=
  if builder.size = 0 ||
      1 < countBelowParent doc builder.elem (builder.text doc mostSpecificMask) then
    let builder := builder.addTag tag
    if 1 < countBelowParent doc builder.elem (builder.text doc mostSpecificMask) then
      builder.addRule (.nthOfType (siblingIndex doc builder.elem tag))
    else builder
  else builder

def cssSelectorFromElement (elem : ν) : Except JsError (ElementSelectorBuilder ν) := do
  let builder ← withId doc { elem := elem }
  let tag := cssEscape (doc.localName elem)
  let builder ← withAttributes doc (withClasses doc builder) tag
  return withTag doc builder tag

end Building

section Picking

variable {ν : Type} [DecidableEq ν] (doc : DocumentTree ν)

def specificityMasks : List Nat := [0b01101, 0b11101, 0b01011, 0b10011, 0b11111]

/-- The mask at a position of the slider. -/
def maskAt (index : Fin 5) : Nat := specificityMasks.getD index mostSpecificMask

/-- The elements from the selected one up to the body. -/
def elementsUp (selected : ν) : List ν :=
  (doc.inclusiveAncestors selected).takeWhile fun x => doc.isElement x && some x ≠ doc.body

/-- The elements that builders are made for. -/
def consideredElements (mask : Nat) (selected : ν) : List ν :=
  if hasFlag mask SpecificityFlags.hierarchy then elementsUp doc selected else [selected]

/-- Whether the loop over the builders ends at one: it has an id, or what is left of it is the
selector of one element.  A text that is no selector does not end it. -/
def stopsAt (mask : Nat) (builder : ElementSelectorBuilder ν) : Bool :=
  hasFlag mask SpecificityFlags.id && builder.hasId ||
    match doc.querySelectorAll (builder.text doc mask) with
    | .ok found => found.length = 1
    | .error _ => false

/-- What is left of the builders up to the one at which the loop ends. -/
def chainText (mask : Nat) (builders : List (ElementSelectorBuilder ν)) : String :=
  let i := builders.findIdx (stopsAt doc mask)
  joinTexts " > " ((builders.take (i + 1)).reverse.map fun b => b.text doc mask)

def onTargetSelected (lastHoveredElem : Option ν) (selected : ν) (index : Fin 5) :
    Except JsError String :=
  match lastHoveredElem with
  | none => .ok ""
  | some _ => do
    let mask := maskAt index
    let builders ← (consideredElements doc mask selected).mapM (cssSelectorFromElement doc)
    return chainText doc mask builders

/-- What `elementPickerUserSelectedTarget` answers. -/
structure PickedTarget where
  isValid : Bool
  selector : String
deriving DecidableEq, Repr

def elementPickerUserSelectedTarget (lastHoveredElem : Option ν) (specificity : Fin 5) :
    Except JsError PickedTarget :=
  match lastHoveredElem.filter doc.isHTMLElement with
  | none => .ok ⟨false, ""⟩
  | some elem => do
    let selector ← onTargetSelected doc lastHoveredElem elem specificity
    return ⟨selector ≠ "", String.ofList (JsText.trim selector.toList)⟩

end Picking

end ChromiumAdblock
