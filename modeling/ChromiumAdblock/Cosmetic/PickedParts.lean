import ChromiumAdblock.Cosmetic.ElementPicker

/-! The compound selectors that the builders of the element picker stand for.  What is left of a
builder under a mask is the text of its compound selector, and the rules that an element gets can be
told from the document. -/

namespace ChromiumAdblock

section Texts

theorem toList_foldl_append {α : Type} (text : α → String) (xs : List α) (start : String) :
    (xs.foldl (fun selector x => selector ++ text x) start).toList =
      start.toList ++ xs.flatMap fun x => (text x).toList := by
  induction xs generalizing start with
  | nil => simp
  | cons x xs ih => simp [ih]

theorem toList_joinTexts_dot {texts : List String} (h : texts ≠ []) :
    ("." ++ joinTexts "." texts).toList = texts.flatMap fun text => '.' :: text.toList := by
  induction texts with
  | nil => exact absurd rfl h
  | cons text texts ih =>
    cases texts with
    | nil => simp [joinTexts]
    | cons next texts =>
      have hrest := ih (by simp)
      rw [List.flatMap_cons, ← hrest]
      simp [joinTexts]

theorem toList_joinTexts_child (texts : List String) :
    (joinTexts " > " texts).toList = Css.joinChild (texts.map String.toList) := by
  induction texts with
  | nil => rfl
  | cons text texts ih =>
    cases texts with
    | nil => rfl
    | cons next texts =>
      show (text ++ " > " ++ joinTexts " > " (next :: texts)).toList =
        text.toList ++ ' ' :: '>' :: ' ' :: Css.joinChild ((next :: texts).map String.toList)
      rw [← ih]
      simp

end Texts

section Compounds

variable {ν : Type} (doc : DocumentTree ν)

/-- The elements of a list that a compound selector finds, if it is one. -/
def DocumentTree.found [DecidableEq ν] (elements : List ν) (c : Css.Compound) : List ν :=
  if c.isEmpty then [] else elements.filter (doc.css.matchesCompound c.read)

namespace ElementSelectorBuilder

/-- The simple selectors that a rule stands for. -/
def simplesOf (builder : ElementSelectorBuilder ν) : PickerRule → List Css.Simple
  | .id _ => [.id (doc.id builder.elem)]
  | .classes _ => (doc.classList builder.elem).map .cls
  | .attributes value =>
    value.map fun rule => .attr rule.attr (attributeMatch doc builder rule.attr) rule.value
  | .nthOfType value => [.nthOfType value]

/-- The compound selector that is left of a builder. -/
def compound (builder : ElementSelectorBuilder ν) (mask : Nat) : Css.Compound where
  type := if builder.tag = "" then none else some (doc.localName builder.elem)
  simples := (builder.rules.filter (builder.keeps mask)).flatMap (builder.simplesOf doc)

/-- A rule has the values of its element, and is not empty. -/
def RuleOf (elem : ν) : PickerRule → Prop
  | .id value => value = cssEscape (doc.id elem) ∧ doc.id elem ≠ ""
  | .classes value => value = (doc.classList elem).map cssEscape ∧ value ≠ []
  | .attributes value => value ≠ [] ∧ ∀ rule ∈ value, rule.attr ≠ ""
  | .nthOfType _ => True

/-- A builder has the tag and the values of its element. -/
structure Faithful (builder : ElementSelectorBuilder ν) : Prop where
  isElement : doc.isElement builder.elem = true
  tag : builder.tag = "" ∨ builder.tag = cssEscape (doc.localName builder.elem)
  rules : ∀ rule ∈ builder.rules, RuleOf doc builder.elem rule

variable {doc} {builder : ElementSelectorBuilder ν}

@[simp] theorem keeps_id (builder : ElementSelectorBuilder ν) (mask : Nat) (value : String) :
    builder.keeps mask (.id value) = hasFlag mask SpecificityFlags.id := by
  simp [keeps, PickerRule.flag, SpecificityFlags.id, SpecificityFlags.classes]

@[simp] theorem keeps_classes (builder : ElementSelectorBuilder ν) (mask : Nat)
    (value : List String) : builder.keeps mask (.classes value) =
      (hasFlag mask SpecificityFlags.classes &&
        !(builder.hasId && hasFlag mask SpecificityFlags.id)) := by
  simp [keeps, PickerRule.flag]

@[simp] theorem keeps_attributes (builder : ElementSelectorBuilder ν) (mask : Nat)
    (value : List AttributeRule) :
    builder.keeps mask (.attributes value) = hasFlag mask SpecificityFlags.attributes := by
  simp [keeps, PickerRule.flag, SpecificityFlags.attributes, SpecificityFlags.classes]

@[simp] theorem keeps_nthOfType (builder : ElementSelectorBuilder ν) (mask value : Nat) :
    builder.keeps mask (.nthOfType value) = hasFlag mask SpecificityFlags.nthOfType := by
  simp [keeps, PickerRule.flag, SpecificityFlags.nthOfType, SpecificityFlags.classes]

theorem toList_ruleText {rule : PickerRule} (h : RuleOf doc builder.elem rule) :
    (ruleText doc builder rule).toList =
      (builder.simplesOf doc rule).flatMap Css.Simple.print := by
  cases rule with
  | id value =>
    obtain ⟨rfl, -⟩ := h
    simp [ruleText, simplesOf, cssEscape, Css.Simple.print]
  | classes value =>
    obtain ⟨rfl, hne⟩ := h
    rw [ruleText, toList_joinTexts_dot hne, simplesOf, List.flatMap_map, List.flatMap_map]
    simp [cssEscape, Css.Simple.print]
  | attributes value =>
    rw [ruleText, toList_foldl_append, simplesOf, List.flatMap_map]
    simp [attributeText, cssEscape, Css.Simple.print]
  | nthOfType value =>
    have hname : ":nth-of-type(".toList = ':' :: (Css.nthOfTypeName ++ ['(']) := by decide
    simp [ruleText, simplesOf, Css.Simple.print, hname]

/-- What is left of a builder is the text of its compound selector. -/
theorem toList_text (h : Faithful doc builder) (mask : Nat) :
    (builder.text doc mask).toList = (builder.compound doc mask).print := by
  have hrules : ∀ rules : List PickerRule, (∀ rule ∈ rules, RuleOf doc builder.elem rule) →
      (rules.flatMap fun rule => (ruleText doc builder rule).toList) =
        (rules.flatMap (builder.simplesOf doc)).flatMap Css.Simple.print := by
    intro rules hall
    rw [List.flatMap_assoc]
    exact List.flatMap_congr fun rule hrule => toList_ruleText (hall rule hrule)
  have htag : builder.tag.toList =
      (((builder.compound doc mask).type).map fun type => Css.escape type.toList).getD [] := by
    rw [compound]
    split
    · rename_i hempty
      simp [hempty]
    · rename_i hne
      rw [h.tag.resolve_left hne]
      simp [cssEscape]
  rw [text, ← List.foldl_filter, toList_foldl_append,
    hrules _ fun rule hrule => h.rules rule (List.mem_of_mem_filter hrule), htag]
  rfl

theorem text_eq (h : Faithful doc builder) (mask : Nat) :
    builder.text doc mask = String.ofList (builder.compound doc mask).print := by
  rw [← toList_text h, String.ofList_toList]

theorem wellFormed (h : Faithful doc builder) (mask : Nat) :
    (builder.compound doc mask).WellFormed := by
  refine ⟨?_, fun simple hsimple => ?_⟩
  · rw [compound]
    split
    · simp
    · exact fun e => doc.localName_ne builder.elem h.isElement (Option.some.inj e)
  · obtain ⟨rule, hrule, hsimple⟩ := List.mem_flatMap.mp hsimple
    have hrule := h.rules rule (List.mem_of_mem_filter hrule)
    cases rule with
    | id value =>
      obtain rfl := List.mem_singleton.mp hsimple
      exact hrule.2
    | classes value =>
      obtain ⟨name, hname, rfl⟩ := List.mem_map.mp hsimple
      exact doc.ne_empty_of_mem_classList hname
    | attributes value =>
      obtain ⟨rule, hmem, rfl⟩ := List.mem_map.mp hsimple
      exact hrule.2 rule hmem
    | nthOfType value =>
      obtain rfl := List.mem_singleton.mp hsimple
      trivial

/-- What the text of a builder finds is what its compound selector does. -/
theorem selectFrom_text [DecidableEq ν] (h : Faithful doc builder) (mask : Nat)
    (elements : List ν) :
    doc.selectFrom elements (builder.text doc mask) =
      if (builder.compound doc mask).isEmpty then .error (.invalidSelector (builder.text doc mask))
      else .ok (doc.found elements (builder.compound doc mask)) := by
  have hparse := Css.parse_chain (List.cons_ne_nil (builder.compound doc mask) [])
    (by simpa using wellFormed h mask)
  rw [List.map_singleton, Css.joinChild, ← text_eq h, List.any_cons, List.any_nil,
    Bool.or_false] at hparse
  rw [DocumentTree.selectFrom, hparse, DocumentTree.found]
  cases (builder.compound doc mask).isEmpty <;> rfl

end ElementSelectorBuilder

end Compounds

namespace DocumentTree

section Describing

variable {ν : Type} (doc : DocumentTree ν)

/-- The source of an image is a data URL without a comma. -/
def HasBareDataUrl (elem : ν) : Prop :=
  doc.localName elem = "img" ∧ ∃ source, trimmedAttribute doc elem "src" = some source ∧
    "data:".toList.isPrefixOf source = true ∧ ',' ∉ source

variable {doc} {elem : ν}

theorem splitOn_second_eq_none {source : List Char} :
    (source.splitOn ',')[1]? = none ↔ ',' ∉ source := by
  constructor
  · intro h hmem
    obtain ⟨before, after, rfl, hbefore⟩ := List.eq_append_cons_of_mem hmem
    rw [List.splitOn_append_cons_self_of_not_mem hbefore] at h
    simp at h
  · intro h
    rw [List.splitOn_eq_singleton h]
    rfl

theorem cssEscape_localName (h : doc.isElement elem = true) {name : String}
    (hname : '\\' ∉ name.toList) (hsame : cssEscape name = name) :
    cssEscape (doc.localName elem) = name ↔ doc.localName elem = name := by
  constructor
  · intro hescape
    have hlist := congrArg String.toList hescape
    rw [cssEscape, String.toList_ofList] at hlist
    have hread : Css.readName (doc.localName elem) = name := by
      rw [Css.readName, Css.map_readChar_of_escape hlist hname, String.ofList_toList]
    rwa [Css.readName_eq (doc.localName_chars elem h)] at hread
  · intro hlocal
    rw [hlocal, hsame]

theorem cssEscape_ne (h : doc.isElement elem = true) : cssEscape (doc.localName elem) ≠ "" := by
  intro hempty
  have hlist := congrArg String.toList hempty
  rw [cssEscape, String.toList_ofList] at hlist
  have hread := Css.map_readChar_of_escape hlist (by simp)
  exact doc.localName_ne elem h (by simpa using hread)

/-- An attribute rule is about one of three attributes. -/
theorem mem_attributeRule {attr : String} {value : Option (List Char)} {rule : AttributeRule}
    (h : rule ∈ attributeRule attr value) : rule.attr = attr := by
  unfold attributeRule at h
  split at h
  · cases h
  · split at h
    · cases h
    · obtain rfl := List.mem_singleton.mp h
      rfl

theorem describingAttributes_attr {tag : String} {attributes : List AttributeRule}
    (h : describingAttributes doc elem tag = .ok attributes) {rule : AttributeRule}
    (hrule : rule ∈ attributes) : rule.attr ∈ ["href", "src", "alt"] := by
  unfold describingAttributes at h
  split at h
  · obtain rfl := Except.ok.inj h
    simp [mem_attributeRule hrule]
  · split at h
    · obtain rfl := Except.ok.inj h
      simp [mem_attributeRule hrule]
    · split at h
      · split at h
        · obtain rfl := Except.ok.inj h
          simp [mem_attributeRule hrule]
        · rename_i source _
          cases hdata : imageSource source with
          | error e =>
            rw [hdata] at h
            cases h
          | ok data =>
            rw [hdata] at h
            obtain rfl := Except.ok.inj h
            split at hrule <;> simp [mem_attributeRule hrule]
      · obtain rfl := Except.ok.inj h
        cases hrule

/-- Only a data URL without a comma is no source. -/
theorem imageSource_spec (source : List Char) :
    (("data:".toList.isPrefixOf source = true ∧ ',' ∉ source) ∧
        imageSource source = .error (.readingUndefined "slice")) ∨
      (¬ ("data:".toList.isPrefixOf source = true ∧ ',' ∉ source) ∧
        ∃ data, imageSource source = .ok data) := by
  unfold imageSource
  split
  · rename_i hdata
    cases hsecond : (source.splitOn ',')[1]? with
    | none => exact .inl ⟨⟨hdata, splitOn_second_eq_none.mp hsecond⟩, rfl⟩
    | some data =>
      refine .inr ⟨fun hbare => ?_, _, rfl⟩
      rw [splitOn_second_eq_none.mpr hbare.2] at hsecond
      cases hsecond
  · rename_i hdata
    exact .inr ⟨fun hbare => hdata hbare.1, _, rfl⟩

/-- The description of an image fails with its source. -/
theorem describingAttributes_img (h : doc.localName elem = "img") :
    (HasBareDataUrl doc elem ∧
        describingAttributes doc elem "img" = .error (.readingUndefined "slice")) ∨
      (¬ HasBareDataUrl doc elem ∧
        ∃ attributes, describingAttributes doc elem "img" = .ok attributes) := by
  rw [describingAttributes, if_neg (by decide), if_neg (by decide), if_pos rfl]
  cases hsource : trimmedAttribute doc elem "src" with
  | none =>
    refine .inr ⟨?_, _, rfl⟩
    rintro ⟨-, source, hsome, -⟩
    rw [hsource] at hsome
    cases hsome
  | some source =>
    have hbare : HasBareDataUrl doc elem ↔
        "data:".toList.isPrefixOf source = true ∧ ',' ∉ source := by
      simp only [HasBareDataUrl, hsource, Option.some.injEq, exists_eq_left', h, true_and]
    rw [hbare]
    rcases imageSource_spec source with ⟨hdata, herror⟩ | ⟨hdata, data, hok⟩
    · refine .inl ⟨hdata, ?_⟩
      dsimp only
      rw [herror]
      rfl
    · refine .inr ⟨hdata, ?_⟩
      dsimp only
      rw [hok]
      exact ⟨_, rfl⟩

/-- Only images whose source is a data URL without a comma have no description. -/
theorem describingAttributes_spec (h : doc.isElement elem = true) :
    (HasBareDataUrl doc elem ∧ describingAttributes doc elem (cssEscape (doc.localName elem)) =
        .error (.readingUndefined "slice")) ∨
      (¬ HasBareDataUrl doc elem ∧ ∃ attributes,
        describingAttributes doc elem (cssEscape (doc.localName elem)) = .ok attributes) := by
  have himg : cssEscape (doc.localName elem) = "img" ↔ doc.localName elem = "img" :=
    cssEscape_localName h (by decide) (by decide)
  by_cases hlocal : doc.localName elem = "img"
  · rw [himg.mpr hlocal]
    exact describingAttributes_img hlocal
  · refine .inr ⟨fun hbare => hlocal hbare.1, ?_⟩
    unfold describingAttributes
    split
    · exact ⟨_, rfl⟩
    · split
      · exact ⟨_, rfl⟩
      · rw [if_neg fun e => hlocal (himg.mp e)]
        exact ⟨_, rfl⟩

end Describing

section Naming

open ElementSelectorBuilder

variable {ν : Type} [DecidableEq ν] (doc : DocumentTree ν)

/-- The elements below the parent of an element. -/
def belowParent (elem : ν) : List ν :=
  match doc.parentElement elem with
  | none => []
  | some parent => doc.descendants parent

/-- The id of an element is found once in the document. -/
def hasUsableId (elem : ν) : Bool :=
  doc.id elem ≠ "" && (found doc doc.all ⟨none, [.id (doc.id elem)]⟩).length = 1

/-- The attributes that describe an element without a usable id and classes. -/
def attributesTried (elem : ν) : List AttributeRule :=
  if hasUsableId doc elem || doc.classList elem ≠ [] then []
  else
    match describingAttributes doc elem (cssEscape (doc.localName elem)) with
    | .ok attributes => attributes
    | .error _ => []

/-- An image that only its source could describe, which is a data URL without a comma. -/
def ThrowingImage (elem : ν) : Prop :=
  hasUsableId doc elem = false ∧ doc.classList elem = [] ∧ HasBareDataUrl doc elem

def idRules (elem : ν) : List PickerRule :=
  if hasUsableId doc elem then [.id (cssEscape (doc.id elem))] else []

def classRules (elem : ν) : List PickerRule :=
  if doc.classList elem = [] then [] else [.classes ((doc.classList elem).map cssEscape)]

def attributeRules (elem : ν) : List PickerRule :=
  if attributesTried doc elem = [] then [] else [.attributes (attributesTried doc elem)]

/-- The builder of an element with its id and its classes. -/
def identified (elem : ν) : ElementSelectorBuilder ν where
  hasId := hasUsableId doc elem
  elem := elem
  rules := idRules doc elem ++ classRules doc elem

/-- The builder of an element, as long as its tag is not decided. -/
def named (elem : ν) : ElementSelectorBuilder ν :=
  { identified doc elem with rules := (identified doc elem).rules ++ attributeRules doc elem }

/-- How many elements below the parent of its element a builder finds. -/
def countFound (builder : ElementSelectorBuilder ν) : Nat :=
  (found doc (belowParent doc builder.elem) (builder.compound doc mostSpecificMask)).length

/-- An element has no rules, or they find others below its parent. -/
def needsTag (elem : ν) : Bool :=
  (named doc elem).rules = [] || 1 < countFound doc (named doc elem)

def tagged (elem : ν) : ElementSelectorBuilder ν :=
  (named doc elem).addTag (cssEscape (doc.localName elem))

/-- The tag does not single an element out. -/
def needsIndex (elem : ν) : Bool := needsTag doc elem && 1 < countFound doc (tagged doc elem)

/-- The builder that an element gets. -/
def builderOf (elem : ν) : ElementSelectorBuilder ν where
  hasId := hasUsableId doc elem
  elem := elem
  rules := (named doc elem).rules ++
    if needsIndex doc elem then
      [.nthOfType (siblingIndex doc elem (cssEscape (doc.localName elem)))]
    else []
  tag := if needsTag doc elem then cssEscape (doc.localName elem) else ""

variable {doc} {elem : ν}

theorem attributesTried_attr {rule : AttributeRule} (h : rule ∈ attributesTried doc elem) :
    rule.attr ∈ ["href", "src", "alt"] := by
  unfold attributesTried at h
  split at h
  · cases h
  · split at h
    · rename_i attributes hattributes
      exact describingAttributes_attr hattributes h
    · cases h

theorem id_ne_of_usable (h : hasUsableId doc elem = true) : doc.id elem ≠ "" := by
  simp only [hasUsableId, Bool.and_eq_true, decide_eq_true_eq] at h
  exact h.1

theorem found_of_usable (h : hasUsableId doc elem = true) :
    (found doc doc.all ⟨none, [.id (doc.id elem)]⟩).length = 1 := by
  simp only [hasUsableId, Bool.and_eq_true, decide_eq_true_eq] at h
  exact h.2

theorem ruleOf_named {rule : PickerRule} (h : rule ∈ (named doc elem).rules) :
    RuleOf doc elem rule := by
  rcases List.mem_append.mp h with h | h
  · rcases List.mem_append.mp h with h | h
    · unfold idRules at h
      split at h
      · rename_i husable
        obtain rfl := List.mem_singleton.mp h
        exact ⟨rfl, id_ne_of_usable husable⟩
      · cases h
    · unfold classRules at h
      split at h
      · cases h
      · obtain rfl := List.mem_singleton.mp h
        exact ⟨rfl, by simpa⟩
  · unfold attributeRules at h
    split at h
    · cases h
    · rename_i hne
      obtain rfl := List.mem_singleton.mp h
      refine ⟨hne, fun rule hrule => ?_⟩
      rintro hempty
      exact absurd (hempty ▸ attributesTried_attr hrule) (by decide)

theorem faithful_named (h : doc.isElement elem = true) : Faithful doc (named doc elem) :=
  ⟨h, .inl rfl, fun _ hrule => ruleOf_named hrule⟩

theorem faithful_tagged (h : doc.isElement elem = true) : Faithful doc (tagged doc elem) :=
  ⟨h, .inr rfl, fun _ hrule => ruleOf_named hrule⟩

theorem faithful_builderOf (h : doc.isElement elem = true) : Faithful doc (builderOf doc elem) := by
  refine ⟨h, ?_, fun rule hrule => ?_⟩
  · cases htag : needsTag doc elem with
    | true => exact .inr (if_pos htag)
    | false => exact .inl (if_neg (by simp [htag]))
  · rcases List.mem_append.mp hrule with hrule | hrule
    · exact ruleOf_named hrule
    · split at hrule
      · obtain rfl := List.mem_singleton.mp hrule
        trivial
      · cases hrule

theorem countBelowParent_text {builder : ElementSelectorBuilder ν} (h : Faithful doc builder) :
    countBelowParent doc builder.elem (builder.text doc mostSpecificMask) =
      countFound doc builder := by
  unfold countBelowParent countFound belowParent
  cases doc.parentElement builder.elem with
  | none => simp [found]
  | some parent =>
    simp only [selectFrom_text h]
    split
    · rename_i found hfound
      split at hfound
      · cases hfound
      · obtain rfl := Except.ok.inj hfound
        rfl
    · rename_i hfailed
      split at hfailed
      · rename_i hempty
        simp [found, hempty]
      · cases hfailed

theorem withId_eq (h : doc.isElement elem = true) :
    withId doc { elem := elem } =
      .ok { hasId := hasUsableId doc elem, elem := elem, rules := idRules doc elem } := by
  unfold withId idRules
  by_cases hid : doc.id elem = ""
  · have hnot : hasUsableId doc elem = false := by simp [hasUsableId, hid]
    simp [hid, hnot]
  · have hfaithful : Faithful doc (ElementSelectorBuilder.mk true elem
        [.id (cssEscape (doc.id elem))] "") :=
      ⟨h, .inl rfl, by simpa [RuleOf] using hid⟩
    have hfull : hasFlag mostSpecificMask SpecificityFlags.id = true := by decide
    have hselect := selectFrom_text hfaithful mostSpecificMask doc.all
    have htext : (ElementSelectorBuilder.mk true elem [.id (cssEscape (doc.id elem))] "").text doc
        mostSpecificMask = "#" ++ cssEscape (doc.id elem) := by
      simp [text, ruleText, hfull]
    have hcompound : (ElementSelectorBuilder.mk true elem [.id (cssEscape (doc.id elem))]
        "").compound doc mostSpecificMask = ⟨none, [.id (doc.id elem)]⟩ := by
      simp [compound, simplesOf, hfull]
    rw [htext, hcompound] at hselect
    rw [if_neg hid, querySelectorAll, hselect]
    cases husable : hasUsableId doc elem with
    | true =>
      have hone : (found doc doc.all ⟨none, [.id (doc.id elem)]⟩).length = 1 := by
        simpa [hasUsableId, hid] using husable
      simp [Css.Compound.isEmpty, bind, Except.bind, hone]
      rfl
    | false =>
      have hnone : (found doc doc.all ⟨none, [.id (doc.id elem)]⟩).length ≠ 1 := by
        simpa [hasUsableId, hid] using husable
      simp [Css.Compound.isEmpty, bind, Except.bind, hnone]
      rfl

theorem withClasses_eq :
    withClasses doc { hasId := hasUsableId doc elem, elem := elem, rules := idRules doc elem } =
      identified doc elem := by
  unfold withClasses addRule identified classRules
  cases hclasses : doc.classList elem with
  | nil => simp [PickerRule.isEmptyArray]
  | cons name names => simp [PickerRule.isEmptyArray, PickerRule.isId]

theorem size_eq_zero : (identified doc elem).size = 0 ↔
    hasUsableId doc elem = false ∧ doc.classList elem = [] := by
  unfold size identified idRules classRules
  cases hasUsableId doc elem <;> cases doc.classList elem <;> simp

/-- What the rules are before the tag is decided. -/
theorem withAttributes_spec (h : doc.isElement elem = true) :
    (ThrowingImage doc elem ∧
        withAttributes doc (identified doc elem) (cssEscape (doc.localName elem)) =
          .error (.readingUndefined "slice")) ∨
      (¬ ThrowingImage doc elem ∧
        withAttributes doc (identified doc elem) (cssEscape (doc.localName elem)) =
          .ok (named doc elem)) := by
  unfold withAttributes
  by_cases hsize : (identified doc elem).size = 0
  · obtain ⟨husable, hclasses⟩ := size_eq_zero.mp hsize
    have hthrowing : ThrowingImage doc elem ↔ HasBareDataUrl doc elem := by
      simp [ThrowingImage, husable, hclasses]
    rw [if_pos hsize, hthrowing]
    rcases describingAttributes_spec h with ⟨hbare, herror⟩ | ⟨hbare, attributes, hok⟩
    · refine .inl ⟨hbare, ?_⟩
      show (describingAttributes doc elem _ >>= _) = _
      rw [herror]
      rfl
    · refine .inr ⟨hbare, ?_⟩
      have htried : attributesTried doc elem = attributes := by
        simp [attributesTried, husable, hclasses, hok]
      show (describingAttributes doc elem _ >>= _) = _
      rw [hok]
      unfold named attributeRules addRule
      rw [htried]
      cases attributes with
      | nil => simp [PickerRule.isEmptyArray, bind, Except.bind, pure, Except.pure]
      | cons rule rules =>
        simp [PickerRule.isEmptyArray, PickerRule.isId, bind, Except.bind, pure, Except.pure]
  · have hnot : ¬ (hasUsableId doc elem = false ∧ doc.classList elem = []) :=
      fun hboth => hsize (size_eq_zero.mpr hboth)
    have htried : attributesTried doc elem = [] := by
      unfold attributesTried
      rw [if_pos]
      cases husable : hasUsableId doc elem <;> simp_all
    refine .inr ⟨fun hthrowing => hnot ⟨hthrowing.1, hthrowing.2.1⟩, ?_⟩
    rw [if_neg hsize, named, attributeRules, if_pos htried, List.append_nil]

theorem withTag_eq (h : doc.isElement elem = true) :
    withTag doc (named doc elem) (cssEscape (doc.localName elem)) = builderOf doc elem := by
  have hnamed := countBelowParent_text (faithful_named h)
  have htagged := countBelowParent_text (faithful_tagged h)
  have hneeds : ((named doc elem).size = 0 || 1 < countBelowParent doc (named doc elem).elem
      ((named doc elem).text doc mostSpecificMask)) = needsTag doc elem := by
    rw [hnamed, needsTag, size]
    simp
  have hindex : (1 < countBelowParent doc ((named doc elem).addTag
      (cssEscape (doc.localName elem))).elem (((named doc elem).addTag
        (cssEscape (doc.localName elem))).text doc mostSpecificMask)) ↔
      1 < countFound doc (tagged doc elem) := by
    rw [← htagged]
    rfl
  unfold withTag
  simp only [hneeds, hindex]
  unfold builderOf needsIndex
  cases htag : needsTag doc elem with
  | false => simp [named, identified]
  | true =>
    by_cases hmore : 1 < countFound doc (tagged doc elem)
    · simp [hmore, named, identified, addTag, addRule, PickerRule.isEmptyArray, PickerRule.isId]
    · simp [hmore, named, identified, addTag]

/-- The builder of an element is known beforehand, unless the element is an image that throws. -/
theorem cssSelectorFromElement_ok (h : doc.isElement elem = true)
    (hthrowing : ¬ ThrowingImage doc elem) :
    cssSelectorFromElement doc elem = .ok (builderOf doc elem) := by
  have hattributes := (withAttributes_spec h).resolve_left fun hthrows => hthrowing hthrows.1
  simp only [cssSelectorFromElement, withId_eq h, bind, Except.bind, withClasses_eq,
    hattributes.2, withTag_eq h]
  rfl

theorem cssSelectorFromElement_error (h : doc.isElement elem = true)
    (hthrowing : ThrowingImage doc elem) :
    cssSelectorFromElement doc elem = .error (.readingUndefined "slice") := by
  have hattributes := (withAttributes_spec h).resolve_right fun hreturns => hreturns.1 hthrowing
  simp only [cssSelectorFromElement, withId_eq h, bind, Except.bind, withClasses_eq,
    hattributes.2]

end Naming

section Parts

open ElementSelectorBuilder

variable {ν : Type} [DecidableEq ν] (doc : DocumentTree ν) (mask : Nat) (elem : ν)

/-- The compound selector that is left of the builder of an element. -/
def part : Css.Compound := (builderOf doc elem).compound doc mask

/-- The id, by which an element is picked rather than by its classes. -/
def keptId : List Css.Simple :=
  if hasUsableId doc elem && hasFlag mask SpecificityFlags.id then [.id (doc.id elem)] else []

def keptClasses : List Css.Simple :=
  if hasFlag mask SpecificityFlags.classes &&
      !(hasUsableId doc elem && hasFlag mask SpecificityFlags.id) then
    (doc.classList elem).map .cls
  else []

def keptAttributes : List Css.Simple :=
  if hasFlag mask SpecificityFlags.attributes then
    (attributesTried doc elem).map fun rule =>
      .attr rule.attr (attributeMatch doc { elem := elem } rule.attr) rule.value
  else []

def keptIndex : List Css.Simple :=
  if needsIndex doc elem && hasFlag mask SpecificityFlags.nthOfType then
    [.nthOfType (siblingIndex doc elem (cssEscape (doc.localName elem)))]
  else []

variable {doc mask elem}

theorem part_type (h : doc.isElement elem = true) :
    (part doc mask elem).type = if needsTag doc elem then some (doc.localName elem) else none := by
  unfold part compound builderOf
  cases needsTag doc elem <;> simp [cssEscape_ne h]

theorem part_simples : (part doc mask elem).simples =
    keptId doc mask elem ++ keptClasses doc mask elem ++ keptAttributes doc mask elem ++
      keptIndex doc mask elem := by
  have hid : ((idRules doc elem).filter ((builderOf doc elem).keeps mask)).flatMap
      ((builderOf doc elem).simplesOf doc) = keptId doc mask elem := by
    unfold idRules keptId
    cases hasUsableId doc elem <;> cases hflag : hasFlag mask SpecificityFlags.id <;>
      simp [hflag, simplesOf, builderOf]
  have hclasses : ((classRules doc elem).filter ((builderOf doc elem).keeps mask)).flatMap
      ((builderOf doc elem).simplesOf doc) = keptClasses doc mask elem := by
    unfold classRules keptClasses
    by_cases hempty : doc.classList elem = []
    · simp [hempty]
    · rw [if_neg hempty, List.filter_singleton, keeps_classes]
      show List.flatMap _ (bif (_ && !(hasUsableId doc elem && _)) then _ else _) = _
      cases hasFlag mask SpecificityFlags.classes &&
        !(hasUsableId doc elem && hasFlag mask SpecificityFlags.id) <;> simp [simplesOf, builderOf]
  have hattributes : ((attributeRules doc elem).filter ((builderOf doc elem).keeps mask)).flatMap
      ((builderOf doc elem).simplesOf doc) = keptAttributes doc mask elem := by
    unfold attributeRules keptAttributes
    by_cases hempty : attributesTried doc elem = []
    · simp [hempty]
    · rw [if_neg hempty, List.filter_singleton, keeps_attributes]
      cases hasFlag mask SpecificityFlags.attributes <;>
        simp [simplesOf, builderOf, attributeMatch]
  have hindex : ((if needsIndex doc elem then
      [PickerRule.nthOfType (siblingIndex doc elem (cssEscape (doc.localName elem)))]
      else []).filter ((builderOf doc elem).keeps mask)).flatMap
      ((builderOf doc elem).simplesOf doc) = keptIndex doc mask elem := by
    unfold keptIndex
    cases needsIndex doc elem <;> cases hflag : hasFlag mask SpecificityFlags.nthOfType <;>
      simp [hflag, simplesOf]
  show (((idRules doc elem ++ classRules doc elem ++ attributeRules doc elem ++ _).filter
    ((builderOf doc elem).keeps mask)).flatMap ((builderOf doc elem).simplesOf doc)) = _
  rw [List.filter_append, List.filter_append, List.filter_append, List.flatMap_append,
    List.flatMap_append, List.flatMap_append, hid, hclasses, hattributes, hindex]

variable (doc mask elem)

/-- Something is left of the builder of an element. -/
def isLeft : Bool :=
  needsTag doc elem || (hasUsableId doc elem && hasFlag mask SpecificityFlags.id) ||
    (doc.classList elem ≠ [] && hasFlag mask SpecificityFlags.classes) ||
    (attributesTried doc elem ≠ [] && hasFlag mask SpecificityFlags.attributes)

/-- What is left of the builder of an element is true of the element. -/
structure Describes : Prop where
  tag : needsTag doc elem = true →
    doc.css.nameFor elem (doc.localName elem) = doc.localName elem
  id : hasUsableId doc elem = true → hasFlag mask SpecificityFlags.id = true →
    ∀ c ∈ (doc.id elem).toList, c.toNat ≠ 0
  classes : hasFlag mask SpecificityFlags.classes = true →
    (hasUsableId doc elem && hasFlag mask SpecificityFlags.id) = false →
    ∀ name ∈ doc.classList elem, ∃ other ∈ doc.classList elem,
      doc.css.sameIdent other (Css.readName name) = true
  attributes : hasFlag mask SpecificityFlags.attributes = true →
    ∀ rule ∈ attributesTried doc elem, ∃ actual, doc.getAttribute elem rule.attr = some actual ∧
      (attributeMatch doc { elem := elem } rule.attr).holds actual (Css.readName rule.value) = true
  index : needsIndex doc elem = true → hasFlag mask SpecificityFlags.nthOfType = true →
    siblingIndex doc elem (cssEscape (doc.localName elem)) = doc.css.typeIndex elem

variable {doc mask elem}

theorem isEmpty_part (h : doc.isElement elem = true) :
    (part doc mask elem).isEmpty = !isLeft doc mask elem := by
  have hindex : needsTag doc elem = false → needsIndex doc elem = false := by
    intro htag
    rw [needsIndex, htag, Bool.false_and]
  rw [Css.Compound.isEmpty, part_type h, part_simples, isLeft]
  cases htag : needsTag doc elem with
  | true => simp
  | false =>
    unfold keptId keptClasses keptAttributes keptIndex
    rw [hindex htag]
    cases hasUsableId doc elem <;> cases hasFlag mask SpecificityFlags.id <;>
      cases hasFlag mask SpecificityFlags.classes <;>
      cases hasFlag mask SpecificityFlags.attributes <;> cases doc.classList elem <;>
      cases attributesTried doc elem <;> simp

/-- The most specific mask leaves something of each builder. -/
theorem isLeft_mostSpecific : isLeft doc mostSpecificMask elem = true := by
  have hid : hasFlag mostSpecificMask SpecificityFlags.id = true := by decide
  have hclasses : hasFlag mostSpecificMask SpecificityFlags.classes = true := by decide
  have hattributes : hasFlag mostSpecificMask SpecificityFlags.attributes = true := by decide
  rw [isLeft, hid, hclasses, hattributes]
  by_cases hrules : (named doc elem).rules = []
  · have htag : needsTag doc elem = true := by simp [needsTag, hrules]
    rw [htag]
    rfl
  · cases husable : hasUsableId doc elem with
    | true => simp
    | false =>
      by_cases hnames : doc.classList elem = []
      · by_cases htried : attributesTried doc elem = []
        · simp [named, identified, idRules, classRules, attributeRules, husable, hnames,
            htried] at hrules
        · simp [htried]
      · simp [hnames]

theorem isEmpty_mostSpecific (h : doc.isElement elem = true) :
    (part doc mostSpecificMask elem).isEmpty = false := by
  rw [isEmpty_part h, isLeft_mostSpecific]
  rfl

theorem nameFor_attr {name : String} (h : name ∈ ["href", "src", "alt"]) :
    doc.css.nameFor elem name = name := by
  have hlower : ∀ name ∈ ["href", "src", "alt"], Css.lowercase name = name := by decide
  rw [Css.Document.nameFor]
  split
  · exact hlower name h
  · rfl

theorem matches_type (h : doc.isElement elem = true) :
    (part doc mask elem).read.type.all (doc.css.matchesType elem) = true ↔
      (needsTag doc elem = true →
        doc.css.nameFor elem (doc.localName elem) = doc.localName elem) := by
  have hread : Css.readName (doc.localName elem) = doc.localName elem :=
    Css.readName_eq (doc.localName_chars elem h)
  rw [Css.Compound.read, part_type h]
  cases needsTag doc elem with
  | false => simp
  | true =>
    show (doc.localName elem == doc.css.nameFor elem (Css.readName (doc.localName elem))) = _ ↔ _
    rw [hread, beq_iff_eq, imp_iff_right rfl]
    exact ⟨Eq.symm, Eq.symm⟩

theorem matches_keptId :
    (keptId doc mask elem).all (fun simple => doc.css.matchesSimple elem simple.read) = true ↔
      (hasUsableId doc elem = true → hasFlag mask SpecificityFlags.id = true →
        ∀ c ∈ (doc.id elem).toList, c.toNat ≠ 0) := by
  unfold keptId
  cases husable : hasUsableId doc elem with
  | false => simp
  | true =>
    obtain ⟨value, hvalue⟩ :=
      Option.isSome_iff_exists.mp (doc.hasId_of_id_ne (id_ne_of_usable husable))
    have hid : doc.id elem = value := by simp [Dom.id, hvalue]
    cases hasFlag mask SpecificityFlags.id with
    | false => simp
    | true =>
      rw [Bool.and_true, if_pos rfl, List.all_cons, List.all_nil, Bool.and_true, imp_iff_right rfl,
        imp_iff_right rfl]
      show (doc.getAttribute elem "id").any
        (doc.css.sameIdent · (Css.readName (doc.id elem))) = true ↔ _
      rw [hvalue, Option.any_some, hid, Css.Document.sameIdent_readName]

theorem matches_keptClasses :
    (keptClasses doc mask elem).all (fun simple => doc.css.matchesSimple elem simple.read) = true ↔
      (hasFlag mask SpecificityFlags.classes = true →
        (hasUsableId doc elem && hasFlag mask SpecificityFlags.id) = false →
        ∀ name ∈ doc.classList elem, ∃ other ∈ doc.classList elem,
          doc.css.sameIdent other (Css.readName name) = true) := by
  unfold keptClasses
  cases hasFlag mask SpecificityFlags.classes with
  | false => simp
  | true =>
    cases hasUsableId doc elem && hasFlag mask SpecificityFlags.id with
    | true => simp
    | false => simp [Css.Simple.read, Css.Document.matchesSimple, css]

theorem matches_keptAttributes :
    (keptAttributes doc mask elem).all (fun simple => doc.css.matchesSimple elem simple.read) =
      true ↔ (hasFlag mask SpecificityFlags.attributes = true →
        ∀ rule ∈ attributesTried doc elem, ∃ actual, doc.getAttribute elem rule.attr = some actual ∧
          (attributeMatch doc { elem := elem } rule.attr).holds actual
            (Css.readName rule.value) = true) := by
  have hplain : ∀ name ∈ ["href", "src", "alt"], Css.readName name = name := by decide
  unfold keptAttributes
  cases hasFlag mask SpecificityFlags.attributes with
  | false => simp
  | true =>
    rw [if_pos rfl, List.all_map, List.all_eq_true, imp_iff_right rfl]
    refine forall₂_congr fun rule hrule => ?_
    have hattr := attributesTried_attr hrule
    show (doc.getAttribute elem (doc.css.nameFor elem (Css.readName rule.attr))).any _ = _ ↔ _
    rw [hplain _ hattr, nameFor_attr hattr, Option.any_eq_true]

theorem matches_keptIndex :
    (keptIndex doc mask elem).all (fun simple => doc.css.matchesSimple elem simple.read) = true ↔
      (needsIndex doc elem = true → hasFlag mask SpecificityFlags.nthOfType = true →
        siblingIndex doc elem (cssEscape (doc.localName elem)) = doc.css.typeIndex elem) := by
  unfold keptIndex
  cases needsIndex doc elem with
  | false => simp
  | true =>
    cases hasFlag mask SpecificityFlags.nthOfType with
    | false => simp
    | true =>
      rw [Bool.and_true, if_pos rfl, List.all_cons, List.all_nil, Bool.and_true, imp_iff_right rfl,
        imp_iff_right rfl]
      show (doc.css.typeIndex elem == _) = true ↔ _
      rw [beq_iff_eq]
      exact ⟨Eq.symm, Eq.symm⟩

/-- What is left of a builder matches its element exactly when it is true of it. -/
theorem matches_part (h : doc.isElement elem = true) :
    doc.css.matchesCompound (part doc mask elem).read elem = true ↔ Describes doc mask elem := by
  have hsimples : (part doc mask elem).read.simples.all (doc.css.matchesSimple elem) =
      (part doc mask elem).simples.all fun simple => doc.css.matchesSimple elem simple.read :=
    List.all_map
  rw [Css.Document.matchesCompound, Bool.and_eq_true, matches_type h, hsimples, part_simples]
  simp only [List.all_append, Bool.and_eq_true, matches_keptId, matches_keptClasses,
    matches_keptAttributes, matches_keptIndex]
  constructor
  · rintro ⟨htag, ⟨⟨hid, hclasses⟩, hattributes⟩, hindex⟩
    exact ⟨htag, hid, hclasses, hattributes, hindex⟩
  · rintro ⟨htag, hid, hclasses, hattributes, hindex⟩
    exact ⟨htag, ⟨⟨hid, hclasses⟩, hattributes⟩, hindex⟩

end Parts

end DocumentTree

end ChromiumAdblock
